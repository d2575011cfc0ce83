import ClusterImport.Api.Connection
import ClusterImport.Api.Discovery
import ClusterImport.Client
import ClusterImport.Kubeconfig
import ClusterImport.Naming
/-!
The import's calls as requests to Kubernetes APIs. The client for a workload cluster comes from the
kubeconfig in the secret that Cluster API writes beside the cluster. An object is created on it
where the server says that objects of its kind belong.
-/
namespace ClusterImport.Api

/-- The server that a client for a workload cluster talks to: the one at hand, or one that a
kubeconfig names and to which no connection leads. -/
inductive Route
  | direct
  | named (server : Uri)
deriving DecidableEq, Repr

variable {σ α : Type}

namespace Route

def connection (send : Connection σ) : Route → Connection σ
  | direct => send
  | named _ => unreachable

end Route

def lookup (send : Connection σ) (type : ResourceType) (d : Decode.Decoder α)
    (inNamespace : Option String) (name : String) (s : σ) : Except KubeError (Option α) × σ :=
  let (result, s) :=
    exchange send d (Request.get (Collection.ofType type inNamespace) name) s
  (found result, s)

def placeOf (type : ResourceType) (metadata : ObjectMeta) : Except KubeError Collection :=
  match metadata.inNamespace with
  | some ns => .ok (Collection.ofType type (some ns))
  | none => .error (.api (.failure 400 "BadRequest" s!"{metadata.anyName} has no namespace"))

def createIn (send : Connection σ) (type : ResourceType) (metadata : ObjectMeta)
    (d : Decode.Decoder α) (object : Json) : Exchange σ α :=
  exchange send d ((placeOf type metadata).bind fun c => Request.create c object)

def decodeCreated (v : Json) : Option Unit := do
  let ms ← Decode.members v
  let _ ← Decode.orDefault {} ObjectMeta.decode "metadata" ms

def createObject (send : Connection σ) (o : Manifest.Object) : Exchange σ Unit := do
  let (group, version) := o.groupVersion
  let apiVersion := if group.isEmpty then version else group ++ "/" ++ version
  let offer ← exchange send Offer.decode (Request.types (!group.isEmpty) apiVersion)
  match offer.collection? o.kind o.inNamespace with
  | none => throw .discovery
  | some c => exchange send decodeCreated (Request.create c (.obj o.payload))

def kubeconfigKey : String := "value"

def kubeconfigOf (place : String) (secret : Secret) : Except KubeconfigError Kubeconfig :=
  match (secret.data.getD []).get? kubeconfigKey with
  | none => .error (.noKey place kubeconfigKey)
  | some octets =>
    match (String.fromUTF8? ⟨octets.toArray⟩).bind Kubeconfig.ofText? with
    | none => .error (.unreadable place)
    | some config => .ok config

def routeOf (place : String) (secret : Secret) : Except KubeconfigError Route := do
  let config ← kubeconfigOf place secret
  match config.server? with
  | none => .error .unusable
  | some server => .ok (.named server)

def workloadRoute (send : Connection σ) (cluster : CapiCluster) (s : σ) :
    Except ControllerError Route × σ :=
  match cluster.metadata.inNamespace with
  | none =>
    (.error (.invalidResource s!"cluster {cluster.metadata.anyName} has no namespace"), s)
  | some ns =>
    let name := Naming.kubeconfigSecret cluster.metadata.anyName
    let (secret, s) := exchange send Secret.decode
      (Request.get (Collection.ofType Secret.resourceType (some ns)) name) s
    (match secret with
      | .error e => .error (.kube e)
      | .ok secret => (routeOf (ns ++ "/" ++ name) secret).mapError .kubeconfig, s)

/-- Makes each call over a connection. No manifest can be had over it. -/
def answer (send : Connection σ) : (c : Call Route) → σ → c.Answer × σ
  | .getCapiCluster key, s =>
    lookup send CapiCluster.resourceType CapiCluster.decode (some key.inNamespace) key.name s
  | .getNamespace name, s => lookup send Namespace.resourceType Namespace.decode none name s
  | .patchCapiCluster key patch, s =>
    let collection := Collection.ofType CapiCluster.resourceType (some key.inNamespace)
    let (result, s) :=
      exchange send CapiCluster.decode (Request.mergePatch collection key.name patch) s
    (result.map fun _ => (), s)
  | .getRancherCluster key, s =>
    lookup send RancherCluster.resourceType RancherCluster.decode (some key.inNamespace) key.name s
  | .createRancherCluster c, s =>
    createIn send RancherCluster.resourceType c.metadata RancherCluster.decode c.encode s
  | .getRegistrationToken key, s =>
    lookup send RegistrationToken.resourceType RegistrationToken.decode (some key.inNamespace)
      key.name s
  | .createRegistrationToken t, s =>
    createIn send RegistrationToken.resourceType t.metadata RegistrationToken.decode t.encode s
  | .fetchManifest _, s => (.error .download, s)
  | .workloadClient cluster, s => workloadRoute send cluster s
  | .createObject route o, s => createObject (route.connection send) o s

def environment (send : Connection σ) : Environment Route σ := ⟨answer send, fun _ s => s⟩

def run (send : Connection σ) (p : Import Route α) (s : σ) : Except ControllerError α × σ :=
  Proc.run (environment send) p.run s

end ClusterImport.Api
