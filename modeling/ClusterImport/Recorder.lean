import ClusterImport.Store
/-!
Clients in memory for rehearsing the import: every write and every request is recorded, patches are
recorded only, and a create of an object that is there is refused. Objects on the workload cluster
are told apart by kind and name.
-/
namespace ClusterImport

structure Recorder where
  clusters : List (ObjectKey × CapiCluster) := []
  ranchers : List (ObjectKey × RancherCluster) := []
  tokens : List (ObjectKey × RegistrationToken) := []
  namespaces : Dict Namespace := []
  manifests : Dict String := []
  existing : List (String × String) := []
  failing : List (String × String) := []
  failsGet : Bool := false
  failsPatch : Bool := false
  failsClient : Bool := false
  patches : List (ObjectKey × Json) := []
  createdClusters : List RancherCluster := []
  createdTokens : List RegistrationToken := []
  createCalls : List (String × String) := []
  clientRequests : List String := []
  fetched : List String := []
deriving Repr

namespace Recorder

def alreadyExists (name : String) : KubeError :=
  .api (.failure 409 "AlreadyExists" s!"{name} already exists")

def addCluster (r : Recorder) (c : CapiCluster) : Recorder :=
  { r with clusters := (c.metadata.key, c) :: r.clusters }

def addRancher (r : Recorder) (c : RancherCluster) : Recorder :=
  { r with ranchers := (c.metadata.key, c) :: r.ranchers }

def addToken (r : Recorder) (t : RegistrationToken) : Recorder :=
  { r with tokens := (t.metadata.key, t) :: r.tokens }

def addNamespace (r : Recorder) (ns : Namespace) : Recorder :=
  { r with namespaces := Dict.insert ns.metadata.anyName ns r.namespaces }

def addManifest (r : Recorder) (url text : String) : Recorder :=
  { r with manifests := Dict.insert url text r.manifests }

/-- Creates an object on the workload cluster; one with a generated name is never there already. -/
def createObject (r : Recorder) (o : Manifest.Object) : Except KubeError Unit × Recorder :=
  let id := (o.kind, o.displayName)
  let r := { r with createCalls := r.createCalls ++ [id] }
  if r.failing.contains id then
    (.error (.api (.failure 500 "InternalError" "admission webhook failed")), r)
  else if o.name.isNone then (.ok (), r)
  else if r.existing.contains id then (.error (alreadyExists s!"{o.kind} {o.displayName}"), r)
  else (.ok (), { r with existing := id :: r.existing })

def answer : (c : Call Unit) → Recorder → c.Answer × Recorder
  | .getCapiCluster key, r =>
    if r.failsGet then (.error (.api (.failure 500 "InternalError" "etcd unavailable")), r)
    else (.ok (r.clusters.lookup key), r)
  | .getNamespace name, r => (.ok (r.namespaces.get? name), r)
  | .patchCapiCluster key patch, r =>
    let r := { r with patches := r.patches ++ [(key, patch)] }
    if r.failsPatch then
      (.error (.api (.failure 409 "Conflict" s!"the object {key.render} has been modified")), r)
    else (.ok (), r)
  | .getRancherCluster key, r => (.ok (r.ranchers.lookup key), r)
  | .createRancherCluster cluster, r =>
    let key := cluster.metadata.key
    if (r.ranchers.lookup key).isSome then (.error (alreadyExists key.render), r)
    else
      (.ok cluster, { r.addRancher cluster with createdClusters := r.createdClusters ++ [cluster] })
  | .getRegistrationToken key, r => (.ok (r.tokens.lookup key), r)
  | .createRegistrationToken token, r =>
    let key := token.metadata.key
    if (r.tokens.lookup key).isSome then (.error (alreadyExists key.render), r)
    else (.ok token, { r.addToken token with createdTokens := r.createdTokens ++ [token] })
  | .fetchManifest url, r =>
    let r := { r with fetched := r.fetched ++ [url] }
    match r.manifests.get? url with
    | some text => (.ok text, r)
    | none => (.error (.status url 404), r)
  | .workloadClient cluster, r =>
    let name := cluster.metadata.anyName
    let r := { r with clientRequests := r.clientRequests ++ [name] }
    if r.failsClient then
      let secret := Naming.kubeconfigSecret name
      (.error (.kubeconfig (.described s!"secret {secret} not found")), r)
    else (.ok (), r)
  | .createObject () o, r => r.createObject o

def environment : Environment Unit Recorder := ⟨answer, fun _ r => r⟩

def run {α : Type} (r : Recorder) (p : Import Unit α) : Except ControllerError α × Recorder :=
  Proc.run environment p.run r

end Recorder

end ClusterImport
