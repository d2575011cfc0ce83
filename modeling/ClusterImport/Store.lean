import ClusterImport.Metrics
import ClusterImport.Reconcile
/-!
Clusters held in memory: the objects of the management cluster by key, the manifests by address, and
the objects of the workload cluster. Every call is logged before it may fail, and a failure can be
set for one target or for all. A patch is merged into the stored object; a create stores the object
under its own key, and only the workload cluster refuses one that is there already.
-/
namespace ClusterImport

structure LogEntry where
  call : String
  target : String
  carried : List Json
deriving Repr

def LogEntry.toJson (e : LogEntry) : Json := .arr (.str e.call :: .str e.target :: e.carried)

structure WorkloadKey where
  kind : String
  inNamespace : String
  name : String
deriving DecidableEq, Repr

structure Failure where
  call : String
  /-- The target, or nothing for every target. -/
  target : String
  error : ApiError
deriving DecidableEq, Repr

structure Store where
  clusters : Dict CapiCluster := []
  ranchers : Dict RancherCluster := []
  tokens : Dict RegistrationToken := []
  namespaces : Dict Namespace := []
  manifests : Dict String := []
  workload : List WorkloadKey := []
  failures : List Failure := []
  log : List LogEntry := []
  metrics : Option Metrics := none
deriving Repr

def ObjectMeta.key (m : ObjectMeta) : ObjectKey := ⟨m.inNamespace.getD "", m.anyName⟩

namespace Store

def setFailure (s : Store) (f : Failure) : Store :=
  { s with failures :=
      f :: s.failures.filter fun g => !(g.call == f.call && g.target == f.target) }

def clearFailure (s : Store) (call target : String) : Store :=
  { s with failures := s.failures.filter fun g => !(g.call == call && g.target == target) }

def hasFailure (s : Store) (call target : String) : Bool :=
  s.failures.any fun g => g.call == call && g.target == target

/-- A failure of exactly this target comes before one of all targets. -/
def failure? (s : Store) (call target : String) : Option ApiError :=
  ((s.failures.find? fun g => g.call == call && g.target == target).or
    (s.failures.find? fun g => g.call == call && g.target == "")).map (·.error)

def logged (s : Store) (call target : String) (carried : List Json) : Store :=
  { s with log := s.log ++ [⟨call, target, carried⟩] }

def attempt {α ε : Type} (s : Store) (call target : String) (carried : List Json)
    (fail : ApiError → ε) (go : Store → Except ε α × Store) : Except ε α × Store :=
  let s := s.logged call target carried
  match s.failure? call target with
  | some e => (.error (fail e), s)
  | none => go s

/-- The stored cluster with a patch merged in. A result that is no cluster changes nothing. -/
def patchCluster (s : Store) (key : String) (patch : Json) : Store :=
  match (s.clusters.get? key).bind fun c => CapiCluster.decode (Json.merge c.encode patch) with
  | some c => { s with clusters := Dict.insert key c s.clusters }
  | none => s

/-- Creates an object on the workload cluster. One whose name the server completes is never there
already. -/
def createObject (s : Store) (o : Manifest.Object) : Except KubeError Unit × Store :=
  match o.name with
  | none => (.ok (), s)
  | some name =>
    let key : WorkloadKey := ⟨o.kind, o.inNamespace.getD "", name⟩
    if s.workload.contains key then
      (.error (.api (.failure 409 "AlreadyExists" s!"{o.kind}/{name} already exists")), s)
    else (.ok (), { s with workload := key :: s.workload })

def answer : (c : Call Unit) → Store → c.Answer × Store
  | .getCapiCluster key, s =>
    s.attempt "get_capi_cluster" key.render [] KubeError.api fun s =>
      (.ok (s.clusters.get? key.render), s)
  | .getNamespace name, s =>
    s.attempt "get_namespace" name [] KubeError.api fun s => (.ok (s.namespaces.get? name), s)
  | .patchCapiCluster key patch, s =>
    s.attempt "patch_capi_cluster" key.render [patch] KubeError.api fun s =>
      (.ok (), s.patchCluster key.render patch)
  | .getRancherCluster key, s =>
    s.attempt "get_rancher_cluster" key.render [] KubeError.api fun s =>
      (.ok (s.ranchers.get? key.render), s)
  | .createRancherCluster cluster, s =>
    let key := cluster.metadata.key.render
    s.attempt "create_rancher_cluster" key [cluster.encode] KubeError.api fun s =>
      (.ok cluster, { s with ranchers := Dict.insert key cluster s.ranchers })
  | .getRegistrationToken key, s =>
    s.attempt "get_registration_token" key.render [] KubeError.api fun s =>
      (.ok (s.tokens.get? key.render), s)
  | .createRegistrationToken token, s =>
    let key := token.metadata.key.render
    s.attempt "create_registration_token" key [token.encode] KubeError.api fun s =>
      (.ok token, { s with tokens := Dict.insert key token s.tokens })
  | .fetchManifest url, s =>
    s.attempt "fetch" url [] (fun e => FetchError.status url e.code) fun s =>
      match s.manifests.get? url with
      | some text => (.ok text, s)
      | none => (.error (.status url 404), s)
  | .workloadClient cluster, s =>
    s.attempt "client_for" cluster.metadata.key.render []
      (fun e => ControllerError.kubeconfig (.described e.message)) fun s => (.ok (), s)
  | .createObject () o, s =>
    s.attempt "remote_create" s!"{o.kind}/{o.displayName}" [.str (o.inNamespace.getD "")]
      KubeError.api fun s => s.createObject o

/-- Measurements are taken once metrics are kept. A reconcile takes no time. -/
def note (m : Measurement) (s : Store) : Store :=
  { s with metrics := s.metrics.map fun metrics => metrics.note (Binary64.zero false) m }

def environment : Environment Unit Store := ⟨answer, note⟩

def run {α : Type} (s : Store) (p : Import Unit α) : Except ControllerError α × Store :=
  Proc.run environment p.run s

end Store

end ClusterImport
