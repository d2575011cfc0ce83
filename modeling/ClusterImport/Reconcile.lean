import ClusterImport.Eligibility
import ClusterImport.Json.MergePatch
import ClusterImport.Manifest.Apply
import ClusterImport.Naming
/-!
One step of the import of a CAPI cluster, decided anew from the objects that are there. A cluster
whose control plane is not ready waits. Without a Rancher cluster one is created, if the cluster
opts in; one that is being deleted marks the CAPI cluster as imported; otherwise the agent's
manifest is applied once Rancher has published it. A change to the CAPI cluster is written back as
one merge patch that holds only against the version it was computed from.
-/
namespace ClusterImport

inductive Requeue
  | never
  | immediately
  | after (seconds : Nat)
deriving DecidableEq, Repr

def Requeue.delay? : Requeue → Option Nat
  | never => none
  | immediately => some 0
  | after seconds => some seconds

/-- The patch from one state of a CAPI cluster to another, status aside. It carries the first
state's resource version. -/
def clusterPatch (before after : CapiCluster) : Option Json :=
  let patch := Json.diff ({ before with status := none } : CapiCluster).encode
    ({ after with status := none } : CapiCluster).encode
  match patch, before.metadata.resourceVersion with
  | some (.obj members), some version =>
    match (Dict.get? "metadata" members).getD (.obj []) with
    | .obj metadata =>
      let metadata := Dict.insert "resourceVersion" (.str version) metadata
      some (.obj (Dict.insert "metadata" (.obj metadata) members))
    | _ => some (.obj members)
  | patch, _ => patch

def rancherKey (cluster : CapiCluster) : Except ControllerError ObjectKey :=
  match cluster.metadata.inNamespace with
  | some ns => .ok ⟨ns, Naming.toRancher cluster.metadata.anyName⟩
  | none => .error (.invalidResource s!"cluster {cluster.metadata.anyName} has no namespace")

def rancherClusterFor (cluster : CapiCluster) (key : ObjectKey) :
    Except ControllerError RancherCluster :=
  match cluster.metadata.uid with
  | none => .error (.invalidResource s!"cluster {cluster.metadata.anyName} has no uid")
  | some uid =>
    let owner : OwnerReference := {
      apiVersion := CapiCluster.resourceType.apiVersion
      kind := CapiCluster.resourceType.kind
      name := cluster.metadata.anyName
      uid
      blockOwnerDeletion := none
      controller := none }
    .ok {
      metadata := {
        name := some key.name
        inNamespace := some key.inNamespace
        ownerReferences := some [owner]
        labels := some (.single ownedLabel "") }
      spec := {}
      status := none }

def tokenFor (clusterName ns : String) : RegistrationToken where
  metadata := { name := some clusterName, inNamespace := some ns }
  clusterName := clusterName
  status := none

variable {W : Type}

def createRancherCluster (cluster : CapiCluster) (key : ObjectKey) : Import W Requeue := do
  if !(← shouldAutoImport cluster) then return .never
  let rancher ← Import.ofExcept (rancherClusterFor cluster key)
  let _ ← Import.createRancherCluster rancher
  Import.record .rancherClusterCreated
  return .immediately

def registrationManifest (clusterName ns : String) : Import W (Option String) := do
  let token ← match ← Import.getRegistrationToken ⟨ns, clusterName⟩ with
    | some token => pure token
    | none => Import.createRegistrationToken (tokenFor clusterName ns)
  match token.manifestUrl? with
  | none => return none
  | some url => return some (← Import.fetchManifest url)

def register (requeueAfter : Nat) (cluster : CapiCluster) (rancher : RancherCluster) :
    Import W Requeue := do
  match rancher.managementName? with
  | none => return .after requeueAfter
  | some clusterName =>
    if rancher.agentDeployed then return .never
    match ← registrationManifest clusterName (cluster.metadata.inNamespace.getD "") with
    | none => return .after requeueAfter
    | some manifest =>
      let client ← Import.workloadClient cluster
      let outcome ← Manifest.apply client manifest.toByteArray.toList
      Import.record (.manifestApplied outcome)
      return .never

/-- The transition for a ready cluster, with the state it leaves the CAPI cluster in. -/
def transition (requeueAfter : Nat) (cluster : CapiCluster) : Import W (Requeue × CapiCluster) := do
  let key ← Import.ofExcept (rancherKey cluster)
  match ← Import.getRancherCluster key with
  | none => return (← createRancherCluster cluster key, cluster)
  | some rancher =>
    if rancher.isDeleting then
      let marked := { cluster with
        metadata := cluster.metadata.setAnnotation importedAnnotation "true" }
      return (.never, marked)
    else return (← register requeueAfter cluster rancher, cluster)

def writeBack (key : ObjectKey) (before after : CapiCluster) : Import W Unit :=
  match clusterPatch before after with
  | none => pure ()
  | some patch => Import.patchCapiCluster key patch

def errorOf {α : Type} : Except ControllerError α → List ControllerError
  | .ok _ => []
  | .error e => [e]

/-- Reconciles the CAPI cluster at a key. Errors of the transition and of the write are reported
together. -/
def reconcile (requeueAfter : Nat) (key : ObjectKey) : Import W Requeue := do
  match ← Import.getCapiCluster key with
  | none => return .immediately
  | some before =>
    if !before.isControlPlaneReady then return .after requeueAfter
    let result ← ExceptT.lift (transition requeueAfter before).run
    let (requeue, after) := result.toOption.getD (.never, before)
    let written ← ExceptT.lift (writeBack key before after).run
    match ControllerError.join (errorOf result ++ errorOf written) with
    | some e => throw e
    | none => return requeue

end ClusterImport
