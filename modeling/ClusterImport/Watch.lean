import ClusterImport.Reconcile
/-!
From events to reconciles. A Rancher cluster leads to the CAPI cluster whose name it carries, and a
namespace that opts in leads to the CAPI clusters in it. A reconcile judges the cached cluster at
the gate first, and is counted by its result.
-/
namespace ClusterImport

structure ClusterRef where
  inNamespace : Option String
  name : String
deriving DecidableEq, Repr

def ClusterRef.ofRancher (cluster : RancherCluster) : Option ClusterRef :=
  cluster.metadata.inNamespace.map fun ns => ⟨some ns, Naming.toCapi cluster.metadata.anyName⟩

def ClusterRef.ofCapi (cluster : CapiCluster) : Option ClusterRef :=
  cluster.metadata.name.map fun name => ⟨cluster.metadata.inNamespace, name⟩

/-- The clusters that a namespace makes eligible, in order; nothing if one of them has no name. -/
def ClusterRef.ofNamespace (ns : Namespace) (clusters : List CapiCluster) :
    Option (List ClusterRef) :=
  if !ns.metadata.optsIn then some []
  else (clusters.filter (·.metadata.inNamespace == some ns.metadata.anyName)).mapM ofCapi

variable {W : Type}

/-- Reconciles the cluster that a cached object stands for, if the gate admits the cached object. An
error of the gate itself is not counted. -/
def gatedReconcile (gate : Gate) (requeueAfter : Nat) (cached : CapiCluster) : Import W Requeue := do
  let key : ObjectKey := ⟨cached.metadata.inNamespace.getD "", cached.metadata.anyName⟩
  if !(← gate.admits cached) then
    Import.record (.reconciled .skipped)
    return .never
  match ← ExceptT.lift (reconcile requeueAfter key).run with
  | .ok requeue =>
    Import.record (.reconciled .success)
    return requeue
  | .error e =>
    Import.record (.reconciled .error)
    throw e

end ClusterImport
