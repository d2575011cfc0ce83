import ClusterImport.Client
import ClusterImport.Flag
/-!
Which CAPI clusters are imported. A cluster opts in by a truthy label of its own or of its
namespace. The gate also asks for the watch-filter label, if one is set, for a ready control plane,
and that the cluster has not been imported before.
-/
namespace ClusterImport

def importLabel : String := "cluster-api.cattle.io/rancher-auto-import"

def ownedLabel : String := "cluster-api.cattle.io/owned"

def importedAnnotation : String := "imported"

def watchFilterLabel : String := "cluster.x-k8s.io/watch-filter"

structure ImportLabel where
  present : Bool
  truthy : Bool
deriving DecidableEq, Repr

def ImportLabel.read (labels : Dict String) : ImportLabel :=
  match labels.get? importLabel with
  | some value => ⟨true, Flag.isTruthy value⟩
  | none => ⟨false, false⟩

def ObjectMeta.optsIn (m : ObjectMeta) : Bool :=
  (ImportLabel.read (m.labels.getD .empty).entries).truthy

variable {W : Type}

/-- The namespace is read only if the cluster itself does not opt in. -/
def shouldAutoImport (cluster : CapiCluster) : Import W Bool := do
  if cluster.metadata.optsIn then return true
  match cluster.metadata.inNamespace with
  | none => return false
  | some name =>
    let found ← Import.getNamespace name
    return found.any (·.metadata.optsIn)

structure Gate where
  watchFilter : Option String
deriving DecidableEq, Repr

namespace Gate

def matchesFilter (g : Gate) (cluster : CapiCluster) : Bool :=
  g.watchFilter.all fun value => cluster.metadata.label? watchFilterLabel == some value

def notImported (cluster : CapiCluster) : Bool :=
  (cluster.metadata.annotation? importedAnnotation).isNone

def admits (g : Gate) (cluster : CapiCluster) : Import W Bool := do
  if !g.matchesFilter cluster then return false
  if !notImported cluster then return false
  if !cluster.isControlPlaneReady then return false
  shouldAutoImport cluster

end Gate

end ClusterImport
