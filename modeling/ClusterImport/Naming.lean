/-!
Names that follow from a cluster's name. The Rancher cluster of a CAPI cluster has its name and the
suffix `-capi`; taking the suffix off leads back, and leaves a name without it as it is.
-/
namespace ClusterImport.Naming

def rancherSuffix : List Char := "-capi".toList

def toRancher (capi : String) : String := capi ++ "-capi"

def stripSuffix? (suffix s : List Char) : Option (List Char) :=
  if suffix.isSuffixOf s then some (s.take (s.length - suffix.length)) else none

def toCapi (rancher : String) : String :=
  match stripSuffix? rancherSuffix rancher.toList with
  | some s => String.ofList s
  | none => rancher

def kubeconfigSecret (cluster : String) : String := cluster ++ "-kubeconfig"

end ClusterImport.Naming
