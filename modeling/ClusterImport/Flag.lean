/-!
Boolean spellings of Kubernetes tooling: six for true and six for false.
-/
namespace ClusterImport.Flag

def ofText? (value : String) : Option Bool :=
  if ["1", "t", "T", "TRUE", "true", "True"].contains value then some true
  else if ["0", "f", "F", "FALSE", "false", "False"].contains value then some false
  else none

/-- A text that is no boolean counts as false. -/
def isTruthy (value : String) : Bool := (ofText? value).getD false

end ClusterImport.Flag
