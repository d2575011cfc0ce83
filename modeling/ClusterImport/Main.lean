import ClusterImport.Boot
import ClusterImport.Resource.Schema
/-!
The command line. Without arguments the controller starts; `definitions` prints the definitions of
the Rancher resources.
-/
open ClusterImport

def settingNames : List String :=
  ["WATCH_NAMESPACE", "WATCH_FILTER_VALUE", "INSECURE_SKIP_VERIFY",
    "MANIFEST_DOWNLOAD_TIMEOUT_SECS", "REQUEUE_AFTER_SECS", "RECONCILE_CONCURRENCY", "PROBE_ADDR",
    "RUST_LOG"]

def readVariables : IO (Dict String) := do
  let pairs ← settingNames.filterMapM fun key => do
    return (← IO.getEnv key).map (key, ·)
  return Dict.ofList pairs

def readKubeconfig : IO (Option String) := do
  let usual := (← IO.getEnv "HOME").map (· ++ "/.kube/config")
  match (← IO.getEnv "KUBECONFIG").or usual with
  | none => return none
  | some path =>
    try
      return some (← IO.FS.readFile path)
    catch _ =>
      return none

def startController : IO UInt32 := do
  let vars ← readVariables
  let outcome := Boot.start vars.get? (← readKubeconfig)
  for line in outcome.log do
    IO.println line.render
  match outcome.fault with
  | none => return 0
  | some fault =>
    IO.eprintln fault.report
    return 1

def main (args : List String) : IO UInt32 := do
  match args with
  | [] => startController
  | ["definitions"] =>
    IO.print (Definition.renderAll Definition.rancherDefinitions)
    return 0
  | _ =>
    IO.eprintln "usage: cluster-import [definitions]"
    return 2
