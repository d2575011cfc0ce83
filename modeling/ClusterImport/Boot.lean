import ClusterImport.Config
import ClusterImport.Error
import ClusterImport.Kubeconfig
import ClusterImport.Log.Filter
import ClusterImport.Probe
/-!
How the controller starts: it reads its settings, reports them, finds the cluster to work on, and
listens for probes. It stops with the first of these that fails.
-/
namespace ClusterImport.Boot

inductive Fault
  | settings (e : ConfigError)
  /-- There is no kubeconfig, or none that leads to a server. -/
  | noCluster
  | address (a : SocketAddress)
deriving DecidableEq, Repr

def Fault.report : Fault → String
  | .settings e => s!"Error: InvalidConfig({Text.quoted e.message})"
  | .noCluster => "Error: Kube(no usable kubeconfig)"
  | .address a => s!"Error: Server({Text.quoted a.render})"

structure Outcome where
  log : List Log.Line
  fault : Option Fault
deriving Repr

def program : String := "capi_import_controller"

def said (message : String) : Log.Line := ⟨.info, program, message⟩

def settingsLines (c : Config) : List Log.Line :=
  [ said "Configuration:",
    said ("  Namespace: " ++ c.watchNamespace.getD "all namespaces"),
    said ("  Watch filter: " ++ c.watchFilter.getD "none"),
    said s!"  Insecure skip verify: {c.insecureSkipVerify}",
    said ("  Manifest download timeout: "
      ++ ((c.manifestTimeout.map fun n => s!"{n}s").getD "none")),
    said s!"  Requeue after: {c.requeueAfter}s",
    said s!"  Concurrency: {c.concurrency}",
    said ("  Probe address: " ++ c.probeAddress.render),
    ⟨.info, program ++ "::controller", "Initializing import controller"⟩]

def server? (kubeconfig : Option String) : Option Uri := do
  (← Kubeconfig.ofText? (← kubeconfig)).server?

def faultOf (c : Config) (kubeconfig : Option String) : Option Fault :=
  if (server? kubeconfig).isNone then some .noCluster
  else if c.probeAddress.isListenable then none
  else some (.address c.probeAddress)

def logFilter (lookup : Config.Lookup) : Log.Filter :=
  ((lookup "RUST_LOG").bind Log.Filter.ofText?).getD Log.Filter.default

def start (lookup : Config.Lookup) (kubeconfig : Option String) : Outcome :=
  let greeting := said "Starting CAPI Import Controller"
  let filter := logFilter lookup
  match Config.load lookup with
  | .error e => ⟨[greeting].filter filter.shows, some (.settings e)⟩
  | .ok c =>
    ⟨(greeting :: settingsLines c).filter filter.shows, faultOf c kubeconfig⟩

end ClusterImport.Boot
