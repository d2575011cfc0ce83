import ClusterImport.Manifest.Object
import ClusterImport.Resource.Core
import ClusterImport.Resource.RancherCluster
import ClusterImport.Resource.RegistrationToken
/-!
What the import asks of the clusters and of the manifest server, as data. A procedure is a tree of
calls: each node holds one call and, for every answer to it, the procedure that follows. An
environment answers calls from a state; running a procedure in it gives its result and the state
left behind.
-/
namespace ClusterImport

structure ObjectKey where
  inNamespace : String
  name : String
deriving DecidableEq, Repr

def ObjectKey.render (k : ObjectKey) : String := k.inNamespace ++ "/" ++ k.name

structure ApplyOutcome where
  created : Nat := 0
  alreadyExisting : Nat := 0
deriving DecidableEq, Repr

/-- One call; `W` are the clients of workload clusters. -/
inductive Call (W : Type)
  | getCapiCluster (key : ObjectKey)
  | getNamespace (name : String)
  | patchCapiCluster (key : ObjectKey) (patch : Json)
  | getRancherCluster (key : ObjectKey)
  | createRancherCluster (cluster : RancherCluster)
  | getRegistrationToken (key : ObjectKey)
  | createRegistrationToken (token : RegistrationToken)
  | fetchManifest (url : String)
  | workloadClient (cluster : CapiCluster)
  | createObject (client : W) (object : Manifest.Object)

abbrev Call.Answer {W : Type} : Call W → Type
  | getCapiCluster _ => Except KubeError (Option CapiCluster)
  | getNamespace _ => Except KubeError (Option Namespace)
  | patchCapiCluster _ _ => Except KubeError Unit
  | getRancherCluster _ => Except KubeError (Option RancherCluster)
  | createRancherCluster _ => Except KubeError RancherCluster
  | getRegistrationToken _ => Except KubeError (Option RegistrationToken)
  | createRegistrationToken _ => Except KubeError RegistrationToken
  | fetchManifest _ => Except FetchError String
  | workloadClient _ => Except ControllerError W
  | createObject _ _ => Except KubeError Unit

inductive ReconcileResult
  | success
  | error
  | skipped
deriving DecidableEq, Repr

inductive Measurement
  | rancherClusterCreated
  | manifestApplied (outcome : ApplyOutcome)
  | reconciled (result : ReconcileResult)
deriving DecidableEq, Repr

inductive Proc (W α : Type)
  | done (a : α)
  | call (c : Call W) (next : c.Answer → Proc W α)
  | record (m : Measurement) (next : Proc W α)

namespace Proc

variable {W α β γ σ : Type}

def bind : Proc W α → (α → Proc W β) → Proc W β
  | done a, f => f a
  | call c next, f => call c fun a => bind (next a) f
  | record m next, f => record m (bind next f)

instance : Monad (Proc W) where
  pure := done
  bind := bind

@[simp] theorem pure_bind (a : α) (f : α → Proc W β) : bind (done a) f = f a := rfl

@[simp] theorem bind_done (p : Proc W α) : bind p done = p := by
  induction p with
  | done a => rfl
  | call c next ih => simp [bind, ih]
  | record m next ih => simp [bind, ih]

theorem bind_assoc (p : Proc W α) (f : α → Proc W β) (g : β → Proc W γ) :
    bind (bind p f) g = bind p fun a => bind (f a) g := by
  induction p with
  | done a => rfl
  | call c next ih => simp [bind, ih]
  | record m next ih => simp [bind, ih]

def ask (c : Call W) : Proc W c.Answer := call c done

end Proc

abbrev Import (W : Type) := ExceptT ControllerError (Proc W)

namespace Import

variable {W α : Type}

def ofExcept (a : Except ControllerError α) : Import W α := ExceptT.mk (.done a)

def answered {ε : Type} (wrap : ε → ControllerError) (p : Proc W (Except ε α)) : Import W α :=
  ExceptT.mk (p.bind fun a => .done (a.mapError wrap))

def record (m : Measurement) : Import W Unit := ExceptT.mk (.record m (.done (.ok ())))

def getCapiCluster (key : ObjectKey) : Import W (Option CapiCluster) :=
  answered .kube (Proc.ask (.getCapiCluster key))

def getNamespace (name : String) : Import W (Option Namespace) :=
  answered .kube (Proc.ask (.getNamespace name))

def patchCapiCluster (key : ObjectKey) (patch : Json) : Import W Unit :=
  answered .kube (Proc.ask (.patchCapiCluster key patch))

def getRancherCluster (key : ObjectKey) : Import W (Option RancherCluster) :=
  answered .kube (Proc.ask (.getRancherCluster key))

def createRancherCluster (cluster : RancherCluster) : Import W RancherCluster :=
  answered .kube (Proc.ask (.createRancherCluster cluster))

def getRegistrationToken (key : ObjectKey) : Import W (Option RegistrationToken) :=
  answered .kube (Proc.ask (.getRegistrationToken key))

def createRegistrationToken (token : RegistrationToken) : Import W RegistrationToken :=
  answered .kube (Proc.ask (.createRegistrationToken token))

def fetchManifest (url : String) : Import W String :=
  answered .fetch (Proc.ask (.fetchManifest url))

def workloadClient (cluster : CapiCluster) : Import W W :=
  answered id (Proc.ask (.workloadClient cluster))

/-- The answer to a create, which is not always a failure if it is an error. -/
def createObject (client : W) (object : Manifest.Object) : Import W (Except KubeError Unit) :=
  ExceptT.lift (Proc.ask (.createObject client object))

end Import

structure Environment (W σ : Type) where
  answer : (c : Call W) → σ → c.Answer × σ
  note : Measurement → σ → σ

def Proc.run {W α σ : Type} (e : Environment W σ) : Proc W α → σ → α × σ
  | done a, s => (a, s)
  | call c next, s => (next (e.answer c s).1).run e (e.answer c s).2
  | record m next, s => next.run e (e.note m s)

theorem Proc.run_bind {W α β σ : Type} (e : Environment W σ) (p : Proc W α) (f : α → Proc W β)
    (s : σ) : (p.bind f).run e s = (f (p.run e s).1).run e (p.run e s).2 := by
  induction p generalizing s with
  | done a => rfl
  | call c next ih => exact ih _ _
  | record m next ih => exact ih _

end ClusterImport
