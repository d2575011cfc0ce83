import ClusterImport.Proofs.Memory
import ClusterImport.Recorder
/-!
The recording clients as clusters in memory. A key is a place by itself, nothing is created where
something is, and a patch is recorded and does not take effect.
-/
namespace ClusterImport.Recorder

open Manifest (Object)

variable {α : Type}

def regime : Regime ObjectKey (String × String) where
  place := id
  ident? o := o.name.map fun _ => (o.kind, o.displayName)
  refusal? key := some (alreadyExists key.render)
  present o := alreadyExists s!"{o.kind} {o.displayName}"
  merges := false
  isAlreadyExists_present _ := rfl

def memory (r : Recorder) : Memory ObjectKey (String × String) where
  clusters key := r.clusters.lookup key
  ranchers key := r.ranchers.lookup key
  tokens key := r.tokens.lookup key
  namespaces name := r.namespaces.get? name
  manifests url := r.manifests.get? url
  workload := r.existing.toFinset

def faults (r : Recorder) : Faults
  | .getCapiCluster _ =>
    if r.failsGet then some (.api (.failure 500 "InternalError" "etcd unavailable")) else none
  | .patchCapiCluster key _ =>
    if r.failsPatch then
      some (.api (.failure 409 "Conflict" s!"the object {key.render} has been modified"))
    else none
  | .workloadClient cluster =>
    if r.failsClient then
      let secret := Naming.kubeconfigSecret cluster.metadata.anyName
      some (.kubeconfig (.described s!"secret {secret} not found"))
    else none
  | .createObject _ o =>
    if r.failing.contains (o.kind, o.displayName) then
      some (.api (.failure 500 "InternalError" "admission webhook failed"))
    else none
  | _ => none

theorem lookup_cons_eq_update (key : ObjectKey) (a : α) (l : List (ObjectKey × α)) :
    (fun k => ((key, a) :: l).lookup k) = Function.update (fun k => l.lookup k) key (some a) := by
  funext k
  by_cases hk : k = key
  · simp [hk]
  · have hb : (k == key) = false := by simpa using hk
    simp [List.lookup_cons, hk, hb]

theorem memory_addRancher (r : Recorder) (rancher : RancherCluster) :
    (r.addRancher rancher).memory = regime.withRancher rancher r.memory := by
  simp only [memory, addRancher, lookup_cons_eq_update]
  rfl

theorem memory_addToken (r : Recorder) (token : RegistrationToken) :
    (r.addToken token).memory = regime.withToken token r.memory := by
  simp only [memory, addToken, lookup_cons_eq_update]
  rfl

/-- A create of the recording clients, by what is held under its key and what it would leave. -/
theorem memory_create {key : ObjectKey} {held : Option α} {a : α} {r s : Recorder}
    {m : Memory ObjectKey (String × String)} {found : Except KubeError α × Recorder}
    (hfound : found = if held.isSome then (.error (alreadyExists key.render), r) else (.ok a, s))
    (hm : s.memory = m) (hf : s.faults = r.faults) :
    (found.1, found.2.memory) = Regime.created (regime.occupied? key held) a r.memory m ∧
      found.2.faults = r.faults := by
  subst hfound
  cases held with
  | some b => exact ⟨rfl, rfl⟩
  | none => exact ⟨congrArg (Prod.mk _) hm, hf⟩

theorem memory_createObject (r : Recorder) (o : Object) :
    ((r.createObject o).1, (r.createObject o).2.memory) =
        regime.answer r.faults (.createObject () o) r.memory ∧
      (r.createObject o).2.faults = r.faults := by
  simp only [createObject, Regime.answer, faults]
  split
  · exact ⟨rfl, rfl⟩
  · cases hn : o.name with
    | none =>
      have hi : regime.ident? o = none := by simp only [regime, hn, Option.map_none]
      simp only [Option.isNone_none, if_true, Regime.serve, hi]
      exact ⟨rfl, rfl⟩
    | some name =>
      have hi : regime.ident? o = some (o.kind, o.displayName) := by
        simp only [regime, hn, Option.map_some]
      have hm : r.memory.workload = r.existing.toFinset := rfl
      simp only [Option.isNone_some, Bool.false_eq_true, if_false, Regime.serve, hi, hm,
        List.mem_toFinset, List.contains_iff_mem]
      split
      · exact ⟨rfl, rfl⟩
      · rw [memory, List.toFinset_cons]
        exact ⟨rfl, rfl⟩

theorem memory_answer (c : Call Unit) (r : Recorder) :
    ((answer c r).1, (answer c r).2.memory) = regime.answer r.faults c r.memory ∧
      (answer c r).2.faults = r.faults := by
  cases c with
  | getCapiCluster key =>
    simp only [answer, Regime.answer, faults]
    split <;> exact ⟨rfl, rfl⟩
  | patchCapiCluster key patch =>
    simp only [answer, Regime.answer, faults]
    split
    · exact ⟨rfl, rfl⟩
    · rw [Regime.serve, Regime.withPatch_of_not_merges rfl]
      exact ⟨rfl, rfl⟩
  | createRancherCluster rancher => exact memory_create rfl (r.memory_addRancher rancher) rfl
  | createRegistrationToken token => exact memory_create rfl (r.memory_addToken token) rfl
  | fetchManifest url =>
    simp only [answer, Regime.answer, faults, Regime.serve, memory]
    cases r.manifests.get? url with
    | none => exact ⟨rfl, rfl⟩
    | some text => exact ⟨rfl, rfl⟩
  | workloadClient c =>
    simp only [answer, Regime.answer, faults]
    split <;> exact ⟨rfl, rfl⟩
  | createObject client o => exact r.memory_createObject o
  | _ => exact ⟨rfl, rfl⟩

def inMemory : InMemory Recorder ObjectKey (String × String) where
  environment := environment
  regime := regime
  memory := memory
  faults := faults
  memory_answer c r := (memory_answer c r).1
  faults_answer c r := (memory_answer c r).2
  memory_note _ _ := rfl
  faults_note _ _ := rfl

end ClusterImport.Recorder
