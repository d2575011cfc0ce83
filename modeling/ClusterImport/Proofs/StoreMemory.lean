import ClusterImport.Proofs.Memory
import ClusterImport.Proofs.Replay
/-!
The store as clusters in memory. A place is a key as it is written, what is created takes the place
of what is there, and a failure is looked up by the name and the target that a call is logged with.
-/
namespace ClusterImport.Store

open Manifest (Object)

variable {α : Type}

def regime : Regime String WorkloadKey where
  place := ObjectKey.render
  ident? o := o.name.map fun name => ⟨o.kind, o.inNamespace.getD "", name⟩
  refusal? _ := none
  present o := .api (.failure 409 "AlreadyExists" s!"{o.kind}/{o.displayName} already exists")
  merges := true
  isAlreadyExists_present _ := rfl

def memory (s : Store) : Memory String WorkloadKey where
  clusters key := s.clusters.get? key
  ranchers key := s.ranchers.get? key
  tokens key := s.tokens.get? key
  namespaces name := s.namespaces.get? name
  manifests url := s.manifests.get? url
  workload := s.workload.toFinset

def logLine : Call Unit → String × String
  | .getCapiCluster key => ("get_capi_cluster", key.render)
  | .getNamespace name => ("get_namespace", name)
  | .patchCapiCluster key _ => ("patch_capi_cluster", key.render)
  | .getRancherCluster key => ("get_rancher_cluster", key.render)
  | .createRancherCluster rancher => ("create_rancher_cluster", rancher.metadata.key.render)
  | .getRegistrationToken key => ("get_registration_token", key.render)
  | .createRegistrationToken token => ("create_registration_token", token.metadata.key.render)
  | .fetchManifest url => ("fetch", url)
  | .workloadClient cluster => ("client_for", cluster.metadata.key.render)
  | .createObject () o => ("remote_create", s!"{o.kind}/{o.displayName}")

def fault : (c : Call Unit) → ApiError → c.Fault
  | .getCapiCluster _, e => .api e
  | .getNamespace _, e => .api e
  | .patchCapiCluster _ _, e => .api e
  | .getRancherCluster _, e => .api e
  | .createRancherCluster _, e => .api e
  | .getRegistrationToken _, e => .api e
  | .createRegistrationToken _, e => .api e
  | .fetchManifest url, e => .status url e.code
  | .workloadClient _, e => .kubeconfig (.described e.message)
  | .createObject _ _, e => .api e

def faults (s : Store) : Faults := fun c =>
  (s.failure? (logLine c).1 (logLine c).2).map (fault c)

theorem faults_of_failures {s t : Store} (h : t.failures = s.failures) : t.faults = s.faults := by
  funext c
  simp only [faults, failure?, h]

theorem attempt_eq {ε : Type} (s : Store) (call target : String) (carried : List Json)
    (fail : ApiError → ε) (go : Store → Except ε α × Store) :
    s.attempt call target carried fail go = match s.failure? call target with
      | some e => (.error (fail e), s.logged call target carried)
      | none => go (s.logged call target carried) := rfl

/-- What is created takes the place of what is there. -/
theorem occupied?_eq_none (key : ObjectKey) (held : Option α) :
    regime.occupied? key held = none := Option.bind_fun_none held

theorem get?_insert_eq_update (key : String) (a : α) (d : Dict α) :
    (fun k => (Dict.insert key a d).get? k) = Function.update (fun k => d.get? k) key (some a) := by
  funext k
  by_cases hk : k = key
  · simp [hk]
  · simp [hk, Dict.get?_insert_of_ne hk]

theorem memory_patchCluster (t : Store) (key : ObjectKey) (patch : Json) :
    (t.patchCluster key.render patch).memory = regime.withPatch key patch t.memory := by
  have hget : t.memory.clusters (regime.place key) = t.clusters.get? key.render := rfl
  unfold patchCluster
  cases hc : t.clusters.get? key.render with
  | none => rw [Regime.withPatch_of_none (hget.trans hc), Option.bind_none]
  | some c =>
    rw [Option.bind_some]
    cases hd : CapiCluster.decode (Json.merge c.encode patch) with
    | none =>
      have hp : regime.patched patch c = c := by simp [Regime.patched, regime, hd]
      rw [Regime.withPatch_of_same (hget.trans hc) hp]
    | some d =>
      have hp : regime.patched patch c = d := by simp [Regime.patched, regime, hd]
      simp only [Regime.withPatch, hget, hc, Option.map_some, hp]
      simp only [memory, get?_insert_eq_update]
      rfl

theorem memory_createObject (t : Store) (o : Object) :
    ((t.createObject o).1, (t.createObject o).2.memory) =
      regime.serve (.createObject () o) t.memory := by
  unfold createObject
  cases hn : o.name with
  | none => simp only [Regime.serve, regime, hn, Option.map_none]
  | some name =>
    have hd : o.displayName = name := by simp [Object.displayName, hn]
    have hp : regime.present o =
        .api (.failure 409 "AlreadyExists" s!"{o.kind}/{name} already exists") := by
      rw [← hd]
      rfl
    have hi : regime.ident? o = some ⟨o.kind, o.inNamespace.getD "", name⟩ := by
      simp only [regime, hn, Option.map_some]
    have hm : t.memory.workload = t.workload.toFinset := rfl
    simp only [Regime.serve, hi, hp, hm, List.mem_toFinset, List.contains_iff_mem]
    split
    · rfl
    · simp only [memory, List.toFinset_cons]

theorem memory_answer (c : Call Unit) (s : Store) :
    ((answer c s).1, (answer c s).2.memory) = regime.answer s.faults c s.memory ∧
      (answer c s).2.failures = s.failures := by
  cases hf : s.failure? (logLine c).1 (logLine c).2 with
  | some e =>
    have hr : regime.answer s.faults c s.memory = (c.failed (fault c e), s.memory) := by
      simp only [Regime.answer, faults, hf, Option.map_some]
    rw [hr]
    cases c <;> simp only [logLine] at hf <;> simp only [answer, attempt_eq, hf] <;>
      exact ⟨rfl, rfl⟩
  | none =>
    have hr : regime.answer s.faults c s.memory = regime.serve c s.memory := by
      simp only [Regime.answer, faults, hf, Option.map_none]
    rw [hr]
    cases c with
    | patchCapiCluster key patch =>
      simp only [logLine] at hf
      simp only [answer, attempt_eq, hf, memory_patchCluster]
      exact ⟨rfl, failures_patchCluster _ _ _⟩
    | createRancherCluster _ | createRegistrationToken _ =>
      simp only [logLine] at hf
      simp only [answer, attempt_eq, hf, memory, get?_insert_eq_update, Regime.serve,
        occupied?_eq_none]
      exact ⟨rfl, rfl⟩
    | fetchManifest url =>
      simp only [logLine] at hf
      have hl : (s.logged "fetch" url []).manifests = s.manifests := rfl
      simp only [answer, attempt_eq, hf, hl, Regime.serve, memory]
      cases s.manifests.get? url with
      | none => exact ⟨rfl, rfl⟩
      | some text => exact ⟨rfl, rfl⟩
    | createObject client o =>
      simp only [logLine] at hf
      simp only [answer, attempt_eq, hf]
      exact ⟨memory_createObject _ o, failures_createObject _ o⟩
    | _ =>
      simp only [logLine] at hf
      simp only [answer, attempt_eq, hf]
      exact ⟨rfl, rfl⟩

def inMemory : InMemory Store String WorkloadKey where
  environment := environment
  regime := regime
  memory := memory
  faults := faults
  memory_answer c s := (memory_answer c s).1
  faults_answer c s := faults_of_failures (memory_answer c s).2
  memory_note _ _ := rfl
  faults_note _ _ := rfl

/-- The like of the store where keys are places and nothing is created twice. -/
def keyedRegime : Regime ObjectKey WorkloadKey where
  place := id
  ident? := regime.ident?
  refusal? key := some (.api (.failure 409 "AlreadyExists" s!"{key.render} already exists"))
  present := regime.present
  merges := regime.merges
  isAlreadyExists_present := regime.isAlreadyExists_present

end ClusterImport.Store
