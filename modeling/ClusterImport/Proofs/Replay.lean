import ClusterImport.Proofs.Trace
import ClusterImport.Store
/-!
Exchanges with the clusters in memory. What a call is answered does not depend on the log or on the
metrics, so a trace can be replayed on the objects alone; without failures every read is answered
with what is stored.
-/
namespace ClusterImport.Store

def bare (s : Store) : Store := { s with log := [], metrics := none }

def Replays : Store → List (Exchange Unit) → Store → Prop
  | s, [], t => t = s
  | s, x :: rest, t => x.answer = (answer x.call s).1 ∧ Replays (answer x.call s).2.bare rest t

theorem attempt_of_no_failures {α ε : Type} {s : Store} (h : s.failures = [])
    (call target : String) (carried : List Json) (fail : ApiError → ε)
    (go : Store → Except ε α × Store) :
    s.attempt call target carried fail go = go (s.logged call target carried) := by
  have hf : (s.logged call target carried).failure? call target = none := by
    simp [failure?, logged, h]
  simp only [attempt, hf]

theorem createObject_bare (s : Store) (o : Manifest.Object) :
    (s.createObject o).1 = (s.bare.createObject o).1 ∧
      (s.createObject o).2.bare = (s.bare.createObject o).2.bare := by
  cases hn : o.name with
  | none =>
    simp only [createObject, hn, true_and]
    rfl
  | some name =>
    have hw : s.bare.workload = s.workload := rfl
    simp only [createObject, hn, hw]
    split <;> simp only [true_and] <;> rfl

theorem patchCluster_bare (s : Store) (key : String) (patch : Json) :
    (s.patchCluster key patch).bare = (s.bare.patchCluster key patch).bare := by
  unfold patchCluster
  dsimp only [bare]
  split <;> rfl

/-- Neither the log nor the metrics decide an answer. -/
theorem answer_bare {s : Store} (h : s.failures = []) (c : Call Unit) :
    (answer c s).1 = (answer c s.bare).1 ∧ (answer c s).2.bare = (answer c s.bare).2.bare := by
  have hb : s.bare.failures = [] := h
  cases c with
  | patchCapiCluster key patch =>
    dsimp only [answer]
    rw [attempt_of_no_failures h, attempt_of_no_failures hb]
    exact ⟨rfl, ((s.logged _ _ _).patchCluster_bare _ _).trans
      ((s.bare.logged _ _ _).patchCluster_bare _ _).symm⟩
  | fetchManifest url =>
    dsimp only [answer]
    rw [attempt_of_no_failures h, attempt_of_no_failures hb]
    dsimp only [logged, bare]
    split <;> exact ⟨rfl, rfl⟩
  | createObject client o =>
    dsimp only [answer]
    rw [attempt_of_no_failures h, attempt_of_no_failures hb]
    have hl := (s.logged "remote_create" s!"{o.kind}/{o.displayName}"
      [.str (o.inNamespace.getD "")]).createObject_bare o
    have hr := (s.bare.logged "remote_create" s!"{o.kind}/{o.displayName}"
      [.str (o.inNamespace.getD "")]).createObject_bare o
    exact ⟨hl.1.trans hr.1.symm, hl.2.trans hr.2.symm⟩
  | _ =>
    dsimp only [answer]
    rw [attempt_of_no_failures h, attempt_of_no_failures hb]
    exact ⟨rfl, rfl⟩

theorem failures_createObject (s : Store) (o : Manifest.Object) :
    (s.createObject o).2.failures = s.failures := by
  unfold createObject
  split
  · rfl
  · dsimp only
    split <;> rfl

theorem failures_patchCluster (s : Store) (key : String) (patch : Json) :
    (s.patchCluster key patch).failures = s.failures := by
  unfold patchCluster
  split <;> rfl

/-- No call sets a failure. -/
theorem failures_answer {s : Store} (h : s.failures = []) (c : Call Unit) :
    (answer c s).2.failures = [] := by
  cases c with
  | patchCapiCluster key patch =>
    dsimp only [answer]
    rw [attempt_of_no_failures h]
    exact (failures_patchCluster _ _ _).trans h
  | fetchManifest url =>
    dsimp only [answer]
    rw [attempt_of_no_failures h]
    split <;> exact h
  | createObject client o =>
    dsimp only [answer]
    rw [attempt_of_no_failures h]
    exact (failures_createObject _ _).trans h
  | _ =>
    dsimp only [answer]
    rw [attempt_of_no_failures h]
    exact h

/-- A run on the store can be replayed on its objects. -/
theorem replays_trace {α : Type} (p : Proc Unit α) {s : Store} (h : s.failures = []) :
    Replays s.bare (p.trace environment s) (p.run environment s).2.bare := by
  induction p generalizing s with
  | done a => rfl
  | call c next ih =>
    obtain ⟨ha, hs⟩ := answer_bare h c
    refine ⟨ha, ?_⟩
    have hn := ih (answer c s).1 (failures_answer h c)
    rw [hs] at hn
    exact hn
  | record m next ih => exact @ih (note m s) h

structure Quiet (s : Store) : Prop where
  failures : s.failures = []
  bare : s.bare = s

namespace Quiet

variable {b t : Store} {rest : List (Exchange Unit)}

theorem of_bare {s : Store} (h : s.failures = []) : s.bare.Quiet := ⟨h, rfl⟩

theorem bare_logged (h : b.Quiet) (call target : String) (carried : List Json) :
    (b.logged call target carried).bare = b := h.bare

/-- A lookup is logged and leaves what is stored. -/
theorem lookup (h : b.Quiet) {c : Call Unit} {held x : c.Answer} {call target : String}
    {carried : List Json} (ha : answer c b = (held, b.logged call target carried)) :
    Replays b (⟨c, x⟩ :: rest) t ↔ x = held ∧ Replays b rest t := by
  simp only [Replays, ha, h.bare_logged]

theorem getCapiCluster (h : b.Quiet) {key : ObjectKey} {x : Except KubeError (Option CapiCluster)} :
    Replays b (⟨.getCapiCluster key, x⟩ :: rest) t ↔
      x = .ok (b.clusters.get? key.render) ∧ Replays b rest t :=
  h.lookup (attempt_of_no_failures h.failures ..)

theorem getNamespace (h : b.Quiet) {name : String} {x : Except KubeError (Option Namespace)} :
    Replays b (⟨.getNamespace name, x⟩ :: rest) t ↔
      x = .ok (b.namespaces.get? name) ∧ Replays b rest t :=
  h.lookup (attempt_of_no_failures h.failures ..)

theorem getRancherCluster (h : b.Quiet) {key : ObjectKey}
    {x : Except KubeError (Option RancherCluster)} :
    Replays b (⟨.getRancherCluster key, x⟩ :: rest) t ↔
      x = .ok (b.ranchers.get? key.render) ∧ Replays b rest t :=
  h.lookup (attempt_of_no_failures h.failures ..)

theorem getRegistrationToken (h : b.Quiet) {key : ObjectKey}
    {x : Except KubeError (Option RegistrationToken)} :
    Replays b (⟨.getRegistrationToken key, x⟩ :: rest) t ↔
      x = .ok (b.tokens.get? key.render) ∧ Replays b rest t :=
  h.lookup (attempt_of_no_failures h.failures ..)

theorem workloadClient (h : b.Quiet) {c : CapiCluster} {x : Except ControllerError Unit} :
    Replays b (⟨.workloadClient c, x⟩ :: rest) t ↔ x = .ok () ∧ Replays b rest t :=
  h.lookup (attempt_of_no_failures h.failures ..)

theorem fetchManifest (h : b.Quiet) {url text : String} (hu : b.manifests.get? url = some text)
    {x : Except FetchError String} :
    Replays b (⟨.fetchManifest url, x⟩ :: rest) t ↔ x = .ok text ∧ Replays b rest t := by
  have hl : (b.logged "fetch" url []).manifests.get? url = some text := hu
  dsimp only [Replays, answer]
  rw [attempt_of_no_failures h.failures]
  simp only [hl, h.bare_logged]

theorem patchCapiCluster (h : b.Quiet) {key : ObjectKey} {patch : Json}
    {x : Except KubeError Unit} :
    Replays b (⟨.patchCapiCluster key patch, x⟩ :: rest) t ↔
      x = .ok () ∧ Replays (b.patchCluster key.render patch).bare rest t := by
  dsimp only [Replays, answer]
  rw [attempt_of_no_failures h.failures, patchCluster_bare, h.bare_logged]

theorem createRancherCluster (h : b.Quiet) {rancher : RancherCluster}
    {x : Except KubeError RancherCluster} :
    Replays b (⟨.createRancherCluster rancher, x⟩ :: rest) t ↔ x = .ok rancher ∧
      Replays { b with ranchers := Dict.insert rancher.metadata.key.render rancher b.ranchers }
        rest t := by
  dsimp only [Replays, answer]
  rw [attempt_of_no_failures h.failures]
  rw [← h.bare]
  rfl

theorem createRegistrationToken (h : b.Quiet) {token : RegistrationToken}
    {x : Except KubeError RegistrationToken} :
    Replays b (⟨.createRegistrationToken token, x⟩ :: rest) t ↔ x = .ok token ∧
      Replays { b with tokens := Dict.insert token.metadata.key.render token b.tokens } rest t := by
  dsimp only [Replays, answer]
  rw [attempt_of_no_failures h.failures]
  rw [← h.bare]
  rfl

/-- Creating an object on the workload cluster leaves a quiet store. -/
theorem create (h : b.Quiet) (o : Manifest.Object) : (b.createObject o).2.Quiet where
  failures := (failures_createObject b o).trans h.failures
  bare := by
    obtain ⟨-, hb⟩ := h
    unfold Store.createObject
    split
    · exact hb
    · dsimp only
      split
      · exact hb
      · rw [← hb]
        rfl

theorem createObject (h : b.Quiet) {o : Manifest.Object} {x : Except KubeError Unit} :
    Replays b (⟨.createObject () o, x⟩ :: rest) t ↔
      x = (b.createObject o).1 ∧ Replays (b.createObject o).2 rest t := by
  dsimp only [Replays, answer]
  rw [attempt_of_no_failures h.failures, (createObject_bare _ o).1, (createObject_bare _ o).2,
    h.bare_logged, (h.create o).bare]

end Quiet

end ClusterImport.Store
