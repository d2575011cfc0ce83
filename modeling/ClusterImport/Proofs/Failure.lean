import ClusterImport.Proofs.Reporting
import ClusterImport.Proofs.StoreMemory
import ClusterImport.Proofs.Table
/-!
What a failed reconcile leaves behind. Any of its calls may have failed, and a failed call changes
nothing: the CAPI clusters, the Rancher clusters and the tokens stay as they are, but for a token
that was missing, and on the workload cluster there may be objects from in front of the point where
the manifest broke off.
-/
namespace ClusterImport

open Import Manifest

variable {W σ κ ω : Type}

def Exchange.takesEffect : Exchange W → Bool
  | ⟨.patchCapiCluster _ _, .ok _⟩ | ⟨.createRancherCluster _, .ok _⟩
  | ⟨.createRegistrationToken _, .ok _⟩ | ⟨.createObject _ _, .ok _⟩ => true
  | _ => false

namespace Regime

variable [DecidableEq κ] [DecidableEq ω] {r : Regime κ ω} {m n : Memory κ ω}

theorem serve_of_idle {c : Call Unit}
    (h : Exchange.takesEffect ⟨c, (r.serve c m).1⟩ = false) : (r.serve c m).2 = m := by
  cases c with
  | patchCapiCluster => cases h
  | createRancherCluster _ | createRegistrationToken _ =>
    revert h
    simp only [serve, created]
    split
    · exact fun _ => rfl
    · exact fun h => by cases h
  | fetchManifest url =>
    simp only [serve]
    split <;> rfl
  | createObject client o =>
    revert h
    simp only [serve]
    split
    · exact fun _ => rfl
    · split
      · exact fun _ => rfl
      · exact fun h => by cases h
  | _ => rfl

theorem Attends.eq_of_idle {x : Exchange Unit} (h : r.Attends m x n)
    (hx : x.takesEffect = false) : n = m := by
  obtain ⟨c, answer⟩ := x
  rcases h with h | ⟨_, -, rfl⟩
  · have hs : (answer, n) = r.serve c m := h
    obtain ⟨rfl, rfl⟩ := Prod.mk.inj hs
    exact serve_of_idle hx
  · rfl

theorem Leaves.eq_of_idle {trace : List (Exchange Unit)} (h : r.Leaves m trace n)
    (ht : ∀ x ∈ trace, x.takesEffect = false) : n = m := by
  induction h with
  | nil => rfl
  | cons h _ ih =>
    obtain ⟨hx, hr⟩ := List.forall_mem_cons.1 ht
    exact (ih hr).trans (h.eq_of_idle hx)

/-- A call that has not failed is served. -/
theorem Attends.served {x : Exchange Unit} (h : r.Attends m x n)
    (hx : ∀ e, x.answer ≠ x.call.failed e) : (x.answer, n) = r.serve x.call m :=
  h.resolve_right fun ⟨e, he, _⟩ => hx e he

theorem Attends.getRegistrationToken {key : ObjectKey} {found : Option RegistrationToken}
    (h : r.Attends m ⟨.getRegistrationToken key, .ok found⟩ n) :
    found = m.tokens (r.place key) ∧ n = m := by
  obtain ⟨hx, rfl⟩ := Prod.mk.inj (h.served nofun)
  exact ⟨Except.ok.inj hx, rfl⟩

theorem Attends.createRegistrationToken {token stored : RegistrationToken}
    (h : r.Attends m ⟨.createRegistrationToken token, .ok stored⟩ n) : n = r.withToken token m :=
  eq_of_created (h.served nofun)

theorem Attends.createObject {o : Object} {x : Except KubeError Unit}
    (h : r.Attends m ⟨.createObject () o, x⟩ n) :
    n = m ∨ ∃ id, r.ident? o = some id ∧ n = { m with workload := insert id m.workload } := by
  rcases h with h | ⟨_, -, rfl⟩
  · simp only [serve] at h
    split at h
    · exact .inl (Prod.mk.inj h).2
    · rename_i id hi
      split at h
      · exact .inl (Prod.mk.inj h).2
      · exact .inr ⟨id, hi, (Prod.mk.inj h).2⟩
  · exact .inl rfl

structure Adds (r : Regime κ ω) (objects : List Object) (m n : Memory κ ω) : Prop where
  rest : n = { m with workload := n.workload }
  kept : m.workload ⊆ n.workload
  added : ∀ id ∈ n.workload, id ∈ m.workload ∨ ∃ o ∈ objects, r.ident? o = some id

/-- What the creates of objects leave. -/
theorem Leaves.adds {answers : Answers} (h : r.Leaves m (answers.exchanges ()) n) :
    r.Adds (answers.map Prod.fst) m n := by
  induction answers generalizing m with
  | nil =>
    obtain rfl := leaves_nil.1 h
    exact ⟨rfl, Finset.Subset.refl _, fun id hi => .inl hi⟩
  | cons p answers ih =>
    obtain ⟨l, hp, hr⟩ := leaves_cons.1 h
    obtain ⟨hrest, hkept, hadded⟩ := ih hr
    rcases hp.createObject with rfl | ⟨id, hid, rfl⟩
    · refine ⟨hrest, hkept, fun i hi => (hadded i hi).imp_right ?_⟩
      rintro ⟨o, ho, hio⟩
      exact ⟨o, List.mem_cons_of_mem _ ho, hio⟩
    · refine ⟨hrest, (Finset.subset_insert id _).trans hkept, fun i hi => ?_⟩
      rcases hadded i hi with hm | ⟨o, ho, hio⟩
      · rcases Finset.mem_insert.1 hm with rfl | hm
        · exact .inr ⟨p.1, List.mem_cons_self, hid⟩
        · exact .inl hm
      · exact .inr ⟨o, List.mem_cons_of_mem _ ho, hio⟩

end Regime

inductive Breaks (contents : List Object × Option ManifestError) (before : List Object) :
    ControllerError → Prop
  | refused {o : Object} {after : List Object} {e : KubeError} (he : e.isAlreadyExists = false)
      (h : contents.1 = before ++ o :: after) :
      Breaks contents before (.remoteCreate o.kind o.displayName e)
  | faulty {f : ManifestError} (h : contents.1 = before) (hf : contents.2 = some f) :
      Breaks contents before (.manifest f)

/-- What a reconcile that ends in an error leaves of the clusters. -/
structure Spared [DecidableEq κ] (r : Regime κ ω) (trace : List (Exchange Unit))
    (e : ControllerError) (m n : Memory κ ω) : Prop where
  clusters : n.clusters = m.clusters
  ranchers : n.ranchers = m.ranchers
  tokens : n.tokens = m.tokens ∨ ∃ token,
    m.tokens (r.place token.metadata.key) = none ∧
      n.tokens = Function.update m.tokens (r.place token.metadata.key) (some token)
  workload : n.workload = m.workload ∨ ∃ url text before,
    ⟨.fetchManifest url, .ok text⟩ ∈ trace ∧ Breaks (contents text.toByteArray.toList) before e ∧
      m.workload ⊆ n.workload ∧
      ∀ id ∈ n.workload, id ∈ m.workload ∨ ∃ o ∈ before, r.ident? o = some id

section

variable [DecidableEq κ] [DecidableEq ω] {r : Regime κ ω} {m n : Memory κ ω}
  {trace : List (Exchange Unit)} {e : ControllerError}

theorem Spared.of_idle (h : r.Leaves m trace n) (ht : ∀ x ∈ trace, x.takesEffect = false) :
    Spared r trace e m n := by
  obtain rfl := h.eq_of_idle ht
  exact ⟨rfl, rfl, .inl rfl, .inl rfl⟩

theorem EligibilityCourse.idle {c : CapiCluster} {decided : Except ControllerError Bool}
    {reads : List (Exchange W)} (h : EligibilityCourse c reads decided) :
    ∀ x ∈ reads, x.takesEffect = false := by
  cases h <;> simp [Exchange.takesEffect]

/-- Nothing has been created if there is an error. -/
theorem CreationCourse.idle {c : CapiCluster} {rk : ObjectKey} {steps : List (Exchange W)}
    (h : CreationCourse c rk steps (.error e)) : ∀ x ∈ steps, x.takesEffect = false := by
  cases h with
  | undecided hr => exact hr.idle
  | anonymous hr => exact hr.idle
  | refused hr =>
    simp only [List.forall_mem_append, List.forall_mem_singleton]
    exact ⟨hr.idle, rfl⟩

def TokenStep (r : Regime κ ω) (name ns : String) (m n : Memory κ ω) : Prop :=
  n = m ∨ m.tokens (r.place ⟨ns, name⟩) = none ∧ n = r.withToken (tokenFor name ns) m

theorem TokenCourse.step {name ns : String} {steps : List (Exchange Unit)}
    {got : Except ControllerError RegistrationToken} (h : TokenCourse name ns steps got)
    (hl : r.Leaves m steps n) : TokenStep r name ns m n := by
  cases h with
  | unread => exact .inl (hl.eq_of_idle (by simp [Exchange.takesEffect]))
  | found => exact .inl (hl.eq_of_idle (by simp [Exchange.takesEffect]))
  | missing x =>
    obtain ⟨l, hread, hrest⟩ := Regime.leaves_cons.1 hl
    obtain ⟨hnone, rfl⟩ := hread.getRegistrationToken
    cases x with
    | error e => exact .inl (hrest.eq_of_idle (by simp [Exchange.takesEffect]))
    | ok stored =>
      obtain ⟨k, hcreated, hlast⟩ := Regime.leaves_cons.1 hrest
      obtain rfl := Regime.leaves_nil.1 hlast
      exact .inr ⟨hnone.symm, hcreated.createRegistrationToken⟩

theorem ManifestCourse.step {name ns : String} {steps : List (Exchange Unit)}
    {found : Except ControllerError (Option String)} (h : ManifestCourse name ns steps found)
    (hl : r.Leaves m steps n) : TokenStep r name ns m n := by
  cases h with
  | tokenless h => exact h.step hl
  | unpublished h => exact h.step hl
  | fetched h _ x =>
    obtain ⟨l, hl, hf⟩ := Regime.leaves_append.1 hl
    obtain rfl := hf.eq_of_idle (by simp [Exchange.takesEffect])
    exact h.step hl

omit [DecidableEq ω] in
/-- A token at most, and objects in front of the point where the manifest breaks off. -/
theorem Spared.of_adds {name ns url text : String} {l : Memory κ ω} {before : List Object}
    (ht : TokenStep r name ns m l) (ha : r.Adds before l n)
    (hf : ⟨.fetchManifest url, .ok text⟩ ∈ trace)
    (hb : Breaks (contents text.toByteArray.toList) before e) : Spared r trace e m n := by
  obtain ⟨hrest, hkept, hadded⟩ := ha
  have hworkload : l.workload = m.workload := by rcases ht with rfl | ⟨-, rfl⟩ <;> rfl
  rw [hworkload] at hkept hadded
  rw [hrest]
  refine ⟨?_, ?_, ?_, .inr ⟨url, text, before, hf, hb, hkept, hadded⟩⟩
  · rcases ht with rfl | ⟨-, rfl⟩ <;> rfl
  · rcases ht with rfl | ⟨-, rfl⟩ <;> rfl
  · rcases ht with rfl | ⟨hnone, rfl⟩
    · exact .inl rfl
    · exact .inr ⟨tokenFor name ns, hnone, rfl⟩

omit [DecidableEq ω] in
theorem Spared.of_token {name ns : String} (ht : TokenStep r name ns m n) :
    Spared r trace e m n := by
  rcases ht with rfl | ⟨hnone, rfl⟩
  · exact ⟨rfl, rfl, .inl rfl, .inl rfl⟩
  · exact ⟨rfl, rfl, .inr ⟨tokenFor name ns, hnone, rfl⟩, .inl rfl⟩

theorem Manifest.ApplyCourse.spared {name ns url text : String} {l : Memory κ ω}
    {outcome : ApplyOutcome} {creates : List (Exchange Unit)}
    (h : ApplyCourse () (contents text.toByteArray.toList).1 (contents text.toByteArray.toList).2
      outcome creates (.error e))
    (ht : TokenStep r name ns m l) (hl : r.Leaves l creates n)
    (hf : ⟨.fetchManifest url, .ok text⟩ ∈ trace) : Spared r trace e m n := by
  cases h with
  | refused ho _ he =>
    obtain ⟨k, hl, hlast⟩ := Regime.leaves_append.1 hl
    obtain rfl := hlast.eq_of_idle (by simp [Exchange.takesEffect])
    exact .of_adds ht hl.adds hf (.refused he ho)
  | faulty hfault ho => exact .of_adds ht hl.adds hf (.faulty ho.symm hfault)

theorem RegisterCourse.spared {requeueAfter : Nat} {c : CapiCluster} {rancher : RancherCluster}
    {steps : List (Exchange Unit)} (h : RegisterCourse requeueAfter c rancher steps (.error e))
    (hl : r.Leaves m steps n) (hs : ∀ x ∈ steps, x ∈ trace) : Spared r trace e m n := by
  generalize hr : (.error e : Except ControllerError Requeue) = result at h
  cases h with
  | unnamed => cases hr
  | deployed => cases hr
  | unpublished => cases hr
  | unfetched _ _ hm => exact .of_token (hm.step hl)
  | unreachable _ _ hm =>
    obtain ⟨l, hl, hf⟩ := Regime.leaves_append.1 hl
    obtain rfl := hf.eq_of_idle (by simp [Exchange.takesEffect])
    exact .of_token (hm.step hl)
  | @applied name text first creates client outcome _ _ hm ha =>
    obtain ⟨l, hfirst, hrest⟩ := Regime.leaves_append.1 hl
    obtain ⟨k, hclient, hcreates⟩ := Regime.leaves_cons.1 hrest
    obtain rfl := hclient.eq_of_idle rfl
    obtain ⟨url, hf⟩ := hm.fetch_mem
    have hf : ⟨.fetchManifest url, .ok text⟩ ∈ trace := hs _ (List.mem_append_left _ hf)
    cases outcome with
    | ok => cases hr
    | error d =>
      obtain rfl := Except.error.inj hr
      exact ha.spared (hm.step hfirst) hcreates hf

theorem spared_of_runs {requeueAfter : Nat} {key : ObjectKey}
    (h : Runs (reconcile requeueAfter key) trace (.error e)) (hl : r.Leaves m trace n) :
    Spared r trace e m n := by
  generalize hr : (.error e : Except ControllerError Requeue) = result at h
  cases reconcileCourse h with
  | unread => exact .of_idle hl (by simp [Exchange.takesEffect])
  | missing => cases hr
  | waiting => cases hr
  | homeless => exact .of_idle hl (by simp [Exchange.takesEffect])
  | rancherUnread => exact .of_idle hl (by simp [Exchange.takesEffect])
  | absent _ _ hc =>
    rw [← hr] at hc
    exact .of_idle hl (by simpa [Exchange.takesEffect] using hc.idle)
  | marked => cases hr
  | marking _ _ _ _ x =>
    cases x with
    | ok => cases hr
    | error => exact .of_idle hl (by simp [Exchange.takesEffect])
  | present _ _ _ hreg =>
    rw [← hr] at hreg
    obtain ⟨l, hread, hrest⟩ := Regime.leaves_cons.1 hl
    obtain rfl := hread.eq_of_idle rfl
    obtain ⟨k, hlooked, hsteps⟩ := Regime.leaves_cons.1 hrest
    obtain rfl := hlooked.eq_of_idle rfl
    exact hreg.spared hsteps fun x hx => by simp [hx]

end

/-- Clusters in memory are spared, whatever failures are set for them. -/
theorem InMemory.spared_of_error [DecidableEq κ] [DecidableEq ω] (clusters : InMemory σ κ ω)
    {requeueAfter : Nat} {key : ObjectKey} {s : σ} {e : ControllerError}
    (h : ((reconcile requeueAfter key).run.run clusters.environment s).1 = .error e) :
    Spared clusters.regime ((reconcile requeueAfter key).run.trace clusters.environment s) e
      (clusters.memory s)
      (clusters.memory ((reconcile requeueAfter key).run.run clusters.environment s).2) := by
  have hr := Proc.runs_trace clusters.environment (reconcile requeueAfter key).run s
  rw [h] at hr
  exact spared_of_runs hr (clusters.leaves_trace _ s)

/-- Whatever the clients answer, a failure is accounted for; and clusters in memory that any of the
calls may have failed on are spared by a reconcile that ends in an error. -/
theorem failures_of_runs (requeueAfter : Nat) (key : ObjectKey) :
    (∀ (W : Type) (trace : List (Exchange W)) (result : Except ControllerError Requeue),
      Runs (reconcile requeueAfter key) trace result → Accounted requeueAfter key trace result) ∧
    ∀ (κ ω : Type) [DecidableEq κ] [DecidableEq ω] (r : Regime κ ω) (m n : Memory κ ω)
      (trace : List (Exchange Unit)) (e : ControllerError),
      Runs (reconcile requeueAfter key) trace (.error e) → r.Leaves m trace n →
        Spared r trace e m n :=
  ⟨fun _ _ _ h => accounted_of_runs h, fun _ _ _ _ _ _ _ _ _ h hl => spared_of_runs h hl⟩

/-- A pond whose manifest holds a namespace and an agent, and where the agent is denied. -/
def deniedPond : Store where
  clusters := Store.pond.clusters
  ranchers := Store.pond.ranchers
  tokens := Store.pond.tokens
  manifests := [("u", "kind: Namespace\napiVersion: v1\nmetadata: \x7bname: pond\x7d\n---\n" ++
    "kind: Pod\napiVersion: v1\nmetadata: \x7bname: agent\x7d\n")]
  failures := [⟨"remote_create", "Pod/agent", .failure 403 "Forbidden" "denied"⟩]

theorem run_deniedPond : (deniedPond.run (reconcile 30 ⟨"pond", "ducks"⟩)).1.isOk = false ∧
    (deniedPond.run (reconcile 30 ⟨"pond", "ducks"⟩)).2.workload = [⟨"Namespace", "", "pond"⟩] := by
  decide +kernel

theorem failures_of_runs_deniedPond :
    let p : Import Unit Requeue := reconcile 30 ⟨"pond", "ducks"⟩
    let trace := p.run.trace Store.environment deniedPond
    ∃ e, Runs p trace (.error e) ∧
      Store.regime.Leaves deniedPond.memory trace (deniedPond.run p).2.memory ∧
      Accounted 30 ⟨"pond", "ducks"⟩ trace (.error e) ∧
      Spared Store.regime trace e deniedPond.memory (deniedPond.run p).2.memory ∧
      (deniedPond.run p).2.workload = [⟨"Namespace", "", "pond"⟩] := by
  intro p trace
  have herror {x : Except ControllerError Requeue} (h : x.isOk = false) : ∃ e, x = .error e := by
    cases x with
    | error e => exact ⟨e, rfl⟩
    | ok requeue => cases h
  have hruns (s : Store) : Runs p (p.run.trace Store.environment s) (s.run p).1 :=
    Proc.runs_trace Store.environment p.run s
  have hleaves (s : Store) : Store.regime.Leaves s.memory (p.run.trace Store.environment s)
      (s.run p).2.memory := Store.inMemory.leaves_trace p.run s
  have hl := hleaves deniedPond
  obtain ⟨e, he⟩ := herror run_deniedPond.1
  have hr : Runs p trace (.error e) := he ▸ hruns deniedPond
  obtain ⟨haccounted, hspared⟩ := failures_of_runs 30 ⟨"pond", "ducks"⟩
  exact ⟨e, hr, hl, haccounted _ _ _ hr, hspared _ _ _ _ _ _ _ hr hl, run_deniedPond.2⟩

end ClusterImport
