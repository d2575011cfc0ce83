import ClusterImport.Proofs.Decision
import ClusterImport.Proofs.Failure
/-!
How soon a reconcile comes again. One that creates a Rancher cluster asks for the next at once, and
that is the only ground as long as the CAPI cluster is there. The next ones find what was created:
its place is made of the same cluster, it stays, and it has no name in Rancher yet. So they wait, and
nothing changes but by others.
-/
namespace ClusterImport

open Import

variable {σ κ ω : Type} [DecidableEq κ] [DecidableEq ω] {r : Regime κ ω} {m n l : Memory κ ω}
  {requeueAfter : Nat} {key : ObjectKey} {trace : List (Exchange Unit)}
  {result : Except ControllerError Requeue} {results : List (Except ControllerError Requeue)}

namespace Regime

theorem Attends.getCapiCluster {found : Option CapiCluster}
    (h : r.Attends m ⟨.getCapiCluster key, .ok found⟩ n) :
    found = m.clusters (r.place key) ∧ n = m := by
  obtain ⟨hx, rfl⟩ := Prod.mk.inj (h.served nofun)
  exact ⟨Except.ok.inj hx, rfl⟩

theorem Attends.getRancherCluster {found : Option RancherCluster}
    (h : r.Attends m ⟨.getRancherCluster key, .ok found⟩ n) :
    found = m.ranchers (r.place key) ∧ n = m := by
  obtain ⟨hx, rfl⟩ := Prod.mk.inj (h.served nofun)
  exact ⟨Except.ok.inj hx, rfl⟩

theorem Attends.createRancherCluster {rancher stored : RancherCluster}
    (h : r.Attends m ⟨.createRancherCluster rancher, .ok stored⟩ n) :
    n = r.withRancher rancher m :=
  eq_of_created (h.served nofun)

/-- No call removes a CAPI cluster. -/
theorem serve_clusters_isSome (c : Call Unit) (k : κ) (h : (m.clusters k).isSome) :
    ((r.serve c m).2.clusters k).isSome := by
  cases c with
  | patchCapiCluster key patch =>
    by_cases hk : k = r.place key
    · subst hk
      simpa [serve, withPatch] using h
    · simpa [serve, withPatch, hk] using h
  | createRancherCluster _ | createRegistrationToken _ =>
    simp only [serve, created]
    split <;> exact h
  | fetchManifest url =>
    simp only [serve]
    split <;> exact h
  | createObject client o =>
    simp only [serve]
    split
    · exact h
    · split <;> exact h
  | _ => exact h

theorem Attends.clusters_isSome {x : Exchange Unit} (hx : r.Attends m x n) {k : κ}
    (h : (m.clusters k).isSome) : (n.clusters k).isSome := by
  rcases hx with hs | ⟨_, -, rfl⟩
  · obtain ⟨-, rfl⟩ := Prod.mk.inj hs
    exact serve_clusters_isSome x.call k h
  · exact h

theorem Leaves.clusters_isSome (hl : r.Leaves m trace n) {k : κ} (h : (m.clusters k).isSome) :
    (n.clusters k).isSome := by
  induction hl with
  | nil => exact h
  | cons hx _ ih => exact ih (hx.clusters_isSome h)

end Regime

inductive Waits (requeueAfter : Nat) : Except ControllerError Requeue → Prop
  | later : Waits requeueAfter (.ok (.after requeueAfter))
  | failed (e : ControllerError) : Waits requeueAfter (.error e)

def isImmediate : Except ControllerError Requeue → Bool
  | .ok .immediately => true
  | _ => false

theorem Waits.not_immediate (h : Waits requeueAfter result) : isImmediate result = false := by
  cases h <;> rfl

theorem eq_of_isImmediate (h : isImmediate result = true) : result = .ok .immediately := by
  unfold isImmediate at h
  split at h
  · rfl
  · cases h

def Awaited (r : Regime κ ω) (key : ObjectKey) (m : Memory κ ω) : Prop :=
  ∃ c rk rancher, m.clusters (r.place key) = some c ∧ rancherKey c = .ok rk ∧
    m.ranchers (r.place rk) = some rancher ∧ rancher.isDeleting = false ∧
    rancher.managementName? = none

/-- A reconcile ends at once only after it has created the Rancher cluster. -/
theorem awaited_of_immediately (h : Runs (reconcile requeueAfter key) trace (.ok .immediately))
    (hl : r.Leaves m trace n) (hc : (m.clusters (r.place key)).isSome) : Awaited r key n := by
  generalize hr : (.ok .immediately : Except ControllerError Requeue) = result at h
  cases reconcileCourse h with
  | missing =>
    obtain ⟨_, hx, -⟩ := Regime.leaves_cons.1 hl
    rw [← hx.getCapiCluster.1] at hc
    cases hc
  | @absent c rk rest _ _ hk hcreate =>
    obtain ⟨_, hread, hrest⟩ := Regime.leaves_cons.1 hl
    obtain ⟨hfound, rfl⟩ := hread.getCapiCluster
    obtain ⟨_, hlooked, hsteps⟩ := Regime.leaves_cons.1 hrest
    obtain ⟨-, rfl⟩ := hlooked.getRancherCluster
    cases hcreate with
    | @created reads rancher hd hrancher stored =>
      obtain ⟨_, hreads, hlast⟩ := Regime.leaves_append.1 hsteps
      obtain rfl := hreads.eq_of_idle hd.idle
      obtain ⟨_, hcreated, hnil⟩ := Regime.leaves_cons.1 hlast
      obtain rfl := Regime.leaves_nil.1 hnil
      obtain rfl := hcreated.createRancherCluster
      obtain ⟨hkey, hstays, hname⟩ := Regime.of_rancherClusterFor hrancher
      refine ⟨c, rk, rancher, hfound.symm, hk, ?_, hstays, hname⟩
      rw [Regime.withRancher, hkey]
      exact Function.update_self _ _ _
    | _ => cases hr
  | marking _ _ _ _ x => cases x <;> cases hr
  | present _ _ _ hreg =>
    cases hreg with
    | @applied _ _ _ _ _ outcome => cases outcome <;> cases hr
    | _ => cases hr
  | _ => cases hr

/-- A reconcile that finds what it awaits changes nothing. -/
theorem Awaited.round (ha : Awaited r key m) (h : Runs (reconcile requeueAfter key) trace result)
    (hl : r.Leaves m trace n) : Waits requeueAfter result ∧ n = m := by
  obtain ⟨c, rk, rancher, hc, hk, hrancher, hstays, hname⟩ := ha
  -- the two clusters that are read, and what is left to do after them
  have hread {found : Option CapiCluster} {rest : List (Exchange Unit)}
      (hl : r.Leaves m (⟨.getCapiCluster key, .ok found⟩ :: rest) n) :
      found = some c ∧ r.Leaves m rest n := by
    obtain ⟨_, hx, hrest⟩ := Regime.leaves_cons.1 hl
    obtain ⟨hfound, rfl⟩ := hx.getCapiCluster
    exact ⟨hfound.trans hc, hrest⟩
  have hlooked {d : CapiCluster} {place : ObjectKey} {held : Option RancherCluster}
      {rest : List (Exchange Unit)} (hd : rancherKey d = .ok place)
      (hl : r.Leaves m (⟨.getCapiCluster key, .ok (some d)⟩ ::
        ⟨.getRancherCluster place, .ok held⟩ :: rest) n) :
      held = some rancher ∧ r.Leaves m rest n := by
    obtain ⟨hfound, hl⟩ := hread hl
    obtain rfl := Option.some.inj hfound
    obtain rfl := Except.ok.inj (hk.symm.trans hd)
    obtain ⟨_, hx, hrest⟩ := Regime.leaves_cons.1 hl
    obtain ⟨hheld, rfl⟩ := hx.getRancherCluster
    exact ⟨hheld.trans hrancher, hrest⟩
  cases reconcileCourse h with
  | unread e => exact ⟨.failed _, hl.eq_of_idle (by simp [Exchange.takesEffect])⟩
  | missing => cases (hread hl).1
  | waiting => exact ⟨.later, hl.eq_of_idle (by simp [Exchange.takesEffect])⟩
  | homeless => exact ⟨.failed _, hl.eq_of_idle (by simp [Exchange.takesEffect])⟩
  | rancherUnread _ _ e => exact ⟨.failed _, hl.eq_of_idle (by simp [Exchange.takesEffect])⟩
  | absent _ hd => cases (hlooked hd hl).1
  | marked _ hd hdeleting =>
    obtain rfl := Option.some.inj (hlooked hd hl).1
    cases hstays.symm.trans hdeleting
  | marking _ hd hdeleting =>
    obtain rfl := Option.some.inj (hlooked hd hl).1
    cases hstays.symm.trans hdeleting
  | present _ hd _ hreg =>
    obtain ⟨hheld, hl⟩ := hlooked hd hl
    obtain rfl := Option.some.inj hheld
    cases hreg with
    | unnamed => exact ⟨.later, Regime.leaves_nil.1 hl⟩
    | deployed hn => cases hname.symm.trans hn
    | unfetched hn => cases hname.symm.trans hn
    | unpublished hn => cases hname.symm.trans hn
    | unreachable hn => cases hname.symm.trans hn
    | applied hn => cases hname.symm.trans hn

/-- Reconciles of one key in turn. Nothing else changes what the clusters hold, but other calls may
fail each time. -/
inductive Rounds (r : Regime κ ω) (requeueAfter : Nat) (key : ObjectKey) :
    Memory κ ω → List (Except ControllerError Requeue) → Memory κ ω → Prop
  | nil (m : Memory κ ω) : Rounds r requeueAfter key m [] m
  | cons {m n l : Memory κ ω} {trace : List (Exchange Unit)}
      {result : Except ControllerError Requeue} {results : List (Except ControllerError Requeue)}
      (h : Runs (reconcile requeueAfter key) trace result) (hl : r.Leaves m trace n)
      (rest : Rounds r requeueAfter key n results l) :
      Rounds r requeueAfter key m (result :: results) l

theorem Rounds.waits_of_awaited (h : Rounds r requeueAfter key m results l)
    (ha : Awaited r key m) : ∀ result ∈ results, Waits requeueAfter result := by
  induction h with
  | nil => simp
  | cons h hl _ ih =>
    obtain ⟨hw, rfl⟩ := ha.round h hl
    exact List.forall_mem_cons.2 ⟨hw, ih ha⟩

structure Paced (requeueAfter : Nat) (results : List (Except ControllerError Requeue)) : Prop where
  once : results.countP isImmediate ≤ 1
  waits : ∀ before after, results = before ++ .ok .immediately :: after →
    ∀ result ∈ after, Waits requeueAfter result

theorem Paced.nil : Paced requeueAfter [] where
  once := Nat.zero_le 1
  waits before after h := by simp at h

/-- The first one is to be followed at once. -/
theorem Paced.immediately (h : ∀ result ∈ results, Waits requeueAfter result) :
    Paced requeueAfter (.ok .immediately :: results) where
  once := by
    have hnone : results.countP isImmediate = 0 :=
      List.countP_eq_zero.2 fun x hx => by simp [(h x hx).not_immediate]
    rw [List.countP_cons_of_pos rfl, hnone]
  waits before after hs := by
    cases before with
    | nil =>
      obtain ⟨-, rfl⟩ := List.cons.inj hs
      exact h
    | cons x before =>
      obtain ⟨-, rfl⟩ := List.cons.inj hs
      have hw : Waits requeueAfter (.ok .immediately) := h _ (by simp)
      cases hw.not_immediate

theorem Paced.cons (hp : Paced requeueAfter results) (hr : isImmediate result = false) :
    Paced requeueAfter (result :: results) where
  once := by
    rw [List.countP_cons_of_neg (by simp [hr])]
    exact hp.once
  waits before after hs := by
    cases before with
    | nil =>
      obtain ⟨rfl, -⟩ := List.cons.inj hs
      cases hr
    | cons x before =>
      obtain ⟨-, hs⟩ := List.cons.inj hs
      exact hp.waits before after hs

/-- There is no hot loop: whatever fails, one key is reconciled again at once no more than once. -/
theorem paced_of_rounds (h : Rounds r requeueAfter key m results l)
    (hc : (m.clusters (r.place key)).isSome) : Paced requeueAfter results := by
  induction h with
  | nil => exact .nil
  | @cons m n l trace result results h hl rest ih =>
    cases hr : isImmediate result with
    | true =>
      obtain rfl := eq_of_isImmediate hr
      exact .immediately (rest.waits_of_awaited (awaited_of_immediately h hl hc))
    | false => exact (ih (hl.clusters_isSome hc)).cons hr

/-- A reconcile of clusters in memory is a round, whatever failures are set for it. -/
theorem InMemory.round (clusters : InMemory σ κ ω) {s : σ}
    (h : Rounds clusters.regime requeueAfter key
      (clusters.memory (clusters.reconciled requeueAfter key s).2) results l) :
    Rounds clusters.regime requeueAfter key (clusters.memory s)
      ((clusters.reconciled requeueAfter key s).1 :: results) l :=
  .cons (Proc.runs_trace clusters.environment (reconcile requeueAfter key).run s)
    (clusters.leaves_trace (reconcile requeueAfter key).run s) h

def Store.reconciledAmid (failing : List String) (s : Store) :
    Except ControllerError Requeue × Store :=
  Store.inMemory.reconciled 30 ⟨"pond", "ducks"⟩
    { s with failures := failing.map fun call => ⟨call, "", .failure 500 "InternalError" "down"⟩ }

/-- Failures are not part of what the clusters hold. -/
theorem Store.round_amid (failing : List String) {s : Store} {l : Memory String WorkloadKey}
    (h : Rounds Store.regime 30 ⟨"pond", "ducks"⟩ (s.reconciledAmid failing).2.memory results l) :
    Rounds Store.regime 30 ⟨"pond", "ducks"⟩ s.memory ((s.reconciledAmid failing).1 :: results) l :=
  Store.inMemory.round h

/-- The create fails and succeeds, then a look-up fails and succeeds. -/
theorem paced_ducks :
    let first := Store.reconciledAmid ["create_rancher_cluster"] { clusters := Store.pond.clusters }
    let second := first.2.reconciledAmid []
    let third := second.2.reconciledAmid ["get_rancher_cluster"]
    let fourth := third.2.reconciledAmid []
    let results := [first.1, second.1, third.1, fourth.1]
    results.map Except.toOption = [none, some .immediately, none, some (.after 30)] ∧
      Paced 30 results := by
  intro first second third fourth results
  have h := Store.round_amid _ <| Store.round_amid _ <| Store.round_amid _ <|
    Store.round_amid (s := third.2) [] (.nil fourth.2.memory)
  exact ⟨by decide +kernel, paced_of_rounds h rfl⟩

end ClusterImport
