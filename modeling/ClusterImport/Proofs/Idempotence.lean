import ClusterImport.Proofs.Footprint
import ClusterImport.Proofs.ReadBack
/-!
A reconcile that is repeated at once leaves the clusters as they are. After a create the Rancher
cluster is found and not yet named, after a mark the CAPI cluster is found marked, after a new token
the token is found and publishes nothing, and after a manifest the same objects are there already.
-/
namespace ClusterImport

open Decision

variable {σ κ ω : Type} [DecidableEq κ] [DecidableEq ω]

namespace Regime

variable {r : Regime κ ω} {faults : Faults} {requeueAfter : Nat} {m : Memory κ ω} {key : ObjectKey}
  {c : CapiCluster} {rk : ObjectKey} {rancher : RancherCluster}

/-- A Rancher cluster that has just been created is there and has no name in Rancher yet. -/
theorem decide_withRancher (h : Looked r faults m key c rk none)
    (hr : rancherClusterFor c rk = .ok rancher) :
    r.decide faults requeueAfter (r.withRancher rancher m) key =
      idle (.ok (.after requeueAfter)) := by
  obtain ⟨hk, hstays, hunnamed⟩ := of_rancherClusterFor hr
  have hfound : (r.withRancher rancher m).ranchers (r.place rk) = some rancher := by
    simp [withRancher, hk]
  have hlooked : Looked r faults (r.withRancher rancher m) key c rk (some rancher) := {
    cluster := h.cluster
    ready := h.ready
    home := h.home
    rancher := by rw [hfound, unlessFailing_of_ok h.rancher] }
  have hs : r.standing faults requeueAfter (r.withRancher rancher m) key =
      .settled (idle (.ok (.after requeueAfter))) := by
    simp [hlooked.standing, hstays, awaiting, hunnamed]
  exact decide_of_settled hs

omit [DecidableEq κ] [DecidableEq ω] in
/-- What is there of a CAPI cluster that has just been marked. -/
theorem patched_markPatch (r : Regime κ ω) (c : CapiCluster) :
    r.patched c.markPatch c = c ∨ CapiCluster.Agrees c.marked (r.patched c.markPatch c) := by
  unfold patched
  cases r.merges with
  | false => exact .inl rfl
  | true =>
    rw [if_pos rfl, merge_markPatch]
    cases hd : CapiCluster.decode c.marked.encode with
    | none => exact .inl rfl
    | some d => exact .inr (CapiCluster.agrees_of_decode hd)

/-- A mark that has taken effect is found. -/
theorem decide_withPatch (h : Looked r faults m key c rk (some rancher))
    (hd : rancher.isDeleting = true)
    (ha : CapiCluster.Agrees c.marked (r.patched c.markPatch c)) :
    r.decide faults requeueAfter (r.withPatch key c.markPatch m) key = idle (.ok .never) := by
  have hfound : (r.withPatch key c.markPatch m).clusters (r.place key) =
      some (r.patched c.markPatch c) := by
    simp [withPatch, held_of_unlessFailing h.cluster]
  have hlooked : Looked r faults (r.withPatch key c.markPatch m) key (r.patched c.markPatch c) rk
      (some rancher) := {
    cluster := by rw [hfound, unlessFailing_of_ok h.cluster]
    ready := ha.ready.trans h.ready
    home := ha.rancherKey.trans h.home
    rancher := h.rancher }
  have hs : r.standing faults requeueAfter (r.withPatch key c.markPatch m) key =
      .settled (idle (.ok .never)) := by
    simp [hlooked.standing, hd, marking, ha.isMarked, CapiCluster.isMarked_marked]
  exact decide_of_settled hs

/-- What is decided after the effect of a decision has no effect. -/
theorem perform_again (r : Regime κ ω) (faults : Faults) (requeueAfter : Nat) (m : Memory κ ω)
    (key : ObjectKey) :
    let n := r.perform (r.decide faults requeueAfter m key).effect m
    r.perform (r.decide faults requeueAfter n key).effect n = n := by
  cases hs : r.standing faults requeueAfter m key with
  | settled d =>
    have hm := decide_of_settled hs
    have hstands := stands r faults requeueAfter m key
    rw [hs] at hstands
    cases hstands with
    | idle x =>
      simp only [hm, perform, idle]
    | create h hr =>
      rw [hm]
      simp only [perform, decide_withRancher h hr, idle]
    | @mark c rk rancher h hd =>
      rw [hm]
      dsimp only [perform]
      rcases r.patched_markPatch c with hsame | hagrees
      · rw [withPatch_of_same (held_of_unlessFailing h.cluster) hsame, hm]
        exact withPatch_of_same (held_of_unlessFailing h.cluster) hsame
      · rw [decide_withPatch h hd hagrees]
        rfl
  | registering c name =>
    have hm := decide_of_registering hs
    have hregisters := registers r faults requeueAfter m c name
    rw [← hm] at hregisters
    generalize hd : r.decide faults requeueAfter m key = d at hregisters
    cases hregisters with
    | idle x => simp only [hd, perform, idle]
    | token h =>
      simp only [perform, decide_withToken hs h, idle]
    | objects x ids =>
      simp only [perform, decide_withObjects, hd, Finset.union_assoc, Finset.union_self]

end Regime

/-- Two reconciles of a key in a row leave the clusters as the first one does. -/
theorem InMemory.reconciled_again (clusters : InMemory σ κ ω) (requeueAfter : Nat) (key : ObjectKey)
    (s : σ) :
    let once := (clusters.reconciled requeueAfter key s).2
    let twice := (clusters.reconciled requeueAfter key once).2
    clusters.memory twice = clusters.memory once := by
  intro once twice
  have honce : clusters.memory once = _ := clusters.memory_reconciled requeueAfter key s
  have htwice : clusters.memory twice = _ := clusters.memory_reconciled requeueAfter key once
  have hf : clusters.faults once = clusters.faults s :=
    clusters.faults_reconciled requeueAfter key s
  rw [htwice, decided, hf, honce]
  exact clusters.regime.perform_again _ _ _ _

end ClusterImport
