import ClusterImport.Proofs.Decision
import ClusterImport.Proofs.Ownership
/-!
What a decision depends on and what it changes. It goes by the CAPI cluster at the key, by its
Rancher cluster, by one token, and by namespaces and manifests; objects on the workload cluster do
not count. Each effect has its grounds in what has been read.
-/
namespace ClusterImport

open Manifest Decision

variable {α κ ω : Type}

/-- What is read once can be read again, whatever is held then. -/
theorem unlessFailing_of_ok {fault? : Option KubeError} {held a : α}
    (h : unlessFailing fault? held = .ok a) (b : α) : unlessFailing fault? b = .ok b := by
  unfold unlessFailing at h ⊢
  split at h
  · cases h
  · rfl

namespace Regime

variable {r : Regime κ ω} {faults : Faults} {requeueAfter : Nat} {m n : Memory κ ω}
  {key : ObjectKey}

structure Looked (r : Regime κ ω) (faults : Faults) (m : Memory κ ω) (key : ObjectKey)
    (c : CapiCluster) (rk : ObjectKey) (found : Option RancherCluster) : Prop where
  cluster : unlessFailing (faults (.getCapiCluster key)) (m.clusters (r.place key)) = .ok (some c)
  ready : c.isControlPlaneReady = true
  home : rancherKey c = .ok rk
  rancher : unlessFailing (faults (.getRancherCluster rk)) (m.ranchers (r.place rk)) = .ok found

theorem Looked.standing {c : CapiCluster} {rk : ObjectKey} {found : Option RancherCluster}
    (h : Looked r faults m key c rk found) :
    r.standing faults requeueAfter m key = match found with
      | none => .settled (creation faults m c rk)
      | some rancher =>
        if rancher.isDeleting then .settled (marking faults key c)
        else awaiting requeueAfter c rancher := by
  obtain ⟨hc, hready, hk, hr⟩ := h
  simp only [Regime.standing, hc, hready, hk, hr, Bool.not_true, Bool.false_eq_true, if_false]
  cases found <;> rfl

inductive Stands (r : Regime κ ω) (faults : Faults) (m : Memory κ ω) (key : ObjectKey) :
    Standing ω → Prop
  | idle (x : Except ControllerError Requeue) : Stands r faults m key (.settled (idle x))
  | create {c : CapiCluster} {rk : ObjectKey} {rancher : RancherCluster}
      (h : Looked r faults m key c rk none) (hr : rancherClusterFor c rk = .ok rancher) :
      Stands r faults m key (.settled ⟨.ok .immediately, .rancher rancher⟩)
  | mark {c : CapiCluster} {rk : ObjectKey} {rancher : RancherCluster}
      (h : Looked r faults m key c rk (some rancher)) (hd : rancher.isDeleting = true) :
      Stands r faults m key (.settled ⟨.ok .never, .patch key c.markPatch⟩)
  | register {c : CapiCluster} {rk : ObjectKey} {rancher : RancherCluster}
      (h : Looked r faults m key c rk (some rancher)) (name : String) :
      Stands r faults m key (.registering c name)

theorem stands_creation {c : CapiCluster} {rk : ObjectKey} (h : Looked r faults m key c rk none) :
    Stands r faults m key (.settled (creation faults m c rk)) := by
  unfold creation
  cases eligible faults m c with
  | error e => exact .idle _
  | ok decided =>
    cases decided with
    | false => exact .idle _
    | true =>
      simp only [after, Bool.not_true, Bool.false_eq_true, if_false]
      cases hr : rancherClusterFor c rk with
      | error e => exact .idle _
      | ok rancher =>
        dsimp only
        cases unlessFailing (faults (.createRancherCluster rancher)) () with
        | error e => exact .idle _
        | ok _ => exact .create h hr

theorem stands (r : Regime κ ω) (faults : Faults) (requeueAfter : Nat) (m : Memory κ ω)
    (key : ObjectKey) : Stands r faults m key (r.standing faults requeueAfter m key) := by
  unfold standing
  cases hc : unlessFailing (faults (.getCapiCluster key)) (m.clusters (r.place key)) with
  | error e => exact .idle _
  | ok found =>
    cases found with
    | none => exact .idle _
    | some c =>
      dsimp only
      cases hready : c.isControlPlaneReady with
      | false => exact .idle _
      | true =>
        simp only [Bool.not_true, Bool.false_eq_true, if_false]
        cases hk : rancherKey c with
        | error e => exact .idle _
        | ok rk =>
          dsimp only
          cases hr : unlessFailing (faults (.getRancherCluster rk)) (m.ranchers (r.place rk)) with
          | error e => exact .idle _
          | ok found =>
            have h : Looked r faults m key c rk found := ⟨hc, hready, hk, hr⟩
            cases found with
            | none => exact stands_creation h
            | some rancher =>
              dsimp only
              cases hd : rancher.isDeleting with
              | true =>
                simp only [if_true, marking]
                split
                · exact .idle _
                · cases unlessFailing (faults (.patchCapiCluster key c.markPatch)) () with
                  | error e => exact .idle _
                  | ok _ => exact .mark h hd
              | false =>
                simp only [Bool.false_eq_true, if_false, awaiting]
                split
                · exact .idle _
                · split
                  · exact .idle _
                  · exact .register h _

structure Wanted (r : Regime κ ω) (faults : Faults) (m : Memory κ ω) (ns name : String) :
    Prop where
  missing : unlessFailing (faults (.getRegistrationToken ⟨ns, name⟩))
    (m.tokens (r.place ⟨ns, name⟩)) = .ok none
  free : faults (.createRegistrationToken (tokenFor name ns)) = none

inductive Registers (r : Regime κ ω) (faults : Faults) (requeueAfter : Nat) (m : Memory κ ω)
    (c : CapiCluster) (name : String) : Decision ω → Prop
  | idle (x : Except ControllerError Requeue) : Registers r faults requeueAfter m c name (idle x)
  | token (h : Wanted r faults m (c.metadata.inNamespace.getD "") name) :
      Registers r faults requeueAfter m c name
        ⟨.ok (.after requeueAfter), .token (tokenFor name (c.metadata.inNamespace.getD ""))⟩
  | objects (x : Except ControllerError Requeue) (ids : Finset ω) :
      Registers r faults requeueAfter m c name ⟨x, .objects ids⟩

variable [DecidableEq ω]

theorem registers (r : Regime κ ω) (faults : Faults) (requeueAfter : Nat) (m : Memory κ ω)
    (c : CapiCluster) (name : String) :
    Registers r faults requeueAfter m c name (r.registration faults requeueAfter m c name) := by
  unfold registration
  dsimp only
  cases h : unlessFailing (faults (.getRegistrationToken ⟨c.metadata.inNamespace.getD "", name⟩))
      (m.tokens (r.place ⟨c.metadata.inNamespace.getD "", name⟩)) with
  | error e => exact .idle _
  | ok found =>
    cases found with
    | none =>
      cases hf : faults (.createRegistrationToken
          (tokenFor name (c.metadata.inNamespace.getD ""))) with
      | some e => exact .idle _
      | none => exact .token ⟨h, hf⟩
    | some token =>
      dsimp only [after]
      cases token.manifestUrl? with
      | none => exact .idle _
      | some url =>
        dsimp only
        cases fetched faults m url with
        | error e => exact .idle _
        | ok text =>
          dsimp only
          cases connected faults c with
          | error e => exact .idle _
          | ok _ => exact .objects _ _

theorem decide_of_settled {d : Decision ω}
    (h : r.standing faults requeueAfter m key = .settled d) :
    r.decide faults requeueAfter m key = d := by
  rw [decide, h, resolve]

theorem decide_of_registering {c : CapiCluster} {name : String}
    (h : r.standing faults requeueAfter m key = .registering c name) :
    r.decide faults requeueAfter m key = r.registration faults requeueAfter m c name := by
  rw [decide, h, resolve]

omit [DecidableEq ω] in
/-- Tokens, manifests and objects have no part in what the two clusters say. -/
theorem standing_congr (hc : n.clusters (r.place key) = m.clusters (r.place key))
    (hr : ∀ c rk, m.clusters (r.place key) = some c → rancherKey c = .ok rk →
      n.ranchers (r.place rk) = m.ranchers (r.place rk)) (hn : n.namespaces = m.namespaces) :
    r.standing faults requeueAfter n key = r.standing faults requeueAfter m key := by
  unfold standing
  rw [hc]
  cases hx : unlessFailing (faults (.getCapiCluster key)) (m.clusters (r.place key)) with
  | error e => rfl
  | ok found =>
    cases found with
    | none => rfl
    | some c =>
      cases hk : rancherKey c with
      | error e => simp only [hk]
      | ok rk => simp only [hk, hr c rk (held_of_unlessFailing hx) hk, creation, eligible, hn]

theorem registration_congr {c : CapiCluster} {name : String}
    (ht : n.tokens (r.place ⟨c.metadata.inNamespace.getD "", name⟩) =
      m.tokens (r.place ⟨c.metadata.inNamespace.getD "", name⟩)) (hm : n.manifests = m.manifests) :
    r.registration faults requeueAfter n c name = r.registration faults requeueAfter m c name := by
  simp only [registration, ht, fetched, hm]

theorem registration_of_wanted {c : CapiCluster} {name : String}
    (h : Wanted r faults m (c.metadata.inNamespace.getD "") name) :
    r.registration faults requeueAfter m c name =
      ⟨.ok (.after requeueAfter), .token (tokenFor name (c.metadata.inNamespace.getD ""))⟩ := by
  simp only [registration, h.missing, h.free]
  rfl

theorem registration_of_created {c : CapiCluster} {name : String}
    (h : Wanted r faults m (c.metadata.inNamespace.getD "") name)
    (ht : n.tokens (r.place ⟨c.metadata.inNamespace.getD "", name⟩) =
      some (tokenFor name (c.metadata.inNamespace.getD ""))) :
    r.registration faults requeueAfter n c name = idle (.ok (.after requeueAfter)) := by
  simp only [registration, ht, unlessFailing_of_ok h.missing]
  rfl

/-- A token that has just been created is found, and publishes nothing. -/
theorem decide_withToken [DecidableEq κ] {c : CapiCluster} {name : String}
    (hs : r.standing faults requeueAfter m key = .registering c name)
    (h : Wanted r faults m (c.metadata.inNamespace.getD "") name) :
    r.decide faults requeueAfter (r.withToken (tokenFor name (c.metadata.inNamespace.getD "")) m)
      key = idle (.ok (.after requeueAfter)) := by
  have hn : r.standing faults requeueAfter
      (r.withToken (tokenFor name (c.metadata.inNamespace.getD "")) m) key =
      .registering c name := (standing_congr rfl (fun _ _ _ _ => rfl) rfl).trans hs
  exact (decide_of_registering hn).trans (registration_of_created h (Function.update_self _ _ _))

/-- Objects on the workload cluster do not count. -/
theorem decide_withObjects (ids : Finset ω) :
    r.decide faults requeueAfter { m with workload := m.workload ∪ ids } key =
      r.decide faults requeueAfter m key := rfl

def Homed (r : Regime κ ω) (m : Memory κ ω) (key : ObjectKey) : Prop :=
  ∀ c, m.clusters (r.place key) = some c →
    c.metadata.inNamespace = some key.inNamespace ∧ c.metadata.name = some key.name

variable {c : CapiCluster} {name : String}

omit [DecidableEq ω] in
theorem Homed.rancherKey (h : r.Homed m key) (hc : m.clusters (r.place key) = some c) :
    rancherKey c = .ok (rancherPlace key) := by
  obtain ⟨hns, hname⟩ := h c hc
  simp [ClusterImport.rancherKey, hns, ObjectMeta.anyName, hname, rancherPlace, Naming.toRancher]

omit [DecidableEq ω] in
theorem Homed.home (h : r.Homed m key) (hc : m.clusters (r.place key) = some c) :
    c.metadata.inNamespace.getD "" = key.inNamespace := by
  rw [(h c hc).1, Option.getD_some]

omit [DecidableEq ω] in
theorem stored_of_registering (h : r.standing faults requeueAfter m key = .registering c name) :
    m.clusters (r.place key) = some c := by
  have hstands := stands r faults requeueAfter m key
  rw [h] at hstands
  cases hstands with
  | register h => exact held_of_unlessFailing h.cluster

/-- What a reconcile of a key changes: what belongs to the key, or the objects of a manifest. -/
inductive Footprint (r : Regime κ ω) (faults : Faults) (m : Memory κ ω) (key : ObjectKey) :
    Effect ω → Prop
  | nothing : Footprint r faults m key .nothing
  | rancher {rancher : RancherCluster} (h : rancher.metadata.key = rancherPlace key) :
      Footprint r faults m key (.rancher rancher)
  | patch (patch : Json) : Footprint r faults m key (.patch key patch)
  | token {name : String} (h : Wanted r faults m key.inNamespace name) :
      Footprint r faults m key (.token (tokenFor name key.inNamespace))
  | objects (ids : Finset ω) : Footprint r faults m key (.objects ids)

theorem footprint (faults : Faults) (requeueAfter : Nat) (hh : r.Homed m key) :
    Footprint r faults m key (r.decide faults requeueAfter m key).effect := by
  cases hs : r.standing faults requeueAfter m key with
  | settled d =>
    rw [decide_of_settled hs]
    have hstands := stands r faults requeueAfter m key
    rw [hs] at hstands
    cases hstands with
    | idle x => exact .nothing
    | @create c rk rancher h hr =>
      have hrk : rk = rancherPlace key := Except.ok.inj
        (h.home.symm.trans (hh.rancherKey (held_of_unlessFailing h.cluster)))
      exact .rancher ((of_rancherClusterFor hr).1.trans hrk)
    | mark h hd => exact .patch _
  | registering c name =>
    rw [decide_of_registering hs]
    have hhome := hh.home (stored_of_registering hs)
    have hregisters := registers r faults requeueAfter m c name
    generalize r.registration faults requeueAfter m c name = d at hregisters
    cases hregisters with
    | idle x => exact .nothing
    | token h =>
      rw [hhome] at h ⊢
      exact .token h
    | objects x ids => exact .objects ids

/-- What is decided at a key goes by its two clusters, a token, the namespaces and the manifests. -/
theorem decide_congr (hh : r.Homed m key) (hc : n.clusters (r.place key) = m.clusters (r.place key))
    (hr : n.ranchers (r.place (rancherPlace key)) = m.ranchers (r.place (rancherPlace key)))
    (ht : ∀ c name, r.standing faults requeueAfter m key = .registering c name →
      n.tokens (r.place ⟨key.inNamespace, name⟩) = m.tokens (r.place ⟨key.inNamespace, name⟩))
    (hn : n.namespaces = m.namespaces) (hm : n.manifests = m.manifests) :
    r.decide faults requeueAfter n key = r.decide faults requeueAfter m key := by
  have hs : r.standing faults requeueAfter n key = r.standing faults requeueAfter m key := by
    refine standing_congr hc (fun c rk hstored hrk => ?_) hn
    obtain rfl := Except.ok.inj (hrk.symm.trans (hh.rancherKey hstored))
    exact hr
  cases hst : r.standing faults requeueAfter m key with
  | settled d => rw [decide_of_settled hst, decide_of_settled (hs.trans hst)]
  | registering c name =>
    rw [decide_of_registering hst, decide_of_registering (hs.trans hst)]
    refine registration_congr ?_ hm
    rw [hh.home (stored_of_registering hst)]
    exact ht c name hst

end Regime

end ClusterImport
