import ClusterImport.Proofs.Footprint
import ClusterImport.Proofs.RecorderMemory
import ClusterImport.Proofs.StoreMemory
import Mathlib.Data.Set.Function
/-!
Reconciles of two clusters commute. Each changes what belongs to its own key, or adds objects on the
workload cluster, and goes by what the other does not change. Only a token can be wanted by both,
where two Rancher clusters report one name; then both would create the same token, and the one that
comes second finds it and waits as the first one does.
-/
namespace ClusterImport

open Decision

variable {σ κ ω : Type}

namespace Regime

def TellsApart (r : Regime κ ω) (key other : ObjectKey) : Prop :=
  Set.InjOn r.place {k | k.inNamespace = key.inNamespace ∨ k.inNamespace = other.inNamespace}

variable {r : Regime κ ω} {faults : Faults} {requeueAfter : Nat} {m n : Memory κ ω}
  {key other : ObjectKey} {c : CapiCluster} {name : String}

theorem TellsApart.symm (h : r.TellsApart key other) : r.TellsApart other key :=
  Set.InjOn.mono (fun _ => Or.symm) h

theorem TellsApart.place_ne (h : r.TellsApart key other) {k l : ObjectKey}
    (hk : k.inNamespace = key.inNamespace) (hl : l.inNamespace = other.inNamespace) (hne : k ≠ l) :
    r.place k ≠ r.place l := fun hp => hne (h (.inl hk) (.inr hl) hp)

theorem TellsApart.rancherPlace_ne (h : r.TellsApart key other) (hne : key ≠ other) :
    r.place (rancherPlace key) ≠ r.place (rancherPlace other) :=
  h.place_ne rfl rfl fun hp => hne (rancherPlace_injective hp)

variable [DecidableEq κ] [DecidableEq ω]

omit [DecidableEq ω] in
theorem withRancher_comm {a b : RancherCluster}
    (h : r.place a.metadata.key ≠ r.place b.metadata.key) :
    r.withRancher b (r.withRancher a m) = r.withRancher a (r.withRancher b m) := by
  simp only [withRancher, Function.update_comm h]

omit [DecidableEq ω] in
theorem withPatch_comm {a b : Json} (h : r.place key ≠ r.place other) :
    r.withPatch other b (r.withPatch key a m) = r.withPatch key a (r.withPatch other b m) := by
  simp only [withPatch, Function.update_of_ne h, Function.update_of_ne h.symm,
    Function.update_comm h]

omit [DecidableEq ω] in
/-- Two tokens at one place are the same one. -/
theorem withToken_comm (ha : r.TellsApart key other) (first second : String) :
    r.withToken (tokenFor second other.inNamespace)
        (r.withToken (tokenFor first key.inNamespace) m) =
      r.withToken (tokenFor first key.inNamespace)
        (r.withToken (tokenFor second other.inNamespace) m) := by
  by_cases hk : (⟨key.inNamespace, first⟩ : ObjectKey) = ⟨other.inNamespace, second⟩
  · obtain ⟨hns, rfl⟩ := ObjectKey.mk.inj hk
    rw [hns]
  · have hp : r.place (tokenFor first key.inNamespace).metadata.key ≠
        r.place (tokenFor second other.inNamespace).metadata.key := ha.place_ne rfl rfl hk
    simp only [withToken, Function.update_comm hp]

theorem perform_comm {first second : Effect ω} (ha : r.TellsApart key other) (hne : key ≠ other)
    (hf : Footprint r faults m key first) (hs : Footprint r faults m other second) :
    r.perform second (r.perform first m) = r.perform first (r.perform second m) := by
  cases hf with
  | nothing => rfl
  | rancher hk =>
    cases hs with
    | rancher ho =>
      refine withRancher_comm ?_
      rw [hk, ho]
      exact ha.rancherPlace_ne hne
    | _ => rfl
  | patch _ =>
    cases hs with
    | patch _ => exact withPatch_comm (ha.place_ne rfl rfl hne)
    | _ => rfl
  | token _ =>
    cases hs with
    | token _ => exact withToken_comm ha _ _
    | _ => rfl
  | objects ids =>
    cases hs with
    | objects more => simp only [perform, Finset.union_right_comm]
    | _ => rfl

/-- A token that is wanted twice is created first and found then. -/
theorem settle_wanted (ho : r.Homed m other) (hns : key.inNamespace = other.inNamespace)
    (hw : Wanted r faults m key.inNamespace name)
    (hs : r.standing faults requeueAfter m other = .registering c name) :
    let n := r.withToken (tokenFor name key.inNamespace) m
    r.settle n (r.decide faults requeueAfter n other) =
      r.settle n (r.decide faults requeueAfter m other) := by
  have hhome : c.metadata.inNamespace.getD "" = key.inNamespace :=
    (ho.home (stored_of_registering hs)).trans hns.symm
  rw [← hhome] at hw ⊢
  intro n
  have hsame : r.withToken (tokenFor name (c.metadata.inNamespace.getD "")) n = n := by
    simp only [n, withToken, Function.update_idem]
  rw [decide_withToken hs hw, decide_of_registering hs, registration_of_wanted hw]
  exact Prod.ext rfl hsame.symm

/-- A reconcile of one key does not change what a reconcile of another one comes to. -/
theorem settle_other (ha : r.TellsApart key other) (hne : key ≠ other) (hk : r.Homed m key)
    (ho : r.Homed m other) :
    let n := r.perform (r.decide faults requeueAfter m key).effect m
    r.settle n (r.decide faults requeueAfter n other) =
      r.settle n (r.decide faults requeueAfter m other) := by
  have hf := footprint faults requeueAfter hk
  generalize (r.decide faults requeueAfter m key).effect = first at hf
  cases hf with
  | nothing => rfl
  | @rancher rancher h =>
    have hp : r.place (rancherPlace other) ≠ r.place rancher.metadata.key := by
      rw [h]
      exact (ha.rancherPlace_ne hne).symm
    exact congrArg _ (decide_congr ho rfl (Function.update_of_ne hp _ _) (fun _ _ _ => rfl) rfl rfl)
  | patch _ =>
    have hp : r.place other ≠ r.place key := (ha.place_ne rfl rfl hne).symm
    exact congrArg _ (decide_congr ho (Function.update_of_ne hp _ _) rfl (fun _ _ _ => rfl) rfl rfl)
  | @token first hw =>
    -- The effects meet only where the other cluster is to be registered under the same name.
    by_cases hboth : key.inNamespace = other.inNamespace ∧
        ∃ c, r.standing faults requeueAfter m other = .registering c first
    · obtain ⟨hns, c, hs⟩ := hboth
      exact settle_wanted ho hns hw hs
    · refine congrArg _ (decide_congr ho rfl rfl (fun c second hs => ?_) rfl rfl)
      have hkey : (⟨key.inNamespace, first⟩ : ObjectKey) ≠ ⟨other.inNamespace, second⟩ := by
        intro h
        obtain ⟨hns, rfl⟩ := ObjectKey.mk.inj h
        exact hboth ⟨hns, c, hs⟩
      have hp : r.place ⟨key.inNamespace, first⟩ ≠ r.place ⟨other.inNamespace, second⟩ :=
        ha.place_ne rfl rfl hkey
      exact Function.update_of_ne hp.symm _ _
  | objects ids => exact congrArg _ (decide_withObjects ids)

end Regime

namespace InMemory

variable [DecidableEq κ] [DecidableEq ω] (clusters : InMemory σ κ ω) (requeueAfter : Nat)
  {key other : ObjectKey} {s : σ}

/-- The second reconcile comes to what is decided before the first one. -/
theorem reconciled_second (hne : key ≠ other) (ha : clusters.regime.TellsApart key other)
    (hk : clusters.regime.Homed (clusters.memory s) key)
    (ho : clusters.regime.Homed (clusters.memory s) other) :
    let first := clusters.reconciled requeueAfter key s
    let second := clusters.reconciled requeueAfter other first.2
    (second.1, clusters.memory second.2) =
      clusters.regime.settle (clusters.memory first.2) (clusters.decided requeueAfter other s) := by
  intro first second
  have hm : clusters.memory first.2 = _ := clusters.memory_reconciled requeueAfter key s
  have hf : clusters.faults first.2 = clusters.faults s :=
    clusters.faults_reconciled requeueAfter key s
  refine (clusters.reconciled_eq requeueAfter other first.2).trans ?_
  rw [decided, hf, hm]
  exact Regime.settle_other ha hne hk ho

structure Commutes (key other : ObjectKey) (s : σ) : Prop where
  own : (clusters.reconciled requeueAfter key (clusters.reconciled requeueAfter other s).2).1 =
    (clusters.reconciled requeueAfter key s).1
  others : (clusters.reconciled requeueAfter other (clusters.reconciled requeueAfter key s).2).1 =
    (clusters.reconciled requeueAfter other s).1
  memory :
    clusters.memory
        (clusters.reconciled requeueAfter other (clusters.reconciled requeueAfter key s).2).2 =
      clusters.memory
        (clusters.reconciled requeueAfter key (clusters.reconciled requeueAfter other s).2).2

theorem reconciled_comm (hne : key ≠ other) (ha : clusters.regime.TellsApart key other)
    (hk : clusters.regime.Homed (clusters.memory s) key)
    (ho : clusters.regime.Homed (clusters.memory s) other) :
    clusters.Commutes requeueAfter key other s := by
  obtain ⟨hothers, hleft⟩ :=
    Prod.mk.inj (clusters.reconciled_second requeueAfter hne ha hk ho)
  obtain ⟨hown, hleft'⟩ :=
    Prod.mk.inj (clusters.reconciled_second requeueAfter hne.symm ha.symm ho hk)
  rw [clusters.memory_reconciled requeueAfter key s] at hleft
  rw [clusters.memory_reconciled requeueAfter other s] at hleft'
  have hcomm := Regime.perform_comm ha hne (Regime.footprint (clusters.faults s) requeueAfter hk)
    (Regime.footprint (clusters.faults s) requeueAfter ho)
  exact {
    own := hown.trans (clusters.result_reconciled requeueAfter key s).symm
    others := hothers.trans (clusters.result_reconciled requeueAfter other s).symm
    memory := hleft.trans (hcomm.trans hleft'.symm) }

end InMemory

/-- Keys as they are written are told apart if there is no slash in the namespaces. -/
theorem Store.tellsApart {key other : ObjectKey} (hk : '/' ∉ key.inNamespace.toList)
    (ho : '/' ∉ other.inNamespace.toList) : Store.regime.TellsApart key other := by
  have hslash {k : ObjectKey} (h : k.inNamespace = key.inNamespace ∨
      k.inNamespace = other.inNamespace) : '/' ∉ k.inNamespace.toList := by
    rcases h with h | h <;> rwa [h]
  intro k hk l hl h
  have hs : k.inNamespace.toList ++ '/' :: k.name.toList =
      l.inNamespace.toList ++ '/' :: l.name.toList := by
    simpa [Store.regime, ObjectKey.render] using congrArg String.toList h
  obtain ⟨more, hns, hname⟩ := split_past (P := (· = '/'))
    (fun x hx he => hslash hk (he ▸ hx)) rfl hs
  cases more with
  | nil =>
    rw [List.append_nil] at hns
    have hn : l.inNamespace = k.inNamespace := String.toList_inj.1 hns
    have hm : k.name = l.name := String.toList_inj.1 (List.cons.inj hname).2
    exact congrArg₂ ObjectKey.mk hn.symm hm
  | cons x more =>
    obtain rfl : '/' = x := (List.cons.inj hname).1
    exact absurd (by simp [hns]) (hslash hl)

theorem Recorder.tellsApart (key other : ObjectKey) : Recorder.regime.TellsApart key other :=
  Function.injective_id.injOn

def registered (name : String) : RancherCluster where
  metadata := { name := some name, inNamespace := some "pond" }
  spec := {}
  status := some { clusterName := "c-1", agentDeployed := false, ready := false }

def namesake : CapiCluster :=
  { ducks with metadata := { ducks.metadata with name := some "ducks-capi" } }

/-- Two clusters, one named as the Rancher cluster of the other, that are registered as one. -/
def twins : Memory ObjectKey WorkloadKey where
  clusters key := [(⟨"pond", "ducks"⟩, ducks), (⟨"pond", "ducks-capi"⟩, namesake)].lookup key
  ranchers key := [(⟨"pond", "ducks-capi"⟩, registered "ducks-capi"),
    (⟨"pond", "ducks-capi-capi"⟩, registered "ducks-capi-capi")].lookup key
  tokens _ := none
  namespaces _ := none
  manifests _ := none
  workload := ∅

theorem homed_twins : Store.keyedRegime.Homed twins ⟨"pond", "ducks"⟩ ∧
    Store.keyedRegime.Homed twins ⟨"pond", "ducks-capi"⟩ := by
  constructor
  · intro c h
    obtain rfl : ducks = c := Option.some.inj h
    exact ⟨rfl, rfl⟩
  · intro c h
    obtain rfl : namesake = c := Option.some.inj h
    exact ⟨rfl, rfl⟩

/-- Both want the same token. -/
theorem reconciled_comm_twins :
    let clusters := Store.keyedRegime.inMemory fun _ => none
    let key : ObjectKey := ⟨"pond", "ducks"⟩
    let other : ObjectKey := ⟨"pond", "ducks-capi"⟩
    key ≠ other ∧ clusters.regime.TellsApart key other ∧ clusters.regime.Homed twins key ∧
      clusters.regime.Homed twins other ∧ clusters.Commutes 30 key other twins ∧
      clusters.decided 30 key twins = ⟨.ok (.after 30), .token (tokenFor "c-1" "pond")⟩ ∧
      clusters.decided 30 other twins = ⟨.ok (.after 30), .token (tokenFor "c-1" "pond")⟩ := by
  intro clusters key other
  have hne : key ≠ other := by decide
  have ha : clusters.regime.TellsApart key other := Function.injective_id.injOn
  exact ⟨hne, ha, homed_twins.1, homed_twins.2,
    clusters.reconciled_comm 30 hne ha homed_twins.1 homed_twins.2, rfl, rfl⟩

end ClusterImport
