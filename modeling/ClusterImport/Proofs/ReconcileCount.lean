import ClusterImport.Proofs.Admission
import ClusterImport.Watch
import Mathlib.Data.UInt
/-!
How reconciles are counted. A reconcile behind the gate that is turned away or runs to its end, well
or not, adds one to the counter of its result and one observed duration. One whose gate fails adds
nothing: its error is returned before anything is measured, and so the counters fall behind the
reconciles by as many as could not be judged.
-/
namespace ClusterImport

open Import

variable {W α β σ : Type}

namespace Proc

theorem measured_bind (e : Environment W σ) (p : Proc W α) (f : α → Proc W β) (s : σ) :
    (p.bind f).measured e s = p.measured e s ++ (f (p.run e s).1).measured e (p.run e s).2 := by
  induction p generalizing s with
  | done a => rfl
  | call c next ih => exact ih _ _
  | record m next ih => exact congrArg (m :: ·) (ih _)

theorem Within.mono {calls calls' : Call W → Prop} {notes notes' : Measurement → Prop}
    {p : Proc W α} (h : p.Within calls notes) (hc : ∀ c, calls c → calls' c)
    (hm : ∀ m, notes m → notes' m) : p.Within calls' notes' := by
  induction h with
  | done a => exact .done a
  | call h _ ih => exact .call (hc _ h) ih
  | record h _ ih => exact .record (hm _ h) ih

end Proc

def Measurement.result? : Measurement → Option ReconcileResult
  | .reconciled result => some result
  | _ => none

def results (measured : List Measurement) : List ReconcileResult := measured.filterMap (·.result?)

def Inconclusive (p : Import W α) : Prop := Within (fun _ => True) (fun x => x.result? = none) p

theorem Inconclusive.results {p : Import W α} (hp : Inconclusive p) (e : Environment W σ) (s : σ) :
    results (p.run.measured e s) = [] :=
  List.filterMap_eq_nil_iff.2 (Proc.Measures.within (Proc.measures_run e p.run s) hp).2

theorem Quiet.inconclusive {p : Import W α} (hp : Quiet p) : Inconclusive p :=
  hp.mono (fun _ _ => True.intro) fun x hx => by
    rw [hx]
    rfl

section Inconclusive

variable (c : CapiCluster) (key : ObjectKey) (requeueAfter : Nat)

theorem inconclusive_admits (gate : Gate) : Inconclusive (gate.admits c : Import W Bool) := by
  by_cases hp : gate.Passes c
  · rw [Gate.admits_of_passes hp]
    exact (quiet_shouldAutoImport c).inconclusive
  · rw [Gate.admits_of_not_passes hp]
    exact within_pure _

theorem inconclusive_register (rancher : RancherCluster) :
    Inconclusive (register requeueAfter c rancher : Import W Requeue) := by
  unfold register
  split
  · exact within_pure _
  · split
    · exact within_pure _
    · refine within_seq (quiet_registrationManifest _ _).inconclusive fun found => ?_
      cases found with
      | none => exact within_pure _
      | some manifest =>
        refine within_seq (within_answered (Proc.within_ask True.intro)) fun client => ?_
        refine within_seq ?_ fun outcome => ?_
        · exact (silent_apply client _).mono (fun _ h => h) fun _ h => h.elim
        · exact within_seq (within_record rfl) fun _ => within_pure _

theorem inconclusive_transition :
    Inconclusive (transition requeueAfter c : Import W (Requeue × CapiCluster)) := by
  refine within_seq (within_ofExcept _) fun rk => ?_
  refine within_seq (within_answered (Proc.within_ask True.intro)) fun found => ?_
  cases found with
  | none => exact within_seq (quiet_createRancherCluster c rk).inconclusive fun _ => within_pure _
  | some rancher =>
    dsimp only
    split
    · exact within_pure _
    · exact within_seq (inconclusive_register c requeueAfter rancher) fun _ => within_pure _

/-- A reconcile counts what it makes, and leaves it to its caller to count it. -/
theorem inconclusive_reconcile :
    Inconclusive (reconcile requeueAfter key : Import W Requeue) := by
  refine within_seq (within_answered (Proc.within_ask True.intro)) fun found => ?_
  cases found with
  | none => exact within_pure _
  | some before =>
    dsimp only
    split
    · exact within_pure _
    · exact within_seq (within_lift (inconclusive_transition before requeueAfter)) fun moved =>
        (quiet_conclude before key moved).inconclusive

end Inconclusive

structure Visit where
  cached : CapiCluster
  verdict : Except ControllerError Bool
  result : Except ControllerError Requeue

/-- What a visit is counted as; it is not counted if the gate fails. -/
def Visit.countedAs? (v : Visit) : Option ReconcileResult :=
  match v.verdict, v.result with
  | .error _, _ => none
  | .ok false, _ => some .skipped
  | .ok true, .ok _ => some .success
  | .ok true, .error _ => some .error

/-- What is handed on without a look at the live cluster. -/
structure Visit.Lawful (v : Visit) : Prop where
  failed : ∀ err, v.verdict = .error err → v.result = .error err
  turnedAway : v.verdict = .ok false → v.result = .ok .never

/-- Each result is counted under its name. The error that is not counted is that of the gate. -/
structure Visit.Accounted (v : Visit) : Prop where
  lost : v.countedAs? = none ↔ ∃ err, v.verdict = .error err ∧ v.result = .error err
  error : v.countedAs? = some .error ↔ v.verdict.isOk = true ∧ ∃ err, v.result = .error err
  skipped : v.countedAs? = some .skipped ↔ v.verdict = .ok false
  success : v.countedAs? = some .success ↔ v.verdict = .ok true ∧ ∃ requeue, v.result = .ok requeue

theorem Visit.Lawful.accounted {v : Visit} (h : v.Lawful) : v.Accounted := by
  obtain ⟨cached, verdict, result⟩ := v
  obtain ⟨hfailed, haway⟩ := h
  cases verdict with
  | error err =>
    obtain rfl : result = .error err := hfailed err rfl
    constructor <;> simp [countedAs?, Except.isOk, Except.toBool]
  | ok decided =>
    cases decided with
    | false =>
      obtain rfl : result = .ok .never := haway rfl
      constructor <;> simp [countedAs?, Except.isOk, Except.toBool]
    | true => cases result <;> constructor <;> simp [countedAs?, Except.isOk, Except.toBool]

def Visit.isLost (v : Visit) : Bool := !v.verdict.isOk

theorem Visit.isSome_countedAs? (v : Visit) : v.countedAs?.isSome = v.verdict.isOk := by
  obtain ⟨cached, verdict, result⟩ := v
  rcases verdict with err | _ | _ <;> cases result <;> rfl

theorem length_counted_add_lost (visits : List Visit) :
    (visits.filterMap (·.countedAs?)).length + visits.countP (·.isLost) = visits.length := by
  rw [List.length_filterMap_eq_countP, List.length_eq_countP_add_countP (·.verdict.isOk)]
  simp only [Visit.isSome_countedAs?, Visit.isLost, Bool.not_eq_true, Bool.decide_eq_false]

section Visit

variable (e : Environment W σ) (gate : Gate) (requeueAfter : Nat) (cached : CapiCluster) (s : σ)

def Environment.visit : Visit where
  cached := cached
  verdict := gate.verdict e s cached
  result := ((gatedReconcile gate requeueAfter cached).run.run e s).1

def admitted (requeueAfter : Nat) (cached : CapiCluster) (decided : Bool) : Import W Requeue := do
  if !decided then
    Import.record (.reconciled .skipped)
    return .never
  match ← ExceptT.lift
    (reconcile requeueAfter ⟨cached.metadata.inNamespace.getD "", cached.metadata.anyName⟩).run with
  | .ok requeue =>
    Import.record (.reconciled .success)
    return requeue
  | .error e =>
    Import.record (.reconciled .error)
    throw e

theorem gatedReconcile_eq : (gatedReconcile gate requeueAfter cached : Import W Requeue) =
    gate.admits cached >>= admitted requeueAfter cached := rfl

theorem lift_seq {p : Import W α} {f : Except ControllerError α → Import W β} :
    (ExceptT.lift p.run >>= f).run = p.run.bind fun x => (f x).run :=
  Proc.bind_assoc p.run (fun x => .done (Except.ok x)) (ExceptT.bindCont f)

theorem results_append (before after : List Measurement) :
    results (before ++ after) = results before ++ results after := List.filterMap_append

variable {gate requeueAfter cached s}

theorem results_admitted (decided : Bool) :
    results ((admitted requeueAfter cached decided).run.measured e s) =
      (Visit.mk cached (.ok decided)
        ((admitted requeueAfter cached decided).run.run e s).1).countedAs?.toList := by
  cases decided with
  | false => rfl
  | true =>
    change results (Proc.measured e (ExceptT.run (ExceptT.lift _ >>= _)) s) =
      (Visit.mk cached (.ok true)
        (Proc.run e (ExceptT.run (ExceptT.lift _ >>= _)) s).1).countedAs?.toList
    rw [lift_seq, Proc.measured_bind, Proc.run_bind, results_append,
      (inconclusive_reconcile _ _).results, List.nil_append]
    cases (Proc.run e (reconcile requeueAfter _).run s).1 <;> rfl

/-- A visit measures what it is counted as, once. -/
theorem results_visit :
    results ((gatedReconcile gate requeueAfter cached).run.measured e s) =
      (e.visit gate requeueAfter cached s).countedAs?.toList := by
  rw [Environment.visit, Gate.verdict, gatedReconcile_eq]
  change results (Proc.measured e ((gate.admits cached).run.bind (ExceptT.bindCont _)) s) =
    (Visit.mk _ _ (Proc.run e ((gate.admits cached).run.bind (ExceptT.bindCont _)) s).1
      ).countedAs?.toList
  rw [Proc.measured_bind, Proc.run_bind, results_append, (inconclusive_admits cached gate).results,
    List.nil_append]
  cases (Proc.run e (gate.admits cached).run s).1 with
  | error err => rfl
  | ok decided => exact results_admitted e decided

theorem lawful_visit : (e.visit gate requeueAfter cached s).Lawful := by
  have hresult : (e.visit gate requeueAfter cached s).result =
      (Proc.run e (ExceptT.bindCont (admitted requeueAfter cached) (gate.verdict e s cached))
        ((gate.admits cached : Import W Bool).run.run e s).2).1 :=
    congrArg Prod.fst (Proc.run_bind e (gate.admits cached).run _ s)
  constructor
  · intro err h
    rw [hresult, show gate.verdict e s cached = .error err from h]
    rfl
  · intro h
    rw [hresult, show gate.verdict e s cached = .ok false from h]
    rfl

end Visit

namespace Metrics

def reconciles (m : Metrics) (label : String) : UInt64 :=
  (Dict.get? label m.reconciliations).getD 0

def allReconciles (m : Metrics) : UInt64 := (m.reconciliations.map (·.2)).sum

structure Tallies (n m : Metrics) (counted : List ReconcileResult) : Prop where
  ordered : n.reconciliations.Ordered
  label (label : String) : n.reconciles label =
    m.reconciles label + (counted.countP (resultLabel · == label)).toUInt64
  all : n.allReconciles = m.allReconciles + counted.length.toUInt64
  durations : n.durations.count = m.durations.count + counted.length.toUInt64

theorem sum_addTo {series : Dict UInt64} (h : series.Ordered) (label : String) (n : UInt64) :
    ((addTo series label n).map (·.2)).sum = (series.map (·.2)).sum + n := by
  unfold addTo
  induction series with
  | nil => simp [Dict.insert]
  | cons p rest ih =>
    obtain ⟨hp, hr⟩ := List.pairwise_cons.1 h
    by_cases hk : label = p.1
    · subst hk
      simp only [Dict.insert, Dict.get?, if_true, Option.getD_some, List.map_cons, List.sum_cons]
      rw [UInt64.add_assoc, UInt64.add_assoc, UInt64.add_comm n]
    by_cases hlt : label < p.1
    · have hnone : Dict.get? label (p :: rest) = none :=
        Dict.get?_eq_none_of_lt (List.forall_mem_cons.2
          ⟨hlt, fun q hq => String.lt_trans hlt (hp q hq)⟩)
      rw [hnone, Dict.insert, if_neg hk, if_pos hlt, List.map_cons, List.sum_cons,
        Option.getD_none, UInt64.zero_add, UInt64.add_comm]
    · rw [Dict.insert, if_neg hk, if_neg hlt, Dict.get?, if_neg (Ne.symm hk), List.map_cons,
        List.sum_cons, ih hr, List.map_cons, List.sum_cons, UInt64.add_assoc]

theorem Tallies.of_same {m n : Metrics} (ho : m.reconciliations.Ordered)
    (hr : n.reconciliations = m.reconciliations) (hd : n.durations.count = m.durations.count) :
    n.Tallies m [] where
  ordered := hr ▸ ho
  label label := by simp [reconciles, hr]
  all := by simp [allReconciles, hr]
  durations := by simp [hd]

theorem Tallies.trans {l m n : Metrics} {first second : List ReconcileResult}
    (h : n.Tallies m first) (hl : l.Tallies n second) : l.Tallies m (first ++ second) where
  ordered := hl.ordered
  label label := by
    rw [hl.label, h.label, UInt64.add_assoc, List.countP_append]
    exact congrArg _ (UInt64.ofNat_add _ _).symm
  all := by
    rw [hl.all, h.all, UInt64.add_assoc, List.length_append]
    exact congrArg _ (UInt64.ofNat_add _ _).symm
  durations := by
    rw [hl.durations, h.durations, UInt64.add_assoc, List.length_append]
    exact congrArg _ (UInt64.ofNat_add _ _).symm

theorem tallies_recordReconcile {m : Metrics} (ho : m.reconciliations.Ordered)
    (seconds : Binary64) (result : ReconcileResult) :
    (m.recordReconcile (resultLabel result) seconds).Tallies m [result] where
  ordered := Dict.ordered_insert ho _ _
  label label := by
    by_cases h : resultLabel result = label
    · subst h
      simpa [reconciles, recordReconcile] using
        get?_addTo_self m.reconciliations (resultLabel result) 1
    · have hne := get?_addTo_of_ne (Ne.symm h) m.reconciliations 1
      simpa [reconciles, recordReconcile, h] using congrArg (·.getD 0) hne
  all := sum_addTo ho _ 1
  durations := rfl

theorem tallies_note {m : Metrics} (ho : m.reconciliations.Ordered) (seconds : Binary64)
    (x : Measurement) : (m.note seconds x).Tallies m x.result?.toList := by
  cases x with
  | reconciled result => exact tallies_recordReconcile ho seconds result
  | rancherClusterCreated => exact .of_same ho rfl rfl
  | manifestApplied outcome => exact .of_same ho rfl rfl

theorem Takes.tallies {m n : Metrics} {measured : List Measurement} (h : m.Takes measured n)
    (ho : m.reconciliations.Ordered) : n.Tallies m (results measured) := by
  induction h with
  | nil m => exact .of_same ho rfl rfl
  | @cons m n x rest seconds _ ih =>
    have hx := tallies_note ho seconds x
    have hresults : results (x :: rest) = x.result?.toList ++ results rest := by
      rw [results, List.filterMap_cons]
      cases x.result? <;> rfl
    rw [hresults]
    exact hx.trans (ih hx.ordered)

end Metrics

namespace Metered

variable {e : Environment W σ} (k : Metered e) {gate : Gate} {requeueAfter : Nat}
  {cached : CapiCluster} {s t : σ} {visits : List Visit}

def KeepsReconciles (s t : σ) : Prop :=
  ∀ m, k.metrics s = some m → ∃ n, k.metrics t = some n ∧
    n.reconciliations = m.reconciliations ∧ n.durations.count = m.durations.count

/-- Reconciles of any cached clusters behind the gate, one after the other. In between anything may
happen that does not count reconciles. -/
inductive Rounds (gate : Gate) (requeueAfter : Nat) : σ → List Visit → σ → Prop
  | nil (s : σ) : Rounds gate requeueAfter s [] s
  | cons {s t u : σ} {visits : List Visit} (cached : CapiCluster)
      (h : k.KeepsReconciles ((gatedReconcile gate requeueAfter cached).run.run e s).2 t)
      (rest : Rounds gate requeueAfter t visits u) :
      Rounds gate requeueAfter s (e.visit gate requeueAfter cached s :: visits) u

variable {k}

theorem tallies_visit {m : Metrics} (h : k.metrics s = some m) (ho : m.reconciliations.Ordered) :
    ∃ n, k.metrics ((gatedReconcile gate requeueAfter cached).run.run e s).2 = some n ∧
      n.Tallies m (e.visit gate requeueAfter cached s).countedAs?.toList := by
  obtain ⟨n, hn, ht⟩ := k.takes (gatedReconcile gate requeueAfter cached).run s h
  refine ⟨n, hn, ?_⟩
  rw [← results_visit]
  exact ht.tallies ho

theorem tallies_rounds {m : Metrics} (h : k.Rounds gate requeueAfter s visits t)
    (hm : k.metrics s = some m) (ho : m.reconciliations.Ordered) :
    (∀ v ∈ visits, v.Lawful) ∧
      ∃ n, k.metrics t = some n ∧ n.Tallies m (visits.filterMap (·.countedAs?)) := by
  induction h generalizing m with
  | nil s => exact ⟨List.forall_mem_nil _, m, hm, .of_same ho rfl rfl⟩
  | @cons s t u visits cached hkept _ ih =>
    obtain ⟨l, hl, hfirst⟩ := tallies_visit hm ho
    obtain ⟨n, hn, hr, hd⟩ := hkept l hl
    have hsame := Metrics.Tallies.of_same hfirst.ordered hr hd
    obtain ⟨hlawful, o, ho, hrest⟩ := ih hn hsame.ordered
    refine ⟨List.forall_mem_cons.2 ⟨lawful_visit e, hlawful⟩, o, ho, ?_⟩
    have hall := hfirst.trans (hsame.trans hrest)
    rw [List.nil_append] at hall
    rw [List.filterMap_cons]
    cases hc : (e.visit gate requeueAfter cached s).countedAs? with
    | none => rwa [hc] at hall
    | some result => rwa [hc] at hall

/-- However many reconciles there are, each is counted once under its result unless its gate fails,
and the sum of the counters and the number of observed durations have grown by one for each
reconcile but for those, in words of 64 bits. -/
theorem counted_rounds {m : Metrics} (h : k.Rounds gate requeueAfter s visits t)
    (hm : k.metrics s = some m) (ho : m.reconciliations.Ordered) :
    (∀ v ∈ visits, v.Accounted) ∧ ∃ n, k.metrics t = some n ∧
      n.Tallies m (visits.filterMap (·.countedAs?)) ∧
      n.allReconciles + (visits.countP (·.isLost)).toUInt64 =
        m.allReconciles + visits.length.toUInt64 ∧
      n.durations.count + (visits.countP (·.isLost)).toUInt64 =
        m.durations.count + visits.length.toUInt64 := by
  obtain ⟨hlawful, n, hn, ht⟩ := tallies_rounds h hm ho
  have hlength : (visits.filterMap (·.countedAs?)).length.toUInt64 +
      (visits.countP (·.isLost)).toUInt64 = visits.length.toUInt64 := by
    rw [← length_counted_add_lost visits]
    exact (UInt64.ofNat_add _ _).symm
  refine ⟨fun v hv => (hlawful v hv).accounted, n, hn, ht, ?_, ?_⟩
  · rw [ht.all, UInt64.add_assoc, hlength]
  · rw [ht.durations, UInt64.add_assoc, hlength]

end Metered

theorem Store.keepsReconciles_cleared (s : Store) : Store.metered.KeepsReconciles s s.cleared :=
  fun m hm => ⟨m, hm, rfl, rfl⟩

/-- The namespace cannot be read at first, and is found missing then. -/
def foggyPond : Store where
  clusters := [("pond/coot", coot)]
  failures := [⟨"get_namespace", "", .failure 500 "InternalError" "down"⟩]
  metrics := some .empty

def foggyPondLifted : Store := (foggyPond.run (gatedReconcile ⟨none⟩ 60 coot)).2.cleared

def foggyPondFinal : Store := (foggyPondLifted.run (gatedReconcile ⟨none⟩ 60 coot)).2.cleared

def foggyVisits : List Visit := [Store.environment.visit ⟨none⟩ 60 coot foggyPond,
  Store.environment.visit ⟨none⟩ 60 coot foggyPondLifted]

theorem rounds_foggyPond : Store.metered.Rounds ⟨none⟩ 60 foggyPond foggyVisits foggyPondFinal :=
  .cons _ (Store.keepsReconciles_cleared _) (.cons _ (Store.keepsReconciles_cleared _) (.nil _))

theorem counted_rounds_foggyPond :
    Store.metered.Rounds ⟨none⟩ 60 foggyPond foggyVisits foggyPondFinal ∧
      foggyVisits.map (·.countedAs?) = [none, some .skipped] ∧
      ∃ n, foggyPondFinal.metrics = some n ∧ n.allReconciles + 1 = 2 ∧
        n.durations.count + 1 = 2 := by
  obtain ⟨-, n, hn, -, hall, hcount⟩ :=
    Metered.counted_rounds rounds_foggyPond (m := .empty) rfl List.Pairwise.nil
  have hlost : foggyVisits.countP (·.isLost) = 1 := by decide +kernel
  rw [hlost] at hall hcount
  exact ⟨rounds_foggyPond, by decide +kernel, n, hn, hall, hcount⟩

/-- Not all reconciles are counted: one that cannot read the namespace returns its error before. -/
theorem exists_uncounted_visit : ¬∀ (s t : Store) (visits : List Visit),
    Store.metered.Rounds ⟨none⟩ 60 s visits t → s.metrics = some .empty →
      ∃ n, t.metrics = some n ∧ n.allReconciles = visits.length.toUInt64 ∧
        n.durations.count = visits.length.toUInt64 := by
  intro h
  obtain ⟨n, hn, hall, -⟩ := h _ _ _ rounds_foggyPond rfl
  have hone : foggyPondFinal.metrics.map (·.allReconciles) = some 1 := by decide +kernel
  rw [hn, Option.map_some, hall] at hone
  exact absurd hone (by decide)

end ClusterImport
