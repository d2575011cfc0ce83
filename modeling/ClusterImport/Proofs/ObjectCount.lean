import ClusterImport.Proofs.Creation
import ClusterImport.Proofs.Failure
import ClusterImport.Proofs.Measurement
import ClusterImport.Proofs.RegistrationOrder
/-!
What the metrics say of manifest objects. A reconcile that comes to its end has measured just the
creates that it has made, each under what it was answered. One that ends in an error has measured
none of them: the outcome of an application that breaks off is lost with it, and so the counters fall
behind the workload clusters.
-/
namespace ClusterImport

open Import Manifest

variable {W α β σ : Type}

instance : Add ApplyOutcome :=
  ⟨fun a b => ⟨a.created + b.created, a.alreadyExisting + b.alreadyExisting⟩⟩

theorem ApplyOutcome.add_empty (a : ApplyOutcome) : a + {} = a := rfl

theorem ApplyOutcome.empty_add (a : ApplyOutcome) : {} + a = a := by
  change (⟨0 + a.created, 0 + a.alreadyExisting⟩ : ApplyOutcome) = a
  simp only [Nat.zero_add]

theorem ApplyOutcome.add_assoc (a b c : ApplyOutcome) : a + b + c = a + (b + c) :=
  congrArg₂ ApplyOutcome.mk (Nat.add_assoc _ _ _) (Nat.add_assoc _ _ _)

namespace Exchange

def isObjectCreated : Exchange W → Bool
  | ⟨.createObject _ _, x⟩ => x.isOk
  | _ => false

def isObjectPresent : Exchange W → Bool
  | ⟨.createObject _ _, x⟩ => saysExists x
  | _ => false

end Exchange

def objectCounts (trace : List (Exchange W)) : ApplyOutcome :=
  ⟨trace.countP (·.isObjectCreated), trace.countP (·.isObjectPresent)⟩

theorem objectCounts_append (first second : List (Exchange W)) :
    objectCounts (first ++ second) = objectCounts first + objectCounts second := by
  change (⟨_, _⟩ : ApplyOutcome) = ⟨_, _⟩
  rw [List.countP_append, List.countP_append]
  rfl

theorem objectCounts_of_none {trace : List (Exchange W)}
    (h : ∀ x ∈ trace, x.call.isObjectCreation = false) : objectCounts trace = {} := by
  have hx {x : Exchange W} (hc : x.call.isObjectCreation = false) :
      ¬x.isObjectCreated = true ∧ ¬x.isObjectPresent = true := by
    obtain ⟨c, answer⟩ := x
    cases c <;> first | exact ⟨Bool.false_ne_true, Bool.false_ne_true⟩ | cases hc
  unfold objectCounts
  rw [List.countP_eq_zero.2 fun x hm => (hx (h x hm)).1,
    List.countP_eq_zero.2 fun x hm => (hx (h x hm)).2]

theorem objectCounts_exchanges (client : W) (answers : Answers) :
    objectCounts (answers.exchanges client) = answers.tally {} := by
  simp only [objectCounts, Answers.exchanges, Answers.tally, List.countP_map, Nat.zero_add]
  rfl

def Measurement.outcome? : Measurement → Option ApplyOutcome
  | .manifestApplied outcome => some outcome
  | _ => none

def manifestCounts : List Measurement → ApplyOutcome
  | [] => {}
  | x :: rest => x.outcome?.getD {} + manifestCounts rest

theorem manifestCounts_append (before after : List Measurement) :
    manifestCounts (before ++ after) = manifestCounts before + manifestCounts after := by
  induction before with
  | nil => exact (ApplyOutcome.empty_add _).symm
  | cons x rest ih => rw [List.cons_append, manifestCounts, ih, manifestCounts, ApplyOutcome.add_assoc]

theorem manifestCounts_of_none {measured : List Measurement}
    (h : ∀ x ∈ measured, x.outcome? = none) : manifestCounts measured = {} := by
  induction measured with
  | nil => rfl
  | cons x rest ih =>
    obtain ⟨hx, hr⟩ := List.forall_mem_cons.1 h
    rw [manifestCounts, hx, ih hr]
    rfl

/-- Creates no object, and measures at most that a Rancher cluster has been created. -/
def Quiet (p : Import W α) : Prop :=
  Within (fun c => c.isObjectCreation = false) (fun x => x = .rancherClusterCreated) p

theorem Quiet.counts {p : Import W α} (hp : Quiet p) {trace : List (Exchange W)}
    {measured : List Measurement} {result : Except ControllerError α}
    (h : Measures p trace measured result) :
    objectCounts trace = {} ∧ manifestCounts measured = {} :=
  have hw := Proc.Measures.within h hp
  ⟨objectCounts_of_none hw.1, manifestCounts_of_none fun x hx => by
    rw [hw.2 x hx]
    rfl⟩

/-- What comes first does not count if it is quiet. -/
theorem measures_quiet_seq {p : Import W α} {f : α → Import W β} {trace : List (Exchange W)}
    {measured : List Measurement} {result : Except ControllerError β} (hp : Quiet p)
    (h : Measures (p >>= f) trace measured result) :
    (∃ e, result = .error e ∧ manifestCounts measured = {}) ∨
      ∃ a second after, objectCounts trace = objectCounts second ∧
        manifestCounts measured = manifestCounts after ∧ Measures (f a) second after result := by
  rcases measures_seq h with ⟨e, he, rfl⟩ | ⟨first, before, a, second, after, rfl, rfl, ha, hf⟩
  · exact .inl ⟨e, rfl, (hp.counts he).2⟩
  · obtain ⟨ht, hm⟩ := hp.counts ha
    refine .inr ⟨a, second, after, ?_, ?_, hf⟩
    · rw [objectCounts_append, ht, ApplyOutcome.empty_add]
    · rw [manifestCounts_append, hm, ApplyOutcome.empty_add]

section Quiet

variable (c : CapiCluster) (key : ObjectKey)

theorem quiet_shouldAutoImport : Quiet (shouldAutoImport c : Import W Bool) := by
  unfold shouldAutoImport
  split
  · exact within_pure _
  · split
    · exact within_pure _
    · exact within_seq (within_answered (Proc.within_ask rfl)) fun _ => within_pure _

theorem quiet_createRancherCluster : Quiet (createRancherCluster c key : Import W Requeue) := by
  refine within_seq (quiet_shouldAutoImport c) fun decided => ?_
  cases decided with
  | false => exact within_pure _
  | true =>
    refine within_seq (within_ofExcept _) fun rancher => ?_
    refine within_seq (within_answered (Proc.within_ask rfl)) fun _ => ?_
    exact within_seq (within_record rfl) fun _ => within_pure _

theorem quiet_registrationManifest (name ns : String) :
    Quiet (registrationManifest name ns : Import W (Option String)) := by
  have hfetch (token : RegistrationToken) : Quiet (fetchPublished token : Import W _) := by
    unfold fetchPublished
    split
    · exact within_pure _
    · exact within_seq (within_answered (Proc.within_ask rfl)) fun _ => within_pure _
  refine within_seq (within_answered (Proc.within_ask rfl)) fun found => ?_
  cases found with
  | some token => exact hfetch token
  | none => exact within_seq (within_answered (Proc.within_ask rfl)) hfetch

theorem quiet_writeBack (after : CapiCluster) : Quiet (writeBack key c after : Import W Unit) := by
  unfold writeBack
  split
  · exact within_pure _
  · exact within_answered (Proc.within_ask rfl)

theorem quiet_conclude (moved : Except ControllerError (Requeue × CapiCluster)) :
    Quiet (conclude key c moved : Import W Requeue) := by
  unfold conclude
  generalize moved.toOption.getD (.never, c) = settled
  obtain ⟨requeue, after⟩ := settled
  refine within_seq (within_lift (quiet_writeBack c key after)) fun written => ?_
  split
  · exact within_throw _
  · exact within_pure _

end Quiet

/-! What an application measures itself is nothing; its outcome is measured after it. -/

def Silent (p : Import W α) : Prop := Within (fun _ => True) (fun _ => False) p

theorem Silent.measured_eq_nil {p : Import W α} (hp : Silent p) {trace : List (Exchange W)}
    {measured : List Measurement} {result : Except ControllerError α}
    (h : Measures p trace measured result) : measured = [] :=
  List.eq_nil_iff_forall_not_mem.2 (Proc.Measures.within h hp).2

theorem silent_createAll (client : W) (objects : List Object) (outcome : ApplyOutcome) :
    Silent (createAll client objects outcome) := by
  induction objects generalizing outcome with
  | nil => exact within_pure _
  | cons o rest ih =>
    refine within_seq (within_lift (Proc.within_ask True.intro)) fun x => ?_
    cases x with
    | ok _ => exact ih _
    | error e =>
      dsimp only
      split
      · exact ih _
      · exact within_throw _

theorem silent_applyDocuments (client : W) (documents : List String) (number : Nat)
    (outcome : ApplyOutcome) : Silent (applyDocuments client documents number outcome) := by
  induction documents generalizing number outcome with
  | nil => exact within_pure _
  | cons raw rest ih =>
    refine within_seq (within_ofExcept _) fun objects => ?_
    exact within_seq (silent_createAll client objects outcome) fun _ => ih _ _

theorem silent_apply (client : W) (octets : List UInt8) : Silent (apply client octets) := by
  refine within_seq (silent_applyDocuments client _ 1 {}) fun outcome => ?_
  split
  · exact within_throw _
  · exact within_pure _

/-- The outcome of an application counts its creates. -/
theorem outcome_of_apply {client : W} {octets : List UInt8} {trace : List (Exchange W)}
    {outcome : ApplyOutcome} (h : Runs (apply client octets) trace (.ok outcome)) :
    outcome = objectCounts trace := by
  generalize hr : (.ok outcome : Except ControllerError ApplyOutcome) = result at h
  cases applyCourse_apply h with
  | refused => cases hr
  | faulty => cases hr
  | @applied answers =>
    rw [Except.ok.inj hr, objectCounts_exchanges]

def unfailed (trace : List (Exchange W)) : Except ControllerError α → List (Exchange W)
  | .ok _ => trace
  | .error _ => []

/-- All creates have been measured, or none if there is an error. -/
def Counted (trace : List (Exchange W)) (measured : List Measurement)
    (result : Except ControllerError α) : Prop :=
  manifestCounts measured = objectCounts (unfailed trace result)

section Reconcile

variable {requeueAfter : Nat} {c : CapiCluster} {key : ObjectKey} {trace : List (Exchange W)}
  {measured : List Measurement}

theorem counted_pure {a : α} {result : Except ControllerError α}
    (h : Measures (pure a : Import W α) trace measured result) :
    result = .ok a ∧ manifestCounts measured = objectCounts trace := by
  obtain ⟨rfl, rfl, rfl⟩ := measures_pure h
  exact ⟨rfl, rfl⟩

theorem counted_register {rancher : RancherCluster} {result : Except ControllerError Requeue}
    (h : Measures (register requeueAfter c rancher) trace measured result) :
    Counted trace measured result := by
  unfold register at h
  split at h
  · obtain ⟨rfl, hcount⟩ := counted_pure h
    exact hcount
  · split at h
    · obtain ⟨rfl, hcount⟩ := counted_pure h
      exact hcount
    · rcases measures_quiet_seq (quiet_registrationManifest _ _) h with
        ⟨e, rfl, hm⟩ | ⟨found, second, after, ht, hm, hk⟩
      · exact hm
      · cases found with
        | none =>
          obtain ⟨rfl, hcount⟩ := counted_pure hk
          exact hm.trans (hcount.trans ht.symm)
        | some manifest =>
          have hclient : Quiet (Import.workloadClient c : Import W W) :=
            within_answered (Proc.within_ask rfl)
          rcases measures_quiet_seq hclient hk with
            ⟨e, rfl, hc⟩ | ⟨client, third, last, hu, hn, hs⟩
          · exact hm.trans hc
          · rcases measures_seq hs with
              ⟨e, ha, rfl⟩ | ⟨creates, before, outcome, rest, noted, rfl, rfl, ha, hr⟩
            · rw [(silent_apply _ _).measured_eq_nil ha] at hn
              exact hm.trans hn
            · obtain ⟨_, rfl, hp⟩ := measures_record hr
              obtain ⟨rfl, rfl, rfl⟩ := measures_pure hp
              rw [(silent_apply _ _).measured_eq_nil ha] at hn
              rw [List.append_nil, ← outcome_of_apply ha.runs] at hu
              exact (hm.trans hn).trans (ht.trans hu).symm

theorem Counted.of_eq {second : List (Exchange W)} {after : List Measurement}
    {result : Except ControllerError α} (h : Counted second after result)
    (ht : objectCounts trace = objectCounts second)
    (hm : manifestCounts measured = manifestCounts after) : Counted trace measured result := by
  cases result with
  | error e => exact hm.trans h
  | ok a => exact hm.trans (h.trans ht.symm)

/-- Where nothing is created there is nothing to count. -/
theorem Counted.of_none {result : Except ControllerError α} (ht : objectCounts trace = {})
    (hm : manifestCounts measured = {}) : Counted trace measured result := by
  cases result with
  | error e => exact hm
  | ok a => exact hm.trans ht.symm

/-- A procedure that hands its result on with the cluster as it is. -/
theorem counted_paired {p : Import W Requeue}
    (hp : ∀ {trace measured result}, Measures p trace measured result →
      Counted trace measured result)
    {moved : Except ControllerError (Requeue × CapiCluster)}
    (h : Measures (p >>= fun requeue => pure (requeue, c)) trace measured moved) :
    ∃ result : Except ControllerError Requeue,
      moved = result.map (·, c) ∧ Counted trace measured result := by
  rcases measures_seq h with ⟨e, he, rfl⟩ | ⟨first, before, requeue, second, after, rfl, rfl, ha, hs⟩
  · exact ⟨.error e, rfl, hp he⟩
  · obtain ⟨rfl, rfl, rfl⟩ := measures_pure hs
    simp only [List.append_nil]
    exact ⟨.ok requeue, rfl, hp ha⟩

/-- What a transition has created is counted unless it has failed; and if it has left another state
of the CAPI cluster, to be written back, there is nothing to count. -/
theorem counted_transition {moved : Except ControllerError (Requeue × CapiCluster)}
    (h : Measures (transition requeueAfter c) trace measured moved) :
    (∃ result : Except ControllerError Requeue,
      moved = result.map (·, c) ∧ Counted trace measured result) ∨
      objectCounts trace = {} ∧ manifestCounts measured = {} := by
  rcases measures_quiet_seq (within_ofExcept _) h with
    ⟨e, rfl, hm⟩ | ⟨rk, second, after, ht, hm, hk⟩
  · exact .inl ⟨.error e, rfl, hm⟩
  · have hlookup : Quiet (Import.getRancherCluster rk : Import W _) :=
      within_answered (Proc.within_ask rfl)
    rcases measures_quiet_seq hlookup hk with ⟨e, rfl, hn⟩ | ⟨found, third, last, hu, hn, hs⟩
    · exact .inl ⟨.error e, rfl, hm.trans hn⟩
    · have ht := ht.trans hu
      have hm := hm.trans hn
      cases found with
      | none =>
        have hcreate {trace : List (Exchange W)} {measured : List Measurement}
            {result : Except ControllerError Requeue}
            (h : Measures (createRancherCluster c rk) trace measured result) :
            Counted trace measured result := by
          obtain ⟨ht, hm⟩ := (quiet_createRancherCluster c rk).counts h
          exact .of_none ht hm
        obtain ⟨result, hr, hcount⟩ := counted_paired hcreate hs
        exact .inl ⟨result, hr, hcount.of_eq ht hm⟩
      | some rancher =>
        dsimp only at hs
        split at hs
        · obtain ⟨rfl, rfl, rfl⟩ := measures_pure hs
          exact .inr ⟨ht, hm⟩
        · obtain ⟨result, hr, hcount⟩ := counted_paired counted_register hs
          exact .inl ⟨result, hr, hcount.of_eq ht hm⟩

/-- A reconcile has measured all objects that it has created or found, or none if it has failed. -/
theorem counted_reconcile {result : Except ControllerError Requeue}
    (h : Measures (reconcile requeueAfter key) trace measured result) :
    Counted trace measured result := by
  have hread : Quiet (Import.getCapiCluster key : Import W _) :=
    within_answered (Proc.within_ask rfl)
  rcases measures_quiet_seq hread h with ⟨e, rfl, hm⟩ | ⟨found, second, after, ht, hm, hk⟩
  · exact hm
  · refine Counted.of_eq ?_ ht hm
    cases found with
    | none =>
      obtain ⟨rfl, hcount⟩ := counted_pure hk
      exact hcount
    | some c =>
      dsimp only at hk
      split at hk
      · obtain ⟨rfl, hcount⟩ := counted_pure hk
        exact hcount
      · obtain ⟨moves, before, moved, writes, last, rfl, rfl, hmoved, hwritten⟩ :=
          measures_lift_seq hk
        have hwritten : Measures (conclude key c moved) writes last result := hwritten
        obtain ⟨hu, hn⟩ := (quiet_conclude c key moved).counts hwritten
        rcases counted_transition hmoved with ⟨settled, rfl, hcount⟩ | ⟨hnone, hzero⟩
        · obtain ⟨-, rfl⟩ := runs_conclude_unchanged settled hwritten.runs
          refine hcount.of_eq ?_ ?_
          · rw [objectCounts_append, hu, ApplyOutcome.add_empty]
          · rw [manifestCounts_append, hn, ApplyOutcome.add_empty]
        · refine .of_none ?_ ?_
          · rw [objectCounts_append, hnone, hu, ApplyOutcome.add_empty]
          · rw [manifestCounts_append, hzero, hn, ApplyOutcome.add_empty]

end Reconcile

namespace Metrics

/-- A counter of manifest objects. One that has not come to be is at zero. -/
def objects (m : Metrics) (label : String) : UInt64 := (Dict.get? label m.manifestObjects).getD 0

structure Exceeds (n m : Metrics) (outcome : ApplyOutcome) : Prop where
  created : n.objects "created" = m.objects "created" + outcome.created.toUInt64
  alreadyExists :
    n.objects "already_exists" = m.objects "already_exists" + outcome.alreadyExisting.toUInt64

theorem Exceeds.of_same {m n : Metrics} (h : n.manifestObjects = m.manifestObjects) :
    n.Exceeds m {} where
  created := by simp [objects, h]
  alreadyExists := by simp [objects, h]

theorem Exceeds.trans {l m n : Metrics} {first second : ApplyOutcome} (h : n.Exceeds m first)
    (hl : l.Exceeds n second) : l.Exceeds m (first + second) where
  created := by
    rw [hl.created, h.created, UInt64.add_assoc]
    exact congrArg _ (UInt64.ofNat_add _ _).symm
  alreadyExists := by
    rw [hl.alreadyExists, h.alreadyExists, UInt64.add_assoc]
    exact congrArg _ (UInt64.ofNat_add _ _).symm

theorem get?_addTo_self (series : Dict UInt64) (label : String) (n : UInt64) :
    (Dict.get? label (addTo series label n)).getD 0 = (Dict.get? label series).getD 0 + n := by
  rw [addTo, Dict.get?_insert_self, Option.getD_some]

theorem get?_addTo_of_ne {label other : String} (h : other ≠ label) (series : Dict UInt64)
    (n : UInt64) : Dict.get? other (addTo series label n) = Dict.get? other series :=
  Dict.get?_insert_of_ne h _ _

theorem exceeds_note (m : Metrics) (seconds : Binary64) (x : Measurement) :
    (m.note seconds x).Exceeds m (x.outcome?.getD {}) := by
  cases x with
  | manifestApplied outcome =>
    constructor
    · change (Dict.get? "created" (addTo (addTo _ _ _) "already_exists" _)).getD 0 = _
      rw [get?_addTo_of_ne (by decide), get?_addTo_self]
      rfl
    · change (Dict.get? "already_exists" (addTo _ "already_exists" _)).getD 0 = _
      rw [get?_addTo_self, get?_addTo_of_ne (by decide)]
      rfl
  | rancherClusterCreated => exact .of_same rfl
  | reconciled result => exact .of_same rfl

theorem Takes.exceeds {m n : Metrics} {measured : List Measurement} (h : m.Takes measured n) :
    n.Exceeds m (manifestCounts measured) := by
  induction h with
  | nil m => exact .of_same rfl
  | cons seconds _ ih => exact (exceeds_note _ seconds _).trans ih

end Metrics

def Environment.episode (e : Environment W σ) (requeueAfter : Nat) (key : ObjectKey) (s : σ) :
    Episode W where
  key := key
  exchanges := (reconcile requeueAfter key).run.trace e s
  result := ((reconcile requeueAfter key).run.run e s).1

def completed (episodes : List (Episode W)) : List (Exchange W) :=
  episodes.flatMap fun episode => unfailed episode.exchanges episode.result

namespace Metered

variable {e : Environment W σ} (k : Metered e) {requeueAfter : Nat} {key : ObjectKey} {s t u : σ}
  {episodes : List (Episode W)}

def KeepsObjects (s t : σ) : Prop :=
  ∀ m, k.metrics s = some m → ∃ n, k.metrics t = some n ∧ n.manifestObjects = m.manifestObjects

/-- Reconciles of any keys, one after the other. In between anything may happen that does not count
manifest objects. -/
inductive Session (requeueAfter : Nat) : σ → List (Episode W) → σ → Prop
  | nil (s : σ) : Session requeueAfter s [] s
  | cons {s t u : σ} {episodes : List (Episode W)} (key : ObjectKey)
      (h : k.KeepsObjects ((reconcile requeueAfter key).run.run e s).2 t)
      (rest : Session requeueAfter t episodes u) :
      Session requeueAfter s (e.episode requeueAfter key s :: episodes) u

variable {k}

/-- The counters grow by the creates of a reconcile, but if it fails. -/
theorem exceeds_episode {m : Metrics} (h : k.metrics s = some m) :
    ∃ n, k.metrics ((reconcile requeueAfter key).run.run e s).2 = some n ∧
      let episode := e.episode requeueAfter key s
      n.Exceeds m (objectCounts (unfailed episode.exchanges episode.result)) := by
  obtain ⟨n, hn, ht⟩ := k.takes (reconcile requeueAfter key).run s h
  have hcount : manifestCounts _ = _ :=
    counted_reconcile (Proc.measures_run e (reconcile requeueAfter key).run s)
  have hexceeds := ht.exceeds
  rw [hcount] at hexceeds
  exact ⟨n, hn, hexceeds⟩

/-- The counters of manifest objects are as many objects ahead as the reconciles that have not failed
have created and have found, in words of 64 bits. -/
theorem exceeds_of_session {m : Metrics} (h : k.Session requeueAfter s episodes t)
    (hm : k.metrics s = some m) :
    ∃ n, k.metrics t = some n ∧ n.Exceeds m (objectCounts (completed episodes)) := by
  induction h generalizing m with
  | nil s => exact ⟨m, hm, .of_same rfl⟩
  | @cons s t u episodes key hkept _ ih =>
    obtain ⟨l, hl, hfirst⟩ := exceeds_episode hm
    obtain ⟨n, hn, hsame⟩ := hkept l hl
    obtain ⟨o, ho, hrest⟩ := ih hn
    refine ⟨o, ho, ?_⟩
    rw [completed, List.flatMap_cons, objectCounts_append]
    exact (hfirst.trans (Metrics.Exceeds.of_same hsame)).trans hrest

end Metered

namespace Store

theorem metrics_answer (c : Call Unit) (s : Store) : (answer c s).2.metrics = s.metrics := by
  cases c with
  | patchCapiCluster key patch =>
    simp only [answer, attempt]
    split
    · rfl
    · unfold patchCluster
      split <;> rfl
  | fetchManifest url =>
    simp only [answer, attempt]
    split
    · rfl
    · split <;> rfl
  | createObject client o =>
    simp only [answer, attempt]
    split
    · rfl
    · unfold createObject
      split
      · rfl
      · dsimp only
        split <;> rfl
  | _ =>
    simp only [answer, attempt]
    split <;> rfl

def metered : Metered environment where
  metrics := Store.metrics
  metrics_answer := metrics_answer
  metrics_note _ _ := ⟨_, rfl⟩

def cleared (s : Store) : Store := { s with failures := [] }

theorem keepsObjects_cleared (s : Store) : metered.KeepsObjects s s.cleared :=
  fun m hm => ⟨m, hm, rfl⟩

end Store

/-- The agent is denied at first, and let in once the namespace is there. -/
def meteredPond : Store := { deniedPond with metrics := some .empty }

def ducksEpisode (s : Store) : Episode Unit := Store.environment.episode 30 ⟨"pond", "ducks"⟩ s

def meteredPondOpened : Store := (meteredPond.run (reconcile 30 ⟨"pond", "ducks"⟩)).2.cleared

def meteredPondFinal : Store :=
  (meteredPondOpened.run (reconcile 30 ⟨"pond", "ducks"⟩)).2.cleared

def pondEpisodes : List (Episode Unit) := [ducksEpisode meteredPond, ducksEpisode meteredPondOpened]

theorem session_pond : Store.metered.Session 30 meteredPond pondEpisodes meteredPondFinal :=
  .cons _ (Store.keepsObjects_cleared _) (.cons _ (Store.keepsObjects_cleared _) (.nil _))

theorem counts_pond : objectCounts (completed pondEpisodes) = ⟨1, 1⟩ ∧
    objectCounts (pondEpisodes.flatMap (·.exchanges)) = ⟨2, 1⟩ ∧
    meteredPondFinal.metrics.map (·.objects "created") = some 1 := by
  decide +kernel

theorem exceeds_of_session_pond :
    Store.metered.Session 30 meteredPond pondEpisodes meteredPondFinal ∧
      ∃ n, meteredPondFinal.metrics = some n ∧ n.objects "created" = 1 ∧
        n.objects "already_exists" = 1 := by
  obtain ⟨n, hn, hx⟩ := Metered.exceeds_of_session session_pond (m := .empty) rfl
  rw [counts_pond.1] at hx
  exact ⟨session_pond, n, hn, hx.created, hx.alreadyExists⟩

/-- Not all creates are counted: the namespace has been created by the reconcile that fails. -/
theorem exists_uncounted : ¬∀ (s t : Store) (episodes : List (Episode Unit)),
    Store.metered.Session 30 s episodes t → s.metrics = some .empty →
      ∃ n, t.metrics = some n ∧
        n.Exceeds .empty (objectCounts (episodes.flatMap (·.exchanges))) := by
  intro h
  obtain ⟨-, hc, hm⟩ := counts_pond
  obtain ⟨n, hn, hx, -⟩ := h _ _ _ session_pond rfl
  rw [hn, Option.map_some, Option.some.injEq] at hm
  rw [hm, hc] at hx
  exact absurd hx (by decide)

end ClusterImport
