import ClusterImport.Proofs.Marking
/-!
What becomes of a failed call. A procedure stops at the first call that fails, and the error of that
call comes back as it is; a procedure in which no call fails has no error but one of its own.
-/
namespace ClusterImport

open Import

variable {W α β : Type}

/-- What a failed call is reported as. A create that finds its object there has not failed. -/
def Exchange.failure? : Exchange W → Option ControllerError
  | ⟨.getCapiCluster _, .error e⟩ => some (.kube e)
  | ⟨.getNamespace _, .error e⟩ => some (.kube e)
  | ⟨.patchCapiCluster _ _, .error e⟩ => some (.kube e)
  | ⟨.getRancherCluster _, .error e⟩ => some (.kube e)
  | ⟨.createRancherCluster _, .error e⟩ => some (.kube e)
  | ⟨.getRegistrationToken _, .error e⟩ => some (.kube e)
  | ⟨.createRegistrationToken _, .error e⟩ => some (.kube e)
  | ⟨.fetchManifest _, .error e⟩ => some (.fetch e)
  | ⟨.workloadClient _, .error e⟩ => some e
  | ⟨.createObject _ o, .error e⟩ =>
    if e.isAlreadyExists then none else some (.remoteCreate o.kind o.displayName e)
  | _ => none

namespace ControllerError

/-- Whether the error is about what has been read, and not about a call. -/
def IsFinding : ControllerError → Prop
  | invalidResource _ | manifest _ => True
  | _ => False

end ControllerError

inductive Reported : List (Exchange W) → Except ControllerError α → Prop
  | calm {trace : List (Exchange W)} {result : Except ControllerError α}
      (h : ∀ x ∈ trace, x.failure? = none) (hr : ∀ e, result = .error e → e.IsFinding) :
      Reported trace result
  | failed {before : List (Exchange W)} {x : Exchange W} {e : ControllerError}
      (h : ∀ y ∈ before, y.failure? = none) (hx : x.failure? = some e) :
      Reported (before ++ [x]) (.error e)

namespace Reported

variable {first second : List (Exchange W)} {result : Except ControllerError β}

theorem of_ok {a : α} (h : Reported first (.ok a : Except ControllerError α)) :
    ∀ x ∈ first, x.failure? = none := by
  generalize hr : (.ok a : Except ControllerError α) = result at h
  cases h with
  | calm h => exact h
  | failed => cases hr

/-- What has failed is not affected by the type of what would have come back. -/
theorem of_error {e : ControllerError} (h : Reported first (.error e : Except ControllerError α)) :
    Reported first (.error e : Except ControllerError β) := by
  generalize hr : (.error e : Except ControllerError α) = result at h
  cases h with
  | calm h hf => exact .calm h fun d hd => hf d (by rw [← hr, Except.error.inj hd])
  | failed h hx =>
    obtain rfl := Except.error.inj hr
    exact .failed h hx

theorem append (h : ∀ x ∈ first, x.failure? = none) (k : Reported second result) :
    Reported (first ++ second) result := by
  cases k with
  | calm hs hr => exact .calm (List.forall_mem_append.2 ⟨h, hs⟩) hr
  | failed hs hx =>
    rw [← List.append_assoc]
    exact .failed (List.forall_mem_append.2 ⟨h, hs⟩) hx

end Reported

def Reports (p : Import W α) : Prop :=
  ∀ trace result, Runs p trace result → Reported trace result

theorem reports_pure (a : α) : Reports (pure a : Import W α) := by
  intro trace result h
  obtain ⟨rfl, rfl⟩ := runs_pure.1 h
  exact .calm (by simp) (by simp)

theorem reports_ofExcept {a : Except ControllerError α}
    (h : ∀ e, a = .error e → e.IsFinding) : Reports (Import.ofExcept a : Import W α) := by
  intro trace result hr
  obtain ⟨rfl, rfl⟩ := Proc.runs_done.1 hr
  exact .calm (by simp) h

theorem reports_bind {p : Import W α} {f : α → Import W β} (h : Reports p)
    (hf : ∀ a, Reports (f a)) : Reports (p >>= f) := by
  intro trace result hr
  rcases runs_seq.1 hr with ⟨e, hp, rfl⟩ | ⟨first, a, second, rfl, hp, hs⟩
  · exact (h _ _ hp).of_error
  · exact .append (h _ _ hp).of_ok (hf a _ _ hs)

theorem reports_record {m : Measurement} {f : Unit → Import W β} (h : Reports (f ())) :
    Reports (Import.record m >>= f) :=
  fun trace result hr => h trace result (runs_note_seq.1 hr)

theorem Reported.single {x : Exchange W} {result : Except ControllerError α}
    (h : x.failure? = match result with | .error e => some e | .ok _ => none) :
    Reported [x] result := by
  cases result with
  | error e =>
    have hr : Reported ([] ++ [x]) (.error e : Except ControllerError α) :=
      .failed (List.forall_mem_nil _) h
    exact hr
  | ok a => exact .calm (by simpa using h) (by simp)

/-- One call, whose error is passed on as what it counts as. -/
theorem reports_answered {ε : Type} {wrap : ε → ControllerError} {p : Proc W (Except ε α)}
    {call : Except ε α → Exchange W} (hp : ∀ trace x, Proc.Runs p trace x ↔ trace = [call x])
    (hc : ∀ x, (call x).failure? =
      match x.mapError wrap with | .error e => some e | .ok _ => none) :
    Reports (answered wrap p) := by
  intro trace result hr
  obtain ⟨x, hx, rfl⟩ := runs_answered.1 hr
  rw [(hp trace x).1 hx]
  exact .single (hc x)

theorem reports_shouldAutoImport (c : CapiCluster) :
    Reports (shouldAutoImport c : Import W Bool) := by
  unfold shouldAutoImport
  split
  · exact reports_pure _
  · split
    · exact reports_pure _
    · refine reports_bind ?_ fun _ => reports_pure _
      exact reports_answered (fun _ _ => Proc.runs_ask) (by rintro (_ | _) <;> rfl)

theorem reports_createRancherCluster (c : CapiCluster) (rk : ObjectKey) :
    Reports (createRancherCluster c rk : Import W Requeue) := by
  refine reports_bind (reports_shouldAutoImport c) fun decided => ?_
  cases decided with
  | false => exact reports_pure _
  | true =>
    refine reports_bind (reports_ofExcept fun e he => ?_) fun rancher => ?_
    · unfold rancherClusterFor at he
      split at he <;> cases he
      trivial
    · refine reports_bind ?_ fun _ => reports_record (reports_pure _)
      exact reports_answered (fun _ _ => Proc.runs_ask) (by rintro (_ | _) <;> rfl)

/-- A create that finds its object there goes on as if it had not failed. -/
theorem reports_createAll (client : W) (objects : List Manifest.Object) (outcome : ApplyOutcome) :
    Reports (Manifest.createAll client objects outcome) := by
  induction objects generalizing outcome with
  | nil => exact reports_pure _
  | cons o rest ih =>
    intro trace result hr
    rcases runs_seq.1 hr with ⟨e, hc, -⟩ | ⟨first, x, later, rfl, hc, hk⟩
    · obtain ⟨_, -, hx⟩ := runs_lift.1 hc
      cases hx
    · obtain ⟨y, hy, hx⟩ := runs_lift.1 hc
      cases hx
      obtain rfl := Proc.runs_ask.1 hy
      cases x with
      | ok _ => exact .append (by simp [Exchange.failure?]) (ih _ _ _ hk)
      | error e =>
        cases he : e.isAlreadyExists with
        | true =>
          simp only [he, if_true] at hk
          exact .append (by simp [Exchange.failure?, he]) (ih _ _ _ hk)
        | false =>
          simp only [he, Bool.false_eq_true, if_false] at hk
          obtain ⟨rfl, rfl⟩ := runs_throw.1 hk
          exact .single (by simp [Exchange.failure?, he])

theorem reports_applyDocuments (client : W) (documents : List String) (number : Nat)
    (outcome : ApplyOutcome) :
    Reports (Manifest.applyDocuments client documents number outcome) := by
  induction documents generalizing number outcome with
  | nil => exact reports_pure _
  | cons raw rest ih =>
    refine reports_bind (reports_ofExcept fun e he => ?_) fun objects => ?_
    · cases hp : Manifest.parseDocument raw number with
      | error f =>
        rw [hp] at he
        cases he
        trivial
      | ok objects =>
        rw [hp] at he
        cases he
    · exact reports_bind (reports_createAll client objects outcome) fun _ => ih _ _

theorem reports_apply (client : W) (octets : List UInt8) :
    Reports (Manifest.apply client octets) := by
  refine reports_bind (reports_applyDocuments client _ 1 {}) fun outcome => ?_
  cases (Manifest.DocumentReader.ofOctets octets).readAll.2 with
  | none => exact reports_pure _
  | some f => exact reports_ofExcept (a := .error (.manifest f)) (by rintro _ ⟨⟩; trivial)

theorem reports_registrationManifest (name ns : String) :
    Reports (registrationManifest name ns : Import W (Option String)) := by
  have hfetch (token : RegistrationToken) : Reports (fetchPublished token : Import W _) := by
    unfold fetchPublished
    split
    · exact reports_pure _
    · refine reports_bind ?_ fun _ => reports_pure _
      exact reports_answered (fun _ _ => Proc.runs_ask) (by rintro (_ | _) <;> rfl)
  refine reports_bind ?_ fun found => ?_
  · exact reports_answered (fun _ _ => Proc.runs_ask) (by rintro (_ | _) <;> rfl)
  · cases found with
    | some token => exact hfetch token
    | none =>
      refine reports_bind ?_ hfetch
      exact reports_answered (fun _ _ => Proc.runs_ask) (by rintro (_ | _) <;> rfl)

theorem reports_register (requeueAfter : Nat) (c : CapiCluster) (rancher : RancherCluster) :
    Reports (register requeueAfter c rancher : Import W Requeue) := by
  unfold register
  split
  · exact reports_pure _
  · split
    · exact reports_pure _
    · refine reports_bind (reports_registrationManifest _ _) fun found => ?_
      cases found with
      | none => exact reports_pure _
      | some manifest =>
        refine reports_bind ?_ fun client => ?_
        · exact reports_answered (fun _ _ => Proc.runs_ask) (by rintro (_ | _) <;> rfl)
        · exact reports_bind (reports_apply client _) fun _ => reports_record (reports_pure _)

theorem reports_transition (requeueAfter : Nat) (c : CapiCluster) :
    Reports (transition requeueAfter c : Import W (Requeue × CapiCluster)) := by
  refine reports_bind (reports_ofExcept fun e he => ?_) fun rk => ?_
  · unfold rancherKey at he
    split at he <;> cases he
    trivial
  · refine reports_bind ?_ fun found => ?_
    · exact reports_answered (fun _ _ => Proc.runs_ask) (by rintro (_ | _) <;> rfl)
    · cases found with
      | none => exact reports_bind (reports_createRancherCluster c rk) fun _ => reports_pure _
      | some rancher =>
        dsimp only
        split
        · exact reports_pure _
        · exact reports_bind (reports_register requeueAfter c rancher) fun _ => reports_pure _

variable {requeueAfter : Nat} {key : ObjectKey} {trace : List (Exchange W)}

/-- What follows a transition. A failed one is not followed by a write, and a write is followed by
nothing. -/
inductive ConclusionCourse (key : ObjectKey) (before : CapiCluster) :
    Except ControllerError (Requeue × CapiCluster) → List (Exchange W) →
      Except ControllerError Requeue → Prop
  | failed (e : ControllerError) : ConclusionCourse key before (.error e) [] (.error e)
  | unchanged {after : CapiCluster} (h : clusterPatch before after = none) (requeue : Requeue) :
      ConclusionCourse key before (.ok (requeue, after)) [] (.ok requeue)
  | written {after : CapiCluster} {patch : Json} (h : clusterPatch before after = some patch)
      (requeue : Requeue) (x : Except KubeError Unit) :
      ConclusionCourse key before (.ok (requeue, after)) [⟨.patchCapiCluster key patch, x⟩]
        ((x.mapError .kube).map fun _ => requeue)

theorem conclusionCourse {before : CapiCluster}
    {moved : Except ControllerError (Requeue × CapiCluster)}
    {result : Except ControllerError Requeue} (h : Runs (conclude key before moved) trace result) :
    ConclusionCourse key before moved trace result := by
  cases moved with
  | error e =>
    obtain ⟨rfl, rfl⟩ := runs_conclude_unchanged (.error e) h
    exact .failed e
  | ok moved =>
    obtain ⟨requeue, after⟩ := moved
    obtain ⟨first, written, rest, rfl, hw, hr⟩ := runs_lift_seq.1 h
    have hw : Runs (writeBack key before after) first written := hw
    unfold writeBack at hw
    cases hp : clusterPatch before after with
    | none =>
      rw [hp] at hw
      obtain ⟨rfl, rfl⟩ := runs_pure.1 hw
      obtain ⟨rfl, rfl⟩ := runs_pure.1 hr
      exact .unchanged hp requeue
    | some patch =>
      rw [hp] at hw
      obtain ⟨x, hx, rfl⟩ := runs_answered.1 hw
      obtain rfl := Proc.runs_ask.1 hx
      cases x with
      | error e =>
        obtain ⟨rfl, rfl⟩ := runs_throw.1 hr
        exact .written hp requeue (.error e)
      | ok _ =>
        obtain ⟨rfl, rfl⟩ := runs_pure.1 hr
        exact .written hp requeue (.ok ())

/-- A reconcile that has read a ready cluster goes through its transition. -/
theorem runs_ready {c : CapiCluster} {rest : List (Exchange W)}
    {result : Except ControllerError Requeue} (hc : c.isControlPlaneReady = true)
    (h : Runs (reconcile requeueAfter key) (⟨.getCapiCluster key, .ok (some c)⟩ :: rest) result) :
    ∃ steps moved last, rest = steps ++ last ∧ Runs (transition requeueAfter c) steps moved ∧
      Runs (conclude key c moved) last result := by
  obtain ⟨first, x, second, he, hx, hk⟩ := runs_answered_seq.1 h
  obtain rfl := Proc.runs_ask.1 hx
  obtain ⟨hx, rfl⟩ := List.cons.inj he
  cases hx
  simp only [hc, Bool.not_true, Bool.false_eq_true, if_false] at hk
  exact runs_lift_seq.1 hk

theorem Reported.conclude {before : CapiCluster} {steps last : List (Exchange W)}
    {moved : Except ControllerError (Requeue × CapiCluster)}
    {result : Except ControllerError Requeue} (h : Reported steps moved)
    (hr : Runs (conclude key before moved) last result) : Reported (steps ++ last) result := by
  cases conclusionCourse hr with
  | failed e =>
    rw [List.append_nil]
    exact h.of_error
  | unchanged _ requeue => exact .append h.of_ok (.calm (by simp) (by simp))
  | written _ requeue x => exact .append h.of_ok (.single (by cases x <;> rfl))

theorem reports_reconcile (requeueAfter : Nat) (key : ObjectKey) :
    Reports (reconcile requeueAfter key : Import W Requeue) := by
  refine reports_bind ?_ fun found => ?_
  · exact reports_answered (fun _ _ => Proc.runs_ask) (by rintro (_ | _) <;> rfl)
  cases found with
  | none => exact reports_pure _
  | some c =>
    dsimp only
    split
    · exact reports_pure _
    · intro trace result h
      obtain ⟨steps, moved, last, rfl, ht, hc⟩ := runs_lift_seq.1 h
      exact (reports_transition requeueAfter c _ _ ht).conclude hc

structure Accounted (requeueAfter : Nat) (key : ObjectKey) (trace : List (Exchange W))
    (result : Except ControllerError Requeue) : Prop where
  /-- Only the last call can have failed, and its error is the result. -/
  reported : Reported trace result
  /-- The error of a failed transition is the result, and nothing is written. -/
  transition : ∀ c steps rest e,
    trace = ⟨.getCapiCluster key, .ok (some c)⟩ :: (steps ++ rest) →
    c.isControlPlaneReady = true → Runs (transition requeueAfter c) steps (.error e) →
      rest = [] ∧ patchesOf trace = [] ∧ result = .error e
  /-- The error of a failed write is the result. -/
  patch : ∀ before target patch e after,
    trace = before ++ ⟨.patchCapiCluster target patch, .error e⟩ :: after →
      after = [] ∧ result = .error (.kube e)
  /-- Errors are not joined: an aggregate is one that came as the answer to a call. -/
  single : ∀ errors, result = .error (.aggregate errors) →
    ∃ c, ⟨.workloadClient c, .error (.aggregate errors)⟩ ∈ trace

/-- A failed call is the last one. -/
theorem Reported.last {before after : List (Exchange W)} {x : Exchange W} {e : ControllerError}
    {result : Except ControllerError α} (h : Reported (before ++ x :: after) result)
    (hx : x.failure? = some e) : after = [] ∧ result = .error e := by
  generalize ht : before ++ x :: after = trace at h
  cases h with
  | calm h =>
    have hnone := h x (by simp [← ht])
    rw [hx] at hnone
    cases hnone
  | @failed first y d h hy =>
    have hcalm : ∀ z ∈ first, ¬z.failure?.isSome = true := fun z hz => by simp [h z hz]
    obtain ⟨-, rfl, rfl⟩ := split_last hcalm (by simp [hx]) ht.symm
    rw [hx, Option.some.injEq] at hy
    exact ⟨rfl, by rw [hy]⟩

/-- Nothing that is asked has been joined. -/
theorem Reported.aggregate {errors : List ControllerError}
    (h : Reported trace (.error (.aggregate errors) : Except ControllerError α)) :
    ∃ c, ⟨.workloadClient c, .error (.aggregate errors)⟩ ∈ trace := by
  generalize hr : (.error (.aggregate errors) : Except ControllerError α) = result at h
  cases h with
  | calm _ hf => exact (hf _ hr.symm).elim
  | @failed before x e _ hx =>
    obtain rfl := Except.error.inj hr
    obtain ⟨call, x⟩ := x
    cases call with
    | workloadClient c =>
      cases x with
      | ok _ => cases hx
      | error e =>
        obtain rfl := Option.some.inj hx
        exact ⟨c, by simp⟩
    | createObject client o =>
      cases x with
      | ok _ => cases hx
      | error e =>
        simp only [Exchange.failure?] at hx
        split at hx <;> cases hx
    | _ => cases x <;> cases hx

/-- The transition leaves the writing to what follows it. -/
theorem not_isPatch_of_transition {c : CapiCluster} {steps : List (Exchange W)}
    {moved : Except ControllerError (Requeue × CapiCluster)}
    (h : Runs (transition requeueAfter c) steps moved) : ∀ x ∈ steps, x.call.isPatch = false := by
  have h := runs_ofExcept_seq.1 h
  cases hk : rancherKey c with
  | error e =>
    rw [hk] at h
    obtain ⟨rfl, -⟩ := h
    simp
  | ok rk =>
    rw [hk] at h
    obtain ⟨first, x, rest, rfl, hx, hr⟩ := runs_answered_seq.1 h
    obtain rfl := Proc.runs_ask.1 hx
    refine List.forall_mem_cons.2 ⟨rfl, ?_⟩
    cases x with
    | error e =>
      obtain ⟨rfl, -⟩ := hr
      simp
    | ok found =>
      cases found with
      | none =>
        obtain ⟨created, hcr, -⟩ := runs_map.1 hr
        exact fun x hx => ((creationCourse hcr).calls x hx).1
      | some rancher =>
        dsimp only at hr
        split at hr
        · obtain ⟨rfl, -⟩ := runs_pure.1 hr
          simp
        · obtain ⟨registered, hreg, -⟩ := runs_map.1 hr
          exact fun x hx => ((registerCourse hreg).calls x hx).1

theorem accounted_of_runs {result : Except ControllerError Requeue}
    (h : Runs (reconcile requeueAfter key) trace result) :
    Accounted requeueAfter key trace result := by
  have hr : Reported trace result := reports_reconcile requeueAfter key trace result h
  refine ⟨hr, ?_, ?_, ?_⟩
  · rintro c steps rest e rfl hc hfailed
    obtain ⟨taken, moved, last, he, ht, hk⟩ := runs_ready hc h
    obtain ⟨rfl, rfl⟩ := ht.eq_of_append_eq hfailed he.symm
    cases conclusionCourse hk with | failed e =>
    obtain rfl := List.append_cancel_left he
    refine ⟨rfl, patchesOf_eq_nil ?_, rfl⟩
    simpa [Call.isPatch] using not_isPatch_of_transition hfailed
  · rintro before target patch e after rfl
    exact hr.last rfl
  · rintro errors rfl
    exact hr.aggregate

end ClusterImport
