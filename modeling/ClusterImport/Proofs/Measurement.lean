import ClusterImport.Metrics
import ClusterImport.Proofs.Trace
/-!
What a procedure measures. A run leaves its measurements in the order in which they were taken, next
to the calls and their answers. A procedure whose tree has no call and no measurement of some kind
has none on any run, and an environment that keeps metrics has taken into them just what the run has
measured.
-/
namespace ClusterImport

variable {W α β σ : Type}

namespace Proc

inductive Measures : Proc W α → List (Exchange W) → List Measurement → α → Prop
  | done (a : α) : Measures (.done a) [] [] a
  | call {c : Call W} {next : c.Answer → Proc W α} {trace : List (Exchange W)}
      {measured : List Measurement} {a : α} (x : c.Answer)
      (rest : Measures (next x) trace measured a) :
      Measures (.call c next) (⟨c, x⟩ :: trace) measured a
  | record {m : Measurement} {next : Proc W α} {trace : List (Exchange W)}
      {measured : List Measurement} {a : α} (rest : Measures next trace measured a) :
      Measures (.record m next) trace (m :: measured) a

theorem Measures.runs {p : Proc W α} {trace : List (Exchange W)} {measured : List Measurement}
    {a : α} (h : Measures p trace measured a) : Runs p trace a := by
  induction h with
  | done a => exact .done a
  | call x _ ih => exact .call x ih
  | record _ ih => exact .record ih

theorem measures_bind {p : Proc W α} {f : α → Proc W β} {trace : List (Exchange W)}
    {measured : List Measurement} {b : β} (h : Measures (p.bind f) trace measured b) :
    ∃ first before a second after, trace = first ++ second ∧ measured = before ++ after ∧
      Measures p first before a ∧ Measures (f a) second after b := by
  induction p generalizing trace measured with
  | done a => exact ⟨[], [], a, trace, measured, rfl, rfl, .done a, h⟩
  | call c next ih =>
    cases h with
    | call x rest =>
      obtain ⟨first, before, a, second, after, rfl, rfl, hp, hf⟩ := ih x rest
      exact ⟨⟨c, x⟩ :: first, before, a, second, after, rfl, rfl, .call x hp, hf⟩
  | record m next ih =>
    cases h with
    | record rest =>
      obtain ⟨first, before, a, second, after, rfl, rfl, hp, hf⟩ := ih rest
      exact ⟨first, m :: before, a, second, after, rfl, rfl, .record hp, hf⟩

def measured (e : Environment W σ) : Proc W α → σ → List Measurement
  | done _, _ => []
  | call c next, s => (next (e.answer c s).1).measured e (e.answer c s).2
  | record m next, s => m :: next.measured e (e.note m s)

theorem measures_run (e : Environment W σ) (p : Proc W α) (s : σ) :
    Measures p (p.trace e s) (p.measured e s) (p.run e s).1 := by
  induction p generalizing s with
  | done a => exact .done a
  | call c next ih => exact .call _ (ih _ _)
  | record m next ih => exact .record (ih _)

/-- The procedure makes none but the given calls and takes none but the given measurements. -/
inductive Within (calls : Call W → Prop) (notes : Measurement → Prop) : Proc W α → Prop
  | done (a : α) : Within calls notes (.done a)
  | call {c : Call W} {next : c.Answer → Proc W α} (h : calls c)
      (hn : ∀ x, Within calls notes (next x)) : Within calls notes (.call c next)
  | record {m : Measurement} {next : Proc W α} (h : notes m) (hn : Within calls notes next) :
      Within calls notes (.record m next)

variable {calls : Call W → Prop} {notes : Measurement → Prop}

theorem within_bind {p : Proc W α} {f : α → Proc W β} (hp : p.Within calls notes)
    (hf : ∀ a, (f a).Within calls notes) : (p.bind f).Within calls notes := by
  induction hp with
  | done a => exact hf a
  | call h _ ih => exact .call h ih
  | record h _ ih => exact .record h ih

theorem within_ask {c : Call W} (h : calls c) : (ask c).Within calls notes := .call h .done

theorem Measures.within {p : Proc W α} {trace : List (Exchange W)} {measured : List Measurement}
    {a : α} (h : Measures p trace measured a) (hp : p.Within calls notes) :
    (∀ x ∈ trace, calls x.call) ∧ ∀ m ∈ measured, notes m := by
  induction h with
  | done => exact ⟨by simp, by simp⟩
  | call x _ ih =>
    cases hp with
    | call hc hn =>
      obtain ⟨ht, hm⟩ := ih (hn x)
      exact ⟨List.forall_mem_cons.2 ⟨hc, ht⟩, hm⟩
  | record _ ih =>
    cases hp with
    | record h hn =>
      obtain ⟨ht, hm⟩ := ih hn
      exact ⟨ht, List.forall_mem_cons.2 ⟨h, hm⟩⟩

end Proc

namespace Import

def Measures (p : Import W α) (trace : List (Exchange W)) (measured : List Measurement)
    (result : Except ControllerError α) : Prop :=
  Proc.Measures p.run trace measured result

theorem measures_pure {a : α} {trace : List (Exchange W)} {measured : List Measurement}
    {result : Except ControllerError α} (h : Measures (pure a : Import W α) trace measured result) :
    trace = [] ∧ measured = [] ∧ result = .ok a := by
  have h : Proc.Measures (.done (.ok a)) trace measured result := h
  cases h
  exact ⟨rfl, rfl, rfl⟩

theorem measures_record {m : Measurement} {f : Unit → Import W β} {trace : List (Exchange W)}
    {measured : List Measurement} {result : Except ControllerError β}
    (h : Measures (Import.record m >>= f) trace measured result) :
    ∃ rest, measured = m :: rest ∧ Measures (f ()) trace rest result := by
  have h : Proc.Measures (.record m (f ()).run) trace measured result := h
  cases h with
  | record rest => exact ⟨_, rfl, rest⟩

/-- A sequence stops at its first failure. -/
theorem measures_seq {p : Import W α} {f : α → Import W β} {trace : List (Exchange W)}
    {measured : List Measurement} {result : Except ControllerError β}
    (h : Measures (p >>= f) trace measured result) :
    (∃ e, Measures p trace measured (.error e) ∧ result = .error e) ∨
      ∃ first before a second after, trace = first ++ second ∧ measured = before ++ after ∧
        Measures p first before (.ok a) ∧ Measures (f a) second after result := by
  obtain ⟨first, before, x, second, after, rfl, rfl, hp, hf⟩ := Proc.measures_bind h
  cases x with
  | error e =>
    have hf : Proc.Measures (.done (.error e)) second after result := hf
    cases hf
    simp only [List.append_nil]
    exact .inl ⟨e, hp, rfl⟩
  | ok a => exact .inr ⟨first, before, a, second, after, rfl, rfl, hp, hf⟩

/-- A procedure whose failure is kept as a value. -/
theorem measures_lift_seq {p : Import W α} {f : Except ControllerError α → Import W β}
    {trace : List (Exchange W)} {measured : List Measurement} {result : Except ControllerError β}
    (h : Measures (ExceptT.lift p.run >>= f) trace measured result) :
    ∃ first before x second after, trace = first ++ second ∧ measured = before ++ after ∧
      Measures p first before x ∧ Measures (f x) second after result := by
  obtain ⟨_, _, kept, second, after, rfl, rfl, hkept, hf⟩ := Proc.measures_bind h
  obtain ⟨first, before, x, _, _, rfl, rfl, hp, hx⟩ := Proc.measures_bind hkept
  have hx : Proc.Measures (.done (.ok x)) _ _ kept := hx
  cases hx
  simp only [List.append_nil]
  exact ⟨first, before, x, second, after, rfl, rfl, hp, hf⟩

def Within (calls : Call W → Prop) (notes : Measurement → Prop) (p : Import W α) : Prop :=
  Proc.Within calls notes p.run

variable {calls : Call W → Prop} {notes : Measurement → Prop}

theorem within_pure (a : α) : Within calls notes (pure a : Import W α) := .done _

theorem within_throw (e : ControllerError) : Within calls notes (throw e : Import W α) := .done _

theorem within_ofExcept (x : Except ControllerError α) :
    Within calls notes (ofExcept x : Import W α) := .done x

theorem within_seq {p : Import W α} {f : α → Import W β} (hp : Within calls notes p)
    (hf : ∀ a, Within calls notes (f a)) : Within calls notes (p >>= f) :=
  Proc.within_bind hp fun
    | .error e => .done (Except.error e)
    | .ok a => hf a

theorem within_record {m : Measurement} (h : notes m) :
    Within calls notes (record m : Import W Unit) := .record h (.done _)

theorem within_answered {ε : Type} {wrap : ε → ControllerError} {p : Proc W (Except ε α)}
    (hp : p.Within calls notes) : Within calls notes (answered wrap p) :=
  Proc.within_bind hp fun x => .done (x.mapError wrap)

theorem within_lift {p : Proc W α} (hp : p.Within calls notes) :
    Within calls notes (ExceptT.lift p : Import W α) :=
  Proc.within_bind hp fun a => .done (Except.ok a)

end Import

/-- Metrics take measurements. A reconcile may have lasted for any time. -/
inductive Metrics.Takes : Metrics → List Measurement → Metrics → Prop
  | nil (m : Metrics) : Takes m [] m
  | cons {m n : Metrics} {x : Measurement} {rest : List Measurement} (seconds : Binary64)
      (h : Takes (m.note seconds x) rest n) : Takes m (x :: rest) n

structure Metered (e : Environment W σ) where
  metrics : σ → Option Metrics
  metrics_answer (c : Call W) (s : σ) : metrics (e.answer c s).2 = metrics s
  metrics_note (x : Measurement) (s : σ) :
    ∃ seconds, metrics (e.note x s) = (metrics s).map (·.note seconds x)

/-- The metrics have taken what the run has measured. -/
theorem Metered.takes {e : Environment W σ} (k : Metered e) (p : Proc W α) (s : σ) {m : Metrics}
    (h : k.metrics s = some m) :
    ∃ n, k.metrics (p.run e s).2 = some n ∧ m.Takes (p.measured e s) n := by
  induction p generalizing s m with
  | done a => exact ⟨m, h, .nil m⟩
  | call c next ih => exact ih _ _ ((k.metrics_answer c s).trans h)
  | record x next ih =>
    obtain ⟨seconds, hs⟩ := k.metrics_note x s
    rw [h, Option.map_some] at hs
    obtain ⟨n, hn, ht⟩ := ih _ hs
    exact ⟨n, hn, .cons seconds ht⟩

end ClusterImport
