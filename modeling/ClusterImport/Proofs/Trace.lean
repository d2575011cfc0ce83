import ClusterImport.Client
/-!
Traces of procedures. A run of a procedure is one path through its tree: the calls on it with the
answers they got, and the result at its end. Any answer may come to any call, so that what holds of
every run holds in every environment; an environment picks one run.
-/
namespace ClusterImport

structure Exchange (W : Type) where
  call : Call W
  answer : call.Answer

namespace Proc

variable {W α β σ : Type}

inductive Runs : Proc W α → List (Exchange W) → α → Prop
  | done (a : α) : Runs (.done a) [] a
  | call {c : Call W} {next : c.Answer → Proc W α} {trace : List (Exchange W)} {a : α}
      (x : c.Answer) (rest : Runs (next x) trace a) : Runs (.call c next) (⟨c, x⟩ :: trace) a
  | record {m : Measurement} {next : Proc W α} {trace : List (Exchange W)} {a : α}
      (rest : Runs next trace a) : Runs (.record m next) trace a

@[simp] theorem runs_done {a b : α} {trace : List (Exchange W)} :
    Runs (.done a) trace b ↔ trace = [] ∧ b = a := by
  constructor
  · intro h
    cases h
    exact ⟨rfl, rfl⟩
  · rintro ⟨rfl, rfl⟩
    exact .done b

theorem runs_call {c : Call W} {next : c.Answer → Proc W α} {trace : List (Exchange W)} {a : α} :
    Runs (.call c next) trace a ↔ ∃ x rest, trace = ⟨c, x⟩ :: rest ∧ Runs (next x) rest a := by
  constructor
  · intro h
    cases h with
    | call x rest => exact ⟨x, _, rfl, rest⟩
  · rintro ⟨x, rest, rfl, h⟩
    exact .call x h

@[simp] theorem runs_record {m : Measurement} {next : Proc W α} {trace : List (Exchange W)}
    {a : α} :
    Runs (.record m next) trace a ↔ Runs next trace a := by
  constructor
  · intro h
    cases h with
    | record rest => exact rest
  · exact .record

theorem runs_bind {p : Proc W α} {f : α → Proc W β} {trace : List (Exchange W)} {b : β} :
    Runs (p.bind f) trace b ↔
      ∃ first a second, trace = first ++ second ∧ Runs p first a ∧ Runs (f a) second b := by
  induction p generalizing trace with
  | done a =>
    constructor
    · intro h
      exact ⟨[], a, trace, rfl, .done a, h⟩
    · rintro ⟨first, a', second, rfl, hp, hf⟩
      obtain ⟨rfl, rfl⟩ := runs_done.1 hp
      exact hf
  | call c next ih =>
    simp only [bind, runs_call]
    constructor
    · rintro ⟨x, rest, rfl, h⟩
      obtain ⟨first, a, second, rfl, hp, hf⟩ := (ih x).1 h
      exact ⟨⟨c, x⟩ :: first, a, second, rfl, ⟨x, first, rfl, hp⟩, hf⟩
    · rintro ⟨first, a, second, rfl, ⟨x, rest, rfl, hp⟩, hf⟩
      exact ⟨x, rest ++ second, rfl, (ih x).2 ⟨rest, a, second, rfl, hp, hf⟩⟩
  | record m next ih => simpa only [bind, runs_record] using ih

theorem runs_bind_done {p : Proc W α} {f : α → β} {trace : List (Exchange W)} {b : β} :
    Runs (p.bind fun a => .done (f a)) trace b ↔ ∃ a, Runs p trace a ∧ b = f a := by
  rw [runs_bind]
  constructor
  · rintro ⟨first, a, second, rfl, hp, hf⟩
    obtain ⟨rfl, rfl⟩ := runs_done.1 hf
    exact ⟨a, by simpa using hp, rfl⟩
  · rintro ⟨a, hp, rfl⟩
    exact ⟨trace, a, [], by simp, hp, .done _⟩

/-- What has been asked and answered decides how far a run has come. -/
theorem Runs.eq_of_append_eq {p : Proc W α} {first second later last : List (Exchange W)} {a b : α}
    (h : Runs p first a) (k : Runs p second b) (he : first ++ later = second ++ last) :
    first = second ∧ a = b := by
  induction h generalizing second with
  | done a =>
    obtain ⟨rfl, rfl⟩ := runs_done.1 k
    exact ⟨rfl, rfl⟩
  | call x _ ih =>
    obtain ⟨y, rest, rfl, hk⟩ := runs_call.1 k
    obtain ⟨hx, hr⟩ := List.cons.inj he
    cases hx
    obtain ⟨rfl, rfl⟩ := ih hk hr
    exact ⟨rfl, rfl⟩
  | record _ ih => exact ih (runs_record.1 k) he

theorem runs_ask {c : Call W} {trace : List (Exchange W)} {x : c.Answer} :
    Runs (ask c) trace x ↔ trace = [⟨c, x⟩] := by
  simp only [ask, runs_call, runs_done]
  constructor
  · rintro ⟨y, rest, rfl, rfl, rfl⟩
    rfl
  · rintro rfl
    exact ⟨x, [], rfl, rfl, rfl⟩

def trace (e : Environment W σ) : Proc W α → σ → List (Exchange W)
  | done _, _ => []
  | call c next, s => ⟨c, (e.answer c s).1⟩ :: (next (e.answer c s).1).trace e (e.answer c s).2
  | record m next, s => next.trace e (e.note m s)

/-- An environment answers along one of the runs. -/
theorem runs_trace (e : Environment W σ) (p : Proc W α) (s : σ) :
    Runs p (p.trace e s) (p.run e s).1 := by
  induction p generalizing s with
  | done a => exact .done a
  | call c next ih => exact .call _ (ih _ _)
  | record m next ih => exact .record (ih _)

end Proc

namespace Import

variable {W α β : Type}

def Runs (p : Import W α) (trace : List (Exchange W)) (result : Except ControllerError α) : Prop :=
  Proc.Runs p.run trace result

@[simp] theorem runs_pure {a : α} {trace : List (Exchange W)} {result : Except ControllerError α} :
    Runs (pure a : Import W α) trace result ↔ trace = [] ∧ result = .ok a := Proc.runs_done

@[simp] theorem runs_throw {e : ControllerError} {trace : List (Exchange W)}
    {result : Except ControllerError α} :
    Runs (throw e : Import W α) trace result ↔ trace = [] ∧ result = .error e := Proc.runs_done

/-- A sequence stops at its first failure. -/
theorem runs_seq {p : Import W α} {f : α → Import W β} {trace : List (Exchange W)}
    {result : Except ControllerError β} :
    Runs (p >>= f) trace result ↔
      (∃ e, Runs p trace (.error e) ∧ result = .error e) ∨
      ∃ first a second, trace = first ++ second ∧ Runs p first (.ok a) ∧
        Runs (f a) second result := by
  refine Proc.runs_bind.trans ?_
  constructor
  · rintro ⟨first, a | a, second, rfl, hp, hf⟩
    · obtain ⟨rfl, rfl⟩ := Proc.runs_done.1 hf
      exact .inl ⟨a, by rw [List.append_nil]; exact hp, rfl⟩
    · exact .inr ⟨first, a, second, rfl, hp, hf⟩
  · rintro (⟨e, hp, rfl⟩ | ⟨first, a, second, rfl, hp, hf⟩)
    · exact ⟨trace, .error e, [], by simp, hp, .done _⟩
    · exact ⟨first, .ok a, second, rfl, hp, hf⟩

theorem runs_lift {p : Proc W α} {trace : List (Exchange W)} {result : Except ControllerError α} :
    Runs (ExceptT.lift p : Import W α) trace result ↔
      ∃ a, Proc.Runs p trace a ∧ result = .ok a := Proc.runs_bind_done

theorem runs_answered {ε : Type} {wrap : ε → ControllerError} {p : Proc W (Except ε α)}
    {trace : List (Exchange W)} {result : Except ControllerError α} :
    Runs (answered wrap p) trace result ↔ ∃ x, Proc.Runs p trace x ∧ result = x.mapError wrap :=
  Proc.runs_bind_done

theorem runs_ofExcept_seq {a : Except ControllerError α} {f : α → Import W β}
    {trace : List (Exchange W)} {result : Except ControllerError β} :
    Runs (ofExcept a >>= f) trace result ↔
      match a with
      | .error e => trace = [] ∧ result = .error e
      | .ok a => Runs (f a) trace result := by
  cases a with
  | error e => exact Proc.runs_done
  | ok a => exact Iff.rfl

theorem runs_note_seq {m : Measurement} {f : Unit → Import W β} {trace : List (Exchange W)}
    {result : Except ControllerError β} :
    Runs (Import.record m >>= f) trace result ↔ Runs (f ()) trace result := Proc.runs_record

theorem runs_map {p : Import W α} {f : α → β} {trace : List (Exchange W)}
    {result : Except ControllerError β} :
    Runs (p >>= fun a => pure (f a)) trace result ↔ ∃ x, Runs p trace x ∧ result = x.map f := by
  rw [runs_seq]
  constructor
  · rintro (⟨e, h, rfl⟩ | ⟨first, a, second, rfl, h, hf⟩)
    · exact ⟨.error e, h, rfl⟩
    · obtain ⟨rfl, rfl⟩ := runs_pure.1 hf
      exact ⟨.ok a, by rw [List.append_nil]; exact h, rfl⟩
  · rintro ⟨x, h, rfl⟩
    cases x with
    | error e => exact .inl ⟨e, h, rfl⟩
    | ok a => exact .inr ⟨trace, a, [], by simp, h, runs_pure.2 ⟨rfl, rfl⟩⟩

/-- One call is made, and what follows goes on from the answer unless it is an error. -/
theorem runs_answered_seq {ε : Type} {wrap : ε → ControllerError} {p : Proc W (Except ε α)}
    {f : α → Import W β} {trace : List (Exchange W)} {result : Except ControllerError β} :
    Runs (answered wrap p >>= f) trace result ↔
      ∃ first x second, trace = first ++ second ∧ Proc.Runs p first x ∧
        match x with
        | .error e => second = [] ∧ result = .error (wrap e)
        | .ok a => Runs (f a) second result := by
  rw [runs_seq]
  constructor
  · rintro (⟨e, h, rfl⟩ | ⟨first, a, second, rfl, h, hf⟩)
    · obtain ⟨x, hx, he⟩ := runs_answered.1 h
      cases x with
      | error e' =>
        cases he
        exact ⟨trace, .error e', [], by simp, hx, rfl, rfl⟩
      | ok a => cases he
    · obtain ⟨x, hx, he⟩ := runs_answered.1 h
      cases x with
      | error e' => cases he
      | ok a' =>
        cases he
        exact ⟨first, .ok a, second, rfl, hx, hf⟩
  · rintro ⟨first, x, second, rfl, hx, h⟩
    cases x with
    | error e =>
      obtain ⟨rfl, rfl⟩ := h
      exact .inl ⟨wrap e, runs_answered.2 ⟨.error e, by rw [List.append_nil]; exact hx, rfl⟩, rfl⟩
    | ok a => exact .inr ⟨first, a, second, rfl, runs_answered.2 ⟨.ok a, hx, rfl⟩, h⟩

/-- A procedure whose failure is kept as a value. -/
theorem runs_lift_seq {p : Import W α} {f : Except ControllerError α → Import W β}
    {trace : List (Exchange W)} {result : Except ControllerError β} :
    Runs (ExceptT.lift p.run >>= f) trace result ↔
      ∃ first x second, trace = first ++ second ∧ Runs p first x ∧ Runs (f x) second result := by
  rw [runs_seq]
  constructor
  · rintro (⟨e, h, rfl⟩ | ⟨first, x, second, rfl, h, hf⟩)
    · obtain ⟨x, -, he⟩ := runs_lift.1 h
      cases he
    · obtain ⟨x', hx, he⟩ := runs_lift.1 h
      cases he
      exact ⟨first, x, second, rfl, hx, hf⟩
  · rintro ⟨first, x, second, rfl, hx, h⟩
    exact .inr ⟨first, x, second, rfl, runs_lift.2 ⟨x, hx, rfl⟩, h⟩

end Import

end ClusterImport
