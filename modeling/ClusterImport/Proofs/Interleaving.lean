import ClusterImport.Proofs.Trace
import ClusterImport.Reconcile
/-!
Procedures that take turns on one state. Each moment is one call of one procedure, answered at once,
or a change that somebody else makes; what a procedure has asked so far is the beginning of one of
its runs, and nothing else is known about the order.
-/
namespace ClusterImport

variable {ι W α σ ε : Type}

namespace Proc

inductive Begins : Proc W α → List (Exchange W) → Prop
  | nil (p : Proc W α) : Begins p []
  | call {c : Call W} {next : c.Answer → Proc W α} {trace : List (Exchange W)} (x : c.Answer)
      (h : Begins (next x) trace) : Begins (.call c next) (⟨c, x⟩ :: trace)
  | record {m : Measurement} {next : Proc W α} {trace : List (Exchange W)}
      (h : Begins next trace) : Begins (.record m next) trace

theorem nonempty_answer (c : Call W) : Nonempty c.Answer := by
  cases c with
  | fetchManifest => exact ⟨.error .download⟩
  | workloadClient => exact ⟨.error (.kube .service)⟩
  | _ => exact ⟨.error .service⟩

theorem exists_runs (p : Proc W α) : ∃ trace a, Runs p trace a := by
  induction p with
  | done a => exact ⟨[], a, .done a⟩
  | call c next ih =>
    obtain ⟨x⟩ := nonempty_answer c
    obtain ⟨trace, a, h⟩ := ih x
    exact ⟨⟨c, x⟩ :: trace, a, .call x h⟩
  | record m next ih =>
    obtain ⟨trace, a, h⟩ := ih
    exact ⟨trace, a, .record h⟩

/-- What has begun can be brought to an end. -/
theorem Begins.exists_runs {p : Proc W α} {trace : List (Exchange W)} (h : p.Begins trace) :
    ∃ rest a, Runs p (trace ++ rest) a := by
  induction h with
  | nil p => exact p.exists_runs
  | call x _ ih =>
    obtain ⟨rest, a, h⟩ := ih
    exact ⟨rest, a, .call x h⟩
  | record _ ih =>
    obtain ⟨rest, a, h⟩ := ih
    exact ⟨rest, a, .record h⟩

theorem Runs.begins {p : Proc W α} {trace : List (Exchange W)} {a : α} (h : Runs p trace a) :
    p.Begins trace := by
  induction h with
  | done a => exact .nil _
  | call x _ ih => exact .call x ih
  | record _ ih => exact .record ih

end Proc

inductive Event (ι W ε : Type)
  | asked (i : ι) (x : Exchange W)
  | changed (e : ε)

structure Moment (ι W σ ε : Type) where
  before : σ
  event : Event ι W ε
  after : σ

/-- How a state answers the calls of the procedures, and how others may change it. -/
structure Service (ι W σ ε : Type) where
  answers : ι → σ → Exchange W → σ → Prop
  changes : σ → ε → σ → Prop

namespace Service

variable {service : Service ι W σ ε} {s t : σ} {first second : List (Moment ι W σ ε)}

def Allows (service : Service ι W σ ε) (m : Moment ι W σ ε) : Prop :=
  match m.event with
  | .asked i x => service.answers i m.before x m.after
  | .changed e => service.changes m.before e m.after

inductive Evolves (service : Service ι W σ ε) : σ → List (Moment ι W σ ε) → σ → Prop
  | nil (s : σ) : Evolves service s [] s
  | cons {m : Moment ι W σ ε} {rest : List (Moment ι W σ ε)} {t : σ} (hm : service.Allows m)
      (h : Evolves service m.after rest t) : Evolves service m.before (m :: rest) t

theorem evolves_cons {m : Moment ι W σ ε} :
    service.Evolves s (m :: first) t ↔
      s = m.before ∧ service.Allows m ∧ service.Evolves m.after first t := by
  constructor
  · intro h
    cases h with
    | cons hm h => exact ⟨rfl, hm, h⟩
  · rintro ⟨rfl, hm, h⟩
    exact .cons hm h

theorem evolves_append :
    service.Evolves s (first ++ second) t ↔
      ∃ u, service.Evolves s first u ∧ service.Evolves u second t := by
  induction first generalizing s with
  | nil =>
    constructor
    · intro h
      exact ⟨s, .nil s, h⟩
    · rintro ⟨u, hu, h⟩
      cases hu
      exact h
  | cons m first ih =>
    simp only [List.cons_append, evolves_cons, ih]
    constructor
    · rintro ⟨rfl, hm, u, hf, hs⟩
      exact ⟨u, ⟨rfl, hm, hf⟩, hs⟩
    · rintro ⟨u, ⟨rfl, hm, hf⟩, hs⟩
      exact ⟨rfl, hm, u, hf, hs⟩

theorem Evolves.allows (h : service.Evolves s first t) : ∀ m ∈ first, service.Allows m := by
  induction h with
  | nil => simp
  | cons hm _ ih => simpa [hm] using ih

theorem Evolves.unique {u : σ} (h : service.Evolves s first t) (k : service.Evolves s first u) :
    t = u := by
  induction h with
  | nil =>
    cases k
    rfl
  | cons _ _ ih => exact ih (evolves_cons.1 k).2.2

/-- The states around a moment, and how they are reached. -/
theorem Evolves.at_moment {m : Moment ι W σ ε}
    (h : service.Evolves s (first ++ m :: second) t) :
    service.Evolves s first m.before ∧ service.Allows m ∧ service.Evolves m.after second t := by
  obtain ⟨u, hf, hs⟩ := evolves_append.1 h
  obtain ⟨rfl, hm, hs⟩ := evolves_cons.1 hs
  exact ⟨hf, hm, hs⟩

end Service

section Exchanges

variable [DecidableEq ι] {i : ι} {moments first second : List (Moment ι W σ ε)}

def Moment.exchange? (i : ι) (m : Moment ι W σ ε) : Option (Exchange W) :=
  match m.event with
  | .asked j x => if j = i then some x else none
  | .changed _ => none

theorem Moment.exchange?_eq_some {m : Moment ι W σ ε} {x : Exchange W} :
    m.exchange? i = some x ↔ m.event = .asked i x := by
  unfold exchange?
  cases m.event with
  | asked j y =>
    by_cases hj : j = i <;> simp [hj]
  | changed e => simp

def exchangesOf (i : ι) (moments : List (Moment ι W σ ε)) : List (Exchange W) :=
  moments.filterMap (·.exchange? i)

theorem exchangesOf_append :
    exchangesOf i (first ++ second) = exchangesOf i first ++ exchangesOf i second :=
  List.filterMap_append

theorem exchangesOf_at {m : Moment ι W σ ε} {x : Exchange W} (h : m.event = .asked i x) :
    exchangesOf i (first ++ m :: second) = exchangesOf i first ++ x :: exchangesOf i second := by
  rw [exchangesOf_append]
  congr 1
  exact List.filterMap_cons_some (Moment.exchange?_eq_some.2 h)

theorem exists_moment {x : Exchange W} (h : x ∈ exchangesOf i moments) :
    ∃ m ∈ moments, m.event = .asked i x := by
  obtain ⟨m, hm, hx⟩ := List.mem_filterMap.1 h
  exact ⟨m, hm, Moment.exchange?_eq_some.1 hx⟩

/-- The first exchange of a procedure is found at a moment. -/
theorem exists_first_moment {x : Exchange W} {rest : List (Exchange W)}
    (h : exchangesOf i moments = x :: rest) :
    ∃ before m after, moments = before ++ m :: after ∧ m.event = .asked i x ∧
      exchangesOf i after = rest := by
  obtain ⟨before, m, after, rfl, -, hx, hr⟩ := List.filterMap_eq_cons_iff.1 h
  exact ⟨before, m, after, rfl, Moment.exchange?_eq_some.1 hx, hr⟩

structure Interleaving (service : Service ι W σ ε) (procs : ι → Proc W α) (start : σ)
    (moments : List (Moment ι W σ ε)) (final : σ) : Prop where
  evolves : service.Evolves start moments final
  begins : ∀ i, (procs i).Begins (exchangesOf i moments)

section Runs

variable {service : Service ι W σ ε} {procs : ι → Proc W α} {s t : σ} {m : Moment ι W σ ε}
  {x : Exchange W}

/-- A call belongs to a run of the procedure that makes it. -/
theorem Interleaving.exists_runs
    (h : Interleaving service procs s (first ++ m :: second) t) (hm : m.event = .asked i x) :
    ∃ rest a, Proc.Runs (procs i)
      (exchangesOf i first ++ x :: (exchangesOf i second ++ rest)) a := by
  obtain ⟨rest, a, hr⟩ := (h.begins i).exists_runs
  rw [exchangesOf_at hm, List.append_assoc, List.cons_append] at hr
  exact ⟨rest, a, hr⟩

/-- A call that can only be the last one ends its procedure. -/
theorem Interleaving.ended (h : Interleaving service procs s (first ++ m :: second) t)
    (hm : m.event = .asked i x) {a : α}
    (hlast : ∀ before after b, Proc.Runs (procs i) (before ++ x :: after) b →
      after = [] ∧ b = a) :
    exchangesOf i (first ++ m :: second) = exchangesOf i first ++ [x] ∧
      ∀ b, Proc.Runs (procs i) (exchangesOf i (first ++ m :: second)) b ↔ b = a := by
  obtain ⟨rest, b, hr⟩ := h.exists_runs hm
  obtain ⟨hafter, rfl⟩ := hlast _ _ _ hr
  obtain ⟨hsecond, rfl⟩ := List.append_eq_nil_iff.1 hafter
  rw [hsecond, List.append_nil] at hr
  rw [exchangesOf_at hm, hsecond]
  refine ⟨rfl, fun c => ⟨fun hc => (hlast _ _ _ hc).2, ?_⟩⟩
  rintro rfl
  exact hr

end Runs

end Exchanges

def reconciling (requeueAfter : Nat) (keys : ι → ObjectKey) (i : ι) :
    Proc W (Except ControllerError Requeue) := (reconcile requeueAfter (keys i)).run

def FailedWith (requeueAfter : Nat) (key : ObjectKey) (trace : List (Exchange W))
    (e : KubeError) : Prop :=
  ∀ result, Import.Runs (reconcile requeueAfter key) trace result ↔ result = .error (.kube e)

end ClusterImport
