import ClusterImport.Proofs.Application
import ClusterImport.Proofs.MemoryRun
import Mathlib.Data.Finset.Lattice.Lemmas
/-!
Applying a manifest to a workload cluster in memory. Which objects it adds, and where it breaks off,
does not depend on what was there before: an object that is there already is passed over.
-/
namespace ClusterImport

open Import Manifest

variable {α β κ ω : Type}

structure Reached (ω : Type) where
  ids : Finset ω
  result : Except ControllerError Unit

namespace Reached

def nil : Reached ω := ⟨∅, .ok ()⟩

def ended (fault : Option ManifestError) : Reached ω :=
  ⟨∅, match fault with
    | some f => .error (.manifest f)
    | none => .ok ()⟩

@[simp] theorem ended_none : ended none = (nil : Reached ω) := rfl

variable [DecidableEq ω]

def andThen (first second : Reached ω) : Reached ω :=
  match first.result with
  | .error _ => first
  | .ok () => ⟨first.ids ∪ second.ids, second.result⟩

@[simp] theorem nil_andThen (x : Reached ω) : nil.andThen x = x := by
  simp [andThen, nil]

theorem andThen_assoc (x y z : Reached ω) :
    (x.andThen y).andThen z = x.andThen (y.andThen z) := by
  obtain ⟨ids, result⟩ := x
  cases result with
  | error e => rfl
  | ok _ =>
    obtain ⟨more, result⟩ := y
    cases result with
    | error e => rfl
    | ok _ => simp [andThen, Finset.union_assoc]

/-- The first of two faults ends the manifest. -/
theorem ended_andThen (f g : Option ManifestError) :
    (ended f).andThen (ended g) = (ended (f.or g) : Reached ω) := by
  cases f with
  | none => simp
  | some f => rfl

end Reached

namespace Regime

variable [DecidableEq κ] [DecidableEq ω] (r : Regime κ ω) (faults : Faults)

def reachOne (o : Object) : Reached ω :=
  match faults (.createObject () o) with
  | some e =>
    ⟨∅, if e.isAlreadyExists then .ok () else .error (.remoteCreate o.kind o.displayName e)⟩
  | none => ⟨(r.ident? o).elim ∅ fun id => {id}, .ok ()⟩

def reach : List Object → Reached ω
  | [] => .nil
  | o :: rest => (r.reachOne faults o).andThen (reach rest)

variable {r faults}

/-- Whatever is held, a procedure leaves the objects in addition and ends in the same way. -/
def Reaches (r : Regime κ ω) (faults : Faults) (p : Import Unit α) (all : Reached ω) : Prop :=
  ∀ m : Memory κ ω, ∃ x : Except ControllerError α,
    r.run faults p m = (x, { m with workload := m.workload ∪ all.ids }) ∧
      x.map (fun _ => ()) = all.result

theorem reaches_pure (a : α) : r.Reaches faults (pure a) .nil := by
  intro m
  refine ⟨.ok a, ?_, rfl⟩
  simp [Reached.nil]

theorem reaches_throw (f : ManifestError) :
    r.Reaches faults (throw (.manifest f) : Import Unit α) (.ended (some f)) := by
  intro m
  refine ⟨.error (.manifest f), ?_, rfl⟩
  simp only [Reached.ended, Finset.union_empty]
  rfl

theorem reaches_seq {p : Import Unit α} {f : α → Import Unit β} {first second : Reached ω}
    (h : r.Reaches faults p first) (hf : ∀ a, r.Reaches faults (f a) second) :
    r.Reaches faults (p >>= f) (first.andThen second) := by
  intro m
  obtain ⟨x, hx, hr⟩ := h m
  obtain ⟨ids, result⟩ := first
  cases x with
  | error e =>
    obtain rfl : .error e = result := hr
    refine ⟨.error e, ?_, rfl⟩
    rw [run_seq, hx]
    rfl
  | ok a =>
    obtain rfl : .ok () = result := hr
    obtain ⟨y, hy, hs⟩ := hf a { m with workload := m.workload ∪ ids }
    refine ⟨y, ?_, hs⟩
    rw [run_seq, hx]
    dsimp only
    rw [hy, Finset.union_assoc]
    rfl

/-- What the create of an object is answered, and what is there then. -/
theorem run_createObject (faults : Faults) (m : Memory κ ω) (o : Object) :
    ∃ x, r.run faults (Import.createObject () o) m =
        (.ok x, { m with workload := m.workload ∪ (r.reachOne faults o).ids }) ∧
      (r.reachOne faults o).result = match x with
        | .ok () => .ok ()
        | .error e =>
          if e.isAlreadyExists then .ok () else .error (.remoteCreate o.kind o.displayName e) := by
  have hrun {x : Except KubeError Unit} {n : Memory κ ω}
      (h : (Proc.ask (.createObject () o)).run (r.environment faults) m = (x, n)) :
      r.run faults (Import.createObject () o) m = (.ok x, n) := by
    refine (Proc.run_bind (r.environment faults) _ _ m).trans ?_
    rw [h]
    rfl
  unfold reachOne
  cases hf : faults (.createObject () o) with
  | some e =>
    refine ⟨.error e, ?_, rfl⟩
    rw [Finset.union_empty]
    exact hrun (ask_of_failing hf)
  | none =>
    have hs := ask_of_serving hf (r := r) (m := m)
    simp only [serve] at hs
    cases hi : r.ident? o with
    | none =>
      rw [hi] at hs
      refine ⟨.ok (), ?_, rfl⟩
      rw [Option.elim_none, Finset.union_empty]
      exact hrun hs
    | some id =>
      rw [hi] at hs
      dsimp only at hs
      rw [Option.elim_some]
      by_cases hm : id ∈ m.workload
      · rw [if_pos hm] at hs
        refine ⟨.error (r.present o), ?_, by simp [r.isAlreadyExists_present]⟩
        rw [Finset.union_eq_left.2 (Finset.singleton_subset_iff.2 hm)]
        exact hrun hs
      · rw [if_neg hm] at hs
        refine ⟨.ok (), ?_, rfl⟩
        rw [Finset.union_comm, ← Finset.insert_eq]
        exact hrun hs

theorem reaches_createAll (objects : List Object) (outcome : ApplyOutcome) :
    r.Reaches faults (createAll () objects outcome) (r.reach faults objects) := by
  induction objects generalizing outcome with
  | nil => exact reaches_pure outcome
  | cons o rest ih =>
    intro m
    obtain ⟨x, hx, hr⟩ := r.run_createObject faults m o
    rw [createAll, reach, run_seq, hx]
    generalize r.reachOne faults o = one at hr ⊢
    obtain ⟨ids, result⟩ := one
    have hgo (next : ApplyOutcome) (hok : result = .ok ()) : ∃ y,
        r.run faults (createAll () rest next) { m with workload := m.workload ∪ ids } =
          (y, { m with workload := m.workload ∪
            (Reached.andThen ⟨ids, result⟩ (r.reach faults rest)).ids }) ∧
        y.map (fun _ => ()) = (Reached.andThen ⟨ids, result⟩ (r.reach faults rest)).result := by
      subst hok
      obtain ⟨y, hy, hs⟩ := ih next { m with workload := m.workload ∪ ids }
      rw [Finset.union_assoc] at hy
      exact ⟨y, hy, hs⟩
    cases x with
    | ok _ => exact hgo _ hr
    | error e =>
      cases he : e.isAlreadyExists with
      | true =>
        simp only [he, if_true] at hr ⊢
        exact hgo _ hr
      | false =>
        simp only [he, Bool.false_eq_true, if_false] at hr ⊢
        subst hr
        exact ⟨.error (.remoteCreate o.kind o.displayName e), rfl, rfl⟩

omit [DecidableEq κ] in
theorem reach_append (first second : List Object) :
    r.reach faults (first ++ second) = (r.reach faults first).andThen (r.reach faults second) := by
  induction first with
  | nil => simp [reach]
  | cons o first ih => rw [List.cons_append, reach, reach, ih, Reached.andThen_assoc]

theorem reaches_applyDocuments (documents : List String) (number : Nat) (outcome : ApplyOutcome) :
    r.Reaches faults (applyDocuments () documents number outcome)
      ((r.reach faults (parseAll documents number).1).andThen
        (.ended (parseAll documents number).2)) := by
  induction documents generalizing number outcome with
  | nil =>
    rw [parseAll, reach, Reached.nil_andThen]
    exact reaches_pure outcome
  | cons raw rest ih =>
    cases hp : parseDocument raw number with
    | error f =>
      simp only [applyDocuments, parseAll, hp, reach, Reached.nil_andThen]
      exact reaches_throw f
    | ok objects =>
      simp only [applyDocuments, parseAll, hp, reach_append, Reached.andThen_assoc]
      change r.Reaches faults (createAll () objects outcome >>=
        applyDocuments () rest (number + 1)) _
      exact reaches_seq (reaches_createAll objects outcome) fun outcome => ih (number + 1) outcome

theorem reaches_apply (octets : List UInt8) :
    r.Reaches faults (apply () octets)
      ((r.reach faults (contents octets).1).andThen (.ended (contents octets).2)) := by
  have hend (fault : Option ManifestError) (outcome : ApplyOutcome) :
      r.Reaches faults (match fault with | some e => throw (.manifest e) | none => pure outcome)
        (.ended fault) := by
    cases fault with
    | none => exact reaches_pure outcome
    | some f => exact reaches_throw f
  let read := (DocumentReader.ofOctets octets).readAll
  have hdocuments : r.Reaches faults (applyDocuments () read.1 1 {}) _ :=
    reaches_applyDocuments read.1 1 {}
  have hall := reaches_seq hdocuments (hend read.2)
  rwa [Reached.andThen_assoc, Reached.ended_andThen] at hall

end Regime

end ClusterImport
