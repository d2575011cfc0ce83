import ClusterImport.Manifest.Apply
import ClusterImport.Proofs.Trace
/-!
What the application of a manifest asks of the workload cluster. The stream stands for a list of
objects and for the fault that ends it, whatever the cluster answers; the answers decide how far
down the list the creates go, and the counts and the error are read off them.
-/
namespace ClusterImport.Manifest

open Import

variable {W σ : Type}

def parseAll : List String → (number : Nat) → List Object × Option ManifestError
  | [], _ => ([], none)
  | raw :: rest, number =>
    match parseDocument raw number with
    | .error f => ([], some f)
    | .ok objects =>
      let (more, fault) := parseAll rest (number + 1)
      (objects ++ more, fault)

def contents (octets : List UInt8) : List Object × Option ManifestError :=
  let read := (DocumentReader.ofOctets octets).readAll
  let parsed := parseAll read.1 1
  (parsed.1, parsed.2.or read.2)

def saysExists : Except KubeError Unit → Bool
  | .ok _ => false
  | .error e => e.isAlreadyExists

def tolerated (x : Except KubeError Unit) : Bool := x.isOk || saysExists x

abbrev Answers := List (Object × Except KubeError Unit)

namespace Answers

def exchanges (client : W) (answers : Answers) : List (Exchange W) :=
  answers.map fun (o, x) => ⟨.createObject client o, x⟩

def tally (outcome : ApplyOutcome) (answers : Answers) : ApplyOutcome where
  created := outcome.created + answers.countP (·.2.isOk)
  alreadyExisting := outcome.alreadyExisting + answers.countP (saysExists ·.2)

theorem exchanges_append (client : W) (first second : Answers) :
    exchanges client (first ++ second) = exchanges client first ++ exchanges client second :=
  List.map_append

theorem tally_append (outcome : ApplyOutcome) (first second : Answers) :
    tally outcome (first ++ second) = tally (tally outcome first) second := by
  simp [tally, List.countP_append, Nat.add_assoc]

/-- Every answer is counted once. -/
theorem tally_total {answers : Answers} (h : ∀ p ∈ answers, tolerated p.2 = true) :
    (tally {} answers).created + (tally {} answers).alreadyExisting = answers.length := by
  have hc : answers.countP (saysExists ·.2) = answers.countP (!·.2.isOk) := by
    refine List.countP_congr fun p hp => ?_
    have ht := h p hp
    cases hx : p.2 with
    | ok _ => simp [saysExists, Except.isOk, Except.toBool]
    | error e => simpa [tolerated, saysExists, hx, Except.isOk, Except.toBool] using ht
  have hl := List.length_eq_countP_add_countP (fun p : Object × Except KubeError Unit => p.2.isOk)
    (l := answers)
  simp only [tally, Nat.zero_add, hc]
  simpa using hl.symm

end Answers

open Answers

inductive ApplyCourse (client : W) (objects : List Object) (fault : Option ManifestError)
    (outcome : ApplyOutcome) : List (Exchange W) → Except ControllerError ApplyOutcome → Prop
  | refused {answers : Answers} {o : Object} {after : List Object} {e : KubeError}
      (ho : objects = answers.map Prod.fst ++ o :: after)
      (ht : ∀ p ∈ answers, tolerated p.2 = true) (he : e.isAlreadyExists = false) :
      ApplyCourse client objects fault outcome
        (exchanges client answers ++ [⟨.createObject client o, .error e⟩])
        (.error (.remoteCreate o.kind o.displayName e))
  | faulty {answers : Answers} {f : ManifestError} (hf : fault = some f)
      (ho : answers.map Prod.fst = objects) (ht : ∀ p ∈ answers, tolerated p.2 = true) :
      ApplyCourse client objects fault outcome (exchanges client answers) (.error (.manifest f))
  | applied {answers : Answers} (hf : fault = none) (ho : answers.map Prod.fst = objects)
      (ht : ∀ p ∈ answers, tolerated p.2 = true) :
      ApplyCourse client objects fault outcome (exchanges client answers)
        (.ok (tally outcome answers))

namespace ApplyCourse

variable {client : W} {objects more : List Object} {fault : Option ManifestError}
  {outcome : ApplyOutcome} {first second : List (Exchange W)}

/-- An application that has ended is not affected by what would have followed. -/
theorem ended {e : ControllerError} (h : ApplyCourse client objects none outcome first (.error e)) :
    ApplyCourse client (objects ++ more) fault outcome first (.error e) := by
  generalize hr : Except.error e = result at h
  cases h with
  | refused ho ht he => exact .refused (by rw [ho, List.append_assoc, List.cons_append]) ht he
  | faulty hf => cases hf
  | applied => cases hr

/-- Objects that have all been accepted are followed by the next ones. -/
theorem trans {reached : ApplyOutcome} {result : Except ControllerError ApplyOutcome}
    (h : ApplyCourse client objects none outcome first (.ok reached))
    (hm : ApplyCourse client more fault reached second result) :
    ApplyCourse client (objects ++ more) fault outcome (first ++ second) result := by
  generalize hr : Except.ok reached = accepted at h
  cases h with
  | refused => cases hr
  | faulty => cases hr
  | @applied answers _ ho ht =>
    cases hr
    have hall {later : Answers} (hl : ∀ p ∈ later, tolerated p.2 = true) :
        ∀ p ∈ answers ++ later, tolerated p.2 = true := fun p hp =>
      (List.mem_append.1 hp).elim (ht p) (hl p)
    cases hm with
    | refused hm hl he =>
      rw [← List.append_assoc, ← exchanges_append]
      exact .refused (by rw [List.map_append, ho, hm, List.append_assoc]) (hall hl) he
    | faulty hf hm hl =>
      rw [← exchanges_append]
      exact .faulty hf (by rw [List.map_append, ho, hm]) (hall hl)
    | applied hf hm hl =>
      rw [← exchanges_append, ← tally_append]
      exact .applied hf (by rw [List.map_append, ho, hm]) (hall hl)

theorem creates {result : Except ControllerError ApplyOutcome}
    (h : ApplyCourse client objects fault outcome first result) :
    ∀ x ∈ first, ∃ o ∈ objects, x.call = .createObject client o := by
  have he {answers : Answers} (ho : ∀ o ∈ answers.map Prod.fst, o ∈ objects) :
      ∀ x ∈ answers.exchanges client, ∃ o ∈ objects, x.call = .createObject client o := by
    intro x hx
    obtain ⟨p, hp, rfl⟩ := List.mem_map.1 hx
    exact ⟨p.1, ho p.1 (List.mem_map_of_mem hp), rfl⟩
  cases h with
  | @refused answers o after e ho =>
    subst ho
    simp only [List.forall_mem_append, List.forall_mem_singleton]
    exact ⟨he (by simp +contextual), o, by simp, rfl⟩
  | faulty _ ho => exact he (by simp [ho])
  | applied _ ho => exact he (by simp [ho])

theorem nil : ApplyCourse client [] none outcome [] (.ok outcome) := by
  have h : ApplyCourse client [] none outcome (exchanges client []) (.ok (tally outcome [])) :=
    .applied rfl rfl (by simp)
  exact h

/-- One object that is created or is there already. -/
theorem single {o : Object} {x : Except KubeError Unit} (hx : tolerated x = true) :
    ApplyCourse client [o] none outcome [⟨.createObject client o, x⟩]
      (.ok (tally outcome [(o, x)])) := by
  have h : ApplyCourse client [o] none outcome (exchanges client [(o, x)])
      (.ok (tally outcome [(o, x)])) := .applied rfl rfl (by simpa using hx)
  exact h

theorem fault_first {f : ManifestError} :
    ApplyCourse client [] (some f) outcome [] (.error (.manifest f)) := by
  have h : ApplyCourse client [] (some f) outcome (exchanges client []) (.error (.manifest f)) :=
    .faulty rfl rfl (by simp)
  exact h

theorem refused_first {o : Object} {e : KubeError} (he : e.isAlreadyExists = false) :
    ApplyCourse client (o :: more) fault outcome [⟨.createObject client o, .error e⟩]
      (.error (.remoteCreate o.kind o.displayName e)) := by
  have h : ApplyCourse client (o :: more) fault outcome
      (exchanges client [] ++ [⟨.createObject client o, .error e⟩])
      (.error (.remoteCreate o.kind o.displayName e)) := .refused rfl (by simp) he
  exact h

end ApplyCourse

/-- The objects are created in order, up to the first that is refused. -/
theorem applyCourse_createAll {client : W} {objects : List Object} {outcome : ApplyOutcome}
    {trace : List (Exchange W)} {result : Except ControllerError ApplyOutcome}
    (h : Runs (createAll client objects outcome) trace result) :
    ApplyCourse client objects none outcome trace result := by
  induction objects generalizing outcome trace with
  | nil =>
    obtain ⟨rfl, rfl⟩ := runs_pure.1 h
    exact .nil
  | cons o rest ih =>
    rcases runs_seq.1 h with ⟨e, hc, -⟩ | ⟨first, x, later, rfl, hc, hk⟩
    · obtain ⟨x, -, hx⟩ := runs_lift.1 hc
      cases hx
    · obtain ⟨y, hy, hx⟩ := runs_lift.1 hc
      cases hx
      obtain rfl := Proc.runs_ask.1 hy
      cases x with
      | ok _ => exact (ApplyCourse.single rfl).trans (ih hk)
      | error e =>
        cases he : e.isAlreadyExists with
        | true =>
          simp only [he, if_true] at hk
          have hx : tolerated (.error e) = true := he
          have hs : ApplyCourse client [o] none outcome [⟨.createObject client o, .error e⟩]
              (.ok (tally outcome [(o, .error e)])) := .single hx
          refine hs.trans ?_
          simpa [tally, saysExists, he, Except.isOk, Except.toBool] using ih hk
        | false =>
          simp only [he, Bool.false_eq_true, if_false] at hk
          obtain ⟨rfl, rfl⟩ := runs_throw.1 hk
          exact .refused_first he

theorem applyCourse_applyDocuments {client : W} {documents : List String} {number : Nat}
    {outcome : ApplyOutcome} {trace : List (Exchange W)}
    {result : Except ControllerError ApplyOutcome}
    (h : Runs (applyDocuments client documents number outcome) trace result) :
    ApplyCourse client (parseAll documents number).1 (parseAll documents number).2 outcome trace
      result := by
  induction documents generalizing number outcome trace with
  | nil =>
    obtain ⟨rfl, rfl⟩ := runs_pure.1 h
    exact .nil
  | cons raw rest ih =>
    have hk := runs_ofExcept_seq.1 h
    cases hp : parseDocument raw number with
    | error f =>
      rw [hp] at hk
      obtain ⟨rfl, rfl⟩ := hk
      simp only [parseAll, hp]
      exact .fault_first
    | ok objects =>
      rw [hp] at hk
      simp only [parseAll, hp]
      rcases runs_seq.1 hk with ⟨e, hc, rfl⟩ | ⟨first, reached, second, rfl, hc, hr⟩
      · exact (applyCourse_createAll hc).ended
      · exact (applyCourse_createAll hc).trans (ih hr)

/-- A fault of a document comes before one that is read later. -/
theorem ApplyCourse.error_or {client : W} {objects : List Object} {fault : Option ManifestError}
    {outcome : ApplyOutcome} {trace : List (Exchange W)} {e : ControllerError}
    (h : ApplyCourse client objects fault outcome trace (.error e)) (late : Option ManifestError) :
    ApplyCourse client objects (fault.or late) outcome trace (.error e) := by
  generalize hr : Except.error e = result at h
  cases h with
  | refused ho ht he => exact .refused ho ht he
  | faulty hf ho ht => exact .faulty (by rw [hf, Option.some_or]) ho ht
  | applied => cases hr

theorem applyCourse_apply {client : W} {octets : List UInt8} {trace : List (Exchange W)}
    {result : Except ControllerError ApplyOutcome}
    (h : Runs (apply client octets) trace result) :
    ApplyCourse client (contents octets).1 (contents octets).2 {} trace result := by
  simp only [contents]
  rcases runs_seq.1 h with ⟨e, hd, rfl⟩ | ⟨first, reached, last, rfl, hd, hk⟩
  · exact (applyCourse_applyDocuments hd).error_or _
  · have hd := applyCourse_applyDocuments hd
    generalize hr : Except.ok reached = accepted at hd
    cases hd with
    | refused => cases hr
    | faulty => cases hr
    | applied hf ho ht =>
      cases hr
      cases hl : (DocumentReader.ofOctets octets).readAll.2 with
      | none =>
        rw [hl] at hk
        obtain ⟨rfl, rfl⟩ := runs_pure.1 hk
        rw [List.append_nil]
        exact .applied (by rw [hf, Option.none_or]) ho ht
      | some f =>
        rw [hl] at hk
        obtain ⟨rfl, rfl⟩ := runs_throw.1 hk
        rw [List.append_nil]
        exact .faulty (by rw [hf, Option.none_or]) ho ht

inductive Located (lines : List Line) (documents : List String) : ManifestError → Prop
  | yaml {i : Nat} {raw : String} (hd : documents[i]? = some raw)
      (hp : parseDocument raw (i + 1) = .error (.yaml (i + 1))) :
      Located lines documents (.yaml (i + 1))
  | object {i : Nat} {raw : String} {reason : ObjectFault} (hd : documents[i]? = some raw)
      (hp : parseDocument raw (i + 1) = .error (.object (i + 1) reason)) :
      Located lines documents (.object (i + 1) reason)
  | separator {n : Nat} {text : String} (hl : lines[n]? = some (.malformed text)) :
      Located lines documents (.separator (n + 1) (Text.trimmedEnd text))
  | unreadable {n : Nat} (hl : lines[n]? = some .unreadable) :
      Located lines documents (.read .notUtf8)

theorem parseDocument_error {raw : String} {number : Nat} {f : ManifestError}
    (h : parseDocument raw number = .error f) :
    f = .yaml number ∨ ∃ reason, f = .object number reason := by
  unfold parseDocument at h
  split at h
  · cases h
  · split at h
    · cases h
      exact .inl rfl
    · rename_i v _
      cases ho : objectsOf v with
      | error reason =>
        rw [ho] at h
        cases h
        exact .inr ⟨reason, rfl⟩
      | ok objects =>
        rw [ho] at h
        cases h

/-- The fault of a document is the one that its own number gives. -/
theorem parseAll_fault {documents : List String} {number : Nat} {f : ManifestError}
    (h : (parseAll documents number).2 = some f) :
    ∃ i raw, documents[i]? = some raw ∧ parseDocument raw (number + i) = .error f := by
  induction documents generalizing number with
  | nil => cases h
  | cons raw rest ih =>
    cases hp : parseDocument raw number with
    | error g =>
      simp only [parseAll, hp, Option.some.injEq] at h
      subst h
      exact ⟨0, raw, rfl, hp⟩
    | ok objects =>
      simp only [parseAll, hp] at h
      obtain ⟨i, found, hi, hf⟩ := ih h
      refine ⟨i + 1, found, by simpa using hi, ?_⟩
      rwa [Nat.add_right_comm, Nat.add_assoc] at hf

namespace DocumentReader

/-- The lines that are left are those after the ones that were counted. -/
def Aligned (lines : List Line) (r : DocumentReader) : Prop := r.lines = lines.drop r.count

theorem drop_succ_of_drop {lines rest : List Line} {l : Line} {count : Nat}
    (h : l :: rest = lines.drop count) :
    lines[count]? = some l ∧ rest = lines.drop (count + 1) := by
  constructor
  · rw [← List.head?_drop, ← h, List.head?_cons]
  · rw [← List.tail_drop, ← h, List.tail_cons]

/-- What one call of the reader leaves, as long as it finds no fault, and where a fault stands. -/
theorem read_aligned {lines rest : List Line} {text : String} {count : Nat}
    (h : rest = lines.drop count) :
    (∀ document, (read text count rest).1 = .document document →
      Aligned lines (read text count rest).2) ∧
    ∀ f, (read text count rest).1 = .fault f → ∀ documents, Located lines documents f := by
  induction rest generalizing text count with
  | nil =>
    refine ⟨fun _ _ => h, fun f hf => ?_⟩
    simp only [read] at hf
    split at hf <;> cases hf
  | cons l rest ih =>
    obtain ⟨hl, hr⟩ := drop_succ_of_drop h
    cases l with
    | unreadable =>
      refine ⟨fun _ hd => by simp [read] at hd, fun f hf documents => ?_⟩
      simp only [read, Outcome.fault.injEq] at hf
      subst hf
      exact .unreadable hl
    | malformed line =>
      refine ⟨fun _ hd => by simp [read] at hd, fun f hf documents => ?_⟩
      simp only [read, Outcome.fault.injEq] at hf
      subst hf
      exact .separator hl
    | separator =>
      simp only [read]
      split
      · exact ih hr
      · exact ⟨fun _ _ => hr, fun f hf => by simp at hf⟩
    | content line => exact ih hr

theorem next_aligned {lines : List Line} {r : DocumentReader} (h : Aligned lines r) :
    (∀ document, r.next.1 = .document document → Aligned lines r.next.2) ∧
    ∀ f, r.next.1 = .fault f → ∀ documents, Located lines documents f := by
  unfold next
  split
  · exact ⟨fun _ hd => by simp at hd, fun _ hf => by simp at hf⟩
  · exact read_aligned h

theorem readAll_of_document {r : DocumentReader} {text : String} (h : r.next.1 = .document text) :
    r.readAll = (text :: r.next.2.readAll.1, r.next.2.readAll.2) := by
  rw [readAll]
  split <;> simp_all

theorem readAll_of_fault {r : DocumentReader} {f : ManifestError} (h : r.next.1 = .fault f) :
    r.readAll = ([], some f) := by
  rw [readAll]
  split <;> simp_all

theorem readAll_of_ended {r : DocumentReader} (h : r.next.1 = .ended) : r.readAll = ([], none) := by
  rw [readAll]
  split <;> simp_all

theorem readAll_fault {lines : List Line} {r : DocumentReader} (h : Aligned lines r)
    {f : ManifestError} (hf : r.readAll.2 = some f) (documents : List String) :
    Located lines documents f := by
  induction r using readAll.induct with
  | case1 r text ht _ _ _ _ ih =>
    rw [readAll_of_document ht] at hf
    exact ih ((next_aligned h).1 text ht) hf
  | case2 r g hg =>
    rw [readAll_of_fault hg] at hf
    obtain rfl : g = f := Option.some.inj hf
    exact (next_aligned h).2 g hg documents
  | case3 r he =>
    rw [readAll_of_ended he] at hf
    cases hf

end DocumentReader

/-- The fault of a stream stands where it says. -/
theorem contents_fault {octets : List UInt8} {f : ManifestError}
    (h : (contents octets).2 = some f) :
    Located (linesOf octets) (DocumentReader.ofOctets octets).readAll.1 f := by
  simp only [contents] at h
  cases hp : (parseAll (DocumentReader.ofOctets octets).readAll.1 1).2 with
  | none =>
    rw [hp, Option.none_or] at h
    exact DocumentReader.readAll_fault (r := .ofOctets octets) rfl h _
  | some g =>
    rw [hp, Option.some_or] at h
    obtain rfl : g = f := Option.some.inj h
    obtain ⟨i, raw, hi, hf⟩ := parseAll_fault hp
    rw [Nat.add_comm] at hf
    obtain rfl | ⟨reason, rfl⟩ := parseDocument_error hf
    · exact .yaml hi hf
    · exact .object hi hf

theorem ApplyCourse.total {client : W} {objects : List Object} {fault : Option ManifestError}
    {outcome : ApplyOutcome} {trace : List (Exchange W)}
    (h : ApplyCourse client objects fault {} trace (.ok outcome)) :
    outcome.created + outcome.alreadyExisting = objects.length := by
  generalize hr : Except.ok outcome = result at h
  cases h with
  | refused => cases hr
  | faulty => cases hr
  | applied _ ho ht =>
    cases hr
    rw [tally_total ht, ← ho, List.length_map]

/-- In every environment the creates are those of the stream's objects, in order, up to the first
that is refused. What is returned is that refusal, else the fault that ends the stream, else the
answers counted. -/
theorem apply_trace (e : Environment W σ) (s : σ) (client : W) (octets : List UInt8) :
    let trace := (apply client octets).run.trace e s
    let result := ((apply client octets).run.run e s).1
    ApplyCourse client (contents octets).1 (contents octets).2 {} trace result ∧
      (∀ f, (contents octets).2 = some f →
        Located (linesOf octets) (DocumentReader.ofOctets octets).readAll.1 f) ∧
      ∀ outcome, result = .ok outcome →
        outcome.created + outcome.alreadyExisting = (contents octets).1.length := by
  have h := applyCourse_apply (Proc.runs_trace e (apply client octets).run s)
  refine ⟨h, fun f hf => contents_fault hf, fun outcome ho => ?_⟩
  rw [ho] at h
  exact h.total

end ClusterImport.Manifest
