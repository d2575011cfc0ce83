import ClusterImport.Proofs.DocumentSplit
/-!
The number that is reported for a malformed separator. A reader counts the lines that it has read as
text, however many calls it has taken and whatever they reported. So the number is that of the
physical line, less one for each line before it that cannot be read.
-/
namespace ClusterImport

namespace Text

variable {α : Type} {ends : α → Bool}

/-- A piece that another one follows has one end. -/
theorem Cut.countP_flatten {s : List α} {before after : List (List α)} {piece : List α}
    (h : Cut ends s (before ++ piece :: after)) : before.flatten.countP ends = before.length := by
  induction before generalizing s with
  | nil => rfl
  | cons first before ih =>
    rw [List.cons_append] at h
    generalize hp : first :: (before ++ piece :: after) = all at h
    cases h with
    | nil => cases hp
    | last => simp at hp
    | @cons body rest a _ hbody ha hr =>
      obtain ⟨rfl, rfl⟩ := List.cons.inj hp
      have hnone : body.countP ends = 0 := List.countP_eq_zero.2 fun b hb => by simp [hbody b hb]
      rw [List.flatten_cons, List.countP_append, ih hr, List.countP_append, hnone,
        List.countP_singleton, if_pos ha, List.length_cons, Nat.zero_add, Nat.add_comm]

end Text

namespace Manifest

namespace DocumentReader

def after : Nat → DocumentReader → DocumentReader
  | 0, r => r
  | n + 1, r => after n r.next.2

structure Took (lines taken : List Line) (r : DocumentReader) : Prop where
  split : lines = taken ++ r.lines
  count : r.count = taken.countP Line.isReadable

/-- A malformed separator is the line taken last, and its number counts the readable lines up to
it. -/
def Numbers (taken : List Line) (outcome : Outcome) : Prop :=
  ∀ number content, outcome = .fault (.separator number content) → ∃ before text,
    taken = before ++ [.malformed text] ∧ content = Text.trimmedEnd text ∧
      number = before.countP Line.isReadable + 1

theorem read_took {lines taken rest : List Line} {count : Nat} (text : String)
    (h : Took lines taken ⟨rest, count, false⟩) :
    ∃ more, Took lines more (read text count rest).2 ∧ Numbers more (read text count rest).1 := by
  induction rest generalizing taken text count with
  | nil =>
    refine ⟨taken, ⟨h.split, h.count⟩, fun number content ho => ?_⟩
    simp only [read] at ho
    split at ho <;> cases ho
  | cons l rest ih =>
    have hsplit : lines = (taken ++ [l]) ++ rest := by simpa using h.split
    have hcount (hl : l.isReadable = true) : count + 1 = (taken ++ [l]).countP Line.isReadable := by
      rw [countP_append taken hl, ← h.count]
    cases l with
    | unreadable =>
      rw [read]
      refine ⟨taken ++ [.unreadable], ⟨hsplit, ?_⟩, fun _ _ ho => by cases ho⟩
      simpa [List.countP_append, Line.isReadable] using h.count
    | malformed line =>
      rw [read]
      refine ⟨taken ++ [.malformed line], ⟨hsplit, hcount rfl⟩, fun number content ho => ?_⟩
      simp only [Outcome.fault.injEq, ManifestError.separator.injEq] at ho
      obtain ⟨rfl, rfl⟩ := ho
      exact ⟨taken, line, rfl, rfl, congrArg (· + 1) h.count⟩
    | separator =>
      rw [read]
      split
      · exact ih text ⟨hsplit, hcount rfl⟩
      · exact ⟨taken ++ [.separator], ⟨hsplit, hcount rfl⟩, fun _ _ ho => by cases ho⟩
    | content line => exact ih (text ++ line) ⟨hsplit, hcount rfl⟩

theorem next_took {lines taken : List Line} {r : DocumentReader} (h : Took lines taken r) :
    ∃ more, Took lines more r.next.2 ∧ Numbers more r.next.1 := by
  rw [next]
  split
  · exact ⟨taken, h, fun _ _ ho => by cases ho⟩
  · exact read_took "" ⟨h.split, h.count⟩

theorem after_took {lines taken : List Line} {r : DocumentReader} (h : Took lines taken r)
    (n : Nat) : ∃ more, Took lines more (after n r) := by
  induction n generalizing taken r with
  | zero => exact ⟨taken, h⟩
  | succ n ih =>
    obtain ⟨more, hmore, -⟩ := next_took h
    exact ih hmore

end DocumentReader

structure LineAt (octets before line after : List UInt8) : Prop where
  join : octets = before ++ (line ++ after)
  lines : Text.cutAfter (· == 10) octets =
    Text.cutAfter (· == 10) before ++ line :: Text.cutAfter (· == 10) after

/-- The lines before a physical line are as many as the line feeds before it. -/
theorem LineAt.length_linesOf {octets before line after : List UInt8}
    (h : LineAt octets before line after) : (linesOf before).length = before.count 10 := by
  have hcut := Text.cut_cutAfter (· == 10) octets
  rw [h.lines] at hcut
  have hcount := hcut.countP_flatten
  rw [Text.flatten_cutAfter] at hcount
  rw [linesOf, List.length_map]
  exact hcount.symm

/-- Lines in a stream stand at octets. -/
theorem exists_lineAt {octets : List UInt8} {before rest : List Line} {l : Line}
    (h : linesOf octets = before ++ l :: rest) : ∃ first line last,
      LineAt octets first line last ∧ linesOf first = before ∧ Line.Of line l ∧
        linesOf last = rest := by
  obtain ⟨first, tail, hpieces, rfl, htail⟩ := List.map_eq_append_iff.1 h
  obtain ⟨line, last, rfl, rfl, rfl⟩ := List.map_eq_cons_iff.1 htail
  have hfirst : Text.cutAfter (· == 10) first.flatten = first :=
    Text.cutAfter_flatten_of_infix (hpieces ▸ List.infix_append' [] first (line :: last))
  have hlast : Text.cutAfter (· == 10) last.flatten = last :=
    Text.cutAfter_flatten_of_infix (s := octets) ⟨first ++ [line], [], by simp [hpieces]⟩
  refine ⟨first.flatten, line, last.flatten, ⟨?_, ?_⟩, ?_, Line.of_ofOctets line, ?_⟩
  · rw [← Text.flatten_cutAfter (· == 10) octets, hpieces]
    simp
  · rw [hfirst, hlast, hpieces]
  · rw [linesOf, hfirst]
  · rw [linesOf, hlast]

open DocumentReader

/-- Whatever calls have been made, the number of a malformed separator and the lines before it that
cannot be read come to one more than the line feeds before it; the line is the last that has been
taken. -/
theorem separator_number {octets : List UInt8} {n number : Nat} {content : String}
    (h : (after n (ofOctets octets)).next.1 = .fault (.separator number content)) :
    ∃ before line rest text, LineAt octets before line rest ∧ Line.Of line (.malformed text) ∧
      content = Text.trimmedEnd text ∧ (after n (ofOctets octets)).next.2.lines = linesOf rest ∧
      number + (linesOf before).countP (!·.isReadable) = 1 + before.count 10 ∧
      (.unreadable ∉ linesOf before → number = 1 + before.count 10) := by
  have hstart : Took (linesOf octets) [] (ofOctets octets) := ⟨rfl, rfl⟩
  obtain ⟨taken, htook⟩ := after_took hstart n
  obtain ⟨more, hmore, hnumbers⟩ := next_took htook
  obtain ⟨lines, text, rfl, hcontent, hnumber⟩ := hnumbers number content h
  have hsplit := hmore.split
  rw [List.append_assoc, List.singleton_append] at hsplit
  obtain ⟨before, line, rest, hat, rfl, hline, hrest⟩ := exists_lineAt hsplit
  have htotal := List.length_eq_countP_add_countP Line.isReadable (l := linesOf before)
  rw [hat.length_linesOf] at htotal
  have hsum : number + (linesOf before).countP (!·.isReadable) = 1 + before.count 10 := by
    simp only [Bool.not_eq_true, Bool.decide_eq_false] at htotal
    omega
  refine ⟨before, line, rest, text, hat, hline, hcontent, hrest.symm, hsum, fun hno => ?_⟩
  have hnone : (linesOf before).countP (!·.isReadable) = 0 := by
    refine List.countP_eq_zero.2 fun l hl => ?_
    cases l with
    | unreadable => exact absurd hl hno
    | _ => simp [Line.isReadable]
  omega

/-- A line that cannot be read, and a malformed separator. -/
def murkyOctets : List UInt8 := [0xff, 10, 45, 45, 45, 32, 120, 10]

theorem separator_number_murky :
    (after 1 (ofOctets murkyOctets)).next.1 = .fault (.separator 1 "--- x") ∧
      ∃ before line rest, LineAt murkyOctets before line rest ∧
        1 + (linesOf before).countP (!·.isReadable) = 1 + before.count 10 := by
  have hfault : (after 1 (ofOctets murkyOctets)).next.1 = .fault (.separator 1 "--- x") := by decide
  obtain ⟨before, line, rest, -, hat, -, -, -, hnumber, -⟩ := separator_number hfault
  exact ⟨hfault, before, line, rest, hat, hnumber⟩

/-- The number need not be that of the physical line: here it is one, and the separator stands on
the second line. -/
theorem exists_low_number : ¬∀ (octets : List UInt8) (n number : Nat) (content : String),
    (after n (ofOctets octets)).next.1 = .fault (.separator number content) →
      ∃ before line rest text, octets = before ++ (line ++ rest) ∧
        Line.Of line (.malformed text) ∧ number = 1 + before.count 10 := by
  intro h
  obtain ⟨before, line, rest, text, hjoin, hline, hnumber⟩ :=
    h murkyOctets 1 1 "--- x" (by decide)
  have hcount : before.count 10 = 0 := by omega
  obtain ⟨more, rfl⟩ : ∃ more, line = 45 :: more := by
    cases hline with
    | malformed ht =>
      rw [ht]
      exact ⟨_, rfl⟩
  -- no line feed stands in front, so the line begins with one of the first two octets
  match before with
  | [] => cases hjoin
  | [_] => cases hjoin
  | _ :: second :: _ =>
    obtain ⟨-, hrest⟩ := List.cons.inj hjoin
    obtain ⟨rfl, -⟩ := List.cons.inj hrest
    simp [List.count_cons] at hcount

end Manifest

end ClusterImport
