import ClusterImport.Proofs.PhysicalLine
import Mathlib.Data.List.DropRight
import Mathlib.Data.List.Forall2
/-!
What a stream is split into. Every line that is not content, and the end of the stream, ends the run
of content lines right before it: a separator and the end yield the run as it is written, unless it
is empty, and a line that cannot be read or does not separate yields an error in its place. Calls of
the reader report these outcomes in the order of the lines, past errors too, and then the end.
-/
namespace ClusterImport.Manifest

namespace Line

inductive Of : List UInt8 → Line → Prop
  | unreadable {octets : List UInt8} (h : ∀ text : String, Text.octets text.toList ≠ octets) :
      Of octets .unreadable
  | content {text : String} (h : ¬"---".toList <+: text.toList) :
      Of (Text.octets text.toList) (.content text)
  | separator {text : String} {rest : List Char} (ht : text.toList = "---".toList ++ rest)
      (h : Text.trim rest = [] ∨ (Text.trim rest).head? = some '#') :
      Of (Text.octets text.toList) .separator
  | malformed {text : String} {rest : List Char} (ht : text.toList = "---".toList ++ rest)
      (hne : Text.trim rest ≠ []) (h : (Text.trim rest).head? ≠ some '#') :
      Of (Text.octets text.toList) (.malformed text)

theorem ofText_dashes (text : String) (rest : List Char) (h : text.toList = "---".toList ++ rest) :
    ofText text = if Text.trim rest = [] ∨ (Text.trim rest).head? = some '#' then .separator
      else .malformed text := by
  have hd : text.toList = '-' :: '-' :: '-' :: rest := h
  rw [ofText, hd]
  simp

theorem ofText_content {text : String} (h : ¬"---".toList <+: text.toList) :
    ofText text = .content text := by
  rw [ofText]
  split
  · rename_i rest hd
    exact absurd ⟨rest, hd.symm⟩ h
  · rfl

theorem of_ofText (text : String) : Of (Text.octets text.toList) (ofText text) := by
  by_cases h : "---".toList <+: text.toList
  · obtain ⟨rest, hr⟩ := h
    rw [ofText_dashes text rest hr.symm]
    by_cases ht : Text.trim rest = [] ∨ (Text.trim rest).head? = some '#'
    · rw [if_pos ht]
      exact .separator hr.symm ht
    · rw [if_neg ht]
      obtain ⟨hne, hh⟩ := not_or.1 ht
      exact .malformed hr.symm hne hh
  · rw [ofText_content h]
    exact .content h

theorem of_ofOctets (octets : List UInt8) : Of octets (ofOctets octets) := by
  rw [ofOctets]
  cases h : String.fromUTF8? ⟨octets.toArray⟩ with
  | none =>
    refine .unreadable fun text ht => ?_
    rw [fromUTF8?_eq_some_iff.2 ht] at h
    cases h
  | some text =>
    have ht := fromUTF8?_eq_some_iff.1 h
    exact ht ▸ of_ofText text

def isContent : Line → Bool
  | content _ => true
  | _ => false

def isReadable : Line → Bool
  | unreadable => false
  | _ => true

def text : Line → String
  | content text => text
  | _ => ""

end Line

def runText (lines : List Line) : String :=
  String.join ((lines.rtakeWhile Line.isContent).map Line.text)

/-- What a line yields after the lines before it, or the end of the stream if there is none. The
number of a line counts those that can be read. -/
def outcomeAfter (before : List Line) : Option Line → Option Outcome
  | some (.content _) => none
  | some .unreadable => some (.fault (.read .notUtf8))
  | some (.malformed text) =>
    some (.fault (.separator (before.countP Line.isReadable + 1) (Text.trimmedEnd text)))
  | some .separator | none =>
    if runText before = "" then none else some (.document (runText before))

def outcomesOf (lines : List Line) : List Outcome :=
  (List.range (lines.length + 1)).filterMap fun i => outcomeAfter (lines.take i) lines[i]?

namespace DocumentReader

def calls : Nat → DocumentReader → List Outcome
  | 0, _ => []
  | n + 1, r => r.next.1 :: calls n r.next.2

end DocumentReader

def outcomesFrom (before rest : List Line) : List Outcome :=
  (List.range (rest.length + 1)).filterMap fun i => outcomeAfter (before ++ rest.take i) rest[i]?

theorem outcomesFrom_nil (before : List Line) :
    outcomesFrom before [] = (outcomeAfter before none).toList := by
  cases h : outcomeAfter before none <;> simp [outcomesFrom, h]

theorem outcomesFrom_cons (before : List Line) (l : Line) (rest : List Line) :
    outcomesFrom before (l :: rest) =
      (outcomeAfter before (some l)).toList ++ outcomesFrom (before ++ [l]) rest := by
  rw [outcomesFrom, List.length_cons, List.range_succ_eq_map, List.filterMap_cons,
    List.filterMap_map]
  have hrest : (List.range (rest.length + 1)).filterMap
      ((fun i => outcomeAfter (before ++ (l :: rest).take i) (l :: rest)[i]?) ∘ Nat.succ) =
      outcomesFrom (before ++ [l]) rest := by
    simp [outcomesFrom, Function.comp_def]
  rw [hrest]
  cases h : outcomeAfter before (some l) <;> simp [h]

theorem runText_content (before : List Line) (line : String) :
    runText (before ++ [.content line]) = runText before ++ line := by
  rw [runText, List.rtakeWhile_concat_pos _ _ _ rfl]
  simp [runText, Line.text, String.join_append]

theorem runText_of_not_content (before : List Line) {l : Line} (h : l.isContent = false) :
    runText (before ++ [l]) = "" := by
  rw [runText, List.rtakeWhile_concat_neg _ _ _ (by simp [h])]
  rfl

theorem countP_append (before : List Line) {l : Line} (h : l.isReadable = true) :
    (before ++ [l]).countP Line.isReadable = before.countP Line.isReadable + 1 := by
  simp [List.countP_append, h]

namespace DocumentReader

/-- The reader stands after the lines given, where no run is open, or has come to the end. -/
structure StandsAfter (before : List Line) (r : DocumentReader) : Prop where
  run : r.ended = false → runText before = ""
  count : r.count = before.countP Line.isReadable

def pending (before : List Line) (r : DocumentReader) : List Outcome :=
  if r.ended then [] else outcomesFrom before r.lines

inductive Reports (pend : List Outcome) (outcome : Outcome) (r : DocumentReader) : Prop
  | first (before : List Line) (hs : StandsAfter before r)
      (hp : pend = outcome :: pending before r)
  | ended (ho : outcome = .ended) (hr : r.ended = true) (hp : pend = [])

theorem reports_read (before : List Line) {text : String} {count : Nat} (rest : List Line)
    (ht : runText before = text) (hc : before.countP Line.isReadable = count) :
    Reports (outcomesFrom before rest) (read text count rest).1 (read text count rest).2 := by
  subst ht hc
  induction rest generalizing before with
  | nil =>
    rw [outcomesFrom_nil, outcomeAfter, read]
    by_cases h : runText before = ""
    · refine .ended ?_ rfl ?_ <;> simp [h]
    · refine .first before ⟨by simp, rfl⟩ ?_
      simp [h, pending]
  | cons l rest ih =>
    rw [outcomesFrom_cons]
    cases l with
    | unreadable =>
      refine .first (before ++ [.unreadable]) ⟨fun _ => ?_, ?_⟩ rfl
      · exact runText_of_not_content before rfl
      · simp [read, List.countP_append, Line.isReadable]
    | malformed line =>
      refine .first (before ++ [.malformed line]) ⟨fun _ => ?_, ?_⟩ rfl
      · exact runText_of_not_content before rfl
      · exact (countP_append before rfl).symm
    | separator =>
      have hrun : runText (before ++ [.separator]) = "" := runText_of_not_content before rfl
      have hcount := countP_append before (l := .separator) rfl
      rw [outcomeAfter, read]
      by_cases h : runText before = ""
      · have hih := ih (before ++ [.separator])
        rw [hrun, hcount] at hih
        simpa [h] using hih
      · refine .first (before ++ [.separator]) ⟨fun _ => hrun, ?_⟩ ?_
        · simpa [h] using hcount.symm
        · simp [h, pending]
    | content line =>
      have hih := ih (before ++ [.content line])
      rw [runText_content, countP_append before rfl] at hih
      simpa [outcomeAfter, read] using hih

theorem reports_next {before : List Line} {r : DocumentReader} (h : StandsAfter before r) :
    Reports (pending before r) r.next.1 r.next.2 := by
  rw [next, pending]
  cases hr : r.ended with
  | true => exact .ended rfl hr rfl
  | false => exact reports_read before r.lines (h.run hr) h.count.symm

theorem calls_of_ended {r : DocumentReader} (h : r.ended = true) (n : Nat) :
    calls n r = List.replicate n .ended := by
  induction n with
  | zero => rfl
  | succ n ih =>
    have hn : r.next = (.ended, r) := by rw [next, if_pos h]
    rw [calls, hn, ih, List.replicate_succ]

/-- The outcomes of calls are those that are pending, and then the end. -/
theorem calls_eq {before : List Line} {r : DocumentReader} (h : StandsAfter before r) (n : Nat) :
    calls n r = (pending before r ++ List.replicate n Outcome.ended).take n := by
  induction n generalizing before r with
  | zero => rfl
  | succ n ih =>
    rw [calls]
    cases reports_next h with
    | first left hs hp =>
      have hmore : (pending left r.next.2 ++ List.replicate (n + 1) Outcome.ended).take n =
          (pending left r.next.2 ++ List.replicate n Outcome.ended).take n := by
        rw [List.replicate_succ', ← List.append_assoc, List.take_append_of_le_length (by simp)]
      rw [ih hs, hp, List.cons_append, List.take_succ_cons, hmore]
    | ended ho hr hp =>
      rw [calls_of_ended hr, ho, hp, List.nil_append, List.replicate_succ, List.take_succ_cons,
        List.take_of_length_le (by simp)]

end DocumentReader

def Outcome.text? : Outcome → Option String
  | .document text => some text
  | _ => none

theorem join_outcomeAfter_none (before : List Line) :
    String.join ((outcomeAfter before none).toList.filterMap Outcome.text?) = runText before := by
  rw [outcomeAfter]
  split
  · rename_i h
    exact h.symm
  · simp [Outcome.text?, String.join]

/-- Where every line is content or a separator, no text is lost and none is added. -/
theorem join_outcomesFrom {rest : List Line}
    (h : ∀ l ∈ rest, l.isContent = true ∨ l = .separator) (before : List Line) :
    String.join ((outcomesFrom before rest).filterMap Outcome.text?) =
      runText before ++ String.join ((rest.filter Line.isContent).map Line.text) := by
  induction rest generalizing before with
  | nil =>
    rw [outcomesFrom_nil, join_outcomeAfter_none]
    exact (String.append_empty).symm
  | cons l rest ih =>
    have ih := ih (fun m hm => h m (List.mem_cons_of_mem l hm)) (before ++ [l])
    rw [outcomesFrom_cons, List.filterMap_append, String.join_append, ih]
    cases l with
    | content line =>
      rw [runText_content, List.filter_cons_of_pos rfl, List.map_cons, String.join_cons,
        String.append_assoc]
      exact String.empty_append
    | separator =>
      have hsame : outcomeAfter before (some .separator) = outcomeAfter before none := rfl
      rw [runText_of_not_content before rfl, hsame, join_outcomeAfter_none,
        List.filter_cons_of_neg (by simp [Line.isContent]), String.empty_append]
    | unreadable => simpa [Line.isContent] using h .unreadable (by simp)
    | malformed line => simpa [Line.isContent] using h (.malformed line) (by simp)

theorem outcomesFrom_nil_left (lines : List Line) : outcomesFrom [] lines = outcomesOf lines := rfl

/-- Lines of which one is neither content nor a separator yield an error. -/
theorem content_or_separator_of_no_fault {lines : List Line}
    (h : ∀ e, Outcome.fault e ∉ outcomesOf lines) :
    ∀ l ∈ lines, l.isContent = true ∨ l = .separator := by
  intro l hl
  obtain ⟨i, hi, rfl⟩ := List.getElem_of_mem hl
  have hmem (o : Outcome) (ho : outcomeAfter (lines.take i) (some lines[i]) = some o) :
      o ∈ outcomesOf lines := by
    refine List.mem_filterMap.2 ⟨i, List.mem_range.2 (by omega), ?_⟩
    rw [List.getElem?_eq_getElem hi, ho]
  cases hline : lines[i] with
  | content text => exact .inl rfl
  | separator => exact .inr rfl
  | unreadable => exact absurd (hmem _ (by rw [hline, outcomeAfter])) (h _)
  | malformed text => exact absurd (hmem _ (by rw [hline, outcomeAfter])) (h _)

theorem text_of_ofOctets {octets : List UInt8} (h : (Line.ofOctets octets).isContent = true) :
    Text.octets (Line.ofOctets octets).text.toList = octets ∧
      ¬"---".toList <+: (Line.ofOctets octets).text.toList := by
  have hof := Line.of_ofOctets octets
  generalize Line.ofOctets octets = line at h hof
  cases hof with
  | content hd => exact ⟨rfl, hd⟩
  | _ => cases h

theorem octets_join_text {pieces : List (List UInt8)}
    (h : ∀ piece ∈ pieces, (Line.ofOctets piece).isContent = true) :
    Text.octets (String.join ((pieces.map Line.ofOctets).map Line.text)).toList =
      pieces.flatten := by
  induction pieces with
  | nil => rfl
  | cons piece pieces ih =>
    rw [List.map_cons, List.map_cons, String.join_cons, String.toList_append, Text.octets_append,
      (text_of_ofOctets (h piece (by simp))).1,
      ih fun p hp => h p (List.mem_cons_of_mem piece hp), List.flatten_cons]

/-- Documents are runs of content lines. -/
theorem exists_run_of_document {octets : List UInt8} {text : String}
    (h : .document text ∈ outcomesOf (linesOf octets)) :
    text ≠ "" ∧ ∃ pieces, pieces <:+: Text.cutAfter (· == 10) octets ∧
      (∀ piece ∈ pieces, (Line.ofOctets piece).isContent = true) ∧
      text = String.join ((pieces.map Line.ofOctets).map Line.text) := by
  obtain ⟨i, -, hi⟩ := List.mem_filterMap.1 h
  have hrun : text ≠ "" ∧ text = runText ((linesOf octets).take i) := by
    generalize (linesOf octets)[i]? = line at hi
    rw [outcomeAfter.eq_def] at hi
    split at hi
    · cases hi
    · cases hi
    · cases hi
    all_goals
      split at hi
      · cases hi
      · rename_i hne
        obtain rfl := Outcome.document.inj (Option.some.inj hi)
        exact ⟨hne, rfl⟩
  obtain ⟨hne, htext⟩ := hrun
  obtain ⟨t, ht⟩ := List.rtakeWhile_suffix Line.isContent (l := (linesOf octets).take i)
  have hcut : (Text.cutAfter (· == 10) octets).map Line.ofOctets =
      (t ++ ((linesOf octets).take i).rtakeWhile Line.isContent) ++ (linesOf octets).drop i := by
    rw [ht, List.take_append_drop, linesOf]
  obtain ⟨front, after, hall, hfront, -⟩ := List.map_eq_append_iff.1 hcut
  obtain ⟨before, pieces, rfl, -, hpieces⟩ := List.map_eq_append_iff.1 hfront
  refine ⟨hne, pieces, ⟨before, after, hall.symm⟩, fun piece hp => ?_, ?_⟩
  · refine List.mem_rtakeWhile_imp (l := (linesOf octets).take i) ?_
    rw [← hpieces]
    exact List.mem_map_of_mem hp
  · rw [htext, runText, hpieces]

/-- No line of a document begins a separator. -/
theorem not_dashes_of_document {octets : List UInt8} {text : String}
    (h : .document text ∈ outcomesOf (linesOf octets)) :
    ∀ line ∈ Text.cutAfter (· == '\n') text.toList, ¬"---".toList <+: line := by
  obtain ⟨-, pieces, hinfix, hcontent, htext⟩ := exists_run_of_document h
  intro line hline
  have hpiece : Text.octets line ∈ pieces := by
    rw [← Text.cutAfter_flatten_of_infix hinfix, ← octets_join_text hcontent, ← htext,
      cutAfter_octets]
    exact List.mem_map_of_mem hline
  obtain ⟨hoctets, hd⟩ := text_of_ofOctets (hcontent _ hpiece)
  rwa [octets_injective hoctets] at hd

theorem octets_documents {octets : List UInt8}
    (h : ∀ e, Outcome.fault e ∉ outcomesOf (linesOf octets)) :
    Text.octets (String.join ((outcomesOf (linesOf octets)).filterMap Outcome.text?)).toList =
      ((Text.cutAfter (· == 10) octets).filter fun piece =>
        Line.ofOctets piece != .separator).flatten := by
  have hlines := content_or_separator_of_no_fault h
  have hsame : ((Text.cutAfter (· == 10) octets).filter fun piece =>
      Line.ofOctets piece != .separator) =
      (Text.cutAfter (· == 10) octets).filter (Line.isContent ∘ Line.ofOctets) := by
    refine List.filter_congr fun piece hp => ?_
    rcases hlines _ (List.mem_map_of_mem hp) with hc | hs
    · cases hl : Line.ofOctets piece <;> simp_all [Line.isContent]
    · simp [hs, Line.isContent]
  have hnone : runText [] = "" := rfl
  rw [hsame, ← outcomesFrom_nil_left, join_outcomesFrom hlines, hnone, String.empty_append, linesOf,
    List.filter_map, octets_join_text]
  exact fun piece hp => (List.mem_filter.1 hp).2

/-- Any number of calls report what the lines of the stream yield, in order, and then the end. In a
stream without errors the documents together are the stream without its separators; no document is
empty, and none has a line that begins a separator. -/
theorem calls_eq_outcomesOf (octets : List UInt8) :
    let pieces := Text.cutAfter (· == 10) octets
    let outcomes := outcomesOf (linesOf octets)
    Text.Cut (· == 10) octets pieces ∧ List.Forall₂ Line.Of pieces (linesOf octets) ∧
      (∀ n, (DocumentReader.ofOctets octets).calls n =
        (outcomes ++ List.replicate n Outcome.ended).take n) ∧
      ((∀ e, .fault e ∉ outcomes) →
        Text.octets (String.join (outcomes.filterMap Outcome.text?)).toList =
          (pieces.filter fun piece => Line.ofOctets piece != .separator).flatten) ∧
      ∀ text, .document text ∈ outcomes → text ≠ "" ∧
        ∀ line ∈ Text.cutAfter (· == '\n') text.toList, ¬"---".toList <+: line := by
  refine ⟨Text.cut_cutAfter _ _, ?_, fun n => ?_, octets_documents, fun text ht =>
    ⟨(exists_run_of_document ht).1, not_dashes_of_document ht⟩⟩
  · rw [linesOf, List.forall₂_map_right_iff, List.forall₂_same]
    exact fun piece _ => Line.of_ofOctets piece
  · have hstart : (DocumentReader.ofOctets octets).StandsAfter [] := ⟨fun _ => rfl, rfl⟩
    exact DocumentReader.calls_eq hstart n

end ClusterImport.Manifest
