import ClusterImport.Proofs.Application
import ClusterImport.Proofs.DocumentSplit
/-!
Splitting undoes joining. Texts without a line that begins a separator are read back as they are
from a stream that puts separator lines between them, before the first and after the last. Of two
streams without errors that are put together with a separator, the documents of the first are read
and then those of the second.
-/
namespace ClusterImport.Manifest

namespace DocumentReader

def collect (read : Outcome × DocumentReader) : List String × Option ManifestError :=
  match read.1 with
  | .document text => (text :: read.2.readAll.1, read.2.readAll.2)
  | .fault e => ([], some e)
  | .ended => ([], none)

theorem readAll_eq_collect (r : DocumentReader) : r.readAll = collect r.next := by
  unfold collect
  split
  · rename_i h
    exact readAll_of_document h
  · rename_i h
    exact readAll_of_fault h
  · rename_i h
    exact readAll_of_ended h

theorem readAll_of_not_ended (count : Nat) (lines : List Line) :
    (⟨lines, count, false⟩ : DocumentReader).readAll = collect (read "" count lines) :=
  readAll_eq_collect _

theorem collect_nil (text : String) (count : Nat) :
    collect (read text count []) = (if text = "" then [] else [text], none) := by
  by_cases h : text = ""
  · simp [read, h, collect]
  · have hend : (⟨[], count, true⟩ : DocumentReader).readAll = ([], none) := readAll_of_ended rfl
    simp [read, h, collect, hend]

theorem collect_separator (text : String) (count : Nat) (rest : List Line) :
    collect (read text count (.separator :: rest)) =
      ((if text = "" then [] else [text]) ++ (collect (read "" (count + 1) rest)).1,
        (collect (read "" (count + 1) rest)).2) := by
  by_cases h : text = ""
  · simp [read, h]
  · simp [read, h, collect.eq_def (.document text, _), readAll_of_not_ended]

/-- Lines that are read without a fault are read so before a separator too. -/
theorem collect_append {text : String} {count : Nat} {first : List Line} {texts : List String}
    (h : collect (read text count first) = (texts, none)) (rest : List Line) :
    ∃ n, collect (read text count (first ++ .separator :: rest)) =
      (texts ++ (collect (read "" n rest)).1, (collect (read "" n rest)).2) := by
  induction first generalizing text count texts with
  | nil =>
    rw [collect_nil] at h
    cases h
    exact ⟨count + 1, collect_separator text count rest⟩
  | cons l first ih =>
    cases l with
    | unreadable => cases h
    | malformed line => cases h
    | content line => exact ih h
    | separator =>
      rw [collect_separator] at h
      obtain ⟨rfl, hfault⟩ := Prod.mk.inj h
      obtain ⟨n, hn⟩ := ih (Prod.ext rfl hfault)
      refine ⟨n, ?_⟩
      rw [List.cons_append, collect_separator, hn, List.append_assoc]

/-- Without a fault it makes no difference how many lines have been counted. -/
theorem collect_count {text : String} {count : Nat} {lines : List Line} {texts : List String}
    (h : collect (read text count lines) = (texts, none)) (other : Nat) :
    collect (read text other lines) = (texts, none) := by
  induction lines generalizing text count other texts with
  | nil => rwa [collect_nil] at h ⊢
  | cons l lines ih =>
    cases l with
    | unreadable => cases h
    | malformed line => cases h
    | content line => exact ih h (other + 1)
    | separator =>
      rw [collect_separator] at h ⊢
      obtain ⟨rfl, hfault⟩ := Prod.mk.inj h
      rw [ih (Prod.ext rfl hfault) (other + 1)]

def Yields (lines : List Line) (texts : List String) : Prop :=
  ∀ count, collect (read "" count lines) = (texts, none)

namespace Yields

variable {first second : List Line} {texts more : List String}

theorem nil : Yields [] [] := fun count => collect_nil "" count

theorem separator (h : Yields first texts) : Yields (.separator :: first) texts := by
  intro count
  rw [collect_separator, h]
  rfl

theorem append (h : Yields first texts) (hm : Yields second more) :
    Yields (first ++ .separator :: second) (texts ++ more) := by
  intro count
  obtain ⟨n, hn⟩ := collect_append (h count) second
  rw [hn, hm n]

theorem lead (h : Yields first texts) (n : Nat) :
    Yields (List.replicate n .separator ++ first) texts := by
  induction n with
  | zero => exact h
  | succ n ih => exact ih.separator

theorem append_separators (h : Yields first texts) (hm : Yields second more) {n : Nat}
    (hn : n ≠ 0) : Yields (first ++ (List.replicate n .separator ++ second)) (texts ++ more) := by
  obtain ⟨n, rfl⟩ := Nat.exists_eq_succ_of_ne_zero hn
  exact h.append (hm.lead n)

theorem trail (h : Yields first texts) (n : Nat) :
    Yields (first ++ List.replicate n .separator) texts := by
  cases n with
  | zero => simpa using h
  | succ n => simpa using h.append_separators nil n.succ_ne_zero

theorem content {texts : List String} (hne : String.join texts ≠ "") :
    Yields (texts.map .content) [String.join texts] := by
  have hread (text : String) (count : Nat) : collect (read text count (texts.map .content)) =
      collect (read (text ++ String.join texts) (count + texts.length) []) := by
    clear hne
    induction texts generalizing text count with
    | nil => exact congrArg (fun t => collect (read t count [])) String.append_empty.symm
    | cons line texts ih =>
      rw [String.join_cons, ← String.append_assoc, List.length_cons, Nat.add_comm texts.length,
        ← Nat.add_assoc]
      exact ih (text ++ line) (count + 1)
  intro count
  rw [hread, String.empty_append, collect_nil, if_neg hne]

end Yields

end DocumentReader

def linesOfText (s : List Char) : List Line :=
  (Text.cutAfter (· == '\n') s).map fun line => Line.ofText (String.ofList line)

theorem linesOf_octets (s : List Char) : linesOf (Text.octets s) = linesOfText s := by
  rw [linesOf, cutAfter_octets, List.map_map, linesOfText]
  refine List.map_congr_left fun line _ => ?_
  have hread : String.fromUTF8? ⟨(Text.octets line).toArray⟩ = some (String.ofList line) :=
    fromUTF8?_eq_some_iff.2 (by rw [String.toList_ofList])
  rw [Function.comp_apply, Line.ofOctets, hread]

def readText (text : String) : List String × Option ManifestError :=
  (DocumentReader.ofOctets text.toByteArray.toList).readAll

open DocumentReader

theorem readText_eq_collect (text : String) :
    readText text = collect (read "" 0 (linesOfText text.toList)) := by
  rw [readText, toList_toByteArray, ofOctets, linesOf_octets, readAll_of_not_ended]

theorem readText_of_yields {text : String} {texts : List String}
    (h : Yields (linesOfText text.toList) texts) : readText text = (texts, none) :=
  (readText_eq_collect text).trans (h 0)

theorem yields_of_readText {text : String} {texts : List String}
    (h : readText text = (texts, none)) : Yields (linesOfText text.toList) texts := by
  rw [readText_eq_collect] at h
  exact collect_count h

theorem linesOfText_append {s : List Char} (h : Text.Ended (· == '\n') s) (t : List Char) :
    linesOfText (s ++ t) = linesOfText s ++ linesOfText t := by
  rw [linesOfText, Text.cutAfter_append h, List.map_append]
  rfl

/-- Dashes, white space, perhaps a comment, and the end of the line. -/
def SeparatorLine (line : String) : Prop :=
  ∃ blanks comment ending : List Char,
    line.toList = "---".toList ++ (blanks ++ comment ++ ending) ∧
      (∀ c ∈ blanks, Text.isBlank c = true ∧ c ≠ '\n') ∧
      (comment = [] ∨ comment.head? = some '#' ∧ '\n' ∉ comment) ∧
      (ending = ['\n'] ∨ ending = ['\r', '\n'])

theorem head?_trimEnd {c : Char} (h : Text.isBlank c = false) (s : List Char) :
    (Text.trimEnd (c :: s)).head? = some c := by
  rw [Text.trimEnd, List.reverse_cons, List.dropWhile_append]
  split
  · rw [List.dropWhile_cons_of_neg (by simp [h])]
    rfl
  · rw [List.reverse_append]
    rfl

theorem trim_separator {blanks comment ending : List Char}
    (hb : ∀ c ∈ blanks, Text.isBlank c = true) (hc : comment = [] ∨ comment.head? = some '#')
    (he : ∀ c ∈ ending, Text.isBlank c = true) :
    Text.trim (blanks ++ comment ++ ending) = [] ∨
      (Text.trim (blanks ++ comment ++ ending)).head? = some '#' := by
  have hstart : Text.trimStart (blanks ++ comment ++ ending) =
      Text.trimStart (comment ++ ending) := by
    rw [Text.trimStart, List.append_assoc, List.dropWhile_append_of_pos hb]
    rfl
  rw [Text.trim, hstart]
  rcases hc with rfl | hc
  · have hnil : Text.trimStart ([] ++ ending) = [] := List.dropWhile_eq_nil_iff.2 he
    rw [hnil]
    exact .inl rfl
  · obtain ⟨rest, rfl⟩ := List.head?_eq_some_iff.1 hc
    have hhash : Text.trimStart ('#' :: rest ++ ending) = '#' :: (rest ++ ending) :=
      List.dropWhile_cons_of_neg (by decide)
    rw [hhash]
    exact .inr (head?_trimEnd (by decide) _)

theorem linesOfText_separatorLine {line : String} (h : SeparatorLine line) :
    linesOfText line.toList = [.separator] ∧ Text.Ended (· == '\n') line.toList := by
  obtain ⟨blanks, comment, ending, hline, hblanks, hcomment, hending⟩ := h
  -- the line feed comes last and nowhere else
  have hbody : ∃ body, line.toList = body ++ ['\n'] ∧ ∀ c ∈ body, (c == '\n') = false := by
    have hfront : ∀ c ∈ "---".toList ++ (blanks ++ comment), (c == '\n') = false := by
      intro c hc
      rcases List.mem_append.1 hc with hc | hc
      · have hdashes : ∀ d ∈ "---".toList, (d == '\n') = false := by simp
        exact hdashes c hc
      · rcases List.mem_append.1 hc with hc | hc
        · exact beq_false_of_ne (hblanks c hc).2
        · rcases hcomment with rfl | ⟨-, hno⟩
          · cases hc
          · exact beq_false_of_ne fun e => hno (e ▸ hc)
    rcases hending with rfl | rfl
    · exact ⟨_, by rw [hline, ← List.append_assoc], hfront⟩
    · refine ⟨"---".toList ++ (blanks ++ comment) ++ ['\r'], by simp [hline], fun c hc => ?_⟩
      rcases List.mem_append.1 hc with hc | hc
      · exact hfront c hc
      · rw [List.mem_singleton.1 hc]
        decide
  obtain ⟨body, hb, hno⟩ := hbody
  have hblank : ∀ c ∈ ending, Text.isBlank c = true := by
    rcases hending with rfl | rfl <;> exact List.all_eq_true.1 (by decide)
  refine ⟨?_, fun c hc => ?_⟩
  · rw [linesOfText, hb, Text.cutAfter_body hno (by decide), Text.cutAfter, ← hb, List.map_cons,
      String.ofList_toList, Line.ofText_dashes line _ hline, if_pos]
    · rfl
    · exact trim_separator (fun c hc => (hblanks c hc).1) (hcomment.imp_right And.left) hblank
  · rw [hb, List.getLast?_concat] at hc
    exact Option.some.inj hc ▸ rfl

theorem linesOfText_separatorLines {lines : List String} (h : ∀ line ∈ lines, SeparatorLine line) :
    linesOfText (String.join lines).toList = List.replicate lines.length .separator ∧
      Text.Ended (· == '\n') (String.join lines).toList := by
  induction lines with
  | nil => exact ⟨rfl, nofun⟩
  | cons line lines ih =>
    obtain ⟨hl, he⟩ := linesOfText_separatorLine (h line (by simp))
    obtain ⟨hls, hes⟩ := ih fun l hl => h l (List.mem_cons_of_mem line hl)
    rw [String.join_cons, String.toList_append, linesOfText_append he, hl, hls]
    exact ⟨rfl, Text.ended_append hes fun _ => he⟩

/-- A text that can be read back: it is not empty, and no line of it begins a separator. -/
structure Plain (text : String) : Prop where
  ne_empty : text ≠ ""
  lines : ∀ line ∈ Text.cutAfter (· == '\n') text.toList, ¬"---".toList <+: line

theorem linesOfText_plain {text : String} (h : Plain text) :
    Yields (linesOfText text.toList) [text] := by
  have hlines : linesOfText text.toList =
      ((Text.cutAfter (· == '\n') text.toList).map String.ofList).map .content := by
    rw [linesOfText, List.map_map]
    exact List.map_congr_left fun line hl => Line.ofText_content (by simpa using h.lines line hl)
  have hjoin : String.join ((Text.cutAfter (· == '\n') text.toList).map String.ofList) = text := by
    rw [← String.toList_inj, String.toList_join, List.flatMap_map]
    simpa [String.toList_ofList, List.flatMap_id'] using
      Text.flatten_cutAfter (· == '\n') text.toList
  have hy := Yields.content (hjoin.symm ▸ h.ne_empty)
  rwa [← hlines, hjoin] at hy

def EndsLine (text : String) : Prop := text.toList.getLast? = some '\n'

theorem EndsLine.ended {text : String} (h : EndsLine text) :
    Text.Ended (· == '\n') text.toList := by
  intro c hc
  rw [h] at hc
  exact Option.some.inj hc ▸ rfl

def joined : List (String × List String) → String
  | [] => ""
  | (text, separators) :: rest => text ++ (String.join separators ++ joined rest)

/-- Every text but perhaps the last ends its line, and a separator follows on it; on the last one
separators follow only if it ends its line. -/
def Separated : List (String × List String) → Prop
  | [] => True
  | (text, separators) :: rest =>
    (EndsLine text ∨ separators = [] ∧ rest = []) ∧ (separators ≠ [] ∨ rest = []) ∧ Separated rest

theorem yields_joined {documents : List (String × List String)}
    (hplain : ∀ p ∈ documents, Plain p.1)
    (hlines : ∀ p ∈ documents, ∀ line ∈ p.2, SeparatorLine line) (h : Separated documents) :
    Yields (linesOfText (joined documents).toList) (documents.map Prod.fst) := by
  induction documents with
  | nil => exact Yields.nil
  | cons p rest ih =>
    obtain ⟨text, separators⟩ := p
    obtain ⟨hend, hsep, hrest⟩ := h
    have ih := ih (fun q hq => hplain q (by simp [hq])) (fun q hq => hlines q (by simp [hq])) hrest
    have htext := linesOfText_plain (hplain (text, separators) (by simp))
    obtain ⟨hs, he⟩ := linesOfText_separatorLines (hlines (text, separators) (by simp))
    rw [joined, String.toList_append, List.map_cons]
    rcases hend with hend | ⟨rfl, rfl⟩
    · rw [linesOfText_append hend.ended, String.toList_append, linesOfText_append he, hs]
      rcases hsep with hne | rfl
      · exact htext.append_separators ih (by simpa using hne)
      · simpa [joined, linesOfText, Text.cutAfter] using htext.trail separators.length
    · simpa [joined, String.join] using htext

/-- Texts are read back as they are from a stream that joins them by separator lines. -/
theorem readText_of_separated {lead : List String} {documents : List (String × List String)}
    (hlead : ∀ line ∈ lead, SeparatorLine line)
    (hd : ∀ p ∈ documents, Plain p.1 ∧ ∀ line ∈ p.2, SeparatorLine line)
    (hs : Separated documents) :
    readText (String.join lead ++ joined documents) = (documents.map Prod.fst, none) := by
  obtain ⟨hl, he⟩ := linesOfText_separatorLines hlead
  have hy := yields_joined (fun p hp => (hd p hp).1) (fun p hp => (hd p hp).2) hs
  refine readText_of_yields ?_
  rw [String.toList_append, linesOfText_append he, hl]
  exact hy.lead lead.length

theorem separatorLine_plain : SeparatorLine "---\n" :=
  ⟨[], [], ['\n'], by decide, nofun, .inl rfl, .inl rfl⟩

/-- Texts are read back as they are from a stream that joins them by separator lines, and the
documents of two streams joined by a separator are those of both. -/
theorem readText_joined :
    (∀ lead documents, (∀ line ∈ lead, SeparatorLine line) →
      (∀ p ∈ documents, Plain p.1 ∧ ∀ line ∈ p.2, SeparatorLine line) → Separated documents →
      readText (String.join lead ++ joined documents) = (documents.map Prod.fst, none)) ∧
    ∀ first second texts more, first = "" ∨ EndsLine first → readText first = (texts, none) →
      readText second = (more, none) →
      readText (first ++ ("---\n" ++ second)) = (texts ++ more, none) := by
  refine ⟨fun _ _ => readText_of_separated, fun first second texts more hend hf hm => ?_⟩
  have hended : Text.Ended (· == '\n') first.toList := by
    rcases hend with rfl | hend
    · exact nofun
    · exact hend.ended
  obtain ⟨hl, he⟩ := linesOfText_separatorLine separatorLine_plain
  refine readText_of_yields ?_
  rw [String.toList_append, linesOfText_append hended, String.toList_append,
    linesOfText_append he, hl]
  exact (yields_of_readText hf).append (yields_of_readText hm)

/-- Two texts, of which the second does not end its line, with three separators. -/
theorem readText_joined_ponds :
    readText ("---\n" ++ ("pond: 1\n" ++ ("---\n" ++ ("--- # next\r\n" ++ " - ---")))) =
        (["pond: 1\n", " - ---"], none) ∧
      readText ("pond: 1\n" ++ ("---\n" ++ " - ---")) = (["pond: 1\n", " - ---"], none) := by
  obtain ⟨hjoined, hcat⟩ := readText_joined
  have hnext : SeparatorLine "--- # next\r\n" :=
    ⟨[' '], "# next".toList, ['\r', '\n'], by decide, List.forall_mem_singleton.2 (by decide),
      .inr (by decide), .inr rfl⟩
  have hpond : Plain "pond: 1\n" := ⟨by decide, by simp [Text.cutAfter]⟩
  have hdash : Plain " - ---" := ⟨by decide, by simp [Text.cutAfter]⟩
  have hends : "pond: 1\n".toList.getLast? = some '\n' := by decide
  refine ⟨?_, ?_⟩
  · have h := hjoined ["---\n"] [("pond: 1\n", ["---\n", "--- # next\r\n"]), (" - ---", [])]
      (by simpa using separatorLine_plain)
      (by simp [hpond, hdash, hnext, separatorLine_plain])
      ⟨.inl hends, .inl (by simp), .inr ⟨rfl, rfl⟩, .inr rfl, trivial⟩
    exact h
  · have hfirst := hjoined [] [("pond: 1\n", [])] (by simp) (by simp [hpond])
      ⟨.inl hends, .inr rfl, trivial⟩
    have hsecond := hjoined [] [(" - ---", [])] (by simp) (by simp [hdash])
      ⟨.inr ⟨rfl, rfl⟩, .inr rfl, trivial⟩
    exact hcat _ _ _ _ (.inr hends) hfirst hsecond

end ClusterImport.Manifest
