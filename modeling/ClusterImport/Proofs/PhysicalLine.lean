import ClusterImport.Manifest.DocumentReader
/-!
Physical lines. A list is cut after each element that ends a line in one way only, and two lists are
cut apart where the first ends a line. Cutting the octets of a text at line feeds gives the octets
of its lines, since no other character has an octet of that value; and a line of octets is read as
text just if it is the octets of that text.
-/
namespace ClusterImport

namespace Text

variable {α : Type} {ends : α → Bool}

/-- The pieces of a list: each ends with the first of its elements that ends a line, and only the
last may lack it. -/
inductive Cut (ends : α → Bool) : List α → List (List α) → Prop
  | nil : Cut ends [] []
  | last {piece : List α} (hne : piece ≠ []) (h : ∀ a ∈ piece, ends a = false) :
      Cut ends piece [piece]
  | cons {body rest : List α} {a : α} {pieces : List (List α)}
      (h : ∀ b ∈ body, ends b = false) (ha : ends a = true) (hr : Cut ends rest pieces) :
      Cut ends (body ++ a :: rest) ((body ++ [a]) :: pieces)

theorem cutAfter_of_ends {a : α} (h : ends a = true) (rest : List α) :
    cutAfter ends (a :: rest) = [a] :: cutAfter ends rest := by
  rw [cutAfter, if_pos h]

/-- What ends no line is put in front of the first piece. -/
theorem cutAfter_append_of_not_ends {first : List α} (hne : first ≠ [])
    (h : ∀ a ∈ first, ends a = false) (rest : List α) :
    cutAfter ends (first ++ rest) =
      (first ++ (cutAfter ends rest).headD []) :: (cutAfter ends rest).tail := by
  induction first with
  | nil => exact absurd rfl hne
  | cons a first ih =>
    have ha : ¬ends a = true := by simp [h a (by simp)]
    rw [List.cons_append, cutAfter, if_neg ha]
    cases first with
    | nil =>
      rw [List.nil_append]
      cases cutAfter ends rest <;> rfl
    | cons b first =>
      rw [ih (by simp) fun c hc => h c (List.mem_cons_of_mem a hc)]
      rfl

theorem cutAfter_of_not_ends {piece : List α} (hne : piece ≠ [])
    (h : ∀ a ∈ piece, ends a = false) : cutAfter ends piece = [piece] := by
  have hp := cutAfter_append_of_not_ends hne h []
  simpa [cutAfter] using hp

theorem cutAfter_body {body : List α} (h : ∀ b ∈ body, ends b = false) {a : α}
    (ha : ends a = true) (rest : List α) :
    cutAfter ends (body ++ a :: rest) = (body ++ [a]) :: cutAfter ends rest := by
  cases body with
  | nil => exact cutAfter_of_ends ha rest
  | cons b body =>
    rw [cutAfter_append_of_not_ends (by simp) h, cutAfter_of_ends ha]
    rfl

theorem cut_cutAfter (ends : α → Bool) (s : List α) : Cut ends s (cutAfter ends s) := by
  generalize hn : s.length = n
  induction n using Nat.strongRecOn generalizing s with
  | _ n ih =>
    cases hb : s.find? ends with
    | none =>
      have h : ∀ a ∈ s, ends a = false := by simpa using List.find?_eq_none.1 hb
      cases s with
      | nil => exact .nil
      | cons a s =>
        rw [cutAfter_of_not_ends (by simp) h]
        exact .last (by simp) h
    | some a =>
      obtain ⟨ha, body, rest, rfl, h⟩ := List.find?_eq_some_iff_append.1 hb
      have h : ∀ b ∈ body, ends b = false := by simpa using h
      rw [cutAfter_body h ha]
      exact .cons h ha (ih rest.length (by simp at hn; omega) rest rfl)

theorem Cut.eq_cutAfter {s : List α} {pieces : List (List α)} (h : Cut ends s pieces) :
    pieces = cutAfter ends s := by
  induction h with
  | nil => rfl
  | last hne h => exact (cutAfter_of_not_ends hne h).symm
  | cons h ha _ ih => rw [cutAfter_body h ha, ih]

theorem Cut.append_right {s : List α} {before pieces : List (List α)}
    (h : Cut ends s (before ++ pieces)) : ∃ t, Cut ends t pieces := by
  induction before generalizing s with
  | nil => exact ⟨s, h⟩
  | cons piece before ih =>
    rw [List.cons_append] at h
    generalize hp : piece :: (before ++ pieces) = all at h
    cases h with
    | nil => cases hp
    | last hne h =>
      obtain ⟨rfl, hnil⟩ := List.cons.inj hp
      rw [(List.append_eq_nil_iff.1 hnil).2]
      exact ⟨[], .nil⟩
    | cons h ha hr =>
      obtain ⟨rfl, rfl⟩ := List.cons.inj hp
      exact ih hr

theorem Cut.append_left {s : List α} {pieces after : List (List α)}
    (h : Cut ends s (pieces ++ after)) : Cut ends pieces.flatten pieces := by
  induction pieces generalizing s with
  | nil => exact .nil
  | cons piece pieces ih =>
    rw [List.cons_append] at h
    generalize hp : piece :: (pieces ++ after) = all at h
    cases h with
    | nil => cases hp
    | last hne h =>
      obtain ⟨rfl, hnil⟩ := List.cons.inj hp
      rw [(List.append_eq_nil_iff.1 hnil).1, List.flatten_cons, List.flatten_nil, List.append_nil]
      exact .last hne h
    | cons h ha hr =>
      obtain ⟨rfl, rfl⟩ := List.cons.inj hp
      rw [List.flatten_cons, List.append_assoc, List.singleton_append]
      exact .cons h ha (ih hr)

/-- Consecutive pieces of a list are the pieces of what they make up. -/
theorem cutAfter_flatten_of_infix {s : List α} {pieces : List (List α)}
    (h : pieces <:+: cutAfter ends s) : cutAfter ends pieces.flatten = pieces := by
  obtain ⟨before, after, hp⟩ := h
  have hc := cut_cutAfter ends s
  rw [← hp, List.append_assoc] at hc
  obtain ⟨t, ht⟩ := hc.append_right
  exact ht.append_left.eq_cutAfter.symm

def Ended (ends : α → Bool) (s : List α) : Prop := ∀ a, s.getLast? = some a → ends a = true

theorem cutAfter_append {s : List α} (h : Ended ends s) (t : List α) :
    cutAfter ends (s ++ t) = cutAfter ends s ++ cutAfter ends t := by
  generalize hp : cutAfter ends s = pieces
  have hc : Cut ends s pieces := hp ▸ cut_cutAfter ends s
  clear hp
  induction hc with
  | nil => rfl
  | last hne hno =>
    have hlast := h _ (List.getLast?_eq_some_getLast hne)
    rw [hno _ (List.getLast_mem hne)] at hlast
    cases hlast
  | @cons body rest a pieces hb ha hr ih =>
    have hrest : Ended ends rest := by
      intro b hb
      refine h b ?_
      rw [List.getLast?_append, List.getLast?_cons, hb]
      rfl
    rw [List.append_assoc, List.cons_append, cutAfter_body hb ha, ih hrest, List.cons_append]

theorem ended_append {s t : List α} (ht : Ended ends t) (hs : t = [] → Ended ends s) :
    Ended ends (s ++ t) := by
  intro a ha
  rw [List.getLast?_append] at ha
  cases hl : t.getLast? with
  | none =>
    rw [hl, Option.none_or] at ha
    exact hs (List.getLast?_eq_none_iff.1 hl) a ha
  | some b =>
    rw [hl, Option.some_or] at ha
    exact ht a (hl.trans ha)

/-! Texts and their octets. -/

def octets (s : List Char) : List UInt8 := s.flatMap String.utf8EncodeChar

theorem octets_append (s t : List Char) : octets (s ++ t) = octets s ++ octets t :=
  List.flatMap_append

end Text

theorem toList_loop (b : ByteArray) (i : Nat) (acc : List UInt8) :
    ByteArray.toList.loop b i acc = acc.reverse ++ b.data.toList.drop i := by
  generalize hn : b.size - i = n
  induction n generalizing i acc with
  | zero =>
    have hi : ¬i < b.size := by omega
    rw [ByteArray.toList.loop, if_neg hi, List.drop_eq_nil_of_le, List.append_nil]
    exact Nat.le_of_not_lt hi
  | succ n ih =>
    have hi : i < b.size := by omega
    have hd : i < b.data.toList.length := hi
    have hget : b.get! i = b.data.toList[i] := getElem!_pos b.data i hi
    rw [ByteArray.toList.loop, if_pos hi, ih (i + 1) _ (by omega), List.reverse_cons,
      List.append_assoc, List.drop_eq_getElem_cons hd, hget]
    rfl

theorem toList_toByteArray (text : String) :
    text.toByteArray.toList = Text.octets text.toList := by
  rw [ByteArray.toList, toList_loop, ← String.utf8Encode_toList, List.utf8Encode,
    List.toList_data_toByteArray]
  rfl

theorem fromUTF8?_eq_some_iff {octets : List UInt8} {text : String} :
    String.fromUTF8? ⟨octets.toArray⟩ = some text ↔ Text.octets text.toList = octets := by
  have hbytes : Text.octets text.toList = octets ↔ text.toByteArray = ⟨octets.toArray⟩ := by
    rw [← toList_toByteArray, ByteArray.toList, toList_loop, List.reverse_nil, List.nil_append,
      List.drop_zero, ByteArray.ext_iff, ← Array.toList_inj, List.toList_toArray]
  rw [hbytes, String.fromUTF8?]
  split
  · rename_i hv
    rw [Option.some.injEq, ← String.toByteArray_inj, eq_comm]
    rfl
  · rename_i hv
    exact ⟨nofun, fun h => absurd (h ▸ text.isValidUTF8) hv⟩

theorem octets_injective {s t : List Char} (h : Text.octets s = Text.octets t) : s = t := by
  have hread (u : List Char) :
      String.fromUTF8? ⟨(Text.octets u).toArray⟩ = some (String.ofList u) :=
    fromUTF8?_eq_some_iff.2 (by rw [String.toList_ofList])
  have hs := hread s
  rw [h, hread t] at hs
  exact (String.ofList_inj.1 (Option.some.inj hs)).symm

theorem encoded_ne_lineFeed {c : Char} (hc : c ≠ '\n') :
    ∀ b ∈ String.utf8EncodeChar c, (b == 10) = false := by
  have hval : c.val.toNat ≠ 10 := fun h => hc (Char.ext (UInt32.toNat_inj.1 h))
  have hne {n : Nat} (hn : n < 256) (h : n ≠ 10) : (UInt8.ofNat n == 10) = false := by
    rw [beq_eq_false_iff_ne, Ne, ← UInt8.toNat_inj, UInt8.toNat_ofNat_of_lt' hn]
    exact h
  intro b hb
  -- one octet is the character's own number, and of several none is below 128
  simp only [String.utf8EncodeChar] at hb
  split at hb
  · rw [List.mem_singleton.1 hb]
    exact hne (by omega) hval
  · have hmany : ∃ n, 128 ≤ n ∧ n < 256 ∧ b = UInt8.ofNat n := by
      split at hb
      · simp only [List.mem_cons, List.not_mem_nil, or_false] at hb
        rcases hb with rfl | rfl <;> exact ⟨_, by omega, by omega, rfl⟩
      · split at hb <;> simp only [List.mem_cons, List.not_mem_nil, or_false] at hb
        · rcases hb with rfl | rfl | rfl <;> exact ⟨_, by omega, by omega, rfl⟩
        · rcases hb with rfl | rfl | rfl | rfl <;> exact ⟨_, by omega, by omega, rfl⟩
    obtain ⟨n, hlow, hhigh, rfl⟩ := hmany
    exact hne hhigh (by omega)

theorem cutAfter_octets (s : List Char) :
    Text.cutAfter (· == 10) (Text.octets s) =
      (Text.cutAfter (· == '\n') s).map Text.octets := by
  induction s with
  | nil => rfl
  | cons c s ih =>
    by_cases hc : c = '\n'
    · subst hc
      rw [Text.cutAfter_of_ends (by decide), List.map_cons, ← ih]
      exact Text.cutAfter_of_ends (by decide) (Text.octets s)
    · have hs : Text.octets (c :: s) = String.utf8EncodeChar c ++ Text.octets s := rfl
      have hone : Text.cutAfter (· == '\n') (c :: s) =
          ([c] ++ (Text.cutAfter (· == '\n') s).headD []) ::
            (Text.cutAfter (· == '\n') s).tail :=
        Text.cutAfter_append_of_not_ends (List.cons_ne_nil c []) (by simpa using hc) s
      rw [hs, Text.cutAfter_append_of_not_ends String.utf8EncodeChar_ne_nil
        (encoded_ne_lineFeed hc), ih, hone]
      cases Text.cutAfter (· == '\n') s with
      | nil => simp [Text.octets]
      | cons piece pieces => simp [Text.octets]

end ClusterImport
