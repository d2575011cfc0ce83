import ClusterImport.Net.SocketAddress
import Mathlib.Algebra.Group.Nat.Defs
import Mathlib.Data.List.TakeWhile
/-!
Which texts are natural numbers, in any base. A number is bounded by how many digits it has, and the
reader of bounded numbers takes just those below its bound, with or without a plus sign.
-/
namespace ClusterImport

structure Numeral (base n : Nat) (s : List Char) : Prop where
  ne_nil : s ≠ []
  digits : ∀ c ∈ s, SocketAddress.isDigitIn base c = true
  value : digitsValue base (s.filterMap (digitIn? base)) = n

def SignedNumeral (n : Nat) (s : List Char) : Prop :=
  ∃ ds, (s = ds ∨ s = '+' :: ds) ∧ Numeral 10 n ds

/-- Digits make a number larger. -/
theorem le_foldl_digits (base m : Nat) (hb : 0 < base) (ds : List Nat) :
    m ≤ ds.foldl (fun n d => n * base + d) m := by
  induction ds generalizing m with
  | nil => exact Nat.le_refl m
  | cons d ds ih =>
    exact (Nat.le_trans (Nat.le_mul_of_pos_right m hb) (Nat.le_add_right _ d)).trans (ih _)

theorem foldl_digits_lt {base m : Nat} {ds : List Nat} (h : ∀ d ∈ ds, d < base) :
    ds.foldl (fun n d => n * base + d) m < (m + 1) * base ^ ds.length := by
  induction ds generalizing m with
  | nil => simp
  | cons d ds ih =>
    obtain ⟨hd, hds⟩ := List.forall_mem_cons.1 h
    have hstep : m * base + d + 1 ≤ (m + 1) * base := by
      rw [Nat.add_mul, Nat.one_mul]
      exact Nat.add_lt_add_left hd _
    calc (d :: ds).foldl (fun n d => n * base + d) m
        < (m * base + d + 1) * base ^ ds.length := ih hds
      _ ≤ (m + 1) * base * base ^ ds.length := Nat.mul_le_mul_right _ hstep
      _ = (m + 1) * base ^ (d :: ds).length := by
        rw [List.length_cons, Nat.pow_succ', Nat.mul_assoc]

/-- A text is worth less than any longer number. -/
theorem digitsValue_lt {base : Nat} (hb : 0 < base) (s : List Char) :
    digitsValue base (s.filterMap (digitIn? base)) < base ^ s.length := by
  have hdigits : ∀ d ∈ s.filterMap (digitIn? base), d < base := by
    intro d hd
    obtain ⟨c, -, hc⟩ := List.mem_filterMap.1 hd
    exact of_decide_eq_true (Option.mem_filter_iff.1 hc).2
  have hlt := foldl_digits_lt (m := 0) hdigits
  rw [Nat.zero_add, Nat.one_mul] at hlt
  exact hlt.trans_le (Nat.pow_le_pow_right hb (List.length_filterMap_le _ s))

theorem Numeral.lt_pow {base n : Nat} {s : List Char} (h : Numeral base n s) (hb : 0 < base) :
    n < base ^ s.length := h.value ▸ digitsValue_lt hb s

theorem readDigits_eq_ok_iff {bound m n : Nat} {s : List Char} :
    readDigits bound m s = .ok n ↔ (∀ c ∈ s, SocketAddress.isDigitIn 10 c = true) ∧
      (s.filterMap (digitIn? 10)).foldl (fun n d => n * 10 + d) m = n ∧ (s ≠ [] → n < bound) := by
  induction s generalizing m with
  | nil => simp [readDigits]
  | cons c s ih =>
    rw [readDigits, List.forall_mem_cons, SocketAddress.isDigitIn, List.filterMap_cons]
    cases hd : digitIn? 10 c with
    | none => simp
    | some d =>
      simp only [Option.isSome_some, true_and, List.foldl_cons]
      have hle := le_foldl_digits 10 (m * 10 + d) (by decide) (s.filterMap (digitIn? 10))
      by_cases hlt : m * 10 + d < bound
      · rw [if_pos hlt, ih]
        refine and_congr_right fun _ => and_congr_right fun hn => ?_
        cases s with
        | nil => simp [← hn, hlt]
        | cons => simp
      · rw [if_neg hlt]
        refine iff_of_false nofun fun ⟨_, hn, h⟩ => hlt ?_
        exact Nat.lt_of_le_of_lt (hn ▸ hle) (h (List.cons_ne_nil c s))

theorem readDigits_zero_eq_ok_iff {bound n : Nat} {s : List Char} (hs : s ≠ []) :
    readDigits bound 0 s = .ok n ↔ Numeral 10 n s ∧ n < bound := by
  rw [readDigits_eq_ok_iff, ← and_assoc]
  exact and_congr ⟨fun h => ⟨hs, h.1, h.2⟩, fun h => ⟨h.digits, h.value⟩⟩
    ⟨fun h => h hs, fun h _ => h⟩

theorem readNat_eq_ok_iff {bound n : Nat} {s : List Char} :
    readNat bound s = .ok n ↔ SignedNumeral n s ∧ n < bound := by
  unfold readNat
  split
  · refine iff_of_false nofun fun ⟨⟨ds, hs, hn⟩, _⟩ => ?_
    exact hn.ne_nil (hs.elim Eq.symm nofun)
  · refine iff_of_false nofun fun ⟨⟨ds, hs, hn⟩, _⟩ => ?_
    rcases hs with rfl | hs
    · exact absurd (hn.digits '+' (by simp)) (by decide)
    · exact hn.ne_nil (List.cons.inj hs).2.symm
  · rename_i rest hrest
    rw [readDigits_zero_eq_ok_iff fun h => hrest (by rw [h])]
    refine and_congr_left fun _ => ⟨fun h => ⟨rest, .inr rfl, h⟩, fun ⟨ds, hs, hn⟩ => ?_⟩
    rcases hs with rfl | hs
    · exact absurd (hn.digits '+' (by simp)) (by decide)
    · rwa [(List.cons.inj hs).2]
  · rename_i hnil _ hsign
    rw [readDigits_zero_eq_ok_iff hnil]
    refine and_congr_left fun _ => ⟨fun h => ⟨s, .inl rfl, h⟩, fun ⟨ds, hs, hn⟩ => ?_⟩
    rcases hs with rfl | rfl
    · exact hn
    · exact absurd rfl (hsign ds)

end ClusterImport
