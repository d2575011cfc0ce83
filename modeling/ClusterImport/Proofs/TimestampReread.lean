import ClusterImport.Proofs.Numeral
import ClusterImport.Proofs.TimestampText
import ClusterImport.Proofs.Traversal
/-!
Times that have been read. They are seconds of a day that a calendar can show, with less than a
second beside; only the last second of a minute may go on for another one. With its fraction such a
time is written and read back as it is, and in whole seconds as the second that it falls in.
-/
namespace ClusterImport

theorem decimalValue_lt (s : List Char) : decimalValue s < 10 ^ s.length :=
  digitsValue_lt (by decide) s

namespace Timestamp

variable {s rest : List Char} {n : Nat} {t : Timestamp}

structure Valid (t : Timestamp) : Prop where
  second : t.second < 86400
  nanos : t.nanos < 1000000000 ∨ t.nanos < 2000000000 ∧ t.second % 60 = 59
  inRange : inRange (Date.ofDays t.days) = true

theorem fraction?_lt (h : fraction? s = some (n, rest)) : n < 1000000000 := by
  unfold fraction? at h
  split at h
  · dsimp only at h
    split at h
    · cases h
    · obtain ⟨rfl, -⟩ := Prod.mk.inj (Option.some.inj h)
      refine (decimalValue_lt _).trans_le ?_
      exact Nat.pow_le_pow_right (by decide) (List.length_take_le 9 _)
  · obtain ⟨rfl, -⟩ := Prod.mk.inj (Option.some.inj h)
    decide

/-- Distances from UTC are in whole minutes. -/
theorem offset?_mod {offset : Int} (h : offset? s = some (offset, rest)) : offset % 60 = 0 := by
  unfold offset? at h
  dsimp only at h
  split at h
  · obtain ⟨rfl, -⟩ := Prod.mk.inj (Option.some.inj h)
    rfl
  · split at h
    · obtain ⟨rfl, -⟩ := Prod.mk.inj (Option.some.inj h)
      rfl
    · obtain ⟨rfl, -⟩ := Prod.mk.inj (Option.some.inj h)
      rfl
    · simp only [Option.bind_eq_bind, Option.bind_eq_some_iff, Prod.exists] at h
      obtain ⟨west, _, -, hours, _, -, minutes, _, -, h⟩ := h
      split at h
      · cases h
      · obtain ⟨rfl, -⟩ := Prod.mk.inj (Option.some.inj h)
        cases west <;> simp only [Bool.false_eq_true, if_false, if_true] <;> omega

theorem valid_of_ofLocal? {d : Date} {hour minute second nanos : Nat} {offset : Int}
    (hn : nanos < 1000000000) (ho : offset % 60 = 0)
    (h : ofLocal? d hour minute second nanos offset = some t) : t.Valid := by
  unfold ofLocal? at h
  split at h
  · cases h
  rename_i hfields
  simp only [Bool.or_eq_true, decide_eq_true_eq, not_or, Nat.not_lt] at hfields
  obtain ⟨⟨⟨-, hhour⟩, hminute⟩, hsecond⟩ := hfields
  -- a second that is left over is that of a leap second, which is kept in the nanoseconds
  have hmoment (m : Int) : (m.fmod 86400).toNat < 86400 := by
    rw [Int.fmod_eq_emod_of_nonneg _ (by omega)]
    omega
  split at h
  rename_i s n hleap
  dsimp only at h
  split at h
  · rename_i hrange
    obtain rfl := Option.some.inj h
    refine ⟨hmoment _, ?_, hrange⟩
    by_cases h60 : second = 60
    · rw [if_pos h60] at hleap
      obtain ⟨rfl, rfl⟩ := Prod.mk.inj hleap
      refine .inr ⟨Nat.add_lt_add_right hn _, ?_⟩
      dsimp only
      rw [Int.fmod_eq_emod_of_nonneg _ (by omega)]
      omega
    · rw [if_neg h60] at hleap
      obtain ⟨rfl, rfl⟩ := Prod.mk.inj hleap
      exact .inl hn
  · cases h

theorem valid_of_ofText? {text : String} (h : ofText? text = some t) : t.Valid := by
  unfold ofText? ofChars? at h
  simp only [↓bind_eq_some_iff, Prod.exists] at h
  -- year, month, day, hour, minute and second, with a mark between each and the next
  obtain ⟨_, _, -, h⟩ := h
  iterate 5 obtain ⟨_, -, _, _, -, h⟩ := h
  obtain ⟨nanos, _, hnanos, offset, _, hoffset, h⟩ := h
  split at h
  · cases h
  · exact valid_of_ofLocal? (fraction?_lt hnanos) (offset?_mod hoffset) h

def cut (t : Timestamp) : Timestamp := { t with nanos := t.nanos / 1000000000 * 1000000000 }

theorem renderSeconds_cut (t : Timestamp) : t.cut.renderSeconds = t.renderSeconds := by
  rw [renderSeconds, renderSeconds, secondsText, secondsText, cut,
    Nat.mul_div_cancel _ (by decide)]

theorem fraction?_padded {width m : Nat} (hw : 0 < width) (h9 : width ≤ 9)
    (hm : m < Nat.pow 10 width) :
    fraction? (("." ++ padded width m).toList ++ ['Z']) = some (10 ^ (9 - width) * m, ['Z']) := by
  have h := digits_padded hw m
  rw [String.toList_append, show ".".toList = ['.'] from rfl, List.append_assoc]
  generalize (padded width m).toList = ds at h ⊢
  have hlength := h.length_eq hm
  have htake : (ds ++ ['Z']).takeWhile Char.isDigit = ds := by
    rw [List.takeWhile_append_of_pos h.isDigit, List.takeWhile_cons_of_neg (by decide),
      List.append_nil]
  have hfilled : (ds ++ List.replicate 9 '0').take 9 = ds ++ List.replicate (9 - width) '0' := by
    rw [List.take_append, hlength, List.take_of_length_le (by omega), List.take_replicate,
      Nat.min_eq_left (Nat.sub_le 9 width)]
  have hdigits : ∀ c ∈ ds ++ List.replicate (9 - width) '0', c.isDigit = true := by
    intro c hc
    rcases List.mem_append.1 hc with hc | hc
    · exact h.isDigit c hc
    · rw [List.eq_of_mem_replicate hc]
      rfl
  have hvalue : decimalValue (ds ++ List.replicate (9 - width) '0') = 10 ^ (9 - width) * m := by
    rw [decimalValue_eq hdigits, Nat.ofDigitChars_append, Nat.ofDigitChars_replicate_zero,
      ← decimalValue_eq h.isDigit, h.value]
  simp only [List.cons_append, List.nil_append, fraction?, htake, h.isEmpty hw, hfilled, hvalue,
    List.drop_left, Bool.false_eq_true, if_false]

/-- The fraction of a second is read back. -/
theorem fraction?_fractionText (n : Nat) :
    fraction? ((fractionText n).toList ++ ['Z']) = some (n % 1000000000, ['Z']) := by
  unfold fractionText
  generalize hk : n % 1000000000 = k
  have hlt : k < 1000000000 := hk ▸ Nat.mod_lt n (by decide)
  dsimp only
  split_ifs with h0 h6 h3
  · rw [h0]
    rfl
  · rw [fraction?_padded (by decide) (by decide) (show k / 1000000 < 1000 by omega)]
    refine congrArg some (congrArg (·, ['Z']) ?_)
    omega
  · rw [fraction?_padded (by decide) (by decide) (show k / 1000 < 1000000 by omega)]
    refine congrArg some (congrArg (·, ['Z']) ?_)
    omega
  · rw [fraction?_padded (by decide) (by decide) (show k < 1000000000 from hlt)]
    refine congrArg some (congrArg (·, ['Z']) ?_)
    omega

theorem Valid.leap (h : t.Valid) : t.nanos / 1000000000 = 0 ∨
    t.nanos / 1000000000 = 1 ∧ t.second % 60 = 59 := by
  have hn := h.nanos
  omega

/-- A time is read back from its parts. -/
theorem ofText?_secondsText (h : t.Valid) {nanos : Nat} {fraction : String}
    (hfraction : fraction? (fraction.toList ++ ['Z']) = some (nanos, ['Z'])) :
    ofText? (t.secondsText ++ fraction ++ "Z") =
      some ⟨t.days, t.second, nanos + t.nanos / 1000000000 * 1000000000⟩ := by
  obtain ⟨hmonth, hday⟩ := month_day_lt (Date.isValid_ofDays t.days)
  have hsecond := h.second
  have hleap := h.leap
  rw [← ofLocal?_ofDays_nanos h.inRange hsecond hleap]
  exact ofText?_parts _ hmonth hday (by omega) (by omega) (by omega) hfraction

theorem ofText?_render (h : t.Valid) : ofText? t.render = some t := by
  rw [render, ofText?_secondsText h (fraction?_fractionText t.nanos), Nat.mul_comm,
    Nat.mod_add_div]

theorem ofText?_renderSeconds_cut (h : t.Valid) : ofText? t.renderSeconds = some t.cut := by
  have hnone : fraction? ("".toList ++ ['Z']) = some (0, ['Z']) := rfl
  have hread := ofText?_secondsText h hnone
  rwa [String.append_empty, Nat.zero_add] at hread

end Timestamp

end ClusterImport
