import ClusterImport.Proofs.CalendarDate
import ClusterImport.Time.Timestamp
import Mathlib.Data.List.TakeWhile
/-!
Times that are written and read back. What is written in whole seconds is read as a time that is
written alike: only the fraction of a second is lost, and a leap second stays one.
-/
namespace ClusterImport

theorem isDigit_iff {c : Char} : c.isDigit = true ↔ 48 ≤ c.toNat ∧ c.toNat ≤ 57 := by
  simp [Char.isDigit, UInt32.le_iff_toNat_le]

theorem digitIn?_of_isDigit {c : Char} (h : c.isDigit = true) :
    digitIn? 10 c = some (c.toNat - 48) := by
  have hc := isDigit_iff.1 h
  have hbound : '0' ≤ c ∧ c ≤ '9' := by
    simpa [Char.le_def, UInt32.le_iff_toNat_le] using hc
  have hlt : c.toNat - 48 < 10 := by omega
  simp [digitIn?, digitOf?, hbound, Option.filter, hlt]

theorem decimalValue_eq {s : List Char} (h : ∀ c ∈ s, c.isDigit = true) :
    decimalValue s = Nat.ofDigitChars 10 s 0 := by
  rw [decimalValue, digitsValue, Nat.ofDigitChars_eq_foldl]
  generalize 0 = n
  induction s generalizing n with
  | nil => rfl
  | cons c s ih =>
    rw [List.filterMap_cons, digitIn?_of_isDigit (h c (by simp)), List.foldl_cons, List.foldl_cons,
      ih (fun d hd => h d (List.mem_cons_of_mem c hd)), Nat.mul_comm]
    rfl

theorem isBlank_of_isDigit {c : Char} (h : c.isDigit = true) : Text.isBlank c = false := by
  have hc := isDigit_iff.1 h
  simp only [Text.isBlank, Bool.or_eq_false_iff, Bool.and_eq_false_iff, decide_eq_false_iff_not,
    beq_eq_false_iff_ne]
  omega

namespace Timestamp

structure Digits (width n : Nat) (s : List Char) : Prop where
  isDigit : ∀ c ∈ s, c.isDigit = true
  value : decimalValue s = n
  length : width ≤ s.length
  length_eq : n < Nat.pow 10 width → s.length = width

theorem digits_padded {width : Nat} (hw : 0 < width) (n : Nat) :
    Digits width n (padded width n).toList := by
  have hs : (padded width n).toList =
      List.replicate (width - (Nat.toDigits 10 n).length) '0' ++ Nat.toDigits 10 n :=
    String.toList_ofList
  have hd : ∀ c ∈ (padded width n).toList, c.isDigit = true := by
    intro c hc
    rw [hs] at hc
    rcases List.mem_append.1 hc with hc | hc
    · rw [List.eq_of_mem_replicate hc]
      rfl
    · exact Nat.isDigit_of_mem_toDigits (by decide) (by decide) hc
  refine ⟨hd, ?_, ?_, fun hn => ?_⟩
  · rw [decimalValue_eq hd, hs, Nat.ofDigitChars_append, Nat.ofDigitChars_replicate_zero,
      Nat.mul_zero, Nat.ofDigitChars_ten_toDigits]
  · rw [hs, List.length_append, List.length_replicate]
    omega
  · have hl := (Nat.length_toDigits_le_iff (b := 10) (by decide) hw).2 hn
    rw [hs, List.length_append, List.length_replicate]
    omega

variable {width n : Nat} {s rest : List Char}

theorem Digits.trimStart (h : Digits width n s) (hw : 0 < width) :
    Text.trimStart (s ++ rest) = s ++ rest := by
  cases s with
  | nil => exact absurd h.length (by simp; omega)
  | cons c s =>
    exact List.dropWhile_cons_of_neg (by simp [isBlank_of_isDigit (h.isDigit c (by simp))])

theorem Digits.isEmpty (h : Digits width n s) (hw : 0 < width) : s.isEmpty = false := by
  cases s with
  | nil => exact absurd h.length (by simp; omega)
  | cons c s => rfl

theorem field?_padded (hw : 0 < width) (hn : n < Nat.pow 10 width) (rest : List Char) :
    field? width ((padded width n).toList ++ rest) = some (n, rest) := by
  have h := digits_padded hw n
  generalize (padded width n).toList = s at h ⊢
  have htake : (s ++ rest).take width = s := by
    rw [← h.length_eq hn, List.take_left]
  rw [field?, h.trimStart hw, htake, List.takeWhile_eq_self_iff.2 h.isDigit, h.isEmpty hw, h.value,
    List.drop_left]
  rfl

theorem unsigned_padded (hw : 0 < width) {c : Char} (hc : c.isDigit = false) (rest : List Char) :
    year?.unsigned ((padded width n).toList ++ c :: rest) = some (n, c :: rest) := by
  have h := digits_padded hw n
  generalize (padded width n).toList = s at h ⊢
  have htake : (s ++ c :: rest).takeWhile Char.isDigit = s := by
    rw [List.takeWhile_append_of_pos h.isDigit, List.takeWhile_cons_of_neg (by simp [hc]),
      List.append_nil]
  rw [year?.unsigned, htake, h.isEmpty hw, h.value, List.drop_left]
  rfl

theorem padded_cons (hw : 0 < width) (n : Nat) :
    ∃ c s, (padded width n).toList = c :: s ∧ c.isDigit = true := by
  have h := digits_padded hw n
  cases hs : (padded width n).toList with
  | nil => exact absurd (h.isEmpty hw) (by rw [hs]; decide)
  | cons c s => exact ⟨c, s, rfl, h.isDigit c (by rw [hs]; simp)⟩

theorem year?_of_isDigit {c : Char} (h : c.isDigit = true) (s : List Char) :
    year? (c :: s) = (field? 4 (c :: s)).map fun (n, s) => ((n : Int), s) := by
  have htrim : Text.trimStart (c :: s) = c :: s :=
    List.dropWhile_cons_of_neg (by simp [isBlank_of_isDigit h])
  rw [year?, htrim]
  split
  · next heq => exact absurd h (by rw [(List.cons.inj heq).1]; decide)
  · next heq => exact absurd h (by rw [(List.cons.inj heq).1]; decide)
  · rfl

theorem year?_minus (s : List Char) :
    year? ('-' :: s) = (year?.unsigned s).map fun (n, s) => (-(n : Int), s) :=
  rfl

theorem year?_plus (s : List Char) :
    year? ('+' :: s) = (year?.unsigned s).map fun (n, s) => ((n : Int), s) :=
  rfl

theorem year?_yearText (y : Int) (rest : List Char) :
    year? ((yearText y).toList ++ '-' :: rest) = some (y, '-' :: rest) := by
  have hsigned : year?.unsigned ((padded 4 y.natAbs).toList ++ '-' :: rest) =
      some (y.natAbs, '-' :: rest) :=
    unsigned_padded (by decide) (by decide) rest
  rw [yearText]
  split_ifs with h4 hneg
  · have h4 : 0 ≤ y ∧ y ≤ 9999 := by simpa using h4
    have hn : y.toNat < 10000 := by omega
    obtain ⟨c, s, hs, hc⟩ := padded_cons (by decide : 0 < 4) y.toNat
    rw [hs, List.cons_append, year?_of_isDigit hc, ← List.cons_append, ← hs,
      field?_padded (by decide) hn]
    simp [Int.toNat_of_nonneg h4.1]
  · rw [String.toList_append, show "-".toList = ['-'] from rfl, List.cons_append, List.cons_append,
      List.nil_append, year?_minus, hsigned]
    simp only [Option.map_some, Option.some.injEq, Prod.mk.injEq, and_true]
    omega
  · have h4 : ¬(0 ≤ y ∧ y ≤ 9999) := by simpa using h4
    rw [String.toList_append, show "+".toList = ['+'] from rfl, List.cons_append, List.cons_append,
      List.nil_append, year?_plus, hsigned]
    simp only [Option.map_some, Option.some.injEq, Prod.mk.injEq, and_true]
    omega

theorem markAfterBlank?_cons {c : Char} (h : Text.isBlank c = false) (s : List Char) :
    markAfterBlank? c (c :: s) = some s := by
  rw [markAfterBlank?, Text.trimStart, List.dropWhile_cons_of_neg (by simp [h])]
  simp [mark?]

/-- The parts of a time as they are written. -/
theorem ofText?_parts (y : Int) {month day hour minute second nanos : Nat} {fraction : String}
    (hmonth : month < 100) (hday : day < 100) (hhour : hour < 100) (hminute : minute < 100)
    (hsecond : second < 100)
    (hfraction : fraction? (fraction.toList ++ ['Z']) = some (nanos, ['Z'])) :
    ofText? (s!"{yearText y}-{padded 2 month}-{padded 2 day}T{padded 2 hour}:" ++
      s!"{padded 2 minute}:{padded 2 second}" ++ fraction ++ "Z") =
      ofLocal? ⟨y, month, day⟩ hour minute second nanos 0 := by
  have hs : (s!"{yearText y}-{padded 2 month}-{padded 2 day}T{padded 2 hour}:" ++
      s!"{padded 2 minute}:{padded 2 second}" ++ fraction ++ "Z").toList =
      (yearText y).toList ++ '-' :: ((padded 2 month).toList ++ '-' :: ((padded 2 day).toList ++
        'T' :: ((padded 2 hour).toList ++ ':' :: ((padded 2 minute).toList ++
          ':' :: ((padded 2 second).toList ++ (fraction.toList ++ ['Z'])))))) := by
    simp [toString]
  have hfield {n : Nat} (hn : n < 100) (rest : List Char) :
      field? 2 ((padded 2 n).toList ++ rest) = some (n, rest) :=
    field?_padded (by decide) hn rest
  have hdash := markAfterBlank?_cons (show Text.isBlank '-' = false by decide)
  have hcolon := markAfterBlank?_cons (show Text.isBlank ':' = false by decide)
  have htime (s : List Char) : ((mark? 'T' ('T' :: s)).or (mark? 't' ('T' :: s))).or
      (mark? ' ' ('T' :: s)) = some s :=
    rfl
  rw [ofText?, hs, ofChars?, year?_yearText]
  -- one field after the other, as they are read
  dsimp only [Option.bind_eq_bind, Option.bind_some]
  rw [hdash, Option.bind_some, hfield hmonth]
  dsimp only [Option.bind_some]
  rw [hdash, Option.bind_some, hfield hday]
  dsimp only [Option.bind_some]
  rw [htime, Option.bind_some, hfield hhour]
  dsimp only [Option.bind_some]
  rw [hcolon, Option.bind_some, hfield hminute]
  dsimp only [Option.bind_some]
  rw [hcolon, Option.bind_some, hfield hsecond]
  dsimp only [Option.bind_some]
  rw [hfraction]
  rfl

theorem ofText?_fields (y : Int) {month day hour minute second : Nat} (hmonth : month < 100)
    (hday : day < 100) (hhour : hour < 100) (hminute : minute < 100) (hsecond : second < 100) :
    ofText? (s!"{yearText y}-{padded 2 month}-{padded 2 day}T{padded 2 hour}:" ++
      s!"{padded 2 minute}:{padded 2 second}" ++ "Z") =
      ofLocal? ⟨y, month, day⟩ hour minute second 0 0 := by
  have hnone : fraction? ("".toList ++ ['Z']) = some (0, ['Z']) := rfl
  have hparts := ofText?_parts y hmonth hday hhour hminute hsecond hnone
  rwa [String.append_empty] at hparts

theorem ofLocal?_ofDays_nanos {days : Int} (hrange : inRange (Date.ofDays days) = true)
    {second leap : Nat} (hsecond : second < 86400)
    (hleap : leap = 0 ∨ leap = 1 ∧ second % 60 = 59) (nanos : Nat) :
    ofLocal? (Date.ofDays days) (second / 3600) (second / 60 % 60) (second % 60 + leap) nanos 0 =
      some ⟨days, second, nanos + leap * 1000000000⟩ := by
  have hmoment {m : Int} (hm : m = second) : m.fdiv 86400 = 0 ∧ (m.fmod 86400).toNat = second := by
    rw [Int.fdiv_eq_ediv_of_nonneg _ (by omega), Int.fmod_eq_emod_of_nonneg _ (by omega)]
    omega
  rw [ofLocal?, Date.isValid_ofDays, hrange, Date.toDays_ofDays, if_neg (by simp; omega)]
  rcases hleap with rfl | ⟨rfl, h59⟩
  · obtain ⟨hdiv, hmod⟩ := hmoment (m := (second / 3600 : Nat) * 3600 +
      (second / 60 % 60 : Nat) * 60 + (second % 60 : Nat) - 0) (by omega)
    simp only [Nat.add_zero, if_neg (show ¬second % 60 = 60 by omega), hdiv, hmod, Int.add_zero,
      hrange, if_true, Nat.zero_mul]
  · obtain ⟨hdiv, hmod⟩ := hmoment (m := (second / 3600 : Nat) * 3600 +
      (second / 60 % 60 : Nat) * 60 + (59 : Nat) - 0) (by omega)
    simp only [if_pos (show second % 60 + 1 = 60 by omega), hdiv, hmod, Int.add_zero,
      hrange, if_true, Nat.one_mul]

theorem ofLocal?_ofDays {days : Int} (hrange : inRange (Date.ofDays days) = true)
    {second leap : Nat} (hsecond : second < 86400)
    (hleap : leap = 0 ∨ leap = 1 ∧ second % 60 = 59) :
    ofLocal? (Date.ofDays days) (second / 3600) (second / 60 % 60) (second % 60 + leap) 0 0 =
      some ⟨days, second, leap * 1000000000⟩ := by
  rw [ofLocal?_ofDays_nanos hrange hsecond hleap, Nat.zero_add]

theorem month_day_lt {d : Date} (h : d.isValid = true) : d.month < 100 ∧ d.day < 100 := by
  simp only [Date.isValid, Bool.and_eq_true, decide_eq_true_eq] at h
  have hlength : Date.monthLength d.year d.month ≤ 31 := by
    unfold Date.monthLength
    split <;> (try split) <;> decide
  omega

/-- A time that a clock can show, or a leap second. -/
def Clock (t : Timestamp) : Prop :=
  t.second < 86400 ∧ t.nanos < 2000000000 ∧ inRange (Date.ofDays t.days) = true

theorem ofText?_renderSeconds {t : Timestamp} (h : t.Clock) :
    ∃ u, ofText? t.renderSeconds = some u ∧ u.renderSeconds = t.renderSeconds := by
  obtain ⟨hsecond, hnanos, hrange⟩ := h
  obtain ⟨hmonth, hday⟩ := month_day_lt (Date.isValid_ofDays t.days)
  -- a second that is counted past the end of a minute is a leap second of that minute only
  obtain ⟨s, leap, hs, hleap, hhour, hminute, hsum⟩ : ∃ s leap : Nat, s < 86400 ∧
      (leap = 0 ∨ leap = 1 ∧ s % 60 = 59) ∧ s / 3600 = t.second / 3600 ∧
      s / 60 % 60 = t.second / 60 % 60 ∧ s % 60 + leap = t.second % 60 + t.nanos / 1000000000 := by
    by_cases h60 : t.second % 60 + t.nanos / 1000000000 = 60
    · exact ⟨t.second, 1, by omega⟩
    · exact ⟨t.second + t.nanos / 1000000000, 0, by omega⟩
  refine ⟨⟨t.days, s, leap * 1000000000⟩, ?_, ?_⟩
  · rw [← ofLocal?_ofDays hrange hs hleap, hhour, hminute, hsum]
    exact ofText?_fields _ hmonth hday (by omega) (by omega) (by omega)
  · rw [renderSeconds, secondsText, Nat.mul_div_cancel _ (by decide)]
    simp only [hhour, hminute, hsum]
    rfl

end Timestamp

end ClusterImport
