import ClusterImport.Time.Calendar
/-!
Days and dates. Every count of days is that of a valid date, and the date counts back to it: an era
of 400 years is cut into centuries, cycles of four years and years counted from March, and the year
is found by a division that the leap days do not disturb.
-/
namespace ClusterImport.Date

/-- A day of an era by its century, its cycle of four years, its year in the cycle and its day in
the year. The day added in a leap year is the last of a cycle, and of the last cycle of a century
only in the last century. -/
structure EraDay where
  century : Int
  cycle : Int
  year : Int
  day : Int
  century_bound : 0 ≤ century ∧ century ≤ 3
  cycle_bound : 0 ≤ cycle ∧ cycle ≤ 24
  year_bound : 0 ≤ year ∧ year ≤ 3
  day_bound : 0 ≤ day ∧ day ≤ 365
  leap : day = 365 → year = 3 ∧ (cycle = 24 → century = 3)

namespace EraDay

def number (e : EraDay) : Int := 36524 * e.century + 1461 * e.cycle + 365 * e.year + e.day

def yearNumber (e : EraDay) : Int := 100 * e.century + 4 * e.cycle + e.year

theorem exists_number {n : Int} (h0 : 0 ≤ n) (h1 : n < 146097) : ∃ e : EraDay, e.number = n := by
  by_cases hlast : n = 146096
  · exact ⟨⟨3, 24, 3, 365, by omega, by omega, by omega, by omega, by omega⟩, by rw [hlast]; rfl⟩
  · obtain ⟨c, r, hr⟩ : ∃ c r : Int, n = 36524 * c + r ∧ 0 ≤ r ∧ r ≤ 36523 :=
      ⟨n / 36524, n % 36524, by omega⟩
    obtain ⟨q, s, hs⟩ : ∃ q s : Int, r = 1461 * q + s ∧ 0 ≤ s ∧ s ≤ 1460 :=
      ⟨r / 1461, r % 1461, by omega⟩
    by_cases hleap : s = 1460
    · exact ⟨⟨c, q, 3, 365, by omega, by omega, by omega, by omega, by omega⟩, by
        simp only [number]; omega⟩
    · exact ⟨⟨c, q, s / 365, s % 365, by omega, by omega, by omega, by omega, by omega⟩, by
        simp only [number]; omega⟩

/-- Dividing by slightly more than a year's length, less the leap days, does not lead into a
neighbouring year. -/
theorem yearOfEra (e : EraDay) : (e.number - e.number / 1460 + e.number / 36524 -
    e.number / 146096) / 365 = e.yearNumber := by
  obtain ⟨c, q, y, s, hc, hq, hy, hs, hleap⟩ := e
  simp only [number, yearNumber]
  generalize hn : 36524 * c + 1461 * q + 365 * y + s = n
  by_cases hlast : n = 146096
  · subst hlast
    omega
  · have hcentury : n / 36524 = c := by omega
    have hera : n / 146096 = 0 := by omega
    obtain ⟨e, he, hcycle⟩ : ∃ e : Int, n / 1460 = 25 * c + q + e ∧
        (e = 0 ∨ e = 1 ∧ y = 3) :=
      ⟨(24 * c + q + 365 * y + s) / 1460, by omega, by omega⟩
    rw [hcentury, hera, he]
    omega

theorem yearNumber_bound (e : EraDay) : 0 ≤ e.yearNumber ∧ e.yearNumber ≤ 399 := by
  obtain ⟨c, q, y, s, hc, hq, hy, hs, hleap⟩ := e
  simp only [yearNumber]
  omega

theorem yearStart (e : EraDay) :
    365 * e.yearNumber + e.yearNumber / 4 - e.yearNumber / 100 = e.number - e.day := by
  obtain ⟨c, q, y, s, hc, hq, hy, hs, hleap⟩ := e
  simp only [number, yearNumber]
  omega

end EraDay

/-- The date that is so many days after the first of March of a year, counted from March. -/
def ofYearDay (year day : Int) : Date :=
  let shifted := (5 * day + 2) / 153
  let month := if shifted < 10 then shifted + 3 else shifted - 9
  ⟨if month ≤ 2 then year + 1 else year, month.toNat, (day - (153 * shifted + 2) / 5 + 1).toNat⟩

theorem exists_eraDay (days : Int) :
    ∃ (era : Int) (e : EraDay), days = era * 146097 + e.number - 719468 ∧
      ofDays days = ofYearDay (e.yearNumber + era * 400) e.day := by
  have hera : (days + 719468).fdiv 146097 = (days + 719468) / 146097 :=
    Int.fdiv_eq_ediv_of_nonneg _ (by omega)
  obtain ⟨e, he⟩ := EraDay.exists_number
    (n := days + 719468 - (days + 719468) / 146097 * 146097) (by omega) (by omega)
  refine ⟨(days + 719468) / 146097, e, by omega, ?_⟩
  have hday : e.number - (365 * e.yearNumber + e.yearNumber / 4 - e.yearNumber / 100) = e.day := by
    have := e.yearStart
    omega
  simp only [ofDays, ofYearDay, hera, ← he, e.yearOfEra, hday]

/-- Months counted from March, and the first days of them. -/
theorem shifted_bounds {day : Int} (h0 : 0 ≤ day) (h1 : day ≤ 365) :
    0 ≤ (5 * day + 2) / 153 ∧ (5 * day + 2) / 153 ≤ 11 ∧
      0 ≤ day - (153 * ((5 * day + 2) / 153) + 2) / 5 := by
  omega

theorem toDays_mk (year : Int) (month day : Nat) {y : Int}
    (hy : (if month ≤ 2 then year - 1 else year) = y) :
    toDays ⟨year, month, day⟩ = y.fdiv 400 * 146097 +
      ((y - y.fdiv 400 * 400) * 365 + (y - y.fdiv 400 * 400) / 4 - (y - y.fdiv 400 * 400) / 100 +
        ((153 * ((month + 9) % 12) + 2) / 5 + day - 1)) - 719468 := by
  subst hy
  rfl

theorem toDays_ofYearDay (era : Int) (e : EraDay) :
    (ofYearDay (e.yearNumber + era * 400) e.day).toDays = era * 146097 + e.number - 719468 := by
  have hstart := e.yearStart
  obtain ⟨hday0, hday1⟩ := e.day_bound
  obtain ⟨hm0, hm1, hrest⟩ := shifted_bounds hday0 hday1
  have hyear := e.yearNumber_bound
  have hera : (e.yearNumber + era * 400).fdiv 400 = era := by
    rw [Int.fdiv_eq_ediv_of_nonneg _ (by omega)]
    omega
  have hof : e.yearNumber + era * 400 - era * 400 = e.yearNumber := by omega
  generalize hm : (5 * e.day + 2) / 153 = m at hm0 hm1 hrest
  simp only [ofYearDay, hm]
  by_cases h : m < 10
  · rw [if_pos h, toDays_mk (y := e.yearNumber + era * 400), hera, hof]
    · have hback : ((m + 3).toNat + 9 : Int) % 12 = m := by omega
      rw [hback]
      omega
    · rw [if_neg (by omega), if_neg (by omega)]
  · rw [if_neg h, toDays_mk (y := e.yearNumber + era * 400), hera, hof]
    · have hback : ((m - 9).toNat + 9 : Int) % 12 = m := by omega
      rw [hback]
      omega
    · rw [if_pos (by omega), if_pos (by omega)]
      omega

theorem isLeap_of_leapDay (era : Int) (e : EraDay) (h : e.day = 365) :
    isLeap (e.yearNumber + era * 400 + 1) = true := by
  obtain ⟨c, q, y, s, hc, hq, hy, hs, hleap⟩ := e
  obtain ⟨hy, hlast⟩ := hleap h
  simp only [isLeap, EraDay.yearNumber, Bool.and_eq_true, Bool.or_eq_true, beq_iff_eq, bne_iff_ne]
  omega

theorem isValid_ofYearDay (era : Int) (e : EraDay) :
    (ofYearDay (e.yearNumber + era * 400) e.day).isValid = true := by
  obtain ⟨hday0, hday1⟩ := e.day_bound
  have hleap := isLeap_of_leapDay era e
  generalize e.yearNumber + era * 400 = year at hleap ⊢
  generalize e.day = d at hday0 hday1 hleap ⊢
  generalize hm : (5 * d + 2) / 153 = m
  have hcases : (m = 0 ∨ m = 1 ∨ m = 2 ∨ m = 3 ∨ m = 4 ∨ m = 5 ∨ m = 6 ∨ m = 7 ∨ m = 8 ∨ m = 9 ∨
      m = 10) ∨ m = 11 := by omega
  simp only [ofYearDay, hm, isValid, Bool.and_eq_true, decide_eq_true_eq]
  rcases hcases with (rfl | rfl | rfl | rfl | rfl | rfl | rfl | rfl | rfl | rfl | rfl) | rfl
  -- February comes last, and its length is all that depends on the year
  case inr =>
    simp only [show ¬(11 : Int) < 10 by decide, if_false, show (11 : Int) - 9 = 2 by decide,
      show (2 : Int).toNat = 2 by decide, show (2 : Int) ≤ 2 by decide, if_true, monthLength]
    by_cases hl : isLeap (year + 1) = true
    · rw [if_pos hl]
      omega
    · have hd : d ≠ 365 := fun h => hl (hleap h)
      rw [if_neg hl]
      omega
  all_goals
    simp [monthLength]
    omega

theorem isValid_ofDays (days : Int) : (ofDays days).isValid = true := by
  obtain ⟨era, e, -, hd⟩ := exists_eraDay days
  rw [hd, isValid_ofYearDay]

theorem toDays_ofDays (days : Int) : (ofDays days).toDays = days := by
  obtain ⟨era, e, hdays, hd⟩ := exists_eraDay days
  rw [hd, toDays_ofYearDay, hdays]

end ClusterImport.Date
