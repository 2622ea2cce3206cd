import DocPull.Instant
import Mathlib.Tactic

/-!
# The calendar

Years are counted from March within eras of four hundred years. The year that the day of an era
falls into is found by one division that never decreases, so it is enough to look at the first and
the last day of each year. It follows that the date of a day is a date of the calendar, and that the
days up to this date are the day again.
-/
namespace DocPull.Instant

/-- The year of an era that a day of the era falls into. -/
def yearOfEra (day : Nat) : Nat := (day - (day / 1460 - day / 36524 + day / 146096)) / 365

/-- The first day of a year of an era. -/
def firstDay (year : Nat) : Nat := 365 * year + year / 4 - year / 100

/-- The day after the last day of a year of an era. The last year has a leap day of its own. -/
def dayAfter (year : Nat) : Nat := if year = 399 then 146097 else firstDay (year + 1)

/-- The month of a year that a day of the year falls into, both counted from March. -/
def monthOfYear (day : Nat) : Nat := (5 * day + 2) / 153

theorem yearOfEra_mono : Monotone yearOfEra := by
  refine monotone_nat_of_le_succ fun n => Nat.div_le_div_right ?_
  omega

theorem yearOfEra_ends : ∀ y < 400,
    yearOfEra (firstDay y) = y ∧ yearOfEra (dayAfter y - 1) = y ∧ firstDay y < dayAfter y := by
  decide +kernel

/-- A day of an era lies within the year that is found for it. -/
theorem yearOfEra_spec {day : Nat} (h : day < 146097) : yearOfEra day < 400 ∧
    firstDay (yearOfEra day) ≤ day ∧ day < dayAfter (yearOfEra day) := by
  have hlt : yearOfEra day ≤ 399 := by
    calc yearOfEra day ≤ yearOfEra 146096 := yearOfEra_mono (by omega)
      _ = 399 := by decide
  generalize hy : yearOfEra day = y at hlt ⊢
  refine ⟨by omega, ?_, ?_⟩
  · by_contra hlow
    -- The day lies before the year, so the year before was found.
    obtain ⟨x, rfl⟩ : ∃ x, y = x + 1 := ⟨y - 1, by
      rcases Nat.eq_zero_or_pos y with rfl | hpos
      · simp [firstDay] at hlow
      · omega⟩
    obtain ⟨-, hx, -⟩ := yearOfEra_ends x (by omega)
    have hafter : dayAfter x = firstDay (x + 1) := by
      rw [dayAfter, if_neg (by omega)]
    have hle := yearOfEra_mono (show day ≤ dayAfter x - 1 by omega)
    omega
  · by_contra hhigh
    rw [dayAfter] at hhigh
    split_ifs at hhigh with hlast
    · omega
    · obtain ⟨hx, -⟩ := yearOfEra_ends (y + 1) (by omega)
      have hle := yearOfEra_mono (show firstDay (y + 1) ≤ day by omega)
      omega

/-- The months of a year that begins in March: the twelfth may have a twenty-ninth day. -/
theorem monthOfYear_spec : ∀ d < 366, monthOfYear d < 12 ∧ (153 * monthOfYear d + 2) / 5 ≤ d ∧
    d - (153 * monthOfYear d + 2) / 5 + 1 ≤
      (if monthOfYear d = 11 then if d = 365 then 29 else 28
        else if monthOfYear d = 1 ∨ monthOfYear d = 3 ∨ monthOfYear d = 6 ∨ monthOfYear d = 8
          then 30 else 31) := by
  decide +kernel

/-- A year of an era has at most one day more than others, and that day is in a leap year. -/
theorem length_of_year : ∀ y < 400, dayAfter y - firstDay y ≤ 366 ∧
    (dayAfter y - firstDay y = 366 →
      (y + 1) % 4 = 0 ∧ ((y + 1) % 100 ≠ 0 ∨ (y + 1) % 400 = 0)) := by
  decide +kernel

/-- A day within its era, and the date that is found for it. -/
theorem dateOfDays_eq (days : Int) : ∃ (era : Int) (day : Nat),
    days + 719468 = era * 146097 + day ∧ day < 146097 ∧
      dateOfDays days =
        let y := yearOfEra day
        let d := day - firstDay y
        let m := monthOfYear d
        (if m < 10 then (y : Int) + era * 400 else y + era * 400 + 1,
          if m < 10 then m + 3 else m - 9, d - (153 * m + 2) / 5 + 1) := by
  obtain ⟨day, hday⟩ : ∃ n : Nat, (days + 719468) % 146097 = n :=
    ⟨((days + 719468) % 146097).toNat, by omega⟩
  have hlt : day < 146097 := by omega
  refine ⟨(days + 719468) / 146097, day, by omega, hlt, ?_⟩
  dsimp only
  obtain ⟨hy, hfirst, hafter⟩ := yearOfEra_spec hlt
  have hlength := (length_of_year _ hy).1
  have hd : day - firstDay (yearOfEra day) < 366 := by omega
  obtain ⟨hm, hle, -⟩ := monthOfYear_spec _ hd
  have hfdiv : ∀ a b : Int, 0 ≤ b → a.fdiv b = a / b := fun a b => Int.fdiv_eq_ediv_of_nonneg a
  have hera : days + 719468 - (days + 719468) / 146097 * 146097 = (day : Int) := by omega
  have hyear : ((day : Int) - ((day : Int) / 1460 - (day : Int) / 36524 + (day : Int) / 146096)) /
      365 = (yearOfEra day : Nat) := by
    rw [yearOfEra]
    omega
  generalize yearOfEra day = y at *
  have hdoy : (day : Int) - (365 * (y : Int) + (y : Int) / 4 - (y : Int) / 100) =
      (day - firstDay y : Nat) := by
    rw [firstDay] at *
    omega
  generalize day - firstDay y = d at *
  have hmonth : (5 * (d : Int) + 2) / 153 = (monthOfYear d : Nat) := by
    rw [monthOfYear]
    omega
  generalize monthOfYear d = m at *
  simp (disch := decide) only [dateOfDays, hfdiv, hera, hyear, hdoy, hmonth]
  refine Prod.ext ?_ (Prod.ext ?_ ?_)
  · simp only
    split_ifs <;> omega
  · simp only
    split_ifs <;> omega
  · simp only
    omega

/-- The days up to the date of a day are the day. -/
theorem daysOfDate_dateOfDays (days : Int) :
    daysOfDate (dateOfDays days).1 (dateOfDays days).2.1 (dateOfDays days).2.2 = days := by
  obtain ⟨era, day, hera, hlt, heq⟩ := dateOfDays_eq days
  obtain ⟨hy, hfirst, hafter⟩ := yearOfEra_spec hlt
  have hlength := (length_of_year _ hy).1
  obtain ⟨hm, hle, -⟩ := monthOfYear_spec (day - firstDay (yearOfEra day)) (by omega)
  have hfdiv : ∀ a b : Int, 0 ≤ b → a.fdiv b = a / b := fun a b => Int.fdiv_eq_ediv_of_nonneg a
  rw [heq]
  dsimp only
  generalize yearOfEra day = y at *
  rw [firstDay] at *
  generalize hd : day - (365 * y + y / 4 - y / 100) = d at *
  generalize monthOfYear d = m at *
  have h400 : ((y : Int) + era * 400) / 400 = era := by omega
  have hyear : (y : Int) + era * 400 - era * 400 = y := by omega
  by_cases hten : m < 10
  · have hmonth : ¬m + 3 ≤ 2 := by omega
    have hm' : ((m + 3 : Nat) : Int) - 3 = m := by omega
    simp (disch := decide) only [daysOfDate, hfdiv, hten, if_true, hmonth, if_false, h400, hyear,
      hm']
    omega
  · have hmonth : m - 9 ≤ 2 := by omega
    have hm' : ((m - 9 : Nat) : Int) + 9 = m := by omega
    have hback : (y : Int) + era * 400 + 1 - 1 = y + era * 400 := by omega
    simp (disch := decide) only [daysOfDate, hfdiv, hten, if_true, hmonth, if_false, hback, h400,
      hyear, hm']
    omega

/-- The date of a day is a date of the calendar. -/
theorem dateOfDays_valid {days : Int} (h : 0 ≤ (dateOfDays days).1) :
    1 ≤ (dateOfDays days).2.1 ∧ (dateOfDays days).2.1 ≤ 12 ∧ 1 ≤ (dateOfDays days).2.2 ∧
      (dateOfDays days).2.2 ≤ daysIn (dateOfDays days).1.toNat (dateOfDays days).2.1 := by
  obtain ⟨era, day, hera, hlt, heq⟩ := dateOfDays_eq days
  obtain ⟨hy, hfirst, hafter⟩ := yearOfEra_spec hlt
  obtain ⟨hlength, hleap⟩ := length_of_year _ hy
  obtain ⟨hm, hle, hday⟩ := monthOfYear_spec (day - firstDay (yearOfEra day)) (by omega)
  rw [heq] at h ⊢
  dsimp only at h ⊢
  generalize yearOfEra day = y at *
  generalize hd : day - firstDay y = d at *
  generalize monthOfYear d = m at *
  by_cases hten : m < 10
  · simp only [hten, if_true] at h ⊢
    refine ⟨by omega, by omega, by omega, ?_⟩
    simp only [daysIn]
    rw [if_neg (by omega)] at hday ⊢
    split_ifs at hday ⊢ <;> omega
  · simp only [hten, if_false] at h ⊢
    refine ⟨by omega, by omega, by omega, ?_⟩
    by_cases hfeb : m = 11
    · subst hfeb
      simp only [if_true] at hday
      simp only [daysIn, if_true]
      by_cases hlast : d = 365
      · -- The last day of the longest year is in a leap year.
        have hleap' := hleap (by omega)
        have hnonneg : 0 ≤ (y : Int) + era * 400 + 1 := h
        have hisLeap : isLeap ((y : Int) + era * 400 + 1).toNat = true := by
          simp only [isLeap, Bool.and_eq_true, Bool.or_eq_true, beq_iff_eq, bne_iff_ne]
          omega
        rw [if_pos hlast] at hday
        rw [if_pos hisLeap]
        exact hday
      · rw [if_neg hlast] at hday
        split_ifs <;> omega
    · rw [if_neg hfeb] at hday
      have hten' : m = 10 := by omega
      subst hten'
      simp only [daysIn]
      split_ifs at hday ⊢ <;> omega

end DocPull.Instant
