import Mathlib.Tactic.IntervalCases
import Passbook.Time.Calendar
/-!
# Days and dates

Every number of days is the number of a date that exists.  The year of a day within four hundred years is found by
taking the leap days off and dividing by 365; that this hits the year is seen at the first and at the last day of
every year, as the count without leap days never goes down.
-/

namespace Passbook.Date

section Years

variable {d e : ℤ}

/-- Days of an era before one of its years. -/
def daysBefore (year : ℤ) : ℤ := 365 * year + year / 4 - year / 100 + year / 400

/-- Days of an era without the leap days before them. -/
def commonDays (d : ℤ) : ℤ := d - d / 1460 + d / 36524 - d / 146096

theorem commonDays_mono (le : d ≤ e) : commonDays d ≤ commonDays e := by
  obtain ⟨n, rfl⟩ := Int.le.dest le
  clear le
  induction n with
  | zero => simp
  | succ n inductionHypothesis =>
      refine Int.le_trans inductionHypothesis ?_
      rw [commonDays, commonDays]
      omega

/-- On the first and on the last day of a year the common days are those of this year. -/
theorem commonDays_bounds (year : ℤ) (natural : 0 ≤ year) (within : year < 400) :
    365 * year ≤ commonDays (daysBefore year) ∧ commonDays (daysBefore (year + 1) - 1) < 365 * (year + 1) := by
  obtain ⟨n, rfl⟩ := Int.eq_ofNat_of_zero_le natural
  have all : ∀ n : ℕ, n < 400 → 365 * (n : ℤ) ≤ commonDays (daysBefore n) ∧
      commonDays (daysBefore (n + 1) - 1) < 365 * ((n : ℤ) + 1) := by
    decide +kernel
  exact all n (by omega)

/-- The year of an era to which a day belongs. -/
theorem day_of_year (natural : 0 ≤ d) (within : d < daysPerEra) :
    (0 ≤ commonDays d / 365 ∧ commonDays d / 365 < 400) ∧
      daysBefore (commonDays d / 365) ≤ d ∧ d < daysBefore (commonDays d / 365 + 1) := by
  rw [daysPerEra] at within
  have first : commonDays 0 ≤ commonDays d := commonDays_mono natural
  have last : commonDays d ≤ commonDays 146096 := commonDays_mono (by omega)
  have ends : commonDays 0 = 0 ∧ commonDays 146096 = 145999 := by decide
  have year : 0 ≤ commonDays d / 365 ∧ commonDays d / 365 < 400 := by omega
  generalize eq : commonDays d / 365 = y at year ⊢
  refine ⟨year, ?_, ?_⟩
  · by_contra before
    have positive : 0 < y := by
      by_contra none
      obtain rfl : y = 0 := by omega
      exact before natural
    have bounds := (commonDays_bounds (y - 1) (by omega) (by omega)).2
    have least : commonDays d ≤ commonDays (daysBefore y - 1) := commonDays_mono (by omega)
    rw [Int.sub_add_cancel] at bounds
    omega
  · by_contra after
    rcases Int.lt_or_le (y + 1) 400 with next | none
    · have bounds := (commonDays_bounds (y + 1) (by omega) next).1
      have greatest : commonDays (daysBefore (y + 1)) ≤ commonDays d := commonDays_mono (by omega)
      omega
    · obtain rfl : y = 399 := by omega
      exact after within

end Years

/-- The era, the year of it that begins in March and the day of this year to which a number of days leads. -/
theorem exists_ofDays_eq (days : ℤ) : ∃ era year day : ℤ,
    (0 ≤ year ∧ year < 400) ∧ (0 ≤ day ∧ daysBefore year + day < daysBefore (year + 1)) ∧
      days = era * daysPerEra + (daysBefore year + day) - epochOffset ∧
        let fromMarch := (5 * day + 2) / 153
        let month := if fromMarch < 10 then fromMarch + 3 else fromMarch - 9
        ofDays days =
          { year := if month ≤ 2 then year + era * 400 + 1 else year + era * 400
            month := month.toNat
            day := (day - (153 * fromMarch + 2) / 5 + 1).toNat } := by
  have natural : 0 ≤ (days + epochOffset) % daysPerEra := Int.emod_nonneg _ (by decide)
  have within : (days + epochOffset) % daysPerEra < daysPerEra := Int.emod_lt_of_pos _ (by decide)
  obtain ⟨inEra, inYear⟩ := day_of_year natural within
  let year := commonDays ((days + epochOffset) % daysPerEra) / 365
  have whole : daysBefore year = 365 * year + year / 4 - year / 100 := by
    rw [daysBefore]
    omega
  refine ⟨(days + epochOffset) / daysPerEra, year,
    (days + epochOffset) % daysPerEra - (365 * year + year / 4 - year / 100), inEra, ?_, ?_, rfl⟩
  · rw [← whole]
    change daysBefore year ≤ _ ∧ _ < daysBefore (year + 1) at inYear
    omega
  · have division := Int.ediv_mul_add_emod (days + epochOffset) daysPerEra
    rw [← whole]
    omega

/-- The months before February are as long as the formula for the day on which a month begins makes them. -/
theorem daysInMonth_eq (year : ℤ) {fromMarch : ℤ} (natural : 0 ≤ fromMarch) (early : fromMarch < 11) :
    (daysInMonth year (if fromMarch < 10 then fromMarch + 3 else fromMarch - 9).toNat : ℤ) =
      (153 * (fromMarch + 1) + 2) / 5 - (153 * fromMarch + 2) / 5 := by
  interval_cases fromMarch <;> rfl

theorem daysInMonth_le (year : ℤ) (month : ℕ) : daysInMonth year month ≤ 31 := by
  unfold daysInMonth
  repeat' split
  all_goals decide

/-- To every number of days belongs a date that exists. -/
theorem isValid_ofDays (days : ℤ) : (ofDays days).isValid = true := by
  obtain ⟨era, year, day, inEra, inYear, -, eq⟩ := exists_ofDays_eq days
  simp only [daysBefore] at inYear
  have months : 0 ≤ (5 * day + 2) / 153 ∧ (5 * day + 2) / 153 < 12 := by omega
  have first : 0 ≤ day - (153 * ((5 * day + 2) / 153) + 2) / 5 := by omega
  have last : day < (153 * ((5 * day + 2) / 153 + 1) + 2) / 5 := by omega
  rw [eq]
  simp only [isValid, Bool.and_eq_true, decide_eq_true_eq]
  generalize (5 * day + 2) / 153 = fromMarch at months first last ⊢
  rcases Int.lt_or_le fromMarch 11 with early | late
  · have length := fun year => daysInMonth_eq year months.1 early
    refine ⟨⟨⟨?_, ?_⟩, by omega⟩, ?_⟩
    · split <;> omega
    · split <;> omega
    · have long := length (if (if fromMarch < 10 then fromMarch + 3 else fromMarch - 9) ≤ 2
        then year + era * 400 + 1 else year + era * 400)
      omega
  · obtain rfl : fromMarch = 11 := by omega
    -- What is left is February, the last month of the year, whose last day is there in leap years only.
    have leap : day < 365 ∨ isLeapYear (year + era * 400 + 1) = true := by
      simp only [isLeapYear, Bool.and_eq_true, Bool.or_eq_true, beq_iff_eq, bne_iff_ne]
      omega
    refine ⟨⟨⟨by decide, by decide⟩, by omega⟩, ?_⟩
    show (day - 337 + 1).toNat ≤ if isLeapYear (year + era * 400 + 1) then 29 else 28
    split
    · omega
    · simp_all
      omega

/-- The date of a number of days has this number. -/
theorem toDays_ofDays (days : ℤ) : (ofDays days).toDays = days := by
  obtain ⟨era, year, day, inEra, inYear, number, eq⟩ := exists_ofDays_eq days
  have era_eq : (year + era * 400) / 400 = era ∧ (year + era * 400) % 400 = year := by omega
  rw [eq]
  simp only [daysBefore] at number inYear
  have months : 0 ≤ (5 * day + 2) / 153 ∧ (5 * day + 2) / 153 < 12 := by omega
  have natural : 0 ≤ day - (153 * ((5 * day + 2) / 153) + 2) / 5 + 1 := by omega
  simp only [toDays]
  generalize (5 * day + 2) / 153 = fromMarch at months natural
  rcases Int.lt_or_le fromMarch 10 with early | late
  · have later : ¬fromMarch + 3 ≤ 2 ∧ ¬(fromMarch + 3).toNat ≤ 2 := by omega
    have month : ((fromMarch + 3).toNat : ℤ) - 3 = fromMarch := by omega
    simp only [if_pos early, if_neg later.1, if_neg later.2, era_eq, month]
    omega
  · have earlier : fromMarch - 9 ≤ 2 ∧ (fromMarch - 9).toNat ≤ 2 := by omega
    have month : (((fromMarch - 9).toNat + 9 : ℕ) : ℤ) = fromMarch := by omega
    have notEarly : ¬fromMarch < 10 := by omega
    simp only [if_neg notEarly, if_pos earlier.1, if_pos earlier.2, Int.add_sub_cancel, era_eq]
    omega

end Passbook.Date
