import ChefAccess.Time.Calendar

/-!
# Days and dates

Each day number belongs to one date, which exists and has that day number.  Within four
centuries the days are divided by centuries, by spans of four years and by years; the last
century and the last year of a span take one day more, and that day is the leap day of a year
that is one.

Main results:

- Theorem {lit}`Time.yearAndDay_fits`: the year of a day and the day within it.
- Theorem {lit}`Time.monthAndDay_fits`: the month of a day and the day within it.
- Theorems {lit}`Time.Date.isValid_ofDayNumber` and {lit}`Time.Date.toDayNumber_ofDayNumber`:
  the date of a day number exists, and has that day number.
- Theorem {lit}`Time.Date.IsValid.ofDayNumber_toDayNumber`: no other date has it.
-/

namespace ChefAccess
namespace Time

/-! ## Years -/

/-- How the days within a century are divided into spans of four years and years.  The last
year of a span has one day more, except at the end of a century that is one day short. -/
theorem exists_spans {days : Int} (hlow : 0 ≤ days) (hhigh : days ≤ 36524) :
    ∃ spans years rest : Int,
      spans = days / 1461 ∧ years = min (days % 1461 / 365) 3 ∧
      rest = days % 1461 - years * 365 ∧ 0 ≤ spans ∧ spans ≤ 24 ∧ 0 ≤ years ∧ years ≤ 3 ∧
      0 ≤ rest ∧ rest ≤ 365 ∧ days = 1461 * spans + 365 * years + rest ∧
      (rest = 365 → years = 3 ∧ (spans = 24 → days = 36524)) := by
  refine ⟨_, _, _, rfl, rfl, rfl, ?_⟩
  omega

/-- How the days within four centuries are divided into centuries.  The last century has one
day more. -/
theorem exists_centuries (days : Int) (hlow : 0 ≤ days) (hhigh : days < 146097) :
    ∃ centuries rest : Int,
      centuries = min (days / 36524) 3 ∧ rest = days - centuries * 36524 ∧
      0 ≤ centuries ∧ centuries ≤ 3 ∧ 0 ≤ rest ∧ rest ≤ 36524 ∧
      (rest = 36524 → centuries = 3) := by
  refine ⟨_, _, rfl, rfl, ?_⟩
  omega

/-- The days before a year of an era, a century, a span and a place in the span. -/
theorem daysBeforeYear_eq {eras centuries spans years : Int} (hcenturies : 0 ≤ centuries)
    (hfour : centuries ≤ 3) (hspans : 0 ≤ spans) (hcentury : spans ≤ 24) (hyears : 0 ≤ years)
    (hspan : years ≤ 3) :
    daysBeforeYear (400 * eras + 100 * centuries + 4 * spans + years + 1) =
      146097 * eras + 36524 * centuries + 1461 * spans + 365 * years := by
  unfold daysBeforeYear
  omega

/-- The year of a day and the day within it. -/
theorem yearAndDay_fits (days : Int) :
    daysBeforeYear (yearAndDay days).1 + (yearAndDay days).2 = days ∧
      (yearAndDay days).2 < if isLeapYear (yearAndDay days).1 then 366 else 365 := by
  obtain ⟨centuries, inCentury, hcenturies, hinCentury, hc0, hc3, hi0, hi4, hlong⟩ :=
    exists_centuries (days % 146097) (by omega) (by omega)
  obtain ⟨spans, years, inYear, hspans, hyears, hinYear, hs0, hs24, hy0, hy3, hr0, hr, hsum,
    hleap⟩ := exists_spans hi0 hi4
  have hresult : yearAndDay days =
      (400 * (days / 146097) + 100 * centuries + 4 * spans + years + 1, inYear.toNat) := by
    rw [hinYear, hyears, hspans, hinCentury, hcenturies]
    rfl
  rw [hresult]
  dsimp only
  rw [daysBeforeYear_eq hc0 hc3 hs0 hs24 hy0 hy3]
  refine ⟨by omega, ?_⟩
  split
  · omega
  · -- the last day of a long year is the leap day
    rename_i hcommon
    simp only [isLeapYear, Bool.and_eq_true, beq_iff_eq, Bool.or_eq_true, bne_iff_ne, ne_eq,
      not_and, not_or, Decidable.not_not] at hcommon
    omega

/-! ## Months -/

/-- The month of a day and the day within it, for days that the months have room for. -/
theorem monthAndDay_fits (first : Nat) {days : Nat} {lengths : List Nat}
    (hdays : days < lengths.foldr (· + ·) 0) :
    ∃ before < lengths.length, (monthAndDay first lengths days).1 = first + before ∧
      1 ≤ (monthAndDay first lengths days).2 ∧
      (monthAndDay first lengths days).2 ≤ lengths.getD before 0 ∧
      (lengths.take before).foldr (· + ·) 0 + (monthAndDay first lengths days).2 = days + 1 := by
  induction lengths generalizing first days with
  | nil => simp at hdays
  | cons length lengths ih =>
    rw [List.foldr_cons] at hdays
    rw [monthAndDay]
    by_cases hshort : days < length
    · rw [if_pos hshort]
      exact ⟨0, by simp, rfl, by simp, by simpa using Nat.succ_le_of_lt hshort, by simp⟩
    · rw [if_neg hshort]
      obtain ⟨before, hbefore, hmonth, hpos, hday, hsum⟩ :=
        ih (first + 1) (show days - length < lengths.foldr (· + ·) 0 by omega)
      refine ⟨before + 1, by simpa using hbefore, by omega, hpos, by simpa using hday, ?_⟩
      rw [List.take_succ_cons, List.foldr_cons]
      omega

/-! ## Dates -/

/-- A year has twelve months. -/
theorem length_monthLengths (leap : Bool) : (monthLengths leap).length = 12 :=
  rfl

/-- The month and the day of the date of a day number. -/
theorem Date.ofDayNumber_fits (n : Int) :
    ∃ before < 12, (ofDayNumber n).month = before + 1 ∧ 1 ≤ (ofDayNumber n).day ∧
      (ofDayNumber n).day ≤ (monthLengths (isLeapYear (ofDayNumber n).year)).getD before 0 ∧
      daysBeforeYear (ofDayNumber n).year +
        daysBeforeMonth (isLeapYear (ofDayNumber n).year) (before + 1) +
          (ofDayNumber n).day = n + epochDays + 1 := by
  obtain ⟨hyear, hday⟩ := yearAndDay_fits (n + epochDays)
  rw [← sum_monthLengths] at hday
  obtain ⟨before, hbefore, hmonth, hpos, hle, hsum⟩ := monthAndDay_fits 1 hday
  rw [length_monthLengths] at hbefore
  refine ⟨before, hbefore, ?_, hpos, hle, ?_⟩
  · rw [Nat.add_comm]
    exact hmonth
  · simp only [ofDayNumber, daysBeforeMonth, Nat.add_sub_cancel]
    omega

/-- The date of a day number exists. -/
theorem Date.isValid_ofDayNumber (n : Int) : (ofDayNumber n).IsValid := by
  obtain ⟨before, hbefore, hmonth, hpos, hle, -⟩ := ofDayNumber_fits n
  refine ⟨by omega, by omega, hpos, ?_⟩
  rw [monthLength, if_neg (by omega), hmonth]
  exact hle

/-- The date of a day number has that day number. -/
theorem Date.toDayNumber_ofDayNumber (n : Int) : (ofDayNumber n).toDayNumber = n := by
  obtain ⟨before, -, hmonth, hpos, -, hsum⟩ := ofDayNumber_fits n
  rw [toDayNumber, hmonth]
  omega

/-! ## The order of dates -/

/-- A year starts when the days of the year before are over. -/
theorem daysBeforeYear_succ (year : Int) :
    daysBeforeYear (year + 1) = daysBeforeYear year + if isLeapYear year then 366 else 365 := by
  unfold daysBeforeYear
  split
  case isTrue hleap =>
    simp only [isLeapYear, Bool.and_eq_true, beq_iff_eq, Bool.or_eq_true, bne_iff_ne,
      ne_eq] at hleap
    omega
  case isFalse hcommon =>
    simp only [isLeapYear, Bool.and_eq_true, beq_iff_eq, Bool.or_eq_true, bne_iff_ne, ne_eq,
      not_and, not_or, Decidable.not_not] at hcommon
    omega

/-- Later years start later. -/
theorem daysBeforeYear_mono {year later : Int} (hle : year ≤ later) :
    daysBeforeYear year ≤ daysBeforeYear later := by
  unfold daysBeforeYear
  omega

/-- A month starts when the months before it are over. -/
theorem daysBeforeMonth_add_le (leap : Bool) {month later : Nat} (hlt : month < later)
    (htwelve : later ≤ 12) :
    daysBeforeMonth leap month + monthLength leap month ≤ daysBeforeMonth leap later := by
  have hmonths : ∀ leap, ∀ later < 13, ∀ month < later,
      daysBeforeMonth leap month + monthLength leap month ≤ daysBeforeMonth leap later := by
    decide
  exact hmonths leap later (by omega) month hlt

/-- A month is over when the year is. -/
theorem daysBeforeMonth_add_le_year (leap : Bool) {month : Nat} (htwelve : month ≤ 12) :
    daysBeforeMonth leap month + monthLength leap month ≤ if leap then 366 else 365 := by
  have hmonths : ∀ leap, ∀ month < 13,
      daysBeforeMonth leap month + monthLength leap month ≤ if leap then 366 else 365 := by
    decide
  exact hmonths leap month (by omega)

namespace Date.IsValid

variable {date other : Date}

/-- A date lies within its year. -/
theorem within_year (hvalid : date.IsValid) :
    daysBeforeYear date.year ≤ date.toDayNumber + epochDays ∧
      date.toDayNumber + epochDays < daysBeforeYear (date.year + 1) := by
  obtain ⟨-, htwelve, hpos, hday⟩ := hvalid
  have hmonth := daysBeforeMonth_add_le_year (isLeapYear date.year) htwelve
  rw [daysBeforeYear_succ, toDayNumber]
  split
  case isTrue hleap =>
    rw [if_pos hleap] at hmonth
    omega
  case isFalse hcommon =>
    rw [if_neg hcommon] at hmonth
    omega

/-- A date in an earlier year has a smaller day number. -/
theorem toDayNumber_lt (hvalid : date.IsValid) (hother : other.IsValid)
    (hyear : date.year < other.year) : date.toDayNumber < other.toDayNumber := by
  have hend := hvalid.within_year.2
  have hstart := hother.within_year.1
  have hyears := daysBeforeYear_mono (show date.year + 1 ≤ other.year by omega)
  omega

/-- In one year, a date in an earlier month has a smaller day number. -/
theorem toDayNumber_lt_of_month (hvalid : date.IsValid) (hother : other.IsValid)
    (hyear : date.year = other.year) (hmonth : date.month < other.month) :
    date.toDayNumber < other.toDayNumber := by
  have hday := hvalid.2.2.2
  have hpos := hother.2.2.1
  have hmonths := daysBeforeMonth_add_le (isLeapYear date.year) hmonth hother.2.1
  rw [toDayNumber, toDayNumber, ← hyear]
  omega

/-- Dates with one day number are the same date. -/
theorem eq_of_toDayNumber_eq (hvalid : date.IsValid) (hother : other.IsValid)
    (hsame : date.toDayNumber = other.toDayNumber) : date = other := by
  have hyear : date.year = other.year := by
    rcases Int.lt_trichotomy date.year other.year with hlt | heq | hgt
    · exact absurd hsame (Int.ne_of_lt (hvalid.toDayNumber_lt hother hlt))
    · exact heq
    · exact absurd hsame (Int.ne_of_gt (hother.toDayNumber_lt hvalid hgt))
  have hmonth : date.month = other.month := by
    rcases Nat.lt_trichotomy date.month other.month with hlt | heq | hgt
    · exact absurd hsame (Int.ne_of_lt (hvalid.toDayNumber_lt_of_month hother hyear hlt))
    · exact heq
    · exact absurd hsame (Int.ne_of_gt (hother.toDayNumber_lt_of_month hvalid hyear.symm hgt))
  have hday : date.day = other.day := by
    have hpos := hvalid.2.2.1
    have hpos' := hother.2.2.1
    rw [toDayNumber, toDayNumber, hyear, hmonth] at hsame
    omega
  cases date
  cases other
  simp only [mk.injEq]
  exact ⟨hyear, hmonth, hday⟩

/-- A date is the date of its day number. -/
theorem ofDayNumber_toDayNumber (hvalid : date.IsValid) :
    ofDayNumber date.toDayNumber = date :=
  eq_of_toDayNumber_eq (isValid_ofDayNumber _) hvalid (toDayNumber_ofDayNumber _)

end Date.IsValid

end Time
end ChefAccess
