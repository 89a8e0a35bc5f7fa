/-!
# The calendar

Days are counted from the first of January 1970 in the Gregorian calendar, which
is extended to all years in both directions; the year before 1 is 0.

Main definitions:

- {lit}`Date`: a year, a month and a day.
- {lit}`Date.IsValid`: the dates that exist.
- {lit}`Date.toDayNumber` and {lit}`Date.ofDayNumber`: from dates to day numbers and back.

Main results:

- Theorem {lit}`sum_monthLengths`: the months fill the year.
-/

namespace ChefAccess
namespace Time

/-- A year, a month and a day, each counted as it is written. -/
structure Date where
  year : Int
  month : Nat
  day : Nat
  deriving DecidableEq, Repr

/-- Every fourth year is a leap year, except three centuries out of four. -/
def isLeapYear (year : Int) : Bool :=
  year % 4 == 0 && (year % 100 != 0 || year % 400 == 0)

/-- The lengths of the months. -/
def monthLengths (leap : Bool) : List Nat :=
  [31, if leap then 29 else 28, 31, 30, 31, 30, 31, 31, 30, 31, 30, 31]

/-- The months fill the year. -/
theorem sum_monthLengths (leap : Bool) :
    (monthLengths leap).foldr (· + ·) 0 = if leap then 366 else 365 := by
  cases leap <;> rfl

/-- The length of a month, which is zero for a month that does not exist. -/
def monthLength (leap : Bool) (month : Nat) : Nat :=
  if month = 0 then 0 else (monthLengths leap).getD (month - 1) 0

/-- The dates that exist. -/
def Date.IsValid (d : Date) : Prop :=
  1 ≤ d.month ∧ d.month ≤ 12 ∧ 1 ≤ d.day ∧ d.day ≤ monthLength (isLeapYear d.year) d.month

instance (d : Date) : Decidable d.IsValid := by
  unfold Date.IsValid
  infer_instance

/-- The number of days from the first of January of year 1 to that of another year. -/
def daysBeforeYear (year : Int) : Int :=
  365 * (year - 1) + (year - 1) / 4 - (year - 1) / 100 + (year - 1) / 400

/-- The number of days of a year before a month. -/
def daysBeforeMonth (leap : Bool) (month : Nat) : Nat :=
  ((monthLengths leap).take (month - 1)).foldr (· + ·) 0

/-- The number of days from year 1 to 1970. -/
def epochDays : Int :=
  daysBeforeYear 1970

/-- The number of days from the first of January 1970 to a date. -/
def Date.toDayNumber (d : Date) : Int :=
  daysBeforeYear d.year + daysBeforeMonth (isLeapYear d.year) d.month + (d.day - 1 : Int) -
    epochDays

/-- The month and the day that lie a number of days after the start of a list of
months, the first of which has a given number. -/
def monthAndDay (month : Nat) : List Nat → Nat → Nat × Nat
  | [], days => (month, days + 1)
  | length :: rest, days =>
    if days < length then (month, days + 1) else monthAndDay (month + 1) rest (days - length)

/-- The year and the day within it that lie a number of days after the first of
January of year 1.  Four centuries, centuries and four-year spans are taken off in
turn; the last century of four and the last year of four are one day longer. -/
def yearAndDay (days : Int) : Int × Nat :=
  let eras := days / 146097
  let inEra := days % 146097
  let centuries := min (inEra / 36524) 3
  let inCentury := inEra - centuries * 36524
  let spans := inCentury / 1461
  let inSpan := inCentury % 1461
  let years := min (inSpan / 365) 3
  (400 * eras + 100 * centuries + 4 * spans + years + 1, (inSpan - years * 365).toNat)

/-- The date with a given day number. -/
def Date.ofDayNumber (n : Int) : Date :=
  let year := yearAndDay (n + epochDays)
  let month := monthAndDay 1 (monthLengths (isLeapYear year.1)) year.2
  ⟨year.1, month.1, month.2⟩

end Time
end ChefAccess
