import ChefAccess.Time.Calendar

/-!
# Instants

A point in time is a number of seconds since the start of 1970 and a number of
nanoseconds.  During a leap second the seconds stay at the last second of the
minute and the nanoseconds run past one thousand million.

Main definitions:

- {lit}`Instant`: a point in time within the supported years.
- {lit}`Instant.ofUnix?`: the instant of a number of seconds and nanoseconds.
- {lit}`Instant.wholeSecond`: an instant without its fraction of a second.
-/

namespace ChefAccess
namespace Time

/-- The number of nanoseconds in a second. -/
def nanosPerSecond : Nat :=
  1000000000

/-- The first year that instants can lie in. -/
def firstYear : Int :=
  -262143

/-- The last year that instants can lie in. -/
def lastYear : Int :=
  262142

/-- The first second that instants can lie in. -/
def firstSecond : Int :=
  86400 * Date.toDayNumber ⟨firstYear, 1, 1⟩

/-- The last second that instants can lie in. -/
def lastSecond : Int :=
  86400 * Date.toDayNumber ⟨lastYear, 12, 31⟩ + 86399

/-- The numbers of seconds and nanoseconds that make an instant.  The nanoseconds
pass one thousand million only in the last second of a minute. -/
def IsInstant (seconds : Int) (nanos : Nat) : Prop :=
  firstSecond ≤ seconds ∧ seconds ≤ lastSecond ∧ nanos < 2 * nanosPerSecond ∧
    (nanosPerSecond ≤ nanos → seconds % 60 = 59)

instance (seconds : Int) (nanos : Nat) : Decidable (IsInstant seconds nanos) := by
  unfold IsInstant
  infer_instance

/-- A point in time. -/
structure Instant where
  seconds : Int
  nanos : Nat
  valid : IsInstant seconds nanos
  deriving DecidableEq

namespace Instant

/-- The instant of a number of seconds and nanoseconds, if there is one. -/
def ofUnix? (seconds : Int) (nanos : Nat) : Option Instant :=
  if h : IsInstant seconds nanos then some ⟨seconds, nanos, h⟩ else none

/-- Whether an instant lies in a leap second. -/
def isLeap (t : Instant) : Bool :=
  nanosPerSecond ≤ t.nanos

/-- An instant without its fraction of a second; a leap second stays one. -/
def wholeSecond (t : Instant) : Instant where
  seconds := t.seconds
  nanos := if t.isLeap then nanosPerSecond else 0
  valid := by
    obtain ⟨hfirst, hlast, _, hleap⟩ := t.valid
    refine ⟨hfirst, hlast, ?_, ?_⟩
    · split <;> simp [nanosPerSecond]
    · intro hge
      apply hleap
      by_cases hcase : t.isLeap = true
      · simpa [isLeap] using hcase
      · simp [hcase, nanosPerSecond] at hge

/-- The first instant of 1970. -/
def epoch : Instant :=
  ⟨0, 0, by decide⟩

instance : Inhabited Instant :=
  ⟨epoch⟩

end Instant
end Time
end ChefAccess
