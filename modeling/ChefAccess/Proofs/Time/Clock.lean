import ChefAccess.Proofs.Time.Timestamp

/-!
# Clocks and timestamps

A clock shows a date and a time of day to the second.  An instant lies in the second that one
clock shows, and every second of every date from the first year to the last has its instants.
The timestamp of an instant writes down what the clock shows, and is read back as the instant
without its fraction of a second.

Main definitions:

- {lit}`Time.Clock`: a date and a time of day to the second.
- {lit}`Time.Clock.stamp`: what a clock shows, as a timestamp.

Main results:

- Theorem {lit}`Time.isInstant_iff`: instants lie in the seconds that clocks show.
- Theorem {lit}`Time.Clock.eq_of_seconds_eq`: no two clocks show one second.
- Theorem {lit}`Time.Timestamp.round_trip_law`: timestamps are read back, and are equal for
  instants in one second only.
-/

namespace ChefAccess
namespace Time

/-- A date and a time of day to the second. -/
structure Clock where
  date : Date
  hour : Nat
  minute : Nat
  second : Nat
  deriving DecidableEq, Repr

namespace Clock

/-- What a clock can show in the years that instants can lie in. -/
structure IsValid (clock : Clock) : Prop where
  date : clock.date.IsValid
  first : firstYear ≤ clock.date.year
  last : clock.date.year ≤ lastYear
  hour : clock.hour < 24
  minute : clock.minute < 60
  second : clock.second < 60

/-- The seconds from the start of 1970 to the second that a clock shows. -/
def seconds (clock : Clock) : Int :=
  86400 * clock.date.toDayNumber +
    (3600 * clock.hour + 60 * clock.minute + clock.second : Nat)

/-- What a clock shows, as a timestamp.  A leap second is written as the second behind the one
that is shown. -/
def stamp (clock : Clock) (leap : Bool) : String :=
  String.ofList (Timestamp.yearChars clock.date.year ++
    '-' :: (Timestamp.padded 2 clock.date.month ++
    '-' :: (Timestamp.padded 2 clock.date.day ++
    'T' :: (Timestamp.padded 2 clock.hour ++
    ':' :: (Timestamp.padded 2 clock.minute ++
    ':' :: (Timestamp.padded 2 (clock.second + if leap then 1 else 0) ++ ['Z']))))))

/-- What clocks show at an instant. -/
def ofInstant (t : Instant) : Clock :=
  ⟨Timestamp.dateOf t, Timestamp.secondOfDay t / 3600, Timestamp.secondOfDay t / 60 % 60,
    Timestamp.secondOfDay t % 60⟩

end Clock

/-! ## The range of instants -/

/-- Instants start with the first year. -/
theorem firstSecond_eq : firstSecond = 86400 * (daysBeforeYear firstYear - epochDays) := by
  decide

/-- Instants end with the last year. -/
theorem lastSecond_eq :
    lastSecond = 86400 * (daysBeforeYear (lastYear + 1) - epochDays) - 1 := by
  decide

namespace Clock

variable {clock other : Clock}

/-- The second of a clock lies in the day of its date. -/
theorem IsValid.seconds_div (hvalid : clock.IsValid) :
    clock.seconds / 86400 = clock.date.toDayNumber := by
  obtain ⟨-, -, -, hhour, hminute, hsecond⟩ := hvalid
  rw [seconds]
  omega

/-- The second of a clock lies in the years that instants can lie in. -/
theorem IsValid.isInstant (hvalid : clock.IsValid) {nanos : Nat}
    (hnanos : nanos < 2 * nanosPerSecond) (hleap : nanosPerSecond ≤ nanos → clock.second = 59) :
    IsInstant clock.seconds nanos := by
  have hday := hvalid.seconds_div
  have hwithin := hvalid.date.within_year
  have hfirst := daysBeforeYear_mono hvalid.first
  have hlast := daysBeforeYear_mono (show clock.date.year + 1 ≤ lastYear + 1 from
    Int.add_le_add_right hvalid.last 1)
  refine ⟨?_, ?_, hnanos, fun hge => ?_⟩
  · rw [firstSecond_eq]
    omega
  · rw [lastSecond_eq]
    omega
  · have hminute := hleap hge
    rw [seconds]
    omega

/-- Clocks that show one second show the same. -/
theorem eq_of_seconds_eq (hvalid : clock.IsValid) (hother : other.IsValid)
    (hsame : clock.seconds = other.seconds) : clock = other := by
  have hday : clock.date.toDayNumber = other.date.toDayNumber := by
    rw [← hvalid.seconds_div, ← hother.seconds_div, hsame]
  have hdate := hvalid.date.eq_of_toDayNumber_eq hother.date hday
  obtain ⟨-, -, -, -, hminute, hsecond⟩ := hvalid
  obtain ⟨-, -, -, -, hminute', hsecond'⟩ := hother
  rw [seconds, seconds, hday] at hsame
  cases clock
  cases other
  simp only [mk.injEq]
  dsimp only at *
  refine ⟨hdate, ?_, ?_, ?_⟩ <;> omega

/-- What clocks show at an instant is its second. -/
theorem seconds_ofInstant (t : Instant) : (ofInstant t).seconds = t.seconds := by
  have hdays : (Timestamp.dateOf t).toDayNumber = t.seconds / 86400 :=
    Date.toDayNumber_ofDayNumber _
  rw [seconds, ofInstant]
  dsimp only
  rw [hdays, Timestamp.secondOfDay]
  omega

/-- Clocks show all instants. -/
theorem isValid_ofInstant (t : Instant) : (ofInstant t).IsValid := by
  have hdate : (Timestamp.dateOf t).IsValid := Date.isValid_ofDayNumber _
  have hdays : (Timestamp.dateOf t).toDayNumber = t.seconds / 86400 :=
    Date.toDayNumber_ofDayNumber _
  have hwithin := hdate.within_year
  have hday := Timestamp.secondOfDay_lt t
  obtain ⟨hfirst, hlast, -, -⟩ := t.valid
  rw [firstSecond_eq] at hfirst
  rw [lastSecond_eq] at hlast
  refine ⟨hdate, ?_, ?_, ?_, Nat.mod_lt _ (by omega), Nat.mod_lt _ (by omega)⟩
  · refine Int.not_lt.mp fun hearly => ?_
    have hyears := daysBeforeYear_mono (show (Timestamp.dateOf t).year + 1 ≤ firstYear from hearly)
    omega
  · refine Int.not_lt.mp fun hlate => ?_
    have hyears := daysBeforeYear_mono (show lastYear + 1 ≤ (Timestamp.dateOf t).year from hlate)
    omega
  · exact Nat.div_lt_of_lt_mul hday

end Clock

/-- Instants lie in the seconds that clocks show.  Their nanoseconds pass one thousand million
only behind the last second of a minute. -/
theorem isInstant_iff (seconds : Int) (nanos : Nat) :
    IsInstant seconds nanos ↔ ∃ clock : Clock, clock.IsValid ∧ clock.seconds = seconds ∧
      nanos < 2 * nanosPerSecond ∧ (nanosPerSecond ≤ nanos → clock.second = 59) := by
  constructor
  · intro hinstant
    let t : Instant := ⟨seconds, nanos, hinstant⟩
    refine ⟨.ofInstant t, Clock.isValid_ofInstant t, Clock.seconds_ofInstant t, hinstant.2.2.1,
      fun hge => ?_⟩
    exact Timestamp.secondOfDay_of_isLeap (t := t) (by simpa [Instant.isLeap] using hge)
  · rintro ⟨clock, hvalid, rfl, hnanos, hleap⟩
    exact hvalid.isInstant hnanos hleap

namespace Timestamp

/-- The timestamp of an instant is what clocks show. -/
theorem format_eq_stamp (t : Instant) : format t = (Clock.ofInstant t).stamp t.isLeap := by
  rw [format, formatChars_eq]
  rfl

example : format ⟨1483228799, 1500000000, by decide⟩ = "2016-12-31T23:59:60Z" := by
  decide +kernel

/-- The second of an instant is its seconds, and whether it is a leap second. -/
theorem wholeSecond_eq_iff (t t' : Instant) :
    t.wholeSecond = t'.wholeSecond ↔ t.seconds = t'.seconds ∧ t.isLeap = t'.isLeap := by
  rw [Instant.wholeSecond, Instant.wholeSecond, Instant.mk.injEq]
  refine and_congr_right fun _ => ?_
  cases t.isLeap <;> cases t'.isLeap <;> simp [nanosPerSecond]

/-- Timestamps are read back.  Instants lie in the seconds of all dates from the first year to
the last, and the timestamp of an instant writes down the one date and time of day that its
second has.  It is read as the instant without its fraction of a second, where a leap second
stays one.  So two instants have one timestamp exactly if they lie in one second. -/
theorem round_trip_law :
    (∀ seconds nanos, IsInstant seconds nanos ↔
      ∃ clock : Clock, clock.IsValid ∧ clock.seconds = seconds ∧ nanos < 2 * nanosPerSecond ∧
        (nanosPerSecond ≤ nanos → clock.second = 59)) ∧
    (∀ t : Instant, ∃ clock : Clock, clock.IsValid ∧ clock.seconds = t.seconds ∧
      format t = clock.stamp t.isLeap ∧
      ∀ other : Clock, other.IsValid → other.seconds = t.seconds → other = clock) ∧
    (∀ t : Instant, ∃ u : Instant, parse (format t) = .ok u ∧ u.seconds = t.seconds ∧
      u.nanos = if nanosPerSecond ≤ t.nanos then nanosPerSecond else 0) ∧
    ∀ t t' : Instant, format t = format t' ↔
      t.seconds = t'.seconds ∧ (nanosPerSecond ≤ t.nanos ↔ nanosPerSecond ≤ t'.nanos) := by
  refine ⟨isInstant_iff, fun t => ?_, fun t => ⟨t.wholeSecond, ?_, rfl, ?_⟩, fun t t' => ?_⟩
  · refine ⟨.ofInstant t, Clock.isValid_ofInstant t, Clock.seconds_ofInstant t, format_eq_stamp t,
      fun other hother hsame => ?_⟩
    exact Clock.eq_of_seconds_eq hother (Clock.isValid_ofInstant t)
      (hsame.trans (Clock.seconds_ofInstant t).symm)
  · rw [parse, parse?_format]
  · simp [Instant.wholeSecond, Instant.isLeap]
  · have hleap : t.isLeap = t'.isLeap ↔ (nanosPerSecond ≤ t.nanos ↔ nanosPerSecond ≤ t'.nanos) := by
      simp [Instant.isLeap]
    rw [← hleap, ← wholeSecond_eq_iff]
    constructor
    · exact wholeSecond_of_format_eq
    · intro hsame
      obtain ⟨hseconds, hsameLeap⟩ := (wholeSecond_eq_iff t t').mp hsame
      have hclock : Clock.ofInstant t = Clock.ofInstant t' :=
        Clock.eq_of_seconds_eq (Clock.isValid_ofInstant t) (Clock.isValid_ofInstant t')
          (by rw [Clock.seconds_ofInstant, Clock.seconds_ofInstant, hseconds])
      rw [format_eq_stamp, format_eq_stamp, hclock, hsameLeap]

end Timestamp
end Time
end ChefAccess
