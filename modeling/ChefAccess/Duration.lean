/-!
# Durations

Spans of time in nanoseconds, and the short form in which they are described: the
largest unit that leaves a whole part, with as many decimals as it takes.

Main definitions:

- {lit}`Duration`: a span of time.
- {lit}`Duration.render`: its short form.
-/

namespace ChefAccess

/-- A span of time. -/
structure Duration where
  nanoseconds : Nat
  deriving DecidableEq, Repr, Inhabited

namespace Duration

/-- A number of milliseconds. -/
def ofMillis (n : Nat) : Duration :=
  ⟨n * 1000000⟩

/-- A number of seconds. -/
def ofSecs (n : Nat) : Duration :=
  ⟨n * 1000000000⟩

/-- The whole seconds of a span. -/
def toSecs (d : Duration) : Nat :=
  d.nanoseconds / 1000000000

/-- The whole milliseconds of a span. -/
def toMillis (d : Duration) : Nat :=
  d.nanoseconds / 1000000

/-- The decimals of a fraction below {lit}`10 ^ places`, without trailing zeros. -/
def decimals : Nat → Nat → List Char
  | 0, _ => []
  | places + 1, fraction =>
    if fraction = 0 then []
    else
      Char.ofNat (48 + fraction / Nat.pow 10 places) ::
        decimals places (fraction % Nat.pow 10 places)

/-- A span in a unit of {lit}`10 ^ places` nanoseconds. -/
def renderIn (places : Nat) (unit : String) (n : Nat) : String :=
  let fraction := decimals places (n % Nat.pow 10 places)
  let point := if fraction.isEmpty then "" else "." ++ String.ofList fraction
  toString (n / Nat.pow 10 places) ++ point ++ unit

/-- The short form of a span. -/
def render (d : Duration) : String :=
  let n := d.nanoseconds
  if 1000000000 ≤ n then renderIn 9 "s" n
  else if 1000000 ≤ n then renderIn 6 "ms" n
  else if 1000 ≤ n then renderIn 3 "µs" n
  else renderIn 0 "ns" n

end Duration
end ChefAccess
