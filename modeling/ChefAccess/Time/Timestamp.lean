import ChefAccess.Error
import ChefAccess.Text.Blank
import ChefAccess.Time.Instant

/-!
# Timestamps

Requests are stamped with texts such as {lit}`2024-01-01T00:00:00Z`: a date and a
time of day to the second, in universal time.

Main definitions:

- {lit}`format`: the timestamp of an instant, which drops the fraction of a second.
- {lit}`parse?`: the instant of a timestamp.
- {lit}`parse`: the same, with the failure that names the text.
-/

namespace ChefAccess
namespace Time
namespace Timestamp

/-! ## Writing -/

/-- The decimal digits of a number, with leading zeros up to a width. -/
def padded (width n : Nat) : List Char :=
  let digits := Nat.toDigits 10 n
  List.replicate (width - digits.length) '0' ++ digits

/-- The text of a year: four digits, or a sign and at least four digits outside the
years 0 to 9999. -/
def yearChars (year : Int) : List Char :=
  if 0 ≤ year ∧ year ≤ 9999 then padded 4 year.toNat
  else (if year < 0 then '-' else '+') :: padded 4 year.natAbs

/-- The time of day of an instant in seconds. -/
def secondOfDay (t : Instant) : Nat :=
  (t.seconds % 86400).toNat

/-- The date of an instant. -/
def dateOf (t : Instant) : Date :=
  Date.ofDayNumber (t.seconds / 86400)

/-- The characters of the timestamp of an instant.  A leap second is second 60. -/
def formatChars (t : Instant) : List Char :=
  let date := dateOf t
  let ofDay := secondOfDay t
  yearChars date.year ++ ['-'] ++ padded 2 date.month ++ ['-'] ++ padded 2 date.day ++ ['T'] ++
    padded 2 (ofDay / 3600) ++ [':'] ++ padded 2 (ofDay / 60 % 60) ++ [':'] ++
    padded 2 (ofDay % 60 + if t.isLeap then 1 else 0) ++ ['Z']

/-- The timestamp of an instant. -/
def format (t : Instant) : String :=
  String.ofList (formatChars t)

/-! ## Reading -/

/-- Whether a character is a decimal digit of ASCII. -/
def isDigit (c : Char) : Bool :=
  48 ≤ c.toNat && c.toNat ≤ 57

/-- The number written by decimal digits. -/
def digitsValue (digits : List Char) : Nat :=
  digits.foldl (fun value c => 10 * value + (c.toNat - 48)) 0

/-- The leading digits of a text, at most {lit}`limit` of them, as a number with
the rest of the text.  At least one digit has to be there. -/
def readDigits (limit : Nat) (l : List Char) : Option (Nat × List Char) :=
  let digits := (l.take limit).takeWhile isDigit
  if digits.isEmpty then none else some (digitsValue digits, l.drop digits.length)

/-- A field of at most two digits, after any white space. -/
def readField (l : List Char) : Option (Nat × List Char) :=
  readDigits 2 (l.dropWhile Text.isSpace)

/-- A year, after any white space: at most four digits, or a sign and any number of
digits. -/
def readYear (l : List Char) : Option (Int × List Char) :=
  match l.dropWhile Text.isSpace with
  | '-' :: rest => (readDigits rest.length rest).map fun r => (-(r.1 : Int), r.2)
  | '+' :: rest => (readDigits rest.length rest).map fun r => ((r.1 : Int), r.2)
  | rest => (readDigits 4 rest).map fun r => ((r.1 : Int), r.2)

/-- The rest of a text after one given character. -/
def readMark (c : Char) : List Char → Option (List Char)
  | [] => none
  | d :: rest => if d = c then some rest else none

/-- The instant of a date and a time of day, if both exist.  Second 60 is a leap
second. -/
def assemble (date : Date) (hour minute second : Nat) : Option Instant :=
  if date.IsValid ∧ hour < 24 ∧ minute < 60 ∧ second ≤ 60 then
    Instant.ofUnix?
      (86400 * date.toDayNumber + (3600 * hour + 60 * minute + min second 59 : Nat))
      (if second = 60 then nanosPerSecond else 0)
  else none

/-- The instant of the characters of a timestamp. -/
def parseChars (l : List Char) : Option Instant := do
  let (year, l) ← readYear l
  let l ← readMark '-' l
  let (month, l) ← readField l
  let l ← readMark '-' l
  let (day, l) ← readField l
  let l ← readMark 'T' l
  let (hour, l) ← readField l
  let l ← readMark ':' l
  let (minute, l) ← readField l
  let l ← readMark ':' l
  let (second, l) ← readField l
  let l ← readMark 'Z' l
  if l.isEmpty then assemble ⟨year, month, day⟩ hour minute second else none

/-- The instant of a timestamp, if the text is one. -/
def parse? (s : String) : Option Instant :=
  parseChars s.toList

/-- The instant of a timestamp, or the failure that names the text. -/
def parse (s : String) : Except Error Instant :=
  match parse? s with
  | some t => .ok t
  | none => .error (Error.unexpected ("invalid timestamp: " ++ s)).withExternal

end Timestamp
end Time
end ChefAccess
