import ChefAccess.Dict
import ChefAccess.Duration
import ChefAccess.Error
import ChefAccess.Journal
import ChefAccess.Text.LetterCase
import ChefAccess.Text.Blank

/-!
# Settings

How long things are kept, how many of them, and how long to wait.  The variables of the
environment replace the usual values one by one.

Main definitions:

- {lit}`Settings`: the settings of a service.
- {lit}`Settings.default`: the usual settings.
- {lit}`Settings.ofEnvironment`: the settings that the environment asks for.
-/

namespace ChefAccess

/-- The settings of a service. -/
structure Settings where
  insecure : Bool
  contextTtl : Duration
  contextCapacity : Nat
  projectClientTtl : Duration
  projectClientCapacity : Nat
  zoneClientTtl : Duration
  zoneClientCapacity : Nat
  timeouts : Timeouts
  deriving DecidableEq, Repr

namespace Settings

/-- The usual settings. -/
def default : Settings where
  insecure := false
  contextTtl := .ofSecs 7200
  contextCapacity := 1024
  projectClientTtl := .ofSecs 600
  projectClientCapacity := 512
  zoneClientTtl := .ofSecs 86400
  zoneClientCapacity := 64
  timeouts := .default

/-! ## Values of variables -/

/-- The largest number that a variable may hold. -/
def maxNumber : Nat :=
  Nat.pow 2 64 - 1

/-- The number written by decimal digits, of which there has to be one at least. -/
def digitsValue? (digits : List Char) : Option Nat :=
  if digits.isEmpty || !digits.all Char.isDigit then none
  else some (digits.foldl (fun value c => 10 * value + (c.toNat - 48)) 0)

/-- The number in a text: digits with an optional plus sign, and white space around. -/
def number? (s : String) : Option Nat :=
  let digits :=
    match Text.trimChars s.toList with
    | '+' :: rest => rest
    | text => text
  (digitsValue? digits).filter fun n => decide (n ≤ maxNumber)

/-- The words for yes. -/
def yesWords : List String :=
  ["true", "1", "on", "yes"]

/-- The words for no. -/
def noWords : List String :=
  ["false", "0", "off", "no"]

/-- The answer in a text, in any letter case. -/
def flag? (s : String) : Option Bool :=
  let word := String.ofList ((Text.trimChars s.toList).map Text.lowerAscii)
  if yesWords.contains word then some true
  else if noWords.contains word then some false
  else none

/-- The failure of a variable that holds no proper value. -/
def invalidValue (name value : String) : Error :=
  Error.configInvalid (name ++ " has invalid value: " ++ value)

/-! ## The environment -/

/-- What a variable changes. -/
structure Setter where
  name : String
  set : Settings → String → Except Error Settings

/-- A variable with a number. -/
def Setter.number (name : String) (update : Settings → Nat → Settings) : Setter where
  name
  set settings value :=
    match number? value with
    | some n => .ok (update settings n)
    | none => .error (invalidValue name value).withExternal

/-- A variable with a number of seconds. -/
def Setter.seconds (name : String) (update : Settings → Duration → Settings) : Setter :=
  .number name fun settings n => update settings (.ofSecs n)

/-- A variable with a yes or a no. -/
def Setter.flag (name : String) (update : Settings → Bool → Settings) : Setter where
  name
  set settings value :=
    match flag? value with
    | some b => .ok (update settings b)
    | none => .error (invalidValue name value)

/-- The variables in the order in which they are read. -/
def setters : List Setter := [
  .flag "CHEF_INSECURE" fun settings insecure => { settings with insecure },
  .seconds "CHEF_CONTEXT_TTL_SECS" fun settings contextTtl => { settings with contextTtl },
  .number "CHEF_CONTEXT_CAPACITY" fun settings contextCapacity =>
    { settings with contextCapacity },
  .seconds "CHEF_PROJECT_CLIENT_TTL_SECS" fun settings projectClientTtl =>
    { settings with projectClientTtl },
  .number "CHEF_PROJECT_CLIENT_CAPACITY" fun settings projectClientCapacity =>
    { settings with projectClientCapacity },
  .seconds "CHEF_ZONE_CLIENT_TTL_SECS" fun settings zoneClientTtl =>
    { settings with zoneClientTtl },
  .number "CHEF_ZONE_CLIENT_CAPACITY" fun settings zoneClientCapacity =>
    { settings with zoneClientCapacity },
  .seconds "CHEF_CONNECT_TIMEOUT_SECS" fun settings connect =>
    { settings with timeouts := { settings.timeouts with connect } },
  .seconds "CHEF_READ_TIMEOUT_SECS" fun settings read =>
    { settings with timeouts := { settings.timeouts with read } }]

/-- Apply a variable, unless it is missing or blank. -/
def apply (environment : Dict String String) (settings : Settings) (setter : Setter) :
    Except Error Settings :=
  match environment.get? setter.name with
  | none => .ok settings
  | some value => if Text.isBlank value then .ok settings else setter.set settings value

/-- The settings that the environment asks for. -/
def ofEnvironment (environment : Dict String String) : Except Error Settings :=
  setters.foldlM (apply environment) default

end Settings
end ChefAccess
