import ChefAccess.Settings
import Mathlib.Data.Nat.Digits.Defs
import Mathlib.Data.List.Forall2
import Mathlib.Tactic.Common

/-!
# Settings and their variables

There are nine settings, and each is read from a variable of its own.  A variable that is missing
or blank leaves its setting as it usually is; any other text has to be a number or an answer, as
the setting asks for, and then the setting has what the text means.  The variables are read in one
order, and the first one whose text means nothing is reported.

Main definitions:

- {lit}`Settings.Variable`: the variables, with their names and the order in which they are read.
- {lit}`Settings.Variable.field`: the setting that a variable is for.
- {lit}`Settings.Means`: what a text means.
- {lit}`Settings.Gives`: what a variable gives to its setting.
- {lit}`Settings.FirstFault`: the first variable whose text means nothing.

Main results:

- Theorem {lit}`Settings.number?_eq_some_iff` and {lit}`Settings.flag?_eq_some_iff`: which texts
  are numbers and answers.
- Theorem {lit}`Settings.fills_setters`: each setter reads its own variable, and fills its own
  setting.
- Theorem {lit}`Settings.ofEnvironment_cases`: the settings are filled in, or the first fault is
  reported.
- Theorem {lit}`Settings.environment_law`: which settings an environment asks for.
-/

namespace ChefAccess
namespace Settings

/-! ## Variables -/

/-- The variables that settings are read from. -/
inductive Variable where
  | insecure
  | contextTtl
  | contextCapacity
  | projectClientTtl
  | projectClientCapacity
  | zoneClientTtl
  | zoneClientCapacity
  | connectTimeout
  | readTimeout
  deriving DecidableEq, Repr

/-- What a setting asks for: an answer, a number of things, or a number of seconds. -/
inductive Form where
  | flag
  | count
  | seconds
  deriving DecidableEq, Repr

/-- What a setting has. -/
inductive Value where
  | flag (b : Bool)
  | count (n : Nat)
  | time (d : Duration)
  deriving DecidableEq, Repr

namespace Variable

/-- The name that a variable has in the environment. -/
def name : Variable → String
  | insecure => "CHEF_INSECURE"
  | contextTtl => "CHEF_CONTEXT_TTL_SECS"
  | contextCapacity => "CHEF_CONTEXT_CAPACITY"
  | projectClientTtl => "CHEF_PROJECT_CLIENT_TTL_SECS"
  | projectClientCapacity => "CHEF_PROJECT_CLIENT_CAPACITY"
  | zoneClientTtl => "CHEF_ZONE_CLIENT_TTL_SECS"
  | zoneClientCapacity => "CHEF_ZONE_CLIENT_CAPACITY"
  | connectTimeout => "CHEF_CONNECT_TIMEOUT_SECS"
  | readTimeout => "CHEF_READ_TIMEOUT_SECS"

/-- What the setting of a variable asks for. -/
def form : Variable → Form
  | insecure => .flag
  | contextCapacity | projectClientCapacity | zoneClientCapacity => .count
  | contextTtl | projectClientTtl | zoneClientTtl | connectTimeout | readTimeout => .seconds

/-- The setting that a variable is for. -/
def field (settings : Settings) : Variable → Value
  | insecure => .flag settings.insecure
  | contextTtl => .time settings.contextTtl
  | contextCapacity => .count settings.contextCapacity
  | projectClientTtl => .time settings.projectClientTtl
  | projectClientCapacity => .count settings.projectClientCapacity
  | zoneClientTtl => .time settings.zoneClientTtl
  | zoneClientCapacity => .count settings.zoneClientCapacity
  | connectTimeout => .time settings.timeouts.connect
  | readTimeout => .time settings.timeouts.read

/-- The variables in the order in which they are read. -/
def all : List Variable :=
  [insecure, contextTtl, contextCapacity, projectClientTtl, projectClientCapacity, zoneClientTtl,
    zoneClientCapacity, connectTimeout, readTimeout]

/-- The order has every variable. -/
theorem mem_all (v : Variable) : v ∈ all := by
  cases v <;> decide

/-- What is reported of a variable whose text means nothing.  A text that is no number is blamed
on the rules for numbers. -/
def fault (v : Variable) (text : String) : Error :=
  let report := Error.configInvalid (v.name ++ " has invalid value: " ++ text)
  if v.form = .flag then report else report.withExternal

end Variable

/-- Settings are equal if they are the same for each variable. -/
theorem ext_field {settings settings' : Settings}
    (hfields : ∀ v : Variable, v.field settings = v.field settings') : settings = settings' := by
  obtain ⟨insecure, contextTtl, contextCapacity, projectTtl, projectCapacity, zoneTtl,
    zoneCapacity, ⟨connect, read⟩⟩ := settings
  obtain rfl := Value.flag.inj (hfields .insecure)
  obtain rfl := Value.time.inj (hfields .contextTtl)
  obtain rfl := Value.count.inj (hfields .contextCapacity)
  obtain rfl := Value.time.inj (hfields .projectClientTtl)
  obtain rfl := Value.count.inj (hfields .projectClientCapacity)
  obtain rfl := Value.time.inj (hfields .zoneClientTtl)
  obtain rfl := Value.count.inj (hfields .zoneClientCapacity)
  obtain rfl := Value.time.inj (hfields .connectTimeout)
  obtain rfl := Value.time.inj (hfields .readTimeout)
  rfl

/-! ## Texts -/

variable {text : String} {digits : List Char} {n : Nat} {b : Bool}

/-- The decimal digits of a number, with any number of zeros ahead of them. -/
structure IsDecimal (digits : List Char) (n : Nat) : Prop where
  ne_nil : digits ≠ []
  digit : ∀ c ∈ digits, c.isDigit = true
  value : Nat.ofDigits 10 (digits.reverse.map fun c => c.toNat - '0'.toNat) = n

/-- A number of 64 bits: decimal digits with at most a plus sign ahead of them, and white space
around. -/
structure IsNumber (text : String) (n : Nat) : Prop where
  decimal : ∃ digits, IsDecimal digits n ∧
    ((Text.trim text).toList = digits ∨ (Text.trim text).toList = '+' :: digits)
  small : n < 2 ^ 64

/-- A word for yes or no in any letter case, with white space around. -/
def IsAnswer (text : String) (b : Bool) : Prop :=
  ∃ word ∈ (if b then ["true", "1", "on", "yes"] else ["false", "0", "off", "no"]),
    (Text.trim text).toList.map Text.lowerAscii = word.toList

/-- What a text means, as a setting asks for it. -/
def Means : Form → String → Value → Prop
  | .flag, text, value => ∃ b, IsAnswer text b ∧ value = .flag b
  | .count, text, value => ∃ n, IsNumber text n ∧ value = .count n
  | .seconds, text, value => ∃ n, IsNumber text n ∧ value = .time (.ofSecs n)

/-- The digits of a number are added up from the first to the last. -/
theorem foldl_eq_ofDigits (digits : List Char) :
    digits.foldl (fun value c => 10 * value + (c.toNat - 48)) 0 =
      Nat.ofDigits 10 (digits.reverse.map fun c => c.toNat - '0'.toNat) := by
  rw [← List.foldr_reverse, Nat.ofDigits_eq_foldr, List.foldr_map]
  congr
  funext c value
  exact Nat.add_comm _ _

/-- Decimal digits are read as the number that they stand for. -/
theorem digitsValue?_eq_some_iff : digitsValue? digits = some n ↔ IsDecimal digits n := by
  unfold digitsValue?
  rw [foldl_eq_ofDigits]
  split
  case isTrue hbad =>
    rw [Bool.or_eq_true, List.isEmpty_iff, Bool.not_eq_true', List.all_eq_false] at hbad
    refine ⟨nofun, fun hdecimal => ?_⟩
    rcases hbad with hnil | ⟨c, hc, hnot⟩
    · exact absurd hnil hdecimal.ne_nil
    · exact absurd (hdecimal.digit c hc) hnot
  case isFalse hgood =>
    rw [Bool.or_eq_true, not_or, List.isEmpty_iff, Bool.not_eq_true', Bool.not_eq_false,
      List.all_eq_true] at hgood
    rw [Option.some.injEq]
    exact ⟨fun hvalue => ⟨hgood.1, hgood.2, hvalue⟩, fun hdecimal => hdecimal.value⟩

/-- A plus sign is no digit. -/
theorem IsDecimal.ne_plus {rest : List Char} (hdecimal : IsDecimal digits n) :
    digits ≠ '+' :: rest := by
  rintro rfl
  exact absurd (hdecimal.digit '+' List.mem_cons_self) (by decide)

/-- A text is read as the number that is written there. -/
theorem number?_eq_some_iff : number? text = some n ↔ IsNumber text n := by
  have htrim : (Text.trim text).toList = Text.trimChars text.toList := by
    rw [Text.trim, String.toList_ofList]
  have hsmall : n ≤ maxNumber ↔ n < 2 ^ 64 := by
    norm_num [maxNumber]
    omega
  unfold number?
  rw [Option.filter_eq_some_iff, decide_eq_true_iff, hsmall, digitsValue?_eq_some_iff]
  constructor
  · rintro ⟨hdecimal, hn⟩
    refine ⟨⟨_, hdecimal, ?_⟩, hn⟩
    rw [htrim]
    split
    case h_1 rest hplus => exact Or.inr hplus
    case h_2 => exact Or.inl rfl
  · rintro ⟨⟨digits, hdecimal, hwritten⟩, hn⟩
    rw [htrim] at hwritten
    refine ⟨?_, hn⟩
    rcases hwritten with hplain | hplus
    · rw [hplain]
      split
      case h_1 => exact absurd rfl hdecimal.ne_plus
      case h_2 => exact hdecimal
    · rw [hplus]
      exact hdecimal

/-- Letters are one of some words exactly if they spell it. -/
theorem contains_ofList_iff {words : List String} {letters : List Char} :
    words.contains (String.ofList letters) = true ↔ ∃ word ∈ words, letters = word.toList := by
  rw [List.contains_iff_mem]
  constructor
  · intro hmem
    exact ⟨_, hmem, String.toList_ofList.symm⟩
  · rintro ⟨word, hmem, rfl⟩
    rwa [String.ofList_toList]

/-- No word for no is a word for yes. -/
theorem not_contains_yesWords {word : String} (hno : word ∈ noWords) :
    yesWords.contains word = false := by
  revert word
  decide

/-- A text is read as the answer that is written there. -/
theorem flag?_eq_some_iff : flag? text = some b ↔ IsAnswer text b := by
  unfold flag? IsAnswer
  rw [Text.trim, String.toList_ofList]
  dsimp only
  generalize (Text.trimChars text.toList).map Text.lowerAscii = letters
  cases b with
  | true =>
    rw [if_pos rfl, ← contains_ofList_iff]
    change _ ↔ yesWords.contains _ = true
    split
    case isTrue hyes => exact ⟨fun _ => hyes, fun _ => rfl⟩
    case isFalse hyes =>
      refine ⟨fun hsome => ?_, fun hcontains => absurd hcontains hyes⟩
      split at hsome <;> cases hsome
  | false =>
    rw [if_neg Bool.false_ne_true, ← contains_ofList_iff]
    change _ ↔ noWords.contains _ = true
    split
    case isTrue hyes =>
      refine ⟨nofun, fun hno => ?_⟩
      rw [not_contains_yesWords (List.contains_iff_mem.mp hno)] at hyes
      cases hyes
    case isFalse =>
      split
      case isTrue hno => exact ⟨fun _ => hno, fun _ => rfl⟩
      case isFalse hno => exact ⟨nofun, fun hcontains => absurd hcontains hno⟩

/-! ## Setters -/

section Setters

variable {v : Variable} {value : Value} {settings filled : Settings} {setter : Setter}
  {environment : Dict String String}

/-- One setting is filled in, and the others stay as they are. -/
structure Puts (v : Variable) (value : Value) (settings filled : Settings) : Prop where
  field : v.field filled = value
  others : ∀ u, u ≠ v → u.field filled = u.field settings

/-- A setter reads a variable: it puts what a text means into the setting of the variable, and
reports the variable if the text means nothing. -/
structure Fills (v : Variable) (setter : Setter) : Prop where
  name : setter.name = v.name
  taken : ∀ {text value} settings, Means v.form text value →
    ∃ filled, setter.set settings text = .ok filled ∧ Puts v value settings filled
  refused : ∀ {text} settings, (∀ value, ¬ Means v.form text value) →
    setter.set settings text = .error (v.fault text)

/-- A setter for an answer. -/
theorem fills_flag {update : Settings → Bool → Settings} (hform : v.form = .flag)
    (hputs : ∀ settings b, Puts v (.flag b) settings (update settings b)) :
    Fills v (.flag v.name update) where
  name := rfl
  taken {text value} settings hmeans := by
    rw [hform] at hmeans
    obtain ⟨b, hanswer, rfl⟩ := hmeans
    refine ⟨update settings b, ?_, hputs settings b⟩
    rw [Setter.flag]
    dsimp only
    rw [flag?_eq_some_iff.mpr hanswer]
  refused {text} settings hnone := by
    have hflag : flag? text = none := Option.eq_none_iff_forall_ne_some.mpr fun b hb =>
      hnone (.flag b) (hform ▸ ⟨b, flag?_eq_some_iff.mp hb, rfl⟩)
    rw [Setter.flag]
    dsimp only
    rw [hflag, Variable.fault, hform]
    rfl

/-- A setter for a number, whatever it is a number of. -/
theorem fills_number {make : Nat → Value} {update : Settings → Nat → Settings}
    (hform : v.form ≠ .flag)
    (hmeans : ∀ text value, Means v.form text value ↔ ∃ n, IsNumber text n ∧ value = make n)
    (hputs : ∀ settings n, Puts v (make n) settings (update settings n)) :
    Fills v (.number v.name update) where
  name := rfl
  taken {text value} settings htext := by
    obtain ⟨n, hnumber, rfl⟩ := (hmeans text value).mp htext
    refine ⟨update settings n, ?_, hputs settings n⟩
    rw [Setter.number]
    dsimp only
    rw [number?_eq_some_iff.mpr hnumber]
  refused {text} settings hnone := by
    have hnumber : number? text = none := Option.eq_none_iff_forall_ne_some.mpr fun n hn =>
      hnone (make n) ((hmeans text _).mpr ⟨n, number?_eq_some_iff.mp hn, rfl⟩)
    rw [Setter.number]
    dsimp only
    rw [hnumber, Variable.fault, if_neg hform, invalidValue]

/-- A setter for a number of things. -/
theorem fills_count {update : Settings → Nat → Settings} (hform : v.form = .count)
    (hputs : ∀ settings n, Puts v (.count n) settings (update settings n)) :
    Fills v (.number v.name update) :=
  fills_number (by rw [hform]; decide) (fun _ _ => hform ▸ Iff.rfl) hputs

/-- A setter for a number of seconds. -/
theorem fills_seconds {update : Settings → Duration → Settings} (hform : v.form = .seconds)
    (hputs : ∀ settings d, Puts v (.time d) settings (update settings d)) :
    Fills v (.seconds v.name update) :=
  fills_number (by rw [hform]; decide) (fun _ _ => hform ▸ Iff.rfl) fun settings n =>
    hputs settings (.ofSecs n)

/-- Each setter reads a variable of its own and fills in the setting of that variable alone. -/
theorem fills_setters : List.Forall₂ Fills Variable.all setters := by
  refine .cons (fills_flag rfl ?_) <| .cons (fills_seconds rfl ?_) <|
    .cons (fills_count rfl ?_) <| .cons (fills_seconds rfl ?_) <| .cons (fills_count rfl ?_) <|
    .cons (fills_seconds rfl ?_) <| .cons (fills_count rfl ?_) <| .cons (fills_seconds rfl ?_) <|
    .cons (fills_seconds rfl ?_) .nil
  all_goals
    refine fun settings value => ⟨rfl, fun u hu => ?_⟩
    cases u <;> first | rfl | exact absurd rfl hu

/-! ## The environment -/

/-- A variable is missing or blank. -/
def Idle (environment : Dict String String) (v : Variable) : Prop :=
  ∀ text, environment.get? v.name = some text → Text.isBlank text = true

/-- A variable has a text that is not blank and means nothing. -/
structure Refuses (environment : Dict String String) (v : Variable) (text : String) : Prop where
  held : environment.get? v.name = some text
  not_isBlank : Text.isBlank text = false
  meaningless : ∀ value, ¬ Means v.form text value

/-- A variable is missing or blank, or its text means something. -/
def Accepts (environment : Dict String String) (v : Variable) : Prop :=
  Idle environment v ∨
    ∃ text value, environment.get? v.name = some text ∧ Means v.form text value

/-- What a variable gives to its setting: the usual value if it is missing or blank, and what its
text means otherwise. -/
def Gives (environment : Dict String String) (v : Variable) (usual value : Value) : Prop :=
  Idle environment v ∧ value = usual ∨
    ∃ text, environment.get? v.name = some text ∧ Means v.form text value

/-- What gives something to a setting is accepted. -/
theorem Gives.accepts {usual : Value} (hgives : Gives environment v usual value) :
    Accepts environment v :=
  hgives.imp (fun hidle => hidle.1) fun ⟨text, hheld, hmeans⟩ => ⟨text, value, hheld, hmeans⟩

/-- A variable gives its setting a value, or it is reported. -/
theorem apply_cases (hfills : Fills v setter) (environment : Dict String String)
    (settings : Settings) :
    (∃ filled, apply environment settings setter = .ok filled ∧
      Gives environment v (v.field settings) (v.field filled) ∧
      ∀ u, u ≠ v → u.field filled = u.field settings) ∨
    ∃ text, Refuses environment v text ∧
      apply environment settings setter = .error (v.fault text) := by
  cases hheld : environment.get? v.name with
  | none =>
    have hidle : Idle environment v := fun text htext => by
      rw [hheld] at htext
      cases htext
    refine Or.inl ⟨settings, ?_, Or.inl ⟨hidle, rfl⟩, fun _ _ => rfl⟩
    rw [apply, hfills.name, hheld]
  | some text =>
    cases hblank : Text.isBlank text with
    | true =>
      have hidle : Idle environment v := fun other hother => by
        rw [hheld] at hother
        rwa [← Option.some.inj hother]
      refine Or.inl ⟨settings, ?_, Or.inl ⟨hidle, rfl⟩, fun _ _ => rfl⟩
      simp only [apply, hfills.name, hheld, hblank, if_true]
    | false =>
      have hset : apply environment settings setter = setter.set settings text := by
        simp only [apply, hfills.name, hheld, hblank, Bool.false_eq_true, if_false]
      by_cases hmeans : ∃ value, Means v.form text value
      · obtain ⟨value, hmeans⟩ := hmeans
        obtain ⟨filled, hfilled, hputs⟩ := hfills.taken settings hmeans
        exact Or.inl ⟨filled, hset.trans hfilled, Or.inr ⟨text, hheld, hputs.field ▸ hmeans⟩,
          hputs.others⟩
      · have hnone : ∀ value, ¬ Means v.form text value := not_exists.mp hmeans
        exact Or.inr ⟨text, ⟨hheld, hblank, hnone⟩, hset.trans (hfills.refused settings hnone)⟩

/-- The settings of different variables are filled in one after the other, up to the first
variable whose text means nothing. -/
theorem foldlM_cases {order : List Variable} {steps : List Setter}
    (hfills : List.Forall₂ Fills order steps) (hdistinct : order.Nodup)
    (environment : Dict String String) (settings : Settings) :
    (∃ filled, steps.foldlM (apply environment) settings = .ok filled ∧
      (∀ v ∈ order, Gives environment v (v.field settings) (v.field filled)) ∧
      ∀ v, v ∉ order → v.field filled = v.field settings) ∨
    ∃ earlier v later text, order = earlier ++ v :: later ∧
      (∀ u ∈ earlier, Accepts environment u) ∧ Refuses environment v text ∧
      steps.foldlM (apply environment) settings = .error (v.fault text) := by
  induction hfills generalizing settings with
  | nil => exact Or.inl ⟨settings, rfl, by simp, by simp⟩
  | @cons v setter order steps hfirst hrest ih =>
    obtain ⟨hnew, hdistinct⟩ := List.nodup_cons.mp hdistinct
    rw [List.foldlM_cons]
    rcases apply_cases hfirst environment settings with
      ⟨next, hnext, hgives, hothers⟩ | ⟨text, hrefuses, herror⟩
    · rw [hnext]
      rcases ih hdistinct next with
        ⟨filled, hfilled, hgiven, hkept⟩ |
        ⟨earlier, u, later, text, rfl, haccepts, hrefuses, herror⟩
      · refine Or.inl ⟨filled, hfilled, List.forall_mem_cons.mpr ⟨?_, fun u hu => ?_⟩,
          fun u hu => ?_⟩
        · rwa [hkept v hnew]
        · -- the variables that follow are others, so they find their settings as they were
          have hne : u ≠ v := fun heq => hnew (heq ▸ hu)
          rw [← hothers u hne]
          exact hgiven u hu
        · rw [List.mem_cons, not_or] at hu
          rw [hkept u hu.2, hothers u hu.1]
      · exact Or.inr ⟨v :: earlier, u, later, text, rfl,
          List.forall_mem_cons.mpr ⟨hgives.accepts, haccepts⟩, hrefuses, herror⟩
    · refine Or.inr ⟨[], v, order, text, rfl, by simp, hrefuses, ?_⟩
      rw [herror]
      rfl

/-- A variable whose text means nothing is not accepted. -/
theorem Refuses.not_accepts (hrefuses : Refuses environment v text) :
    ¬ Accepts environment v := by
  rintro (hidle | ⟨other, value, hheld, hmeans⟩)
  · have hblank := hidle text hrefuses.held
    rw [hrefuses.not_isBlank] at hblank
    cases hblank
  · rw [hrefuses.held, Option.some.injEq] at hheld
    exact hrefuses.meaningless value (hheld ▸ hmeans)

/-- A blank text means nothing. -/
theorem not_means_of_isBlank {form : Form} (hblank : Text.isBlank text = true) :
    ¬ Means form text value := by
  have hnil : (Text.trim text).toList = [] := by
    rw [(Text.isBlank_iff_trim_eq text).mp hblank, String.toList_empty]
  have hnumber : ∀ n, ¬ IsNumber text n := fun n hnumber => by
    obtain ⟨digits, hdecimal, hplain | hplus⟩ := hnumber.decimal
    · exact hdecimal.ne_nil (hplain.symm.trans hnil)
    · rw [hnil] at hplus
      cases hplus
  cases form with
  | flag =>
    rintro ⟨b, ⟨word, hword, hspelled⟩, -⟩
    rw [hnil] at hspelled
    revert hspelled
    revert word
    cases b <;> decide
  | count => exact fun ⟨n, hn, _⟩ => hnumber n hn
  | seconds => exact fun ⟨n, hn, _⟩ => hnumber n hn

/-- A text means one thing at most. -/
theorem Means.unique {form : Form} {value' : Value} (hmeans : Means form text value)
    (hmeans' : Means form text value') : value = value' := by
  have hnumbers : ∀ {n n'}, IsNumber text n → IsNumber text n' → n = n' := fun hn hn' =>
    Option.some.inj ((number?_eq_some_iff.mpr hn).symm.trans (number?_eq_some_iff.mpr hn'))
  cases form with
  | flag =>
    obtain ⟨b, hb, rfl⟩ := hmeans
    obtain ⟨b', hb', rfl⟩ := hmeans'
    rw [flag?_eq_some_iff.symm] at hb hb'
    rw [Option.some.inj (hb.symm.trans hb')]
  | count =>
    obtain ⟨n, hn, rfl⟩ := hmeans
    obtain ⟨n', hn', rfl⟩ := hmeans'
    rw [hnumbers hn hn']
  | seconds =>
    obtain ⟨n, hn, rfl⟩ := hmeans
    obtain ⟨n', hn', rfl⟩ := hmeans'
    rw [hnumbers hn hn']

/-- A variable gives one value to its setting. -/
theorem Gives.unique {usual value' : Value} (hgives : Gives environment v usual value)
    (hgives' : Gives environment v usual value') : value = value' := by
  rcases hgives with ⟨hidle, rfl⟩ | ⟨text, hheld, hmeans⟩
  · rcases hgives' with ⟨-, rfl⟩ | ⟨text, hheld, hmeans⟩
    · rfl
    · exact absurd hmeans (not_means_of_isBlank (hidle text hheld))
  · rcases hgives' with ⟨hidle, -⟩ | ⟨text', hheld', hmeans'⟩
    · exact absurd hmeans (not_means_of_isBlank (hidle text hheld))
    · rw [hheld, Option.some.injEq] at hheld'
      exact hmeans.unique (hheld' ▸ hmeans')

/-- Whether a variable is accepted is a matter of its own text. -/
theorem Accepts.of_get?_eq {environment' : Dict String String}
    (hsame : environment'.get? v.name = environment.get? v.name)
    (haccepts : Accepts environment v) : Accepts environment' v := by
  simpa only [Accepts, Idle, hsame] using haccepts

/-- What a variable gives is a matter of its own text. -/
theorem Gives.of_get?_eq {environment' : Dict String String} {usual : Value}
    (hsame : environment'.get? v.name = environment.get? v.name)
    (hgives : Gives environment v usual value) : Gives environment' v usual value := by
  simpa only [Gives, Idle, hsame] using hgives

/-! ## Faults -/

/-- The first variable whose text means nothing, with the variables that are read before it. -/
structure FirstFault (environment : Dict String String) (earlier : List Variable) (v : Variable)
    (text : String) : Prop where
  order : ∃ later, Variable.all = earlier ++ v :: later
  accepted : ∀ u ∈ earlier, Accepts environment u
  refused : Refuses environment v text

/-- The settings are filled in, or the first fault is reported. -/
theorem ofEnvironment_cases (environment : Dict String String) :
    (∃ settings, ofEnvironment environment = .ok settings ∧
      ∀ v : Variable, Gives environment v (v.field .default) (v.field settings)) ∨
    ∃ earlier v text, FirstFault environment earlier v text ∧
      ofEnvironment environment = .error (v.fault text) := by
  rcases foldlM_cases fills_setters (by decide) environment .default with
    ⟨settings, hsettings, hgives, -⟩ |
    ⟨earlier, v, later, text, horder, haccepted, hrefused, herror⟩
  · exact Or.inl ⟨settings, hsettings, fun v => hgives v v.mem_all⟩
  · exact Or.inr ⟨earlier, v, text, ⟨⟨later, horder⟩, haccepted, hrefused⟩, herror⟩

variable {earlier : List Variable}

/-- There is one first fault at most. -/
theorem FirstFault.unique {earlier' : List Variable} {v' : Variable} {text' : String}
    (hfault : FirstFault environment earlier v text)
    (hfault' : FirstFault environment earlier' v' text') : v = v' ∧ text = text' := by
  obtain ⟨later, horder⟩ := hfault.order
  obtain ⟨later', horder'⟩ := hfault'.order
  have hsame : v = v' := by
    -- otherwise one of the two is read before the other, and accepted
    rcases List.append_eq_append_iff.mp (horder.symm.trans horder') with
      ⟨between, hearlier, hlater⟩ | ⟨between, hearlier, hlater⟩
    · rcases List.cons_eq_append_iff.mp hlater with ⟨-, hlater⟩ | ⟨rest, rfl, -⟩
      · exact (List.cons.inj hlater).1.symm
      · exact absurd (hfault'.accepted v (by simp [hearlier])) hfault.refused.not_accepts
    · rcases List.cons_eq_append_iff.mp hlater with ⟨-, hlater⟩ | ⟨rest, rfl, -⟩
      · exact (List.cons.inj hlater).1
      · exact absurd (hfault.accepted v' (by simp [hearlier])) hfault'.refused.not_accepts
  subst hsame
  exact ⟨rfl, Option.some.inj (hfault.refused.held.symm.trans hfault'.refused.held)⟩

/-- The first fault is reported. -/
theorem FirstFault.ofEnvironment_eq (hfault : FirstFault environment earlier v text) :
    ofEnvironment environment = .error (v.fault text) := by
  rcases ofEnvironment_cases environment with
    ⟨settings, -, hgives⟩ | ⟨earlier', v', text', hfault', herror⟩
  · exact absurd (hgives v).accepts hfault.refused.not_accepts
  · obtain ⟨rfl, rfl⟩ := hfault.unique hfault'
    exact herror

/-- A first fault stays one, whatever becomes of the variables behind it. -/
theorem FirstFault.of_get?_eq {environment' : Dict String String}
    (hfault : FirstFault environment earlier v text)
    (hsame : ∀ u ∈ v :: earlier, environment'.get? u.name = environment.get? u.name) :
    FirstFault environment' earlier v text := by
  obtain ⟨hfirst, hearlier⟩ := List.forall_mem_cons.mp hsame
  exact ⟨hfault.order, fun u hu => (hfault.accepted u hu).of_get?_eq (hearlier u hu),
    hfirst.trans hfault.refused.held, hfault.refused.not_isBlank, hfault.refused.meaningless⟩

/-- The settings are what the variables give. -/
theorem ofEnvironment_eq_ok_iff :
    ofEnvironment environment = .ok settings ↔
      ∀ v : Variable, Gives environment v (v.field .default) (v.field settings) := by
  rcases ofEnvironment_cases environment with
    ⟨filled, hfilled, hgiven⟩ | ⟨earlier, v, text, hfault, herror⟩
  · rw [hfilled, Except.ok.injEq]
    constructor
    · rintro rfl
      exact hgiven
    · exact fun hgives => ext_field fun v => (hgiven v).unique (hgives v)
  · rw [herror]
    exact ⟨nofun, fun hgives => absurd (hgives v).accepts hfault.refused.not_accepts⟩

/-- There are settings exactly if every variable is accepted. -/
theorem exists_ofEnvironment_eq_ok_iff :
    (∃ settings, ofEnvironment environment = .ok settings) ↔ ∀ v, Accepts environment v := by
  constructor
  · rintro ⟨settings, hsettings⟩ v
    exact (ofEnvironment_eq_ok_iff.mp hsettings v).accepts
  · intro haccepts
    rcases ofEnvironment_cases environment with
      ⟨settings, hsettings, -⟩ | ⟨earlier, v, text, hfault, -⟩
    · exact ⟨settings, hsettings⟩
    · exact absurd (haccepts v) hfault.refused.not_accepts

/-- What is reported is the first fault. -/
theorem ofEnvironment_eq_error_iff {e : Error} :
    ofEnvironment environment = .error e ↔
      ∃ earlier v text, FirstFault environment earlier v text ∧ e = v.fault text := by
  constructor
  · intro herror
    rcases ofEnvironment_cases environment with
      ⟨settings, hsettings, -⟩ | ⟨earlier, v, text, hfault, hreported⟩
    · rw [hsettings] at herror
      cases herror
    · rw [hreported, Except.error.injEq] at herror
      exact ⟨earlier, v, text, hfault, herror.symm⟩
  · rintro ⟨earlier, v, text, hfault, rfl⟩
    exact hfault.ofEnvironment_eq

end Setters

/-- An environment is taken for settings exactly if each variable is missing or blank or has a text
that means something.  Then each setting has what its own variable gives to it, whatever the other
variables have.  Otherwise the first variable is reported whose text means nothing, with that text,
whatever the variables behind it have. -/
theorem environment_law (environment : Dict String String) :
    ((∃ settings, ofEnvironment environment = .ok settings) ↔ ∀ v, Accepts environment v) ∧
    (∀ settings, ofEnvironment environment = .ok settings ↔
      ∀ v : Variable, Gives environment v (v.field .default) (v.field settings)) ∧
    (∀ environment' settings settings', ofEnvironment environment = .ok settings →
      ofEnvironment environment' = .ok settings' →
      ∀ v : Variable, environment'.get? v.name = environment.get? v.name →
        v.field settings' = v.field settings) ∧
    (∀ e, ofEnvironment environment = .error e ↔
      ∃ earlier v text, FirstFault environment earlier v text ∧ e = v.fault text) ∧
    (∀ (v : Variable) (text : String), (v.fault text).kind = .configInvalid ∧
      (v.fault text).report.message = v.name ++ " has invalid value: " ++ text) ∧
    ∀ environment' earlier v text, FirstFault environment earlier v text →
      (∀ u ∈ v :: earlier, environment'.get? u.name = environment.get? u.name) →
      ofEnvironment environment' = .error (v.fault text) := by
  refine ⟨exists_ofEnvironment_eq_ok_iff, fun _ => ofEnvironment_eq_ok_iff, ?_,
    fun _ => ofEnvironment_eq_error_iff, fun v text => ?_, ?_⟩
  · intro environment' settings settings' hsettings hsettings' v hsame
    have hgives := ofEnvironment_eq_ok_iff.mp hsettings v
    exact (ofEnvironment_eq_ok_iff.mp hsettings' v).unique (hgives.of_get?_eq hsame)
  · cases v <;> exact ⟨rfl, rfl⟩
  · exact fun environment' earlier v text hfault hsame =>
      (hfault.of_get?_eq hsame).ofEnvironment_eq

/-- An environment with an answer in capital letters, the largest number there is, and a blank
variable. -/
def soundEnvironment : Dict String String :=
  .ofList [("CHEF_INSECURE", " ON "), ("CHEF_CONTEXT_TTL_SECS", "+18446744073709551615"),
    ("CHEF_CONTEXT_CAPACITY", " ")]

/-- The settings that this environment asks for. -/
def soundSettings : Settings :=
  { default with insecure := true, contextTtl := .ofSecs 18446744073709551615 }

/-- The same environment with two faults: a number beyond the largest, and a text that is none. -/
def faultyEnvironment : Dict String String :=
  (soundEnvironment.insert "CHEF_ZONE_CLIENT_CAPACITY" " 18446744073709551616").insert
    "CHEF_READ_TIMEOUT_SECS" "soon"

/-- The environment without faults is taken. -/
theorem ofEnvironment_soundEnvironment : ofEnvironment soundEnvironment = .ok soundSettings :=
  rfl

/-- The variables that are read before the first fault. -/
def beforeFault : List Variable :=
  [.insecure, .contextTtl, .contextCapacity, .projectClientTtl, .projectClientCapacity,
    .zoneClientTtl]

/-- The number beyond the largest is the first fault. -/
theorem firstFault_faulty :
    FirstFault faultyEnvironment beforeFault .zoneClientCapacity " 18446744073709551616" where
  order := ⟨[.connectTimeout, .readTimeout], rfl⟩
  accepted u hu := by
    have hsame : ∀ u ∈ beforeFault,
        faultyEnvironment.get? u.name = soundEnvironment.get? u.name := by decide
    have haccepts := exists_ofEnvironment_eq_ok_iff.mp ⟨_, ofEnvironment_soundEnvironment⟩ u
    exact haccepts.of_get?_eq (hsame u hu)
  refused := by
    refine ⟨rfl, by decide, ?_⟩
    rintro value ⟨n, hnumber, -⟩
    rw [← number?_eq_some_iff] at hnumber
    cases hnumber

/-- One more variable leaves the other settings alone, and of two faults the first one is reported,
whatever becomes of the second. -/
theorem environment_law_faulty :
    (∃ settings, ofEnvironment (soundEnvironment.insert "CHEF_READ_TIMEOUT_SECS" "7") =
        .ok settings ∧ Variable.contextTtl.field settings =
          Variable.contextTtl.field soundSettings) ∧
      ofEnvironment (faultyEnvironment.insert "CHEF_READ_TIMEOUT_SECS" "7") =
        .error (Variable.zoneClientCapacity.fault " 18446744073709551616") := by
  obtain ⟨-, -, hown, -, -, -⟩ := environment_law soundEnvironment
  obtain ⟨-, -, -, -, -, hfirst⟩ := environment_law faultyEnvironment
  have hlater : ofEnvironment (soundEnvironment.insert "CHEF_READ_TIMEOUT_SECS" "7") =
      .ok { soundSettings with timeouts := ⟨soundSettings.timeouts.connect, .ofSecs 7⟩ } := rfl
  exact ⟨⟨_, hlater, hown _ _ _ ofEnvironment_soundEnvironment hlater .contextTtl rfl⟩,
    hfirst _ beforeFault _ _ firstFault_faulty (by decide)⟩

end Settings
end ChefAccess
