import ChefAccess.Proofs.Time.Calendar
import ChefAccess.Time.Timestamp
import Mathlib.Algebra.Group.Nat.Defs

/-!
# Timestamps are read back

Each field of a timestamp is a run of digits with a mark behind it, which no digit is, so that
reading takes the digits of a field and nothing else.  The number of a field is read as it was
written, and the date and the time of day make up the second that they were taken from.

Main results:

- Theorem {lit}`Time.Timestamp.readDigits_append`: digits are read up to a mark.
- Theorem {lit}`Time.Timestamp.readYear_yearChars`: a year is read back.
- Theorem {lit}`Time.Timestamp.parse?_format`: a timestamp is read back as its second.
- Theorem {lit}`Time.Timestamp.wholeSecond_of_format_eq`: each second has a timestamp of its
  own.
-/

namespace ChefAccess
namespace Time
namespace Timestamp

/-! ## Digits -/

/-- No digit stands at the start of a text. -/
def Ended (text : List Char) : Prop :=
  ∀ c ∈ text.head?, isDigit c = false

/-- The marks between the fields are no digits. -/
theorem ended_cons {c : Char} (rest : List Char)
    (hmark : c = '-' ∨ c = 'T' ∨ c = ':' ∨ c = 'Z') : Ended (c :: rest) := by
  rintro d hd
  obtain rfl : c = d := by simpa using hd
  rcases hmark with rfl | rfl | rfl | rfl <;> rfl

/-- A digit is no white space. -/
theorem isSpace_of_isDigit {c : Char} (hdigit : isDigit c = true) : Text.isSpace c = false := by
  simp only [isDigit, Bool.and_eq_true, decide_eq_true_eq] at hdigit
  simp only [Text.isSpace, Bool.or_eq_false_iff, Bool.and_eq_false_iff, decide_eq_false_iff_not,
    beq_eq_false_iff_ne]
  omega

/-- A number is written in digits. -/
theorem isDigit_of_mem_padded {width n : Nat} {c : Char} (hc : c ∈ padded width n) :
    isDigit c = true := by
  rcases List.mem_append.mp hc with hzero | hdigit
  · rw [List.eq_of_mem_replicate hzero]
    rfl
  · have hcore := Nat.isDigit_of_mem_toDigits (by omega) (by omega) hdigit
    simpa [Char.isDigit, isDigit, UInt32.le_iff_toNat_le] using hcore

/-- A number takes a digit at least. -/
theorem padded_ne_nil (width n : Nat) : padded width n ≠ [] :=
  List.append_ne_nil_of_right_ne_nil _ Nat.toDigits_ne_nil

/-- A number that fits takes the digits that it is given. -/
theorem length_padded {width n : Nat} (hwidth : 0 < width) (hn : n < 10 ^ width) :
    (padded width n).length = width := by
  have hlength : (Nat.toDigits 10 n).length ≤ width :=
    (Nat.length_toDigits_le_iff (by omega) hwidth).mpr hn
  rw [padded, List.length_append, List.length_replicate]
  omega

/-- The digits of a number stand for it, and zeros ahead of them do not count. -/
theorem digitsValue_padded (width n : Nat) : digitsValue (padded width n) = n := by
  have hzeros : ∀ count : Nat, digitsValue (List.replicate count '0' ++ Nat.toDigits 10 n) = n := by
    intro count
    induction count with
    | zero => exact Nat.ofDigitChars_ten_toDigits
    | succ count ih => exact ih
  exact hzeros _

/-! ## Fields -/

/-- Digits are read up to a mark. -/
theorem readDigits_append {limit : Nat} {digits rest : List Char}
    (hdigits : ∀ c ∈ digits, isDigit c = true) (hne : digits ≠ [])
    (hlimit : digits.length ≤ limit) (hended : Ended rest) :
    readDigits limit (digits ++ rest) = some (digitsValue digits, rest) := by
  have hrest : (rest.take (limit - digits.length)).takeWhile isDigit = [] := by
    cases rest with
    | nil => simp
    | cons c rest =>
      have hmark : isDigit c = false := hended c rfl
      cases limit - digits.length <;> simp [hmark]
  have hrun : ((digits ++ rest).take limit).takeWhile isDigit = digits := by
    rw [List.take_append, List.take_of_length_le hlimit, List.takeWhile_append_of_pos hdigits,
      hrest, List.append_nil]
  have hempty : digits.isEmpty = false := by simpa using hne
  rw [readDigits, hrun]
  simp [hempty]

/-- No white space stands ahead of digits. -/
theorem dropWhile_isSpace_append {digits : List Char} (rest : List Char)
    (hdigits : ∀ c ∈ digits, isDigit c = true) (hne : digits ≠ []) :
    (digits ++ rest).dropWhile Text.isSpace = digits ++ rest := by
  obtain ⟨c, tail, rfl⟩ := List.exists_cons_of_ne_nil hne
  have hfirst := isSpace_of_isDigit (hdigits c List.mem_cons_self)
  rw [List.cons_append, List.dropWhile_cons, hfirst]
  rfl

/-- A field of two digits is read back. -/
theorem readField_padded {n : Nat} {rest : List Char} (hn : n < 100) (hended : Ended rest) :
    readField (padded 2 n ++ rest) = some (n, rest) := by
  have hdigits : ∀ c ∈ padded 2 n, isDigit c = true := fun _ => isDigit_of_mem_padded
  rw [readField, dropWhile_isSpace_append rest hdigits (padded_ne_nil 2 n),
    readDigits_append hdigits (padded_ne_nil 2 n) (Nat.le_of_eq (length_padded (by omega) hn)) hended,
    digitsValue_padded]

/-- The digits of a year behind a sign are read as far as they go. -/
theorem readDigits_signed (n : Nat) {rest : List Char} (hended : Ended rest) :
    readDigits (padded 4 n ++ rest).length (padded 4 n ++ rest) = some (n, rest) := by
  rw [readDigits_append (fun _ => isDigit_of_mem_padded) (padded_ne_nil 4 n) (by simp) hended,
    digitsValue_padded]

/-- A year behind a minus is read below zero. -/
theorem readYear_minus (text : List Char) :
    readYear ('-' :: text) =
      (readDigits text.length text).map fun r => (-(r.1 : Int), r.2) :=
  rfl

/-- A year behind a plus is read as it stands. -/
theorem readYear_plus (text : List Char) :
    readYear ('+' :: text) =
      (readDigits text.length text).map fun r => ((r.1 : Int), r.2) :=
  rfl

/-- A year is read back, with or without a sign. -/
theorem readYear_yearChars (year : Int) {rest : List Char} (hended : Ended rest) :
    readYear (yearChars year ++ rest) = some (year, rest) := by
  unfold yearChars
  split
  case isTrue hplain =>
    have hdigits : ∀ c ∈ padded 4 year.toNat, isDigit c = true := fun _ => isDigit_of_mem_padded
    have hne := padded_ne_nil 4 year.toNat
    have hlength : (padded 4 year.toNat).length = 4 := length_padded (by omega) (by omega)
    have hself : (year.toNat : Int) = year := by omega
    have hread := readDigits_append hdigits hne (Nat.le_of_eq hlength) hended
    rw [digitsValue_padded] at hread
    unfold readYear
    rw [dropWhile_isSpace_append rest hdigits hne]
    -- the first character is a digit, so it is not taken for a sign
    obtain ⟨c, tail, hcons⟩ := List.exists_cons_of_ne_nil hne
    have hfirst := hdigits c (by simp [hcons])
    rw [hcons] at hread ⊢
    rw [List.cons_append] at hread ⊢
    split
    · rename_i heq
      rw [(List.cons.inj heq).1] at hfirst
      cases hfirst
    · rename_i heq
      rw [(List.cons.inj heq).1] at hfirst
      cases hfirst
    · rw [hread, Option.map_some, hself]
  case isFalse hsigned =>
    by_cases hnegative : year < 0
    · have hself : -(year.natAbs : Int) = year := by omega
      rw [if_pos hnegative, List.cons_append, readYear_minus, readDigits_signed _ hended,
        Option.map_some, hself]
    · have hself : (year.natAbs : Int) = year := by omega
      rw [if_neg hnegative, List.cons_append, readYear_plus, readDigits_signed _ hended,
        Option.map_some, hself]

/-! ## Timestamps -/

/-- The second of a minute that is written. -/
def writtenSecond (t : Instant) : Nat :=
  secondOfDay t % 60 + if t.isLeap then 1 else 0

/-- The fields of a timestamp with the marks between them. -/
theorem formatChars_eq (t : Instant) :
    formatChars t =
      yearChars (dateOf t).year ++ '-' :: (padded 2 (dateOf t).month ++
        '-' :: (padded 2 (dateOf t).day ++ 'T' :: (padded 2 (secondOfDay t / 3600) ++
          ':' :: (padded 2 (secondOfDay t / 60 % 60) ++
            ':' :: (padded 2 (writtenSecond t) ++ ['Z']))))) := by
  simp [formatChars, writtenSecond]

/-- A day has eighty-six thousand and four hundred seconds. -/
theorem secondOfDay_lt (t : Instant) : secondOfDay t < 86400 := by
  rw [secondOfDay]
  omega

/-- A leap second is the last second of a minute. -/
theorem secondOfDay_of_isLeap {t : Instant} (hleap : t.isLeap = true) :
    secondOfDay t % 60 = 59 := by
  have hlast := t.valid.2.2.2 (by simpa [Instant.isLeap] using hleap)
  rw [secondOfDay]
  omega

/-- Seconds are counted to sixty at most. -/
theorem writtenSecond_le (t : Instant) : writtenSecond t ≤ 60 := by
  rw [writtenSecond]
  split <;> omega

/-- A month takes at most thirty-one days. -/
theorem day_lt_of_isValid {date : Date} (hvalid : date.IsValid) : date.day < 100 := by
  obtain ⟨hmonth, htwelve, -, hday⟩ := hvalid
  have hlengths : ∀ leap, ∀ month < 13, monthLength leap month ≤ 31 := by decide
  have hmost := hlengths (isLeapYear date.year) date.month (by omega)
  omega

/-- The fields of a timestamp are read back. -/
theorem parseChars_formatChars (t : Instant) :
    parseChars (formatChars t) =
      assemble (dateOf t) (secondOfDay t / 3600) (secondOfDay t / 60 % 60) (writtenSecond t) := by
  have hvalid := Date.isValid_ofDayNumber (t.seconds / 86400)
  have hmonth : (dateOf t).month < 100 := by
    have htwelve := hvalid.2.1
    exact Nat.lt_of_le_of_lt htwelve (by omega)
  have hday : (dateOf t).day < 100 := day_lt_of_isValid hvalid
  have hseconds := secondOfDay_lt t
  have hsecond := writtenSecond_le t
  rw [formatChars_eq, parseChars]
  simp only [readYear_yearChars _ (ended_cons _ (Or.inl rfl)), Option.bind_eq_bind,
    Option.bind_some, readMark, if_true,
    readField_padded hmonth (ended_cons _ (Or.inl rfl)),
    readField_padded hday (ended_cons _ (Or.inr (Or.inl rfl))),
    readField_padded (show secondOfDay t / 3600 < 100 by omega)
      (ended_cons _ (Or.inr (Or.inr (Or.inl rfl)))),
    readField_padded (show secondOfDay t / 60 % 60 < 100 by omega)
      (ended_cons _ (Or.inr (Or.inr (Or.inl rfl)))),
    readField_padded (show writtenSecond t < 100 by omega)
      (ended_cons _ (Or.inr (Or.inr (Or.inr rfl)))), List.isEmpty_nil]

/-- The date and the time of day of an instant make up its second. -/
theorem assemble_fields (t : Instant) :
    assemble (dateOf t) (secondOfDay t / 3600) (secondOfDay t / 60 % 60) (writtenSecond t) =
      some t.wholeSecond := by
  have hvalid : (dateOf t).IsValid := Date.isValid_ofDayNumber _
  have hdays : (dateOf t).toDayNumber = t.seconds / 86400 := Date.toDayNumber_ofDayNumber _
  have hseconds := secondOfDay_lt t
  have hfields : secondOfDay t / 3600 < 24 ∧ secondOfDay t / 60 % 60 < 60 ∧
      writtenSecond t ≤ 60 := ⟨by omega, by omega, writtenSecond_le t⟩
  have hminute : min (writtenSecond t) 59 = secondOfDay t % 60 := by
    rw [writtenSecond]
    split
    case isTrue hleap =>
      rw [secondOfDay_of_isLeap hleap]
      rfl
    case isFalse => omega
  have hnanos : (if writtenSecond t = 60 then nanosPerSecond else 0) = t.wholeSecond.nanos := by
    rw [writtenSecond, Instant.wholeSecond]
    dsimp only
    split
    case isTrue hleap => rw [secondOfDay_of_isLeap hleap, if_pos rfl]
    case isFalse => exact if_neg (by omega)
  have hinstant : 86400 * (dateOf t).toDayNumber +
      ((3600 * (secondOfDay t / 3600) + 60 * (secondOfDay t / 60 % 60) +
        min (writtenSecond t) 59 : Nat) : Int) = t.wholeSecond.seconds := by
    have hofDay : (secondOfDay t : Int) = t.seconds % 86400 := by
      rw [secondOfDay]
      omega
    rw [hminute, hdays]
    simp only [Instant.wholeSecond]
    omega
  rw [assemble, if_pos ⟨hvalid, hfields⟩, hinstant, hnanos, Instant.ofUnix?]
  exact dif_pos t.wholeSecond.valid

/-- A timestamp is read back as the second that it was written for. -/
theorem parse?_format (t : Instant) : parse? (format t) = some t.wholeSecond := by
  rw [parse?, format, String.toList_ofList, parseChars_formatChars, assemble_fields]

/-- Instants with one timestamp lie in one second. -/
theorem wholeSecond_of_format_eq {t t' : Instant} (hformat : format t = format t') :
    t.wholeSecond = t'.wholeSecond := by
  have hread := parse?_format t
  rw [hformat, parse?_format, Option.some.injEq] at hread
  exact hread.symm

/-- A timestamp is made of digits, signs and marks. -/
theorem isDigit_or_of_mem_format {t : Instant} {c : Char} (hc : c ∈ (format t).toList) :
    isDigit c = true ∨ c = '-' ∨ c = '+' ∨ c = 'T' ∨ c = ':' ∨ c = 'Z' := by
  have hyear : ∀ {year : Int}, c ∈ yearChars year → isDigit c = true ∨ c = '-' ∨ c = '+' := by
    intro year hc
    unfold yearChars at hc
    split at hc
    · exact Or.inl (isDigit_of_mem_padded hc)
    · rcases List.mem_cons.mp hc with hsign | hdigit
      · split at hsign
        · exact Or.inr (Or.inl hsign)
        · exact Or.inr (Or.inr hsign)
      · exact Or.inl (isDigit_of_mem_padded hdigit)
  have hfield : ∀ {width n : Nat}, c ∈ padded width n → isDigit c = true := isDigit_of_mem_padded
  rw [format, String.toList_ofList, formatChars_eq] at hc
  simp only [List.mem_append, List.mem_cons, List.not_mem_nil, or_false] at hc
  rcases hc with hc | hc | hc | hc | hc | hc | hc | hc | hc | hc | hc | hc
  case inl =>
    rcases hyear hc with hc | hc | hc <;> simp [hc]
  all_goals first | exact Or.inl (hfield hc) | simp [hc]

end Timestamp
end Time
end ChefAccess
