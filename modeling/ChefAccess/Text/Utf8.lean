/-!
# UTF-8

Bodies arrive and leave as bytes.  Writing a text gives its UTF-8 bytes.  Reading
runs a small automaton over the bytes, which gives one item for each well-formed
sequence and one gap for each maximal malformed one, so that a strict reader and
a lossy one share the same run.

Main definitions:

- {lit}`encode`: the bytes of a text.
- {lit}`decode`: one item per sequence, {lit}`none` for a malformed one.
- {lit}`lossy`: a text in which each malformed sequence is U+FFFD.
- {lit}`firstFault`: where the first malformed sequence starts and how long it is.

Main results:

- Theorem {lit}`encode_append`: texts are written one after the other.
- Theorem {lit}`decodeFrom_start_ascii`: a byte below 128 is read on its own.
-/

namespace ChefAccess
namespace Text
namespace Utf8

/-! ## Writing -/

/-- The bytes of a list of characters. -/
def encodeChars (l : List Char) : List UInt8 :=
  l.flatMap String.utf8EncodeChar

/-- The bytes of a text. -/
def encode (s : String) : List UInt8 :=
  encodeChars s.toList

/-- The number of bytes of a list of characters. -/
def size (l : List Char) : Nat :=
  (encodeChars l).length

/-- The bytes of a text are those of its parts. -/
theorem encode_append (s t : String) : encode (s ++ t) = encode s ++ encode t := by
  rw [encode, String.toList_append, encodeChars, List.flatMap_append]
  rfl

/-- One-byte characters are written in as many bytes. -/
theorem length_encode_of_oneByte {s : String} (hone : ∀ c ∈ s.toList, c.utf8Size = 1) :
    (encode s).length = s.toList.length := by
  rw [encode, encodeChars]
  generalize s.toList = l at hone ⊢
  induction l with
  | nil => rfl
  | cons c rest ih =>
    rw [List.flatMap_cons, List.length_append, String.length_utf8EncodeChar,
      hone c List.mem_cons_self, ih fun d hd => hone d (List.mem_cons_of_mem c hd),
      List.length_cons, Nat.add_comm]

/-! ## The reading automaton -/

/-- Where the reader stands: between sequences, or inside one of which
{lit}`seen` bytes are read and {lit}`needed` are missing.  The next byte has to
lie between {lit}`low` and {lit}`high`. -/
inductive State where
  | start
  | inside (seen needed value low high : Nat)
  deriving DecidableEq, Repr

/-- The reader's answer to the first byte of a sequence. -/
def readFirst (b : UInt8) : List (Option Char) × State :=
  let n := b.toNat
  if n < 0x80 then ([some (Char.ofNat n)], .start)
  else if n < 0xC2 then ([none], .start)
  else if n < 0xE0 then ([], .inside 1 1 (n - 0xC0) 0x80 0xBF)
  else if n = 0xE0 then ([], .inside 1 2 0 0xA0 0xBF)
  else if n = 0xED then ([], .inside 1 2 0xD 0x80 0x9F)
  else if n < 0xF0 then ([], .inside 1 2 (n - 0xE0) 0x80 0xBF)
  else if n = 0xF0 then ([], .inside 1 3 0 0x90 0xBF)
  else if n < 0xF4 then ([], .inside 1 3 (n - 0xF0) 0x80 0xBF)
  else if n = 0xF4 then ([], .inside 1 3 4 0x80 0x8F)
  else ([none], .start)

/-- The reader's answer to one byte.  A byte that cannot continue a sequence
leaves a gap and is read again as a first byte. -/
def step : State → UInt8 → List (Option Char) × State
  | .start, b => readFirst b
  | .inside seen needed value low high, b =>
    let n := b.toNat
    if low ≤ n ∧ n ≤ high then
      let value := value * 64 + (n - 0x80)
      if needed ≤ 1 then ([some (Char.ofNat value)], .start)
      else ([], .inside (seen + 1) (needed - 1) value 0x80 0xBF)
    else
      let next := readFirst b
      (none :: next.1, next.2)

/-- The items read from a given state on. -/
def decodeFrom : State → List UInt8 → List (Option Char)
  | .start, [] => []
  | .inside .., [] => [none]
  | state, b :: rest =>
    let next := step state b
    next.1 ++ decodeFrom next.2 rest

/-- One item for each well-formed sequence and a gap for each malformed one. -/
def decode (bytes : List UInt8) : List (Option Char) :=
  decodeFrom .start bytes

/-- A byte below 128 is read on its own. -/
theorem decodeFrom_start_ascii (b : UInt8) (rest : List UInt8) (hascii : b.toNat < 0x80) :
    decodeFrom .start (b :: rest) = some (Char.ofNat b.toNat) :: decodeFrom .start rest := by
  simp [decodeFrom, step, readFirst, hascii]

/-- The text of some bytes, with U+FFFD for each malformed sequence. -/
def lossy (bytes : List UInt8) : String :=
  String.ofList ((decode bytes).map fun item => item.getD '\uFFFD')

/-- The text of some bytes, if every sequence is well formed. -/
def decode? (bytes : List UInt8) : Option String :=
  ((decode bytes).mapM id).map String.ofList

/-! ## The first malformed sequence -/

/-- A malformed sequence: the index of its first byte and its length, which is
missing when the bytes end inside it. -/
structure Fault where
  index : Nat
  length : Option Nat
  deriving DecidableEq, Repr

/-- The words for a malformed sequence. -/
def Fault.message (fault : Fault) : String :=
  match fault.length with
  | none => "incomplete utf-8 byte sequence from index " ++ toString fault.index
  | some length =>
    "invalid utf-8 sequence of " ++ toString length ++ " bytes from index " ++
      toString fault.index

/-- The first fault met from a given state on, at a given index. -/
def firstFaultFrom : State → Nat → List UInt8 → Option Fault
  | .start, _, [] => none
  | .inside seen .., index, [] => some ⟨index - seen, none⟩
  | .start, index, b :: rest =>
    let next := readFirst b
    if next.1 = [none] then some ⟨index, some 1⟩ else firstFaultFrom next.2 (index + 1) rest
  | .inside seen needed value low high, index, b :: rest =>
    if low ≤ b.toNat ∧ b.toNat ≤ high then
      firstFaultFrom (step (.inside seen needed value low high) b).2 (index + 1) rest
    else some ⟨index - seen, some seen⟩

/-- The first malformed sequence of some bytes. -/
def firstFault (bytes : List UInt8) : Option Fault :=
  firstFaultFrom .start 0 bytes

end Utf8
end Text
end ChefAccess
