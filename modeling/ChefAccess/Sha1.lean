/-!
# SHA-1

The digest of paths and bodies.  A message is padded to whole blocks of sixty-four
bytes, each block is expanded to eighty words, and the words are mixed one by one
into a state of five words.

Main definitions:

- {lit}`digest`: the twenty bytes of the digest.

Main results:

- Theorem {lit}`length_pad_mod`: padding fills whole blocks.
- Theorem {lit}`length_digest`: a digest has twenty bytes.
-/

namespace ChefAccess
namespace Sha1

/-- The five words that a digest is made of. -/
structure State where
  a : UInt32
  b : UInt32
  c : UInt32
  d : UInt32
  e : UInt32
  deriving DecidableEq, Repr

/-- The state before the first block. -/
def State.initial : State :=
  ⟨0x67452301, 0xEFCDAB89, 0x98BADCFE, 0x10325476, 0xC3D2E1F0⟩

/-- The sum of two states, word by word. -/
def State.add (s t : State) : State :=
  ⟨s.a + t.a, s.b + t.b, s.c + t.c, s.d + t.d, s.e + t.e⟩

/-- Rotate a word to the left. -/
def rotate (x : UInt32) (n : UInt32) : UInt32 :=
  (x <<< n) ||| (x >>> (32 - n))

/-! ## Padding -/

/-- The bytes of a number, the most significant first. -/
def bigEndian : Nat → Nat → List UInt8
  | 0, _ => []
  | count + 1, n => UInt8.ofNat (n / Nat.pow 256 count) :: bigEndian count n

/-- The message followed by a one bit, zeros up to eight bytes before the end of a
block, and the length of the message in bits. -/
def pad (message : List UInt8) : List UInt8 :=
  message ++ [0x80] ++ List.replicate ((119 - message.length % 64) % 64) 0 ++
    bigEndian 8 (8 * message.length)

/-- A number has the number of bytes that is asked for. -/
@[simp]
theorem length_bigEndian (count n : Nat) : (bigEndian count n).length = count := by
  induction count with
  | zero => rfl
  | succ count ih => simp [bigEndian, ih]

/-- Padding fills whole blocks. -/
theorem length_pad_mod (message : List UInt8) : (pad message).length % 64 = 0 := by
  simp only [pad, List.length_append, List.length_cons, List.length_nil, List.length_replicate,
    length_bigEndian]
  omega

/-- The word of four bytes, the most significant first. -/
def word (p q r s : UInt8) : UInt32 :=
  (p.toUInt32 <<< 24) ||| (q.toUInt32 <<< 16) ||| (r.toUInt32 <<< 8) ||| s.toUInt32

/-- The words of some bytes; an incomplete last word is dropped. -/
def words : List UInt8 → List UInt32
  | p :: q :: r :: s :: rest => word p q r s :: words rest
  | _ => []

/-! ## Mixing -/

/-- The round function of a step. -/
def mix (step : Nat) (b c d : UInt32) : UInt32 :=
  if step < 20 then (b &&& c) ||| (~~~b &&& d)
  else if step < 40 then b ^^^ c ^^^ d
  else if step < 60 then (b &&& c) ||| (b &&& d) ||| (c &&& d)
  else b ^^^ c ^^^ d

/-- The round constant of a step. -/
def constant (step : Nat) : UInt32 :=
  if step < 20 then 0x5A827999
  else if step < 40 then 0x6ED9EBA1
  else if step < 60 then 0x8F1BBCDC
  else 0xCA62C1D6

/-- Mix one word into the state. -/
def State.mixIn (s : State) (step : Nat) (w : UInt32) : State :=
  ⟨rotate s.a 5 + mix step s.b s.c s.d + s.e + constant step + w, s.a, rotate s.b 30, s.c, s.d⟩

/-- The word that follows sixteen others. -/
def nextWord (window : List UInt32) : UInt32 :=
  rotate (window.getD 13 0 ^^^ window.getD 8 0 ^^^ window.getD 2 0 ^^^ window.getD 0 0) 1

/-- Mix in as many words as there are steps left, each taken from the front of a
window of sixteen words that moves along the expansion. -/
def run : Nat → List UInt32 → State → State
  | 0, _, s => s
  | left + 1, window, s =>
    run left (window.drop 1 ++ [nextWord window]) (s.mixIn (79 - left) (window.getD 0 0))

/-- The state after one block, given by its sixteen words. -/
def State.block (s : State) (window : List UInt32) : State :=
  s.add (run 80 window s)

/-- The state after a number of blocks. -/
def blocks : Nat → List UInt32 → State → State
  | 0, _, s => s
  | count + 1, rest, s => blocks count (rest.drop 16) (s.block (rest.take 16))

/-! ## The digest -/

/-- The bytes of a state. -/
def State.bytes (s : State) : List UInt8 :=
  [s.a, s.b, s.c, s.d, s.e].flatMap fun w => bigEndian 4 w.toNat

/-- The digest of a message. -/
def digest (message : List UInt8) : List UInt8 :=
  let padded := words (pad message)
  (blocks (padded.length / 16) padded .initial).bytes

/-- A digest has twenty bytes. -/
theorem length_digest (message : List UInt8) : (digest message).length = 20 := by
  simp [digest, State.bytes, bigEndian]

end Sha1
end ChefAccess
