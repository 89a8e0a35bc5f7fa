import ChefAccess.Key.Rsa
import ChefAccess.Proofs.Key.Octets
import ChefAccess.Text.Affix

/-!
# Signatures can be checked

Whoever knows the public exponent of a key can undo a signature and finds the padded block
of the signed message.  Signing makes that check itself, so no signature without the
property is ever handed out, whatever the exponents are.

Main definitions:

- {lit}`Rsa.paddedBlock`: a message behind a given amount of padding.
- {lit}`Rsa.Accepts`: the check that the other side makes.

Main results:

- Theorem {lit}`Rsa.powMod_eq`: repeated squaring computes a power.
- Theorem {lit}`Rsa.accepts_of_sign?`: every signature passes the check.
- Theorem {lit}`Rsa.Accepts.message_unique`: a signature passes the check for one message only.
-/

namespace ChefAccess
namespace Key
namespace Rsa

/-! ## Powers -/

/-- Repeated squaring computes a power. -/
theorem powMod_eq (base exponent modulus : Nat) :
    powMod base exponent modulus = base ^ exponent % modulus := by
  fun_induction powMod base exponent modulus with
  | case1 => simp
  | case2 exponent hpos half square hodd ih =>
    have hexp : base ^ exponent = base ^ (exponent / 2) * base ^ (exponent / 2) * base := by
      rw [← Nat.pow_add, ← Nat.pow_succ]
      congr 1
      omega
    rw [hexp]
    simp only [square, half, ih, Nat.mod_mul_mod, Nat.mul_mod_mod]
  | case3 exponent hpos half square heven ih =>
    have hexp : base ^ exponent = base ^ (exponent / 2) * base ^ (exponent / 2) := by
      rw [← Nat.pow_add]
      congr 1
      omega
    rw [hexp]
    simp only [square, half, ih, Nat.mod_mul_mod, Nat.mul_mod_mod]

/-! ## Blocks -/

/-- A message behind two fixed octets, some padding and a zero. -/
def paddedBlock (padding : Nat) (message : List UInt8) : List UInt8 :=
  [0x00, 0x01] ++ List.replicate padding 0xFF ++ [0x00] ++ message

/-- A message is told from its padding, in which there is no zero. -/
theorem eq_of_paddedBlock_eq {padding padding' : Nat} {message message' : List UInt8}
    (hblock : paddedBlock padding message = paddedBlock padding' message') :
    message = message' := by
  have hshape : ∀ padding message, paddedBlock padding message =
      [0x00, 0x01] ++ (List.replicate padding 0xFF ++ 0x00 :: message) := by
    intro padding message
    simp [paddedBlock]
  have hfilled : ∀ padding, (0x00 : UInt8) ∉ List.replicate padding 0xFF := by
    intro padding hzero
    exact absurd (List.eq_of_mem_replicate hzero) (by decide)
  rw [hshape, hshape] at hblock
  exact (Text.eq_of_append_cons_eq (hfilled padding) (hfilled padding')
    (List.append_cancel_left hblock)).2

/-- The block of a message has at least eight octets of padding. -/
theorem exists_padding_of_block? {width : Nat} {message block : List UInt8}
    (hblock : block? width message = some block) :
    ∃ padding, 8 ≤ padding ∧ block = paddedBlock padding message := by
  unfold block? at hblock
  split at hblock
  · exact ⟨width - message.length - 3, by omega, (Option.some.inj hblock).symm⟩
  · simp at hblock

/-- Only a modulus that is not zero has room for a block. -/
theorem modulus_ne_zero_of_block? {key : Rsa} {message block : List UInt8}
    (hblock : block? key.width message = some block) : key.modulus ≠ 0 := by
  intro hzero
  simp [block?, width, hzero, Octets.width, Octets.bitLength] at hblock

/-! ## The check -/

/-- The check that the other side makes: the signature has the width of the modulus, and
the public exponent turns it into a padded block of the message of the same width. -/
structure Accepts (key : Rsa) (message signature : List UInt8) : Prop where
  /-- The signature takes as many octets as the modulus. -/
  modulus_width :
    256 ^ (signature.length - 1) ≤ key.modulus ∧ key.modulus < 256 ^ signature.length
  /-- The signature, raised to the public exponent, is a padded block of the message. -/
  opens : ∃ padding, 8 ≤ padding ∧
    (paddedBlock padding message).length = signature.length ∧
    Octets.toNat signature ^ key.publicExponent % key.modulus =
      Octets.toNat (paddedBlock padding message)

/-- What signing hands out: the width of the modulus in octets, and a number that passed
the check against the block. -/
theorem block_of_sign? {key : Rsa} {message signature : List UInt8}
    (hsign : key.sign? message = some signature) :
    ∃ block, block? key.width message = some block ∧ signature.length = key.width ∧
      Octets.toNat signature ^ key.publicExponent % key.modulus = Octets.toNat block := by
  obtain ⟨block, hblock, hchecked⟩ := Option.bind_eq_some_iff.mp hsign
  dsimp only at hchecked
  split at hchecked
  · rename_i hopens
    refine ⟨block, hblock, ?_, ?_⟩
    · rw [← Option.some.inj hchecked, Octets.length_ofNat]
    · have hpos : 0 < key.modulus := Nat.pos_of_ne_zero (modulus_ne_zero_of_block? hblock)
      have hfits : powMod (Octets.toNat block) key.privateExponent key.modulus <
          256 ^ key.width := by
        rw [powMod_eq]
        exact Nat.lt_trans (Nat.mod_lt _ hpos) (Octets.lt_pow_width key.modulus)
      rw [← Option.some.inj hchecked, Octets.toNat_ofNat_of_lt hfits, ← powMod_eq]
      exact hopens
  · simp at hchecked

/-- Every signature passes the check. -/
theorem accepts_of_sign? {key : Rsa} {message signature : List UInt8}
    (hsign : key.sign? message = some signature) : key.Accepts message signature := by
  obtain ⟨block, hblock, hlength, hopens⟩ := block_of_sign? hsign
  obtain ⟨padding, hpadding, rfl⟩ := exists_padding_of_block? hblock
  constructor
  · rw [hlength]
    exact ⟨Octets.pow_width_le (modulus_ne_zero_of_block? hblock),
      Octets.lt_pow_width key.modulus⟩
  · refine ⟨padding, hpadding, ?_, hopens⟩
    rw [hlength, length_block? hblock]

/-- A signature passes the check for one message only. -/
theorem Accepts.message_unique {key : Rsa} {message message' signature : List UInt8}
    (haccepts : key.Accepts message signature) (haccepts' : key.Accepts message' signature) :
    message = message' := by
  obtain ⟨padding, -, hlength, hopens⟩ := haccepts.opens
  obtain ⟨padding', -, hlength', hopens'⟩ := haccepts'.opens
  exact eq_of_paddedBlock_eq
    (Octets.eq_of_toNat_eq (hlength.trans hlength'.symm) (hopens.symm.trans hopens'))

end Rsa
end Key
end ChefAccess
