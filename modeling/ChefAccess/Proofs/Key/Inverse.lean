import ChefAccess.Proofs.Key.Signature
import Mathlib.FieldTheory.Finite.Basic

/-!
# Keys whose exponents undo each other

If the private exponent of a key undoes the public one, the key signs every message that fits:
the padded block of a message is below the modulus, so the check that signing makes cannot
fail.  Whether there is a signature, and how long it is, then depends on the widths of the
message and of the modulus alone.

Main definitions:

- {lit}`Rsa.Inverts`: the private exponent of a key undoes the public one.

Main results:

- Theorem {lit}`Rsa.inverts_of_fit`: a key file with two different primes holds such a key.
- Theorem {lit}`Rsa.toNat_block?_lt`: the block of a message is below the modulus.
- Theorem {lit}`Rsa.length_sign?`: when there is a signature, and how long it is.
- Theorem {lit}`Rsa.exists_sign?_iff`: which messages such a key signs.
-/

namespace ChefAccess
namespace Key
namespace Rsa

/-- The private exponent of a key undoes the public one for all numbers below the modulus. -/
def Inverts (key : Rsa) : Prop :=
  ∀ m < key.modulus,
    (m ^ key.privateExponent % key.modulus) ^ key.publicExponent % key.modulus = m

/-! ## Key files with primes -/

/-- An exponent that is one more than a multiple of {lit}`p - 1` changes nothing modulo a
prime {lit}`p`. -/
theorem pow_modEq_self {p exponent : Nat} (hp : p.Prime) (hexponent : exponent % (p - 1) = 1)
    (m : Nat) : m ^ exponent ≡ m [MOD p] := by
  have : Fact p.Prime := ⟨hp⟩
  rw [← ZMod.natCast_eq_natCast_iff, Nat.cast_pow]
  have hsplit : exponent = (p - 1) * (exponent / (p - 1)) + 1 := by
    have hdiv := Nat.div_add_mod exponent (p - 1)
    omega
  by_cases hm : (m : ZMod p) = 0
  · rw [hm, hsplit, zero_pow (Nat.succ_ne_zero _)]
  · rw [hsplit, pow_succ, pow_mul, ZMod.pow_card_sub_one_eq_one hm, one_pow, one_mul]

/-- The numbers of a key file that fit together make a key whose exponents undo each other, if
the factors are different primes. -/
theorem inverts_of_fit {parts : Parts} {key : Rsa} (hkey : parts.key? = some key)
    (hfirst : parts.first.Prime) (hsecond : parts.second.Prime)
    (hne : parts.first ≠ parts.second) : key.Inverts := by
  unfold Parts.key? at hkey
  split at hkey
  case isFalse => cases hkey
  case isTrue hfit =>
    rw [← Option.some.inj hkey]
    simp only [Parts.fit, Bool.and_eq_true, beq_iff_eq, decide_eq_true_eq] at hfit
    obtain ⟨⟨⟨⟨⟨⟨⟨⟨⟨hmodulus, -⟩, -⟩, -⟩, -⟩, -⟩, -⟩, -⟩, hexponent⟩, hexponent'⟩ := hfit
    intro m hm
    dsimp only at hm ⊢
    have hcoprime : Nat.Coprime parts.first parts.second :=
      (Nat.coprime_primes hfirst hsecond).mpr hne
    have hpower : m ^ (parts.privateExponent * parts.publicExponent) ≡ m
        [MOD parts.first * parts.second] :=
      (Nat.modEq_and_modEq_iff_modEq_mul hcoprime).mp
        ⟨pow_modEq_self hfirst hexponent m, pow_modEq_self hsecond hexponent' m⟩
    rw [hmodulus] at hpower
    calc (m ^ parts.privateExponent % parts.modulus) ^ parts.publicExponent % parts.modulus
        = m ^ (parts.privateExponent * parts.publicExponent) % parts.modulus := by
          rw [← Nat.pow_mod, ← pow_mul]
      _ = m % parts.modulus := hpower
      _ = m := Nat.mod_eq_of_lt hm

/-! ## Signatures -/

/-- The padded block of a message is below the modulus, since its first octet is zero. -/
theorem toNat_block?_lt {key : Rsa} {message block : List UInt8}
    (hblock : block? key.width message = some block) : Octets.toNat block < key.modulus := by
  have hlength := length_block? hblock
  obtain ⟨padding, -, rfl⟩ := exists_padding_of_block? hblock
  have hmodulus := Octets.pow_width_le (modulus_ne_zero_of_block? hblock)
  have htail : paddedBlock padding message =
      [0x00] ++ ([0x01] ++ List.replicate padding 0xFF ++ [0x00] ++ message) := by
    simp [paddedBlock]
  rw [htail] at hlength ⊢
  generalize [0x01] ++ List.replicate padding 0xFF ++ [0x00] ++ message = tail at hlength ⊢
  have hwidth : key.width - 1 = tail.length := by
    simp only [List.length_append, List.length_singleton] at hlength
    omega
  calc Octets.toNat ([0x00] ++ tail) = Octets.toNat tail := by
        rw [Octets.toNat_append]
        simp [Octets.toNat]
    _ < 256 ^ tail.length := Octets.toNat_lt tail
    _ ≤ key.modulus := by
        rw [← hwidth]
        exact hmodulus

/-- A key whose exponents undo each other signs every message that fits, and the signature has
the width of the modulus. -/
theorem length_sign? {key : Rsa} (hinverts : key.Inverts) (message : List UInt8) :
    (key.sign? message).map List.length =
      if message.length + 11 ≤ key.width then some key.width else none := by
  cases hblock : block? key.width message with
  | none =>
    have hlong : ¬ message.length + 11 ≤ key.width := by
      intro hfits
      rw [block?, if_pos hfits] at hblock
      cases hblock
    rw [if_neg hlong, sign?, hblock, Option.bind_none, Option.map_none]
  | some block =>
    have hfits : message.length + 11 ≤ key.width := by
      by_contra hlong
      rw [block?, if_neg hlong] at hblock
      cases hblock
    have hopens : powMod (powMod (Octets.toNat block) key.privateExponent key.modulus)
        key.publicExponent key.modulus = Octets.toNat block := by
      rw [powMod_eq, powMod_eq]
      exact hinverts _ (toNat_block?_lt hblock)
    rw [if_pos hfits, sign?, hblock, Option.bind_some]
    dsimp only
    rw [if_pos hopens, Option.map_some, Octets.length_ofNat]

/-- A key whose exponents undo each other signs exactly the messages that fit. -/
theorem exists_sign?_iff {key : Rsa} (hinverts : key.Inverts) (message : List UInt8) :
    (∃ signature, key.sign? message = some signature) ↔ message.length + 11 ≤ key.width := by
  have hlength := length_sign? hinverts message
  constructor
  · rintro ⟨signature, hsign⟩
    by_contra hlong
    rw [hsign, if_neg hlong] at hlength
    cases hlength
  · intro hfits
    rw [if_pos hfits] at hlength
    obtain ⟨signature, hsign, -⟩ := Option.map_eq_some_iff.mp hlength
    exact ⟨signature, hsign⟩

end Rsa
end Key
end ChefAccess
