import ChefAccess.Key.Octets
import Mathlib.Algebra.Group.Nat.Defs

/-!
# What octets hold

A number of octets holds the numbers below a power of 256, and the width of a number is the
number of octets that it takes.

Main results:

- Theorem {lit}`toNat_append`: octets in front count for more.
- Theorem {lit}`toNat_lt`: a number takes no more than its octets can hold.
- Theorem {lit}`toNat_ofNat`: what fits is read back.
- Theorems {lit}`pow_width_le` and {lit}`lt_pow_width`: the width of a number is the number of
  octets that it takes.
-/

namespace ChefAccess
namespace Key
namespace Octets

/-! ## Reading octets -/

/-- The number of octets behind a given number. -/
theorem foldl_octet (octets : List UInt8) (start : Nat) :
    octets.foldl (fun value octet => 256 * value + octet.toNat) start =
      start * 256 ^ octets.length + toNat octets := by
  induction octets generalizing start with
  | nil => simp [toNat]
  | cons octet rest ih =>
    have hrest := ih (256 * start + octet.toNat)
    have hnil := ih (256 * 0 + octet.toNat)
    simp only [toNat, List.foldl_cons, List.length_cons, Nat.pow_succ] at *
    rw [hrest, hnil, Nat.add_mul, Nat.mul_zero, Nat.zero_add, Nat.add_assoc,
      Nat.mul_comm 256 start, Nat.mul_assoc, Nat.mul_comm 256]

/-- Octets in front count for more. -/
theorem toNat_append (front back : List UInt8) :
    toNat (front ++ back) = toNat front * 256 ^ back.length + toNat back := by
  rw [toNat, List.foldl_append, foldl_octet]
  rfl

/-- The first octet counts for most. -/
theorem toNat_cons (octet : UInt8) (rest : List UInt8) :
    toNat (octet :: rest) = octet.toNat * 256 ^ rest.length + toNat rest := by
  have hsingle : toNat [octet] = octet.toNat := by simp [toNat]
  rw [← List.singleton_append, toNat_append, hsingle]

/-- A number takes no more than its octets can hold. -/
theorem toNat_lt (octets : List UInt8) : toNat octets < 256 ^ octets.length := by
  induction octets with
  | nil => simp [toNat]
  | cons octet rest ih =>
    have hoctet : octet.toNat < 256 := octet.toNat_lt
    rw [toNat_cons, List.length_cons, Nat.pow_succ]
    have hle : octet.toNat * 256 ^ rest.length ≤ 255 * 256 ^ rest.length :=
      Nat.mul_le_mul_right _ (by omega)
    omega

/-- As many octets with the same number are the same octets. -/
theorem eq_of_toNat_eq {octets octets' : List UInt8} (hlength : octets.length = octets'.length)
    (hnumber : toNat octets = toNat octets') : octets = octets' := by
  induction octets generalizing octets' with
  | nil => exact (List.length_eq_zero_iff.mp hlength.symm).symm
  | cons octet rest ih =>
    cases octets' with
    | nil => cases hlength
    | cons octet' rest' =>
      have hrests : rest.length = rest'.length := by simpa using hlength
      rw [toNat_cons, toNat_cons, ← hrests] at hnumber
      -- the rests are remainders, so the first octets are equal quotients
      have hquotient : ∀ {value : Nat} (octet : UInt8), value < 256 ^ rest.length →
          (octet.toNat * 256 ^ rest.length + value) / 256 ^ rest.length = octet.toNat := by
        intro value octet hvalue
        rw [Nat.mul_comm, Nat.mul_add_div (Nat.pow_pos (by omega)), Nat.div_eq_of_lt hvalue,
          Nat.add_zero]
      have hfirst : octet.toNat = octet'.toNat := by
        rw [← hquotient octet (toNat_lt rest), hnumber,
          hquotient octet' (hrests ▸ toNat_lt rest')]
      rw [hfirst] at hnumber
      rw [UInt8.toNat_inj.mp hfirst, ih hrests (Nat.add_left_cancel hnumber)]

/-- A number that fits is read back from its octets. -/
theorem toNat_ofNat (width n : Nat) : toNat (ofNat width n) = n % 256 ^ width := by
  induction width generalizing n with
  | zero => simp [ofNat, toNat, Nat.mod_one]
  | succ width ih =>
    have hlast : toNat [UInt8.ofNat (n % 256)] = n % 256 := by
      simp [toNat]
    rw [ofNat, toNat_append, ih, hlast, Nat.pow_succ, Nat.mul_comm (256 ^ width) 256,
      Nat.mod_mul]
    simp
    omega

/-! ## The width of a number -/

/-- Eight bits make one octet. -/
theorem pow_octets (count : Nat) : 256 ^ count = 2 ^ (8 * count) := by
  rw [Nat.pow_mul]

/-- A number fits into as many octets as it takes. -/
theorem lt_pow_width (n : Nat) : n < 256 ^ width n := by
  rw [pow_octets]
  by_cases hn : n = 0
  · subst hn
    exact Nat.two_pow_pos _
  · have hbits : n.log2 + 1 ≤ 8 * width n := by
      simp only [width, bitLength, if_neg hn]
      omega
    calc n < 2 ^ (n.log2 + 1) := Nat.lt_log2_self
      _ ≤ 2 ^ (8 * width n) := Nat.pow_le_pow_right (by omega) hbits

/-- A number does not fit into fewer octets than it takes. -/
theorem pow_width_le {n : Nat} (hn : n ≠ 0) : 256 ^ (width n - 1) ≤ n := by
  have hbits : 8 * (width n - 1) ≤ n.log2 := by
    simp only [width, bitLength, if_neg hn]
    omega
  calc 256 ^ (width n - 1) = 2 ^ (8 * (width n - 1)) := pow_octets _
    _ ≤ 2 ^ n.log2 := Nat.pow_le_pow_right (by omega) hbits
    _ ≤ n := Nat.log2_self_le hn

/-- Nothing is lost of a number that fits. -/
theorem toNat_ofNat_of_lt {width n : Nat} (hn : n < 256 ^ width) :
    toNat (ofNat width n) = n := by
  rw [toNat_ofNat, Nat.mod_eq_of_lt hn]

end Octets
end Key
end ChefAccess
