import Mathlib

/-!
# Little-endian integers

Fixed-width byte strings, least significant byte first, and two's complement over them.

* `toBytes`, `ofBytes` — the byte loop and its reverse; `ofBytes_toBytes`, `toBytes_ofBytes`.
* `wrap`, `unwrap` — a signed integer as the unsigned one of the same width and back;
  `unwrap_wrap`, `wrap_unwrap`.
-/

set_option autoImplicit false

namespace LittleEndian

/-- The low `width` bytes of `n`. -/
def toBytes : Nat → Nat → List UInt8
  | 0, _ => []
  | width + 1, n => UInt8.ofNat (n % 256) :: toBytes width (n / 256)

/-- The integer behind a byte string. -/
def ofBytes : List UInt8 → Nat
  | [] => 0
  | b :: bs => ofBytes bs * 256 + b.toNat

/-- Add `2 ^ bits` to a negative integer. -/
def wrap (bits : Nat) (z : Int) : Int := if z < 0 then z + 2 ^ bits else z

/-- Subtract `2 ^ bits` when the sign bit is set. -/
def unwrap (bits : Nat) (n : Nat) : Int :=
  if n &&& 2 ^ (bits - 1) = 0 then (n : Int) else (n : Int) - 2 ^ bits

@[simp] theorem length_toBytes (width n : Nat) : (toBytes width n).length = width := by
  induction width generalizing n with
  | zero => rfl
  | succ width ih => rw [toBytes, List.length_cons, ih]

theorem two_pow_succ_width (width : Nat) : 2 ^ (8 * (width + 1)) = 256 * 2 ^ (8 * width) := by
  rw [Nat.mul_succ, Nat.pow_add, Nat.mul_comm]

theorem ofBytes_lt (bytes : List UInt8) : ofBytes bytes < 2 ^ (8 * bytes.length) := by
  induction bytes with
  | nil => simp [ofBytes]
  | cons b bs ih =>
    have hb : b.toNat < 256 := b.toNat_lt
    rw [List.length_cons, two_pow_succ_width, ofBytes]
    omega

/-- **Reading back what was written**, for an integer that fits the width. -/
theorem ofBytes_toBytes {width n : Nat} (h : n < 2 ^ (8 * width)) :
    ofBytes (toBytes width n) = n := by
  induction width generalizing n with
  | zero =>
    obtain rfl : n = 0 := by simpa using h
    rfl
  | succ width ih =>
    rw [two_pow_succ_width] at h
    have hq : n / 256 < 2 ^ (8 * width) := Nat.div_lt_of_lt_mul h
    have hb : (UInt8.ofNat (n % 256)).toNat = n % 256 := by
      rw [UInt8.toNat_ofNat']
      omega
    rw [toBytes, ofBytes, ih hq, hb]
    omega

/-- **Writing back what was read.** -/
theorem toBytes_ofBytes (bytes : List UInt8) : toBytes bytes.length (ofBytes bytes) = bytes := by
  induction bytes with
  | nil => rfl
  | cons b bs ih =>
    have hb : b.toNat < 256 := b.toNat_lt
    have hmod : (ofBytes bs * 256 + b.toNat) % 256 = b.toNat := by omega
    have hdiv : (ofBytes bs * 256 + b.toNat) / 256 = ofBytes bs := by omega
    rw [List.length_cons, ofBytes, toBytes, hmod, hdiv, ih, UInt8.ofNat_toNat]

theorem toBytes_ofBytes_of_length {width : Nat} {bytes : List UInt8} (h : bytes.length = width) :
    toBytes width (ofBytes bytes) = bytes := by
  rw [← h, toBytes_ofBytes]

/-! ## Two's complement -/

/-- The sign bit of an integer below `2 ^ (bits + 1)` says on which side of `2 ^ bits` it is. -/
theorem signBit_eq_zero {bits n : Nat} (h : n < 2 ^ (bits + 1)) :
    n &&& 2 ^ bits = 0 ↔ n < 2 ^ bits := by
  rw [Nat.and_two_pow]
  rcases Nat.lt_or_ge n (2 ^ bits) with hn | hn
  · simp [Nat.testBit_lt_two_pow hn, hn]
  · rw [Nat.testBit_of_two_pow_le_and_two_pow_add_one_gt hn h]
    have := Nat.two_pow_pos bits
    simp only [Bool.toNat_true]
    omega

theorem wrap_nonneg {bits : Nat} {z : Int} (hlo : -(2 ^ bits) ≤ z) : 0 ≤ wrap bits z := by
  unfold wrap
  split <;> omega

theorem wrap_lt {bits : Nat} {z : Int} (hhi : z < 2 ^ bits) : wrap bits z < 2 ^ bits := by
  unfold wrap
  split <;> omega

theorem unwrap_bounds {bits n : Nat} (h : n < 2 ^ (bits + 1)) :
    -(2 ^ bits) ≤ unwrap (bits + 1) n ∧ unwrap (bits + 1) n < 2 ^ bits := by
  have hz : (n : Int) < 2 ^ (bits + 1) := by exact_mod_cast h
  have hpow : (2 : Int) ^ (bits + 1) = 2 * 2 ^ bits := by ring
  unfold unwrap
  rw [Nat.add_sub_cancel]
  split
  · rename_i hbit
    have hn : (n : Int) < 2 ^ bits := by exact_mod_cast (signBit_eq_zero h).1 hbit
    constructor <;> omega
  · rename_i hbit
    have hn : (2 : Int) ^ bits ≤ n := by
      exact_mod_cast Nat.le_of_not_lt fun hlt => hbit ((signBit_eq_zero h).2 hlt)
    constructor <;> omega

/-- **A signed integer survives wrapping** when it is in range. -/
theorem unwrap_wrap {bits : Nat} {z : Int} (hlo : -(2 ^ bits) ≤ z) (hhi : z < 2 ^ bits) :
    unwrap (bits + 1) (wrap (bits + 1) z).toNat = z := by
  have hpow : (2 : Int) ^ (bits + 1) = 2 * 2 ^ bits := by ring
  have hlt : (wrap (bits + 1) z).toNat < 2 ^ (bits + 1) := by
    have h0 : wrap (bits + 1) z < 2 ^ (bits + 1) := wrap_lt (by omega)
    have h1 : ((2 ^ (bits + 1) : Nat) : Int) = 2 ^ (bits + 1) := by push_cast; rfl
    omega
  have hcast : ((2 ^ bits : Nat) : Int) = 2 ^ bits := by push_cast; rfl
  unfold unwrap
  rw [Nat.add_sub_cancel]
  simp only [signBit_eq_zero hlt]
  unfold wrap
  split <;> split <;> omega

/-- **An unsigned integer survives unwrapping.** -/
theorem wrap_unwrap {bits n : Nat} (h : n < 2 ^ (bits + 1)) :
    (wrap (bits + 1) (unwrap (bits + 1) n)).toNat = n := by
  have hz : (n : Int) < 2 ^ (bits + 1) := by exact_mod_cast h
  unfold unwrap
  split
  · rw [wrap, if_neg (by omega), Int.toNat_natCast]
  · rw [wrap, if_pos (by omega)]
    omega

end LittleEndian
