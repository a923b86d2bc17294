import Mathlib

/-!
# Square roots modulo a prime

Roots by exponentiation, for a prime that is five modulo eight.

* `candidate` — a power of a square is its root, or is one times a root of minus one.
* `not_isSquare` — Euler's criterion, for powers that are minus one.
* `inverse_eq_power` — Fermat's inverse.
-/

set_option autoImplicit false

namespace SquareRoots

variable {p : Nat} [Fact p.Prime]

/-- **The power of a square is a root up to a root of minus one.** -/
theorem candidate (hp : p % 8 = 5) {i a : ZMod p} (hi : i * i = -1) (ha : IsSquare a) :
    a ^ ((p + 3) / 8) * a ^ ((p + 3) / 8) = a ∨
      a ^ ((p + 3) / 8) * i * (a ^ ((p + 3) / 8) * i) = a := by
  obtain ⟨r, rfl⟩ := ha
  by_cases hr : r = 0
  · left
    have hexponent : (p + 3) / 8 ≠ 0 := by omega
    rw [hr, mul_zero, zero_pow hexponent, mul_zero]
  · have hroot : (r * r) ^ ((p + 3) / 8) = r ^ ((p + 3) / 4) := by
      rw [← pow_two, ← pow_mul]
      congr 1
      omega
    have hfermat := ZMod.pow_card_sub_one_eq_one hr
    have hfourth : (r ^ ((p + 3) / 4) * r ^ ((p + 3) / 4)) ^ 2 = (r * r) ^ 2 := by
      have hexponent : ((p + 3) / 4 + (p + 3) / 4) * 2 = p - 1 + 4 := by omega
      rw [← pow_add, ← pow_mul, hexponent, pow_add, hfermat, one_mul]
      ring
    rw [hroot]
    rcases sq_eq_sq_iff_eq_or_eq_neg.1 hfourth with hsquare | hsquare
    · exact Or.inl hsquare
    · right
      rw [mul_mul_mul_comm, hsquare, hi, neg_mul_neg, mul_one]

theorem not_isSquare (hp : p ≠ 2) {a : ZMod p} (h : a ^ (p / 2) = -1) : ¬ IsSquare a := by
  have hne : (-1 : ZMod p) ≠ 1 := by
    have : Fact (2 < p) := ⟨lt_of_le_of_ne (Fact.out : p.Prime).two_le (Ne.symm hp)⟩
    exact ZMod.neg_one_ne_one
  have ha : a ≠ 0 := by
    rintro rfl
    have hexponent : p / 2 ≠ 0 := by
      have := (Fact.out : p.Prime).two_le
      omega
    rw [zero_pow hexponent] at h
    exact one_ne_zero (neg_eq_zero.1 h.symm)
  rw [ZMod.euler_criterion p ha, h]
  exact hne

theorem inverse_eq_power (hp : p ≠ 2) (a : ZMod p) : a ^ (p - 2) = a⁻¹ := by
  by_cases ha : a = 0
  · have hexponent : p - 2 ≠ 0 := by
      have := (Fact.out : p.Prime).two_le
      omega
    rw [ha, zero_pow hexponent, inv_zero]
  · refine eq_inv_of_mul_eq_one_left ?_
    have hexponent : p - 2 + 1 = p - 1 := by
      have := (Fact.out : p.Prime).two_le
      omega
    rw [← pow_succ, hexponent, ZMod.pow_card_sub_one_eq_one ha]

end SquareRoots
