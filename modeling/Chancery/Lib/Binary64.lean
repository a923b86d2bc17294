import Mathlib

/-!
# Rounding to binary64

What a floating-point operation makes of its exact result, below the overflow threshold.

* `nearestEven` — the nearest integer, ties to even; `round` scales by the last place first.
* `round_exact` — a result of at most 53 bits is kept.
* `le_round` — a result from `2 ^ 53` on does not fall below it.
-/

set_option autoImplicit false

namespace Binary64

/-- The nearest integer, ties to even. -/
def nearestEven (x : Rat) : Int :=
  let below := ⌊x⌋
  let fraction := x - below
  if fraction < 1 / 2 then below
  else if 1 / 2 < fraction then below + 1
  else if below % 2 = 0 then below
  else below + 1

/-- The exponent of the last place: 53 significant bits, none below `2 ^ (-1074)`. -/
def lastPlace (x : Rat) : Int := max (Int.log 2 |x| - 52) (-1074)

/-- The nearest double. -/
def round (x : Rat) : Rat := nearestEven (x / 2 ^ lastPlace x) * 2 ^ lastPlace x

/-! ## Laws -/

theorem nearestEven_intCast (m : Int) : nearestEven m = m := by
  unfold nearestEven
  dsimp only
  rw [Int.floor_intCast, sub_self, if_pos (by norm_num)]

theorem floor_le_nearestEven (x : Rat) : ⌊x⌋ ≤ nearestEven x := by
  unfold nearestEven
  dsimp only
  split
  · exact le_refl _
  · split
    · omega
    · split <;> omega

/-- A significand of 53 bits leaves its exponent above the last place. -/
theorem lastPlace_le {m e : Int} (hm : |m| < 2 ^ 53) (hzero : m ≠ 0) (he : -1074 ≤ e) :
    lastPlace ((m : Rat) * 2 ^ e) ≤ e := by
  have hpow : (0 : Rat) < 2 ^ e := zpow_pos (by norm_num) e
  have hpos : 0 < |(m : Rat) * 2 ^ e| := abs_pos.2 (mul_ne_zero (Int.cast_ne_zero.2 hzero) hpow.ne')
  have hlt : |(m : Rat) * 2 ^ e| < ((2 : Nat) : Rat) ^ (53 + e) := by
    rw [abs_mul, abs_of_pos hpow, Nat.cast_ofNat, zpow_add₀ (by norm_num)]
    have hcast : |(m : Rat)| < 2 ^ (53 : Int) := by
      rw [← Int.cast_abs]
      exact_mod_cast hm
    exact mul_lt_mul_of_pos_right hcast hpow
  have hlog := (Int.lt_zpow_iff_log_lt (by decide) hpos).1 hlt
  unfold lastPlace
  omega

/-- **A result of at most 53 bits is exact.** -/
theorem round_exact {m e : Int} (hm : |m| < 2 ^ 53) (he : -1074 ≤ e) :
    round ((m : Rat) * 2 ^ e) = m * 2 ^ e := by
  by_cases hzero : m = 0
  · subst hzero
    have h := nearestEven_intCast 0
    rw [Int.cast_zero] at h
    simp [round, h]
  · have hplace := lastPlace_le hm hzero he
    unfold round
    generalize lastPlace ((m : Rat) * 2 ^ e) = place at hplace ⊢
    obtain ⟨k, rfl⟩ := Int.le.dest hplace
    have hpow : (2 : Rat) ^ place ≠ 0 := zpow_ne_zero place (by norm_num)
    have hscaled : (m : Rat) * 2 ^ (place + (k : Int)) / 2 ^ place = ((m * 2 ^ k : Int) : Rat) := by
      rw [zpow_add₀ (by norm_num), zpow_natCast]
      push_cast
      field_simp
    rw [hscaled, nearestEven_intCast]
    push_cast
    rw [zpow_add₀ (by norm_num), zpow_natCast]
    ring

theorem round_intCast {m : Int} (hm : |m| < 2 ^ 53) : round (m : Rat) = m := by
  have h := round_exact (e := 0) hm (by decide)
  rwa [zpow_zero, mul_one] at h

/-- **A result from `2 ^ 53` on does not fall below it.** -/
theorem le_round {x : Rat} (h : 2 ^ 53 ≤ x) : 2 ^ 53 ≤ round x := by
  have hpos : 0 < x := lt_of_lt_of_le (by norm_num) h
  have hlog : 53 ≤ Int.log 2 x := by
    refine (Int.zpow_le_iff_le_log (by decide) hpos).1 ?_
    exact_mod_cast h
  have hplace : lastPlace x = Int.log 2 x - 52 := by
    unfold lastPlace
    rw [abs_of_pos hpos]
    omega
  have hscale : (0 : Rat) < 2 ^ lastPlace x := zpow_pos (by norm_num) _
  have hself : (2 : Rat) ^ Int.log 2 x ≤ x := by
    have := Int.zpow_log_le_self (b := 2) (by decide) hpos
    exact_mod_cast this
  have hsplit : (2 : Rat) ^ Int.log 2 x = 2 ^ (52 : Int) * 2 ^ lastPlace x := by
    rw [← zpow_add₀ (by norm_num), hplace]
    congr 1
    omega
  have hnear : (2 : Int) ^ 52 ≤ nearestEven (x / 2 ^ lastPlace x) := by
    refine le_trans (Int.le_floor.2 ?_) (floor_le_nearestEven _)
    rw [le_div_iff₀ hscale]
    push_cast
    calc (2 : Rat) ^ 52 * 2 ^ lastPlace x = 2 ^ Int.log 2 x := by
          rw [hsplit]
          rfl
      _ ≤ x := hself
  calc (2 : Rat) ^ 53 = 2 ^ (53 : Int) := rfl
    _ ≤ 2 ^ Int.log 2 x := zpow_le_zpow_right₀ (by norm_num) hlog
    _ = (2 : Rat) ^ 52 * 2 ^ lastPlace x := by
      rw [hsplit]
      rfl
    _ ≤ nearestEven (x / 2 ^ lastPlace x) * 2 ^ lastPlace x :=
      mul_le_mul_of_nonneg_right (by exact_mod_cast hnear) hscale.le

example : round (2 ^ 53 + 1) = 2 ^ 53 := by decide +kernel

end Binary64
