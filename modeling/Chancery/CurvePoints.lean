import Chancery.ProgramAddress
import Chancery.Lib.Edwards
import Chancery.Lib.Primality
import Chancery.Lib.SquareRoots

/-!
# Curve points

What `isEd25519CurvePoint` decides about 32 bytes.

* `modularPower_eq` — the loop computes powers; `modularInverse_cast` inverts in the field.
* `ed25519_complete` — minus one is a square and `ed25519D` is not, so no denominator vanishes.
* `EncodesPoint` — a `y` below the prime, some `x` on the curve and a sign that fits;
  `isEd25519CurvePoint_iff`.
-/

set_option autoImplicit false

namespace Chancery

/-! ## Powers -/

/-- The loop multiplies its result by a power of the base. -/
theorem modularPowerLoop_eq (modulus : Nat) : ∀ (fuel result base exponent : Nat),
    exponent ≤ fuel → result % modulus = result →
      modularPowerLoop modulus fuel result base exponent = result * base ^ exponent % modulus := by
  intro fuel
  induction fuel with
  | zero =>
    intro result base exponent hfuel hresult
    obtain rfl : exponent = 0 := by omega
    rw [modularPowerLoop, Nat.pow_zero, Nat.mul_one, hresult]
  | succ fuel ih =>
    intro result base exponent hfuel hresult
    rw [modularPowerLoop]
    by_cases hzero : exponent = 0
    · rw [if_pos hzero, hzero, Nat.pow_zero, Nat.mul_one, hresult]
    · have hsquares : (base * base % modulus) ^ (exponent / 2) ≡
          base ^ (2 * (exponent / 2)) [MOD modulus] := by
        rw [Nat.pow_mul, Nat.pow_two]
        exact (Nat.mod_modEq _ _).pow _
      rw [if_neg hzero]
      by_cases hodd : exponent % 2 = 1
      · have hsplit : base ^ exponent = base * base ^ (2 * (exponent / 2)) := by
          rw [← Nat.pow_succ']
          congr 1
          omega
        rw [if_pos hodd, ih _ _ _ (by omega) (Nat.mod_mod _ _), hsplit, ← Nat.mul_assoc]
        exact (Nat.mod_modEq _ _).mul hsquares
      · have hsplit : 2 * (exponent / 2) = exponent := by omega
        rw [hsplit] at hsquares
        rw [if_neg hodd, ih _ _ _ (by omega) hresult]
        exact (Nat.ModEq.refl result).mul hsquares

/-- **Square and multiply computes powers.** -/
theorem modularPower_eq {modulus : Nat} (h : 1 < modulus) (base exponent : Nat) :
    modularPower base exponent modulus = base ^ exponent % modulus := by
  unfold modularPower
  rw [modularPowerLoop_eq modulus exponent 1 _ _ (le_refl _) (Nat.mod_eq_of_lt h), Nat.one_mul,
    ← Nat.pow_mod]

/-! ## The field -/

instance : Fact ed25519FieldModulus.Prime := ⟨Primality.prime_two_pow_255_sub_19⟩

/-- The field of the coordinates. -/
abbrev Ed25519Field := ZMod ed25519FieldModulus

theorem ed25519FieldModulus_gt_one : 1 < ed25519FieldModulus := by decide

theorem modulo_cast (value : Int) :
    ((modulo value ed25519FieldModulus : Nat) : Ed25519Field) = (value : Ed25519Field) := by
  have hnonneg : 0 ≤ value % (ed25519FieldModulus : Int) := Int.emod_nonneg _ (by decide)
  unfold modulo
  rw [← Int.cast_natCast, Int.toNat_of_nonneg hnonneg, ZMod.intCast_mod]

theorem modulo_lt (value : Int) : modulo value ed25519FieldModulus < ed25519FieldModulus := by
  have hnonneg : 0 ≤ value % (ed25519FieldModulus : Int) := Int.emod_nonneg _ (by decide)
  have hlt : value % (ed25519FieldModulus : Int) < ed25519FieldModulus :=
    Int.emod_lt_of_pos _ (by decide)
  unfold modulo
  omega

theorem natCast_eq_zero {n : Nat} (h : n < ed25519FieldModulus) :
    (n : Ed25519Field) = 0 ↔ n = 0 := by
  constructor
  · intro hzero
    exact Nat.eq_zero_of_dvd_of_lt ((ZMod.natCast_eq_zero_iff _ _).1 hzero) h
  · rintro rfl
    exact Nat.cast_zero

theorem modulo_eq_zero (value : Int) :
    modulo value ed25519FieldModulus = 0 ↔ (value : Ed25519Field) = 0 := by
  rw [← natCast_eq_zero (modulo_lt value), modulo_cast]

theorem modularPower_lt (base exponent : Nat) :
    modularPower base exponent ed25519FieldModulus < ed25519FieldModulus := by
  rw [modularPower_eq ed25519FieldModulus_gt_one]
  exact Nat.mod_lt _ (by decide)

theorem modularPower_cast (base exponent : Nat) :
    ((modularPower base exponent ed25519FieldModulus : Nat) : Ed25519Field) =
      (base : Ed25519Field) ^ exponent := by
  rw [modularPower_eq ed25519FieldModulus_gt_one, ZMod.natCast_mod, Nat.cast_pow]

/-- Fermat's inverse, also of zero. -/
theorem modularInverse_cast (value : Nat) :
    ((modularInverse value ed25519FieldModulus : Nat) : Ed25519Field) =
      (value : Ed25519Field)⁻¹ := by
  unfold modularInverse
  rw [modularPower_cast, SquareRoots.inverse_eq_power (by decide)]

/-! ## The curve -/

theorem sqrtMinusOne_mul_self :
    (ed25519SqrtMinusOne : Ed25519Field) * ed25519SqrtMinusOne = -1 := by
  have hexponent : (ed25519FieldModulus - 1) / 4 + (ed25519FieldModulus - 1) / 4 =
      (ed25519FieldModulus - 1) / 2 := by decide
  have hpower : Primality.power ed25519FieldModulus 2 255 ((ed25519FieldModulus - 1) / 2) =
      ed25519FieldModulus - 1 := by decide +kernel
  rw [Primality.power_eq _ _ _ _ (by decide)] at hpower
  unfold ed25519SqrtMinusOne
  rw [modularPower_cast, ← pow_add, hexponent]
  have hcast := congrArg (Nat.cast : Nat → Ed25519Field) hpower
  rw [ZMod.natCast_mod, Nat.cast_pow, Nat.cast_sub (by decide), ZMod.natCast_self] at hcast
  rw [hcast, Nat.cast_one, zero_sub]

theorem ed25519D_nonsquare : ¬ IsSquare (ed25519D : Ed25519Field) := by
  have hpower : Primality.power ed25519FieldModulus ed25519D 255 (ed25519FieldModulus / 2) =
      ed25519FieldModulus - 1 := by decide +kernel
  rw [Primality.power_eq _ _ _ _ (by decide)] at hpower
  have hcast := congrArg (Nat.cast : Nat → Ed25519Field) hpower
  rw [ZMod.natCast_mod, Nat.cast_pow, Nat.cast_sub (by decide), ZMod.natCast_self] at hcast
  refine SquareRoots.not_isSquare (by decide) ?_
  rw [hcast, Nat.cast_one, zero_sub]

/-- The curve's addition law is complete. -/
theorem ed25519_complete : Edwards.Complete (ed25519D : Ed25519Field) where
  minusOne := ⟨ed25519SqrtMinusOne, sqrtMinusOne_mul_self.symm⟩
  nonsquare := ed25519D_nonsquare
  two_ne_zero := by
    have h : ((2 : Nat) : Ed25519Field) ≠ 0 := (natCast_eq_zero (by decide)).not.2 (by decide)
    exact_mod_cast h

instance : Fact (Edwards.Complete (ed25519D : Ed25519Field)) := ⟨ed25519_complete⟩

/-- **The zero denominator cannot arise.** -/
theorem denominator_ne_zero (y : Nat) :
    modulo (ed25519D * modulo (y * y) ed25519FieldModulus + 1) ed25519FieldModulus ≠ 0 := by
  rw [Ne, modulo_eq_zero]
  push_cast
  rw [modulo_cast]
  push_cast
  exact Edwards.denominator_ne_zero ed25519_complete (y : Ed25519Field)

/-! ## Roots -/

theorem candidateRoot_lt (xSquared : Nat) : candidateRoot xSquared < ed25519FieldModulus := by
  unfold candidateRoot
  dsimp only
  split
  · exact modulo_lt _
  · exact modularPower_lt _ _

/-- The check that the code makes twice. -/
theorem isRoot_iff (x xSquared : Nat) :
    modulo (x * x - xSquared) ed25519FieldModulus = 0 ↔
      (x : Ed25519Field) * x = (xSquared : Ed25519Field) := by
  rw [modulo_eq_zero]
  push_cast
  exact sub_eq_zero

/-- **The candidate is a root of every square.** -/
theorem candidateRoot_mul_self {xSquared : Nat} (h : IsSquare (xSquared : Ed25519Field)) :
    (candidateRoot xSquared : Ed25519Field) * candidateRoot xSquared = xSquared := by
  have hcandidate := SquareRoots.candidate (by decide) sqrtMinusOne_mul_self h
  unfold candidateRoot
  dsimp only
  split
  · rename_i hcheck
    rw [Ne, isRoot_iff, modularPower_cast] at hcheck
    rw [modulo_cast]
    push_cast
    rw [modularPower_cast]
    exact hcandidate.resolve_left hcheck
  · rename_i hcheck
    rw [Ne, not_not, isRoot_iff] at hcheck
    exact hcheck

theorem candidateRoot_check (xSquared : Nat) :
    modulo (candidateRoot xSquared * candidateRoot xSquared - xSquared) ed25519FieldModulus = 0 ↔
      IsSquare (xSquared : Ed25519Field) := by
  rw [isRoot_iff]
  constructor
  · intro hroot
    exact ⟨_, hroot.symm⟩
  · exact candidateRoot_mul_self

/-! ## Encoded points -/

def encodedSign (compressedPoint : Bytes) : Nat := (compressedPoint.getD 31 0).toNat / 128

/-- The integer behind the bytes without the sign bit. -/
def encodedY (compressedPoint : Bytes) : Nat :=
  LittleEndian.ofBytes (compressedPoint.set 31 (compressedPoint.getD 31 0 &&& 0x7f))

/-- The bytes are the strict encoding of a point of the curve. -/
def EncodesPoint (compressedPoint : Bytes) : Prop :=
  encodedY compressedPoint < ed25519FieldModulus ∧
    ∃ x : Ed25519Field, Edwards.OnCurve (ed25519D : Ed25519Field) x (encodedY compressedPoint) ∧
      ¬ (x = 0 ∧ encodedSign compressedPoint = 1)

/-- The square of `x` that the code computes from `y`. -/
def computedXSquared (y : Nat) : Nat :=
  let ySquared := modulo (y * y) ed25519FieldModulus
  let numerator := modulo (ySquared - 1) ed25519FieldModulus
  let denominator := modulo (ed25519D * ySquared + 1) ed25519FieldModulus
  modulo (numerator * modularInverse denominator ed25519FieldModulus) ed25519FieldModulus

theorem computedXSquared_cast (y : Nat) :
    (computedXSquared y : Ed25519Field) =
      ((y : Ed25519Field) * y - 1) * (ed25519D * ((y : Ed25519Field) * y) + 1)⁻¹ := by
  unfold computedXSquared
  dsimp only
  rw [modulo_cast]
  push_cast
  rw [modulo_cast, modularInverse_cast, modulo_cast]
  push_cast
  rw [modulo_cast]
  push_cast
  rfl

theorem onCurve_iff_mul_self (x : Ed25519Field) (y : Nat) :
    Edwards.OnCurve (ed25519D : Ed25519Field) x y ↔ x * x = computedXSquared y := by
  rw [Edwards.onCurve_iff, computedXSquared_cast,
    eq_mul_inv_iff_mul_eq₀ (Edwards.denominator_ne_zero ed25519_complete (y : Ed25519Field))]

/-- What is left of the code once the denominator is known not to vanish. -/
theorem isEd25519CurvePoint_eq {compressedPoint : Bytes} (h : compressedPoint.length = 32) :
    isEd25519CurvePoint compressedPoint = true ↔
      encodedY compressedPoint < ed25519FieldModulus ∧
        IsSquare (computedXSquared (encodedY compressedPoint) : Ed25519Field) ∧
        ¬ (candidateRoot (computedXSquared (encodedY compressedPoint)) = 0 ∧
          encodedSign compressedPoint = 1) := by
  unfold isEd25519CurvePoint
  rw [if_neg (not_not.2 h)]
  dsimp only
  change (if ed25519FieldModulus ≤ encodedY compressedPoint then false
    else if modulo (ed25519D * modulo (encodedY compressedPoint * encodedY compressedPoint)
        ed25519FieldModulus + 1) ed25519FieldModulus = 0 then false
      else if modulo (candidateRoot (computedXSquared (encodedY compressedPoint)) *
          candidateRoot (computedXSquared (encodedY compressedPoint)) -
            computedXSquared (encodedY compressedPoint)) ed25519FieldModulus ≠ 0 then false
        else !(candidateRoot (computedXSquared (encodedY compressedPoint)) == 0 &&
          encodedSign compressedPoint == 1)) = true ↔ _
  rw [if_neg (denominator_ne_zero _)]
  by_cases hy : ed25519FieldModulus ≤ encodedY compressedPoint
  · rw [if_pos hy]
    exact iff_of_false Bool.false_ne_true fun hpoint => absurd hpoint.1 (by omega)
  · rw [if_neg hy]
    by_cases hroot : IsSquare (computedXSquared (encodedY compressedPoint) : Ed25519Field)
    · rw [if_neg (not_not.2 ((candidateRoot_check _).2 hroot))]
      simp only [Bool.not_eq_true', Bool.and_eq_false_iff, beq_eq_false_iff_ne, hroot, true_and,
        not_and_or]
      exact (and_iff_right (by omega)).symm
    · rw [if_pos (fun hcheck => hroot ((candidateRoot_check _).1 hcheck))]
      exact iff_of_false Bool.false_ne_true fun hpoint => hroot hpoint.2.1

theorem candidateRoot_eq_zero {xSquared : Nat} (h : IsSquare (xSquared : Ed25519Field)) :
    candidateRoot xSquared = 0 ↔ (xSquared : Ed25519Field) = 0 := by
  rw [← natCast_eq_zero (candidateRoot_lt xSquared), ← candidateRoot_mul_self h, mul_self_eq_zero]

/-- **The check decides the strict encodings of curve points.** -/
theorem isEd25519CurvePoint_iff {compressedPoint : Bytes} (h : compressedPoint.length = 32) :
    isEd25519CurvePoint compressedPoint = true ↔ EncodesPoint compressedPoint := by
  rw [isEd25519CurvePoint_eq h]
  constructor
  · rintro ⟨hy, ⟨x, hx⟩, hsign⟩
    refine ⟨hy, x, (onCurve_iff_mul_self x _).2 hx.symm, fun hzero => hsign ⟨?_, hzero.2⟩⟩
    rw [candidateRoot_eq_zero ⟨x, hx⟩, hx, hzero.1, mul_zero]
  · rintro ⟨hy, x, hx, hsign⟩
    have hsquare := (onCurve_iff_mul_self x _).1 hx
    refine ⟨hy, ⟨x, hsquare.symm⟩, fun hzero => hsign ⟨?_, hzero.2⟩⟩
    rw [candidateRoot_eq_zero ⟨x, hsquare.symm⟩, ← hsquare, mul_self_eq_zero] at hzero
    exact hzero.1

end Chancery
