import Chancery.ProgramAddressLaws

/-!
# Edwards points

The point arithmetic at the end of `python/chancery_reference/solana_transaction.py`, on integers
modulo the field prime.

* `addEdwardsPoints`, `doubleEdwardsPoint`, `scalarMultiply`, `encodeEdwardsPoint` — the source's
  functions; the curve constant is an argument of those that use it.
* `EdwardsCoordinates.Represents`, `EdwardsCoordinates.Valid` — the point behind the coordinates.
* `addEdwardsPoints_represents`, `doubleEdwardsPoint_represents`, `scalarMultiply_represents`.
* `encodePoint`, `encodeEdwardsPoint_eq` — the encoding of a point; `encodePoint_injective`.
-/

set_option autoImplicit false

namespace Chancery

open Edwards

/-! ## The functions -/

/-- `tuple[int, int, int, int]` -/
structure EdwardsCoordinates where
  x : Nat
  y : Nat
  z : Nat
  t : Nat
  deriving DecidableEq

/-- The neutral point. -/
def ed25519Identity : EdwardsCoordinates := ⟨0, 1, 1, 0⟩

/-- `value % _ED25519_FIELD` -/
def reduced (value : Int) : Nat := modulo value ed25519FieldModulus

/-- The sum of two points. -/
def addEdwardsPoints (curveD : Nat) (left right : EdwardsCoordinates) : EdwardsCoordinates :=
  let a := reduced ((left.y - left.x) * (right.y - right.x))
  let b := reduced ((left.y + left.x) * (right.y + right.x))
  let c := reduced (2 * curveD * left.t * right.t)
  let d := reduced (2 * left.z * right.z)
  let e := reduced (b - a)
  let f := reduced (d - c)
  let g := reduced (d + c)
  let h := reduced (b + a)
  ⟨reduced (e * f), reduced (g * h), reduced (f * g), reduced (e * h)⟩

/-- The double of a point. -/
def doubleEdwardsPoint (point : EdwardsCoordinates) : EdwardsCoordinates :=
  let a := reduced (point.x * point.x)
  let b := reduced (point.y * point.y)
  let c := reduced (2 * point.z * point.z)
  let d := reduced (-a)
  let e := reduced ((point.x + point.y) * (point.x + point.y) - a - b)
  let g := reduced (d + b)
  let f := reduced (g - c)
  let h := reduced (d - b)
  ⟨reduced (e * f), reduced (g * h), reduced (f * g), reduced (e * h)⟩

/-- The loop over the bits of the scalar, low ones first. -/
def scalarMultiplyLoop (curveD : Nat) :
    Nat → EdwardsCoordinates → EdwardsCoordinates → Nat → EdwardsCoordinates
  | 0, result, _, _ => result
  | fuel + 1, result, current, remaining =>
    if remaining = 0 then result
    else scalarMultiplyLoop curveD fuel
      (if remaining % 2 = 1 then addEdwardsPoints curveD result current else result)
      (doubleEdwardsPoint current) (remaining / 2)

/-- A multiple of a point. -/
def scalarMultiply (curveD : Nat) (point : EdwardsCoordinates) (scalar : Nat) :
    EdwardsCoordinates :=
  scalarMultiplyLoop curveD scalar ed25519Identity point scalar

/-- The parity of `x` goes into the high bit of the last byte of `y`. -/
def encodeCoordinates (affineX affineY : Nat) : Bytes :=
  let encoded := LittleEndian.toBytes 32 affineY
  encoded.set 31 (encoded.getD 31 0 ||| UInt8.ofNat (affineX % 2 * 128))

/-- The 32 bytes of a point. -/
def encodeEdwardsPoint (point : EdwardsCoordinates) : Bytes :=
  let inverseZ := pythonPow point.z (ed25519FieldModulus - 2) ed25519FieldModulus
  encodeCoordinates (reduced (point.x * inverseZ)) (reduced (point.y * inverseZ))

/-! ## The points behind the coordinates -/

/-- The points of the curve. -/
abbrev Ed25519Point := Point (ed25519D : Ed25519Field)

namespace EdwardsCoordinates

variable {point left right : EdwardsCoordinates} {P Q : Ed25519Point}

/-- The coordinates in the field. -/
def cast (point : EdwardsCoordinates) : Extended Ed25519Field :=
  ⟨point.x, point.y, point.z, point.t⟩

/-- The coordinates are those of the point, scaled. -/
def Represents (point : EdwardsCoordinates) (P : Ed25519Point) : Prop := point.cast.Represents P

/-- `x y = z t`, the curve equation, and `z` is not zero. -/
def Valid (point : EdwardsCoordinates) : Prop := point.cast.Valid (ed25519D : Ed25519Field)

theorem valid_iff : point.Valid ↔ ∃ P : Ed25519Point, point.Represents P := Extended.valid_iff

end EdwardsCoordinates

theorem reduced_cast (value : Int) : ((reduced value : Nat) : Ed25519Field) = value :=
  modulo_cast value

theorem reduced_lt (value : Int) : reduced value < ed25519FieldModulus := modulo_lt value

section

variable {point left right : EdwardsCoordinates} {P Q : Ed25519Point}

theorem addEdwardsPoints_cast (left right : EdwardsCoordinates) :
    (addEdwardsPoints ed25519D left right).cast =
      Extended.add (ed25519D : Ed25519Field) left.cast right.cast := by
  unfold addEdwardsPoints EdwardsCoordinates.cast Extended.add
  simp only [reduced_cast, Int.cast_mul, Int.cast_sub, Int.cast_add, Int.cast_natCast,
    Int.cast_ofNat]

theorem doubleEdwardsPoint_cast (point : EdwardsCoordinates) :
    (doubleEdwardsPoint point).cast = Extended.double point.cast := by
  unfold doubleEdwardsPoint EdwardsCoordinates.cast Extended.double
  simp only [reduced_cast, Int.cast_mul, Int.cast_sub, Int.cast_add, Int.cast_neg,
    Int.cast_natCast, Int.cast_ofNat]

/-- **Adding coordinates adds points.** -/
theorem addEdwardsPoints_represents (hleft : left.Represents P) (hright : right.Represents Q) :
    (addEdwardsPoints ed25519D left right).Represents (P + Q) := by
  rw [EdwardsCoordinates.Represents, addEdwardsPoints_cast]
  exact Extended.add_represents hleft hright

/-- **Doubling coordinates doubles points.** -/
theorem doubleEdwardsPoint_represents (h : point.Represents P) :
    (doubleEdwardsPoint point).Represents (P + P) := by
  rw [EdwardsCoordinates.Represents, doubleEdwardsPoint_cast]
  exact Extended.double_represents h

theorem ed25519Identity_represents : ed25519Identity.Represents (0 : Ed25519Point) := by
  have h : (Extended.identity : Extended Ed25519Field).Represents (0 : Ed25519Point) :=
    Extended.identity_represents
  unfold EdwardsCoordinates.Represents EdwardsCoordinates.cast ed25519Identity
  simpa [Extended.identity] using h

theorem scalarMultiplyLoop_cast (fuel : Nat) : ∀ (result current : EdwardsCoordinates)
    (remaining : Nat), (scalarMultiplyLoop ed25519D fuel result current remaining).cast =
      Extended.multiplyLoop (ed25519D : Ed25519Field) fuel result.cast current.cast remaining := by
  induction fuel with
  | zero => exact fun _ _ _ => rfl
  | succ fuel ih =>
    intro result current remaining
    rw [scalarMultiplyLoop, Extended.multiplyLoop]
    by_cases hzero : remaining = 0
    · rw [if_pos hzero, if_pos hzero]
    · rw [if_neg hzero, if_neg hzero, ih, doubleEdwardsPoint_cast]
      by_cases hodd : remaining % 2 = 1
      · rw [if_pos hodd, if_pos hodd, addEdwardsPoints_cast]
      · rw [if_neg hodd, if_neg hodd]

/-- **Multiplying by a scalar is adding so many times.** -/
theorem scalarMultiply_represents (h : point.Represents P) (scalar : Nat) :
    (scalarMultiply ed25519D point scalar).Represents (scalar • P) := by
  have hloop := Extended.multiplyLoop_represents scalar scalar Nat.lt_two_pow_self
    ed25519Identity_represents h
  rw [zero_add] at hloop
  rw [EdwardsCoordinates.Represents, scalarMultiply, scalarMultiplyLoop_cast]
  exact hloop

end

/-! ## Encodings -/

/-- The encoding of a point. -/
def encodePoint (P : Ed25519Point) : Bytes := encodeCoordinates P.x.val P.y.val

theorem eq_val_of_cast {n : Nat} (hlt : n < ed25519FieldModulus) {a : Ed25519Field}
    (h : (n : Ed25519Field) = a) : n = a.val := by
  rw [← h, ZMod.val_natCast_of_lt hlt]

/-- **The encoding depends on the point only.** -/
theorem encodeEdwardsPoint_eq {point : EdwardsCoordinates} {P : Ed25519Point}
    (h : point.Represents P) : encodeEdwardsPoint point = encodePoint P := by
  have hz : (point.z : Ed25519Field) ≠ 0 := h.z_ne_zero
  have hinverse : ((pythonPow point.z (ed25519FieldModulus - 2) ed25519FieldModulus : Nat) :
      Ed25519Field) = (point.z : Ed25519Field)⁻¹ := by
    rw [pythonPow_eq]
    exact modularInverse_cast point.z
  have hx : (point.x : Ed25519Field) = P.x * point.z := h.x
  have hy : (point.y : Ed25519Field) = P.y * point.z := h.y
  have haffineX : reduced (point.x * pythonPow point.z (ed25519FieldModulus - 2)
      ed25519FieldModulus) = P.x.val := by
    refine eq_val_of_cast (reduced_lt _) ?_
    rw [reduced_cast]
    push_cast
    rw [hinverse, hx, mul_inv_cancel_right₀ hz]
  have haffineY : reduced (point.y * pythonPow point.z (ed25519FieldModulus - 2)
      ed25519FieldModulus) = P.y.val := by
    refine eq_val_of_cast (reduced_lt _) ?_
    rw [reduced_cast]
    push_cast
    rw [hinverse, hy, mul_inv_cancel_right₀ hz]
  unfold encodeEdwardsPoint encodePoint
  dsimp only
  rw [haffineX, haffineY]

theorem length_encodeCoordinates (affineX affineY : Nat) :
    (encodeCoordinates affineX affineY).length = 32 := by
  simp [encodeCoordinates]

theorem getD_toBytes : ∀ (width n index : Nat), index < width →
    (LittleEndian.toBytes width n).getD index 0 = UInt8.ofNat (n / 256 ^ index % 256)
  | 0, _, _, h => by omega
  | width + 1, n, 0, _ => by simp [LittleEndian.toBytes]
  | width + 1, n, index + 1, h => by
    rw [LittleEndian.toBytes, List.getD_cons_succ, getD_toBytes width _ index (by omega),
      Nat.div_div_eq_div_mul, pow_succ']

/-- The high bit of a byte, set over a value of seven bits. -/
theorem highBit_of_lt : ∀ n < 128, ∀ parity < 2,
    (UInt8.ofNat n ||| UInt8.ofNat (parity * 128)).toNat / 128 = parity ∧
      (UInt8.ofNat n ||| UInt8.ofNat (parity * 128)) &&& 0x7f = UInt8.ofNat n := by
  decide +kernel

/-- **The encoding is read back.** -/
theorem encodeCoordinates_read (affineX : Nat) {affineY : Nat}
    (h : affineY < ed25519FieldModulus) :
    encodedSign (encodeCoordinates affineX affineY) = affineX % 2 ∧
      encodedY (encodeCoordinates affineX affineY) = affineY := by
  have hfits : affineY < 2 ^ (8 * 32) := h.trans (by decide)
  have hhigh : affineY / 256 ^ 31 < 128 := by
    have hlt : affineY < 256 ^ 31 * 128 := h.trans (by decide)
    exact Nat.div_lt_of_lt_mul hlt
  have hlast : (LittleEndian.toBytes 32 affineY).getD 31 0 = UInt8.ofNat (affineY / 256 ^ 31) := by
    rw [getD_toBytes 32 affineY 31 (by omega), Nat.mod_eq_of_lt (by omega)]
  obtain ⟨hsign, hlow⟩ := highBit_of_lt _ hhigh (affineX % 2) (Nat.mod_lt _ (by omega))
  have hbyte : (encodeCoordinates affineX affineY).getD 31 0 =
      UInt8.ofNat (affineY / 256 ^ 31) ||| UInt8.ofNat (affineX % 2 * 128) := by
    unfold encodeCoordinates
    dsimp only
    rw [hlast, List.getD_eq_getElem?_getD, List.getElem?_set_self (by simp)]
    rfl
  constructor
  · rw [encodedSign, hbyte, hsign]
  · have hsame : (encodeCoordinates affineX affineY).set 31 (UInt8.ofNat (affineY / 256 ^ 31)) =
        LittleEndian.toBytes 32 affineY := by
      unfold encodeCoordinates
      dsimp only
      rw [List.set_set, ← hlast, List.getD_eq_getElem _ _ (by simp), List.set_getElem_self]
    rw [encodedY, hbyte, hlow, hsame, LittleEndian.ofBytes_toBytes hfits]

theorem length_encodePoint (P : Ed25519Point) : (encodePoint P).length = 32 :=
  length_encodeCoordinates _ _

theorem val_lt (a : Ed25519Field) : a.val < ed25519FieldModulus := ZMod.val_lt a

/-- A root and its negation have different parities. -/
theorem val_neg_parity {a : Ed25519Field} (ha : a ≠ 0) : (-a).val % 2 ≠ a.val % 2 := by
  have hlt := val_lt a
  have hodd : ed25519FieldModulus % 2 = 1 := by decide
  rw [ZMod.neg_val, if_neg ha]
  omega

/-- **Different points have different encodings.** -/
theorem encodePoint_injective : Function.Injective encodePoint := by
  intro P Q h
  obtain ⟨hsignP, hyP⟩ := encodeCoordinates_read P.x.val (val_lt P.y)
  obtain ⟨hsignQ, hyQ⟩ := encodeCoordinates_read Q.x.val (val_lt Q.y)
  have hsame : encodeCoordinates P.x.val P.y.val = encodeCoordinates Q.x.val Q.y.val := h
  rw [hsame] at hsignP hyP
  have hy : P.y = Q.y := ZMod.val_injective _ (hyP.symm.trans hyQ)
  have hparity : P.x.val % 2 = Q.x.val % 2 := hsignP.symm.trans hsignQ
  have hP := onCurve_iff.1 P.onCurve
  have hQ := onCurve_iff.1 Q.onCurve
  rw [hy, ← hQ] at hP
  have hsquares := mul_right_cancel₀ (Edwards.denominator_ne_zero ed25519_complete Q.y) hP
  refine Point.ext ?_ hy
  rcases mul_self_eq_mul_self_iff.1 hsquares with hx | hx
  · exact hx
  · by_cases hzero : Q.x = 0
    · rw [hx, hzero, neg_zero]
    · rw [hx] at hparity
      exact absurd hparity (val_neg_parity hzero)

/-- The encoding of a point is one that the curve check accepts. -/
theorem encodesPoint_encodePoint (P : Ed25519Point) : EncodesPoint (encodePoint P) := by
  obtain ⟨hsign, hy⟩ := encodeCoordinates_read P.x.val (val_lt P.y)
  have hread : encodedY (encodePoint P) = P.y.val := hy
  have hcast : ((P.y.val : Nat) : Ed25519Field) = P.y := ZMod.natCast_zmod_val P.y
  refine ⟨hread ▸ val_lt P.y, P.x, ?_, ?_⟩
  · rw [hread, hcast]
    exact P.onCurve
  · rintro ⟨hx, hone⟩
    have hparity : encodedSign (encodePoint P) = P.x.val % 2 := hsign
    rw [hparity, hx, ZMod.val_zero] at hone
    omega

end Chancery
