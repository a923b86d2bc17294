import Mathlib

/-!
# Twisted Edwards curves

The curve `-x² + y² = 1 + d x² y²` over a field where minus one is a square and `d` is not.

* `Complete` — the assumption; `denominator_ne_zero`, `product_ne_one`: no denominator vanishes.
* `Point` — the points, an abelian group under the affine addition law.
* `Extended` — projective coordinates with `x y = z t`; `Extended.add_represents` and
  `Extended.double_represents` compute the sum and the double.
-/

set_option autoImplicit false

namespace Edwards

variable {F : Type} [Field F] {d : F}

/-- `-x² + y² = 1 + d x² y²` -/
def OnCurve (d x y : F) : Prop := -(x * x) + y * y = 1 + d * (x * x) * (y * y)

/-- What makes the addition law complete. -/
structure Complete (d : F) : Prop where
  minusOne : IsSquare (-1 : F)
  nonsquare : ¬ IsSquare d
  two_ne_zero : (2 : F) ≠ 0

/-! ## Denominators -/

theorem isSquare_of_mul_mul_eq {a u v : F} (h : u * u = a * (v * v)) (hv : v ≠ 0) : IsSquare a := by
  refine ⟨u / v, ?_⟩
  field_simp
  linear_combination -h

/-- The denominator of `x²` as a function of `y`. -/
theorem denominator_ne_zero (hd : Complete d) (y : F) : d * (y * y) + 1 ≠ 0 := by
  intro hzero
  obtain ⟨i, hi⟩ := hd.minusOne
  have hy : y ≠ 0 := by
    rintro rfl
    simp at hzero
  have hsquare : i * i = d * (y * y) := by linear_combination -hi - hzero
  exact hd.nonsquare (isSquare_of_mul_mul_eq hsquare hy)

theorem onCurve_iff {x y : F} : OnCurve d x y ↔ x * x * (d * (y * y) + 1) = y * y - 1 := by
  unfold OnCurve
  constructor
  · intro h
    linear_combination -h
  · intro h
    linear_combination -h

/-- The product in the denominators of a sum is neither one nor minus one. -/
theorem product_ne_one (hd : Complete d) {x₁ y₁ x₂ y₂ : F} (h₁ : OnCurve d x₁ y₁)
    (h₂ : OnCurve d x₂ y₂) : (d * x₁ * x₂ * y₁ * y₂) * (d * x₁ * x₂ * y₁ * y₂) ≠ 1 := by
  intro hone
  unfold OnCurve at h₁ h₂
  obtain ⟨i, hi⟩ := hd.minusOne
  have hne : x₁ ≠ 0 ∧ y₁ ≠ 0 ∧ y₂ ≠ 0 := by
    refine ⟨?_, ?_, ?_⟩ <;> rintro rfl <;> simp at hone
  -- if the second factor did not vanish, the equation would make `d` a square
  have hfactor : ∀ s : F, s * s = 1 → i * x₂ + s * y₂ = 0 := by
    intro s hs
    by_contra hfactor
    have hsquare : (i * x₁ + s * (d * x₁ * x₂ * y₁ * y₂) * y₁) *
        (i * x₁ + s * (d * x₁ * x₂ * y₁ * y₂) * y₁) =
          d * (x₁ * y₁ * (i * x₂ + s * y₂) * (x₁ * y₁ * (i * x₂ + s * y₂))) := by
      linear_combination h₁ - d * x₁ ^ 2 * y₁ ^ 2 * h₂ +
        (d * x₁ ^ 2 * y₁ ^ 2 * x₂ ^ 2 - x₁ ^ 2) * hi +
        ((d * x₁ * x₂ * y₁ * y₂) ^ 2 * y₁ ^ 2 - d * x₁ ^ 2 * y₁ ^ 2 * y₂ ^ 2) * hs +
        (y₁ ^ 2 - 1) * hone
    exact hd.nonsquare (isSquare_of_mul_mul_eq hsquare
      (mul_ne_zero (mul_ne_zero hne.1 hne.2.1) hfactor))
  have hplus := hfactor 1 (by ring)
  have hminus := hfactor (-1) (by ring)
  have htwo : 2 * y₂ = 0 := by linear_combination hplus - hminus
  exact (mul_ne_zero hd.two_ne_zero hne.2.2) htwo

theorem one_add_product_ne_zero (hd : Complete d) {x₁ y₁ x₂ y₂ : F} (h₁ : OnCurve d x₁ y₁)
    (h₂ : OnCurve d x₂ y₂) : 1 + d * x₁ * x₂ * y₁ * y₂ ≠ 0 := by
  intro hzero
  exact product_ne_one hd h₁ h₂ (by linear_combination (d * x₁ * x₂ * y₁ * y₂ - 1) * hzero)

theorem one_sub_product_ne_zero (hd : Complete d) {x₁ y₁ x₂ y₂ : F} (h₁ : OnCurve d x₁ y₁)
    (h₂ : OnCurve d x₂ y₂) : 1 - d * x₁ * x₂ * y₁ * y₂ ≠ 0 := by
  intro hzero
  exact product_ne_one hd h₁ h₂ (by linear_combination (-(d * x₁ * x₂ * y₁ * y₂) - 1) * hzero)

/-! ## Sums -/

section

variable {x₁ y₁ x₂ y₂ x₃ y₃ : F}

/-- Both curve equations together say what the square of the product is. -/
theorem one_sub_product_sq {e : F} (h₁ : OnCurve d x₁ y₁) (h₂ : OnCurve d x₂ y₂)
    (he : e = d * x₁ * x₂ * y₁ * y₂) :
    (1 + e) * (1 - e) = 1 - (y₁ * y₁ - x₁ * x₁ - 1) * (y₂ * y₂ - x₂ * x₂ - 1) := by
  subst he
  unfold OnCurve at h₁ h₂
  linear_combination (y₂ * y₂ - x₂ * x₂ - 1) * h₁ + d * (x₁ * x₁) * (y₁ * y₁) * h₂

/-- The numerators of a sum are on the curve, over the common denominator. -/
theorem onCurve_numerators {e : F} (h₁ : OnCurve d x₁ y₁) (h₂ : OnCurve d x₂ y₂)
    (he : e = d * x₁ * x₂ * y₁ * y₂) :
    -((x₁ * y₂ + x₂ * y₁) * (1 - e)) ^ 2 + ((y₁ * y₂ + x₁ * x₂) * (1 + e)) ^ 2 =
      ((1 + e) * (1 - e)) ^ 2 +
        d * ((x₁ * y₂ + x₂ * y₁) ^ 2 * (y₁ * y₂ + x₁ * x₂) ^ 2) := by
  subst he
  unfold OnCurve at h₁ h₂
  -- without the denominators the equation is one between `y² - x²` and `d x² y²` of both points
  linear_combination
    ((y₂ ^ 2 - x₂ ^ 2) ^ 2 - (y₁ ^ 2 - x₁ ^ 2) * (y₂ ^ 2 - x₂ ^ 2) * (d * x₂ ^ 2 * y₂ ^ 2) -
      2 * (d * x₂ ^ 2 * y₂ ^ 2) +
      (d * x₂ ^ 2 * y₂ ^ 2) ^ 2 * (d * x₁ ^ 2 * y₁ ^ 2 + (y₁ ^ 2 - x₁ ^ 2 - 1))) * h₁ +
    ((y₁ ^ 2 - x₁ ^ 2) ^ 2 -
      (y₁ ^ 2 - x₁ ^ 2) * (y₂ ^ 2 - x₂ ^ 2) * (y₁ ^ 2 - x₁ ^ 2 - 1) -
      2 * (y₁ ^ 2 - x₁ ^ 2 - 1) +
      (y₁ ^ 2 - x₁ ^ 2 - 1) ^ 2 * (d * x₂ ^ 2 * y₂ ^ 2 + (y₂ ^ 2 - x₂ ^ 2 - 1))) * h₂

theorem onCurve_sum (hd : Complete d) (h₁ : OnCurve d x₁ y₁) (h₂ : OnCurve d x₂ y₂) :
    OnCurve d ((x₁ * y₂ + x₂ * y₁) / (1 + d * x₁ * x₂ * y₁ * y₂))
      ((y₁ * y₂ + x₁ * x₂) / (1 - d * x₁ * x₂ * y₁ * y₂)) := by
  have hplus := one_add_product_ne_zero hd h₁ h₂
  have hminus := one_sub_product_ne_zero hd h₁ h₂
  have hnumerators := onCurve_numerators h₁ h₂ rfl
  generalize d * x₁ * x₂ * y₁ * y₂ = e at *
  generalize x₁ * y₂ + x₂ * y₁ = X at *
  generalize y₁ * y₂ + x₁ * x₂ = Y at *
  unfold OnCurve
  field_simp
  linear_combination hnumerators

/-- Both ways to add three points have the same first coordinate, denominators cleared. -/
theorem assoc_x (h₁ : OnCurve d x₁ y₁) (h₂ : OnCurve d x₂ y₂) (h₃ : OnCurve d x₃ y₃)
    {e₁₂ e₂₃ X₁₂ Y₁₂ X₂₃ Y₂₃ : F} (he₁₂ : e₁₂ = d * x₁ * x₂ * y₁ * y₂)
    (he₂₃ : e₂₃ = d * x₂ * x₃ * y₂ * y₃) (hX₁₂ : X₁₂ = x₁ * y₂ + x₂ * y₁)
    (hY₁₂ : Y₁₂ = y₁ * y₂ + x₁ * x₂) (hX₂₃ : X₂₃ = x₂ * y₃ + x₃ * y₂)
    (hY₂₃ : Y₂₃ = y₂ * y₃ + x₂ * x₃) :
    (X₁₂ * (1 - e₁₂) * y₃ + x₃ * (Y₁₂ * (1 + e₁₂))) *
        ((1 + e₂₃) * (1 - e₂₃) + d * x₁ * X₂₃ * y₁ * Y₂₃) =
      (x₁ * (Y₂₃ * (1 + e₂₃)) + X₂₃ * (1 - e₂₃) * y₁) *
        ((1 + e₁₂) * (1 - e₁₂) + d * X₁₂ * x₃ * Y₁₂ * y₃) := by
  rw [one_sub_product_sq h₂ h₃ he₂₃, one_sub_product_sq h₁ h₂ he₁₂]
  subst he₁₂ he₂₃ hX₁₂ hY₁₂ hX₂₃ hY₂₃
  unfold OnCurve at h₁ h₂ h₃
  linear_combination
    d * x₂ * y₂ * (x₂ * y₃ + x₃ * y₂) * (y₂ * y₃ + x₂ * x₃) *
      (x₁ * (y₂ * y₃ - x₂ * x₃) + y₁ * (x₂ * y₃ - x₃ * y₂)) * h₁ +
    (y₁ ^ 2 - x₁ ^ 2 - y₃ ^ 2 + x₃ ^ 2) *
      (x₁ * (y₂ * y₃ + x₂ * x₃) + y₁ * (x₂ * y₃ + x₃ * y₂)) * h₂ -
    d * x₂ * y₂ * (x₁ * y₂ + x₂ * y₁) * (y₁ * y₂ + x₁ * x₂) *
      (x₃ * (y₁ * y₂ - x₁ * x₂) + y₃ * (x₂ * y₁ - x₁ * y₂)) * h₃

/-- The same for the second coordinate. -/
theorem assoc_y (h₁ : OnCurve d x₁ y₁) (h₂ : OnCurve d x₂ y₂) (h₃ : OnCurve d x₃ y₃)
    {e₁₂ e₂₃ X₁₂ Y₁₂ X₂₃ Y₂₃ : F} (he₁₂ : e₁₂ = d * x₁ * x₂ * y₁ * y₂)
    (he₂₃ : e₂₃ = d * x₂ * x₃ * y₂ * y₃) (hX₁₂ : X₁₂ = x₁ * y₂ + x₂ * y₁)
    (hY₁₂ : Y₁₂ = y₁ * y₂ + x₁ * x₂) (hX₂₃ : X₂₃ = x₂ * y₃ + x₃ * y₂)
    (hY₂₃ : Y₂₃ = y₂ * y₃ + x₂ * x₃) :
    (Y₁₂ * (1 + e₁₂) * y₃ + X₁₂ * (1 - e₁₂) * x₃) *
        ((1 + e₂₃) * (1 - e₂₃) - d * x₁ * X₂₃ * y₁ * Y₂₃) =
      (y₁ * (Y₂₃ * (1 + e₂₃)) + x₁ * (X₂₃ * (1 - e₂₃))) *
        ((1 + e₁₂) * (1 - e₁₂) - d * X₁₂ * x₃ * Y₁₂ * y₃) := by
  rw [one_sub_product_sq h₂ h₃ he₂₃, one_sub_product_sq h₁ h₂ he₁₂]
  subst he₁₂ he₂₃ hX₁₂ hY₁₂ hX₂₃ hY₂₃
  unfold OnCurve at h₁ h₂ h₃
  linear_combination
    d * x₂ * y₂ * (x₂ * y₃ + x₃ * y₂) * (y₂ * y₃ + x₂ * x₃) *
      (y₁ * (y₂ * y₃ - x₂ * x₃) + x₁ * (x₂ * y₃ - x₃ * y₂)) * h₁ +
    (y₁ ^ 2 - x₁ ^ 2 - y₃ ^ 2 + x₃ ^ 2) *
      (x₁ * (x₂ * y₃ + x₃ * y₂) + y₁ * (y₂ * y₃ + x₂ * x₃)) * h₂ -
    d * x₂ * y₂ * (x₁ * y₂ + x₂ * y₁) * (y₁ * y₂ + x₁ * x₂) *
      (y₃ * (y₁ * y₂ - x₁ * x₂) + x₃ * (x₂ * y₁ - x₁ * y₂)) * h₃

end

/-! ## Points -/

/-- A point of the curve. -/
@[ext] structure Point (d : F) where
  x : F
  y : F
  onCurve : OnCurve d x y

namespace Point

instance : Zero (Point d) := ⟨0, 1, by simp [OnCurve]⟩

instance : Neg (Point d) := ⟨fun P => ⟨-P.x, P.y, by simpa [OnCurve] using P.onCurve⟩⟩

@[simp] theorem zero_x : (0 : Point d).x = 0 := rfl
@[simp] theorem zero_y : (0 : Point d).y = 1 := rfl
@[simp] theorem neg_x (P : Point d) : (-P).x = -P.x := rfl
@[simp] theorem neg_y (P : Point d) : (-P).y = P.y := rfl

variable [hd : Fact (Complete d)]

instance : Add (Point d) := ⟨fun P Q =>
  ⟨(P.x * Q.y + Q.x * P.y) / (1 + d * P.x * Q.x * P.y * Q.y),
    (P.y * Q.y + P.x * Q.x) / (1 - d * P.x * Q.x * P.y * Q.y),
    onCurve_sum hd.out P.onCurve Q.onCurve⟩⟩

theorem add_x (P Q : Point d) :
    (P + Q).x = (P.x * Q.y + Q.x * P.y) / (1 + d * P.x * Q.x * P.y * Q.y) := rfl

theorem add_y (P Q : Point d) :
    (P + Q).y = (P.y * Q.y + P.x * Q.x) / (1 - d * P.x * Q.x * P.y * Q.y) := rfl

theorem plus_ne_zero (P Q : Point d) : 1 + d * P.x * Q.x * P.y * Q.y ≠ 0 :=
  one_add_product_ne_zero hd.out P.onCurve Q.onCurve

theorem minus_ne_zero (P Q : Point d) : 1 - d * P.x * Q.x * P.y * Q.y ≠ 0 :=
  one_sub_product_ne_zero hd.out P.onCurve Q.onCurve

theorem add_comm' (P Q : Point d) : P + Q = Q + P := by
  have hproduct : d * Q.x * P.x * Q.y * P.y = d * P.x * Q.x * P.y * Q.y := by ring
  ext
  · rw [add_x, add_x, hproduct, add_comm]
  · rw [add_y, add_y, hproduct, mul_comm Q.y, mul_comm Q.x]

theorem zero_add' (P : Point d) : 0 + P = P := by
  ext
  · simp [add_x]
  · simp [add_y]

theorem neg_add' (P : Point d) : -P + P = 0 := by
  have hminus := minus_ne_zero (-P) P
  ext
  · rw [add_x, neg_x, neg_y, zero_x]
    exact div_eq_zero_iff.2 (Or.inl (by ring))
  · rw [add_y, zero_y, div_eq_one_iff_eq hminus, neg_x, neg_y]
    have hcurve := P.onCurve
    unfold OnCurve at hcurve
    linear_combination hcurve

/-- **The addition law is associative.** -/
theorem add_assoc' (P Q R : Point d) : P + Q + R = P + (Q + R) := by
  have hPQ := plus_ne_zero P Q
  have hPQ' := minus_ne_zero P Q
  have hQR := plus_ne_zero Q R
  have hQR' := minus_ne_zero Q R
  have hleft := plus_ne_zero (P + Q) R
  have hleft' := minus_ne_zero (P + Q) R
  have hright := plus_ne_zero P (Q + R)
  have hright' := minus_ne_zero P (Q + R)
  have hx := assoc_x P.onCurve Q.onCurve R.onCurve rfl rfl rfl rfl rfl rfl
  have hy := assoc_y P.onCurve Q.onCurve R.onCurve rfl rfl rfl rfl rfl rfl
  rw [add_x, add_y] at hleft hleft' hright hright'
  ext
  · simp only [add_x, add_y]
    rw [div_eq_div_iff hleft hright]
    generalize d * P.x * Q.x * P.y * Q.y = e at *
    generalize d * Q.x * R.x * Q.y * R.y = e' at *
    generalize P.x * Q.y + Q.x * P.y = X at *
    generalize P.y * Q.y + P.x * Q.x = Y at *
    generalize Q.x * R.y + R.x * Q.y = X' at *
    generalize Q.y * R.y + Q.x * R.x = Y' at *
    field_simp
    linear_combination hx
  · simp only [add_x, add_y]
    rw [div_eq_div_iff hleft' hright']
    generalize d * P.x * Q.x * P.y * Q.y = e at *
    generalize d * Q.x * R.x * Q.y * R.y = e' at *
    generalize P.x * Q.y + Q.x * P.y = X at *
    generalize P.y * Q.y + P.x * Q.x = Y at *
    generalize Q.x * R.y + R.x * Q.y = X' at *
    generalize Q.y * R.y + Q.x * R.x = Y' at *
    field_simp
    linear_combination hy

instance : AddCommGroup (Point d) where
  add_assoc := add_assoc'
  zero_add := zero_add'
  add_zero P := (add_comm' P 0).trans (zero_add' P)
  neg_add_cancel := neg_add'
  add_comm := add_comm'
  nsmul := nsmulRec
  zsmul := zsmulRec

end Point

/-! ## Extended coordinates -/

/-- Projective coordinates with a fourth one for the product. -/
structure Extended (F : Type) where
  x : F
  y : F
  z : F
  t : F

namespace Extended

/-- Coordinates of a point of the curve. -/
structure Valid (d : F) (E : Extended F) : Prop where
  z_ne_zero : E.z ≠ 0
  product : E.x * E.y = E.z * E.t
  curve : (-(E.x * E.x) + E.y * E.y) * (E.z * E.z) =
    E.z * E.z * (E.z * E.z) + d * (E.x * E.x) * (E.y * E.y)

/-- The coordinates are those of the point, scaled. -/
structure Represents (E : Extended F) (P : Point d) : Prop where
  z_ne_zero : E.z ≠ 0
  x : E.x = P.x * E.z
  y : E.y = P.y * E.z
  t : E.t = P.x * P.y * E.z

theorem Represents.valid {E : Extended F} {P : Point d} (h : E.Represents P) : E.Valid d where
  z_ne_zero := h.z_ne_zero
  product := by
    rw [h.x, h.y, h.t]
    ring
  curve := by
    have hcurve := P.onCurve
    unfold OnCurve at hcurve
    rw [h.x, h.y]
    linear_combination (E.z * E.z * (E.z * E.z)) * hcurve

/-- **The invariant of the coordinates** is that they stand for a point. -/
theorem valid_iff {E : Extended F} : E.Valid d ↔ ∃ P : Point d, E.Represents P := by
  constructor
  · intro h
    have hz := h.z_ne_zero
    have hcurve := h.curve
    refine ⟨⟨E.x / E.z, E.y / E.z, ?_⟩, hz, (div_mul_cancel₀ _ hz).symm,
      (div_mul_cancel₀ _ hz).symm, ?_⟩
    · unfold OnCurve
      field_simp
      linear_combination hcurve
    · have hproduct := h.product
      field_simp
      linear_combination -hproduct
  · rintro ⟨P, h⟩
    exact h.valid

/-- The neutral point. -/
def identity : Extended F := ⟨0, 1, 1, 0⟩

theorem identity_represents : (identity : Extended F).Represents (0 : Point d) where
  z_ne_zero := one_ne_zero
  x := by simp [identity]
  y := by simp [identity]
  t := by simp [identity]

/-- Addition. -/
def add (d : F) (left right : Extended F) : Extended F :=
  let a := (left.y - left.x) * (right.y - right.x)
  let b := (left.y + left.x) * (right.y + right.x)
  let c := 2 * d * left.t * right.t
  let w := 2 * left.z * right.z
  ⟨(b - a) * (w - c), (w + c) * (b + a), (w - c) * (w + c), (b - a) * (b + a)⟩

/-- Doubling. -/
def double (E : Extended F) : Extended F :=
  let a := E.x * E.x
  let b := E.y * E.y
  let c := 2 * E.z * E.z
  let e := (E.x + E.y) * (E.x + E.y) - a - b
  ⟨e * (-a + b - c), (-a + b) * (-a - b), (-a + b - c) * (-a + b), e * (-a - b)⟩

/-- The shape of both formulas. -/
theorem represents_of_factors {P : Point d} {e f g h : F} (hg : g ≠ 0) (hf : f ≠ 0)
    (hx : P.x = e / g) (hy : P.y = h / f) :
    (⟨e * f, g * h, f * g, e * h⟩ : Extended F).Represents P where
  z_ne_zero := mul_ne_zero hf hg
  x := by
    rw [hx]
    field_simp
  y := by
    rw [hy]
    field_simp
  t := by
    rw [hx, hy]
    field_simp

variable [hd : Fact (Complete d)]

/-- **Addition of coordinates is addition of points.** -/
theorem add_represents {E E' : Extended F} {P Q : Point d} (hP : E.Represents P)
    (hQ : E'.Represents Q) : (add d E E').Represents (P + Q) := by
  have hscale : 2 * E.z * E'.z ≠ 0 :=
    mul_ne_zero (mul_ne_zero hd.out.two_ne_zero hP.z_ne_zero) hQ.z_ne_zero
  have he : (E.y + E.x) * (E'.y + E'.x) - (E.y - E.x) * (E'.y - E'.x) =
      2 * E.z * E'.z * (P.x * Q.y + Q.x * P.y) := by
    rw [hP.x, hP.y, hQ.x, hQ.y]
    ring
  have hh : (E.y + E.x) * (E'.y + E'.x) + (E.y - E.x) * (E'.y - E'.x) =
      2 * E.z * E'.z * (P.y * Q.y + P.x * Q.x) := by
    rw [hP.x, hP.y, hQ.x, hQ.y]
    ring
  have hg : 2 * E.z * E'.z + 2 * d * E.t * E'.t =
      2 * E.z * E'.z * (1 + d * P.x * Q.x * P.y * Q.y) := by
    rw [hP.t, hQ.t]
    ring
  have hf : 2 * E.z * E'.z - 2 * d * E.t * E'.t =
      2 * E.z * E'.z * (1 - d * P.x * Q.x * P.y * Q.y) := by
    rw [hP.t, hQ.t]
    ring
  apply represents_of_factors
  · rw [hg]
    exact mul_ne_zero hscale (Point.plus_ne_zero P Q)
  · rw [hf]
    exact mul_ne_zero hscale (Point.minus_ne_zero P Q)
  · rw [he, hg, mul_div_mul_left _ _ hscale, Point.add_x]
  · rw [hh, hf, mul_div_mul_left _ _ hscale, Point.add_y]

/-- **Doubling of coordinates is doubling of points.** -/
theorem double_represents {E : Extended F} {P : Point d} (hP : E.Represents P) :
    (double E).Represents (P + P) := by
  have hcurve := P.onCurve
  unfold OnCurve at hcurve
  have hscale : E.z * E.z ≠ 0 := mul_ne_zero hP.z_ne_zero hP.z_ne_zero
  have he : (E.x + E.y) * (E.x + E.y) - E.x * E.x - E.y * E.y =
      E.z * E.z * (P.x * P.y + P.x * P.y) := by
    rw [hP.x, hP.y]
    ring
  have hh : -(E.x * E.x) - E.y * E.y = -(E.z * E.z) * (P.y * P.y + P.x * P.x) := by
    rw [hP.x, hP.y]
    ring
  have hg : -(E.x * E.x) + E.y * E.y = E.z * E.z * (1 + d * P.x * P.x * P.y * P.y) := by
    rw [hP.x, hP.y]
    linear_combination (E.z * E.z) * hcurve
  have hf : -(E.x * E.x) + E.y * E.y - 2 * E.z * E.z =
      -(E.z * E.z) * (1 - d * P.x * P.x * P.y * P.y) := by
    linear_combination hg
  apply represents_of_factors
  · rw [hg]
    exact mul_ne_zero hscale (Point.plus_ne_zero P P)
  · rw [hf]
    exact mul_ne_zero (neg_ne_zero.2 hscale) (Point.minus_ne_zero P P)
  · rw [he, hg, mul_div_mul_left _ _ hscale, Point.add_x]
  · rw [hh, hf, mul_div_mul_left _ _ (neg_ne_zero.2 hscale), Point.add_y]

/-- The binary loop, low bits first: `acc` plus a multiple of `current`. -/
def multiplyLoop (d : F) : Nat → Extended F → Extended F → Nat → Extended F
  | 0, acc, _, _ => acc
  | fuel + 1, acc, current, remaining =>
    if remaining = 0 then acc
    else multiplyLoop d fuel (if remaining % 2 = 1 then add d acc current else acc)
      (double current) (remaining / 2)

/-- **The loop represents the multiple**, when it has as many rounds as the scalar has bits. -/
theorem multiplyLoop_represents : ∀ (fuel remaining : Nat) {acc current : Extended F}
    {P Q : Point d}, remaining < 2 ^ fuel → acc.Represents P → current.Represents Q →
      (multiplyLoop d fuel acc current remaining).Represents (P + remaining • Q) := by
  intro fuel
  induction fuel with
  | zero =>
    intro remaining acc current P Q hlt hP _
    obtain rfl : remaining = 0 := by omega
    rwa [multiplyLoop, zero_smul, add_zero]
  | succ fuel ih =>
    intro remaining acc current P Q hlt hP hQ
    rw [multiplyLoop]
    by_cases hzero : remaining = 0
    · rwa [if_pos hzero, hzero, zero_smul, add_zero]
    · rw [if_neg hzero]
      have hhalf : remaining / 2 < 2 ^ fuel := by
        rw [Nat.pow_succ] at hlt
        omega
      have htwice : (remaining / 2) • (Q + Q) = (2 * (remaining / 2)) • Q := by
        rw [← two_nsmul, smul_smul, Nat.mul_comm]
      by_cases hodd : remaining % 2 = 1
      · have hsplit : remaining = 2 * (remaining / 2) + 1 := by omega
        have hnext := ih (remaining / 2) hhalf (add_represents hP hQ) (double_represents hQ)
        rw [htwice, add_assoc, ← succ_nsmul', ← hsplit] at hnext
        rwa [if_pos hodd]
      · have hsplit : 2 * (remaining / 2) = remaining := by omega
        have hnext := ih (remaining / 2) hhalf hP (double_represents hQ)
        rw [htwice, hsplit] at hnext
        rwa [if_neg hodd]

end Extended

end Edwards
