import Mathlib

/-!
# Slope at most one

Charges that grow no faster than the amount they are taken from.

* `Gentle` — the slope is at most one.
* `Gentle.max`, `Gentle.min` — how charges are put together.
* `gentle_mul_add_ediv` — a proportion of at most one, rounded in any direction.
-/

set_option autoImplicit false

section

variable {α : Type} [AddCommGroup α] [LinearOrder α]

/-- A function that grows no faster than its argument. -/
def Gentle (f : α → α) : Prop := ∀ ⦃x y⦄, x ≤ y → f y - f x ≤ y - x

variable {f g : α → α}

variable [IsOrderedAddMonoid α]

theorem gentle_const (c : α) : Gentle fun _ : α => c := by
  intro x y hxy
  rw [sub_self]
  exact sub_nonneg.2 hxy

theorem Gentle.max (hf : Gentle f) (hg : Gentle g) : Gentle fun x => max (f x) (g x) := by
  intro x y hxy
  rw [sub_le_iff_le_add]
  apply max_le
  · exact (sub_le_iff_le_add.1 (hf hxy)).trans (add_le_add_right (le_max_left _ _) _)
  · exact (sub_le_iff_le_add.1 (hg hxy)).trans (add_le_add_right (le_max_right _ _) _)

theorem Gentle.min (hf : Gentle f) (hg : Gentle g) : Gentle fun x => min (f x) (g x) := by
  intro x y hxy
  rw [sub_le_comm]
  apply le_min
  · exact (sub_le_sub_right (min_le_left _ _) _).trans (sub_le_comm.1 (hf hxy))
  · exact (sub_le_sub_right (min_le_right _ _) _).trans (sub_le_comm.1 (hg hxy))

end

/-! ## Rounded proportions -/

variable {p q : Int}

theorem monotone_mul_add_ediv (hp : 0 ≤ p) (hq : 0 < q) (c : Int) :
    Monotone fun x : Int => (x * p + c) / q := by
  intro x y hxy
  have hmul := Int.mul_le_mul_of_nonneg_right hxy hp
  exact Int.ediv_le_ediv hq (by omega)

/-- A proportion `p / q ≤ 1`; the offset `c` decides the rounding. -/
theorem gentle_mul_add_ediv (hpq : p ≤ q) (hq : 0 < q) (c : Int) :
    Gentle fun x : Int => (x * p + c) / q := by
  intro x y hxy
  have hmul : (y - x) * p ≤ (y - x) * q := Int.mul_le_mul_of_nonneg_left hpq (by omega)
  have hle : y * p + c ≤ x * p + c + (y - x) * q := by linarith [sub_mul y x p]
  have hdiv := Int.ediv_le_ediv hq hle
  rw [Int.add_mul_ediv_right _ _ hq.ne'] at hdiv
  dsimp only
  omega
