import Mathlib

/-!
# Masks

Sets of positions as natural numbers, and as two words of 64 bits.

* `bits` — the positions of the set bits; `bits_subset_iff` and `disjoint_bits_iff` are the tests
  that programs make.
* `ofWords` — the mask of two words; `bits_ofWords_subset`, `disjoint_bits_ofWords` test it a word
  at a time.
-/

set_option autoImplicit false

namespace Masks

variable {left right low high low' high' : Nat}

/-- The positions of the set bits. -/
def bits (mask : Nat) : Set Nat := {i | mask.testBit i = true}

@[simp] theorem mem_bits {mask i : Nat} : i ∈ bits mask ↔ mask.testBit i = true := Iff.rfl

theorem bits_or (left right : Nat) : bits (left ||| right) = bits left ∪ bits right := by
  ext i
  simp

/-- Nothing is left of `left` when the bits of `right` are cleared. -/
theorem bits_subset_iff : bits left ⊆ bits right ↔ left ^^^ (left &&& right) = 0 := by
  constructor
  · intro hsubset
    apply Nat.eq_of_testBit_eq
    intro i
    have hi : left.testBit i = true → right.testBit i = true := fun h => hsubset h
    rw [Nat.testBit_xor, Nat.testBit_and, Nat.zero_testBit]
    cases hleft : left.testBit i with
    | false => rfl
    | true => rw [hi hleft]; rfl
  · intro hzero i hleft
    have hbit := congrArg (·.testBit i) hzero
    simp only [Nat.testBit_xor, Nat.testBit_and, Nat.zero_testBit] at hbit
    rw [mem_bits] at hleft ⊢
    rw [hleft] at hbit
    simpa using hbit

theorem disjoint_bits_iff : Disjoint (bits left) (bits right) ↔ left &&& right = 0 := by
  rw [Set.disjoint_left]
  constructor
  · intro hdisjoint
    apply Nat.eq_of_testBit_eq
    intro i
    have hi : left.testBit i = true → ¬ right.testBit i = true := fun h => hdisjoint h
    rw [Nat.testBit_and, Nat.zero_testBit, Bool.and_eq_false_iff]
    by_cases hleft : left.testBit i = true
    · exact Or.inr (Bool.eq_false_iff.2 (hi hleft))
    · exact Or.inl (Bool.eq_false_iff.2 hleft)
  · intro hzero i hleft hright
    have hbit := congrArg (·.testBit i) hzero
    simp only [Nat.testBit_and, Nat.zero_testBit] at hbit
    rw [mem_bits] at hleft hright
    rw [hleft, hright] at hbit
    cases hbit

theorem disjoint_bits_or {mask : Nat} :
    Disjoint (bits mask) (bits (left ||| right)) ↔
      Disjoint (bits mask) (bits left) ∧ Disjoint (bits mask) (bits right) := by
  rw [bits_or, Set.disjoint_union_right]

/-- One bit is tested by a mask of its own. -/
theorem mem_bits_iff_and {mask i : Nat} : i ∈ bits mask ↔ mask &&& 2 ^ i ≠ 0 := by
  rw [mem_bits, Nat.and_two_pow]
  cases mask.testBit i <;> simp

/-! ## Two words -/

/-- The mask of a low and a high word. -/
def ofWords (low high : Nat) : Nat := low ||| high <<< 64

theorem mem_bits_ofWords (hlow : low < 2 ^ 64) {i : Nat} :
    i ∈ bits (ofWords low high) ↔ if i < 64 then i ∈ bits low else i - 64 ∈ bits high := by
  rw [mem_bits, ofWords, Nat.testBit_or, Nat.testBit_shiftLeft]
  by_cases hi : i < 64
  · simp [hi, Nat.not_le.2 hi]
  · have hhigh : low.testBit i = false :=
      Nat.testBit_lt_two_pow (hlow.trans_le (Nat.pow_le_pow_right (by decide) (by omega)))
    simp [hi, Nat.not_lt.1 hi, hhigh]

theorem mem_bits_lt (hlow : low < 2 ^ 64) {i : Nat} (h : i ∈ bits low) : i < 64 := by
  by_contra hi
  have hzero : low.testBit i = false :=
    Nat.testBit_lt_two_pow (hlow.trans_le (Nat.pow_le_pow_right (by decide) (by omega)))
  rw [mem_bits, hzero] at h
  cases h

/-- A property of all positions is one of the positions of both words. -/
theorem forall_bits_ofWords (hlow : low < 2 ^ 64) {p : Nat → Prop} :
    (∀ i ∈ bits (ofWords low high), p i) ↔
      (∀ i ∈ bits low, p i) ∧ ∀ i ∈ bits high, p (i + 64) := by
  constructor
  · intro h
    refine ⟨fun i hi => h i ?_, fun i hi => h (i + 64) ?_⟩
    · rwa [mem_bits_ofWords hlow, if_pos (mem_bits_lt hlow hi)]
    · rwa [mem_bits_ofWords hlow, if_neg (by omega), Nat.add_sub_cancel]
  · rintro ⟨hlower, hupper⟩ i hi
    rw [mem_bits_ofWords hlow] at hi
    by_cases hlt : i < 64
    · rw [if_pos hlt] at hi
      exact hlower i hi
    · rw [if_neg hlt] at hi
      have h := hupper (i - 64) hi
      rwa [Nat.sub_add_cancel (Nat.not_lt.1 hlt)] at h

theorem mem_bits_ofWords_low (hlow : low < 2 ^ 64) {i : Nat} (hi : i < 64) :
    i ∈ bits (ofWords low high) ↔ i ∈ bits low := by
  rw [mem_bits_ofWords hlow, if_pos hi]

theorem mem_bits_ofWords_high (hlow : low < 2 ^ 64) {i : Nat} :
    i + 64 ∈ bits (ofWords low high) ↔ i ∈ bits high := by
  rw [mem_bits_ofWords hlow, if_neg (by omega), Nat.add_sub_cancel]

/-- **Inclusion, a word at a time.** -/
theorem bits_ofWords_subset (hlow : low < 2 ^ 64) (hlow' : low' < 2 ^ 64) :
    bits (ofWords low high) ⊆ bits (ofWords low' high') ↔
      bits low ⊆ bits low' ∧ bits high ⊆ bits high' := by
  refine (forall_bits_ofWords hlow).trans (and_congr ?_ ?_)
  · exact forall₂_congr fun i hi => mem_bits_ofWords_low hlow' (mem_bits_lt hlow hi)
  · exact forall₂_congr fun i _ => mem_bits_ofWords_high hlow'

/-- **Disjointness, a word at a time.** -/
theorem disjoint_bits_ofWords (hlow : low < 2 ^ 64) (hlow' : low' < 2 ^ 64) :
    Disjoint (bits (ofWords low high)) (bits (ofWords low' high')) ↔
      Disjoint (bits low) (bits low') ∧ Disjoint (bits high) (bits high') := by
  rw [Set.disjoint_left, Set.disjoint_left, Set.disjoint_left]
  refine (forall_bits_ofWords hlow).trans (and_congr ?_ ?_)
  · exact forall₂_congr fun i hi =>
      not_congr (mem_bits_ofWords_low hlow' (mem_bits_lt hlow hi))
  · exact forall₂_congr fun i _ => not_congr (mem_bits_ofWords_high hlow')

theorem ofWords_lt (hlow : low < 2 ^ 64) (hhigh : high < 2 ^ 64) : ofWords low high < 2 ^ 128 := by
  have hshift : high <<< 64 < 2 ^ 128 := by
    rw [Nat.shiftLeft_eq]
    omega
  exact Nat.or_lt_two_pow (by omega) hshift

@[simp] theorem ofWords_zero (low : Nat) : ofWords low 0 = low := by simp [ofWords]

end Masks
