import Mathlib

/-!
# Predicates that hold on a prefix

When a predicate passes from an element of a list to every earlier one, it holds exactly below
its count.
-/

set_option autoImplicit false

namespace PrefixCount

variable {α : Type} {p : α → Bool}

theorem countP_eq_zero_of_head {a : α} {l : List α}
    (hmono : (a :: l).Pairwise fun x y => p y = true → p x = true) (ha : p a = false) :
    l.countP p = 0 := by
  rw [List.countP_eq_zero]
  intro x hx hpx
  have := (List.pairwise_cons.1 hmono).1 x hx hpx
  rw [ha] at this
  cases this

theorem iff_lt_countP {l : List α} (hmono : l.Pairwise fun x y => p y = true → p x = true)
    {i : Nat} {a : α} (h : l[i]? = some a) : p a = true ↔ i < l.countP p := by
  induction l generalizing i with
  | nil => cases h
  | cons head tail ih =>
    cases hhead : p head with
    | true =>
      rw [List.countP_cons_of_pos hhead]
      cases i with
      | zero =>
        cases h
        exact ⟨fun _ => Nat.succ_pos _, fun _ => hhead⟩
      | succ j =>
        rw [Nat.succ_lt_succ_iff]
        exact ih (List.pairwise_cons.1 hmono).2 h
    | false =>
      have hzero := countP_eq_zero_of_head hmono hhead
      rw [List.countP_cons_of_neg (by simp [hhead]), hzero]
      refine ⟨fun hpa => ?_, fun hlt => absurd hlt (Nat.not_lt_zero i)⟩
      rcases List.mem_cons.1 (List.mem_of_getElem? h) with rfl | hmem
      · rw [hhead] at hpa
        cases hpa
      · exact absurd hpa (List.countP_eq_zero.1 hzero a hmem)

end PrefixCount
