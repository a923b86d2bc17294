import Mathlib

/-!
# Stable sorting by a comparison

* `sortBy` — the stable sort of a list by a comparison; `sortBy_perm`, `pairwise_sortBy`.
* `sortBy_eq_of_perm` — the order of a list does not matter when only equal items compare equal.
* `sortBy_congr`, `compare_of_sortBy_eq` — two comparisons sort a list alike exactly when they
  agree on its items, up to items that both hold for equal.
* `sortBy_map` — sorting commutes with a map that respects the comparison.
-/

set_option autoImplicit false

namespace StableSort

variable {α β : Type}

/-- Insertion keeps the order of items that compare equal, so the sort is the stable one. -/
def sortBy (cmp : α → α → Ordering) (items : List α) : List α :=
  items.insertionSort fun a b => (cmp a b).isLE = true

theorem sortBy_perm (cmp : α → α → Ordering) (items : List α) : (sortBy cmp items).Perm items :=
  List.perm_insertionSort _ items

theorem mem_sortBy {cmp : α → α → Ordering} {items : List α} {a : α} :
    a ∈ sortBy cmp items ↔ a ∈ items :=
  (sortBy_perm cmp items).mem_iff

section Order

variable {cmp : α → α → Ordering} [Std.TransCmp cmp]

theorem pairwise_sortBy (items : List α) :
    (sortBy cmp items).Pairwise fun a b => (cmp a b).isLE = true := by
  have htotal : Std.Total fun a b => (cmp a b).isLE = true := by
    refine ⟨fun a b => ?_⟩
    have hswap : cmp b a = (cmp a b).swap := Std.OrientedCmp.eq_swap
    rw [hswap]
    cases cmp a b <;> simp
  have htrans : IsTrans α fun a b => (cmp a b).isLE = true :=
    ⟨fun _ _ _ => Std.TransCmp.isLE_trans⟩
  exact List.pairwise_insertionSort _ items

/-- **Only the items matter**, when no two different ones compare equal. -/
theorem sortBy_eq_of_perm {items items' : List α} (h : items.Perm items')
    (heq : ∀ a ∈ items, ∀ b ∈ items, cmp a b = .eq → a = b) :
    sortBy cmp items = sortBy cmp items' := by
  have hperm : (sortBy cmp items).Perm (sortBy cmp items') :=
    (sortBy_perm cmp items).trans (h.trans (sortBy_perm cmp items').symm)
  refine hperm.eq_of_pairwise ?_ (pairwise_sortBy items) (pairwise_sortBy items')
  intro a b ha hb hab hba
  refine heq a (mem_sortBy.1 ha) b (h.mem_iff.2 (mem_sortBy.1 hb)) ?_
  exact Std.OrientedCmp.isLE_antisymm hab hba

end Order

theorem sortBy_map {cmp : α → α → Ordering} {cmp' : β → β → Ordering} {f : α → β}
    {items : List α} (h : ∀ a ∈ items, ∀ b ∈ items, cmp' (f a) (f b) = cmp a b) :
    sortBy cmp' (items.map f) = (sortBy cmp items).map f := by
  exact (List.map_insertionSort _ _ f items fun a ha b hb => by rw [h a ha b hb]).symm

/-- **Comparisons that agree on the items sort them alike.** -/
theorem sortBy_congr {cmp cmp' : α → α → Ordering} {items : List α}
    (h : ∀ a ∈ items, ∀ b ∈ items, cmp' a b = cmp a b) : sortBy cmp' items = sortBy cmp items := by
  have hmap := sortBy_map (f := id) h
  simpa using hmap

/-- **Comparisons that sort the items alike agree on them**, up to what either holds for equal. -/
theorem compare_of_sortBy_eq {cmp cmp' : α → α → Ordering} [Std.TransCmp cmp] [Std.TransCmp cmp']
    {items : List α} (h : sortBy cmp items = sortBy cmp' items) {a b : α} (ha : a ∈ items)
    (hb : b ∈ items) (hne : cmp a b ≠ .eq) (hne' : cmp' a b ≠ .eq) : cmp a b = cmp' a b := by
  have hsorted : (sortBy cmp items).Pairwise fun a b => (cmp a b).isLE = true :=
    pairwise_sortBy items
  have hsorted' : (sortBy cmp' items).Pairwise fun a b => (cmp' a b).isLE = true :=
    pairwise_sortBy items
  rw [← h] at hsorted'
  let R (x y : α) : Prop := ((cmp x y).isLE = true ∧ (cmp' x y).isLE = true) ∨
    ((cmp y x).isLE = true ∧ (cmp' y x).isLE = true)
  have hsymm : Std.Symm R := ⟨fun _ _ hR => hR.symm⟩
  have hR : (sortBy cmp items).Pairwise R :=
    (hsorted.and hsorted').imp fun hxy => Or.inl hxy
  have hab : a ≠ b := by
    rintro rfl
    exact hne Std.ReflCmp.compare_self
  have hboth : R a b := hR.forall (mem_sortBy.2 ha) (mem_sortBy.2 hb) hab
  have hswap : cmp b a = (cmp a b).swap := Std.OrientedCmp.eq_swap
  have hswap' : cmp' b a = (cmp' a b).swap := Std.OrientedCmp.eq_swap
  unfold R at hboth
  rw [hswap, hswap'] at hboth
  cases hcmp : cmp a b <;> cases hcmp' : cmp' a b <;> simp_all

end StableSort
