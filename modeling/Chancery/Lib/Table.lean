import Mathlib

/-!
# Tables

Association lists with distinct keys, and scans for the first entry with a given tag.

* `lookup_of_mem` — with distinct keys, looking up a listed key finds its entry.
* `find?_tag` — with distinct tags, the first match is the only one.
* `isPrefixOf_iff_take` — a tag of known length is a prefix exactly when it is the input's head.
-/

set_option autoImplicit false

namespace Table

variable {κ α σ : Type}

theorem lookup_of_mem [BEq κ] [LawfulBEq κ] {table : List (κ × α)}
    (hnodup : (table.map Prod.fst).Nodup) {key : κ} {a : α} (hmem : (key, a) ∈ table) :
    table.lookup key = some a := by
  induction table with
  | nil => cases hmem
  | cons entry table ih =>
    obtain ⟨key', a'⟩ := entry
    rw [List.map_cons, List.nodup_cons] at hnodup
    rcases List.mem_cons.1 hmem with heq | htail
    · cases heq
      exact List.lookup_cons_self
    · have hne : key ≠ key' := by
        rintro rfl
        exact hnodup.1 (List.mem_map.2 ⟨(key, a), htail, rfl⟩)
      rw [List.lookup_cons, beq_false_of_ne hne]
      exact ih hnodup.2 htail

theorem mem_of_lookup [BEq κ] [LawfulBEq κ] {table : List (κ × α)} {key : κ} {a : α}
    (h : table.lookup key = some a) : (key, a) ∈ table := by
  obtain ⟨before, after, rfl, _⟩ := List.lookup_eq_some_iff.1 h
  exact List.mem_append_right _ List.mem_cons_self

theorem find?_congr {p q : α → Bool} {l : List α} (h : ∀ a ∈ l, p a = q a) :
    l.find? p = l.find? q := by
  induction l with
  | nil => rfl
  | cons a l ih =>
    rw [List.find?_cons, List.find?_cons, h a List.mem_cons_self,
      ih fun b hb => h b (List.mem_cons_of_mem _ hb)]

theorem find?_tag [BEq σ] [LawfulBEq σ] {tag : α → σ} {table : List (κ × α)}
    (hnodup : (table.map fun entry => tag entry.2).Nodup) {entry : κ × α} (hmem : entry ∈ table) :
    table.find? (fun e => tag e.2 == tag entry.2) = some entry := by
  induction table with
  | nil => cases hmem
  | cons head table ih =>
    rw [List.map_cons, List.nodup_cons] at hnodup
    rcases List.mem_cons.1 hmem with rfl | htail
    · exact List.find?_cons_of_pos (beq_self_eq_true _)
    · have hne : tag head.2 ≠ tag entry.2 := by
        intro heq
        exact hnodup.1 (heq ▸ List.mem_map.2 ⟨entry, htail, rfl⟩)
      rw [List.find?_cons_of_neg (by simp [hne])]
      exact ih hnodup.2 htail

theorem isPrefixOf_iff_take [DecidableEq σ] {tag input : List σ} :
    tag.isPrefixOf input = true ↔ input.take tag.length = tag := by
  rw [List.isPrefixOf_iff_prefix, List.prefix_iff_eq_take]
  exact eq_comm

end Table
