import Mathlib

/-!
# Sections of two parts

Items come in sections, each with a first and a second part.  One side writes section after
section, the other side wants all first parts before all second ones.

* `interleave`, `group` — the two orders.
* `split` — reads sections of known sizes; `split_interleave`.
-/

set_option autoImplicit false

namespace Sectioned

variable {α β : Type}

/-- Section after section. -/
def interleave (sections : List (List α × List α)) : List α :=
  sections.flatMap fun parts => parts.1 ++ parts.2

/-- All first parts, then all second parts. -/
def group (sections : List (List α × List α)) : List α :=
  sections.flatMap Prod.fst ++ sections.flatMap Prod.snd

def sizes (sections : List (List α × List α)) : List (Nat × Nat) :=
  sections.map fun parts => (parts.1.length, parts.2.length)

/-- All first parts and all second parts of sections of known sizes; nothing is left over. -/
def split : List (Nat × Nat) → List α → Option (List α × List α)
  | [], [] => some ([], [])
  | [], _ :: _ => none
  | (first, second) :: sizes, items =>
    if items.length < first + second then none
    else do
      let (firsts, seconds) ← split sizes (items.drop (first + second))
      return (items.take first ++ firsts, (items.drop first).take second ++ seconds)

@[simp] theorem interleave_cons (parts : List α × List α) (sections : List (List α × List α)) :
    interleave (parts :: sections) = parts.1 ++ (parts.2 ++ interleave sections) := by
  rw [interleave, List.flatMap_cons, List.append_assoc]
  rfl

/-- **Interleaved sections are split into their parts.** -/
theorem split_interleave (sections : List (List α × List α)) :
    split (sizes sections) (interleave sections) =
      some (sections.flatMap Prod.fst, sections.flatMap Prod.snd) := by
  induction sections with
  | nil => rfl
  | cons parts sections ih =>
    obtain ⟨first, second⟩ := parts
    have hdrop : (first ++ (second ++ interleave sections)).drop (first.length + second.length) =
        interleave sections := by
      rw [← List.append_assoc, ← List.length_append, List.drop_left]
    have hlength : ¬ (first ++ (second ++ interleave sections)).length <
        first.length + second.length := by
      simp only [List.length_append]
      omega
    rw [interleave_cons, sizes, List.map_cons, split, if_neg hlength, hdrop]
    change (split (sizes sections) (interleave sections) >>= _) = _
    rw [ih, List.take_left, List.drop_left, List.take_left]
    rfl

end Sectioned
