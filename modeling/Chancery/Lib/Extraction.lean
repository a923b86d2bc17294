import Chancery.Lib.Codec
import Mathlib

/-!
# Extraction from a list

A loop walks over sites, skips some and keeps one result for each of the others.

* `Extracts P sites results` — in order, one result with `P` for every site that has one and
  none for the sites that have none.
* `gather`, `collect` — the loop, with and without an index; `extracts_gather` lifts a fact about one visit to the whole walk.
* `forall₂_gather` — a walk that skips nothing relates items and results one to one.
* `gather_fuse` — a walk over what another walk returned is one walk.
-/

set_option autoImplicit false

namespace Extraction

variable {ε α β γ : Type}

/-- One output for each item that carries one, in order. -/
inductive Extracts (P : α → β → Prop) : List α → List β → Prop
  | nil : Extracts P [] []
  | keep {a : α} {b : β} {as : List α} {bs : List β} :
      P a b → Extracts P as bs → Extracts P (a :: as) (b :: bs)
  | skip {a : α} {as : List α} {bs : List β} :
      (∀ b, ¬ P a b) → Extracts P as bs → Extracts P (a :: as) bs

namespace Extracts

variable {P Q : α → β → Prop}

theorem single {a : α} {b : β} (h : P a b) : Extracts P [a] [b] := .keep h .nil

theorem none {a : α} (h : ∀ b, ¬ P a b) : Extracts P [a] [] := .skip h .nil

theorem append {as as' : List α} {bs bs' : List β} (h : Extracts P as bs)
    (h' : Extracts P as' bs') : Extracts P (as ++ as') (bs ++ bs') := by
  induction h with
  | nil => exact h'
  | keep hp _ ih => exact .keep hp ih
  | skip hp _ ih => exact .skip hp ih

end Extracts

/-- The loop: visit every item in turn and append what the visits return. -/
def gather (visit : Nat → α → Except ε (List β)) : Nat → List α → Except ε (List β)
  | _, [] => .ok []
  | index, a :: as => do
    let found ← visit index a
    let rest ← gather visit (index + 1) as
    return found ++ rest

theorem gather_cons {visit : Nat → α → Except ε (List β)} {index : Nat} {a : α} {as : List α}
    {bs : List β} (h : gather visit index (a :: as) = .ok bs) :
    ∃ found rest, visit index a = .ok found ∧ gather visit (index + 1) as = .ok rest ∧
      bs = found ++ rest := by
  obtain ⟨found, hfound, hbody⟩ := Except.bind_eq_ok.1 h
  obtain ⟨rest, hrest, hret⟩ := Except.bind_eq_ok.1 hbody
  cases hret
  exact ⟨found, rest, hfound, hrest, rfl⟩

theorem extracts_gather {visit : Nat → α → Except ε (List β)} {P : γ → β → Prop}
    (sites : α × Nat → List γ)
    (hvisit : ∀ index a bs, visit index a = .ok bs → Extracts P (sites (a, index)) bs) :
    ∀ {as : List α} {index : Nat} {bs : List β}, gather visit index as = .ok bs →
      Extracts P ((as.zipIdx index).flatMap sites) bs
  | [], _, _, h => by cases h; exact .nil
  | a :: as, index, bs, h => by
    obtain ⟨found, rest, hfound, hrest, rfl⟩ := gather_cons h
    rw [List.zipIdx_cons, List.flatMap_cons]
    exact (hvisit index a found hfound).append (extracts_gather sites hvisit hrest)

theorem forall₂_gather {visit : Nat → α → Except ε (List β)} {R : α → β → Prop}
    (hvisit : ∀ index a bs, visit index a = .ok bs → ∃ b, bs = [b] ∧ R a b) :
    ∀ {as : List α} {index : Nat} {bs : List β}, gather visit index as = .ok bs →
      List.Forall₂ R as bs
  | [], _, _, h => by cases h; exact .nil
  | a :: as, index, bs, h => by
    obtain ⟨found, rest, hfound, hrest, rfl⟩ := gather_cons h
    obtain ⟨b, rfl, hR⟩ := hvisit index a found hfound
    exact .cons hR (forall₂_gather hvisit hrest)

theorem filterMap_of_forall₂ {f : α → Option β} {as : List α} {bs : List β}
    (h : List.Forall₂ (fun a b => f a = some b) as bs) : as.filterMap f = bs := by
  induction h with
  | nil => rfl
  | cons hab _ ih => rw [List.filterMap_cons, hab, ih]

/-- The loop over items whose position does not matter. -/
def collect (visit : α → Except ε (List β)) : List α → Except ε (List β)
  | [] => .ok []
  | a :: as => do
    let found ← visit a
    let rest ← collect visit as
    return found ++ rest

theorem collect_append {visit : α → Except ε (List β)} : ∀ {as as' : List α} {bs : List β},
    collect visit (as ++ as') = .ok bs → ∃ found rest, collect visit as = .ok found ∧
      collect visit as' = .ok rest ∧ bs = found ++ rest
  | [], _, bs, h => ⟨[], bs, rfl, h, rfl⟩
  | a :: as, as', bs, h => by
    obtain ⟨first, hfirst, hbody⟩ := Except.bind_eq_ok.1 h
    obtain ⟨others, hothers, hret⟩ := Except.bind_eq_ok.1 hbody
    cases hret
    obtain ⟨found, rest, hfound, hrest, rfl⟩ := collect_append hothers
    refine ⟨first ++ found, rest, ?_, hrest, (List.append_assoc ..).symm⟩
    exact Except.bind_eq_ok.2 ⟨first, hfirst, Except.bind_eq_ok.2 ⟨found, hfound, rfl⟩⟩

/-- **Two walks in a row are one walk**, each visit followed by the second walk over its finds. -/
theorem gather_fuse {visit : Nat → α → Except ε (List β)} {next : β → Except ε (List γ)} :
    ∀ {as : List α} {index : Nat} {bs : List β} {cs : List γ},
      gather visit index as = .ok bs → collect next bs = .ok cs →
      gather (fun i a => visit i a >>= collect next) index as = .ok cs
  | [], _, _, _, h, h' => by cases h; cases h'; rfl
  | a :: as, index, bs, cs, h, h' => by
    obtain ⟨found, rest, hfound, hrest, rfl⟩ := gather_cons h
    obtain ⟨first, others, hfirst, hothers, rfl⟩ := collect_append h'
    refine Except.bind_eq_ok.2 ⟨first, Except.bind_eq_ok.2 ⟨found, hfound, hfirst⟩, ?_⟩
    exact Except.bind_eq_ok.2 ⟨others, gather_fuse hrest hothers, rfl⟩

end Extraction
