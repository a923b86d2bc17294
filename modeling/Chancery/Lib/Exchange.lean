import Chancery.Lib.Interaction

/-!
# Exchanges of interactive programs

What a program and its environment may have said to each other by the time it ends, and what a
program asks only when it is permitted to.

* `Exchanges` — an exchange from the first request to the result; `exchanges_record`.
* `exchanges_bind` — the exchange of a sequence taken apart.
* `Guarded` — every request is permitted by what was said before it; `guarded_append`.
-/

set_option autoImplicit false

namespace Interaction

variable {Op : Type} {Answer : Op → Type} {ε α β : Type}

/-- Some answers lead from the first request to the result. -/
inductive Exchanges : Interaction Answer ε α → List (Event Answer) → Except ε α → Prop
  | done (result : Except ε α) : Exchanges (done result) [] result
  | call {op : Op} {next : Answer op → Interaction Answer ε α} {events : List (Event Answer)}
      {result : Except ε α} (answer : Answer op) :
      Exchanges (next answer) events result →
        Exchanges (call op next) (⟨op, answer⟩ :: events) result

section

variable {events : List (Event Answer)} {result : Except ε α}

@[simp] theorem exchanges_done {result' : Except ε α} :
    (done result' : Interaction Answer ε α).Exchanges events result ↔
      events = [] ∧ result = result' := by
  constructor
  · intro h
    cases h
    exact ⟨rfl, rfl⟩
  · rintro ⟨rfl, rfl⟩
    exact .done _

theorem exchanges_call {op : Op} {next : Answer op → Interaction Answer ε α} :
    (call op next).Exchanges events result ↔
      ∃ answer later, events = ⟨op, answer⟩ :: later ∧ (next answer).Exchanges later result := by
  constructor
  · intro h
    cases h with
    | call answer h => exact ⟨answer, _, rfl, h⟩
  · rintro ⟨answer, later, rfl, h⟩
    exact .call answer h

end

/-! ## Sequences -/

/-- **The exchange of a sequence**: its first part fails, or what it says comes before the rest. -/
theorem exchanges_bind {p : Interaction Answer ε α} {f : α → Interaction Answer ε β}
    {events : List (Event Answer)} {result : Except ε β} :
    (p >>= f).Exchanges events result ↔
      (∃ e, p.Exchanges events (.error e) ∧ result = .error e) ∨
      ∃ a before after, events = before ++ after ∧ p.Exchanges before (.ok a) ∧
        (f a).Exchanges after result := by
  rw [bind_eq]
  induction p generalizing events with
  | done result' =>
    cases result' with
    | error e => simp [bind, and_comm]
    | ok a => simp [bind]
  | call op next ih =>
    simp only [bind, exchanges_call, ih]
    constructor
    · rintro ⟨answer, later, rfl, ⟨e, he, rfl⟩ | ⟨a, before, after, rfl, ha, hb⟩⟩
      · exact .inl ⟨e, ⟨answer, later, rfl, he⟩, rfl⟩
      · exact .inr ⟨a, _, after, rfl, ⟨answer, before, rfl, ha⟩, hb⟩
    · rintro (⟨e, ⟨answer, later, rfl, he⟩, rfl⟩ |
        ⟨a, _, after, rfl, ⟨answer, before, rfl, ha⟩, hb⟩)
      · exact ⟨answer, later, rfl, .inl ⟨e, he, rfl⟩⟩
      · exact ⟨answer, before ++ after, rfl, .inr ⟨a, before, after, rfl, ha, hb⟩⟩

/-! ## Recorded runs -/

/-- **A recorded run** is an exchange after what was said before it. -/
theorem exchanges_record
    (environment : List (Event Answer) → (op : Op) → Answer op) (events : List (Event Answer))
    (p : Interaction Answer ε α) :
    ∃ later, (record environment events p).1 = events ++ later ∧
      p.Exchanges later (record environment events p).2 := by
  induction p generalizing events with
  | done result => exact ⟨[], (List.append_nil events).symm, .done result⟩
  | call op next ih =>
    obtain ⟨later, hevents, h⟩ := ih (environment events op)
      (events ++ [⟨op, environment events op⟩])
    refine ⟨⟨op, environment events op⟩ :: later, ?_, .call _ h⟩
    rw [record, hevents, List.append_assoc, List.singleton_append]

/-! ## Guarded requests -/

/-- Every request is permitted by what was said before it. -/
def Guarded (permitted : List (Event Answer) → Op → Prop) (events : List (Event Answer)) : Prop :=
  ∀ before event, before ++ [event] <+: events → permitted before event.1

section

variable {permitted : List (Event Answer) → Op → Prop}

@[simp] theorem guarded_nil : Guarded permitted [] := by
  intro before event h
  simp at h

theorem guarded_cons {event : Event Answer} {events : List (Event Answer)}
    (hevent : permitted [] event.1)
    (hevents : Guarded (fun before => permitted (event :: before)) events) :
    Guarded permitted (event :: events) := by
  intro before last h
  cases before with
  | nil =>
    rw [List.nil_append, List.cons_prefix_cons] at h
    rwa [h.1]
  | cons head before =>
    rw [List.cons_append, List.cons_prefix_cons] at h
    obtain ⟨rfl, h⟩ := h
    exact hevents before last h

theorem guarded_append {before after : List (Event Answer)} (hbefore : Guarded permitted before)
    (hafter : Guarded (fun events => permitted (before ++ events)) after) :
    Guarded permitted (before ++ after) := by
  induction before generalizing permitted with
  | nil => exact hafter
  | cons event before ih =>
    refine guarded_cons (hbefore [] event (by simp)) (ih ?_ hafter)
    exact fun earlier last h => hbefore (event :: earlier) last
      (List.cons_prefix_cons.2 ⟨rfl, h⟩)

end

end Interaction
