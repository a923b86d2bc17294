import Chancery.Lib.Codec

/-!
# Interactive programs

A program that asks its environment and goes on with the answers, or fails.  The environment is
not part of it: any answer may come back to any request.

* `Interaction` — a result, or a request with a continuation for every answer.
* `Yields` — some answers lead to the result; `yields_bind` takes a sequence apart.
* `run` — the run against one environment; `yields_run`, `run_of_check`, `run_bind`.
* `record` — the run against an environment that remembers, with everything said on the way.
* `embed`, `run_embed` — a program over some requests as a program over more of them.
-/

set_option autoImplicit false

/-- A program that makes calls. -/
inductive Interaction {Op : Type} (Answer : Op → Type) (ε α : Type) : Type
  | done (result : Except ε α)
  | call (op : Op) (next : Answer op → Interaction Answer ε α)

namespace Interaction

variable {Op Op' : Type} {Answer : Op → Type} {Answer' : Op' → Type} {ε α β : Type}

/-- Sequencing; a failure ends the program. -/
def bind : Interaction Answer ε α → (α → Interaction Answer ε β) → Interaction Answer ε β
  | done (.ok a), f => f a
  | done (.error e), _ => done (.error e)
  | call op next, f => call op fun answer => (next answer).bind f

instance : Monad (Interaction Answer ε) where
  pure a := done (.ok a)
  bind := bind

instance : MonadLift (Except ε) (Interaction Answer ε) where
  monadLift := done

/-- Ask and go on with the answer. -/
def ask (op : Op) : Interaction Answer ε (Answer op) := call op fun answer => done (.ok answer)

/-- Some answers lead to the result. -/
inductive Yields : Interaction Answer ε α → Except ε α → Prop
  | done (result : Except ε α) : Yields (done result) result
  | call {op : Op} {next : Answer op → Interaction Answer ε α} {result : Except ε α}
      (answer : Answer op) : Yields (next answer) result → Yields (call op next) result

@[simp] theorem yields_done {result result' : Except ε α} :
    (done result : Interaction Answer ε α).Yields result' ↔ result = result' := by
  constructor
  · intro h
    cases h
    rfl
  · rintro rfl
    exact .done result

theorem yields_call {op : Op} {next : Answer op → Interaction Answer ε α} {result : Except ε α} :
    (call op next).Yields result ↔ ∃ answer, (next answer).Yields result := by
  constructor
  · intro h
    cases h with
    | call answer h => exact ⟨answer, h⟩
  · rintro ⟨answer, h⟩
    exact .call answer h

theorem bind_eq (p : Interaction Answer ε α) (f : α → Interaction Answer ε β) :
    p >>= f = p.bind f := rfl

/-- **A sequence returns** when its first part does and the rest does from there. -/
theorem yields_bind {p : Interaction Answer ε α} {f : α → Interaction Answer ε β} {b : β} :
    (p >>= f).Yields (.ok b) ↔ ∃ a, p.Yields (.ok a) ∧ (f a).Yields (.ok b) := by
  rw [bind_eq]
  induction p with
  | done result =>
    cases result with
    | error e => simp [bind]
    | ok a => simp [bind]
  | call op next ih =>
    simp only [bind, yields_call, ih]
    constructor
    · rintro ⟨answer, a, ha, hb⟩
      exact ⟨a, ⟨answer, ha⟩, hb⟩
    · rintro ⟨a, ⟨answer, ha⟩, hb⟩
      exact ⟨answer, a, ha, hb⟩

theorem yields_lift_bind {x : Except ε α} {f : α → Interaction Answer ε β} {b : β} :
    ((liftM x : Interaction Answer ε α) >>= f).Yields (.ok b) ↔
      ∃ a, x = .ok a ∧ (f a).Yields (.ok b) := by
  rw [yields_bind]
  exact exists_congr fun a => and_congr_left' yields_done

/-! ## Runs -/

/-- The result against an oracle. -/
def run (oracle : (op : Op) → Answer op) : Interaction Answer ε α → Except ε α
  | done result => result
  | call op next => (next (oracle op)).run oracle

theorem yields_run (oracle : (op : Op) → Answer op) (p : Interaction Answer ε α) :
    p.Yields (p.run oracle) := by
  induction p with
  | done result => exact .done result
  | call op next ih => exact .call (oracle op) (ih (oracle op))

theorem yields_of_run_eq {oracle : (op : Op) → Answer op} {p : Interaction Answer ε α}
    {result : Except ε α} (h : p.run oracle = result) : p.Yields result := by
  rw [← h]
  exact yields_run oracle p

/-- What a run returns, and a check on it. -/
theorem run_of_check {oracle : (op : Op) → Answer op} {p : Interaction Answer ε α}
    {check : α → Bool} (h : (p.run oracle).toOption.any check = true) :
    ∃ a, p.run oracle = .ok a ∧ check a = true := by
  cases hrun : p.run oracle with
  | error e => simp [hrun, Except.toOption] at h
  | ok a =>
    rw [hrun] at h
    exact ⟨a, rfl, h⟩

theorem yields_of_check {oracle : (op : Op) → Answer op} {p : Interaction Answer ε α}
    {check : α → Bool} (h : (p.run oracle).toOption.any check = true) :
    ∃ a, p.Yields (.ok a) ∧ check a = true := by
  obtain ⟨a, hrun, hcheck⟩ := run_of_check h
  exact ⟨a, yields_of_run_eq hrun, hcheck⟩

theorem run_bind (oracle : (op : Op) → Answer op) (p : Interaction Answer ε α)
    (f : α → Interaction Answer ε β) :
    (p >>= f).run oracle = p.run oracle >>= fun a => (f a).run oracle := by
  rw [bind_eq]
  induction p with
  | done result => cases result <;> rfl
  | call op next ih => exact ih (oracle op)

/-! ## Records -/

/-- A request and what came back. -/
abbrev Event (Answer : Op → Type) := (op : Op) × Answer op

/-- The exchange so far decides what the environment answers next. -/
def record (environment : List (Event Answer) → (op : Op) → Answer op) :
    List (Event Answer) → Interaction Answer ε α → List (Event Answer) × Except ε α
  | events, done result => (events, result)
  | events, call op next =>
    record environment (events ++ [⟨op, environment events op⟩]) (next (environment events op))

section

variable {environment : List (Event Answer) → (op : Op) → Answer op} {events : List (Event Answer)}

theorem record_bind (p : Interaction Answer ε α) (f : α → Interaction Answer ε β) :
    record environment events (p >>= f) =
      match record environment events p with
      | (events, .ok a) => record environment events (f a)
      | (events, .error e) => (events, .error e) := by
  rw [bind_eq]
  induction p generalizing events with
  | done result => cases result <;> rfl
  | call op next ih => exact ih (environment events op)

end

/-! ## Embedding -/

/-- Calls as calls of another interface. -/
def embed (request : Op → Op') (answer : (op : Op) → Answer' (request op) → Answer op) :
    Interaction Answer ε α → Interaction Answer' ε α
  | done result => done result
  | call op next => call (request op) fun a => (next (answer op a)).embed request answer

/-- An embedded program returns what it returns. -/
theorem yields_of_embed {request : Op → Op'}
    {answer : (op : Op) → Answer' (request op) → Answer op} {p : Interaction Answer ε α}
    {result : Except ε α} (h : (p.embed request answer).Yields result) : p.Yields result := by
  induction p with
  | done result' => exact yields_done.2 (yields_done.1 h)
  | call op next ih =>
    obtain ⟨a, ha⟩ := yields_call.1 h
    exact .call (answer op a) (ih _ ha)

theorem run_embed {request : Op → Op'} {answer : (op : Op) → Answer' (request op) → Answer op}
    (oracle : (op : Op') → Answer' op) (p : Interaction Answer ε α) :
    (p.embed request answer).run oracle = p.run fun op => answer op (oracle (request op)) := by
  induction p with
  | done result => rfl
  | call op next ih => exact ih (answer op (oracle (request op)))

end Interaction
