import Chancery.Lib.Table

/-!
# Saturation by rules

A table of values under keys, and for some keys a rule that computes the value from the table.
Passes over the rules add what can be computed, until one adds nothing or a limit is reached.

* `Derives` — the values that finitely many uses of the rules lead to.
* `passes` — the bounded loop; `lookup_passes_iff` — it finds all of them and nothing else, when
  the limit is the number of rules at least.
* `passes_ok` — it fails only where a rule fails on derived values.
* `passes_perm` — the order of the rules decides about nothing.
-/

set_option autoImplicit false

namespace Saturation

/-- What a rule makes of a table. -/
inductive Outcome (ε V : Type) where
  | value (v : V)
  | blocked
  | failed (e : ε)

variable {K V ε : Type} [DecidableEq K]

/-- What is known so far. -/
abbrev Known (K V : Type) := List (K × V)

/-- What a rule says about the known values. -/
abbrev Rule (K V ε : Type) := Known K V → Outcome ε V

/-- A table with more in it. -/
def Grows (known known' : Known K V) : Prop :=
  ∀ k v, known.lookup k = some v → known'.lookup k = some v

/-- More values change nothing but a blocked outcome. -/
def Stable (rule : Rule K V ε) : Prop :=
  ∀ known known', Grows known known' → (rule known = .blocked → False) →
    rule known' = rule known

theorem Grows.refl (known : Known K V) : Grows known known := fun _ _ h => h

theorem Grows.trans {known known' known'' : Known K V} (h : Grows known known')
    (h' : Grows known' known'') : Grows known known'' := fun k v hk => h' k v (h k v hk)

theorem grows_cons {known : Known K V} {k : K} (v : V) (h : known.lookup k = none) :
    Grows known ((k, v) :: known) := by
  intro k' v' hk'
  by_cases heq : k' = k
  · subst heq
    rw [h] at hk'
    cases hk'
  · rw [List.lookup_cons, beq_false_of_ne heq]
    exact hk'

/-! ## The loop -/

/-- Try a rule on what is known: is there something to add? -/
def attempt (entry : K × Rule K V ε) (known : Known K V) : Except ε (Option V) :=
  match known.lookup entry.1 with
  | some _ => .ok none
  | none => match entry.2 known with
    | .value v => .ok (some v)
    | .blocked => .ok none
    | .failed e => .error e

/-- One pass over the rules.  Has anything been added? -/
def pass : List (K × Rule K V ε) → Known K V → Bool → Except ε (Known K V × Bool)
  | [], known, changed => .ok (known, changed)
  | entry :: rest, known, changed =>
    match attempt entry known with
    | .error e => .error e
    | .ok none => pass rest known changed
    | .ok (some v) => pass rest ((entry.1, v) :: known) true

/-- Passes until one adds nothing. -/
def passes (rules : List (K × Rule K V ε)) : Nat → Known K V → Except ε (Known K V)
  | 0, known => .ok known
  | limit + 1, known =>
    match pass rules known false with
    | .error e => .error e
    | .ok (known, true) => passes rules limit known
    | .ok (known, false) => .ok known

/-! ## Derived values -/

section

variable (rules : List (K × Rule K V ε)) (given : Known K V)

/-- The values that the rules derive. -/
inductive Derives : K → V → Prop
  | given {k : K} {v : V} (h : given.lookup k = some v) : Derives k v
  | rule {k : K} {v : V} {rule : Rule K V ε} {known : Known K V} (hrule : (k, rule) ∈ rules)
      (hfree : given.lookup k = none) (hknown : ∀ k v, known.lookup k = some v → Derives k v)
      (hvalue : rule known = .value v) : Derives k v

/-- Some rule fails on derived values. -/
def Fails : Prop :=
  ∃ k rule known e, (k, rule) ∈ rules ∧ given.lookup k = none ∧
    (∀ k v, known.lookup k = some v → Derives rules given k v) ∧ rule known = .failed e

/-- A table of derived values, each given or by its rule. -/
structure Supported (known : Known K V) : Prop where
  grows : Grows given known
  derives : ∀ k v, known.lookup k = some v → Derives rules given k v
  supported : ∀ k v, known.lookup k = some v → given.lookup k = some v ∨
    given.lookup k = none ∧ ∃ rule, (k, rule) ∈ rules ∧ rule known = .value v

/-- Every rule of a key that is not in the table is blocked. -/
def Saturated (known : Known K V) : Prop :=
  ∀ entry ∈ rules, known.lookup entry.1 = none → entry.2 known = .blocked

variable {rules given}

theorem Supported.initial : Supported rules given given where
  grows := .refl given
  derives := fun _ _ h => .given h
  supported := fun _ _ h => .inl h

theorem lookup_none_of_grows {known known' : Known K V} (h : Grows known known') {k : K}
    (hk : known'.lookup k = none) : known.lookup k = none := by
  cases hlookup : known.lookup k with
  | none => rfl
  | some v =>
    rw [h k v hlookup] at hk
    cases hk

/-- **A value that a rule adds is supported.** -/
theorem Supported.cons (hstable : ∀ entry ∈ rules, Stable entry.2) {known : Known K V}
    (h : Supported rules given known) {k : K} {rule : Rule K V ε} {v : V}
    (hrule : (k, rule) ∈ rules) (hfree : known.lookup k = none) (hvalue : rule known = .value v) :
    Supported rules given ((k, v) :: known) := by
  have hgrows := grows_cons v hfree
  have hgiven := lookup_none_of_grows h.grows hfree
  have hkept : ∀ {rule : Rule K V ε} {k' : K} {v' : V}, (k', rule) ∈ rules →
      rule known = .value v' → rule ((k, v) :: known) = .value v' := by
    intro rule k' v' hmem hrule'
    rw [← hrule']
    exact hstable _ hmem known _ hgrows fun hblocked => nomatch hrule'.symm.trans hblocked
  refine ⟨h.grows.trans hgrows, ?_, ?_⟩
  · intro k' v' hk'
    by_cases heq : k' = k
    · subst heq
      rw [List.lookup_cons_self] at hk'
      cases hk'
      exact .rule hrule hgiven h.derives hvalue
    · rw [List.lookup_cons, beq_false_of_ne heq] at hk'
      exact h.derives k' v' hk'
  · intro k' v' hk'
    by_cases heq : k' = k
    · subst heq
      rw [List.lookup_cons_self] at hk'
      cases hk'
      exact .inr ⟨hgiven, rule, hrule, hkept hrule hvalue⟩
    · rw [List.lookup_cons, beq_false_of_ne heq] at hk'
      rcases h.supported k' v' hk' with hold | ⟨hnone, rule', hrule', hvalue'⟩
      · exact .inl hold
      · exact .inr ⟨hnone, rule', hrule', hkept hrule' hvalue'⟩

/-! ## One pass -/

theorem attempt_none {entry : K × Rule K V ε} {known : Known K V}
    (h : attempt entry known = .ok none) (hfree : known.lookup entry.1 = none) :
    entry.2 known = .blocked := by
  unfold attempt at h
  rw [hfree] at h
  cases hrule : entry.2 known with
  | blocked => rfl
  | value v => simp [hrule] at h
  | failed e => simp [hrule] at h

theorem attempt_some {entry : K × Rule K V ε} {known : Known K V} {v : V}
    (h : attempt entry known = .ok (some v)) :
    known.lookup entry.1 = none ∧ entry.2 known = .value v := by
  unfold attempt at h
  split at h
  · cases h
  · rename_i hfree
    refine ⟨hfree, ?_⟩
    split at h
    · cases h
      assumption
    · cases h
    · cases h

theorem attempt_error {entry : K × Rule K V ε} {known : Known K V} {e : ε}
    (h : attempt entry known = .error e) :
    known.lookup entry.1 = none ∧ entry.2 known = .failed e := by
  unfold attempt at h
  split at h
  · cases h
  · rename_i hfree
    refine ⟨hfree, ?_⟩
    split at h
    · cases h
    · cases h
    · cases h
      assumption

/-- What a pass keeps, from what adding a value keeps. -/
theorem pass_induction {P : Known K V → Prop} {todo : List (K × Rule K V ε)}
    (hstep : ∀ entry ∈ todo, ∀ known v, P known → known.lookup entry.1 = none →
      entry.2 known = .value v → P ((entry.1, v) :: known)) :
    ∀ {known known' : Known K V} {changed changed' : Bool}, P known →
      pass todo known changed = .ok (known', changed') → P known' := by
  induction todo with
  | nil =>
    intro known known' changed changed' hP h
    cases h
    exact hP
  | cons entry rest ih =>
    intro known known' changed changed' hP h
    have ih := @ih fun entry hentry => hstep entry (List.mem_cons_of_mem _ hentry)
    rw [pass] at h
    split at h
    · cases h
    · exact ih hP h
    · rename_i v hattempt
      obtain ⟨hfree, hvalue⟩ := attempt_some hattempt
      exact ih (hstep entry List.mem_cons_self known v hP hfree hvalue) h

theorem pass_grows {todo : List (K × Rule K V ε)} {known known' : Known K V}
    {changed changed' : Bool} (h : pass todo known changed = .ok (known', changed')) :
    Grows known known' :=
  pass_induction (P := Grows known)
    (fun _ _ _ v hgrows hfree _ => hgrows.trans (grows_cons v hfree)) (.refl known) h

theorem pass_supported (hstable : ∀ entry ∈ rules, Stable entry.2) {known known' : Known K V}
    {changed changed' : Bool} (hknown : Supported rules given known)
    (h : pass rules known changed = .ok (known', changed')) : Supported rules given known' :=
  pass_induction (fun _ hentry _ _ hsupported hfree hvalue =>
    hsupported.cons hstable hentry hfree hvalue) hknown h

theorem pass_changed_of_changed : ∀ {todo : List (K × Rule K V ε)} {known known' : Known K V}
    {changed' : Bool}, pass todo known true = .ok (known', changed') → changed' = true
  | [], _, _, _, h => by
    cases h
    rfl
  | entry :: rest, known, known', changed', h => by
    rw [pass] at h
    split at h
    · cases h
    · exact pass_changed_of_changed h
    · exact pass_changed_of_changed h

/-- **A pass that adds nothing** found every rule blocked. -/
theorem pass_unchanged : ∀ {todo : List (K × Rule K V ε)} {known known' : Known K V},
    pass todo known false = .ok (known', false) → known' = known ∧ Saturated todo known
  | [], _, _, h => by
    cases h
    exact ⟨rfl, fun entry hentry => nomatch hentry⟩
  | entry :: rest, known, known', h => by
    rw [pass] at h
    split at h
    · cases h
    · rename_i hattempt
      obtain ⟨rfl, hrest⟩ := pass_unchanged h
      refine ⟨rfl, fun other hother => ?_⟩
      rcases List.mem_cons.1 hother with rfl | hother
      · exact attempt_none hattempt
      · exact hrest other hother
    · cases pass_changed_of_changed h

/-- A pass that adds something resolves a key that was open. -/
theorem pass_changed : ∀ {todo : List (K × Rule K V ε)} {known known' : Known K V},
    pass todo known false = .ok (known', true) →
      ∃ entry ∈ todo, known.lookup entry.1 = none ∧ known'.lookup entry.1 ≠ none
  | [], _, _, h => by cases h
  | entry :: rest, known, known', h => by
    rw [pass] at h
    split at h
    · cases h
    · obtain ⟨other, hother, hopen⟩ := pass_changed h
      exact ⟨other, List.mem_cons_of_mem _ hother, hopen⟩
    · rename_i v hattempt
      refine ⟨entry, List.mem_cons_self, (attempt_some hattempt).1, fun hnone => ?_⟩
      rw [pass_grows h entry.1 v List.lookup_cons_self] at hnone
      cases hnone

theorem pass_error {todo : List (K × Rule K V ε)} (htodo : ∀ entry ∈ todo, entry ∈ rules)
    (hstable : ∀ entry ∈ rules, Stable entry.2) : ∀ {known : Known K V} {changed : Bool} {e : ε},
    Supported rules given known → pass todo known changed = .error e → Fails rules given := by
  induction todo with
  | nil =>
    intro known changed e _ h
    cases h
  | cons entry rest ih =>
    intro known changed e hknown h
    have ih := @ih fun entry hentry => htodo entry (List.mem_cons_of_mem _ hentry)
    have hentry := htodo entry List.mem_cons_self
    rw [pass] at h
    split at h
    · rename_i e' hattempt
      obtain ⟨hfree, hfailed⟩ := attempt_error hattempt
      exact ⟨entry.1, entry.2, known, e', hentry, lookup_none_of_grows hknown.grows hfree,
        hknown.derives, hfailed⟩
    · exact ih hknown h
    · rename_i v hattempt
      obtain ⟨hfree, hvalue⟩ := attempt_some hattempt
      exact ih (hknown.cons hstable hentry hfree hvalue) h

/-! ## All passes -/

/-- How many rules have a key without a value. -/
def openCount (rules : List (K × Rule K V ε)) (known : Known K V) : Nat :=
  (rules.filter fun entry => (known.lookup entry.1).isNone).length

theorem openCount_lt {known known' : Known K V} (hgrows : Grows known known')
    {entry : K × Rule K V ε} (hentry : entry ∈ rules) (hopen : known.lookup entry.1 = none)
    (hclosed : known'.lookup entry.1 ≠ none) : openCount rules known' < openCount rules known := by
  have hfilter : rules.filter (fun entry => (known'.lookup entry.1).isNone) =
      (rules.filter fun entry => (known.lookup entry.1).isNone).filter
        fun entry => (known'.lookup entry.1).isNone := by
    rw [List.filter_filter]
    apply List.filter_congr
    intro other _
    cases hother : known'.lookup other.1 with
    | some v => simp
    | none => simp [lookup_none_of_grows hgrows hother]
  unfold openCount
  rw [hfilter, List.length_filter_lt_length_iff_exists]
  refine ⟨entry, List.mem_filter.2 ⟨hentry, by simp [hopen]⟩, ?_⟩
  simpa using hclosed

/-- **The passes end saturated**, when there are as many as rules. -/
theorem passes_saturated (hstable : ∀ entry ∈ rules, Stable entry.2) :
    ∀ {limit : Nat} {known known' : Known K V}, openCount rules known ≤ limit →
      Supported rules given known → passes rules limit known = .ok known' →
      Supported rules given known' ∧ Saturated rules known'
  | 0, known, known', hlimit, hknown, h => by
    cases h
    refine ⟨hknown, fun entry hentry hopen => ?_⟩
    have hnone := List.length_eq_zero_iff.1 (Nat.le_zero.1 hlimit)
    have hclosed := List.filter_eq_nil_iff.1 hnone entry hentry
    simp [hopen] at hclosed
  | limit + 1, known, known', hlimit, hknown, h => by
    rw [passes] at h
    split at h
    · cases h
    · rename_i known'' hpass
      obtain ⟨entry, hentry, hopen, hclosed⟩ := pass_changed hpass
      have hless := openCount_lt (pass_grows hpass) hentry hopen hclosed
      exact passes_saturated hstable (by omega) (pass_supported hstable hknown hpass) h
    · rename_i known'' hpass
      cases h
      obtain ⟨rfl, hsaturated⟩ := pass_unchanged hpass
      exact ⟨hknown, hsaturated⟩

theorem passes_error (hstable : ∀ entry ∈ rules, Stable entry.2) :
    ∀ {limit : Nat} {known : Known K V} {e : ε}, Supported rules given known →
      passes rules limit known = .error e → Fails rules given
  | 0, _, _, _, h => by cases h
  | limit + 1, known, e, hknown, h => by
    rw [passes] at h
    split at h
    · rename_i e' hpass
      exact pass_error (fun _ h => h) hstable hknown hpass
    · rename_i known' hpass
      exact passes_error hstable (pass_supported hstable hknown hpass) h
    · cases h

theorem rule_eq (hkeys : (rules.map Prod.fst).Nodup) {k : K} {rule rule' : Rule K V ε}
    (h : (k, rule) ∈ rules) (h' : (k, rule') ∈ rules) : rule = rule' := by
  have hlookup := Table.lookup_of_mem hkeys h
  rw [Table.lookup_of_mem hkeys h'] at hlookup
  exact (Option.some.inj hlookup).symm

section

variable (hstable : ∀ entry ∈ rules, Stable entry.2) (hkeys : (rules.map Prod.fst).Nodup)
  {limit : Nat} (hlimit : rules.length ≤ limit)

include hstable hlimit

theorem passes_spec {known : Known K V} (h : passes rules limit given = .ok known) :
    Supported rules given known ∧ Saturated rules known :=
  passes_saturated hstable (Nat.le_trans (List.length_filter_le _ _) hlimit) .initial h

/-- A rule that has a value, or fails, on derived values has a value under its key. -/
theorem passes_rule {known known' : Known K V} (h : passes rules limit given = .ok known)
    {k : K} {rule : Rule K V ε} (hrule : (k, rule) ∈ rules) (hgrows : Grows known' known)
    (hopen : rule known' = .blocked → False) :
    ∃ v, known.lookup k = some v ∧ rule known = rule known' := by
  have hkept := hstable _ hrule known' known hgrows hopen
  cases hlookup : known.lookup k with
  | some v => exact ⟨v, rfl, hkept⟩
  | none =>
    have hblocked := (passes_spec hstable hlimit h).2 (k, rule) hrule hlookup
    exact absurd (hkept.symm.trans hblocked) hopen

include hkeys

/-- **The passes find the derived values** and nothing else. -/
theorem lookup_passes_iff {known : Known K V} (h : passes rules limit given = .ok known) {k : K}
    {v : V} : known.lookup k = some v ↔ Derives rules given k v := by
  have hsupported := (passes_spec hstable hlimit h).1
  refine ⟨hsupported.derives k v, fun hderives => ?_⟩
  induction hderives with
  | given hgiven => exact hsupported.grows _ _ hgiven
  | @rule k v rule known' hrule hfree _ hvalue ih =>
    obtain ⟨w, hw, hkept⟩ := passes_rule hstable hlimit h hrule ih
      fun hblocked => nomatch hvalue.symm.trans hblocked
    rcases hsupported.supported k w hw with hold | ⟨-, rule', hrule', hvalue'⟩
    · rw [hfree] at hold
      cases hold
    · rw [rule_eq hkeys hrule' hrule, hkept, hvalue] at hvalue'
      cases hvalue'
      exact hw

/-- **The passes fail only where a rule fails.** -/
theorem passes_ok_iff : (∃ known, passes rules limit given = .ok known) ↔ ¬ Fails rules given := by
  constructor
  · rintro ⟨known, h⟩ ⟨k, rule, known', e, hrule, hfree, hderived, hfailed⟩
    have hgrows : Grows known' known := fun k v hk =>
      (lookup_passes_iff hstable hkeys hlimit h).2 (hderived k v hk)
    obtain ⟨w, hw, hkept⟩ := passes_rule hstable hlimit h hrule hgrows
      fun hblocked => nomatch hfailed.symm.trans hblocked
    rcases (passes_spec hstable hlimit h).1.supported k w hw with hold | ⟨-, rule', hrule', hvalue⟩
    · rw [hfree] at hold
      cases hold
    · rw [rule_eq hkeys hrule' hrule, hkept, hfailed] at hvalue
      cases hvalue
  · intro hfails
    cases h : passes rules limit given with
    | error e => exact absurd (passes_error hstable .initial h) hfails
    | ok known => exact ⟨known, rfl⟩

end

theorem Derives.mono {rules rules' : List (K × Rule K V ε)} {given given' : Known K V}
    (hrules : ∀ entry ∈ rules, entry ∈ rules')
    (hgiven : ∀ k, given'.lookup k = given.lookup k) {k : K} {v : V}
    (h : Derives rules given k v) : Derives rules' given' k v := by
  induction h with
  | given h => exact .given ((hgiven _).trans h)
  | rule hrule hfree _ hvalue ih =>
    exact .rule (hrules _ hrule) ((hgiven _).trans hfree) ih hvalue

theorem Fails.mono {rules rules' : List (K × Rule K V ε)} {given given' : Known K V}
    (hrules : ∀ entry ∈ rules, entry ∈ rules')
    (hgiven : ∀ k, given'.lookup k = given.lookup k) (h : Fails rules given) :
    Fails rules' given' := by
  obtain ⟨k, rule, known, e, hrule, hfree, hknown, hfailed⟩ := h
  exact ⟨k, rule, known, e, hrules _ hrule, (hgiven k).trans hfree,
    fun k v hk => (hknown k v hk).mono hrules hgiven, hfailed⟩

/-- **The order decides about nothing.** -/
theorem passes_perm {rules rules' : List (K × Rule K V ε)} {given given' : Known K V}
    (hstable : ∀ entry ∈ rules, Stable entry.2) (hkeys : (rules.map Prod.fst).Nodup) {limit : Nat}
    (hlimit : rules.length ≤ limit) (hrules : rules'.Perm rules)
    (hgiven : ∀ k, given'.lookup k = given.lookup k) {known : Known K V}
    (h : passes rules limit given = .ok known) :
    ∃ known', passes rules' limit given' = .ok known' ∧ ∀ k, known'.lookup k = known.lookup k := by
  have hstable' : ∀ entry ∈ rules', Stable entry.2 := fun entry hentry =>
    hstable entry (hrules.mem_iff.1 hentry)
  have hkeys' : (rules'.map Prod.fst).Nodup := (hrules.map Prod.fst).nodup_iff.2 hkeys
  have hlimit' : rules'.length ≤ limit := hrules.length_eq ▸ hlimit
  have hfails := (passes_ok_iff hstable hkeys hlimit).1 ⟨known, h⟩
  obtain ⟨known', h'⟩ := (passes_ok_iff hstable' hkeys' hlimit').2 fun hfails' =>
    hfails (hfails'.mono (fun _ => hrules.mem_iff.1) fun k => (hgiven k).symm)
  refine ⟨known', h', fun k => Option.ext fun v => ?_⟩
  rw [lookup_passes_iff hstable' hkeys' hlimit' h', lookup_passes_iff hstable hkeys hlimit h]
  exact ⟨.mono (fun _ => hrules.mem_iff.1) fun k => (hgiven k).symm,
    .mono (fun _ => hrules.mem_iff.2) hgiven⟩

end

end Saturation
