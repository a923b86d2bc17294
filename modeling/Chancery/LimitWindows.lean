import Chancery.Lib.Periods
import Chancery.PolicyAgreement

/-!
# Usage windows

The starts of the windows and the verdicts of `observeLimitPolicy` on them.

* `canonicalWindowStart_exact` — a window starts at the last multiple of its period, in both
  languages, also before 1970.
* `limitWindowOf` — what an observation makes of a cap and a usage; `observeLimitWindow_eq`.
* `VerdictLaws` — the verdicts of all windows: what is allowed is what remains, stale windows count
  nothing, future ones block, and amounts may be split.
* `limitVerdicts_exact` — the laws hold for every policy and every set of windows.
-/

set_option autoImplicit false

namespace Chancery

/-! ## Starts -/

/-- **The corrected quotient is the floor**, whatever the signs. -/
theorem floorDivision_floor (numerator : Int) {denominator : Int} (hne : denominator ≠ 0) :
    floorDivision numerator denominator = numerator.fdiv denominator := by
  unfold floorDivision
  dsimp only
  rw [Int.fdiv_eq_tdiv]
  have hsign := Int.sign_tmod numerator denominator
  by_cases hdvd : denominator ∣ numerator
  · rw [if_pos hdvd, if_neg fun h => h.1 (Int.tmod_eq_zero_of_dvd hdvd), sub_zero]
  · rw [if_neg hdvd] at hsign ⊢
    have hremainder : numerator.tmod denominator ≠ 0 := fun h => hdvd (Int.dvd_of_tmod_eq_zero h)
    have hnumerator : numerator ≠ 0 := by
      rintro rfl
      exact hdvd (dvd_zero denominator)
    have hpos : 0 < numerator.tmod denominator ↔ 0 < numerator := by
      rw [← Int.sign_eq_one_iff_pos, ← Int.sign_eq_one_iff_pos, hsign]
    by_cases hn : 0 < numerator <;> by_cases hd : 0 < denominator
    · rw [if_neg (by simp [hpos, hn, hd]), if_pos hn.le, if_pos hd.le, sub_zero]
    · rw [if_pos ⟨hremainder, by simp [hpos, hn, hd]⟩, if_pos hn.le, if_neg (by omega)]
    · rw [if_pos ⟨hremainder, by simp [hpos, hn, hd]⟩, if_neg (by omega), if_pos hd.le,
        Int.sign_eq_one_of_pos hd]
    · rw [if_neg (by simp [hpos, hn, hd]), if_neg (by omega), if_neg (by omega),
        Int.sign_eq_neg_one_of_neg (by omega)]
      omega

theorem periodSeconds_pos {windowKind : Nat} {period : Int}
    (h : periodSeconds windowKind = .ok period) : 0 < period := by
  unfold periodSeconds at h
  split at h <;> cases h <;> decide

theorem canonicalWindowStart_eq {windowKind : Nat} {period : Int}
    (h : periodSeconds windowKind = .ok period) (L : Language) (t : Int) :
    canonicalWindowStart L windowKind t = .ok (Periods.periodStart period t) := by
  unfold canonicalWindowStart
  rw [Except.bind_of_ok h]
  cases L with
  | typescript =>
    show Except.ok (floorDivision t period * period) = _
    rw [floorDivision_floor t (periodSeconds_pos h).ne']
    rfl
  | python => rfl

/-- **A window starts at the last multiple of its period**, in both languages. -/
theorem canonicalWindowStart_exact {windowKind : Nat} {period : Int}
    (h : periodSeconds windowKind = .ok period) :
    (∃ start, Periods.PeriodStarts period start ∧
      ∀ L t, canonicalWindowStart L windowKind t = .ok (start t)) ∧
    ∀ numerator denominator, denominator ≠ 0 →
      floorDivision numerator denominator = numerator.fdiv denominator :=
  ⟨⟨Periods.periodStart period, Periods.periodStart_spec (periodSeconds_pos h),
      canonicalWindowStart_eq h⟩,
    fun numerator _ hne => floorDivision_floor numerator hne⟩

/-- The week that holds the second before 1970 starts in 1969. -/
theorem canonicalWindowStart_exact_weekly : ∃ start, Periods.PeriodStarts 604800 start ∧
    ∀ L t, canonicalWindowStart L 2 t = .ok (start t) :=
  (canonicalWindowStart_exact (show periodSeconds 2 = .ok 604800 from rfl)).1

example : canonicalWindowStart .typescript 2 (-1) = .ok (-604800) := by decide

/-! ## One window -/

/-- What an observation makes of a cap and a usage. -/
def limitWindowOf (action : SettlementAction) (proposedAmount : Int) (name : UsageWindowName)
    (maximum maximumActionCount canonicalStart : Int) (usage : Option Int × Int × Int) :
    LimitWindowObservation :=
  let clockRegression := usage.1.any fun start => canonicalStart < start
  let projectedAmount := usage.2.1 + proposedAmount
  let projectedActionCount := usage.2.2 + 1
  { name := name
    windowKind := name.windowKind
    maximum := maximum
    accumulatorField := accumulatorField action
    storedWindowStartUnixTimestamp := usage.1
    canonicalWindowStartUnixTimestamp := canonicalStart
    rolledBeforeCheck := usage.1.any fun start => start < canonicalStart
    clockRegression := clockRegression
    currentAmount := usage.2.1
    proposedAmount := proposedAmount
    projectedAmount := projectedAmount
    remainingBefore := remainingUnder maximum usage.2.1
    remainingAfter := remainingUnder maximum projectedAmount
    allowed := !clockRegression && (maximum == 0 || decide (projectedAmount ≤ maximum))
    currentActionCount := usage.2.2
    projectedActionCount := projectedActionCount
    maximumActionCount := maximumActionCount
    actionRemainingBefore := remainingUnder maximumActionCount usage.2.2
    actionRemainingAfter := remainingUnder maximumActionCount projectedActionCount
    actionAllowed := !clockRegression
      && (maximumActionCount == 0 || decide (projectedActionCount ≤ maximumActionCount)) }

section

variable {L : Language} {policyValues : StructValues} {action : SettlementAction}
  {nowUnixTimestamp : Int}

theorem observeLimitWindow_eq {proposedAmount : Int} {windowValues : Option StructValues}
    {name : UsageWindowName} {window : LimitWindowObservation}
    (h : observeLimitWindow L policyValues action proposedAmount windowValues nowUnixTimestamp
      name = .ok window) :
    ∃ maximum maximumActionCount canonicalStart usage,
      requireBigIntField L policyValues name.maximumField = .ok maximum ∧
      maximumActions L policyValues name = .ok maximumActionCount ∧
      canonicalWindowStart L name.windowKind nowUnixTimestamp = .ok canonicalStart ∧
      windowUsage L action windowValues canonicalStart = .ok usage ∧
      window = limitWindowOf action proposedAmount name maximum maximumActionCount canonicalStart
        usage := by
  obtain ⟨maximum, hmaximum, h⟩ := Except.bind_eq_ok.1 h
  obtain ⟨maximumActionCount, hactions, h⟩ := Except.bind_eq_ok.1 h
  obtain ⟨canonicalStart, hstart, h⟩ := Except.bind_eq_ok.1 h
  obtain ⟨usage, husage, hret⟩ := Except.bind_eq_ok.1 h
  cases hret
  exact ⟨maximum, maximumActionCount, canonicalStart, usage, hmaximum, hactions, hstart, husage,
    rfl⟩

/-- The observation of a policy lists the window. -/
def Observed (L : Language) (policyValues : StructValues) (action : SettlementAction)
    (nowUnixTimestamp : Int) (windows : UsageWindows StructValues) (proposedAmount : Int)
    (window : LimitWindowObservation) : Prop :=
  ∃ observation, observeLimitPolicy L policyValues action proposedAmount windows nowUnixTimestamp =
    .ok observation ∧ window ∈ observation.windows

theorem Observed.window {windows : UsageWindows StructValues} {proposedAmount : Int}
    {window : LimitWindowObservation}
    (h : Observed L policyValues action nowUnixTimestamp windows proposedAmount window) :
    observeLimitWindow L policyValues action proposedAmount (windows.get window.name)
      nowUnixTimestamp window.name = .ok window := by
  obtain ⟨observation, hobservation, hmem⟩ := h
  unfold observeLimitPolicy at hobservation
  split at hobservation
  · cases hobservation
  · obtain ⟨maximum, _, hobservation⟩ := Except.bind_eq_ok.1 hobservation
    obtain ⟨hourly, hhourly, hobservation⟩ := Except.bind_eq_ok.1 hobservation
    obtain ⟨daily, hdaily, hobservation⟩ := Except.bind_eq_ok.1 hobservation
    obtain ⟨weekly, hweekly, hobservation⟩ := Except.bind_eq_ok.1 hobservation
    obtain ⟨monthly, hmonthly, hret⟩ := Except.bind_eq_ok.1 hobservation
    cases hret
    have hname : ∀ {name : UsageWindowName} {other : LimitWindowObservation},
        observeLimitWindow L policyValues action proposedAmount (windows.get name)
          nowUnixTimestamp name = .ok other → other.name = name := by
      intro name other h
      obtain ⟨_, _, _, _, _, _, _, _, rfl⟩ := observeLimitWindow_eq h
      rfl
    simp only [List.mem_cons, List.not_mem_nil, or_false] at hmem
    rcases hmem with rfl | rfl | rfl | rfl
    · rwa [hname hhourly]
    · rwa [hname hdaily]
    · rwa [hname hweekly]
    · rwa [hname hmonthly]

/-! ## The verdicts -/

/-- A window of the current period with the counters. -/
def CurrentWindow (L : Language) (action : SettlementAction) (values : StructValues)
    (start amount actionCount : Int) : Prop :=
  requireBigIntField L values "window_start_unix_timestamp" = .ok start ∧
    storedCounters L action values = .ok (amount, actionCount)

/-- There is no window, or it started with an earlier period. -/
def StaleWindow (L : Language) (windowValues : Option StructValues) (canonicalStart : Int) : Prop :=
  ∀ values, windowValues = some values → ∃ start,
    requireBigIntField L values "window_start_unix_timestamp" = .ok start ∧ start < canonicalStart

/-- The window started after the current period. -/
def FutureWindow (L : Language) (windowValues : Option StructValues) (canonicalStart : Int) :
    Prop :=
  ∃ values start, windowValues = some values ∧
    requireBigIntField L values "window_start_unix_timestamp" = .ok start ∧ canonicalStart < start

structure SameVerdicts (left right : LimitWindowObservation) : Prop where
  allowed : left.allowed = right.allowed
  remainingBefore : left.remainingBefore = right.remainingBefore
  remainingAfter : left.remainingAfter = right.remainingAfter
  actionAllowed : left.actionAllowed = right.actionAllowed
  actionRemainingBefore : left.actionRemainingBefore = right.actionRemainingBefore
  actionRemainingAfter : left.actionRemainingAfter = right.actionRemainingAfter

def UsageWindows.set {α : Type} (windows : UsageWindows α) (name : UsageWindowName) (a : α) :
    UsageWindows α :=
  match name with
  | .hourly => { windows with hourly := some a }
  | .daily => { windows with daily := some a }
  | .weekly => { windows with weekly := some a }
  | .monthly => { windows with monthly := some a }

@[simp] theorem UsageWindows.get_set {α : Type} (windows : UsageWindows α)
    (name : UsageWindowName) (a : α) : (windows.set name a).get name = some a := by
  cases name <;> rfl

/-- The verdicts of `observeLimitPolicy` on a policy and its windows, for every positive amount. -/
structure VerdictLaws (L : Language) (policyValues : StructValues) (action : SettlementAction)
    (nowUnixTimestamp : Int) (windows : UsageWindows StructValues) : Prop where
  total : ∀ amount, 0 < amount → ∃ observation,
    observeLimitPolicy L policyValues action amount windows nowUnixTimestamp = .ok observation ∧
      observation.windows.map (·.name) = [.hourly, .daily, .weekly, .monthly]
  rolled : ∀ amount name values start stored actionCount, 0 < amount →
    canonicalWindowStart L name.windowKind nowUnixTimestamp = .ok start →
    CurrentWindow L action values start stored actionCount → ∃ window,
      Observed L policyValues action nowUnixTimestamp (windows.set name values) amount window ∧
        window.name = name
  recordable : ∀ start (amount : Nat), ∃ values, CurrentWindow L action values start amount 0
  capped : ∀ amount window, 0 < amount →
    Observed L policyValues action nowUnixTimestamp windows amount window →
    window.maximum ≠ 0 → window.clockRegression = false →
      ∃ before, window.remainingBefore = some before ∧
        (window.allowed = true ↔ amount ≤ before) ∧
        window.remainingAfter = some (max (before - amount) 0)
  stale : ∀ amount window zeroValues current, 0 < amount →
    Observed L policyValues action nowUnixTimestamp windows amount window →
    StaleWindow L (windows.get window.name) window.canonicalWindowStartUnixTimestamp →
    CurrentWindow L action zeroValues window.canonicalWindowStartUnixTimestamp 0 0 →
    Observed L policyValues action nowUnixTimestamp (windows.set window.name zeroValues) amount
      current →
    current.name = window.name → SameVerdicts window current
  future : ∀ amount window, 0 < amount →
    Observed L policyValues action nowUnixTimestamp windows amount window →
    (window.clockRegression = true ↔
      FutureWindow L (windows.get window.name) window.canonicalWindowStartUnixTimestamp) ∧
    (window.clockRegression = true → window.allowed = false ∧ window.actionAllowed = false)
  downward : ∀ amount amount' window window', 0 < amount → amount ≤ amount' →
    Observed L policyValues action nowUnixTimestamp windows amount window →
    Observed L policyValues action nowUnixTimestamp windows amount' window' →
    window.name = window'.name →
      (window'.allowed = true → window.allowed = true) ∧
      (window'.actionAllowed = true → window.actionAllowed = true)
  transactionDownward : ∀ amount amount' observation observation', 0 < amount →
    amount ≤ amount' →
    observeLimitPolicy L policyValues action amount windows nowUnixTimestamp = .ok observation →
    observeLimitPolicy L policyValues action amount' windows nowUnixTimestamp =
      .ok observation' →
      observation'.perTransactionAllowed = true → observation.perTransactionAllowed = true
  actions : ∀ amount window, 0 < amount →
    Observed L policyValues action nowUnixTimestamp windows amount window →
    window.clockRegression = false →
      (window.actionAllowed = true ↔ ∀ remaining, window.actionRemainingBefore = some remaining →
        0 < remaining)
  composes : ∀ p q first both second afterValues actionCount, 0 < p → 0 < q →
    Observed L policyValues action nowUnixTimestamp windows p first →
    Observed L policyValues action nowUnixTimestamp windows (p + q) both →
    both.name = first.name →
    CurrentWindow L action afterValues first.canonicalWindowStartUnixTimestamp
      (first.currentAmount + p) actionCount →
    Observed L policyValues action nowUnixTimestamp (windows.set first.name afterValues) q second →
    second.name = first.name →
      (first.allowed = true ∧ second.allowed = true ↔ both.allowed = true)

/-! ## The laws -/

theorem windowUsage_current {values : StructValues} {start amount actionCount : Int}
    (h : CurrentWindow L action values start amount actionCount) :
    windowUsage L action (some values) start = .ok (some start, amount, actionCount) := by
  unfold windowUsage
  dsimp only
  rw [Except.bind_of_ok h.1, if_pos rfl, Except.bind_of_ok h.2]
  rfl

theorem windowUsage_stale (action : SettlementAction) {windowValues : Option StructValues}
    {canonicalStart : Int} (h : StaleWindow L windowValues canonicalStart) :
    ∃ storedStart, windowUsage L action windowValues canonicalStart = .ok (storedStart, 0, 0) ∧
      (storedStart.any fun start => canonicalStart < start) = false := by
  cases windowValues with
  | none => exact ⟨none, rfl, rfl⟩
  | some values =>
    obtain ⟨start, hstart, hlt⟩ := h values rfl
    refine ⟨some start, ?_, by simpa using hlt.le⟩
    unfold windowUsage
    dsimp only
    rw [Except.bind_of_ok hstart, if_neg hlt.ne]
    rfl

/-- The stored start is the one of the window's account. -/
theorem windowUsage_start {windowValues : Option StructValues} {canonicalStart : Int}
    {usage : Option Int × Int × Int}
    (h : windowUsage L action windowValues canonicalStart = .ok usage) :
    (usage.1.any fun start => canonicalStart < start) = true ↔
      FutureWindow L windowValues canonicalStart := by
  cases windowValues with
  | none =>
    cases h
    exact iff_of_false (by simp) (by rintro ⟨_, _, hnone, _⟩; cases hnone)
  | some values =>
    obtain ⟨start, hstart, h⟩ := Except.bind_eq_ok.1 h
    have hstored : usage.1 = some start := by
      split at h
      · obtain ⟨counters, _, hret⟩ := Except.bind_eq_ok.1 h
        cases hret
        rfl
      · cases h
        rfl
    rw [hstored, Option.any_some, decide_eq_true_eq]
    constructor
    · exact fun hlt => ⟨values, start, rfl, hstart, hlt⟩
    · rintro ⟨_, other, hvalues, hother, hlt⟩
      cases hvalues
      rw [hstart] at hother
      cases hother
      exact hlt

/-- The reads that two observations of one window share. -/
theorem observed_pair {windows : UsageWindows StructValues} {amount amount' : Int}
    {window window' : LimitWindowObservation}
    (h : Observed L policyValues action nowUnixTimestamp windows amount window)
    (h' : Observed L policyValues action nowUnixTimestamp windows amount' window')
    (hname : window'.name = window.name) :
    ∃ name maximum maximumActionCount canonicalStart usage,
      window = limitWindowOf action amount name maximum maximumActionCount canonicalStart usage ∧
      window' = limitWindowOf action amount' name maximum maximumActionCount canonicalStart
        usage := by
  have hwindow' := h'.window
  rw [hname] at hwindow'
  obtain ⟨maximum, count, start, usage, hmaximum, hcount, hstart, husage, heq⟩ :=
    observeLimitWindow_eq h.window
  obtain ⟨maximum', count', start', usage', hmaximum', hcount', hstart', husage', heq'⟩ :=
    observeLimitWindow_eq hwindow'
  rw [hmaximum] at hmaximum'
  rw [hcount] at hcount'
  rw [hstart] at hstart'
  cases hmaximum'
  cases hcount'
  cases hstart'
  rw [husage] at husage'
  cases husage'
  exact ⟨window.name, maximum, count, start, usage, heq, heq'⟩

/-- The reads that an observation shares with the one after its window was set. -/
theorem observed_set {windows : UsageWindows StructValues} {amount amount' : Int}
    {window window' : LimitWindowObservation} {values : StructValues} {setAmount actionCount : Int}
    (h : Observed L policyValues action nowUnixTimestamp windows amount window)
    (hcurrent : CurrentWindow L action values window.canonicalWindowStartUnixTimestamp setAmount
      actionCount)
    (h' : Observed L policyValues action nowUnixTimestamp (windows.set window.name values) amount'
      window') (hname : window'.name = window.name) :
    ∃ maximum maximumActionCount canonicalStart usage,
      windowUsage L action (windows.get window.name) canonicalStart = .ok usage ∧
      window = limitWindowOf action amount window.name maximum maximumActionCount canonicalStart
        usage ∧
      window' = limitWindowOf action amount' window.name maximum maximumActionCount canonicalStart
        (some canonicalStart, setAmount, actionCount) := by
  have hwindow' := h'.window
  rw [hname, UsageWindows.get_set] at hwindow'
  obtain ⟨maximum, count, start, usage, hmaximum, hcount, hstart, husage, heq⟩ :=
    observeLimitWindow_eq h.window
  obtain ⟨maximum', count', start', usage', hmaximum', hcount', hstart', husage', heq'⟩ :=
    observeLimitWindow_eq hwindow'
  rw [hmaximum] at hmaximum'
  rw [hcount] at hcount'
  rw [hstart] at hstart'
  cases hmaximum'
  cases hcount'
  cases hstart'
  have hcanonical : window.canonicalWindowStartUnixTimestamp = start := by rw [heq]; rfl
  rw [hcanonical] at hcurrent
  rw [windowUsage_current hcurrent] at husage'
  cases husage'
  exact ⟨maximum, count, start, usage, husage, heq, heq'⟩

/-- An amount is allowed when it fits under the cap. -/
theorem limitWindowOf_allowed {amount maximum maximumActionCount canonicalStart : Int}
    {name : UsageWindowName} {usage : Option Int × Int × Int} :
    (limitWindowOf action amount name maximum maximumActionCount canonicalStart usage).allowed =
        true ↔
      (usage.1.any fun start => canonicalStart < start) = false ∧
        (maximum = 0 ∨ usage.2.1 + amount ≤ maximum) := by
  simp [limitWindowOf]

theorem limitWindowOf_actionAllowed {amount maximum maximumActionCount canonicalStart : Int}
    {name : UsageWindowName} {usage : Option Int × Int × Int} :
    (limitWindowOf action amount name maximum maximumActionCount canonicalStart
        usage).actionAllowed = true ↔
      (usage.1.any fun start => canonicalStart < start) = false ∧
        (maximumActionCount = 0 ∨ usage.2.2 + 1 ≤ maximumActionCount) := by
  simp [limitWindowOf]

theorem remainingUnder_eq_some {maximum amount : Int} (h : maximum ≠ 0) :
    remainingUnder maximum amount = some (max (maximum - amount) 0) := if_neg h

/-- What remains decides about a positive amount, and shrinks by it. -/
theorem capped_verdict {amount maximum maximumActionCount canonicalStart : Int}
    {name : UsageWindowName} {usage : Option Int × Int × Int} (hamount : 0 < amount)
    (hmaximum : maximum ≠ 0)
    (hregression : (usage.1.any fun start => canonicalStart < start) = false) :
    let window := limitWindowOf action amount name maximum maximumActionCount canonicalStart usage
    ∃ before, window.remainingBefore = some before ∧ (window.allowed = true ↔ amount ≤ before) ∧
      window.remainingAfter = some (max (before - amount) 0) := by
  refine ⟨max (maximum - usage.2.1) 0, remainingUnder_eq_some hmaximum, ?_, ?_⟩
  · rw [limitWindowOf_allowed]
    constructor
    · rintro ⟨_, huncapped | hfits⟩
      · exact absurd huncapped hmaximum
      · exact le_max_of_le_left (by omega)
    · intro hle
      refine ⟨hregression, Or.inr ?_⟩
      omega
  · show remainingUnder maximum (usage.2.1 + amount) = _
    rw [remainingUnder_eq_some hmaximum]
    exact congrArg some (by omega)

theorem action_verdict {amount maximum maximumActionCount canonicalStart : Int}
    {name : UsageWindowName} {usage : Option Int × Int × Int}
    (hregression : (usage.1.any fun start => canonicalStart < start) = false) :
    let window := limitWindowOf action amount name maximum maximumActionCount canonicalStart usage
    window.actionAllowed = true ↔ ∀ remaining, window.actionRemainingBefore = some remaining →
      0 < remaining := by
  dsimp only
  rw [limitWindowOf_actionAllowed]
  show _ ↔ ∀ remaining, remainingUnder maximumActionCount usage.2.2 = some remaining → _
  by_cases hmaximum : maximumActionCount = 0
  · rw [remainingUnder, if_pos hmaximum]
    exact iff_of_true ⟨hregression, Or.inl hmaximum⟩ (fun _ h => by cases h)
  · rw [remainingUnder_eq_some hmaximum]
    constructor
    · rintro ⟨_, huncapped | hfits⟩ remaining hremaining
      · exact absurd huncapped hmaximum
      · cases hremaining
        omega
    · intro h
      have hpos := h _ rfl
      exact ⟨hregression, Or.inr (by omega)⟩

theorem transactionAllowed_eq {windows : UsageWindows StructValues} {amount : Int}
    {observation : LimitObservation}
    (h : observeLimitPolicy L policyValues action amount windows nowUnixTimestamp =
      .ok observation) :
    ∃ maximum, requireBigIntField L policyValues "per_transaction_maximum" = .ok maximum ∧
      (observation.perTransactionAllowed = true ↔ maximum = 0 ∨ amount ≤ maximum) := by
  unfold observeLimitPolicy at h
  split at h
  · cases h
  · obtain ⟨maximum, hmaximum, h⟩ := Except.bind_eq_ok.1 h
    obtain ⟨hourly, _, h⟩ := Except.bind_eq_ok.1 h
    obtain ⟨daily, _, h⟩ := Except.bind_eq_ok.1 h
    obtain ⟨weekly, _, h⟩ := Except.bind_eq_ok.1 h
    obtain ⟨monthly, _, hret⟩ := Except.bind_eq_ok.1 h
    cases hret
    exact ⟨maximum, hmaximum, by simp⟩

/-- The counters of a decoded window can be read. -/
theorem windowUsage_decoded (L : Language) (action : SettlementAction)
    (window : Option (DecodedRecord "UsageWindow")) (canonicalStart : Int) :
    ∃ usage, windowUsage L action (window.map (·.values L)) canonicalStart = .ok usage := by
  cases window with
  | none => exact ⟨_, rfl⟩
  | some window =>
    have hwordsType : fieldType "UsageWindow" (accumulatorField action) =
        some (.array (.primitive .u64) 2) := by cases action <;> rfl
    obtain ⟨start, hstart⟩ := window.signed "window_start_unix_timestamp" rfl
    obtain ⟨words, hlength, _, hwords⟩ := read_words (accumulatorField action)
      (window.decodedAs .typescript) hwordsType
    obtain ⟨actionCount, _, hactionCount⟩ := window.number "action_count" rfl rfl
    rw [Option.map_some, windowUsage, Except.bind_of_ok (hstart L)]
    by_cases hcurrent : start = canonicalStart
    · have hread := hwords L
      rw [← window.values_eq L] at hread
      obtain ⟨low, high, rfl⟩ : ∃ low high, words = [low, high] := List.length_eq_two.1 hlength
      have hcounters : storedCounters L action (window.values L) = .ok _ :=
        Except.bind_eq_ok.2 ⟨_, hread, Except.bind_eq_ok.2 ⟨_, rfl,
          Except.bind_eq_ok.2 ⟨_, hactionCount L, rfl⟩⟩⟩
      rw [if_pos hcurrent]
      exact ⟨_, Except.bind_eq_ok.2 ⟨_, hcounters, rfl⟩⟩
    · rw [if_neg hcurrent]
      exact ⟨_, rfl⟩

theorem maximumActions_decoded (L : Language) (policy : DecodedRecord "LimitPolicy")
    (name : UsageWindowName) : ∃ count, maximumActions L (policy.values L) name = .ok count := by
  cases name with
  | hourly =>
    obtain ⟨count, _, hcount⟩ := policy.number "maximum_actions_per_hour" rfl rfl
    exact ⟨count, hcount L⟩
  | daily =>
    obtain ⟨count, _, hcount⟩ := policy.number "maximum_actions_per_day" rfl rfl
    exact ⟨count, hcount L⟩
  | weekly => exact ⟨0, rfl⟩
  | monthly => exact ⟨0, rfl⟩

theorem canonicalWindowStart_ok (L : Language) (name : UsageWindowName) (t : Int) :
    ∃ start, canonicalWindowStart L name.windowKind t = .ok start := by
  obtain ⟨period, hperiod⟩ : ∃ period, periodSeconds name.windowKind = .ok period := by
    cases name <;> exact ⟨_, rfl⟩
  exact ⟨_, canonicalWindowStart_eq hperiod L t⟩

/-- A decoded policy observes every window whose counters can be read. -/
theorem observeLimitWindow_total (L : Language) (policy : DecodedRecord "LimitPolicy")
    (amount : Int) {windowValues : Option StructValues} {name : UsageWindowName}
    (husage : ∀ start, canonicalWindowStart L name.windowKind nowUnixTimestamp = .ok start →
      ∃ usage, windowUsage L action windowValues start = .ok usage) :
    ∃ window, observeLimitWindow L (policy.values L) action amount windowValues nowUnixTimestamp
      name = .ok window ∧ window.name = name := by
  have htype : fieldType "LimitPolicy" name.maximumField = some (.primitive .u64) := by
    cases name <;> rfl
  obtain ⟨maximum, hmaximum⟩ := policy.unsigned name.maximumField htype
  obtain ⟨count, hcount⟩ := maximumActions_decoded L policy name
  obtain ⟨start, hstart⟩ := canonicalWindowStart_ok L name nowUnixTimestamp
  obtain ⟨usage, husage⟩ := husage start hstart
  exact ⟨_, Except.bind_eq_ok.2 ⟨_, hmaximum L, Except.bind_eq_ok.2 ⟨_, hcount,
    Except.bind_eq_ok.2 ⟨_, hstart, Except.bind_eq_ok.2 ⟨_, husage, rfl⟩⟩⟩⟩, rfl⟩

theorem observeLimitPolicy_total (L : Language) (policy : DecodedRecord "LimitPolicy")
    {amount : Int} (hamount : 0 < amount) (windows : UsageWindows StructValues)
    (husage : ∀ name start, canonicalWindowStart L name.windowKind nowUnixTimestamp = .ok start →
      ∃ usage, windowUsage L action (windows.get name) start = .ok usage) :
    ∃ observation, observeLimitPolicy L (policy.values L) action amount windows
        nowUnixTimestamp = .ok observation ∧
      observation.windows.map (·.name) = [.hourly, .daily, .weekly, .monthly] := by
  obtain ⟨maximum, hmaximum⟩ := policy.unsigned "per_transaction_maximum" rfl
  obtain ⟨hourly, hhourly, hhourlyName⟩ := observeLimitWindow_total L policy amount (husage .hourly)
  obtain ⟨daily, hdaily, hdailyName⟩ := observeLimitWindow_total L policy amount (husage .daily)
  obtain ⟨weekly, hweekly, hweeklyName⟩ := observeLimitWindow_total L policy amount (husage .weekly)
  obtain ⟨monthly, hmonthly, hmonthlyName⟩ :=
    observeLimitWindow_total L policy amount (husage .monthly)
  refine ⟨_, (if_neg (by omega)).trans (Except.bind_eq_ok.2 ⟨_, hmaximum L,
    Except.bind_eq_ok.2 ⟨_, hhourly, Except.bind_eq_ok.2 ⟨_, hdaily,
      Except.bind_eq_ok.2 ⟨_, hweekly, Except.bind_eq_ok.2 ⟨_, hmonthly, rfl⟩⟩⟩⟩⟩), ?_⟩
  simp [hhourlyName, hdailyName, hweeklyName, hmonthlyName]

/-- An observation lists the window of every name. -/
theorem observed_of_names {windows : UsageWindows StructValues} {amount : Int}
    {observation : LimitObservation}
    (h : observeLimitPolicy L policyValues action amount windows nowUnixTimestamp =
      .ok observation)
    (hnames : observation.windows.map (·.name) = [.hourly, .daily, .weekly, .monthly])
    (name : UsageWindowName) :
    ∃ window, Observed L policyValues action nowUnixTimestamp windows amount window ∧
      window.name = name := by
  have hmem : name ∈ observation.windows.map (·.name) := by
    rw [hnames]
    cases name <;> simp
  obtain ⟨window, hwindow, hname⟩ := List.mem_map.1 hmem
  exact ⟨window, ⟨observation, h, hwindow⟩, hname⟩

theorem UsageWindows.get_set_ne {α : Type} (windows : UsageWindows α)
    {name other : UsageWindowName} (a : α) (h : other ≠ name) :
    (windows.set name a).get other = windows.get other := by
  cases name <;> cases other <;> first | rfl | exact absurd rfl h

/-- Two words hold every amount below `2 ^ 128`. -/
theorem wordsToUnsigned128_split (amount : Nat) :
    wordsToUnsigned128 [(amount % 2 ^ 64 : Nat), (amount / 2 ^ 64 : Nat)] = .ok (amount : Int) := by
  have hsplit := Nat.shiftLeft_add_eq_or_of_lt (Nat.mod_lt amount (by decide : 0 < 2 ^ 64))
    (amount / 2 ^ 64)
  show Except.ok (((amount % 2 ^ 64 ||| (amount / 2 ^ 64) <<< 64 : Nat)) : Int) = _
  rw [Nat.or_comm, ← hsplit, Nat.shiftLeft_eq, Nat.div_add_mod']

/-- Every start and amount is the one of some current window. -/
theorem currentWindow_of (L : Language) (action : SettlementAction) (start : Int) (amount : Nat) :
    ∃ values, CurrentWindow L action values start amount 0 := by
  let actionCount : Value := L.dialect.integer 1 0
  refine ⟨[("window_start_unix_timestamp", .bigint start),
    (accumulatorField action, .array [.bigint (amount % 2 ^ 64 : Nat),
      .bigint (amount / 2 ^ 64 : Nat)]),
    ("action_count", actionCount)], ?_, ?_⟩
  · cases L <;> rfl
  · have hwords : ∀ values : StructValues,
        values.lookup (accumulatorField action) = some (.array [.bigint (amount % 2 ^ 64 : Nat),
          .bigint (amount / 2 ^ 64 : Nat)]) →
        requireBigIntArrayField L values (accumulatorField action) 2 =
          .ok [(amount % 2 ^ 64 : Nat), (amount / 2 ^ 64 : Nat)] := by
      intro values hlookup
      unfold requireBigIntArrayField
      rw [hlookup]
      cases L <;> rfl
    exact Except.bind_eq_ok.2 ⟨_, hwords _ (by cases action <;> rfl),
      Except.bind_eq_ok.2 ⟨_, wordsToUnsigned128_split amount,
        Except.bind_eq_ok.2 ⟨0, by cases L <;> cases action <;> rfl, rfl⟩⟩⟩

end

/-! ## Every policy and every set of windows -/

/-- **The verdicts are exact**: `VerdictLaws` holds for every decoded policy, every set of decoded
windows, each absent, stale, current or future, both directions and every time. -/
theorem limitVerdicts_exact (L : Language) (policy : DecodedRecord "LimitPolicy")
    (windows : UsageWindows (DecodedRecord "UsageWindow")) (action : SettlementAction)
    (nowUnixTimestamp : Int) :
    VerdictLaws L (policy.values L) action nowUnixTimestamp (windows.map (·.values L)) where
  total amount hamount := by
    refine observeLimitPolicy_total L policy hamount _ fun name start _ => ?_
    rw [UsageWindows.get_map]
    exact windowUsage_decoded L action (windows.get name) start
  rolled amount name values start stored actionCount hamount hstart hcurrent := by
    obtain ⟨observation, hobservation, hnames⟩ := observeLimitPolicy_total L policy hamount
      ((windows.map (·.values L)).set name values) fun other otherStart hother => by
        by_cases hname : other = name
        · subst hname
          rw [hstart] at hother
          cases hother
          exact ⟨_, by rw [UsageWindows.get_set]; exact windowUsage_current hcurrent⟩
        · rw [UsageWindows.get_set_ne _ _ hname, UsageWindows.get_map]
          exact windowUsage_decoded L action (windows.get other) otherStart
    exact observed_of_names hobservation hnames name
  recordable start amount := currentWindow_of L action start amount
  capped amount window hamount hobserved hmaximum hregression := by
    obtain ⟨name, maximum, count, start, usage, rfl, _⟩ := observed_pair hobserved hobserved rfl
    exact capped_verdict hamount hmaximum hregression
  stale amount window zeroValues current _ hobserved hstale hzero hcurrent hname := by
    obtain ⟨maximum, count, start, usage, husage, heq, rfl⟩ :=
      observed_set hobserved hzero hcurrent hname
    have hstart : window.canonicalWindowStartUnixTimestamp = start := by rw [heq]; rfl
    rw [hstart] at hstale
    obtain ⟨storedStart, hrolled, hregression⟩ := windowUsage_stale action hstale
    rw [husage] at hrolled
    cases hrolled
    rw [heq]
    constructor <;> simp [limitWindowOf, hregression]
  future amount window _ hobserved := by
    obtain ⟨maximum, count, start, usage, _, _, _, husage, heq⟩ :=
      observeLimitWindow_eq hobserved.window
    have hregression : window.clockRegression = usage.1.any fun stored => start < stored := by
      rw [heq]; rfl
    have hstart : window.canonicalWindowStartUnixTimestamp = start := by rw [heq]; rfl
    refine ⟨by rw [hregression, hstart]; exact windowUsage_start husage, fun hfuture => ?_⟩
    rw [hregression] at hfuture
    rw [heq]
    simp [limitWindowOf, hfuture]
  downward amount amount' window window' _ hle hobserved hobserved' hname := by
    obtain ⟨name, maximum, count, start, usage, rfl, rfl⟩ :=
      observed_pair hobserved hobserved' hname.symm
    refine ⟨fun h => ?_, fun h => h⟩
    rw [limitWindowOf_allowed] at h ⊢
    exact ⟨h.1, h.2.imp_right fun hfits => by omega⟩
  transactionDownward amount amount' observation observation' _ hle h h' hallowed := by
    obtain ⟨maximum, hmaximum, hiff⟩ := transactionAllowed_eq h
    obtain ⟨maximum', hmaximum', hiff'⟩ := transactionAllowed_eq h'
    rw [hmaximum] at hmaximum'
    cases hmaximum'
    exact hiff.2 ((hiff'.1 hallowed).imp_right hle.trans)
  actions amount window _ hobserved hregression := by
    obtain ⟨name, maximum, count, start, usage, rfl, _⟩ := observed_pair hobserved hobserved rfl
    exact action_verdict hregression
  composes p q first both second afterValues actionCount hp hq hfirst hboth hnameBoth hafter hsecond
      hname := by
    obtain ⟨name, maximum, count, start, usage, hfirstEq, hbothEq⟩ :=
      observed_pair hfirst hboth hnameBoth
    obtain ⟨maximum', count', start', usage', husage', hfirstEq', rfl⟩ :=
      observed_set hfirst hafter hsecond hname
    have hmaximum : maximum' = maximum := by
      have h := congrArg (·.maximum) (hfirstEq'.symm.trans hfirstEq)
      exact h
    have hcurrent : first.currentAmount = usage.2.1 := by rw [hfirstEq]; rfl
    rw [hcurrent, hmaximum, hfirstEq, hbothEq, limitWindowOf_allowed, limitWindowOf_allowed,
      limitWindowOf_allowed]
    constructor
    · rintro ⟨⟨hregression, _⟩, _, hsum⟩
      exact ⟨hregression, hsum.imp_right fun hfits => by dsimp only at hfits; omega⟩
    · rintro ⟨hregression, hsum⟩
      refine ⟨⟨hregression, hsum.imp_right fun hfits => by omega⟩, by simp, ?_⟩
      exact hsum.imp_right fun hfits => by dsimp only; omega
end Chancery
