import Chancery.Chain
import Chancery.InspectionLaws

/-!
# Limits of a ready inspection

Windows are loaded, observed, validated and wired into the instruction by different functions.

* `LimitLabel.applies`, `LimitLabel.policy`, `LimitLabel.windowAccount` — the dimensions of a
  settlement.
* `LimitSafe` — a dimension's policy is kept; `WithinWindow` for one usage window.
* `Dimension` — how a dimension was resolved; `windowSafe_of_dimension`.
* `readyLimits_safe` — every dimension of a ready inspection is safe.
* `Sample.limitedMarket` — a pathway with a daily limit.
-/

set_option autoImplicit false

namespace Chancery

variable {client : ChanceryClient}

/-! ## The dimensions of a settlement -/

namespace LimitLabel

/-- Whether a mode has the dimension. -/
def applies : LimitLabel → SettlementMode → Bool
  | pathway, _ => true
  | asset, _ => true
  | counterparty, mode => mode != .trilateral
  | counterpartyA, mode => mode == .trilateral
  | counterpartyB, mode => mode == .trilateral
  | executor, mode => mode != .direct

/-- The field of the pathway that binds the dimension's policy. -/
def policyField : LimitLabel → SettlementAction → String
  | pathway, _ => "limit_policy_id"
  | asset, action => assetLimitField action
  | counterparty, _ => "counterparty_limit_policy_id"
  | counterpartyA, _ => "counterparty_limit_policy_id"
  | counterpartyB, _ => "counterparty_limit_policy_id"
  | executor, _ => "executor_limit_policy_id"

/-- The policy of a dimension. -/
def policy : LimitLabel → SettlementPolicies → Option ChanceryStateSnapshot
  | pathway, policies => policies.pathwayLimitPolicy
  | asset, policies => policies.assetLimitPolicy
  | counterparty, policies => policies.counterpartyLimitPolicy
  | counterpartyA, policies => policies.counterpartyLimitPolicy
  | counterpartyB, policies => policies.counterpartyLimitPolicy
  | executor, policies => policies.executorLimitPolicy

/-- The scope of a dimension; the pathway's policy has its own. -/
def scopeKind : LimitLabel → Option Nat
  | pathway => none
  | asset => some Scope.asset
  | counterparty => some Scope.counterparty
  | counterpartyA => some Scope.counterparty
  | counterpartyB => some Scope.counterparty
  | executor => some Scope.executor

/-- The instruction account that carries a window. -/
def windowAccount : LimitLabel → UsageWindowName → Option String
  | pathway, .hourly => some "hourly_usage_window"
  | pathway, .daily => some "daily_usage_window"
  | pathway, .weekly => some "weekly_usage_window"
  | pathway, .monthly => some "monthly_usage_window"
  | asset, .daily => some "asset_daily_usage_window"
  | counterparty, .daily => some "counterparty_daily_usage_window"
  | counterpartyA, .daily => some "counterparty_a_daily_usage_window"
  | counterpartyB, .daily => some "counterparty_b_daily_usage_window"
  | executor, .daily => some "executor_daily_usage_window"
  | _, _ => none

end LimitLabel

/-- A public key of the intent that an inspection was made for. -/
def intentKey (inspection : SettlementInspection) (fieldName : String) : Except String PublicKey :=
  match inspection.intent.bind (·.values) with
  | none => .error "No settlement intent"
  | some values => requirePublicKeyField values fieldName

/-- The party that a dimension limits. -/
def limitedParty (inspection : SettlementInspection) : LimitLabel → Except String PublicKey
  | .pathway => .error "The pathway's policy has its own scope"
  | .asset => .ok inspection.request.assetMint
  | .counterparty => .ok inspection.request.principal
  | .counterpartyA => .ok inspection.request.principal
  | .counterpartyB => intentKey inspection "principal_b"
  | .executor => intentKey inspection "executor"

/-- The scope that the usage windows of a dimension are derived from. -/
def limitScopeHash (client : ChanceryClient) (inspection : SettlementInspection)
    (label : LimitLabel) (policyValues : StructValues) : Except String Bytes :=
  match label.scopeKind with
  | none => policyScopeHash client policyValues
  | some scopeKind => do
    let party ← limitedParty inspection label
    dimensionScopeHash client scopeKind party

/-! ## Safety -/

/-- What counts of a window that started at an instant: nothing of an earlier period. -/
def currentUsage (L : Language) (action : SettlementAction) (windowValues : StructValues)
    (start canonicalStart : Int) : Except String (Int × Int) :=
  if start = canonicalStart then storedCounters L action windowValues else .ok (0, 0)

/-- The settlement fits into a window under the caps; a zero cap is none. -/
def WithinWindow (L : Language) (inspection : SettlementInspection) (name : UsageWindowName)
    (maximum maximumActionCount : Int) (windowValues : StructValues) : Prop :=
  ∃ start canonicalStart amount actionCount,
    requireBigIntField L windowValues "window_start_unix_timestamp" = .ok start ∧
      canonicalWindowStart L name.windowKind inspection.request.nowUnixTimestamp =
        .ok canonicalStart ∧
      start ≤ canonicalStart ∧
      currentUsage L inspection.request.action windowValues start canonicalStart =
        .ok (amount, actionCount) ∧
      (maximum ≠ 0 → amount + inspection.amounts.limitNotional ≤ maximum) ∧
      (maximumActionCount ≠ 0 → actionCount + 1 ≤ maximumActionCount)

/-- The window's account exists at its PDA, fits the settlement and is in the instruction. -/
def WindowSafe (client : ChanceryClient) (inspection : SettlementInspection) (label : LimitLabel)
    (scopeHash : Bytes) (name : UsageWindowName) (maximum maximumActionCount : Int) : Prop :=
  ∃ pda snapshot windowValues accountName,
    deriveUsageWindowAddress client scopeHash name.windowKind = .ok pda ∧
      (loadChanceryState client pda.address "UsageWindow" true).Yields (.ok snapshot) ∧
      (∃ limit ∈ inspection.limits, limit.label = label ∧
        limit.windows.get name = some snapshot) ∧
      snapshot.values = some windowValues ∧
      WithinWindow client.language inspection name maximum maximumActionCount windowValues ∧
      label.windowAccount name = some accountName ∧
      inspection.instructionAccounts.lookup accountName = some pda.address

/-- Caps that a policy of a dimension other than the pathway's may not have. -/
def unenforcedCapFields : List String :=
  ["per_hour_maximum", "per_seven_day_maximum", "per_thirty_day_maximum"]

/-- Action counts that no dimension's policy may bound. -/
def unenforcedActionFields : List String := ["maximum_actions_per_hour", "maximum_actions_per_day"]

structure LimitSafe (client : ChanceryClient) (inspection : SettlementInspection)
    (label : LimitLabel) (policyValues : StructValues) : Prop where
  transaction : ∃ maximum,
    requireBigIntField client.language policyValues "per_transaction_maximum" = .ok maximum ∧
      (maximum ≠ 0 → inspection.amounts.limitNotional ≤ maximum)
  windows : ∃ scopeHash, limitScopeHash client inspection label policyValues = .ok scopeHash ∧
    ∀ name, ∃ maximum maximumActionCount,
      requireBigIntField client.language policyValues name.maximumField = .ok maximum ∧
        maximumActions client.language policyValues name = .ok maximumActionCount ∧
        (maximum ≠ 0 ∨ maximumActionCount ≠ 0 →
          WindowSafe client inspection label scopeHash name maximum maximumActionCount)
  scope : ∀ scopeKind ∈ label.scopeKind,
    requireNumberField client.language policyValues "scope_kind" = .ok scopeKind ∧
      requirePublicKeyField policyValues "scope_key" =
        .ok (if label = .asset then inspection.request.assetMint else zeroAddress) ∧
      (∀ fieldName ∈ unenforcedCapFields,
        requireBigIntField client.language policyValues fieldName = .ok 0) ∧
      ∀ fieldName ∈ unenforcedActionFields,
        requireNumberField client.language policyValues fieldName = .ok 0

/-! ## One window -/

theorem observeLimitWindow_ok {L : Language} {policyValues : StructValues}
    {action : SettlementAction} {proposedAmount nowUnixTimestamp : Int}
    {windowValues : Option StructValues} {name : UsageWindowName}
    {window : LimitWindowObservation}
    (h : observeLimitWindow L policyValues action proposedAmount windowValues nowUnixTimestamp
      name = .ok window) :
    window.name = name ∧
      requireBigIntField L policyValues name.maximumField = .ok window.maximum ∧
      maximumActions L policyValues name = .ok window.maximumActionCount ∧
      ∃ canonicalStart storedStart amount actionCount,
        canonicalWindowStart L name.windowKind nowUnixTimestamp = .ok canonicalStart ∧
        windowUsage L action windowValues canonicalStart =
          .ok (storedStart, amount, actionCount) ∧
        window.clockRegression = storedStart.any (fun start => canonicalStart < start) ∧
        window.allowed = (!window.clockRegression &&
          (window.maximum == 0 || decide (amount + proposedAmount ≤ window.maximum))) ∧
        window.actionAllowed = (!window.clockRegression &&
          (window.maximumActionCount == 0 ||
            decide (actionCount + 1 ≤ window.maximumActionCount))) := by
  simp only [observeLimitWindow, Except.bind_eq_ok] at h
  obtain ⟨maximum, hmaximum, count, hcount, canonicalStart, hcanonical,
    ⟨storedStart, amount, actionCount⟩, husage, hwindow⟩ := h
  cases hwindow
  exact ⟨rfl, hmaximum, hcount, canonicalStart, storedStart, amount, actionCount, hcanonical,
    husage, rfl, rfl, rfl⟩

theorem windowUsage_some {L : Language} {action : SettlementAction} {values : StructValues}
    {canonicalStart amount actionCount : Int} {storedStart : Option Int}
    (h : windowUsage L action (some values) canonicalStart =
      .ok (storedStart, amount, actionCount)) :
    ∃ start, storedStart = some start ∧
      requireBigIntField L values "window_start_unix_timestamp" = .ok start ∧
      currentUsage L action values start canonicalStart = .ok (amount, actionCount) := by
  obtain ⟨start, hstart, h⟩ := Except.bind_eq_ok.1 h
  unfold currentUsage
  split at h
  · obtain ⟨counters, hcounters, h⟩ := Except.bind_eq_ok.1 h
    cases h
    exact ⟨start, rfl, hstart, by rw [if_pos ‹_›, hcounters]⟩
  · cases h
    exact ⟨start, rfl, hstart, by rw [if_neg ‹_›]⟩

/-- A window without an issue exists if its policy caps it, and the settlement fits in. -/
theorem windowIssues_nil {limit : ResolvedLimitDimension} {window : LimitWindowObservation}
    (h : windowIssues limit window = []) :
    window.clockRegression = false ∧ window.allowed = true ∧ window.actionAllowed = true ∧
      (window.maximum ≠ 0 ∨ window.maximumActionCount ≠ 0 →
        (limit.windows.get window.name).any (·.doesExist) = true) := by
  unfold windowIssues at h
  simp only [List.append_eq_nil_iff, issueWhen_eq_nil, not_and, Bool.not_eq_false] at h
  obtain ⟨hverdict, hexists⟩ := h
  split at hverdict
  · cases hverdict
  · simp only [List.append_eq_nil_iff, issueWhen_eq_nil, Bool.not_eq_true', Bool.not_eq_false]
      at hverdict
    exact ⟨by simpa using ‹¬ window.clockRegression = true›, hverdict.1, hverdict.2, hexists⟩

theorem limitIssues_nil {limit : ResolvedLimitDimension} {observation : LimitObservation}
    (hobservation : limit.observation = some observation) (h : limitIssues limit = []) :
    limit.validationIssues = [] ∧ observation.perTransactionAllowed = true ∧
      ∀ window ∈ observation.windows, windowIssues limit window = [] := by
  unfold limitIssues at h
  rw [hobservation] at h
  simp only [List.append_eq_nil_iff, List.map_eq_nil_iff, issueWhen_eq_nil,
    List.flatMap_eq_nil_iff, Bool.not_eq_true', Bool.not_eq_false] at h
  exact ⟨h.1, h.2.1, h.2.2⟩

theorem observeLimitPolicy_ok {L : Language} {policyValues : StructValues}
    {action : SettlementAction} {proposedAmount nowUnixTimestamp : Int}
    {windows : UsageWindows StructValues} {observation : LimitObservation}
    (h : observeLimitPolicy L policyValues action proposedAmount windows nowUnixTimestamp =
      .ok observation) :
    (∃ maximum, requireBigIntField L policyValues "per_transaction_maximum" = .ok maximum ∧
      observation.perTransactionAllowed = (maximum == 0 || decide (proposedAmount ≤ maximum))) ∧
    ∀ name, ∃ window ∈ observation.windows, observeLimitWindow L policyValues action
      proposedAmount (windows.get name) nowUnixTimestamp name = .ok window := by
  unfold observeLimitPolicy at h
  split at h
  · cases h
  · simp only [Except.bind_eq_ok] at h
    obtain ⟨maximum, hmaximum, hourly, hhourly, daily, hdaily, weekly, hweekly, monthly, hmonthly,
      h⟩ := h
    cases h
    refine ⟨⟨maximum, hmaximum, rfl⟩, ?_⟩
    intro name
    cases name with
    | hourly => exact ⟨hourly, by simp, hhourly⟩
    | daily => exact ⟨daily, by simp, hdaily⟩
    | weekly => exact ⟨weekly, by simp, hweekly⟩
    | monthly => exact ⟨monthly, by simp, hmonthly⟩

/-! ## One dimension -/

/-- How a dimension with a policy was resolved. -/
structure Dimension (client : ChanceryClient) (label : LimitLabel)
    (policyValues : StructValues) (scopeHash : Bytes) (action : SettlementAction)
    (proposedAmount nowUnixTimestamp : Int) (limit : ResolvedLimitDimension) : Prop where
  label : limit.label = label
  observes : ∃ observation, limit.observation = some observation ∧
    observeLimitPolicy client.language policyValues action proposedAmount
      (snapshotValuesByWindow limit.windows) nowUnixTimestamp = .ok observation
  loads : ∀ name snapshot, limit.windows.get name = some snapshot → ∃ pda,
    deriveUsageWindowAddress client scopeHash name.windowKind = .ok pda ∧
      (loadChanceryState client pda.address "UsageWindow" true).Yields (.ok snapshot)

theorem loadUsageWindow_yields {scopeHash : Bytes} {name : UsageWindowName} {enforced : Bool}
    {window : Option ChanceryStateSnapshot}
    (h : (loadUsageWindow client scopeHash name enforced).Yields (.ok window)) :
    ∀ snapshot, window = some snapshot → ∃ pda,
      deriveUsageWindowAddress client scopeHash name.windowKind = .ok pda ∧
        (loadChanceryState client pda.address "UsageWindow" true).Yields (.ok snapshot) := by
  intro snapshot hwindow
  unfold loadUsageWindow at h
  split at h
  · simp only [Interaction.yields_bind] at h
    obtain ⟨pda, hpda, loaded, hloaded, h⟩ := h
    cases Interaction.yields_done.1 h
    cases hwindow
    exact ⟨pda, Interaction.yields_done.1 hpda, hloaded⟩
  · cases Interaction.yields_done.1 h
    cases hwindow

theorem chanceryStateSnapshot_address {address : PublicKey} {expectedName : String}
    {allowMissing : Bool} {account : Option RpcAccountInfo} {snapshot : ChanceryStateSnapshot}
    (h : chanceryStateSnapshot client address expectedName allowMissing account =
      .ok snapshot) : snapshot.address = address := by
  unfold chanceryStateSnapshot at h
  cases account with
  | none =>
    dsimp only at h
    split at h
    · cases h
      rfl
    · cases h
  | some account =>
    dsimp only at h
    split at h
    · split at h
      · cases h
        rfl
      · cases h
    · obtain ⟨decoded, -, h⟩ := Except.bind_eq_ok.1 h
      obtain ⟨-, -, h⟩ := Except.bind_eq_ok.1 h
      cases h
      rfl

theorem loadChanceryState_address {address : PublicKey} {expectedName : String}
    {allowMissing : Bool} {snapshot : ChanceryStateSnapshot}
    (h : (loadChanceryState client address expectedName allowMissing).Yields (.ok snapshot)) :
    snapshot.address = address := by
  obtain ⟨account, -, h⟩ := Interaction.yields_bind.1 h
  exact chanceryStateSnapshot_address (Interaction.yields_done.1 h)

theorem loadLimitWindows_yields {policyValues : StructValues} {scopeHash : Bytes}
    {windows : UsageWindows ChanceryStateSnapshot}
    (h : (loadLimitWindows client policyValues scopeHash).Yields (.ok windows)) :
    ∀ name snapshot, windows.get name = some snapshot → ∃ pda,
      deriveUsageWindowAddress client scopeHash name.windowKind = .ok pda ∧
        (loadChanceryState client pda.address "UsageWindow" true).Yields (.ok snapshot) := by
  simp only [loadLimitWindows, Interaction.yields_bind] at h
  obtain ⟨_, -, _, -, _, -, _, -, hourly, hhourly, daily, hdaily, weekly, hweekly, monthly,
    hmonthly, h⟩ := h
  cases Interaction.yields_done.1 h
  intro name
  cases name with
  | hourly => exact loadUsageWindow_yields hhourly
  | daily => exact loadUsageWindow_yields hdaily
  | weekly => exact loadUsageWindow_yields hweekly
  | monthly => exact loadUsageWindow_yields hmonthly

theorem resolvePathwayLimitDimension_yields {policy : PolicyResolution} {action : SettlementAction}
    {proposedAmount nowUnixTimestamp : Int} {limit : ResolvedLimitDimension}
    (h : (resolvePathwayLimitDimension client policy action proposedAmount
      nowUnixTimestamp).Yields (.ok limit)) :
    limit.label = .pathway ∧ ∀ policyValues, policy.values = some policyValues →
      ∃ scopeHash, policyScopeHash client policyValues = .ok scopeHash ∧
        Dimension client .pathway policyValues scopeHash action proposedAmount nowUnixTimestamp
          limit := by
  unfold resolvePathwayLimitDimension at h
  split at h
  · rename_i hnone
    cases Interaction.yields_done.1 h
    refine ⟨rfl, fun policyValues hvalues => ?_⟩
    rw [hnone] at hvalues
    cases hvalues
  · rename_i values hsome
    simp only [Interaction.yields_bind] at h
    obtain ⟨scopeHash, hscopeHash, windows, hwindows, observation, hobservation, h⟩ := h
    cases Interaction.yields_done.1 h
    refine ⟨rfl, fun policyValues hvalues => ?_⟩
    cases hsome.symm.trans hvalues
    exact ⟨scopeHash, Interaction.yields_done.1 hscopeHash, rfl,
      ⟨observation, rfl, Interaction.yields_done.1 hobservation⟩, loadLimitWindows_yields hwindows⟩

theorem resolveDailyLimitDimension_yields {label : LimitLabel} {policy : PolicyResolution}
    {scopeKind : Nat} {party : PublicKey} {proposedAmount nowUnixTimestamp : Int}
    {action : SettlementAction} {requireDailyMaximum : Bool} {limit : ResolvedLimitDimension}
    (h : (resolveDailyLimitDimension client label policy scopeKind party proposedAmount action
      nowUnixTimestamp requireDailyMaximum).Yields (.ok limit)) :
    limit.label = label ∧ ∀ policyValues, policy.values = some policyValues →
      (∃ scopeHash, dimensionScopeHash client scopeKind party = .ok scopeHash ∧
        Dimension client label policyValues scopeHash action proposedAmount nowUnixTimestamp
          limit) ∧
      (∀ name, name ≠ .daily → limit.windows.get name = none) ∧
      dimensionPolicyValidationIssues client.language policyValues scopeKind
        (if scopeKind = Scope.asset then party else zeroAddress) requireDailyMaximum =
          .ok limit.validationIssues := by
  unfold resolveDailyLimitDimension at h
  split at h
  · rename_i hnone
    cases Interaction.yields_done.1 h
    refine ⟨rfl, fun policyValues hvalues => ?_⟩
    rw [hnone] at hvalues
    cases hvalues
  · rename_i values hsome
    simp only [Interaction.yields_bind] at h
    obtain ⟨scopeHash, hscopeHash, daily, hdaily, observation, hobservation, issues, hissues, h⟩ :=
      h
    cases Interaction.yields_done.1 h
    refine ⟨rfl, fun policyValues hvalues => ?_⟩
    cases hsome.symm.trans hvalues
    refine ⟨⟨scopeHash, Interaction.yields_done.1 hscopeHash, rfl,
      ⟨observation, rfl, Interaction.yields_done.1 hobservation⟩, ?_⟩, ?_,
      Interaction.yields_done.1 hissues⟩
    · intro name snapshot hsnapshot
      cases name with
      | daily => exact loadUsageWindow_yields hdaily snapshot hsnapshot
      | hourly => cases hsnapshot
      | weekly => cases hsnapshot
      | monthly => cases hsnapshot
    · intro name hname
      cases name with
      | daily => exact absurd rfl hname
      | hourly => rfl
      | weekly => rfl
      | monthly => rfl

theorem bigIntIsNonzero_false {L : Language} {values : StructValues} {fieldName : String}
    (h : bigIntIsNonzero L values fieldName = .ok false) :
    requireBigIntField L values fieldName = .ok 0 := by
  obtain ⟨n, hn, h⟩ := Except.bind_eq_ok.1 h
  have hzero : n = 0 := by simpa using Except.ok.inj h
  rw [hn, hzero]

theorem numberIsNonzero_false {L : Language} {values : StructValues} {fieldName : String}
    (h : numberIsNonzero L values fieldName = .ok false) :
    requireNumberField L values fieldName = .ok 0 := by
  obtain ⟨n, hn, h⟩ := Except.bind_eq_ok.1 h
  have hzero : n = 0 := by simpa using Except.ok.inj h
  rw [hn, hzero]

/-- A policy without a validation issue has the scope of its dimension and no other caps. -/
theorem dimensionPolicyValidationIssues_nil {L : Language} {policyValues : StructValues}
    {scopeKind : Nat} {scopeKey : PublicKey} {requireDailyMaximum : Bool}
    (h : dimensionPolicyValidationIssues L policyValues scopeKind scopeKey requireDailyMaximum =
      .ok []) :
    requireNumberField L policyValues "scope_kind" = .ok scopeKind ∧
      requirePublicKeyField policyValues "scope_key" = .ok scopeKey ∧
      (∀ fieldName ∈ unenforcedCapFields,
        requireBigIntField L policyValues fieldName = .ok 0) ∧
      ∀ fieldName ∈ unenforcedActionFields,
        requireNumberField L policyValues fieldName = .ok 0 := by
  simp only [dimensionPolicyValidationIssues, Except.bind_eq_ok] at h
  obtain ⟨kind, hkind, key, hkey, unenforced, hunenforced, uncapped, -, h⟩ := h
  have hnil := Except.ok.inj h
  simp only [List.append_eq_nil_iff, issueWhen_eq_nil, ne_eq, not_not,
    Bool.not_eq_true] at hnil
  obtain ⟨⟨⟨rfl, rfl⟩, rfl⟩, -⟩ := hnil
  have hfalse := anyHolds_false hunenforced
  refine ⟨hkind, hkey, ?_, ?_⟩
  · intro fieldName hfield
    apply bigIntIsNonzero_false
    apply hfalse
    simp only [unenforcedCapFields, List.mem_cons, List.not_mem_nil, or_false] at hfield
    rcases hfield with rfl | rfl | rfl <;> simp
  · intro fieldName hfield
    apply numberIsNonzero_false
    apply hfalse
    simp only [unenforcedActionFields, List.mem_cons, List.not_mem_nil, or_false] at hfield
    rcases hfield with rfl | rfl <;> simp

/-! ## All dimensions -/

namespace LimitLabel

/-- The binding of a dimension. -/
def binding : LimitLabel → PolicyBindings → PolicyResolution
  | pathway, policies => policies.pathwayLimitPolicy
  | asset, policies => policies.assetLimitPolicy
  | counterparty, policies => policies.counterpartyLimitPolicy
  | counterpartyA, policies => policies.counterpartyLimitPolicy
  | counterpartyB, policies => policies.counterpartyLimitPolicy
  | executor, policies => policies.executorLimitPolicy

/-- Whose scope a dimension has. -/
def party (request : NormalizedSettlementOperationRequest) (identity : OperationIdentity) :
    LimitLabel → PublicKey
  | pathway => zeroAddress
  | asset => request.assetMint
  | counterparty => identity.principalA
  | counterpartyA => identity.principalA
  | counterpartyB => identity.principalB
  | executor => identity.executor

end LimitLabel

section

variable {request : NormalizedSettlementOperationRequest} {identity : OperationIdentity}
  {policies : PolicyBindings} {limitNotional : Int} {limits : List ResolvedLimitDimension}

/-- A dimension other than the pathway's is resolved by its daily window. -/
def ResolvedDaily (client : ChanceryClient) (request : NormalizedSettlementOperationRequest)
    (identity : OperationIdentity) (policies : PolicyBindings) (limitNotional : Int)
    (label : LimitLabel) (scopeKind : Nat) (limit : ResolvedLimitDimension) : Prop :=
  ∃ requireDailyMaximum, (resolveDailyLimitDimension client label (label.binding policies)
    scopeKind (label.party request identity) limitNotional request.action
    request.nowUnixTimestamp requireDailyMaximum).Yields (.ok limit)

theorem resolveCounterpartyLimits_yields {counterparties : List ResolvedLimitDimension}
    (h : (resolveCounterpartyLimits client request identity policies.counterpartyLimitPolicy
      limitNotional).Yields (.ok counterparties)) :
    (request.mode = .trilateral ∧ ∃ a b, counterparties = [a, b] ∧
        ResolvedDaily client request identity policies limitNotional .counterpartyA
          Scope.counterparty a ∧
        ResolvedDaily client request identity policies limitNotional .counterpartyB
          Scope.counterparty b) ∨
      (request.mode ≠ .trilateral ∧ ∃ c, counterparties = [c] ∧
        ResolvedDaily client request identity policies limitNotional .counterparty
          Scope.counterparty c) := by
  unfold resolveCounterpartyLimits at h
  dsimp only at h
  split at h
  · simp only [Interaction.yields_bind] at h
    obtain ⟨a, ha, b, hb, h⟩ := h
    cases Interaction.yields_done.1 h
    exact Or.inl ⟨‹_›, a, b, rfl, ⟨false, ha⟩, ⟨false, hb⟩⟩
  · rename_i hmode
    simp only [Interaction.yields_bind] at h
    obtain ⟨c, hc, h⟩ := h
    cases Interaction.yields_done.1 h
    exact Or.inr ⟨hmode, c, rfl, ⟨_, hc⟩⟩

theorem resolveExecutorLimit_yields {executors : List ResolvedLimitDimension}
    (h : (resolveExecutorLimit client request identity policies.executorLimitPolicy
      limitNotional).Yields (.ok executors)) :
    (request.mode = .direct ∧ executors = []) ∨
      (request.mode ≠ .direct ∧ ∃ e, executors = [e] ∧
        ResolvedDaily client request identity policies limitNotional .executor Scope.executor
          e) := by
  unfold resolveExecutorLimit at h
  split at h
  · cases Interaction.yields_done.1 h
    exact Or.inl ⟨‹_›, rfl⟩
  · rename_i hmode
    simp only [Interaction.yields_bind] at h
    obtain ⟨e, he, h⟩ := h
    cases Interaction.yields_done.1 h
    exact Or.inr ⟨hmode, e, rfl, ⟨false, he⟩⟩

/-- Every dimension that applies is found under its label. -/
theorem resolveLimits_yields
    (h : (resolveLimits client request identity policies limitNotional).Yields (.ok limits)) :
    (∃ limit, limitByLabel limits .pathway = some limit ∧
      (resolvePathwayLimitDimension client policies.pathwayLimitPolicy request.action
        limitNotional request.nowUnixTimestamp).Yields (.ok limit)) ∧
    ∀ label : LimitLabel, label.applies request.mode = true → ∀ scopeKind ∈ label.scopeKind,
      ∃ limit, limitByLabel limits label = some limit ∧
        ResolvedDaily client request identity policies limitNotional label scopeKind limit := by
  simp only [resolveLimits, Interaction.yields_bind] at h
  obtain ⟨pathway, hpathway, asset, hasset, counterparties, hcounterparties, executors, hexecutors,
    h⟩ := h
  cases Interaction.yields_done.1 h
  have hpathwayLabel := (resolvePathwayLimitDimension_yields hpathway).1
  have hassetLabel := (resolveDailyLimitDimension_yields hasset).1
  have hdailyLabel : ∀ {label : LimitLabel} {scopeKind : Nat} {limit : ResolvedLimitDimension},
      ResolvedDaily client request identity policies limitNotional label scopeKind limit →
        limit.label = label := by
    rintro label scopeKind limit ⟨_, hlimit⟩
    exact (resolveDailyLimitDimension_yields hlimit).1
  refine ⟨⟨pathway, by simp [limitByLabel, hpathwayLabel], hpathway⟩, ?_⟩
  rintro label happlies scopeKind hscopeKind
  have hcounterparty := resolveCounterpartyLimits_yields hcounterparties
  have hexecutor := resolveExecutorLimit_yields hexecutors
  cases label with
  | pathway => cases hscopeKind
  | asset =>
    cases hscopeKind
    exact ⟨asset, by simp [limitByLabel, hpathwayLabel, hassetLabel], false, hasset⟩
  | counterparty =>
    cases hscopeKind
    rcases hcounterparty with ⟨hmode, -⟩ | ⟨-, c, rfl, hc⟩
    · simp [LimitLabel.applies, hmode] at happlies
    · exact ⟨c, by simp [limitByLabel, hpathwayLabel, hassetLabel, hdailyLabel hc], hc⟩
  | counterpartyA =>
    cases hscopeKind
    rcases hcounterparty with ⟨-, a, b, rfl, ha, hb⟩ | ⟨hmode, -⟩
    · exact ⟨a, by simp [limitByLabel, hpathwayLabel, hassetLabel, hdailyLabel ha], ha⟩
    · simp [LimitLabel.applies, hmode] at happlies
  | counterpartyB =>
    cases hscopeKind
    rcases hcounterparty with ⟨-, a, b, rfl, ha, hb⟩ | ⟨hmode, -⟩
    · exact ⟨b, by
        simp [limitByLabel, hpathwayLabel, hassetLabel, hdailyLabel ha, hdailyLabel hb], hb⟩
    · simp [LimitLabel.applies, hmode] at happlies
  | executor =>
    cases hscopeKind
    rcases hexecutor with ⟨hmode, -⟩ | ⟨-, e, rfl, he⟩
    · simp [LimitLabel.applies, hmode] at happlies
    · refine ⟨e, ?_, he⟩
      rcases hcounterparty with ⟨-, a, b, rfl, ha, hb⟩ | ⟨-, c, rfl, hc⟩
      · simp [limitByLabel, hpathwayLabel, hassetLabel, hdailyLabel ha, hdailyLabel hb,
          hdailyLabel he]
      · simp [limitByLabel, hpathwayLabel, hassetLabel, hdailyLabel hc, hdailyLabel he]

end

/-! ## The instruction's windows -/

theorem lookup_compactAccountInputs {values : NamedAddresses} {name : String}
    {address : PublicKey} (h : values.lookup name = some (some address)) :
    (compactAccountInputs values).lookup name = some address := by
  induction values with
  | nil => cases h
  | cons first rest ih =>
    obtain ⟨other, given⟩ := first
    rw [List.lookup_cons] at h
    unfold compactAccountInputs at ih ⊢
    cases hname : name == other with
    | true =>
      rw [hname] at h
      cases h
      simp [List.lookup_cons, hname]
    | false =>
      rw [hname] at h
      cases given with
      | none => simpa using ih h
      | some address' => simpa [List.lookup_cons, hname] using ih h

theorem lookup_commonAccountInputs {resolution : SettlementResolution} {label : LimitLabel}
    {name : UsageWindowName} {accountName : String} (assetConfig assetPauseState : PublicKey)
    (happlies : label.applies resolution.request.mode = true)
    (hname : label.windowAccount name = some accountName)
    (hcommon : label ≠ .counterpartyA ∧ label ≠ .counterpartyB) :
    (commonAccountInputs resolution assetConfig assetPauseState).lookup accountName =
      some (windowAddress (limitByLabel resolution.limits label) name) := by
  unfold commonAccountInputs
  cases label with
  | pathway => cases name <;> cases hname <;> rfl
  | asset => cases name <;> cases hname; rfl
  | counterparty =>
    cases name <;> cases hname
    have hmode : resolution.request.mode ≠ .trilateral := by
      simpa [LimitLabel.applies] using happlies
    dsimp only
    rw [if_neg hmode]
    rfl
  | executor =>
    cases name <;> cases hname
    have hmode : resolution.request.mode ≠ .direct := by
      simpa [LimitLabel.applies] using happlies
    dsimp only
    rw [if_neg hmode]
    rfl
  | counterpartyA => exact absurd rfl hcommon.1
  | counterpartyB => exact absurd rfl hcommon.2

theorem modeAccountInputs_trilateral {resolution : SettlementResolution}
    {principal : ResolvedPermission} {modeInputs : NamedAddresses}
    (hmode : resolution.request.mode = .trilateral)
    (h : modeAccountInputs resolution principal = .ok modeInputs) :
    ∃ intent principalB executor, modeInputs = trilateralAccountInputs resolution.identity
      resolution.limits intent principal principalB executor := by
  unfold modeAccountInputs at h
  dsimp only at h
  split at h
  · rename_i hdirect
    exact absurd (hmode.symm.trans hdirect) (by decide)
  · rename_i hdelegated _ _
    exact absurd (hmode.symm.trans hdelegated) (by decide)
  · cases h
  · cases h
    exact ⟨_, _, _, rfl⟩
  · cases h

/-- The address of a window that exists is in the instruction, under the window's account. -/
theorem buildInstructionAccounts_window {resolution : SettlementResolution}
    {instructionAccounts : InstructionAccountInputs} {label : LimitLabel} {name : UsageWindowName}
    {accountName : String} {address : PublicKey}
    (h : buildInstructionAccounts resolution = .ok instructionAccounts)
    (happlies : label.applies resolution.request.mode = true)
    (hname : label.windowAccount name = some accountName)
    (hwindow : windowAddress (limitByLabel resolution.limits label) name = some address) :
    instructionAccounts.lookup accountName = some address := by
  unfold buildInstructionAccounts at h
  split at h
  · cases h
  · rename_i principal permissions hpermissions
    simp only [Except.bind_eq_ok] at h
    obtain ⟨assetConfig, -, source, -, reserve, -, destination, -, assetPauseState, -, modeInputs,
      hmodeInputs, h⟩ := h
    cases h
    apply lookup_compactAccountInputs
    rw [List.lookup_append, List.lookup_append]
    by_cases hcommon : label ≠ .counterpartyA ∧ label ≠ .counterpartyB
    · rw [lookup_commonAccountInputs _ _ happlies hname hcommon, hwindow]
      rfl
    · have hmode : resolution.request.mode = .trilateral := by
        cases label <;> simp [LimitLabel.applies] at hcommon happlies <;> exact happlies
      obtain ⟨intent, principalB, executor, rfl⟩ := modeAccountInputs_trilateral hmode hmodeInputs
      have hskipped : (commonAccountInputs resolution assetConfig assetPauseState).lookup
          accountName = none ∧ (tokenAccountInputs resolution source reserve
            destination).lookup accountName = none := by
        unfold tokenAccountInputs
        cases label <;> simp at hcommon <;> cases name <;> cases hname <;>
          cases resolution.request.action <;> exact ⟨rfl, rfl⟩
      rw [hskipped.1, hskipped.2, ← hwindow]
      cases label <;> simp at hcommon <;> cases name <;> cases hname <;> rfl

/-! ## Parties and policies -/

theorem intentTerms_parties {request : NormalizedSettlementOperationRequest}
    {intentValues : StructValues} {terms : IntentTerms}
    (h : intentTerms client request intentValues = .ok terms) :
    terms.principalA = request.principal ∧
      requirePublicKeyField intentValues "principal_b" = .ok terms.principalB ∧
      requirePublicKeyField intentValues "executor" = .ok terms.executor := by
  simp only [intentTerms, Except.bind_eq_ok, rejectWhen_ok] at h
  obtain ⟨principalA, -, principalB, hprincipalB, executor, hexecutor, _, hprincipal, _, -, _, -, _,
    -, _, -, _, -, _, -, _, -, h⟩ := h
  cases h
  exact ⟨not_not.1 hprincipal, hprincipalB, hexecutor⟩

/-- Principal A is the request's principal; the other parties are the intent's. -/
theorem resolveOperationIdentity_parties {request : NormalizedSettlementOperationRequest}
    {identity : OperationIdentity}
    (h : (resolveOperationIdentity client request).Yields (.ok identity)) :
    identity.principalA = request.principal ∧ (request.mode ≠ .direct →
      ∃ intentValues, identity.intent.bind (·.values) = some intentValues ∧
        requirePublicKeyField intentValues "principal_b" = .ok identity.principalB ∧
        requirePublicKeyField intentValues "executor" = .ok identity.executor) := by
  unfold resolveOperationIdentity at h
  split at h
  · rename_i hmode
    have hidentity := Interaction.yields_done.1 h
    unfold directIdentity at hidentity
    split at hidentity
    · cases hidentity
    · split at hidentity
      · cases hidentity
      · cases hidentity
        exact ⟨rfl, fun hdirect => absurd hmode hdirect⟩
  · cases Interaction.yields_done.1 h
  · simp only [intentIdentity, Interaction.yields_bind] at h
    obtain ⟨_, -, intent, -, intentValues, hvalues, terms, hterms, _, -, _, -, h⟩ := h
    cases Interaction.yields_done.1 h
    obtain ⟨hprincipal, hprincipalB, hexecutor⟩ :=
      intentTerms_parties (Interaction.yields_done.1 hterms)
    exact ⟨hprincipal, fun _ => ⟨intentValues,
      requireSnapshotValues_ok (Interaction.yields_done.1 hvalues), hprincipalB, hexecutor⟩⟩

/-- An identifier that is not zero binds a policy. -/
theorem resolvePolicyFromIdentifier_bound {identifierValue : Option Value} {expectedName : String}
    {derive : Bytes → Except String ProgramAddressResult} {policy : PolicyResolution}
    (h : (resolvePolicyFromIdentifier client identifierValue expectedName derive).Yields
      (.ok policy)) {label : String} {identifier : Bytes}
    (hidentifier : requireBytes identifierValue label 32 = .ok identifier)
    (hnonzero : identifier.any (· != 0) = true) : policy.snapshot.isSome = true := by
  obtain ⟨unbound, hunbound, h⟩ := Interaction.yields_bind.1 h
  have hzero := Interaction.yields_done.1 hunbound
  unfold isZeroBytes32 at hzero
  rw [requireBytes_relabel hidentifier] at hzero
  have hbound : unbound = false := by
    rw [← Except.ok.inj hzero]
    simpa using hnonzero
  subst hbound
  simp only [Bool.false_eq_true, if_false, Interaction.yields_bind] at h
  obtain ⟨_, -, _, -, _, -, h⟩ := h
  cases Interaction.yields_done.1 h
  rfl

/-- The policy of a dimension that applies is the one that the pathway names. -/
theorem resolvePolicies_binding {request : NormalizedSettlementOperationRequest}
    {currentSlot : Nat} {core : CoreResolution} {pathwayValues : StructValues}
    {policies : PolicyBindings}
    (h : (resolvePolicies client request currentSlot core pathwayValues).Yields (.ok policies))
    (label : LimitLabel) (happlies : label.applies request.mode = true) :
    (resolvePolicyFromIdentifier client (pathwayValues.lookup (label.policyField request.action))
      "LimitPolicy" (deriveLimitPolicyAddress client)).Yields (.ok (label.binding policies)) := by
  simp only [resolvePolicies, Interaction.yields_bind] at h
  obtain ⟨_, -, _, hpathway, _, -, _, -, _, -, _, hasset, _, hcounterparty, _, hexecutor, h⟩ := h
  cases Interaction.yields_done.1 h
  cases label with
  | pathway => exact hpathway
  | asset => exact hasset
  | counterparty => exact hcounterparty
  | counterpartyA => exact hcounterparty
  | counterpartyB => exact hcounterparty
  | executor =>
    unfold resolveExecutorLimitPolicy at hexecutor
    split at hexecutor
    · rename_i hmode
      simp [LimitLabel.applies, hmode] at happlies
    · exact hexecutor

theorem selectPathway_values {request : NormalizedSettlementOperationRequest}
    {identity : OperationIdentity} {issuedTokenMint : PublicKey} {pathway : PathwaySelection}
    (h : (selectPathway client request identity issuedTokenMint).Yields (.ok pathway)) :
    pathway.pathway.values = some pathway.values := by
  simp only [selectPathway, Interaction.yields_bind] at h
  obtain ⟨_, -, _, -, _, -, values, hvalues, _, -, _, -, _, -, _, -, h⟩ := h
  cases Interaction.yields_done.1 h
  exact requireSnapshotValues_ok (Interaction.yields_done.1 hvalues)

/-! ## Ready inspections -/

section

variable {requestInput : SettlementOperationRequest} {clock : RpcClock}
  {resolution : SettlementResolution} {inspection : SettlementInspection}

theorem limitedParty_eq (hresolved : Resolved client requestInput clock resolution)
    (hassemble : assembleInspection resolution = .ok inspection) {label : LimitLabel}
    {scopeKind : Nat} (hscope : label.scopeKind = some scopeKind)
    (happlies : label.applies resolution.request.mode = true) :
    limitedParty inspection label = .ok (label.party resolution.request resolution.identity) := by
  obtain ⟨_, _, -, -, rfl⟩ := assembleInspection_ok.1 hassemble
  obtain ⟨hprincipal, hparties⟩ := resolveOperationIdentity_parties hresolved.identity
  cases label with
  | pathway => cases hscope
  | asset => rfl
  | counterparty => exact congrArg Except.ok hprincipal.symm
  | counterpartyA => exact congrArg Except.ok hprincipal.symm
  | counterpartyB =>
    have hmode : resolution.request.mode = .trilateral := by
      simpa [LimitLabel.applies] using happlies
    obtain ⟨values, hvalues, hprincipalB, -⟩ := hparties (by rw [hmode]; decide)
    show intentKey _ "principal_b" = _
    unfold intentKey inspectionOf
    rw [hvalues]
    exact hprincipalB
  | executor =>
    have hmode : resolution.request.mode ≠ .direct := by
      simpa [LimitLabel.applies] using happlies
    obtain ⟨values, hvalues, -, hexecutor⟩ := hparties hmode
    show intentKey _ "executor" = _
    unfold intentKey inspectionOf
    rw [hvalues]
    exact hexecutor

/-- A dimension without an issue is safe, window by window. -/
theorem windowSafe_of_dimension (hassemble : assembleInspection resolution = .ok inspection)
    {label : LimitLabel}
    (happlies : label.applies resolution.request.mode = true) {policyValues : StructValues}
    {scopeHash : Bytes} {limit : ResolvedLimitDimension}
    (hfound : limitByLabel resolution.limits label = some limit)
    (hdimension : Dimension client label policyValues scopeHash resolution.request.action
      resolution.quote.limitNotional resolution.request.nowUnixTimestamp limit)
    (hlabelled : ∀ name, label.windowAccount name = none → limit.windows.get name = none)
    (hissues : limitIssues limit = []) (name : UsageWindowName) :
    ∃ maximum maximumActionCount,
      requireBigIntField client.language policyValues name.maximumField = .ok maximum ∧
        maximumActions client.language policyValues name = .ok maximumActionCount ∧
        (maximum ≠ 0 ∨ maximumActionCount ≠ 0 →
          WindowSafe client inspection label scopeHash name maximum maximumActionCount) := by
  obtain ⟨_, instructionAccounts, -, haccounts, rfl⟩ := assembleInspection_ok.1 hassemble
  obtain ⟨observation, hobservation, hobserves⟩ := hdimension.observes
  obtain ⟨-, -, hwindows⟩ := limitIssues_nil hobservation hissues
  obtain ⟨window, hmem, hwindow⟩ := (observeLimitPolicy_ok hobserves).2 name
  obtain ⟨hname, hmaximum, hactions, canonicalStart, storedStart, amount, actionCount, hcanonical,
    husage, hregression, hallowed, hactionAllowed⟩ := observeLimitWindow_ok hwindow
  obtain ⟨hforward, hwithin, hactionWithin, hexists⟩ := windowIssues_nil (hwindows window hmem)
  refine ⟨window.maximum, window.maximumActionCount, hmaximum, hactions, fun henforced => ?_⟩
  have hloaded := hexists henforced
  rw [hname] at hloaded
  cases hsnapshot : limit.windows.get name with
  | none =>
    rw [hsnapshot] at hloaded
    cases hloaded
  | some snapshot =>
    rw [hsnapshot] at hloaded
    have hexist : snapshot.doesExist = true := hloaded
    obtain ⟨windowValues, hvalues⟩ := Option.isSome_iff_exists.1 hexist
    obtain ⟨pda, hpda, hload⟩ := hdimension.loads name snapshot hsnapshot
    have haddress := loadChanceryState_address hload
    have hread : (snapshotValuesByWindow limit.windows).get name = some windowValues := by
      have hbind : (snapshotValuesByWindow limit.windows).get name =
          (limit.windows.get name).bind (·.values) := by cases name <;> rfl
      rw [hbind, hsnapshot]
      exact hvalues
    rw [hread] at husage
    obtain ⟨start, rfl, hstart, hcurrent⟩ := windowUsage_some husage
    rw [hregression] at hforward
    rw [hallowed, hregression, hforward] at hwithin
    rw [hactionAllowed, hregression, hforward] at hactionWithin
    have hstartLe : start ≤ canonicalStart := by simpa using hforward
    cases haccount : label.windowAccount name with
    | none =>
      rw [hlabelled name haccount] at hsnapshot
      cases hsnapshot
    | some accountName =>
      have hwindowAddress : windowAddress (limitByLabel resolution.limits label) name =
          some pda.address := by
        rw [hfound]
        simp [windowAddress, hsnapshot, hexist, haddress]
      refine ⟨pda, snapshot, windowValues, accountName, hpda, hload, ⟨limit, ?_,
        hdimension.label, hsnapshot⟩, hvalues, ⟨start, canonicalStart, amount, actionCount, hstart,
        hcanonical, hstartLe, hcurrent, ?_, ?_⟩, haccount,
        buildInstructionAccounts_window haccounts happlies haccount hwindowAddress⟩
      · exact List.mem_of_find?_eq_some hfound
      · intro hcap
        show amount + resolution.quote.limitNotional ≤ window.maximum
        simpa [hcap] using hwithin
      · intro hcap
        simpa [hcap] using hactionWithin

theorem transaction_of_dimension (hassemble : assembleInspection resolution = .ok inspection)
    {label : LimitLabel} {policyValues : StructValues} {scopeHash : Bytes}
    {limit : ResolvedLimitDimension}
    (hdimension : Dimension client label policyValues scopeHash resolution.request.action
      resolution.quote.limitNotional resolution.request.nowUnixTimestamp limit)
    (hissues : limitIssues limit = []) :
    ∃ maximum,
      requireBigIntField client.language policyValues "per_transaction_maximum" = .ok maximum ∧
        (maximum ≠ 0 → inspection.amounts.limitNotional ≤ maximum) := by
  obtain ⟨_, _, -, -, rfl⟩ := assembleInspection_ok.1 hassemble
  obtain ⟨observation, hobservation, hobserves⟩ := hdimension.observes
  obtain ⟨-, hallowed, -⟩ := limitIssues_nil hobservation hissues
  obtain ⟨maximum, hmaximum, hverdict⟩ := (observeLimitPolicy_ok hobserves).1
  refine ⟨maximum, hmaximum, fun hcap => ?_⟩
  rw [hverdict] at hallowed
  show resolution.quote.limitNotional ≤ maximum
  simpa [hcap] using hallowed

theorem limitSafe_pathway (hresolved : Resolved client requestInput clock resolution)
    (hassemble : assembleInspection resolution = .ok inspection)
    (hlimits : validateLimits resolution.limits = []) {policyValues : StructValues}
    (hvalues : resolution.policies.pathwayLimitPolicy.values = some policyValues) :
    LimitSafe client inspection .pathway policyValues := by
  obtain ⟨limit, hfound, hlimit⟩ := (resolveLimits_yields hresolved.limits).1
  obtain ⟨scopeHash, hscopeHash, hdimension⟩ :=
    (resolvePathwayLimitDimension_yields hlimit).2 policyValues hvalues
  have hissues : limitIssues limit = [] :=
    List.flatMap_eq_nil_iff.1 hlimits limit (List.mem_of_find?_eq_some hfound)
  refine ⟨transaction_of_dimension hassemble hdimension hissues, ⟨scopeHash, hscopeHash, ?_⟩, ?_⟩
  · apply windowSafe_of_dimension hassemble rfl hfound hdimension ?_ hissues
    intro name hname
    cases name <;> cases hname
  · intro scopeKind hscopeKind
    cases hscopeKind

theorem limitSafe_daily (hresolved : Resolved client requestInput clock resolution)
    (hassemble : assembleInspection resolution = .ok inspection)
    (hlimits : validateLimits resolution.limits = []) {label : LimitLabel}
    (happlies : label.applies resolution.request.mode = true) {scopeKind : Nat}
    (hscope : label.scopeKind = some scopeKind) {policyValues : StructValues}
    (hvalues : (label.binding resolution.policies).values = some policyValues) :
    LimitSafe client inspection label policyValues := by
  obtain ⟨limit, hfound, requireDailyMaximum, hlimit⟩ :=
    (resolveLimits_yields hresolved.limits).2 label happlies scopeKind hscope
  obtain ⟨-, hresolvedLimit⟩ := resolveDailyLimitDimension_yields hlimit
  obtain ⟨⟨scopeHash, hscopeHash, hdimension⟩, hdaily, hvalidation⟩ :=
    hresolvedLimit policyValues hvalues
  have hissues : limitIssues limit = [] :=
    List.flatMap_eq_nil_iff.1 hlimits limit (List.mem_of_find?_eq_some hfound)
  obtain ⟨observation, hobservation, -⟩ := hdimension.observes
  rw [(limitIssues_nil hobservation hissues).1] at hvalidation
  obtain ⟨hkind, hkey, hcaps, hactions⟩ := dimensionPolicyValidationIssues_nil hvalidation
  refine ⟨transaction_of_dimension hassemble hdimension hissues, ⟨scopeHash, ?_, ?_⟩, ?_⟩
  · unfold limitScopeHash
    rw [hscope, limitedParty_eq hresolved hassemble hscope happlies]
    exact hscopeHash
  · apply windowSafe_of_dimension hassemble happlies hfound hdimension ?_ hissues
    intro name hname
    apply hdaily
    rintro rfl
    cases label <;> cases hname
  · intro kind hlabelKind
    cases hscope.symm.trans hlabelKind
    obtain ⟨_, _, -, -, rfl⟩ := assembleInspection_ok.1 hassemble
    refine ⟨hkind, ?_, hcaps, hactions⟩
    rw [hkey]
    cases label <;> cases hscope <;> rfl

/-- **Limits of a ready inspection**: every dimension that applies has the policy that the
pathway names, and that policy is kept. -/
theorem readyLimits_safe (client : ChanceryClient) (requestInput : SettlementOperationRequest)
    (inspection : SettlementInspection)
    (h : (inspect client requestInput).Yields (.ok inspection)) (hready : inspection.ready = true) :
    ∃ pathwayValues, inspection.pathway.values = some pathwayValues ∧
      ∀ label : LimitLabel, label.applies inspection.request.mode = true →
        (∀ identifier, requireBytes (pathwayValues.lookup (label.policyField
            inspection.request.action)) "LimitPolicy id" 32 = .ok identifier →
          identifier.any (· != 0) = true → (label.policy inspection.policies).isSome = true) ∧
        ∀ policy ∈ label.policy inspection.policies, ∃ policyValues,
          policy.values = some policyValues ∧ LimitSafe client inspection label policyValues := by
  obtain ⟨clock, resolution, hresolved, hassemble, hunblocked⟩ := ready_resolution h hready
  have hlimits := (unblocked_of_nil hunblocked).limits
  obtain ⟨instructionArguments, instructionAccounts, -, -, hinspection⟩ :=
    assembleInspection_ok.1 hassemble
  refine ⟨resolution.pathway.values, ?_, fun label happlies => ?_⟩
  · rw [hinspection]
    exact selectPathway_values hresolved.pathway
  · have hmode : label.applies resolution.request.mode = true := by
      rw [hinspection] at happlies
      exact happlies
    have hsnapshot : label.policy inspection.policies =
        (label.binding resolution.policies).snapshot := by
      rw [hinspection]
      cases label <;> rfl
    have hbinding := resolvePolicies_binding hresolved.policies label hmode
    have haction : inspection.request.action = resolution.request.action := by rw [hinspection]; rfl
    rw [hsnapshot, haction]
    refine ⟨fun identifier hidentifier hnonzero =>
      resolvePolicyFromIdentifier_bound hbinding hidentifier hnonzero, fun policy hpolicy => ?_⟩
    have hsome := resolvePolicyFromIdentifier_values hbinding
    rw [Option.mem_def.1 hpolicy] at hsome
    obtain ⟨policyValues, hvalues⟩ := Option.isSome_iff_exists.1 hsome
    have hpolicyValues : policy.values = some policyValues := by
      unfold PolicyResolution.values at hvalues
      rw [Option.mem_def.1 hpolicy] at hvalues
      exact hvalues
    refine ⟨policyValues, hpolicyValues, ?_⟩
    cases hscope : label.scopeKind with
    | none =>
      cases label <;> cases hscope
      exact limitSafe_pathway hresolved hassemble hlimits hvalues
    | some scopeKind =>
      exact limitSafe_daily hresolved hassemble hlimits hmode hscope hvalues

end

/-! ## A pathway with a daily limit -/

namespace Sample

def pathwayLimitPolicy : PublicKey := address
  [73, 246, 197, 138, 93, 219, 43, 33, 3, 159, 81, 149, 109, 212, 32, 1, 101, 24, 82, 231, 196,
   95, 65, 92, 107, 153, 166, 222, 212, 95, 146, 193]

def pathwayDailyWindow : PublicKey := address
  [240, 43, 228, 32, 141, 165, 129, 187, 154, 73, 98, 29, 188, 165, 148, 79, 217, 7, 246, 130,
   197, 17, 188, 207, 78, 15, 51, 161, 223, 241, 119, 235]

/-- A direct pathway that takes ten units a day in at most three settlements. -/
def limitedEntries : List (PublicKey × RpcAccountInfo) :=
  [(pathwayPolicy, state "PathwayPolicy" [("pathway_kind", .number (pathwayKindValue .direct)),
      ("pathway_id", .bytes pathwayId), ("asset_mint", keyValue assetMint),
      ("issued_token_mint", keyValue issuedTokenMint), ("status_flags", .bigint 1),
      ("limit_policy_id", .bytes (key 5).bytes)]),
   (pathwayLimitPolicy, state "LimitPolicy" [("scope_kind", .number Scope.pathway),
      ("scope_key", keyValue pathwayPolicy), ("per_day_maximum", .bigint 10),
      ("maximum_actions_per_day", .number 3)]),
   (pathwayDailyWindow, state "UsageWindow" [("gross_in", .array [.bigint 4, .bigint 0]),
      ("action_count", .number 1)]),
   (principalPermission, permission principal 3)]

def limitedMarket : Chain := ⟨100, coreEntries 100 1000000000 ++ limitedEntries ++ tokenEntries 5⟩

end Sample

/-- Five units after four of the same day. -/
theorem limitedMint_run :
    ∃ inspection, (inspect (Sample.client .typescript) (Sample.directMint 5)).Yields
        (.ok inspection) ∧
      inspection.ready = true ∧ inspection.policies.pathwayLimitPolicy.isSome = true ∧
      inspection.instructionAccounts.lookup "daily_usage_window" =
        some Sample.pathwayDailyWindow := by
  have hrun : ((inspect (Sample.client .typescript) (Sample.directMint 5)).run
      Sample.limitedMarket.respond).toOption.any (fun inspection =>
        inspection.ready && inspection.policies.pathwayLimitPolicy.isSome &&
          inspection.instructionAccounts.lookup "daily_usage_window" ==
            some Sample.pathwayDailyWindow) = true := by
    decide +kernel
  obtain ⟨inspection, hyields, hfacts⟩ := Interaction.yields_of_check hrun
  simp only [Bool.and_eq_true, beq_iff_eq] at hfacts
  exact ⟨inspection, hyields, hfacts.1.1, hfacts.1.2, hfacts.2⟩

theorem readyLimits_safe_limitedMint :
    ∃ inspection, (inspect (Sample.client .typescript) (Sample.directMint 5)).Yields
        (.ok inspection) ∧ inspection.ready = true ∧
      inspection.policies.pathwayLimitPolicy.isSome = true ∧
      ∃ pathwayValues, inspection.pathway.values = some pathwayValues ∧
        ∀ label : LimitLabel, label.applies inspection.request.mode = true →
          (∀ identifier, requireBytes (pathwayValues.lookup (label.policyField
              inspection.request.action)) "LimitPolicy id" 32 = .ok identifier →
            identifier.any (· != 0) = true → (label.policy inspection.policies).isSome = true) ∧
          ∀ policy ∈ label.policy inspection.policies, ∃ policyValues,
            policy.values = some policyValues ∧
              LimitSafe (Sample.client .typescript) inspection label policyValues := by
  obtain ⟨inspection, hyields, hready, hpolicy, -⟩ := limitedMint_run
  exact ⟨inspection, hyields, hready, hpolicy, readyLimits_safe _ _ inspection hyields hready⟩

end Chancery
