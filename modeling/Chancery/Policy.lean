import Chancery.Quote

/-!
# Policies

The observations of `typescript/src/client/ChanceryProtocol.ts` on permission records, settlement
policies and limit policies.

* `permissionObservation` — does a record grant a role to a subject in a scope?
* `observeSettlementPolicy` — does a policy admit the settlement?
* `observeLimitPolicy` — what the caps of a policy leave in each usage window.
-/

set_option autoImplicit false

namespace Chancery

variable (client : ChanceryClient)

/-- Whether a pathway is initialized and not paused. -/
def pathwayIsActive (L : Language) (values : StructValues) : Except String Bool := do
  let statusFlags ← requireBigIntField L values "status_flags"
  return hasBits statusFlags StatusFlag.initialized && !hasBits statusFlags StatusFlag.pathwayPause

/-! ## Permissions -/

def permissionPaused : Nat := 1 <<< 0

/-- A permission record against what is asked of it. -/
structure PermissionObservation where
  requiredRole : Nat
  heldRoles : Int
  hasRequiredRole : Bool
  subjectMatches : Bool
  scopeMatches : Bool
  roleSchemaMatches : Bool
  paused : Bool
  expired : Bool

/-- Whether the record permits. -/
def PermissionObservation.usable (observation : PermissionObservation) : Bool :=
  observation.hasRequiredRole && observation.subjectMatches && observation.scopeMatches
    && observation.roleSchemaMatches && !observation.paused && !observation.expired

/-- The key is read only when the kind matches. -/
def recordScopeMatches (L : Language) (values : StructValues) (expectedScopeKind : Nat)
    (expectedScopeKey : PublicKey) : Except String Bool := do
  let scopeKind ← requireNumberField L values "scope_kind"
  if scopeKind ≠ expectedScopeKind then return false
  else do
    let scopeKey ← requirePublicKeyField values "scope_key"
    return decide (scopeKey = expectedScopeKey)

/-- The observation of a permission record. -/
def permissionObservation (L : Language) (values : StructValues) (requiredRole : Nat)
    (expectedSubject : PublicKey) (expectedScopeKind : Nat) (expectedScopeKey : PublicKey)
    (nowUnixTimestamp : Int) : Except String PermissionObservation := do
  let roleBits ← requireBigIntArrayField L values "role_bits" 2
  let heldRoles ← wordsToUnsigned128 roleBits
  let expiry ← requireBigIntField L values "expiry_unix_timestamp"
  let permissionFlags ← requireBigIntField L values "permission_flags"
  let subject ← requirePublicKeyField values "subject"
  let scopeMatches ← recordScopeMatches L values expectedScopeKind expectedScopeKey
  let roleSchemaVersion ← requireNumberField L values "role_schema_version"
  return {
    requiredRole := requiredRole
    heldRoles := heldRoles
    hasRequiredRole := heldRoles.toNat &&& requiredRole == requiredRole
    subjectMatches := decide (subject = expectedSubject)
    scopeMatches := scopeMatches
    roleSchemaMatches := roleSchemaVersion == 1
    paused := hasBits permissionFlags permissionPaused
    expired := expiry != 0 && decide (expiry ≤ nowUnixTimestamp) }

/-! ## Settlement policies -/

/-- A settlement policy against the settlement. -/
structure SettlementPolicyObservation where
  identityMatches : Bool
  bumpMatches : Bool
  policyIdNonzero : Bool
  policyFlagsValid : Bool
  allowedSettlementModes : Nat
  modeMaskValid : Bool
  modeAllowed : Bool
  assetAllowed : Bool
  principalAAllowed : Bool
  principalBAllowed : Bool
  executorAllowed : Bool
  minimumNotional : Int
  maximumNotional : Int
  notionalAllowed : Bool
  validAfterUnixTimestamp : Int
  expiresAtUnixTimestamp : Int
  timestampRangeValid : Bool
  temporallyEffective : Bool
  usable : Bool
  observations : List String

/-- The modes that a settlement policy may allow. -/
def knownModeMask : Nat :=
  1 <<< settlementModeValue .delegated ||| 1 <<< settlementModeValue .trilateral

/-- `requireNumberField(…) >>> 0`; Python keeps the integer. -/
def settlementModeBits (L : Language) (modes : Int) : Nat :=
  match L with
  | .typescript => (modes % 2 ^ 32).toNat
  | .python => modes.toNat

/-- Is the address the one that a policy names?  The zero address stands for any. -/
def anyOrEqual (allowed actual : PublicKey) : Bool :=
  decide (allowed = zeroAddress) || decide (allowed = actual)

/-- The observation of a settlement policy. -/
def observeSettlementPolicy (values : StructValues) (mode : SettlementMode)
    (assetMint principalA principalB executor : PublicKey)
    (inputNotional nowUnixTimestamp : Int) (expectedAddress : PublicKey) (expectedBump : Nat) :
    Except String SettlementPolicyObservation := do
  let L := client.language
  let policyId ← requireBytes (values.lookup "policy_id") "settlement policy id" 32
  let derivedAddress ← deriveSettlementPolicyAddress client policyId
  let identityMatches := decide (derivedAddress.address = expectedAddress)
  let bump ← requireNumberField L values "bump"
  let bumpMatches := bump == expectedBump
  let policyIdNonzero := !policyId.all (· == 0)
  let policyFlags ← requireBigIntField L values "policy_flags"
  let policyFlagsValid := policyFlags == 0
  let modes ← requireNumberField L values "allowed_settlement_modes"
  let allowedSettlementModes := settlementModeBits L modes
  let modeMaskValid := allowedSettlementModes != 0
    && bitsOutside allowedSettlementModes knownModeMask == 0
  let modeAllowed := mode != .direct
    && allowedSettlementModes &&& 1 <<< settlementModeValue mode != 0
  let allowedAssetMint ← requirePublicKeyField values "allowed_asset_mint"
  let allowedPrincipalA ← requirePublicKeyField values "allowed_principal_a"
  let allowedPrincipalB ← requirePublicKeyField values "allowed_principal_b"
  let designatedExecutor ← requirePublicKeyField values "designated_executor"
  let assetAllowed := anyOrEqual allowedAssetMint assetMint
  let principalAAllowed := anyOrEqual allowedPrincipalA principalA
  let principalBAllowed := anyOrEqual allowedPrincipalB principalB
  let executorAllowed := anyOrEqual designatedExecutor executor
  let minimumNotional ← requireBigIntField L values "min_notional"
  let maximumNotional ← requireBigIntField L values "max_notional"
  let notionalRangeValid := maximumNotional == 0 || decide (minimumNotional ≤ maximumNotional)
  let notionalAllowed := decide (minimumNotional ≤ inputNotional)
    && (maximumNotional == 0 || decide (inputNotional ≤ maximumNotional))
  let validAfter ← requireBigIntField L values "valid_after_unix_timestamp"
  let expiresAt ← requireBigIntField L values "expires_at_unix_timestamp"
  let timestampRangeValid := expiresAt == 0 || decide (validAfter < expiresAt)
  let temporallyEffective := withinPeriod validAfter expiresAt nowUnixTimestamp
  let failed : List String :=
    issueWhen (!identityMatches)
      "Settlement policy identity does not resolve to the supplied policy PDA" ++
    issueWhen (!bumpMatches)
      "Settlement policy stored bump does not match the canonical PDA bump" ++
    issueWhen (!policyIdNonzero) "Settlement policy id is zero" ++
    issueWhen (!policyFlagsValid) "Settlement policy contains unsupported policy flags" ++
    issueWhen (!modeMaskValid)
      "Settlement policy mode mask is empty or contains unsupported settlement modes" ++
    issueWhen (!modeAllowed) s!"Settlement policy does not permit {mode.text} settlement" ++
    issueWhen (!assetAllowed) "Settlement policy does not permit the requested asset mint" ++
    issueWhen (!principalAAllowed) "Settlement policy does not permit principal A" ++
    issueWhen (!principalBAllowed) "Settlement policy does not permit principal B" ++
    issueWhen (!executorAllowed) "Settlement policy does not permit the selected executor" ++
    issueWhen (!notionalRangeValid)
      "Settlement policy minimum notional exceeds its maximum notional" ++
    issueWhen (!notionalAllowed)
      "Settlement input notional is outside the settlement policy range" ++
    issueWhen (!timestampRangeValid)
      "Settlement policy activation timestamp is not earlier than its expiry timestamp" ++
    issueWhen (!temporallyEffective)
      "Settlement policy is not effective at the supplied timestamp"
  return {
    identityMatches := identityMatches
    bumpMatches := bumpMatches
    policyIdNonzero := policyIdNonzero
    policyFlagsValid := policyFlagsValid
    allowedSettlementModes := allowedSettlementModes
    modeMaskValid := modeMaskValid
    modeAllowed := modeAllowed
    assetAllowed := assetAllowed
    principalAAllowed := principalAAllowed
    principalBAllowed := principalBAllowed
    executorAllowed := executorAllowed
    minimumNotional := minimumNotional
    maximumNotional := maximumNotional
    notionalAllowed := notionalAllowed
    validAfterUnixTimestamp := validAfter
    expiresAtUnixTimestamp := expiresAt
    timestampRangeValid := timestampRangeValid
    temporallyEffective := temporallyEffective
    usable := identityMatches && bumpMatches && policyIdNonzero && policyFlagsValid
      && modeMaskValid && modeAllowed && assetAllowed && principalAAllowed && principalBAllowed
      && executorAllowed && notionalRangeValid && notionalAllowed && timestampRangeValid
      && temporallyEffective
    observations := failed }

/-! ## Limit policies -/

/-- The windows that a limit policy may enforce. -/
inductive UsageWindowName where
  | hourly
  | daily
  | weekly
  | monthly
  deriving DecidableEq

namespace UsageWindowName

/-- The window as observations name it. -/
def text : UsageWindowName → String
  | hourly => "hourly"
  | daily => "daily"
  | weekly => "weekly"
  | monthly => "monthly"

/-- The window as accounts store it. -/
def windowKind : UsageWindowName → Nat
  | hourly => 0
  | daily => 1
  | weekly => 2
  | monthly => 3

/-- The field of a window's maximum. -/
def maximumField : UsageWindowName → String
  | hourly => "per_hour_maximum"
  | daily => "per_day_maximum"
  | weekly => "per_seven_day_maximum"
  | monthly => "per_thirty_day_maximum"

/-- The field of a window's maximum number of actions. -/
def actionsField : UsageWindowName → Option String
  | hourly => some "maximum_actions_per_hour"
  | daily => some "maximum_actions_per_day"
  | weekly => none
  | monthly => none

end UsageWindowName

/-- What there is of each usage window. -/
structure UsageWindows (α : Type) where
  hourly : Option α
  daily : Option α
  weekly : Option α
  monthly : Option α

/-- The window of a name. -/
def UsageWindows.get {α : Type} (windows : UsageWindows α) : UsageWindowName → Option α
  | .hourly => windows.hourly
  | .daily => windows.daily
  | .weekly => windows.weekly
  | .monthly => windows.monthly

/-- A usage window against its policy. -/
structure LimitWindowObservation where
  name : UsageWindowName
  windowKind : Nat
  maximum : Int
  accumulatorField : String
  storedWindowStartUnixTimestamp : Option Int
  canonicalWindowStartUnixTimestamp : Int
  rolledBeforeCheck : Bool
  clockRegression : Bool
  currentAmount : Int
  proposedAmount : Int
  projectedAmount : Int
  remainingBefore : Option Int
  remainingAfter : Option Int
  allowed : Bool
  currentActionCount : Int
  projectedActionCount : Int
  maximumActionCount : Int
  actionRemainingBefore : Option Int
  actionRemainingAfter : Option Int
  actionAllowed : Bool

/-- A limit policy with its windows. -/
structure LimitObservation where
  action : SettlementAction
  accumulatorField : String
  perTransactionMaximum : Int
  proposedAmount : Int
  perTransactionRemainingBefore : Option Int
  perTransactionRemainingAfter : Option Int
  perTransactionAllowed : Bool
  windows : List LimitWindowObservation

/-- `/` and `%` on bigints round towards zero; one less where the signs differ. -/
def floorDivision (numerator denominator : Int) : Int :=
  let quotient := numerator.tdiv denominator
  let remainder := numerator.tmod denominator
  if remainder ≠ 0 ∧ decide (0 < remainder) ≠ decide (0 < denominator) then quotient - 1
  else quotient

/-- The length of a window. -/
def periodSeconds (windowKind : Nat) : Except String Int :=
  match windowKind with
  | 0 => .ok 3600
  | 1 => .ok 86400
  | 2 => .ok 604800
  | 3 => .ok 2592000
  | _ => .error s!"Unknown usage-window kind: {windowKind}"

/-- The start of the window that a time falls in. -/
def canonicalWindowStart (L : Language) (windowKind : Nat) (unixTimestamp : Int) :
    Except String Int := do
  let period ← periodSeconds windowKind
  return match L with
    | .typescript => floorDivision unixTimestamp period * period
    | .python => unixTimestamp.fdiv period * period

/-- The field that an action accumulates in. -/
def accumulatorField : SettlementAction → String
  | .mint => "gross_in"
  | .redeem => "gross_output_amount"

/-- What is left under a cap; a zero cap is none. -/
def remainingUnder (maximum amount : Int) : Option Int :=
  if maximum = 0 then none else some (max (maximum - amount) 0)

/-- The counters of a window that started with the current period. -/
def storedCounters (L : Language) (action : SettlementAction) (windowValues : StructValues) :
    Except String (Int × Int) := do
  let words ← requireBigIntArrayField L windowValues (accumulatorField action) 2
  let amount ← wordsToUnsigned128 words
  let actionCount ← requireNumberField L windowValues "action_count"
  return (amount, actionCount)

/-- The stored start of a window and the counters that still apply. -/
def windowUsage (L : Language) (action : SettlementAction) (windowValues : Option StructValues)
    (canonicalStart : Int) : Except String (Option Int × Int × Int) :=
  match windowValues with
  | none => .ok (none, 0, 0)
  | some values => do
    let storedStart ← requireBigIntField L values "window_start_unix_timestamp"
    if storedStart = canonicalStart then do
      let counters ← storedCounters L action values
      return (some storedStart, counters)
    else return (some storedStart, 0, 0)

/-- The maximum number of actions; none is 0. -/
def maximumActions (L : Language) (policyValues : StructValues) (name : UsageWindowName) :
    Except String Int :=
  match name.actionsField with
  | none => .ok 0
  | some actionsField => requireNumberField L policyValues actionsField

/-- The observation of one window. -/
def observeLimitWindow (L : Language) (policyValues : StructValues) (action : SettlementAction)
    (proposedAmount : Int) (windowValues : Option StructValues) (nowUnixTimestamp : Int)
    (name : UsageWindowName) : Except String LimitWindowObservation := do
  let maximum ← requireBigIntField L policyValues name.maximumField
  let maximumActionCount ← maximumActions L policyValues name
  let canonicalStart ← canonicalWindowStart L name.windowKind nowUnixTimestamp
  let (storedStart, currentAmount, currentActionCount) ←
    windowUsage L action windowValues canonicalStart
  let clockRegression := storedStart.any fun start => canonicalStart < start
  let projectedAmount := currentAmount + proposedAmount
  let projectedActionCount := currentActionCount + 1
  return {
    name := name
    windowKind := name.windowKind
    maximum := maximum
    accumulatorField := accumulatorField action
    storedWindowStartUnixTimestamp := storedStart
    canonicalWindowStartUnixTimestamp := canonicalStart
    rolledBeforeCheck := storedStart.any fun start => start < canonicalStart
    clockRegression := clockRegression
    currentAmount := currentAmount
    proposedAmount := proposedAmount
    projectedAmount := projectedAmount
    remainingBefore := remainingUnder maximum currentAmount
    remainingAfter := remainingUnder maximum projectedAmount
    allowed := !clockRegression && (maximum == 0 || decide (projectedAmount ≤ maximum))
    currentActionCount := currentActionCount
    projectedActionCount := projectedActionCount
    maximumActionCount := maximumActionCount
    actionRemainingBefore := remainingUnder maximumActionCount currentActionCount
    actionRemainingAfter := remainingUnder maximumActionCount projectedActionCount
    actionAllowed := !clockRegression
      && (maximumActionCount == 0 || decide (projectedActionCount ≤ maximumActionCount)) }

/-- The observation of a limit policy. -/
def observeLimitPolicy (L : Language) (policyValues : StructValues) (action : SettlementAction)
    (proposedAmount : Int) (windows : UsageWindows StructValues) (nowUnixTimestamp : Int) :
    Except String LimitObservation :=
  if proposedAmount < 0 then .error "Proposed limit amount must be non-negative"
  else do
    let perTransactionMaximum ← requireBigIntField L policyValues "per_transaction_maximum"
    let observe := fun name : UsageWindowName =>
      observeLimitWindow L policyValues action proposedAmount (windows.get name) nowUnixTimestamp
        name
    let hourly ← observe .hourly
    let daily ← observe .daily
    let weekly ← observe .weekly
    let monthly ← observe .monthly
    return {
      action := action
      accumulatorField := accumulatorField action
      perTransactionMaximum := perTransactionMaximum
      proposedAmount := proposedAmount
      perTransactionRemainingBefore :=
        if perTransactionMaximum = 0 then none else some perTransactionMaximum
      perTransactionRemainingAfter := remainingUnder perTransactionMaximum proposedAmount
      perTransactionAllowed :=
        perTransactionMaximum == 0 || decide (proposedAmount ≤ perTransactionMaximum)
      windows := [hourly, daily, weekly, monthly] }

/-- Caps that only the pathway's own policy may have. -/
def hasUnenforcedCaps (L : Language) (policyValues : StructValues) : Except String Bool :=
  anyHolds [
    bigIntIsNonzero L policyValues "per_hour_maximum",
    bigIntIsNonzero L policyValues "per_seven_day_maximum",
    bigIntIsNonzero L policyValues "per_thirty_day_maximum",
    numberIsNonzero L policyValues "maximum_actions_per_hour",
    numberIsNonzero L policyValues "maximum_actions_per_day"]

/-- Whether a daily maximum is asked for and not there. -/
def lacksDailyMaximum (L : Language) (policyValues : StructValues) (requireDailyMaximum : Bool) :
    Except String Bool :=
  if requireDailyMaximum then do
    let perDay ← requireBigIntField L policyValues "per_day_maximum"
    return perDay == 0
  else .ok false

/-- What keeps a policy from capping one dimension of a settlement. -/
def dimensionPolicyValidationIssues (L : Language) (policyValues : StructValues)
    (expectedScopeKind : Nat) (expectedScopeKey : PublicKey) (requireDailyMaximum : Bool) :
    Except String (List String) := do
  let scopeKind ← requireNumberField L policyValues "scope_kind"
  let scopeKey ← requirePublicKeyField policyValues "scope_key"
  let unenforced ← hasUnenforcedCaps L policyValues
  let uncapped ← lacksDailyMaximum L policyValues requireDailyMaximum
  return issueWhen (scopeKind ≠ expectedScopeKind)
      s!"limit policy scope kind does not match {expectedScopeKind}" ++
    issueWhen (scopeKey ≠ expectedScopeKey)
      s!"limit policy scope key does not match {expectedScopeKey.toBase58}" ++
    issueWhen unenforced "dimension policy contains caps that settlement does not enforce" ++
    issueWhen uncapped "delegated counterparty policy requires a daily maximum"

end Chancery
