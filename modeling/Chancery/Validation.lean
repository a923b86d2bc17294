import Chancery.Resolution

/-!
# Validation

The validators of `typescript/src/client/ChanceryClient.ts`.  Each returns the issues that it
pushes, in order; a field that is missing or of another type fails.

* `validateIntentAgainstPathway`, `validateAmount`, `validateCoreSettlementGates`,
  `validateLimits`, `validateTokenAccounts`, `observePauses`.
-/

set_option autoImplicit false

namespace Chancery

/-- The module that settles. -/
def settlementModuleId : Nat := 4
def moduleStatusActive : UInt8 := 2
def assetModeActive : Int := 0
def assetModeWindDown : Int := 1
def collateralTransferHookExtension : Nat := 1 <<< 0
def issuedTokenReadyForSettlement : Nat := 1 <<< 63
def settlementEvidenceSupportedFieldMask : Nat := (1 <<< 19) - 1

section

variable (client : ChanceryClient)

/-! ## Intents and amounts -/

/-- The checks of an intent, each with its message. -/
def intentIssues (request : NormalizedSettlementOperationRequest) (intent : StructValues)
    (pathwayValues : StructValues) (issuedTokenMint : PublicKey) :
    Except String (List String) := do
  let L := client.language
  let mode ← requireNumberField L intent "settlement_mode"
  let action ← requireNumberField L intent "settlement_action"
  let assetMint ← requirePublicKeyField intent "asset_mint"
  let intentIssuedTokenMint ← requirePublicKeyField intent "issued_token_mint"
  let intentPathwayId ← requireBytes (intent.lookup "pathway_id") "intent pathway id" 32
  let pathwayId ← requireBytes (pathwayValues.lookup "pathway_id") "pathway id" 32
  let status ← requireNumberField L intent "status"
  let validAfter ← requireBigIntField L intent "valid_after_unix_timestamp"
  let expiresAt ← requireBigIntField L intent "expires_at_unix_timestamp"
  return issueWhen (mode ≠ settlementModeValue request.mode)
      "Settlement intent mode does not match the requested mode" ++
    issueWhen (action ≠ settlementActionValue request.action)
      "Settlement intent action does not match the requested action" ++
    issueWhen (assetMint ≠ request.assetMint)
      "Settlement intent asset mint does not match the requested asset mint" ++
    issueWhen (intentIssuedTokenMint ≠ issuedTokenMint)
      "Settlement intent issued token mint does not match ChanceryConfig" ++
    issueWhen (intentPathwayId ≠ pathwayId)
      "Settlement intent pathway id does not match the selected pathway" ++
    issueWhen (status ≠ 0) s!"Settlement intent status is {status}, not pending" ++
    issueWhen (validAfter ≠ 0 ∧ request.nowUnixTimestamp < validAfter)
      "Settlement intent is not yet valid" ++
    issueWhen (expiresAt ≠ 0 ∧ expiresAt ≤ request.nowUnixTimestamp)
      "Settlement intent has expired"

/-- Issues of the intent; a request without one has none. -/
def validateIntentAgainstPathway (request : NormalizedSettlementOperationRequest)
    (identity : OperationIdentity) (pathwayValues : StructValues) (issuedTokenMint : PublicKey) :
    Except String (List String) :=
  match identity.intent.bind (·.values) with
  | none => .ok []
  | some intent => intentIssues client request intent pathwayValues issuedTokenMint

/-- The field of the asset that bounds the input. -/
def minimumInputField : SettlementAction → String
  | .mint => "minimum_deposit_amount"
  | .redeem => "minimum_redeem_amount"

/-- Message of an output below the caller's minimum. -/
def minimumOutputIssue (minimumOutput principalReceivedAmount : Int) : String :=
  s!"Minimum output {minimumOutput} exceeds predicted principal receipt {principalReceivedAmount}"

/-- Issues of the amounts. -/
def validateAmount (action : SettlementAction) (inputAmount minimumOutput : Int)
    (assetValues : StructValues) (principalReceivedAmount : Int) :
    Except String (List String) := do
  let minimumInput ← requireBigIntField client.language assetValues (minimumInputField action)
  let maximumInput ←
    requireBigIntField client.language assetValues "maximum_single_settlement_amount"
  return issueWhen (inputAmount < minimumInput)
      s!"Input amount {inputAmount} is below minimum {minimumInput}" ++
    issueWhen (maximumInput ≠ 0 ∧ maximumInput < inputAmount)
      s!"Input amount {inputAmount} exceeds maximum {maximumInput}" ++
    issueWhen (principalReceivedAmount < minimumOutput)
      (minimumOutputIssue minimumOutput principalReceivedAmount)

/-! ## Gates -/

/-- Issues of an extension observation: from a later slot, or too old. -/
def validateExtensionFreshness (label : String) (observedAtSlot maximumAgeSlots currentSlot : Int) :
    List String :=
  if currentSlot < observedAtSlot then [s!"{label} extension observation is future-dated"]
  else issueWhen (maximumAgeSlots ≠ 0 ∧ maximumAgeSlots < currentSlot - observedAtSlot)
    s!"{label} extension observation is stale"

/-- The freshness of an observation stored with its maximum age. -/
def storedFreshness (label : String) (values : StructValues) (currentSlot : Int) :
    Except String (List String) := do
  let L := client.language
  let observedAtSlot ← requireBigIntField L values "extension_observed_at_slot"
  let maximumAgeSlots ← requireBigIntField L values "max_extension_observation_age_slots"
  return validateExtensionFreshness label observedAtSlot maximumAgeSlots currentSlot

/-- Issues of the asset's mode. -/
def assetModeIssues (action : SettlementAction) (assetMode : Int) : List String :=
  issueWhen (action = .mint ∧ assetMode ≠ assetModeActive) "Asset mode forbids mint settlement" ++
  issueWhen (action = .redeem ∧ assetMode ≠ assetModeActive ∧ assetMode ≠ assetModeWindDown)
    "Asset mode forbids redeem settlement"

/-- What is wrong with one word of the collateral's observed extensions. -/
def collateralWordIssue (observed approved assetForbidden pathwayForbidden : Int)
    (protocolForbidden : Nat) : Option String :=
  if bitsOutside observed approved ≠ 0 then
    some "Asset extension observation contains an extension not approved by AssetConfig"
  else if observed.toNat &&& (assetForbidden.toNat ||| protocolForbidden) ≠ 0 then
    some "Asset extension observation contains a forbidden extension"
  else if observed.toNat &&& pathwayForbidden.toNat ≠ 0 then
    some "Asset extension observation is forbidden by the selected pathway"
  else none

/-- Word by word, up to the first issue. -/
def collateralExtensionIssues (observed approved assetForbidden pathwayForbidden : List Int) :
    List String :=
  let issue := fun index : Nat => collateralWordIssue (observed.getD index 0)
    (approved.getD index 0) (assetForbidden.getD index 0) (pathwayForbidden.getD index 0)
    (if index = 0 then collateralTransferHookExtension else 0)
  ((List.range 2).findSome? issue).toList

/-- Issues of the collateral mint's extensions. -/
def validateCollateralExtensions (assetValues pathwayValues : StructValues) :
    Except String (List String) := do
  let L := client.language
  let observed ← requireBigIntArrayField L assetValues "observed_extension_mask" 2
  let approved ← requireBigIntArrayField L assetValues "approved_extension_mask" 2
  let assetForbidden ← requireBigIntArrayField L assetValues "forbidden_extension_mask" 2
  let pathwayForbidden ←
    requireBigIntArrayField L pathwayValues "forbidden_collateral_extension_mask" 2
  return collateralExtensionIssues observed approved assetForbidden pathwayForbidden

/-- Issues of the issued token's control account. -/
def validateIssuedToken (currentSlot : Int) (issuedTokenControlValues pathwayValues : StructValues) :
    Except String (List String) := do
  let L := client.language
  let controlFlags ← requireBigIntField L issuedTokenControlValues "control_flags"
  let freshness ← storedFreshness client "Issued token" issuedTokenControlValues currentSlot
  let active ←
    requireBigIntArrayField L issuedTokenControlValues "active_mint_extension_mask" 2
  let forbidden ←
    requireBigIntArrayField L pathwayValues "forbidden_issued_token_extension_mask" 2
  let conflict := (List.range 2).any fun index =>
    (active.getD index 0).toNat &&& (forbidden.getD index 0).toNat != 0
  return issueWhen (!hasBits controlFlags issuedTokenReadyForSettlement)
      "Issued token deployment is not ready for settlement" ++
    freshness ++
    issueWhen conflict
      "Issued-token extension observation is forbidden by the selected pathway"

/-- Whether the evidence policy asks for what the settlement cannot give. -/
def evidencePolicyUnsupported (values : StructValues) (schemaHash : Bytes) :
    Except String Bool :=
  let L := client.language
  anyHolds [
    numberIsNonzero L values "allow_freeform_counterparty_fields",
    .ok !(schemaHash.all (· == 0)),
    numberIsNonzero L values "maximum_freeform_field_count",
    numberIsNonzero L values "maximum_freeform_value_bytes",
    bigIntIsNonzero L values "retention_flags"]

/-- Issues of a bound evidence policy. -/
def evidencePolicyIssues (values : StructValues) : Except String (List String) := do
  let requiredFieldMask ← requireBigIntArrayField client.language values "required_field_mask" 2
  let schemaHash ← requireBytes (values.lookup "counterparty_reporting_schema_hash")
    "counterparty_reporting_schema_hash" 32
  let unsupported ← evidencePolicyUnsupported client values schemaHash
  return issueWhen (requiredFieldMask.getD 1 0 ≠ 0 ∨
        bitsOutside (requiredFieldMask.getD 0 0) settlementEvidenceSupportedFieldMask ≠ 0)
      "Evidence policy requires fields that settlement evidence cannot prove" ++
    issueWhen unsupported
      "Evidence policy uses a configuration unsupported by settlement evidence"

/-- Message of a policy that no pathway binds. -/
def evidencePolicyUnbound : String :=
  "Evidence policy account is present but the selected pathway has no evidence policy binding"

/-- Issues of the evidence policy against the pathway's binding. -/
def validateEvidencePolicy (pathwayValues : StructValues)
    (evidencePolicyValues : Option StructValues) : Except String (List String) := do
  let evidencePolicyId ←
    requireBytes (pathwayValues.lookup "evidence_policy_id") "evidence_policy_id" 32
  let hasEvidencePolicy := !evidencePolicyId.all (· == 0)
  match evidencePolicyValues with
  | none =>
    return issueWhen hasEvidencePolicy "Selected pathway requires an evidence policy account"
  | some values => do
    let issues ← evidencePolicyIssues client values
    return issueWhen (!hasEvidencePolicy) evidencePolicyUnbound ++ issues

/-- Every gate of the module, the asset, the issued token and the pathway. -/
def validateCoreSettlementGates (action : SettlementAction) (currentSlot : Int)
    (moduleActivationValues assetValues issuedTokenControlValues pathwayValues : StructValues)
    (evidencePolicyValues : Option StructValues) : Except String (List String) := do
  let moduleStatuses ←
    requireBytes (moduleActivationValues.lookup "module_statuses") "module_statuses" 32
  let assetMode ← requireNumberField client.language assetValues "mode"
  let assetFreshness ← storedFreshness client "Asset" assetValues currentSlot
  let collateral ← validateCollateralExtensions client assetValues pathwayValues
  let issuedToken ←
    validateIssuedToken client currentSlot issuedTokenControlValues pathwayValues
  let evidence ← validateEvidencePolicy client pathwayValues evidencePolicyValues
  return issueWhen (moduleStatuses.getD settlementModuleId 0 ≠ moduleStatusActive)
      "Settlement module is not active" ++
    assetModeIssues action assetMode ++ assetFreshness ++ collateral ++ issuedToken ++ evidence

end

/-! ## Limits, balances and pauses -/

/-- Issues of one usage window. -/
def windowIssues (limit : ResolvedLimitDimension) (window : LimitWindowObservation) :
    List String :=
  let verdict :=
    if window.clockRegression then
      [s!"{limit.label.text} {window.name.text} usage window starts after the canonical current " ++
        "period"]
    else
      issueWhen (!window.allowed)
        s!"{limit.label.text} {window.name.text} volume limit is exceeded" ++
      issueWhen (!window.actionAllowed)
        s!"{limit.label.text} {window.name.text} action-count limit is exceeded"
  let enforced := window.maximum ≠ 0 ∨ window.maximumActionCount ≠ 0
  verdict ++ issueWhen (enforced ∧ (limit.windows.get window.name).any (·.doesExist) = false)
    s!"{limit.label.text} {window.name.text} usage window does not exist"

/-- Issues of one limit dimension. -/
def limitIssues (limit : ResolvedLimitDimension) : List String :=
  limit.validationIssues.map (fun issue => s!"{limit.label.text} {issue}") ++
    match limit.observation with
    | none => []
    | some observation =>
      issueWhen (!observation.perTransactionAllowed)
        s!"{limit.label.text} per-transaction limit is exceeded" ++
      observation.windows.flatMap (windowIssues limit)

/-- Issues of every limit dimension, in order. -/
def validateLimits (limits : List ResolvedLimitDimension) : List String :=
  limits.flatMap limitIssues

/-- Message of a token account that does not exist. -/
def missingTokenAccount (label : String) (account : TokenAccountSnapshot) : String :=
  s!"{label} token account {account.address.toBase58} does not exist"

/-- The three token accounts of a settlement. -/
structure TokenAccounts where
  source : TokenAccountSnapshot
  reserve : TokenAccountSnapshot
  destination : TokenAccountSnapshot
  feeRecipient : TokenAccountSnapshot

/-- Issues of the source account. -/
def sourceIssues (source : TokenAccountSnapshot) (inputAmount : Int) : List String :=
  match source.values with
  | none => [missingTokenAccount "Source" source]
  | some values => issueWhen (values.amount < inputAmount)
      s!"Source token balance {values.amount} is below input amount {inputAmount}"

/-- Issues of the reserve account. -/
def reserveIssues (action : SettlementAction) (reserve : TokenAccountSnapshot)
    (requiredReserveBalance : Int) : List String :=
  match reserve.values with
  | none => [missingTokenAccount "Reserve" reserve]
  | some values => issueWhen (action = .redeem ∧ values.amount < requiredReserveBalance)
      (s!"Reserve balance {values.amount} is below required reserve outflow " ++
        toString requiredReserveBalance)

/-- Issues of the token accounts. -/
def validateTokenAccounts (action : SettlementAction) (inputAmount requiredReserveBalance : Int)
    (accounts : TokenAccounts) (feeRouted : Bool) : List String :=
  sourceIssues accounts.source inputAmount ++
    issueWhen (accounts.destination.doesExist = false)
      (missingTokenAccount "Destination" accounts.destination) ++
    reserveIssues action accounts.reserve requiredReserveBalance ++
    issueWhen (feeRouted ∧ accounts.feeRecipient.doesExist = false)
      (missingTokenAccount "Fee recipient" accounts.feeRecipient)

/-- Which pauses hold at a slot. -/
structure SettlementPauseObservation where
  currentSlot : Int
  globalPaused : Bool
  assetPaused : Bool
  pathwayPaused : Bool

/-- The pause bit of an action. -/
def actionBit : SettlementAction → Nat
  | .mint => 1
  | .redeem => 2

section

variable (client : ChanceryClient)

/-- Is the action paused?  A pause ends at its expiry slot, unless that is zero; the bits are
read only while it lasts. -/
def pausedBits (action : SettlementAction) (currentSlot : Int) (values : StructValues)
    (bitsField : String) : Except String Bool := do
  let expiry ← requireBigIntField client.language values "expires_at_slot"
  if expiry = 0 ∨ currentSlot < expiry then do
    let bits ← requireBigIntField client.language values bitsField
    return hasBits bits (actionBit action)
  else return false

/-- Whether the asset's pause account stops the action. -/
def assetPausedBits (action : SettlementAction) (currentSlot : Int)
    (values : Option StructValues) : Except String Bool :=
  match values with
  | none => .ok false
  | some values => pausedBits client action currentSlot values "asset_pause_bits"

/-- The pauses of an action at a slot. -/
def observePauses (action : SettlementAction) (currentSlot : Int)
    (pauseState assetPauseState pathway : ChanceryStateSnapshot) :
    Except String SettlementPauseObservation := do
  let globalValues ← requireSnapshotValues pauseState
  let globalPaused ← pausedBits client action currentSlot globalValues "global_pause_bits"
  let assetPaused ← assetPausedBits client action currentSlot assetPauseState.values
  let pathwayValues ← requireSnapshotValues pathway
  let statusFlags ← requireBigIntField client.language pathwayValues "status_flags"
  return {
    currentSlot := currentSlot
    globalPaused := globalPaused
    assetPaused := assetPaused
    pathwayPaused := hasBits statusFlags StatusFlag.pathwayPause }

end

/-- Issues of the pauses. -/
def pauseIssues (action : SettlementAction) (pauses : SettlementPauseObservation) : List String :=
  issueWhen pauses.globalPaused s!"Global {action.text} pause is active" ++
    issueWhen pauses.assetPaused s!"Asset {action.text} pause is active" ++
    issueWhen pauses.pathwayPaused "Pathway pause is active"

end Chancery
