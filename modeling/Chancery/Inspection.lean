import Chancery.Validation

/-!
# Inspections

`ChanceryClient.inspect` and `buildInstruction` of `typescript/src/client/ChanceryClient.ts` and
`python/chancery_reference/client.py`.

* `resolveSettlement` — every read of an inspection, stage by stage, with each stage's issues.
* `assembleInspection` — arguments, accounts and verdict, without further reads.
* `inspect`, `buildInstruction`.
-/

set_option autoImplicit false

namespace Chancery

/-- Slots for which an inspection may be acted on. -/
def observationValiditySlots : Nat := 64

/-- Where the time of an observation comes from. -/
inductive TimestampSource where
  | clockSysvar
  | requestOverride

/-- When an inspection observed the chain. -/
structure ChanceryObservationContext where
  contextSlot : Nat
  blockUnixTimestamp : Int
  epoch : Nat
  commitment : RpcCommitment
  expiresAfterSlot : Nat
  timestampSource : TimestampSource

/-- The amounts of a settlement. -/
structure SettlementAmountResolution where
  inputAmount : Int
  grossOutput : Int
  minimumOutput : Int
  limitNotional : Int
  sourceBalance : Option Nat
  reserveBalance : Option Nat

/-- The accounts that every settlement reads. -/
structure CoreAccounts where
  moduleActivationState : ChanceryStateSnapshot
  chanceryConfig : ChanceryStateSnapshot
  pauseState : ChanceryStateSnapshot
  assetConfig : ChanceryStateSnapshot
  assetPauseState : ChanceryStateSnapshot
  issuedTokenControl : ChanceryStateSnapshot

/-- The two mints of a settlement. -/
structure TokenMints where
  asset : TokenMintSnapshot
  issuedToken : TokenMintSnapshot

section

variable (client : ChanceryClient)

/-! ## The core accounts -/

/-- The core accounts with what is read from them. -/
structure CoreResolution where
  accounts : CoreAccounts
  mintAuthorityAddress : PublicKey
  reserveAuthorityAddress : PublicKey
  assetValues : StructValues
  issuedTokenControlValues : StructValues
  issuedTokenMint : PublicKey
  issuedTokenProgram : PublicKey
  assetTokenProgram : PublicKey
  mints : TokenMints
  issues : List String

/-- Issues of a mint account. -/
def mintIssues (label : String) (address : PublicKey) (mint : TokenMintSnapshot) : List String :=
  match mint.values with
  | none => [s!"{label} mint {address.toBase58} does not exist"]
  | some values =>
    issueWhen (!values.initialized) s!"{label} mint {address.toBase58} is not initialized"

/-- The core accounts at their addresses. -/
def loadCoreAccounts (moduleActivationStateAddress chanceryConfigAddress pauseStateAddress
    issuedTokenControlAddress assetConfigAddress assetPauseStateAddress : PublicKey) :
    Reads CoreAccounts := do
  let moduleActivationState ←
    loadChanceryState client moduleActivationStateAddress "ModuleActivationState" false
  let chanceryConfig ← loadChanceryState client chanceryConfigAddress "ChanceryConfig" false
  let pauseState ← loadChanceryState client pauseStateAddress "PauseState" false
  let assetConfig ← loadChanceryState client assetConfigAddress "AssetConfig" false
  let assetPauseState ← loadChanceryState client assetPauseStateAddress "AssetPauseState" true
  let issuedTokenControl ←
    loadChanceryState client issuedTokenControlAddress "IssuedTokenControl" false
  return ⟨moduleActivationState, chanceryConfig, pauseState, assetConfig, assetPauseState,
    issuedTokenControl⟩

/-- How the core accounts have to be bound to each other. -/
def coreBindingIssues (request : NormalizedSettlementOperationRequest)
    (configValues assetValues issuedTokenControlValues : StructValues)
    (issuedTokenMint issuedTokenProgram mintAuthorityAddress : PublicKey) :
    Except String (List String) := do
  let assetMint ← requirePublicKeyField assetValues "asset_mint"
  let controlMint ← requirePublicKeyField issuedTokenControlValues "issued_token_mint"
  let controlProgram ← requirePublicKeyField issuedTokenControlValues "issued_token_program"
  let mintAuthority ← requirePublicKeyField configValues "mint_authority_pda"
  return issueWhen (assetMint ≠ request.assetMint)
      "AssetConfig asset mint does not match the requested asset mint" ++
    issueWhen (controlMint ≠ issuedTokenMint)
      "IssuedTokenControl does not bind the ChanceryConfig issued token mint" ++
    issueWhen (controlProgram ≠ issuedTokenProgram)
      "IssuedTokenControl does not bind the ChanceryConfig issued token program" ++
    issueWhen (mintAuthority ≠ mintAuthorityAddress)
      "ChanceryConfig mint authority does not match the canonical mint-authority PDA"

/-- A field that names one of the token programs. -/
def supportedTokenProgramField (values : StructValues) (fieldName : String) :
    Except String PublicKey := do
  let program ← requirePublicKeyField values fieldName
  assertSupportedTokenProgram program

/-- The core of a settlement: accounts, mints and authorities. -/
def resolveCore (request : NormalizedSettlementOperationRequest) : Reads CoreResolution := do
  let moduleActivationStateAddress ← knownPdaAddress client "module_activation_state"
  let chanceryConfigAddress ← knownPdaAddress client "chancery_config"
  let pauseStateAddress ← knownPdaAddress client "pause_state"
  let issuedTokenControlAddress ← knownPdaAddress client "issued_token_control"
  let assetConfigPda ← deriveAssetConfigAddress client request.assetMint
  let assetPauseStatePda ← deriveAssetPauseStateAddress client request.assetMint
  let mintAuthorityPda ← deriveSingletonAddress client "mint-authority"
  let reserveAuthorityPda ← deriveSingletonAddress client "reserve-authority"
  let accounts ← loadCoreAccounts client moduleActivationStateAddress chanceryConfigAddress
    pauseStateAddress issuedTokenControlAddress assetConfigPda.address assetPauseStatePda.address
  let configValues ← requireSnapshotValues accounts.chanceryConfig
  let assetValues ← requireSnapshotValues accounts.assetConfig
  let issuedTokenControlValues ← requireSnapshotValues accounts.issuedTokenControl
  let issuedTokenMint ← requirePublicKeyField configValues "issued_token_mint"
  let issuedTokenProgram ← supportedTokenProgramField configValues "issued_token_program"
  let assetTokenProgram ← supportedTokenProgramField assetValues "asset_token_program"
  let (assetMint, issuedMint) ← loadTokenMints client request.assetMint assetTokenProgram
    issuedTokenMint issuedTokenProgram
  let bindingIssues ← coreBindingIssues request configValues assetValues issuedTokenControlValues
    issuedTokenMint issuedTokenProgram mintAuthorityPda.address
  return {
    accounts := accounts
    mintAuthorityAddress := mintAuthorityPda.address
    reserveAuthorityAddress := reserveAuthorityPda.address
    assetValues := assetValues
    issuedTokenControlValues := issuedTokenControlValues
    issuedTokenMint := issuedTokenMint
    issuedTokenProgram := issuedTokenProgram
    assetTokenProgram := assetTokenProgram
    mints := ⟨assetMint, issuedMint⟩
    issues := mintIssues "Asset" request.assetMint assetMint ++
      mintIssues "Issued-token" issuedTokenMint issuedMint ++ bindingIssues }

/-! ## The pathway -/

/-- The selected pathway, among all candidates. -/
structure PathwaySelection where
  candidates : List PathwayCandidate
  pathway : ChanceryStateSnapshot
  values : StructValues
  issues : List String

/-- Issues of the selected pathway. -/
def pathwayIssues (request : NormalizedSettlementOperationRequest) (identity : OperationIdentity)
    (pathwayValues : StructValues) : Except String (List String) := do
  let L := client.language
  let active ← pathwayIsActive L pathwayValues
  let sourcePolicy ← requireBigIntField L pathwayValues "source_account_policy"
  let destinationPolicy ← requireBigIntField L pathwayValues "destination_account_policy"
  let designatedExecutor ← requirePublicKeyField pathwayValues "designated_executor"
  return issueWhen (!active) "Selected pathway is not active" ++
    issueWhen (sourcePolicy ≠ 0)
      ("Selected pathway has a nonzero source-account policy unsupported by the settlement " ++
        "runtime") ++
    issueWhen (destinationPolicy ≠ 0)
      ("Selected pathway has a nonzero destination-account policy unsupported by the " ++
        "settlement runtime") ++
    issueWhen (request.mode ≠ .direct ∧ designatedExecutor ≠ zeroAddress ∧
        designatedExecutor ≠ identity.executor)
      "Selected pathway designates a different executor"

/-- The pathway of a request. -/
def selectPathway (request : NormalizedSettlementOperationRequest) (identity : OperationIdentity)
    (issuedTokenMint : PublicKey) : Reads PathwaySelection := do
  let candidates ←
    discoverPathways client request identity.pathwayIdConstraint issuedTokenMint
  let selected ← selectPathwayCandidate candidates
  let pathway ← loadChanceryState client selected.address "PathwayPolicy" false
  let values ← requireSnapshotValues pathway
  let pathwayId ← requireBytes (values.lookup "pathway_id") "pathway_id" 32
  let _ ← derivePathwayPolicyAddress client pathwayId
  let issues ← pathwayIssues client request identity values
  let intentIssues ←
    validateIntentAgainstPathway client request identity values issuedTokenMint
  return ⟨candidates, pathway, values, issues ++ intentIssues⟩

/-! ## The policies -/

/-- The policies that a settlement is bound to. -/
structure PolicyBindings where
  feePolicy : PolicyResolution
  pathwayLimitPolicy : PolicyResolution
  evidencePolicy : PolicyResolution
  assetLimitPolicy : PolicyResolution
  counterpartyLimitPolicy : PolicyResolution
  executorLimitPolicy : PolicyResolution
  gateIssues : List String

/-- The field that binds the asset's limit policy. -/
def assetLimitField : SettlementAction → String
  | .mint => "asset_mint_limit_policy_id"
  | .redeem => "asset_redeem_limit_policy_id"

/-- The executor's limit policy; a direct settlement has none. -/
def resolveExecutorLimitPolicy (mode : SettlementMode) (pathwayValues : StructValues) :
    Reads PolicyResolution :=
  match mode with
  | .direct => return .unbound
  | _ => resolvePolicyFromIdentifier client (pathwayValues.lookup "executor_limit_policy_id")
    "LimitPolicy" (deriveLimitPolicyAddress client)

/-- Every policy of a settlement. -/
def resolvePolicies (request : NormalizedSettlementOperationRequest) (currentSlot : Nat)
    (core : CoreResolution) (pathwayValues : StructValues) : Reads PolicyBindings := do
  let feePolicy ← resolvePolicyFromIdentifier client (pathwayValues.lookup "fee_policy_id")
    "FeePolicy" (deriveFeePolicyAddress client)
  let pathwayLimitPolicy ← resolvePolicyFromIdentifier client
    (pathwayValues.lookup "limit_policy_id") "LimitPolicy" (deriveLimitPolicyAddress client)
  let evidencePolicy ← resolvePolicyFromIdentifier client
    (pathwayValues.lookup "evidence_policy_id") "EvidencePolicy"
    (deriveEvidencePolicyAddress client)
  let moduleActivationValues ← requireSnapshotValues core.accounts.moduleActivationState
  let gateIssues ← validateCoreSettlementGates client request.action currentSlot
    moduleActivationValues core.assetValues core.issuedTokenControlValues pathwayValues
    evidencePolicy.values
  let assetLimitPolicy ← resolvePolicyFromIdentifier client
    (pathwayValues.lookup (assetLimitField request.action)) "LimitPolicy"
    (deriveLimitPolicyAddress client)
  let counterpartyLimitPolicy ← resolvePolicyFromIdentifier client
    (pathwayValues.lookup "counterparty_limit_policy_id") "LimitPolicy"
    (deriveLimitPolicyAddress client)
  let executorLimitPolicy ← resolveExecutorLimitPolicy client request.mode pathwayValues
  return ⟨feePolicy, pathwayLimitPolicy, evidencePolicy, assetLimitPolicy,
    counterpartyLimitPolicy, executorLimitPolicy, gateIssues⟩

/-! ## The quote -/

/-- The quote with the amounts, observations and issues that follow. -/
structure QuoteResolution where
  quote : SettlementEffectiveQuoteResolution
  minimumOutput : Int
  limitNotional : Int
  settlementPolicyObservation : Option SettlementPolicyObservation
  issues : List String

/-- The caller's minimum, else the intent's, else the predicted receipt. -/
def selectMinimumOutput (request : NormalizedSettlementOperationRequest)
    (identity : OperationIdentity) (principalReceivedAmount : Int) : Int :=
  (request.minimumOutput.or identity.intentMinimumOutput).getD principalReceivedAmount

/-- The amount that counts against limits. -/
def selectLimitNotional (action : SettlementAction) (inputAmount grossOutput : Int) : Int :=
  match action with
  | .mint => inputAmount
  | .redeem => grossOutput

/-- The observation of a bound settlement policy. -/
def observeBoundSettlementPolicy (request : NormalizedSettlementOperationRequest)
    (identity : OperationIdentity) : Except String (Option SettlementPolicyObservation) :=
  match identity.settlementPolicy.values, identity.settlementPolicy.pda with
  | some values, some pda => do
    let observation ← observeSettlementPolicy client values request.mode request.assetMint
      identity.principalA identity.principalB identity.executor identity.inputAmount
      request.nowUnixTimestamp pda.address pda.bump
    return some observation
  | _, _ => .ok none

/-- Issues of the settlement policy. -/
def policyObservationIssues (observation : Option SettlementPolicyObservation) : List String :=
  (observation.map SettlementPolicyObservation.observations).getD []

/-- The quote of a settlement. -/
def resolveQuote (request : NormalizedSettlementOperationRequest) (identity : OperationIdentity)
    (core : CoreResolution) (policies : PolicyBindings) (currentEpoch : Nat) :
    Except String QuoteResolution := do
  let quote ← computeSettlementEffectiveQuote client.language request.action identity.inputAmount
    core.assetValues core.mints.asset.values policies.feePolicy.values request.nowUnixTimestamp
    currentEpoch
  let principalReceivedAmount := quote.effectiveQuote.principalReceivedAmount
  let minimumOutput := selectMinimumOutput request identity principalReceivedAmount
  let observation ← observeBoundSettlementPolicy client request identity
  let amountIssues ← validateAmount client request.action identity.inputAmount minimumOutput
    core.assetValues principalReceivedAmount
  return {
    quote := quote
    minimumOutput := minimumOutput
    limitNotional := selectLimitNotional request.action identity.inputAmount quote.grossOutput
    settlementPolicyObservation := observation
    issues := policyObservationIssues observation ++ amountIssues ++ quote.feeQuote.observations }

/-! ## Limits and permissions -/

/-- Issues of the permissions. -/
def permissionIssues (permissions : List ResolvedPermission) : List String :=
  permissions.flatMap fun permission =>
    issueWhen (permission.observation.any (·.usable) = false)
      s!"{permission.label} is not usable"

/-- The counterparty dimension of a settlement between one party, or between two. -/
def resolveCounterpartyLimits (request : NormalizedSettlementOperationRequest)
    (identity : OperationIdentity) (policy : PolicyResolution) (limitNotional : Int) :
    Reads (List ResolvedLimitDimension) :=
  let resolve := fun (label : LimitLabel) (party : PublicKey) (requireDailyMaximum : Bool) =>
    resolveDailyLimitDimension client label policy Scope.counterparty party limitNotional
      request.action request.nowUnixTimestamp requireDailyMaximum
  match request.mode with
  | .trilateral => do
    let counterpartyA ← resolve .counterpartyA identity.principalA false
    let counterpartyB ← resolve .counterpartyB identity.principalB false
    return [counterpartyA, counterpartyB]
  | mode => do
    let counterparty ← resolve .counterparty identity.principalA (decide (mode = .delegated))
    return [counterparty]

/-- The executor's limit dimension. -/
def resolveExecutorLimit (request : NormalizedSettlementOperationRequest)
    (identity : OperationIdentity) (policy : PolicyResolution) (limitNotional : Int) :
    Reads (List ResolvedLimitDimension) :=
  match request.mode with
  | .direct => return []
  | _ => do
    let executor ← resolveDailyLimitDimension client .executor policy Scope.executor
      identity.executor limitNotional request.action request.nowUnixTimestamp false
    return [executor]

/-- Every limit dimension of a settlement. -/
def resolveLimits (request : NormalizedSettlementOperationRequest) (identity : OperationIdentity)
    (policies : PolicyBindings) (limitNotional : Int) : Reads (List ResolvedLimitDimension) := do
  let pathway ← resolvePathwayLimitDimension client policies.pathwayLimitPolicy request.action
    limitNotional request.nowUnixTimestamp
  let asset ← resolveDailyLimitDimension client .asset policies.assetLimitPolicy Scope.asset
    request.assetMint limitNotional request.action request.nowUnixTimestamp false
  let counterparties ← resolveCounterpartyLimits client request identity
    policies.counterpartyLimitPolicy limitNotional
  let executor ← resolveExecutorLimit client request identity policies.executorLimitPolicy
    limitNotional
  return pathway :: asset :: (counterparties ++ executor)

/-! ## Token accounts -/

/-- The mint and the program on each side of the settlement. -/
structure SettlementSides where
  sourceMint : PublicKey
  sourceProgram : PublicKey
  destinationMint : PublicKey
  destinationProgram : PublicKey
  destinationOwner : PublicKey

/-- The tokens in and out, and whose accounts hold them. -/
def settlementSides (request : NormalizedSettlementOperationRequest)
    (identity : OperationIdentity) (core : CoreResolution) : SettlementSides :=
  let owner := match request.mode with
    | .trilateral => identity.principalB
    | _ => identity.principalA
  match request.action with
  | .mint => ⟨request.assetMint, core.assetTokenProgram, core.issuedTokenMint,
      core.issuedTokenProgram, owner⟩
  | .redeem => ⟨core.issuedTokenMint, core.issuedTokenProgram, request.assetMint,
      core.assetTokenProgram, owner⟩

/-- Only a routed fee has a recipient account looked up. -/
def resolveFeeRecipient (request : NormalizedSettlementOperationRequest) (sides : SettlementSides)
    (feeQuote : FeeQuote) : Reads TokenAccountSnapshot :=
  if feeQuote.routed then resolveTokenAccount client {
    label := "fee recipient token account"
    owner := feeQuote.feeRecipientOwner
    mint := sides.destinationMint
    tokenProgramAddress := sides.destinationProgram
    overrideAddress := request.feeRecipientTokenAccount
    allowMissing := true }
  else return .missing zeroAddress sides.destinationProgram

/-- The token accounts of a settlement. -/
def resolveTokenAccounts (request : NormalizedSettlementOperationRequest)
    (identity : OperationIdentity) (core : CoreResolution) (feeQuote : FeeQuote) :
    Reads TokenAccounts := do
  let sides := settlementSides request identity core
  let reserveAssociated ← deriveAssociatedTokenAddress client.sha256 core.reserveAuthorityAddress
    request.assetMint core.assetTokenProgram
  let source ← resolveTokenAccount client {
    label := "source token account"
    owner := identity.principalA
    mint := sides.sourceMint
    tokenProgramAddress := sides.sourceProgram
    overrideAddress := request.sourceTokenAccount
    allowMissing := true }
  let destination ← resolveTokenAccount client {
    label := "destination token account"
    owner := sides.destinationOwner
    mint := sides.destinationMint
    tokenProgramAddress := sides.destinationProgram
    overrideAddress := request.destinationTokenAccount
    allowMissing := true }
  let reserve ← loadTokenAccountAtAddress client reserveAssociated.address
    core.reserveAuthorityAddress request.assetMint core.assetTokenProgram
    .associatedTokenAccount true
  let feeRecipient ← resolveFeeRecipient client request sides feeQuote
  return ⟨source, reserve, destination, feeRecipient⟩

/-- What leaves the reserve on a redemption. -/
def requiredReserveBalance (action : SettlementAction) (feeQuote : FeeQuote)
    (outputBeforePrincipalTransfer : Int) : Int :=
  match action with
  | .mint => 0
  | .redeem => outputBeforePrincipalTransfer + if feeQuote.routed then feeQuote.netFee else 0

/-! ## All of it -/

/-- Everything that an inspection looks up. -/
structure SettlementResolution where
  request : NormalizedSettlementOperationRequest
  observation : ChanceryObservationContext
  core : CoreResolution
  identity : OperationIdentity
  pathway : PathwaySelection
  policies : PolicyBindings
  quote : QuoteResolution
  permissions : List ResolvedPermission
  limits : List ResolvedLimitDimension
  tokenAccounts : TokenAccounts
  reserveDestinations : List ChanceryStateSnapshot
  pauses : SettlementPauseObservation

/-- Issues of the token accounts of a resolution. -/
def tokenAccountIssues (resolution : SettlementResolution) : List String :=
  validateTokenAccounts resolution.request.action resolution.identity.inputAmount
    (requiredReserveBalance resolution.request.action resolution.quote.quote.feeQuote
      resolution.quote.quote.effectiveQuote.outputBeforePrincipalTransfer)
    resolution.tokenAccounts resolution.quote.quote.feeQuote.routed

/-- The issues of all stages, in the order in which they are pushed. -/
def blockingIssues (resolution : SettlementResolution) : List String :=
  resolution.core.issues ++ resolution.pathway.issues ++ resolution.policies.gateIssues ++
    resolution.quote.issues ++ permissionIssues resolution.permissions ++
    validateLimits resolution.limits ++ tokenAccountIssues resolution ++
    pauseIssues resolution.request.action resolution.pauses

/-- Everything that an inspection resolves. -/
def resolveSettlement (request : NormalizedSettlementOperationRequest)
    (observation : ChanceryObservationContext) : Reads SettlementResolution := do
  let core ← resolveCore client request
  let identity ← resolveOperationIdentity client request
  let pathway ← selectPathway client request identity core.issuedTokenMint
  let policies ← resolvePolicies client request observation.contextSlot core pathway.values
  let quote ← resolveQuote client request identity core policies observation.epoch
  let permissions ← resolvePermissions client request identity pathway.pathway.address
  let limits ← resolveLimits client request identity policies quote.limitNotional
  let tokenAccounts ← resolveTokenAccounts client request identity core quote.quote.feeQuote
  let reserveDestinations ← discoverReserveDestinations client request.assetMint
  let pauses ← observePauses client request.action observation.contextSlot
    core.accounts.pauseState core.accounts.assetPauseState pathway.pathway
  return ⟨request, observation, core, identity, pathway, policies, quote, permissions, limits,
    tokenAccounts, reserveDestinations, pauses⟩

end

/-! ## Instruction arguments and accounts -/

/-- The arguments of the settlement instruction. -/
def buildInstructionArguments (request : NormalizedSettlementOperationRequest)
    (identity : OperationIdentity) (pathwayValues : StructValues) (minimumOutput : Int) :
    Except String StructValues := do
  let pathwayId ← requireBytes (pathwayValues.lookup "pathway_id") "pathway id" 32
  match request.mode, request.action, identity.intentId with
  | .direct, .mint, _ => return [("pathway_id", .bytes pathwayId),
      ("asset_amount", .bigint identity.inputAmount),
      ("minimum_issued_token_amount", .bigint minimumOutput)]
  | .direct, .redeem, _ => return [("pathway_id", .bytes pathwayId),
      ("issued_token_amount", .bigint identity.inputAmount),
      ("minimum_asset_amount", .bigint minimumOutput)]
  | _, _, none => .error "Non-direct settlement has no intent id"
  | _, _, some intentId =>
    return [("intent_id", .bytes intentId), ("pathway_id", .bytes pathwayId)]

/-- The address of an account, which exists unless it need not. -/
def requiredSnapshotAddress (snapshot : ChanceryStateSnapshot) (label : String)
    (allowUninitializedPda : Bool) : Except String PublicKey := do
  rejectWhen (snapshot.doesExist = false ∧ allowUninitializedPda = false)
    s!"{label} account {snapshot.address.toBase58} does not exist"
  return snapshot.address

/-- The address of a token account that must exist. -/
def requiredTokenAddress (snapshot : TokenAccountSnapshot) (label : String) :
    Except String PublicKey := do
  rejectWhen (snapshot.doesExist = false) s!"{label} token account is unavailable"
  return snapshot.address

/-- The dimension of a label. -/
def limitByLabel (limits : List ResolvedLimitDimension) (label : LimitLabel) :
    Option ResolvedLimitDimension :=
  limits.find? (·.label = label)

/-- The address of an existing usage window. -/
def windowAddress (limit : Option ResolvedLimitDimension) (name : UsageWindowName) :
    Option PublicKey :=
  ((limit.bind (·.windows.get name)).filter (·.doesExist)).map (·.address)

/-- The address of a dimension's policy. -/
def policyAddress (limit : Option ResolvedLimitDimension) : Option PublicKey :=
  (limit.bind (·.policy)).map (·.address)

def snapshotAddress (snapshot : Option ChanceryStateSnapshot) : Option PublicKey :=
  snapshot.map (·.address)

/-- Addresses by account name, absent ones included. -/
abbrev NamedAddresses := List (String × Option PublicKey)

/-- The addresses that are present. -/
def compactAccountInputs (values : NamedAddresses) : InstructionAccountInputs :=
  values.filterMap fun (name, address) => address.map (name, ·)

/-- Tokens go from the source into the reserve on a mint and out of it on a redemption. -/
def tokenAccountInputs (resolution : SettlementResolution)
    (sourceAddress reserveAddress destinationAddress : PublicKey) : NamedAddresses :=
  let core := resolution.core
  match resolution.request.action with
  | .mint =>
    [("source_asset_token_account", some sourceAddress),
     ("reserve_asset_token_account", some reserveAddress),
     ("destination_issued_token_account", some destinationAddress),
     ("mint_authority_pda", some core.mintAuthorityAddress)]
  | .redeem =>
    [("source_issued_token_account", some sourceAddress),
     ("reserve_asset_token_account", some reserveAddress),
     ("destination_asset_token_account", some destinationAddress),
     ("reserve_authority_pda", some core.reserveAuthorityAddress)]

/-- The accounts that are named alike in every mode. -/
def commonAccountInputs (resolution : SettlementResolution)
    (assetConfigAddress assetPauseStateAddress : PublicKey) : NamedAddresses :=
  let core := resolution.core
  let limits := resolution.limits
  let pathwayLimit := limitByLabel limits .pathway
  let assetLimit := limitByLabel limits .asset
  let counterpartyLimit :=
    if resolution.request.mode = .trilateral then none else limitByLabel limits .counterparty
  let executorLimit :=
    if resolution.request.mode = .direct then none else limitByLabel limits .executor
  let feeRecipient := resolution.tokenAccounts.feeRecipient
  [("asset_config", some assetConfigAddress),
   ("pathway_policy", some resolution.pathway.pathway.address),
   ("asset_mint", some resolution.request.assetMint),
   ("issued_token_mint", some core.issuedTokenMint),
   ("asset_token_program", some core.assetTokenProgram),
   ("issued_token_program", some core.issuedTokenProgram),
   ("asset_pause_state", some assetPauseStateAddress),
   ("fee_policy", snapshotAddress resolution.policies.feePolicy.snapshot),
   ("fee_recipient_token_account",
     if feeRecipient.doesExist then some feeRecipient.address else none),
   ("limit_policy", policyAddress pathwayLimit),
   ("hourly_usage_window", windowAddress pathwayLimit .hourly),
   ("daily_usage_window", windowAddress pathwayLimit .daily),
   ("weekly_usage_window", windowAddress pathwayLimit .weekly),
   ("monthly_usage_window", windowAddress pathwayLimit .monthly),
   ("evidence_policy", snapshotAddress resolution.policies.evidencePolicy.snapshot),
   ("asset_limit_policy", policyAddress assetLimit),
   ("asset_daily_usage_window", windowAddress assetLimit .daily),
   ("counterparty_limit_policy",
     snapshotAddress resolution.policies.counterpartyLimitPolicy.snapshot),
   ("counterparty_daily_usage_window", windowAddress counterpartyLimit .daily),
   ("executor_limit_policy", snapshotAddress resolution.policies.executorLimitPolicy.snapshot),
   ("executor_daily_usage_window", windowAddress executorLimit .daily)]

/-- The accounts that a delegated settlement adds. -/
def delegatedAccountInputs (identity : OperationIdentity) (intent : ChanceryStateSnapshot)
    (principal executor : ResolvedPermission) : NamedAddresses :=
  [("intent", some intent.address),
   ("principal_permission_record", some principal.address),
   ("executor_permission_record", some executor.address),
   ("executor", some identity.executor),
   ("principal", some identity.principalA),
   ("settlement_policy", snapshotAddress identity.settlementPolicy.snapshot),
   ("rent_refund_recipient", some identity.rentRefundRecipient)]

/-- The accounts that a trilateral settlement adds. -/
def trilateralAccountInputs (identity : OperationIdentity) (limits : List ResolvedLimitDimension)
    (intent : ChanceryStateSnapshot) (principalA principalB executor : ResolvedPermission) :
    NamedAddresses :=
  [("intent", some intent.address),
   ("principal_a_permission_record", some principalA.address),
   ("principal_b_permission_record", some principalB.address),
   ("executor_permission_record", some executor.address),
   ("executor", some identity.executor),
   ("principal_a", some identity.principalA),
   ("principal_b", some identity.principalB),
   ("settlement_policy", snapshotAddress identity.settlementPolicy.snapshot),
   ("counterparty_a_daily_usage_window", windowAddress (limitByLabel limits .counterpartyA) .daily),
   ("counterparty_b_daily_usage_window", windowAddress (limitByLabel limits .counterpartyB) .daily),
   ("rent_refund_recipient", some identity.rentRefundRecipient)]

/-- The accounts that belong to a mode; permissions are listed principal first, executor last. -/
def modeAccountInputs (resolution : SettlementResolution) (principal : ResolvedPermission) :
    Except String NamedAddresses :=
  let identity := resolution.identity
  match resolution.request.mode, resolution.permissions, identity.intent with
  | .direct, _, _ => .ok [("permission_record", some principal.address),
      ("principal", some identity.principalA)]
  | .delegated, _ :: executor :: _, some intent =>
    .ok (delegatedAccountInputs identity intent principal executor)
  | .delegated, _, _ =>
    .error "Delegated settlement permission or intent resolution is missing"
  | .trilateral, _ :: principalB :: executor :: _, some intent =>
    .ok (trilateralAccountInputs identity resolution.limits intent principal principalB executor)
  | .trilateral, _, _ =>
    .error "Trilateral settlement permission or intent resolution is missing"

/-- The accounts of the settlement instruction. -/
def buildInstructionAccounts (resolution : SettlementResolution) :
    Except String InstructionAccountInputs :=
  match resolution.permissions with
  | [] => .error "Principal permission resolution is missing"
  | principal :: _ => do
    let core := resolution.core.accounts
    let tokenAccounts := resolution.tokenAccounts
    let assetConfigAddress ← requiredSnapshotAddress core.assetConfig "asset_config" false
    let sourceAddress ← requiredTokenAddress tokenAccounts.source "source"
    let reserveAddress ← requiredTokenAddress tokenAccounts.reserve "reserve"
    let destinationAddress ← requiredTokenAddress tokenAccounts.destination "destination"
    let assetPauseStateAddress ←
      requiredSnapshotAddress core.assetPauseState "asset_pause_state" true
    let modeInputs ← modeAccountInputs resolution principal
    return compactAccountInputs
      (commonAccountInputs resolution assetConfigAddress assetPauseStateAddress ++
        tokenAccountInputs resolution sourceAddress reserveAddress destinationAddress ++ modeInputs)

/-! ## The inspection -/

/-- The policy accounts of an inspection. -/
structure SettlementPolicies where
  feePolicy : Option ChanceryStateSnapshot
  pathwayLimitPolicy : Option ChanceryStateSnapshot
  evidencePolicy : Option ChanceryStateSnapshot
  settlementPolicy : Option ChanceryStateSnapshot
  assetLimitPolicy : Option ChanceryStateSnapshot
  counterpartyLimitPolicy : Option ChanceryStateSnapshot
  executorLimitPolicy : Option ChanceryStateSnapshot

/-- What `inspect` returns. -/
structure SettlementInspection where
  request : NormalizedSettlementOperationRequest
  observation : ChanceryObservationContext
  instructionName : String
  pathwayCandidates : List PathwayCandidate
  pathway : ChanceryStateSnapshot
  intent : Option ChanceryStateSnapshot
  coreAccounts : CoreAccounts
  policies : SettlementPolicies
  permissions : List ResolvedPermission
  limits : List ResolvedLimitDimension
  tokenMints : TokenMints
  tokenAccounts : TokenAccounts
  reserveDestinations : List ChanceryStateSnapshot
  feeQuote : FeeQuote
  effectiveQuote : SettlementEffectiveQuote
  settlementPolicyObservation : Option SettlementPolicyObservation
  amounts : SettlementAmountResolution
  pauses : SettlementPauseObservation
  instructionArguments : StructValues
  instructionAccounts : InstructionAccountInputs
  blockingIssues : List String

/-- `uniqueBlockingIssues.length === 0`. -/
def SettlementInspection.ready (inspection : SettlementInspection) : Bool :=
  inspection.blockingIssues.isEmpty

/-- First occurrences, in order. -/
def uniqueStrings (values : List String) : List String := values.eraseDups

theorem uniqueStrings_eq_nil {values : List String} : uniqueStrings values = [] ↔ values = [] := by
  cases values with
  | nil => simp [uniqueStrings]
  | cons value values => simp [uniqueStrings, List.eraseDups_cons]

/-- The policy accounts of a resolution. -/
def settlementPolicies (resolution : SettlementResolution) : SettlementPolicies where
  feePolicy := resolution.policies.feePolicy.snapshot
  pathwayLimitPolicy := resolution.policies.pathwayLimitPolicy.snapshot
  evidencePolicy := resolution.policies.evidencePolicy.snapshot
  settlementPolicy := resolution.identity.settlementPolicy.snapshot
  assetLimitPolicy := resolution.policies.assetLimitPolicy.snapshot
  counterpartyLimitPolicy := resolution.policies.counterpartyLimitPolicy.snapshot
  executorLimitPolicy := resolution.policies.executorLimitPolicy.snapshot

/-- The amounts of a resolution. -/
def settlementAmounts (resolution : SettlementResolution) : SettlementAmountResolution where
  inputAmount := resolution.identity.inputAmount
  grossOutput := resolution.quote.quote.grossOutput
  minimumOutput := resolution.quote.minimumOutput
  limitNotional := resolution.quote.limitNotional
  sourceBalance := resolution.tokenAccounts.source.values.map (·.amount)
  reserveBalance := resolution.tokenAccounts.reserve.values.map (·.amount)

/-- The inspection of a resolution, with its arguments and accounts. -/
def inspectionOf (resolution : SettlementResolution) (instructionArguments : StructValues)
    (instructionAccounts : InstructionAccountInputs) : SettlementInspection where
  request := resolution.request
  observation := resolution.observation
  instructionName :=
    settlementInstructionName resolution.request.action resolution.request.mode
  pathwayCandidates := resolution.pathway.candidates
  pathway := resolution.pathway.pathway
  intent := resolution.identity.intent
  coreAccounts := resolution.core.accounts
  policies := settlementPolicies resolution
  permissions := resolution.permissions
  limits := resolution.limits
  tokenMints := resolution.core.mints
  tokenAccounts := resolution.tokenAccounts
  reserveDestinations := resolution.reserveDestinations
  feeQuote := resolution.quote.quote.feeQuote
  effectiveQuote := resolution.quote.quote.effectiveQuote
  settlementPolicyObservation := resolution.quote.settlementPolicyObservation
  amounts := settlementAmounts resolution
  pauses := resolution.pauses
  instructionArguments := instructionArguments
  instructionAccounts := instructionAccounts
  blockingIssues := uniqueStrings (blockingIssues resolution)

/-- What follows the last read. -/
def assembleInspection (resolution : SettlementResolution) :
    Except String SettlementInspection := do
  let instructionArguments ← buildInstructionArguments resolution.request resolution.identity
    resolution.pathway.values resolution.quote.minimumOutput
  let instructionAccounts ← buildInstructionAccounts resolution
  return inspectionOf resolution instructionArguments instructionAccounts

section

variable (client : ChanceryClient)

/-- The context that a clock gives. -/
def observationContext (requestInput : SettlementOperationRequest) (clock : RpcClock) :
    ChanceryObservationContext where
  contextSlot := clock.slot
  blockUnixTimestamp := requestInput.nowUnixTimestamp.getD clock.unixTimestamp
  epoch := clock.epoch
  commitment := client.commitment
  expiresAfterSlot := clock.slot + observationValiditySlots
  timestampSource := if requestInput.nowUnixTimestamp.isSome then .requestOverride else .clockSysvar

/-- The reads that depend on the clock. -/
def resolveAt (requestInput : SettlementOperationRequest) (clock : RpcClock) :
    Reads SettlementResolution := do
  let observation := observationContext client requestInput clock
  let request ← normalizeRequest client.language requestInput observation.blockUnixTimestamp
  resolveSettlement client request observation

/-- An inspection at a clock. -/
def inspectAt (requestInput : SettlementOperationRequest) (clock : RpcClock) :
    Reads SettlementInspection := do
  let resolution ← resolveAt client requestInput clock
  assembleInspection resolution

/-- An inspection: the slot first, which becomes the floor of the reads after it. -/
def inspect (requestInput : SettlementOperationRequest) : Session SettlementInspection := do
  let initialContextSlot ← getSlot client.commitment
  setMinimumContextSlot initialContextSlot
  let clock ← getClock client.commitment
  setMinimumContextSlot clock.slot
  inspectAt client requestInput clock

/-- Readiness check; the message lists every issue. -/
def assertInspectionReady (inspection : SettlementInspection) : Except String Unit :=
  rejectWhen (inspection.ready = false)
    ("Settlement operation is not ready:\n" ++
      "\n".intercalate (inspection.blockingIssues.map ("- " ++ ·)))

/-- The instruction of a ready inspection. -/
def buildInstruction (inspection : SettlementInspection) : Except String ChanceryInstruction := do
  assertInspectionReady inspection
  buildChanceryInstruction client inspection.instructionName inspection.instructionArguments
    inspection.instructionAccounts true

end

end Chancery
