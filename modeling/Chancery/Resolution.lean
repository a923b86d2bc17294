import Chancery.Snapshots
import Chancery.Policy
import Chancery.Lib.Extraction

/-!
# What an inspection looks up

The private methods of `ChanceryClient` that read the chain: the operation's identity, its
pathway, policies, permissions, limits and token accounts.

* `resolveOperationIdentity` — from the request alone, or from a settlement intent.
* `discoverPathways`, `selectPathwayCandidate` — the one pathway that matches.
* `resolvePolicyFromIdentifier`, `resolvePermissions`, `resolvePathwayLimitDimension`,
  `resolveDailyLimitDimension`, `resolveTokenAccount`, `discoverReserveDestinations`.
-/

set_option autoImplicit false

namespace Chancery

section

variable (client : ChanceryClient)

/-! ## Policies -/

/-- A policy account with the address it was derived at. -/
structure PolicyResolution where
  snapshot : Option ChanceryStateSnapshot
  pda : Option ProgramAddressResult

def PolicyResolution.unbound : PolicyResolution := ⟨none, none⟩

/-- The values of a bound policy. -/
def PolicyResolution.values (policy : PolicyResolution) : Option StructValues :=
  policy.snapshot.bind (·.values)

/-- A zero identifier binds no policy. -/
def resolvePolicyFromIdentifier (identifierValue : Option Value) (expectedName : String)
    (derive : Bytes → Except String ProgramAddressResult) : Reads PolicyResolution := do
  let unbound ← isZeroBytes32 identifierValue s!"{expectedName} id"
  if unbound then return .unbound
  else do
    let identifier ← requireBytes identifierValue s!"{expectedName} id" 32
    let pda ← derive identifier
    let snapshot ← loadChanceryState client pda.address expectedName false
    return ⟨some snapshot, some pda⟩

/-! ## The operation's identity -/

/-- Who takes part in a settlement, and how much. -/
structure OperationIdentity where
  principalA : PublicKey
  principalB : PublicKey
  executor : PublicKey
  intentId : Option Bytes
  pathwayIdConstraint : Option Bytes
  inputAmount : Int
  intentMinimumOutput : Option Int
  intent : Option ChanceryStateSnapshot
  settlementPolicy : PolicyResolution
  rentRefundRecipient : PublicKey

/-- The identity that a direct request gives. -/
def directIdentity (request : NormalizedSettlementOperationRequest) :
    Except String OperationIdentity :=
  match request.amount with
  | none => .error "Direct settlement requires a positive amount"
  | some amount =>
    if amount ≤ 0 then .error "Direct settlement requires a positive amount"
    else .ok {
      principalA := request.principal
      principalB := request.principal
      executor := request.principal
      intentId := none
      pathwayIdConstraint := request.pathwayId
      inputAmount := amount
      intentMinimumOutput := none
      intent := none
      settlementPolicy := .unbound
      rentRefundRecipient := request.rentRefundRecipient.getD request.principal }

/-- The field of the intent's input. -/
def intentAmountField : SettlementAction → String
  | .mint => "asset_amount"
  | .redeem => "issued_token_amount"

/-- The field of the intent's minimum output. -/
def intentMinimumField : SettlementAction → String
  | .mint => "minimum_issued_token_amount"
  | .redeem => "minimum_asset_amount"

/-- What a request has to agree on with the intent that it names. -/
structure IntentTerms where
  principalA : PublicKey
  principalB : PublicKey
  executor : PublicKey
  inputAmount : Int
  minimumOutput : Int
  pathwayId : Bytes

/-- Was something else asked for? -/
def disagrees {α : Type} [DecidableEq α] (requested : Option α) (actual : α) : Bool :=
  requested.any (· ≠ actual)

/-- A requested address, empty when none is. -/
def requestedText (requested : Option PublicKey) : String := requested.elim "" PublicKey.toBase58

/-- The terms that the intent account stores. -/
def intentTerms (request : NormalizedSettlementOperationRequest) (intentValues : StructValues) :
    Except String IntentTerms := do
  let L := client.language
  let principalA ← requirePublicKeyField intentValues "principal_a"
  let principalB ← requirePublicKeyField intentValues "principal_b"
  let executor ← requirePublicKeyField intentValues "executor"
  rejectWhen (principalA ≠ request.principal)
    (s!"Settlement intent principal A is {principalA.toBase58}, not " ++
      request.principal.toBase58)
  rejectWhen (disagrees request.principalB principalB)
    (s!"Settlement intent principal B is {principalB.toBase58}, not " ++
      requestedText request.principalB)
  rejectWhen (disagrees request.executor executor)
    (s!"Settlement intent executor is {executor.toBase58}, not " ++
      requestedText request.executor)
  let inputAmount ← requireBigIntField L intentValues (intentAmountField request.action)
  rejectWhen (disagrees request.amount inputAmount)
    (s!"Requested amount {request.amount.getD 0} does not match settlement intent amount " ++
      toString inputAmount)
  let minimumOutput ← requireBigIntField L intentValues (intentMinimumField request.action)
  let pathwayId ← requireBytes (intentValues.lookup "pathway_id") "intent pathway id" 32
  rejectWhen (disagrees request.pathwayId pathwayId)
    "Requested pathway id does not match settlement intent pathway id"
  return ⟨principalA, principalB, executor, inputAmount, minimumOutput, pathwayId⟩

/-- Who gets the intent's rent back. -/
def rentRefundRecipient (request : NormalizedSettlementOperationRequest)
    (intentValues : StructValues) : Except String PublicKey :=
  match request.rentRefundRecipient with
  | some recipient => .ok recipient
  | none => requirePublicKeyField intentValues "rent_refund_recipient"

/-- The identity that the intent account gives. -/
def intentIdentity (request : NormalizedSettlementOperationRequest) (intentId : Bytes) :
    Reads OperationIdentity := do
  let intentPda ← deriveSettlementIntentAddress client intentId
  let intent ← loadChanceryState client intentPda.address "SettlementIntent" false
  let intentValues ← requireSnapshotValues intent
  let terms ← intentTerms client request intentValues
  let settlementPolicy ← resolvePolicyFromIdentifier client (intentValues.lookup "policy_id")
    "SettlementPolicy" (deriveSettlementPolicyAddress client)
  let recipient ← rentRefundRecipient request intentValues
  return {
    principalA := terms.principalA
    principalB := terms.principalB
    executor := terms.executor
    intentId := some intentId
    pathwayIdConstraint := some terms.pathwayId
    inputAmount := terms.inputAmount
    intentMinimumOutput := some terms.minimumOutput
    intent := some intent
    settlementPolicy := settlementPolicy
    rentRefundRecipient := recipient }

/-- The identity of a request. -/
def resolveOperationIdentity (request : NormalizedSettlementOperationRequest) :
    Reads OperationIdentity :=
  match request.mode, request.intentId with
  | .direct, _ => .done (directIdentity request)
  | mode, none => .done (.error s!"{mode.text} settlement requires an intent id")
  | _, some intentId => intentIdentity client request intentId

/-! ## Pathways -/

/-- A listed pathway against the request. -/
structure PathwayCandidate where
  address : PublicKey
  pathwayId : Bytes
  assetMint : PublicKey
  issuedTokenMint : PublicKey
  pathwayKind : Int
  designatedExecutor : PublicKey
  active : Bool
  matchesRequestedAsset : Bool
  matchesIssuedToken : Bool
  matchesMode : Bool
  matchesRequestedPathwayId : Bool
  canonicalPda : Bool

/-- The accounts of the program that hold an account type, by size and discriminator. -/
def discriminatedAccounts (accountName : String) : Reads (List RpcAddressAccountInfo) := do
  let accountSchema ← getAccountSchema accountName
  getProgramAccounts client.deployment.programAddress
    [.dataSize accountSchema.size, .memcmp 0 accountSchema.discriminator] client.commitment

/-- The values of a listed account, when it is the program's and of the expected type. -/
def listedValues (expectedName : String) (programAccount : RpcAddressAccountInfo) :
    Except String (Option StructValues) :=
  if programAccount.account.owner ≠ client.deployment.programAddress then .ok none
  else do
    let decoded ← decodeAccount client programAccount.account.data
    return if decoded.name ≠ expectedName then none else some decoded.values

/-- The comparison of a pathway with the request. -/
def pathwayCandidate (request : NormalizedSettlementOperationRequest)
    (pathwayIdConstraint : Option Bytes) (issuedTokenMint address : PublicKey)
    (values : StructValues) : Except String PathwayCandidate := do
  let L := client.language
  let pathwayId ← requireBytes (values.lookup "pathway_id") "pathway id" 32
  let derived ← derivePathwayPolicyAddress client pathwayId
  let assetMint ← requirePublicKeyField values "asset_mint"
  let candidateIssuedTokenMint ← requirePublicKeyField values "issued_token_mint"
  let pathwayKind ← requireNumberField L values "pathway_kind"
  let designatedExecutor ← requirePublicKeyField values "designated_executor"
  let active ← pathwayIsActive L values
  return {
    address := address
    pathwayId := pathwayId
    assetMint := assetMint
    issuedTokenMint := candidateIssuedTokenMint
    pathwayKind := pathwayKind
    designatedExecutor := designatedExecutor
    active := active
    matchesRequestedAsset := decide (assetMint = request.assetMint)
    matchesIssuedToken := decide (candidateIssuedTokenMint = issuedTokenMint)
    matchesMode := decide (pathwayKind = pathwayKindValue request.mode)
    matchesRequestedPathwayId := pathwayIdConstraint.all (· = pathwayId)
    canonicalPda := decide (derived.address = address) }

/-- A listed account as a candidate, when it is a pathway. -/
def listedPathway (request : NormalizedSettlementOperationRequest)
    (pathwayIdConstraint : Option Bytes) (issuedTokenMint : PublicKey)
    (programAccount : RpcAddressAccountInfo) : Except String (List PathwayCandidate) := do
  let listed ← listedValues client "PathwayPolicy" programAccount
  match listed with
  | none => return []
  | some values => do
    let candidate ← pathwayCandidate client request pathwayIdConstraint issuedTokenMint
      programAccount.address values
    return [candidate]

/-- Every listed pathway as a candidate. -/
def discoverPathways (request : NormalizedSettlementOperationRequest)
    (pathwayIdConstraint : Option Bytes) (issuedTokenMint : PublicKey) :
    Reads (List PathwayCandidate) := do
  let programAccounts ← discriminatedAccounts client "PathwayPolicy"
  .done (Extraction.collect (listedPathway client request pathwayIdConstraint issuedTokenMint)
    programAccounts)

/-- Whether the pathway fits the request. -/
def PathwayCandidate.isEligible (candidate : PathwayCandidate) : Bool :=
  candidate.matchesRequestedAsset && candidate.matchesIssuedToken && candidate.matchesMode
    && candidate.matchesRequestedPathwayId && candidate.canonicalPda

/-- The one eligible candidate. -/
def selectPathwayCandidate (candidates : List PathwayCandidate) :
    Except String PathwayCandidate :=
  match candidates.filter (·.isEligible) with
  | [] => .error ("No canonical Chancery pathway matches the requested asset, issued token, " ++
      "mode, and pathway id")
  | [candidate] => .ok candidate
  | _ => .error "Multiple Chancery pathways match; supply an explicit pathway id"

/-! ## Permissions -/

/-- A permission record with its observation. -/
structure ResolvedPermission where
  label : String
  address : PublicKey
  requiredRole : Nat
  snapshot : ChanceryStateSnapshot
  observation : Option PermissionObservation

/-- A permission that the settlement needs. -/
structure PermissionDefinition where
  label : String
  subject : PublicKey
  requiredRole : Nat

/-- Every permission that the settlement needs. -/
def permissionDefinitions (request : NormalizedSettlementOperationRequest)
    (identity : OperationIdentity) : List PermissionDefinition :=
  let principalRole := requiredPrincipalRole request.action request.mode
  let executor : PermissionDefinition :=
    ⟨"executor permission", identity.executor, Role.canExecuteSettlement⟩
  match request.mode with
  | .direct => [⟨"principal permission", identity.principalA, principalRole⟩]
  | .delegated => [⟨"principal permission", identity.principalA, principalRole⟩, executor]
  | .trilateral =>
    [⟨"principal A permission", identity.principalA, principalRole⟩,
     ⟨"principal B permission", identity.principalB, Role.canUseTrilateralPathway⟩, executor]

/-- The observation of an existing record. -/
def observePermission (definition : PermissionDefinition) (pathwayPolicyAddress : PublicKey)
    (nowUnixTimestamp : Int) (values : Option StructValues) :
    Except String (Option PermissionObservation) :=
  match values with
  | none => .ok none
  | some values => do
    let observation ← permissionObservation client.language values definition.requiredRole
      definition.subject Scope.pathway pathwayPolicyAddress nowUnixTimestamp
    return some observation

/-- One permission. -/
def resolvePermission (pathwayPolicyAddress : PublicKey) (nowUnixTimestamp : Int)
    (definition : PermissionDefinition) : Reads ResolvedPermission := do
  let pda ← derivePermissionRecordAddress client definition.subject Scope.pathway
    pathwayPolicyAddress
  let snapshot ← loadChanceryState client pda.address "PermissionRecord" true
  let observation ← observePermission client definition pathwayPolicyAddress nowUnixTimestamp
    snapshot.values
  return {
    label := definition.label
    address := pda.address
    requiredRole := definition.requiredRole
    snapshot := snapshot
    observation := observation }

/-- Permissions in order. -/
def resolveEachPermission (pathwayPolicyAddress : PublicKey) (nowUnixTimestamp : Int) :
    List PermissionDefinition → Reads (List ResolvedPermission)
  | [] => return []
  | definition :: rest => do
    let permission ← resolvePermission client pathwayPolicyAddress nowUnixTimestamp definition
    let permissions ← resolveEachPermission pathwayPolicyAddress nowUnixTimestamp rest
    return permission :: permissions

/-- Every permission of a settlement. -/
def resolvePermissions (request : NormalizedSettlementOperationRequest)
    (identity : OperationIdentity) (pathwayPolicyAddress : PublicKey) :
    Reads (List ResolvedPermission) :=
  resolveEachPermission client pathwayPolicyAddress request.nowUnixTimestamp
    (permissionDefinitions request identity)

/-! ## Limits -/

/-- The dimensions that limits are checked in. -/
inductive LimitLabel where
  | pathway
  | asset
  | counterparty
  | counterpartyA
  | counterpartyB
  | executor
  deriving DecidableEq

/-- The dimension as issues name it. -/
def LimitLabel.text : LimitLabel → String
  | pathway => "pathway"
  | asset => "asset"
  | counterparty => "counterparty"
  | counterpartyA => "counterparty_a"
  | counterpartyB => "counterparty_b"
  | executor => "executor"

/-- A limit dimension with its observation. -/
structure ResolvedLimitDimension where
  label : LimitLabel
  policy : Option ChanceryStateSnapshot
  scopeHash : Option Bytes
  windows : UsageWindows ChanceryStateSnapshot
  observation : Option LimitObservation
  validationIssues : List String

/-- A dimension without a policy. -/
def emptyLimitDimension (label : LimitLabel) : ResolvedLimitDimension where
  label := label
  policy := none
  scopeHash := none
  windows := ⟨none, none, none, none⟩
  observation := none
  validationIssues := []

/-- The decoded values of the windows. -/
def snapshotValuesByWindow (windows : UsageWindows ChanceryStateSnapshot) :
    UsageWindows StructValues where
  hourly := windows.hourly.bind (·.values)
  daily := windows.daily.bind (·.values)
  weekly := windows.weekly.bind (·.values)
  monthly := windows.monthly.bind (·.values)

/-- Does the policy cap the window, in volume or in actions? -/
def windowIsEnforced (policyValues : StructValues) (name : UsageWindowName) :
    Except String Bool :=
  anyHolds (bigIntIsNonzero client.language policyValues name.maximumField ::
    (name.actionsField.map (numberIsNonzero client.language policyValues)).toList)

/-- One usage window, when the policy enforces it. -/
def loadUsageWindow (scopeHash : Bytes) (name : UsageWindowName) (enforced : Bool) :
    Reads (Option ChanceryStateSnapshot) :=
  if enforced then do
    let pda ← deriveUsageWindowAddress client scopeHash name.windowKind
    let snapshot ← loadChanceryState client pda.address "UsageWindow" true
    return some snapshot
  else return none

/-- The usage windows of a policy. -/
def loadLimitWindows (policyValues : StructValues) (scopeHash : Bytes) :
    Reads (UsageWindows ChanceryStateSnapshot) := do
  let hourlyEnforced ← windowIsEnforced client policyValues .hourly
  let dailyEnforced ← windowIsEnforced client policyValues .daily
  let weeklyEnforced ← windowIsEnforced client policyValues .weekly
  let monthlyEnforced ← windowIsEnforced client policyValues .monthly
  let hourly ← loadUsageWindow client scopeHash .hourly hourlyEnforced
  let daily ← loadUsageWindow client scopeHash .daily dailyEnforced
  let weekly ← loadUsageWindow client scopeHash .weekly weeklyEnforced
  let monthly ← loadUsageWindow client scopeHash .monthly monthlyEnforced
  return ⟨hourly, daily, weekly, monthly⟩

/-- The pathway's dimension, at its own scope. -/
def resolvePathwayLimitDimension (policy : PolicyResolution) (action : SettlementAction)
    (proposedAmount nowUnixTimestamp : Int) : Reads ResolvedLimitDimension :=
  match policy.values with
  | none => return emptyLimitDimension .pathway
  | some policyValues => do
    let scopeHash ← policyScopeHash client policyValues
    let windows ← loadLimitWindows client policyValues scopeHash
    let observation ← observeLimitPolicy client.language policyValues action proposedAmount
      (snapshotValuesByWindow windows) nowUnixTimestamp
    return {
      label := .pathway
      policy := policy.snapshot
      scopeHash := some scopeHash
      windows := windows
      observation := some observation
      validationIssues := [] }

/-- A dimension at a concrete scope. -/
def resolveDailyLimitDimension (label : LimitLabel) (policy : PolicyResolution) (scopeKind : Nat)
    (concreteScopeKey : PublicKey) (proposedAmount : Int) (action : SettlementAction)
    (nowUnixTimestamp : Int) (requireDailyMaximum : Bool) : Reads ResolvedLimitDimension :=
  match policy.values with
  | none => return emptyLimitDimension label
  | some policyValues => do
    let scopeHash ← dimensionScopeHash client scopeKind concreteScopeKey
    let daily ← loadUsageWindow client scopeHash .daily true
    let windows : UsageWindows ChanceryStateSnapshot := ⟨none, daily, none, none⟩
    let observation ← observeLimitPolicy client.language policyValues action proposedAmount
      (snapshotValuesByWindow windows) nowUnixTimestamp
    let expectedScopeKey := if scopeKind = Scope.asset then concreteScopeKey else zeroAddress
    let validationIssues ← dimensionPolicyValidationIssues client.language policyValues scopeKind
      expectedScopeKey requireDailyMaximum
    return {
      label := label
      policy := policy.snapshot
      scopeHash := some scopeHash
      windows := windows
      observation := some observation
      validationIssues := validationIssues }

/-! ## Token accounts -/

/-- Which token account a settlement asks for. -/
structure TokenAccountResolutionInput where
  label : String
  owner : PublicKey
  mint : PublicKey
  tokenProgramAddress : PublicKey
  overrideAddress : Option PublicKey
  allowMissing : Bool

/-- An account that the owner listing offers; one that cannot be decoded or is not bound is
skipped. -/
def ownerAccountMatch (input : TokenAccountResolutionInput) (account : RpcAddressAccountInfo) :
    Option TokenAccountSnapshot :=
  if account.account.owner ≠ input.tokenProgramAddress then none
  else match decodeTokenAccount account.account.data with
    | .error _ => none
    | .ok values =>
      match assertTokenAccountBinding values input.mint input.owner input.label with
      | .error _ => none
      | .ok () =>
        some ⟨account.address, input.tokenProgramAddress, .uniqueOwnerAccount, some values⟩

/-- The one account found, or the associated address as missing. -/
def uniqueOwnerAccount (input : TokenAccountResolutionInput) (associatedAddress : PublicKey)
    (ownerAccounts : List RpcAddressAccountInfo) : Except String TokenAccountSnapshot :=
  match ownerAccounts.filterMap (ownerAccountMatch input) with
  | [found] => .ok found
  | _ :: _ :: _ => .error s!"{input.label} is ambiguous; supply an explicit token account address"
  | [] =>
    if input.allowMissing then .ok (.missing associatedAddress input.tokenProgramAddress)
    else .error s!"{input.label} does not exist at {associatedAddress.toBase58}"

/-- A token account: given, or the owner's only one. -/
def resolveTokenAccount (input : TokenAccountResolutionInput) : Reads TokenAccountSnapshot :=
  match input.overrideAddress with
  | some address => loadTokenAccountAtAddress client address input.owner input.mint
      input.tokenProgramAddress .override input.allowMissing
  | none => do
    let associated ← deriveAssociatedTokenAddress client.sha256 input.owner input.mint
      input.tokenProgramAddress
    let snapshot ← loadTokenAccountAtAddress client associated.address input.owner input.mint
      input.tokenProgramAddress .associatedTokenAccount true
    if snapshot.doesExist then return snapshot
    else do
      let ownerAccounts ← getTokenAccountsByOwner input.owner input.mint client.commitment
      uniqueOwnerAccount input associated.address ownerAccounts

/-- A listed account as a reserve destination. -/
def listedReserveDestination (assetMint : PublicKey) (programAccount : RpcAddressAccountInfo) :
    Except String (List ChanceryStateSnapshot) := do
  let listed ← listedValues client "ReserveDestination" programAccount
  match listed with
  | none => return []
  | some values => do
    let destinationMint ← requirePublicKeyField values "asset_mint"
    return if destinationMint ≠ assetMint then [] else
      [snapshotFromDecoded programAccount.address programAccount.account "ReserveDestination" values]

/-- Every reserve destination of an asset. -/
def discoverReserveDestinations (assetMint : PublicKey) : Reads (List ChanceryStateSnapshot) := do
  let programAccounts ← discriminatedAccounts client "ReserveDestination"
  .done (Extraction.collect (listedReserveDestination client assetMint) programAccounts)

end

end Chancery
