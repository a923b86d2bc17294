import Chancery.Inspection

/-!
# What an inspection rests on

Inversion of `resolveSettlement` and `assembleInspection`, for any answers of the chain.

* `Resolved` — the stages that led to a resolution; `resolved_of_yields`.
* `inspectAt_yields` — an inspection comes from a resolution.
* `ready_iff`, `ready_resolution`, `Unblocked` — it is ready when no stage reports an issue.
* `resolveQuote_ok`, `validateAmount_ok`, … — what single stages did.
-/

set_option autoImplicit false

namespace Chancery

variable {client : ChanceryClient}

/-- The stages of a resolution, each with the result that the resolution keeps. -/
structure Resolved (client : ChanceryClient) (requestInput : SettlementOperationRequest)
    (clock : RpcClock) (resolution : SettlementResolution) : Prop where
  observation : resolution.observation = observationContext client requestInput clock
  request : normalizeRequest client.language requestInput
    resolution.observation.blockUnixTimestamp = .ok resolution.request
  core : (resolveCore client resolution.request).Yields (.ok resolution.core)
  identity : (resolveOperationIdentity client resolution.request).Yields (.ok resolution.identity)
  pathway : (selectPathway client resolution.request resolution.identity
    resolution.core.issuedTokenMint).Yields (.ok resolution.pathway)
  policies : (resolvePolicies client resolution.request resolution.observation.contextSlot
    resolution.core resolution.pathway.values).Yields (.ok resolution.policies)
  quote : resolveQuote client resolution.request resolution.identity resolution.core
    resolution.policies resolution.observation.epoch = .ok resolution.quote
  permissions : (resolvePermissions client resolution.request resolution.identity
    resolution.pathway.pathway.address).Yields (.ok resolution.permissions)
  limits : (resolveLimits client resolution.request resolution.identity resolution.policies
    resolution.quote.limitNotional).Yields (.ok resolution.limits)
  tokenAccounts : (resolveTokenAccounts client resolution.request resolution.identity
    resolution.core resolution.quote.quote.feeQuote).Yields (.ok resolution.tokenAccounts)

theorem resolved_of_yields {requestInput : SettlementOperationRequest} {clock : RpcClock}
    {resolution : SettlementResolution}
    (h : (resolveAt client requestInput clock).Yields (.ok resolution)) :
    Resolved client requestInput clock resolution := by
  obtain ⟨request, hrequest, h⟩ := Interaction.yields_lift_bind.1 h
  simp only [resolveSettlement, Interaction.yields_bind] at h
  obtain ⟨core, hcore, identity, hidentity, pathway, hpathway, policies, hpolicies, quote, hquote,
    permissions, hpermissions, limits, hlimits, tokenAccounts, htokenAccounts, reserves, -, pauses,
    -, hresolution⟩ := h
  cases Interaction.yields_done.1 hresolution
  exact ⟨rfl, hrequest, hcore, hidentity, hpathway, hpolicies, Interaction.yields_done.1 hquote,
    hpermissions, hlimits, htokenAccounts⟩

theorem assembleInspection_ok {resolution : SettlementResolution}
    {inspection : SettlementInspection} :
    assembleInspection resolution = .ok inspection ↔ ∃ instructionArguments instructionAccounts,
      buildInstructionArguments resolution.request resolution.identity resolution.pathway.values
        resolution.quote.minimumOutput = .ok instructionArguments ∧
      buildInstructionAccounts resolution = .ok instructionAccounts ∧
      inspection = inspectionOf resolution instructionArguments instructionAccounts := by
  simp only [assembleInspection, Except.bind_eq_ok]
  constructor
  · rintro ⟨instructionArguments, harguments, instructionAccounts, haccounts, hinspection⟩
    cases hinspection
    exact ⟨instructionArguments, instructionAccounts, harguments, haccounts, rfl⟩
  · rintro ⟨instructionArguments, instructionAccounts, harguments, haccounts, rfl⟩
    exact ⟨instructionArguments, harguments, instructionAccounts, haccounts, rfl⟩

/-- **An inspection comes from a resolution.** -/
theorem inspectAt_yields {requestInput : SettlementOperationRequest} {clock : RpcClock}
    {inspection : SettlementInspection}
    (h : (inspectAt client requestInput clock).Yields (.ok inspection)) :
    ∃ resolution, Resolved client requestInput clock resolution ∧
      assembleInspection resolution = .ok inspection := by
  obtain ⟨resolution, hresolution, hinspection⟩ := Interaction.yields_bind.1 h
  exact ⟨resolution, resolved_of_yields hresolution, Interaction.yields_done.1 hinspection⟩

theorem inspect_yields {requestInput : SettlementOperationRequest}
    {inspection : SettlementInspection}
    (h : (inspect client requestInput).Yields (.ok inspection)) :
    ∃ clock, (inspectAt client requestInput clock).Yields (.ok inspection) := by
  obtain ⟨initialContextSlot, -, h⟩ := Interaction.yields_bind.1 h
  obtain ⟨-, -, h⟩ := Interaction.yields_bind.1 h
  obtain ⟨clock, -, h⟩ := Interaction.yields_bind.1 h
  obtain ⟨-, -, h⟩ := Interaction.yields_bind.1 h
  exact ⟨clock, Interaction.yields_of_embed h⟩

/-- An inspection is ready when no stage reports an issue. -/
theorem ready_iff {resolution : SettlementResolution} {inspection : SettlementInspection}
    (h : assembleInspection resolution = .ok inspection) :
    inspection.ready = true ↔ blockingIssues resolution = [] := by
  obtain ⟨instructionArguments, instructionAccounts, -, -, rfl⟩ := assembleInspection_ok.1 h
  rw [SettlementInspection.ready, List.isEmpty_iff]
  exact uniqueStrings_eq_nil

/-- **A ready inspection** comes from a resolution without an issue. -/
theorem ready_resolution {requestInput : SettlementOperationRequest}
    {inspection : SettlementInspection}
    (h : (inspect client requestInput).Yields (.ok inspection)) (hready : inspection.ready = true) :
    ∃ clock resolution, Resolved client requestInput clock resolution ∧
      assembleInspection resolution = .ok inspection ∧ blockingIssues resolution = [] := by
  obtain ⟨clock, hclock⟩ := inspect_yields h
  obtain ⟨resolution, hresolved, hassemble⟩ := inspectAt_yields hclock
  exact ⟨clock, resolution, hresolved, hassemble, (ready_iff hassemble).1 hready⟩

/-! ## Lookups that must succeed -/

theorem chanceryStateSnapshot_values {address : PublicKey} {expectedName : String}
    {account : Option RpcAccountInfo} {snapshot : ChanceryStateSnapshot}
    (h : chanceryStateSnapshot client address expectedName false account = .ok snapshot) :
    snapshot.values.isSome = true := by
  unfold chanceryStateSnapshot at h
  cases account with
  | none => cases h
  | some account =>
    dsimp only at h
    split at h
    · simp at h
    · obtain ⟨decoded, -, h⟩ := Except.bind_eq_ok.1 h
      obtain ⟨-, -, h⟩ := Except.bind_eq_ok.1 h
      cases h
      rfl

theorem loadChanceryState_values {address : PublicKey} {expectedName : String}
    {snapshot : ChanceryStateSnapshot}
    (h : (loadChanceryState client address expectedName false).Yields (.ok snapshot)) :
    snapshot.values.isSome = true := by
  obtain ⟨account, -, h⟩ := Interaction.yields_bind.1 h
  exact chanceryStateSnapshot_values (Interaction.yields_done.1 h)

/-- A bound policy has values. -/
theorem resolvePolicyFromIdentifier_values {identifierValue : Option Value}
    {expectedName : String} {derive : Bytes → Except String ProgramAddressResult}
    {policy : PolicyResolution}
    (h : (resolvePolicyFromIdentifier client identifierValue expectedName derive).Yields
      (.ok policy)) :
    policy.values.isSome = policy.snapshot.isSome := by
  obtain ⟨unbound, -, h⟩ := Interaction.yields_bind.1 h
  cases unbound with
  | true =>
    cases Interaction.yields_done.1 h
    rfl
  | false =>
    simp only [Bool.false_eq_true, if_false, Interaction.yields_bind] at h
    obtain ⟨identifier, -, pda, -, snapshot, hsnapshot, h⟩ := h
    cases Interaction.yields_done.1 h
    exact loadChanceryState_values hsnapshot

/-! ## Single stages -/

/-- The stages without an issue. -/
structure Unblocked (resolution : SettlementResolution) : Prop where
  core : resolution.core.issues = []
  pathway : resolution.pathway.issues = []
  gates : resolution.policies.gateIssues = []
  quote : resolution.quote.issues = []
  permissions : permissionIssues resolution.permissions = []
  limits : validateLimits resolution.limits = []
  tokenAccounts : tokenAccountIssues resolution = []
  pauses : pauseIssues resolution.request.action resolution.pauses = []

theorem unblocked_of_nil {resolution : SettlementResolution}
    (h : blockingIssues resolution = []) : Unblocked resolution := by
  simp only [blockingIssues, List.append_eq_nil_iff] at h
  obtain ⟨⟨⟨⟨⟨⟨⟨hcore, hpathway⟩, hgates⟩, hquote⟩, hpermissions⟩, hlimits⟩, htokens⟩, hpauses⟩ := h
  exact ⟨hcore, hpathway, hgates, hquote, hpermissions, hlimits, htokens, hpauses⟩

theorem requireSnapshotValues_ok {snapshot : ChanceryStateSnapshot} {values : StructValues}
    (h : requireSnapshotValues snapshot = .ok values) : snapshot.values = some values := by
  unfold requireSnapshotValues at h
  split at h
  · cases h
    assumption
  · cases h

theorem resolveCore_assetValues {request : NormalizedSettlementOperationRequest}
    {core : CoreResolution} (h : (resolveCore client request).Yields (.ok core)) :
    core.accounts.assetConfig.values = some core.assetValues := by
  simp only [resolveCore, Interaction.yields_bind] at h
  obtain ⟨_, -, _, -, _, -, _, -, _, -, _, -, _, -, _, -, accounts, -, _, -, assetValues, hasset, _,
    -, _, -, _, -, _, -, _, -, _, -, hcore⟩ := h
  cases Interaction.yields_done.1 hcore
  exact requireSnapshotValues_ok (Interaction.yields_done.1 hasset)

theorem resolveQuote_ok {request : NormalizedSettlementOperationRequest}
    {identity : OperationIdentity} {core : CoreResolution} {policies : PolicyBindings}
    {currentEpoch : Nat} {quote : QuoteResolution}
    (h : resolveQuote client request identity core policies currentEpoch = .ok quote) :
    computeSettlementEffectiveQuote client.language request.action identity.inputAmount
        core.assetValues core.mints.asset.values policies.feePolicy.values
        request.nowUnixTimestamp currentEpoch = .ok quote.quote ∧
      quote.minimumOutput = selectMinimumOutput request identity
        quote.quote.effectiveQuote.principalReceivedAmount ∧
      ∃ amountIssues, validateAmount client request.action identity.inputAmount
          quote.minimumOutput core.assetValues
          quote.quote.effectiveQuote.principalReceivedAmount = .ok amountIssues ∧
        quote.issues = policyObservationIssues quote.settlementPolicyObservation ++
          amountIssues ++ quote.quote.feeQuote.observations := by
  simp only [resolveQuote, Except.bind_eq_ok] at h
  obtain ⟨effective, heffective, observation, -, amountIssues, hamount, hquote⟩ := h
  cases hquote
  exact ⟨heffective, rfl, amountIssues, hamount, rfl⟩

theorem validateAmount_ok {action : SettlementAction}
    {inputAmount minimumOutput principalReceivedAmount : Int} {assetValues : StructValues}
    (h : validateAmount client action inputAmount minimumOutput assetValues
      principalReceivedAmount = .ok []) :
    minimumOutput ≤ principalReceivedAmount := by
  simp only [validateAmount, Except.bind_eq_ok] at h
  obtain ⟨minimumInput, -, maximumInput, -, hissues⟩ := h
  have hnil := Except.ok.inj hissues
  simp only [List.append_eq_nil_iff, issueWhen_eq_nil] at hnil
  exact Int.not_lt.1 hnil.2

/-- What an operation takes from the settlement intent that it names. -/
structure FromIntent (client : ChanceryClient) (action : SettlementAction)
    (identity : OperationIdentity) (intent : ChanceryStateSnapshot) (intentValues : StructValues)
    (minimumOutput : Int) : Prop where
  snapshot : identity.intent = some intent
  values : intent.values = some intentValues
  intentId : identity.intentId.isSome = true
  amountField : requireBigIntField client.language intentValues (intentAmountField action) =
    .ok identity.inputAmount
  minimumField : requireBigIntField client.language intentValues (intentMinimumField action) =
    .ok minimumOutput
  intentMinimumOutput : identity.intentMinimumOutput = some minimumOutput

theorem intentTerms_ok {request : NormalizedSettlementOperationRequest}
    {intentValues : StructValues} {terms : IntentTerms}
    (h : intentTerms client request intentValues = .ok terms) :
    requireBigIntField client.language intentValues (intentAmountField request.action) =
        .ok terms.inputAmount ∧
      requireBigIntField client.language intentValues (intentMinimumField request.action) =
        .ok terms.minimumOutput := by
  simp only [intentTerms, Except.bind_eq_ok] at h
  obtain ⟨_, -, _, -, _, -, _, -, _, -, _, -, inputAmount, hamount, _, -, minimumOutput, hminimum, _,
    -, _, -, h⟩ := h
  cases h
  exact ⟨hamount, hminimum⟩

/-- Outside of direct settlements the operation comes from an intent. -/
theorem resolveOperationIdentity_fromIntent {request : NormalizedSettlementOperationRequest}
    {identity : OperationIdentity} (hmode : request.mode ≠ .direct)
    (h : (resolveOperationIdentity client request).Yields (.ok identity)) :
    ∃ intent intentValues minimumOutput,
      FromIntent client request.action identity intent intentValues minimumOutput := by
  unfold resolveOperationIdentity at h
  split at h
  · exact absurd ‹_› hmode
  · cases Interaction.yields_done.1 h
  · simp only [intentIdentity, Interaction.yields_bind] at h
    obtain ⟨_, -, intent, -, intentValues, hvalues, terms, hterms, _, -, _, -, h⟩ := h
    cases Interaction.yields_done.1 h
    obtain ⟨hamount, hminimum⟩ := intentTerms_ok (Interaction.yields_done.1 hterms)
    exact ⟨intent, intentValues, terms.minimumOutput, rfl,
      requireSnapshotValues_ok (Interaction.yields_done.1 hvalues), rfl, hamount, hminimum, rfl⟩

/-- The label only matters for the message. -/
theorem requireBytes_relabel {value : Option Value} {label other : String} {length : Nat}
    {bytes : Bytes} (h : requireBytes value label length = .ok bytes) :
    requireBytes value other length = .ok bytes := by
  unfold requireBytes at h ⊢
  split at h
  · split at h
    · cases h
    · rw [if_neg ‹_›]
      exact h
  · cases h

theorem requireBytes_length {value : Option Value} {label : String} {length : Nat} {bytes : Bytes}
    (h : requireBytes value label length = .ok bytes) : bytes.length = length := by
  unfold requireBytes at h
  split at h
  · split at h
    · cases h
    · cases h
      exact not_not.1 ‹_›
  · cases h

theorem selectPathway_pathwayId {request : NormalizedSettlementOperationRequest}
    {identity : OperationIdentity} {issuedTokenMint : PublicKey} {pathway : PathwaySelection}
    (h : (selectPathway client request identity issuedTokenMint).Yields (.ok pathway)) :
    ∃ pathwayId, requireBytes (pathway.values.lookup "pathway_id") "pathway id" 32 =
      .ok pathwayId := by
  simp only [selectPathway, Interaction.yields_bind] at h
  obtain ⟨_, -, _, -, _, -, values, -, pathwayId, hpathwayId, _, -, _, -, _, -, h⟩ := h
  cases Interaction.yields_done.1 h
  exact ⟨pathwayId, requireBytes_relabel (Interaction.yields_done.1 hpathwayId)⟩

theorem resolveEachPermission_length {pathwayPolicyAddress : PublicKey} {nowUnixTimestamp : Int}
    {definitions : List PermissionDefinition} {permissions : List ResolvedPermission}
    (h : (resolveEachPermission client pathwayPolicyAddress nowUnixTimestamp definitions).Yields
      (.ok permissions)) : permissions.length = definitions.length := by
  induction definitions generalizing permissions with
  | nil =>
    cases Interaction.yields_done.1 h
    rfl
  | cons definition rest ih =>
    simp only [resolveEachPermission, Interaction.yields_bind] at h
    obtain ⟨permission, -, permissions, hrest, h⟩ := h
    cases Interaction.yields_done.1 h
    simp [ih hrest]

section

variable {request : NormalizedSettlementOperationRequest} {identity : OperationIdentity}
  {pathwayValues : StructValues} {minimumOutput : Int} {pathwayId : Bytes}

theorem buildInstructionArguments_direct (hmode : request.mode = .direct)
    (hpathwayId : requireBytes (pathwayValues.lookup "pathway_id") "pathway id" 32 =
      .ok pathwayId) :
    buildInstructionArguments request identity pathwayValues minimumOutput =
      .ok [("pathway_id", .bytes pathwayId),
        (intentAmountField request.action, .bigint identity.inputAmount),
        (intentMinimumField request.action, .bigint minimumOutput)] := by
  simp only [buildInstructionArguments, hpathwayId, hmode]
  cases request.action <;> rfl

theorem buildInstructionArguments_intent (hmode : request.mode ≠ .direct) {intentId : Bytes}
    (hintentId : identity.intentId = some intentId)
    (hpathwayId : requireBytes (pathwayValues.lookup "pathway_id") "pathway id" 32 =
      .ok pathwayId) :
    buildInstructionArguments request identity pathwayValues minimumOutput =
      .ok [("intent_id", .bytes intentId), ("pathway_id", .bytes pathwayId)] := by
  simp only [buildInstructionArguments, hpathwayId, hintentId]
  cases hm : request.mode with
  | direct => exact absurd hm hmode
  | delegated => rfl
  | trilateral => rfl

end

theorem buildInstructionArguments_total {requestInput : SettlementOperationRequest}
    {clock : RpcClock} {resolution : SettlementResolution}
    (h : Resolved client requestInput clock resolution) :
    ∃ instructionArguments, buildInstructionArguments resolution.request resolution.identity
      resolution.pathway.values resolution.quote.minimumOutput = .ok instructionArguments := by
  obtain ⟨pathwayId, hpathwayId⟩ := selectPathway_pathwayId h.pathway
  by_cases hmode : resolution.request.mode = .direct
  · exact ⟨_, buildInstructionArguments_direct hmode hpathwayId⟩
  · obtain ⟨intent, intentValues, minimumOutput, hfrom⟩ :=
      resolveOperationIdentity_fromIntent hmode h.identity
    obtain ⟨intentId, hintentId⟩ := Option.isSome_iff_exists.1 hfrom.intentId
    exact ⟨_, buildInstructionArguments_intent hmode hintentId hpathwayId⟩

/-- The accounts of the mode are all there. -/
theorem modeAccountInputs_total {requestInput : SettlementOperationRequest}
    {clock : RpcClock} {resolution : SettlementResolution}
    (h : Resolved client requestInput clock resolution) :
    ∃ principal permissions modeInputs, resolution.permissions = principal :: permissions ∧
      modeAccountInputs resolution principal = .ok modeInputs := by
  have hlength := resolveEachPermission_length h.permissions
  have hintent : resolution.request.mode ≠ .direct →
      ∃ intent, resolution.identity.intent = some intent := by
    intro hmode
    obtain ⟨intent, _, _, hfrom⟩ := resolveOperationIdentity_fromIntent hmode h.identity
    exact ⟨intent, hfrom.snapshot⟩
  unfold permissionDefinitions at hlength
  unfold modeAccountInputs
  cases hmode : resolution.request.mode with
  | direct =>
    rw [hmode] at hlength
    obtain ⟨principal, hpermissions⟩ := List.length_eq_one_iff.1 hlength
    exact ⟨principal, [], _, hpermissions, rfl⟩
  | delegated =>
    rw [hmode] at hlength
    obtain ⟨principal, executor, hpermissions⟩ := List.length_eq_two.1 hlength
    obtain ⟨intent, hsome⟩ := hintent (by simp [hmode])
    exact ⟨principal, [executor], _, hpermissions, by simp only [hpermissions, hsome]; rfl⟩
  | trilateral =>
    rw [hmode] at hlength
    obtain ⟨principalA, principalB, executor, hpermissions⟩ := List.length_eq_three.1 hlength
    obtain ⟨intent, hsome⟩ := hintent (by simp [hmode])
    exact ⟨principalA, [principalB, executor], _, hpermissions,
      by simp only [hpermissions, hsome]; rfl⟩

theorem requiredTokenAddress_ok {snapshot : TokenAccountSnapshot} {label : String}
    {address : PublicKey} :
    requiredTokenAddress snapshot label = .ok address ↔
      snapshot.doesExist = true ∧ snapshot.address = address := by
  cases hexist : snapshot.doesExist <;>
    simp [requiredTokenAddress, rejectWhen, hexist, Bind.bind, Except.bind, Pure.pure, Except.pure]

/-- **When the instruction accounts can be named**: source, reserve and destination exist. -/
theorem buildInstructionAccounts_ok_iff {requestInput : SettlementOperationRequest}
    {clock : RpcClock} {resolution : SettlementResolution}
    (h : Resolved client requestInput clock resolution) :
    (∃ instructionAccounts, buildInstructionAccounts resolution = .ok instructionAccounts) ↔
      resolution.tokenAccounts.source.doesExist = true ∧
        resolution.tokenAccounts.reserve.doesExist = true ∧
        resolution.tokenAccounts.destination.doesExist = true := by
  obtain ⟨principal, permissions, modeInputs, hpermissions, hmodeInputs⟩ :=
    modeAccountInputs_total h
  have hasset : resolution.core.accounts.assetConfig.doesExist = true := by
    rw [ChanceryStateSnapshot.doesExist, resolveCore_assetValues h.core]
    rfl
  simp only [buildInstructionAccounts, hpermissions, Except.bind_eq_ok, requiredTokenAddress_ok]
  constructor
  · rintro ⟨instructionAccounts, _, -, _, ⟨hsource, -⟩, _, ⟨hreserve, -⟩, _, ⟨hdestination, -⟩, -⟩
    exact ⟨hsource, hreserve, hdestination⟩
  · rintro ⟨hsource, hreserve, hdestination⟩
    refine ⟨_, resolution.core.accounts.assetConfig.address, ?_, _, ⟨hsource, rfl⟩, _,
      ⟨hreserve, rfl⟩, _, ⟨hdestination, rfl⟩, resolution.core.accounts.assetPauseState.address, ?_,
      modeInputs, hmodeInputs, rfl⟩
    · simp [requiredSnapshotAddress, rejectWhen, hasset, Bind.bind, Except.bind, Pure.pure,
        Except.pure]
    · simp [requiredSnapshotAddress, rejectWhen, Bind.bind, Except.bind, Pure.pure, Except.pure]

end Chancery
