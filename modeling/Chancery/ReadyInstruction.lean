import Chancery.DiscoveryAgreement
import Chancery.OperationExportAgreement
import Chancery.Readiness
import Chancery.TokenExtensions

/-!
# Instructions of ready inspections

Whether `buildInstruction` returns an instruction for a ready inspection.

* `resolveAccounts_verified`, `resolveAccounts_settlement` — the accounts always resolve.
* `encode_intent`, `encode_direct_iff` — the data exists when the amounts are words.
* `resolveTokenAccounts_isWord` — balances are words.
* `readyBuilds_iff`.
-/

set_option autoImplicit false

namespace Chancery

/-! ## Accounts that are all given -/

section

variable {client : ChanceryClient} {schema : InstructionSchema} {argumentValues : StructValues}
  {accountInputs : InstructionAccountInputs}

theorem accountMeta_verified {instructionName : String} {resolved : ResolvedAddresses}
    {accountSchema : InstructionAccountSchema} {address : PublicKey}
    (hlookup : resolved.lookup accountSchema.name = some address)
    (hpda : ∀ seeds, accountSchema.pda = some seeds →
      derivePda client schema argumentValues resolved seeds = .ok address) :
    accountMeta client instructionName schema argumentValues true resolved accountSchema =
      .ok ⟨accountSchema.name, address, accountSchema.signer, accountSchema.writable⟩ := by
  have hverify : verifyPda client instructionName schema argumentValues resolved accountSchema
      address = .ok () := by
    unfold verifyPda
    cases hseeds : accountSchema.pda with
    | none => rfl
    | some seeds =>
      dsimp only
      rw [hpda seeds hseeds]
      exact if_neg (not_not.2 rfl)
  unfold accountMeta
  rw [hlookup]
  exact Except.bind_eq_ok.2 ⟨(), hverify, rfl⟩

/-- **Accounts that are all given are resolved**, when no PDA among them hangs on another
account. -/
theorem resolveAccounts_verified {instructionName : String}
    (hnames : (schema.accounts.map (·.name)).Nodup)
    (h : ∀ accountSchema ∈ schema.accounts, ∃ address,
      givenAddress client accountInputs accountSchema = .ok (some address) ∧
      ∀ seeds, accountSchema.pda = some seeds → ∀ known,
        derivePda client schema argumentValues known seeds = .ok address) :
    ∃ accounts, resolveAccounts client instructionName schema argumentValues accountInputs true =
      .ok accounts := by
  have hgivens : ∀ accountSchema ∈ schema.accounts, ∃ address,
      givenAddress client accountInputs accountSchema = .ok address := by
    intro accountSchema haccount
    obtain ⟨address, haddress, -⟩ := h accountSchema haccount
    exact ⟨some address, haddress⟩
  obtain ⟨given, hgiven⟩ := resolveGiven_ok hgivens
  have hlookup : ∀ accountSchema ∈ schema.accounts, ∃ address,
      given.lookup accountSchema.name = some address ∧
      ∀ seeds, accountSchema.pda = some seeds → ∀ known,
        derivePda client schema argumentValues known seeds = .ok address := by
    intro accountSchema haccount
    obtain ⟨address, haddress, hpda⟩ := h accountSchema haccount
    rw [lookup_given hnames hgiven haccount] at haddress
    exact ⟨address, Except.ok.inj haddress, hpda⟩
  have hpasses : derivePasses client schema argumentValues schema.accounts.length given =
      .ok given := by
    cases schema.accounts.length with
    | zero => rfl
    | succ limit =>
      rw [derivePasses, derivePass_resolved fun accountSchema haccount =>
        (hlookup accountSchema haccount).imp fun _ haddress => haddress.1]
      rfl
  obtain ⟨accounts, haccounts⟩ := Except.exists_mapM (f := accountMeta client instructionName schema
    argumentValues true given) fun accountSchema haccount => by
      obtain ⟨address, haddress, hpda⟩ := hlookup accountSchema haccount
      exact ⟨_, accountMeta_verified haddress fun seeds hseeds => hpda seeds hseeds given⟩
  exact ⟨accounts, Except.bind_eq_ok.2 ⟨given, hgiven, Except.bind_eq_ok.2 ⟨given, hpasses,
    haccounts⟩⟩⟩

end

/-! ## Named PDAs -/

theorem deriveKnownPdas_lookup {sha256 : Sha256} {programAddress : PublicKey}
    {name seedText : String} :
    ∀ {seeds : List (String × String)} {knownPdas : List (String × PublicKey)},
      deriveKnownPdas sha256 programAddress seeds = .ok knownPdas →
      seeds.lookup name = some seedText →
      ∃ derived, findProgramAddress sha256 [textSeed seedText] programAddress = .ok derived ∧
        knownPdas.lookup name = some derived.address
  | [], _, _, hlookup => nomatch hlookup
  | (other, otherText) :: seeds, _, h, hlookup => by
    obtain ⟨derived, hderived, h⟩ := Except.bind_eq_ok.1 h
    obtain ⟨rest, hrest, hret⟩ := Except.bind_eq_ok.1 h
    cases hret
    rw [List.lookup_cons] at hlookup ⊢
    cases hname : name == other with
    | true =>
      rw [hname] at hlookup
      cases hlookup
      exact ⟨derived, hderived, rfl⟩
    | false =>
      rw [hname] at hlookup
      exact deriveKnownPdas_lookup hrest hlookup

/-- The module activation state of a loaded schema is the derived one. -/
theorem loadSchema_moduleActivationState {target : ChanceryTarget} {deployment : Deployment}
    (h : loadSchema platformSha256 target = .ok deployment) :
    ∃ derived, findProgramAddress platformSha256 [Schema.Instruction.moduleActivationStateSeed]
        deployment.programAddress = .ok derived ∧
      deployment.knownPda "module_activation_state" = some derived.address := by
  have hseed : Schema.Instruction.moduleActivationStateSeed =
      textSeed "module-activation-state" := by
    decide +kernel
  rw [hseed]
  cases target with
  | mainnet =>
    cases h
    have hmainnet : (findProgramAddress platformSha256 [textSeed "module-activation-state"]
        chanceryMainnetProgramAddress).toOption.map (·.address) =
          some mainnetModuleActivationState := by
      decide +kernel
    cases hderived : findProgramAddress platformSha256 [textSeed "module-activation-state"]
        chanceryMainnetProgramAddress with
    | error =>
      rw [hderived] at hmainnet
      cases hmainnet
    | ok derived =>
      rw [hderived] at hmainnet
      exact ⟨derived, hderived, hmainnet.symm⟩
  | devnet =>
    have hother : ¬ chanceryProgramAddressForTarget .devnet = chanceryMainnetProgramAddress := by
      decide
    rw [loadSchema, if_neg hother] at h
    obtain ⟨knownPdas, hknown, hret⟩ := Except.bind_eq_ok.1 h
    cases hret
    exact deriveKnownPdas_lookup hknown (by decide)

/-- The client's schema has been loaded on the platform. -/
structure Deployed (client : ChanceryClient) : Prop where
  platform : client.sha256 = platformSha256
  deployment : ∃ target, loadSchema platformSha256 target = .ok client.deployment

theorem Deployed.moduleActivationState {client : ChanceryClient} (h : Deployed client) :
    ∃ address, client.deployment.knownPda "module_activation_state" = some address ∧
      ∀ schema argumentValues known, derivePda client schema argumentValues known
        [.const Schema.Instruction.moduleActivationStateSeed] = .ok address := by
  obtain ⟨target, hdeployment⟩ := h.deployment
  obtain ⟨derived, hderived, hknown⟩ := loadSchema_moduleActivationState hdeployment
  refine ⟨derived.address, hknown, fun schema argumentValues known => ?_⟩
  have hnamed : deriveNamedProgramAddress client [Schema.Instruction.moduleActivationStateSeed] =
      .ok derived := by
    rw [deriveNamedProgramAddress, h.platform, hderived]
  refine Except.bind_eq_ok.2 ⟨[Schema.Instruction.moduleActivationStateSeed], rfl,
    Except.bind_eq_ok.2 ⟨derived, ?_, rfl⟩⟩
  rw [hnamed]
  rfl

theorem Deployed.knownPda {client : ChanceryClient} (h : Deployed client) {name : String}
    (hname : name ∈ knownPdaSeeds.map Prod.fst) :
    ∃ address, client.deployment.knownPda name = some address := by
  obtain ⟨target, hdeployment⟩ := h.deployment
  rw [← loadSchema_names hdeployment] at hname
  exact Option.ne_none_iff_exists'.1 fun hnone => by
    obtain ⟨entry, hentry, rfl⟩ := List.mem_map.1 hname
    exact bne_iff_ne.1 (List.lookup_eq_none_iff.1 hnone entry hentry) rfl

/-! ## Accounts of a settlement -/

/-- The accounts that every settlement instruction names. -/
def commonAccountNames : List String :=
  ["asset_config", "pathway_policy", "asset_mint", "issued_token_mint", "asset_token_program",
   "issued_token_program", "asset_pause_state"]

def tokenAccountNames : SettlementAction → List String
  | .mint => ["source_asset_token_account", "reserve_asset_token_account",
      "destination_issued_token_account", "mint_authority_pda"]
  | .redeem => ["source_issued_token_account", "reserve_asset_token_account",
      "destination_asset_token_account", "reserve_authority_pda"]

def modeAccountNames : SettlementMode → List String
  | .direct => ["permission_record", "principal"]
  | .delegated => ["intent", "principal_permission_record", "executor_permission_record",
      "executor", "principal", "rent_refund_recipient"]
  | .trilateral => ["intent", "principal_a_permission_record", "principal_b_permission_record",
      "executor_permission_record", "executor", "principal_a", "principal_b",
      "rent_refund_recipient"]

/-- An account that has a default or one of the names, and of which no PDA hangs on another
account. -/
def InstructionAccountSchema.settles (names : List String) (accountSchema :
    InstructionAccountSchema) : Bool :=
  (match accountSchema.default with
    | none => names.contains accountSchema.name
    | some (.knownPda name) => (knownPdaSeeds.map Prod.fst).contains name
    | some _ => true) &&
  match accountSchema.pda, accountSchema.default with
    | none, _ => true
    | some [.const seed], some (.knownPda name) =>
      name == "module_activation_state" && accountSchema.name == "module_activation_state" &&
        seed == Schema.Instruction.moduleActivationStateSeed
    | _, _ => false

theorem settlementSchema_settles (action : SettlementAction) (mode : SettlementMode) :
    ∀ accountSchema ∈ (settlementSchema action mode).accounts,
      accountSchema.settles (commonAccountNames ++ tokenAccountNames action ++
        modeAccountNames mode) = true := by
  cases action <;> cases mode <;> decide +kernel

theorem lookup_compact_of_mem {values : NamedAddresses} {name : String}
    (h : ∃ address, (name, some address) ∈ values) :
    ∃ address, (compactAccountInputs values).lookup name = some address := by
  obtain ⟨address, hmem⟩ := h
  refine Option.ne_none_iff_exists'.1 fun hnone => ?_
  have hinput : (name, address) ∈ compactAccountInputs values :=
    List.mem_filterMap.2 ⟨(name, some address), hmem, rfl⟩
  exact bne_iff_ne.1 (List.lookup_eq_none_iff.1 hnone _ hinput) rfl

theorem commonAccountInputs_named (resolution : SettlementResolution)
    (assetConfigAddress assetPauseStateAddress : PublicKey) : ∀ name ∈ commonAccountNames,
    ∃ address, (name, some address) ∈
      commonAccountInputs resolution assetConfigAddress assetPauseStateAddress := by
  simp [commonAccountNames, commonAccountInputs]

theorem tokenAccountInputs_named (resolution : SettlementResolution)
    (source reserve destination : PublicKey) :
    ∀ name ∈ tokenAccountNames resolution.request.action, ∃ address,
      (name, some address) ∈ tokenAccountInputs resolution source reserve destination := by
  unfold tokenAccountInputs
  cases resolution.request.action <;> simp [tokenAccountNames]

theorem modeAccountInputs_named {resolution : SettlementResolution} {principal : ResolvedPermission}
    {modeInputs : NamedAddresses} (h : modeAccountInputs resolution principal = .ok modeInputs) :
    ∀ name ∈ modeAccountNames resolution.request.mode, ∃ address,
      (name, some address) ∈ modeInputs := by
  unfold modeAccountInputs at h
  dsimp only at h
  split at h
  · rename_i hmode
    cases h
    simp [hmode, modeAccountNames]
  · rename_i hmode _ _
    cases h
    simp [hmode, modeAccountNames, delegatedAccountInputs]
  · cases h
  · rename_i hmode _ _
    cases h
    simp [hmode, modeAccountNames, trilateralAccountInputs]
  · cases h

/-- The accounts that are always named. -/
theorem buildInstructionAccounts_named {resolution : SettlementResolution}
    {instructionAccounts : InstructionAccountInputs}
    (h : buildInstructionAccounts resolution = .ok instructionAccounts) :
    ∀ name ∈ commonAccountNames ++ tokenAccountNames resolution.request.action ++
      modeAccountNames resolution.request.mode,
      ∃ address, instructionAccounts.lookup name = some address := by
  unfold buildInstructionAccounts at h
  split at h
  · cases h
  · simp only [Except.bind_eq_ok] at h
    obtain ⟨_, -, _, -, _, -, _, -, _, -, modeInputs, hmode, hret⟩ := h
    cases hret
    intro name hname
    apply lookup_compact_of_mem
    rw [List.mem_append, List.mem_append] at hname
    rcases hname with (hname | hname) | hname
    · obtain ⟨address, hmem⟩ := commonAccountInputs_named resolution _ _ name hname
      exact ⟨address, List.mem_append_left _ (List.mem_append_left _ hmem)⟩
    · obtain ⟨address, hmem⟩ := tokenAccountInputs_named resolution _ _ _ name hname
      exact ⟨address, List.mem_append_left _ (List.mem_append_right _ hmem)⟩
    · obtain ⟨address, hmem⟩ := modeAccountInputs_named hmode name hname
      exact ⟨address, List.mem_append_right _ hmem⟩

/-- The names of the accounts that are given to a settlement. -/
theorem buildInstructionAccounts_activation {resolution : SettlementResolution}
    {instructionAccounts : InstructionAccountInputs}
    (h : buildInstructionAccounts resolution = .ok instructionAccounts) :
    instructionAccounts.lookup "module_activation_state" = none := by
  unfold buildInstructionAccounts at h
  split at h
  · cases h
  · simp only [Except.bind_eq_ok] at h
    obtain ⟨_, -, _, -, _, -, _, -, _, -, modeInputs, hmode, hret⟩ := h
    cases hret
    refine Integration.lookup_compactAccountInputs ?_
    simp only [List.forall_mem_append]
    refine ⟨⟨?_, ?_⟩, ?_⟩
    · simp [commonAccountInputs]
    · unfold tokenAccountInputs
      split <;> simp
    · unfold modeAccountInputs at hmode
      dsimp only at hmode
      split at hmode <;> cases hmode
      · simp
      · simp [delegatedAccountInputs]
      · simp [trilateralAccountInputs]

/-- **The accounts of a settlement resolve.** -/
theorem resolveAccounts_settlement {client : ChanceryClient} (hdeployed : Deployed client)
    {resolution : SettlementResolution} {instructionAccounts : InstructionAccountInputs}
    (h : buildInstructionAccounts resolution = .ok instructionAccounts) (instructionName : String)
    (argumentValues : StructValues) :
    ∃ accounts, resolveAccounts client instructionName
      (settlementSchema resolution.request.action resolution.request.mode) argumentValues
      instructionAccounts true = .ok accounts := by
  refine resolveAccounts_verified (settlementSchema_names _ _) fun accountSchema haccount => ?_
  have hsettles := settlementSchema_settles _ _ accountSchema haccount
  rw [InstructionAccountSchema.settles, Bool.and_eq_true] at hsettles
  obtain ⟨hdefault, hpda⟩ := hsettles
  obtain ⟨address, haddress⟩ : ∃ address,
      givenAddress client instructionAccounts accountSchema = .ok (some address) := by
    unfold givenAddress
    cases hlookup : instructionAccounts.lookup accountSchema.name with
    | some address => exact ⟨address, rfl⟩
    | none =>
      unfold defaultAccountAddress
      cases hkind : accountSchema.default with
      | none =>
        rw [hkind] at hdefault
        obtain ⟨address, hgiven⟩ := buildInstructionAccounts_named h accountSchema.name
          (List.contains_iff_mem.1 hdefault)
        rw [hgiven] at hlookup
        cases hlookup
      | some kind =>
        cases kind with
        | knownPda name =>
          rw [hkind] at hdefault
          obtain ⟨address, hknown⟩ := hdeployed.knownPda (List.contains_iff_mem.1 hdefault)
          dsimp only
          rw [hknown]
          exact ⟨address, rfl⟩
        | programAddress => exact ⟨_, rfl⟩
        | systemProgram => exact ⟨_, rfl⟩
        | zeroAddress => exact ⟨_, rfl⟩
  refine ⟨address, haddress, fun seeds hseeds known => ?_⟩
  split at hpda
  · rename_i hnone
    rw [hnone] at hseeds
    cases hseeds
  · rename_i seed name hseed hkind
    rw [hseed] at hseeds
    cases hseeds
    simp only [Bool.and_eq_true, beq_iff_eq] at hpda
    obtain ⟨⟨rfl, hname⟩, rfl⟩ := hpda
    obtain ⟨known, hknown, hderived⟩ := hdeployed.moduleActivationState
    rw [givenAddress, hname, buildInstructionAccounts_activation h] at haddress
    simp only [defaultAccountAddress, hkind, hknown] at haddress
    cases haddress
    exact hderived _ _ _
  · cases hpda

/-! ## Data of a settlement -/

theorem encode_intent (L : Language) (action : SettlementAction) {mode : SettlementMode}
    (hmode : mode ≠ .direct) {intentId pathwayId : Bytes} (hintentId : intentId.length = 32)
    (hpathwayId : pathwayId.length = 32) :
    ∃ data, encodeInstructionDataWith L.dialect (settlementInstructionName action mode)
      [("intent_id", .bytes intentId), ("pathway_id", .bytes pathwayId)] = .ok data := by
  have hargs : (settlementSchema action mode).args =
      [("intent_id", .array .u8 32), ("pathway_id", .array .u8 32)] := by
    cases mode with
    | direct => exact absurd rfl hmode
    | delegated => cases action <;> rfl
    | trilateral => cases action <;> rfl
  refine ⟨_, Except.bind_eq_ok.2 ⟨_, getInstructionSchema_settlement action mode,
    Except.bind_eq_ok.2 ⟨intentId ++ (pathwayId ++ []), ?_, rfl⟩⟩⟩
  rw [hargs]
  apply Integration.encodeStruct_cons
  · exact List.lookup_cons_self
  · exact Value.noConfusion
  · exact Integration.encodeType_pathwayId _ hintentId _
  apply Integration.encodeStruct_cons
  · rfl
  · exact Value.noConfusion
  · exact Integration.encodeType_pathwayId _ hpathwayId _
  · rw [encodeStructWith]

/-- **The data of a direct settlement** exists when both amounts are words. -/
theorem encode_direct_iff (L : Language) (action : SettlementAction) {pathwayId : Bytes}
    (hlength : pathwayId.length = 32) {amount minimumOutput : Int} :
    (∃ data, encodeInstructionDataWith L.dialect (action.text ++ "_direct")
        [("pathway_id", .bytes pathwayId), (intentAmountField action, .bigint amount),
          (intentMinimumField action, .bigint minimumOutput)] = .ok data) ↔
      (0 ≤ amount ∧ amount < 2 ^ 64) ∧ 0 ≤ minimumOutput ∧ minimumOutput < 2 ^ 64 := by
  constructor
  · rintro ⟨data, hdata⟩
    obtain ⟨hamount, hminimum, -⟩ :=
      Integration.encode_direct_inv L action ⟨pathwayId, hlength⟩ hdata
    exact ⟨hamount, hminimum⟩
  · rintro ⟨hamount, hminimum⟩
    exact ⟨_, Integration.encode_settlementArguments L action ⟨pathwayId, hlength⟩ hamount hminimum⟩

/-! ## Requests and balances -/

theorem bytes32FromInput_length {L : Language} {input : Bytes32Input} {label : String}
    {bytes : Bytes} (h : bytes32FromInput L input label = .ok bytes) : bytes.length = 32 := by
  unfold bytes32FromInput at h
  split at h
  · split_ifs at h with hlength
    cases h
    exact not_not.1 hlength
  · split_ifs at h with hlength
    cases h
    exact not_not.1 hlength
  · obtain ⟨identifier, -, h⟩ := Except.bind_eq_ok.1 h
    split_ifs at h with hlength
    cases h
    exact not_not.1 hlength

/-- What a normalised request keeps of the request. -/
structure Normalizes (request : SettlementOperationRequest)
    (normalized : NormalizedSettlementOperationRequest) : Prop where
  action : normalized.action = request.action
  mode : normalized.mode = request.mode
  amount : normalized.amount = request.amount
  minimumOutput : normalized.minimumOutput = request.minimumOutput
  nonneg : ∀ minimum, request.minimumOutput = some minimum → 0 ≤ minimum
  intentId : ∀ bytes, normalized.intentId = some bytes → bytes.length = 32

theorem normalizeRequest_ok {L : Language} {request : SettlementOperationRequest}
    {observedUnixTimestamp : Int} {normalized : NormalizedSettlementOperationRequest}
    (h : normalizeRequest L request observedUnixTimestamp = .ok normalized) :
    Normalizes request normalized := by
  simp only [normalizeRequest, Except.bind_eq_ok] at h
  obtain ⟨_, -, _, hminimum, _, -, _, -, _, -, intentId, hintentId, _, -, _, -, _, -, _, -, _, -,
    _, -, hret⟩ := h
  cases hret
  rw [rejectWhen_ok] at hminimum
  refine ⟨rfl, rfl, rfl, rfl, fun minimum hsome => ?_, fun bytes hsome => ?_⟩
  · rw [hsome, isNegative, Option.any_some, decide_eq_true_eq] at hminimum
    exact Int.not_lt.1 hminimum
  · have hsome : intentId = some bytes := hsome
    subst hsome
    cases hinput : request.intentId with
    | none =>
      rw [hinput] at hintentId
      cases hintentId
    | some input =>
      rw [hinput] at hintentId
      obtain ⟨read, hread, hret⟩ := Except.bind_eq_ok.1 hintentId
      cases hret
      exact bytes32FromInput_length hread

/-- A balance that has been read is a word. -/
def TokenAccountSnapshot.IsWord (snapshot : TokenAccountSnapshot) : Prop :=
  ∀ values, snapshot.values = some values → values.amount < 2 ^ 64

theorem decodeTokenAccount_amount {data : Bytes} {values : DecodedTokenAccount}
    (h : decodeTokenAccount data = .ok values) : values.amount < 2 ^ 64 := by
  unfold decodeTokenAccount at h
  dsimp only at h
  split_ifs at h
  simp only [Except.bind_eq_ok] at h
  obtain ⟨_, -, _, -, amount, hamount, _, -, _, -, _, -, _, -, hret⟩ := h
  cases hret
  obtain ⟨hfits, rfl⟩ := readUnsignedLittleEndian_ok.1 hamount
  have hlt := LittleEndian.ofBytes_lt ((data.drop 64).take 8)
  have hlength : ((data.drop 64).take 8).length = 8 := by
    rw [List.length_take, List.length_drop]
    omega
  rwa [hlength] at hlt

theorem tokenAccountSnapshot_isWord {address owner mint tokenProgramAddress : PublicKey}
    {selection : TokenAccountSelection} {allowMissing : Bool} {account : Option RpcAccountInfo}
    {snapshot : TokenAccountSnapshot}
    (h : tokenAccountSnapshot address owner mint tokenProgramAddress selection allowMissing
      account = .ok snapshot) : snapshot.IsWord := by
  intro values hvalues
  cases account with
  | none =>
    rw [tokenAccountSnapshot] at h
    split_ifs at h
    cases h
    cases hvalues
  | some account =>
    obtain ⟨_, -, h⟩ := Except.bind_eq_ok.1 h
    obtain ⟨decoded, hdecoded, h⟩ := Except.bind_eq_ok.1 h
    obtain ⟨_, -, hret⟩ := Except.bind_eq_ok.1 h
    cases hret
    cases hvalues
    exact decodeTokenAccount_amount hdecoded

variable {client : ChanceryClient}

theorem loadTokenAccountAtAddress_isWord {address owner mint tokenProgramAddress : PublicKey}
    {selection : TokenAccountSelection} {allowMissing : Bool} {snapshot : TokenAccountSnapshot}
    (h : (loadTokenAccountAtAddress client address owner mint tokenProgramAddress selection
      allowMissing).Yields (.ok snapshot)) : snapshot.IsWord := by
  obtain ⟨account, -, h⟩ := Interaction.yields_bind.1 h
  exact tokenAccountSnapshot_isWord (Interaction.yields_done.1 h)

theorem ownerAccountMatch_isWord {input : TokenAccountResolutionInput}
    {account : RpcAddressAccountInfo} {snapshot : TokenAccountSnapshot}
    (h : ownerAccountMatch input account = some snapshot) : snapshot.IsWord := by
  unfold ownerAccountMatch at h
  split_ifs at h
  split at h
  · cases h
  · rename_i decoded hdecoded
    split at h
    · cases h
    · cases h
      intro values hvalues
      cases hvalues
      exact decodeTokenAccount_amount hdecoded

theorem uniqueOwnerAccount_isWord {input : TokenAccountResolutionInput}
    {associatedAddress : PublicKey} {ownerAccounts : List RpcAddressAccountInfo}
    {snapshot : TokenAccountSnapshot}
    (h : uniqueOwnerAccount input associatedAddress ownerAccounts = .ok snapshot) :
    snapshot.IsWord := by
  unfold uniqueOwnerAccount at h
  split at h
  · rename_i found hmatches
    cases h
    have hmem : snapshot ∈ ownerAccounts.filterMap (ownerAccountMatch input) := by
      rw [hmatches]
      exact List.mem_cons_self
    obtain ⟨account, -, hmatch⟩ := List.mem_filterMap.1 hmem
    exact ownerAccountMatch_isWord hmatch
  · cases h
  · split_ifs at h
    cases h
    intro values hvalues
    cases hvalues

theorem resolveTokenAccount_isWord {input : TokenAccountResolutionInput}
    {snapshot : TokenAccountSnapshot}
    (h : (resolveTokenAccount client input).Yields (.ok snapshot)) : snapshot.IsWord := by
  unfold resolveTokenAccount at h
  split at h
  · exact loadTokenAccountAtAddress_isWord h
  · obtain ⟨associated, -, h⟩ := Interaction.yields_bind.1 h
    obtain ⟨found, hfound, h⟩ := Interaction.yields_bind.1 h
    split_ifs at h
    · cases Interaction.yields_done.1 h
      exact loadTokenAccountAtAddress_isWord hfound
    · obtain ⟨ownerAccounts, -, h⟩ := Interaction.yields_bind.1 h
      exact uniqueOwnerAccount_isWord (Interaction.yields_done.1 h)

theorem resolveTokenAccounts_isWord {request : NormalizedSettlementOperationRequest}
    {identity : OperationIdentity} {core : CoreResolution} {feeQuote : FeeQuote}
    {tokenAccounts : TokenAccounts}
    (h : (resolveTokenAccounts client request identity core feeQuote).Yields (.ok tokenAccounts)) :
    tokenAccounts.source.IsWord ∧ tokenAccounts.reserve.IsWord := by
  simp only [resolveTokenAccounts, Interaction.yields_bind] at h
  obtain ⟨_, -, source, hsource, _, -, reserve, hreserve, _, -, h⟩ := h
  cases Interaction.yields_done.1 h
  exact ⟨resolveTokenAccount_isWord hsource, loadTokenAccountAtAddress_isWord hreserve⟩

/-! ## Ready inspections -/

/-- The quote of the accounts that an inspection has observed. -/
def observedQuote (client : ChanceryClient) (requestInput : SettlementOperationRequest)
    (inspection : SettlementInspection) : Except String SettlementEffectiveQuoteResolution :=
  computeSettlementEffectiveQuote client.language requestInput.action
    (requestInput.amount.getD 0) (inspection.coreAccounts.assetConfig.values.getD [])
    inspection.tokenMints.asset.values (inspection.policies.feePolicy.bind (·.values))
    inspection.request.nowUnixTimestamp inspection.observation.epoch

/-- The minimum of a direct mint is a word: the one asked for or, without one, the amount that the
observed accounts promise. -/
def MinimumFits (client : ChanceryClient) (requestInput : SettlementOperationRequest)
    (inspection : SettlementInspection) : Prop :=
  requestInput.mode = .direct → requestInput.action = .mint →
    match requestInput.minimumOutput with
    | some minimum => minimum < 2 ^ 64
    | none => ∀ quote, observedQuote client requestInput inspection = .ok quote →
        quote.effectiveQuote.principalReceivedAmount < 2 ^ 64

/-- What a ready inspection says of its amounts. -/
structure ReadyAmounts (client : ChanceryClient) (requestInput : SettlementOperationRequest)
    (resolution : SettlementResolution) : Prop where
  request : Normalizes requestInput resolution.request
  input : resolution.identity.inputAmount < 2 ^ 64
  minimum : resolution.request.mode = .direct → 0 ≤ resolution.quote.minimumOutput ∧
    (resolution.request.action = .redeem → resolution.quote.minimumOutput < 2 ^ 64)

theorem directIdentity_of_yields {request : NormalizedSettlementOperationRequest}
    {identity : OperationIdentity} (hmode : request.mode = .direct)
    (h : (resolveOperationIdentity client request).Yields (.ok identity)) :
    request.amount = some identity.inputAmount ∧ 0 < identity.inputAmount ∧
      identity.intentMinimumOutput = none := by
  unfold resolveOperationIdentity at h
  rw [hmode] at h
  have hdirect := Interaction.yields_done.1 h
  unfold directIdentity at hdirect
  cases hamount : request.amount with
  | none =>
    rw [hamount] at hdirect
    cases hdirect
  | some amount =>
    rw [hamount] at hdirect
    dsimp only at hdirect
    split_ifs at hdirect with hpositive
    rw [← Except.ok.inj hdirect]
    exact ⟨rfl, Int.not_le.1 hpositive, rfl⟩

theorem resolveOperationIdentity_intentId {request : NormalizedSettlementOperationRequest}
    {identity : OperationIdentity} (hmode : request.mode ≠ .direct)
    (h : (resolveOperationIdentity client request).Yields (.ok identity)) :
    identity.intentId = request.intentId := by
  unfold resolveOperationIdentity at h
  split at h
  · exact absurd ‹_› hmode
  · cases Interaction.yields_done.1 h
  · rename_i hintentId _
    simp only [intentIdentity, Interaction.yields_bind] at h
    obtain ⟨_, -, _, -, _, -, _, -, _, -, _, -, h⟩ := h
    cases Interaction.yields_done.1 h
    exact hintentId.symm

theorem readyAmounts_of_unblocked {requestInput : SettlementOperationRequest} {clock : RpcClock}
    {resolution : SettlementResolution} (h : Resolved client requestInput clock resolution)
    (hnil : Unblocked resolution) : ReadyAmounts client requestInput resolution := by
  obtain ⟨hsource, hreserve⟩ := resolveTokenAccounts_isWord h.tokenAccounts
  obtain ⟨hquote, hminimum, amountIssues, hamount, hissues⟩ := resolveQuote_ok h.quote
  have htokens := hnil.tokenAccounts
  simp only [tokenAccountIssues, validateTokenAccounts, List.append_eq_nil_iff] at htokens
  obtain ⟨⟨⟨hsourceIssues, -⟩, hreserveIssues⟩, -⟩ := htokens
  have hrequest := normalizeRequest_ok h.request
  refine ⟨hrequest, ?_, fun hmode => ?_⟩
  · unfold sourceIssues at hsourceIssues
    split at hsourceIssues
    · cases hsourceIssues
    · rename_i values hvalues
      have hword := hsource values hvalues
      have hcovers := Int.not_lt.1 (issueWhen_eq_nil.1 hsourceIssues)
      omega
  · obtain ⟨-, -, hintent⟩ := directIdentity_of_yields hmode h.identity
    obtain ⟨_, _, -, -, hfee, houtput, hnonneg, hle⟩ := computeSettlementEffectiveQuote_ok hquote
    have hselect : resolution.quote.minimumOutput = resolution.request.minimumOutput.getD
        resolution.quote.quote.effectiveQuote.principalReceivedAmount := by
      rw [hminimum, selectMinimumOutput, hintent, Option.or_none]
    refine ⟨?_, fun haction => ?_⟩
    · rw [hselect, hrequest.minimumOutput]
      cases hasked : requestInput.minimumOutput with
      | none => exact hnonneg
      | some minimum => exact hrequest.nonneg minimum hasked
    · have hquoteIssues := hnil.quote
      rw [hissues, List.append_eq_nil_iff, List.append_eq_nil_iff] at hquoteIssues
      rw [hquoteIssues.1.2] at hamount
      have hreceived := validateAmount_ok hamount
      have hnetFee := (computeFeeQuote_ok hfee).1
      unfold reserveIssues at hreserveIssues
      split at hreserveIssues
      · cases hreserveIssues
      · rename_i values hvalues
        have hword := hreserve values hvalues
        have hcovers := issueWhen_eq_nil.1 hreserveIssues
        rw [haction] at hcovers
        simp only [requiredReserveBalance, true_and, Int.not_lt] at hcovers
        split_ifs at hcovers <;> omega

theorem buildInstruction_iff (hdeployed : Deployed client) {resolution : SettlementResolution}
    {instructionArguments : StructValues} {instructionAccounts : InstructionAccountInputs}
    (haccounts : buildInstructionAccounts resolution = .ok instructionAccounts)
    (hready : (inspectionOf resolution instructionArguments instructionAccounts).ready = true) :
    (∃ instruction, buildInstruction client
        (inspectionOf resolution instructionArguments instructionAccounts) = .ok instruction) ↔
      ∃ data, encodeInstructionDataWith client.language.dialect
        (settlementInstructionName resolution.request.action resolution.request.mode)
        instructionArguments = .ok data := by
  have hschema := getInstructionSchema_settlement resolution.request.action resolution.request.mode
  constructor
  · rintro ⟨instruction, hinstruction⟩
    obtain ⟨_, -, hbuilt⟩ := Except.bind_eq_ok.1 hinstruction
    exact ⟨instruction.data, (Integration.buildChanceryInstruction_inv hschema hbuilt).2.2⟩
  · rintro ⟨data, hdata⟩
    obtain ⟨accounts, hresolved⟩ := resolveAccounts_settlement hdeployed haccounts
      (settlementInstructionName resolution.request.action resolution.request.mode)
      instructionArguments
    exact ⟨_, Except.bind_eq_ok.2 ⟨(), rejectWhen_ok.2 (by rw [hready]; decide),
      Except.bind_eq_ok.2 ⟨accounts, Except.bind_eq_ok.2 ⟨_, hschema, hresolved⟩,
        Except.bind_eq_ok.2 ⟨data, hdata, rfl⟩⟩⟩⟩

/-- The quote of the observed accounts is the one of the resolution. -/
theorem observedQuote_eq {requestInput : SettlementOperationRequest} {clock : RpcClock}
    {resolution : SettlementResolution} (h : Resolved client requestInput clock resolution)
    (hmode : resolution.request.mode = .direct) (instructionArguments : StructValues)
    (instructionAccounts : InstructionAccountInputs) :
    observedQuote client requestInput
      (inspectionOf resolution instructionArguments instructionAccounts) =
        .ok resolution.quote.quote := by
  obtain ⟨hquote, -⟩ := resolveQuote_ok h.quote
  have hrequest := normalizeRequest_ok h.request
  obtain ⟨hamount, -⟩ := directIdentity_of_yields hmode h.identity
  rw [hrequest.amount] at hamount
  rw [hrequest.action] at hquote
  rw [← hquote, observedQuote, hamount]
  have hasset : (inspectionOf resolution instructionArguments
      instructionAccounts).coreAccounts.assetConfig.values = some resolution.core.assetValues :=
    resolveCore_assetValues h.core
  rw [hasset]
  rfl

/-- **When a ready inspection builds**: always, unless the minimum of a direct mint is no word. -/
theorem readyBuilds_iff {target : ChanceryTarget} (client : ChanceryClient)
    (hplatform : client.sha256 = platformSha256)
    (hdeployment : loadSchema platformSha256 target = .ok client.deployment)
    (requestInput : SettlementOperationRequest) (inspection : SettlementInspection)
    (h : (inspect client requestInput).Yields (.ok inspection)) (hready : inspection.ready = true) :
    (∃ instruction, buildInstruction client inspection = .ok instruction) ↔
      MinimumFits client requestInput inspection := by
  obtain ⟨clock, resolution, hresolved, hassemble, hnil⟩ := ready_resolution h hready
  obtain ⟨hrequest, hinput, hminimum⟩ :=
    readyAmounts_of_unblocked hresolved (unblocked_of_nil hnil)
  obtain ⟨instructionArguments, instructionAccounts, harguments, haccounts, rfl⟩ :=
    assembleInspection_ok.1 hassemble
  rw [buildInstruction_iff ⟨hplatform, target, hdeployment⟩ haccounts hready]
  obtain ⟨pathwayId, hpathwayId⟩ := selectPathway_pathwayId hresolved.pathway
  have hlength := requireBytes_length hpathwayId
  by_cases hmode : resolution.request.mode = .direct
  · rw [buildInstructionArguments_direct hmode hpathwayId] at harguments
    cases harguments
    have hname : settlementInstructionName resolution.request.action resolution.request.mode =
        resolution.request.action.text ++ "_direct" := by
      rw [hmode]
      cases resolution.request.action <;> decide
    obtain ⟨hamount, hpositive, hintent⟩ := directIdentity_of_yields hmode hresolved.identity
    obtain ⟨hnonneg, hredeem⟩ := hminimum hmode
    rw [hname, encode_direct_iff _ _ hlength]
    have hwords : ((0 ≤ resolution.identity.inputAmount ∧
          resolution.identity.inputAmount < 2 ^ 64) ∧ 0 ≤ resolution.quote.minimumOutput ∧
            resolution.quote.minimumOutput < 2 ^ 64) ↔ resolution.quote.minimumOutput < 2 ^ 64 :=
      ⟨fun hall => hall.2.2, fun hlt => ⟨⟨hpositive.le, hinput⟩, hnonneg, hlt⟩⟩
    have hselect : resolution.quote.minimumOutput = requestInput.minimumOutput.getD
        resolution.quote.quote.effectiveQuote.principalReceivedAmount := by
      rw [(resolveQuote_ok hresolved.quote).2.1, selectMinimumOutput, hintent, Option.or_none,
        hrequest.minimumOutput]
    have hobserved := observedQuote_eq hresolved hmode
      [("pathway_id", .bytes pathwayId),
        (intentAmountField resolution.request.action, .bigint resolution.identity.inputAmount),
        (intentMinimumField resolution.request.action, .bigint resolution.quote.minimumOutput)]
      instructionAccounts
    rw [hwords]
    constructor
    · intro hlt _ _
      cases hasked : requestInput.minimumOutput with
      | some minimum =>
        rw [hselect, hasked] at hlt
        exact hlt
      | none =>
        rw [hselect, hasked] at hlt
        intro quote hquote
        cases (hobserved.symm.trans hquote)
        exact hlt
    · intro hfits
      cases haction : resolution.request.action with
      | redeem => exact hredeem haction
      | mint =>
        have hfits := hfits (hrequest.mode ▸ hmode) (hrequest.action ▸ haction)
        rw [hselect]
        cases hasked : requestInput.minimumOutput with
        | some minimum =>
          rw [hasked] at hfits
          exact hfits
        | none =>
          rw [hasked] at hfits
          exact hfits _ hobserved
  · obtain ⟨intent, intentValues, minimumOutput, hfrom⟩ :=
      resolveOperationIdentity_fromIntent hmode hresolved.identity
    obtain ⟨intentId, hintentId⟩ := Option.isSome_iff_exists.1 hfrom.intentId
    rw [buildInstructionArguments_intent hmode hintentId hpathwayId] at harguments
    cases harguments
    have hintentLength : intentId.length = 32 :=
      hrequest.intentId intentId
        ((resolveOperationIdentity_intentId hmode hresolved.identity).symm.trans hintentId)
    refine ⟨fun _ hdirect => absurd (hrequest.mode.trans hdirect) hmode, fun _ => ?_⟩
    exact encode_intent _ _ hmode hintentLength hlength

theorem readyBuilds_iff_tinyMint :
    ∃ inspection, (inspect (Sample.client .typescript) (Sample.directMint 1)).Yields
        (.ok inspection) ∧ inspection.ready = true ∧
      ((∃ instruction, buildInstruction (Sample.client .typescript) inspection = .ok instruction) ↔
        MinimumFits (Sample.client .typescript) (Sample.directMint 1) inspection) := by
  obtain ⟨inspection, hyields, hready, -, -⟩ := tinyMint_run
  have hdeployment : loadSchema platformSha256 .mainnet =
      .ok (Sample.client .typescript).deployment := rfl
  exact ⟨inspection, hyields, hready,
    readyBuilds_iff _ rfl hdeployment _ inspection hyields hready⟩

/-- A ready inspection of a deposit at the highest rate, which cannot be built. -/
theorem richMint_unbuildable :
    ∃ inspection, (inspect (Sample.client .typescript) (Sample.directMint (2 ^ 40))).Yields
        (.ok inspection) ∧ inspection.ready = true ∧
      ¬ ∃ instruction, buildInstruction (Sample.client .typescript) inspection =
        .ok instruction := by
  have hrun : ((inspect (Sample.client .typescript) (Sample.directMint (2 ^ 40))).run
      (Sample.directMarket 100 (2 ^ 64 - 1) (2 ^ 40)).respond).toOption.any (fun inspection =>
        inspection.ready &&
          (buildInstruction (Sample.client .typescript) inspection).toOption.isNone) = true := by
    decide +kernel
  obtain ⟨inspection, hyields, hfacts⟩ := Interaction.yields_of_check hrun
  rw [Bool.and_eq_true] at hfacts
  refine ⟨inspection, hyields, hfacts.1, ?_⟩
  rintro ⟨instruction, hinstruction⟩
  rw [hinstruction] at hfacts
  cases hfacts.2

end Chancery
