import Chancery.Chain
import Chancery.DiscoveryLaws
import Chancery.InspectionLaws
import Chancery.InstructionAccountLaws
import Chancery.OperationExport

/-!
# Exported documents and the instructions that are built of them

* `Position.Exports` — the text of a position is the one of the account of the same name;
  `exports_texts`.
* `InspectsDirect` — what an inspection of a direct settlement holds; `inspectsDirect_of_yields`.
* `operationJson_read` — what is written is what is read.
* `SchemaLayout.rebuilds` — either document is rebuilt; `directOperationDocument_rebuilds`.
-/

set_option autoImplicit false

namespace Chancery.Integration

/-! ## Texts of arguments -/

theorem decimalValue_eq_ofDigitChars (text : List Char) :
    decimalValue (text.map fun c => c.toNat - '0'.toNat) = Nat.ofDigitChars 10 text 0 := by
  rw [decimalValue, List.foldl_map, Nat.ofDigitChars_eq_foldl]
  congr 1
  funext sofar c
  rw [Nat.mul_comm]

theorem readsU64_toString {n : Int} (hnonneg : 0 ≤ n) (hlt : n < 2 ^ 64) :
    ReadsU64 (toString n) (UInt64.ofNat n.toNat) := by
  obtain ⟨m, rfl⟩ := Int.eq_ofNat_of_zero_le hnonneg
  have htext : (toString (m : Int)).toList = Nat.toDigits 10 m := Nat.toList_repr
  have hword : (UInt64.ofNat m).toNat = m := UInt64.toNat_ofNat_of_lt' (by
    rw [UInt64.size]
    omega)
  constructor
  · rw [isUnsignedDecimal, htext, Bool.and_eq_true, List.all_eq_true]
    refine ⟨?_, fun c hc => Nat.isDigit_of_mem_toDigits (by decide) (by decide) hc⟩
    cases hdigits : Nat.toDigits 10 m with
    | nil => exact absurd hdigits Nat.toDigits_ne_nil
    | cons _ _ => rfl
  · rw [decimalDigits, htext, decimalValue_eq_ofDigitChars, Nat.ofDigitChars_ten_toDigits,
      Int.toNat_natCast, hword]

theorem length_hexCharacters (bytes : Bytes) : (hexCharacters bytes).length = 2 * bytes.length := by
  simp [hexCharacters, Nat.mul_comm]

theorem readsPathwayId_bytesToHex {pathwayId : Bytes} (hlength : pathwayId.length = 32) :
    ReadsPathwayId ("0x" ++ bytesToHex pathwayId) pathwayId := by
  have hnormalized : normalizedPathwayId ("0x" ++ bytesToHex pathwayId) = bytesToHex pathwayId := by
    have hstarts : ("0x" ++ bytesToHex pathwayId).startsWith "0x" = true :=
      String.startsWith_string_iff.2 ⟨_, String.toList_append.symm⟩
    rw [normalizedPathwayId, if_pos hstarts, dropPrefix, String.toList_append]
    exact String.ofList_toList
  have hcharacters : (bytesToHex pathwayId).toList = hexCharacters pathwayId :=
    String.toList_ofList
  rw [ReadsPathwayId, hnormalized, hcharacters, isPathwayPattern, hcharacters,
    hexPairs_hexCharacters]
  refine ⟨Bool.and_eq_true_iff.2 ⟨?_, ?_⟩, rfl⟩
  · rw [beq_iff_eq, length_hexCharacters, hlength]
  · exact List.all_eq_true.2 (Rust.digits_of_hexPairs (hexPairs_hexCharacters pathwayId))

/-! ## What is exported -/

theorem zeroAddress_toBase58 : zeroAddress.toBase58 = defaultPublicKey := by decide +kernel

/-- The accounts that both documents have in common, by field. -/
def CommonDocumentAccounts.entries (accounts : CommonDocumentAccounts) : List (String × String) :=
  [("moduleActivationState", accounts.moduleActivationState),
   ("chanceryConfig", accounts.chanceryConfig), ("eventAuthority", accounts.eventAuthority),
   ("pauseState", accounts.pauseState), ("assetConfig", accounts.assetConfig),
   ("pathwayPolicy", accounts.pathwayPolicy), ("permissionRecord", accounts.permissionRecord),
   ("reserveAssetTokenAccount", accounts.reserveAssetTokenAccount),
   ("assetMint", accounts.assetMint), ("issuedTokenMint", accounts.issuedTokenMint),
   ("assetTokenProgram", accounts.assetTokenProgram),
   ("issuedTokenProgram", accounts.issuedTokenProgram), ("principal", accounts.principal),
   ("assetPauseState", accounts.assetPauseState),
   ("issuedTokenControl", accounts.issuedTokenControl)]

/-- The text of a position is the one of the account of the same name. -/
def Position.Exports (instruction : ChanceryInstruction) : Position String → Prop
  | .required name text _ _ => documentAddress instruction (snakeCase name) = .ok text
  | .optional name text _ => documentPolicyAddress instruction (snakeCase name) = .ok text

section

variable {instruction : ChanceryInstruction}

theorem documentAddress_ok {name text : String} (h : documentAddress instruction name = .ok text) :
    ∃ account ∈ instruction.accounts, account.name = name ∧ account.address.toBase58 = text := by
  unfold documentAddress at h
  cases hfind : instruction.accounts.find? (·.name = name) with
  | none =>
    rw [hfind] at h
    cases h
  | some account =>
    rw [hfind] at h
    cases h
    exact ⟨account, List.mem_of_find?_eq_some hfind, by simpa using List.find?_some hfind, rfl⟩

theorem documentPolicyAddress_ok {name : String} {text : Option String}
    (h : documentPolicyAddress instruction name = .ok text) :
    ∃ account ∈ instruction.accounts, account.name = name ∧
      text = if account.address = zeroAddress then none else some account.address.toBase58 := by
  obtain ⟨value, hvalue, hret⟩ := Except.bind_eq_ok.1 h
  obtain ⟨account, hmem, hname, rfl⟩ := documentAddress_ok hvalue
  cases hret
  refine ⟨account, hmem, hname, ?_⟩
  by_cases hzero : account.address = zeroAddress
  · rw [if_pos hzero, hzero, if_pos rfl]
  · rw [if_neg hzero, if_neg fun heq => hzero (PublicKey.toBase58_injective heq)]

/-- **The account that stands behind a position.** -/
theorem Position.Exports.account {position : Position String}
    (h : position.Exports instruction) : ∃ account ∈ instruction.accounts,
      account.name = snakeCase position.name ∧
      position.spec.address = account.address.toBase58 ∧
      (position.address? = none → account.address = zeroAddress) ∧
      ∀ text, position.address? = some text → text = account.address.toBase58 := by
  cases position with
  | required name text isSigner isWritable =>
    obtain ⟨account, hmem, hname, rfl⟩ := documentAddress_ok h
    exact ⟨account, hmem, hname, rfl, (fun hnone => nomatch hnone),
      fun _ htext => (Option.some.inj htext).symm⟩
  | optional name text isWritable =>
    obtain ⟨account, hmem, hname, rfl⟩ := documentPolicyAddress_ok h
    refine ⟨account, hmem, hname, ?_⟩
    by_cases hzero : account.address = zeroAddress
    · simp [spec, address?, hzero, zeroAddress_toBase58]
    · simp [spec, address?, hzero]

theorem documentPolicyAccounts_ok {accounts : DirectSettlementPolicyAccounts String}
    (h : documentPolicyAccounts instruction = .ok accounts) :
    ∀ position ∈ policyPositions accounts, position.Exports instruction := by
  simp only [documentPolicyAccounts, Except.bind_eq_ok] at h
  obtain ⟨_, h1, _, h2, _, h3, _, h4, _, h5, _, h6, _, h7, _, h8, _, h9, _, h10, _, h11, _, h12,
    hret⟩ := h
  cases hret
  simp only [policyPositions, List.forall_mem_cons]
  exact ⟨h1, h2, h3, h4, h5, h6, h7, h8, h9, h10, h11, h12, List.forall_mem_nil _⟩

end

section

variable {instruction : ChanceryInstruction}

theorem commonDocumentAccounts_ok {common : CommonDocumentAccounts}
    (h : commonDocumentAccounts instruction = .ok common) :
    (∀ entry ∈ common.entries, documentAddress instruction (snakeCase entry.1) = .ok entry.2) ∧
      ∀ position ∈ policyPositions common.policyAccounts, position.Exports instruction := by
  simp only [commonDocumentAccounts, Except.bind_eq_ok] at h
  obtain ⟨_, h1, _, h2, _, h3, _, h4, _, h5, _, h6, _, h7, _, h8, _, h9, _, h10, _, h11, _, h12,
    _, h13, _, h14, _, h15, _, hpolicy, hret⟩ := h
  cases hret
  refine ⟨?_, documentPolicyAccounts_ok hpolicy⟩
  simp only [CommonDocumentAccounts.entries, List.forall_mem_cons]
  exact ⟨h1, h2, h3, h4, h5, h6, h7, h8, h9, h10, h11, h12, h13, h14, h15, List.forall_mem_nil _⟩

variable {common : CommonDocumentAccounts}
  (hcommon : commonDocumentAccounts instruction = .ok common)

include hcommon

theorem mintDocumentAccounts_ok {accounts : MintDirectAccounts String}
    (h : mintDocumentAccounts instruction common = .ok accounts) :
    ∀ position ∈ mintPositions accounts, position.Exports instruction := by
  obtain ⟨hentries, hpolicy⟩ := commonDocumentAccounts_ok hcommon
  simp only [mintDocumentAccounts, Except.bind_eq_ok] at h
  obtain ⟨_, hsource, _, hdestination, _, hauthority, hret⟩ := h
  cases hret
  rw [mintPositions, List.forall_mem_append]
  refine ⟨?_, hpolicy⟩
  simp only [CommonDocumentAccounts.entries, List.forall_mem_cons, Position.Exports]
    at hentries ⊢
  simp only [hentries, true_and]
  exact ⟨hsource, hdestination, hauthority, List.forall_mem_nil _⟩

theorem redeemDocumentAccounts_ok {accounts : RedeemDirectAccounts String}
    (h : redeemDocumentAccounts instruction common = .ok accounts) :
    ∀ position ∈ redeemPositions accounts, position.Exports instruction := by
  obtain ⟨hentries, hpolicy⟩ := commonDocumentAccounts_ok hcommon
  simp only [redeemDocumentAccounts, Except.bind_eq_ok] at h
  obtain ⟨_, hsource, _, hdestination, _, hauthority, hret⟩ := h
  cases hret
  rw [redeemPositions, List.forall_mem_append]
  refine ⟨?_, hpolicy⟩
  simp only [CommonDocumentAccounts.entries, List.forall_mem_cons, Position.Exports]
    at hentries ⊢
  simp only [hentries, true_and]
  exact ⟨hsource, hdestination, hauthority, List.forall_mem_nil _⟩

end

/-! ## Positions and resolved accounts -/

theorem Position.row_map {Address Address' : Type} (f : Address → Address')
    (position : Position Address) : (position.map f).row = position.row := by
  cases position <;> rfl

theorem accountMeta_flags {client : ChanceryClient} {schema : InstructionSchema}
    {argumentValues : StructValues} {instructionName : String} {verifyPdas : Bool}
    {resolved : ResolvedAddresses} {accountSchema : InstructionAccountSchema}
    {account : InstructionAccountMeta}
    (h : accountMeta client instructionName schema argumentValues verifyPdas resolved
      accountSchema = .ok account) :
    account.isSigner = accountSchema.signer ∧ account.isWritable = accountSchema.writable := by
  unfold accountMeta at h
  split at h
  · cases h
  · cases verifyPdas with
    | false =>
      cases h
      exact ⟨rfl, rfl⟩
    | true =>
      obtain ⟨_, -, hret⟩ := Except.bind_eq_ok.1 h
      cases hret
      exact ⟨rfl, rfl⟩

/-- An account as the texts of an instruction have it. -/
def accountTexts (account : InstructionAccountMeta) : String × Bool × Bool :=
  (account.address.toBase58, account.isSigner, account.isWritable)

def specTexts (spec : AccountMetaSpec) : String × Bool × Bool :=
  (spec.address, spec.isSigner, spec.isWritable)

/-- An account that stands at the place of its schema. -/
structure StandsAt (accountSchema : InstructionAccountSchema) (account : InstructionAccountMeta) :
    Prop where
  name : account.name = accountSchema.name
  isSigner : account.isSigner = accountSchema.signer
  isWritable : account.isWritable = accountSchema.writable

/-- Positions that are exported from accounts have the accounts' texts. -/
theorem specTexts_exports {instruction : ChanceryInstruction}
    (hnames : (instruction.accounts.map (·.name)).Nodup)
    {accountSchemas : List InstructionAccountSchema} {accounts : List InstructionAccountMeta}
    (hstands : List.Forall₂ StandsAt accountSchemas accounts)
    (hmem : ∀ account ∈ accounts, account ∈ instruction.accounts) :
    ∀ {positions : List (Position String)},
      accountSchemas.map accountRow = positions.map Position.row →
      (∀ position ∈ positions, position.Exports instruction) →
        positions.map (fun position => specTexts position.spec) = accounts.map accountTexts := by
  induction hstands with
  | nil =>
    intro positions hrows _
    rw [List.map_nil, eq_comm, List.map_eq_nil_iff] at hrows
    rw [hrows, List.map_nil, List.map_nil]
  | @cons accountSchema account accountSchemas accounts hhead _ ih =>
    intro positions hrows hexports
    cases positions with
    | nil => cases hrows
    | cons position positions =>
      rw [List.map_cons, List.map_cons, List.cons.injEq] at hrows
      rw [List.forall_mem_cons] at hexports hmem
      obtain ⟨hrow, hrows⟩ := hrows
      obtain ⟨other, hother, hname, haddress, -⟩ := hexports.1.account
      have hsame : other = account := by
        refine List.inj_on_of_nodup_map hnames hother hmem.1 ?_
        rw [hname, hhead.name, ← position.row_name, ← hrow, accountRow]
      have hwritable : accountSchema.writable = position.isWritable := by
        rw [← position.row_isWritable, ← hrow, accountRow]
      have hsigner : accountSchema.signer = position.isSigner := by
        rw [← position.row_isSigner, ← hrow, accountRow]
      rw [List.map_cons, List.map_cons, ih hmem.2 hrows hexports.2, specTexts, accountTexts,
        haddress, hsame, hhead.isSigner, hhead.isWritable, hwritable, hsigner]
      rfl

theorem resolveAccounts_standAt {client : ChanceryClient} {schema : InstructionSchema}
    {argumentValues : StructValues} {inputs : InstructionAccountInputs} {instructionName : String}
    {verifyPdas : Bool} {accounts : List InstructionAccountMeta}
    (h : resolveAccounts client instructionName schema argumentValues inputs verifyPdas =
      .ok accounts) :
    List.Forall₂ StandsAt schema.accounts accounts := by
  obtain ⟨given, -, h⟩ := Except.bind_eq_ok.1 h
  obtain ⟨resolved, -, h⟩ := Except.bind_eq_ok.1 h
  refine (Except.mapM_eq_ok.1 h).imp fun accountSchema account haccount => ?_
  obtain ⟨hsigner, hwritable⟩ := accountMeta_flags haccount
  exact ⟨(accountMeta_ok haccount).1, hsigner, hwritable⟩

theorem standAt_names {accountSchemas : List InstructionAccountSchema}
    {accounts : List InstructionAccountMeta} (h : List.Forall₂ StandsAt accountSchemas accounts) :
    accounts.map (·.name) = accountSchemas.map (·.name) := by
  induction h with
  | nil => rfl
  | cons hhead _ ih => rw [List.map_cons, List.map_cons, ih, hhead.name]

theorem eventProgram_derivable {client : ChanceryClient} {schema : InstructionSchema}
    {argumentValues : StructValues} {inputs : InstructionAccountInputs}
    (hnames : (schema.accounts.map (·.name)).Nodup)
    (hschema : eventProgramSchema ∈ schema.accounts) (hevent : inputs.lookup "event_program" = none)
    {address : PublicKey}
    (h : Derivable client schema argumentValues inputs eventProgramSchema.name address) :
    address = client.deployment.programAddress := by
  have hgiven : givenAddress client inputs eventProgramSchema =
      .ok (some client.deployment.programAddress) := by
    rw [givenAddress, eventProgramSchema, hevent]
    rfl
  generalize hname : eventProgramSchema.name = name at h
  cases h with
  | given hother haddress =>
    rw [← List.inj_on_of_nodup_map hnames hschema hother hname, hgiven] at haddress
    cases haddress
    rfl
  | derived hother haddress =>
    rw [← List.inj_on_of_nodup_map hnames hschema hother hname, hgiven] at haddress
    cases haddress

/-- **Exported positions and the accounts they were exported from** have the same texts; the event
program is the program itself. -/
theorem exports_texts {client : ChanceryClient} {schema : InstructionSchema}
    {argumentValues : StructValues} {inputs : InstructionAccountInputs} {instructionName : String}
    {verifyPdas : Bool} {instruction : ChanceryInstruction}
    (h : resolveAccounts client instructionName schema argumentValues inputs verifyPdas =
      .ok instruction.accounts)
    (hevent : inputs.lookup "event_program" = none) {positions : List (Position String)}
    (hdescribes : Describes schema (positions.map (.map keyOf)))
    (hexports : ∀ position ∈ positions, position.Exports instruction) :
    positions.map (fun position => specTexts position.spec) ++
        [(client.deployment.programAddress.toBase58, false, false)] =
      instruction.accounts.map accountTexts := by
  obtain ⟨accountSchemas, haccounts, hrows⟩ := hdescribes.accounts
  have hreturned := resolveAccounts_returns hdescribes.names h
  have hstands := resolveAccounts_standAt h
  have hnames : (instruction.accounts.map (·.name)).Nodup := by
    rw [standAt_names hstands]
    exact hdescribes.names
  have hrows : accountSchemas.map accountRow = positions.map Position.row := by
    rw [hrows, List.map_map]
    exact List.map_congr_left fun position _ => position.row_map keyOf
  rw [haccounts] at hstands
  have hflip := hstands.flip
  have hfirst := (List.forall₂_take_append _ _ _ hflip).flip
  have hlast := (List.forall₂_drop_append _ _ _ hflip).flip
  obtain ⟨eventProgram, _, hevents, hnil, hsplit⟩ := List.forall₂_cons_left_iff.1 hlast
  rw [List.forall₂_nil_left_iff] at hnil
  subst hnil
  have hall : instruction.accounts =
      instruction.accounts.take accountSchemas.length ++ [eventProgram] := by
    rw [← hsplit, List.take_append_drop]
  have hmem : eventProgram ∈ instruction.accounts := by
    rw [hall]
    exact List.mem_append_right _ List.mem_cons_self
  have haddress : eventProgram.address = client.deployment.programAddress := by
    have hderivable := hreturned.derivable eventProgram hmem
    rw [hevents.name] at hderivable
    exact eventProgram_derivable hdescribes.names (haccounts ▸ by simp) hevent hderivable
  have hothers := specTexts_exports hnames hfirst
    (fun account haccount => List.mem_of_mem_take haccount) hrows hexports
  rw [hothers, hall, List.map_append, ← hall, List.map_singleton, accountTexts, haddress,
    hevents.isSigner, hevents.isWritable]
  rfl

/-! ## The run -/

section

variable {client : ChanceryClient}

theorem lookup_compactAccountInputs {values : NamedAddresses} {name : String}
    (h : ∀ entry ∈ values, entry.1 ≠ name) : (compactAccountInputs values).lookup name = none := by
  rw [List.lookup_eq_none_iff]
  rintro ⟨other, address⟩ hmem
  obtain ⟨entry, hentry, hinput⟩ := List.mem_filterMap.1 hmem
  obtain ⟨_, _, heq⟩ := Option.map_eq_some_iff.1 hinput
  cases heq
  exact bne_iff_ne.2 fun heq => h entry hentry heq.symm

theorem buildInstructionAccounts_event {resolution : SettlementResolution}
    {instructionAccounts : InstructionAccountInputs}
    (h : buildInstructionAccounts resolution = .ok instructionAccounts) :
    instructionAccounts.lookup "event_program" = none := by
  unfold buildInstructionAccounts at h
  split at h
  · cases h
  · simp only [Except.bind_eq_ok] at h
    obtain ⟨_, -, _, -, _, -, _, -, _, -, modeInputs, hmode, hret⟩ := h
    cases hret
    refine lookup_compactAccountInputs ?_
    simp only [List.forall_mem_append]
    refine ⟨⟨?_, ?_⟩, ?_⟩
    · simp [commonAccountInputs]
    · unfold tokenAccountInputs
      split <;> simp
    · unfold modeAccountInputs at hmode
      dsimp only at hmode
      split at hmode <;> cases hmode
      · simp
      · simp [delegatedAccountInputs]
      · simp [trilateralAccountInputs]

/-- **What an inspection of a direct settlement holds.** -/
structure InspectsDirect (inspection : SettlementInspection) (pathwayId : Bytes) : Prop where
  length : pathwayId.length = 32
  name : inspection.instructionName = inspection.request.action.text ++ "_direct"
  arguments : inspection.instructionArguments = [("pathway_id", .bytes pathwayId),
    (intentAmountField inspection.request.action, .bigint inspection.amounts.inputAmount),
    (intentMinimumField inspection.request.action, .bigint inspection.amounts.minimumOutput)]
  positive : 0 < inspection.amounts.inputAmount
  event : inspection.instructionAccounts.lookup "event_program" = none

theorem inspectsDirect_of_yields {requestInput : SettlementOperationRequest}
    {inspection : SettlementInspection}
    (h : (inspect client requestInput).Yields (.ok inspection))
    (hmode : inspection.request.mode = .direct) :
    ∃ pathwayId, InspectsDirect inspection pathwayId := by
  obtain ⟨clock, hclock⟩ := inspect_yields h
  obtain ⟨resolution, hresolved, hassemble⟩ := inspectAt_yields hclock
  obtain ⟨instructionArguments, instructionAccounts, harguments, haccounts, rfl⟩ :=
    assembleInspection_ok.1 hassemble
  have hmode : resolution.request.mode = .direct := hmode
  obtain ⟨pathwayId, hpathwayId⟩ := selectPathway_pathwayId hresolved.pathway
  rw [buildInstructionArguments_direct hmode hpathwayId] at harguments
  refine ⟨pathwayId, requireBytes_length hpathwayId, ?_, (Except.ok.inj harguments).symm, ?_,
    buildInstructionAccounts_event haccounts⟩
  · show settlementInstructionName resolution.request.action resolution.request.mode =
      resolution.request.action.text ++ "_direct"
    rw [hmode]
    cases resolution.request.action <;> decide
  · show 0 < resolution.identity.inputAmount
    have hidentity := hresolved.identity
    unfold resolveOperationIdentity at hidentity
    rw [hmode] at hidentity
    have hdirect := Interaction.yields_done.1 hidentity
    unfold directIdentity at hdirect
    split at hdirect
    · cases hdirect
    · split_ifs at hdirect with hamount
      rw [← Except.ok.inj hdirect]
      exact Int.not_le.1 hamount

end

/-! ## The data -/

theorem encodeStruct_cons_inv (D : Dialect) {values : StructValues} {name label : String}
    {value : Value} {type : TypeSchema} {rest : Fields} {bytes : Bytes}
    (hlookup : values.lookup name = some value) (hvalue : value ≠ .undefined)
    (h : encodeStructWith D ((name, type) :: rest) values label false = .ok bytes) :
    ∃ encoded encodedRest, encodeTypeWith D type value s!"{label}.{name}" = .ok encoded ∧
      encodeStructWith D rest values label false = .ok encodedRest := by
  have hfield : fieldToEncode D false values name type label = .ok value := by
    rw [fieldToEncode, fieldValueOrPadding, D.fieldValue_lookup hlookup hvalue]
  rw [encodeStructWith, Except.bind_of_ok hfield] at h
  obtain ⟨encoded, hencoded, h⟩ := Except.bind_eq_ok.1 h
  obtain ⟨encodedRest, hrest, -⟩ := Except.bind_eq_ok.1 h
  exact ⟨encoded, encodedRest, hencoded, hrest⟩

theorem encodeType_u64_range (L : Language) {n : Int} {label : String} {bytes : Bytes}
    (h : encodeTypeWith L.dialect .u64 (.bigint n) label = .ok bytes) : 0 ≤ n ∧ n < 2 ^ 64 := by
  rw [encodeTypeWith, encodePrimitive] at h
  obtain ⟨m, hm, hnonneg, hlt, -⟩ := encodeUnsignedInteger_ok h
  cases L <;>
  · cases hm
    exact ⟨hnonneg, hlt⟩

/-- The amounts of a settlement that is encoded are words. -/
theorem encodeStruct_settlement_range (L : Language) {pathwayId : Bytes}
    {amountName minimumName : String} {amount minimumOutput : Int} {bytes : Bytes}
    (hamount : amountName ≠ "pathway_id") (hminimum : minimumName ≠ "pathway_id")
    (hdistinct : minimumName ≠ amountName) {label : String}
    (h : encodeStructWith L.dialect
      [("pathway_id", .array .u8 32), (amountName, .u64), (minimumName, .u64)]
      [("pathway_id", .bytes pathwayId), (amountName, .bigint amount),
        (minimumName, .bigint minimumOutput)] label false = .ok bytes) :
    (0 ≤ amount ∧ amount < 2 ^ 64) ∧ 0 ≤ minimumOutput ∧ minimumOutput < 2 ^ 64 := by
  obtain ⟨_, _, -, h⟩ := encodeStruct_cons_inv _ List.lookup_cons_self Value.noConfusion h
  obtain ⟨_, _, hfirst, h⟩ := encodeStruct_cons_inv _ (by
    rw [List.lookup_cons, beq_false_of_ne hamount]
    exact List.lookup_cons_self) Value.noConfusion h
  obtain ⟨_, _, hsecond, -⟩ := encodeStruct_cons_inv _ (by
    rw [List.lookup_cons, beq_false_of_ne hminimum, List.lookup_cons, beq_false_of_ne hdistinct]
    exact List.lookup_cons_self) Value.noConfusion h
  exact ⟨encodeType_u64_range L hfirst, encodeType_u64_range L hsecond⟩

/-- The arguments of a settlement whose amounts are words. -/
def settlementArguments (pathwayId : { bytes : Bytes // bytes.length = 32 })
    (amount minimumOutput : Int) : SettlementArguments :=
  ⟨pathwayId, UInt64.ofNat amount.toNat, UInt64.ofNat minimumOutput.toNat⟩

theorem wordValue {n : Int} (hnonneg : 0 ≤ n) (hlt : n < 2 ^ 64) :
    ((UInt64.ofNat n.toNat).toNat : Int) = n := by
  rw [UInt64.toNat_ofNat_of_lt' (by rw [UInt64.size]; omega)]
  exact Int.toNat_of_nonneg hnonneg

theorem word_ne_zero {n : Int} (hpositive : 0 < n) (hlt : n < 2 ^ 64) :
    UInt64.ofNat n.toNat ≠ 0 := by
  intro hzero
  have hvalue := wordValue hpositive.le hlt
  rw [hzero] at hvalue
  exact absurd hvalue hpositive.ne

theorem encode_settlementArguments (L : Language) (action : SettlementAction)
    (pathwayId : { bytes : Bytes // bytes.length = 32 }) {amount minimumOutput : Int}
    (hamount : 0 ≤ amount ∧ amount < 2 ^ 64)
    (hminimum : 0 ≤ minimumOutput ∧ minimumOutput < 2 ^ 64) :
    encodeInstructionDataWith L.dialect (action.text ++ "_direct")
        [("pathway_id", .bytes pathwayId.1), (intentAmountField action, .bigint amount),
          (intentMinimumField action, .bigint minimumOutput)] =
      .ok ((settlementArguments pathwayId amount minimumOutput).data
        (settlementSchema action .direct).discriminator) := by
  have hdata := encode_direct L action (settlementArguments pathwayId amount minimumOutput)
  rwa [SettlementArguments.values, settlementArguments, wordValue hamount.1 hamount.2,
    wordValue hminimum.1 hminimum.2] at hdata

/-- **The data of a direct settlement** is the one of arguments that are words. -/
theorem encode_direct_inv (L : Language) (action : SettlementAction)
    (pathwayId : { bytes : Bytes // bytes.length = 32 }) {amount minimumOutput : Int} {data : Bytes}
    (h : encodeInstructionDataWith L.dialect (action.text ++ "_direct")
      [("pathway_id", .bytes pathwayId.1), (intentAmountField action, .bigint amount),
        (intentMinimumField action, .bigint minimumOutput)] = .ok data) :
    (0 ≤ amount ∧ amount < 2 ^ 64) ∧ (0 ≤ minimumOutput ∧ minimumOutput < 2 ^ 64) ∧
      data = (settlementArguments pathwayId amount minimumOutput).data
        (settlementSchema action .direct).discriminator := by
  obtain ⟨hamountField, hminimumField, hdistinct⟩ := settlementFields_ne action
  have hencoded := h
  rw [encodeInstructionDataWith, Except.bind_of_ok (getInstructionSchema_direct action),
    settlementSchema_args] at hencoded
  obtain ⟨_, hstruct, -⟩ := Except.bind_eq_ok.1 hencoded
  obtain ⟨hamount, hminimum⟩ :=
    encodeStruct_settlement_range L hamountField hminimumField hdistinct hstruct
  exact ⟨hamount, hminimum, Except.ok.inj
    (h.symm.trans (encode_settlementArguments L action pathwayId hamount hminimum))⟩

/-! ## The written document -/

theorem Document.get?_of_mem {document : Document} (hnodup : (document.map Prod.fst).Nodup)
    {field : String} {value : Json} (h : (field, value) ∈ document) :
    document.get? field = some value := by
  rw [Document.get?, lookup_reverse hnodup]
  exact Table.lookup_of_mem hnodup h

section

variable {Accounts : Type → Type} (layout : LawfulLayout Accounts)

/-- **What is written is what is read.** -/
theorem operationJson_read (hnodup : layout.fields.Nodup)
    {operation : DirectOperation (Accounts String)}
    (hfields : (layout.required operation.accounts).map Prod.fst ++ ["policyAccounts"] =
      layout.fields) :
    strictReading.Says layout (operationJson layout operation) operation := by
  have hkeys : (((layout.required operation.accounts).map
      fun entry => (entry.1, Json.string entry.2)) ++
        [("policyAccounts", Json.object ((layout.policyAccounts operation.accounts).entries.map
          fun entry => (entry.1, nullableJson entry.2)))]).map Prod.fst = layout.fields := by
    rw [← hfields, List.map_append, List.map_map]
    rfl
  have hpolicyKeys : ((layout.policyAccounts operation.accounts).entries.map
      fun entry => (entry.1, nullableJson entry.2)).map Prod.fst = policyFields := by
    rw [List.map_map]
    rfl
  refine ⟨_, _, _, strictReading_opens.2 ⟨rfl, ?_⟩, strictReading_opens.2 ⟨rfl, ?_⟩,
    strictReading_opens.2 ⟨Document.get?_of_mem (hkeys ▸ hnodup)
      (List.mem_append_right _ List.mem_cons_self), ?_⟩, rfl, rfl, rfl, ?_, ?_⟩
  · exact show ∀ field ∈ rootFields, field ∈ rootFields from fun _ hfield => hfield
  · exact fun field hfield => hkeys ▸ hfield
  · exact fun field hfield => hpolicyKeys ▸ hfield
  · intro entry hentry
    have hmem := List.mem_map_of_mem (f := fun entry => (entry.1, Json.string entry.2)) hentry
    rw [Document.get?_of_mem (hkeys ▸ hnodup) (List.mem_append_left _ hmem)]
    rfl
  · intro entry hentry
    have hmem := List.mem_map_of_mem (f := fun entry => (entry.1, nullableJson entry.2)) hentry
    rw [Document.get?_of_mem (hpolicyKeys ▸ policyFields_nodup) hmem]
    cases entry.2 <;> rfl

/-- A required account is the default key. -/
def DirectOperation.HasDefaultAccount (operation : DirectOperation (Accounts String)) : Prop :=
  ∃ entry ∈ layout.required operation.accounts, entry.2 = defaultPublicKey

instance (operation : DirectOperation (Accounts String)) :
    Decidable (operation.HasDefaultAccount layout) :=
  inferInstanceAs (Decidable (∃ entry ∈ layout.required operation.accounts,
    entry.2 = defaultPublicKey))

theorem not_spellsKey_default : ¬ SpellsKey defaultPublicKey := by
  rintro ⟨key, hzero, htext⟩
  rw [← zeroAddress_toBase58] at htext
  exact hzero (PublicKey.toBase58_injective htext).symm

/-- No policy account is exported as the default key. -/
theorem policy_exports_ne {instruction : ChanceryInstruction}
    {policyAccounts : DirectSettlementPolicyAccounts String}
    (h : ∀ position ∈ policyPositions policyAccounts, position.Exports instruction) :
    ∀ entry ∈ policyAccounts.entries, ∀ text, entry.2 = some text → text ≠ defaultPublicKey := by
  have hoptional : ∀ position ∈ policyPositions policyAccounts, ∃ name address isWritable,
      position = .optional name address isWritable := by
    simp [policyPositions]
  have haddresses : ∀ text? ∈ (policyPositions policyAccounts).map Position.address?, ∀ text,
      text? = some text → text ≠ defaultPublicKey := by
    rw [List.forall_mem_map]
    intro position hposition text htext
    obtain ⟨name, address, isWritable, rfl⟩ := hoptional position hposition
    obtain ⟨account, -, -, haddress⟩ := documentPolicyAddress_ok (h _ hposition)
    rw [show address = some text from htext] at haddress
    split_ifs at haddress with hzero
    cases haddress
    rw [← zeroAddress_toBase58]
    exact fun heq => hzero (PublicKey.toBase58_injective heq)
  have hentries : (policyPositions policyAccounts).map Position.address? =
      policyAccounts.entries.map Prod.snd := rfl
  rwa [hentries, List.forall_mem_map] at haddresses

theorem addresses_readable {accounts : Accounts String} :
    (∀ position ∈ layout.positions accounts, position.Readable) ↔
      ∀ text? ∈ (layout.positions accounts).map Position.address?, ∀ text,
        text? = some text → SpellsKey text := by
  rw [List.forall_mem_map]
  rfl

theorem DirectOperation.HasDefaultAccount.not_readable
    {operation : DirectOperation (Accounts String)} (h : operation.HasDefaultAccount layout) :
    ¬ ∀ position ∈ layout.positions operation.accounts, position.Readable := by
  obtain ⟨entry, hentry, hdefault⟩ := h
  rw [addresses_readable]
  intro hspells
  refine not_spellsKey_default (hdefault ▸ hspells (some entry.2) ?_ _ rfl)
  rw [layout.addresses]
  exact List.mem_append_left _
    (List.mem_map_of_mem (f := fun entry : String × String => some entry.2) hentry)

/-- Exported positions can be read unless a required account is the default key. -/
theorem readable_iff_exports {instruction : ChanceryInstruction}
    {operation : DirectOperation (Accounts String)}
    (hexports : ∀ position ∈ layout.positions operation.accounts, position.Exports instruction)
    (hpolicy : ∀ position ∈ policyPositions (layout.policyAccounts operation.accounts),
      position.Exports instruction) :
    (∀ position ∈ layout.positions operation.accounts, position.Readable) ↔
      ¬ operation.HasDefaultAccount layout := by
  have htexts : ∀ text? ∈ (layout.positions operation.accounts).map Position.address?,
      ∀ text, text? = some text → text ≠ defaultPublicKey → SpellsKey text := by
    rw [List.forall_mem_map]
    intro position hposition text htext hne
    obtain ⟨account, -, -, -, -, haccount⟩ := (hexports position hposition).account
    have heq := haccount text htext
    refine ⟨account.address, fun hzero => hne ?_, heq⟩
    rw [heq, hzero, zeroAddress_toBase58]
  refine ⟨fun hreadable hdefault => hdefault.not_readable layout hreadable, fun hnone => ?_⟩
  rw [addresses_readable]
  intro text? hmem text htext
  refine htexts text? hmem text htext ?_
  rw [layout.addresses, List.mem_append, List.mem_map, List.mem_map] at hmem
  rcases hmem with ⟨entry, hentry, rfl⟩ | ⟨entry, hentry, rfl⟩
  · exact fun heq => hnone ⟨entry, hentry, (Option.some.inj htext).trans heq⟩
  · exact policy_exports_ne hpolicy entry hentry text htext

end

/-! ## The document of an inspection -/

theorem buildChanceryInstruction_inv {client : ChanceryClient} {instructionName : String}
    {schema : InstructionSchema} {argumentValues : StructValues} {inputs : InstructionAccountInputs}
    {instruction : ChanceryInstruction}
    (hschema : getInstructionSchema instructionName = .ok schema)
    (h : buildChanceryInstruction client instructionName argumentValues inputs true =
      .ok instruction) :
    instruction.programAddress = client.deployment.programAddress ∧
      resolveAccounts client instructionName schema argumentValues inputs true =
        .ok instruction.accounts ∧
      encodeInstructionDataWith client.language.dialect instructionName argumentValues =
        .ok instruction.data := by
  obtain ⟨accounts, haccounts, h⟩ := Except.bind_eq_ok.1 h
  obtain ⟨data, hdata, hret⟩ := Except.bind_eq_ok.1 h
  cases hret
  rw [resolveChanceryInstructionAccounts, Except.bind_of_ok hschema] at haccounts
  exact ⟨rfl, haccounts, hdata⟩

/-- What is rebuilt from a document is the instruction, unless a required account is the default
key. -/
def Rebuilds {Accounts : Type → Type} (layout : LawfulLayout Accounts)
    (operation : DirectOperation (Accounts String)) (instruction : ChanceryInstruction)
    (rebuilt : Except String InstructionSpec) : Prop :=
  if operation.HasDefaultAccount layout then ∃ message, rebuilt = .error message
  else ∃ spec, rebuilt = .ok spec ∧ spec.texts = solanaTexts instruction.solana

section

variable {Accounts : Type → Type} (layout : LawfulLayout Accounts) {selected : TargetVariable}
  {target : ChanceryTarget} {discriminator : Bytes} {operation : DirectOperation (Accounts String)}
  {instruction : ChanceryInstruction} {arguments : SettlementArguments}

theorem exports_emits (hselected : selectedTarget selected = some target)
    (hprogram : instruction.programAddress = chanceryProgramAddressForTarget target)
    (haccounts : (layout.positions operation.accounts).map
        (fun position => specTexts position.spec) ++
          [(instruction.programAddress.toBase58, false, false)] =
      instruction.accounts.map accountTexts)
    (hreads : operation.Reads arguments) (hdata : instruction.data = arguments.data discriminator)
    (hreadable : ∀ position ∈ layout.positions operation.accounts, position.Readable) :
    ∃ spec, Emits selected discriminator (layout.positions operation.accounts) operation spec ∧
      spec.texts = solanaTexts instruction.solana := by
  refine ⟨_, ⟨_, arguments, selectedProgramText_ok.2 ⟨target, hselected, rfl⟩, hreadable, hreads,
    rfl⟩, ?_⟩
  have htexts : (solanaTexts instruction.solana).accounts =
      instruction.accounts.map accountTexts := by
    rw [solanaTexts, ChanceryInstruction.solana, List.map_map]
    rfl
  have hsolana : solanaTexts instruction.solana = ⟨instruction.programAddress.toBase58,
      (solanaTexts instruction.solana).accounts, instruction.data⟩ := rfl
  rw [hsolana, htexts, ← haccounts, hprogram, hdata]
  simp only [InstructionSpec.texts, List.map_append, List.map_map, List.map_cons, List.map_nil]
  rfl

/-- **A document that is loaded and built again**, for an operation of either kind. -/
theorem rebuilds_of_exports {build : DirectOperation (Accounts String) →
      Except String InstructionSpec}
    (hbuild : ∀ spec, build operation = .ok spec ↔
      Emits selected discriminator (layout.positions operation.accounts) operation spec)
    (hnodup : layout.fields.Nodup)
    (hfields : (layout.required operation.accounts).map Prod.fst ++ ["policyAccounts"] =
      layout.fields)
    (hexports : ∀ position ∈ layout.positions operation.accounts, position.Exports instruction)
    (hpolicy : ∀ position ∈ policyPositions (layout.policyAccounts operation.accounts),
      position.Exports instruction)
    (hemits : (∀ position ∈ layout.positions operation.accounts, position.Readable) →
      ∃ spec, Emits selected discriminator (layout.positions operation.accounts) operation spec ∧
        spec.texts = solanaTexts instruction.solana) :
    Rebuilds layout operation instruction
      (TypeScript.loadDirectOperation layout.toAccountsLayout (operationJson layout operation) >>=
        build) := by
  rw [(TypeScript.loadDirectOperation_ok layout).2 (operationJson_read layout hnodup hfields)]
  show Rebuilds layout operation instruction (build operation)
  have hreadable := readable_iff_exports layout hexports hpolicy
  unfold Rebuilds
  split_ifs with hdefault
  · cases hresult : build operation with
    | error message => exact ⟨message, rfl⟩
    | ok spec =>
      obtain ⟨_, _, -, hread, -⟩ := (hbuild spec).1 hresult
      exact absurd hdefault (hreadable.1 hread)
  · obtain ⟨spec, hspec, htexts⟩ := hemits (hreadable.2 hdefault)
    exact ⟨spec, (hbuild spec).2 hspec, htexts⟩

end

/-- **What is rebuilt from an exported document.** -/
def DirectDocument.Rebuilds (document : DirectDocument) (instruction : ChanceryInstruction)
    (rebuilt : Except String InstructionSpec) : Prop :=
  match document with
  | .mint operation => Integration.Rebuilds lawfulMint operation instruction rebuilt
  | .redeem operation => Integration.Rebuilds lawfulRedeem operation instruction rebuilt

theorem directOperationDocument_inv {client : ChanceryClient} {inspection : SettlementInspection}
    {document : DirectDocument}
    (h : directOperationDocument client inspection = .ok document) :
    inspection.ready = true ∧ inspection.request.mode = .direct ∧
      ∃ instruction common pathwayId,
        buildChanceryInstruction client inspection.instructionName inspection.instructionArguments
          inspection.instructionAccounts true = .ok instruction ∧
        commonDocumentAccounts instruction = .ok common ∧
        bytes32Hex (inspection.instructionArguments.lookup "pathway_id") "pathway id" =
          .ok pathwayId ∧
        match inspection.request.action with
        | .mint => ∃ accounts, mintDocumentAccounts instruction common = .ok accounts ∧
            document = .mint ⟨pathwayId, toString inspection.amounts.inputAmount,
              toString inspection.amounts.minimumOutput, accounts⟩
        | .redeem => ∃ accounts, redeemDocumentAccounts instruction common = .ok accounts ∧
            document = .redeem ⟨pathwayId, toString inspection.amounts.inputAmount,
              toString inspection.amounts.minimumOutput, accounts⟩ := by
  obtain ⟨_, hready, h⟩ := Except.bind_eq_ok.1 h
  obtain ⟨_, -, h⟩ := Except.bind_eq_ok.1 h
  obtain ⟨instruction, hinstruction, h⟩ := Except.bind_eq_ok.1 h
  obtain ⟨common, hcommon, h⟩ := Except.bind_eq_ok.1 h
  obtain ⟨pathwayId, hpathwayId, h⟩ := Except.bind_eq_ok.1 h
  rw [rejectWhen_ok, not_or, Bool.not_eq_false, not_not] at hready
  refine ⟨hready.1, hready.2, instruction, common, pathwayId, hinstruction, hcommon, hpathwayId, ?_⟩
  cases haction : inspection.request.action with
  | mint =>
    rw [haction] at h
    obtain ⟨accounts, haccounts, hret⟩ := Except.bind_eq_ok.1 h
    cases hret
    exact ⟨accounts, haccounts, rfl⟩
  | redeem =>
    rw [haction] at h
    obtain ⟨accounts, haccounts, hret⟩ := Except.bind_eq_ok.1 h
    cases hret
    exact ⟨accounts, haccounts, rfl⟩

/-- **The document of either operation is rebuilt** to the instruction that it was exported from. -/
theorem SchemaLayout.rebuilds {Accounts : Type → Type} (layout : SchemaLayout Accounts)
    {client : ChanceryClient} {inspection : SettlementInspection} {selected : TargetVariable}
    {target : ChanceryTarget} {instruction : ChanceryInstruction}
    (pathwayId : { bytes : Bytes // bytes.length = 32 })
    (hselected : selectedTarget selected = some target)
    (hprogram : client.deployment.programAddress = chanceryProgramAddressForTarget target)
    (hdirect : InspectsDirect inspection pathwayId.1)
    (hbuilt : buildChanceryInstruction client inspection.instructionName
      inspection.instructionArguments inspection.instructionAccounts true = .ok instruction)
    (haction : inspection.request.action = layout.action) {accounts : Accounts String}
    (hexports : ∀ position ∈ layout.positions accounts, position.Exports instruction)
    {build : DirectOperation (Accounts String) → Except String InstructionSpec}
    (hbuild : ∀ operation spec, build operation = .ok spec ↔
      Emits selected layout.discriminator (layout.positions operation.accounts) operation spec) :
    let operation : DirectOperation (Accounts String) := ⟨"0x" ++ bytesToHex pathwayId.1,
      toString inspection.amounts.inputAmount, toString inspection.amounts.minimumOutput, accounts⟩
    Rebuilds layout.toLawfulLayout operation instruction
      (TypeScript.loadDirectOperation layout.toAccountsLayout
        (operationJson layout.toLawfulLayout operation) >>= build) := by
  intro operation
  have hname : inspection.instructionName = layout.action.text ++ "_direct" := by
    rw [hdirect.name, haction]
  rw [hname] at hbuilt
  obtain ⟨haddress, hresolved, hdata⟩ :=
    buildChanceryInstruction_inv (getInstructionSchema_direct _) hbuilt
  rw [hdirect.arguments, haction] at hdata
  obtain ⟨hamount, hminimum, hdata⟩ :=
    encode_direct_inv client.language layout.action pathwayId hdata
  refine rebuilds_of_exports layout.toLawfulLayout (hbuild operation) layout.fields_nodup
    (layout.required_fields accounts) hexports
    (fun position hposition => hexports position (layout.policy_subset accounts hposition)) ?_
  refine exports_emits layout.toLawfulLayout hselected (haddress.trans hprogram) ?_
    ⟨readsPathwayId_bytesToHex pathwayId.2, readsU64_toString hamount.1 hamount.2, ?_,
      readsU64_toString hminimum.1 hminimum.2⟩ hdata
  · rw [haddress]
    refine exports_texts hresolved hdirect.event ?_ hexports
    rw [← layout.positions_map]
    exact layout.describes (layout.map keyOf accounts)
  · exact word_ne_zero hdirect.positive hamount.2

/-- **The document of a ready direct inspection is rebuilt to the instruction of the inspection**,
unless a required account is the default key, which the integration client does not accept. -/
theorem directOperationDocument_rebuilds {client : ChanceryClient}
    {requestInput : SettlementOperationRequest} {inspection : SettlementInspection}
    {document : DirectDocument} {selected : TargetVariable} {target : ChanceryTarget}
    {stringify : List Nat → String}
    (h : (inspect client requestInput).Yields (.ok inspection))
    (hdocument : directOperationDocument client inspection = .ok document)
    (hselected : selectedTarget selected = some target)
    (hprogram : client.deployment.programAddress = chanceryProgramAddressForTarget target) :
    ∃ instruction, buildInstruction client inspection = .ok instruction ∧
      document.Rebuilds instruction (document.build stringify selected) := by
  obtain ⟨hready, hmode, instruction, common, text, hbuilt, hcommon, htext, hexported⟩ :=
    directOperationDocument_inv hdocument
  obtain ⟨bytes, hdirect⟩ := inspectsDirect_of_yields h hmode
  have hinstruction : buildInstruction client inspection = .ok instruction :=
    Except.bind_eq_ok.2 ⟨(), rejectWhen_ok.2 (by rw [hready]; decide), hbuilt⟩
  have hpathwayId : text = "0x" ++ bytesToHex bytes := by
    rw [hdirect.arguments, List.lookup_cons_self, bytes32Hex] at htext
    obtain ⟨read, hread, hret⟩ := Except.bind_eq_ok.1 htext
    cases hret
    cases (requireBytes_eq_ok.1 hread).1
    rfl
  subst hpathwayId
  refine ⟨instruction, hinstruction, ?_⟩
  cases haction : inspection.request.action with
  | mint =>
    rw [haction] at hexported
    obtain ⟨accounts, haccounts, rfl⟩ := hexported
    exact schemaMint.rebuilds ⟨bytes, hdirect.length⟩ hselected hprogram hdirect hbuilt haction
      (mintDocumentAccounts_ok hcommon haccounts)
      fun _ _ => TypeScript.buildMintDirectInstruction_ok
  | redeem =>
    rw [haction] at hexported
    obtain ⟨accounts, haccounts, rfl⟩ := hexported
    exact schemaRedeem.rebuilds ⟨bytes, hdirect.length⟩ hselected hprogram hdirect hbuilt haction
      (redeemDocumentAccounts_ok hcommon haccounts)
      fun _ _ => TypeScript.buildRedeemDirectInstruction_ok

namespace SampleExport

/-- The sample's direct market with the principal's tokens at the default key. -/
def market : Chain :=
  ⟨100, Sample.coreEntries 100 1000000000 ++ Sample.directEntries ++
    [(Sample.sourceTokenAccount,
       tokenAccount splTokenProgramAddress Sample.assetMint Sample.principal 5),
     (zeroAddress, tokenAccount splTokenProgramAddress Sample.issuedTokenMint Sample.principal 0),
     (Sample.reserveTokenAccount,
       tokenAccount splTokenProgramAddress Sample.assetMint mainnetReserveAuthority 0)]⟩

def request : SettlementOperationRequest :=
  { Sample.directMint 5 with destinationTokenAccount := some zeroAddress.toBase58 }

/-- A run that exports a mint, its destination at the default key or not. -/
theorem run_of_check (market : Chain) (request : SettlementOperationRequest) (isDefault : Bool)
    (h : ((inspect (Sample.client .typescript) request).run market.respond).toOption.any
      (fun inspection =>
        (directOperationDocument (Sample.client .typescript) inspection).toOption.any
          fun document => match document with
          | .mint operation => decide (operation.HasDefaultAccount lawfulMint) == isDefault
          | .redeem _ => false) = true) :
    ∃ inspection document,
      (inspect (Sample.client .typescript) request).Yields (.ok inspection) ∧
      directOperationDocument (Sample.client .typescript) inspection = .ok (.mint document) ∧
      (document.HasDefaultAccount lawfulMint ↔ isDefault = true) := by
  obtain ⟨inspection, hyields, hfacts⟩ := Interaction.yields_of_check h
  cases hdocument : directOperationDocument (Sample.client .typescript) inspection with
  | error message =>
    rw [hdocument] at hfacts
    cases hfacts
  | ok document =>
    rw [hdocument] at hfacts
    cases document with
    | redeem => cases hfacts
    | mint operation =>
      refine ⟨inspection, operation, hyields, hdocument, ?_⟩
      rw [← beq_iff_eq.1 hfacts, decide_eq_true_iff]

end SampleExport

/-- A mint with no account at the default key: what is rebuilt is the instruction. -/
theorem directOperationDocument_rebuilds_sample : ∃ inspection document instruction spec,
    (inspect (Sample.client .typescript) (Sample.directMint 5)).Yields (.ok inspection) ∧
    directOperationDocument (Sample.client .typescript) inspection = .ok document ∧
    buildInstruction (Sample.client .typescript) inspection = .ok instruction ∧
    document.build (fun _ => "") .notPresent = .ok spec ∧
    spec.texts = solanaTexts instruction.solana := by
  obtain ⟨inspection, document, hyields, hdocument, hdefault⟩ :=
    SampleExport.run_of_check (Sample.directMarket 100 1000000000 5) (Sample.directMint 5) false
      (by decide +kernel)
  have hselected : selectedTarget .notPresent = some .mainnet := rfl
  have hprogram : (Sample.client .typescript).deployment.programAddress =
      chanceryProgramAddressForTarget .mainnet := rfl
  obtain ⟨instruction, hinstruction, hrebuilds⟩ :=
    directOperationDocument_rebuilds hyields hdocument hselected hprogram
  obtain ⟨spec, hspec, htexts⟩ : ∃ spec, (DirectDocument.mint document).build (fun _ => "")
      .notPresent = .ok spec ∧ spec.texts = solanaTexts instruction.solana :=
    (if_neg (by rw [hdefault]; decide)).mp hrebuilds
  exact ⟨inspection, _, instruction, spec, hyields, hdocument, hinstruction, hspec, htexts⟩

/-- A ready direct inspection whose document is not rebuilt at all. -/
theorem directOperationDocument_rejected : ∃ inspection document,
    (inspect (Sample.client .typescript) SampleExport.request).Yields (.ok inspection) ∧
    inspection.ready = true ∧ inspection.request.mode = .direct ∧
    directOperationDocument (Sample.client .typescript) inspection = .ok document ∧
    (∃ instruction, buildInstruction (Sample.client .typescript) inspection = .ok instruction) ∧
    ∀ spec, document.build (fun _ => "") .notPresent ≠ .ok spec := by
  obtain ⟨inspection, document, hyields, hdocument, hdefault⟩ :=
    SampleExport.run_of_check SampleExport.market SampleExport.request true (by decide +kernel)
  obtain ⟨hready, hmode, instruction, _, _, hbuilt, -⟩ := directOperationDocument_inv hdocument
  refine ⟨inspection, .mint document, hyields, hready, hmode, hdocument,
    ⟨instruction, Except.bind_eq_ok.2 ⟨(), rejectWhen_ok.2 (by rw [hready]; decide), hbuilt⟩⟩, ?_⟩
  intro spec hspec
  obtain ⟨operation, hload, hbuild⟩ := Except.bind_eq_ok.1 hspec
  have hwritten : strictReading.Says lawfulMint (operationJson lawfulMint document) document :=
    operationJson_read lawfulMint (by decide) rfl
  have hread := (TypeScript.loadDirectOperation_ok lawfulMint).2 hwritten
  cases hread.symm.trans hload
  obtain ⟨_, _, -, hreadable, -⟩ := TypeScript.buildMintDirectInstruction_ok.1 hbuild
  exact (hdefault.2 rfl).not_readable lawfulMint hreadable

end Chancery.Integration
