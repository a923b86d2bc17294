import Chancery.AccountsLayout
import Chancery.InstructionAccountLaws
import Chancery.Resolution

/-!
# Direct settlement and the schema

The builders written by hand and the builder that reads the schema write the same instruction.

* `Describes` — the schema has an account at every position; `SchemaLayout` — `schemaMint`,
  `schemaRedeem`.
* `buildChanceryInstruction_positions` — what the schema's builder returns for positions.
* `directSettlement_followsSchema`.
-/

set_option autoImplicit false

namespace Chancery

/-! ## Schemas of settlements -/

/-- The schema of the instruction that settles. -/
def settlementSchema : SettlementAction → SettlementMode → InstructionSchema
  | .mint, .direct => Schema.Instruction.mintDirect
  | .mint, .delegated => Schema.Instruction.mintDelegated
  | .mint, .trilateral => Schema.Instruction.mintTrilateral
  | .redeem, .direct => Schema.Instruction.redeemDirect
  | .redeem, .delegated => Schema.Instruction.redeemDelegated
  | .redeem, .trilateral => Schema.Instruction.redeemTrilateral

theorem getInstructionSchema_settlement (action : SettlementAction) (mode : SettlementMode) :
    getInstructionSchema (settlementInstructionName action mode) =
      .ok (settlementSchema action mode) := by
  cases action <;> cases mode <;> rfl

theorem settlementSchema_names (action : SettlementAction) (mode : SettlementMode) :
    ((settlementSchema action mode).accounts.map (·.name)).Nodup := by
  cases action <;> cases mode <;> decide +kernel

theorem getInstructionSchema_direct (action : SettlementAction) :
    getInstructionSchema (action.text ++ "_direct") = .ok (settlementSchema action .direct) := by
  cases action <;> rfl

/-! ## Instructions without the names of their accounts -/

/-- The account without its name. -/
def InstructionAccountMeta.solana (account : InstructionAccountMeta) :
    SolanaInstructionAccountMeta :=
  ⟨account.address, account.isSigner, account.isWritable⟩

/-- The instruction without the names of its accounts. -/
def ChanceryInstruction.solana (instruction : ChanceryInstruction) : SolanaInstruction :=
  ⟨instruction.programAddress, instruction.accounts.map InstructionAccountMeta.solana,
    instruction.data⟩

namespace Integration

/-! ## What the schema gives -/

/-- The name of an account in the schema. -/
def snakeCase (name : String) : String :=
  String.ofList (name.toList.flatMap fun c => if c.isUpper then ['_', c.toLower] else [c])

/-- Name, writable, signer, absent by default. -/
abbrev AccountRow := String × Bool × Bool × Bool

/-- The position as a row of the schema. -/
def Position.row {Address : Type} : Position Address → AccountRow
  | .required name _ isSigner isWritable => (snakeCase name, isWritable, isSigner, false)
  | .optional name _ isWritable => (snakeCase name, isWritable, false, true)

namespace Position

variable {Address : Type} (position : Position Address)

theorem row_name : position.row.1 = snakeCase position.name := by cases position <;> rfl

theorem row_isWritable : position.row.2.1 = position.isWritable := by cases position <;> rfl

theorem row_isSigner : position.row.2.2.1 = position.isSigner := by cases position <;> rfl

end Position

/-- An account of the schema as a row. -/
def accountRow (accountSchema : InstructionAccountSchema) : AccountRow :=
  (accountSchema.name, accountSchema.writable, accountSchema.signer,
    accountSchema.default matches some .zeroAddress)

/-- The account that every settlement ends with. -/
def eventProgramSchema : InstructionAccountSchema :=
  ⟨"event_program", false, false, none, some .programAddress⟩

/-- The accounts of an operation as inputs of the schema's builder; absent ones are left out. -/
def accountInputs (positions : List (Position PublicKey)) : InstructionAccountInputs :=
  positions.filterMap fun position =>
    position.address?.map fun address => (snakeCase position.name, address)

/-- Every position stands where an account of the schema does, and the event program follows. -/
structure Describes (schema : InstructionSchema) (positions : List (Position PublicKey)) :
    Prop where
  names : (schema.accounts.map (·.name)).Nodup
  accounts : ∃ accountSchemas, schema.accounts = accountSchemas ++ [eventProgramSchema] ∧
    accountSchemas.map accountRow = positions.map Position.row

section

variable {positions : List (Position PublicKey)}

theorem lookup_accountInputs_of_not_mem {name : String}
    (h : ∀ position ∈ positions, snakeCase position.name ≠ name) :
    (accountInputs positions).lookup name = none := by
  rw [List.lookup_eq_none_iff]
  rintro ⟨other, address⟩ hmem
  obtain ⟨position, hposition, hinput⟩ := List.mem_filterMap.1 hmem
  obtain ⟨_, _, heq⟩ := Option.map_eq_some_iff.1 hinput
  cases heq
  exact bne_iff_ne.2 fun heq => h position hposition heq.symm

theorem lookup_accountInputs (hnodup : (positions.map fun p => snakeCase p.name).Nodup)
    {position : Position PublicKey} (hposition : position ∈ positions) :
    (accountInputs positions).lookup (snakeCase position.name) = position.address? := by
  induction positions with
  | nil => cases hposition
  | cons first positions ih =>
    rw [List.map_cons, List.nodup_cons] at hnodup
    have hfresh : ∀ other ∈ positions, snakeCase other.name ≠ snakeCase first.name :=
      fun other hother heq => hnodup.1 (List.mem_map.2 ⟨other, hother, heq⟩)
    have hrest := lookup_accountInputs_of_not_mem hfresh
    unfold accountInputs at ih hrest ⊢
    rcases List.mem_cons.1 hposition with rfl | hposition
    · cases haddress : position.address? with
      | none => rw [List.filterMap_cons_none (by rw [haddress]; rfl), hrest]
      | some address =>
        rw [List.filterMap_cons_some (by rw [haddress]; rfl)]
        exact List.lookup_cons_self
    · cases haddress : first.address? with
      | none =>
        rw [List.filterMap_cons_none (by rw [haddress]; rfl)]
        exact ih hnodup.2 hposition
      | some address =>
        rw [List.filterMap_cons_some (by rw [haddress]; rfl), List.lookup_cons,
          beq_false_of_ne (hfresh position hposition)]
        exact ih hnodup.2 hposition

variable {client : ChanceryClient}

theorem givenAddress_position {accountSchema : InstructionAccountSchema}
    {position : Position PublicKey} (hrow : accountRow accountSchema = position.row)
    (hlookup : (accountInputs positions).lookup accountSchema.name = position.address?) :
    givenAddress client (accountInputs positions) accountSchema =
      .ok (some position.accountMeta.address) := by
  unfold givenAddress
  rw [hlookup]
  cases position with
  | required name address isSigner isWritable => rfl
  | optional name address isWritable =>
    cases address with
    | some address => rfl
    | none =>
      have hdefault : (accountSchema.default matches some .zeroAddress) = true :=
        congrArg (fun row : AccountRow => row.2.2.2) hrow
      show defaultAccountAddress client accountSchema = _
      unfold defaultAccountAddress
      split at hdefault
      · rename_i heq
        rw [heq]
        rfl
      · cases hdefault

theorem describes_nodup {schema : InstructionSchema} (h : Describes schema positions) :
    (positions.map fun p => snakeCase p.name).Nodup ∧
      ∀ position ∈ positions, snakeCase position.name ≠ "event_program" := by
  obtain ⟨accountSchemas, haccounts, hrows⟩ := h.accounts
  have hnames : accountSchemas.map (·.name) = positions.map fun p => snakeCase p.name := by
    simpa [List.map_map, Function.comp_def, accountRow, Position.row_name] using
      congrArg (List.map fun row : AccountRow => row.1) hrows
  have hnodup := h.names
  rw [haccounts, List.map_append, hnames, List.nodup_append] at hnodup
  refine ⟨hnodup.1, fun position hposition => ?_⟩
  exact hnodup.2.2 _ (List.mem_map.2 ⟨position, hposition, rfl⟩) _ List.mem_cons_self

theorem metas_of_rows {accountSchemas : List InstructionAccountSchema}
    (hrows : List.Forall₂ (fun accountSchema position => accountRow accountSchema = position.row)
      accountSchemas positions) :
    (accountSchemas.zipWith (fun accountSchema address =>
      (⟨accountSchema.name, address, accountSchema.signer, accountSchema.writable⟩ :
        InstructionAccountMeta)) (positions.map fun position => position.accountMeta.address)).map
          InstructionAccountMeta.solana = positions.map Position.accountMeta := by
  induction hrows with
  | nil => rfl
  | @cons accountSchema position _ _ hrow _ ih =>
    have hwritable : accountSchema.writable = position.isWritable := by
      rw [← position.row_isWritable, ← hrow, accountRow]
    have hsigner : accountSchema.signer = position.isSigner := by
      rw [← position.row_isSigner, ← hrow, accountRow]
    rw [List.map_cons, List.zipWith_cons_cons, List.map_cons, List.map_cons, ih, hwritable, hsigner]
    rfl

/-- **Accounts that the schema describes** resolve to the positions and the event program. -/
theorem resolveAccounts_positions {schema : InstructionSchema} (h : Describes schema positions)
    {instructionName : String} {argumentValues : StructValues} :
    ∃ accounts, resolveAccounts client instructionName schema argumentValues
        (accountInputs positions) false = .ok accounts ∧
      accounts.map InstructionAccountMeta.solana = positions.map Position.accountMeta ++
        [⟨client.deployment.programAddress, false, false⟩] := by
  obtain ⟨hnodup, hevent⟩ := describes_nodup h
  obtain ⟨accountSchemas, haccounts, hrows⟩ := h.accounts
  rw [← List.forall₂_eq_eq_eq, List.forall₂_map_left_iff, List.forall₂_map_right_iff] at hrows
  have hpositions : List.Forall₂ (fun accountSchema address =>
      givenAddress client (accountInputs positions) accountSchema = .ok (some address))
        accountSchemas (positions.map fun position => position.accountMeta.address) := by
    rw [List.forall₂_map_right_iff, List.forall₂_iff_zip]
    refine ⟨hrows.length_eq, fun {accountSchema position} hzip => ?_⟩
    have hrow := List.forall₂_zip hrows hzip
    have hname : accountSchema.name = snakeCase position.name := by
      rw [← position.row_name, ← hrow, accountRow]
    refine givenAddress_position hrow ?_
    rw [hname]
    exact lookup_accountInputs hnodup (List.of_mem_zip hzip).2
  have heventProgram : givenAddress client (accountInputs positions) eventProgramSchema =
      .ok (some client.deployment.programAddress) := by
    rw [givenAddress, eventProgramSchema, lookup_accountInputs_of_not_mem hevent]
    rfl
  have hgiven : List.Forall₂ (fun accountSchema address =>
      givenAddress client (accountInputs positions) accountSchema = .ok (some address))
        schema.accounts (positions.map (fun position => position.accountMeta.address) ++
          [client.deployment.programAddress]) :=
    haccounts ▸ List.rel_append hpositions (.cons heventProgram .nil)
  refine ⟨_, resolveAccounts_given h.names hgiven, ?_⟩
  rw [haccounts, List.zipWith_append (by rw [List.length_map, hrows.length_eq]), List.map_append,
    metas_of_rows hrows]
  rfl

/-- **What the schema's builder returns** for positions that the schema describes. -/
theorem buildChanceryInstruction_positions {schema : InstructionSchema} {instructionName : String}
    (hschema : getInstructionSchema instructionName = .ok schema) (h : Describes schema positions)
    {argumentValues : StructValues} {data : Bytes}
    (hdata : encodeInstructionDataWith client.language.dialect instructionName argumentValues =
      .ok data) :
    ∃ instruction, buildChanceryInstruction client instructionName argumentValues
        (accountInputs positions) false = .ok instruction ∧
      instruction.solana = ⟨client.deployment.programAddress,
        positions.map Position.accountMeta ++ [⟨client.deployment.programAddress, false, false⟩],
        data⟩ := by
  obtain ⟨accounts, haccounts, hmetas⟩ := resolveAccounts_positions h
  refine ⟨_, Except.bind_eq_ok.2 ⟨accounts, Except.bind_eq_ok.2 ⟨schema, hschema, haccounts⟩,
    Except.bind_eq_ok.2 ⟨data, hdata, rfl⟩⟩, ?_⟩
  rw [ChanceryInstruction.solana, hmetas]

end

/-! ### The two operations -/

theorem mintDirect_describes (accounts : MintDirectAccounts PublicKey) :
    Describes Schema.Instruction.mintDirect (mintPositions accounts) where
  names := by decide +kernel
  accounts := ⟨Schema.Instruction.mintDirect.accounts.dropLast, rfl, by
    simp only [mintPositions, policyPositions, List.cons_append, List.nil_append, List.map,
      Position.row]
    decide +kernel⟩

theorem redeemDirect_describes (accounts : RedeemDirectAccounts PublicKey) :
    Describes Schema.Instruction.redeemDirect (redeemPositions accounts) where
  names := by decide +kernel
  accounts := ⟨Schema.Instruction.redeemDirect.accounts.dropLast, rfl, by
    simp only [redeemPositions, policyPositions, List.cons_append, List.nil_append, List.map,
      Position.row]
    decide +kernel⟩

/-- The arguments of a mint by field. -/
def SettlementArguments.mintValues (arguments : SettlementArguments) : StructValues :=
  [("pathway_id", .bytes arguments.pathwayId.1), ("asset_amount", .bigint arguments.amount.toNat),
   ("minimum_issued_token_amount", .bigint arguments.minimumOutput.toNat)]

/-- The arguments of a redemption by field. -/
def SettlementArguments.redeemValues (arguments : SettlementArguments) : StructValues :=
  [("pathway_id", .bytes arguments.pathwayId.1),
   ("issued_token_amount", .bigint arguments.amount.toNat),
   ("minimum_asset_amount", .bigint arguments.minimumOutput.toNat)]

theorem encodeType_pathwayId (D : Dialect) {bytes : Bytes} (hlength : bytes.length = 32)
    (label : String) : encodeTypeWith D (.array .u8 32) (.bytes bytes) label = .ok bytes := by
  rw [encodeTypeWith]
  rw [if_pos (show TypeSchema.isU8 .u8 = true from rfl), D.bytesFromValue_bytes]
  exact if_neg (not_not.2 hlength)

theorem encodeType_word (L : Language) (word : UInt64) (label : String) :
    encodeTypeWith L.dialect .u64 (.bigint word.toNat) label =
      .ok (LittleEndian.toBytes 8 word.toNat) := by
  have hword := word.toNat_lt
  rw [encodeTypeWith, encodePrimitive, encodeUnsignedInteger]
  cases L <;>
  · refine Except.bind_eq_ok.2 ⟨(word.toNat : Int), rfl, ?_⟩
    rw [if_neg (by omega), Int.toNat_natCast]
    rfl

theorem encodeStruct_cons (D : Dialect) {values : StructValues} {name label : String}
    {value : Value} {type : TypeSchema} {rest : Fields} {encoded encodedRest : Bytes}
    (hlookup : values.lookup name = some value) (hvalue : value ≠ .undefined)
    (hencoded : encodeTypeWith D type value s!"{label}.{name}" = .ok encoded)
    (hrest : encodeStructWith D rest values label false = .ok encodedRest) :
    encodeStructWith D ((name, type) :: rest) values label false =
      .ok (encoded ++ encodedRest) := by
  have hfield : fieldToEncode D false values name type label = .ok value := by
    rw [fieldToEncode, fieldValueOrPadding, D.fieldValue_lookup hlookup hvalue]
  rw [encodeStructWith]
  exact Except.bind_eq_ok.2 ⟨_, hfield, Except.bind_eq_ok.2 ⟨_, hencoded,
    Except.bind_eq_ok.2 ⟨_, hrest, rfl⟩⟩⟩

/-- The fields of both instructions, whatever the amounts are called. -/
theorem encodeStruct_settlement (L : Language) (arguments : SettlementArguments)
    {amountName minimumName : String} (hamount : amountName ≠ "pathway_id")
    (hminimum : minimumName ≠ "pathway_id") (hdistinct : minimumName ≠ amountName)
    (label : String) :
    encodeStructWith L.dialect
        [("pathway_id", .array .u8 32), (amountName, .u64), (minimumName, .u64)]
        [("pathway_id", .bytes arguments.pathwayId.1),
         (amountName, .bigint arguments.amount.toNat),
         (minimumName, .bigint arguments.minimumOutput.toNat)] label false =
      .ok (arguments.data []) := by
  rw [SettlementArguments.data, Rust.encodeDirectArguments, List.nil_append, List.append_assoc,
    ← List.append_nil (LittleEndian.toBytes 8 arguments.minimumOutput.toNat)]
  apply encodeStruct_cons
  · exact List.lookup_cons_self
  · exact Value.noConfusion
  · exact encodeType_pathwayId _ arguments.pathwayId.2 _
  apply encodeStruct_cons
  · rw [List.lookup_cons, beq_false_of_ne hamount]
    exact List.lookup_cons_self
  · exact Value.noConfusion
  · exact encodeType_word L _ _
  apply encodeStruct_cons
  · rw [List.lookup_cons, beq_false_of_ne hminimum, List.lookup_cons, beq_false_of_ne hdistinct]
    exact List.lookup_cons_self
  · exact Value.noConfusion
  · exact encodeType_word L _ _
  · rw [encodeStructWith]

/-- The arguments of a direct settlement, as the schema names them. -/
def SettlementArguments.values (action : SettlementAction) (arguments : SettlementArguments) :
    StructValues :=
  [("pathway_id", .bytes arguments.pathwayId.1),
   (intentAmountField action, .bigint arguments.amount.toNat),
   (intentMinimumField action, .bigint arguments.minimumOutput.toNat)]

theorem settlementSchema_args (action : SettlementAction) :
    (settlementSchema action .direct).args = [("pathway_id", .array .u8 32),
      (intentAmountField action, .u64), (intentMinimumField action, .u64)] := by
  cases action <;> rfl

theorem settlementFields_ne (action : SettlementAction) :
    intentAmountField action ≠ "pathway_id" ∧ intentMinimumField action ≠ "pathway_id" ∧
      intentMinimumField action ≠ intentAmountField action := by
  cases action <;> decide

theorem encode_direct (L : Language) (action : SettlementAction)
    (arguments : SettlementArguments) :
    encodeInstructionDataWith L.dialect (action.text ++ "_direct") (arguments.values action) =
      .ok (arguments.data (settlementSchema action .direct).discriminator) := by
  obtain ⟨hamount, hminimum, hdistinct⟩ := settlementFields_ne action
  rw [encodeInstructionDataWith, Except.bind_of_ok (getInstructionSchema_direct action),
    settlementSchema_args]
  refine Except.bind_eq_ok.2
    ⟨_, encodeStruct_settlement L arguments hamount hminimum hdistinct _, congrArg Except.ok ?_⟩
  simp [SettlementArguments.data, Rust.encodeDirectArguments]

/-- The instruction of a program with these accounts and arguments. -/
def instructionOf (programAddress : PublicKey) (discriminator : Bytes)
    (positions : List (Position PublicKey)) (arguments : SettlementArguments) :
    SolanaInstruction :=
  ⟨programAddress, positions.map Position.accountMeta ++ [⟨programAddress, false, false⟩],
    arguments.data discriminator⟩

/-- The instruction that the schema gives for a direct mint, no PDA being verified. -/
def schemaMintDirect (client : ChanceryClient) (accounts : MintDirectAccounts PublicKey)
    (arguments : SettlementArguments) : Except String ChanceryInstruction :=
  buildChanceryInstruction client "mint_direct" arguments.mintValues
    (accountInputs (mintPositions accounts)) false

/-- The instruction that the schema gives for a direct redemption, no PDA being verified. -/
def schemaRedeemDirect (client : ChanceryClient) (accounts : RedeemDirectAccounts PublicKey)
    (arguments : SettlementArguments) : Except String ChanceryInstruction :=
  buildChanceryInstruction client "redeem_direct" arguments.redeemValues
    (accountInputs (redeemPositions accounts)) false

/-! ### Either operation -/

/-- **A layout that the schema describes**, with the action that the instruction takes. -/
structure SchemaLayout (Accounts : Type → Type) extends LawfulLayout Accounts where
  action : SettlementAction
  describes : ∀ accounts : Accounts PublicKey,
    Describes (settlementSchema action .direct) (positions accounts)
  fields_nodup : fields.Nodup
  required_fields : ∀ {A : Type} (accounts : Accounts A),
    (required accounts).map Prod.fst ++ ["policyAccounts"] = fields
  policy_subset : ∀ {A : Type} (accounts : Accounts A),
    policyPositions (policyAccounts accounts) ⊆ positions accounts

/-- The layout of a direct mint. -/
def schemaMint : SchemaLayout MintDirectAccounts where
  toLawfulLayout := lawfulMint
  action := .mint
  describes := mintDirect_describes
  fields_nodup := by decide
  required_fields := fun _ => rfl
  policy_subset := fun _ => List.subset_append_right _ _

/-- The layout of a direct redemption. -/
def schemaRedeem : SchemaLayout RedeemDirectAccounts where
  toLawfulLayout := lawfulRedeem
  action := .redeem
  describes := redeemDirect_describes
  fields_nodup := by decide
  required_fields := fun _ => rfl
  policy_subset := fun _ => List.subset_append_right _ _

namespace SchemaLayout

variable {Accounts : Type → Type} (layout : SchemaLayout Accounts)

/-- The discriminator of the instruction. -/
def discriminator : Bytes := (settlementSchema layout.action .direct).discriminator

/-- The instruction that the schema gives, no PDA being verified. -/
def build (client : ChanceryClient) (accounts : Accounts PublicKey)
    (arguments : SettlementArguments) : Except String ChanceryInstruction :=
  buildChanceryInstruction client (layout.action.text ++ "_direct")
    (arguments.values layout.action) (accountInputs (layout.positions accounts)) false

theorem build_ok (client : ChanceryClient) (accounts : Accounts PublicKey)
    (arguments : SettlementArguments) :
    ∃ instruction, layout.build client accounts arguments = .ok instruction ∧
      instruction.solana = instructionOf client.deployment.programAddress layout.discriminator
        (layout.positions accounts) arguments :=
  buildChanceryInstruction_positions (getInstructionSchema_direct _) (layout.describes accounts)
    (encode_direct client.language _ arguments)

end SchemaLayout

/-! ## Agreement -/

/-- The deployment that a variable selects. -/
def selectedTarget : TargetVariable → Option ChanceryTarget
  | .notPresent => some .mainnet
  | .notUnicode => none
  | .text target =>
    if target = "mainnet" then some .mainnet else if target = "devnet" then some .devnet else none

theorem selectedProgramText_ok {selected : TargetVariable} {programId : String} :
    selectedProgramText selected = .ok programId ↔ ∃ target, selectedTarget selected = some target ∧
      programId = (chanceryProgramAddressForTarget target).toBase58 := by
  have hmainnet : chanceryMainnetProgramAddress.toBase58 = chanceryMainnetProgramId := by
    decide +kernel
  have hdevnet : chanceryDevnetProgramAddress.toBase58 = chanceryDevnetProgramId := by
    decide +kernel
  cases selected with
  | notPresent =>
    simp [selectedProgramText, programIdForTarget, selectedTarget,
      chanceryProgramAddressForTarget, hmainnet, eq_comm]
  | notUnicode => simp [selectedProgramText, selectedTarget]
  | text target =>
    rw [selectedProgramText, programIdForTarget, selectedTarget]
    split_ifs <;> simp [chanceryProgramAddressForTarget, hmainnet, hdevnet, eq_comm]

theorem Rust.selectedProgramId_ok {selected : TargetVariable} {programId : PublicKey} :
    Rust.selectedProgramId selected = .ok programId ↔ ∃ target,
      selectedTarget selected = some target ∧
        programId = chanceryProgramAddressForTarget target := by
  cases selected with
  | notPresent =>
    simp [Rust.selectedProgramId, selectedTarget, chanceryProgramAddressForTarget, eq_comm]
  | notUnicode => simp [Rust.selectedProgramId, selectedTarget]
  | text target =>
    rw [Rust.selectedProgramId, programIdForTarget, selectedTarget]
    split_ifs <;> simp [chanceryProgramAddressForTarget, eq_comm]

/-- Program, accounts and data of an instruction, with addresses as texts. -/
structure InstructionTexts where
  programAddress : String
  accounts : List (String × Bool × Bool)
  data : Bytes

/-- A built instruction as texts. -/
def InstructionSpec.texts (spec : InstructionSpec) : InstructionTexts :=
  ⟨spec.programId, spec.accounts.map fun account =>
    (account.address, account.isSigner, account.isWritable), spec.data⟩

/-- An instruction as texts. -/
def solanaTexts (instruction : SolanaInstruction) : InstructionTexts :=
  ⟨instruction.programAddress.toBase58, instruction.accounts.map fun account =>
    (account.address.toBase58, account.isSigner, account.isWritable), instruction.data⟩

/-- **What is emitted for the texts of keys**, in keys. -/
theorem emits_iff {Accounts : Type} {selected : TargetVariable} {discriminator : Bytes}
    {operation : DirectOperation Accounts} {positions : List (Position PublicKey)}
    {texts : InstructionTexts} :
    (∃ spec, Emits selected discriminator (positions.map (.map PublicKey.toBase58)) operation
        spec ∧ spec.texts = texts) ↔
      ∃ target arguments, selectedTarget selected = some target ∧
        (∀ position ∈ positions, position.NonDefault) ∧ operation.Reads arguments ∧
        texts = solanaTexts (instructionOf (chanceryProgramAddressForTarget target) discriminator
          positions arguments) := by
  have htexts : ∀ (target : ChanceryTarget) (arguments : SettlementArguments),
      InstructionSpec.texts ⟨(chanceryProgramAddressForTarget target).toBase58,
        (positions.map (.map PublicKey.toBase58)).map Position.spec ++
          [⟨"eventProgram", (chanceryProgramAddressForTarget target).toBase58, false, false⟩],
        arguments.data discriminator⟩ =
        solanaTexts (instructionOf (chanceryProgramAddressForTarget target) discriminator positions
          arguments) := by
    intro target arguments
    simp only [InstructionSpec.texts, solanaTexts, instructionOf, List.map_append, List.map_map,
      List.map_cons, List.map_nil]
    congr 2
    refine List.map_congr_left fun position _ => ?_
    simp only [Function.comp_apply, Position.spec_map]
  have hreadable : (∀ position ∈ positions.map (Position.map PublicKey.toBase58),
      position.Readable) ↔ ∀ position ∈ positions, position.NonDefault := by
    rw [List.forall_mem_map]
    exact forall₂_congr fun position _ => Position.readable_iff
  constructor
  · rintro ⟨spec, ⟨programId, arguments, hselected, hpositions, hreads, rfl⟩, rfl⟩
    obtain ⟨target, htarget, rfl⟩ := selectedProgramText_ok.1 hselected
    exact ⟨target, arguments, htarget, hreadable.1 hpositions, hreads, htexts target arguments⟩
  · rintro ⟨target, arguments, htarget, hpositions, hreads, rfl⟩
    exact ⟨_, ⟨_, arguments, selectedProgramText_ok.2 ⟨target, htarget, rfl⟩,
      hreadable.2 hpositions, hreads, rfl⟩, htexts target arguments⟩

/-- **What is emitted in keys.** -/
theorem rustEmits_iff {selected : TargetVariable} {discriminator : Bytes}
    {positions : List (Position PublicKey)} {arguments : SettlementArguments}
    {instruction : SolanaInstruction} :
    RustEmits selected discriminator positions arguments instruction ↔
      ∃ target, selectedTarget selected = some target ∧
        (∀ position ∈ positions, position.NonDefault) ∧ arguments.amount ≠ 0 ∧
        instruction = instructionOf (chanceryProgramAddressForTarget target) discriminator
          positions arguments := by
  constructor
  · rintro ⟨programId, hselected, hpositions, hpositive, rfl⟩
    obtain ⟨target, htarget, rfl⟩ := Rust.selectedProgramId_ok.1 hselected
    exact ⟨target, htarget, hpositions, hpositive, rfl⟩
  · rintro ⟨target, htarget, hpositions, hpositive, rfl⟩
    exact ⟨_, Rust.selectedProgramId_ok.2 ⟨target, htarget, rfl⟩, hpositions, hpositive, rfl⟩

section

variable {client : ChanceryClient} {selected : TargetVariable}
  (hprogram : ∀ target, selectedTarget selected = some target →
    client.deployment.programAddress = chanceryProgramAddressForTarget target)

include hprogram

/-- **The direct mint of the schema** is what the texts of an instruction say. -/
def MintFollowsSchema (client : ChanceryClient) (operation : MintDirectOperationInput)
    (spec : InstructionSpec) : Prop :=
  ∃ accounts arguments instruction, operation.accounts = accounts.map PublicKey.toBase58 ∧
    operation.Reads arguments ∧ schemaMintDirect client accounts arguments = .ok instruction ∧
    spec.texts = solanaTexts instruction.solana

/-- **The direct redemption of the schema** is what the texts of an instruction say. -/
def RedeemFollowsSchema (client : ChanceryClient) (operation : RedeemDirectOperationInput)
    (spec : InstructionSpec) : Prop :=
  ∃ accounts arguments instruction, operation.accounts = accounts.map PublicKey.toBase58 ∧
    operation.Reads arguments ∧ schemaRedeemDirect client accounts arguments = .ok instruction ∧
    spec.texts = solanaTexts instruction.solana

/-- What is emitted as texts is what the schema gives for the keys behind them. -/
theorem Emits.follows {Accounts : Type → Type} (layout : SchemaLayout Accounts)
    {operation : DirectOperation (Accounts String)} {spec : InstructionSpec}
    (h : Emits selected layout.discriminator (layout.positions operation.accounts) operation
      spec) :
    ∃ accounts arguments instruction,
      operation.accounts = layout.map PublicKey.toBase58 accounts ∧ operation.Reads arguments ∧
      layout.build client accounts arguments = .ok instruction ∧
      spec.texts = solanaTexts instruction.solana := by
  obtain ⟨-, -, -, hreadable, -⟩ := id h
  have haccounts := layout.keys_of_readable hreadable
  rw [haccounts, layout.positions_map] at h
  obtain ⟨target, arguments, htarget, -, hreads, htexts⟩ := emits_iff.1 ⟨spec, h, rfl⟩
  obtain ⟨instruction, hinstruction, hsolana⟩ :=
    layout.build_ok client (layout.map keyOf operation.accounts) arguments
  refine ⟨_, arguments, instruction, haccounts, hreads, hinstruction, ?_⟩
  rw [htexts, hsolana, hprogram target htarget]

/-- What is emitted in keys is what the schema gives for them. -/
theorem RustEmits.follows {Accounts : Type → Type} (layout : SchemaLayout Accounts)
    {accounts : Accounts PublicKey} {arguments : SettlementArguments}
    {instruction : SolanaInstruction}
    (h : RustEmits selected layout.discriminator (layout.positions accounts) arguments
      instruction) :
    ∃ expected, layout.build client accounts arguments = .ok expected ∧
      instruction = expected.solana := by
  obtain ⟨expected, hexpected, hsolana⟩ := layout.build_ok client accounts arguments
  obtain ⟨target, htarget, -, -, rfl⟩ := rustEmits_iff.1 h
  exact ⟨expected, hexpected, by rw [hsolana, hprogram target htarget]⟩

/-- **Every instruction that the builders written by hand emit is the one of the schema**, in
program, accounts, flags, order and data, when both are made for the same target. -/
theorem directSettlement_followsSchema :
    (∀ stringify operation spec,
      TypeScript.buildMintDirectInstruction stringify selected operation = .ok spec →
        MintFollowsSchema client operation spec) ∧
    (∀ stringify operation spec,
      TypeScript.buildRedeemDirectInstruction stringify selected operation = .ok spec →
        RedeemFollowsSchema client operation spec) ∧
    (∀ repr operation spec,
      Python.buildMintDirectInstruction repr selected operation = .ok spec →
        MintFollowsSchema client operation spec) ∧
    (∀ repr operation spec,
      Python.buildRedeemDirectInstruction repr selected operation = .ok spec →
        RedeemFollowsSchema client operation spec) ∧
    (∀ accounts arguments instruction,
      Rust.buildMintDirectInstruction selected accounts arguments = .ok instruction →
        ∃ expected, schemaMintDirect client accounts arguments.settlement = .ok expected ∧
          instruction = expected.solana) ∧
    (∀ accounts arguments instruction,
      Rust.buildRedeemDirectInstruction selected accounts arguments = .ok instruction →
        ∃ expected, schemaRedeemDirect client accounts arguments.settlement = .ok expected ∧
          instruction = expected.solana) := by
  refine ⟨?_, ?_, ?_, ?_, ?_, ?_⟩
  · intro stringify operation spec h
    exact Emits.follows hprogram schemaMint (TypeScript.buildMintDirectInstruction_ok.1 h)
  · intro stringify operation spec h
    exact Emits.follows hprogram schemaRedeem (TypeScript.buildRedeemDirectInstruction_ok.1 h)
  · intro repr operation spec h
    exact Emits.follows hprogram schemaMint (Python.buildMintDirectInstruction_ok.1 h).2
  · intro repr operation spec h
    exact Emits.follows hprogram schemaRedeem (Python.buildRedeemDirectInstruction_ok.1 h).2
  · intro accounts arguments instruction h
    exact RustEmits.follows hprogram schemaMint (Rust.buildMintDirectInstruction_ok.1 h)
  · intro accounts arguments instruction h
    exact RustEmits.follows hprogram schemaRedeem (Rust.buildRedeemDirectInstruction_ok.1 h)

end

namespace SampleOperation

/-- The policy accounts of a sample mint. -/
def policyAccounts : DirectSettlementPolicyAccounts PublicKey where
  feePolicy := some (.replicate 19)
  feeRecipientTokenAccount := some (.replicate 20)
  limitPolicy := none
  hourlyUsageWindow := none
  dailyUsageWindow := none
  weeklyUsageWindow := none
  monthlyUsageWindow := none
  evidencePolicy := none
  assetLimitPolicy := some (.replicate 21)
  assetDailyUsageWindow := some (.replicate 22)
  counterpartyLimitPolicy := none
  counterpartyDailyUsageWindow := none

def accounts : MintDirectAccounts PublicKey where
  moduleActivationState := .replicate 1
  chanceryConfig := .replicate 2
  eventAuthority := .replicate 3
  pauseState := .replicate 4
  assetConfig := .replicate 5
  pathwayPolicy := .replicate 6
  permissionRecord := .replicate 7
  sourceAssetTokenAccount := .replicate 8
  reserveAssetTokenAccount := .replicate 9
  destinationIssuedTokenAccount := .replicate 10
  assetMint := .replicate 11
  issuedTokenMint := .replicate 12
  mintAuthorityPda := .replicate 13
  assetTokenProgram := .replicate 14
  issuedTokenProgram := .replicate 15
  principal := .replicate 16
  assetPauseState := .replicate 17
  issuedTokenControl := .replicate 18
  policyAccounts := policyAccounts

def arguments : Rust.MintDirectArguments where
  pathwayId := ⟨List.replicate 32 7, rfl⟩
  assetAmount := 1000000
  minimumIssuedTokenAmount := 990000

def client : ChanceryClient where
  language := .typescript
  sha256 := platformSha256
  deployment := mainnetDeployment
  commitment := .confirmed

end SampleOperation

theorem directSettlement_followsSchema_sample : ∃ instruction expected,
    Rust.buildMintDirectInstruction .notPresent SampleOperation.accounts
      SampleOperation.arguments = .ok instruction ∧
    schemaMintDirect SampleOperation.client SampleOperation.accounts
      SampleOperation.arguments.settlement = .ok expected ∧ instruction = expected.solana := by
  have hbuilt : Rust.buildMintDirectInstruction .notPresent SampleOperation.accounts
      SampleOperation.arguments = .ok _ := rfl
  have hprogram : ∀ target, selectedTarget .notPresent = some target →
      SampleOperation.client.deployment.programAddress =
        chanceryProgramAddressForTarget target := by
    intro target htarget
    cases htarget
    rfl
  obtain ⟨expected, hexpected, hsolana⟩ :=
    (directSettlement_followsSchema hprogram).2.2.2.2.1 _ _ _ hbuilt
  exact ⟨_, expected, hbuilt, hexpected, hsolana⟩

end Integration

end Chancery
