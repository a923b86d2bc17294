import Chancery.BinaryCodec
import Chancery.SquadsVaultMessage

/-!
# The web instruction builder's Squads proposals

Model of `web/instruction-builder/solana-message.mjs` and `squads.mjs`: vault messages in one pass,
and the instructions of a proposal.

* `compileSquadsVaultMessage`, `encodeSquadsVaultMessage`.
* `resolveExecutionAccounts` — the remaining accounts of the execution.
* `buildSquadsProposal`.

Program addresses are found as in `ProgramAddress.ts`, statement for statement.
-/

set_option autoImplicit false

namespace Chancery.Web

open Squads (SquadsCompiledInstruction SquadsMessageAddressTableLookup
  SquadsVaultTransactionMessage NamedAccountMeta squadsMultisigProgramAddress)

/-! ## Aggregation -/

/-- An account with every role that the instructions give it. -/
structure AggregatedAccountMeta where
  address : PublicKey
  isSigner : Bool
  isWritable : Bool
  isProgram : Bool
  isPayer : Bool
  firstSeenIndex : Nat

/-- One more use of an account. -/
def mergeAccountMeta (metas : List AggregatedAccountMeta) (address : PublicKey)
    (isSigner isWritable isProgram isPayer : Bool) (firstSeenIndex : Nat) :
    List AggregatedAccountMeta :=
  if metas.any fun existing => existing.address == address then
    metas.map fun existing =>
      if existing.address == address then
        { existing with
          isSigner := existing.isSigner || isSigner
          isWritable := existing.isWritable || isWritable
          isProgram := existing.isProgram || isProgram
          isPayer := existing.isPayer || isPayer }
      else existing
  else
    metas ++ [{ address := address, isSigner := isSigner, isWritable := isWritable
                isProgram := isProgram, isPayer := isPayer, firstSeenIndex := firstSeenIndex }]

/-- The map under construction and the next `firstSeenIndex`. -/
structure Aggregation where
  metas : List AggregatedAccountMeta
  firstSeenIndex : Nat

/-- One more use of an account, counted. -/
def Aggregation.merge (state : Aggregation) (address : PublicKey)
    (isSigner isWritable isProgram isPayer : Bool) : Aggregation where
  metas := mergeAccountMeta state.metas address isSigner isWritable isProgram isPayer
    state.firstSeenIndex
  firstSeenIndex := state.firstSeenIndex + 1

/-- The uses of one instruction. -/
def aggregateInstruction (state : Aggregation) (instruction : SolanaInstruction) : Aggregation :=
  (instruction.accounts.foldl (fun state account =>
      state.merge account.address account.isSigner account.isWritable false false) state).merge
    instruction.programAddress false false true false

/-- The payer alone. -/
def initialAggregation (payer : PublicKey) : Aggregation :=
  Aggregation.merge ⟨[], 0⟩ payer true true false true

/-- Every account that the instructions use. -/
def aggregateAccountMetas (instructions : List SolanaInstruction) (payerAddress : PublicKey) :
    List AggregatedAccountMeta :=
  (instructions.foldl aggregateInstruction (initialAggregation payerAddress)).metas

/-! ## Order -/

/-- Signers before the others, writable before readonly. -/
def accountOrderGroup (accountMeta : AggregatedAccountMeta) : Nat :=
  if accountMeta.isSigner && accountMeta.isWritable then 0
  else if accountMeta.isSigner then 1
  else if accountMeta.isWritable then 2
  else 3

/-- The comparison of `orderStaticMetas`: by group, then by first appearance. -/
def accountOrder (left right : AggregatedAccountMeta) : Prop :=
  accountOrderGroup left < accountOrderGroup right ∨
    accountOrderGroup left = accountOrderGroup right ∧
      left.firstSeenIndex ≤ right.firstSeenIndex

instance (left right : AggregatedAccountMeta) : Decidable (accountOrder left right) :=
  inferInstanceAs (Decidable (_ ∨ _))

/-- The accounts in message order. -/
def orderStaticMetas (metas : List AggregatedAccountMeta) : List AggregatedAccountMeta :=
  metas.insertionSort accountOrder

/-! ## Lookup tables -/

/-- The tables, none of them too long. -/
def normalizeLookupTables (addressLookupTables : List AddressLookupTable) :
    Except String (List AddressLookupTable) :=
  if addressLookupTables.any fun table => decide (256 < table.addresses.length) then
    .error "Address lookup table must contain no more than 256 addresses"
  else .ok addressLookupTables

/-- The first table that lists the address, with its first index there. -/
def findPlacement (address : PublicKey) : Nat → List AddressLookupTable → Option (Nat × Nat)
  | _, [] => none
  | tableIndex, table :: tables =>
    match table.addresses.idxOf? address with
    | some addressIndex => some (tableIndex, addressIndex)
    | none => findPlacement address (tableIndex + 1) tables

/-- The accumulators of the placement loop; the index lists have one entry a table. -/
structure PlacementState where
  staticMetas : List AggregatedAccountMeta
  writableIndexesByTable : List (List Nat)
  readonlyIndexesByTable : List (List Nat)

/-- An account that stays static. -/
def PlacementState.addStatic (state : PlacementState) (accountMeta : AggregatedAccountMeta) :
    PlacementState :=
  { state with staticMetas := state.staticMetas ++ [accountMeta] }

/-- An account that a table holds. -/
def PlacementState.place (state : PlacementState) (isWritable : Bool)
    (tableIndex addressIndex : Nat) : PlacementState :=
  let push (indexes : List Nat) := indexes ++ [addressIndex]
  if isWritable then
    { state with writableIndexesByTable := state.writableIndexesByTable.modify tableIndex push }
  else
    { state with readonlyIndexesByTable := state.readonlyIndexesByTable.modify tableIndex push }

/-- Every account static or placed in a table. -/
def placeMetas (tables : List AddressLookupTable) :
    List AggregatedAccountMeta → PlacementState → PlacementState
  | [], state => state
  | accountMeta :: metas, state =>
    if accountMeta.isSigner || accountMeta.isProgram || accountMeta.isPayer then
      placeMetas tables metas (state.addStatic accountMeta)
    else
      match findPlacement accountMeta.address 0 tables with
      | none => placeMetas tables metas (state.addStatic accountMeta)
      | some (tableIndex, addressIndex) =>
        placeMetas tables metas (state.place accountMeta.isWritable tableIndex addressIndex)

/-- What the tables hold of the message's accounts. -/
structure LookupPlacement where
  writableLoadedAddresses : List PublicKey
  readonlyLoadedAddresses : List PublicKey
  addressTableLookups : List SquadsMessageAddressTableLookup

/-- One section for every table that an account was placed in; the indexes come from the table. -/
def collectLookups : List AddressLookupTable → List (List Nat) → List (List Nat) → LookupPlacement
  | [], _, _ => ⟨[], [], []⟩
  | table :: tables, writableIndexesByTable, readonlyIndexesByTable =>
    let writableIndexes := writableIndexesByTable.headD []
    let readonlyIndexes := readonlyIndexesByTable.headD []
    let others := collectLookups tables writableIndexesByTable.tail readonlyIndexesByTable.tail
    if writableIndexes.isEmpty && readonlyIndexes.isEmpty then others
    else {
      writableLoadedAddresses :=
        writableIndexes.filterMap (table.addresses[·]?) ++ others.writableLoadedAddresses
      readonlyLoadedAddresses :=
        readonlyIndexes.filterMap (table.addresses[·]?) ++ others.readonlyLoadedAddresses
      addressTableLookups :=
        ⟨table.address, writableIndexes, readonlyIndexes⟩ :: others.addressTableLookups }

/-- The static accounts and the placement of the others. -/
def placeAccountsInLookupTables (metas : List AggregatedAccountMeta)
    (addressLookupTables : List AddressLookupTable) :
    Except String (List AggregatedAccountMeta × LookupPlacement) := do
  let tables ← normalizeLookupTables addressLookupTables
  let noIndexes := List.replicate tables.length []
  let state := placeMetas tables metas ⟨[], noIndexes, noIndexes⟩
  return (state.staticMetas,
    collectLookups tables state.writableIndexesByTable state.readonlyIndexesByTable)

/-! ## Compilation -/

/-- The program's index, which is a static one. -/
def compileProgramIndex (keys : List PublicKey) (staticCount : Nat) (programAddress : PublicKey) :
    Except String Nat :=
  match accountIndexByAddress keys programAddress with
  | none => .error "Instruction program address is absent from static account keys"
  | some programIdIndex =>
    if staticCount ≤ programIdIndex then
      .error "Instruction program address is absent from static account keys"
    else .ok programIdIndex

/-- An account's index among all keys. -/
def compileAccountIndex (keys : List PublicKey) (address : PublicKey) : Except String Nat :=
  match accountIndexByAddress keys address with
  | none =>
    .error s!"Instruction account is absent from compiled account keys: {address.toBase58}"
  | some accountIndex => .ok accountIndex

/-- An instruction over the indexes of its accounts. -/
def compileInstruction (keys : List PublicKey) (staticCount : Nat)
    (instruction : SolanaInstruction) : Except String SquadsCompiledInstruction := do
  let programIdIndex ← compileProgramIndex keys staticCount instruction.programAddress
  rejectWhen (255 < instruction.accounts.length ∨ 65535 < instruction.data.length)
    "Instruction exceeds Squads small-vector limits"
  let accountIndexes ← instruction.accounts.mapM fun account =>
    compileAccountIndex keys account.address
  return ⟨programIdIndex, accountIndexes, instruction.data⟩

/-- The vault message of a list of instructions. -/
def compileSquadsVaultMessage (instructions : List SolanaInstruction) (vaultAddress : PublicKey)
    (addressLookupTables : List AddressLookupTable) :
    Except String SquadsVaultTransactionMessage := do
  let aggregated := aggregateAccountMetas instructions vaultAddress
  let (placedMetas, placement) ← placeAccountsInLookupTables aggregated addressLookupTables
  let staticMetas := orderStaticMetas placedMetas
  let accountKeys := staticMetas.map (·.address)
  rejectWhen (255 < accountKeys.length ∨ 255 < instructions.length ∨
    255 < placement.addressTableLookups.length) "Squads small-vector count exceeds 255"
  let keys := accountKeys ++ placement.writableLoadedAddresses ++
    placement.readonlyLoadedAddresses
  rejectWhen (256 < keys.length) "Squads vault message exceeds 256 total account keys"
  let compiledInstructions ← instructions.mapM (compileInstruction keys accountKeys.length)
  return {
    numSigners := staticMetas.countP (·.isSigner)
    numWritableSigners := staticMetas.countP fun m => m.isSigner && m.isWritable
    numWritableNonSigners := staticMetas.countP fun m => !m.isSigner && m.isWritable
    accountKeys := accountKeys
    instructions := compiledInstructions
    addressTableLookups := placement.addressTableLookups }

/-! ## Encoding -/

/-- What `encodeUnsignedInteger` of `wire.mjs` takes for an integer. -/
def integerFromValue (value : Value) (label : String) : Except String Int :=
  let rejected : Except String Int := .error s!"{label} must be an integer"
  match value with
  | .bigint n => .ok n
  | .number n => if isSafeInteger n then .ok n else rejected
  | .string text => match parseDecimal text with
    | some n => .ok n
    | none => rejected
  | _ => rejected

/-- Little-endian bytes of a checked integer. -/
def encodeUnsignedInteger (value : Value) (byteLength : Nat) (label : String) :
    Except String Bytes := do
  let integerValue ← integerFromValue value label
  rejectWhen (integerValue < 0 ∨ (2 : Int) ^ (8 * byteLength) ≤ integerValue)
    s!"{label} exceeds the unsigned {8 * byteLength}-bit range"
  return LittleEndian.toBytes byteLength integerValue.toNat

def encodeU8 (value : Value) (label : String) : Except String Bytes :=
  encodeUnsignedInteger value 1 label

def encodeU16 (value : Value) (label : String) : Except String Bytes :=
  encodeUnsignedInteger value 2 label

def encodeU32 (value : Value) (label : String) : Except String Bytes :=
  encodeUnsignedInteger value 4 label

def encodeU64 (value : Value) (label : String) : Except String Bytes :=
  encodeUnsignedInteger value 8 label

/-- Bytes of a compiled instruction. -/
def encodeInstruction (instruction : SquadsCompiledInstruction) : Except String Bytes := do
  let programIdIndex ← encodeU8 (.number instruction.programIdIndex) "instruction.programIdIndex"
  let accountCount ← encodeU8 (.number instruction.accountIndexes.length)
    "instruction.accountIndexes.length"
  let dataLength ← encodeU16 (.number instruction.data.length) "instruction.data.length"
  return programIdIndex ++ (accountCount ++ (instruction.accountIndexes.map UInt8.ofNat ++
    (dataLength ++ instruction.data)))

/-- Bytes of a table lookup. -/
def encodeLookup (lookup : SquadsMessageAddressTableLookup) : Except String Bytes := do
  let writableCount ← encodeU8 (.number lookup.writableIndexes.length)
    "lookup.writableIndexes.length"
  let readonlyCount ← encodeU8 (.number lookup.readonlyIndexes.length)
    "lookup.readonlyIndexes.length"
  return lookup.accountKey.bytes ++ (writableCount ++ (lookup.writableIndexes.map UInt8.ofNat ++
    (readonlyCount ++ lookup.readonlyIndexes.map UInt8.ofNat)))

/-- Bytes of a vault message. -/
def encodeSquadsVaultMessage (message : SquadsVaultTransactionMessage) : Except String Bytes := do
  let numSigners ← encodeU8 (.number message.numSigners) "message.numSigners"
  let numWritableSigners ← encodeU8 (.number message.numWritableSigners)
    "message.numWritableSigners"
  let numWritableNonSigners ← encodeU8 (.number message.numWritableNonSigners)
    "message.numWritableNonSigners"
  let keyCount ← encodeU8 (.number message.accountKeys.length) "message.accountKeys.length"
  let instructionCount ← encodeU8 (.number message.instructions.length)
    "message.instructions.length"
  let instructions ← Codec.encodeEach (fun _ => encodeInstruction) 0 message.instructions
  let lookupCount ← encodeU8 (.number message.addressTableLookups.length)
    "message.addressTableLookups.length"
  let lookups ← Codec.encodeEach (fun _ => encodeLookup) 0 message.addressTableLookups
  return numSigners ++ (numWritableSigners ++ (numWritableNonSigners ++ (keyCount ++
    (message.accountKeys.flatMap PublicKey.bytes ++ (instructionCount ++ (instructions ++
    (lookupCount ++ lookups)))))))

/-! ## Proposals -/

def solanaSystemProgramAddress : PublicKey := .replicate 0

namespace Discriminator

/-- The discriminator of `vaultTransactionCreate`. -/
def vaultTransactionCreate : Bytes := [48, 250, 78, 168, 208, 226, 218, 211]
def vaultTransactionExecute : Bytes := [194, 8, 161, 87, 153, 164, 25, 171]
def proposalCreate : Bytes := [220, 60, 73, 224, 30, 108, 79, 159]
def proposalActivate : Bytes := [11, 34, 92, 248, 154, 27, 51, 106]
def proposalApprove : Bytes := [144, 37, 164, 136, 188, 216, 42, 248]

end Discriminator

/-- An optional text behind its tag byte. -/
def encodeOptionalString : Option String → Except String Bytes
  | none => .ok [0]
  | some value => do
    let bytes := textSeed value
    let length ← encodeU32 (.number bytes.length) "string.length"
    return 1 :: (length ++ bytes)

/-- Bytes behind their length. -/
def encodeByteVector (bytes : Bytes) : Except String Bytes := do
  let length ← encodeU32 (.number bytes.length) "bytes.length"
  return length ++ bytes

def instructionAccount (name : String) (address : PublicKey) (isSigner isWritable : Bool) :
    NamedAccountMeta where
  name := name
  address := address
  isSigner := isSigner
  isWritable := isWritable

/-- An instruction with named accounts. -/
structure NamedInstruction where
  programAddress : PublicKey
  accounts : List NamedAccountMeta
  data : Bytes

section

variable (sha256 : Sha256)

/-- The vault of a multisig. -/
def deriveSquadsVaultAddress (multisigAddress : PublicKey) (vaultIndex : Value) :
    Except String ProgramAddressResult := do
  let indexSeed ← encodeU8 vaultIndex "vaultIndex"
  findProgramAddress sha256
    [textSeed "multisig", multisigAddress.bytes, textSeed "vault", indexSeed]
    squadsMultisigProgramAddress

/-- The transaction account of an index. -/
def deriveSquadsTransactionAddress (multisigAddress : PublicKey) (transactionIndex : Value) :
    Except String ProgramAddressResult := do
  let indexSeed ← encodeU64 transactionIndex "transactionIndex"
  findProgramAddress sha256
    [textSeed "multisig", multisigAddress.bytes, textSeed "transaction", indexSeed]
    squadsMultisigProgramAddress

/-- The proposal account of an index. -/
def deriveSquadsProposalAddress (multisigAddress : PublicKey) (transactionIndex : Value) :
    Except String ProgramAddressResult := do
  let indexSeed ← encodeU64 transactionIndex "transactionIndex"
  findProgramAddress sha256
    [textSeed "multisig", multisigAddress.bytes, textSeed "transaction", indexSeed,
     textSeed "proposal"]
    squadsMultisigProgramAddress

end

/-- A request for a proposal. -/
structure SquadsProposalRequest where
  multisigAddress : PublicKey
  creatorAddress : PublicKey
  transactionIndex : Value
  instructions : List SolanaInstruction
  vaultIndex : Option Value
  ephemeralSignerCount : Option Nat
  addressLookupTables : Option (List AddressLookupTable)
  rentPayerAddress : Option PublicKey
  approvalMemberAddress : Option PublicKey
  executorMemberAddress : Option PublicKey
  draft : Option Bool
  memo : Option String
  approvalMemo : Option String

namespace SquadsProposalRequest

variable (request : SquadsProposalRequest)

/-- The vault index; the default is 0. -/
def vaultIndexOrZero : Value := request.vaultIndex.getD (.number 0)
def signerCount : Nat := request.ephemeralSignerCount.getD 0
def tables : List AddressLookupTable := request.addressLookupTables.getD []
def rentPayer : PublicKey := request.rentPayerAddress.getD request.creatorAddress
def approvalMember : PublicKey := request.approvalMemberAddress.getD request.creatorAddress
def executorMember : PublicKey := request.executorMemberAddress.getD request.creatorAddress
def isDraft : Bool := request.draft.getD false

end SquadsProposalRequest

/-- The instruction that stores the message. -/
def buildVaultTransactionCreate (request : SquadsProposalRequest)
    (transactionAddress : PublicKey) (transactionMessageBytes : Bytes) :
    Except String NamedInstruction := do
  let vaultIndex ← encodeU8 request.vaultIndexOrZero "vaultIndex"
  let ephemeralSignerCount ← encodeU8 (.number request.signerCount) "ephemeralSignerCount"
  let message ← encodeByteVector transactionMessageBytes
  let memo ← encodeOptionalString request.memo
  return {
    programAddress := squadsMultisigProgramAddress
    accounts := [
      instructionAccount "multisig" request.multisigAddress false true,
      instructionAccount "transaction" transactionAddress false true,
      instructionAccount "creator" request.creatorAddress true false,
      instructionAccount "rent_payer" request.rentPayer true true,
      instructionAccount "system_program" solanaSystemProgramAddress false false]
    data := Discriminator.vaultTransactionCreate ++ (vaultIndex ++ (ephemeralSignerCount ++
      (message ++ memo))) }

/-- The instruction that opens the proposal. -/
def buildProposalCreate (request : SquadsProposalRequest) (proposalAddress : PublicKey) :
    Except String NamedInstruction := do
  let transactionIndex ← encodeU64 request.transactionIndex "transactionIndex"
  return {
    programAddress := squadsMultisigProgramAddress
    accounts := [
      instructionAccount "multisig" request.multisigAddress false false,
      instructionAccount "proposal" proposalAddress false true,
      instructionAccount "creator" request.creatorAddress true false,
      instructionAccount "rent_payer" request.rentPayer true true,
      instructionAccount "system_program" solanaSystemProgramAddress false false]
    data := Discriminator.proposalCreate ++ (transactionIndex ++ [if request.isDraft then 1 else 0]) }

/-- The instruction that activates a draft. -/
def buildProposalActivate (request : SquadsProposalRequest) (proposalAddress : PublicKey) :
    NamedInstruction where
  programAddress := squadsMultisigProgramAddress
  accounts := [
    instructionAccount "multisig" request.multisigAddress false false,
    instructionAccount "member" request.creatorAddress true true,
    instructionAccount "proposal" proposalAddress false true]
  data := Discriminator.proposalActivate

/-- The instruction that approves the proposal. -/
def buildProposalApprove (request : SquadsProposalRequest) (proposalAddress : PublicKey) :
    Except String NamedInstruction := do
  let memo ← encodeOptionalString request.approvalMemo
  return {
    programAddress := squadsMultisigProgramAddress
    accounts := [
      instructionAccount "multisig" request.multisigAddress false false,
      instructionAccount "member" request.approvalMember true true,
      instructionAccount "proposal" proposalAddress false true]
    data := Discriminator.proposalApprove ++ memo }

/-- The instruction that executes the stored message. -/
def buildVaultTransactionExecute (request : SquadsProposalRequest)
    (proposalAddress transactionAddress : PublicKey) (remainingAccounts : List NamedAccountMeta) :
    NamedInstruction where
  programAddress := squadsMultisigProgramAddress
  accounts := [
    instructionAccount "multisig" request.multisigAddress false false,
    instructionAccount "proposal" proposalAddress false true,
    instructionAccount "transaction" transactionAddress false false,
    instructionAccount "member" request.executorMember true false] ++ remainingAccounts
  data := Discriminator.vaultTransactionExecute

/-! ## Execution accounts -/

/-- `lookupTableByAddress.get(address)`: a later table replaces an earlier one at its address. -/
def lookupTableByAddress (tables : List AddressLookupTable) (address : PublicKey) :
    Option AddressLookupTable :=
  tables.reverse.find? fun table => table.address == address

/-- Message of an index outside its table. -/
def outsideTableMessage (kind : String) (_ : PublicKey) : String :=
  s!"{kind} lookup index is outside its table"

/-- The accounts that an execution loads. -/
def resolveExecutionAccounts (sha256 : Sha256) (message : SquadsVaultTransactionMessage)
    (vaultAddress transactionAddress : PublicKey) (ephemeralSignerCount : Nat)
    (addressLookupTables : List AddressLookupTable) : Except String (List NamedAccountMeta) := do
  let programSigners ← Squads.programSignerAddresses sha256 vaultAddress transactionAddress
    ephemeralSignerCount squadsMultisigProgramAddress
  let loaded ← Codec.encodeEach
    (Squads.loadedMetas outsideTableMessage (lookupTableByAddress addressLookupTables)) 0
    message.addressTableLookups
  return message.addressTableLookups.mapIdx Squads.lookupMeta ++
    (message.accountKeys.mapIdx (Squads.staticMeta message programSigners) ++ loaded)

/-- A built proposal, with its instructions. -/
structure SquadsProposal where
  vault : ProgramAddressResult
  transaction : ProgramAddressResult
  proposal : ProgramAddressResult
  transactionMessage : SquadsVaultTransactionMessage
  transactionMessageBytes : Bytes
  creation : List NamedInstruction
  activation : Option NamedInstruction
  approval : NamedInstruction
  execution : NamedInstruction

/-- The proposal of a request. -/
def buildSquadsProposal (sha256 : Sha256) (request : SquadsProposalRequest) :
    Except String SquadsProposal := do
  let vault ← deriveSquadsVaultAddress sha256 request.multisigAddress request.vaultIndexOrZero
  let transaction ←
    deriveSquadsTransactionAddress sha256 request.multisigAddress request.transactionIndex
  let proposal ← deriveSquadsProposalAddress sha256 request.multisigAddress request.transactionIndex
  let transactionMessage ←
    compileSquadsVaultMessage request.instructions vault.address request.tables
  rejectWhen (transactionMessage.accountKeys[0]? ≠ some vault.address)
    "Squads vault is not the message payer"
  let transactionMessageBytes ← encodeSquadsVaultMessage transactionMessage
  let vaultTransactionCreate ←
    buildVaultTransactionCreate request transaction.address transactionMessageBytes
  let proposalCreate ← buildProposalCreate request proposal.address
  let approval ← buildProposalApprove request proposal.address
  let remainingAccounts ← resolveExecutionAccounts sha256 transactionMessage vault.address
    transaction.address request.signerCount request.tables
  return {
    vault := vault
    transaction := transaction
    proposal := proposal
    transactionMessage := transactionMessage
    transactionMessageBytes := transactionMessageBytes
    creation := [vaultTransactionCreate, proposalCreate]
    activation :=
      if request.isDraft then some (buildProposalActivate request proposal.address) else none
    approval := approval
    execution := buildVaultTransactionExecute request proposal.address transaction.address
      remainingAccounts }

end Chancery.Web
