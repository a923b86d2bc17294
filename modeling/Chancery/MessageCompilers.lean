import Chancery.SolanaTransaction
import Mathlib.Data.Prod.Lex

/-!
# Message compilers

The compilers of `typescript/src/SolanaTransaction.ts`,
`python/chancery_reference/solana_transaction.py` and
`web/instruction-builder/solana-transaction.mjs` on what their callers pass: addresses are texts
that are normalised on the way, and any of them may be none.

* `InstructionInput`, `LookupTableInput` — the arguments.
* `MessageCompiler` — where TypeScript and Python differ; the rest is the same code.
* `MessageCompiler.compileUnversionedMessage`, `MessageCompiler.compileVersionZeroMessage`,
  `webCompileUnversionedMessage`.
-/

set_option autoImplicit false

namespace Chancery

/-- `string | Uint8Array` -/
inductive PublicKeyInput where
  | text (encoded : String)
  | bytes (data : Bytes)

/-- The address that an input spells. -/
def PublicKeyInput.normalize : PublicKeyInput → Except String PublicKey
  | .text encoded => decodePublicKey encoded
  | .bytes data => publicKeyFromBytes data

/-- An account of an instruction as callers write it. -/
structure AccountMetaInput where
  address : String
  isSigner : Bool
  isWritable : Bool

/-- No array is longer than its length can be counted. -/
structure InstructionInput where
  programAddress : String
  accounts : List AccountMetaInput
  data : Bytes
  accounts_safe : isSafeInteger accounts.length = true
  data_safe : isSafeInteger data.length = true

/-- Instructions as callers write them. -/
structure InstructionsInput where
  instructions : List InstructionInput
  instructions_safe : isSafeInteger instructions.length = true

/-- A lookup table as callers write it. -/
structure LookupTableInput where
  address : String
  addresses : List String

/-! ## Aggregation -/

/-- One more use of an account, counted. -/
def aggregateAccountInput (state : Aggregation) (account : AccountMetaInput) :
    Except String Aggregation := do
  let address ← decodePublicKey account.address
  return state.merge address account.isSigner account.isWritable false

/-- The uses of one instruction: its accounts, then its program. -/
def aggregateInstructionInput (state : Aggregation) (instruction : InstructionInput) :
    Except String Aggregation := do
  let state ← instruction.accounts.foldlM aggregateAccountInput state
  let programAddress ← decodePublicKey instruction.programAddress
  return state.merge programAddress false false true

/-- `aggregateAccountMetas`, which all three have. -/
def aggregateInputs (instructions : List InstructionInput) (feePayerInput : PublicKeyInput) :
    Except String (List AggregatedAccountMeta) := do
  let feePayer ← feePayerInput.normalize
  let state ← instructions.foldlM aggregateInstructionInput (initialAggregation feePayer)
  return state.metas

/-! ## Where TypeScript and Python differ -/

/-- The map from the addresses of a table to their indexes, in insertion order. -/
abbrev AddressIndexes := List (PublicKey × Nat)

/-- What the compilers do differently. -/
structure MessageCompiler where
  encodeShortVectorLength : Nat → Except String Bytes
  orderStaticAccountMetas : List AggregatedAccountMeta → List AggregatedAccountMeta
  addTableAddress : AddressIndexes → Nat → String → Except String AddressIndexes

/-- `Map.set` -/
def AddressIndexes.set (indexes : AddressIndexes) (address : PublicKey) (index : Nat) :
    AddressIndexes :=
  if indexes.any (·.1 == address) then
    indexes.map fun entry => if entry.1 == address then (address, index) else entry
  else indexes ++ [(address, index)]

/-- The address is looked up as it is written, and set normalised. -/
def typescriptAddTableAddress (indexes : AddressIndexes) (index : Nat) (address : String) :
    Except String AddressIndexes :=
  if indexes.any (·.1.toBase58 == address) then .ok indexes
  else do
    let normalized ← decodePublicKey address
    return indexes.set normalized index

/-- One more address of a table, as Python indexes it. -/
def pythonAddTableAddress (indexes : AddressIndexes) (index : Nat) (address : String) :
    Except String AddressIndexes := do
  let normalized ← decodePublicKey address
  return if indexes.any (·.1 == normalized) then indexes else indexes ++ [(normalized, index)]

/-- An `int` has no limit. -/
def pythonEncodeShortVectorLength (value : Nat) : Except String Bytes :=
  .ok (shortVectorBytes (value + 1) value)

/-- `key=lambda value: (_account_order_group(value), value.first_seen_index)` -/
def pythonOrderKey (accountMeta : AggregatedAccountMeta) : Nat ×ₗ Nat :=
  toLex (accountOrderGroup accountMeta, accountMeta.firstSeenIndex)

/-- The accounts in message order, as Python sorts them. -/
def pythonOrderStaticAccountMetas (metas : List AggregatedAccountMeta) :
    List AggregatedAccountMeta :=
  metas.insertionSort fun left right => pythonOrderKey left ≤ pythonOrderKey right

/-- The TypeScript compiler. -/
def MessageCompiler.typescript : MessageCompiler where
  encodeShortVectorLength := Chancery.encodeShortVectorLength
  orderStaticAccountMetas := Chancery.orderStaticAccountMetas
  addTableAddress := typescriptAddTableAddress

/-- The Python compiler. -/
def MessageCompiler.python : MessageCompiler where
  encodeShortVectorLength := pythonEncodeShortVectorLength
  orderStaticAccountMetas := pythonOrderStaticAccountMetas
  addTableAddress := pythonAddTableAddress

namespace MessageCompiler

variable (compiler : MessageCompiler)

/-! ## Placement -/

/-- The indexes of a table's addresses. -/
def indexAddresses : Nat → List String → AddressIndexes → Except String AddressIndexes
  | _, [], indexes => .ok indexes
  | index, address :: addresses, indexes => do
    let indexes ← compiler.addTableAddress indexes index address
    indexAddresses (index + 1) addresses indexes

/-- The indexes of every table, none of them too long. -/
def tableAddressIndexes : List LookupTableInput → Except String (List AddressIndexes)
  | [] => .ok []
  | table :: tables =>
    if 256 < table.addresses.length then
      .error s!"Address lookup table {table.address} has more than 256 addresses"
    else do
      let indexes ← compiler.indexAddresses 0 table.addresses []
      let rest ← tableAddressIndexes tables
      return indexes :: rest

/-- The first table that has the address. -/
def placementOf (isWritable : Bool) (address : PublicKey) :
    Nat → List AddressIndexes → Option Chancery.LookupPlacement
  | _, [] => none
  | tableIndex, indexes :: rest =>
    match indexes.lookup address with
    | some addressIndex => some ⟨tableIndex, addressIndex, isWritable⟩
    | none => placementOf isWritable address (tableIndex + 1) rest

/-- Every account static or placed in a table. -/
def placeInputs (tableIndexes : List AddressIndexes) :
    Nat → List AggregatedAccountMeta → PlacementState → PlacementState
  | _, [], state => state
  | metaIndex, accountMeta :: metas, state =>
    if accountMeta.isSigner || accountMeta.isProgram || metaIndex == 0 then
      placeInputs tableIndexes (metaIndex + 1) metas (state.addStatic accountMeta)
    else
      match placementOf accountMeta.isWritable accountMeta.address 0 tableIndexes with
      | none => placeInputs tableIndexes (metaIndex + 1) metas (state.addStatic accountMeta)
      | some placement =>
        placeInputs tableIndexes (metaIndex + 1) metas (state.place accountMeta.address placement)

/-- The addresses at a table's indexes. -/
def loadedInputs (table : LookupTableInput) (kind : String) (indexes : List Nat) :
    Except String (List PublicKey) :=
  indexes.mapM fun index => match table.addresses[index]? with
    | some address => decodePublicKey address
    | none => .error s!"Lookup table {table.address} {kind} index is invalid"

/-- The address of a table is looked at when the table is used. -/
def collectInputs : List LookupTableInput → List (List Nat) → List (List Nat) →
    Except String (List PublicKey × List PublicKey × List CompiledAddressTableLookup)
  | [], _, _ => .ok ([], [], [])
  | table :: tables, writableIndexesByTable, readonlyIndexesByTable =>
    let writableIndexes := writableIndexesByTable.headD []
    let readonlyIndexes := readonlyIndexesByTable.headD []
    if writableIndexes.isEmpty && readonlyIndexes.isEmpty then
      collectInputs tables writableIndexesByTable.tail readonlyIndexesByTable.tail
    else do
      let writable ← loadedInputs table "writable" writableIndexes
      let readonly ← loadedInputs table "readonly" readonlyIndexes
      let tableAddress ← decodePublicKey table.address
      let (moreWritable, moreReadonly, lookups) ←
        collectInputs tables writableIndexesByTable.tail readonlyIndexesByTable.tail
      return (writable ++ moreWritable, readonly ++ moreReadonly,
        ⟨tableAddress, writableIndexes, readonlyIndexes⟩ :: lookups)

/-- The static accounts and the placement of the others. -/
def placeAccountsInLookupTables (metas : List AggregatedAccountMeta)
    (lookupTables : List LookupTableInput) : Except String LookupCompilation := do
  let tableIndexes ← compiler.tableAddressIndexes lookupTables
  let noIndexes := List.replicate lookupTables.length []
  let state := placeInputs tableIndexes 0 metas
    { staticMetas := [], placements := [], writableIndexesByTable := noIndexes
      readonlyIndexesByTable := noIndexes }
  let (writable, readonly, lookups) ←
    collectInputs lookupTables state.writableIndexesByTable state.readonlyIndexesByTable
  return { staticMetas := state.staticMetas
           writableLoadedAddresses := writable
           readonlyLoadedAddresses := readonly
           placements := state.placements
           lookups := lookups }

/-! ## Message bytes -/

/-- The index of an account, static or loaded. -/
def compileAccountInput (keys : List PublicKey)
    (placements : List (PublicKey × Chancery.LookupPlacement)) (account : AccountMetaInput) :
    Except String Nat := do
  let address ← decodePublicKey account.address
  compileAccountIndex keys placements address

/-- Bytes of an instruction over the indexes of its accounts. -/
def compileInstruction (keys : List PublicKey)
    (placements : List (PublicKey × Chancery.LookupPlacement)) (instruction : InstructionInput) :
    Except String Bytes := do
  let programAddress ← decodePublicKey instruction.programAddress
  let programIndex ← compileProgramIndex keys programAddress
  let accountCount ← compiler.encodeShortVectorLength instruction.accounts.length
  let accountIndexes ← instruction.accounts.mapM (compileAccountInput keys placements)
  let dataLength ← compiler.encodeShortVectorLength instruction.data.length
  return UInt8.ofNat programIndex :: accountCount ++ accountIndexes.map UInt8.ofNat ++
    dataLength ++ instruction.data

/-- Bytes of a table lookup. -/
def compileLookup (lookup : CompiledAddressTableLookup) : Except String Bytes := do
  let writableCount ← compiler.encodeShortVectorLength lookup.writableIndexes.length
  let readonlyCount ← compiler.encodeShortVectorLength lookup.readonlyIndexes.length
  return lookup.tableAddress.bytes ++ writableCount ++ lookup.writableIndexes.map UInt8.ofNat ++
    readonlyCount ++ lookup.readonlyIndexes.map UInt8.ofNat

/-- Bytes of the lookups; the unversioned format has none. -/
def compileLookups (version : MessageVersion) (lookups : List CompiledAddressTableLookup) :
    Except String Bytes :=
  match version with
  | .unversioned => .ok []
  | .zero => do
    let lookupCount ← compiler.encodeShortVectorLength lookups.length
    let lookupBytes ← lookups.mapM compiler.compileLookup
    return lookupCount ++ lookupBytes.flatten

/-- Bytes of a message. -/
def compileMessageBytes (version : MessageVersion) (instructions : List InstructionInput)
    (staticMetas : List AggregatedAccountMeta)
    (writableLoadedAddresses readonlyLoadedAddresses : List PublicKey)
    (placements : List (PublicKey × Chancery.LookupPlacement))
    (lookups : List CompiledAddressTableLookup) (recentBlockhash : PublicKeyInput) :
    Except String CompiledSolanaMessage :=
  if 256 < staticMetas.length then
    .error "Compiled message has more than 256 static account keys"
  else
    let requiredSignatures := staticMetas.countP (·.isSigner)
    let readonlySigned := staticMetas.countP fun accountMeta =>
      accountMeta.isSigner && !accountMeta.isWritable
    let readonlyUnsigned := staticMetas.countP fun accountMeta =>
      !accountMeta.isSigner && !accountMeta.isWritable
    if 255 < requiredSignatures ∨ 255 < readonlySigned ∨ 255 < readonlyUnsigned then
      .error "Compiled message header count exceeds one byte"
    else
      let staticAccountKeys := staticMetas.map (·.address)
      let accountKeys := staticAccountKeys ++ writableLoadedAddresses ++ readonlyLoadedAddresses
      if 256 < accountKeys.length then
        .error "Compiled message has more than 256 total account keys"
      else do
        let keyCount ← compiler.encodeShortVectorLength staticAccountKeys.length
        let blockhash ← recentBlockhash.normalize
        let instructionCount ← compiler.encodeShortVectorLength instructions.length
        let instructionBytes ←
          instructions.mapM (compiler.compileInstruction accountKeys placements)
        let lookupBytes ← compiler.compileLookups version lookups
        return {
          version := version
          bytes := versionBytes version ++
            [UInt8.ofNat requiredSignatures, UInt8.ofNat readonlySigned,
              UInt8.ofNat readonlyUnsigned] ++
            keyCount ++ staticAccountKeys.flatMap PublicKey.bytes ++ blockhash.bytes ++
            instructionCount ++ instructionBytes.flatten ++ lookupBytes
          accountKeys := accountKeys
          signerAddresses := (staticMetas.take requiredSignatures).map (·.address)
          numberOfRequiredSignatures := requiredSignatures
          numberOfReadonlySignedAccounts := readonlySigned
          numberOfReadonlyUnsignedAccounts := readonlyUnsigned
          addressTableLookups := lookups }

/-- The unversioned message of a list of instructions. -/
def compileUnversionedMessage (input : InstructionsInput)
    (feePayer recentBlockhash : PublicKeyInput) : Except String CompiledSolanaMessage := do
  let aggregated ← aggregateInputs input.instructions feePayer
  compiler.compileMessageBytes .unversioned input.instructions
    (compiler.orderStaticAccountMetas aggregated) [] [] [] [] recentBlockhash

/-- The version 0 message of a list of instructions. -/
def compileVersionZeroMessage (input : InstructionsInput)
    (feePayer recentBlockhash : PublicKeyInput) (lookupTables : List LookupTableInput) :
    Except String CompiledSolanaMessage :=
  if lookupTables.isEmpty then
    .error "Version-zero compilation requires at least one address lookup table"
  else do
    let aggregated ← aggregateInputs input.instructions feePayer
    let placed ← compiler.placeAccountsInLookupTables aggregated lookupTables
    compiler.compileMessageBytes .zero input.instructions
      (compiler.orderStaticAccountMetas placed.staticMetas) placed.writableLoadedAddresses
      placed.readonlyLoadedAddresses placed.placements placed.lookups recentBlockhash

end MessageCompiler

/-! ## The web builder -/

/-- An instruction over account indexes. -/
structure WebCompiledInstruction where
  programIdIndex : Nat
  accountIndexes : List Nat
  data : Bytes

/-- A message compiled in the browser. -/
structure WebCompiledMessage where
  bytes : Bytes
  accountKeys : List PublicKey
  signerAddresses : List PublicKey
  numberOfRequiredSignatures : Nat
  numberOfReadonlySignedAccounts : Nat
  numberOfReadonlyUnsignedAccounts : Nat
  instructions : List WebCompiledInstruction

/-- The index of an account. -/
def webCompileAccount (accountKeys : List PublicKey) (account : AccountMetaInput) :
    Except String Nat := do
  let address ← decodePublicKey account.address
  match accountIndexByAddress accountKeys address with
  | none => .error ("Instruction account is absent from compiled keys: " ++ address.toBase58)
  | some accountIndex => return accountIndex

/-- The compiled instruction and what it adds to `parts`. -/
def webCompileInstruction (accountKeys : List PublicKey) (instruction : InstructionInput) :
    Except String (WebCompiledInstruction × Bytes) := do
  let programAddress ← decodePublicKey instruction.programAddress
  match accountIndexByAddress accountKeys programAddress with
  | none => .error ("Instruction program address is absent from the static account list: " ++
      programAddress.toBase58)
  | some programIdIndex => do
    let accountIndexes ← instruction.accounts.mapM (webCompileAccount accountKeys)
    let accountCount ← encodeShortVectorLength accountIndexes.length
    let dataLength ← encodeShortVectorLength instruction.data.length
    return (⟨programIdIndex, accountIndexes, instruction.data⟩,
      [UInt8.ofNat programIdIndex] ++ accountCount ++ accountIndexes.map UInt8.ofNat ++
        dataLength ++ instruction.data)

/-- The unversioned message, compiled in the browser. -/
def webCompileUnversionedMessage (input : InstructionsInput)
    (feePayer recentBlockhash : PublicKeyInput) : Except String WebCompiledMessage := do
  let aggregated ← aggregateInputs input.instructions feePayer
  let staticMetas := orderStaticAccountMetas aggregated
  if 256 < staticMetas.length then
    .error "Compiled message has more than 256 static account keys"
  else
    let requiredSignatures := (staticMetas.filter (·.isSigner)).length
    let readonlySigned := (staticMetas.filter fun accountMeta =>
      accountMeta.isSigner && !accountMeta.isWritable).length
    let readonlyUnsigned := (staticMetas.filter fun accountMeta =>
      !accountMeta.isSigner && !accountMeta.isWritable).length
    if 255 < requiredSignatures ∨ 255 < readonlySigned ∨ 255 < readonlyUnsigned then
      .error "Compiled message header count exceeds one byte"
    else do
      let accountKeys := staticMetas.map (·.address)
      let keyCount ← encodeShortVectorLength accountKeys.length
      let blockhash ← recentBlockhash.normalize
      let instructionCount ← encodeShortVectorLength input.instructions.length
      let compiled ← input.instructions.mapM (webCompileInstruction accountKeys)
      return {
        bytes := [UInt8.ofNat requiredSignatures, UInt8.ofNat readonlySigned,
            UInt8.ofNat readonlyUnsigned] ++ keyCount ++ accountKeys.flatMap PublicKey.bytes ++
          blockhash.bytes ++ instructionCount ++ (compiled.map Prod.snd).flatten
        accountKeys := accountKeys
        signerAddresses := accountKeys.take requiredSignatures
        numberOfRequiredSignatures := requiredSignatures
        numberOfReadonlySignedAccounts := readonlySigned
        numberOfReadonlyUnsignedAccounts := readonlyUnsigned
        instructions := compiled.map Prod.fst }

end Chancery
