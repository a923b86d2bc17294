import Chancery.Value
import Chancery.Lib.Codec
import Mathlib.Data.List.Sort

/-!
# Transactions

Model of `typescript/src/SolanaTransaction.ts`: metas are aggregated by address, ordered, placed
in lookup tables where they may be, and written out.

* `aggregateAccountMetas`, `orderStaticAccountMetas`, `placeAccountsInLookupTables`,
  `compileMessageBytes` — the four stages.
* `compileUnversionedMessage`, `compileVersionZeroMessage`, `signSolanaTransaction`.

The Ed25519 operations come from the platform; `Ed25519` is what the code calls of them.
-/

set_option autoImplicit false

namespace Chancery

/-- An account of an instruction. -/
structure SolanaInstructionAccountMeta where
  address : PublicKey
  isSigner : Bool
  isWritable : Bool

/-- An instruction to be compiled. -/
structure SolanaInstruction where
  programAddress : PublicKey
  accounts : List SolanaInstructionAccountMeta
  data : Bytes

/-- An address with the seed of its secret key. -/
structure SolanaKeypair where
  publicKey : PublicKey
  secretKeySeed : Bytes

/-- A lookup table with its addresses. -/
structure AddressLookupTable where
  address : PublicKey
  addresses : List PublicKey

/-- The entries of a table that a message loads. -/
structure CompiledAddressTableLookup where
  tableAddress : PublicKey
  writableIndexes : List Nat
  readonlyIndexes : List Nat

/-- The two message formats. -/
inductive MessageVersion where
  | unversioned
  | zero
  deriving DecidableEq

/-- A compiled message, with its header. -/
structure CompiledSolanaMessage where
  version : MessageVersion
  bytes : Bytes
  accountKeys : List PublicKey
  signerAddresses : List PublicKey
  numberOfRequiredSignatures : Nat
  numberOfReadonlySignedAccounts : Nat
  numberOfReadonlyUnsignedAccounts : Nat
  addressTableLookups : List CompiledAddressTableLookup

/-- A signed transaction. -/
structure SignedSolanaTransaction where
  bytes : Bytes
  message : CompiledSolanaMessage
  signatures : List (PublicKey × Bytes)
  primarySignature : String

/-- An account with every role that the instructions give it. -/
structure AggregatedAccountMeta where
  address : PublicKey
  firstSeenIndex : Nat
  isSigner : Bool
  isWritable : Bool
  isProgram : Bool

/-- Where a table holds an account. -/
structure LookupPlacement where
  tableIndex : Nat
  addressIndex : Nat
  isWritable : Bool

/-- The static accounts, and what the tables load. -/
structure LookupCompilation where
  staticMetas : List AggregatedAccountMeta
  writableLoadedAddresses : List PublicKey
  readonlyLoadedAddresses : List PublicKey
  placements : List (PublicKey × LookupPlacement)
  lookups : List CompiledAddressTableLookup

/-! ## Short-vector lengths -/

/-- Seven bits a byte, low bits first; the high bit says that more follow. -/
def shortVectorBytes : Nat → Nat → Bytes
  | 0, _ => []
  | fuel + 1, remaining =>
    if 0 < remaining / 128 then
      UInt8.ofNat (remaining % 128 + 128) :: shortVectorBytes fuel (remaining / 128)
    else [UInt8.ofNat (remaining % 128)]

/-- A length in the short vector format. -/
def encodeShortVectorLength (value : Nat) : Except String Bytes :=
  if isSafeInteger value then .ok (shortVectorBytes (value + 1) value)
  else .error "Short-vector length must be a safe unsigned integer"

/-! ## Aggregation -/

/-- The map keeps its entries in the order in which their addresses were first set. -/
def mergeAccountMeta (metas : List AggregatedAccountMeta) (address : PublicKey)
    (isSigner isWritable isProgram : Bool) (firstSeenIndex : Nat) : List AggregatedAccountMeta :=
  if metas.any fun existing => existing.address == address then
    metas.map fun existing =>
      if existing.address == address then
        { existing with
          isSigner := existing.isSigner || isSigner
          isWritable := existing.isWritable || isWritable
          isProgram := existing.isProgram || isProgram }
      else existing
  else
    metas ++ [{ address := address, firstSeenIndex := firstSeenIndex, isSigner := isSigner
                isWritable := isWritable, isProgram := isProgram }]

/-- The map under construction and the next `firstSeenIndex`. -/
structure Aggregation where
  metas : List AggregatedAccountMeta
  firstSeenIndex : Nat

/-- One more use of an account, counted. -/
def Aggregation.merge (state : Aggregation) (address : PublicKey)
    (isSigner isWritable isProgram : Bool) : Aggregation where
  metas := mergeAccountMeta state.metas address isSigner isWritable isProgram state.firstSeenIndex
  firstSeenIndex := state.firstSeenIndex + 1

/-- The uses of one instruction: its accounts, then its program. -/
def aggregateInstruction (state : Aggregation) (instruction : SolanaInstruction) : Aggregation :=
  (instruction.accounts.foldl (fun state account =>
      state.merge account.address account.isSigner account.isWritable false) state).merge
    instruction.programAddress false false true

/-- The fee payer alone. -/
def initialAggregation (feePayer : PublicKey) : Aggregation where
  metas := [{ address := feePayer, firstSeenIndex := 0, isSigner := true, isWritable := true
              isProgram := false }]
  firstSeenIndex := 1

/-- Every account that the instructions use. -/
def aggregateAccountMetas (instructions : List SolanaInstruction) (feePayer : PublicKey) :
    List AggregatedAccountMeta :=
  (instructions.foldl aggregateInstruction (initialAggregation feePayer)).metas

/-! ## Order -/

/-- Signers before the others, writable before readonly. -/
def accountOrderGroup (accountMeta : AggregatedAccountMeta) : Nat :=
  if accountMeta.isSigner && accountMeta.isWritable then 0
  else if accountMeta.isSigner then 1
  else if accountMeta.isWritable then 2
  else 3

/-- The comparison of `ordered.sort`: by group, then by first appearance. -/
def accountOrder (left right : AggregatedAccountMeta) : Prop :=
  accountOrderGroup left < accountOrderGroup right ∨
    accountOrderGroup left = accountOrderGroup right ∧
      left.firstSeenIndex ≤ right.firstSeenIndex

instance (left right : AggregatedAccountMeta) : Decidable (accountOrder left right) :=
  inferInstanceAs (Decidable (_ ∨ _))

/-- The accounts in message order. -/
def orderStaticAccountMetas (metas : List AggregatedAccountMeta) : List AggregatedAccountMeta :=
  metas.insertionSort accountOrder

/-! ## Lookup tables -/

/-- The first table that lists the address, with its first index there. -/
def findPlacement (isWritable : Bool) (address : PublicKey) :
    Nat → List AddressLookupTable → Option LookupPlacement
  | _, [] => none
  | tableIndex, table :: tables =>
    match table.addresses.idxOf? address with
    | some addressIndex => some ⟨tableIndex, addressIndex, isWritable⟩
    | none => findPlacement isWritable address (tableIndex + 1) tables

/-- The accumulators of the placement loop; the index lists have one entry a table. -/
structure PlacementState where
  staticMetas : List AggregatedAccountMeta
  placements : List (PublicKey × LookupPlacement)
  writableIndexesByTable : List (List Nat)
  readonlyIndexesByTable : List (List Nat)

/-- An account that stays static. -/
def PlacementState.addStatic (state : PlacementState) (accountMeta : AggregatedAccountMeta) :
    PlacementState :=
  { state with staticMetas := state.staticMetas ++ [accountMeta] }

/-- An account that a table holds. -/
def PlacementState.place (state : PlacementState) (address : PublicKey)
    (placement : LookupPlacement) : PlacementState :=
  let push (indexes : List Nat) := indexes ++ [placement.addressIndex]
  let placed := { state with placements := state.placements ++ [(address, placement)] }
  if placement.isWritable then
    { placed with writableIndexesByTable :=
        state.writableIndexesByTable.modify placement.tableIndex push }
  else
    { placed with readonlyIndexesByTable :=
        state.readonlyIndexesByTable.modify placement.tableIndex push }

/-- Signers, programs and the first meta stay static; any other meta found in a table is placed. -/
def placeMetas (tables : List AddressLookupTable) :
    Nat → List AggregatedAccountMeta → PlacementState → PlacementState
  | _, [], state => state
  | metaIndex, accountMeta :: metas, state =>
    if accountMeta.isSigner || accountMeta.isProgram || metaIndex == 0 then
      placeMetas tables (metaIndex + 1) metas (state.addStatic accountMeta)
    else
      match findPlacement accountMeta.isWritable accountMeta.address 0 tables with
      | none => placeMetas tables (metaIndex + 1) metas (state.addStatic accountMeta)
      | some placement =>
        placeMetas tables (metaIndex + 1) metas (state.place accountMeta.address placement)

/-- The addresses a table holds at the indexes. -/
def loadedAddresses (table : AddressLookupTable) (kind : String) (indexes : List Nat) :
    Except String (List PublicKey) :=
  Codec.encodeEach (fun _ index => match table.addresses[index]? with
    | some address => .ok [address]
    | none => .error s!"Lookup table {table.address.toBase58} {kind} index is invalid") 0 indexes

/-- One section for every table that an account was placed in. -/
def collectLookups : List AddressLookupTable → List (List Nat) → List (List Nat) →
    Except String (List PublicKey × List PublicKey × List CompiledAddressTableLookup)
  | [], _, _ => .ok ([], [], [])
  | table :: tables, writableIndexesByTable, readonlyIndexesByTable =>
    let writableIndexes := writableIndexesByTable.headD []
    let readonlyIndexes := readonlyIndexesByTable.headD []
    if writableIndexes.isEmpty && readonlyIndexes.isEmpty then
      collectLookups tables writableIndexesByTable.tail readonlyIndexesByTable.tail
    else do
      let writable ← loadedAddresses table "writable" writableIndexes
      let readonly ← loadedAddresses table "readonly" readonlyIndexes
      let (moreWritable, moreReadonly, lookups) ←
        collectLookups tables writableIndexesByTable.tail readonlyIndexesByTable.tail
      return (writable ++ moreWritable, readonly ++ moreReadonly,
        ⟨table.address, writableIndexes, readonlyIndexes⟩ :: lookups)

/-- The static accounts and the placement of the others. -/
def placeAccountsInLookupTables (metas : List AggregatedAccountMeta)
    (lookupTables : List AddressLookupTable) : Except String LookupCompilation :=
  match lookupTables.find? fun table => 256 < table.addresses.length with
  | some table =>
    .error s!"Address lookup table {table.address.toBase58} has more than 256 addresses"
  | none => do
    let noIndexes := List.replicate lookupTables.length []
    let state := placeMetas lookupTables 0 metas
      { staticMetas := [], placements := [], writableIndexesByTable := noIndexes
        readonlyIndexesByTable := noIndexes }
    let (writable, readonly, lookups) ←
      collectLookups lookupTables state.writableIndexesByTable state.readonlyIndexesByTable
    return { staticMetas := state.staticMetas
             writableLoadedAddresses := writable
             readonlyLoadedAddresses := readonly
             placements := state.placements
             lookups := lookups }

/-! ## Message bytes -/

/-- `accountIndexByAddress.get(address)`: a later key replaces an earlier equal one. -/
def accountIndexByAddress (keys : List PublicKey) (address : PublicKey) : Option Nat :=
  (keys.zipIdx.reverse.find? fun entry => entry.1 == address).map Prod.snd

/-- The index of a program. -/
def compileProgramIndex (keys : List PublicKey) (programAddress : PublicKey) :
    Except String Nat :=
  match accountIndexByAddress keys programAddress with
  | none => .error s!"Instruction program address is absent from the static account list: {programAddress.toBase58}"
  | some programIndex =>
    if 255 < programIndex then
      .error s!"Instruction program address is absent from the static account list: {programAddress.toBase58}"
    else .ok programIndex

/-- The index of an account, static or loaded. -/
def compileAccountIndex (keys : List PublicKey) (placements : List (PublicKey × LookupPlacement))
    (address : PublicKey) : Except String Nat :=
  let placementText := match placements.lookup address with
    | none => ""
    | some placement => s!" via table {placement.tableIndex}"
  match accountIndexByAddress keys address with
  | none =>
    .error s!"Instruction account is absent from compiled keys: {address.toBase58}{placementText}"
  | some compiledIndex =>
    if 255 < compiledIndex then
      .error s!"Instruction account is absent from compiled keys: {address.toBase58}{placementText}"
    else .ok compiledIndex

/-- Bytes of an instruction over the indexes of its accounts. -/
def compileInstruction (keys : List PublicKey) (placements : List (PublicKey × LookupPlacement))
    (instruction : SolanaInstruction) : Except String Bytes := do
  let programIndex ← compileProgramIndex keys instruction.programAddress
  let accountCount ← encodeShortVectorLength instruction.accounts.length
  let accountIndexes ← Codec.encodeEach (fun _ (account : SolanaInstructionAccountMeta) => do
    let compiledIndex ← compileAccountIndex keys placements account.address
    return [UInt8.ofNat compiledIndex]) 0 instruction.accounts
  let dataLength ← encodeShortVectorLength instruction.data.length
  return UInt8.ofNat programIndex :: accountCount ++ accountIndexes ++ dataLength ++
    instruction.data

/-- Bytes of a table lookup. -/
def compileLookup (lookup : CompiledAddressTableLookup) : Except String Bytes := do
  let writableCount ← encodeShortVectorLength lookup.writableIndexes.length
  let readonlyCount ← encodeShortVectorLength lookup.readonlyIndexes.length
  return lookup.tableAddress.bytes ++ writableCount ++ lookup.writableIndexes.map UInt8.ofNat ++
    readonlyCount ++ lookup.readonlyIndexes.map UInt8.ofNat

/-- Bytes of the lookups; the unversioned format has none. -/
def compileLookups (version : MessageVersion) (lookups : List CompiledAddressTableLookup) :
    Except String Bytes :=
  match version with
  | .unversioned => .ok []
  | .zero => do
    let lookupCount ← encodeShortVectorLength lookups.length
    let lookupBytes ← Codec.encodeEach (fun _ => compileLookup) 0 lookups
    return lookupCount ++ lookupBytes

/-- The version prefix. -/
def versionBytes : MessageVersion → Bytes
  | .unversioned => []
  | .zero => [0x80]

/-- Bytes of a message. -/
def compileMessageBytes (version : MessageVersion) (instructions : List SolanaInstruction)
    (staticMetas : List AggregatedAccountMeta)
    (writableLoadedAddresses readonlyLoadedAddresses : List PublicKey)
    (placements : List (PublicKey × LookupPlacement)) (lookups : List CompiledAddressTableLookup)
    (recentBlockhash : PublicKey) : Except String CompiledSolanaMessage :=
  if 256 < staticMetas.length then
    .error "Compiled message has more than 256 static account keys"
  else
    let requiredSignatures := staticMetas.countP (·.isSigner)
    let readonlySigned := staticMetas.countP fun accountMeta => accountMeta.isSigner && !accountMeta.isWritable
    let readonlyUnsigned := staticMetas.countP fun accountMeta => !accountMeta.isSigner && !accountMeta.isWritable
    if 255 < requiredSignatures ∨ 255 < readonlySigned ∨ 255 < readonlyUnsigned then
      .error "Compiled message header count exceeds one byte"
    else
      let staticAccountKeys := staticMetas.map (·.address)
      let accountKeys := staticAccountKeys ++ writableLoadedAddresses ++ readonlyLoadedAddresses
      if 256 < accountKeys.length then
        .error "Compiled message has more than 256 total account keys"
      else do
        let keyCount ← encodeShortVectorLength staticAccountKeys.length
        let instructionCount ← encodeShortVectorLength instructions.length
        let instructionBytes ←
          Codec.encodeEach (fun _ => compileInstruction accountKeys placements) 0 instructions
        let lookupBytes ← compileLookups version lookups
        return {
          version := version
          bytes := versionBytes version ++
            ([UInt8.ofNat requiredSignatures, UInt8.ofNat readonlySigned,
              UInt8.ofNat readonlyUnsigned] ++
            (keyCount ++ (staticAccountKeys.flatMap PublicKey.bytes ++
            (recentBlockhash.bytes ++
            (instructionCount ++ (instructionBytes ++ lookupBytes))))))
          accountKeys := accountKeys
          signerAddresses := (staticMetas.take requiredSignatures).map (·.address)
          numberOfRequiredSignatures := requiredSignatures
          numberOfReadonlySignedAccounts := readonlySigned
          numberOfReadonlyUnsignedAccounts := readonlyUnsigned
          addressTableLookups := lookups }

/-- The unversioned message of a list of instructions. -/
def compileUnversionedMessage (instructions : List SolanaInstruction)
    (feePayer recentBlockhash : PublicKey) : Except String CompiledSolanaMessage :=
  compileMessageBytes .unversioned instructions
    (orderStaticAccountMetas (aggregateAccountMetas instructions feePayer)) [] [] [] []
    recentBlockhash

/-- The version 0 message of a list of instructions. -/
def compileVersionZeroMessage (instructions : List SolanaInstruction)
    (feePayer recentBlockhash : PublicKey) (lookupTables : List AddressLookupTable) :
    Except String CompiledSolanaMessage :=
  if lookupTables.isEmpty then
    .error "Version-zero compilation requires at least one address lookup table"
  else do
    let placed ←
      placeAccountsInLookupTables (aggregateAccountMetas instructions feePayer) lookupTables
    compileMessageBytes .zero instructions (orderStaticAccountMetas placed.staticMetas)
      placed.writableLoadedAddresses placed.readonlyLoadedAddresses placed.placements
      placed.lookups recentBlockhash

/-- The choice callers make: no lookup table, no version. -/
def compileMessage (instructions : List SolanaInstruction) (feePayer recentBlockhash : PublicKey)
    (lookupTables : List AddressLookupTable) : Except String CompiledSolanaMessage :=
  if lookupTables.isEmpty then compileUnversionedMessage instructions feePayer recentBlockhash
  else compileVersionZeroMessage instructions feePayer recentBlockhash lookupTables

/-! ## Signing -/

/-- `createPublicKey(privateKey).export(…)` and `sign(null, message, privateKey)`, by seed. -/
structure Ed25519 where
  exportPublicKey : Bytes → Bytes
  signBytes : Bytes → Bytes → Bytes

/-- The largest transaction that is sent. -/
def maxTransactionBytes : Nat := 1232

/-- The public key of a seed. -/
def publicKeyBytesFromSeed (ed25519 : Ed25519) (seed : Bytes) : Except String Bytes :=
  if seed.length ≠ 32 then .error "Ed25519 seed must contain 32 bytes"
  else
    let exported := ed25519.exportPublicKey seed
    if exported.length < 32 then .error "Ed25519 public-key export is too short"
    else .ok (exported.drop (exported.length - 32))

/-- A signature by a keypair whose address fits its seed. -/
def signMessageWithKeypair (ed25519 : Ed25519) (message : Bytes) (keypair : SolanaKeypair) :
    Except String Bytes := do
  let actualPublicKey ← publicKeyBytesFromSeed ed25519 keypair.secretKeySeed
  if actualPublicKey ≠ keypair.publicKey.bytes then
    .error s!"Secret seed does not match public key {keypair.publicKey.toBase58}"
  else return ed25519.signBytes message keypair.secretKeySeed

/-- Bytes of the signatures and the message. -/
def serializeTransaction (messageBytes : Bytes) (signatures : List Bytes) :
    Except String Bytes := do
  let signatureCount ← encodeShortVectorLength signatures.length
  let signatureBytes ← Codec.encodeEach (fun index (signature : Bytes) =>
    if signature.length ≠ 64 then
      .error s!"Transaction signature {index} must contain 64 bytes"
    else .ok signature) 0 signatures
  return signatureCount ++ (signatureBytes ++ messageBytes)

/-- A later keypair for the same public key replaces an earlier one. -/
def keypairByPublicKey (keypairs : List SolanaKeypair) (address : PublicKey) :
    Option SolanaKeypair :=
  keypairs.reverse.find? fun keypair => keypair.publicKey == address

/-- The signatures of the signers, in order. -/
def signForSigners (ed25519 : Ed25519) (message : Bytes) (keypairs : List SolanaKeypair) :
    List PublicKey → Except String (List (PublicKey × Bytes))
  | [] => .ok []
  | signerAddress :: signerAddresses =>
    match keypairByPublicKey keypairs signerAddress with
    | none => .error s!"Missing keypair for required signer {signerAddress.toBase58}"
    | some keypair => do
      let signature ← signMessageWithKeypair ed25519 message keypair
      let signatures ← signForSigners ed25519 message keypairs signerAddresses
      return (signerAddress, signature) :: signatures

/-- A compiled message signed by every signer. -/
def signSolanaTransaction (ed25519 : Ed25519) (message : CompiledSolanaMessage)
    (keypairs : List SolanaKeypair) : Except String SignedSolanaTransaction := do
  let signatures ← signForSigners ed25519 message.bytes keypairs message.signerAddresses
  let bytes ← serializeTransaction message.bytes (signatures.map Prod.snd)
  if maxTransactionBytes < bytes.length then
    .error s!"Serialized transaction is {bytes.length} bytes; Solana packet limit is {maxTransactionBytes}. Compile a version-zero message with an address lookup table."
  else match signatures with
    | [] => .error "Transaction has no required signatures"
    | (_, firstSignature) :: _ =>
      return { bytes := bytes, message := message, signatures := signatures
               primarySignature := encodeBase58 firstSignature }

end Chancery
