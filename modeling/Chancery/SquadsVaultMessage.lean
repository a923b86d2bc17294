import Chancery.ProgramAddress
import Chancery.SolanaTransaction

/-!
# Squads vault messages

Model of `typescript/src/squads/SquadsVaultMessage.ts`: instructions are compiled to a standard
message, which is parsed again and written in the form that the Squads program stores.

* `parseStandardCompiledMessage`, `compileSquadsVaultTransactionMessage`.
* `validateSquadsVaultTransactionMessage`, `encodeSquadsVaultTransactionMessage`,
  `decodeSquadsVaultTransactionMessage`.
* `resolveSquadsVaultTransactionExecuteAccounts` — the accounts of an execution.
-/

set_option autoImplicit false

namespace Chancery.Squads

/-- `SQDS4ep65T869zMMBKyuUq6aD6EgTu8psMjkvj52pCf`. -/
def squadsMultisigProgramAddress : PublicKey where
  bytes :=
    [6, 129, 196, 206, 71, 226, 35, 104, 184, 177, 85, 94, 200, 135, 175, 9, 46, 252, 126, 251,
     182, 108, 163, 245, 47, 191, 104, 212, 172, 156, 183, 168]
  length_eq := rfl

/-- The blockhash that vault messages are compiled with. -/
def zeroBlockhash : PublicKey := .replicate 0

/-- An instruction over account indexes. -/
structure SquadsCompiledInstruction where
  programIdIndex : Nat
  accountIndexes : List Nat
  data : Bytes
  deriving DecidableEq

/-- The entries of a table that a vault message loads. -/
structure SquadsMessageAddressTableLookup where
  accountKey : PublicKey
  writableIndexes : List Nat
  readonlyIndexes : List Nat
  deriving DecidableEq

/-- The counts are differences of header bytes, which nothing keeps from being negative. -/
structure SquadsVaultTransactionMessage where
  numSigners : Int
  numWritableSigners : Int
  numWritableNonSigners : Int
  accountKeys : List PublicKey
  instructions : List SquadsCompiledInstruction
  addressTableLookups : List SquadsMessageAddressTableLookup
  deriving DecidableEq

/-- An account of an instruction with the name that a builder gives it. -/
structure NamedAccountMeta extends SolanaInstructionAccountMeta where
  name : String

/-! ## `MessageReader` -/

/-- A parser that returns the rest of its input. -/
abbrev MessageReader (α : Type) := Bytes → Except String (α × Bytes)

namespace MessageReader

/-- The next bytes of the input. -/
def readBytes (byteLength : Nat) (label : String) : MessageReader Bytes := fun input =>
  if input.length < byteLength then .error s!"{label} exceeds the available message bytes"
  else .ok (input.take byteLength, input.drop byteLength)

def readU8 (label : String) : MessageReader Nat := fun input => do
  let (bytes, input) ← readBytes 1 label input
  return (LittleEndian.ofBytes bytes, input)

def readU16 (label : String) : MessageReader Nat := fun input => do
  let (bytes, input) ← readBytes 2 label input
  return (LittleEndian.ofBytes bytes, input)

/-- The loop of `readShortVectorLength`: seven bits a byte, low bits first. -/
def readShortVectorLoop (label : String) : Nat → Nat → Nat → MessageReader Nat
  | 0, _, _ => fun _ => .error s!"{label} has an invalid short-vector encoding"
  | steps + 1, value, multiplier => fun input => do
    let (byteValue, input) ← readU8 label input
    let value := value + byteValue % 128 * multiplier
    if isSafeInteger value = false then .error s!"{label} exceeds the safe integer range"
    else if byteValue < 128 then return (value, input)
    else readShortVectorLoop label steps value (multiplier * 128) input

/-- A length in the short vector format. -/
def readShortVectorLength (label : String) : MessageReader Nat := readShortVectorLoop label 8 0 1

/-- `encodeBase58(reader.readBytes(32, label))`. -/
def readKey (label : String) : MessageReader PublicKey := fun input => do
  let (bytes, input) ← readBytes 32 label input
  let key ← publicKeyFromBytes bytes
  return (key, input)

/-- `[...reader.readBytes(count, label)]`. -/
def readIndexes (count : Nat) (label : String) : MessageReader (List Nat) := fun input => do
  let (bytes, input) ← readBytes count label input
  return (bytes.map UInt8.toNat, input)

/-- Rejection of trailing bytes. -/
def endOfInput (message : String) (input : Bytes) : Except String Unit :=
  rejectWhen (input.length ≠ 0) message

end MessageReader

open MessageReader

/-! ## Validation -/

/-- Range check of a byte. -/
def assertU8 (value : Int) (label : String) : Except String Unit :=
  rejectWhen (value < 0 ∨ 255 < value) s!"{label} must fit in an unsigned byte"

def assertU16 (value : Int) (label : String) : Except String Unit :=
  rejectWhen (value < 0 ∨ 65535 < value) s!"{label} must fit in an unsigned 16-bit integer"

/-- A check of every item, which stops at the first failure. -/
def checkEach {α : Type} (check : α → Except String Unit) : List α → Except String Unit
  | [] => .ok ()
  | item :: items => do
    check item
    checkEach check items

/-- Check of a table lookup. -/
def validateLookup (lookup : SquadsMessageAddressTableLookup) : Except String Unit := do
  assertU8 lookup.writableIndexes.length "message.addressTableLookups.writableIndexes.length"
  assertU8 lookup.readonlyIndexes.length "message.addressTableLookups.readonlyIndexes.length"
  checkEach (fun index : Nat => assertU8 index "message.addressTableLookups.writableIndexes")
    lookup.writableIndexes
  checkEach (fun index : Nat => assertU8 index "message.addressTableLookups.readonlyIndexes")
    lookup.readonlyIndexes

/-- Check of an account index. -/
def validateAccountIndex (totalAccountCount accountIndex : Nat) : Except String Unit := do
  assertU8 accountIndex "message.instructions.accountIndexes"
  rejectWhen (totalAccountCount ≤ accountIndex)
    "Instruction account index exceeds the compiled account-key count"

/-- Check of a compiled instruction. -/
def validateInstruction (keyCount totalAccountCount : Nat)
    (instruction : SquadsCompiledInstruction) : Except String Unit := do
  assertU8 instruction.programIdIndex "message.instructions.programIdIndex"
  rejectWhen (keyCount ≤ instruction.programIdIndex)
    "Instruction program ID must be a static account key"
  assertU8 instruction.accountIndexes.length "message.instructions.accountIndexes.length"
  assertU16 instruction.data.length "message.instructions.data.length"
  checkEach (validateAccountIndex totalAccountCount) instruction.accountIndexes

/-- The number of accounts that the tables load. -/
def loadedAccountCount (lookups : List SquadsMessageAddressTableLookup) : Nat :=
  (lookups.map fun lookup => lookup.writableIndexes.length + lookup.readonlyIndexes.length).sum

/-- Check of a vault message. -/
def validateSquadsVaultTransactionMessage (message : SquadsVaultTransactionMessage) :
    Except String Unit := do
  assertU8 message.numSigners "message.numSigners"
  assertU8 message.numWritableSigners "message.numWritableSigners"
  assertU8 message.numWritableNonSigners "message.numWritableNonSigners"
  assertU8 message.accountKeys.length "message.accountKeys.length"
  assertU8 message.instructions.length "message.instructions.length"
  assertU8 message.addressTableLookups.length "message.addressTableLookups.length"
  rejectWhen (message.numSigners < message.numWritableSigners)
    "message.numWritableSigners exceeds message.numSigners"
  rejectWhen (message.accountKeys.length < message.numSigners)
    "message.numSigners exceeds the static account-key count"
  rejectWhen (message.accountKeys.length - message.numSigners < message.numWritableNonSigners)
    "message.numWritableNonSigners exceeds the static non-signer count"
  checkEach validateLookup message.addressTableLookups
  let totalAccountCount :=
    message.accountKeys.length + loadedAccountCount message.addressTableLookups
  rejectWhen (256 < totalAccountCount)
    "Squads vault transaction message exceeds 256 total account keys"
  checkEach (validateInstruction message.accountKeys.length totalAccountCount)
    message.instructions

/-! ## Compilation -/

/-- An instruction of a standard message. -/
def parseInstruction : MessageReader SquadsCompiledInstruction := fun input => do
  let (programIdIndex, input) ← readU8 "message.instructions.programIdIndex" input
  let (accountIndexCount, input) ←
    readShortVectorLength "message.instructions.accountIndexCount" input
  let (accountIndexes, input) ←
    readIndexes accountIndexCount "message.instructions.accountIndexes" input
  let (dataLength, input) ← readShortVectorLength "message.instructions.dataLength" input
  let (data, input) ← MessageReader.readBytes dataLength "message.instructions.data" input
  return (⟨programIdIndex, accountIndexes, data⟩, input)

/-- A table lookup of a standard message. -/
def parseLookup : MessageReader SquadsMessageAddressTableLookup := fun input => do
  let (accountKey, input) ← readKey "message.addressTableLookups.accountKey" input
  let (writableCount, input) ←
    readShortVectorLength "message.addressTableLookups.writableCount" input
  let (writableIndexes, input) ←
    readIndexes writableCount "message.addressTableLookups.writableIndexes" input
  let (readonlyCount, input) ←
    readShortVectorLength "message.addressTableLookups.readonlyCount" input
  let (readonlyIndexes, input) ←
    readIndexes readonlyCount "message.addressTableLookups.readonlyIndexes" input
  return (⟨accountKey, writableIndexes, readonlyIndexes⟩, input)

/-- Whether the message is taken for one of version zero, and how many signers it has. -/
def parseHeader : MessageReader (Bool × Nat) := fun input => do
  let (firstByte, input) ← readU8 "message.header" input
  if 128 ≤ firstByte then
    if firstByte % 128 ≠ 0 then .error "Only Solana message version zero is supported"
    else do
      let (numSigners, input) ← readU8 "message.numSigners" input
      return ((true, numSigners), input)
  else return ((false, firstByte), input)

/-- The lookups of a versioned message. -/
def parseLookups (isVersionZero : Bool) : MessageReader (List SquadsMessageAddressTableLookup) :=
  fun input =>
    if isVersionZero then do
      let (lookupCount, input) ←
        readShortVectorLength "message.addressTableLookupCount" input
      Codec.decodeEach (fun _ => parseLookup) lookupCount 0 input
    else .ok ([], input)

/-- The vault message that a standard message becomes. -/
def parseStandardCompiledMessage (bytes : Bytes) :
    Except String SquadsVaultTransactionMessage := do
  let ((isVersionZero, numSigners), input) ← parseHeader bytes
  let (numReadonlySignedAccounts, input) ← readU8 "message.numReadonlySignedAccounts" input
  let (numReadonlyUnsignedAccounts, input) ← readU8 "message.numReadonlyUnsignedAccounts" input
  let (staticAccountCount, input) ← readShortVectorLength "message.staticAccountCount" input
  let (accountKeys, input) ←
    Codec.decodeEach (fun _ => readKey "message.accountKeys") staticAccountCount 0 input
  let (_, input) ← MessageReader.readBytes 32 "message.recentBlockhash" input
  let (instructionCount, input) ← readShortVectorLength "message.instructionCount" input
  let (instructions, input) ← Codec.decodeEach (fun _ => parseInstruction) instructionCount 0 input
  let (addressTableLookups, input) ← parseLookups isVersionZero input
  endOfInput "Compiled Solana message has trailing bytes" input
  let message : SquadsVaultTransactionMessage := {
    numSigners := numSigners
    numWritableSigners := numSigners - numReadonlySignedAccounts
    numWritableNonSigners := staticAccountCount - numSigners - numReadonlyUnsignedAccounts
    accountKeys := accountKeys
    instructions := instructions
    addressTableLookups := addressTableLookups }
  validateSquadsVaultTransactionMessage message
  return message

/-- The vault message of a list of instructions. -/
def compileSquadsVaultTransactionMessage (instructions : List SolanaInstruction)
    (vaultAddress : PublicKey) (addressLookupTables : List AddressLookupTable) :
    Except String SquadsVaultTransactionMessage := do
  let compiled ← compileMessage instructions vaultAddress zeroBlockhash addressLookupTables
  let message ← parseStandardCompiledMessage compiled.bytes
  rejectWhen (message.accountKeys[0]? ≠ some vaultAddress)
    "Squads vault must be the first static account key"
  rejectWhen (message.numSigners = 0 ∨ message.numWritableSigners = 0)
    "Squads vault must be a writable signer in the inner message"
  return message

/-! ## Encoding -/

/-- `encodeUnsignedInteger` of `SquadsCodec.ts`, for numbers. -/
def encodeUnsignedInteger (value : Int) (byteLength : Nat) (label : String) :
    Except String Bytes := do
  rejectWhen (isSafeInteger value = false ∨ value < 0)
    s!"{label} must be a safe unsigned integer"
  rejectWhen ((2 : Int) ^ (8 * byteLength) ≤ value)
    s!"{label} exceeds the unsigned {8 * byteLength}-bit range"
  return LittleEndian.toBytes byteLength value.toNat

def encodeU8 (value : Int) (label : String) : Except String Bytes :=
  encodeUnsignedInteger value 1 label

def encodeU16 (value : Int) (label : String) : Except String Bytes :=
  encodeUnsignedInteger value 2 label

/-- Bytes of a compiled instruction. -/
def encodeInstruction (instruction : SquadsCompiledInstruction) : Except String Bytes := do
  let programIdIndex ← encodeU8 instruction.programIdIndex "instruction.programIdIndex"
  let accountCount ← encodeU8 instruction.accountIndexes.length
    "instruction.accountIndexes.length"
  let dataLength ← encodeU16 instruction.data.length "instruction.data.length"
  return programIdIndex ++ (accountCount ++ (instruction.accountIndexes.map UInt8.ofNat ++
    (dataLength ++ instruction.data)))

/-- Bytes of a table lookup. -/
def encodeLookup (lookup : SquadsMessageAddressTableLookup) : Except String Bytes := do
  let writableCount ← encodeU8 lookup.writableIndexes.length "lookup.writableIndexes.length"
  let readonlyCount ← encodeU8 lookup.readonlyIndexes.length "lookup.readonlyIndexes.length"
  return lookup.accountKey.bytes ++ (writableCount ++ (lookup.writableIndexes.map UInt8.ofNat ++
    (readonlyCount ++ lookup.readonlyIndexes.map UInt8.ofNat)))

/-- The parts of `encodeSquadsVaultTransactionMessage` after its validation. -/
def encodeMessageParts (message : SquadsVaultTransactionMessage) : Except String Bytes := do
  let numSigners ← encodeU8 message.numSigners "message.numSigners"
  let numWritableSigners ← encodeU8 message.numWritableSigners "message.numWritableSigners"
  let numWritableNonSigners ←
    encodeU8 message.numWritableNonSigners "message.numWritableNonSigners"
  let keyCount ← encodeU8 message.accountKeys.length "message.accountKeys.length"
  let instructionCount ← encodeU8 message.instructions.length "message.instructions.length"
  let instructions ← Codec.encodeEach (fun _ => encodeInstruction) 0 message.instructions
  let lookupCount ←
    encodeU8 message.addressTableLookups.length "message.addressTableLookups.length"
  let lookups ← Codec.encodeEach (fun _ => encodeLookup) 0 message.addressTableLookups
  return numSigners ++ (numWritableSigners ++ (numWritableNonSigners ++ (keyCount ++
    (message.accountKeys.flatMap PublicKey.bytes ++ (instructionCount ++ (instructions ++
    (lookupCount ++ lookups)))))))

/-- Bytes of a checked vault message. -/
def encodeSquadsVaultTransactionMessage (message : SquadsVaultTransactionMessage) :
    Except String Bytes := do
  validateSquadsVaultTransactionMessage message
  encodeMessageParts message

/-- A compiled instruction read from bytes. -/
def decodeInstruction : MessageReader SquadsCompiledInstruction := fun input => do
  let (programIdIndex, input) ← readU8 "instruction.programIdIndex" input
  let (accountIndexCount, input) ← readU8 "instruction.accountIndexes.length" input
  let (accountIndexes, input) ←
    readIndexes accountIndexCount "instruction.accountIndexes" input
  let (dataLength, input) ← readU16 "instruction.data.length" input
  let (data, input) ← MessageReader.readBytes dataLength "instruction.data" input
  return (⟨programIdIndex, accountIndexes, data⟩, input)

/-- A table lookup read from bytes. -/
def decodeLookup : MessageReader SquadsMessageAddressTableLookup := fun input => do
  let (accountKey, input) ← readKey "lookup.accountKey" input
  let (writableCount, input) ← readU8 "lookup.writableIndexes.length" input
  let (writableIndexes, input) ← readIndexes writableCount "lookup.writableIndexes" input
  let (readonlyCount, input) ← readU8 "lookup.readonlyIndexes.length" input
  let (readonlyIndexes, input) ← readIndexes readonlyCount "lookup.readonlyIndexes" input
  return (⟨accountKey, writableIndexes, readonlyIndexes⟩, input)

/-- A vault message read from bytes, then checked. -/
def decodeSquadsVaultTransactionMessage (bytes : Bytes) :
    Except String SquadsVaultTransactionMessage := do
  let (numSigners, input) ← readU8 "message.numSigners" bytes
  let (numWritableSigners, input) ← readU8 "message.numWritableSigners" input
  let (numWritableNonSigners, input) ← readU8 "message.numWritableNonSigners" input
  let (accountKeyCount, input) ← readU8 "message.accountKeys.length" input
  let (accountKeys, input) ←
    Codec.decodeEach (fun _ => readKey "message.accountKeys") accountKeyCount 0 input
  let (instructionCount, input) ← readU8 "message.instructions.length" input
  let (instructions, input) ←
    Codec.decodeEach (fun _ => decodeInstruction) instructionCount 0 input
  let (lookupCount, input) ← readU8 "message.addressTableLookups.length" input
  let (addressTableLookups, input) ← Codec.decodeEach (fun _ => decodeLookup) lookupCount 0 input
  endOfInput "Squads vault transaction message has trailing bytes" input
  let message : SquadsVaultTransactionMessage := {
    numSigners := numSigners
    numWritableSigners := numWritableSigners
    numWritableNonSigners := numWritableNonSigners
    accountKeys := accountKeys
    instructions := instructions
    addressTableLookups := addressTableLookups }
  validateSquadsVaultTransactionMessage message
  return message

/-! ## Execution -/

/-- A stored message with the tables to load it from. -/
structure ResolveSquadsExecuteAccountsRequest where
  message : SquadsVaultTransactionMessage
  vaultAddress : PublicKey
  transactionAddress : PublicKey
  ephemeralSignerCount : Option Nat
  addressLookupTables : Option (List AddressLookupTable)
  programAddress : Option PublicKey

/-- The ephemeral signer of an index. -/
def deriveSquadsEphemeralSignerAddress (sha256 : Sha256) (transactionAddress : PublicKey)
    (ephemeralSignerIndex : Nat) (programAddress : PublicKey) :
    Except String ProgramAddressResult := do
  let indexSeed ← encodeU8 ephemeralSignerIndex "ephemeralSignerIndex"
  findProgramAddress sha256
    [textSeed "multisig", transactionAddress.bytes, textSeed "ephemeral_signer", indexSeed]
    programAddress

/-- The set of addresses that the program signs for, with the vault first. -/
def programSignerAddresses (sha256 : Sha256) (vaultAddress transactionAddress : PublicKey)
    (ephemeralSignerCount : Nat) (programAddress : PublicKey) : Except String (List PublicKey) := do
  let ephemeral ← (List.range ephemeralSignerCount).mapM fun index => do
    let derived ← deriveSquadsEphemeralSignerAddress sha256 transactionAddress index programAddress
    return derived.address
  return vaultAddress :: ephemeral

/-- The loop that fills `lookupTableByAddress`. -/
def collectTablesByAddress (known : List (PublicKey × AddressLookupTable)) :
    List AddressLookupTable → Except String (List (PublicKey × AddressLookupTable))
  | [] => .ok known
  | table :: tables =>
    if (known.lookup table.address).isSome then
      .error s!"Duplicate address lookup table: {table.address.toBase58}"
    else collectTablesByAddress (known ++ [(table.address, table)]) tables

/-- The account of a lookup table. -/
def lookupMeta (index : Nat) (lookup : SquadsMessageAddressTableLookup) : NamedAccountMeta where
  address := lookup.accountKey
  isSigner := false
  isWritable := false
  name := s!"address_lookup_table_{index}"

/-- A static account; the program signs for some. -/
def staticMeta (message : SquadsVaultTransactionMessage) (programSigners : List PublicKey)
    (index : Nat) (address : PublicKey) : NamedAccountMeta where
  address := address
  isSigner := decide ((index : Int) < message.numSigners) && !programSigners.contains address
  isWritable := decide ((index : Int) < message.numWritableSigners ∨
    message.numSigners ≤ index ∧ (index : Int) < message.numSigners + message.numWritableNonSigners)
  name := s!"static_account_{index}"

/-- The entries that a lookup takes from its table for one kind of access. -/
def tableMetas (outsideMessage : String) (table : AddressLookupTable) (lookupIndex : Nat)
    (isWritable : Bool) (label : String) (indexes : List Nat) :
    Except String (List NamedAccountMeta) :=
  Codec.encodeEach (fun index addressIndex => match table.addresses[addressIndex]? with
    | none => .error outsideMessage
    | some address => .ok [{
        address := address
        isSigner := false
        isWritable := isWritable
        name := s!"{label}_lookup_{lookupIndex}_{index}" }]) 0 indexes

/-- The entries of one lookup, whose table is found by its address. -/
def loadedMetas (outsideMessage : String → PublicKey → String)
    (tableByAddress : PublicKey → Option AddressLookupTable) (lookupIndex : Nat)
    (lookup : SquadsMessageAddressTableLookup) : Except String (List NamedAccountMeta) :=
  match tableByAddress lookup.accountKey with
  | none =>
    .error s!"Missing address lookup table contents for {lookup.accountKey.toBase58}"
  | some table => do
    let writable ← tableMetas (outsideMessage "Writable" lookup.accountKey) table lookupIndex true
      "writable" lookup.writableIndexes
    let readonly ← tableMetas (outsideMessage "Readonly" lookup.accountKey) table lookupIndex false
      "readonly" lookup.readonlyIndexes
    return writable ++ readonly

/-- Message of an index outside its table. -/
def outsideTableMessage (kind : String) (tableAddress : PublicKey) : String :=
  s!"{kind} address lookup index is outside table {tableAddress.toBase58}"

/-- The accounts that an execution passes. -/
def resolveSquadsVaultTransactionExecuteAccounts (sha256 : Sha256)
    (request : ResolveSquadsExecuteAccountsRequest) : Except String (List NamedAccountMeta) := do
  let message := request.message
  validateSquadsVaultTransactionMessage message
  let ephemeralSignerCount := request.ephemeralSignerCount.getD 0
  assertU8 ephemeralSignerCount "ephemeralSignerCount"
  rejectWhen (message.accountKeys[0]? ≠ some request.vaultAddress)
    "Squads execution message does not use the requested vault as its payer"
  rejectWhen (message.numSigners = 0 ∨ message.numWritableSigners = 0)
    "Squads execution message does not mark the vault as a writable signer"
  let programSigners ← programSignerAddresses sha256 request.vaultAddress
    request.transactionAddress ephemeralSignerCount
    (request.programAddress.getD squadsMultisigProgramAddress)
  let lookupTableByAddress ← collectTablesByAddress [] (request.addressLookupTables.getD [])
  let loaded ← Codec.encodeEach
    (loadedMetas outsideTableMessage (lookupTableByAddress.lookup ·)) 0 message.addressTableLookups
  return message.addressTableLookups.mapIdx lookupMeta ++
    (message.accountKeys.mapIdx (staticMeta message programSigners) ++ loaded)

end Chancery.Squads
