import Chancery.BinaryCodecLaws

/-!
# The Solana wire format

The reader's side of a transaction, written from the format and not from the compiler: what a
validator decodes and which key, signer and writable status it gives to every index.

* `readLength` — compact-u16, at most three bytes, no redundant ones.
* `decodeMessage`, `decodeTransaction` — version byte, header, keys, blockhash, instructions and
  lookup sections; nothing may be left over.
* `Message.keys` — static keys, then all tables' writable entries, then all readonly ones.
* `Message.isSigner`, `Message.isWritable` — what the header says about an index.
-/

set_option autoImplicit false

namespace Chancery.Wire

/-- The two message formats. -/
inductive Version where
  | legacy
  | v0
  deriving DecidableEq

/-- An instruction over account indexes. -/
structure CompiledInstruction where
  programIdIndex : Nat
  accounts : List Nat
  data : Bytes

/-- The entries of a table that a message loads. -/
structure AddressTableLookup where
  accountKey : PublicKey
  writableIndexes : List Nat
  readonlyIndexes : List Nat

/-- A message as it stands on the wire. -/
structure Message where
  version : Version
  numRequiredSignatures : Nat
  numReadonlySignedAccounts : Nat
  numReadonlyUnsignedAccounts : Nat
  accountKeys : List PublicKey
  recentBlockhash : PublicKey
  instructions : List CompiledInstruction
  addressTableLookups : List AddressTableLookup

/-! ## Readers -/

/-- A parser that returns the rest of its input. -/
abbrev Reader (α : Type) := Bytes → Except String (α × Bytes)

/-- The next byte. -/
def readByte : Reader Nat
  | [] => .error "unexpected end of input"
  | b :: rest => .ok (b.toNat, rest)

/-- A length in one to three bytes. -/
def readLength : Reader Nat
  | [] => .error "unexpected end of input"
  | b0 :: rest =>
    if b0.toNat < 128 then .ok (b0.toNat, rest)
    else match rest with
      | [] => .error "unexpected end of input"
      | b1 :: rest =>
        if b1.toNat = 0 then .error "length has a redundant byte"
        else if b1.toNat < 128 then .ok (b0.toNat - 128 + b1.toNat * 128, rest)
        else match rest with
          | [] => .error "unexpected end of input"
          | b2 :: rest =>
            if b2.toNat = 0 then .error "length has a redundant byte"
            else if 3 < b2.toNat then .error "length exceeds sixteen bits"
            else .ok (b0.toNat - 128 + (b1.toNat - 128) * 128 + b2.toNat * 16384, rest)

/-- The next address. -/
def readKey : Reader PublicKey := fun input => do
  let (bytes, input) ← readBytes 32 "key" input
  let key ← publicKeyFromBytes bytes
  return (key, input)

/-- A length and as many items. -/
def readVector {α : Type} (read : Reader α) : Reader (List α) := fun input => do
  let (count, input) ← readLength input
  Codec.decodeEach (fun _ => read) count 0 input

/-- The next instruction. -/
def readInstruction : Reader CompiledInstruction := fun input => do
  let (programIdIndex, input) ← readByte input
  let (accounts, input) ← readVector readByte input
  let (dataLength, input) ← readLength input
  let (data, input) ← readBytes dataLength "data" input
  return (⟨programIdIndex, accounts, data⟩, input)

/-- The next table lookup. -/
def readLookup : Reader AddressTableLookup := fun input => do
  let (accountKey, input) ← readKey input
  let (writableIndexes, input) ← readVector readByte input
  let (readonlyIndexes, input) ← readVector readByte input
  return (⟨accountKey, writableIndexes, readonlyIndexes⟩, input)

/-- The high bit of the first byte marks a versioned message. -/
def readVersion : Reader Version
  | [] => .error "unexpected end of input"
  | b :: rest =>
    if b.toNat < 128 then .ok (.legacy, b :: rest)
    else if b.toNat = 128 then .ok (.v0, rest)
    else .error "unknown message version"

/-- The lookups of a versioned message. -/
def readLookups : Version → Reader (List AddressTableLookup)
  | .legacy => fun input => .ok ([], input)
  | .v0 => readVector readLookup

/-- The message that bytes spell. -/
def decodeMessage (input : Bytes) : Except String Message := do
  let (version, input) ← readVersion input
  let (numRequiredSignatures, input) ← readByte input
  let (numReadonlySigned, input) ← readByte input
  let (numReadonlyUnsigned, input) ← readByte input
  let (accountKeys, input) ← readVector readKey input
  let (recentBlockhash, input) ← readKey input
  let (instructions, input) ← readVector readInstruction input
  let (lookups, input) ← readLookups version input
  if input.length ≠ 0 then .error "trailing bytes"
  else return {
    version := version
    numRequiredSignatures := numRequiredSignatures
    numReadonlySignedAccounts := numReadonlySigned
    numReadonlyUnsignedAccounts := numReadonlyUnsigned
    accountKeys := accountKeys
    recentBlockhash := recentBlockhash
    instructions := instructions
    addressTableLookups := lookups }

/-- Signatures, then the message they sign. -/
def decodeTransaction (input : Bytes) : Except String (List Bytes × Message) := do
  let (signatures, input) ← readVector (readBytes 64 "signature") input
  let message ← decodeMessage input
  return (signatures, message)

/-! ## Resolution -/

/-- The addresses that a table known by its address holds at the indexes. -/
def tableEntries (tables : List (PublicKey × List PublicKey)) (accountKey : PublicKey)
    (indexes : List Nat) : Option (List PublicKey) := do
  let addresses ← tables.lookup accountKey
  indexes.mapM fun index => addresses[index]?

/-- The addresses that the lookups load from the tables. -/
def loadedEntries (tables : List (PublicKey × List PublicKey))
    (indexes : AddressTableLookup → List Nat) (lookups : List AddressTableLookup) :
    Option (List PublicKey) := do
  let entries ← lookups.mapM fun lookup => tableEntries tables lookup.accountKey (indexes lookup)
  return entries.flatten

/-- The combined key list that instruction indexes refer to. -/
def Message.keys (message : Message) (tables : List (PublicKey × List PublicKey)) :
    Option (List PublicKey) := do
  let writable ← loadedEntries tables (·.writableIndexes) message.addressTableLookups
  let readonly ← loadedEntries tables (·.readonlyIndexes) message.addressTableLookups
  return message.accountKeys ++ writable ++ readonly

/-- How many of the loaded keys are writable ones. -/
def Message.writableLoadedCount (message : Message) : Nat :=
  (message.addressTableLookups.map fun lookup => lookup.writableIndexes.length).sum

/-- Whether an account signs. -/
def Message.isSigner (message : Message) (index : Nat) : Prop :=
  index < message.numRequiredSignatures

/-- Whether an account may be written. -/
def Message.isWritable (message : Message) (index : Nat) : Prop :=
  if index < message.numRequiredSignatures then
    index < message.numRequiredSignatures - message.numReadonlySignedAccounts
  else if index < message.accountKeys.length then
    index < message.accountKeys.length - message.numReadonlyUnsignedAccounts
  else index < message.accountKeys.length + message.writableLoadedCount

end Chancery.Wire
