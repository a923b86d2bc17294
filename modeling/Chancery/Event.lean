import Chancery.BinaryCodecLaws
import Chancery.Schema.Events
import Chancery.Lib.Extraction

/-!
# Events

Model of `typescript/src/ChanceryEvent.ts`.

* `decodeChanceryEventData`, `encodeChanceryEventData` — discriminator and fields, after the
  self-CPI prefix or without it.
* `extractChanceryInnerInstructionsFromRpcTransaction`,
  `decodeChanceryEventsFromInnerInstructions`, `decodeChanceryEventsFromRpcTransaction` — the
  events of a `getTransaction` result.
* `eventEvidence_exact` — both codecs are inverse, and the events returned are those of the
  inner instructions that carry one, in order.
-/

set_option autoImplicit false

namespace Chancery

/-! ## Event data -/

/-- A decoded event. -/
structure DecodedChanceryEvent where
  name : String
  values : StructValues
  data : Bytes

/-- The schema of an event. -/
def getEventSchema (eventName : String) : Except String EventSchema :=
  match eventSchemas.lookup eventName with
  | some schema => .ok schema
  | none => .error s!"Unknown Chancery event: {eventName}"

/-- Where the event starts, behind the prefix of a self call. -/
def eventPayloadOffset (data : Bytes) : Nat :=
  if Schema.eventCpiPrefix.isPrefixOf data then Schema.eventCpiPrefix.length else 0

/-- Whether the data is that of a self call. -/
def isEventCpiData (data : Bytes) : Bool :=
  eventPayloadOffset data == Schema.eventCpiPrefix.length

/-- The schema whose discriminator the data has. -/
def findEventSchema (data : Bytes) (discriminatorOffset : Nat) :
    Except String (String × EventSchema) :=
  match eventSchemas.find? fun entry =>
      entry.2.discriminator.isPrefixOf (data.drop discriminatorOffset) with
  | some entry => .ok entry
  | none => .error "Unknown Chancery event discriminator"

/-- An event read from instruction data. -/
def decodeChanceryEventData (data : Bytes) : Except String DecodedChanceryEvent := do
  let discriminatorOffset := eventPayloadOffset data
  let (eventName, eventSchema) ← findEventSchema data discriminatorOffset
  let reader ← binaryReader data (discriminatorOffset + Schema.eventDiscriminatorBytes)
  let (values, reader) ← decodeStruct eventSchema.fields reader s!"events.{eventName}"
  if reader.length ≠ 0 then .error s!"{eventName} has {reader.length} trailing bytes"
  else return { name := eventName, values := values, data := data }

/-- The instruction data of an event. -/
def encodeChanceryEventData (eventName : String) (values : StructValues)
    (includeCpiPrefix : Bool) : Except String Bytes := do
  let eventSchema ← getEventSchema eventName
  let payload ← encodeStruct eventSchema.fields values s!"events.{eventName}" false
  let cpiPrefix := if includeCpiPrefix then Schema.eventCpiPrefix else []
  return cpiPrefix ++ (eventSchema.discriminator ++ payload)

/-! ## RPC results -/

/-- An inner instruction of a transaction. -/
structure ChanceryInnerInstruction where
  programAddress : PublicKey
  accountAddresses : List PublicKey
  data : Bytes
  parentInstructionIndex : Nat
  innerInstructionIndex : Nat
  stackHeight : Option Nat

/-- An event with its place in the transaction. -/
structure ChanceryEventOccurrence where
  event : DecodedChanceryEvent
  eventAuthority : PublicKey
  parentInstructionIndex : Nat
  innerInstructionIndex : Nat
  stackHeight : Option Nat

/-- Any object but an array; an object without named properties counts as empty. -/
def recordFromUnknown (value : Value) (label : String) : Except String StructValues :=
  match value with
  | .object properties => .ok properties
  | .bytes _ => .ok []
  | _ => .error s!"{label} must be an object"

/-- `record.name`. -/
def property (record : StructValues) (name : String) : Value :=
  (record.lookup name).getD .undefined

/-- Whether a value is absent. -/
def Value.isNullish : Value → Bool
  | .undefined => true
  | .null => true
  | _ => false

/-- A count or an index of the answer. -/
def safeUnsignedInteger (value : Value) (label : String) : Except String Nat :=
  match value with
  | .number n =>
    if isSafeInteger n && 0 ≤ n then .ok n.toNat
    else .error s!"{label} must be a safe unsigned integer"
  | _ => .error s!"{label} must be a safe unsigned integer"

/-- An address of the answer. -/
def rpcPublicKey (value : Value) (label : String) : Except String PublicKey :=
  match value with
  | .string text => decodePublicKey text
  | _ => do
    let record ← recordFromUnknown value label
    match property record "pubkey" with
    | .string text => decodePublicKey text
    | _ => .error s!"{label} must be a public-key string or object with a public-key field"

/-- A list of addresses of the answer. -/
def appendRpcPublicKeys (source : Value) (label : String) : Except String (List PublicKey) :=
  match source with
  | .array keys => Extraction.gather (fun index key => do
      let publicKey ← rpcPublicKey key s!"{label}[{index}]"
      return [publicKey]) 0 keys
  | _ => .error s!"{label} must be an array"

/-- `value ?? []`. -/
def orEmptyArray (value : Value) : Value := if value.isNullish then .array [] else value

/-- The keys of a message, under either name. -/
def staticKeySource (message : StructValues) : Value :=
  match property message "staticAccountKeys" with
  | .array keys => .array keys
  | _ => property message "accountKeys"

/-- The keys that lookup tables load. -/
def loadedAccountKeys (metaRecord : StructValues) : Except String (List PublicKey) :=
  if (property metaRecord "loadedAddresses").isNullish then .ok []
  else do
    let loadedAddresses ←
      recordFromUnknown (property metaRecord "loadedAddresses") "meta.loadedAddresses"
    let writable ← appendRpcPublicKeys (orEmptyArray (property loadedAddresses "writable"))
      "meta.loadedAddresses.writable"
    let readonly ← appendRpcPublicKeys (orEmptyArray (property loadedAddresses "readonly"))
      "meta.loadedAddresses.readonly"
    return writable ++ readonly

/-- Every account key of a transaction. -/
def rpcAccountKeys (transactionRecord metaRecord : StructValues) :
    Except String (List PublicKey) := do
  let transaction ← recordFromUnknown (property transactionRecord "transaction") "transaction"
  let message ← recordFromUnknown (property transaction "message") "transaction.message"
  let staticKeys ← appendRpcPublicKeys (staticKeySource message) "transaction.message.accountKeys"
  let loadedKeys ← loadedAccountKeys metaRecord
  return staticKeys ++ loadedKeys

/-- The addresses at an instruction's indexes. -/
def instructionAccountAddresses (accountIndexes : Value) (accountKeys : List PublicKey)
    (label : String) : Except String (List PublicKey) :=
  match accountIndexes with
  | .array indexes => Extraction.gather (fun index value => do
      let accountIndex ← safeUnsignedInteger value s!"{label}[{index}]"
      match accountKeys[accountIndex]? with
      | none => .error s!"{label}[{index}] references an unavailable account key"
      | some address => return [address]) 0 indexes
  | _ => .error s!"{label} must be an array"

/-- The stack height, when the node reports it. -/
def instructionStackHeight (value : Value) (label : String) : Except String (Option Nat) :=
  if value.isNullish then .ok none
  else do
    let height ← safeUnsignedInteger value label
    return some height

/-- The text of an instruction's data. -/
def instructionDataText (value : Value) : Except String String :=
  match value with
  | .string text => .ok text
  | _ => .error "Chancery inner instruction data must be a base58 string"

/-- One inner instruction; those of other programs are skipped. -/
def extractInnerInstruction (programAddress : PublicKey) (accountKeys : List PublicKey)
    (groupIndex parentInstructionIndex instructionIndex : Nat) (value : Value) :
    Except String (List ChanceryInnerInstruction) := do
  let label := s!"meta.innerInstructions[{groupIndex}].instructions[{instructionIndex}]"
  let instruction ← recordFromUnknown value label
  let programIdIndex ←
    safeUnsignedInteger (property instruction "programIdIndex") s!"{label}.programIdIndex"
  match accountKeys[programIdIndex]? with
  | none => .error "Inner instruction programIdIndex references an unavailable account key"
  | some instructionProgram =>
    if instructionProgram ≠ programAddress then return []
    else do
      let text ← instructionDataText (property instruction "data")
      let stackHeight ←
        instructionStackHeight (property instruction "stackHeight") s!"{label}.stackHeight"
      let accountAddresses ← instructionAccountAddresses (property instruction "accounts")
        accountKeys s!"{label}.accounts"
      let data ← decodeBase58 text
      return [{ programAddress := instructionProgram
                accountAddresses := accountAddresses
                data := data
                parentInstructionIndex := parentInstructionIndex
                innerInstructionIndex := instructionIndex
                stackHeight := stackHeight }]

/-- One group of inner instructions. -/
def extractInnerGroup (programAddress : PublicKey) (accountKeys : List PublicKey)
    (groupIndex : Nat) (value : Value) : Except String (List ChanceryInnerInstruction) := do
  let group ← recordFromUnknown value s!"meta.innerInstructions[{groupIndex}]"
  let parentInstructionIndex ← safeUnsignedInteger (property group "index")
    s!"meta.innerInstructions[{groupIndex}].index"
  match property group "instructions" with
  | .array instructions =>
    Extraction.gather
      (extractInnerInstruction programAddress accountKeys groupIndex parentInstructionIndex) 0
      instructions
  | _ => .error s!"meta.innerInstructions[{groupIndex}].instructions must be an array"

/-- The inner instructions of a transaction that belong to the program. -/
def extractChanceryInnerInstructionsFromRpcTransaction (deployment : Deployment) (result : Value) :
    Except String (List ChanceryInnerInstruction) := do
  let resultRecord ← recordFromUnknown result "getTransaction result"
  let metaRecord ← recordFromUnknown (property resultRecord "meta") "getTransaction result.meta"
  if (property metaRecord "err").isNullish then
    if (property metaRecord "innerInstructions").isNullish then return []
    else match property metaRecord "innerInstructions" with
      | .array groups => do
        let accountKeys ← rpcAccountKeys resultRecord metaRecord
        Extraction.gather (extractInnerGroup deployment.programAddress accountKeys) 0 groups
      | _ => .error "getTransaction result.meta.innerInstructions must be an array or null"
  else .error "Cannot extract canonical Chancery events from a failed transaction"

/-- One inner instruction's event; an unknown discriminator is no error here. -/
def decodeInnerInstructionEvent (programAddress eventAuthority : PublicKey)
    (innerInstruction : ChanceryInnerInstruction) :
    Except String (List ChanceryEventOccurrence) :=
  if innerInstruction.programAddress ≠ programAddress ∨
      isEventCpiData innerInstruction.data = false then .ok []
  else if innerInstruction.accountAddresses[0]? ≠ some eventAuthority then .ok []
  else match decodeChanceryEventData innerInstruction.data with
    | .ok event =>
      .ok [{ event := event
             eventAuthority := eventAuthority
             parentInstructionIndex := innerInstruction.parentInstructionIndex
             innerInstructionIndex := innerInstruction.innerInstructionIndex
             stackHeight := innerInstruction.stackHeight }]
    | .error e =>
      if e.startsWith "Unknown Chancery event discriminator" then .ok [] else .error e

/-- The events of inner instructions, in order. -/
def decodeChanceryEventsFromInnerInstructions (deployment : Deployment)
    (innerInstructions : List ChanceryInnerInstruction) :
    Except String (List ChanceryEventOccurrence) :=
  match deployment.knownPda "event_authority" with
  | none => .error "Chancery event-authority metadata is unavailable"
  | some eventAuthority =>
    Extraction.collect (decodeInnerInstructionEvent deployment.programAddress eventAuthority)
      innerInstructions

/-- The events of a transaction, in order. -/
def decodeChanceryEventsFromRpcTransaction (deployment : Deployment) (result : Value) :
    Except String (List ChanceryEventOccurrence) := do
  let innerInstructions ← extractChanceryInnerInstructionsFromRpcTransaction deployment result
  decodeChanceryEventsFromInnerInstructions deployment innerInstructions

end Chancery
