import Chancery.ProgramAddress
import Chancery.Rpc
import Chancery.Schema
import Chancery.BinaryCodec

/-!
# The protocol

Model of `typescript/src/client/ChanceryProtocol.ts` and
`python/chancery_reference/chancery_protocol.py`: enumerations, typed reads of decoded fields and
addresses of accounts.  Where the two languages differ the definition takes the language.

* `requireBigIntField`, `requireNumberField`, `requireBytes`, … — a field of the expected type.
* `bytes32FromInput` — an identifier in one of its notations.
* `deriveNamedProgramAddress` and the addresses built on it.
-/

set_option autoImplicit false

namespace Chancery

/-- What a settlement does. -/
inductive SettlementAction where
  | mint
  | redeem
  deriving DecidableEq

/-- How a settlement is executed. -/
inductive SettlementMode where
  | direct
  | delegated
  | trilateral
  deriving DecidableEq

/-- The action as requests spell it. -/
def SettlementAction.text : SettlementAction → String
  | .mint => "mint"
  | .redeem => "redeem"

/-- The mode as requests spell it. -/
def SettlementMode.text : SettlementMode → String
  | .direct => "direct"
  | .delegated => "delegated"
  | .trilateral => "trilateral"

/-- The action as accounts store it. -/
def settlementActionValue : SettlementAction → Int
  | .mint => 0
  | .redeem => 1

/-- The mode as accounts store it. -/
def settlementModeValue : SettlementMode → Nat
  | .direct => 0
  | .delegated => 1
  | .trilateral => 2

/-- The pathway kind that a mode asks for. -/
def pathwayKindValue : SettlementMode → Int
  | .direct => 0
  | .delegated => 1
  | .trilateral => 2

namespace Role

/-- The role of a direct mint. -/
def canMintDirect : Nat := 1 <<< 0
def canRedeemDirect : Nat := 1 <<< 1
def canMintDelegated : Nat := 1 <<< 2
def canRedeemDelegated : Nat := 1 <<< 3
def canExecuteSettlement : Nat := 1 <<< 4
def canUseTrilateralPathway : Nat := 1 <<< 5

end Role

namespace Scope

/-- The scope of an asset. -/
def asset : Nat := 1
def pathway : Nat := 2
def executor : Nat := 4
def counterparty : Nat := 12

end Scope

namespace StatusFlag

/-- The flag of an initialized pathway. -/
def initialized : Nat := 1 <<< 0
def pathwayPause : Nat := 1 <<< 3

end StatusFlag

/-- The address whose bytes are all zero. -/
def zeroAddress : PublicKey := .replicate 0

def systemProgramAddress : PublicKey := .replicate 0

/-- The role that the principal needs. -/
def requiredPrincipalRole (action : SettlementAction) (mode : SettlementMode) : Nat :=
  match mode, action with
  | .direct, .mint => Role.canMintDirect
  | .direct, .redeem => Role.canRedeemDirect
  | _, .mint => Role.canMintDelegated
  | _, .redeem => Role.canRedeemDelegated

/-- The instruction of an action and a mode. -/
def settlementInstructionName (action : SettlementAction) (mode : SettlementMode) : String :=
  s!"{action.text}_{mode.text}"

/-! ## Bits of unsigned words -/

/-- Whether one of the mask's bits is set. -/
def hasBits (flags : Int) (mask : Nat) : Bool := flags.toNat &&& mask != 0

/-- `left & ~right`. -/
def bitsOutside (left right : Int) : Nat := left.toNat ^^^ (left.toNat &&& right.toNat)

/-! ## Typed reads -/

/-- A field of exactly the expected number of bytes. -/
def requireBytes (value : Option Value) (label : String) (expectedLength : Nat) :
    Except String Bytes :=
  match value with
  | some (.bytes bytes) =>
    if bytes.length ≠ expectedLength then .error s!"{label} must contain {expectedLength} bytes"
    else .ok bytes
  | _ => .error s!"{label} must be bytes"

/-- `bigint` in TypeScript, `int` in Python. -/
def requireBigIntField (L : Language) (values : StructValues) (fieldName : String) :
    Except String Int :=
  match values.lookup fieldName, L with
  | some (.bigint n), _ => .ok n
  | _, .typescript => .error s!"{fieldName} must be a bigint"
  | _, .python => .error s!"{fieldName} must be an integer"

/-- Python keeps the integers that are numbers in TypeScript as `int` as well. -/
def requireNumberField (L : Language) (values : StructValues) (fieldName : String) :
    Except String Int :=
  match L with
  | .python => requireBigIntField .python values fieldName
  | .typescript =>
    match values.lookup fieldName with
    | some (.number n) =>
      if isSafeInteger n then .ok n else .error s!"{fieldName} must be a safe integer"
    | _ => .error s!"{fieldName} must be a safe integer"

/-- A field that spells an address. -/
def requirePublicKeyField (values : StructValues) (fieldName : String) :
    Except String PublicKey :=
  match values.lookup fieldName with
  | some (.string text) => decodePublicKey text
  | _ => .error s!"{fieldName} must be a public key string"

/-- The items of an array, from an index on. -/
def requireBigIntItems (L : Language) (fieldName : String) :
    Nat → List Value → Except String (List Int)
  | _, [] => .ok []
  | index, .bigint n :: items => do
    let rest ← requireBigIntItems L fieldName (index + 1) items
    return n :: rest
  | index, _ :: _ =>
    match L with
    | .typescript => .error s!"{fieldName}[{index}] must be a bigint"
    | .python => .error s!"{fieldName}[{index}] must be an integer"

/-- A field of exactly the expected number of integers. -/
def requireBigIntArrayField (L : Language) (values : StructValues) (fieldName : String)
    (expectedLength : Nat) : Except String (List Int) :=
  match values.lookup fieldName with
  | some (.array items) =>
    if items.length ≠ expectedLength then
      .error s!"{fieldName} must contain {expectedLength} integers"
    else requireBigIntItems L fieldName 0 items
  | _ => .error s!"{fieldName} must contain {expectedLength} integers"

/-- Two little-endian words as one integer. -/
def wordsToUnsigned128 (words : List Int) : Except String Int :=
  match words with
  | [low, high] => .ok (low.toNat ||| high.toNat <<< 64 : Nat)
  | _ => .error "Unsigned 128-bit word array must contain two words"

/-- `||` over reads: nothing is read after the first that holds. -/
def anyHolds : List (Except String Bool) → Except String Bool
  | [] => .ok false
  | condition :: conditions => do
    let holds ← condition
    if holds then return true else anyHolds conditions

theorem anyHolds_false {conditions : List (Except String Bool)}
    (h : anyHolds conditions = .ok false) : ∀ condition ∈ conditions, condition = .ok false := by
  induction conditions with
  | nil =>
    intro condition hmem
    cases hmem
  | cons first rest ih =>
    rw [anyHolds] at h
    obtain ⟨holds, hfirst, h⟩ := Except.bind_eq_ok.1 h
    cases holds with
    | true => cases h
    | false =>
      intro condition hmem
      rcases List.mem_cons.1 hmem with rfl | hmem
      · exact hfirst
      · exact ih h condition hmem

def bigIntIsNonzero (L : Language) (values : StructValues) (fieldName : String) :
    Except String Bool := do
  let n ← requireBigIntField L values fieldName
  return n != 0

def numberIsNonzero (L : Language) (values : StructValues) (fieldName : String) :
    Except String Bool := do
  let n ← requireNumberField L values fieldName
  return n != 0

/-- Whether a 32-byte field is all zero. -/
def isZeroBytes32 (value : Option Value) (label : String) : Except String Bool := do
  let bytes ← requireBytes value label 32
  return bytes.all (· == 0)

/-! ## Identifiers -/

/-- An identifier as a caller gives it. -/
inductive Bytes32Input where
  | text (value : String)
  | bytes (value : Bytes)

/-- Hexadecimal digits of exactly 32 bytes. -/
def decodeHexIdentifier (L : Language) (hexadecimal label : String) : Except String Bytes :=
  let decoded := match L with
    | .typescript => hexPairs hexadecimal.toList
    | .python => pythonFromHex hexadecimal
  match decoded with
  | some bytes => .ok bytes
  | none => .error s!"{label} hexadecimal encoding is invalid"

/-- 64 hexadecimal digits, without the prefix. -/
def isHexadecimalCandidate (value : String) : Bool :=
  value.length == 64 && value.toList.all fun c => (hexDigit c).isSome

/-- UTF-8 text of at most 32 bytes, padded with zeros. -/
def textIdentifier (value label : String) : Except String Bytes :=
  let textBytes := textSeed value
  if 32 < textBytes.length then .error s!"{label} UTF-8 value exceeds 32 bytes"
  else .ok (textBytes ++ List.replicate (32 - textBytes.length) 0)

/-- The text of an identifier: hexadecimal, Base58 or UTF-8. -/
def identifierBytes (L : Language) (value label : String) : Except String Bytes :=
  if value.startsWith "0x" then decodeHexIdentifier L (dropPrefix "0x" value) label
  else if value.startsWith "hex:" then decodeHexIdentifier L (dropPrefix "hex:" value) label
  else if value.startsWith "base58:" then decodeBase58 (dropPrefix "base58:" value)
  else if value.startsWith "utf8:" then textIdentifier (dropPrefix "utf8:" value) label
  else if isHexadecimalCandidate value then decodeHexIdentifier L value label
  else decodeBase58 value

def bytes32FromInput (L : Language) (value : Bytes32Input) (label : String) :
    Except String Bytes :=
  match value, L with
  | .bytes bytes, .typescript =>
    if bytes.length ≠ 32 then .error s!"{label} must contain exactly 32 bytes" else .ok bytes
  | .bytes bytes, .python =>
    if bytes.length ≠ 32 then .error s!"{label} must resolve to exactly 32 bytes" else .ok bytes
  | .text text, _ => do
    let bytes ← identifierBytes L text label
    if bytes.length ≠ 32 then .error s!"{label} must resolve to exactly 32 bytes" else return bytes

/-! ## Addresses -/

/-- What the client's code takes from its surroundings. -/
structure ChanceryClient where
  language : Language
  sha256 : Sha256
  deployment : Deployment
  commitment : RpcCommitment

section

variable (client : ChanceryClient)

/-- An address of the deployed program. -/
def deriveNamedProgramAddress (seeds : List Bytes) : Except String ProgramAddressResult :=
  findProgramAddress client.sha256 seeds client.deployment.programAddress

def deriveAssetConfigAddress (assetMint : PublicKey) : Except String ProgramAddressResult :=
  deriveNamedProgramAddress client [textSeed "asset-config", assetMint.bytes]

def deriveAssetPauseStateAddress (assetMint : PublicKey) : Except String ProgramAddressResult :=
  deriveNamedProgramAddress client [textSeed "asset-pause", assetMint.bytes]

/-- The address of an account that is named by a 32-byte identifier. -/
def deriveIdentifiedAddress (seedText label : String) (identifier : Bytes) :
    Except String ProgramAddressResult := do
  let bytes ← bytes32FromInput client.language (.bytes identifier) label
  deriveNamedProgramAddress client [textSeed seedText, bytes]

def derivePathwayPolicyAddress := deriveIdentifiedAddress client "pathway-policy" "pathway id"
def deriveFeePolicyAddress := deriveIdentifiedAddress client "fee-policy" "fee policy id"
def deriveLimitPolicyAddress := deriveIdentifiedAddress client "limit-policy" "limit policy id"
def deriveEvidencePolicyAddress :=
  deriveIdentifiedAddress client "evidence-policy" "evidence policy id"
def deriveSettlementPolicyAddress :=
  deriveIdentifiedAddress client "settlement-policy" "settlement policy id"
def deriveSettlementIntentAddress :=
  deriveIdentifiedAddress client "settlement-intent" "intent id"

/-- Range check of a seed byte. -/
def assertByte (value : Int) (label : String) : Except String Unit :=
  if value < 0 ∨ 255 < value then .error s!"{label} must be an unsigned byte" else .ok ()

/-- The permission record of a subject in a scope. -/
def derivePermissionRecordAddress (subject : PublicKey) (scopeKind : Nat) (scopeKey : PublicKey) :
    Except String ProgramAddressResult := do
  assertByte scopeKind "permission scope kind"
  deriveNamedProgramAddress client
    [textSeed "permission", subject.bytes, [UInt8.ofNat scopeKind], scopeKey.bytes]

/-- The usage window of a scope hash. -/
def deriveUsageWindowAddress (scopeHash : Bytes) (windowKind : Nat) :
    Except String ProgramAddressResult := do
  if scopeHash.length ≠ 32 then .error "Usage-window scope hash must contain 32 bytes" else do
  assertByte windowKind "window kind"
  deriveNamedProgramAddress client [textSeed "usage-window", scopeHash, [UInt8.ofNat windowKind]]

/-- An address derived from one text alone. -/
def deriveSingletonAddress (seedText : String) : Except String ProgramAddressResult :=
  deriveNamedProgramAddress client [textSeed seedText]

/-- The scope hash of one settlement dimension. -/
def dimensionScopeHash (scopeKind : Int) (partyKey : PublicKey) : Except String Bytes := do
  assertByte scopeKind "dimension scope kind"
  return (client.sha256 (UInt8.ofNat scopeKind.toNat :: partyKey.bytes)).val

/-- The scope hash that a limit policy asks for. -/
def policyScopeHash (values : StructValues) : Except String Bytes := do
  let scopeKind ← requireNumberField client.language values "scope_kind"
  let scopeKey ← requirePublicKeyField values "scope_key"
  dimensionScopeHash client scopeKind scopeKey

/-- An address of the deployment by its name. -/
def knownPdaAddress (name : String) : Except String PublicKey :=
  match client.deployment.knownPda name with
  | some address => .ok address
  | none => .error s!"Unknown Chancery singleton PDA: {name}"

end

end Chancery
