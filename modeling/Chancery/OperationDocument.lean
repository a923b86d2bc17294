import Chancery.DirectSettlement

/-!
# Operation documents

Model of the loaders of the strict operation document: `operation.ts` of
`integration/typescript/src`, `operation.py` of `integration/python/chancery_integration` and
`operation.rs` of `rust/src`.

* `Json`, `Document` — what a parser of JSON returns.
* `AccountsLayout` — what the loaders for mints and for redemptions differ in.
* `TypeScript.loadMintDirectOperation` and so on.

What `Pubkey::from_str` returns and what `serde` says of a file it cannot read are parameters.
-/

set_option autoImplicit false

namespace Chancery.Integration

/-! ## Documents -/

/-- Numbers are not looked at. -/
inductive Json where
  | null
  | boolean (value : Bool)
  | number (text : String)
  | string (text : String)
  | array (items : List Json)
  | object (fields : List (String × Json))

/-- Fields in the order of `Object.keys`. -/
abbrev Document := List (String × Json)

/-- The last of the values of a key. -/
def Document.get? (document : Document) (field : String) : Option Json :=
  document.reverse.lookup field

/-- The fields of a document. -/
def rootFields : List String := ["pathwayId", "amount", "minimumOutput", "accounts"]

/-- The fields of its policy accounts. -/
def policyFields : List String :=
  ["feePolicy", "feeRecipientTokenAccount", "limitPolicy", "hourlyUsageWindow",
   "dailyUsageWindow", "weeklyUsageWindow", "monthlyUsageWindow", "evidencePolicy",
   "assetLimitPolicy", "assetDailyUsageWindow", "counterpartyLimitPolicy",
   "counterpartyDailyUsageWindow"]

/-- The account fields of a mint document. -/
def mintAccountFields : List String :=
  ["moduleActivationState", "chanceryConfig", "eventAuthority", "pauseState", "assetConfig",
   "pathwayPolicy", "permissionRecord", "sourceAssetTokenAccount", "reserveAssetTokenAccount",
   "destinationIssuedTokenAccount", "assetMint", "issuedTokenMint", "mintAuthorityPda",
   "assetTokenProgram", "issuedTokenProgram", "principal", "assetPauseState",
   "issuedTokenControl", "policyAccounts"]

/-- The account fields of a redemption document. -/
def redeemAccountFields : List String :=
  ["moduleActivationState", "chanceryConfig", "eventAuthority", "pauseState", "assetConfig",
   "pathwayPolicy", "permissionRecord", "sourceIssuedTokenAccount", "reserveAssetTokenAccount",
   "destinationAssetTokenAccount", "assetMint", "issuedTokenMint", "reserveAuthorityPda",
   "assetTokenProgram", "issuedTokenProgram", "principal", "assetPauseState",
   "issuedTokenControl", "policyAccounts"]

/-! ## Accounts field by field -/

/-- A visit of the policy accounts, in field order. -/
def DirectSettlementPolicyAccounts.traverse {ε A B : Type}
    (visit : String → Option A → Except ε (Option B)) (accounts : DirectSettlementPolicyAccounts A) :
    Except ε (DirectSettlementPolicyAccounts B) := do
  let feePolicy ← visit "feePolicy" accounts.feePolicy
  let feeRecipientTokenAccount ←
    visit "feeRecipientTokenAccount" accounts.feeRecipientTokenAccount
  let limitPolicy ← visit "limitPolicy" accounts.limitPolicy
  let hourlyUsageWindow ← visit "hourlyUsageWindow" accounts.hourlyUsageWindow
  let dailyUsageWindow ← visit "dailyUsageWindow" accounts.dailyUsageWindow
  let weeklyUsageWindow ← visit "weeklyUsageWindow" accounts.weeklyUsageWindow
  let monthlyUsageWindow ← visit "monthlyUsageWindow" accounts.monthlyUsageWindow
  let evidencePolicy ← visit "evidencePolicy" accounts.evidencePolicy
  let assetLimitPolicy ← visit "assetLimitPolicy" accounts.assetLimitPolicy
  let assetDailyUsageWindow ← visit "assetDailyUsageWindow" accounts.assetDailyUsageWindow
  let counterpartyLimitPolicy ← visit "counterpartyLimitPolicy" accounts.counterpartyLimitPolicy
  let counterpartyDailyUsageWindow ←
    visit "counterpartyDailyUsageWindow" accounts.counterpartyDailyUsageWindow
  return ⟨feePolicy, feeRecipientTokenAccount, limitPolicy, hourlyUsageWindow, dailyUsageWindow,
    weeklyUsageWindow, monthlyUsageWindow, evidencePolicy, assetLimitPolicy,
    assetDailyUsageWindow, counterpartyLimitPolicy, counterpartyDailyUsageWindow⟩

/-- A visit of the accounts, in field order. -/
def MintDirectAccounts.traverse {ε A B : Type} (visit : String → A → Except ε B)
    (visitPolicyAccounts : DirectSettlementPolicyAccounts A →
      Except ε (DirectSettlementPolicyAccounts B)) (accounts : MintDirectAccounts A) :
    Except ε (MintDirectAccounts B) := do
  let moduleActivationState ← visit "moduleActivationState" accounts.moduleActivationState
  let chanceryConfig ← visit "chanceryConfig" accounts.chanceryConfig
  let eventAuthority ← visit "eventAuthority" accounts.eventAuthority
  let pauseState ← visit "pauseState" accounts.pauseState
  let assetConfig ← visit "assetConfig" accounts.assetConfig
  let pathwayPolicy ← visit "pathwayPolicy" accounts.pathwayPolicy
  let permissionRecord ← visit "permissionRecord" accounts.permissionRecord
  let sourceAssetTokenAccount ← visit "sourceAssetTokenAccount" accounts.sourceAssetTokenAccount
  let reserveAssetTokenAccount ←
    visit "reserveAssetTokenAccount" accounts.reserveAssetTokenAccount
  let destinationIssuedTokenAccount ←
    visit "destinationIssuedTokenAccount" accounts.destinationIssuedTokenAccount
  let assetMint ← visit "assetMint" accounts.assetMint
  let issuedTokenMint ← visit "issuedTokenMint" accounts.issuedTokenMint
  let mintAuthorityPda ← visit "mintAuthorityPda" accounts.mintAuthorityPda
  let assetTokenProgram ← visit "assetTokenProgram" accounts.assetTokenProgram
  let issuedTokenProgram ← visit "issuedTokenProgram" accounts.issuedTokenProgram
  let principal ← visit "principal" accounts.principal
  let assetPauseState ← visit "assetPauseState" accounts.assetPauseState
  let issuedTokenControl ← visit "issuedTokenControl" accounts.issuedTokenControl
  let policyAccounts ← visitPolicyAccounts accounts.policyAccounts
  return ⟨moduleActivationState, chanceryConfig, eventAuthority, pauseState, assetConfig,
    pathwayPolicy, permissionRecord, sourceAssetTokenAccount, reserveAssetTokenAccount,
    destinationIssuedTokenAccount, assetMint, issuedTokenMint, mintAuthorityPda,
    assetTokenProgram, issuedTokenProgram, principal, assetPauseState, issuedTokenControl,
    policyAccounts⟩

/-- A visit of the accounts, in field order. -/
def RedeemDirectAccounts.traverse {ε A B : Type} (visit : String → A → Except ε B)
    (visitPolicyAccounts : DirectSettlementPolicyAccounts A →
      Except ε (DirectSettlementPolicyAccounts B)) (accounts : RedeemDirectAccounts A) :
    Except ε (RedeemDirectAccounts B) := do
  let moduleActivationState ← visit "moduleActivationState" accounts.moduleActivationState
  let chanceryConfig ← visit "chanceryConfig" accounts.chanceryConfig
  let eventAuthority ← visit "eventAuthority" accounts.eventAuthority
  let pauseState ← visit "pauseState" accounts.pauseState
  let assetConfig ← visit "assetConfig" accounts.assetConfig
  let pathwayPolicy ← visit "pathwayPolicy" accounts.pathwayPolicy
  let permissionRecord ← visit "permissionRecord" accounts.permissionRecord
  let sourceIssuedTokenAccount ←
    visit "sourceIssuedTokenAccount" accounts.sourceIssuedTokenAccount
  let reserveAssetTokenAccount ←
    visit "reserveAssetTokenAccount" accounts.reserveAssetTokenAccount
  let destinationAssetTokenAccount ←
    visit "destinationAssetTokenAccount" accounts.destinationAssetTokenAccount
  let assetMint ← visit "assetMint" accounts.assetMint
  let issuedTokenMint ← visit "issuedTokenMint" accounts.issuedTokenMint
  let reserveAuthorityPda ← visit "reserveAuthorityPda" accounts.reserveAuthorityPda
  let assetTokenProgram ← visit "assetTokenProgram" accounts.assetTokenProgram
  let issuedTokenProgram ← visit "issuedTokenProgram" accounts.issuedTokenProgram
  let principal ← visit "principal" accounts.principal
  let assetPauseState ← visit "assetPauseState" accounts.assetPauseState
  let issuedTokenControl ← visit "issuedTokenControl" accounts.issuedTokenControl
  let policyAccounts ← visitPolicyAccounts accounts.policyAccounts
  return ⟨moduleActivationState, chanceryConfig, eventAuthority, pauseState, assetConfig,
    pathwayPolicy, permissionRecord, sourceIssuedTokenAccount, reserveAssetTokenAccount,
    destinationAssetTokenAccount, assetMint, issuedTokenMint, reserveAuthorityPda,
    assetTokenProgram, issuedTokenProgram, principal, assetPauseState, issuedTokenControl,
    policyAccounts⟩

/-- The fields alone. -/
def DirectSettlementPolicyAccounts.units : DirectSettlementPolicyAccounts Unit where
  feePolicy := none
  feeRecipientTokenAccount := none
  limitPolicy := none
  hourlyUsageWindow := none
  dailyUsageWindow := none
  weeklyUsageWindow := none
  monthlyUsageWindow := none
  evidencePolicy := none
  assetLimitPolicy := none
  assetDailyUsageWindow := none
  counterpartyLimitPolicy := none
  counterpartyDailyUsageWindow := none

/-- The fields alone. -/
def MintDirectAccounts.units : MintDirectAccounts Unit where
  moduleActivationState := ()
  chanceryConfig := ()
  eventAuthority := ()
  pauseState := ()
  assetConfig := ()
  pathwayPolicy := ()
  permissionRecord := ()
  sourceAssetTokenAccount := ()
  reserveAssetTokenAccount := ()
  destinationIssuedTokenAccount := ()
  assetMint := ()
  issuedTokenMint := ()
  mintAuthorityPda := ()
  assetTokenProgram := ()
  issuedTokenProgram := ()
  principal := ()
  assetPauseState := ()
  issuedTokenControl := ()
  policyAccounts := .units

/-- The fields alone. -/
def RedeemDirectAccounts.units : RedeemDirectAccounts Unit where
  moduleActivationState := ()
  chanceryConfig := ()
  eventAuthority := ()
  pauseState := ()
  assetConfig := ()
  pathwayPolicy := ()
  permissionRecord := ()
  sourceIssuedTokenAccount := ()
  reserveAssetTokenAccount := ()
  destinationAssetTokenAccount := ()
  assetMint := ()
  issuedTokenMint := ()
  reserveAuthorityPda := ()
  assetTokenProgram := ()
  issuedTokenProgram := ()
  principal := ()
  assetPauseState := ()
  issuedTokenControl := ()
  policyAccounts := .units

/-- **What the documents of the two operations differ in**: the accounts, visited in order. -/
structure AccountsLayout (Accounts : Type → Type) where
  fields : List String
  units : Accounts Unit
  traverse : {ε A B : Type} → (String → A → Except ε B) →
    (DirectSettlementPolicyAccounts A → Except ε (DirectSettlementPolicyAccounts B)) →
      Accounts A → Except ε (Accounts B)

/-- `MintDirectAccounts` as a document lists them. -/
def mintLayout : AccountsLayout MintDirectAccounts where
  fields := mintAccountFields
  units := .units
  traverse := MintDirectAccounts.traverse

/-- `RedeemDirectAccounts` as a document lists them. -/
def redeemLayout : AccountsLayout RedeemDirectAccounts where
  fields := redeemAccountFields
  units := .units
  traverse := RedeemDirectAccounts.traverse

/-- Every account read by the name of its field. -/
def AccountsLayout.read {Accounts : Type → Type} (layout : AccountsLayout Accounts) {ε A : Type}
    (readAccount : String → Except ε A)
    (policyAccounts : Except ε (DirectSettlementPolicyAccounts A)) : Except ε (Accounts A) :=
  layout.traverse (fun field () => readAccount field) (fun _ => policyAccounts) layout.units

/-- Every policy account read by the name of its field. -/
def readPolicyFields {ε A : Type} (readAccount : String → Except ε (Option A)) :
    Except ε (DirectSettlementPolicyAccounts A) :=
  DirectSettlementPolicyAccounts.units.traverse fun field _ => readAccount field

section

variable {Accounts : Type → Type} (layout : AccountsLayout Accounts)

/-! ## TypeScript -/

namespace TypeScript

/-- The object that a document is. -/
def readDocument : Json → Except String Document
  | .object fields => .ok fields
  | _ => .error "Operation document must be a JSON object"

/-- Rejection of fields that the location does not have. -/
def rejectUnknownFields (document : Document) (allowedFields : List String) (location : String) :
    Except String Unit :=
  match (document.map Prod.fst).find? fun field => !allowedFields.contains field with
  | some field => .error s!"Unknown field {location}.{field}"
  | none => .ok ()

/-- A policy account, whose key must be there. -/
def readPolicyAccount (policy : Document) (field : String) : Except String (Option String) :=
  match policy.get? field with
  | some .null => .ok none
  | some (.string account) => .ok (some account)
  | _ => .error s!"accounts.policyAccounts.{field} must be a string or null"

/-- The policy accounts of a document. -/
def readPolicyAccounts (value : Option Json) :
    Except String (DirectSettlementPolicyAccounts String) :=
  match value with
  | some (.object policy) => do
    rejectUnknownFields policy policyFields "accounts.policyAccounts"
    readPolicyFields (readPolicyAccount policy)
  | _ => .error "accounts.policyAccounts must be a JSON object"

/-- A text that must be there. -/
def readRequiredString (document : Document) (field location : String) : Except String String :=
  match document.get? field with
  | some (.string value) => .ok value
  | _ => .error s!"{location}.{field} must be a string"

/-- The accounts object of a document. -/
def readAccountsDocument (root : Document) : Except String Document :=
  match root.get? "accounts" with
  | some (.object accountsDocument) => .ok accountsDocument
  | _ => .error "operation.accounts must be a JSON object"

/-- A document in TypeScript. -/
def loadDirectOperation (document : Json) : Except String (DirectOperation (Accounts String)) := do
  let root ← readDocument document
  rejectUnknownFields root rootFields "operation"
  let accountsDocument ← readAccountsDocument root
  rejectUnknownFields accountsDocument layout.fields "accounts"
  let accounts ← layout.read
    (fun field => readRequiredString accountsDocument field "accounts")
    (readPolicyAccounts (accountsDocument.get? "policyAccounts"))
  let pathwayId ← readRequiredString root "pathwayId" "operation"
  let amount ← readRequiredString root "amount" "operation"
  let minimumOutput ← readRequiredString root "minimumOutput" "operation"
  return ⟨pathwayId, amount, minimumOutput, accounts⟩

def loadMintDirectOperation : Json → Except String MintDirectOperationInput :=
  loadDirectOperation mintLayout

def loadRedeemDirectOperation : Json → Except String RedeemDirectOperationInput :=
  loadDirectOperation redeemLayout

end TypeScript

/-! ## Python -/

namespace Python

/-- The object that a document is. -/
def loadOperationDocument : Json → Except String Document
  | .object fields => .ok fields
  | _ => .error "Operation document must be a JSON object"

/-- The least of the unknown fields is named. -/
def rejectUnknownFields (document : Document) (allowedFields : List String) (location : String) :
    Except String Unit :=
  let unknownFields := (document.map Prod.fst).filter fun field => !allowedFields.contains field
  match unknownFields.mergeSort fun left right => decide (left ≤ right) with
  | field :: _ => .error s!"Unknown field {location}.{field}"
  | [] => .ok ()

def readRequiredString (document : Document) (field location : String) : Except String String :=
  match document.get? field with
  | none => .error s!"Missing field {location}.{field}"
  | some (.string value) => .ok value
  | some _ => .error s!"{location}.{field} must be a string"

/-- A policy account, whose key must be there. -/
def readOptionalAccount (document : Document) (field : String) : Except String (Option String) :=
  match document.get? field with
  | none => .error s!"Missing field accounts.policyAccounts.{field}"
  | some .null => .ok none
  | some (.string value) => .ok (some value)
  | some _ => .error s!"accounts.policyAccounts.{field} must be a string or null"

def readAccountsDocument (root : Document) : Except String Document :=
  match root.get? "accounts" with
  | none => .error "Missing field operation.accounts"
  | some (.object value) => .ok value
  | some _ => .error "operation.accounts must be a JSON object"

def readPolicyAccounts (accounts : Document) :
    Except String (DirectSettlementPolicyAccounts String) :=
  match accounts.get? "policyAccounts" with
  | none => .error "Missing field accounts.policyAccounts"
  | some (.object value) => do
    rejectUnknownFields value policyFields "accounts.policyAccounts"
    readPolicyFields (readOptionalAccount value)
  | some _ => .error "accounts.policyAccounts must be a JSON object"

/-- A document in Python. -/
def loadDirectOperation (document : Json) : Except String (DirectOperation (Accounts String)) := do
  let root ← loadOperationDocument document
  rejectUnknownFields root rootFields "operation"
  let accountsDocument ← readAccountsDocument root
  rejectUnknownFields accountsDocument layout.fields "accounts"
  let pathwayId ← readRequiredString root "pathwayId" "operation"
  let amount ← readRequiredString root "amount" "operation"
  let minimumOutput ← readRequiredString root "minimumOutput" "operation"
  let accounts ← layout.read
    (fun field => readRequiredString accountsDocument field "accounts")
    (readPolicyAccounts accountsDocument)
  return ⟨pathwayId, amount, minimumOutput, accounts⟩

def loadMintDirectOperation : Json → Except String MintDirectOperationInput :=
  loadDirectOperation mintLayout

def loadRedeemDirectOperation : Json → Except String RedeemDirectOperationInput :=
  loadDirectOperation redeemLayout

end Python

/-! ## Rust -/

namespace Rust

/-! ### What `serde` derives -/

/-- `#[derive(Deserialize)]` with `deny_unknown_fields`: an object has no key twice and none that
is unknown; an array has the fields in order. -/
def deserializeStruct {α : Type} (fields : List String)
    (visit : (String → Option Json) → Except Unit α) : Json → Except Unit α
  | .object document =>
    if (document.map Prod.fst).Nodup ∧ ∀ field ∈ document.map Prod.fst, field ∈ fields then
      visit (Document.get? document)
    else .error ()
  | .array items =>
    if items.length = fields.length then visit fun field => (fields.zip items).lookup field
    else .error ()
  | _ => .error ()

/-- A struct that is a field; only an option may be missing. -/
def deserializeField {α : Type} (deserialize : Json → Except Unit α) :
    Option Json → Except Unit α
  | some value => deserialize value
  | none => .error ()

/-- A text, as `serde` reads it. -/
def deserializeString : Json → Except Unit String
  | .string text => .ok text
  | _ => .error ()

/-- The wrapper is transparent: a missing field is what it is for the option, absent. -/
def deserializeNullableString : Option Json → Except Unit (Option String)
  | none | some .null => .ok none
  | some (.string text) => .ok (some text)
  | some _ => .error ()

/-- The policy accounts; a missing key reads as none. -/
def deserializePolicyAccounts : Json → Except Unit (DirectSettlementPolicyAccounts String) :=
  deserializeStruct policyFields fun get =>
    readPolicyFields fun field => deserializeNullableString (get field)

/-- The accounts, unknown fields denied. -/
def deserializeAccounts : Json → Except Unit (Accounts String) :=
  deserializeStruct layout.fields fun get =>
    layout.read (fun field => deserializeField deserializeString (get field))
      (deserializeField deserializePolicyAccounts (get "policyAccounts"))

/-- A document, as `serde` reads it. -/
def deserializeOperation : Json → Except Unit (DirectOperation (Accounts String)) :=
  deserializeStruct rootFields fun get => do
    let pathwayId ← deserializeField deserializeString (get "pathwayId")
    let amount ← deserializeField deserializeString (get "amount")
    let minimumOutput ← deserializeField deserializeString (get "minimumOutput")
    let accounts ← deserializeField (deserializeAccounts layout) (get "accounts")
    return ⟨pathwayId, amount, minimumOutput, accounts⟩

/-! ### What is parsed of the strings -/

section

variable (fromStr : String → Except String PublicKey)

/-- An address that must be there. -/
def parseRequiredPublicKey (value fieldName : String) : Except String PublicKey := do
  let publicKey ← (fromStr value).mapError fun error =>
    s!"{fieldName} is not a Solana public key: {error}"
  rejectWhen (publicKey = zeroAddress) s!"{fieldName} must not be the default public key"
  return publicKey

/-- An address that may be absent. -/
def parseOptionalPublicKey (value : Option String) (fieldName : String) :
    Except String (Option PublicKey) :=
  match value with
  | none => .ok none
  | some address => do
    let publicKey ← parseRequiredPublicKey fromStr address fieldName
    return some publicKey

/-- The policy accounts as addresses. -/
def resolvePolicyAccounts (accounts : DirectSettlementPolicyAccounts String) :
    Except String (DirectSettlementPolicyAccounts PublicKey) :=
  accounts.traverse fun field value =>
    parseOptionalPublicKey fromStr value ("accounts.policyAccounts." ++ field)

end

/-- `str::as_bytes` -/
def asBytes (value : String) : Bytes := value.toUTF8.data.toList

def isAsciiDigit (byte : UInt8) : Bool := 48 ≤ byte && byte ≤ 57

/-- A decimal amount of at most 64 bits. -/
def parseDecimalU64 (value fieldName : String) : Except String UInt64 :=
  let bytes := asBytes value
  if bytes.isEmpty || !bytes.all isAsciiDigit then
    .error s!"{fieldName} must be an unsigned decimal string"
  else
    let parsed := decimalValue (bytes.map fun byte => byte.toNat - 48)
    if parsed < 2 ^ 64 then .ok (UInt64.ofNat parsed)
    else .error s!"{fieldName} exceeds the u64 range: number too large to fit in target type"

/-- A decimal amount that is not zero. -/
def parsePositiveU64 (value fieldName : String) : Except String UInt64 := do
  let amount ← parseDecimalU64 value fieldName
  rejectWhen (amount = 0) s!"{fieldName} must be greater than zero"
  return amount

/-- The value of a hexadecimal digit. -/
def hexadecimalNibble (byte : UInt8) : Option UInt8 :=
  if 48 ≤ byte && byte ≤ 57 then some (byte - 48)
  else if 97 ≤ byte && byte ≤ 102 then some (byte - 97 + 10)
  else if 65 ≤ byte && byte ≤ 70 then some (byte - 65 + 10)
  else none

/-- The loop over the pairs of characters. -/
def hexadecimalPairs : Bytes → Option Bytes
  | high :: low :: rest => do
    let high ← hexadecimalNibble high
    let low ← hexadecimalNibble low
    let bytes ← hexadecimalPairs rest
    return (high <<< 4 ||| low) :: bytes
  | _ => some []

theorem length_hexadecimalPairs : ∀ {count : Nat} {digits bytes : Bytes},
    digits.length = 2 * count → hexadecimalPairs digits = some bytes → bytes.length = count
  | 0, digits, bytes, hlength, h => by
    rw [List.length_eq_zero_iff.1 hlength] at h
    cases h
    rfl
  | count + 1, [], _, hlength, _ => by simp at hlength
  | count + 1, [_], _, hlength, _ => by simp at hlength; omega
  | count + 1, high :: low :: rest, bytes, hlength, h => by
    rw [hexadecimalPairs] at h
    obtain ⟨_, _, h⟩ := Option.bind_eq_some_iff.1 h
    obtain ⟨_, _, h⟩ := Option.bind_eq_some_iff.1 h
    obtain ⟨tail, htail, hret⟩ := Option.bind_eq_some_iff.1 h
    cases hret
    rw [List.length_cons, length_hexadecimalPairs (by simpa [Nat.mul_add] using hlength) htail]

/-- The 32 bytes of a pathway id. -/
def parsePathwayId (value : String) : Except String { bytes : Bytes // bytes.length = 32 } :=
  let digits := asBytes (normalizedPathwayId value)
  if hlength : digits.length = 2 * 32 then
    match hpairs : hexadecimalPairs digits with
    | some bytes => .ok ⟨bytes, length_hexadecimalPairs hlength hpairs⟩
    | none => .error "pathwayId contains a non-hexadecimal character"
  else .error "pathwayId must contain exactly 64 hexadecimal characters"

/-- The accounts and the arguments that an operation file denotes; `failure` is said of a file
that cannot be decoded. -/
def loadDirectOperation (fromStr : String → Except String PublicKey) (failure : String)
    (document : Json) : Except String
      (Accounts PublicKey × { bytes : Bytes // bytes.length = 32 } × UInt64 × UInt64) := do
  let operation ← (deserializeOperation layout document).mapError fun _ => failure
  let accounts ← layout.traverse
    (fun field value => parseRequiredPublicKey fromStr value ("accounts." ++ field))
    (resolvePolicyAccounts fromStr) operation.accounts
  let pathwayId ← parsePathwayId operation.pathwayId
  let amount ← parsePositiveU64 operation.amount "amount"
  let minimumOutput ← parseDecimalU64 operation.minimumOutput "minimumOutput"
  return (accounts, pathwayId, amount, minimumOutput)

/-- A mint document in Rust. -/
def loadMintDirectOperation (fromStr : String → Except String PublicKey) (failure : String)
    (document : Json) : Except String (MintDirectAccounts PublicKey × MintDirectArguments) := do
  let (accounts, pathwayId, amount, minimumOutput) ←
    loadDirectOperation mintLayout fromStr failure document
  return (accounts, ⟨pathwayId, amount, minimumOutput⟩)

/-- A redemption document in Rust. -/
def loadRedeemDirectOperation (fromStr : String → Except String PublicKey) (failure : String)
    (document : Json) :
    Except String (RedeemDirectAccounts PublicKey × RedeemDirectArguments) := do
  let (accounts, pathwayId, amount, minimumOutput) ←
    loadDirectOperation redeemLayout fromStr failure document
  return (accounts, ⟨pathwayId, amount, minimumOutput⟩)

end Rust

end

end Chancery.Integration
