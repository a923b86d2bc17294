import Chancery.Base58Agreement
import Chancery.Protocol
import Chancery.SolanaTransaction
import Chancery.Target

/-!
# Direct settlement

Model of the builders written by hand for the integrations: `direct_settlement.ts`, `target.ts`
and `base58.ts` of `integration/typescript/src`, `direct_settlement.py`, `target.py` and
`base58_codec.py` of `integration/python/chancery_integration`, `direct_settlement.rs` and
`target.rs` of `rust/src`.

* `MintDirectAccounts`, `RedeemDirectAccounts` — addresses are texts in TypeScript and in Python,
  keys in Rust.
* `TypeScript.buildMintDirectInstruction` and so on — thirty-one positions and fifty bytes.

What decoders quote in their errors are parameters.
-/

set_option autoImplicit false

namespace Chancery.Integration

/-! ## Operations -/

/-- `none` is an account that the pathway does not have. -/
structure DirectSettlementPolicyAccounts (Address : Type) where
  feePolicy : Option Address
  feeRecipientTokenAccount : Option Address
  limitPolicy : Option Address
  hourlyUsageWindow : Option Address
  dailyUsageWindow : Option Address
  weeklyUsageWindow : Option Address
  monthlyUsageWindow : Option Address
  evidencePolicy : Option Address
  assetLimitPolicy : Option Address
  assetDailyUsageWindow : Option Address
  counterpartyLimitPolicy : Option Address
  counterpartyDailyUsageWindow : Option Address

/-- The accounts of a direct mint. -/
structure MintDirectAccounts (Address : Type) where
  moduleActivationState : Address
  chanceryConfig : Address
  eventAuthority : Address
  pauseState : Address
  assetConfig : Address
  pathwayPolicy : Address
  permissionRecord : Address
  sourceAssetTokenAccount : Address
  reserveAssetTokenAccount : Address
  destinationIssuedTokenAccount : Address
  assetMint : Address
  issuedTokenMint : Address
  mintAuthorityPda : Address
  assetTokenProgram : Address
  issuedTokenProgram : Address
  principal : Address
  assetPauseState : Address
  issuedTokenControl : Address
  policyAccounts : DirectSettlementPolicyAccounts Address

/-- The accounts of a direct redemption. -/
structure RedeemDirectAccounts (Address : Type) where
  moduleActivationState : Address
  chanceryConfig : Address
  eventAuthority : Address
  pauseState : Address
  assetConfig : Address
  pathwayPolicy : Address
  permissionRecord : Address
  sourceIssuedTokenAccount : Address
  reserveAssetTokenAccount : Address
  destinationAssetTokenAccount : Address
  assetMint : Address
  issuedTokenMint : Address
  reserveAuthorityPda : Address
  assetTokenProgram : Address
  issuedTokenProgram : Address
  principal : Address
  assetPauseState : Address
  issuedTokenControl : Address
  policyAccounts : DirectSettlementPolicyAccounts Address

/-- An operation as callers write it. -/
structure DirectOperation (Accounts : Type) where
  pathwayId : String
  amount : String
  minimumOutput : String
  accounts : Accounts

abbrev MintDirectOperationInput := DirectOperation (MintDirectAccounts String)

abbrev RedeemDirectOperationInput := DirectOperation (RedeemDirectAccounts String)

/-- A named account of a built instruction. -/
structure AccountMetaSpec where
  name : String
  address : String
  isSigner : Bool
  isWritable : Bool

/-- A built instruction. -/
structure InstructionSpec where
  programId : String
  accounts : List AccountMetaSpec
  data : Bytes

/-- The entries of an array in order; the first that throws stops it. -/
def arrayOf {ε α : Type} (entries : List (Except ε α)) : Except ε (List α) := entries.mapM id

/-! ## Targets -/

/-- `CHANCERY_TARGET` in the environment of the process. -/
inductive TargetVariable where
  | notPresent
  | notUnicode
  | text (target : String)

/-- The program of a deployment target. -/
def programIdForTarget {Address : Type} (mainnet devnet : Address) (target : String) :
    Except String Address :=
  if target = "mainnet" then .ok mainnet
  else if target = "devnet" then .ok devnet
  else .error "CHANCERY_TARGET must be mainnet or devnet"

def chanceryMainnetProgramId : String := "ChnryP5RcZtMvP8vvVyPGUhwCg6uDJc53vCe3sxr11Sz"

def chanceryDevnetProgramId : String := "GD9qamyghF32gG21KEkbp6quBsd2tU771tFcRVu1SPKs"

/-- The program that a module reads from the environment when it is loaded; what is no Unicode is
none of the targets. -/
def selectedProgramText : TargetVariable → Except String String
  | .notPresent => programIdForTarget chanceryMainnetProgramId chanceryDevnetProgramId "mainnet"
  | .notUnicode => .error "CHANCERY_TARGET must be mainnet or devnet"
  | .text target => programIdForTarget chanceryMainnetProgramId chanceryDevnetProgramId target

/-! ## Texts -/

/-- The text that no required account may be. -/
def defaultPublicKey : String := "11111111111111111111111111111111"

def maximumU64 : Int := 18446744073709551615

/-- `0x` may stand before the digits. -/
def normalizedPathwayId (pathwayId : String) : String :=
  if pathwayId.startsWith "0x" then dropPrefix "0x" pathwayId else pathwayId

/-- `[0-9a-fA-F]{64}` -/
def isPathwayPattern (text : String) : Bool :=
  text.toList.length == 64 && text.toList.all fun character => (hexDigit character).isSome

/-- `[0-9]+` -/
def isUnsignedDecimal (text : String) : Bool :=
  !text.toList.isEmpty && text.toList.all Char.isDigit

/-! ## TypeScript -/

namespace TypeScript

section

variable (stringify : List Nat → String)

/-- Check of an address text. -/
def assertPublicKey (value fieldName : String) (allowDefaultPublicKey : Bool) :
    Except String Unit := do
  let decoded ← integrationDecodeUnits stringify (codeUnits value)
  rejectWhen (decoded.length ≠ 32) s!"{fieldName} must decode to exactly 32 bytes"
  rejectWhen (allowDefaultPublicKey = false ∧ decoded.all (· == 0) = true)
    s!"{fieldName} must not be the default public key"

/-- An account that must be given. -/
def requiredAccount (name address : String) (isWritable : Bool) :
    Except String AccountMetaSpec := do
  assertPublicKey stringify address s!"accounts.{name}" false
  return ⟨name, address, name == "principal", isWritable⟩

/-- An account in whose place the default address may stand. -/
def optionalAccount (name : String) (address : Option String) (isWritable : Bool) :
    Except String AccountMetaSpec :=
  match address with
  | none => .ok ⟨name, defaultPublicKey, false, isWritable⟩
  | some address => do
    assertPublicKey stringify address s!"accounts.policyAccounts.{name}" false
    return ⟨name, address, false, isWritable⟩

/-- The seven policy accounts, in order. -/
def policyAccountMetas (policyAccounts : DirectSettlementPolicyAccounts String) :
    List (Except String AccountMetaSpec) :=
  [optionalAccount stringify "feePolicy" policyAccounts.feePolicy false,
   optionalAccount stringify "feeRecipientTokenAccount"
     policyAccounts.feeRecipientTokenAccount true,
   optionalAccount stringify "limitPolicy" policyAccounts.limitPolicy false,
   optionalAccount stringify "hourlyUsageWindow" policyAccounts.hourlyUsageWindow true,
   optionalAccount stringify "dailyUsageWindow" policyAccounts.dailyUsageWindow true,
   optionalAccount stringify "weeklyUsageWindow" policyAccounts.weeklyUsageWindow true,
   optionalAccount stringify "monthlyUsageWindow" policyAccounts.monthlyUsageWindow true,
   optionalAccount stringify "evidencePolicy" policyAccounts.evidencePolicy false,
   optionalAccount stringify "assetLimitPolicy" policyAccounts.assetLimitPolicy false,
   optionalAccount stringify "assetDailyUsageWindow" policyAccounts.assetDailyUsageWindow true,
   optionalAccount stringify "counterpartyLimitPolicy"
     policyAccounts.counterpartyLimitPolicy false,
   optionalAccount stringify "counterpartyDailyUsageWindow"
     policyAccounts.counterpartyDailyUsageWindow true]

/-- The positions of `mint_direct` before its policy accounts. -/
def mintAccountMetas (accounts : MintDirectAccounts String) :
    List (Except String AccountMetaSpec) :=
  [requiredAccount stringify "moduleActivationState" accounts.moduleActivationState false,
   requiredAccount stringify "chanceryConfig" accounts.chanceryConfig true,
   requiredAccount stringify "eventAuthority" accounts.eventAuthority false,
   requiredAccount stringify "pauseState" accounts.pauseState false,
   requiredAccount stringify "assetConfig" accounts.assetConfig false,
   requiredAccount stringify "pathwayPolicy" accounts.pathwayPolicy false,
   requiredAccount stringify "permissionRecord" accounts.permissionRecord false,
   requiredAccount stringify "sourceAssetTokenAccount" accounts.sourceAssetTokenAccount true,
   requiredAccount stringify "reserveAssetTokenAccount" accounts.reserveAssetTokenAccount true,
   requiredAccount stringify "destinationIssuedTokenAccount"
     accounts.destinationIssuedTokenAccount true,
   requiredAccount stringify "assetMint" accounts.assetMint false,
   requiredAccount stringify "issuedTokenMint" accounts.issuedTokenMint true,
   requiredAccount stringify "mintAuthorityPda" accounts.mintAuthorityPda false,
   requiredAccount stringify "assetTokenProgram" accounts.assetTokenProgram false,
   requiredAccount stringify "issuedTokenProgram" accounts.issuedTokenProgram false,
   requiredAccount stringify "principal" accounts.principal false,
   requiredAccount stringify "assetPauseState" accounts.assetPauseState false,
   requiredAccount stringify "issuedTokenControl" accounts.issuedTokenControl false]

/-- The positions of `redeem_direct` before its policy accounts. -/
def redeemAccountMetas (accounts : RedeemDirectAccounts String) :
    List (Except String AccountMetaSpec) :=
  [requiredAccount stringify "moduleActivationState" accounts.moduleActivationState false,
   requiredAccount stringify "chanceryConfig" accounts.chanceryConfig true,
   requiredAccount stringify "eventAuthority" accounts.eventAuthority false,
   requiredAccount stringify "pauseState" accounts.pauseState false,
   requiredAccount stringify "assetConfig" accounts.assetConfig false,
   requiredAccount stringify "pathwayPolicy" accounts.pathwayPolicy false,
   requiredAccount stringify "permissionRecord" accounts.permissionRecord false,
   requiredAccount stringify "sourceIssuedTokenAccount" accounts.sourceIssuedTokenAccount true,
   requiredAccount stringify "reserveAssetTokenAccount" accounts.reserveAssetTokenAccount true,
   requiredAccount stringify "destinationAssetTokenAccount"
     accounts.destinationAssetTokenAccount true,
   requiredAccount stringify "assetMint" accounts.assetMint false,
   requiredAccount stringify "issuedTokenMint" accounts.issuedTokenMint true,
   requiredAccount stringify "reserveAuthorityPda" accounts.reserveAuthorityPda false,
   requiredAccount stringify "assetTokenProgram" accounts.assetTokenProgram false,
   requiredAccount stringify "issuedTokenProgram" accounts.issuedTokenProgram false,
   requiredAccount stringify "principal" accounts.principal false,
   requiredAccount stringify "assetPauseState" accounts.assetPauseState false,
   requiredAccount stringify "issuedTokenControl" accounts.issuedTokenControl false]

end

/-- The 32 bytes of a pathway id. -/
def parsePathwayId (pathwayId : String) : Except String Bytes :=
  let normalized := normalizedPathwayId pathwayId
  if isPathwayPattern normalized then .ok ((hexPairs normalized.toList).getD [])
  else .error "pathwayId must contain exactly 64 hexadecimal characters"

/-- A decimal amount of at most 64 bits. -/
def parseUnsignedU64 (value fieldName : String) (allowZero : Bool) : Except String Int :=
  if isUnsignedDecimal value = false then .error s!"{fieldName} must be an unsigned decimal string"
  else
    let parsed : Int := decimalValue (value.toList.map fun c => c.toNat - '0'.toNat)
    if (allowZero = false ∧ parsed = 0) ∨ maximumU64 < parsed then
      let rangeStart := if allowZero then "0" else "1"
      .error s!"{fieldName} must be between {rangeStart} and {maximumU64}"
    else .ok parsed

/-- `data.set(source, offset)` -/
def setBytes (data : Bytes) (offset : Nat) (source : Bytes) : Bytes :=
  data.take offset ++ source ++ data.drop (offset + source.length)

/-- The data of an instruction, written into a buffer. -/
def encodeDirectSettlementData (discriminator : Bytes) (pathwayId amount minimumOutput : String) :
    Except String Bytes := do
  let data := setBytes (List.replicate 50 0) 0 discriminator
  let pathwayBytes ← parsePathwayId pathwayId
  let data := setBytes data 2 pathwayBytes
  let amountValue ← parseUnsignedU64 amount "amount" false
  let data := setBytes data 34 (LittleEndian.toBytes 8 amountValue.toNat)
  let minimumValue ← parseUnsignedU64 minimumOutput "minimumOutput" true
  return setBytes data 42 (LittleEndian.toBytes 8 minimumValue.toNat)

/-- What the two builders do with their positions. -/
def buildInstruction {Accounts : Type} (operationName : String) (discriminator : Bytes)
    (accountMetas : List (Except String AccountMetaSpec)) (selected : TargetVariable)
    (operation : DirectOperation Accounts) : Except String InstructionSpec := do
  let programId ← selectedProgramText selected
  let metas ← arrayOf (accountMetas ++ [.ok ⟨"eventProgram", programId, false, false⟩])
  rejectWhen (metas.length ≠ 31)
    s!"{operationName} must contain 31 account positions, received {metas.length}"
  let data ← encodeDirectSettlementData discriminator operation.pathwayId operation.amount
    operation.minimumOutput
  return ⟨programId, metas, data⟩

/-- The direct mint in TypeScript. -/
def buildMintDirectInstruction (stringify : List Nat → String) (selected : TargetVariable)
    (operation : MintDirectOperationInput) : Except String InstructionSpec :=
  buildInstruction "mint_direct" [4, 1]
    (mintAccountMetas stringify operation.accounts ++
      policyAccountMetas stringify operation.accounts.policyAccounts) selected operation

/-- The direct redemption in TypeScript. -/
def buildRedeemDirectInstruction (stringify : List Nat → String) (selected : TargetVariable)
    (operation : RedeemDirectOperationInput) : Except String InstructionSpec :=
  buildInstruction "redeem_direct" [4, 2]
    (redeemAccountMetas stringify operation.accounts ++
      policyAccountMetas stringify operation.accounts.policyAccounts) selected operation

end TypeScript

/-! ## Python -/

namespace Python

section

variable (repr : Char → String)

def assertPublicKey (value fieldName : String) (allowDefaultPublicKey : Bool) :
    Except String Unit := do
  let decoded ← integrationDecodeCharacters repr value
  rejectWhen (decoded.length ≠ 32) s!"{fieldName} must decode to exactly 32 bytes"
  rejectWhen (allowDefaultPublicKey = false ∧ decoded = List.replicate 32 0)
    s!"{fieldName} must not be the default public key"

def requiredAccount (name address : String) (isSigner isWritable : Bool) :
    Except String AccountMetaSpec := do
  assertPublicKey repr address s!"accounts.{name}" false
  return ⟨name, address, isSigner, isWritable⟩

def optionalAccount (name : String) (address : Option String) (isWritable : Bool) :
    Except String AccountMetaSpec :=
  match address with
  | none => .ok ⟨name, defaultPublicKey, false, isWritable⟩
  | some address => do
    assertPublicKey repr address s!"accounts.policyAccounts.{name}" false
    return ⟨name, address, false, isWritable⟩

def policyAccountMetas (policyAccounts : DirectSettlementPolicyAccounts String) :
    List (Except String AccountMetaSpec) :=
  [optionalAccount repr "feePolicy" policyAccounts.feePolicy false,
   optionalAccount repr "feeRecipientTokenAccount" policyAccounts.feeRecipientTokenAccount true,
   optionalAccount repr "limitPolicy" policyAccounts.limitPolicy false,
   optionalAccount repr "hourlyUsageWindow" policyAccounts.hourlyUsageWindow true,
   optionalAccount repr "dailyUsageWindow" policyAccounts.dailyUsageWindow true,
   optionalAccount repr "weeklyUsageWindow" policyAccounts.weeklyUsageWindow true,
   optionalAccount repr "monthlyUsageWindow" policyAccounts.monthlyUsageWindow true,
   optionalAccount repr "evidencePolicy" policyAccounts.evidencePolicy false,
   optionalAccount repr "assetLimitPolicy" policyAccounts.assetLimitPolicy false,
   optionalAccount repr "assetDailyUsageWindow" policyAccounts.assetDailyUsageWindow true,
   optionalAccount repr "counterpartyLimitPolicy" policyAccounts.counterpartyLimitPolicy false,
   optionalAccount repr "counterpartyDailyUsageWindow"
     policyAccounts.counterpartyDailyUsageWindow true]

/-- The positions of `mint_direct` before its policy accounts. -/
def mintAccountMetas (accounts : MintDirectAccounts String) :
    List (Except String AccountMetaSpec) :=
  [requiredAccount repr "moduleActivationState" accounts.moduleActivationState false false,
   requiredAccount repr "chanceryConfig" accounts.chanceryConfig false true,
   requiredAccount repr "eventAuthority" accounts.eventAuthority false false,
   requiredAccount repr "pauseState" accounts.pauseState false false,
   requiredAccount repr "assetConfig" accounts.assetConfig false false,
   requiredAccount repr "pathwayPolicy" accounts.pathwayPolicy false false,
   requiredAccount repr "permissionRecord" accounts.permissionRecord false false,
   requiredAccount repr "sourceAssetTokenAccount" accounts.sourceAssetTokenAccount false true,
   requiredAccount repr "reserveAssetTokenAccount" accounts.reserveAssetTokenAccount false true,
   requiredAccount repr "destinationIssuedTokenAccount"
     accounts.destinationIssuedTokenAccount false true,
   requiredAccount repr "assetMint" accounts.assetMint false false,
   requiredAccount repr "issuedTokenMint" accounts.issuedTokenMint false true,
   requiredAccount repr "mintAuthorityPda" accounts.mintAuthorityPda false false,
   requiredAccount repr "assetTokenProgram" accounts.assetTokenProgram false false,
   requiredAccount repr "issuedTokenProgram" accounts.issuedTokenProgram false false,
   requiredAccount repr "principal" accounts.principal true false,
   requiredAccount repr "assetPauseState" accounts.assetPauseState false false,
   requiredAccount repr "issuedTokenControl" accounts.issuedTokenControl false false]

/-- The positions of `redeem_direct` before its policy accounts. -/
def redeemAccountMetas (accounts : RedeemDirectAccounts String) :
    List (Except String AccountMetaSpec) :=
  [requiredAccount repr "moduleActivationState" accounts.moduleActivationState false false,
   requiredAccount repr "chanceryConfig" accounts.chanceryConfig false true,
   requiredAccount repr "eventAuthority" accounts.eventAuthority false false,
   requiredAccount repr "pauseState" accounts.pauseState false false,
   requiredAccount repr "assetConfig" accounts.assetConfig false false,
   requiredAccount repr "pathwayPolicy" accounts.pathwayPolicy false false,
   requiredAccount repr "permissionRecord" accounts.permissionRecord false false,
   requiredAccount repr "sourceIssuedTokenAccount" accounts.sourceIssuedTokenAccount false true,
   requiredAccount repr "reserveAssetTokenAccount" accounts.reserveAssetTokenAccount false true,
   requiredAccount repr "destinationAssetTokenAccount"
     accounts.destinationAssetTokenAccount false true,
   requiredAccount repr "assetMint" accounts.assetMint false false,
   requiredAccount repr "issuedTokenMint" accounts.issuedTokenMint false true,
   requiredAccount repr "reserveAuthorityPda" accounts.reserveAuthorityPda false false,
   requiredAccount repr "assetTokenProgram" accounts.assetTokenProgram false false,
   requiredAccount repr "issuedTokenProgram" accounts.issuedTokenProgram false false,
   requiredAccount repr "principal" accounts.principal true false,
   requiredAccount repr "assetPauseState" accounts.assetPauseState false false,
   requiredAccount repr "issuedTokenControl" accounts.issuedTokenControl false false]

end

def parsePathwayId (pathwayId : String) : Except String Bytes :=
  let normalized := normalizedPathwayId pathwayId
  if isPathwayPattern normalized then .ok ((pythonFromHex normalized).getD [])
  else .error "pathway_id must contain exactly 64 hexadecimal characters"

def parseUnsignedU64 (value fieldName : String) (allowZero : Bool) : Except String Int :=
  if isUnsignedDecimal value = false then .error s!"{fieldName} must be an unsigned decimal string"
  else do
    let parsed ← pythonInt value
    if (allowZero = false ∧ parsed = 0) ∨ maximumU64 < parsed then
      let rangeStart := if allowZero then "0" else "1"
      .error s!"{fieldName} must be between {rangeStart} and {maximumU64}"
    else .ok parsed

/-- The data of an instruction, as one concatenation. -/
def encodeDirectSettlementData (discriminator : Bytes) (pathwayId amount minimumOutput : String) :
    Except String Bytes := do
  let pathwayBytes ← parsePathwayId pathwayId
  let amountValue ← parseUnsignedU64 amount "amount" false
  let minimumValue ← parseUnsignedU64 minimumOutput "minimum_output" true
  return discriminator ++ pathwayBytes ++ LittleEndian.toBytes 8 amountValue.toNat ++
    LittleEndian.toBytes 8 minimumValue.toNat

/-- What the two builders do with their positions. -/
def buildInstruction {Accounts : Type} (operationName : String) (discriminator : Bytes)
    (accountMetas : List (Except String AccountMetaSpec)) (selected : TargetVariable)
    (operation : DirectOperation Accounts) : Except String InstructionSpec := do
  let programId ← selectedProgramText selected
  let metas ← arrayOf (accountMetas ++ [.ok ⟨"eventProgram", programId, false, false⟩])
  rejectWhen (metas.length ≠ 31)
    s!"{operationName} must contain 31 account positions, received {metas.length}"
  let data ← encodeDirectSettlementData discriminator operation.pathwayId operation.amount
    operation.minimumOutput
  return ⟨programId, metas, data⟩

/-- The direct mint in Python. -/
def buildMintDirectInstruction (repr : Char → String) (selected : TargetVariable)
    (operation : MintDirectOperationInput) : Except String InstructionSpec :=
  buildInstruction "mint_direct" [4, 1]
    (mintAccountMetas repr operation.accounts ++
      policyAccountMetas repr operation.accounts.policyAccounts) selected operation

/-- The direct redemption in Python. -/
def buildRedeemDirectInstruction (repr : Char → String) (selected : TargetVariable)
    (operation : RedeemDirectOperationInput) : Except String InstructionSpec :=
  buildInstruction "redeem_direct" [4, 2]
    (redeemAccountMetas repr operation.accounts ++
      policyAccountMetas repr operation.accounts.policyAccounts) selected operation

end Python

/-! ## Rust -/

namespace Rust

/-- The typed arguments of a direct mint. -/
structure MintDirectArguments where
  pathwayId : { bytes : Bytes // bytes.length = 32 }
  assetAmount : UInt64
  minimumIssuedTokenAmount : UInt64

/-- The typed arguments of a direct redemption. -/
structure RedeemDirectArguments where
  pathwayId : { bytes : Bytes // bytes.length = 32 }
  issuedTokenAmount : UInt64
  minimumAssetAmount : UInt64

/-- The program of the selected target. -/
def selectedProgramId : TargetVariable → Except String PublicKey
  | .text target =>
    programIdForTarget chanceryMainnetProgramAddress chanceryDevnetProgramAddress target
  | .notPresent => .ok chanceryMainnetProgramAddress
  | .notUnicode => .error "CHANCERY_TARGET must be UTF-8"

/-- Check of an address. -/
def validateNonDefault (fieldName : String) (address : PublicKey) : Except String Unit :=
  rejectWhen (address = zeroAddress) s!"{fieldName} must not be the default public key"

/-- A readonly account that must be given. -/
def requiredReadonly (fieldName : String) (address : PublicKey) (isSigner : Bool) :
    Except String SolanaInstructionAccountMeta := do
  validateNonDefault fieldName address
  return ⟨address, isSigner, false⟩

/-- A writable account that must be given. -/
def requiredWritable (fieldName : String) (address : PublicKey) (isSigner : Bool) :
    Except String SolanaInstructionAccountMeta := do
  validateNonDefault fieldName address
  return ⟨address, isSigner, true⟩

/-- Check of an address, when there is one. -/
def validateOptional (fieldName : String) : Option PublicKey → Except String Unit
  | none => .ok ()
  | some address => validateNonDefault fieldName address

/-- A readonly account that may be absent. -/
def optionalReadonly (fieldName : String) (address : Option PublicKey) :
    Except String SolanaInstructionAccountMeta := do
  validateOptional fieldName address
  return ⟨address.getD zeroAddress, false, false⟩

/-- A writable account that may be absent. -/
def optionalWritable (fieldName : String) (address : Option PublicKey) :
    Except String SolanaInstructionAccountMeta := do
  validateOptional fieldName address
  return ⟨address.getD zeroAddress, false, true⟩

def policyAccountMetas (policyAccounts : DirectSettlementPolicyAccounts PublicKey) :
    List (Except String SolanaInstructionAccountMeta) :=
  [optionalReadonly "accounts.policyAccounts.feePolicy" policyAccounts.feePolicy,
   optionalWritable "accounts.policyAccounts.feeRecipientTokenAccount"
     policyAccounts.feeRecipientTokenAccount,
   optionalReadonly "accounts.policyAccounts.limitPolicy" policyAccounts.limitPolicy,
   optionalWritable "accounts.policyAccounts.hourlyUsageWindow" policyAccounts.hourlyUsageWindow,
   optionalWritable "accounts.policyAccounts.dailyUsageWindow" policyAccounts.dailyUsageWindow,
   optionalWritable "accounts.policyAccounts.weeklyUsageWindow" policyAccounts.weeklyUsageWindow,
   optionalWritable "accounts.policyAccounts.monthlyUsageWindow"
     policyAccounts.monthlyUsageWindow,
   optionalReadonly "accounts.policyAccounts.evidencePolicy" policyAccounts.evidencePolicy,
   optionalReadonly "accounts.policyAccounts.assetLimitPolicy" policyAccounts.assetLimitPolicy,
   optionalWritable "accounts.policyAccounts.assetDailyUsageWindow"
     policyAccounts.assetDailyUsageWindow,
   optionalReadonly "accounts.policyAccounts.counterpartyLimitPolicy"
     policyAccounts.counterpartyLimitPolicy,
   optionalWritable "accounts.policyAccounts.counterpartyDailyUsageWindow"
     policyAccounts.counterpartyDailyUsageWindow]

/-- The positions of `mint_direct` before its policy accounts. -/
def mintAccountMetas (accounts : MintDirectAccounts PublicKey) :
    List (Except String SolanaInstructionAccountMeta) :=
  [requiredReadonly "accounts.moduleActivationState" accounts.moduleActivationState false,
   requiredWritable "accounts.chanceryConfig" accounts.chanceryConfig false,
   requiredReadonly "accounts.eventAuthority" accounts.eventAuthority false,
   requiredReadonly "accounts.pauseState" accounts.pauseState false,
   requiredReadonly "accounts.assetConfig" accounts.assetConfig false,
   requiredReadonly "accounts.pathwayPolicy" accounts.pathwayPolicy false,
   requiredReadonly "accounts.permissionRecord" accounts.permissionRecord false,
   requiredWritable "accounts.sourceAssetTokenAccount" accounts.sourceAssetTokenAccount false,
   requiredWritable "accounts.reserveAssetTokenAccount" accounts.reserveAssetTokenAccount false,
   requiredWritable "accounts.destinationIssuedTokenAccount"
     accounts.destinationIssuedTokenAccount false,
   requiredReadonly "accounts.assetMint" accounts.assetMint false,
   requiredWritable "accounts.issuedTokenMint" accounts.issuedTokenMint false,
   requiredReadonly "accounts.mintAuthorityPda" accounts.mintAuthorityPda false,
   requiredReadonly "accounts.assetTokenProgram" accounts.assetTokenProgram false,
   requiredReadonly "accounts.issuedTokenProgram" accounts.issuedTokenProgram false,
   requiredReadonly "accounts.principal" accounts.principal true,
   requiredReadonly "accounts.assetPauseState" accounts.assetPauseState false,
   requiredReadonly "accounts.issuedTokenControl" accounts.issuedTokenControl false]

/-- The positions of `redeem_direct` before its policy accounts. -/
def redeemAccountMetas (accounts : RedeemDirectAccounts PublicKey) :
    List (Except String SolanaInstructionAccountMeta) :=
  [requiredReadonly "accounts.moduleActivationState" accounts.moduleActivationState false,
   requiredWritable "accounts.chanceryConfig" accounts.chanceryConfig false,
   requiredReadonly "accounts.eventAuthority" accounts.eventAuthority false,
   requiredReadonly "accounts.pauseState" accounts.pauseState false,
   requiredReadonly "accounts.assetConfig" accounts.assetConfig false,
   requiredReadonly "accounts.pathwayPolicy" accounts.pathwayPolicy false,
   requiredReadonly "accounts.permissionRecord" accounts.permissionRecord false,
   requiredWritable "accounts.sourceIssuedTokenAccount" accounts.sourceIssuedTokenAccount false,
   requiredWritable "accounts.reserveAssetTokenAccount" accounts.reserveAssetTokenAccount false,
   requiredWritable "accounts.destinationAssetTokenAccount"
     accounts.destinationAssetTokenAccount false,
   requiredReadonly "accounts.assetMint" accounts.assetMint false,
   requiredWritable "accounts.issuedTokenMint" accounts.issuedTokenMint false,
   requiredReadonly "accounts.reserveAuthorityPda" accounts.reserveAuthorityPda false,
   requiredReadonly "accounts.assetTokenProgram" accounts.assetTokenProgram false,
   requiredReadonly "accounts.issuedTokenProgram" accounts.issuedTokenProgram false,
   requiredReadonly "accounts.principal" accounts.principal true,
   requiredReadonly "accounts.assetPauseState" accounts.assetPauseState false,
   requiredReadonly "accounts.issuedTokenControl" accounts.issuedTokenControl false]

/-- The instructions take a fixed number of accounts. -/
def ensureAccountCount (operationName : String) (accounts : List SolanaInstructionAccountMeta) :
    Except String Unit :=
  rejectWhen (accounts.length ≠ 31)
    s!"{operationName} must contain 31 account positions, received {accounts.length}"

/-- The data of an instruction. -/
def encodeDirectArguments (discriminator pathwayId : Bytes) (amount minimumOutput : UInt64) :
    Bytes :=
  discriminator ++ pathwayId ++ LittleEndian.toBytes 8 amount.toNat ++
    LittleEndian.toBytes 8 minimumOutput.toNat

/-- What the two builders do with their positions. -/
def buildInstruction (operationName : String) (discriminator : Bytes)
    (accountMetas : List (Except String SolanaInstructionAccountMeta)) (selected : TargetVariable)
    (pathwayId : Bytes) (amount minimumOutput : UInt64) : Except String SolanaInstruction := do
  rejectWhen (amount = 0) "amount must be greater than zero"
  let metas ← arrayOf (accountMetas ++
    [(selectedProgramId selected).map fun programId => ⟨programId, false, false⟩])
  ensureAccountCount operationName metas
  let programId ← selectedProgramId selected
  return ⟨programId, metas, encodeDirectArguments discriminator pathwayId amount minimumOutput⟩

/-- The direct mint in Rust. -/
def buildMintDirectInstruction (selected : TargetVariable)
    (accounts : MintDirectAccounts PublicKey) (arguments : MintDirectArguments) :
    Except String SolanaInstruction :=
  buildInstruction "mint_direct" [4, 1]
    (mintAccountMetas accounts ++ policyAccountMetas accounts.policyAccounts) selected
    arguments.pathwayId.1 arguments.assetAmount arguments.minimumIssuedTokenAmount

/-- The direct redemption in Rust. -/
def buildRedeemDirectInstruction (selected : TargetVariable)
    (accounts : RedeemDirectAccounts PublicKey) (arguments : RedeemDirectArguments) :
    Except String SolanaInstruction :=
  buildInstruction "redeem_direct" [4, 2]
    (redeemAccountMetas accounts ++ policyAccountMetas accounts.policyAccounts) selected
    arguments.pathwayId.1 arguments.issuedTokenAmount arguments.minimumAssetAmount

end Rust

end Chancery.Integration
