import Chancery.ProgramAddress

/-!
# Token accounts and mints

Model of `typescript/src/SplToken.ts` and `python/chancery_reference/spl_token.py`.

* `decodeTokenMint` — the base layout and the Token-2022 extension entries that follow it.
* `decodeTokenAccount`, `assertTokenAccountBinding`.
* `calculateTokenTransferFee` — the fee of the schedule in force, rounded up and capped.
* `deriveAssociatedTokenAddress`.
-/

set_option autoImplicit false

namespace Chancery

/-- The size of a mint without extensions. -/
def tokenMintBaseSize : Nat := 82
def tokenAccountBaseSize : Nat := 165
def token2022AccountTypeOffset : Nat := 165
def token2022TlvOffset : Nat := 166
def token2022MintAccountType : Nat := 1
def transferFeeConfigExtensionType : Nat := 1
def transferHookExtensionType : Nat := 14
def confidentialTransferFeeConfigExtensionType : Nat := 16
def transferFeeConfigSize : Nat := 108
def basisPointDenominator : Int := 10000

/-- `TokenkegQfeZyiNwAJbNbGKPFXCWuBvf9Ss623VQ5DA`. -/
def splTokenProgramAddress : PublicKey where
  bytes := [6, 221, 246, 225, 215, 101, 161, 147, 217, 203, 225, 70, 206, 235, 121, 172, 28, 180,
    133, 237, 95, 91, 55, 145, 58, 140, 245, 133, 126, 255, 0, 169]
  length_eq := rfl

/-- `TokenzQdBNbLqP5VEhdkAS6EPFLC1PHnBqCXEpPxuEb`. -/
def token2022ProgramAddress : PublicKey where
  bytes := [6, 221, 246, 225, 238, 117, 143, 222, 24, 66, 93, 188, 228, 108, 205, 218, 182, 26,
    252, 77, 131, 185, 13, 39, 254, 189, 249, 40, 216, 161, 139, 252]
  length_eq := rfl

/-- `ATokenGPvbdGVxr1b2hvZbsiqW5xWH25efTNsLJA8knL`. -/
def associatedTokenProgramAddress : PublicKey where
  bytes := [140, 151, 37, 143, 78, 36, 137, 241, 187, 61, 16, 41, 20, 142, 13, 131, 11, 90, 19,
    153, 218, 255, 16, 132, 4, 142, 123, 216, 219, 233, 248, 89]
  length_eq := rfl

/-- One entry of a mint's extensions. -/
structure Token2022Extension where
  extensionType : Nat
  byteLength : Nat
  value : Bytes

/-- A transfer fee, from an epoch on. -/
structure Token2022TransferFee where
  epoch : Nat
  maximumFee : Nat
  transferFeeBasisPoints : Nat

/-- The older and the newer fee of a mint. -/
structure Token2022TransferFeeConfig where
  transferFeeConfigAuthority : Option PublicKey
  withdrawWithheldAuthority : Option PublicKey
  withheldAmount : Nat
  olderTransferFee : Token2022TransferFee
  newerTransferFee : Token2022TransferFee

/-- What a transfer withholds and delivers. -/
structure TokenTransferFeeCalculation where
  epoch : Int
  amount : Int
  transferFeeBasisPoints : Nat
  maximumFee : Int
  feeAmount : Int
  receivedAmount : Int

/-- The extensions of a mint, with those that fees depend on. -/
structure Token2022MintExtensionResult where
  accountType : Option Nat
  extensions : List Token2022Extension
  transferFeeConfig : Option Token2022TransferFeeConfig
  transferHookProgramAddress : Option PublicKey
  hasUnmodeledTransferBehavior : Bool

/-- A mint account. -/
structure DecodedTokenMint where
  mintAuthority : Option PublicKey
  supply : Nat
  decimals : Nat
  initialized : Bool
  freezeAuthority : Option PublicKey
  baseSize : Nat
  totalSize : Nat
  hasExtensions : Bool
  accountType : Option Nat
  extensions : List Token2022Extension
  transferFeeConfig : Option Token2022TransferFeeConfig
  transferHookProgramAddress : Option PublicKey
  hasUnmodeledTransferBehavior : Bool

/-- A token account. -/
structure DecodedTokenAccount where
  mint : PublicKey
  owner : PublicKey
  amount : Nat
  delegate : Option PublicKey
  state : Nat
  nativeReserve : Option Nat
  delegatedAmount : Nat
  closeAuthority : Option PublicKey
  baseSize : Nat
  totalSize : Nat
  hasExtensions : Bool

/-! ## Reading -/

/-- Bytes of the data, which must reach that far. -/
def sliceExact (data : Bytes) (offset byteLength : Nat) (label : String) : Except String Bytes :=
  if data.length < offset + byteLength then
    .error s!"{label} requires bytes {offset}..{(offset + byteLength : Int) - 1}"
  else .ok ((data.drop offset).take byteLength)

/-- A little-endian number of the data. -/
def readUnsignedLittleEndian (data : Bytes) (offset byteLength : Nat) (label : String) :
    Except String Nat := do
  let bytes ← sliceExact data offset byteLength label
  return LittleEndian.ofBytes bytes

/-- An address of the data. -/
def slicePublicKey (data : Bytes) (offset : Nat) (label : String) : Except String PublicKey := do
  let bytes ← sliceExact data offset 32 label
  publicKeyFromBytes bytes

/-- An address; zero stands for none. -/
def decodeOptionalNonzeroPublicKey (data : Bytes) (offset : Nat) (label : String) :
    Except String (Option PublicKey) := do
  let key ← slicePublicKey data offset label
  return if key.bytes.any (· ≠ 0) then some key else none

/-- An address behind a 4-byte tag. -/
def decodeCOptionPublicKey (data : Bytes) (offset : Nat) (label : String) :
    Except String (Option PublicKey) := do
  let tag ← readUnsignedLittleEndian data offset 4 s!"{label} option tag"
  match tag with
  | 0 => return none
  | 1 => do
    let key ← slicePublicKey data (offset + 4) label
    return some key
  | _ => .error s!"{label} option tag is invalid: {tag}"

/-- A number behind a 4-byte tag. -/
def decodeCOptionUnsignedInteger (data : Bytes) (offset : Nat) (label : String) :
    Except String (Option Nat) := do
  let tag ← readUnsignedLittleEndian data offset 4 s!"{label} option tag"
  match tag with
  | 0 => return none
  | 1 => do
    let value ← readUnsignedLittleEndian data (offset + 4) 8 label
    return some value
  | _ => .error s!"{label} option tag is invalid: {tag}"

/-! ## Mints -/

/-- A transfer fee of the extension. -/
def decodeTransferFee (value : Bytes) (offset : Nat) (label : String) :
    Except String Token2022TransferFee := do
  let transferFeeBasisPoints ←
    readUnsignedLittleEndian value (offset + 16) 2 s!"{label} basis points"
  if 10000 < transferFeeBasisPoints then
    .error s!"{label} basis points exceed 10000: {transferFeeBasisPoints}"
  else do
    let epoch ← readUnsignedLittleEndian value offset 8 s!"{label} epoch"
    let maximumFee ← readUnsignedLittleEndian value (offset + 8) 8 s!"{label} maximum fee"
    return ⟨epoch, maximumFee, transferFeeBasisPoints⟩

/-- The transfer fee extension. -/
def decodeTransferFeeConfig (value : Bytes) : Except String Token2022TransferFeeConfig :=
  if value.length ≠ transferFeeConfigSize then
    .error s!"TransferFeeConfig requires {transferFeeConfigSize} bytes; received {value.length}"
  else do
    let configAuthority ← decodeOptionalNonzeroPublicKey value 0 "transfer fee config authority"
    let withheldAuthority ← decodeOptionalNonzeroPublicKey value 32 "withdraw withheld authority"
    let withheldAmount ← readUnsignedLittleEndian value 64 8 "withheld amount"
    let olderTransferFee ← decodeTransferFee value 72 "older transfer fee"
    let newerTransferFee ← decodeTransferFee value 90 "newer transfer fee"
    return ⟨configAuthority, withheldAuthority, withheldAmount, olderTransferFee,
      newerTransferFee⟩

/-- What one entry adds to the result so far. -/
def applyExtension (result : Token2022MintExtensionResult) (extension : Token2022Extension) :
    Except String Token2022MintExtensionResult :=
  let listed := { result with extensions := result.extensions ++ [extension] }
  if extension.extensionType = transferFeeConfigExtensionType then
    if result.transferFeeConfig.isSome then
      .error "Token-2022 mint has duplicate TransferFeeConfig extensions"
    else do
      let config ← decodeTransferFeeConfig extension.value
      return { listed with transferFeeConfig := some config }
  else if extension.extensionType = transferHookExtensionType then
    if extension.value.length ≠ 64 then
      .error s!"TransferHook extension requires 64 bytes; received {extension.value.length}"
    else do
      let hook ← decodeOptionalNonzeroPublicKey extension.value 32 "transfer hook program"
      return { listed with
        transferHookProgramAddress := hook
        hasUnmodeledTransferBehavior := listed.hasUnmodeledTransferBehavior || hook.isSome }
  else if extension.extensionType = confidentialTransferFeeConfigExtensionType then
    .ok { listed with hasUnmodeledTransferBehavior := true }
  else .ok listed

/-- The entries from the cursor on, up to a zero type or a rest too short for a header. -/
def decodeExtensionEntries (data : Bytes) :
    Nat → Nat → Token2022MintExtensionResult → Except String (Nat × Token2022MintExtensionResult)
  | 0, cursor, result => .ok (cursor, result)
  | fuel + 1, cursor, result =>
    if data.length < cursor + 4 then .ok (cursor, result)
    else do
      let extensionType ← readUnsignedLittleEndian data cursor 2 "extension type"
      let byteLength ← readUnsignedLittleEndian data (cursor + 2) 2 "extension length"
      if extensionType = 0 then .ok (cursor, result)
      else do
        let value ← sliceExact data (cursor + 4) byteLength s!"extension {extensionType}"
        let result ← applyExtension result ⟨extensionType, byteLength, value⟩
        decodeExtensionEntries data fuel (cursor + 4 + byteLength) result

/-- The extensions behind a mint. -/
def decodeToken2022MintExtensions (data : Bytes) : Except String Token2022MintExtensionResult :=
  if data.length = tokenMintBaseSize then
    .ok { accountType := none, extensions := [], transferFeeConfig := none
          transferHookProgramAddress := none, hasUnmodeledTransferBehavior := false }
  else if data.length ≤ token2022AccountTypeOffset then
    .error "Token-2022 mint extension region is truncated"
  else
    let accountType := (data.getD token2022AccountTypeOffset 0).toNat
    if accountType ≠ token2022MintAccountType then
      .error s!"Token-2022 mint account type is invalid: {accountType}"
    else do
      let (cursor, result) ← decodeExtensionEntries data data.length token2022TlvOffset
        { accountType := some accountType, extensions := [], transferFeeConfig := none
          transferHookProgramAddress := none, hasUnmodeledTransferBehavior := false }
      if data.length - cursor < 4 && (data.drop cursor).any (· ≠ 0) then
        .error "Token-2022 mint TLV has nonzero trailing bytes"
      else return result

/-- The initialization flag, 0 or 1. -/
def mintInitialized (data : Bytes) : Except String Bool :=
  match (data.getD 45 0).toNat with
  | 0 => .ok false
  | 1 => .ok true
  | initializedByte => .error s!"Token mint initialized flag is invalid: {initializedByte}"

/-- Python checks the flag and the extensions before it reads the authorities. -/
def decodeTokenMint (L : Language) (data : Bytes) : Except String DecodedTokenMint :=
  if data.length < tokenMintBaseSize then
    .error s!"Token mint requires at least {tokenMintBaseSize} bytes; received {data.length}"
  else do
    if L = .python then do
      let _ ← mintInitialized data
      let _ ← decodeToken2022MintExtensions data
    let mintAuthority ← decodeCOptionPublicKey data 0 "mint authority"
    let supply ← readUnsignedLittleEndian data 36 8 "mint supply"
    let initialized ← mintInitialized data
    let freezeAuthority ← decodeCOptionPublicKey data 46 "freeze authority"
    let extensionResult ← decodeToken2022MintExtensions data
    return {
      mintAuthority := mintAuthority
      supply := supply
      decimals := (data.getD 44 0).toNat
      initialized := initialized
      freezeAuthority := freezeAuthority
      baseSize := tokenMintBaseSize
      totalSize := data.length
      hasExtensions := !extensionResult.extensions.isEmpty
      accountType := extensionResult.accountType
      extensions := extensionResult.extensions
      transferFeeConfig := extensionResult.transferFeeConfig
      transferHookProgramAddress := extensionResult.transferHookProgramAddress
      hasUnmodeledTransferBehavior := extensionResult.hasUnmodeledTransferBehavior }

/-! ## Transfer fees -/

/-- The fee in force at an epoch. -/
def selectActiveTransferFee (config : Token2022TransferFeeConfig) (currentEpoch : Int) :
    Except String Token2022TransferFee :=
  if currentEpoch < 0 then .error "Current epoch must be non-negative"
  else .ok (if currentEpoch < config.newerTransferFee.epoch then config.olderTransferFee
    else config.newerTransferFee)

/-- Division rounded up. -/
def divideCeiling (L : Language) (numerator denominator : Int) : Int :=
  if numerator = 0 then 0 else L.divide (numerator + denominator - 1) denominator

/-- The proportional fee, rounded up and capped at the maximum. -/
def transferFeeAmount (L : Language) (amount : Int) (activeFee : Token2022TransferFee) : Int :=
  let uncappedFee : Int :=
    if amount = 0 ∨ activeFee.transferFeeBasisPoints = 0 then 0
    else divideCeiling L (amount * activeFee.transferFeeBasisPoints) basisPointDenominator
  if uncappedFee ≤ activeFee.maximumFee then uncappedFee else activeFee.maximumFee

/-- The calculation at the fee in force. -/
def activeTransferFeeCalculation (L : Language) (amount currentEpoch : Int)
    (activeFee : Token2022TransferFee) : Except String TokenTransferFeeCalculation :=
  if amount < transferFeeAmount L amount activeFee then
    .error "Calculated transfer fee exceeds transfer amount"
  else .ok {
    epoch := currentEpoch
    amount := amount
    transferFeeBasisPoints := activeFee.transferFeeBasisPoints
    maximumFee := activeFee.maximumFee
    feeAmount := transferFeeAmount L amount activeFee
    receivedAmount := amount - transferFeeAmount L amount activeFee }

/-- Python rejects a negative epoch even where there is no fee configuration. -/
def calculateTokenTransferFee (L : Language) (amount : Int)
    (config : Option Token2022TransferFeeConfig) (currentEpoch : Int) :
    Except String TokenTransferFeeCalculation :=
  if amount < 0 then .error "Transfer amount must be non-negative"
  else if L = .python ∧ currentEpoch < 0 then .error "Current epoch must be non-negative"
  else match config with
    | none => .ok { epoch := currentEpoch, amount := amount, transferFeeBasisPoints := 0
                    maximumFee := 0, feeAmount := 0, receivedAmount := amount }
    | some config => do
      let activeFee ← selectActiveTransferFee config currentEpoch
      activeTransferFeeCalculation L amount currentEpoch activeFee

theorem divideCeiling_nonneg {L : Language} {numerator denominator : Int}
    (hnumerator : 0 ≤ numerator) (hdenominator : 0 < denominator) :
    0 ≤ divideCeiling L numerator denominator := by
  unfold divideCeiling
  split
  · exact le_rfl
  · rw [Language.divide_eq (by omega) (by omega)]
    exact Int.ediv_nonneg (by omega) (by omega)

theorem transferFeeAmount_nonneg {L : Language} {amount : Int} (hamount : 0 ≤ amount)
    (activeFee : Token2022TransferFee) : 0 ≤ transferFeeAmount L amount activeFee := by
  have hceiling : 0 ≤ divideCeiling L (amount * activeFee.transferFeeBasisPoints)
      basisPointDenominator :=
    divideCeiling_nonneg (mul_nonneg hamount (Int.natCast_nonneg _)) (by decide)
  have hcap : (0 : Int) ≤ activeFee.maximumFee := Int.natCast_nonneg _
  by_cases hfree : amount = 0 ∨ activeFee.transferFeeBasisPoints = 0
  · simp [transferFeeAmount, hfree]
  · simp only [transferFeeAmount, if_neg hfree]
    split
    · exact hceiling
    · exact hcap

/-- A transfer passes on what it was given but for a fee. -/
theorem calculateTokenTransferFee_ok {L : Language} {amount currentEpoch : Int}
    {config : Option Token2022TransferFeeConfig} {transfer : TokenTransferFeeCalculation}
    (h : calculateTokenTransferFee L amount config currentEpoch = .ok transfer) :
    0 ≤ transfer.receivedAmount ∧ transfer.receivedAmount ≤ amount := by
  unfold calculateTokenTransferFee at h
  split at h
  · cases h
  · rename_i hamount
    split at h
    · cases h
    · cases config with
      | none =>
        cases h
        exact ⟨by dsimp only; omega, le_rfl⟩
      | some config =>
        obtain ⟨activeFee, -, hfee⟩ := Except.bind_eq_ok.1 h
        have hnonneg := transferFeeAmount_nonneg (L := L) (not_lt.1 hamount) activeFee
        unfold activeTransferFeeCalculation at hfee
        split at hfee
        · cases hfee
        · cases hfee
          exact ⟨by dsimp only; omega, by dsimp only; omega⟩

/-! ## Accounts -/

/-- A token account read from its data. -/
def decodeTokenAccount (data : Bytes) : Except String DecodedTokenAccount :=
  if data.length < tokenAccountBaseSize then
    .error s!"Token account requires at least {tokenAccountBaseSize} bytes; received {data.length}"
  else
    let state := (data.getD 108 0).toNat
    if 2 < state then .error s!"Token account state is invalid: {state}"
    else do
      let mint ← slicePublicKey data 0 "mint"
      let owner ← slicePublicKey data 32 "owner"
      let amount ← readUnsignedLittleEndian data 64 8 "token account amount"
      let delegate ← decodeCOptionPublicKey data 72 "delegate"
      let nativeReserve ← decodeCOptionUnsignedInteger data 109 "native reserve"
      let delegatedAmount ← readUnsignedLittleEndian data 121 8 "delegated amount"
      let closeAuthority ← decodeCOptionPublicKey data 129 "close authority"
      return {
        mint := mint
        owner := owner
        amount := amount
        delegate := delegate
        state := state
        nativeReserve := nativeReserve
        delegatedAmount := delegatedAmount
        closeAuthority := closeAuthority
        baseSize := tokenAccountBaseSize
        totalSize := data.length
        hasExtensions := tokenAccountBaseSize < data.length }

/-- Check of a token account's mint and owner. -/
def assertTokenAccountBinding (tokenAccount : DecodedTokenAccount)
    (expectedMint expectedOwner : PublicKey) (label : String) : Except String Unit :=
  if tokenAccount.mint ≠ expectedMint then
    .error s!"{label} mint {tokenAccount.mint.toBase58} does not match {expectedMint.toBase58}"
  else if tokenAccount.owner ≠ expectedOwner then
    .error s!"{label} owner {tokenAccount.owner.toBase58} does not match {expectedOwner.toBase58}"
  else if tokenAccount.state ≠ 1 then .error s!"{label} is not initialized"
  else .ok ()

/-! ## Programs and associated accounts -/

/-- One of the two token programs. -/
def isSupportedTokenProgram (programAddress : PublicKey) : Bool :=
  programAddress == splTokenProgramAddress || programAddress == token2022ProgramAddress

/-- Check of a token program. -/
def assertSupportedTokenProgram (programAddress : PublicKey) : Except String PublicKey :=
  if isSupportedTokenProgram programAddress then .ok programAddress
  else .error s!"Unsupported token program: {programAddress.toBase58}"

/-- The associated token account of an owner. -/
def deriveAssociatedTokenAddress (sha256 : Sha256) (owner mint tokenProgramAddress : PublicKey) :
    Except String ProgramAddressResult := do
  let tokenProgram ← assertSupportedTokenProgram tokenProgramAddress
  findProgramAddress sha256 [owner.bytes, tokenProgram.bytes, mint.bytes]
    associatedTokenProgramAddress

end Chancery
