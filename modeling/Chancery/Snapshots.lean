import Chancery.InstructionAccounts
import Chancery.SplToken

/-!
# Requests and snapshots

What the client is asked and what it loads from the chain, after
`typescript/src/client/ChanceryClient.ts` and `python/chancery_reference/client.py`.

* `normalizeRequest` — a request with its addresses and identifiers decoded.
* `loadChanceryState`, `loadTokenMint`, `loadTokenAccountAtAddress` — the snapshot that an
  account lookup leads to.  A snapshot exists when it has values.
-/

set_option autoImplicit false

namespace Chancery

/-! ## Requests -/

/-- A request as callers write it. -/
structure SettlementOperationRequest where
  action : SettlementAction
  mode : SettlementMode
  assetMint : String
  principal : String
  amount : Option Int := none
  minimumOutput : Option Int := none
  pathwayId : Option Bytes32Input := none
  intentId : Option Bytes32Input := none
  executor : Option String := none
  principalB : Option String := none
  sourceTokenAccount : Option String := none
  destinationTokenAccount : Option String := none
  feeRecipientTokenAccount : Option String := none
  rentRefundRecipient : Option String := none
  nowUnixTimestamp : Option Int := none

/-- A request whose addresses and identifiers are read. -/
structure NormalizedSettlementOperationRequest where
  action : SettlementAction
  mode : SettlementMode
  assetMint : PublicKey
  principal : PublicKey
  amount : Option Int
  minimumOutput : Option Int
  pathwayId : Option Bytes
  intentId : Option Bytes
  executor : Option PublicKey
  principalB : Option PublicKey
  sourceTokenAccount : Option PublicKey
  destinationTokenAccount : Option PublicKey
  feeRecipientTokenAccount : Option PublicKey
  rentRefundRecipient : Option PublicKey
  nowUnixTimestamp : Int

/-- Whether an amount is given and negative. -/
def isNegative (amount : Option Int) : Bool := amount.any (· < 0)

/-- Actions and modes outside the two enumerations are refused before anything else. -/
def normalizeRequest (L : Language) (request : SettlementOperationRequest)
    (observedUnixTimestamp : Int) : Except String NormalizedSettlementOperationRequest := do
  rejectWhen (isNegative request.amount) "Settlement amount cannot be negative"
  rejectWhen (isNegative request.minimumOutput) "Minimum output cannot be negative"
  let assetMint ← decodePublicKey request.assetMint
  let principal ← decodePublicKey request.principal
  let pathwayId ← request.pathwayId.mapM (bytes32FromInput L · "pathway id")
  let intentId ← request.intentId.mapM (bytes32FromInput L · "intent id")
  let executor ← request.executor.mapM decodePublicKey
  let principalB ← request.principalB.mapM decodePublicKey
  let sourceTokenAccount ← request.sourceTokenAccount.mapM decodePublicKey
  let destinationTokenAccount ← request.destinationTokenAccount.mapM decodePublicKey
  let feeRecipientTokenAccount ← request.feeRecipientTokenAccount.mapM decodePublicKey
  let rentRefundRecipient ← request.rentRefundRecipient.mapM decodePublicKey
  return {
    action := request.action
    mode := request.mode
    assetMint := assetMint
    principal := principal
    amount := request.amount
    minimumOutput := request.minimumOutput
    pathwayId := pathwayId
    intentId := intentId
    executor := executor
    principalB := principalB
    sourceTokenAccount := sourceTokenAccount
    destinationTokenAccount := destinationTokenAccount
    feeRecipientTokenAccount := feeRecipientTokenAccount
    rentRefundRecipient := rentRefundRecipient
    nowUnixTimestamp := request.nowUnixTimestamp.getD observedUnixTimestamp }

/-! ## Snapshots -/

/-- A program account at the time of the observation. -/
structure ChanceryStateSnapshot where
  address : PublicKey
  expectedName : String
  owner : Option PublicKey
  lamports : Option Nat
  dataLength : Nat
  values : Option StructValues

/-- A mint at the time of the observation. -/
structure TokenMintSnapshot where
  address : PublicKey
  tokenProgramAddress : PublicKey
  values : Option DecodedTokenMint

/-- How a token account was found. -/
inductive TokenAccountSelection where
  | override
  | associatedTokenAccount
  | uniqueOwnerAccount
  | derivedMissing
  deriving DecidableEq

/-- A token account at the time of the observation. -/
structure TokenAccountSnapshot where
  address : PublicKey
  tokenProgramAddress : PublicKey
  selection : TokenAccountSelection
  values : Option DecodedTokenAccount

/-- Whether the account exists. -/
def ChanceryStateSnapshot.doesExist (snapshot : ChanceryStateSnapshot) : Bool :=
  snapshot.values.isSome

def TokenMintSnapshot.doesExist (snapshot : TokenMintSnapshot) : Bool := snapshot.values.isSome

def TokenAccountSnapshot.doesExist (snapshot : TokenAccountSnapshot) : Bool :=
  snapshot.values.isSome

/-- A token account that does not exist. -/
def TokenAccountSnapshot.missing (address tokenProgramAddress : PublicKey) :
    TokenAccountSnapshot where
  address := address
  tokenProgramAddress := tokenProgramAddress
  selection := .derivedMissing
  values := none

/-- The snapshot of a decoded account. -/
def snapshotFromDecoded (address : PublicKey) (account : RpcAccountInfo) (expectedName : String)
    (values : StructValues) : ChanceryStateSnapshot where
  address := address
  expectedName := expectedName
  owner := some account.owner
  lamports := some account.lamports
  dataLength := account.data.length
  values := some values

/-- The values of an account that must exist. -/
def requireSnapshotValues (snapshot : ChanceryStateSnapshot) : Except String StructValues :=
  match snapshot.values with
  | some values => .ok values
  | none =>
    .error s!"{snapshot.expectedName} account {snapshot.address.toBase58} has no decoded values"

/-! ## Loads -/

section

variable (client : ChanceryClient)

/-- `decodeChanceryAccount` in the language of the client. -/
def decodeAccount (data : Bytes) : Except String DecodedChanceryAccount :=
  decodeAccountWith client.language.dialect data

/-- The snapshot that an account lookup leads to. -/
def chanceryStateSnapshot (address : PublicKey) (expectedName : String) (allowMissing : Bool)
    (account : Option RpcAccountInfo) : Except String ChanceryStateSnapshot :=
  match account with
  | none =>
    if allowMissing then .ok {
      address := address
      expectedName := expectedName
      owner := none
      lamports := none
      dataLength := 0
      values := none }
    else .error s!"{expectedName} account {address.toBase58} does not exist"
  | some account =>
    if account.owner ≠ client.deployment.programAddress then
      if allowMissing ∧ account.data.length = 0 then .ok {
        address := address
        expectedName := expectedName
        owner := some account.owner
        lamports := some account.lamports
        dataLength := 0
        values := none }
      else .error
        s!"{expectedName} account {address.toBase58} is owned by {account.owner.toBase58}"
    else do
      let decoded ← decodeAccount client account.data
      rejectWhen (decoded.name ≠ expectedName)
        s!"{address.toBase58} contains {decoded.name}, expected {expectedName}"
      return snapshotFromDecoded address account expectedName decoded.values

/-- A program account at its address. -/
def loadChanceryState (address : PublicKey) (expectedName : String) (allowMissing : Bool) :
    Reads ChanceryStateSnapshot := do
  let account ← getAccountInfo address client.commitment
  chanceryStateSnapshot client address expectedName allowMissing account

/-- The snapshot of a mint. -/
def tokenMintSnapshot (address tokenProgramAddress : PublicKey)
    (account : Option RpcAccountInfo) : Except String TokenMintSnapshot :=
  match account with
  | none => .ok ⟨address, tokenProgramAddress, none⟩
  | some account => do
    rejectWhen (account.owner ≠ tokenProgramAddress)
      (s!"Token mint {address.toBase58} is owned by {account.owner.toBase58}, not " ++
        tokenProgramAddress.toBase58)
    let values ← decodeTokenMint client.language account.data
    return ⟨address, tokenProgramAddress, some values⟩

/-- TypeScript awaits both lookups at once, Python one after the other. -/
def loadTokenMints (assetMint assetTokenProgram issuedTokenMint issuedTokenProgram : PublicKey) :
    Reads (TokenMintSnapshot × TokenMintSnapshot) :=
  match client.language with
  | .typescript =>
    .call (.bothAccountInfos assetMint issuedTokenMint client.commitment) fun answer => .done do
      let assetAccount ← answer.1
      let asset ← tokenMintSnapshot client assetMint assetTokenProgram assetAccount
      let issuedAccount ← answer.2
      let issued ← tokenMintSnapshot client issuedTokenMint issuedTokenProgram issuedAccount
      return (asset, issued)
  | .python => do
    let assetAccount ← getAccountInfo assetMint client.commitment
    let asset ← tokenMintSnapshot client assetMint assetTokenProgram assetAccount
    let issuedAccount ← getAccountInfo issuedTokenMint client.commitment
    let issued ← tokenMintSnapshot client issuedTokenMint issuedTokenProgram issuedAccount
    return (asset, issued)

/-- An existing account has to be the expected owner's, for the expected mint. -/
def tokenAccountSnapshot (address expectedOwner expectedMint tokenProgramAddress : PublicKey)
    (selection : TokenAccountSelection) (allowMissing : Bool) (account : Option RpcAccountInfo) :
    Except String TokenAccountSnapshot :=
  match account with
  | none =>
    if allowMissing then .ok (.missing address tokenProgramAddress)
    else .error s!"Token account {address.toBase58} does not exist"
  | some account => do
    rejectWhen (account.owner ≠ tokenProgramAddress)
      (s!"Token account {address.toBase58} is owned by {account.owner.toBase58}, not " ++
        tokenProgramAddress.toBase58)
    let values ← decodeTokenAccount account.data
    assertTokenAccountBinding values expectedMint expectedOwner
      s!"token account {address.toBase58}"
    return ⟨address, tokenProgramAddress, selection, some values⟩

/-- A token account at its address. -/
def loadTokenAccountAtAddress (address expectedOwner expectedMint tokenProgramAddress : PublicKey)
    (selection : TokenAccountSelection) (allowMissing : Bool) : Reads TokenAccountSnapshot := do
  let account ← getAccountInfo address client.commitment
  tokenAccountSnapshot address expectedOwner expectedMint tokenProgramAddress selection
    allowMissing account

end

end Chancery
