import Chancery.Inspection
import Chancery.Target

/-!
# A chain behind the RPC endpoint

An endpoint whose node answers every request from one fixed state.

* `Chain.answer` — the answers; `RpcProgramAccountFilter.accepts` is the filter of a listing.
* `Chain.run_inspect` — an inspection against such a node.
* `stateAccount`, `tokenAccount`, `tokenMint` — accounts as a chain holds them.
* `Sample` — a small market on mainnet.
-/

set_option autoImplicit false

namespace Chancery

/-- The accounts of a chain at one slot. -/
structure Chain where
  slot : Nat
  accounts : List (PublicKey × RpcAccountInfo)

/-- Whether account data passes a filter. -/
def RpcProgramAccountFilter.accepts (data : Bytes) : RpcProgramAccountFilter → Bool
  | .dataSize size => data.length == size
  | .memcmp offset bytes => (data.drop offset).take bytes.length == bytes

namespace Chain

variable (chain : Chain)

/-- The account at an address. -/
def accountInfo (address : PublicKey) : Option RpcAccountInfo := chain.accounts.lookup address

/-- The accounts that satisfy a condition, as a listing returns them. -/
def accountsWhere (condition : RpcAccountInfo → Bool) : List RpcAddressAccountInfo :=
  (chain.accounts.filter fun entry => condition entry.2).map fun entry => ⟨entry.1, entry.2⟩

/-- Is it a token account of the owner for the mint? -/
def isTokenAccountOf (owner mint : PublicKey) (account : RpcAccountInfo) : Bool :=
  isSupportedTokenProgram account.owner && tokenAccountBaseSize ≤ account.data.length
    && account.data.take 64 == mint.bytes ++ owner.bytes

/-- What a node that holds the chain answers. -/
def answer : (request : RpcRequest) → request.Answer
  | .getSlot _ => .ok chain.slot
  | .getAccountInfo address _ => .ok (chain.accountInfo address)
  | .bothAccountInfos left right _ => (.ok (chain.accountInfo left), .ok (chain.accountInfo right))
  | .getProgramAccounts programAddress filters _ =>
    .ok (chain.accountsWhere fun account =>
      account.owner = programAddress && filters.all (·.accepts account.data))
  | .getTokenAccountsByOwner owner mint _ => .ok (chain.accountsWhere (isTokenAccountOf owner mint))

/-- The node behind a session. -/
def respond : (op : SessionOp) → op.Answer
  | .send request => chain.answer request
  | .setMinimumContextSlot _ => ()

theorem run_toSession {α : Type} (reads : Reads α) :
    reads.toSession.run chain.respond = reads.run chain.answer :=
  Interaction.run_embed chain.respond reads

section

variable {client : ChanceryClient} {requestInput : SettlementOperationRequest} {clock : RpcClock}

/-- An inspection on a chain that stands still. -/
theorem run_inspect (h : (getClock client.commitment).run chain.answer = .ok clock) :
    (inspect client requestInput).run chain.respond =
      (inspectAt client requestInput clock).run chain.answer := by
  have hlift : ∀ {α : Type} (reads : Reads α),
      (liftM reads : Session α).run chain.respond = reads.run chain.answer := chain.run_toSession
  simp only [inspect, Interaction.run_bind, hlift, h]
  rfl

theorem run_inspectAt {resolution : SettlementResolution}
    (h : (resolveAt client requestInput clock).run chain.answer = .ok resolution) :
    (inspectAt client requestInput clock).run chain.answer = assembleInspection resolution := by
  rw [inspectAt, Interaction.run_bind, h]
  rfl

end

end Chain

/-! ## Accounts -/

/-- An account of the given owner and data. -/
def accountHolding (owner : PublicKey) (data : Bytes) : RpcAccountInfo where
  data := data
  executable := false
  lamports := 1
  owner := owner
  rentEpoch := 0
  space := data.length

/-- The clock sysvar. -/
def clockAccount (slot epoch unixTimestamp : Nat) : RpcAccountInfo :=
  accountHolding zeroAddress (LittleEndian.toBytes 8 slot ++ LittleEndian.toBytes 8 0 ++
    LittleEndian.toBytes 8 epoch ++ LittleEndian.toBytes 8 0 ++
    LittleEndian.toBytes 8 unixTimestamp)

/-- An account of the program; the fields that are not given are zero. -/
def stateAccount (deployment : Deployment) (accountName : String) (given : StructValues) :
    RpcAccountInfo :=
  let fields := ((accountSchemas.lookup accountName).map (·.fields)).getD []
  let values := fields.map fun (name, type) =>
    (name, (given.lookup name).getD (zeroValueForType type))
  accountHolding deployment.programAddress
    ((encodeChanceryAccount accountName values).toOption.getD [])

/-- An initialized token account. -/
def tokenAccount (tokenProgram mint owner : PublicKey) (amount : Nat) : RpcAccountInfo :=
  accountHolding tokenProgram (mint.bytes ++ owner.bytes ++ LittleEndian.toBytes 8 amount ++
    List.replicate 36 0 ++ [1] ++ List.replicate 56 0)

/-- An initialized token mint. -/
def tokenMint (tokenProgram : PublicKey) (decimals : UInt8) : RpcAccountInfo :=
  accountHolding tokenProgram (List.replicate 44 0 ++ [decimals, 1] ++ List.replicate 36 0)

/-! ## A small market

Accounts of one asset on mainnet, at their derived addresses. -/

namespace Sample

/-- The address that ends in one byte. -/
def key (n : UInt8) : PublicKey where
  bytes := List.replicate 31 0 ++ [n]
  length_eq := by simp

/-- The asset of the sample market. -/
def assetMint : PublicKey := key 4
def issuedTokenMint : PublicKey := key 100
def principal : PublicKey := key 2
def executor : PublicKey := key 3
def sourceTokenAccount : PublicKey := key 101
def destinationTokenAccount : PublicKey := key 102
def pathwayId : Bytes := (key 3).bytes
def intentId : Bytes := (key 1).bytes

def address (bytes : Bytes) (h : bytes.length = 32 := by rfl) : PublicKey := ⟨bytes, h⟩

/-- The asset's configuration account. -/
def assetConfig : PublicKey := address
  [18, 147, 52, 255, 134, 16, 247, 181, 45, 227, 58, 198, 55, 118, 64, 47, 114, 255, 157, 235,
   64, 46, 2, 238, 157, 156, 4, 112, 210, 19, 252, 129]

def mintAuthority : PublicKey := address
  [156, 14, 25, 56, 201, 211, 188, 23, 148, 16, 151, 21, 40, 30, 229, 93, 209, 208, 244, 86,
   165, 226, 57, 23, 42, 190, 45, 133, 153, 90, 106, 23]

def reserveTokenAccount : PublicKey := address
  [241, 68, 60, 110, 118, 194, 27, 183, 179, 34, 43, 67, 3, 4, 137, 80, 53, 216, 84, 212, 231,
   101, 227, 112, 143, 119, 242, 82, 163, 120, 252, 124]

def pathwayPolicy : PublicKey := address
  [54, 114, 116, 45, 63, 163, 241, 195, 116, 64, 129, 48, 141, 59, 80, 54, 45, 105, 149, 109,
   226, 46, 231, 100, 52, 45, 137, 113, 177, 63, 142, 140]

def principalPermission : PublicKey := address
  [240, 156, 144, 29, 31, 243, 145, 127, 19, 240, 88, 188, 15, 154, 216, 106, 147, 91, 155, 102,
   234, 162, 151, 171, 63, 209, 110, 171, 169, 243, 21, 152]

def executorPermission : PublicKey := address
  [16, 96, 127, 116, 67, 127, 225, 132, 173, 84, 171, 149, 197, 67, 201, 22, 253, 130, 181, 161,
   220, 22, 243, 55, 23, 251, 149, 37, 201, 240, 140, 255]

def settlementIntent : PublicKey := address
  [253, 51, 194, 28, 117, 220, 204, 81, 151, 62, 141, 105, 111, 134, 225, 3, 96, 89, 57, 236, 37,
   86, 50, 55, 25, 135, 215, 103, 182, 204, 20, 137]

/-- A client of the main deployment. -/
def client (L : Language) : ChanceryClient := ⟨L, platformSha256, mainnetDeployment, .confirmed⟩

def keyValue (k : PublicKey) : Value := .bytes k.bytes

/-- An account of the deployed program. -/
def state (accountName : String) (given : StructValues) : RpcAccountInfo :=
  stateAccount mainnetDeployment accountName given

/-- The accounts that every settlement of the market reads. -/
def coreEntries (slot rateE9 : Nat) : List (PublicKey × RpcAccountInfo) :=
  [(clockSysvarAddress, clockAccount slot 5 1000),
   (mainnetModuleActivationState, state "ModuleActivationState"
     [("module_statuses", .bytes ([0, 0, 0, 0, 2] ++ List.replicate 27 0))]),
   (mainnetChanceryConfig, state "ChanceryConfig"
     [("issued_token_mint", keyValue issuedTokenMint),
      ("issued_token_program", keyValue splTokenProgramAddress),
      ("mint_authority_pda", keyValue mintAuthority)]),
   (mainnetPauseState, state "PauseState" []),
   (mainnetIssuedTokenControl, state "IssuedTokenControl"
     [("issued_token_mint", keyValue issuedTokenMint),
      ("issued_token_program", keyValue splTokenProgramAddress),
      ("control_flags", .bigint (2 ^ 63))]),
   (assetConfig, state "AssetConfig"
     [("asset_mint", keyValue assetMint), ("asset_token_program", keyValue splTokenProgramAddress),
      ("deposit_rate_e9", .bigint rateE9), ("redeem_rate_e9", .bigint rateE9)]),
   (assetMint, tokenMint splTokenProgramAddress 6),
   (issuedTokenMint, tokenMint splTokenProgramAddress 6)]

/-- An active permission record. -/
def permission (subject : PublicKey) (roleBits : Nat) : RpcAccountInfo :=
  state "PermissionRecord" [("subject", keyValue subject), ("scope_kind", .number 2),
    ("scope_key", keyValue pathwayPolicy), ("role_bits", .array [.bigint roleBits, .bigint 0]),
    ("role_schema_version", .number 1)]

/-- An active pathway of the mode. -/
def pathway (mode : SettlementMode) : RpcAccountInfo :=
  state "PathwayPolicy" [("pathway_kind", .number (pathwayKindValue mode)),
    ("pathway_id", .bytes pathwayId), ("asset_mint", keyValue assetMint),
    ("issued_token_mint", keyValue issuedTokenMint), ("status_flags", .bigint 1)]

/-- The accounts that a direct settlement reads besides. -/
def directEntries : List (PublicKey × RpcAccountInfo) :=
  [(pathwayPolicy, pathway .direct), (principalPermission, permission principal 3)]

/-- A delegated pathway with an intent to mint five units for at least a minimum. -/
def delegatedEntries (minimum : Nat) : List (PublicKey × RpcAccountInfo) :=
  [(pathwayPolicy, pathway .delegated), (principalPermission, permission principal 4),
   (executorPermission, permission executor 16),
   (settlementIntent, state "SettlementIntent"
     [("settlement_mode", .number 1), ("settlement_action", .number 0),
      ("intent_id", .bytes intentId), ("principal_a", keyValue principal),
      ("principal_b", keyValue principal), ("executor", keyValue executor),
      ("asset_mint", keyValue assetMint), ("issued_token_mint", keyValue issuedTokenMint),
      ("asset_amount", .bigint 5), ("minimum_issued_token_amount", .bigint minimum),
      ("pathway_id", .bytes pathwayId), ("rent_refund_recipient", keyValue principal)])]

/-- The token accounts of the principal and the reserve. -/
def tokenEntries (sourceAmount : Nat) : List (PublicKey × RpcAccountInfo) :=
  [(sourceTokenAccount, tokenAccount splTokenProgramAddress assetMint principal sourceAmount),
   (destinationTokenAccount, tokenAccount splTokenProgramAddress issuedTokenMint principal 0),
   (reserveTokenAccount,
     tokenAccount splTokenProgramAddress assetMint mainnetReserveAuthority 0)]

/-- The asset at one rate, with a direct pathway and an amount in the principal's account. -/
def directMarket (slot rateE9 sourceAmount : Nat) : Chain :=
  ⟨slot, coreEntries slot rateE9 ++ directEntries ++ tokenEntries sourceAmount⟩

/-- The market with a delegated pathway and an intent. -/
def delegatedMarket (slot rateE9 minimum : Nat) : Chain :=
  ⟨slot, coreEntries slot rateE9 ++ delegatedEntries minimum ++ tokenEntries 5⟩

/-- A request for a direct mint. -/
def directMint (amount : Int) : SettlementOperationRequest where
  action := .mint
  mode := .direct
  assetMint := assetMint.toBase58
  principal := principal.toBase58
  amount := some amount
  sourceTokenAccount := some sourceTokenAccount.toBase58
  destinationTokenAccount := some destinationTokenAccount.toBase58

/-- A request for a delegated mint. -/
def delegatedMint (minimumOutput : Option Int) : SettlementOperationRequest where
  action := .mint
  mode := .delegated
  assetMint := assetMint.toBase58
  principal := principal.toBase58
  minimumOutput := minimumOutput
  intentId := some (.bytes intentId)
  sourceTokenAccount := some sourceTokenAccount.toBase58
  destinationTokenAccount := some destinationTokenAccount.toBase58

end Sample

end Chancery
