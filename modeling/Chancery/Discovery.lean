import Chancery.CanonicalPda
import Chancery.Collation

/-!
# State discovery

Model of `typescript/src/client/ChanceryDiscovery.ts` and `python/chancery_reference/discovery.py`,
which differ in nothing but the order of texts: all accounts of the program are decoded, sorted,
grouped by type and linked to each other.

* `recognizeAccount`, `resolveRemoteNonce` — the two passes over the accounts.
* `groupAccountsByType`, `indexAccountsByBytes32`, `linkedPolicy` — grouping and linking.
* `discover` — the discovery from the accounts; `discoverChanceryState` — with the request.
-/

set_option autoImplicit false

namespace Chancery

/-- An address against the one its values derive. -/
structure ChanceryCanonicalPdaObservation where
  expectedAddress : PublicKey
  bump : Nat
  seeds : List String
  addressMatches : Bool
  storedBump : Option Int
  storedBumpMatches : Option Bool

/-- A listed account that decodes. -/
structure DiscoveredChanceryAccount where
  address : PublicKey
  name : String
  values : StructValues
  owner : PublicKey
  lamports : Nat
  dataLength : Nat
  canonicalPda : Option ChanceryCanonicalPdaObservation

/-- A listed account of no known type. -/
structure UnrecognizedChanceryAccount where
  address : PublicKey
  byteLength : Nat
  discriminatorHex : String

/-- What a known address is for. -/
inductive KnownPdaKind where
  | stateAccount
  | signerPda
  deriving DecidableEq

/-- A known address, present or not. -/
structure ChanceryKnownPdaInventory where
  name : String
  address : PublicKey
  kind : KnownPdaKind
  present : Bool
  accountName : Option String

/-- A pathway with the policies it links. -/
structure ChanceryPathwayInventory where
  address : PublicKey
  pathwayId : String
  pathwayKind : Int
  assetMint : PublicKey
  issuedTokenMint : PublicKey
  designatedExecutor : PublicKey
  statusFlags : Int
  feePolicy : Option DiscoveredChanceryAccount
  pathwayLimitPolicy : Option DiscoveredChanceryAccount
  assetMintLimitPolicy : Option DiscoveredChanceryAccount
  assetRedeemLimitPolicy : Option DiscoveredChanceryAccount
  counterpartyLimitPolicy : Option DiscoveredChanceryAccount
  executorLimitPolicy : Option DiscoveredChanceryAccount
  evidencePolicy : Option DiscoveredChanceryAccount
  reserveDestinations : List DiscoveredChanceryAccount

/-- An asset with its pathways and destinations. -/
structure ChanceryAssetInventory where
  assetConfig : DiscoveredChanceryAccount
  assetPauseState : Option DiscoveredChanceryAccount
  assetMint : PublicKey
  assetTokenProgram : PublicKey
  depositRateE9 : Int
  redeemRateE9 : Int
  pathways : List ChanceryPathwayInventory
  reserveDestinations : List DiscoveredChanceryAccount

/-- The accounts under their type's name. -/
abbrev AccountsByType := List (String × List DiscoveredChanceryAccount)

/-- How limits are scoped. -/
structure SettlementLimitModel where
  volumeScopes : List String
  globalSettlementVolumeAccumulatorExists : Bool
  globalPauseAccount : PublicKey

/-- What a discovery returns. -/
structure ChanceryStateDiscovery where
  programAddress : PublicKey
  commitment : RpcCommitment
  accountCount : Nat
  recognizedAccounts : List DiscoveredChanceryAccount
  accountsByType : AccountsByType
  unrecognizedAccounts : List UnrecognizedChanceryAccount
  knownPdas : List ChanceryKnownPdaInventory
  chanceryConfig : Option DiscoveredChanceryAccount
  issuedTokenControl : Option DiscoveredChanceryAccount
  assets : List ChanceryAssetInventory
  pathways : List ChanceryPathwayInventory
  settlementLimitModel : SettlementLimitModel

section

variable (client : ChanceryClient)

/-! ## Canonical addresses -/

/-- The loop of `deriveRemoteNonceCanonicalPda`: it stops at a candidate that is the address. -/
def remoteNonceCandidates (actualAddress : PublicKey) (remoteDomainId : Int) (scopeKey : Bytes) :
    List DiscoveredChanceryAccount → List NamedProgramAddress →
      Except String (Option NamedProgramAddress)
  | [], candidates => .ok (match candidates with
    | [candidate] => some candidate
    | _ => none)
  | policy :: policies, candidates => do
    let policyDomainId ← requireBigIntField client.language policy.values "remote_domain_id"
    if policyDomainId ≠ remoteDomainId then
      remoteNonceCandidates actualAddress remoteDomainId scopeKey policies candidates
    else do
      let remoteChainKind ← requireNumberField client.language policy.values "remote_chain_kind"
      let candidate ←
        Named.deriveRemoteNonceAddress client remoteChainKind remoteDomainId scopeKey
      if candidate.address = actualAddress then return some candidate
      else
        remoteNonceCandidates actualAddress remoteDomainId scopeKey policies
          (candidates ++ [candidate])

/-- The address of a remote nonce, by its domain's policy. -/
def deriveRemoteNonceCanonicalPda (actualAddress : PublicKey) (values : StructValues)
    (remoteDomainPolicies : List DiscoveredChanceryAccount) :
    Except String (Option NamedProgramAddress) := do
  let remoteDomainId ← requireBigIntField client.language values "remote_domain_id"
  let scopeKey ← requireBytes (values.lookup "scope_key") "remote nonce scope key" 32
  remoteNonceCandidates client actualAddress remoteDomainId scopeKey remoteDomainPolicies []

/-- The integer of the `bump` field, as the language holds one. -/
def storedBumpValue (L : Language) (values : StructValues) : Option Int :=
  match values.lookup "bump", L with
  | some (.number n), .typescript => some n
  | some (.bigint n), .python => some n
  | _, _ => none

/-- The observation of an account's address. -/
def observeCanonicalPda (actualAddress : PublicKey) (accountName : String) (values : StructValues)
    (remoteDomainPolicies : List DiscoveredChanceryAccount) :
    Except String (Option ChanceryCanonicalPdaObservation) := do
  let derived ← if accountName = "RemoteNonce" then
      deriveRemoteNonceCanonicalPda client actualAddress values remoteDomainPolicies
    else deriveCanonicalPda client accountName values
  let storedBump := storedBumpValue client.language values
  return derived.map fun derived => {
    expectedAddress := derived.address
    bump := derived.bump
    seeds := derived.seeds
    addressMatches := derived.address = actualAddress
    storedBump := storedBump
    storedBumpMatches := storedBump.map fun bump => decide (bump = derived.bump) }

/-! ## The two passes -/

/-- A listed account belongs to the program. -/
def validateProgramAccount (address : PublicKey) (account : RpcAccountInfo) :
    Except String Unit :=
  let programAddress := client.deployment.programAddress
  if account.owner ≠ programAddress then
    .error s!"Program account {address.toBase58} is owned by {account.owner.toBase58}; expected {programAddress.toBase58}"
  else if account.executable then
    .error s!"Program account {address.toBase58} must not be executable"
  else .ok ()

/-- The failure that leaves an account unrecognized. -/
def unknownDiscriminatorMessage : String := "Unknown Chancery account discriminator"

/-- An account of the program: a type of the schema, or none. -/
def recognizeAccount (programAccount : RpcAddressAccountInfo) :
    Except String (DiscoveredChanceryAccount ⊕ UnrecognizedChanceryAccount) := do
  let account := programAccount.account
  validateProgramAccount client programAccount.address account
  match decodeAccountWith client.language.dialect account.data with
  | .error message =>
    if message ≠ unknownDiscriminatorMessage then .error message
    else return .inr {
      address := programAccount.address
      byteLength := account.data.length
      discriminatorHex := "0x" ++ bytesToHex (account.data.take 8) }
  | .ok decoded => do
    let canonicalPda ←
      observeCanonicalPda client programAccount.address decoded.name decoded.values []
    return .inl {
      address := programAccount.address
      name := decoded.name
      values := decoded.values
      owner := account.owner
      lamports := account.lamports
      dataLength := account.data.length
      canonicalPda := canonicalPda }

/-- A nonce is looked at again when all the domain policies are known. -/
def resolveRemoteNonce (remoteDomainPolicies : List DiscoveredChanceryAccount)
    (account : DiscoveredChanceryAccount) : Except String DiscoveredChanceryAccount :=
  if account.name ≠ "RemoteNonce" then .ok account
  else do
    let canonicalPda ←
      observeCanonicalPda client account.address account.name account.values remoteDomainPolicies
    return { account with canonicalPda := canonicalPda }

end

/-! ## Grouping -/

/-- `grouped[account.name].push(account)`. -/
def pushEntry (grouped : AccountsByType) (account : DiscoveredChanceryAccount) : AccountsByType :=
  grouped.map fun entry =>
    if entry.1 = account.name then (entry.1, entry.2 ++ [account]) else entry

/-- Each account appended to its group. -/
def groupAccounts : AccountsByType → List DiscoveredChanceryAccount → Except String AccountsByType
  | grouped, [] => .ok grouped
  | grouped, account :: accounts =>
    if account.name ∈ grouped.map Prod.fst then groupAccounts (pushEntry grouped account) accounts
    else .error s!"Decoded unknown Chancery account type: {account.name}"

/-- The account types in the order of their code points. -/
def sortedAccountNames : List String :=
  StableSort.sortBy (compareTexts .python) (accountSchemas.map Prod.fst)

/-- The accounts by type, every type listed. -/
def groupAccountsByType (accounts : List DiscoveredChanceryAccount) : Except String AccountsByType :=
  groupAccounts (sortedAccountNames.map fun name => (name, [])) accounts

/-- The accounts of a type. -/
def ofType (grouped : AccountsByType) (name : String) : List DiscoveredChanceryAccount :=
  (grouped.lookup name).getD []

/-! ## Linking -/

/-- Policies by their identifier. -/
abbrev PolicyIndex := List (String × DiscoveredChanceryAccount)

/-- Each policy added under its identifier. -/
def extendIndex (fieldName : String) :
    PolicyIndex → List DiscoveredChanceryAccount → Except String PolicyIndex
  | index, [] => .ok index
  | index, account :: accounts => do
    let key ← bytes32Hex (account.values.lookup fieldName) s!"{account.name}.{fieldName}"
    if (index.lookup key).isSome then .error s!"Duplicate {account.name}.{fieldName}: {key}"
    else extendIndex fieldName (index ++ [(key, account)]) accounts

/-- The accounts by an identifier field. -/
def indexAccountsByBytes32 (accounts : List DiscoveredChanceryAccount) (fieldName : String) :
    Except String PolicyIndex :=
  extendIndex fieldName [] accounts

/-- The three indexes that pathways link into. -/
structure PolicyIndexes where
  fee : PolicyIndex
  limit : PolicyIndex
  evidence : PolicyIndex

/-- The indexes of the policies. -/
def buildPolicyIndexes (accountsByType : AccountsByType) : Except String PolicyIndexes := do
  let fee ← indexAccountsByBytes32 (ofType accountsByType "FeePolicy") "fee_policy_id"
  let limit ← indexAccountsByBytes32 (ofType accountsByType "LimitPolicy") "limit_policy_id"
  let evidence ← indexAccountsByBytes32 (ofType accountsByType "EvidencePolicy") "evidence_policy_id"
  return ⟨fee, limit, evidence⟩

/-- The policy that a link names; zero links none. -/
def linkedPolicy (index : PolicyIndex) (identifier : Option Value) (label : String) :
    Except String (Option DiscoveredChanceryAccount) := do
  let bytes ← requireBytes identifier label 32
  return if bytes.any (· != 0) then index.lookup ("0x" ++ bytesToHex bytes) else none

/-- The first account whose field is the key. -/
def findByPublicKeyField (fieldName : String) (key : PublicKey) :
    List DiscoveredChanceryAccount → Except String (Option DiscoveredChanceryAccount)
  | [] => .ok none
  | account :: accounts => do
    let other ← requirePublicKeyField account.values fieldName
    if other = key then return some account else findByPublicKeyField fieldName key accounts

/-- The accounts whose field is the key. -/
def filterByPublicKeyField (fieldName : String) (key : PublicKey) :
    List DiscoveredChanceryAccount → Except String (List DiscoveredChanceryAccount)
  | [] => .ok []
  | account :: accounts => do
    let other ← requirePublicKeyField account.values fieldName
    let rest ← filterByPublicKeyField fieldName key accounts
    return if other = key then account :: rest else rest

section

variable (client : ChanceryClient)

/-- A pathway with its links resolved. -/
def buildPathwayInventory (policyIndexes : PolicyIndexes)
    (reserveDestinations : List DiscoveredChanceryAccount) (pathway : DiscoveredChanceryAccount) :
    Except String ChanceryPathwayInventory := do
  let values := pathway.values
  let assetMint ← requirePublicKeyField values "asset_mint"
  let pathwayId ← bytes32Hex (values.lookup "pathway_id") "pathway id"
  let pathwayKind ← requireNumberField client.language values "pathway_kind"
  let issuedTokenMint ← requirePublicKeyField values "issued_token_mint"
  let designatedExecutor ← requirePublicKeyField values "designated_executor"
  let statusFlags ← requireBigIntField client.language values "status_flags"
  let feePolicy ← linkedPolicy policyIndexes.fee (values.lookup "fee_policy_id") "fee policy id"
  let pathwayLimitPolicy ←
    linkedPolicy policyIndexes.limit (values.lookup "limit_policy_id") "limit policy id"
  let assetMintLimitPolicy ← linkedPolicy policyIndexes.limit
    (values.lookup "asset_mint_limit_policy_id") "asset mint limit policy id"
  let assetRedeemLimitPolicy ← linkedPolicy policyIndexes.limit
    (values.lookup "asset_redeem_limit_policy_id") "asset redeem limit policy id"
  let counterpartyLimitPolicy ← linkedPolicy policyIndexes.limit
    (values.lookup "counterparty_limit_policy_id") "counterparty limit policy id"
  let executorLimitPolicy ← linkedPolicy policyIndexes.limit
    (values.lookup "executor_limit_policy_id") "executor limit policy id"
  let evidencePolicy ← linkedPolicy policyIndexes.evidence (values.lookup "evidence_policy_id")
    "evidence policy id"
  let reserveDestinations ← filterByPublicKeyField "asset_mint" assetMint reserveDestinations
  return {
    address := pathway.address
    pathwayId, pathwayKind, assetMint, issuedTokenMint, designatedExecutor, statusFlags
    feePolicy, pathwayLimitPolicy, assetMintLimitPolicy, assetRedeemLimitPolicy
    counterpartyLimitPolicy, executorLimitPolicy, evidencePolicy, reserveDestinations }

/-- An asset with what belongs to it. -/
def buildAssetInventory (assetPauseAccounts reserveDestinations : List DiscoveredChanceryAccount)
    (pathways : List ChanceryPathwayInventory) (assetAccount : DiscoveredChanceryAccount) :
    Except String ChanceryAssetInventory := do
  let values := assetAccount.values
  let assetMint ← requirePublicKeyField values "asset_mint"
  let assetPauseState ← findByPublicKeyField "asset_mint" assetMint assetPauseAccounts
  let assetTokenProgram ← requirePublicKeyField values "asset_token_program"
  let depositRateE9 ← requireBigIntField client.language values "deposit_rate_e9"
  let redeemRateE9 ← requireBigIntField client.language values "redeem_rate_e9"
  let reserveDestinations ← filterByPublicKeyField "asset_mint" assetMint reserveDestinations
  return {
    assetConfig := assetAccount
    assetPauseState, assetMint, assetTokenProgram, depositRateE9, redeemRateE9
    pathways := pathways.filter fun pathway => pathway.assetMint = assetMint
    reserveDestinations }

/-! ## Known addresses -/

/-- The kind of a known address. -/
def knownPdaKind (name : String) : KnownPdaKind :=
  if name = "event_authority" ∨ name = "reserve_authority_pda" ∨ name = "mint_authority_pda" then
    .signerPda
  else .stateAccount

/-- `byAddress.get(address)`: of two accounts with one address the later one was kept. -/
def accountAt (recognizedAccounts : List DiscoveredChanceryAccount) (address : PublicKey) :
    Option DiscoveredChanceryAccount :=
  recognizedAccounts.reverse.find? fun account => account.address = address

/-- A known address against the accounts. -/
def knownPdaInventory (recognizedAccounts : List DiscoveredChanceryAccount) (name : String)
    (address : PublicKey) (kind : KnownPdaKind) : ChanceryKnownPdaInventory :=
  let account := accountAt recognizedAccounts address
  { name, address, kind, present := account.isSome, accountName := account.map (·.name) }

/-- Every known address, sorted by name. -/
def buildKnownPdaInventory (recognizedAccounts : List DiscoveredChanceryAccount) :
    Except String (List ChanceryKnownPdaInventory) := do
  let names :=
    StableSort.sortBy (compareTexts .python) (client.deployment.knownPdas.map Prod.fst)
  let inventory ← names.mapM fun name => do
    let address ← knownPdaAddress client name
    return knownPdaInventory recognizedAccounts name address (knownPdaKind name)
  let mintAuthority ← Named.deriveSingletonAddress client "mint_authority_pda" "mint-authority"
  let inventory :=
    if inventory.any fun entry => entry.name = mintAuthority.name then inventory
    else inventory ++
      [knownPdaInventory recognizedAccounts mintAuthority.name mintAuthority.address .signerPda]
  return StableSort.sortBy (fun left right => compareTexts client.language left.name right.name)
    inventory

/-! ## The discovery -/

/-- Order by name, then by address. -/
def compareDiscoveredAccounts (L : Language) (left right : DiscoveredChanceryAccount) : Ordering :=
  (compareTexts L left.name right.name).then
    (compareTexts L left.address.toBase58 right.address.toBase58)

/-- The two passes, and the accounts in order. -/
def recognizedAndUnrecognized (programAccounts : List RpcAddressAccountInfo) :
    Except String (List DiscoveredChanceryAccount × List UnrecognizedChanceryAccount) := do
  let outcomes ← programAccounts.mapM (recognizeAccount client)
  let recognizedAccounts := outcomes.filterMap Sum.getLeft?
  let remoteDomainPolicies :=
    recognizedAccounts.filter fun account => account.name = "RemoteDomainPolicy"
  let recognizedAccounts ←
    recognizedAccounts.mapM (resolveRemoteNonce client remoteDomainPolicies)
  return (StableSort.sortBy (compareDiscoveredAccounts client.language) recognizedAccounts,
    StableSort.sortBy (fun left right =>
      compareTexts client.language left.address.toBase58 right.address.toBase58)
      (outcomes.filterMap Sum.getRight?))

/-- What follows from the sorted accounts. -/
def discoveryOf (accountCount : Nat) (recognizedAccounts : List DiscoveredChanceryAccount)
    (unrecognizedAccounts : List UnrecognizedChanceryAccount) :
    Except String ChanceryStateDiscovery := do
  let compareAddresses (left right : PublicKey) :=
    compareTexts client.language left.toBase58 right.toBase58
  let accountsByType ← groupAccountsByType recognizedAccounts
  let policyIndexes ← buildPolicyIndexes accountsByType
  let reserveDestinations := ofType accountsByType "ReserveDestination"
  let pathways ← (ofType accountsByType "PathwayPolicy").mapM
    (buildPathwayInventory client policyIndexes reserveDestinations)
  let pathways :=
    StableSort.sortBy (fun left right => compareAddresses left.address right.address) pathways
  let assets ← (ofType accountsByType "AssetConfig").mapM
    (buildAssetInventory client (ofType accountsByType "AssetPauseState") reserveDestinations
      pathways)
  let assets :=
    StableSort.sortBy (fun left right => compareAddresses left.assetMint right.assetMint) assets
  let knownPdas ← buildKnownPdaInventory client recognizedAccounts
  let globalPauseAccount ← knownPdaAddress client "pause_state"
  return {
    programAddress := client.deployment.programAddress
    commitment := client.commitment
    accountCount, recognizedAccounts, accountsByType, unrecognizedAccounts, knownPdas
    chanceryConfig := (ofType accountsByType "ChanceryConfig").head?
    issuedTokenControl := (ofType accountsByType "IssuedTokenControl").head?
    assets, pathways
    settlementLimitModel := {
      volumeScopes := ["pathway", "asset", "counterparty", "executor"]
      globalSettlementVolumeAccumulatorExists := false
      globalPauseAccount } }

/-- A discovery over a listing. -/
def discover (programAccounts : List RpcAddressAccountInfo) :
    Except String ChanceryStateDiscovery := do
  let (recognizedAccounts, unrecognizedAccounts) ← recognizedAndUnrecognized client programAccounts
  discoveryOf client programAccounts.length recognizedAccounts unrecognizedAccounts

/-- A discovery: the listing, then everything else from it. -/
def discoverChanceryState : Reads ChanceryStateDiscovery := do
  let programAccounts ← getProgramAccounts client.deployment.programAddress [] client.commitment
  discover client programAccounts

end

end Chancery
