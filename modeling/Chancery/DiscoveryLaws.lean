import Chancery.Discovery

/-!
# What a discovery lists

* `recognizeAccount_ok`, `resolveRemoteNonce_ok` — the two passes keep what an account is.
* `groupAccountsByType_ok`, `indexAccountsByBytes32_ok`, `linkedPolicy_ok` — the groups are the
  accounts of each type, and a link goes to the one account with the identifier.
* `DiscoveryComplete` — every account is listed once, by type, and every pathway and asset once.
* `discover_complete` — a discovery is complete.
-/

set_option autoImplicit false

namespace Chancery

variable {client : ChanceryClient}

/-! ## The two passes -/

/-- What the first pass made of an account. -/
def RecognizedAs (client : ChanceryClient) (programAccount : RpcAddressAccountInfo) :
    DiscoveredChanceryAccount ⊕ UnrecognizedChanceryAccount → Prop
  | .inl account => account.address = programAccount.address ∧
      account.owner = programAccount.account.owner ∧
      account.lamports = programAccount.account.lamports ∧
      account.dataLength = programAccount.account.data.length ∧
      decodeAccountWith client.language.dialect programAccount.account.data =
        .ok ⟨account.name, account.values⟩
  | .inr account => account.address = programAccount.address ∧
      account.byteLength = programAccount.account.data.length ∧
      decodeAccountWith client.language.dialect programAccount.account.data =
        .error unknownDiscriminatorMessage

theorem recognizeAccount_ok {programAccount : RpcAddressAccountInfo}
    {outcome : DiscoveredChanceryAccount ⊕ UnrecognizedChanceryAccount}
    (h : recognizeAccount client programAccount = .ok outcome) :
    RecognizedAs client programAccount outcome := by
  obtain ⟨_, _, h⟩ := Except.bind_eq_ok.1 h
  split at h
  · rename_i message hdecode
    split at h
    · cases h
    · rename_i hmessage
      cases h
      exact ⟨rfl, rfl, by rw [hdecode, not_not.1 hmessage]⟩
  · rename_i decoded hdecode
    obtain ⟨canonicalPda, _, hret⟩ := Except.bind_eq_ok.1 h
    cases hret
    exact ⟨rfl, rfl, rfl, rfl, hdecode⟩

/-- The second pass only looks at the canonical address again. -/
theorem resolveRemoteNonce_ok {policies : List DiscoveredChanceryAccount}
    {account resolved : DiscoveredChanceryAccount}
    (h : resolveRemoteNonce client policies account = .ok resolved) :
    ∃ canonicalPda, resolved = { account with canonicalPda := canonicalPda } := by
  unfold resolveRemoteNonce at h
  split at h
  · cases h
    exact ⟨account.canonicalPda, rfl⟩
  · obtain ⟨canonicalPda, _, hret⟩ := Except.bind_eq_ok.1 h
    cases hret
    exact ⟨canonicalPda, rfl⟩

/-- The address of what the first pass made of an account. -/
def outcomeAddress : DiscoveredChanceryAccount ⊕ UnrecognizedChanceryAccount → PublicKey
  | .inl account => account.address
  | .inr account => account.address

theorem outcomeAddresses {programAccounts : List RpcAddressAccountInfo}
    {outcomes : List (DiscoveredChanceryAccount ⊕ UnrecognizedChanceryAccount)}
    (h : List.Forall₂ (RecognizedAs client) programAccounts outcomes) :
    outcomes.map outcomeAddress = programAccounts.map (·.address) := by
  induction h with
  | nil => rfl
  | @cons programAccount outcome _ _ hhead _ ih =>
    have hsame : outcomeAddress outcome = programAccount.address := by
      cases outcome <;> exact hhead.1
    rw [List.map_cons, List.map_cons, ih, hsame]

/-- The recognized and the unrecognized accounts are all of them. -/
theorem outcomes_perm : ∀ outcomes : List (DiscoveredChanceryAccount ⊕ UnrecognizedChanceryAccount),
    ((outcomes.filterMap Sum.getLeft?).map (·.address) ++
      (outcomes.filterMap Sum.getRight?).map (·.address)).Perm (outcomes.map outcomeAddress)
  | [] => .nil
  | .inl account :: outcomes => (outcomes_perm outcomes).cons account.address
  | .inr account :: outcomes =>
    List.perm_middle.trans ((outcomes_perm outcomes).cons account.address)

theorem resolved_addresses {policies recognized resolved : List DiscoveredChanceryAccount}
    (h : recognized.mapM (resolveRemoteNonce client policies) = .ok resolved) :
    resolved.map (·.address) = recognized.map (·.address) := by
  have hall := Except.mapM_eq_ok.1 h
  clear h
  induction hall with
  | nil => rfl
  | cons hhead _ ih =>
    obtain ⟨canonicalPda, rfl⟩ := resolveRemoteNonce_ok hhead
    rw [List.map_cons, List.map_cons, ih]

/-- The accounts behind the sorted lists. -/
theorem recognizedAndUnrecognized_ok {programAccounts : List RpcAddressAccountInfo}
    {recognized : List DiscoveredChanceryAccount} {unrecognized : List UnrecognizedChanceryAccount}
    (h : recognizedAndUnrecognized client programAccounts = .ok (recognized, unrecognized)) :
    ∃ outcomes resolved, List.Forall₂ (RecognizedAs client) programAccounts outcomes ∧
      (outcomes.filterMap Sum.getLeft?).mapM (resolveRemoteNonce client
        ((outcomes.filterMap Sum.getLeft?).filter (·.name = "RemoteDomainPolicy"))) = .ok resolved ∧
      recognized = StableSort.sortBy (compareDiscoveredAccounts client.language) resolved ∧
      unrecognized = StableSort.sortBy (fun left right =>
        compareTexts client.language left.address.toBase58 right.address.toBase58)
        (outcomes.filterMap Sum.getRight?) := by
  obtain ⟨outcomes, houtcomes, h⟩ := Except.bind_eq_ok.1 h
  obtain ⟨resolved, hresolved, hret⟩ := Except.bind_eq_ok.1 h
  cases hret
  exact ⟨outcomes, resolved, (Except.mapM_eq_ok.1 houtcomes).imp fun _ _ => recognizeAccount_ok,
    hresolved, rfl, rfl⟩

/-! ## Groups -/

theorem pushEntry_names (grouped : AccountsByType) (account : DiscoveredChanceryAccount) :
    (pushEntry grouped account).map Prod.fst = grouped.map Prod.fst := by
  rw [pushEntry, List.map_map]
  refine List.map_congr_left fun entry _ => ?_
  dsimp only [Function.comp_apply]
  split <;> rfl

theorem groupAccounts_ok : ∀ {accounts : List DiscoveredChanceryAccount}
    {grouped result : AccountsByType}, groupAccounts grouped accounts = .ok result →
      result = grouped.map (fun entry =>
        (entry.1, entry.2 ++ accounts.filter (·.name = entry.1))) ∧
      ∀ account ∈ accounts, account.name ∈ grouped.map Prod.fst
  | [], grouped, result, h => by
    cases h
    refine ⟨?_, fun _ h => absurd h List.not_mem_nil⟩
    simp
  | account :: accounts, grouped, result, h => by
    rw [groupAccounts] at h
    split at h
    · rename_i hname
      have hnames := pushEntry_names grouped account
      obtain ⟨rfl, hall⟩ := groupAccounts_ok h
      refine ⟨?_, List.forall_mem_cons.2 ⟨hname, fun other hother => hnames ▸ hall other hother⟩⟩
      rw [pushEntry, List.map_map]
      refine List.map_congr_left fun entry _ => ?_
      dsimp only [Function.comp_apply]
      by_cases hentry : entry.1 = account.name
      · rw [if_pos hentry, List.filter_cons_of_pos (by simp [hentry]), List.append_assoc]
        rfl
      · rw [if_neg hentry, List.filter_cons_of_neg (by simpa using fun h => hentry h.symm)]
    · cases h

theorem groupAccountsByType_ok {accounts : List DiscoveredChanceryAccount}
    {result : AccountsByType} (h : groupAccountsByType accounts = .ok result) :
    result = sortedAccountNames.map (fun name => (name, accounts.filter (·.name = name))) ∧
      ∀ account ∈ accounts, account.name ∈ sortedAccountNames := by
  obtain ⟨rfl, hall⟩ := groupAccounts_ok h
  rw [List.map_map] at hall
  refine ⟨?_, fun account haccount => ?_⟩
  · rw [List.map_map]
    rfl
  · simpa using hall account haccount

theorem lookup_graph {α : Type} (f : String → α) : ∀ {names : List String} {name : String},
    name ∈ names → (names.map fun name => (name, f name)).lookup name = some (f name)
  | other :: names, name, h => by
    by_cases hname : name = other
    · subst hname
      simp
    · have hne : (name == other) = false := by simpa using hname
      rw [List.map_cons, List.lookup_cons, hne]
      exact lookup_graph f ((List.mem_cons.1 h).resolve_left hname)

theorem mem_sortedAccountNames {name : String} :
    name ∈ sortedAccountNames ↔ name ∈ accountSchemas.map Prod.fst :=
  StableSort.mem_sortBy

/-- A group is the accounts of its type. -/
theorem ofType_eq {accounts : List DiscoveredChanceryAccount} {grouped : AccountsByType}
    (h : groupAccountsByType accounts = .ok grouped) {name : String}
    (hname : name ∈ accountSchemas.map Prod.fst) :
    ofType grouped name = accounts.filter (·.name = name) := by
  rw [(groupAccountsByType_ok h).1, ofType,
    lookup_graph (fun name => accounts.filter (·.name = name)) (mem_sortedAccountNames.2 hname)]
  rfl

/-! ## Links -/

theorem extendIndex_ok {fieldName : String} : ∀ {accounts : List DiscoveredChanceryAccount}
    {index result : PolicyIndex}, extendIndex fieldName index accounts = .ok result →
      (index.map Prod.fst).Nodup → (result.map Prod.fst).Nodup ∧
        ∃ entries, result = index ++ entries ∧ List.Forall₂ (fun account entry =>
          entry.2 = account ∧ bytes32Hex (account.values.lookup fieldName)
            s!"{account.name}.{fieldName}" = .ok entry.1) accounts entries
  | [], index, result, h, hnodup => by
    cases h
    exact ⟨hnodup, [], (List.append_nil _).symm, .nil⟩
  | account :: accounts, index, result, h, hnodup => by
    obtain ⟨key, hkey, h⟩ := Except.bind_eq_ok.1 h
    split at h
    · cases h
    · rename_i hfresh
      have hnew : key ∉ index.map Prod.fst := by
        intro hmem
        obtain ⟨entry, hentry, rfl⟩ := List.mem_map.1 hmem
        rw [Table.lookup_of_mem hnodup hentry] at hfresh
        exact hfresh rfl
      have hextended : ((index ++ [(key, account)]).map Prod.fst).Nodup := by
        rw [List.map_append, List.nodup_append_comm]
        exact List.nodup_cons.2 ⟨hnew, hnodup⟩
      obtain ⟨hresult, entries, rfl, hall⟩ := extendIndex_ok h hextended
      refine ⟨hresult, (key, account) :: entries, ?_, hall.cons ⟨rfl, hkey⟩⟩
      rw [List.append_assoc]
      rfl

theorem requireBytes_eq_ok {value : Option Value} {label : String} {length : Nat} {bytes : Bytes} :
    requireBytes value label length = .ok bytes ↔
      value = some (.bytes bytes) ∧ bytes.length = length := by
  unfold requireBytes
  split
  · split
    · rename_i hlength
      simp only [reduceCtorEq, Option.some.injEq, Value.bytes.injEq, false_iff, not_and]
      rintro rfl
      exact hlength
    · rename_i hlength
      simp only [Except.ok.injEq, Option.some.injEq, Value.bytes.injEq]
      constructor
      · rintro rfl
        exact ⟨rfl, not_not.1 hlength⟩
      · exact fun h => h.1
  · rename_i hother
    simp only [reduceCtorEq, false_iff, not_and]
    exact fun h => absurd h (hother bytes)

/-- An index holds each account under the text of its identifier, and no text twice. -/
theorem lookup_index {fieldName : String} {accounts : List DiscoveredChanceryAccount}
    {index : PolicyIndex} (h : indexAccountsByBytes32 accounts fieldName = .ok index)
    {identifier : Bytes} {policy : DiscoveredChanceryAccount} (hlength : identifier.length = 32) :
    index.lookup ("0x" ++ bytesToHex identifier) = some policy ↔
      policy ∈ accounts ∧ policy.values.lookup fieldName = some (.bytes identifier) := by
  obtain ⟨hnodup, entries, rfl, hall⟩ := extendIndex_ok h List.nodup_nil
  constructor
  · intro hlookup
    obtain ⟨account, haccount, hsame, hkey⟩ :=
      forall₂_exists_left hall _ (Table.mem_of_lookup hlookup)
    subst hsame
    obtain ⟨bytes, hbytes, hret⟩ := Except.bind_eq_ok.1 hkey
    have htext : "0x" ++ bytesToHex bytes = "0x" ++ bytesToHex identifier := Except.ok.inj hret
    have heq : bytes = identifier := bytesToHex_injective (String.append_right_inj _ |>.1 htext)
    exact ⟨haccount, heq ▸ (requireBytes_eq_ok.1 hbytes).1⟩
  · rintro ⟨hmem, hfield⟩
    obtain ⟨entry, hentry, hsame, hkey⟩ := forall₂_exists_left hall.flip _ hmem
    rw [bytes32Hex, Except.bind_of_ok (requireBytes_eq_ok.2 ⟨hfield, hlength⟩)] at hkey
    have htext : "0x" ++ bytesToHex identifier = entry.1 := Except.ok.inj hkey
    rw [htext, ← hsame]
    exact Table.lookup_of_mem hnodup hentry

/-- **A link goes to the one account of the type whose identifier is the nonzero one.** -/
def LinkExact (recognized : List DiscoveredChanceryAccount) (accountName fieldName : String)
    (identifier : Option Value) (linked : Option DiscoveredChanceryAccount) : Prop :=
  ∀ policy, linked = some policy ↔ policy ∈ recognized ∧ policy.name = accountName ∧
    ∃ bytes, identifier = some (.bytes bytes) ∧ bytes.any (· != 0) = true ∧
      policy.values.lookup fieldName = some (.bytes bytes)

theorem linkedPolicy_ok {recognized : List DiscoveredChanceryAccount} {grouped : AccountsByType}
    (hgrouped : groupAccountsByType recognized = .ok grouped) {accountName fieldName : String}
    (hname : accountName ∈ accountSchemas.map Prod.fst) {index : PolicyIndex}
    (hindex : indexAccountsByBytes32 (ofType grouped accountName) fieldName = .ok index)
    {identifier : Option Value} {label : String} {linked : Option DiscoveredChanceryAccount}
    (h : linkedPolicy index identifier label = .ok linked) :
    LinkExact recognized accountName fieldName identifier linked := by
  obtain ⟨bytes, hbytes, hret⟩ := Except.bind_eq_ok.1 h
  obtain ⟨rfl, hlength⟩ := requireBytes_eq_ok.1 hbytes
  rw [ofType_eq hgrouped hname] at hindex
  have hlinked : (if bytes.any (· != 0) then index.lookup ("0x" ++ bytesToHex bytes) else none) =
    linked := Except.ok.inj hret
  intro policy
  rw [← hlinked]
  by_cases hzero : bytes.any (· != 0) = true
  · rw [if_pos hzero, lookup_index hindex hlength, List.mem_filter, decide_eq_true_eq, and_assoc]
    refine and_congr_right fun _ => and_congr_right fun _ => ?_
    constructor
    · exact fun hfield => ⟨bytes, rfl, hzero, hfield⟩
    · rintro ⟨_, hsame, _, hfield⟩
      cases hsame
      exact hfield
  · rw [if_neg hzero]
    constructor
    · intro hnone
      cases hnone
    · rintro ⟨_, _, _, hsame, hnonzero, _⟩
      cases hsame
      exact absurd hnonzero hzero

/-! ## Inventories -/

/-- The inventory of a pathway has its address, and every link is exact. -/
structure PathwayExact (recognized : List DiscoveredChanceryAccount)
    (account : DiscoveredChanceryAccount) (pathway : ChanceryPathwayInventory) : Prop where
  address : pathway.address = account.address
  feePolicy : LinkExact recognized "FeePolicy" "fee_policy_id"
    (account.values.lookup "fee_policy_id") pathway.feePolicy
  pathwayLimitPolicy : LinkExact recognized "LimitPolicy" "limit_policy_id"
    (account.values.lookup "limit_policy_id") pathway.pathwayLimitPolicy
  assetMintLimitPolicy : LinkExact recognized "LimitPolicy" "limit_policy_id"
    (account.values.lookup "asset_mint_limit_policy_id") pathway.assetMintLimitPolicy
  assetRedeemLimitPolicy : LinkExact recognized "LimitPolicy" "limit_policy_id"
    (account.values.lookup "asset_redeem_limit_policy_id") pathway.assetRedeemLimitPolicy
  counterpartyLimitPolicy : LinkExact recognized "LimitPolicy" "limit_policy_id"
    (account.values.lookup "counterparty_limit_policy_id") pathway.counterpartyLimitPolicy
  executorLimitPolicy : LinkExact recognized "LimitPolicy" "limit_policy_id"
    (account.values.lookup "executor_limit_policy_id") pathway.executorLimitPolicy
  evidencePolicy : LinkExact recognized "EvidencePolicy" "evidence_policy_id"
    (account.values.lookup "evidence_policy_id") pathway.evidencePolicy

theorem buildPathwayInventory_ok {recognized : List DiscoveredChanceryAccount}
    {grouped : AccountsByType} (hgrouped : groupAccountsByType recognized = .ok grouped)
    {indexes : PolicyIndexes} (hindexes : buildPolicyIndexes grouped = .ok indexes)
    {reserveDestinations : List DiscoveredChanceryAccount} {account : DiscoveredChanceryAccount}
    {pathway : ChanceryPathwayInventory}
    (h : buildPathwayInventory client indexes reserveDestinations account = .ok pathway) :
    PathwayExact recognized account pathway := by
  obtain ⟨fee, hfee, hindexes⟩ := Except.bind_eq_ok.1 hindexes
  obtain ⟨limit, hlimit, hindexes⟩ := Except.bind_eq_ok.1 hindexes
  obtain ⟨evidence, hevidence, hret⟩ := Except.bind_eq_ok.1 hindexes
  cases hret
  obtain ⟨assetMint, _, h⟩ := Except.bind_eq_ok.1 h
  obtain ⟨pathwayId, _, h⟩ := Except.bind_eq_ok.1 h
  obtain ⟨pathwayKind, _, h⟩ := Except.bind_eq_ok.1 h
  obtain ⟨issuedTokenMint, _, h⟩ := Except.bind_eq_ok.1 h
  obtain ⟨designatedExecutor, _, h⟩ := Except.bind_eq_ok.1 h
  obtain ⟨statusFlags, _, h⟩ := Except.bind_eq_ok.1 h
  obtain ⟨feePolicy, hfeePolicy, h⟩ := Except.bind_eq_ok.1 h
  obtain ⟨pathwayLimit, hpathwayLimit, h⟩ := Except.bind_eq_ok.1 h
  obtain ⟨mintLimit, hmintLimit, h⟩ := Except.bind_eq_ok.1 h
  obtain ⟨redeemLimit, hredeemLimit, h⟩ := Except.bind_eq_ok.1 h
  obtain ⟨counterparty, hcounterparty, h⟩ := Except.bind_eq_ok.1 h
  obtain ⟨executor, hexecutor, h⟩ := Except.bind_eq_ok.1 h
  obtain ⟨evidencePolicy, hevidencePolicy, h⟩ := Except.bind_eq_ok.1 h
  obtain ⟨destinations, _, hret⟩ := Except.bind_eq_ok.1 h
  cases hret
  exact {
    address := rfl
    feePolicy := linkedPolicy_ok hgrouped (by decide) hfee hfeePolicy
    pathwayLimitPolicy := linkedPolicy_ok hgrouped (by decide) hlimit hpathwayLimit
    assetMintLimitPolicy := linkedPolicy_ok hgrouped (by decide) hlimit hmintLimit
    assetRedeemLimitPolicy := linkedPolicy_ok hgrouped (by decide) hlimit hredeemLimit
    counterpartyLimitPolicy := linkedPolicy_ok hgrouped (by decide) hlimit hcounterparty
    executorLimitPolicy := linkedPolicy_ok hgrouped (by decide) hlimit hexecutor
    evidencePolicy := linkedPolicy_ok hgrouped (by decide) hevidence hevidencePolicy }

/-- The inventory of an asset holds its account, and the pathways with its mint. -/
def AssetExact (pathways : List ChanceryPathwayInventory) (account : DiscoveredChanceryAccount)
    (asset : ChanceryAssetInventory) : Prop :=
  asset.assetConfig = account ∧ asset.pathways = pathways.filter (·.assetMint = asset.assetMint)

theorem buildAssetInventory_ok
    {assetPauseAccounts reserveDestinations : List DiscoveredChanceryAccount}
    {pathways : List ChanceryPathwayInventory} {account : DiscoveredChanceryAccount}
    {asset : ChanceryAssetInventory}
    (h : buildAssetInventory client assetPauseAccounts reserveDestinations pathways account =
      .ok asset) : AssetExact pathways account asset := by
  obtain ⟨assetMint, _, h⟩ := Except.bind_eq_ok.1 h
  obtain ⟨assetPauseState, _, h⟩ := Except.bind_eq_ok.1 h
  obtain ⟨assetTokenProgram, _, h⟩ := Except.bind_eq_ok.1 h
  obtain ⟨depositRateE9, _, h⟩ := Except.bind_eq_ok.1 h
  obtain ⟨redeemRateE9, _, h⟩ := Except.bind_eq_ok.1 h
  obtain ⟨destinations, _, hret⟩ := Except.bind_eq_ok.1 h
  cases hret
  exact ⟨rfl, rfl⟩

/-! ## The discovery -/

/-- **Nothing is lost and nothing is listed twice.** -/
structure DiscoveryComplete (client : ChanceryClient)
    (programAccounts : List RpcAddressAccountInfo) (discovery : ChanceryStateDiscovery) :
    Prop where
  once : (discovery.recognizedAccounts.map (·.address) ++
    discovery.unrecognizedAccounts.map (·.address)).Perm (programAccounts.map (·.address))
  recognized : ∀ account ∈ discovery.recognizedAccounts, ∃ programAccount ∈ programAccounts,
    RecognizedAs client programAccount (.inl account)
  unrecognized : ∀ account ∈ discovery.unrecognizedAccounts, ∃ programAccount ∈ programAccounts,
    RecognizedAs client programAccount (.inr account)
  types : (discovery.accountsByType.map Prod.fst).Nodup
  byType : ∀ entry ∈ discovery.accountsByType,
    entry.2 = discovery.recognizedAccounts.filter (·.name = entry.1)
  everyType : ∀ account ∈ discovery.recognizedAccounts,
    account.name ∈ discovery.accountsByType.map Prod.fst
  pathways : ∃ inventory, inventory.Perm discovery.pathways ∧
    List.Forall₂ (PathwayExact discovery.recognizedAccounts)
      (discovery.recognizedAccounts.filter (·.name = "PathwayPolicy")) inventory
  assets : ∃ inventory, inventory.Perm discovery.assets ∧
    List.Forall₂ (AssetExact discovery.pathways)
      (discovery.recognizedAccounts.filter (·.name = "AssetConfig")) inventory

/-- What the sorted accounts are of the accounts read. -/
structure Sorted (client : ChanceryClient) (programAccounts : List RpcAddressAccountInfo)
    (recognized : List DiscoveredChanceryAccount)
    (unrecognized : List UnrecognizedChanceryAccount) : Prop where
  once : (recognized.map (·.address) ++ unrecognized.map (·.address)).Perm
    (programAccounts.map (·.address))
  recognized : ∀ account ∈ recognized, ∃ programAccount ∈ programAccounts,
    RecognizedAs client programAccount (.inl account)
  unrecognized : ∀ account ∈ unrecognized, ∃ programAccount ∈ programAccounts,
    RecognizedAs client programAccount (.inr account)

theorem recognizedAndUnrecognized_sorted {programAccounts : List RpcAddressAccountInfo}
    {recognized : List DiscoveredChanceryAccount} {unrecognized : List UnrecognizedChanceryAccount}
    (h : recognizedAndUnrecognized client programAccounts = .ok (recognized, unrecognized)) :
    Sorted client programAccounts recognized unrecognized := by
  obtain ⟨outcomes, resolved, houtcomes, hresolved, rfl, rfl⟩ := recognizedAndUnrecognized_ok h
  refine ⟨?_, fun account haccount => ?_, fun account haccount => ?_⟩
  · rw [← outcomeAddresses houtcomes]
    refine List.Perm.trans (List.Perm.append ?_ ?_) (outcomes_perm outcomes)
    · rw [← resolved_addresses hresolved]
      exact (StableSort.sortBy_perm _ resolved).map _
    · exact (StableSort.sortBy_perm _ _).map _
  · rw [StableSort.mem_sortBy] at haccount
    obtain ⟨original, horiginal, hresolve⟩ :=
      forall₂_exists_left (Except.mapM_eq_ok.1 hresolved) account haccount
    obtain ⟨canonicalPda, rfl⟩ := resolveRemoteNonce_ok hresolve
    obtain ⟨outcome, houtcome, hleft⟩ := List.mem_filterMap.1 horiginal
    obtain ⟨programAccount, hmem, hrecognized⟩ := forall₂_exists_left houtcomes outcome houtcome
    rw [Sum.getLeft?_eq_some_iff] at hleft
    subst hleft
    exact ⟨programAccount, hmem, hrecognized⟩
  · rw [StableSort.mem_sortBy] at haccount
    obtain ⟨outcome, houtcome, hright⟩ := List.mem_filterMap.1 haccount
    obtain ⟨programAccount, hmem, hrecognized⟩ := forall₂_exists_left houtcomes outcome houtcome
    rw [Sum.getRight?_eq_some_iff] at hright
    subst hright
    exact ⟨programAccount, hmem, hrecognized⟩

theorem accountNames_sorted_nodup : sortedAccountNames.Nodup :=
  (StableSort.sortBy_perm _ _).nodup_iff.2 accountNames_nodup

theorem discover_complete {programAccounts : List RpcAddressAccountInfo}
    {discovery : ChanceryStateDiscovery} (h : discover client programAccounts = .ok discovery) :
    DiscoveryComplete client programAccounts discovery := by
  obtain ⟨⟨recognized, unrecognized⟩, hsorted, h⟩ := Except.bind_eq_ok.1 h
  have hmembers := recognizedAndUnrecognized_sorted hsorted
  obtain ⟨grouped, hgrouped, h⟩ := Except.bind_eq_ok.1 h
  obtain ⟨indexes, hindexes, h⟩ := Except.bind_eq_ok.1 h
  obtain ⟨pathways, hpathways, h⟩ := Except.bind_eq_ok.1 h
  obtain ⟨assets, hassets, h⟩ := Except.bind_eq_ok.1 h
  obtain ⟨knownPdas, _, h⟩ := Except.bind_eq_ok.1 h
  obtain ⟨globalPauseAccount, _, hret⟩ := Except.bind_eq_ok.1 h
  cases hret
  obtain ⟨hgroups, hnames⟩ := groupAccountsByType_ok hgrouped
  have hkeys : grouped.map Prod.fst = sortedAccountNames := by
    rw [hgroups, List.map_map]
    exact List.map_id _
  have hpathwayAccounts : ofType grouped "PathwayPolicy" = _ := ofType_eq hgrouped (by decide)
  have hassetAccounts : ofType grouped "AssetConfig" = _ := ofType_eq hgrouped (by decide)
  rw [hpathwayAccounts] at hpathways
  rw [hassetAccounts] at hassets
  exact {
    once := hmembers.once
    recognized := hmembers.recognized
    unrecognized := hmembers.unrecognized
    types := hkeys ▸ accountNames_sorted_nodup
    byType := by
      intro entry hentry
      rw [hgroups] at hentry
      obtain ⟨name, _, rfl⟩ := List.mem_map.1 hentry
      rfl
    everyType := fun account haccount => hkeys ▸ hnames account haccount
    pathways := ⟨pathways, (StableSort.sortBy_perm _ _).symm, (Except.mapM_eq_ok.1 hpathways).imp
      fun _ _ hpathway => buildPathwayInventory_ok hgrouped hindexes hpathway⟩
    assets := ⟨assets, (StableSort.sortBy_perm _ _).symm, (Except.mapM_eq_ok.1 hassets).imp
      fun _ _ hasset => buildAssetInventory_ok hasset⟩ }

end Chancery
