import Chancery.DiscoveryLanguage
import Chancery.DiscoveryOrder

/-!
# The discoveries of both languages

Both languages read the accounts alike, so they fail on the same listings; but TypeScript sorts
addresses by `localeCompare` and Python by code points, and base58 has letters of both cases.

* `discoveryOf_defined_iff` — whether a discovery succeeds does not depend on a language or an
  order.
* `discoveryOf_eq` — the discovery of a language, from parts that both languages share.
* `OrdersAgree` — the orders agree on the accounts of one type, on the unrecognized accounts and on
  the mints of the assets.
* `discoveries_agree_iff` — the discoveries agree exactly then; `localeOrder_differs`.
-/

set_option autoImplicit false

namespace Chancery

/-! ## What TypeScript holds -/

theorem language_account_typescript : Language.typescript.account = id := rfl

theorem language_pathway_typescript : Language.typescript.pathway = id := by
  funext pathway
  simp [Language.pathway, language_account_typescript]

theorem language_asset_typescript : Language.typescript.asset = id := by
  funext asset
  simp [Language.asset, language_account_typescript, language_pathway_typescript]

theorem language_discovery_typescript (discovery : ChanceryStateDiscovery) :
    Language.typescript.discovery discovery = discovery := by
  simp [Language.discovery, Language.grouped, language_account_typescript,
    language_pathway_typescript, language_asset_typescript]

/-! ## Policy indexes -/

theorem extendIndex_defined {fieldName : String} : ∀ {accounts : List DiscoveredChanceryAccount}
    {index entries : PolicyIndex},
    List.Forall₂ (fun account entry => entry.2 = account ∧ bytes32Hex
      (account.values.lookup fieldName) s!"{account.name}.{fieldName}" = .ok entry.1)
      accounts entries →
    ((index ++ entries).map Prod.fst).Nodup →
      extendIndex fieldName index accounts = .ok (index ++ entries)
  | _, index, _, .nil, _ => by rw [extendIndex, List.append_nil]
  | account :: accounts, index, entry :: entries, .cons hhead hrest, hnodup => by
    obtain ⟨key, other⟩ := entry
    obtain ⟨rfl, hkey⟩ := hhead
    have hfresh : index.lookup key = none := by
      rw [List.lookup_eq_none_iff]
      intro earlier hearlier
      rw [List.map_append, List.nodup_append] at hnodup
      have hne := hnodup.2.2 earlier.1 (List.mem_map_of_mem hearlier) key
        (List.mem_map.2 ⟨_, List.mem_cons_self, rfl⟩)
      simpa using Ne.symm hne
    have happend : index ++ (key, other) :: entries = (index ++ [(key, other)]) ++ entries := by simp
    rw [happend] at hnodup ⊢
    rw [extendIndex, Except.bind_of_ok hkey, hfresh]
    exact extendIndex_defined hrest hnodup

/-- Whether the identifiers repeat does not depend on the order. -/
theorem indexAccountsByBytes32_perm {accounts accounts' : List DiscoveredChanceryAccount}
    (hperm : accounts.Perm accounts') {fieldName : String} {index : PolicyIndex}
    (h : indexAccountsByBytes32 accounts fieldName = .ok index) :
    ∃ index', indexAccountsByBytes32 accounts' fieldName = .ok index' := by
  obtain ⟨hnodup, entries, rfl, hall⟩ := extendIndex_ok h List.nodup_nil
  obtain ⟨entries', hall', hentries⟩ := List.perm_comp_forall₂ hperm.symm hall
  exact ⟨_, extendIndex_defined hall' ((hentries.map Prod.fst).nodup_iff.2 hnodup)⟩

/-- The indexes of a list of accounts. -/
def policyIndexesOf (accounts : List DiscoveredChanceryAccount) : Except String PolicyIndexes := do
  let fee ← indexAccountsByBytes32 (accounts.filter (·.name = "FeePolicy")) "fee_policy_id"
  let limit ← indexAccountsByBytes32 (accounts.filter (·.name = "LimitPolicy")) "limit_policy_id"
  let evidence ←
    indexAccountsByBytes32 (accounts.filter (·.name = "EvidencePolicy")) "evidence_policy_id"
  return ⟨fee, limit, evidence⟩

theorem buildPolicyIndexes_eq {accounts : List DiscoveredChanceryAccount}
    {grouped : AccountsByType} (h : groupAccountsByType accounts = .ok grouped) :
    buildPolicyIndexes grouped = policyIndexesOf accounts := by
  have hfee : ofType grouped "FeePolicy" = _ := ofType_eq h (by decide)
  have hlimit : ofType grouped "LimitPolicy" = _ := ofType_eq h (by decide)
  have hevidence : ofType grouped "EvidencePolicy" = _ := ofType_eq h (by decide)
  rw [buildPolicyIndexes, policyIndexesOf, hfee, hlimit, hevidence]

theorem policyIndexesOf_perm {accounts accounts' : List DiscoveredChanceryAccount}
    (hperm : accounts.Perm accounts') {indexes : PolicyIndexes}
    (h : policyIndexesOf accounts = .ok indexes) :
    ∃ indexes', policyIndexesOf accounts' = .ok indexes' := by
  obtain ⟨fee, hfee, h⟩ := Except.bind_eq_ok.1 h
  obtain ⟨limit, hlimit, h⟩ := Except.bind_eq_ok.1 h
  obtain ⟨evidence, hevidence, hret⟩ := Except.bind_eq_ok.1 h
  obtain ⟨fee', hfee'⟩ := indexAccountsByBytes32_perm (hperm.filter _) hfee
  obtain ⟨limit', hlimit'⟩ := indexAccountsByBytes32_perm (hperm.filter _) hlimit
  obtain ⟨evidence', hevidence'⟩ := indexAccountsByBytes32_perm (hperm.filter _) hevidence
  refine ⟨⟨fee', limit', evidence'⟩, ?_⟩
  rw [policyIndexesOf, Except.bind_of_ok hfee', Except.bind_of_ok hlimit',
    Except.bind_of_ok hevidence']
  rfl

theorem policyIndexesOf_language {accounts : List DiscoveredChanceryAccount}
    (h : ∀ account ∈ accounts, Decoded account) (L : Language) :
    policyIndexesOf (accounts.map L.account) = (policyIndexesOf accounts).map L.indexes := by
  have hindex : ∀ accountName fieldName,
      fieldType accountName fieldName = some (.array (.primitive .u8) 32) →
        indexAccountsByBytes32 ((accounts.map L.account).filter (·.name = accountName)) fieldName =
          (indexAccountsByBytes32 (accounts.filter (·.name = accountName)) fieldName).map
            L.index := by
    intro accountName fieldName htype
    have hextend : extendIndex fieldName (L.index [])
        ((accounts.filter (·.name = accountName)).map L.account) =
          (extendIndex fieldName [] (accounts.filter (·.name = accountName))).map L.index :=
      extendIndex_language htype L (decodedAll_filter h accountName)
    rw [filter_account]
    exact hextend
  refine Except.bind_map (hindex "FeePolicy" "fee_policy_id" rfl) fun fee _ => ?_
  refine Except.bind_map (hindex "LimitPolicy" "limit_policy_id" rfl) fun limit _ => ?_
  exact Except.bind_map (hindex "EvidencePolicy" "evidence_policy_id" rfl) fun evidence _ => rfl

/-! ## Known addresses -/

section

variable {client : ChanceryClient}

theorem accountAt_language (L : Language) (accounts : List DiscoveredChanceryAccount)
    (address : PublicKey) :
    accountAt (accounts.map L.account) address = (accountAt accounts address).map L.account := by
  rw [accountAt, accountAt, ← List.map_reverse, List.find?_map]
  rfl

theorem knownPdaInventory_language (L : Language) (accounts : List DiscoveredChanceryAccount)
    (name : String) (address : PublicKey) (kind : KnownPdaKind) :
    knownPdaInventory (accounts.map L.account) name address kind =
      knownPdaInventory accounts name address kind := by
  rw [knownPdaInventory, knownPdaInventory, accountAt_language]
  cases accountAt accounts address <;> rfl

/-- One entry of the inventory, before the sort. -/
def knownPdaEntry (client : ChanceryClient) (accounts : List DiscoveredChanceryAccount)
    (name : String) : Except String ChanceryKnownPdaInventory := do
  let address ← knownPdaAddress client name
  return knownPdaInventory accounts name address (knownPdaKind name)

/-- The inventory in order, with the mint authority where it is not among the entries. -/
def completeKnownPdas (L : Language) (accounts : List DiscoveredChanceryAccount)
    (entries : List ChanceryKnownPdaInventory) (mintAuthority : NamedProgramAddress) :
    List ChanceryKnownPdaInventory :=
  StableSort.sortBy (fun left right => compareTexts L left.name right.name)
    (if entries.any fun entry => entry.name = mintAuthority.name then entries
    else entries ++
      [knownPdaInventory accounts mintAuthority.name mintAuthority.address .signerPda])

theorem buildKnownPdaInventory_eq (client : ChanceryClient)
    (accounts : List DiscoveredChanceryAccount) :
    buildKnownPdaInventory client accounts = (do
      let entries ← (StableSort.sortBy (compareTexts .python)
        (client.deployment.knownPdas.map Prod.fst)).mapM (knownPdaEntry client accounts)
      let mintAuthority ←
        Named.deriveSingletonAddress client "mint_authority_pda" "mint-authority"
      return completeKnownPdas client.language accounts entries mintAuthority) := rfl

theorem knownPdaEntry_language (L : Language) (accounts : List DiscoveredChanceryAccount)
    (name : String) :
    knownPdaEntry (client.withLanguage L) (accounts.map L.account) name =
      knownPdaEntry (client.withLanguage .typescript) accounts name := by
  unfold knownPdaEntry
  simp only [knownPdaInventory_language]
  rfl

/-- Whether the known addresses are there depends on no account. -/
theorem buildKnownPdaInventory_defined {accounts : List DiscoveredChanceryAccount} {L : Language}
    {inventory : List ChanceryKnownPdaInventory}
    (h : buildKnownPdaInventory (client.withLanguage L) accounts = .ok inventory) (L' : Language)
    (accounts' : List DiscoveredChanceryAccount) :
    ∃ inventory', buildKnownPdaInventory (client.withLanguage L') accounts' = .ok inventory' := by
  rw [buildKnownPdaInventory_eq] at h
  obtain ⟨entries, hentries, h⟩ := Except.bind_eq_ok.1 h
  obtain ⟨mintAuthority, hmint, _⟩ := Except.bind_eq_ok.1 h
  have hall := (Except.mapM_eq_ok.1 hentries).flip
  have hentry : ∀ name ∈ StableSort.sortBy (compareTexts .python)
      (client.deployment.knownPdas.map Prod.fst),
      ∃ entry, knownPdaEntry (client.withLanguage L') accounts' name = .ok entry := by
    intro name hname
    obtain ⟨entry, _, hentry⟩ := forall₂_exists_left hall name hname
    obtain ⟨address, haddress, _⟩ := Except.bind_eq_ok.1 hentry
    exact ⟨_, Except.bind_of_ok haddress _⟩
  obtain ⟨entries', hentries'⟩ := Except.exists_mapM hentry
  refine ⟨completeKnownPdas L' accounts' entries' mintAuthority, ?_⟩
  rw [buildKnownPdaInventory_eq]
  exact Except.bind_eq_ok.2 ⟨entries', hentries', Except.bind_of_ok hmint _⟩

theorem knownPdaNames_alike :
    ∀ left ∈ "mint_authority_pda" :: knownPdaSeeds.map Prod.fst,
      ∀ right ∈ "mint_authority_pda" :: knownPdaSeeds.map Prod.fst,
        compareTexts .typescript left right = compareTexts .python left right := by decide

/-- The names of the known addresses are ordered alike in both languages. -/
theorem buildKnownPdaInventory_language
    (hnames : client.deployment.knownPdas.map Prod.fst = knownPdaSeeds.map Prod.fst)
    (accounts : List DiscoveredChanceryAccount) (L : Language) :
    buildKnownPdaInventory (client.withLanguage L) (accounts.map L.account) =
      buildKnownPdaInventory (client.withLanguage .typescript) accounts := by
  have hentries : (StableSort.sortBy (compareTexts .python)
        (client.deployment.knownPdas.map Prod.fst)).mapM
          (knownPdaEntry (client.withLanguage L) (accounts.map L.account)) =
      (StableSort.sortBy (compareTexts .python) (client.deployment.knownPdas.map Prod.fst)).mapM
        (knownPdaEntry (client.withLanguage .typescript) accounts) :=
    Except.mapM_congr fun name _ => knownPdaEntry_language L accounts name
  have hcomplete : ∀ entries mintAuthority,
      (∀ entry ∈ entries, entry.name ∈ knownPdaSeeds.map Prod.fst) →
      mintAuthority.name = "mint_authority_pda" →
        completeKnownPdas L (accounts.map L.account) entries mintAuthority =
          completeKnownPdas .typescript accounts entries mintAuthority := by
    intro entries mintAuthority hnames hmint
    rw [completeKnownPdas, knownPdaInventory_language]
    refine StableSort.sortBy_congr fun left hleft right hright => ?_
    have hlisted : ∀ entry ∈ (if entries.any fun entry => entry.name = mintAuthority.name then
        entries else entries ++ [knownPdaInventory accounts mintAuthority.name
          mintAuthority.address .signerPda]),
        entry.name ∈ "mint_authority_pda" :: knownPdaSeeds.map Prod.fst := by
      intro entry hentry
      split at hentry
      · exact List.mem_cons_of_mem _ (hnames entry hentry)
      · rcases List.mem_append.1 hentry with hentry | hentry
        · exact List.mem_cons_of_mem _ (hnames entry hentry)
        · rw [List.mem_singleton.1 hentry]
          exact List.mem_cons.2 (Or.inl hmint)
    cases L with
    | typescript => rfl
    | python =>
      exact (knownPdaNames_alike left.name (hlisted left hleft) right.name
        (hlisted right hright)).symm
  rw [buildKnownPdaInventory_eq, buildKnownPdaInventory_eq]
  rw [show (client.withLanguage L).deployment = client.deployment from rfl, hentries]
  refine Except.bind_congr fun entries hok => ?_
  refine Except.bind_congr fun mintAuthority hmint => ?_
  refine congrArg Except.ok (hcomplete entries mintAuthority ?_ ?_)
  · intro entry hentry
    obtain ⟨name, hname, hread⟩ := forall₂_exists_left (Except.mapM_eq_ok.1 hok) entry hentry
    obtain ⟨address, _, hret⟩ := Except.bind_eq_ok.1 hread
    cases hret
    rw [StableSort.mem_sortBy, hnames] at hname
    exact hname
  · obtain ⟨result, _, hret⟩ := Except.bind_eq_ok.1 hmint
    cases hret
    rfl

end

/-! ## The discovery of a language -/

section

variable {client : ChanceryClient}

/-- What discovery needs of the accounts: identifiers that do not repeat, and known addresses. -/
structure Linkable (client : ChanceryClient) (accounts : List DiscoveredChanceryAccount) : Prop where
  indexes : ∃ indexes, policyIndexesOf accounts = .ok indexes
  known : ∃ inventory, buildKnownPdaInventory (client.withLanguage .typescript) accounts =
    .ok inventory
  pause : ∃ address, knownPdaAddress client "pause_state" = .ok address

theorem Linkable.perm {accounts accounts' : List DiscoveredChanceryAccount}
    (hperm : accounts.Perm accounts') (h : Linkable client accounts) :
    Linkable client accounts' where
  indexes := by
    obtain ⟨indexes, hindexes⟩ := h.indexes
    exact policyIndexesOf_perm hperm hindexes
  known := by
    obtain ⟨inventory, hinventory⟩ := h.known
    exact buildKnownPdaInventory_defined hinventory .typescript accounts'
  pause := h.pause

theorem linkable_of_discoveryOf {accounts : List DiscoveredChanceryAccount}
    (haccounts : ∀ account ∈ accounts, Decoded account) {L : Language} {accountCount : Nat}
    {unrecognized : List UnrecognizedChanceryAccount} {discovery : ChanceryStateDiscovery}
    (h : discoveryOf (client.withLanguage L) accountCount (accounts.map L.account) unrecognized =
      .ok discovery) : Linkable client accounts := by
  obtain ⟨grouped, hgrouped, h⟩ := Except.bind_eq_ok.1 h
  obtain ⟨indexes, hindexes, h⟩ := Except.bind_eq_ok.1 h
  obtain ⟨_, _, h⟩ := Except.bind_eq_ok.1 h
  obtain ⟨_, _, h⟩ := Except.bind_eq_ok.1 h
  obtain ⟨knownPdas, hknown, h⟩ := Except.bind_eq_ok.1 h
  obtain ⟨globalPauseAccount, hpause, _⟩ := Except.bind_eq_ok.1 h
  refine ⟨?_, buildKnownPdaInventory_defined hknown .typescript accounts, ⟨_, hpause⟩⟩
  rw [buildPolicyIndexes_eq hgrouped, policyIndexesOf_language haccounts] at hindexes
  cases hof : policyIndexesOf accounts with
  | error message =>
    rw [hof] at hindexes
    cases hindexes
  | ok indexes => exact ⟨indexes, rfl⟩

/-- The order of addresses in a language, on things that have one. -/
def sortByAddress {α : Type} (L : Language) (address : α → PublicKey) (items : List α) : List α :=
  StableSort.sortBy (fun left right =>
    compareTexts L (address left).toBase58 (address right).toBase58) items

theorem sortByAddress_map {α β : Type} (L : Language) {address : α → PublicKey}
    {address' : β → PublicKey} {f : α → β} (h : ∀ item, address' (f item) = address item)
    (items : List α) :
    sortByAddress L address' (items.map f) = (sortByAddress L address items).map f :=
  StableSort.sortBy_map fun a _ b _ => by rw [h, h]

/-- The inventories of the accounts, unsorted: the same for both languages. -/
structure Inventories (client : ChanceryClient) (accounts : List DiscoveredChanceryAccount) where
  grouped : AccountsByType
  pathways : List ChanceryPathwayInventory
  assets : List ChanceryPathwayInventory → List ChanceryAssetInventory
  knownPdas : List ChanceryKnownPdaInventory
  globalPauseAccount : PublicKey

/-- The discovery from the inventories, in the order of a language. -/
def Inventories.discovery {accounts : List DiscoveredChanceryAccount}
    (inventories : Inventories client accounts) (L : Language) (accountCount : Nat)
    (unrecognized : List UnrecognizedChanceryAccount) : ChanceryStateDiscovery :=
  let pathways := sortByAddress L (·.address) inventories.pathways
  let grouped := inventories.grouped
  { programAddress := client.deployment.programAddress
    commitment := client.commitment
    accountCount
    recognizedAccounts := accounts
    accountsByType := grouped
    unrecognizedAccounts := unrecognized
    knownPdas := inventories.knownPdas
    chanceryConfig := (ofType grouped "ChanceryConfig").head?
    issuedTokenControl := (ofType grouped "IssuedTokenControl").head?
    assets := sortByAddress L (·.assetMint) (inventories.assets pathways)
    pathways
    settlementLimitModel := {
      volumeScopes := ["pathway", "asset", "counterparty", "executor"]
      globalSettlementVolumeAccumulatorExists := false
      globalPauseAccount := inventories.globalPauseAccount } }

theorem groupAccountsByType_language {accounts : List DiscoveredChanceryAccount}
    (haccounts : ∀ account ∈ accounts, Decoded account) {grouped : AccountsByType}
    (h : groupAccountsByType accounts = .ok grouped) (L : Language) :
    groupAccountsByType (accounts.map L.account) = .ok (L.grouped grouped) := by
  obtain ⟨result, hresult⟩ := groupAccountsByType_decoded haccounts L
  have hsame : result = L.grouped grouped := by
    rw [(groupAccountsByType_ok hresult).1, (groupAccountsByType_ok h).1, Language.grouped,
      List.map_map]
    refine List.map_congr_left fun name _ => ?_
    rw [filter_account]
    rfl
  rw [hresult, hsame]

/-- **The discovery of a language**: the shared inventories in its order, with its values. -/
theorem discoveryOf_eq {accounts : List DiscoveredChanceryAccount}
    (hnames : client.deployment.knownPdas.map Prod.fst = knownPdaSeeds.map Prod.fst)
    (haccounts : ∀ account ∈ accounts, Decoded account) (hlinkable : Linkable client accounts) :
    ∃ inventories : Inventories client accounts,
      List.Forall₂ (fun account pathway => pathway.address = account.address)
        (accounts.filter (·.name = "PathwayPolicy")) inventories.pathways ∧
      (∀ pathways, List.Forall₂ (fun account asset =>
        requirePublicKeyField account.values "asset_mint" = .ok asset.assetMint)
          (accounts.filter (·.name = "AssetConfig")) (inventories.assets pathways)) ∧
      ∀ L accountCount unrecognized,
        discoveryOf (client.withLanguage L) accountCount (accounts.map L.account) unrecognized =
          .ok (L.discovery (inventories.discovery L accountCount unrecognized)) := by
  obtain ⟨⟨indexes, hindexes⟩, ⟨knownPdas, hknown⟩, ⟨globalPauseAccount, hpause⟩⟩ := hlinkable
  have hof := fun name => decodedAll_filter haccounts name
  obtain ⟨pathways, hpathways⟩ := forall₂_of_exists fun account haccount =>
    buildPathwayInventory_language client indexes (hof "ReserveDestination")
      (hof "PathwayPolicy" account haccount).1 (hof "PathwayPolicy" account haccount).2
  have hexists := fun pathways => forall₂_of_exists fun account haccount =>
    buildAssetInventory_language client (hof "AssetPauseState") (hof "ReserveDestination")
      (hof "AssetConfig" account haccount).1 (hof "AssetConfig" account haccount).2 pathways
  choose assets hassets using hexists
  obtain ⟨grouped, hgrouped⟩ := groupAccountsByType_decoded haccounts .typescript
  rw [accounts_typescript] at hgrouped
  refine ⟨⟨grouped, pathways, assets, knownPdas, globalPauseAccount⟩,
    hpathways.imp fun _ _ h => h.1, fun pathways => (hassets pathways).imp fun _ _ h => h.1, ?_⟩
  intro L accountCount unrecognized
  have hgroupedL := groupAccountsByType_language haccounts hgrouped L
  have hofType : ∀ name ∈ accountSchemas.map Prod.fst,
      ofType (L.grouped grouped) name = (accounts.filter (·.name = name)).map L.account := by
    intro name hname
    rw [ofType_eq hgroupedL hname, filter_account]
  have hhead : ∀ name ∈ accountSchemas.map Prod.fst, (ofType (L.grouped grouped) name).head? =
      (ofType grouped name).head?.map L.account := by
    intro name hname
    rw [hofType name hname, ofType_eq hgrouped hname, List.head?_map]
  have hindexesL : buildPolicyIndexes (L.grouped grouped) = .ok (L.indexes indexes) := by
    rw [buildPolicyIndexes_eq hgroupedL, policyIndexesOf_language haccounts, hindexes]
    rfl
  have hpathwaysL := Except.mapM_eq_ok.2 (List.forall₂_map_left_iff.2
    (List.forall₂_map_right_iff.2 (hpathways.imp fun _ _ h => h.2 L)))
  have hsort : sortByAddress L (·.address) (pathways.map L.pathway) =
      (sortByAddress L (·.address) pathways).map L.pathway :=
    sortByAddress_map L (fun _ => rfl) pathways
  have hassetsL := Except.mapM_eq_ok.2 (List.forall₂_map_left_iff.2 (List.forall₂_map_right_iff.2
    ((hassets (sortByAddress L (·.address) pathways)).imp fun _ _ h => h.2 L)))
  have hassetSort : sortByAddress L (·.assetMint)
        ((assets (sortByAddress L (·.address) pathways)).map L.asset) =
      (sortByAddress L (·.assetMint) (assets (sortByAddress L (·.address) pathways))).map L.asset :=
    sortByAddress_map L (fun _ => rfl) _
  have hknownL : buildKnownPdaInventory (client.withLanguage L) (accounts.map L.account) =
      .ok knownPdas := by
    rw [buildKnownPdaInventory_language hnames, hknown]
  rw [← hsort] at hassetsL
  unfold discoveryOf
  refine Except.bind_eq_ok.2 ⟨_, hgroupedL, ?_⟩
  refine Except.bind_eq_ok.2 ⟨_, hindexesL, ?_⟩
  dsimp only
  rw [hofType "PathwayPolicy" (by decide), hofType "ReserveDestination" (by decide),
    hofType "AssetConfig" (by decide), hofType "AssetPauseState" (by decide),
    hhead "ChanceryConfig" (by decide), hhead "IssuedTokenControl" (by decide)]
  refine Except.bind_eq_ok.2 ⟨_, hpathwaysL, ?_⟩
  refine Except.bind_eq_ok.2 ⟨_, hassetsL, ?_⟩
  refine Except.bind_eq_ok.2 ⟨_, hknownL, ?_⟩
  refine Except.bind_eq_ok.2 ⟨_, hpause, ?_⟩
  refine congrArg Except.ok ?_
  rw [Inventories.discovery, Language.discovery]
  dsimp only
  rw [← hassetSort, ← hsort]
  rfl

end

/-! ## Where both discoveries succeed -/

section

variable {client : ChanceryClient} {programAccounts : List RpcAddressAccountInfo}
  {recognized : List DiscoveredChanceryAccount} {unrecognized : List UnrecognizedChanceryAccount}

/-- What the passes leave, before the sorts. -/
structure PassesOf (client : ChanceryClient) (programAccounts : List RpcAddressAccountInfo)
    (recognized : List DiscoveredChanceryAccount)
    (unrecognized : List UnrecognizedChanceryAccount) : Prop where
  ofRecognized : ∀ account ∈ recognized, ∃ programAccount ∈ programAccounts,
    RecognizedAs (client.withLanguage .typescript) programAccount (.inl account)
  ofUnrecognized : ∀ account ∈ unrecognized, ∃ programAccount ∈ programAccounts,
    RecognizedAs (client.withLanguage .typescript) programAccount (.inr account)
  all : ∀ programAccount ∈ programAccounts,
    (∃ account ∈ recognized,
      RecognizedAs (client.withLanguage .typescript) programAccount (.inl account)) ∨
    ∃ account ∈ unrecognized,
      RecognizedAs (client.withLanguage .typescript) programAccount (.inr account)

theorem passesOf (h : passes (client.withLanguage .typescript) programAccounts =
    .ok (recognized, unrecognized)) : PassesOf client programAccounts recognized unrecognized := by
  obtain ⟨outcomes, houtcomes, h⟩ := Except.bind_eq_ok.1 h
  obtain ⟨resolved, hresolved, hret⟩ := Except.bind_eq_ok.1 h
  cases hret
  have hall := (Except.mapM_eq_ok.1 houtcomes).imp fun _ _ => recognizeAccount_ok
  have hresolve := Except.mapM_eq_ok.1 hresolved
  refine ⟨fun account haccount => ?_, fun account haccount => ?_, fun programAccount hmem => ?_⟩
  · obtain ⟨original, horiginal, hsame⟩ := forall₂_exists_left hresolve account haccount
    obtain ⟨canonicalPda, rfl⟩ := resolveRemoteNonce_ok hsame
    obtain ⟨outcome, houtcome, hleft⟩ := List.mem_filterMap.1 horiginal
    obtain ⟨programAccount, hmem, hrecognized⟩ := forall₂_exists_left hall outcome houtcome
    rw [Sum.getLeft?_eq_some_iff] at hleft
    subst hleft
    exact ⟨programAccount, hmem, hrecognized⟩
  · obtain ⟨outcome, houtcome, hright⟩ := List.mem_filterMap.1 haccount
    obtain ⟨programAccount, hmem, hrecognized⟩ := forall₂_exists_left hall outcome houtcome
    rw [Sum.getRight?_eq_some_iff] at hright
    subst hright
    exact ⟨programAccount, hmem, hrecognized⟩
  · obtain ⟨outcome, houtcome, hrecognized⟩ := forall₂_exists_left hall.flip programAccount hmem
    cases outcome with
    | inl original =>
      have horiginal : original ∈ outcomes.filterMap Sum.getLeft? :=
        List.mem_filterMap.2 ⟨_, houtcome, rfl⟩
      obtain ⟨account, haccount, hsame⟩ := forall₂_exists_left hresolve.flip original horiginal
      obtain ⟨canonicalPda, rfl⟩ := resolveRemoteNonce_ok hsame
      exact Or.inl ⟨_, haccount, hrecognized⟩
    | inr account => exact Or.inr ⟨account, List.mem_filterMap.2 ⟨_, houtcome, rfl⟩, hrecognized⟩

theorem PassesOf.decoded (h : PassesOf client programAccounts recognized unrecognized) :
    ∀ account ∈ recognized, Decoded account := by
  intro account haccount
  obtain ⟨programAccount, _, hrecognized⟩ := h.ofRecognized account haccount
  exact ⟨_, hrecognized.2.2.2.2⟩

/-- The recognized accounts in the order of a language. -/
def sortRecognized (L : Language) (recognized : List DiscoveredChanceryAccount) :
    List DiscoveredChanceryAccount :=
  StableSort.sortBy (compareDiscoveredAccounts L) recognized

theorem discover_of_passes (h : passes (client.withLanguage .typescript) programAccounts =
    .ok (recognized, unrecognized)) (L : Language) :
    discover (client.withLanguage L) programAccounts =
      discoveryOf (client.withLanguage L) programAccounts.length
        ((sortRecognized L recognized).map L.account)
        (sortByAddress L (·.address) unrecognized) := by
  have hsort : StableSort.sortBy (compareDiscoveredAccounts L) (recognized.map L.account) =
      (sortRecognized L recognized).map L.account :=
    StableSort.sortBy_map fun _ _ _ _ => rfl
  unfold discover
  rw [recognizedAndUnrecognized_eq, passes_language, h]
  show discoveryOf (client.withLanguage L) programAccounts.length
    (StableSort.sortBy (compareDiscoveredAccounts L) (recognized.map L.account)) _ = _
  rw [hsort]
  rfl

theorem passes_of_discover {L : Language} {discovery : ChanceryStateDiscovery}
    (h : discover (client.withLanguage L) programAccounts = .ok discovery) :
    ∃ recognized unrecognized, passes (client.withLanguage .typescript) programAccounts =
      .ok (recognized, unrecognized) := by
  obtain ⟨result, hresult, _⟩ := Except.bind_eq_ok.1 h
  rw [recognizedAndUnrecognized_eq, passes_language] at hresult
  cases hpasses : passes (client.withLanguage .typescript) programAccounts with
  | error message =>
    rw [hpasses] at hresult
    cases hresult
  | ok accounts => exact ⟨accounts.1, accounts.2, rfl⟩

theorem sortRecognized_decoded (h : ∀ account ∈ recognized, Decoded account) (L : Language) :
    ∀ account ∈ sortRecognized L recognized, Decoded account :=
  fun account haccount => h account (StableSort.mem_sortBy.1 haccount)

/-- **Both discoveries succeed or neither does.** -/
theorem discover_defined
    (hnames : client.deployment.knownPdas.map Prod.fst = knownPdaSeeds.map Prod.fst)
    {L : Language} {discovery : ChanceryStateDiscovery}
    (h : discover (client.withLanguage L) programAccounts = .ok discovery) (L' : Language) :
    ∃ discovery', discover (client.withLanguage L') programAccounts = .ok discovery' := by
  obtain ⟨recognized, unrecognized, hpasses⟩ := passes_of_discover h
  have hdecoded := (passesOf hpasses).decoded
  rw [discover_of_passes hpasses] at h ⊢
  have hlinkable := linkable_of_discoveryOf (sortRecognized_decoded hdecoded L) h
  have hperm : (sortRecognized L recognized).Perm (sortRecognized L' recognized) :=
    (StableSort.sortBy_perm _ recognized).trans (StableSort.sortBy_perm _ recognized).symm
  obtain ⟨inventories, _, _, hresult⟩ := discoveryOf_eq hnames
    (sortRecognized_decoded hdecoded L') (hlinkable.perm hperm)
  exact ⟨_, hresult L' _ _⟩

end

/-! ## The orders -/

/-- Both languages order the two addresses alike. -/
def OrderedAlike (left right : PublicKey) : Prop :=
  compareTexts .typescript left.toBase58 right.toBase58 =
    compareTexts .python left.toBase58 right.toBase58

instance (left right : PublicKey) : Decidable (OrderedAlike left right) :=
  inferInstanceAs (Decidable (_ = _))

theorem sort_of_orderedAlike {α : Type} {address : α → PublicKey} {items : List α}
    (h : ∀ left ∈ items, ∀ right ∈ items, OrderedAlike (address left) (address right)) :
    sortByAddress .python address items = sortByAddress .typescript address items :=
  StableSort.sortBy_congr fun left hleft right hright => (h left hleft right hright).symm

theorem orderedAlike_of_sort {α : Type} {address : α → PublicKey} {items : List α}
    (h : (sortByAddress .python address items).map address =
      (sortByAddress .typescript address items).map address) :
    ∀ left ∈ items, ∀ right ∈ items, OrderedAlike (address left) (address right) := by
  have hkeys : ∀ L, sortByAddress L id (items.map address) =
      (sortByAddress L address items).map address := fun L =>
    sortByAddress_map L (fun _ => rfl) items
  rw [← hkeys, ← hkeys] at h
  intro left hleft right hright
  by_cases hsame : address left = address right
  · rw [hsame]
    exact (Std.ReflCmp.compare_self).trans (Std.ReflCmp.compare_self).symm
  · have hne : ∀ L, compareTexts L (address left).toBase58 (address right).toBase58 ≠ .eq :=
      fun L heq => hsame ((compareAddresses_eq_iff L _ _).1 heq)
    exact (StableSort.compare_of_sortBy_eq h (List.mem_map_of_mem hleft)
      (List.mem_map_of_mem hright) (hne .python) (hne .typescript)).symm

/-- The names of the account types are ordered alike in both languages. -/
theorem accountNames_alike : ∀ left ∈ accountSchemas.map Prod.fst,
    ∀ right ∈ accountSchemas.map Prod.fst,
      compareTexts .typescript left right = compareTexts .python left right := by
  decide +kernel

theorem accountNames_collatable : ∀ name ∈ accountSchemas.map Prod.fst, collatable name = true := by
  decide

/-- `compareDiscoveredAccounts` on what it looks at. -/
def compareNamed (L : Language) (left right : String × PublicKey) : Ordering :=
  (compareTexts L left.1 right.1).then (compareTexts L left.2.toBase58 right.2.toBase58)

instance (L : Language) : Std.TransCmp (compareNamed L) :=
  inferInstanceAs (Std.TransCmp (compareLex
    (fun left right : String × PublicKey => compareTexts L left.1 right.1)
    (fun left right => compareTexts L left.2.toBase58 right.2.toBase58)))

def accountKey (account : DiscoveredChanceryAccount) : String × PublicKey :=
  (account.name, account.address)

theorem compareNamed_alike {left right : String × PublicKey}
    (hleft : left.1 ∈ accountSchemas.map Prod.fst) (hright : right.1 ∈ accountSchemas.map Prod.fst) :
    compareNamed .python left right = compareNamed .typescript left right ↔
      (left.1 = right.1 → OrderedAlike left.2 right.2) := by
  unfold compareNamed
  rw [← accountNames_alike left.1 hleft right.1 hright]
  by_cases hname : left.1 = right.1
  · have hself : compareTexts .typescript left.1 right.1 = .eq := by
      rw [hname]
      exact Std.ReflCmp.compare_self
    rw [hself]
    exact ⟨fun h _ => h.symm, fun h => (h hname).symm⟩
  · have hne : compareTexts .typescript left.1 right.1 ≠ .eq := fun heq =>
      hname ((compareTexts_eq_iff .typescript (accountNames_collatable _ hleft)
        (accountNames_collatable _ hright)).1 heq)
    refine iff_of_true ?_ fun h => absurd h hname
    cases hcompare : compareTexts .typescript left.1 right.1 with
    | eq => exact absurd hcompare hne
    | lt => rfl
    | gt => rfl

theorem decoded_name_mem {recognized : List DiscoveredChanceryAccount}
    (h : ∀ account ∈ recognized, Decoded account) {key : String × PublicKey}
    (hkey : key ∈ recognized.map accountKey) : key.1 ∈ accountSchemas.map Prod.fst := by
  obtain ⟨account, haccount, rfl⟩ := List.mem_map.1 hkey
  exact decodedAs_name (h account haccount)

/-- **The recognized accounts are in one order in both languages** exactly when the addresses of
each type are ordered alike. -/
theorem sortRecognized_alike {recognized : List DiscoveredChanceryAccount}
    (h : ∀ account ∈ recognized, Decoded account) :
    ((sortRecognized .python recognized).map accountKey =
        (sortRecognized .typescript recognized).map accountKey) ↔
      ∀ left ∈ recognized, ∀ right ∈ recognized, left.name = right.name →
        OrderedAlike left.address right.address := by
  have hkeys : ∀ L, StableSort.sortBy (compareNamed L) (recognized.map accountKey) =
      (StableSort.sortBy (compareDiscoveredAccounts L) recognized).map accountKey := fun L =>
    StableSort.sortBy_map fun _ _ _ _ => rfl
  unfold sortRecognized
  rw [← hkeys, ← hkeys]
  constructor
  · intro hsort left hleft right hright hname
    by_cases hsame : left.address = right.address
    · rw [hsame]
      exact (Std.ReflCmp.compare_self).trans (Std.ReflCmp.compare_self).symm
    · have hmemLeft := List.mem_map_of_mem (f := accountKey) hleft
      have hmemRight := List.mem_map_of_mem (f := accountKey) hright
      have hne : ∀ L, compareNamed L (accountKey left) (accountKey right) ≠ .eq := fun L heq =>
        hsame ((compareAddresses_eq_iff L _ _).1 (Ordering.then_eq_eq.1 heq).2)
      have hcompare := StableSort.compare_of_sortBy_eq hsort hmemLeft hmemRight (hne .python)
        (hne .typescript)
      exact (compareNamed_alike (decoded_name_mem h hmemLeft) (decoded_name_mem h hmemRight)).1
        hcompare hname
  · intro hordered
    refine StableSort.sortBy_congr fun left hleft right hright => ?_
    refine (compareNamed_alike (decoded_name_mem h hleft) (decoded_name_mem h hright)).2 ?_
    obtain ⟨leftAccount, hleftMem, rfl⟩ := List.mem_map.1 hleft
    obtain ⟨rightAccount, hrightMem, rfl⟩ := List.mem_map.1 hright
    exact hordered leftAccount hleftMem rightAccount hrightMem

theorem sortRecognized_eq {recognized : List DiscoveredChanceryAccount}
    (h : ∀ account ∈ recognized, Decoded account)
    (hordered : ∀ left ∈ recognized, ∀ right ∈ recognized, left.name = right.name →
      OrderedAlike left.address right.address) :
    sortRecognized .python recognized = sortRecognized .typescript recognized := by
  refine StableSort.sortBy_congr fun left hleft right hright => ?_
  have halike : compareNamed .python (accountKey left) (accountKey right) =
      compareNamed .typescript (accountKey left) (accountKey right) ↔ _ :=
    compareNamed_alike (decodedAs_name (h left hleft)) (decodedAs_name (h right hright))
  exact halike.2 (hordered left hleft right hright)

/-! ## The condition -/

/-- The type of a listed account, if it is one of the program's. -/
def recognizedName (programAccount : RpcAddressAccountInfo) : Option String :=
  (decodeAccountWith typescript programAccount.account.data).toOption.map (·.name)

/-- The mints of the listed assets. -/
def listedAssetMints (client : ChanceryClient) (programAccounts : List RpcAddressAccountInfo) :
    List PublicKey :=
  (valuesOfType (client.withLanguage .typescript) programAccounts "AssetConfig").filterMap
    fun values => (requirePublicKeyField values "asset_mint").toOption

/-- Both languages order alike what a discovery sorts. -/
structure OrdersAgree (client : ChanceryClient) (programAccounts : List RpcAddressAccountInfo) :
    Prop where
  addresses : ∀ left ∈ programAccounts, ∀ right ∈ programAccounts,
    recognizedName left = recognizedName right → OrderedAlike left.address right.address
  assetMints : ∀ left ∈ listedAssetMints client programAccounts,
    ∀ right ∈ listedAssetMints client programAccounts, OrderedAlike left right

/-- The mints of the asset accounts. -/
def assetMintsOf (accounts : List DiscoveredChanceryAccount) : List PublicKey :=
  (accounts.filter (·.name = "AssetConfig")).filterMap fun account =>
    (requirePublicKeyField account.values "asset_mint").toOption

/-- The condition on the accounts of the passes. -/
structure OrderedParts (recognized : List DiscoveredChanceryAccount)
    (unrecognized : List UnrecognizedChanceryAccount) : Prop where
  named : ∀ left ∈ recognized, ∀ right ∈ recognized, left.name = right.name →
    OrderedAlike left.address right.address
  unnamed : ∀ left ∈ unrecognized, ∀ right ∈ unrecognized,
    OrderedAlike left.address right.address
  assetMints : ∀ left ∈ assetMintsOf recognized, ∀ right ∈ assetMintsOf recognized,
    OrderedAlike left right

section

variable {client : ChanceryClient} {programAccounts : List RpcAddressAccountInfo}
  {recognized : List DiscoveredChanceryAccount} {unrecognized : List UnrecognizedChanceryAccount}

theorem recognizedName_inl {programAccount : RpcAddressAccountInfo}
    {account : DiscoveredChanceryAccount}
    (h : RecognizedAs (client.withLanguage .typescript) programAccount (.inl account)) :
    recognizedName programAccount = some account.name := by
  have hdecode : decodeAccountWith typescript programAccount.account.data = _ := h.2.2.2.2
  rw [recognizedName, hdecode]
  rfl

theorem recognizedName_inr {programAccount : RpcAddressAccountInfo}
    {account : UnrecognizedChanceryAccount}
    (h : RecognizedAs (client.withLanguage .typescript) programAccount (.inr account)) :
    recognizedName programAccount = none := by
  have hdecode : decodeAccountWith typescript programAccount.account.data = _ := h.2.2
  rw [recognizedName, hdecode]
  rfl

theorem mem_listedAssetMints (h : PassesOf client programAccounts recognized unrecognized)
    {key : PublicKey} :
    key ∈ listedAssetMints client programAccounts ↔ key ∈ assetMintsOf recognized := by
  rw [listedAssetMints, assetMintsOf, List.mem_filterMap, List.mem_filterMap]
  constructor
  · rintro ⟨values, hvalues, hkey⟩
    obtain ⟨programAccount, hmem, hdecode⟩ := mem_valuesOfType.1 hvalues
    rcases h.all programAccount hmem with ⟨account, haccount, hrecognized⟩ | ⟨account, _, hother⟩
    · have hsame := hrecognized.2.2.2.2
      rw [hdecode] at hsame
      obtain ⟨hname, hvaluesSame⟩ := DecodedChanceryAccount.mk.inj (Except.ok.inj hsame)
      rw [hvaluesSame] at hkey
      exact ⟨account, List.mem_filter.2 ⟨haccount, decide_eq_true hname.symm⟩, hkey⟩
    · have hnone := hother.2.2
      rw [hdecode] at hnone
      cases hnone
  · rintro ⟨account, haccount, hkey⟩
    obtain ⟨hmem, hname⟩ := List.mem_filter.1 haccount
    obtain ⟨programAccount, hprogram, hrecognized⟩ := h.ofRecognized account hmem
    refine ⟨account.values, mem_valuesOfType.2 ⟨programAccount, hprogram, ?_⟩, hkey⟩
    rw [← of_decide_eq_true hname]
    exact hrecognized.2.2.2.2

theorem ordersAgree_iff (h : PassesOf client programAccounts recognized unrecognized) :
    OrdersAgree client programAccounts ↔ OrderedParts recognized unrecognized := by
  constructor
  · intro hagree
    refine ⟨fun left hleft right hright hname => ?_, fun left hleft right hright => ?_, ?_⟩
    · obtain ⟨leftProgram, hleftMem, hleftAs⟩ := h.ofRecognized left hleft
      obtain ⟨rightProgram, hrightMem, hrightAs⟩ := h.ofRecognized right hright
      rw [hleftAs.1, hrightAs.1]
      refine hagree.addresses leftProgram hleftMem rightProgram hrightMem ?_
      rw [recognizedName_inl hleftAs, recognizedName_inl hrightAs, hname]
    · obtain ⟨leftProgram, hleftMem, hleftAs⟩ := h.ofUnrecognized left hleft
      obtain ⟨rightProgram, hrightMem, hrightAs⟩ := h.ofUnrecognized right hright
      rw [hleftAs.1, hrightAs.1]
      refine hagree.addresses leftProgram hleftMem rightProgram hrightMem ?_
      rw [recognizedName_inr hleftAs, recognizedName_inr hrightAs]
    · intro left hleft right hright
      exact hagree.assetMints left ((mem_listedAssetMints h).2 hleft) right
        ((mem_listedAssetMints h).2 hright)
  · intro hordered
    refine ⟨fun left hleft right hright hname => ?_, fun left hleft right hright => ?_⟩
    · rcases h.all left hleft with ⟨account, haccount, has⟩ | ⟨account, haccount, has⟩ <;>
        rcases h.all right hright with ⟨other, hother, hotherAs⟩ | ⟨other, hother, hotherAs⟩
      · rw [recognizedName_inl has, recognizedName_inl hotherAs] at hname
        rw [← has.1, ← hotherAs.1]
        exact hordered.named account haccount other hother (Option.some.inj hname)
      · rw [recognizedName_inl has, recognizedName_inr hotherAs] at hname
        cases hname
      · rw [recognizedName_inr has, recognizedName_inl hotherAs] at hname
        cases hname
      · rw [← has.1, ← hotherAs.1]
        exact hordered.unnamed account haccount other hother
    · exact hordered.assetMints left ((mem_listedAssetMints h).1 hleft) right
        ((mem_listedAssetMints h).1 hright)

/-! ## Agreement -/

theorem assetMints_eq {accounts : List DiscoveredChanceryAccount}
    {assets : List ChanceryAssetInventory}
    (h : List.Forall₂ (fun account asset =>
      requirePublicKeyField account.values "asset_mint" = .ok asset.assetMint)
        (accounts.filter (·.name = "AssetConfig")) assets) :
    assets.map (·.assetMint) = assetMintsOf accounts := by
  unfold assetMintsOf
  generalize accounts.filter (·.name = "AssetConfig") = configs at h ⊢
  induction h with
  | nil => rfl
  | cons hhead _ ih =>
    rw [List.map_cons, ih, List.filterMap_cons, hhead]
    rfl

theorem OrderedParts.inventories_alike {accounts : List DiscoveredChanceryAccount}
    (h : OrderedParts accounts unrecognized) {inventories : Inventories client accounts}
    (hpathways : List.Forall₂ (fun account pathway => pathway.address = account.address)
      (accounts.filter (·.name = "PathwayPolicy")) inventories.pathways)
    (hassets : ∀ pathways, List.Forall₂ (fun account asset =>
      requirePublicKeyField account.values "asset_mint" = .ok asset.assetMint)
        (accounts.filter (·.name = "AssetConfig")) (inventories.assets pathways))
    (accountCount : Nat) (unrecognized : List UnrecognizedChanceryAccount) :
    inventories.discovery .python accountCount unrecognized =
      inventories.discovery .typescript accountCount unrecognized := by
  have hpathway : ∀ pathway ∈ inventories.pathways, ∃ account ∈ accounts,
      account.name = "PathwayPolicy" ∧ pathway.address = account.address := by
    intro pathway hpathway
    obtain ⟨account, haccount, haddress⟩ := forall₂_exists_left hpathways pathway hpathway
    obtain ⟨hmem, hname⟩ := List.mem_filter.1 haccount
    exact ⟨account, hmem, of_decide_eq_true hname, haddress⟩
  have hsorted : sortByAddress .python (·.address) inventories.pathways =
      sortByAddress .typescript (·.address) inventories.pathways := by
    refine sort_of_orderedAlike fun left hleft right hright => ?_
    obtain ⟨account, haccount, hname, haddress⟩ := hpathway left hleft
    obtain ⟨other, hother, hotherName, hotherAddress⟩ := hpathway right hright
    rw [haddress, hotherAddress]
    exact h.named account haccount other hother (hname.trans hotherName.symm)
  have hmints : ∀ pathways, ∀ asset ∈ inventories.assets pathways,
      asset.assetMint ∈ assetMintsOf accounts := by
    intro pathways asset hasset
    rw [← assetMints_eq (hassets pathways)]
    exact List.mem_map_of_mem hasset
  have hassetsSorted : ∀ pathways,
      sortByAddress .python (·.assetMint) (inventories.assets pathways) =
        sortByAddress .typescript (·.assetMint) (inventories.assets pathways) := fun pathways =>
    sort_of_orderedAlike fun left hleft right hright =>
      h.assetMints _ (hmints pathways left hleft) _ (hmints pathways right hright)
  unfold Inventories.discovery
  dsimp only
  rw [hsorted, hassetsSorted]

theorem assetMintsOf_perm {accounts accounts' : List DiscoveredChanceryAccount}
    (h : accounts.Perm accounts') : (assetMintsOf accounts).Perm (assetMintsOf accounts') :=
  (h.filter _).filterMap _

theorem OrderedParts.perm {accounts accounts' : List DiscoveredChanceryAccount}
    (hperm : accounts.Perm accounts') (h : OrderedParts accounts unrecognized) :
    OrderedParts accounts' unrecognized where
  named left hleft right hright :=
    h.named left (hperm.mem_iff.2 hleft) right (hperm.mem_iff.2 hright)
  unnamed := h.unnamed
  assetMints left hleft right hright := h.assetMints left
    ((assetMintsOf_perm hperm).mem_iff.2 hleft) right ((assetMintsOf_perm hperm).mem_iff.2 hright)

/-- Python's discovery is TypeScript's when the orders agree. -/
theorem discover_of_ordered
    (hnames : client.deployment.knownPdas.map Prod.fst = knownPdaSeeds.map Prod.fst)
    (hpasses : passes (client.withLanguage .typescript) programAccounts =
      .ok (recognized, unrecognized))
    (hordered : OrderedParts recognized unrecognized) {discovery : ChanceryStateDiscovery}
    (h : discover (client.withLanguage .typescript) programAccounts = .ok discovery) :
    discover (client.withLanguage .python) programAccounts =
      .ok (Language.python.discovery discovery) := by
  have hdecoded := (passesOf hpasses).decoded
  rw [discover_of_passes hpasses] at h ⊢
  have hlinkable := linkable_of_discoveryOf (sortRecognized_decoded hdecoded .typescript) h
  obtain ⟨inventories, hpathways, hassets, hresult⟩ := discoveryOf_eq hnames
    (sortRecognized_decoded hdecoded .typescript) hlinkable
  have hperm : recognized.Perm (sortRecognized .typescript recognized) :=
    (StableSort.sortBy_perm _ recognized).symm
  have halike := (hordered.perm hperm).inventories_alike hpathways hassets programAccounts.length
    (sortByAddress .typescript (·.address) unrecognized)
  rw [hresult .typescript, language_discovery_typescript] at h
  rw [sortRecognized_eq hdecoded hordered.named, sort_of_orderedAlike hordered.unnamed,
    hresult .python, halike, Except.ok.inj h]

/-- Sorted assets show their mints in the same order. -/
theorem sortedMints_of_assets {assets assets' : List ChanceryAssetInventory}
    {mints mints' : List PublicKey} (h : assets.map (·.assetMint) = mints)
    (h' : assets'.map (·.assetMint) = mints')
    (hsame : (sortByAddress .python (·.assetMint) assets).map Language.python.asset =
      (sortByAddress .typescript (·.assetMint) assets').map Language.python.asset) :
    (sortByAddress .python id mints).map id = (sortByAddress .typescript id mints').map id := by
  have hkeys := congrArg (List.map ChanceryAssetInventory.assetMint) hsame
  have hmint : ChanceryAssetInventory.assetMint ∘ Language.python.asset =
      ChanceryAssetInventory.assetMint := rfl
  have hmap : ∀ (L : Language) (assets : List ChanceryAssetInventory),
      sortByAddress L id (assets.map (·.assetMint)) =
        (sortByAddress L (·.assetMint) assets).map (·.assetMint) := fun L assets =>
    sortByAddress_map L (fun _ => rfl) assets
  rw [List.map_map, List.map_map, hmint] at hkeys
  rw [List.map_id, List.map_id, ← h, ← h', hmap, hmap]
  exact hkeys

/-- Where Python's discovery is TypeScript's, the orders agree. -/
theorem ordered_of_discover
    (hnames : client.deployment.knownPdas.map Prod.fst = knownPdaSeeds.map Prod.fst)
    (hpasses : passes (client.withLanguage .typescript) programAccounts =
      .ok (recognized, unrecognized)) {discovery : ChanceryStateDiscovery}
    (h : discover (client.withLanguage .typescript) programAccounts = .ok discovery)
    (hpython : discover (client.withLanguage .python) programAccounts =
      .ok (Language.python.discovery discovery)) : OrderedParts recognized unrecognized := by
  have hdecoded := (passesOf hpasses).decoded
  rw [discover_of_passes hpasses] at h hpython
  have hlinkable := linkable_of_discoveryOf (sortRecognized_decoded hdecoded .typescript) h
  have hlinkablePython := linkable_of_discoveryOf (sortRecognized_decoded hdecoded .python) hpython
  obtain ⟨inventories, _, hassets, hresult⟩ := discoveryOf_eq hnames
    (sortRecognized_decoded hdecoded .typescript) hlinkable
  obtain ⟨inventories', _, hassets', hresult'⟩ := discoveryOf_eq hnames
    (sortRecognized_decoded hdecoded .python) hlinkablePython
  rw [hresult .typescript, language_discovery_typescript] at h
  rw [hresult' .python, ← Except.ok.inj h] at hpython
  have hsame := Except.ok.inj hpython
  have hrecognized : (sortRecognized .python recognized).map Language.python.account =
      (sortRecognized .typescript recognized).map Language.python.account :=
    congrArg ChanceryStateDiscovery.recognizedAccounts hsame
  have hunrecognized : sortByAddress .python (·.address) unrecognized =
      sortByAddress .typescript (·.address) unrecognized :=
    congrArg ChanceryStateDiscovery.unrecognizedAccounts hsame
  have hnamed := (sortRecognized_alike hdecoded).1 (by
    have hkeys := congrArg (List.map accountKey) hrecognized
    rwa [List.map_map, List.map_map] at hkeys)
  have hassetsSame : (sortByAddress .python (·.assetMint) (inventories'.assets
        (sortByAddress .python (·.address) inventories'.pathways))).map Language.python.asset =
      (sortByAddress .typescript (·.assetMint) (inventories.assets
        (sortByAddress .typescript (·.address) inventories.pathways))).map Language.python.asset :=
    congrArg ChanceryStateDiscovery.assets hsame
  have hmints := sortedMints_of_assets (assetMints_eq (hassets' _)) (assetMints_eq (hassets _))
    hassetsSame
  rw [sortRecognized_eq hdecoded hnamed] at hmints
  have hperm : (sortRecognized .typescript recognized).Perm recognized :=
    StableSort.sortBy_perm _ recognized
  exact {
    named := hnamed
    unnamed := orderedAlike_of_sort (congrArg (List.map (·.address)) hunrecognized)
    assetMints := fun left hleft right hright => orderedAlike_of_sort hmints left
      ((assetMintsOf_perm hperm).mem_iff.2 hleft) right
      ((assetMintsOf_perm hperm).mem_iff.2 hright) }

theorem deriveKnownPdas_names {sha256 : Sha256} {programAddress : PublicKey} :
    ∀ {seeds : List (String × String)} {knownPdas : List (String × PublicKey)},
      deriveKnownPdas sha256 programAddress seeds = .ok knownPdas →
        knownPdas.map Prod.fst = seeds.map Prod.fst
  | [], _, h => by
    cases h
    rfl
  | (name, seedText) :: seeds, _, h => by
    obtain ⟨derived, _, h⟩ := Except.bind_eq_ok.1 h
    obtain ⟨rest, hrest, hret⟩ := Except.bind_eq_ok.1 h
    cases hret
    rw [List.map_cons, List.map_cons, deriveKnownPdas_names hrest]

theorem loadSchema_names {sha256 : Sha256} {target : ChanceryTarget} {deployment : Deployment}
    (h : loadSchema sha256 target = .ok deployment) :
    deployment.knownPdas.map Prod.fst = knownPdaSeeds.map Prod.fst := by
  unfold loadSchema at h
  split at h
  · cases h
    rfl
  · obtain ⟨knownPdas, hknown, hret⟩ := Except.bind_eq_ok.1 h
    cases hret
    exact deriveKnownPdas_names hknown

/-- **Both discoveries fail or neither does, and they are the same exactly when the orders
agree.** -/
theorem discoveries_agree_iff (client : ChanceryClient) {target : ChanceryTarget}
    (hdeployment : loadSchema client.sha256 target = .ok client.deployment)
    {node : (request : RpcRequest) → request.Answer}
    {programAccounts : List RpcAddressAccountInfo}
    (hlisted : node (.getProgramAccounts client.deployment.programAddress [] client.commitment) =
      .ok programAccounts) :
    (((discoverChanceryState (client.withLanguage .typescript)).run node).toOption = none ↔
      ((discoverChanceryState (client.withLanguage .python)).run node).toOption = none) ∧
    ∀ discovery, (discoverChanceryState (client.withLanguage .typescript)).run node =
        .ok discovery →
      ((discoverChanceryState (client.withLanguage .python)).run node =
        .ok (Language.python.discovery discovery) ↔ OrdersAgree client programAccounts) := by
  have hnames := loadSchema_names hdeployment
  have hrun : ∀ L, (discoverChanceryState (client.withLanguage L)).run node =
      discover (client.withLanguage L) programAccounts := fun L =>
    run_discoverChanceryState hlisted
  have hfails : ∀ {L L' : Language},
      (discover (client.withLanguage L) programAccounts).toOption = none →
        (discover (client.withLanguage L') programAccounts).toOption = none := by
    intro L L' hnone
    cases hother : discover (client.withLanguage L') programAccounts with
    | error message => rfl
    | ok discovery =>
      obtain ⟨discovery', hdiscovery'⟩ := discover_defined hnames hother L
      rw [hdiscovery'] at hnone
      cases hnone
  rw [hrun, hrun]
  refine ⟨⟨hfails, hfails⟩, fun discovery h => ?_⟩
  obtain ⟨recognized, unrecognized, hpasses⟩ := passes_of_discover h
  rw [ordersAgree_iff (passesOf hpasses)]
  exact ⟨ordered_of_discover hnames hpasses h, fun hordered =>
    discover_of_ordered hnames hpasses hordered h⟩

end

namespace Sample

/-- A fee policy at its derived address. -/
def listedFeePolicy (identifier : UInt8) (address : PublicKey) : RpcAddressAccountInfo :=
  ⟨address, state "FeePolicy" [("fee_policy_id", .bytes (key identifier).bytes)]⟩

/-- At an address that starts with `HpeSsE`. -/
def upperCasePolicy : RpcAddressAccountInfo := listedFeePolicy 1 (address
    [249, 239, 161, 15, 17, 228, 25, 234, 235, 41, 116, 143, 147, 66, 163, 188, 80, 197, 106, 57,
     153, 131, 178, 59, 183, 114, 18, 121, 150, 11, 214, 130])

/-- At an address that starts with `cc3ohy`. -/
def lowerCasePolicy : RpcAddressAccountInfo := listedFeePolicy 28 (address
    [9, 30, 245, 39, 102, 184, 120, 238, 130, 173, 59, 144, 36, 88, 8, 112, 207, 246, 114, 154,
     195, 28, 198, 53, 67, 130, 230, 97, 232, 253, 141, 7])

/-- At an address that starts with `reUqSh`. -/
def laterPolicy : RpcAddressAccountInfo := listedFeePolicy 75 (address
    [12, 183, 214, 156, 80, 71, 111, 51, 141, 107, 253, 191, 29, 109, 186, 16, 247, 34, 111, 176,
     113, 69, 99, 203, 246, 18, 228, 86, 215, 82, 29, 25])

end Sample

/-- Two fee policies whose addresses both languages order alike. -/
theorem discoveries_agree_iff_feePolicies :
    ∃ discovery, (discoverChanceryState ((Sample.client .typescript).withLanguage .typescript)).run
        (Sample.listing [Sample.laterPolicy, Sample.upperCasePolicy]) = .ok discovery ∧
      (discoverChanceryState ((Sample.client .typescript).withLanguage .python)).run
        (Sample.listing [Sample.laterPolicy, Sample.upperCasePolicy]) =
          .ok (Language.python.discovery discovery) := by
  have hrun : ((discoverChanceryState ((Sample.client .typescript).withLanguage .typescript)).run
      (Sample.listing [Sample.laterPolicy, Sample.upperCasePolicy])).toBool = true := by
    decide +kernel
  obtain ⟨discovery, hdiscovery⟩ := Except.exists_of_toBool hrun
  have hlisted : Sample.listing [Sample.laterPolicy, Sample.upperCasePolicy] (.getProgramAccounts
      (Sample.client .typescript).deployment.programAddress []
      (Sample.client .typescript).commitment) =
        .ok [Sample.laterPolicy, Sample.upperCasePolicy] := rfl
  have hdeployment : loadSchema platformSha256 .mainnet = .ok mainnetDeployment := rfl
  have hagree : OrdersAgree (Sample.client .typescript)
      [Sample.laterPolicy, Sample.upperCasePolicy] :=
    ⟨by decide +kernel, by decide +kernel⟩
  exact ⟨discovery, hdiscovery, ((discoveries_agree_iff (Sample.client .typescript) hdeployment
    hlisted).2 discovery hdiscovery).2 hagree⟩

/-- **The languages list two fee policies in opposite orders.** -/
theorem localeOrder_differs :
    ((discoverChanceryState ((Sample.client .typescript).withLanguage .typescript)).run
        (Sample.listing [Sample.upperCasePolicy, Sample.lowerCasePolicy])).toOption.map
          (fun discovery => discovery.recognizedAccounts.map (·.address)) =
        some [Sample.lowerCasePolicy.address, Sample.upperCasePolicy.address] ∧
      ((discoverChanceryState ((Sample.client .typescript).withLanguage .python)).run
        (Sample.listing [Sample.upperCasePolicy, Sample.lowerCasePolicy])).toOption.map
          (fun discovery => discovery.recognizedAccounts.map (·.address)) =
        some [Sample.upperCasePolicy.address, Sample.lowerCasePolicy.address] ∧
      Sample.lowerCasePolicy.address ≠ Sample.upperCasePolicy.address := by
  decide +kernel

end Chancery
