import Chancery.DiscoveryLaws

/-!
# Discovery in both languages

Apart from the sorts, both languages do the same with the accounts: each reads its own values of
a decoded account, and every read of a decoded account succeeds.

* `Language.account`, …, `Language.discovery` — what a language holds where TypeScript holds this.
* `passes` — both passes before the sorts; `passes_language`.
* `buildPathwayInventory_language`, `buildAssetInventory_language` — an inventory of decoded
  accounts succeeds, with the same result in both languages.
-/

set_option autoImplicit false

namespace Chancery

/-- Computations that go on from one result. -/
theorem Except.bind_map_right {ε α β β' : Type} {x : Except ε α} {f : α → Except ε β}
    {f' : α → Except ε β'} {m : β → β'} (h : ∀ a, x = .ok a → f' a = (f a).map m) :
    x >>= f' = (x >>= f).map m := by
  cases x with
  | error e => rfl
  | ok a => exact h a rfl

/-! ## What each language holds -/

section

variable (L : Language)

/-- An account as a language holds it. -/
def Language.account (account : DiscoveredChanceryAccount) : DiscoveredChanceryAccount :=
  { account with values := L.values account.values }

/-- A pathway as a language holds it. -/
def Language.pathway (pathway : ChanceryPathwayInventory) : ChanceryPathwayInventory :=
  { pathway with
    feePolicy := pathway.feePolicy.map L.account
    pathwayLimitPolicy := pathway.pathwayLimitPolicy.map L.account
    assetMintLimitPolicy := pathway.assetMintLimitPolicy.map L.account
    assetRedeemLimitPolicy := pathway.assetRedeemLimitPolicy.map L.account
    counterpartyLimitPolicy := pathway.counterpartyLimitPolicy.map L.account
    executorLimitPolicy := pathway.executorLimitPolicy.map L.account
    evidencePolicy := pathway.evidencePolicy.map L.account
    reserveDestinations := pathway.reserveDestinations.map L.account }

/-- An asset as a language holds it. -/
def Language.asset (asset : ChanceryAssetInventory) : ChanceryAssetInventory :=
  { asset with
    assetConfig := L.account asset.assetConfig
    assetPauseState := asset.assetPauseState.map L.account
    pathways := asset.pathways.map L.pathway
    reserveDestinations := asset.reserveDestinations.map L.account }

/-- The groups as a language holds them. -/
def Language.grouped (grouped : AccountsByType) : AccountsByType :=
  grouped.map fun entry => (entry.1, entry.2.map L.account)

/-- A discovery as a language holds it. -/
def Language.discovery (discovery : ChanceryStateDiscovery) : ChanceryStateDiscovery :=
  { discovery with
    recognizedAccounts := discovery.recognizedAccounts.map L.account
    accountsByType := L.grouped discovery.accountsByType
    chanceryConfig := discovery.chanceryConfig.map L.account
    issuedTokenControl := discovery.issuedTokenControl.map L.account
    assets := discovery.assets.map L.asset
    pathways := discovery.pathways.map L.pathway }

/-- An index as a language holds it. -/
def Language.index (index : PolicyIndex) : PolicyIndex :=
  index.map fun entry => (entry.1, L.account entry.2)

end

theorem accounts_typescript (accounts : List DiscoveredChanceryAccount) :
    accounts.map Language.typescript.account = accounts :=
  List.map_id accounts

/-- An account as TypeScript decodes it. -/
def Decoded (account : DiscoveredChanceryAccount) : Prop :=
  DecodedAs .typescript account.name account.values

/-- Decoded accounts of one type. -/
def DecodedAll (accountName : String) (accounts : List DiscoveredChanceryAccount) : Prop :=
  ∀ account ∈ accounts, account.name = accountName ∧ Decoded account

theorem decodedAs_name {L : Language} {accountName : String} {values : StructValues}
    (h : DecodedAs L accountName values) : accountName ∈ accountSchemas.map Prod.fst := by
  obtain ⟨data, hdata⟩ := h
  obtain ⟨entry, hentry, h⟩ := Except.bind_eq_ok.1 hdata
  dsimp only at h
  split at h
  · cases h
  · obtain ⟨reader, _, h⟩ := Except.bind_eq_ok.1 h
    obtain ⟨result, _, h⟩ := Except.bind_eq_ok.1 h
    split at h
    · cases h
    · cases h
      exact List.mem_map.2 ⟨entry, (findAccountSchema_ok hentry).1, rfl⟩

section

variable {client : ChanceryClient}

/-! ## Canonical addresses -/

theorem isU8_eq {type : TypeSchema} (h : type.isU8 = true) : type = .primitive .u8 := by
  unfold TypeSchema.isU8 at h
  split at h
  · rfl
  · cases h

/-- Every account keeps the bump of its address. -/
theorem fieldType_bump {accountName : String} (h : accountName ∈ accountSchemas.map Prod.fst) :
    fieldType accountName "bump" = some (.primitive .u8) := by
  have hall : ∀ accountName ∈ accountSchemas.map Prod.fst,
      (fieldType accountName "bump").any (·.isU8) = true := by decide
  obtain ⟨type, htype, hu8⟩ := Option.any_eq_true _ _ |>.1 (hall accountName h)
  rw [htype, isU8_eq hu8]

theorem storedBumpValue_language {accountName : String} {values : StructValues}
    (h : DecodedAs .typescript accountName values) (L : Language) :
    storedBumpValue L (L.values values) = storedBumpValue .typescript values := by
  obtain ⟨v, reader, rest, label, hlookup, hdecode⟩ :=
    decodedAs_field h (fieldType_bump (decodedAs_name h))
  rw [decodeTypeWith] at hdecode
  obtain ⟨⟨n, reader'⟩, _, hv⟩ := Except.bind_eq_ok.1 hdecode
  cases hv
  rw [typescript_integer_narrow 1 (by decide)] at hlookup
  have hvalues := lookup_values L hlookup
  cases L
  · rfl
  · simp only [storedBumpValue, hlookup, hvalues, asPython]

theorem deriveRemoteNonceAddress_language (L : Language) {scopeKey : Bytes}
    (h : scopeKey.length = 32) (remoteChainKind remoteDomainId : Int) :
    Named.deriveRemoteNonceAddress (client.withLanguage L) remoteChainKind remoteDomainId scopeKey =
      Named.deriveRemoteNonceAddress (client.withLanguage .typescript) remoteChainKind
        remoteDomainId scopeKey := by
  unfold Named.deriveRemoteNonceAddress
  rw [bytes32FromInput_bytes h, bytes32FromInput_bytes h]
  rfl

theorem remoteNonceCandidates_language (L : Language) {actualAddress : PublicKey}
    {remoteDomainId : Int} {scopeKey : Bytes} (hscope : scopeKey.length = 32) :
    ∀ {policies : List DiscoveredChanceryAccount} {candidates : List NamedProgramAddress},
      DecodedAll "RemoteDomainPolicy" policies →
        remoteNonceCandidates (client.withLanguage L) actualAddress remoteDomainId scopeKey
            (policies.map L.account) candidates =
          remoteNonceCandidates (client.withLanguage .typescript) actualAddress remoteDomainId
            scopeKey policies candidates
  | [], _, _ => rfl
  | policy :: policies, candidates, h => by
    obtain ⟨hname, hdecoded⟩ := h policy List.mem_cons_self
    have hrest : DecodedAll "RemoteDomainPolicy" policies :=
      fun other hother => h other (List.mem_cons_of_mem policy hother)
    rw [Decoded, hname] at hdecoded
    obtain ⟨policyDomainId, _, hdomain⟩ := read_unsigned "remote_domain_id" hdecoded rfl
    obtain ⟨remoteChainKind, _, hkind⟩ := read_number "remote_chain_kind" hdecoded rfl rfl
    rw [List.map_cons, remoteNonceCandidates, remoteNonceCandidates]
    refine bind_read (hdomain L) (hdomain .typescript) ?_
    split
    · exact remoteNonceCandidates_language L hscope hrest
    · refine bind_read (hkind L) (hkind .typescript) ?_
      rw [deriveRemoteNonceAddress_language L hscope]
      refine Except.bind_congr fun candidate _ => ?_
      split
      · rfl
      · exact remoteNonceCandidates_language L hscope hrest

theorem observeCanonicalPda_language {accountName : String} {values : StructValues}
    (h : DecodedAs .typescript accountName values) {policies : List DiscoveredChanceryAccount}
    (hpolicies : DecodedAll "RemoteDomainPolicy" policies) (L : Language)
    (actualAddress : PublicKey) :
    observeCanonicalPda (client.withLanguage L) actualAddress accountName (L.values values)
        (policies.map L.account) =
      observeCanonicalPda (client.withLanguage .typescript) actualAddress accountName values
        policies := by
  have hbump : storedBumpValue (client.withLanguage L).language (L.values values) =
      storedBumpValue (client.withLanguage .typescript).language values :=
    storedBumpValue_language h L
  unfold observeCanonicalPda
  rw [hbump]
  by_cases hname : accountName = "RemoteNonce"
  · subst hname
    obtain ⟨remoteDomainId, _, hdomain⟩ := read_unsigned "remote_domain_id" h rfl
    obtain ⟨scopeKey, hlength, hscope⟩ := read_bytes "scope_key" h rfl
    have hderive : deriveRemoteNonceCanonicalPda (client.withLanguage L) actualAddress
        (L.values values) (policies.map L.account) = deriveRemoteNonceCanonicalPda
          (client.withLanguage .typescript) actualAddress values policies := by
      refine bind_read (hdomain L) (hdomain .typescript) ?_
      refine bind_read (hscope L _) (hscope .typescript _) ?_
      exact remoteNonceCandidates_language L hlength hpolicies
    rw [if_pos rfl, if_pos rfl, hderive]
  · rw [if_neg hname, if_neg hname, deriveCanonicalPda_language h L]

/-! ## Both passes -/

def Language.outcome (L : Language) :
    DiscoveredChanceryAccount ⊕ UnrecognizedChanceryAccount →
      DiscoveredChanceryAccount ⊕ UnrecognizedChanceryAccount :=
  Sum.map L.account id

theorem decodeAccount_language (L : Language) (data : Bytes) :
    decodeAccountWith L.dialect data = (decodeAccountWith typescript data).map fun decoded =>
      ⟨decoded.name, L.values decoded.values⟩ := by
  cases L with
  | typescript =>
    show decodeAccountWith typescript data = _
    cases decodeAccountWith typescript data <;> rfl
  | python => exact decodeAccount_python data

theorem recognizeAccount_language (L : Language) (programAccount : RpcAddressAccountInfo) :
    recognizeAccount (client.withLanguage L) programAccount =
      (recognizeAccount (client.withLanguage .typescript) programAccount).map L.outcome := by
  have hdecode : decodeAccountWith (client.withLanguage L).language.dialect
      programAccount.account.data = _ := decodeAccount_language L programAccount.account.data
  have htypescript : decodeAccountWith (client.withLanguage .typescript).language.dialect
      programAccount.account.data = decodeAccountWith typescript programAccount.account.data := rfl
  unfold recognizeAccount
  dsimp only
  rw [hdecode, htypescript]
  refine Except.bind_map_right fun _ _ => ?_
  cases hdecoded : decodeAccountWith typescript programAccount.account.data with
  | error message =>
    dsimp only [Except.map]
    split <;> rfl
  | ok decoded =>
    have hobserve : observeCanonicalPda (client.withLanguage L) programAccount.address
        decoded.name (L.values decoded.values) [] = observeCanonicalPda
          (client.withLanguage .typescript) programAccount.address decoded.name decoded.values [] :=
      observeCanonicalPda_language ⟨programAccount.account.data, hdecoded⟩
        (fun _ h => absurd h List.not_mem_nil) L programAccount.address
    dsimp only [Except.map]
    rw [hobserve]
    exact Except.bind_map_right fun _ _ => rfl

/-- The second pass looks at a nonce and the policies alike. -/
theorem resolveRemoteNonce_language {policies : List DiscoveredChanceryAccount}
    (hpolicies : DecodedAll "RemoteDomainPolicy" policies) {account : DiscoveredChanceryAccount}
    (haccount : Decoded account) (L : Language) :
    resolveRemoteNonce (client.withLanguage L) (policies.map L.account) (L.account account) =
      (resolveRemoteNonce (client.withLanguage .typescript) policies account).map L.account := by
  unfold resolveRemoteNonce
  by_cases hname : account.name ≠ "RemoteNonce"
  · rw [if_pos hname]
    exact if_pos hname
  · rw [if_neg hname]
    refine (if_neg hname).trans ?_
    have hobserve : observeCanonicalPda (client.withLanguage L) account.address account.name
        (L.values account.values) (policies.map L.account) = observeCanonicalPda
          (client.withLanguage .typescript) account.address account.name account.values policies :=
      observeCanonicalPda_language haccount hpolicies L account.address
    show (observeCanonicalPda (client.withLanguage L) account.address account.name
      (L.values account.values) (policies.map L.account) >>= _) = _
    rw [hobserve]
    exact Except.bind_map_right fun _ _ => rfl

/-- Both passes, before the sorts. -/
def passes (client : ChanceryClient) (programAccounts : List RpcAddressAccountInfo) :
    Except String (List DiscoveredChanceryAccount × List UnrecognizedChanceryAccount) := do
  let outcomes ← programAccounts.mapM (recognizeAccount client)
  let recognizedAccounts := outcomes.filterMap Sum.getLeft?
  let resolved ← recognizedAccounts.mapM (resolveRemoteNonce client
    (recognizedAccounts.filter fun account => account.name = "RemoteDomainPolicy"))
  return (resolved, outcomes.filterMap Sum.getRight?)

/-- The accounts of both passes, in the order of a language. -/
def sortPasses (L : Language)
    (accounts : List DiscoveredChanceryAccount × List UnrecognizedChanceryAccount) :
    List DiscoveredChanceryAccount × List UnrecognizedChanceryAccount :=
  (StableSort.sortBy (compareDiscoveredAccounts L) accounts.1,
    StableSort.sortBy (fun left right =>
      compareTexts L left.address.toBase58 right.address.toBase58) accounts.2)

theorem recognizedAndUnrecognized_eq (programAccounts : List RpcAddressAccountInfo) :
    recognizedAndUnrecognized client programAccounts =
      (passes client programAccounts).map (sortPasses client.language) := by
  refine Except.bind_map_right fun outcomes _ => ?_
  exact Except.bind_map_right fun resolved _ => rfl

theorem filterMap_getLeft_outcome (L : Language) : ∀ outcomes :
    List (DiscoveredChanceryAccount ⊕ UnrecognizedChanceryAccount),
    (outcomes.map L.outcome).filterMap Sum.getLeft? =
      (outcomes.filterMap Sum.getLeft?).map L.account
  | [] => rfl
  | .inl account :: outcomes => by
    show L.account account :: (outcomes.map L.outcome).filterMap Sum.getLeft? = _
    rw [filterMap_getLeft_outcome L outcomes]
    rfl
  | .inr _ :: outcomes => filterMap_getLeft_outcome L outcomes

theorem filterMap_getRight_outcome (L : Language) : ∀ outcomes :
    List (DiscoveredChanceryAccount ⊕ UnrecognizedChanceryAccount),
    (outcomes.map L.outcome).filterMap Sum.getRight? = outcomes.filterMap Sum.getRight?
  | [] => rfl
  | .inl _ :: outcomes => filterMap_getRight_outcome L outcomes
  | .inr account :: outcomes => by
    show account :: (outcomes.map L.outcome).filterMap Sum.getRight? = _
    rw [filterMap_getRight_outcome L outcomes]
    rfl

/-- What the first pass recognizes was decoded. -/
theorem decoded_of_outcomes {programAccounts : List RpcAddressAccountInfo}
    {outcomes : List (DiscoveredChanceryAccount ⊕ UnrecognizedChanceryAccount)}
    (h : List.Forall₂ (RecognizedAs (client.withLanguage .typescript)) programAccounts outcomes)
    {account : DiscoveredChanceryAccount} (hmem : account ∈ outcomes.filterMap Sum.getLeft?) :
    Decoded account := by
  obtain ⟨outcome, houtcome, hleft⟩ := List.mem_filterMap.1 hmem
  obtain ⟨programAccount, _, hrecognized⟩ := forall₂_exists_left h outcome houtcome
  rw [Sum.getLeft?_eq_some_iff] at hleft
  subst hleft
  exact ⟨_, hrecognized.2.2.2.2⟩

/-- **Before the sorts both languages hold the same accounts**, or fail alike. -/
theorem passes_language (L : Language) (programAccounts : List RpcAddressAccountInfo) :
    passes (client.withLanguage L) programAccounts =
      (passes (client.withLanguage .typescript) programAccounts).map fun accounts =>
        (accounts.1.map L.account, accounts.2) := by
  have houtcomes : programAccounts.mapM (recognizeAccount (client.withLanguage L)) =
      (programAccounts.mapM (recognizeAccount (client.withLanguage .typescript))).map
        (List.map L.outcome) := by
    have hrecognize : ∀ programAccount ∈ programAccounts,
        recognizeAccount (client.withLanguage L) (id programAccount) =
          (recognizeAccount (client.withLanguage .typescript) programAccount).map L.outcome :=
      fun programAccount _ => recognizeAccount_language L programAccount
    have hmap := Except.mapM_map hrecognize
    rwa [List.map_id] at hmap
  refine Except.bind_map houtcomes fun outcomes hoks => ?_
  have hrecognized := (Except.mapM_eq_ok.1 hoks).imp fun _ _ => recognizeAccount_ok
  have hpolicies : DecodedAll "RemoteDomainPolicy" ((outcomes.filterMap Sum.getLeft?).filter
      fun account => account.name = "RemoteDomainPolicy") := by
    intro policy hpolicy
    obtain ⟨hmem, hname⟩ := List.mem_filter.1 hpolicy
    exact ⟨of_decide_eq_true hname, decoded_of_outcomes hrecognized hmem⟩
  dsimp only
  rw [filterMap_getLeft_outcome, filterMap_getRight_outcome, List.filter_map]
  refine Except.bind_map (Except.mapM_map fun account haccount => ?_) fun _ _ => rfl
  exact resolveRemoteNonce_language hpolicies (decoded_of_outcomes hrecognized haccount) L

/-! ## Groups and indexes -/

section

variable {L : Language}

theorem DecodedAll.tail {accountName : String} {account : DiscoveredChanceryAccount}
    {accounts : List DiscoveredChanceryAccount} (h : DecodedAll accountName (account :: accounts)) :
    DecodedAll accountName accounts :=
  fun other hother => h other (List.mem_cons_of_mem account hother)

theorem decodedAll_filter {accounts : List DiscoveredChanceryAccount}
    (h : ∀ account ∈ accounts, Decoded account) (accountName : String) :
    DecodedAll accountName (accounts.filter (·.name = accountName)) := by
  intro account haccount
  obtain ⟨hmem, hname⟩ := List.mem_filter.1 haccount
  exact ⟨of_decide_eq_true hname, h account hmem⟩

theorem groupAccounts_defined : ∀ {accounts : List DiscoveredChanceryAccount}
    {grouped : AccountsByType}, (∀ account ∈ accounts, account.name ∈ grouped.map Prod.fst) →
      ∃ result, groupAccounts grouped accounts = .ok result
  | [], grouped, _ => ⟨grouped, rfl⟩
  | account :: accounts, grouped, h => by
    have hnames : (pushEntry grouped account).map Prod.fst = grouped.map Prod.fst :=
      pushEntry_names grouped account
    rw [groupAccounts, if_pos (h account List.mem_cons_self)]
    refine groupAccounts_defined fun other hother => ?_
    rw [hnames]
    exact h other (List.mem_cons_of_mem account hother)

/-- Decoded accounts are of known types. -/
theorem groupAccountsByType_decoded {accounts : List DiscoveredChanceryAccount}
    (h : ∀ account ∈ accounts, Decoded account) (L : Language) :
    ∃ grouped, groupAccountsByType (accounts.map L.account) = .ok grouped := by
  refine groupAccounts_defined fun account haccount => ?_
  obtain ⟨original, horiginal, rfl⟩ := List.mem_map.1 haccount
  rw [List.map_map]
  refine List.mem_map.2 ⟨original.name, ?_, rfl⟩
  exact mem_sortedAccountNames.2 (decodedAs_name (h original horiginal))

theorem filter_account (L : Language) (accountName : String)
    (accounts : List DiscoveredChanceryAccount) :
    (accounts.map L.account).filter (·.name = accountName) =
      (accounts.filter (·.name = accountName)).map L.account := by
  rw [List.filter_map]
  rfl

theorem lookup_index_language (L : Language) (key : String) : ∀ index : PolicyIndex,
    (L.index index).lookup key = (index.lookup key).map L.account
  | [] => rfl
  | (other, account) :: index => by
    show ((other, L.account account) :: L.index index).lookup key = _
    by_cases hkey : key = other
    · subst hkey
      rw [List.lookup_cons_self, List.lookup_cons_self]
      rfl
    · rw [List.lookup_cons, List.lookup_cons, beq_false_of_ne hkey]
      exact lookup_index_language L key index

/-- Both languages index decoded accounts alike. -/
theorem extendIndex_language {accountName fieldName : String}
    (htype : fieldType accountName fieldName = some (.array (.primitive .u8) 32)) (L : Language) :
    ∀ {accounts : List DiscoveredChanceryAccount} {index : PolicyIndex},
      DecodedAll accountName accounts →
        extendIndex fieldName (L.index index) (accounts.map L.account) =
          (extendIndex fieldName index accounts).map L.index
  | [], _, _ => rfl
  | account :: accounts, index, h => by
    obtain ⟨hname, hdecoded⟩ := h account List.mem_cons_self
    rw [Decoded, hname] at hdecoded
    obtain ⟨bytes, _, hread⟩ := read_bytes fieldName hdecoded htype
    have hkey : ∀ L : Language, bytes32Hex ((L.account account).values.lookup fieldName)
        s!"{(L.account account).name}.{fieldName}" = .ok ("0x" ++ bytesToHex bytes) := by
      intro L
      exact Except.bind_of_ok (hread L _) _
    have hkeyTypescript : bytes32Hex (account.values.lookup fieldName)
        s!"{account.name}.{fieldName}" = .ok ("0x" ++ bytesToHex bytes) := hkey .typescript
    rw [List.map_cons, extendIndex, extendIndex, Except.bind_of_ok (hkey L),
      Except.bind_of_ok hkeyTypescript, lookup_index_language, Option.isSome_map]
    split
    · rfl
    · have happend : L.index index ++ [("0x" ++ bytesToHex bytes, L.account account)] =
          L.index (index ++ [("0x" ++ bytesToHex bytes, account)]) := by
        unfold Language.index
        rw [List.map_append]
        rfl
      rw [happend]
      exact extendIndex_language htype L h.tail

def Language.indexes (L : Language) (indexes : PolicyIndexes) : PolicyIndexes :=
  ⟨L.index indexes.fee, L.index indexes.limit, L.index indexes.evidence⟩

/-! ## Inventories -/

theorem filterByPublicKeyField_language (fieldName : String) {accountName : String}
    (htype : fieldType accountName fieldName = some (.primitive .pubkey)) (key : PublicKey) :
    ∀ {accounts : List DiscoveredChanceryAccount}, DecodedAll accountName accounts →
      ∃ kept : List DiscoveredChanceryAccount, ∀ L : Language,
        filterByPublicKeyField fieldName key (accounts.map L.account) = .ok (kept.map L.account)
  | [], _ => ⟨[], fun _ => rfl⟩
  | account :: accounts, h => by
    obtain ⟨hname, hdecoded⟩ := h account List.mem_cons_self
    rw [Decoded, hname] at hdecoded
    obtain ⟨other, hother⟩ := read_publicKey fieldName hdecoded htype
    obtain ⟨kept, hkept⟩ := filterByPublicKeyField_language fieldName htype key h.tail
    refine ⟨if other = key then account :: kept else kept, fun L => ?_⟩
    have hfield : requirePublicKeyField (L.account account).values fieldName = .ok other := hother L
    rw [List.map_cons, filterByPublicKeyField, Except.bind_of_ok hfield,
      Except.bind_of_ok (hkept L)]
    split <;> rfl

theorem findByPublicKeyField_language (fieldName : String) {accountName : String}
    (htype : fieldType accountName fieldName = some (.primitive .pubkey)) (key : PublicKey) :
    ∀ {accounts : List DiscoveredChanceryAccount}, DecodedAll accountName accounts →
      ∃ found : Option DiscoveredChanceryAccount, ∀ L : Language,
        findByPublicKeyField fieldName key (accounts.map L.account) = .ok (found.map L.account)
  | [], _ => ⟨none, fun _ => rfl⟩
  | account :: accounts, h => by
    obtain ⟨hname, hdecoded⟩ := h account List.mem_cons_self
    rw [Decoded, hname] at hdecoded
    obtain ⟨other, hother⟩ := read_publicKey fieldName hdecoded htype
    obtain ⟨found, hfound⟩ := findByPublicKeyField_language fieldName htype key h.tail
    refine ⟨if other = key then some account else found, fun L => ?_⟩
    have hfield : requirePublicKeyField (L.account account).values fieldName = .ok other := hother L
    rw [List.map_cons, findByPublicKeyField, Except.bind_of_ok hfield]
    split
    · rfl
    · exact hfound L

/-- What a link of an account goes to, with the identifier read. -/
def linkOf (index : PolicyIndex) (identifier : Bytes) : Option DiscoveredChanceryAccount :=
  if identifier.any (· != 0) then index.lookup ("0x" ++ bytesToHex identifier) else none

theorem linkedPolicy_language (fieldName : String) {accountName : String} {values : StructValues}
    (h : DecodedAs .typescript accountName values)
    (htype : fieldType accountName fieldName = some (.array (.primitive .u8) 32))
    (index : PolicyIndex) (label : String) :
    ∃ linked, ∀ L : Language, linkedPolicy (L.index index) ((L.values values).lookup fieldName)
      label = .ok (Option.map L.account linked) := by
  obtain ⟨bytes, _, hread⟩ := read_bytes fieldName h htype
  refine ⟨linkOf index bytes, fun L => ?_⟩
  rw [linkedPolicy, Except.bind_of_ok (hread L label), linkOf, lookup_index_language]
  split <;> rfl

theorem buildPathwayInventory_language (client : ChanceryClient) (indexes : PolicyIndexes)
    {destinations : List DiscoveredChanceryAccount}
    (hdestinations : DecodedAll "ReserveDestination" destinations)
    {account : DiscoveredChanceryAccount} (hname : account.name = "PathwayPolicy")
    (h : Decoded account) :
    ∃ pathway : ChanceryPathwayInventory, pathway.address = account.address ∧ ∀ L : Language,
      buildPathwayInventory (client.withLanguage L) (L.indexes indexes)
        (destinations.map L.account) (L.account account) = .ok (L.pathway pathway) := by
  rw [Decoded, hname] at h
  obtain ⟨assetMint, hmint⟩ := read_publicKey "asset_mint" h rfl
  obtain ⟨identifier, _, hidentifier⟩ := read_bytes "pathway_id" h rfl
  obtain ⟨pathwayKind, _, hkind⟩ := read_number "pathway_kind" h rfl rfl
  obtain ⟨issuedTokenMint, hissued⟩ := read_publicKey "issued_token_mint" h rfl
  obtain ⟨designatedExecutor, hexecutor⟩ := read_publicKey "designated_executor" h rfl
  obtain ⟨statusFlags, _, hflags⟩ := read_unsigned "status_flags" h rfl
  obtain ⟨feePolicy, hfee⟩ := linkedPolicy_language "fee_policy_id" h rfl indexes.fee "fee policy id"
  obtain ⟨pathwayLimit, hlimit⟩ := linkedPolicy_language "limit_policy_id" h rfl indexes.limit "limit policy id"
  obtain ⟨mintLimit, hmintLimit⟩ :=
    linkedPolicy_language "asset_mint_limit_policy_id" h rfl indexes.limit "asset mint limit policy id"
  obtain ⟨redeemLimit, hredeemLimit⟩ :=
    linkedPolicy_language "asset_redeem_limit_policy_id" h rfl indexes.limit "asset redeem limit policy id"
  obtain ⟨counterpartyLimit, hcounterparty⟩ :=
    linkedPolicy_language "counterparty_limit_policy_id" h rfl indexes.limit "counterparty limit policy id"
  obtain ⟨executorLimit, hexecutorLimit⟩ :=
    linkedPolicy_language "executor_limit_policy_id" h rfl indexes.limit "executor limit policy id"
  obtain ⟨evidencePolicy, hevidence⟩ :=
    linkedPolicy_language "evidence_policy_id" h rfl indexes.evidence "evidence policy id"
  obtain ⟨kept, hkept⟩ := filterByPublicKeyField_language "asset_mint" rfl assetMint hdestinations
  let pathway : ChanceryPathwayInventory := {
    address := account.address
    pathwayId := "0x" ++ bytesToHex identifier
    pathwayKind := pathwayKind
    assetMint, issuedTokenMint, designatedExecutor
    statusFlags := statusFlags
    feePolicy
    pathwayLimitPolicy := pathwayLimit
    assetMintLimitPolicy := mintLimit
    assetRedeemLimitPolicy := redeemLimit
    counterpartyLimitPolicy := counterpartyLimit
    executorLimitPolicy := executorLimit
    evidencePolicy
    reserveDestinations := kept }
  refine ⟨pathway, rfl, fun L => ?_⟩
  have hidentifierText : bytes32Hex ((L.values account.values).lookup "pathway_id") "pathway id" =
      .ok ("0x" ++ bytesToHex identifier) := Except.bind_of_ok (hidentifier L _) _
  refine Except.bind_eq_ok.2 ⟨_, hmint L, ?_⟩
  refine Except.bind_eq_ok.2 ⟨_, hidentifierText, ?_⟩
  refine Except.bind_eq_ok.2 ⟨_, hkind L, ?_⟩
  refine Except.bind_eq_ok.2 ⟨_, hissued L, ?_⟩
  refine Except.bind_eq_ok.2 ⟨_, hexecutor L, ?_⟩
  refine Except.bind_eq_ok.2 ⟨_, hflags L, ?_⟩
  refine Except.bind_eq_ok.2 ⟨_, hfee L, ?_⟩
  refine Except.bind_eq_ok.2 ⟨_, hlimit L, ?_⟩
  refine Except.bind_eq_ok.2 ⟨_, hmintLimit L, ?_⟩
  refine Except.bind_eq_ok.2 ⟨_, hredeemLimit L, ?_⟩
  refine Except.bind_eq_ok.2 ⟨_, hcounterparty L, ?_⟩
  refine Except.bind_eq_ok.2 ⟨_, hexecutorLimit L, ?_⟩
  refine Except.bind_eq_ok.2 ⟨_, hevidence L, ?_⟩
  refine Except.bind_eq_ok.2 ⟨_, hkept L, ?_⟩
  rfl

theorem buildAssetInventory_language (client : ChanceryClient)
    {pauseAccounts destinations : List DiscoveredChanceryAccount}
    (hpauses : DecodedAll "AssetPauseState" pauseAccounts)
    (hdestinations : DecodedAll "ReserveDestination" destinations)
    {account : DiscoveredChanceryAccount} (hname : account.name = "AssetConfig")
    (h : Decoded account) (pathways : List ChanceryPathwayInventory) :
    ∃ asset : ChanceryAssetInventory,
      requirePublicKeyField account.values "asset_mint" = .ok asset.assetMint ∧ ∀ L : Language,
        buildAssetInventory (client.withLanguage L) (pauseAccounts.map L.account)
          (destinations.map L.account) (pathways.map L.pathway) (L.account account) =
            .ok (L.asset asset) := by
  rw [Decoded, hname] at h
  obtain ⟨assetMint, hmint⟩ := read_publicKey "asset_mint" h rfl
  obtain ⟨assetPauseState, hpause⟩ :=
    findByPublicKeyField_language "asset_mint" rfl assetMint hpauses
  obtain ⟨assetTokenProgram, hprogram⟩ := read_publicKey "asset_token_program" h rfl
  obtain ⟨depositRateE9, _, hdeposit⟩ := read_unsigned "deposit_rate_e9" h rfl
  obtain ⟨redeemRateE9, _, hredeem⟩ := read_unsigned "redeem_rate_e9" h rfl
  obtain ⟨kept, hkept⟩ := filterByPublicKeyField_language "asset_mint" rfl assetMint hdestinations
  let asset : ChanceryAssetInventory := {
    assetConfig := account
    assetPauseState, assetMint, assetTokenProgram
    depositRateE9 := depositRateE9
    redeemRateE9 := redeemRateE9
    pathways := pathways.filter fun pathway => pathway.assetMint = assetMint
    reserveDestinations := kept }
  refine ⟨asset, hmint .typescript, fun L => ?_⟩
  have hpathways : (pathways.map L.pathway).filter (fun pathway => pathway.assetMint = assetMint) =
      (pathways.filter fun pathway => pathway.assetMint = assetMint).map L.pathway := by
    rw [List.filter_map]
    rfl
  refine Except.bind_eq_ok.2 ⟨_, hmint L, ?_⟩
  refine Except.bind_eq_ok.2 ⟨_, hpause L, ?_⟩
  refine Except.bind_eq_ok.2 ⟨_, hprogram L, ?_⟩
  refine Except.bind_eq_ok.2 ⟨_, hdeposit L, ?_⟩
  refine Except.bind_eq_ok.2 ⟨_, hredeem L, ?_⟩
  refine Except.bind_eq_ok.2 ⟨_, hkept L, ?_⟩
  rw [hpathways]
  rfl

end

end

end Chancery
