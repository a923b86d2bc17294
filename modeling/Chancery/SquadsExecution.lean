import Chancery.SquadsVaultMessageLaws

/-!
# Executing vault messages

The Squads program is assumed to read the accounts of an execution in one order and to number
them in another.

* `loadExecution` — the loader: lookup tables, static keys, then each lookup's entries; the
  numbering puts all writable entries before all readonly ones.
* `Loads`, `loads_executeAccounts` — what it gets from accounts in that order.
* `resolve_eq` — what `resolveSquadsVaultTransactionExecuteAccounts` lists.
* `vaultMessage_faithful` — index space, stored form and execution accounts.
-/

set_option autoImplicit false

namespace Chancery.Squads

open Codec

/-! ## The loader -/

/-- How many entries each lookup loads for writing and for reading. -/
def lookupSizes (lookups : List SquadsMessageAddressTableLookup) : List (Nat × Nat) :=
  lookups.map fun lookup => (lookup.writableIndexes.length, lookup.readonlyIndexes.length)

/-- The accounts by index, as the program loads them for a message. -/
def loadExecution (message : SquadsVaultTransactionMessage) (accounts : List NamedAccountMeta) :
    Option (List NamedAccountMeta) :=
  let tables := accounts.take message.addressTableLookups.length
  let others := accounts.drop message.addressTableLookups.length
  let static := others.take message.accountKeys.length
  if tables.map (·.address) = message.addressTableLookups.map (·.accountKey) ∧
      static.map (·.address) = message.accountKeys then do
    let (writable, readonly) ← Sectioned.split (lookupSizes message.addressTableLookups)
      (others.drop message.accountKeys.length)
    return static ++ (writable ++ readonly)
  else none

/-- Accounts that stand for the addresses, not signing and with one kind of access. -/
structure Stands (isWritable : Bool) (accounts : List NamedAccountMeta)
    (addresses : List PublicKey) : Prop where
  addresses_eq : accounts.map (·.address) = addresses
  flags : ∀ account ∈ accounts, account.isSigner = false ∧ account.isWritable = isWritable

theorem Stands.append {isWritable : Bool} {accounts accounts' : List NamedAccountMeta}
    {addresses addresses' : List PublicKey} (h : Stands isWritable accounts addresses)
    (h' : Stands isWritable accounts' addresses') :
    Stands isWritable (accounts ++ accounts') (addresses ++ addresses') where
  addresses_eq := by rw [List.map_append, h.addresses_eq, h'.addresses_eq]
  flags := List.forall_mem_append.2 ⟨h.flags, h'.flags⟩

theorem Stands.length_eq {isWritable : Bool} {accounts : List NamedAccountMeta}
    {addresses : List PublicKey} (h : Stands isWritable accounts addresses) :
    accounts.length = addresses.length := by
  rw [← h.addresses_eq, List.length_map]

/-- The accounts of one lookup stand for its two sections. -/
def StandsFor (accounts : List NamedAccountMeta × List NamedAccountMeta)
    (addresses : List PublicKey × List PublicKey) : Prop :=
  Stands true accounts.1 addresses.1 ∧ Stands false accounts.2 addresses.2

theorem stands_writable {accounts : List (List NamedAccountMeta × List NamedAccountMeta)}
    {sections : List (List PublicKey × List PublicKey)}
    (h : List.Forall₂ StandsFor accounts sections) :
    Stands true (accounts.flatMap Prod.fst) (sections.flatMap Prod.fst) := by
  induction h with
  | nil => exact ⟨rfl, fun account haccount => (List.not_mem_nil haccount).elim⟩
  | cons hparts _ ih =>
    rw [List.flatMap_cons, List.flatMap_cons]
    exact hparts.1.append ih

theorem stands_readonly {accounts : List (List NamedAccountMeta × List NamedAccountMeta)}
    {sections : List (List PublicKey × List PublicKey)}
    (h : List.Forall₂ StandsFor accounts sections) :
    Stands false (accounts.flatMap Prod.snd) (sections.flatMap Prod.snd) := by
  induction h with
  | nil => exact ⟨rfl, fun account haccount => (List.not_mem_nil haccount).elim⟩
  | cons hparts _ ih =>
    rw [List.flatMap_cons, List.flatMap_cons]
    exact hparts.2.append ih

theorem interleave_addresses {accounts : List (List NamedAccountMeta × List NamedAccountMeta)}
    {sections : List (List PublicKey × List PublicKey)}
    (h : List.Forall₂ StandsFor accounts sections) :
    (Sectioned.interleave accounts).map (·.address) = Sectioned.interleave sections := by
  induction h with
  | nil => rfl
  | cons hparts _ ih =>
    rw [Sectioned.interleave_cons, Sectioned.interleave_cons, List.map_append, List.map_append, ih,
      hparts.1.addresses_eq, hparts.2.addresses_eq]

/-! ## Accounts in the loader's order -/

def staticAccounts (message : SquadsVaultTransactionMessage) (programSigners : List PublicKey) :
    List NamedAccountMeta :=
  message.accountKeys.mapIdx (staticMeta message programSigners)

def executeAccounts (message : SquadsVaultTransactionMessage) (programSigners : List PublicKey)
    (parts : List (List NamedAccountMeta × List NamedAccountMeta)) : List NamedAccountMeta :=
  message.addressTableLookups.mapIdx lookupMeta ++
    (staticAccounts message programSigners ++ Sectioned.interleave parts)

theorem map_address_mapIdx {α : Type} {f : Nat → α → NamedAccountMeta} (address : α → PublicKey)
    (h : ∀ index a, (f index a).address = address a) (items : List α) :
    (items.mapIdx f).map (·.address) = items.map address := by
  refine List.ext_getElem? fun i => ?_
  rw [List.getElem?_map, List.getElem?_mapIdx, List.getElem?_map, Option.map_map]
  congr 1
  exact funext (h i)

theorem staticAccounts_addresses (message : SquadsVaultTransactionMessage)
    (programSigners : List PublicKey) :
    (staticAccounts message programSigners).map (·.address) = message.accountKeys := by
  rw [staticAccounts, map_address_mapIdx id fun _ _ => rfl, List.map_id]

theorem staticAccounts_length (message : SquadsVaultTransactionMessage)
    (programSigners : List PublicKey) :
    (staticAccounts message programSigners).length = message.accountKeys.length := by
  rw [staticAccounts, List.length_mapIdx]

/-- **The loader takes the accounts apart** and numbers them by access. -/
theorem loadExecution_executeAccounts {message : SquadsVaultTransactionMessage}
    {programSigners : List PublicKey}
    {parts : List (List NamedAccountMeta × List NamedAccountMeta)}
    (hsizes : Sectioned.sizes parts = lookupSizes message.addressTableLookups) :
    loadExecution message (executeAccounts message programSigners parts) =
      some (staticAccounts message programSigners ++ Sectioned.group parts) := by
  have htables : (message.addressTableLookups.mapIdx lookupMeta).length =
      message.addressTableLookups.length := List.length_mapIdx
  have hstatic := staticAccounts_length message programSigners
  unfold loadExecution executeAccounts
  dsimp only
  rw [← htables, List.take_left, List.drop_left, ← hstatic, List.take_left, List.drop_left,
    ← hsizes, Sectioned.split_interleave, if_pos]
  · rfl
  · exact ⟨map_address_mapIdx (f := lookupMeta) (·.accountKey) (fun _ _ => rfl) _,
      staticAccounts_addresses message programSigners⟩

/-- The accounts by index carry the addresses and privileges of the message; the program signs for
some of the signers itself. -/
structure Loads (message : SquadsVaultTransactionMessage) (programSigners : List PublicKey)
    (keys : List PublicKey) (loaded : List NamedAccountMeta) : Prop where
  addresses_eq : loaded.map (·.address) = keys
  writable_iff : ∀ i account, loaded[i]? = some account →
    (account.isWritable = true ↔ message.isWritable i)
  signer_iff : ∀ i account, loaded[i]? = some account →
    (account.isSigner = true ↔ message.isSigner i ∧ account.address ∉ programSigners)

theorem writableLoadedCount_eq {message : SquadsVaultTransactionMessage}
    {parts : List (List NamedAccountMeta × List NamedAccountMeta)}
    (hsizes : Sectioned.sizes parts = lookupSizes message.addressTableLookups) :
    message.writableLoadedCount = (parts.flatMap Prod.fst).length := by
  have hfirst := congrArg (List.map Prod.fst) hsizes
  rw [Sectioned.sizes, lookupSizes, List.map_map, List.map_map] at hfirst
  rw [SquadsVaultTransactionMessage.writableLoadedCount, List.length_flatMap]
  exact congrArg List.sum hfirst.symm

theorem loads_group {message : SquadsVaultTransactionMessage} (hvalid : message.Valid)
    {programSigners : List PublicKey}
    {parts : List (List NamedAccountMeta × List NamedAccountMeta)}
    {sections : List (List PublicKey × List PublicKey)}
    (hsizes : Sectioned.sizes parts = lookupSizes message.addressTableLookups)
    (hparts : List.Forall₂ StandsFor parts sections) :
    Loads message programSigners (message.accountKeys ++ Sectioned.group sections)
      (staticAccounts message programSigners ++ Sectioned.group parts) := by
  have hwritable := stands_writable hparts
  have hreadonly := stands_readonly hparts
  have hcount := writableLoadedCount_eq hsizes
  have hstatic := staticAccounts_length message programSigners
  have hsigners := hvalid.numSigners
  have hnonSigners := hvalid.numWritableNonSigners
  refine ⟨?_, fun i account haccount => ?_, fun i account haccount => ?_⟩
  · rw [List.map_append, staticAccounts_addresses, Sectioned.group, List.map_append,
      hwritable.addresses_eq, hreadonly.addresses_eq]
    rfl
  all_goals
    by_cases hlt : i < message.accountKeys.length
  · rw [List.getElem?_append_left (by omega), staticAccounts, List.getElem?_mapIdx] at haccount
    obtain ⟨key, -, rfl⟩ := Option.map_eq_some_iff.1 haccount
    rw [SquadsVaultTransactionMessage.isWritable, if_pos hlt]
    exact decide_eq_true_iff
  · rw [List.getElem?_append_right (by omega), hstatic, Sectioned.group] at haccount
    rw [SquadsVaultTransactionMessage.isWritable, if_neg hlt, hcount]
    by_cases hfirst : i - message.accountKeys.length < (parts.flatMap Prod.fst).length
    · rw [List.getElem?_append_left hfirst] at haccount
      rw [(hwritable.flags account (List.mem_of_getElem? haccount)).2]
      simp only [true_iff]
      omega
    · rw [List.getElem?_append_right (by omega)] at haccount
      rw [(hreadonly.flags account (List.mem_of_getElem? haccount)).2]
      simp only [Bool.false_eq_true, false_iff]
      omega
  · rw [List.getElem?_append_left (by omega), staticAccounts, List.getElem?_mapIdx] at haccount
    obtain ⟨key, -, rfl⟩ := Option.map_eq_some_iff.1 haccount
    simp [staticMeta, SquadsVaultTransactionMessage.isSigner]
  · rw [List.getElem?_append_right (by omega)] at haccount
    have hflags : account.isSigner = false := by
      rcases List.mem_append.1 (List.mem_of_getElem? haccount) with hmem | hmem
      · exact (hwritable.flags account hmem).1
      · exact (hreadonly.flags account hmem).1
    rw [hflags, SquadsVaultTransactionMessage.isSigner]
    simp only [Bool.false_eq_true, false_iff, not_and]
    omega

/-! ## Resolution -/

theorem tableMetas_stands (outsideMessage : String) {table : AddressLookupTable}
    (lookupIndex : Nat) (isWritable : Bool) (label : String) : ∀ (start : Nat) {indexes : List Nat}
    {addresses : List PublicKey}, Holds table indexes addresses →
    ∃ accounts, encodeEach (fun index addressIndex => match table.addresses[addressIndex]? with
        | none => .error outsideMessage
        | some address => .ok [({
            address := address
            isSigner := false
            isWritable := isWritable
            name := s!"{label}_lookup_{lookupIndex}_{index}" } : NamedAccountMeta)])
        start indexes = .ok accounts ∧ Stands isWritable accounts addresses
  | _, [], _, .nil => ⟨[], rfl, rfl, fun account haccount => (List.not_mem_nil haccount).elim⟩
  | start, index :: indexes, address :: addresses, .cons haddress hrest => by
    obtain ⟨accounts, haccounts, hstands⟩ := tableMetas_stands outsideMessage
      lookupIndex isWritable label (start + 1) hrest
    have hhead : Stands isWritable
        [{ address := address, isSigner := false, isWritable := isWritable
           name := s!"{label}_lookup_{lookupIndex}_{start}" }] [address] :=
      ⟨rfl, List.forall_mem_singleton.2 ⟨rfl, rfl⟩⟩
    refine ⟨_, Except.bind_eq_ok.2 ⟨_, ?_, Except.bind_eq_ok.2 ⟨_, haccounts, rfl⟩⟩,
      hhead.append hstands⟩
    dsimp only
    rw [haddress]

theorem holds_of_mapM {table : AddressLookupTable} : ∀ {indexes : List Nat}
    {addresses : List PublicKey},
    (indexes.mapM fun index => table.addresses[index]?) = some addresses →
      Holds table indexes addresses
  | [], addresses, h => by
    cases h
    exact .nil
  | index :: indexes, addresses, h => by
    simp only [List.mapM_cons, Option.bind_eq_bind, Option.bind_eq_some_iff] at h
    obtain ⟨address, haddress, more, hmore, hret⟩ := h
    cases hret
    exact .cons haddress (holds_of_mapM hmore)

theorem tableEntries_holds {tableByAddress : PublicKey → Option AddressLookupTable}
    {known : List (PublicKey × List PublicKey)}
    (hknown : ∀ address, known.lookup address = (tableByAddress address).map (·.addresses))
    {accountKey : PublicKey} {indexes : List Nat} {addresses : List PublicKey}
    (h : Wire.tableEntries known accountKey indexes = some addresses) :
    ∃ table, tableByAddress accountKey = some table ∧ Holds table indexes addresses := by
  obtain ⟨listed, hlisted, hentries⟩ := Option.bind_eq_some_iff.1 h
  rw [hknown] at hlisted
  obtain ⟨table, htable, rfl⟩ := Option.map_eq_some_iff.1 hlisted
  exact ⟨table, htable, holds_of_mapM hentries⟩

/-- Tables that are found by their addresses give every lookup the accounts of its sections. -/
theorem loadedMetas_stands (outsideMessage : String → PublicKey → String)
    {tableByAddress : PublicKey → Option AddressLookupTable}
    {known : List (PublicKey × List PublicKey)}
    (hknown : ∀ address, known.lookup address = (tableByAddress address).map (·.addresses)) :
    ∀ (start : Nat) {lookups : List SquadsMessageAddressTableLookup}
      {sections : List (List PublicKey × List PublicKey)},
      lookupSections known lookups = some sections →
      ∃ parts, encodeEach (loadedMetas outsideMessage tableByAddress) start lookups =
          .ok (Sectioned.interleave parts) ∧
        Sectioned.sizes parts = lookupSizes lookups ∧ List.Forall₂ StandsFor parts sections
  | _, [], sections, h => by
    cases h
    exact ⟨[], rfl, rfl, .nil⟩
  | start, lookup :: lookups, sections, h => by
    simp only [lookupSections, List.mapM_cons, Option.bind_eq_bind, Option.bind_eq_some_iff] at h
    obtain ⟨addresses, ⟨writable, hwritable, readonly, hreadonly, hpair⟩, more, hmore, hret⟩ := h
    cases hpair
    cases hret
    obtain ⟨parts, hparts, hsizes, hstands⟩ :=
      loadedMetas_stands outsideMessage hknown (start + 1) hmore
    obtain ⟨table, htable, hholdsW⟩ := tableEntries_holds hknown hwritable
    obtain ⟨table', htable', hholdsR⟩ := tableEntries_holds hknown hreadonly
    cases htable.symm.trans htable'
    obtain ⟨accountsW, haccountsW, hstandsW⟩ := tableMetas_stands
      (outsideMessage "Writable" lookup.accountKey) start true "writable" 0 hholdsW
    obtain ⟨accountsR, haccountsR, hstandsR⟩ := tableMetas_stands
      (outsideMessage "Readonly" lookup.accountKey) start false "readonly" 0 hholdsR
    have hloaded : loadedMetas outsideMessage tableByAddress start lookup =
        .ok (accountsW ++ accountsR) := by
      unfold loadedMetas
      rw [htable]
      exact Except.bind_eq_ok.2 ⟨_, haccountsW, Except.bind_eq_ok.2 ⟨_, haccountsR, rfl⟩⟩
    refine ⟨(accountsW, accountsR) :: parts, ?_, ?_, .cons ⟨hstandsW, hstandsR⟩ hstands⟩
    · rw [Sectioned.interleave_cons, ← List.append_assoc]
      exact Except.bind_eq_ok.2 ⟨_, hloaded, Except.bind_eq_ok.2 ⟨_, hparts, rfl⟩⟩
    · rw [Sectioned.sizes, List.map_cons, hstandsW.length_eq, hstandsR.length_eq,
        ← hholdsW.length_eq, ← hholdsR.length_eq]
      exact congrArg _ hsizes

theorem collectTablesByAddress_ok : ∀ {tables : List AddressLookupTable}
    {known : List (PublicKey × AddressLookupTable)},
    (∀ table ∈ tables, known.lookup table.address = none) → (tables.map (·.address)).Nodup →
      collectTablesByAddress known tables =
        .ok (known ++ tables.map fun table => (table.address, table))
  | [], known, _, _ => by
    rw [collectTablesByAddress, List.map_nil, List.append_nil]
  | table :: tables, known, hnew, hdistinct => by
    rw [List.map_cons, List.nodup_cons] at hdistinct
    have hfresh := hnew table List.mem_cons_self
    rw [collectTablesByAddress, hfresh, if_neg (by decide),
      collectTablesByAddress_ok ?_ hdistinct.2, List.append_assoc]
    · rfl
    · intro other hother
      have hne : other.address ≠ table.address := by
        intro heq
        exact hdistinct.1 (heq ▸ List.mem_map_of_mem hother)
      rw [List.lookup_append, hnew other (List.mem_cons_of_mem _ hother), Option.none_or,
        List.lookup_cons, beq_false_of_ne hne]
      rfl

theorem knownTables_lookup (tables : List AddressLookupTable) (address : PublicKey) :
    (knownTables tables).lookup address =
      ((tables.map fun table => (table.address, table)).lookup address).map (·.addresses) := by
  induction tables with
  | nil => rfl
  | cons table tables ih =>
    rw [knownTables, List.map_cons, List.map_cons, List.lookup_cons, List.lookup_cons]
    split
    · rfl
    · exact ih

/-- The signers of an execution that the program signs for. -/
def ResolveSquadsExecuteAccountsRequest.programSigners (sha256 : Sha256)
    (request : ResolveSquadsExecuteAccountsRequest) : Except String (List PublicKey) :=
  programSignerAddresses sha256 request.vaultAddress request.transactionAddress
    (request.ephemeralSignerCount.getD 0)
    (request.programAddress.getD squadsMultisigProgramAddress)

/-- **What the resolver lists** for a valid message of the vault whose tables are distinct. -/
theorem resolve_eq {sha256 : Sha256} {request : ResolveSquadsExecuteAccountsRequest}
    (hvalid : request.message.Valid)
    (hvault : request.message.accountKeys[0]? = some request.vaultAddress)
    (hsigns : 0 < request.message.numSigners ∧ 0 < request.message.numWritableSigners)
    (hdistinct : ((request.addressLookupTables.getD []).map (·.address)).Nodup)
    {sections : List (List PublicKey × List PublicKey)}
    (hsections : lookupSections (knownTables (request.addressLookupTables.getD []))
      request.message.addressTableLookups = some sections) :
    ∃ parts, Sectioned.sizes parts = lookupSizes request.message.addressTableLookups ∧
      List.Forall₂ StandsFor parts sections ∧
      resolveSquadsVaultTransactionExecuteAccounts sha256 request = (do
        assertU8 (request.ephemeralSignerCount.getD 0 : Nat) "ephemeralSignerCount"
        let programSigners ← request.programSigners sha256
        return executeAccounts request.message programSigners parts) := by
  have hcollect := collectTablesByAddress_ok
    (fun table _ => (rfl : ([] : List (PublicKey × AddressLookupTable)).lookup table.address = none))
    hdistinct
  obtain ⟨parts, hparts, hsizes, hstands⟩ := loadedMetas_stands outsideTableMessage
    (knownTables_lookup (request.addressLookupTables.getD [])) 0 hsections
  refine ⟨parts, hsizes, hstands, ?_⟩
  have hvalidate : validateSquadsVaultTransactionMessage request.message = .ok () :=
    validate_ok.2 hvalid
  have hpayer : rejectWhen (request.message.accountKeys[0]? ≠ some request.vaultAddress)
      "Squads execution message does not use the requested vault as its payer" = .ok () :=
    rejectWhen_ok.2 (not_not.2 hvault)
  have hsigner : rejectWhen
      (request.message.numSigners = 0 ∨ request.message.numWritableSigners = 0)
      "Squads execution message does not mark the vault as a writable signer" = .ok () :=
    rejectWhen_ok.2 (by omega)
  refine (Except.bind_of_ok hvalidate _).trans ?_
  dsimp only
  cases assertU8 (request.ephemeralSignerCount.getD 0 : Nat) "ephemeralSignerCount" with
  | error e => rfl
  | ok =>
    refine (Except.bind_of_ok hpayer _).trans ((Except.bind_of_ok hsigner _).trans ?_)
    change (request.programSigners sha256 >>= _) = (request.programSigners sha256 >>= _)
    cases request.programSigners sha256 with
    | error e => rfl
    | ok programSigners =>
      exact (Except.bind_of_ok hcollect _).trans (Except.bind_of_ok hparts _)

/-! ## Compiled messages -/

/-- The accounts of an execution: their order, and what the program makes of them. -/
structure ExecutionAccounts (message : SquadsVaultTransactionMessage)
    (programSigners : List PublicKey) (sections : List (List PublicKey × List PublicKey))
    (accounts : List NamedAccountMeta) : Prop where
  order : accounts.map (·.address) = message.addressTableLookups.map (·.accountKey) ++
    (message.accountKeys ++ Sectioned.interleave sections)
  loads : ∃ loaded, loadExecution message accounts = some loaded ∧
    Loads message programSigners (message.accountKeys ++ Sectioned.group sections) loaded

theorem executionAccounts_executeAccounts {message : SquadsVaultTransactionMessage}
    (hvalid : message.Valid) (programSigners : List PublicKey)
    {parts : List (List NamedAccountMeta × List NamedAccountMeta)}
    {sections : List (List PublicKey × List PublicKey)}
    (hsizes : Sectioned.sizes parts = lookupSizes message.addressTableLookups)
    (hstands : List.Forall₂ StandsFor parts sections) :
    ExecutionAccounts message programSigners sections
      (executeAccounts message programSigners parts) where
  order := by
    rw [executeAccounts, List.map_append, List.map_append, staticAccounts_addresses,
      interleave_addresses hstands, map_address_mapIdx (f := lookupMeta) (·.accountKey)
        (fun _ _ => rfl)]
  loads := ⟨_, loadExecution_executeAccounts hsizes, loads_group hvalid hsizes hstands⟩

/-- A vault message carries out its instructions, is stored and is executed on their accounts. -/
structure Faithful (sha256 : Sha256) (instructions : List SolanaInstruction)
    (vaultAddress : PublicKey) (tables : List AddressLookupTable)
    (message : SquadsVaultTransactionMessage)
    (sections : List (List PublicKey × List PublicKey)) : Prop where
  sections_eq : lookupSections (knownTables tables) message.addressTableLookups = some sections
  executes : Executes instructions vaultAddress message
    (message.accountKeys ++ Sectioned.group sections)
  unversioned_signers : tables = [] → message.numSigners < 128
  encoded : ∃ bytes, encodeSquadsVaultTransactionMessage message = .ok bytes
  resolved_iff : ∀ request : ResolveSquadsExecuteAccountsRequest, request.message = message →
    request.vaultAddress = vaultAddress → request.addressLookupTables.getD [] = tables →
    ((∃ accounts, resolveSquadsVaultTransactionExecuteAccounts sha256 request = .ok accounts) ↔
      request.ephemeralSignerCount.getD 0 ≤ 255 ∧
        ∃ programSigners, request.programSigners sha256 = .ok programSigners)
  accounts : ∀ request : ResolveSquadsExecuteAccountsRequest, request.message = message →
    request.vaultAddress = vaultAddress → request.addressLookupTables.getD [] = tables →
    ∀ accounts, resolveSquadsVaultTransactionExecuteAccounts sha256 request = .ok accounts →
      ∃ programSigners, request.programSigners sha256 = .ok programSigners ∧
        ExecutionAccounts message programSigners sections accounts

/-- **A compiled vault message is faithful**, and its stored form is read back: decoding inverts
encoding, and whatever is decoded is encoded to the same bytes. -/
theorem vaultMessage_faithful (sha256 : Sha256) {instructions : List SolanaInstruction}
    {vaultAddress : PublicKey} {tables : List AddressLookupTable}
    {message : SquadsVaultTransactionMessage} (hdistinct : (tables.map (·.address)).Nodup)
    (h : compileSquadsVaultTransactionMessage instructions vaultAddress tables = .ok message) :
    (∃ sections, Faithful sha256 instructions vaultAddress tables message sections) ∧
      (∀ stored bytes, encodeSquadsVaultTransactionMessage stored = .ok bytes →
        decodeSquadsVaultTransactionMessage bytes = .ok stored) ∧
      ∀ bytes stored, decodeSquadsVaultTransactionMessage bytes = .ok stored →
        encodeSquadsVaultTransactionMessage stored = .ok bytes := by
  refine ⟨?_, fun _ _ => decode_encodeSquadsVaultTransactionMessage,
    fun _ _ => encode_decodeSquadsVaultTransactionMessage⟩
  obtain ⟨staticMetas, writable, readonly, lookups, instructions', hlayout, hall, hmessage, hvalid,
    hfew⟩ := compileSquadsVaultTransactionMessage_ok h
  have hexecutes := executes_of_layout hlayout hall
  have hknown : ∀ table ∈ tables,
      (knownTables tables).lookup table.address = some table.addresses := by
    intro table htable
    refine Table.lookup_of_mem ?_ (List.mem_map.2 ⟨table, htable, rfl⟩)
    rwa [knownTables, List.map_map]
  obtain ⟨sections, hsections, rfl, rfl⟩ := sections_of_layout hlayout.sections hknown
  rw [← hmessage, List.append_assoc] at hexecutes
  have hlookups : message.addressTableLookups = lookups.map squadsLookup := by
    rw [hmessage]
    rfl
  have hkeys : message.accountKeys = staticMetas.map (·.address) := by
    rw [hmessage]
    rfl
  rw [← hlookups] at hsections
  rw [← hkeys] at hexecutes
  have hsigns : 0 < message.numSigners := hexecutes.vault_signs.1
  have hwritable : 0 < message.numWritableSigners := by
    have hkey := (List.getElem?_eq_some_iff.1 hexecutes.vault_first).1
    have hvault := hexecutes.vault_signs.2
    unfold SquadsVaultTransactionMessage.isWritable at hvault
    rw [if_pos hkey] at hvault
    omega
  have hresolve : ∀ request : ResolveSquadsExecuteAccountsRequest, request.message = message →
      request.vaultAddress = vaultAddress → request.addressLookupTables.getD [] = tables →
      ∃ parts, Sectioned.sizes parts = lookupSizes message.addressTableLookups ∧
        List.Forall₂ StandsFor parts sections ∧
        resolveSquadsVaultTransactionExecuteAccounts sha256 request = (do
          assertU8 (request.ephemeralSignerCount.getD 0 : Nat) "ephemeralSignerCount"
          let programSigners ← request.programSigners sha256
          return executeAccounts message programSigners parts) := by
    rintro request rfl rfl rfl
    exact resolve_eq hvalid hexecutes.vault_first ⟨hsigns, hwritable⟩ hdistinct hsections
  refine ⟨sections, hsections, hexecutes, fun htables => ?_, encode_of_valid hvalid,
    fun request hrequest hvault htables => ?_, fun request hrequest hvault htables accounts
      haccounts => ?_⟩
  · have := hfew htables
    rw [hmessage]
    exact Int.ofNat_lt.2 this
  · obtain ⟨parts, -, -, heq⟩ := hresolve request hrequest hvault htables
    simp only [heq, Except.bind_eq_ok, assertU8_ok]
    constructor
    · rintro ⟨accounts, _, hcount, programSigners, hsigners, -⟩
      exact ⟨by omega, programSigners, hsigners⟩
    · rintro ⟨hcount, programSigners, hsigners⟩
      exact ⟨_, (), by omega, programSigners, hsigners, rfl⟩
  · obtain ⟨parts, hsizes, hstands, heq⟩ := hresolve request hrequest hvault htables
    simp only [heq, Except.bind_eq_ok] at haccounts
    obtain ⟨_, -, programSigners, hsigners, hret⟩ := haccounts
    cases hret
    exact ⟨programSigners, hsigners,
      executionAccounts_executeAccounts hvalid programSigners hsizes hstands⟩

/-- Two instructions with two lookup tables, of which each loads something. -/
theorem vaultMessage_faithful_demo : ∃ message sections,
    compileSquadsVaultTransactionMessage demoInstructions demoPayer demoTables = .ok message ∧
      message.addressTableLookups.length = 2 ∧
      Faithful platformSha256 demoInstructions demoPayer demoTables message sections := by
  have hcompiles : (compileSquadsVaultTransactionMessage demoInstructions demoPayer
      demoTables).toOption.any (fun message => message.addressTableLookups.length == 2) = true := by
    decide +kernel
  obtain ⟨message, hmessage, hcount⟩ := Except.exists_of_any hcompiles
  have hdistinct : (demoTables.map (·.address)).Nodup := by decide +kernel
  obtain ⟨⟨sections, hfaithful⟩, -, -⟩ :=
    vaultMessage_faithful platformSha256 hdistinct hmessage
  exact ⟨message, sections, hmessage, beq_iff_eq.1 hcount, hfaithful⟩

end Chancery.Squads
