import Chancery.BuilderAgreement
import Chancery.SquadsExecution

/-!
# Executing the web builder's proposals

The compiler takes an account from the first table that lists it; the accounts of the execution
are read from the last table at that table's address.

* `TablesAgree` — the two tables hold the account at the same index.
* `resolveExecutionAccounts_ok` — what the accounts of the execution stand for.
* `sections_eq_iff` — when they are the keys of the compiler.
* `denotes_iff` — exactly then the proposal executes its instructions.
-/

set_option autoImplicit false

namespace Chancery

open Squads Codec

/-! ## The condition -/

/-- The compiler may take the address from a lookup table. -/
structure Loadable (instructions : List SolanaInstruction) (vaultAddress address : PublicKey) :
    Prop where
  named : ∃ instruction ∈ instructions, ∃ account ∈ instruction.accounts,
    account.address = address
  not_vault : address ≠ vaultAddress
  not_signer : ¬ Names instructions (·.isSigner) address
  not_program : ∀ instruction ∈ instructions, instruction.programAddress ≠ address

/-- What the compiler takes from a table, the last table at its address holds at the same index. -/
def TablesAgree (instructions : List SolanaInstruction) (vaultAddress : PublicKey)
    (tables : List AddressLookupTable) : Prop :=
  ∀ address i j table, Loadable instructions vaultAddress address →
    Web.findPlacement address 0 tables = some (i, j) → tables[i]? = some table →
    (Web.lookupTableByAddress tables table.address).bind (·.addresses[j]?) = some address

theorem lookupTableByAddress_of_nodup {tables : List AddressLookupTable}
    (hdistinct : (tables.map (·.address)).Nodup) {table : AddressLookupTable}
    (htable : table ∈ tables) : Web.lookupTableByAddress tables table.address = some table := by
  unfold Web.lookupTableByAddress
  cases hfind : tables.reverse.find? fun other => other.address == table.address with
  | none =>
    have := List.find?_eq_none.1 hfind table (List.mem_reverse.2 htable)
    exact (this (beq_self_eq_true _)).elim
  | some other =>
    have haddress : other.address = table.address := by
      simpa using List.find?_some hfind
    have hother := List.mem_reverse.1 (List.mem_of_find?_eq_some hfind)
    rw [List.inj_on_of_nodup_map hdistinct hother htable haddress]

/-- Tables at distinct addresses agree. -/
theorem tablesAgree_of_nodup (instructions : List SolanaInstruction) (vaultAddress : PublicKey)
    {tables : List AddressLookupTable} (hdistinct : (tables.map (·.address)).Nodup) :
    TablesAgree instructions vaultAddress tables := by
  intro address i j table _ hplaced htable
  obtain ⟨table', htable', haddress⟩ := findPlacement_hit hplaced
  cases htable.symm.trans htable'
  rw [lookupTableByAddress_of_nodup hdistinct (List.mem_of_getElem? htable)]
  exact haddress

/-- The metas that placement may load are those of the loadable addresses. -/
theorem exists_movable_iff {instructions : List SolanaInstruction} {vaultAddress : PublicKey}
    {q : PublicKey → Prop} :
    (∃ m ∈ Web.aggregateAccountMetas instructions vaultAddress, Movable m ∧ q m.address) ↔
      ∃ address, Loadable instructions vaultAddress address ∧ q address := by
  have hmetas := aggregateAccountMetas_spec instructions vaultAddress
  rw [← aggregateAccountMetas_forget] at hmetas
  constructor
  · rintro ⟨m, hm, ⟨hsigner, hprogram, -⟩, hq⟩
    have hmem : forget m ∈ (Web.aggregateAccountMetas instructions vaultAddress).map forget :=
      List.mem_map_of_mem hm
    have hnotSigner : ¬(m.address = vaultAddress ∨ Names instructions (·.isSigner) m.address) := by
      rw [names_signer_iff]
      intro h
      have := (hmetas.isSigner_iff _ hmem).2 h
      exact Bool.false_ne_true (hsigner.symm.trans this)
    have hnotProgram : ¬∃ instruction ∈ instructions, instruction.programAddress = m.address := by
      rw [invoked_iff]
      intro h
      have := (hmetas.isProgram_iff _ hmem).2 h
      exact Bool.false_ne_true (hprogram.symm.trans this)
    obtain ⟨hvault, hsign⟩ := not_or.1 hnotSigner
    have hnamed := ((hmetas.mem_iff m.address).1
      (List.mem_map.2 ⟨forget m, hmem, rfl⟩)).resolve_left hvault
    rw [exists_mention_iff] at hnamed
    obtain ⟨instruction, hinstruction, ⟨account, haccount, haddress⟩ | haddress⟩ := hnamed
    · exact ⟨m.address, ⟨⟨instruction, hinstruction, account, haccount, haddress⟩, hvault, hsign,
        fun other hother heq => hnotProgram ⟨other, hother, heq⟩⟩, hq⟩
    · exact (hnotProgram ⟨instruction, hinstruction, haddress⟩).elim
  · rintro ⟨address, hloadable, hq⟩
    obtain ⟨instruction, hinstruction, account, haccount, haddress⟩ := hloadable.named
    have haggregated := (hmetas.mem_iff address).2
      (.inr (exists_mention_iff.2 ⟨instruction, hinstruction, .inl ⟨account, haccount, haddress⟩⟩))
    rw [map_address_forget] at haggregated
    obtain ⟨m, hm, rfl⟩ := List.mem_map.1 haggregated
    have hmem : forget m ∈ (Web.aggregateAccountMetas instructions vaultAddress).map forget :=
      List.mem_map_of_mem hm
    have hsigner : m.isSigner = false := by
      rw [← Bool.not_eq_true]
      intro hflag
      refine ((hmetas.isSigner_iff _ hmem).1 hflag).elim hloadable.not_vault fun hnames => ?_
      exact hloadable.not_signer (names_signer_iff.2 hnames)
    have hprogram : m.isProgram = false := by
      rw [← Bool.not_eq_true]
      intro hflag
      obtain ⟨other, hother, heq⟩ := invoked_iff.2 ((hmetas.isProgram_iff _ hmem).1 hflag)
      exact hloadable.not_program other hother heq
    have hpayer : m.isPayer = false := by
      obtain ⟨first, others, hlist, -, hothers⟩ :=
        payerFirst_aggregateAccountMetas instructions vaultAddress
      obtain ⟨first', others', hlist', hfirst, -⟩ := hmetas.feePayer_first
      rw [hlist] at hm hlist'
      cases hlist'
      rcases List.mem_cons.1 hm with rfl | hm
      · exact (hloadable.not_vault hfirst).elim
      · exact hothers m hm
    exact ⟨m, hm, ⟨hsigner, hprogram, hpayer⟩, hq⟩

/-! ## Sections -/

theorem entries_eq_iff {f g : Nat → Option PublicKey} : ∀ {indexes : List Nat}
    {entries : List PublicKey}, indexes.mapM f = some entries →
      (∀ j ∈ indexes, (g j).isSome) →
      (entries = indexes.filterMap g ↔ ∀ j ∈ indexes, f j = g j)
  | [], entries, h, _ => by
    cases h
    simp
  | j :: indexes, entries, h, hg => by
    simp only [List.mapM_cons, Option.bind_eq_bind, Option.bind_eq_some_iff] at h
    obtain ⟨entry, hentry, more, hmore, hret⟩ := h
    cases hret
    obtain ⟨hhead, hrest⟩ := List.forall_mem_cons.1 hg
    obtain ⟨address, haddress⟩ := Option.isSome_iff_exists.1 hhead
    rw [List.filterMap_cons, haddress, List.forall_mem_cons, ← entries_eq_iff hmore hrest, hentry,
      haddress, Option.some.injEq]
    exact List.cons.injEq .. ▸ Iff.rfl

theorem length_of_mapM {f : Nat → Option PublicKey} : ∀ {indexes : List Nat}
    {entries : List PublicKey}, indexes.mapM f = some entries → entries.length = indexes.length
  | [], _, h => by
    cases h
    rfl
  | j :: indexes, entries, h => by
    simp only [List.mapM_cons, Option.bind_eq_bind, Option.bind_eq_some_iff] at h
    obtain ⟨entry, -, more, hmore, hret⟩ := h
    cases hret
    rw [List.length_cons, List.length_cons, length_of_mapM hmore]

theorem length_filterMap_of_isSome {g : Nat → Option PublicKey} : ∀ {indexes : List Nat},
    (∀ j ∈ indexes, (g j).isSome) → (indexes.filterMap g).length = indexes.length
  | [], _ => rfl
  | j :: indexes, hg => by
    obtain ⟨hhead, hrest⟩ := List.forall_mem_cons.1 hg
    obtain ⟨address, haddress⟩ := Option.isSome_iff_exists.1 hhead
    rw [List.filterMap_cons, haddress, List.length_cons, List.length_cons,
      length_filterMap_of_isSome hrest]

/-- The entries of one lookup are those the compiler loaded when the tables hold the same there. -/
theorem tableEntries_append_iff {known : List (PublicKey × List PublicKey)}
    {table : AddressLookupTable} {indexes : List Nat} {entries more more' : List PublicKey}
    (hentries : Wire.tableEntries known table.address indexes = some entries)
    (hrange : ∀ j ∈ indexes, j < table.addresses.length) :
    entries ++ more = indexes.filterMap (table.addresses[·]?) ++ more' ↔
      (∀ j ∈ indexes, (known.lookup table.address).bind (·[j]?) = table.addresses[j]?) ∧
        more = more' := by
  obtain ⟨listed, hlisted, hmapM⟩ := Option.bind_eq_some_iff.1 hentries
  have hsome : ∀ j ∈ indexes, (table.addresses[j]?).isSome := by
    intro j hj
    rw [List.getElem?_eq_getElem (hrange j hj)]
    rfl
  have hlength : entries.length = (indexes.filterMap (table.addresses[·]?)).length := by
    rw [length_of_mapM hmapM, length_filterMap_of_isSome hsome]
  rw [hlisted]
  simp only [Option.bind_some]
  rw [← entries_eq_iff hmapM hsome]
  exact ⟨fun h => List.append_inj h hlength, fun ⟨hentries, hmore⟩ => by rw [hentries, hmore]⟩

theorem forall_getD_cons {table : AddressLookupTable} {tables : List AddressLookupTable}
    {indexesByTable : List (List Nat)} {q : AddressLookupTable → Nat → Prop} :
    (∀ i other, (table :: tables)[i]? = some other → ∀ j ∈ indexesByTable.getD i [], q other j) ↔
      (∀ j ∈ indexesByTable.headD [], q table j) ∧
        ∀ i other, tables[i]? = some other → ∀ j ∈ indexesByTable.tail.getD i [], q other j := by
  constructor
  · intro h
    refine ⟨?_, fun i other hother => ?_⟩
    · have hzero := h 0 table rfl
      cases indexesByTable <;> exact hzero
    · have hsucc := h (i + 1) other hother
      cases indexesByTable <;> exact hsucc
  · rintro ⟨hhead, htail⟩ i other hother
    cases i with
    | zero =>
      cases hother
      cases indexesByTable <;> exact hhead
    | succ i =>
      have hsucc := htail i other hother
      cases indexesByTable <;> exact hsucc

/-- **When the sections are what the compiler loaded**: every collected index stands for the same
address in the known table. -/
theorem sections_eq_iff {known : List (PublicKey × List PublicKey)} :
    ∀ {tables : List AddressLookupTable} {W R : List (List Nat)}
      {sections : List (List PublicKey × List PublicKey)},
      InRange tables W → InRange tables R →
      lookupSections known (Web.collectLookups tables W R).addressTableLookups = some sections →
      (sections.flatMap Prod.fst = (Web.collectLookups tables W R).writableLoadedAddresses ∧
          sections.flatMap Prod.snd = (Web.collectLookups tables W R).readonlyLoadedAddresses ↔
        (∀ i table, tables[i]? = some table → ∀ j ∈ W.getD i [],
          (known.lookup table.address).bind (·[j]?) = table.addresses[j]?) ∧
        ∀ i table, tables[i]? = some table → ∀ j ∈ R.getD i [],
          (known.lookup table.address).bind (·[j]?) = table.addresses[j]?)
  | [], W, R, sections, _, _, h => by
    cases h
    simp [Web.collectLookups]
  | table :: tables, W, R, sections, hW, hR, h => by
    rw [forall_getD_cons, forall_getD_cons]
    rw [Web.collectLookups] at h ⊢
    split at h
    · rename_i hskip
      obtain ⟨hW', hR'⟩ := Bool.and_eq_true_iff.1 hskip
      have hempty := And.intro (List.isEmpty_iff.1 hW') (List.isEmpty_iff.1 hR')
      rw [if_pos hskip, sections_eq_iff hW.tail hR.tail h, hempty.1, hempty.2]
      simp
    · rename_i hfound
      simp only [lookupSections, List.mapM_cons, Option.bind_eq_bind, Option.bind_eq_some_iff] at h
      obtain ⟨entries, ⟨writable, hwritable, readonly, hreadonly, hpair⟩, more, hmore, hret⟩ := h
      cases hpair
      cases hret
      rw [if_neg hfound, List.flatMap_cons, List.flatMap_cons]
      rw [tableEntries_append_iff hwritable hW.head, tableEntries_append_iff hreadonly hR.head,
        and_and_and_comm, sections_eq_iff hW.tail hR.tail hmore, and_and_and_comm]

/-! ## The accounts of the execution -/

theorem knownTables_find (tables : List AddressLookupTable) (address : PublicKey) :
    (knownTables tables).lookup address =
      (tables.find? fun table => table.address == address).map (·.addresses) := by
  induction tables with
  | nil => rfl
  | cons table tables ih =>
    rw [knownTables, List.map_cons, List.lookup_cons, List.find?_cons]
    by_cases heq : address = table.address
    · rw [heq, beq_self_eq_true]
      rfl
    · rw [beq_false_of_ne heq, beq_false_of_ne (Ne.symm heq)]
      exact ih

theorem tableMetas_ok {message label : String} {table : AddressLookupTable} {lookupIndex : Nat}
    {isWritable : Bool} : ∀ {start : Nat} {indexes : List Nat} {accounts : List NamedAccountMeta},
    encodeEach (fun index addressIndex => match table.addresses[addressIndex]? with
        | none => .error message
        | some address => .ok [({
            address := address
            isSigner := false
            isWritable := isWritable
            name := s!"{label}_lookup_{lookupIndex}_{index}" } : NamedAccountMeta)])
        start indexes = .ok accounts →
      ∃ addresses, (indexes.mapM fun index => table.addresses[index]?) = some addresses
  | _, [], _, _ => ⟨[], rfl⟩
  | start, index :: indexes, accounts, h => by
    obtain ⟨head, tail, hhead, htail, -⟩ := encodeEach_cons h
    obtain ⟨addresses, haddresses⟩ := tableMetas_ok htail
    split at hhead
    · cases hhead
    · rename_i address haddress
      refine ⟨address :: addresses, ?_⟩
      rw [List.mapM_cons, haddress, haddresses]
      rfl

/-- Accounts that were resolved had known tables with entries at every index. -/
theorem lookupSections_of_loadedMetas {outsideMessage : String → PublicKey → String}
    {tableByAddress : PublicKey → Option AddressLookupTable}
    {known : List (PublicKey × List PublicKey)}
    (hknown : ∀ address, known.lookup address = (tableByAddress address).map (·.addresses)) :
    ∀ {start : Nat} {lookups : List SquadsMessageAddressTableLookup}
      {accounts : List NamedAccountMeta},
      encodeEach (loadedMetas outsideMessage tableByAddress) start lookups = .ok accounts →
      ∃ sections, lookupSections known lookups = some sections
  | _, [], _, _ => ⟨[], rfl⟩
  | start, lookup :: lookups, accounts, h => by
    obtain ⟨head, tail, hhead, htail, -⟩ := encodeEach_cons h
    obtain ⟨sections, hsections⟩ := lookupSections_of_loadedMetas hknown htail
    unfold loadedMetas at hhead
    split at hhead
    · cases hhead
    rename_i table htable
    obtain ⟨accountsW, haccountsW, hhead⟩ := Except.bind_eq_ok.1 hhead
    obtain ⟨accountsR, haccountsR, -⟩ := Except.bind_eq_ok.1 hhead
    obtain ⟨writable, hwritable⟩ := tableMetas_ok haccountsW
    obtain ⟨readonly, hreadonly⟩ := tableMetas_ok haccountsR
    have hlisted := hknown lookup.accountKey
    rw [htable, Option.map_some] at hlisted
    have hw : Wire.tableEntries known lookup.accountKey lookup.writableIndexes = some writable :=
      Option.bind_eq_some_iff.2 ⟨_, hlisted, hwritable⟩
    have hr : Wire.tableEntries known lookup.accountKey lookup.readonlyIndexes = some readonly :=
      Option.bind_eq_some_iff.2 ⟨_, hlisted, hreadonly⟩
    refine ⟨(writable, readonly) :: sections, ?_⟩
    rw [lookupSections] at hsections ⊢
    rw [List.mapM_cons, hsections]
    simp [hw, hr]

/-- **What the accounts of the execution stand for**: entries of the last table at each address. -/
theorem resolveExecutionAccounts_ok {sha256 : Sha256} {message : SquadsVaultTransactionMessage}
    {vaultAddress transactionAddress : PublicKey} {ephemeralSignerCount : Nat}
    {tables : List AddressLookupTable} {accounts : List NamedAccountMeta}
    (h : Web.resolveExecutionAccounts sha256 message vaultAddress transactionAddress
      ephemeralSignerCount tables = .ok accounts) :
    ∃ programSigners sections parts,
      lookupSections (knownTables tables.reverse) message.addressTableLookups = some sections ∧
      Sectioned.sizes parts = lookupSizes message.addressTableLookups ∧
      List.Forall₂ StandsFor parts sections ∧
      accounts = executeAccounts message programSigners parts := by
  obtain ⟨programSigners, -, h⟩ := Except.bind_eq_ok.1 h
  obtain ⟨loaded, hloaded, hret⟩ := Except.bind_eq_ok.1 h
  cases hret
  have hknown := knownTables_find tables.reverse
  obtain ⟨sections, hsections⟩ := lookupSections_of_loadedMetas hknown hloaded
  obtain ⟨parts, hparts, hsizes, hstands⟩ :=
    loadedMetas_stands Web.outsideTableMessage hknown 0 hsections
  have hinterleave := hloaded.symm.trans hparts
  cases hinterleave
  exact ⟨programSigners, sections, parts, hsections, hsizes, hstands, rfl⟩

/-! ## Instructions -/

/-- The compiled instruction in the form whose indexes a key list resolves. -/
def Squads.SquadsCompiledInstruction.wire (compiled : SquadsCompiledInstruction) :
    Wire.CompiledInstruction :=
  ⟨compiled.programIdIndex, compiled.accountIndexes, compiled.data⟩

theorem forall₂_and {α β : Type} {R S : α → β → Prop} {as : List α} {bs : List β}
    (hR : List.Forall₂ R as bs) (hS : List.Forall₂ S as bs) :
    List.Forall₂ (fun a b => R a b ∧ S a b) as bs :=
  List.Forall₂.mp (fun _ _ => And.intro) hR hS

/-- Every address but the vault's is named by an instruction, so compiled instructions resolve
over other keys only when no key differs. -/
theorem resolves_iff_eq {instructions : List SolanaInstruction} {vaultAddress : PublicKey}
    {keys resolved : List PublicKey} {instructions' : List SquadsCompiledInstruction}
    (hall : List.Forall₂ (CompilesTo keys) instructions instructions') (hnodup : keys.Nodup)
    (hlength : resolved.length = keys.length) (hkeys : keys[0]? = some vaultAddress)
    (hresolved : resolved[0]? = some vaultAddress)
    (hnamed : ∀ key ∈ keys, key = vaultAddress ∨
      ∃ mention ∈ instructions.flatMap (·.mentions), mention.address = key) :
    List.Forall₂ (fun instruction compiled => Resolves resolved instruction compiled.wire)
      instructions instructions' ↔ resolved = keys := by
  constructor
  · intro h
    have hboth := forall₂_and hall h
    have hindex : ∀ key ∈ keys, ∃ i : Nat, keys[i]? = some key ∧ resolved[i]? = some key := by
      intro key hkey
      rcases hnamed key hkey with rfl | hmention
      · exact ⟨0, hkeys, hresolved⟩
      rw [exists_mention_iff] at hmention
      obtain ⟨instruction, hinstruction, huse⟩ := hmention
      obtain ⟨compiled, -, hcompiles, hresolves⟩ :=
        forall₂_exists_left hboth.flip instruction hinstruction
      rcases huse with ⟨account, haccount, rfl⟩ | rfl
      · have haccounts := forall₂_and hcompiles.accounts hresolves.accounts
        obtain ⟨index, -, hfound, hheld⟩ := forall₂_exists_left haccounts.flip account haccount
        exact ⟨index, accountIndexByAddress_some hfound, hheld⟩
      · exact ⟨_, accountIndexByAddress_some hcompiles.program, hresolves.program⟩
    refine List.ext_getElem hlength fun i hi hi' => ?_
    obtain ⟨k, hk, hheld⟩ := hindex keys[i] (List.getElem_mem hi')
    have hik : i = k :=
      (List.getElem?_inj hi' hnodup).1 ((List.getElem?_eq_getElem hi').trans hk.symm)
    rw [← hik, List.getElem?_eq_getElem hi] at hheld
    exact Option.some.inj hheld
  · rintro rfl
    exact hall.imp fun _ _ hcompiles => hcompiles.resolves

/-! ## Proposals -/

/-- What the web builder's compiler returns, with the state of its placement loop. -/
structure WebCompiled (instructions : List SolanaInstruction) (vaultAddress : PublicKey)
    (tables : List AddressLookupTable) (message : SquadsVaultTransactionMessage)
    (state : Web.PlacementState) (staticMetas : List AggregatedAccountMeta)
    (placement : Web.LookupPlacement) (instructions' : List SquadsCompiledInstruction) :
    Prop where
  collects : Collects tables (Web.aggregateAccountMetas instructions vaultAddress) state
  placement_eq : placement =
    Web.collectLookups tables state.writableIndexesByTable state.readonlyIndexesByTable
  layout : Layout (aggregateAccountMetas instructions vaultAddress) tables staticMetas
    placement.writableLoadedAddresses placement.readonlyLoadedAddresses
    (placement.addressTableLookups.map standardLookup)
  compiles : List.Forall₂ (CompilesTo (staticMetas.map (·.address) ++
    placement.writableLoadedAddresses ++ placement.readonlyLoadedAddresses)) instructions
    instructions'
  message_eq : message =
    vaultMessage staticMetas instructions' (placement.addressTableLookups.map standardLookup)

theorem webCompiled_of_ok {instructions : List SolanaInstruction} {vaultAddress : PublicKey}
    {tables : List AddressLookupTable} {message : SquadsVaultTransactionMessage}
    (h : Web.compileSquadsVaultMessage instructions vaultAddress tables = .ok message) :
    ∃ state staticMetas placement instructions',
      WebCompiled instructions vaultAddress tables message state staticMetas placement
        instructions' := by
  obtain ⟨placed, hplaced, hcompiles⟩ := web_compile_iff.1 h
  obtain ⟨⟨placedMetas, placement⟩, hplace, -⟩ := Except.bind_eq_ok.1 h
  obtain ⟨-, state, hcollects, -, hplacement, -⟩ := web_placeAccounts_ok hplace
  obtain ⟨placed', hplaced', hsame⟩ :=
    placeAccounts_same (payerFirst_aggregateAccountMetas instructions vaultAddress) hplace
  rw [aggregateAccountMetas_forget] at hplaced'
  cases hplaced.symm.trans hplaced'
  have hlayout := layout_of_place hplaced
  obtain ⟨instructions', hall, hmessage⟩ := hcompiles.compiled
  rw [hsame.writable, hsame.readonly, hsame.lookups] at hlayout
  rw [hsame.writable, hsame.readonly] at hall
  rw [hsame.lookups] at hmessage
  exact ⟨state, _, placement, instructions', hcollects, hplacement, hlayout, hall, hmessage⟩

/-- The accounts that the program loads for the proposal stand for the original addresses.  The
first four accounts of the execution are its own, the remaining ones are the message's. -/
def Denotes (request : Web.SquadsProposalRequest) (proposal : Web.SquadsProposal) : Prop :=
  ∃ loaded, loadExecution proposal.transactionMessage (proposal.execution.accounts.drop 4) =
      some loaded ∧
    List.Forall₂ (fun instruction compiled =>
        Resolves (loaded.map (·.address)) instruction compiled.wire)
      request.instructions proposal.transactionMessage.instructions

namespace WebCompiled

variable {instructions : List SolanaInstruction} {vaultAddress : PublicKey}
  {tables : List AddressLookupTable} {message : SquadsVaultTransactionMessage}
  {state : Web.PlacementState} {staticMetas : List AggregatedAccountMeta}
  {placement : Web.LookupPlacement} {instructions' : List SquadsCompiledInstruction}

theorem accountKeys_eq (h : WebCompiled instructions vaultAddress tables message state staticMetas
    placement instructions') : message.accountKeys = staticMetas.map (·.address) := by
  rw [h.message_eq]
  rfl

theorem instructions_eq (h : WebCompiled instructions vaultAddress tables message state staticMetas
    placement instructions') : message.instructions = instructions' := by
  rw [h.message_eq]
  rfl

theorem lookups_eq (h : WebCompiled instructions vaultAddress tables message state staticMetas
    placement instructions') : message.addressTableLookups = placement.addressTableLookups := by
  rw [h.message_eq]
  exact map_squadsLookup_standardLookup _

/-- The sections of the last tables are what the compiler loaded when the tables agree. -/
theorem sections_eq_iff_tablesAgree (h : WebCompiled instructions vaultAddress tables message state
    staticMetas placement instructions') {sections : List (List PublicKey × List PublicKey)}
    (hsections : lookupSections (knownTables tables.reverse) message.addressTableLookups =
      some sections) :
    sections.flatMap Prod.fst = placement.writableLoadedAddresses ∧
        sections.flatMap Prod.snd = placement.readonlyLoadedAddresses ↔
      TablesAgree instructions vaultAddress tables := by
  have hplacement := h.placement_eq
  rw [h.lookups_eq, hplacement] at hsections
  rw [hplacement, sections_eq_iff h.collects.inRange.1 h.collects.inRange.2 hsections]
  have hentry : ∀ (table : PublicKey) (j : Nat), ((knownTables tables.reverse).lookup table).bind (·[j]?) =
      (Web.lookupTableByAddress tables table).bind (·.addresses[j]?) := by
    intro table j
    rw [knownTables_find, Web.lookupTableByAddress, Option.bind_map]
    rfl
  simp only [hentry]
  constructor
  · rintro ⟨hwritable, hreadonly⟩ address i j table hloadable hplaced htable
    obtain ⟨table', htable', haddress⟩ := findPlacement_hit hplaced
    cases htable.symm.trans htable'
    obtain ⟨m, hm, hmovable, hhit⟩ :=
      exists_movable_iff (q := fun other => Web.findPlacement other 0 tables = some (i, j)).2
        ⟨address, hloadable, hplaced⟩
    rw [← haddress]
    cases hflag : m.isWritable with
    | true => exact hwritable i table htable j ((h.collects.writable_iff i j).2 ⟨m, hm, hmovable,
        hflag, hhit⟩)
    | false => exact hreadonly i table htable j ((h.collects.readonly_iff i j).2 ⟨m, hm, hmovable,
        hflag, hhit⟩)
  · intro hagree
    have hplaced : ∀ i table j m, tables[i]? = some table →
        m ∈ Web.aggregateAccountMetas instructions vaultAddress → Movable m →
        Web.findPlacement m.address 0 tables = some (i, j) →
        (Web.lookupTableByAddress tables table.address).bind (·.addresses[j]?) =
          table.addresses[j]? := by
      intro i table j m htable hm hmovable hhit
      obtain ⟨table', htable', haddress⟩ := findPlacement_hit hhit
      cases htable.symm.trans htable'
      obtain ⟨address, hloadable, haddress', hhit'⟩ := (exists_movable_iff (q := fun other =>
        other = m.address ∧ Web.findPlacement other 0 tables = some (i, j))).1
          ⟨m, hm, hmovable, rfl, hhit⟩
      rw [haddress, hagree address i j table hloadable hhit' htable, haddress']
    constructor
    · intro i table htable j hj
      obtain ⟨m, hm, hmovable, -, hhit⟩ := (h.collects.writable_iff i j).1 hj
      exact hplaced i table j m htable hm hmovable hhit
    · intro i table htable j hj
      obtain ⟨m, hm, hmovable, -, hhit⟩ := (h.collects.readonly_iff i j).1 hj
      exact hplaced i table j m htable hm hmovable hhit

/-- The accounts resolve the instructions exactly when the tables agree. -/
theorem resolves_iff (h : WebCompiled instructions vaultAddress tables message state staticMetas
    placement instructions') {sections : List (List PublicKey × List PublicKey)}
    {parts : List (List NamedAccountMeta × List NamedAccountMeta)}
    (hsections : lookupSections (knownTables tables.reverse) message.addressTableLookups =
      some sections) (hsizes : Sectioned.sizes parts = lookupSizes message.addressTableLookups)
    (hstands : List.Forall₂ StandsFor parts sections) :
    List.Forall₂ (fun instruction compiled =>
        Resolves (message.accountKeys ++ Sectioned.group sections) instruction compiled.wire)
      instructions message.instructions ↔ TablesAgree instructions vaultAddress tables := by
  have hmetas := aggregateAccountMetas_spec instructions vaultAddress
  have hwritable : placement.writableLoadedAddresses.length =
      (sections.flatMap Prod.fst).length := by
    rw [← (stands_writable hstands).length_eq, ← writableLoadedCount_eq hsizes,
      ← h.layout.sections.writable_length, SquadsVaultTransactionMessage.writableLoadedCount,
      h.lookups_eq, List.map_map]
    rfl
  have hreadonly : placement.readonlyLoadedAddresses.length =
      (sections.flatMap Prod.snd).length := by
    have hsecond := congrArg (List.map Prod.snd) hsizes
    rw [Sectioned.sizes, lookupSizes, List.map_map, List.map_map, h.lookups_eq] at hsecond
    rw [← (stands_readonly hstands).length_eq, List.length_flatMap,
      ← h.layout.sections.readonly_length, List.map_map]
    exact congrArg List.sum hsecond.symm
  have hkeys := h.layout.feePayer_first hmetas
  have hstatic := h.layout.lt_static hmetas hkeys (.inl rfl)
  have hcompiles := h.compiles
  have hnodup := h.layout.keys_perm.nodup_iff.2 hmetas.nodup
  have hnamed : ∀ key ∈ staticMetas.map (·.address) ++ placement.writableLoadedAddresses ++
      placement.readonlyLoadedAddresses, key = vaultAddress ∨
        ∃ mention ∈ instructions.flatMap (·.mentions), mention.address = key := by
    intro key hkey
    exact (hmetas.mem_iff key).1 (h.layout.keys_perm.mem_iff.1 hkey)
  rw [List.append_assoc] at hkeys hcompiles hnodup hnamed
  have hresolved : (staticMetas.map (·.address) ++ Sectioned.group sections)[0]? =
      some vaultAddress := by
    rw [List.getElem?_append_left (by rwa [List.length_map])] at hkeys ⊢
    exact hkeys
  rw [h.accountKeys_eq, h.instructions_eq, resolves_iff_eq hcompiles hnodup ?_ hkeys hresolved
    hnamed, List.append_cancel_left_eq, ← h.sections_eq_iff_tablesAgree hsections, Sectioned.group]
  · refine ⟨fun heq => List.append_inj heq hwritable.symm, ?_⟩
    rintro ⟨hw, hr⟩
    rw [hw, hr]
  · simp only [Sectioned.group, List.length_append]
    omega

end WebCompiled

/-- What a built proposal is made of. -/
theorem buildSquadsProposal_ok {sha256 : Sha256} {request : Web.SquadsProposalRequest}
    {proposal : Web.SquadsProposal}
    (h : Web.buildSquadsProposal sha256 request = .ok proposal) :
    Web.deriveSquadsVaultAddress sha256 request.multisigAddress request.vaultIndexOrZero =
        .ok proposal.vault ∧
      Web.compileSquadsVaultMessage request.instructions proposal.vault.address request.tables =
        .ok proposal.transactionMessage ∧
      Web.resolveExecutionAccounts sha256 proposal.transactionMessage proposal.vault.address
          proposal.transaction.address request.signerCount request.tables =
        .ok (proposal.execution.accounts.drop 4) := by
  simp only [Web.buildSquadsProposal, Except.bind_eq_ok] at h
  obtain ⟨vault, hvault, transaction, -, proposalAddress, -, message, hmessage, _, -, _, -, _, -,
    _, -, _, -, accounts, haccounts, hret⟩ := h
  cases hret
  exact ⟨hvault, hmessage, haccounts⟩

theorem denotes_iff_tablesAgree {sha256 : Sha256} {request : Web.SquadsProposalRequest}
    {proposal : Web.SquadsProposal}
    (h : Web.buildSquadsProposal sha256 request = .ok proposal) :
    Denotes request proposal ↔
      TablesAgree request.instructions proposal.vault.address request.tables := by
  obtain ⟨-, hmessage, haccounts⟩ := buildSquadsProposal_ok h
  obtain ⟨state, staticMetas, placement, instructions', hcompiled⟩ := webCompiled_of_ok hmessage
  obtain ⟨programSigners, sections, parts, hsections, hsizes, hstands, heq⟩ :=
    resolveExecutionAccounts_ok haccounts
  have hload : loadExecution proposal.transactionMessage
      (executeAccounts proposal.transactionMessage programSigners parts) = _ :=
    loadExecution_executeAccounts hsizes
  have haddresses : (staticAccounts proposal.transactionMessage programSigners ++
      Sectioned.group parts).map (·.address) =
      proposal.transactionMessage.accountKeys ++ Sectioned.group sections := by
    rw [List.map_append, staticAccounts_addresses, Sectioned.group, List.map_append,
      (stands_writable hstands).addresses_eq, (stands_readonly hstands).addresses_eq]
    rfl
  rw [Denotes, heq, hload, ← hcompiled.resolves_iff hsections hsizes hstands, ← haddresses]
  constructor
  · rintro ⟨loaded, hloaded, hall⟩
    cases hloaded
    exact hall
  · exact fun hall => ⟨_, rfl, hall⟩

/-- With tables at distinct addresses every proposal executes its instructions. -/
theorem denotes_of_nodup {sha256 : Sha256} {request : Web.SquadsProposalRequest}
    {proposal : Web.SquadsProposal}
    (h : Web.buildSquadsProposal sha256 request = .ok proposal)
    (hdistinct : (request.tables.map (·.address)).Nodup) : Denotes request proposal :=
  (denotes_iff_tablesAgree h).2 (tablesAgree_of_nodup _ _ hdistinct)

/-- **A built proposal executes the instructions it was built from exactly when the tables agree**
on every account that the compiler takes from one. -/
theorem denotes_iff {sha256 : Sha256} {request : Web.SquadsProposalRequest}
    {proposal : Web.SquadsProposal}
    (h : Web.buildSquadsProposal sha256 request = .ok proposal) :
    Denotes request proposal ↔ ∀ vault,
      Web.deriveSquadsVaultAddress sha256 request.multisigAddress request.vaultIndexOrZero =
        .ok vault → TablesAgree request.instructions vault.address request.tables := by
  obtain ⟨hvault, -, -⟩ := buildSquadsProposal_ok h
  rw [denotes_iff_tablesAgree h]
  constructor
  · intro hagree vault hderive
    cases hvault.symm.trans hderive
    exact hagree
  · exact fun hagree => hagree _ hvault

/-! ## Two tables at one address -/

/-- An instruction with two accounts that the tables list. -/
def twoTablesRequest (tables : List AddressLookupTable) : Web.SquadsProposalRequest where
  multisigAddress := .replicate 20
  creatorAddress := .replicate 21
  transactionIndex := .number 1
  instructions := [{ programAddress := .replicate 6
                     accounts := [⟨.replicate 3, false, true⟩, ⟨.replicate 5, false, false⟩]
                     data := [1] }]
  vaultIndex := none
  ephemeralSignerCount := none
  addressLookupTables := some tables
  rentPayerAddress := none
  approvalMemberAddress := none
  executorMemberAddress := none
  draft := none
  memo := none
  approvalMemo := none

/-- Each table lists one of the accounts. -/
def repeatedTables : List AddressLookupTable :=
  [⟨.replicate 9, [.replicate 3]⟩, ⟨.replicate 9, [.replicate 5]⟩]

/-- The second table extends the first. -/
def extendedTables : List AddressLookupTable :=
  [⟨.replicate 9, [.replicate 3]⟩, ⟨.replicate 9, [.replicate 3, .replicate 5]⟩]

/-- The proposal writes the second table's account instead of the first one's. -/
theorem not_denotes_repeatedTables : ∃ proposal,
    Web.buildSquadsProposal platformSha256 (twoTablesRequest repeatedTables) = .ok proposal ∧
      ¬Denotes (twoTablesRequest repeatedTables) proposal := by
  have hbuilds : (Web.buildSquadsProposal platformSha256
      (twoTablesRequest repeatedTables)).toOption.any (fun proposal =>
        proposal.vault.address != .replicate 3) = true := by decide +kernel
  obtain ⟨proposal, hproposal, hvault⟩ := Except.exists_of_any hbuilds
  refine ⟨proposal, hproposal, fun hdenotes => ?_⟩
  have hagree := (denotes_iff_tablesAgree hproposal).1 hdenotes
  have hloadable : Loadable (twoTablesRequest repeatedTables).instructions
      proposal.vault.address (.replicate 3) := by
    refine ⟨?_, Ne.symm (bne_iff_ne.1 hvault), ?_, ?_⟩
    · exact ⟨_, List.mem_singleton_self _, _, List.mem_cons_self, rfl⟩
    · simp [Names, twoTablesRequest]
    · exact List.forall_mem_singleton.2 (by decide +kernel)
  have hlast := hagree (.replicate 3) 0 0 _ hloadable (by decide +kernel) rfl
  exact absurd hlast (by decide +kernel)

theorem denotes_iff_extendedTables : ∃ proposal,
    Web.buildSquadsProposal platformSha256 (twoTablesRequest extendedTables) = .ok proposal ∧
      Denotes (twoTablesRequest extendedTables) proposal := by
  obtain ⟨proposal, hproposal⟩ := Except.exists_of_toBool
    (x := Web.buildSquadsProposal platformSha256 (twoTablesRequest extendedTables))
    (by decide +kernel)
  refine ⟨proposal, hproposal, (denotes_iff hproposal).2 fun vault _ => ?_⟩
  intro address i j table hloadable hplaced htable
  obtain ⟨instruction, hinstruction, account, haccount, rfl⟩ := hloadable.named
  cases List.mem_singleton.1 hinstruction
  have hfirst : Web.findPlacement (.replicate 3) 0 extendedTables = some (0, 0) := by
    decide +kernel
  have hsecond : Web.findPlacement (.replicate 5) 0 extendedTables = some (1, 1) := by
    decide +kernel
  rcases List.mem_cons.1 haccount with rfl | haccount
  · cases hfirst.symm.trans hplaced
    cases htable
    decide +kernel
  · cases List.mem_singleton.1 haccount
    cases hsecond.symm.trans hplaced
    cases htable
    decide +kernel

end Chancery
