import Chancery.BuilderStages

/-!
# Two compilers of vault messages

The web builder compiles a vault message in one pass, the TypeScript client through a standard
message that it parses again.

* `Compiles`, `PlacesAndCompiles` — when a layout is compiled, and to what.
* `web_compile_iff`, `squads_compile_iff` — both compilers do that.
* `compilers_agree` — the same messages and the same bytes.
-/

set_option autoImplicit false

namespace Chancery

open Squads Codec

/-! ## Compilation -/

/-- The placed metas fit every limit, and the message is theirs. -/
structure Compiles (instructions : List SolanaInstruction)
    (staticMetas : List AggregatedAccountMeta) (writable readonly : List PublicKey)
    (lookups : List CompiledAddressTableLookup) (message : SquadsVaultTransactionMessage) :
    Prop where
  static_length : staticMetas.length ≤ 255
  instructions_length : instructions.length ≤ 255
  lookups_length : lookups.length ≤ 255
  keys_length : (staticMetas.map (·.address) ++ writable ++ readonly).length ≤ 256
  instruction_lengths : ∀ instruction ∈ instructions,
    instruction.accounts.length ≤ 255 ∧ instruction.data.length ≤ 65535
  compiled : ∃ instructions', List.Forall₂
      (CompilesTo (staticMetas.map (·.address) ++ writable ++ readonly)) instructions
      instructions' ∧
    message = vaultMessage staticMetas instructions' lookups

/-- Placement succeeds, and what it returns compiles to the message. -/
def PlacesAndCompiles (instructions : List SolanaInstruction) (vaultAddress : PublicKey)
    (tables : List AddressLookupTable) (message : SquadsVaultTransactionMessage) : Prop :=
  ∃ placed, placeAccountsInLookupTables (aggregateAccountMetas instructions vaultAddress) tables =
      .ok placed ∧
    Compiles instructions (orderStaticAccountMetas placed.staticMetas)
      placed.writableLoadedAddresses placed.readonlyLoadedAddresses placed.lookups message

/-! ### In one pass -/

theorem web_compileProgramIndex_eq_ok {keys : List PublicKey} {staticCount index : Nat}
    {programAddress : PublicKey} :
    Web.compileProgramIndex keys staticCount programAddress = .ok index ↔
      accountIndexByAddress keys programAddress = some index ∧ index < staticCount := by
  unfold Web.compileProgramIndex
  cases accountIndexByAddress keys programAddress with
  | none => simp
  | some programIdIndex =>
    dsimp only
    split
    · simp only [reduceCtorEq, Option.some.injEq, false_iff, not_and]
      omega
    · simp only [Except.ok.injEq, Option.some.injEq]
      omega

theorem web_compileAccountIndex_eq_ok {keys : List PublicKey} {address : PublicKey} {index : Nat} :
    Web.compileAccountIndex keys address = .ok index ↔
      accountIndexByAddress keys address = some index := by
  unfold Web.compileAccountIndex
  cases accountIndexByAddress keys address with
  | none => simp
  | some accountIndex => simp

theorem web_compileInstruction_eq_ok {keys : List PublicKey} {staticCount : Nat}
    {instruction : SolanaInstruction} {compiled : SquadsCompiledInstruction} :
    Web.compileInstruction keys staticCount instruction = .ok compiled ↔
      CompilesTo keys instruction compiled ∧ compiled.programIdIndex < staticCount ∧
        instruction.accounts.length ≤ 255 ∧ instruction.data.length ≤ 65535 := by
  simp only [Web.compileInstruction, Except.bind_eq_ok, web_compileProgramIndex_eq_ok,
    rejectWhen_ok, Except.mapM_eq_ok, web_compileAccountIndex_eq_ok]
  constructor
  · rintro ⟨programIdIndex, ⟨hprogram, hlt⟩, _, hlengths, accountIndexes, haccounts, hret⟩
    cases hret
    exact ⟨⟨hprogram, haccounts, rfl⟩, hlt, by omega, by omega⟩
  · rintro ⟨⟨hprogram, haccounts, hdata⟩, hlt, haccountCount, hdataLength⟩
    refine ⟨_, ⟨hprogram, hlt⟩, (), by omega, _, haccounts, ?_⟩
    rw [← hdata]
    rfl

/-- Programs are static, so the web builder's check of their indexes never fails. -/
theorem Layout.program_lt {instructions : List SolanaInstruction} {vaultAddress : PublicKey}
    {tables : List AddressLookupTable} {staticMetas : List AggregatedAccountMeta}
    {writable readonly : List PublicKey} {lookups : List CompiledAddressTableLookup}
    (h : Layout (aggregateAccountMetas instructions vaultAddress) tables staticMetas writable
      readonly lookups) {instruction : SolanaInstruction} (hmem : instruction ∈ instructions)
    {compiled : SquadsCompiledInstruction}
    (hcompiles : CompilesTo (staticMetas.map (·.address) ++ writable ++ readonly) instruction
      compiled) : compiled.programIdIndex < staticMetas.length := by
  obtain ⟨mention, hmention, haddress, hflag⟩ := invoked_iff.1 ⟨instruction, hmem, rfl⟩
  exact h.lt_static (aggregateAccountMetas_spec instructions vaultAddress)
    (accountIndexByAddress_some hcompiles.program)
    (.inr ⟨mention, hmention, haddress, .inr hflag⟩)

theorem countP_forget (metas : List Web.AggregatedAccountMeta)
    (p : AggregatedAccountMeta → Bool) :
    (metas.map forget).countP p = metas.countP fun m => p (forget m) :=
  List.countP_map

theorem map_address_forget (metas : List Web.AggregatedAccountMeta) :
    (metas.map forget).map (·.address) = metas.map (·.address) := by
  rw [List.map_map]
  rfl

theorem web_compile_iff {instructions : List SolanaInstruction} {vaultAddress : PublicKey}
    {tables : List AddressLookupTable} {message : SquadsVaultTransactionMessage} :
    Web.compileSquadsVaultMessage instructions vaultAddress tables = .ok message ↔
      PlacesAndCompiles instructions vaultAddress tables message := by
  unfold Web.compileSquadsVaultMessage PlacesAndCompiles
  rw [← aggregateAccountMetas_forget]
  dsimp only
  cases hplace : Web.placeAccountsInLookupTables
      (Web.aggregateAccountMetas instructions vaultAddress) tables with
  | error e =>
    constructor
    · intro h
      cases h
    · rintro ⟨placed, hplaced, -⟩
      exact (placeAccounts_error hplace _ _ hplaced).elim
  | ok result =>
    obtain ⟨placedMetas, placement⟩ := result
    obtain ⟨placed, hplaced, hsame⟩ :=
      placeAccounts_same (payerFirst_aggregateAccountMetas instructions vaultAddress) hplace
    have haggregated : placeAccountsInLookupTables
        (aggregateAccountMetas instructions vaultAddress) tables = .ok placed := by
      rw [← aggregateAccountMetas_forget]
      exact hplaced
    have hlayout := layout_of_place haggregated
    have horder : orderStaticAccountMetas placed.staticMetas =
        (Web.orderStaticMetas placedMetas).map forget := by
      rw [hsame.staticMetas, orderStaticMetas_forget]
    have hkeys : (orderStaticAccountMetas placed.staticMetas).map (·.address) =
        (Web.orderStaticMetas placedMetas).map (·.address) := by
      rw [horder, map_address_forget]
    have hmessage : ∀ instructions', vaultMessage (orderStaticAccountMetas placed.staticMetas)
        instructions' placed.lookups =
        { numSigners := ((Web.orderStaticMetas placedMetas).countP (·.isSigner) : Nat)
          numWritableSigners :=
            ((Web.orderStaticMetas placedMetas).countP fun m => m.isSigner && m.isWritable : Nat)
          numWritableNonSigners :=
            ((Web.orderStaticMetas placedMetas).countP fun m => !m.isSigner && m.isWritable : Nat)
          accountKeys := (Web.orderStaticMetas placedMetas).map (·.address)
          instructions := instructions'
          addressTableLookups := placement.addressTableLookups } := by
      intro instructions'
      rw [vaultMessage, hkeys, hsame.lookups, map_squadsLookup_standardLookup, horder]
      simp only [countP_forget]
      rfl
    have hlength : (orderStaticAccountMetas placed.staticMetas).length =
        (Web.orderStaticMetas placedMetas).length := by
      rw [horder, List.length_map]
    rw [Except.bind_eq_ok]
    simp only [Except.bind_eq_ok, rejectWhen_ok, Except.mapM_eq_ok, web_compileInstruction_eq_ok]
    have hlookups : placed.lookups.length = placement.addressTableLookups.length := by
      rw [hsame.lookups, List.length_map]
    constructor
    · rintro ⟨_, hresult, _, hcounts, _, htotal, instructions', hall, hret⟩
      cases hresult
      cases hret
      rw [List.length_map, ← hlength, ← hlookups] at hcounts
      rw [← hkeys, ← hsame.writable, ← hsame.readonly] at hall htotal
      exact ⟨placed, hplaced, by omega, by omega, by omega, by omega,
        ((List.forall₂_and_left _ _).1 (hall.imp fun _ _ h => ⟨h.2.2, h.1⟩)).1,
        instructions', hall.imp fun _ _ h => h.1, (hmessage instructions').symm⟩
    · rintro ⟨placed', hplaced', hcompiles⟩
      rw [hplaced] at hplaced'
      cases hplaced'
      obtain ⟨instructions', hall, rfl⟩ := hcompiles.compiled
      have hstatic := hcompiles.static_length
      have hcount := hcompiles.instructions_length
      have hsections := hcompiles.lookups_length
      have htotal := hcompiles.keys_length
      have hall' := ((List.forall₂_and_left _ _).2 ⟨fun _ hmem => hmem, hall⟩).imp
        fun instruction compiled hboth => And.intro hboth.2 (And.intro
          (hlayout.program_lt hboth.1 hboth.2)
          (hcompiles.instruction_lengths instruction hboth.1))
      rw [hlength, hkeys, hsame.writable, hsame.readonly] at hall'
      rw [hkeys, hsame.writable, hsame.readonly] at htotal
      refine ⟨(placedMetas, placement), rfl, (), ?_, (), Nat.not_lt.2 htotal, instructions', ?_,
        congrArg Except.ok (hmessage instructions').symm⟩
      · rw [List.length_map, ← hlength, ← hlookups]
        omega
      · rw [List.length_map]
        exact hall'

/-! ### Through a standard message -/

theorem Sections.loadedAccountCount_eq {tables : List AddressLookupTable}
    {writable readonly : List PublicKey} {lookups : List CompiledAddressTableLookup}
    (h : Sections tables writable readonly lookups) :
    loadedAccountCount (lookups.map squadsLookup) = writable.length + readonly.length := by
  unfold loadedAccountCount
  induction h with
  | nil => rfl
  | skip _ ih => exact ih
  | keep hwritable hreadonly _ ih =>
    rw [List.map_cons, List.map_cons, List.sum_cons, ih, List.length_append, List.length_append,
      ← hwritable.length_eq, ← hreadonly.length_eq]
    simp only [squadsLookup]
    omega

theorem Sections.indexes_length {tables : List AddressLookupTable}
    {writable readonly : List PublicKey} {lookups : List CompiledAddressTableLookup}
    (h : Sections tables writable readonly lookups) : ∀ lookup ∈ lookups,
      lookup.writableIndexes.length ≤ writable.length ∧
        lookup.readonlyIndexes.length ≤ readonly.length := by
  induction h with
  | nil => exact fun lookup hlookup => (List.not_mem_nil hlookup).elim
  | skip _ ih => exact ih
  | keep hwritable hreadonly _ ih =>
    intro lookup hlookup
    rw [List.length_append, List.length_append, ← hwritable.length_eq, ← hreadonly.length_eq]
    rcases List.mem_cons.1 hlookup with rfl | hlookup
    · exact ⟨Nat.le_add_right _ _, Nat.le_add_right _ _⟩
    · obtain ⟨hw, hr⟩ := ih lookup hlookup
      omega

section

variable {instructions : List SolanaInstruction} {vaultAddress : PublicKey}
  {tables : List AddressLookupTable} {staticMetas : List AggregatedAccountMeta}
  {writable readonly : List PublicKey} {lookups : List CompiledAddressTableLookup}
  {message : SquadsVaultTransactionMessage}

theorem totalAccountCount_eq (hsections : Sections tables writable readonly lookups)
    (instructions' : List SquadsCompiledInstruction) :
    (vaultMessage staticMetas instructions' lookups).totalAccountCount =
      (staticMetas.map (·.address) ++ writable ++ readonly).length := by
  simp only [SquadsVaultTransactionMessage.totalAccountCount, vaultMessage,
    hsections.loadedAccountCount_eq, List.length_append, List.length_map]
  omega

/-- Whatever the instructions compile to within the limits is valid. -/
theorem Compiles.valid (h : Compiles instructions staticMetas writable readonly lookups message)
    (hlayout : Layout (aggregateAccountMetas instructions vaultAddress) tables staticMetas writable
      readonly lookups) : message.Valid := by
  obtain ⟨instructions', hall, rfl⟩ := h.compiled
  have hstatic := h.static_length
  have hsigned := Layout.countP_signers staticMetas
  have hcounts := countP_writableNonSigners staticMetas
  have hpos : 0 < staticMetas.length :=
    hlayout.lt_static (aggregateAccountMetas_spec instructions vaultAddress)
      (hlayout.feePayer_first (aggregateAccountMetas_spec instructions vaultAddress)) (.inl rfl)
  have hkeys := h.keys_length
  have htotal : (vaultMessage staticMetas instructions' lookups).totalAccountCount = _ :=
    totalAccountCount_eq hlayout.sections instructions'
  rw [List.length_append, List.length_append, List.length_map] at hkeys
  constructor
  · simp only [vaultMessage]
    omega
  · simp only [vaultMessage]
    omega
  · simp only [vaultMessage, List.length_map]
    omega
  · simpa only [vaultMessage, List.length_map] using hstatic
  · rw [vaultMessage, ← hall.length_eq]
    exact h.instructions_length
  · simpa only [vaultMessage, List.length_map] using h.lookups_length
  · intro lookup hlookup
    obtain ⟨compiled, hcompiled, rfl⟩ := List.mem_map.1 hlookup
    obtain ⟨hw, hr⟩ := hlayout.sections.indexes_length compiled hcompiled
    obtain ⟨hfitsW, hfitsR⟩ := hlayout.fits compiled hcompiled
    exact ⟨by simp only [squadsLookup]; omega, by simp only [squadsLookup]; omega, hfitsW, hfitsR⟩
  · rw [htotal]
    exact h.keys_length
  · intro compiled hcompiled
    obtain ⟨instruction, hmem, hcompiles⟩ := forall₂_exists_left hall compiled hcompiled
    have hprogram := hlayout.program_lt hmem hcompiles
    obtain ⟨haccounts, hdata⟩ := h.instruction_lengths instruction hmem
    have hindex : ∀ index ∈ compiled.accountIndexes,
        index < (staticMetas.map (·.address) ++ writable ++ readonly).length := by
      intro index hindex
      obtain ⟨account, -, hfound⟩ := forall₂_exists_left hcompiles.accounts index hindex
      exact (List.getElem?_eq_some_iff.1 (accountIndexByAddress_some hfound)).1
    rw [htotal]
    refine ⟨by omega, ?_, ?_, ?_, fun index hmemIndex => ?_⟩
    · simpa only [vaultMessage, List.length_map] using hprogram
    · rw [← hcompiles.accounts.length_eq]
      exact haccounts
    · rw [hcompiles.data]
      exact hdata
    · have hlt := hindex index hmemIndex
      have hle := h.keys_length
      exact ⟨by omega, hlt⟩

end

/-! ### The byte stage accepts -/

theorem encodeShortVectorLength_total {n : Nat} (h : n ≤ 65535) :
    ∃ bytes, encodeShortVectorLength n = .ok bytes :=
  ⟨_, if_pos (isSafeInteger_of_lt (by omega))⟩

theorem compileInstruction_total {keys : List PublicKey}
    (placements : List (PublicKey × LookupPlacement)) {instruction : SolanaInstruction}
    {compiled : SquadsCompiledInstruction} (h : CompilesTo keys instruction compiled)
    (hkeys : keys.length ≤ 256) (haccounts : instruction.accounts.length ≤ 255)
    (hdata : instruction.data.length ≤ 65535) :
    ∃ bytes, compileInstruction keys placements instruction = .ok bytes := by
  have hlt : ∀ {address : PublicKey} {index : Nat},
      accountIndexByAddress keys address = some index → index ≤ 255 := by
    intro address index hindex
    have := (List.getElem?_eq_some_iff.1 (accountIndexByAddress_some hindex)).1
    omega
  have hprogram := compileProgramIndex_eq_ok.2 ⟨h.program, hlt h.program⟩
  obtain ⟨accountCount, haccountCount⟩ :=
    encodeShortVectorLength_total (Nat.le_trans haccounts (by decide))
  obtain ⟨dataLength, hdataLength⟩ := encodeShortVectorLength_total hdata
  obtain ⟨accountIndexes, haccountIndexes⟩ := encodeEach_total
    (fun _ (account : SolanaInstructionAccountMeta) => do
      let compiledIndex ← compileAccountIndex keys placements account.address
      return [UInt8.ofNat compiledIndex])
    (fun account haccount _ => by
      obtain ⟨index, -, hindex⟩ := forall₂_exists_left h.accounts.flip account haccount
      exact ⟨_, Except.bind_eq_ok.2 ⟨_, compileAccountIndex_eq_ok.2 ⟨hindex, hlt hindex⟩, rfl⟩⟩)
    0
  exact ⟨_, Except.bind_eq_ok.2 ⟨_, hprogram, Except.bind_eq_ok.2 ⟨_, haccountCount,
    Except.bind_eq_ok.2 ⟨_, haccountIndexes, Except.bind_eq_ok.2 ⟨_, hdataLength, rfl⟩⟩⟩⟩⟩

theorem compileLookups_total (version : MessageVersion)
    {lookups : List CompiledAddressTableLookup} (hlength : lookups.length ≤ 255)
    (hindexes : ∀ lookup ∈ lookups,
      lookup.writableIndexes.length ≤ 256 ∧ lookup.readonlyIndexes.length ≤ 256) :
    ∃ bytes, compileLookups version lookups = .ok bytes := by
  cases version with
  | unversioned => exact ⟨[], rfl⟩
  | zero =>
    obtain ⟨lookupCount, hcount⟩ := encodeShortVectorLength_total (Nat.le_trans hlength (by decide))
    obtain ⟨lookupBytes, hbytes⟩ := encodeEach_total (fun _ => compileLookup)
      (fun lookup hlookup _ => by
        obtain ⟨hwritable, hreadonly⟩ := hindexes lookup hlookup
        obtain ⟨writableCount, hw⟩ :=
          encodeShortVectorLength_total (Nat.le_trans hwritable (by decide))
        obtain ⟨readonlyCount, hr⟩ :=
          encodeShortVectorLength_total (Nat.le_trans hreadonly (by decide))
        exact ⟨_, Except.bind_eq_ok.2 ⟨_, hw, Except.bind_eq_ok.2 ⟨_, hr, rfl⟩⟩⟩) 0
    exact ⟨_, Except.bind_eq_ok.2 ⟨_, hcount, Except.bind_eq_ok.2 ⟨_, hbytes, rfl⟩⟩⟩

/-- What compiles within the limits is written as a standard message. -/
theorem Compiles.compileMessageBytes_total {instructions : List SolanaInstruction}
    {tables : List AddressLookupTable} {staticMetas : List AggregatedAccountMeta}
    {writable readonly : List PublicKey} {lookups : List CompiledAddressTableLookup}
    {message : SquadsVaultTransactionMessage}
    (h : Compiles instructions staticMetas writable readonly lookups message)
    (hsections : Sections tables writable readonly lookups) (version : MessageVersion)
    (placements : List (PublicKey × LookupPlacement)) (recentBlockhash : PublicKey) :
    ∃ compiled, compileMessageBytes version instructions staticMetas writable readonly placements
      lookups recentBlockhash = .ok compiled := by
  obtain ⟨instructions', hall, -⟩ := h.compiled
  have hstatic := h.static_length
  have hkeys := h.keys_length
  obtain ⟨keyCount, hkeyCount⟩ := encodeShortVectorLength_total (Nat.le_trans hstatic (by decide))
  obtain ⟨instructionCount, hinstructionCount⟩ :=
    encodeShortVectorLength_total (Nat.le_trans h.instructions_length (by decide))
  obtain ⟨instructionBytes, hinstructionBytes⟩ := encodeEach_total
    (fun _ => compileInstruction (staticMetas.map (·.address) ++ writable ++ readonly) placements)
    (fun instruction hmem _ => by
      obtain ⟨compiled, -, hcompiles⟩ := forall₂_exists_left hall.flip instruction hmem
      obtain ⟨haccounts, hdata⟩ := h.instruction_lengths instruction hmem
      exact compileInstruction_total placements hcompiles hkeys haccounts hdata) 0
  obtain ⟨lookupBytes, hlookupBytes⟩ := compileLookups_total version h.lookups_length
    fun lookup hlookup => by
      obtain ⟨hw, hr⟩ := hsections.indexes_length lookup hlookup
      rw [List.length_append, List.length_append] at hkeys
      omega
  have hsigners : staticMetas.countP (·.isSigner) ≤ staticMetas.length := List.countP_le_length
  have hsigned := Layout.countP_signers staticMetas
  have hcounts := countP_writableNonSigners staticMetas
  unfold compileMessageBytes
  dsimp only
  rw [if_neg (by omega), if_neg (by omega), if_neg (by omega), List.length_map]
  exact ⟨_, Except.bind_eq_ok.2 ⟨_, hkeyCount, Except.bind_eq_ok.2 ⟨_, hinstructionCount,
    Except.bind_eq_ok.2 ⟨_, hinstructionBytes, Except.bind_eq_ok.2 ⟨_, hlookupBytes, rfl⟩⟩⟩⟩⟩

/-! ### Signers -/

/-- The vault and the accounts that sign, as often as they are named. -/
def signers (instructions : List SolanaInstruction) (vaultAddress : PublicKey) : List PublicKey :=
  vaultAddress ::
    ((instructions.flatMap (·.accounts)).filter (·.isSigner)).map (·.address)

theorem mem_signers {instructions : List SolanaInstruction} {vaultAddress key : PublicKey} :
    key ∈ signers instructions vaultAddress ↔
      key = vaultAddress ∨ Names instructions (·.isSigner) key := by
  simp only [signers, Names, List.mem_cons, List.mem_map, List.mem_filter, List.mem_flatMap]
  refine or_congr_right ⟨?_, ?_⟩
  · rintro ⟨account, ⟨⟨instruction, hmem, haccount⟩, hsigner⟩, haddress⟩
    exact ⟨instruction, hmem, account, haccount, haddress, hsigner⟩
  · rintro ⟨instruction, hmem, account, haccount, haddress, hsigner⟩
    exact ⟨account, ⟨⟨instruction, hmem, haccount⟩, hsigner⟩, haddress⟩

/-- Each signer in the header is one of the distinct signers. -/
theorem Layout.countP_signers_le {instructions : List SolanaInstruction}
    {vaultAddress : PublicKey} {tables : List AddressLookupTable}
    {staticMetas : List AggregatedAccountMeta} {writable readonly : List PublicKey}
    {lookups : List CompiledAddressTableLookup}
    (h : Layout (aggregateAccountMetas instructions vaultAddress) tables staticMetas writable
      readonly lookups) :
    staticMetas.countP (·.isSigner) ≤ (signers instructions vaultAddress).dedup.length := by
  have hmetas := aggregateAccountMetas_spec instructions vaultAddress
  have hnodup : ((staticMetas.filter (·.isSigner)).map (·.address)).Nodup := by
    have hkeys := h.keys_perm.nodup_iff.2 hmetas.nodup
    rw [List.append_assoc] at hkeys
    exact (List.nodup_append.1 hkeys).1.sublist (List.filter_sublist.map _)
  have hsubset : (staticMetas.filter (·.isSigner)).map (·.address) ⊆
      (signers instructions vaultAddress).dedup := by
    intro key hkey
    obtain ⟨m, hm, rfl⟩ := List.mem_map.1 hkey
    obtain ⟨hmem, hsigner⟩ := List.mem_filter.1 hm
    rw [List.mem_dedup, mem_signers, names_signer_iff]
    exact (hmetas.isSigner_iff m (h.mem_static hmem)).1 hsigner
  have hle := (List.subperm_of_subset hnodup hsubset).length_le
  rwa [List.length_map, ← List.countP_eq_length_filter] at hle

/-! ### The same messages -/

theorem CompilesTo.unique {keys : List PublicKey} : Relator.RightUnique (CompilesTo keys) := by
  intro instruction compiled compiled' h h'
  have hprogram := h.program.symm.trans h'.program
  have haccounts := List.right_unique_forall₂' (fun account index index' hindex hindex' =>
    Option.some.inj (hindex.symm.trans hindex')) h.accounts h'.accounts
  have hdata := h.data.trans h'.data.symm
  cases compiled
  cases compiled'
  cases hprogram
  cases haccounts
  cases hdata
  rfl

theorem squads_compile_iff {instructions : List SolanaInstruction} {vaultAddress : PublicKey}
    {tables : List AddressLookupTable} {message : SquadsVaultTransactionMessage}
    (hsigners : (signers instructions vaultAddress).dedup.length ≤ 127) :
    compileSquadsVaultTransactionMessage instructions vaultAddress tables = .ok message ↔
      PlacesAndCompiles instructions vaultAddress tables message := by
  constructor
  · intro h
    obtain ⟨placed, instructions', hplaced, hall, rfl, hvalid, -⟩ :=
      compileSquadsVaultTransactionMessage_placed h
    have hsections := (layout_of_place hplaced).sections
    have htotal := hvalid.total
    rw [totalAccountCount_eq hsections] at htotal
    refine ⟨placed, hplaced, ?_, ?_, ?_, htotal, fun instruction hmem => ?_, instructions', hall,
      rfl⟩
    · simpa only [vaultMessage, List.length_map] using hvalid.keys_length
    · rw [hall.length_eq]
      exact hvalid.instructions_length
    · simpa only [vaultMessage, List.length_map] using hvalid.lookups_length
    · obtain ⟨compiled, hcompiled, hcompiles⟩ := forall₂_exists_left hall.flip instruction hmem
      have hinstruction := hvalid.instructions compiled hcompiled
      rw [hcompiles.accounts.length_eq, ← hcompiles.data]
      exact ⟨hinstruction.accounts_length, hinstruction.data_length⟩
  · rintro ⟨placed, hplaced, hcompiles⟩
    have hlayout := layout_of_place hplaced
    have hfew := hlayout.countP_signers_le
    have hvalid := hcompiles.valid hlayout
    obtain ⟨compiled, hbytes⟩ := hcompiles.compileMessageBytes_total hlayout.sections
      (.ofTables tables) placed.placements zeroBlockhash
    have hcompile :
        compileMessage instructions vaultAddress zeroBlockhash tables = .ok compiled := by
      rw [compileMessage_eq]
      exact Except.bind_eq_ok.2 ⟨placed, hplaced, hbytes⟩
    obtain ⟨instructions', hall, hmessage⟩ := hcompiles.compiled
    obtain ⟨parsed, hall', hparse⟩ := parse_compile hbytes hlayout.fits
      fun hv => ⟨by omega, lookups_nil_of_unversioned hv hplaced⟩
    have hparsed : parsed = instructions' := List.right_unique_forall₂' CompilesTo.unique hall' hall
    have hvalidate : validateSquadsVaultTransactionMessage message = .ok () := validate_ok.2 hvalid
    rw [hparsed, ← hmessage, hvalidate] at hparse
    have hexecutes := executes_of_layout hlayout hall
    rw [← hmessage] at hexecutes
    have hfirst := hexecutes.vault_first
    have hsigns : 0 < message.numSigners := hexecutes.vault_signs.1
    have hwrites : 0 < message.numWritableSigners := by
      have hkeys := hvalid.numSigners
      have hwritable := hexecutes.vault_signs.2
      unfold SquadsVaultTransactionMessage.isWritable at hwritable
      rw [if_pos (List.getElem?_eq_some_iff.1 hfirst).1] at hwritable
      omega
    exact Except.bind_eq_ok.2 ⟨_, hcompile, Except.bind_eq_ok.2 ⟨_, hparse, Except.bind_eq_ok.2
      ⟨(), rejectWhen_ok.2 (by simp [hfirst]), Except.bind_eq_ok.2
        ⟨(), rejectWhen_ok.2 (by omega), rfl⟩⟩⟩⟩

/-! ## Encoding -/

/-- Integers that the client writes, the web builder writes alike. -/
theorem web_encodeUnsignedInteger_ok {value : Int} {byteLength : Nat} {label : String}
    {bytes : Bytes} (h : Squads.encodeUnsignedInteger value byteLength label = .ok bytes) :
    Web.encodeUnsignedInteger (.number value) byteLength label = .ok bytes := by
  simp only [Squads.encodeUnsignedInteger, Except.bind_eq_ok, rejectWhen_ok, not_or,
    Bool.not_eq_false] at h
  obtain ⟨_, ⟨hsafe, hnonneg⟩, _, hlt, hret⟩ := h
  have hinteger : Web.integerFromValue (.number value) label = .ok value := if_pos hsafe
  exact Except.bind_eq_ok.2 ⟨_, hinteger, Except.bind_eq_ok.2
    ⟨(), rejectWhen_ok.2 (not_or.2 ⟨hnonneg, hlt⟩), hret⟩⟩

theorem web_encodeInstruction_ok {instruction : SquadsCompiledInstruction} {bytes : Bytes}
    (h : Squads.encodeInstruction instruction = .ok bytes) :
    Web.encodeInstruction instruction = .ok bytes := by
  simp only [Squads.encodeInstruction, Except.bind_eq_ok] at h
  obtain ⟨programIdIndex, hprogram, accountCount, haccounts, dataLength, hdata, hret⟩ := h
  exact Except.bind_eq_ok.2 ⟨_, web_encodeUnsignedInteger_ok hprogram, Except.bind_eq_ok.2
    ⟨_, web_encodeUnsignedInteger_ok haccounts, Except.bind_eq_ok.2
    ⟨_, web_encodeUnsignedInteger_ok hdata, hret⟩⟩⟩

theorem web_encodeLookup_ok {lookup : SquadsMessageAddressTableLookup} {bytes : Bytes}
    (h : Squads.encodeLookup lookup = .ok bytes) : Web.encodeLookup lookup = .ok bytes := by
  simp only [Squads.encodeLookup, Except.bind_eq_ok] at h
  obtain ⟨writableCount, hwritable, readonlyCount, hreadonly, hret⟩ := h
  exact Except.bind_eq_ok.2 ⟨_, web_encodeUnsignedInteger_ok hwritable, Except.bind_eq_ok.2
    ⟨_, web_encodeUnsignedInteger_ok hreadonly, hret⟩⟩

/-- What the client encodes, the web builder encodes to the same bytes. -/
theorem web_encode_of_parts {message : SquadsVaultTransactionMessage} {bytes : Bytes}
    (h : encodeMessageParts message = .ok bytes) :
    Web.encodeSquadsVaultMessage message = .ok bytes := by
  simp only [encodeMessageParts, Except.bind_eq_ok] at h
  obtain ⟨numSigners, hsigners, numWritableSigners, hwritable, numWritableNonSigners, hnonSigners,
    keyCount, hkeyCount, instructionCount, hinstructionCount, instructions, hinstructions,
    lookupCount, hlookupCount, lookups, hlookups, hret⟩ := h
  have hinstructions' := encodeEach_mono
    (fun _ _ _ => web_encodeInstruction_ok) hinstructions
  have hlookups' := encodeEach_mono (fun _ _ _ => web_encodeLookup_ok) hlookups
  exact Except.bind_eq_ok.2 ⟨_, web_encodeUnsignedInteger_ok hsigners, Except.bind_eq_ok.2
    ⟨_, web_encodeUnsignedInteger_ok hwritable, Except.bind_eq_ok.2
    ⟨_, web_encodeUnsignedInteger_ok hnonSigners, Except.bind_eq_ok.2
    ⟨_, web_encodeUnsignedInteger_ok hkeyCount, Except.bind_eq_ok.2
    ⟨_, web_encodeUnsignedInteger_ok hinstructionCount, Except.bind_eq_ok.2
    ⟨_, hinstructions', Except.bind_eq_ok.2
    ⟨_, web_encodeUnsignedInteger_ok hlookupCount, Except.bind_eq_ok.2
    ⟨_, hlookups', hret⟩⟩⟩⟩⟩⟩⟩⟩

/-- **The two compilers agree**: with at most 127 distinct signers they accept the same inputs,
compile them to the same message and write it in the same bytes. -/
theorem compilers_agree (instructions : List SolanaInstruction) (vaultAddress : PublicKey)
    (tables : List AddressLookupTable)
    (hsigners : (signers instructions vaultAddress).dedup.length ≤ 127) :
    (Web.compileSquadsVaultMessage instructions vaultAddress tables).toOption =
        (compileSquadsVaultTransactionMessage instructions vaultAddress tables).toOption ∧
      ∀ message, Web.compileSquadsVaultMessage instructions vaultAddress tables = .ok message →
        ∃ bytes, Web.encodeSquadsVaultMessage message = .ok bytes ∧
          encodeSquadsVaultTransactionMessage message = .ok bytes := by
  constructor
  · exact Except.toOption_eq_of_ok_iff fun message =>
      web_compile_iff.trans (squads_compile_iff hsigners).symm
  · intro message h
    obtain ⟨placed, hplaced, hcompiles⟩ := web_compile_iff.1 h
    have hvalid := hcompiles.valid (layout_of_place hplaced)
    obtain ⟨bytes, hbytes⟩ := encodeMessageParts_total hvalid
    exact ⟨bytes, web_encode_of_parts hbytes,
      Except.bind_eq_ok.2 ⟨(), validate_ok.2 hvalid, hbytes⟩⟩

/-- Both compile the two instructions over two tables. -/
theorem compilers_agree_demo :
    (Web.compileSquadsVaultMessage demoInstructions demoPayer demoTables).toOption =
        (compileSquadsVaultTransactionMessage demoInstructions demoPayer demoTables).toOption ∧
      ∃ message bytes,
        Web.compileSquadsVaultMessage demoInstructions demoPayer demoTables = .ok message ∧
        Web.encodeSquadsVaultMessage message = .ok bytes ∧
        encodeSquadsVaultTransactionMessage message = .ok bytes := by
  have hagree := compilers_agree demoInstructions demoPayer demoTables (by decide +kernel)
  obtain ⟨message, hmessage⟩ := Except.exists_of_toBool
    (x := Web.compileSquadsVaultMessage demoInstructions demoPayer demoTables) (by decide +kernel)
  obtain ⟨bytes, hbytes⟩ := hagree.2 message hmessage
  exact ⟨hagree.1, message, bytes, hmessage, hbytes⟩

end Chancery
