import Chancery.WireRoundTrip
import Chancery.Lib.Table

/-!
# Signed transactions mean their instructions

What a validator reads from a signed transaction is what the caller asked to be done.

* `Layout` — the static and loaded keys that a compiled message lists; `compileMessage_layout`.
* `Layout.isSigner_iff`, `Layout.isWritable_iff` — the header's flags are the flags of the
  aggregated metas.
* `signedTransaction_resolves` — keys, indexes, flags and data of a signed transaction.
-/

set_option autoImplicit false

namespace Chancery

open Wire

/-! ## Lookup tables -/

/-- The tables by address. -/
def knownTables (tables : List AddressLookupTable) : List (PublicKey × List PublicKey) :=
  tables.map fun table => (table.address, table.addresses)

theorem Holds.mapM {table : AddressLookupTable} {indexes : List Nat} {addresses : List PublicKey}
    (h : Holds table indexes addresses) :
    (indexes.mapM fun index => table.addresses[index]?) = some addresses := by
  induction h with
  | nil => rfl
  | cons hab _ ih => simp [List.mapM_cons, hab, ih]

theorem loadedEntries_cons {known : List (PublicKey × List PublicKey)}
    {indexes : AddressTableLookup → List Nat} {lookup : AddressTableLookup}
    {lookups : List AddressTableLookup} {entries more : List PublicKey}
    (h : tableEntries known lookup.accountKey (indexes lookup) = some entries)
    (hmore : loadedEntries known indexes lookups = some more) :
    loadedEntries known indexes (lookup :: lookups) = some (entries ++ more) := by
  unfold loadedEntries at hmore ⊢
  obtain ⟨rest, hrest, heq⟩ := Option.bind_eq_some_iff.1 hmore
  cases heq
  simp [List.mapM_cons, h, hrest]

theorem Sections.loaded {known : List (PublicKey × List PublicKey)}
    {tables : List AddressLookupTable} {writable readonly : List PublicKey}
    {lookups : List CompiledAddressTableLookup} (h : Sections tables writable readonly lookups)
    (hknown : ∀ table ∈ tables, known.lookup table.address = some table.addresses) :
    loadedEntries known (·.writableIndexes) (lookups.map (·.wire)) = some writable ∧
      loadedEntries known (·.readonlyIndexes) (lookups.map (·.wire)) = some readonly := by
  induction h with
  | nil => exact ⟨rfl, rfl⟩
  | skip _ ih => exact ih fun table htable => hknown table (List.mem_cons_of_mem _ htable)
  | keep hwritable hreadonly _ ih =>
    obtain ⟨hmoreW, hmoreR⟩ := ih fun table htable => hknown table (List.mem_cons_of_mem _ htable)
    have htable := hknown _ List.mem_cons_self
    refine ⟨loadedEntries_cons ?_ hmoreW, loadedEntries_cons ?_ hmoreR⟩
    · exact Option.bind_eq_some_iff.2 ⟨_, htable, hwritable.mapM⟩
    · exact Option.bind_eq_some_iff.2 ⟨_, htable, hreadonly.mapM⟩

theorem Sections.fits {tables : List AddressLookupTable} {writable readonly : List PublicKey}
    {lookups : List CompiledAddressTableLookup} (h : Sections tables writable readonly lookups)
    (hsmall : ∀ table ∈ tables, table.addresses.length ≤ 256) :
    ∀ lookup ∈ lookups, lookup.Fits := by
  induction h with
  | nil => intro lookup hlookup; cases hlookup
  | skip _ ih => exact ih fun table htable => hsmall table (List.mem_cons_of_mem _ htable)
  | keep hwritable hreadonly _ ih =>
    have htable := hsmall _ List.mem_cons_self
    intro lookup hlookup
    rcases List.mem_cons.1 hlookup with rfl | hrest
    · refine ⟨fun index hindex => ?_, fun index hindex => ?_⟩
      · exact Nat.lt_of_lt_of_le (hwritable.lt index hindex) htable
      · exact Nat.lt_of_lt_of_le (hreadonly.lt index hindex) htable
    · exact ih (fun table htable => hsmall table (List.mem_cons_of_mem _ htable)) lookup hrest

theorem Sections.writable_length {tables : List AddressLookupTable}
    {writable readonly : List PublicKey} {lookups : List CompiledAddressTableLookup}
    (h : Sections tables writable readonly lookups) :
    (lookups.map fun lookup => lookup.writableIndexes.length).sum = writable.length := by
  induction h with
  | nil => rfl
  | skip _ ih => exact ih
  | keep hwritable _ _ ih =>
    rw [List.map_cons, List.sum_cons, ih, List.length_append, hwritable.length_eq]

theorem Sections.readonly_length {tables : List AddressLookupTable}
    {writable readonly : List PublicKey} {lookups : List CompiledAddressTableLookup}
    (h : Sections tables writable readonly lookups) :
    (lookups.map fun lookup => lookup.readonlyIndexes.length).sum = readonly.length := by
  induction h with
  | nil => rfl
  | skip _ ih => exact ih
  | keep _ hreadonly _ ih =>
    rw [List.map_cons, List.sum_cons, ih, List.length_append, hreadonly.length_eq]

/-! ## Layout -/

/-- The metas of a message: the ordered static ones, then the loaded ones. -/
structure Layout (metas : List AggregatedAccountMeta) (tables : List AddressLookupTable)
    (staticMetas : List AggregatedAccountMeta) (writable readonly : List PublicKey)
    (lookups : List CompiledAddressTableLookup) : Prop where
  ordered : ∃ first others, metas = first :: others ∧
    staticMetas = orderStaticAccountMetas (first :: others.filter (staysStatic tables)) ∧
    writable.Perm ((others.filter fun m => !staysStatic tables m && m.isWritable).map
      (·.address)) ∧
    readonly.Perm ((others.filter fun m => !staysStatic tables m && !m.isWritable).map
      (·.address))
  sections : Sections tables writable readonly lookups
  fits : ∀ lookup ∈ lookups, lookup.Fits

theorem placeMetas_nil : ∀ (metas : List AggregatedAccountMeta) (metaIndex : Nat)
    (state : PlacementState),
    placeMetas [] metaIndex metas state = { state with staticMetas := state.staticMetas ++ metas }
  | [], _, state => by
    rw [placeMetas, List.append_nil]
  | accountMeta :: metas, metaIndex, state => by
    have hnone : findPlacement accountMeta.isWritable accountMeta.address 0 [] = none := rfl
    rw [placeMetas, hnone]
    simp only [ite_self]
    rw [placeMetas_nil metas, PlacementState.addStatic]
    simp only [List.append_assoc, List.singleton_append]

/-- Without tables every meta is static. -/
theorem placeAccountsInLookupTables_nil (metas : List AggregatedAccountMeta) :
    placeAccountsInLookupTables metas [] = .ok ⟨metas, [], [], [], []⟩ := by
  unfold placeAccountsInLookupTables
  simp only [List.find?_nil, List.length_nil, List.replicate_zero, placeMetas_nil,
    collectLookups, List.nil_append]
  rfl

/-- The format that tables ask for. -/
def MessageVersion.ofTables (tables : List AddressLookupTable) : MessageVersion :=
  if tables.isEmpty then .unversioned else .zero

theorem MessageVersion.eq_nil_of_unversioned {tables : List AddressLookupTable}
    (h : MessageVersion.ofTables tables = .unversioned) : tables = [] := by
  unfold MessageVersion.ofTables at h
  split at h
  · rename_i hempty
    exact List.isEmpty_iff.1 hempty
  · cases h

/-- An unversioned message has nothing to look up. -/
theorem lookups_nil_of_unversioned {metas : List AggregatedAccountMeta}
    {tables : List AddressLookupTable} {placed : LookupCompilation}
    (hversion : MessageVersion.ofTables tables = .unversioned)
    (h : placeAccountsInLookupTables metas tables = .ok placed) : placed.lookups = [] := by
  rw [MessageVersion.eq_nil_of_unversioned hversion, placeAccountsInLookupTables_nil] at h
  cases h
  rfl

/-- With or without tables, a message is compiled from the metas that placement leaves static. -/
theorem compileMessage_eq (instructions : List SolanaInstruction)
    (feePayer recentBlockhash : PublicKey) (tables : List AddressLookupTable) :
    compileMessage instructions feePayer recentBlockhash tables = (do
      let placed ←
        placeAccountsInLookupTables (aggregateAccountMetas instructions feePayer) tables
      compileMessageBytes (.ofTables tables) instructions
        (orderStaticAccountMetas placed.staticMetas) placed.writableLoadedAddresses
        placed.readonlyLoadedAddresses placed.placements placed.lookups recentBlockhash) := by
  unfold compileMessage MessageVersion.ofTables
  cases tables with
  | nil =>
    rw [placeAccountsInLookupTables_nil]
    rfl
  | cons table tables => rfl

/-- **What placement hands to the byte stage** is a layout of the metas. -/
theorem layout_of_place {instructions : List SolanaInstruction} {feePayer : PublicKey}
    {tables : List AddressLookupTable} {placed : LookupCompilation}
    (h : placeAccountsInLookupTables (aggregateAccountMetas instructions feePayer) tables =
      .ok placed) :
    Layout (aggregateAccountMetas instructions feePayer) tables
      (orderStaticAccountMetas placed.staticMetas) placed.writableLoadedAddresses
      placed.readonlyLoadedAddresses placed.lookups := by
  obtain ⟨first, others, hmetas, -, -⟩ :=
    (aggregateAccountMetas_spec instructions feePayer).feePayer_first
  rw [hmetas] at h ⊢
  obtain ⟨hsmall, state, hplaces, hstatic, hcollect⟩ := placeAccountsInLookupTables_ok h
  obtain ⟨hsections, hwritable, hreadonly⟩ := collectLookups_ok hcollect
  refine ⟨⟨first, others, rfl, ?_, ?_, ?_⟩, hsections, hsections.fits hsmall⟩
  · rw [hstatic, hplaces.static_eq, List.singleton_append]
  · rw [hwritable]
    exact hplaces.writable_perm
  · rw [hreadonly]
    exact hplaces.readonly_perm

/-- **What the compiler hands to the byte stage** is a layout of the aggregated metas. -/
theorem compileMessage_layout {instructions : List SolanaInstruction}
    {feePayer recentBlockhash : PublicKey} {tables : List AddressLookupTable}
    {message : CompiledSolanaMessage}
    (h : compileMessage instructions feePayer recentBlockhash tables = .ok message) :
    ∃ version staticMetas writable readonly placements lookups,
      Layout (aggregateAccountMetas instructions feePayer) tables staticMetas writable readonly
        lookups ∧
      (version = if tables.isEmpty then .unversioned else .zero) ∧
      (version = .unversioned → lookups = []) ∧
      compileMessageBytes version instructions staticMetas writable readonly placements lookups
        recentBlockhash = .ok message := by
  rw [compileMessage_eq] at h
  obtain ⟨placed, hplaced, hbytes⟩ := Except.bind_eq_ok.1 h
  exact ⟨_, _, _, _, _, _, layout_of_place hplaced, rfl,
    fun hversion => lookups_nil_of_unversioned hversion hplaced, hbytes⟩

namespace Layout

variable {metas : List AggregatedAccountMeta} {tables : List AddressLookupTable}
  {staticMetas : List AggregatedAccountMeta} {writable readonly : List PublicKey}
  {lookups : List CompiledAddressTableLookup}

theorem mem_static (h : Layout metas tables staticMetas writable readonly lookups)
    {m : AggregatedAccountMeta} (hm : m ∈ staticMetas) : m ∈ metas := by
  obtain ⟨first, others, rfl, hstatic, -, -⟩ := h.ordered
  rw [hstatic, (orderStaticAccountMetas_perm _).mem_iff] at hm
  rcases List.mem_cons.1 hm with rfl | hm
  · exact List.mem_cons_self
  · exact List.mem_cons_of_mem _ (List.mem_filter.1 hm).1

theorem mem_loaded {others : List AggregatedAccountMeta} {flag : AggregatedAccountMeta → Bool}
    {loaded : List PublicKey} {key : PublicKey}
    (h : loaded.Perm ((others.filter fun m => !staysStatic tables m && flag m).map (·.address)))
    (hkey : key ∈ loaded) :
    ∃ m ∈ others, m.address = key ∧ m.isSigner = false ∧ m.isProgram = false ∧ flag m = true := by
  rw [h.mem_iff] at hkey
  obtain ⟨m, hm, rfl⟩ := List.mem_map.1 hkey
  obtain ⟨hmem, hflags⟩ := List.mem_filter.1 hm
  simp only [staysStatic, Bool.and_eq_true, Bool.not_eq_true', Bool.or_eq_false_iff] at hflags
  exact ⟨m, hmem, rfl, hflags.1.1.1, hflags.1.1.2, hflags.2⟩

/-- A key loaded for writing stands for a writable meta, neither signer nor program. -/
theorem mem_writable (h : Layout metas tables staticMetas writable readonly lookups)
    {key : PublicKey} (hkey : key ∈ writable) : ∃ m ∈ metas, m.address = key ∧
      m.isSigner = false ∧ m.isProgram = false ∧ m.isWritable = true := by
  obtain ⟨first, others, rfl, -, hperm, -⟩ := h.ordered
  obtain ⟨m, hm, hrest⟩ := mem_loaded hperm hkey
  exact ⟨m, List.mem_cons_of_mem _ hm, hrest⟩

theorem mem_readonly (h : Layout metas tables staticMetas writable readonly lookups)
    {key : PublicKey} (hkey : key ∈ readonly) : ∃ m ∈ metas, m.address = key ∧
      m.isSigner = false ∧ m.isProgram = false ∧ m.isWritable = false := by
  obtain ⟨first, others, rfl, -, -, hperm⟩ := h.ordered
  obtain ⟨m, hm, haddress, hsigner, hprogram, hflag⟩ := mem_loaded hperm hkey
  exact ⟨m, List.mem_cons_of_mem _ hm, haddress, hsigner, hprogram, by simpa using hflag⟩

/-- The keys of a message are the aggregated addresses, each once. -/
theorem keys_perm (h : Layout metas tables staticMetas writable readonly lookups) :
    (staticMetas.map (·.address) ++ writable ++ readonly).Perm (metas.map (·.address)) := by
  obtain ⟨first, others, rfl, hstatic, hwritable, hreadonly⟩ := h.ordered
  have hsorted : staticMetas.Perm (first :: others.filter (staysStatic tables)) := by
    rw [hstatic]
    exact orderStaticAccountMetas_perm _
  have hflags : ((others.filter fun m => !staysStatic tables m && m.isWritable) ++
      others.filter fun m => !staysStatic tables m && !m.isWritable).Perm
        (others.filter fun m => !staysStatic tables m) := by
    have := List.filter_append_perm (·.isWritable) (others.filter fun m => !staysStatic tables m)
    simpa only [List.filter_filter, Bool.and_comm] using this
  have hloaded : (writable ++ readonly).Perm
      ((others.filter fun m => !staysStatic tables m).map (·.address)) :=
    (hwritable.append hreadonly).trans (by rw [← List.map_append]; exact hflags.map _)
  have hall := (hsorted.map (·.address)).append hloaded
  rw [List.append_assoc]
  refine hall.trans ?_
  rw [← List.map_append, List.cons_append]
  exact ((List.filter_append_perm (staysStatic tables) others).cons first).map _

theorem key_cases {i : Nat} {key : PublicKey}
    (h : (staticMetas.map (·.address) ++ writable ++ readonly)[i]? = some key) :
    (∃ m, staticMetas[i]? = some m ∧ m.address = key) ∨
      (staticMetas.length ≤ i ∧ i < staticMetas.length + writable.length ∧ key ∈ writable) ∨
      (staticMetas.length + writable.length ≤ i ∧ key ∈ readonly) := by
  rw [List.append_assoc] at h
  by_cases hstatic : i < staticMetas.length
  · rw [List.getElem?_append_left (by rwa [List.length_map]), List.getElem?_map] at h
    exact .inl (Option.map_eq_some_iff.1 h)
  rw [List.getElem?_append_right (by rw [List.length_map]; omega), List.length_map] at h
  by_cases hwritable : i < staticMetas.length + writable.length
  · rw [List.getElem?_append_left (by omega)] at h
    exact .inr (.inl ⟨by omega, hwritable, List.mem_of_getElem? h⟩)
  · rw [List.getElem?_append_right (by omega)] at h
    exact .inr (.inr ⟨by omega, List.mem_of_getElem? h⟩)

theorem flag_iff (h : Layout metas tables staticMetas writable readonly lookups)
    {p : AggregatedAccountMeta → Bool} {threshold : Nat}
    (hp : ∀ m, p m = true ↔ accountOrderGroup m < threshold) {i : Nat} {m : AggregatedAccountMeta}
    (hm : staticMetas[i]? = some m) : p m = true ↔ i < staticMetas.countP p := by
  obtain ⟨first, others, -, hstatic, -, -⟩ := h.ordered
  rw [hstatic] at hm ⊢
  exact orderedFlag_iff hp hm

/-- **Signers** are exactly the fee payer and the addresses that some instruction signs with. -/
theorem isSigner_iff (h : Layout metas tables staticMetas writable readonly lookups)
    {feePayer : PublicKey} {mentions : List Mention} (hmetas : Aggregates feePayer mentions metas)
    {i : Nat} {key : PublicKey}
    (hkey : (staticMetas.map (·.address) ++ writable ++ readonly)[i]? = some key) :
    i < staticMetas.countP (·.isSigner) ↔ key = feePayer ∨
      ∃ mention ∈ mentions, mention.address = key ∧ mention.isSigner = true := by
  have hcount : staticMetas.countP (·.isSigner) ≤ staticMetas.length := List.countP_le_length
  rcases key_cases hkey with ⟨m, hm, rfl⟩ | ⟨hlow, -, hmem⟩ | ⟨hlow, hmem⟩
  · rw [← h.flag_iff isSigner_iff_group hm]
    exact hmetas.isSigner_iff m (h.mem_static (List.mem_of_getElem? hm))
  · obtain ⟨m, hm, rfl, hsigner, -, -⟩ := h.mem_writable hmem
    rw [← hmetas.isSigner_iff m hm, hsigner]
    simp only [Bool.false_eq_true, iff_false]
    omega
  · obtain ⟨m, hm, rfl, hsigner, -, -⟩ := h.mem_readonly hmem
    rw [← hmetas.isSigner_iff m hm, hsigner]
    simp only [Bool.false_eq_true, iff_false]
    omega

theorem countP_signers (metas : List AggregatedAccountMeta) :
    metas.countP (·.isSigner) = (metas.countP fun m => m.isSigner && m.isWritable) +
      metas.countP fun m => m.isSigner && !m.isWritable := by
  induction metas with
  | nil => rfl
  | cons m metas ih =>
    cases hs : m.isSigner <;> cases hw : m.isWritable <;> simp [hs, hw] <;> omega

theorem length_eq_countP (metas : List AggregatedAccountMeta) :
    metas.length = (metas.countP fun m => m.isSigner || m.isWritable) +
      metas.countP fun m => !m.isSigner && !m.isWritable := by
  induction metas with
  | nil => rfl
  | cons m metas ih =>
    cases hs : m.isSigner <;> cases hw : m.isWritable <;> simp [hs, hw] <;> omega

/-- The header splits the static keys as the flags do. -/
theorem static_isWritable_iff (h : Layout metas tables staticMetas writable readonly lookups)
    {i : Nat} {m : AggregatedAccountMeta} (hm : staticMetas[i]? = some m) :
    (if i < staticMetas.countP (·.isSigner) then
      i < staticMetas.countP (·.isSigner) -
        staticMetas.countP fun m => m.isSigner && !m.isWritable
    else i < staticMetas.length - staticMetas.countP fun m => !m.isSigner && !m.isWritable) ↔
      m.isWritable = true := by
  have hsigned := countP_signers staticMetas
  have hunsigned := length_eq_countP staticMetas
  have hsigner := h.flag_iff isSigner_iff_group hm
  have hboth := h.flag_iff writableSigner_iff_group hm
  have heither := h.flag_iff signerOrWritable_iff_group hm
  split
  · rename_i hlt
    rw [hsigner.2 hlt, Bool.true_and] at hboth
    rw [hboth]
    omega
  · rename_i hge
    have hflag : m.isSigner = false := by
      rw [← Bool.not_eq_true, hsigner]
      exact hge
    rw [hflag, Bool.false_or] at heither
    rw [heither]
    omega

/-- **Writable keys** are exactly the fee payer and the addresses that some instruction writes. -/
theorem isWritable_iff (h : Layout metas tables staticMetas writable readonly lookups)
    {feePayer : PublicKey} {mentions : List Mention} (hmetas : Aggregates feePayer mentions metas)
    {message : Message}
    (hrequired : message.numRequiredSignatures = staticMetas.countP (·.isSigner))
    (hsigned : message.numReadonlySignedAccounts =
      staticMetas.countP fun m => m.isSigner && !m.isWritable)
    (hunsigned : message.numReadonlyUnsignedAccounts =
      staticMetas.countP fun m => !m.isSigner && !m.isWritable)
    (hkeys : message.accountKeys = staticMetas.map (·.address))
    (hlookups : message.addressTableLookups = lookups.map (·.wire))
    {i : Nat} {key : PublicKey}
    (hkey : (staticMetas.map (·.address) ++ writable ++ readonly)[i]? = some key) :
    message.isWritable i ↔ key = feePayer ∨
      ∃ mention ∈ mentions, mention.address = key ∧ mention.isWritable = true := by
  have hcount : staticMetas.countP (·.isSigner) ≤ staticMetas.length := List.countP_le_length
  have hloaded : message.writableLoadedCount = writable.length := by
    rw [Message.writableLoadedCount, hlookups, List.map_map]
    exact h.sections.writable_length
  unfold Message.isWritable
  rw [hrequired, hsigned, hunsigned, hkeys, List.length_map, hloaded]
  rcases key_cases hkey with ⟨m, hm, rfl⟩ | ⟨hlow, hhigh, hmem⟩ | ⟨hlow, hmem⟩
  · have hlt := (List.getElem?_eq_some_iff.1 hm).1
    rw [if_pos hlt, h.static_isWritable_iff hm]
    exact hmetas.isWritable_iff m (h.mem_static (List.mem_of_getElem? hm))
  · obtain ⟨m, hm, rfl, -, -, hflag⟩ := h.mem_writable hmem
    rw [← hmetas.isWritable_iff m hm, hflag, if_neg (by omega), if_neg (by omega)]
    simp only [iff_true]
    exact hhigh
  · obtain ⟨m, hm, rfl, -, -, hflag⟩ := h.mem_readonly hmem
    rw [← hmetas.isWritable_iff m hm, hflag, if_neg (by omega), if_neg (by omega)]
    simp only [Bool.false_eq_true, iff_false]
    omega

/-- The fee payer, signers and programs are among the static keys. -/
theorem lt_static (h : Layout metas tables staticMetas writable readonly lookups)
    {feePayer : PublicKey} {mentions : List Mention} (hmetas : Aggregates feePayer mentions metas)
    {i : Nat} {key : PublicKey}
    (hkey : (staticMetas.map (·.address) ++ writable ++ readonly)[i]? = some key)
    (huse : key = feePayer ∨ ∃ mention ∈ mentions, mention.address = key ∧
      (mention.isSigner = true ∨ mention.isProgram = true)) : i < staticMetas.length := by
  have hloaded : ∀ m ∈ metas, m.address = key → m.isSigner = false → m.isProgram = false →
      False := by
    rintro m hm rfl hsigner hprogram
    rcases huse with hpayer | ⟨mention, hmention, haddress, hflag | hflag⟩
    · have := (hmetas.isSigner_iff m hm).2 (.inl hpayer)
      rw [hsigner] at this
      cases this
    · have := (hmetas.isSigner_iff m hm).2 (.inr ⟨mention, hmention, haddress, hflag⟩)
      rw [hsigner] at this
      cases this
    · have := (hmetas.isProgram_iff m hm).2 ⟨mention, hmention, haddress, hflag⟩
      rw [hprogram] at this
      cases this
  rcases key_cases hkey with ⟨m, hm, -⟩ | ⟨-, -, hmem⟩ | ⟨-, hmem⟩
  · exact (List.getElem?_eq_some_iff.1 hm).1
  · obtain ⟨m, hm, haddress, hsigner, hprogram, -⟩ := h.mem_writable hmem
    exact (hloaded m hm haddress hsigner hprogram).elim
  · obtain ⟨m, hm, haddress, hsigner, hprogram, -⟩ := h.mem_readonly hmem
    exact (hloaded m hm haddress hsigner hprogram).elim

end Layout

/-! ## Mentions -/

theorem exists_mention_iff {instructions : List SolanaInstruction} {q : Mention → Prop} :
    (∃ mention ∈ instructions.flatMap (·.mentions), q mention) ↔
      ∃ instruction ∈ instructions,
        (∃ account ∈ instruction.accounts,
          q ⟨account.address, account.isSigner, account.isWritable, false⟩) ∨
        q ⟨instruction.programAddress, false, false, true⟩ := by
  constructor
  · rintro ⟨mention, hmention, hq⟩
    obtain ⟨instruction, hinstruction, hmem⟩ := List.mem_flatMap.1 hmention
    refine ⟨instruction, hinstruction, ?_⟩
    rcases List.mem_append.1 hmem with haccount | hprogram
    · obtain ⟨account, hlisted, rfl⟩ := List.mem_map.1 haccount
      exact .inl ⟨account, hlisted, hq⟩
    · rw [List.mem_singleton.1 hprogram] at hq
      exact .inr hq
  · rintro ⟨instruction, hinstruction, ⟨account, haccount, hq⟩ | hq⟩
    · exact ⟨_, List.mem_flatMap.2 ⟨instruction, hinstruction,
        List.mem_append_left _ (List.mem_map_of_mem haccount)⟩, hq⟩
    · exact ⟨_, List.mem_flatMap.2 ⟨instruction, hinstruction,
        List.mem_append_right _ (List.mem_singleton_self _)⟩, hq⟩

/-- Does some meta in some instruction name the address with the flag? -/
def Names (instructions : List SolanaInstruction) (flag : SolanaInstructionAccountMeta → Bool)
    (address : PublicKey) : Prop :=
  ∃ instruction ∈ instructions, ∃ account ∈ instruction.accounts,
    account.address = address ∧ flag account = true

theorem names_signer_iff {instructions : List SolanaInstruction} {key : PublicKey} :
    Names instructions (·.isSigner) key ↔ ∃ mention ∈ instructions.flatMap (·.mentions),
      mention.address = key ∧ mention.isSigner = true := by
  rw [exists_mention_iff]
  simp [Names]

theorem names_writable_iff {instructions : List SolanaInstruction} {key : PublicKey} :
    Names instructions (·.isWritable) key ↔ ∃ mention ∈ instructions.flatMap (·.mentions),
      mention.address = key ∧ mention.isWritable = true := by
  rw [exists_mention_iff]
  simp [Names]

theorem invoked_iff {instructions : List SolanaInstruction} {key : PublicKey} :
    (∃ instruction ∈ instructions, instruction.programAddress = key) ↔
      ∃ mention ∈ instructions.flatMap (·.mentions),
        mention.address = key ∧ mention.isProgram = true := by
  rw [exists_mention_iff]
  simp

/-! ## Signing -/

theorem signForSigners_addresses {ed25519 : Ed25519} {message : Bytes}
    {keypairs : List SolanaKeypair} : ∀ {signers : List PublicKey}
    {signatures : List (PublicKey × Bytes)},
    signForSigners ed25519 message keypairs signers = .ok signatures →
      signatures.map Prod.fst = signers
  | [], _, h => by
    cases h
    rfl
  | signer :: signers, signatures, h => by
    unfold signForSigners at h
    split at h
    · cases h
    · obtain ⟨signature, _, hbody⟩ := Except.bind_eq_ok.1 h
      obtain ⟨others, hothers, hret⟩ := Except.bind_eq_ok.1 hbody
      cases hret
      rw [List.map_cons, signForSigners_addresses hothers]

theorem signatureBytes_ok : ∀ {signatures : List Bytes} {index : Nat} {bytes : Bytes},
    Codec.encodeEach (fun index (signature : Bytes) =>
      if signature.length ≠ 64 then
        .error s!"Transaction signature {index} must contain 64 bytes"
      else .ok signature) index signatures = .ok bytes →
      bytes = signatures.flatMap id ∧ bytes.length = 64 * signatures.length ∧
        ∀ signature ∈ signatures, signature.length = 64
  | [], _, _, h => by
    cases h
    exact ⟨rfl, rfl, fun _ hmem => by cases hmem⟩
  | signature :: signatures, index, bytes, h => by
    obtain ⟨head, tail, hhead, htail, rfl⟩ := Codec.encodeEach_cons h
    obtain ⟨hflat, hlen, hall⟩ := signatureBytes_ok htail
    split at hhead
    · cases hhead
    rename_i hsize
    cases hhead
    rw [ne_eq, not_not] at hsize
    refine ⟨by rw [hflat]; rfl, ?_, ?_⟩
    · rw [List.length_append, List.length_cons, hlen, hsize]
      omega
    · intro other hother
      rcases List.mem_cons.1 hother with rfl | hrest
      · exact hsize
      · exact hall other hrest

/-- A serialized transaction within the packet limit is its signatures and its message. -/
theorem decodeTransaction_serialize {message : Bytes} {signatures : List Bytes} {bytes : Bytes}
    {wire : Message} (h : serializeTransaction message signatures = .ok bytes)
    (hlimit : bytes.length ≤ maxTransactionBytes) (hmessage : decodeMessage message = .ok wire) :
    decodeTransaction bytes = .ok (signatures, wire) := by
  obtain ⟨count, hcount, hbody⟩ := Except.bind_eq_ok.1 h
  obtain ⟨body, hsignatures, hret⟩ := Except.bind_eq_ok.1 hbody
  cases hret
  obtain ⟨hflat, hlen, hall⟩ := signatureBytes_ok hsignatures
  simp only [List.length_append, maxTransactionBytes] at hlimit
  have hread : readVector (readBytes 64 "signature") (count ++ (body ++ message)) =
      .ok (signatures, message) := by
    rw [readVector_eq hcount (by omega), hflat]
    exact Codec.decodeEach_flatMap
      (fun signature hmem _ rest => readBytes_append (hall signature hmem) _ rest) 0 message
  exact Except.bind_eq_ok.2 ⟨_, hread, Except.bind_eq_ok.2 ⟨wire, hmessage, rfl⟩⟩

/-- What signing checks of the message: its size, and a signature for every signer. -/
theorem signSolanaTransaction_ok {ed25519 : Ed25519} {message : CompiledSolanaMessage}
    {keypairs : List SolanaKeypair} {signed : SignedSolanaTransaction}
    (h : signSolanaTransaction ed25519 message keypairs = .ok signed) :
    serializeTransaction message.bytes (signed.signatures.map Prod.snd) = .ok signed.bytes ∧
      signed.bytes.length ≤ maxTransactionBytes ∧
      signed.signatures.map Prod.fst = message.signerAddresses := by
  obtain ⟨signatures, hsignatures, hbody⟩ := Except.bind_eq_ok.1 h
  obtain ⟨bytes, hbytes, hrest⟩ := Except.bind_eq_ok.1 hbody
  have haddresses := signForSigners_addresses hsignatures
  split at hrest
  · cases hrest
  rename_i hlimit
  split at hrest
  · cases hrest
  · cases hrest
    exact ⟨hbytes, Nat.le_of_not_lt hlimit, haddresses⟩

theorem serializeTransaction_length {message : Bytes} {signatures : List Bytes} {bytes : Bytes}
    (h : serializeTransaction message signatures = .ok bytes) :
    message.length + 64 * signatures.length ≤ bytes.length := by
  obtain ⟨count, hcount, hbody⟩ := Except.bind_eq_ok.1 h
  obtain ⟨body, hsignatures, hret⟩ := Except.bind_eq_ok.1 hbody
  cases hret
  obtain ⟨-, hlen, -⟩ := signatureBytes_ok hsignatures
  simp only [List.length_append]
  omega

theorem compileMessageBytes_signers {version : MessageVersion}
    {instructions : List SolanaInstruction} {staticMetas : List AggregatedAccountMeta}
    {writable readonly : List PublicKey} {placements : List (PublicKey × LookupPlacement)}
    {lookups : List CompiledAddressTableLookup} {recentBlockhash : PublicKey}
    {message : CompiledSolanaMessage}
    (h : compileMessageBytes version instructions staticMetas writable readonly placements lookups
      recentBlockhash = .ok message) :
    message.numberOfRequiredSignatures = staticMetas.countP (·.isSigner) ∧
      message.signerAddresses.length = staticMetas.countP (·.isSigner) := by
  dsimp only [compileMessageBytes] at h
  split at h
  · cases h
  split at h
  · cases h
  split at h
  · cases h
  obtain ⟨_, _, hbody⟩ := Except.bind_eq_ok.1 h
  obtain ⟨_, _, hbody⟩ := Except.bind_eq_ok.1 hbody
  obtain ⟨_, _, hbody⟩ := Except.bind_eq_ok.1 hbody
  obtain ⟨_, _, hret⟩ := Except.bind_eq_ok.1 hbody
  cases hret
  refine ⟨rfl, ?_⟩
  rw [List.length_map, List.length_take]
  exact Nat.min_eq_left List.countP_le_length

/-! ## The signed transaction -/

/-- The message asks for exactly the instructions, with `keys` as its combined key list. -/
structure CarriesOut (instructions : List SolanaInstruction)
    (feePayer recentBlockhash : PublicKey) (message : Message) (keys : List PublicKey) : Prop where
  feePayer_first : keys[0]? = some feePayer
  nodup : keys.Nodup
  recentBlockhash_eq : message.recentBlockhash = recentBlockhash
  instructions_resolve : List.Forall₂ (Resolves keys) instructions message.instructions
  signer_iff : ∀ i key, keys[i]? = some key →
    (message.isSigner i ↔ key = feePayer ∨ Names instructions (·.isSigner) key)
  writable_iff : ∀ i key, keys[i]? = some key →
    (message.isWritable i ↔ key = feePayer ∨ Names instructions (·.isWritable) key)
  signer_static : ∀ i key, keys[i]? = some key →
    key = feePayer ∨ Names instructions (·.isSigner) key → i < message.accountKeys.length
  program_static : ∀ i key, keys[i]? = some key →
    (∃ instruction ∈ instructions, instruction.programAddress = key) →
      i < message.accountKeys.length

theorem Layout.feePayer_first {feePayer : PublicKey} {mentions : List Mention}
    {metas : List AggregatedAccountMeta} {tables : List AddressLookupTable}
    {staticMetas : List AggregatedAccountMeta} {writable readonly : List PublicKey}
    {lookups : List CompiledAddressTableLookup}
    (h : Layout metas tables staticMetas writable readonly lookups)
    (hmetas : Aggregates feePayer mentions metas) :
    (staticMetas.map (·.address) ++ writable ++ readonly)[0]? = some feePayer := by
  obtain ⟨first, others, rfl, hstatic, -, -⟩ := h.ordered
  obtain ⟨first', others', heq, haddress, hindex⟩ := hmetas.feePayer_first
  cases heq
  have hsigner := (hmetas.isSigner_iff first List.mem_cons_self).2 (.inl haddress)
  have hwritable := (hmetas.isWritable_iff first List.mem_cons_self).2 (.inl haddress)
  rw [hstatic, orderStaticAccountMetas_cons hsigner hwritable hindex, List.map_cons, haddress]
  rfl

/-- A message whose header and keys are those of a layout carries its instructions out. -/
theorem Layout.carriesOut {instructions : List SolanaInstruction}
    {feePayer recentBlockhash : PublicKey} {metas : List AggregatedAccountMeta}
    {tables : List AddressLookupTable} {staticMetas : List AggregatedAccountMeta}
    {writable readonly : List PublicKey} {lookups : List CompiledAddressTableLookup}
    (h : Layout metas tables staticMetas writable readonly lookups)
    (hmetas : Aggregates feePayer (instructions.flatMap (·.mentions)) metas) {message : Message}
    (hrequired : message.numRequiredSignatures = staticMetas.countP (·.isSigner))
    (hsigned : message.numReadonlySignedAccounts =
      staticMetas.countP fun m => m.isSigner && !m.isWritable)
    (hunsigned : message.numReadonlyUnsignedAccounts =
      staticMetas.countP fun m => !m.isSigner && !m.isWritable)
    (hkeys : message.accountKeys = staticMetas.map (·.address))
    (hlookups : message.addressTableLookups = lookups.map (·.wire))
    (hblockhash : message.recentBlockhash = recentBlockhash)
    (hresolve : List.Forall₂ (Resolves (staticMetas.map (·.address) ++ writable ++ readonly))
      instructions message.instructions) :
    CarriesOut instructions feePayer recentBlockhash message
      (staticMetas.map (·.address) ++ writable ++ readonly) where
  feePayer_first := h.feePayer_first hmetas
  nodup := h.keys_perm.nodup_iff.2 hmetas.nodup
  recentBlockhash_eq := hblockhash
  instructions_resolve := hresolve
  signer_iff := by
    intro i key hkey
    rw [names_signer_iff, Message.isSigner, hrequired]
    exact h.isSigner_iff hmetas hkey
  writable_iff := by
    intro i key hkey
    rw [names_writable_iff]
    exact h.isWritable_iff hmetas hrequired hsigned hunsigned hkeys hlookups hkey
  signer_static := by
    intro i key hkey huse
    rw [hkeys, List.length_map]
    refine h.lt_static hmetas hkey (huse.imp_right fun hnames => ?_)
    obtain ⟨mention, hmention, haddress, hflag⟩ := names_signer_iff.1 hnames
    exact ⟨mention, hmention, haddress, .inl hflag⟩
  program_static := by
    intro i key hkey huse
    rw [hkeys, List.length_map]
    obtain ⟨mention, hmention, haddress, hflag⟩ := invoked_iff.1 huse
    exact h.lt_static hmetas hkey (.inr ⟨mention, hmention, haddress, .inr hflag⟩)

/-- **A signed transaction asks for exactly the instructions it was compiled from**, as read by
the wire format with the lookup tables' entries. -/
theorem signedTransaction_resolves {ed25519 : Ed25519} {instructions : List SolanaInstruction}
    {feePayer recentBlockhash : PublicKey} {lookupTables : List AddressLookupTable}
    {keypairs : List SolanaKeypair} {signed : SignedSolanaTransaction}
    (hdistinct : (lookupTables.map (·.address)).Nodup)
    (hsigned : (do
      let message ← compileMessage instructions feePayer recentBlockhash lookupTables
      signSolanaTransaction ed25519 message keypairs) = .ok signed) :
    ∃ message keys,
      decodeTransaction signed.bytes = .ok (signed.signatures.map Prod.snd, message) ∧
      message.version = (if lookupTables.isEmpty then .legacy else .v0) ∧
      message.numRequiredSignatures = signed.signatures.length ∧
      message.keys (knownTables lookupTables) = some keys ∧
      CarriesOut instructions feePayer recentBlockhash message keys := by
  obtain ⟨compiledMessage, hcompile, hsign⟩ := Except.bind_eq_ok.1 hsigned
  obtain ⟨version, staticMetas, writable, readonly, placements, lookups, hlayout, hversion, hnone,
    hbytes⟩ := compileMessage_layout hcompile
  obtain ⟨hserialize, hlimit, haddresses⟩ := signSolanaTransaction_ok hsign
  obtain ⟨hrequired, hsigners⟩ := compileMessageBytes_signers hbytes
  have hsize := serializeTransaction_length hserialize
  have hcount : signed.signatures.length = staticMetas.countP (·.isSigner) := by
    rw [← hsigners, ← haddresses, List.length_map]
  rw [List.length_map, hcount] at hsize
  rw [maxTransactionBytes] at hlimit
  -- Signatures fill 64 bytes each, so a packet holds fewer than 128 and the first byte of an
  -- unversioned message has its high bit clear.
  obtain ⟨compiled, hresolve, hdecode⟩ := decodeMessage_compile hbytes (by omega) hlayout.fits
    (fun hv => ⟨by omega, hnone hv⟩)
  have hmetas := aggregateAccountMetas_spec instructions feePayer
  have hknown : ∀ table ∈ lookupTables,
      (knownTables lookupTables).lookup table.address = some table.addresses := by
    intro table htable
    refine Table.lookup_of_mem ?_ (List.mem_map.2 ⟨table, htable, rfl⟩)
    rwa [knownTables, List.map_map]
  obtain ⟨hloadedW, hloadedR⟩ := hlayout.sections.loaded hknown
  refine ⟨_, _, decodeTransaction_serialize hserialize hlimit hdecode, ?_, hcount.symm,
    Option.bind_eq_some_iff.2 ⟨_, hloadedW, Option.bind_eq_some_iff.2 ⟨_, hloadedR, rfl⟩⟩, ?_⟩
  · rw [hversion]
    split <;> rfl
  · exact hlayout.carriesOut hmetas rfl rfl rfl rfl rfl rfl hresolve

/-! ## A transaction with two lookup tables

The second instruction invokes a program that is also an account of the first one and listed in
a table; both tables hold the account that the first instruction writes and the second reads. -/

/-- The seed of the sample payer. -/
def demoSeed : Bytes := List.replicate 32 7

def demoPayer : PublicKey where
  bytes := [234, 74, 108, 99, 226, 156, 82, 10, 190, 245, 80, 123, 19, 46, 197, 249, 149, 71, 118,
    174, 190, 190, 123, 146, 66, 30, 234, 105, 20, 70, 210, 44]
  length_eq := rfl

/-- The Ed25519 key of the seed, in its DER wrapping, and its signature of the message below. -/
def demoEd25519 : Ed25519 where
  exportPublicKey seed := if seed = demoSeed then
    [48, 42, 48, 5, 6, 3, 43, 101, 112, 3, 33, 0] ++ demoPayer.bytes else []
  signBytes message seed := if seed = demoSeed ∧ message.length = 219 then
    [206, 165, 106, 159, 245, 152, 158, 72, 105, 191, 20, 202, 181, 209, 7, 254, 174, 88, 201, 223,
      244, 113, 210, 65, 180, 125, 154, 222, 242, 110, 88, 14, 42, 141, 239, 247, 70, 138, 180,
      180, 182, 209, 39, 123, 130, 253, 136, 51, 167, 88, 233, 197, 123, 12, 115, 170, 180, 76, 31,
      200, 31, 231, 61, 11] else []

def demoInstructions : List SolanaInstruction :=
  [{ programAddress := .replicate 2
     accounts := [⟨demoPayer, true, true⟩, ⟨.replicate 3, false, true⟩,
       ⟨.replicate 6, false, false⟩]
     data := [1, 2, 3] },
   { programAddress := .replicate 6
     accounts := [⟨.replicate 3, false, false⟩, ⟨.replicate 5, false, false⟩]
     data := [] }]

def demoTables : List AddressLookupTable :=
  [⟨.replicate 9, [.replicate 4, .replicate 3]⟩,
   ⟨.replicate 10, [.replicate 3, .replicate 6, .replicate 5, .replicate 5]⟩]

theorem signedTransaction_resolves_demo : ∃ signed message keys,
    (do
      let message ← compileMessage demoInstructions demoPayer (.replicate 8) demoTables
      signSolanaTransaction demoEd25519 message [⟨demoPayer, demoSeed⟩]) = .ok signed ∧
    decodeTransaction signed.bytes = .ok (signed.signatures.map Prod.snd, message) ∧
    message.keys (knownTables demoTables) = some keys ∧
    CarriesOut demoInstructions demoPayer (.replicate 8) message keys := by
  obtain ⟨signed, hsigned⟩ := Except.exists_of_toBool (x := do
    let message ← compileMessage demoInstructions demoPayer (.replicate 8) demoTables
    signSolanaTransaction demoEd25519 message [⟨demoPayer, demoSeed⟩]) (by decide +kernel)
  have hdistinct : (demoTables.map (·.address)).Nodup := by decide +kernel
  obtain ⟨message, keys, hdecode, -, -, hkeys, hcarries⟩ :=
    signedTransaction_resolves hdistinct hsigned
  exact ⟨signed, message, keys, hsigned, hdecode, hkeys, hcarries⟩

end Chancery
