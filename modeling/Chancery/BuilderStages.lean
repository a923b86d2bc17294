import Chancery.InstructionBuilder
import Chancery.SquadsVaultMessageLaws

/-!
# The stages of two compilers

Aggregation, placement and order in the web builder are those of the TypeScript client.

* `forget`, `aggregateAccountMetas_forget` — the same metas; `PayerFirst` — and the first one pays.
* `Collects` — the indexes collected for each table; `web_placeAccounts_ok`.
* `placeAccounts_same`, `placeAccounts_error` — placement accepts the same tables and says the same.
* `orderStaticMetas_forget` — the same order.
-/

set_option autoImplicit false

namespace Chancery

open Squads Codec

/-! ## Aggregation -/

/-- The meta without its payer mark. -/
def forget (m : Web.AggregatedAccountMeta) : AggregatedAccountMeta where
  address := m.address
  firstSeenIndex := m.firstSeenIndex
  isSigner := m.isSigner
  isWritable := m.isWritable
  isProgram := m.isProgram

def forgetState (state : Web.Aggregation) : Aggregation where
  metas := state.metas.map forget
  firstSeenIndex := state.firstSeenIndex

theorem merge_forget (state : Web.Aggregation) (address : PublicKey)
    (isSigner isWritable isProgram isPayer : Bool) :
    forgetState (state.merge address isSigner isWritable isProgram isPayer) =
      (forgetState state).merge address isSigner isWritable isProgram := by
  unfold Web.Aggregation.merge forgetState Aggregation.merge Web.mergeAccountMeta
    mergeAccountMeta
  simp only [Aggregation.mk.injEq, and_true, List.any_map]
  split
  · rename_i hany
    rw [if_pos (by simpa [forget, Function.comp_def] using hany),
      List.map_map, List.map_map]
    refine List.map_congr_left fun m _ => ?_
    simp only [Function.comp_apply, forget]
    by_cases haddress : (m.address == address) = true
    · rw [if_pos haddress]
      exact (if_pos haddress).symm
    · rw [if_neg haddress]
      exact (if_neg haddress).symm
  · rename_i hany
    rw [if_neg (by simpa [forget, Function.comp_def] using hany),
      List.map_append]
    rfl

theorem aggregateInstruction_forget (state : Web.Aggregation) (instruction : SolanaInstruction) :
    forgetState (Web.aggregateInstruction state instruction) =
      aggregateInstruction (forgetState state) instruction := by
  have haccounts : ∀ (accounts : List SolanaInstructionAccountMeta) (state : Web.Aggregation),
      forgetState (accounts.foldl (fun state account =>
        state.merge account.address account.isSigner account.isWritable false false) state) =
      accounts.foldl (fun state account =>
        state.merge account.address account.isSigner account.isWritable false)
        (forgetState state) := by
    intro accounts
    induction accounts with
    | nil => exact fun state => rfl
    | cons account accounts ih =>
      intro state
      rw [List.foldl_cons, List.foldl_cons, ih, merge_forget]
  rw [Web.aggregateInstruction, aggregateInstruction, merge_forget, haccounts]

theorem initialAggregation_forget (payer : PublicKey) :
    forgetState (Web.initialAggregation payer) = initialAggregation payer := rfl

/-- **Both aggregations collect the same metas.** -/
theorem aggregateAccountMetas_forget (instructions : List SolanaInstruction)
    (payer : PublicKey) : (Web.aggregateAccountMetas instructions payer).map forget =
      aggregateAccountMetas instructions payer := by
  have hfold : ∀ (instructions : List SolanaInstruction) (state : Web.Aggregation),
      forgetState (instructions.foldl Web.aggregateInstruction state) =
        instructions.foldl aggregateInstruction (forgetState state) := by
    intro instructions
    induction instructions with
    | nil => exact fun state => rfl
    | cons instruction instructions ih =>
      intro state
      rw [List.foldl_cons, List.foldl_cons, ih, aggregateInstruction_forget]
  have hmetas := congrArg Aggregation.metas (hfold instructions (Web.initialAggregation payer))
  rwa [initialAggregation_forget] at hmetas

/-- Only the first meta, a signer, is the payer's. -/
def PayerFirst (metas : List Web.AggregatedAccountMeta) : Prop :=
  ∃ first others, metas = first :: others ∧ first.isPayer = true ∧
    ∀ m ∈ others, m.isPayer = false

theorem PayerFirst.merge {state : Web.Aggregation} (h : PayerFirst state.metas)
    (address : PublicKey) (isSigner isWritable isProgram : Bool) :
    PayerFirst (state.merge address isSigner isWritable isProgram false).metas := by
  obtain ⟨first, others, hmetas, hfirst, hothers⟩ := h
  show PayerFirst (Web.mergeAccountMeta state.metas _ _ _ _ _ _)
  rw [hmetas, Web.mergeAccountMeta]
  split
  · rw [List.map_cons]
    refine ⟨_, _, rfl, ?_, fun m hm => ?_⟩
    · split
      · simp [hfirst]
      · exact hfirst
    · obtain ⟨existing, hexisting, rfl⟩ := List.mem_map.1 hm
      split
      · simp [hothers existing hexisting]
      · exact hothers existing hexisting
  · rw [List.cons_append]
    refine ⟨first, _, rfl, hfirst, fun m hm => ?_⟩
    rcases List.mem_append.1 hm with hm | hm
    · exact hothers m hm
    · rw [List.mem_singleton.1 hm]

theorem payerFirst_aggregateAccountMetas (instructions : List SolanaInstruction)
    (payer : PublicKey) : PayerFirst (Web.aggregateAccountMetas instructions payer) := by
  have haccounts : ∀ (accounts : List SolanaInstructionAccountMeta) (state : Web.Aggregation),
      PayerFirst state.metas → PayerFirst (accounts.foldl (fun state account =>
        state.merge account.address account.isSigner account.isWritable false false)
        state).metas := by
    intro accounts
    induction accounts with
    | nil => exact fun state hstate => hstate
    | cons account accounts ih => exact fun state hstate => ih _ (hstate.merge _ _ _ _)
  have hfold : ∀ (instructions : List SolanaInstruction) (state : Web.Aggregation),
      PayerFirst state.metas →
        PayerFirst (instructions.foldl Web.aggregateInstruction state).metas := by
    intro instructions
    induction instructions with
    | nil => exact fun state hstate => hstate
    | cons instruction instructions ih =>
      exact fun state hstate => ih _ ((haccounts _ state hstate).merge _ _ _ _)
  exact hfold instructions _ ⟨_, [], rfl, rfl, fun m hm => (List.not_mem_nil hm).elim⟩

/-! ## Placement -/

theorem findPlacement_eq (isWritable : Bool) (address : PublicKey) :
    ∀ (start : Nat) (tables : List AddressLookupTable),
      findPlacement isWritable address start tables =
        (Web.findPlacement address start tables).map fun hit => ⟨hit.1, hit.2, isWritable⟩
  | _, [] => rfl
  | start, table :: tables => by
    unfold findPlacement Web.findPlacement
    cases table.addresses.idxOf? address with
    | none => exact findPlacement_eq isWritable address (start + 1) tables
    | some addressIndex => rfl

/-- The placement loops have come to the same state; only one of them keeps the placements. -/
structure SamePlacement (found : Web.PlacementState) (state : PlacementState) : Prop where
  staticMetas : state.staticMetas = found.staticMetas.map forget
  writable : state.writableIndexesByTable = found.writableIndexesByTable
  readonly : state.readonlyIndexesByTable = found.readonlyIndexesByTable

theorem SamePlacement.addStatic {found : Web.PlacementState} {state : PlacementState}
    (h : SamePlacement found state) (m : Web.AggregatedAccountMeta) :
    SamePlacement (found.addStatic m) (state.addStatic (forget m)) where
  staticMetas := by
    rw [PlacementState.addStatic, Web.PlacementState.addStatic, h.staticMetas, List.map_append]
    rfl
  writable := h.writable
  readonly := h.readonly

theorem SamePlacement.place {found : Web.PlacementState} {state : PlacementState}
    (h : SamePlacement found state) (address : PublicKey) (isWritable : Bool)
    (tableIndex addressIndex : Nat) :
    SamePlacement (found.place isWritable tableIndex addressIndex)
      (state.place address ⟨tableIndex, addressIndex, isWritable⟩) := by
  unfold Web.PlacementState.place PlacementState.place
  cases isWritable with
  | true => exact ⟨h.staticMetas, by rw [← h.writable]; rfl, h.readonly⟩
  | false => exact ⟨h.staticMetas, h.writable, by rw [← h.readonly]; rfl⟩

/-- Past the first meta, neither loop looks at who pays. -/
theorem placeMetas_forget (tables : List AddressLookupTable) :
    ∀ {metas : List Web.AggregatedAccountMeta} {metaIndex : Nat} {found : Web.PlacementState}
      {state : PlacementState}, 0 < metaIndex → (∀ m ∈ metas, m.isPayer = false) →
      SamePlacement found state →
      SamePlacement (Web.placeMetas tables metas found)
        (placeMetas tables metaIndex (metas.map forget) state)
  | [], _, _, _, _, _, h => h
  | m :: metas, metaIndex, found, state, hpos, hpayers, h => by
    have hzero : (metaIndex == 0) = false := beq_false_of_ne (by omega)
    have hpayer := hpayers m List.mem_cons_self
    have hrest := fun other hother => hpayers other (List.mem_cons_of_mem m hother)
    rw [List.map_cons, Web.placeMetas, placeMetas, hzero, hpayer, findPlacement_eq]
    simp only [forget, Bool.or_false]
    split
    · exact placeMetas_forget tables (by omega) hrest (h.addStatic m)
    · cases Web.findPlacement m.address 0 tables with
      | none => exact placeMetas_forget tables (by omega) hrest (h.addStatic m)
      | some hit => exact placeMetas_forget tables (by omega) hrest (h.place _ _ _ _)

/-- A meta that may be loaded from a table. -/
def Movable (m : Web.AggregatedAccountMeta) : Prop :=
  m.isSigner = false ∧ m.isProgram = false ∧ m.isPayer = false

/-- The collected indexes are the places of the movable metas seen, by their writable flag. -/
structure Collects (tables : List AddressLookupTable) (seen : List Web.AggregatedAccountMeta)
    (state : Web.PlacementState) : Prop where
  writable_length : state.writableIndexesByTable.length = tables.length
  readonly_length : state.readonlyIndexesByTable.length = tables.length
  writable_iff : ∀ i j, j ∈ state.writableIndexesByTable.getD i [] ↔
    ∃ m ∈ seen, Movable m ∧ m.isWritable = true ∧ Web.findPlacement m.address 0 tables = some (i, j)
  readonly_iff : ∀ i j, j ∈ state.readonlyIndexesByTable.getD i [] ↔
    ∃ m ∈ seen, Movable m ∧ m.isWritable = false ∧
      Web.findPlacement m.address 0 tables = some (i, j)

theorem mem_push {indexesByTable : List (List Nat)} {k addressIndex : Nat}
    (hk : k < indexesByTable.length) (i j : Nat) :
    j ∈ (indexesByTable.modify k (· ++ [addressIndex])).getD i [] ↔
      j ∈ indexesByTable.getD i [] ∨ (k, addressIndex) = (i, j) := by
  rw [List.getD_eq_getElem?_getD, List.getD_eq_getElem?_getD, List.getElem?_modify]
  by_cases hi : k = i
  · subst hi
    rw [List.getElem?_eq_getElem hk]
    simp [eq_comm]
  · simp [hi]

theorem findPlacement_hit {address : PublicKey} {tables : List AddressLookupTable} {i j : Nat}
    (h : Web.findPlacement address 0 tables = some (i, j)) :
    ∃ table, tables[i]? = some table ∧ table.addresses[j]? = some address := by
  have hfound : findPlacement true address 0 tables = some ⟨i, j, true⟩ := by
    rw [findPlacement_eq, h]
    rfl
  obtain ⟨-, k, table, hk, htable, haddress⟩ := findPlacement_some hfound
  rw [Nat.zero_add] at hk
  cases hk
  exact ⟨table, htable, haddress⟩

theorem Collects.skip {tables : List AddressLookupTable} {seen : List Web.AggregatedAccountMeta}
    {state : Web.PlacementState} (h : Collects tables seen state) {m : Web.AggregatedAccountMeta}
    (hm : Movable m → Web.findPlacement m.address 0 tables = none) :
    Collects tables (seen ++ [m]) (state.addStatic m) := by
  have hnot : ∀ flag i j, ¬(Movable m ∧ m.isWritable = flag ∧
      Web.findPlacement m.address 0 tables = some (i, j)) := by
    rintro flag i j ⟨hmovable, -, hhit⟩
    rw [hm hmovable] at hhit
    cases hhit
  refine ⟨h.writable_length, h.readonly_length, fun i j => ?_, fun i j => ?_⟩
  · rw [exists_mem_append_singleton, or_iff_left (hnot true i j)]
    exact h.writable_iff i j
  · rw [exists_mem_append_singleton, or_iff_left (hnot false i j)]
    exact h.readonly_iff i j

theorem Collects.place {tables : List AddressLookupTable} {seen : List Web.AggregatedAccountMeta}
    {state : Web.PlacementState} (h : Collects tables seen state) {m : Web.AggregatedAccountMeta}
    (hm : Movable m) {tableIndex addressIndex : Nat}
    (hhit : Web.findPlacement m.address 0 tables = some (tableIndex, addressIndex)) :
    Collects tables (seen ++ [m]) (state.place m.isWritable tableIndex addressIndex) := by
  obtain ⟨table, htable, -⟩ := findPlacement_hit hhit
  have hlt : tableIndex < tables.length := (List.getElem?_eq_some_iff.1 htable).1
  unfold Web.PlacementState.place
  cases hwritable : m.isWritable with
  | true =>
    refine ⟨(List.length_modify ..).trans h.writable_length, h.readonly_length,
      fun i j => ?_, fun i j => ?_⟩
    · rw [exists_mem_append_singleton, ← h.writable_iff, hwritable, hhit]
      simpa [hm] using mem_push (by rwa [h.writable_length]) i j
    · rw [exists_mem_append_singleton, ← h.readonly_iff, hwritable]
      simp
  | false =>
    refine ⟨h.writable_length, (List.length_modify ..).trans h.readonly_length,
      fun i j => ?_, fun i j => ?_⟩
    · rw [exists_mem_append_singleton, ← h.writable_iff, hwritable]
      simp
    · rw [exists_mem_append_singleton, ← h.readonly_iff, hwritable, hhit]
      simpa [hm] using mem_push (by rwa [h.readonly_length]) i j

theorem collects_run {tables : List AddressLookupTable} :
    ∀ {metas seen : List Web.AggregatedAccountMeta} {state : Web.PlacementState},
      Collects tables seen state →
      Collects tables (seen ++ metas) (Web.placeMetas tables metas state)
  | [], seen, state, h => by rwa [List.append_nil]
  | m :: metas, seen, state, h => by
    rw [List.append_cons, Web.placeMetas]
    split
    · rename_i hflags
      refine collects_run (h.skip fun hmovable => ?_)
      rw [hmovable.1, hmovable.2.1, hmovable.2.2] at hflags
      cases hflags
    · rename_i hflags
      rw [Bool.not_eq_true, Bool.or_eq_false_iff, Bool.or_eq_false_iff] at hflags
      split
      · rename_i hnone
        exact collects_run (h.skip fun _ => hnone)
      · rename_i hhit
        exact collects_run (h.place ⟨hflags.1.1, hflags.1.2, hflags.2⟩ hhit)

theorem collects_initial (tables : List AddressLookupTable) :
    Collects tables [] ⟨[], List.replicate tables.length [], List.replicate tables.length []⟩ where
  writable_length := List.length_replicate
  readonly_length := List.length_replicate
  writable_iff := by simp
  readonly_iff := by simp

/-! ## Lookups -/

/-- The section as the standard message has it. -/
def standardLookup (lookup : SquadsMessageAddressTableLookup) : CompiledAddressTableLookup :=
  ⟨lookup.accountKey, lookup.writableIndexes, lookup.readonlyIndexes⟩

theorem map_squadsLookup_standardLookup (lookups : List SquadsMessageAddressTableLookup) :
    (lookups.map standardLookup).map squadsLookup = lookups := by
  rw [List.map_map]
  exact List.map_id' _

/-- Every index collected for a table is one of the table's. -/
def InRange (tables : List AddressLookupTable) (indexesByTable : List (List Nat)) : Prop :=
  ∀ i table, tables[i]? = some table →
    ∀ j ∈ indexesByTable.getD i [], j < table.addresses.length

theorem InRange.head {table : AddressLookupTable} {tables : List AddressLookupTable}
    {indexesByTable : List (List Nat)} (h : InRange (table :: tables) indexesByTable) :
    ∀ j ∈ indexesByTable.headD [], j < table.addresses.length := by
  have hzero := h 0 table rfl
  cases indexesByTable <;> exact hzero

theorem InRange.tail {table : AddressLookupTable} {tables : List AddressLookupTable}
    {indexesByTable : List (List Nat)} (h : InRange (table :: tables) indexesByTable) :
    InRange tables indexesByTable.tail := by
  intro i other hother
  have hsucc := h (i + 1) other hother
  cases indexesByTable <;> exact hsucc

theorem Collects.inRange {tables : List AddressLookupTable}
    {seen : List Web.AggregatedAccountMeta} {state : Web.PlacementState}
    (h : Collects tables seen state) : InRange tables state.writableIndexesByTable ∧
      InRange tables state.readonlyIndexesByTable := by
  have hhit : ∀ {i j : Nat} {table : AddressLookupTable} {address : PublicKey},
      tables[i]? = some table → Web.findPlacement address 0 tables = some (i, j) →
      j < table.addresses.length := by
    intro i j table address htable hhit
    obtain ⟨table', htable', haddress⟩ := findPlacement_hit hhit
    rw [htable] at htable'
    cases htable'
    exact (List.getElem?_eq_some_iff.1 haddress).1
  constructor
  · intro i table htable j hj
    obtain ⟨m, -, -, -, hplaced⟩ := (h.writable_iff i j).1 hj
    exact hhit htable hplaced
  · intro i table htable j hj
    obtain ⟨m, -, -, -, hplaced⟩ := (h.readonly_iff i j).1 hj
    exact hhit htable hplaced

theorem loadedAddresses_total (table : AddressLookupTable) (kind : String) :
    ∀ (indexes : List Nat) (start : Nat), (∀ j ∈ indexes, j < table.addresses.length) →
      encodeEach (fun _ index => match table.addresses[index]? with
        | some address => .ok [address]
        | none => .error s!"Lookup table {table.address.toBase58} {kind} index is invalid") start
        indexes = .ok (indexes.filterMap (table.addresses[·]?))
  | [], _, _ => rfl
  | j :: indexes, start, h => by
    have hsome := List.getElem?_eq_getElem (h j List.mem_cons_self)
    have hrest := loadedAddresses_total table kind indexes (start + 1)
      fun other hother => h other (List.mem_cons_of_mem j hother)
    rw [encodeEach, hsome, List.filterMap_cons, hsome]
    exact Except.bind_eq_ok.2 ⟨_, rfl, Except.bind_eq_ok.2 ⟨_, hrest, rfl⟩⟩

/-- Indexes within their tables are collected to the same sections. -/
theorem collectLookups_standard : ∀ {tables : List AddressLookupTable} {W R : List (List Nat)},
    InRange tables W → InRange tables R → collectLookups tables W R =
      .ok ((Web.collectLookups tables W R).writableLoadedAddresses,
        (Web.collectLookups tables W R).readonlyLoadedAddresses,
        (Web.collectLookups tables W R).addressTableLookups.map standardLookup)
  | [], _, _, _, _ => rfl
  | table :: tables, W, R, hW, hR => by
    have hmore := collectLookups_standard hW.tail hR.tail
    rw [collectLookups, Web.collectLookups]
    dsimp only
    split
    · exact hmore
    · exact Except.bind_eq_ok.2 ⟨_, loadedAddresses_total _ _ _ _ hW.head, Except.bind_eq_ok.2
        ⟨_, loadedAddresses_total _ _ _ _ hR.head, Except.bind_eq_ok.2 ⟨_, hmore, rfl⟩⟩⟩

/-- What the web builder's placement returns. -/
theorem web_placeAccounts_ok {metas staticMetas : List Web.AggregatedAccountMeta}
    {tables : List AddressLookupTable} {placement : Web.LookupPlacement}
    (h : Web.placeAccountsInLookupTables metas tables = .ok (staticMetas, placement)) :
    (∀ table ∈ tables, table.addresses.length ≤ 256) ∧ ∃ state, Collects tables metas state ∧
      staticMetas = state.staticMetas ∧ placement =
        Web.collectLookups tables state.writableIndexesByTable state.readonlyIndexesByTable ∧
      state = Web.placeMetas tables metas
        ⟨[], List.replicate tables.length [], List.replicate tables.length []⟩ := by
  obtain ⟨normalized, hnormalized, hret⟩ := Except.bind_eq_ok.1 h
  unfold Web.normalizeLookupTables at hnormalized
  split at hnormalized
  · cases hnormalized
  rename_i hsmall
  cases hnormalized
  cases hret
  refine ⟨fun table htable => ?_, _, collects_run (collects_initial tables), rfl, rfl, rfl⟩
  by_contra hlarge
  exact hsmall (List.any_eq_true.2 ⟨table, htable, decide_eq_true (by omega)⟩)

/-- The two placements say the same. -/
structure SamePlaced (staticMetas : List Web.AggregatedAccountMeta)
    (placement : Web.LookupPlacement) (placed : LookupCompilation) : Prop where
  staticMetas : placed.staticMetas = staticMetas.map forget
  writable : placed.writableLoadedAddresses = placement.writableLoadedAddresses
  readonly : placed.readonlyLoadedAddresses = placement.readonlyLoadedAddresses
  lookups : placed.lookups = placement.addressTableLookups.map standardLookup

theorem placeAccounts_same {metas staticMetas : List Web.AggregatedAccountMeta}
    {tables : List AddressLookupTable} {placement : Web.LookupPlacement}
    (hpayer : PayerFirst metas)
    (h : Web.placeAccountsInLookupTables metas tables = .ok (staticMetas, placement)) :
    ∃ placed, placeAccountsInLookupTables (metas.map forget) tables = .ok placed ∧
      SamePlaced staticMetas placement placed := by
  obtain ⟨hsmall, state, hcollects, rfl, rfl, hstate⟩ := web_placeAccounts_ok h
  obtain ⟨first, others, rfl, hfirst, hothers⟩ := hpayer
  have hnone : (tables.find? fun table => 256 < table.addresses.length) = none := by
    rw [List.find?_eq_none]
    intro table htable
    have := hsmall table htable
    simp only [decide_eq_true_eq]
    omega
  have hsame : SamePlacement state (placeMetas tables 0 ((first :: others).map forget)
      ⟨[], [], List.replicate tables.length [], List.replicate tables.length []⟩) := by
    rw [hstate, Web.placeMetas, List.map_cons, placeMetas, hfirst]
    simp only [Bool.or_true, BEq.rfl, if_true]
    exact placeMetas_forget tables Nat.one_pos hothers ⟨rfl, rfl, rfl⟩
  have hcollect := collectLookups_standard hcollects.inRange.1 hcollects.inRange.2
  rw [← hsame.writable, ← hsame.readonly] at hcollect
  unfold placeAccountsInLookupTables
  rw [hnone]
  refine ⟨_, Except.bind_of_ok hcollect _, hsame.staticMetas, ?_, ?_, ?_⟩
  · rw [← hsame.writable, ← hsame.readonly]
  · rw [← hsame.writable, ← hsame.readonly]
  · rw [← hsame.writable, ← hsame.readonly]

/-- Both placements refuse the same tables. -/
theorem placeAccounts_error {metas : List Web.AggregatedAccountMeta}
    {tables : List AddressLookupTable} {message : String}
    (h : Web.placeAccountsInLookupTables metas tables = .error message)
    (metas' : List AggregatedAccountMeta) (placed : LookupCompilation) :
    placeAccountsInLookupTables metas' tables ≠ .ok placed := by
  intro hplaced
  unfold placeAccountsInLookupTables at hplaced
  split at hplaced
  · cases hplaced
  rename_i hnone
  have hsmall : Web.normalizeLookupTables tables = .ok tables := by
    refine if_neg fun hany => ?_
    obtain ⟨table, htable, hlarge⟩ := List.any_eq_true.1 hany
    exact List.find?_eq_none.1 hnone table htable hlarge
  rw [Web.placeAccountsInLookupTables, hsmall] at h
  cases h

/-! ## Order -/

theorem accountOrder_forget (m m' : Web.AggregatedAccountMeta) :
    Web.accountOrder m m' ↔ accountOrder (forget m) (forget m') := Iff.rfl

theorem orderStaticMetas_forget (metas : List Web.AggregatedAccountMeta) :
    (Web.orderStaticMetas metas).map forget = orderStaticAccountMetas (metas.map forget) :=
  List.map_insertionSort Web.accountOrder accountOrder forget metas
    fun m _ m' _ => accountOrder_forget m m'

end Chancery
