import Chancery.SolanaTransaction
import Chancery.Lib.PrefixCount

/-!
# Account metas: aggregation, order, placement

What the first three stages of the compiler do to the accounts that instructions name.

* `Aggregates` — the invariant of the aggregation loop; `aggregateAccountMetas_spec`.
* `orderStaticAccountMetas_cons`, `orderStaticAccountMetas_groups` — the fee payer stays first;
  writable signers come before readonly ones before writable others before readonly others.
* `Places` — the invariant of the placement loop: signers, programs and metas that no table
  lists stay static, the others are loaded once each; `placeAccountsInLookupTables_ok`.
* `collectLookups_ok` — the sections list table indexes that hold the loaded addresses.
-/

set_option autoImplicit false

namespace Chancery

/-! ## Aggregation -/

/-- One appearance of an address in an instruction. -/
structure Mention where
  address : PublicKey
  isSigner : Bool
  isWritable : Bool
  isProgram : Bool

def SolanaInstruction.mentions (instruction : SolanaInstruction) : List Mention :=
  (instruction.accounts.map fun account =>
    ⟨account.address, account.isSigner, account.isWritable, false⟩) ++
  [⟨instruction.programAddress, false, false, true⟩]

def Aggregation.mention (state : Aggregation) (mention : Mention) : Aggregation :=
  state.merge mention.address mention.isSigner mention.isWritable mention.isProgram

theorem aggregateInstruction_eq (state : Aggregation) (instruction : SolanaInstruction) :
    aggregateInstruction state instruction = instruction.mentions.foldl .mention state := by
  rw [SolanaInstruction.mentions, List.foldl_append, List.foldl_map]
  rfl

theorem foldl_aggregateInstruction (instructions : List SolanaInstruction) (state : Aggregation) :
    instructions.foldl aggregateInstruction state =
      (instructions.flatMap (·.mentions)).foldl .mention state := by
  induction instructions generalizing state with
  | nil => rfl
  | cons instruction instructions ih =>
    rw [List.foldl_cons, ih, List.flatMap_cons, List.foldl_append, aggregateInstruction_eq]

/-- The aggregated metas say of every address what the mentions so far say of it. -/
structure Aggregates (feePayer : PublicKey) (mentions : List Mention)
    (metas : List AggregatedAccountMeta) : Prop where
  nodup : (metas.map (·.address)).Nodup
  feePayer_first : ∃ first others, metas = first :: others ∧ first.address = feePayer ∧
    first.firstSeenIndex = 0
  mem_iff : ∀ address, address ∈ metas.map (·.address) ↔
    address = feePayer ∨ ∃ mention ∈ mentions, mention.address = address
  isSigner_iff : ∀ m ∈ metas, m.isSigner = true ↔ m.address = feePayer ∨
    ∃ mention ∈ mentions, mention.address = m.address ∧ mention.isSigner = true
  isWritable_iff : ∀ m ∈ metas, m.isWritable = true ↔ m.address = feePayer ∨
    ∃ mention ∈ mentions, mention.address = m.address ∧ mention.isWritable = true
  isProgram_iff : ∀ m ∈ metas, m.isProgram = true ↔
    ∃ mention ∈ mentions, mention.address = m.address ∧ mention.isProgram = true

theorem aggregates_initial (feePayer : PublicKey) :
    Aggregates feePayer [] (initialAggregation feePayer).metas where
  nodup := List.nodup_singleton _
  feePayer_first := ⟨_, [], rfl, rfl, rfl⟩
  mem_iff := by simp [initialAggregation]
  isSigner_iff := by simp [initialAggregation]
  isWritable_iff := by simp [initialAggregation]
  isProgram_iff := by simp [initialAggregation]

/-- Merging changes the entry of one address and no address. -/
def mergeInto (mention : Mention) (existing : AggregatedAccountMeta) : AggregatedAccountMeta :=
  if existing.address == mention.address then
    { existing with
      isSigner := existing.isSigner || mention.isSigner
      isWritable := existing.isWritable || mention.isWritable
      isProgram := existing.isProgram || mention.isProgram }
  else existing

@[simp] theorem mergeInto_address (mention : Mention) (existing : AggregatedAccountMeta) :
    (mergeInto mention existing).address = existing.address := by
  unfold mergeInto
  split <;> rfl

@[simp] theorem mergeInto_firstSeenIndex (mention : Mention) (existing : AggregatedAccountMeta) :
    (mergeInto mention existing).firstSeenIndex = existing.firstSeenIndex := by
  unfold mergeInto
  split <;> rfl

theorem mergeInto_isSigner (mention : Mention) (existing : AggregatedAccountMeta) :
    (mergeInto mention existing).isSigner = true ↔ existing.isSigner = true ∨
      mention.address = existing.address ∧ mention.isSigner = true := by
  by_cases heq : existing.address = mention.address
  · simp [mergeInto, heq]
  · simp [mergeInto, heq, Ne.symm heq]

theorem mergeInto_isWritable (mention : Mention) (existing : AggregatedAccountMeta) :
    (mergeInto mention existing).isWritable = true ↔ existing.isWritable = true ∨
      mention.address = existing.address ∧ mention.isWritable = true := by
  by_cases heq : existing.address = mention.address
  · simp [mergeInto, heq]
  · simp [mergeInto, heq, Ne.symm heq]

theorem mergeInto_isProgram (mention : Mention) (existing : AggregatedAccountMeta) :
    (mergeInto mention existing).isProgram = true ↔ existing.isProgram = true ∨
      mention.address = existing.address ∧ mention.isProgram = true := by
  by_cases heq : existing.address = mention.address
  · simp [mergeInto, heq]
  · simp [mergeInto, heq, Ne.symm heq]

/-- An address is known and its entry is updated, or it is new and gets the last entry. -/
theorem mention_metas (state : Aggregation) (mention : Mention) :
    (mention.address ∈ state.metas.map (·.address) ∧
      (state.mention mention).metas = state.metas.map (mergeInto mention)) ∨
    (mention.address ∉ state.metas.map (·.address) ∧
      (state.mention mention).metas = state.metas ++
        [⟨mention.address, state.firstSeenIndex, mention.isSigner, mention.isWritable,
          mention.isProgram⟩]) := by
  have hany : (state.metas.any fun existing => existing.address == mention.address) = true ↔
      mention.address ∈ state.metas.map (·.address) := by
    simp [List.any_eq_true, List.mem_map]
  unfold Aggregation.mention Aggregation.merge mergeAccountMeta
  by_cases hmem : mention.address ∈ state.metas.map (·.address)
  · exact .inl ⟨hmem, if_pos (hany.2 hmem)⟩
  · exact .inr ⟨hmem, if_neg fun h => hmem (hany.1 h)⟩

theorem exists_mem_append_singleton {α : Type} {p : α → Prop} {l : List α} {a : α} :
    (∃ x ∈ l ++ [a], p x) ↔ (∃ x ∈ l, p x) ∨ p a := by
  simp [or_and_right, exists_or]

/-- One more mention keeps the invariant. -/
theorem Aggregates.mention {feePayer : PublicKey} {mentions : List Mention} {state : Aggregation}
    (h : Aggregates feePayer mentions state.metas) (mention : Mention) :
    Aggregates feePayer (mentions ++ [mention]) (state.mention mention).metas := by
  rcases mention_metas state mention with ⟨hmem, heq⟩ | ⟨hmem, heq⟩
  · have haddresses : ((state.metas.map (mergeInto mention)).map (·.address)) =
        state.metas.map (·.address) := by
      rw [List.map_map]
      exact List.map_congr_left fun m _ => mergeInto_address mention m
    rw [heq]
    constructor
    · rw [haddresses]
      exact h.nodup
    · obtain ⟨first, others, hmetas, haddress, hindex⟩ := h.feePayer_first
      refine ⟨mergeInto mention first, others.map (mergeInto mention), ?_, ?_, ?_⟩
      · rw [hmetas, List.map_cons]
      · rw [mergeInto_address, haddress]
      · rw [mergeInto_firstSeenIndex, hindex]
    · intro address
      rw [haddresses, h.mem_iff, exists_mem_append_singleton, ← or_assoc]
      refine ⟨.inl, fun hor => hor.elim id fun hlast => ?_⟩
      rw [← h.mem_iff, ← hlast]
      exact hmem
    · intro m hm
      obtain ⟨existing, hexisting, rfl⟩ := List.mem_map.1 hm
      rw [mergeInto_isSigner, h.isSigner_iff existing hexisting, mergeInto_address,
        exists_mem_append_singleton, or_assoc]
    · intro m hm
      obtain ⟨existing, hexisting, rfl⟩ := List.mem_map.1 hm
      rw [mergeInto_isWritable, h.isWritable_iff existing hexisting, mergeInto_address,
        exists_mem_append_singleton, or_assoc]
    · intro m hm
      obtain ⟨existing, hexisting, rfl⟩ := List.mem_map.1 hm
      rw [mergeInto_isProgram, h.isProgram_iff existing hexisting, mergeInto_address,
        exists_mem_append_singleton]
  · -- A new address is neither the fee payer nor mentioned before.
    have hnew := hmem
    rw [h.mem_iff, not_or] at hnew
    have hold : ∀ m ∈ state.metas, m.address ≠ mention.address := by
      intro m hm heq
      exact hmem (heq ▸ List.mem_map_of_mem hm)
    have hunseen : ∀ {p : Mention → Prop},
        ¬ ∃ x ∈ mentions, x.address = mention.address ∧ p x := by
      rintro p ⟨x, hx, haddress, _⟩
      exact hnew.2 ⟨x, hx, haddress⟩
    have hskip : ∀ {p : Mention → Prop}, ∀ m ∈ state.metas,
        ((∃ x ∈ mentions ++ [mention], x.address = m.address ∧ p x) ↔
          ∃ x ∈ mentions, x.address = m.address ∧ p x) := by
      intro p m hm
      rw [exists_mem_append_singleton]
      exact or_iff_left fun hlast => hold m hm hlast.1.symm
    rw [heq]
    constructor
    · rw [List.map_append, List.nodup_append]
      refine ⟨h.nodup, List.nodup_singleton _, ?_⟩
      rintro a ha b hb rfl
      rw [List.map_singleton, List.mem_singleton] at hb
      rw [hb] at ha
      exact hmem ha
    · obtain ⟨first, others, hmetas, haddress, hindex⟩ := h.feePayer_first
      exact ⟨first, others ++ [_], by rw [hmetas, List.cons_append], haddress, hindex⟩
    · intro address
      rw [List.map_append, List.mem_append, h.mem_iff, exists_mem_append_singleton, or_assoc,
        List.map_singleton, List.mem_singleton, eq_comm (a := address) (b := mention.address)]
    · intro m hm
      rcases List.mem_append.1 hm with hm | hm
      · rw [h.isSigner_iff m hm, hskip m hm]
      · rw [List.mem_singleton.1 hm, exists_mem_append_singleton]
        simp [hnew.1, hunseen]
    · intro m hm
      rcases List.mem_append.1 hm with hm | hm
      · rw [h.isWritable_iff m hm, hskip m hm]
      · rw [List.mem_singleton.1 hm, exists_mem_append_singleton]
        simp [hnew.1, hunseen]
    · intro m hm
      rcases List.mem_append.1 hm with hm | hm
      · rw [h.isProgram_iff m hm, hskip m hm]
      · rw [List.mem_singleton.1 hm, exists_mem_append_singleton]
        simp [hunseen]

theorem Aggregates.foldl {feePayer : PublicKey} : ∀ (more : List Mention) {mentions : List Mention}
    {state : Aggregation}, Aggregates feePayer mentions state.metas →
      Aggregates feePayer (mentions ++ more) (more.foldl .mention state).metas
  | [], mentions, state, h => by rwa [List.append_nil]
  | mention :: more, mentions, state, h => by
    have hrest := Aggregates.foldl more (h.mention mention)
    rwa [List.append_assoc] at hrest

/-- **Aggregation** collects exactly the addresses named, with the union of their flags. -/
theorem aggregateAccountMetas_spec (instructions : List SolanaInstruction)
    (feePayer : PublicKey) : Aggregates feePayer (instructions.flatMap (·.mentions))
      (aggregateAccountMetas instructions feePayer) := by
  have h := Aggregates.foldl (instructions.flatMap (·.mentions)) (aggregates_initial feePayer)
  rw [List.nil_append, ← foldl_aggregateInstruction] at h
  exact h

/-! ## Order -/

instance : IsTrans AggregatedAccountMeta accountOrder where
  trans a b c hab hbc := by
    unfold accountOrder at *
    omega

instance : Std.Total accountOrder where
  total a b := by
    unfold accountOrder
    omega

theorem orderStaticAccountMetas_perm (metas : List AggregatedAccountMeta) :
    (orderStaticAccountMetas metas).Perm metas := List.perm_insertionSort accountOrder metas

theorem orderStaticAccountMetas_groups (metas : List AggregatedAccountMeta) :
    (orderStaticAccountMetas metas).Pairwise fun x y =>
      accountOrderGroup x ≤ accountOrderGroup y := by
  refine (List.pairwise_insertionSort accountOrder metas).imp ?_
  intro x y h
  unfold accountOrder at h
  omega

/-- The fee payer, first in the map and a writable signer, stays first. -/
theorem orderStaticAccountMetas_cons {first : AggregatedAccountMeta}
    {others : List AggregatedAccountMeta} (hsigner : first.isSigner = true)
    (hwritable : first.isWritable = true) (hindex : first.firstSeenIndex = 0) :
    orderStaticAccountMetas (first :: others) = first :: orderStaticAccountMetas others := by
  have hgroup : accountOrderGroup first = 0 := by
    simp [accountOrderGroup, hsigner, hwritable]
  refine List.insertionSort_cons_of_forall_rel accountOrder fun other _ => ?_
  unfold accountOrder
  omega

/-- A flag that the order groups decide by a threshold holds below its count. -/
theorem orderedFlag_iff {p : AggregatedAccountMeta → Bool} {threshold : Nat}
    (hp : ∀ m, p m = true ↔ accountOrderGroup m < threshold)
    {metas : List AggregatedAccountMeta} {i : Nat} {m : AggregatedAccountMeta}
    (h : (orderStaticAccountMetas metas)[i]? = some m) :
    p m = true ↔ i < (orderStaticAccountMetas metas).countP p := by
  refine PrefixCount.iff_lt_countP ?_ h
  refine (orderStaticAccountMetas_groups metas).imp ?_
  intro x y hxy hy
  rw [hp] at hy ⊢
  omega

theorem isSigner_iff_group (m : AggregatedAccountMeta) :
    m.isSigner = true ↔ accountOrderGroup m < 2 := by
  cases hs : m.isSigner <;> cases hw : m.isWritable <;> simp [accountOrderGroup, hs, hw]

theorem writableSigner_iff_group (m : AggregatedAccountMeta) :
    (m.isSigner && m.isWritable) = true ↔ accountOrderGroup m < 1 := by
  cases hs : m.isSigner <;> cases hw : m.isWritable <;> simp [accountOrderGroup, hs, hw]

theorem signerOrWritable_iff_group (m : AggregatedAccountMeta) :
    (m.isSigner || m.isWritable) = true ↔ accountOrderGroup m < 3 := by
  cases hs : m.isSigner <;> cases hw : m.isWritable <;> simp [accountOrderGroup, hs, hw]

/-! ## Placement -/

theorem findPlacement_some {isWritable : Bool} {address : PublicKey} :
    ∀ {tables : List AddressLookupTable} {start : Nat} {placement : LookupPlacement},
      findPlacement isWritable address start tables = some placement →
      placement.isWritable = isWritable ∧ ∃ k table, placement.tableIndex = start + k ∧
        tables[k]? = some table ∧ table.addresses[placement.addressIndex]? = some address
  | [], _, _, h => by cases h
  | table :: tables, start, placement, h => by
    unfold findPlacement at h
    split at h
    · rename_i addressIndex hindex
      cases h
      obtain ⟨hlt, heq, _⟩ := List.findIdx?_eq_some_iff_getElem.1 hindex
      refine ⟨rfl, 0, table, rfl, rfl, ?_⟩
      rw [List.getElem?_eq_getElem hlt, eq_of_beq heq]
    · obtain ⟨hwritable, k, table', hk, htable, haddress⟩ := findPlacement_some h
      exact ⟨hwritable, k + 1, table', by omega, htable, haddress⟩

/-- The addresses that the tables hold at the collected indexes, table after table. -/
def loadedFrom : List AddressLookupTable → List (List Nat) → List PublicKey
  | [], _ => []
  | table :: tables, indexesByTable =>
    (indexesByTable.headD []).filterMap (table.addresses[·]?) ++
      loadedFrom tables indexesByTable.tail

theorem loadedFrom_replicate (tables : List AddressLookupTable) (n : Nat) :
    loadedFrom tables (List.replicate n []) = [] := by
  induction tables generalizing n with
  | nil => rfl
  | cons table tables ih =>
    cases n with
    | zero => exact ih 0
    | succ n => simp [loadedFrom, List.replicate_succ, ih]

/-- Pushing an index adds the address it stands for. -/
theorem loadedFrom_push {address : PublicKey} {addressIndex : Nat} :
    ∀ {tables : List AddressLookupTable} {indexesByTable : List (List Nat)} {k : Nat}
      {table : AddressLookupTable}, indexesByTable.length = tables.length →
      tables[k]? = some table → table.addresses[addressIndex]? = some address →
      (loadedFrom tables (indexesByTable.modify k (· ++ [addressIndex]))).Perm
        (address :: loadedFrom tables indexesByTable)
  | [], _, _, _, _, htable, _ => by cases htable
  | head :: tables, [], _, _, hlen, _, _ => by cases hlen
  | head :: tables, indexes :: rest, 0, table, _, htable, haddress => by
    cases htable
    simp only [List.modify_zero_cons, loadedFrom, List.headD_cons, List.tail_cons,
      List.filterMap_append, List.filterMap_cons, haddress, List.filterMap_nil]
    rw [List.append_assoc, List.singleton_append]
    exact List.perm_middle
  | head :: tables, indexes :: rest, k + 1, table, hlen, htable, haddress => by
    have ih : (loadedFrom tables (rest.modify k (· ++ [addressIndex]))).Perm
        (address :: loadedFrom tables rest) :=
      loadedFrom_push (by simpa using hlen) (by simpa using htable) haddress
    simp only [List.modify_succ_cons, loadedFrom, List.headD_cons, List.tail_cons]
    exact (ih.append_left _).trans List.perm_middle

/-- Must the meta stay static, the first one apart? -/
def staysStatic (tables : List AddressLookupTable) (m : AggregatedAccountMeta) : Bool :=
  m.isSigner || m.isProgram || (findPlacement m.isWritable m.address 0 tables).isNone

/-- The invariant of the placement loop over the metas seen so far. -/
structure Places (tables : List AddressLookupTable) (staticMetas seen : List AggregatedAccountMeta)
    (state : PlacementState) : Prop where
  writable_length : state.writableIndexesByTable.length = tables.length
  readonly_length : state.readonlyIndexesByTable.length = tables.length
  static_eq : state.staticMetas = staticMetas ++ seen.filter (staysStatic tables)
  writable_perm : (loadedFrom tables state.writableIndexesByTable).Perm
    ((seen.filter fun m => !staysStatic tables m && m.isWritable).map (·.address))
  readonly_perm : (loadedFrom tables state.readonlyIndexesByTable).Perm
    ((seen.filter fun m => !staysStatic tables m && !m.isWritable).map (·.address))

theorem Places.addStatic {tables : List AddressLookupTable}
    {staticMetas seen : List AggregatedAccountMeta} {state : PlacementState}
    (h : Places tables staticMetas seen state) {m : AggregatedAccountMeta}
    (hstatic : staysStatic tables m = true) :
    Places tables staticMetas (seen ++ [m]) (state.addStatic m) where
  writable_length := h.writable_length
  readonly_length := h.readonly_length
  static_eq := by
    rw [List.filter_append, List.filter_singleton, hstatic, ← List.append_assoc, ← h.static_eq]
    rfl
  writable_perm := by
    rw [List.filter_append, List.filter_singleton, hstatic]
    simpa [PlacementState.addStatic] using h.writable_perm
  readonly_perm := by
    rw [List.filter_append, List.filter_singleton, hstatic]
    simpa [PlacementState.addStatic] using h.readonly_perm

theorem perm_push {address : PublicKey} {loaded loaded' done : List PublicKey}
    (hpush : loaded'.Perm (address :: loaded)) (h : loaded.Perm done) :
    loaded'.Perm (done ++ [address]) :=
  (hpush.trans (h.cons address)).trans (List.perm_append_singleton address done).symm

theorem Places.place {tables : List AddressLookupTable}
    {staticMetas seen : List AggregatedAccountMeta} {state : PlacementState}
    (h : Places tables staticMetas seen state) {m : AggregatedAccountMeta}
    {placement : LookupPlacement} (hstatic : staysStatic tables m = false)
    (hplacement : findPlacement m.isWritable m.address 0 tables = some placement) :
    Places tables staticMetas (seen ++ [m]) (state.place m.address placement) := by
  obtain ⟨hwritable, k, table, hk, htable, haddress⟩ := findPlacement_some hplacement
  rw [Nat.zero_add] at hk
  unfold PlacementState.place
  rw [hwritable, hk]
  cases hm : m.isWritable with
  | true =>
    have hpush := loadedFrom_push h.writable_length htable haddress
    refine ⟨?_, h.readonly_length, ?_, ?_, ?_⟩
    · exact (List.length_modify ..).trans h.writable_length
    · rw [List.filter_append, List.filter_singleton, hstatic]
      simpa using h.static_eq
    · rw [List.filter_append, List.filter_singleton, hstatic, hm, List.map_append]
      exact perm_push hpush h.writable_perm
    · rw [List.filter_append, List.filter_singleton, hstatic, hm]
      simpa using h.readonly_perm
  | false =>
    have hpush := loadedFrom_push h.readonly_length htable haddress
    refine ⟨h.writable_length, ?_, ?_, ?_, ?_⟩
    · exact (List.length_modify ..).trans h.readonly_length
    · rw [List.filter_append, List.filter_singleton, hstatic]
      simpa using h.static_eq
    · rw [List.filter_append, List.filter_singleton, hstatic, hm]
      simpa using h.writable_perm
    · rw [List.filter_append, List.filter_singleton, hstatic, hm, List.map_append]
      exact perm_push hpush h.readonly_perm

theorem places_run {tables : List AddressLookupTable} {staticMetas : List AggregatedAccountMeta} :
    ∀ {metas seen : List AggregatedAccountMeta} {state : PlacementState} {metaIndex : Nat},
      0 < metaIndex → Places tables staticMetas seen state →
      Places tables staticMetas (seen ++ metas) (placeMetas tables metaIndex metas state)
  | [], seen, state, metaIndex, _, h => by rwa [List.append_nil]
  | m :: metas, seen, state, metaIndex, hpos, h => by
    have hzero : (metaIndex == 0) = false := beq_false_of_ne (by omega)
    rw [List.append_cons, placeMetas, hzero, Bool.or_false]
    split
    · rename_i hflags
      exact places_run (by omega) (h.addStatic (by rw [staysStatic, hflags, Bool.true_or]))
    · rename_i hflags
      rw [Bool.not_eq_true] at hflags
      split
      · rename_i hnone
        exact places_run (by omega) (h.addStatic (by rw [staysStatic, hnone]; simp))
      · rename_i placement hsome
        exact places_run (by omega) (h.place (by rw [staysStatic, hflags, hsome]; rfl) hsome)

theorem places_initial (tables : List AddressLookupTable) (first : AggregatedAccountMeta) :
    Places tables [first] [] ⟨[first], [], List.replicate tables.length [],
      List.replicate tables.length []⟩ where
  writable_length := List.length_replicate
  readonly_length := List.length_replicate
  static_eq := rfl
  writable_perm := by rw [loadedFrom_replicate]; exact List.Perm.refl _
  readonly_perm := by rw [loadedFrom_replicate]; exact List.Perm.refl _

/-- **Placement** keeps the first meta static and runs the loop over the others. -/
theorem placeAccountsInLookupTables_ok {first : AggregatedAccountMeta}
    {others : List AggregatedAccountMeta} {tables : List AddressLookupTable}
    {placed : LookupCompilation}
    (h : placeAccountsInLookupTables (first :: others) tables = .ok placed) :
    (∀ table ∈ tables, table.addresses.length ≤ 256) ∧
      ∃ state, Places tables [first] others state ∧ placed.staticMetas = state.staticMetas ∧
        collectLookups tables state.writableIndexesByTable state.readonlyIndexesByTable =
          .ok (placed.writableLoadedAddresses, placed.readonlyLoadedAddresses, placed.lookups) := by
  unfold placeAccountsInLookupTables at h
  split at h
  · cases h
  · rename_i hsmall
    obtain ⟨⟨writable, readonly, lookups⟩, hcollect, hret⟩ := Except.bind_eq_ok.1 h
    cases hret
    have hplaces : Places tables [first] ([] ++ others) _ :=
      places_run Nat.one_pos (places_initial tables first)
    rw [List.nil_append] at hplaces
    refine ⟨fun table htable => ?_, _, hplaces, ?_, ?_⟩
    · simpa using List.find?_eq_none.1 hsmall table htable
    · simp [placeMetas, PlacementState.addStatic]
    · simpa [placeMetas, PlacementState.addStatic] using hcollect

/-! ## Sections -/

/-- A section's indexes and the addresses its table holds there. -/
abbrev Holds (table : AddressLookupTable) (indexes : List Nat) (addresses : List PublicKey) :
    Prop :=
  List.Forall₂ (fun index address => table.addresses[index]? = some address) indexes addresses

theorem loadedAddresses_ok {table : AddressLookupTable} {kind : String} : ∀ {indexes : List Nat}
    {start : Nat} {addresses : List PublicKey},
    Codec.encodeEach (fun _ index => match table.addresses[index]? with
      | some address => .ok [address]
      | none => .error s!"Lookup table {table.address.toBase58} {kind} index is invalid") start
      indexes = .ok addresses → Holds table indexes addresses
  | [], _, _, h => by
    cases h
    exact .nil
  | index :: indexes, start, addresses, h => by
    obtain ⟨head, tail, hhead, htail, rfl⟩ := Codec.encodeEach_cons h
    split at hhead
    · rename_i address haddress
      cases hhead
      exact .cons haddress (loadedAddresses_ok htail)
    · cases hhead

theorem Holds.lt {table : AddressLookupTable} {indexes : List Nat} {addresses : List PublicKey}
    (h : Holds table indexes addresses) : ∀ index ∈ indexes, index < table.addresses.length := by
  induction h with
  | nil => intro index hindex; cases hindex
  | cons hab _ ih =>
    intro index hindex
    rcases List.mem_cons.1 hindex with rfl | hrest
    · exact (List.getElem?_eq_some_iff.1 hab).1
    · exact ih index hrest

theorem Holds.filterMap {table : AddressLookupTable} {indexes : List Nat}
    {addresses : List PublicKey} (h : Holds table indexes addresses) :
    indexes.filterMap (table.addresses[·]?) = addresses := by
  induction h with
  | nil => rfl
  | cons hab _ ih => rw [List.filterMap_cons, hab, ih]

/-- What the sections say, table after table; tables without placed accounts have none. -/
inductive Sections : List AddressLookupTable → List PublicKey → List PublicKey →
    List CompiledAddressTableLookup → Prop
  | nil : Sections [] [] [] []
  | skip {table : AddressLookupTable} {tables : List AddressLookupTable}
      {writable readonly : List PublicKey} {lookups : List CompiledAddressTableLookup} :
      Sections tables writable readonly lookups →
      Sections (table :: tables) writable readonly lookups
  | keep {table : AddressLookupTable} {tables : List AddressLookupTable}
      {writable readonly moreWritable moreReadonly : List PublicKey}
      {writableIndexes readonlyIndexes : List Nat} {lookups : List CompiledAddressTableLookup} :
      Holds table writableIndexes writable → Holds table readonlyIndexes readonly →
      Sections tables moreWritable moreReadonly lookups →
      Sections (table :: tables) (writable ++ moreWritable) (readonly ++ moreReadonly)
        (⟨table.address, writableIndexes, readonlyIndexes⟩ :: lookups)

theorem collectLookups_ok : ∀ {tables : List AddressLookupTable} {W R : List (List Nat)}
    {writable readonly : List PublicKey} {lookups : List CompiledAddressTableLookup},
    collectLookups tables W R = .ok (writable, readonly, lookups) →
      Sections tables writable readonly lookups ∧ writable = loadedFrom tables W ∧
        readonly = loadedFrom tables R
  | [], W, R, _, _, _, h => by
    cases h
    exact ⟨.nil, rfl, rfl⟩
  | table :: tables, W, R, writable, readonly, lookups, h => by
    dsimp only [collectLookups] at h
    split at h
    · rename_i hempty
      rw [Bool.and_eq_true, List.isEmpty_iff, List.isEmpty_iff] at hempty
      obtain ⟨hsections, hwritable, hreadonly⟩ := collectLookups_ok h
      refine ⟨.skip hsections, ?_, ?_⟩
      · rw [loadedFrom, hempty.1, hwritable, List.filterMap_nil, List.nil_append]
      · rw [loadedFrom, hempty.2, hreadonly, List.filterMap_nil, List.nil_append]
    · obtain ⟨loadedW, hloadedW, hbodyW⟩ := Except.bind_eq_ok.1 h
      obtain ⟨loadedR, hloadedR, hbodyR⟩ := Except.bind_eq_ok.1 hbodyW
      obtain ⟨⟨moreW, moreR, more⟩, hmore, hret⟩ := Except.bind_eq_ok.1 hbodyR
      cases hret
      have hholdsW := loadedAddresses_ok hloadedW
      have hholdsR := loadedAddresses_ok hloadedR
      obtain ⟨hsections, hwritable, hreadonly⟩ := collectLookups_ok hmore
      refine ⟨.keep hholdsW hholdsR hsections, ?_, ?_⟩
      · rw [loadedFrom, hholdsW.filterMap, hwritable]
      · rw [loadedFrom, hholdsR.filterMap, hreadonly]

end Chancery
