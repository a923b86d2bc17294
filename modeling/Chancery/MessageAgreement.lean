import Chancery.MessageCompilers

/-!
# Agreement of the message compilers

What a signer is given to sign is the same whichever compiler made it.

* `addTableAddress_agree`, `order_agree`, `encodeShortVectorLength_agree` — the three places where
  TypeScript and Python differ.
* `compileMessageBytes_agree`, `webCompileInstruction_agree` — the message of the others.
* `messageCompilers_agree` — all reject, or the messages are the same.
-/

set_option autoImplicit false

namespace Chancery

/-! ## TypeScript and Python -/

theorem pythonOrderKey_le_iff (left right : AggregatedAccountMeta) :
    pythonOrderKey left ≤ pythonOrderKey right ↔ accountOrder left right :=
  Prod.Lex.toLex_le_toLex

theorem order_agree (metas : List AggregatedAccountMeta) :
    MessageCompiler.python.orderStaticAccountMetas metas =
      MessageCompiler.typescript.orderStaticAccountMetas metas := by
  show metas.insertionSort (fun left right => pythonOrderKey left ≤ pythonOrderKey right) =
    metas.insertionSort accountOrder
  simp only [pythonOrderKey_le_iff]

/-- **An address is in the map as it is written** when it is there normalised. -/
theorem addTableAddress_agree (indexes : AddressIndexes) (index : Nat) (address : String) :
    MessageCompiler.python.addTableAddress indexes index address =
      MessageCompiler.typescript.addTableAddress indexes index address := by
  show pythonAddTableAddress indexes index address = typescriptAddTableAddress indexes index address
  unfold pythonAddTableAddress typescriptAddTableAddress
  cases hkey : decodePublicKey address with
  | error message =>
    have habsent : indexes.any (·.1.toBase58 == address) = false := by
      rw [List.any_eq_false]
      intro entry _ hentry
      rw [← beq_iff_eq.1 hentry, decodePublicKey_toBase58] at hkey
      cases hkey
    rw [habsent]
    rfl
  | ok key =>
    have hwritten : indexes.any (·.1.toBase58 == address) = indexes.any (·.1 == key) := by
      congr 1
      funext entry
      rw [← decodePublicKey_ok hkey, Bool.eq_iff_iff, beq_iff_eq, beq_iff_eq]
      exact PublicKey.toBase58_injective.eq_iff
    rw [hwritten]
    show Except.ok _ = _
    split
    · rfl
    · rename_i habsent
      show Except.ok _ = Except.ok (AddressIndexes.set indexes key index)
      unfold AddressIndexes.set
      rw [if_neg habsent]

namespace MessageCompiler

theorem indexAddresses_agree : ∀ (addresses : List String) (index : Nat) (indexes : AddressIndexes),
    python.indexAddresses index addresses indexes =
      typescript.indexAddresses index addresses indexes
  | [], _, _ => rfl
  | address :: addresses, index, indexes => by
    rw [indexAddresses, indexAddresses, addTableAddress_agree]
    congr 1
    funext indexes
    exact indexAddresses_agree addresses (index + 1) indexes

theorem tableAddressIndexes_agree : ∀ tables : List LookupTableInput,
    python.tableAddressIndexes tables = typescript.tableAddressIndexes tables
  | [] => rfl
  | table :: tables => by
    rw [tableAddressIndexes, tableAddressIndexes, indexAddresses_agree,
      tableAddressIndexes_agree tables]

theorem placeAccountsInLookupTables_agree (metas : List AggregatedAccountMeta)
    (lookupTables : List LookupTableInput) :
    python.placeAccountsInLookupTables metas lookupTables =
      typescript.placeAccountsInLookupTables metas lookupTables := by
  unfold placeAccountsInLookupTables
  rw [tableAddressIndexes_agree]

theorem encodeShortVectorLength_agree {value : Nat} (h : isSafeInteger value = true) :
    python.encodeShortVectorLength value = typescript.encodeShortVectorLength value := by
  show pythonEncodeShortVectorLength value = Chancery.encodeShortVectorLength value
  rw [pythonEncodeShortVectorLength, Chancery.encodeShortVectorLength, if_pos h]

/-- A count of keys of a message. -/
theorem isSafeInteger_of_keyCount {count : Nat} (h : count ≤ 256) :
    isSafeInteger count = true := by
  unfold isSafeInteger maxSafeInteger
  exact decide_eq_true (by omega)

theorem compileInstruction_agree (keys : List PublicKey)
    (placements : List (PublicKey × Chancery.LookupPlacement)) (instruction : InstructionInput) :
    python.compileInstruction keys placements instruction =
      typescript.compileInstruction keys placements instruction := by
  unfold compileInstruction
  rw [encodeShortVectorLength_agree instruction.accounts_safe,
    encodeShortVectorLength_agree instruction.data_safe]

/-! ## Lookups -/

/-- Every lookup loads a key, and no more than are loaded. -/
structure LookupBounds (writable readonly : List PublicKey)
    (lookups : List CompiledAddressTableLookup) : Prop where
  length_le : lookups.length ≤ writable.length + readonly.length
  writable_le : ∀ lookup ∈ lookups, lookup.writableIndexes.length ≤ writable.length
  readonly_le : ∀ lookup ∈ lookups, lookup.readonlyIndexes.length ≤ readonly.length

theorem loadedInputs_length {table : LookupTableInput} {kind : String} {indexes : List Nat}
    {addresses : List PublicKey} (h : loadedInputs table kind indexes = .ok addresses) :
    addresses.length = indexes.length :=
  (Except.mapM_eq_ok.1 h).length_eq.symm

theorem LookupBounds.cons {writable readonly moreWritable moreReadonly : List PublicKey}
    {lookups : List CompiledAddressTableLookup}
    (h : LookupBounds moreWritable moreReadonly lookups) {lookup : CompiledAddressTableLookup}
    (hwritable : writable.length = lookup.writableIndexes.length)
    (hreadonly : readonly.length = lookup.readonlyIndexes.length)
    (hused : 0 < lookup.writableIndexes.length + lookup.readonlyIndexes.length) :
    LookupBounds (writable ++ moreWritable) (readonly ++ moreReadonly) (lookup :: lookups) := by
  obtain ⟨hlength, hw, hr⟩ := h
  refine ⟨?_, ?_, ?_⟩
  · simp only [List.length_append, List.length_cons]
    omega
  · intro other hother
    rw [List.length_append]
    rcases List.mem_cons.1 hother with rfl | hother
    · omega
    · have := hw other hother
      omega
  · intro other hother
    rw [List.length_append]
    rcases List.mem_cons.1 hother with rfl | hother
    · omega
    · have := hr other hother
      omega

theorem collectInputs_bounds : ∀ {tables : List LookupTableInput}
    {writableIndexesByTable readonlyIndexesByTable : List (List Nat)}
    {writable readonly : List PublicKey} {lookups : List CompiledAddressTableLookup},
    collectInputs tables writableIndexesByTable readonlyIndexesByTable =
      .ok (writable, readonly, lookups) → LookupBounds writable readonly lookups
  | [], _, _, _, _, _, h => by
    cases h
    exact ⟨Nat.le_refl _, fun _ hmem => (nomatch hmem), fun _ hmem => (nomatch hmem)⟩
  | table :: tables, writableIndexesByTable, readonlyIndexesByTable, _, _, _, h => by
    rw [collectInputs] at h
    split at h
    · exact collectInputs_bounds h
    · rename_i hused
      obtain ⟨writable, hwritable, h⟩ := Except.bind_eq_ok.1 h
      obtain ⟨readonly, hreadonly, h⟩ := Except.bind_eq_ok.1 h
      obtain ⟨tableAddress, -, h⟩ := Except.bind_eq_ok.1 h
      obtain ⟨⟨moreWritable, moreReadonly, lookups⟩, hmore, h⟩ := Except.bind_eq_ok.1 h
      cases h
      refine (collectInputs_bounds hmore).cons (loadedInputs_length hwritable)
        (loadedInputs_length hreadonly) ?_
      simp only [Bool.and_eq_true, List.isEmpty_iff, not_and_or, ← ne_eq,
        ← List.length_pos_iff_ne_nil] at hused
      dsimp only
      omega

theorem compileLookups_agree {version : MessageVersion} {writable readonly : List PublicKey}
    {lookups : List CompiledAddressTableLookup} (h : LookupBounds writable readonly lookups)
    (hkeys : writable.length + readonly.length ≤ 256) :
    python.compileLookups version lookups = typescript.compileLookups version lookups := by
  cases version with
  | unversioned => rfl
  | zero =>
    have hlookup : ∀ lookup ∈ lookups,
        python.compileLookup lookup = typescript.compileLookup lookup := by
      intro lookup hmem
      have hw := h.writable_le lookup hmem
      have hr := h.readonly_le lookup hmem
      unfold compileLookup
      rw [encodeShortVectorLength_agree (isSafeInteger_of_keyCount (by omega)),
        encodeShortVectorLength_agree (isSafeInteger_of_keyCount (by omega))]
    have hcount := h.length_le
    unfold compileLookups
    rw [encodeShortVectorLength_agree (isSafeInteger_of_keyCount (by omega))]
    dsimp only
    rw [Except.mapM_congr hlookup]

/-! ## The messages -/

theorem compileMessageBytes_agree (version : MessageVersion) (input : InstructionsInput)
    (staticMetas : List AggregatedAccountMeta) {writable readonly : List PublicKey}
    (placements : List (PublicKey × Chancery.LookupPlacement))
    {lookups : List CompiledAddressTableLookup} (h : LookupBounds writable readonly lookups)
    (recentBlockhash : PublicKeyInput) :
    python.compileMessageBytes version input.instructions staticMetas writable readonly placements
        lookups recentBlockhash =
      typescript.compileMessageBytes version input.instructions staticMetas writable readonly
        placements lookups recentBlockhash := by
  unfold compileMessageBytes
  split
  · rfl
  · dsimp only
    split
    · rfl
    · split
      · rfl
      · rename_i hkeys
        simp only [List.length_append, List.length_map] at hkeys
        rw [encodeShortVectorLength_agree (isSafeInteger_of_keyCount (by
            rw [List.length_map]
            omega)),
          encodeShortVectorLength_agree input.instructions_safe,
          compileLookups_agree h (by omega),
          Except.mapM_congr fun instruction _ => compileInstruction_agree _ _ instruction]

theorem compileUnversionedMessage_agree (input : InstructionsInput)
    (feePayer recentBlockhash : PublicKeyInput) :
    python.compileUnversionedMessage input feePayer recentBlockhash =
      typescript.compileUnversionedMessage input feePayer recentBlockhash := by
  have hnone : LookupBounds [] [] [] :=
    ⟨Nat.le_refl _, fun _ hmem => (nomatch hmem), fun _ hmem => (nomatch hmem)⟩
  unfold compileUnversionedMessage
  congr 1
  funext aggregated
  rw [order_agree, compileMessageBytes_agree _ _ _ _ hnone]

theorem placeAccountsInLookupTables_bounds {compiler : MessageCompiler}
    {metas : List AggregatedAccountMeta} {lookupTables : List LookupTableInput}
    {placed : LookupCompilation}
    (h : compiler.placeAccountsInLookupTables metas lookupTables = .ok placed) :
    LookupBounds placed.writableLoadedAddresses placed.readonlyLoadedAddresses placed.lookups := by
  obtain ⟨_, -, h⟩ := Except.bind_eq_ok.1 h
  obtain ⟨⟨writable, readonly, lookups⟩, hcollect, h⟩ := Except.bind_eq_ok.1 h
  cases h
  exact collectInputs_bounds hcollect

theorem compileVersionZeroMessage_agree (input : InstructionsInput)
    (feePayer recentBlockhash : PublicKeyInput) (lookupTables : List LookupTableInput) :
    python.compileVersionZeroMessage input feePayer recentBlockhash lookupTables =
      typescript.compileVersionZeroMessage input feePayer recentBlockhash lookupTables := by
  unfold compileVersionZeroMessage
  split
  · rfl
  · congr 1
    funext aggregated
    rw [placeAccountsInLookupTables_agree]
    refine Except.bind_congr fun placed hplaced => ?_
    rw [order_agree, compileMessageBytes_agree _ _ _ _ (placeAccountsInLookupTables_bounds hplaced)]

end MessageCompiler

/-! ## The web builder -/

/-- An index of at most 256 keys is a byte. -/
theorem accountIndexByAddress_lt {keys : List PublicKey} {address : PublicKey} {index : Nat}
    (h : accountIndexByAddress keys address = some index) : index < keys.length := by
  obtain ⟨entry, hentry, rfl⟩ := Option.map_eq_some_iff.1 h
  have hmem := List.mem_reverse.1 (List.mem_of_find?_eq_some hentry)
  exact List.snd_lt_of_mem_zipIdx hmem

theorem compileProgramIndex_of_keyCount {keys : List PublicKey} (hkeys : keys.length ≤ 256)
    (address : PublicKey) : compileProgramIndex keys address =
      match accountIndexByAddress keys address with
      | none => .error ("Instruction program address is absent from the static account list: " ++
          address.toBase58)
      | some index => .ok index := by
  unfold compileProgramIndex
  cases hindex : accountIndexByAddress keys address with
  | none => rfl
  | some index =>
    have hlt := accountIndexByAddress_lt hindex
    exact if_neg (by omega)

theorem compileAccountIndex_of_keyCount {keys : List PublicKey} (hkeys : keys.length ≤ 256)
    (address : PublicKey) : compileAccountIndex keys [] address =
      match accountIndexByAddress keys address with
      | none => .error ("Instruction account is absent from compiled keys: " ++ address.toBase58)
      | some index => .ok index := by
  unfold compileAccountIndex
  cases hindex : accountIndexByAddress keys address with
  | none =>
    show Except.error (_ ++ "") = Except.error _
    rw [String.append_empty]
    rfl
  | some index =>
    have hlt := accountIndexByAddress_lt hindex
    exact if_neg (by omega)

theorem encodeShortVectorLength_ok {value : Nat} (h : isSafeInteger value = true) :
    encodeShortVectorLength value = .ok (shortVectorBytes (value + 1) value) := if_pos h

theorem webCompileAccount_agree {keys : List PublicKey} (hkeys : keys.length ≤ 256)
    (account : AccountMetaInput) :
    webCompileAccount keys account = MessageCompiler.compileAccountInput keys [] account := by
  unfold webCompileAccount MessageCompiler.compileAccountInput
  simp only [compileAccountIndex_of_keyCount hkeys]
  rfl

/-- **What the web builder adds to the message** for an instruction is what the others add. -/
theorem webCompileInstruction_agree {keys : List PublicKey} (hkeys : keys.length ≤ 256)
    (instruction : InstructionInput) :
    (webCompileInstruction keys instruction).map Prod.snd =
      MessageCompiler.typescript.compileInstruction keys [] instruction := by
  have haccount : ∀ account ∈ instruction.accounts, _ = _ := fun account _ =>
    webCompileAccount_agree hkeys account
  have haccounts := Except.mapM_congr haccount
  unfold webCompileInstruction MessageCompiler.compileInstruction
  rw [haccounts]
  cases decodePublicKey instruction.programAddress with
  | error message => rfl
  | ok programAddress =>
    show Except.map Prod.snd (match accountIndexByAddress keys programAddress with
      | none => _
      | some programIdIndex => _) = compileProgramIndex keys programAddress >>= _
    rw [compileProgramIndex_of_keyCount hkeys]
    cases accountIndexByAddress keys programAddress with
    | none => rfl
    | some programIdIndex =>
      show _ = encodeShortVectorLength _ >>= _
      rw [encodeShortVectorLength_ok instruction.accounts_safe]
      cases hindexes : instruction.accounts.mapM (MessageCompiler.compileAccountInput keys []) with
      | error message => rfl
      | ok accountIndexes =>
        have hlength := (Except.mapM_eq_ok.1 hindexes).length_eq
        show Except.map Prod.snd (encodeShortVectorLength accountIndexes.length >>= _) =
          encodeShortVectorLength _ >>= _
        rw [← hlength, encodeShortVectorLength_ok instruction.accounts_safe,
          encodeShortVectorLength_ok instruction.data_safe]
        rfl

theorem mapM_snd {α β γ : Type} {f : α → Except String (β × γ)} : ∀ as : List α,
    (as.mapM f).map (·.map Prod.snd) = as.mapM fun a => (f a).map Prod.snd
  | [] => rfl
  | a :: as => by
    rw [List.mapM_cons, List.mapM_cons, ← mapM_snd as]
    cases f a with
    | error e => rfl
    | ok b => cases as.mapM f <;> rfl

/-- What a signer sees of a message. -/
structure SignedContent where
  bytes : Bytes
  signerAddresses : List PublicKey
  accountKeys : List PublicKey

/-- What is signed of a message. -/
def CompiledSolanaMessage.content (message : CompiledSolanaMessage) : SignedContent :=
  ⟨message.bytes, message.signerAddresses, message.accountKeys⟩

/-- What is signed of a message. -/
def WebCompiledMessage.content (message : WebCompiledMessage) : SignedContent :=
  ⟨message.bytes, message.signerAddresses, message.accountKeys⟩

theorem webCompileUnversionedMessage_agree (input : InstructionsInput)
    (feePayer recentBlockhash : PublicKeyInput) :
    (webCompileUnversionedMessage input feePayer recentBlockhash).map (·.content) =
      (MessageCompiler.typescript.compileUnversionedMessage input feePayer recentBlockhash).map
        (·.content) := by
  unfold webCompileUnversionedMessage MessageCompiler.compileUnversionedMessage
  cases aggregateInputs input.instructions feePayer with
  | error message => rfl
  | ok aggregated =>
    show Except.map _ (if _ then _ else _) = Except.map _ (MessageCompiler.compileMessageBytes
      .typescript .unversioned input.instructions (orderStaticAccountMetas aggregated) [] [] [] []
      recentBlockhash)
    unfold MessageCompiler.compileMessageBytes
    generalize orderStaticAccountMetas aggregated = staticMetas
    simp only [List.append_nil, ← List.countP_eq_length_filter, List.length_map]
    by_cases hstatic : 256 < staticMetas.length
    · rw [if_pos hstatic, if_pos hstatic]
      rfl
    · rw [if_neg hstatic, if_neg hstatic, if_neg hstatic]
      split
      · rfl
      · have hkeys : (staticMetas.map (·.address)).length ≤ 256 := by
          rw [List.length_map]
          omega
        have hinstructions := mapM_snd (f := webCompileInstruction (staticMetas.map (·.address)))
          input.instructions
        rw [Except.mapM_congr fun instruction _ => webCompileInstruction_agree hkeys instruction]
          at hinstructions
        show Except.map _ (encodeShortVectorLength _ >>= _) =
          Except.map _ (encodeShortVectorLength _ >>= _)
        rw [← hinstructions]
        cases encodeShortVectorLength staticMetas.length with
        | error message => rfl
        | ok keyCount =>
          cases recentBlockhash.normalize with
          | error message => rfl
          | ok blockhash =>
            show Except.map _ (encodeShortVectorLength _ >>= _) =
              Except.map _ (encodeShortVectorLength _ >>= _)
            cases encodeShortVectorLength input.instructions.length with
            | error message => rfl
            | ok instructionCount =>
              cases input.instructions.mapM
                  (webCompileInstruction (staticMetas.map (·.address))) with
              | error message => rfl
              | ok compiled =>
                show Except.ok (SignedContent.mk _ _ _) = Except.ok (SignedContent.mk _ _ _)
                simp [versionBytes, List.map_take]

/-- **Whichever compiler is used**, all of them reject, or what is signed is the same. -/
theorem messageCompilers_agree (input : InstructionsInput) (feePayer recentBlockhash : PublicKeyInput) :
    ((MessageCompiler.python.compileUnversionedMessage input feePayer recentBlockhash).map
        (·.content)).toOption =
      ((MessageCompiler.typescript.compileUnversionedMessage input feePayer recentBlockhash).map
        (·.content)).toOption ∧
    ((webCompileUnversionedMessage input feePayer recentBlockhash).map (·.content)).toOption =
      ((MessageCompiler.typescript.compileUnversionedMessage input feePayer recentBlockhash).map
        (·.content)).toOption ∧
    ∀ lookupTables : List LookupTableInput,
      ((MessageCompiler.python.compileVersionZeroMessage input feePayer recentBlockhash
        lookupTables).map (·.content)).toOption =
      ((MessageCompiler.typescript.compileVersionZeroMessage input feePayer recentBlockhash
        lookupTables).map (·.content)).toOption := by
  refine ⟨?_, ?_, fun lookupTables => ?_⟩
  · rw [MessageCompiler.compileUnversionedMessage_agree]
  · rw [webCompileUnversionedMessage_agree]
  · rw [MessageCompiler.compileVersionZeroMessage_agree]

end Chancery
