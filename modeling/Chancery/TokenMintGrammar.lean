import Chancery.TokenExtensions

/-!
# The grammar of token mints

What `decodeTokenMint` accepts: an 82-byte base, and either nothing else or padding up to the
account-type byte followed by a type-length-value region.

* `MintGrammar`, `mintOf` — the accepted byte strings and the mints they spell.
* `encodeTokenMint` — a reference encoder.
* `tokenMint_exact` — the decoder accepts exactly the grammar, in both languages.
-/

set_option autoImplicit false

namespace Chancery

open LittleEndian

/-! ## The base -/

/-- An optional key: its tag, and a key or 32 bytes of anything. -/
inductive COptionKey : Bytes → Option PublicKey → Prop
  | absent {slot : Bytes} (h : slot.length = 32) : COptionKey (toBytes 4 0 ++ slot) none
  | present (key : PublicKey) : COptionKey (toBytes 4 1 ++ key.bytes) (some key)

/-- What the base of a mint spells. -/
structure MintBase where
  mintAuthority : Option PublicKey
  supply : Nat
  decimals : UInt8
  initialized : Bool
  freezeAuthority : Option PublicKey
  supply_lt : supply < 2 ^ 64

/-- The byte of the flag. -/
def initializedFlag : Bool → UInt8
  | false => 0
  | true => 1

/-- The bytes of a base. -/
inductive MintBaseBytes : Bytes → MintBase → Prop
  | spells {base : MintBase} {authority freeze : Bytes}
      (hauthority : COptionKey authority base.mintAuthority)
      (hfreeze : COptionKey freeze base.freezeAuthority) :
      MintBaseBytes (authority ++ toBytes 8 base.supply ++
        [base.decimals, initializedFlag base.initialized] ++ freeze) base

theorem COptionKey.length_eq {bytes : Bytes} {key : Option PublicKey} (h : COptionKey bytes key) :
    bytes.length = 36 := by
  cases h with
  | absent hslot => rw [List.length_append, length_toBytes, hslot]
  | present key => rw [List.length_append, length_toBytes, key.length_eq]

theorem decodeCOptionPublicKey_ok {data : Bytes} {offset : Nat} {label : String}
    {key : Option PublicKey} (hfits : offset + 36 ≤ data.length) :
    decodeCOptionPublicKey data offset label = .ok key ↔
      COptionKey ((data.drop offset).take 36) key := by
  have hsplit : (data.drop offset).take 36 =
      (data.drop offset).take 4 ++ (data.drop (offset + 4)).take 32 := by
    rw [← List.drop_drop, ← List.take_add]
  have hlength : ((data.drop offset).take 4).length = 4 := by
    rw [List.length_take, List.length_drop]
    omega
  have hslot : ((data.drop (offset + 4)).take 32).length = 32 := by
    rw [List.length_take, List.length_drop]
    omega
  have htag : readUnsignedLittleEndian data offset 4 s!"{label} option tag" =
      .ok (ofBytes ((data.drop offset).take 4)) :=
    readUnsignedLittleEndian_ok.2 ⟨by omega, rfl⟩
  rw [decodeCOptionPublicKey, Except.bind_of_ok htag, hsplit]
  constructor
  · intro h
    split at h
    · rename_i hzero
      cases h
      rw [← toBytes_ofBytes_of_length hlength, hzero]
      exact .absent hslot
    · rename_i hone
      obtain ⟨read, hread, hret⟩ := Except.bind_eq_ok.1 h
      cases hret
      rw [← toBytes_ofBytes_of_length hlength, hone, ← (slicePublicKey_ok.1 hread).2]
      exact .present read
    · cases h
  · intro h
    generalize hbytes : (data.drop offset).take 4 ++ (data.drop (offset + 4)).take 32 = bytes at h
    cases h with
    | absent _ =>
      obtain ⟨htagBytes, -⟩ := List.append_inj hbytes (by rw [hlength, length_toBytes])
      rw [htagBytes, ofBytes_toBytes (by decide)]
      rfl
    | present key =>
      obtain ⟨htagBytes, hkey⟩ := List.append_inj hbytes (by rw [hlength, length_toBytes])
      rw [htagBytes, ofBytes_toBytes (by decide)]
      exact Except.bind_eq_ok.2 ⟨key, slicePublicKey_ok.2 ⟨by omega, hkey.symm⟩, rfl⟩

/-- What the decoder reads off the base. -/
structure ReadsBase (data : Bytes) (base : MintBase) : Prop where
  mintAuthority : decodeCOptionPublicKey data 0 "mint authority" = .ok base.mintAuthority
  supply : readUnsignedLittleEndian data 36 8 "mint supply" = .ok base.supply
  decimals : (data.getD 44 0).toNat = base.decimals.toNat
  initialized : mintInitialized data = .ok base.initialized
  freezeAuthority : decodeCOptionPublicKey data 46 "freeze authority" = .ok base.freezeAuthority

theorem mintInitialized_ok {data : Bytes} {initialized : Bool} :
    mintInitialized data = .ok initialized ↔ data.getD 45 0 = initializedFlag initialized := by
  have hbyte : ∀ n : Nat, n < 256 → ((data.getD 45 0).toNat = n ↔
      data.getD 45 0 = UInt8.ofNat n) := by
    intro n hn
    rw [← UInt8.toNat_inj, UInt8.toNat_ofNat', Nat.mod_eq_of_lt hn]
  unfold mintInitialized
  split
  · rename_i hzero
    rw [(hbyte 0 (by omega)).1 hzero]
    cases initialized <;> simp [initializedFlag]
  · rename_i hone
    rw [(hbyte 1 (by omega)).1 hone]
    cases initialized <;> simp [initializedFlag]
  · rename_i hzero hone
    constructor
    · intro h
      cases h
    · intro h
      cases initialized with
      | false => exact absurd ((hbyte 0 (by omega)).2 h) hzero
      | true => exact absurd ((hbyte 1 (by omega)).2 h) hone

theorem readsBase_iff {data : Bytes} {base : MintBase} (hlong : 82 ≤ data.length) :
    ReadsBase data base ↔ MintBaseBytes (data.take 82) base := by
  have hsplit : data.take 82 = (data.drop 0).take 36 ++ (data.drop 36).take 8 ++
      [data.getD 44 0, data.getD 45 0] ++ (data.drop 46).take 36 := by
    have hbytes : (data.drop 44).take 2 = [data.getD 44 0, data.getD 45 0] := by
      rw [List.drop_eq_getElem_cons (by omega), List.drop_eq_getElem_cons (by omega)]
      rw [List.getD_eq_getElem _ _ (by omega), List.getD_eq_getElem _ _ (by omega)]
      rfl
    rw [← hbytes, List.drop_zero, show 82 = 36 + 8 + 2 + 36 from rfl, List.take_add, List.take_add,
      List.take_add]
  have hsupply : ((data.drop 36).take 8).length = 8 := by
    rw [List.length_take, List.length_drop]
    omega
  have hfirst : ((data.drop 0).take 36).length = 36 := by
    rw [List.length_take, List.length_drop]
    omega
  constructor
  · rintro ⟨hauthority, hsupplyRead, hdecimals, hinitialized, hfreeze⟩
    rw [decodeCOptionPublicKey_ok (by omega)] at hauthority hfreeze
    rw [readUnsignedLittleEndian_ok] at hsupplyRead
    rw [mintInitialized_ok] at hinitialized
    rw [hsplit, hinitialized, UInt8.toNat_inj.1 hdecimals,
      ← toBytes_ofBytes_of_length hsupply, ← hsupplyRead.2]
    exact .spells hauthority hfreeze
  · intro h
    rw [hsplit] at h
    generalize hbytes : (data.drop 0).take 36 ++ (data.drop 36).take 8 ++
      [data.getD 44 0, data.getD 45 0] ++ (data.drop 46).take 36 = bytes at h
    cases h with
    | spells hauthority hfreeze =>
      simp only [List.append_assoc] at hbytes
      obtain ⟨hauthorityEq, hbytes⟩ := List.append_inj hbytes (by rw [hfirst, hauthority.length_eq])
      obtain ⟨hsupplyEq, hbytes⟩ := List.append_inj hbytes (by rw [hsupply, length_toBytes])
      obtain ⟨hflags, hfreezeEq⟩ := List.append_inj hbytes rfl
      rw [List.cons.injEq, List.cons.injEq] at hflags
      refine ⟨?_, ?_, ?_, ?_, ?_⟩
      · rw [decodeCOptionPublicKey_ok (by omega), hauthorityEq]
        exact hauthority
      · rw [readUnsignedLittleEndian_ok, hsupplyEq, ofBytes_toBytes base.supply_lt]
        exact ⟨by omega, rfl⟩
      · rw [hflags.1]
      · exact mintInitialized_ok.2 hflags.2.1
      · rw [decodeCOptionPublicKey_ok (by omega), hfreezeEq]
        exact hfreeze

/-! ## Mints -/

/-- Nothing, or padding up to the account-type byte, that byte and the entries. -/
inductive RegionBytes : Bytes → Option (List Tlv.Entry) → Prop
  | nothing : RegionBytes [] none
  | entries {padding rest : Bytes} {entries : List Tlv.Entry} (hpadding : padding.length = 83)
      (hentries : ReadableExtensions entries) (hrest : Tlv.Ends rest) :
      RegionBytes (padding ++ 1 :: (Tlv.encode entries ++ rest)) (some entries)

/-- The bytes of a mint: the base, then the extensions. -/
inductive MintGrammar : Bytes → MintBase → Option (List Tlv.Entry) → Prop
  | spells {bytes tail : Bytes} {base : MintBase} {region : Option (List Tlv.Entry)}
      (hbase : MintBaseBytes bytes base) (hregion : RegionBytes tail region) :
      MintGrammar (bytes ++ tail) base region

/-- The decoded form of the extensions. -/
def extensionsOf : Option (List Tlv.Entry) → Token2022MintExtensionResult
  | none => {
      accountType := none
      extensions := []
      transferFeeConfig := none
      transferHookProgramAddress := none
      hasUnmodeledTransferBehavior := false }
  | some entries => readExtensions entries

/-- The mint that a base and a region spell. -/
def mintOf (base : MintBase) (region : Option (List Tlv.Entry)) (totalSize : Nat) :
    DecodedTokenMint where
  mintAuthority := base.mintAuthority
  supply := base.supply
  decimals := base.decimals.toNat
  initialized := base.initialized
  freezeAuthority := base.freezeAuthority
  baseSize := tokenMintBaseSize
  totalSize := totalSize
  hasExtensions := !(extensionsOf region).extensions.isEmpty
  accountType := (extensionsOf region).accountType
  extensions := (extensionsOf region).extensions
  transferFeeConfig := (extensionsOf region).transferFeeConfig
  transferHookProgramAddress := (extensionsOf region).transferHookProgramAddress
  hasUnmodeledTransferBehavior := (extensionsOf region).hasUnmodeledTransferBehavior

theorem MintBaseBytes.length_eq {bytes : Bytes} {base : MintBase} (h : MintBaseBytes bytes base) :
    bytes.length = 82 := by
  cases h with
  | spells hauthority hfreeze =>
    simp [hauthority.length_eq, hfreeze.length_eq]

theorem mintGrammar_iff {data : Bytes} {base : MintBase} {region : Option (List Tlv.Entry)} :
    MintGrammar data base region ↔ 82 ≤ data.length ∧ MintBaseBytes (data.take 82) base ∧
      RegionBytes (data.drop 82) region := by
  constructor
  · intro h
    cases h with
    | spells hbase hregion =>
      rw [List.take_left' hbase.length_eq, List.drop_left' hbase.length_eq, List.length_append,
        hbase.length_eq]
      exact ⟨by omega, hbase, hregion⟩
  · rintro ⟨-, hbase, hregion⟩
    rw [← List.take_append_drop 82 data]
    exact .spells hbase hregion

theorem padding_any_iff {rest : Bytes} : (decide (rest.length < 4) && rest.any (· ≠ 0)) = true ↔
    rest.length < 4 ∧ ∃ byte ∈ rest, byte ≠ 0 := by
  rw [Bool.and_eq_true, decide_eq_true_eq, List.any_eq_true]
  simp only [decide_eq_true_eq]

/-- The entries from the offset on, with the check of what is left after them. -/
theorem entriesFrom_iff {data : Bytes} {result : Token2022MintExtensionResult}
    (hlong : token2022TlvOffset ≤ data.length) :
    (do
      let (cursor, result) ←
        decodeExtensionEntries data data.length token2022TlvOffset (readExtensions [])
      if data.length - cursor < 4 && (data.drop cursor).any (· ≠ 0) then
        .error "Token-2022 mint TLV has nonzero trailing bytes"
      else return result) = .ok result ↔
      ∃ entries rest, data.drop token2022TlvOffset = Tlv.encode entries ++ rest ∧
        ReadableExtensions entries ∧ Tlv.Ends rest ∧ result = readExtensions entries := by
  rw [Except.bind_eq_ok]
  constructor
  · rintro ⟨⟨cursor, read⟩, hread, h⟩
    obtain ⟨entries, hdrop, -, hstops, hentries, rfl⟩ :=
      decodeExtensionEntries_sound readableExtensions_nil hlong (by omega) hread
    dsimp only at h
    split at h
    · cases h
    · rename_i htrailing
      cases h
      refine ⟨entries, _, hdrop, hentries, Tlv.ends_iff.2 ⟨hstops, ?_⟩, rfl⟩
      rw [← padding_any_iff, List.length_drop]
      exact htrailing
  · rintro ⟨entries, rest, hdrop, hentries, hrest, rfl⟩
    obtain ⟨hstops, htrailing⟩ := Tlv.ends_iff.1 hrest
    have hlength : data.length =
        token2022TlvOffset + (Tlv.encode entries).length + rest.length := by
      have hlengths := congrArg List.length hdrop
      rw [List.length_drop, List.length_append] at hlengths
      omega
    have hrestDrop : data.drop (token2022TlvOffset + (Tlv.encode entries).length) = rest := by
      rw [← List.drop_drop, hdrop, List.drop_left]
    have hread : decodeExtensionEntries data data.length token2022TlvOffset (readExtensions []) =
        .ok (token2022TlvOffset + (Tlv.encode entries).length, readExtensions ([] ++ entries)) := by
      apply decodeExtensionEntries_complete
      · exact hentries
      · omega
      · omega
      · rfl
      · rw [hrestDrop, hdrop]
      · rw [hrestDrop]
        exact hstops
    refine ⟨_, hread, ?_⟩
    rw [← padding_any_iff] at htrailing
    dsimp only
    rw [hrestDrop, show data.length - (token2022TlvOffset + (Tlv.encode entries).length) =
      rest.length by omega, if_neg htrailing]
    rfl

theorem regionBytes_iff {bytes : Bytes} {region : Option (List Tlv.Entry)} :
    RegionBytes bytes region ↔ (bytes = [] ∧ region = none) ∨
      ∃ padding entries rest, padding.length = 83 ∧
        bytes = padding ++ 1 :: (Tlv.encode entries ++ rest) ∧ ReadableExtensions entries ∧
        Tlv.Ends rest ∧ region = some entries := by
  constructor
  · intro h
    cases h with
    | nothing => exact .inl ⟨rfl, rfl⟩
    | entries hpadding hentries hrest =>
      exact .inr ⟨_, _, _, hpadding, rfl, hentries, hrest, rfl⟩
  · rintro (⟨rfl, rfl⟩ | ⟨padding, entries, rest, hpadding, rfl, hentries, hrest, rfl⟩)
    · exact .nothing
    · exact .entries hpadding hentries hrest

/-- Past the base there are the padding, the account type and the entries. -/
theorem drop_base {data : Bytes} (hlong : token2022AccountTypeOffset < data.length) :
    ((data.drop 82).take 83).length = 83 ∧ data.drop 82 = (data.drop 82).take 83 ++
      data.getD token2022AccountTypeOffset 0 :: data.drop token2022TlvOffset := by
  constructor
  · rw [List.length_take, List.length_drop]
    simp only [token2022AccountTypeOffset] at hlong
    omega
  · rw [List.getD_eq_getElem _ _ hlong, token2022TlvOffset,
      show 166 = token2022AccountTypeOffset + 1 from rfl, ← List.drop_eq_getElem_cons hlong,
      show token2022AccountTypeOffset = 82 + 83 from rfl, ← List.drop_drop, List.take_append_drop]

theorem decodeToken2022MintExtensions_iff {data : Bytes} {result : Token2022MintExtensionResult}
    (hlong : 82 ≤ data.length) : decodeToken2022MintExtensions data = .ok result ↔
      ∃ region, RegionBytes (data.drop 82) region ∧ result = extensionsOf region := by
  have hlength : (data.drop 82).length = data.length - 82 := List.length_drop
  simp only [regionBytes_iff]
  unfold decodeToken2022MintExtensions
  by_cases hbare : data.length = 82
  · rw [if_pos (show data.length = tokenMintBaseSize from hbare), List.eq_nil_of_length_eq_zero (hlength.trans (by omega)), Except.ok.injEq]
    constructor
    · rintro rfl
      exact ⟨none, .inl ⟨rfl, rfl⟩, rfl⟩
    · rintro ⟨region, ⟨-, rfl⟩ | ⟨padding, entries, rest, hpadding, hbytes, -⟩, rfl⟩
      · rfl
      · simp at hbytes
  · have hne : data.drop 82 ≠ [] := List.ne_nil_of_length_pos (by omega)
    simp only [hne, false_and, false_or]
    rw [if_neg (show data.length ≠ tokenMintBaseSize from hbare)]
    by_cases hshort : data.length ≤ token2022AccountTypeOffset
    · rw [if_pos hshort]
      constructor
      · intro h
        cases h
      · rintro ⟨region, ⟨padding, entries, rest, hpadding, hbytes, -⟩, -⟩
        rw [hbytes, List.length_append, hpadding, List.length_cons] at hlength
        simp only [token2022AccountTypeOffset] at hshort
        omega
    · obtain ⟨hpadding, hsplit⟩ := drop_base (not_le.1 hshort)
      rw [if_neg hshort]
      by_cases htype : (data.getD token2022AccountTypeOffset 0).toNat = token2022MintAccountType
      · have hone : data.getD token2022AccountTypeOffset 0 = 1 := UInt8.toNat_inj.1 htype
        rw [if_neg (not_not.2 htype), htype]
        refine (entriesFrom_iff (not_le.1 hshort)).trans ?_
        constructor
        · rintro ⟨entries, rest, hdrop, hentries, hrest, rfl⟩
          refine ⟨_, ⟨_, entries, rest, hpadding, ?_, hentries, hrest, rfl⟩, rfl⟩
          rw [← hdrop, ← hone]
          exact hsplit
        · rintro ⟨region, ⟨padding, entries, rest, hpadding', hbytes, hentries, hrest, rfl⟩, rfl⟩
          rw [hsplit] at hbytes
          obtain ⟨-, hregion⟩ := List.append_inj hbytes (by rw [hpadding, hpadding'])
          exact ⟨entries, rest, (List.cons.inj hregion).2, hentries, hrest, rfl⟩
      · rw [if_pos htype]
        constructor
        · intro h
          cases h
        · rintro ⟨region, ⟨padding, entries, rest, hpadding', hbytes, -⟩, -⟩
          rw [hsplit] at hbytes
          obtain ⟨-, hregion⟩ := List.append_inj hbytes (by rw [hpadding, hpadding'])
          exact absurd (congrArg UInt8.toNat (List.cons.inj hregion).1) htype

/-! ## Both languages -/

/-- The checks that Python makes first are made again. -/
theorem decodeTokenMint_python {data : Bytes} {mint : DecodedTokenMint} :
    decodeTokenMint .python data = .ok mint ↔ decodeTokenMint .typescript data = .ok mint := by
  unfold decodeTokenMint
  split
  · rfl
  · constructor
    · intro h
      obtain ⟨_, -, h⟩ := Except.bind_eq_ok.1 h
      obtain ⟨_, -, h⟩ := Except.bind_eq_ok.1 h
      exact h
    · intro h
      obtain ⟨_, -, hbody⟩ := Except.bind_eq_ok.1 h
      obtain ⟨_, -, hbody⟩ := Except.bind_eq_ok.1 hbody
      obtain ⟨initialized, hinitialized, hbody⟩ := Except.bind_eq_ok.1 hbody
      obtain ⟨_, -, hbody⟩ := Except.bind_eq_ok.1 hbody
      obtain ⟨result, hresult, -⟩ := Except.bind_eq_ok.1 hbody
      exact Except.bind_eq_ok.2 ⟨initialized, hinitialized,
        Except.bind_eq_ok.2 ⟨result, hresult, h⟩⟩

theorem decodeTokenMint_typescript_iff {data : Bytes} {mint : DecodedTokenMint} :
    decodeTokenMint .typescript data = .ok mint ↔
      ∃ base region, MintGrammar data base region ∧ mint = mintOf base region data.length := by
  simp only [mintGrammar_iff]
  unfold decodeTokenMint
  by_cases hshort : data.length < tokenMintBaseSize
  · rw [if_pos hshort]
    constructor
    · intro h
      cases h
    · rintro ⟨base, region, ⟨hlong, -⟩, -⟩
      exact absurd hshort (not_lt.2 hlong)
  · have hlong : 82 ≤ data.length := not_lt.1 hshort
    rw [if_neg hshort]
    constructor
    · intro h
      obtain ⟨authority, hauthority, h⟩ := Except.bind_eq_ok.1 h
      obtain ⟨supply, hsupply, h⟩ := Except.bind_eq_ok.1 h
      obtain ⟨initialized, hinitialized, h⟩ := Except.bind_eq_ok.1 h
      obtain ⟨freeze, hfreeze, h⟩ := Except.bind_eq_ok.1 h
      obtain ⟨result, hresult, h⟩ := Except.bind_eq_ok.1 h
      obtain ⟨region, hregion, rfl⟩ := (decodeToken2022MintExtensions_iff hlong).1 hresult
      have hlt : supply < 2 ^ 64 := by
        obtain ⟨hfits, rfl⟩ := readUnsignedLittleEndian_ok.1 hsupply
        refine (ofBytes_lt _).trans_le (Nat.pow_le_pow_right (by omega) ?_)
        rw [List.length_take]
        omega
      cases h
      exact ⟨⟨authority, supply, data.getD 44 0, initialized, freeze, hlt⟩, region,
        ⟨hlong, (readsBase_iff hlong).1 ⟨hauthority, hsupply, rfl, hinitialized, hfreeze⟩,
          hregion⟩, rfl⟩
    · rintro ⟨base, region, ⟨-, hbase, hregion⟩, rfl⟩
      obtain ⟨hauthority, hsupply, hdecimals, hinitialized, hfreeze⟩ := (readsBase_iff hlong).2 hbase
      have hresult := (decodeToken2022MintExtensions_iff hlong).2 ⟨region, hregion, rfl⟩
      refine (Except.bind_of_ok hauthority _).trans ((Except.bind_of_ok hsupply _).trans
        ((Except.bind_of_ok hinitialized _).trans ((Except.bind_of_ok hfreeze _).trans
          ((Except.bind_of_ok hresult _).trans ?_))))
      rw [mintOf, ← hdecimals]
      rfl

theorem decodeTokenMint_iff (L : Language) {data : Bytes} {mint : DecodedTokenMint} :
    decodeTokenMint L data = .ok mint ↔
      ∃ base region, MintGrammar data base region ∧ mint = mintOf base region data.length := by
  cases L with
  | typescript => exact decodeTokenMint_typescript_iff
  | python => exact decodeTokenMint_python.trans decodeTokenMint_typescript_iff

/-! ## A reference encoder -/

/-- Bytes of an optional address. -/
def encodeCOptionKey : Option PublicKey → Bytes
  | none => toBytes 4 0 ++ List.replicate 32 0
  | some key => toBytes 4 1 ++ key.bytes

/-- Bytes of a base. -/
def encodeMintBase (mint : DecodedTokenMint) : Bytes :=
  encodeCOptionKey mint.mintAuthority ++ toBytes 8 mint.supply ++
    [UInt8.ofNat mint.decimals, initializedFlag mint.initialized] ++
    encodeCOptionKey mint.freezeAuthority

/-- Bytes of an extension. -/
def encodeExtension (extension : Token2022Extension) : Bytes :=
  toBytes 2 extension.extensionType ++ toBytes 2 extension.value.length ++ extension.value

/-- Zeros for the padding and up to the size of the account. -/
def encodeTokenMint (mint : DecodedTokenMint) : Bytes :=
  match mint.accountType with
  | none => encodeMintBase mint
  | some accountType =>
    let written := encodeMintBase mint ++ (List.replicate 83 0 ++
      UInt8.ofNat accountType :: mint.extensions.flatMap encodeExtension)
    written ++ List.replicate (mint.totalSize - written.length) 0

theorem encodeCOptionKey_spells (key : Option PublicKey) :
    COptionKey (encodeCOptionKey key) key := by
  cases key with
  | none => exact .absent List.length_replicate
  | some key => exact .present key

theorem encodeMintBase_spells (base : MintBase) (region : Option (List Tlv.Entry))
    (totalSize : Nat) : MintBaseBytes (encodeMintBase (mintOf base region totalSize)) base := by
  simp only [encodeMintBase, mintOf, UInt8.ofNat_toNat]
  exact .spells (encodeCOptionKey_spells _) (encodeCOptionKey_spells _)

theorem flatMap_encodeExtension (entries : List Tlv.Entry) :
    (entries.map tokenExtension).flatMap encodeExtension = Tlv.encode entries := by
  rw [List.flatMap_map]
  rfl

theorem encodeTokenMint_grammar {data : Bytes} {base : MintBase}
    {region : Option (List Tlv.Entry)} (h : MintGrammar data base region) :
    MintGrammar (encodeTokenMint (mintOf base region data.length)) base region ∧
      (encodeTokenMint (mintOf base region data.length)).length = data.length := by
  obtain ⟨hbase, hregion⟩ := h
  rcases regionBytes_iff.1 hregion with ⟨rfl, rfl⟩ |
    ⟨padding, entries, rest, hpadding, rfl, hentries, hrest, rfl⟩
  · constructor
    · rw [← List.append_nil (encodeTokenMint _)]
      exact .spells (encodeMintBase_spells base none _) .nothing
    · rw [List.append_nil, hbase.length_eq]
      exact (encodeMintBase_spells base none 82).length_eq
  · generalize htotal : (_ ++ (padding ++ 1 :: (Tlv.encode entries ++ rest))).length = totalSize
    have hlength : totalSize = 166 + (Tlv.encode entries).length + rest.length := by
      rw [← htotal]
      simp only [List.length_append, List.length_cons, hbase.length_eq, hpadding]
      omega
    have hencoded : encodeTokenMint (mintOf base (some entries) totalSize) =
        encodeMintBase (mintOf base (some entries) totalSize) ++ (List.replicate 83 0 ++
          1 :: (Tlv.encode entries ++ List.replicate rest.length 0)) := by
      have hsize := (encodeMintBase_spells base (some entries) totalSize).length_eq
      have hrest : totalSize - (encodeMintBase (mintOf base (some entries) totalSize) ++
          (List.replicate 83 0 ++ 1 :: Tlv.encode entries)).length = rest.length := by
        simp only [List.length_append, List.length_cons, List.length_replicate, hsize]
        omega
      rw [← hrest]
      simp only [encodeTokenMint, mintOf, extensionsOf, readExtensions, flatMap_encodeExtension,
        List.append_assoc, List.cons_append, token2022MintAccountType]
      rfl
    rw [hencoded]
    constructor
    · exact .spells (encodeMintBase_spells _ _ _)
        (.entries List.length_replicate hentries (Tlv.ends_replicate _))
    · have hsize := (encodeMintBase_spells base (some entries) totalSize).length_eq
      simp only [List.length_append, List.length_cons, List.length_replicate, hsize]
      omega

/-- **The decoder accepts exactly the grammar**, in both languages: it returns the mint that the
bytes spell, which the reference encoder writes back; the loop ends by itself, and nothing outside
the data is read. -/
theorem tokenMint_exact (data : Bytes) :
    (∀ L mint, decodeTokenMint L data = .ok mint ↔
      ∃ base region, MintGrammar data base region ∧ mint = mintOf base region data.length) ∧
    (∀ L L' mint, decodeTokenMint L data = .ok mint →
      decodeTokenMint L' (encodeTokenMint mint) = .ok mint) ∧
    (decodeTokenMint .python data).toOption = (decodeTokenMint .typescript data).toOption ∧
    (∀ fuel cursor result, data.length ≤ fuel →
      decodeExtensionEntries data fuel cursor result =
        decodeExtensionEntries data data.length cursor result) ∧
    (∀ offset byteLength label bytes, sliceExact data offset byteLength label = .ok bytes →
      offset + byteLength ≤ data.length ∧ bytes.length = byteLength) := by
  refine ⟨fun L mint => decodeTokenMint_iff L, ?_, ?_, ?_, fun _ _ _ _ => sliceExact_length⟩
  · intro L L' mint h
    obtain ⟨base, region, hgrammar, rfl⟩ := (decodeTokenMint_iff L).1 h
    obtain ⟨hencoded, hlength⟩ := encodeTokenMint_grammar hgrammar
    rw [decodeTokenMint_iff L']
    exact ⟨base, region, hencoded, by rw [hlength]⟩
  · exact Except.toOption_eq_of_ok_iff fun mint => decodeTokenMint_python
  · intro fuel cursor result hfuel
    exact decodeExtensionEntries_fuel data _ _ _ _ (by omega) (by omega)

/-- A mint with a transfer hook and three bytes left over. -/
def hookedMint : Bytes :=
  List.replicate 45 0 ++ [1] ++ List.replicate 119 0 ++ [1] ++ toBytes 2 14 ++ toBytes 2 64 ++
    List.replicate 64 7 ++ [0, 0, 0]

theorem tokenMint_exact_hookedMint : ∃ mint, decodeTokenMint .typescript hookedMint = .ok mint ∧
    mint.hasUnmodeledTransferBehavior = true ∧
    decodeTokenMint .python (encodeTokenMint mint) = .ok mint := by
  obtain ⟨mint, hmint, hhook⟩ := Except.exists_of_any (by decide +kernel :
    (decodeTokenMint .typescript hookedMint).toOption.any
      (·.hasUnmodeledTransferBehavior) = true)
  exact ⟨mint, hmint, hhook, (tokenMint_exact hookedMint).2.1 .typescript .python mint hmint⟩

end Chancery
