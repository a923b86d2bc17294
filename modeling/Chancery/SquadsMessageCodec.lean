import Chancery.SquadsVaultMessage

/-!
# The stored form of a vault message

Encoding and decoding are inverse to each other on what validation admits.

* `SquadsVaultTransactionMessage.Valid` — what validation checks; `validate_ok`.
* `recovers_u8`, `reencodes_u8`, … — the two laws of `Codec` for each part.
* `decode_encodeSquadsVaultTransactionMessage`, `encode_decodeSquadsVaultTransactionMessage`.
-/

set_option autoImplicit false

namespace Chancery.Squads

open MessageReader Codec

/-! ## Readers -/

namespace MessageReader

theorem readBytes_append {byteLength : Nat} {bytes : Bytes} (h : bytes.length = byteLength)
    (label : String) (rest : Bytes) :
    readBytes byteLength label (bytes ++ rest) = .ok (bytes, rest) := by
  rw [readBytes, if_neg (by simp [h]), ← h, List.take_left, List.drop_left]

theorem readBytes_ok {byteLength : Nat} {label : String} {input bytes rest : Bytes}
    (h : readBytes byteLength label input = .ok (bytes, rest)) :
    bytes.length = byteLength ∧ input = bytes ++ rest := by
  unfold readBytes at h
  split at h
  · cases h
  · cases h
    rw [List.length_take, List.take_append_drop]
    exact ⟨by omega, rfl⟩

theorem readU8_ok {label : String} {input rest : Bytes} {n : Nat}
    (h : readU8 label input = .ok (n, rest)) : n < 256 ∧ input = UInt8.ofNat n :: rest := by
  obtain ⟨⟨bytes, rest'⟩, hbytes, hret⟩ := Except.bind_eq_ok.1 h
  cases hret
  obtain ⟨hlength, hinput⟩ := readBytes_ok hbytes
  obtain ⟨b, rfl⟩ := List.length_eq_one_iff.1 hlength
  have hvalue : LittleEndian.ofBytes [b] = b.toNat := by simp [LittleEndian.ofBytes]
  rw [hvalue, UInt8.ofNat_toNat]
  exact ⟨b.toNat_lt, hinput⟩

theorem readU8_ofNat {n : Nat} (h : n < 256) (label : String) (rest : Bytes) :
    readU8 label (UInt8.ofNat n :: rest) = .ok (n, rest) := by
  have hvalue : LittleEndian.ofBytes [UInt8.ofNat n] = n := by
    rw [LittleEndian.ofBytes, LittleEndian.ofBytes, UInt8.toNat_ofNat']
    omega
  have hread : readBytes 1 label ([UInt8.ofNat n] ++ rest) = .ok ([UInt8.ofNat n], rest) :=
    readBytes_append rfl label rest
  refine Except.bind_eq_ok.2 ⟨_, hread, ?_⟩
  show Except.ok (LittleEndian.ofBytes [UInt8.ofNat n], rest) = _
  rw [hvalue]

theorem readKey_bytes (label : String) (key : PublicKey) (rest : Bytes) :
    readKey label (key.bytes ++ rest) = .ok (key, rest) :=
  Except.bind_eq_ok.2 ⟨_, readBytes_append key.length_eq label rest,
    Except.bind_eq_ok.2 ⟨key, publicKeyFromBytes_bytes key, rfl⟩⟩

theorem readKey_ok {label : String} {input rest : Bytes} {key : PublicKey}
    (h : readKey label input = .ok (key, rest)) : input = key.bytes ++ rest := by
  obtain ⟨⟨bytes, rest'⟩, hbytes, h⟩ := Except.bind_eq_ok.1 h
  obtain ⟨key', hkey, hret⟩ := Except.bind_eq_ok.1 h
  cases hret
  rw [publicKeyFromBytes_ok hkey]
  exact (readBytes_ok hbytes).2

theorem readIndexes_map {indexes : List Nat} (h : ∀ index ∈ indexes, index < 256)
    (label : String) (rest : Bytes) :
    readIndexes indexes.length label (indexes.map UInt8.ofNat ++ rest) = .ok (indexes, rest) := by
  have hback : (indexes.map UInt8.ofNat).map UInt8.toNat = indexes := by
    rw [List.map_map]
    refine (List.map_congr_left fun index hindex => ?_).trans (List.map_id indexes)
    rw [Function.comp_apply, UInt8.toNat_ofNat', id]
    exact Nat.mod_eq_of_lt (h index hindex)
  refine Except.bind_eq_ok.2 ⟨_, readBytes_append (by rw [List.length_map]) label rest, ?_⟩
  show Except.ok ((indexes.map UInt8.ofNat).map UInt8.toNat, rest) = _
  rw [hback]

theorem readIndexes_ok {count : Nat} {label : String} {input rest : Bytes} {indexes : List Nat}
    (h : readIndexes count label input = .ok (indexes, rest)) :
    indexes.length = count ∧ input = indexes.map UInt8.ofNat ++ rest := by
  obtain ⟨⟨bytes, rest'⟩, hbytes, hret⟩ := Except.bind_eq_ok.1 h
  cases hret
  obtain ⟨hlength, hinput⟩ := readBytes_ok hbytes
  refine ⟨by rw [List.length_map, hlength], ?_⟩
  rw [map_ofNat_toNat]
  exact hinput

theorem endOfInput_ok {message : String} {input : Bytes} {result : Unit} :
    endOfInput message input = .ok result ↔ input = [] := by
  rw [endOfInput, rejectWhen_ok, not_not, List.length_eq_zero_iff]

end MessageReader

/-! ## Integers -/

theorem encodeUnsignedInteger_ok {value : Int} {byteLength : Nat} {label : String} {bytes : Bytes} :
    encodeUnsignedInteger value byteLength label = .ok bytes ↔
      (isSafeInteger value = true ∧ 0 ≤ value ∧ value < 2 ^ (8 * byteLength)) ∧
        bytes = LittleEndian.toBytes byteLength value.toNat := by
  simp only [encodeUnsignedInteger, Except.bind_eq_ok, rejectWhen_ok, not_or, Bool.not_eq_false,
    Int.not_lt, Int.not_le]
  constructor
  · rintro ⟨_, ⟨hsafe, hnonneg⟩, _, hlt, hret⟩
    exact ⟨⟨hsafe, hnonneg, hlt⟩, (Except.ok.inj hret).symm⟩
  · rintro ⟨⟨hsafe, hnonneg, hlt⟩, hret⟩
    exact ⟨(), ⟨hsafe, hnonneg⟩, (), hlt, congrArg Except.ok hret.symm⟩

theorem isSafeInteger_of_lt {n : Nat} (h : n < 65536) : isSafeInteger n = true := by
  unfold isSafeInteger maxSafeInteger
  exact decide_eq_true (by omega)

theorem encodeU8_ok {value : Int} {label : String} {bytes : Bytes} :
    encodeU8 value label = .ok bytes ↔
      0 ≤ value ∧ value < 256 ∧ bytes = [UInt8.ofNat value.toNat] := by
  have hbytes : LittleEndian.toBytes 1 value.toNat = [UInt8.ofNat value.toNat] := by
    rw [LittleEndian.toBytes, LittleEndian.toBytes, List.cons.injEq]
    exact ⟨UInt8.toNat_inj.1 (by simp), rfl⟩
  rw [encodeU8, encodeUnsignedInteger_ok, hbytes]
  constructor
  · rintro ⟨⟨-, hnonneg, hlt⟩, hret⟩
    exact ⟨hnonneg, hlt, hret⟩
  · rintro ⟨hnonneg, hlt, hret⟩
    refine ⟨⟨?_, hnonneg, hlt⟩, hret⟩
    have := isSafeInteger_of_lt (n := value.toNat) (by omega)
    rwa [Int.toNat_of_nonneg hnonneg] at this

theorem encodeU16_nat {n : Nat} {label : String} {bytes : Bytes} :
    encodeU16 n label = .ok bytes ↔ n < 65536 ∧ bytes = LittleEndian.toBytes 2 n := by
  rw [encodeU16, encodeUnsignedInteger_ok, Int.toNat_natCast]
  constructor
  · rintro ⟨⟨-, -, hlt⟩, hret⟩
    exact ⟨by omega, hret⟩
  · rintro ⟨hlt, hret⟩
    exact ⟨⟨isSafeInteger_of_lt hlt, by omega, by omega⟩, hret⟩

theorem recovers_u8 (label label' : String) :
    Recovers (fun n : Nat => encodeU8 n label) (readU8 label') id := by
  intro n bytes h rest
  obtain ⟨-, hlt, rfl⟩ := encodeU8_ok.1 h
  rw [Int.toNat_natCast]
  exact readU8_ofNat (by omega) label' rest

theorem reencodes_u8 (label label' : String) :
    Reencodes (fun n : Nat => encodeU8 n label) (readU8 label') := by
  intro input n rest h
  obtain ⟨hlt, rfl⟩ := readU8_ok h
  exact ⟨[UInt8.ofNat n], encodeU8_ok.2 ⟨by omega, by omega, by simp⟩, rfl⟩

theorem recovers_u16 (label label' : String) :
    Recovers (fun n : Nat => encodeU16 n label) (readU16 label') id := by
  intro n bytes h rest
  obtain ⟨hlt, rfl⟩ := encodeU16_nat.1 h
  refine Except.bind_eq_ok.2 ⟨_, MessageReader.readBytes_append
    (LittleEndian.length_toBytes 2 n) label' rest, ?_⟩
  show Except.ok (LittleEndian.ofBytes (LittleEndian.toBytes 2 n), rest) = _
  rw [LittleEndian.ofBytes_toBytes (by simpa using hlt)]
  rfl

theorem reencodes_u16 (label label' : String) :
    Reencodes (fun n : Nat => encodeU16 n label) (readU16 label') := by
  intro input n rest h
  obtain ⟨⟨bytes, rest'⟩, hbytes, hret⟩ := Except.bind_eq_ok.1 h
  cases hret
  obtain ⟨hlength, rfl⟩ := MessageReader.readBytes_ok hbytes
  refine ⟨bytes, encodeU16_nat.2 ⟨?_, ?_⟩, rfl⟩
  · have hlt := LittleEndian.ofBytes_lt bytes
    rwa [hlength] at hlt
  · exact (LittleEndian.toBytes_ofBytes_of_length hlength).symm

/-! ## Validation -/

@[simp] theorem assertU8_ok {value : Int} {label : String} {result : Unit} :
    assertU8 value label = .ok result ↔ 0 ≤ value ∧ value ≤ 255 := by
  rw [assertU8, rejectWhen_ok]
  omega

@[simp] theorem assertU16_ok {value : Int} {label : String} {result : Unit} :
    assertU16 value label = .ok result ↔ 0 ≤ value ∧ value ≤ 65535 := by
  rw [assertU16, rejectWhen_ok]
  omega

theorem checkEach_ok {α : Type} {check : α → Except String Unit} {items : List α} {result : Unit} :
    checkEach check items = .ok result ↔ ∀ item ∈ items, check item = .ok () := by
  induction items with
  | nil => exact ⟨fun _ item hitem => (List.not_mem_nil hitem).elim, fun _ => rfl⟩
  | cons item items ih =>
    rw [checkEach, Except.bind_eq_ok, List.forall_mem_cons, ih]
    exact ⟨fun ⟨_, hitem, hitems⟩ => ⟨hitem, hitems⟩, fun ⟨hitem, hitems⟩ => ⟨(), hitem, hitems⟩⟩

/-- A lookup that passes `validateLookup`. -/
structure SquadsMessageAddressTableLookup.Valid (lookup : SquadsMessageAddressTableLookup) :
    Prop where
  writable_length : lookup.writableIndexes.length ≤ 255
  readonly_length : lookup.readonlyIndexes.length ≤ 255
  writable_lt : ∀ index ∈ lookup.writableIndexes, index < 256
  readonly_lt : ∀ index ∈ lookup.readonlyIndexes, index < 256

/-- An instruction that passes `validateInstruction`. -/
structure SquadsCompiledInstruction.Valid (keyCount totalAccountCount : Nat)
    (instruction : SquadsCompiledInstruction) : Prop where
  program_byte : instruction.programIdIndex < 256
  program_lt : instruction.programIdIndex < keyCount
  accounts_length : instruction.accountIndexes.length ≤ 255
  data_length : instruction.data.length ≤ 65535
  accounts_lt : ∀ index ∈ instruction.accountIndexes, index < 256 ∧ index < totalAccountCount

namespace SquadsVaultTransactionMessage

/-- The number of accounts, loaded ones included. -/
def totalAccountCount (message : SquadsVaultTransactionMessage) : Nat :=
  message.accountKeys.length + loadedAccountCount message.addressTableLookups

/-- A message that passes validation. -/
structure Valid (message : SquadsVaultTransactionMessage) : Prop where
  numSigners : 0 ≤ message.numSigners ∧ message.numSigners ≤ 255
  numWritableSigners : 0 ≤ message.numWritableSigners ∧
    message.numWritableSigners ≤ message.numSigners
  numWritableNonSigners : 0 ≤ message.numWritableNonSigners ∧
    message.numSigners + message.numWritableNonSigners ≤ message.accountKeys.length
  keys_length : message.accountKeys.length ≤ 255
  instructions_length : message.instructions.length ≤ 255
  lookups_length : message.addressTableLookups.length ≤ 255
  lookups : ∀ lookup ∈ message.addressTableLookups, lookup.Valid
  total : message.totalAccountCount ≤ 256
  instructions : ∀ instruction ∈ message.instructions,
    instruction.Valid message.accountKeys.length message.totalAccountCount

end SquadsVaultTransactionMessage

theorem validateLookup_ok {lookup : SquadsMessageAddressTableLookup} :
    validateLookup lookup = .ok () ↔ lookup.Valid := by
  simp only [validateLookup, Except.bind_eq_ok, checkEach_ok, assertU8_ok]
  constructor
  · rintro ⟨_, hw, _, hr, _, hwi, hri⟩
    exact ⟨by omega, by omega, fun index hindex => by have := hwi index hindex; omega,
      fun index hindex => by have := hri index hindex; omega⟩
  · rintro ⟨hw, hr, hwi, hri⟩
    exact ⟨(), by omega, (), by omega, (), fun index hindex => by have := hwi index hindex; omega,
      fun index hindex => by have := hri index hindex; omega⟩

theorem validateInstruction_ok {keyCount totalAccountCount : Nat}
    {instruction : SquadsCompiledInstruction} :
    validateInstruction keyCount totalAccountCount instruction = .ok () ↔
      instruction.Valid keyCount totalAccountCount := by
  simp only [validateInstruction, validateAccountIndex, Except.bind_eq_ok, checkEach_ok,
    assertU8_ok, assertU16_ok, rejectWhen_ok, Nat.not_le]
  constructor
  · rintro ⟨_, hbyte, _, hprogram, _, hlength, _, hdata, haccounts⟩
    refine ⟨by omega, hprogram, by omega, by omega, fun index hindex => ?_⟩
    obtain ⟨_, hlow, htotal⟩ := haccounts index hindex
    exact ⟨by omega, htotal⟩
  · rintro ⟨hbyte, hprogram, hlength, hdata, haccounts⟩
    refine ⟨(), by omega, (), hprogram, (), by omega, (), by omega, fun index hindex => ?_⟩
    obtain ⟨hlow, htotal⟩ := haccounts index hindex
    exact ⟨(), by omega, htotal⟩

theorem validate_ok {message : SquadsVaultTransactionMessage} {result : Unit} :
    validateSquadsVaultTransactionMessage message = .ok result ↔ message.Valid := by
  simp only [validateSquadsVaultTransactionMessage, Except.bind_eq_ok, checkEach_ok, assertU8_ok,
    rejectWhen_ok, validateLookup_ok, validateInstruction_ok, Int.not_lt, Nat.not_lt]
  constructor
  · rintro ⟨_, hsigners, _, hwritable, _, hnonSigners, _, hkeys, _, hinstructions, _, hlookups, _,
      hle, _, hstatic, _, hrest, _, hvalid, _, htotal, hall⟩
    exact ⟨hsigners, ⟨hwritable.1, hle⟩, ⟨hnonSigners.1, by omega⟩, by omega, by omega, by omega,
      hvalid, htotal, hall⟩
  · rintro ⟨hsigners, hwritable, hnonSigners, hkeys, hinstructions, hlookups, hvalid, htotal, hall⟩
    exact ⟨(), hsigners, (), by omega, (), by omega, (), by omega, (), by omega, (), by omega, (),
      hwritable.2, (), by omega, (), by omega, (), hvalid, (), htotal, hall⟩

/-! ## Encoded, then decoded -/

theorem decodeInstruction_encode {instruction : SquadsCompiledInstruction} {bytes : Bytes}
    (h : encodeInstruction instruction = .ok bytes)
    (hlt : ∀ index ∈ instruction.accountIndexes, index < 256) (rest : Bytes) :
    decodeInstruction (bytes ++ rest) = .ok (instruction, rest) := by
  simp only [encodeInstruction, Except.bind_eq_ok] at h
  obtain ⟨program, hprogram, count, hcount, dataLength, hdataLength, hret⟩ := h
  cases hret
  simp only [List.append_assoc]
  exact Except.bind_eq_ok.2 ⟨_, recovers_u8 _ _ _ _ hprogram _, Except.bind_eq_ok.2
    ⟨_, recovers_u8 _ _ _ _ hcount _, Except.bind_eq_ok.2 ⟨_, readIndexes_map hlt _ _,
      Except.bind_eq_ok.2 ⟨_, recovers_u16 _ _ _ _ hdataLength _, Except.bind_eq_ok.2
        ⟨_, MessageReader.readBytes_append rfl _ _, rfl⟩⟩⟩⟩⟩

theorem decodeLookup_encode {lookup : SquadsMessageAddressTableLookup} {bytes : Bytes}
    (h : encodeLookup lookup = .ok bytes) (hvalid : lookup.Valid) (rest : Bytes) :
    decodeLookup (bytes ++ rest) = .ok (lookup, rest) := by
  simp only [encodeLookup, Except.bind_eq_ok] at h
  obtain ⟨writable, hwritable, readonly, hreadonly, hret⟩ := h
  cases hret
  simp only [List.append_assoc]
  exact Except.bind_eq_ok.2 ⟨_, MessageReader.readKey_bytes _ _ _, Except.bind_eq_ok.2
    ⟨_, recovers_u8 _ _ _ _ hwritable _, Except.bind_eq_ok.2
      ⟨_, readIndexes_map hvalid.writable_lt _ _, Except.bind_eq_ok.2
        ⟨_, recovers_u8 _ _ _ _ hreadonly _, Except.bind_eq_ok.2
          ⟨_, readIndexes_map hvalid.readonly_lt _ _, rfl⟩⟩⟩⟩⟩

/-- A run of items that are each read back is read back. -/
theorem decodeEach_items {α : Type} {enc : α → Except String Bytes} {dec : MessageReader α}
    {items : List α} (hitem : ∀ item ∈ items, ∀ chunk, enc item = .ok chunk → ∀ rest,
      dec (chunk ++ rest) = .ok (item, rest)) {bytes : Bytes}
    (h : encodeEach (fun _ => enc) 0 items = .ok bytes) (rest : Bytes) :
    decodeEach (fun _ => dec) items.length 0 (bytes ++ rest) = .ok (items, rest) := by
  obtain ⟨items', hall, hdecode⟩ := decodeEach_encodeEach (fun _ => dec) Eq bytes.length
    (fun item hmem _ chunk hchunk _ => ⟨item, rfl, fun _ rest => hitem item hmem chunk hchunk rest⟩)
    h (Nat.le_refl _)
  rw [List.forall₂_eq_eq_eq] at hall
  rw [hdecode 0 rest, hall]

/-- **Decoding inverts encoding.** -/
theorem decode_encodeSquadsVaultTransactionMessage {message : SquadsVaultTransactionMessage}
    {bytes : Bytes} (h : encodeSquadsVaultTransactionMessage message = .ok bytes) :
    decodeSquadsVaultTransactionMessage bytes = .ok message := by
  obtain ⟨_, hvalidate, h⟩ := Except.bind_eq_ok.1 h
  have hvalid := validate_ok.1 hvalidate
  obtain ⟨numSigners, numWritableSigners, numWritableNonSigners, keys, instructions, lookups⟩ :=
    message
  obtain ⟨signers, rfl⟩ := Int.eq_ofNat_of_zero_le hvalid.numSigners.1
  obtain ⟨writableSigners, rfl⟩ := Int.eq_ofNat_of_zero_le hvalid.numWritableSigners.1
  obtain ⟨nonSigners, rfl⟩ := Int.eq_ofNat_of_zero_le hvalid.numWritableNonSigners.1
  simp only [encodeMessageParts, Except.bind_eq_ok] at h
  obtain ⟨signerByte, hsigners, writableByte, hwritable, nonSignerByte, hnonSigners, keyCount,
    hkeyCount, instructionCount, hinstructionCount, instructionBytes, hinstructions, lookupCount,
    hlookupCount, lookupBytes, hlookups, hret⟩ := h
  cases hret
  have hkeyRun : ∀ rest, decodeEach (fun _ => readKey "message.accountKeys") keys.length 0
      (keys.flatMap PublicKey.bytes ++ rest) = .ok (keys, rest) := fun rest =>
    decodeEach_flatMap (fun key _ _ rest => MessageReader.readKey_bytes "message.accountKeys" key rest) 0 rest
  have hinstructionRun := decodeEach_items (fun instruction hmem chunk hchunk rest =>
    decodeInstruction_encode hchunk
      (fun index hindex => ((hvalid.instructions instruction hmem).accounts_lt index hindex).1)
      rest) hinstructions
  have hlookupRun := decodeEach_items (fun lookup hmem chunk hchunk rest =>
    decodeLookup_encode hchunk (hvalid.lookups lookup hmem) rest) hlookups []
  rw [List.append_nil] at hlookupRun
  exact Except.bind_eq_ok.2 ⟨_, recovers_u8 _ _ _ _ hsigners _, Except.bind_eq_ok.2
    ⟨_, recovers_u8 _ _ _ _ hwritable _, Except.bind_eq_ok.2
    ⟨_, recovers_u8 _ _ _ _ hnonSigners _, Except.bind_eq_ok.2
    ⟨_, recovers_u8 _ _ _ _ hkeyCount _, Except.bind_eq_ok.2
    ⟨_, hkeyRun _, Except.bind_eq_ok.2 ⟨_, recovers_u8 _ _ _ _ hinstructionCount _,
    Except.bind_eq_ok.2 ⟨_, hinstructionRun _, Except.bind_eq_ok.2
    ⟨_, recovers_u8 _ _ _ _ hlookupCount _, Except.bind_eq_ok.2 ⟨_, hlookupRun,
    Except.bind_eq_ok.2 ⟨(), endOfInput_ok.2 rfl, Except.bind_eq_ok.2
    ⟨(), validate_ok.2 hvalid, rfl⟩⟩⟩⟩⟩⟩⟩⟩⟩⟩⟩

/-! ## Decoded, then encoded -/

theorem encodeInstruction_decode {input rest : Bytes} {instruction : SquadsCompiledInstruction}
    (h : decodeInstruction input = .ok (instruction, rest)) :
    ∃ bytes, encodeInstruction instruction = .ok bytes ∧ input = bytes ++ rest := by
  simp only [decodeInstruction, Except.bind_eq_ok] at h
  obtain ⟨⟨program, _⟩, hprogram, ⟨count, _⟩, hcount, ⟨indexes, _⟩, hindexes, ⟨dataLength, _⟩,
    hdataLength, ⟨data, _⟩, hdata, hret⟩ := h
  cases hret
  obtain ⟨programByte, hprogramByte, rfl⟩ :=
    reencodes_u8 "instruction.programIdIndex" _ _ _ _ hprogram
  obtain ⟨countByte, hcountByte, rfl⟩ :=
    reencodes_u8 "instruction.accountIndexes.length" _ _ _ _ hcount
  obtain ⟨rfl, rfl⟩ := readIndexes_ok hindexes
  obtain ⟨lengthBytes, hlengthBytes, rfl⟩ :=
    reencodes_u16 "instruction.data.length" _ _ _ _ hdataLength
  obtain ⟨rfl, rfl⟩ := MessageReader.readBytes_ok hdata
  refine ⟨_, Except.bind_eq_ok.2 ⟨_, hprogramByte, Except.bind_eq_ok.2 ⟨_, hcountByte,
    Except.bind_eq_ok.2 ⟨_, hlengthBytes, rfl⟩⟩⟩, ?_⟩
  simp only [List.append_assoc]

theorem encodeLookup_decode {input rest : Bytes} {lookup : SquadsMessageAddressTableLookup}
    (h : decodeLookup input = .ok (lookup, rest)) :
    ∃ bytes, encodeLookup lookup = .ok bytes ∧ input = bytes ++ rest := by
  simp only [decodeLookup, Except.bind_eq_ok] at h
  obtain ⟨⟨key, _⟩, hkey, ⟨writableCount, _⟩, hwritableCount, ⟨writable, _⟩, hwritable,
    ⟨readonlyCount, _⟩, hreadonlyCount, ⟨readonly, _⟩, hreadonly, hret⟩ := h
  cases hret
  obtain ⟨writableByte, hwritableByte, rfl⟩ :=
    reencodes_u8 "lookup.writableIndexes.length" _ _ _ _ hwritableCount
  obtain ⟨readonlyByte, hreadonlyByte, rfl⟩ :=
    reencodes_u8 "lookup.readonlyIndexes.length" _ _ _ _ hreadonlyCount
  obtain ⟨rfl, rfl⟩ := readIndexes_ok hwritable
  obtain ⟨rfl, rfl⟩ := readIndexes_ok hreadonly
  cases MessageReader.readKey_ok hkey
  refine ⟨_, Except.bind_eq_ok.2 ⟨_, hwritableByte, Except.bind_eq_ok.2 ⟨_, hreadonlyByte, rfl⟩⟩,
    ?_⟩
  simp only [List.append_assoc]

theorem decodeKeys_ok {label : String} : ∀ {count index : Nat} {input rest : Bytes}
    {keys : List PublicKey}, decodeEach (fun _ => readKey label) count index input =
      .ok (keys, rest) → input = keys.flatMap PublicKey.bytes ++ rest
  | 0, _, _, _, _, h => by
    cases h
    rfl
  | count + 1, index, input, rest, keys, h => by
    obtain ⟨key, more, input', hkey, hmore, rfl⟩ := decodeEach_succ h
    rw [MessageReader.readKey_ok hkey, decodeKeys_ok hmore, List.flatMap_cons, List.append_assoc]

/-- **Encoding what was decoded gives the bytes back.** -/
theorem encode_decodeSquadsVaultTransactionMessage {bytes : Bytes}
    {message : SquadsVaultTransactionMessage}
    (h : decodeSquadsVaultTransactionMessage bytes = .ok message) :
    encodeSquadsVaultTransactionMessage message = .ok bytes := by
  simp only [decodeSquadsVaultTransactionMessage, Except.bind_eq_ok] at h
  obtain ⟨⟨signers, _⟩, hsigners, ⟨writableSigners, _⟩, hwritable, ⟨nonSigners, _⟩, hnonSigners,
    ⟨keyCount, _⟩, hkeyCount, ⟨keys, _⟩, hkeys, ⟨instructionCount, _⟩, hinstructionCount,
    ⟨instructions, _⟩, hinstructions, ⟨lookupCount, _⟩, hlookupCount, ⟨lookups, _⟩, hlookups, _,
    hend, _, hvalidate, hret⟩ := h
  cases hret
  obtain ⟨signerByte, hsignerByte, rfl⟩ := reencodes_u8 "message.numSigners" _ _ _ _ hsigners
  obtain ⟨writableByte, hwritableByte, rfl⟩ :=
    reencodes_u8 "message.numWritableSigners" _ _ _ _ hwritable
  obtain ⟨nonSignerByte, hnonSignerByte, rfl⟩ :=
    reencodes_u8 "message.numWritableNonSigners" _ _ _ _ hnonSigners
  have hkeysLength := decodeEach_length hkeys
  have hinstructionsLength := decodeEach_length hinstructions
  have hlookupsLength := decodeEach_length hlookups
  obtain ⟨keyCountByte, hkeyCountByte, rfl⟩ :=
    reencodes_u8 "message.accountKeys.length" _ _ _ _ hkeyCount
  cases decodeKeys_ok hkeys
  obtain ⟨instructionCountByte, hinstructionCountByte, rfl⟩ :=
    reencodes_u8 "message.instructions.length" _ _ _ _ hinstructionCount
  obtain ⟨instructionBytes, hinstructionBytes, rfl⟩ :=
    reencodes_each (fun _ _ _ _ hitem => encodeInstruction_decode hitem) _ _ _ _ _ hinstructions
  obtain ⟨lookupCountByte, hlookupCountByte, rfl⟩ :=
    reencodes_u8 "message.addressTableLookups.length" _ _ _ _ hlookupCount
  obtain ⟨lookupBytes, hlookupBytes, rfl⟩ :=
    reencodes_each (fun _ _ _ _ hitem => encodeLookup_decode hitem) _ _ _ _ _ hlookups
  rw [endOfInput_ok] at hend
  subst hend hkeysLength hinstructionsLength hlookupsLength
  refine Except.bind_eq_ok.2 ⟨_, hvalidate, Except.bind_eq_ok.2 ⟨_, hsignerByte,
    Except.bind_eq_ok.2 ⟨_, hwritableByte, Except.bind_eq_ok.2 ⟨_, hnonSignerByte,
    Except.bind_eq_ok.2 ⟨_, hkeyCountByte, Except.bind_eq_ok.2 ⟨_, hinstructionCountByte,
    Except.bind_eq_ok.2 ⟨_, hinstructionBytes, Except.bind_eq_ok.2 ⟨_, hlookupCountByte,
    Except.bind_eq_ok.2 ⟨_, hlookupBytes, ?_⟩⟩⟩⟩⟩⟩⟩⟩⟩
  rw [List.append_nil]
  rfl

/-! ## What is encoded -/

theorem encodeU8_total {value : Int} (h : 0 ≤ value ∧ value ≤ 255) (label : String) :
    encodeU8 value label = .ok [UInt8.ofNat value.toNat] :=
  encodeU8_ok.2 ⟨h.1, by omega, rfl⟩

/-- **Every valid message is encoded.** -/
theorem encodeMessageParts_total {message : SquadsVaultTransactionMessage} (h : message.Valid) :
    ∃ bytes, encodeMessageParts message = .ok bytes := by
  have hsigners := h.numSigners
  have hwritable := h.numWritableSigners
  have hnonSigners := h.numWritableNonSigners
  have hkeys := h.keys_length
  obtain ⟨instructions, hinstructions⟩ := encodeEach_total (fun _ => encodeInstruction)
    (fun instruction hmem _ => by
      have hvalid := h.instructions instruction hmem
      have hprogram := hvalid.program_byte
      have haccounts := hvalid.accounts_length
      have hdata := hvalid.data_length
      exact ⟨_, Except.bind_eq_ok.2 ⟨_, encodeU8_total (by omega) _, Except.bind_eq_ok.2
        ⟨_, encodeU8_total (by omega) _, Except.bind_eq_ok.2
          ⟨_, encodeU16_nat.2 ⟨by omega, rfl⟩, rfl⟩⟩⟩⟩) 0
  obtain ⟨lookups, hlookups⟩ := encodeEach_total (fun _ => encodeLookup)
    (fun lookup hmem _ => by
      have hvalid := h.lookups lookup hmem
      have hw := hvalid.writable_length
      have hr := hvalid.readonly_length
      exact ⟨_, Except.bind_eq_ok.2 ⟨_, encodeU8_total (by omega) _, Except.bind_eq_ok.2
        ⟨_, encodeU8_total (by omega) _, rfl⟩⟩⟩) 0
  have hinstructionCount := h.instructions_length
  have hlookupCount := h.lookups_length
  exact ⟨_, Except.bind_eq_ok.2 ⟨_, encodeU8_total hsigners _, Except.bind_eq_ok.2
    ⟨_, encodeU8_total (by omega) _, Except.bind_eq_ok.2 ⟨_, encodeU8_total (by omega) _,
    Except.bind_eq_ok.2 ⟨_, encodeU8_total (by omega) _, Except.bind_eq_ok.2
    ⟨_, encodeU8_total (by omega) _, Except.bind_eq_ok.2 ⟨_, hinstructions, Except.bind_eq_ok.2
    ⟨_, encodeU8_total (by omega) _, Except.bind_eq_ok.2 ⟨_, hlookups, rfl⟩⟩⟩⟩⟩⟩⟩⟩⟩

theorem encode_of_valid {message : SquadsVaultTransactionMessage} (h : message.Valid) :
    ∃ bytes, encodeSquadsVaultTransactionMessage message = .ok bytes := by
  obtain ⟨bytes, hbytes⟩ := encodeMessageParts_total h
  exact ⟨bytes, Except.bind_eq_ok.2 ⟨(), validate_ok.2 h, hbytes⟩⟩

end Chancery.Squads
