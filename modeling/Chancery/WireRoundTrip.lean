import Chancery.SolanaAccounts
import Chancery.WireFormat

/-!
# What the wire format reads back from compiled bytes

Every part that the compiler writes is read back by the format's reader, with anything after it.

* `readLength_encode` — short-vector lengths below 2^16.
* `Resolves` — a compiled instruction whose indexes stand for the original addresses;
  `readInstruction_compile`.
* `readLookups_compile` — the lookup sections.
* `decodeMessage_compile` — a whole compiled message that is short enough to be sent.
-/

set_option autoImplicit false

namespace Chancery

open Wire

/-! ## Bytes and lengths -/

theorem ofNat_toNat {n : Nat} (h : n < 256) : (UInt8.ofNat n).toNat = n := by
  rw [UInt8.toNat_ofNat']
  exact Nat.mod_eq_of_lt h

theorem readByte_ofNat {n : Nat} (h : n < 256) (rest : Bytes) :
    readByte (UInt8.ofNat n :: rest) = .ok (n, rest) := by
  rw [readByte, ofNat_toNat h]

theorem shortVectorBytes_last {fuel n : Nat} (hfuel : 0 < fuel) (h : n < 128) :
    shortVectorBytes fuel n = [UInt8.ofNat n] := by
  obtain ⟨fuel, rfl⟩ : ∃ k, fuel = k + 1 := ⟨fuel - 1, by omega⟩
  rw [shortVectorBytes, if_neg (by omega), Nat.mod_eq_of_lt h]

theorem shortVectorBytes_more {fuel n : Nat} (hfuel : 0 < fuel) (h : 128 ≤ n) :
    shortVectorBytes fuel n =
      UInt8.ofNat (n % 128 + 128) :: shortVectorBytes (fuel - 1) (n / 128) := by
  obtain ⟨fuel, rfl⟩ : ∃ k, fuel = k + 1 := ⟨fuel - 1, by omega⟩
  rw [shortVectorBytes, if_pos (by omega), Nat.add_sub_cancel]

theorem readLength_one {b0 : UInt8} (h0 : b0.toNat < 128) (rest : Bytes) :
    readLength (b0 :: rest) = .ok (b0.toNat, rest) := by
  rw [readLength.eq_def]
  exact if_pos h0

theorem readLength_two {b0 b1 : UInt8} (h0 : ¬ b0.toNat < 128) (hne : b1.toNat ≠ 0)
    (h1 : b1.toNat < 128) (rest : Bytes) :
    readLength (b0 :: b1 :: rest) = .ok (b0.toNat - 128 + b1.toNat * 128, rest) := by
  rw [readLength.eq_def]
  dsimp only
  rw [if_neg h0, if_neg hne, if_pos h1]

theorem readLength_three {b0 b1 b2 : UInt8} (h0 : ¬ b0.toNat < 128) (h1 : ¬ b1.toNat < 128)
    (hne : b2.toNat ≠ 0) (h2 : b2.toNat ≤ 3) (rest : Bytes) :
    readLength (b0 :: b1 :: b2 :: rest) =
      .ok (b0.toNat - 128 + (b1.toNat - 128) * 128 + b2.toNat * 16384, rest) := by
  rw [readLength.eq_def]
  dsimp only
  rw [if_neg h0, if_neg (by omega), if_neg h1, if_neg hne, if_neg (by omega)]

theorem readLength_shortVectorBytes {n : Nat} (h : n < 65536) (rest : Bytes) :
    readLength (shortVectorBytes (n + 1) n ++ rest) = .ok (n, rest) := by
  have hlow : (UInt8.ofNat (n % 128 + 128)).toNat = n % 128 + 128 := ofNat_toNat (by omega)
  by_cases hone : n < 128
  · have hbyte : (UInt8.ofNat n).toNat = n := ofNat_toNat (by omega)
    rw [shortVectorBytes_last (by omega) hone, List.singleton_append, readLength_one (by omega),
      hbyte]
  · rw [shortVectorBytes_more (by omega) (by omega), List.cons_append]
    by_cases htwo : n / 128 < 128
    · have hbyte : (UInt8.ofNat (n / 128)).toNat = n / 128 := ofNat_toNat (by omega)
      rw [shortVectorBytes_last (by omega) htwo, List.singleton_append,
        readLength_two (by omega) (by omega) (by omega), hlow, hbyte]
      congr 2
      omega
    · have hmid : (UInt8.ofNat (n / 128 % 128 + 128)).toNat = n / 128 % 128 + 128 :=
        ofNat_toNat (by omega)
      have hhigh : (UInt8.ofNat (n / 128 / 128)).toNat = n / 128 / 128 := ofNat_toNat (by omega)
      rw [shortVectorBytes_more (by omega) (by omega),
        shortVectorBytes_last (by omega) (by omega), List.cons_append, List.singleton_append,
        readLength_three (by omega) (by omega) (by omega) (by omega), hlow, hmid, hhigh]
      congr 2
      omega

theorem readLength_encode {n : Nat} {bytes : Bytes} (h : encodeShortVectorLength n = .ok bytes)
    (hlt : n < 65536) (rest : Bytes) : readLength (bytes ++ rest) = .ok (n, rest) := by
  unfold encodeShortVectorLength at h
  split at h
  · cases h
    exact readLength_shortVectorBytes hlt rest
  · cases h

theorem readKey_bytes (key : PublicKey) (rest : Bytes) :
    readKey (key.bytes ++ rest) = .ok (key, rest) := by
  exact Except.bind_eq_ok.2 ⟨_, readBytes_append key.length_eq "key" rest,
    Except.bind_eq_ok.2 ⟨key, publicKeyFromBytes_bytes key, rfl⟩⟩

/-! ## Vectors -/

theorem readVector_eq {α : Type} {read : Reader α} {n : Nat} {count : Bytes}
    (hcount : encodeShortVectorLength n = .ok count) (hlt : n < 65536) (input : Bytes) :
    readVector read (count ++ input) = Codec.decodeEach (fun _ => read) n 0 input := by
  rw [readVector, readLength_encode hcount hlt]
  rfl

theorem readVector_keys {keys : List PublicKey} {count : Bytes}
    (hcount : encodeShortVectorLength keys.length = .ok count) (hlt : keys.length < 65536)
    (rest : Bytes) :
    readVector readKey (count ++ (keys.flatMap PublicKey.bytes ++ rest)) = .ok (keys, rest) := by
  rw [readVector_eq hcount hlt]
  exact Codec.decodeEach_flatMap (fun key _ _ rest => readKey_bytes key rest) 0 rest

theorem readVector_indexes {indexes : List Nat} {count : Bytes}
    (hcount : encodeShortVectorLength indexes.length = .ok count) (hlt : indexes.length < 65536)
    (hbyte : ∀ index ∈ indexes, index < 256) (rest : Bytes) :
    readVector readByte (count ++ (indexes.map UInt8.ofNat ++ rest)) = .ok (indexes, rest) := by
  rw [readVector_eq hcount hlt, List.map_eq_flatMap]
  exact Codec.decodeEach_flatMap
    (fun index hindex _ rest => readByte_ofNat (hbyte index hindex) rest) 0 rest

/-! ## Instructions -/

theorem accountIndexByAddress_some {keys : List PublicKey} {address : PublicKey} {index : Nat}
    (h : accountIndexByAddress keys address = some index) : keys[index]? = some address := by
  obtain ⟨⟨key, i⟩, hfind, heq⟩ := Option.map_eq_some_iff.1 h
  cases heq
  have hkey := List.find?_some hfind
  have hmem := List.mem_of_find?_eq_some hfind
  rw [List.mem_reverse, List.mem_zipIdx_iff_getElem?] at hmem
  rw [hmem, eq_of_beq hkey]

theorem compileProgramIndex_ok {keys : List PublicKey} {programAddress : PublicKey} {index : Nat}
    (h : compileProgramIndex keys programAddress = .ok index) :
    keys[index]? = some programAddress ∧ index < 256 := by
  unfold compileProgramIndex at h
  split at h
  · cases h
  · rename_i programIndex hindex
    split at h
    · cases h
    · cases h
      exact ⟨accountIndexByAddress_some hindex, by omega⟩

theorem compileAccountIndex_ok {keys : List PublicKey}
    {placements : List (PublicKey × LookupPlacement)} {address : PublicKey} {index : Nat}
    (h : compileAccountIndex keys placements address = .ok index) :
    keys[index]? = some address ∧ index < 256 := by
  dsimp only [compileAccountIndex] at h
  split at h
  · cases h
  · rename_i compiledIndex hindex
    split at h
    · cases h
    · cases h
      exact ⟨accountIndexByAddress_some hindex, by omega⟩

/-- The compiled indexes stand for the original addresses, and the data is the same. -/
structure Resolves (keys : List PublicKey) (instruction : SolanaInstruction)
    (compiled : CompiledInstruction) : Prop where
  program : keys[compiled.programIdIndex]? = some instruction.programAddress
  accounts : List.Forall₂ (fun account index => keys[index]? = some account.address)
    instruction.accounts compiled.accounts
  data : compiled.data = instruction.data

theorem accountIndexes_decode {keys : List PublicKey}
    {placements : List (PublicKey × LookupPlacement)}
    {accounts : List SolanaInstructionAccountMeta} {bytes : Bytes}
    (h : Codec.encodeEach (fun _ (account : SolanaInstructionAccountMeta) => do
      let compiledIndex ← compileAccountIndex keys placements account.address
      return [UInt8.ofNat compiledIndex]) 0 accounts = .ok bytes) :
    ∃ indexes, List.Forall₂ (fun account index => keys[index]? = some account.address)
        accounts indexes ∧ accounts.length ≤ bytes.length ∧ ∀ rest,
      Codec.decodeEach (fun _ => readByte) accounts.length 0 (bytes ++ rest) =
        .ok (indexes, rest) := by
  obtain ⟨indexes, hall, hdecode⟩ := Codec.decodeEach_encodeEach (fun _ => readByte)
    (fun account index => keys[index]? = some account.address) bytes.length
    (fun account _ _ chunk hchunk _ => by
      obtain ⟨index, hindex, hret⟩ := Except.bind_eq_ok.1 hchunk
      cases hret
      obtain ⟨hkey, hlt⟩ := compileAccountIndex_ok hindex
      exact ⟨index, hkey, fun _ rest => readByte_ofNat hlt rest⟩) h (Nat.le_refl _)
  refine ⟨indexes, hall, ?_, hdecode 0⟩
  refine Codec.length_le_encodeEach (fun _ account chunk hchunk => ?_) h
  obtain ⟨index, _, hret⟩ := Except.bind_eq_ok.1 hchunk
  cases hret
  exact Nat.one_pos

theorem readInstruction_compile {keys : List PublicKey}
    {placements : List (PublicKey × LookupPlacement)} {instruction : SolanaInstruction}
    {bytes : Bytes} (h : compileInstruction keys placements instruction = .ok bytes)
    (hlen : bytes.length < 65536) : ∃ compiled, Resolves keys instruction compiled ∧
      ∀ rest, readInstruction (bytes ++ rest) = .ok (compiled, rest) := by
  obtain ⟨programIndex, hprogram, hbody⟩ := Except.bind_eq_ok.1 h
  obtain ⟨accountCount, haccountCount, hbody⟩ := Except.bind_eq_ok.1 hbody
  obtain ⟨accountBytes, haccounts, hbody⟩ := Except.bind_eq_ok.1 hbody
  obtain ⟨dataLength, hdataLength, hret⟩ := Except.bind_eq_ok.1 hbody
  cases hret
  obtain ⟨hkey, hlt⟩ := compileProgramIndex_ok hprogram
  obtain ⟨indexes, hall, hcount, hdecode⟩ := accountIndexes_decode haccounts
  simp only [List.length_append, List.length_cons] at hlen
  refine ⟨⟨programIndex, indexes, instruction.data⟩, ⟨hkey, hall, rfl⟩, fun rest => ?_⟩
  simp only [List.cons_append, List.append_assoc]
  have haccountVector : readVector readByte (accountCount ++ (accountBytes ++
      (dataLength ++ (instruction.data ++ rest)))) =
      .ok (indexes, dataLength ++ (instruction.data ++ rest)) := by
    rw [readVector_eq haccountCount (by omega)]
    exact hdecode _
  exact Except.bind_eq_ok.2 ⟨_, readByte_ofNat hlt _, Except.bind_eq_ok.2 ⟨_, haccountVector,
    Except.bind_eq_ok.2 ⟨_, readLength_encode hdataLength (by omega) _,
      Except.bind_eq_ok.2 ⟨_, readBytes_append rfl "data" rest, rfl⟩⟩⟩⟩

theorem compileInstruction_pos {keys : List PublicKey}
    {placements : List (PublicKey × LookupPlacement)} {instruction : SolanaInstruction}
    {bytes : Bytes} (h : compileInstruction keys placements instruction = .ok bytes) :
    0 < bytes.length := by
  obtain ⟨_, _, hbody⟩ := Except.bind_eq_ok.1 h
  obtain ⟨_, _, hbody⟩ := Except.bind_eq_ok.1 hbody
  obtain ⟨_, _, hbody⟩ := Except.bind_eq_ok.1 hbody
  obtain ⟨_, _, hret⟩ := Except.bind_eq_ok.1 hbody
  cases hret
  exact Nat.succ_pos _

theorem readVector_instructions {keys : List PublicKey}
    {placements : List (PublicKey × LookupPlacement)} {instructions : List SolanaInstruction}
    {count bytes : Bytes} (hcount : encodeShortVectorLength instructions.length = .ok count)
    (h : Codec.encodeEach (fun _ => compileInstruction keys placements) 0 instructions = .ok bytes)
    (hlen : bytes.length < 65536) :
    ∃ compiled, List.Forall₂ (Resolves keys) instructions compiled ∧ ∀ rest,
      readVector readInstruction (count ++ (bytes ++ rest)) = .ok (compiled, rest) := by
  have hle := Codec.length_le_encodeEach (fun _ _ _ hchunk => compileInstruction_pos hchunk) h
  obtain ⟨compiled, hall, hdecode⟩ := Codec.decodeEach_encodeEach
    (fun _ => readInstruction) (Resolves keys) 65535
    (fun instruction _ _ chunk hchunk hbound => by
      obtain ⟨compiled, hR, hread⟩ := readInstruction_compile hchunk (by omega)
      exact ⟨compiled, hR, fun _ rest => hread rest⟩) h (by omega)
  refine ⟨compiled, hall, fun rest => ?_⟩
  rw [readVector_eq hcount (by omega)]
  exact hdecode 0 rest

/-! ## Lookup sections -/

/-- A lookup as it stands on the wire. -/
def CompiledAddressTableLookup.wire (lookup : CompiledAddressTableLookup) :
    AddressTableLookup :=
  ⟨lookup.tableAddress, lookup.writableIndexes, lookup.readonlyIndexes⟩

/-- Are the section's indexes bytes? -/
def CompiledAddressTableLookup.Fits (lookup : CompiledAddressTableLookup) : Prop :=
  (∀ index ∈ lookup.writableIndexes, index < 256) ∧ ∀ index ∈ lookup.readonlyIndexes, index < 256

theorem readLookup_compile {lookup : CompiledAddressTableLookup} {bytes : Bytes}
    (h : compileLookup lookup = .ok bytes) (hlen : bytes.length < 65536) (hfits : lookup.Fits)
    (rest : Bytes) : readLookup (bytes ++ rest) = .ok (lookup.wire, rest) := by
  obtain ⟨writableCount, hwritableCount, hbody⟩ := Except.bind_eq_ok.1 h
  obtain ⟨readonlyCount, hreadonlyCount, hret⟩ := Except.bind_eq_ok.1 hbody
  cases hret
  simp only [List.length_append, List.length_map] at hlen
  simp only [List.append_assoc]
  exact Except.bind_eq_ok.2 ⟨_, readKey_bytes _ _, Except.bind_eq_ok.2
    ⟨_, readVector_indexes hwritableCount (by omega) hfits.1 _, Except.bind_eq_ok.2
      ⟨_, readVector_indexes hreadonlyCount (by omega) hfits.2 rest, rfl⟩⟩⟩

theorem compileLookup_pos {lookup : CompiledAddressTableLookup} {bytes : Bytes}
    (h : compileLookup lookup = .ok bytes) : 0 < bytes.length := by
  obtain ⟨_, _, hbody⟩ := Except.bind_eq_ok.1 h
  obtain ⟨_, _, hret⟩ := Except.bind_eq_ok.1 hbody
  cases hret
  have := lookup.tableAddress.length_eq
  simp only [List.length_append]
  omega

theorem map_eq_of_forall₂ {α β : Type} {f : α → β} {as : List α} {bs : List β}
    (h : List.Forall₂ (fun a b => b = f a) as bs) : bs = as.map f := by
  induction h with
  | nil => rfl
  | cons hab _ ih => rw [List.map_cons, hab, ih]

/-- The format as it stands on the wire. -/
def MessageVersion.wire : MessageVersion → Version
  | .unversioned => .legacy
  | .zero => .v0

theorem readLookups_compile {version : MessageVersion} {lookups : List CompiledAddressTableLookup}
    {bytes : Bytes} (h : compileLookups version lookups = .ok bytes) (hlen : bytes.length < 65536)
    (hfits : ∀ lookup ∈ lookups, lookup.Fits) (hnone : version = .unversioned → lookups = [])
    (rest : Bytes) :
    readLookups version.wire (bytes ++ rest) = .ok (lookups.map (·.wire), rest) := by
  cases version with
  | unversioned =>
    cases h
    rw [hnone rfl]
    rfl
  | zero =>
    obtain ⟨count, hcount, hbody⟩ := Except.bind_eq_ok.1 h
    obtain ⟨body, hencode, hret⟩ := Except.bind_eq_ok.1 hbody
    cases hret
    rw [List.length_append] at hlen
    have hle := Codec.length_le_encodeEach (fun _ _ _ hchunk => compileLookup_pos hchunk) hencode
    obtain ⟨sections, hall, hdecode⟩ := Codec.decodeEach_encodeEach
      (fun _ => readLookup) (fun lookup read => read = lookup.wire) 65535
      (fun lookup hmem _ chunk hchunk hbound => ⟨_, rfl, fun _ rest =>
        readLookup_compile hchunk (by omega) (hfits lookup hmem) rest⟩) hencode (by omega)
    rw [MessageVersion.wire, readLookups, List.append_assoc, readVector_eq hcount (by omega),
      hdecode 0 rest, map_eq_of_forall₂ hall]

/-! ## Messages -/

theorem readVersion_compile {version : MessageVersion} {required : Nat} {rest : Bytes}
    (h : version = .unversioned → required < 128) :
    readVersion (versionBytes version ++ (UInt8.ofNat required :: rest)) =
      .ok (version.wire, UInt8.ofNat required :: rest) := by
  cases version with
  | unversioned =>
    have hlt := h rfl
    rw [versionBytes, List.nil_append, readVersion, ofNat_toNat (by omega), if_pos hlt]
    rfl
  | zero => rfl

/-- **A compiled message is read back**: header, keys, blockhash and sections as they were, and
for every instruction one whose indexes stand for its addresses. -/
theorem decodeMessage_compile {version : MessageVersion} {instructions : List SolanaInstruction}
    {staticMetas : List AggregatedAccountMeta} {writable readonly : List PublicKey}
    {placements : List (PublicKey × LookupPlacement)} {lookups : List CompiledAddressTableLookup}
    {recentBlockhash : PublicKey} {message : CompiledSolanaMessage}
    (h : compileMessageBytes version instructions staticMetas writable readonly placements lookups
      recentBlockhash = .ok message)
    (hlen : message.bytes.length < 65536) (hfits : ∀ lookup ∈ lookups, lookup.Fits)
    (hlegacy : version = .unversioned →
      message.numberOfRequiredSignatures < 128 ∧ lookups = []) :
    ∃ compiled, List.Forall₂ (Resolves (staticMetas.map (·.address) ++ writable ++ readonly))
        instructions compiled ∧
      decodeMessage message.bytes = .ok {
        version := version.wire
        numRequiredSignatures := staticMetas.countP (·.isSigner)
        numReadonlySignedAccounts := staticMetas.countP fun m => m.isSigner && !m.isWritable
        numReadonlyUnsignedAccounts := staticMetas.countP fun m => !m.isSigner && !m.isWritable
        accountKeys := staticMetas.map (·.address)
        recentBlockhash := recentBlockhash
        instructions := compiled
        addressTableLookups := lookups.map (·.wire) } := by
  dsimp only [compileMessageBytes] at h
  split at h
  · cases h
  rename_i hstatic
  split at h
  · cases h
  rename_i hheader
  split at h
  · cases h
  obtain ⟨keyCount, hkeyCount, hbody⟩ := Except.bind_eq_ok.1 h
  obtain ⟨instructionCount, hinstructionCount, hbody⟩ := Except.bind_eq_ok.1 hbody
  obtain ⟨instructionBytes, hinstructions, hbody⟩ := Except.bind_eq_ok.1 hbody
  obtain ⟨lookupBytes, hlookups, hret⟩ := Except.bind_eq_ok.1 hbody
  cases hret
  simp only [List.length_append, List.length_cons] at hlen
  obtain ⟨compiled, hall, hread⟩ :=
    readVector_instructions hinstructionCount hinstructions (by omega)
  have hsections := readLookups_compile hlookups (by omega) hfits (fun hv => (hlegacy hv).2) []
  rw [List.append_nil] at hsections
  have hkeys : (staticMetas.map (·.address)).length < 65536 := by
    rw [List.length_map]
    omega
  refine ⟨compiled, hall, ?_⟩
  exact Except.bind_eq_ok.2 ⟨_, readVersion_compile fun hv => (hlegacy hv).1, Except.bind_eq_ok.2
    ⟨_, readByte_ofNat (by omega) _, Except.bind_eq_ok.2 ⟨_, readByte_ofNat (by omega) _,
      Except.bind_eq_ok.2 ⟨_, readByte_ofNat (by omega) _, Except.bind_eq_ok.2
        ⟨_, readVector_keys hkeyCount hkeys _, Except.bind_eq_ok.2 ⟨_, readKey_bytes _ _,
          Except.bind_eq_ok.2 ⟨_, hread _, Except.bind_eq_ok.2 ⟨_, hsections, rfl⟩⟩⟩⟩⟩⟩⟩⟩

end Chancery
