import Chancery.SquadsMessageCodec
import Chancery.SolanaTransactionLaws
import Chancery.Lib.Sectioned
import Mathlib.Tactic.Ring

/-!
# Vault messages mean their instructions

The indexes, privileges and data of a vault message are those it was compiled from.

* `CompilesTo` — a compiled instruction with the index of every address; `parseInstruction_compile`.
* `vaultMessage` — the message of a layout; `parse_compile`.
* `parse_unversioned_ne` — a standard message whose header byte reads as a version is refused.
* `compileSquadsVaultTransactionMessage_ok` — what a compiled vault message is.
* `Executes`, `executes_of_layout` — the instructions over the index space of a message.
* `sections_of_layout` — what the lookups load.
-/

set_option autoImplicit false

namespace Chancery.Squads

open MessageReader Codec

/-! ## Short-vector lengths -/

theorem isSafeInteger_of_le {n : Nat} (h : (n : Int) ≤ maxSafeInteger) : isSafeInteger n = true := by
  unfold isSafeInteger
  unfold maxSafeInteger at *
  exact decide_eq_true (by omega)

/-- A byte without the high bit ends the loop. -/
theorem readShortVectorLoop_last (label : String) (steps : Nat) {value multiplier n : Nat}
    (h : n < 128)
    (hsafe : ((value + n * multiplier : Nat) : Int) ≤ maxSafeInteger) (rest : Bytes) :
    readShortVectorLoop label (steps + 1) value multiplier (UInt8.ofNat n :: rest) =
      .ok (value + n * multiplier, rest) := by
  refine Except.bind_eq_ok.2 ⟨_, readU8_ofNat (by omega) label rest, ?_⟩
  dsimp only
  rw [Nat.mod_eq_of_lt h, isSafeInteger_of_le hsafe, if_neg (by decide), if_pos h]
  rfl

/-- A byte with the high bit adds its seven low ones, and the loop goes on. -/
theorem readShortVectorLoop_more (label : String) {steps value multiplier n : Nat} (h : n < 128)
    (hsafe : ((value + n * multiplier : Nat) : Int) ≤ maxSafeInteger) (rest : Bytes) :
    readShortVectorLoop label (steps + 1) value multiplier (UInt8.ofNat (n + 128) :: rest) =
      readShortVectorLoop label steps (value + n * multiplier) (multiplier * 128) rest := by
  have hread := readU8_ofNat (n := n + 128) (by omega) label rest
  have hmod : (n + 128) % 128 = n := by omega
  rw [readShortVectorLoop]
  change (readU8 label (UInt8.ofNat (n + 128) :: rest) >>= _) = _
  rw [hread]
  change (if isSafeInteger ((value + (n + 128) % 128 * multiplier : Nat) : Int) = false then _
    else if n + 128 < 128 then _ else _) = _
  rw [hmod, isSafeInteger_of_le hsafe, if_neg (by decide), if_neg (by omega)]

theorem readShortVectorLoop_bytes (label : String) (rest : Bytes) :
    ∀ (steps fuel value multiplier remaining : Nat), remaining < 128 ^ steps → 0 < steps →
      remaining < fuel → ((value + remaining * multiplier : Nat) : Int) ≤ maxSafeInteger →
      readShortVectorLoop label steps value multiplier
        (shortVectorBytes fuel remaining ++ rest) = .ok (value + remaining * multiplier, rest) := by
  intro steps
  induction steps with
  | zero =>
    intro fuel value multiplier remaining _ hpos
    omega
  | succ steps ih =>
    intro fuel value multiplier remaining hlt _ hfuel hsafe
    by_cases hlast : remaining < 128
    · rw [shortVectorBytes_last (by omega) hlast, List.singleton_append]
      exact readShortVectorLoop_last label steps hlast hsafe rest
    · have hsplit : value + remaining % 128 * multiplier + remaining / 128 * (multiplier * 128) =
          value + remaining * multiplier := by
        have hdiv : remaining % 128 + remaining / 128 * 128 = remaining := by omega
        calc value + remaining % 128 * multiplier + remaining / 128 * (multiplier * 128)
            = value + (remaining % 128 + remaining / 128 * 128) * multiplier := by ring
          _ = value + remaining * multiplier := by rw [hdiv]
      have hsafe' : ((value + remaining % 128 * multiplier : Nat) : Int) ≤ maxSafeInteger := by
        refine Int.le_trans (Int.ofNat_le.2 ?_) hsafe
        omega
      have hsteps : remaining / 128 < 128 ^ steps := by
        rw [Nat.pow_succ] at hlt
        exact Nat.div_lt_of_lt_mul (by rwa [Nat.mul_comm])
      have hpos : 0 < steps := by
        rcases Nat.eq_zero_or_pos steps with rfl | hpos
        · omega
        · exact hpos
      rw [shortVectorBytes_more (by omega) (by omega), List.cons_append,
        readShortVectorLoop_more label (by omega) hsafe',
        ih _ _ _ _ hsteps hpos (by omega) (by rwa [hsplit]), hsplit]

theorem readShortVectorLength_last {n : Nat} (h : n < 128) (label : String) (rest : Bytes) :
    readShortVectorLength label (UInt8.ofNat n :: rest) = .ok (n, rest) := by
  have hsafe : ((0 + n * 1 : Nat) : Int) ≤ maxSafeInteger := by
    unfold maxSafeInteger
    omega
  have hread := readShortVectorLoop_last label 7 h hsafe rest
  rwa [Nat.mul_one, Nat.zero_add] at hread

theorem readShortVectorLength_encode {n : Nat} {bytes : Bytes}
    (h : encodeShortVectorLength n = .ok bytes) (label : String) (rest : Bytes) :
    readShortVectorLength label (bytes ++ rest) = .ok (n, rest) := by
  unfold encodeShortVectorLength at h
  split at h
  · rename_i hsafe
    cases h
    have hle : (n : Int) ≤ maxSafeInteger := (of_decide_eq_true hsafe).2
    have hlt : n < 128 ^ 8 := by
      unfold maxSafeInteger at hle
      omega
    have hread := readShortVectorLoop_bytes label rest 8 (n + 1) 0 1 n hlt (by omega) (by omega)
      (by rwa [Nat.mul_one, Nat.zero_add])
    rwa [Nat.mul_one, Nat.zero_add] at hread
  · cases h

/-! ## Instructions -/

/-- The compiled instruction has the index of every address, and the data. -/
structure CompilesTo (keys : List PublicKey) (instruction : SolanaInstruction)
    (compiled : SquadsCompiledInstruction) : Prop where
  program : accountIndexByAddress keys instruction.programAddress = some compiled.programIdIndex
  accounts : List.Forall₂
    (fun account index => accountIndexByAddress keys account.address = some index)
    instruction.accounts compiled.accountIndexes
  data : compiled.data = instruction.data

theorem compileProgramIndex_eq_ok {keys : List PublicKey} {programAddress : PublicKey}
    {index : Nat} : compileProgramIndex keys programAddress = .ok index ↔
      accountIndexByAddress keys programAddress = some index ∧ index ≤ 255 := by
  unfold compileProgramIndex
  cases accountIndexByAddress keys programAddress with
  | none => simp
  | some programIndex =>
    dsimp only
    split
    · simp only [reduceCtorEq, Option.some.injEq, false_iff, not_and]
      omega
    · simp only [Except.ok.injEq, Option.some.injEq]
      omega

theorem compileAccountIndex_eq_ok {keys : List PublicKey}
    {placements : List (PublicKey × LookupPlacement)} {address : PublicKey} {index : Nat} :
    compileAccountIndex keys placements address = .ok index ↔
      accountIndexByAddress keys address = some index ∧ index ≤ 255 := by
  unfold compileAccountIndex
  cases accountIndexByAddress keys address with
  | none => simp
  | some compiledIndex =>
    dsimp only
    split
    · simp only [reduceCtorEq, Option.some.injEq, false_iff, not_and]
      omega
    · simp only [Except.ok.injEq, Option.some.injEq]
      omega

theorem encodeAccountIndexes_ok {keys : List PublicKey}
    {placements : List (PublicKey × LookupPlacement)} : ∀ {start : Nat}
    {accounts : List SolanaInstructionAccountMeta} {bytes : Bytes},
    encodeEach (fun _ (account : SolanaInstructionAccountMeta) => do
      let compiledIndex ← compileAccountIndex keys placements account.address
      return [UInt8.ofNat compiledIndex]) start accounts = .ok bytes →
    ∃ indexes, List.Forall₂
        (fun account index => accountIndexByAddress keys account.address = some index)
        accounts indexes ∧ (∀ index ∈ indexes, index < 256) ∧ bytes = indexes.map UInt8.ofNat
  | _, [], _, h => by
    cases h
    exact ⟨[], .nil, fun index hindex => (List.not_mem_nil hindex).elim, rfl⟩
  | start, account :: accounts, bytes, h => by
    obtain ⟨head, tail, hhead, htail, rfl⟩ := encodeEach_cons h
    obtain ⟨index, hindex, hret⟩ := Except.bind_eq_ok.1 hhead
    cases hret
    obtain ⟨hfound, hle⟩ := compileAccountIndex_eq_ok.1 hindex
    obtain ⟨indexes, hall, hlt, rfl⟩ := encodeAccountIndexes_ok htail
    exact ⟨index :: indexes, .cons hfound hall,
      List.forall_mem_cons.2 ⟨by omega, hlt⟩, rfl⟩

theorem parseInstruction_compile {keys : List PublicKey}
    {placements : List (PublicKey × LookupPlacement)} {instruction : SolanaInstruction}
    {bytes : Bytes} (h : compileInstruction keys placements instruction = .ok bytes) :
    ∃ compiled, CompilesTo keys instruction compiled ∧
      ∀ rest, parseInstruction (bytes ++ rest) = .ok (compiled, rest) := by
  simp only [compileInstruction, Except.bind_eq_ok] at h
  obtain ⟨programIndex, hprogram, accountCount, haccountCount, accountBytes, haccounts, dataLength,
    hdataLength, hret⟩ := h
  cases hret
  obtain ⟨hfound, hle⟩ := compileProgramIndex_eq_ok.1 hprogram
  obtain ⟨indexes, hall, hlt, rfl⟩ := encodeAccountIndexes_ok haccounts
  refine ⟨⟨programIndex, indexes, instruction.data⟩, ⟨hfound, hall, rfl⟩, fun rest => ?_⟩
  rw [hall.length_eq] at haccountCount
  simp only [List.cons_append, List.append_assoc]
  exact Except.bind_eq_ok.2 ⟨_, readU8_ofNat (by omega) _ _, Except.bind_eq_ok.2
    ⟨_, readShortVectorLength_encode haccountCount _ _, Except.bind_eq_ok.2
    ⟨_, readIndexes_map hlt _ _, Except.bind_eq_ok.2
    ⟨_, readShortVectorLength_encode hdataLength _ _, Except.bind_eq_ok.2
    ⟨_, MessageReader.readBytes_append rfl _ _, rfl⟩⟩⟩⟩⟩

/-- The indexes stand for the original addresses. -/
theorem CompilesTo.resolves {keys : List PublicKey} {instruction : SolanaInstruction}
    {compiled : SquadsCompiledInstruction} (h : CompilesTo keys instruction compiled) :
    Resolves keys instruction
      ⟨compiled.programIdIndex, compiled.accountIndexes, compiled.data⟩ where
  program := accountIndexByAddress_some h.program
  accounts := h.accounts.imp fun _ _ hindex => accountIndexByAddress_some hindex
  data := h.data

/-! ## Lookup sections -/

/-- The section as the vault message has it. -/
def squadsLookup (lookup : CompiledAddressTableLookup) : SquadsMessageAddressTableLookup :=
  ⟨lookup.tableAddress, lookup.writableIndexes, lookup.readonlyIndexes⟩

theorem parseLookup_compile {lookup : CompiledAddressTableLookup} {bytes : Bytes}
    (h : compileLookup lookup = .ok bytes) (hfits : lookup.Fits) (rest : Bytes) :
    parseLookup (bytes ++ rest) = .ok (squadsLookup lookup, rest) := by
  simp only [compileLookup, Except.bind_eq_ok] at h
  obtain ⟨writableCount, hwritableCount, readonlyCount, hreadonlyCount, hret⟩ := h
  cases hret
  simp only [List.append_assoc]
  exact Except.bind_eq_ok.2 ⟨_, MessageReader.readKey_bytes _ _ _, Except.bind_eq_ok.2
    ⟨_, readShortVectorLength_encode hwritableCount _ _, Except.bind_eq_ok.2
    ⟨_, readIndexes_map hfits.1 _ _, Except.bind_eq_ok.2
    ⟨_, readShortVectorLength_encode hreadonlyCount _ _, Except.bind_eq_ok.2
    ⟨_, readIndexes_map hfits.2 _ _, rfl⟩⟩⟩⟩⟩

theorem parseLookups_compile {version : MessageVersion} {lookups : List CompiledAddressTableLookup}
    {bytes : Bytes} (h : compileLookups version lookups = .ok bytes)
    (hfits : ∀ lookup ∈ lookups, lookup.Fits) (hnone : version = .unversioned → lookups = []) :
    parseLookups (version == .zero) bytes = .ok (lookups.map squadsLookup, []) := by
  cases version with
  | unversioned =>
    cases h
    rw [hnone rfl]
    rfl
  | zero =>
    obtain ⟨count, hcount, h⟩ := Except.bind_eq_ok.1 h
    obtain ⟨body, hbody, hret⟩ := Except.bind_eq_ok.1 h
    cases hret
    obtain ⟨sections, hall, hdecode⟩ := decodeEach_encodeEach (fun _ => parseLookup)
      (fun lookup parsed => parsed = squadsLookup lookup) body.length
      (fun lookup hmem _ chunk hchunk _ => ⟨_, rfl, fun _ rest =>
        parseLookup_compile hchunk (hfits lookup hmem) rest⟩) hbody (Nat.le_refl _)
    have hrun := hdecode 0 []
    rw [List.append_nil, map_eq_of_forall₂ hall] at hrun
    exact Except.bind_eq_ok.2 ⟨_, readShortVectorLength_encode hcount _ _, hrun⟩

/-! ## Messages -/

/-- The vault message of ordered static metas. -/
def vaultMessage (staticMetas : List AggregatedAccountMeta)
    (instructions : List SquadsCompiledInstruction) (lookups : List CompiledAddressTableLookup) :
    SquadsVaultTransactionMessage where
  numSigners := staticMetas.countP (·.isSigner)
  numWritableSigners := staticMetas.countP fun m => m.isSigner && m.isWritable
  numWritableNonSigners := staticMetas.countP fun m => !m.isSigner && m.isWritable
  accountKeys := staticMetas.map (·.address)
  instructions := instructions
  addressTableLookups := lookups.map squadsLookup

theorem countP_writableNonSigners (metas : List AggregatedAccountMeta) :
    metas.length = metas.countP (·.isSigner) + (metas.countP fun m => !m.isSigner && m.isWritable) +
      metas.countP fun m => !m.isSigner && !m.isWritable := by
  induction metas with
  | nil => rfl
  | cons m metas ih =>
    cases hs : m.isSigner <;> cases hw : m.isWritable <;> simp [hs, hw] <;> omega

/-- What the byte stage of the compiler wrote. -/
structure StandardMessage (version : MessageVersion) (instructions : List SolanaInstruction)
    (staticMetas : List AggregatedAccountMeta) (keys : List PublicKey)
    (placements : List (PublicKey × LookupPlacement)) (lookups : List CompiledAddressTableLookup)
    (keyCount instructionCount instructionBytes lookupBytes : Bytes) : Prop where
  static_length : staticMetas.length ≤ 256
  signers_byte : staticMetas.countP (·.isSigner) ≤ 255
  unsigned_byte : (staticMetas.countP fun m => !m.isSigner && !m.isWritable) ≤ 255
  keyCount : encodeShortVectorLength staticMetas.length = .ok keyCount
  instructionCount : encodeShortVectorLength instructions.length = .ok instructionCount
  instructionBytes : encodeEach (fun _ => compileInstruction keys placements) 0 instructions =
    .ok instructionBytes
  lookupBytes : compileLookups version lookups = .ok lookupBytes

/-- The bytes after the version byte. -/
def headerAndBody (staticMetas : List AggregatedAccountMeta) (recentBlockhash : PublicKey)
    (keyCount instructionCount instructionBytes lookupBytes : Bytes) : Bytes :=
  UInt8.ofNat (staticMetas.countP (·.isSigner)) ::
    UInt8.ofNat (staticMetas.countP fun m => m.isSigner && !m.isWritable) ::
    UInt8.ofNat (staticMetas.countP fun m => !m.isSigner && !m.isWritable) ::
    (keyCount ++ ((staticMetas.map (·.address)).flatMap PublicKey.bytes ++
    (recentBlockhash.bytes ++ (instructionCount ++ (instructionBytes ++ lookupBytes)))))

theorem compileMessageBytes_ok {version : MessageVersion} {instructions : List SolanaInstruction}
    {staticMetas : List AggregatedAccountMeta} {writable readonly : List PublicKey}
    {placements : List (PublicKey × LookupPlacement)} {lookups : List CompiledAddressTableLookup}
    {recentBlockhash : PublicKey} {compiled : CompiledSolanaMessage}
    (h : compileMessageBytes version instructions staticMetas writable readonly placements lookups
      recentBlockhash = .ok compiled) :
    ∃ keyCount instructionCount instructionBytes lookupBytes,
      StandardMessage version instructions staticMetas
        (staticMetas.map (·.address) ++ writable ++ readonly) placements lookups keyCount
        instructionCount instructionBytes lookupBytes ∧
      compiled.bytes = versionBytes version ++ headerAndBody staticMetas recentBlockhash keyCount
        instructionCount instructionBytes lookupBytes := by
  dsimp only [compileMessageBytes] at h
  split at h
  · cases h
  rename_i hstatic
  split at h
  · cases h
  rename_i hheader
  split at h
  · cases h
  obtain ⟨keyCount, hkeyCount, h⟩ := Except.bind_eq_ok.1 h
  obtain ⟨instructionCount, hinstructionCount, h⟩ := Except.bind_eq_ok.1 h
  obtain ⟨instructionBytes, hinstructions, h⟩ := Except.bind_eq_ok.1 h
  obtain ⟨lookupBytes, hlookups, hret⟩ := Except.bind_eq_ok.1 h
  cases hret
  rw [List.length_map] at hkeyCount
  exact ⟨keyCount, instructionCount, instructionBytes, lookupBytes,
    ⟨by omega, by omega, by omega, hkeyCount, hinstructionCount, hinstructions, hlookups⟩, rfl⟩

theorem parseHeader_compile {version : MessageVersion} {required : Nat} {rest : Bytes}
    (hbyte : required ≤ 255) (h : version = .unversioned → required < 128) :
    parseHeader (versionBytes version ++ (UInt8.ofNat required :: rest)) =
      .ok ((version == .zero, required), rest) := by
  cases version with
  | unversioned =>
    have hlt := h rfl
    refine Except.bind_eq_ok.2 ⟨_, readU8_ofNat (by omega) _ _, ?_⟩
    dsimp only
    rw [if_neg (by omega)]
    rfl
  | zero =>
    have hmark : readU8 "message.header" (0x80 :: UInt8.ofNat required :: rest) =
        .ok (128, UInt8.ofNat required :: rest) := readU8_ofNat (n := 128) (by omega) _ _
    refine Except.bind_eq_ok.2 ⟨_, hmark, ?_⟩
    dsimp only
    rw [if_pos (by omega), if_neg (by omega)]
    exact Except.bind_eq_ok.2 ⟨_, readU8_ofNat (by omega) _ _, rfl⟩

/-- **A compiled message is parsed back** into the vault message of its static metas, if that is
a valid one. -/
theorem parse_compile {version : MessageVersion} {instructions : List SolanaInstruction}
    {staticMetas : List AggregatedAccountMeta} {writable readonly : List PublicKey}
    {placements : List (PublicKey × LookupPlacement)} {lookups : List CompiledAddressTableLookup}
    {recentBlockhash : PublicKey} {compiled : CompiledSolanaMessage}
    (h : compileMessageBytes version instructions staticMetas writable readonly placements lookups
      recentBlockhash = .ok compiled) (hfits : ∀ lookup ∈ lookups, lookup.Fits)
    (hlegacy : version = .unversioned →
      staticMetas.countP (·.isSigner) < 128 ∧ lookups = []) :
    ∃ instructions', List.Forall₂
        (CompilesTo (staticMetas.map (·.address) ++ writable ++ readonly)) instructions
        instructions' ∧
      parseStandardCompiledMessage compiled.bytes = (do
        validateSquadsVaultTransactionMessage (vaultMessage staticMetas instructions' lookups)
        return vaultMessage staticMetas instructions' lookups) := by
  obtain ⟨keyCount, instructionCount, instructionBytes, lookupBytes, hstandard, hbytes⟩ :=
    compileMessageBytes_ok h
  have hsigned := Layout.countP_signers staticMetas
  have hcounts := countP_writableNonSigners staticMetas
  have hsigners := hstandard.signers_byte
  have hunsigned := hstandard.unsigned_byte
  obtain ⟨instructions', hall, hdecode⟩ := decodeEach_encodeEach (fun _ => parseInstruction)
    (CompilesTo (staticMetas.map (·.address) ++ writable ++ readonly)) instructionBytes.length
    (fun instruction _ _ chunk hchunk _ => by
      obtain ⟨compiled, hcompiles, hread⟩ := parseInstruction_compile hchunk
      exact ⟨compiled, hcompiles, fun _ rest => hread rest⟩)
    hstandard.instructionBytes (Nat.le_refl _)
  have hkeys : ∀ rest, decodeEach (fun _ => readKey "message.accountKeys")
      staticMetas.length 0 ((staticMetas.map (·.address)).flatMap PublicKey.bytes ++ rest) =
      .ok (staticMetas.map (·.address), rest) := by
    intro rest
    have hrun := decodeEach_flatMap (fun key (_ : key ∈ staticMetas.map (·.address)) _ rest =>
      MessageReader.readKey_bytes "message.accountKeys" key rest) 0 rest
    rwa [List.length_map] at hrun
  have hlookups := parseLookups_compile hstandard.lookupBytes hfits fun hv => (hlegacy hv).2
  have hmessage : (⟨staticMetas.countP (·.isSigner),
      staticMetas.countP (·.isSigner) - staticMetas.countP fun m => m.isSigner && !m.isWritable,
      staticMetas.length - staticMetas.countP (·.isSigner) -
        staticMetas.countP fun m => !m.isSigner && !m.isWritable,
      staticMetas.map (·.address), instructions', lookups.map squadsLookup⟩ :
        SquadsVaultTransactionMessage) = vaultMessage staticMetas instructions' lookups := by
    simp only [vaultMessage, SquadsVaultTransactionMessage.mk.injEq, and_true, true_and]
    omega
  refine ⟨instructions', hall, ?_⟩
  rw [hbytes, ← hmessage]
  refine (Except.bind_of_ok (parseHeader_compile hsigners fun hv => (hlegacy hv).1) _).trans ?_
  refine (Except.bind_of_ok (readU8_ofNat (by omega) _ _) _).trans ?_
  refine (Except.bind_of_ok (readU8_ofNat (by omega) _ _) _).trans ?_
  refine (Except.bind_of_ok (readShortVectorLength_encode hstandard.keyCount _ _) _).trans ?_
  refine (Except.bind_of_ok (hkeys _) _).trans ?_
  refine (Except.bind_of_ok
    (MessageReader.readBytes_append recentBlockhash.length_eq _ _) _).trans ?_
  refine (Except.bind_of_ok
    (readShortVectorLength_encode hstandard.instructionCount _ _) _).trans ?_
  refine (Except.bind_of_ok (hdecode 0 _) _).trans ?_
  refine (Except.bind_of_ok hlookups _).trans ?_
  have hend : endOfInput "Compiled Solana message has trailing bytes" [] = .ok () := rfl
  exact Except.bind_of_ok hend _

/-! ## A header byte that reads as a version -/

theorem encodeShortVectorLength_two {n : Nat} {bytes : Bytes} (hlow : 128 ≤ n) (hhigh : n ≤ 256)
    (h : encodeShortVectorLength n = .ok bytes) :
    bytes = [UInt8.ofNat (n % 128 + 128), UInt8.ofNat (n / 128)] := by
  unfold encodeShortVectorLength at h
  split at h
  · cases h
    rw [shortVectorBytes_more (by omega) hlow, shortVectorBytes_last (by omega) (by omega)]
  · cases h

/-- **No message of 128 or more signers is mistaken for one of version zero.**  With exactly 128
the header byte is the version mark and the keys are read from the right place, but the count of
readonly keys is then the first byte of the key count, which has its high bit set. -/
theorem parse_unversioned_ne {instructions : List SolanaInstruction}
    {staticMetas : List AggregatedAccountMeta} {writable readonly : List PublicKey}
    {placements : List (PublicKey × LookupPlacement)} {lookups : List CompiledAddressTableLookup}
    {recentBlockhash : PublicKey} {compiled : CompiledSolanaMessage}
    (h : compileMessageBytes .unversioned instructions staticMetas writable readonly placements
      lookups recentBlockhash = .ok compiled) (hmany : 128 ≤ staticMetas.countP (·.isSigner))
    (message : SquadsVaultTransactionMessage) :
    parseStandardCompiledMessage compiled.bytes ≠ .ok message := by
  intro hparse
  obtain ⟨keyCount, instructionCount, instructionBytes, lookupBytes, hstandard, hbytes⟩ :=
    compileMessageBytes_ok h
  have hsigners := hstandard.signers_byte
  have hcount : staticMetas.countP (·.isSigner) ≤ staticMetas.length := List.countP_le_length
  have hkeyCount := encodeShortVectorLength_two (by omega) hstandard.static_length
    hstandard.keyCount
  rw [hbytes, versionBytes, List.nil_append, headerAndBody, hkeyCount, List.cons_append,
    List.cons_append, List.nil_append] at hparse
  have hsigned := Layout.countP_signers staticMetas
  have hunsigned := hstandard.unsigned_byte
  have hstatic := hstandard.static_length
  simp only [parseStandardCompiledMessage, parseHeader, Except.bind_eq_ok] at hparse
  obtain ⟨_, ⟨⟨firstByte, _⟩, hfirst, hheader⟩, hparse⟩ := hparse
  rw [readU8_ofNat (by omega)] at hfirst
  cases hfirst
  dsimp only at hheader
  rw [if_pos hmany] at hheader
  split at hheader
  · cases hheader
  obtain ⟨⟨numSigners, _⟩, hnum, hret⟩ := Except.bind_eq_ok.1 hheader
  rw [readU8_ofNat (by omega)] at hnum
  cases hnum
  cases hret
  obtain ⟨⟨readonlySigned, _⟩, hreadonlySigned, ⟨readonlyUnsigned, _⟩, hreadonlyUnsigned,
    ⟨staticCount, _⟩, hstaticCount, _, -, _, -, _, -, _, -, _, -, _, -, _, hvalidate, -⟩ := hparse
  rw [readU8_ofNat (by omega)] at hreadonlySigned
  cases hreadonlySigned
  rw [readU8_ofNat (by omega)] at hreadonlyUnsigned
  cases hreadonlyUnsigned
  rw [readShortVectorLength_last (by omega)] at hstaticCount
  cases hstaticCount
  have hnonSigners := (validate_ok.1 hvalidate).numWritableNonSigners.1
  dsimp only at hnonSigners
  omega

/-! ## Compiled vault messages -/

/-- The message is the valid vault message of what placement returned. -/
theorem compileSquadsVaultTransactionMessage_placed {instructions : List SolanaInstruction}
    {vaultAddress : PublicKey} {tables : List AddressLookupTable}
    {message : SquadsVaultTransactionMessage}
    (h : compileSquadsVaultTransactionMessage instructions vaultAddress tables = .ok message) :
    ∃ placed instructions',
      placeAccountsInLookupTables (aggregateAccountMetas instructions vaultAddress) tables =
        .ok placed ∧
      List.Forall₂ (CompilesTo ((orderStaticAccountMetas placed.staticMetas).map (·.address) ++
        placed.writableLoadedAddresses ++ placed.readonlyLoadedAddresses)) instructions
        instructions' ∧
      message = vaultMessage (orderStaticAccountMetas placed.staticMetas) instructions'
        placed.lookups ∧ message.Valid ∧
      (tables = [] → (orderStaticAccountMetas placed.staticMetas).countP (·.isSigner) < 128) := by
  simp only [compileSquadsVaultTransactionMessage, compileMessage_eq, Except.bind_eq_ok] at h
  obtain ⟨compiled, ⟨placed, hplaced, hbytes⟩, parsed, hparse, _, -, _, -, hret⟩ := h
  cases hret
  have hlayout := layout_of_place hplaced
  have hfew : MessageVersion.ofTables tables = .unversioned →
      (orderStaticAccountMetas placed.staticMetas).countP (·.isSigner) < 128 := by
    intro hv
    by_contra hmany
    rw [hv] at hbytes
    exact parse_unversioned_ne hbytes (by omega) message hparse
  obtain ⟨instructions', hall, hparsed⟩ := parse_compile hbytes hlayout.fits
    fun hv => ⟨hfew hv, lookups_nil_of_unversioned hv hplaced⟩
  rw [hparsed] at hparse
  obtain ⟨_, hvalidate, hret⟩ := Except.bind_eq_ok.1 hparse
  cases hret
  refine ⟨placed, instructions', hplaced, hall, rfl, validate_ok.1 hvalidate, fun htables =>
    hfew ?_⟩
  rw [htables]
  rfl

/-- **What compilation returns** is the valid vault message of a layout of the aggregated metas. -/
theorem compileSquadsVaultTransactionMessage_ok {instructions : List SolanaInstruction}
    {vaultAddress : PublicKey} {tables : List AddressLookupTable}
    {message : SquadsVaultTransactionMessage}
    (h : compileSquadsVaultTransactionMessage instructions vaultAddress tables = .ok message) :
    ∃ staticMetas writable readonly lookups instructions',
      Layout (aggregateAccountMetas instructions vaultAddress) tables staticMetas writable readonly
        lookups ∧
      List.Forall₂ (CompilesTo (staticMetas.map (·.address) ++ writable ++ readonly)) instructions
        instructions' ∧
      message = vaultMessage staticMetas instructions' lookups ∧ message.Valid ∧
      (tables = [] → staticMetas.countP (·.isSigner) < 128) := by
  obtain ⟨placed, instructions', hplaced, hrest⟩ := compileSquadsVaultTransactionMessage_placed h
  exact ⟨_, _, _, _, instructions', layout_of_place hplaced, hrest⟩

/-! ## The index space -/

/-- What each lookup loads: its writable and its readonly addresses. -/
def lookupSections (tables : List (PublicKey × List PublicKey))
    (lookups : List SquadsMessageAddressTableLookup) :
    Option (List (List PublicKey × List PublicKey)) :=
  lookups.mapM fun lookup => do
    let writable ← Wire.tableEntries tables lookup.accountKey lookup.writableIndexes
    let readonly ← Wire.tableEntries tables lookup.accountKey lookup.readonlyIndexes
    return (writable, readonly)

namespace SquadsVaultTransactionMessage

variable (message : SquadsVaultTransactionMessage)

/-- The number of writable accounts that the tables load. -/
def writableLoadedCount : Nat :=
  (message.addressTableLookups.map fun lookup => lookup.writableIndexes.length).sum

/-- Whether an account signs. -/
def isSigner (index : Nat) : Prop := (index : Int) < message.numSigners

/-- Whether an account may be written. -/
def isWritable (index : Nat) : Prop :=
  if index < message.accountKeys.length then
    (index : Int) < message.numWritableSigners ∨ message.numSigners ≤ index ∧
      (index : Int) < message.numSigners + message.numWritableNonSigners
  else index < message.accountKeys.length + message.writableLoadedCount

end SquadsVaultTransactionMessage

/-- The message asks for exactly the instructions, over `keys`, with the vault paying. -/
structure Executes (instructions : List SolanaInstruction) (vaultAddress : PublicKey)
    (message : SquadsVaultTransactionMessage) (keys : List PublicKey) : Prop where
  vault_first : message.accountKeys[0]? = some vaultAddress
  vault_signs : message.isSigner 0 ∧ message.isWritable 0
  nodup : keys.Nodup
  instructions_resolve : List.Forall₂ (fun instruction compiled => Resolves keys instruction
    ⟨compiled.programIdIndex, compiled.accountIndexes, compiled.data⟩)
    instructions message.instructions
  signer_iff : ∀ i key, keys[i]? = some key →
    (message.isSigner i ↔ key = vaultAddress ∨ Names instructions (·.isSigner) key)
  writable_iff : ∀ i key, keys[i]? = some key →
    (message.isWritable i ↔ key = vaultAddress ∨ Names instructions (·.isWritable) key)

/-- The header of the wire format that says the same. -/
def wireMessage (staticMetas : List AggregatedAccountMeta)
    (lookups : List CompiledAddressTableLookup) : Wire.Message where
  version := .v0
  numRequiredSignatures := staticMetas.countP (·.isSigner)
  numReadonlySignedAccounts := staticMetas.countP fun m => m.isSigner && !m.isWritable
  numReadonlyUnsignedAccounts := staticMetas.countP fun m => !m.isSigner && !m.isWritable
  accountKeys := staticMetas.map (·.address)
  recentBlockhash := zeroBlockhash
  instructions := []
  addressTableLookups := lookups.map (·.wire)

theorem vaultMessage_isWritable (staticMetas : List AggregatedAccountMeta)
    (instructions : List SquadsCompiledInstruction) (lookups : List CompiledAddressTableLookup)
    (i : Nat) : (vaultMessage staticMetas instructions lookups).isWritable i ↔
      (wireMessage staticMetas lookups).isWritable i := by
  have hsigned := Layout.countP_signers staticMetas
  have hcounts := countP_writableNonSigners staticMetas
  have hloaded : (vaultMessage staticMetas instructions lookups).writableLoadedCount =
      (wireMessage staticMetas lookups).writableLoadedCount := by
    simp only [SquadsVaultTransactionMessage.writableLoadedCount, Wire.Message.writableLoadedCount,
      vaultMessage, wireMessage, List.map_map]
    rfl
  unfold SquadsVaultTransactionMessage.isWritable Wire.Message.isWritable
  rw [hloaded]
  simp only [vaultMessage, wireMessage, List.length_map]
  by_cases hstatic : i < staticMetas.length
  · rw [if_pos hstatic, if_pos hstatic]
    split <;> omega
  · rw [if_neg hstatic, if_neg hstatic, if_neg (by omega)]

theorem executes_of_layout {instructions : List SolanaInstruction} {vaultAddress : PublicKey}
    {tables : List AddressLookupTable} {staticMetas : List AggregatedAccountMeta}
    {writable readonly : List PublicKey} {lookups : List CompiledAddressTableLookup}
    {instructions' : List SquadsCompiledInstruction}
    (hlayout : Layout (aggregateAccountMetas instructions vaultAddress) tables staticMetas writable
      readonly lookups)
    (hall : List.Forall₂ (CompilesTo (staticMetas.map (·.address) ++ writable ++ readonly))
      instructions instructions') :
    Executes instructions vaultAddress (vaultMessage staticMetas instructions' lookups)
      (staticMetas.map (·.address) ++ writable ++ readonly) := by
  have hmetas := aggregateAccountMetas_spec instructions vaultAddress
  have hfirst := hlayout.feePayer_first hmetas
  have hsigner : ∀ i key, (staticMetas.map (·.address) ++ writable ++ readonly)[i]? = some key →
      ((vaultMessage staticMetas instructions' lookups).isSigner i ↔
        key = vaultAddress ∨ Names instructions (·.isSigner) key) := by
    intro i key hkey
    rw [names_signer_iff, ← hlayout.isSigner_iff hmetas hkey]
    exact Int.ofNat_lt
  have hwritable : ∀ i key, (staticMetas.map (·.address) ++ writable ++ readonly)[i]? = some key →
      ((vaultMessage staticMetas instructions' lookups).isWritable i ↔
        key = vaultAddress ∨ Names instructions (·.isWritable) key) := by
    intro i key hkey
    rw [names_writable_iff, vaultMessage_isWritable]
    exact hlayout.isWritable_iff hmetas rfl rfl rfl rfl rfl hkey
  constructor
  · have hlt := hlayout.lt_static hmetas hfirst (.inl rfl)
    rw [List.append_assoc, List.getElem?_append_left (by rwa [List.length_map])] at hfirst
    exact hfirst
  · exact ⟨(hsigner 0 _ hfirst).2 (.inl rfl), (hwritable 0 _ hfirst).2 (.inl rfl)⟩
  · exact hlayout.keys_perm.nodup_iff.2 hmetas.nodup
  · exact hall.imp fun _ _ hcompiles => hcompiles.resolves
  · exact hsigner
  · exact hwritable

/-- The sections of a layout load its writable and its readonly keys. -/
theorem sections_of_layout {known : List (PublicKey × List PublicKey)}
    {tables : List AddressLookupTable} {writable readonly : List PublicKey}
    {lookups : List CompiledAddressTableLookup} (h : Sections tables writable readonly lookups)
    (hknown : ∀ table ∈ tables, known.lookup table.address = some table.addresses) :
    ∃ parts : List (List PublicKey × List PublicKey),
      lookupSections known (lookups.map squadsLookup) = some parts ∧
      writable = parts.flatMap Prod.fst ∧ readonly = parts.flatMap Prod.snd := by
  induction h with
  | nil => exact ⟨[], rfl, rfl, rfl⟩
  | skip _ ih => exact ih fun table htable => hknown table (List.mem_cons_of_mem _ htable)
  | @keep table tables writable readonly moreW moreR indexesW indexesR lookups hwritable hreadonly
      _ ih =>
    obtain ⟨parts, hparts, rfl, rfl⟩ :=
      ih fun table htable => hknown table (List.mem_cons_of_mem _ htable)
    have htable := hknown _ List.mem_cons_self
    have hw : Wire.tableEntries known table.address indexesW = some writable :=
      Option.bind_eq_some_iff.2 ⟨_, htable, hwritable.mapM⟩
    have hr : Wire.tableEntries known table.address indexesR = some readonly :=
      Option.bind_eq_some_iff.2 ⟨_, htable, hreadonly.mapM⟩
    refine ⟨(writable, readonly) :: parts, ?_, rfl, rfl⟩
    rw [lookupSections] at hparts ⊢
    rw [List.map_cons, List.mapM_cons, hparts]
    simp [squadsLookup, hw, hr]

end Chancery.Squads
