import Chancery.MessageAgreement
import Chancery.SolanaTransactionLaws

/-!
# Unsigned transactions

What `createUnsignedTransaction` of `typescript/src/SolanaTransaction.ts` and of
`web/instruction-builder/solana-transaction.mjs` exports, as the wire format reads it.  Nothing
limits the size of an export, so every header count and every length may occur.

* `Writes`, `compileUnversionedMessage_wire` — the instructions behind the texts, and the bytes of
  the compiled message.
* `readLength_long`, `readInstruction_wire` — what the format's lengths cannot hold.
* `Fits` — fewer than 128 signers and 16-bit lengths; `readsBack_iff`.
* `unsignedTransaction_readable_iff`.
-/

set_option autoImplicit false

namespace Chancery

open Wire

/-! ## The exports -/

/-- A message behind empty signatures. -/
def createUnsignedTransaction (message : CompiledSolanaMessage) : Except String Bytes :=
  serializeTransaction message.bytes
    (List.replicate message.numberOfRequiredSignatures (List.replicate 64 0))

/-- `createUnsignedTransaction` of `solana-transaction.mjs`. -/
def webCreateUnsignedTransaction (message : WebCompiledMessage) : Except String Bytes := do
  let signatureCount ← encodeShortVectorLength message.numberOfRequiredSignatures
  let signatures := List.replicate message.numberOfRequiredSignatures (List.replicate 64 0)
  return signatureCount ++ signatures.flatten ++ message.bytes

/-! ## The instructions behind the texts -/

/-- The account with its address as text. -/
def AccountMetaInput.of (account : SolanaInstructionAccountMeta) : AccountMetaInput :=
  ⟨account.address.toBase58, account.isSigner, account.isWritable⟩

/-- The input is the instruction with its addresses as texts. -/
structure Writes (instruction : SolanaInstruction) (input : InstructionInput) : Prop where
  programAddress : input.programAddress = instruction.programAddress.toBase58
  accounts : input.accounts = instruction.accounts.map .of
  data : input.data = instruction.data

theorem aggregateAccountInput_ok {state next : Aggregation} {input : AccountMetaInput}
    (h : aggregateAccountInput state input = .ok next) : ∃ account, input = .of account ∧
      next = state.merge account.address account.isSigner account.isWritable false := by
  obtain ⟨address, haddress, hret⟩ := Except.bind_eq_ok.1 h
  cases hret
  refine ⟨⟨address, input.isSigner, input.isWritable⟩, ?_, rfl⟩
  rw [AccountMetaInput.of, decodePublicKey_ok haddress]

theorem foldlM_aggregateAccountInput : ∀ {inputs : List AccountMetaInput}
    {state next : Aggregation}, inputs.foldlM aggregateAccountInput state = .ok next →
      ∃ accounts : List SolanaInstructionAccountMeta, inputs = accounts.map .of ∧
        next = accounts.foldl (fun state account =>
          state.merge account.address account.isSigner account.isWritable false) state
  | [], _, _, h => by
    cases h
    exact ⟨[], rfl, rfl⟩
  | input :: inputs, state, next, h => by
    rw [List.foldlM_cons] at h
    obtain ⟨middle, hmiddle, hrest⟩ := Except.bind_eq_ok.1 h
    obtain ⟨account, haccount, rfl⟩ := aggregateAccountInput_ok hmiddle
    obtain ⟨accounts, haccounts, hnext⟩ := foldlM_aggregateAccountInput hrest
    exact ⟨account :: accounts, by rw [haccount, haccounts, List.map_cons], hnext⟩

theorem aggregateInstructionInput_ok {state next : Aggregation} {input : InstructionInput}
    (h : aggregateInstructionInput state input = .ok next) :
    ∃ instruction, Writes instruction input ∧ next = aggregateInstruction state instruction := by
  obtain ⟨middle, hmiddle, hrest⟩ := Except.bind_eq_ok.1 h
  obtain ⟨programAddress, hprogram, hret⟩ := Except.bind_eq_ok.1 hrest
  cases hret
  obtain ⟨accounts, haccounts, hfold⟩ := foldlM_aggregateAccountInput hmiddle
  refine ⟨⟨programAddress, accounts, input.data⟩, ⟨?_, haccounts, rfl⟩, ?_⟩
  · exact (decodePublicKey_ok hprogram).symm
  · rw [hfold]
    rfl

theorem foldlM_aggregateInstructionInput : ∀ {inputs : List InstructionInput}
    {state next : Aggregation}, inputs.foldlM aggregateInstructionInput state = .ok next →
      ∃ instructions, List.Forall₂ Writes instructions inputs ∧
        next = instructions.foldl aggregateInstruction state
  | [], _, _, h => by
    cases h
    exact ⟨[], .nil, rfl⟩
  | input :: inputs, state, next, h => by
    rw [List.foldlM_cons] at h
    obtain ⟨middle, hmiddle, hrest⟩ := Except.bind_eq_ok.1 h
    obtain ⟨instruction, hwrites, rfl⟩ := aggregateInstructionInput_ok hmiddle
    obtain ⟨instructions, hall, hnext⟩ := foldlM_aggregateInstructionInput hrest
    exact ⟨instruction :: instructions, .cons hwrites hall, hnext⟩

/-- **What is aggregated** are the accounts of the instructions behind the texts. -/
theorem aggregateInputs_ok {inputs : List InstructionInput} {feePayer : PublicKeyInput}
    {metas : List AggregatedAccountMeta} (h : aggregateInputs inputs feePayer = .ok metas) :
    ∃ instructions payer, List.Forall₂ Writes instructions inputs ∧
      feePayer.normalize = .ok payer ∧ metas = aggregateAccountMetas instructions payer := by
  obtain ⟨payer, hpayer, hrest⟩ := Except.bind_eq_ok.1 h
  obtain ⟨state, hstate, hret⟩ := Except.bind_eq_ok.1 hrest
  cases hret
  obtain ⟨instructions, hwrites, rfl⟩ := foldlM_aggregateInstructionInput hstate
  exact ⟨instructions, payer, hwrites, hpayer, rfl⟩

/-! ## The bytes of an instruction -/

/-- A compiled instruction as the message holds it. -/
def wireInstruction (compiled : CompiledInstruction) : Bytes :=
  UInt8.ofNat compiled.programIdIndex ::
    (shortVectorBytes (compiled.accounts.length + 1) compiled.accounts.length ++
      (compiled.accounts.map UInt8.ofNat ++
        (shortVectorBytes (compiled.data.length + 1) compiled.data.length ++ compiled.data)))

/-- Every index is a byte. -/
structure ByteIndexes (compiled : CompiledInstruction) : Prop where
  program : compiled.programIdIndex < 256
  accounts : ∀ index ∈ compiled.accounts, index < 256

theorem encodeShortVectorLength_eq {n : Nat} {bytes : Bytes}
    (h : encodeShortVectorLength n = .ok bytes) : bytes = shortVectorBytes (n + 1) n := by
  unfold encodeShortVectorLength at h
  split at h
  · cases h
    rfl
  · cases h

theorem compileAccountInputs_ok {keys : List PublicKey}
    {accounts : List SolanaInstructionAccountMeta} {indexes : List Nat}
    (h : (accounts.map AccountMetaInput.of).mapM (MessageCompiler.compileAccountInput keys []) =
      .ok indexes) :
    List.Forall₂ (fun account index => keys[index]? = some account.address) accounts indexes ∧
      ∀ index ∈ indexes, index < 256 := by
  have hall := List.forall₂_map_left_iff.1 (Except.mapM_eq_ok.1 h)
  have heach : ∀ (account : SolanaInstructionAccountMeta) (index : Nat),
      MessageCompiler.compileAccountInput keys [] (.of account) = .ok index →
        keys[index]? = some account.address ∧ index < 256 := by
    intro account index hindex
    rw [MessageCompiler.compileAccountInput, AccountMetaInput.of,
      Except.bind_of_ok (decodePublicKey_toBase58 account.address)] at hindex
    exact compileAccountIndex_ok hindex
  refine ⟨hall.imp fun account index hindex => (heach account index hindex).1, ?_⟩
  intro index hmem
  obtain ⟨account, -, hindex⟩ := forall₂_exists_left hall index hmem
  exact (heach account index hindex).2

/-- **An instruction compiles** to indexes that stand for its addresses. -/
theorem compileInstruction_wire {keys : List PublicKey} {instruction : SolanaInstruction}
    {input : InstructionInput} {bytes : Bytes} (hwrites : Writes instruction input)
    (h : MessageCompiler.typescript.compileInstruction keys [] input = .ok bytes) :
    ∃ compiled, Resolves keys instruction compiled ∧ ByteIndexes compiled ∧
      bytes = wireInstruction compiled := by
  obtain ⟨programAddress, hprogram, hbody⟩ := Except.bind_eq_ok.1 h
  obtain ⟨programIndex, hindex, hbody⟩ := Except.bind_eq_ok.1 hbody
  obtain ⟨accountCount, haccountCount, hbody⟩ := Except.bind_eq_ok.1 hbody
  obtain ⟨indexes, hindexes, hbody⟩ := Except.bind_eq_ok.1 hbody
  obtain ⟨dataLength, hdataLength, hret⟩ := Except.bind_eq_ok.1 hbody
  cases hret
  rw [hwrites.programAddress, decodePublicKey_toBase58] at hprogram
  cases hprogram
  obtain ⟨hkey, hlt⟩ := compileProgramIndex_ok hindex
  rw [hwrites.accounts] at hindexes
  obtain ⟨hresolve, hbyte⟩ := compileAccountInputs_ok hindexes
  refine ⟨⟨programIndex, indexes, input.data⟩, ⟨hkey, hresolve, hwrites.data⟩, ⟨hlt, hbyte⟩, ?_⟩
  rw [encodeShortVectorLength_eq haccountCount, encodeShortVectorLength_eq hdataLength,
    hwrites.accounts, List.length_map, hresolve.length_eq]
  simp [wireInstruction]

/-! ## What a reader makes of the lengths -/

/-- A length of more than sixteen bits has no place in the format. -/
theorem readLength_long {n : Nat} (h : 65536 ≤ n) (rest : Bytes) :
    ∃ e, readLength (shortVectorBytes (n + 1) n ++ rest) = .error e := by
  have hlow : (UInt8.ofNat (n % 128 + 128)).toNat = n % 128 + 128 := ofNat_toNat (by omega)
  have hmid : (UInt8.ofNat (n / 128 % 128 + 128)).toNat = n / 128 % 128 + 128 :=
    ofNat_toNat (by omega)
  have hhigh : ∃ b2 more, 3 < b2.toNat ∧
      shortVectorBytes (n + 1 - 1 - 1) (n / 128 / 128) = b2 :: more := by
    by_cases hlast : n / 128 / 128 < 128
    · refine ⟨_, [], ?_, shortVectorBytes_last (by omega) hlast⟩
      rw [ofNat_toNat (by omega)]
      omega
    · refine ⟨_, _, ?_, shortVectorBytes_more (by omega) (by omega)⟩
      rw [ofNat_toNat (by omega)]
      omega
  obtain ⟨b2, more, hb2, hmore⟩ := hhigh
  rw [shortVectorBytes_more (by omega) (by omega), shortVectorBytes_more (by omega) (by omega),
    hmore, List.cons_append, List.cons_append, List.cons_append, readLength.eq_def]
  dsimp only
  rw [if_neg (by omega), if_neg (by omega), if_neg (by omega), if_neg (by omega), if_pos hb2]
  exact ⟨_, rfl⟩

/-- The lengths of the instruction fit into sixteen bits. -/
structure WireLengths (compiled : CompiledInstruction) : Prop where
  accounts : compiled.accounts.length < 65536
  data : compiled.data.length < 65536

theorem readVector_short {α : Type} {read : Reader α} {n : Nat} (h : n < 65536) (input : Bytes) :
    readVector read (shortVectorBytes (n + 1) n ++ input) =
      Codec.decodeEach (fun _ => read) n 0 input := by
  rw [readVector, readLength_shortVectorBytes h]
  rfl

theorem readVector_ok {α : Type} {read : Reader α} {n : Nat} {input : Bytes}
    {result : List α × Bytes} (h : readVector read (shortVectorBytes (n + 1) n ++ input) =
      .ok result) : n < 65536 ∧ Codec.decodeEach (fun _ => read) n 0 input = .ok result := by
  by_cases hlt : n < 65536
  · exact ⟨hlt, by rwa [readVector_short hlt] at h⟩
  · obtain ⟨e, he⟩ := readLength_long (by omega : 65536 ≤ n) input
    rw [readVector, he] at h
    cases h

theorem readIndexes_wire {indexes : List Nat} (hbyte : ∀ index ∈ indexes, index < 256)
    (rest : Bytes) : Codec.decodeEach (fun _ => readByte) indexes.length 0
      (indexes.map UInt8.ofNat ++ rest) = .ok (indexes, rest) := by
  rw [List.map_eq_flatMap]
  exact Codec.decodeEach_flatMap
    (fun index hindex _ rest => readByte_ofNat (hbyte index hindex) rest) 0 rest

/-- **An instruction is read back** when its lengths fit, -/
theorem readInstruction_wire {compiled : CompiledInstruction} (hbyte : ByteIndexes compiled)
    (h : WireLengths compiled) (rest : Bytes) :
    readInstruction (wireInstruction compiled ++ rest) = .ok (compiled, rest) := by
  simp only [wireInstruction, List.cons_append, List.append_assoc]
  have haccounts := fun input => (readVector_short h.accounts (compiled.accounts.map UInt8.ofNat ++
    input)).trans (readIndexes_wire hbyte.accounts input)
  exact Except.bind_eq_ok.2 ⟨_, readByte_ofNat hbyte.program _, Except.bind_eq_ok.2
    ⟨_, haccounts _, Except.bind_eq_ok.2 ⟨_, readLength_shortVectorBytes h.data _,
      Except.bind_eq_ok.2 ⟨_, readBytes_append rfl "data" rest, rfl⟩⟩⟩⟩

/-- and only then is anything read. -/
theorem wireLengths_of_read {compiled : CompiledInstruction} (hbyte : ByteIndexes compiled)
    {rest : Bytes} {result : CompiledInstruction × Bytes}
    (h : readInstruction (wireInstruction compiled ++ rest) = .ok result) :
    WireLengths compiled := by
  simp only [wireInstruction, List.cons_append, List.append_assoc] at h
  obtain ⟨⟨program, input⟩, hprogram, hrest⟩ := Except.bind_eq_ok.1 h
  rw [readByte_ofNat hbyte.program] at hprogram
  cases hprogram
  obtain ⟨⟨accounts, input⟩, haccounts, hrest⟩ := Except.bind_eq_ok.1 hrest
  obtain ⟨haccountsLt, hindexes⟩ := readVector_ok haccounts
  rw [readIndexes_wire hbyte.accounts] at hindexes
  cases hindexes
  obtain ⟨⟨dataLength, input⟩, hdata, hrest⟩ := Except.bind_eq_ok.1 hrest
  refine ⟨haccountsLt, ?_⟩
  by_contra hlong
  obtain ⟨e, he⟩ := readLength_long (by omega : 65536 ≤ compiled.data.length)
    (compiled.data ++ rest)
  rw [he] at hdata
  cases hdata

theorem readInstructions_wire {compiled : List CompiledInstruction}
    (hbyte : ∀ instruction ∈ compiled, ByteIndexes instruction) (hcount : compiled.length < 65536)
    (hlengths : ∀ instruction ∈ compiled, WireLengths instruction) (rest : Bytes) :
    readVector readInstruction (shortVectorBytes (compiled.length + 1) compiled.length ++
      (compiled.flatMap wireInstruction ++ rest)) = .ok (compiled, rest) := by
  rw [readVector_short hcount]
  exact Codec.decodeEach_flatMap (fun instruction hmem _ rest =>
    readInstruction_wire (hbyte instruction hmem) (hlengths instruction hmem) rest) 0 rest

/-- An item that is not read ends the run. -/
theorem wireLengths_of_decodeEach : ∀ {compiled : List CompiledInstruction} {index : Nat}
    {rest : Bytes} {result : List CompiledInstruction × Bytes},
    (∀ instruction ∈ compiled, ByteIndexes instruction) →
    Codec.decodeEach (fun _ => readInstruction) compiled.length index
      (compiled.flatMap wireInstruction ++ rest) = .ok result →
    ∀ instruction ∈ compiled, WireLengths instruction
  | [], _, _, _, _, _ => fun _ hmem => by cases hmem
  | first :: compiled, index, rest, result, hbyte, h => by
    rw [List.flatMap_cons, List.append_assoc, List.length_cons] at h
    obtain ⟨_, _, input, hfirst, hothers, -⟩ := Codec.decodeEach_succ h
    have hlengths := wireLengths_of_read (hbyte first List.mem_cons_self) hfirst
    rw [readInstruction_wire (hbyte first List.mem_cons_self) hlengths] at hfirst
    cases hfirst
    refine List.forall_mem_cons.2 ⟨hlengths, wireLengths_of_decodeEach (fun instruction hmem => ?_)
      hothers⟩
    exact hbyte instruction (List.mem_cons_of_mem _ hmem)

/-! ## Messages -/

/-- What a compiled message is made of. -/
structure MessageParts where
  staticMetas : List AggregatedAccountMeta
  recentBlockhash : PublicKey
  instructions : List CompiledInstruction

namespace MessageParts

variable (parts : MessageParts)

/-- The static account keys. -/
def keys : List PublicKey := parts.staticMetas.map (·.address)

/-- The number of signers. -/
def required : Nat := parts.staticMetas.countP (·.isSigner)

/-- The number of readonly signers. -/
def readonlySigned : Nat :=
  parts.staticMetas.countP fun accountMeta => accountMeta.isSigner && !accountMeta.isWritable

/-- The number of readonly accounts that do not sign. -/
def readonlyUnsigned : Nat :=
  parts.staticMetas.countP fun accountMeta => !accountMeta.isSigner && !accountMeta.isWritable

/-- Bytes of the message. -/
def bytes : Bytes :=
  UInt8.ofNat parts.required :: UInt8.ofNat parts.readonlySigned ::
    UInt8.ofNat parts.readonlyUnsigned ::
      (shortVectorBytes (parts.keys.length + 1) parts.keys.length ++
        (parts.keys.flatMap PublicKey.bytes ++ (parts.recentBlockhash.bytes ++
          (shortVectorBytes (parts.instructions.length + 1) parts.instructions.length ++
            parts.instructions.flatMap wireInstruction))))

/-- The message that the format holds. -/
def message : Message where
  version := .legacy
  numRequiredSignatures := parts.required
  numReadonlySignedAccounts := parts.readonlySigned
  numReadonlyUnsignedAccounts := parts.readonlyUnsigned
  accountKeys := parts.keys
  recentBlockhash := parts.recentBlockhash
  instructions := parts.instructions
  addressTableLookups := []

/-- What the compiler checks of the parts. -/
structure Checked : Prop where
  keys : parts.keys.length ≤ 256
  required : parts.required ≤ 255
  readonlySigned : parts.readonlySigned ≤ 255
  readonlyUnsigned : parts.readonlyUnsigned ≤ 255
  indexes : ∀ instruction ∈ parts.instructions, ByteIndexes instruction

/-- What the format can hold of them. -/
structure Held : Prop where
  required : parts.required < 128
  instructions : parts.instructions.length < 65536
  lengths : ∀ instruction ∈ parts.instructions, WireLengths instruction

variable {parts}

theorem readKeys_wire {keys : List PublicKey} (h : keys.length ≤ 256) (rest : Bytes) :
    readVector readKey (shortVectorBytes (keys.length + 1) keys.length ++
      (keys.flatMap PublicKey.bytes ++ rest)) = .ok (keys, rest) := by
  rw [readVector_short (by omega)]
  exact Codec.decodeEach_flatMap (fun key _ _ rest => readKey_bytes key rest) 0 rest

theorem decodeMessage_bytes (h : parts.Checked) (hheld : parts.Held) :
    decodeMessage parts.bytes = .ok parts.message := by
  have hrequired := h.required
  have hsigned := h.readonlySigned
  have hunsigned := h.readonlyUnsigned
  have hversion : readVersion parts.bytes = .ok (.legacy, parts.bytes) := by
    unfold bytes
    rw [readVersion, ofNat_toNat (by omega), if_pos hheld.required]
  have hinstructions := readInstructions_wire h.indexes hheld.instructions hheld.lengths []
  rw [List.append_nil] at hinstructions
  exact Except.bind_eq_ok.2 ⟨_, hversion, Except.bind_eq_ok.2
    ⟨_, readByte_ofNat (by omega) _, Except.bind_eq_ok.2 ⟨_, readByte_ofNat (by omega) _,
      Except.bind_eq_ok.2 ⟨_, readByte_ofNat (by omega) _, Except.bind_eq_ok.2
        ⟨_, readKeys_wire h.keys _, Except.bind_eq_ok.2 ⟨_, readKey_bytes _ _,
          Except.bind_eq_ok.2 ⟨_, hinstructions, rfl⟩⟩⟩⟩⟩⟩⟩

/-- A message that the format takes for an unversioned one is held by it. -/
theorem held_of_decodeMessage (h : parts.Checked) {message : Message}
    (hdecode : decodeMessage parts.bytes = .ok message) (hlegacy : message.version = .legacy) :
    parts.Held := by
  have hrequired := h.required
  have hsigned := h.readonlySigned
  have hunsigned := h.readonlyUnsigned
  obtain ⟨⟨version, input⟩, hversion, hdecode⟩ := Except.bind_eq_ok.1 hdecode
  obtain ⟨⟨_, _⟩, hfirst, hdecode⟩ := Except.bind_eq_ok.1 hdecode
  obtain ⟨⟨_, _⟩, hsecond, hdecode⟩ := Except.bind_eq_ok.1 hdecode
  obtain ⟨⟨_, _⟩, hthird, hdecode⟩ := Except.bind_eq_ok.1 hdecode
  obtain ⟨⟨_, _⟩, hkeys, hdecode⟩ := Except.bind_eq_ok.1 hdecode
  obtain ⟨⟨_, _⟩, hblockhash, hdecode⟩ := Except.bind_eq_ok.1 hdecode
  obtain ⟨⟨_, _⟩, hinstructions, hdecode⟩ := Except.bind_eq_ok.1 hdecode
  obtain ⟨⟨_, rest⟩, _, hdecode⟩ := Except.bind_eq_ok.1 hdecode
  have hmessage : message.version = version := by
    dsimp only at hdecode
    split at hdecode
    · cases hdecode
    · cases hdecode
      rfl
  rw [hmessage] at hlegacy
  subst hlegacy
  -- With the high bit set, the first byte is taken for a version and not for the count.
  have hlt : parts.required < 128 := by
    by_contra hhigh
    rw [bytes, readVersion, ofNat_toNat (by omega), if_neg hhigh] at hversion
    split at hversion <;> cases hversion
  rw [bytes, readVersion, ofNat_toNat (by omega), if_pos hlt] at hversion
  cases hversion
  rw [readByte_ofNat (by omega)] at hfirst
  cases hfirst
  rw [readByte_ofNat (by omega)] at hsecond
  cases hsecond
  rw [readByte_ofNat (by omega)] at hthird
  cases hthird
  rw [readKeys_wire h.keys] at hkeys
  cases hkeys
  rw [readKey_bytes] at hblockhash
  cases hblockhash
  obtain ⟨hcount, heach⟩ := readVector_ok hinstructions
  rw [← List.append_nil (parts.instructions.flatMap wireInstruction)] at heach
  exact ⟨hlt, hcount, wireLengths_of_decodeEach h.indexes heach⟩

/-! ## Transactions -/

variable (parts) in
/-- The signatures are empty, as many as the header says. -/
def transaction : Bytes :=
  shortVectorBytes (parts.required + 1) parts.required ++
    ((List.replicate parts.required (List.replicate 64 0)).flatten ++ parts.bytes)

theorem encodeSignatures_zero : ∀ (count index : Nat),
    Codec.encodeEach (fun index (signature : Bytes) =>
      if signature.length ≠ 64 then
        .error s!"Transaction signature {index} must contain 64 bytes"
      else .ok signature) index (List.replicate count (List.replicate 64 0)) =
      .ok (List.replicate count (List.replicate 64 0)).flatten
  | 0, _ => rfl
  | count + 1, index => by
    rw [List.replicate_succ, List.flatten_cons]
    exact Except.bind_eq_ok.2 ⟨_, if_neg (not_not.2 List.length_replicate), Except.bind_eq_ok.2
      ⟨_, encodeSignatures_zero count (index + 1), rfl⟩⟩

theorem serializeTransaction_zero (h : parts.Checked) :
    serializeTransaction parts.bytes (List.replicate parts.required (List.replicate 64 0)) =
      .ok parts.transaction := by
  have hcount : encodeShortVectorLength
      (List.replicate parts.required (List.replicate 64 (0 : UInt8))).length =
        .ok (shortVectorBytes (parts.required + 1) parts.required) := by
    have hrequired := h.required
    rw [List.length_replicate]
    exact encodeShortVectorLength_ok (MessageCompiler.isSafeInteger_of_keyCount (by omega))
  exact Except.bind_eq_ok.2 ⟨_, hcount, Except.bind_eq_ok.2
    ⟨_, encodeSignatures_zero parts.required 0, rfl⟩⟩

theorem decodeTransaction_transaction (h : parts.Checked) :
    decodeTransaction parts.transaction = (do
      let message ← decodeMessage parts.bytes
      return (List.replicate parts.required (List.replicate 64 0), message)) := by
  have hrequired := h.required
  have hsignatures : readVector (readBytes 64 "signature") parts.transaction =
      .ok (List.replicate parts.required (List.replicate 64 0), parts.bytes) := by
    have hread : ∀ signature ∈ List.replicate parts.required (List.replicate 64 (0 : UInt8)),
        ∀ (_ : Nat) rest, readBytes 64 "signature" (id signature ++ rest) =
          .ok (signature, rest) := by
      intro signature hmem _ rest
      refine readBytes_append ?_ "signature" rest
      rw [List.eq_of_mem_replicate hmem]
      exact List.length_replicate
    have heach := Codec.decodeEach_flatMap hread 0 parts.bytes
    rw [List.flatMap_id, List.length_replicate] at heach
    rw [transaction, readVector_short (by omega), heach]
  exact Except.bind_of_ok hsignatures _

end MessageParts

/-! ## What the exports stand for -/

/-- The transaction is read back: its signatures match the header, the message is unversioned and
carries the instructions out over the compiled keys. -/
def ReadsBack (instructions : List SolanaInstruction) (feePayer recentBlockhash : PublicKey)
    (accountKeys : List PublicKey) (transaction : Bytes) : Prop :=
  ∃ signatures message, decodeTransaction transaction = .ok (signatures, message) ∧
    signatures.length = message.numRequiredSignatures ∧ message.version = .legacy ∧
    message.accountKeys = accountKeys ∧
    CarriesOut instructions feePayer recentBlockhash message accountKeys

/-- The fee payer and every address that an instruction signs with, each once. -/
def requiredSigners (instructions : List SolanaInstruction) (feePayer : PublicKey) :
    List PublicKey :=
  (feePayer :: ((instructions.flatMap (·.accounts)).filter (·.isSigner)).map (·.address)).dedup

/-- The format has a place for the signers and for every length. -/
structure FitsFormat (instructions : List SolanaInstruction) (feePayer : PublicKey) : Prop where
  signers : (requiredSigners instructions feePayer).length ≤ 127
  count : instructions.length ≤ 65535
  lengths : ∀ instruction ∈ instructions,
    instruction.accounts.length ≤ 65535 ∧ instruction.data.length ≤ 65535

/-- The parts are what the instructions compile to. -/
structure CompiledParts (instructions : List SolanaInstruction) (feePayer : PublicKey)
    (parts : MessageParts) : Prop where
  staticMetas : parts.staticMetas =
    orderStaticAccountMetas (aggregateAccountMetas instructions feePayer)
  resolves : List.Forall₂ (Resolves parts.keys) instructions parts.instructions
  checked : parts.Checked

theorem mem_requiredSigners {instructions : List SolanaInstruction} {feePayer key : PublicKey} :
    key ∈ requiredSigners instructions feePayer ↔
      key = feePayer ∨ Names instructions (·.isSigner) key := by
  simp only [requiredSigners, List.mem_dedup, List.mem_cons, List.mem_map, List.mem_filter,
    List.mem_flatMap, Names]
  refine or_congr_right ⟨?_, ?_⟩
  · rintro ⟨account, ⟨⟨instruction, hinstruction, haccount⟩, hsigner⟩, haddress⟩
    exact ⟨instruction, hinstruction, account, haccount, haddress, hsigner⟩
  · rintro ⟨instruction, hinstruction, account, haccount, haddress, hsigner⟩
    exact ⟨account, ⟨⟨instruction, hinstruction, haccount⟩, hsigner⟩, haddress⟩

namespace CompiledParts

variable {instructions : List SolanaInstruction} {feePayer : PublicKey} {parts : MessageParts}

/-- **The header counts the required signers.** -/
theorem required_eq (h : CompiledParts instructions feePayer parts) :
    parts.required = (requiredSigners instructions feePayer).length := by
  have hmetas := aggregateAccountMetas_spec instructions feePayer
  have hperm := orderStaticAccountMetas_perm (aggregateAccountMetas instructions feePayer)
  have hcount : parts.required =
      (((aggregateAccountMetas instructions feePayer).filter (·.isSigner)).map
        (·.address)).length := by
    rw [MessageParts.required, h.staticMetas, hperm.countP_eq, List.length_map,
      List.countP_eq_length_filter]
  rw [hcount]
  refine List.Perm.length_eq ((List.perm_ext_iff_of_nodup ?_ (List.nodup_dedup _)).2 fun key => ?_)
  · exact hmetas.nodup.sublist ((List.filter_sublist).map _)
  · rw [show List.dedup _ = requiredSigners instructions feePayer from rfl, mem_requiredSigners,
      names_signer_iff, List.mem_map]
    constructor
    · rintro ⟨m, hm, rfl⟩
      obtain ⟨hmem, hsigner⟩ := List.mem_filter.1 hm
      exact (hmetas.isSigner_iff m hmem).1 hsigner
    · intro hkey
      have hmem : key ∈ (aggregateAccountMetas instructions feePayer).map (·.address) := by
        rw [hmetas.mem_iff]
        refine hkey.imp_right ?_
        rintro ⟨mention, hmention, haddress, -⟩
        exact ⟨mention, hmention, haddress⟩
      obtain ⟨m, hm, rfl⟩ := List.mem_map.1 hmem
      exact ⟨m, List.mem_filter.2 ⟨hm, (hmetas.isSigner_iff m hm).2 hkey⟩, rfl⟩

theorem held_iff (h : CompiledParts instructions feePayer parts) :
    parts.Held ↔ FitsFormat instructions feePayer := by
  have hsigners := h.required_eq
  have hcount := h.resolves.length_eq
  constructor
  · rintro ⟨hrequired, hinstructions, hlengths⟩
    refine ⟨by omega, by omega, fun instruction hmem => ?_⟩
    obtain ⟨compiled, hcompiled, hresolve⟩ := forall₂_exists_left h.resolves.flip instruction hmem
    have haccounts := hresolve.accounts.length_eq
    have hlength := hlengths compiled hcompiled
    rw [haccounts, ← hresolve.data]
    exact ⟨Nat.le_of_lt_succ hlength.accounts, Nat.le_of_lt_succ hlength.data⟩
  · rintro ⟨hrequired, hinstructions, hlengths⟩
    refine ⟨by omega, by omega, fun compiled hcompiled => ?_⟩
    obtain ⟨instruction, hmem, hresolve⟩ := forall₂_exists_left h.resolves compiled hcompiled
    obtain ⟨haccounts, hdata⟩ := hlengths instruction hmem
    rw [hresolve.accounts.length_eq] at haccounts
    rw [← hresolve.data] at hdata
    exact ⟨Nat.lt_succ_of_le haccounts, Nat.lt_succ_of_le hdata⟩

theorem carriesOut (h : CompiledParts instructions feePayer parts) :
    CarriesOut instructions feePayer parts.recentBlockhash parts.message parts.keys := by
  have hmetas := aggregateAccountMetas_spec instructions feePayer
  have hlayout := layout_of_place
    (placeAccountsInLookupTables_nil (aggregateAccountMetas instructions feePayer))
  dsimp only at hlayout
  rw [← h.staticMetas] at hlayout
  have hkeys : parts.staticMetas.map (·.address) ++ [] ++ [] = parts.keys := by
    rw [List.append_nil, List.append_nil]
    rfl
  rw [← hkeys]
  refine hlayout.carriesOut hmetas rfl rfl rfl rfl rfl rfl ?_
  rw [hkeys]
  exact h.resolves

/-- **The export is read back** exactly when the format has a place for it. -/
theorem readsBack_iff (h : CompiledParts instructions feePayer parts) :
    ReadsBack instructions feePayer parts.recentBlockhash parts.keys parts.transaction ↔
      FitsFormat instructions feePayer := by
  rw [← h.held_iff, ReadsBack, MessageParts.decodeTransaction_transaction h.checked]
  constructor
  · rintro ⟨signatures, message, hdecode, -, hlegacy, -, -⟩
    obtain ⟨decoded, hdecoded, hret⟩ := Except.bind_eq_ok.1 hdecode
    cases hret
    exact MessageParts.held_of_decodeMessage h.checked hdecoded hlegacy
  · intro hheld
    refine ⟨_, parts.message,
      Except.bind_of_ok (MessageParts.decodeMessage_bytes h.checked hheld) _,
      List.length_replicate, rfl, rfl, h.carriesOut⟩

end CompiledParts

/-! ## What the compilers return -/

/-- What the arguments stand for. -/
structure StandsFor (input : InstructionsInput) (feePayerInput blockhashInput : PublicKeyInput)
    (instructions : List SolanaInstruction) (feePayer recentBlockhash : PublicKey) : Prop where
  instructions : List.Forall₂ Writes instructions input.instructions
  feePayer : feePayerInput.normalize = .ok feePayer
  recentBlockhash : blockhashInput.normalize = .ok recentBlockhash

theorem accountMetaInput_of_injective : Function.Injective AccountMetaInput.of := by
  rintro ⟨address, isSigner, isWritable⟩ ⟨address', isSigner', isWritable'⟩ h
  simp only [AccountMetaInput.of, AccountMetaInput.mk.injEq] at h
  obtain ⟨haddress, rfl, rfl⟩ := h
  rw [PublicKey.toBase58_injective haddress]

theorem Writes.unique {instruction other : SolanaInstruction} {input : InstructionInput}
    (h : Writes instruction input) (h' : Writes other input) : instruction = other := by
  obtain ⟨programAddress, accounts, data⟩ := instruction
  obtain ⟨programAddress', accounts', data'⟩ := other
  have hprogram := PublicKey.toBase58_injective (h.programAddress.symm.trans h'.programAddress)
  have haccounts := accountMetaInput_of_injective.list_map (h.accounts.symm.trans h'.accounts)
  have hdata := h.data.symm.trans h'.data
  dsimp only at hprogram haccounts hdata
  rw [hprogram, haccounts, hdata]

/-- The arguments stand for one thing only. -/
theorem StandsFor.unique {input : InstructionsInput} {feePayerInput blockhashInput : PublicKeyInput}
    {instructions instructions' : List SolanaInstruction}
    {feePayer feePayer' recentBlockhash recentBlockhash' : PublicKey}
    (h : StandsFor input feePayerInput blockhashInput instructions feePayer recentBlockhash)
    (h' : StandsFor input feePayerInput blockhashInput instructions' feePayer' recentBlockhash') :
    instructions = instructions' ∧ feePayer = feePayer' ∧ recentBlockhash = recentBlockhash' := by
  refine ⟨?_, Except.ok.inj (h.feePayer.symm.trans h'.feePayer),
    Except.ok.inj (h.recentBlockhash.symm.trans h'.recentBlockhash)⟩
  have hunique : Relator.LeftUnique Writes := fun _ _ _ hleft hright => hleft.unique hright
  exact List.left_unique_forall₂' hunique h.instructions h'.instructions

section

variable {input : InstructionsInput} {feePayerInput blockhashInput : PublicKeyInput}

theorem compileInstructions_wire {keys : List PublicKey} : ∀ {instructions : List SolanaInstruction}
    {inputs : List InstructionInput} {chunks : List Bytes},
    List.Forall₂ Writes instructions inputs →
    inputs.mapM (MessageCompiler.typescript.compileInstruction keys []) = .ok chunks →
    ∃ compiled, List.Forall₂ (Resolves keys) instructions compiled ∧
      (∀ instruction ∈ compiled, ByteIndexes instruction) ∧
      chunks.flatten = compiled.flatMap wireInstruction
  | _, _, chunks, .nil, h => by
    rw [List.mapM_nil] at h
    cases h
    exact ⟨[], .nil, by simp, rfl⟩
  | _, _, chunks, .cons hfirst hrest, h => by
    rw [List.mapM_cons] at h
    obtain ⟨chunk, hchunk, h⟩ := Except.bind_eq_ok.1 h
    obtain ⟨others, hothers, hret⟩ := Except.bind_eq_ok.1 h
    cases hret
    obtain ⟨first, hresolve, hbyte, rfl⟩ := compileInstruction_wire hfirst hchunk
    obtain ⟨compiled, hall, hbytes, hflat⟩ := compileInstructions_wire hrest hothers
    refine ⟨first :: compiled, .cons hresolve hall, List.forall_mem_cons.2 ⟨hbyte, hbytes⟩, ?_⟩
    rw [List.flatten_cons, hflat, List.flatMap_cons]

/-- **What TypeScript compiles** are the parts of the instructions behind the texts. -/
theorem compileUnversionedMessage_wire {message : CompiledSolanaMessage}
    (h : MessageCompiler.typescript.compileUnversionedMessage input feePayerInput blockhashInput =
      .ok message) :
    ∃ instructions feePayer parts,
      StandsFor input feePayerInput blockhashInput instructions feePayer parts.recentBlockhash ∧
      CompiledParts instructions feePayer parts ∧ message.bytes = parts.bytes ∧
      message.numberOfRequiredSignatures = parts.required ∧ message.accountKeys = parts.keys ∧
      message.signerAddresses.length = parts.required := by
  obtain ⟨metas, hmetas, h⟩ := Except.bind_eq_ok.1 h
  obtain ⟨instructions, feePayer, hwrites, hpayer, rfl⟩ := aggregateInputs_ok hmetas
  generalize hmetas : MessageCompiler.typescript.orderStaticAccountMetas
    (aggregateAccountMetas instructions feePayer) = staticMetas at h
  dsimp only [MessageCompiler.compileMessageBytes] at h
  split at h
  · cases h
  rename_i hstatic
  split at h
  · cases h
  rename_i hheader
  split at h
  · cases h
  obtain ⟨keyCount, hkeyCount, h⟩ := Except.bind_eq_ok.1 h
  obtain ⟨recentBlockhash, hblockhash, h⟩ := Except.bind_eq_ok.1 h
  obtain ⟨instructionCount, hinstructionCount, h⟩ := Except.bind_eq_ok.1 h
  obtain ⟨chunks, hchunks, h⟩ := Except.bind_eq_ok.1 h
  obtain ⟨lookupBytes, hlookups, hret⟩ := Except.bind_eq_ok.1 h
  cases hret
  cases hlookups
  simp only [List.append_nil] at hchunks ⊢
  obtain ⟨compiled, hresolves, hbyte, hflat⟩ := compileInstructions_wire hwrites hchunks
  have hlength : (staticMetas.map (·.address)).length = staticMetas.length := List.length_map _
  refine ⟨instructions, feePayer, ⟨staticMetas, recentBlockhash, compiled⟩,
    ⟨hwrites, hpayer, hblockhash⟩, ⟨hmetas.symm, hresolves, ⟨?_, ?_, ?_, ?_, hbyte⟩⟩, ?_, rfl, rfl,
    ?_⟩
  · rw [MessageParts.keys, hlength]
    exact Nat.le_of_not_lt hstatic
  · exact Nat.le_of_not_lt fun hlt => hheader (.inl hlt)
  · exact Nat.le_of_not_lt fun hlt => hheader (.inr (.inl hlt))
  · exact Nat.le_of_not_lt fun hlt => hheader (.inr (.inr hlt))
  · rw [encodeShortVectorLength_eq hkeyCount, encodeShortVectorLength_eq hinstructionCount, hflat,
      ← hwrites.length_eq, hresolves.length_eq]
    simp [MessageParts.bytes, versionBytes, MessageParts.keys, MessageParts.required,
      MessageParts.readonlySigned, MessageParts.readonlyUnsigned]
  · rw [List.length_map, List.length_take]
    exact Nat.min_eq_left List.countP_le_length

/-- The signer addresses are as many as the header says. -/
theorem webRequiredSignatures {message : WebCompiledMessage}
    (h : webCompileUnversionedMessage input feePayerInput blockhashInput = .ok message) :
    message.numberOfRequiredSignatures = message.signerAddresses.length := by
  obtain ⟨metas, -, h⟩ := Except.bind_eq_ok.1 h
  dsimp only at h
  split at h
  · cases h
  split at h
  · cases h
  obtain ⟨_, -, h⟩ := Except.bind_eq_ok.1 h
  obtain ⟨_, -, h⟩ := Except.bind_eq_ok.1 h
  obtain ⟨_, -, h⟩ := Except.bind_eq_ok.1 h
  obtain ⟨_, -, hret⟩ := Except.bind_eq_ok.1 h
  cases hret
  rw [List.length_take, List.length_map]
  exact (Nat.min_eq_left (List.length_filter_le ..)).symm

/-- **The web builder compiles** the same parts. -/
theorem webCompileUnversionedMessage_wire {message : WebCompiledMessage}
    (h : webCompileUnversionedMessage input feePayerInput blockhashInput = .ok message) :
    ∃ instructions feePayer parts,
      StandsFor input feePayerInput blockhashInput instructions feePayer parts.recentBlockhash ∧
      CompiledParts instructions feePayer parts ∧ message.bytes = parts.bytes ∧
      message.numberOfRequiredSignatures = parts.required ∧ message.accountKeys = parts.keys := by
  have hagree := webCompileUnversionedMessage_agree input feePayerInput blockhashInput
  rw [h] at hagree
  cases hcompiled : MessageCompiler.typescript.compileUnversionedMessage input feePayerInput
      blockhashInput with
  | error e =>
    rw [hcompiled] at hagree
    cases hagree
  | ok compiled =>
    rw [hcompiled] at hagree
    obtain ⟨instructions, feePayer, parts, hstands, hparts, hbytes, -, hkeys, hsigners⟩ :=
      compileUnversionedMessage_wire hcompiled
    have hcontent : message.content = compiled.content := Except.ok.inj hagree
    have hsame : message.bytes = compiled.bytes ∧
        message.signerAddresses = compiled.signerAddresses ∧
        message.accountKeys = compiled.accountKeys := by
      simpa [WebCompiledMessage.content, CompiledSolanaMessage.content] using hcontent
    refine ⟨instructions, feePayer, parts, hstands, hparts, hsame.1.trans hbytes, ?_,
      hsame.2.2.trans hkeys⟩
    rw [webRequiredSignatures h, hsame.2.1, hsigners]

end

/-! ## Every export -/

/-- Texts that are keys are aggregated. -/
theorem aggregateAccountInput_of (state : Aggregation) (account : SolanaInstructionAccountMeta) :
    aggregateAccountInput state (.of account) =
      .ok (state.merge account.address account.isSigner account.isWritable false) :=
  Except.bind_of_ok (decodePublicKey_toBase58 account.address) _

theorem foldlM_aggregateAccountInput_of : ∀ (accounts : List SolanaInstructionAccountMeta)
    (state : Aggregation), ∃ next,
      (accounts.map AccountMetaInput.of).foldlM aggregateAccountInput state = .ok next
  | [], state => ⟨state, rfl⟩
  | account :: accounts, state => by
    have hfirst := aggregateAccountInput_of state account
    rw [List.map_cons, List.foldlM_cons, Except.bind_of_ok hfirst]
    exact foldlM_aggregateAccountInput_of accounts _

theorem foldlM_aggregateInstructionInput_of : ∀ {instructions : List SolanaInstruction}
    {inputs : List InstructionInput}, List.Forall₂ Writes instructions inputs →
    ∀ state : Aggregation, ∃ next, inputs.foldlM aggregateInstructionInput state = .ok next
  | _, _, .nil, state => ⟨state, rfl⟩
  | instruction :: _, input :: _, .cons hwrites hrest, state => by
    obtain ⟨middle, hmiddle⟩ := foldlM_aggregateAccountInput_of instruction.accounts state
    rw [← hwrites.accounts] at hmiddle
    have hprogram := decodePublicKey_toBase58 instruction.programAddress
    rw [← hwrites.programAddress] at hprogram
    have hfirst : aggregateInstructionInput state input = .ok _ :=
      Except.bind_eq_ok.2 ⟨_, hmiddle, Except.bind_eq_ok.2 ⟨_, hprogram, rfl⟩⟩
    rw [List.foldlM_cons, Except.bind_of_ok hfirst]
    exact foldlM_aggregateInstructionInput_of hrest _

theorem accountIndexByAddress_of_mem {keys : List PublicKey} {address : PublicKey}
    (h : address ∈ keys) : ∃ index, accountIndexByAddress keys address = some index := by
  obtain ⟨i, hi, rfl⟩ := List.getElem_of_mem h
  rw [accountIndexByAddress, ← Option.isSome_iff_exists, Option.isSome_map, List.find?_isSome]
  refine ⟨(keys[i], i), ?_, beq_self_eq_true _⟩
  rw [List.mem_reverse, List.mem_zipIdx_iff_getElem?]
  exact List.getElem?_eq_getElem hi

theorem compileInstruction_of_mem {keys : List PublicKey} (hkeys : keys.length ≤ 256)
    {instruction : SolanaInstruction} {input : InstructionInput}
    (hwrites : Writes instruction input)
    (hmem : ∀ mention ∈ instruction.mentions, mention.address ∈ keys) :
    ∃ bytes, MessageCompiler.typescript.compileInstruction keys [] input = .ok bytes := by
  have hprogram := decodePublicKey_toBase58 instruction.programAddress
  rw [← hwrites.programAddress] at hprogram
  obtain ⟨programIndex, hprogramIndex⟩ := accountIndexByAddress_of_mem
    (hmem ⟨instruction.programAddress, false, false, true⟩ (by simp [SolanaInstruction.mentions]))
  have hindex : compileProgramIndex keys instruction.programAddress = .ok programIndex := by
    rw [compileProgramIndex_of_keyCount hkeys, hprogramIndex]
  have haccount : ∀ account ∈ input.accounts,
      ∃ index, MessageCompiler.compileAccountInput keys [] account = .ok index := by
    rw [hwrites.accounts]
    intro text htext
    obtain ⟨account, hlisted, rfl⟩ := List.mem_map.1 htext
    obtain ⟨index, hfound⟩ := accountIndexByAddress_of_mem
      (hmem ⟨account.address, account.isSigner, account.isWritable, false⟩
        (by simpa [SolanaInstruction.mentions] using ⟨account, hlisted, rfl, rfl, rfl⟩))
    refine ⟨index, Except.bind_eq_ok.2 ⟨_, decodePublicKey_toBase58 account.address, ?_⟩⟩
    rw [compileAccountIndex_of_keyCount hkeys, hfound]
  obtain ⟨indexes, hindexes⟩ := Except.exists_mapM haccount
  exact ⟨_, Except.bind_eq_ok.2 ⟨_, hprogram, Except.bind_eq_ok.2 ⟨_, hindex, Except.bind_eq_ok.2
    ⟨_, encodeShortVectorLength_ok input.accounts_safe, Except.bind_eq_ok.2 ⟨_, hindexes,
      Except.bind_eq_ok.2 ⟨_, encodeShortVectorLength_ok input.data_safe, rfl⟩⟩⟩⟩⟩⟩

/-- How many addresses the inputs mention, the fee payer apart. -/
def mentionCount (inputs : List InstructionInput) : Nat :=
  (inputs.map fun input => input.accounts.length + 1).sum

theorem mentions_length {instructions : List SolanaInstruction} {inputs : List InstructionInput}
    (h : List.Forall₂ Writes instructions inputs) :
    (instructions.flatMap (·.mentions)).length = mentionCount inputs := by
  induction h with
  | nil => rfl
  | cons hwrites _ ih =>
    rw [List.flatMap_cons, List.length_append, ih]
    simp [mentionCount, SolanaInstruction.mentions, hwrites.accounts]

theorem aggregateAccountMetas_length_le (instructions : List SolanaInstruction)
    (feePayer : PublicKey) : (aggregateAccountMetas instructions feePayer).length ≤
      (instructions.flatMap (·.mentions)).length + 1 := by
  have hmetas := aggregateAccountMetas_spec instructions feePayer
  have hsubset : (aggregateAccountMetas instructions feePayer).map (·.address) ⊆
      feePayer :: (instructions.flatMap (·.mentions)).map (·.address) := by
    intro address hmem
    rw [hmetas.mem_iff] at hmem
    simpa using hmem
  have hle := (List.subperm_of_subset hmetas.nodup hsubset).length_le
  rwa [List.length_map, List.length_cons, List.length_map] at hle

/-- **Few mentions always compile.** -/
theorem compileUnversionedMessage_of_mentions {input : InstructionsInput}
    {feePayerInput blockhashInput : PublicKeyInput} {instructions : List SolanaInstruction}
    {feePayer recentBlockhash : PublicKey}
    (h : StandsFor input feePayerInput blockhashInput instructions feePayer recentBlockhash)
    (hfew : mentionCount input.instructions < 255) :
    ∃ message, MessageCompiler.typescript.compileUnversionedMessage input feePayerInput
      blockhashInput = .ok message := by
  obtain ⟨state, hstate⟩ := foldlM_aggregateInstructionInput_of h.instructions
    (initialAggregation feePayer)
  have haggregate : aggregateInputs input.instructions feePayerInput = .ok state.metas :=
    Except.bind_eq_ok.2 ⟨_, h.feePayer, Except.bind_eq_ok.2 ⟨_, hstate, rfl⟩⟩
  obtain ⟨instructions, feePayer, hwrites, hpayer, hmetas⟩ := aggregateInputs_ok haggregate
  have hspec := aggregateAccountMetas_spec instructions feePayer
  have hlength := aggregateAccountMetas_length_le instructions feePayer
  rw [mentions_length hwrites, ← hmetas] at hlength
  have hperm := orderStaticAccountMetas_perm state.metas
  have hordered := hperm.length_eq
  have hcount : ∀ p : AggregatedAccountMeta → Bool,
      ¬ 255 < (orderStaticAccountMetas state.metas).countP p := by
    intro p
    have hle : (orderStaticAccountMetas state.metas).countP p ≤ _ := List.countP_le_length
    omega
  unfold MessageCompiler.compileUnversionedMessage
  rw [Except.bind_of_ok haggregate]
  show ∃ message, MessageCompiler.compileMessageBytes .typescript .unversioned input.instructions
    (orderStaticAccountMetas state.metas) [] [] [] [] blockhashInput = .ok message
  generalize hmessageKeys :
    (orderStaticAccountMetas state.metas).map (·.address) ++ [] ++ [] = keys
  have hkeys : keys.length ≤ 256 := by
    rw [← hmessageKeys, List.append_nil, List.append_nil, List.length_map]
    omega
  have hmem : ∀ instruction ∈ instructions, ∀ mention ∈ instruction.mentions,
      mention.address ∈ keys := by
    intro instruction hinstruction mention hmention
    rw [← hmessageKeys, List.append_nil, List.append_nil, (hperm.map _).mem_iff, hmetas,
      hspec.mem_iff]
    exact .inr ⟨mention, List.mem_flatMap.2 ⟨instruction, hinstruction, hmention⟩, rfl⟩
  obtain ⟨chunks, hchunks⟩ := Except.exists_mapM fun text htext => by
    obtain ⟨instruction, hinstruction, hwritten⟩ := forall₂_exists_left hwrites text htext
    exact compileInstruction_of_mem hkeys hwritten (hmem instruction hinstruction)
  unfold MessageCompiler.compileMessageBytes
  dsimp only
  rw [hmessageKeys, if_neg (by omega), if_neg (by simp only [hcount, or_self,
    not_false_eq_true]), if_neg (by omega)]
  exact ⟨_, Except.bind_eq_ok.2 ⟨_, encodeShortVectorLength_ok
    (MessageCompiler.isSafeInteger_of_keyCount (by rw [List.length_map]; omega)),
    Except.bind_eq_ok.2 ⟨_, h.recentBlockhash, Except.bind_eq_ok.2
      ⟨_, encodeShortVectorLength_ok input.instructions_safe, Except.bind_eq_ok.2 ⟨_, hchunks,
        Except.bind_eq_ok.2 ⟨_, rfl, rfl⟩⟩⟩⟩⟩⟩

/-- **Which exports are read back**: whatever TypeScript and the web builder compile, the unsigned
transaction is read back exactly when the format has a place for its signers and its lengths. -/
theorem unsignedTransaction_readable_iff (input : InstructionsInput)
    (feePayerInput blockhashInput : PublicKeyInput) :
    (∀ message, MessageCompiler.typescript.compileUnversionedMessage input feePayerInput
        blockhashInput = .ok message →
      ∃ instructions feePayer recentBlockhash transaction,
        StandsFor input feePayerInput blockhashInput instructions feePayer recentBlockhash ∧
        createUnsignedTransaction message = .ok transaction ∧
        (ReadsBack instructions feePayer recentBlockhash message.accountKeys transaction ↔
          FitsFormat instructions feePayer)) ∧
    ∀ message, webCompileUnversionedMessage input feePayerInput blockhashInput = .ok message →
      ∃ instructions feePayer recentBlockhash transaction,
        StandsFor input feePayerInput blockhashInput instructions feePayer recentBlockhash ∧
        webCreateUnsignedTransaction message = .ok transaction ∧
        (ReadsBack instructions feePayer recentBlockhash message.accountKeys transaction ↔
          FitsFormat instructions feePayer) := by
  constructor
  · intro message hmessage
    obtain ⟨instructions, feePayer, parts, hstands, hparts, hbytes, hrequired, hkeys, -⟩ :=
      compileUnversionedMessage_wire hmessage
    refine ⟨instructions, feePayer, parts.recentBlockhash, parts.transaction, hstands, ?_, ?_⟩
    · rw [createUnsignedTransaction, hbytes, hrequired]
      exact MessageParts.serializeTransaction_zero hparts.checked
    · rw [hkeys]
      exact hparts.readsBack_iff
  · intro message hmessage
    obtain ⟨instructions, feePayer, parts, hstands, hparts, hbytes, hrequired, hkeys⟩ :=
      webCompileUnversionedMessage_wire hmessage
    refine ⟨instructions, feePayer, parts.recentBlockhash, parts.transaction, hstands, ?_, ?_⟩
    · have hle := hparts.checked.required
      rw [webCreateUnsignedTransaction, hbytes, hrequired, Except.bind_of_ok
        (encodeShortVectorLength_ok (MessageCompiler.isSafeInteger_of_keyCount (by omega)))]
      dsimp only
      rw [List.append_assoc]
      rfl
    · rw [hkeys]
      exact hparts.readsBack_iff

/-! ## A message of 128 signers -/

/-- An address per number. -/
def signerKey (n : Nat) : PublicKey where
  bytes := List.replicate 31 0 ++ [UInt8.ofNat n]
  length_eq := rfl

/-- The accounts of the fee payer's 127 cosigners. -/
def cosigners : List SolanaInstructionAccountMeta :=
  (List.range 127).map fun n => ⟨signerKey (n + 1), true, false⟩

def cosignedInstruction : SolanaInstruction := ⟨signerKey 200, cosigners, []⟩

def cosignedInput : InstructionsInput where
  instructions := [{
    programAddress := (signerKey 200).toBase58
    accounts := cosigners.map .of
    data := []
    accounts_safe := by simp [cosigners, isSafeInteger, maxSafeInteger]
    data_safe := rfl }]
  instructions_safe := rfl

theorem cosigned_standsFor : StandsFor cosignedInput (.bytes (signerKey 0).bytes)
    (.bytes (signerKey 9).bytes) [cosignedInstruction] (signerKey 0) (signerKey 9) where
  instructions := .cons ⟨rfl, rfl, rfl⟩ .nil
  feePayer := publicKeyFromBytes_bytes (signerKey 0)
  recentBlockhash := publicKeyFromBytes_bytes (signerKey 9)

theorem signerKey_injective {n m : Nat} (hn : n < 256) (hm : m < 256)
    (h : signerKey n = signerKey m) : n = m := by
  have hbytes : List.replicate 31 0 ++ [UInt8.ofNat n] = List.replicate 31 0 ++ [UInt8.ofNat m] :=
    congrArg PublicKey.bytes h
  have hlast := List.singleton_inj.1 (List.append_cancel_left hbytes)
  rw [← ofNat_toNat hn, ← ofNat_toNat hm, hlast]

theorem cosigned_requiredSigners :
    (requiredSigners [cosignedInstruction] (signerKey 0)).length = 128 := by
  have hsigners : signerKey 0 :: ((([cosignedInstruction].flatMap (·.accounts)).filter
      (·.isSigner)).map (·.address)) = (List.range 128).map signerKey := by
    rw [List.range_succ_eq_map]
    simp [cosignedInstruction, cosigners, List.filter_map, Function.comp_def]
  have hnodup : ((List.range 128).map signerKey).Nodup := by
    refine List.Nodup.map_on (fun n hn m hm => ?_) List.nodup_range
    rw [List.mem_range] at hn hm
    exact signerKey_injective (by omega) (by omega)
  rw [requiredSigners, hsigners, hnodup.dedup, List.length_map, List.length_range]

/-- **128 signers are exported and not read back.** -/
theorem unsignedTransaction_unreadable : ∃ message transaction,
    MessageCompiler.typescript.compileUnversionedMessage cosignedInput
      (.bytes (signerKey 0).bytes) (.bytes (signerKey 9).bytes) = .ok message ∧
    createUnsignedTransaction message = .ok transaction ∧
    ∀ instructions feePayer recentBlockhash, StandsFor cosignedInput (.bytes (signerKey 0).bytes)
      (.bytes (signerKey 9).bytes) instructions feePayer recentBlockhash →
      ¬ ReadsBack instructions feePayer recentBlockhash message.accountKeys transaction := by
  obtain ⟨message, hmessage⟩ :=
    compileUnversionedMessage_of_mentions cosigned_standsFor (by decide +kernel)
  obtain ⟨instructions, feePayer, parts, hstands, hparts, hbytes, hrequired, hkeys, -⟩ :=
    compileUnversionedMessage_wire hmessage
  refine ⟨message, parts.transaction, hmessage, ?_, fun _ _ _ hother hread => ?_⟩
  · rw [createUnsignedTransaction, hbytes, hrequired]
    exact MessageParts.serializeTransaction_zero hparts.checked
  · obtain ⟨rfl, rfl, rfl⟩ := hstands.unique hother
    rw [hkeys, hparts.readsBack_iff] at hread
    obtain ⟨rfl, rfl, -⟩ := hstands.unique cosigned_standsFor
    have hsigners := hread.signers
    rw [cosigned_requiredSigners] at hsigners
    omega

end Chancery
