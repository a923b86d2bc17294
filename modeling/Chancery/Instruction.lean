import Chancery.Account
import Chancery.Schema.Instructions

/-!
# Instruction data

Model of the data codec of `typescript/src/ChanceryInstruction.ts`: two discriminator bytes and
the arguments.

* `encodeChanceryInstructionData`, `decodeChanceryInstructionData`.
* `decodeInstructionData_encode`, `encodeInstructionData_decode` — the two are inverse.
* `schemaCodecs_exact` — accounts and instructions together, with the names.
-/

set_option autoImplicit false

namespace Chancery

/-- Decoded instruction data. -/
structure DecodedInstructionData where
  name : String
  arguments : StructValues

/-- The schema of an instruction. -/
def getInstructionSchema (instructionName : String) : Except String InstructionSchema :=
  match instructionSchemas.lookup instructionName with
  | some schema => .ok schema
  | none => .error s!"Unknown Chancery instruction: {instructionName}"

/-- The bytes in decimal, joined by colons; two keys are equal exactly when the bytes are. -/
def discriminatorKey (discriminator : Bytes) : String :=
  ":".intercalate (discriminator.map fun byte => toString byte.toNat)

/-- The schema whose discriminator the data has. -/
def instructionByDiscriminator (data : Bytes) : Except String (String × InstructionSchema) :=
  if data.length < Schema.instructionDiscriminatorBytes then
    .error "Instruction data is shorter than the Chancery discriminator"
  else
    let actual := data.take Schema.instructionDiscriminatorBytes
    match instructionSchemas.find? fun entry => entry.2.discriminator == actual with
    | some entry => .ok entry
    | none => .error s!"Unknown Chancery instruction discriminator: {discriminatorKey actual}"

/-- The data of an instruction. -/
def encodeInstructionDataWith (D : Dialect) (instructionName : String)
    (argumentValues : StructValues) : Except String Bytes := do
  let instructionSchema ← getInstructionSchema instructionName
  let arguments ← encodeStructWith D instructionSchema.args argumentValues
    s!"instructions.{instructionName}.arguments" false
  return instructionSchema.discriminator ++ arguments

def encodeChanceryInstructionData := encodeInstructionDataWith typescript

/-- An instruction read from its data. -/
def decodeChanceryInstructionData (data : Bytes) : Except String DecodedInstructionData := do
  let (instructionName, instructionSchema) ← instructionByDiscriminator data
  let reader ← binaryReader data Schema.instructionDiscriminatorBytes
  let (argumentValues, reader) ← decodeStruct instructionSchema.args reader
    s!"instructions.{instructionName}.arguments"
  if reader.length ≠ 0 then
    .error s!"Instruction {instructionName} has {reader.length} trailing bytes"
  else return { name := instructionName, arguments := argumentValues }

/-! ## The table -/

theorem instructionNames_nodup : (instructionSchemas.map Prod.fst).Nodup := by decide +kernel

theorem instructionDiscriminators_nodup :
    (instructionSchemas.map fun entry => entry.2.discriminator).Nodup := by decide +kernel

theorem instructionSchemas_wellFormed : ∀ entry ∈ instructionSchemas,
    entry.2.discriminator.length = Schema.instructionDiscriminatorBytes ∧
      fieldsWellFormed entry.2.args = true := by
  decide +kernel

theorem getInstructionSchema_ok {instructionName : String} {schema : InstructionSchema}
    (h : getInstructionSchema instructionName = .ok schema) :
    (instructionName, schema) ∈ instructionSchemas := by
  unfold getInstructionSchema at h
  split at h
  · rename_i hlookup
    cases h
    exact Table.mem_of_lookup hlookup
  · cases h

theorem getInstructionSchema_of_mem {instructionName : String} {schema : InstructionSchema}
    (h : (instructionName, schema) ∈ instructionSchemas) :
    getInstructionSchema instructionName = .ok schema := by
  rw [getInstructionSchema, Table.lookup_of_mem instructionNames_nodup h]

theorem instructionByDiscriminator_append {entry : String × InstructionSchema}
    (h : entry ∈ instructionSchemas) (arguments : Bytes) :
    instructionByDiscriminator (entry.2.discriminator ++ arguments) = .ok entry := by
  have hlen := (instructionSchemas_wellFormed entry h).1
  have htake : (entry.2.discriminator ++ arguments).take Schema.instructionDiscriminatorBytes =
      entry.2.discriminator := by
    rw [← hlen, List.take_left]
  have hlong : ¬ (entry.2.discriminator ++ arguments).length <
      Schema.instructionDiscriminatorBytes := by
    rw [List.length_append]
    omega
  rw [instructionByDiscriminator, if_neg hlong, htake]
  dsimp only
  rw [Table.find?_tag instructionDiscriminators_nodup h]

theorem instructionByDiscriminator_ok {data : Bytes} {entry : String × InstructionSchema}
    (h : instructionByDiscriminator data = .ok entry) : entry ∈ instructionSchemas ∧
      Schema.instructionDiscriminatorBytes ≤ data.length ∧
      data = entry.2.discriminator ++ data.drop Schema.instructionDiscriminatorBytes := by
  unfold instructionByDiscriminator at h
  split at h
  · cases h
  · rename_i hlong
    dsimp only at h
    split at h
    · rename_i hfind
      cases h
      have heq := List.find?_some hfind
      rw [beq_iff_eq] at heq
      refine ⟨List.mem_of_find?_eq_some hfind, by omega, ?_⟩
      rw [heq, List.take_append_drop]
    · cases h

/-! ## Both directions -/

theorem encodeInstructionData_ok {instructionName : String} {argumentValues : StructValues}
    {data : Bytes} (h : encodeChanceryInstructionData instructionName argumentValues = .ok data) :
    ∃ schema arguments, (instructionName, schema) ∈ instructionSchemas ∧
      encodeStruct schema.args argumentValues s!"instructions.{instructionName}.arguments" false =
        .ok arguments ∧
      data = schema.discriminator ++ arguments := by
  obtain ⟨schema, hschema, hbody⟩ := Except.bind_eq_ok.1 h
  obtain ⟨arguments, harguments, hret⟩ := Except.bind_eq_ok.1 hbody
  cases hret
  exact ⟨schema, arguments, getInstructionSchema_ok hschema, harguments, rfl⟩

/-- **Decoding encoded instruction data** gives the name and the canonical arguments. -/
theorem decodeInstructionData_encode {instructionName : String} {argumentValues : StructValues}
    {data : Bytes} (h : encodeChanceryInstructionData instructionName argumentValues = .ok data) :
    ∃ schema, getInstructionSchema instructionName = .ok schema ∧
      decodeChanceryInstructionData data =
        .ok ⟨instructionName, canonicalStruct typescript schema.args argumentValues false⟩ := by
  obtain ⟨schema, arguments, hmem, harguments, rfl⟩ := encodeInstructionData_ok h
  refine ⟨schema, getInstructionSchema_of_mem hmem, ?_⟩
  have hreader : binaryReader (schema.discriminator ++ arguments)
      Schema.instructionDiscriminatorBytes = .ok arguments := by
    rw [binaryReader, ← (instructionSchemas_wellFormed _ hmem).1, if_neg (by simp), List.drop_left]
  have hstruct := recovers_struct schema.args argumentValues
    s!"instructions.{instructionName}.arguments" s!"instructions.{instructionName}.arguments" false
    arguments harguments []
  rw [List.append_nil] at hstruct
  refine Except.bind_eq_ok.2 ⟨_, instructionByDiscriminator_append hmem arguments, ?_⟩
  exact Except.bind_eq_ok.2 ⟨_, hreader, Except.bind_eq_ok.2 ⟨_, hstruct, rfl⟩⟩

/-- **Encoding decoded instruction data** gives back the bytes it was decoded from. -/
theorem encodeInstructionData_decode {data : Bytes} {instruction : DecodedInstructionData}
    (h : decodeChanceryInstructionData data = .ok instruction) :
    encodeChanceryInstructionData instruction.name instruction.arguments = .ok data := by
  obtain ⟨⟨instructionName, schema⟩, hfind, hbody⟩ := Except.bind_eq_ok.1 h
  obtain ⟨hmem, hlong, hdata⟩ := instructionByDiscriminator_ok hfind
  dsimp only at hbody hmem hdata
  obtain ⟨reader, hreader, hfields⟩ := Except.bind_eq_ok.1 hbody
  obtain ⟨⟨values, rest⟩, hvalues, hrest⟩ := Except.bind_eq_ok.1 hfields
  dsimp only at hrest
  split at hrest
  · cases hrest
  · rename_i hnil
    cases hrest
    obtain rfl : rest = [] := List.eq_nil_of_length_eq_zero (by omega)
    rw [binaryReader, if_neg (by omega)] at hreader
    cases hreader
    obtain ⟨arguments, harguments, hread⟩ := reencodes_struct
      (instructionSchemas_wellFormed _ hmem).2 s!"instructions.{instructionName}.arguments"
      s!"instructions.{instructionName}.arguments" false _ _ _ hvalues
    rw [List.append_nil] at hread
    rw [hread] at hdata
    refine Except.bind_eq_ok.2 ⟨schema, getInstructionSchema_of_mem hmem, ?_⟩
    refine Except.bind_eq_ok.2 ⟨arguments, harguments, ?_⟩
    rw [← hdata]
    rfl

/-- **Over the whole schema** the account codec and the instruction codec are exact: an encoding
decodes to its own name and canonical values, decoded bytes re-encode to themselves, and the
discriminators that the scans dispatch on are pairwise distinct. -/
theorem schemaCodecs_exact :
    (∀ accountName values data, encodeChanceryAccount accountName values = .ok data →
      ∃ schema, getAccountSchema accountName = .ok schema ∧
        decodeChanceryAccount data =
          .ok ⟨accountName, canonicalStruct typescript schema.fields values true⟩) ∧
    (∀ data account, decodeChanceryAccount data = .ok account →
      encodeChanceryAccount account.name account.values = .ok data) ∧
    (∀ accountName values data account, encodeChanceryAccount accountName values = .ok data →
      decodeChanceryAccount data = .ok account → account.name = accountName) ∧
    (accountSchemas.map fun entry => entry.2.discriminator).Nodup ∧
    (∀ instructionName argumentValues data,
      encodeChanceryInstructionData instructionName argumentValues = .ok data →
      ∃ schema, getInstructionSchema instructionName = .ok schema ∧
        decodeChanceryInstructionData data =
          .ok ⟨instructionName, canonicalStruct typescript schema.args argumentValues false⟩) ∧
    (∀ data instruction, decodeChanceryInstructionData data = .ok instruction →
      encodeChanceryInstructionData instruction.name instruction.arguments = .ok data) ∧
    (∀ instructionName argumentValues data instruction,
      encodeChanceryInstructionData instructionName argumentValues = .ok data →
      decodeChanceryInstructionData data = .ok instruction →
        instruction.name = instructionName) ∧
    (instructionSchemas.map fun entry => entry.2.discriminator).Nodup := by
  refine ⟨fun _ _ _ h => decodeAccount_encode h, fun _ _ h => encodeAccount_decode h, ?_,
    accountDiscriminators_nodup, fun _ _ _ h => decodeInstructionData_encode h,
    fun _ _ h => encodeInstructionData_decode h, ?_, instructionDiscriminators_nodup⟩
  · intro accountName values data account henc hdec
    obtain ⟨schema, _, hback⟩ := decodeAccount_encode henc
    rw [decodeChanceryAccount, hback] at hdec
    cases hdec
    rfl
  · intro instructionName argumentValues data instruction henc hdec
    obtain ⟨schema, _, hback⟩ := decodeInstructionData_encode henc
    rw [hback] at hdec
    cases hdec
    rfl

end Chancery
