import Chancery.Snapshots

/-!
# Decoded values

What the two languages hold after decoding the same account: the same values, except that
Python keeps every integer as an `int`.

* `asPython` — a TypeScript value as Python holds it; `decodeType_python`.
* `DecodedAs` — a record that an account decodes to; `DecodedRecord` — in both languages.
* `read_unsigned`, `read_signed`, `read_number`, … — a field of a type reads alike in both
  languages, and within the range of the type.
-/

set_option autoImplicit false

namespace Chancery

mutual
/-- A decoded value as Python holds it. -/
def asPython : Value → Value
  | .number n => .bigint n
  | .array items => .array (itemsAsPython items)
  | .object properties => .object (valuesAsPython properties)
  | v => v

def itemsAsPython : List Value → List Value
  | [] => []
  | item :: items => asPython item :: itemsAsPython items

def valuesAsPython : StructValues → StructValues
  | [] => []
  | (name, v) :: values => (name, asPython v) :: valuesAsPython values
end

@[simp] theorem itemsAsPython_eq_map : ∀ items : List Value, itemsAsPython items = items.map asPython
  | [] => rfl
  | item :: items => by rw [itemsAsPython, itemsAsPython_eq_map items, List.map_cons]

theorem lookup_valuesAsPython (name : String) : ∀ values : StructValues,
    (valuesAsPython values).lookup name = (values.lookup name).map asPython
  | [] => rfl
  | (other, v) :: values => by
    rw [valuesAsPython]
    by_cases h : name = other
    · subst h
      simp [List.lookup]
    · have hne : (name == other) = false := by simpa using h
      simp only [List.lookup, hne]
      exact lookup_valuesAsPython name values

/-- A decoder's result with the value mapped. -/
def mapDecoded {α β : Type} (f : α → β) (result : Except String (α × BinaryReader)) :
    Except String (β × BinaryReader) :=
  result.map fun r => (f r.1, r.2)

theorem mapDecoded_bind {α β γ δ : Type} {f : α → β} {g : γ → δ}
    (x : Except String (α × BinaryReader)) {next : α × BinaryReader → Except String (γ × BinaryReader)}
    {next' : β × BinaryReader → Except String (δ × BinaryReader)}
    (h : ∀ a reader, next' (f a, reader) = mapDecoded g (next (a, reader))) :
    mapDecoded f x >>= next' = mapDecoded g (x >>= next) := by
  cases x with
  | error e => rfl
  | ok r => exact h r.1 r.2

theorem decodeEach_map {α β : Type} {f : α → β}
    {dec : Nat → Bytes → Except String (α × Bytes)} {dec' : Nat → Bytes → Except String (β × Bytes)}
    (h : ∀ index input, dec' index input = mapDecoded f (dec index input)) :
    ∀ count index input, Codec.decodeEach dec' count index input =
      mapDecoded (List.map f) (Codec.decodeEach dec count index input)
  | 0, _, _ => rfl
  | count + 1, index, input => by
    rw [Codec.decodeEach, Codec.decodeEach, h]
    refine mapDecoded_bind _ fun a reader => ?_
    dsimp only
    rw [decodeEach_map h count (index + 1) reader]
    exact mapDecoded_bind _ fun _ _ => rfl

theorem bind_mapDecoded {α γ δ : Type} {g : γ → δ} (x : Except String α)
    {next : α → Except String (γ × BinaryReader)} {next' : α → Except String (δ × BinaryReader)}
    (h : ∀ a, next' a = mapDecoded g (next a)) : x >>= next' = mapDecoded g (x >>= next) := by
  cases x with
  | error e => rfl
  | ok a => exact h a

theorem asPython_integer (width : Nat) (n : Int) :
    asPython (typescript.integer width n) = .bigint n := by
  show asPython (TypeScript.integer width n) = .bigint n
  unfold TypeScript.integer
  split <;> simp [asPython]

theorem decodePrimitive_python (typeName : Primitive) (reader : BinaryReader) (label : String) :
    decodePrimitive python typeName reader label =
      mapDecoded asPython (decodePrimitive typescript typeName reader label) := by
  have hinteger : ∀ (byteLength : Nat) (value : Nat → Int),
      (decodeUnsigned byteLength label reader >>= fun r =>
          pure (python.integer byteLength (value r.1), r.2)) =
        mapDecoded asPython (decodeUnsigned byteLength label reader >>= fun r =>
          pure (typescript.integer byteLength (value r.1), r.2)) := by
    intro byteLength value
    refine bind_mapDecoded _ fun r => ?_
    show Except.ok (Value.bigint (value r.1), r.2) =
      .ok (asPython (typescript.integer byteLength (value r.1)), r.2)
    rw [asPython_integer]
  cases typeName with
  | bool =>
    refine bind_mapDecoded _ fun r => ?_
    dsimp only
    split <;> rfl
  | pubkey => exact bind_mapDecoded _ fun r => rfl
  | i64 => exact hinteger 8 _
  | i128 => exact hinteger 16 _
  | u8 => exact hinteger 1 _
  | u16 => exact hinteger 2 _
  | u32 => exact hinteger 4 _
  | u64 => exact hinteger 8 _
  | u128 => exact hinteger 16 _

theorem decodeItems_python {item : TypeSchema}
    (h : ∀ (reader : BinaryReader) (label : String), decodeTypeWith python item reader label =
      mapDecoded asPython (decodeTypeWith typescript item reader label))
    (length : Nat) (reader : BinaryReader) (label : String) :
    (do let (values, reader) ← Codec.decodeEach
          (fun index input => decodeTypeWith python item input s!"{label}[{index}]") length 0 reader
        return (Value.array values, reader)) =
      mapDecoded asPython (do
        let (values, reader) ← Codec.decodeEach
          (fun index input => decodeTypeWith typescript item input s!"{label}[{index}]")
          length 0 reader
        return (Value.array values, reader)) := by
  rw [decodeEach_map (fun index input => h input _)]
  refine mapDecoded_bind _ fun values reader => ?_
  show Except.ok (Value.array (values.map asPython), reader) =
    .ok (asPython (.array values), reader)
  rw [asPython, itemsAsPython_eq_map]

mutual
/-- **Python decodes what TypeScript decodes**, and fails where it fails. -/
theorem decodeType_python : ∀ (type : TypeSchema) (reader : BinaryReader) (label : String),
    decodeTypeWith python type reader label =
      mapDecoded asPython (decodeTypeWith typescript type reader label)
  | .primitive typeName, reader, label => by
    rw [decodeTypeWith, decodeTypeWith]
    exact decodePrimitive_python typeName reader label
  | .option item, reader, label => by
    rw [decodeTypeWith, decodeTypeWith]
    refine bind_mapDecoded _ fun r => ?_
    dsimp only
    split
    · rfl
    · split
      · rfl
      · exact decodeType_python item r.2 label
  | .array item length, reader, label => by
    rw [decodeTypeWith, decodeTypeWith]
    split
    · exact bind_mapDecoded _ fun r => rfl
    · exact decodeItems_python (decodeType_python item) length reader label
  | .vector item, reader, label => by
    rw [decodeTypeWith, decodeTypeWith]
    refine bind_mapDecoded _ fun r => ?_
    dsimp only
    split
    · exact bind_mapDecoded _ fun r => rfl
    · exact decodeItems_python (decodeType_python item) r.1 r.2 label
  | .defined name fields, reader, label => by
    rw [decodeTypeWith, decodeTypeWith, decodeStruct_python fields]
    exact mapDecoded_bind _ fun values reader => rfl

theorem decodeStruct_python : ∀ (fields : Fields) (reader : BinaryReader) (label : String),
    decodeStructWith python fields reader label =
      mapDecoded valuesAsPython (decodeStructWith typescript fields reader label)
  | [], reader, label => by
    rw [decodeStructWith, decodeStructWith]
    rfl
  | (name, type) :: rest, reader, label => by
    rw [decodeStructWith, decodeStructWith, decodeType_python type]
    refine mapDecoded_bind _ fun v reader => ?_
    dsimp only
    rw [decodeStruct_python rest]
    exact mapDecoded_bind _ fun values reader => rfl
end

/-! ## Accounts -/

/-- The values that a language holds where TypeScript holds these. -/
def Language.values : Language → StructValues → StructValues
  | .typescript, values => values
  | .python, values => valuesAsPython values

theorem lookup_values (L : Language) {values : StructValues} {name : String} {v : Value}
    (h : values.lookup name = some v) :
    (L.values values).lookup name = some (match L with
      | .typescript => v
      | .python => asPython v) := by
  cases L with
  | typescript => exact h
  | python => rw [Language.values, lookup_valuesAsPython, h, Option.map_some]

theorem decodeAccount_python (data : Bytes) :
    decodeAccountWith python data = (decodeAccountWith typescript data).map fun decoded =>
      ⟨decoded.name, valuesAsPython decoded.values⟩ := by
  unfold decodeAccountWith
  cases findAccountSchema data with
  | error e => rfl
  | ok entry =>
    dsimp only [Bind.bind, Except.bind]
    split
    · rfl
    · cases binaryReader data Schema.accountDiscriminatorBytes with
      | error e => rfl
      | ok reader =>
        dsimp only
        rw [decodeStruct_python]
        cases decodeStructWith typescript entry.2.fields reader s!"accounts.{entry.1}" with
        | error e => rfl
        | ok result =>
          dsimp only [mapDecoded, Except.map]
          split <;> rfl

/-- A record that an account of the name decodes to. -/
def DecodedAs (L : Language) (accountName : String) (values : StructValues) : Prop :=
  ∃ data, decodeAccountWith L.dialect data = .ok ⟨accountName, values⟩

/-- An account, with the values that each language decodes it to. -/
structure DecodedRecord (accountName : String) where
  data : Bytes
  values : Language → StructValues
  decodes : ∀ L : Language, decodeAccountWith L.dialect data = .ok ⟨accountName, values L⟩

theorem decodedAs_typescript {L : Language} {accountName : String} {values : StructValues}
    (h : DecodedAs L accountName values) :
    ∃ original, DecodedAs .typescript accountName original ∧ values = L.values original := by
  obtain ⟨data, hdata⟩ := h
  cases L with
  | typescript => exact ⟨values, ⟨data, hdata⟩, rfl⟩
  | python =>
    rw [Language.dialect, decodeAccount_python] at hdata
    cases hdecoded : decodeAccountWith typescript data with
    | error e =>
      rw [hdecoded] at hdata
      cases hdata
    | ok decoded =>
      rw [hdecoded] at hdata
      cases hdata
      exact ⟨decoded.values, ⟨data, hdecoded⟩, rfl⟩

theorem DecodedRecord.decodedAs {accountName : String} (record : DecodedRecord accountName)
    (L : Language) : DecodedAs L accountName (record.values L) :=
  ⟨record.data, record.decodes L⟩

/-- The languages decode an account to the same values. -/
theorem DecodedRecord.values_eq {accountName : String} (record : DecodedRecord accountName)
    (L : Language) : record.values L = L.values (record.values .typescript) := by
  cases L with
  | typescript => rfl
  | python =>
    have htypescript : decodeAccountWith typescript record.data = _ := record.decodes .typescript
    have hpython : decodeAccountWith python record.data = _ := record.decodes .python
    rw [decodeAccount_python, htypescript] at hpython
    exact (congrArg DecodedChanceryAccount.values (Except.ok.inj hpython)).symm

/-- The values of an account's data; none when it does not decode. -/
def decodedValues (L : Language) (data : Bytes) : StructValues :=
  ((decodeAccountWith L.dialect data).toOption.map (·.values)).getD []

theorem decodeAccount_decodedValues {L : Language} {accountName : String} {data : Bytes}
    (h : (decodeAccountWith L.dialect data).toOption.any (·.name == accountName) = true) :
    decodeAccountWith L.dialect data = .ok ⟨accountName, decodedValues L data⟩ := by
  unfold decodedValues
  cases hdecoded : decodeAccountWith L.dialect data with
  | error e =>
    rw [hdecoded] at h
    cases h
  | ok decoded =>
    rw [hdecoded] at h
    have hname : decoded.name = accountName := by simpa [Except.toOption] using h
    rw [← hname]
    rfl

/-! ## Fields -/

/-- The type of an account's field. -/
def fieldType (accountName fieldName : String) : Option TypeSchema :=
  (accountSchemas.lookup accountName).bind fun schema => schema.fields.lookup fieldName

theorem decodeStruct_field {D : Dialect} : ∀ {fields : Fields} {reader rest : BinaryReader}
    {label : String} {values : StructValues} {name : String} {type : TypeSchema},
    decodeStructWith D fields reader label = .ok (values, rest) →
    fields.lookup name = some type →
      ∃ v reader' rest' label', values.lookup name = some v ∧
        decodeTypeWith D type reader' label' = .ok (v, rest')
  | [], _, _, _, _, _, _, _, htype => by cases htype
  | (other, otherType) :: fields, reader, rest, label, values, name, type, h, htype => by
    rw [decodeStructWith] at h
    obtain ⟨⟨v, reader'⟩, hv, h⟩ := Except.bind_eq_ok.1 h
    obtain ⟨⟨vs, rest'⟩, hvs, h⟩ := Except.bind_eq_ok.1 h
    cases h
    by_cases hname : name = other
    · subst hname
      have hsome : otherType = type := by simpa [List.lookup] using htype
      subst hsome
      exact ⟨v, reader, reader', _, by simp [List.lookup], hv⟩
    · have hne : (name == other) = false := by simpa using hname
      simp only [List.lookup, hne] at htype ⊢
      exact decodeStruct_field hvs htype

/-- A field was decoded by its type. -/
theorem decodedAs_field {accountName fieldName : String} {values : StructValues}
    {type : TypeSchema} (h : DecodedAs .typescript accountName values)
    (htype : fieldType accountName fieldName = some type) :
    ∃ v reader rest label, values.lookup fieldName = some v ∧
      decodeTypeWith typescript type reader label = .ok (v, rest) := by
  obtain ⟨data, hdata⟩ := h
  obtain ⟨entry, hentry, h⟩ := Except.bind_eq_ok.1 hdata
  dsimp only at h
  split at h
  · cases h
  · obtain ⟨reader, -, h⟩ := Except.bind_eq_ok.1 h
    obtain ⟨⟨decoded, rest⟩, hdecoded, h⟩ := Except.bind_eq_ok.1 h
    dsimp only at h
    split at h
    · cases h
    · cases h
      have hmem := (findAccountSchema_ok hentry).1
      rw [fieldType, Table.lookup_of_mem accountNames_nodup hmem] at htype
      exact decodeStruct_field hdecoded htype

/-! ## Typed reads -/

section

variable {accountName fieldName : String} {values : StructValues}

theorem typescript_integer_wide (width : Nat) (hwidth : 4 < width) (n : Int) :
    typescript.integer width n = .bigint n := by
  show TypeScript.integer width n = .bigint n
  rw [TypeScript.integer, if_neg (by omega)]

theorem typescript_integer_narrow (width : Nat) (hwidth : width ≤ 4) (n : Int) :
    typescript.integer width n = .number n := by
  show TypeScript.integer width n = .number n
  rw [TypeScript.integer, if_pos hwidth]

theorem requireBigIntField_of_lookup {n : Int} (h : values.lookup fieldName = some (.bigint n))
    (L : Language) : requireBigIntField L (L.values values) fieldName = .ok n := by
  have hlookup := lookup_values L h
  cases L <;> simp only [requireBigIntField, hlookup, asPython]

theorem requireNumberField_of_lookup {n : Int} (h : values.lookup fieldName = some (.number n))
    (hsafe : isSafeInteger n = true) (L : Language) :
    requireNumberField L (L.values values) fieldName = .ok n := by
  have hlookup := lookup_values L h
  cases L <;> simp [requireNumberField, requireBigIntField, hlookup, asPython, hsafe]

theorem read_unsigned (fieldName : String) (h : DecodedAs .typescript accountName values)
    (htype : fieldType accountName fieldName = some (.primitive .u64)) :
    ∃ n : Nat, n < 2 ^ 64 ∧ ∀ L : Language,
      requireBigIntField L (L.values values) fieldName = .ok (n : Int) := by
  obtain ⟨v, reader, rest, label, hlookup, hdecode⟩ := decodedAs_field h htype
  rw [decodeTypeWith] at hdecode
  obtain ⟨⟨n, reader'⟩, hn, hv⟩ := Except.bind_eq_ok.1 hdecode
  cases hv
  rw [typescript_integer_wide 8 (by decide)] at hlookup
  exact ⟨n, (decodeUnsigned_ok hn).1, requireBigIntField_of_lookup hlookup⟩

theorem read_signed (fieldName : String) (h : DecodedAs .typescript accountName values)
    (htype : fieldType accountName fieldName = some (.primitive .i64)) :
    ∃ n : Int, ∀ L : Language, requireBigIntField L (L.values values) fieldName = .ok n := by
  obtain ⟨v, reader, rest, label, hlookup, hdecode⟩ := decodedAs_field h htype
  rw [decodeTypeWith] at hdecode
  obtain ⟨⟨n, reader'⟩, hn, hv⟩ := Except.bind_eq_ok.1 hdecode
  cases hv
  rw [typescript_integer_wide 8 (by decide)] at hlookup
  exact ⟨_, requireBigIntField_of_lookup hlookup⟩

/-- The byte length of an unsigned type that TypeScript decodes to a `number`. -/
def numberLength : Primitive → Option Nat
  | .u8 => some 1
  | .u16 => some 2
  | .u32 => some 4
  | _ => none

theorem read_number (fieldName : String) {typeName : Primitive} {byteLength : Nat}
    (h : DecodedAs .typescript accountName values)
    (htype : fieldType accountName fieldName = some (.primitive typeName))
    (hlength : numberLength typeName = some byteLength) :
    ∃ n : Nat, n < 2 ^ (8 * byteLength) ∧ ∀ L : Language,
      requireNumberField L (L.values values) fieldName = .ok (n : Int) := by
  obtain ⟨v, reader, rest, label, hlookup, hdecode⟩ := decodedAs_field h htype
  rw [decodeTypeWith] at hdecode
  have hunsigned : decodeUnsignedInteger typescript byteLength label reader = .ok (v, rest) ∧
      byteLength ≤ 4 := by
    cases typeName <;> cases hlength <;> exact ⟨hdecode, by decide⟩
  obtain ⟨⟨n, reader'⟩, hn, hv⟩ := Except.bind_eq_ok.1 hunsigned.1
  cases hv
  rw [typescript_integer_narrow byteLength hunsigned.2] at hlookup
  have hbound := (decodeUnsigned_ok hn).1
  have hsafe : isSafeInteger (n : Int) = true :=
    TypeScript.isSafeInteger_of_width hunsigned.2 (by
      have hpow : (0 : Int) ≤ 2 ^ (8 * byteLength) := by positivity
      omega) (by exact_mod_cast hbound)
  exact ⟨n, hbound, requireNumberField_of_lookup hlookup hsafe⟩

theorem read_bytes (fieldName : String) {length : Nat} (h : DecodedAs .typescript accountName values)
    (htype : fieldType accountName fieldName = some (.array (.primitive .u8) length)) :
    ∃ bytes : Bytes, bytes.length = length ∧ ∀ (L : Language) (label : String),
      requireBytes ((L.values values).lookup fieldName) label length = .ok bytes := by
  obtain ⟨v, reader, rest, label, hlookup, hdecode⟩ := decodedAs_field h htype
  rw [decodeTypeWith, if_pos (by rfl : (TypeSchema.primitive .u8).isU8 = true)] at hdecode
  obtain ⟨⟨bytes, reader'⟩, hbytes, hv⟩ := Except.bind_eq_ok.1 hdecode
  cases hv
  have hlength := (readBytes_ok hbytes).1
  refine ⟨bytes, hlength, fun L label => ?_⟩
  have hvalues := lookup_values L hlookup
  cases L <;> simp [requireBytes, hvalues, asPython, hlength]

theorem read_publicKey (fieldName : String) (h : DecodedAs .typescript accountName values)
    (htype : fieldType accountName fieldName = some (.primitive .pubkey)) :
    ∃ key : PublicKey, ∀ L : Language,
      requirePublicKeyField (L.values values) fieldName = .ok key := by
  obtain ⟨v, reader, rest, label, hlookup, hdecode⟩ := decodedAs_field h htype
  rw [decodeTypeWith] at hdecode
  obtain ⟨⟨bytes, reader'⟩, hbytes, hv⟩ := Except.bind_eq_ok.1 hdecode
  cases hv
  refine ⟨⟨bytes, (readBytes_ok hbytes).1⟩, fun L => ?_⟩
  have hvalues := lookup_values L hlookup
  have hkey : decodePublicKey (encodeBase58 bytes) = .ok ⟨bytes, (readBytes_ok hbytes).1⟩ :=
    decodePublicKey_toBase58 ⟨bytes, (readBytes_ok hbytes).1⟩
  cases L <;> simpa only [requirePublicKeyField, hvalues, asPython] using hkey

theorem decodeWords {dec : Nat → Bytes → Except String (Value × Bytes)}
    (hdec : ∀ index input v rest, dec index input = .ok (v, rest) →
      ∃ n : Nat, n < 2 ^ 64 ∧ v = .bigint n) :
    ∀ {count index : Nat} {input rest : Bytes} {items : List Value},
      Codec.decodeEach dec count index input = .ok (items, rest) →
        ∃ words : List Nat, (∀ word ∈ words, word < 2 ^ 64) ∧
          items = words.map fun word : Nat => Value.bigint word
  | 0, _, _, _, _, h => by
    cases h
    exact ⟨[], by simp, rfl⟩
  | count + 1, index, input, rest, items, h => by
    obtain ⟨v, items', input', hv, hitems, rfl⟩ := Codec.decodeEach_succ h
    obtain ⟨word, hword, rfl⟩ := hdec index input v input' hv
    obtain ⟨words, hwords, rfl⟩ := decodeWords hdec hitems
    exact ⟨word :: words, by simpa using ⟨hword, hwords⟩, rfl⟩

theorem requireBigIntItems_words (fieldName : String) (L : Language) (words : List Nat) : ∀ index : Nat,
    requireBigIntItems L fieldName index (words.map fun word : Nat => Value.bigint word) =
      .ok (words.map fun word : Nat => (word : Int)) := by
  induction words with
  | nil => exact fun _ => rfl
  | cons word words ih =>
    intro index
    rw [List.map_cons, requireBigIntItems, ih (index + 1)]
    rfl

theorem read_words (fieldName : String) {length : Nat} (h : DecodedAs .typescript accountName values)
    (htype : fieldType accountName fieldName = some (.array (.primitive .u64) length)) :
    ∃ words : List Nat, words.length = length ∧ (∀ word ∈ words, word < 2 ^ 64) ∧
      ∀ L : Language, requireBigIntArrayField L (L.values values) fieldName length =
        .ok (words.map fun word : Nat => (word : Int)) := by
  obtain ⟨v, reader, rest, label, hlookup, hdecode⟩ := decodedAs_field h htype
  rw [decodeTypeWith, if_neg (by decide)] at hdecode
  obtain ⟨⟨items, reader'⟩, hitems, hv⟩ := Except.bind_eq_ok.1 hdecode
  cases hv
  have hlength := Codec.decodeEach_length hitems
  obtain ⟨words, hwords, rfl⟩ := decodeWords (by
    intro index input v rest hitem
    rw [decodeTypeWith] at hitem
    obtain ⟨⟨n, input'⟩, hn, hv⟩ := Except.bind_eq_ok.1 hitem
    cases hv
    exact ⟨n, (decodeUnsigned_ok hn).1, typescript_integer_wide 8 (by decide) n⟩) hitems
  rw [List.length_map] at hlength
  refine ⟨words, hlength, hwords, fun L => ?_⟩
  have hvalues := lookup_values L hlookup
  have hread := requireBigIntItems_words fieldName L words 0
  cases L <;> simp only [requireBigIntArrayField, hvalues, asPython, itemsAsPython_eq_map,
    List.map_map, List.length_map, hlength, ne_eq, not_true_eq_false, if_false]
  · exact hread
  · exact hread

end

end Chancery
