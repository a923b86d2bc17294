import Chancery.Value
import Chancery.Lib.Codec
import Chancery.Lib.LittleEndian

/-!
# The binary codec

Model of `typescript/src/BinaryCodec.ts` and `python/chancery_reference/binary_codec.py`.  The
two files walk a schema in the same way and differ in which dynamic values they take for an
integer, for bytes, for an array or a record, and in the values they build.  A `Dialect` is that
difference; the walk is written once.

* `TypeSchema` — a `defined` type carries the fields its name stands for.
* `Dialect`, `typescript`, `python` — with the laws that make a decoded value acceptable again.
* `encodeTypeWith`, `decodeTypeWith`, `encodeStructWith`, `decodeStructWith` — the walk;
  `encodeType`, `pythonEncodeType` and so on are its two instances.
-/

set_option autoImplicit false

namespace Chancery

/-! ## Schemas -/

/-- The primitive types of the schema. -/
inductive Primitive where
  | u8 | u16 | u32 | u64 | u128 | i64 | i128 | bool | pubkey
  deriving DecidableEq

/-- The types of the schema. -/
inductive TypeSchema where
  | primitive (typeName : Primitive)
  | option (item : TypeSchema)
  | array (item : TypeSchema) (length : Nat)
  | vector (item : TypeSchema)
  | defined (name : String) (fields : List (String × TypeSchema))

/-- The fields of a struct in wire order. -/
abbrev Fields := List (String × TypeSchema)

def TypeSchema.isU8 : TypeSchema → Bool
  | .primitive .u8 => true
  | _ => false

def TypeSchema.isOption : TypeSchema → Bool
  | .option _ => true
  | _ => false

/-- A record's own properties. -/
abbrev StructValues := List (String × Value)

/-! ## Dialects -/

/-- What a language takes for each kind of value, and what it builds. -/
structure Dialect where
  integerFromValue : Value → String → Except String Int
  bytesFromValue : Value → String → Except String Bytes
  arrayFromValue : Value → String → Except String (List Value)
  recordFromValue : Value → String → Except String StructValues
  /-- The value supplied for a field, `none` when the language counts it as missing. -/
  fieldValue : StructValues → String → Option Value
  /-- The value that reading a missing field gives. -/
  absent : Value
  /-- Is the value encoded as an absent option? -/
  isNull : Value → Bool
  /-- An integer read from so many bytes. -/
  integer : Nat → Int → Value
  /-- The integer `0` of `zeroValueForType`. -/
  zeroInteger : Value
  integerFromValue_integer : ∀ (width : Nat) (n : Int) (label : String),
    -(2 ^ (8 * width)) ≤ n → n < 2 ^ (8 * width) →
      integerFromValue (integer width n) label = .ok n
  bytesFromValue_bytes : ∀ b label, bytesFromValue (.bytes b) label = .ok b
  arrayFromValue_array : ∀ vs label, arrayFromValue (.array vs) label = .ok vs
  recordFromValue_object : ∀ fields label, recordFromValue (.object fields) label = .ok fields
  fieldValue_lookup : ∀ {values : StructValues} {name : String} {v : Value},
    values.lookup name = some v → v ≠ .undefined → fieldValue values name = some v
  integerFromValue_ok : ∀ {width n label m},
    integerFromValue (integer width n) label = .ok m → m = n
  integer_ne : ∀ width n, integer width n ≠ .undefined ∧ integer width n ≠ .null
  isNull_null : isNull .null = true
  isNull_absent : isNull absent = true
  isNull_cases : ∀ {v}, isNull v = true → v = .undefined ∨ v = .null
  /-- A label only names the value in an error. -/
  integerFromValue_label : ∀ {v label n} label', integerFromValue v label = .ok n →
    integerFromValue v label' = .ok n
  bytesFromValue_label : ∀ {v label b} label', bytesFromValue v label = .ok b →
    bytesFromValue v label' = .ok b
  arrayFromValue_label : ∀ {v label vs} label', arrayFromValue v label = .ok vs →
    arrayFromValue v label' = .ok vs
  recordFromValue_label : ∀ {v label fields} label', recordFromValue v label = .ok fields →
    recordFromValue v label' = .ok fields

namespace TypeScript

/-- An integer, as TypeScript takes it from a value. -/
def integerFromValue (value : Value) (label : String) : Except String Int :=
  let rejected : Except String Int :=
    .error s!"{label} must be a bigint, safe integer, or decimal integer string"
  match value with
  | .bigint n => .ok n
  | .number n => if isSafeInteger n then .ok n else rejected
  | .string text => match parseDecimal text with
    | some n => .ok n
    | none => rejected
  | _ => rejected

/-- An element of an unsigned-byte array. -/
def byteFromValue (label : String) (index : Nat) (value : Value) : Except String Bytes :=
  match value with
  | .number n =>
    if n < 0 ∨ 255 < n then .error s!"{label}[{index}] must be an unsigned byte"
    else .ok [UInt8.ofNat n.toNat]
  | _ => .error s!"{label}[{index}] must be an unsigned byte"

/-- Bytes, as TypeScript takes them from a value. -/
def bytesFromValue (value : Value) (label : String) : Except String Bytes :=
  let rejected : Except String Bytes :=
    .error s!"{label} must be Uint8Array, an unsigned-byte array, 0x-prefixed hexadecimal, or base64-prefixed data"
  match value with
  | .bytes b => .ok b
  | .array items => Codec.encodeEach (byteFromValue label) 0 items
  | .string text =>
    if text.startsWith "0x" then decodeHex text
    else if text.startsWith "base64:" then decodeBase64 (dropPrefix "base64:" text)
    else rejected
  | _ => rejected

/-- The fields of an object. -/
def recordFromValue (value : Value) (label : String) : Except String StructValues :=
  match value with
  | .object fields => .ok fields
  | _ => .error s!"{label} must be an object"

/-- The items of an array. -/
def arrayFromValue (value : Value) (label : String) : Except String (List Value) :=
  match value with
  | .array items => .ok items
  | _ => .error s!"{label} must be an array"

/-- `values[name]`, with `undefined` standing for a missing property. -/
def fieldValue (values : StructValues) (name : String) : Option Value :=
  match values.lookup name with
  | none => none
  | some .undefined => none
  | some v => some v

/-- Whether an option is left empty. -/
def isNull : Value → Bool
  | .null => true
  | .undefined => true
  | _ => false

/-- Up to four bytes are read as a `number`, more as a `bigint`. -/
def integer (width : Nat) (n : Int) : Value := if width ≤ 4 then .number n else .bigint n

theorem isSafeInteger_of_width {width : Nat} {n : Int} (hw : width ≤ 4)
    (hlo : -(2 ^ (8 * width)) ≤ n) (hhi : n < 2 ^ (8 * width)) : isSafeInteger n = true := by
  have hpow : (2 : Int) ^ (8 * width) ≤ 2 ^ 32 :=
    pow_le_pow_right₀ (by omega) (by omega)
  have h32 : (2 : Int) ^ 32 = 4294967296 := by norm_num
  have hmax : maxSafeInteger = 9007199254740991 := by decide
  rw [isSafeInteger, decide_eq_true_eq, hmax]
  omega

theorem integerFromValue_label {v : Value} {label : String} {n : Int} (label' : String)
    (h : integerFromValue v label = .ok n) : integerFromValue v label' = .ok n := by
  unfold integerFromValue at h ⊢
  split at h <;> try split at h
  all_goals simp_all

theorem byteFromValue_label {label : String} (label' : String) {index : Nat} {v : Value}
    {b : Bytes} (h : byteFromValue label index v = .ok b) :
    byteFromValue label' index v = .ok b := by
  unfold byteFromValue at h ⊢
  split at h <;> try split at h
  all_goals simp_all

theorem bytesFromValue_label {v : Value} {label : String} {b : Bytes} (label' : String)
    (h : bytesFromValue v label = .ok b) : bytesFromValue v label' = .ok b := by
  unfold bytesFromValue at h ⊢
  split at h
  · exact h
  · exact Codec.encodeEach_mono (fun _ _ _ hb => byteFromValue_label label' hb) h
  · split at h
    · simp_all
    · split at h
      · simp_all
      · cases h
  · cases h

theorem arrayFromValue_label {v : Value} {label : String} {vs : List Value} (label' : String)
    (h : arrayFromValue v label = .ok vs) : arrayFromValue v label' = .ok vs := by
  cases v <;> first | exact h | cases h

theorem recordFromValue_label {v : Value} {label : String} {fields : StructValues}
    (label' : String) (h : recordFromValue v label = .ok fields) :
    recordFromValue v label' = .ok fields := by
  cases v <;> first | exact h | cases h

end TypeScript

/-- `typescript/src/BinaryCodec.ts`. -/
def typescript : Dialect where
  integerFromValue := TypeScript.integerFromValue
  bytesFromValue := TypeScript.bytesFromValue
  arrayFromValue := TypeScript.arrayFromValue
  recordFromValue := TypeScript.recordFromValue
  fieldValue := TypeScript.fieldValue
  absent := .undefined
  isNull := TypeScript.isNull
  integer := TypeScript.integer
  zeroInteger := .number 0
  integerFromValue_integer := by
    intro width n label hlo hhi
    unfold TypeScript.integer
    split
    · rename_i hw
      simp [TypeScript.integerFromValue, TypeScript.isSafeInteger_of_width hw hlo hhi]
    · rfl
  bytesFromValue_bytes := fun _ _ => rfl
  arrayFromValue_array := fun _ _ => rfl
  recordFromValue_object := fun _ _ => rfl
  fieldValue_lookup := by
    intro values name v h hv
    unfold TypeScript.fieldValue
    rw [h]
    cases v <;> first | rfl | exact absurd rfl hv
  integerFromValue_ok := by
    intro width n label m h
    unfold TypeScript.integer at h
    split at h
    · simp only [TypeScript.integerFromValue] at h
      split at h
      · cases h; rfl
      · cases h
    · cases h; rfl
  integer_ne := by
    intro width n
    unfold TypeScript.integer
    split <;> exact ⟨Value.noConfusion, Value.noConfusion⟩
  isNull_null := rfl
  isNull_absent := rfl
  isNull_cases := by
    intro v h
    cases v <;> simp_all [TypeScript.isNull]
  integerFromValue_label := TypeScript.integerFromValue_label
  bytesFromValue_label := TypeScript.bytesFromValue_label
  arrayFromValue_label := TypeScript.arrayFromValue_label
  recordFromValue_label := TypeScript.recordFromValue_label

namespace Python

/-- An integer, as Python takes it from a value. -/
def integerFromValue (value : Value) (label : String) : Except String Int :=
  match value with
  | .boolean _ => .error s!"{label} must be an integer"
  | .bigint n => .ok n
  | .string text =>
    if pythonLooksLikeInteger text then pythonInt text
    else .error s!"{label} must be an integer or decimal integer string"
  | _ => .error s!"{label} must be an integer or decimal integer string"

/-- The elements of a `Sequence` that is no `str`; the elements of `bytes` are integers. -/
def sequenceItems : Value → Option (List Value)
  | .array items => some items
  | .bytes b => some (b.map fun byte => .bigint byte.toNat)
  | _ => none

/-- One item of a byte sequence. -/
def byteFromValue (label : String) (index : Nat) (value : Value) : Except String Bytes :=
  match value with
  | .bigint n =>
    if n < 0 ∨ 255 < n then .error s!"{label}[{index}] must be an unsigned byte"
    else .ok [UInt8.ofNat n.toNat]
  | _ => .error s!"{label}[{index}] must be an unsigned byte"

/-- Bytes, as Python takes them from a value. -/
def bytesFromValue (value : Value) (label : String) : Except String Bytes :=
  let rejected : Except String Bytes :=
    .error s!"{label} must be bytes, an unsigned-byte sequence, 0x-prefixed hexadecimal, or base64-prefixed data"
  match value with
  | .bytes b => .ok b
  | .array items => Codec.encodeEach (byteFromValue label) 0 items
  | .string text =>
    if text.startsWith "0x" then
      match pythonFromHex (dropPrefix "0x" text) with
      | some b => .ok b
      | none => .error s!"{label} contains invalid hexadecimal"
    else if text.startsWith "base64:" then pythonB64decode (dropPrefix "base64:" text)
    else rejected
  | _ => rejected

/-- The items of a sequence. -/
def arrayFromValue (value : Value) (label : String) : Except String (List Value) :=
  match sequenceItems value with
  | some items => .ok items
  | none => .error s!"{label} must be an array"

def recordFromValue (value : Value) (label : String) : Except String StructValues :=
  match value with
  | .object fields => .ok fields
  | _ => .error s!"{label} must be an object"

def isNull : Value → Bool
  | .null => true
  | _ => false

theorem integerFromValue_label {v : Value} {label : String} {n : Int} (label' : String)
    (h : integerFromValue v label = .ok n) : integerFromValue v label' = .ok n := by
  unfold integerFromValue at h ⊢
  split at h <;> try split at h
  all_goals simp_all

theorem byteFromValue_label {label : String} (label' : String) {index : Nat} {v : Value}
    {b : Bytes} (h : byteFromValue label index v = .ok b) :
    byteFromValue label' index v = .ok b := by
  unfold byteFromValue at h ⊢
  split at h <;> try split at h
  all_goals simp_all

theorem bytesFromValue_label {v : Value} {label : String} {b : Bytes} (label' : String)
    (h : bytesFromValue v label = .ok b) : bytesFromValue v label' = .ok b := by
  unfold bytesFromValue at h ⊢
  split at h
  · exact h
  · exact Codec.encodeEach_mono (fun _ _ _ hb => byteFromValue_label label' hb) h
  · split at h
    · split at h
      · simp_all
      · cases h
    · split at h
      · simp_all
      · cases h
  · cases h

theorem arrayFromValue_label {v : Value} {label : String} {vs : List Value} (label' : String)
    (h : arrayFromValue v label = .ok vs) : arrayFromValue v label' = .ok vs := by
  unfold arrayFromValue at h ⊢
  split at h
  · simp_all
  · cases h

theorem recordFromValue_label {v : Value} {label : String} {fields : StructValues}
    (label' : String) (h : recordFromValue v label = .ok fields) :
    recordFromValue v label' = .ok fields := by
  cases v <;> first | exact h | cases h

end Python

/-- `python/chancery_reference/binary_codec.py`: one integer type, and a field is missing when
the mapping has no such key. -/
def python : Dialect where
  integerFromValue := Python.integerFromValue
  bytesFromValue := Python.bytesFromValue
  arrayFromValue := Python.arrayFromValue
  recordFromValue := Python.recordFromValue
  fieldValue := fun values name => values.lookup name
  absent := .null
  isNull := Python.isNull
  integer := fun _ n => .bigint n
  zeroInteger := .bigint 0
  integerFromValue_integer := fun _ _ _ _ _ => rfl
  bytesFromValue_bytes := fun _ _ => rfl
  arrayFromValue_array := fun _ _ => rfl
  recordFromValue_object := fun _ _ => rfl
  fieldValue_lookup := fun h _ => h
  integerFromValue_ok := by
    intro width n label m h
    cases h
    rfl
  integer_ne := fun _ _ => ⟨Value.noConfusion, Value.noConfusion⟩
  isNull_null := rfl
  isNull_absent := rfl
  isNull_cases := by
    intro v h
    cases v <;> simp_all [Python.isNull]
  integerFromValue_label := Python.integerFromValue_label
  bytesFromValue_label := Python.bytesFromValue_label
  arrayFromValue_label := Python.arrayFromValue_label
  recordFromValue_label := Python.recordFromValue_label

/-! ## Encoding -/

section Walk

variable (D : Dialect)

/-- Little-endian bytes of an unsigned integer. -/
def encodeUnsignedInteger (value : Value) (byteLength : Nat) (label : String) :
    Except String Bytes := do
  let integerValue ← D.integerFromValue value label
  if integerValue < 0 ∨ 2 ^ (8 * byteLength) ≤ integerValue then
    .error s!"{label} is outside the unsigned {byteLength * 8}-bit range"
  else
    return LittleEndian.toBytes byteLength integerValue.toNat

/-- Little-endian bytes of a signed integer. -/
def encodeSignedInteger (value : Value) (byteLength : Nat) (label : String) :
    Except String Bytes := do
  let integerValue ← D.integerFromValue value label
  if integerValue < -(2 ^ (8 * byteLength - 1)) ∨ 2 ^ (8 * byteLength - 1) - 1 < integerValue then
    .error s!"{label} is outside the signed {byteLength * 8}-bit range"
  else
    return LittleEndian.toBytes byteLength
      (LittleEndian.wrap (8 * byteLength) integerValue).toNat

/-- A string is base58 here, in any other value the bytes are looked for. -/
def publicKeyBytesFromValue (value : Value) (label : String) : Except String Bytes :=
  match value with
  | .string encoded => decodeBase58 encoded
  | _ => D.bytesFromValue value label

/-- The 32 bytes of an address. -/
def encodePublicKey (value : Value) (label : String) : Except String Bytes := do
  let publicKeyBytes ← publicKeyBytesFromValue D value label
  if publicKeyBytes.length ≠ 32 then .error s!"{label} public key must contain 32 bytes"
  else return publicKeyBytes

/-- Bytes of a primitive. -/
def encodePrimitive (typeName : Primitive) (value : Value) (label : String) :
    Except String Bytes :=
  match typeName with
  | .u8 => encodeUnsignedInteger D value 1 label
  | .u16 => encodeUnsignedInteger D value 2 label
  | .u32 => encodeUnsignedInteger D value 4 label
  | .u64 => encodeUnsignedInteger D value 8 label
  | .u128 => encodeUnsignedInteger D value 16 label
  | .i64 => encodeSignedInteger D value 8 label
  | .i128 => encodeSignedInteger D value 16 label
  | .bool => match value with
    | .boolean b => .ok [if b then 1 else 0]
    | _ => .error s!"{label} must be a boolean"
  | .pubkey => encodePublicKey D value label

/-- The four-byte length prefix of a vector. -/
def encodeLength (length : Nat) (label : String) : Except String Bytes :=
  encodeUnsignedInteger D (D.integer 4 length) 4 s!"{label}.length"

mutual
/-- The zero value of a type. -/
def zeroValueForTypeWith : TypeSchema → Value
  | .primitive .bool => .boolean false
  | .primitive .pubkey => .bytes (List.replicate 32 0)
  | .primitive _ => D.zeroInteger
  | .option _ => .null
  | .vector item => if item.isU8 then .bytes [] else .array []
  | .array item length =>
    if item.isU8 then .bytes (List.replicate length 0)
    else .array (List.replicate length (zeroValueForTypeWith item))
  | .defined _ fields => .object (zeroValuesForFields fields)

/-- The zero value of every field. -/
def zeroValuesForFields : Fields → StructValues
  | [] => []
  | (name, type) :: rest => (name, zeroValueForTypeWith type) :: zeroValuesForFields rest
end

/-- Fields that may be left out of an account's values. -/
def isPaddingName (name : String) : Bool :=
  name.startsWith "_pad" || name.startsWith "_reserved"

/-- The value to encode for a field: the supplied one, else zero for padding where asked. -/
def fieldValueOrPadding (defaultMissingPadding : Bool) (values : StructValues) (name : String)
    (type : TypeSchema) : Option Value :=
  match D.fieldValue values name with
  | some v => some v
  | none =>
    if defaultMissingPadding && isPaddingName name then some (zeroValueForTypeWith D type)
    else none

/-- The value a struct encodes for a field; only an option may be missing. -/
def fieldToEncode (defaultMissingPadding : Bool) (values : StructValues) (name : String)
    (type : TypeSchema) (label : String) : Except String Value :=
  match fieldValueOrPadding D defaultMissingPadding values name type with
  | some v => .ok v
  | none => if type.isOption then .ok D.absent else .error s!"{label}.{name} is required"

mutual
/-- Bytes of a value at a type. -/
def encodeTypeWith : TypeSchema → Value → String → Except String Bytes
  | .primitive typeName, value, label => encodePrimitive D typeName value label
  | .option item, value, label =>
    if D.isNull value then .ok [0]
    else do
      let encoded ← encodeTypeWith item value label
      return 1 :: encoded
  | .array item length, value, label =>
    if item.isU8 then do
      let bytes ← D.bytesFromValue value label
      if bytes.length ≠ length then .error s!"{label} must contain exactly {length} bytes"
      else return bytes
    else do
      let values ← D.arrayFromValue value label
      if values.length ≠ length then .error s!"{label} must contain exactly {length} items"
      else
        Codec.encodeEach
          (fun index itemValue => encodeTypeWith item itemValue s!"{label}[{index}]") 0 values
  | .vector item, value, label =>
    if item.isU8 then do
      let bytes ← D.bytesFromValue value label
      let length ← encodeLength D bytes.length label
      return length ++ bytes
    else do
      let values ← D.arrayFromValue value label
      let length ← encodeLength D values.length label
      let items ← Codec.encodeEach
        (fun index itemValue => encodeTypeWith item itemValue s!"{label}[{index}]") 0 values
      return length ++ items
  | .defined _ fields, value, label => do
    let values ← D.recordFromValue value label
    encodeStructWith fields values label false

/-- Bytes of a struct's fields; padding may be left out. -/
def encodeStructWith : Fields → StructValues → String → Bool → Except String Bytes
  | [], _, _, _ => .ok []
  | (name, type) :: rest, values, label, defaultMissingPadding => do
    let fieldValue ← fieldToEncode D defaultMissingPadding values name type label
    let encoded ← encodeTypeWith type fieldValue s!"{label}.{name}"
    let encodedRest ← encodeStructWith rest values label defaultMissingPadding
    return encoded ++ encodedRest
end

/-! ## Decoding -/

/-- The bytes from a reader's offset on. -/
abbrev BinaryReader := Bytes

/-- `new BinaryReader(bytes, offset)`. -/
def binaryReader (bytes : Bytes) (offset : Nat) : Except String BinaryReader :=
  if bytes.length < offset then .error "BinaryReader offset is outside the input range"
  else .ok (bytes.drop offset)

/-- The next bytes of a reader. -/
def readBytes (byteLength : Nat) (label : String) (reader : BinaryReader) :
    Except String (Bytes × BinaryReader) :=
  if reader.length < byteLength then
    .error s!"{label} requires {byteLength} bytes with only {reader.length} remaining"
  else .ok (reader.take byteLength, reader.drop byteLength)

/-- The next bytes as an unsigned number. -/
def decodeUnsigned (byteLength : Nat) (label : String) (reader : BinaryReader) :
    Except String (Nat × BinaryReader) := do
  let (bytes, reader) ← readBytes byteLength label reader
  return (LittleEndian.ofBytes bytes, reader)

def decodeUnsignedInteger (byteLength : Nat) (label : String) (reader : BinaryReader) :
    Except String (Value × BinaryReader) := do
  let (n, reader) ← decodeUnsigned byteLength label reader
  return (D.integer byteLength n, reader)

def decodeSignedInteger (byteLength : Nat) (label : String) (reader : BinaryReader) :
    Except String (Value × BinaryReader) := do
  let (n, reader) ← decodeUnsigned byteLength label reader
  return (D.integer byteLength (LittleEndian.unwrap (8 * byteLength) n), reader)

/-- A primitive read from bytes. -/
def decodePrimitive (typeName : Primitive) (reader : BinaryReader) (label : String) :
    Except String (Value × BinaryReader) :=
  match typeName with
  | .u8 => decodeUnsignedInteger D 1 label reader
  | .u16 => decodeUnsignedInteger D 2 label reader
  | .u32 => decodeUnsignedInteger D 4 label reader
  | .u64 => decodeUnsignedInteger D 8 label reader
  | .u128 => decodeUnsignedInteger D 16 label reader
  | .i64 => decodeSignedInteger D 8 label reader
  | .i128 => decodeSignedInteger D 16 label reader
  | .bool => do
    let (n, reader) ← decodeUnsigned 1 label reader
    if n ≠ 0 ∧ n ≠ 1 then .error s!"{label} contains an invalid boolean tag: {n}"
    else return (.boolean (n == 1), reader)
  | .pubkey => do
    let (bytes, reader) ← readBytes 32 label reader
    return (.string (encodeBase58 bytes), reader)

mutual
/-- A value read at a type. -/
def decodeTypeWith : TypeSchema → BinaryReader → String → Except String (Value × BinaryReader)
  | .primitive typeName, reader, label => decodePrimitive D typeName reader label
  | .option item, reader, label => do
    let (tag, reader) ← decodeUnsigned 1 s!"{label}.tag" reader
    if tag = 0 then return (.null, reader)
    else if tag ≠ 1 then .error s!"{label} contains an invalid option tag: {tag}"
    else decodeTypeWith item reader label
  | .array item length, reader, label =>
    if item.isU8 then do
      let (bytes, reader) ← readBytes length label reader
      return (.bytes bytes, reader)
    else do
      let (values, reader) ← Codec.decodeEach
        (fun index input => decodeTypeWith item input s!"{label}[{index}]") length 0 reader
      return (.array values, reader)
  | .vector item, reader, label => do
    let (length, reader) ← decodeUnsigned 4 s!"{label}.length" reader
    if item.isU8 then do
      let (bytes, reader) ← readBytes length label reader
      return (.bytes bytes, reader)
    else do
      let (values, reader) ← Codec.decodeEach
        (fun index input => decodeTypeWith item input s!"{label}[{index}]") length 0 reader
      return (.array values, reader)
  | .defined _ fields, reader, label => do
    let (values, reader) ← decodeStructWith fields reader label
    return (.object values, reader)

/-- A struct's fields read in order. -/
def decodeStructWith : Fields → BinaryReader → String → Except String (StructValues × BinaryReader)
  | [], reader, _ => .ok ([], reader)
  | (name, type) :: rest, reader, label => do
    let (value, reader) ← decodeTypeWith type reader s!"{label}.{name}"
    let (values, reader) ← decodeStructWith rest reader label
    return ((name, value) :: values, reader)
end

end Walk

/-! ## The two languages -/

/-- The TypeScript encoder. -/
def encodeType := encodeTypeWith typescript
def decodeType := decodeTypeWith typescript
def encodeStruct := encodeStructWith typescript
def decodeStruct := decodeStructWith typescript
def zeroValueForType := zeroValueForTypeWith typescript

/-- The Python encoder. -/
def pythonEncodeType := encodeTypeWith python
def pythonDecodeType := decodeTypeWith python
def pythonEncodeStruct := encodeStructWith python
def pythonDecodeStruct := decodeStructWith python
def pythonZeroValueForType := zeroValueForTypeWith python

end Chancery
