import Chancery.DecodedValues

/-!
# The web builder's encoder

Model of `web/instruction-builder/wire.mjs` and of `decodePublicKey` in its `base58.mjs`: a third
encoder for the same schemas, written over untyped values of a form.

* `JsNumber`, `JsonLike` — the values, with what a number is kept: the conversions below truncate
  fractions and wrap integers.
* `asTypeScript`, `HeldAs` — the same value as TypeScript and as Python hold it.
* `uint8Array` — `new Uint8Array(value)`, which converts whatever it is given.
* `webEncodeType`, `webEncodeStruct` — the walk, with that conversion for a public key.
-/

set_option autoImplicit false

namespace Chancery

/-! ## Values -/

/-- A number of the browser. -/
inductive JsNumber where
  | nan
  | infinity (negative : Bool)
  | finite (value : Rat)
  deriving DecidableEq

/-- The integer that an integral number is. -/
def JsNumber.integral : JsNumber → Option Int
  | .finite value => if value.den = 1 then some value.num else none
  | _ => none

/-- `Number.isSafeInteger`, with the integer. -/
def JsNumber.safeInteger (x : JsNumber) : Option Int := x.integral.filter isSafeInteger

/-- A JavaScript value that JSON text, a bigint or a byte array gives. -/
inductive JsonLike where
  | undefined
  | null
  | boolean (b : Bool)
  | number (x : JsNumber)
  | bigint (n : Int)
  | string (s : String)
  | bytes (b : Bytes)
  | array (items : List JsonLike)
  | object (properties : List (String × JsonLike))

/-- The properties of an object. -/
abbrev JsonProperties := List (String × JsonLike)

/-- `values[name]`; the properties of a byte array are its indexes. -/
def JsonLike.property : JsonLike → String → JsonLike
  | .object properties, name => (properties.lookup name).getD .undefined
  | .bytes b, name =>
    match b.zipIdx.find? fun entry => toString entry.2 == name with
    | some entry => .number (.finite entry.1.toNat)
    | none => .undefined
  | _, _ => .undefined

/-! ## The same value in the other encoders -/

mutual
/-- The value that TypeScript code sees: the same one. -/
def asTypeScript : JsonLike → Value
  | .undefined => .undefined
  | .null => .null
  | .boolean b => .boolean b
  | .number x => match x.integral with
    | some n => .number n
    | none => .fraction
  | .bigint n => .bigint n
  | .string s => .string s
  | .bytes b => .bytes b
  | .array items => .array (itemsAsTypeScript items)
  | .object properties => .object (propertiesAsTypeScript properties)

def itemsAsTypeScript : List JsonLike → List Value
  | [] => []
  | item :: items => asTypeScript item :: itemsAsTypeScript items

def propertiesAsTypeScript : JsonProperties → StructValues
  | [] => []
  | (name, v) :: properties => (name, asTypeScript v) :: propertiesAsTypeScript properties
end

mutual
/-- A value and what Python holds for it.  JSON text that is a safe integer in JavaScript may be
a `float` in Python (`1.0`); an integer too large to be safe is kept exactly by Python only. -/
inductive HeldAs : JsonLike → Value → Prop where
  | undefined : HeldAs .undefined .null
  | null : HeldAs .null .null
  | boolean (b : Bool) : HeldAs (.boolean b) (.boolean b)
  | safe {n : Int} (h : isSafeInteger n = true) : HeldAs (.number (.finite n)) (.bigint n)
  | large {x : JsNumber} {n : Int} (h : isSafeInteger n = false) (hx : x.safeInteger = none) :
      HeldAs (.number x) (.bigint n)
  | float (x : JsNumber) : HeldAs (.number x) .fraction
  | bigint (n : Int) : HeldAs (.bigint n) (.bigint n)
  | string (s : String) : HeldAs (.string s) (.string s)
  | bytes (b : Bytes) : HeldAs (.bytes b) (.bytes b)
  | array {items : List JsonLike} {values : List Value} (h : ItemsHeldAs items values) :
      HeldAs (.array items) (.array values)
  | object {properties : JsonProperties} {values : StructValues}
      (h : PropertiesHeldAs properties values) : HeldAs (.object properties) (.object values)

inductive ItemsHeldAs : List JsonLike → List Value → Prop where
  | nil : ItemsHeldAs [] []
  | cons {item : JsonLike} {value : Value} {items : List JsonLike} {values : List Value}
      (hitem : HeldAs item value) (hitems : ItemsHeldAs items values) :
      ItemsHeldAs (item :: items) (value :: values)

/-- A property that is `undefined` may be left out of the mapping. -/
inductive PropertiesHeldAs : JsonProperties → StructValues → Prop where
  | nil : PropertiesHeldAs [] []
  | cons {name : String} {v : JsonLike} {value : Value} {properties : JsonProperties}
      {values : StructValues} (hv : HeldAs v value) (h : PropertiesHeldAs properties values) :
      PropertiesHeldAs ((name, v) :: properties) ((name, value) :: values)
  | omitted {name : String} {properties : JsonProperties} {values : StructValues}
      (hname : values.lookup name = none) (h : PropertiesHeldAs properties values) :
      PropertiesHeldAs ((name, .undefined) :: properties) values
end

/-! ## Conversions of the language -/

section Conversions

-- the number that the text of a string, an array or an object denotes
variable (textToNumber : JsonLike → Except String JsNumber)

/-- `ToNumber`. -/
def toNumber : JsonLike → Except String JsNumber
  | .undefined => .ok .nan
  | .null => .ok (.finite 0)
  | .boolean b => .ok (.finite (if b then 1 else 0))
  | .number x => .ok x
  | .bigint _ => .error "Cannot convert a BigInt value to a number"
  | value => textToNumber value

/-- `ToIntegerOrInfinity`: a fraction is truncated; `none` is an infinity. -/
def JsNumber.truncated : JsNumber → Option Int
  | .nan => some 0
  | .infinity _ => none
  | .finite value => some (value.num.tdiv value.den)

/-- `ToUint8`: modulo 256, and zero for what is not finite. -/
def JsNumber.toUint8 (x : JsNumber) : UInt8 := UInt8.ofNat ((x.truncated.getD 0) % 256).toNat

/-- `ToIndex`: the length of a new array. -/
def JsNumber.toIndex (x : JsNumber) : Except String Nat :=
  match x.truncated with
  | some n => if 0 ≤ n ∧ n ≤ maxSafeInteger then .ok n.toNat else .error "Invalid typed array length"
  | none => .error "Invalid typed array length"

/-- `ToLength`: the length of an array-like object. -/
def JsNumber.toLength : JsNumber → Nat
  | .infinity true => 0
  | .infinity false => maxSafeInteger.toNat
  | x => (min (x.truncated.getD 0) maxSafeInteger).toNat

/-- The element that a byte array keeps of a value. -/
def uint8Element (value : JsonLike) : Except String UInt8 := do
  let x ← toNumber textToNumber value
  return x.toUint8

/-- `new Uint8Array(value)`: a copy of a byte array, the elements of an array or of an array-like
object, and for every other value that many zeros. -/
def uint8Array : JsonLike → Except String Bytes
  | .bytes b => .ok b
  | .array items => items.mapM (uint8Element textToNumber)
  | .object properties => do
    let length ← toNumber textToNumber (JsonLike.property (.object properties) "length")
    (List.range length.toLength).mapM fun index =>
      uint8Element textToNumber (JsonLike.property (.object properties) (toString index))
  | value => do
    let x ← toNumber textToNumber value
    let length ← x.toIndex
    return List.replicate length 0

/-! ## `base58.mjs` and `wire.mjs` -/

/-- A string is base58 here, any other value is converted. -/
def webPublicKeyBytes : JsonLike → Except String Bytes
  | .string encoded => decodeBase58 encoded
  | publicKey => uint8Array textToNumber publicKey

/-- The 32 bytes of an address. -/
def webDecodePublicKey (publicKey : JsonLike) : Except String Bytes := do
  let bytes ← webPublicKeyBytes textToNumber publicKey
  if bytes.length ≠ 32 then
    .error s!"Public key must contain 32 bytes; received {bytes.length}"
  else return bytes

/-- An integer, as the browser takes it from a value. -/
def webIntegerFromValue (value : JsonLike) (label : String) : Except String Int :=
  let rejected : Except String Int := .error s!"{label} must be an integer"
  match value with
  | .bigint n => .ok n
  | .number x => match x.safeInteger with
    | some n => .ok n
    | none => rejected
  | .string text => match parseDecimal text with
    | some n => .ok n
    | none => rejected
  | _ => rejected

/-- Little-endian bytes of an unsigned integer. -/
def webEncodeUnsignedInteger (value : JsonLike) (byteLength : Nat) (label : String) :
    Except String Bytes := do
  let integerValue ← webIntegerFromValue value label
  if integerValue < 0 ∨ 2 ^ (8 * byteLength) ≤ integerValue then
    .error s!"{label} exceeds the unsigned {byteLength * 8}-bit range"
  else
    return LittleEndian.toBytes byteLength integerValue.toNat

/-- Little-endian bytes of a signed integer. -/
def webEncodeSignedInteger (value : JsonLike) (byteLength : Nat) (label : String) :
    Except String Bytes := do
  let integerValue ← webIntegerFromValue value label
  if integerValue < -(2 ^ (8 * byteLength - 1)) ∨ 2 ^ (8 * byteLength - 1) - 1 < integerValue then
    .error s!"{label} exceeds the signed {byteLength * 8}-bit range"
  else
    return LittleEndian.toBytes byteLength
      (LittleEndian.wrap (8 * byteLength) integerValue).toNat

/-- An element of an unsigned-byte array. -/
def webByteFromValue (label : String) (index : Nat) (value : JsonLike) : Except String Bytes :=
  let rejected : Except String Bytes := .error s!"{label}[{index}] must be an unsigned byte"
  match value with
  | .number x => match x.integral with
    | some n => if n < 0 ∨ 255 < n then rejected else .ok [UInt8.ofNat n.toNat]
    | none => rejected
  | _ => rejected

/-- Bytes of hexadecimal digits. -/
def webDecodeHex (value : String) : Except String Bytes :=
  let body := if value.startsWith "0x" then dropPrefix "0x" value else value
  match hexPairs body.toList with
  | none => .error "Hexadecimal data requires an even number of digits"
  | some bytes => .ok bytes

/-- Bytes, as the browser takes them from a value. -/
def webBytesFromValue (value : JsonLike) (label : String) : Except String Bytes :=
  let rejected : Except String Bytes :=
    .error s!"{label} must be hexadecimal, base64-prefixed data, or a byte array"
  match value with
  | .bytes b => .ok b
  | .array items => Codec.encodeEach (webByteFromValue label) 0 items
  | .string text =>
    if text.startsWith "0x" then webDecodeHex text
    else if text.startsWith "base64:" then decodeBase64 (dropPrefix "base64:" text)
    else rejected
  | _ => rejected

/-- Bytes of a primitive. -/
def webEncodePrimitive (typeName : Primitive) (value : JsonLike) (label : String) :
    Except String Bytes :=
  match typeName with
  | .u8 => webEncodeUnsignedInteger value 1 label
  | .u16 => webEncodeUnsignedInteger value 2 label
  | .u32 => webEncodeUnsignedInteger value 4 label
  | .u64 => webEncodeUnsignedInteger value 8 label
  | .u128 => webEncodeUnsignedInteger value 16 label
  | .i64 => webEncodeSignedInteger value 8 label
  | .i128 => webEncodeSignedInteger value 16 label
  | .bool => match value with
    | .boolean b => .ok [if b then 1 else 0]
    | _ => .error s!"{label} must be a boolean"
  | .pubkey => webDecodePublicKey textToNumber value

/-- An empty form field is an absent option. -/
def JsonLike.isAbsent : JsonLike → Bool
  | .null => true
  | .undefined => true
  | .string text => text == ""
  | _ => false

def webArrayFromValue (value : JsonLike) (rejected : String) : Except String (List JsonLike) :=
  match value with
  | .array items => .ok items
  | _ => .error rejected

/-- `typeof values === "object"` for what is neither null nor an array. -/
def JsonLike.isRecord : JsonLike → Bool
  | .object _ => true
  | .bytes _ => true
  | _ => false

/-- A length in four bytes. -/
def webEncodeLength (length : Nat) (label : String) : Except String Bytes :=
  webEncodeUnsignedInteger (.number (.finite length)) 4 s!"{label}.length"

/-- The value a struct encodes for a field; only an option may be missing. -/
def webFieldValue (values : JsonLike) (name : String) (type : TypeSchema) (label : String) :
    Except String JsonLike :=
  match values.property name with
  | .undefined =>
    if type.isOption then .ok .undefined else .error s!"{label}.{name} is required"
  | value => .ok value

mutual
/-- Bytes of a value at a type. -/
def webEncodeType : TypeSchema → JsonLike → String → Except String Bytes
  | .primitive typeName, value, label => webEncodePrimitive textToNumber typeName value label
  | .option item, value, label =>
    if value.isAbsent then .ok [0]
    else do
      let encoded ← webEncodeType item value label
      return 1 :: encoded
  | .array item length, value, label =>
    if item.isU8 then do
      let bytes ← webBytesFromValue value label
      if bytes.length ≠ length then .error s!"{label} must contain exactly {length} bytes"
      else return bytes
    else do
      let items ← webArrayFromValue value s!"{label} must contain exactly {length} items"
      if items.length ≠ length then .error s!"{label} must contain exactly {length} items"
      else
        Codec.encodeEach
          (fun index itemValue => webEncodeType item itemValue s!"{label}[{index}]") 0 items
  | .vector item, value, label =>
    if item.isU8 then do
      let bytes ← webBytesFromValue value label
      let length ← webEncodeLength bytes.length label
      return length ++ bytes
    else do
      let items ← webArrayFromValue value s!"{label} must be an array"
      let length ← webEncodeLength items.length label
      let encoded ← Codec.encodeEach
        (fun index itemValue => webEncodeType item itemValue s!"{label}[{index}]") 0 items
      return length ++ encoded
  | .defined _ fields, value, label =>
    if value.isRecord then webEncodeFields fields value label
    else .error s!"{label} must be an object"

/-- The loop of `encodeStruct`. -/
def webEncodeFields : Fields → JsonLike → String → Except String Bytes
  | [], _, _ => .ok []
  | (name, type) :: rest, values, label => do
    let fieldValue ← webFieldValue values name type label
    let encoded ← webEncodeType type fieldValue s!"{label}.{name}"
    let encodedRest ← webEncodeFields rest values label
    return encoded ++ encodedRest
end

/-- Bytes of an object's fields. -/
def webEncodeStruct (fields : Fields) (values : JsonLike) (label : String) : Except String Bytes :=
  if values.isRecord then webEncodeFields textToNumber fields values label
  else .error s!"{label} must be an object"

end Conversions

end Chancery
