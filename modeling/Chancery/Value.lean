import Chancery.Base58

/-!
# Dynamic values and byte strings

The values the codecs take and return: `unknown` in TypeScript, `object` in Python.  An object
is the list of its own properties; a name looked up is looked up there only.

* `Language` — the two languages and how their integer division rounds.
* `Value` — both languages; `number` is an integral JavaScript number, `bigint` a JavaScript
  bigint or a Python `int`, `fraction` every other number of either language.
* `parseDecimal`, `decodeHex`, `decodeBase64` — the strings TypeScript accepts for an integer
  or for bytes (`/^-?[0-9]+$/`, `0x…`, the forgiving decoder behind `atob`).
* `pythonInt`, `pythonFromHex`, `pythonB64decode` — Python's `int`, `bytes.fromhex` and
  `base64.b64decode(…, validate=True)` on the same strings, which accept different ones.
-/

set_option autoImplicit false

namespace Chancery

/-- The two languages the client is written in. -/
inductive Language where
  | typescript
  | python
  deriving DecidableEq

/-- `/` on bigints rounds towards zero, `//` on Python integers downwards. -/
def Language.divide : Language → Int → Int → Int
  | .typescript => Int.tdiv
  | .python => Int.fdiv

/-- The remainder that belongs to `Language.divide`. -/
def Language.remainder : Language → Int → Int → Int
  | .typescript => Int.tmod
  | .python => Int.fmod

theorem Language.divide_eq {L : Language} {a b : Int} (ha : 0 ≤ a) (hb : 0 ≤ b) :
    L.divide a b = a / b := by
  cases L with
  | typescript => exact Int.tdiv_eq_ediv_of_nonneg ha
  | python => exact Int.fdiv_eq_ediv_of_nonneg a hb

/-- A value as callers hand it to the clients. -/
inductive Value where
  | undefined
  | null
  | boolean (b : Bool)
  | number (n : Int)
  | fraction
  | bigint (n : Int)
  | string (s : String)
  | bytes (b : Bytes)
  | array (items : List Value)
  | object (properties : List (String × Value))

/-- `Number.MAX_SAFE_INTEGER`. -/
def maxSafeInteger : Int := 2 ^ 53 - 1

/-- Whether a double holds the integer exactly. -/
def isSafeInteger (n : Int) : Bool := decide (-maxSafeInteger ≤ n ∧ n ≤ maxSafeInteger)

/-- Stop with a message. -/
def rejectWhen (condition : Prop) [Decidable condition] (message : String) :
    Except String Unit :=
  if condition then .error message else .ok ()

@[simp] theorem rejectWhen_ok {condition : Prop} [Decidable condition] {message : String}
    {result : Unit} : rejectWhen condition message = .ok result ↔ ¬ condition := by
  by_cases h : condition <;> simp [rejectWhen, h]

/-! ## Decimal integers -/

/-- The number that decimal digits spell. -/
def decimalValue (digits : List Nat) : Nat := digits.foldl (fun acc d => acc * 10 + d) 0

/-- `BigInt(value)` for a string that matches `/^-?[0-9]+$/`. -/
def parseDecimal (text : String) : Option Int :=
  let (negative, digits) := match text.toList with
    | '-' :: digits => (true, digits)
    | digits => (false, digits)
  if digits.isEmpty || !digits.all Char.isDigit then none
  else
    let n : Int := decimalValue (digits.map fun c => c.toNat - '0'.toNat)
    some (if negative then -n else n)

/-- The code points of the decimal digit zero; the other nine digits follow each of them. -/
def unicodeZeros : List Nat :=
  [0x30, 0x660, 0x6f0, 0x7c0, 0x966, 0x9e6, 0xa66, 0xae6, 0xb66, 0xbe6, 0xc66, 0xce6, 0xd66,
   0xde6, 0xe50, 0xed0, 0xf20, 0x1040, 0x1090, 0x17e0, 0x1810, 0x1946, 0x19d0, 0x1a80, 0x1a90,
   0x1b50, 0x1bb0, 0x1c40, 0x1c50, 0xa620, 0xa8d0, 0xa900, 0xa9d0, 0xa9f0, 0xaa50, 0xabf0,
   0xff10, 0x104a0, 0x10d30, 0x11066, 0x110f0, 0x11136, 0x111d0, 0x112f0, 0x11450, 0x114d0,
   0x11650, 0x116c0, 0x11730, 0x118e0, 0x11950, 0x11c50, 0x11d50, 0x11da0, 0x16a60, 0x16ac0,
   0x16b50, 0x1d7ce, 0x1d7d8, 0x1d7e2, 0x1d7ec, 0x1d7f6, 0x1e140, 0x1e2f0, 0x1e950, 0x1fbf0]

/-- Characters for which `str.isdigit` holds and that are no decimal digits: `int` rejects them. -/
def unicodeOtherDigits : List (Nat × Nat) :=
  [(0xb2, 0xb3), (0xb9, 0xb9), (0x1369, 0x1371), (0x19da, 0x19da), (0x2070, 0x2070),
   (0x2074, 0x2079), (0x2080, 0x2089), (0x2460, 0x2468), (0x2474, 0x247c), (0x2488, 0x2490),
   (0x24ea, 0x24ea), (0x24f5, 0x24fd), (0x24ff, 0x24ff), (0x2776, 0x277e), (0x2780, 0x2788),
   (0x278a, 0x2792), (0x10a40, 0x10a43), (0x10e60, 0x10e68), (0x11052, 0x1105a),
   (0x1f100, 0x1f10a)]

/-- The value of a decimal digit of any script. -/
def unicodeDecimal (c : Char) : Option Nat :=
  (unicodeZeros.find? fun z => z ≤ c.toNat && c.toNat < z + 10).map (c.toNat - ·)

/-- Python's `str.isdigit`, of one character. -/
def pythonIsDigit (c : Char) : Bool :=
  (unicodeDecimal c).isSome ||
    unicodeOtherDigits.any fun (first, last) => first ≤ c.toNat && c.toNat ≤ last

/-- `value.lstrip("-").isdigit()`. -/
def pythonLooksLikeInteger (text : String) : Bool :=
  let stripped := text.toList.dropWhile (· == '-')
  !stripped.isEmpty && stripped.all pythonIsDigit

/-- `sys.int_info.default_max_str_digits`. -/
def pythonMaxStrDigits : Nat := 4300

/-- `int(value, 10)` for a string that passed `pythonLooksLikeInteger`. -/
def pythonInt (text : String) : Except String Int :=
  let (negative, digits) := match text.toList with
    | '-' :: digits => (true, digits)
    | digits => (false, digits)
  match digits.mapM unicodeDecimal with
  | none => .error s!"invalid literal for int() with base 10: {text}"
  | some ds =>
    if pythonMaxStrDigits < ds.length then
      .error s!"Exceeds the limit ({pythonMaxStrDigits} digits) for integer string conversion"
    else
      let n : Int := decimalValue ds
      .ok (if negative then -n else n)

/-! ## Hexadecimal strings -/

/-- The value of a hexadecimal digit. -/
def hexDigit (c : Char) : Option Nat :=
  if c.isDigit then some (c.toNat - '0'.toNat)
  else if 'a' ≤ c && c ≤ 'f' then some (c.toNat - 'a'.toNat + 10)
  else if 'A' ≤ c && c ≤ 'F' then some (c.toNat - 'A'.toNat + 10)
  else none

/-- The byte of two digits. -/
def hexByte (high low : Char) : Option UInt8 := do
  let h ← hexDigit high
  let l ← hexDigit low
  return UInt8.ofNat (h * 16 + l)

/-- The bytes of an even number of digits. -/
def hexPairs : List Char → Option Bytes
  | [] => some []
  | [_] => none
  | high :: low :: rest => do
    let byte ← hexByte high low
    let bytes ← hexPairs rest
    return byte :: bytes

/-- The text behind a mark. -/
def dropPrefix (mark text : String) : String := String.ofList (text.toList.drop mark.length)

/-- The bytes of a hexadecimal text. -/
def decodeHex (hexadecimal : String) : Except String Bytes :=
  let body := if hexadecimal.startsWith "0x" then dropPrefix "0x" hexadecimal else hexadecimal
  match hexPairs body.toList with
  | none => .error "Hexadecimal byte strings require an even number of hexadecimal digits"
  | some bytes => .ok bytes

/-- White space that `bytes.fromhex` skips between two bytes. -/
def isAsciiSpace (c : Char) : Bool :=
  c == ' ' || (9 ≤ c.toNat && c.toNat ≤ 13)

/-- The bytes of digits with blanks between the pairs. -/
def hexPairsSpaced : List Char → Option Bytes
  | [] => some []
  | c :: cs =>
    if isAsciiSpace c then hexPairsSpaced cs
    else match cs with
      | [] => none
      | low :: rest => do
        let byte ← hexByte c low
        let bytes ← hexPairsSpaced rest
        return byte :: bytes

/-- Python's `bytes.fromhex`. -/
def pythonFromHex (text : String) : Option Bytes := hexPairsSpaced text.toList

/-! ## Base64 strings -/

/-- The value of a Base64 digit. -/
def base64Index (c : Char) : Option Nat :=
  if 'A' ≤ c && c ≤ 'Z' then some (c.toNat - 'A'.toNat)
  else if 'a' ≤ c && c ≤ 'z' then some (c.toNat - 'a'.toNat + 26)
  else if c.isDigit then some (c.toNat - '0'.toNat + 52)
  else if c == '+' then some 62
  else if c == '/' then some 63
  else none

/-- Four sextets make three bytes; the low bits left over at the end are dropped. -/
def sextetBytes : List Nat → Bytes
  | a :: b :: c :: d :: rest =>
    UInt8.ofNat (a * 4 + b / 16) :: UInt8.ofNat (b % 16 * 16 + c / 4) ::
      UInt8.ofNat (c % 4 * 64 + d) :: sextetBytes rest
  | [a, b, c] => [UInt8.ofNat (a * 4 + b / 16), UInt8.ofNat (b % 16 * 16 + c / 4)]
  | [a, b] => [UInt8.ofNat (a * 4 + b / 16)]
  | _ => []

/-- White space that the forgiving decoder removes first: no vertical tab. -/
def isForgivenSpace (c : Char) : Bool :=
  c == ' ' || c.toNat == 9 || c.toNat == 10 || c.toNat == 12 || c.toNat == 13

/-- The digits without their padding. -/
def dropPadding (cs : List Char) : List Char :=
  if cs.length % 4 != 0 then cs
  else match cs.reverse with
    | '=' :: '=' :: rest => rest.reverse
    | '=' :: rest => rest.reverse
    | _ => cs

/-- `atob`, read as bytes. -/
def decodeBase64 (encoded : String) : Except String Bytes :=
  let body := dropPadding (encoded.toList.filter fun c => !isForgivenSpace c)
  match body.mapM base64Index with
  | none => .error "The string to be decoded is not correctly encoded."
  | some sextets =>
    if sextets.length % 4 = 1 then .error "The string to be decoded is not correctly encoded."
    else .ok (sextetBytes sextets)

/-- Python's `base64.b64decode`. -/
def pythonB64decode (encoded : String) : Except String Bytes :=
  let body := encoded.toList.takeWhile fun c => (base64Index c).isSome
  let padding := encoded.toList.dropWhile fun c => (base64Index c).isSome
  let sextets := body.filterMap base64Index
  if !padding.all (· == '=') then .error "Only base64 data is allowed"
  else if body.isEmpty then
    if padding.isEmpty then .ok [] else .error "Leading padding not allowed"
  else match body.length % 4 with
    | 0 => .ok (sextetBytes sextets)
    | 1 => .error s!"Invalid base64-encoded string: number of data characters ({body.length}) cannot be 1 more than a multiple of 4"
    | m =>
      if padding.length + m < 4 then .error "Incorrect padding"
      else if 4 < padding.length + m then .error "Excess data after padding"
      else .ok (sextetBytes sextets)

end Chancery
