import Chancery.BinaryCodecLaws
import Chancery.WebWireLaws

/-!
# What the web encoder keeps of a value

* `DenotesElement` — the element of a type that a value stands for, as the schema's decoder returns it:
  integers numerically, byte data byte for byte, containers elementwise.
* `unconverted` — every public key of a value is a text or byte data and every struct an object,
  so that none of them passes through a conversion.
* `webEncodeType_denotes` — an unconverted value decodes to what it denotes.
* `webEncodeType_denotes_iff` — and no other value does.
-/

set_option autoImplicit false

namespace Chancery

/-! ## What a value denotes -/

/-- An integer that a value stands for. -/
def DenotesInteger (v : JsonLike) (n : Int) : Prop :=
  v = .bigint n ∨ v = .number (.finite n) ∨ ∃ text, v = .string text ∧ parseDecimal text = some n

/-- A number that is a byte. -/
def listedByte : JsonLike → Option UInt8
  | .number x => (x.integral.filter fun n => 0 ≤ n && n ≤ 255).map fun n => UInt8.ofNat n.toNat
  | _ => none

/-- A byte array, or a list of bytes. -/
def JsonLike.byteList : JsonLike → Option Bytes
  | .bytes b => some b
  | .array items => items.mapM listedByte
  | _ => none

/-- The bytes that a value stands for. -/
def DenotesBytes (v : JsonLike) (b : Bytes) : Prop :=
  v.byteList = some b ∨ ∃ text, v = .string text ∧
    (text.startsWith "0x" = true ∧ decodeHex text = .ok b ∨
      text.startsWith "base64:" = true ∧ decodeBase64 (dropPrefix "base64:" text) = .ok b)

/-- What a value stands for at a primitive. -/
def DenotesPrimitive : Primitive → JsonLike → Value → Prop
  | .bool, v, decoded => ∃ b, v = .boolean b ∧ decoded = .boolean b
  | .pubkey, v, decoded => (∃ text, v = .string text ∧ decoded = .string text) ∨
      ∃ b, v.byteList = some b ∧ decoded = .string (encodeBase58 b)
  | _, v, decoded => ∃ n, DenotesInteger v n ∧ (decoded = .number n ∨ decoded = .bigint n)

mutual
/-- The decoded value is the element that the given value stands for. -/
def DenotesElement : TypeSchema → JsonLike → Value → Prop
  | .primitive typeName, v, decoded => DenotesPrimitive typeName v decoded
  | .option item, v, decoded =>
    if v.isAbsent then decoded = .null else DenotesElement item v decoded
  | .array item _, v, decoded =>
    if item.isU8 then ∃ b, DenotesBytes v b ∧ decoded = .bytes b
    else ∃ items elements, v = .array items ∧ decoded = .array elements ∧
      List.Forall₂ (fun x y => DenotesElement item x y) items elements
  | .vector item, v, decoded =>
    if item.isU8 then ∃ b, DenotesBytes v b ∧ decoded = .bytes b
    else ∃ items elements, v = .array items ∧ decoded = .array elements ∧
      List.Forall₂ (fun x y => DenotesElement item x y) items elements
  | .defined _ fields, v, decoded => ∃ properties values, v = .object properties ∧
      decoded = .object values ∧ DenotesFields fields v values

/-- What an object stands for at the fields. -/
def DenotesFields : Fields → JsonLike → StructValues → Prop
  | [], _, values => values = []
  | (name, type) :: rest, v, values => ∃ decoded others, values = (name, decoded) :: others ∧
      DenotesElement type (v.property name) decoded ∧ DenotesFields rest v others
end

/-! ## No conversion -/

/-- Whether a value is a text. -/
def JsonLike.isText : JsonLike → Bool
  | .string _ => true
  | _ => false

def JsonLike.isObject : JsonLike → Bool
  | .object _ => true
  | _ => false

/-- The items of an array. -/
def JsonLike.items : JsonLike → List JsonLike
  | .array items => items
  | _ => []

mutual
/-- Every public key is a text or byte data, and every struct an object. -/
def unconverted : TypeSchema → JsonLike → Bool
  | .primitive .pubkey, v => v.isText || v.byteList.isSome
  | .primitive _, _ => true
  | .option item, v => v.isAbsent || unconverted item v
  | .array item _, v => item.isU8 || v.items.all fun x => unconverted item x
  | .vector item, v => item.isU8 || v.items.all fun x => unconverted item x
  | .defined _ fields, v => v.isObject && unconvertedFields fields v

/-- No field needs a conversion. -/
def unconvertedFields : Fields → JsonLike → Bool
  | [], _ => true
  | (name, type) :: rest, v => unconverted type (v.property name) && unconvertedFields rest v
end

mutual
/-- What denotes an element was not converted. -/
theorem unconverted_of_denotes : ∀ (type : TypeSchema) {v : JsonLike} {decoded : Value},
    DenotesElement type v decoded → unconverted type v = true
  | .primitive typeName, v, decoded, h => by
    cases typeName with
    | pubkey =>
      rw [unconverted, Bool.or_eq_true]
      rcases h with ⟨text, rfl, _⟩ | ⟨b, hb, _⟩
      · exact .inl rfl
      · exact .inr (Option.isSome_iff_exists.2 ⟨b, hb⟩)
    | _ => rfl
  | .option item, v, decoded, h => by
    rw [DenotesElement] at h
    rw [unconverted, Bool.or_eq_true]
    by_cases habsent : v.isAbsent = true
    · exact .inl habsent
    · rw [if_neg habsent] at h
      exact .inr (unconverted_of_denotes item h)
  | .array item length, v, decoded, h => by
    rw [DenotesElement] at h
    rw [unconverted, Bool.or_eq_true]
    by_cases hu8 : item.isU8 = true
    · exact .inl hu8
    · rw [if_neg hu8] at h
      obtain ⟨items, elements, rfl, rfl, hall⟩ := h
      refine .inr (List.all_eq_true.2 fun x hx => ?_)
      obtain ⟨y, _, hy⟩ := forall₂_exists_left hall.flip x hx
      exact unconverted_of_denotes item hy
  | .vector item, v, decoded, h => by
    rw [DenotesElement] at h
    rw [unconverted, Bool.or_eq_true]
    by_cases hu8 : item.isU8 = true
    · exact .inl hu8
    · rw [if_neg hu8] at h
      obtain ⟨items, elements, rfl, rfl, hall⟩ := h
      refine .inr (List.all_eq_true.2 fun x hx => ?_)
      obtain ⟨y, _, hy⟩ := forall₂_exists_left hall.flip x hx
      exact unconverted_of_denotes item hy
  | .defined name fields, v, decoded, h => by
    obtain ⟨properties, values, rfl, rfl, hfields⟩ := h
    rw [unconverted, Bool.and_eq_true]
    exact ⟨rfl, unconvertedFields_of_denotes fields hfields⟩

theorem unconvertedFields_of_denotes : ∀ (fields : Fields) {v : JsonLike} {values : StructValues},
    DenotesFields fields v values → unconvertedFields fields v = true
  | [], _, _, _ => rfl
  | (name, type) :: fields, v, values, h => by
    obtain ⟨decoded, others, rfl, hfield, hfields⟩ := h
    rw [unconvertedFields, Bool.and_eq_true]
    exact ⟨unconverted_of_denotes type hfield, unconvertedFields_of_denotes fields hfields⟩
end

/-! ## What the encoder takes -/

section Encoding

variable {textToNumber : JsonLike → Except String JsNumber}

theorem listedByte_byte {n : Int} (hlo : 0 ≤ n) (hhi : n ≤ 255) :
    listedByte (.number (.finite n)) = some (UInt8.ofNat n.toNat) := by
  simp [listedByte, integral_intCast, hlo, hhi]

theorem listedByte_ok {v : JsonLike} {byte : UInt8} (h : listedByte v = some byte)
    (label : String) (index : Nat) : webByteFromValue label index v = .ok [byte] := by
  cases v with
  | number x =>
    obtain ⟨n, hn, rfl⟩ := Option.map_eq_some_iff.1 h
    obtain ⟨hintegral, hrange⟩ := Option.filter_eq_some_iff.1 hn
    simp only [Bool.and_eq_true, decide_eq_true_eq] at hrange
    simp only [webByteFromValue, hintegral]
    rw [if_neg (by omega)]
  | _ => cases h

theorem encodeEach_listedByte {label : String} : ∀ {items : List JsonLike} {index : Nat} {b : Bytes},
    Codec.encodeEach (webByteFromValue label) index items = .ok b ↔ items.mapM listedByte = some b
  | [], _, b => by
    rw [Codec.encodeEach, List.mapM_nil]
    exact ⟨fun h => by cases h; rfl, fun h => by cases h; rfl⟩
  | item :: items, index, b => by
    rw [List.mapM_cons]
    constructor
    · intro h
      obtain ⟨chunk, rest, hchunk, hrest, rfl⟩ := Codec.encodeEach_cons h
      obtain ⟨n, rfl, hlo, hhi, rfl⟩ := webByteFromValue_ok hchunk
      rw [listedByte_byte hlo hhi, encodeEach_listedByte.1 hrest]
      rfl
    · intro h
      obtain ⟨byte, hbyte, h⟩ := Option.bind_eq_some_iff.1 h
      obtain ⟨rest, hrest, hret⟩ := Option.bind_eq_some_iff.1 h
      cases hret
      rw [Codec.encodeEach, Except.bind_of_ok (listedByte_ok hbyte label index),
        Except.bind_of_ok (encodeEach_listedByte.2 hrest)]
      rfl

theorem webDecodeHex_decodeHex {text : String} {b : Bytes} (h : webDecodeHex text = .ok b) :
    decodeHex text = .ok b := by
  unfold webDecodeHex at h
  unfold decodeHex
  generalize (if text.startsWith "0x" then dropPrefix "0x" text else text) = body at h ⊢
  dsimp only at h ⊢
  cases hpairs : hexPairs body.toList with
  | none =>
    rw [hpairs] at h
    cases h
  | some bytes =>
    rw [hpairs] at h
    exact h

theorem webBytesFromValue_denotes {v : JsonLike} {label : String} {b : Bytes}
    (h : webBytesFromValue v label = .ok b) : DenotesBytes v b := by
  cases v with
  | bytes c =>
    cases h
    exact .inl rfl
  | array items => exact .inl (encodeEach_listedByte.1 h)
  | string text =>
    simp only [webBytesFromValue] at h
    refine .inr ⟨text, rfl, ?_⟩
    split at h
    · rename_i hhex
      exact .inl ⟨hhex, webDecodeHex_decodeHex h⟩
    · split at h
      · rename_i hbase64
        exact .inr ⟨hbase64, h⟩
      · cases h
  | _ => cases h

theorem webIntegerFromValue_denotes {v : JsonLike} {label : String} {n : Int}
    (h : webIntegerFromValue v label = .ok n) : DenotesInteger v n :=
  (webIntegerFromValue_ok h).imp_right (Or.imp_left And.left)

/-- An integer is encoded like the bigint it denotes. -/
theorem webEncodeUnsignedInteger_ok {v : JsonLike} {byteLength : Nat} {label : String}
    {bytes : Bytes} (h : webEncodeUnsignedInteger v byteLength label = .ok bytes) :
    ∃ n, DenotesInteger v n ∧
      encodeUnsignedInteger typescript (.bigint n) byteLength label = .ok bytes := by
  obtain ⟨n, hn, h⟩ := Except.bind_eq_ok.1 h
  refine ⟨n, webIntegerFromValue_denotes hn, Except.bind_eq_ok.2 ⟨n, rfl, ?_⟩⟩
  split at h
  · cases h
  · rename_i hrange
    rw [if_neg hrange]
    exact h

theorem webEncodeSignedInteger_ok {v : JsonLike} {byteLength : Nat} {label : String}
    {bytes : Bytes} (h : webEncodeSignedInteger v byteLength label = .ok bytes) :
    ∃ n, DenotesInteger v n ∧
      encodeSignedInteger typescript (.bigint n) byteLength label = .ok bytes := by
  obtain ⟨n, hn, h⟩ := Except.bind_eq_ok.1 h
  refine ⟨n, webIntegerFromValue_denotes hn, Except.bind_eq_ok.2 ⟨n, rfl, ?_⟩⟩
  split at h
  · cases h
  · rename_i hrange
    rw [if_neg hrange]
    exact h

theorem canonicalInteger_bigint (width : Nat) (n : Int) :
    canonicalInteger typescript width (.bigint n) = .number n ∨
      canonicalInteger typescript width (.bigint n) = .bigint n := by
  have hinteger : canonicalInteger typescript width (.bigint n) = TypeScript.integer width n :=
    canonicalInteger_eq width (rfl : typescript.integerFromValue (.bigint n) "" = .ok n)
  rw [hinteger, TypeScript.integer]
  by_cases hwidth : width ≤ 4
  · rw [if_pos hwidth]
    exact .inl rfl
  · rw [if_neg hwidth]
    exact .inr rfl

/-- A primitive is encoded like a value whose canonical form it denotes. -/
theorem webEncodePrimitive_ok {typeName : Primitive} {v : JsonLike} {label : String} {bytes : Bytes}
    (h : webEncodePrimitive textToNumber typeName v label = .ok bytes)
    (hgiven : unconverted (.primitive typeName) v = true) :
    ∃ w, encodePrimitive typescript typeName w label = .ok bytes ∧
      DenotesPrimitive typeName v (canonicalPrimitive typescript typeName w) := by
  cases typeName with
  | bool =>
    cases v with
    | boolean b => exact ⟨.boolean b, h, b, rfl, rfl⟩
    | _ => cases h
  | pubkey =>
    obtain ⟨hlength, ⟨text, rfl, htext⟩ | ⟨hne, hconverted⟩⟩ := webDecodePublicKey_ok h
    · refine ⟨.string text, Except.bind_eq_ok.2 ⟨bytes, htext, ?_⟩, .inl ⟨text, rfl, rfl⟩⟩
      rw [if_neg (fun hne => hne hlength)]
      rfl
    · have hlist : v.byteList = some bytes := by
        rw [unconverted, Bool.or_eq_true] at hgiven
        obtain ⟨b, hb⟩ : ∃ b, v.byteList = some b := by
          refine Option.isSome_iff_exists.1 (hgiven.resolve_left fun htext => ?_)
          cases v with
          | string text => exact hne text rfl
          | _ => cases htext
        have hbytes : webBytesFromValue v "" = .ok b := by
          cases v with
          | bytes c =>
            cases hb
            rfl
          | array items => exact encodeEach_listedByte.2 hb
          | _ => cases hb
        rw [hb, Except.ok.inj ((uint8Array_of_bytes hbytes hne).symm.trans hconverted)]
      refine ⟨.bytes bytes, Except.bind_eq_ok.2 ⟨bytes, rfl, ?_⟩, .inr ⟨bytes, hlist, rfl⟩⟩
      rw [if_neg (fun hne => hne hlength)]
      rfl
  | i64 =>
    obtain ⟨n, hn, h⟩ := webEncodeSignedInteger_ok h
    exact ⟨.bigint n, h, n, hn, canonicalInteger_bigint 8 n⟩
  | i128 =>
    obtain ⟨n, hn, h⟩ := webEncodeSignedInteger_ok h
    exact ⟨.bigint n, h, n, hn, canonicalInteger_bigint 16 n⟩
  | _ =>
    obtain ⟨n, hn, h⟩ := webEncodeUnsignedInteger_ok h
    exact ⟨.bigint n, h, n, hn, canonicalInteger_bigint _ n⟩

/-- A run of items decodes to elements that they denote, when each item does. -/
theorem webEncodeEach_denotes {enc : Nat → JsonLike → Except String Bytes}
    {dec : BinaryReader → String → Except String (Value × BinaryReader)}
    {R : JsonLike → Value → Prop} : ∀ {items : List JsonLike} {index : Nat} {bytes : Bytes},
    (∀ item ∈ items, ∀ index chunk, enc index item = .ok chunk → ∃ element, R item element ∧
      ∀ readLabel rest, dec (chunk ++ rest) readLabel = .ok (element, rest)) →
    Codec.encodeEach enc index items = .ok bytes → ∃ elements, List.Forall₂ R items elements ∧
      ∀ (labels : Nat → String) index' rest,
        Codec.decodeEach (fun i input => dec input (labels i)) items.length index' (bytes ++ rest) =
          .ok (elements, rest)
  | [], _, _, _, h => by
    cases h
    exact ⟨[], .nil, fun _ _ _ => rfl⟩
  | item :: items, index, bytes, hitem, h => by
    obtain ⟨head, tail, hhead, htail, rfl⟩ := Codec.encodeEach_cons h
    obtain ⟨element, hR, helement⟩ := hitem item List.mem_cons_self index head hhead
    obtain ⟨elements, hall, helements⟩ := webEncodeEach_denotes
      (fun other hother => hitem other (List.mem_cons_of_mem _ hother)) htail
    refine ⟨element :: elements, .cons hR hall, fun labels index' rest => ?_⟩
    rw [List.append_assoc]
    exact Except.bind_eq_ok.2 ⟨_, helement _ _, Except.bind_eq_ok.2 ⟨_, helements labels _ _, rfl⟩⟩

mutual
/-- **An unconverted value decodes to what it denotes.** -/
theorem webEncodeType_denotes : ∀ (type : TypeSchema) {v : JsonLike} {label : String}
    {bytes : Bytes}, webEncodeType textToNumber type v label = .ok bytes →
      unconverted type v = true → ∃ decoded, DenotesElement type v decoded ∧ ∀ readLabel rest,
        decodeType type (bytes ++ rest) readLabel = .ok (decoded, rest)
  | .primitive typeName, v, label, bytes, h, hgiven => by
    rw [webEncodeType] at h
    obtain ⟨w, hw, hdenotes⟩ := webEncodePrimitive_ok h hgiven
    refine ⟨_, hdenotes, fun readLabel rest => ?_⟩
    rw [decodeType, decodeTypeWith]
    exact recovers_primitive typeName label readLabel w bytes hw rest
  | .option item, v, label, bytes, h, hgiven => by
    rw [webEncodeType] at h
    rw [unconverted, Bool.or_eq_true] at hgiven
    by_cases habsent : v.isAbsent = true
    · rw [if_pos habsent] at h
      cases h
      refine ⟨.null, by rw [DenotesElement, if_pos habsent], fun readLabel rest => ?_⟩
      have htag := decodeUnsigned_toBytes (by decide : 0 < 2 ^ (8 * 1)) s!"{readLabel}.tag" rest
      rw [decodeType, decodeTypeWith]
      exact Except.bind_eq_ok.2 ⟨_, htag, rfl⟩
    · rw [if_neg habsent] at h
      obtain ⟨encoded, hencoded, hret⟩ := Except.bind_eq_ok.1 h
      cases hret
      obtain ⟨decoded, hdenotes, hdecode⟩ :=
        webEncodeType_denotes item hencoded (hgiven.resolve_left habsent)
      refine ⟨decoded, by rwa [DenotesElement, if_neg habsent], fun readLabel rest => ?_⟩
      exact decodeTypeWith_some (hdecode readLabel rest)
  | .array item length, v, label, bytes, h, hgiven => by
    rw [webEncodeType] at h
    rw [unconverted, Bool.or_eq_true] at hgiven
    by_cases hu8 : item.isU8 = true
    · rw [if_pos hu8] at h
      obtain ⟨b, hb, h⟩ := Except.bind_eq_ok.1 h
      split at h
      · cases h
      · rename_i hlength
        cases h
        refine ⟨.bytes bytes, ?_, fun readLabel rest => ?_⟩
        · rw [DenotesElement, if_pos hu8]
          exact ⟨bytes, webBytesFromValue_denotes hb, rfl⟩
        · rw [decodeType, decodeTypeWith, if_pos hu8, readBytes_append (not_not.1 hlength)]
          rfl
    · rw [if_neg hu8] at h
      obtain ⟨items, hitems, hbody⟩ := Except.bind_eq_ok.1 h
      obtain rfl := webArrayFromValue_ok hitems
      have hall := List.all_eq_true.1 (hgiven.resolve_left hu8)
      split at hbody
      · cases hbody
      · rename_i hlength
        obtain ⟨elements, hdenotes, hdecode⟩ := webEncodeEach_denotes
          (fun x hx index chunk hchunk => webEncodeType_denotes item hchunk (hall x hx)) hbody
        rw [not_not] at hlength
        subst hlength
        refine ⟨.array elements, ?_, fun readLabel rest => ?_⟩
        · rw [DenotesElement, if_neg hu8]
          exact ⟨items, elements, rfl, rfl, hdenotes⟩
        · have hback := hdecode (fun index => s!"{readLabel}[{index}]") 0 rest
          rw [decodeType, decodeTypeWith, if_neg hu8]
          exact Except.bind_eq_ok.2 ⟨_, hback, rfl⟩
  | .vector item, v, label, bytes, h, hgiven => by
    rw [webEncodeType] at h
    rw [unconverted, Bool.or_eq_true] at hgiven
    by_cases hu8 : item.isU8 = true
    · rw [if_pos hu8] at h
      obtain ⟨b, hb, hbody⟩ := Except.bind_eq_ok.1 h
      obtain ⟨prefixBytes, hinit, hret⟩ := Except.bind_eq_ok.1 hbody
      obtain ⟨hlt, rfl⟩ := webEncodeLength_ok hinit
      cases hret
      refine ⟨.bytes b, ?_, fun readLabel rest => ?_⟩
      · rw [DenotesElement, if_pos hu8]
        exact ⟨b, webBytesFromValue_denotes hb, rfl⟩
      · rw [decodeType, decodeTypeWith, List.append_assoc]
        refine Except.bind_eq_ok.2 ⟨_, decodeUnsigned_toBytes hlt _ _, ?_⟩
        dsimp only
        rw [if_pos hu8, readBytes_append rfl]
        rfl
    · rw [if_neg hu8] at h
      obtain ⟨items, hitems, hbody⟩ := Except.bind_eq_ok.1 h
      obtain rfl := webArrayFromValue_ok hitems
      have hall := List.all_eq_true.1 (hgiven.resolve_left hu8)
      obtain ⟨prefixBytes, hinit, hbody⟩ := Except.bind_eq_ok.1 hbody
      obtain ⟨itemBytes, heach, hret⟩ := Except.bind_eq_ok.1 hbody
      obtain ⟨hlt, rfl⟩ := webEncodeLength_ok hinit
      cases hret
      obtain ⟨elements, hdenotes, hdecode⟩ := webEncodeEach_denotes
        (fun x hx index chunk hchunk => webEncodeType_denotes item hchunk (hall x hx)) heach
      refine ⟨.array elements, ?_, fun readLabel rest => ?_⟩
      · rw [DenotesElement, if_neg hu8]
        exact ⟨items, elements, rfl, rfl, hdenotes⟩
      · have hback := hdecode (fun index => s!"{readLabel}[{index}]") 0 rest
        rw [decodeType, decodeTypeWith, List.append_assoc]
        refine Except.bind_eq_ok.2 ⟨_, decodeUnsigned_toBytes hlt _ _, ?_⟩
        dsimp only
        rw [if_neg hu8]
        exact Except.bind_eq_ok.2 ⟨_, hback, rfl⟩
  | .defined name fields, v, label, bytes, h, hgiven => by
    rw [webEncodeType] at h
    rw [unconverted, Bool.and_eq_true] at hgiven
    split at h
    · obtain ⟨values, hdenotes, hdecode⟩ := webEncodeFields_denotes fields h hgiven.2
      cases v with
      | object properties =>
        refine ⟨.object values, ⟨properties, values, rfl, rfl, hdenotes⟩, fun readLabel rest => ?_⟩
        rw [decodeType, decodeTypeWith]
        exact Except.bind_eq_ok.2 ⟨_, hdecode readLabel rest, rfl⟩
      | _ => cases hgiven.1
    · cases h

theorem webEncodeFields_denotes : ∀ (fields : Fields) {v : JsonLike} {label : String}
    {bytes : Bytes}, webEncodeFields textToNumber fields v label = .ok bytes →
      unconvertedFields fields v = true → ∃ values, DenotesFields fields v values ∧
        ∀ readLabel rest,
          decodeStruct fields (bytes ++ rest) readLabel = .ok (values, rest)
  | [], v, label, bytes, h, _ => by
    rw [webEncodeFields] at h
    cases h
    exact ⟨[], rfl, fun _ _ => rfl⟩
  | (name, type) :: fields, v, label, bytes, h, hgiven => by
    rw [unconvertedFields, Bool.and_eq_true] at hgiven
    rw [webEncodeFields] at h
    obtain ⟨fieldValue, hvalue, h⟩ := Except.bind_eq_ok.1 h
    obtain ⟨encoded, hencoded, h⟩ := Except.bind_eq_ok.1 h
    obtain ⟨encodedRest, hrest, hret⟩ := Except.bind_eq_ok.1 h
    cases hret
    rw [webFieldValue_ok hvalue] at hencoded
    obtain ⟨decoded, hdenotes, hdecode⟩ := webEncodeType_denotes type hencoded hgiven.1
    obtain ⟨values, hothers, hdecodeRest⟩ := webEncodeFields_denotes fields hrest hgiven.2
    refine ⟨(name, decoded) :: values, ⟨decoded, values, rfl, hdenotes, hothers⟩,
      fun readLabel rest => ?_⟩
    rw [decodeStruct, decodeStructWith, List.append_assoc]
    exact Except.bind_eq_ok.2 ⟨_, hdecode _ _, Except.bind_eq_ok.2 ⟨_, hdecodeRest _ _, rfl⟩⟩
end

/-- **An accepted value comes back unless it was converted.** -/
theorem webEncodeType_denotes_iff {type : TypeSchema} {v : JsonLike} {label : String}
    {bytes : Bytes} (h : webEncodeType textToNumber type v label = .ok bytes) (readLabel : String) :
    (∃ decoded, decodeType type bytes readLabel = .ok (decoded, []) ∧ DenotesElement type v decoded) ↔
      unconverted type v = true := by
  constructor
  · rintro ⟨decoded, _, hdenotes⟩
    exact unconverted_of_denotes type hdenotes
  · intro hgiven
    obtain ⟨decoded, hdenotes, hdecode⟩ := webEncodeType_denotes type h hgiven
    have hback := hdecode readLabel []
    rw [List.append_nil] at hback
    exact ⟨decoded, hback, hdenotes⟩

end Encoding

namespace Sample

/-- A list of 32 numbers whose first is no byte. -/
def wideKey : JsonLike :=
  .array (.number (.finite (256 : Int)) :: List.replicate 31 (.number (.finite (7 : Int))))

end Sample

/-- A list that holds 256 becomes a key with a zero in its place. -/
theorem wideKey_altered :
    ¬ ∀ (type : TypeSchema) (v : JsonLike) (label readLabel : String) (bytes : Bytes),
      webEncodeType (fun _ => .ok .nan) type v label = .ok bytes →
        ∃ decoded, decodeType type bytes readLabel = .ok (decoded, []) ∧ DenotesElement type v decoded := by
  intro hall
  obtain ⟨bytes, hbytes, _⟩ := Except.exists_of_any (by decide +kernel :
    (webEncodeType (fun _ => .ok .nan) (.primitive .pubkey) Sample.wideKey "key").toOption.any
      (fun bytes => bytes = 0 :: List.replicate 31 7) = true)
  obtain ⟨decoded, _, hdenotes⟩ := hall _ _ "key" "key" bytes hbytes
  have hgiven := unconverted_of_denotes _ hdenotes
  exact absurd hgiven (by decide +kernel)

/-- A key in base58 inside an optional struct. -/
theorem webEncodeType_denotes_iff_entry :
    ∃ bytes, (∃ decoded,
      decodeType (.option (.defined "Entry" [("key", .primitive .pubkey), ("id", .primitive .u16)]))
        bytes "value" = .ok (decoded, []) ∧
      DenotesElement (.option (.defined "Entry" [("key", .primitive .pubkey), ("id", .primitive .u16)]))
        (.object [("key", .string "11111111111111111111111111111111"), ("id", .string "261")])
        decoded) ∧ bytes = 1 :: List.replicate 32 0 ++ [5, 1] := by
  obtain ⟨bytes, hbytes, hcheck⟩ := Except.exists_of_any (by decide +kernel :
    (webEncodeType (fun _ => .ok .nan)
      (.option (.defined "Entry" [("key", .primitive .pubkey), ("id", .primitive .u16)]))
      (.object [("key", .string "11111111111111111111111111111111"), ("id", .string "261")])
      "value").toOption.any (fun bytes => bytes = 1 :: List.replicate 32 0 ++ [5, 1]) = true)
  exact ⟨bytes, (webEncodeType_denotes_iff hbytes "value").2 (by decide +kernel),
    of_decide_eq_true hcheck⟩

end Chancery
