import Chancery.BinaryCodec
import Chancery.Lib.Table

/-!
# The codec laws

Encoding and decoding by one schema, in either language.

* `canonicalType`, `canonicalStruct` — the value a decoder gives back for an accepted value:
  integers as the language's integers, public keys as base58, absent options as null.
* `TypeSchema.wellFormed` — no option directly inside an option, distinct field names.
* `recovers_type`, `recovers_struct` — decoding an encoding gives the canonical value and stops
  at the end of the encoding.
* `reencodes_type`, `reencodes_struct` — what a decoder consumed is the encoding of its result.
-/

set_option autoImplicit false

namespace Chancery

section Canonical

variable (D : Dialect)

/-- The integer that a value decodes to. -/
def canonicalInteger (width : Nat) (v : Value) : Value :=
  match D.integerFromValue v "" with
  | .ok n => D.integer width n
  | .error _ => v

/-- The bytes that a value decodes to. -/
def canonicalBytes (v : Value) : Value :=
  match D.bytesFromValue v "" with
  | .ok b => .bytes b
  | .error _ => v

/-- The address that a value decodes to. -/
def canonicalPublicKey (v : Value) : Value :=
  match v with
  | .string encoded => .string encoded
  | _ => match D.bytesFromValue v "" with
    | .ok b => .string (encodeBase58 b)
    | .error _ => v

/-- The value that a primitive decodes to. -/
def canonicalPrimitive : Primitive → Value → Value
  | .u8 => canonicalInteger D 1
  | .u16 => canonicalInteger D 2
  | .u32 => canonicalInteger D 4
  | .u64 => canonicalInteger D 8
  | .u128 => canonicalInteger D 16
  | .i64 => canonicalInteger D 8
  | .i128 => canonicalInteger D 16
  | .bool => id
  | .pubkey => canonicalPublicKey D

/-- The items of an accepted array, each put in canonical form. -/
def canonicalItems (canonical : Value → Value) (v : Value) : Value :=
  match D.arrayFromValue v "" with
  | .ok items => .array (items.map canonical)
  | .error _ => v

mutual
/-- The value that a type decodes to. -/
def canonicalType : TypeSchema → Value → Value
  | .primitive typeName, v => canonicalPrimitive D typeName v
  | .option item, v => if D.isNull v then .null else canonicalType item v
  | .array item _, v =>
    if item.isU8 then canonicalBytes D v
    else canonicalItems D (fun itemValue => canonicalType item itemValue) v
  | .vector item, v =>
    if item.isU8 then canonicalBytes D v
    else canonicalItems D (fun itemValue => canonicalType item itemValue) v
  | .defined _ fields, v =>
    match D.recordFromValue v "" with
    | .ok values => .object (canonicalStruct fields values false)
    | .error _ => v

/-- One entry a field, in schema order; padding left out by the caller counts as zero. -/
def canonicalStruct : Fields → StructValues → Bool → StructValues
  | [], _, _ => []
  | (name, type) :: rest, values, defaultMissingPadding =>
    let fieldValue := (fieldValueOrPadding D defaultMissingPadding values name type).getD D.absent
    (name, canonicalType type fieldValue) :: canonicalStruct rest values defaultMissingPadding
end

end Canonical

mutual
/-- No option directly within an option. -/
def TypeSchema.wellFormed : TypeSchema → Bool
  | .primitive _ => true
  | .option item => !item.isOption && item.wellFormed
  | .array item _ => item.wellFormed
  | .vector item => item.wellFormed
  | .defined _ fields => decide (fields.map Prod.fst).Nodup && fieldTypesWellFormed fields

def fieldTypesWellFormed : Fields → Bool
  | [] => true
  | (_, type) :: rest => type.wellFormed && fieldTypesWellFormed rest
end

/-- Well-formed types under distinct names. -/
def fieldsWellFormed (fields : Fields) : Bool :=
  decide (fields.map Prod.fst).Nodup && fieldTypesWellFormed fields

/-! ## Reading bytes -/

theorem readBytes_append {byteLength : Nat} {bytes : Bytes} (h : bytes.length = byteLength)
    (label : String) (rest : Bytes) :
    readBytes byteLength label (bytes ++ rest) = .ok (bytes, rest) := by
  rw [readBytes, if_neg (by simp [h]), ← h, List.take_left, List.drop_left]

theorem readBytes_ok {byteLength : Nat} {label : String} {input bytes rest : Bytes}
    (h : readBytes byteLength label input = .ok (bytes, rest)) :
    bytes.length = byteLength ∧ input = bytes ++ rest := by
  unfold readBytes at h
  split at h
  · cases h
  · rename_i hle
    cases h
    refine ⟨?_, (List.take_append_drop ..).symm⟩
    rw [List.length_take]
    omega

theorem decodeUnsigned_toBytes {byteLength n : Nat} (h : n < 2 ^ (8 * byteLength))
    (label : String) (rest : Bytes) :
    decodeUnsigned byteLength label (LittleEndian.toBytes byteLength n ++ rest) = .ok (n, rest) := by
  unfold decodeUnsigned
  rw [readBytes_append (LittleEndian.length_toBytes ..)]
  exact congrArg (fun m => Except.ok (m, rest)) (LittleEndian.ofBytes_toBytes h)

theorem decodeUnsigned_ok {byteLength n : Nat} {label : String} {input rest : Bytes}
    (h : decodeUnsigned byteLength label input = .ok (n, rest)) :
    n < 2 ^ (8 * byteLength) ∧ input = LittleEndian.toBytes byteLength n ++ rest := by
  obtain ⟨⟨bytes, reader⟩, hread, hret⟩ := Except.bind_eq_ok.1 h
  obtain ⟨hlen, rfl⟩ := readBytes_ok hread
  cases hret
  have hlt := LittleEndian.ofBytes_lt bytes
  rw [hlen] at hlt
  exact ⟨hlt, by rw [LittleEndian.toBytes_ofBytes_of_length hlen]⟩

/-! ## Primitives -/

section Primitives

variable {D : Dialect}

theorem encodeUnsignedInteger_ok {v : Value} {byteLength : Nat} {label : String} {bytes : Bytes}
    (h : encodeUnsignedInteger D v byteLength label = .ok bytes) :
    ∃ n : Int, D.integerFromValue v label = .ok n ∧ 0 ≤ n ∧ n < 2 ^ (8 * byteLength) ∧
      bytes = LittleEndian.toBytes byteLength n.toNat := by
  obtain ⟨n, hn, h⟩ := Except.bind_eq_ok.1 h
  split at h
  · cases h
  · rename_i hrange
    cases h
    exact ⟨n, hn, by omega, by omega, rfl⟩

theorem encodeSignedInteger_ok {v : Value} {byteLength : Nat} {label : String} {bytes : Bytes}
    (h : encodeSignedInteger D v byteLength label = .ok bytes) :
    ∃ n : Int, D.integerFromValue v label = .ok n ∧ -(2 ^ (8 * byteLength - 1)) ≤ n ∧
      n < 2 ^ (8 * byteLength - 1) ∧
      bytes = LittleEndian.toBytes byteLength (LittleEndian.wrap (8 * byteLength) n).toNat := by
  obtain ⟨n, hn, h⟩ := Except.bind_eq_ok.1 h
  split at h
  · cases h
  · rename_i hrange
    cases h
    exact ⟨n, hn, by omega, by omega, rfl⟩

theorem canonicalInteger_eq {v : Value} {label : String} {n : Int} (width : Nat)
    (h : D.integerFromValue v label = .ok n) : canonicalInteger D width v = D.integer width n := by
  rw [canonicalInteger, D.integerFromValue_label "" h]

theorem canonicalBytes_eq {v : Value} {label : String} {b : Bytes}
    (h : D.bytesFromValue v label = .ok b) : canonicalBytes D v = .bytes b := by
  rw [canonicalBytes, D.bytesFromValue_label "" h]

theorem recovers_unsigned (byteLength : Nat) (label readLabel : String) :
    Codec.Recovers (fun v => encodeUnsignedInteger D v byteLength label)
      (decodeUnsignedInteger D byteLength readLabel) (canonicalInteger D byteLength) := by
  intro v bytes h rest
  obtain ⟨n, hn, hlo, hhi, rfl⟩ := encodeUnsignedInteger_ok h
  have hcast : (n.toNat : Int) = n := Int.toNat_of_nonneg hlo
  have hlt : n.toNat < 2 ^ (8 * byteLength) := by
    zify
    rw [hcast]
    exact hhi
  rw [decodeUnsignedInteger, decodeUnsigned_toBytes hlt, canonicalInteger_eq byteLength hn]
  exact congrArg (fun z => Except.ok (D.integer byteLength z, rest)) hcast

theorem reencodes_unsigned (byteLength : Nat) (label readLabel : String) :
    Codec.Reencodes (fun v => encodeUnsignedInteger D v byteLength label)
      (decodeUnsignedInteger D byteLength readLabel) := by
  intro input v rest h
  obtain ⟨⟨n, reader⟩, hn, hret⟩ := Except.bind_eq_ok.1 h
  obtain ⟨hlt, rfl⟩ := decodeUnsigned_ok hn
  cases hret
  have hz : (n : Int) < 2 ^ (8 * byteLength) := by exact_mod_cast hlt
  have hback := D.integerFromValue_integer byteLength n label (by omega) hz
  refine ⟨_, Except.bind_eq_ok.2 ⟨n, hback, ?_⟩, rfl⟩
  rw [if_neg (by omega), Int.toNat_natCast]
  rfl

theorem recovers_signed {byteLength : Nat} (hpos : 0 < byteLength) (label readLabel : String) :
    Codec.Recovers (fun v => encodeSignedInteger D v byteLength label)
      (decodeSignedInteger D byteLength readLabel) (canonicalInteger D byteLength) := by
  intro v bytes h rest
  obtain ⟨n, hn, hlo, hhi, rfl⟩ := encodeSignedInteger_ok h
  obtain ⟨bits, hbits⟩ : ∃ bits, 8 * byteLength = bits + 1 := ⟨8 * byteLength - 1, by omega⟩
  rw [hbits, Nat.add_sub_cancel] at hlo hhi
  have hpow : (2 : Int) ^ (bits + 1) = 2 * 2 ^ bits := by ring
  have hnonneg : 0 ≤ LittleEndian.wrap (bits + 1) n := LittleEndian.wrap_nonneg (by omega)
  have hwrap : LittleEndian.wrap (bits + 1) n < 2 ^ (bits + 1) := LittleEndian.wrap_lt (by omega)
  have hlt : (LittleEndian.wrap (8 * byteLength) n).toNat < 2 ^ (8 * byteLength) := by
    rw [hbits]
    zify
    rw [Int.toNat_of_nonneg hnonneg]
    exact hwrap
  rw [decodeSignedInteger, decodeUnsigned_toBytes hlt, canonicalInteger_eq byteLength hn, hbits]
  exact congrArg (fun z => Except.ok (D.integer byteLength z, rest))
    (LittleEndian.unwrap_wrap hlo hhi)

theorem reencodes_signed {byteLength : Nat} (hpos : 0 < byteLength) (label readLabel : String) :
    Codec.Reencodes (fun v => encodeSignedInteger D v byteLength label)
      (decodeSignedInteger D byteLength readLabel) := by
  intro input v rest h
  obtain ⟨⟨n, reader⟩, hn, hret⟩ := Except.bind_eq_ok.1 h
  obtain ⟨hlt, rfl⟩ := decodeUnsigned_ok hn
  cases hret
  obtain ⟨bits, hbits⟩ : ∃ bits, 8 * byteLength = bits + 1 := ⟨8 * byteLength - 1, by omega⟩
  rw [hbits] at hlt
  obtain ⟨hlo, hhi⟩ := LittleEndian.unwrap_bounds hlt
  have hpow : (2 : Int) ^ (bits + 1) = 2 * 2 ^ bits := by ring
  have hback := D.integerFromValue_integer byteLength (LittleEndian.unwrap (8 * byteLength) n) label
    (by rw [hbits]; omega) (by rw [hbits]; omega)
  refine ⟨_, Except.bind_eq_ok.2 ⟨_, hback, ?_⟩, rfl⟩
  rw [hbits, Nat.add_sub_cancel, if_neg (by omega), LittleEndian.wrap_unwrap hlt]
  rfl

theorem encodePublicKey_ok {v : Value} {label : String} {bytes : Bytes}
    (h : encodePublicKey D v label = .ok bytes) :
    bytes.length = 32 ∧ canonicalPublicKey D v = .string (encodeBase58 bytes) := by
  obtain ⟨keyBytes, hkey, h⟩ := Except.bind_eq_ok.1 h
  split at h
  · cases h
  · rename_i hlen
    cases h
    refine ⟨by omega, ?_⟩
    cases v with
    | string encoded => exact congrArg Value.string (encodeBase58_of_decodeBase58 hkey).symm
    | _ => simp only [canonicalPublicKey, D.bytesFromValue_label "" hkey]

theorem recovers_primitive (typeName : Primitive) (label readLabel : String) :
    Codec.Recovers (fun v => encodePrimitive D typeName v label)
      (fun input => decodePrimitive D typeName input readLabel) (canonicalPrimitive D typeName) := by
  cases typeName with
  | u8 => exact recovers_unsigned 1 label readLabel
  | u16 => exact recovers_unsigned 2 label readLabel
  | u32 => exact recovers_unsigned 4 label readLabel
  | u64 => exact recovers_unsigned 8 label readLabel
  | u128 => exact recovers_unsigned 16 label readLabel
  | i64 => exact recovers_signed (by omega) label readLabel
  | i128 => exact recovers_signed (by omega) label readLabel
  | bool =>
    intro v bytes h rest
    cases v with
    | boolean b =>
      cases h
      have htag := decodeUnsigned_toBytes (by cases b <;> decide : b.toNat < 2 ^ (8 * 1)) readLabel rest
      cases b <;> exact Except.bind_eq_ok.2 ⟨_, htag, rfl⟩
    | _ => cases h
  | pubkey =>
    intro v bytes h rest
    obtain ⟨hlen, hcanonical⟩ := encodePublicKey_ok h
    simp only [decodePrimitive, canonicalPrimitive]
    rw [readBytes_append hlen, hcanonical]
    rfl

theorem reencodes_primitive (typeName : Primitive) (label readLabel : String) :
    Codec.Reencodes (fun v => encodePrimitive D typeName v label)
      (fun input => decodePrimitive D typeName input readLabel) := by
  cases typeName with
  | u8 => exact reencodes_unsigned 1 label readLabel
  | u16 => exact reencodes_unsigned 2 label readLabel
  | u32 => exact reencodes_unsigned 4 label readLabel
  | u64 => exact reencodes_unsigned 8 label readLabel
  | u128 => exact reencodes_unsigned 16 label readLabel
  | i64 => exact reencodes_signed (by omega) label readLabel
  | i128 => exact reencodes_signed (by omega) label readLabel
  | bool =>
    intro input v rest h
    obtain ⟨⟨n, reader⟩, hn, hret⟩ := Except.bind_eq_ok.1 h
    obtain ⟨_, rfl⟩ := decodeUnsigned_ok hn
    dsimp only at hret
    split at hret
    · cases hret
    · rename_i htag
      cases hret
      obtain rfl | rfl : n = 0 ∨ n = 1 := by omega
      · exact ⟨_, rfl, rfl⟩
      · exact ⟨_, rfl, rfl⟩
  | pubkey =>
    intro input v rest h
    obtain ⟨⟨bytes, reader⟩, hread, hret⟩ := Except.bind_eq_ok.1 h
    obtain ⟨hlen, rfl⟩ := readBytes_ok hread
    cases hret
    refine ⟨bytes, ?_, rfl⟩
    refine Except.bind_eq_ok.2 ⟨bytes, decodeBase58_encodeBase58 bytes, ?_⟩
    rw [if_neg (fun hne => hne hlen)]
    rfl

end Primitives

/-! ## Lengths, bytes and items -/

section Types

variable {D : Dialect}

theorem encodeLength_ok {length : Nat} {label : String} {bytes : Bytes}
    (h : encodeLength D length label = .ok bytes) :
    length < 2 ^ (8 * 4) ∧ bytes = LittleEndian.toBytes 4 length := by
  obtain ⟨n, hn, _, hhi, rfl⟩ := encodeUnsignedInteger_ok h
  obtain rfl := D.integerFromValue_ok hn
  exact ⟨by exact_mod_cast hhi, by rw [Int.toNat_natCast]⟩

theorem encodeLength_of_lt {length : Nat} (h : length < 2 ^ (8 * 4)) (label : String) :
    encodeLength D length label = .ok (LittleEndian.toBytes 4 length) := by
  have hz : (length : Int) < 2 ^ (8 * 4) := by exact_mod_cast h
  have hback := D.integerFromValue_integer 4 length s!"{label}.length" (by omega) hz
  refine Except.bind_eq_ok.2 ⟨length, hback, ?_⟩
  rw [if_neg (by omega), Int.toNat_natCast]
  rfl

theorem canonicalItems_eq {canonical : Value → Value} {v : Value} {label : String}
    {items : List Value} (h : D.arrayFromValue v label = .ok items) :
    canonicalItems D canonical v = .array (items.map canonical) := by
  rw [canonicalItems, D.arrayFromValue_label "" h]

/-- An option's item encodes to the item's bytes after the tag. -/
theorem decodeTypeWith_some {item : TypeSchema} {label : String} {bytes rest : Bytes} {v : Value}
    (h : decodeTypeWith D item bytes label = .ok (v, rest)) :
    decodeTypeWith D (.option item) (1 :: bytes) label = .ok (v, rest) := by
  have htag := decodeUnsigned_toBytes (by decide : 1 < 2 ^ (8 * 1)) s!"{label}.tag" bytes
  rw [decodeTypeWith]
  exact Except.bind_eq_ok.2 ⟨_, htag, h⟩

/-! ## Decoding an encoding -/

mutual
/-- **Decoding inverts encoding** up to the canonical form and stops at the suffix. -/
theorem recovers_type : ∀ (type : TypeSchema) (label readLabel : String),
    Codec.Recovers (fun v => encodeTypeWith D type v label)
      (fun input => decodeTypeWith D type input readLabel) (canonicalType D type)
  | .primitive typeName, label, readLabel, v, bytes, h, rest => by
    simp only [encodeTypeWith, decodeTypeWith, canonicalType] at h ⊢
    exact recovers_primitive typeName label readLabel v bytes h rest
  | .option item, label, readLabel, v, bytes, h, rest => by
    simp only [encodeTypeWith, canonicalType] at h ⊢
    split at h
    · rename_i hnull
      cases h
      have htag := decodeUnsigned_toBytes (by decide : 0 < 2 ^ (8 * 1)) s!"{readLabel}.tag" rest
      rw [if_pos hnull, decodeTypeWith]
      exact Except.bind_eq_ok.2 ⟨_, htag, rfl⟩
    · rename_i hnull
      obtain ⟨encoded, hitem, hret⟩ := Except.bind_eq_ok.1 h
      cases hret
      rw [if_neg hnull]
      exact decodeTypeWith_some (recovers_type item label readLabel v encoded hitem rest)
  | .array item length, label, readLabel, v, bytes, h, rest => by
    simp only [encodeTypeWith, decodeTypeWith, canonicalType] at h ⊢
    split at h
    · rename_i hu8
      obtain ⟨b, hb, hret⟩ := Except.bind_eq_ok.1 h
      split at hret
      · cases hret
      · rename_i hlen
        cases hret
        rw [if_pos hu8, if_pos hu8, canonicalBytes_eq hb]
        have hread := readBytes_append (by omega : bytes.length = length) readLabel rest
        exact Except.bind_eq_ok.2 ⟨_, hread, rfl⟩
    · rename_i hu8
      obtain ⟨items, hitems, hret⟩ := Except.bind_eq_ok.1 h
      split at hret
      · cases hret
      · rename_i hlen
        obtain rfl : items.length = length := by omega
        have heach := Codec.recovers_each (fun index => recovers_type item s!"{label}[{index}]"
          s!"{readLabel}[{index}]") items 0 bytes hret rest
        rw [if_neg hu8, if_neg hu8, canonicalItems_eq hitems]
        exact Except.bind_eq_ok.2 ⟨_, heach, rfl⟩
  | .vector item, label, readLabel, v, bytes, h, rest => by
    simp only [encodeTypeWith, decodeTypeWith, canonicalType] at h ⊢
    split at h
    · rename_i hu8
      obtain ⟨b, hb, hlen⟩ := Except.bind_eq_ok.1 h
      obtain ⟨prefixBytes, hinit, hret⟩ := Except.bind_eq_ok.1 hlen
      obtain ⟨hlt, rfl⟩ := encodeLength_ok hinit
      cases hret
      rw [List.append_assoc, canonicalBytes_eq hb]
      have hread := readBytes_append (rfl : b.length = b.length) readLabel rest
      refine Except.bind_eq_ok.2 ⟨_, decodeUnsigned_toBytes hlt _ _, ?_⟩
      rw [if_pos hu8, if_pos hu8]
      exact Except.bind_eq_ok.2 ⟨_, hread, rfl⟩
    · rename_i hu8
      obtain ⟨items, hitems, hlen⟩ := Except.bind_eq_ok.1 h
      obtain ⟨prefixBytes, hinit, hrun⟩ := Except.bind_eq_ok.1 hlen
      obtain ⟨hlt, rfl⟩ := encodeLength_ok hinit
      obtain ⟨itemBytes, heach, hret⟩ := Except.bind_eq_ok.1 hrun
      cases hret
      rw [List.append_assoc, canonicalItems_eq hitems]
      have hback := Codec.recovers_each (fun index => recovers_type item s!"{label}[{index}]"
        s!"{readLabel}[{index}]") items 0 itemBytes heach rest
      refine Except.bind_eq_ok.2 ⟨_, decodeUnsigned_toBytes hlt _ _, ?_⟩
      rw [if_neg hu8, if_neg hu8]
      exact Except.bind_eq_ok.2 ⟨_, hback, rfl⟩
  | .defined name fields, label, readLabel, v, bytes, h, rest => by
    simp only [encodeTypeWith, decodeTypeWith, canonicalType] at h ⊢
    obtain ⟨values, hvalues, hfields⟩ := Except.bind_eq_ok.1 h
    have hback := recovers_struct fields values label readLabel false bytes hfields rest
    rw [D.recordFromValue_label "" hvalues]
    exact Except.bind_eq_ok.2 ⟨_, hback, rfl⟩

theorem recovers_struct : ∀ (fields : Fields) (values : StructValues) (label readLabel : String)
    (defaultMissingPadding : Bool) (bytes : Bytes),
    encodeStructWith D fields values label defaultMissingPadding = .ok bytes → ∀ rest,
      decodeStructWith D fields (bytes ++ rest) readLabel =
        .ok (canonicalStruct D fields values defaultMissingPadding, rest)
  | [], values, label, readLabel, pad, bytes, h, rest => by
    rw [encodeStructWith] at h
    cases h
    rfl
  | (name, type) :: fields, values, label, readLabel, pad, bytes, h, rest => by
    rw [encodeStructWith] at h
    obtain ⟨fieldValue, hvalue, hfield⟩ := Except.bind_eq_ok.1 h
    obtain ⟨encoded, hencoded, hfields⟩ := Except.bind_eq_ok.1 hfield
    obtain ⟨encodedRest, hrest, hret⟩ := Except.bind_eq_ok.1 hfields
    cases hret
    have hhead := recovers_type type s!"{label}.{name}" s!"{readLabel}.{name}" fieldValue encoded
      hencoded (encodedRest ++ rest)
    have htail := recovers_struct fields values label readLabel pad encodedRest hrest rest
    have hgetD : (fieldValueOrPadding D pad values name type).getD D.absent = fieldValue := by
      unfold fieldToEncode at hvalue
      split at hvalue
      · rename_i hsome
        cases hvalue
        rw [hsome]
        rfl
      · rename_i hnone
        split at hvalue
        · cases hvalue
          rw [hnone]
          rfl
        · cases hvalue
    rw [List.append_assoc, decodeStructWith, canonicalStruct, hgetD]
    exact Except.bind_eq_ok.2 ⟨_, hhead, Except.bind_eq_ok.2 ⟨_, htail, rfl⟩⟩
end

/-! ## Encoding what was decoded -/

/-- No decoder returns `undefined`, and only an option returns null. -/
theorem decodeTypeWith_ne : ∀ {type : TypeSchema} {input rest : Bytes} {label : String}
    {v : Value}, decodeTypeWith D type input label = .ok (v, rest) →
      v ≠ .undefined ∧ (type.isOption = false → v ≠ .null)
  | .primitive typeName, input, rest, label, v, h => by
    rw [decodeTypeWith] at h
    suffices hv : v ≠ .undefined ∧ v ≠ .null from ⟨hv.1, fun _ => hv.2⟩
    cases typeName with
    | bool =>
      obtain ⟨⟨n, reader⟩, _, hret⟩ := Except.bind_eq_ok.1 h
      dsimp only at hret
      split at hret
      · cases hret
      · cases hret
        exact ⟨Value.noConfusion, Value.noConfusion⟩
    | pubkey =>
      obtain ⟨⟨bytes, reader⟩, _, hret⟩ := Except.bind_eq_ok.1 h
      cases hret
      exact ⟨Value.noConfusion, Value.noConfusion⟩
    | _ =>
      obtain ⟨⟨n, reader⟩, _, hret⟩ := Except.bind_eq_ok.1 h
      cases hret
      exact D.integer_ne _ _
  | .option item, input, rest, label, v, h => by
    rw [decodeTypeWith] at h
    obtain ⟨⟨tag, reader⟩, _, hret⟩ := Except.bind_eq_ok.1 h
    refine ⟨?_, fun hopt => by cases hopt⟩
    dsimp only at hret
    split at hret
    · cases hret
      exact Value.noConfusion
    · split at hret
      · cases hret
      · exact (decodeTypeWith_ne hret).1
  | .array item length, input, rest, label, v, h => by
    rw [decodeTypeWith] at h
    split at h
    all_goals
      obtain ⟨⟨values, reader⟩, _, hret⟩ := Except.bind_eq_ok.1 h
      cases hret
      exact ⟨Value.noConfusion, fun _ => Value.noConfusion⟩
  | .vector item, input, rest, label, v, h => by
    rw [decodeTypeWith] at h
    obtain ⟨⟨length, reader⟩, _, hbody⟩ := Except.bind_eq_ok.1 h
    dsimp only at hbody
    split at hbody
    all_goals
      obtain ⟨⟨values, reader'⟩, _, hret⟩ := Except.bind_eq_ok.1 hbody
      cases hret
      exact ⟨Value.noConfusion, fun _ => Value.noConfusion⟩
  | .defined name fields, input, rest, label, v, h => by
    rw [decodeTypeWith] at h
    obtain ⟨⟨values, reader⟩, _, hret⟩ := Except.bind_eq_ok.1 h
    cases hret
    exact ⟨Value.noConfusion, fun _ => Value.noConfusion⟩

/-- A decoded struct lists its fields by name in schema order. -/
theorem decodeStructWith_names : ∀ {fields : Fields} {input rest : Bytes} {label : String}
    {values : StructValues}, decodeStructWith D fields input label = .ok (values, rest) →
      values.map Prod.fst = fields.map Prod.fst
  | [], _, _, _, _, h => by
    rw [decodeStructWith] at h
    cases h
    rfl
  | (name, type) :: fields, input, rest, label, values, h => by
    rw [decodeStructWith] at h
    obtain ⟨⟨v, reader⟩, _, hfields⟩ := Except.bind_eq_ok.1 h
    obtain ⟨⟨vs, reader'⟩, hvs, hret⟩ := Except.bind_eq_ok.1 hfields
    cases hret
    rw [List.map_cons, List.map_cons, decodeStructWith_names hvs]

mutual
/-- **What was consumed is the encoding of what was returned.** -/
theorem reencodes_type : ∀ (type : TypeSchema), type.wellFormed = true → ∀ (label readLabel : String),
    Codec.Reencodes (fun v => encodeTypeWith D type v label)
      (fun input => decodeTypeWith D type input readLabel)
  | .primitive typeName, _, label, readLabel, input, v, rest, h => by
    simp only [encodeTypeWith, decodeTypeWith] at h ⊢
    exact reencodes_primitive typeName label readLabel input v rest h
  | .option item, hwf, label, readLabel, input, v, rest, h => by
    simp only [TypeSchema.wellFormed, Bool.and_eq_true, Bool.not_eq_true'] at hwf
    simp only [encodeTypeWith, decodeTypeWith] at h ⊢
    obtain ⟨⟨tag, reader⟩, htag, hret⟩ := Except.bind_eq_ok.1 h
    obtain ⟨_, rfl⟩ := decodeUnsigned_ok htag
    dsimp only at hret
    split at hret
    · rename_i h0
      subst h0
      cases hret
      exact ⟨[0], by rw [if_pos D.isNull_null], rfl⟩
    · split at hret
      · cases hret
      · rename_i h1
        obtain rfl : tag = 1 := by omega
        obtain ⟨encoded, hencoded, rfl⟩ := reencodes_type item hwf.2 label readLabel reader v rest hret
        have hne := decodeTypeWith_ne hret
        have hnull : ¬ D.isNull v = true := fun hnull =>
          (D.isNull_cases hnull).elim hne.1 (hne.2 hwf.1)
        refine ⟨1 :: encoded, ?_, rfl⟩
        rw [if_neg hnull]
        exact Except.bind_eq_ok.2 ⟨encoded, hencoded, rfl⟩
  | .array item length, hwf, label, readLabel, input, v, rest, h => by
    simp only [TypeSchema.wellFormed] at hwf
    simp only [encodeTypeWith, decodeTypeWith] at h ⊢
    split at h
    · rename_i hu8
      obtain ⟨⟨bytes, reader⟩, hread, hret⟩ := Except.bind_eq_ok.1 h
      obtain ⟨hlen, rfl⟩ := readBytes_ok hread
      cases hret
      refine ⟨bytes, ?_, rfl⟩
      rw [if_pos hu8]
      refine Except.bind_eq_ok.2 ⟨bytes, D.bytesFromValue_bytes bytes label, ?_⟩
      rw [if_neg (fun hne => hne hlen)]
      rfl
    · rename_i hu8
      obtain ⟨⟨items, reader⟩, heach, hret⟩ := Except.bind_eq_ok.1 h
      cases hret
      have hlen := Codec.decodeEach_length heach
      obtain ⟨bytes, hbytes, rfl⟩ := Codec.reencodes_each (fun index => reencodes_type item hwf
        s!"{label}[{index}]" s!"{readLabel}[{index}]") length 0 input items _ heach
      refine ⟨bytes, ?_, rfl⟩
      rw [if_neg hu8]
      refine Except.bind_eq_ok.2 ⟨items, D.arrayFromValue_array items label, ?_⟩
      rw [if_neg (fun hne => hne hlen)]
      exact hbytes
  | .vector item, hwf, label, readLabel, input, v, rest, h => by
    simp only [TypeSchema.wellFormed] at hwf
    simp only [encodeTypeWith, decodeTypeWith] at h ⊢
    obtain ⟨⟨length, reader⟩, hlength, hbody⟩ := Except.bind_eq_ok.1 h
    obtain ⟨hlt, rfl⟩ := decodeUnsigned_ok hlength
    dsimp only at hbody
    split at hbody
    · rename_i hu8
      obtain ⟨⟨bytes, reader'⟩, hread, hret⟩ := Except.bind_eq_ok.1 hbody
      obtain ⟨hlen, rfl⟩ := readBytes_ok hread
      cases hret
      refine ⟨LittleEndian.toBytes 4 length ++ bytes, ?_, (List.append_assoc ..).symm⟩
      rw [if_pos hu8]
      refine Except.bind_eq_ok.2 ⟨bytes, D.bytesFromValue_bytes bytes label, ?_⟩
      rw [hlen]
      exact Except.bind_eq_ok.2 ⟨_, encodeLength_of_lt hlt label, rfl⟩
    · rename_i hu8
      obtain ⟨⟨items, reader'⟩, heach, hret⟩ := Except.bind_eq_ok.1 hbody
      cases hret
      have hlen := Codec.decodeEach_length heach
      obtain ⟨bytes, hbytes, rfl⟩ := Codec.reencodes_each (fun index => reencodes_type item hwf
        s!"{label}[{index}]" s!"{readLabel}[{index}]") length 0 reader items _ heach
      refine ⟨LittleEndian.toBytes 4 length ++ bytes, ?_, (List.append_assoc ..).symm⟩
      rw [if_neg hu8]
      refine Except.bind_eq_ok.2 ⟨items, D.arrayFromValue_array items label, ?_⟩
      rw [hlen]
      refine Except.bind_eq_ok.2 ⟨_, encodeLength_of_lt hlt label, ?_⟩
      exact Except.bind_eq_ok.2 ⟨bytes, hbytes, rfl⟩
  | .defined name fields, hwf, label, readLabel, input, v, rest, h => by
    simp only [TypeSchema.wellFormed, Bool.and_eq_true, decide_eq_true_eq] at hwf
    simp only [encodeTypeWith, decodeTypeWith] at h ⊢
    obtain ⟨⟨values, reader⟩, hvalues, hret⟩ := Except.bind_eq_ok.1 h
    cases hret
    have hnodup : (values.map Prod.fst).Nodup := by
      rw [decodeStructWith_names hvalues]
      exact hwf.1
    obtain ⟨bytes, hbytes, rfl⟩ := reencodes_fields fields hwf.2 values label readLabel false input
      values _ hvalues fun _ _ hmem => Table.lookup_of_mem hnodup hmem
    refine ⟨bytes, ?_, rfl⟩
    exact Except.bind_eq_ok.2 ⟨values, D.recordFromValue_object values label, hbytes⟩

/-- The decoded fields may be read back from any record that holds them. -/
theorem reencodes_fields : ∀ (fields : Fields), fieldTypesWellFormed fields = true →
    ∀ (record : StructValues) (label readLabel : String) (defaultMissingPadding : Bool)
      (input : Bytes) (values : StructValues) (rest : Bytes),
      decodeStructWith D fields input readLabel = .ok (values, rest) →
      (∀ name v, (name, v) ∈ values → record.lookup name = some v) →
      ∃ bytes, encodeStructWith D fields record label defaultMissingPadding = .ok bytes ∧
        input = bytes ++ rest
  | [], _, record, label, readLabel, pad, input, values, rest, h, _ => by
    rw [decodeStructWith] at h
    cases h
    exact ⟨[], by rw [encodeStructWith], rfl⟩
  | (name, type) :: fields, hwf, record, label, readLabel, pad, input, values, rest, h, hrecord => by
    simp only [fieldTypesWellFormed, Bool.and_eq_true] at hwf
    rw [decodeStructWith] at h
    obtain ⟨⟨v, reader⟩, hv, hfields⟩ := Except.bind_eq_ok.1 h
    obtain ⟨⟨vs, reader'⟩, hvs, hret⟩ := Except.bind_eq_ok.1 hfields
    cases hret
    obtain ⟨head, hhead, rfl⟩ := reencodes_type type hwf.1 s!"{label}.{name}" s!"{readLabel}.{name}"
      input v reader hv
    obtain ⟨tail, htail, rfl⟩ := reencodes_fields fields hwf.2 record label readLabel pad reader vs
      rest hvs fun n w hmem => hrecord n w (List.mem_cons_of_mem _ hmem)
    have hlookup := hrecord name v List.mem_cons_self
    have hfield : fieldToEncode D pad record name type label = .ok v := by
      rw [fieldToEncode, fieldValueOrPadding,
        D.fieldValue_lookup hlookup (decodeTypeWith_ne hv).1]
    refine ⟨head ++ tail, ?_, (List.append_assoc ..).symm⟩
    rw [encodeStructWith]
    refine Except.bind_eq_ok.2 ⟨v, hfield, Except.bind_eq_ok.2 ⟨head, hhead, ?_⟩⟩
    exact Except.bind_eq_ok.2 ⟨tail, htail, rfl⟩
end

/-- **A struct re-encodes to the bytes it was decoded from.** -/
theorem reencodes_struct {fields : Fields} (hwf : fieldsWellFormed fields = true)
    (label readLabel : String) (defaultMissingPadding : Bool) :
    Codec.Reencodes (fun values => encodeStructWith D fields values label defaultMissingPadding)
      (fun input => decodeStructWith D fields input readLabel) := by
  simp only [fieldsWellFormed, Bool.and_eq_true, decide_eq_true_eq] at hwf
  intro input values rest h
  have hnodup : (values.map Prod.fst).Nodup := by
    rw [decodeStructWith_names h]
    exact hwf.1
  exact reencodes_fields fields hwf.2 values label readLabel defaultMissingPadding input values rest h
    fun _ _ hmem => Table.lookup_of_mem hnodup hmem

end Types

/-! ## Both languages -/

/-- **The binary codec is exact in both languages**, for types and for structs. -/
theorem binaryCodec_roundTrip (type : TypeSchema) (htype : type.wellFormed = true)
    (fields : Fields) (hfields : fieldsWellFormed fields = true) (label readLabel : String)
    (defaultMissingPadding : Bool) :
    Codec.Recovers (fun v => encodeType type v label) (fun input => decodeType type input readLabel)
      (canonicalType typescript type) ∧
    Codec.Reencodes (fun v => encodeType type v label)
      (fun input => decodeType type input readLabel) ∧
    Codec.Recovers (fun values => encodeStruct fields values label defaultMissingPadding)
      (fun input => decodeStruct fields input readLabel)
      (fun values => canonicalStruct typescript fields values defaultMissingPadding) ∧
    Codec.Reencodes (fun values => encodeStruct fields values label defaultMissingPadding)
      (fun input => decodeStruct fields input readLabel) ∧
    Codec.Recovers (fun v => pythonEncodeType type v label)
      (fun input => pythonDecodeType type input readLabel) (canonicalType python type) ∧
    Codec.Reencodes (fun v => pythonEncodeType type v label)
      (fun input => pythonDecodeType type input readLabel) ∧
    Codec.Recovers (fun values => pythonEncodeStruct fields values label defaultMissingPadding)
      (fun input => pythonDecodeStruct fields input readLabel)
      (fun values => canonicalStruct python fields values defaultMissingPadding) ∧
    Codec.Reencodes (fun values => pythonEncodeStruct fields values label defaultMissingPadding)
      (fun input => pythonDecodeStruct fields input readLabel) :=
  ⟨recovers_type type label readLabel, reencodes_type type htype label readLabel,
   fun values => recovers_struct fields values label readLabel defaultMissingPadding,
   reencodes_struct hfields label readLabel defaultMissingPadding,
   recovers_type type label readLabel, reencodes_type type htype label readLabel,
   fun values => recovers_struct fields values label readLabel defaultMissingPadding,
   reencodes_struct hfields label readLabel defaultMissingPadding⟩

/-- An optional vector of attested entries comes back from in front of a trailing byte. -/
theorem binaryCodec_roundTrip_entries :
    decodeType (.option (.vector (.defined "Entry" [("id", .primitive .u16), ("key", .array (.primitive .u8) 2)])))
        [1, 1, 0, 0, 0, 5, 1, 7, 8, 99] "value" =
      .ok (.array [.object [("id", .number 261), ("key", .bytes [7, 8])]], [99]) :=
  (binaryCodec_roundTrip
    (.option (.vector (.defined "Entry" [("id", .primitive .u16), ("key", .array (.primitive .u8) 2)])))
    (by decide) [] (by decide) "value" "value" false).1
    (.array [.object [("key", .array [.number 7, .number 8]), ("id", .string "261")]])
    [1, 1, 0, 0, 0, 5, 1, 7, 8] (by rfl) [99]

end Chancery
