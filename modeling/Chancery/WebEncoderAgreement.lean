import Chancery.EncoderAgreement
import Chancery.WebWireLaws

/-!
# The web encoder against the other two

* `WebAgrees` — what the leaves of the web encoder and of a dialect must agree on;
  `webEncodeType_agree` by recursion over the schema.
* `webAgrees_typescript`, `webAgrees_python` — both dialects do, for a value as they hold it.
  A public key is where the web builder takes more; it agrees where the other encoder takes
  the value at all.
* `encoders_agree` — any two of the three encoders write the same bytes.
-/

set_option autoImplicit false

namespace Chancery

variable {textToNumber : JsonLike → Except String JsNumber}

/-! ## The walk -/

theorem webEncodeUnsignedInteger_agree {D : Dialect} {v : JsonLike} {w : Value}
    {label label' : String}
    (h : Consistent (webIntegerFromValue v label) (D.integerFromValue w label')) (byteLength : Nat) :
    Consistent (webEncodeUnsignedInteger v byteLength label)
      (encodeUnsignedInteger D w byteLength label') :=
  h.bind fun _ _ _ => Consistent.ite Consistent.refl

theorem webEncodeSignedInteger_agree {D : Dialect} {v : JsonLike} {w : Value}
    {label label' : String}
    (h : Consistent (webIntegerFromValue v label) (D.integerFromValue w label')) (byteLength : Nat) :
    Consistent (webEncodeSignedInteger v byteLength label)
      (encodeSignedInteger D w byteLength label') :=
  h.bind fun _ _ _ => Consistent.ite Consistent.refl

/-- What the web encoder and a dialect must agree on, for values that stand for each other. -/
structure WebAgrees (textToNumber : JsonLike → Except String JsNumber) (D : Dialect)
    (R : JsonLike → Value → Prop) : Prop where
  integer : ∀ {v w}, R v w → ∀ label label',
    Consistent (webIntegerFromValue v label) (D.integerFromValue w label')
  bytes : ∀ {v w}, R v w → ∀ label label',
    Consistent (webBytesFromValue v label) (D.bytesFromValue w label')
  publicKey : ∀ {v w}, R v w → ∀ label,
    Consistent (webDecodePublicKey textToNumber v) (encodePublicKey D w label)
  boolean : ∀ {b b'}, R (.boolean b) (.boolean b') → b = b'
  items : ∀ {items w}, R (.array items) w → ∀ {label values},
    D.arrayFromValue w label = .ok values → List.Forall₂ R items values
  field : ∀ {v w}, R v w → ∀ {label values}, D.recordFromValue w label = .ok values →
    ∀ name, R (v.property name) ((D.fieldValue values name).getD D.absent)
  isNull : ∀ {v w}, R v w → (D.isNull w = true ↔ v = .null ∨ v = .undefined)
  empty : ∀ {w}, R (.string "") w → ∀ type label bytes, encodeTypeWith D type w label ≠ .ok bytes

theorem webEncodeLength_agree (D : Dialect) (length : Nat) (label label' : String) :
    Consistent (webEncodeLength length label) (encodeLength D length label') := by
  intro bytes bytes' h h'
  rw [(webEncodeLength_ok h).2, (encodeLength_ok h').2]

section Walk

variable {D : Dialect} {R : JsonLike → Value → Prop}

theorem webEncodePrimitive_agree (hR : WebAgrees textToNumber D R) {v : JsonLike} {w : Value}
    (h : R v w) (typeName : Primitive) (label label' : String) :
    Consistent (webEncodePrimitive textToNumber typeName v label)
      (encodePrimitive D typeName w label') := by
  have hinteger := hR.integer h label label'
  cases typeName with
  | u8 => exact webEncodeUnsignedInteger_agree hinteger 1
  | u16 => exact webEncodeUnsignedInteger_agree hinteger 2
  | u32 => exact webEncodeUnsignedInteger_agree hinteger 4
  | u64 => exact webEncodeUnsignedInteger_agree hinteger 8
  | u128 => exact webEncodeUnsignedInteger_agree hinteger 16
  | i64 => exact webEncodeSignedInteger_agree hinteger 8
  | i128 => exact webEncodeSignedInteger_agree hinteger 16
  | bool =>
    intro bytes bytes' hb hb'
    cases v with
    | boolean b =>
      cases w with
      | boolean b' =>
        obtain rfl := hR.boolean h
        exact Except.ok.inj (hb.symm.trans hb')
      | _ => cases hb'
    | _ => cases hb
  | pubkey => exact hR.publicKey h label'

mutual
/-- **The web encoder never writes other bytes than a dialect that takes the value.** -/
theorem webEncodeType_agree (hR : WebAgrees textToNumber D R) : ∀ (type : TypeSchema)
    {v : JsonLike} {w : Value}, R v w → ∀ label label',
    Consistent (webEncodeType textToNumber type v label) (encodeTypeWith D type w label')
  | .primitive typeName, v, w, h, label, label' => by
    rw [webEncodeType, encodeTypeWith]
    exact webEncodePrimitive_agree hR h typeName label label'
  | .option item, v, w, h, label, label' => by
    rw [webEncodeType]
    by_cases habsent : v.isAbsent = true
    · rcases isAbsent_cases habsent with hnull | rfl
      · rw [if_pos habsent, encodeTypeWith, if_pos ((hR.isNull h).2 hnull)]
        exact Consistent.refl
      · exact fun _ bytes' _ hb' => absurd hb' (hR.empty h (.option item) label' bytes')
    · have hnull : ¬ D.isNull w = true := by
        intro hw
        rcases (hR.isNull h).1 hw with rfl | rfl <;> exact habsent rfl
      rw [if_neg habsent, encodeTypeWith, if_neg hnull]
      exact (webEncodeType_agree hR item h label label').bind fun _ _ _ => Consistent.refl
  | .array item length, v, w, h, label, label' => by
    rw [webEncodeType, encodeTypeWith]
    by_cases hu8 : item.isU8 = true
    · rw [if_pos hu8, if_pos hu8]
      exact (hR.bytes h label label').bind fun _ _ _ => Consistent.ite Consistent.refl
    · rw [if_neg hu8, if_neg hu8]
      intro bytes bytes' hb hb'
      obtain ⟨items, hitems, hb⟩ := Except.bind_eq_ok.1 hb
      obtain ⟨values, hvalues, hb'⟩ := Except.bind_eq_ok.1 hb'
      rw [webArrayFromValue_ok hitems] at h
      have hsame := hR.items h hvalues
      rw [hsame.length_eq] at hb
      refine Consistent.ite (encodeEach_agree ?_ hsame 0 0) bytes bytes' hb hb'
      exact fun x y hxy index index' => webEncodeType_agree hR item hxy _ _
  | .vector item, v, w, h, label, label' => by
    rw [webEncodeType, encodeTypeWith]
    by_cases hu8 : item.isU8 = true
    · rw [if_pos hu8, if_pos hu8]
      refine (hR.bytes h label label').bind fun bytes _ _ => ?_
      exact (webEncodeLength_agree D bytes.length label label').bind fun _ _ _ => Consistent.refl
    · rw [if_neg hu8, if_neg hu8]
      intro bytes bytes' hb hb'
      obtain ⟨items, hitems, hb⟩ := Except.bind_eq_ok.1 hb
      obtain ⟨values, hvalues, hb'⟩ := Except.bind_eq_ok.1 hb'
      rw [webArrayFromValue_ok hitems] at h
      have hsame := hR.items h hvalues
      rw [hsame.length_eq] at hb
      refine (webEncodeLength_agree D values.length label label').bind (fun _ _ _ => ?_) bytes
        bytes' hb hb'
      refine (encodeEach_agree ?_ hsame 0 0).bind fun _ _ _ => Consistent.refl
      exact fun x y hxy index index' => webEncodeType_agree hR item hxy _ _
  | .defined name fields, v, w, h, label, label' => by
    rw [webEncodeType, encodeTypeWith]
    intro bytes bytes' hb hb'
    obtain ⟨values, hvalues, hb'⟩ := Except.bind_eq_ok.1 hb'
    split at hb
    · exact webEncodeFields_agree hR fields (hR.field h hvalues) label label' bytes bytes' hb hb'
    · cases hb

theorem webEncodeFields_agree (hR : WebAgrees textToNumber D R) : ∀ (fields : Fields)
    {v : JsonLike} {values : StructValues},
    (∀ name, R (v.property name) ((D.fieldValue values name).getD D.absent)) → ∀ label label',
    Consistent (webEncodeFields textToNumber fields v label)
      (encodeStructWith D fields values label' false)
  | [], _, _, _, _, _ => by
    rw [webEncodeFields, encodeStructWith]
    exact Consistent.refl
  | (name, type) :: fields, v, values, h, label, label' => by
    rw [webEncodeFields, encodeStructWith]
    intro bytes bytes' hb hb'
    obtain ⟨x, hx, hb⟩ := Except.bind_eq_ok.1 hb
    obtain ⟨y, hy, hb'⟩ := Except.bind_eq_ok.1 hb'
    have hfield := h name
    rw [← webFieldValue_ok hx, ← fieldToEncode_ok hy] at hfield
    refine (webEncodeType_agree hR type hfield _ _).bind (fun _ _ _ => ?_) bytes bytes' hb hb'
    exact (webEncodeFields_agree hR fields h label label').bind fun _ _ _ => Consistent.refl
end

end Walk

/-! ## TypeScript -/

@[simp] theorem itemsAsTypeScript_eq_map : ∀ items : List JsonLike,
    itemsAsTypeScript items = items.map asTypeScript
  | [] => rfl
  | item :: items => by rw [itemsAsTypeScript, itemsAsTypeScript_eq_map items, List.map_cons]

theorem lookup_propertiesAsTypeScript (name : String) : ∀ properties : JsonProperties,
    (propertiesAsTypeScript properties).lookup name = (properties.lookup name).map asTypeScript
  | [] => rfl
  | (other, v) :: properties => by
    rw [propertiesAsTypeScript]
    by_cases h : name = other
    · subst h
      simp [List.lookup]
    · have hne : (name == other) = false := by simpa using h
      simp only [List.lookup, hne]
      exact lookup_propertiesAsTypeScript name properties

theorem asTypeScript_integer (n : Int) : asTypeScript (.number (.finite n)) = .number n := by
  rw [asTypeScript, integral_intCast]

/-- The web builder reads the integers that TypeScript reads. -/
theorem typescript_integerFromValue {v : JsonLike} {label label' : String} {n : Int} :
    TypeScript.integerFromValue (asTypeScript v) label' = .ok n ↔
      webIntegerFromValue v label = .ok n := by
  constructor
  · intro h
    cases v with
    | number x =>
      rw [asTypeScript] at h
      cases hx : x.integral with
      | none => rw [hx] at h; cases h
      | some m =>
        rw [hx] at h
        obtain rfl := integral_eq hx
        simp only [TypeScript.integerFromValue] at h
        split at h
        · rename_i hsafe
          cases h
          simp only [webIntegerFromValue, safeInteger_intCast, hsafe, if_true]
        · cases h
    | string text =>
      simp only [asTypeScript, TypeScript.integerFromValue] at h
      simp only [webIntegerFromValue]
      cases hparse : parseDecimal text with
      | none =>
        rw [hparse] at h
        cases h
      | some n =>
        rw [hparse] at h
        exact h
    | bigint m => exact h
    | _ => cases h
  · intro h
    rcases webIntegerFromValue_ok h with rfl | ⟨rfl, hsafe⟩ | ⟨text, rfl, hparse⟩
    · rfl
    · simp only [asTypeScript_integer, TypeScript.integerFromValue, hsafe, if_true]
    · simp only [asTypeScript, TypeScript.integerFromValue, hparse]

/-- An element that TypeScript takes for a byte. -/
theorem typescript_byteFromValue {v : JsonLike} {label label' : String} {index index' : Nat}
    {chunk : Bytes} : TypeScript.byteFromValue label' index' (asTypeScript v) = .ok chunk ↔
      webByteFromValue label index v = .ok chunk := by
  constructor
  · intro h
    cases v with
    | number x =>
      rw [asTypeScript] at h
      cases hx : x.integral with
      | none => rw [hx] at h; cases h
      | some n =>
        rw [hx] at h
        simp only [TypeScript.byteFromValue] at h
        simp only [webByteFromValue, hx]
        split at h
        · cases h
        · rename_i hrange
          rw [if_neg hrange]
          exact h
    | _ => cases h
  · intro h
    obtain ⟨n, rfl, hlo, hhi, rfl⟩ := webByteFromValue_ok h
    simp only [asTypeScript_integer, TypeScript.byteFromValue]
    rw [if_neg (by omega)]

theorem typescript_encodeBytes {label label' : String} : ∀ {items : List JsonLike}
    {index index' : Nat} {b : Bytes},
    Codec.encodeEach (TypeScript.byteFromValue label') index' (items.map asTypeScript) = .ok b →
      Codec.encodeEach (webByteFromValue label) index items = .ok b
  | [], _, _, _, h => h
  | item :: items, index, index', b, h => by
    obtain ⟨chunk, rest, hchunk, hrest, rfl⟩ := Codec.encodeEach_cons h
    rw [Codec.encodeEach, Except.bind_of_ok (typescript_byteFromValue.1 hchunk),
      Except.bind_of_ok (typescript_encodeBytes hrest)]
    rfl

theorem webDecodeHex_eq {text : String} {bytes : Bytes} (h : decodeHex text = .ok bytes) :
    webDecodeHex text = .ok bytes := by
  unfold decodeHex at h
  unfold webDecodeHex
  generalize (if text.startsWith "0x" then dropPrefix "0x" text else text) = body at h ⊢
  dsimp only at h ⊢
  cases hpairs : hexPairs body.toList with
  | none =>
    rw [hpairs] at h
    cases h
  | some bytes =>
    rw [hpairs] at h
    exact h

/-- The web builder reads the byte data that TypeScript reads. -/
theorem typescript_bytesFromValue {v : JsonLike} {label label' : String} {b : Bytes}
    (h : TypeScript.bytesFromValue (asTypeScript v) label' = .ok b) :
    webBytesFromValue v label = .ok b := by
  cases v with
  | number x =>
    rw [asTypeScript] at h
    cases hx : x.integral <;> rw [hx] at h <;> cases h
  | bytes c => exact h
  | array items =>
    rw [asTypeScript, itemsAsTypeScript_eq_map] at h
    exact typescript_encodeBytes h
  | string text =>
    simp only [asTypeScript, TypeScript.bytesFromValue] at h
    simp only [webBytesFromValue]
    split at h
    · rename_i hhex
      rw [if_pos hhex]
      exact webDecodeHex_eq h
    · rename_i hhex
      rw [if_neg hhex]
      split at h
      · rename_i hbase64
        rw [if_pos hbase64]
        exact h
      · cases h
  | _ => cases h

/-! ## Both dialects -/

/-- The empty text is no value of a type, and no absent option, for a dialect that reads no
integer and no bytes from it. -/
theorem encodeTypeWith_empty {D : Dialect}
    (hinteger : ∀ label n, D.integerFromValue (.string "") label ≠ .ok n)
    (hbytes : ∀ label b, D.bytesFromValue (.string "") label ≠ .ok b)
    (harray : ∀ label items, D.arrayFromValue (.string "") label ≠ .ok items)
    (hrecord : ∀ label values, D.recordFromValue (.string "") label ≠ .ok values) :
    ∀ (type : TypeSchema) (label : String) (bytes : Bytes),
      encodeTypeWith D type (.string "") label ≠ .ok bytes
  | .primitive typeName, label, bytes, h => by
    rw [encodeTypeWith] at h
    have hunsigned : ∀ byteLength,
        encodeUnsignedInteger D (.string "") byteLength label ≠ .ok bytes := by
      intro byteLength h
      obtain ⟨n, hn, _⟩ := encodeUnsignedInteger_ok h
      exact hinteger label n hn
    have hsigned : ∀ byteLength,
        encodeSignedInteger D (.string "") byteLength label ≠ .ok bytes := by
      intro byteLength h
      obtain ⟨n, hn, _⟩ := encodeSignedInteger_ok h
      exact hinteger label n hn
    cases typeName with
    | u8 => exact hunsigned 1 h
    | u16 => exact hunsigned 2 h
    | u32 => exact hunsigned 4 h
    | u64 => exact hunsigned 8 h
    | u128 => exact hunsigned 16 h
    | i64 => exact hsigned 8 h
    | i128 => exact hsigned 16 h
    | bool => cases h
    | pubkey =>
      obtain ⟨hlength, _⟩ := encodePublicKey_ok h
      obtain ⟨keyBytes, hkey, h⟩ := Except.bind_eq_ok.1 h
      have hempty : decodeBase58 "" = .ok [] := rfl
      obtain rfl : keyBytes = [] := Except.ok.inj (hkey.symm.trans hempty)
      cases h
  | .option item, label, bytes, h => by
    rw [encodeTypeWith] at h
    split at h
    · rename_i hnull
      rcases D.isNull_cases hnull with h' | h' <;> cases h'
    · obtain ⟨encoded, hencoded, _⟩ := Except.bind_eq_ok.1 h
      exact encodeTypeWith_empty hinteger hbytes harray hrecord item label encoded hencoded
  | .array item length, label, bytes, h => by
    rw [encodeTypeWith] at h
    split at h
    · obtain ⟨b, hb, _⟩ := Except.bind_eq_ok.1 h
      exact hbytes label b hb
    · obtain ⟨items, hitems, _⟩ := Except.bind_eq_ok.1 h
      exact harray label items hitems
  | .vector item, label, bytes, h => by
    rw [encodeTypeWith] at h
    split at h
    · obtain ⟨b, hb, _⟩ := Except.bind_eq_ok.1 h
      exact hbytes label b hb
    · obtain ⟨items, hitems, _⟩ := Except.bind_eq_ok.1 h
      exact harray label items hitems
  | .defined name fields, label, bytes, h => by
    rw [encodeTypeWith] at h
    obtain ⟨values, hvalues, _⟩ := Except.bind_eq_ok.1 h
    exact hrecord label values hvalues

theorem typescript_empty (type : TypeSchema) (label : String) (bytes : Bytes) :
    encodeTypeWith typescript type (.string "") label ≠ .ok bytes := by
  have hinteger : parseDecimal "" = none := rfl
  refine encodeTypeWith_empty ?_ ?_ ?_ ?_ type label bytes
  · intro label n
    simp [typescript, TypeScript.integerFromValue, hinteger]
  · intro label b
    simp [typescript, TypeScript.bytesFromValue, (by decide : "".startsWith "0x" = false),
      (by decide : "".startsWith "base64:" = false)]
  · intro label items
    simp [typescript, TypeScript.arrayFromValue]
  · intro label values
    simp [typescript, TypeScript.recordFromValue]

theorem python_empty (type : TypeSchema) (label : String) (bytes : Bytes) :
    encodeTypeWith python type (.string "") label ≠ .ok bytes := by
  have hinteger : pythonLooksLikeInteger "" = false := rfl
  refine encodeTypeWith_empty ?_ ?_ ?_ ?_ type label bytes
  · intro label n
    simp [python, Python.integerFromValue, hinteger]
  · intro label b
    simp [python, Python.bytesFromValue, (by decide : "".startsWith "0x" = false),
      (by decide : "".startsWith "base64:" = false)]
  · intro label items
    simp [python, Python.arrayFromValue, Python.sequenceItems]
  · intro label values
    simp [python, Python.recordFromValue]

/-- The public keys that a dialect takes too, when it takes bytes where the web builder does. -/
theorem publicKey_agree {D : Dialect} {v : JsonLike} {w : Value} {label : String}
    (htext : ∀ text, v = .string text ↔ w = .string text)
    (hbytes : (∀ text, v ≠ .string text) →
      Consistent (uint8Array textToNumber v) (D.bytesFromValue w label)) :
    Consistent (webDecodePublicKey textToNumber v) (encodePublicKey D w label) := by
  refine Consistent.bind ?_ fun _ _ _ => Consistent.ite Consistent.refl
  by_cases hstring : ∃ text, v = .string text
  · obtain ⟨text, rfl⟩ := hstring
    rw [(htext text).1 rfl]
    exact Consistent.refl
  · have hne : ∀ text, v ≠ .string text := fun text h => hstring ⟨text, h⟩
    have hleft : webPublicKeyBytes textToNumber v = uint8Array textToNumber v := by
      cases v with
      | string text => exact absurd rfl (hne text)
      | _ => rfl
    have hright : publicKeyBytesFromValue D w label = D.bytesFromValue w label := by
      cases w with
      | string text => exact absurd ((htext text).2 rfl) (hne text)
      | _ => rfl
    rw [hleft, hright]
    exact hbytes hne

theorem asTypeScript_string {v : JsonLike} {text : String} :
    v = .string text ↔ asTypeScript v = .string text := by
  constructor
  · rintro rfl
    rfl
  · intro h
    cases v with
    | string other =>
      cases h
      rfl
    | number x =>
      rw [asTypeScript] at h
      cases hx : x.integral <;> rw [hx] at h <;> cases h
    | _ => cases h

theorem asTypeScript_isNull {v : JsonLike} :
    TypeScript.isNull (asTypeScript v) = true ↔ v = .null ∨ v = .undefined := by
  constructor
  · intro h
    cases v with
    | null => exact .inl rfl
    | undefined => exact .inr rfl
    | number x =>
      rw [asTypeScript] at h
      cases hx : x.integral <;> rw [hx] at h <;> cases h
    | _ => cases h
  · rintro (rfl | rfl) <;> rfl

/-- A property that is `undefined` reads like a missing one. -/
theorem typescript_fieldValue (properties : JsonProperties) (name : String) :
    (TypeScript.fieldValue (propertiesAsTypeScript properties) name).getD .undefined =
      asTypeScript (JsonLike.property (.object properties) name) := by
  rw [TypeScript.fieldValue, lookup_propertiesAsTypeScript, JsonLike.property]
  cases properties.lookup name with
  | none => rfl
  | some v =>
    rw [Option.map_some, Option.getD_some]
    generalize asTypeScript v = w
    cases w <;> rfl

/-- **TypeScript and the web builder agree** on the values that both take. -/
theorem webAgrees_typescript :
    WebAgrees textToNumber typescript fun v w => w = asTypeScript v where
  integer := by
    rintro v w rfl label label' n m hn hm
    exact Except.ok.inj (hn.symm.trans (typescript_integerFromValue.1 hm))
  bytes := by
    rintro v w rfl label label' b c hb hc
    exact Except.ok.inj (hb.symm.trans (typescript_bytesFromValue hc))
  publicKey := by
    rintro v w rfl label
    refine publicKey_agree (fun _ => asTypeScript_string) fun hne b c hb hc => ?_
    have hbytes : webBytesFromValue v label = .ok c := typescript_bytesFromValue hc
    exact Except.ok.inj (hb.symm.trans (uint8Array_of_bytes hbytes hne))
  boolean := by
    intro b b' h
    cases h
    rfl
  items := by
    rintro items w rfl label values h
    rw [asTypeScript, itemsAsTypeScript_eq_map] at h
    cases h
    exact List.forall₂_map_right_iff.2 (List.forall₂_same.2 fun _ _ => rfl)
  field := by
    rintro v w rfl label values h name
    cases v with
    | object properties =>
      cases h
      exact typescript_fieldValue properties name
    | number x =>
      rw [asTypeScript] at h
      cases hx : x.integral <;> rw [hx] at h <;> cases h
    | _ => cases h
  isNull := by
    rintro v w rfl
    exact asTypeScript_isNull
  empty := by
    rintro w rfl
    exact typescript_empty

/-- What Python holds for a safe integer. -/
theorem heldAs_safeInteger {n : Int} {w : Value} (hsafe : isSafeInteger n = true)
    (h : HeldAs (.number (.finite n)) w) : w = .bigint n ∨ w = .fraction := by
  generalize hv : JsonLike.number (.finite n) = v at h
  cases h with
  | safe =>
    simp only [JsonLike.number.injEq, JsNumber.finite.injEq, Int.cast_inj] at hv
    subst hv
    exact .inl rfl
  | large _ hx =>
    obtain rfl := JsonLike.number.inj hv
    rw [safeInteger_intCast, if_pos hsafe] at hx
    cases hx
  | float => exact .inr rfl
  | _ => cases hv

theorem heldAs_string {v : JsonLike} {w : Value} (h : HeldAs v w) (text : String) :
    v = .string text ↔ w = .string text := by
  cases h with
  | string s => exact ⟨fun h => by cases h; rfl, fun h => by cases h; rfl⟩
  | _ => exact ⟨fun h => (nomatch h), fun h => (nomatch h)⟩

theorem isSafeInteger_byte {n : Int} (hlo : 0 ≤ n) (hhi : n ≤ 255) : isSafeInteger n = true := by
  have hmax : maxSafeInteger = 9007199254740991 := by decide
  rw [isSafeInteger, decide_eq_true_eq, hmax]
  omega

theorem python_byteFromValue_ok {label : String} {index : Nat} {w : Value} {chunk : Bytes}
    (h : Python.byteFromValue label index w = .ok chunk) :
    ∃ n : Int, w = .bigint n ∧ 0 ≤ n ∧ n ≤ 255 ∧ chunk = [UInt8.ofNat n.toNat] := by
  unfold Python.byteFromValue at h
  split at h
  · rename_i n
    split at h
    · cases h
    · cases h
      exact ⟨n, rfl, by omega, by omega, rfl⟩
  · cases h

theorem python_byteFromValue {v : JsonLike} {w : Value} (h : HeldAs v w) (label label' : String)
    (index index' : Nat) :
    Consistent (webByteFromValue label index v) (Python.byteFromValue label' index' w) := by
  intro chunk chunk' hchunk hchunk'
  obtain ⟨n, rfl, hlo, hhi, rfl⟩ := webByteFromValue_ok hchunk
  obtain ⟨m, rfl, _, _, rfl⟩ := python_byteFromValue_ok hchunk'
  rcases heldAs_safeInteger (isSafeInteger_byte hlo hhi) h with hm | hm
  · cases hm
    rfl
  · cases hm

/-- An element that Python takes for a byte converts to that byte, if at all. -/
theorem uint8Element_python {v : JsonLike} {w : Value} (h : HeldAs v w) {label : String}
    {index : Nat} {chunk : Bytes} {byte : UInt8}
    (hchunk : Python.byteFromValue label index w = .ok chunk)
    (hbyte : uint8Element textToNumber v = .ok byte) : chunk = [byte] := by
  obtain ⟨n, rfl, hlo, hhi, rfl⟩ := python_byteFromValue_ok hchunk
  have hsafe := isSafeInteger_byte hlo hhi
  cases h with
  | safe =>
    obtain ⟨x, hx, hret⟩ := Except.bind_eq_ok.1 hbyte
    cases hx
    cases hret
    rw [toUint8_byte hlo hhi]
  | large hwide =>
    rw [hsafe] at hwide
    cases hwide
  | bigint => cases hbyte

theorem itemsHeldAs_forall₂ : ∀ {items : List JsonLike} {values : List Value},
    ItemsHeldAs items values → List.Forall₂ HeldAs items values
  | _, _, .nil => .nil
  | _, _, .cons hitem hitems => .cons hitem (itemsHeldAs_forall₂ hitems)

theorem python_uint8Elements {label : String} : ∀ {items : List JsonLike} {values : List Value},
    List.Forall₂ HeldAs items values → ∀ index,
      Consistent (items.mapM (uint8Element textToNumber))
        (Codec.encodeEach (Python.byteFromValue label) index values)
  | _, _, .nil, _ => Consistent.refl
  | item :: items, w :: values, .cons hitem hitems, index => by
    intro b c hb hc
    obtain ⟨chunk, rest, hchunk, hrest, rfl⟩ := Codec.encodeEach_cons hc
    rw [List.mapM_cons] at hb
    obtain ⟨byte, hbyte, hb⟩ := Except.bind_eq_ok.1 hb
    obtain ⟨tail, htail, hret⟩ := Except.bind_eq_ok.1 hb
    cases hret
    rw [uint8Element_python hitem hchunk hbyte,
      python_uint8Elements hitems (index + 1) tail rest htail hrest]
    rfl

/-- Reading a property that is missing or `undefined`, and a missing key. -/
theorem propertiesHeldAs_lookup (name : String) : ∀ {properties : JsonProperties}
    {values : StructValues}, PropertiesHeldAs properties values →
      HeldAs ((properties.lookup name).getD .undefined) ((values.lookup name).getD .null)
  | _, _, .nil => HeldAs.undefined
  | (other, v) :: properties, _, .cons hv h => by
    by_cases hname : name = other
    · subst hname
      simpa [List.lookup] using hv
    · have hne : (name == other) = false := by simpa using hname
      simp only [List.lookup, hne]
      exact propertiesHeldAs_lookup name h
  | (other, _) :: properties, values, .omitted hother h => by
    by_cases hname : name = other
    · subst hname
      simpa [List.lookup, hother] using HeldAs.undefined
    · have hne : (name == other) = false := by simpa using hname
      simp only [List.lookup, hne]
      exact propertiesHeldAs_lookup name h

theorem heldAs_integer {v : JsonLike} {w : Value} (h : HeldAs v w) (label label' : String) :
    Consistent (webIntegerFromValue v label) (Python.integerFromValue w label') := by
  intro n m hn hm
  rcases webIntegerFromValue_ok hn with rfl | ⟨rfl, hsafe⟩ | ⟨text, rfl, hparse⟩
  · cases h
    cases hm
    rfl
  · rcases heldAs_safeInteger hsafe h with rfl | rfl
    · cases hm
      rfl
    · cases hm
  · cases h
    simp only [Python.integerFromValue] at hm
    split at hm
    · exact parseDecimal_pythonInt hparse hm
    · cases hm

theorem heldAs_bytes {v : JsonLike} {w : Value} (h : HeldAs v w) (label label' : String) :
    Consistent (webBytesFromValue v label) (Python.bytesFromValue w label') := by
  cases h with
  | bytes b => exact Consistent.refl
  | array hitems =>
    have hitem : ∀ v w, HeldAs v w → ∀ index index', Consistent (webByteFromValue label index v)
        (Python.byteFromValue label' index' w) := fun _ _ h =>
      python_byteFromValue h label label'
    exact encodeEach_agree hitem (itemsHeldAs_forall₂ hitems) 0 0
  | string text =>
    intro b c hb hc
    simp only [webBytesFromValue] at hb
    simp only [Python.bytesFromValue] at hc
    by_cases hhex : text.startsWith "0x" = true
    · rw [if_pos hhex] at hb hc
      unfold webDecodeHex at hb
      rw [if_pos hhex] at hb
      dsimp only at hb
      split at hb
      · cases hb
      · rename_i pairs hpairs
        cases hb
        rw [pythonFromHex, hexPairs_spaced hpairs] at hc
        cases hc
        rfl
    · rw [if_neg hhex] at hb hc
      by_cases hbase64 : text.startsWith "base64:" = true
      · rw [if_pos hbase64] at hb hc
        exact decodeBase64_pythonB64decode _ b c hb hc
      · rw [if_neg hbase64] at hb
        cases hb
  | _ => exact fun _ _ hb _ => nomatch hb

theorem heldAs_isNull {v : JsonLike} {w : Value} (h : HeldAs v w) :
    Python.isNull w = true ↔ v = .null ∨ v = .undefined := by
  cases h with
  | undefined => exact ⟨fun _ => .inr rfl, fun _ => rfl⟩
  | null => exact ⟨fun _ => .inl rfl, fun _ => rfl⟩
  | _ =>
    refine ⟨fun hnull => (nomatch hnull), fun hv => ?_⟩
    rcases hv with hv | hv <;> cases hv

/-- **Python and the web builder agree** on the values that both take. -/
theorem webAgrees_python : WebAgrees textToNumber python HeldAs where
  integer := heldAs_integer
  bytes := heldAs_bytes
  publicKey := by
    intro v w h label
    refine publicKey_agree (heldAs_string h) fun hne b c hb hc => ?_
    cases h with
    | bytes d => exact Except.ok.inj (hb.symm.trans hc)
    | array hitems =>
      exact python_uint8Elements (itemsHeldAs_forall₂ hitems) 0 b c hb hc
    | string text => exact absurd rfl (hne text)
    | _ => cases hc
  boolean := by
    intro b b' h
    cases h
    rfl
  items := by
    intro items w h label values hvalues
    cases h with
    | array hitems =>
      cases hvalues
      exact itemsHeldAs_forall₂ hitems
  field := by
    intro v w h label values hvalues name
    cases h with
    | object hproperties =>
      cases hvalues
      exact propertiesHeldAs_lookup name hproperties
    | _ => cases hvalues
  isNull := heldAs_isNull
  empty := by
    intro w h
    cases h
    exact python_empty

/-! ## TypeScript and Python -/

/-- The values of one JSON-like value in the two dialects. -/
def SameValue (a b : Value) : Prop := ∃ v, a = asTypeScript v ∧ HeldAs v b

theorem asTypeScript_boolean {v : JsonLike} {b : Bool} (h : asTypeScript v = .boolean b) :
    v = .boolean b := by
  cases v with
  | boolean c =>
    cases h
    rfl
  | number x =>
    rw [asTypeScript] at h
    cases hx : x.integral <;> rw [hx] at h <;> cases h
  | _ => cases h

/-- **TypeScript and Python agree** on the values that both take: the web builder takes the
integers and the byte data of TypeScript. -/
theorem dialectsAgree : DialectsAgree typescript python SameValue where
  integer := by
    rintro a w ⟨v, rfl, h⟩ label label' n m hn hm
    exact heldAs_integer h label label' n m (typescript_integerFromValue.1 hn) hm
  bytes := by
    rintro a w ⟨v, rfl, h⟩ label label' b c hb hc
    exact heldAs_bytes h label label' b c (typescript_bytesFromValue hb) hc
  publicKey := by
    rintro a w ⟨v, rfl, h⟩ label label' b c hb hc
    by_cases hstring : ∃ text, v = .string text
    · obtain ⟨text, rfl⟩ := hstring
      rw [(heldAs_string h text).1 rfl] at hc
      exact Except.ok.inj (hb.symm.trans hc)
    · have hne : ∀ text, v ≠ .string text := fun text h => hstring ⟨text, h⟩
      have hleft : TypeScript.bytesFromValue (asTypeScript v) label = .ok b := by
        generalize ha : asTypeScript v = a at hb
        cases a with
        | string text => exact absurd (asTypeScript_string.2 ha) (hne text)
        | _ => exact hb
      have hright : Python.bytesFromValue w label' = .ok c := by
        cases w with
        | string text => exact absurd ((heldAs_string h text).2 rfl) (hne text)
        | _ => exact hc
      exact heldAs_bytes h label label' b c (typescript_bytesFromValue hleft) hright
  boolean := by
    rintro b b' ⟨v, hv, h⟩
    rw [asTypeScript_boolean hv.symm] at h
    cases h
    rfl
  items := by
    rintro a w ⟨v, rfl, h⟩ label label' items values hitems hvalues
    cases h with
    | array hheld =>
      cases hvalues
      rw [asTypeScript, itemsAsTypeScript_eq_map] at hitems
      cases hitems
      exact List.forall₂_map_left_iff.2 ((itemsHeldAs_forall₂ hheld).imp fun v _ h => ⟨v, rfl, h⟩)
    | bytes => cases hitems
    | _ => cases hvalues
  field := by
    rintro a w ⟨v, rfl, h⟩ label label' values values' hvalues hvalues' name
    cases h with
    | object hproperties =>
      cases hvalues
      cases hvalues'
      exact ⟨_, typescript_fieldValue _ name, propertiesHeldAs_lookup name hproperties⟩
    | _ => cases hvalues'
  isNull := by
    rintro a w ⟨v, rfl, h⟩
    exact Bool.eq_iff_iff.2 (asTypeScript_isNull.trans (heldAs_isNull h).symm)

/-! ## Any two of the three -/

/-- **The three encoders never drift.** -/
theorem encoders_agree (textToNumber : JsonLike → Except String JsNumber) (type : TypeSchema)
    {v : JsonLike} {w : Value} (h : HeldAs v w) (label label' webLabel : String) :
    Consistent (encodeType type (asTypeScript v) label) (pythonEncodeType type w label') ∧
    Consistent (encodeType type (asTypeScript v) label) (webEncodeType textToNumber type v webLabel) ∧
    Consistent (pythonEncodeType type w label') (webEncodeType textToNumber type v webLabel) :=
  ⟨encodeTypeWith_agree dialectsAgree type ⟨v, rfl, h⟩ label label',
   (webEncodeType_agree webAgrees_typescript type rfl webLabel label).symm,
   (webEncodeType_agree webAgrees_python type h webLabel label').symm⟩

namespace Sample

/-- A struct with an option and a byte array. -/
def entryType : TypeSchema :=
  .defined "Entry" [("id", .primitive .u16), ("memo", .option (.vector (.primitive .u8))),
    ("tag", .array (.primitive .u8) 2)]

def entry : JsonLike :=
  .object [("id", .number (.finite (261 : Int))), ("memo", .undefined), ("tag", .string "0x0708")]

def pythonEntry : Value := .object [("id", .bigint 261), ("tag", .string "0x0708")]

end Sample

/-- An entry that all three encoders take. -/
theorem encoders_agree_entry :
    (Consistent (encodeType Sample.entryType (asTypeScript Sample.entry) "value")
        (pythonEncodeType Sample.entryType Sample.pythonEntry "value") ∧
      Consistent (encodeType Sample.entryType (asTypeScript Sample.entry) "value")
        (webEncodeType (fun _ => .ok .nan) Sample.entryType Sample.entry "value") ∧
      Consistent (pythonEncodeType Sample.entryType Sample.pythonEntry "value")
        (webEncodeType (fun _ => .ok .nan) Sample.entryType Sample.entry "value")) ∧
    (webEncodeType (fun _ => .ok .nan) Sample.entryType Sample.entry "value").toOption =
      some [5, 1, 0, 7, 8] := by
  have hheld : HeldAs Sample.entry Sample.pythonEntry :=
    .object (.cons (.safe (by decide)) (.omitted (by decide) (.cons (.string _) .nil)))
  exact ⟨encoders_agree (fun _ => .ok .nan) Sample.entryType hheld "value" "value" "value",
    by decide +kernel⟩

end Chancery
