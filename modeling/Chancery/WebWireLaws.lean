import Chancery.WebWire

/-!
# What the web encoder takes

* `webIntegerFromValue_ok`, `webByteFromValue_ok`, `webBytesFromValue_ok` — an integer, a byte and
  byte data, by the form in which they were given.
* `uint8Array_of_bytes` — the conversion keeps what is byte data already.
* `webEncodeLength_ok`, `webFieldValue_ok`, `webDecodePublicKey_ok` — the parts of the walk.
-/

set_option autoImplicit false

namespace Chancery

variable {textToNumber : JsonLike → Except String JsNumber}

/-! ## Integers and bytes -/

theorem safeInteger_intCast (n : Int) :
    (JsNumber.finite n).safeInteger = if isSafeInteger n then some n else none := by
  rw [JsNumber.safeInteger, JsNumber.integral, if_pos (Rat.den_intCast n), Rat.num_intCast]
  exact Option.filter_some

theorem integral_eq {x : JsNumber} {n : Int} (h : x.integral = some n) : x = .finite n := by
  cases x with
  | finite value =>
    rw [JsNumber.integral] at h
    split at h
    · rename_i hden
      cases h
      exact congrArg JsNumber.finite (Rat.den_eq_one_iff value |>.1 hden).symm
    · cases h
  | _ => cases h

theorem safeInteger_eq {x : JsNumber} {n : Int} (h : x.safeInteger = some n) :
    x = .finite n ∧ isSafeInteger n = true := by
  obtain ⟨hintegral, hsafe⟩ := Option.filter_eq_some_iff.1 h
  exact ⟨integral_eq hintegral, hsafe⟩

theorem integral_intCast (n : Int) : (JsNumber.finite n).integral = some n := by
  rw [JsNumber.integral, if_pos (Rat.den_intCast n), Rat.num_intCast]

/-- What a number is for an encoder: its integer. -/
theorem webIntegerFromValue_ok {v : JsonLike} {label : String} {n : Int}
    (h : webIntegerFromValue v label = .ok n) :
    v = .bigint n ∨ v = .number (.finite n) ∧ isSafeInteger n = true ∨
      ∃ text, v = .string text ∧ parseDecimal text = some n := by
  unfold webIntegerFromValue at h
  dsimp only at h
  split at h
  · cases h
    exact .inl rfl
  · split at h
    · rename_i m hm
      cases h
      obtain ⟨rfl, hsafe⟩ := safeInteger_eq hm
      exact .inr (.inl ⟨rfl, hsafe⟩)
    · cases h
  · split at h
    · rename_i text _ m hm
      cases h
      exact .inr (.inr ⟨_, rfl, hm⟩)
    · cases h
  · cases h

theorem toUint8_byte {n : Int} (hlo : 0 ≤ n) (hhi : n ≤ 255) :
    (JsNumber.finite n).toUint8 = UInt8.ofNat n.toNat := by
  have htruncated : (JsNumber.finite n).truncated = some n := by
    rw [JsNumber.truncated, Rat.num_intCast, Rat.den_intCast]
    simp
  rw [JsNumber.toUint8, htruncated, Option.getD_some, Int.emod_eq_of_lt hlo (by omega)]

theorem webByteFromValue_ok {label : String} {index : Nat} {v : JsonLike} {chunk : Bytes}
    (h : webByteFromValue label index v = .ok chunk) :
    ∃ n : Int, v = .number (.finite n) ∧ 0 ≤ n ∧ n ≤ 255 ∧ chunk = [UInt8.ofNat n.toNat] := by
  unfold webByteFromValue at h
  dsimp only at h
  split at h
  · split at h
    · rename_i n hn
      split at h
      · cases h
      · cases h
        obtain rfl := integral_eq hn
        exact ⟨n, rfl, by omega, by omega, rfl⟩
    · cases h
  · cases h

/-- A byte list converts to the bytes it lists. -/
theorem mapM_uint8Element {label : String} : ∀ {items : List JsonLike} {index : Nat} {b : Bytes},
    Codec.encodeEach (webByteFromValue label) index items = .ok b →
      items.mapM (uint8Element textToNumber) = .ok b
  | [], _, _, h => by
    cases h
    rfl
  | item :: items, index, b, h => by
    obtain ⟨chunk, rest, hchunk, hrest, rfl⟩ := Codec.encodeEach_cons h
    obtain ⟨n, rfl, hlo, hhi, rfl⟩ := webByteFromValue_ok hchunk
    have hitem : uint8Element textToNumber (.number (.finite n)) = .ok (UInt8.ofNat n.toNat) :=
      congrArg Except.ok (toUint8_byte hlo hhi)
    rw [List.mapM_cons, Except.bind_of_ok hitem, Except.bind_of_ok (mapM_uint8Element hrest)]
    rfl

/-- Byte data converts to itself. -/
theorem uint8Array_of_bytes {v : JsonLike} {label : String} {b : Bytes}
    (hbytes : webBytesFromValue v label = .ok b) (htext : ∀ text, v ≠ .string text) :
    uint8Array textToNumber v = .ok b := by
  cases v with
  | bytes c => exact hbytes
  | array items => exact mapM_uint8Element hbytes
  | string text => exact absurd rfl (htext text)
  | _ => cases hbytes

theorem webDecodePublicKey_ok {v : JsonLike} {bytes : Bytes}
    (h : webDecodePublicKey textToNumber v = .ok bytes) :
    bytes.length = 32 ∧ ((∃ text, v = .string text ∧ decodeBase58 text = .ok bytes) ∨
      (∀ text, v ≠ .string text) ∧ uint8Array textToNumber v = .ok bytes) := by
  obtain ⟨keyBytes, hkey, h⟩ := Except.bind_eq_ok.1 h
  split at h
  · cases h
  · rename_i hlength
    cases h
    refine ⟨by omega, ?_⟩
    unfold webPublicKeyBytes at hkey
    split at hkey
    · exact .inl ⟨_, rfl, hkey⟩
    · rename_i hother
      exact .inr ⟨fun text htext => hother text htext, hkey⟩

/-! ## Parts of the walk -/

theorem webEncodeLength_ok {length : Nat} {label : String} {bytes : Bytes}
    (h : webEncodeLength length label = .ok bytes) :
    length < 2 ^ (8 * 4) ∧ bytes = LittleEndian.toBytes 4 length := by
  obtain ⟨n, hn, h⟩ := Except.bind_eq_ok.1 h
  have hlength : n = length := by
    have hcast : JsNumber.finite length = .finite (length : Int) := by rw [Int.cast_natCast]
    unfold webIntegerFromValue at hn
    dsimp only at hn
    rw [hcast, safeInteger_intCast] at hn
    split at hn
    · rename_i m hm
      cases hn
      split at hm
      · exact (Option.some.inj hm).symm
      · cases hm
    · cases hn
  subst hlength
  split at h
  · cases h
  · rename_i hrange
    cases h
    exact ⟨by omega, by rw [Int.toNat_natCast]⟩

theorem webFieldValue_ok {values v : JsonLike} {name label : String} {type : TypeSchema}
    (h : webFieldValue values name type label = .ok v) : v = values.property name := by
  unfold webFieldValue at h
  split at h
  · rename_i hundefined
    split at h
    · cases h
      exact hundefined.symm
    · cases h
  · cases h
    rfl

theorem isAbsent_cases {v : JsonLike} (h : v.isAbsent = true) :
    (v = .null ∨ v = .undefined) ∨ v = .string "" := by
  cases v with
  | null => exact .inl (.inl rfl)
  | undefined => exact .inl (.inr rfl)
  | string text => exact .inr (congrArg JsonLike.string (eq_of_beq h))
  | _ => cases h

theorem webArrayFromValue_ok {v : JsonLike} {rejected : String} {items : List JsonLike}
    (h : webArrayFromValue v rejected = .ok items) : v = .array items := by
  cases v with
  | array others =>
    cases h
    rfl
  | _ => cases h

end Chancery
