import Chancery.BinaryCodecLaws
import Chancery.ProgramAddress
import Chancery.Protocol

/-!
# Permission values

Model of `integration/devnet/permissions/Value.ts`: what the proposal of a permission commits to.

* `permissionValuePayload`, `permissionValuePayload_ok` — six fields in 97 bytes.
* `permissionValueMessage`, `permissionChangeMessage` — what is hashed; `permissionValueHash`,
  `permissionChangeId`.
* `permissionMessages_exact` — every message stands for one commitment.
-/

set_option autoImplicit false

namespace Chancery

/-- A permission as its digest sees it. -/
structure PermissionValue where
  subject : String
  scopeKind : Int
  scopeKey : String
  roleBits : Int
  permissionGeneration : Int
  expiryUnixTimestamp : Int

/-- The bytes of a permission. -/
def permissionValuePayload (value : PermissionValue) : Except String Bytes := do
  rejectWhen (value.roleBits < 0 ∨ 2 ^ 128 ≤ value.roleBits) "Permission roles must fit u128"
  let subject ← decodePublicKey value.subject
  let scopeKind ← encodeType (.primitive .u8) (.number value.scopeKind) "scopeKind"
  let scopeKey ← decodePublicKey value.scopeKey
  let roleBits ← encodeType (.primitive .u128) (.bigint value.roleBits) "roleBits"
  let permissionGeneration ← encodeType (.primitive .u64) (.bigint value.permissionGeneration)
    "permissionGeneration"
  let expiryUnixTimestamp ← encodeType (.primitive .i64) (.bigint value.expiryUnixTimestamp)
    "expiryUnixTimestamp"
  return subject.bytes ++ (scopeKind ++ (scopeKey.bytes ++ (roleBits ++
    (permissionGeneration ++ expiryUnixTimestamp))))

/-- What `permissionValueHash` feeds to the digest. -/
def permissionValueMessage (target : String) (riskClass : UInt8) (value : PermissionValue) :
    Except String Bytes := do
  let targetKey ← decodePublicKey target
  let payload ← permissionValuePayload value
  return textSeed "chancery:pending-config-change:v1" ++ ([0, 5] ++ (targetKey.bytes ++
    (riskClass :: payload)))

/-- The digest of a permission. -/
def permissionValueHash (target : String) (riskClass : UInt8) (value : PermissionValue) :
    Except String Bytes := do
  let message ← permissionValueMessage target riskClass value
  return (platformSha256 message).val

/-- What `permissionChangeId` feeds to the digest. -/
def permissionChangeMessage (target : String) (newValueHash : Bytes) (governanceAuthority : String)
    (nonce : Int) : Except String Bytes := do
  rejectWhen (newValueHash.length ≠ 32) "Config-change value hash must contain 32 bytes"
  let nonceBytes ← encodeType (.primitive .u64) (.bigint nonce) "proposerNonce"
  let targetKey ← decodePublicKey target
  let governanceKey ← decodePublicKey governanceAuthority
  return textSeed "chancery:pending-config-change-id:v1" ++ ([0, 5] ++ (targetKey.bytes ++
    (newValueHash ++ (governanceKey.bytes ++ nonceBytes.reverse))))

/-- The id of a change. -/
def permissionChangeId (target : String) (newValueHash : Bytes) (governanceAuthority : String)
    (nonce : Int) : Except String Bytes := do
  let message ← permissionChangeMessage target newValueHash governanceAuthority nonce
  return (platformSha256 message).val

/-! ## Integers of a fixed width -/

section

variable {width : Nat} {n m : Int} {label : String} {bytes : Bytes}

theorem encodeUnsignedInteger_bigint :
    encodeUnsignedInteger typescript (.bigint n) width label = .ok bytes ↔
      0 ≤ n ∧ n < 2 ^ (8 * width) ∧ bytes = LittleEndian.toBytes width n.toNat := by
  constructor
  · intro h
    obtain ⟨k, hk, hlo, hhi, hbytes⟩ := encodeUnsignedInteger_ok h
    cases hk
    exact ⟨hlo, hhi, hbytes⟩
  · rintro ⟨hlo, hhi, rfl⟩
    refine Except.bind_eq_ok.2 ⟨n, rfl, ?_⟩
    rw [if_neg (by omega)]
    rfl

theorem encodeUnsignedInteger_number :
    encodeUnsignedInteger typescript (.number n) 1 label = .ok bytes ↔
      0 ≤ n ∧ n < 256 ∧ bytes = LittleEndian.toBytes 1 n.toNat := by
  constructor
  · intro h
    obtain ⟨k, hk, hlo, hhi, hbytes⟩ := encodeUnsignedInteger_ok h
    change (if isSafeInteger n then Except.ok n else _) = _ at hk
    split at hk
    · cases hk
      exact ⟨hlo, hhi, hbytes⟩
    · cases hk
  · rintro ⟨hlo, hhi, rfl⟩
    have hsafe : isSafeInteger n = true := by
      have hmax : maxSafeInteger = 9007199254740991 := by decide
      rw [isSafeInteger, decide_eq_true_eq, hmax]
      omega
    refine Except.bind_eq_ok.2 ⟨n, if_pos hsafe, ?_⟩
    rw [if_neg (by omega)]
    rfl

theorem encodeSignedInteger_bigint :
    encodeSignedInteger typescript (.bigint n) width label = .ok bytes ↔
      -(2 ^ (8 * width - 1)) ≤ n ∧ n < 2 ^ (8 * width - 1) ∧
        bytes = LittleEndian.toBytes width (LittleEndian.wrap (8 * width) n).toNat := by
  constructor
  · intro h
    obtain ⟨k, hk, hlo, hhi, hbytes⟩ := encodeSignedInteger_ok h
    cases hk
    exact ⟨hlo, hhi, hbytes⟩
  · rintro ⟨hlo, hhi, rfl⟩
    refine Except.bind_eq_ok.2 ⟨n, rfl, ?_⟩
    rw [if_neg (by omega)]
    rfl

theorem toBytes_injective {k l : Nat} (hk : k < 2 ^ (8 * width)) (hl : l < 2 ^ (8 * width))
    (h : LittleEndian.toBytes width k = LittleEndian.toBytes width l) : k = l := by
  rw [← LittleEndian.ofBytes_toBytes hk, h, LittleEndian.ofBytes_toBytes hl]

theorem unsigned_injective (hn : 0 ≤ n ∧ n < 2 ^ (8 * width)) (hm : 0 ≤ m ∧ m < 2 ^ (8 * width))
    (h : LittleEndian.toBytes width n.toNat = LittleEndian.toBytes width m.toNat) : n = m := by
  have hlt : ∀ {k : Int}, 0 ≤ k ∧ k < 2 ^ (8 * width) → k.toNat < 2 ^ (8 * width) := by
    intro k hk
    zify
    rw [Int.toNat_of_nonneg hk.1]
    exact hk.2
  have hsame := toBytes_injective (hlt hn) (hlt hm) h
  omega

theorem signed_injective {bits : Nat} (hbits : 8 * width = bits + 1)
    (hn : -(2 ^ bits) ≤ n ∧ n < 2 ^ bits) (hm : -(2 ^ bits) ≤ m ∧ m < 2 ^ bits)
    (h : LittleEndian.toBytes width (LittleEndian.wrap (8 * width) n).toNat =
      LittleEndian.toBytes width (LittleEndian.wrap (8 * width) m).toNat) : n = m := by
  rw [hbits] at h
  have hpow : (2 : Int) ^ (bits + 1) = 2 * 2 ^ bits := by ring
  have hlo : ∀ {k : Int}, -(2 ^ bits) ≤ k → 0 ≤ LittleEndian.wrap (bits + 1) k :=
    fun hk => LittleEndian.wrap_nonneg (by omega)
  have hhi : ∀ {k : Int}, k < 2 ^ bits → LittleEndian.wrap (bits + 1) k < 2 ^ (8 * width) := by
    intro k hk
    rw [hbits]
    exact LittleEndian.wrap_lt (by omega)
  have hsame := unsigned_injective ⟨hlo hn.1, hhi hn.2⟩ ⟨hlo hm.1, hhi hm.2⟩ h
  rw [← LittleEndian.unwrap_wrap hn.1 hn.2, hsame, LittleEndian.unwrap_wrap hm.1 hm.2]

end

theorem PublicKey.ext_bytes {key key' : PublicKey} (h : key.bytes = key'.bytes) : key = key' := by
  cases key
  cases key'
  cases h
  rfl

/-- Keys with the same bytes were decoded from the same text. -/
theorem decodePublicKey_same {text text' : String} {key key' : PublicKey}
    (h : decodePublicKey text = .ok key) (h' : decodePublicKey text' = .ok key')
    (hbytes : key.bytes = key'.bytes) : text = text' := by
  rw [← decodePublicKey_ok h, PublicKey.ext_bytes hbytes, decodePublicKey_ok h']

/-! ## The payload -/

/-- The values that a payload can hold. -/
structure PermissionValue.Fits (value : PermissionValue) : Prop where
  subject : ∃ key, decodePublicKey value.subject = .ok key
  scopeKind : 0 ≤ value.scopeKind ∧ value.scopeKind < 256
  scopeKey : ∃ key, decodePublicKey value.scopeKey = .ok key
  roleBits : 0 ≤ value.roleBits ∧ value.roleBits < 2 ^ 128
  permissionGeneration : 0 ≤ value.permissionGeneration ∧ value.permissionGeneration < 2 ^ 64
  expiryUnixTimestamp : -(2 ^ 63) ≤ value.expiryUnixTimestamp ∧ value.expiryUnixTimestamp < 2 ^ 63

/-- The fields, one after the other. -/
def PermissionValue.layout (value : PermissionValue) (subject scopeKey : PublicKey) : Bytes :=
  subject.bytes ++ (LittleEndian.toBytes 1 value.scopeKind.toNat ++ (scopeKey.bytes ++
    (LittleEndian.toBytes 16 value.roleBits.toNat ++
    (LittleEndian.toBytes 8 value.permissionGeneration.toNat ++
    LittleEndian.toBytes 8 (LittleEndian.wrap 64 value.expiryUnixTimestamp).toNat))))

theorem permissionValuePayload_iff {value : PermissionValue} {payload : Bytes} :
    permissionValuePayload value = .ok payload ↔ value.Fits ∧ ∃ subject scopeKey,
      decodePublicKey value.subject = .ok subject ∧ decodePublicKey value.scopeKey = .ok scopeKey ∧
        payload = value.layout subject scopeKey := by
  constructor
  · intro h
    obtain ⟨_, hroles, h⟩ := Except.bind_eq_ok.1 h
    obtain ⟨subject, hsubject, h⟩ := Except.bind_eq_ok.1 h
    obtain ⟨kind, hkind, h⟩ := Except.bind_eq_ok.1 h
    obtain ⟨scopeKey, hscopeKey, h⟩ := Except.bind_eq_ok.1 h
    obtain ⟨roles, hwords, h⟩ := Except.bind_eq_ok.1 h
    obtain ⟨generation, hgeneration, h⟩ := Except.bind_eq_ok.1 h
    obtain ⟨expiry, hexpiry, h⟩ := Except.bind_eq_ok.1 h
    cases h
    obtain ⟨hkindLo, hkindHi, rfl⟩ := encodeUnsignedInteger_number.1 hkind
    obtain ⟨hrolesLo, hrolesHi, rfl⟩ := encodeUnsignedInteger_bigint.1 hwords
    obtain ⟨hgenLo, hgenHi, rfl⟩ := encodeUnsignedInteger_bigint.1 hgeneration
    obtain ⟨hexpLo, hexpHi, rfl⟩ := encodeSignedInteger_bigint.1 hexpiry
    exact ⟨⟨⟨subject, hsubject⟩, ⟨hkindLo, hkindHi⟩, ⟨scopeKey, hscopeKey⟩, ⟨hrolesLo, hrolesHi⟩,
      ⟨hgenLo, hgenHi⟩, ⟨hexpLo, hexpHi⟩⟩, subject, scopeKey, hsubject, hscopeKey, rfl⟩
  · rintro ⟨hfits, subject, scopeKey, hsubject, hscopeKey, rfl⟩
    have hroles : rejectWhen (value.roleBits < 0 ∨ 2 ^ 128 ≤ value.roleBits)
        "Permission roles must fit u128" = .ok () := by
      rw [rejectWhen_ok]
      have := hfits.roleBits
      omega
    refine Except.bind_eq_ok.2 ⟨(), hroles, Except.bind_eq_ok.2 ⟨subject, hsubject, ?_⟩⟩
    refine Except.bind_eq_ok.2 ⟨_, encodeUnsignedInteger_number.2
      ⟨hfits.scopeKind.1, hfits.scopeKind.2, rfl⟩, ?_⟩
    refine Except.bind_eq_ok.2 ⟨scopeKey, hscopeKey, ?_⟩
    refine Except.bind_eq_ok.2 ⟨_, encodeUnsignedInteger_bigint.2
      ⟨hfits.roleBits.1, hfits.roleBits.2, rfl⟩, ?_⟩
    refine Except.bind_eq_ok.2 ⟨_, encodeUnsignedInteger_bigint.2
      ⟨hfits.permissionGeneration.1, hfits.permissionGeneration.2, rfl⟩, ?_⟩
    exact Except.bind_eq_ok.2 ⟨_, encodeSignedInteger_bigint.2
      ⟨hfits.expiryUnixTimestamp.1, hfits.expiryUnixTimestamp.2, rfl⟩, rfl⟩

theorem layout_length (value : PermissionValue) (subject scopeKey : PublicKey) :
    (value.layout subject scopeKey).length = 97 := by
  simp [PermissionValue.layout, subject.length_eq, scopeKey.length_eq]

/-- Equal payloads hold equal values. -/
theorem permissionValuePayload_injective {value value' : PermissionValue} {payload : Bytes}
    (h : permissionValuePayload value = .ok payload)
    (h' : permissionValuePayload value' = .ok payload) : value = value' := by
  obtain ⟨hfits, subject, scopeKey, hsubject, hscopeKey, hlayout⟩ := permissionValuePayload_iff.1 h
  obtain ⟨hfits', subject', scopeKey', hsubject', hscopeKey', hlayout'⟩ :=
    permissionValuePayload_iff.1 h'
  rw [hlayout, PermissionValue.layout, PermissionValue.layout] at hlayout'
  obtain ⟨hkey, hrest⟩ := List.append_inj hlayout' (by rw [subject.length_eq, subject'.length_eq])
  obtain ⟨hkind, hrest⟩ := List.append_inj hrest (by simp)
  obtain ⟨hscope, hrest⟩ := List.append_inj hrest
    (by rw [scopeKey.length_eq, scopeKey'.length_eq])
  obtain ⟨hroles, hrest⟩ := List.append_inj hrest (by simp)
  obtain ⟨hgeneration, hexpiry⟩ := List.append_inj hrest (by simp)
  have hsubjects := decodePublicKey_same hsubject hsubject' hkey
  have hscopes := decodePublicKey_same hscopeKey hscopeKey' hscope
  have hkinds := unsigned_injective hfits.scopeKind hfits'.scopeKind hkind
  have hwords := unsigned_injective hfits.roleBits hfits'.roleBits hroles
  have hgenerations := unsigned_injective hfits.permissionGeneration hfits'.permissionGeneration
    hgeneration
  have hexpiries := @signed_injective 8 _ _ 63 rfl hfits.expiryUnixTimestamp
    hfits'.expiryUnixTimestamp hexpiry
  cases value
  cases value'
  exact PermissionValue.mk.injEq .. ▸ ⟨hsubjects, hkinds, hscopes, hwords, hgenerations, hexpiries⟩

/-! ## The messages -/

theorem permissionValueMessage_iff {target : String} {riskClass : UInt8} {value : PermissionValue}
    {message : Bytes} : permissionValueMessage target riskClass value = .ok message ↔
      ∃ targetKey payload, decodePublicKey target = .ok targetKey ∧
        permissionValuePayload value = .ok payload ∧
        message = textSeed "chancery:pending-config-change:v1" ++ ([0, 5] ++ (targetKey.bytes ++
          (riskClass :: payload))) := by
  constructor
  · intro h
    obtain ⟨targetKey, htarget, h⟩ := Except.bind_eq_ok.1 h
    obtain ⟨payload, hpayload, h⟩ := Except.bind_eq_ok.1 h
    cases h
    exact ⟨targetKey, payload, htarget, hpayload, rfl⟩
  · rintro ⟨targetKey, payload, htarget, hpayload, rfl⟩
    exact Except.bind_eq_ok.2 ⟨targetKey, htarget, Except.bind_eq_ok.2 ⟨payload, hpayload, rfl⟩⟩

theorem permissionChangeMessage_iff {target governanceAuthority : String} {newValueHash : Bytes}
    {nonce : Int} {message : Bytes} :
    permissionChangeMessage target newValueHash governanceAuthority nonce = .ok message ↔
      newValueHash.length = 32 ∧ 0 ≤ nonce ∧ nonce < 2 ^ 64 ∧ ∃ targetKey governanceKey,
        decodePublicKey target = .ok targetKey ∧
        decodePublicKey governanceAuthority = .ok governanceKey ∧
        message = textSeed "chancery:pending-config-change-id:v1" ++ ([0, 5] ++
          (targetKey.bytes ++ (newValueHash ++ (governanceKey.bytes ++
            (LittleEndian.toBytes 8 nonce.toNat).reverse)))) := by
  constructor
  · intro h
    obtain ⟨_, hlength, h⟩ := Except.bind_eq_ok.1 h
    obtain ⟨nonceBytes, hnonce, h⟩ := Except.bind_eq_ok.1 h
    obtain ⟨targetKey, htarget, h⟩ := Except.bind_eq_ok.1 h
    obtain ⟨governanceKey, hgovernance, h⟩ := Except.bind_eq_ok.1 h
    cases h
    obtain ⟨hlo, hhi, rfl⟩ := encodeUnsignedInteger_bigint.1 hnonce
    exact ⟨not_not.1 (rejectWhen_ok.1 hlength), hlo, hhi, targetKey, governanceKey, htarget,
      hgovernance, rfl⟩
  · rintro ⟨hlength, hlo, hhi, targetKey, governanceKey, htarget, hgovernance, rfl⟩
    refine Except.bind_eq_ok.2 ⟨(), rejectWhen_ok.2 (not_not.2 hlength), ?_⟩
    refine Except.bind_eq_ok.2 ⟨_, encodeUnsignedInteger_bigint.2 ⟨hlo, hhi, rfl⟩, ?_⟩
    exact Except.bind_eq_ok.2 ⟨targetKey, htarget, Except.bind_eq_ok.2
      ⟨governanceKey, hgovernance, rfl⟩⟩

theorem permissionValueMessage_injective {target target' : String} {riskClass riskClass' : UInt8}
    {value value' : PermissionValue} {message : Bytes}
    (h : permissionValueMessage target riskClass value = .ok message)
    (h' : permissionValueMessage target' riskClass' value' = .ok message) :
    target = target' ∧ riskClass = riskClass' ∧ value = value' := by
  obtain ⟨key, payload, hkey, hpayload, hmessage⟩ := permissionValueMessage_iff.1 h
  obtain ⟨key', payload', hkey', hpayload', hmessage'⟩ := permissionValueMessage_iff.1 h'
  rw [hmessage, List.append_cancel_left_eq, List.append_cancel_left_eq] at hmessage'
  obtain ⟨hbytes, hrest⟩ := List.append_inj hmessage' (by rw [key.length_eq, key'.length_eq])
  obtain ⟨hrisk, rfl⟩ := List.cons.inj hrest
  exact ⟨decodePublicKey_same hkey hkey' hbytes, hrisk,
    permissionValuePayload_injective hpayload hpayload'⟩

theorem permissionChangeMessage_injective {target target' governance governance' : String}
    {newValueHash newValueHash' : Bytes} {nonce nonce' : Int} {message : Bytes}
    (h : permissionChangeMessage target newValueHash governance nonce = .ok message)
    (h' : permissionChangeMessage target' newValueHash' governance' nonce' = .ok message) :
    target = target' ∧ newValueHash = newValueHash' ∧ governance = governance' ∧
      nonce = nonce' := by
  obtain ⟨hlength, hlo, hhi, key, authority, hkey, hauthority, hmessage⟩ :=
    permissionChangeMessage_iff.1 h
  obtain ⟨hlength', hlo', hhi', key', authority', hkey', hauthority', hmessage'⟩ :=
    permissionChangeMessage_iff.1 h'
  rw [hmessage, List.append_cancel_left_eq, List.append_cancel_left_eq] at hmessage'
  obtain ⟨hbytes, hrest⟩ := List.append_inj hmessage' (by rw [key.length_eq, key'.length_eq])
  obtain ⟨hhash, hrest⟩ := List.append_inj hrest (by rw [hlength, hlength'])
  obtain ⟨hgovernance, hnonce⟩ := List.append_inj hrest
    (by rw [authority.length_eq, authority'.length_eq])
  exact ⟨decodePublicKey_same hkey hkey' hbytes, hhash,
    decodePublicKey_same hauthority hauthority' hgovernance,
    unsigned_injective ⟨hlo, hhi⟩ ⟨hlo', hhi'⟩ (List.reverse_injective hnonce)⟩

/-- The two kinds of messages part where their tags do. -/
theorem permissionMessages_disjoint {target target' governance : String} {riskClass : UInt8}
    {value : PermissionValue} {newValueHash : Bytes} {nonce : Int} {message : Bytes}
    (h : permissionValueMessage target riskClass value = .ok message) :
    permissionChangeMessage target' newValueHash governance nonce ≠ .ok message := by
  intro h'
  obtain ⟨key, payload, -, -, hmessage⟩ := permissionValueMessage_iff.1 h
  obtain ⟨-, -, -, key', authority, -, -, hmessage'⟩ := permissionChangeMessage_iff.1 h'
  have htag : (textSeed "chancery:pending-config-change:v1")[30]? = some 58 := by
    decide +kernel
  have htag' : (textSeed "chancery:pending-config-change-id:v1")[30]? = some 45 := by
    decide +kernel
  have hat : message[30]? = some 58 := by
    rw [hmessage, List.getElem?_append_left (List.getElem?_eq_some_iff.1 htag).1, htag]
  have hat' : message[30]? = some 45 := by
    rw [hmessage', List.getElem?_append_left (List.getElem?_eq_some_iff.1 htag').1, htag']
  rw [hat] at hat'
  cases hat'

/-- **Every message stands for one commitment**: a payload is built for exactly the values that
fit its fields and takes 97 bytes, two values, targets or risk classes give different messages, and
so do two proposals; no message is both, so nothing but the digest can confuse two of them. -/
theorem permissionMessages_exact :
    (∀ value, (∃ payload, permissionValuePayload value = .ok payload) ↔ value.Fits) ∧
    (∀ value payload, permissionValuePayload value = .ok payload → payload.length = 97) ∧
    (∀ target riskClass value target' riskClass' value' message,
      permissionValueMessage target riskClass value = .ok message →
      permissionValueMessage target' riskClass' value' = .ok message →
        target = target' ∧ riskClass = riskClass' ∧ value = value') ∧
    (∀ target newValueHash governance nonce target' newValueHash' governance' nonce' message,
      permissionChangeMessage target newValueHash governance nonce = .ok message →
      permissionChangeMessage target' newValueHash' governance' nonce' = .ok message →
        target = target' ∧ newValueHash = newValueHash' ∧ governance = governance' ∧
          nonce = nonce') ∧
    (∀ target riskClass value target' newValueHash governance nonce message,
      permissionValueMessage target riskClass value = .ok message →
        permissionChangeMessage target' newValueHash governance nonce ≠ .ok message) := by
  refine ⟨fun value => ⟨?_, ?_⟩, ?_,
    fun _ _ _ _ _ _ _ h h' => permissionValueMessage_injective h h',
    fun _ _ _ _ _ _ _ _ _ h h' => permissionChangeMessage_injective h h',
    fun _ _ _ _ _ _ _ _ h => permissionMessages_disjoint h⟩
  · rintro ⟨payload, h⟩
    exact (permissionValuePayload_iff.1 h).1
  · intro hfits
    obtain ⟨subject, hsubject⟩ := hfits.subject
    obtain ⟨scopeKey, hscopeKey⟩ := hfits.scopeKey
    exact ⟨_, permissionValuePayload_iff.2 ⟨hfits, subject, scopeKey, hsubject, hscopeKey, rfl⟩⟩
  · intro value payload h
    obtain ⟨-, subject, scopeKey, -, -, rfl⟩ := permissionValuePayload_iff.1 h
    exact layout_length value subject scopeKey

end Chancery
