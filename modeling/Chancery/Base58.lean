import Chancery.Lib.Radix

/-!
# Base58 and public keys

Model of `typescript/src/Base58Codec.ts` (`python/chancery_reference/base58_codec.py` is the
same code line by line).

* `encodeBase58`, `decodeBase58` — leading zero bytes become leading `1` characters, the rest
  goes through the carry loop of `Radix.convert`.
* `PublicKey` — the 32 bytes an address string denotes; `decodePublicKey`, `normalizePublicKey`.
* `decodeBase58_encodeBase58`, `encodeBase58_of_decodeBase58` — the two codecs are mutually
  inverse, so a string accepted by `normalizePublicKey` is its own normal form and an address
  may be handled as a `PublicKey` (`normalizePublicKey_ok`).
-/

set_option autoImplicit false

namespace Chancery

abbrev Bytes := List UInt8

/-- The 58 digits. -/
def base58Alphabet : List Char :=
  ['1', '2', '3', '4', '5', '6', '7', '8', '9', 'A', 'B', 'C', 'D', 'E', 'F', 'G', 'H', 'J', 'K',
   'L', 'M', 'N', 'P', 'Q', 'R', 'S', 'T', 'U', 'V', 'W', 'X', 'Y', 'Z', 'a', 'b', 'c', 'd', 'e',
   'f', 'g', 'h', 'i', 'j', 'k', 'm', 'n', 'o', 'p', 'q', 'r', 's', 't', 'u', 'v', 'w', 'x', 'y',
   'z']

/-- A digit's character. -/
def base58Digit (d : Nat) : Char := base58Alphabet.getD d '1'

/-- `BASE58_INDEXES`: the value of a character, `none` where the table holds `-1`. -/
def base58Index (c : Char) : Option Nat := base58Alphabet.idxOf? c

/-- How often an item leads a list. -/
def leadingCount {α : Type} [DecidableEq α] (x : α) : List α → Nat
  | [] => 0
  | y :: ys => if y = x then leadingCount x ys + 1 else 0

/-- Bytes in Base58; leading zeros are leading ones. -/
def encodeBase58 (bytes : Bytes) : String :=
  let leadingZeroCount := leadingCount 0 bytes
  let ones := List.replicate leadingZeroCount '1'
  match (bytes.drop leadingZeroCount).map UInt8.toNat with
  | [] => String.ofList ones
  | significant =>
    String.ofList (ones ++ (Radix.convert 58 256 significant).reverse.map base58Digit)

/-- The alphabet lookups of the decoding loop, with the index reported on failure. -/
def base58Indexes : Nat → List Char → Except String (List Nat)
  | _, [] => .ok []
  | index, c :: cs =>
    match base58Index c with
    | none => .error s!"Invalid base58 character at index {index}"
    | some d =>
      match base58Indexes (index + 1) cs with
      | .error e => .error e
      | .ok ds => .ok (d :: ds)

/-- The bytes of a Base58 text. -/
def decodeBase58 (encoded : String) : Except String Bytes :=
  let leadingOneCount := leadingCount '1' encoded.toList
  let zeros : Bytes := List.replicate leadingOneCount 0
  match base58Indexes leadingOneCount (encoded.toList.drop leadingOneCount) with
  | .error e => .error e
  | .ok [] => .ok zeros
  | .ok indexes => .ok (zeros ++ (Radix.convert 256 58 indexes).reverse.map UInt8.ofNat)

/-! ## The alphabet -/

theorem base58Index_spec {c : Char} {d : Nat} (h : base58Index c = some d) :
    d < 58 ∧ base58Digit d = c := by
  obtain ⟨hd, hc, _⟩ := List.findIdx?_eq_some_iff_getElem.1 h
  refine ⟨hd, ?_⟩
  rw [base58Digit, List.getD_eq_getElem?_getD, List.getElem?_eq_getElem hd]
  exact eq_of_beq hc

theorem base58Index_digit {d : Nat} (h : d < 58) : base58Index (base58Digit d) = some d :=
  (by decide : ∀ d < 58, base58Index (base58Digit d) = some d) d h

theorem base58Digit_zero : base58Digit 0 = '1' := rfl

theorem base58Digit_ne_one {d : Nat} (hd : 0 < d) (h : d < 58) : base58Digit d ≠ '1' := by
  intro he
  have h1 := base58Index_digit h
  rw [he] at h1
  have h0 : base58Index '1' = some 0 := rfl
  rw [h0, Option.some.injEq] at h1
  omega

theorem base58Indexes_map_digit : ∀ (ds : List Nat) (index : Nat), (∀ d ∈ ds, d < 58) →
    base58Indexes index (ds.map base58Digit) = .ok ds
  | [], _, _ => rfl
  | d :: ds, index, h => by
    rw [List.map_cons, base58Indexes, base58Index_digit (h d List.mem_cons_self)]
    rw [base58Indexes_map_digit ds _ fun x hx => h x (List.mem_cons_of_mem _ hx)]

theorem base58Indexes_ok : ∀ {cs : List Char} {index : Nat} {ds : List Nat},
    base58Indexes index cs = .ok ds → ds.map base58Digit = cs ∧ ∀ d ∈ ds, d < 58
  | [], _, ds, h => by
    cases h
    exact ⟨rfl, fun d hd => by cases hd⟩
  | c :: cs, index, ds, h => by
    unfold base58Indexes at h
    split at h
    · cases h
    · rename_i d hd
      obtain ⟨hlt, hdig⟩ := base58Index_spec hd
      split at h
      · cases h
      · rename_i ds' hds
        cases h
        obtain ⟨hmap, hall⟩ := base58Indexes_ok hds
        refine ⟨by rw [List.map_cons, hdig, hmap], fun x hx => ?_⟩
        rcases List.mem_cons.1 hx with rfl | hx
        · exact hlt
        · exact hall x hx

/-! ## Leading symbols -/

section LeadingCount

variable {α : Type} [DecidableEq α] (x : α)

theorem leadingCount_split : ∀ xs : List α,
    List.replicate (leadingCount x xs) x ++ xs.drop (leadingCount x xs) = xs
  | [] => rfl
  | y :: ys => by
    unfold leadingCount
    split
    · rename_i h
      rw [List.replicate_succ, List.drop_succ_cons, List.cons_append, leadingCount_split ys, h]
    · rfl

theorem leadingCount_drop_head {xs : List α} {y : α} {ys : List α}
    (h : xs.drop (leadingCount x xs) = y :: ys) : y ≠ x := by
  induction xs with
  | nil => cases h
  | cons z zs ih =>
    unfold leadingCount at h
    split at h
    · exact ih (by simpa using h)
    · rename_i hz
      cases h
      exact hz

theorem leadingCount_replicate (n : Nat) : leadingCount x (List.replicate n x) = n := by
  induction n with
  | zero => rfl
  | succ n ih => rw [List.replicate_succ, leadingCount, if_pos rfl, ih]

theorem leadingCount_append {y : α} (hy : y ≠ x) (n : Nat) (ys : List α) :
    leadingCount x (List.replicate n x ++ y :: ys) = n := by
  induction n with
  | zero => rw [List.replicate_zero, List.nil_append, leadingCount, if_neg hy]
  | succ n ih => rw [List.replicate_succ, List.cons_append, leadingCount, if_pos rfl, ih]

end LeadingCount

/-! ## Both directions -/

theorem toNat_pos_of_ne_zero {b : UInt8} (h : b ≠ 0) : 0 < b.toNat := by
  rcases Nat.eq_zero_or_pos b.toNat with h0 | h0
  · exact absurd (UInt8.toNat_inj.1 (by simpa using h0)) h
  · exact h0

theorem map_ofNat_toNat (bytes : Bytes) : (bytes.map UInt8.toNat).map UInt8.ofNat = bytes := by
  rw [List.map_map]
  conv_rhs => rw [← List.map_id bytes]
  exact List.map_congr_left fun b _ => by simp

theorem map_toNat_ofNat {ds : List Nat} (h : ∀ d ∈ ds, d < 256) :
    (ds.map UInt8.ofNat).map UInt8.toNat = ds := by
  rw [List.map_map]
  conv_rhs => rw [← List.map_id ds]
  refine List.map_congr_left fun d hd => ?_
  have := h d hd
  simp only [Function.comp_apply, id_eq, UInt8.toNat_ofNat']
  omega

/-- **Decoding inverts encoding**, leading zeros included. -/
theorem decodeBase58_encodeBase58 (bytes : Bytes) :
    decodeBase58 (encodeBase58 bytes) = .ok bytes := by
  have hsplit := leadingCount_split 0 bytes
  unfold encodeBase58
  simp only
  cases hrest : bytes.drop (leadingCount 0 bytes) with
  | nil =>
    rw [hrest, List.append_nil] at hsplit
    simp only [List.map_nil, decodeBase58, String.toList_ofList, leadingCount_replicate]
    rw [List.drop_of_length_le (by simp)]
    simp [base58Indexes, hsplit]
  | cons b bs =>
    have hb : 0 < b.toNat := toNat_pos_of_ne_zero (leadingCount_drop_head 0 hrest)
    have hbytes : ∀ x ∈ b.toNat :: bs.map UInt8.toNat, x < 256 := by
      intro x hx
      rw [← List.map_cons] at hx
      obtain ⟨c, _, rfl⟩ := List.mem_map.1 hx
      exact c.toNat_lt
    rw [hrest] at hsplit
    generalize leadingCount 0 bytes = n at hsplit ⊢
    have hback := Radix.convert_convert (by omega : 1 < 58) (by omega) hb hbytes
    have hlt := Radix.convert_lt (by omega : 1 < 58) (by omega : 0 < 256) hb
      (bs.map UInt8.toNat)
    obtain ⟨e, es, hes, he⟩ := Radix.convert_reverse_cons (by omega : 1 < 58)
      (by omega : 0 < 256) hb (bs.map UInt8.toNat)
    have hdigits : ∀ d ∈ e :: es, d < 58 := fun d hd =>
      hlt d (List.mem_reverse.1 (by rw [hes]; exact hd))
    have hone : base58Digit e ≠ '1' := base58Digit_ne_one he (hdigits e List.mem_cons_self)
    rw [hes] at hback
    simp only [List.map_cons, hes, decodeBase58, String.toList_ofList]
    rw [leadingCount_append '1' hone, List.drop_left' (List.length_replicate ..),
      ← List.map_cons, base58Indexes_map_digit _ _ hdigits]
    simp only
    rw [hback, List.reverse_reverse, ← List.map_cons, map_ofNat_toNat, hsplit]

/-- **A decoded string is the encoding of its bytes**: base58 has no second spelling. -/
theorem encodeBase58_of_decodeBase58 {encoded : String} {bytes : Bytes}
    (h : decodeBase58 encoded = .ok bytes) : encodeBase58 bytes = encoded := by
  have hsplit := leadingCount_split '1' encoded.toList
  unfold decodeBase58 at h
  simp only at h
  split at h
  · cases h
  · rename_i hidx
    cases h
    obtain ⟨hmap, _⟩ := base58Indexes_ok hidx
    rw [List.map_nil] at hmap
    rw [← hmap, List.append_nil] at hsplit
    unfold encodeBase58
    simp only [leadingCount_replicate]
    rw [List.drop_of_length_le (by simp)]
    simp only [List.map_nil]
    rw [hsplit, String.ofList_toList]
  · rename_i indexes hne hidx
    cases h
    obtain ⟨hmap, hall⟩ := base58Indexes_ok hidx
    cases indexes with
    | nil => exact absurd rfl hne
    | cons d ds =>
      have hd0 : base58Digit d ≠ '1' := by
        rw [List.map_cons] at hmap
        exact leadingCount_drop_head '1' hmap.symm
      have hd : 0 < d := by
        rcases Nat.eq_zero_or_pos d with rfl | hd
        · exact absurd base58Digit_zero hd0
        · exact hd
      have hback := Radix.convert_convert (by omega : 1 < 256) (by omega) hd hall
      have hlt := Radix.convert_lt (by omega : 1 < 256) (by omega : 0 < 58) hd ds
      obtain ⟨e, es, hes, he⟩ := Radix.convert_reverse_cons (by omega : 1 < 256)
        (by omega : 0 < 58) hd ds
      have hbytes : ∀ x ∈ e :: es, x < 256 := fun x hx =>
        hlt x (List.mem_reverse.1 (by rw [hes]; exact hx))
      have hne0 : UInt8.ofNat e ≠ 0 := by
        intro h0
        have h1 := congrArg UInt8.toNat h0
        have h2 := hbytes e List.mem_cons_self
        simp only [UInt8.toNat_ofNat', UInt8.toNat_zero] at h1
        omega
      rw [hes] at hback ⊢
      unfold encodeBase58
      simp only [List.map_cons]
      rw [leadingCount_append 0 hne0, List.drop_left' (List.length_replicate ..),
        ← List.map_cons, map_toNat_ofNat hbytes]
      simp only
      rw [hback, List.reverse_reverse, hmap, hsplit, String.ofList_toList]

/-! ## Public keys -/

/-- An address: the 32 bytes behind its base58 string. -/
structure PublicKey where
  bytes : Bytes
  length_eq : bytes.length = 32
  deriving DecidableEq

/-- The key of 32 equal bytes. -/
def PublicKey.replicate (byte : UInt8) : PublicKey := ⟨List.replicate 32 byte, List.length_replicate⟩

/-- An address of exactly 32 bytes. -/
def publicKeyFromBytes (bytes : Bytes) : Except String PublicKey :=
  if h : bytes.length = 32 then .ok ⟨bytes, h⟩
  else .error s!"Public key must contain 32 bytes; received {bytes.length}"

/-- The address that a text spells. -/
def decodePublicKey (publicKey : String) : Except String PublicKey :=
  match decodeBase58 publicKey with
  | .error e => .error e
  | .ok bytes => publicKeyFromBytes bytes

/-- The text of an address. -/
def PublicKey.toBase58 (key : PublicKey) : String := encodeBase58 key.bytes

/-- The canonical text of an address. -/
def normalizePublicKey (publicKey : String) : Except String String :=
  match decodePublicKey publicKey with
  | .error e => .error e
  | .ok key => .ok key.toBase58

theorem publicKeyFromBytes_bytes (key : PublicKey) : publicKeyFromBytes key.bytes = .ok key := by
  rw [publicKeyFromBytes, dif_pos key.length_eq]

theorem publicKeyFromBytes_ok {bytes : Bytes} {key : PublicKey}
    (h : publicKeyFromBytes bytes = .ok key) : key.bytes = bytes := by
  unfold publicKeyFromBytes at h
  split at h
  · cases h; rfl
  · cases h

theorem decodePublicKey_toBase58 (key : PublicKey) : decodePublicKey key.toBase58 = .ok key := by
  unfold decodePublicKey PublicKey.toBase58
  rw [decodeBase58_encodeBase58]
  exact publicKeyFromBytes_bytes key

theorem decodePublicKey_ok {publicKey : String} {key : PublicKey}
    (h : decodePublicKey publicKey = .ok key) : key.toBase58 = publicKey := by
  unfold decodePublicKey at h
  split at h
  · cases h
  · rename_i bytes hbytes
    rw [PublicKey.toBase58, publicKeyFromBytes_ok h]
    exact encodeBase58_of_decodeBase58 hbytes

/-- **Address strings are canonical**: normalisation returns what it accepts unchanged. -/
theorem normalizePublicKey_ok {publicKey normalized : String}
    (h : normalizePublicKey publicKey = .ok normalized) : normalized = publicKey := by
  unfold normalizePublicKey at h
  split at h
  · cases h
  · rename_i key hkey
    cases h
    exact decodePublicKey_ok hkey

theorem PublicKey.toBase58_injective : Function.Injective PublicKey.toBase58 := by
  intro a b h
  have ha := decodePublicKey_toBase58 a
  rw [h, decodePublicKey_toBase58] at ha
  exact (Except.ok.inj ha).symm

end Chancery
