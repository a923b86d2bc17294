import Chancery.Base58
import Chancery.Lib.Codec
import Chancery.Lib.LittleEndian
import Mathlib.Data.Nat.Size

/-!
# The base58 codecs

`Base58Codec.ts`, `base58_codec.py` and `base58.mjs` on the texts of their languages: JavaScript
reads UTF-16 code units through a table of 128 entries, Python characters through a dictionary.

* `encodeBytes`, `decodeWith` — the shared code; `decodeWith_units`, `decodeWith_characters`.
* `integrationDecodeUnits` — the decoder of `integration/typescript/src/base58.ts`, which keeps
  leading ones in its loop; `integrationDecodeCharacters` — the one of
  `integration/python/chancery_integration/base58_codec.py`, over one whole number.
* `base58_exact` — both round trips in all languages, and all decoders agree.
-/

set_option autoImplicit false

namespace Chancery

/-! ## Texts and tables -/

/-- The UTF-16 code units of a character. -/
def utf16 (c : Char) : List Nat :=
  if c.toNat < 0x10000 then [c.toNat]
  else [0xd800 + (c.toNat - 0x10000) / 0x400, 0xdc00 + (c.toNat - 0x10000) % 0x400]

/-- A text as JavaScript holds it. -/
def codeUnits (text : String) : List Nat := text.toList.flatMap utf16

/-- `for (const character of value)`: a surrogate pair is one character. -/
def unitCharacters : List Nat → List (List Nat)
  | [] => []
  | [unit] => [[unit]]
  | unit :: next :: units =>
    if 0xd800 ≤ unit ∧ unit < 0xdc00 ∧ 0xdc00 ≤ next ∧ next < 0xe000 then
      [unit, next] :: unitCharacters units
    else [unit] :: unitCharacters (next :: units)

/-- `createBase58Indexes` -/
def createBase58Indexes : List Int :=
  base58Alphabet.zipIdx.foldl (fun indexes entry => indexes.set entry.1.toNat entry.2)
    (List.replicate 128 (-1))

/-- The value of a code unit, `none` where it is outside the table or the table holds `-1`. -/
def unitIndex (characterCode : Nat) : Option Nat :=
  if characterCode < 128 then
    let alphabetIndex := createBase58Indexes.getD characterCode (-1)
    if alphabetIndex < 0 then none else some alphabetIndex.toNat
  else none

/-! ## The codecs -/

/-- The digits of what is left behind the leading zeros. -/
def encodeBytes (bytes : Bytes) : String :=
  if bytes = [] then ""
  else
    let leadingZeroCount := leadingCount 0 bytes
    let ones := List.replicate leadingZeroCount '1'
    if leadingZeroCount = bytes.length then String.ofList ones
    else
      let significant := (bytes.drop leadingZeroCount).map UInt8.toNat
      String.ofList (ones ++ (Radix.convert 58 256 significant).reverse.map base58Digit)

/-- The TypeScript encoder. -/
def typescriptEncodeBase58 : Bytes → String := encodeBytes

def pythonEncodeBase58 : Bytes → String := encodeBytes

def webEncodeBase58 : Bytes → String := encodeBytes

section

variable {γ : Type} [DecidableEq γ] (indexOf : γ → Option Nat)

/-- Every symbol multiplies the bytes by 58 and adds its value. -/
def decodeLoop : Nat → List γ → List Nat → Except String (List Nat)
  | _, [], bytes => .ok bytes
  | index, symbol :: symbols, bytes =>
    match indexOf symbol with
    | none => .error s!"Invalid base58 character at index {index}"
    | some alphabetIndex =>
      decodeLoop (index + 1) symbols (Radix.step 256 58 bytes alphabetIndex)

/-- The decoder on the symbols of a text. -/
def decodeWith (one : γ) (encoded : List γ) : Except String Bytes :=
  if encoded = [] then .ok []
  else
    let leadingOneCount := leadingCount one encoded
    let zeros : Bytes := List.replicate leadingOneCount 0
    if leadingOneCount = encoded.length then .ok zeros
    else do
      let bytes ← decodeLoop indexOf leadingOneCount (encoded.drop leadingOneCount) [0]
      return zeros ++ bytes.reverse.map UInt8.ofNat

end

/-- The TypeScript decoder, over code units. -/
def typescriptDecodeBase58 : List Nat → Except String Bytes := decodeWith unitIndex 49

def webDecodeBase58 : List Nat → Except String Bytes := decodeWith unitIndex 49

/-- The Python decoder, over characters. -/
def pythonDecodeBase58 (encoded : String) : Except String Bytes :=
  decodeWith base58Index '1' encoded.toList

/-! ## The integration decoders -/

section

variable (stringify : List Nat → String)

/-- All symbols go through the loop, whose bytes start empty. -/
def integrationLoop : List (List Nat) → List Nat → Except String (List Nat)
  | [], littleEndianBytes => .ok littleEndianBytes
  | character :: characters, littleEndianBytes =>
    match unitIndex (character.headD 0) with
    | none => .error s!"Invalid base58 character {stringify character}"
    | some alphabetIndex =>
      integrationLoop characters (Radix.step 256 58 littleEndianBytes alphabetIndex)

/-- The builders' decoder over code units. -/
def integrationDecodeUnits (value : List Nat) : Except String Bytes :=
  if value = [] then .error "Base58 value must not be empty"
  else do
    let littleEndianBytes ← integrationLoop stringify (unitCharacters value) []
    let zeros : Bytes := List.replicate (leadingCount 49 value) 0
    return zeros ++ littleEndianBytes.reverse.map UInt8.ofNat

end

section

variable (repr : Char → String)

/-- The number that the characters spell. -/
def wholeNumber : List Char → Nat → Except String Nat
  | [], number => .ok number
  | character :: characters, number =>
    match base58Index character with
    | none => .error s!"Invalid base58 character {repr character}"
    | some digit => wholeNumber characters (number * 58 + digit)

/-- `number.to_bytes(byte_length, byteorder="big")`, with as many bytes as the number has. -/
def bigEndianBytes (number : Nat) : Bytes :=
  if number = 0 then []
  else (LittleEndian.toBytes ((Nat.size number + 7) / 8) number).reverse

/-- The builders' decoder over characters. -/
def integrationDecodeCharacters (value : String) : Except String Bytes :=
  if value.toList = [] then .error "Base58 value must not be empty"
  else do
    let number ← wholeNumber repr value.toList 0
    let zeros : Bytes := List.replicate (leadingCount '1' value.toList) 0
    return zeros ++ bigEndianBytes number

end

/-! ## The table is the alphabet -/

theorem unitIndex_ascii {n : Nat} (h : n < 128) : unitIndex n = base58Index (Char.ofNat n) :=
  (by decide +kernel : ∀ n < 128, unitIndex n = base58Index (Char.ofNat n)) n h

theorem unitIndex_none {n : Nat} (h : 128 ≤ n) : unitIndex n = none := if_neg (by omega)

theorem unitIndex_some {n d : Nat} (h : unitIndex n = some d) : n < 128 := by
  by_contra hn
  rw [unitIndex_none (by omega)] at h
  cases h

theorem base58Index_none {c : Char} (h : 128 ≤ c.toNat) : base58Index c = none := by
  cases hindex : base58Index c with
  | none => rfl
  | some d =>
    obtain ⟨hlt, hdigit⟩ := base58Index_spec hindex
    have hascii := (by decide : ∀ d < 58, (base58Digit d).toNat < 128) d hlt
    rw [hdigit] at hascii
    omega

theorem utf16_ascii {c : Char} (h : c.toNat < 128) : utf16 c = [c.toNat] := if_pos (by omega)

theorem utf16_cons (c : Char) : ∃ unit units, utf16 c = unit :: units ∧
    (128 ≤ c.toNat → 128 ≤ unit) := by
  unfold utf16
  split
  · exact ⟨_, _, rfl, id⟩
  · exact ⟨_, _, rfl, fun _ => by omega⟩

theorem unitIndex_utf16 {c : Char} (h : c.toNat < 128) : unitIndex c.toNat = base58Index c := by
  rw [unitIndex_ascii h, Char.ofNat_toNat]

/-! ## The shared codec -/

theorem encodeBytes_eq (bytes : Bytes) : encodeBytes bytes = encodeBase58 bytes := by
  unfold encodeBytes encodeBase58
  dsimp only
  by_cases hempty : bytes = []
  · subst hempty
    rfl
  · rw [if_neg hempty]
    by_cases hzeros : leadingCount 0 bytes = bytes.length
    · rw [if_pos hzeros, hzeros, List.drop_length]
      rfl
    · rw [if_neg hzeros]
      have hsplit := leadingCount_split 0 bytes
      cases hrest : bytes.drop (leadingCount 0 bytes) with
      | nil =>
        rw [hrest, List.append_nil] at hsplit
        have hlength := congrArg List.length hsplit
        rw [List.length_replicate] at hlength
        exact absurd hlength hzeros
      | cons b bs => rfl

/-- The loop is the lookups followed by the steps. -/
theorem decodeLoop_eq : ∀ (cs : List Char) (index : Nat) (bytes : List Nat),
    decodeLoop base58Index index cs bytes =
      (base58Indexes index cs).map fun ds => ds.foldl (Radix.step 256 58) bytes
  | [], _, _ => rfl
  | c :: cs, index, bytes => by
    rw [decodeLoop, base58Indexes]
    cases base58Index c with
    | none => rfl
    | some d =>
      dsimp only
      rw [decodeLoop_eq cs]
      cases base58Indexes (index + 1) cs <;> rfl

theorem leadingCount_eq_length {γ : Type} [DecidableEq γ] {one : γ} {symbols : List γ}
    (h : symbols.drop (leadingCount one symbols) = []) :
    leadingCount one symbols = symbols.length := by
  have hlength := congrArg List.length (leadingCount_split one symbols)
  rw [h, List.append_nil, List.length_replicate] at hlength
  exact hlength

theorem leadingCount_ne_length {γ : Type} [DecidableEq γ] {one symbol : γ}
    {symbols rest : List γ} (h : symbols.drop (leadingCount one symbols) = symbol :: rest) :
    symbols ≠ [] ∧ leadingCount one symbols ≠ symbols.length := by
  constructor
  · rintro rfl
    cases h
  · intro hlength
    rw [hlength, List.drop_length] at h
    cases h

theorem decodeWith_characters (encoded : String) :
    decodeWith base58Index '1' encoded.toList = decodeBase58 encoded := by
  unfold decodeWith decodeBase58
  dsimp only
  cases hrest : encoded.toList.drop (leadingCount '1' encoded.toList) with
  | nil =>
    rw [if_pos (leadingCount_eq_length hrest), base58Indexes]
    by_cases hempty : encoded.toList = []
    · rw [if_pos hempty, hempty]
      rfl
    · rw [if_neg hempty]
  | cons c cs =>
    obtain ⟨hne, hlength⟩ := leadingCount_ne_length hrest
    rw [if_neg hne, if_neg hlength, decodeLoop_eq]
    cases hindexes : base58Indexes (leadingCount '1' encoded.toList) (c :: cs) with
    | error e => rfl
    | ok ds =>
      cases ds with
      | nil =>
        have hmap := (base58Indexes_ok hindexes).1
        cases hmap
      | cons d ds => rfl

/-! ## Code units -/

theorem decodeLoop_utf16 : ∀ (cs : List Char) (index : Nat) (bytes : List Nat),
    decodeLoop unitIndex index (cs.flatMap utf16) bytes = decodeLoop base58Index index cs bytes
  | [], _, _ => rfl
  | c :: cs, index, bytes => by
    rw [List.flatMap_cons]
    by_cases hascii : c.toNat < 128
    · rw [utf16_ascii hascii, List.singleton_append, decodeLoop, decodeLoop,
        unitIndex_utf16 hascii]
      cases base58Index c with
      | none => rfl
      | some d => exact decodeLoop_utf16 cs (index + 1) _
    · obtain ⟨unit, units, hunits, hlarge⟩ := utf16_cons c
      rw [hunits, List.cons_append, decodeLoop, decodeLoop, base58Index_none (by omega),
        unitIndex_none (hlarge (by omega))]

/-- Leading ones are one code unit each. -/
theorem leadingCount_utf16 (cs : List Char) :
    leadingCount 49 (cs.flatMap utf16) = leadingCount '1' cs ∧
      (cs.flatMap utf16).drop (leadingCount '1' cs) =
        (cs.drop (leadingCount '1' cs)).flatMap utf16 := by
  have hsplit := leadingCount_split '1' cs
  have hones : (List.replicate (leadingCount '1' cs) '1').flatMap utf16 =
      List.replicate (leadingCount '1' cs) 49 := by
    rw [List.flatMap_replicate]
    exact List.flatten_replicate_singleton
  have happend : cs.flatMap utf16 = List.replicate (leadingCount '1' cs) 49 ++
      (cs.drop (leadingCount '1' cs)).flatMap utf16 := by
    conv_lhs => rw [← hsplit]
    rw [List.flatMap_append, hones]
  rw [happend]
  refine ⟨?_, List.drop_left' List.length_replicate⟩
  cases hrest : cs.drop (leadingCount '1' cs) with
  | nil => rw [List.flatMap_nil, List.append_nil, leadingCount_replicate]
  | cons c rest =>
    have hc : c ≠ '1' := leadingCount_drop_head '1' hrest
    obtain ⟨unit, units, hunits, hlarge⟩ := utf16_cons c
    rw [List.flatMap_cons, hunits, List.cons_append]
    refine leadingCount_append 49 (fun hunit => hc ?_) _ _
    have hascii : c.toNat < 128 := by
      by_contra hn
      have := hlarge (by omega)
      omega
    rw [utf16_ascii hascii] at hunits
    cases hunits
    exact Char.toNat_inj.1 hunit

/-- **The table reads code units as the dictionary reads characters.** -/
theorem decodeWith_units (encoded : String) :
    decodeWith unitIndex 49 (codeUnits encoded) = decodeBase58 encoded := by
  rw [← decodeWith_characters]
  obtain ⟨hcount, hdrop⟩ := leadingCount_utf16 encoded.toList
  unfold decodeWith codeUnits
  dsimp only
  rw [hcount, hdrop, decodeLoop_utf16]
  cases hrest : encoded.toList.drop (leadingCount '1' encoded.toList) with
  | nil =>
    have hunits : leadingCount '1' encoded.toList = (encoded.toList.flatMap utf16).length := by
      rw [← hcount]
      refine leadingCount_eq_length ?_
      rw [hcount, hdrop, hrest]
      rfl
    rw [if_pos hunits, if_pos (leadingCount_eq_length hrest)]
    by_cases hempty : encoded.toList = []
    · rw [if_pos hempty, hempty]
      rfl
    · rw [if_neg hempty, if_neg]
      intro hnil
      rw [hnil, List.length_nil] at hunits
      have hlength := leadingCount_eq_length hrest
      rw [hunits] at hlength
      exact hempty (List.length_eq_zero_iff.1 hlength.symm)
  | cons c cs =>
    obtain ⟨hne, hlength⟩ := leadingCount_ne_length hrest
    obtain ⟨unit, units, hunits, -⟩ := utf16_cons c
    have hdrop' : (encoded.toList.flatMap utf16).drop
        (leadingCount 49 (encoded.toList.flatMap utf16)) = unit :: (units ++ cs.flatMap utf16) := by
      rw [hcount, hdrop, hrest, List.flatMap_cons, hunits, List.cons_append]
    obtain ⟨hneUnits, hlengthUnits⟩ := leadingCount_ne_length hdrop'
    rw [hcount] at hlengthUnits
    rw [if_neg hne, if_neg hlength, if_neg hneUnits, if_neg hlengthUnits]

theorem codeUnits_ascii {units : List Nat} (h : ∀ unit ∈ units, unit < 128) :
    codeUnits (String.ofList (units.map Char.ofNat)) = units := by
  unfold codeUnits
  rw [String.toList_ofList, List.flatMap_map]
  induction units with
  | nil => rfl
  | cons unit units ih =>
    have hunit : unit < 128 := h unit List.mem_cons_self
    have hchar : (Char.ofNat unit).toNat = unit :=
      (by decide : ∀ n < 128, (Char.ofNat n).toNat = n) unit hunit
    rw [List.flatMap_cons, utf16_ascii (by omega), hchar,
      ih fun other hother => h other (List.mem_cons_of_mem _ hother)]
    rfl

theorem decodeLoop_units_lt : ∀ {units : List Nat} {index : Nat} {bytes decoded : List Nat},
    decodeLoop unitIndex index units bytes = .ok decoded → ∀ unit ∈ units, unit < 128
  | [], _, _, _, _ => by
    intro unit hmem
    cases hmem
  | unit :: units, index, bytes, decoded, h => by
    rw [decodeLoop] at h
    cases hindex : unitIndex unit with
    | none =>
      rw [hindex] at h
      cases h
    | some d =>
      rw [hindex] at h
      intro other hother
      rcases List.mem_cons.1 hother with rfl | hother
      · exact unitIndex_some hindex
      · exact decodeLoop_units_lt h other hother

/-- Whatever JavaScript decodes is a text of the alphabet. -/
theorem decodeWith_units_ok {units : List Nat} {bytes : Bytes}
    (h : decodeWith unitIndex 49 units = .ok bytes) : codeUnits (encodeBase58 bytes) = units := by
  have hascii : ∀ unit ∈ units, unit < 128 := by
    intro unit hmem
    rw [← leadingCount_split 49 units] at hmem
    rcases List.mem_append.1 hmem with hone | hrest
    · rw [List.eq_of_mem_replicate hone]
      decide
    · unfold decodeWith at h
      by_cases hempty : units = []
      · rw [hempty] at hrest
        cases hrest
      · rw [if_neg hempty] at h
        dsimp only at h
        by_cases hlength : leadingCount 49 units = units.length
        · rw [hlength, List.drop_length] at hrest
          cases hrest
        · rw [if_neg hlength] at h
          obtain ⟨decoded, hloop, _⟩ := Except.bind_eq_ok.1 h
          exact decodeLoop_units_lt hloop unit hrest
  have hunits := codeUnits_ascii hascii
  rw [← hunits, decodeWith_units] at h
  rw [encodeBase58_of_decodeBase58 h, hunits]

/-! ## Leading ones in the loop -/

theorem step_nil_zero : Radix.step 256 58 [] 0 = [] := rfl

/-- A leading one leaves the empty bytes empty. -/
theorem decodeLoop_ones : ∀ (n index : Nat) (units : List Nat),
    decodeLoop unitIndex index (List.replicate n 49 ++ units) [] =
      decodeLoop unitIndex (index + n) units []
  | 0, _, _ => rfl
  | n + 1, index, units => by
    have hone : unitIndex 49 = some 0 := rfl
    rw [List.replicate_succ, List.cons_append, decodeLoop, hone]
    dsimp only
    rw [step_nil_zero, decodeLoop_ones n, Nat.add_right_comm, Nat.add_assoc]

theorem unitIndex_zero {n : Nat} (h : unitIndex n = some 0) : n = 49 :=
  (by decide +kernel : ∀ n < 128, unitIndex n = some 0 → n = 49) n (unitIndex_some h) h

/-- After the ones, no bytes and the byte zero are the same start. -/
theorem decodeLoop_nil {index unit : Nat} {units : List Nat} (h : unit ≠ 49) :
    decodeLoop unitIndex index (unit :: units) [] =
      decodeLoop unitIndex index (unit :: units) [0] := by
  rw [decodeLoop, decodeLoop]
  cases hindex : unitIndex unit with
  | none => rfl
  | some d =>
    have hd : 0 < d := by
      rcases Nat.eq_zero_or_pos d with rfl | hd
      · exact absurd (unitIndex_zero hindex) h
      · exact hd
    have hnil := Radix.step_digits (by decide : 1 < 256) (by decide : 0 < 58) 0 d
    rw [Nat.digits_zero, Nat.zero_mul, Nat.zero_add] at hnil
    dsimp only
    rw [hnil, Radix.step_zero (by decide) hd]

/-! ## The limbs of the integration decoder -/

theorem integrationLoop_eq (stringify : List Nat → String) (units : List Nat) :
    ∀ (index : Nat) (bytes : List Nat),
      (integrationLoop stringify (unitCharacters units) bytes).toOption =
        (decodeLoop unitIndex index units bytes).toOption := by
  induction units using unitCharacters.induct with
  | case1 => exact fun _ _ => rfl
  | case2 unit =>
    intro index bytes
    rw [unitCharacters, integrationLoop, decodeLoop, List.headD_cons]
    cases unitIndex unit <;> rfl
  | case3 unit next units hpair ih =>
    intro index bytes
    have hnone : unitIndex unit = none := unitIndex_none (by omega)
    rw [unitCharacters, if_pos hpair, integrationLoop, decodeLoop, List.headD_cons, hnone]
    rfl
  | case4 unit next units hpair ih =>
    intro index bytes
    rw [unitCharacters, if_neg hpair, integrationLoop, decodeLoop, List.headD_cons]
    cases unitIndex unit with
    | none => rfl
    | some d => exact ih (index + 1) _

/-- **The limb decoder is the shared one** on every nonempty text. -/
theorem integrationDecodeUnits_eq (stringify : List Nat → String) {units : List Nat}
    (h : units ≠ []) : (integrationDecodeUnits stringify units).toOption =
      (decodeWith unitIndex 49 units).toOption := by
  have hsplit := leadingCount_split 49 units
  have hloop := integrationLoop_eq stringify units 0 []
  have hones := decodeLoop_ones (leadingCount 49 units) 0
    (units.drop (leadingCount 49 units))
  rw [hsplit, Nat.zero_add] at hones
  rw [hones] at hloop
  unfold integrationDecodeUnits decodeWith
  rw [if_neg h, if_neg h]
  dsimp only
  cases hrest : units.drop (leadingCount 49 units) with
  | nil =>
    rw [hrest] at hloop
    rw [if_pos (leadingCount_eq_length hrest),
      Except.bind_of_ok (Except.ok_of_toOption hloop)]
    show some _ = some _
    rw [List.reverse_nil, List.map_nil, List.append_nil]
  | cons unit rest =>
    rw [hrest, decodeLoop_nil (leadingCount_drop_head 49 hrest)] at hloop
    rw [if_neg (leadingCount_ne_length hrest).2]
    cases hdecoded : decodeLoop unitIndex (leadingCount 49 units) (unit :: rest) [0] with
    | error e =>
      rw [hdecoded] at hloop
      cases hintegration : integrationLoop stringify (unitCharacters units) [] with
      | error e' => rfl
      | ok bytes =>
        rw [hintegration] at hloop
        cases hloop
    | ok bytes =>
      rw [hdecoded] at hloop
      rw [Except.bind_of_ok (Except.ok_of_toOption hloop)]
      rfl

/-! ## The whole number of the integration decoder -/

theorem wholeNumber_eq (repr : Char → String) : ∀ (cs : List Char) (index number : Nat),
    (wholeNumber repr cs number).toOption =
      (base58Indexes index cs).toOption.map fun ds =>
        ds.foldl (fun number d => number * 58 + d) number
  | [], _, _ => rfl
  | c :: cs, index, number => by
    rw [wholeNumber, base58Indexes]
    cases base58Index c with
    | none => rfl
    | some d =>
      dsimp only
      rw [wholeNumber_eq repr cs (index + 1)]
      cases base58Indexes (index + 1) cs <;> rfl

/-- One byte more is eight bits more. -/
theorem byteLength_step {n : Nat} (h : 256 ≤ n) :
    (Nat.size n + 7) / 8 = (Nat.size (n / 256) + 7) / 8 + 1 := by
  have hsize : Nat.size n = Nat.size (n / 256) + 8 := by
    apply le_antisymm
    · rw [Nat.size_le, Nat.pow_add]
      have hlt := Nat.lt_size_self (n / 256)
      omega
    · have hpos : 0 < n / 256 := Nat.div_pos h (by decide)
      have hpred : Nat.size (n / 256) - 1 < Nat.size (n / 256) := by
        have := Nat.size_pos.2 hpos
        omega
      rw [Nat.lt_size] at hpred
      have hle : 2 ^ (Nat.size (n / 256) - 1 + 8) ≤ n := by
        rw [Nat.pow_add]
        omega
      have := Nat.lt_size.2 hle
      omega
  omega

theorem toBytes_eq_digits (n : Nat) (h : 0 < n) :
    LittleEndian.toBytes ((Nat.size n + 7) / 8) n = (Nat.digits 256 n).map UInt8.ofNat := by
  induction n using Nat.strong_induction_on with
  | _ n ih =>
    rw [Nat.digits_def' (by decide) h, List.map_cons]
    by_cases hlarge : 256 ≤ n
    · rw [byteLength_step hlarge, LittleEndian.toBytes,
        ih (n / 256) (by omega) (Nat.div_pos hlarge (by decide))]
    · have hsmall : Nat.size n ≤ 8 := Nat.size_le.2 (by omega)
      have hpos := Nat.size_pos.2 h
      have hone : (Nat.size n + 7) / 8 = 1 := by omega
      rw [hone, LittleEndian.toBytes, LittleEndian.toBytes, Nat.div_eq_of_lt (by omega),
        Nat.digits_zero, List.map_nil]

theorem bigEndianBytes_eq (n : Nat) :
    bigEndianBytes n = (Nat.digits 256 n).reverse.map UInt8.ofNat := by
  unfold bigEndianBytes
  by_cases hzero : n = 0
  · rw [if_pos hzero, hzero]
    rfl
  · rw [if_neg hzero, toBytes_eq_digits n (by omega), List.map_reverse]

theorem base58Indexes_ones : ∀ (n index : Nat) (cs : List Char),
    base58Indexes index (List.replicate n '1' ++ cs) =
      (base58Indexes (index + n) cs).map fun ds => List.replicate n 0 ++ ds
  | 0, index, cs => by
    rw [List.replicate_zero, List.nil_append, Nat.add_zero]
    cases base58Indexes index cs <;> rfl
  | n + 1, index, cs => by
    have hone : base58Index '1' = some 0 := rfl
    rw [List.replicate_succ, List.cons_append, base58Indexes, hone]
    dsimp only
    rw [base58Indexes_ones n, Nat.add_right_comm, Nat.add_assoc]
    cases base58Indexes (index + (n + 1)) cs <;> rfl

theorem foldl_zeros (n : Nat) (ds : List Nat) :
    (List.replicate n 0 ++ ds).foldl (fun number d => number * 58 + d) 0 =
      ds.foldl (fun number d => number * 58 + d) 0 := by
  induction n with
  | zero => rfl
  | succ n ih => exact ih

/-- **The whole-number decoder is the shared one** on every nonempty text. -/
theorem integrationDecodeCharacters_eq (repr : Char → String) {value : String}
    (h : value.toList ≠ []) :
    (integrationDecodeCharacters repr value).toOption = (decodeBase58 value).toOption := by
  have hsplit := leadingCount_split '1' value.toList
  have hindexes := base58Indexes_ones (leadingCount '1' value.toList) 0
    (value.toList.drop (leadingCount '1' value.toList))
  rw [hsplit, Nat.zero_add] at hindexes
  have hnumber := wholeNumber_eq repr value.toList 0 0
  rw [hindexes] at hnumber
  unfold integrationDecodeCharacters decodeBase58
  rw [if_neg h]
  dsimp only
  cases hds : base58Indexes (leadingCount '1' value.toList)
      (value.toList.drop (leadingCount '1' value.toList)) with
  | error e =>
    rw [hds] at hnumber
    cases hwhole : wholeNumber repr value.toList 0 with
    | error e' => rfl
    | ok number =>
      rw [hwhole] at hnumber
      cases hnumber
  | ok ds =>
    rw [hds] at hnumber
    rw [Except.bind_of_ok (Except.ok_of_toOption hnumber)]
    dsimp only
    rw [foldl_zeros, bigEndianBytes_eq]
    cases ds with
    | nil =>
      show some _ = some _
      rw [List.foldl_nil, Nat.digits_zero, List.reverse_nil, List.map_nil, List.append_nil]
    | cons d ds =>
      obtain ⟨hmap, hall⟩ := base58Indexes_ok hds
      have hd : 0 < d := by
        rcases Nat.eq_zero_or_pos d with rfl | hd
        · exact absurd base58Digit_zero (leadingCount_drop_head '1' hmap.symm)
        · exact hd
      have hconvert := Radix.convert_eq_digits (by decide : 1 < 256) (by decide : 0 < 58) hd ds
      rw [← Radix.foldl_eq_ofDigits] at hconvert
      dsimp only
      rw [hconvert]
      rfl

/-! ## All codecs -/

/-- What the five codecs have in common: JavaScript's take any code units, also unpaired
surrogates, and Python's any text. -/
structure Base58Laws (stringify : List Nat → String) (repr : Char → String) : Prop where
  typescriptDecodes : ∀ bytes, typescriptDecodeBase58 (codeUnits (typescriptEncodeBase58 bytes)) =
    .ok bytes
  webDecodes : ∀ bytes, webDecodeBase58 (codeUnits (webEncodeBase58 bytes)) = .ok bytes
  pythonDecodes : ∀ bytes, pythonDecodeBase58 (pythonEncodeBase58 bytes) = .ok bytes
  typescriptEncodes : ∀ units bytes, typescriptDecodeBase58 units = .ok bytes →
    codeUnits (typescriptEncodeBase58 bytes) = units
  webEncodes : ∀ units bytes, webDecodeBase58 units = .ok bytes →
    codeUnits (webEncodeBase58 bytes) = units
  pythonEncodes : ∀ text bytes, pythonDecodeBase58 text = .ok bytes →
    pythonEncodeBase58 bytes = text
  encodersAgree : ∀ bytes, typescriptEncodeBase58 bytes = pythonEncodeBase58 bytes ∧
    webEncodeBase58 bytes = pythonEncodeBase58 bytes
  decodersAgree : ∀ text, typescriptDecodeBase58 (codeUnits text) = pythonDecodeBase58 text ∧
    webDecodeBase58 (codeUnits text) = pythonDecodeBase58 text
  javascriptAgree : ∀ units, webDecodeBase58 units = typescriptDecodeBase58 units
  integrationTypescript : ∀ units, units ≠ [] →
    (integrationDecodeUnits stringify units).toOption = (typescriptDecodeBase58 units).toOption
  integrationPython : ∀ text, text ≠ "" →
    (integrationDecodeCharacters repr text).toOption = (pythonDecodeBase58 text).toOption

/-- **Base58 is exact in every codec**: decoding and encoding invert each other, and all decoders
agree. -/
theorem base58_exact (stringify : List Nat → String) (repr : Char → String) :
    Base58Laws stringify repr where
  typescriptDecodes bytes := by
    show decodeWith unitIndex 49 (codeUnits (encodeBytes bytes)) = _
    rw [encodeBytes_eq, decodeWith_units, decodeBase58_encodeBase58]
  webDecodes bytes := by
    show decodeWith unitIndex 49 (codeUnits (encodeBytes bytes)) = _
    rw [encodeBytes_eq, decodeWith_units, decodeBase58_encodeBase58]
  pythonDecodes bytes := by
    show decodeWith base58Index '1' (encodeBytes bytes).toList = _
    rw [encodeBytes_eq, decodeWith_characters, decodeBase58_encodeBase58]
  typescriptEncodes units bytes h := by
    show codeUnits (encodeBytes bytes) = units
    rw [encodeBytes_eq]
    exact decodeWith_units_ok h
  webEncodes units bytes h := by
    show codeUnits (encodeBytes bytes) = units
    rw [encodeBytes_eq]
    exact decodeWith_units_ok h
  pythonEncodes text bytes h := by
    show encodeBytes bytes = text
    rw [encodeBytes_eq]
    exact encodeBase58_of_decodeBase58 ((decodeWith_characters text).symm.trans h)
  encodersAgree _ := ⟨rfl, rfl⟩
  decodersAgree text := by
    have h : decodeWith unitIndex 49 (codeUnits text) = decodeWith base58Index '1' text.toList := by
      rw [decodeWith_units, decodeWith_characters]
    exact ⟨h, h⟩
  javascriptAgree _ := rfl
  integrationTypescript _ h := integrationDecodeUnits_eq stringify h
  integrationPython text h := by
    have hlist : text.toList ≠ [] := by
      intro hnil
      exact h (String.toList_inj.1 hnil)
    exact (integrationDecodeCharacters_eq repr hlist).trans
      (congrArg Except.toOption (decodeWith_characters text).symm)

end Chancery
