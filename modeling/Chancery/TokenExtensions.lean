import Chancery.Lib.Tlv
import Chancery.SplToken

/-!
# Token extensions

What the loop over a mint's extension entries accepts.

* `TransferFeeLayout`, `transferFeeConfigOf` — a transfer-fee configuration and what it says.
* `ReadableExtensions`, `readExtensions` — the regions that are accepted and what they say.
* `decodeExtensionEntries_sound`, `decodeExtensionEntries_complete` — the loop reads exactly them.
* `decodeExtensionEntries_fuel` — it ends by itself.
-/

set_option autoImplicit false

namespace Chancery

open LittleEndian

/-! ## Slices -/

section

variable {data : Bytes} {offset byteLength : Nat} {label : String}

theorem sliceExact_ok {bytes : Bytes} : sliceExact data offset byteLength label = .ok bytes ↔
    offset + byteLength ≤ data.length ∧ bytes = (data.drop offset).take byteLength := by
  unfold sliceExact
  by_cases hfits : data.length < offset + byteLength
  · rw [if_pos hfits]
    constructor
    · intro h
      cases h
    · rintro ⟨hle, -⟩
      omega
  · rw [if_neg hfits, Except.ok.injEq]
    exact ⟨fun h => ⟨not_lt.1 hfits, h.symm⟩, fun h => h.2.symm⟩

/-- Nothing outside the data is read. -/
theorem sliceExact_length {bytes : Bytes}
    (h : sliceExact data offset byteLength label = .ok bytes) :
    offset + byteLength ≤ data.length ∧ bytes.length = byteLength := by
  obtain ⟨hfits, rfl⟩ := sliceExact_ok.1 h
  refine ⟨hfits, ?_⟩
  rw [List.length_take, List.length_drop]
  omega

theorem readUnsignedLittleEndian_ok {n : Nat} :
    readUnsignedLittleEndian data offset byteLength label = .ok n ↔
      offset + byteLength ≤ data.length ∧ n = ofBytes ((data.drop offset).take byteLength) := by
  unfold readUnsignedLittleEndian
  rw [Except.bind_eq_ok]
  constructor
  · rintro ⟨bytes, hbytes, hret⟩
    obtain ⟨hfits, rfl⟩ := sliceExact_ok.1 hbytes
    exact ⟨hfits, (Except.ok.inj hret).symm⟩
  · rintro ⟨hfits, rfl⟩
    exact ⟨_, sliceExact_ok.2 ⟨hfits, rfl⟩, rfl⟩

/-- The key of 32 bytes, unless they are all zero. -/
def nonzeroKey (bytes : Bytes) : Option PublicKey :=
  if h : bytes.length = 32 ∧ bytes.any (· ≠ 0) = true then some ⟨bytes, h.1⟩ else none

theorem slicePublicKey_ok {key : PublicKey} : slicePublicKey data offset label = .ok key ↔
    offset + 32 ≤ data.length ∧ key.bytes = (data.drop offset).take 32 := by
  unfold slicePublicKey
  rw [Except.bind_eq_ok]
  constructor
  · rintro ⟨bytes, hbytes, hkey⟩
    obtain ⟨hfits, rfl⟩ := sliceExact_ok.1 hbytes
    exact ⟨hfits, publicKeyFromBytes_ok hkey⟩
  · rintro ⟨hfits, hkey⟩
    refine ⟨_, sliceExact_ok.2 ⟨hfits, rfl⟩, ?_⟩
    rw [← hkey]
    exact publicKeyFromBytes_bytes key

theorem decodeOptionalNonzeroPublicKey_ok {key : Option PublicKey} :
    decodeOptionalNonzeroPublicKey data offset label = .ok key ↔
      offset + 32 ≤ data.length ∧ key = nonzeroKey ((data.drop offset).take 32) := by
  unfold decodeOptionalNonzeroPublicKey
  rw [Except.bind_eq_ok]
  have hread : ∀ read : PublicKey, (if read.bytes.any (· ≠ 0) then some read else none) =
      nonzeroKey read.bytes := by
    intro read
    unfold nonzeroKey
    by_cases hany : read.bytes.any (· ≠ 0) = true
    · rw [if_pos hany, dif_pos ⟨read.length_eq, hany⟩]
    · rw [if_neg hany, dif_neg fun h => hany h.2]
  constructor
  · rintro ⟨read, hkey, hret⟩
    obtain ⟨hfits, hbytes⟩ := slicePublicKey_ok.1 hkey
    rw [← hbytes, ← hread]
    exact ⟨hfits, (Except.ok.inj hret).symm⟩
  · rintro ⟨hfits, rfl⟩
    have hlength : ((data.drop offset).take 32).length = 32 := by
      rw [List.length_take, List.length_drop]
      omega
    refine ⟨⟨_, hlength⟩, slicePublicKey_ok.2 ⟨hfits, rfl⟩, ?_⟩
    exact congrArg Except.ok (hread ⟨_, hlength⟩)

end

/-! ## Transfer-fee configurations -/

/-- The exact size, and rates of at most everything. -/
structure TransferFeeLayout (value : Bytes) : Prop where
  length_eq : value.length = transferFeeConfigSize
  older_le : ofBytes ((value.drop 88).take 2) ≤ 10000
  newer_le : ofBytes ((value.drop 106).take 2) ≤ 10000

/-- The fee that the bytes spell. -/
def transferFeeOf (value : Bytes) (offset : Nat) : Token2022TransferFee where
  epoch := ofBytes ((value.drop offset).take 8)
  maximumFee := ofBytes ((value.drop (offset + 8)).take 8)
  transferFeeBasisPoints := ofBytes ((value.drop (offset + 16)).take 2)

/-- The configuration that the bytes spell. -/
def transferFeeConfigOf (value : Bytes) : Token2022TransferFeeConfig where
  transferFeeConfigAuthority := nonzeroKey (value.take 32)
  withdrawWithheldAuthority := nonzeroKey ((value.drop 32).take 32)
  withheldAmount := ofBytes ((value.drop 64).take 8)
  olderTransferFee := transferFeeOf value 72
  newerTransferFee := transferFeeOf value 90

theorem decodeTransferFee_iff {value : Bytes} {offset : Nat} {label : String}
    {fee : Token2022TransferFee} (hfits : offset + 18 ≤ value.length) :
    decodeTransferFee value offset label = .ok fee ↔
      ofBytes ((value.drop (offset + 16)).take 2) ≤ 10000 ∧ fee = transferFeeOf value offset := by
  unfold decodeTransferFee
  simp only [Except.bind_eq_ok, readUnsignedLittleEndian_ok]
  constructor
  · rintro ⟨_, ⟨-, rfl⟩, hrest⟩
    split at hrest
    · cases hrest
    · rename_i hbound
      simp only [Except.bind_eq_ok, readUnsignedLittleEndian_ok] at hrest
      obtain ⟨_, ⟨-, rfl⟩, _, ⟨-, rfl⟩, hret⟩ := hrest
      exact ⟨not_lt.1 hbound, (Except.ok.inj hret).symm⟩
  · rintro ⟨hbound, rfl⟩
    refine ⟨_, ⟨by omega, rfl⟩, ?_⟩
    rw [if_neg (not_lt.2 hbound)]
    simp only [Except.bind_eq_ok, readUnsignedLittleEndian_ok]
    exact ⟨_, ⟨by omega, rfl⟩, _, ⟨by omega, rfl⟩, rfl⟩

theorem decodeTransferFeeConfig_iff {value : Bytes} {config : Token2022TransferFeeConfig} :
    decodeTransferFeeConfig value = .ok config ↔
      TransferFeeLayout value ∧ config = transferFeeConfigOf value := by
  unfold decodeTransferFeeConfig
  by_cases hsize : value.length = transferFeeConfigSize
  · have hlong : value.length = 108 := hsize
    rw [if_neg (not_not.2 hsize)]
    simp only [Except.bind_eq_ok, decodeOptionalNonzeroPublicKey_ok, readUnsignedLittleEndian_ok,
      decodeTransferFee_iff (show 72 + 18 ≤ value.length by omega),
      decodeTransferFee_iff (show 90 + 18 ≤ value.length by omega)]
    constructor
    · rintro ⟨_, ⟨-, rfl⟩, _, ⟨-, rfl⟩, _, ⟨-, rfl⟩, _, ⟨holder, rfl⟩, _, ⟨hnewer, rfl⟩, hret⟩
      exact ⟨⟨hsize, holder, hnewer⟩, (Except.ok.inj hret).symm⟩
    · rintro ⟨hlayout, rfl⟩
      exact ⟨_, ⟨by omega, rfl⟩, _, ⟨by omega, rfl⟩, _, ⟨by omega, rfl⟩, _,
        ⟨hlayout.older_le, rfl⟩, _, ⟨hlayout.newer_le, rfl⟩, rfl⟩
  · rw [if_pos hsize]
    constructor
    · intro h
      cases h
    · rintro ⟨hlayout, -⟩
      exact absurd hlayout.length_eq hsize

/-! ## Extension regions -/

/-- An entry in its decoded form. -/
def tokenExtension (entry : Tlv.Entry) : Token2022Extension :=
  ⟨entry.tag, entry.value.length, entry.value⟩

/-- The entries that fees depend on. -/
def isTransferFeeConfig (entry : Tlv.Entry) : Bool := entry.tag == transferFeeConfigExtensionType
def isTransferHook (entry : Tlv.Entry) : Bool := entry.tag == transferHookExtensionType

/-- The program of a transfer hook. -/
def hookProgram (entry : Tlv.Entry) : Option PublicKey :=
  nonzeroKey ((entry.value.drop 32).take 32)

/-- At most one transfer-fee configuration; fees and hooks have their layouts. -/
structure ReadableExtensions (entries : List Tlv.Entry) : Prop where
  oneFee : (entries.filter isTransferFeeConfig).length ≤ 1
  feeLayout : ∀ entry ∈ entries, isTransferFeeConfig entry → TransferFeeLayout entry.value
  hookLength : ∀ entry ∈ entries, isTransferHook entry → entry.value.length = 64

/-- Unmodelled behavior: confidential fees, or a hook with a program. -/
def changesTransfers (entry : Tlv.Entry) : Bool :=
  entry.tag == confidentialTransferFeeConfigExtensionType ||
    (isTransferHook entry && (hookProgram entry).isSome)

/-- What a region says: the entries in order, the fee configuration and the last hook. -/
def readExtensions (entries : List Tlv.Entry) : Token2022MintExtensionResult where
  accountType := some token2022MintAccountType
  extensions := entries.map tokenExtension
  transferFeeConfig :=
    (entries.find? isTransferFeeConfig).map fun entry => transferFeeConfigOf entry.value
  transferHookProgramAddress := (entries.reverse.find? isTransferHook).bind hookProgram
  hasUnmodeledTransferBehavior := entries.any changesTransfers

theorem readableExtensions_nil : ReadableExtensions [] where
  oneFee := Nat.zero_le _
  feeLayout := fun _ hentry => absurd hentry List.not_mem_nil
  hookLength := fun _ hentry => absurd hentry List.not_mem_nil

theorem ReadableExtensions.of_append {before after : List Tlv.Entry}
    (h : ReadableExtensions (before ++ after)) : ReadableExtensions before where
  oneFee := by
    have hone := h.oneFee
    rw [List.filter_append, List.length_append] at hone
    omega
  feeLayout := fun entry hentry => h.feeLayout entry (List.mem_append_left _ hentry)
  hookLength := fun entry hentry => h.hookLength entry (List.mem_append_left _ hentry)

theorem readableExtensions_snoc {before : List Tlv.Entry} {entry : Tlv.Entry}
    (h : ReadableExtensions before) : ReadableExtensions (before ++ [entry]) ↔
      (isTransferFeeConfig entry = true →
        before.find? isTransferFeeConfig = none ∧ TransferFeeLayout entry.value) ∧
      (isTransferHook entry = true → entry.value.length = 64) := by
  constructor
  · intro hafter
    refine ⟨fun hfee => ⟨?_, ?_⟩, fun hhook => ?_⟩
    · have hone := hafter.oneFee
      rw [List.filter_append, List.length_append, List.filter_singleton, hfee] at hone
      have hnil : before.filter isTransferFeeConfig = [] :=
        List.eq_nil_of_length_eq_zero (by simpa using hone)
      rw [List.find?_eq_none]
      exact List.filter_eq_nil_iff.1 hnil
    · exact hafter.feeLayout entry (List.mem_append_right _ List.mem_cons_self) hfee
    · exact hafter.hookLength entry (List.mem_append_right _ List.mem_cons_self) hhook
  · rintro ⟨hfee, hhook⟩
    refine ⟨?_, ?_, ?_⟩
    · rw [List.filter_append, List.length_append, List.filter_singleton]
      cases hkind : isTransferFeeConfig entry with
      | false => simpa using h.oneFee
      | true =>
        have hnone := List.find?_eq_none.1 (hfee hkind).1
        rw [List.filter_eq_nil_iff.2 hnone]
        simp
    · intro other hother hkind
      rcases List.mem_append.1 hother with hbefore | hnew
      · exact h.feeLayout other hbefore hkind
      · rw [List.mem_singleton.1 hnew] at hkind ⊢
        exact (hfee hkind).2
    · intro other hother hkind
      rcases List.mem_append.1 hother with hbefore | hnew
      · exact h.hookLength other hbefore hkind
      · rw [List.mem_singleton.1 hnew] at hkind ⊢
        exact hhook hkind

/-- One more entry: what it must satisfy, and what it adds. -/
theorem applyExtension_iff {before : List Tlv.Entry} {entry : Tlv.Entry}
    {result : Token2022MintExtensionResult} (h : ReadableExtensions before) :
    applyExtension (readExtensions before) (tokenExtension entry) = .ok result ↔
      ReadableExtensions (before ++ [entry]) ∧ result = readExtensions (before ++ [entry]) := by
  rw [readableExtensions_snoc h]
  have hlisted : before.map tokenExtension ++ [tokenExtension entry] =
      (before ++ [entry]).map tokenExtension := by simp
  have hreversed : (before ++ [entry]).reverse = entry :: before.reverse := by simp
  have hany : (before ++ [entry]).any changesTransfers =
      (before.any changesTransfers || changesTransfers entry) := by simp
  unfold applyExtension
  by_cases hfee : entry.tag = transferFeeConfigExtensionType
  · have hhook : isTransferHook entry = false := by
      simp [isTransferHook, hfee, transferFeeConfigExtensionType, transferHookExtensionType]
    have hkind : isTransferFeeConfig entry = true := by simp [isTransferFeeConfig, hfee]
    have hplain : changesTransfers entry = false := by
      simp [changesTransfers, hhook, hfee, transferFeeConfigExtensionType,
        confidentialTransferFeeConfigExtensionType]
    rw [if_pos (show (tokenExtension entry).extensionType = _ from hfee)]
    cases hbefore : before.find? isTransferFeeConfig with
    | some other =>
      simp [readExtensions, hbefore, hkind]
    | none =>
      have hnone : (readExtensions before).transferFeeConfig.isSome = false := by
        simp [readExtensions, hbefore]
      simp only [hnone, Bool.false_eq_true, if_false, Except.bind_eq_ok,
        decodeTransferFeeConfig_iff]
      constructor
      · rintro ⟨_, ⟨hlayout, rfl⟩, hret⟩
        cases hret
        refine ⟨⟨fun _ => ⟨trivial, hlayout⟩, fun hcontra => by simp [hhook] at hcontra⟩, ?_⟩
        simp [readExtensions, hbefore, hkind, hhook, hplain, tokenExtension]
      · rintro ⟨⟨hlayout, -⟩, rfl⟩
        refine ⟨_, ⟨(hlayout hkind).2, rfl⟩, ?_⟩
        simp [readExtensions, hbefore, hkind, hhook, hplain, tokenExtension, pure, Except.pure]
  · have hkind : isTransferFeeConfig entry = false := by simp [isTransferFeeConfig, hfee]
    rw [if_neg (show ¬ (tokenExtension entry).extensionType = _ from hfee)]
    by_cases hhook : entry.tag = transferHookExtensionType
    · have hhooked : isTransferHook entry = true := by simp [isTransferHook, hhook]
      have hplain : changesTransfers entry = (hookProgram entry).isSome := by
        simp [changesTransfers, hhooked, hhook, transferHookExtensionType,
          confidentialTransferFeeConfigExtensionType]
      rw [if_pos (show (tokenExtension entry).extensionType = _ from hhook)]
      by_cases hsize : entry.value.length = 64
      · rw [if_neg (not_not.2 (show (tokenExtension entry).value.length = 64 from hsize))]
        simp only [Except.bind_eq_ok, decodeOptionalNonzeroPublicKey_ok]
        constructor
        · rintro ⟨_, ⟨-, rfl⟩, hret⟩
          cases hret
          refine ⟨⟨fun hcontra => by simp [hkind] at hcontra, fun _ => hsize⟩, ?_⟩
          simp [readExtensions, hkind, hhooked, hplain, tokenExtension, hookProgram]
        · rintro ⟨-, rfl⟩
          refine ⟨_, ⟨by simp only [tokenExtension]; omega, rfl⟩, ?_⟩
          simp [readExtensions, hkind, hhooked, hplain, tokenExtension, hookProgram, pure,
            Except.pure]
      · rw [if_pos (show (tokenExtension entry).value.length ≠ 64 from hsize)]
        simp [hhooked, hsize]
    · have hhooked : isTransferHook entry = false := by simp [isTransferHook, hhook]
      rw [if_neg (show ¬ (tokenExtension entry).extensionType = _ from hhook)]
      have hallowed : ((isTransferFeeConfig entry = true →
          before.find? isTransferFeeConfig = none ∧ TransferFeeLayout entry.value) ∧
          (isTransferHook entry = true → entry.value.length = 64)) := by
        simp [hkind, hhooked]
      by_cases hconfidential : entry.tag = confidentialTransferFeeConfigExtensionType
      · have hplain : changesTransfers entry = true := by simp [changesTransfers, hconfidential]
        rw [if_pos (show (tokenExtension entry).extensionType = _ from hconfidential)]
        constructor
        · intro hret
          cases hret
          refine ⟨hallowed, ?_⟩
          simp [readExtensions, hkind, hhooked, hplain]
        · rintro ⟨-, rfl⟩
          simp [readExtensions, hkind, hhooked, hplain]
      · have hplain : changesTransfers entry = false := by
          simp [changesTransfers, hconfidential, hhooked]
        rw [if_neg (show ¬ (tokenExtension entry).extensionType = _ from hconfidential)]
        constructor
        · intro hret
          cases hret
          refine ⟨hallowed, ?_⟩
          simp [readExtensions, hkind, hhooked, hplain]
        · rintro ⟨-, rfl⟩
          simp [readExtensions, hkind, hhooked, hplain]

/-! ## Reading a region -/

section

variable {data : Bytes}

/-- What the loop returns stands in the data from the cursor on. -/
theorem decodeExtensionEntries_sound : ∀ {fuel cursor cursor' : Nat} {before : List Tlv.Entry}
    {result : Token2022MintExtensionResult}, ReadableExtensions before → cursor ≤ data.length →
      data.length ≤ cursor + fuel →
      decodeExtensionEntries data fuel cursor (readExtensions before) = .ok (cursor', result) →
      ∃ entries, data.drop cursor = Tlv.encode entries ++ data.drop cursor' ∧
        cursor' ≤ data.length ∧ Tlv.Stops (data.drop cursor') ∧
        ReadableExtensions (before ++ entries) ∧ result = readExtensions (before ++ entries)
  | 0, cursor, _, before, _, hbefore, hcursor, hfuel, h => by
    cases h
    refine ⟨[], rfl, hcursor, .inl ?_, ?_⟩
    · rw [List.length_drop]
      omega
    · rw [List.append_nil]
      exact ⟨hbefore, rfl⟩
  | fuel + 1, cursor, cursor', before, result, hbefore, hcursor, hfuel, h => by
    rw [decodeExtensionEntries] at h
    split at h
    · rename_i hshort
      cases h
      refine ⟨[], rfl, hcursor, .inl ?_, ?_⟩
      · rw [List.length_drop]
        omega
      · rw [List.append_nil]
        exact ⟨hbefore, rfl⟩
    · rename_i hheader
      simp only [Except.bind_eq_ok, readUnsignedLittleEndian_ok] at h
      obtain ⟨_, ⟨-, rfl⟩, byteLength, ⟨-, hlength⟩, h⟩ := h
      split at h
      · rename_i hzero
        cases h
        refine ⟨[], rfl, hcursor, .inr hzero, ?_⟩
        rw [List.append_nil]
        exact ⟨hbefore, rfl⟩
      · rename_i htag
        simp only [Except.bind_eq_ok, sliceExact_ok] at h
        obtain ⟨_, ⟨hfits, rfl⟩, next, happly, hmore⟩ := h
        obtain ⟨entry, htagEq, hlengthEq, hvalue, hdrop⟩ :=
          Tlv.exists_entry (Nat.pos_of_ne_zero htag) hlength.symm hfits
        have hextension : (⟨ofBytes ((data.drop cursor).take 2), byteLength,
            (data.drop (cursor + 4)).take byteLength⟩ : Token2022Extension) =
              tokenExtension entry := by
          rw [tokenExtension, htagEq, hlengthEq, hvalue]
        rw [hextension, applyExtension_iff hbefore] at happly
        obtain ⟨hreadable, rfl⟩ := happly
        obtain ⟨entries, hrest, hcursor', hstops, hentries, rfl⟩ :=
          decodeExtensionEntries_sound hreadable hfits (by omega) hmore
        rw [List.append_assoc, List.singleton_append] at hentries ⊢
        refine ⟨entry :: entries, ?_, hcursor', hstops, hentries, rfl⟩
        rw [hdrop, hrest, Tlv.encode_cons, List.append_assoc]

theorem readUnsignedLittleEndian_of_drop {offset width n : Nat} {rest : Bytes} {label : String}
    (h : data.drop offset = toBytes width n ++ rest) (hn : n < 2 ^ (8 * width))
    (hfits : offset + width ≤ data.length) :
    readUnsignedLittleEndian data offset width label = .ok n := by
  rw [readUnsignedLittleEndian_ok, h, List.take_left' (length_toBytes _ _), ofBytes_toBytes hn]
  exact ⟨hfits, rfl⟩

/-- Entries that stand in the data are returned, whatever the fuel beyond what they need. -/
theorem decodeExtensionEntries_complete : ∀ {entries : List Tlv.Entry} {fuel cursor cursor' : Nat}
    {before : List Tlv.Entry}, ReadableExtensions (before ++ entries) → cursor' ≤ data.length →
      data.length ≤ cursor + fuel → cursor + (Tlv.encode entries).length = cursor' →
      data.drop cursor = Tlv.encode entries ++ data.drop cursor' →
      Tlv.Stops (data.drop cursor') →
      decodeExtensionEntries data fuel cursor (readExtensions before) =
        .ok (cursor', readExtensions (before ++ entries))
  | [], 0, cursor, _, before, _, _, _, hend, _, _ => by
    rw [List.append_nil, ← hend]
    rfl
  | [], fuel + 1, cursor, cursor', before, _, _, _, hend, _, hstops => by
    obtain rfl : cursor = cursor' := hend
    rw [List.append_nil, decodeExtensionEntries]
    by_cases hshort : data.length < cursor + 4
    · rw [if_pos hshort]
    · rw [if_neg hshort]
      rcases hstops with hlong | hzero
      · rw [List.length_drop] at hlong
        omega
      · have htag : readUnsignedLittleEndian data cursor 2 "extension type" = .ok _ :=
          readUnsignedLittleEndian_ok.2 ⟨by omega, rfl⟩
        have hlength : readUnsignedLittleEndian data (cursor + 2) 2 "extension length" = .ok _ :=
          readUnsignedLittleEndian_ok.2 ⟨by omega, rfl⟩
        rw [Except.bind_of_ok htag, Except.bind_of_ok hlength, if_pos hzero]
  | entry :: entries, fuel, cursor, cursor', before, hreadable, hcursor', hfuel, hend, hdrop,
      hstops => by
    rw [Tlv.encode_cons, List.length_append, Tlv.Entry.length_encode] at hend
    rw [Tlv.encode_cons, List.append_assoc] at hdrop
    obtain ⟨fuel, rfl⟩ : ∃ less, fuel = less + 1 := ⟨fuel - 1, by omega⟩
    have hinit : ReadableExtensions ((before ++ [entry]) ++ entries) := by
      rw [List.append_assoc]
      exact hreadable
    have happly := (applyExtension_iff hinit.of_append.of_append).2 ⟨hinit.of_append, rfl⟩
    have htag : readUnsignedLittleEndian data cursor 2 "extension type" = .ok entry.tag := by
      rw [Tlv.Entry.encode_append] at hdrop
      exact readUnsignedLittleEndian_of_drop hdrop entry.tag_lt (by omega)
    have hlength : readUnsignedLittleEndian data (cursor + 2) 2 "extension length" =
        .ok entry.value.length :=
      readUnsignedLittleEndian_of_drop (Tlv.Entry.drop_length hdrop) entry.length_lt (by omega)
    have hvalue : sliceExact data (cursor + 4) entry.value.length s!"extension {entry.tag}" =
        .ok entry.value := by
      rw [sliceExact_ok, Tlv.Entry.drop_value hdrop, List.take_left]
      exact ⟨by omega, rfl⟩
    rw [decodeExtensionEntries, if_neg (by omega), Except.bind_of_ok htag,
      Except.bind_of_ok hlength, if_neg entry.tag_pos.ne', Except.bind_of_ok hvalue]
    refine (Except.bind_of_ok happly _).trans ?_
    rw [decodeExtensionEntries_complete hinit hcursor' (by omega) (by omega)
      (Tlv.Entry.drop_rest hdrop) hstops, List.append_assoc, List.singleton_append]

end

/-- The loop ends by itself: once there is fuel for the data, more makes no difference. -/
theorem decodeExtensionEntries_fuel (data : Bytes) : ∀ (fuel fuel' cursor : Nat)
    (result : Token2022MintExtensionResult), data.length ≤ cursor + fuel →
      data.length ≤ cursor + fuel' →
      decodeExtensionEntries data fuel cursor result =
        decodeExtensionEntries data fuel' cursor result
  | 0, 0, _, _, _, _ => rfl
  | 0, fuel' + 1, cursor, result, hfuel, _ => by
    rw [decodeExtensionEntries, decodeExtensionEntries, if_pos (by omega)]
  | fuel + 1, 0, cursor, result, _, hfuel' => by
    rw [decodeExtensionEntries, decodeExtensionEntries, if_pos (by omega)]
  | fuel + 1, fuel' + 1, cursor, result, hfuel, hfuel' => by
    rw [decodeExtensionEntries, decodeExtensionEntries]
    split
    · rfl
    · have hmore : ∀ byteLength next,
          decodeExtensionEntries data fuel (cursor + 4 + byteLength) next =
            decodeExtensionEntries data fuel' (cursor + 4 + byteLength) next :=
        fun byteLength next =>
          decodeExtensionEntries_fuel data fuel fuel' _ next (by omega) (by omega)
      simp only [hmore]

end Chancery
