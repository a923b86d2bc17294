import Chancery.DirectSettlementAgreement
import Chancery.Lib.Utf8

/-!
# Laws of operation documents

What the loaders of operation documents accept.

* `Reading` — `strictReading`, `lenientReading`; `Reading.Says` relates a document to the operation
  that it denotes.
* `TypeScript.loadDirectOperation_ok`, `Python.loadDirectOperation_ok`,
  `Rust.deserializeOperation_ok`.
* `ParsesKeys` — a decoder that reads texts of keys; `Rust.parseAccounts_ok`.
-/

set_option autoImplicit false

namespace Chancery.Integration

/-! ## What is read by name -/

/-- Two lists with the same names, the first read by name. -/
theorem forall₂_byName {ε A B : Type} {read : String → Except ε B} :
    ∀ {names : List (String × A)} {values : List (String × B)},
      names.map Prod.fst = values.map Prod.fst →
        (List.Forall₂ (fun source target => read source.1 = .ok target.2) names values ↔
          ∀ entry ∈ values, read entry.1 = .ok entry.2)
  | [], [], _ => by simp
  | [], _ :: _, h => by simp at h
  | _ :: _, [], h => by simp at h
  | name :: names, value :: values, h => by
    rw [List.map_cons, List.map_cons, List.cons.injEq] at h
    rw [List.forall₂_cons, List.forall_mem_cons, forall₂_byName h.2, h.1]

theorem readPolicyFields_ok {ε A : Type} {readAccount : String → Except ε (Option A)}
    {result : DirectSettlementPolicyAccounts A} :
    readPolicyFields readAccount = .ok result ↔
      ∀ entry ∈ result.entries, readAccount entry.1 = .ok entry.2 :=
  DirectSettlementPolicyAccounts.traverse_ok.trans (forall₂_byName rfl)

section

variable {Accounts : Type → Type} (layout : LawfulLayout Accounts)

theorem LawfulLayout.read_ok {ε A : Type} {readAccount : String → Except ε A}
    {policyAccounts : Except ε (DirectSettlementPolicyAccounts A)} {accounts : Accounts A} :
    layout.read readAccount policyAccounts = .ok accounts ↔
      (∀ entry ∈ layout.required accounts, readAccount entry.1 = .ok entry.2) ∧
        policyAccounts = .ok (layout.policyAccounts accounts) :=
  layout.traverse_ok.trans (and_congr_left' (forall₂_byName (layout.units_required accounts)))

/-! ## The strict reading and the lenient one -/

/-- How a document is told from other values, and a nullable string from its absence. -/
structure Reading where
  asDocument : List String → Json → Option Document
  nullable : Option Json → Option (Option String)

def Json.string? : Option Json → Option String
  | some (.string text) => some text
  | _ => none

/-- Only objects, and every key present. -/
def strictReading : Reading where
  asDocument := fun _ value => match value with
    | .object document => some document
    | _ => none
  nullable := fun value => match value with
    | some .null => some none
    | some (.string text) => some (some text)
    | _ => none

/-- An array for an object that has its elements in order, and no policy key for a null one. -/
def lenientReading : Reading where
  asDocument := fun fields value => match value with
    | .object document => some document
    | .array items => if items.length = fields.length then some (fields.zip items) else none
    | _ => none
  nullable := fun value => match value with
    | none | some .null => some none
    | some (.string text) => some (some text)
    | _ => none

/-- A document with known fields only. -/
def Reading.Opens (reading : Reading) (fields : List String) (value : Option Json)
    (document : Document) : Prop :=
  value.bind (reading.asDocument fields) = some document ∧
    ∀ field ∈ document.map Prod.fst, field ∈ fields

/-- **The operation that a document says**, under a reading. -/
def Reading.Says (reading : Reading) (document : Json)
    (operation : DirectOperation (Accounts String)) : Prop :=
  ∃ root accountsDocument policy, reading.Opens rootFields (some document) root ∧
    reading.Opens layout.fields (root.get? "accounts") accountsDocument ∧
    reading.Opens policyFields (accountsDocument.get? "policyAccounts") policy ∧
    Json.string? (root.get? "pathwayId") = some operation.pathwayId ∧
    Json.string? (root.get? "amount") = some operation.amount ∧
    Json.string? (root.get? "minimumOutput") = some operation.minimumOutput ∧
    (∀ entry ∈ layout.required operation.accounts,
      Json.string? (accountsDocument.get? entry.1) = some entry.2) ∧
    ∀ entry ∈ (layout.policyAccounts operation.accounts).entries,
      reading.nullable (policy.get? entry.1) = some entry.2

/-! ### Strict loaders -/

theorem TypeScript.rejectUnknownFields_ok {document : Document} {allowedFields : List String}
    {location : String} {result : Unit} :
    TypeScript.rejectUnknownFields document allowedFields location = .ok result ↔
      ∀ field ∈ document.map Prod.fst, field ∈ allowedFields := by
  unfold TypeScript.rejectUnknownFields
  cases hfind : (document.map Prod.fst).find? fun field => !allowedFields.contains field with
  | none =>
    rw [List.find?_eq_none] at hfind
    simpa using hfind
  | some field =>
    have hunknown := List.find?_some hfind
    have hmem := List.mem_of_find?_eq_some hfind
    constructor
    · exact fun h => nomatch h
    · intro h
      simp [h field hmem] at hunknown

theorem Python.rejectUnknownFields_ok {document : Document} {allowedFields : List String}
    {location : String} {result : Unit} :
    Python.rejectUnknownFields document allowedFields location = .ok result ↔
      ∀ field ∈ document.map Prod.fst, field ∈ allowedFields := by
  have hfilter : ((document.map Prod.fst).filter fun field => !allowedFields.contains field) = [] ↔
      ∀ field ∈ document.map Prod.fst, field ∈ allowedFields := by
    simp [List.filter_eq_nil_iff]
  rw [← hfilter]
  unfold Python.rejectUnknownFields
  dsimp only
  cases hsort : ((document.map Prod.fst).filter fun field =>
      !allowedFields.contains field).mergeSort fun left right => decide (left ≤ right) with
  | nil =>
    have hperm := List.mergeSort_perm ((document.map Prod.fst).filter fun field =>
      !allowedFields.contains field) fun left right => decide (left ≤ right)
    rw [hsort] at hperm
    exact ⟨fun _ => List.nil_perm.1 hperm, fun _ => rfl⟩
  | cons field rest =>
    constructor
    · exact fun h => nomatch h
    · intro h
      rw [h, List.mergeSort_nil] at hsort
      cases hsort

theorem strictReading_opens {fields : List String} {value : Option Json} {document : Document} :
    strictReading.Opens fields value document ↔ value = some (.object document) ∧
      ∀ field ∈ document.map Prod.fst, field ∈ fields := by
  refine and_congr_left' ?_
  rcases value with _ | (_ | _ | _ | _ | _ | _) <;> simp [strictReading]

theorem TypeScript.readRequiredString_ok {document : Document} {field location value : String} :
    TypeScript.readRequiredString document field location = .ok value ↔
      Json.string? (document.get? field) = some value := by
  unfold TypeScript.readRequiredString
  rcases document.get? field with _ | (_ | _ | _ | _ | _ | _) <;> simp [Json.string?]

theorem Python.readRequiredString_ok {document : Document} {field location value : String} :
    Python.readRequiredString document field location = .ok value ↔
      Json.string? (document.get? field) = some value := by
  unfold Python.readRequiredString
  rcases document.get? field with _ | (_ | _ | _ | _ | _ | _) <;> simp [Json.string?]

theorem TypeScript.readPolicyAccount_ok {policy : Document} {field : String}
    {value : Option String} :
    TypeScript.readPolicyAccount policy field = .ok value ↔
      strictReading.nullable (policy.get? field) = some value := by
  unfold TypeScript.readPolicyAccount
  rcases policy.get? field with _ | (_ | _ | _ | _ | _ | _) <;> simp [strictReading]

theorem Python.readOptionalAccount_ok {policy : Document} {field : String}
    {value : Option String} :
    Python.readOptionalAccount policy field = .ok value ↔
      strictReading.nullable (policy.get? field) = some value := by
  unfold Python.readOptionalAccount
  rcases policy.get? field with _ | (_ | _ | _ | _ | _ | _) <;> simp [strictReading]

theorem TypeScript.readPolicyAccounts_ok {value : Option Json}
    {policyAccounts : DirectSettlementPolicyAccounts String} :
    TypeScript.readPolicyAccounts value = .ok policyAccounts ↔
      ∃ policy, strictReading.Opens policyFields value policy ∧
        ∀ entry ∈ policyAccounts.entries,
          strictReading.nullable (policy.get? entry.1) = some entry.2 := by
  simp only [strictReading_opens, ← TypeScript.readPolicyAccount_ok, ← readPolicyFields_ok]
  rcases value with _ | (_ | _ | _ | _ | _ | policy)
  case some.object =>
    simp [TypeScript.readPolicyAccounts, Except.bind_eq_ok, TypeScript.rejectUnknownFields_ok]
  all_goals simp [TypeScript.readPolicyAccounts]

theorem Python.readPolicyAccounts_ok {accounts : Document}
    {policyAccounts : DirectSettlementPolicyAccounts String} :
    Python.readPolicyAccounts accounts = .ok policyAccounts ↔
      ∃ policy, strictReading.Opens policyFields (accounts.get? "policyAccounts") policy ∧
        ∀ entry ∈ policyAccounts.entries,
          strictReading.nullable (policy.get? entry.1) = some entry.2 := by
  simp only [strictReading_opens, ← Python.readOptionalAccount_ok, ← readPolicyFields_ok]
  unfold Python.readPolicyAccounts
  rcases accounts.get? "policyAccounts" with _ | (_ | _ | _ | _ | _ | policy)
  case some.object => simp [Except.bind_eq_ok, Python.rejectUnknownFields_ok]
  all_goals simp

theorem TypeScript.readAccountsDocument_ok {root accountsDocument : Document} :
    TypeScript.readAccountsDocument root = .ok accountsDocument ↔
      root.get? "accounts" = some (.object accountsDocument) := by
  unfold TypeScript.readAccountsDocument
  rcases root.get? "accounts" with _ | (_ | _ | _ | _ | _ | _) <;> simp

theorem Python.readAccountsDocument_ok {root accountsDocument : Document} :
    Python.readAccountsDocument root = .ok accountsDocument ↔
      root.get? "accounts" = some (.object accountsDocument) := by
  unfold Python.readAccountsDocument
  rcases root.get? "accounts" with _ | (_ | _ | _ | _ | _ | _) <;> simp

theorem TypeScript.readDocument_ok {document : Json} {root : Document} :
    TypeScript.readDocument document = .ok root ↔ document = .object root := by
  cases document <;> simp [TypeScript.readDocument]

theorem Python.loadOperationDocument_ok {document : Json} {root : Document} :
    Python.loadOperationDocument document = .ok root ↔ document = .object root := by
  cases document <;> simp [Python.loadOperationDocument]

/-- **The TypeScript loader reads strictly.** -/
theorem TypeScript.loadDirectOperation_ok {document : Json}
    {operation : DirectOperation (Accounts String)} :
    TypeScript.loadDirectOperation layout.toAccountsLayout document = .ok operation ↔
      strictReading.Says layout document operation := by
  unfold TypeScript.loadDirectOperation Reading.Says
  simp only [Except.bind_eq_ok, TypeScript.rejectUnknownFields_ok, strictReading_opens,
    TypeScript.readRequiredString_ok, TypeScript.readDocument_ok, layout.read_ok,
    TypeScript.readAccountsDocument_ok, TypeScript.readPolicyAccounts_ok, Option.some.injEq]
  constructor
  · rintro ⟨root, hroot, -, hfields, accountsDocument, haccounts, -, haccountFields, accounts,
      ⟨hrequired, policy, hpolicy, hentries⟩, pathwayId, hpathway, amount, hamount, minimumOutput,
      hminimum, hret⟩
    cases hret
    exact ⟨root, accountsDocument, policy, ⟨hroot, hfields⟩, ⟨haccounts, haccountFields⟩, hpolicy,
      hpathway, hamount, hminimum, hrequired, hentries⟩
  · rintro ⟨root, accountsDocument, policy, ⟨hroot, hfields⟩, ⟨haccounts, haccountFields⟩, hpolicy,
      hpathway, hamount, hminimum, hrequired, hentries⟩
    exact ⟨root, hroot, (), hfields, accountsDocument, haccounts, (), haccountFields, _,
      ⟨hrequired, policy, hpolicy, hentries⟩, _, hpathway, _, hamount, _, hminimum, rfl⟩

/-- **The Python loader reads strictly.** -/
theorem Python.loadDirectOperation_ok {document : Json}
    {operation : DirectOperation (Accounts String)} :
    Python.loadDirectOperation layout.toAccountsLayout document = .ok operation ↔
      strictReading.Says layout document operation := by
  unfold Python.loadDirectOperation Reading.Says
  simp only [Except.bind_eq_ok, Python.rejectUnknownFields_ok, strictReading_opens,
    Python.readRequiredString_ok, Python.loadOperationDocument_ok, layout.read_ok,
    Python.readAccountsDocument_ok, Python.readPolicyAccounts_ok, Option.some.injEq]
  constructor
  · rintro ⟨root, hroot, -, hfields, accountsDocument, haccounts, -, haccountFields, pathwayId,
      hpathway, amount, hamount, minimumOutput, hminimum, accounts,
      ⟨hrequired, policy, hpolicy, hentries⟩, hret⟩
    cases hret
    exact ⟨root, accountsDocument, policy, ⟨hroot, hfields⟩, ⟨haccounts, haccountFields⟩, hpolicy,
      hpathway, hamount, hminimum, hrequired, hentries⟩
  · rintro ⟨root, accountsDocument, policy, ⟨hroot, hfields⟩, ⟨haccounts, haccountFields⟩, hpolicy,
      hpathway, hamount, hminimum, hrequired, hentries⟩
    exact ⟨root, hroot, (), hfields, accountsDocument, haccounts, (), haccountFields, _, hpathway,
      _, hamount, _, hminimum, _, ⟨hrequired, policy, hpolicy, hentries⟩, rfl⟩

end

/-! ### The lenient loader -/

/-- **No object has a key twice.** -/
inductive Json.Distinct : Json → Prop
  | null : Distinct .null
  | boolean (value : Bool) : Distinct (.boolean value)
  | number (text : String) : Distinct (.number text)
  | string (text : String) : Distinct (.string text)
  | array {items : List Json} (hitems : ∀ item ∈ items, Distinct item) : Distinct (.array items)
  | object {fields : List (String × Json)} (hkeys : (fields.map Prod.fst).Nodup)
      (hvalues : ∀ entry ∈ fields, Distinct entry.2) : Distinct (.object fields)

theorem lookup_reverse {α : Type} {table : List (String × α)}
    (hnodup : (table.map Prod.fst).Nodup) (key : String) :
    table.reverse.lookup key = table.lookup key := by
  have hreverse : (table.reverse.map Prod.fst).Nodup := by
    rw [List.map_reverse]
    exact List.nodup_reverse.2 hnodup
  apply Option.ext
  intro value
  constructor
  · exact fun h => Table.lookup_of_mem hnodup (List.mem_reverse.1 (Table.mem_of_lookup h))
  · exact fun h => Table.lookup_of_mem hreverse (List.mem_reverse.2 (Table.mem_of_lookup h))

theorem Document.mem_of_get? {document : Document} {field : String} {value : Json}
    (h : document.get? field = some value) : (field, value) ∈ document :=
  List.mem_reverse.1 (Table.mem_of_lookup h)

/-- Values of a document that has been opened leniently. -/
theorem Json.Distinct.of_get? {fields : List String} {value : Json} {document : Document}
    (hdistinct : value.Distinct)
    (hopen : lenientReading.asDocument fields value = some document) {field : String} {inner : Json}
    (hinner : document.get? field = some inner) : inner.Distinct := by
  have hmem := Document.mem_of_get? hinner
  cases hdistinct with
  | object hkeys hvalues =>
    cases hopen
    exact hvalues _ hmem
  | array hitems =>
    simp only [lenientReading] at hopen
    split at hopen
    · cases hopen
      exact hitems _ (List.of_mem_zip hmem).2
    · cases hopen
  | null => cases hopen
  | boolean => cases hopen
  | number => cases hopen
  | string => cases hopen

theorem Rust.deserializeStruct_ok {α : Type} {fields : List String} (hfields : fields.Nodup)
    {visit : (String → Option Json) → Except Unit α} {value : Json} (hdistinct : value.Distinct)
    {result : α} :
    Rust.deserializeStruct fields visit value = .ok result ↔
      ∃ document, lenientReading.Opens fields (some value) document ∧
        visit document.get? = .ok result := by
  unfold Rust.deserializeStruct Reading.Opens
  cases hdistinct with
  | @object document hkeys hvalues =>
    by_cases hknown : ∀ field ∈ document.map Prod.fst, field ∈ fields
    · simp only [if_pos (And.intro hkeys hknown)]
      simpa [lenientReading] using fun _ => hknown
    · simp only [if_neg fun h : _ ∧ _ => hknown h.2]
      constructor
      · exact fun h => nomatch h
      · rintro ⟨other, ⟨hother, hfields⟩, -⟩
        cases hother
        exact absurd hfields hknown
  | @array items hitems =>
    dsimp only
    by_cases hlength : items.length = fields.length
    · have hkeys : (fields.zip items).map Prod.fst = fields := List.map_fst_zip (by omega)
      have hget : (fun field => (fields.zip items).lookup field) =
          Document.get? (fields.zip items) := by
        funext field
        exact (lookup_reverse (by rw [hkeys]; exact hfields) field).symm
      rw [if_pos hlength, hget]
      simpa [lenientReading, hlength] using fun _ field value hmem => (List.of_mem_zip hmem).1
    · simp [lenientReading, hlength]
  | null => simp [lenientReading]
  | boolean => simp [lenientReading]
  | number => simp [lenientReading]
  | string => simp [lenientReading]

theorem Rust.deserializeString_ok {value : Option Json} {text : String} :
    Rust.deserializeField Rust.deserializeString value = .ok text ↔
      Json.string? value = some text := by
  rcases value with _ | (_ | _ | _ | _ | _ | _) <;>
    simp [Rust.deserializeField, Rust.deserializeString, Json.string?]

theorem Rust.deserializeNullableString_ok {value : Option Json} {text : Option String} :
    Rust.deserializeNullableString value = .ok text ↔
      lenientReading.nullable value = some text := by
  rcases value with _ | (_ | _ | _ | _ | _ | _) <;>
    simp [Rust.deserializeNullableString, lenientReading]

/-- A field that is a struct, in a document that has been opened. -/
theorem Rust.deserializeStructField_ok {α : Type} {fields : List String} (hfields : fields.Nodup)
    {visit : (String → Option Json) → Except Unit α} {value : Option Json}
    (hdistinct : ∀ inner, value = some inner → inner.Distinct) {result : α} :
    Rust.deserializeField (Rust.deserializeStruct fields visit) value = .ok result ↔
      ∃ document, lenientReading.Opens fields value document ∧
        visit document.get? = .ok result := by
  cases value with
  | none => simp [Rust.deserializeField, Reading.Opens]
  | some inner => exact Rust.deserializeStruct_ok hfields (hdistinct inner rfl)

theorem policyFields_nodup : policyFields.Nodup := by decide

section

variable {Accounts : Type → Type} (layout : LawfulLayout Accounts)

theorem Rust.deserializePolicyAccounts_ok {value : Option Json}
    (hdistinct : ∀ inner, value = some inner → inner.Distinct)
    {policyAccounts : DirectSettlementPolicyAccounts String} :
    Rust.deserializeField Rust.deserializePolicyAccounts value = .ok policyAccounts ↔
      ∃ policy, lenientReading.Opens policyFields value policy ∧
        ∀ entry ∈ policyAccounts.entries,
          lenientReading.nullable (policy.get? entry.1) = some entry.2 := by
  simp only [← Rust.deserializeNullableString_ok]
  refine (Rust.deserializeStructField_ok policyFields_nodup hdistinct).trans ?_
  exact exists_congr fun policy => and_congr_right' readPolicyFields_ok

theorem Rust.deserializeAccounts_ok (hlayout : layout.fields.Nodup) {value : Option Json}
    (hdistinct : ∀ inner, value = some inner → inner.Distinct) {accounts : Accounts String} :
    Rust.deserializeField (Rust.deserializeAccounts layout.toAccountsLayout) value =
        .ok accounts ↔
      ∃ accountsDocument policy, lenientReading.Opens layout.fields value accountsDocument ∧
        lenientReading.Opens policyFields (accountsDocument.get? "policyAccounts") policy ∧
        (∀ entry ∈ layout.required accounts,
          Json.string? (accountsDocument.get? entry.1) = some entry.2) ∧
        ∀ entry ∈ (layout.policyAccounts accounts).entries,
          lenientReading.nullable (policy.get? entry.1) = some entry.2 := by
  refine (Rust.deserializeStructField_ok hlayout hdistinct).trans ?_
  refine exists_congr fun accountsDocument => ?_
  have hinner : lenientReading.Opens layout.fields value accountsDocument →
      ∀ inner, accountsDocument.get? "policyAccounts" = some inner → inner.Distinct := by
    rintro ⟨hopen, -⟩ inner hget
    obtain ⟨outer, hvalue, hopen⟩ := Option.bind_eq_some_iff.1 hopen
    exact (hdistinct outer hvalue).of_get? hopen hget
  constructor
  · rintro ⟨hopens, hread⟩
    obtain ⟨hrequired, hpolicyAccounts⟩ := layout.read_ok.1 hread
    obtain ⟨policy, hpolicy, hentries⟩ :=
      (Rust.deserializePolicyAccounts_ok (hinner hopens)).1 hpolicyAccounts
    refine ⟨policy, hopens, hpolicy, fun entry hentry => ?_, hentries⟩
    exact Rust.deserializeString_ok.1 (hrequired entry hentry)
  · rintro ⟨policy, hopens, hpolicy, hrequired, hentries⟩
    refine ⟨hopens, layout.read_ok.2 ⟨fun entry hentry => ?_, ?_⟩⟩
    · exact Rust.deserializeString_ok.2 (hrequired entry hentry)
    · exact (Rust.deserializePolicyAccounts_ok (hinner hopens)).2 ⟨policy, hpolicy, hentries⟩

/-- **The Rust loader reads leniently.** -/
theorem Rust.deserializeOperation_ok (hlayout : layout.fields.Nodup) {document : Json}
    (hdistinct : document.Distinct) {operation : DirectOperation (Accounts String)} :
    Rust.deserializeOperation layout.toAccountsLayout document = .ok operation ↔
      lenientReading.Says layout document operation := by
  unfold Rust.deserializeOperation Reading.Says
  rw [Rust.deserializeStruct_ok (by decide) hdistinct]
  refine exists_congr fun root => ?_
  have hinner : lenientReading.Opens rootFields (some document) root →
      ∀ inner, root.get? "accounts" = some inner → inner.Distinct :=
    fun hopens _ => hdistinct.of_get? hopens.1
  simp only [Except.bind_eq_ok, Rust.deserializeString_ok]
  constructor
  · rintro ⟨hroot, pathwayId, hpathway, amount, hamount, minimumOutput, hminimum, accounts,
      haccounts, hret⟩
    cases hret
    obtain ⟨accountsDocument, policy, hopens, hpolicy, hrequired, hentries⟩ :=
      (Rust.deserializeAccounts_ok layout hlayout (hinner hroot)).1 haccounts
    exact ⟨accountsDocument, policy, hroot, hopens, hpolicy, hpathway, hamount, hminimum,
      hrequired, hentries⟩
  · rintro ⟨accountsDocument, policy, hroot, hopens, hpolicy, hpathway, hamount, hminimum,
      hrequired, hentries⟩
    exact ⟨hroot, _, hpathway, _, hamount, _, hminimum, _,
      (Rust.deserializeAccounts_ok layout hlayout (hinner hroot)).2
        ⟨accountsDocument, policy, hopens, hpolicy, hrequired, hentries⟩, rfl⟩

end

/-! ## What is parsed -/

namespace Rust

theorem asBytes_ascii {text : String} (h : ∀ c ∈ text.toList, c.toNat < 128) :
    asBytes text = text.toList.map fun c => UInt8.ofNat c.toNat := Utf8.toUTF8_ascii h

theorem ascii_of_asBytes {text : String} (h : ∀ byte ∈ asBytes text, byte.toNat < 128) :
    ∀ c ∈ text.toList, c.toNat < 128 := Utf8.ascii_of_toUTF8 h

theorem toNat_ofNat_ascii {c : Char} (h : c.toNat < 128) : (UInt8.ofNat c.toNat).toNat = c.toNat :=
  UInt8.toNat_ofNat_of_lt' (Nat.lt_trans h (by decide))

theorem isAsciiDigit_ofNat {c : Char} (h : c.toNat < 128) :
    isAsciiDigit (UInt8.ofNat c.toNat) = c.isDigit := by
  have hall : ∀ n < 128, isAsciiDigit (UInt8.ofNat n) = (Char.ofNat n).isDigit := by decide
  rw [hall c.toNat h, Char.ofNat_toNat]

theorem ascii_of_isAsciiDigit {byte : UInt8} (h : isAsciiDigit byte = true) :
    byte.toNat < 128 := by
  have hrange := Bool.and_eq_true_iff.1 h
  have hhigh : byte ≤ 57 := of_decide_eq_true hrange.2
  exact Nat.lt_of_le_of_lt (UInt8.le_iff_toNat_le.1 hhigh) (by decide)

theorem ascii_of_isDigit {c : Char} (h : c.isDigit = true) : c.toNat < 128 := by
  simp only [Char.isDigit, Bool.and_eq_true, decide_eq_true_eq] at h
  have hhigh : c.toNat ≤ 57 := h.2
  omega

/-- The digits of a text and the bytes of its digits. -/
theorem isUnsignedDecimal_iff {text : String} :
    ¬ ((asBytes text).isEmpty || !(asBytes text).all isAsciiDigit) = true ↔
      isUnsignedDecimal text = true := by
  have hbytes : (∀ c ∈ text.toList, c.toNat < 128) →
      (asBytes text).isEmpty = text.toList.isEmpty ∧
        (asBytes text).all isAsciiDigit = text.toList.all Char.isDigit := by
    intro hascii
    rw [asBytes_ascii hascii, List.isEmpty_map, List.all_map]
    refine ⟨rfl, ?_⟩
    rw [Bool.eq_iff_iff, List.all_eq_true, List.all_eq_true]
    exact forall₂_congr fun c hc => by rw [Function.comp_apply, isAsciiDigit_ofNat (hascii c hc)]
  unfold isUnsignedDecimal
  constructor
  · intro h
    simp only [Bool.or_eq_true, Bool.not_eq_true', not_or, Bool.not_eq_false,
      Bool.not_eq_true] at h
    have hascii := ascii_of_asBytes fun byte hbyte =>
      ascii_of_isAsciiDigit (List.all_eq_true.1 h.2 byte hbyte)
    obtain ⟨hempty, hall⟩ := hbytes hascii
    simp [← hempty, ← hall, h.1, h.2]
  · intro h
    obtain ⟨hnonempty, hdigits⟩ := Bool.and_eq_true_iff.1 h
    obtain ⟨hempty, hall⟩ := hbytes fun c hc =>
      ascii_of_isDigit (List.all_eq_true.1 hdigits c hc)
    rw [hempty, hall, hdigits]
    simpa using hnonempty

theorem decimalValue_asBytes {text : String} (h : isUnsignedDecimal text = true) :
    decimalValue ((asBytes text).map fun byte => byte.toNat - 48) =
      decimalValue (decimalDigits text) := by
  obtain ⟨-, hdigits⟩ := Bool.and_eq_true_iff.1 h
  have hascii : ∀ c ∈ text.toList, c.toNat < 128 := fun c hc =>
    ascii_of_isDigit (List.all_eq_true.1 hdigits c hc)
  rw [asBytes_ascii hascii, List.map_map, decimalDigits]
  congr 1
  refine List.map_congr_left fun c hc => ?_
  rw [Function.comp_apply, toNat_ofNat_ascii (hascii c hc)]
  rfl

theorem parseDecimalU64_ok {value fieldName : String} {word : UInt64} :
    parseDecimalU64 value fieldName = .ok word ↔ ReadsU64 value word := by
  unfold parseDecimalU64 ReadsU64
  dsimp only
  by_cases hdecimal : isUnsignedDecimal value = true
  · rw [if_neg (isUnsignedDecimal_iff.2 hdecimal), decimalValue_asBytes hdecimal]
    constructor
    · intro h
      split at h
      · rename_i hlt
        cases h
        exact ⟨hdecimal, (UInt64.toNat_ofNat_of_lt' hlt).symm⟩
      · cases h
    · rintro ⟨-, hvalue⟩
      have hlt := word.toNat_lt
      rw [hvalue, if_pos hlt]
      exact congrArg Except.ok UInt64.ofNat_toNat
  · rw [if_pos (by_contra fun h => hdecimal (isUnsignedDecimal_iff.1 h))]
    exact ⟨fun h => (nomatch h), fun h => absurd h.1 hdecimal⟩

theorem parsePositiveU64_ok {value fieldName : String} {word : UInt64} :
    parsePositiveU64 value fieldName = .ok word ↔ ReadsU64 value word ∧ word ≠ 0 := by
  unfold parsePositiveU64
  simp only [Except.bind_eq_ok, parseDecimalU64_ok, rejectWhen_ok]
  constructor
  · rintro ⟨amount, hreads, -, hpositive, hret⟩
    cases hret
    exact ⟨hreads, hpositive⟩
  · rintro ⟨hreads, hpositive⟩
    exact ⟨word, hreads, (), hpositive, rfl⟩

theorem hexadecimalNibble_ofNat {c : Char} (h : c.toNat < 128) :
    hexadecimalNibble (UInt8.ofNat c.toNat) = (hexDigit c).map UInt8.ofNat := by
  have hall : ∀ n < 128, hexadecimalNibble (UInt8.ofNat n) =
      (hexDigit (Char.ofNat n)).map UInt8.ofNat := by decide
  rw [hall c.toNat h, Char.ofNat_toNat]

theorem ascii_of_hexadecimalNibble {byte digit : UInt8} (h : hexadecimalNibble byte = some digit) :
    byte.toNat < 128 := by
  have hbound : ∀ {low high : UInt8}, high ≤ 102 → (low ≤ byte && byte ≤ high) = true →
      byte.toNat < 128 := by
    intro low high hhigh hrange
    have hle : byte ≤ high := of_decide_eq_true (Bool.and_eq_true_iff.1 hrange).2
    have hle := Nat.le_trans (UInt8.le_iff_toNat_le.1 hle) (UInt8.le_iff_toNat_le.1 hhigh)
    exact Nat.lt_of_le_of_lt hle (by decide)
  unfold hexadecimalNibble at h
  split at h
  · rename_i hrange
    exact hbound (by decide) hrange
  · split at h
    · rename_i hrange
      exact hbound (by decide) hrange
    · split at h
      · rename_i hrange
        exact hbound (by decide) hrange
      · cases h

theorem hexDigit_bounds {c : Char} {digit : Nat} (h : hexDigit c = some digit) :
    c.toNat < 128 ∧ digit < 16 := by
  unfold hexDigit at h
  split at h
  · rename_i hdigit
    simp only [Char.isDigit, Bool.and_eq_true, decide_eq_true_eq] at hdigit
    have hhigh : c.toNat ≤ 57 := hdigit.2
    cases h
    refine ⟨by omega, ?_⟩
    show c.toNat - 48 < 16
    omega
  · split at h
    · rename_i hlower
      simp only [Bool.and_eq_true, decide_eq_true_eq] at hlower
      have hhigh : c.toNat ≤ 102 := hlower.2
      cases h
      refine ⟨by omega, ?_⟩
      show c.toNat - 97 + 10 < 16
      omega
    · split at h
      · rename_i hupper
        simp only [Bool.and_eq_true, decide_eq_true_eq] at hupper
        have hhigh : c.toNat ≤ 70 := hupper.2
        cases h
        refine ⟨by omega, ?_⟩
        show c.toNat - 65 + 10 < 16
        omega
      · cases h

theorem nibbles_eq : ∀ high < 16, ∀ low < 16,
    UInt8.ofNat high <<< 4 ||| UInt8.ofNat low = UInt8.ofNat (high * 16 + low) := by decide

theorem hexadecimalPairs_map : ∀ (count : Nat) {cs : List Char}, cs.length = 2 * count →
    (∀ c ∈ cs, c.toNat < 128) →
      hexadecimalPairs (cs.map fun c => UInt8.ofNat c.toNat) = hexPairs cs
  | 0, cs, hlength, _ => by
    rw [List.length_eq_zero_iff.1 hlength]
    rfl
  | count + 1, high :: low :: cs, hlength, hascii => by
    have hrest : cs.length = 2 * count := by simpa [Nat.mul_add] using hlength
    have ih := hexadecimalPairs_map count hrest
      fun c hc => hascii c (List.mem_cons_of_mem _ (List.mem_cons_of_mem _ hc))
    rw [List.map_cons, List.map_cons, hexadecimalPairs, hexPairs, hexByte,
      hexadecimalNibble_ofNat (hascii high (by simp)),
      hexadecimalNibble_ofNat (hascii low (by simp)), ih]
    cases hhigh : hexDigit high with
    | none => rfl
    | some h =>
      cases hlow : hexDigit low with
      | none => rfl
      | some l =>
        show (hexPairs cs).bind (fun bytes =>
          some ((UInt8.ofNat h <<< 4 ||| UInt8.ofNat l) :: bytes)) = _
        rw [nibbles_eq h (hexDigit_bounds hhigh).2 l (hexDigit_bounds hlow).2]
        rfl

/-- Every byte of digits that have been paired is one of a digit. -/
theorem ascii_of_hexadecimalPairs : ∀ (count : Nat) {digits bytes : Bytes},
    digits.length = 2 * count → hexadecimalPairs digits = some bytes →
      ∀ digit ∈ digits, digit.toNat < 128
  | 0, digits, _, hlength, _ => by
    rw [List.length_eq_zero_iff.1 hlength]
    exact fun _ h => nomatch h
  | count + 1, high :: low :: rest, bytes, hlength, h => by
    rw [hexadecimalPairs] at h
    obtain ⟨_, hhigh, h⟩ := Option.bind_eq_some_iff.1 h
    obtain ⟨_, hlow, h⟩ := Option.bind_eq_some_iff.1 h
    obtain ⟨tail, htail, -⟩ := Option.bind_eq_some_iff.1 h
    have hrest : rest.length = 2 * count := by simpa [Nat.mul_add] using hlength
    have ih := ascii_of_hexadecimalPairs count hrest htail
    exact List.forall_mem_cons.2 ⟨ascii_of_hexadecimalNibble hhigh,
      List.forall_mem_cons.2 ⟨ascii_of_hexadecimalNibble hlow, ih⟩⟩

theorem digits_of_hexPairs : ∀ {cs : List Char} {bytes : Bytes}, hexPairs cs = some bytes →
    ∀ c ∈ cs, (hexDigit c).isSome = true
  | [], _, _ => fun _ h => nomatch h
  | [_], _, h => nomatch h
  | high :: low :: cs, bytes, h => by
    rw [hexPairs] at h
    obtain ⟨byte, hbyte, h⟩ := Option.bind_eq_some_iff.1 h
    obtain ⟨tail, htail, -⟩ := Option.bind_eq_some_iff.1 h
    obtain ⟨_, hhigh, hbyte⟩ := Option.bind_eq_some_iff.1 hbyte
    obtain ⟨_, hlow, -⟩ := Option.bind_eq_some_iff.1 hbyte
    exact List.forall_mem_cons.2 ⟨by rw [hhigh]; rfl, List.forall_mem_cons.2 ⟨by rw [hlow]; rfl,
      digits_of_hexPairs htail⟩⟩

theorem parsePathwayId_ok {value : String} {pathwayId : { bytes : Bytes // bytes.length = 32 }} :
    parsePathwayId value = .ok pathwayId ↔ ReadsPathwayId value pathwayId.1 := by
  unfold parsePathwayId ReadsPathwayId
  dsimp only
  have hascii : ∀ {text : String}, (∀ c ∈ text.toList, c.toNat < 128) →
      text.toList.length = 2 * 32 →
        (asBytes text).length = 2 * 32 ∧
          hexadecimalPairs (asBytes text) = hexPairs text.toList := by
    intro text hchars hlength
    rw [asBytes_ascii hchars, List.length_map]
    exact ⟨hlength, hexadecimalPairs_map 32 hlength hchars⟩
  constructor
  · intro h
    split at h
    · rename_i hlength
      split at h
      · rename_i bytes hpairs
        cases h
        have hchars := ascii_of_asBytes (ascii_of_hexadecimalPairs 32 hlength hpairs)
        have hcount : (normalizedPathwayId value).toList.length = 2 * 32 := by
          rw [asBytes_ascii hchars, List.length_map] at hlength
          exact hlength
        have hhex : hexPairs (normalizedPathwayId value).toList = some bytes := by
          rw [← (hascii hchars hcount).2, hpairs]
        refine ⟨?_, hhex⟩
        rw [isPathwayPattern, hcount, Bool.and_eq_true]
        exact ⟨rfl, List.all_eq_true.2 (digits_of_hexPairs hhex)⟩
      · cases h
    · cases h
  · rintro ⟨hpattern, hhex⟩
    obtain ⟨hcount, hdigits⟩ := Bool.and_eq_true_iff.1 hpattern
    have hchars : ∀ c ∈ (normalizedPathwayId value).toList, c.toNat < 128 := by
      intro c hc
      obtain ⟨digit, hdigit⟩ := Option.isSome_iff_exists.1 (List.all_eq_true.1 hdigits c hc)
      exact (hexDigit_bounds hdigit).1
    obtain ⟨hlength, hpairs⟩ := hascii hchars (beq_iff_eq.1 hcount)
    rw [dif_pos hlength]
    split
    · rename_i bytes hbytes
      rw [hpairs, hhex] at hbytes
      cases hbytes
      rfl
    · rename_i hnone
      rw [hpairs, hhex] at hnone
      cases hnone

end Rust

/-! ## Keys -/

/-- **A parser of keys**: base58 of thirty-two bytes. -/
def ParsesKeys (fromStr : String → Except String PublicKey) : Prop :=
  ∀ text key, fromStr text = .ok key ↔ decodeBase58 text = .ok key.bytes

theorem ParsesKeys.spells {fromStr : String → Except String PublicKey} (h : ParsesKeys fromStr)
    {text : String} {key : PublicKey} : fromStr text = .ok key ↔ text = key.toBase58 := by
  rw [h]
  constructor
  · exact fun hdecoded => (encodeBase58_of_decodeBase58 hdecoded).symm
  · rintro rfl
    exact decodeBase58_encodeBase58 _

theorem forall₂_snd {A B : Type} (P : B → Prop) (f : B → A) :
    ∀ (sources : List (String × A)) (targets : List (String × B)),
      List.Forall₂ (fun source target => source.2 = f target.2 ∧ P target.2) sources targets ↔
        sources.map Prod.snd = targets.map (fun target => f target.2) ∧
          ∀ target ∈ targets, P target.2
  | [], [] => by simp
  | [], _ :: _ => by simp
  | _ :: _, [] => by simp
  | source :: sources, target :: targets => by
    rw [List.forall₂_cons, forall₂_snd P f sources targets, List.map_cons, List.map_cons,
      List.cons.injEq,
      List.forall_mem_cons]
    tauto

section

variable {fromStr : String → Except String PublicKey} (hfromStr : ParsesKeys fromStr)

include hfromStr

theorem Rust.parseRequiredPublicKey_ok {value fieldName : String} {key : PublicKey} :
    Rust.parseRequiredPublicKey fromStr value fieldName = .ok key ↔
      value = key.toBase58 ∧ key ≠ zeroAddress := by
  unfold Rust.parseRequiredPublicKey
  simp only [Except.bind_eq_ok, rejectWhen_ok]
  constructor
  · rintro ⟨parsed, hparsed, -, hzero, hret⟩
    cases hret
    cases hresult : fromStr value with
    | error error =>
      rw [hresult] at hparsed
      cases hparsed
    | ok other =>
      rw [hresult] at hparsed
      cases hparsed
      exact ⟨hfromStr.spells.1 hresult, hzero⟩
  · rintro ⟨rfl, hzero⟩
    refine ⟨key, ?_, (), hzero, rfl⟩
    rw [hfromStr.spells.2 rfl]
    rfl

theorem Rust.parseOptionalPublicKey_ok {value : Option String} {fieldName : String}
    {key : Option PublicKey} :
    Rust.parseOptionalPublicKey fromStr value fieldName = .ok key ↔
      value = key.map PublicKey.toBase58 ∧
        ∀ address, key = some address → address ≠ zeroAddress := by
  cases value with
  | none => cases key <;> simp [Rust.parseOptionalPublicKey]
  | some text =>
    simp only [Rust.parseOptionalPublicKey, Except.bind_eq_ok,
      Rust.parseRequiredPublicKey_ok hfromStr]
    constructor
    · rintro ⟨address, ⟨rfl, hzero⟩, hret⟩
      cases hret
      refine ⟨rfl, fun other hother => ?_⟩
      cases hother
      exact hzero
    · rintro ⟨htext, hzero⟩
      obtain ⟨address, rfl, hspelled⟩ := Option.map_eq_some_iff.1 htext.symm
      exact ⟨address, ⟨hspelled.symm, hzero address rfl⟩, rfl⟩

section

variable {Accounts : Type → Type} (layout : LawfulLayout Accounts)

omit hfromStr in
theorem LawfulLayout.nonDefault_iff {accounts : Accounts PublicKey} :
    (∀ position ∈ layout.positions accounts, position.NonDefault) ↔
      (∀ entry ∈ layout.required accounts, entry.2 ≠ zeroAddress) ∧
        ∀ entry ∈ (layout.policyAccounts accounts).entries, ∀ address,
          entry.2 = some address → address ≠ zeroAddress := by
  have haddresses : (∀ position ∈ layout.positions accounts, position.NonDefault) ↔
      ∀ address? ∈ (layout.positions accounts).map Position.address?, ∀ address,
        address? = some address → address ≠ zeroAddress := by
    rw [List.forall_mem_map]
    rfl
  rw [haddresses, layout.addresses, List.forall_mem_append, List.forall_mem_map,
    List.forall_mem_map]
  refine and_congr_left' (forall₂_congr fun entry _ => ?_)
  simp

/-- **Accounts of which every text is a key.** -/
theorem Rust.parseAccounts_ok {texts : Accounts String} {accounts : Accounts PublicKey} :
    layout.traverse
        (fun field value => Rust.parseRequiredPublicKey fromStr value ("accounts." ++ field))
        (Rust.resolvePolicyAccounts fromStr) texts = .ok accounts ↔
      texts = layout.map PublicKey.toBase58 accounts ∧
        ∀ position ∈ layout.positions accounts, position.NonDefault := by
  rw [layout.traverse_ok, Rust.resolvePolicyAccounts, DirectSettlementPolicyAccounts.traverse_ok,
    layout.nonDefault_iff]
  simp only [Rust.parseRequiredPublicKey_ok hfromStr, Rust.parseOptionalPublicKey_ok hfromStr]
  have hrequired := forall₂_snd (fun key => key ≠ zeroAddress) PublicKey.toBase58
    (layout.required texts) (layout.required accounts)
  have hoptional := forall₂_snd
    (fun key : Option PublicKey => ∀ address, key = some address → address ≠ zeroAddress)
    (Option.map PublicKey.toBase58) (layout.policyAccounts texts).entries
    (layout.policyAccounts accounts).entries
  rw [hrequired, hoptional]
  have hext : texts = layout.map PublicKey.toBase58 accounts ↔
      (layout.required texts).map Prod.snd =
          (layout.required accounts).map (fun entry => entry.2.toBase58) ∧
        (layout.policyAccounts texts).entries.map Prod.snd =
          (layout.policyAccounts accounts).entries.map fun entry =>
            entry.2.map PublicKey.toBase58 := by
    have hentries : ((layout.policyAccounts accounts).map PublicKey.toBase58).entries.map Prod.snd =
        (layout.policyAccounts accounts).entries.map fun entry =>
          entry.2.map PublicKey.toBase58 := rfl
    constructor
    · rintro rfl
      rw [layout.map_required, layout.map_policyAccounts]
      exact ⟨rfl, hentries⟩
    · rintro ⟨hrequired, hpolicy⟩
      refine layout.ext ?_ ?_
      · rw [layout.map_required, hrequired]
      · rw [layout.map_policyAccounts, hpolicy, hentries]
  rw [hext]
  tauto

end

end

end Chancery.Integration
