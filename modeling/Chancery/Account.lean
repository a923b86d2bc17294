import Chancery.BinaryCodecLaws
import Chancery.Schema.Accounts

/-!
# Accounts

Model of `typescript/src/ChanceryAccount.ts` and `python/chancery_reference/account.py`: an
account is its discriminator followed by its fields, and its schema declares the size.

* `decodeChanceryAccount`, `encodeChanceryAccount` — with their Python counterparts.
* `decodeAccount_encode`, `encodeAccount_decode` — the two are inverse to each other.
-/

set_option autoImplicit false

namespace Chancery

/-- A decoded account. -/
structure DecodedChanceryAccount where
  name : String
  values : StructValues

/-- The schema of an account type. -/
def getAccountSchema (accountName : String) : Except String AccountSchema :=
  match accountSchemas.lookup accountName with
  | some schema => .ok schema
  | none => .error s!"Unknown Chancery account: {accountName}"

/-- Whether data starts with a discriminator. -/
def discriminatorEquals (data discriminator : Bytes) : Bool := discriminator.isPrefixOf data

/-- The schema whose discriminator the data has. -/
def findAccountSchema (data : Bytes) : Except String (String × AccountSchema) :=
  match accountSchemas.find? fun entry => discriminatorEquals data entry.2.discriminator with
  | some entry => .ok entry
  | none => .error "Unknown Chancery account discriminator"

section

variable (D : Dialect)

/-- An account read from its data, which must have the exact size. -/
def decodeAccountWith (data : Bytes) : Except String DecodedChanceryAccount := do
  let (accountName, accountSchema) ← findAccountSchema data
  if data.length ≠ accountSchema.size then
    .error s!"{accountName} requires exactly {accountSchema.size} bytes; received {data.length}"
  else
    let reader ← binaryReader data Schema.accountDiscriminatorBytes
    let (values, reader) ←
      decodeStructWith D accountSchema.fields reader s!"accounts.{accountName}"
    if reader.length ≠ 0 then .error s!"{accountName} has {reader.length} trailing bytes"
    else return { name := accountName, values := values }

/-- The data of an account. -/
def encodeAccountWith (accountName : String) (values : StructValues) : Except String Bytes := do
  let accountSchema ← getAccountSchema accountName
  let payload ← encodeStructWith D accountSchema.fields values s!"accounts.{accountName}" true
  let data := accountSchema.discriminator ++ payload
  if data.length ≠ accountSchema.size then
    .error s!"{accountName} encoded to {data.length} bytes; expected {accountSchema.size}"
  else return data

end

/-- The TypeScript decoder. -/
def decodeChanceryAccount := decodeAccountWith typescript
def encodeChanceryAccount := encodeAccountWith typescript
def pythonDecodeChanceryAccount := decodeAccountWith python
def pythonEncodeChanceryAccount := encodeAccountWith python

/-! ## The table -/

theorem accountNames_nodup : (accountSchemas.map Prod.fst).Nodup := by decide +kernel

theorem accountDiscriminators_nodup :
    (accountSchemas.map fun entry => entry.2.discriminator).Nodup := by decide +kernel

theorem accountSchemas_wellFormed : ∀ entry ∈ accountSchemas,
    entry.2.discriminator.length = Schema.accountDiscriminatorBytes ∧
      fieldsWellFormed entry.2.fields = true := by
  decide +kernel

theorem getAccountSchema_ok {accountName : String} {schema : AccountSchema}
    (h : getAccountSchema accountName = .ok schema) : (accountName, schema) ∈ accountSchemas := by
  unfold getAccountSchema at h
  split at h
  · rename_i hlookup
    cases h
    exact Table.mem_of_lookup hlookup
  · cases h

theorem getAccountSchema_of_mem {accountName : String} {schema : AccountSchema}
    (h : (accountName, schema) ∈ accountSchemas) : getAccountSchema accountName = .ok schema := by
  rw [getAccountSchema, Table.lookup_of_mem accountNames_nodup h]

theorem discriminatorEquals_iff {entry : String × AccountSchema} (h : entry ∈ accountSchemas)
    (data : Bytes) : discriminatorEquals data entry.2.discriminator =
      (entry.2.discriminator == data.take Schema.accountDiscriminatorBytes) := by
  rw [Bool.eq_iff_iff, discriminatorEquals, Table.isPrefixOf_iff_take,
    (accountSchemas_wellFormed entry h).1, beq_iff_eq]
  exact eq_comm

/-- The first-match scan finds the schema whose discriminator the data starts with. -/
theorem findAccountSchema_append {entry : String × AccountSchema} (h : entry ∈ accountSchemas)
    (payload : Bytes) : findAccountSchema (entry.2.discriminator ++ payload) = .ok entry := by
  have htake : (entry.2.discriminator ++ payload).take Schema.accountDiscriminatorBytes =
      entry.2.discriminator := by
    rw [← (accountSchemas_wellFormed entry h).1, List.take_left]
  have hscan : accountSchemas.find? (fun e => discriminatorEquals
      (entry.2.discriminator ++ payload) e.2.discriminator) = some entry := by
    rw [Table.find?_congr fun e he => discriminatorEquals_iff he _, htake]
    exact Table.find?_tag accountDiscriminators_nodup h
  rw [findAccountSchema, hscan]

theorem findAccountSchema_ok {data : Bytes} {entry : String × AccountSchema}
    (h : findAccountSchema data = .ok entry) : entry ∈ accountSchemas ∧
      data = entry.2.discriminator ++ data.drop Schema.accountDiscriminatorBytes := by
  unfold findAccountSchema at h
  split at h
  · rename_i hfind
    cases h
    have hmem := List.mem_of_find?_eq_some hfind
    have heq := List.find?_some hfind
    rw [discriminatorEquals_iff hmem, beq_iff_eq] at heq
    refine ⟨hmem, ?_⟩
    rw [heq, List.take_append_drop]
  · cases h

/-! ## Both directions -/

section

variable {D : Dialect}

/-- What an accepted encoding is made of. -/
theorem encodeAccount_ok {accountName : String} {values : StructValues} {data : Bytes}
    (h : encodeAccountWith D accountName values = .ok data) :
    ∃ schema payload, (accountName, schema) ∈ accountSchemas ∧
      encodeStructWith D schema.fields values s!"accounts.{accountName}" true = .ok payload ∧
      data = schema.discriminator ++ payload ∧ data.length = schema.size := by
  obtain ⟨schema, hschema, hbody⟩ := Except.bind_eq_ok.1 h
  obtain ⟨payload, hpayload, hsize⟩ := Except.bind_eq_ok.1 hbody
  dsimp only at hsize
  split at hsize
  · cases hsize
  · rename_i hlen
    cases hsize
    exact ⟨schema, payload, getAccountSchema_ok hschema, hpayload, rfl, by omega⟩

/-- **Decoding an encoded account** gives its name and canonical values, missing padding as zero. -/
theorem decodeAccount_encode {accountName : String} {values : StructValues} {data : Bytes}
    (h : encodeAccountWith D accountName values = .ok data) :
    ∃ schema, getAccountSchema accountName = .ok schema ∧
      decodeAccountWith D data =
        .ok ⟨accountName, canonicalStruct D schema.fields values true⟩ := by
  obtain ⟨schema, payload, hmem, hpayload, rfl, hlen⟩ := encodeAccount_ok h
  refine ⟨schema, getAccountSchema_of_mem hmem, ?_⟩
  have hdisc := (accountSchemas_wellFormed _ hmem).1
  have hreader : binaryReader (schema.discriminator ++ payload) Schema.accountDiscriminatorBytes =
      .ok payload := by
    rw [binaryReader, ← hdisc, if_neg (by simp), List.drop_left]
  have hstruct := recovers_struct schema.fields values s!"accounts.{accountName}"
    s!"accounts.{accountName}" true payload hpayload []
  rw [List.append_nil] at hstruct
  refine Except.bind_eq_ok.2 ⟨_, findAccountSchema_append hmem payload, ?_⟩
  dsimp only
  rw [if_neg (fun hne => hne hlen)]
  exact Except.bind_eq_ok.2 ⟨_, hreader, Except.bind_eq_ok.2 ⟨_, hstruct, rfl⟩⟩

/-- **Encoding a decoded account** gives back the bytes it was decoded from. -/
theorem encodeAccount_decode {data : Bytes} {account : DecodedChanceryAccount}
    (h : decodeAccountWith D data = .ok account) :
    encodeAccountWith D account.name account.values = .ok data := by
  obtain ⟨⟨accountName, schema⟩, hfind, hbody⟩ := Except.bind_eq_ok.1 h
  obtain ⟨hmem, hdata⟩ := findAccountSchema_ok hfind
  dsimp only at hbody hmem hdata
  split at hbody
  · cases hbody
  · rename_i hlen
    obtain ⟨reader, hreader, hfields⟩ := Except.bind_eq_ok.1 hbody
    obtain ⟨⟨values, rest⟩, hvalues, hrest⟩ := Except.bind_eq_ok.1 hfields
    dsimp only at hrest
    split at hrest
    · cases hrest
    · rename_i hnil
      cases hrest
      obtain rfl : rest = [] := List.eq_nil_of_length_eq_zero (by omega)
      obtain rfl : data.drop Schema.accountDiscriminatorBytes = reader := by
        unfold binaryReader at hreader
        split at hreader
        · cases hreader
        · cases hreader; rfl
      obtain ⟨payload, hpayload, hread⟩ := reencodes_struct (accountSchemas_wellFormed _ hmem).2
        s!"accounts.{accountName}" s!"accounts.{accountName}" true _ _ _ hvalues
      rw [List.append_nil] at hread
      rw [hread] at hdata
      refine Except.bind_eq_ok.2 ⟨schema, getAccountSchema_of_mem hmem, ?_⟩
      refine Except.bind_eq_ok.2 ⟨payload, hpayload, ?_⟩
      dsimp only
      rw [← hdata, if_neg hlen]
      rfl

end

end Chancery
