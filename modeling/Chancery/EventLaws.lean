import Chancery.Event

/-!
# Event evidence

The event codec is exact with and without the CPI prefix, and the events taken from a
`getTransaction` result are those its inner instructions carry.

* `decodeEventData_encode`, `encodeEventData_decode` — the codec.
* `innerSites`, `transactionKeys`, `CarriesEvent` — what a result says about its inner
  instructions, read off the result without the extraction code.
* `eventEvidence_exact` — the extraction returns one occurrence for each site that carries an
  event, in order, and fails on a failed transaction.
-/

set_option autoImplicit false

namespace Chancery

open Extraction

/-! ## The table -/

theorem eventNames_nodup : (eventSchemas.map Prod.fst).Nodup := by decide +kernel

theorem eventDiscriminators_nodup :
    (eventSchemas.map fun entry => entry.2.discriminator).Nodup := by decide +kernel

/-- No discriminator could be taken for the CPI prefix. -/
theorem eventSchemas_wellFormed : ∀ entry ∈ eventSchemas,
    entry.2.discriminator.length = Schema.eventDiscriminatorBytes ∧
      fieldsWellFormed entry.2.fields = true ∧
      entry.2.discriminator.take Schema.eventCpiPrefix.length ≠ Schema.eventCpiPrefix := by
  decide +kernel

theorem getEventSchema_ok {eventName : String} {schema : EventSchema}
    (h : getEventSchema eventName = .ok schema) : (eventName, schema) ∈ eventSchemas := by
  unfold getEventSchema at h
  split at h
  · rename_i hlookup
    cases h
    exact Table.mem_of_lookup hlookup
  · cases h

theorem getEventSchema_of_mem {eventName : String} {schema : EventSchema}
    (h : (eventName, schema) ∈ eventSchemas) : getEventSchema eventName = .ok schema := by
  rw [getEventSchema, Table.lookup_of_mem eventNames_nodup h]

theorem eventDiscriminator_isPrefixOf {entry : String × EventSchema} (h : entry ∈ eventSchemas)
    (data : Bytes) : entry.2.discriminator.isPrefixOf data =
      (entry.2.discriminator == data.take Schema.eventDiscriminatorBytes) := by
  rw [Bool.eq_iff_iff, Table.isPrefixOf_iff_take, (eventSchemas_wellFormed entry h).1, beq_iff_eq]
  exact eq_comm

theorem findEventSchema_append {entry : String × EventSchema} (h : entry ∈ eventSchemas)
    (cpiPrefix payload : Bytes) :
    findEventSchema (cpiPrefix ++ (entry.2.discriminator ++ payload)) cpiPrefix.length =
      .ok entry := by
  have htake : (entry.2.discriminator ++ payload).take Schema.eventDiscriminatorBytes =
      entry.2.discriminator := by
    rw [← (eventSchemas_wellFormed entry h).1, List.take_left]
  have hscan : eventSchemas.find? (fun e =>
      e.2.discriminator.isPrefixOf (entry.2.discriminator ++ payload)) = some entry := by
    rw [Table.find?_congr fun e he => eventDiscriminator_isPrefixOf he _, htake]
    exact Table.find?_tag eventDiscriminators_nodup h
  rw [findEventSchema, List.drop_left, hscan]

theorem findEventSchema_ok {data : Bytes} {offset : Nat} {entry : String × EventSchema}
    (h : findEventSchema data offset = .ok entry) : entry ∈ eventSchemas ∧
      data.drop offset =
        entry.2.discriminator ++ data.drop (offset + Schema.eventDiscriminatorBytes) := by
  unfold findEventSchema at h
  split at h
  · rename_i hfind
    cases h
    have hmem := List.mem_of_find?_eq_some hfind
    have heq := List.find?_some hfind
    rw [eventDiscriminator_isPrefixOf hmem, beq_iff_eq] at heq
    refine ⟨hmem, ?_⟩
    rw [heq, ← List.drop_drop, List.take_append_drop]
  · cases h

/-! ## The codec -/

theorem eventPayloadOffset_cpi (data : Bytes) :
    eventPayloadOffset (Schema.eventCpiPrefix ++ data) = Schema.eventCpiPrefix.length := by
  rw [eventPayloadOffset, if_pos]
  exact List.isPrefixOf_iff_prefix.2 (List.prefix_append ..)

theorem isEventCpiData_iff {data : Bytes} :
    isEventCpiData data = true ↔ ∃ rest, data = Schema.eventCpiPrefix ++ rest := by
  unfold isEventCpiData eventPayloadOffset
  split
  · rename_i hcpi
    obtain ⟨rest, hrest⟩ := List.isPrefixOf_iff_prefix.1 hcpi
    exact ⟨fun _ => ⟨rest, hrest.symm⟩, fun _ => beq_self_eq_true _⟩
  · rename_i hcpi
    constructor
    · intro h
      cases h
    · rintro ⟨rest, rfl⟩
      exact absurd (List.isPrefixOf_iff_prefix.2 (List.prefix_append ..)) hcpi

theorem eventPayloadOffset_bare {entry : String × EventSchema} (h : entry ∈ eventSchemas)
    (payload : Bytes) : eventPayloadOffset (entry.2.discriminator ++ payload) = 0 := by
  obtain ⟨hlen, _, hne⟩ := eventSchemas_wellFormed entry h
  rw [eventPayloadOffset, if_neg]
  intro hcpi
  rw [Table.isPrefixOf_iff_take, List.take_append_of_le_length] at hcpi
  · exact hne hcpi
  · rw [hlen]
    decide

theorem encodeEventData_ok {eventName : String} {values : StructValues} {includeCpiPrefix : Bool}
    {data : Bytes} (h : encodeChanceryEventData eventName values includeCpiPrefix = .ok data) :
    ∃ schema payload, (eventName, schema) ∈ eventSchemas ∧
      encodeStruct schema.fields values s!"events.{eventName}" false = .ok payload ∧
      data = (if includeCpiPrefix then Schema.eventCpiPrefix else []) ++
        (schema.discriminator ++ payload) := by
  obtain ⟨schema, hschema, hbody⟩ := Except.bind_eq_ok.1 h
  obtain ⟨payload, hpayload, hret⟩ := Except.bind_eq_ok.1 hbody
  cases hret
  exact ⟨schema, payload, getEventSchema_ok hschema, hpayload, rfl⟩

/-- **Decoding an encoded event**, with or without the prefix, gives its name and values. -/
theorem decodeEventData_encode {eventName : String} {values : StructValues}
    {includeCpiPrefix : Bool} {data : Bytes}
    (h : encodeChanceryEventData eventName values includeCpiPrefix = .ok data) :
    ∃ schema, getEventSchema eventName = .ok schema ∧ decodeChanceryEventData data =
      .ok ⟨eventName, canonicalStruct typescript schema.fields values false, data⟩ := by
  obtain ⟨schema, payload, hmem, hpayload, rfl⟩ := encodeEventData_ok h
  refine ⟨schema, getEventSchema_of_mem hmem, ?_⟩
  have hoffset : eventPayloadOffset ((if includeCpiPrefix then Schema.eventCpiPrefix else []) ++
      (schema.discriminator ++ payload)) =
        (if includeCpiPrefix then Schema.eventCpiPrefix else ([] : Bytes)).length := by
    cases includeCpiPrefix with
    | true => exact eventPayloadOffset_cpi _
    | false => exact eventPayloadOffset_bare hmem payload
  generalize (if includeCpiPrefix then Schema.eventCpiPrefix else ([] : Bytes)) = cpiPrefix
    at hoffset ⊢
  have hreader : binaryReader (cpiPrefix ++ (schema.discriminator ++ payload))
      (cpiPrefix.length + Schema.eventDiscriminatorBytes) = .ok payload := by
    rw [binaryReader, ← (eventSchemas_wellFormed _ hmem).1, if_neg (by simp), ← List.append_assoc,
      List.drop_left' (List.length_append ..)]
  have hstruct := recovers_struct schema.fields values s!"events.{eventName}"
    s!"events.{eventName}" false payload hpayload []
  rw [List.append_nil] at hstruct
  unfold decodeChanceryEventData
  dsimp only
  rw [hoffset]
  refine Except.bind_eq_ok.2 ⟨_, findEventSchema_append hmem cpiPrefix payload, ?_⟩
  exact Except.bind_eq_ok.2 ⟨_, hreader, Except.bind_eq_ok.2 ⟨_, hstruct, rfl⟩⟩

/-- **Encoding a decoded event** gives back its data, prefixed exactly when the data was. -/
theorem encodeEventData_decode {data : Bytes} {event : DecodedChanceryEvent}
    (h : decodeChanceryEventData data = .ok event) : event.data = data ∧
      encodeChanceryEventData event.name event.values (isEventCpiData data) = .ok data := by
  obtain ⟨⟨eventName, schema⟩, hfind, hbody⟩ := Except.bind_eq_ok.1 h
  obtain ⟨hmem, hdrop⟩ := findEventSchema_ok hfind
  dsimp only at hbody hmem hdrop
  obtain ⟨reader, hreader, hfields⟩ := Except.bind_eq_ok.1 hbody
  obtain ⟨⟨values, rest⟩, hvalues, hrest⟩ := Except.bind_eq_ok.1 hfields
  dsimp only at hrest
  split at hrest
  · cases hrest
  · rename_i hnil
    cases hrest
    refine ⟨rfl, ?_⟩
    obtain rfl : rest = [] := List.eq_nil_of_length_eq_zero (by omega)
    unfold binaryReader at hreader
    split at hreader
    · cases hreader
    cases hreader
    obtain ⟨payload, hpayload, hread⟩ := reencodes_struct (eventSchemas_wellFormed _ hmem).2.1
      s!"events.{eventName}" s!"events.{eventName}" false _ _ _ hvalues
    rw [List.append_nil] at hread
    rw [hread] at hdrop
    have hdata : data = (if isEventCpiData data then Schema.eventCpiPrefix else []) ++
        data.drop (eventPayloadOffset data) := by
      cases hcpi : isEventCpiData data with
      | true =>
        obtain ⟨tail, rfl⟩ := isEventCpiData_iff.1 hcpi
        rw [eventPayloadOffset_cpi, List.drop_left]
        rfl
      | false =>
        have hoffset : eventPayloadOffset data = 0 := by
          unfold isEventCpiData at hcpi
          unfold eventPayloadOffset at hcpi ⊢
          split at hcpi
          · cases hcpi
          · rename_i hhead
            rw [if_neg hhead]
        rw [hoffset]
        rfl
    refine Except.bind_eq_ok.2 ⟨schema, getEventSchema_of_mem hmem, ?_⟩
    refine Except.bind_eq_ok.2 ⟨payload, hpayload, ?_⟩
    rw [hdrop] at hdata
    exact congrArg Except.ok hdata.symm

/-! ## What a result says -/

/-- `value.name` for any value; only an object has properties. -/
def Value.property (value : Value) (name : String) : Value :=
  match value with
  | .object properties => Chancery.property properties name
  | _ => .undefined

/-- The items of an array. -/
def Value.items : Value → List Value
  | .array items => items
  | _ => []

/-- The index that a number is. -/
def Value.index : Value → Nat
  | .number n => n.toNat
  | _ => 0

/-- The stack height that a number is. -/
def Value.stackHeight : Value → Option Nat
  | .number n => some n.toNat
  | _ => none

/-- An inner instruction with its place in the transaction. -/
structure InnerSite where
  parentInstructionIndex : Nat
  innerInstructionIndex : Nat
  instruction : Value

/-- The places of a group of inner instructions. -/
def groupSites (group : Value) : List InnerSite :=
  (group.property "instructions").items.zipIdx.flatMap fun entry =>
    [⟨(group.property "index").index, entry.2, entry.1⟩]

/-- All inner instructions of a result, group by group. -/
def innerSites (result : Value) : List InnerSite :=
  ((result.property "meta").property "innerInstructions").items.flatMap groupSites

/-- The address that a value spells. -/
def keyOf (value : Value) : Option PublicKey :=
  match value with
  | .string text => (decodePublicKey text).toOption
  | _ => match value.property "pubkey" with
    | .string text => (decodePublicKey text).toOption
    | _ => none

/-- The addresses that a list spells. -/
def listedKeys (source : Value) : List PublicKey := source.items.filterMap keyOf

/-- Static keys, then loaded writable ones, then loaded readonly ones. -/
def transactionKeys (result : Value) : List PublicKey :=
  let message := (result.property "transaction").property "message"
  let staticKeys := match message.property "staticAccountKeys" with
    | .array keys => .array keys
    | _ => message.property "accountKeys"
  let loaded := (result.property "meta").property "loadedAddresses"
  listedKeys staticKeys ++
    (listedKeys (loaded.property "writable") ++ listedKeys (loaded.property "readonly"))

/-- The inner instruction is the program's, is signed for by the event authority, and its data
is the CPI prefix before the encoding of the event. -/
structure CarriesEvent (programAddress eventAuthority : PublicKey) (keys : List PublicKey)
    (site : InnerSite) (occurrence : ChanceryEventOccurrence) : Prop where
  program : ∃ index : Nat, site.instruction.property "programIdIndex" = .number index ∧
    keys[index]? = some programAddress
  authority : ∃ (index : Nat) (others : List Value),
    site.instruction.property "accounts" = .array (.number index :: others) ∧
      keys[index]? = some eventAuthority
  data : ∃ text, site.instruction.property "data" = .string text ∧
    decodeBase58 text = .ok occurrence.event.data
  encodes : encodeChanceryEventData occurrence.event.name occurrence.event.values true =
    .ok occurrence.event.data
  decodes : decodeChanceryEventData occurrence.event.data = .ok occurrence.event
  eventAuthority_eq : occurrence.eventAuthority = eventAuthority
  parent_eq : occurrence.parentInstructionIndex = site.parentInstructionIndex
  inner_eq : occurrence.innerInstructionIndex = site.innerInstructionIndex
  stackHeight_eq : occurrence.stackHeight =
    (site.instruction.property "stackHeight").stackHeight

/-! ## Reading a result -/

theorem recordFromUnknown_property {value : Value} {label : String} {record : StructValues}
    (h : recordFromUnknown value label = .ok record) (name : String) :
    property record name = value.property name := by
  cases value <;> cases h <;> rfl

theorem safeUnsignedInteger_ok {value : Value} {label : String} {n : Nat}
    (h : safeUnsignedInteger value label = .ok n) : value = .number n := by
  unfold safeUnsignedInteger at h
  split at h
  · split at h
    · rename_i hsafe
      cases h
      simp only [Bool.and_eq_true, decide_eq_true_eq] at hsafe
      rw [Int.toNat_of_nonneg hsafe.2]
    · cases h
  · cases h

theorem rpcPublicKey_ok {value : Value} {label : String} {key : PublicKey}
    (h : rpcPublicKey value label = .ok key) : keyOf value = some key := by
  unfold rpcPublicKey at h
  split at h
  · rw [keyOf, h]
    rfl
  · rename_i hstring
    obtain ⟨record, hrecord, hkey⟩ := Except.bind_eq_ok.1 h
    rw [recordFromUnknown_property hrecord] at hkey
    unfold keyOf
    split
    · rename_i text
      exact absurd rfl (hstring text)
    · generalize value.property "pubkey" = pubkey at hkey ⊢
      cases pubkey with
      | string text => exact congrArg Except.toOption hkey
      | _ => cases hkey

theorem appendRpcPublicKeys_ok {source : Value} {label : String} {keys : List PublicKey}
    (h : appendRpcPublicKeys source label = .ok keys) : keys = listedKeys source := by
  unfold appendRpcPublicKeys at h
  split at h
  · refine (filterMap_of_forall₂ (forall₂_gather ?_ h)).symm
    intro index value found hvisit
    obtain ⟨key, hkey, hret⟩ := Except.bind_eq_ok.1 hvisit
    cases hret
    exact ⟨key, rfl, rpcPublicKey_ok hkey⟩
  · cases h

theorem listedKeys_orEmptyArray (value : Value) :
    listedKeys (orEmptyArray value) = listedKeys value := by
  cases value <;> rfl

theorem loadedAccountKeys_ok {metaRecord : StructValues} {keys : List PublicKey}
    (h : loadedAccountKeys metaRecord = .ok keys) :
    keys = listedKeys ((property metaRecord "loadedAddresses").property "writable") ++
      listedKeys ((property metaRecord "loadedAddresses").property "readonly") := by
  unfold loadedAccountKeys at h
  split at h
  · rename_i hnull
    cases h
    generalize property metaRecord "loadedAddresses" = loaded at hnull
    cases loaded <;> first | rfl | cases hnull
  · obtain ⟨loaded, hloaded, hbody⟩ := Except.bind_eq_ok.1 h
    obtain ⟨writable, hwritable, hrest⟩ := Except.bind_eq_ok.1 hbody
    obtain ⟨readonly, hreadonly, hret⟩ := Except.bind_eq_ok.1 hrest
    cases hret
    rw [appendRpcPublicKeys_ok hwritable, appendRpcPublicKeys_ok hreadonly,
      listedKeys_orEmptyArray, listedKeys_orEmptyArray, recordFromUnknown_property hloaded,
      recordFromUnknown_property hloaded]

theorem rpcAccountKeys_ok {result : Value} {resultRecord metaRecord : StructValues} {label label' : String}
    {keys : List PublicKey} (hresult : recordFromUnknown result label = .ok resultRecord)
    (hmeta : recordFromUnknown (property resultRecord "meta") label' = .ok metaRecord)
    (h : rpcAccountKeys resultRecord metaRecord = .ok keys) : keys = transactionKeys result := by
  obtain ⟨transaction, htransaction, hbody⟩ := Except.bind_eq_ok.1 h
  obtain ⟨message, hmessage, hkeys⟩ := Except.bind_eq_ok.1 hbody
  obtain ⟨staticKeys, hstatic, hrest⟩ := Except.bind_eq_ok.1 hkeys
  obtain ⟨loadedKeys, hloaded, hret⟩ := Except.bind_eq_ok.1 hrest
  cases hret
  rw [appendRpcPublicKeys_ok hstatic, loadedAccountKeys_ok hloaded, staticKeySource,
    recordFromUnknown_property hmessage, recordFromUnknown_property hmessage,
    recordFromUnknown_property htransaction, recordFromUnknown_property hresult,
    recordFromUnknown_property hmeta, recordFromUnknown_property hresult]
  rfl

/-! ## Extraction -/

theorem instructionAccountAddresses_ok {value : Value} {keys addresses : List PublicKey}
    {label : String} (h : instructionAccountAddresses value keys label = .ok addresses) :
    ∃ items, value = .array items ∧ List.Forall₂ (fun item address =>
      ∃ index : Nat, item = .number index ∧ keys[index]? = some address) items addresses := by
  unfold instructionAccountAddresses at h
  split at h
  · rename_i items
    refine ⟨items, rfl, forall₂_gather ?_ h⟩
    intro index item found hvisit
    obtain ⟨accountIndex, hindex, hbody⟩ := Except.bind_eq_ok.1 hvisit
    split at hbody
    · cases hbody
    · rename_i address hkey
      cases hbody
      exact ⟨address, rfl, accountIndex, safeUnsignedInteger_ok hindex, hkey⟩
  · cases h

/-- An instruction's first account is the one its first index names. -/
theorem firstAccount_iff {value : Value} {keys addresses : List PublicKey} {label : String}
    (h : instructionAccountAddresses value keys label = .ok addresses) (address : PublicKey) :
    addresses[0]? = some address ↔ ∃ (index : Nat) (others : List Value),
      value = .array (.number index :: others) ∧ keys[index]? = some address := by
  obtain ⟨items, rfl, hall⟩ := instructionAccountAddresses_ok h
  cases hall with
  | nil =>
    constructor
    · intro h0
      cases h0
    · rintro ⟨index, others, heq, _⟩
      cases heq
  | cons hhead _ =>
    obtain ⟨index, rfl, hkey⟩ := hhead
    rw [List.getElem?_cons_zero, ← hkey]
    constructor
    · intro heq
      exact ⟨index, _, rfl, heq⟩
    · rintro ⟨index', others, heq, hkey'⟩
      simp only [Value.array.injEq, List.cons.injEq, Value.number.injEq, Int.natCast_inj] at heq
      rw [heq.1, hkey']

theorem instructionStackHeight_ok {value : Value} {label : String} {height : Option Nat}
    (h : instructionStackHeight value label = .ok height) : height = value.stackHeight := by
  unfold instructionStackHeight at h
  split at h
  · rename_i hnull
    cases h
    cases value <;> first | rfl | cases hnull
  · obtain ⟨n, hn, hret⟩ := Except.bind_eq_ok.1 h
    cases hret
    rw [safeUnsignedInteger_ok hn]
    rfl

theorem instructionDataText_ok {value : Value} {text : String}
    (h : instructionDataText value = .ok text) : value = .string text := by
  cases value <;> cases h
  rfl

/-- The event of one extracted instruction: kept exactly when there is one. -/
theorem extracts_event {programAddress eventAuthority : PublicKey} {keys : List PublicKey}
    {site : InnerSite} {inner : ChanceryInnerInstruction} {label : String}
    {occurrences : List ChanceryEventOccurrence}
    (hprogram : inner.programAddress = programAddress)
    (hindex : ∃ index : Nat, site.instruction.property "programIdIndex" = .number index ∧
      keys[index]? = some programAddress)
    (haccounts : instructionAccountAddresses (site.instruction.property "accounts") keys label =
      .ok inner.accountAddresses)
    (hdata : ∃ text, site.instruction.property "data" = .string text ∧
      decodeBase58 text = .ok inner.data)
    (hparent : inner.parentInstructionIndex = site.parentInstructionIndex)
    (hinner : inner.innerInstructionIndex = site.innerInstructionIndex)
    (hheight : inner.stackHeight = (site.instruction.property "stackHeight").stackHeight)
    (h : decodeInnerInstructionEvent programAddress eventAuthority inner = .ok occurrences) :
    Extracts (CarriesEvent programAddress eventAuthority keys) [site] occurrences := by
  obtain ⟨text, htext, hbytes⟩ := hdata
  have hsame : ∀ {occurrence}, CarriesEvent programAddress eventAuthority keys site occurrence →
      occurrence.event.data = inner.data := by
    intro occurrence hcarries
    obtain ⟨text', htext', hbytes'⟩ := hcarries.data
    rw [htext] at htext'
    cases htext'
    rw [hbytes] at hbytes'
    exact (Except.ok.inj hbytes').symm
  unfold decodeInnerInstructionEvent at h
  split at h
  · rename_i hskip
    cases h
    refine .none fun occurrence hcarries => ?_
    rcases hskip with hne | hcpi
    · exact hne hprogram
    · obtain ⟨schema, payload, _, _, heq⟩ := encodeEventData_ok hcarries.encodes
      rw [← hsame hcarries, isEventCpiData_iff.2 ⟨_, heq⟩] at hcpi
      cases hcpi
  · rename_i hcpi
    split at h
    · rename_i hauthority
      cases h
      exact .none fun occurrence hcarries =>
        hauthority ((firstAccount_iff haccounts eventAuthority).2 hcarries.authority)
    · rename_i hauthority
      split at h
      · rename_i event hevent
        cases h
        obtain ⟨hdataEq, hencodes⟩ := encodeEventData_decode hevent
        have hmarked : isEventCpiData inner.data = true := by
          by_contra hfalse
          exact hcpi (.inr (Bool.eq_false_iff.2 hfalse))
        rw [hmarked] at hencodes
        refine .single ⟨hindex, ?_, ⟨text, htext, ?_⟩, ?_, ?_, rfl, hparent, hinner, hheight⟩
        · exact (firstAccount_iff haccounts eventAuthority).1 (Classical.not_not.1 hauthority)
        · rw [hdataEq, hbytes]
        · rw [hdataEq, hencodes]
        · rw [hdataEq, hevent]
      · rename_i error herror
        split at h
        · cases h
          refine .none fun occurrence hcarries => ?_
          have hdecodes := hcarries.decodes
          rw [hsame hcarries, herror] at hdecodes
          cases hdecodes
        · cases h

theorem extracts_instruction {programAddress eventAuthority : PublicKey} {keys : List PublicKey}
    {groupIndex parentInstructionIndex instructionIndex : Nat} {value : Value}
    {occurrences : List ChanceryEventOccurrence}
    (h : (extractInnerInstruction programAddress keys groupIndex parentInstructionIndex
      instructionIndex value >>= collect
        (decodeInnerInstructionEvent programAddress eventAuthority)) = .ok occurrences) :
    Extracts (CarriesEvent programAddress eventAuthority keys)
      [⟨parentInstructionIndex, instructionIndex, value⟩] occurrences := by
  obtain ⟨found, hfound, hcollect⟩ := Except.bind_eq_ok.1 h
  obtain ⟨record, hrecord, hbody⟩ := Except.bind_eq_ok.1 hfound
  obtain ⟨programIdIndex, hindex, hkey⟩ := Except.bind_eq_ok.1 hbody
  rw [recordFromUnknown_property hrecord] at hindex
  have hindex := safeUnsignedInteger_ok hindex
  split at hkey
  · cases hkey
  · rename_i instructionProgram hprogram
    split at hkey
    · rename_i hne
      cases hkey
      cases hcollect
      refine .none fun occurrence hcarries => ?_
      obtain ⟨index, hnumber, hsome⟩ := hcarries.program
      dsimp only at hnumber
      rw [hindex] at hnumber
      simp only [Value.number.injEq, Int.natCast_inj] at hnumber
      rw [hnumber, hsome] at hprogram
      exact hne (Option.some.inj hprogram).symm
    · rename_i hsame
      obtain rfl : instructionProgram = programAddress := Classical.not_not.1 hsame
      obtain ⟨text, htext, hstack⟩ := Except.bind_eq_ok.1 hkey
      obtain ⟨stackHeight, hheight, haddresses⟩ := Except.bind_eq_ok.1 hstack
      obtain ⟨addresses, haccounts, hbytes⟩ := Except.bind_eq_ok.1 haddresses
      obtain ⟨data, hdata, hret⟩ := Except.bind_eq_ok.1 hbytes
      cases hret
      obtain ⟨first, hfirst, hrest⟩ := Except.bind_eq_ok.1 hcollect
      cases hrest
      rw [List.append_nil]
      rw [recordFromUnknown_property hrecord] at htext hheight haccounts
      exact extracts_event rfl ⟨programIdIndex, hindex, hprogram⟩ haccounts
        ⟨text, instructionDataText_ok htext, hdata⟩ rfl rfl (instructionStackHeight_ok hheight)
        hfirst

theorem extracts_group {programAddress eventAuthority : PublicKey} {keys : List PublicKey}
    {groupIndex : Nat} {value : Value} {occurrences : List ChanceryEventOccurrence}
    (h : (extractInnerGroup programAddress keys groupIndex value >>= collect
        (decodeInnerInstructionEvent programAddress eventAuthority)) = .ok occurrences) :
    Extracts (CarriesEvent programAddress eventAuthority keys) (groupSites value) occurrences := by
  obtain ⟨found, hfound, hcollect⟩ := Except.bind_eq_ok.1 h
  obtain ⟨group, hgroup, hbody⟩ := Except.bind_eq_ok.1 hfound
  obtain ⟨parentInstructionIndex, hindex, hinstructions⟩ := Except.bind_eq_ok.1 hbody
  rw [recordFromUnknown_property hgroup] at hindex hinstructions
  have hindex := safeUnsignedInteger_ok hindex
  split at hinstructions
  · rename_i instructions hlist
    have hwalk := extracts_gather
      (fun entry => [InnerSite.mk parentInstructionIndex entry.2 entry.1])
      (fun _ _ _ hvisit => extracts_instruction hvisit) (gather_fuse hinstructions hcollect)
    rw [groupSites, hlist, hindex]
    exact hwalk
  · cases hinstructions

theorem extracts_transaction {deployment : Deployment} {result : Value}
    {occurrences : List ChanceryEventOccurrence}
    (h : decodeChanceryEventsFromRpcTransaction deployment result = .ok occurrences) :
    ∃ eventAuthority, deployment.knownPda "event_authority" = some eventAuthority ∧
      Extracts (CarriesEvent deployment.programAddress eventAuthority (transactionKeys result))
        (innerSites result) occurrences := by
  obtain ⟨inners, hinners, hevents⟩ := Except.bind_eq_ok.1 h
  unfold decodeChanceryEventsFromInnerInstructions at hevents
  split at hevents
  · cases hevents
  rename_i eventAuthority hauthority
  refine ⟨eventAuthority, hauthority, ?_⟩
  obtain ⟨resultRecord, hresult, hbody⟩ := Except.bind_eq_ok.1 hinners
  obtain ⟨metaRecord, hmeta, hgroups⟩ := Except.bind_eq_ok.1 hbody
  have hsource : property metaRecord "innerInstructions" =
      (result.property "meta").property "innerInstructions" := by
    rw [recordFromUnknown_property hmeta, recordFromUnknown_property hresult]
  rw [hsource] at hgroups
  unfold innerSites
  generalize (result.property "meta").property "innerInstructions" = source at hgroups
  split at hgroups
  · split at hgroups
    · rename_i hnull
      cases hgroups
      cases hevents
      cases source <;> first | exact .nil | cases hnull
    · split at hgroups
      · rename_i groups
        obtain ⟨keys, hkeys, hwalk⟩ := Except.bind_eq_ok.1 hgroups
        obtain rfl := rpcAccountKeys_ok hresult hmeta hkeys
        have hall := extracts_gather (fun entry => groupSites entry.1)
          (fun _ _ _ hvisit => extracts_group hvisit) (gather_fuse hwalk hevents)
        rw [← List.flatMap_map Prod.fst groupSites, List.zipIdx_map_fst] at hall
        exact hall
      · cases hgroups
  · cases hgroups

/-- A failed transaction has no evidence to give. -/
theorem failedTransaction_error (deployment : Deployment) {result : Value}
    (hfailed : ((result.property "meta").property "err").isNullish = false) :
    ∃ e, decodeChanceryEventsFromRpcTransaction deployment result = .error e := by
  cases h : decodeChanceryEventsFromRpcTransaction deployment result with
  | error e => exact ⟨e, rfl⟩
  | ok occurrences =>
    obtain ⟨inners, hinners, _⟩ := Except.bind_eq_ok.1 h
    obtain ⟨resultRecord, hresult, hbody⟩ := Except.bind_eq_ok.1 hinners
    obtain ⟨metaRecord, hmeta, hgroups⟩ := Except.bind_eq_ok.1 hbody
    rw [recordFromUnknown_property hmeta, recordFromUnknown_property hresult, hfailed] at hgroups
    cases hgroups

/-- **Event evidence is exact.**  The event codec inverts both ways; a result that is decoded
yields one occurrence for each inner instruction that carries an event, in order and at its
place; a failed transaction yields an error. -/
theorem eventEvidence_exact (deployment : Deployment) :
    (∀ eventName values includeCpiPrefix data,
      encodeChanceryEventData eventName values includeCpiPrefix = .ok data →
      ∃ schema, getEventSchema eventName = .ok schema ∧ decodeChanceryEventData data =
        .ok ⟨eventName, canonicalStruct typescript schema.fields values false, data⟩) ∧
    (∀ data event, decodeChanceryEventData data = .ok event → event.data = data ∧
      encodeChanceryEventData event.name event.values (isEventCpiData data) = .ok data) ∧
    (∀ result occurrences,
      decodeChanceryEventsFromRpcTransaction deployment result = .ok occurrences →
      ∃ eventAuthority, deployment.knownPda "event_authority" = some eventAuthority ∧
        Extracts (CarriesEvent deployment.programAddress eventAuthority (transactionKeys result))
          (innerSites result) occurrences) ∧
    (∀ result, ((result.property "meta").property "err").isNullish = false →
      ∃ e, decodeChanceryEventsFromRpcTransaction deployment result = .error e) :=
  ⟨fun _ _ _ _ h => decodeEventData_encode h, fun _ _ h => encodeEventData_decode h,
   fun _ _ h => extracts_transaction h, fun _ h => failedTransaction_error deployment h⟩

end Chancery
