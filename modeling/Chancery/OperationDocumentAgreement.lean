import Chancery.OperationDocumentLaws

/-!
# The clients on one operation document

* `Reading.Settles` — the instruction that a document settles under a reading; `exists_emits_iff`,
  `exists_rustEmits_iff`.
* `Agree` — all three clients reject, or all three build the same instruction.
* `documents_agree_iff` — either operation; `operationDocuments_agree_iff`.
-/

set_option autoImplicit false

namespace Chancery.Integration

/-! ## Loaders and builders together -/

section

variable {Accounts : Type → Type} (layout : LawfulLayout Accounts)

/-- **What is settled under a reading**: program, accounts and data as texts. -/
def Reading.Settles (reading : Reading) (selected : TargetVariable) (discriminator : Bytes)
    (document : Json) (texts : InstructionTexts) : Prop :=
  ∃ target operation accounts arguments, selectedTarget selected = some target ∧
    reading.Says layout document operation ∧
    operation.accounts = layout.map PublicKey.toBase58 accounts ∧
    (∀ position ∈ layout.positions accounts, position.NonDefault) ∧ operation.Reads arguments ∧
    texts = solanaTexts (instructionOf (chanceryProgramAddressForTarget target) discriminator
      (layout.positions accounts) arguments)

section

variable {selected : TargetVariable} {discriminator : Bytes} {document : Json}
  {texts : InstructionTexts}

theorem exists_emits_iff {reading : Reading} :
    (∃ operation spec, reading.Says layout document operation ∧
        Emits selected discriminator (layout.positions operation.accounts) operation spec ∧
        spec.texts = texts) ↔
      reading.Settles layout selected discriminator document texts := by
  constructor
  · rintro ⟨operation, spec, hdenotes, hemits, htexts⟩
    obtain ⟨-, -, -, hreadable, -⟩ := id hemits
    have haccounts := layout.keys_of_readable hreadable
    rw [haccounts, layout.positions_map] at hemits
    obtain ⟨target, arguments, htarget, hpositions, hreads, rfl⟩ :=
      emits_iff.1 ⟨spec, hemits, htexts⟩
    exact ⟨target, operation, _, arguments, htarget, hdenotes, haccounts, hpositions, hreads, rfl⟩
  · rintro ⟨target, operation, accounts, arguments, htarget, hdenotes, haccounts, hpositions,
      hreads, rfl⟩
    obtain ⟨spec, hemits, htexts⟩ :=
      emits_iff.2 ⟨target, arguments, htarget, hpositions, hreads, rfl⟩
    rw [← layout.positions_map, ← haccounts] at hemits
    exact ⟨operation, spec, hdenotes, hemits, htexts⟩

/-- The Rust loader and its builder. -/
theorem exists_rustEmits_iff {fromStr : String → Except String PublicKey}
    (hfromStr : ParsesKeys fromStr) (hlayout : layout.fields.Nodup) (failure : String)
    (hdistinct : document.Distinct) :
    (∃ accounts pathwayId amount minimumOutput instruction,
        Rust.loadDirectOperation layout.toAccountsLayout fromStr failure document =
          .ok (accounts, pathwayId, amount, minimumOutput) ∧
        RustEmits selected discriminator (layout.positions accounts)
          ⟨pathwayId, amount, minimumOutput⟩ instruction ∧ solanaTexts instruction = texts) ↔
      lenientReading.Settles layout selected discriminator document texts := by
  constructor
  · rintro ⟨accounts, pathwayId, amount, minimumOutput, instruction, hload, hemits, rfl⟩
    obtain ⟨operation, hoperation, hload⟩ := Except.bind_eq_ok.1 hload
    obtain ⟨parsed, haccounts, hload⟩ := Except.bind_eq_ok.1 hload
    obtain ⟨parsedPathway, hpathway, hload⟩ := Except.bind_eq_ok.1 hload
    obtain ⟨parsedAmount, hamount, hload⟩ := Except.bind_eq_ok.1 hload
    obtain ⟨parsedMinimum, hminimum, hret⟩ := Except.bind_eq_ok.1 hload
    cases hret
    obtain ⟨htexts, hpositions⟩ := (Rust.parseAccounts_ok hfromStr layout).1 haccounts
    obtain ⟨hreads, hpositive⟩ := Rust.parsePositiveU64_ok.1 hamount
    obtain ⟨target, htarget, -, -, rfl⟩ := rustEmits_iff.1 hemits
    have hdecoded : Rust.deserializeOperation layout.toAccountsLayout document =
        .ok operation := by
      cases hresult : Rust.deserializeOperation layout.toAccountsLayout document with
      | error _ =>
        rw [hresult] at hoperation
        cases hoperation
      | ok other =>
        rw [hresult] at hoperation
        cases hoperation
        rfl
    exact ⟨target, operation, accounts, _, htarget,
      (Rust.deserializeOperation_ok layout hlayout hdistinct).1 hdecoded, htexts, hpositions,
      ⟨Rust.parsePathwayId_ok.1 hpathway, hreads, hpositive, Rust.parseDecimalU64_ok.1 hminimum⟩,
      rfl⟩
  · rintro ⟨target, operation, accounts, arguments, htarget, hdenotes, htexts, hpositions, hreads,
      rfl⟩
    have hoperation := (Rust.deserializeOperation_ok layout hlayout hdistinct).2 hdenotes
    refine ⟨accounts, arguments.pathwayId, arguments.amount, arguments.minimumOutput, _, ?_,
      rustEmits_iff.2 ⟨target, htarget, hpositions, hreads.positive, rfl⟩, rfl⟩
    refine Except.bind_eq_ok.2 ⟨operation, by rw [hoperation]; rfl, Except.bind_eq_ok.2
      ⟨accounts, (Rust.parseAccounts_ok hfromStr layout).2 ⟨htexts, hpositions⟩,
        Except.bind_eq_ok.2 ⟨_, Rust.parsePathwayId_ok.2 hreads.pathwayId, Except.bind_eq_ok.2
          ⟨_, Rust.parsePositiveU64_ok.2 ⟨hreads.amount, hreads.positive⟩, Except.bind_eq_ok.2
            ⟨_, Rust.parseDecimalU64_ok.2 hreads.minimumOutput, rfl⟩⟩⟩⟩⟩

end

end

/-! ## Agreement -/

/-- **All three reject, or all three produce the same instruction.** -/
def Agree (typescript python : Except String InstructionSpec)
    (rust : Except String SolanaInstruction) : Prop :=
  typescript.toOption.map InstructionSpec.texts = rust.toOption.map solanaTexts ∧
    python.toOption.map InstructionSpec.texts = rust.toOption.map solanaTexts

/-- Objects wherever there is to be one, and every policy key. -/
def Json.IsComplete (document : Json) : Prop :=
  ∃ root accountsDocument policy : Document, document = .object root ∧
    root.get? "accounts" = some (.object accountsDocument) ∧
    accountsDocument.get? "policyAccounts" = some (.object policy) ∧
    ∀ field ∈ policyFields, (policy.get? field).isSome = true

section

variable {Accounts : Type → Type} (layout : LawfulLayout Accounts)

theorem Reading.Says.lenient {document : Json} {operation : DirectOperation (Accounts String)}
    (h : strictReading.Says layout document operation) :
    lenientReading.Says layout document operation := by
  have hopens : ∀ {fields : List String} {value : Option Json} {document : Document},
      strictReading.Opens fields value document → lenientReading.Opens fields value document := by
    intro fields value document hopens
    obtain ⟨rfl, hfields⟩ := strictReading_opens.1 hopens
    exact ⟨rfl, hfields⟩
  have hnullable : ∀ {value : Option Json} {text : Option String},
      strictReading.nullable value = some text → lenientReading.nullable value = some text := by
    intro value text hvalue
    rcases value with _ | (_ | _ | _ | _ | _ | _) <;> simp_all [strictReading, lenientReading]
  obtain ⟨root, accountsDocument, policy, hroot, haccounts, hpolicy, hpathway, hamount, hminimum,
    hrequired, hentries⟩ := h
  exact ⟨root, accountsDocument, policy, hopens hroot, hopens haccounts, hopens hpolicy, hpathway,
    hamount, hminimum, hrequired, fun entry hentry => hnullable (hentries entry hentry)⟩

theorem Reading.Says.complete {document : Json} {operation : DirectOperation (Accounts String)}
    (h : strictReading.Says layout document operation) : document.IsComplete := by
  obtain ⟨root, accountsDocument, policy, hroot, haccounts, hpolicy, -, -, -, -, hentries⟩ := h
  obtain ⟨hroot, -⟩ := strictReading_opens.1 hroot
  obtain ⟨haccounts, -⟩ := strictReading_opens.1 haccounts
  obtain ⟨hpolicy, -⟩ := strictReading_opens.1 hpolicy
  refine ⟨root, accountsDocument, policy, Option.some.inj hroot, haccounts, hpolicy, ?_⟩
  have hfields : policyFields =
      (layout.policyAccounts operation.accounts).entries.map Prod.fst := rfl
  rw [hfields, List.forall_mem_map]
  intro entry hentry
  have hvalue := hentries entry hentry
  cases hget : policy.get? entry.1 with
  | some value => rfl
  | none =>
    rw [hget] at hvalue
    cases hvalue

theorem Reading.Says.strict {document : Json} {operation : DirectOperation (Accounts String)}
    (h : lenientReading.Says layout document operation) (hcomplete : document.IsComplete) :
    strictReading.Says layout document operation := by
  obtain ⟨root, accountsDocument, policy, ⟨hroot, hrootFields⟩, ⟨haccounts, haccountFields⟩,
    ⟨hpolicy, hpolicyFields⟩, hpathway, hamount, hminimum, hrequired, hentries⟩ := h
  obtain ⟨_, _, _, rfl, haccounts', hpolicy', hkeys⟩ := hcomplete
  cases hroot
  rw [haccounts'] at haccounts
  cases haccounts
  rw [hpolicy'] at hpolicy
  cases hpolicy
  refine ⟨_, _, _, strictReading_opens.2 ⟨rfl, hrootFields⟩,
    strictReading_opens.2 ⟨haccounts', haccountFields⟩,
    strictReading_opens.2 ⟨hpolicy', hpolicyFields⟩, hpathway, hamount, hminimum, hrequired, ?_⟩
  intro entry hentry
  have hfield : entry.1 ∈ policyFields := List.mem_map_of_mem hentry
  have hvalue := hentries entry hentry
  have hkey := hkeys entry.1 hfield
  rcases hget : policy.get? entry.1 with _ | (_ | _ | _ | _ | _ | _) <;>
    simp_all [strictReading, lenientReading]

end

section

variable {Accounts : Type → Type} (layout : LawfulLayout Accounts)

/-- Every text of the operation denotes something. -/
def DirectOperation.IsValid (operation : DirectOperation (Accounts String)) : Prop :=
  (∃ arguments, operation.Reads arguments) ∧
    ∀ position ∈ layout.positions operation.accounts, position.Readable

variable {selected : TargetVariable} {discriminator : Bytes} {document : Json}

theorem Reading.exists_settles_iff {reading : Reading} :
    (∃ texts, reading.Settles layout selected discriminator document texts) ↔
      selectedTarget selected ≠ none ∧
        ∃ operation, reading.Says layout document operation ∧ operation.IsValid layout := by
  constructor
  · rintro ⟨texts, target, operation, accounts, arguments, htarget, hdenotes, haccounts, hpositions,
      hreads, -⟩
    refine ⟨by rw [htarget]; exact Option.some_ne_none target, operation, hdenotes,
      ⟨arguments, hreads⟩, ?_⟩
    rw [haccounts, layout.positions_map, List.forall_mem_map]
    exact fun position hposition => Position.readable_iff.2 (hpositions position hposition)
  · rintro ⟨htarget, operation, hdenotes, ⟨arguments, hreads⟩, hreadable⟩
    obtain ⟨target, htarget⟩ := Option.ne_none_iff_exists'.1 htarget
    have haccounts := layout.keys_of_readable hreadable
    refine ⟨_, target, operation, _, arguments, htarget, hdenotes, haccounts, ?_, hreads, rfl⟩
    rw [haccounts, layout.positions_map, List.forall_mem_map] at hreadable
    exact fun position hposition => Position.readable_iff.1 (hreadable position hposition)

theorem toOption_map_eq {α : Type} {run : Except String α} {texts : α → InstructionTexts}
    {Settled : InstructionTexts → Prop}
    (h : ∀ t, (∃ value, run = .ok value ∧ texts value = t) ↔ Settled t) (t : InstructionTexts) :
    run.toOption.map texts = some t ↔ Settled t := by
  rw [← h]
  cases run <;> simp [Except.toOption]

/-- **When three computations agree** that settle strictly, strictly and leniently. -/
theorem agree_iff (selected : TargetVariable) (discriminator : Bytes)
    {typescript python : Except String InstructionSpec}
    {rust : Except String SolanaInstruction}
    (htypescript : ∀ t, (∃ spec, typescript = .ok spec ∧ spec.texts = t) ↔
      strictReading.Settles layout selected discriminator document t)
    (hpython : ∀ t, (∃ spec, python = .ok spec ∧ spec.texts = t) ↔
      strictReading.Settles layout selected discriminator document t)
    (hrust : ∀ t, (∃ instruction, rust = .ok instruction ∧ solanaTexts instruction = t) ↔
      lenientReading.Settles layout selected discriminator document t) :
    Agree typescript python rust ↔ document.IsComplete ∨ selectedTarget selected = none ∨
      ¬ ∃ operation, lenientReading.Says layout document operation ∧
        operation.IsValid layout := by
  have hstrict : ∀ t, strictReading.Settles layout selected discriminator document t →
      document.IsComplete ∧ lenientReading.Settles layout selected discriminator document t := by
    rintro t ⟨target, operation, accounts, arguments, htarget, hdenotes, hrest⟩
    exact ⟨hdenotes.complete, target, operation, accounts, arguments, htarget, hdenotes.lenient,
      hrest⟩
  have hsame : Agree typescript python rust ↔
      ∀ t, strictReading.Settles layout selected discriminator document t ↔
        lenientReading.Settles layout selected discriminator document t := by
    have heq : ∀ {left : Except String InstructionSpec},
        (∀ t, (∃ spec, left = .ok spec ∧ spec.texts = t) ↔
          strictReading.Settles layout selected discriminator document t) →
        (left.toOption.map InstructionSpec.texts = rust.toOption.map solanaTexts ↔
          ∀ t, strictReading.Settles layout selected discriminator document t ↔
            lenientReading.Settles layout selected discriminator document t) := by
      intro left hleft
      rw [Option.ext_iff]
      exact forall_congr' fun t => by rw [toOption_map_eq hleft, toOption_map_eq hrust]
    rw [Agree, heq htypescript, heq hpython, and_self]
  have hnone : (selectedTarget selected = none ∨ ¬ ∃ operation,
      lenientReading.Says layout document operation ∧ operation.IsValid layout) ↔
        ¬ ∃ t, lenientReading.Settles layout selected discriminator document t := by
    rw [Reading.exists_settles_iff, not_and_or, not_not]
  rw [hsame, hnone]
  constructor
  · intro h
    by_cases hsettled : ∃ t, lenientReading.Settles layout selected discriminator document t
    · obtain ⟨t, ht⟩ := hsettled
      exact .inl (hstrict t ((h t).2 ht)).1
    · exact .inr hsettled
  · rintro (hcomplete | hsettled) t
    · refine ⟨fun ht => (hstrict t ht).2, ?_⟩
      rintro ⟨target, operation, accounts, arguments, htarget, hdenotes, hrest⟩
      exact ⟨target, operation, accounts, arguments, htarget, hdenotes.strict layout hcomplete,
        hrest⟩
    · exact ⟨fun ht => (hstrict t ht).2, fun ht => absurd ⟨t, ht⟩ hsettled⟩

end

/-- The amounts of a document are short enough for `int`. -/
def Json.HasShortAmounts (document : Json) : Prop :=
  ∀ root : Document, document = .object root → ∀ field ∈ ["amount", "minimumOutput"], ∀ text,
    Json.string? (root.get? field) = some text → text.toList.length ≤ pythonMaxStrDigits

theorem Json.HasShortAmounts.short {Accounts : Type → Type} {layout : LawfulLayout Accounts}
    {document : Json} (h : document.HasShortAmounts) {operation : DirectOperation (Accounts String)}
    (hdenotes : strictReading.Says layout document operation) : operation.Short := by
  obtain ⟨root, _, _, hroot, -, -, -, hamount, hminimum, -⟩ := hdenotes
  obtain ⟨hroot, -⟩ := strictReading_opens.1 hroot
  have hshort := h root (Option.some.inj hroot)
  exact ⟨hshort "amount" (by simp) _ hamount, hshort "minimumOutput" (by simp) _ hminimum⟩

section

variable {stringify : List Nat → String} {repr : Char → String}
  {fromStr : String → Except String PublicKey} {failure : String} {selected : TargetVariable}
  {document : Json}

theorem exists_bind_ok {α β γ : Type} {load : Except String α} {build : α → Except String β}
    {texts : β → γ} {t : γ} :
    (∃ value, (load >>= build) = .ok value ∧ texts value = t) ↔
      ∃ operation value, load = .ok operation ∧ build operation = .ok value ∧
        texts value = t := by
  simp only [Except.bind_eq_ok]
  constructor
  · rintro ⟨value, ⟨operation, hload, hbuild⟩, ht⟩
    exact ⟨operation, value, hload, hbuild, ht⟩
  · rintro ⟨operation, value, hload, hbuild, ht⟩
    exact ⟨value, ⟨operation, hload, hbuild⟩, ht⟩

/-- **When the clients agree on a document**, for the builders of either operation. -/
theorem documents_agree_iff {Accounts : Type → Type} (layout : LawfulLayout Accounts)
    (hlayout : layout.fields.Nodup) (hfromStr : ParsesKeys fromStr)
    (hdistinct : document.Distinct) (hshort : document.HasShortAmounts) {discriminator : Bytes}
    {buildTypeScript buildPython :
      DirectOperation (Accounts String) → Except String InstructionSpec}
    (buildRust : Accounts PublicKey → SettlementArguments → Except String SolanaInstruction)
    (htypescript : ∀ {operation spec}, buildTypeScript operation = .ok spec ↔
      Emits selected discriminator (layout.positions operation.accounts) operation spec)
    (hpython : ∀ {operation spec}, buildPython operation = .ok spec ↔ operation.Short ∧
      Emits selected discriminator (layout.positions operation.accounts) operation spec)
    (hrust : ∀ {accounts arguments instruction}, buildRust accounts arguments = .ok instruction ↔
      RustEmits selected discriminator (layout.positions accounts) arguments instruction) :
    Agree (TypeScript.loadDirectOperation layout.toAccountsLayout document >>= buildTypeScript)
      (Python.loadDirectOperation layout.toAccountsLayout document >>= buildPython)
      (Rust.loadDirectOperation layout.toAccountsLayout fromStr failure document >>=
        fun (accounts, pathwayId, amount, minimumOutput) =>
          buildRust accounts ⟨pathwayId, amount, minimumOutput⟩) ↔
      document.IsComplete ∨ selectedTarget selected = none ∨
        ¬ ∃ operation, lenientReading.Says layout document operation ∧
          operation.IsValid layout := by
  apply agree_iff layout selected discriminator
  · intro texts
    rw [exists_bind_ok, ← exists_emits_iff]
    refine exists₂_congr fun operation spec => ?_
    rw [htypescript, ← TypeScript.loadDirectOperation_ok layout]
  · intro texts
    rw [exists_bind_ok, ← exists_emits_iff]
    refine exists₂_congr fun operation spec => ?_
    rw [hpython, ← Python.loadDirectOperation_ok layout]
    refine and_congr_right fun hload => and_congr_left' (and_iff_right ?_)
    exact hshort.short ((Python.loadDirectOperation_ok layout).1 hload)
  · intro texts
    rw [← exists_rustEmits_iff layout hfromStr hlayout failure hdistinct]
    constructor
    · rintro ⟨instruction, hrun, htexts⟩
      obtain ⟨⟨accounts, pathwayId, amount, minimumOutput⟩, hload, hbuild⟩ :=
        Except.bind_eq_ok.1 hrun
      exact ⟨accounts, pathwayId, amount, minimumOutput, instruction, hload, hrust.1 hbuild,
        htexts⟩
    · rintro ⟨accounts, pathwayId, amount, minimumOutput, instruction, hload, hemits, htexts⟩
      exact ⟨instruction, Except.bind_eq_ok.2 ⟨_, hload, hrust.2 hemits⟩, htexts⟩

/-- **When the clients agree on a mint document.** -/
theorem mint_agree_iff (hfromStr : ParsesKeys fromStr) (hdistinct : document.Distinct)
    (hshort : document.HasShortAmounts) :
    Agree (TypeScript.loadMintDirectOperation document >>=
        TypeScript.buildMintDirectInstruction stringify selected)
      (Python.loadMintDirectOperation document >>=
        Python.buildMintDirectInstruction repr selected)
      (Rust.loadMintDirectOperation fromStr failure document >>= fun (accounts, arguments) =>
        Rust.buildMintDirectInstruction selected accounts arguments) ↔
      document.IsComplete ∨ selectedTarget selected = none ∨
        ¬ ∃ operation, lenientReading.Says lawfulMint document operation ∧
          operation.IsValid lawfulMint := by
  rw [Rust.loadMintDirectOperation, bind_assoc]
  exact documents_agree_iff lawfulMint (by decide) hfromStr hdistinct hshort
    (fun accounts arguments => Rust.buildMintDirectInstruction selected accounts
      ⟨arguments.pathwayId, arguments.amount, arguments.minimumOutput⟩)
    TypeScript.buildMintDirectInstruction_ok Python.buildMintDirectInstruction_ok
    Rust.buildMintDirectInstruction_ok

/-- **When the clients agree on a redeem document.** -/
theorem redeem_agree_iff (hfromStr : ParsesKeys fromStr) (hdistinct : document.Distinct)
    (hshort : document.HasShortAmounts) :
    Agree (TypeScript.loadRedeemDirectOperation document >>=
        TypeScript.buildRedeemDirectInstruction stringify selected)
      (Python.loadRedeemDirectOperation document >>=
        Python.buildRedeemDirectInstruction repr selected)
      (Rust.loadRedeemDirectOperation fromStr failure document >>= fun (accounts, arguments) =>
        Rust.buildRedeemDirectInstruction selected accounts arguments) ↔
      document.IsComplete ∨ selectedTarget selected = none ∨
        ¬ ∃ operation, lenientReading.Says lawfulRedeem document operation ∧
          operation.IsValid lawfulRedeem := by
  rw [Rust.loadRedeemDirectOperation, bind_assoc]
  exact documents_agree_iff lawfulRedeem (by decide) hfromStr hdistinct hshort
    (fun accounts arguments => Rust.buildRedeemDirectInstruction selected accounts
      ⟨arguments.pathwayId, arguments.amount, arguments.minimumOutput⟩)
    TypeScript.buildRedeemDirectInstruction_ok Python.buildRedeemDirectInstruction_ok
    Rust.buildRedeemDirectInstruction_ok

end

section

variable {stringify : List Nat → String} {repr : Char → String}
  {fromStr : String → Except String PublicKey} {failure : String} {selected : TargetVariable}
  {document : Json}

/-- **The clients agree on an operation document** if and only if it is complete, or no program is
selected, or it denotes no valid operation even when it is read leniently. -/
theorem operationDocuments_agree_iff (hfromStr : ParsesKeys fromStr)
    (hdistinct : document.Distinct) (hshort : document.HasShortAmounts) :
    (Agree (TypeScript.loadMintDirectOperation document >>=
          TypeScript.buildMintDirectInstruction stringify selected)
        (Python.loadMintDirectOperation document >>=
          Python.buildMintDirectInstruction repr selected)
        (Rust.loadMintDirectOperation fromStr failure document >>= fun (accounts, arguments) =>
          Rust.buildMintDirectInstruction selected accounts arguments) ↔
      document.IsComplete ∨ selectedTarget selected = none ∨
        ¬ ∃ operation, lenientReading.Says lawfulMint document operation ∧
          operation.IsValid lawfulMint) ∧
    (Agree (TypeScript.loadRedeemDirectOperation document >>=
          TypeScript.buildRedeemDirectInstruction stringify selected)
        (Python.loadRedeemDirectOperation document >>=
          Python.buildRedeemDirectInstruction repr selected)
        (Rust.loadRedeemDirectOperation fromStr failure document >>= fun (accounts, arguments) =>
          Rust.buildRedeemDirectInstruction selected accounts arguments) ↔
      document.IsComplete ∨ selectedTarget selected = none ∨
        ¬ ∃ operation, lenientReading.Says lawfulRedeem document operation ∧
          operation.IsValid lawfulRedeem) :=
  ⟨mint_agree_iff hfromStr hdistinct hshort, redeem_agree_iff hfromStr hdistinct hshort⟩

end

namespace SampleDocument

/-- A mint document with the given policy keys, all of them null. -/
def document (policyKeys : List String) : Json :=
  .object [("pathwayId", .string (String.ofList (List.replicate 64 'a'))),
    ("amount", .string "1000000"), ("minimumOutput", .string "990000"),
    ("accounts", .object (mintAccountFields.map fun field => (field,
      if field = "policyAccounts" then .object (policyKeys.map fun key => (key, .null))
      else .string chanceryMainnetProgramId)))]

/-- What the document says. -/
def operation : MintDirectOperationInput where
  pathwayId := String.ofList (List.replicate 64 'a')
  amount := "1000000"
  minimumOutput := "990000"
  accounts := MintDirectAccounts.units.map fun _ => chanceryMainnetProgramId

theorem keys_map {α : Type} (value : String → α) (keys : List String) :
    (keys.map fun key => (key, value key)).map Prod.fst = keys := by
  rw [List.map_map]
  exact List.map_id keys

theorem distinct {policyKeys : List String} (h : policyKeys.Nodup) :
    (document policyKeys).Distinct := by
  have hpolicy : Json.Distinct (.object (policyKeys.map fun key => (key, .null))) := by
    refine .object ?_ ?_
    · rwa [keys_map]
    · exact List.forall_mem_map.2 fun _ _ => .null
  refine .object (show rootFields.Nodup by decide) ?_
  simp only [List.forall_mem_cons]
  refine ⟨.string _, .string _, .string _, .object ?_ ?_, List.forall_mem_nil _⟩
  · rw [keys_map]
    decide
  · refine List.forall_mem_map.2 fun field _ => ?_
    dsimp only
    split_ifs
    · exact hpolicy
    · exact .string _

theorem hasShortAmounts (policyKeys : List String) : (document policyKeys).HasShortAmounts := by
  intro root hroot
  cases hroot
  simp only [List.forall_mem_cons]
  refine ⟨?_, ?_, List.forall_mem_nil _⟩
  all_goals
    intro text htext
    cases htext
    decide

theorem leniently {policyKeys : List String} (h : ∀ key ∈ policyKeys, key ∈ policyFields) :
    lenientReading.Says lawfulMint (document policyKeys) operation := by
  have hpolicy : ∀ entry ∈ operation.accounts.policyAccounts.entries, entry.2 = none := by
    decide +kernel
  refine ⟨_, _, policyKeys.map fun key => (key, .null), ⟨rfl, ?_⟩, ⟨rfl, ?_⟩, ⟨rfl, ?_⟩,
    rfl, rfl, rfl, ?_, ?_⟩
  · exact show ∀ field ∈ rootFields, field ∈ rootFields from fun _ hfield => hfield
  · rw [keys_map]
    exact fun _ hfield => hfield
  · rwa [keys_map]
  · simp only [lawfulMint, MintDirectAccounts.required, List.forall_mem_cons]
    exact ⟨rfl, rfl, rfl, rfl, rfl, rfl, rfl, rfl, rfl, rfl, rfl, rfl, rfl, rfl, rfl, rfl, rfl, rfl,
      List.forall_mem_nil _⟩
  · intro entry hentry
    rw [hpolicy entry hentry]
    cases hget : Document.get? (policyKeys.map fun key => (key, Json.null)) entry.1 with
    | none => rfl
    | some value =>
      obtain ⟨key, -, heq⟩ := List.mem_map.1 (Document.mem_of_get? hget)
      cases heq
      rfl

theorem isValid : operation.IsValid lawfulMint := by
  have hspells : SpellsKey chanceryMainnetProgramId :=
    ⟨chanceryMainnetProgramAddress, by decide +kernel, by decide +kernel⟩
  refine ⟨⟨⟨⟨List.replicate 32 170, rfl⟩, 1000000, 990000⟩, ?_⟩, ?_⟩
  · constructor
    · exact ⟨by decide +kernel, by decide +kernel⟩
    · exact ⟨by decide +kernel, by decide +kernel⟩
    · decide
    · exact ⟨by decide +kernel, by decide +kernel⟩
  · have haddresses : ∀ position ∈ lawfulMint.positions operation.accounts, ∀ text,
        position.address? = some text → text = chanceryMainnetProgramId := by
      decide +kernel
    intro position hposition text htext
    rw [haddresses position hposition text htext]
    exact hspells

theorem not_isComplete {policyKeys : List String} (h : "feePolicy" ∉ policyKeys) :
    ¬ (document policyKeys).IsComplete := by
  rintro ⟨_, _, policy, hroot, haccounts, hpolicy, hkeys⟩
  cases hroot
  cases haccounts
  cases hpolicy
  obtain ⟨value, hvalue⟩ := Option.isSome_iff_exists.1 (hkeys "feePolicy" (by decide))
  obtain ⟨key, hkey, heq⟩ := List.mem_map.1 (Document.mem_of_get? hvalue)
  cases heq
  exact h hkey

end SampleDocument

theorem parsesKeys_decodePublicKey : ParsesKeys decodePublicKey := by
  intro text key
  constructor
  · intro h
    rw [← decodePublicKey_ok h]
    exact decodeBase58_encodeBase58 _
  · intro h
    rw [(encodeBase58_of_decodeBase58 h).symm]
    exact decodePublicKey_toBase58 key

theorem operationDocuments_agree_complete :
    Agree (TypeScript.loadMintDirectOperation (SampleDocument.document policyFields) >>=
        TypeScript.buildMintDirectInstruction (fun _ => "") .notPresent)
      (Python.loadMintDirectOperation (SampleDocument.document policyFields) >>=
        Python.buildMintDirectInstruction (fun _ => "") .notPresent)
      (Rust.loadMintDirectOperation decodePublicKey "" (SampleDocument.document policyFields) >>=
        fun (accounts, arguments) =>
          Rust.buildMintDirectInstruction .notPresent accounts arguments) :=
  (operationDocuments_agree_iff parsesKeys_decodePublicKey
    (SampleDocument.distinct policyFields_nodup)
    (SampleDocument.hasShortAmounts policyFields)).1.2
      (.inl ⟨_, _, _, rfl, rfl, rfl, by decide +kernel⟩)

/-- The Rust client mints without the fee policy that the document does not name. -/
theorem operationDocuments_disagree :
    ¬ Agree (TypeScript.loadMintDirectOperation (SampleDocument.document policyFields.tail) >>=
        TypeScript.buildMintDirectInstruction (fun _ => "") .notPresent)
      (Python.loadMintDirectOperation (SampleDocument.document policyFields.tail) >>=
        Python.buildMintDirectInstruction (fun _ => "") .notPresent)
      (Rust.loadMintDirectOperation decodePublicKey ""
        (SampleDocument.document policyFields.tail) >>= fun (accounts, arguments) =>
          Rust.buildMintDirectInstruction .notPresent accounts arguments) := by
  rw [mint_agree_iff parsesKeys_decodePublicKey (SampleDocument.distinct (by decide))
    (SampleDocument.hasShortAmounts _)]
  rintro (hcomplete | htarget | hnone)
  · exact SampleDocument.not_isComplete (by decide) hcomplete
  · cases htarget
  · exact hnone ⟨_, SampleDocument.leniently (by decide), SampleDocument.isValid⟩

end Chancery.Integration
