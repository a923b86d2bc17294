import Chancery.InstructionAccounts
import Chancery.Lib.Saturation
import Chancery.Target
import Mathlib.Data.List.Perm.Basic

/-!
# Laws of instruction accounts

What the passes of `resolveChanceryInstructionAccounts` amount to, for any schema and any digest
function: the accounts that finitely many derivations lead to, whatever the order.

* `Derivable` — an address is given, or derived from addresses that are derivable.
* `derivePasses_exact` — the passes resolve what is derivable.
* `resolveAccounts_exact` — what is returned.
-/

set_option autoImplicit false

namespace Chancery

section

variable (client : ChanceryClient) (schema : InstructionSchema) (argumentValues : StructValues)
  (accountInputs : InstructionAccountInputs)

/-- The input of an account, or else its default. -/
def givenAddress (accountSchema : InstructionAccountSchema) : Except String (Option PublicKey) :=
  match accountInputs.lookup accountSchema.name with
  | some address => .ok (some address)
  | none => defaultAccountAddress client accountSchema

/-- **By a finite number of derivations** from the inputs, the defaults and the PDA schemas. -/
inductive Derivable : String → PublicKey → Prop
  | given {accountSchema : InstructionAccountSchema} {address : PublicKey}
      (haccount : accountSchema ∈ schema.accounts)
      (hgiven : givenAddress client accountInputs accountSchema = .ok (some address)) :
      Derivable accountSchema.name address
  | derived {accountSchema : InstructionAccountSchema} {seeds : List PdaSeedSchema}
      {known : ResolvedAddresses} {address : PublicKey}
      (haccount : accountSchema ∈ schema.accounts)
      (hgiven : givenAddress client accountInputs accountSchema = .ok none)
      (hpda : accountSchema.pda = some seeds)
      (hknown : ∀ name address, known.lookup name = some address → Derivable name address)
      (hderive : derivePda client schema argumentValues known seeds = .ok address) :
      Derivable accountSchema.name address

/-- The seeds of some account do not encode, or no address is found for them. -/
def DerivationFails : Prop :=
  ∃ accountSchema ∈ schema.accounts, ∃ seeds known message,
    givenAddress client accountInputs accountSchema = .ok none ∧
    accountSchema.pda = some seeds ∧
    (∀ name address, known.lookup name = some address →
      Derivable client schema argumentValues accountInputs name address) ∧
    derivePda client schema argumentValues known seeds = .error (.failed message)

/-! ## Derivations as rules -/

def pdaOutcome : Except SeedError PublicKey → Saturation.Outcome String PublicKey
  | .ok address => .value address
  | .error (.missingAccount _) => .blocked
  | .error (.failed message) => .failed message

/-- The rule of an account that has a PDA schema. -/
def pdaRule (accountSchema : InstructionAccountSchema) :
    Option (String × Saturation.Rule String PublicKey String) :=
  accountSchema.pda.map fun seeds => (accountSchema.name, fun known =>
    pdaOutcome (derivePda client schema argumentValues known seeds))

def pdaRules : List (String × Saturation.Rule String PublicKey String) :=
  schema.accounts.filterMap (pdaRule client schema argumentValues)

variable {client schema argumentValues accountInputs}

theorem derivePass_eq : ∀ (accounts : List InstructionAccountSchema)
    (resolved : ResolvedAddresses) (changed : Bool),
    derivePass client schema argumentValues accounts resolved changed =
      Saturation.pass (accounts.filterMap (pdaRule client schema argumentValues)) resolved changed
  | [], _, _ => rfl
  | accountSchema :: rest, resolved, changed => by
    have ih := derivePass_eq rest
    cases hpda : accountSchema.pda with
    | none =>
      have hrule : pdaRule client schema argumentValues accountSchema = none := by
        rw [pdaRule, hpda, Option.map_none]
      rw [derivePass, List.filterMap_cons_none hrule, ← ih]
      split
      · rename_i hsome
        rw [hpda] at hsome
        cases hsome
      · rfl
    | some seeds =>
      have hrule : pdaRule client schema argumentValues accountSchema =
          some (accountSchema.name, fun known =>
            pdaOutcome (derivePda client schema argumentValues known seeds)) := by
        rw [pdaRule, hpda, Option.map_some]
      rw [derivePass, List.filterMap_cons_some hrule, Saturation.pass, Saturation.attempt, hpda]
      cases resolved.lookup accountSchema.name with
      | some address => exact ih resolved changed
      | none =>
        dsimp only
        cases derivePda client schema argumentValues resolved seeds with
        | ok address => exact ih ((accountSchema.name, address) :: resolved) true
        | error seedError =>
          cases seedError with
          | missingAccount name => exact ih resolved changed
          | failed message => rfl

theorem derivePasses_eq : ∀ (limit : Nat) (resolved : ResolvedAddresses),
    derivePasses client schema argumentValues limit resolved =
      Saturation.passes (pdaRules client schema argumentValues) limit resolved
  | 0, _ => rfl
  | limit + 1, resolved => by
    rw [derivePasses, Saturation.passes, derivePass_eq, ← pdaRules]
    cases Saturation.pass (pdaRules client schema argumentValues) resolved false with
    | error message => rfl
    | ok result =>
      obtain ⟨known, changed⟩ := result
      cases changed with
      | true => exact derivePasses_eq limit known
      | false => rfl

/-! ## Seeds -/

theorem pdaSeedBytes_grows {known known' : ResolvedAddresses}
    (hgrows : Saturation.Grows known known') {seedSchema : PdaSeedSchema}
    (h : ∀ name, pdaSeedBytes client schema argumentValues known seedSchema ≠
      .error (.missingAccount name)) :
    pdaSeedBytes client schema argumentValues known' seedSchema =
      pdaSeedBytes client schema argumentValues known seedSchema := by
  cases seedSchema with
  | const bytes => rfl
  | argument name => rfl
  | account name =>
    unfold pdaSeedBytes at h ⊢
    dsimp only at h ⊢
    cases hlookup : known.lookup name with
    | none =>
      rw [hlookup] at h
      exact absurd rfl (h name)
    | some address => rw [hgrows name address hlookup]

/-- The seeds up to the first one that is missing do not change. -/
theorem seedBytes_grows {known known' : ResolvedAddresses}
    (hgrows : Saturation.Grows known known') : ∀ {seeds : List PdaSeedSchema},
    (∀ name, seeds.mapM (pdaSeedBytes client schema argumentValues known) ≠
      .error (.missingAccount name)) →
    seeds.mapM (pdaSeedBytes client schema argumentValues known') =
      seeds.mapM (pdaSeedBytes client schema argumentValues known)
  | [], _ => rfl
  | seedSchema :: seeds, h => by
    rw [List.mapM_cons] at h
    have hpresent : ∀ name, pdaSeedBytes client schema argumentValues known seedSchema ≠
        .error (.missingAccount name) := fun name hmissing => h name (by rw [hmissing]; rfl)
    have hseed := pdaSeedBytes_grows hgrows hpresent
    rw [List.mapM_cons, List.mapM_cons, hseed]
    cases hbytes : pdaSeedBytes client schema argumentValues known seedSchema with
    | error seedError => rfl
    | ok bytes =>
      rw [hbytes] at h
      rw [seedBytes_grows hgrows fun name hmissing => h name (by rw [hmissing]; rfl)]

theorem derivePda_grows {known known' : ResolvedAddresses}
    (hgrows : Saturation.Grows known known') {seeds : List PdaSeedSchema}
    (h : ∀ name, derivePda client schema argumentValues known seeds ≠
      .error (.missingAccount name)) :
    derivePda client schema argumentValues known' seeds =
      derivePda client schema argumentValues known seeds := by
  unfold derivePda at h ⊢
  rw [seedBytes_grows hgrows]
  intro name hmissing
  exact h name (by rw [hmissing]; rfl)

theorem pdaRules_stable : ∀ entry ∈ pdaRules client schema argumentValues,
    Saturation.Stable entry.2 := by
  intro entry hentry
  obtain ⟨accountSchema, -, hrule⟩ := List.mem_filterMap.1 hentry
  obtain ⟨seeds, -, rfl⟩ := Option.map_eq_some_iff.1 hrule
  intro known known' hgrows hopen
  dsimp only at hopen ⊢
  rw [derivePda_grows hgrows]
  intro name hmissing
  exact hopen (by rw [hmissing]; rfl)

theorem mem_pdaRules {name : String} {rule : Saturation.Rule String PublicKey String} :
    (name, rule) ∈ pdaRules client schema argumentValues ↔ ∃ accountSchema ∈ schema.accounts,
      ∃ seeds, accountSchema.pda = some seeds ∧ accountSchema.name = name ∧
        (fun known => pdaOutcome (derivePda client schema argumentValues known seeds)) = rule := by
  simp only [pdaRules, List.mem_filterMap, pdaRule, Option.map_eq_some_iff, Prod.mk.injEq]

theorem pdaRules_nodup (hnames : (schema.accounts.map (·.name)).Nodup) :
    ((pdaRules client schema argumentValues).map Prod.fst).Nodup := by
  refine hnames.sublist ?_
  unfold pdaRules
  induction schema.accounts with
  | nil => exact .slnil
  | cons accountSchema accounts ih =>
    rw [List.map_cons, List.filterMap_cons]
    cases hpda : accountSchema.pda with
    | none =>
      simp only [pdaRule, hpda, Option.map_none]
      exact ih.cons _
    | some seeds =>
      simp only [pdaRule, hpda, Option.map_some, List.map_cons]
      exact ih.cons_cons _

theorem pdaRules_length : (pdaRules client schema argumentValues).length ≤
    schema.accounts.length := List.length_filterMap_le _ _

/-! ## What is given -/

/-- **The given addresses** are the inputs and, for the rest, the defaults. -/
theorem resolveGiven_spec : ∀ {accounts : List InstructionAccountSchema} {given : ResolvedAddresses},
    (accounts.map (·.name)).Nodup → resolveGiven client accountInputs accounts = .ok given →
    (∀ accountSchema ∈ accounts,
      givenAddress client accountInputs accountSchema = .ok (given.lookup accountSchema.name)) ∧
    ∀ name, name ∉ accounts.map (·.name) → given.lookup name = none
  | [], _, _, h => by
    cases h
    exact ⟨fun _ hmem => (nomatch hmem), fun _ _ => rfl⟩
  | accountSchema :: rest, given, hnames, h => by
    rw [List.map_cons, List.nodup_cons] at hnames
    obtain ⟨address, resolved, hgiven, hresolved, rfl⟩ : ∃ address resolved,
        givenAddress client accountInputs accountSchema = .ok address ∧
        resolveGiven client accountInputs rest = .ok resolved ∧
        given = address.elim resolved fun address => (accountSchema.name, address) :: resolved := by
      rw [resolveGiven] at h
      cases hinput : accountInputs.lookup accountSchema.name with
      | some address =>
        rw [hinput] at h
        obtain ⟨resolved, hresolved, hret⟩ := Except.bind_eq_ok.1 h
        cases hret
        exact ⟨some address, resolved, by rw [givenAddress, hinput], hresolved, rfl⟩
      | none =>
        rw [hinput] at h
        obtain ⟨address, haddress, h⟩ := Except.bind_eq_ok.1 h
        obtain ⟨resolved, hresolved, hret⟩ := Except.bind_eq_ok.1 h
        refine ⟨address, resolved, by rw [givenAddress, hinput, haddress], hresolved, ?_⟩
        cases hret
        cases address <;> rfl
    obtain ⟨hrest, hothers⟩ := resolveGiven_spec hnames.2 hresolved
    have hfresh := hothers accountSchema.name hnames.1
    have hlookup : ∀ name, name ≠ accountSchema.name → List.lookup name (address.elim resolved
        fun address => (accountSchema.name, address) :: resolved) = resolved.lookup name := by
      intro name hne
      cases address with
      | none => rfl
      | some address => rw [Option.elim, List.lookup_cons, beq_false_of_ne hne]
    refine ⟨fun other hother => ?_, fun name hname => ?_⟩
    · rcases List.mem_cons.1 hother with rfl | hother
      · rw [hgiven]
        cases address with
        | none => rw [Option.elim, hfresh]
        | some address => rw [Option.elim, List.lookup_cons_self]
      · rw [hlookup _ fun heq => hnames.1 (heq ▸ List.mem_map_of_mem hother)]
        exact hrest other hother
    · rw [List.map_cons, List.mem_cons, not_or] at hname
      rw [hlookup name hname.1]
      exact hothers name hname.2

theorem resolveGiven_ok : ∀ {accounts : List InstructionAccountSchema},
    (∀ accountSchema ∈ accounts, ∃ address,
      givenAddress client accountInputs accountSchema = .ok address) →
    ∃ given, resolveGiven client accountInputs accounts = .ok given
  | [], _ => ⟨[], rfl⟩
  | accountSchema :: rest, h => by
    obtain ⟨resolved, hresolved⟩ := resolveGiven_ok fun other hother =>
      h other (List.mem_cons_of_mem _ hother)
    obtain ⟨address, haddress⟩ := h accountSchema List.mem_cons_self
    unfold givenAddress at haddress
    rw [resolveGiven]
    cases hinput : accountInputs.lookup accountSchema.name with
    | some given => exact ⟨_, Except.bind_eq_ok.2 ⟨resolved, hresolved, rfl⟩⟩
    | none =>
      rw [hinput] at haddress
      exact ⟨_, Except.bind_eq_ok.2 ⟨address, haddress,
        Except.bind_eq_ok.2 ⟨resolved, hresolved, rfl⟩⟩⟩

section

variable (hnames : (schema.accounts.map (·.name)).Nodup) {given : ResolvedAddresses}
  (hgiven : resolveGiven client accountInputs schema.accounts = .ok given)

include hnames hgiven

theorem lookup_given {accountSchema : InstructionAccountSchema}
    (haccount : accountSchema ∈ schema.accounts) :
    givenAddress client accountInputs accountSchema = .ok (given.lookup accountSchema.name) :=
  (resolveGiven_spec hnames hgiven).1 accountSchema haccount

/-- A given address is the one of an account. -/
theorem exists_account_of_given {name : String} {address : PublicKey}
    (h : given.lookup name = some address) :
    ∃ accountSchema ∈ schema.accounts, accountSchema.name = name := by
  by_contra hnone
  have hfresh := (resolveGiven_spec hnames hgiven).2 name fun hmem => hnone (List.mem_map.1 hmem)
  rw [hfresh] at h
  cases h

theorem derivable_iff {name : String} {address : PublicKey} :
    Derivable client schema argumentValues accountInputs name address ↔
      Saturation.Derives (pdaRules client schema argumentValues) given name address := by
  constructor
  · intro h
    induction h with
    | given haccount h =>
      rw [lookup_given hnames hgiven haccount] at h
      exact .given (Except.ok.inj h)
    | derived haccount h hpda _ hderive ih =>
      rw [lookup_given hnames hgiven haccount] at h
      refine .rule (mem_pdaRules.2 ⟨_, haccount, _, hpda, rfl, rfl⟩) (Except.ok.inj h) ih ?_
      rw [hderive]
      rfl
  · intro h
    induction h with
    | given h =>
      obtain ⟨accountSchema, haccount, rfl⟩ := exists_account_of_given hnames hgiven h
      exact .given haccount (by rw [lookup_given hnames hgiven haccount, h])
    | @rule name address _ known hrule hfree _ hvalue ih =>
      obtain ⟨accountSchema, haccount, seeds, hpda, rfl, rfl⟩ := mem_pdaRules.1 hrule
      refine .derived haccount (by rw [lookup_given hnames hgiven haccount, hfree]) hpda ih ?_
      dsimp only at hvalue
      unfold pdaOutcome at hvalue
      split at hvalue
      · cases hvalue
        assumption
      · cases hvalue
      · cases hvalue

theorem fails_iff :
    Saturation.Fails (pdaRules client schema argumentValues) given ↔
      DerivationFails client schema argumentValues accountInputs := by
  constructor
  · rintro ⟨name, rule, known, message, hrule, hfree, hknown, hfailed⟩
    obtain ⟨accountSchema, haccount, seeds, hpda, rfl, rfl⟩ := mem_pdaRules.1 hrule
    refine ⟨accountSchema, haccount, seeds, known, message,
      by rw [lookup_given hnames hgiven haccount, hfree], hpda,
      fun name address h => (derivable_iff hnames hgiven).2 (hknown name address h), ?_⟩
    dsimp only at hfailed
    unfold pdaOutcome at hfailed
    split at hfailed
    · cases hfailed
    · cases hfailed
    · cases hfailed
      assumption
  · rintro ⟨accountSchema, haccount, seeds, known, message, h, hpda, hknown, hderive⟩
    rw [lookup_given hnames hgiven haccount] at h
    refine ⟨accountSchema.name, _, known, message,
      mem_pdaRules.2 ⟨accountSchema, haccount, seeds, hpda, rfl, rfl⟩, Except.ok.inj h,
      fun name address h => (derivable_iff hnames hgiven).1 (hknown name address h), ?_⟩
    rw [hderive]
    rfl

/-- **The passes resolve what is derivable**, and fail only where a derivation does. -/
theorem derivePasses_ok_iff :
    (∃ resolved, derivePasses client schema argumentValues schema.accounts.length given =
        .ok resolved) ↔ ¬ DerivationFails client schema argumentValues accountInputs := by
  rw [← fails_iff hnames hgiven, derivePasses_eq]
  exact Saturation.passes_ok_iff pdaRules_stable (pdaRules_nodup hnames) pdaRules_length

theorem lookup_derivePasses_iff {resolved : ResolvedAddresses}
    (h : derivePasses client schema argumentValues schema.accounts.length given = .ok resolved)
    {name : String} {address : PublicKey} : resolved.lookup name = some address ↔
      Derivable client schema argumentValues accountInputs name address := by
  rw [derivePasses_eq] at h
  rw [derivable_iff hnames hgiven]
  exact Saturation.lookup_passes_iff pdaRules_stable (pdaRules_nodup hnames) pdaRules_length h

end

/-! ## The accounts in another order -/

/-- The same instruction with its accounts listed differently. -/
def InstructionSchema.withAccounts (schema : InstructionSchema)
    (accounts : List InstructionAccountSchema) : InstructionSchema :=
  { schema with accounts := accounts }

theorem resolveGiven_perm {accounts accounts' : List InstructionAccountSchema}
    (hnames : (accounts.map (·.name)).Nodup) (hperm : accounts'.Perm accounts)
    {given : ResolvedAddresses} (h : resolveGiven client accountInputs accounts = .ok given) :
    ∃ given', resolveGiven client accountInputs accounts' = .ok given' ∧
      ∀ name, given'.lookup name = given.lookup name := by
  obtain ⟨haccounts, hothers⟩ := resolveGiven_spec hnames h
  obtain ⟨given', h'⟩ := resolveGiven_ok fun accountSchema haccount =>
    ⟨_, haccounts accountSchema (hperm.mem_iff.1 haccount)⟩
  have hperm' := hperm.map (·.name)
  obtain ⟨haccounts', hothers'⟩ := resolveGiven_spec (hperm'.nodup_iff.2 hnames) h'
  refine ⟨given', h', fun name => ?_⟩
  by_cases hname : name ∈ accounts.map (·.name)
  · obtain ⟨accountSchema, haccount, rfl⟩ := List.mem_map.1 hname
    have hlookup := haccounts' accountSchema (hperm.mem_iff.2 haccount)
    rw [haccounts accountSchema haccount] at hlookup
    exact (Except.ok.inj hlookup).symm
  · rw [hothers name hname, hothers' name fun hmem => hname (hperm'.mem_iff.1 hmem)]

theorem derivePda_congr {known known' : ResolvedAddresses}
    (h : ∀ name, known'.lookup name = known.lookup name) (seeds : List PdaSeedSchema) :
    derivePda client schema argumentValues known' seeds =
      derivePda client schema argumentValues known seeds := by
  have hseed : pdaSeedBytes client schema argumentValues known' =
      pdaSeedBytes client schema argumentValues known := by
    funext seedSchema
    cases seedSchema with
    | const bytes => rfl
    | argument name => rfl
    | account name => rw [pdaSeedBytes, pdaSeedBytes, h name]
  rw [derivePda, derivePda, hseed]

theorem accountMeta_congr {instructionName : String} {verifyPdas : Bool}
    {known known' : ResolvedAddresses} (h : ∀ name, known'.lookup name = known.lookup name)
    (accounts : List InstructionAccountSchema) (accountSchema : InstructionAccountSchema) :
    accountMeta client instructionName (schema.withAccounts accounts) argumentValues verifyPdas
        known' accountSchema =
      accountMeta client instructionName schema argumentValues verifyPdas known accountSchema := by
  have hverify : ∀ address, verifyPda client instructionName (schema.withAccounts accounts)
      argumentValues known' accountSchema address =
        verifyPda client instructionName schema argumentValues known accountSchema address := by
    intro address
    unfold verifyPda
    cases accountSchema.pda with
    | none => rfl
    | some seeds =>
      dsimp only
      rw [derivePda_congr h]
      rfl
  rw [accountMeta, accountMeta, h]
  simp only [hverify]

/-- **The order decides about nothing.** -/
theorem resolveAccounts_perm {instructionName : String} {verifyPdas : Bool}
    (hnames : (schema.accounts.map (·.name)).Nodup) {accounts : List InstructionAccountSchema}
    (hperm : accounts.Perm schema.accounts) {metas : List InstructionAccountMeta}
    (h : resolveAccounts client instructionName schema argumentValues accountInputs verifyPdas =
      .ok metas) :
    ∃ metas', resolveAccounts client instructionName (schema.withAccounts accounts) argumentValues
      accountInputs verifyPdas = .ok metas' ∧ metas'.Perm metas := by
  obtain ⟨given, hgiven, h⟩ := Except.bind_eq_ok.1 h
  obtain ⟨resolved, hresolved, h⟩ := Except.bind_eq_ok.1 h
  obtain ⟨given', hgiven', hsame⟩ := resolveGiven_perm hnames hperm hgiven
  have hrules : (pdaRules client (schema.withAccounts accounts) argumentValues).Perm
      (pdaRules client schema argumentValues) := hperm.filterMap _
  rw [derivePasses_eq] at hresolved
  obtain ⟨resolved', hresolved', hlookup⟩ := Saturation.passes_perm pdaRules_stable
    (pdaRules_nodup hnames) pdaRules_length hrules hsame hresolved
  obtain ⟨metas', hmetas', hperm'⟩ := List.perm_comp_forall₂ hperm (Except.mapM_eq_ok.1 h)
  refine ⟨metas', ?_, hperm'⟩
  refine Except.bind_eq_ok.2 ⟨given', hgiven', Except.bind_eq_ok.2 ⟨resolved', ?_, ?_⟩⟩
  · rw [derivePasses_eq, ← hresolved', ← hperm.length_eq]
    rfl
  · refine Except.mapM_eq_ok.2 (hmetas'.imp fun accountSchema account haccount => ?_)
    rw [accountMeta_congr hlookup]
    exact haccount

/-! ## The accounts returned -/

theorem verifyPda_ok {instructionName : String} {resolved : ResolvedAddresses}
    {accountSchema : InstructionAccountSchema} {address : PublicKey} {seeds : List PdaSeedSchema}
    (hpda : accountSchema.pda = some seeds)
    (h : verifyPda client instructionName schema argumentValues resolved accountSchema address =
      .ok ()) :
    derivePda client schema argumentValues resolved seeds = .ok address := by
  unfold verifyPda at h
  rw [hpda] at h
  dsimp only at h
  split at h
  · cases h
  · rename_i expected hderive
    split at h
    · cases h
    · rename_i hne
      rw [hderive, Decidable.not_not.1 hne]

theorem accountMeta_ok {instructionName : String} {verifyPdas : Bool}
    {resolved : ResolvedAddresses} {accountSchema : InstructionAccountSchema}
    {account : InstructionAccountMeta}
    (h : accountMeta client instructionName schema argumentValues verifyPdas resolved
      accountSchema = .ok account) :
    account.name = accountSchema.name ∧
      resolved.lookup accountSchema.name = some account.address ∧
      (verifyPdas = true → ∀ seeds, accountSchema.pda = some seeds →
        derivePda client schema argumentValues resolved seeds = .ok account.address) := by
  unfold accountMeta at h
  split at h
  · cases h
  · rename_i address hlookup
    cases verifyPdas with
    | false =>
      cases h
      exact ⟨rfl, hlookup, fun hverify => nomatch hverify⟩
    | true =>
      obtain ⟨⟨⟩, hverify, hret⟩ := Except.bind_eq_ok.1 h
      cases hret
      exact ⟨rfl, hlookup, fun _ seeds hpda => verifyPda_ok hpda hverify⟩

theorem accountMeta_unverified {instructionName : String} {resolved : ResolvedAddresses}
    {accountSchema : InstructionAccountSchema} {address : PublicKey}
    (h : resolved.lookup accountSchema.name = some address) :
    accountMeta client instructionName schema argumentValues false resolved accountSchema =
      .ok ⟨accountSchema.name, address, accountSchema.signer, accountSchema.writable⟩ := by
  unfold accountMeta
  rw [h]
  rfl

/-- The returned addresses by name. -/
def returnedAddresses (metas : List InstructionAccountMeta) : ResolvedAddresses :=
  metas.map fun account => (account.name, account.address)

theorem returnedAddresses_lookup {resolved : ResolvedAddresses}
    (hresolved : ∀ name address, resolved.lookup name = some address →
      name ∈ schema.accounts.map (·.name))
    {metas : List InstructionAccountMeta}
    (hmetas : List.Forall₂ (fun accountSchema account => account.name = accountSchema.name ∧
      resolved.lookup accountSchema.name = some account.address) schema.accounts metas)
    (name : String) : (returnedAddresses metas).lookup name = resolved.lookup name := by
  have hlisted : ∀ {accounts : List InstructionAccountSchema} {metas : List InstructionAccountMeta},
      List.Forall₂ (fun accountSchema account => account.name = accountSchema.name ∧
        resolved.lookup accountSchema.name = some account.address) accounts metas →
      (returnedAddresses metas).lookup name =
        if name ∈ accounts.map (·.name) then resolved.lookup name else none := by
    intro accounts metas h
    induction h with
    | nil => rfl
    | @cons accountSchema account accounts metas hhead _ ih =>
      obtain ⟨hsame, hlookup⟩ := hhead
      rw [returnedAddresses, List.map_cons, hsame]
      by_cases heq : name = accountSchema.name
      · rw [if_pos (by simp [heq]), heq, List.lookup_cons_self, hlookup]
      · rw [List.lookup_cons, beq_false_of_ne heq]
        rw [returnedAddresses] at ih
        simpa [heq] using ih
  rw [hlisted hmetas]
  split
  · rfl
  · rename_i hnone
    cases hlookup : resolved.lookup name with
    | none => rfl
    | some address => exact absurd (hresolved name address hlookup) hnone

variable (client schema argumentValues accountInputs) in
/-- What can be said of the accounts that are returned. -/
structure ReturnedAccounts (instructionName : String) (verifyPdas : Bool)
    (metas : List InstructionAccountMeta) : Prop where
  names : metas.map (·.name) = schema.accounts.map (·.name)
  derivable : ∀ account ∈ metas,
    Derivable client schema argumentValues accountInputs account.name account.address
  inputs : ∀ account ∈ metas, ∀ address, accountInputs.lookup account.name = some address →
    account.address = address
  order : ∀ accounts, accounts.Perm schema.accounts →
    ∃ metas', resolveAccounts client instructionName (schema.withAccounts accounts) argumentValues
      accountInputs verifyPdas = .ok metas' ∧ metas'.Perm metas
  verified : verifyPdas = true → ∀ accountSchema ∈ schema.accounts, ∀ seeds,
    accountSchema.pda = some seeds → ∀ account ∈ metas, account.name = accountSchema.name →
      derivePda client schema argumentValues (returnedAddresses metas) seeds = .ok account.address

theorem resolveAccounts_returns {instructionName : String} {verifyPdas : Bool}
    (hnames : (schema.accounts.map (·.name)).Nodup) {metas : List InstructionAccountMeta}
    (h : resolveAccounts client instructionName schema argumentValues accountInputs verifyPdas =
      .ok metas) :
    ReturnedAccounts client schema argumentValues accountInputs instructionName verifyPdas
      metas := by
  have horder := fun accounts (hperm : List.Perm accounts schema.accounts) =>
    resolveAccounts_perm hnames hperm h
  obtain ⟨given, hgiven, h⟩ := Except.bind_eq_ok.1 h
  obtain ⟨resolved, hresolved, h⟩ := Except.bind_eq_ok.1 h
  have hderivable : ∀ {name : String} {address : PublicKey}, resolved.lookup name = some address ↔
      Derivable client schema argumentValues accountInputs name address :=
    lookup_derivePasses_iff hnames hgiven hresolved
  have hmetas := (Except.mapM_eq_ok.1 h).imp fun _ _ => accountMeta_ok
  have hlisted := hmetas.imp fun accountSchema account haccount =>
    (⟨haccount.1, haccount.2.1⟩ : account.name = accountSchema.name ∧
      resolved.lookup accountSchema.name = some account.address)
  have hknown : ∀ name address, resolved.lookup name = some address →
      name ∈ schema.accounts.map (·.name) := by
    intro name address hname
    obtain ⟨accountSchema, haccount, rfl⟩ : ∃ accountSchema ∈ schema.accounts,
        accountSchema.name = name := by
      cases hderivable.1 hname with
      | given haccount => exact ⟨_, haccount, rfl⟩
      | derived haccount => exact ⟨_, haccount, rfl⟩
    exact List.mem_map_of_mem haccount
  have hlookup := returnedAddresses_lookup hknown hlisted
  have hmem : ∀ {account : InstructionAccountMeta}, account ∈ metas →
      ∃ accountSchema ∈ schema.accounts, account.name = accountSchema.name ∧
        resolved.lookup accountSchema.name = some account.address ∧
        (verifyPdas = true → ∀ seeds, accountSchema.pda = some seeds →
          derivePda client schema argumentValues resolved seeds = .ok account.address) := by
    intro account haccount
    exact forall₂_exists_left hmetas account haccount
  refine ⟨?_, ?_, ?_, horder, ?_⟩
  · have hnamed : List.Forall₂ (fun accountSchema account =>
        account.name = accountSchema.name) schema.accounts metas :=
      hlisted.imp fun _ _ haccount => haccount.1
    exact (List.forall₂_eq_eq_eq ▸ List.forall₂_map_left_iff.2
      (List.forall₂_map_right_iff.2 (hnamed.imp fun _ _ h => h.symm)) :
        schema.accounts.map (·.name) = metas.map (·.name)).symm
  · intro account haccount
    obtain ⟨accountSchema, -, hsame, hlookup, -⟩ := hmem haccount
    rw [hsame]
    exact hderivable.1 hlookup
  · intro account haccount address hinput
    obtain ⟨accountSchema, hschema, hsame, hlookup, -⟩ := hmem haccount
    have haddress : Derivable client schema argumentValues accountInputs accountSchema.name
        address := by
      refine .given hschema ?_
      rw [hsame] at hinput
      rw [givenAddress, hinput]
    rw [hderivable.2 haddress] at hlookup
    exact (Option.some.inj hlookup).symm
  · intro hverify accountSchema hschema seeds hpda account haccount hsame
    obtain ⟨other, hother, hname, -, hverified⟩ := hmem haccount
    have heq : other = accountSchema :=
      List.inj_on_of_nodup_map hnames hother hschema (hname.symm.trans hsame)
    subst heq
    rw [derivePda_congr hlookup]
    exact hverified hverify seeds hpda

/-- Without a check of the PDAs, an instruction resolves when all its accounts are derivable. -/
theorem resolveAccounts_complete {instructionName : String}
    (hnames : (schema.accounts.map (·.name)).Nodup)
    (hfails : ¬ DerivationFails client schema argumentValues accountInputs)
    (h : ∀ accountSchema ∈ schema.accounts, ∃ address,
      Derivable client schema argumentValues accountInputs accountSchema.name address) :
    ∃ metas, resolveAccounts client instructionName schema argumentValues accountInputs false =
      .ok metas := by
  have hgivens : ∀ accountSchema ∈ schema.accounts, ∃ address,
      givenAddress client accountInputs accountSchema = .ok address := by
    intro accountSchema haccount
    obtain ⟨address, haddress⟩ := h accountSchema haccount
    generalize hname : accountSchema.name = name at haddress
    cases haddress with
    | given hother hgiven =>
      rw [List.inj_on_of_nodup_map hnames haccount hother hname]
      exact ⟨_, hgiven⟩
    | derived hother hgiven =>
      rw [List.inj_on_of_nodup_map hnames haccount hother hname]
      exact ⟨_, hgiven⟩
  obtain ⟨given, hgiven⟩ := resolveGiven_ok hgivens
  obtain ⟨resolved, hresolved⟩ := (derivePasses_ok_iff hnames hgiven).2 hfails
  have hmetas : ∃ metas, List.Forall₂ (fun accountSchema account =>
      accountMeta client instructionName schema argumentValues false resolved accountSchema =
        .ok account) schema.accounts metas := by
    have hall : ∀ accountSchema ∈ schema.accounts, ∃ account,
        accountMeta client instructionName schema argumentValues false resolved accountSchema =
          .ok account := by
      intro accountSchema haccount
      obtain ⟨address, haddress⟩ := h accountSchema haccount
      exact ⟨_, accountMeta_unverified
        ((lookup_derivePasses_iff hnames hgiven hresolved).2 haddress)⟩
    generalize schema.accounts = accounts at hall
    induction accounts with
    | nil => exact ⟨[], .nil⟩
    | cons accountSchema accounts ih =>
      obtain ⟨account, haccount⟩ := hall accountSchema List.mem_cons_self
      obtain ⟨metas, hmetas⟩ := ih fun other hother => hall other (List.mem_cons_of_mem _ hother)
      exact ⟨account :: metas, .cons haccount hmetas⟩
  obtain ⟨metas, hmetas⟩ := hmetas
  exact ⟨metas, Except.bind_eq_ok.2 ⟨given, hgiven, Except.bind_eq_ok.2 ⟨resolved, hresolved,
    Except.mapM_eq_ok.2 hmetas⟩⟩⟩

/-- **What resolving the accounts of an instruction comes to**: the passes leave an account
unresolved only when it is not derivable, all accounts that are returned are derivable, inputs are
kept, the order of the accounts decides about nothing, and checked PDAs are the derived ones. -/
theorem resolveAccounts_exact (client : ChanceryClient) (instructionName : String)
    (schema : InstructionSchema) (argumentValues : StructValues)
    (accountInputs : InstructionAccountInputs) (verifyPdas : Bool)
    (hnames : (schema.accounts.map (·.name)).Nodup)
    (hfails : ¬ DerivationFails client schema argumentValues accountInputs) :
    (∀ given, resolveGiven client accountInputs schema.accounts = .ok given →
      ∃ resolved, derivePasses client schema argumentValues schema.accounts.length given =
        .ok resolved ∧
      ∀ name address, resolved.lookup name = some address ↔
        Derivable client schema argumentValues accountInputs name address) ∧
    ((∀ accountSchema ∈ schema.accounts, ∃ address,
        Derivable client schema argumentValues accountInputs accountSchema.name address) →
      ∃ metas, resolveAccounts client instructionName schema argumentValues accountInputs false =
        .ok metas) ∧
    ∀ metas, resolveAccounts client instructionName schema argumentValues accountInputs verifyPdas =
      .ok metas →
      ReturnedAccounts client schema argumentValues accountInputs instructionName verifyPdas
        metas := by
  refine ⟨?_, resolveAccounts_complete hnames hfails, fun _ => resolveAccounts_returns hnames⟩
  intro given hgiven
  obtain ⟨resolved, hresolved⟩ := (derivePasses_ok_iff hnames hgiven).2 hfails
  exact ⟨resolved, hresolved, fun _ _ => lookup_derivePasses_iff hnames hgiven hresolved⟩

end

/-! ## Accounts that are all given -/

section

variable {client : ChanceryClient} {schema : InstructionSchema} {argumentValues : StructValues}
  {accountInputs : InstructionAccountInputs}

theorem derivePass_resolved {resolved : ResolvedAddresses} {changed : Bool} :
    ∀ {accounts : List InstructionAccountSchema},
      (∀ accountSchema ∈ accounts, ∃ address,
        resolved.lookup accountSchema.name = some address) →
      derivePass client schema argumentValues accounts resolved changed = .ok (resolved, changed)
  | [], _ => rfl
  | accountSchema :: accounts, h => by
    obtain ⟨address, haddress⟩ := h accountSchema List.mem_cons_self
    rw [derivePass, haddress]
    exact derivePass_resolved fun other hother => h other (List.mem_cons_of_mem _ hother)

theorem accountMetas_unverified {instructionName : String} {resolved : ResolvedAddresses}
    {accounts : List InstructionAccountSchema} {addresses : List PublicKey}
    (h : List.Forall₂ (fun accountSchema address =>
      resolved.lookup accountSchema.name = some address) accounts addresses) :
    accounts.mapM (accountMeta client instructionName schema argumentValues false resolved) =
      .ok (accounts.zipWith (fun accountSchema address =>
        ⟨accountSchema.name, address, accountSchema.signer, accountSchema.writable⟩)
          addresses) := by
  induction h with
  | nil => rfl
  | cons hlookup _ ih =>
    rw [List.mapM_cons, Except.bind_of_ok (accountMeta_unverified hlookup), Except.bind_of_ok ih]
    rfl

/-- **Accounts that are all given are resolved as given**, when no PDA is checked. -/
theorem resolveAccounts_given {instructionName : String} {addresses : List PublicKey}
    (hnames : (schema.accounts.map (·.name)).Nodup)
    (h : List.Forall₂ (fun accountSchema address =>
      givenAddress client accountInputs accountSchema = .ok (some address))
        schema.accounts addresses) :
    resolveAccounts client instructionName schema argumentValues accountInputs false =
      .ok (schema.accounts.zipWith (fun accountSchema address =>
        ⟨accountSchema.name, address, accountSchema.signer, accountSchema.writable⟩)
          addresses) := by
  have hall : ∀ accountSchema ∈ schema.accounts, ∃ address,
      givenAddress client accountInputs accountSchema = .ok (some address) := by
    intro accountSchema haccount
    obtain ⟨address, -, haddress⟩ := forall₂_exists_left h.flip accountSchema haccount
    exact ⟨address, haddress⟩
  have hgivens : ∀ accountSchema ∈ schema.accounts, ∃ address,
      givenAddress client accountInputs accountSchema = .ok address := by
    intro accountSchema haccount
    obtain ⟨address, haddress⟩ := hall accountSchema haccount
    exact ⟨some address, haddress⟩
  obtain ⟨given, hgiven⟩ := resolveGiven_ok hgivens
  have hlookup : ∀ accountSchema ∈ schema.accounts, ∀ address,
      givenAddress client accountInputs accountSchema = .ok (some address) →
        given.lookup accountSchema.name = some address := by
    intro accountSchema haccount address haddress
    rw [lookup_given hnames hgiven haccount] at haddress
    exact Except.ok.inj haddress
  have hresolved : List.Forall₂ (fun accountSchema address =>
      given.lookup accountSchema.name = some address) schema.accounts addresses := by
    refine List.forall₂_iff_zip.2 ⟨h.length_eq, fun hzip => ?_⟩
    exact hlookup _ (List.of_mem_zip hzip).1 _ (List.forall₂_zip h hzip)
  have hpasses : derivePasses client schema argumentValues schema.accounts.length given =
      .ok given := by
    cases schema.accounts.length with
    | zero => rfl
    | succ limit =>
      rw [derivePasses, derivePass_resolved fun accountSchema haccount => ?_]
      · rfl
      · obtain ⟨address, haddress⟩ := hall accountSchema haccount
        exact ⟨address, hlookup accountSchema haccount address haddress⟩
  exact Except.bind_eq_ok.2 ⟨given, hgiven, Except.bind_eq_ok.2 ⟨given, hpasses,
    accountMetas_unverified hresolved⟩⟩

end

/-! ## A chain of derivations -/

/-- The first account is derived from the second, which is derived from an argument. -/
def chainedSchema : InstructionSchema where
  discriminator := [0, 1]
  accounts := [
    ⟨"vault", true, false, some [.const [118], .account "registry"], none⟩,
    ⟨"registry", false, false, some [.const [114], .argument "id"], none⟩,
    ⟨"payer", true, true, none, none⟩]
  args := [("id", .primitive .u64)]

theorem resolveAccounts_exact_chained : ∃ metas,
    resolveAccounts ⟨.typescript, platformSha256, mainnetDeployment, .confirmed⟩ "open"
      chainedSchema [("id", .number 7)] [("payer", .replicate 9)] true = .ok metas ∧
    ReturnedAccounts ⟨.typescript, platformSha256, mainnetDeployment, .confirmed⟩
      chainedSchema [("id", .number 7)] [("payer", .replicate 9)] "open" true metas := by
  have hnames : (chainedSchema.accounts.map (·.name)).Nodup := by decide +kernel
  have hgiven : resolveGiven ⟨.typescript, platformSha256, mainnetDeployment, .confirmed⟩
      [("payer", .replicate 9)] chainedSchema.accounts = .ok [("payer", .replicate 9)] := rfl
  have hpasses : (derivePasses ⟨.typescript, platformSha256, mainnetDeployment, .confirmed⟩
      chainedSchema [("id", .number 7)] chainedSchema.accounts.length
      [("payer", .replicate 9)]).toBool = true := by decide +kernel
  have hexact := resolveAccounts_exact _ "open" chainedSchema [("id", .number 7)] _ true hnames
    ((derivePasses_ok_iff hnames hgiven).1 (Except.exists_of_toBool hpasses))
  obtain ⟨metas, hmetas⟩ := Except.exists_of_toBool (by decide +kernel :
    (resolveAccounts ⟨.typescript, platformSha256, mainnetDeployment, .confirmed⟩ "open"
      chainedSchema [("id", .number 7)] [("payer", .replicate 9)] true).toBool = true)
  exact ⟨metas, hmetas, hexact.2.2 metas hmetas⟩

end Chancery
