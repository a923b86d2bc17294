import Chancery.DirectSettlementLaws
import Chancery.OperationDocument

/-!
# The accounts of an operation as fields and as positions

The accounts of the two operations have the same laws: they are visited field by field in a fixed
order, and every field stands at a position of the instruction.

* `LawfulLayout` — `lawfulMint`, `lawfulRedeem`.
* `LawfulLayout.keys_of_readable` — texts that can be read are texts of keys.
-/

set_option autoImplicit false

namespace Chancery.Integration

/-! ## Accounts as lists of fields -/

/-- The required accounts in document order. -/
def MintDirectAccounts.required {A : Type} (accounts : MintDirectAccounts A) :
    List (String × A) :=
  [("moduleActivationState", accounts.moduleActivationState),
   ("chanceryConfig", accounts.chanceryConfig), ("eventAuthority", accounts.eventAuthority),
   ("pauseState", accounts.pauseState), ("assetConfig", accounts.assetConfig),
   ("pathwayPolicy", accounts.pathwayPolicy), ("permissionRecord", accounts.permissionRecord),
   ("sourceAssetTokenAccount", accounts.sourceAssetTokenAccount),
   ("reserveAssetTokenAccount", accounts.reserveAssetTokenAccount),
   ("destinationIssuedTokenAccount", accounts.destinationIssuedTokenAccount),
   ("assetMint", accounts.assetMint), ("issuedTokenMint", accounts.issuedTokenMint),
   ("mintAuthorityPda", accounts.mintAuthorityPda),
   ("assetTokenProgram", accounts.assetTokenProgram),
   ("issuedTokenProgram", accounts.issuedTokenProgram), ("principal", accounts.principal),
   ("assetPauseState", accounts.assetPauseState),
   ("issuedTokenControl", accounts.issuedTokenControl)]

/-- The required accounts in document order. -/
def RedeemDirectAccounts.required {A : Type} (accounts : RedeemDirectAccounts A) :
    List (String × A) :=
  [("moduleActivationState", accounts.moduleActivationState),
   ("chanceryConfig", accounts.chanceryConfig), ("eventAuthority", accounts.eventAuthority),
   ("pauseState", accounts.pauseState), ("assetConfig", accounts.assetConfig),
   ("pathwayPolicy", accounts.pathwayPolicy), ("permissionRecord", accounts.permissionRecord),
   ("sourceIssuedTokenAccount", accounts.sourceIssuedTokenAccount),
   ("reserveAssetTokenAccount", accounts.reserveAssetTokenAccount),
   ("destinationAssetTokenAccount", accounts.destinationAssetTokenAccount),
   ("assetMint", accounts.assetMint), ("issuedTokenMint", accounts.issuedTokenMint),
   ("reserveAuthorityPda", accounts.reserveAuthorityPda),
   ("assetTokenProgram", accounts.assetTokenProgram),
   ("issuedTokenProgram", accounts.issuedTokenProgram), ("principal", accounts.principal),
   ("assetPauseState", accounts.assetPauseState),
   ("issuedTokenControl", accounts.issuedTokenControl)]

/-- The policy accounts in document order. -/
def DirectSettlementPolicyAccounts.entries {A : Type}
    (accounts : DirectSettlementPolicyAccounts A) : List (String × Option A) :=
  [("feePolicy", accounts.feePolicy),
   ("feeRecipientTokenAccount", accounts.feeRecipientTokenAccount),
   ("limitPolicy", accounts.limitPolicy), ("hourlyUsageWindow", accounts.hourlyUsageWindow),
   ("dailyUsageWindow", accounts.dailyUsageWindow),
   ("weeklyUsageWindow", accounts.weeklyUsageWindow),
   ("monthlyUsageWindow", accounts.monthlyUsageWindow),
   ("evidencePolicy", accounts.evidencePolicy), ("assetLimitPolicy", accounts.assetLimitPolicy),
   ("assetDailyUsageWindow", accounts.assetDailyUsageWindow),
   ("counterpartyLimitPolicy", accounts.counterpartyLimitPolicy),
   ("counterpartyDailyUsageWindow", accounts.counterpartyDailyUsageWindow)]

section

variable {ε A B : Type} {visit : String → A → Except ε B}
  {visitPolicy : String → Option A → Except ε (Option B)}
  {visitPolicyAccounts : DirectSettlementPolicyAccounts A →
    Except ε (DirectSettlementPolicyAccounts B)}

theorem DirectSettlementPolicyAccounts.traverse_ok {accounts : DirectSettlementPolicyAccounts A}
    {result : DirectSettlementPolicyAccounts B} :
    accounts.traverse visitPolicy = .ok result ↔
      List.Forall₂ (fun source target => visitPolicy source.1 source.2 = .ok target.2)
        accounts.entries result.entries := by
  obtain ⟨⟩ := result
  simp [traverse, entries, Except.bind_eq_ok, pure, Except.pure]

theorem MintDirectAccounts.traverse_ok {accounts : MintDirectAccounts A}
    {result : MintDirectAccounts B} :
    accounts.traverse visit visitPolicyAccounts = .ok result ↔
      List.Forall₂ (fun source target => visit source.1 source.2 = .ok target.2) accounts.required
        result.required ∧
      visitPolicyAccounts accounts.policyAccounts = .ok result.policyAccounts := by
  obtain ⟨⟩ := result
  simp [traverse, required, Except.bind_eq_ok, pure, Except.pure, and_assoc]

theorem RedeemDirectAccounts.traverse_ok {accounts : RedeemDirectAccounts A}
    {result : RedeemDirectAccounts B} :
    accounts.traverse visit visitPolicyAccounts = .ok result ↔
      List.Forall₂ (fun source target => visit source.1 source.2 = .ok target.2) accounts.required
        result.required ∧
      visitPolicyAccounts accounts.policyAccounts = .ok result.policyAccounts := by
  obtain ⟨⟩ := result
  simp [traverse, required, Except.bind_eq_ok, pure, Except.pure, and_assoc]

end

/-- **A layout whose visits are visits of a list**, and whose accounts stand at positions. -/
structure LawfulLayout (Accounts : Type → Type) extends AccountsLayout Accounts where
  required : {A : Type} → Accounts A → List (String × A)
  policyAccounts : {A : Type} → Accounts A → DirectSettlementPolicyAccounts A
  map : {A B : Type} → (A → B) → Accounts A → Accounts B
  positions : {A : Type} → Accounts A → List (Position A)
  units_required : ∀ {A : Type} (accounts : Accounts A),
    (required units).map Prod.fst = (required accounts).map Prod.fst
  traverse_ok : ∀ {ε A B : Type} {visit : String → A → Except ε B}
    {visitPolicyAccounts : DirectSettlementPolicyAccounts A →
      Except ε (DirectSettlementPolicyAccounts B)} {accounts : Accounts A} {result : Accounts B},
    traverse visit visitPolicyAccounts accounts = .ok result ↔
      List.Forall₂ (fun source target => visit source.1 source.2 = .ok target.2)
        (required accounts) (required result) ∧
      visitPolicyAccounts (policyAccounts accounts) = .ok (policyAccounts result)
  ext : ∀ {A : Type} {left right : Accounts A},
    (required left).map Prod.snd = (required right).map Prod.snd →
    (policyAccounts left).entries.map Prod.snd = (policyAccounts right).entries.map Prod.snd →
      left = right
  map_required : ∀ {A B : Type} (f : A → B) (accounts : Accounts A),
    (required (map f accounts)).map Prod.snd = (required accounts).map fun entry => f entry.2
  map_policyAccounts : ∀ {A B : Type} (f : A → B) (accounts : Accounts A),
    policyAccounts (map f accounts) = (policyAccounts accounts).map f
  addresses : ∀ {A : Type} (accounts : Accounts A),
    (positions accounts).map Position.address? =
      (required accounts).map (fun entry => some entry.2) ++
        (policyAccounts accounts).entries.map Prod.snd
  positions_map : ∀ {A B : Type} (f : A → B) (accounts : Accounts A),
    positions (map f accounts) = (positions accounts).map (.map f)

theorem DirectSettlementPolicyAccounts.ext_entries {A : Type}
    {left right : DirectSettlementPolicyAccounts A}
    (h : left.entries.map Prod.snd = right.entries.map Prod.snd) : left = right := by
  cases left
  cases right
  simpa [entries] using h

/-- The layout of a mint. -/
def lawfulMint : LawfulLayout MintDirectAccounts where
  toAccountsLayout := mintLayout
  required := MintDirectAccounts.required
  policyAccounts := MintDirectAccounts.policyAccounts
  map := MintDirectAccounts.map
  positions := mintPositions
  units_required := fun _ => rfl
  traverse_ok := MintDirectAccounts.traverse_ok
  ext := by
    intro A left right hrequired hpolicy
    have hpolicy := DirectSettlementPolicyAccounts.ext_entries hpolicy
    cases left
    cases right
    simp [MintDirectAccounts.required] at hrequired hpolicy
    simp [hrequired, hpolicy]
  map_required := fun _ _ => rfl
  map_policyAccounts := fun _ _ => rfl
  addresses := fun _ => rfl
  positions_map := mintPositions_map

/-- The layout of a redemption. -/
def lawfulRedeem : LawfulLayout RedeemDirectAccounts where
  toAccountsLayout := redeemLayout
  required := RedeemDirectAccounts.required
  policyAccounts := RedeemDirectAccounts.policyAccounts
  map := RedeemDirectAccounts.map
  positions := redeemPositions
  units_required := fun _ => rfl
  traverse_ok := RedeemDirectAccounts.traverse_ok
  ext := by
    intro A left right hrequired hpolicy
    have hpolicy := DirectSettlementPolicyAccounts.ext_entries hpolicy
    cases left
    cases right
    simp [RedeemDirectAccounts.required] at hrequired hpolicy
    simp [hrequired, hpolicy]
  map_required := fun _ _ => rfl
  map_policyAccounts := fun _ _ => rfl
  addresses := fun _ => rfl
  positions_map := redeemPositions_map

/-! ## Readable texts -/

/-- The texts of an operation whose every address can be read are texts of keys. -/
theorem LawfulLayout.keys_of_readable {Accounts : Type → Type}
    (layout : LawfulLayout Accounts) {texts : Accounts String}
    (h : ∀ position ∈ layout.positions texts, position.Readable) :
    texts = layout.map PublicKey.toBase58 (layout.map keyOf texts) := by
  have hall : ∀ text? ∈ (layout.positions texts).map Position.address?, ∀ text,
      text? = some text → (keyOf text).toBase58 = text := by
    rw [List.forall_mem_map]
    exact fun position hposition text htext => (h position hposition text htext).keyOf.2
  rw [layout.addresses, List.forall_mem_append, List.forall_mem_map, List.forall_mem_map] at hall
  obtain ⟨hrequired, hoptional⟩ := hall
  refine layout.ext ?_ ?_
  · have hkeys := layout.map_required keyOf texts
    calc (layout.required texts).map Prod.snd
        = (layout.required texts).map (fun entry => (keyOf entry.2).toBase58) :=
          List.map_congr_left fun entry hentry => (hrequired entry hentry _ rfl).symm
      _ = ((layout.required (layout.map keyOf texts)).map Prod.snd).map PublicKey.toBase58 := by
          rw [hkeys, List.map_map]
          rfl
      _ = (layout.required (layout.map PublicKey.toBase58 (layout.map keyOf texts))).map
            Prod.snd := by
          rw [layout.map_required PublicKey.toBase58, List.map_map]
          rfl
  · rw [layout.map_policyAccounts, layout.map_policyAccounts]
    show _ = (layout.policyAccounts texts).entries.map fun entry =>
      (entry.2.map keyOf).map PublicKey.toBase58
    refine List.map_congr_left fun entry hentry => ?_
    cases htext : entry.2 with
    | none => rfl
    | some text => rw [Option.map_some, Option.map_some, hoptional entry hentry text htext]

end Chancery.Integration
