import Chancery.Lib.Masks
import Chancery.PolicyAgreement
import Chancery.LimitSafety

/-!
# Settlement gates

When `validateCoreSettlementGates` finds nothing to report.

* `GateFields` — what the gates read of the accounts; the masks are 128 bits wide.
* `GateFields.Open` — the gates as conditions on modes, slots and sets of extensions.
* `coreSettlementGates_exact` — decoded accounts raise no issue exactly when the gates are open.
-/

set_option autoImplicit false

namespace Chancery

open Masks

/-! ## What the gates read -/

/-- The fields of an evidence policy that the gates read. -/
structure EvidenceFields where
  requiredFieldMask : Nat
  allowFreeformCounterpartyFields : Int
  counterpartyReportingSchemaHash : Bytes
  maximumFreeformFieldCount : Int
  maximumFreeformValueBytes : Int
  retentionFlags : Int

/-- The fields that the gates read. -/
structure GateFields where
  settlementModuleStatus : UInt8
  assetMode : Int
  assetObservedAtSlot : Int
  assetMaximumAgeSlots : Int
  observedCollateral : Nat
  approvedCollateral : Nat
  assetForbidden : Nat
  pathwayCollateralForbidden : Nat
  controlFlags : Nat
  issuedTokenObservedAtSlot : Int
  issuedTokenMaximumAgeSlots : Int
  activeIssuedExtensions : Nat
  pathwayIssuedForbidden : Nat
  evidencePolicyId : Bytes
  evidence : Option EvidenceFields

/-- The mask that two words of a field hold. -/
def ReadsMask (L : Language) (values : StructValues) (fieldName : String) (mask : Nat) : Prop :=
  ∃ low high : Nat, low < 2 ^ 64 ∧ high < 2 ^ 64 ∧ mask = ofWords low high ∧
    requireBigIntArrayField L values fieldName 2 = .ok [(low : Int), (high : Int)]

/-- The fields as a language reads them. -/
structure EvidenceFields.ReadFrom (fields : EvidenceFields) (L : Language)
    (values : StructValues) : Prop where
  requiredFieldMask : ReadsMask L values "required_field_mask" fields.requiredFieldMask
  allowFreeform : requireNumberField L values "allow_freeform_counterparty_fields" =
    .ok fields.allowFreeformCounterpartyFields
  schemaHash : requireBytes (values.lookup "counterparty_reporting_schema_hash")
    "counterparty_reporting_schema_hash" 32 = .ok fields.counterpartyReportingSchemaHash
  maximumFieldCount : requireNumberField L values "maximum_freeform_field_count" =
    .ok fields.maximumFreeformFieldCount
  maximumValueBytes : requireNumberField L values "maximum_freeform_value_bytes" =
    .ok fields.maximumFreeformValueBytes
  retentionFlags : requireBigIntField L values "retention_flags" = .ok fields.retentionFlags

/-- The evidence fields are those of the evidence policy, when there is one. -/
def EvidenceReadFrom (fields : Option EvidenceFields) (L : Language)
    (values : Option StructValues) : Prop :=
  match fields, values with
  | none, none => True
  | some fields, some values => fields.ReadFrom L values
  | _, _ => False

/-- The fields as a language reads them. -/
structure GateFields.ReadFrom (fields : GateFields) (L : Language)
    (moduleActivation asset issuedTokenControl pathway : StructValues)
    (evidencePolicy : Option StructValues) : Prop where
  moduleStatus : ∃ statuses, requireBytes (moduleActivation.lookup "module_statuses")
    "module_statuses" 32 = .ok statuses ∧
      fields.settlementModuleStatus = statuses.getD settlementModuleId 0
  assetMode : requireNumberField L asset "mode" = .ok fields.assetMode
  assetObservedAt : requireBigIntField L asset "extension_observed_at_slot" =
    .ok fields.assetObservedAtSlot
  assetMaximumAge : requireBigIntField L asset "max_extension_observation_age_slots" =
    .ok fields.assetMaximumAgeSlots
  observedCollateral : ReadsMask L asset "observed_extension_mask" fields.observedCollateral
  approvedCollateral : ReadsMask L asset "approved_extension_mask" fields.approvedCollateral
  assetForbidden : ReadsMask L asset "forbidden_extension_mask" fields.assetForbidden
  pathwayCollateral : ReadsMask L pathway "forbidden_collateral_extension_mask"
    fields.pathwayCollateralForbidden
  controlFlags : requireBigIntField L issuedTokenControl "control_flags" = .ok fields.controlFlags
  issuedTokenObservedAt : requireBigIntField L issuedTokenControl "extension_observed_at_slot" =
    .ok fields.issuedTokenObservedAtSlot
  issuedTokenMaximumAge :
    requireBigIntField L issuedTokenControl "max_extension_observation_age_slots" =
      .ok fields.issuedTokenMaximumAgeSlots
  activeIssued : ReadsMask L issuedTokenControl "active_mint_extension_mask"
    fields.activeIssuedExtensions
  pathwayIssued : ReadsMask L pathway "forbidden_issued_token_extension_mask"
    fields.pathwayIssuedForbidden
  evidencePolicyId : requireBytes (pathway.lookup "evidence_policy_id") "evidence_policy_id" 32 =
    .ok fields.evidencePolicyId
  evidence : EvidenceReadFrom fields.evidence L evidencePolicy

/-! ## The gates -/

/-- The asset's mode permits the action. -/
def ModePermits (action : SettlementAction) (assetMode : Int) : Prop :=
  match action with
  | .mint => assetMode = assetModeActive
  | .redeem => assetMode = assetModeActive ∨ assetMode = assetModeWindDown

/-- An observation is not of the future and, unless its maximum age is zero, not too old. -/
def FreshAt (currentSlot observedAtSlot maximumAgeSlots : Int) : Prop :=
  observedAtSlot ≤ currentSlot ∧
    (maximumAgeSlots ≠ 0 → currentSlot - observedAtSlot ≤ maximumAgeSlots)

/-- A settlement can give the evidence. -/
structure EvidenceFields.Supported (fields : EvidenceFields) : Prop where
  requiredFields : bits fields.requiredFieldMask ⊆ bits settlementEvidenceSupportedFieldMask
  noFreeform : fields.allowFreeformCounterpartyFields = 0
  noSchema : ∀ byte ∈ fields.counterpartyReportingSchemaHash, byte = 0
  noFieldCount : fields.maximumFreeformFieldCount = 0
  noValueBytes : fields.maximumFreeformValueBytes = 0
  noRetention : fields.retentionFlags = 0

/-- Approved extensions only, none of them forbidden. -/
def CollateralOpen (observed approved assetForbidden pathwayForbidden : Nat) : Prop :=
  bits observed ⊆ bits approved ∧ Disjoint (bits observed) (bits assetForbidden) ∧
    Disjoint (bits observed) (bits collateralTransferHookExtension) ∧
    Disjoint (bits observed) (bits pathwayForbidden)

/-- Every gate is open. -/
structure GateFields.Open (fields : GateFields) (action : SettlementAction) (currentSlot : Int) :
    Prop where
  moduleActive : fields.settlementModuleStatus = moduleStatusActive
  mode : ModePermits action fields.assetMode
  assetFresh : FreshAt currentSlot fields.assetObservedAtSlot fields.assetMaximumAgeSlots
  collateral : CollateralOpen fields.observedCollateral fields.approvedCollateral
    fields.assetForbidden fields.pathwayCollateralForbidden
  ready : 63 ∈ bits fields.controlFlags
  issuedTokenFresh : FreshAt currentSlot fields.issuedTokenObservedAtSlot
    fields.issuedTokenMaximumAgeSlots
  issuedToken : Disjoint (bits fields.activeIssuedExtensions) (bits fields.pathwayIssuedForbidden)
  evidenceBound : fields.evidence.isSome = true ↔ ∃ byte ∈ fields.evidencePolicyId, byte ≠ 0
  evidenceSupported : ∀ evidence, fields.evidence = some evidence → evidence.Supported

/-! ## One gate at a time -/

theorem assetModeIssues_eq_nil (action : SettlementAction) (assetMode : Int) :
    assetModeIssues action assetMode = [] ↔ ModePermits action assetMode := by
  cases action with
  | mint => simp [assetModeIssues, ModePermits]
  | redeem =>
    simp only [assetModeIssues, ModePermits, List.append_eq_nil_iff, issueWhen_eq_nil]
    tauto

theorem validateExtensionFreshness_eq_nil (label : String)
    (observedAtSlot maximumAgeSlots currentSlot : Int) :
    validateExtensionFreshness label observedAtSlot maximumAgeSlots currentSlot = [] ↔
      FreshAt currentSlot observedAtSlot maximumAgeSlots := by
  unfold validateExtensionFreshness FreshAt
  by_cases hfuture : currentSlot < observedAtSlot
  · rw [if_pos hfuture]
    exact iff_of_false (by simp) fun h => absurd h.1 (by omega)
  · rw [if_neg hfuture, issueWhen_eq_nil]
    constructor
    · intro h
      exact ⟨by omega, fun hmaximum => not_lt.1 fun hold => h ⟨hmaximum, hold⟩⟩
    · rintro ⟨_, hage⟩ ⟨hmaximum, hold⟩
      exact absurd (hage hmaximum) (by omega)

theorem collateralWordIssue_eq_none (observed approved assetForbidden pathwayForbidden
    protocolForbidden : Nat) :
    collateralWordIssue observed approved assetForbidden pathwayForbidden protocolForbidden =
        none ↔
      bits observed ⊆ bits approved ∧ Disjoint (bits observed) (bits assetForbidden) ∧
        Disjoint (bits observed) (bits protocolForbidden) ∧
        Disjoint (bits observed) (bits pathwayForbidden) := by
  have happroved : bitsOutside (observed : Int) approved = 0 ↔ bits observed ⊆ bits approved :=
    bits_subset_iff.symm
  have hforbidden : observed &&& (assetForbidden ||| protocolForbidden) = 0 ↔
      Disjoint (bits observed) (bits assetForbidden) ∧
        Disjoint (bits observed) (bits protocolForbidden) := by
    rw [← disjoint_bits_iff, disjoint_bits_or]
  have hpathway : observed &&& pathwayForbidden = 0 ↔
      Disjoint (bits observed) (bits pathwayForbidden) := disjoint_bits_iff.symm
  unfold collateralWordIssue
  simp only [Int.toNat_natCast]
  by_cases h : bitsOutside (observed : Int) approved = 0
  · rw [if_neg (not_not.2 h)]
    by_cases h' : observed &&& (assetForbidden ||| protocolForbidden) = 0
    · rw [if_neg (not_not.2 h')]
      by_cases h'' : observed &&& pathwayForbidden = 0
      · rw [if_neg (not_not.2 h'')]
        exact iff_of_true rfl ⟨happroved.1 h, (hforbidden.1 h').1, (hforbidden.1 h').2,
          hpathway.1 h''⟩
      · rw [if_pos h'']
        exact iff_of_false (by simp) fun hopen => h'' (hpathway.2 hopen.2.2.2)
    · rw [if_pos h']
      exact iff_of_false (by simp) fun hopen => h' (hforbidden.2 ⟨hopen.2.1, hopen.2.2.1⟩)
  · rw [if_pos h]
    exact iff_of_false (by simp) fun hopen => h (happroved.2 hopen.1)

/-- The words are checked one after the other, up to the first issue. -/
theorem collateralExtensionIssues_eq_nil (observed approved assetForbidden pathwayForbidden :
    Nat × Nat) (hobserved : observed.1 < 2 ^ 64) (happroved : approved.1 < 2 ^ 64)
    (hassetForbidden : assetForbidden.1 < 2 ^ 64)
    (hpathwayForbidden : pathwayForbidden.1 < 2 ^ 64) :
    collateralExtensionIssues [(observed.1 : Int), (observed.2 : Int)]
        [(approved.1 : Int), (approved.2 : Int)]
        [(assetForbidden.1 : Int), (assetForbidden.2 : Int)]
        [(pathwayForbidden.1 : Int), (pathwayForbidden.2 : Int)] = [] ↔
      CollateralOpen (ofWords observed.1 observed.2) (ofWords approved.1 approved.2)
        (ofWords assetForbidden.1 assetForbidden.2)
        (ofWords pathwayForbidden.1 pathwayForbidden.2) := by
  have hhook : collateralTransferHookExtension < 2 ^ 64 := by decide
  have hprotocol : Disjoint (bits (ofWords observed.1 observed.2))
      (bits collateralTransferHookExtension) ↔
        Disjoint (bits observed.1) (bits collateralTransferHookExtension) ∧
          Disjoint (bits observed.2) (bits 0) := by
    rw [← disjoint_bits_ofWords hobserved hhook, ofWords_zero]
  have hwords : collateralExtensionIssues [(observed.1 : Int), (observed.2 : Int)]
        [(approved.1 : Int), (approved.2 : Int)]
        [(assetForbidden.1 : Int), (assetForbidden.2 : Int)]
        [(pathwayForbidden.1 : Int), (pathwayForbidden.2 : Int)] = [] ↔
      collateralWordIssue observed.1 approved.1 assetForbidden.1 pathwayForbidden.1
          collateralTransferHookExtension = none ∧
        collateralWordIssue observed.2 approved.2 assetForbidden.2 pathwayForbidden.2 0 =
          none := by
    unfold collateralExtensionIssues
    rw [Option.toList_eq_nil_iff, List.findSome?_eq_none_iff]
    constructor
    · intro h
      exact ⟨h 0 (by simp), h 1 (by simp)⟩
    · rintro ⟨hlow, hhigh⟩ index hindex
      have hcases : index = 0 ∨ index = 1 := by
        have := List.mem_range.1 hindex
        omega
      rcases hcases with rfl | rfl
      · exact hlow
      · exact hhigh
  rw [hwords, collateralWordIssue_eq_none, collateralWordIssue_eq_none, CollateralOpen,
    bits_ofWords_subset hobserved happroved, disjoint_bits_ofWords hobserved hassetForbidden,
    hprotocol, disjoint_bits_ofWords hobserved hpathwayForbidden]
  tauto

/-! ## The validators -/

section

variable {client : ChanceryClient} {fields : GateFields}
  {moduleActivation asset issuedTokenControl pathway : StructValues}
  {evidencePolicy : Option StructValues}

theorem validateCollateralExtensions_eq
    (h : fields.ReadFrom client.language moduleActivation asset issuedTokenControl pathway
      evidencePolicy) :
    ∃ issues, validateCollateralExtensions client asset pathway = .ok issues ∧
      (issues = [] ↔ CollateralOpen fields.observedCollateral fields.approvedCollateral
        fields.assetForbidden fields.pathwayCollateralForbidden) := by
  obtain ⟨observedLow, observedHigh, hobservedLt, _, hobservedMask, hobserved⟩ :=
    h.observedCollateral
  obtain ⟨approvedLow, approvedHigh, happrovedLt, _, happrovedMask, happroved⟩ :=
    h.approvedCollateral
  obtain ⟨forbiddenLow, forbiddenHigh, hforbiddenLt, _, hforbiddenMask, hforbidden⟩ :=
    h.assetForbidden
  obtain ⟨pathwayLow, pathwayHigh, hpathwayLt, _, hpathwayMask, hpathway⟩ := h.pathwayCollateral
  refine ⟨_, Except.bind_eq_ok.2 ⟨_, hobserved, Except.bind_eq_ok.2 ⟨_, happroved,
    Except.bind_eq_ok.2 ⟨_, hforbidden, Except.bind_eq_ok.2 ⟨_, hpathway, rfl⟩⟩⟩⟩, ?_⟩
  rw [hobservedMask, happrovedMask, hforbiddenMask, hpathwayMask]
  exact collateralExtensionIssues_eq_nil (observedLow, observedHigh) (approvedLow, approvedHigh)
    (forbiddenLow, forbiddenHigh) (pathwayLow, pathwayHigh) hobservedLt happrovedLt hforbiddenLt
    hpathwayLt

theorem hasBits_ready (flags : Int) :
    hasBits flags issuedTokenReadyForSettlement = true ↔ 63 ∈ bits flags.toNat := by
  rw [mem_bits_iff_and]
  exact bne_iff_ne

/-- The issued token's words conflict exactly when its masks do. -/
theorem issuedConflict_eq_false (active forbidden : Nat × Nat) (hactive : active.1 < 2 ^ 64)
    (hforbidden : forbidden.1 < 2 ^ 64) :
    ((List.range 2).any fun index =>
        ([(active.1 : Int), (active.2 : Int)].getD index 0).toNat &&&
          ([(forbidden.1 : Int), (forbidden.2 : Int)].getD index 0).toNat != 0) = false ↔
      Disjoint (bits (ofWords active.1 active.2)) (bits (ofWords forbidden.1 forbidden.2)) := by
  rw [disjoint_bits_ofWords hactive hforbidden, disjoint_bits_iff, disjoint_bits_iff]
  show ((active.1 &&& forbidden.1 != 0) || ((active.2 &&& forbidden.2 != 0) || false)) = false ↔ _
  simp

theorem validateIssuedToken_eq
    (h : fields.ReadFrom client.language moduleActivation asset issuedTokenControl pathway
      evidencePolicy) (currentSlot : Int) :
    ∃ issues, validateIssuedToken client currentSlot issuedTokenControl pathway = .ok issues ∧
      (issues = [] ↔ 63 ∈ bits fields.controlFlags ∧
        FreshAt currentSlot fields.issuedTokenObservedAtSlot fields.issuedTokenMaximumAgeSlots ∧
        Disjoint (bits fields.activeIssuedExtensions) (bits fields.pathwayIssuedForbidden)) := by
  obtain ⟨activeLow, activeHigh, hactiveLt, _, hactiveMask, hactive⟩ := h.activeIssued
  obtain ⟨forbiddenLow, forbiddenHigh, hforbiddenLt, _, hforbiddenMask, hforbidden⟩ :=
    h.pathwayIssued
  have hfreshness : storedFreshness client "Issued token" issuedTokenControl currentSlot = .ok _ :=
    Except.bind_eq_ok.2 ⟨_, h.issuedTokenObservedAt, Except.bind_eq_ok.2
      ⟨_, h.issuedTokenMaximumAge, rfl⟩⟩
  refine ⟨_, Except.bind_eq_ok.2 ⟨_, h.controlFlags, Except.bind_eq_ok.2 ⟨_, hfreshness,
    Except.bind_eq_ok.2 ⟨_, hactive, Except.bind_eq_ok.2 ⟨_, hforbidden, rfl⟩⟩⟩⟩, ?_⟩
  have hconflict := issuedConflict_eq_false (activeLow, activeHigh) (forbiddenLow, forbiddenHigh)
    hactiveLt hforbiddenLt
  rw [List.append_eq_nil_iff, List.append_eq_nil_iff, issueWhen_eq_nil, issueWhen_eq_nil,
    validateExtensionFreshness_eq_nil, hactiveMask, hforbiddenMask, ← hconflict]
  simp only [Bool.not_eq_true', Bool.not_eq_false, Bool.not_eq_true, hasBits_ready,
    Int.toNat_natCast]
  exact and_assoc

theorem anyHolds_ok (conditions : List Bool) :
    anyHolds (conditions.map .ok) = .ok (conditions.any id) := by
  induction conditions with
  | nil => rfl
  | cons condition conditions ih =>
    cases condition with
    | true => rfl
    | false => exact ih

theorem all_zero_eq_true (bytes : Bytes) :
    bytes.all (· == 0) = true ↔ ∀ byte ∈ bytes, byte = 0 := by
  simp

theorem evidencePolicyIssues_eq {evidence : EvidenceFields} {values : StructValues}
    (h : evidence.ReadFrom client.language values) :
    ∃ issues, evidencePolicyIssues client values = .ok issues ∧
      (issues = [] ↔ evidence.Supported) := by
  obtain ⟨low, high, hlow, hhigh, hmask, hread⟩ := h.requiredFieldMask
  have hunsupported : evidencePolicyUnsupported client values
      evidence.counterpartyReportingSchemaHash =
        anyHolds ([evidence.allowFreeformCounterpartyFields != 0,
          !(evidence.counterpartyReportingSchemaHash.all (· == 0)),
          evidence.maximumFreeformFieldCount != 0, evidence.maximumFreeformValueBytes != 0,
          evidence.retentionFlags != 0].map .ok) := by
    unfold evidencePolicyUnsupported numberIsNonzero bigIntIsNonzero
    dsimp only
    rw [h.allowFreeform, h.maximumFieldCount, h.maximumValueBytes, h.retentionFlags]
    rfl
  rw [anyHolds_ok] at hunsupported
  refine ⟨_, Except.bind_eq_ok.2 ⟨_, hread, Except.bind_eq_ok.2 ⟨_, h.schemaHash,
    Except.bind_eq_ok.2 ⟨_, hunsupported, rfl⟩⟩⟩, ?_⟩
  have hrequired : bits evidence.requiredFieldMask ⊆ bits settlementEvidenceSupportedFieldMask ↔
      bitsOutside (low : Int) settlementEvidenceSupportedFieldMask = 0 ∧ high = 0 := by
    rw [hmask, ← ofWords_zero settlementEvidenceSupportedFieldMask,
      bits_ofWords_subset hlow (by decide), bits_subset_iff, bits_subset_iff]
    simp [bitsOutside]
  rw [List.append_eq_nil_iff, issueWhen_eq_nil, issueWhen_eq_nil]
  have hmaskOk : ¬ (([(low : Int), (high : Int)].getD 1 0 ≠ 0) ∨
      bitsOutside ([(low : Int), (high : Int)].getD 0 0) settlementEvidenceSupportedFieldMask ≠ 0) ↔
      bits evidence.requiredFieldMask ⊆ bits settlementEvidenceSupportedFieldMask := by
    rw [hrequired, not_or, not_not, not_not]
    show (high : Int) = 0 ∧ bitsOutside (low : Int) _ = 0 ↔ _
    rw [Int.natCast_eq_zero]
    exact and_comm
  have hconfiguration : ¬ ([evidence.allowFreeformCounterpartyFields != 0,
        !(evidence.counterpartyReportingSchemaHash.all (· == 0)),
        evidence.maximumFreeformFieldCount != 0, evidence.maximumFreeformValueBytes != 0,
        evidence.retentionFlags != 0].any id = true) ↔
      evidence.allowFreeformCounterpartyFields = 0 ∧
        (∀ byte ∈ evidence.counterpartyReportingSchemaHash, byte = 0) ∧
        evidence.maximumFreeformFieldCount = 0 ∧ evidence.maximumFreeformValueBytes = 0 ∧
        evidence.retentionFlags = 0 := by
    rw [← all_zero_eq_true]
    simp
  rw [hmaskOk, hconfiguration]
  constructor
  · rintro ⟨hfields, hfreeform, hschema, hcount, hbytes, hretention⟩
    exact ⟨hfields, hfreeform, hschema, hcount, hbytes, hretention⟩
  · intro h
    exact ⟨h.requiredFields, h.noFreeform, h.noSchema, h.noFieldCount, h.noValueBytes,
      h.noRetention⟩

theorem validateEvidencePolicy_eq
    (h : fields.ReadFrom client.language moduleActivation asset issuedTokenControl pathway
      evidencePolicy) :
    ∃ issues, validateEvidencePolicy client pathway evidencePolicy = .ok issues ∧
      (issues = [] ↔
        (fields.evidence.isSome = true ↔ ∃ byte ∈ fields.evidencePolicyId, byte ≠ 0) ∧
        ∀ evidence, fields.evidence = some evidence → evidence.Supported) := by
  have hbound : fields.evidencePolicyId.all (· == 0) = true ↔
      ¬ ∃ byte ∈ fields.evidencePolicyId, byte ≠ 0 := by
    rw [all_zero_eq_true]
    simp
  have hread := h.evidence
  unfold validateEvidencePolicy
  rw [Except.bind_of_ok h.evidencePolicyId]
  cases hevidence : fields.evidence with
  | none =>
    rw [hevidence] at hread
    cases evidencePolicy with
    | some values => exact hread.elim
    | none =>
      refine ⟨_, rfl, ?_⟩
      rw [issueWhen_eq_nil, Bool.not_eq_true', Bool.not_eq_false, hbound]
      simp
  | some evidence =>
    rw [hevidence] at hread
    cases evidencePolicy with
    | none => exact hread.elim
    | some values =>
      obtain ⟨issues, hissues, hiff⟩ := evidencePolicyIssues_eq hread
      refine ⟨_, Except.bind_eq_ok.2 ⟨_, hissues, rfl⟩, ?_⟩
      rw [List.append_eq_nil_iff, hiff, issueWhen_eq_nil, Bool.not_not, hbound, not_not]
      simp

/-- What is read decides the issues. -/
theorem validateCoreSettlementGates_eq
    (h : fields.ReadFrom client.language moduleActivation asset issuedTokenControl pathway
      evidencePolicy) (action : SettlementAction) (currentSlot : Int) :
    ∃ issues, validateCoreSettlementGates client action currentSlot moduleActivation asset
        issuedTokenControl pathway evidencePolicy = .ok issues ∧
      (issues = [] ↔ fields.Open action currentSlot) := by
  obtain ⟨statuses, hstatuses, hstatus⟩ := h.moduleStatus
  have hfreshness : storedFreshness client "Asset" asset currentSlot = .ok _ :=
    Except.bind_eq_ok.2 ⟨_, h.assetObservedAt, Except.bind_eq_ok.2 ⟨_, h.assetMaximumAge, rfl⟩⟩
  obtain ⟨collateral, hcollateral, hcollateralIff⟩ := validateCollateralExtensions_eq h
  obtain ⟨issuedToken, hissuedToken, hissuedTokenIff⟩ := validateIssuedToken_eq h currentSlot
  obtain ⟨evidence, hevidence, hevidenceIff⟩ := validateEvidencePolicy_eq h
  refine ⟨_, Except.bind_eq_ok.2 ⟨_, hstatuses, Except.bind_eq_ok.2 ⟨_, h.assetMode,
    Except.bind_eq_ok.2 ⟨_, hfreshness, Except.bind_eq_ok.2 ⟨_, hcollateral,
      Except.bind_eq_ok.2 ⟨_, hissuedToken, Except.bind_eq_ok.2 ⟨_, hevidence, rfl⟩⟩⟩⟩⟩⟩, ?_⟩
  simp only [List.append_eq_nil_iff, issueWhen_eq_nil, not_not, assetModeIssues_eq_nil,
    validateExtensionFreshness_eq_nil, hcollateralIff, hissuedTokenIff, hevidenceIff, ← hstatus]
  constructor
  · rintro ⟨⟨⟨⟨⟨hactive, hmode⟩, hfresh⟩, hopen⟩, hready, hissuedFresh, hissued⟩, hbound,
      hsupported⟩
    exact ⟨hactive, hmode, hfresh, hopen, hready, hissuedFresh, hissued, hbound, hsupported⟩
  · intro hopen
    exact ⟨⟨⟨⟨⟨hopen.moduleActive, hopen.mode⟩, hopen.assetFresh⟩, hopen.collateral⟩,
      hopen.ready, hopen.issuedTokenFresh, hopen.issuedToken⟩, hopen.evidenceBound,
      hopen.evidenceSupported⟩

end

/-! ## Decoded accounts -/

theorem DecodedRecord.mask {accountName : String} (record : DecodedRecord accountName)
    (fieldName : String)
    (htype : fieldType accountName fieldName = some (.array (.primitive .u64) 2)) :
    ∃ mask, mask < 2 ^ 128 ∧ ∀ L, ReadsMask L (record.values L) fieldName mask := by
  obtain ⟨words, hlength, hlt, hread⟩ := read_words fieldName (record.decodedAs .typescript) htype
  obtain ⟨low, high, rfl⟩ : ∃ low high, words = [low, high] := List.length_eq_two.1 hlength
  have hlow : low < 2 ^ 64 := hlt low (by simp)
  have hhigh : high < 2 ^ 64 := hlt high (by simp)
  refine ⟨ofWords low high, ?_, fun L => ⟨low, high, hlow, hhigh, rfl, ?_⟩⟩
  · exact ofWords_lt hlow hhigh
  · rw [record.values_eq L, hread L]
    rfl

theorem evidenceFields_of_record (policy : DecodedRecord "EvidencePolicy") :
    ∃ fields : EvidenceFields, ∀ L, fields.ReadFrom L (policy.values L) := by
  obtain ⟨mask, -, hmask⟩ := policy.mask "required_field_mask" rfl
  obtain ⟨freeform, -, hfreeform⟩ := policy.number "allow_freeform_counterparty_fields" rfl rfl
  obtain ⟨schemaHash, -, hschemaHash⟩ := policy.bytes "counterparty_reporting_schema_hash" rfl
  obtain ⟨count, -, hcount⟩ := policy.number "maximum_freeform_field_count" rfl rfl
  obtain ⟨valueBytes, -, hvalueBytes⟩ := policy.number "maximum_freeform_value_bytes" rfl rfl
  obtain ⟨retention, hretention⟩ := policy.unsigned "retention_flags" rfl
  exact ⟨⟨mask, freeform, schemaHash, count, valueBytes, retention⟩, fun L =>
    ⟨hmask L, hfreeform L, hschemaHash L _, hcount L, hvalueBytes L, hretention L⟩⟩

theorem evidence_of_record (policy : Option (DecodedRecord "EvidencePolicy")) :
    ∃ fields : Option EvidenceFields, ∀ L,
      EvidenceReadFrom fields L (policy.map (·.values L)) := by
  cases policy with
  | none => exact ⟨none, fun _ => trivial⟩
  | some policy =>
    obtain ⟨fields, hread⟩ := evidenceFields_of_record policy
    exact ⟨some fields, hread⟩

theorem gateFields_of_records (moduleActivation : DecodedRecord "ModuleActivationState")
    (asset : DecodedRecord "AssetConfig")
    (issuedTokenControl : DecodedRecord "IssuedTokenControl")
    (pathway : DecodedRecord "PathwayPolicy")
    (evidencePolicy : Option (DecodedRecord "EvidencePolicy")) :
    ∃ fields : GateFields, ∀ L, fields.ReadFrom L (moduleActivation.values L) (asset.values L)
      (issuedTokenControl.values L) (pathway.values L) (evidencePolicy.map (·.values L)) := by
  obtain ⟨statuses, -, hstatuses⟩ := moduleActivation.bytes "module_statuses" rfl
  obtain ⟨mode, -, hmode⟩ := asset.number "mode" rfl rfl
  obtain ⟨assetAt, hassetAt⟩ := asset.unsigned "extension_observed_at_slot" rfl
  obtain ⟨assetAge, hassetAge⟩ := asset.unsigned "max_extension_observation_age_slots" rfl
  obtain ⟨observed, -, hobserved⟩ := asset.mask "observed_extension_mask" rfl
  obtain ⟨approved, -, happroved⟩ := asset.mask "approved_extension_mask" rfl
  obtain ⟨forbidden, -, hforbidden⟩ := asset.mask "forbidden_extension_mask" rfl
  obtain ⟨collateral, -, hcollateral⟩ := pathway.mask "forbidden_collateral_extension_mask" rfl
  obtain ⟨flags, hflags⟩ := issuedTokenControl.unsigned "control_flags" rfl
  obtain ⟨issuedAt, hissuedAt⟩ := issuedTokenControl.unsigned "extension_observed_at_slot" rfl
  obtain ⟨issuedAge, hissuedAge⟩ :=
    issuedTokenControl.unsigned "max_extension_observation_age_slots" rfl
  obtain ⟨active, -, hactive⟩ := issuedTokenControl.mask "active_mint_extension_mask" rfl
  obtain ⟨issued, -, hissued⟩ := pathway.mask "forbidden_issued_token_extension_mask" rfl
  obtain ⟨policyId, -, hpolicyId⟩ := pathway.bytes "evidence_policy_id" rfl
  obtain ⟨evidence, hevidence⟩ := evidence_of_record evidencePolicy
  exact ⟨⟨statuses.getD settlementModuleId 0, mode, assetAt, assetAge, observed, approved,
      forbidden, collateral, flags, issuedAt, issuedAge, active, issued, policyId, evidence⟩,
    fun L => ⟨⟨statuses, hstatuses L _, rfl⟩, hmode L, hassetAt L, hassetAge L, hobserved L,
      happroved L, hforbidden L, hcollateral L, hflags L, hissuedAt L, hissuedAge L, hactive L,
      hissued L, hpolicyId L _, hevidence L⟩⟩

/-- **The gates are exact**: decoded accounts raise no issue exactly when all gates are open, for
every action and slot, with an evidence policy or without one. -/
theorem coreSettlementGates_exact (client : ChanceryClient) (action : SettlementAction)
    (currentSlot : Int) (moduleActivation : DecodedRecord "ModuleActivationState")
    (asset : DecodedRecord "AssetConfig")
    (issuedTokenControl : DecodedRecord "IssuedTokenControl")
    (pathway : DecodedRecord "PathwayPolicy")
    (evidencePolicy : Option (DecodedRecord "EvidencePolicy")) :
    ∃ fields : GateFields, fields.ReadFrom client.language (moduleActivation.values client.language)
        (asset.values client.language) (issuedTokenControl.values client.language)
        (pathway.values client.language) (evidencePolicy.map (·.values client.language)) ∧
      ∃ issues, validateCoreSettlementGates client action currentSlot
          (moduleActivation.values client.language) (asset.values client.language)
          (issuedTokenControl.values client.language) (pathway.values client.language)
          (evidencePolicy.map (·.values client.language)) = .ok issues ∧
        (issues = [] ↔ fields.Open action currentSlot) := by
  obtain ⟨fields, hread⟩ :=
    gateFields_of_records moduleActivation asset issuedTokenControl pathway evidencePolicy
  exact ⟨fields, hread client.language,
    validateCoreSettlementGates_eq (hread client.language) action currentSlot⟩

end Chancery
