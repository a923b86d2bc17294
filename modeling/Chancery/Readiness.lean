import Chancery.InspectionLaws
import Chancery.Chain

/-!
# What a ready inspection promises

* `readyOutput_positive_iff` — when a ready inspection pays out at all.
* `readyMinimum_iff` — when a ready inspection covers the minimum of its settlement intent.
-/

set_option autoImplicit false

namespace Chancery

variable {client : ChanceryClient}

theorem resolvePolicies_feePolicy {request : NormalizedSettlementOperationRequest}
    {currentSlot : Nat} {core : CoreResolution} {pathwayValues : StructValues}
    {policies : PolicyBindings}
    (h : (resolvePolicies client request currentSlot core pathwayValues).Yields (.ok policies)) :
    policies.feePolicy.values.isSome = policies.feePolicy.snapshot.isSome := by
  simp only [resolvePolicies, Interaction.yields_bind] at h
  obtain ⟨feePolicy, hfee, _, -, _, -, _, -, _, -, _, -, _, -, _, -, h⟩ := h
  cases Interaction.yields_done.1 h
  exact resolvePolicyFromIdentifier_values hfee

/-! ## A positive output -/

theorem divide_pos_iff {L : Language} {n d : Int} (hd : 0 < d) : 0 < L.divide n d ↔ d ≤ n := by
  rcases lt_or_ge n 0 with hn | hn
  · have hle : L.divide n d ≤ 0 := by
      cases L with
      | typescript => exact (Int.tdiv_le_tdiv hd hn.le).trans (Int.zero_tdiv d).le
      | python =>
        show n.fdiv d ≤ 0
        rw [Int.fdiv_eq_ediv_of_nonneg n hd.le]
        exact (Int.ediv_neg_of_neg_of_pos hn hd).le
    omega
  · rw [Language.divide_eq hn hd.le, ← Int.add_one_le_iff, zero_add, Int.le_ediv_iff_mul_le hd,
      one_mul]

theorem computeSettlementGrossOutput_pos_iff {L : Language} {action : SettlementAction}
    {inputAmount grossOutput : Int} {assetValues : StructValues}
    (h : computeSettlementGrossOutput L action inputAmount assetValues = .ok grossOutput) :
    ∃ rate, requireBigIntField L assetValues (rateField action) = .ok rate ∧
      (0 < grossOutput ↔ ratePrecisionE9 ≤ inputAmount * rate) := by
  unfold computeSettlementGrossOutput at h
  split at h
  · cases h
  · obtain ⟨rate, hrate, h⟩ := Except.bind_eq_ok.1 h
    cases h
    exact ⟨rate, hrate, divide_pos_iff (by decide)⟩

/-- Without a fee policy the net output is the gross output, whatever that is; with one a net
output of zero is reported. -/
theorem computeFeeQuote_netOutput_pos {L : Language} {action : SettlementAction}
    {grossInput grossOutput : Int} {feePolicyValues : Option StructValues}
    {nowUnixTimestamp : Int} {quote : FeeQuote}
    (h : computeFeeQuote L action grossInput grossOutput feePolicyValues nowUnixTimestamp =
      .ok quote) (hobservations : quote.observations = []) :
    0 < quote.netOutput ↔ feePolicyValues.isSome = true ∨ 0 < grossOutput := by
  obtain ⟨-, hunbound, hbound⟩ := computeFeeQuote_ok h
  cases feePolicyValues with
  | none =>
    rw [(hunbound rfl).1]
    simp
  | some values =>
    obtain ⟨hnonneg, hzero⟩ := hbound (by simp)
    have hne : quote.netOutput ≠ 0 := by
      intro heq
      have hmem := hzero heq
      rw [hobservations] at hmem
      cases hmem
    simp only [Option.isSome_some, true_or, iff_true]
    omega

/-- What of the input the configured rate is applied to: on a mint, what the transfer into the
reserve leaves of it. -/
def creditedInput (L : Language) (inspection : SettlementInspection) : Except String Int := do
  let input ← inputTransfer L inspection.request.action inspection.amounts.inputAmount
    (inspection.tokenMints.asset.values.bind (·.transferFeeConfig)) inspection.observation.epoch
  return rateInput inspection.request.action inspection.amounts.inputAmount input

/-- Is the credited input worth one unit at the configured rate? -/
def CoversOneUnit (L : Language) (inspection : SettlementInspection) : Prop :=
  ∃ assetValues rate credited, inspection.coreAccounts.assetConfig.values = some assetValues ∧
    requireBigIntField L assetValues (rateField inspection.request.action) = .ok rate ∧
    creditedInput L inspection = .ok credited ∧ ratePrecisionE9 ≤ credited * rate

theorem resolution_output_pos_iff {requestInput : SettlementOperationRequest} {clock : RpcClock}
    {resolution : SettlementResolution} {inspection : SettlementInspection}
    (hresolved : Resolved client requestInput clock resolution)
    (hassemble : assembleInspection resolution = .ok inspection)
    (hissues : resolution.quote.issues = []) :
    0 < inspection.effectiveQuote.outputBeforePrincipalTransfer ↔
      inspection.policies.feePolicy.isSome = true ∨ CoversOneUnit client.language inspection := by
  obtain ⟨instructionArguments, instructionAccounts, -, -, rfl⟩ := assembleInspection_ok.1 hassemble
  obtain ⟨hquote, -, amountIssues, -, hquoteIssues⟩ := resolveQuote_ok hresolved.quote
  obtain ⟨input, grossOutput, hinput, hgross, hfee, houtput, -, -⟩ :=
    computeSettlementEffectiveQuote_ok hquote
  have hobservations : resolution.quote.quote.feeQuote.observations = [] := by
    rw [hquoteIssues] at hissues
    exact (List.append_eq_nil_iff.1 hissues).2
  have hpolicy := resolvePolicies_feePolicy hresolved.policies
  obtain ⟨rate, hrate, hpositive⟩ := computeSettlementGrossOutput_pos_iff hgross
  have hasset := resolveCore_assetValues hresolved.core
  have hcredited : creditedInput client.language
      (inspectionOf resolution instructionArguments instructionAccounts) =
        .ok (rateInput resolution.request.action resolution.identity.inputAmount input) :=
    Except.bind_eq_ok.2 ⟨input, hinput, rfl⟩
  show 0 < resolution.quote.quote.effectiveQuote.outputBeforePrincipalTransfer ↔ _
  rw [houtput, computeFeeQuote_netOutput_pos hfee hobservations, hpolicy, hpositive]
  refine or_congr Iff.rfl ⟨fun hunit => ⟨_, rate, _, hasset, hrate, hcredited, hunit⟩, ?_⟩
  rintro ⟨assetValues, rate', credited, hasset', hrate', hcredited', hunit⟩
  cases hasset.symm.trans hasset'
  cases hrate.symm.trans hrate'
  cases hcredited.symm.trans hcredited'
  exact hunit

/-- **When a ready inspection pays out**: with a fee policy always, else when the credited input
is worth a unit. -/
theorem readyOutput_positive_iff (client : ChanceryClient)
    (requestInput : SettlementOperationRequest) (inspection : SettlementInspection)
    (h : (inspect client requestInput).Yields (.ok inspection)) (hready : inspection.ready = true) :
    0 < inspection.effectiveQuote.outputBeforePrincipalTransfer ↔
      inspection.policies.feePolicy.isSome = true ∨ CoversOneUnit client.language inspection := by
  obtain ⟨clock, resolution, hresolved, hassemble, hnil⟩ := ready_resolution h hready
  exact resolution_output_pos_iff hresolved hassemble (unblocked_of_nil hnil).quote

/-- One unit deposited at a rate of 10⁻⁹. -/
theorem tinyMint_run :
    ∃ inspection, (inspect (Sample.client .typescript) (Sample.directMint 1)).Yields
        (.ok inspection) ∧
      inspection.ready = true ∧ inspection.amounts.inputAmount = 1 ∧
      inspection.effectiveQuote.outputBeforePrincipalTransfer = 0 := by
  have hrun : ((inspect (Sample.client .typescript) (Sample.directMint 1)).run
      (Sample.directMarket 100 1 5).respond).toOption.any (fun inspection =>
        inspection.ready && inspection.amounts.inputAmount == 1 &&
          inspection.effectiveQuote.outputBeforePrincipalTransfer == 0) = true := by
    decide +kernel
  obtain ⟨inspection, hyields, hfacts⟩ := Interaction.yields_of_check hrun
  simp only [Bool.and_eq_true, beq_iff_eq] at hfacts
  exact ⟨inspection, hyields, hfacts.1.1, hfacts.1.2, hfacts.2⟩

theorem readyOutput_positive_iff_tinyMint :
    ∃ inspection, (inspect (Sample.client .typescript) (Sample.directMint 1)).Yields
        (.ok inspection) ∧ inspection.ready = true ∧
      (0 < inspection.effectiveQuote.outputBeforePrincipalTransfer ↔
        inspection.policies.feePolicy.isSome = true ∨ CoversOneUnit .typescript inspection) := by
  obtain ⟨inspection, hyields, hready, -, -⟩ := tinyMint_run
  exact ⟨inspection, hyields, hready, readyOutput_positive_iff _ _ inspection hyields hready⟩

/-- A ready inspection that gives up an input for nothing. -/
theorem tinyMint_pays_nothing :
    ∃ inspection, (inspect (Sample.client .typescript) (Sample.directMint 1)).Yields
        (.ok inspection) ∧ inspection.ready = true ∧ 0 < inspection.amounts.inputAmount ∧
      ¬ 0 < inspection.effectiveQuote.outputBeforePrincipalTransfer := by
  obtain ⟨inspection, hyields, hready, hinput, houtput⟩ := tinyMint_run
  exact ⟨inspection, hyields, hready, by omega, by omega⟩

/-! ## The minimum of a settlement intent -/

/-- The predicted receipt and the reported minimum both reach an amount. -/
def ReachesMinimum (inspection : SettlementInspection) (minimum : Int) : Prop :=
  minimum ≤ inspection.effectiveQuote.principalReceivedAmount ∧
    minimum ≤ inspection.amounts.minimumOutput

/-- **When a ready inspection covers the minimum of its settlement intent**: the request names
no minimum of its own, or none below. -/
theorem readyMinimum_iff (client : ChanceryClient) (requestInput : SettlementOperationRequest)
    (inspection : SettlementInspection)
    (h : (inspect client requestInput).Yields (.ok inspection)) (hready : inspection.ready = true)
    (hmode : inspection.request.mode ≠ .direct) :
    ∃ intent intentValues minimum, inspection.intent = some intent ∧
      intent.values = some intentValues ∧
      requireBigIntField client.language intentValues
        (intentMinimumField inspection.request.action) = .ok minimum ∧
      (ReachesMinimum inspection minimum ↔
        ∀ requested ∈ inspection.request.minimumOutput, minimum ≤ requested) := by
  obtain ⟨clock, resolution, hresolved, hassemble, hnil⟩ := ready_resolution h hready
  obtain ⟨instructionArguments, instructionAccounts, -, -, rfl⟩ := assembleInspection_ok.1 hassemble
  obtain ⟨intent, intentValues, minimum, hfrom⟩ :=
    resolveOperationIdentity_fromIntent hmode hresolved.identity
  obtain ⟨-, hselected, amountIssues, hamount, hissues⟩ := resolveQuote_ok hresolved.quote
  have hquoteNil := (unblocked_of_nil hnil).quote
  simp only [hissues, List.append_eq_nil_iff] at hquoteNil
  rw [hquoteNil.1.2] at hamount
  have hreceived := validateAmount_ok hamount
  refine ⟨intent, intentValues, minimum, hfrom.snapshot, hfrom.values, hfrom.minimumField, ?_⟩
  show (minimum ≤ resolution.quote.quote.effectiveQuote.principalReceivedAmount ∧
    minimum ≤ resolution.quote.minimumOutput) ↔
      ∀ requested ∈ resolution.request.minimumOutput, minimum ≤ requested
  cases hrequested : resolution.request.minimumOutput with
  | none =>
    have hminimum : resolution.quote.minimumOutput = minimum := by
      rw [hselected, selectMinimumOutput, hrequested, hfrom.intentMinimumOutput]
      rfl
    simp only [Option.not_mem_none, false_implies, implies_true, iff_true]
    exact ⟨by omega, by omega⟩
  | some requested =>
    have hminimum : resolution.quote.minimumOutput = requested := by
      rw [hselected, selectMinimumOutput, hrequested]
      rfl
    simp only [Option.mem_some_iff, forall_eq']
    constructor
    · intro hreaches
      omega
    · intro hle
      exact ⟨by omega, by omega⟩

/-- The minimum that a settlement intent stores for minting. -/
def storedMintMinimum (inspection : SettlementInspection) : Option Int :=
  inspection.intent.bind fun intent => intent.values.bind fun values =>
    (requireBigIntField .typescript values (intentMinimumField .mint)).toOption

/-- A request for one unit, where the intent stores a minimum of seven and five are predicted. -/
theorem lowRequest_run :
    ∃ inspection, (inspect (Sample.client .typescript) (Sample.delegatedMint (some 1))).Yields
        (.ok inspection) ∧
      inspection.ready = true ∧ inspection.request.mode = .delegated ∧
      storedMintMinimum inspection = some 7 ∧
      inspection.effectiveQuote.principalReceivedAmount = 5 := by
  have hrun : ((inspect (Sample.client .typescript) (Sample.delegatedMint (some 1))).run
      (Sample.delegatedMarket 100 1000000000 7).respond).toOption.any (fun inspection =>
        inspection.ready && decide (inspection.request.mode = .delegated) &&
          storedMintMinimum inspection == some 7 &&
          inspection.effectiveQuote.principalReceivedAmount == 5) = true := by
    decide +kernel
  obtain ⟨inspection, hyields, hfacts⟩ := Interaction.yields_of_check hrun
  simp only [Bool.and_eq_true, beq_iff_eq, decide_eq_true_eq] at hfacts
  exact ⟨inspection, hyields, hfacts.1.1.1, hfacts.1.1.2, hfacts.1.2, hfacts.2⟩

theorem readyMinimum_iff_lowRequest :
    ∃ inspection, (inspect (Sample.client .typescript) (Sample.delegatedMint (some 1))).Yields
        (.ok inspection) ∧
      ∃ intent intentValues minimum, inspection.intent = some intent ∧
        intent.values = some intentValues ∧
        requireBigIntField .typescript intentValues
          (intentMinimumField inspection.request.action) = .ok minimum ∧
        (ReachesMinimum inspection minimum ↔
          ∀ requested ∈ inspection.request.minimumOutput, minimum ≤ requested) := by
  obtain ⟨inspection, hyields, hready, hmode, -, -⟩ := lowRequest_run
  have hdelegated : inspection.request.mode ≠ .direct := by
    rw [hmode]
    decide
  exact ⟨inspection, hyields, readyMinimum_iff _ _ inspection hyields hready hdelegated⟩

/-- A ready inspection that the minimum of its intent forbids. -/
theorem lowRequest_undercuts_intent :
    ∃ inspection, (inspect (Sample.client .typescript) (Sample.delegatedMint (some 1))).Yields
        (.ok inspection) ∧ inspection.ready = true ∧ inspection.request.mode = .delegated ∧
      storedMintMinimum inspection = some 7 ∧ ¬ ReachesMinimum inspection 7 := by
  obtain ⟨inspection, hyields, hready, hmode, hstored, hreceived⟩ := lowRequest_run
  refine ⟨inspection, hyields, hready, hmode, hstored, fun hreaches => ?_⟩
  have hle := hreaches.1
  omega

end Chancery
