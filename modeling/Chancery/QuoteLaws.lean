import Chancery.Chain
import Chancery.DecodedValues
import Chancery.Lib.UnitSlope

/-!
# Laws of quotes

What `computeSettlementEffectiveQuote` conserves, and how it grows with the input, in both
languages.

* `chargedTransferFee` — the transfer fee in closed form; `chargedTransferFee_slope`.
* `Quoted` — the parts of an effective quote.
* `effectiveQuote_conserves` — no unit is created or lost.
* `effectiveQuote_monotone` — a larger input returns no less.
-/

set_option autoImplicit false

namespace Chancery

variable {L : Language}

/-! ## Transfer fees -/

theorem transferFeeAmount_eq {amount : Int} (hamount : 0 ≤ amount)
    (activeFee : Token2022TransferFee) :
    transferFeeAmount L amount activeFee =
      min ((amount * activeFee.transferFeeBasisPoints + 9999) / 10000) activeFee.maximumFee := by
  have hnonneg : 0 ≤ amount * (activeFee.transferFeeBasisPoints : Int) :=
    mul_nonneg hamount (Int.natCast_nonneg _)
  have hceiling : (if amount = 0 ∨ activeFee.transferFeeBasisPoints = 0 then 0
      else divideCeiling L (amount * activeFee.transferFeeBasisPoints) basisPointDenominator) =
        (amount * activeFee.transferFeeBasisPoints + 9999) / 10000 := by
    split
    · rename_i hfree
      rcases hfree with hzero | hzero <;> simp [hzero]
    · rename_i hcharged
      rw [not_or] at hcharged
      have hne : amount * (activeFee.transferFeeBasisPoints : Int) ≠ 0 :=
        mul_ne_zero hcharged.1 (by exact_mod_cast hcharged.2)
      rw [divideCeiling, if_neg hne, Language.divide_eq (by simp [basisPointDenominator]; omega)
        (by decide)]
      simp only [basisPointDenominator]
      congr 1
      omega
  unfold transferFeeAmount
  dsimp only
  rw [hceiling, min_def]

/-- The fee of a transfer in an epoch. -/
def chargedTransferFee (L : Language) (config : Option Token2022TransferFeeConfig)
    (currentEpoch amount : Int) : Int :=
  match config with
  | none => 0
  | some config => transferFeeAmount L amount (if currentEpoch < config.newerTransferFee.epoch then
      config.olderTransferFee else config.newerTransferFee)

theorem chargedTransferFee_nonneg {config : Option Token2022TransferFeeConfig}
    {currentEpoch amount : Int} (hamount : 0 ≤ amount) :
    0 ≤ chargedTransferFee L config currentEpoch amount := by
  cases config with
  | none => exact le_rfl
  | some config => exact transferFeeAmount_nonneg hamount _

/-- A transfer is split into its fee and what is received. -/
theorem calculateTokenTransferFee_charges {amount currentEpoch : Int}
    {config : Option Token2022TransferFeeConfig} {transfer : TokenTransferFeeCalculation}
    (h : calculateTokenTransferFee L amount config currentEpoch = .ok transfer) :
    0 ≤ amount ∧ transfer.feeAmount = chargedTransferFee L config currentEpoch amount ∧
      transfer.receivedAmount = amount - chargedTransferFee L config currentEpoch amount ∧
      chargedTransferFee L config currentEpoch amount ≤ amount := by
  unfold calculateTokenTransferFee at h
  split at h
  · cases h
  · rename_i hamount
    have hnonneg := not_lt.1 hamount
    split at h
    · cases h
    · cases config with
      | none =>
        cases h
        exact ⟨hnonneg, rfl, (sub_zero amount).symm, hnonneg⟩
      | some config =>
        obtain ⟨activeFee, hactive, hfee⟩ := Except.bind_eq_ok.1 h
        unfold selectActiveTransferFee at hactive
        split at hactive
        · cases hactive
        · have hselected := Except.ok.inj hactive
          simp only [chargedTransferFee, hselected]
          unfold activeTransferFeeCalculation at hfee
          split at hfee
          · cases hfee
          · cases hfee
            exact ⟨hnonneg, rfl, rfl, not_lt.1 ‹_›⟩

/-- A transfer fee grows no faster than the amount, as long as the amount covers it. -/
theorem chargedTransferFee_slope {config : Option Token2022TransferFeeConfig}
    {currentEpoch a b : Int} (ha : 0 ≤ a) (hab : a ≤ b)
    (hcovered : chargedTransferFee L config currentEpoch a ≤ a)
    (hcovered' : chargedTransferFee L config currentEpoch b ≤ b) :
    chargedTransferFee L config currentEpoch b - chargedTransferFee L config currentEpoch a ≤
      b - a := by
  cases config with
  | none =>
    show (0 : Int) - 0 ≤ b - a
    omega
  | some config =>
    unfold chargedTransferFee at hcovered hcovered' ⊢
    dsimp only at hcovered hcovered' ⊢
    generalize (if currentEpoch < config.newerTransferFee.epoch then config.olderTransferFee
      else config.newerTransferFee) = activeFee at hcovered hcovered' ⊢
    rw [transferFeeAmount_eq ha] at hcovered ⊢
    rw [transferFeeAmount_eq (ha.trans hab)] at hcovered' ⊢
    by_cases hbps : (activeFee.transferFeeBasisPoints : Int) ≤ 10000
    · exact ((gentle_mul_add_ediv hbps (by decide) 9999).min (gentle_const _)) hab
    · -- A fee of more than everything is covered only at its cap, or for nothing at all.
      rcases ha.eq_or_lt with rfl | hpos
      · have hmaximum : (0 : Int) ≤ activeFee.maximumFee := Int.natCast_nonneg _
        simpa [hmaximum] using hcovered'
      · have hmul : a * 10000 + a ≤ a * activeFee.transferFeeBasisPoints := by
          have hle := mul_le_mul_of_nonneg_left (by omega :
            (10001 : Int) ≤ activeFee.transferFeeBasisPoints) ha
          linarith
        have hover : a < (a * activeFee.transferFeeBasisPoints + 9999) / 10000 := by
          rw [← Int.add_one_le_iff, Int.le_ediv_iff_mul_le (by decide)]
          omega
        have hcapped : (activeFee.maximumFee : Int) <
            (a * activeFee.transferFeeBasisPoints + 9999) / 10000 := by
          rcases min_le_iff.1 hcovered with hle | hle
          · omega
          · omega
        rw [min_eq_right hcapped.le]
        have hmin := min_le_right ((b * activeFee.transferFeeBasisPoints + 9999) / 10000)
          (activeFee.maximumFee : Int)
        omega

/-! ## The parts of a quote -/

/-- What an effective quote is computed from. -/
structure QuoteTerms where
  action : SettlementAction
  assetValues : StructValues
  assetMintValues : Option DecodedTokenMint
  feePolicyValues : Option StructValues
  nowUnixTimestamp : Int
  currentEpoch : Int

/-- The transfer fee of the asset. -/
def QuoteTerms.transferFeeConfig (terms : QuoteTerms) : Option Token2022TransferFeeConfig :=
  terms.assetMintValues.bind (·.transferFeeConfig)

/-- The quote of the terms. -/
def QuoteTerms.quote (L : Language) (terms : QuoteTerms) (requestedInputAmount : Int) :
    Except String SettlementEffectiveQuoteResolution :=
  computeSettlementEffectiveQuote L terms.action requestedInputAmount terms.assetValues
    terms.assetMintValues terms.feePolicyValues terms.nowUnixTimestamp terms.currentEpoch

/-- The configuration of the transfers that leave the program. -/
def QuoteTerms.outputConfig (terms : QuoteTerms) : Option Token2022TransferFeeConfig :=
  match terms.action with
  | .mint => none
  | .redeem => terms.transferFeeConfig

/-- The parts of a quote for an input. -/
structure Quoted (L : Language) (terms : QuoteTerms) (requested rate configured : Int)
    (input : TokenTransferFeeCalculation) (resolution : SettlementEffectiveQuoteResolution) :
    Prop where
  nonneg : 0 ≤ requested
  readsRate : requireBigIntField L terms.assetValues (rateField terms.action) = .ok rate
  quotesConfigured : computeSettlementGrossOutput L terms.action requested terms.assetValues =
    .ok configured
  transfersIn : inputTransfer L terms.action requested terms.transferFeeConfig
    terms.currentEpoch = .ok input
  quotesGross : computeSettlementGrossOutput L terms.action
    (rateInput terms.action requested input) terms.assetValues = .ok resolution.grossOutput
  quotesFee : computeFeeQuote L terms.action (rateInput terms.action requested input)
    resolution.grossOutput terms.feePolicyValues terms.nowUnixTimestamp = .ok resolution.feeQuote
  transfersOut : calculateTokenTransferFee L resolution.feeQuote.netOutput terms.outputConfig
    terms.currentEpoch = .ok resolution.effectiveQuote.principalAssetTransfer
  transfersRouted : routedTransfer L terms.action resolution.feeQuote terms.transferFeeConfig
    terms.currentEpoch = .ok resolution.effectiveQuote.routedFeeTransfer
  configuredRate : resolution.effectiveQuote.configuredRateE9 = rate
  configuredOutput :
    resolution.effectiveQuote.configuredGrossOutputFromRequestedInput = configured
  beforeTransfer :
    resolution.effectiveQuote.outputBeforePrincipalTransfer = resolution.feeQuote.netOutput
  received : resolution.effectiveQuote.principalReceivedAmount =
    resolution.effectiveQuote.principalAssetTransfer.receivedAmount
  recipientReceived : resolution.effectiveQuote.feeRecipientReceivedAmount =
    (resolution.effectiveQuote.routedFeeTransfer.map
      TokenTransferFeeCalculation.receivedAmount).getD 0
  allInFee : resolution.effectiveQuote.allInFeeBasisPoints = ratioOf L
    (max (configured - resolution.effectiveQuote.principalReceivedAmount) 0 * 10000) configured
  effectiveRate : resolution.effectiveQuote.effectiveOutputRateE9 = ratioOf L
    (resolution.effectiveQuote.principalReceivedAmount * 1000000000) requested

theorem quoted_of_ok {terms : QuoteTerms} {requested : Int}
    {resolution : SettlementEffectiveQuoteResolution}
    (h : terms.quote L requested = .ok resolution) :
    ∃ rate configured input, Quoted L terms requested rate configured input resolution := by
  unfold QuoteTerms.quote computeSettlementEffectiveQuote at h
  split at h
  · cases h
  · simp only [Except.bind_eq_ok] at h
    obtain ⟨rate, hrate, configured, hconfigured, input, hinput, gross, hgross, feeQuote, hfee,
      transfer, htransfer, routed, hrouted, hresolution⟩ := h
    cases hresolution
    have hout : calculateTokenTransferFee L feeQuote.netOutput terms.outputConfig
        terms.currentEpoch = .ok transfer := by
      cases haction : terms.action <;> rw [haction] at htransfer <;>
        simpa [outputTransfer, QuoteTerms.outputConfig, QuoteTerms.transferFeeConfig, haction]
          using htransfer
    exact ⟨rate, configured, input, not_lt.1 ‹_›, hrate, hconfigured, hinput, hgross, hfee, hout,
      hrouted, rfl, rfl, rfl, rfl, rfl, rfl, rfl⟩

/-! ## Gross outputs -/

theorem grossOutput_eq {action : SettlementAction} {inputAmount grossOutput rate : Int}
    {assetValues : StructValues}
    (hrate : requireBigIntField L assetValues (rateField action) = .ok rate) (hnonneg : 0 ≤ rate)
    (h : computeSettlementGrossOutput L action inputAmount assetValues = .ok grossOutput) :
    0 ≤ inputAmount ∧ grossOutput = inputAmount * rate / ratePrecisionE9 := by
  unfold computeSettlementGrossOutput at h
  split at h
  · cases h
  · have hinput := not_lt.1 ‹_›
    rw [hrate] at h
    cases h
    exact ⟨hinput, Language.divide_eq (mul_nonneg hinput hnonneg) (by decide)⟩

/-- What is left of the requested amount when the rate is applied. -/
def creditedAmount (L : Language) (action : SettlementAction) (requested : Int)
    (config : Option Token2022TransferFeeConfig) (currentEpoch : Int) : Int :=
  match action with
  | .mint => requested - chargedTransferFee L config currentEpoch requested
  | .redeem => requested

theorem rateInput_eq {action : SettlementAction} {requested currentEpoch : Int}
    {config : Option Token2022TransferFeeConfig} {input : TokenTransferFeeCalculation}
    (h : inputTransfer L action requested config currentEpoch = .ok input) :
    rateInput action requested input =
      creditedAmount L action requested config currentEpoch := by
  cases action with
  | mint => exact (calculateTokenTransferFee_charges h).2.2.1
  | redeem => rfl

/-- The rate is applied to no more than the input. -/
theorem rateInput_le {action : SettlementAction} {requested currentEpoch : Int}
    (hrequested : 0 ≤ requested) {config : Option Token2022TransferFeeConfig}
    {input : TokenTransferFeeCalculation}
    (h : inputTransfer L action requested config currentEpoch = .ok input) :
    rateInput action requested input ≤ requested := by
  rw [rateInput_eq h]
  cases action with
  | mint =>
    have hfee : 0 ≤ chargedTransferFee L config currentEpoch requested :=
      chargedTransferFee_nonneg hrequested
    show requested - chargedTransferFee L config currentEpoch requested ≤ requested
    omega
  | redeem => exact le_rfl

/-! ## Conservation -/

theorem computeFeeQuote_netOutput {action : SettlementAction} {grossInput grossOutput : Int}
    {values : StructValues} {nowUnixTimestamp : Int} {quote : FeeQuote}
    (h : computeFeeQuote L action grossInput grossOutput (some values) nowUnixTimestamp =
      .ok quote) :
    quote.netOutput = if quote.netFee ≤ grossOutput then grossOutput - quote.netFee else 0 := by
  simp only [computeFeeQuote, Except.bind_eq_ok] at h
  obtain ⟨flags, -, from_, -, until_, -, assessedFee, -, nominalRebate, -, floorZero, -,
    recipientPolicy, -, owner, -, hquote⟩ := h
  cases hquote
  rfl

/-- Without an observation the net fee and the net output make up the gross output. -/
theorem computeFeeQuote_conserves {action : SettlementAction} {grossInput grossOutput : Int}
    {feePolicyValues : Option StructValues} {nowUnixTimestamp : Int} {quote : FeeQuote}
    (h : computeFeeQuote L action grossInput grossOutput feePolicyValues nowUnixTimestamp =
      .ok quote) (hobservations : quote.observations = []) :
    quote.netFee + quote.netOutput = grossOutput := by
  cases feePolicyValues with
  | none =>
    cases h
    exact zero_add grossOutput
  | some values =>
    have houtput := computeFeeQuote_netOutput h
    have hreported := ((computeFeeQuote_ok h).2.2 (by simp)).2
    split at houtput
    · omega
    · have hmem := hreported houtput
      rw [hobservations] at hmem
      cases hmem

/-- What the conservation of a quote comes to. -/
structure Conserves (action : SettlementAction) (resolution : SettlementEffectiveQuoteResolution) :
    Prop where
  feeAndOutput : resolution.feeQuote.netFee + resolution.feeQuote.netOutput =
    resolution.grossOutput
  principal : resolution.effectiveQuote.principalReceivedAmount +
    resolution.effectiveQuote.principalAssetTransfer.feeAmount = resolution.feeQuote.netOutput
  routedFee : resolution.feeQuote.routed = true → ∃ transfer,
    resolution.effectiveQuote.routedFeeTransfer = some transfer ∧
      resolution.effectiveQuote.feeRecipientReceivedAmount + transfer.feeAmount =
        resolution.feeQuote.netFee
  retainedFee : resolution.feeQuote.routed = false →
    resolution.effectiveQuote.routedFeeTransfer = none ∧
      resolution.effectiveQuote.feeRecipientReceivedAmount = 0 ∧
      (action = .redeem → resolution.grossOutput - requiredReserveBalance action
        resolution.feeQuote resolution.effectiveQuote.outputBeforePrincipalTransfer =
          resolution.feeQuote.netFee)
  reserveOutflow : requiredReserveBalance action resolution.feeQuote
    resolution.effectiveQuote.outputBeforePrincipalTransfer ≤ resolution.grossOutput
  received : resolution.effectiveQuote.principalReceivedAmount ≤
    resolution.effectiveQuote.configuredGrossOutputFromRequestedInput
  allInFee : ∀ basisPoints ∈ resolution.effectiveQuote.allInFeeBasisPoints, basisPoints ≤ 10000
  effectiveRate : ∀ rate ∈ resolution.effectiveQuote.effectiveOutputRateE9,
    rate ≤ resolution.effectiveQuote.configuredRateE9

theorem routedTransfer_ok {action : SettlementAction} {feeQuote : FeeQuote}
    {config : Option Token2022TransferFeeConfig} {currentEpoch : Int}
    {routed : Option TokenTransferFeeCalculation}
    (h : routedTransfer L action feeQuote config currentEpoch = .ok routed) :
    (feeQuote.routed = true → ∃ transfer, routed = some transfer ∧
        transfer.receivedAmount + transfer.feeAmount = feeQuote.netFee) ∧
      (feeQuote.routed = false → routed = none) := by
  unfold routedTransfer at h
  split at h
  · have hrouted : feeQuote.routed = true := ‹_›
    obtain ⟨transfer, htransfer, h⟩ := Except.bind_eq_ok.1 h
    cases h
    have hcharges : ∃ config, calculateTokenTransferFee L feeQuote.netFee config currentEpoch =
        .ok transfer := by
      cases action
      · exact ⟨none, htransfer⟩
      · exact ⟨config, htransfer⟩
    obtain ⟨charged, hcharged⟩ := hcharges
    obtain ⟨-, hfee, hreceived, -⟩ := calculateTokenTransferFee_charges hcharged
    exact ⟨fun _ => ⟨transfer, rfl, by omega⟩, fun hfalse => by rw [hrouted] at hfalse; cases hfalse⟩
  · cases h
    exact ⟨fun htrue => absurd htrue ‹_›, fun _ => rfl⟩

theorem ratioOf_le {numerator denominator bound ratio : Int} (hnumerator : 0 ≤ numerator)
    (hdenominator : 0 ≤ denominator) (hbound : numerator ≤ bound * denominator)
    (h : ratio ∈ ratioOf L numerator denominator) : ratio ≤ bound := by
  unfold ratioOf at h
  split at h
  · cases h
  · have hpos : 0 < denominator := lt_of_le_of_ne hdenominator (Ne.symm ‹_›)
    cases h
    rw [Language.divide_eq hnumerator hdenominator]
    exact Int.ediv_le_of_le_mul hpos hbound

/-- The rates of a decoded configuration are unsigned. -/
theorem decodedRate_nonneg {action : SettlementAction} {assetValues : StructValues} {rate : Int}
    (hasset : DecodedAs L "AssetConfig" assetValues)
    (hrate : requireBigIntField L assetValues (rateField action) = .ok rate) : 0 ≤ rate := by
  obtain ⟨original, horiginal, rfl⟩ := decodedAs_typescript hasset
  have htype : fieldType "AssetConfig" (rateField action) = some (.primitive .u64) := by
    cases action <;> rfl
  obtain ⟨n, -, hread⟩ := read_unsigned _ horiginal htype
  rw [hread L] at hrate
  cases hrate
  exact Int.natCast_nonneg n

/-- **Value is conserved in every effective quote** without a fee observation. -/
theorem effectiveQuote_conserves (L : Language) (terms : QuoteTerms)
    (hasset : DecodedAs L "AssetConfig" terms.assetValues) (requested : Int)
    (resolution : SettlementEffectiveQuoteResolution)
    (h : terms.quote L requested = .ok resolution)
    (hobservations : resolution.feeQuote.observations = []) :
    Conserves terms.action resolution := by
  obtain ⟨rate, configured, input, hquoted⟩ := quoted_of_ok h
  have hrate := decodedRate_nonneg hasset hquoted.readsRate
  have hsum := computeFeeQuote_conserves hquoted.quotesFee hobservations
  have hnetFee := (computeFeeQuote_ok hquoted.quotesFee).1
  obtain ⟨hnet, hprincipalFee, hprincipal, hcovered⟩ :=
    calculateTokenTransferFee_charges hquoted.transfersOut
  have hprincipalNonneg : 0 ≤ chargedTransferFee L terms.outputConfig terms.currentEpoch
      resolution.feeQuote.netOutput := chargedTransferFee_nonneg hnet
  obtain ⟨hrouted, hretained⟩ := routedTransfer_ok hquoted.transfersRouted
  obtain ⟨-, hconfigured⟩ := grossOutput_eq hquoted.readsRate hrate hquoted.quotesConfigured
  obtain ⟨-, hgross⟩ := grossOutput_eq hquoted.readsRate hrate hquoted.quotesGross
  have hinput := rateInput_le hquoted.nonneg hquoted.transfersIn
  have hgrossLe : resolution.grossOutput ≤ configured := by
    rw [hgross, hconfigured]
    exact Int.ediv_le_ediv (by decide) (Int.mul_le_mul_of_nonneg_right hinput hrate)
  have hreceived := hquoted.received
  refine ⟨hsum, by omega, ?_, ?_, ?_, ?_, ?_, ?_⟩
  · intro hroute
    obtain ⟨transfer, htransfer, htransferSum⟩ := hrouted hroute
    refine ⟨transfer, htransfer, ?_⟩
    rw [hquoted.recipientReceived, htransfer]
    exact htransferSum
  · intro hroute
    have hnone := hretained hroute
    refine ⟨hnone, by rw [hquoted.recipientReceived, hnone]; rfl, ?_⟩
    intro haction
    rw [haction, requiredReserveBalance, hroute, hquoted.beforeTransfer]
    simp only [Bool.false_eq_true, if_false]
    omega
  · unfold requiredReserveBalance
    cases terms.action with
    | mint =>
      dsimp only
      omega
    | redeem =>
      dsimp only
      rw [hquoted.beforeTransfer]
      split <;> omega
  · rw [hreceived, hquoted.configuredOutput]
    omega
  · intro basisPoints hbasisPoints
    rw [hquoted.allInFee] at hbasisPoints
    have hmax : max (configured - resolution.effectiveQuote.principalReceivedAmount) 0 ≤
        configured := by
      apply max_le <;> omega
    exact ratioOf_le (by omega) (by omega) (by omega) hbasisPoints
  · intro effectiveRate heffective
    rw [hquoted.effectiveRate] at heffective
    rw [hquoted.configuredRate]
    refine ratioOf_le (by omega) hquoted.nonneg ?_ heffective
    have hunits : configured * ratePrecisionE9 ≤ requested * rate := by
      rw [hconfigured]
      exact Int.ediv_mul_le _ (by decide)
    simp only [ratePrecisionE9] at hunits
    calc resolution.effectiveQuote.principalReceivedAmount * 1000000000
        ≤ configured * 1000000000 := by omega
      _ ≤ requested * rate := hunits
      _ = rate * requested := mul_comm _ _

/-- An asset that trades at par. -/
def sampleAssetConfig : RpcAccountInfo :=
  Sample.state "AssetConfig"
    [("deposit_rate_e9", .bigint 1000000000), ("redeem_rate_e9", .bigint 1000000000)]

/-- A policy that routes its fee. -/
def sampleFeePolicy : RpcAccountInfo :=
  Sample.state "FeePolicy"
    [("fee_policy_flags", .bigint 17), ("percent_fee_bps", .number 25),
     ("rounding_mode", .number 1), ("fee_recipient_policy", .number 1)]

/-- A redemption at par of an asset that charges one percent for a transfer, under a policy
that sends 25 basis points to a fee recipient. -/
def sampleRedemption (L : Language) : QuoteTerms where
  action := .redeem
  assetValues := decodedValues L sampleAssetConfig.data
  assetMintValues := some {
    mintAuthority := none
    supply := 0
    decimals := 6
    initialized := true
    freezeAuthority := none
    baseSize := tokenMintBaseSize
    totalSize := 278
    hasExtensions := true
    accountType := some token2022MintAccountType
    extensions := []
    transferFeeConfig := some {
      transferFeeConfigAuthority := none
      withdrawWithheldAuthority := none
      withheldAmount := 0
      olderTransferFee := ⟨0, 5000, 100⟩
      newerTransferFee := ⟨9, 5000, 200⟩ }
    transferHookProgramAddress := none
    hasUnmodeledTransferBehavior := false }
  feePolicyValues := some (decodedValues L sampleFeePolicy.data)
  nowUnixTimestamp := 1000
  currentEpoch := 5

theorem sampleAssetConfig_decodes (L : Language) :
    DecodedAs L "AssetConfig" (sampleRedemption L).assetValues := by
  simp only [sampleRedemption]
  refine ⟨sampleAssetConfig.data, decodeAccount_decodedValues ?_⟩
  cases L <;> decide +kernel

theorem sampleFeePolicy_decodes (L : Language) :
    DecodedAs L "FeePolicy" (decodedValues L sampleFeePolicy.data) := by
  refine ⟨sampleFeePolicy.data, decodeAccount_decodedValues ?_⟩
  cases L <;> decide +kernel

theorem sampleRedemption_conserves : ∃ resolution,
    (sampleRedemption .typescript).quote .typescript 100001 = .ok resolution ∧
      resolution.effectiveQuote.principalReceivedAmount = 98752 ∧
      resolution.effectiveQuote.feeRecipientReceivedAmount = 248 ∧
      Conserves .redeem resolution := by
  have hpays : ((sampleRedemption .typescript).quote .typescript 100001).toOption.any
      (fun resolution => resolution.feeQuote.observations.isEmpty &&
        resolution.effectiveQuote.principalReceivedAmount == 98752 &&
        resolution.effectiveQuote.feeRecipientReceivedAmount == 248) = true := by
    decide +kernel
  have hasset := sampleAssetConfig_decodes .typescript
  obtain ⟨resolution, hquote, hcheck⟩ := Except.exists_of_any hpays
  simp only [Bool.and_eq_true, List.isEmpty_iff, beq_iff_eq] at hcheck
  obtain ⟨⟨hobservations, hprincipal⟩, hrecipient⟩ := hcheck
  exact ⟨resolution, hquote, hprincipal, hrecipient,
    effectiveQuote_conserves .typescript _ hasset 100001 resolution hquote hobservations⟩

/-! ## Monotonicity -/

/-- What a rounding mode adds before the division by 10000. -/
def roundingOffset (roundingMode : Int) : Int :=
  if roundingMode = 0 then 0 else if roundingMode = 1 then 9999 else 5000

theorem roundedBasisPoints_eq {amount basisPoints roundingMode fee : Int} (hamount : 0 ≤ amount)
    (hbasisPoints : 0 ≤ basisPoints)
    (h : roundedBasisPoints L amount basisPoints roundingMode = .ok fee) :
    fee = (amount * basisPoints + roundingOffset roundingMode) / 10000 := by
  have hproduct : 0 ≤ amount * basisPoints := mul_nonneg hamount hbasisPoints
  have hremainder : L.remainder (amount * basisPoints) 10000 = amount * basisPoints % 10000 := by
    cases L with
    | typescript => exact Int.tmod_eq_emod_of_nonneg hproduct
    | python => exact Int.fmod_eq_emod_of_nonneg _ (by decide)
  unfold roundedBasisPoints at h
  unfold roundingOffset
  dsimp only at h
  rw [Language.divide_eq hproduct (by decide), hremainder] at h
  by_cases hfloor : roundingMode = 0
  · rw [if_pos hfloor] at h ⊢
    cases h
    rw [add_zero]
  · rw [if_neg hfloor] at h ⊢
    by_cases hceiling : roundingMode = 1
    · rw [if_pos hceiling] at h ⊢
      cases h
      split <;> omega
    · rw [if_neg hceiling] at h ⊢
      by_cases hnearest : roundingMode = 2
      · rw [if_pos hnearest] at h
        cases h
        split <;> omega
      · rw [if_neg hnearest] at h
        cases h

/-- Up to 100 percent a raw fee is monotone and grows no faster than the output. -/
theorem rawFeeAmount_gentle (flatFee : Int) {percent : Int} (values : StructValues)
    (hnonneg : 0 ≤ percent) (hpercent : percent ≤ 10000) :
    ∃ f : Int → Int, Gentle f ∧ Monotone f ∧ ∀ grossOutput fee, 0 ≤ grossOutput →
      rawFeeAmount L grossOutput flatFee percent values = .ok fee → fee = f grossOutput := by
  by_cases hflat : flatFee = 0
  · by_cases hzero : percent = 0
    · refine ⟨fun _ => 0, gentle_const 0, monotone_const, ?_⟩
      intro grossOutput fee _ h
      simp only [rawFeeAmount, hflat, hzero, ne_eq, not_true_eq_false, if_false] at h
      cases h
      rfl
    · cases hmode : requireNumberField L values "rounding_mode" with
      | error e =>
        refine ⟨fun _ => 0, gentle_const 0, monotone_const, ?_⟩
        intro grossOutput fee _ h
        simp only [rawFeeAmount, hflat, hzero, hmode, ne_eq, not_true_eq_false, if_false,
          not_false_eq_true, if_true] at h
        cases h
      | ok roundingMode =>
        refine ⟨_, gentle_mul_add_ediv hpercent (by decide) (roundingOffset roundingMode),
          monotone_mul_add_ediv hnonneg (by decide) _, ?_⟩
        intro grossOutput fee hgross h
        simp only [rawFeeAmount, hflat, hzero, hmode, ne_eq, not_true_eq_false, if_false,
          not_false_eq_true, if_true] at h
        exact roundedBasisPoints_eq hgross hnonneg h
  · refine ⟨fun _ => flatFee, gentle_const _, monotone_const, ?_⟩
    intro grossOutput fee _ h
    rw [rawFeeAmount, if_pos hflat] at h
    cases h
    rfl

/-- The terms of a decoded fee policy that the fee is computed from. -/
structure FeePolicyInRange (L : Language) (values : StructValues) : Prop where
  percent : ∀ percent, requireNumberField L values "percent_fee_bps" = .ok percent →
    0 ≤ percent ∧ percent ≤ 10000
  minimum : ∀ minimum, requireBigIntField L values "minimum_fee_amount" = .ok minimum →
    0 ≤ minimum
  rebate : ∀ rebate, requireNumberField L values "rebate_bps" = .ok rebate → 0 ≤ rebate

theorem assessFee_gentle (action : SettlementAction) {values : StructValues}
    (hvalues : FeePolicyInRange L values) :
    ∃ f : Int → Int, Gentle f ∧ Monotone f ∧ ∀ grossOutput fee, 0 ≤ grossOutput →
      assessFee L action grossOutput values = .ok fee → fee = f grossOutput ∧ 0 ≤ fee := by
  by_cases hreads : ∃ flatFee percent feeCap minimumFee,
      requireBigIntField L values (flatFeeField action) = .ok flatFee ∧
      requireNumberField L values "percent_fee_bps" = .ok percent ∧
      requireBigIntField L values "fee_cap_amount" = .ok feeCap ∧
      requireBigIntField L values "minimum_fee_amount" = .ok minimumFee
  · obtain ⟨flatFee, percent, feeCap, minimumFee, hflat, hpercent, hcap, hminimum⟩ := hreads
    obtain ⟨hnonneg, hle⟩ := hvalues.percent percent hpercent
    obtain ⟨raw, hgentle, hmono, hraw⟩ := rawFeeAmount_gentle (L := L) flatFee values
      hnonneg hle
    have hminimumNonneg := hvalues.minimum minimumFee hminimum
    refine ⟨fun x => max (if feeCap = 0 then raw x else min (raw x) feeCap) minimumFee, ?_, ?_, ?_⟩
    · by_cases huncapped : feeCap = 0
      · simpa [huncapped] using hgentle.max (gentle_const minimumFee)
      · simpa [huncapped] using
          (hgentle.min (gentle_const feeCap)).max (gentle_const minimumFee)
    · by_cases huncapped : feeCap = 0
      · simpa [huncapped] using hmono.max monotone_const
      · simpa [huncapped] using (hmono.min monotone_const).max monotone_const
    · intro grossOutput fee hgross h
      simp only [assessFee, hflat, hpercent, hcap, hminimum, Except.bind_eq_ok, Except.ok.injEq,
        exists_eq_left'] at h
      obtain ⟨rawFee, hrawFee, h⟩ := h
      cases h
      have hfee := hraw grossOutput rawFee hgross hrawFee
      subst hfee
      dsimp only
      constructor
      · split_ifs <;> omega
      · split_ifs <;> omega
  · refine ⟨fun _ => 0, gentle_const 0, monotone_const, ?_⟩
    intro grossOutput fee _ h
    simp only [assessFee, Except.bind_eq_ok] at h
    obtain ⟨flatFee, hflat, percent, hpercent, _, -, feeCap, hcap, minimumFee, hminimum, -⟩ := h
    exact absurd ⟨flatFee, percent, feeCap, minimumFee, hflat, hpercent, hcap, hminimum⟩ hreads

theorem nominalFeeRebate_monotone {values : StructValues} (hvalues : FeePolicyInRange L values)
    {fee fee' rebate rebate' : Int} (hfee : 0 ≤ fee) (hle : fee ≤ fee')
    (h : nominalFeeRebate L fee values = .ok rebate)
    (h' : nominalFeeRebate L fee' values = .ok rebate') : rebate ≤ rebate' := by
  simp only [nominalFeeRebate, Except.bind_eq_ok] at h h'
  obtain ⟨flat, hflat, basisPoints, hbasisPoints, cap, hcap, h⟩ := h
  obtain ⟨flat', hflat', basisPoints', hbasisPoints', cap', hcap', h'⟩ := h'
  cases hflat.symm.trans hflat'
  cases hbasisPoints.symm.trans hbasisPoints'
  cases hcap.symm.trans hcap'
  cases h
  cases h'
  have hnonneg := hvalues.rebate basisPoints hbasisPoints
  have hmono := monotone_mul_add_ediv hnonneg (q := 10000) (by decide) 0 hle
  have hdivide := Language.divide_eq (L := L) (mul_nonneg hfee hnonneg) (by decide : (0 : Int) ≤ 10000)
  have hdivide' := Language.divide_eq (L := L) (mul_nonneg (hfee.trans hle) hnonneg)
    (by decide : (0 : Int) ≤ 10000)
  simp only [add_zero] at hmono
  rw [hdivide, hdivide']
  split_ifs <;> omega

/-- With a policy the net output is what the net fee, up to zero, leaves of the gross output. -/
theorem computeFeeQuote_bound {action : SettlementAction} {grossInput grossOutput : Int}
    {values : StructValues} {nowUnixTimestamp : Int} {quote : FeeQuote}
    (h : computeFeeQuote L action grossInput grossOutput (some values) nowUnixTimestamp =
      .ok quote) :
    ∃ fee rebate, assessFee L action grossOutput values = .ok fee ∧
      nominalFeeRebate L fee values = .ok rebate ∧
      quote.netOutput = max (grossOutput - max (fee - rebate) 0) 0 := by
  have houtput := computeFeeQuote_netOutput h
  simp only [computeFeeQuote, Except.bind_eq_ok] at h
  obtain ⟨flags, -, from_, -, until_, -, fee, hfee, rebate, hrebate, floorZero, -,
    recipientPolicy, -, owner, -, hquote⟩ := h
  cases hquote
  refine ⟨fee, rebate, hfee, hrebate, ?_⟩
  dsimp only
  split_ifs <;> omega

theorem netOutput_monotone {terms : QuoteTerms}
    (hfee : ∀ values ∈ terms.feePolicyValues, FeePolicyInRange L values)
    {grossInput grossInput' grossOutput grossOutput' : Int} (hgross : 0 ≤ grossOutput)
    (hle : grossOutput ≤ grossOutput') {quote quote' : FeeQuote}
    (h : computeFeeQuote L terms.action grossInput grossOutput terms.feePolicyValues
      terms.nowUnixTimestamp = .ok quote)
    (h' : computeFeeQuote L terms.action grossInput' grossOutput' terms.feePolicyValues
      terms.nowUnixTimestamp = .ok quote') : quote.netOutput ≤ quote'.netOutput := by
  cases hvalues : terms.feePolicyValues with
  | none =>
    rw [hvalues] at h h'
    rw [((computeFeeQuote_ok h).2.1 rfl).1, ((computeFeeQuote_ok h').2.1 rfl).1]
    exact hle
  | some values =>
    rw [hvalues] at h h'
    have hrange := hfee values hvalues
    obtain ⟨fee, rebate, hassess, hrebate, houtput⟩ := computeFeeQuote_bound h
    obtain ⟨fee', rebate', hassess', hrebate', houtput'⟩ := computeFeeQuote_bound h'
    obtain ⟨assess, hgentle, hmono, hspec⟩ := assessFee_gentle terms.action hrange
    obtain ⟨hfeeEq, hnonneg⟩ := hspec grossOutput fee hgross hassess
    obtain ⟨hfeeEq', -⟩ := hspec grossOutput' fee' (hgross.trans hle) hassess'
    have hfeeLe : fee ≤ fee' := by
      rw [hfeeEq, hfeeEq']
      exact hmono hle
    have hslope : fee' - fee ≤ grossOutput' - grossOutput := by
      rw [hfeeEq, hfeeEq']
      exact hgentle hle
    have hrebateLe := nominalFeeRebate_monotone hrange hnonneg hfeeLe hrebate hrebate'
    omega

theorem rateInput_monotone {action : SettlementAction}
    {config : Option Token2022TransferFeeConfig} {currentEpoch a b : Int} (ha : 0 ≤ a)
    (hab : a ≤ b) {input input' : TokenTransferFeeCalculation}
    (h : inputTransfer L action a config currentEpoch = .ok input)
    (h' : inputTransfer L action b config currentEpoch = .ok input') :
    rateInput action a input ≤ rateInput action b input' := by
  rw [rateInput_eq h, rateInput_eq h']
  cases action with
  | mint =>
    obtain ⟨-, -, -, hcovered⟩ := calculateTokenTransferFee_charges h
    obtain ⟨-, -, -, hcovered'⟩ := calculateTokenTransferFee_charges h'
    have hslope := chargedTransferFee_slope ha hab hcovered hcovered'
    show a - chargedTransferFee L config currentEpoch a ≤
      b - chargedTransferFee L config currentEpoch b
    omega
  | redeem => exact hab

/-- The terms of a decoded policy that charges at most everything. -/
theorem decodedFeePolicy_inRange {values : StructValues} (h : DecodedAs L "FeePolicy" values)
    (hpercent : ∀ percent, requireNumberField L values "percent_fee_bps" = .ok percent →
      percent ≤ 10000) : FeePolicyInRange L values := by
  obtain ⟨original, horiginal, rfl⟩ := decodedAs_typescript h
  obtain ⟨percent, -, hreadPercent⟩ := read_number "percent_fee_bps"
    horiginal rfl rfl
  obtain ⟨minimum, -, hreadMinimum⟩ := read_unsigned "minimum_fee_amount" horiginal rfl
  obtain ⟨rebate, -, hreadRebate⟩ := read_number "rebate_bps" horiginal rfl rfl
  refine ⟨fun p hp => ⟨?_, hpercent p hp⟩, fun m hm => ?_, fun r hr => ?_⟩
  · rw [hreadPercent L] at hp
    cases hp
    exact Int.natCast_nonneg _
  · rw [hreadMinimum L] at hm
    cases hm
    exact Int.natCast_nonneg _
  · rw [hreadRebate L] at hr
    cases hr
    exact Int.natCast_nonneg _

/-- **Quotes are monotone in the input**, under a fee policy of at most 100 percent. -/
theorem effectiveQuote_monotone (L : Language) (terms : QuoteTerms)
    (hasset : DecodedAs L "AssetConfig" terms.assetValues)
    (hfee : ∀ values ∈ terms.feePolicyValues, DecodedAs L "FeePolicy" values ∧
      ∀ percent, requireNumberField L values "percent_fee_bps" = .ok percent → percent ≤ 10000)
    (a b : Int) (hab : a ≤ b) (resolution resolution' : SettlementEffectiveQuoteResolution)
    (h : terms.quote L a = .ok resolution) (h' : terms.quote L b = .ok resolution') :
    resolution.grossOutput ≤ resolution'.grossOutput ∧
      resolution.feeQuote.netOutput ≤ resolution'.feeQuote.netOutput ∧
      resolution.effectiveQuote.principalReceivedAmount ≤
        resolution'.effectiveQuote.principalReceivedAmount := by
  obtain ⟨rate, configured, input, hquoted⟩ := quoted_of_ok h
  obtain ⟨rate', configured', input', hquoted'⟩ := quoted_of_ok h'
  cases hquoted.readsRate.symm.trans hquoted'.readsRate
  have hrate := decodedRate_nonneg hasset hquoted.readsRate
  obtain ⟨hinput, hgross⟩ := grossOutput_eq hquoted.readsRate hrate hquoted.quotesGross
  obtain ⟨-, hgross'⟩ := grossOutput_eq hquoted.readsRate hrate hquoted'.quotesGross
  have hinputLe := rateInput_monotone hquoted.nonneg hab hquoted.transfersIn hquoted'.transfersIn
  have hgrossLe : resolution.grossOutput ≤ resolution'.grossOutput := by
    rw [hgross, hgross']
    exact Int.ediv_le_ediv (by decide) (Int.mul_le_mul_of_nonneg_right hinputLe hrate)
  have hgrossNonneg : 0 ≤ resolution.grossOutput := by
    rw [hgross]
    exact Int.ediv_nonneg (mul_nonneg hinput hrate) (by decide)
  have hrange := fun values hvalues =>
    decodedFeePolicy_inRange (hfee values hvalues).1 (hfee values hvalues).2
  have hnet := netOutput_monotone hrange hgrossNonneg hgrossLe hquoted.quotesFee hquoted'.quotesFee
  obtain ⟨hnonneg, -, hreceived, hcovered⟩ :=
    calculateTokenTransferFee_charges hquoted.transfersOut
  obtain ⟨-, -, hreceived', hcovered'⟩ := calculateTokenTransferFee_charges hquoted'.transfersOut
  have hslope := chargedTransferFee_slope hnonneg hnet hcovered hcovered'
  have hprincipal := hquoted.received
  have hprincipal' := hquoted'.received
  exact ⟨hgrossLe, hnet, by omega⟩

theorem sampleFeePolicy_percent : (requireNumberField .typescript
    (decodedValues .typescript sampleFeePolicy.data) "percent_fee_bps").toOption.any
      (· ≤ 10000) = true := by
  decide +kernel

theorem sampleRedemption_monotone : ∃ resolution resolution',
    (sampleRedemption .typescript).quote .typescript 100001 = .ok resolution ∧
      (sampleRedemption .typescript).quote .typescript 3000000 = .ok resolution' ∧
      resolution.grossOutput ≤ resolution'.grossOutput ∧
      resolution.feeQuote.netOutput ≤ resolution'.feeQuote.netOutput ∧
      resolution.effectiveQuote.principalReceivedAmount ≤
        resolution'.effectiveQuote.principalReceivedAmount := by
  have hasset := sampleAssetConfig_decodes .typescript
  have hfee : ∀ values ∈ (sampleRedemption .typescript).feePolicyValues,
      DecodedAs .typescript "FeePolicy" values ∧ ∀ percent,
        requireNumberField .typescript values "percent_fee_bps" = .ok percent →
          percent ≤ 10000 := by
    intro values hvalues
    obtain rfl : decodedValues .typescript sampleFeePolicy.data = values := Option.some.inj hvalues
    refine ⟨sampleFeePolicy_decodes .typescript, fun percent hread => ?_⟩
    have hpercent := sampleFeePolicy_percent
    rw [hread] at hpercent
    simpa [Except.toOption] using hpercent
  obtain ⟨resolution, hquote⟩ := Except.exists_of_toBool (by decide +kernel :
    ((sampleRedemption .typescript).quote .typescript 100001).toBool = true)
  obtain ⟨resolution', hquote'⟩ := Except.exists_of_toBool (by decide +kernel :
    ((sampleRedemption .typescript).quote .typescript 3000000).toBool = true)
  exact ⟨resolution, resolution', hquote, hquote', effectiveQuote_monotone .typescript _ hasset
    hfee 100001 3000000 (by decide) resolution resolution' hquote hquote'⟩

end Chancery
