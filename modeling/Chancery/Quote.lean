import Chancery.Protocol
import Chancery.SplToken

/-!
# Quotes

What a settlement pays out: `computeSettlementGrossOutput` and `computeFeeQuote` of
`typescript/src/client/ChanceryProtocol.ts`, `computeSettlementEffectiveQuote` of
`typescript/src/client/ChanceryClient.ts`, and their Python counterparts.

* `computeFeeQuote_ok` — what holds of every fee quote.
* `computeSettlementEffectiveQuote_ok` — how an effective quote is put together.
-/

set_option autoImplicit false

namespace Chancery

/-- A message, when there is something to report. -/
def issueWhen (condition : Prop) [Decidable condition] (message : String) : List String :=
  if condition then [message] else []

@[simp] theorem issueWhen_eq_nil {condition : Prop} [Decidable condition] {message : String} :
    issueWhen condition message = [] ↔ ¬ condition := by
  by_cases h : condition <;> simp [issueWhen, h]

@[simp] theorem mem_issueWhen {condition : Prop} [Decidable condition] {message issue : String} :
    issue ∈ issueWhen condition message ↔ condition ∧ issue = message := by
  by_cases h : condition <;> simp [issueWhen, h]

/-! ## Gross output -/

/-- The denominator of rates. -/
def ratePrecisionE9 : Int := 1000000000

/-- The rate of an action. -/
def rateField : SettlementAction → String
  | .mint => "deposit_rate_e9"
  | .redeem => "redeem_rate_e9"

/-- The output before fees. -/
def computeSettlementGrossOutput (L : Language) (action : SettlementAction) (inputAmount : Int)
    (assetConfigValues : StructValues) : Except String Int :=
  if inputAmount < 0 then .error "Settlement input amount must be non-negative"
  else do
    let rate ← requireBigIntField L assetConfigValues (rateField action)
    return L.divide (inputAmount * rate) ratePrecisionE9

/-! ## Fees -/

namespace FeeFlag

/-- The flag of a fee that is taken in the asset. -/
def feeInAsset : Nat := 1 <<< 0
def feeInIssuedToken : Nat := 1 <<< 1
def percentOnInput : Nat := 1 <<< 2
def active : Nat := 1 <<< 4

end FeeFlag

namespace FeeRecipient

/-- No fee recipient. -/
def none : Int := 0
def reserveRetention : Int := 4

end FeeRecipient

/-- What a fee is taken in. -/
inductive FeeDenomination where
  | asset
  | issuedToken
  | invalid
  deriving DecidableEq

/-- The denomination as quotes name it. -/
def FeeDenomination.text : FeeDenomination → String
  | .asset => "asset"
  | .issuedToken => "issued_token"
  | .invalid => "invalid"

/-- The denomination that the flags choose. -/
def feeDenomination (flags : Int) : FeeDenomination :=
  match hasBits flags FeeFlag.feeInAsset, hasBits flags FeeFlag.feeInIssuedToken with
  | true, false => .asset
  | false, true => .issuedToken
  | _, _ => .invalid

/-- What an action pays out. -/
def outputDenomination : SettlementAction → FeeDenomination
  | .mint => .issuedToken
  | .redeem => .asset

/-- A fee with its rebate and what it leaves. -/
structure FeeQuote where
  grossInput : Int
  grossOutput : Int
  denomination : FeeDenomination
  assessedFee : Int
  nominalRebate : Int
  effectiveRebate : Int
  netFee : Int
  netOutput : Int
  routed : Bool
  feeRecipientOwner : PublicKey
  effective : Bool
  observations : List String

/-- A share of an amount, rounded as the policy asks. -/
def roundedBasisPoints (L : Language) (amount basisPoints roundingMode : Int) :
    Except String Int :=
  let product := amount * basisPoints
  let quotient := L.divide product 10000
  let remainder := L.remainder product 10000
  if roundingMode = 0 then .ok quotient
  else if roundingMode = 1 then .ok (quotient + if remainder = 0 then 0 else 1)
  else if roundingMode = 2 then .ok (quotient + if 5000 ≤ remainder then 1 else 0)
  else .error s!"Unsupported fee rounding mode: {roundingMode}"

/-- The flat fee of an action. -/
def flatFeeField : SettlementAction → String
  | .mint => "flat_fee_in_issued_token"
  | .redeem => "flat_fee_in_asset"

/-- A flat fee, else a percentage of the gross output. -/
def rawFeeAmount (L : Language) (grossOutput flatFee percentFeeBasisPoints : Int)
    (feePolicyValues : StructValues) : Except String Int :=
  if flatFee ≠ 0 then .ok flatFee
  else if percentFeeBasisPoints ≠ 0 then do
    let roundingMode ← requireNumberField L feePolicyValues "rounding_mode"
    roundedBasisPoints L grossOutput percentFeeBasisPoints roundingMode
  else .ok 0

/-- The raw fee, capped and then raised to the minimum. -/
def assessFee (L : Language) (action : SettlementAction) (grossOutput : Int)
    (feePolicyValues : StructValues) : Except String Int := do
  let flatFee ← requireBigIntField L feePolicyValues (flatFeeField action)
  let percentFeeBasisPoints ← requireNumberField L feePolicyValues "percent_fee_bps"
  let rawFee ← rawFeeAmount L grossOutput flatFee percentFeeBasisPoints feePolicyValues
  let feeCap ← requireBigIntField L feePolicyValues "fee_cap_amount"
  let minimumFee ← requireBigIntField L feePolicyValues "minimum_fee_amount"
  let cappedFee := if feeCap = 0 ∨ rawFee ≤ feeCap then rawFee else feeCap
  return if minimumFee ≤ cappedFee then cappedFee else minimumFee

/-- The rebate before it is capped. -/
def nominalFeeRebate (L : Language) (assessedFee : Int) (feePolicyValues : StructValues) :
    Except String Int := do
  let flatRebate ← requireBigIntField L feePolicyValues "rebate_flat_amount"
  let rebateBasisPoints ← requireNumberField L feePolicyValues "rebate_bps"
  let rawRebate := if flatRebate ≠ 0 then flatRebate
    else if rebateBasisPoints ≠ 0 then L.divide (assessedFee * rebateBasisPoints) 10000
    else 0
  let rebateCap ← requireBigIntField L feePolicyValues "rebate_cap_amount"
  return if rebateCap = 0 ∨ rawRebate ≤ rebateCap then rawRebate else rebateCap

/-- Not before the first instant and before the second; zero leaves an end open. -/
def withinPeriod (validAfter expiresAt nowUnixTimestamp : Int) : Bool :=
  (validAfter == 0 || decide (validAfter ≤ nowUnixTimestamp))
    && (expiresAt == 0 || decide (nowUnixTimestamp < expiresAt))

/-- Message of a fee that is not taken in the output. -/
def denominationMismatch (action : SettlementAction) (denomination : FeeDenomination) : String :=
  s!"Fee denomination {denomination.text} does not match {action.text} output denomination " ++
    (outputDenomination action).text

/-- Message of an output that fees use up. -/
def netOutputIsZero : String := "Net settlement output is zero"

/-- The fee quote of an output. -/
def computeFeeQuote (L : Language) (action : SettlementAction) (grossInput grossOutput : Int)
    (feePolicyValues : Option StructValues) (nowUnixTimestamp : Int) : Except String FeeQuote :=
  match feePolicyValues with
  | none => .ok {
      grossInput := grossInput
      grossOutput := grossOutput
      denomination := outputDenomination action
      assessedFee := 0
      nominalRebate := 0
      effectiveRebate := 0
      netFee := 0
      netOutput := grossOutput
      routed := false
      feeRecipientOwner := zeroAddress
      effective := true
      observations := [] }
  | some values => do
    let flags ← requireBigIntField L values "fee_policy_flags"
    let denomination := feeDenomination flags
    let effectiveFrom ← requireBigIntField L values "effective_from_unix_timestamp"
    let effectiveUntil ← requireBigIntField L values "effective_until_unix_timestamp"
    let effective := hasBits flags FeeFlag.active
      && withinPeriod effectiveFrom effectiveUntil nowUnixTimestamp
    let assessedFee ← assessFee L action grossOutput values
    let nominalRebate ← nominalFeeRebate L assessedFee values
    let netFeeFloorZero ← requireNumberField L values "net_fee_floor_zero"
    let effectiveRebate :=
      if netFeeFloorZero ≠ 0 ∧ assessedFee < nominalRebate then assessedFee else nominalRebate
    let netFee := if assessedFee < effectiveRebate then 0 else assessedFee - effectiveRebate
    let netOutput := if netFee ≤ grossOutput then grossOutput - netFee else 0
    let recipientPolicy ← requireNumberField L values "fee_recipient_policy"
    let feeRecipientOwner ← requirePublicKeyField values "fee_recipient_key"
    return {
      grossInput := grossInput
      grossOutput := grossOutput
      denomination := denomination
      assessedFee := assessedFee
      nominalRebate := nominalRebate
      effectiveRebate := effectiveRebate
      netFee := netFee
      netOutput := netOutput
      routed := decide (0 < netFee ∧ recipientPolicy ≠ FeeRecipient.none ∧
        recipientPolicy ≠ FeeRecipient.reserveRetention)
      feeRecipientOwner := feeRecipientOwner
      effective := effective
      observations :=
        issueWhen (denomination ≠ outputDenomination action)
          (denominationMismatch action denomination) ++
        issueWhen (hasBits flags FeeFlag.percentOnInput)
          "Percent-on-input is not supported by the settlement runtime" ++
        issueWhen (effective = false) "Fee policy is not effective at the supplied timestamp" ++
        issueWhen (netFeeFloorZero = 0 ∧ assessedFee < nominalRebate)
          "Configured rebate exceeds assessed fee while zero-flooring is disabled" ++
        issueWhen (netOutput = 0) netOutputIsZero }

/-- What holds of every fee quote; only a bound fee policy has a zero output reported. -/
theorem computeFeeQuote_ok {L : Language} {action : SettlementAction} {grossInput grossOutput : Int}
    {feePolicyValues : Option StructValues} {nowUnixTimestamp : Int} {quote : FeeQuote}
    (h : computeFeeQuote L action grossInput grossOutput feePolicyValues nowUnixTimestamp =
      .ok quote) :
    0 ≤ quote.netFee ∧
      (feePolicyValues = none → quote.netOutput = grossOutput ∧ quote.observations = []) ∧
      (feePolicyValues ≠ none → 0 ≤ quote.netOutput ∧
        (quote.netOutput = 0 → netOutputIsZero ∈ quote.observations)) := by
  cases feePolicyValues with
  | none =>
    cases h
    exact ⟨le_rfl, fun _ => ⟨rfl, rfl⟩, fun h => absurd rfl h⟩
  | some values =>
    simp only [computeFeeQuote, Except.bind_eq_ok] at h
    obtain ⟨flags, -, from_, -, until_, -, assessedFee, -, nominalRebate, -, floorZero, -,
      recipientPolicy, -, owner, -, hquote⟩ := h
    cases hquote
    refine ⟨?_, fun h => (by cases h), fun _ => ⟨?_, fun hzero => ?_⟩⟩
    · dsimp only
      split <;> omega
    · dsimp only
      split <;> omega
    · dsimp only at hzero ⊢
      simp [hzero]

/-! ## Effective quotes -/

/-- A quote with the token program's own fees. -/
structure SettlementEffectiveQuote where
  action : SettlementAction
  currentEpoch : Int
  configuredRateE9 : Int
  configuredGrossOutputFromRequestedInput : Int
  rateInputAmount : Int
  grossOutput : Int
  inputAssetTransfer : TokenTransferFeeCalculation
  chanceryFeeAmount : Int
  chanceryFeeBasisPoints : Option Int
  outputBeforePrincipalTransfer : Int
  principalAssetTransfer : TokenTransferFeeCalculation
  principalReceivedAmount : Int
  routedFeeTransfer : Option TokenTransferFeeCalculation
  feeRecipientReceivedAmount : Int
  allInOutputReduction : Int
  allInFeeBasisPoints : Option Int
  effectiveOutputRateE9 : Option Int
  requiresSimulationForExactAmount : Bool
  observations : List String

/-- The quotes of a settlement. -/
structure SettlementEffectiveQuoteResolution where
  grossOutput : Int
  feeQuote : FeeQuote
  effectiveQuote : SettlementEffectiveQuote

section

variable (L : Language)

/-- A ratio, when there is something to divide by. -/
def ratioOf (numerator denominator : Int) : Option Int :=
  if denominator = 0 then none else some (L.divide numerator denominator)

/-- Only the asset's mint charges transfer fees: on the way in when minting. -/
def inputTransfer (action : SettlementAction) (requestedInputAmount : Int)
    (assetTransferFeeConfig : Option Token2022TransferFeeConfig) (currentEpoch : Int) :
    Except String TokenTransferFeeCalculation :=
  match action with
  | .mint => calculateTokenTransferFee L requestedInputAmount assetTransferFeeConfig currentEpoch
  | .redeem => calculateTokenTransferFee L 0 none currentEpoch

/-- … and on the way out when redeeming. -/
def outputTransfer (action : SettlementAction) (amount : Int)
    (assetTransferFeeConfig : Option Token2022TransferFeeConfig) (currentEpoch : Int) :
    Except String TokenTransferFeeCalculation :=
  match action with
  | .mint => calculateTokenTransferFee L amount none currentEpoch
  | .redeem => calculateTokenTransferFee L amount assetTransferFeeConfig currentEpoch

/-- The amount that the rate is applied to. -/
def rateInput (action : SettlementAction) (requestedInputAmount : Int)
    (inputAssetTransfer : TokenTransferFeeCalculation) : Int :=
  match action with
  | .mint => inputAssetTransfer.receivedAmount
  | .redeem => requestedInputAmount

/-- The transfer of a fee that is routed on. -/
def routedTransfer (action : SettlementAction) (feeQuote : FeeQuote)
    (assetTransferFeeConfig : Option Token2022TransferFeeConfig) (currentEpoch : Int) :
    Except String (Option TokenTransferFeeCalculation) :=
  if feeQuote.routed then do
    let transfer ← outputTransfer L action feeQuote.netFee assetTransferFeeConfig currentEpoch
    return some transfer
  else .ok none

/-- What a quote cannot know of the asset's mint. -/
def effectiveQuoteObservations (assetMintValues : Option DecodedTokenMint) : List String :=
  match assetMintValues with
  | none => ["Asset mint state is unavailable; transfer-fee effects cannot be calculated locally"]
  | some mint => issueWhen mint.hasUnmodeledTransferBehavior
      ("The asset mint has transfer behavior that requires transaction simulation for an exact " ++
        "received amount")

/-- Whether only a simulation gives the exact amount. -/
def requiresSimulation (assetMintValues : Option DecodedTokenMint) : Bool :=
  match assetMintValues with
  | none => true
  | some mint => mint.hasUnmodeledTransferBehavior

/-- The effective quote of an input. -/
def computeSettlementEffectiveQuote (action : SettlementAction) (requestedInputAmount : Int)
    (assetValues : StructValues) (assetMintValues : Option DecodedTokenMint)
    (feePolicyValues : Option StructValues) (nowUnixTimestamp currentEpoch : Int) :
    Except String SettlementEffectiveQuoteResolution :=
  if requestedInputAmount < 0 then .error "Requested input amount must be non-negative"
  else do
    let configuredRateE9 ← requireBigIntField L assetValues (rateField action)
    let configuredGrossOutput ←
      computeSettlementGrossOutput L action requestedInputAmount assetValues
    let assetTransferFeeConfig := assetMintValues.bind (·.transferFeeConfig)
    let inputAssetTransfer ←
      inputTransfer L action requestedInputAmount assetTransferFeeConfig currentEpoch
    let rateInputAmount := rateInput action requestedInputAmount inputAssetTransfer
    let grossOutput ← computeSettlementGrossOutput L action rateInputAmount assetValues
    let feeQuote ←
      computeFeeQuote L action rateInputAmount grossOutput feePolicyValues nowUnixTimestamp
    let principalAssetTransfer ←
      outputTransfer L action feeQuote.netOutput assetTransferFeeConfig currentEpoch
    let routedFeeTransfer ← routedTransfer L action feeQuote assetTransferFeeConfig currentEpoch
    let principalReceivedAmount := principalAssetTransfer.receivedAmount
    let allInOutputReduction := max (configuredGrossOutput - principalReceivedAmount) 0
    return {
      grossOutput := grossOutput
      feeQuote := feeQuote
      effectiveQuote := {
        action := action
        currentEpoch := currentEpoch
        configuredRateE9 := configuredRateE9
        configuredGrossOutputFromRequestedInput := configuredGrossOutput
        rateInputAmount := rateInputAmount
        grossOutput := grossOutput
        inputAssetTransfer := inputAssetTransfer
        chanceryFeeAmount := feeQuote.netFee
        chanceryFeeBasisPoints := ratioOf L (feeQuote.netFee * 10000) grossOutput
        outputBeforePrincipalTransfer := feeQuote.netOutput
        principalAssetTransfer := principalAssetTransfer
        principalReceivedAmount := principalReceivedAmount
        routedFeeTransfer := routedFeeTransfer
        feeRecipientReceivedAmount :=
          (routedFeeTransfer.map TokenTransferFeeCalculation.receivedAmount).getD 0
        allInOutputReduction := allInOutputReduction
        allInFeeBasisPoints := ratioOf L (allInOutputReduction * 10000) configuredGrossOutput
        effectiveOutputRateE9 :=
          ratioOf L (principalReceivedAmount * 1000000000) requestedInputAmount
        requiresSimulationForExactAmount := requiresSimulation assetMintValues
        observations := effectiveQuoteObservations assetMintValues } }

end

theorem outputTransfer_ok {L : Language} {action : SettlementAction} {amount currentEpoch : Int}
    {config : Option Token2022TransferFeeConfig} {transfer : TokenTransferFeeCalculation}
    (h : outputTransfer L action amount config currentEpoch = .ok transfer) :
    0 ≤ transfer.receivedAmount ∧ transfer.receivedAmount ≤ amount := by
  cases action with
  | mint =>
    have hfree : calculateTokenTransferFee L amount none currentEpoch = .ok transfer := h
    exact calculateTokenTransferFee_ok hfree
  | redeem =>
    have hconfig : calculateTokenTransferFee L amount config currentEpoch = .ok transfer := h
    exact calculateTokenTransferFee_ok hconfig

/-- How an effective quote is put together. -/
theorem computeSettlementEffectiveQuote_ok {L : Language} {action : SettlementAction}
    {requestedInputAmount nowUnixTimestamp currentEpoch : Int} {assetValues : StructValues}
    {assetMintValues : Option DecodedTokenMint} {feePolicyValues : Option StructValues}
    {resolution : SettlementEffectiveQuoteResolution}
    (h : computeSettlementEffectiveQuote L action requestedInputAmount assetValues assetMintValues
      feePolicyValues nowUnixTimestamp currentEpoch = .ok resolution) :
    ∃ input grossOutput,
      inputTransfer L action requestedInputAmount (assetMintValues.bind (·.transferFeeConfig))
        currentEpoch = .ok input ∧
      computeSettlementGrossOutput L action (rateInput action requestedInputAmount input)
        assetValues = .ok grossOutput ∧
      computeFeeQuote L action (rateInput action requestedInputAmount input) grossOutput
        feePolicyValues nowUnixTimestamp = .ok resolution.feeQuote ∧
      resolution.effectiveQuote.outputBeforePrincipalTransfer = resolution.feeQuote.netOutput ∧
      0 ≤ resolution.effectiveQuote.principalReceivedAmount ∧
      resolution.effectiveQuote.principalReceivedAmount ≤
        resolution.effectiveQuote.outputBeforePrincipalTransfer := by
  unfold computeSettlementEffectiveQuote at h
  split at h
  · cases h
  · simp only [Except.bind_eq_ok] at h
    obtain ⟨rate, -, configured, -, input, hinput, gross, hgross, feeQuote, hfee, transfer,
      htransfer, routed, -, hresolution⟩ := h
    cases hresolution
    have hbounds := outputTransfer_ok htransfer
    exact ⟨input, gross, hinput, hgross, hfee, rfl, hbounds.1, hbounds.2⟩

end Chancery
