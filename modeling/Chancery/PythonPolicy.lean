import Chancery.Policy
import Chancery.Quote

/-!
# Policy calculations in Python

The functions of `python/chancery_reference/chancery_protocol.py` and
`python/chancery_reference/spl_token.py` that are written differently from their TypeScript
counterparts: `divmod`, `min` and `max` where TypeScript compares.

* `Python.computeFeeQuote_eq`, `Python.calculateTokenTransferFee_eq` — they are the definitions of
  `Quote` and `SplToken` for Python.
-/

set_option autoImplicit false

namespace Chancery.Python

/-- `require_int_field`: numbers and bigints of TypeScript alike. -/
def requireIntField (values : StructValues) (fieldName : String) : Except String Int :=
  requireBigIntField .python values fieldName

theorem requireNumberField_eq (values : StructValues) (fieldName : String) :
    requireNumberField .python values fieldName = requireIntField values fieldName := rfl

/-! ## Transfer fees -/

/-- `spl_token.py`'s calculation. -/
def calculateTokenTransferFee (amount : Int) (config : Option Token2022TransferFeeConfig)
    (currentEpoch : Int) : Except String TokenTransferFeeCalculation :=
  if amount < 0 then .error "Transfer amount must be non-negative"
  else if currentEpoch < 0 then .error "Current epoch must be non-negative"
  else match config with
    | none => .ok { epoch := currentEpoch, amount := amount, transferFeeBasisPoints := 0
                    maximumFee := 0, feeAmount := 0, receivedAmount := amount }
    | some config => do
      let activeFee ← selectActiveTransferFee config currentEpoch
      let uncappedFee : Int :=
        if amount = 0 ∨ activeFee.transferFeeBasisPoints = 0 then 0
        else
          let numerator := amount * activeFee.transferFeeBasisPoints
          (numerator + basisPointDenominator - 1).fdiv basisPointDenominator
      let feeAmount := min uncappedFee activeFee.maximumFee
      if amount < feeAmount then .error "Calculated transfer fee exceeds transfer amount"
      else return {
        epoch := currentEpoch
        amount := amount
        transferFeeBasisPoints := activeFee.transferFeeBasisPoints
        maximumFee := activeFee.maximumFee
        feeAmount := feeAmount
        receivedAmount := amount - feeAmount }

theorem calculateTokenTransferFee_eq (amount : Int) (config : Option Token2022TransferFeeConfig)
    (currentEpoch : Int) :
    calculateTokenTransferFee amount config currentEpoch =
      Chancery.calculateTokenTransferFee .python amount config currentEpoch := by
  unfold calculateTokenTransferFee Chancery.calculateTokenTransferFee
  split
  · rfl
  · rename_i hamount
    simp only [true_and]
    split
    · rfl
    · cases config with
      | none => rfl
      | some config =>
        dsimp only
        congr 1
        funext activeFee
        have hfee : min (if amount = 0 ∨ activeFee.transferFeeBasisPoints = 0 then 0
            else (amount * (activeFee.transferFeeBasisPoints : Int) + basisPointDenominator -
              1).fdiv basisPointDenominator) (activeFee.maximumFee : Int) =
              transferFeeAmount .python amount activeFee := by
          unfold transferFeeAmount divideCeiling
          rw [min_def]
          by_cases hfree : amount = 0 ∨ activeFee.transferFeeBasisPoints = 0
          · rw [if_pos hfree, if_pos hfree]
          · rw [if_neg hfree, if_neg hfree]
            rw [not_or] at hfree
            have hne : amount * (activeFee.transferFeeBasisPoints : Int) ≠ 0 :=
              mul_ne_zero hfree.1 (by exact_mod_cast hfree.2)
            rw [if_neg hne]
            rfl
        rw [hfee, activeTransferFeeCalculation]
        rfl

/-! ## Fees -/

/-- A share of an amount, rounded by `divmod`. -/
def roundedBasisPoints (amount basisPoints roundingMode : Int) : Except String Int :=
  let product := amount * basisPoints
  let (quotient, remainder) := (product.fdiv 10000, product.fmod 10000)
  if roundingMode = 0 then .ok quotient
  else if roundingMode = 1 then .ok (quotient + if remainder ≠ 0 then 1 else 0)
  else if roundingMode = 2 then .ok (quotient + if 5000 ≤ remainder then 1 else 0)
  else .error s!"Unsupported fee rounding mode: {roundingMode}"

theorem roundedBasisPoints_eq (amount basisPoints roundingMode : Int) :
    roundedBasisPoints amount basisPoints roundingMode =
      Chancery.roundedBasisPoints .python amount basisPoints roundingMode := by
  simp only [roundedBasisPoints, Chancery.roundedBasisPoints, ne_eq, ite_not]
  rfl

/-- The fee before its bounds. -/
def rawFee (grossOutput flatFee percentBps : Int) (feePolicyValues : StructValues) :
    Except String Int :=
  if flatFee ≠ 0 then .ok flatFee
  else if percentBps ≠ 0 then do
    let roundingMode ← requireIntField feePolicyValues "rounding_mode"
    roundedBasisPoints grossOutput percentBps roundingMode
  else .ok 0

theorem rawFee_eq (grossOutput flatFee percentBps : Int) (values : StructValues) :
    rawFee grossOutput flatFee percentBps values =
      rawFeeAmount .python grossOutput flatFee percentBps values := by
  simp only [rawFee, rawFeeAmount, requireNumberField_eq, roundedBasisPoints_eq]

/-- The raw fee, capped and then raised to the minimum. -/
def assessFee (action : SettlementAction) (grossOutput : Int) (feePolicyValues : StructValues) :
    Except String Int := do
  let flatFee ← requireIntField feePolicyValues
    (if action = .mint then "flat_fee_in_issued_token" else "flat_fee_in_asset")
  let percentBps ← requireIntField feePolicyValues "percent_fee_bps"
  let rawFee ← rawFee grossOutput flatFee percentBps feePolicyValues
  let feeCap ← requireIntField feePolicyValues "fee_cap_amount"
  let minimumFee ← requireIntField feePolicyValues "minimum_fee_amount"
  let cappedFee := if feeCap ≠ 0 then min rawFee feeCap else rawFee
  return max cappedFee minimumFee

theorem capped_eq (amount cap : Int) :
    (if cap ≠ 0 then min amount cap else amount) =
      if cap = 0 ∨ amount ≤ cap then amount else cap := by
  by_cases h : cap = 0
  · simp [h]
  · simp [h, min_def]

theorem assessFee_eq (action : SettlementAction) (grossOutput : Int) (values : StructValues) :
    assessFee action grossOutput values = Chancery.assessFee .python action grossOutput values := by
  have hflat : (if action = .mint then "flat_fee_in_issued_token" else "flat_fee_in_asset") =
      flatFeeField action := by cases action <;> rfl
  simp only [assessFee, Chancery.assessFee, requireNumberField_eq, rawFee_eq, hflat, capped_eq,
    max_def']
  rfl

/-- The rebate before it is capped. -/
def nominalFeeRebate (assessedFee : Int) (feePolicyValues : StructValues) :
    Except String Int := do
  let flatRebate ← requireIntField feePolicyValues "rebate_flat_amount"
  let rebateBps ← requireIntField feePolicyValues "rebate_bps"
  let rawRebate :=
    if flatRebate ≠ 0 then flatRebate
    else if rebateBps ≠ 0 then (assessedFee * rebateBps).fdiv 10000
    else 0
  let rebateCap ← requireIntField feePolicyValues "rebate_cap_amount"
  return if rebateCap ≠ 0 then min rawRebate rebateCap else rawRebate

theorem nominalFeeRebate_eq (assessedFee : Int) (values : StructValues) :
    nominalFeeRebate assessedFee values = Chancery.nominalFeeRebate .python assessedFee values := by
  simp only [nominalFeeRebate, Chancery.nominalFeeRebate, requireNumberField_eq, capped_eq]
  rfl

/-- `policy.py`'s quote. -/
def computeFeeQuote (action : SettlementAction) (grossInput grossOutput : Int)
    (feePolicyValues : Option StructValues) (nowUnixTimestamp : Int) : Except String FeeQuote :=
  match feePolicyValues with
  | none => .ok {
      grossInput := grossInput
      grossOutput := grossOutput
      denomination := if action = .mint then .issuedToken else .asset
      assessedFee := 0
      nominalRebate := 0
      effectiveRebate := 0
      netFee := 0
      netOutput := grossOutput
      routed := false
      feeRecipientOwner := zeroAddress
      effective := true
      observations := [] }
  | some values => do
    let flags ← requireIntField values "fee_policy_flags"
    let inAsset := hasBits flags FeeFlag.feeInAsset
    let inIssued := hasBits flags FeeFlag.feeInIssuedToken
    let denomination : FeeDenomination :=
      if inAsset = inIssued then .invalid else if inAsset then .asset else .issuedToken
    let expected : FeeDenomination := if action = .mint then .issuedToken else .asset
    let effectiveFrom ← requireIntField values "effective_from_unix_timestamp"
    let effectiveUntil ← requireIntField values "effective_until_unix_timestamp"
    let effective := hasBits flags FeeFlag.active
      && (effectiveFrom == 0 || decide (effectiveFrom ≤ nowUnixTimestamp))
      && (effectiveUntil == 0 || decide (nowUnixTimestamp < effectiveUntil))
    let assessedFee ← assessFee action grossOutput values
    let nominalRebate ← nominalFeeRebate assessedFee values
    let netFeeFloorZero ← requireIntField values "net_fee_floor_zero"
    let effectiveRebate :=
      if netFeeFloorZero ≠ 0 then min nominalRebate assessedFee else nominalRebate
    let netFee := max 0 (assessedFee - effectiveRebate)
    let netOutput := max 0 (grossOutput - netFee)
    let recipientPolicy ← requireIntField values "fee_recipient_policy"
    let feeRecipientOwner ← requirePublicKeyField values "fee_recipient_key"
    return {
      grossInput := grossInput
      grossOutput := grossOutput
      denomination := denomination
      assessedFee := assessedFee
      nominalRebate := nominalRebate
      effectiveRebate := effectiveRebate
      netFee := netFee
      netOutput := netOutput
      routed := decide (0 < netFee ∧
        recipientPolicy ∉ [FeeRecipient.none, FeeRecipient.reserveRetention])
      feeRecipientOwner := feeRecipientOwner
      effective := effective
      observations :=
        issueWhen (denomination ≠ expected) (denominationMismatch action denomination) ++
        issueWhen (hasBits flags FeeFlag.percentOnInput)
          "Percent-on-input is not supported by the settlement runtime" ++
        issueWhen (effective = false) "Fee policy is not effective at the supplied timestamp" ++
        issueWhen (netFeeFloorZero = 0 ∧ assessedFee < nominalRebate)
          "Configured rebate exceeds assessed fee while zero-flooring is disabled" ++
        issueWhen (netOutput = 0) "Net settlement output is zero" }

theorem denomination_eq (flags : Int) :
    (if hasBits flags FeeFlag.feeInAsset = hasBits flags FeeFlag.feeInIssuedToken then
      FeeDenomination.invalid
    else if hasBits flags FeeFlag.feeInAsset then .asset else .issuedToken) =
      feeDenomination flags := by
  unfold feeDenomination
  cases hasBits flags FeeFlag.feeInAsset <;> cases hasBits flags FeeFlag.feeInIssuedToken <;> rfl

theorem effectiveRebate_eq (floorZero assessedFee nominalRebate : Int) :
    (if floorZero ≠ 0 then min nominalRebate assessedFee else nominalRebate) =
      if floorZero ≠ 0 ∧ assessedFee < nominalRebate then assessedFee else nominalRebate := by
  by_cases h : floorZero = 0
  · simp [h]
  · simp only [h, ne_eq, not_false_eq_true, if_true, true_and]
    split <;> omega

theorem difference_eq (amount deduction : Int) :
    max 0 (amount - deduction) = if amount < deduction then 0 else amount - deduction := by
  split <;> omega

theorem computeFeeQuote_eq (action : SettlementAction) (grossInput grossOutput : Int)
    (feePolicyValues : Option StructValues) (nowUnixTimestamp : Int) :
    computeFeeQuote action grossInput grossOutput feePolicyValues nowUnixTimestamp =
      Chancery.computeFeeQuote .python action grossInput grossOutput feePolicyValues
        nowUnixTimestamp := by
  have hdenomination : (if action = .mint then FeeDenomination.issuedToken else .asset) =
      outputDenomination action := by cases action <;> rfl
  cases feePolicyValues with
  | none =>
    simp only [computeFeeQuote, Chancery.computeFeeQuote, hdenomination]
  | some values =>
    have hnetOutput : ∀ fee : Int, (if fee ≤ grossOutput then grossOutput - fee else 0) =
        if grossOutput < fee then 0 else grossOutput - fee := by
      intro fee
      split <;> split <;> omega
    simp only [computeFeeQuote, Chancery.computeFeeQuote, requireNumberField_eq, assessFee_eq,
      nominalFeeRebate_eq, denomination_eq, hdenomination, effectiveRebate_eq, difference_eq,
      hnetOutput, withinPeriod, Bool.and_assoc, List.mem_cons, List.not_mem_nil, or_false, not_or,
      netOutputIsZero]
    rfl

end Chancery.Python
