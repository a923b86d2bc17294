import Chancery.DecodedValues
import Chancery.PythonPolicy
import Chancery.QuoteLaws

/-!
# TypeScript and Python agree on policies

The four policy calculations on the same decoded accounts, in both languages.

* `Agree` — both raise, or both return the same.
* `effectiveQuote_agree`, `limitPolicy_agree`, `settlementPolicy_agree` — always.
* `RoundsUpNegative`, `feeQuote_agree_iff` — fee quotes agree but for a rounding of negative
  amounts.
* `policies_agree_iff` — the four together.
-/

set_option autoImplicit false

namespace Chancery

/-- Both raise, or both return the same. -/
def Agree {α : Type} (x y : Except String α) : Prop := x.toOption = y.toOption

theorem Agree.of_eq {α : Type} {x y : Except String α} (h : x = y) : Agree x y := congrArg _ h

theorem Except.bind_congr_of_ok {ε α β : Type} {x : Except ε α} {f g : α → Except ε β}
    (h : ∀ a, x = .ok a → f a = g a) : x >>= f = x >>= g := by
  cases x with
  | error e => rfl
  | ok a => exact h a rfl

/-! ## Fields of a record -/

section

variable {accountName : String} (record : DecodedRecord accountName)

theorem DecodedRecord.unsigned (fieldName : String)
    (htype : fieldType accountName fieldName = some (.primitive .u64)) :
    ∃ n : Nat, ∀ L : Language, requireBigIntField L (record.values L) fieldName = .ok n := by
  obtain ⟨n, -, hread⟩ := read_unsigned fieldName (record.decodedAs .typescript) htype
  exact ⟨n, fun L => by rw [record.values_eq L, hread L]⟩

theorem DecodedRecord.signed (fieldName : String)
    (htype : fieldType accountName fieldName = some (.primitive .i64)) :
    ∃ n : Int, ∀ L : Language, requireBigIntField L (record.values L) fieldName = .ok n := by
  obtain ⟨n, hread⟩ := read_signed fieldName (record.decodedAs .typescript) htype
  exact ⟨n, fun L => by rw [record.values_eq L, hread L]⟩

theorem DecodedRecord.number (fieldName : String) {typeName : Primitive} {byteLength : Nat}
    (htype : fieldType accountName fieldName = some (.primitive typeName))
    (hlength : numberLength typeName = some byteLength) :
    ∃ n : Nat, n < 2 ^ (8 * byteLength) ∧ ∀ L : Language,
      requireNumberField L (record.values L) fieldName = .ok n := by
  obtain ⟨n, hlt, hread⟩ := read_number fieldName (record.decodedAs .typescript) htype hlength
  exact ⟨n, hlt, fun L => by rw [record.values_eq L, hread L]⟩

theorem DecodedRecord.publicKey (fieldName : String)
    (htype : fieldType accountName fieldName = some (.primitive .pubkey)) :
    ∃ key : PublicKey, ∀ L : Language,
      requirePublicKeyField (record.values L) fieldName = .ok key := by
  obtain ⟨key, hread⟩ := read_publicKey fieldName (record.decodedAs .typescript) htype
  exact ⟨key, fun L => by rw [record.values_eq L, hread L]⟩

theorem DecodedRecord.bytes (fieldName : String) {length : Nat}
    (htype : fieldType accountName fieldName = some (.array (.primitive .u8) length)) :
    ∃ bytes : Bytes, bytes.length = length ∧ ∀ (L : Language) (label : String),
      requireBytes ((record.values L).lookup fieldName) label length = .ok bytes := by
  obtain ⟨bytes, hlength, hread⟩ := read_bytes fieldName (record.decodedAs .typescript) htype
  exact ⟨bytes, hlength, fun L label => by rw [record.values_eq L, hread L]⟩

theorem DecodedRecord.words (fieldName : String) {length : Nat}
    (htype : fieldType accountName fieldName = some (.array (.primitive .u64) length)) :
    ∃ words : List Int, ∀ L : Language,
      requireBigIntArrayField L (record.values L) fieldName length = .ok words := by
  obtain ⟨words, -, -, hread⟩ := read_words fieldName (record.decodedAs .typescript) htype
  exact ⟨_, fun L => by rw [record.values_eq L, hread L]⟩

end

/-! ## Fees -/

/-- The fields of a fee policy that a quote reads, as both languages read them. -/
structure FeeTerms where
  flags : Nat
  effectiveFrom : Int
  effectiveUntil : Int
  flatFee : Nat
  percent : Nat
  roundingMode : Nat
  feeCap : Nat
  minimumFee : Nat
  flatRebate : Nat
  rebateBasisPoints : Nat
  rebateCap : Nat
  floorZero : Nat
  recipientPolicy : Nat
  recipientOwner : PublicKey

/-- The fields as a language reads them. -/
structure FeeTerms.ReadFrom (terms : FeeTerms) (L : Language) (action : SettlementAction)
    (values : StructValues) : Prop where
  flags : requireBigIntField L values "fee_policy_flags" = .ok terms.flags
  effectiveFrom : requireBigIntField L values "effective_from_unix_timestamp" =
    .ok terms.effectiveFrom
  effectiveUntil : requireBigIntField L values "effective_until_unix_timestamp" =
    .ok terms.effectiveUntil
  flatFee : requireBigIntField L values (flatFeeField action) = .ok terms.flatFee
  percent : requireNumberField L values "percent_fee_bps" = .ok terms.percent
  roundingMode : requireNumberField L values "rounding_mode" = .ok terms.roundingMode
  feeCap : requireBigIntField L values "fee_cap_amount" = .ok terms.feeCap
  minimumFee : requireBigIntField L values "minimum_fee_amount" = .ok terms.minimumFee
  flatRebate : requireBigIntField L values "rebate_flat_amount" = .ok terms.flatRebate
  rebateBasisPoints : requireNumberField L values "rebate_bps" = .ok terms.rebateBasisPoints
  rebateCap : requireBigIntField L values "rebate_cap_amount" = .ok terms.rebateCap
  floorZero : requireNumberField L values "net_fee_floor_zero" = .ok terms.floorZero
  recipientPolicy : requireNumberField L values "fee_recipient_policy" =
    .ok terms.recipientPolicy
  recipientOwner : requirePublicKeyField values "fee_recipient_key" = .ok terms.recipientOwner

/-- Both languages read the same terms from a fee policy. -/
theorem feeTerms_of_record (policy : DecodedRecord "FeePolicy") (action : SettlementAction) :
    ∃ terms : FeeTerms, ∀ L : Language, terms.ReadFrom L action (policy.values L) := by
  have hflat : fieldType "FeePolicy" (flatFeeField action) = some (.primitive .u64) := by
    cases action <;> rfl
  obtain ⟨flags, hflags⟩ := policy.unsigned "fee_policy_flags" rfl
  obtain ⟨effectiveFrom, hfrom⟩ := policy.signed "effective_from_unix_timestamp" rfl
  obtain ⟨effectiveUntil, huntil⟩ := policy.signed "effective_until_unix_timestamp" rfl
  obtain ⟨flatFee, hflatFee⟩ := policy.unsigned (flatFeeField action) hflat
  obtain ⟨percent, -, hpercent⟩ := policy.number "percent_fee_bps" rfl rfl
  obtain ⟨roundingMode, -, hmode⟩ := policy.number "rounding_mode" rfl rfl
  obtain ⟨feeCap, hcap⟩ := policy.unsigned "fee_cap_amount" rfl
  obtain ⟨minimumFee, hminimum⟩ := policy.unsigned "minimum_fee_amount" rfl
  obtain ⟨flatRebate, hflatRebate⟩ := policy.unsigned "rebate_flat_amount" rfl
  obtain ⟨rebateBasisPoints, -, hrebate⟩ := policy.number "rebate_bps" rfl rfl
  obtain ⟨rebateCap, hrebateCap⟩ := policy.unsigned "rebate_cap_amount" rfl
  obtain ⟨floorZero, -, hfloor⟩ := policy.number "net_fee_floor_zero" rfl rfl
  obtain ⟨recipientPolicy, -, hrecipient⟩ := policy.number "fee_recipient_policy" rfl rfl
  obtain ⟨recipientOwner, howner⟩ := policy.publicKey "fee_recipient_key" rfl
  exact ⟨⟨flags, effectiveFrom, effectiveUntil, flatFee, percent, roundingMode, feeCap,
    minimumFee, flatRebate, rebateBasisPoints, rebateCap, floorZero, recipientPolicy,
    recipientOwner⟩, fun L => ⟨hflags L, hfrom L, huntil L, hflatFee L, hpercent L, hmode L,
    hcap L, hminimum L, hflatRebate L, hrebate L, hrebateCap L, hfloor L, hrecipient L, howner L⟩⟩

/-- CEILING rounding of a negative percentage that is not even one unit, with nothing to hide it:
no flat fee and no minimum. -/
def RoundsUpNegative (action : SettlementAction) (grossOutput : Int) (values : StructValues) :
    Prop :=
  requireBigIntField .typescript values (flatFeeField action) = .ok 0 ∧
    requireNumberField .typescript values "rounding_mode" = .ok 1 ∧
    requireBigIntField .typescript values "minimum_fee_amount" = .ok 0 ∧
    ∃ percent, requireNumberField .typescript values "percent_fee_bps" = .ok percent ∧
      -10000 < grossOutput * percent ∧ grossOutput * percent < 0

namespace FeeTerms

variable {terms : FeeTerms} {L : Language} {action : SettlementAction} {values : StructValues}

/-- `RoundsUpNegative`, of the terms. -/
def RoundsUp (terms : FeeTerms) (grossOutput : Int) : Prop :=
  terms.flatFee = 0 ∧ terms.roundingMode = 1 ∧ terms.minimumFee = 0 ∧
    -10000 < grossOutput * terms.percent ∧ grossOutput * terms.percent < 0

theorem roundsUpNegative_iff (hread : terms.ReadFrom .typescript action values)
    (grossOutput : Int) :
    RoundsUpNegative action grossOutput values ↔ terms.RoundsUp grossOutput := by
  unfold RoundsUpNegative RoundsUp
  rw [hread.flatFee, hread.roundingMode, hread.minimumFee, hread.percent]
  simp

/-- The fee before its bounds. -/
def rawFee (terms : FeeTerms) (L : Language) (grossOutput : Int) : Except String Int :=
  if terms.flatFee ≠ 0 then .ok terms.flatFee
  else if terms.percent ≠ 0 then
    roundedBasisPoints L grossOutput terms.percent terms.roundingMode
  else .ok 0

/-- Cap and minimum. -/
def clamp (terms : FeeTerms) (rawFee : Int) : Int :=
  max (if terms.feeCap = 0 then rawFee else min rawFee terms.feeCap) terms.minimumFee

theorem clamp_of_nonpos {rawFee : Int} (h : rawFee ≤ 0) :
    terms.clamp rawFee = terms.minimumFee := by
  unfold clamp
  split <;> omega

theorem clamp_nonneg (rawFee : Int) : 0 ≤ terms.clamp rawFee := by
  unfold clamp
  omega

theorem clamp_one : terms.clamp 1 = max 1 (terms.minimumFee : Int) := by
  unfold clamp
  split <;> omega

theorem assessFee_eq (hread : terms.ReadFrom L action values) (grossOutput : Int) :
    assessFee L action grossOutput values =
      terms.rawFee L grossOutput >>= fun rawFee => .ok (terms.clamp rawFee) := by
  have hraw : rawFeeAmount L grossOutput terms.flatFee terms.percent values =
      terms.rawFee L grossOutput := by
    simp only [rawFeeAmount, rawFee, hread.roundingMode, ne_eq, Nat.cast_eq_zero]
    rfl
  have hclamp : ∀ rawFee : Int, (if (terms.minimumFee : Int) ≤
        if (terms.feeCap : Int) = 0 ∨ rawFee ≤ terms.feeCap then rawFee else terms.feeCap then
        if (terms.feeCap : Int) = 0 ∨ rawFee ≤ terms.feeCap then rawFee else terms.feeCap
      else (terms.minimumFee : Int)) = terms.clamp rawFee := by
    intro rawFee
    unfold clamp
    split_ifs <;> omega
  unfold assessFee
  rw [hread.flatFee, hread.percent, hread.feeCap, hread.minimumFee]
  show rawFeeAmount L grossOutput terms.flatFee terms.percent values >>= _ = _
  rw [hraw]
  exact Except.bind_congr_of_ok fun rawFee _ => congrArg Except.ok (hclamp rawFee)

/-- What the languages make of a negative product: they differ in one case, where TypeScript
rounds up to one. -/
theorem rounded_negative {product : Int} (hneg : product < 0) :
    product.fdiv 10000 < 0 ∧ product.tdiv 10000 ≤ 0 ∧ product.tmod 10000 ≤ 0 ∧
      (product.tmod 10000 ≠ 0 → product.tdiv 10000 < 0 ∨ -10000 < product) := by
  obtain ⟨amount, rfl⟩ : ∃ amount : Int, product = -amount := ⟨-product, (neg_neg product).symm⟩
  have hamount : 0 ≤ amount := by omega
  rw [Int.neg_tdiv, Int.neg_tmod, Int.tdiv_eq_ediv_of_nonneg hamount,
    Int.tmod_eq_emod_of_nonneg hamount, Int.fdiv_eq_ediv_of_nonneg _ (by decide)]
  omega

/-- Rounded, capped and raised to the minimum, a percentage is the same in both languages. -/
theorem clamp_rounded {grossOutput : Int} (hflat : terms.flatFee = 0)
    (hgap : ¬ terms.RoundsUp grossOutput) :
    (roundedBasisPoints .python grossOutput terms.percent terms.roundingMode >>= fun rawFee =>
        .ok (terms.clamp rawFee)) =
      roundedBasisPoints .typescript grossOutput terms.percent terms.roundingMode >>=
        fun rawFee => .ok (terms.clamp rawFee) := by
  unfold RoundsUp at hgap
  unfold roundedBasisPoints
  dsimp only [Language.divide, Language.remainder]
  generalize grossOutput * (terms.percent : Int) = product at hgap ⊢
  rcases le_or_gt 0 product with hnonneg | hneg
  · rw [Int.tdiv_eq_ediv_of_nonneg hnonneg, Int.tmod_eq_emod_of_nonneg hnonneg,
      Int.fdiv_eq_ediv_of_nonneg _ (by decide), Int.fmod_eq_emod_of_nonneg _ (by decide)]
  · obtain ⟨hfloor, htruncated, hremainder, hsmall⟩ := rounded_negative hneg
    by_cases hmode : (terms.roundingMode : Int) = 0
    · rw [if_pos hmode, if_pos hmode]
      exact congrArg Except.ok
        ((clamp_of_nonpos hfloor.le).trans (clamp_of_nonpos htruncated).symm)
    · rw [if_neg hmode, if_neg hmode]
      by_cases hceiling : (terms.roundingMode : Int) = 1
      · rw [if_pos hceiling, if_pos hceiling]
        apply congrArg Except.ok
        rw [clamp_of_nonpos (by split <;> omega)]
        by_cases hup : product.tdiv 10000 + (if product.tmod 10000 = 0 then 0 else 1) ≤ 0
        · rw [clamp_of_nonpos hup]
        · -- TypeScript rounds up to one, which the minimum hides.
          have hminimum : terms.minimumFee ≠ 0 := by
            intro hzero
            split at hup <;> omega
          have hone : product.tdiv 10000 + (if product.tmod 10000 = 0 then 0 else 1) = 1 := by
            split at hup <;> omega
          rw [hone, clamp_one]
          omega
      · rw [if_neg hceiling, if_neg hceiling]
        by_cases hnearest : (terms.roundingMode : Int) = 2
        · rw [if_pos hnearest, if_pos hnearest]
          apply congrArg Except.ok
          rw [clamp_of_nonpos (by split <;> omega), clamp_of_nonpos (by split <;> omega)]
        · rw [if_neg hnearest, if_neg hnearest]

theorem not_roundsUp {grossOutput : Int} (h : 0 ≤ grossOutput) :
    ¬ terms.RoundsUp grossOutput := by
  rintro ⟨-, -, -, -, hneg⟩
  have hnonneg : 0 ≤ grossOutput * (terms.percent : Int) := mul_nonneg h (Int.natCast_nonneg _)
  omega

theorem assessFee_agree {pythonValues : StructValues}
    (hpython : terms.ReadFrom .python action pythonValues)
    (htypescript : terms.ReadFrom .typescript action values) {grossOutput : Int}
    (hgap : ¬ terms.RoundsUp grossOutput) :
    assessFee .python action grossOutput pythonValues =
      assessFee .typescript action grossOutput values := by
  rw [assessFee_eq hpython, assessFee_eq htypescript]
  by_cases hflat : terms.flatFee = 0
  · by_cases hpercent : terms.percent = 0
    · simp only [rawFee, hflat, hpercent, ne_eq, not_true_eq_false, if_false]
    · simp only [rawFee, hflat, hpercent, ne_eq, not_true_eq_false, not_false_eq_true, if_false,
        if_true]
      exact clamp_rounded hflat hgap
  · simp only [rawFee, hflat, ne_eq, not_false_eq_true, if_true]

theorem assessFee_nonneg (hread : terms.ReadFrom L action values) {grossOutput fee : Int}
    (h : assessFee L action grossOutput values = .ok fee) : 0 ≤ fee := by
  rw [assessFee_eq hread] at h
  obtain ⟨rawFee, -, hfee⟩ := Except.bind_eq_ok.1 h
  cases hfee
  exact clamp_nonneg rawFee

theorem nominalFeeRebate_agree {pythonValues : StructValues}
    (hpython : terms.ReadFrom .python action pythonValues)
    (htypescript : terms.ReadFrom .typescript action values) {fee : Int} (hfee : 0 ≤ fee) :
    nominalFeeRebate .python fee pythonValues = nominalFeeRebate .typescript fee values := by
  have hproduct : 0 ≤ fee * (terms.rebateBasisPoints : Int) :=
    mul_nonneg hfee (Int.natCast_nonneg _)
  unfold nominalFeeRebate
  rw [hpython.flatRebate, hpython.rebateBasisPoints, hpython.rebateCap, htypescript.flatRebate,
    htypescript.rebateBasisPoints, htypescript.rebateCap]
  dsimp only [Bind.bind, Except.bind]
  rw [Language.divide_eq hproduct (by decide), Language.divide_eq hproduct (by decide)]

/-- What follows the assessed fee is computed alike. -/
theorem computeFeeQuote_agree {pythonValues : StructValues}
    (hpython : terms.ReadFrom .python action pythonValues)
    (htypescript : terms.ReadFrom .typescript action values) {grossOutput : Int}
    (hgap : ¬ terms.RoundsUp grossOutput) (grossInput nowUnixTimestamp : Int) :
    computeFeeQuote .python action grossInput grossOutput (some pythonValues) nowUnixTimestamp =
      computeFeeQuote .typescript action grossInput grossOutput (some values)
        nowUnixTimestamp := by
  simp only [computeFeeQuote]
  rw [hpython.flags, hpython.effectiveFrom, hpython.effectiveUntil, htypescript.flags,
    htypescript.effectiveFrom, htypescript.effectiveUntil,
    assessFee_agree hpython htypescript hgap]
  refine Except.bind_congr_of_ok fun _ _ => Except.bind_congr_of_ok fun _ _ =>
    Except.bind_congr_of_ok fun _ _ => Except.bind_congr_of_ok fun fee hfee => ?_
  rw [nominalFeeRebate_agree hpython htypescript (assessFee_nonneg htypescript hfee),
    hpython.floorZero, hpython.recipientPolicy, hpython.recipientOwner, htypescript.floorZero,
    htypescript.recipientPolicy, htypescript.recipientOwner]

/-- A fee quote reports the fee that was assessed. -/
theorem computeFeeQuote_of_assessFee (hread : terms.ReadFrom L action values)
    {grossOutput fee : Int} (hfee : assessFee L action grossOutput values = .ok fee)
    (grossInput nowUnixTimestamp : Int) :
    ∃ quote, computeFeeQuote L action grossInput grossOutput (some values) nowUnixTimestamp =
      .ok quote ∧ quote.assessedFee = fee := by
  have hrebate : ∃ rebate, nominalFeeRebate L fee values = .ok rebate := by
    unfold nominalFeeRebate
    rw [hread.flatRebate, hread.rebateBasisPoints, hread.rebateCap]
    exact ⟨_, rfl⟩
  obtain ⟨rebate, hrebate⟩ := hrebate
  simp only [computeFeeQuote]
  rw [hread.flags, hread.effectiveFrom, hread.effectiveUntil, hfee]
  dsimp only [Bind.bind, Except.bind]
  rw [hrebate, hread.floorZero, hread.recipientPolicy, hread.recipientOwner]
  exact ⟨_, rfl, rfl⟩

/-- CEILING rounding of less than one unit below zero. -/
theorem roundedBasisPoints_ceiling {grossOutput percent : Int}
    (hlower : -10000 < grossOutput * percent) (hneg : grossOutput * percent < 0) :
    roundedBasisPoints .typescript grossOutput percent 1 = .ok 1 ∧
      roundedBasisPoints .python grossOutput percent 1 = .ok 0 := by
  unfold roundedBasisPoints
  dsimp only [Language.divide, Language.remainder]
  generalize grossOutput * percent = product at hlower hneg
  obtain ⟨amount, rfl⟩ : ∃ amount : Int, product = -amount := ⟨-product, (neg_neg product).symm⟩
  have hamount : 0 ≤ amount := by omega
  have htruncated : (-amount).tdiv 10000 = 0 ∧ (-amount).tmod 10000 ≠ 0 := by
    rw [Int.neg_tdiv, Int.neg_tmod, Int.tdiv_eq_ediv_of_nonneg hamount,
      Int.tmod_eq_emod_of_nonneg hamount]
    omega
  have hfloor : (-amount).fdiv 10000 = -1 ∧ (-amount).fmod 10000 ≠ 0 := by
    rw [Int.fdiv_eq_ediv_of_nonneg _ (by decide), Int.fmod_eq_emod_of_nonneg _ (by decide)]
    omega
  constructor
  · rw [if_neg (by decide), if_pos rfl, htruncated.1, if_neg htruncated.2]
    rfl
  · rw [if_neg (by decide), if_pos rfl, hfloor.1, if_neg hfloor.2]
    rfl

/-- Rounding up a negative amount, TypeScript charges one unit where Python charges none. -/
theorem assessFee_roundsUp {grossOutput : Int} (hgap : terms.RoundsUp grossOutput)
    (hread : terms.ReadFrom L action values) :
    assessFee L action grossOutput values = .ok (if L = .typescript then 1 else 0) := by
  obtain ⟨hflat, hmode, hminimum, hlower, hneg⟩ := hgap
  have hpercent : terms.percent ≠ 0 := by
    intro hzero
    rw [hzero] at hneg
    simp at hneg
  obtain ⟨htypescript, hpython⟩ := roundedBasisPoints_ceiling hlower hneg
  rw [assessFee_eq hread]
  simp only [rawFee, hflat, hpercent, hmode, ne_eq, not_true_eq_false, not_false_eq_true, if_false,
    if_true]
  cases L with
  | typescript =>
    show roundedBasisPoints .typescript grossOutput terms.percent 1 >>= _ = _
    rw [htypescript]
    show Except.ok (terms.clamp 1) = .ok 1
    rw [clamp_one, hminimum]
    rfl
  | python =>
    show roundedBasisPoints .python grossOutput terms.percent 1 >>= _ = _
    rw [hpython]
    show Except.ok (terms.clamp 0) = .ok 0
    rw [clamp_of_nonpos le_rfl, hminimum]
    rfl

end FeeTerms

/-- **Fee quotes agree** exactly where no negative amount is rounded up. -/
theorem feeQuote_agree_iff (action : SettlementAction) (grossInput grossOutput : Int)
    (policy : Option (DecodedRecord "FeePolicy")) (nowUnixTimestamp : Int) :
    Agree
      (computeFeeQuote .typescript action grossInput grossOutput
        (policy.map (·.values .typescript)) nowUnixTimestamp)
      (computeFeeQuote .python action grossInput grossOutput (policy.map (·.values .python))
        nowUnixTimestamp) ↔
      ∀ record ∈ policy, ¬ RoundsUpNegative action grossOutput (record.values .typescript) := by
  cases policy with
  | none =>
    constructor
    · intro _ record hrecord
      cases hrecord
    · intro _
      exact Agree.of_eq rfl
  | some policy =>
    obtain ⟨terms, hterms⟩ := feeTerms_of_record policy action
    have hiff := FeeTerms.roundsUpNegative_iff (hterms .typescript) grossOutput
    constructor
    · intro hagree record hrecord hgap
      cases hrecord
      have hup := hiff.1 hgap
      obtain ⟨quote, hquote, hfee⟩ := FeeTerms.computeFeeQuote_of_assessFee (hterms .typescript)
        (FeeTerms.assessFee_roundsUp hup (hterms .typescript)) grossInput nowUnixTimestamp
      obtain ⟨quote', hquote', hfee'⟩ := FeeTerms.computeFeeQuote_of_assessFee (hterms .python)
        (FeeTerms.assessFee_roundsUp hup (hterms .python)) grossInput nowUnixTimestamp
      unfold Agree at hagree
      rw [Option.map_some, Option.map_some, hquote, hquote'] at hagree
      cases hagree
      rw [hfee] at hfee'
      simp at hfee'
    · intro hgap
      have hup : ¬ terms.RoundsUp grossOutput := fun h => hgap policy rfl (hiff.2 h)
      exact Agree.of_eq (FeeTerms.computeFeeQuote_agree (hterms .python) (hterms .typescript) hup
        grossInput nowUnixTimestamp).symm

theorem computeFeeQuote_agree (action : SettlementAction) (grossInput : Int) {grossOutput : Int}
    (hgross : 0 ≤ grossOutput) (policy : Option (DecodedRecord "FeePolicy"))
    (nowUnixTimestamp : Int) :
    computeFeeQuote .python action grossInput grossOutput (policy.map (·.values .python))
        nowUnixTimestamp =
      computeFeeQuote .typescript action grossInput grossOutput
        (policy.map (·.values .typescript)) nowUnixTimestamp := by
  cases policy with
  | none => rfl
  | some policy =>
    obtain ⟨terms, hterms⟩ := feeTerms_of_record policy action
    exact FeeTerms.computeFeeQuote_agree (hterms .python) (hterms .typescript)
      (FeeTerms.not_roundsUp hgross) grossInput nowUnixTimestamp

/-! ## Effective quotes -/

theorem calculateTokenTransferFee_agree (amount : Int)
    (config : Option Token2022TransferFeeConfig) (currentEpoch : Nat) :
    calculateTokenTransferFee .python amount config currentEpoch =
      calculateTokenTransferFee .typescript amount config currentEpoch := by
  have hepoch : ¬ (currentEpoch : Int) < 0 := by omega
  unfold calculateTokenTransferFee
  split
  · rfl
  · have hamount : 0 ≤ amount := not_lt.1 ‹_›
    simp only [hepoch, and_false, if_false]
    cases config with
    | none => rfl
    | some config =>
      refine Except.bind_congr_of_ok fun activeFee _ => ?_
      unfold activeTransferFeeCalculation
      rw [transferFeeAmount_eq hamount, transferFeeAmount_eq hamount]

theorem computeSettlementGrossOutput_agree (action : SettlementAction) (inputAmount : Int)
    (asset : DecodedRecord "AssetConfig") :
    computeSettlementGrossOutput .python action inputAmount (asset.values .python) =
      computeSettlementGrossOutput .typescript action inputAmount (asset.values .typescript) := by
  have htype : fieldType "AssetConfig" (rateField action) = some (.primitive .u64) := by
    cases action <;> rfl
  obtain ⟨rate, hrate⟩ := asset.unsigned (rateField action) htype
  unfold computeSettlementGrossOutput
  split
  · rfl
  · have hproduct : 0 ≤ inputAmount * (rate : Int) :=
      mul_nonneg (not_lt.1 ‹_›) (Int.natCast_nonneg rate)
    rw [hrate .python, hrate .typescript]
    dsimp only [Bind.bind, Except.bind]
    rw [Language.divide_eq hproduct (by decide), Language.divide_eq hproduct (by decide)]

theorem ratioOf_agree {numerator denominator : Int} (hnumerator : 0 ≤ numerator)
    (hdenominator : 0 ≤ denominator) :
    ratioOf .python numerator denominator = ratioOf .typescript numerator denominator := by
  unfold ratioOf
  rw [Language.divide_eq hnumerator hdenominator, Language.divide_eq hnumerator hdenominator]

/-- **Effective quotes agree** on every input. -/
theorem effectiveQuote_agree (action : SettlementAction) (requestedInputAmount : Int)
    (asset : DecodedRecord "AssetConfig") (assetMintValues : Option DecodedTokenMint)
    (policy : Option (DecodedRecord "FeePolicy")) (nowUnixTimestamp : Int) (currentEpoch : Nat) :
    computeSettlementEffectiveQuote .python action requestedInputAmount (asset.values .python)
        assetMintValues (policy.map (·.values .python)) nowUnixTimestamp currentEpoch =
      computeSettlementEffectiveQuote .typescript action requestedInputAmount
        (asset.values .typescript) assetMintValues (policy.map (·.values .typescript))
        nowUnixTimestamp currentEpoch := by
  have htype : fieldType "AssetConfig" (rateField action) = some (.primitive .u64) := by
    cases action <;> rfl
  obtain ⟨rate, hrate⟩ := asset.unsigned (rateField action) htype
  have hin : ∀ config, inputTransfer .python action requestedInputAmount config currentEpoch =
      inputTransfer .typescript action requestedInputAmount config currentEpoch := by
    intro config
    cases action <;> simp only [inputTransfer, calculateTokenTransferFee_agree]
  have hout : ∀ amount config, outputTransfer .python action amount config currentEpoch =
      outputTransfer .typescript action amount config currentEpoch := by
    intro amount config
    cases action <;> simp only [outputTransfer, calculateTokenTransferFee_agree]
  unfold computeSettlementEffectiveQuote
  split
  · rfl
  · have hrequested : 0 ≤ requestedInputAmount := not_lt.1 ‹_›
    rw [hrate .python, hrate .typescript, computeSettlementGrossOutput_agree]
    refine Except.bind_congr_of_ok fun _ _ => Except.bind_congr_of_ok fun configured hconfigured =>
      ?_
    dsimp only
    rw [hin]
    refine Except.bind_congr_of_ok fun input hinput => ?_
    rw [computeSettlementGrossOutput_agree]
    refine Except.bind_congr_of_ok fun gross hgross => ?_
    have hrateNonneg : (0 : Int) ≤ rate := Int.natCast_nonneg rate
    have hconfiguredNonneg : 0 ≤ configured := by
      rw [(grossOutput_eq (hrate .typescript) hrateNonneg hconfigured).2]
      exact Int.ediv_nonneg (mul_nonneg hrequested hrateNonneg) (by decide)
    have hgrossNonneg : 0 ≤ gross := by
      obtain ⟨hrateInput, hgross⟩ := grossOutput_eq (hrate .typescript) hrateNonneg hgross
      rw [hgross]
      exact Int.ediv_nonneg (mul_nonneg hrateInput hrateNonneg) (by decide)
    rw [computeFeeQuote_agree action _ hgrossNonneg]
    refine Except.bind_congr_of_ok fun feeQuote hfeeQuote => ?_
    rw [hout]
    refine Except.bind_congr_of_ok fun transfer htransfer => ?_
    have hrouted : routedTransfer .python action feeQuote
        (assetMintValues.bind (·.transferFeeConfig)) currentEpoch =
          routedTransfer .typescript action feeQuote
            (assetMintValues.bind (·.transferFeeConfig)) currentEpoch := by
      unfold routedTransfer
      rw [hout]
    rw [hrouted]
    refine Except.bind_congr_of_ok fun routed _ => ?_
    have hnetFee := (computeFeeQuote_ok hfeeQuote).1
    have hreceived : 0 ≤ transfer.receivedAmount := by
      cases action with
      | mint =>
        simp only [outputTransfer] at htransfer
        exact (calculateTokenTransferFee_ok htransfer).1
      | redeem =>
        simp only [outputTransfer] at htransfer
        exact (calculateTokenTransferFee_ok htransfer).1
    rw [ratioOf_agree (by omega) hgrossNonneg, ratioOf_agree (by omega) hconfiguredNonneg,
      ratioOf_agree (by omega) hrequested]

/-! ## Limits -/

/-- TypeScript's correction of a truncated quotient makes it a floor. -/
theorem floorDivision_eq (numerator : Int) {denominator : Int} (hpos : 0 < denominator) :
    floorDivision numerator denominator = numerator.fdiv denominator := by
  unfold floorDivision
  dsimp only
  rw [Int.fdiv_eq_ediv_of_nonneg _ hpos.le, Int.tdiv_eq_ediv]
  by_cases hnonneg : 0 ≤ numerator
  · have hremainder := Int.tmod_nonneg denominator hnonneg
    rw [if_neg, if_pos (Or.inl hnonneg), add_zero]
    rintro ⟨hne, hsigns⟩
    have hremainderPos : 0 < numerator.tmod denominator := by omega
    simp [hremainderPos, hpos] at hsigns
  · by_cases hdvd : denominator ∣ numerator
    · rw [if_neg, if_pos (Or.inr hdvd), add_zero]
      rintro ⟨hne, -⟩
      exact hne (Int.tmod_eq_zero_of_dvd hdvd)
    · have hne : numerator.tmod denominator ≠ 0 := fun h => hdvd (Int.dvd_of_tmod_eq_zero h)
      have hremainder : ¬ 0 < numerator.tmod denominator := by
        have hneg := Int.tmod_nonneg denominator (by omega : 0 ≤ -numerator)
        rw [Int.neg_tmod] at hneg
        omega
      rw [if_pos ⟨hne, by simp [hremainder, hpos]⟩, if_neg (by tauto), Int.sign_eq_one_of_pos hpos]
      omega

theorem canonicalWindowStart_agree (windowKind : Nat) (unixTimestamp : Int) :
    canonicalWindowStart .python windowKind unixTimestamp =
      canonicalWindowStart .typescript windowKind unixTimestamp := by
  unfold canonicalWindowStart
  refine Except.bind_congr_of_ok fun period hperiod => ?_
  have hpos : 0 < period := by
    unfold periodSeconds at hperiod
    split at hperiod <;> cases hperiod <;> decide
  dsimp only
  rw [floorDivision_eq unixTimestamp hpos]

/-- The windows with their values mapped. -/
def UsageWindows.map {α β : Type} (f : α → β) (windows : UsageWindows α) : UsageWindows β where
  hourly := windows.hourly.map f
  daily := windows.daily.map f
  weekly := windows.weekly.map f
  monthly := windows.monthly.map f

@[simp] theorem UsageWindows.get_map {α β : Type} (f : α → β) (windows : UsageWindows α)
    (name : UsageWindowName) : (windows.map f).get name = (windows.get name).map f := by
  cases name <;> rfl

theorem windowUsage_agree (action : SettlementAction)
    (window : Option (DecodedRecord "UsageWindow")) (canonicalStart : Int) :
    windowUsage .python action (window.map (·.values .python)) canonicalStart =
      windowUsage .typescript action (window.map (·.values .typescript)) canonicalStart := by
  cases window with
  | none => rfl
  | some window =>
    have htype : fieldType "UsageWindow" (accumulatorField action) =
        some (.array (.primitive .u64) 2) := by cases action <;> rfl
    obtain ⟨start, hstart⟩ := window.signed "window_start_unix_timestamp" rfl
    obtain ⟨words, hwords⟩ := window.words (accumulatorField action) htype
    obtain ⟨count, -, hcount⟩ := window.number "action_count" rfl rfl
    simp only [Option.map_some, windowUsage, storedCounters]
    rw [hstart, hstart, hwords, hwords, hcount, hcount]

theorem observeLimitWindow_agree (policy : DecodedRecord "LimitPolicy") (action : SettlementAction)
    (proposedAmount : Int) (window : Option (DecodedRecord "UsageWindow"))
    (nowUnixTimestamp : Int) (name : UsageWindowName) :
    observeLimitWindow .python (policy.values .python) action proposedAmount
        (window.map (·.values .python)) nowUnixTimestamp name =
      observeLimitWindow .typescript (policy.values .typescript) action proposedAmount
        (window.map (·.values .typescript)) nowUnixTimestamp name := by
  have htype : fieldType "LimitPolicy" name.maximumField = some (.primitive .u64) := by
    cases name <;> rfl
  obtain ⟨maximum, hmaximum⟩ := policy.unsigned name.maximumField htype
  have hactions : maximumActions .python (policy.values .python) name =
      maximumActions .typescript (policy.values .typescript) name := by
    have hnumber : ∀ actionsField ∈ name.actionsField,
        fieldType "LimitPolicy" actionsField = some (.primitive .u32) := by
      cases name <;> rintro _ ⟨⟩ <;> rfl
    unfold maximumActions
    cases hfield : name.actionsField with
    | none => rfl
    | some actionsField =>
      obtain ⟨count, -, hcount⟩ := policy.number actionsField (hnumber actionsField hfield) rfl
      dsimp only
      rw [hcount, hcount]
  unfold observeLimitWindow
  rw [hmaximum, hmaximum, hactions, canonicalWindowStart_agree]
  refine Except.bind_congr_of_ok fun _ _ => Except.bind_congr_of_ok fun _ _ =>
    Except.bind_congr_of_ok fun canonicalStart _ => ?_
  rw [windowUsage_agree]

/-- **Limits agree** on every input. -/
theorem limitPolicy_agree (policy : DecodedRecord "LimitPolicy") (action : SettlementAction)
    (proposedAmount : Int) (windows : UsageWindows (DecodedRecord "UsageWindow"))
    (nowUnixTimestamp : Int) :
    observeLimitPolicy .python (policy.values .python) action proposedAmount
        (windows.map (·.values .python)) nowUnixTimestamp =
      observeLimitPolicy .typescript (policy.values .typescript) action proposedAmount
        (windows.map (·.values .typescript)) nowUnixTimestamp := by
  obtain ⟨maximum, hmaximum⟩ := policy.unsigned "per_transaction_maximum" rfl
  unfold observeLimitPolicy
  simp only [UsageWindows.get_map, observeLimitWindow_agree]
  rw [hmaximum, hmaximum]

/-! ## Settlement policies -/

theorem settlementModeBits_agree {modes : Nat} (h : modes < 2 ^ 32) :
    settlementModeBits .python modes = settlementModeBits .typescript modes := by
  unfold settlementModeBits
  dsimp only
  omega

/-- **Settlement policies agree** on every input. -/
theorem settlementPolicy_agree (client : ChanceryClient)
    (policy : DecodedRecord "SettlementPolicy") (mode : SettlementMode)
    (assetMint principalA principalB executor : PublicKey)
    (inputNotional nowUnixTimestamp : Int) (expectedAddress : PublicKey) (expectedBump : Nat) :
    observeSettlementPolicy { client with language := .python } (policy.values .python) mode
        assetMint principalA principalB executor inputNotional nowUnixTimestamp expectedAddress
        expectedBump =
      observeSettlementPolicy { client with language := .typescript } (policy.values .typescript)
        mode assetMint principalA principalB executor inputNotional nowUnixTimestamp
        expectedAddress expectedBump := by
  obtain ⟨policyId, hlength, hid⟩ := policy.bytes "policy_id" rfl
  obtain ⟨bump, -, hbump⟩ := policy.number "bump" rfl rfl
  obtain ⟨flags, hflags⟩ := policy.unsigned "policy_flags" rfl
  obtain ⟨modes, hmodesLt, hmodes⟩ := policy.number "allowed_settlement_modes" rfl rfl
  obtain ⟨mint, hmint⟩ := policy.publicKey "allowed_asset_mint" rfl
  obtain ⟨allowedA, hallowedA⟩ := policy.publicKey "allowed_principal_a" rfl
  obtain ⟨allowedB, hallowedB⟩ := policy.publicKey "allowed_principal_b" rfl
  obtain ⟨designated, hdesignated⟩ := policy.publicKey "designated_executor" rfl
  obtain ⟨minimum, hminimum⟩ := policy.unsigned "min_notional" rfl
  obtain ⟨maximum, hmaximum⟩ := policy.unsigned "max_notional" rfl
  obtain ⟨validAfter, hvalidAfter⟩ := policy.signed "valid_after_unix_timestamp" rfl
  obtain ⟨expiresAt, hexpiresAt⟩ := policy.signed "expires_at_unix_timestamp" rfl
  have haddress : deriveSettlementPolicyAddress { client with language := .python } policyId =
      deriveSettlementPolicyAddress { client with language := .typescript } policyId := by
    simp only [deriveSettlementPolicyAddress, deriveIdentifiedAddress, bytes32FromInput, hlength,
      ne_eq, not_true_eq_false, if_false]
    rfl
  unfold observeSettlementPolicy
  dsimp only
  rw [hid, hid, hbump, hbump, hflags, hflags, hmodes, hmodes, hmint, hmint, hallowedA, hallowedA,
    hallowedB, hallowedB, hdesignated, hdesignated, hminimum, hminimum, hmaximum, hmaximum,
    hvalidAfter, hvalidAfter, hexpiresAt, hexpiresAt]
  refine Except.bind_congr_of_ok fun _ hpolicyId => ?_
  cases hpolicyId
  rw [haddress]
  refine Except.bind_congr_of_ok fun derived _ => ?_
  dsimp only [Bind.bind, Except.bind]
  rw [settlementModeBits_agree hmodesLt]

/-! ## The four calculations -/

/-- Arguments for the four calculations, with accounts that both languages have decoded. -/
structure PolicyArguments where
  client : ChanceryClient
  action : SettlementAction
  mode : SettlementMode
  asset : DecodedRecord "AssetConfig"
  assetMintValues : Option DecodedTokenMint
  feePolicy : Option (DecodedRecord "FeePolicy")
  limitPolicy : DecodedRecord "LimitPolicy"
  windows : UsageWindows (DecodedRecord "UsageWindow")
  settlementPolicy : DecodedRecord "SettlementPolicy"
  requestedInputAmount : Int
  grossInput : Int
  grossOutput : Int
  proposedAmount : Int
  inputNotional : Int
  assetMint : PublicKey
  principalA : PublicKey
  principalB : PublicKey
  executor : PublicKey
  expectedAddress : PublicKey
  expectedBump : Nat
  nowUnixTimestamp : Int
  currentEpoch : Nat

namespace PolicyArguments

variable (given : PolicyArguments)

/-- Both languages give the same effective quote. -/
def EffectiveQuotesAgree : Prop :=
  Agree
    (computeSettlementEffectiveQuote .typescript given.action given.requestedInputAmount
      (given.asset.values .typescript) given.assetMintValues
      (given.feePolicy.map (·.values .typescript)) given.nowUnixTimestamp given.currentEpoch)
    (computeSettlementEffectiveQuote .python given.action given.requestedInputAmount
      (given.asset.values .python) given.assetMintValues
      (given.feePolicy.map (·.values .python)) given.nowUnixTimestamp given.currentEpoch)

/-- Both languages give the same fee quote. -/
def FeeQuotesAgree : Prop :=
  Agree
    (computeFeeQuote .typescript given.action given.grossInput given.grossOutput
      (given.feePolicy.map (·.values .typescript)) given.nowUnixTimestamp)
    (Python.computeFeeQuote given.action given.grossInput given.grossOutput
      (given.feePolicy.map (·.values .python)) given.nowUnixTimestamp)

/-- Both languages observe the limit policy alike. -/
def LimitPoliciesAgree : Prop :=
  Agree
    (observeLimitPolicy .typescript (given.limitPolicy.values .typescript) given.action
      given.proposedAmount (given.windows.map (·.values .typescript)) given.nowUnixTimestamp)
    (observeLimitPolicy .python (given.limitPolicy.values .python) given.action
      given.proposedAmount (given.windows.map (·.values .python)) given.nowUnixTimestamp)

/-- Both languages observe the settlement policy alike. -/
def SettlementPoliciesAgree : Prop :=
  Agree
    (observeSettlementPolicy { given.client with language := .typescript }
      (given.settlementPolicy.values .typescript) given.mode given.assetMint given.principalA
      given.principalB given.executor given.inputNotional given.nowUnixTimestamp
      given.expectedAddress given.expectedBump)
    (observeSettlementPolicy { given.client with language := .python }
      (given.settlementPolicy.values .python) given.mode given.assetMint given.principalA
      given.principalB given.executor given.inputNotional given.nowUnixTimestamp
      given.expectedAddress given.expectedBump)

/-- All four calculations agree. -/
def PoliciesAgree : Prop :=
  given.EffectiveQuotesAgree ∧ given.FeeQuotesAgree ∧ given.LimitPoliciesAgree ∧
    given.SettlementPoliciesAgree

theorem effectiveQuotesAgree : given.EffectiveQuotesAgree :=
  Agree.of_eq (effectiveQuote_agree given.action given.requestedInputAmount given.asset
    given.assetMintValues given.feePolicy given.nowUnixTimestamp given.currentEpoch).symm

theorem limitPoliciesAgree : given.LimitPoliciesAgree :=
  Agree.of_eq (limitPolicy_agree given.limitPolicy given.action given.proposedAmount given.windows
    given.nowUnixTimestamp).symm

theorem settlementPoliciesAgree : given.SettlementPoliciesAgree :=
  Agree.of_eq (settlementPolicy_agree given.client given.settlementPolicy given.mode
    given.assetMint given.principalA given.principalB given.executor given.inputNotional
    given.nowUnixTimestamp given.expectedAddress given.expectedBump).symm

/-- **The languages agree on all four calculations** exactly where no negative amount is rounded
up; an output that is no loss never is. -/
theorem policies_agree_iff :
    given.PoliciesAgree ↔ ∀ record ∈ given.feePolicy,
      ¬ RoundsUpNegative given.action given.grossOutput (record.values .typescript) := by
  have hfee := feeQuote_agree_iff given.action given.grossInput given.grossOutput given.feePolicy
    given.nowUnixTimestamp
  rw [← Python.computeFeeQuote_eq] at hfee
  constructor
  · rintro ⟨-, hagree, -, -⟩
    exact hfee.1 hagree
  · intro hgap
    exact ⟨given.effectiveQuotesAgree, hfee.2 hgap, given.limitPoliciesAgree,
      given.settlementPoliciesAgree⟩

end PolicyArguments

def sampleRecord (accountName : String) (data : Bytes)
    (h : ∀ L : Language,
      (decodeAccountWith L.dialect data).toOption.any (·.name == accountName) = true) :
    DecodedRecord accountName where
  data := data
  values := fun L => decodedValues L data
  decodes := fun L => decodeAccount_decodedValues (h L)

/-- A fee quote for a loss of one unit, at 25 basis points rounded up. -/
def lossArguments : PolicyArguments where
  client := Sample.client .typescript
  action := .redeem
  mode := .direct
  asset := sampleRecord "AssetConfig" sampleAssetConfig.data (by
    intro L
    cases L <;> decide +kernel)
  assetMintValues := none
  feePolicy := some (sampleRecord "FeePolicy" sampleFeePolicy.data (by
    intro L
    cases L <;> decide +kernel))
  limitPolicy := sampleRecord "LimitPolicy" (Sample.state "LimitPolicy" []).data (by
    intro L
    cases L <;> decide +kernel)
  windows := ⟨none, none, none, none⟩
  settlementPolicy := sampleRecord "SettlementPolicy" (Sample.state "SettlementPolicy" []).data (by
    intro L
    cases L <;> decide +kernel)
  requestedInputAmount := 0
  grossInput := 0
  grossOutput := -1
  proposedAmount := 0
  inputNotional := 0
  assetMint := zeroAddress
  principalA := zeroAddress
  principalB := zeroAddress
  executor := zeroAddress
  expectedAddress := zeroAddress
  expectedBump := 0
  nowUnixTimestamp := 1000
  currentEpoch := 0

/-- TypeScript assesses a fee of one unit there, Python none. -/
theorem lossArguments_disagree : ¬ lossArguments.PoliciesAgree := by
  rintro ⟨-, hfee, -, -⟩
  simp only [PolicyArguments.FeeQuotesAgree, Agree, lossArguments, sampleRecord,
    Option.map_some] at hfee
  have hassessed := congrArg (Option.map FeeQuote.assessedFee) hfee
  revert hassessed
  decide +kernel

end Chancery
