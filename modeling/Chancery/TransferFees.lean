import Mathlib.Data.Rat.Floor
import Chancery.QuoteLaws
import Chancery.TokenExtensions

/-!
# Transfer fees of decoded schedules

`decodeTransferFeeConfig` bounds the basis points of both schedules, and that bound is all that
keeps `calculateTokenTransferFee` from charging more than the amount.

* `scheduleInForce`, `proportionalFee` — which schedule applies, and its fee before the cap.
* `calculateTokenTransferFee_decoded` — the calculation in closed form.
* `decodedTransferFee_exact` — what a transfer under a decoded configuration costs.
-/

set_option autoImplicit false

namespace Chancery

variable {L : Language}

/-- The newer schedule applies from its epoch on. -/
def scheduleInForce (config : Token2022TransferFeeConfig) (currentEpoch : Int) :
    Token2022TransferFee :=
  if config.newerTransferFee.epoch ≤ currentEpoch then config.newerTransferFee
  else config.olderTransferFee

/-- A share of the amount in basis points, rounded up. -/
def proportionalFee (amount : Int) (basisPoints : Nat) : Int :=
  ⌈((amount * basisPoints : Int) : ℚ) / (10000 : Nat)⌉

def feeExceedsAmount : String := "Calculated transfer fee exceeds transfer amount"

/-! ## The decoded bound -/

theorem scheduleInForce_bound {value : Bytes} {config : Token2022TransferFeeConfig}
    (h : decodeTransferFeeConfig value = .ok config) (currentEpoch : Int) :
    (scheduleInForce config currentEpoch).transferFeeBasisPoints ≤ 10000 := by
  obtain ⟨hlayout, rfl⟩ := decodeTransferFeeConfig_iff.1 h
  unfold scheduleInForce
  split
  · exact hlayout.newer_le
  · exact hlayout.older_le

theorem selectActiveTransferFee_eq {config : Token2022TransferFeeConfig} {currentEpoch : Int}
    (hepoch : 0 ≤ currentEpoch) :
    selectActiveTransferFee config currentEpoch = .ok (scheduleInForce config currentEpoch) := by
  rw [selectActiveTransferFee, if_neg (not_lt.2 hepoch), scheduleInForce]
  by_cases hnewer : config.newerTransferFee.epoch ≤ currentEpoch
  · rw [if_pos hnewer, if_neg (not_lt.2 hnewer)]
  · rw [if_neg hnewer, if_pos (not_le.1 hnewer)]

/-! ## The proportional fee -/

theorem proportionalFee_eq (amount : Int) (basisPoints : Nat) :
    proportionalFee amount basisPoints = (amount * basisPoints + 9999) / 10000 := by
  rw [proportionalFee, Rat.ceil_intCast_div_natCast]
  omega

theorem transferFeeAmount_proportional {amount : Int} (hamount : 0 ≤ amount)
    (activeFee : Token2022TransferFee) : transferFeeAmount L amount activeFee =
      min (proportionalFee amount activeFee.transferFeeBasisPoints) activeFee.maximumFee := by
  rw [transferFeeAmount_eq hamount, proportionalFee_eq]

theorem proportionalFee_le {amount : Int} {basisPoints : Nat} (hamount : 0 ≤ amount)
    (hbound : basisPoints ≤ 10000) : proportionalFee amount basisPoints ≤ amount := by
  have hmul : amount * basisPoints ≤ amount * 10000 :=
    mul_le_mul_of_nonneg_left (by exact_mod_cast hbound) hamount
  rw [proportionalFee_eq]
  omega

theorem proportionalFee_pos_iff {amount : Int} {basisPoints : Nat} (hamount : 0 ≤ amount) :
    0 < proportionalFee amount basisPoints ↔ amount ≠ 0 ∧ basisPoints ≠ 0 := by
  have hnonneg : 0 ≤ amount * (basisPoints : Int) := mul_nonneg hamount (Int.natCast_nonneg _)
  have hfree : amount * (basisPoints : Int) = 0 ↔ amount = 0 ∨ basisPoints = 0 := by
    rw [mul_eq_zero, Int.natCast_eq_zero]
  rw [proportionalFee_eq, ← not_or, ← hfree]
  omega

/-- Both roundings of one share: at most one basis-point unit for a unit of the amount. -/
theorem proportionalFee_slope {a b : Int} {basisPoints : Nat} (hbound : basisPoints ≤ 10000)
    (hab : a ≤ b) : proportionalFee a basisPoints ≤ proportionalFee b basisPoints ∧
      proportionalFee b basisPoints - proportionalFee a basisPoints ≤ b - a := by
  rw [proportionalFee_eq, proportionalFee_eq]
  have hbps : (basisPoints : Int) ≤ 10000 := by exact_mod_cast hbound
  exact ⟨monotone_mul_add_ediv (Int.natCast_nonneg _) (by decide) 9999 hab,
    gentle_mul_add_ediv hbps (by decide) 9999 hab⟩

/-! ## The calculation -/

theorem calculateTokenTransferFee_decoded {value : Bytes} {config : Token2022TransferFeeConfig}
    (hconfig : decodeTransferFeeConfig value = .ok config) {amount currentEpoch : Int}
    (hamount : 0 ≤ amount) (hepoch : 0 ≤ currentEpoch) :
    calculateTokenTransferFee L amount (some config) currentEpoch = .ok {
      epoch := currentEpoch
      amount := amount
      transferFeeBasisPoints := (scheduleInForce config currentEpoch).transferFeeBasisPoints
      maximumFee := (scheduleInForce config currentEpoch).maximumFee
      feeAmount := transferFeeAmount L amount (scheduleInForce config currentEpoch)
      receivedAmount := amount -
        transferFeeAmount L amount (scheduleInForce config currentEpoch) } := by
  have hbound := scheduleInForce_bound hconfig currentEpoch
  have hcovered : transferFeeAmount L amount (scheduleInForce config currentEpoch) ≤ amount := by
    rw [transferFeeAmount_proportional hamount]
    exact (min_le_left _ _).trans (proportionalFee_le hamount hbound)
  rw [calculateTokenTransferFee, if_neg (not_lt.2 hamount),
    if_neg fun hpython => absurd hpython.2 (not_lt.2 hepoch)]
  rw [selectActiveTransferFee_eq hepoch]
  exact if_neg (not_lt.2 hcovered)

/-- **What a transfer costs** under a decoded configuration: the fee never exceeds the amount, it
is the capped proportional fee of the schedule in force, nothing is lost, more passed on means more
received but no more than was added, and only an empty amount, a zero rate or a zero cap is free. -/
theorem decodedTransferFee_exact (L : Language) {value : Bytes}
    {config : Token2022TransferFeeConfig} (hconfig : decodeTransferFeeConfig value = .ok config)
    {amount : Int} (hamount : 0 ≤ amount) (currentEpoch : Int) :
    calculateTokenTransferFee L amount (some config) currentEpoch ≠ .error feeExceedsAmount ∧
    (0 ≤ currentEpoch →
      ∃ transfer, calculateTokenTransferFee L amount (some config) currentEpoch = .ok transfer ∧
        transfer.feeAmount =
          min (proportionalFee amount (scheduleInForce config currentEpoch).transferFeeBasisPoints)
            (scheduleInForce config currentEpoch).maximumFee ∧
        transfer.feeAmount + transfer.receivedAmount = amount ∧
        (transfer.feeAmount = 0 ↔ amount = 0 ∨
          (scheduleInForce config currentEpoch).transferFeeBasisPoints = 0 ∨
          (scheduleInForce config currentEpoch).maximumFee = 0) ∧
        ∀ larger, amount ≤ larger →
          ∃ transfer', calculateTokenTransferFee L larger (some config) currentEpoch =
              .ok transfer' ∧
            transfer.receivedAmount ≤ transfer'.receivedAmount ∧
            transfer'.receivedAmount - transfer.receivedAmount ≤ larger - amount) := by
  have hbound := scheduleInForce_bound hconfig currentEpoch
  constructor
  · intro herror
    rcases lt_or_ge currentEpoch 0 with hnegative | hepoch
    · have hselect : calculateTokenTransferFee L amount (some config) currentEpoch =
          .error "Current epoch must be non-negative" := by
        rw [calculateTokenTransferFee, if_neg (not_lt.2 hamount)]
        split
        · rfl
        · rw [selectActiveTransferFee, if_pos hnegative]
          rfl
      rw [hselect] at herror
      exact absurd (Except.error.inj herror) (by decide)
    · rw [calculateTokenTransferFee_decoded hconfig hamount hepoch] at herror
      cases herror
  · intro hepoch
    refine ⟨_, calculateTokenTransferFee_decoded hconfig hamount hepoch, ?_, ?_, ?_, ?_⟩
    · exact transferFeeAmount_proportional hamount _
    · exact add_sub_cancel _ _
    · have hpos : 0 < proportionalFee amount
          (scheduleInForce config currentEpoch).transferFeeBasisPoints ↔ _ :=
        proportionalFee_pos_iff hamount
      have hnonneg : 0 ≤ transferFeeAmount L amount (scheduleInForce config currentEpoch) :=
        transferFeeAmount_nonneg hamount _
      dsimp only
      rw [transferFeeAmount_proportional hamount] at hnonneg ⊢
      omega
    · intro larger hlarger
      have hlarge := hamount.trans hlarger
      refine ⟨_, calculateTokenTransferFee_decoded hconfig hlarge hepoch, ?_⟩
      obtain ⟨hmono, hslope⟩ := proportionalFee_slope hbound hlarger
      dsimp only
      rw [transferFeeAmount_proportional hamount, transferFeeAmount_proportional hlarge]
      omega

/-- One percent up to five units until epoch 10, everything up to a thousand from then on. -/
def twoSchedules : Bytes :=
  List.replicate 72 0 ++ LittleEndian.toBytes 8 0 ++ LittleEndian.toBytes 8 5 ++
    LittleEndian.toBytes 2 100 ++ LittleEndian.toBytes 8 10 ++ LittleEndian.toBytes 8 1000 ++
    LittleEndian.toBytes 2 10000

theorem decodedTransferFee_exact_twoSchedules :
    ∃ config transfer, decodeTransferFeeConfig twoSchedules = .ok config ∧
      (scheduleInForce config 9).transferFeeBasisPoints = 100 ∧
      calculateTokenTransferFee .typescript 101 (some config) 9 = .ok transfer ∧
      transfer.feeAmount + transfer.receivedAmount = 101 := by
  obtain ⟨config, hconfig, hbps⟩ := Except.exists_of_any (by decide +kernel :
    (decodeTransferFeeConfig twoSchedules).toOption.any
      (fun config => (scheduleInForce config 9).transferFeeBasisPoints == 100) = true)
  obtain ⟨-, hcost⟩ := decodedTransferFee_exact .typescript hconfig (by decide : (0 : Int) ≤ 101) 9
  obtain ⟨transfer, hok, -, hsum, -⟩ := hcost (by decide)
  exact ⟨config, transfer, hconfig, eq_of_beq hbps, hok, hsum⟩

end Chancery
