import Mathlib

/-!
# Periods

Time cut into periods of one length that start at its multiples.

* `periodStart` — the start of the period of an instant, rounded towards minus infinity.
* `PeriodStarts` — what makes a function the start of the period; `periodStart_spec`.
-/

set_option autoImplicit false

namespace Periods

/-- The start of the period that a time falls in. -/
def periodStart (period t : Int) : Int := t.fdiv period * period

/-- The function goes back to the last multiple of the period. -/
structure PeriodStarts (period : Int) (start : Int → Int) : Prop where
  dvd : ∀ t, period ∣ start t
  le : ∀ t, start t ≤ t
  lt : ∀ t, t < start t + period
  mono : Monotone start
  same_iff : ∀ s t, s ≤ t → (start s = start t ↔ ∀ m, period ∣ m → ¬ (s < m ∧ m ≤ t))
  idem : ∀ t, start (start t) = start t

/-- Multiples of the period do not lie strictly between neighbours. -/
theorem le_of_dvd_of_lt_add {period a b : Int} (ha : period ∣ a) (hb : period ∣ b)
    (h : a < b + period) (hpos : 0 < period) : a ≤ b := by
  obtain ⟨m, rfl⟩ := ha
  obtain ⟨n, rfl⟩ := hb
  have hlt : period * m < period * (n + 1) := by
    rw [mul_add, mul_one]
    exact h
  have hmn : m < n + 1 := lt_of_mul_lt_mul_left hlt hpos.le
  exact mul_le_mul_of_nonneg_left (by omega) hpos.le

/-- The three bounds leave one function. -/
theorem periodStarts_of_bounds {period : Int} (hpos : 0 < period) {start : Int → Int}
    (hdvd : ∀ t, period ∣ start t) (hle : ∀ t, start t ≤ t) (hlt : ∀ t, t < start t + period) :
    PeriodStarts period start := by
  have hlast : ∀ {m t : Int}, period ∣ m → m ≤ t → m ≤ start t := fun hm hmt =>
    le_of_dvd_of_lt_add hm (hdvd _) (hmt.trans_lt (hlt _)) hpos
  have hmono : Monotone start := fun s t hst => hlast (hdvd s) ((hle s).trans hst)
  refine ⟨hdvd, hle, hlt, hmono, fun s t hst => ⟨?_, fun h => ?_⟩, fun t => ?_⟩
  · rintro hsame m hm ⟨hsm, hmt⟩
    have hstart := hlast hm hmt
    rw [← hsame] at hstart
    exact absurd (hstart.trans (hle s)) (not_le.2 hsm)
  · refine le_antisymm (hmono hst) ?_
    have hnone := h (start t) (hdvd t)
    have hts : start t ≤ s := by
      by_contra hlater
      exact hnone ⟨not_le.1 hlater, hle t⟩
    exact hlast (hdvd t) hts
  · exact le_antisymm (hle (start t)) (hlast (hdvd t) le_rfl)

theorem periodStart_spec {period : Int} (hpos : 0 < period) :
    PeriodStarts period (periodStart period) := by
  have hsplit : ∀ t, periodStart period t + t.emod period = t := by
    intro t
    rw [periodStart, Int.fdiv_eq_ediv_of_nonneg _ hpos.le]
    have hdivmod := Int.ediv_mul_add_emod t period
    exact hdivmod
  refine periodStarts_of_bounds hpos (fun t => Dvd.intro_left _ rfl) (fun t => ?_) fun t => ?_
  · have hnonneg := Int.emod_nonneg t hpos.ne'
    have ht := hsplit t
    change 0 ≤ t.emod period at hnonneg
    linarith
  · have hlt := Int.emod_lt_of_pos t hpos
    have ht := hsplit t
    change t.emod period < period at hlt
    linarith

end Periods
