import Mathlib

/-!
# Positional conversion by carry loops

A number held as a digit list in one base is rewritten in another base by the schoolbook
loop: for every incoming digit, multiply all digits by the incoming base, add the digit and
push what is left of the carry.  The digit lists are least significant first; the incoming
digits are read most significant first.

* `mulAdd`, `pushCarry`, `step`, `convert` — the loop, in the shape an imperative program
  writes it (one pass, then a `while` on the carry).
* `convert_eq_digits` — with a nonzero leading digit the loop computes `Nat.digits`.
* `convert_convert` — converting there and back is the identity on such digit lists.
-/

set_option autoImplicit false

namespace Radix

/-- One pass over the digits: each digit times `mul` plus the carry; the carry out is returned. -/
def mulAdd (base mul : Nat) : Nat → List Nat → List Nat × Nat
  | carry, [] => ([], carry)
  | carry, d :: ds =>
    let t := carry + d * mul
    let r := mulAdd base mul (t / base) ds
    (t % base :: r.1, r.2)

/-- The digits pushed by `while (carry > 0)`. -/
def pushCarry (base : Nat) : Nat → Nat → List Nat
  | 0, _ => []
  | fuel + 1, carry =>
    if carry = 0 then [] else carry % base :: pushCarry base fuel (carry / base)

/-- One incoming digit. -/
def step (base mul : Nat) (digits : List Nat) (d : Nat) : List Nat :=
  let r := mulAdd base mul d digits
  r.1 ++ pushCarry base r.2 r.2

/-- The whole loop, started from the single digit zero. -/
def convert (base mul : Nat) (ds : List Nat) : List Nat := ds.foldl (step base mul) [0]

variable {base mul : Nat}

theorem pushCarry_eq (hb : 1 < base) :
    ∀ fuel carry, carry ≤ fuel → pushCarry base fuel carry = Nat.digits base carry
  | 0, carry, h => by
    obtain rfl : carry = 0 := by omega
    simp [pushCarry]
  | fuel + 1, carry, h => by
    unfold pushCarry
    split
    · rename_i h0; subst h0; simp
    · rename_i h0
      have hlt : carry / base < carry := Nat.div_lt_self (by omega) hb
      rw [pushCarry_eq hb fuel (carry / base) (by omega)]
      exact (Nat.digits_def' hb (Nat.pos_of_ne_zero h0)).symm

/-- A pass over the digits of `n` followed by the carry loop writes the digits of
`n * mul + carry`. -/
theorem mulAdd_digits (hb : 1 < base) (hm : 0 < mul) : ∀ (n carry : Nat),
    (mulAdd base mul carry (Nat.digits base n)).1 ++
        Nat.digits base (mulAdd base mul carry (Nat.digits base n)).2 =
      Nat.digits base (n * mul + carry) := by
  intro n
  induction n using Nat.strong_induction_on with
  | _ n ih =>
    intro carry
    rcases Nat.eq_zero_or_pos n with rfl | hn
    · simp [mulAdd]
    · have hlt : n / base < n := Nat.div_lt_self hn hb
      have hsplit : n * mul + carry = base * (n / base * mul) + (carry + n % base * mul) := by
        conv_lhs => rw [← Nat.div_add_mod n base]
        ring
      have hpos : 0 < n * mul + carry := by
        have := Nat.mul_pos hn hm
        omega
      have hmod : (n * mul + carry) % base = (carry + n % base * mul) % base := by
        rw [hsplit, Nat.mul_add_mod]
      have hdiv : (n * mul + carry) / base = n / base * mul + (carry + n % base * mul) / base := by
        rw [hsplit, Nat.mul_add_div (by omega)]
      rw [Nat.digits_def' hb hn, Nat.digits_def' hb hpos, hmod, hdiv, ← ih _ hlt]
      simp [mulAdd]

theorem step_digits (hb : 1 < base) (hm : 0 < mul) (n d : Nat) :
    step base mul (Nat.digits base n) d = Nat.digits base (n * mul + d) := by
  simp only [step]
  rw [pushCarry_eq hb _ _ (Nat.le_refl _), mulAdd_digits hb hm]

/-- The start value `[0]` stands for the empty digit list of zero. -/
theorem step_zero (hb : 1 < base) {d : Nat} (hd : 0 < d) :
    step base mul [0] d = Nat.digits base d := by
  unfold step
  simp only [mulAdd, Nat.zero_mul, Nat.add_zero]
  rw [pushCarry_eq hb _ _ (Nat.le_refl _), Nat.digits_def' hb hd]
  rfl

theorem foldl_step (hb : 1 < base) (hm : 0 < mul) : ∀ (ds : List Nat) (n : Nat),
    ds.foldl (step base mul) (Nat.digits base n) =
      Nat.digits base (ds.foldl (fun acc d => acc * mul + d) n)
  | [], _ => rfl
  | d :: ds, n => by rw [List.foldl_cons, step_digits hb hm, foldl_step hb hm ds]; rfl

theorem foldl_eq_ofDigits (ds : List Nat) :
    ds.foldl (fun acc d => acc * mul + d) 0 = Nat.ofDigits mul ds.reverse := by
  rw [Nat.ofDigits_eq_foldr, List.foldr_reverse]
  congr 1
  funext acc d
  simp only [Nat.cast_id]
  ring

/-- **The loop computes `Nat.digits`** when the leading digit is nonzero. -/
theorem convert_eq_digits (hb : 1 < base) (hm : 0 < mul) {d : Nat} (hd : 0 < d) (ds : List Nat) :
    convert base mul (d :: ds) = Nat.digits base (Nat.ofDigits mul (d :: ds).reverse) := by
  unfold convert
  rw [List.foldl_cons, step_zero hb hd, foldl_step hb hm, ← foldl_eq_ofDigits]
  simp

theorem ofDigits_pos (hm : 0 < mul) {d : Nat} (hd : 0 < d) (ds : List Nat) :
    0 < Nat.ofDigits mul (d :: ds).reverse := by
  have hgrow : ∀ (xs : List Nat) (n : Nat), 0 < n →
      0 < xs.foldl (fun acc x => acc * mul + x) n := by
    intro xs
    induction xs with
    | nil => exact fun n hn => hn
    | cons x xs ih => exact fun n hn => ih _ (Nat.add_pos_left (Nat.mul_pos hn hm) x)
  rw [← foldl_eq_ofDigits, List.foldl_cons]
  exact hgrow ds _ (by omega)

/-- Every digit written by the loop is below the base. -/
theorem convert_lt (hb : 1 < base) (hm : 0 < mul) {d : Nat} (hd : 0 < d) (ds : List Nat) :
    ∀ x ∈ convert base mul (d :: ds), x < base := by
  rw [convert_eq_digits hb hm hd]
  exact fun x hx => Nat.digits_lt_base hb hx

/-- The most significant digit written by the loop is nonzero. -/
theorem convert_reverse_cons (hb : 1 < base) (hm : 0 < mul) {d : Nat} (hd : 0 < d)
    (ds : List Nat) : ∃ e es, (convert base mul (d :: ds)).reverse = e :: es ∧ 0 < e := by
  rw [convert_eq_digits hb hm hd]
  have hne : Nat.ofDigits mul (d :: ds).reverse ≠ 0 := (ofDigits_pos hm hd ds).ne'
  generalize Nat.ofDigits mul (d :: ds).reverse = N at hne ⊢
  have hnil : Nat.digits base N ≠ [] := Nat.digits_ne_nil_iff_ne_zero.2 hne
  refine ⟨(Nat.digits base N).getLast hnil, (Nat.digits base N).dropLast.reverse, ?_, ?_⟩
  · conv_lhs => rw [← List.dropLast_append_getLast hnil]
    simp
  · exact Nat.pos_of_ne_zero (Nat.getLast_digit_ne_zero base hne)

/-- **Conversion there and back** recovers the digits, least significant first. -/
theorem convert_convert (hb : 1 < base) (hm : 1 < mul) {d : Nat} (hd : 0 < d) {ds : List Nat}
    (hlt : ∀ x ∈ d :: ds, x < mul) :
    convert mul base (convert base mul (d :: ds)).reverse = (d :: ds).reverse := by
  obtain ⟨e, es, hes, he⟩ := convert_reverse_cons hb (show 0 < mul by omega) hd ds
  rw [hes, convert_eq_digits hm (by omega) he, ← hes, List.reverse_reverse,
    convert_eq_digits hb (by omega) hd, Nat.ofDigits_digits]
  refine Nat.digits_ofDigits mul hm _ (fun x hx => hlt x (List.mem_reverse.1 hx)) fun hne => ?_
  simp only [List.getLast_reverse, List.head_cons]
  omega

end Radix
