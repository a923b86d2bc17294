import Mathlib

/-!
# Primality by Lucas's test

A number is prime when some base has the order one below it, which powers at the prime factors of
that order decide.

* `power` — powers modulo a number, from the high bits of the exponent down; `power_eq`.
* `lucasTest` — the test at given factors; `prime_of_lucasTest`.
* `prime_two_pow_255_sub_19` — its primes are certified from the small ones up.
-/

set_option autoImplicit false

namespace Primality

/-- `base ^ exponent % modulus` for an exponent of the given number of bits. -/
def power (modulus base : Nat) : Nat → Nat → Nat
  | 0, _ => 1 % modulus
  | bits + 1, exponent =>
    let half := power modulus base bits (exponent / 2)
    let square := half * half % modulus
    if exponent % 2 = 1 then square * base % modulus else square

theorem power_eq (modulus base : Nat) : ∀ (bits exponent : Nat), exponent < 2 ^ bits →
    power modulus base bits exponent = base ^ exponent % modulus := by
  intro bits
  induction bits with
  | zero =>
    intro exponent h
    obtain rfl : exponent = 0 := by omega
    rfl
  | succ bits ih =>
    intro exponent h
    have hhalf : exponent / 2 < 2 ^ bits := by
      rw [Nat.pow_succ] at h
      omega
    have hsquare : power modulus base bits (exponent / 2) *
        power modulus base bits (exponent / 2) % modulus =
          base ^ (2 * (exponent / 2)) % modulus := by
      rw [ih _ hhalf, ← Nat.mul_mod, ← Nat.pow_add, Nat.two_mul]
    rw [power, hsquare]
    by_cases hodd : exponent % 2 = 1
    · have hexponent : exponent = 2 * (exponent / 2) + 1 := by omega
      conv_rhs => rw [hexponent, Nat.pow_succ]
      rw [if_pos hodd, Nat.mod_mul_mod]
    · have hexponent : exponent = 2 * (exponent / 2) := by omega
      conv_rhs => rw [hexponent]
      rw [if_neg hodd]

/-- The base has order `p - 1`, whose prime factors are the given ones. -/
def lucasTest (p base bits : Nat) (factors : List Nat) : Bool :=
  1 < p && p ≤ 2 ^ bits && factors.prod == p - 1 && power p base bits (p - 1) == 1 &&
    factors.all fun q => power p base bits ((p - 1) / q) != 1

theorem zmod_pow_eq_one {p : Nat} (hp : 1 < p) (base exponent : Nat) :
    (base : ZMod p) ^ exponent = 1 ↔ base ^ exponent % p = 1 := by
  rw [← Nat.cast_pow, ← Nat.cast_one, ZMod.natCast_eq_natCast_iff', Nat.mod_eq_of_lt hp]

/-- **Lucas's test is sound.** -/
theorem prime_of_lucasTest {p : Nat} (base bits : Nat) (factors : List Nat)
    (hprime : ∀ q ∈ factors, q.Prime) (h : lucasTest p base bits factors = true) : p.Prime := by
  simp only [lucasTest, Bool.and_eq_true, decide_eq_true_eq, beq_iff_eq, List.all_eq_true,
    bne_iff_ne] at h
  obtain ⟨⟨⟨⟨hp, hbits⟩, hproduct⟩, hfull⟩, hpart⟩ := h
  have hlt : ∀ n, n ≤ p - 1 → n < 2 ^ bits := fun n hn => by omega
  refine lucas_primality p (base : ZMod p) ?_ fun q hq hdvd => ?_
  · rw [zmod_pow_eq_one hp, ← power_eq p base bits _ (hlt _ (le_refl _))]
    exact hfull
  · rw [← hproduct] at hdvd
    obtain ⟨factor, hfactor, hdvd⟩ := (Prime.dvd_prod_iff hq.prime).1 hdvd
    obtain rfl := (Nat.prime_dvd_prime_iff_eq hq (hprime factor hfactor)).1 hdvd
    have hne := hpart q hfactor
    rw [power_eq p base bits _ (hlt _ (Nat.div_le_self _ _))] at hne
    rwa [Ne, zmod_pow_eq_one hp]

/-! ## The prime of Curve25519 -/

/-- One computation for all certificates, from the small primes up. -/
theorem lucasTests_pass :
    lucasTest 2773320623 5 32 [2, 2437, 569003] ∧
    lucasTest 72106336199 7 37 [2, 13, 2773320623] ∧
    lucasTest 31757755568855353 10 55 [2, 2, 2, 3, 31, 107, 223, 4153, 430751] ∧
    lucasTest 1919519569386763 2 51 [2, 3, 7, 19, 47, 47, 127, 8574133] ∧
    lucasTest 75445702479781427272750846543864801 7 116
      [2, 2, 2, 2, 2, 3, 3, 5, 5, 75707, 72106336199, 1919519569386763] ∧
    lucasTest 74058212732561358302231226437062788676166966415465897661863160754340907 2 236
      [2, 3, 353, 57467, 132049, 1923133, 31757755568855353, 75445702479781427272750846543864801] ∧
    lucasTest (2 ^ 255 - 19) 2 255
      [2, 2, 3, 65147, 74058212732561358302231226437062788676166966415465897661863160754340907] := by
  decide +kernel

theorem prime_2773320623 : Nat.Prime 2773320623 := by
  refine prime_of_lucasTest 5 32 [2, 2437, 569003] ?_ lucasTests_pass.1
  simp only [List.mem_cons, List.not_mem_nil, or_false, forall_eq_or_imp, forall_eq]
  norm_num

theorem prime_72106336199 : Nat.Prime 72106336199 := by
  refine prime_of_lucasTest 7 37 [2, 13, 2773320623] ?_ lucasTests_pass.2.1
  simp only [List.mem_cons, List.not_mem_nil, or_false, forall_eq_or_imp, forall_eq]
  exact ⟨Nat.prime_two, by norm_num, prime_2773320623⟩

theorem prime_31757755568855353 : Nat.Prime 31757755568855353 := by
  refine prime_of_lucasTest 10 55 [2, 2, 2, 3, 31, 107, 223, 4153, 430751] ?_ lucasTests_pass.2.2.1
  simp only [List.mem_cons, List.not_mem_nil, or_false, forall_eq_or_imp, forall_eq]
  norm_num

theorem prime_1919519569386763 : Nat.Prime 1919519569386763 := by
  refine prime_of_lucasTest 2 51 [2, 3, 7, 19, 47, 47, 127, 8574133] ?_ lucasTests_pass.2.2.2.1
  simp only [List.mem_cons, List.not_mem_nil, or_false, forall_eq_or_imp, forall_eq]
  norm_num

theorem prime_75445702479781427272750846543864801 :
    Nat.Prime 75445702479781427272750846543864801 := by
  refine prime_of_lucasTest 7 116
    [2, 2, 2, 2, 2, 3, 3, 5, 5, 75707, 72106336199, 1919519569386763] ?_
    lucasTests_pass.2.2.2.2.1
  simp only [List.mem_cons, List.not_mem_nil, or_false, forall_eq_or_imp, forall_eq]
  have hsmall : Nat.Prime 2 ∧ Nat.Prime 3 ∧ Nat.Prime 5 ∧ Nat.Prime 75707 := by norm_num
  obtain ⟨h2, h3, h5, h75707⟩ := hsmall
  exact ⟨h2, h2, h2, h2, h2, h3, h3, h5, h5, h75707, prime_72106336199, prime_1919519569386763⟩

theorem prime_74058212732561358302231226437062788676166966415465897661863160754340907 :
    Nat.Prime 74058212732561358302231226437062788676166966415465897661863160754340907 := by
  refine prime_of_lucasTest 2 236
    [2, 3, 353, 57467, 132049, 1923133, 31757755568855353, 75445702479781427272750846543864801] ?_
    lucasTests_pass.2.2.2.2.2.1
  simp only [List.mem_cons, List.not_mem_nil, or_false, forall_eq_or_imp, forall_eq]
  have hsmall : Nat.Prime 2 ∧ Nat.Prime 3 ∧ Nat.Prime 353 ∧ Nat.Prime 57467 ∧
      Nat.Prime 132049 ∧ Nat.Prime 1923133 := by norm_num
  obtain ⟨h2, h3, h353, h57467, h132049, h1923133⟩ := hsmall
  exact ⟨h2, h3, h353, h57467, h132049, h1923133, prime_31757755568855353,
    prime_75445702479781427272750846543864801⟩

theorem prime_two_pow_255_sub_19 : Nat.Prime (2 ^ 255 - 19) := by
  refine prime_of_lucasTest 2 255
    [2, 2, 3, 65147, 74058212732561358302231226437062788676166966415465897661863160754340907] ?_
    lucasTests_pass.2.2.2.2.2.2
  simp only [List.mem_cons, List.not_mem_nil, or_false, forall_eq_or_imp, forall_eq]
  have hsmall : Nat.Prime 2 ∧ Nat.Prime 3 ∧ Nat.Prime 65147 := by norm_num
  obtain ⟨h2, h3, h65147⟩ := hsmall
  exact ⟨h2, h2, h3, h65147,
    prime_74058212732561358302231226437062788676166966415465897661863160754340907⟩

end Primality
