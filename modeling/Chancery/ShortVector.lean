import Chancery.Lib.Binary64
import Chancery.MessageAgreement
import Chancery.SquadsVaultMessageLaws

/-!
# Short-vector lengths

`encodeShortVectorLength` and `MessageReader.readShortVectorLength` on the numbers of JavaScript:
the mask works on 32 bits, the division and the accumulation round to binary64.

* `bitAnd`, `bitOr`, `divide`, `multiply`, `add` — the operations on finite numbers.
* `numberShortVectorLoop_eq`, `readNumberLoop_eq` — up to the largest safe integer they compute
  on integers.
* `shortVectorLength_exact` — every safe length is read back from at most eight bytes, which all
  encoders give; no other length is read.
-/

set_option autoImplicit false

namespace Chancery

open Squads Squads.MessageReader

/-! ## Finite numbers -/

/-- `Number.isSafeInteger`. -/
def isSafeNumber (x : Rat) : Bool := x.den == 1 && isSafeInteger x.num

/-- The 32 bits that a bitwise operation takes. -/
def toInt32 (x : Rat) : BitVec 32 := .ofInt 32 (x.num.tdiv x.den)

/-- Bitwise conjunction, on 32-bit integers. -/
def bitAnd (x y : Rat) : Rat := ((toInt32 x &&& toInt32 y).toInt : Int)

def bitOr (x y : Rat) : Rat := ((toInt32 x ||| toInt32 y).toInt : Int)

/-- Division of doubles. -/
def divide (x y : Rat) : Rat := Binary64.round (x / y)

def multiply (x y : Rat) : Rat := Binary64.round (x * y)

def add (x y : Rat) : Rat := Binary64.round (x + y)

/-- An element of a `Uint8Array`. -/
def uint8 (x : Rat) : UInt8 := UInt8.ofNat (x.num.tdiv x.den % 256).toNat

/-! ## The encoders -/

/-- The bytes that the loop pushes, if it ends. -/
def numberShortVectorLoop : Nat → Rat → Option Bytes
  | 0, _ => none
  | fuel + 1, remaining =>
    let byteValue := bitAnd remaining 0x7f
    let remaining : Rat := ⌊divide remaining 128⌋
    if 0 < remaining then
      (numberShortVectorLoop fuel remaining).map (uint8 (bitOr byteValue 0x80) :: ·)
    else some [uint8 byteValue]

/-- The encoder on doubles. -/
def numberEncodeShortVectorLength (fuel : Nat) (value : Rat) : Except String (Option Bytes) :=
  if isSafeNumber value = false ∨ value < 0 then
    .error "Short-vector length must be a safe unsigned integer"
  else .ok (numberShortVectorLoop fuel value)

/-- The TypeScript encoder. -/
def typescriptEncodeShortVectorLength : Nat → Rat → Except String (Option Bytes) :=
  numberEncodeShortVectorLength

def webEncodeShortVectorLength : Nat → Rat → Except String (Option Bytes) :=
  numberEncodeShortVectorLength

/-! ## The reader -/

/-- The reader's loop on doubles. -/
def readNumberLoop (label : String) : Nat → Rat → Rat → MessageReader Rat
  | 0, _, _ => fun _ => .error s!"{label} has an invalid short-vector encoding"
  | steps + 1, value, multiplier => fun input => do
    let (byteValue, input) ← readU8 label input
    let value := add value (multiply (bitAnd byteValue 0x7f) multiplier)
    if isSafeNumber value = false then .error s!"{label} exceeds the safe integer range"
    else if bitAnd byteValue 0x80 = 0 then return (value, input)
    else readNumberLoop label steps value (multiply multiplier 128) input

/-- A length read from bytes. -/
def readShortVectorNumber (label : String) : MessageReader Rat := readNumberLoop label 8 0 1

/-! ## Operations on integers -/

theorem toInt32_natCast (n : Nat) : toInt32 n = .ofNat 32 n := by
  unfold toInt32
  rw [Rat.num_natCast, Rat.den_natCast, Nat.cast_one, Int.tdiv_one, BitVec.ofInt_natCast]

theorem uint8_natCast {n : Nat} (h : n < 256) : uint8 n = UInt8.ofNat n := by
  unfold uint8
  rw [Rat.num_natCast, Rat.den_natCast, Nat.cast_one, Int.tdiv_one]
  congr 1
  omega

/-- The low seven bits, also of a number over 32 bits. -/
theorem bitAnd_low (n : Nat) : bitAnd n 0x7f = ((n % 128 : Nat) : Rat) := by
  have hmask : toInt32 0x7f = BitVec.ofNat 32 127 := toInt32_natCast 127
  have hnat : (BitVec.ofNat 32 n &&& BitVec.ofNat 32 127).toNat = n % 128 := by
    rw [BitVec.toNat_and, BitVec.toNat_ofNat, BitVec.toNat_ofNat]
    rw [show 127 % 2 ^ 32 = 2 ^ 7 - 1 from rfl, Nat.and_two_pow_sub_one_eq_mod]
    omega
  unfold bitAnd
  rw [toInt32_natCast, hmask, BitVec.toInt_eq_toNat_of_lt (by rw [hnat]; omega), hnat]
  rfl

/-- The high bit of a byte. -/
theorem bitAnd_high {n : Nat} (h : n < 256) : bitAnd n 0x80 = 0 ↔ n < 128 := by
  have hmask : toInt32 0x80 = BitVec.ofNat 32 (2 ^ 7) := toInt32_natCast 128
  have hnat : (BitVec.ofNat 32 n &&& BitVec.ofNat 32 (2 ^ 7)).toNat = n &&& 2 ^ 7 := by
    rw [BitVec.toNat_and, BitVec.toNat_ofNat, BitVec.toNat_ofNat, Nat.mod_eq_of_lt (by omega)]
    rfl
  have hle : n &&& 2 ^ 7 ≤ 2 ^ 7 := Nat.and_le_right
  unfold bitAnd
  rw [toInt32_natCast, hmask, BitVec.toInt_eq_toNat_of_lt (by rw [hnat]; omega), hnat,
    Int.cast_natCast, Nat.cast_eq_zero, Nat.and_two_pow]
  have htest : n.testBit 7 = decide (128 ≤ n) := by
    rw [Nat.testBit_eq_decide_div_mod_eq]
    exact decide_eq_decide.2 (by omega)
  rw [htest]
  by_cases hbyte : 128 ≤ n
  · simp [hbyte]
  · simp [hbyte, Nat.not_le.1 hbyte]

theorem bitOr_high {n : Nat} (h : n < 128) : bitOr n 0x80 = ((n + 128 : Nat) : Rat) := by
  have hmask : toInt32 0x80 = BitVec.ofNat 32 128 := toInt32_natCast 128
  have hnat : (BitVec.ofNat 32 n ||| BitVec.ofNat 32 128).toNat = n + 128 := by
    rw [BitVec.toNat_or, BitVec.toNat_ofNat, BitVec.toNat_ofNat, Nat.mod_eq_of_lt (by omega)]
    have hor := Nat.two_pow_add_eq_or_of_lt (i := 7) (b := n) (by omega) 1
    rw [Nat.or_comm, show 128 % 2 ^ 32 = 2 ^ 7 * 1 from rfl, ← hor, Nat.add_comm]
  unfold bitOr
  rw [toInt32_natCast, hmask, BitVec.toInt_eq_toNat_of_lt (by rw [hnat]; omega), hnat]
  rfl

/-- The division is exact, so that its floor drops the low seven bits. -/
theorem floor_divide {n : Nat} (h : n < 2 ^ 53) :
    (⌊divide n 128⌋ : Rat) = ((n / 128 : Nat) : Rat) := by
  have hexact : divide n 128 = (n : Rat) / 128 := by
    have hround := Binary64.round_exact (m := n) (e := -7)
      (by rw [abs_of_nonneg (by omega)]; exact_mod_cast h) (by decide)
    have hscale : (n : Rat) / 128 = ((n : Int) : Rat) * 2 ^ (-7 : Int) := by
      rw [Int.cast_natCast, div_eq_mul_inv]
      norm_num
    unfold divide
    rw [hscale, hround]
  have hfloor := Rat.floor_intCast_div_natCast (n : Int) 128
  rw [Int.cast_natCast, Nat.cast_ofNat] at hfloor
  rw [hexact, hfloor]
  norm_cast

theorem isSafeNumber_natCast (n : Nat) : isSafeNumber n = isSafeInteger n := by
  simp [isSafeNumber]

/-- A sum over the safe integers is rounded, but not into them. -/
theorem isSafeNumber_round (n : Nat) :
    isSafeNumber (Binary64.round n) = isSafeInteger n ∧
      (isSafeInteger n = true → Binary64.round n = n) := by
  by_cases h : n < 2 ^ 53
  · have hexact : Binary64.round n = n := by
      have habs : |(n : Int)| < 2 ^ 53 := by
        rw [abs_of_nonneg (by omega)]
        exact_mod_cast h
      have hround := Binary64.round_intCast habs
      exact_mod_cast hround
    rw [hexact]
    exact ⟨isSafeNumber_natCast n, fun _ => rfl⟩
  · have hwide : isSafeInteger n = false := by
      unfold isSafeInteger maxSafeInteger
      exact decide_eq_false (by omega)
    have hle : (2 : Rat) ^ 53 ≤ Binary64.round n :=
      Binary64.le_round (by exact_mod_cast Nat.not_lt.1 h)
    refine ⟨?_, fun hsafe => by rw [hwide] at hsafe; cases hsafe⟩
    rw [hwide]
    unfold isSafeNumber
    by_cases hden : (Binary64.round n).den = 1
    · have hnum : ((Binary64.round n).num : Rat) = Binary64.round n :=
        (Rat.den_eq_one_iff _).1 hden
      rw [← hnum] at hle
      have hint : (2 : Int) ^ 53 ≤ (Binary64.round n).num := by exact_mod_cast hle
      have hlarge : isSafeInteger (Binary64.round n).num = false := by
        unfold isSafeInteger maxSafeInteger
        exact decide_eq_false (by omega)
      rw [hlarge, Bool.and_false]
    · rw [beq_eq_false_iff_ne.2 hden, Bool.false_and]

/-- A multiple of a power of 128 is exact. -/
theorem multiply_power {n k : Nat} (h : n ≤ 128) :
    multiply n ((128 ^ k : Nat) : Rat) = ((n * 128 ^ k : Nat) : Rat) := by
  have hround := Binary64.round_exact (m := n) (e := (7 * k : Nat))
    (by rw [abs_of_nonneg (by omega)]; omega) (by omega)
  have hpow : (2 : Rat) ^ ((7 * k : Nat) : Int) = ((128 ^ k : Nat) : Rat) := by
    rw [zpow_natCast, pow_mul, Nat.cast_pow]
    norm_num
  rw [hpow, Int.cast_natCast] at hround
  unfold multiply
  rw [hround, Nat.cast_mul]

/-! ## The loops -/

/-- **Eight rounds encode every safe length**, as the integers do. -/
theorem numberShortVectorLoop_eq : ∀ (steps fuel fuel' n : Nat), n < 2 ^ 53 → n < 128 ^ steps →
    0 < steps → steps ≤ fuel → n < fuel' →
    numberShortVectorLoop fuel n = some (shortVectorBytes fuel' n) ∧
      (shortVectorBytes fuel' n).length ≤ steps := by
  intro steps
  induction steps with
  | zero =>
    intro fuel fuel' n _ _ hpos
    omega
  | succ steps ih =>
    intro fuel fuel' n hsafe hlt _ hfuel hfuel'
    obtain ⟨fuel, rfl⟩ : ∃ k, fuel = k + 1 := ⟨fuel - 1, by omega⟩
    rw [numberShortVectorLoop, floor_divide hsafe, bitAnd_low]
    by_cases hlast : n < 128
    · have hzero : n / 128 = 0 := Nat.div_eq_of_lt hlast
      rw [shortVectorBytes_last (by omega) hlast, hzero, Nat.mod_eq_of_lt hlast,
        if_neg (by simp), uint8_natCast (by omega)]
      exact ⟨rfl, by simp⟩
    · have hmore : (0 : Rat) < ((n / 128 : Nat) : Rat) := by
        rw [Nat.cast_pos]
        omega
      have hsteps : n / 128 < 128 ^ steps := by
        rw [Nat.pow_succ] at hlt
        exact Nat.div_lt_of_lt_mul (by rwa [Nat.mul_comm])
      have hpos : 0 < steps := by
        rcases Nat.eq_zero_or_pos steps with rfl | hpos
        · omega
        · exact hpos
      obtain ⟨hloop, hlength⟩ := ih fuel (fuel' - 1) (n / 128) (by omega) hsteps hpos (by omega)
        (by omega)
      rw [shortVectorBytes_more (by omega) (by omega), if_pos hmore, hloop,
        bitOr_high (by omega), uint8_natCast (by omega)]
      exact ⟨rfl, by simpa using hlength⟩

/-- **The reader accumulates as on integers**: what is rounded was not safe. -/
theorem readNumberLoop_eq (label : String) : ∀ (steps value k : Nat) (input : Bytes),
    readNumberLoop label steps value ((128 ^ k : Nat) : Rat) input =
      (readShortVectorLoop label steps value (128 ^ k) input).map
        fun result => ((result.1 : Rat), result.2) := by
  intro steps
  induction steps with
  | zero =>
    intro value k input
    rfl
  | succ steps ih =>
    intro value k input
    rw [readNumberLoop, readShortVectorLoop]
    dsimp only
    cases hread : readU8 label input with
    | error e => rfl
    | ok result =>
      obtain ⟨byteValue, rest⟩ := result
      have hbyte : byteValue < 256 := (readU8_ok hread).1
      have hproduct : add value (multiply (bitAnd byteValue 0x7f) ((128 ^ k : Nat) : Rat)) =
          Binary64.round ((value + byteValue % 128 * 128 ^ k : Nat) : Rat) := by
        unfold add
        rw [bitAnd_low, multiply_power (by omega)]
        norm_cast
      obtain ⟨hsafe, hexact⟩ := isSafeNumber_round (value + byteValue % 128 * 128 ^ k)
      show (if isSafeNumber (add _ _) = false then _ else _) =
        Except.map _ (if isSafeInteger ((value + byteValue % 128 * 128 ^ k : Nat) : Int) = false
          then _ else _)
      rw [hproduct, hsafe]
      cases hcase : isSafeInteger ((value + byteValue % 128 * 128 ^ k : Nat) : Int) with
      | false => rfl
      | true =>
        have hnot : ¬ (true = false) := by decide
        rw [hexact hcase, if_neg hnot, if_neg hnot]
        by_cases hlast : byteValue < 128
        · rw [if_pos ((bitAnd_high hbyte).2 hlast), if_pos hlast]
          rfl
        · rw [if_neg fun h => hlast ((bitAnd_high hbyte).1 h), if_neg hlast]
          have hnext : multiply ((128 ^ k : Nat) : Rat) 128 = ((128 ^ (k + 1) : Nat) : Rat) := by
            have h := multiply_power (n := 128) (k := k) (le_refl _)
            unfold multiply at h ⊢
            rw [mul_comm, Nat.cast_ofNat] at h
            rw [h, Nat.pow_succ, Nat.mul_comm]
          rw [hnext, ih, Nat.pow_succ]

theorem readShortVectorNumber_eq (label : String) (input : Bytes) :
    readShortVectorNumber label input =
      (readShortVectorLength label input).map fun result => ((result.1 : Rat), result.2) := by
  have h := readNumberLoop_eq label 8 0 0 input
  rwa [Nat.cast_zero, Nat.pow_zero, Nat.cast_one] at h

/-- Only safe integers are read. -/
theorem readShortVectorLoop_safe (label : String) : ∀ (steps value multiplier : Nat)
    {input rest : Bytes} {n : Nat},
    readShortVectorLoop label steps value multiplier input = .ok (n, rest) →
      isSafeInteger n = true := by
  intro steps
  induction steps with
  | zero =>
    intro value multiplier input rest n h
    cases h
  | succ steps ih =>
    intro value multiplier input rest n h
    obtain ⟨⟨byteValue, input'⟩, _, h⟩ := Except.bind_eq_ok.1 h
    dsimp only at h
    by_cases hwide : isSafeInteger ((value + byteValue % 128 * multiplier : Nat) : Int) = false
    · rw [if_pos hwide] at h
      cases h
    · rw [if_neg hwide] at h
      by_cases hlast : byteValue < 128
      · rw [if_pos hlast] at h
        cases h
        exact Bool.eq_true_of_not_eq_false hwide
      · rw [if_neg hlast] at h
        exact ih _ _ h

theorem numberEncodeShortVectorLength_eq {value fuel : Nat} (h : isSafeInteger value = true)
    (hfuel : 8 ≤ fuel) :
    numberEncodeShortVectorLength fuel value = .ok (some (shortVectorBytes (value + 1) value)) ∧
      (shortVectorBytes (value + 1) value).length ≤ 8 := by
  have hle : (value : Int) ≤ maxSafeInteger := (of_decide_eq_true h).2
  have hlt : value < 2 ^ 53 := by
    unfold maxSafeInteger at hle
    omega
  obtain ⟨hloop, hlength⟩ := numberShortVectorLoop_eq 8 fuel (value + 1) value hlt (by omega)
    (by decide) hfuel (by omega)
  have hvalid : ¬ (isSafeNumber value = false ∨ (value : Rat) < 0) := by
    rw [isSafeNumber_natCast, h]
    simp
  unfold numberEncodeShortVectorLength
  rw [if_neg hvalid, hloop]
  exact ⟨rfl, hlength⟩

/-- **Short-vector lengths are exact**: every safe length has one encoding in TypeScript, in
Python and on the web, of at most eight bytes, and is read back from it before any bytes; whatever
is read is a safe length. -/
theorem shortVectorLength_exact {value : Nat} (h : isSafeInteger value = true) :
    (∃ bytes, bytes.length ≤ 8 ∧
      (∀ fuel, 8 ≤ fuel → typescriptEncodeShortVectorLength fuel value = .ok (some bytes) ∧
        webEncodeShortVectorLength fuel value = .ok (some bytes)) ∧
      encodeShortVectorLength value = .ok bytes ∧ pythonEncodeShortVectorLength value = .ok bytes ∧
      ∀ label rest, readShortVectorNumber label (bytes ++ rest) = .ok ((value : Rat), rest)) ∧
    ∀ label input read rest, readShortVectorNumber label input = .ok (read, rest) →
      ∃ n : Nat, read = n ∧ isSafeInteger n = true := by
  refine ⟨⟨shortVectorBytes (value + 1) value,
    (numberEncodeShortVectorLength_eq h (le_refl 8)).2, fun fuel hfuel => ?_, if_pos h, rfl, ?_⟩,
    ?_⟩
  · have hencode := (numberEncodeShortVectorLength_eq h hfuel).1
    exact ⟨hencode, hencode⟩
  · intro label rest
    rw [readShortVectorNumber_eq, readShortVectorLength_encode (if_pos h) label rest]
    rfl
  · intro label input read rest hread
    rw [readShortVectorNumber_eq] at hread
    cases hnat : readShortVectorLength label input with
    | error e =>
      rw [hnat] at hread
      cases hread
    | ok result =>
      rw [hnat] at hread
      cases hread
      exact ⟨result.1, rfl, readShortVectorLoop_safe label 8 0 1 hnat⟩

/-- The largest safe length takes eight bytes. -/
theorem shortVectorLength_exact_largest : ∃ bytes : Bytes, bytes.length ≤ 8 ∧
    encodeShortVectorLength (2 ^ 53 - 1) = .ok bytes ∧
      ∀ label rest, readShortVectorNumber label (bytes ++ rest) =
        .ok (((2 ^ 53 - 1 : Nat) : Rat), rest) := by
  obtain ⟨bytes, hlength, _, hencode, _, hread⟩ :=
    (@shortVectorLength_exact (2 ^ 53 - 1) (by decide)).1
  exact ⟨bytes, hlength, hencode, hread⟩

end Chancery
