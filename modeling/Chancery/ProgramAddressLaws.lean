import Chancery.CurvePoints

/-!
# Derived addresses

What `findProgramAddress` returns, for every digest function, in every implementation.

* `bumpDigest` — the digest of a bump seed; `createProgramAddress_bump`.
* `GreatestOffCurve` — the bump that the search returns; `findProgramAddress_ok`,
  `findProgramAddress_error`.
* `pythonIsEd25519CurvePoint`, `webIsEd25519CurvePoint` — the other implementations decide the
  same encodings.
* `programAddress_exact` — the laws of all three.
-/

set_option autoImplicit false

namespace Chancery

/-! ## Arithmetic of the languages -/

/-- `modulo` over the truncating remainder of a bigint. -/
def truncatedModulo (value modulus : Int) : Int :=
  let remainder := value.tmod modulus
  if 0 ≤ remainder then remainder else remainder + modulus

theorem truncatedModulo_eq (value : Int) {modulus : Nat} (h : 0 < modulus) :
    truncatedModulo value modulus = modulo value modulus := by
  have hpos : (0 : Int) < modulus := by exact_mod_cast h
  have hnonneg : 0 ≤ value % (modulus : Int) := Int.emod_nonneg value hpos.ne'
  have hlt : value % (modulus : Int) < modulus := Int.emod_lt_of_pos value hpos
  unfold truncatedModulo modulo
  dsimp only
  rw [Int.toNat_of_nonneg hnonneg, Int.tmod_eq_emod]
  by_cases hvalue : 0 ≤ value ∨ (modulus : Int) ∣ value
  · rw [if_pos hvalue, Nat.cast_zero, sub_zero, if_pos hnonneg]
  · rw [if_neg hvalue, Int.natAbs_natCast, if_neg (by omega), sub_add_cancel]

/-- `pow` with three arguments. -/
@[irreducible] def pythonPow (base exponent modulus : Nat) : Nat := base ^ exponent % modulus

theorem pythonPow_eq (base exponent : Nat) :
    pythonPow base exponent ed25519FieldModulus =
      modularPower base exponent ed25519FieldModulus := by
  rw [modularPower_eq ed25519FieldModulus_gt_one, pythonPow]

/-- The curve's constant in Python. -/
def pythonEd25519D : Nat :=
  modulo (-121665 * pythonPow 121666 (ed25519FieldModulus - 2) ed25519FieldModulus)
    ed25519FieldModulus

def pythonEd25519SqrtMinusOne : Nat :=
  pythonPow 2 ((ed25519FieldModulus - 1) / 4) ed25519FieldModulus

theorem pythonEd25519D_eq : pythonEd25519D = ed25519D := by
  unfold pythonEd25519D
  rw [pythonPow_eq]
  rfl

theorem pythonEd25519SqrtMinusOne_eq : pythonEd25519SqrtMinusOne = ed25519SqrtMinusOne := by
  unfold pythonEd25519SqrtMinusOne
  rw [pythonPow_eq]
  rfl

/-! ## The implementations of the check -/

/-- `_is_ed25519_curve_point`; the remainder of Python is never negative. -/
def pythonIsEd25519CurvePoint (compressedPoint : Bytes) : Bool :=
  if compressedPoint.length ≠ 32 then false
  else
    let sign := (compressedPoint.getD 31 0).toNat / 128
    let y := LittleEndian.ofBytes
      (compressedPoint.set 31 (compressedPoint.getD 31 0 &&& 0x7f))
    if ed25519FieldModulus ≤ y then false
    else
      let ySquared := modulo (y * y) ed25519FieldModulus
      let numerator := modulo (ySquared - 1) ed25519FieldModulus
      let denominator := modulo (pythonEd25519D * ySquared + 1) ed25519FieldModulus
      if denominator = 0 then false
      else
        let xSquared := modulo
          (numerator * pythonPow denominator (ed25519FieldModulus - 2) ed25519FieldModulus)
          ed25519FieldModulus
        let power := pythonPow xSquared ((ed25519FieldModulus + 3) / 8) ed25519FieldModulus
        let x :=
          if modulo (power * power - xSquared) ed25519FieldModulus ≠ 0 then
            modulo (power * pythonEd25519SqrtMinusOne) ed25519FieldModulus
          else power
        if modulo (x * x - xSquared) ed25519FieldModulus ≠ 0 then false
        else if x = 0 ∧ sign = 1 then false
        else true

/-- `isEd25519CurvePoint` of `program-address.mjs`, the same code. -/
def webIsEd25519CurvePoint : Bytes → Bool := isEd25519CurvePoint

theorem pythonIsEd25519CurvePoint_eq (compressedPoint : Bytes) :
    pythonIsEd25519CurvePoint compressedPoint = isEd25519CurvePoint compressedPoint := by
  have hlast : ∀ x sign : Nat,
      (if x = 0 ∧ sign = 1 then false else true) = !(x == 0 && sign == 1) := by
    intro x sign
    by_cases hx : x = 0 <;> by_cases hsign : sign = 1 <;> simp [hx, hsign]
  unfold pythonIsEd25519CurvePoint isEd25519CurvePoint candidateRoot modularInverse
  simp only [pythonEd25519D_eq, pythonEd25519SqrtMinusOne_eq, pythonPow_eq, hlast]

/-! ## The search -/

section

variable (sha256 : Sha256) (seeds : List Bytes) (programAddress : PublicKey)

/-- The digest that a bump seed gives. -/
def bumpDigest (bump : Nat) : Bytes :=
  (sha256 ((seeds ++ [[UInt8.ofNat bump]]).flatten ++ programAddress.bytes ++
    programDerivedAddressMarker)).val

/-- Seeds that an address can be derived from. -/
structure SeedsFit : Prop where
  count : seeds.length ≤ 15
  lengths : ∀ seed ∈ seeds, seed.length ≤ 32

/-- The bump is the greatest one whose digest is off the curve. -/
structure GreatestOffCurve (bump : Nat) : Prop where
  le : bump ≤ 255
  offCurve : ¬ EncodesPoint (bumpDigest sha256 seeds programAddress bump)
  greatest : ∀ other, bump < other → other ≤ 255 →
    EncodesPoint (bumpDigest sha256 seeds programAddress other)

end

section

variable {sha256 : Sha256} {seeds : List Bytes} {programAddress : PublicKey}

theorem validateSeeds_ok {maximum : Nat} (hcount : seeds.length ≤ maximum)
    (hlengths : ∀ seed ∈ seeds, seed.length ≤ 32) : validateSeeds seeds maximum = .ok () := by
  unfold validateSeeds
  have hnone : (seeds.findIdx? fun seed => decide (32 < seed.length)) = none := by
    rw [List.findIdx?_eq_none_iff]
    intro seed hmem
    have := hlengths seed hmem
    simpa using this
  rw [if_neg (by omega), hnone]

theorem bumpDigest_length (sha256 : Sha256) (seeds : List Bytes) (programAddress : PublicKey)
    (bump : Nat) : (bumpDigest sha256 seeds programAddress bump).length = 32 :=
  (sha256 ((seeds ++ [[UInt8.ofNat bump]]).flatten ++ programAddress.bytes ++
    programDerivedAddressMarker)).property

theorem createProgramAddress_bump (h : SeedsFit seeds) (bump : Nat) :
    createProgramAddress sha256 (seeds ++ [[UInt8.ofNat bump]]) programAddress =
      if isEd25519CurvePoint (bumpDigest sha256 seeds programAddress bump) then
        .error onCurveMessage
      else .ok ⟨bumpDigest sha256 seeds programAddress bump,
        bumpDigest_length sha256 seeds programAddress bump⟩ := by
  have hseeds : validateSeeds (seeds ++ [[UInt8.ofNat bump]]) 16 = .ok () := by
    refine validateSeeds_ok ?_ fun seed hmem => ?_
    · have := h.count
      simp only [List.length_append, List.length_singleton]
      omega
    · rcases List.mem_append.1 hmem with hmem | hmem
      · exact h.lengths seed hmem
      · rw [List.mem_singleton.1 hmem, List.length_singleton]
        omega
  unfold createProgramAddress
  rw [Except.bind_of_ok hseeds]
  rfl

/-- **The loop returns the greatest bump off the curve**, or there is none below the bound. -/
theorem findProgramAddressBelow_spec (sha256 : Sha256) (programAddress : PublicKey)
    (h : SeedsFit seeds) : ∀ bound : Nat,
    (∃ result, findProgramAddressBelow sha256 seeds programAddress bound = .ok result ∧
      result.bump < bound ∧
      result.address.bytes = bumpDigest sha256 seeds programAddress result.bump ∧
      ¬ EncodesPoint (bumpDigest sha256 seeds programAddress result.bump) ∧
      ∀ other, result.bump < other → other < bound →
        EncodesPoint (bumpDigest sha256 seeds programAddress other)) ∨
    (∃ e, findProgramAddressBelow sha256 seeds programAddress bound = .error e) ∧
      ∀ other, other < bound → EncodesPoint (bumpDigest sha256 seeds programAddress other) := by
  intro bound
  induction bound with
  | zero => exact Or.inr ⟨⟨_, rfl⟩, fun other hother => by omega⟩
  | succ bump ih =>
    have hpoint := isEd25519CurvePoint_iff (bumpDigest_length sha256 seeds programAddress bump)
    rw [findProgramAddressBelow, createProgramAddress_bump h]
    by_cases hcurve : isEd25519CurvePoint (bumpDigest sha256 seeds programAddress bump) = true
    · rw [if_pos hcurve]
      dsimp only
      rw [if_pos rfl]
      have hbelow : ∀ other, other < bump + 1 → ¬ other < bump →
          EncodesPoint (bumpDigest sha256 seeds programAddress other) := by
        intro other hlt hge
        obtain rfl : other = bump := by omega
        exact hpoint.1 hcurve
      rcases ih with ⟨result, hresult, hlt, haddress, hoff, hgreatest⟩ | ⟨herror, hall⟩
      · refine Or.inl ⟨result, hresult, by omega, haddress, hoff, fun other hgt hother => ?_⟩
        by_cases hlow : other < bump
        · exact hgreatest other hgt hlow
        · exact hbelow other hother hlow
      · refine Or.inr ⟨herror, fun other hother => ?_⟩
        by_cases hlow : other < bump
        · exact hall other hlow
        · exact hbelow other hother hlow
    · rw [if_neg hcurve]
      refine Or.inl ⟨_, rfl, Nat.lt_succ_self bump, rfl, fun hencodes => hcurve (hpoint.2 hencodes),
        fun other hgt hother => ?_⟩
      dsimp only at hgt
      omega

theorem findProgramAddress_eq (h : SeedsFit seeds) :
    findProgramAddress sha256 seeds programAddress =
      findProgramAddressBelow sha256 seeds programAddress 256 :=
  Except.bind_of_ok (validateSeeds_ok h.count h.lengths) _

theorem GreatestOffCurve.unique {bump other : Nat}
    (h : GreatestOffCurve sha256 seeds programAddress bump)
    (h' : GreatestOffCurve sha256 seeds programAddress other) : bump = other := by
  rcases lt_trichotomy bump other with hlt | heq | hgt
  · exact absurd (h.greatest other hlt h'.le) h'.offCurve
  · exact heq
  · exact absurd (h'.greatest bump hgt h.le) h.offCurve

/-- **The search returns the greatest bump off the curve, with its digest.** -/
theorem findProgramAddress_ok (h : SeedsFit seeds) (result : ProgramAddressResult) :
    findProgramAddress sha256 seeds programAddress = .ok result ↔
      GreatestOffCurve sha256 seeds programAddress result.bump ∧
        result.address.bytes = bumpDigest sha256 seeds programAddress result.bump := by
  rw [findProgramAddress_eq h]
  rcases findProgramAddressBelow_spec sha256 programAddress h 256 with
    ⟨found, hfound, hlt, haddress, hoff, hgreatest⟩ | ⟨⟨e, herror⟩, hall⟩
  · have hbump : GreatestOffCurve sha256 seeds programAddress found.bump :=
      ⟨by omega, hoff, fun other hgt hother => hgreatest other hgt (by omega)⟩
    rw [hfound]
    constructor
    · rintro ⟨⟩
      exact ⟨hbump, haddress⟩
    · rintro ⟨hresult, hbytes⟩
      have hsame := hbump.unique hresult
      obtain ⟨⟨foundBytes, foundLength⟩, foundBump⟩ := found
      obtain ⟨⟨resultBytes, resultLength⟩, resultBump⟩ := result
      dsimp only at hsame haddress hbytes
      subst hsame
      subst haddress
      subst hbytes
      rfl
  · rw [herror]
    exact iff_of_false (by simp) fun hresult =>
      hresult.1.offCurve (hall _ (by have := hresult.1.le; omega))

/-- **The search fails exactly when every digest is on the curve.** -/
theorem findProgramAddress_error (h : SeedsFit seeds) :
    (∃ e, findProgramAddress sha256 seeds programAddress = .error e) ↔
      ∀ bump ≤ 255, EncodesPoint (bumpDigest sha256 seeds programAddress bump) := by
  rw [findProgramAddress_eq h]
  rcases findProgramAddressBelow_spec sha256 programAddress h 256 with
    ⟨found, hfound, hlt, -, hoff, -⟩ | ⟨herror, hall⟩
  · rw [hfound]
    exact iff_of_false (by simp) fun hcurve => hoff (hcurve _ (by omega))
  · exact iff_of_true herror fun bump hle => hall bump (by omega)

end

/-! ## All implementations -/

section

variable (isCurvePoint : Bytes → Bool) (sha256 : Sha256)

/-- The key of a digest. -/
def digestKey (digest : { bytes : Bytes // bytes.length = 32 }) : PublicKey :=
  ⟨digest.val, digest.property⟩

/-- `createProgramAddress` over an implementation of the check. -/
def createProgramAddressWith (seeds : List Bytes) (programAddress : PublicKey) :
    Except String PublicKey := do
  validateSeeds seeds 16
  let addressBytes :=
    sha256 (seeds.flatten ++ programAddress.bytes ++ programDerivedAddressMarker)
  if isCurvePoint addressBytes.val then .error onCurveMessage
  else return digestKey addressBytes

/-- The search below a bump, over any curve check. -/
def findProgramAddressBelowWith (seeds : List Bytes) (programAddress : PublicKey) :
    Nat → Except String ProgramAddressResult
  | 0 => .error "Unable to find an off-curve program address"
  | bump + 1 =>
    match createProgramAddressWith isCurvePoint sha256 (seeds ++ [[UInt8.ofNat bump]])
        programAddress with
    | .ok address => .ok ⟨address, bump⟩
    | .error e =>
      if e = onCurveMessage then findProgramAddressBelowWith seeds programAddress bump
      else .error e

/-- The search, over any curve check. -/
def findProgramAddressWith (seeds : List Bytes) (programAddress : PublicKey) :
    Except String ProgramAddressResult := do
  validateSeeds seeds 15
  findProgramAddressBelowWith isCurvePoint sha256 seeds programAddress 256

end

/-- `find_program_address` of `program_address.py`. -/
def pythonFindProgramAddress (sha256 : Sha256) (seeds : List Bytes) (programAddress : PublicKey) :
    Except String ProgramAddressResult :=
  findProgramAddressWith pythonIsEd25519CurvePoint sha256 seeds programAddress

/-- `findProgramAddress` of `program-address.mjs`. -/
def webFindProgramAddress (sha256 : Sha256) (seeds : List Bytes) (programAddress : PublicKey) :
    Except String ProgramAddressResult :=
  findProgramAddressWith webIsEd25519CurvePoint sha256 seeds programAddress

/-- Implementations of the check that agree find the same addresses. -/
theorem findProgramAddressWith_eq {isCurvePoint : Bytes → Bool}
    (h : ∀ bytes, isCurvePoint bytes = isEd25519CurvePoint bytes) (sha256 : Sha256)
    (seeds : List Bytes) (programAddress : PublicKey) :
    findProgramAddressWith isCurvePoint sha256 seeds programAddress =
      findProgramAddress sha256 seeds programAddress := by
  have hcreate : ∀ seeds, createProgramAddressWith isCurvePoint sha256 seeds programAddress =
      createProgramAddress sha256 seeds programAddress := by
    intro seeds
    unfold createProgramAddressWith createProgramAddress
    simp only [h, digestKey]
  have hbelow : ∀ bound, findProgramAddressBelowWith isCurvePoint sha256 seeds programAddress
      bound = findProgramAddressBelow sha256 seeds programAddress bound := by
    intro bound
    induction bound with
    | zero => rfl
    | succ bump ih =>
      rw [findProgramAddressBelowWith, findProgramAddressBelow, hcreate]
      cases createProgramAddress sha256 (seeds ++ [[UInt8.ofNat bump]]) programAddress with
      | ok address => rfl
      | error message =>
        dsimp only
        rw [ih]
  unfold findProgramAddressWith findProgramAddress
  rw [hbelow]

/-- The laws of the three implementations, for one digest function. -/
structure ProgramAddressLaws (sha256 : Sha256) : Prop where
  remainders : ∀ (value : Int) (modulus : Nat), 0 < modulus →
    truncatedModulo value modulus = modulo value modulus
  powers : ∀ base exponent modulus, 1 < modulus →
    modularPower base exponent modulus = base ^ exponent % modulus
  denominators : ∀ y : Nat,
    modulo (ed25519D * modulo (y * y) ed25519FieldModulus + 1) ed25519FieldModulus ≠ 0
  points : ∀ compressedPoint : Bytes, compressedPoint.length = 32 →
    (isEd25519CurvePoint compressedPoint = true ↔ EncodesPoint compressedPoint) ∧
    (pythonIsEd25519CurvePoint compressedPoint = true ↔ EncodesPoint compressedPoint) ∧
    (webIsEd25519CurvePoint compressedPoint = true ↔ EncodesPoint compressedPoint)
  found : ∀ seeds programAddress, SeedsFit seeds → ∀ result,
    findProgramAddress sha256 seeds programAddress = .ok result ↔
      GreatestOffCurve sha256 seeds programAddress result.bump ∧
        result.address.bytes = bumpDigest sha256 seeds programAddress result.bump
  notFound : ∀ seeds programAddress, SeedsFit seeds →
    ((∃ e, findProgramAddress sha256 seeds programAddress = .error e) ↔
      ∀ bump ≤ 255, EncodesPoint (bumpDigest sha256 seeds programAddress bump))
  agree : ∀ seeds programAddress,
    pythonFindProgramAddress sha256 seeds programAddress =
        findProgramAddress sha256 seeds programAddress ∧
      webFindProgramAddress sha256 seeds programAddress =
        findProgramAddress sha256 seeds programAddress

/-- **Derived addresses are exact**, whatever the digest function is: the check decides the strict
encodings of curve points, and the search returns the greatest bump off the curve. -/
theorem programAddress_exact (sha256 : Sha256) : ProgramAddressLaws sha256 where
  remainders value _ h := truncatedModulo_eq value h
  powers base exponent _ h := modularPower_eq h base exponent
  denominators := denominator_ne_zero
  points compressedPoint h := by
    have hpoint := isEd25519CurvePoint_iff h
    refine ⟨hpoint, ?_, hpoint⟩
    rw [pythonIsEd25519CurvePoint_eq]
    exact hpoint
  found _ _ h result := findProgramAddress_ok h result
  notFound _ _ h := findProgramAddress_error h
  agree seeds programAddress :=
    ⟨findProgramAddressWith_eq pythonIsEd25519CurvePoint_eq sha256 seeds programAddress,
      findProgramAddressWith_eq (fun _ => rfl) sha256 seeds programAddress⟩

end Chancery
