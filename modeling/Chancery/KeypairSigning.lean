import Chancery.EdwardsPoints

/-!
# Keypair signing

`public_key_bytes_from_seed` and `sign_message_with_keypair` of
`python/chancery_reference/solana_transaction.py`, for every digest function.

* `pythonRecoverX`, `ed25519BasePoint` — the base point; `basePoint`, `order_nsmul_basePoint`.
* `secretScalar`, `pythonPublicKeyBytesFromSeed`, `pythonSignMessageWithKeypair`.
* `Verifies` — what a verifier asks of a signature.
* `keypairSigning_exact` — the laws of the arithmetic and of every signature.
-/

set_option autoImplicit false

namespace Chancery

open Edwards

/-! ## The base point -/

/-- `_ED25519_ORDER` -/
def ed25519Order : Nat := 2 ^ 252 + 27742317777372353535851937790883648493

/-- `_recover_x` -/
def pythonRecoverX (y sign : Nat) : Except String Nat :=
  let numerator := reduced (y * y - 1)
  let denominator := reduced (pythonEd25519D * y * y + 1)
  let xSquared := reduced
    (numerator * pythonPow denominator (ed25519FieldModulus - 2) ed25519FieldModulus)
  let power := pythonPow xSquared ((ed25519FieldModulus + 3) / 8) ed25519FieldModulus
  let x :=
    if reduced (power * power - xSquared) ≠ 0 then
      let sqrtMinusOne := pythonPow 2 ((ed25519FieldModulus - 1) / 4) ed25519FieldModulus
      reduced (power * sqrtMinusOne)
    else power
  if reduced (x * x - xSquared) ≠ 0 then .error "Unable to recover Ed25519 point"
  else if x % 2 ≠ sign then .ok (reduced (-x))
  else .ok x

/-- `_ed25519_base_point` -/
def ed25519BasePoint : Except String EdwardsCoordinates := do
  let y := reduced (4 * pythonPow 5 (ed25519FieldModulus - 2) ed25519FieldModulus)
  let x ← pythonRecoverX y 0
  return ⟨x, y, 1, reduced (x * y)⟩

/-! ## Keys and signatures -/

/-- `hashlib.sha512(bytes).digest()` -/
abbrev Sha512 := Bytes → { digest : Bytes // digest.length = 64 }

/-- A keypair as Python holds it. -/
structure PythonKeypair where
  publicKey : String
  secretKeySeed : Bytes

/-- The first half of the digest, with its bits clamped. -/
def secretScalar (digest : Bytes) : Nat :=
  let scalarBytes := digest.take 32
  let scalarBytes := scalarBytes.set 0 (scalarBytes.getD 0 0 &&& 248)
  let scalarBytes := scalarBytes.set 31 (scalarBytes.getD 31 0 &&& 63)
  let scalarBytes := scalarBytes.set 31 (scalarBytes.getD 31 0 ||| 64)
  LittleEndian.ofBytes scalarBytes

section

variable (sha512 : Sha512)

/-- `public_key_bytes_from_seed` -/
def pythonPublicKeyBytesFromSeed (seed : Bytes) : Except String Bytes :=
  if seed.length ≠ 32 then .error "Ed25519 seed must contain 32 bytes"
  else do
    let basePoint ← ed25519BasePoint
    let scalar := secretScalar (sha512 seed).val
    return encodeEdwardsPoint (scalarMultiply pythonEd25519D basePoint scalar)

/-- The digest of the two points and the message, as a scalar. -/
def signatureChallenge (encodedNoncePoint publicKey message : Bytes) : Nat :=
  LittleEndian.ofBytes (sha512 (encodedNoncePoint ++ publicKey ++ message)).val % ed25519Order

/-- `sign_message_with_keypair` -/
def pythonSignMessageWithKeypair (message : Bytes) (keypair : PythonKeypair) :
    Except String Bytes :=
  if keypair.secretKeySeed.length ≠ 32 then .error "Ed25519 seed must contain 32 bytes"
  else do
    let actualPublicKey ← pythonPublicKeyBytesFromSeed sha512 keypair.secretKeySeed
    let publicKey ← normalizePublicKey keypair.publicKey
    if encodeBase58 actualPublicKey ≠ publicKey then
      .error ("Secret seed does not match public key " ++ keypair.publicKey)
    else
      let digest := (sha512 keypair.secretKeySeed).val
      let scalar := secretScalar digest
      let noncePrefix := digest.drop 32
      let nonce := LittleEndian.ofBytes (sha512 (noncePrefix ++ message)).val % ed25519Order
      let basePoint ← ed25519BasePoint
      let encodedNoncePoint := encodeEdwardsPoint (scalarMultiply pythonEd25519D basePoint nonce)
      let challenge := signatureChallenge sha512 encodedNoncePoint actualPublicKey message
      let response := (nonce + challenge * scalar) % ed25519Order
      return encodedNoncePoint ++ LittleEndian.toBytes 32 response

end

/-! ## The order of the base point -/

/-- The base point's first coordinate. -/
def basePointX : Nat :=
  15112221349535400772501151409588531511454012693041857206046113283949847762202

def basePointY : Nat :=
  46316835694926478169428394003475163141307993866256225615783033603165251855960

theorem basePoint_onCurve : OnCurve (ed25519D : Ed25519Field) basePointX basePointY := by
  have hequation : (basePointY * basePointY) % ed25519FieldModulus =
      (1 + ed25519D * (basePointX * basePointX) * (basePointY * basePointY) +
        basePointX * basePointX) % ed25519FieldModulus := by decide +kernel
  have hcast := (ZMod.natCast_eq_natCast_iff' _ _ _).2 hequation
  push_cast at hcast
  unfold OnCurve
  linear_combination hcast

/-- The base point: `y` is four fifths, and `x` is even. -/
def basePoint : Ed25519Point := ⟨basePointX, basePointY, basePoint_onCurve⟩

/-- The base point in extended coordinates. -/
def basePointCoordinates : EdwardsCoordinates :=
  ⟨basePointX, basePointY, 1, reduced (basePointX * basePointY)⟩

/-- **The code finds the base point.** -/
theorem ed25519BasePoint_eq : ed25519BasePoint = .ok basePointCoordinates := by
  have hy : reduced (4 * modularPower 5 (ed25519FieldModulus - 2) ed25519FieldModulus) =
      basePointY := by decide +kernel
  have hx : pythonRecoverX basePointY 0 = .ok basePointX := by
    unfold pythonRecoverX
    simp only [pythonPow_eq, pythonEd25519D_eq]
    decide +kernel
  unfold ed25519BasePoint
  rw [pythonPow_eq, hy]
  exact Except.bind_of_ok hx _

theorem basePointCoordinates_represents : basePointCoordinates.Represents basePoint where
  z_ne_zero := by simp [basePointCoordinates, EdwardsCoordinates.cast]
  x := by simp [basePointCoordinates, EdwardsCoordinates.cast, basePoint]
  y := by simp [basePointCoordinates, EdwardsCoordinates.cast, basePoint]
  t := by simp [basePointCoordinates, EdwardsCoordinates.cast, basePoint, reduced_cast]

/-- The order, by the code's own arithmetic: the multiple is the identity up to its scale. -/
theorem scalarMultiply_order :
    (scalarMultiply ed25519D basePointCoordinates ed25519Order).x = 0 ∧
      (scalarMultiply ed25519D basePointCoordinates ed25519Order).y =
        (scalarMultiply ed25519D basePointCoordinates ed25519Order).z := by
  decide +kernel

/-- **The base point has the order.** -/
theorem order_nsmul_basePoint : ed25519Order • basePoint = 0 := by
  obtain ⟨hx, hy⟩ := scalarMultiply_order
  have hmultiple := scalarMultiply_represents basePointCoordinates_represents ed25519Order
  have hz := hmultiple.z_ne_zero
  have hxz := hmultiple.x
  have hyz := hmultiple.y
  simp only [EdwardsCoordinates.cast, hx, hy, Nat.cast_zero] at hz hxz hyz
  ext
  · exact (mul_eq_zero.1 hxz.symm).resolve_right hz
  · exact (mul_eq_right₀ hz).1 hyz.symm

/-- Scalars may be reduced by the order. -/
theorem mod_order_nsmul (n : Nat) : (n % ed25519Order) • basePoint = n • basePoint := by
  have hsplit : (n % ed25519Order + ed25519Order * (n / ed25519Order)) • basePoint =
      n • basePoint := by rw [Nat.mod_add_div]
  rw [← hsplit, add_nsmul, mul_nsmul, order_nsmul_basePoint, nsmul_zero, add_zero]

/-! ## Signatures -/

/-- The multiples of the base point as the code encodes them. -/
theorem encode_multiple (n : Nat) :
    encodeEdwardsPoint (scalarMultiply pythonEd25519D basePointCoordinates n) =
      encodePoint (n • basePoint) := by
  rw [pythonEd25519D_eq]
  exact encodeEdwardsPoint_eq (scalarMultiply_represents basePointCoordinates_represents n)

/-- `S B = R + h A`, for the points that the signature and the public key encode. -/
def Verifies (sha512 : Sha512) (publicKey message signature : Bytes) : Prop :=
  signature.length = 64 ∧ LittleEndian.ofBytes (signature.drop 32) < ed25519Order ∧
    ∃ A R : Ed25519Point, encodePoint A = publicKey ∧ encodePoint R = signature.take 32 ∧
      LittleEndian.ofBytes (signature.drop 32) • basePoint =
        R + signatureChallenge sha512 (signature.take 32) publicKey message • A

section

variable {sha512 : Sha512} {seed message : Bytes}

theorem pythonPublicKeyBytesFromSeed_ok (h : seed.length = 32) :
    pythonPublicKeyBytesFromSeed sha512 seed =
      .ok (encodePoint (secretScalar (sha512 seed).val • basePoint)) := by
  rw [pythonPublicKeyBytesFromSeed, if_neg (not_not.2 h), ed25519BasePoint_eq, ← encode_multiple]
  rfl

/-- What the code puts into a signature. -/
def signatureBytes (sha512 : Sha512) (seed message : Bytes) : Bytes :=
  let scalar := secretScalar (sha512 seed).val
  let nonce := LittleEndian.ofBytes (sha512 ((sha512 seed).val.drop 32 ++ message)).val %
    ed25519Order
  let challenge := signatureChallenge sha512 (encodePoint (nonce • basePoint))
    (encodePoint (scalar • basePoint)) message
  encodePoint (nonce • basePoint) ++
    LittleEndian.toBytes 32 ((nonce + challenge * scalar) % ed25519Order)

theorem pythonSignMessageWithKeypair_eq (h : seed.length = 32) (publicKey : String) :
    pythonSignMessageWithKeypair sha512 message ⟨publicKey, seed⟩ = (do
      let normalized ← normalizePublicKey publicKey
      if encodeBase58 (encodePoint (secretScalar (sha512 seed).val • basePoint)) ≠ normalized then
        .error ("Secret seed does not match public key " ++ publicKey)
      else .ok (signatureBytes sha512 seed message)) := by
  unfold pythonSignMessageWithKeypair
  rw [if_neg (not_not.2 h), Except.bind_of_ok (pythonPublicKeyBytesFromSeed_ok h)]
  dsimp only
  refine Except.bind_congr fun normalized _ => ?_
  rw [ed25519BasePoint_eq]
  split
  · rfl
  · refine (Except.bind_of_ok rfl _).trans ?_
    rw [encode_multiple]
    rfl

/-- **The signature verifies.** -/
theorem verifies_signatureBytes (sha512 : Sha512) (seed message : Bytes) :
    Verifies sha512 (encodePoint (secretScalar (sha512 seed).val • basePoint)) message
      (signatureBytes sha512 seed message) := by
  unfold signatureBytes
  dsimp only
  generalize secretScalar (sha512 seed).val = scalar
  generalize LittleEndian.ofBytes (sha512 ((sha512 seed).val.drop 32 ++ message)).val %
    ed25519Order = nonce
  generalize hchallenge : signatureChallenge sha512 (encodePoint (nonce • basePoint))
    (encodePoint (scalar • basePoint)) message = challenge
  have hlength := length_encodePoint (nonce • basePoint)
  have hlt : (nonce + challenge * scalar) % ed25519Order < ed25519Order :=
    Nat.mod_lt _ (by decide)
  have horder : ed25519Order < 2 ^ (8 * 32) := by decide
  have hresponse := LittleEndian.ofBytes_toBytes (hlt.trans horder)
  refine ⟨by simp [hlength], ?_, scalar • basePoint, nonce • basePoint, rfl, ?_, ?_⟩
  · rwa [List.drop_left' hlength, hresponse]
  · rw [List.take_left' hlength]
  · calc LittleEndian.ofBytes (List.drop 32 (encodePoint (nonce • basePoint) ++
          LittleEndian.toBytes 32 ((nonce + challenge * scalar) % ed25519Order))) • basePoint
        = (nonce + challenge * scalar) • basePoint := by
          rw [List.drop_left' hlength, hresponse, mod_order_nsmul]
      _ = nonce • basePoint + challenge • scalar • basePoint := by
          rw [add_nsmul, mul_nsmul']
      _ = _ := by rw [List.take_left' hlength, hchallenge]

/-- What is signed verifies, with the keypair's own key. -/
theorem verifies_of_sign {keypair : PythonKeypair} {signature : Bytes}
    (h : pythonSignMessageWithKeypair sha512 message keypair = .ok signature) :
    ∃ publicKey, pythonPublicKeyBytesFromSeed sha512 keypair.secretKeySeed = .ok publicKey ∧
      keypair.publicKey = encodeBase58 publicKey ∧
      Verifies sha512 publicKey message signature := by
  obtain ⟨publicKey, seed⟩ := keypair
  by_cases hseed : seed.length = 32
  · rw [pythonSignMessageWithKeypair_eq hseed] at h
    obtain ⟨normalized, hnormalized, hrest⟩ := Except.bind_eq_ok.1 h
    split at hrest
    · cases hrest
    · rename_i hsame
      cases hrest
      refine ⟨_, pythonPublicKeyBytesFromSeed_ok hseed, ?_, verifies_signatureBytes sha512 seed _⟩
      rw [not_not.1 hsame]
      exact (normalizePublicKey_ok hnormalized).symm
  · rw [pythonSignMessageWithKeypair, if_pos hseed] at h
    cases h

theorem normalizePublicKey_encodeBase58 {bytes : Bytes} (h : bytes.length = 32) :
    normalizePublicKey (encodeBase58 bytes) = .ok (encodeBase58 bytes) := by
  have hdecode : decodePublicKey (encodeBase58 bytes) = .ok ⟨bytes, h⟩ :=
    decodePublicKey_toBase58 ⟨bytes, h⟩
  rw [normalizePublicKey, hdecode]
  rfl

theorem sign_ok (hseed : seed.length = 32) {publicKey : Bytes}
    (h : pythonPublicKeyBytesFromSeed sha512 seed = .ok publicKey) :
    pythonSignMessageWithKeypair sha512 message ⟨encodeBase58 publicKey, seed⟩ =
      .ok (signatureBytes sha512 seed message) := by
  rw [pythonPublicKeyBytesFromSeed_ok hseed] at h
  have hkey := Except.ok.inj h
  have hlength : publicKey.length = 32 := by
    rw [← hkey, length_encodePoint]
  rw [pythonSignMessageWithKeypair_eq hseed, hkey,
    Except.bind_of_ok (normalizePublicKey_encodeBase58 hlength)]
  exact if_neg (not_not.2 rfl)

end

/-! ## The laws -/

/-- The laws of the point arithmetic and of the signatures, for one digest function. -/
structure KeypairSigningLaws (sha512 : Sha512) : Prop where
  base : ∃ coordinates, ed25519BasePoint = .ok coordinates ∧ coordinates.Represents basePoint
  order : ed25519Order • basePoint = 0
  addRepresents : ∀ (left right : EdwardsCoordinates) (P Q : Ed25519Point),
    left.Represents P → right.Represents Q →
      (addEdwardsPoints pythonEd25519D left right).Represents (P + Q)
  doubleRepresents : ∀ (point : EdwardsCoordinates) (P : Ed25519Point),
    point.Represents P → (doubleEdwardsPoint point).Represents (P + P)
  addValid : ∀ left right : EdwardsCoordinates, left.Valid → right.Valid →
    (addEdwardsPoints pythonEd25519D left right).Valid
  doubleValid : ∀ point : EdwardsCoordinates, point.Valid → (doubleEdwardsPoint point).Valid
  multiplyRepresents : ∀ (point : EdwardsCoordinates) (P : Ed25519Point) (scalar : Nat),
    point.Represents P → (scalarMultiply pythonEd25519D point scalar).Represents (scalar • P)
  encode : ∀ (point : EdwardsCoordinates) (P : Ed25519Point), point.Represents P →
    encodeEdwardsPoint point = encodePoint P
  encodeInjective : Function.Injective encodePoint
  publicKey : ∀ seed : Bytes, seed.length = 32 → ∃ A : Ed25519Point,
    pythonPublicKeyBytesFromSeed sha512 seed = .ok (encodePoint A)
  signs : ∀ seed message publicKey : Bytes, seed.length = 32 →
    pythonPublicKeyBytesFromSeed sha512 seed = .ok publicKey →
      ∃ signature, pythonSignMessageWithKeypair sha512 message ⟨encodeBase58 publicKey, seed⟩ =
        .ok signature
  verifies : ∀ (message : Bytes) (keypair : PythonKeypair) (signature : Bytes),
    pythonSignMessageWithKeypair sha512 message keypair = .ok signature →
      ∃ publicKey, pythonPublicKeyBytesFromSeed sha512 keypair.secretKeySeed = .ok publicKey ∧
        keypair.publicKey = encodeBase58 publicKey ∧ Verifies sha512 publicKey message signature

/-- **Every signature verifies**, whatever the digest function is: the arithmetic computes in the
group of the curve, whose base point has the order, and the response is `S B = R + h A`. -/
theorem keypairSigning_exact (sha512 : Sha512) : KeypairSigningLaws sha512 where
  base := ⟨_, ed25519BasePoint_eq, basePointCoordinates_represents⟩
  order := order_nsmul_basePoint
  addRepresents _ _ _ _ hleft hright := by
    rw [pythonEd25519D_eq]
    exact addEdwardsPoints_represents hleft hright
  doubleRepresents _ _ h := doubleEdwardsPoint_represents h
  addValid _ _ hleft hright := by
    obtain ⟨P, hP⟩ := EdwardsCoordinates.valid_iff.1 hleft
    obtain ⟨Q, hQ⟩ := EdwardsCoordinates.valid_iff.1 hright
    rw [pythonEd25519D_eq]
    exact EdwardsCoordinates.valid_iff.2 ⟨P + Q, addEdwardsPoints_represents hP hQ⟩
  doubleValid _ h := by
    obtain ⟨P, hP⟩ := EdwardsCoordinates.valid_iff.1 h
    exact EdwardsCoordinates.valid_iff.2 ⟨P + P, doubleEdwardsPoint_represents hP⟩
  multiplyRepresents _ _ scalar h := by
    rw [pythonEd25519D_eq]
    exact scalarMultiply_represents h scalar
  encode _ _ h := encodeEdwardsPoint_eq h
  encodeInjective := encodePoint_injective
  publicKey _ h := ⟨_, pythonPublicKeyBytesFromSeed_ok h⟩
  signs _ _ _ hseed h := ⟨_, sign_ok hseed h⟩
  verifies _ _ _ h := verifies_of_sign h

end Chancery
