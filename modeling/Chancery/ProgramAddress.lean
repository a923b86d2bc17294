import Chancery.Value
import Chancery.Lib.Codec
import Chancery.Lib.LittleEndian
import Chancery.Lib.Sha2

/-!
# Program-derived addresses

Model of `typescript/src/ProgramAddress.ts`: an address is a digest that is no Ed25519 point.
Nothing depends on which digest function it is; `platformSha256` is the one the platform has.

* `isEd25519CurvePoint` — decompression of a point by modular exponentiation.
* `createProgramAddress`, `findProgramAddress` — the highest bump seed whose digest is off the
  curve.
-/

set_option autoImplicit false

namespace Chancery

/-- `createHash("sha256").update(bytes).digest()`. -/
abbrev Sha256 := Bytes → { digest : Bytes // digest.length = 32 }

/-- The hash that the clients use. -/
def platformSha256 : Sha256 := fun bytes => ⟨Sha2.digest bytes, Sha2.digest_length bytes⟩

/-- A derived address with its bump. -/
structure ProgramAddressResult where
  address : PublicKey
  bump : Nat

/-- The UTF-8 bytes of a text. -/
def textSeed (text : String) : Bytes := text.toUTF8.data.toList

/-- The bytes that end every hashed preimage. -/
def programDerivedAddressMarker : Bytes := textSeed "ProgramDerivedAddress"

/-! ## Curve points -/

/-- The field of the curve. -/
def ed25519FieldModulus : Nat := 2 ^ 255 - 19

/-- The residue of an integer. -/
def modulo (value : Int) (modulus : Nat) : Nat := (value % modulus).toNat

/-- The loop of `modularPower`: square and multiply, low bits of the exponent first. -/
def modularPowerLoop (modulus : Nat) : Nat → Nat → Nat → Nat → Nat
  | 0, result, _, _ => result
  | fuel + 1, result, currentBase, currentExponent =>
    if currentExponent = 0 then result
    else modularPowerLoop modulus fuel
      (if currentExponent % 2 = 1 then result * currentBase % modulus else result)
      (currentBase * currentBase % modulus) (currentExponent / 2)

/-- Modular power by squaring. -/
def modularPower (base exponent modulus : Nat) : Nat :=
  modularPowerLoop modulus exponent 1 (base % modulus) exponent

/-- By Fermat's theorem; the callers exclude zero. -/
def modularInverse (value modulus : Nat) : Nat := modularPower value (modulus - 2) modulus

/-- The constant of the curve. -/
def ed25519D : Nat :=
  modulo (-121665 * modularInverse 121666 ed25519FieldModulus) ed25519FieldModulus

/-- A square root of -1. -/
def ed25519SqrtMinusOne : Nat :=
  modularPower 2 ((ed25519FieldModulus - 1) / 4) ed25519FieldModulus

/-- A candidate root of `xSquared`, times the root of minus one when that is needed. -/
def candidateRoot (xSquared : Nat) : Nat :=
  let x := modularPower xSquared ((ed25519FieldModulus + 3) / 8) ed25519FieldModulus
  if modulo (x * x - xSquared) ed25519FieldModulus ≠ 0 then
    modulo (x * ed25519SqrtMinusOne) ed25519FieldModulus
  else x

/-- Whether bytes encode a point of the curve. -/
def isEd25519CurvePoint (compressedPoint : Bytes) : Bool :=
  if compressedPoint.length ≠ 32 then false
  else
    let sign := (compressedPoint.getD 31 0).toNat / 128
    let encodedY := compressedPoint.set 31 (compressedPoint.getD 31 0 &&& 0x7f)
    let y := LittleEndian.ofBytes encodedY
    if ed25519FieldModulus ≤ y then false
    else
      let ySquared := modulo (y * y) ed25519FieldModulus
      let numerator := modulo (ySquared - 1) ed25519FieldModulus
      let denominator := modulo (ed25519D * ySquared + 1) ed25519FieldModulus
      if denominator = 0 then false
      else
        let xSquared := modulo (numerator * modularInverse denominator ed25519FieldModulus)
          ed25519FieldModulus
        let x := candidateRoot xSquared
        if modulo (x * x - xSquared) ed25519FieldModulus ≠ 0 then false
        else !(x == 0 && sign == 1)

/-! ## Addresses -/

/-- Check of the seeds: how many, and how long. -/
def validateSeeds (seeds : List Bytes) (maximumSeedCount : Nat) : Except String Unit :=
  if maximumSeedCount < seeds.length then
    .error s!"Program address accepts at most {maximumSeedCount} seeds"
  else match seeds.findIdx? fun seed => 32 < seed.length with
    | some index => .error s!"Program address seed {index} exceeds 32 bytes"
    | none => .ok ()

def onCurveMessage : String := "Derived address is on the Ed25519 curve"

section

variable (sha256 : Sha256)

/-- The address of seeds, which must be off the curve. -/
def createProgramAddress (seeds : List Bytes) (programAddress : PublicKey) :
    Except String PublicKey := do
  validateSeeds seeds 16
  let addressBytes :=
    sha256 (seeds.flatten ++ programAddress.bytes ++ programDerivedAddressMarker)
  if isEd25519CurvePoint addressBytes.val then .error onCurveMessage
  else return ⟨addressBytes.val, addressBytes.property⟩

/-- The loop over the bump seeds below a bound, downwards; any other error ends it. -/
def findProgramAddressBelow (seeds : List Bytes) (programAddress : PublicKey) :
    Nat → Except String ProgramAddressResult
  | 0 => .error "Unable to find an off-curve program address"
  | bump + 1 =>
    match createProgramAddress sha256 (seeds ++ [[UInt8.ofNat bump]]) programAddress with
    | .ok address => .ok ⟨address, bump⟩
    | .error e =>
      if e = onCurveMessage then findProgramAddressBelow seeds programAddress bump
      else .error e

/-- The address of the greatest bump that is off the curve. -/
def findProgramAddress (seeds : List Bytes) (programAddress : PublicKey) :
    Except String ProgramAddressResult := do
  validateSeeds seeds 15
  findProgramAddressBelow sha256 seeds programAddress 256

end

end Chancery
