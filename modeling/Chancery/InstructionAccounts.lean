import Chancery.Account
import Chancery.Instruction
import Chancery.Protocol

/-!
# Instruction accounts

Model of `resolveChanceryInstructionAccounts` and `buildChanceryInstruction` in
`typescript/src/ChanceryInstruction.ts` and `python/chancery_reference/instruction.py`: every
account of an instruction is an input, a default or an address derived from the others.

* `resolveAccounts` — the passes over an instruction's accounts.
* `buildChanceryInstruction` — accounts and data of an instruction.
-/

set_option autoImplicit false

namespace Chancery

/-- The addresses that a caller gives, by account name. -/
abbrev InstructionAccountInputs := List (String × PublicKey)

/-- A named account of an instruction. -/
structure InstructionAccountMeta where
  name : String
  address : PublicKey
  isSigner : Bool
  isWritable : Bool

/-- A built instruction. -/
structure ChanceryInstruction where
  programAddress : PublicKey
  accounts : List InstructionAccountMeta
  data : Bytes

/-- The codec of a language. -/
def Language.dialect : Language → Dialect
  | .typescript => Chancery.typescript
  | .python => Chancery.python

section

variable (client : ChanceryClient)

/-- The seed that an argument gives. -/
def encodePdaArgumentSeed (schema : InstructionSchema) (argumentValues : StructValues)
    (seedName : String) : Except String Bytes :=
  match schema.args.lookup seedName with
  | none => .error s!"Unknown field: {seedName}"
  | some type =>
    match argumentValues.lookup seedName with
    | none | some .undefined => .error s!"PDA seed argument is missing: {seedName}"
    | some value => do
      let encoded ← encodeTypeWith client.language.dialect type value s!"arguments.{seedName}"
      if 32 < encoded.length then
        .error s!"PDA seed argument {seedName} encodes to more than 32 bytes"
      else return encoded

/-- Why a seed is not to be had: another account is not resolved yet, or something failed. -/
inductive SeedError where
  | missingAccount (name : String)
  | failed (message : String)

/-- The message of a failure. -/
def SeedError.message : SeedError → String
  | missingAccount name => s!"PDA seed account is missing: {name}"
  | failed message => message

/-- A failure that no later pass can mend. -/
def orFailed {α : Type} (result : Except String α) : Except SeedError α :=
  result.mapError .failed

/-- The addresses that are known, by account name. -/
abbrev ResolvedAddresses := List (String × PublicKey)

/-- The bytes of a seed. -/
def pdaSeedBytes (schema : InstructionSchema) (argumentValues : StructValues)
    (accountAddresses : ResolvedAddresses) (seedSchema : PdaSeedSchema) :
    Except SeedError Bytes :=
  match seedSchema with
  | .const bytes => .ok bytes
  | .argument name => orFailed (encodePdaArgumentSeed client schema argumentValues name)
  | .account name =>
    match accountAddresses.lookup name with
    | none => .error (.missingAccount name)
    | some address => .ok address.bytes

/-- The address that seeds derive. -/
def derivePda (schema : InstructionSchema) (argumentValues : StructValues)
    (accountAddresses : ResolvedAddresses) (seeds : List PdaSeedSchema) :
    Except SeedError PublicKey := do
  let seedBytes ← seeds.mapM (pdaSeedBytes client schema argumentValues accountAddresses)
  let result ← orFailed (deriveNamedProgramAddress client seedBytes)
  return result.address

/-- The address that stands for an account that is not given. -/
def defaultAccountAddress (accountSchema : InstructionAccountSchema) :
    Except String (Option PublicKey) :=
  match accountSchema.default with
  | none => .ok none
  | some .programAddress => .ok (some client.deployment.programAddress)
  | some .systemProgram => .ok (some systemProgramAddress)
  | some .zeroAddress => .ok (some zeroAddress)
  | some (.knownPda name) =>
    match client.deployment.knownPda name with
    | none => .error s!"Unknown named Chancery PDA: {name}"
    | some address => .ok (some address)

/-- Inputs first, defaults for the rest. -/
def resolveGiven (accountInputs : InstructionAccountInputs) :
    List InstructionAccountSchema → Except String ResolvedAddresses
  | [] => .ok []
  | accountSchema :: rest =>
    match accountInputs.lookup accountSchema.name with
    | some address => do
      let resolved ← resolveGiven accountInputs rest
      return (accountSchema.name, address) :: resolved
    | none => do
      let accountDefault ← defaultAccountAddress client accountSchema
      let resolved ← resolveGiven accountInputs rest
      return match accountDefault with
        | none => resolved
        | some address => (accountSchema.name, address) :: resolved

/-- One pass over the accounts: derive what can be derived.  Has anything been? -/
def derivePass (schema : InstructionSchema) (argumentValues : StructValues) :
    List InstructionAccountSchema → ResolvedAddresses → Bool →
      Except String (ResolvedAddresses × Bool)
  | [], resolved, changed => .ok (resolved, changed)
  | accountSchema :: rest, resolved, changed =>
    match resolved.lookup accountSchema.name, accountSchema.pda with
    | none, some seeds =>
      match derivePda client schema argumentValues resolved seeds with
      | .ok address =>
        derivePass schema argumentValues rest ((accountSchema.name, address) :: resolved) true
      | .error (.missingAccount _) => derivePass schema argumentValues rest resolved changed
      | .error (.failed message) => .error message
    | _, _ => derivePass schema argumentValues rest resolved changed

/-- Passes until one derives nothing, up to a limit. -/
def derivePasses (schema : InstructionSchema) (argumentValues : StructValues) :
    Nat → ResolvedAddresses → Except String ResolvedAddresses
  | 0, resolved => .ok resolved
  | limit + 1, resolved => do
    let (resolved, changed) ←
      derivePass client schema argumentValues schema.accounts resolved false
    if changed then derivePasses schema argumentValues limit resolved else return resolved

/-- An address that is also a PDA has to be the derived one. -/
def verifyPda (instructionName : String) (schema : InstructionSchema)
    (argumentValues : StructValues) (resolved : ResolvedAddresses)
    (accountSchema : InstructionAccountSchema) (address : PublicKey) : Except String Unit :=
  match accountSchema.pda with
  | none => .ok ()
  | some seeds =>
    match derivePda client schema argumentValues resolved seeds with
    | .error error => .error error.message
    | .ok expected =>
      if address ≠ expected then
        .error (s!"PDA mismatch for {instructionName}.{accountSchema.name}: expected " ++
          s!"{expected.toBase58}, received {address.toBase58}")
      else .ok ()

/-- An account of the schema with its address, checked against its seeds. -/
def accountMeta (instructionName : String) (schema : InstructionSchema)
    (argumentValues : StructValues) (verifyPdas : Bool) (resolved : ResolvedAddresses)
    (accountSchema : InstructionAccountSchema) : Except String InstructionAccountMeta :=
  match resolved.lookup accountSchema.name with
  | none =>
    .error s!"Required instruction account is missing: {instructionName}.{accountSchema.name}"
  | some address => do
    if verifyPdas then
      verifyPda client instructionName schema argumentValues resolved accountSchema address
    return {
      name := accountSchema.name
      address := address
      isSigner := accountSchema.signer
      isWritable := accountSchema.writable }

/-- Every account of the schema, in order. -/
def resolveAccounts (instructionName : String) (schema : InstructionSchema)
    (argumentValues : StructValues) (accountInputs : InstructionAccountInputs)
    (verifyPdas : Bool) : Except String (List InstructionAccountMeta) := do
  let given ← resolveGiven client accountInputs schema.accounts
  let resolved ← derivePasses client schema argumentValues schema.accounts.length given
  schema.accounts.mapM
    (accountMeta client instructionName schema argumentValues verifyPdas resolved)

/-- The accounts of an instruction. -/
def resolveChanceryInstructionAccounts (instructionName : String) (argumentValues : StructValues)
    (accountInputs : InstructionAccountInputs) (verifyPdas : Bool) :
    Except String (List InstructionAccountMeta) := do
  let schema ← getInstructionSchema instructionName
  resolveAccounts client instructionName schema argumentValues accountInputs verifyPdas

/-- The instruction of the given arguments and accounts. -/
def buildChanceryInstruction (instructionName : String) (argumentValues : StructValues)
    (accountInputs : InstructionAccountInputs) (verifyPdas : Bool) :
    Except String ChanceryInstruction := do
  let accounts ← resolveChanceryInstructionAccounts client instructionName argumentValues
    accountInputs verifyPdas
  let data ← encodeInstructionDataWith client.language.dialect instructionName argumentValues
  return {
    programAddress := client.deployment.programAddress
    accounts := accounts
    data := data }

end

end Chancery
