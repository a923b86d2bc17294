import Chancery.BinaryCodec

/-!
# The schema

The shapes of `typescript/src/ChancerySchema.ts` that the codecs and the instruction builder
read, and the schema's `wire` and `types` sections.  The three tables of the schema file are
`accountSchemas`, `instructionSchemas` and `eventSchemas`.
-/

set_option autoImplicit false

namespace Chancery

namespace TypeSchema

/-- The unsigned byte. -/
abbrev u8 : TypeSchema := .primitive .u8
abbrev u16 : TypeSchema := .primitive .u16
abbrev u32 : TypeSchema := .primitive .u32
abbrev u64 : TypeSchema := .primitive .u64
abbrev u128 : TypeSchema := .primitive .u128
abbrev i64 : TypeSchema := .primitive .i64
abbrev i128 : TypeSchema := .primitive .i128
abbrev bool : TypeSchema := .primitive .bool
abbrev pubkey : TypeSchema := .primitive .pubkey

end TypeSchema

/-- An account type. -/
structure AccountSchema where
  discriminator : Bytes
  size : Nat
  fields : Fields

/-- An event type. -/
structure EventSchema where
  discriminator : Bytes
  fields : Fields

/-- A seed of a derived account. -/
inductive PdaSeedSchema where
  | const (bytes : Bytes)
  | argument (name : String)
  | account (name : String)

/-- What stands for an account that is not given. -/
inductive InstructionAccountDefault where
  | knownPda (name : String)
  | programAddress
  | systemProgram
  | zeroAddress

/-- An account of an instruction. -/
structure InstructionAccountSchema where
  name : String
  writable : Bool
  signer : Bool
  pda : Option (List PdaSeedSchema)
  default : Option InstructionAccountDefault

/-- An instruction. -/
structure InstructionSchema where
  discriminator : Bytes
  accounts : List InstructionAccountSchema
  args : Fields

/-- What `loadSchema` settles for a target: the program address and the named PDAs. -/
structure Deployment where
  programAddress : PublicKey
  knownPdas : List (String × PublicKey)

/-- An address of the deployment by its name. -/
def Deployment.knownPda (deployment : Deployment) (name : String) : Option PublicKey :=
  deployment.knownPdas.lookup name

namespace Schema

/-! ## The `wire` section -/

/-- The size of an instruction's discriminator. -/
def instructionDiscriminatorBytes : Nat := 2
def accountDiscriminatorBytes : Nat := 8
def eventDiscriminatorBytes : Nat := 8
def eventCpiPrefix : Bytes := [1, 0]

/-! ## The `types` section -/

/-- Fields of an attestation's signature. -/
def attestationSignatureFields : Fields :=
  [("signer_address", .array .u8 20), ("signature", .array .u8 64), ("recovery_id", .u8),
   ("merkle_proof", .vector (.array .u8 32))]

end Schema

end Chancery
