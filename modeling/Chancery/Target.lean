import Chancery.ProgramAddress
import Chancery.Schema

/-!
# Targets

The deployments of the program, after `typescript/src/ChanceryTarget.ts` and `loadSchema` of
`typescript/src/ChancerySchema.ts`.

* `chanceryProgramAddressForTarget`, `loadSchema`.
-/

set_option autoImplicit false

namespace Chancery

/-- The deployments. -/
inductive ChanceryTarget where
  | mainnet
  | devnet
  deriving DecidableEq

/-- `ChnryP5RcZtMvP8vvVyPGUhwCg6uDJc53vCe3sxr11Sz`. -/
def chanceryMainnetProgramAddress : PublicKey where
  bytes :=
    [173, 227, 164, 248, 102, 70, 195, 222, 89, 222, 226, 240, 216, 109, 141, 236, 236, 91, 252,
     125, 76, 1, 217, 9, 47, 138, 169, 197, 147, 223, 159, 211]
  length_eq := rfl

/-- `GD9qamyghF32gG21KEkbp6quBsd2tU771tFcRVu1SPKs`. -/
def chanceryDevnetProgramAddress : PublicKey where
  bytes :=
    [225, 252, 68, 46, 224, 197, 246, 127, 29, 229, 172, 163, 111, 178, 12, 170, 169, 222, 67, 6,
     137, 221, 253, 39, 119, 4, 110, 243, 234, 52, 93, 198]
  length_eq := rfl

/-- The program of a deployment. -/
def chanceryProgramAddressForTarget : ChanceryTarget → PublicKey
  | .mainnet => chanceryMainnetProgramAddress
  | .devnet => chanceryDevnetProgramAddress

/-! ## The `known_pdas` section -/

/-- The known addresses with their seeds. -/
def knownPdaSeeds : List (String × String) :=
  [("chancery_config", "chancery-config"), ("event_authority", "event-authority"),
   ("issued_token_control", "issued-token-control"),
   ("module_activation_state", "module-activation-state"), ("pause_state", "pause-state"),
   ("reserve_authority_pda", "reserve-authority")]

/-- `5sPq2NzkiVD2SwWhtBh2mjXbVoDdxrYPLFEtYmsJegek`. -/
def mainnetChanceryConfig : PublicKey where
  bytes :=
    [72, 87, 153, 144, 54, 113, 196, 167, 62, 157, 144, 118, 212, 83, 95, 222, 64, 96, 246, 82,
     208, 207, 115, 171, 215, 148, 127, 241, 241, 28, 21, 161]
  length_eq := rfl

/-- `HE3WfuAPV3DuUvQXRA2A3g97kW25sHe8E8cfgpvpMyhS`. -/
def mainnetEventAuthority : PublicKey where
  bytes :=
    [241, 18, 97, 148, 148, 227, 116, 208, 225, 133, 129, 172, 245, 35, 127, 248, 87, 119, 161,
     168, 129, 250, 195, 11, 59, 31, 163, 133, 147, 162, 251, 121]
  length_eq := rfl

/-- `7XG757nav7dUxsda8f34JASKvNm3fn7hqQcbEPbPXbKS`. -/
def mainnetIssuedTokenControl : PublicKey where
  bytes :=
    [96, 230, 159, 238, 205, 64, 126, 246, 253, 202, 154, 119, 102, 192, 134, 16, 129, 151, 32,
     231, 240, 101, 128, 110, 66, 160, 128, 43, 110, 218, 208, 69]
  length_eq := rfl

/-- `BMeF8RNKgLsdk7FSD6tL9hsVTQc9md6Vim1oD4fQy8Mw`. -/
def mainnetModuleActivationState : PublicKey where
  bytes :=
    [153, 222, 152, 206, 127, 92, 191, 57, 20, 50, 9, 26, 11, 239, 149, 66, 232, 33, 127, 151, 218,
     208, 146, 255, 151, 22, 117, 72, 229, 20, 114, 106]
  length_eq := rfl

/-- `DF7VmHRej1Fm7xrZuBqnGVU3jgkLtvotW43fJnNiQmX4`. -/
def mainnetPauseState : PublicKey where
  bytes :=
    [181, 233, 184, 43, 1, 192, 39, 169, 168, 189, 97, 114, 240, 198, 167, 189, 202, 68, 124, 197,
     224, 233, 251, 228, 173, 214, 233, 116, 144, 27, 234, 7]
  length_eq := rfl

/-- `8anxfyoftY9hPwxdvReet2beFS2HXjcXraPEamo4nGyB`. -/
def mainnetReserveAuthority : PublicKey where
  bytes :=
    [112, 169, 241, 49, 215, 222, 171, 242, 243, 122, 160, 154, 109, 192, 71, 8, 146, 81, 100, 77,
     242, 93, 59, 112, 26, 182, 102, 134, 102, 176, 183, 78]
  length_eq := rfl

/-- The main deployment. -/
def mainnetDeployment : Deployment where
  programAddress := chanceryMainnetProgramAddress
  knownPdas :=
    [("chancery_config", mainnetChanceryConfig), ("event_authority", mainnetEventAuthority),
     ("issued_token_control", mainnetIssuedTokenControl),
     ("module_activation_state", mainnetModuleActivationState),
     ("pause_state", mainnetPauseState), ("reserve_authority_pda", mainnetReserveAuthority)]

/-- The known addresses of a program. -/
def deriveKnownPdas (sha256 : Sha256) (programAddress : PublicKey) :
    List (String × String) → Except String (List (String × PublicKey))
  | [] => .ok []
  | (name, seedText) :: seeds => do
    let derived ← findProgramAddress sha256 [textSeed seedText] programAddress
    let rest ← deriveKnownPdas sha256 programAddress seeds
    return (name, derived.address) :: rest

/-- The addresses stand in the schema for mainnet, and are derived for any other target. -/
def loadSchema (sha256 : Sha256) (target : ChanceryTarget) : Except String Deployment :=
  if chanceryProgramAddressForTarget target = chanceryMainnetProgramAddress then
    .ok mainnetDeployment
  else do
    let programAddress := chanceryProgramAddressForTarget target
    let knownPdas ← deriveKnownPdas sha256 programAddress knownPdaSeeds
    return ⟨programAddress, knownPdas⟩

end Chancery
