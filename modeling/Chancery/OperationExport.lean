import Chancery.CanonicalPda
import Chancery.DirectSettlementAgreement
import Chancery.Inspection
import Chancery.OperationDocumentLaws

/-!
# The export of operation documents

Model of `directOperationDocument` in `integration/devnet/operation/Document.ts`: a ready inspection
of a direct settlement becomes the document that the integration clients load.

* `directOperationDocument`.
* `DirectDocument.build` — the document written as JSON, loaded again and built.

That `JSON.parse` returns what `JSON.stringify` has written is taken for granted.
-/

set_option autoImplicit false

namespace Chancery.Integration

/-- `MintDirectOperationInput | RedeemDirectOperationInput`. -/
inductive DirectDocument where
  | mint (operation : MintDirectOperationInput)
  | redeem (operation : RedeemDirectOperationInput)

section

variable (instruction : ChanceryInstruction)

/-- `address` in `directOperationDocument`. -/
def documentAddress (name : String) : Except String String :=
  match instruction.accounts.find? (·.name = name) with
  | none => .error ("Resolved operation account is missing: " ++ name)
  | some account => .ok account.address.toBase58

/-- `policyAddress` in `directOperationDocument`. -/
def documentPolicyAddress (name : String) : Except String (Option String) := do
  let value ← documentAddress instruction name
  return if value = zeroAddress.toBase58 then none else some value

/-- The policy accounts of a document. -/
def documentPolicyAccounts : Except String (DirectSettlementPolicyAccounts String) := do
  let policyAddress := documentPolicyAddress instruction
  return {
    feePolicy := ← policyAddress "fee_policy"
    feeRecipientTokenAccount := ← policyAddress "fee_recipient_token_account"
    limitPolicy := ← policyAddress "limit_policy"
    hourlyUsageWindow := ← policyAddress "hourly_usage_window"
    dailyUsageWindow := ← policyAddress "daily_usage_window"
    weeklyUsageWindow := ← policyAddress "weekly_usage_window"
    monthlyUsageWindow := ← policyAddress "monthly_usage_window"
    evidencePolicy := ← policyAddress "evidence_policy"
    assetLimitPolicy := ← policyAddress "asset_limit_policy"
    assetDailyUsageWindow := ← policyAddress "asset_daily_usage_window"
    counterpartyLimitPolicy := ← policyAddress "counterparty_limit_policy"
    counterpartyDailyUsageWindow := ← policyAddress "counterparty_daily_usage_window" }

/-- The `accounts` of both documents. -/
structure CommonDocumentAccounts where
  moduleActivationState : String
  chanceryConfig : String
  eventAuthority : String
  pauseState : String
  assetConfig : String
  pathwayPolicy : String
  permissionRecord : String
  reserveAssetTokenAccount : String
  assetMint : String
  issuedTokenMint : String
  assetTokenProgram : String
  issuedTokenProgram : String
  principal : String
  assetPauseState : String
  issuedTokenControl : String
  policyAccounts : DirectSettlementPolicyAccounts String

/-- The accounts that both documents list. -/
def commonDocumentAccounts : Except String CommonDocumentAccounts := do
  let address := documentAddress instruction
  return {
    moduleActivationState := ← address "module_activation_state"
    chanceryConfig := ← address "chancery_config"
    eventAuthority := ← address "event_authority"
    pauseState := ← address "pause_state"
    assetConfig := ← address "asset_config"
    pathwayPolicy := ← address "pathway_policy"
    permissionRecord := ← address "permission_record"
    reserveAssetTokenAccount := ← address "reserve_asset_token_account"
    assetMint := ← address "asset_mint"
    issuedTokenMint := ← address "issued_token_mint"
    assetTokenProgram := ← address "asset_token_program"
    issuedTokenProgram := ← address "issued_token_program"
    principal := ← address "principal"
    assetPauseState := ← address "asset_pause_state"
    issuedTokenControl := ← address "issued_token_control"
    policyAccounts := ← documentPolicyAccounts instruction }

/-- The accounts of a mint document. -/
def mintDocumentAccounts (accounts : CommonDocumentAccounts) :
    Except String (MintDirectAccounts String) := do
  let address := documentAddress instruction
  return { accounts with
    sourceAssetTokenAccount := ← address "source_asset_token_account"
    destinationIssuedTokenAccount := ← address "destination_issued_token_account"
    mintAuthorityPda := ← address "mint_authority_pda" }

/-- The accounts of a redemption document. -/
def redeemDocumentAccounts (accounts : CommonDocumentAccounts) :
    Except String (RedeemDirectAccounts String) := do
  let address := documentAddress instruction
  return { accounts with
    sourceIssuedTokenAccount := ← address "source_issued_token_account"
    destinationAssetTokenAccount := ← address "destination_asset_token_account"
    reserveAuthorityPda := ← address "reserve_authority_pda" }

end

/-- Both amounts are `bigint`s, written in decimal. -/
def directOperationDocument (client : ChanceryClient) (inspection : SettlementInspection) :
    Except String DirectDocument := do
  rejectWhen (inspection.ready = false ∨ inspection.request.mode ≠ .direct)
    ("Operation requires a ready direct settlement inspection: " ++
      "; ".intercalate inspection.blockingIssues)
  rejectWhen (inspection.instructionName ≠ inspection.request.action.text ++ "_direct")
    "Inspection instruction differs from its direct settlement action"
  let instruction ← buildChanceryInstruction client inspection.instructionName
    inspection.instructionArguments inspection.instructionAccounts true
  let accounts ← commonDocumentAccounts instruction
  let pathwayId ← bytes32Hex (inspection.instructionArguments.lookup "pathway_id") "pathway id"
  let amount := toString inspection.amounts.inputAmount
  let minimumOutput := toString inspection.amounts.minimumOutput
  match inspection.request.action with
  | .mint => return .mint {
      pathwayId, amount, minimumOutput
      accounts := ← mintDocumentAccounts instruction accounts }
  | .redeem => return .redeem {
      pathwayId, amount, minimumOutput
      accounts := ← redeemDocumentAccounts instruction accounts }

/-! ## Documents as files -/

/-- A text, or null. -/
def nullableJson : Option String → Json
  | none => .null
  | some text => .string text

section

variable {Accounts : Type → Type} (layout : LawfulLayout Accounts)

/-- The JSON of an operation; loaders do not look at the order of its keys. -/
def operationJson (operation : DirectOperation (Accounts String)) : Json :=
  .object [("pathwayId", .string operation.pathwayId), ("amount", .string operation.amount),
    ("minimumOutput", .string operation.minimumOutput),
    ("accounts", .object
      ((layout.required operation.accounts).map (fun entry => (entry.1, .string entry.2)) ++
        [("policyAccounts", .object ((layout.policyAccounts operation.accounts).entries.map
          fun entry => (entry.1, nullableJson entry.2)))]))]

end

/-- The document written, loaded and built by the TypeScript integration client. -/
def DirectDocument.build (stringify : List Nat → String) (selected : TargetVariable) :
    DirectDocument → Except String InstructionSpec
  | .mint operation =>
    TypeScript.loadMintDirectOperation (operationJson lawfulMint operation) >>=
      TypeScript.buildMintDirectInstruction stringify selected
  | .redeem operation =>
    TypeScript.loadRedeemDirectOperation (operationJson lawfulRedeem operation) >>=
      TypeScript.buildRedeemDirectInstruction stringify selected

end Chancery.Integration
