import Chancery.Schema

/-!
# Instruction schemas

The `instructions` section of `typescript/chancery.schema.json`, in the order of the file.
Every account is listed by name, writable flag and signer flag, with its PDA seeds and its
default address where it has them.
-/

set_option autoImplicit false

namespace Chancery.Schema.Instruction

/-! ## Seed texts -/

/-- `chancery-config` -/
def chanceryConfigSeed : Bytes :=
  [99, 104, 97, 110, 99, 101, 114, 121, 45, 99, 111, 110, 102, 105, 103]

/-- `event-authority` -/
def eventAuthoritySeed : Bytes :=
  [101, 118, 101, 110, 116, 45, 97, 117, 116, 104, 111, 114, 105, 116, 121]

/-- `pause-state` -/
def pauseStateSeed : Bytes :=
  [112, 97, 117, 115, 101, 45, 115, 116, 97, 116, 101]

/-- `authority-transfer` -/
def authorityTransferSeed : Bytes :=
  [97, 117, 116, 104, 111, 114, 105, 116, 121, 45, 116, 114, 97, 110, 115, 102, 101, 114]

/-- `asset-config` -/
def assetConfigSeed : Bytes :=
  [97, 115, 115, 101, 116, 45, 99, 111, 110, 102, 105, 103]

/-- `module-activation-state` -/
def moduleActivationStateSeed : Bytes :=
  [109, 111, 100, 117, 108, 101, 45, 97, 99, 116, 105, 118, 97, 116, 105, 111, 110, 45, 115, 116,
   97, 116, 101]

/-- `permission` -/
def permissionSeed : Bytes :=
  [112, 101, 114, 109, 105, 115, 115, 105, 111, 110]

/-- `pathway-policy` -/
def pathwayPolicySeed : Bytes :=
  [112, 97, 116, 104, 119, 97, 121, 45, 112, 111, 108, 105, 99, 121]

/-- `settlement-intent` -/
def settlementIntentSeed : Bytes :=
  [115, 101, 116, 116, 108, 101, 109, 101, 110, 116, 45, 105, 110, 116, 101, 110, 116]

/-- `settlement-policy` -/
def settlementPolicySeed : Bytes :=
  [115, 101, 116, 116, 108, 101, 109, 101, 110, 116, 45, 112, 111, 108, 105, 99, 121]

/-- `limit-policy` -/
def limitPolicySeed : Bytes :=
  [108, 105, 109, 105, 116, 45, 112, 111, 108, 105, 99, 121]

/-- `evidence-policy` -/
def evidencePolicySeed : Bytes :=
  [101, 118, 105, 100, 101, 110, 99, 101, 45, 112, 111, 108, 105, 99, 121]

/-- `fee-policy` -/
def feePolicySeed : Bytes :=
  [102, 101, 101, 45, 112, 111, 108, 105, 99, 121]

/-- `reserve-destination` -/
def reserveDestinationSeed : Bytes :=
  [114, 101, 115, 101, 114, 118, 101, 45, 100, 101, 115, 116, 105, 110, 97, 116, 105, 111, 110]

/-- `reserve-authority` -/
def reserveAuthoritySeed : Bytes :=
  [114, 101, 115, 101, 114, 118, 101, 45, 97, 117, 116, 104, 111, 114, 105, 116, 121]

/-- `basic-freeze-record` -/
def basicFreezeRecordSeed : Bytes :=
  [98, 97, 115, 105, 99, 45, 102, 114, 101, 101, 122, 101, 45, 114, 101, 99, 111, 114, 100]

/-- `asset-pause` -/
def assetPauseSeed : Bytes :=
  [97, 115, 115, 101, 116, 45, 112, 97, 117, 115, 101]

/-- `issued-token-control` -/
def issuedTokenControlSeed : Bytes :=
  [105, 115, 115, 117, 101, 100, 45, 116, 111, 107, 101, 110, 45, 99, 111, 110, 116, 114, 111, 108]

/-- `cross-chain-signer-set` -/
def crossChainSignerSetSeed : Bytes :=
  [99, 114, 111, 115, 115, 45, 99, 104, 97, 105, 110, 45, 115, 105, 103, 110, 101, 114, 45, 115,
   101, 116]

/-! ## Instructions -/

def acceptAuthorityTransfer : InstructionSchema where
  discriminator := [0, 5]
  accounts := [
    ⟨"chancery_config", true, false, none, some (.knownPda "chancery_config")⟩,
    ⟨"event_authority", false, false, none, some (.knownPda "event_authority")⟩,
    ⟨"authority_transfer", true, false, none, none⟩,
    ⟨"new_authority", false, true, none, none⟩,
    ⟨"event_program", false, false, none, some .programAddress⟩]
  args := [("role_kind", .u8)]

def initializeChancery : InstructionSchema where
  discriminator := [0, 0]
  accounts := [
    ⟨"chancery_config", true, false,
      some [.const chanceryConfigSeed],
      some (.knownPda "chancery_config")⟩,
    ⟨"event_authority", false, false,
      some [.const eventAuthoritySeed],
      some (.knownPda "event_authority")⟩,
    ⟨"payer", true, true, none, none⟩,
    ⟨"governance_authority", false, true, none, none⟩,
    ⟨"system_program", false, false, none, some .systemProgram⟩,
    ⟨"pause_state", true, false,
      some [.const pauseStateSeed],
      some (.knownPda "pause_state")⟩,
    ⟨"program_account", false, false, none, none⟩,
    ⟨"programdata_account", false, false, none, none⟩,
    ⟨"upgrade_authority", false, true, none, none⟩,
    ⟨"event_program", false, false, none, some .programAddress⟩]
  args := [("issued_token_mint", .pubkey), ("issued_token_program", .pubkey),
    ("secondary_token_mint", .pubkey), ("secondary_token_program", .pubkey)]

def proposeAuthorityTransfer : InstructionSchema where
  discriminator := [0, 4]
  accounts := [
    ⟨"chancery_config", true, false, none, some (.knownPda "chancery_config")⟩,
    ⟨"event_authority", false, false, none, some (.knownPda "event_authority")⟩,
    ⟨"authority_transfer", true, false,
      some [.const authorityTransferSeed, .argument "role_kind"],
      none⟩,
    ⟨"payer", true, true, none, none⟩,
    ⟨"governance_authority", false, true, none, none⟩,
    ⟨"system_program", false, false, none, some .systemProgram⟩,
    ⟨"event_program", false, false, none, some .programAddress⟩]
  args := [("role_kind", .u8), ("proposed_authority", .pubkey), ("timelock_slots", .u64)]

def registerAsset : InstructionSchema where
  discriminator := [0, 1]
  accounts := [
    ⟨"chancery_config", true, false, none, some (.knownPda "chancery_config")⟩,
    ⟨"event_authority", false, false, none, some (.knownPda "event_authority")⟩,
    ⟨"asset_config", true, false, some [.const assetConfigSeed, .account "asset_mint"], none⟩,
    ⟨"asset_mint", false, false, none, none⟩,
    ⟨"payer", true, true, none, none⟩,
    ⟨"operations_authority", false, true, none, none⟩,
    ⟨"system_program", false, false, none, some .systemProgram⟩,
    ⟨"event_program", false, false, none, some .programAddress⟩]
  args := [("mode", .u8), ("approved_extension_mask", .array .u64 2),
    ("observed_extension_mask_hint", .option (.array .u64 2)), ("deposit_rate_e9", .u64),
    ("redeem_rate_e9", .u64), ("minimum_deposit_amount", .u64), ("minimum_redeem_amount", .u64),
    ("maximum_single_settlement_amount", .u64), ("max_extension_observation_age_slots", .u64),
    ("asset_token_program", .pubkey)]

def setAssetMode : InstructionSchema where
  discriminator := [0, 3]
  accounts := [
    ⟨"chancery_config", true, false, none, some (.knownPda "chancery_config")⟩,
    ⟨"asset_config", true, false, none, none⟩,
    ⟨"authority", false, true, none, none⟩,
    ⟨"event_authority_direct", false, false, none, none⟩,
    ⟨"event_program", false, false, none, some .programAddress⟩]
  args := [("new_mode", .u8)]

def setAssetModeWithPendingChange : InstructionSchema where
  discriminator := [0, 7]
  accounts := [
    ⟨"chancery_config", true, false, none, some (.knownPda "chancery_config")⟩,
    ⟨"event_authority", false, false, none, some (.knownPda "event_authority")⟩,
    ⟨"pending_config_change", true, false, none, none⟩,
    ⟨"asset_config", true, false, none, none⟩,
    ⟨"governance_authority", false, true, none, none⟩,
    ⟨"rent_refund_recipient", true, false, none, some .zeroAddress⟩,
    ⟨"event_program", false, false, none, some .programAddress⟩]
  args := [("new_mode", .u8)]

def updateAssetConfig : InstructionSchema where
  discriminator := [0, 2]
  accounts := [
    ⟨"chancery_config", true, false, none, some (.knownPda "chancery_config")⟩,
    ⟨"asset_config", true, false, none, none⟩,
    ⟨"operations_authority", false, true, none, none⟩,
    ⟨"event_authority_direct", false, false, none, none⟩,
    ⟨"event_program", false, false, none, some .programAddress⟩]
  args := [("approved_extension_mask", .option (.array .u64 2)),
    ("observed_extension_mask", .option (.array .u64 2)), ("deposit_rate_e9", .option .u64),
    ("redeem_rate_e9", .option .u64), ("minimum_deposit_amount", .option .u64),
    ("minimum_redeem_amount", .option .u64), ("maximum_single_settlement_amount", .option .u64),
    ("forbidden_extension_mask", .option (.array .u64 2)),
    ("required_module_mask", .option (.array .u64 2))]

def updateAssetConfigWithPendingChange : InstructionSchema where
  discriminator := [0, 6]
  accounts := [
    ⟨"chancery_config", true, false, none, some (.knownPda "chancery_config")⟩,
    ⟨"event_authority", false, false, none, some (.knownPda "event_authority")⟩,
    ⟨"pending_config_change", true, false, none, none⟩,
    ⟨"asset_config", true, false, none, none⟩,
    ⟨"governance_authority", false, true, none, none⟩,
    ⟨"rent_refund_recipient", true, false, none, some .zeroAddress⟩,
    ⟨"event_program", false, false, none, some .programAddress⟩]
  args := [("approved_extension_mask", .option (.array .u64 2)),
    ("observed_extension_mask", .option (.array .u64 2)), ("deposit_rate_e9", .option .u64),
    ("redeem_rate_e9", .option .u64), ("minimum_deposit_amount", .option .u64),
    ("minimum_redeem_amount", .option .u64), ("maximum_single_settlement_amount", .option .u64),
    ("forbidden_extension_mask", .option (.array .u64 2)),
    ("required_module_mask", .option (.array .u64 2))]

def emitEvent : InstructionSchema where
  discriminator := [1, 0]
  accounts := [
    ⟨"event_authority", false, true,
      some [.const eventAuthoritySeed],
      some (.knownPda "event_authority")⟩,
    ⟨"event_program", false, false, none, some .programAddress⟩]
  args := []

def upsertPermission : InstructionSchema where
  discriminator := [2, 0]
  accounts := [
    ⟨"module_activation_state", false, false,
      some [.const moduleActivationStateSeed],
      some (.knownPda "module_activation_state")⟩,
    ⟨"chancery_config", true, false, none, some (.knownPda "chancery_config")⟩,
    ⟨"event_authority", false, false, none, some (.knownPda "event_authority")⟩,
    ⟨"permission_record", true, false,
      some [.const permissionSeed, .argument "subject", .argument "scope_kind", .argument "scope_key"],
      none⟩,
    ⟨"granting_authority", false, true, none, none⟩,
    ⟨"grantor_permission", false, false, none, some .zeroAddress⟩,
    ⟨"event_program", false, false, none, some .programAddress⟩]
  args := [("subject", .pubkey), ("scope_kind", .u8), ("scope_key", .pubkey),
    ("role_bits", .array .u64 2), ("expiry_unix_timestamp", .i64)]

def revokePermission : InstructionSchema where
  discriminator := [2, 1]
  accounts := [
    ⟨"module_activation_state", false, false,
      some [.const moduleActivationStateSeed],
      some (.knownPda "module_activation_state")⟩,
    ⟨"chancery_config", true, false, none, some (.knownPda "chancery_config")⟩,
    ⟨"event_authority", false, false, none, some (.knownPda "event_authority")⟩,
    ⟨"permission_record", true, false, none, none⟩,
    ⟨"revoking_authority", false, true, none, none⟩,
    ⟨"event_program", false, false, none, some .programAddress⟩]
  args := []

def upsertPermissionWithPendingChange : InstructionSchema where
  discriminator := [2, 2]
  accounts := [
    ⟨"module_activation_state", false, false,
      some [.const moduleActivationStateSeed],
      some (.knownPda "module_activation_state")⟩,
    ⟨"chancery_config", true, false, none, some (.knownPda "chancery_config")⟩,
    ⟨"event_authority", false, false, none, some (.knownPda "event_authority")⟩,
    ⟨"pending", true, false, none, none⟩,
    ⟨"permission_record", true, false,
      some [.const permissionSeed, .argument "subject", .argument "scope_kind", .argument "scope_key"],
      none⟩,
    ⟨"payer", true, true, none, none⟩,
    ⟨"granting_authority", false, true, none, none⟩,
    ⟨"governance_authority", false, true, none, none⟩,
    ⟨"system_program", false, false, none, some .systemProgram⟩,
    ⟨"grantor_permission", false, false, none, some .zeroAddress⟩,
    ⟨"counterparty_daily_usage_window", true, false, none, some .zeroAddress⟩,
    ⟨"executor_daily_usage_window", true, false, none, some .zeroAddress⟩,
    ⟨"rent_refund_recipient", true, false, none, some .zeroAddress⟩,
    ⟨"event_program", false, false, none, some .programAddress⟩]
  args := [("subject", .pubkey), ("scope_kind", .u8), ("scope_key", .pubkey),
    ("role_bits", .array .u64 2), ("expiry_unix_timestamp", .i64)]

def registerPathwayPolicy : InstructionSchema where
  discriminator := [3, 0]
  accounts := [
    ⟨"module_activation_state", false, false,
      some [.const moduleActivationStateSeed],
      some (.knownPda "module_activation_state")⟩,
    ⟨"chancery_config", true, false, none, some (.knownPda "chancery_config")⟩,
    ⟨"event_authority", false, false, none, some (.knownPda "event_authority")⟩,
    ⟨"pathway_policy", true, false,
      some [.const pathwayPolicySeed, .argument "pathway_id"],
      none⟩,
    ⟨"payer", true, true, none, none⟩,
    ⟨"operations_authority", false, true, none, none⟩,
    ⟨"system_program", false, false, none, some .systemProgram⟩,
    ⟨"limit_policy", false, false, none, none⟩,
    ⟨"evidence_policy", false, false, none, none⟩,
    ⟨"fee_policy", false, false, none, none⟩,
    ⟨"insurance_policy", false, false, none, none⟩,
    ⟨"asset_mint_limit_policy", false, false, none, none⟩,
    ⟨"asset_redeem_limit_policy", false, false, none, none⟩,
    ⟨"counterparty_limit_policy", false, false, none, none⟩,
    ⟨"executor_limit_policy", false, false, none, none⟩,
    ⟨"event_program", false, false, none, some .programAddress⟩]
  args := [("pathway_id", .array .u8 32), ("pathway_kind", .u8), ("asset_mint", .pubkey),
    ("issued_token_mint", .pubkey), ("designated_executor", .pubkey),
    ("reserve_compartment_policy_id", .array .u8 32), ("limit_policy_id", .array .u8 32),
    ("evidence_policy_id", .array .u8 32), ("fee_policy_id", .array .u8 32),
    ("insurance_policy_id", .array .u8 32), ("asset_mint_limit_policy_id", .array .u8 32),
    ("asset_redeem_limit_policy_id", .array .u8 32),
    ("counterparty_limit_policy_id", .array .u8 32), ("executor_limit_policy_id", .array .u8 32)]

def updatePathwayPolicy : InstructionSchema where
  discriminator := [3, 1]
  accounts := [
    ⟨"module_activation_state", false, false,
      some [.const moduleActivationStateSeed],
      some (.knownPda "module_activation_state")⟩,
    ⟨"chancery_config", true, false, none, some (.knownPda "chancery_config")⟩,
    ⟨"pathway_policy", true, false, none, none⟩,
    ⟨"operations_authority", false, true, none, none⟩,
    ⟨"event_authority_direct", false, false, none, none⟩,
    ⟨"limit_policy", false, false, none, none⟩,
    ⟨"evidence_policy", false, false, none, none⟩,
    ⟨"fee_policy", false, false, none, none⟩,
    ⟨"insurance_policy", false, false, none, none⟩,
    ⟨"asset_mint_limit_policy", false, false, none, none⟩,
    ⟨"asset_redeem_limit_policy", false, false, none, none⟩,
    ⟨"counterparty_limit_policy", false, false, none, none⟩,
    ⟨"executor_limit_policy", false, false, none, none⟩,
    ⟨"event_program", false, false, none, some .programAddress⟩]
  args := [("pathway_id", .array .u8 32), ("designated_executor", .option .pubkey),
    ("limit_policy_id", .option (.array .u8 32)), ("evidence_policy_id", .option (.array .u8 32)),
    ("fee_policy_id", .option (.array .u8 32)), ("insurance_policy_id", .option (.array .u8 32)),
    ("forbidden_collateral_extension_mask", .option (.array .u64 2)),
    ("asset_mint_limit_policy_id", .option (.array .u8 32)),
    ("asset_redeem_limit_policy_id", .option (.array .u8 32)),
    ("counterparty_limit_policy_id", .option (.array .u8 32)),
    ("executor_limit_policy_id", .option (.array .u8 32))]

def updatePathwayPolicyWithPendingChange : InstructionSchema where
  discriminator := [3, 4]
  accounts := [
    ⟨"module_activation_state", false, false,
      some [.const moduleActivationStateSeed],
      some (.knownPda "module_activation_state")⟩,
    ⟨"chancery_config", true, false, none, some (.knownPda "chancery_config")⟩,
    ⟨"event_authority", false, false, none, some (.knownPda "event_authority")⟩,
    ⟨"pending_config_change", true, false, none, none⟩,
    ⟨"pathway_policy", true, false, none, none⟩,
    ⟨"governance_authority", false, true, none, none⟩,
    ⟨"limit_policy", false, false, none, none⟩,
    ⟨"evidence_policy", false, false, none, none⟩,
    ⟨"fee_policy", false, false, none, none⟩,
    ⟨"insurance_policy", false, false, none, none⟩,
    ⟨"asset_mint_limit_policy", false, false, none, none⟩,
    ⟨"asset_redeem_limit_policy", false, false, none, none⟩,
    ⟨"counterparty_limit_policy", false, false, none, none⟩,
    ⟨"executor_limit_policy", false, false, none, none⟩,
    ⟨"rent_refund_recipient", true, false, none, some .zeroAddress⟩,
    ⟨"event_program", false, false, none, some .programAddress⟩]
  args := [("pathway_id", .array .u8 32), ("designated_executor", .option .pubkey),
    ("limit_policy_id", .option (.array .u8 32)), ("evidence_policy_id", .option (.array .u8 32)),
    ("fee_policy_id", .option (.array .u8 32)), ("insurance_policy_id", .option (.array .u8 32)),
    ("forbidden_collateral_extension_mask", .option (.array .u64 2)),
    ("asset_mint_limit_policy_id", .option (.array .u8 32)),
    ("asset_redeem_limit_policy_id", .option (.array .u8 32)),
    ("counterparty_limit_policy_id", .option (.array .u8 32)),
    ("executor_limit_policy_id", .option (.array .u8 32))]

def createSettlementIntent : InstructionSchema where
  discriminator := [4, 0]
  accounts := [
    ⟨"module_activation_state", false, false,
      some [.const moduleActivationStateSeed],
      some (.knownPda "module_activation_state")⟩,
    ⟨"chancery_config", true, false, none, some (.knownPda "chancery_config")⟩,
    ⟨"event_authority", false, false, none, some (.knownPda "event_authority")⟩,
    ⟨"settlement_intent", true, false,
      some [.const settlementIntentSeed, .argument "intent_id"],
      none⟩,
    ⟨"payer", true, true, none, none⟩,
    ⟨"creator", false, true, none, none⟩,
    ⟨"system_program", false, false, none, some .systemProgram⟩,
    ⟨"pathway_policy", false, false, none, none⟩,
    ⟨"principal_a_permission_record", false, false, none, none⟩,
    ⟨"principal_b_permission_record", false, false, none, none⟩,
    ⟨"executor_permission_record", false, false, none, none⟩,
    ⟨"settlement_policy", false, false, none, some .zeroAddress⟩,
    ⟨"fee_policy", false, false, none, some .zeroAddress⟩,
    ⟨"event_program", false, false, none, some .programAddress⟩]
  args := [("intent_id", .array .u8 32), ("pathway_id", .array .u8 32), ("settlement_mode", .u8),
    ("settlement_action", .u8), ("principal_a", .pubkey), ("principal_b", .pubkey),
    ("executor", .pubkey), ("asset_mint", .pubkey), ("issued_token_mint", .pubkey),
    ("asset_amount", .u64), ("issued_token_amount", .u64), ("minimum_asset_amount", .u64),
    ("minimum_issued_token_amount", .u64), ("nonce", .u64), ("valid_after_unix_timestamp", .i64),
    ("expires_at_unix_timestamp", .i64), ("policy_id", .array .u8 32),
    ("intent_hash", .array .u8 32)]

def cancelSettlementIntent : InstructionSchema where
  discriminator := [4, 9]
  accounts := [
    ⟨"module_activation_state", false, false,
      some [.const moduleActivationStateSeed],
      some (.knownPda "module_activation_state")⟩,
    ⟨"chancery_config", true, false, none, some (.knownPda "chancery_config")⟩,
    ⟨"event_authority", false, false, none, some (.knownPda "event_authority")⟩,
    ⟨"settlement_intent", true, false, none, none⟩,
    ⟨"principal_a", false, true, none, none⟩,
    ⟨"rent_refund_recipient", true, false, none, none⟩,
    ⟨"event_program", false, false, none, some .programAddress⟩]
  args := []

def closeExpiredSettlementIntent : InstructionSchema where
  discriminator := [4, 8]
  accounts := [
    ⟨"module_activation_state", false, false,
      some [.const moduleActivationStateSeed],
      some (.knownPda "module_activation_state")⟩,
    ⟨"chancery_config", true, false, none, some (.knownPda "chancery_config")⟩,
    ⟨"event_authority", false, false, none, some (.knownPda "event_authority")⟩,
    ⟨"settlement_intent", true, false, none, none⟩,
    ⟨"rent_refund_recipient", true, false, none, some .zeroAddress⟩,
    ⟨"event_program", false, false, none, some .programAddress⟩]
  args := []

def mintDelegated : InstructionSchema where
  discriminator := [4, 3]
  accounts := [
    ⟨"module_activation_state", false, false,
      some [.const moduleActivationStateSeed],
      some (.knownPda "module_activation_state")⟩,
    ⟨"chancery_config", true, false, none, some (.knownPda "chancery_config")⟩,
    ⟨"event_authority", false, false, none, some (.knownPda "event_authority")⟩,
    ⟨"pause_state", false, false, none, some (.knownPda "pause_state")⟩,
    ⟨"asset_config", false, false, none, none⟩,
    ⟨"pathway_policy", false, false, none, none⟩,
    ⟨"intent", true, false, none, none⟩,
    ⟨"principal_permission_record", false, false, none, none⟩,
    ⟨"executor_permission_record", false, false, none, none⟩,
    ⟨"source_asset_token_account", true, false, none, none⟩,
    ⟨"reserve_asset_token_account", true, false, none, none⟩,
    ⟨"destination_issued_token_account", true, false, none, none⟩,
    ⟨"asset_mint", false, false, none, none⟩,
    ⟨"issued_token_mint", true, false, none, none⟩,
    ⟨"mint_authority_pda", false, false, none, none⟩,
    ⟨"asset_token_program", false, false, none, none⟩,
    ⟨"issued_token_program", false, false, none, none⟩,
    ⟨"executor", false, true, none, none⟩,
    ⟨"principal", false, false, none, none⟩,
    ⟨"asset_pause_state", false, false, none, none⟩,
    ⟨"issued_token_control", false, false, none, some (.knownPda "issued_token_control")⟩,
    ⟨"fee_policy", false, false, none, some .zeroAddress⟩,
    ⟨"fee_recipient_token_account", true, false, none, some .zeroAddress⟩,
    ⟨"limit_policy", false, false, none, some .zeroAddress⟩,
    ⟨"hourly_usage_window", true, false, none, some .zeroAddress⟩,
    ⟨"daily_usage_window", true, false, none, some .zeroAddress⟩,
    ⟨"weekly_usage_window", true, false, none, some .zeroAddress⟩,
    ⟨"monthly_usage_window", true, false, none, some .zeroAddress⟩,
    ⟨"evidence_policy", false, false, none, some .zeroAddress⟩,
    ⟨"settlement_policy", false, false, none, some .zeroAddress⟩,
    ⟨"asset_limit_policy", false, false, none, some .zeroAddress⟩,
    ⟨"asset_daily_usage_window", true, false, none, some .zeroAddress⟩,
    ⟨"counterparty_limit_policy", false, false, none, some .zeroAddress⟩,
    ⟨"counterparty_daily_usage_window", true, false, none, some .zeroAddress⟩,
    ⟨"executor_limit_policy", false, false, none, some .zeroAddress⟩,
    ⟨"executor_daily_usage_window", true, false, none, some .zeroAddress⟩,
    ⟨"rent_refund_recipient", true, false, none, some .zeroAddress⟩,
    ⟨"event_program", false, false, none, some .programAddress⟩]
  args := [("intent_id", .array .u8 32), ("pathway_id", .array .u8 32)]

def mintDirect : InstructionSchema where
  discriminator := [4, 1]
  accounts := [
    ⟨"module_activation_state", false, false,
      some [.const moduleActivationStateSeed],
      some (.knownPda "module_activation_state")⟩,
    ⟨"chancery_config", true, false, none, some (.knownPda "chancery_config")⟩,
    ⟨"event_authority", false, false, none, some (.knownPda "event_authority")⟩,
    ⟨"pause_state", false, false, none, some (.knownPda "pause_state")⟩,
    ⟨"asset_config", false, false, none, none⟩,
    ⟨"pathway_policy", false, false, none, none⟩,
    ⟨"permission_record", false, false, none, none⟩,
    ⟨"source_asset_token_account", true, false, none, none⟩,
    ⟨"reserve_asset_token_account", true, false, none, none⟩,
    ⟨"destination_issued_token_account", true, false, none, none⟩,
    ⟨"asset_mint", false, false, none, none⟩,
    ⟨"issued_token_mint", true, false, none, none⟩,
    ⟨"mint_authority_pda", false, false, none, none⟩,
    ⟨"asset_token_program", false, false, none, none⟩,
    ⟨"issued_token_program", false, false, none, none⟩,
    ⟨"principal", false, true, none, none⟩,
    ⟨"asset_pause_state", false, false, none, none⟩,
    ⟨"issued_token_control", false, false, none, some (.knownPda "issued_token_control")⟩,
    ⟨"fee_policy", false, false, none, some .zeroAddress⟩,
    ⟨"fee_recipient_token_account", true, false, none, some .zeroAddress⟩,
    ⟨"limit_policy", false, false, none, some .zeroAddress⟩,
    ⟨"hourly_usage_window", true, false, none, some .zeroAddress⟩,
    ⟨"daily_usage_window", true, false, none, some .zeroAddress⟩,
    ⟨"weekly_usage_window", true, false, none, some .zeroAddress⟩,
    ⟨"monthly_usage_window", true, false, none, some .zeroAddress⟩,
    ⟨"evidence_policy", false, false, none, some .zeroAddress⟩,
    ⟨"asset_limit_policy", false, false, none, some .zeroAddress⟩,
    ⟨"asset_daily_usage_window", true, false, none, some .zeroAddress⟩,
    ⟨"counterparty_limit_policy", false, false, none, some .zeroAddress⟩,
    ⟨"counterparty_daily_usage_window", true, false, none, some .zeroAddress⟩,
    ⟨"event_program", false, false, none, some .programAddress⟩]
  args := [("pathway_id", .array .u8 32), ("asset_amount", .u64),
    ("minimum_issued_token_amount", .u64)]

def mintTrilateral : InstructionSchema where
  discriminator := [4, 5]
  accounts := [
    ⟨"module_activation_state", false, false,
      some [.const moduleActivationStateSeed],
      some (.knownPda "module_activation_state")⟩,
    ⟨"chancery_config", true, false, none, some (.knownPda "chancery_config")⟩,
    ⟨"event_authority", false, false, none, some (.knownPda "event_authority")⟩,
    ⟨"pause_state", false, false, none, some (.knownPda "pause_state")⟩,
    ⟨"asset_config", false, false, none, none⟩,
    ⟨"pathway_policy", false, false, none, none⟩,
    ⟨"intent", true, false, none, none⟩,
    ⟨"principal_a_permission_record", false, false, none, none⟩,
    ⟨"principal_b_permission_record", false, false, none, none⟩,
    ⟨"executor_permission_record", false, false, none, none⟩,
    ⟨"source_asset_token_account", true, false, none, none⟩,
    ⟨"reserve_asset_token_account", true, false, none, none⟩,
    ⟨"destination_issued_token_account", true, false, none, none⟩,
    ⟨"asset_mint", false, false, none, none⟩,
    ⟨"issued_token_mint", true, false, none, none⟩,
    ⟨"mint_authority_pda", false, false, none, none⟩,
    ⟨"asset_token_program", false, false, none, none⟩,
    ⟨"issued_token_program", false, false, none, none⟩,
    ⟨"executor", false, true, none, none⟩,
    ⟨"principal_a", false, true, none, none⟩,
    ⟨"principal_b", false, true, none, none⟩,
    ⟨"asset_pause_state", false, false, none, none⟩,
    ⟨"issued_token_control", false, false, none, some (.knownPda "issued_token_control")⟩,
    ⟨"fee_policy", false, false, none, some .zeroAddress⟩,
    ⟨"fee_recipient_token_account", true, false, none, some .zeroAddress⟩,
    ⟨"limit_policy", false, false, none, some .zeroAddress⟩,
    ⟨"hourly_usage_window", true, false, none, some .zeroAddress⟩,
    ⟨"daily_usage_window", true, false, none, some .zeroAddress⟩,
    ⟨"weekly_usage_window", true, false, none, some .zeroAddress⟩,
    ⟨"monthly_usage_window", true, false, none, some .zeroAddress⟩,
    ⟨"evidence_policy", false, false, none, some .zeroAddress⟩,
    ⟨"settlement_policy", false, false, none, some .zeroAddress⟩,
    ⟨"asset_limit_policy", false, false, none, some .zeroAddress⟩,
    ⟨"asset_daily_usage_window", true, false, none, some .zeroAddress⟩,
    ⟨"counterparty_limit_policy", false, false, none, some .zeroAddress⟩,
    ⟨"counterparty_a_daily_usage_window", true, false, none, some .zeroAddress⟩,
    ⟨"counterparty_b_daily_usage_window", true, false, none, some .zeroAddress⟩,
    ⟨"executor_limit_policy", false, false, none, some .zeroAddress⟩,
    ⟨"executor_daily_usage_window", true, false, none, some .zeroAddress⟩,
    ⟨"rent_refund_recipient", true, false, none, some .zeroAddress⟩,
    ⟨"event_program", false, false, none, some .programAddress⟩]
  args := [("intent_id", .array .u8 32), ("pathway_id", .array .u8 32)]

def redeemDelegated : InstructionSchema where
  discriminator := [4, 4]
  accounts := [
    ⟨"module_activation_state", false, false,
      some [.const moduleActivationStateSeed],
      some (.knownPda "module_activation_state")⟩,
    ⟨"chancery_config", true, false, none, some (.knownPda "chancery_config")⟩,
    ⟨"event_authority", false, false, none, some (.knownPda "event_authority")⟩,
    ⟨"pause_state", false, false, none, some (.knownPda "pause_state")⟩,
    ⟨"asset_config", false, false, none, none⟩,
    ⟨"pathway_policy", false, false, none, none⟩,
    ⟨"intent", true, false, none, none⟩,
    ⟨"principal_permission_record", false, false, none, none⟩,
    ⟨"executor_permission_record", false, false, none, none⟩,
    ⟨"source_issued_token_account", true, false, none, none⟩,
    ⟨"reserve_asset_token_account", true, false, none, none⟩,
    ⟨"destination_asset_token_account", true, false, none, none⟩,
    ⟨"asset_mint", false, false, none, none⟩,
    ⟨"issued_token_mint", true, false, none, none⟩,
    ⟨"reserve_authority_pda", false, false, none, some (.knownPda "reserve_authority_pda")⟩,
    ⟨"asset_token_program", false, false, none, none⟩,
    ⟨"issued_token_program", false, false, none, none⟩,
    ⟨"executor", false, true, none, none⟩,
    ⟨"principal", false, false, none, none⟩,
    ⟨"asset_pause_state", false, false, none, none⟩,
    ⟨"issued_token_control", false, false, none, some (.knownPda "issued_token_control")⟩,
    ⟨"fee_policy", false, false, none, some .zeroAddress⟩,
    ⟨"fee_recipient_token_account", true, false, none, some .zeroAddress⟩,
    ⟨"limit_policy", false, false, none, some .zeroAddress⟩,
    ⟨"hourly_usage_window", true, false, none, some .zeroAddress⟩,
    ⟨"daily_usage_window", true, false, none, some .zeroAddress⟩,
    ⟨"weekly_usage_window", true, false, none, some .zeroAddress⟩,
    ⟨"monthly_usage_window", true, false, none, some .zeroAddress⟩,
    ⟨"evidence_policy", false, false, none, some .zeroAddress⟩,
    ⟨"settlement_policy", false, false, none, some .zeroAddress⟩,
    ⟨"asset_limit_policy", false, false, none, some .zeroAddress⟩,
    ⟨"asset_daily_usage_window", true, false, none, some .zeroAddress⟩,
    ⟨"counterparty_limit_policy", false, false, none, some .zeroAddress⟩,
    ⟨"counterparty_daily_usage_window", true, false, none, some .zeroAddress⟩,
    ⟨"executor_limit_policy", false, false, none, some .zeroAddress⟩,
    ⟨"executor_daily_usage_window", true, false, none, some .zeroAddress⟩,
    ⟨"rent_refund_recipient", true, false, none, some .zeroAddress⟩,
    ⟨"event_program", false, false, none, some .programAddress⟩]
  args := [("intent_id", .array .u8 32), ("pathway_id", .array .u8 32)]

def redeemDirect : InstructionSchema where
  discriminator := [4, 2]
  accounts := [
    ⟨"module_activation_state", false, false,
      some [.const moduleActivationStateSeed],
      some (.knownPda "module_activation_state")⟩,
    ⟨"chancery_config", true, false, none, some (.knownPda "chancery_config")⟩,
    ⟨"event_authority", false, false, none, some (.knownPda "event_authority")⟩,
    ⟨"pause_state", false, false, none, some (.knownPda "pause_state")⟩,
    ⟨"asset_config", false, false, none, none⟩,
    ⟨"pathway_policy", false, false, none, none⟩,
    ⟨"permission_record", false, false, none, none⟩,
    ⟨"source_issued_token_account", true, false, none, none⟩,
    ⟨"reserve_asset_token_account", true, false, none, none⟩,
    ⟨"destination_asset_token_account", true, false, none, none⟩,
    ⟨"asset_mint", false, false, none, none⟩,
    ⟨"issued_token_mint", true, false, none, none⟩,
    ⟨"reserve_authority_pda", false, false, none, some (.knownPda "reserve_authority_pda")⟩,
    ⟨"asset_token_program", false, false, none, none⟩,
    ⟨"issued_token_program", false, false, none, none⟩,
    ⟨"principal", false, true, none, none⟩,
    ⟨"asset_pause_state", false, false, none, none⟩,
    ⟨"issued_token_control", false, false, none, some (.knownPda "issued_token_control")⟩,
    ⟨"fee_policy", false, false, none, some .zeroAddress⟩,
    ⟨"fee_recipient_token_account", true, false, none, some .zeroAddress⟩,
    ⟨"limit_policy", false, false, none, some .zeroAddress⟩,
    ⟨"hourly_usage_window", true, false, none, some .zeroAddress⟩,
    ⟨"daily_usage_window", true, false, none, some .zeroAddress⟩,
    ⟨"weekly_usage_window", true, false, none, some .zeroAddress⟩,
    ⟨"monthly_usage_window", true, false, none, some .zeroAddress⟩,
    ⟨"evidence_policy", false, false, none, some .zeroAddress⟩,
    ⟨"asset_limit_policy", false, false, none, some .zeroAddress⟩,
    ⟨"asset_daily_usage_window", true, false, none, some .zeroAddress⟩,
    ⟨"counterparty_limit_policy", false, false, none, some .zeroAddress⟩,
    ⟨"counterparty_daily_usage_window", true, false, none, some .zeroAddress⟩,
    ⟨"event_program", false, false, none, some .programAddress⟩]
  args := [("pathway_id", .array .u8 32), ("issued_token_amount", .u64),
    ("minimum_asset_amount", .u64)]

def redeemTrilateral : InstructionSchema where
  discriminator := [4, 6]
  accounts := [
    ⟨"module_activation_state", false, false,
      some [.const moduleActivationStateSeed],
      some (.knownPda "module_activation_state")⟩,
    ⟨"chancery_config", true, false, none, some (.knownPda "chancery_config")⟩,
    ⟨"event_authority", false, false, none, some (.knownPda "event_authority")⟩,
    ⟨"pause_state", false, false, none, some (.knownPda "pause_state")⟩,
    ⟨"asset_config", false, false, none, none⟩,
    ⟨"pathway_policy", false, false, none, none⟩,
    ⟨"intent", true, false, none, none⟩,
    ⟨"principal_a_permission_record", false, false, none, none⟩,
    ⟨"principal_b_permission_record", false, false, none, none⟩,
    ⟨"executor_permission_record", false, false, none, none⟩,
    ⟨"source_issued_token_account", true, false, none, none⟩,
    ⟨"reserve_asset_token_account", true, false, none, none⟩,
    ⟨"destination_asset_token_account", true, false, none, none⟩,
    ⟨"asset_mint", false, false, none, none⟩,
    ⟨"issued_token_mint", true, false, none, none⟩,
    ⟨"reserve_authority_pda", false, false, none, some (.knownPda "reserve_authority_pda")⟩,
    ⟨"asset_token_program", false, false, none, none⟩,
    ⟨"issued_token_program", false, false, none, none⟩,
    ⟨"executor", false, true, none, none⟩,
    ⟨"principal_a", false, true, none, none⟩,
    ⟨"principal_b", false, true, none, none⟩,
    ⟨"asset_pause_state", false, false, none, none⟩,
    ⟨"issued_token_control", false, false, none, some (.knownPda "issued_token_control")⟩,
    ⟨"fee_policy", false, false, none, some .zeroAddress⟩,
    ⟨"fee_recipient_token_account", true, false, none, some .zeroAddress⟩,
    ⟨"limit_policy", false, false, none, some .zeroAddress⟩,
    ⟨"hourly_usage_window", true, false, none, some .zeroAddress⟩,
    ⟨"daily_usage_window", true, false, none, some .zeroAddress⟩,
    ⟨"weekly_usage_window", true, false, none, some .zeroAddress⟩,
    ⟨"monthly_usage_window", true, false, none, some .zeroAddress⟩,
    ⟨"evidence_policy", false, false, none, some .zeroAddress⟩,
    ⟨"settlement_policy", false, false, none, some .zeroAddress⟩,
    ⟨"asset_limit_policy", false, false, none, some .zeroAddress⟩,
    ⟨"asset_daily_usage_window", true, false, none, some .zeroAddress⟩,
    ⟨"counterparty_limit_policy", false, false, none, some .zeroAddress⟩,
    ⟨"counterparty_a_daily_usage_window", true, false, none, some .zeroAddress⟩,
    ⟨"counterparty_b_daily_usage_window", true, false, none, some .zeroAddress⟩,
    ⟨"executor_limit_policy", false, false, none, some .zeroAddress⟩,
    ⟨"executor_daily_usage_window", true, false, none, some .zeroAddress⟩,
    ⟨"rent_refund_recipient", true, false, none, some .zeroAddress⟩,
    ⟨"event_program", false, false, none, some .programAddress⟩]
  args := [("intent_id", .array .u8 32), ("pathway_id", .array .u8 32)]

def registerSettlementPolicy : InstructionSchema where
  discriminator := [4, 7]
  accounts := [
    ⟨"module_activation_state", false, false,
      some [.const moduleActivationStateSeed],
      some (.knownPda "module_activation_state")⟩,
    ⟨"chancery_config", true, false, none, some (.knownPda "chancery_config")⟩,
    ⟨"event_authority", false, false, none, some (.knownPda "event_authority")⟩,
    ⟨"settlement_policy", true, false,
      some [.const settlementPolicySeed, .argument "policy_id"],
      none⟩,
    ⟨"payer", true, true, none, none⟩,
    ⟨"operations_authority", false, true, none, none⟩,
    ⟨"system_program", false, false, none, some .systemProgram⟩,
    ⟨"event_program", false, false, none, some .programAddress⟩]
  args := [("policy_id", .array .u8 32), ("policy_flags", .u64), ("allowed_settlement_modes", .u32),
    ("allowed_asset_mint", .pubkey), ("allowed_principal_a", .pubkey),
    ("allowed_principal_b", .pubkey), ("designated_executor", .pubkey), ("max_notional", .u64),
    ("min_notional", .u64), ("valid_after_unix_timestamp", .i64),
    ("expires_at_unix_timestamp", .i64)]

def registerLimitPolicy : InstructionSchema where
  discriminator := [5, 0]
  accounts := [
    ⟨"module_activation_state", false, false,
      some [.const moduleActivationStateSeed],
      some (.knownPda "module_activation_state")⟩,
    ⟨"chancery_config", true, false, none, some (.knownPda "chancery_config")⟩,
    ⟨"event_authority", false, false, none, some (.knownPda "event_authority")⟩,
    ⟨"limit_policy", true, false,
      some [.const limitPolicySeed, .argument "limit_policy_id"],
      none⟩,
    ⟨"payer", true, true, none, none⟩,
    ⟨"operations_authority", false, true, none, none⟩,
    ⟨"system_program", false, false, none, some .systemProgram⟩,
    ⟨"hourly_usage_window", true, false, none, some .zeroAddress⟩,
    ⟨"daily_usage_window", true, false, none, some .zeroAddress⟩,
    ⟨"weekly_usage_window", true, false, none, some .zeroAddress⟩,
    ⟨"monthly_usage_window", true, false, none, some .zeroAddress⟩,
    ⟨"event_program", false, false, none, some .programAddress⟩]
  args := [("limit_policy_id", .array .u8 32), ("scope_kind", .u8), ("scope_key", .pubkey),
    ("per_transaction_maximum", .u64), ("per_hour_maximum", .u64), ("per_day_maximum", .u64),
    ("per_seven_day_maximum", .u64), ("per_thirty_day_maximum", .u64),
    ("maximum_actions_per_hour", .u32), ("maximum_actions_per_day", .u32)]

def updateLimitPolicy : InstructionSchema where
  discriminator := [5, 1]
  accounts := [
    ⟨"module_activation_state", false, false,
      some [.const moduleActivationStateSeed],
      some (.knownPda "module_activation_state")⟩,
    ⟨"chancery_config", true, false, none, some (.knownPda "chancery_config")⟩,
    ⟨"limit_policy", true, false, none, none⟩,
    ⟨"operations_authority", false, true, none, none⟩,
    ⟨"event_authority_direct", false, false, none, none⟩,
    ⟨"payer", false, false, none, none⟩,
    ⟨"system_program", false, false, none, some .systemProgram⟩,
    ⟨"hourly_usage_window", true, false, none, some .zeroAddress⟩,
    ⟨"daily_usage_window", true, false, none, some .zeroAddress⟩,
    ⟨"weekly_usage_window", true, false, none, some .zeroAddress⟩,
    ⟨"monthly_usage_window", true, false, none, some .zeroAddress⟩,
    ⟨"event_program", false, false, none, some .programAddress⟩]
  args := [("limit_policy_id", .array .u8 32), ("per_transaction_maximum", .option .u64),
    ("per_hour_maximum", .option .u64), ("per_day_maximum", .option .u64),
    ("per_seven_day_maximum", .option .u64), ("per_thirty_day_maximum", .option .u64),
    ("maximum_actions_per_hour", .option .u32), ("maximum_actions_per_day", .option .u32)]

def updateLimitPolicyWithPendingChange : InstructionSchema where
  discriminator := [5, 2]
  accounts := [
    ⟨"module_activation_state", false, false,
      some [.const moduleActivationStateSeed],
      some (.knownPda "module_activation_state")⟩,
    ⟨"chancery_config", true, false, none, some (.knownPda "chancery_config")⟩,
    ⟨"event_authority", false, false, none, some (.knownPda "event_authority")⟩,
    ⟨"pending_config_change", true, false, none, none⟩,
    ⟨"limit_policy", true, false, none, none⟩,
    ⟨"governance_authority", false, true, none, none⟩,
    ⟨"payer", false, false, none, none⟩,
    ⟨"system_program", false, false, none, some .systemProgram⟩,
    ⟨"hourly_usage_window", true, false, none, some .zeroAddress⟩,
    ⟨"daily_usage_window", true, false, none, some .zeroAddress⟩,
    ⟨"weekly_usage_window", true, false, none, some .zeroAddress⟩,
    ⟨"monthly_usage_window", true, false, none, some .zeroAddress⟩,
    ⟨"rent_refund_recipient", true, false, none, some .zeroAddress⟩,
    ⟨"event_program", false, false, none, some .programAddress⟩]
  args := [("limit_policy_id", .array .u8 32), ("per_transaction_maximum", .option .u64),
    ("per_hour_maximum", .option .u64), ("per_day_maximum", .option .u64),
    ("per_seven_day_maximum", .option .u64), ("per_thirty_day_maximum", .option .u64),
    ("maximum_actions_per_hour", .option .u32), ("maximum_actions_per_day", .option .u32)]

def registerEvidencePolicy : InstructionSchema where
  discriminator := [6, 0]
  accounts := [
    ⟨"chancery_config", true, false, none, some (.knownPda "chancery_config")⟩,
    ⟨"event_authority", false, false, none, some (.knownPda "event_authority")⟩,
    ⟨"evidence_policy", true, false,
      some [.const evidencePolicySeed, .argument "evidence_policy_id"],
      none⟩,
    ⟨"payer", true, true, none, none⟩,
    ⟨"operations_authority", false, true, none, none⟩,
    ⟨"system_program", false, false, none, some .systemProgram⟩,
    ⟨"event_program", false, false, none, some .programAddress⟩]
  args := [("evidence_policy_id", .array .u8 32), ("required_field_mask", .array .u64 2),
    ("counterparty_reporting_schema_hash", .array .u8 32),
    ("allow_freeform_counterparty_fields", .bool), ("maximum_freeform_field_count", .u16),
    ("maximum_freeform_value_bytes", .u16), ("retention_flags", .u64)]

def updateEvidencePolicy : InstructionSchema where
  discriminator := [6, 1]
  accounts := [
    ⟨"chancery_config", true, false, none, some (.knownPda "chancery_config")⟩,
    ⟨"event_authority", false, false, none, some (.knownPda "event_authority")⟩,
    ⟨"evidence_policy", true, false, none, none⟩,
    ⟨"operations_authority", false, true, none, none⟩,
    ⟨"event_program", false, false, none, some .programAddress⟩]
  args := [("evidence_policy_id", .array .u8 32), ("required_field_mask", .option (.array .u64 2)),
    ("counterparty_reporting_schema_hash", .option (.array .u8 32)),
    ("allow_freeform_counterparty_fields", .option .bool),
    ("maximum_freeform_field_count", .option .u16), ("maximum_freeform_value_bytes", .option .u16),
    ("retention_flags", .option .u64)]

def updateEvidencePolicyWithPendingChange : InstructionSchema where
  discriminator := [6, 2]
  accounts := [
    ⟨"chancery_config", true, false, none, some (.knownPda "chancery_config")⟩,
    ⟨"event_authority", false, false, none, some (.knownPda "event_authority")⟩,
    ⟨"pending_config_change", true, false, none, none⟩,
    ⟨"evidence_policy", true, false, none, none⟩,
    ⟨"governance_authority", false, true, none, none⟩,
    ⟨"rent_refund_recipient", true, false, none, none⟩,
    ⟨"event_program", false, false, none, some .programAddress⟩]
  args := [("evidence_policy_id", .array .u8 32), ("required_field_mask", .option (.array .u64 2)),
    ("counterparty_reporting_schema_hash", .option (.array .u8 32)),
    ("allow_freeform_counterparty_fields", .option .bool),
    ("maximum_freeform_field_count", .option .u16), ("maximum_freeform_value_bytes", .option .u16),
    ("retention_flags", .option .u64)]

def registerFeePolicy : InstructionSchema where
  discriminator := [7, 0]
  accounts := [
    ⟨"module_activation_state", false, false,
      some [.const moduleActivationStateSeed],
      some (.knownPda "module_activation_state")⟩,
    ⟨"chancery_config", true, false, none, some (.knownPda "chancery_config")⟩,
    ⟨"event_authority", false, false, none, some (.knownPda "event_authority")⟩,
    ⟨"fee_policy", true, false, some [.const feePolicySeed, .argument "fee_policy_id"], none⟩,
    ⟨"payer", true, true, none, none⟩,
    ⟨"operations_authority", false, true, none, none⟩,
    ⟨"system_program", false, false, none, some .systemProgram⟩,
    ⟨"event_program", false, false, none, some .programAddress⟩]
  args := [("fee_policy_id", .array .u8 32), ("fee_policy_flags", .u64),
    ("flat_fee_in_asset", .u64), ("flat_fee_in_issued_token", .u64), ("percent_fee_bps", .u32),
    ("fee_cap_amount", .u64), ("minimum_fee_amount", .u64), ("rebate_flat_amount", .u64),
    ("rebate_bps", .u32), ("rebate_cap_amount", .u64), ("net_fee_floor_zero", .bool),
    ("fee_recipient_policy", .u8), ("rounding_mode", .u8), ("fee_recipient_key", .pubkey),
    ("effective_from_unix_timestamp", .i64), ("effective_until_unix_timestamp", .i64)]

def updateFeePolicy : InstructionSchema where
  discriminator := [7, 1]
  accounts := [
    ⟨"module_activation_state", false, false,
      some [.const moduleActivationStateSeed],
      some (.knownPda "module_activation_state")⟩,
    ⟨"chancery_config", true, false, none, some (.knownPda "chancery_config")⟩,
    ⟨"fee_policy", true, false, none, none⟩,
    ⟨"operations_authority", false, true, none, none⟩,
    ⟨"event_authority_direct", false, false, none, none⟩,
    ⟨"event_program", false, false, none, some .programAddress⟩]
  args := [("fee_policy_id", .array .u8 32), ("fee_policy_flags", .option .u64),
    ("flat_fee_in_asset", .option .u64), ("flat_fee_in_issued_token", .option .u64),
    ("percent_fee_bps", .option .u32), ("fee_cap_amount", .option .u64),
    ("minimum_fee_amount", .option .u64), ("rebate_flat_amount", .option .u64),
    ("rebate_bps", .option .u32), ("rebate_cap_amount", .option .u64),
    ("net_fee_floor_zero", .option .bool), ("fee_recipient_key", .option .pubkey),
    ("effective_from_unix_timestamp", .option .i64),
    ("effective_until_unix_timestamp", .option .i64)]

def updateFeePolicyWithPendingChange : InstructionSchema where
  discriminator := [7, 2]
  accounts := [
    ⟨"module_activation_state", false, false,
      some [.const moduleActivationStateSeed],
      some (.knownPda "module_activation_state")⟩,
    ⟨"chancery_config", true, false, none, some (.knownPda "chancery_config")⟩,
    ⟨"event_authority", false, false, none, some (.knownPda "event_authority")⟩,
    ⟨"pending_config_change", true, false, none, none⟩,
    ⟨"fee_policy", true, false, none, none⟩,
    ⟨"governance_authority", false, true, none, none⟩,
    ⟨"rent_refund_recipient", true, false, none, some .zeroAddress⟩,
    ⟨"event_program", false, false, none, some .programAddress⟩]
  args := [("fee_policy_id", .array .u8 32), ("fee_policy_flags", .option .u64),
    ("flat_fee_in_asset", .option .u64), ("flat_fee_in_issued_token", .option .u64),
    ("percent_fee_bps", .option .u32), ("fee_cap_amount", .option .u64),
    ("minimum_fee_amount", .option .u64), ("rebate_flat_amount", .option .u64),
    ("rebate_bps", .option .u32), ("rebate_cap_amount", .option .u64),
    ("net_fee_floor_zero", .option .bool), ("fee_recipient_key", .option .pubkey),
    ("effective_from_unix_timestamp", .option .i64),
    ("effective_until_unix_timestamp", .option .i64)]

def registerReserveDestinationWithPending : InstructionSchema where
  discriminator := [8, 4]
  accounts := [
    ⟨"module_activation_state", false, false,
      some [.const moduleActivationStateSeed],
      some (.knownPda "module_activation_state")⟩,
    ⟨"chancery_config", true, false, none, some (.knownPda "chancery_config")⟩,
    ⟨"event_authority", false, false, none, some (.knownPda "event_authority")⟩,
    ⟨"pending", true, false, none, none⟩,
    ⟨"reserve_destination", true, false,
      some [.const reserveDestinationSeed, .account "asset_mint", .account "destination_token_account"],
      none⟩,
    ⟨"asset_mint", false, false, none, none⟩,
    ⟨"destination_token_account", false, false, none, none⟩,
    ⟨"payer", true, true, none, none⟩,
    ⟨"governance_authority", false, true, none, none⟩,
    ⟨"system_program", false, false, none, some .systemProgram⟩,
    ⟨"withdrawal_limit_policy", false, false, none, none⟩,
    ⟨"rent_refund_recipient", true, false, none, some .zeroAddress⟩,
    ⟨"event_program", false, false, none, some .programAddress⟩]
  args := [("destination_owner", .pubkey), ("destination_flags", .u64),
    ("withdrawal_limit_policy_id", .array .u8 32)]

def setReserveDestinationStatus : InstructionSchema where
  discriminator := [8, 2]
  accounts := [
    ⟨"module_activation_state", false, false,
      some [.const moduleActivationStateSeed],
      some (.knownPda "module_activation_state")⟩,
    ⟨"chancery_config", true, false, none, some (.knownPda "chancery_config")⟩,
    ⟨"event_authority", false, false, none, some (.knownPda "event_authority")⟩,
    ⟨"reserve_destination", true, false, none, none⟩,
    ⟨"authority", false, true, none, none⟩,
    ⟨"event_program", false, false, none, some .programAddress⟩]
  args := [("new_status", .u8)]

def setReserveDestinationStatusWithPending : InstructionSchema where
  discriminator := [8, 3]
  accounts := [
    ⟨"module_activation_state", false, false,
      some [.const moduleActivationStateSeed],
      some (.knownPda "module_activation_state")⟩,
    ⟨"chancery_config", true, false, none, some (.knownPda "chancery_config")⟩,
    ⟨"event_authority", false, false, none, some (.knownPda "event_authority")⟩,
    ⟨"pending", true, false, none, none⟩,
    ⟨"reserve_destination", true, false, none, none⟩,
    ⟨"governance_authority", false, true, none, none⟩,
    ⟨"rent_refund_recipient", true, false, none, some .zeroAddress⟩,
    ⟨"event_program", false, false, none, some .programAddress⟩]
  args := [("new_status", .u8)]

def withdrawReserve : InstructionSchema where
  discriminator := [8, 1]
  accounts := [
    ⟨"module_activation_state", false, false,
      some [.const moduleActivationStateSeed],
      some (.knownPda "module_activation_state")⟩,
    ⟨"chancery_config", true, false, none, some (.knownPda "chancery_config")⟩,
    ⟨"event_authority", false, false, none, some (.knownPda "event_authority")⟩,
    ⟨"pause_state", false, false, none, some (.knownPda "pause_state")⟩,
    ⟨"asset_config", false, false, none, none⟩,
    ⟨"reserve_destination", false, false, none, none⟩,
    ⟨"reserve_asset_token_account", true, false, none, none⟩,
    ⟨"destination_asset_token_account", true, false, none, none⟩,
    ⟨"asset_mint", false, false, none, none⟩,
    ⟨"reserve_authority_pda", false, false,
      some [.const reserveAuthoritySeed],
      some (.knownPda "reserve_authority_pda")⟩,
    ⟨"asset_token_program", false, false, none, none⟩,
    ⟨"authority", false, true, none, none⟩,
    ⟨"asset_pause_state", false, false, none, none⟩,
    ⟨"withdrawal_limit_policy", false, false, none, none⟩,
    ⟨"withdrawal_daily_usage_window", true, false, none, none⟩,
    ⟨"permission_record", false, false, none, some .zeroAddress⟩,
    ⟨"event_program", false, false, none, some .programAddress⟩]
  args := [("amount", .u64), ("minimum_destination_amount", .u64)]

def acceptConfigChange : InstructionSchema where
  discriminator := [9, 8]
  accounts := [
    ⟨"activation_state", false, false, none, none⟩,
    ⟨"chancery_config", true, false, none, some (.knownPda "chancery_config")⟩,
    ⟨"event_authority", false, false, none, some (.knownPda "event_authority")⟩,
    ⟨"pending", true, false, none, none⟩,
    ⟨"governance_authority", false, true, none, none⟩,
    ⟨"event_program", false, false, none, some .programAddress⟩]
  args := []

def cancelConfigChange : InstructionSchema where
  discriminator := [9, 9]
  accounts := [
    ⟨"activation_state", false, false, none, none⟩,
    ⟨"chancery_config", true, false, none, some (.knownPda "chancery_config")⟩,
    ⟨"event_authority", false, false, none, some (.knownPda "event_authority")⟩,
    ⟨"pending", true, false, none, none⟩,
    ⟨"governance_authority", false, true, none, none⟩,
    ⟨"rent_refund_recipient", true, false, none, some .zeroAddress⟩,
    ⟨"event_program", false, false, none, some .programAddress⟩]
  args := []

def closeExpiredConfigChange : InstructionSchema where
  discriminator := [9, 13]
  accounts := [
    ⟨"activation_state", false, false, none, none⟩,
    ⟨"chancery_config", true, false, none, some (.knownPda "chancery_config")⟩,
    ⟨"event_authority", false, false, none, some (.knownPda "event_authority")⟩,
    ⟨"pending", true, false, none, none⟩,
    ⟨"rent_refund_recipient", true, false, none, some .zeroAddress⟩,
    ⟨"event_program", false, false, none, some .programAddress⟩]
  args := []

def freezeIssuedTokenAccount : InstructionSchema where
  discriminator := [9, 5]
  accounts := [
    ⟨"chancery_config", true, false, none, some (.knownPda "chancery_config")⟩,
    ⟨"event_authority", false, false, none, some (.knownPda "event_authority")⟩,
    ⟨"activation", false, false, none, none⟩,
    ⟨"freeze_record", true, false,
      some [.const basicFreezeRecordSeed, .account "issued_token_account"],
      none⟩,
    ⟨"issued_token_account", true, false, none, none⟩,
    ⟨"issued_token_mint", false, false, none, none⟩,
    ⟨"freeze_authority_pda", false, false, none, none⟩,
    ⟨"issued_token_program", false, false, none, none⟩,
    ⟨"authority", false, true, none, none⟩,
    ⟨"payer", true, true, none, none⟩,
    ⟨"system_program", false, false, none, some .systemProgram⟩,
    ⟨"permission_record", false, false, none, some .zeroAddress⟩,
    ⟨"event_program", false, false, none, some .programAddress⟩]
  args := [("reason_code", .u32), ("freeze_flags", .u64)]

def initializeModuleActivationState : InstructionSchema where
  discriminator := [9, 10]
  accounts := [
    ⟨"activation", true, false, none, none⟩,
    ⟨"chancery_config", true, false, none, some (.knownPda "chancery_config")⟩,
    ⟨"event_authority", false, false, none, some (.knownPda "event_authority")⟩,
    ⟨"payer", true, true, none, none⟩,
    ⟨"governance_authority", false, true, none, none⟩,
    ⟨"system", false, false, none, some .systemProgram⟩,
    ⟨"event_program", false, false, none, some .programAddress⟩]
  args := []

def proposeConfigChange : InstructionSchema where
  discriminator := [9, 7]
  accounts := [
    ⟨"activation_state", false, false, none, none⟩,
    ⟨"chancery_config", true, false, none, some (.knownPda "chancery_config")⟩,
    ⟨"event_authority", false, false, none, some (.knownPda "event_authority")⟩,
    ⟨"pending", true, false, none, none⟩,
    ⟨"payer", true, true, none, none⟩,
    ⟨"governance_authority", false, true, none, none⟩,
    ⟨"system", false, false, none, some .systemProgram⟩,
    ⟨"event_program", false, false, none, some .programAddress⟩]
  args := [("change_kind", .u16), ("risk_class", .u8), ("target_account", .pubkey),
    ("old_value_hash", .array .u8 32), ("new_value_hash", .array .u8 32),
    ("executable_after_unix_timestamp", .i64), ("expires_at_unix_timestamp", .i64),
    ("proposer_nonce", .u64)]

def setAssetPause : InstructionSchema where
  discriminator := [9, 1]
  accounts := [
    ⟨"chancery_config", true, false, none, some (.knownPda "chancery_config")⟩,
    ⟨"event_authority", false, false, none, some (.knownPda "event_authority")⟩,
    ⟨"asset_pause_state", true, false,
      some [.const assetPauseSeed, .account "asset_mint"],
      none⟩,
    ⟨"asset_mint", false, false, none, none⟩,
    ⟨"payer", true, true, none, none⟩,
    ⟨"authority", false, true, none, none⟩,
    ⟨"system_program", false, false, none, some .systemProgram⟩,
    ⟨"event_program", false, false, none, some .programAddress⟩]
  args := [("pause_bits", .u64), ("is_clear", .bool), ("reason_code", .u32),
    ("expires_at_slot", .u64)]

def setCounterpartyPause : InstructionSchema where
  discriminator := [9, 4]
  accounts := [
    ⟨"chancery_config", true, false, none, some (.knownPda "chancery_config")⟩,
    ⟨"event_authority", false, false, none, some (.knownPda "event_authority")⟩,
    ⟨"permission_record", true, false, none, none⟩,
    ⟨"authority", false, true, none, none⟩,
    ⟨"event_program", false, false, none, some .programAddress⟩]
  args := [("subject", .pubkey), ("scope_kind", .u8), ("scope_key", .pubkey), ("is_paused", .bool),
    ("reason_code", .u32)]

def setExecutorPause : InstructionSchema where
  discriminator := [9, 3]
  accounts := [
    ⟨"chancery_config", true, false, none, some (.knownPda "chancery_config")⟩,
    ⟨"event_authority", false, false, none, some (.knownPda "event_authority")⟩,
    ⟨"permission_record", true, false, none, none⟩,
    ⟨"authority", false, true, none, none⟩,
    ⟨"event_program", false, false, none, some .programAddress⟩]
  args := [("subject", .pubkey), ("scope_kind", .u8), ("scope_key", .pubkey), ("is_paused", .bool),
    ("reason_code", .u32)]

def setGlobalPause : InstructionSchema where
  discriminator := [9, 0]
  accounts := [
    ⟨"chancery_config", true, false, none, some (.knownPda "chancery_config")⟩,
    ⟨"event_authority", false, false, none, some (.knownPda "event_authority")⟩,
    ⟨"pause_state", true, false, none, some (.knownPda "pause_state")⟩,
    ⟨"authority", false, true, none, none⟩,
    ⟨"event_program", false, false, none, some .programAddress⟩]
  args := [("pause_bits", .u64), ("is_clear", .bool), ("reason_code", .u32),
    ("expires_at_slot", .u64)]

def setModuleStatus : InstructionSchema where
  discriminator := [9, 11]
  accounts := [
    ⟨"activation", true, false, none, none⟩,
    ⟨"chancery_config", true, false, none, some (.knownPda "chancery_config")⟩,
    ⟨"event_authority", false, false, none, some (.knownPda "event_authority")⟩,
    ⟨"authority", false, true, none, none⟩,
    ⟨"event_program", false, false, none, some .programAddress⟩]
  args := [("module_id", .u8), ("new_status", .u8)]

def setModuleStatusWithPendingChange : InstructionSchema where
  discriminator := [9, 12]
  accounts := [
    ⟨"activation", true, false, none, none⟩,
    ⟨"chancery_config", true, false, none, some (.knownPda "chancery_config")⟩,
    ⟨"event_authority", false, false, none, some (.knownPda "event_authority")⟩,
    ⟨"pending", true, false, none, none⟩,
    ⟨"governance_authority", false, true, none, none⟩,
    ⟨"rent_refund_recipient", true, false, none, some .zeroAddress⟩,
    ⟨"event_program", false, false, none, some .programAddress⟩]
  args := [("module_id", .u8), ("new_status", .u8)]

def setPathwayPause : InstructionSchema where
  discriminator := [9, 2]
  accounts := [
    ⟨"chancery_config", true, false, none, some (.knownPda "chancery_config")⟩,
    ⟨"event_authority", false, false, none, some (.knownPda "event_authority")⟩,
    ⟨"pathway_policy", true, false, none, none⟩,
    ⟨"authority", false, true, none, none⟩,
    ⟨"event_program", false, false, none, some .programAddress⟩]
  args := [("pathway_id", .array .u8 32), ("is_paused", .bool), ("reason_code", .u32)]

def thawIssuedTokenAccount : InstructionSchema where
  discriminator := [9, 6]
  accounts := [
    ⟨"chancery_config", true, false, none, some (.knownPda "chancery_config")⟩,
    ⟨"event_authority", false, false, none, some (.knownPda "event_authority")⟩,
    ⟨"activation", false, false, none, none⟩,
    ⟨"freeze_record", true, false, none, none⟩,
    ⟨"issued_token_account", true, false, none, none⟩,
    ⟨"issued_token_mint", false, false, none, none⟩,
    ⟨"freeze_authority_pda", false, false, none, none⟩,
    ⟨"issued_token_program", false, false, none, none⟩,
    ⟨"authority", false, true, none, none⟩,
    ⟨"permission_record", false, false, none, some .zeroAddress⟩,
    ⟨"rent_refund_recipient", true, false, none, some .zeroAddress⟩,
    ⟨"event_program", false, false, none, some .programAddress⟩]
  args := [("reason_code", .u32), ("thaw_flags", .u64)]

def initializeIssuedTokenControl : InstructionSchema where
  discriminator := [11, 0]
  accounts := [
    ⟨"module_activation_state", false, false,
      some [.const moduleActivationStateSeed],
      some (.knownPda "module_activation_state")⟩,
    ⟨"issued_token_control", true, false,
      some [.const issuedTokenControlSeed],
      some (.knownPda "issued_token_control")⟩,
    ⟨"chancery_config", true, false, none, some (.knownPda "chancery_config")⟩,
    ⟨"event_authority", false, false, none, some (.knownPda "event_authority")⟩,
    ⟨"payer", true, true, none, none⟩,
    ⟨"governance_authority", false, true, none, none⟩,
    ⟨"system_program", false, false, none, some .systemProgram⟩,
    ⟨"event_program", false, false, none, some .programAddress⟩]
  args := [("issued_token_mint", .pubkey), ("issued_token_program", .pubkey),
    ("reserved_mint_extension_mask", .array .u64 2),
    ("reserved_account_extension_mask", .array .u64 2),
    ("max_extension_observation_age_slots", .u64)]

def refreshAssetExtensionObservation : InstructionSchema where
  discriminator := [11, 12]
  accounts := [
    ⟨"module_activation_state", false, false,
      some [.const moduleActivationStateSeed],
      some (.knownPda "module_activation_state")⟩,
    ⟨"chancery_config", true, false, none, some (.knownPda "chancery_config")⟩,
    ⟨"event_authority", false, false, none, some (.knownPda "event_authority")⟩,
    ⟨"asset_config", true, false, none, none⟩,
    ⟨"asset_mint", false, false, none, none⟩,
    ⟨"operations_authority", false, true, none, none⟩,
    ⟨"event_program", false, false, none, some .programAddress⟩]
  args := []

def verifyIssuedTokenDeployment : InstructionSchema where
  discriminator := [11, 14]
  accounts := [
    ⟨"module_activation_state", false, false,
      some [.const moduleActivationStateSeed],
      some (.knownPda "module_activation_state")⟩,
    ⟨"chancery_config", true, false, none, some (.knownPda "chancery_config")⟩,
    ⟨"event_authority", false, false, none, some (.knownPda "event_authority")⟩,
    ⟨"asset_config", false, false, none, none⟩,
    ⟨"issued_token_control", true, false, none, some (.knownPda "issued_token_control")⟩,
    ⟨"issued_token_mint", false, false, none, none⟩,
    ⟨"payer", false, true, none, none⟩,
    ⟨"governance_authority", false, true, none, none⟩,
    ⟨"event_program", false, false, none, some .programAddress⟩]
  args := []

def refreshIssuedTokenExtensionObservation : InstructionSchema where
  discriminator := [11, 15]
  accounts := [
    ⟨"module_activation_state", false, false,
      some [.const moduleActivationStateSeed],
      some (.knownPda "module_activation_state")⟩,
    ⟨"chancery_config", true, false, none, some (.knownPda "chancery_config")⟩,
    ⟨"event_authority", false, false, none, some (.knownPda "event_authority")⟩,
    ⟨"asset_config", false, false, none, none⟩,
    ⟨"issued_token_control", true, false, none, some (.knownPda "issued_token_control")⟩,
    ⟨"issued_token_mint", false, false, none, none⟩,
    ⟨"operations_authority", false, true, none, none⟩,
    ⟨"event_program", false, false, none, some .programAddress⟩]
  args := []

def consumeInboundMessage : InstructionSchema where
  discriminator := [16, 6]
  accounts := [
    ⟨"module_activation_state", false, false,
      some [.const moduleActivationStateSeed],
      some (.knownPda "module_activation_state")⟩,
    ⟨"chancery_config", true, false, none, some (.knownPda "chancery_config")⟩,
    ⟨"event_authority", false, false, none, some (.knownPda "event_authority")⟩,
    ⟨"pause_state", false, false, none, some (.knownPda "pause_state")⟩,
    ⟨"asset_pause_state", false, false, none, none⟩,
    ⟨"pathway_policy", false, false, none, none⟩,
    ⟨"remote_domain_policy", false, false, none, none⟩,
    ⟨"signer_set", false, false, none, none⟩,
    ⟨"remote_nonce_account_index", true, false, none, none⟩,
    ⟨"recipient_issued_token_account", true, false, none, none⟩,
    ⟨"issued_token_mint", true, false, none, none⟩,
    ⟨"mint_authority_pda", false, false, none, none⟩,
    ⟨"issued_token_program", false, false, none, none⟩,
    ⟨"relayer", false, true, none, none⟩,
    ⟨"relayer_permission_record", false, false, none, none⟩,
    ⟨"issued_token_control", false, false, none, some (.knownPda "issued_token_control")⟩,
    ⟨"asset_config", false, false, none, none⟩,
    ⟨"limit_policy", false, false, none, some .zeroAddress⟩,
    ⟨"hourly_usage_window", true, false, none, some .zeroAddress⟩,
    ⟨"daily_usage_window", true, false, none, some .zeroAddress⟩,
    ⟨"remote_domain_daily_usage_window", true, false, none, some .zeroAddress⟩,
    ⟨"weekly_usage_window", true, false, none, some .zeroAddress⟩,
    ⟨"monthly_usage_window", true, false, none, some .zeroAddress⟩,
    ⟨"event_program", false, false, none, some .programAddress⟩]
  args := [("pathway_id", .array .u8 32), ("remote_chain_kind", .u8), ("remote_domain_id", .u64),
    ("message_kind", .u8), ("source_nonce", .u64), ("amount", .u64),
    ("expires_at_unix_timestamp", .i64), ("source_asset", .array .u8 32), ("sender", .array .u8 32),
    ("recipient", .array .u8 32), ("provided_message_hash", .array .u8 32),
    ("signatures", .vector (.defined "AttestationSignature" attestationSignatureFields))]

def emitOutboundMessage : InstructionSchema where
  discriminator := [16, 7]
  accounts := [
    ⟨"module_activation_state", false, false,
      some [.const moduleActivationStateSeed],
      some (.knownPda "module_activation_state")⟩,
    ⟨"chancery_config", true, false, none, some (.knownPda "chancery_config")⟩,
    ⟨"event_authority", false, false, none, some (.knownPda "event_authority")⟩,
    ⟨"pause_state", false, false, none, some (.knownPda "pause_state")⟩,
    ⟨"asset_pause_state", false, false, none, none⟩,
    ⟨"pathway_policy", false, false, none, none⟩,
    ⟨"remote_domain_policy", false, false, none, none⟩,
    ⟨"signer_set", false, false, none, none⟩,
    ⟨"remote_nonce_account_index", true, false, none, none⟩,
    ⟨"source_issued_token_account", true, false, none, none⟩,
    ⟨"issued_token_mint", true, false, none, none⟩,
    ⟨"issued_token_program", false, false, none, none⟩,
    ⟨"sender", false, true, none, none⟩,
    ⟨"issued_token_control", false, false, none, some (.knownPda "issued_token_control")⟩,
    ⟨"sender_permission_record", false, false, none, none⟩,
    ⟨"asset_config", false, false, none, none⟩,
    ⟨"fee_policy", false, false, none, some .zeroAddress⟩,
    ⟨"fee_recipient_token_account", true, false, none, some .zeroAddress⟩,
    ⟨"mint_authority_pda", false, false, none, some .zeroAddress⟩,
    ⟨"limit_policy", false, false, none, some .zeroAddress⟩,
    ⟨"hourly_usage_window", true, false, none, some .zeroAddress⟩,
    ⟨"daily_usage_window", true, false, none, some .zeroAddress⟩,
    ⟨"remote_domain_daily_usage_window", true, false, none, some .zeroAddress⟩,
    ⟨"weekly_usage_window", true, false, none, some .zeroAddress⟩,
    ⟨"monthly_usage_window", true, false, none, some .zeroAddress⟩,
    ⟨"event_program", false, false, none, some .programAddress⟩]
  args := [("pathway_id", .array .u8 32), ("remote_chain_kind", .u8), ("remote_domain_id", .u64),
    ("amount", .u64), ("minimum_remote_amount", .u64), ("recipient", .array .u8 32),
    ("destination_asset", .array .u8 32), ("message_kind", .u8),
    ("expires_at_unix_timestamp", .i64)]

def expireInboundMessage : InstructionSchema where
  discriminator := [16, 10]
  accounts := [
    ⟨"module_activation_state", false, false,
      some [.const moduleActivationStateSeed],
      some (.knownPda "module_activation_state")⟩,
    ⟨"chancery_config", true, false, none, some (.knownPda "chancery_config")⟩,
    ⟨"event_authority", false, false, none, some (.knownPda "event_authority")⟩,
    ⟨"pathway_policy", false, false, none, none⟩,
    ⟨"remote_domain_policy", false, false, none, none⟩,
    ⟨"signer_set", false, false, none, none⟩,
    ⟨"remote_nonce_account_index", true, false, none, none⟩,
    ⟨"limit_policy", false, false, none, some .zeroAddress⟩,
    ⟨"recipient_issued_token_account", false, false, none, some .zeroAddress⟩,
    ⟨"event_program", false, false, none, some .programAddress⟩]
  args := [("pathway_id", .array .u8 32), ("remote_chain_kind", .u8), ("remote_domain_id", .u64),
    ("message_kind", .u8), ("source_nonce", .u64), ("amount", .u128),
    ("expires_at_unix_timestamp", .i64), ("source_asset", .array .u8 32), ("sender", .array .u8 32),
    ("recipient", .array .u8 32), ("provided_message_hash", .array .u8 32),
    ("signatures", .vector (.defined "AttestationSignature" attestationSignatureFields))]

def reclaimExpiredOutbound : InstructionSchema where
  discriminator := [16, 11]
  accounts := [
    ⟨"module_activation_state", false, false,
      some [.const moduleActivationStateSeed],
      some (.knownPda "module_activation_state")⟩,
    ⟨"chancery_config", true, false, none, some (.knownPda "chancery_config")⟩,
    ⟨"event_authority", false, false, none, some (.knownPda "event_authority")⟩,
    ⟨"pause_state", false, false, none, some (.knownPda "pause_state")⟩,
    ⟨"asset_pause_state", false, false, none, none⟩,
    ⟨"pathway_policy", false, false, none, none⟩,
    ⟨"remote_domain_policy", false, false, none, none⟩,
    ⟨"signer_set", false, false, none, none⟩,
    ⟨"remote_nonce_account_index", false, false, none, none⟩,
    ⟨"outbound_reclaim_record", true, false, none, none⟩,
    ⟨"sender_issued_token_account", true, false, none, none⟩,
    ⟨"issued_token_mint", true, false, none, none⟩,
    ⟨"mint_authority_pda", false, false, none, none⟩,
    ⟨"issued_token_program", false, false, none, none⟩,
    ⟨"issued_token_control", false, false, none, some (.knownPda "issued_token_control")⟩,
    ⟨"payer", true, true, none, none⟩,
    ⟨"system_program", false, false, none, some .systemProgram⟩,
    ⟨"event_program", false, false, none, some .programAddress⟩]
  args := [("pathway_id", .array .u8 32), ("remote_chain_kind", .u8), ("remote_domain_id", .u64),
    ("message_kind", .u8), ("source_nonce", .u64), ("amount", .u128),
    ("expires_at_unix_timestamp", .i64), ("destination_asset", .array .u8 32),
    ("sender", .array .u8 32), ("recipient", .array .u8 32), ("retirement_reason", .u8),
    ("expired_at_unix_timestamp", .i64), ("expired_at_slot_or_block", .u64),
    ("provided_epoch_free_content_hash", .array .u8 32), ("provided_reclaim_digest", .array .u8 32),
    ("signatures", .vector (.defined "AttestationSignature" attestationSignatureFields))]

def relaxRemoteDomainPause : InstructionSchema where
  discriminator := [16, 5]
  accounts := [
    ⟨"module_activation_state", false, false,
      some [.const moduleActivationStateSeed],
      some (.knownPda "module_activation_state")⟩,
    ⟨"chancery_config", true, false, none, some (.knownPda "chancery_config")⟩,
    ⟨"event_authority", false, false, none, some (.knownPda "event_authority")⟩,
    ⟨"remote_domain_policy", true, false, none, none⟩,
    ⟨"authority", false, true, none, none⟩,
    ⟨"authority_permission_record", false, false, none, none⟩,
    ⟨"event_program", false, false, none, some .programAddress⟩]
  args := [("remote_chain_kind", .u8), ("remote_domain_id", .u64), ("pause_bits_to_clear", .u64),
    ("reason_code", .u32)]

def registerCrossChainSignerSet : InstructionSchema where
  discriminator := [16, 2]
  accounts := [
    ⟨"module_activation_state", false, false,
      some [.const moduleActivationStateSeed],
      some (.knownPda "module_activation_state")⟩,
    ⟨"chancery_config", true, false, none, some (.knownPda "chancery_config")⟩,
    ⟨"event_authority", false, false, none, some (.knownPda "event_authority")⟩,
    ⟨"pending", true, false, none, none⟩,
    ⟨"signer_set", true, false,
      some [.const crossChainSignerSetSeed, .argument "signer_set_id"],
      none⟩,
    ⟨"payer", true, true, none, none⟩,
    ⟨"registering_authority", false, true, none, none⟩,
    ⟨"governance_authority", false, true, none, none⟩,
    ⟨"authority_permission_record", false, false, none, none⟩,
    ⟨"system_program", false, false, none, some .systemProgram⟩,
    ⟨"rent_refund_recipient", true, false, none, some .zeroAddress⟩,
    ⟨"event_program", false, false, none, some .programAddress⟩]
  args := [("signer_set_id", .array .u8 32), ("threshold", .u8), ("signer_count", .u8),
    ("signer_root", .array .u8 32), ("valid_after_unix_timestamp", .i64),
    ("expires_at_unix_timestamp", .i64)]

def registerRemoteDomainPolicy : InstructionSchema where
  discriminator := [16, 0]
  accounts := [
    ⟨"module_activation_state", false, false,
      some [.const moduleActivationStateSeed],
      some (.knownPda "module_activation_state")⟩,
    ⟨"chancery_config", true, false, none, some (.knownPda "chancery_config")⟩,
    ⟨"event_authority", false, false, none, some (.knownPda "event_authority")⟩,
    ⟨"remote_domain_policy", true, false, none, none⟩,
    ⟨"payer", true, true, none, none⟩,
    ⟨"authority", false, true, none, none⟩,
    ⟨"authority_permission_record", false, false, none, none⟩,
    ⟨"signer_set", false, false, none, none⟩,
    ⟨"system_program", false, false, none, some .systemProgram⟩,
    ⟨"remote_nonce_account_index", true, false, none, none⟩,
    ⟨"remote_daily_usage_window", true, false, none, some .zeroAddress⟩,
    ⟨"event_program", false, false, none, some .programAddress⟩]
  args := [("remote_chain_kind", .u8), ("remote_domain_id", .u64),
    ("minimum_attestation_threshold", .u8), ("required_finality_depth", .u64),
    ("message_expiry_seconds", .u64), ("per_message_maximum", .u64), ("per_day_maximum", .u64),
    ("remote_domain_separator", .array .u8 32), ("remote_chancery_contract", .array .u8 32),
    ("remote_issued_token", .array .u8 32), ("signer_set_id", .array .u8 32), ("mode", .u8),
    ("remote_asset", .array .u8 32), ("local_asset_mint", .pubkey)]

def restrictRemoteDomainPause : InstructionSchema where
  discriminator := [16, 4]
  accounts := [
    ⟨"module_activation_state", false, false,
      some [.const moduleActivationStateSeed],
      some (.knownPda "module_activation_state")⟩,
    ⟨"chancery_config", true, false, none, some (.knownPda "chancery_config")⟩,
    ⟨"event_authority", false, false, none, some (.knownPda "event_authority")⟩,
    ⟨"remote_domain_policy", true, false, none, none⟩,
    ⟨"authority", false, true, none, none⟩,
    ⟨"authority_permission_record", false, false, none, none⟩,
    ⟨"event_program", false, false, none, some .programAddress⟩]
  args := [("remote_chain_kind", .u8), ("remote_domain_id", .u64), ("pause_bits_to_set", .u64),
    ("reason_code", .u32)]

def rotateCrossChainSignerSet : InstructionSchema where
  discriminator := [16, 3]
  accounts := [
    ⟨"module_activation_state", false, false,
      some [.const moduleActivationStateSeed],
      some (.knownPda "module_activation_state")⟩,
    ⟨"chancery_config", true, false, none, some (.knownPda "chancery_config")⟩,
    ⟨"event_authority", false, false, none, some (.knownPda "event_authority")⟩,
    ⟨"signer_set", true, false, none, none⟩,
    ⟨"authority", false, true, none, none⟩,
    ⟨"authority_permission_record", false, false, none, none⟩,
    ⟨"event_program", false, false, none, some .programAddress⟩]
  args := [("signer_set_id", .array .u8 32), ("reason_code", .u16)]

def updateRemoteDomainPolicy : InstructionSchema where
  discriminator := [16, 1]
  accounts := [
    ⟨"module_activation_state", false, false,
      some [.const moduleActivationStateSeed],
      some (.knownPda "module_activation_state")⟩,
    ⟨"chancery_config", true, false, none, some (.knownPda "chancery_config")⟩,
    ⟨"event_authority", false, false, none, some (.knownPda "event_authority")⟩,
    ⟨"remote_domain_policy", true, false, none, none⟩,
    ⟨"authority", false, true, none, none⟩,
    ⟨"authority_permission_record", false, false, none, none⟩,
    ⟨"signer_set", false, false, none, none⟩,
    ⟨"payer", false, false, none, none⟩,
    ⟨"system_program", false, false, none, some .systemProgram⟩,
    ⟨"remote_daily_usage_window", true, false, none, some .zeroAddress⟩,
    ⟨"event_program", false, false, none, some .programAddress⟩]
  args := [("remote_chain_kind", .u8), ("remote_domain_id", .u64),
    ("minimum_attestation_threshold", .option .u8), ("required_finality_depth", .option .u64),
    ("message_expiry_seconds", .option .u64), ("per_message_maximum", .option .u64),
    ("per_day_maximum", .option .u64), ("remote_domain_separator", .option (.array .u8 32)),
    ("remote_chancery_contract", .option (.array .u8 32)),
    ("remote_issued_token", .option (.array .u8 32)), ("signer_set_id", .option (.array .u8 32)),
    ("mode", .option .u8), ("remote_asset", .option (.array .u8 32))]

def updateRemoteDomainPolicyWithPendingChange : InstructionSchema where
  discriminator := [16, 8]
  accounts := [
    ⟨"module_activation_state", false, false,
      some [.const moduleActivationStateSeed],
      some (.knownPda "module_activation_state")⟩,
    ⟨"chancery_config", true, false, none, some (.knownPda "chancery_config")⟩,
    ⟨"event_authority", false, false, none, some (.knownPda "event_authority")⟩,
    ⟨"pending", true, false, none, none⟩,
    ⟨"remote_domain_policy", true, false, none, none⟩,
    ⟨"signer_set", false, false, none, none⟩,
    ⟨"updating_authority", false, true, none, none⟩,
    ⟨"governance_authority", false, true, none, none⟩,
    ⟨"authority_permission_record", false, false, none, none⟩,
    ⟨"payer", false, false, none, none⟩,
    ⟨"system_program", false, false, none, some .systemProgram⟩,
    ⟨"remote_daily_usage_window", true, false, none, some .zeroAddress⟩,
    ⟨"rent_refund_recipient", true, false, none, some .zeroAddress⟩,
    ⟨"event_program", false, false, none, some .programAddress⟩]
  args := [("remote_chain_kind", .u8), ("remote_domain_id", .u64),
    ("minimum_attestation_threshold", .option .u8), ("required_finality_depth", .option .u64),
    ("message_expiry_seconds", .option .u64), ("per_message_maximum", .option .u64),
    ("per_day_maximum", .option .u64), ("remote_domain_separator", .option (.array .u8 32)),
    ("remote_chancery_contract", .option (.array .u8 32)),
    ("remote_issued_token", .option (.array .u8 32)), ("signer_set_id", .option (.array .u8 32)),
    ("mode", .option .u8), ("remote_asset", .option (.array .u8 32))]

def relaxRemoteDomainPauseWithPendingChange : InstructionSchema where
  discriminator := [16, 9]
  accounts := [
    ⟨"module_activation_state", false, false,
      some [.const moduleActivationStateSeed],
      some (.knownPda "module_activation_state")⟩,
    ⟨"chancery_config", true, false, none, some (.knownPda "chancery_config")⟩,
    ⟨"event_authority", false, false, none, some (.knownPda "event_authority")⟩,
    ⟨"pending", true, false, none, none⟩,
    ⟨"remote_domain_policy", true, false, none, none⟩,
    ⟨"signer_set", false, false, none, none⟩,
    ⟨"relaxing_authority", false, true, none, none⟩,
    ⟨"governance_authority", false, true, none, none⟩,
    ⟨"authority_permission_record", false, false, none, none⟩,
    ⟨"rent_refund_recipient", true, false, none, some .zeroAddress⟩,
    ⟨"event_program", false, false, none, some .programAddress⟩]
  args := [("remote_chain_kind", .u8), ("remote_domain_id", .u64), ("pause_bits_to_clear", .u64),
    ("reason_code", .u32)]

end Chancery.Schema.Instruction

namespace Chancery

open Schema.Instruction in
/-- `CHANCERY_SCHEMA.instructions`. -/
def instructionSchemas : List (String × InstructionSchema) :=
  [("accept_authority_transfer", acceptAuthorityTransfer),
   ("initialize_chancery", initializeChancery),
   ("propose_authority_transfer", proposeAuthorityTransfer), ("register_asset", registerAsset),
   ("set_asset_mode", setAssetMode),
   ("set_asset_mode_with_pending_change", setAssetModeWithPendingChange),
   ("update_asset_config", updateAssetConfig),
   ("update_asset_config_with_pending_change", updateAssetConfigWithPendingChange),
   ("emit", emitEvent), ("upsert_permission", upsertPermission),
   ("revoke_permission", revokePermission),
   ("upsert_permission_with_pending_change", upsertPermissionWithPendingChange),
   ("register_pathway_policy", registerPathwayPolicy),
   ("update_pathway_policy", updatePathwayPolicy),
   ("update_pathway_policy_with_pending_change", updatePathwayPolicyWithPendingChange),
   ("create_settlement_intent", createSettlementIntent),
   ("cancel_settlement_intent", cancelSettlementIntent),
   ("close_expired_settlement_intent", closeExpiredSettlementIntent),
   ("mint_delegated", mintDelegated), ("mint_direct", mintDirect),
   ("mint_trilateral", mintTrilateral), ("redeem_delegated", redeemDelegated),
   ("redeem_direct", redeemDirect), ("redeem_trilateral", redeemTrilateral),
   ("register_settlement_policy", registerSettlementPolicy),
   ("register_limit_policy", registerLimitPolicy), ("update_limit_policy", updateLimitPolicy),
   ("update_limit_policy_with_pending_change", updateLimitPolicyWithPendingChange),
   ("register_evidence_policy", registerEvidencePolicy),
   ("update_evidence_policy", updateEvidencePolicy),
   ("update_evidence_policy_with_pending_change", updateEvidencePolicyWithPendingChange),
   ("register_fee_policy", registerFeePolicy), ("update_fee_policy", updateFeePolicy),
   ("update_fee_policy_with_pending_change", updateFeePolicyWithPendingChange),
   ("register_reserve_destination_with_pending", registerReserveDestinationWithPending),
   ("set_reserve_destination_status", setReserveDestinationStatus),
   ("set_reserve_destination_status_with_pending", setReserveDestinationStatusWithPending),
   ("withdraw_reserve", withdrawReserve), ("accept_config_change", acceptConfigChange),
   ("cancel_config_change", cancelConfigChange),
   ("close_expired_config_change", closeExpiredConfigChange),
   ("freeze_issued_token_account", freezeIssuedTokenAccount),
   ("initialize_module_activation_state", initializeModuleActivationState),
   ("propose_config_change", proposeConfigChange), ("set_asset_pause", setAssetPause),
   ("set_counterparty_pause", setCounterpartyPause), ("set_executor_pause", setExecutorPause),
   ("set_global_pause", setGlobalPause), ("set_module_status", setModuleStatus),
   ("set_module_status_with_pending_change", setModuleStatusWithPendingChange),
   ("set_pathway_pause", setPathwayPause), ("thaw_issued_token_account", thawIssuedTokenAccount),
   ("initialize_issued_token_control", initializeIssuedTokenControl),
   ("refresh_asset_extension_observation", refreshAssetExtensionObservation),
   ("verify_issued_token_deployment", verifyIssuedTokenDeployment),
   ("refresh_issued_token_extension_observation", refreshIssuedTokenExtensionObservation),
   ("consume_inbound_message", consumeInboundMessage),
   ("emit_outbound_message", emitOutboundMessage), ("expire_inbound_message", expireInboundMessage),
   ("reclaim_expired_outbound", reclaimExpiredOutbound),
   ("relax_remote_domain_pause", relaxRemoteDomainPause),
   ("register_cross_chain_signer_set", registerCrossChainSignerSet),
   ("register_remote_domain_policy", registerRemoteDomainPolicy),
   ("restrict_remote_domain_pause", restrictRemoteDomainPause),
   ("rotate_cross_chain_signer_set", rotateCrossChainSignerSet),
   ("update_remote_domain_policy", updateRemoteDomainPolicy),
   ("update_remote_domain_policy_with_pending_change", updateRemoteDomainPolicyWithPendingChange),
   ("relax_remote_domain_pause_with_pending_change", relaxRemoteDomainPauseWithPendingChange)]

end Chancery
