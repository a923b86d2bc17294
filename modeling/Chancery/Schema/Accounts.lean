import Chancery.Schema

/-!
# Account schemas

The `accounts` section of `typescript/chancery.schema.json`, in the order of the file.
-/

set_option autoImplicit false

namespace Chancery.Schema.Account

def assetPauseState : AccountSchema where
  discriminator := [97, 115, 112, 97, 117, 115, 101, 0]
  size := 144
  fields := [("version", .u16), ("bump", .u8), ("_pad0", .array .u8 5), ("asset_mint", .pubkey),
    ("asset_pause_bits", .u64), ("reason_code", .u32), ("_pad1", .array .u8 4),
    ("activated_by", .pubkey), ("activated_at_slot", .u64), ("expires_at_slot", .u64),
    ("_reserved", .array .u8 32)]

def basicFreezeRecord : AccountSchema where
  discriminator := [98, 102, 114, 101, 101, 122, 101, 1]
  size := 272
  fields := [("version", .u16), ("bump", .u8), ("status", .u8), ("reason_code", .u32),
    ("issued_token_account", .pubkey), ("issued_token_mint", .pubkey),
    ("freeze_authority_pda", .pubkey), ("frozen_by", .pubkey), ("thawed_by", .pubkey),
    ("frozen_at_slot", .u64), ("thawed_at_slot", .u64), ("last_event_sequence_nonce", .u64),
    ("freeze_flags", .u64), ("thaw_flags", .u64), ("rent_refund_recipient", .pubkey),
    ("_reserved", .array .u8 24)]

def moduleActivationState : AccountSchema where
  discriminator := [109, 111, 100, 97, 99, 116, 118, 1]
  size := 128
  fields := [("version", .u16), ("bump", .u8), ("_pad0", .array .u8 5),
    ("module_statuses", .array .u8 32), ("last_updated_by", .pubkey),
    ("last_updated_at_slot", .u64), ("last_event_sequence_nonce", .u64),
    ("_reserved", .array .u8 32)]

def pauseState : AccountSchema where
  discriminator := [112, 97, 117, 115, 101, 115, 116, 0]
  size := 112
  fields := [("version", .u16), ("bump", .u8), ("_pad0", .array .u8 5), ("global_pause_bits", .u64),
    ("reason_code", .u32), ("_pad1", .array .u8 4), ("activated_by", .pubkey),
    ("activated_at_slot", .u64), ("expires_at_slot", .u64), ("_reserved", .array .u8 32)]

def pendingConfigChange : AccountSchema where
  discriminator := [112, 101, 110, 100, 99, 102, 103, 1]
  size := 296
  fields := [("version", .u16), ("bump", .u8), ("status", .u8), ("risk_class", .u8),
    ("_pad0", .array .u8 3), ("change_id", .array .u8 32), ("change_kind", .u16),
    ("_pad1", .array .u8 6), ("target_account", .pubkey), ("old_value_hash", .array .u8 32),
    ("new_value_hash", .array .u8 32), ("proposed_by", .pubkey), ("proposer_nonce", .u64),
    ("executable_after_unix_timestamp", .i64), ("expires_at_unix_timestamp", .i64),
    ("proposed_at_slot", .u64), ("accepted_at_slot", .u64), ("cancelled_at_slot", .u64),
    ("consumed_at_slot", .u64), ("last_event_sequence_nonce", .u64),
    ("rent_refund_recipient", .pubkey), ("_reserved", .array .u8 16)]

def assetConfig : AccountSchema where
  discriminator := [97, 115, 115, 116, 99, 102, 103, 0]
  size := 280
  fields := [("version", .u16), ("bump", .u8), ("decimals", .u8), ("mode", .u8),
    ("_pad0", .array .u8 3), ("asset_flags", .u64), ("asset_mint", .pubkey),
    ("asset_token_program", .pubkey), ("primary_reserve_compartment_id", .array .u8 32),
    ("approved_extension_mask", .array .u64 2), ("observed_extension_mask", .array .u64 2),
    ("deposit_rate_e9", .u64), ("redeem_rate_e9", .u64), ("minimum_deposit_amount", .u64),
    ("minimum_redeem_amount", .u64), ("maximum_single_settlement_amount", .u64),
    ("status_flags", .u64), ("forbidden_extension_mask", .array .u64 2),
    ("required_module_mask", .array .u64 2), ("extension_observed_at_slot", .u64),
    ("max_extension_observation_age_slots", .u64), ("_reserved", .array .u8 32)]

def authorityTransfer : AccountSchema where
  discriminator := [97, 117, 116, 104, 120, 102, 114, 0]
  size := 152
  fields := [("version", .u16), ("bump", .u8), ("role_kind", .u8), ("_pad0", .array .u8 4),
    ("old_authority", .pubkey), ("proposed_authority", .pubkey), ("proposed_at_slot", .u64),
    ("executable_after_slot", .u64), ("proposing_governance", .pubkey), ("expires_at_slot", .u64),
    ("_reserved", .array .u8 16)]

def chanceryConfig : AccountSchema where
  discriminator := [118, 97, 117, 108, 116, 99, 102, 103]
  size := 472
  fields := [("version", .u16), ("bump", .u8), ("_pad0", .u8), ("_pad1", .array .u8 4),
    ("status_flags", .u64), ("governance_authority", .pubkey), ("operations_authority", .pubkey),
    ("emergency_authority", .pubkey), ("enforcement_authority", .pubkey),
    ("insurance_admin_authority", .pubkey), ("issued_token_mint", .pubkey),
    ("issued_token_program", .pubkey), ("secondary_token_mint", .pubkey),
    ("secondary_token_program", .pubkey), ("mint_authority_pda", .pubkey),
    ("freeze_authority_pda", .pubkey), ("event_sequence_nonce", .u64),
    ("domain_separator", .array .u8 32), ("event_authority_bump", .u8),
    ("mint_authority_bump", .u8), ("reserve_authority_bump", .u8),
    ("authority_bump_cache_version", .u8), ("_pad_authority_bumps", .array .u8 4),
    ("total_remote_domains_registered", .u32), ("total_signer_sets_registered", .u32),
    ("allocated_permission_record_slots", .u32), ("total_reserve_destinations_registered", .u32),
    ("total_limit_policies_registered", .u32), ("total_pathway_policies_registered", .u32),
    ("_reserved", .array .u8 24)]

def crossChainSignerSet : AccountSchema where
  discriminator := [99, 99, 115, 105, 103, 115, 101, 116]
  size := 168
  fields := [("version", .u16), ("bump", .u8), ("threshold", .u8), ("signer_count", .u8),
    ("_pad0", .array .u8 3), ("valid_after_unix_timestamp", .i64),
    ("expires_at_unix_timestamp", .i64), ("status_flags", .u64), ("signer_set_id", .array .u8 32),
    ("signer_root", .array .u8 32), ("created_by", .pubkey), ("_reserved", .array .u8 32)]

def outboundReclaimRecord : AccountSchema where
  discriminator := [111, 117, 116, 114, 101, 99, 108, 109]
  size := 224
  fields := [("version", .u16), ("bump", .u8), ("message_kind", .u8), ("remote_chain_kind", .u8),
    ("retirement_reason", .u8), ("_pad0", .array .u8 2), ("remote_domain_id", .u64),
    ("source_nonce", .u64), ("amount_words", .array .u64 2), ("reclaimed_at_slot", .u64),
    ("reclaimed_at_unix_timestamp", .i64), ("epoch_free_content_hash", .array .u8 32),
    ("reclaim_digest", .array .u8 32), ("sender", .array .u8 32),
    ("attesting_signer_set_id", .array .u8 32), ("_reserved", .array .u8 32)]

def remoteDomainPolicy : AccountSchema where
  discriminator := [114, 109, 100, 109, 112, 111, 108, 121]
  size := 336
  fields := [("version", .u16), ("bump", .u8), ("remote_chain_kind", .u8),
    ("minimum_attestation_threshold", .u8), ("_pad0", .array .u8 3), ("remote_domain_id", .u64),
    ("required_finality_depth", .u64), ("message_expiry_seconds", .u64),
    ("per_message_maximum", .u64), ("per_day_maximum", .u64), ("status_flags", .u64),
    ("updated_at_slot", .u64), ("remote_domain_separator", .array .u8 32),
    ("remote_chancery_contract", .array .u8 32), ("remote_issued_token", .array .u8 32),
    ("signer_set_id", .array .u8 32), ("created_by", .pubkey), ("mode", .u8),
    ("_pad_mode", .array .u8 7), ("remote_asset", .array .u8 32), ("local_asset_mint", .pubkey),
    ("_reserved", .array .u8 32)]

def remoteNonce : AccountSchema where
  discriminator := [114, 109, 116, 110, 111, 110, 99, 101]
  size := 168
  fields := [("version", .u16), ("bump", .u8), ("_pad0", .array .u8 5), ("remote_domain_id", .u64),
    ("next_inbound_nonce", .u64), ("next_outbound_nonce", .u64), ("scope_key", .array .u8 32),
    ("last_consumed_message_hash", .array .u8 32), ("last_emitted_message_hash", .array .u8 32),
    ("_reserved", .array .u8 32)]

def evidencePolicy : AccountSchema where
  discriminator := [101, 118, 100, 112, 111, 108, 121, 0]
  size := 144
  fields := [("version", .u16), ("bump", .u8), ("allow_freeform_counterparty_fields", .u8),
    ("_pad0", .array .u8 4), ("evidence_policy_id", .array .u8 32),
    ("required_field_mask", .array .u64 2), ("counterparty_reporting_schema_hash", .array .u8 32),
    ("maximum_freeform_field_count", .u16), ("maximum_freeform_value_bytes", .u16),
    ("_pad1", .array .u8 4), ("retention_flags", .u64), ("_reserved", .array .u8 32)]

def feePolicy : AccountSchema where
  discriminator := [102, 101, 101, 112, 111, 108, 121, 0]
  size := 200
  fields := [("version", .u16), ("bump", .u8), ("fee_recipient_policy", .u8),
    ("rounding_mode", .u8), ("net_fee_floor_zero", .u8), ("_pad0", .array .u8 2),
    ("fee_policy_id", .array .u8 32), ("fee_policy_flags", .u64), ("flat_fee_in_asset", .u64),
    ("flat_fee_in_issued_token", .u64), ("percent_fee_bps", .u32), ("_pad1", .array .u8 4),
    ("fee_cap_amount", .u64), ("minimum_fee_amount", .u64), ("rebate_flat_amount", .u64),
    ("rebate_bps", .u32), ("_pad2", .array .u8 4), ("rebate_cap_amount", .u64),
    ("fee_recipient_key", .pubkey), ("effective_from_unix_timestamp", .i64),
    ("effective_until_unix_timestamp", .i64), ("_reserved", .array .u8 32)]

def issuedTokenControl : AccountSchema where
  discriminator := [105, 116, 99, 116, 114, 108, 48, 1]
  size := 656
  fields := [("version", .u16), ("bump", .u8), ("_pad0", .array .u8 5),
    ("issued_token_mint", .pubkey), ("issued_token_program", .pubkey),
    ("reserved_mint_extension_mask", .array .u64 2), ("active_mint_extension_mask", .array .u64 2),
    ("reserved_account_extension_mask", .array .u64 2),
    ("active_account_extension_mask", .array .u64 2), ("control_flags", .u64),
    ("mint_authority_pda", .pubkey), ("freeze_authority_pda", .pubkey),
    ("close_mint_authority_pda", .pubkey), ("transfer_hook_authority_pda", .pubkey),
    ("permanent_delegate_authority_pda", .pubkey), ("metadata_pointer_authority_pda", .pubkey),
    ("metadata_update_authority_pda", .pubkey), ("pause_authority_pda", .pubkey),
    ("confidential_transfer_authority_pda", .pubkey),
    ("default_account_state_authority_pda", .pubkey), ("hook_program_id", .pubkey),
    ("permanent_delegate", .pubkey), ("metadata_address", .pubkey),
    ("last_configured_at_slot", .u64), ("configured_by", .pubkey),
    ("extension_observed_at_slot", .u64), ("max_extension_observation_age_slots", .u64),
    ("_reserved", .array .u8 32)]

def limitPolicy : AccountSchema where
  discriminator := [108, 109, 116, 112, 111, 108, 121, 0]
  size := 184
  fields := [("version", .u16), ("bump", .u8), ("scope_kind", .u8), ("_pad0", .array .u8 4),
    ("limit_policy_id", .array .u8 32), ("scope_key", .pubkey), ("per_transaction_maximum", .u64),
    ("per_hour_maximum", .u64), ("per_day_maximum", .u64), ("per_seven_day_maximum", .u64),
    ("per_thirty_day_maximum", .u64), ("maximum_actions_per_hour", .u32),
    ("maximum_actions_per_day", .u32), ("_reserved_breach_flags", .array .u64 2),
    ("status_flags", .u64), ("_reserved", .array .u8 32)]

def usageWindow : AccountSchema where
  discriminator := [117, 115, 103, 119, 110, 100, 119, 0]
  size := 176
  fields := [("version", .u16), ("bump", .u8), ("window_kind", .u8), ("_pad0", .array .u8 4),
    ("scope_hash", .array .u8 32), ("window_start_unix_timestamp", .i64),
    ("gross_in", .array .u64 2), ("gross_output_amount", .array .u64 2),
    ("net_flow", .array .u64 2), ("action_count", .u32), ("_pad1", .array .u8 4),
    ("rent_refund_recipient", .pubkey), ("_reserved", .array .u8 32)]

def pathwayPolicy : AccountSchema where
  discriminator := [112, 119, 121, 112, 111, 108, 121, 0]
  size := 616
  fields := [("version", .u16), ("bump", .u8), ("pathway_kind", .u8), ("_pad0", .array .u8 4),
    ("pathway_id", .array .u8 32), ("asset_mint", .pubkey), ("issued_token_mint", .pubkey),
    ("allowed_program_mask", .array .u64 2), ("allowed_instruction_mask", .array .u64 2),
    ("designated_executor", .pubkey), ("source_account_policy", .u64),
    ("destination_account_policy", .u64), ("reserve_compartment_policy_id", .array .u8 32),
    ("limit_policy_id", .array .u8 32), ("evidence_policy_id", .array .u8 32),
    ("fee_policy_id", .array .u8 32), ("insurance_policy_id", .array .u8 32),
    ("status_flags", .u64), ("required_issued_token_module_mask", .array .u64 2),
    ("required_collateral_module_mask", .array .u64 2),
    ("forbidden_issued_token_extension_mask", .array .u64 2),
    ("forbidden_collateral_extension_mask", .array .u64 2),
    ("asset_mint_limit_policy_id", .array .u8 32), ("asset_redeem_limit_policy_id", .array .u8 32),
    ("counterparty_limit_policy_id", .array .u8 32), ("executor_limit_policy_id", .array .u8 32),
    ("_reserved", .array .u8 64)]

def permissionRecord : AccountSchema where
  discriminator := [112, 101, 114, 109, 114, 101, 99, 0]
  size := 192
  fields := [("version", .u16), ("bump", .u8), ("scope_kind", .u8), ("_pad0", .array .u8 4),
    ("subject", .pubkey), ("scope_key", .pubkey), ("role_bits", .array .u64 2),
    ("permission_flags", .u64), ("issued_at_unix_timestamp", .i64), ("expiry_unix_timestamp", .i64),
    ("granted_by", .pubkey), ("role_schema_version", .u16), ("_pad1", .array .u8 6),
    ("permission_generation", .u64), ("_reserved", .array .u8 24)]

def reserveDestination : AccountSchema where
  discriminator := [114, 115, 118, 100, 115, 116, 0, 0]
  size := 216
  fields := [("version", .u16), ("bump", .u8), ("status", .u8), ("_pad0", .array .u8 4),
    ("asset_mint", .pubkey), ("destination_token_account", .pubkey), ("destination_owner", .pubkey),
    ("destination_flags", .u64), ("approved_by", .pubkey),
    ("withdrawal_limit_policy_id", .array .u8 32), ("_reserved", .array .u8 32)]

def settlementIntent : AccountSchema where
  discriminator := [115, 116, 108, 105, 110, 116, 0, 0]
  size := 424
  fields := [("version", .u16), ("bump", .u8), ("status", .u8), ("settlement_mode", .u8),
    ("settlement_action", .u8), ("_pad0", .array .u8 2), ("intent_id", .array .u8 32),
    ("principal_a", .pubkey), ("principal_b", .pubkey), ("executor", .pubkey),
    ("asset_mint", .pubkey), ("issued_token_mint", .pubkey), ("asset_amount", .u64),
    ("issued_token_amount", .u64), ("minimum_asset_amount", .u64),
    ("minimum_issued_token_amount", .u64), ("nonce", .u64), ("valid_after_unix_timestamp", .i64),
    ("expires_at_unix_timestamp", .i64), ("policy_id", .array .u8 32),
    ("intent_hash", .array .u8 32), ("pathway_id", .array .u8 32),
    ("rent_refund_recipient", .pubkey), ("_reserved", .array .u8 32)]

def settlementPolicy : AccountSchema where
  discriminator := [115, 116, 108, 112, 111, 108, 121, 0]
  size := 288
  fields := [("version", .u16), ("bump", .u8), ("_pad0", .array .u8 5), ("policy_flags", .u64),
    ("allowed_settlement_modes", .u32), ("_pad1", .array .u8 4), ("policy_id", .array .u8 32),
    ("allowed_asset_mint", .pubkey), ("allowed_principal_a", .pubkey),
    ("allowed_principal_b", .pubkey), ("designated_executor", .pubkey), ("max_notional", .u64),
    ("min_notional", .u64), ("valid_after_unix_timestamp", .i64),
    ("expires_at_unix_timestamp", .i64), ("created_by", .pubkey), ("_reserved", .array .u8 32)]

end Chancery.Schema.Account

namespace Chancery

open Schema.Account in
/-- `CHANCERY_SCHEMA.accounts`. -/
def accountSchemas : List (String × AccountSchema) :=
  [("AssetPauseState", assetPauseState), ("BasicFreezeRecord", basicFreezeRecord),
   ("ModuleActivationState", moduleActivationState), ("PauseState", pauseState),
   ("PendingConfigChange", pendingConfigChange), ("AssetConfig", assetConfig),
   ("AuthorityTransfer", authorityTransfer), ("ChanceryConfig", chanceryConfig),
   ("CrossChainSignerSet", crossChainSignerSet), ("OutboundReclaimRecord", outboundReclaimRecord),
   ("RemoteDomainPolicy", remoteDomainPolicy), ("RemoteNonce", remoteNonce),
   ("EvidencePolicy", evidencePolicy), ("FeePolicy", feePolicy),
   ("IssuedTokenControl", issuedTokenControl), ("LimitPolicy", limitPolicy),
   ("UsageWindow", usageWindow), ("PathwayPolicy", pathwayPolicy),
   ("PermissionRecord", permissionRecord), ("ReserveDestination", reserveDestination),
   ("SettlementIntent", settlementIntent), ("SettlementPolicy", settlementPolicy)]

end Chancery
