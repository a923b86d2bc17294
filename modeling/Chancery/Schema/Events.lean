import Chancery.Schema

/-!
# Event schemas

The `events` section of `typescript/chancery.schema.json`, in the order of the file.
-/

set_option autoImplicit false

namespace Chancery.Schema.Event

def assetRegistered : EventSchema where
  discriminator := [252, 56, 47, 89, 8, 180, 249, 254]
  fields := [("sequence_nonce", .u64), ("chancery", .pubkey), ("slot", .u64),
    ("unix_timestamp", .i64), ("risk_class", .u8), ("asset_config", .pubkey),
    ("asset_mint", .pubkey), ("asset_token_program", .pubkey), ("mode", .u8),
    ("is_issued_token_mint", .bool), ("registered_by", .pubkey)]

def assetConfigUpdated : EventSchema where
  discriminator := [12, 97, 64, 94, 123, 177, 111, 10]
  fields := [("sequence_nonce", .u64), ("chancery", .pubkey), ("slot", .u64),
    ("unix_timestamp", .i64), ("risk_class", .u8), ("change_id", .array .u8 32),
    ("asset_config", .pubkey), ("old_value_hash", .array .u8 32), ("new_value_hash", .array .u8 32),
    ("proposed_by", .pubkey), ("updated_by", .pubkey)]

def assetModeChanged : EventSchema where
  discriminator := [65, 246, 160, 35, 150, 165, 116, 252]
  fields := [("sequence_nonce", .u64), ("chancery", .pubkey), ("slot", .u64),
    ("unix_timestamp", .i64), ("risk_class", .u8), ("change_id", .array .u8 32),
    ("asset_config", .pubkey), ("old_mode", .u8), ("new_mode", .u8), ("proposed_by", .pubkey),
    ("updated_by", .pubkey)]

def assetExtensionRefreshed : EventSchema where
  discriminator := [120, 68, 221, 88, 88, 17, 192, 244]
  fields := [("sequence_nonce", .u64), ("chancery", .pubkey), ("slot", .u64),
    ("unix_timestamp", .i64), ("risk_class", .u8), ("asset_config", .pubkey),
    ("asset_mint", .pubkey), ("old_observed_extension_mask", .array .u64 2),
    ("new_observed_extension_mask", .array .u64 2), ("refreshed_by", .pubkey)]

def authorityTransferProposed : EventSchema where
  discriminator := [103, 244, 27, 116, 177, 4, 100, 119]
  fields := [("sequence_nonce", .u64), ("chancery", .pubkey), ("slot", .u64),
    ("unix_timestamp", .i64), ("role_kind", .u8), ("old_authority", .pubkey),
    ("new_authority", .pubkey), ("executable_after_slot", .u64)]

def authorityTransferAccepted : EventSchema where
  discriminator := [149, 165, 140, 221, 104, 203, 239, 121]
  fields := [("sequence_nonce", .u64), ("chancery", .pubkey), ("slot", .u64),
    ("unix_timestamp", .i64), ("role_kind", .u8), ("old_authority", .pubkey),
    ("new_authority", .pubkey)]

def authorityTransferCancelled : EventSchema where
  discriminator := [31, 228, 187, 148, 20, 99, 237, 48]
  fields := [("sequence_nonce", .u64), ("chancery", .pubkey), ("slot", .u64),
    ("unix_timestamp", .i64), ("role_kind", .u8), ("cancelled_authority", .pubkey),
    ("proposed_at_slot", .u64)]

def chanceryInitialized : EventSchema where
  discriminator := [69, 139, 68, 223, 251, 54, 166, 230]
  fields := [("sequence_nonce", .u64), ("chancery", .pubkey), ("slot", .u64),
    ("unix_timestamp", .i64), ("governance_authority", .pubkey), ("operations_authority", .pubkey),
    ("emergency_authority", .pubkey), ("enforcement_authority", .pubkey),
    ("insurance_admin_authority", .pubkey), ("issued_token_mint", .pubkey),
    ("issued_token_program", .pubkey), ("secondary_token_mint", .pubkey),
    ("secondary_token_program", .pubkey), ("mint_authority_pda", .pubkey),
    ("freeze_authority_pda", .pubkey), ("domain_separator", .array .u8 32)]

def moduleActivationStateInitialized : EventSchema where
  discriminator := [241, 55, 169, 207, 125, 204, 148, 77]
  fields := [("sequence_nonce", .u64), ("chancery", .pubkey), ("slot", .u64),
    ("unix_timestamp", .i64), ("initialized_by", .pubkey), ("default_statuses", .vector .u8)]

def configChangeProposed : EventSchema where
  discriminator := [57, 212, 96, 3, 9, 29, 225, 198]
  fields := [("sequence_nonce", .u64), ("chancery", .pubkey), ("slot", .u64),
    ("unix_timestamp", .i64), ("risk_class", .u8), ("change_id", .array .u8 32),
    ("change_kind", .u16), ("target_account", .pubkey), ("old_value_hash", .array .u8 32),
    ("new_value_hash", .array .u8 32), ("proposed_by", .pubkey), ("proposer_nonce", .u64),
    ("executable_after_unix_timestamp", .i64), ("expires_at_unix_timestamp", .i64)]

def configChangeAccepted : EventSchema where
  discriminator := [69, 193, 27, 25, 180, 61, 135, 19]
  fields := [("sequence_nonce", .u64), ("chancery", .pubkey), ("slot", .u64),
    ("unix_timestamp", .i64), ("risk_class", .u8), ("change_id", .array .u8 32),
    ("accepted_by", .pubkey)]

def configChangeCancelled : EventSchema where
  discriminator := [66, 48, 129, 141, 104, 33, 113, 2]
  fields := [("sequence_nonce", .u64), ("chancery", .pubkey), ("slot", .u64),
    ("unix_timestamp", .i64), ("risk_class", .u8), ("change_id", .array .u8 32),
    ("cancelled_by", .pubkey)]

def configChangeExpired : EventSchema where
  discriminator := [74, 52, 21, 241, 1, 245, 178, 170]
  fields := [("sequence_nonce", .u64), ("chancery", .pubkey), ("slot", .u64),
    ("unix_timestamp", .i64), ("risk_class", .u8), ("change_id", .array .u8 32),
    ("expires_at_unix_timestamp", .i64), ("rent_refund_recipient", .pubkey)]

def remoteDomainPolicyRegistered : EventSchema where
  discriminator := [61, 208, 235, 135, 221, 181, 222, 255]
  fields := [("sequence_nonce", .u64), ("chancery", .pubkey), ("slot", .u64),
    ("unix_timestamp", .i64), ("risk_class", .u8), ("remote_domain_policy", .pubkey),
    ("remote_chain_kind", .u8), ("remote_domain_id", .u64), ("mode", .u8), ("pause_bits", .u64),
    ("signer_set_id", .array .u8 32), ("registered_by", .pubkey)]

def remoteDomainPolicyUpdated : EventSchema where
  discriminator := [70, 33, 0, 213, 50, 191, 83, 101]
  fields := [("sequence_nonce", .u64), ("chancery", .pubkey), ("slot", .u64),
    ("unix_timestamp", .i64), ("risk_class", .u8), ("change_id", .array .u8 32),
    ("remote_domain_policy", .pubkey), ("remote_chain_kind", .u8), ("remote_domain_id", .u64),
    ("signer_set_id", .array .u8 32), ("old_value_hash", .array .u8 32),
    ("new_value_hash", .array .u8 32), ("change_mask", .u64), ("proposed_by", .pubkey),
    ("updated_by", .pubkey)]

def remoteDomainPauseRelaxed : EventSchema where
  discriminator := [88, 234, 116, 210, 192, 12, 117, 122]
  fields := [("sequence_nonce", .u64), ("chancery", .pubkey), ("slot", .u64),
    ("unix_timestamp", .i64), ("risk_class", .u8), ("change_id", .array .u8 32),
    ("remote_domain_policy", .pubkey), ("old_pause_bits", .u64), ("new_pause_bits", .u64),
    ("reason_code", .u32), ("old_value_hash", .array .u8 32), ("new_value_hash", .array .u8 32),
    ("proposed_by", .pubkey), ("relaxed_by", .pubkey)]

def crossChainSignerSetRegistered : EventSchema where
  discriminator := [126, 32, 84, 198, 76, 100, 232, 78]
  fields := [("sequence_nonce", .u64), ("chancery", .pubkey), ("slot", .u64),
    ("unix_timestamp", .i64), ("risk_class", .u8), ("change_id", .array .u8 32),
    ("cross_chain_signer_set", .pubkey), ("signer_set_id", .array .u8 32),
    ("signer_root", .array .u8 32), ("signer_count", .u8), ("threshold", .u8),
    ("valid_after_unix_timestamp", .i64), ("expires_at_unix_timestamp", .i64),
    ("old_value_hash", .array .u8 32), ("new_value_hash", .array .u8 32), ("proposed_by", .pubkey),
    ("registered_by", .pubkey)]

def crossChainSignerSetRotated : EventSchema where
  discriminator := [32, 51, 94, 2, 196, 96, 232, 215]
  fields := [("sequence_nonce", .u64), ("chancery", .pubkey), ("slot", .u64),
    ("unix_timestamp", .i64), ("cross_chain_signer_set", .pubkey), ("signer_set_id", .array .u8 32),
    ("reason_code", .u16), ("rotated_by", .pubkey)]

def crossChainOutboundEmitted : EventSchema where
  discriminator := [243, 219, 108, 45, 191, 172, 254, 82]
  fields := [("sequence_nonce", .u64), ("chancery", .pubkey), ("slot", .u64),
    ("unix_timestamp", .i64), ("message_hash", .array .u8 32), ("canon_version", .u16),
    ("message_kind", .u8), ("source_chain_kind", .u8), ("destination_chain_kind", .u8),
    ("source_domain_id", .u64), ("destination_domain_id", .u64), ("source_nonce", .u64),
    ("amount", .u128), ("expires_at_unix_timestamp", .i64),
    ("source_chancery_contract", .array .u8 32), ("destination_chancery_contract", .array .u8 32),
    ("source_domain_separator", .array .u8 32), ("destination_domain_separator", .array .u8 32),
    ("source_asset", .array .u8 32), ("destination_asset", .array .u8 32),
    ("source_issued_token", .array .u8 32), ("destination_issued_token", .array .u8 32),
    ("sender", .array .u8 32), ("recipient", .array .u8 32), ("signer_set_id", .array .u8 32),
    ("pathway_id", .array .u8 32), ("burned_by", .pubkey), ("gross_amount", .u128),
    ("fee_output_amount", .u128), ("rebate_amount", .u128), ("fee_policy_id", .array .u8 32)]

def crossChainInboundConsumed : EventSchema where
  discriminator := [21, 199, 194, 205, 28, 199, 190, 238]
  fields := [("sequence_nonce", .u64), ("chancery", .pubkey), ("slot", .u64),
    ("unix_timestamp", .i64), ("message_hash", .array .u8 32), ("canon_version", .u16),
    ("message_kind", .u8), ("source_chain_kind", .u8), ("destination_chain_kind", .u8),
    ("source_domain_id", .u64), ("destination_domain_id", .u64), ("source_nonce", .u64),
    ("amount", .u128), ("expires_at_unix_timestamp", .i64),
    ("source_chancery_contract", .array .u8 32), ("destination_chancery_contract", .array .u8 32),
    ("source_domain_separator", .array .u8 32), ("destination_domain_separator", .array .u8 32),
    ("source_asset", .array .u8 32), ("destination_asset", .array .u8 32),
    ("source_issued_token", .array .u8 32), ("destination_issued_token", .array .u8 32),
    ("sender", .array .u8 32), ("recipient", .array .u8 32), ("signer_set_id", .array .u8 32),
    ("pathway_id", .array .u8 32), ("recipient_token_account", .pubkey), ("consumed_by", .pubkey),
    ("attestation_count", .u8)]

def crossChainInboundExpired : EventSchema where
  discriminator := [83, 81, 102, 71, 45, 76, 59, 172]
  fields := [("sequence_nonce", .u64), ("chancery", .pubkey), ("slot", .u64),
    ("unix_timestamp", .i64), ("message_hash", .array .u8 32),
    ("epoch_free_content_hash", .array .u8 32), ("canon_version", .u16), ("message_kind", .u8),
    ("source_chain_kind", .u8), ("destination_chain_kind", .u8), ("source_domain_id", .u64),
    ("destination_domain_id", .u64), ("source_nonce", .u64), ("amount", .u128),
    ("expires_at_unix_timestamp", .i64), ("source_chancery_contract", .array .u8 32),
    ("destination_chancery_contract", .array .u8 32), ("source_domain_separator", .array .u8 32),
    ("destination_domain_separator", .array .u8 32), ("source_asset", .array .u8 32),
    ("destination_asset", .array .u8 32), ("source_issued_token", .array .u8 32),
    ("destination_issued_token", .array .u8 32), ("sender", .array .u8 32),
    ("recipient", .array .u8 32), ("signer_set_id", .array .u8 32), ("pathway_id", .array .u8 32),
    ("retirement_reason", .u8), ("attestation_count", .u8)]

def crossChainOutboundReclaimed : EventSchema where
  discriminator := [200, 29, 165, 139, 104, 166, 193, 50]
  fields := [("sequence_nonce", .u64), ("chancery", .pubkey), ("slot", .u64),
    ("unix_timestamp", .i64), ("epoch_free_content_hash", .array .u8 32),
    ("reclaim_digest", .array .u8 32), ("canon_version", .u16), ("message_kind", .u8),
    ("source_chain_kind", .u8), ("destination_chain_kind", .u8), ("source_domain_id", .u64),
    ("destination_domain_id", .u64), ("source_nonce", .u64), ("amount", .u128),
    ("expires_at_unix_timestamp", .i64), ("retirement_reason", .u8),
    ("expired_at_unix_timestamp", .i64), ("expired_at_slot_or_block", .u64),
    ("source_chancery_contract", .array .u8 32), ("destination_chancery_contract", .array .u8 32),
    ("source_domain_separator", .array .u8 32), ("destination_domain_separator", .array .u8 32),
    ("source_asset", .array .u8 32), ("destination_asset", .array .u8 32),
    ("source_issued_token", .array .u8 32), ("destination_issued_token", .array .u8 32),
    ("sender", .array .u8 32), ("recipient", .array .u8 32), ("signer_set_id", .array .u8 32),
    ("pathway_id", .array .u8 32), ("reclaim_record", .pubkey), ("sender_token_account", .pubkey),
    ("attestation_count", .u8)]

def evidencePolicyRegistered : EventSchema where
  discriminator := [243, 63, 93, 76, 214, 45, 81, 45]
  fields := [("sequence_nonce", .u64), ("chancery", .pubkey), ("slot", .u64),
    ("unix_timestamp", .i64), ("risk_class", .u8), ("evidence_policy", .pubkey),
    ("registered_by", .pubkey)]

def evidencePolicyUpdated : EventSchema where
  discriminator := [220, 242, 167, 19, 152, 190, 119, 91]
  fields := [("sequence_nonce", .u64), ("chancery", .pubkey), ("slot", .u64),
    ("unix_timestamp", .i64), ("risk_class", .u8), ("change_id", .array .u8 32),
    ("evidence_policy", .pubkey), ("old_value_hash", .array .u8 32),
    ("new_value_hash", .array .u8 32), ("proposed_by", .pubkey), ("updated_by", .pubkey)]

def feePolicyRegistered : EventSchema where
  discriminator := [218, 97, 22, 241, 210, 108, 143, 191]
  fields := [("sequence_nonce", .u64), ("chancery", .pubkey), ("slot", .u64),
    ("unix_timestamp", .i64), ("risk_class", .u8), ("fee_policy", .pubkey),
    ("registered_by", .pubkey)]

def feePolicyUpdated : EventSchema where
  discriminator := [98, 89, 107, 189, 161, 89, 231, 243]
  fields := [("sequence_nonce", .u64), ("chancery", .pubkey), ("slot", .u64),
    ("unix_timestamp", .i64), ("risk_class", .u8), ("change_id", .array .u8 32),
    ("fee_policy", .pubkey), ("old_value_hash", .array .u8 32), ("new_value_hash", .array .u8 32),
    ("proposed_by", .pubkey), ("updated_by", .pubkey)]

def issuedTokenControlInitialized : EventSchema where
  discriminator := [149, 181, 131, 155, 94, 12, 52, 140]
  fields := [("sequence_nonce", .u64), ("chancery", .pubkey), ("slot", .u64),
    ("unix_timestamp", .i64), ("risk_class", .u8), ("issued_token_control", .pubkey),
    ("reserved_mint_extension_mask", .array .u64 2),
    ("reserved_account_extension_mask", .array .u64 2),
    ("max_extension_observation_age_slots", .u64), ("initialized_by", .pubkey)]

def issuedTokenDeploymentVerified : EventSchema where
  discriminator := [115, 170, 19, 125, 61, 41, 228, 37]
  fields := [("sequence_nonce", .u64), ("chancery", .pubkey), ("slot", .u64),
    ("unix_timestamp", .i64), ("risk_class", .u8), ("issued_token_control", .pubkey),
    ("observed_extension_mask", .array .u64 2), ("control_flags", .u64), ("verified_by", .pubkey)]

def issuedTokenControlChange : EventSchema where
  discriminator := [178, 169, 214, 97, 201, 220, 54, 13]
  fields := [("sequence_nonce", .u64), ("chancery", .pubkey), ("slot", .u64),
    ("unix_timestamp", .i64), ("issued_token_extension_mask", .array .u64 2),
    ("collateral_extension_mask", .array .u64 2), ("issued_token_module_mask", .array .u64 2),
    ("collateral_module_mask", .array .u64 2), ("hook_program_id", .pubkey),
    ("permanent_delegate", .pubkey), ("metadata_address", .pubkey), ("token_control_flags", .u64),
    ("issued_token_mint", .pubkey), ("configured_by", .pubkey), ("change_kind", .u64)]

def basicTokenFreeze : EventSchema where
  discriminator := [215, 13, 35, 175, 105, 156, 78, 202]
  fields := [("sequence_nonce", .u64), ("chancery", .pubkey), ("slot", .u64),
    ("unix_timestamp", .i64), ("risk_class", .u8), ("basic_freeze_record", .pubkey),
    ("issued_token_account", .pubkey), ("issued_token_mint", .pubkey), ("frozen_by", .pubkey),
    ("reason_code", .u32), ("status_flags", .u64), ("freeze_flags", .u64)]

def basicTokenThaw : EventSchema where
  discriminator := [104, 71, 193, 140, 108, 247, 30, 125]
  fields := [("sequence_nonce", .u64), ("chancery", .pubkey), ("slot", .u64),
    ("unix_timestamp", .i64), ("risk_class", .u8), ("basic_freeze_record", .pubkey),
    ("issued_token_account", .pubkey), ("issued_token_mint", .pubkey), ("thawed_by", .pubkey),
    ("reason_code", .u32), ("status_flags", .u64), ("thaw_flags", .u64)]

def issuedTokenExtensionObservationRefreshed : EventSchema where
  discriminator := [237, 242, 47, 38, 81, 207, 244, 147]
  fields := [("sequence_nonce", .u64), ("chancery", .pubkey), ("slot", .u64),
    ("unix_timestamp", .i64), ("risk_class", .u8), ("issued_token_control", .pubkey),
    ("observed_extension_mask", .array .u64 2), ("control_flags", .u64),
    ("verification_succeeded", .bool), ("regression_error_code", .u32), ("refreshed_by", .pubkey)]

def limitPolicyRegistered : EventSchema where
  discriminator := [239, 229, 193, 113, 209, 234, 7, 245]
  fields := [("sequence_nonce", .u64), ("chancery", .pubkey), ("slot", .u64),
    ("unix_timestamp", .i64), ("risk_class", .u8), ("limit_policy", .pubkey),
    ("registered_by", .pubkey)]

def usageWindowInitialized : EventSchema where
  discriminator := [253, 117, 176, 12, 212, 44, 27, 248]
  fields := [("sequence_nonce", .u64), ("chancery", .pubkey), ("slot", .u64),
    ("unix_timestamp", .i64), ("risk_class", .u8), ("usage_window", .pubkey),
    ("scope_hash", .array .u8 32), ("window_kind", .u8), ("window_start_unix_timestamp", .i64),
    ("rent_refund_recipient", .pubkey), ("created_by", .pubkey)]

def usageWindowRolled : EventSchema where
  discriminator := [175, 151, 129, 201, 3, 184, 200, 19]
  fields := [("sequence_nonce", .u64), ("chancery", .pubkey), ("slot", .u64),
    ("unix_timestamp", .i64), ("usage_window", .pubkey), ("scope_hash", .array .u8 32),
    ("window_kind", .u8), ("previous_window_start_unix_timestamp", .i64),
    ("new_window_start_unix_timestamp", .i64), ("final_gross_in", .u128),
    ("final_gross_output_amount", .u128), ("final_net_flow", .i128), ("final_action_count", .u32)]

def limitPolicyUpdated : EventSchema where
  discriminator := [138, 234, 221, 201, 143, 245, 242, 4]
  fields := [("sequence_nonce", .u64), ("chancery", .pubkey), ("slot", .u64),
    ("unix_timestamp", .i64), ("risk_class", .u8), ("change_id", .array .u8 32),
    ("limit_policy", .pubkey), ("old_value_hash", .array .u8 32), ("new_value_hash", .array .u8 32),
    ("proposed_by", .pubkey), ("updated_by", .pubkey)]

def moduleStatusChanged : EventSchema where
  discriminator := [96, 124, 77, 188, 118, 192, 211, 191]
  fields := [("sequence_nonce", .u64), ("chancery", .pubkey), ("slot", .u64),
    ("unix_timestamp", .i64), ("risk_class", .u8), ("module_id", .u8), ("old_status", .u8),
    ("new_status", .u8), ("changed_by", .pubkey), ("change_id", .array .u8 32)]

def pathwayPolicyRegistered : EventSchema where
  discriminator := [188, 106, 236, 72, 16, 138, 180, 59]
  fields := [("sequence_nonce", .u64), ("chancery", .pubkey), ("slot", .u64),
    ("unix_timestamp", .i64), ("risk_class", .u8), ("pathway_policy", .pubkey),
    ("pathway_id", .array .u8 32), ("registered_by", .pubkey)]

def pathwayPolicyUpdated : EventSchema where
  discriminator := [217, 238, 207, 5, 3, 16, 155, 185]
  fields := [("sequence_nonce", .u64), ("chancery", .pubkey), ("slot", .u64),
    ("unix_timestamp", .i64), ("risk_class", .u8), ("change_id", .array .u8 32),
    ("pathway_policy", .pubkey), ("old_value_hash", .array .u8 32),
    ("new_value_hash", .array .u8 32), ("proposed_by", .pubkey), ("updated_by", .pubkey)]

def pathwayStatusChanged : EventSchema where
  discriminator := [79, 240, 29, 11, 151, 102, 102, 8]
  fields := [("sequence_nonce", .u64), ("chancery", .pubkey), ("slot", .u64),
    ("unix_timestamp", .i64), ("risk_class", .u8), ("pathway_policy", .pubkey), ("old_status", .u8),
    ("new_status", .u8), ("changed_by", .pubkey), ("change_id", .array .u8 32)]

def pauseStateChange : EventSchema where
  discriminator := [163, 114, 45, 90, 110, 217, 74, 240]
  fields := [("sequence_nonce", .u64), ("chancery", .pubkey), ("slot", .u64),
    ("unix_timestamp", .i64), ("previous_pause_bits", .u64), ("changed_pause_bits", .u64),
    ("effective_pause_bits", .u64), ("is_clear", .bool), ("expires_at_slot", .u64),
    ("reason_code", .u32), ("acting_authority", .pubkey), ("activated_by", .pubkey),
    ("scope_kind", .u8), ("scope_key", .pubkey), ("subject", .pubkey)]

def permissionUpserted : EventSchema where
  discriminator := [176, 212, 110, 75, 186, 255, 121, 82]
  fields := [("sequence_nonce", .u64), ("chancery", .pubkey), ("slot", .u64),
    ("unix_timestamp", .i64), ("risk_class", .u8), ("permission_record", .pubkey),
    ("subject", .pubkey), ("scope_kind", .u8), ("scope_key", .pubkey), ("role_bits", .array .u64 2),
    ("permission_flags", .u64), ("expiry_unix_timestamp", .i64), ("granted_by", .pubkey),
    ("modified_by", .pubkey), ("change_id", .array .u8 32), ("old_value_hash", .array .u8 32),
    ("new_value_hash", .array .u8 32), ("change_mask", .u64), ("approved_by", .pubkey)]

def permissionRevoked : EventSchema where
  discriminator := [190, 222, 94, 140, 253, 138, 31, 172]
  fields := [("sequence_nonce", .u64), ("chancery", .pubkey), ("slot", .u64),
    ("unix_timestamp", .i64), ("risk_class", .u8), ("permission_record", .pubkey),
    ("subject", .pubkey), ("scope_kind", .u8), ("scope_key", .pubkey), ("revoked_by", .pubkey)]

def reserveDestinationRegistered : EventSchema where
  discriminator := [81, 109, 1, 83, 154, 44, 154, 101]
  fields := [("sequence_nonce", .u64), ("chancery", .pubkey), ("slot", .u64),
    ("unix_timestamp", .i64), ("risk_class", .u8), ("change_id", .array .u8 32),
    ("reserve_destination", .pubkey), ("destination_token", .pubkey), ("purpose_flag", .u64),
    ("registered_by", .pubkey), ("withdrawal_limit_policy_id", .array .u8 32)]

def reserveDestinationStatusChanged : EventSchema where
  discriminator := [202, 164, 192, 77, 134, 174, 172, 184]
  fields := [("sequence_nonce", .u64), ("chancery", .pubkey), ("slot", .u64),
    ("unix_timestamp", .i64), ("risk_class", .u8), ("reserve_destination", .pubkey),
    ("old_status", .u8), ("new_status", .u8), ("approved_by", .pubkey),
    ("change_id", .array .u8 32)]

def reserveWithdrawal : EventSchema where
  discriminator := [33, 234, 153, 99, 56, 19, 63, 214]
  fields := [("sequence_nonce", .u64), ("chancery", .pubkey), ("slot", .u64),
    ("unix_timestamp", .i64), ("asset_mint", .pubkey), ("destination_token_account", .pubkey),
    ("amount", .u64), ("initiated_by", .pubkey), ("actual_destination_amount", .u64)]

def settlementPolicyRegistered : EventSchema where
  discriminator := [77, 63, 142, 137, 162, 102, 253, 250]
  fields := [("sequence_nonce", .u64), ("chancery", .pubkey), ("slot", .u64),
    ("unix_timestamp", .i64), ("risk_class", .u8), ("settlement_policy", .pubkey),
    ("policy_id", .array .u8 32), ("registered_by", .pubkey)]

def settlementIntentCreated : EventSchema where
  discriminator := [134, 252, 95, 72, 170, 26, 178, 210]
  fields := [("sequence_nonce", .u64), ("chancery", .pubkey), ("slot", .u64),
    ("unix_timestamp", .i64), ("risk_class", .u8), ("settlement_intent", .pubkey),
    ("intent_id", .array .u8 32), ("pathway_id", .array .u8 32), ("pathway_policy", .pubkey),
    ("settlement_mode", .u8), ("settlement_action", .u8), ("principal_a", .pubkey),
    ("principal_b", .pubkey), ("executor", .pubkey), ("asset_mint", .pubkey),
    ("issued_token_mint", .pubkey), ("asset_amount", .u64), ("issued_token_amount", .u64),
    ("minimum_asset_amount", .u64), ("minimum_issued_token_amount", .u64), ("nonce", .u64),
    ("valid_after_unix_timestamp", .i64), ("expires_at_unix_timestamp", .i64),
    ("policy_id", .array .u8 32), ("intent_hash", .array .u8 32), ("created_by", .pubkey)]

def settlementIntentExpired : EventSchema where
  discriminator := [7, 134, 34, 178, 227, 33, 208, 200]
  fields := [("sequence_nonce", .u64), ("chancery", .pubkey), ("slot", .u64),
    ("unix_timestamp", .i64), ("settlement_intent", .pubkey), ("intent_id", .array .u8 32),
    ("pathway_id", .array .u8 32), ("settlement_mode", .u8), ("settlement_action", .u8),
    ("principal_a", .pubkey), ("principal_b", .pubkey), ("executor", .pubkey),
    ("asset_mint", .pubkey), ("issued_token_mint", .pubkey), ("asset_amount", .u64),
    ("issued_token_amount", .u64), ("minimum_asset_amount", .u64),
    ("minimum_issued_token_amount", .u64), ("nonce", .u64), ("valid_after_unix_timestamp", .i64),
    ("expires_at_unix_timestamp", .i64), ("policy_id", .array .u8 32),
    ("intent_hash", .array .u8 32), ("rent_refund_recipient", .pubkey)]

def settlementIntentCancelled : EventSchema where
  discriminator := [83, 174, 138, 228, 168, 175, 101, 158]
  fields := [("sequence_nonce", .u64), ("chancery", .pubkey), ("slot", .u64),
    ("unix_timestamp", .i64), ("settlement_intent", .pubkey), ("intent_id", .array .u8 32),
    ("pathway_id", .array .u8 32), ("settlement_mode", .u8), ("settlement_action", .u8),
    ("principal_a", .pubkey), ("principal_b", .pubkey), ("executor", .pubkey),
    ("asset_mint", .pubkey), ("issued_token_mint", .pubkey), ("asset_amount", .u64),
    ("issued_token_amount", .u64), ("minimum_asset_amount", .u64),
    ("minimum_issued_token_amount", .u64), ("nonce", .u64), ("valid_after_unix_timestamp", .i64),
    ("expires_at_unix_timestamp", .i64), ("policy_id", .array .u8 32),
    ("intent_hash", .array .u8 32), ("cancelled_by", .pubkey), ("rent_refund_recipient", .pubkey)]

def settlementMint : EventSchema where
  discriminator := [247, 174, 181, 10, 246, 247, 137, 45]
  fields := [("sequence_nonce", .u64), ("chancery", .pubkey), ("slot", .u64),
    ("unix_timestamp", .i64), ("pathway_id", .array .u8 32), ("settlement_mode", .u8),
    ("intent_id", .array .u8 32), ("settlement_policy_id", .array .u8 32),
    ("limit_policy_id", .array .u8 32), ("evidence_policy_id", .array .u8 32),
    ("fee_policy_id", .array .u8 32), ("insurance_policy_id", .array .u8 32),
    ("principal_a", .pubkey), ("principal_b", .pubkey), ("executor", .pubkey),
    ("asset_mint", .pubkey), ("issued_token_mint", .pubkey), ("asset_token_program", .pubkey),
    ("issued_token_program", .pubkey), ("source_account", .pubkey),
    ("destination_account", .pubkey), ("fee_recipient_owner", .pubkey),
    ("fee_recipient_token_account", .pubkey), ("reserve_compartment_id", .array .u8 32),
    ("gross_amount_in", .u64), ("gross_amount_out", .u64), ("fee_output_amount", .u64),
    ("rebate_amount", .u64), ("net_output_amount", .u64), ("status_flags", .u64),
    ("reason_code", .u32), ("actual_asset_amount_in", .u64)]

def settlementRedeem : EventSchema where
  discriminator := [146, 88, 3, 220, 199, 30, 109, 16]
  fields := [("sequence_nonce", .u64), ("chancery", .pubkey), ("slot", .u64),
    ("unix_timestamp", .i64), ("pathway_id", .array .u8 32), ("settlement_mode", .u8),
    ("intent_id", .array .u8 32), ("settlement_policy_id", .array .u8 32),
    ("limit_policy_id", .array .u8 32), ("evidence_policy_id", .array .u8 32),
    ("fee_policy_id", .array .u8 32), ("insurance_policy_id", .array .u8 32),
    ("principal_a", .pubkey), ("principal_b", .pubkey), ("executor", .pubkey),
    ("asset_mint", .pubkey), ("issued_token_mint", .pubkey), ("asset_token_program", .pubkey),
    ("issued_token_program", .pubkey), ("source_account", .pubkey),
    ("destination_account", .pubkey), ("fee_recipient_owner", .pubkey),
    ("fee_recipient_token_account", .pubkey), ("reserve_compartment_id", .array .u8 32),
    ("gross_amount_in", .u64), ("gross_amount_out", .u64), ("fee_output_amount", .u64),
    ("rebate_amount", .u64), ("net_output_amount", .u64), ("status_flags", .u64),
    ("reason_code", .u32), ("actual_fee_recipient_amount", .u64)]

end Chancery.Schema.Event

namespace Chancery

open Schema.Event in
/-- `CHANCERY_SCHEMA.events`. -/
def eventSchemas : List (String × EventSchema) :=
  [("AssetRegistered", assetRegistered), ("AssetConfigUpdated", assetConfigUpdated),
   ("AssetModeChanged", assetModeChanged), ("AssetExtensionRefreshed", assetExtensionRefreshed),
   ("AuthorityTransferProposed", authorityTransferProposed),
   ("AuthorityTransferAccepted", authorityTransferAccepted),
   ("AuthorityTransferCancelled", authorityTransferCancelled),
   ("ChanceryInitialized", chanceryInitialized),
   ("ModuleActivationStateInitialized", moduleActivationStateInitialized),
   ("ConfigChangeProposed", configChangeProposed), ("ConfigChangeAccepted", configChangeAccepted),
   ("ConfigChangeCancelled", configChangeCancelled), ("ConfigChangeExpired", configChangeExpired),
   ("RemoteDomainPolicyRegistered", remoteDomainPolicyRegistered),
   ("RemoteDomainPolicyUpdated", remoteDomainPolicyUpdated),
   ("RemoteDomainPauseRelaxed", remoteDomainPauseRelaxed),
   ("CrossChainSignerSetRegistered", crossChainSignerSetRegistered),
   ("CrossChainSignerSetRotated", crossChainSignerSetRotated),
   ("CrossChainOutboundEmitted", crossChainOutboundEmitted),
   ("CrossChainInboundConsumed", crossChainInboundConsumed),
   ("CrossChainInboundExpired", crossChainInboundExpired),
   ("CrossChainOutboundReclaimed", crossChainOutboundReclaimed),
   ("EvidencePolicyRegistered", evidencePolicyRegistered),
   ("EvidencePolicyUpdated", evidencePolicyUpdated), ("FeePolicyRegistered", feePolicyRegistered),
   ("FeePolicyUpdated", feePolicyUpdated),
   ("IssuedTokenControlInitialized", issuedTokenControlInitialized),
   ("IssuedTokenDeploymentVerified", issuedTokenDeploymentVerified),
   ("IssuedTokenControlChange", issuedTokenControlChange), ("BasicTokenFreeze", basicTokenFreeze),
   ("BasicTokenThaw", basicTokenThaw),
   ("IssuedTokenExtensionObservationRefreshed", issuedTokenExtensionObservationRefreshed),
   ("LimitPolicyRegistered", limitPolicyRegistered),
   ("UsageWindowInitialized", usageWindowInitialized), ("UsageWindowRolled", usageWindowRolled),
   ("LimitPolicyUpdated", limitPolicyUpdated), ("ModuleStatusChanged", moduleStatusChanged),
   ("PathwayPolicyRegistered", pathwayPolicyRegistered),
   ("PathwayPolicyUpdated", pathwayPolicyUpdated), ("PathwayStatusChanged", pathwayStatusChanged),
   ("PauseStateChange", pauseStateChange), ("PermissionUpserted", permissionUpserted),
   ("PermissionRevoked", permissionRevoked),
   ("ReserveDestinationRegistered", reserveDestinationRegistered),
   ("ReserveDestinationStatusChanged", reserveDestinationStatusChanged),
   ("ReserveWithdrawal", reserveWithdrawal),
   ("SettlementPolicyRegistered", settlementPolicyRegistered),
   ("SettlementIntentCreated", settlementIntentCreated),
   ("SettlementIntentExpired", settlementIntentExpired),
   ("SettlementIntentCancelled", settlementIntentCancelled), ("SettlementMint", settlementMint),
   ("SettlementRedeem", settlementRedeem)]

end Chancery
