import Chancery.DecodedValues

/-!
# Canonical addresses of accounts

Model of the `derive…Address` functions of `typescript/src/client/ChanceryProtocol.ts` with the
name and the seeds they report, and of `deriveCanonicalPda` in `client/ChanceryDiscovery.ts`: the
address that an account's own fields say it should have.

* `Named.deriveNamedProgramAddress` and the addresses built on it.
* `deriveCanonicalPda` — by the account's name.
* `bytesToHex_injective` — a hexadecimal text names one byte string.
* `deriveCanonicalPda_language` — both languages derive the same address for an account.
-/

set_option autoImplicit false

namespace Chancery

/-! ## Hexadecimal texts -/

/-- A hexadecimal digit. -/
def hexCharacter (n : Nat) : Char :=
  if n < 10 then Char.ofNat ('0'.toNat + n) else Char.ofNat ('a'.toNat + (n - 10))

/-- The digits of bytes, two each. -/
def hexCharacters (bytes : Bytes) : List Char :=
  bytes.flatMap fun byte => [hexCharacter (byte.toNat / 16), hexCharacter (byte.toNat % 16)]

/-- Bytes in hexadecimal. -/
def bytesToHex (bytes : Bytes) : String := String.ofList (hexCharacters bytes)

theorem hexByte_hexCharacter (byte : UInt8) :
    hexByte (hexCharacter (byte.toNat / 16)) (hexCharacter (byte.toNat % 16)) = some byte := by
  have htable : ∀ n < 256, hexByte (hexCharacter (n / 16)) (hexCharacter (n % 16)) =
      some (UInt8.ofNat n) := by decide +kernel
  rw [htable byte.toNat byte.toNat_lt, UInt8.ofNat_toNat]

theorem hexPairs_hexCharacters : ∀ bytes : Bytes, hexPairs (hexCharacters bytes) = some bytes
  | [] => rfl
  | byte :: bytes => by
    show hexPairs (hexCharacter (byte.toNat / 16) :: hexCharacter (byte.toNat % 16) ::
      hexCharacters bytes) = _
    rw [hexPairs, hexByte_hexCharacter, hexPairs_hexCharacters bytes]
    rfl

theorem bytesToHex_injective : Function.Injective bytesToHex := by
  intro a b h
  have hcharacters : hexCharacters a = hexCharacters b := String.ofList_injective h
  have ha := hexPairs_hexCharacters a
  rw [hcharacters, hexPairs_hexCharacters b] at ha
  exact (Option.some.inj ha).symm

/-- A 32-byte field in hexadecimal. -/
def bytes32Hex (value : Option Value) (label : String) : Except String String := do
  let bytes ← requireBytes value label 32
  return "0x" ++ bytesToHex bytes

/-! ## Named addresses -/

/-- A derived address with its seeds. -/
structure NamedProgramAddress where
  name : String
  address : PublicKey
  bump : Nat
  seeds : List String

/-- A seed of eight bytes. -/
def unsigned64BigEndian (value : Int) (label : String) : Except String Bytes :=
  if value < 0 ∨ 2 ^ 64 - 1 < value then .error s!"{label} must be an unsigned 64-bit integer"
  else .ok (LittleEndian.toBytes 8 value.toNat).reverse

/-- A seed of one byte. -/
def byteSeed (value : Int) : Bytes := [UInt8.ofNat value.toNat]

namespace Named

variable (client : ChanceryClient)

/-- An address of the deployed program. -/
def deriveNamedProgramAddress (name : String) (seeds : List Bytes) :
    Except String NamedProgramAddress := do
  let result ← Chancery.deriveNamedProgramAddress client seeds
  return ⟨name, result.address, result.bump, seeds.map fun seed => "0x" ++ bytesToHex seed⟩

/-- The configuration of an asset. -/
def deriveAssetConfigAddress (assetMint : PublicKey) : Except String NamedProgramAddress :=
  deriveNamedProgramAddress client "asset_config" [textSeed "asset-config", assetMint.bytes]

def deriveAssetPauseStateAddress (assetMint : PublicKey) : Except String NamedProgramAddress :=
  deriveNamedProgramAddress client "asset_pause_state" [textSeed "asset-pause", assetMint.bytes]

/-- The address of an account that is named by a 32-byte identifier. -/
def deriveIdentifiedAddress (name seedText label : String) (identifier : Bytes) :
    Except String NamedProgramAddress := do
  let bytes ← bytes32FromInput client.language (.bytes identifier) label
  deriveNamedProgramAddress client name [textSeed seedText, bytes]

/-- The pathway policy of an identifier. -/
def derivePathwayPolicyAddress :=
  deriveIdentifiedAddress client "pathway_policy" "pathway-policy" "pathway id"
def deriveFeePolicyAddress :=
  deriveIdentifiedAddress client "fee_policy" "fee-policy" "fee policy id"
def deriveLimitPolicyAddress :=
  deriveIdentifiedAddress client "limit_policy" "limit-policy" "limit policy id"
def deriveEvidencePolicyAddress :=
  deriveIdentifiedAddress client "evidence_policy" "evidence-policy" "evidence policy id"
def deriveSettlementPolicyAddress :=
  deriveIdentifiedAddress client "settlement_policy" "settlement-policy" "settlement policy id"
def deriveSettlementIntentAddress :=
  deriveIdentifiedAddress client "settlement_intent" "settlement-intent" "intent id"
def deriveCrossChainSignerSetAddress :=
  deriveIdentifiedAddress client "cross_chain_signer_set" "cross-chain-signer-set" "signer set id"
def derivePendingConfigChangeAddress :=
  deriveIdentifiedAddress client "pending_config_change" "pending-config-change" "change id"

/-- The permission record of a subject in a scope. -/
def derivePermissionRecordAddress (subject : PublicKey) (scopeKind : Int) (scopeKey : PublicKey) :
    Except String NamedProgramAddress := do
  assertByte scopeKind "permission scope kind"
  deriveNamedProgramAddress client "permission_record"
    [textSeed "permission", subject.bytes, byteSeed scopeKind, scopeKey.bytes]

/-- The usage window of a scope hash. -/
def deriveUsageWindowAddress (scopeHash : Bytes) (windowKind : Int) :
    Except String NamedProgramAddress := do
  if scopeHash.length ≠ 32 then .error "Usage-window scope hash must contain 32 bytes" else do
  assertByte windowKind "window kind"
  deriveNamedProgramAddress client "usage_window"
    [textSeed "usage-window", scopeHash, byteSeed windowKind]

/-- The transfer of an authority role. -/
def deriveAuthorityTransferAddress (roleKind : Int) : Except String NamedProgramAddress := do
  assertByte roleKind "authority role kind"
  deriveNamedProgramAddress client "authority_transfer"
    [textSeed "authority-transfer", byteSeed roleKind]

/-- The freeze record of a token account. -/
def deriveBasicFreezeRecordAddress (issuedTokenAccount : PublicKey) :
    Except String NamedProgramAddress :=
  deriveNamedProgramAddress client "basic_freeze_record"
    [textSeed "basic-freeze-record", issuedTokenAccount.bytes]

/-- The reclaim record of an outbound nonce. -/
def deriveOutboundReclaimRecordAddress (remoteChainKind remoteDomainId sourceNonce : Int) :
    Except String NamedProgramAddress := do
  assertByte remoteChainKind "remote chain kind"
  let domain ← unsigned64BigEndian remoteDomainId "remote domain id"
  let nonce ← unsigned64BigEndian sourceNonce "source nonce"
  deriveNamedProgramAddress client "outbound_reclaim_record"
    [textSeed "outbound-reclaim", byteSeed remoteChainKind, domain, nonce]

/-- The policy of a remote domain. -/
def deriveRemoteDomainPolicyAddress (remoteChainKind remoteDomainId : Int) :
    Except String NamedProgramAddress := do
  assertByte remoteChainKind "remote chain kind"
  let domain ← unsigned64BigEndian remoteDomainId "remote domain id"
  deriveNamedProgramAddress client "remote_domain_policy"
    [textSeed "remote-domain-policy", byteSeed remoteChainKind, domain]

/-- The nonce of a remote domain in a scope. -/
def deriveRemoteNonceAddress (remoteChainKind remoteDomainId : Int) (scopeKey : Bytes) :
    Except String NamedProgramAddress := do
  assertByte remoteChainKind "remote chain kind"
  let domain ← unsigned64BigEndian remoteDomainId "remote domain id"
  let scope ← bytes32FromInput client.language (.bytes scopeKey) "remote nonce scope key"
  deriveNamedProgramAddress client "remote_nonce"
    [textSeed "remote-nonce", byteSeed remoteChainKind, domain, scope]

/-- A reserve destination of an asset. -/
def deriveReserveDestinationAddress (assetMint destinationTokenAccount : PublicKey) :
    Except String NamedProgramAddress :=
  deriveNamedProgramAddress client "reserve_destination"
    [textSeed "reserve-destination", assetMint.bytes, destinationTokenAccount.bytes]

/-- An address derived from one text alone. -/
def deriveSingletonAddress (name seedText : String) : Except String NamedProgramAddress :=
  deriveNamedProgramAddress client name [textSeed seedText]

end Named

/-! ## By the account's name -/

/-- The accounts of which there is one. -/
def singletonForAccount : String → Option (String × String)
  | "ModuleActivationState" => some ("module_activation_state", "module-activation-state")
  | "ChanceryConfig" => some ("chancery_config", "chancery-config")
  | "PauseState" => some ("pause_state", "pause-state")
  | "IssuedTokenControl" => some ("issued_token_control", "issued-token-control")
  | _ => none

section

variable (client : ChanceryClient)

/-- The address that one public key of an account names. -/
def deriveByPublicKey (derive : PublicKey → Except String NamedProgramAddress)
    (values : StructValues) (fieldName : String) : Except String (Option NamedProgramAddress) := do
  let key ← requirePublicKeyField values fieldName
  let derived ← derive key
  return some derived

/-- The address that one identifier of an account names. -/
def deriveByIdentifier (derive : Bytes → Except String NamedProgramAddress)
    (values : StructValues) (fieldName label : String) :
    Except String (Option NamedProgramAddress) := do
  let identifier ← requireBytes (values.lookup fieldName) label 32
  let derived ← derive identifier
  return some derived

/-- The address that an account's values derive. -/
def deriveCanonicalPda (accountName : String) (values : StructValues) :
    Except String (Option NamedProgramAddress) :=
  match accountName with
  | "AuthorityTransfer" => do
    let roleKind ← requireNumberField client.language values "role_kind"
    let derived ← Named.deriveAuthorityTransferAddress client roleKind
    return some derived
  | "AssetConfig" =>
    deriveByPublicKey (Named.deriveAssetConfigAddress client) values "asset_mint"
  | "AssetPauseState" =>
    deriveByPublicKey (Named.deriveAssetPauseStateAddress client) values "asset_mint"
  | "BasicFreezeRecord" =>
    deriveByPublicKey (Named.deriveBasicFreezeRecordAddress client) values "issued_token_account"
  | "CrossChainSignerSet" =>
    deriveByIdentifier (Named.deriveCrossChainSignerSetAddress client) values "signer_set_id"
      "signer set id"
  | "PathwayPolicy" =>
    deriveByIdentifier (Named.derivePathwayPolicyAddress client) values "pathway_id" "pathway id"
  | "PermissionRecord" => do
    let subject ← requirePublicKeyField values "subject"
    let scopeKind ← requireNumberField client.language values "scope_kind"
    let scopeKey ← requirePublicKeyField values "scope_key"
    let derived ← Named.derivePermissionRecordAddress client subject scopeKind scopeKey
    return some derived
  | "FeePolicy" =>
    deriveByIdentifier (Named.deriveFeePolicyAddress client) values "fee_policy_id" "fee policy id"
  | "LimitPolicy" =>
    deriveByIdentifier (Named.deriveLimitPolicyAddress client) values "limit_policy_id"
      "limit policy id"
  | "EvidencePolicy" =>
    deriveByIdentifier (Named.deriveEvidencePolicyAddress client) values "evidence_policy_id"
      "evidence policy id"
  | "OutboundReclaimRecord" => do
    let remoteChainKind ← requireNumberField client.language values "remote_chain_kind"
    let remoteDomainId ← requireBigIntField client.language values "remote_domain_id"
    let sourceNonce ← requireBigIntField client.language values "source_nonce"
    let derived ←
      Named.deriveOutboundReclaimRecordAddress client remoteChainKind remoteDomainId sourceNonce
    return some derived
  | "PendingConfigChange" =>
    deriveByIdentifier (Named.derivePendingConfigChangeAddress client) values "change_id" "change id"
  | "RemoteDomainPolicy" => do
    let remoteChainKind ← requireNumberField client.language values "remote_chain_kind"
    let remoteDomainId ← requireBigIntField client.language values "remote_domain_id"
    let derived ← Named.deriveRemoteDomainPolicyAddress client remoteChainKind remoteDomainId
    return some derived
  | "ReserveDestination" => do
    let assetMint ← requirePublicKeyField values "asset_mint"
    let destinationTokenAccount ← requirePublicKeyField values "destination_token_account"
    let derived ← Named.deriveReserveDestinationAddress client assetMint destinationTokenAccount
    return some derived
  | "UsageWindow" => do
    let scopeHash ← requireBytes (values.lookup "scope_hash") "scope hash" 32
    let windowKind ← requireNumberField client.language values "window_kind"
    let derived ← Named.deriveUsageWindowAddress client scopeHash windowKind
    return some derived
  | "SettlementIntent" =>
    deriveByIdentifier (Named.deriveSettlementIntentAddress client) values "intent_id" "intent id"
  | "SettlementPolicy" =>
    deriveByIdentifier (Named.deriveSettlementPolicyAddress client) values "policy_id"
      "settlement policy id"
  | _ =>
    match singletonForAccount accountName with
    | none => .ok none
    | some (name, seedText) => do
      let derived ← Named.deriveSingletonAddress client name seedText
      return some derived

end

/-! ## Both languages -/

/-- The client in another language. -/
def ChanceryClient.withLanguage (client : ChanceryClient) (L : Language) : ChanceryClient :=
  { client with language := L }

section

variable {client : ChanceryClient} {accountName fieldName : String} {original : StructValues}

theorem bytes32FromInput_bytes {b : Bytes} (h : b.length = 32) (L : Language) (label : String) :
    bytes32FromInput L (.bytes b) label = .ok b := by
  cases L <;> simp [bytes32FromInput, h]

theorem deriveIdentifiedAddress_language (client : ChanceryClient) (L : Language)
    (name seedText label : String) {identifier : Bytes} (h : identifier.length = 32) :
    Named.deriveIdentifiedAddress (client.withLanguage L) name seedText label identifier =
      Named.deriveIdentifiedAddress client name seedText label identifier := by
  unfold Named.deriveIdentifiedAddress
  rw [Except.bind_of_ok (bytes32FromInput_bytes h _ label),
    Except.bind_of_ok (bytes32FromInput_bytes h _ label)]
  rfl

theorem deriveByPublicKey_language (h : DecodedAs .typescript accountName original)
    (htype : fieldType accountName fieldName = some (.primitive .pubkey)) (L : Language)
    {derive derive' : PublicKey → Except String NamedProgramAddress}
    (hderive : ∀ key, derive key = derive' key) :
    deriveByPublicKey derive (L.values original) fieldName =
      deriveByPublicKey derive' original fieldName := by
  obtain ⟨key, hkey⟩ := read_publicKey fieldName h htype
  have horiginal : requirePublicKeyField original fieldName = .ok key := hkey .typescript
  unfold deriveByPublicKey
  rw [Except.bind_of_ok (hkey L), Except.bind_of_ok horiginal, hderive]

theorem deriveByIdentifier_language (h : DecodedAs .typescript accountName original)
    (htype : fieldType accountName fieldName = some (.array (.primitive .u8) 32)) (L : Language)
    {derive derive' : Bytes → Except String NamedProgramAddress} (label : String)
    (hderive : ∀ identifier, identifier.length = 32 → derive identifier = derive' identifier) :
    deriveByIdentifier derive (L.values original) fieldName label =
      deriveByIdentifier derive' original fieldName label := by
  obtain ⟨identifier, hlength, hidentifier⟩ := read_bytes fieldName h htype
  have horiginal : requireBytes (original.lookup fieldName) label 32 = .ok identifier :=
    hidentifier .typescript label
  unfold deriveByIdentifier
  rw [Except.bind_of_ok (hidentifier L label), Except.bind_of_ok horiginal,
    hderive identifier hlength]

/-- A read that both languages make alike. -/
theorem bind_read {α β : Type} {x y : Except String α} {f g : α → Except String β} {a : α}
    (hx : x = .ok a) (hy : y = .ok a) (hfg : f a = g a) : x >>= f = y >>= g := by
  rw [Except.bind_of_ok hx, Except.bind_of_ok hy, hfg]

/-- **Both languages derive the same address for an account.** -/
theorem deriveCanonicalPda_language (h : DecodedAs .typescript accountName original)
    (L : Language) :
    deriveCanonicalPda (client.withLanguage L) accountName (L.values original) =
      deriveCanonicalPda (client.withLanguage .typescript) accountName original := by
  have hidentified : ∀ name seedText label identifier, identifier.length = 32 →
      Named.deriveIdentifiedAddress (client.withLanguage L) name seedText label identifier =
        Named.deriveIdentifiedAddress (client.withLanguage .typescript) name seedText label
          identifier := by
    intro name seedText label identifier hlength
    rw [deriveIdentifiedAddress_language client L _ _ _ hlength,
      deriveIdentifiedAddress_language client .typescript _ _ _ hlength]
  unfold deriveCanonicalPda
  split
  · obtain ⟨roleKind, _, hrole⟩ := read_number "role_kind" h rfl rfl
    exact bind_read (hrole L) (hrole .typescript) rfl
  · exact deriveByPublicKey_language h rfl L fun _ => rfl
  · exact deriveByPublicKey_language h rfl L fun _ => rfl
  · exact deriveByPublicKey_language h rfl L fun _ => rfl
  · exact deriveByIdentifier_language h rfl L _ (hidentified _ _ _)
  · exact deriveByIdentifier_language h rfl L _ (hidentified _ _ _)
  · obtain ⟨subject, hsubject⟩ := read_publicKey "subject" h rfl
    obtain ⟨scopeKind, _, hkind⟩ := read_number "scope_kind" h rfl rfl
    obtain ⟨scopeKey, hkey⟩ := read_publicKey "scope_key" h rfl
    refine bind_read (hsubject L) (hsubject .typescript) ?_
    refine bind_read (hkind L) (hkind .typescript) ?_
    exact bind_read (hkey L) (hkey .typescript) rfl
  · exact deriveByIdentifier_language h rfl L _ (hidentified _ _ _)
  · exact deriveByIdentifier_language h rfl L _ (hidentified _ _ _)
  · exact deriveByIdentifier_language h rfl L _ (hidentified _ _ _)
  · obtain ⟨chainKind, _, hchain⟩ := read_number "remote_chain_kind" h rfl rfl
    obtain ⟨domainId, _, hdomain⟩ := read_unsigned "remote_domain_id" h rfl
    obtain ⟨sourceNonce, _, hnonce⟩ := read_unsigned "source_nonce" h rfl
    refine bind_read (hchain L) (hchain .typescript) ?_
    refine bind_read (hdomain L) (hdomain .typescript) ?_
    exact bind_read (hnonce L) (hnonce .typescript) rfl
  · exact deriveByIdentifier_language h rfl L _ (hidentified _ _ _)
  · obtain ⟨chainKind, _, hchain⟩ := read_number "remote_chain_kind" h rfl rfl
    obtain ⟨domainId, _, hdomain⟩ := read_unsigned "remote_domain_id" h rfl
    refine bind_read (hchain L) (hchain .typescript) ?_
    exact bind_read (hdomain L) (hdomain .typescript) rfl
  · obtain ⟨assetMint, hmint⟩ := read_publicKey "asset_mint" h rfl
    obtain ⟨destination, hdestination⟩ := read_publicKey "destination_token_account" h rfl
    refine bind_read (hmint L) (hmint .typescript) ?_
    exact bind_read (hdestination L) (hdestination .typescript) rfl
  · obtain ⟨scopeHash, _, hscope⟩ := read_bytes "scope_hash" h rfl
    obtain ⟨windowKind, _, hwindow⟩ := read_number "window_kind" h rfl rfl
    refine bind_read (hscope L _) (hscope .typescript _) ?_
    exact bind_read (hwindow L) (hwindow .typescript) rfl
  · exact deriveByIdentifier_language h rfl L _ (hidentified _ _ _)
  · exact deriveByIdentifier_language h rfl L _ (hidentified _ _ _)
  · rfl

end

end Chancery
