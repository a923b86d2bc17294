import Chancery.CanonicalPda
import Chancery.DevnetExecution
import Chancery.PermissionValue

/-!
# Permission grants

Model of `integration/devnet/permissions/Grant.ts` with
`integration/devnet/instructions/ScheduleConfigChange.ts`: a permission is proposed, accepted after
its timelock and applied, by three transactions of the wallet.

* `checkGrant`, `heldPermission`, `planGrant` — from the request to what is proposed.
* `proposePermission`, `acceptPermission`, `applyPermission` — the three instructions.
* `grantPermission` — the whole exchange.
-/

set_option autoImplicit false

namespace Chancery

/-! ## Constants -/

/-- `role.ACTIVE_ROLE_MASK`. -/
def activeRoleMask : Nat := 21955873620863

/-- `role.DANGEROUS_PERMISSION_ROLE_MASK`. -/
def dangerousPermissionRoleMask : Nat := 33333444378432

/-- `role.PERMISSION_ROLE_SCHEMA_VERSION`. -/
def permissionRoleSchemaVersion : Int := 1

/-- Role 0 of the controller. -/
def governanceRole : ControllerRole := ⟨0, Nat.succ_pos 4⟩

/-- The constants that are named `scope.…`. -/
def schemaScopes : List Int := [0, 1, 2, 3, 4, 6, 7, 8, 9, 10, 11, 12]

/-! ## From the request to the plan -/

/-- A grant as callers write it. -/
structure PermissionGrant where
  subject : String
  scopeKind : Int
  scopeKey : String
  roleBits : Int
  expiryUnixTimestamp : Option Int := none

/-- A request that passed the first checks, with the record's address. -/
structure GrantTarget where
  subject : PublicKey
  scopeKey : PublicKey
  record : ProgramAddressResult

/-- What a permission record already holds. -/
structure HeldPermission where
  roles : Nat
  generation : Int
  expiry : Int

/-- What is proposed; the two hashes are of the held value and of the new one. -/
structure GrantPlan where
  target : GrantTarget
  roles : Nat
  generation : Int
  expiry : Int
  riskClass : UInt8
  oldHash : Bytes
  newHash : Bytes

section

variable (context : DevnetContext) (grant : PermissionGrant)

/-- Check of a grant, before any request. -/
def checkGrant : Except String GrantTarget := do
  let subject ← decodePublicKey grant.subject
  let scopeKey ← decodePublicKey grant.scopeKey
  rejectWhen (subject = zeroAddress) "Permission subject must be nonzero"
  rejectWhen (grant.roleBits ≤ 0 ∨ bitsOutside grant.roleBits activeRoleMask ≠ 0)
    "Permission grant contains unsupported or inactive roles"
  rejectWhen (grant.scopeKind ∉ schemaScopes)
    "Permission scope is unsupported by the reference schema"
  let record ← derivePermissionRecordAddress context.client subject grant.scopeKind.toNat scopeKey
  return ⟨subject, scopeKey, record⟩

/-- The permission that the record holds already. -/
def heldPermission (target : GrantTarget) (current : StructValues) :
    Except String HeldPermission := do
  let differs ← anyHolds [
    (do
      let subject ← requirePublicKeyField current "subject"
      return subject != target.subject),
    (do
      let scopeKey ← requirePublicKeyField current "scope_key"
      return scopeKey != target.scopeKey),
    (do
      let scopeKind ← requireNumberField .typescript current "scope_kind"
      return scopeKind != grant.scopeKind),
    (do
      let bump ← requireNumberField .typescript current "bump"
      return bump != target.record.bump)]
  rejectWhen (differs = true) "Existing permission identity differs from its canonical PDA"
  let flags ← requireBigIntField .typescript current "permission_flags"
  rejectWhen (flags ≠ 0)
    "Existing permission is paused; update its pause state before granting roles"
  let version ← requireNumberField .typescript current "role_schema_version"
  rejectWhen (version ≠ permissionRoleSchemaVersion)
    "Existing permission role schema is unsupported"
  let words ← requireBigIntArrayField .typescript current "role_bits" 2
  let roles ← wordsToUnsigned128 words
  let generation ← requireBigIntField .typescript current "permission_generation"
  let expiry ← requireBigIntField .typescript current "expiry_unix_timestamp"
  rejectWhen (grant.expiryUnixTimestamp.any fun requested => requested ≠ expiry)
    "Role grants preserve the existing permission expiry"
  return ⟨roles.toNat, generation, expiry⟩

/-- The value of a permission, as the proposal commits to it. -/
def permissionValue (target : GrantTarget) (roles : Nat) (generation expiry : Int) :
    PermissionValue where
  subject := target.subject.toBase58
  scopeKind := grant.scopeKind
  scopeKey := target.scopeKey.toBase58
  roleBits := roles
  permissionGeneration := generation
  expiryUnixTimestamp := expiry

/-- The roles that are held. -/
def heldRoles (held : Option HeldPermission) : Nat := (held.map (·.roles)).getD 0

/-- The roles after the grant. -/
def plannedRoles (held : Option HeldPermission) : Nat := heldRoles held ||| grant.roleBits.toNat

/-- The generation after the grant. -/
def plannedGeneration (held : Option HeldPermission) : Int := (held.map (·.generation)).getD 0 + 1

/-- The expiry of a permission that exists stays. -/
def plannedExpiry : Option HeldPermission → Int
  | none => grant.expiryUnixTimestamp.getD 0
  | some permission => permission.expiry

/-- The risk class that the roles ask for. -/
def permissionRiskClass (roles : Nat) : UInt8 :=
  if roles &&& dangerousPermissionRoleMask = 0 then 2 else 4

/-- Nothing is planned when the roles are held. -/
def planGrant (target : GrantTarget) (held : Option HeldPermission) (unixTimestamp : Int) :
    Except String (Option GrantPlan) := do
  let expiry := plannedExpiry grant held
  rejectWhen (expiry < 0 ∨ (expiry ≠ 0 ∧ expiry ≤ unixTimestamp))
    "Permission expiry must be zero or in the future"
  let roles := plannedRoles grant held
  if held.isSome ∧ roles = heldRoles held then return none
  else do
    rejectWhen (roles &&& dangerousPermissionRoleMask ≠ 0 ∧ (grant.scopeKind = 0 ∨ expiry = 0))
      "Dangerous roles require a scoped permission with a finite expiry"
    let _ ← controllerAuthority governanceRole
    let oldHash ← permissionValueHash target.record.address.toBase58 (permissionRiskClass roles)
      (permissionValue grant target (heldRoles held) (plannedGeneration held - 1)
        ((held.map (·.expiry)).getD 0))
    let newHash ← permissionValueHash target.record.address.toBase58 (permissionRiskClass roles)
      (permissionValue grant target roles (plannedGeneration held) expiry)
    return some {
      target := target
      roles := roles
      generation := plannedGeneration held
      expiry := expiry
      riskClass := permissionRiskClass roles
      oldHash := oldHash
      newHash := newHash }

/-! ## The three instructions -/

/-- An instruction as the executor hands it on. -/
def ChanceryInstruction.text (instruction : ChanceryInstruction) : InstructionText where
  programAddress := instruction.programAddress.toBase58
  accounts := instruction.accounts.map fun account =>
    ⟨account.address.toBase58, account.isSigner, account.isWritable⟩
  data := instruction.data

/-- The controller's schedule of a proposal. -/
def scheduleConfigChangeInstruction (caller : String) (proposal : InstructionText)
    (delaySeconds lifetimeSeconds : Int) : Except String InstructionText := do
  let wrapped ← executeChanceryInstruction caller proposal
  rejectWhen (wrapped.data[1]? ≠ some 1 ∨ proposal.data[0]? ≠ some 9 ∨ proposal.data[1]? ≠ some 7)
    "Scheduling requires a governance config-change proposal"
  rejectWhen (delaySeconds < 1 ∨ lifetimeSeconds ≤ 0)
    "Config-change delay and lifetime must be positive"
  let _ ← encodeType (.primitive .i64) (.bigint delaySeconds) "delaySeconds"
  let _ ← encodeType (.primitive .i64) (.bigint lifetimeSeconds) "lifetimeSeconds"
  let delayBytes ← encodeType (.primitive .u64) (.bigint delaySeconds) "delaySeconds"
  let lifetimeBytes ← encodeType (.primitive .u64) (.bigint lifetimeSeconds) "lifetimeSeconds"
  return { wrapped with data := [2, 1] ++ (delayBytes ++ (lifetimeBytes ++ proposal.data)) }

/-- The account inputs are normalized where the instruction is built. -/
def governanceKey : Except String PublicKey := do
  let authority ← controllerAuthority governanceRole
  decodePublicKey authority

/-- The account of the pending change. -/
def pendingConfigChange (plan : GrantPlan) (nonce : Int) : Except String PublicKey := do
  let governance ← controllerAuthority governanceRole
  let changeId ← permissionChangeId plan.target.record.address.toBase58 plan.newHash governance
    nonce
  let pending ← Named.derivePendingConfigChangeAddress context.client changeId
  return pending.address

/-- The arguments of the proposal. -/
def proposeArguments (plan : GrantPlan) (nonce : Int) : StructValues :=
  [("change_kind", .number 5), ("risk_class", .number plan.riskClass.toNat),
   ("target_account", .string plan.target.record.address.toBase58),
   ("old_value_hash", .bytes plan.oldHash), ("new_value_hash", .bytes plan.newHash),
   ("executable_after_unix_timestamp", .bigint 0), ("expires_at_unix_timestamp", .bigint 0),
   ("proposer_nonce", .bigint nonce)]

/-- The proposal of the change. -/
def proposePermission (plan : GrantPlan) (nonce : Int) (pending : PublicKey) :
    Except String InstructionText := do
  let activationState ← knownPdaAddress context.client "module_activation_state"
  let governance ← governanceKey
  let proposal ← buildChanceryInstruction context.client "propose_config_change"
    (proposeArguments plan nonce)
    [("activation_state", activationState), ("pending", pending),
     ("payer", context.signer.publicKey), ("governance_authority", governance)] true
  scheduleConfigChangeInstruction context.signer.publicKey.toBase58 proposal.text 1 3600

/-- The acceptance of the change. -/
def acceptPermission (pending : PublicKey) : Except String InstructionText := do
  let activationState ← knownPdaAddress context.client "module_activation_state"
  let governance ← governanceKey
  let accept ← buildChanceryInstruction context.client "accept_config_change" []
    [("activation_state", activationState), ("pending", pending),
     ("governance_authority", governance)] true
  executeChanceryInstruction context.signer.publicKey.toBase58 accept.text

/-- The daily usage window of the subject, in a scope of its own. -/
def dailyUsageWindow (scopeKind : Int) (subject : PublicKey) : Except String PublicKey := do
  let scopeHash ← dimensionScopeHash context.client scopeKind subject
  let window ← deriveUsageWindowAddress context.client scopeHash 1
  return window.address

/-- The arguments of the application. -/
def applyArguments (plan : GrantPlan) : StructValues :=
  [("subject", .string plan.target.subject.toBase58), ("scope_kind", .number grant.scopeKind),
   ("scope_key", .string plan.target.scopeKey.toBase58),
   ("role_bits", .array [.bigint (plan.roles &&& (2 ^ 64 - 1) : Nat),
     .bigint (plan.roles >>> 64 : Nat)]),
   ("expiry_unix_timestamp", .bigint plan.expiry)]

/-- The application of the change. -/
def applyPermission (plan : GrantPlan) (pending : PublicKey) : Except String InstructionText := do
  let governance ← governanceKey
  let counterpartyWindow ← dailyUsageWindow context Scope.counterparty plan.target.subject
  let executorWindow ← dailyUsageWindow context Scope.executor plan.target.subject
  let apply ← buildChanceryInstruction context.client "upsert_permission_with_pending_change"
    (applyArguments grant plan)
    [("pending", pending), ("permission_record", plan.target.record.address),
     ("payer", context.signer.publicKey), ("granting_authority", governance),
     ("governance_authority", governance), ("rent_refund_recipient", context.signer.publicKey),
     ("counterparty_daily_usage_window", counterpartyWindow),
     ("executor_daily_usage_window", executorWindow)] true
  executeChanceryInstruction context.signer.publicKey.toBase58 apply.text

/-! ## The exchange -/

/-- The record of a target, with the clock. -/
def readPermission (target : GrantTarget) : Transacts (Option HeldPermission × RpcClock) := do
  let current ← readChanceryAccount target.record.address "PermissionRecord"
  let clock ← readClock .confirmed
  match current with
  | none => return (none, clock)
  | some current => do
    let held ← heldPermission grant target current
    return (some held, clock)

/-- The loop that waits for the timelock, for so many rounds. -/
def awaitTimelock (pending : PublicKey) (executableAfter : Int) (deadline : Nat) :
    Nat → Transacts Unit
  | 0 => failWith .unfinished
  | rounds + 1 => do
    let clock ← readClock .confirmed
    if executableAfter ≤ clock.unixTimestamp then return ()
    else do
      let time ← now
      if deadline ≤ time then
        failWith (.message ("Permission timelock wait timed out: " ++ pending.toBase58))
      else do
        delay 500
        awaitTimelock pending executableAfter deadline rounds

/-- The proposal on the chain, and the wait for its timelock. -/
def awaitProposal (rounds : Nat) (pending : PublicKey) : Transacts Unit := do
  let proposed ← readChanceryAccount pending "PendingConfigChange"
  match proposed with
  | none => failWith (.message ("Proposed permission change is missing: " ++ pending.toBase58))
  | some proposed => do
    let status ← requireNumberField .typescript proposed "status"
    rejectWhen (status ≠ 1) ("Proposed permission change is missing: " ++ pending.toBase58)
    let executableAfter ←
      requireBigIntField .typescript proposed "executable_after_unix_timestamp"
    let expiresAt ← requireBigIntField .typescript proposed "expires_at_unix_timestamp"
    let started ← now
    awaitTimelock pending executableAfter (started + 30000) rounds
    let clock ← readClock .confirmed
    rejectWhen (expiresAt ≤ clock.unixTimestamp)
      ("Permission proposal expired: " ++ pending.toBase58)

/-- What the record holds in the end is what was asked for. -/
def checkReadBack (plan : GrantPlan) (observed : StructValues) : Except String Unit := do
  let words ← requireBigIntArrayField .typescript observed "role_bits" 2
  let roles ← wordsToUnsigned128 words
  let differs ← anyHolds [
    .ok (roles != plan.roles),
    (do
      let generation ← requireBigIntField .typescript observed "permission_generation"
      return generation != plan.generation),
    (do
      let expiry ← requireBigIntField .typescript observed "expiry_unix_timestamp"
      return expiry != plan.expiry),
    (do
      let flags ← requireBigIntField .typescript observed "permission_flags"
      return flags != 0)]
  rejectWhen (differs = true) "Permission readback differs from the requested grant"

/-- Check of the record after the grant. -/
def readBack (plan : GrantPlan) : Transacts Unit := do
  let record := plan.target.record.address
  let observed ← readChanceryAccount record "PermissionRecord"
  match observed with
  | none => failWith (.message ("Granted permission is missing: " ++ record.toBase58))
  | some observed => do
    checkReadBack plan observed

/-- The last two transactions, and the check of what they came to. -/
def completeGrant (rounds : Nat) (plan : GrantPlan) (pending : PublicKey) : Transacts Unit := do
  let accept ← acceptPermission context pending
  let _ ← submitInstructions context rounds "permission-accept" [accept]
  let apply ← applyPermission context grant plan pending
  let _ ← submitInstructions context rounds "permission-grant" [apply]
  readBack plan

/-- The three stages of a grant. -/
def executeGrant (rounds : Nat) (plan : GrantPlan) : Transacts Unit := do
  let nonceBytes ← request (.randomBytes 8) .ok
  let nonce : Int := LittleEndian.ofBytes nonceBytes.val
  let pending ← pendingConfigChange context plan nonce
  let propose ← proposePermission context plan nonce pending
  let _ ← submitInstructions context rounds "permission-propose" [propose]
  awaitProposal rounds pending
  completeGrant context grant rounds plan pending

/-- A grant; nothing is sent when the record already holds it. -/
def grantPermission (rounds : Nat) : Transacts String := do
  let target ← checkGrant context grant
  let (held, clock) ← readPermission grant target
  let plan ← planGrant grant target held clock.unixTimestamp
  match plan with
  | none => return target.record.address.toBase58
  | some plan => do
    executeGrant context grant rounds plan
    return target.record.address.toBase58

end

/-! ## What was read -/

/-- The clock was read in the run. -/
def ClockRead (events : List TransactionEvent) (clock : RpcClock) : Prop :=
  ∃ account, ⟨.read (.getAccountInfo clockSysvarAddress .confirmed), .ok account⟩ ∈ events ∧
    parseClock account = .ok clock

section

variable {events events' : List TransactionEvent}

theorem ClockRead.mono {clock : RpcClock} (h : ClockRead events clock) (hsub : events ⊆ events') :
    ClockRead events' clock := by
  obtain ⟨account, hmem, hrest⟩ := h
  exact ⟨account, hsub hmem, hrest⟩

theorem readClock_read {clock : RpcClock}
    (h : (readClock .confirmed).Exchanges events (.ok clock)) : ClockRead events clock := by
  obtain ⟨answer, account, later, rfl : answer = _, rfl, hclock⟩ := exchanges_request_ok.1 h
  refine ⟨account, List.mem_cons_self, ?_⟩
  cases hparse : parseClock account with
  | error e =>
    rw [hparse] at hclock
    cases (Interaction.exchanges_done.1 hclock).2
  | ok parsed =>
    rw [hparse] at hclock
    cases (Interaction.exchanges_done.1 hclock).2
    rfl

end

/-! ## The plan -/

section

variable {context : DevnetContext} {grant : PermissionGrant} {target : GrantTarget}
  {held : Option HeldPermission} {unixTimestamp : Int} {plan : GrantPlan}

/-- How the planned permission comes from the held one: roles are only added, a held expiry is
kept, and dangerous roles need a scope and an expiry that is still to come. -/
structure Extends (grant : PermissionGrant) (held : Option HeldPermission) (unixTimestamp : Int)
    (plan : GrantPlan) : Prop where
  roles : plan.roles = heldRoles held ||| grant.roleBits.toNat
  generation : plan.generation = (held.map (·.generation)).getD 0 + 1
  expiry : plan.expiry = plannedExpiry grant held
  future : plan.expiry = 0 ∨ (0 ≤ plan.expiry ∧ unixTimestamp < plan.expiry)
  more : held.isSome = true → plan.roles ≠ heldRoles held
  dangerous : plan.roles &&& dangerousPermissionRoleMask ≠ 0 →
    grant.scopeKind ≠ 0 ∧ unixTimestamp < plan.expiry
  newHash : permissionValueHash plan.target.record.address.toBase58 plan.riskClass
    (permissionValue grant plan.target plan.roles plan.generation plan.expiry) = .ok plan.newHash

theorem planGrant_some (h : planGrant grant target held unixTimestamp = .ok (some plan)) :
    plan.target = target ∧ Extends grant held unixTimestamp plan := by
  obtain ⟨_, hfuture, hplans⟩ := Except.bind_eq_ok.1 h
  dsimp only at hplans
  split at hplans
  · cases hplans
  rename_i hmore
  obtain ⟨_, hdangerous, hhashes⟩ := Except.bind_eq_ok.1 hplans
  obtain ⟨_, -, hhashes⟩ := Except.bind_eq_ok.1 hhashes
  obtain ⟨oldHash, -, hhashes⟩ := Except.bind_eq_ok.1 hhashes
  obtain ⟨newHash, hnewHash, hret⟩ := Except.bind_eq_ok.1 hhashes
  cases hret
  rw [rejectWhen_ok] at hfuture hdangerous
  refine ⟨rfl, rfl, rfl, rfl, ?_, ?_, ?_, hnewHash⟩
  · show plannedExpiry grant held = 0 ∨
      (0 ≤ plannedExpiry grant held ∧ unixTimestamp < plannedExpiry grant held)
    omega
  · intro hheld hsame
    exact hmore ⟨hheld, hsame⟩
  · intro hroles
    have hguard := not_and.1 hdangerous hroles
    show grant.scopeKind ≠ 0 ∧ unixTimestamp < plannedExpiry grant held
    omega

/-- Nothing is planned only when a record holds the roles already. -/
theorem planGrant_none (h : planGrant grant target held unixTimestamp = .ok none) :
    held.isSome = true ∧ heldRoles held ||| grant.roleBits.toNat = heldRoles held := by
  obtain ⟨_, -, hplans⟩ := Except.bind_eq_ok.1 h
  dsimp only at hplans
  split at hplans
  · assumption
  · obtain ⟨_, -, hplans⟩ := Except.bind_eq_ok.1 hplans
    obtain ⟨_, -, hplans⟩ := Except.bind_eq_ok.1 hplans
    obtain ⟨_, -, hplans⟩ := Except.bind_eq_ok.1 hplans
    obtain ⟨_, -, hplans⟩ := Except.bind_eq_ok.1 hplans
    cases hplans

/-! ## What the instructions say -/

theorem buildChanceryInstruction_data {client : ChanceryClient} {instructionName : String}
    {argumentValues : StructValues} {accountInputs : InstructionAccountInputs} {verifyPdas : Bool}
    {instruction : ChanceryInstruction} (hlanguage : client.language = .typescript)
    (h : buildChanceryInstruction client instructionName argumentValues accountInputs verifyPdas =
      .ok instruction) :
    encodeChanceryInstructionData instructionName argumentValues = .ok instruction.data := by
  obtain ⟨accounts, -, hencodes⟩ := Except.bind_eq_ok.1 h
  obtain ⟨data, hdata, hret⟩ := Except.bind_eq_ok.1 hencodes
  cases hret
  rw [hlanguage] at hdata
  exact hdata

theorem executeChanceryInstruction_data {caller : PublicKey} {instruction wrapped : InstructionText}
    (h : executeChanceryInstruction caller.toBase58 instruction = .ok wrapped) :
    wrapped.data.drop 2 = instruction.data := by
  obtain ⟨roleMask, hdata, -⟩ :=
    ((executeChanceryInstruction_ok caller instruction).2 wrapped h).data
  rw [hdata]
  rfl

theorem scheduleConfigChangeInstruction_data {caller : String}
    {proposal wrapped : InstructionText} {delaySeconds lifetimeSeconds : Int}
    (h : scheduleConfigChangeInstruction caller proposal delaySeconds lifetimeSeconds =
      .ok wrapped) : wrapped.data.drop 18 = proposal.data := by
  obtain ⟨relayed, -, h⟩ := Except.bind_eq_ok.1 h
  obtain ⟨_, -, h⟩ := Except.bind_eq_ok.1 h
  obtain ⟨_, -, h⟩ := Except.bind_eq_ok.1 h
  obtain ⟨_, -, h⟩ := Except.bind_eq_ok.1 h
  obtain ⟨_, -, h⟩ := Except.bind_eq_ok.1 h
  obtain ⟨delayBytes, hdelay, h⟩ := Except.bind_eq_ok.1 h
  obtain ⟨lifetimeBytes, hlifetime, hret⟩ := Except.bind_eq_ok.1 h
  cases hret
  obtain ⟨-, -, rfl⟩ := encodeUnsignedInteger_bigint.1 hdelay
  obtain ⟨-, -, rfl⟩ := encodeUnsignedInteger_bigint.1 hlifetime
  simp [List.drop_append]

theorem canonicalInteger_narrow (width : Nat) (n : Int) (h : width ≤ 4) :
    canonicalInteger typescript width (.number n) = .number n := by
  have hvalue : typescript.integerFromValue (.number n) "" =
      if isSafeInteger n then .ok n else .error _ := rfl
  rw [canonicalInteger, hvalue]
  split
  · rename_i hread
    split at hread
    · cases hread
      exact if_pos h
    · cases hread
  · rfl

theorem canonicalInteger_wide (width : Nat) (n : Int) (h : 4 < width) :
    canonicalInteger typescript width (.bigint n) = .bigint n := if_neg (by omega)

/-- The proposal names the record and the hashes of the held and of the planned value. -/
theorem proposePermission_states {nonce : Int} {pending : PublicKey} {instruction : InstructionText}
    (h : proposePermission context plan nonce pending = .ok instruction) :
    decodeChanceryInstructionData (instruction.data.drop 18) =
      .ok ⟨"propose_config_change", proposeArguments plan nonce⟩ := by
  obtain ⟨_, -, h⟩ := Except.bind_eq_ok.1 h
  obtain ⟨_, -, h⟩ := Except.bind_eq_ok.1 h
  obtain ⟨proposal, hproposal, hschedule⟩ := Except.bind_eq_ok.1 h
  have hencodes := buildChanceryInstruction_data rfl hproposal
  obtain ⟨schema, hschema, hdecodes⟩ := decodeInstructionData_encode hencodes
  rw [scheduleConfigChangeInstruction_data hschedule]
  refine hdecodes.trans ?_
  cases hschema
  have hfield : ∀ values name, typescript.fieldValue values name =
      TypeScript.fieldValue values name := fun _ _ => rfl
  simp [canonicalStruct, canonicalType, canonicalPrimitive, Schema.Instruction.proposeConfigChange,
    proposeArguments, fieldValueOrPadding, hfield, TypeScript.fieldValue, List.lookup,
    canonicalInteger_narrow, canonicalInteger_wide]
  exact ⟨rfl, rfl, rfl⟩

/-- The application carries the planned value. -/
theorem applyPermission_states {pending : PublicKey} {instruction : InstructionText}
    (h : applyPermission context grant plan pending = .ok instruction) :
    decodeChanceryInstructionData (instruction.data.drop 2) =
      .ok ⟨"upsert_permission_with_pending_change", applyArguments grant plan⟩ := by
  obtain ⟨_, -, h⟩ := Except.bind_eq_ok.1 h
  obtain ⟨_, -, h⟩ := Except.bind_eq_ok.1 h
  obtain ⟨_, -, h⟩ := Except.bind_eq_ok.1 h
  obtain ⟨apply, happly, hexecute⟩ := Except.bind_eq_ok.1 h
  have hencodes := buildChanceryInstruction_data rfl happly
  obtain ⟨schema, hschema, hdecodes⟩ := decodeInstructionData_encode hencodes
  rw [executeChanceryInstruction_data hexecute]
  refine hdecodes.trans ?_
  cases hschema
  have hfield : ∀ values name, typescript.fieldValue values name =
      TypeScript.fieldValue values name := fun _ _ => rfl
  simp [canonicalStruct, canonicalType, canonicalPrimitive,
    Schema.Instruction.upsertPermissionWithPendingChange, applyArguments, fieldValueOrPadding,
    hfield, TypeScript.fieldValue, List.lookup, canonicalInteger_narrow, canonicalInteger_wide]
  exact ⟨rfl, rfl, rfl⟩

end

/-! ## What is permitted -/

section

variable (context : DevnetContext) (grant : PermissionGrant)

/-- The instruction of the transaction that follows so many others. -/
def grantStage (plan : GrantPlan) (nonce : Int) (pending : PublicKey) :
    Nat → Except String InstructionText
  | 0 => proposePermission context plan nonce pending
  | 1 => acceptPermission context pending
  | 2 => applyPermission context grant plan pending
  | _ => .error "No further transaction"

/-- The proposal was read, its timelock was seen to have passed, and its expiry not to have. -/
def Timelocked (events : List TransactionEvent) (pending : PublicKey) : Prop :=
  ∃ proposed executableAfter expiresAt passed current,
    AccountRead events pending "PendingConfigChange" proposed ∧
    requireNumberField .typescript proposed "status" = .ok 1 ∧
    requireBigIntField .typescript proposed "executable_after_unix_timestamp" =
      .ok executableAfter ∧
    requireBigIntField .typescript proposed "expires_at_unix_timestamp" = .ok expiresAt ∧
    ClockRead events passed ∧ executableAfter ≤ passed.unixTimestamp ∧
    ClockRead events current ∧ current.unixTimestamp < expiresAt

/-- What has to be said before the transactions of a grant are sent. -/
def GrantPermits (plan : GrantPlan) (nonce : Int) (pending : PublicKey)
    (before : List TransactionEvent) : TransactionCall → Prop
  | .sendTransaction transaction commitment skipPreflight _ =>
    commitment = .confirmed ∧ skipPreflight = false ∧
      (0 < (sentTransactions before).length → Timelocked before pending) ∧
      ∃ instruction,
        grantStage context grant plan nonce pending (sentTransactions before).length =
          .ok instruction ∧
        Submittable context [instruction] before transaction
  | _ => True

/-- The held permission is what the record's account said, if there was one. -/
def HeldOnChain (events : List TransactionEvent) (target : GrantTarget) :
    Option HeldPermission → Prop
  | none => ⟨.read (.getAccountInfo target.record.address .confirmed), .ok none⟩ ∈ events
  | some permission => ∃ current,
    AccountRead events target.record.address "PermissionRecord" current ∧
      heldPermission grant target current = .ok permission

/-- The plan of a grant, from what was read. -/
structure Planned (events : List TransactionEvent) (plan : GrantPlan) : Prop where
  target : checkGrant context grant = .ok plan.target
  extending : ∃ held clock, HeldOnChain grant events plan.target held ∧ ClockRead events clock ∧
    Extends grant held clock.unixTimestamp plan

/-- The record was read and holds what was planned, unpaused. -/
def ReadBack (events : List TransactionEvent) (plan : GrantPlan) : Prop :=
  ∃ observed words,
    AccountRead events plan.target.record.address "PermissionRecord" observed ∧
    requireBigIntArrayField .typescript observed "role_bits" 2 = .ok words ∧
    wordsToUnsigned128 words = .ok plan.roles ∧
    requireBigIntField .typescript observed "permission_generation" = .ok plan.generation ∧
    requireBigIntField .typescript observed "expiry_unix_timestamp" = .ok plan.expiry ∧
    requireBigIntField .typescript observed "permission_flags" = .ok 0

/-- Every run of a grant, whatever comes back to its requests. -/
structure GrantRun (context : DevnetContext) (grant : PermissionGrant)
    (events : List TransactionEvent) (result : Except TransactionError String) : Prop where
  atMostThree : (sentTransactions events).length ≤ 3
  staged : sentTransactions events = [] ∨ ∃ plan nonce pending,
    Planned context grant events plan ∧
      pendingConfigChange context plan nonce = .ok pending ∧
      Interaction.Guarded (GrantPermits context grant plan nonce pending) events
  granted : ∀ address, result = .ok address →
    (sentTransactions events = [] ∧ ∃ target permission,
      checkGrant context grant = .ok target ∧ address = target.record.address.toBase58 ∧
      HeldOnChain grant events target (some permission) ∧
      permission.roles ||| grant.roleBits.toNat = permission.roles) ∨
    ((sentTransactions events).length = 3 ∧ ∃ plan, Planned context grant events plan ∧
      address = plan.target.record.address.toBase58 ∧ ReadBack events plan)

end

/-! ## The steps of a run -/

section

variable {context : DevnetContext} {grant : PermissionGrant} {plan : GrantPlan} {nonce : Int}
  {pending : PublicKey} {events events' later : List TransactionEvent}

theorem grantPermits_of_quiet (before : List TransactionEvent) (call : TransactionCall)
    (h : call.isSend = false) : GrantPermits context grant plan nonce pending before call := by
  cases call with
  | sendTransaction => cases h
  | _ => exact trivial

theorem Timelocked.mono (h : Timelocked events pending) (hsub : events ⊆ events') :
    Timelocked events' pending := by
  obtain ⟨proposed, executableAfter, expiresAt, passed, current, hread, hstatus, hafter, hexpires,
    hpassed, hle, hcurrent, hlt⟩ := h
  exact ⟨proposed, executableAfter, expiresAt, passed, current, hread.mono hsub, hstatus, hafter,
    hexpires, hpassed.mono hsub, hle, hcurrent.mono hsub, hlt⟩

theorem HeldOnChain.mono {target : GrantTarget} {held : Option HeldPermission}
    (h : HeldOnChain grant events target held) (hsub : events ⊆ events') :
    HeldOnChain grant events' target held := by
  cases held with
  | none => exact hsub h
  | some permission =>
    obtain ⟨current, hread, hheld⟩ := h
    exact ⟨current, hread.mono hsub, hheld⟩

theorem Planned.mono (h : Planned context grant events plan) (hsub : events ⊆ events') :
    Planned context grant events' plan where
  target := h.target
  extending := by
    obtain ⟨held, clock, hheld, hclock, hextends⟩ := h.extending
    exact ⟨held, clock, hheld.mono hsub, hclock.mono hsub, hextends⟩

theorem ReadBack.mono (h : ReadBack events plan) (hsub : events ⊆ events') :
    ReadBack events' plan := by
  obtain ⟨observed, words, hread, hrest⟩ := h
  exact ⟨observed, words, hread.mono hsub, hrest⟩

/-- So many transactions of the grant were sent, each as it has to be. -/
structure GrantProgress (context : DevnetContext) (grant : PermissionGrant) (plan : GrantPlan)
    (nonce : Int) (pending : PublicKey) (count : Nat) (events : List TransactionEvent) : Prop where
  planned : Planned context grant events plan
  identified : pendingConfigChange context plan nonce = .ok pending
  guarded : Interaction.Guarded (GrantPermits context grant plan nonce pending) events
  sent : (sentTransactions events).length = count

theorem GrantProgress.quiet {count : Nat}
    (h : GrantProgress context grant plan nonce pending count events)
    (hlater : sentTransactions later = []) :
    GrantProgress context grant plan nonce pending count (events ++ later) where
  planned := h.planned.mono (List.subset_append_left _ _)
  identified := h.identified
  guarded := Interaction.guarded_append h.guarded
    (guarded_of_nil (fun _ _ => grantPermits_of_quiet _ _) hlater)
  sent := by rw [sentTransactions_append, hlater, List.append_nil, h.sent]

/-- Before the only transaction of an exchange none was sent. -/
theorem sentTransactions_before {before : List TransactionEvent} {event : TransactionEvent}
    (hone : (sentTransactions events).length ≤ 1) (hsend : event.1.isSend = true)
    (hinit : before ++ [event] <+: events) : sentTransactions before = [] := by
  obtain ⟨rest, rfl⟩ := hinit
  rw [sentTransactions_append, sentTransactions_append, List.length_append,
    List.length_append] at hone
  have hevent : sentTransactions [event] ≠ [] := by
    rw [ne_eq, sentTransactions_singleton_eq_nil, hsend]
    decide
  have hpos := List.length_pos_iff.2 hevent
  exact List.eq_nil_of_length_eq_zero (by omega)

/-- A submission of the next stage's instruction, in a run that has come so far. -/
theorem GrantProgress.submission {count : Nat} {instruction : InstructionText}
    {result : Except TransactionError String}
    (h : GrantProgress context grant plan nonce pending count events)
    (hinstruction : grantStage context grant plan nonce pending count = .ok instruction)
    (htimelock : 0 < count → Timelocked events pending)
    (hrun : SubmissionRun context [instruction] later result) :
    Planned context grant (events ++ later) plan ∧
      Interaction.Guarded (GrantPermits context grant plan nonce pending) (events ++ later) ∧
      (sentTransactions (events ++ later)).length ≤ count + 1 := by
  refine ⟨h.planned.mono (List.subset_append_left _ _), Interaction.guarded_append h.guarded ?_, ?_⟩
  · intro before event hinit
    have hpermits := hrun.guarded before event hinit
    obtain ⟨call, answer⟩ := event
    cases call with
    | sendTransaction transaction commitment skipPreflight maximumRetries =>
      have hnone := sentTransactions_before hrun.atMostOnce rfl hinit
      have hcount : (sentTransactions (events ++ before)).length = count := by
        rw [sentTransactions_append, hnone, List.append_nil, h.sent]
      obtain ⟨hcommitment, hpreflight, instructions, rfl, hsubmittable⟩ := hpermits
      refine ⟨hcommitment, hpreflight, ?_, instruction, ?_, hsubmittable.append events⟩
      · intro hpos
        exact (htimelock (hcount ▸ hpos)).mono (List.subset_append_left _ _)
      · rw [hcount, hinstruction]
    | _ => exact trivial
  · rw [sentTransactions_append, List.length_append, h.sent]
    exact Nat.add_le_add_left hrun.atMostOnce count

theorem GrantProgress.submitted {count : Nat} {instruction : InstructionText} {signature : String}
    (h : GrantProgress context grant plan nonce pending count events)
    (hinstruction : grantStage context grant plan nonce pending count = .ok instruction)
    (htimelock : 0 < count → Timelocked events pending)
    (hrun : SubmissionRun context [instruction] later (.ok signature)) :
    GrantProgress context grant plan nonce pending (count + 1) (events ++ later) := by
  obtain ⟨hplanned, hguarded, -⟩ := h.submission hinstruction htimelock hrun
  obtain ⟨blockhash, signed, -, hsent, -⟩ := hrun.confirmed signature rfl
  refine ⟨hplanned, h.identified, hguarded, ?_⟩
  rw [sentTransactions_append, List.length_append, h.sent, hsent]
  rfl

/-- A run that fails where it has come so far. -/
theorem GrantProgress.failed {count : Nat} (hcount : count ≤ 3)
    (h : GrantProgress context grant plan nonce pending count events) (e : TransactionError) :
    GrantRun context grant events (.error e) where
  atMostThree := h.sent.trans_le hcount
  staged := .inr ⟨plan, nonce, pending, h.planned, h.identified, h.guarded⟩
  granted := by
    intro address hresult
    cases hresult

/-- A run whose next submission fails. -/
theorem GrantProgress.submissionFailed {count : Nat} {instruction : InstructionText}
    {result : Except TransactionError String} (hcount : count < 3)
    (h : GrantProgress context grant plan nonce pending count events)
    (hinstruction : grantStage context grant plan nonce pending count = .ok instruction)
    (htimelock : 0 < count → Timelocked events pending)
    (hrun : SubmissionRun context [instruction] later result) (e : TransactionError) :
    GrantRun context grant (events ++ later) (.error e) := by
  obtain ⟨hplanned, hguarded, hsent⟩ := h.submission hinstruction htimelock hrun
  exact {
    atMostThree := by omega
    staged := .inr ⟨plan, nonce, pending, hplanned, h.identified, hguarded⟩
    granted := by
      intro address hresult
      cases hresult }

/-! ## The parts of the exchange -/

theorem quiet_readPermission {target : GrantTarget} : Quiet (readPermission grant target) := by
  apply quiet_bind (quiet_readChanceryAccount _ _)
  intro current
  apply quiet_bind (quiet_readClock _)
  intro clock
  cases current with
  | none => exact quiet_done _
  | some current => exact quiet_bind (quiet_check _) fun _ => quiet_done _

theorem readPermission_read {target : GrantTarget} {held : Option HeldPermission}
    {clock : RpcClock}
    (h : (readPermission grant target).Exchanges events (.ok (held, clock))) :
    HeldOnChain grant events target held ∧ ClockRead events clock := by
  obtain ⟨current, before, after, rfl, hcurrent, hrest⟩ := exchanges_bind_ok.1 h
  obtain ⟨read, middle, last, rfl, hclock, hrest⟩ := exchanges_bind_ok.1 hrest
  have hread := readClock_read hclock
  cases current with
  | none =>
    obtain ⟨rfl, hret⟩ := Interaction.exchanges_done.1 hrest
    cases hret
    exact ⟨List.mem_append_left _ (readChanceryAccount_missing hcurrent), hread.mono (by simp)⟩
  | some current =>
    obtain ⟨permission, hpermission, hret⟩ := exchanges_check_ok.1 hrest
    obtain ⟨rfl, hret⟩ := Interaction.exchanges_done.1 hret
    cases hret
    exact ⟨⟨current, (readChanceryAccount_read hcurrent).mono (List.subset_append_left _ _),
      hpermission⟩, hread.mono (by simp)⟩

theorem quiet_awaitTimelock {executableAfter : Int} {deadline : Nat} (rounds : Nat) :
    Quiet (awaitTimelock pending executableAfter deadline rounds) := by
  induction rounds with
  | zero => exact quiet_done _
  | succ rounds ih =>
    apply quiet_bind (quiet_readClock _)
    intro clock
    split
    · exact quiet_done _
    apply quiet_bind (quiet_request rfl)
    intro time
    split
    · exact quiet_done _
    · exact quiet_bind (quiet_request rfl) fun _ => ih

/-- The wait returns when a clock was read past the timelock. -/
theorem awaitTimelock_passed {executableAfter : Int} {deadline rounds : Nat} {result : Unit}
    (h : (awaitTimelock pending executableAfter deadline rounds).Exchanges events (.ok result)) :
    ∃ clock, ClockRead events clock ∧ executableAfter ≤ clock.unixTimestamp := by
  induction rounds generalizing events with
  | zero => cases (Interaction.exchanges_done.1 h).2
  | succ rounds ih =>
    obtain ⟨clock, before, after, rfl, hclock, hrest⟩ := exchanges_bind_ok.1 h
    split at hrest
    · rename_i hpassed
      exact ⟨clock, (readClock_read hclock).mono (List.subset_append_left _ _), hpassed⟩
    obtain ⟨_, time, later, -, rfl, htime⟩ := exchanges_request_ok.1 hrest
    split at htime
    · cases (Interaction.exchanges_done.1 htime).2
    obtain ⟨_, _, later, -, rfl, hwaits⟩ := exchanges_request_ok.1 htime
    obtain ⟨passed, hread, hpassed⟩ := ih hwaits
    refine ⟨passed, hread.mono ?_, hpassed⟩
    intro event hmem
    simp [hmem]

theorem quiet_awaitProposal (rounds : Nat) : Quiet (awaitProposal rounds pending) := by
  apply quiet_bind (quiet_readChanceryAccount _ _)
  intro proposed
  cases proposed with
  | none => exact quiet_done _
  | some proposed =>
    apply quiet_bind (quiet_check _)
    intro status
    apply quiet_bind (quiet_check _)
    intro _
    apply quiet_bind (quiet_check _)
    intro executableAfter
    apply quiet_bind (quiet_check _)
    intro expiresAt
    apply quiet_bind (quiet_request rfl)
    intro started
    apply quiet_bind (quiet_awaitTimelock _)
    intro _
    apply quiet_bind (quiet_readClock _)
    intro clock
    exact quiet_check _

theorem awaitProposal_timelocked {rounds : Nat} {result : Unit}
    (h : (awaitProposal rounds pending).Exchanges events (.ok result)) :
    Timelocked events pending := by
  obtain ⟨proposed, before, after, rfl, hproposed, hrest⟩ := exchanges_bind_ok.1 h
  cases proposed with
  | none => cases (Interaction.exchanges_done.1 hrest).2
  | some proposed =>
    obtain ⟨status, hstatus, hrest⟩ := exchanges_check_ok.1 hrest
    obtain ⟨_, hone, hrest⟩ := exchanges_check_ok.1 hrest
    obtain ⟨executableAfter, hafter, hrest⟩ := exchanges_check_ok.1 hrest
    obtain ⟨expiresAt, hexpires, hrest⟩ := exchanges_check_ok.1 hrest
    obtain ⟨_, started, later, -, rfl, hwaits⟩ := exchanges_request_ok.1 hrest
    obtain ⟨_, waited, rest, rfl, hwaited, hreads⟩ := exchanges_bind_ok.1 hwaits
    obtain ⟨current, reading, last, rfl, hcurrent, hlast⟩ := exchanges_bind_ok.1 hreads
    obtain ⟨passed, hpassed, hle⟩ := awaitTimelock_passed hwaited
    obtain ⟨-, hvalid⟩ := exchanges_check_done.1 hlast
    refine ⟨proposed, executableAfter, expiresAt, passed, current,
      (readChanceryAccount_read hproposed).mono (List.subset_append_left _ _), ?_, hafter, hexpires,
      hpassed.mono ?_, hle, (readClock_read hcurrent).mono ?_, not_le.1 (rejectWhen_ok.1 hvalid)⟩
    · rw [hstatus, not_not.1 (rejectWhen_ok.1 hone)]
    · intro event hmem
      simp [hmem]
    · intro event hmem
      simp [hmem]

theorem checkReadBack_ok {observed : StructValues}
    (h : checkReadBack plan observed = .ok ()) : ∃ words,
    requireBigIntArrayField .typescript observed "role_bits" 2 = .ok words ∧
    wordsToUnsigned128 words = .ok plan.roles ∧
    requireBigIntField .typescript observed "permission_generation" = .ok plan.generation ∧
    requireBigIntField .typescript observed "expiry_unix_timestamp" = .ok plan.expiry ∧
    requireBigIntField .typescript observed "permission_flags" = .ok 0 := by
  obtain ⟨words, hwords, h⟩ := Except.bind_eq_ok.1 h
  obtain ⟨roles, hroles, h⟩ := Except.bind_eq_ok.1 h
  obtain ⟨differs, hdiffers, hsame⟩ := Except.bind_eq_ok.1 h
  obtain rfl : differs = false := by simpa using rejectWhen_ok.1 hsame
  have hall := anyHolds_false hdiffers
  have hfield : ∀ {n : Int} {fieldName : String}, (do
      let m ← requireBigIntField .typescript observed fieldName
      return m != n) = Except.ok false → requireBigIntField .typescript observed fieldName =
        .ok n := by
    intro n fieldName hread
    obtain ⟨m, hm, hret⟩ := Except.bind_eq_ok.1 hread
    have hequal : m = n := by simpa using Except.ok.inj hret
    rw [hm, hequal]
  have hequal : roles = plan.roles := by
    simpa using Except.ok.inj (hall (.ok (roles != (plan.roles : Int))) (by simp))
  exact ⟨words, hwords, hequal ▸ hroles, hfield (hall _ (by simp)), hfield (hall _ (by simp)),
    hfield (hall _ (by simp))⟩

theorem quiet_readBack : Quiet (readBack plan) := by
  apply quiet_bind (quiet_readChanceryAccount _ _)
  intro observed
  cases observed with
  | none => exact quiet_done _
  | some observed => exact quiet_check _

theorem readBack_read {result : Unit} (h : (readBack plan).Exchanges events (.ok result)) :
    ReadBack events plan := by
  obtain ⟨observed, before, after, rfl, hobserved, hrest⟩ := exchanges_bind_ok.1 h
  cases observed with
  | none => cases (Interaction.exchanges_done.1 hrest).2
  | some observed =>
    obtain ⟨words, hwords⟩ := checkReadBack_ok (exchanges_check_done.1 hrest).2
    exact ⟨observed, words,
      (readChanceryAccount_read hobserved).mono (List.subset_append_left _ _), hwords⟩

/-! ## The whole exchange -/

/-- From the second transaction on. -/
theorem completeGrant_exchange {rounds : Nat} {result : Except TransactionError Unit}
    (h : GrantProgress context grant plan nonce pending 1 events)
    (htimelock : Timelocked events pending)
    (hrun : (completeGrant context grant rounds plan pending).Exchanges later result) :
    (∃ e, result = .error e ∧ GrantRun context grant (events ++ later) (.error e)) ∨
      (result = .ok () ∧ GrantProgress context grant plan nonce pending 3 (events ++ later) ∧
        ReadBack (events ++ later) plan) := by
  rcases exchanges_check.1 hrun with ⟨e, -, rfl, rfl⟩ | ⟨accept, haccept, hsubmits⟩
  · rw [List.append_nil]
    exact .inl ⟨_, rfl, h.failed (by omega) _⟩
  rcases Interaction.exchanges_bind.1 hsubmits with
    ⟨e, he, rfl⟩ | ⟨_, accepting, rest, rfl, haccepted, happlies⟩
  · exact .inl ⟨e, rfl, h.submissionFailed (by omega) haccept (fun _ => htimelock)
      (submitInstructions_exchange he) e⟩
  have haccepted := h.submitted haccept (fun _ => htimelock) (submitInstructions_exchange haccepted)
  rw [← List.append_assoc]
  have htimelock := htimelock.mono (List.subset_append_left events accepting)
  generalize events ++ accepting = events at haccepted htimelock ⊢
  rcases exchanges_check.1 happlies with ⟨e, -, rfl, rfl⟩ | ⟨apply, happly, hsubmits⟩
  · rw [List.append_nil]
    exact .inl ⟨_, rfl, haccepted.failed (by omega) _⟩
  rcases Interaction.exchanges_bind.1 hsubmits with
    ⟨e, he, rfl⟩ | ⟨_, applying, rest, rfl, happlied, hreads⟩
  · exact .inl ⟨e, rfl, haccepted.submissionFailed (by omega) happly (fun _ => htimelock)
      (submitInstructions_exchange he) e⟩
  have happlied := haccepted.submitted happly (fun _ => htimelock)
    (submitInstructions_exchange happlied)
  rw [← List.append_assoc]
  have hdone := happlied.quiet (quiet_readBack _ _ hreads)
  cases result with
  | error e => exact .inl ⟨e, rfl, hdone.failed le_rfl e⟩
  | ok _ => exact .inr ⟨rfl, hdone, (readBack_read hreads).mono (List.subset_append_right _ _)⟩

theorem executeGrant_exchange {rounds : Nat} {result : Except TransactionError Unit}
    (hplanned : Planned context grant events plan) (hnone : sentTransactions events = [])
    (hrun : (executeGrant context grant rounds plan).Exchanges later result) :
    (∃ e, result = .error e ∧ GrantRun context grant (events ++ later) (.error e)) ∨
      (result = .ok () ∧ (∃ nonce pending,
        GrantProgress context grant plan nonce pending 3 (events ++ later)) ∧
        ReadBack (events ++ later) plan) := by
  have hunsent : ∀ {events : List TransactionEvent} (e : TransactionError),
      sentTransactions events = [] → GrantRun context grant events (.error e) := by
    intro events e hnone
    exact ⟨by simp [hnone], .inl hnone, fun _ hresult => by cases hresult⟩
  obtain ⟨answer, ⟨e, he, -⟩ | ⟨nonceBytes, rest, -, rfl, hidentifies⟩⟩ := exchanges_request.1 hrun
  · cases he
  have hdrawn : sentTransactions (events ++ [⟨.randomBytes 8, answer⟩]) = [] := by
    rw [sentTransactions_append, hnone]
    rfl
  rcases exchanges_check.1 hidentifies with ⟨e, -, rfl, rfl⟩ | ⟨pending, hpending, hproposes⟩
  · exact .inl ⟨_, rfl, hunsent _ hdrawn⟩
  rcases exchanges_check.1 hproposes with ⟨e, -, rfl, rfl⟩ | ⟨propose, hpropose, hsubmits⟩
  · exact .inl ⟨_, rfl, hunsent _ hdrawn⟩
  rw [← List.singleton_append, ← List.append_assoc]
  have hstart : GrantProgress context grant plan (LittleEndian.ofBytes nonceBytes.val) pending 0
      (events ++ [⟨.randomBytes 8, answer⟩]) := {
    planned := hplanned.mono (List.subset_append_left _ _)
    identified := hpending
    guarded := guarded_of_nil grantPermits_of_quiet hdrawn
    sent := by rw [hdrawn, List.length_nil] }
  generalize events ++ [⟨.randomBytes 8, answer⟩] = events at hstart ⊢
  have hfirst : ¬ 0 < 0 := lt_irrefl 0
  rcases Interaction.exchanges_bind.1 hsubmits with
    ⟨e, he, rfl⟩ | ⟨_, proposing, rest, rfl, hproposed, hawaits⟩
  · exact .inl ⟨e, rfl, hstart.submissionFailed (by omega) hpropose
      (fun h => absurd h hfirst) (submitInstructions_exchange he) e⟩
  have hproposed := hstart.submitted hpropose (fun h => absurd h hfirst)
    (submitInstructions_exchange hproposed)
  rw [← List.append_assoc]
  generalize events ++ proposing = events at hproposed ⊢
  rcases Interaction.exchanges_bind.1 hawaits with
    ⟨e, he, rfl⟩ | ⟨_, awaiting, rest, rfl, hawaited, hcompletes⟩
  · exact .inl ⟨e, rfl, (hproposed.quiet (quiet_awaitProposal _ _ _ he)).failed (by omega) e⟩
  rw [← List.append_assoc]
  have hawaiting := hproposed.quiet (quiet_awaitProposal _ _ _ hawaited)
  have htimelocked := (awaitProposal_timelocked hawaited).mono (List.subset_append_right events _)
  refine (completeGrant_exchange hawaiting htimelocked hcompletes).imp_right ?_
  rintro ⟨hok, hprogress, hread⟩
  exact ⟨hok, ⟨_, _, hprogress⟩, hread⟩

theorem grantPermission_exchange {rounds : Nat} {result : Except TransactionError String}
    (h : (grantPermission context grant rounds).Exchanges events result) :
    GrantRun context grant events result := by
  have hunsent : ∀ {events : List TransactionEvent} (e : TransactionError),
      sentTransactions events = [] → GrantRun context grant events (.error e) := by
    intro events e hnone
    exact ⟨by simp [hnone], .inl hnone, fun _ hresult => by cases hresult⟩
  rcases exchanges_check.1 h with ⟨e, -, rfl, rfl⟩ | ⟨target, htarget, hreads⟩
  · exact hunsent _ rfl
  rcases Interaction.exchanges_bind.1 hreads with
    ⟨e, he, rfl⟩ | ⟨read, reading, rest, rfl, hread, hplans⟩
  · exact hunsent _ (quiet_readPermission _ _ he)
  obtain ⟨held, clock⟩ := read
  have hnone := quiet_readPermission _ _ hread
  obtain ⟨hheld, hclock⟩ := readPermission_read hread
  rcases exchanges_check.1 hplans with ⟨e, -, rfl, rfl⟩ | ⟨planned, hplanned, hexecutes⟩
  · exact hunsent _ (by simp [hnone])
  cases planned with
  | none =>
    obtain ⟨rfl, rfl⟩ := Interaction.exchanges_done.1 hexecutes
    rw [List.append_nil]
    refine ⟨by simp [hnone], .inl hnone, ?_⟩
    intro address haddress
    cases haddress
    obtain ⟨hsome, hroles⟩ := planGrant_none hplanned
    obtain ⟨permission, rfl⟩ := Option.isSome_iff_exists.1 hsome
    exact .inl ⟨hnone, target, permission, htarget, rfl, hheld, hroles⟩
  | some plan =>
    obtain ⟨rfl, hextends⟩ := planGrant_some hplanned
    have hplan : Planned context grant reading plan :=
      ⟨htarget, held, clock, hheld, hclock, hextends⟩
    rcases Interaction.exchanges_bind.1 hexecutes with
      ⟨e, he, rfl⟩ | ⟨_, executing, returned, rfl, hexecuted, hreturned⟩
    · rcases executeGrant_exchange hplan hnone he with ⟨e', he', hrun⟩ | ⟨hok, -⟩
      · cases he'
        exact hrun
      · cases hok
    · obtain ⟨rfl, rfl⟩ := Interaction.exchanges_done.1 hreturned
      rw [List.append_nil]
      rcases executeGrant_exchange hplan hnone hexecuted with
        ⟨e', he', -⟩ | ⟨-, ⟨nonce, pending, hprogress⟩, hreadBack⟩
      · cases he'
      · refine ⟨hprogress.sent.le, .inr ⟨plan, nonce, pending, hprogress.planned,
          hprogress.identified, hprogress.guarded⟩, ?_⟩
        intro address haddress
        cases haddress
        exact .inr ⟨hprogress.sent, plan, hprogress.planned, rfl, hreadBack⟩

/-- **A permission is granted in three steps or not at all**, whatever the node answers and however
far a run gets: at most three transactions are sent, the proposal, then the acceptance, then the
application of one plan, each on devnet, simulated and signed by the wallet alone, the last two only
after the proposal was read and its timelock seen to have passed; the plan only adds roles to the
held ones and keeps a held expiry, and the proposal commits to the value that is applied.  A grant
that returns read the planned value back, or sent nothing because the roles were held. -/
theorem grantPermission_staged (context : DevnetContext) (grant : PermissionGrant) (rounds : Nat)
    (node : List TransactionEvent → (call : TransactionCall) → call.Answer) :
    GrantRun context grant ((grantPermission context grant rounds).record node []).1
      ((grantPermission context grant rounds).record node []).2 ∧
    (∀ plan nonce pending instruction,
      proposePermission context plan nonce pending = .ok instruction →
        decodeChanceryInstructionData (instruction.data.drop 18) =
          .ok ⟨"propose_config_change", proposeArguments plan nonce⟩) ∧
    ∀ plan pending instruction, applyPermission context grant plan pending = .ok instruction →
      decodeChanceryInstructionData (instruction.data.drop 2) =
        .ok ⟨"upsert_permission_with_pending_change", applyArguments grant plan⟩ := by
  refine ⟨?_, fun _ _ _ _ h => proposePermission_states h, fun _ _ _ h => applyPermission_states h⟩
  obtain ⟨events, hevents, h⟩ := Interaction.exchanges_record node []
    (grantPermission context grant rounds)
  rw [hevents, List.nil_append]
  exact grantPermission_exchange h

end

end Chancery
