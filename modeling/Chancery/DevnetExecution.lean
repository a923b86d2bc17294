import Chancery.ControllerInstruction
import Chancery.InstructionAccounts
import Chancery.SettlementTransaction

/-!
# Submissions on devnet

Model of `integration/devnet/execution` and `integration/devnet/configuration/Deployment.ts`: what
every devnet command checks before it sends, and how it waits.

* `requireDevnetTarget`, `assertDevnetRpc`, `assertPublicDeployment`, `readChanceryAccount`.
* `PublicDeployment` — what a checked deployment was seen to be; `assertPublicDeployment_ok`.
* `confirmRounds`, `confirmSignature` — the wait for a signature.
* `submitInstructions`, `InstructionText.resolve` — instructions signed, simulated and sent.
* `DevnetPermits` — what devnet tooling needs before it sends; `submitInstructions_guarded`.
-/

set_option autoImplicit false

namespace Chancery

open Wire

/-! ## The deployment -/

/-- The genesis of the chain that transactions may go to. -/
def devnetGenesisHash : String := "EtWTRABZaYq6iMfeYKouRu166VU2xqa1wcaWoxPkrZBG"

/-- `Wdek6QzQzHoT822HLPUHWowYrRHUcX4w5CRfRYQ5fh2`. -/
def issuedTokenMint : PublicKey where
  bytes :=
    [7, 151, 72, 218, 200, 46, 180, 174, 74, 235, 234, 201, 225, 184, 1, 129, 21, 118, 252, 187,
     136, 37, 14, 24, 7, 58, 156, 107, 38, 251, 90, 217]
  length_eq := rfl

/-- With the schema that was loaded and `process.env.CHANCERY_TARGET`, which is read again. -/
structure DevnetContext where
  deployment : Deployment
  chanceryTarget : Option String
  ed25519 : Ed25519
  signer : SolanaKeypair

section

variable (context : DevnetContext)

/-- The client of a context. -/
def DevnetContext.client : ChanceryClient where
  language := .typescript
  sha256 := platformSha256
  deployment := context.deployment
  commitment := .confirmed

/-- Check of the target, without a call. -/
def requireDevnetTarget : Except String Unit :=
  rejectWhen (context.chanceryTarget ≠ some "devnet" ∨
      context.deployment.programAddress ≠ chanceryDevnetProgramAddress)
    "Devnet tooling requires CHANCERY_TARGET=devnet before the process starts"

/-- Check of the target and of the chain's genesis. -/
def assertDevnetRpc : Transacts Unit := do
  requireDevnetTarget context
  let genesisHash ← request .getGenesisHash id
  if genesisHash ≠ devnetGenesisHash then
    failWith (.message "RPC genesis hash does not match Solana devnet")
  else return ()

/-! ## Accounts of the deployment -/

/-- The values of a program account, when it exists. -/
def readChanceryAccount (address : PublicKey) (expectedName : String) :
    Transacts (Option StructValues) := do
  let account ← readAccountInfo address .confirmed
  match account with
  | none => return none
  | some account => do
    rejectWhen (account.owner ≠ chanceryDevnetProgramAddress ∨ account.executable = true)
      ("Invalid Chancery account owner or executable flag: " ++ address.toBase58)
    let decoded ← decodeChanceryAccount account.data
    rejectWhen (decoded.name ≠ expectedName)
      ("Expected " ++ expectedName ++ " at " ++ address.toBase58)
    return some decoded.values

/-- Each address holds an executable account. -/
def assertExecutable : List PublicKey → Transacts Unit
  | [] => return ()
  | address :: addresses => do
    let account ← readAccountInfo address .confirmed
    if account.all fun account => !account.executable then
      failWith (.message ("Executable devnet program is missing: " ++ address.toBase58))
    else assertExecutable addresses

/-- The field of a role's authority. -/
def authorityField (role : ControllerRole) : String :=
  ["governance_authority", "operations_authority", "emergency_authority", "enforcement_authority",
    "insurance_admin_authority"].getD role ""

/-- Each role is handed over to its controller. -/
def assertHandoff (configuration : StructValues) : List ControllerRole → Except String Unit
  | [] => .ok ()
  | role :: roles => do
    let held ← requirePublicKeyField configuration (authorityField role)
    let authority ← controllerAuthority role
    if held.toBase58 ≠ authority then
      .error ("Public controller handoff is incomplete for " ++ authorityField role)
    else assertHandoff configuration roles

/-- Check of the whole deployment. -/
def assertPublicDeployment : Transacts StructValues := do
  assertExecutable [chanceryDevnetProgramAddress, faucetProgramAddress]
  let address ← knownPdaAddress context.client "chancery_config"
  let configuration ← readChanceryAccount address "ChanceryConfig"
  match configuration with
  | none => failWith (.message "Chancery devnet configuration is missing")
  | some configuration => do
    let mint ← requirePublicKeyField configuration "issued_token_mint"
    rejectWhen (mint ≠ issuedTokenMint)
      "Issued mint differs from the configured devnet deployment"
    assertHandoff configuration controllerRoles
    return configuration

/-! ## Waiting -/

/-- The block height is not asked for without a last valid one. -/
def blockhashExpired : Option Nat → Transacts Bool
  | none => return false
  | some lastValidBlockHeight => do
    let blockHeight ← getBlockHeight .confirmed
    return decide (lastValidBlockHeight < blockHeight)

/-- The loop of `confirmSignature`, for so many rounds. -/
def confirmRounds (signature : String) (lastValidBlockHeight : Option Nat) (deadline : Nat) :
    Nat → Transacts Unit
  | 0 => failWith .unfinished
  | rounds + 1 => do
    let time ← now
    if deadline ≤ time then
      failWith (.message ("Transaction confirmation timed out: " ++ signature))
    else do
      let status ← getSignatureStatus signature
      match status.bind (·.err) with
      | some err => failWith (.confirmation (.transactionFailed signature err))
      | none =>
        if status.any fun status => status.confirmationStatus = some .confirmed ∨
            status.confirmationStatus = some .finalized then
          return ()
        else do
          let expired ← blockhashExpired lastValidBlockHeight
          if expired then
            failWith (.message ("Transaction blockhash expired: " ++ signature))
          else do
            delay 500
            confirmRounds signature lastValidBlockHeight deadline rounds

/-- The wait for a signature's confirmation. -/
def confirmSignature (rounds : Nat) (signature : String) (lastValidBlockHeight : Option Nat) :
    Transacts Unit := do
  let started ← now
  confirmRounds signature lastValidBlockHeight (started + 60000) rounds

/-! ## Submission -/

/-- Compilation normalizes the accounts of an instruction first, its program last. -/
def InstructionText.resolve (instruction : InstructionText) :
    Except String SolanaInstruction := do
  let accounts ← instruction.accounts.mapM fun account => do
    let address ← decodePublicKey account.address
    return (⟨address, account.isSigner, account.isWritable⟩ : SolanaInstructionAccountMeta)
  let programAddress ← decodePublicKey instruction.programAddress
  return { programAddress := programAddress, accounts := accounts, data := instruction.data }

/-- The signed transaction of the instructions. -/
def signInstructions (instructions : List InstructionText) (blockhash : PublicKey) :
    Except String SignedSolanaTransaction := do
  let resolved ← instructions.mapM InstructionText.resolve
  let message ← compileUnversionedMessage resolved context.signer.publicKey blockhash
  signSolanaTransaction context.ed25519 message [context.signer]

/-- A submission: checked, signed, simulated, sent and confirmed. -/
def submitInstructions (rounds : Nat) (stage : String) (instructions : List InstructionText) :
    Transacts String := do
  assertDevnetRpc context
  let latest ← getLatestBlockhash .confirmed
  let signed ← signInstructions context instructions latest.blockhash
  let simulation ← simulateTransaction signed.bytes .confirmed true
  if simulation.err.isSome then failWith (.simulationFailed stage simulation)
  else do
    let signature ← sendTransaction signed.bytes .confirmed false 0
    if signature ≠ signed.primarySignature then
      failWith (.message (stage ++ " returned a different transaction signature"))
    else do
      confirmSignature rounds signature (some latest.lastValidBlockHeight)
      return signature

end

/-! ## What was read -/

/-- A Chancery account with this name held these values. -/
def AccountRead (events : List TransactionEvent) (address : PublicKey) (name : String)
    (values : StructValues) : Prop :=
  ∃ account : RpcAccountInfo,
    ⟨.read (.getAccountInfo address .confirmed), .ok (some account)⟩ ∈ events ∧
      account.owner = chanceryDevnetProgramAddress ∧ account.executable = false ∧
      decodeChanceryAccount account.data = .ok ⟨name, values⟩

/-- What a checked deployment was seen to be. -/
structure PublicDeployment (context : DevnetContext) (events : List TransactionEvent)
    (configuration : StructValues) : Prop where
  executable : ∀ address ∈ [chanceryDevnetProgramAddress, faucetProgramAddress],
    ∃ account : RpcAccountInfo,
      ⟨.read (.getAccountInfo address .confirmed), .ok (some account)⟩ ∈ events ∧
        account.executable = true
  configured : ∃ address, knownPdaAddress context.client "chancery_config" = .ok address ∧
    AccountRead events address "ChanceryConfig" configuration
  mint : requirePublicKeyField configuration "issued_token_mint" = .ok issuedTokenMint
  handedOver : ∀ role ∈ controllerRoles, ∃ held,
    requirePublicKeyField configuration (authorityField role) = .ok held ∧
      controllerAuthority role = .ok held.toBase58

section

variable {context : DevnetContext} {events events' : List TransactionEvent}

theorem AccountRead.mono {address : PublicKey} {name : String} {values : StructValues}
    (h : AccountRead events address name values) (hsub : events ⊆ events') :
    AccountRead events' address name values := by
  obtain ⟨account, hmem, hrest⟩ := h
  exact ⟨account, hsub hmem, hrest⟩

theorem quiet_readChanceryAccount (address : PublicKey) (name : String) :
    Quiet (readChanceryAccount address name) := by
  apply quiet_bind (quiet_readAccountInfo _ _)
  intro account
  split
  · exact quiet_done _
  · exact quiet_bind (quiet_check _) fun _ => quiet_bind (quiet_check _) fun _ =>
      quiet_bind (quiet_check _) fun _ => quiet_done _

theorem readChanceryAccount_read {address : PublicKey} {name : String} {values : StructValues}
    (h : (readChanceryAccount address name).Exchanges events (.ok (some values))) :
    AccountRead events address name values := by
  obtain ⟨answer, account, later, rfl : answer = _, rfl, haccount⟩ := exchanges_request_ok.1 h
  cases account with
  | none => cases (Interaction.exchanges_done.1 haccount).2
  | some account =>
    obtain ⟨_, howner, hdecodes⟩ := exchanges_check_ok.1 haccount
    obtain ⟨decoded, hdecoded, hnames⟩ := exchanges_check_ok.1 hdecodes
    obtain ⟨_, hname, hret⟩ := exchanges_check_ok.1 hnames
    have hvalues : values = decoded.values := by
      cases (Interaction.exchanges_done.1 hret).2
      rfl
    have hheld := rejectWhen_ok.1 howner
    have hnamed := not_not.1 (rejectWhen_ok.1 hname)
    refine ⟨account, List.mem_cons_self, by simpa using not_or.1 hheld |>.1,
      by simpa using not_or.1 hheld |>.2, ?_⟩
    rw [hdecoded, hvalues, ← hnamed]

theorem readChanceryAccount_missing {address : PublicKey} {name : String}
    (h : (readChanceryAccount address name).Exchanges events (.ok none)) :
    ⟨.read (.getAccountInfo address .confirmed), .ok none⟩ ∈ events := by
  obtain ⟨answer, account, later, rfl : answer = _, rfl, haccount⟩ := exchanges_request_ok.1 h
  cases account with
  | none => exact List.mem_cons_self
  | some account =>
    obtain ⟨_, -, hdecodes⟩ := exchanges_check_ok.1 haccount
    obtain ⟨decoded, -, hnames⟩ := exchanges_check_ok.1 hdecodes
    obtain ⟨_, -, hret⟩ := exchanges_check_ok.1 hnames
    cases (Interaction.exchanges_done.1 hret).2

theorem assertExecutable_ok {addresses : List PublicKey} {result : Unit}
    (h : (assertExecutable addresses).Exchanges events (.ok result)) :
    ∀ address ∈ addresses, ∃ account : RpcAccountInfo,
      ⟨.read (.getAccountInfo address .confirmed), .ok (some account)⟩ ∈ events ∧
        account.executable = true := by
  induction addresses generalizing events with
  | nil => simp
  | cons first addresses ih =>
    obtain ⟨answer, account, later, rfl : answer = _, rfl, hrest⟩ := exchanges_request_ok.1 h
    split at hrest
    · cases (Interaction.exchanges_done.1 hrest).2
    rename_i hmissing
    intro address hmem
    rcases List.mem_cons.1 hmem with rfl | hmem
    · cases account with
      | none => simp at hmissing
      | some account => exact ⟨account, List.mem_cons_self, by simpa using hmissing⟩
    · obtain ⟨account, hread, hexecutable⟩ := ih hrest address hmem
      exact ⟨account, List.mem_cons_of_mem _ hread, hexecutable⟩

theorem assertHandoff_ok {configuration : StructValues} {roles : List ControllerRole}
    (h : assertHandoff configuration roles = .ok ()) :
    ∀ role ∈ roles, ∃ held, requirePublicKeyField configuration (authorityField role) = .ok held ∧
      controllerAuthority role = .ok held.toBase58 := by
  induction roles with
  | nil => simp
  | cons first roles ih =>
    obtain ⟨held, hheld, hauthority⟩ := Except.bind_eq_ok.1 h
    obtain ⟨authority, hderived, hrest⟩ := Except.bind_eq_ok.1 hauthority
    split at hrest
    · cases hrest
    rename_i hsame
    intro role hmem
    rcases List.mem_cons.1 hmem with rfl | hmem
    · exact ⟨held, hheld, by rw [hderived, not_not.1 hsame]⟩
    · exact ih hrest role hmem

/-- **A deployment that passes** has its programs, and its configuration names the devnet mint and
the controller's authorities. -/
theorem assertPublicDeployment_ok {configuration : StructValues}
    (h : (assertPublicDeployment context).Exchanges events (.ok configuration)) :
    PublicDeployment context events configuration := by
  obtain ⟨_, programs, later, rfl, hprograms, hlater⟩ := exchanges_bind_ok.1 h
  obtain ⟨address, haddress, hreads⟩ := exchanges_check_ok.1 hlater
  obtain ⟨read, reads, rest, rfl, hread, hrest⟩ := exchanges_bind_ok.1 hreads
  cases read with
  | none => cases (Interaction.exchanges_done.1 hrest).2
  | some values =>
    obtain ⟨mint, hmint, hsame⟩ := exchanges_check_ok.1 hrest
    obtain ⟨_, hmatches, hhandoff⟩ := exchanges_check_ok.1 hsame
    obtain ⟨_, hhanded, hreturns⟩ := exchanges_check_ok.1 hhandoff
    obtain ⟨rfl, hvalues⟩ := Interaction.exchanges_done.1 hreturns
    obtain rfl : configuration = values := Except.ok.inj hvalues
    have hreadHere : AccountRead reads address "ChanceryConfig" configuration :=
      readChanceryAccount_read hread
    exact {
      executable := fun program hmem => (assertExecutable_ok hprograms program hmem).imp
        fun _ hseen => hseen.imp_left (List.mem_append_left _)
      configured := ⟨address, haddress, hreadHere.mono (by simp)⟩
      mint := by rw [hmint, not_not.1 (rejectWhen_ok.1 hmatches)]
      handedOver := assertHandoff_ok hhanded }

theorem quiet_assertExecutable (addresses : List PublicKey) :
    Quiet (assertExecutable addresses) := by
  induction addresses with
  | nil => exact quiet_done _
  | cons address addresses ih =>
    apply quiet_bind (quiet_readAccountInfo _ _)
    intro account
    split
    · exact quiet_done _
    · exact ih

theorem quiet_assertPublicDeployment (context : DevnetContext) :
    Quiet (assertPublicDeployment context) := by
  apply quiet_bind (quiet_assertExecutable _)
  intro _
  apply quiet_bind (quiet_check _)
  intro address
  apply quiet_bind (quiet_readChanceryAccount _ _)
  intro configuration
  split
  · exact quiet_done _
  · exact quiet_bind (quiet_check _) fun _ => quiet_bind (quiet_check _) fun _ =>
      quiet_bind (quiet_check _) fun _ => quiet_done _

end

/-! ## Waiting sends nothing -/

section

variable {context : DevnetContext} {events : List TransactionEvent}

theorem quiet_blockhashExpired (lastValidBlockHeight : Option Nat) :
    Quiet (blockhashExpired lastValidBlockHeight) := by
  cases lastValidBlockHeight with
  | none => exact quiet_done _
  | some => exact quiet_bind (quiet_request rfl) fun _ => quiet_done _

theorem quiet_confirmRounds {signature : String} {lastValidBlockHeight : Option Nat}
    {deadline : Nat} (rounds : Nat) :
    Quiet (confirmRounds signature lastValidBlockHeight deadline rounds) := by
  induction rounds with
  | zero => exact quiet_done _
  | succ rounds ih =>
    apply quiet_bind (quiet_request rfl)
    intro time
    split
    · exact quiet_done _
    apply quiet_bind (quiet_request rfl)
    intro status
    split
    · exact quiet_done _
    split
    · exact quiet_done _
    apply quiet_bind (quiet_blockhashExpired _)
    intro expired
    split
    · exact quiet_done _
    · exact quiet_bind (quiet_request rfl) fun _ => ih

theorem quiet_confirmSignature (rounds : Nat) (signature : String)
    (lastValidBlockHeight : Option Nat) :
    Quiet (confirmSignature rounds signature lastValidBlockHeight) :=
  quiet_bind (quiet_request rfl) fun _ => quiet_confirmRounds _

/-- The wait returns when the signature was seen confirmed. -/
theorem confirmRounds_confirmed {signature : String} {lastValidBlockHeight : Option Nat}
    {deadline : Nat} {rounds : Nat} {result : Unit}
    (h : (confirmRounds signature lastValidBlockHeight deadline rounds).Exchanges events
      (.ok result)) : Confirmed events signature .confirmed := by
  induction rounds generalizing events with
  | zero => cases (Interaction.exchanges_done.1 h).2
  | succ rounds ih =>
    obtain ⟨answer, time, later, -, rfl, htime⟩ := exchanges_request_ok.1 h
    split at htime
    · cases (Interaction.exchanges_done.1 htime).2
    obtain ⟨answer', status, later, rfl : answer' = _, rfl, hstatus⟩ :=
      exchanges_request_ok.1 htime
    split at hstatus
    · cases (Interaction.exchanges_done.1 hstatus).2
    rename_i herr
    split at hstatus
    · rename_i hseen
      obtain ⟨seen, rfl, hseen⟩ := (Option.any_eq_true _ _).1 hseen
      refine ⟨seen, by simp, by simpa using herr, ?_⟩
      rcases of_decide_eq_true hseen with hseen | hseen <;> rw [hseen] <;> rfl
    · obtain ⟨expired, before, after, rfl, -, hexpired⟩ := exchanges_bind_ok.1 hstatus
      split at hexpired
      · cases (Interaction.exchanges_done.1 hexpired).2
      obtain ⟨answer'', _, later, -, rfl, hrest⟩ := exchanges_request_ok.1 hexpired
      obtain ⟨status', hmem, hrest⟩ := ih hrest
      exact ⟨status', by simp [hmem], hrest⟩

theorem confirmSignature_confirmed {rounds : Nat} {signature : String}
    {lastValidBlockHeight : Option Nat} {result : Unit}
    (h : (confirmSignature rounds signature lastValidBlockHeight).Exchanges events (.ok result)) :
    Confirmed events signature .confirmed := by
  obtain ⟨answer, started, later, -, rfl, hrounds⟩ := exchanges_request_ok.1 h
  obtain ⟨status, hmem, hrest⟩ := confirmRounds_confirmed hrounds
  exact ⟨status, List.mem_cons_of_mem _ hmem, hrest⟩

/-! ## What a signed submission asks for -/

theorem signForSigners_known {ed25519 : Ed25519} {message : Bytes}
    {keypairs : List SolanaKeypair} : ∀ {signers : List PublicKey}
    {signatures : List (PublicKey × Bytes)},
    signForSigners ed25519 message keypairs signers = .ok signatures →
      ∀ signer ∈ signers, signer ∈ keypairs.map (·.publicKey)
  | [], _, _, signer, hmem => by cases hmem
  | first :: signers, signatures, h, signer, hmem => by
    unfold signForSigners at h
    split at h
    · cases h
    · rename_i keypair hkeypair
      obtain ⟨signature, _, hbody⟩ := Except.bind_eq_ok.1 h
      obtain ⟨others, hothers, -⟩ := Except.bind_eq_ok.1 hbody
      rcases List.mem_cons.1 hmem with rfl | hmem
      · have hpublic := List.find?_some hkeypair
        have hheld := List.mem_reverse.1 (List.mem_of_find?_eq_some hkeypair)
        exact List.mem_map.2 ⟨keypair, hheld, beq_iff_eq.1 hpublic⟩
      · exact signForSigners_known hothers signer hmem

theorem compileMessageBytes_signerAddresses {version : MessageVersion}
    {instructions : List SolanaInstruction} {staticMetas : List AggregatedAccountMeta}
    {writable readonly : List PublicKey} {placements : List (PublicKey × LookupPlacement)}
    {lookups : List CompiledAddressTableLookup} {recentBlockhash : PublicKey}
    {message : CompiledSolanaMessage}
    (h : compileMessageBytes version instructions staticMetas writable readonly placements lookups
      recentBlockhash = .ok message) :
    message.signerAddresses <+: staticMetas.map (·.address) := by
  dsimp only [compileMessageBytes] at h
  split at h
  · cases h
  split at h
  · cases h
  split at h
  · cases h
  obtain ⟨_, _, hbody⟩ := Except.bind_eq_ok.1 h
  obtain ⟨_, _, hbody⟩ := Except.bind_eq_ok.1 hbody
  obtain ⟨_, _, hbody⟩ := Except.bind_eq_ok.1 hbody
  obtain ⟨_, _, hret⟩ := Except.bind_eq_ok.1 hbody
  cases hret
  exact (List.take_prefix _ _).map _

/-- One signer for an unversioned message: its signature is the only one. -/
theorem signInstructions_signatures {instructions : List InstructionText} {blockhash : PublicKey}
    {signed : SignedSolanaTransaction}
    (h : signInstructions context instructions blockhash = .ok signed) :
    signed.signatures.length ≤ 1 := by
  obtain ⟨resolved, -, hcompiles⟩ := Except.bind_eq_ok.1 h
  obtain ⟨message, hmessage, hsigns⟩ := Except.bind_eq_ok.1 hcompiles
  obtain ⟨signatures, hsignatures, hserializes⟩ := Except.bind_eq_ok.1 hsigns
  have haddresses := (signSolanaTransaction_ok hsigns).2.2
  have hnodup : message.signerAddresses.Nodup := by
    refine (compileMessageBytes_signerAddresses hmessage).sublist.nodup ?_
    exact ((orderStaticAccountMetas_perm _).map _).nodup_iff.2
      (aggregateAccountMetas_spec resolved context.signer.publicKey).nodup
  have hsame : ∀ signer ∈ message.signerAddresses, signer = context.signer.publicKey := by
    intro signer hmem
    simpa using signForSigners_known hsignatures signer hmem
  rw [← List.length_map (f := Prod.fst), haddresses]
  rw [List.eq_replicate_of_mem hsame] at hnodup ⊢
  simpa using List.nodup_replicate.1 hnodup

end

/-- The transaction asks for the instructions and for nothing else, and takes one signature, the
payer's. -/
def CarriesInstructions (feePayer blockhash : PublicKey) (instructions : List InstructionText)
    (transaction : Bytes) : Prop :=
  ∃ resolved signatures message keys, instructions.mapM InstructionText.resolve = .ok resolved ∧
    decodeTransaction transaction = .ok (signatures, message) ∧ message.keys [] = some keys ∧
    CarriesOut resolved feePayer blockhash message keys ∧
    ∀ i key, keys[i]? = some key → (message.isSigner i ↔ key = feePayer)

theorem signInstructions_carries {context : DevnetContext} {instructions : List InstructionText}
    {blockhash : PublicKey} {signed : SignedSolanaTransaction}
    (h : signInstructions context instructions blockhash = .ok signed) :
    CarriesInstructions context.signer.publicKey blockhash instructions signed.bytes := by
  obtain ⟨resolved, hresolved, hsigned⟩ := Except.bind_eq_ok.1 h
  have hdistinct : (([] : List AddressLookupTable).map (·.address)).Nodup := List.nodup_nil
  obtain ⟨message, keys, hdecode, -, hrequired, hkeys, hcarries⟩ :=
    signedTransaction_resolves hdistinct hsigned
  refine ⟨resolved, _, message, keys, hresolved, hdecode, hkeys, hcarries, ?_⟩
  intro i key hkey
  constructor
  · intro hsigns
    have hone := signInstructions_signatures h
    have hi : i < message.numRequiredSignatures := hsigns
    obtain rfl : i = 0 := by omega
    rw [hcarries.feePayer_first] at hkey
    exact (Option.some.inj hkey).symm
  · intro hpays
    exact (hcarries.signer_iff i key hkey).2 (.inl hpays)

/-! ## What devnet tooling needs before it sends -/

/-- Devnet's genesis hash came back, and nothing has been sent since. -/
def OnDevnet (before : List TransactionEvent) : Prop :=
  ∃ earlier later, before = earlier ++ ⟨.getGenesisHash, .ok devnetGenesisHash⟩ :: later ∧
    sentTransactions later = []

section

variable (context : DevnetContext) (instructions : List InstructionText)

/-- What has to be said before instructions are sent. -/
structure Submittable (before : List TransactionEvent) (transaction : Bytes) : Prop where
  targeted : requireDevnetTarget context = .ok ()
  onDevnet : OnDevnet before
  simulated : Simulated before transaction
  carries : ∃ latest : RpcLatestBlockhash,
    ⟨.getLatestBlockhash .confirmed, .ok latest⟩ ∈ before ∧
      CarriesInstructions context.signer.publicKey latest.blockhash instructions transaction

/-- What may be sent after the given run. -/
def DevnetPermits (allowed : List InstructionText → Prop) (before : List TransactionEvent) :
    TransactionCall → Prop
  | .sendTransaction transaction commitment skipPreflight _ =>
    commitment = .confirmed ∧ skipPreflight = false ∧
      ∃ instructions, allowed instructions ∧ Submittable context instructions before transaction
  | _ => True

/-- Every run of a submission, whatever comes back to its requests. -/
structure SubmissionRun (events : List TransactionEvent) (result : Except TransactionError String) :
    Prop where
  guarded : Interaction.Guarded (DevnetPermits context (· = instructions)) events
  atMostOnce : (sentTransactions events).length ≤ 1
  carries : ∀ transaction ∈ sentTransactions events, ∃ blockhash,
    CarriesInstructions context.signer.publicKey blockhash instructions transaction
  confirmed : ∀ signature, result = .ok signature → ∃ blockhash signed,
    signInstructions context instructions blockhash = .ok signed ∧
      sentTransactions events = [signed.bytes] ∧ signature = signed.primarySignature ∧
      Confirmed events signature .confirmed

variable {context instructions}

theorem OnDevnet.append {before : List TransactionEvent} (h : OnDevnet before)
    (earlier : List TransactionEvent) : OnDevnet (earlier ++ before) := by
  obtain ⟨first, later, rfl, hlater⟩ := h
  exact ⟨earlier ++ first, later, by simp, hlater⟩

theorem Submittable.append {before : List TransactionEvent} {transaction : Bytes}
    (h : Submittable context instructions before transaction) (earlier : List TransactionEvent) :
    Submittable context instructions (earlier ++ before) transaction where
  targeted := h.targeted
  onDevnet := h.onDevnet.append earlier
  simulated := by simpa using h.simulated.append earlier []
  carries := h.carries.imp fun _ hlatest => hlatest.imp_left (List.mem_append_right earlier)

theorem devnetPermits_of_quiet {allowed : List InstructionText → Prop}
    (before : List TransactionEvent) (call : TransactionCall) (h : call.isSend = false) :
    DevnetPermits context allowed before call := by
  cases call with
  | sendTransaction => cases h
  | _ => exact trivial

theorem quiet_assertDevnetRpc : Quiet (assertDevnetRpc context) := by
  apply quiet_bind (quiet_check _)
  intro _
  apply quiet_bind (quiet_request rfl)
  intro genesisHash
  split
  · exact quiet_done _
  · exact quiet_done _

theorem assertDevnetRpc_ok {events : List TransactionEvent} {result : Unit}
    (h : (assertDevnetRpc context).Exchanges events (.ok result)) :
    requireDevnetTarget context = .ok () ∧
      events = [⟨.getGenesisHash, .ok devnetGenesisHash⟩] := by
  obtain ⟨_, htarget, hasks⟩ := exchanges_check_ok.1 h
  obtain ⟨answer, genesisHash, later, rfl : answer = _, rfl, hrest⟩ := exchanges_request_ok.1 hasks
  split at hrest
  · cases (Interaction.exchanges_done.1 hrest).2
  · rename_i hsame
    obtain ⟨rfl, -⟩ := Interaction.exchanges_done.1 hrest
    rw [ne_eq, not_not] at hsame
    exact ⟨htarget, by rw [hsame]⟩

/-- Nothing was sent. -/
theorem SubmissionRun.unsent {events : List TransactionEvent} (e : TransactionError)
    (h : sentTransactions events = []) : SubmissionRun context instructions events (.error e) where
  guarded := guarded_of_nil devnetPermits_of_quiet h
  atMostOnce := by simp [h]
  carries := by simp [h]
  confirmed := by
    intro signature hresult
    cases hresult

/-- A signed transaction was sent, and nothing after it. -/
theorem Submittable.sent {before later : List TransactionEvent} {blockhash : PublicKey}
    {signed : SignedSolanaTransaction} {result : Except TransactionError String}
    (hsubmittable : Submittable context instructions before signed.bytes)
    (hbefore : sentTransactions before = [])
    (hsigned : signInstructions context instructions blockhash = .ok signed)
    (answer : Except String String) (hlater : sentTransactions later = [])
    (hconfirmed : ∀ signature, result = .ok signature → signature = signed.primarySignature ∧
      Confirmed later signature .confirmed) :
    SubmissionRun context instructions
      (before ++ ⟨.sendTransaction signed.bytes .confirmed false 0, answer⟩ :: later) result := by
  have hsent : sentTransactions
      (before ++ ⟨.sendTransaction signed.bytes .confirmed false 0, answer⟩ :: later) =
      [signed.bytes] := by
    rw [sentTransactions_append, sentTransactions_cons, hbefore, hlater]
    rfl
  exact {
    guarded := guarded_send devnetPermits_of_quiet hbefore hlater
      ⟨rfl, rfl, instructions, rfl, hsubmittable⟩
    atMostOnce := (congrArg List.length hsent).le
    carries := by
      rw [hsent]
      simpa using ⟨blockhash, signInstructions_carries hsigned⟩
    confirmed := by
      intro signature hsignature
      obtain ⟨hprimary, status, hmem, hrest⟩ := hconfirmed signature hsignature
      exact ⟨blockhash, signed, hsigned, hsent, hprimary, status, by simp [hmem], hrest⟩ }

theorem submitInstructions_exchange {rounds : Nat} {stage : String}
    {events : List TransactionEvent} {result : Except TransactionError String}
    (h : (submitInstructions context rounds stage instructions).Exchanges events result) :
    SubmissionRun context instructions events result := by
  rcases Interaction.exchanges_bind.1 h with ⟨e, he, rfl⟩ | ⟨_, asserted, rest, rfl, hdevnet, hrest⟩
  · exact .unsent e (quiet_assertDevnetRpc _ _ he)
  obtain ⟨htarget, rfl⟩ := assertDevnetRpc_ok hdevnet
  obtain ⟨answer, ⟨e, -, rfl, rfl⟩ | ⟨latest, _, rfl : answer = _, rfl, hsigns⟩⟩ :=
    exchanges_request.1 hrest
  · exact .unsent _ rfl
  rcases exchanges_check.1 hsigns with ⟨e, -, rfl, rfl⟩ | ⟨signed, hsigned, hsimulates⟩
  · exact .unsent _ rfl
  obtain ⟨answer, ⟨e, -, rfl, rfl⟩ | ⟨simulation, _, rfl : answer = _, rfl, hsends⟩⟩ :=
    exchanges_request.1 hsimulates
  · exact .unsent _ rfl
  split at hsends
  · obtain ⟨rfl, rfl⟩ := Interaction.exchanges_done.1 hsends
    exact .unsent _ rfl
  rename_i herr
  have hsimulated : Simulated [⟨.getGenesisHash, .ok devnetGenesisHash⟩,
      ⟨.getLatestBlockhash .confirmed, .ok latest⟩,
      ⟨.simulateTransaction signed.bytes .confirmed true, .ok simulation⟩] signed.bytes :=
    ⟨.confirmed, true, simulation, by simp, by simpa using herr⟩
  have hsubmittable : Submittable context instructions _ signed.bytes := {
    targeted := htarget
    onDevnet := ⟨[], _, rfl, rfl⟩
    simulated := hsimulated
    carries := ⟨latest, by simp, signInstructions_carries hsigned⟩ }
  obtain ⟨answer, ⟨e, -, rfl, rfl⟩ | ⟨signature, later, rfl : answer = _, rfl, hconfirms⟩⟩ :=
    exchanges_request.1 hsends
  · exact hsubmittable.sent rfl hsigned answer rfl fun _ hresult => by cases hresult
  split at hconfirms
  · obtain ⟨rfl, rfl⟩ := Interaction.exchanges_done.1 hconfirms
    exact hsubmittable.sent rfl hsigned _ rfl fun _ hresult => by cases hresult
  rename_i hprimary
  rcases Interaction.exchanges_bind.1 hconfirms with
    ⟨e, he, rfl⟩ | ⟨_, waited, returned, rfl, hwaited, hreturned⟩
  · exact hsubmittable.sent rfl hsigned _ (quiet_confirmSignature _ _ _ _ _ he)
      fun _ hresult => by cases hresult
  · obtain ⟨rfl, rfl⟩ := Interaction.exchanges_done.1 hreturned
    rw [List.append_nil]
    refine hsubmittable.sent rfl hsigned _ (quiet_confirmSignature _ _ _ _ _ hwaited) ?_
    intro _ hresult
    cases hresult
    exact ⟨not_not.1 hprimary, confirmSignature_confirmed hwaited⟩

/-- **Nothing is sent off devnet or unsimulated**, whatever the node answers and however far a run
gets: a submission sends at most once, only after devnet's genesis hash came back, as exactly the
bytes that were simulated without an error, which ask for the given instructions and nothing else
and take the wallet's signature alone; what it returns is that transaction's signature, seen
confirmed. -/
theorem submitInstructions_guarded (context : DevnetContext) (rounds : Nat) (stage : String)
    (instructions : List InstructionText)
    (node : List TransactionEvent → (call : TransactionCall) → call.Answer) :
    SubmissionRun context instructions
      ((submitInstructions context rounds stage instructions).record node []).1
      ((submitInstructions context rounds stage instructions).record node []).2 := by
  obtain ⟨events, hevents, h⟩ := Interaction.exchanges_record node []
    (submitInstructions context rounds stage instructions)
  rw [hevents, List.nil_append]
  exact submitInstructions_exchange h

end

end Chancery
