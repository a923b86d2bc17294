import Chancery.Event
import Chancery.Inspection
import Chancery.SolanaTransactionLaws
import Chancery.TransactionRpc

/-!
# Settlement transactions

Model of `prepareTransaction`, `simulateTransaction` and `submitTransaction` of
`typescript/src/client/ChanceryClient.ts`: from an inspection to a confirmed transaction.

* `parseAddressLookupTableAccount`, `loadAddressLookupTables` — the lookup tables.
* `awaitConfirmation` — the polling loop over the requests it makes; `awaitConfirmation_loop`.
* `prepareTransaction`, `submitTransaction`.
* `SettlementPermits` — what a transaction needs before it is sent; `submitTransaction_guarded`.
-/

set_option autoImplicit false

namespace Chancery

open Wire

/-- How a settlement is to be paid for and signed. -/
structure SettlementTransactionRequest where
  feePayer : String
  keypairs : List SolanaKeypair
  addressLookupTableAddresses : List String := []
  commitment : Option RpcCommitment := none

/-- An inspection with its signed transaction. -/
structure PreparedSettlementTransaction where
  inspection : SettlementInspection
  instruction : ChanceryInstruction
  transaction : SignedSolanaTransaction
  recentBlockhash : PublicKey
  lastValidBlockHeight : Nat
  lookupTables : List AddressLookupTable

/-- A sent transaction with its status. -/
structure SubmittedSettlementTransaction where
  prepared : PreparedSettlementTransaction
  simulation : RpcSimulationResult
  signature : String
  status : RpcSignatureStatus
  transaction : Value
  events : Option (List ChanceryEventOccurrence)

/-! ## Lookup tables -/

/-- The header of a lookup table account. -/
def lookupTableMetadataBytes : Nat := 56

/-- A lookup table read from its account. -/
def parseAddressLookupTableAccount (tableAddress : PublicKey) (accountData : Bytes) :
    Except String AddressLookupTable :=
  if accountData.length < lookupTableMetadataBytes ∨
      (accountData.length - lookupTableMetadataBytes) % 32 ≠ 0 then
    .error "Address lookup table account has an invalid byte length"
  else if LittleEndian.ofBytes (accountData.take 4) ≠ 1 then
    .error "Address lookup table account is not initialized"
  else do
    let count := (accountData.length - lookupTableMetadataBytes) / 32
    let addresses ← (List.range count).mapM fun index =>
      publicKeyFromBytes ((accountData.drop (lookupTableMetadataBytes + 32 * index)).take 32)
    return ⟨tableAddress, addresses⟩

section

variable (client : ChanceryClient) (ed25519 : Ed25519)

/-- The lookup tables of a request. -/
def loadAddressLookupTables : List String → Transacts (List AddressLookupTable)
  | [] => return []
  | addressInput :: addresses => do
    let address ← decodePublicKey addressInput
    let account ← readAccountInfo address client.commitment
    match account with
    | none => failWith (.message s!"Address lookup table {address.toBase58} does not exist")
    | some account => do
      let table ← parseAddressLookupTableAccount address account.data
      let tables ← loadAddressLookupTables addresses
      return table :: tables

/-! ## The three operations -/

/-- An instruction without its account names. -/
def solanaInstruction (instruction : ChanceryInstruction) : SolanaInstruction where
  programAddress := instruction.programAddress
  accounts := instruction.accounts.map fun account =>
    ⟨account.address, account.isSigner, account.isWritable⟩
  data := instruction.data

/-- The signed transaction of a ready inspection. -/
def prepareTransaction (inspection : SettlementInspection)
    (request : SettlementTransactionRequest) : Transacts PreparedSettlementTransaction := do
  let commitment := request.commitment.getD client.commitment
  let currentSlot ← Chancery.request (.read (.getSlot commitment)) id
  rejectWhen (inspection.observation.expiresAfterSlot < currentSlot)
    s!"Inspection expired at slot {inspection.observation.expiresAfterSlot}; current slot is {currentSlot}"
  let instruction ← buildInstruction client inspection
  let feePayer ← decodePublicKey request.feePayer
  let latestBlockhash ← getLatestBlockhash commitment
  let lookupTables ← loadAddressLookupTables client request.addressLookupTableAddresses
  let message ← compileMessage [solanaInstruction instruction] feePayer latestBlockhash.blockhash
    lookupTables
  let transaction ← signSolanaTransaction ed25519 message request.keypairs
  return {
    inspection := inspection
    instruction := instruction
    transaction := transaction
    recentBlockhash := latestBlockhash.blockhash
    lastValidBlockHeight := latestBlockhash.lastValidBlockHeight
    lookupTables := lookupTables }

/-- `simulateTransaction` of the client -/
def simulateSettlement (inspection : SettlementInspection)
    (request : SettlementTransactionRequest) :
    Transacts (PreparedSettlementTransaction × RpcSimulationResult) := do
  let prepared ← prepareTransaction client ed25519 inspection request
  let simulation ← simulateTransaction prepared.transaction.bytes
    (request.commitment.getD client.commitment) true
  return (prepared, simulation)

/-- The end of a poll that decides nothing. -/
def waitForNext (signature : String) (lastValidBlockHeight : Nat) (commitment : RpcCommitment)
    (next : Transacts RpcSignatureStatus) : Transacts RpcSignatureStatus := do
  let blockHeight ← getBlockHeight commitment
  if lastValidBlockHeight < blockHeight then
    failWith (.confirmation (.expired signature commitment))
  else do
    delay 500
    next

/-- `#confirmTransaction`, with the number of polls that remain. -/
def awaitConfirmation (signature : String) (lastValidBlockHeight : Nat)
    (commitment : RpcCommitment) : Nat → Transacts RpcSignatureStatus
  | 0 => failWith (.confirmation (.pollLimit signature commitment))
  | remaining + 1 => do
    let next := waitForNext signature lastValidBlockHeight commitment
      (awaitConfirmation signature lastValidBlockHeight commitment remaining)
    let status ← getSignatureStatus signature
    match status with
    | none => next
    | some status =>
      match status.err with
      | some err => failWith (.confirmation (.transactionFailed signature err))
      | none =>
        if commitmentSatisfied status.confirmationStatus commitment then return status else next

/-- `getChanceryEvents` asks for the transaction once more. -/
def getChanceryEvents (signature : String) (commitment : RpcCommitment) :
    Transacts (Option (List ChanceryEventOccurrence)) := do
  let result ← Chancery.request (.getTransaction signature commitment) id
  match result with
  | .null => return none
  | result => do
    let events ← decodeChanceryEventsFromRpcTransaction client.deployment result
    return some events

/-- A submission: prepared, simulated, sent and confirmed. -/
def submitTransaction (inspection : SettlementInspection)
    (request : SettlementTransactionRequest) : Transacts SubmittedSettlementTransaction := do
  let (prepared, simulation) ← simulateSettlement client ed25519 inspection request
  if simulation.err.isSome then failWith (.simulationFailed "Chancery transaction" simulation)
  else do
    let commitment := request.commitment.getD client.commitment
    let signature ← sendTransaction prepared.transaction.bytes commitment false 5
    let status ← awaitConfirmation signature prepared.lastValidBlockHeight commitment maximumPolls
    let transaction ← Chancery.request (.getTransaction signature commitment) id
    let events ← getChanceryEvents client signature commitment
    return {
      prepared := prepared
      simulation := simulation
      signature := signature
      status := status
      transaction := transaction
      events := events }

end

/-! ## Confirmation -/

section

variable {client : ChanceryClient} {ed25519 : Ed25519} {signature : String}
  {lastValidBlockHeight : Nat} {commitment : RpcCommitment} {events : List TransactionEvent}

theorem quiet_waitForNext {next : Transacts RpcSignatureStatus} (hnext : Quiet next) :
    Quiet (waitForNext signature lastValidBlockHeight commitment next) := by
  apply quiet_bind (quiet_request rfl)
  intro blockHeight
  split
  · exact quiet_done _
  · exact quiet_bind (quiet_request rfl) fun _ => hnext

theorem quiet_awaitConfirmation (remaining : Nat) :
    Quiet (awaitConfirmation signature lastValidBlockHeight commitment remaining) := by
  induction remaining with
  | zero => exact quiet_done _
  | succ remaining ih =>
    apply quiet_bind (quiet_request rfl)
    intro status
    split
    · exact quiet_waitForNext ih
    · split
      · exact quiet_done _
      · split
        · exact quiet_done _
        · exact quiet_waitForNext ih

theorem waitForNext_ok {next : Transacts RpcSignatureStatus} {status : RpcSignatureStatus}
    (h : (waitForNext signature lastValidBlockHeight commitment next).Exchanges events
      (.ok status)) :
    ∃ before later, events = before ++ later ∧ next.Exchanges later (.ok status) := by
  obtain ⟨_, height, afterHeight, -, rfl, hheight⟩ := exchanges_request_ok.1 h
  split at hheight
  · cases (Interaction.exchanges_done.1 hheight).2
  · obtain ⟨_, _, later, -, rfl, hnext⟩ := exchanges_request_ok.1 hheight
    exact ⟨[_, _], later, rfl, hnext⟩

/-- What the loop returns was seen, and satisfies the commitment. -/
theorem awaitConfirmation_confirmed {remaining : Nat} {status : RpcSignatureStatus}
    (h : (awaitConfirmation signature lastValidBlockHeight commitment remaining).Exchanges events
      (.ok status)) :
    ⟨.getSignatureStatus signature, .ok (some status)⟩ ∈ events ∧ status.err = none ∧
      commitmentSatisfied status.confirmationStatus commitment = true := by
  induction remaining generalizing events with
  | zero => cases (Interaction.exchanges_done.1 h).2
  | succ remaining ih =>
    have hnext : ∀ {events : List TransactionEvent}, (waitForNext signature lastValidBlockHeight
        commitment (awaitConfirmation signature lastValidBlockHeight commitment
          remaining)).Exchanges events (.ok status) →
        ⟨.getSignatureStatus signature, .ok (some status)⟩ ∈ events ∧ status.err = none ∧
          commitmentSatisfied status.confirmationStatus commitment = true := by
      intro events hevents
      obtain ⟨before, later, rfl, hlater⟩ := waitForNext_ok hevents
      exact (ih hlater).imp_left (List.mem_append_right before)
    obtain ⟨answer, seen, later, rfl : answer = _, rfl, hseen⟩ := exchanges_request_ok.1 h
    cases seen with
    | none => exact (hnext hseen).imp_left (List.mem_cons_of_mem _)
    | some seen =>
      dsimp only at hseen
      split at hseen
      · cases (Interaction.exchanges_done.1 hseen).2
      · rename_i herr
        split at hseen
        · rename_i hsatisfied
          cases (Interaction.exchanges_done.1 hseen).2
          exact ⟨List.mem_cons_self, herr, hsatisfied⟩
        · exact (hnext hseen).imp_left (List.mem_cons_of_mem _)

/-- The loop reads nothing before the poll it starts at. -/
theorem confirmLoop_congr {statuses statuses' : Nat → Option RpcSignatureStatus}
    {blockHeights blockHeights' : Nat → Nat} (remaining : Nat) {poll : Nat}
    (hstatuses : ∀ n, poll ≤ n → statuses n = statuses' n)
    (hblockHeights : ∀ n, poll ≤ n → blockHeights n = blockHeights' n) :
    confirmLoop signature lastValidBlockHeight commitment statuses blockHeights (.ok ()) remaining
        poll =
      confirmLoop signature lastValidBlockHeight commitment statuses' blockHeights' (.ok ())
        remaining poll := by
  induction remaining generalizing poll with
  | zero => rfl
  | succ remaining ih =>
    have hrest := ih (fun n hn => hstatuses n (Nat.le_of_succ_le hn))
      (fun n hn => hblockHeights n (Nat.le_of_succ_le hn))
    rw [confirmLoop, confirmLoop, hstatuses poll le_rfl, hblockHeights poll le_rfl, hrest]

/-- **The loop over requests is the loop over answers**, unless a request fails. -/
theorem awaitConfirmation_loop {remaining : Nat} (poll : Nat)
    {result : Except TransactionError RpcSignatureStatus}
    (h : (awaitConfirmation signature lastValidBlockHeight commitment remaining).Exchanges events
      result) :
    (∃ e, result = .error (.message e)) ∨ ∃ statuses blockHeights, result =
      (confirmLoop signature lastValidBlockHeight commitment statuses blockHeights (.ok ())
        remaining poll).mapError .confirmation := by
  induction remaining generalizing events poll with
  | zero =>
    obtain ⟨-, rfl⟩ := Interaction.exchanges_done.1 h
    exact .inr ⟨fun _ => none, fun _ => 0, rfl⟩
  | succ remaining ih =>
    have hnext : ∀ {events : List TransactionEvent} (seen : Option RpcSignatureStatus),
        (waitForNext signature lastValidBlockHeight commitment
          (awaitConfirmation signature lastValidBlockHeight commitment remaining)).Exchanges events
          result → (∃ e, result = .error (.message e)) ∨ ∃ statuses blockHeights,
            statuses poll = seen ∧ result =
              (if lastValidBlockHeight < blockHeights poll then
                .error (.confirmation (.expired signature commitment))
              else (confirmLoop signature lastValidBlockHeight commitment statuses blockHeights
                (.ok ()) remaining (poll + 1)).mapError .confirmation) := by
      intro events seen hwait
      obtain ⟨answer, ⟨e, -, -, rfl⟩ | ⟨height, later, -, -, hheight⟩⟩ := exchanges_request.1 hwait
      · exact .inl ⟨e, rfl⟩
      · split at hheight
        · rename_i hexpired
          obtain ⟨-, rfl⟩ := Interaction.exchanges_done.1 hheight
          exact .inr ⟨fun _ => seen, fun _ => height, rfl, (if_pos hexpired).symm⟩
        · rename_i hvalid
          obtain ⟨_, ⟨e, he, -⟩ | ⟨_, later, -, -, hrest⟩⟩ := exchanges_request.1 hheight
          · cases he
          · refine (ih (poll + 1) hrest).imp_right ?_
            rintro ⟨statuses, blockHeights, rfl⟩
            refine ⟨Function.update statuses poll seen, Function.update blockHeights poll height,
              Function.update_self .., ?_⟩
            rw [Function.update_self, if_neg hvalid]
            congr 1
            apply confirmLoop_congr
            · intro n hn
              rw [Function.update_of_ne (by omega)]
            · intro n hn
              rw [Function.update_of_ne (by omega)]
    obtain ⟨answer, ⟨e, -, -, rfl⟩ | ⟨seen, later, -, -, hseen⟩⟩ := exchanges_request.1 h
    · exact .inl ⟨e, rfl⟩
    · cases seen with
      | none =>
        refine (hnext none hseen).imp_right ?_
        rintro ⟨statuses, blockHeights, hstatus, rfl⟩
        refine ⟨statuses, blockHeights, ?_⟩
        rw [confirmLoop, hstatus]
        split <;> rfl
      | some seen =>
        dsimp only at hseen
        split at hseen
        · rename_i err herr
          obtain ⟨-, rfl⟩ := Interaction.exchanges_done.1 hseen
          refine .inr ⟨fun _ => some seen, fun _ => 0, ?_⟩
          simp [confirmLoop, herr, Except.mapError]
        · rename_i herr
          split at hseen
          · rename_i hsatisfied
            obtain ⟨-, rfl⟩ := Interaction.exchanges_done.1 hseen
            refine .inr ⟨fun _ => some seen, fun _ => 0, ?_⟩
            simp [confirmLoop, herr, hsatisfied, Except.mapError]
          · rename_i hsatisfied
            refine (hnext (some seen) hseen).imp_right ?_
            rintro ⟨statuses, blockHeights, hstatus, rfl⟩
            refine ⟨statuses, blockHeights, ?_⟩
            simp only [confirmLoop, hstatus, herr, hsatisfied]
            split <;> rfl

/-! ## Lookup tables that were read -/

/-- The table is what the account with its address held. -/
def TableRead (events : List TransactionEvent) (commitment : RpcCommitment) (addressInput : String)
    (table : AddressLookupTable) : Prop :=
  table.address.toBase58 = addressInput ∧ ∃ account : RpcAccountInfo,
    ⟨.read (.getAccountInfo table.address commitment), .ok (some account)⟩ ∈ events ∧
      parseAddressLookupTableAccount table.address account.data = .ok table

theorem TableRead.mono {events events' : List TransactionEvent} {addressInput : String}
    {table : AddressLookupTable} (h : TableRead events commitment addressInput table)
    (hsub : events ⊆ events') : TableRead events' commitment addressInput table := by
  obtain ⟨haddress, account, hmem, hparse⟩ := h
  exact ⟨haddress, account, hsub hmem, hparse⟩

theorem quiet_loadAddressLookupTables : ∀ addresses : List String,
    Quiet (loadAddressLookupTables client addresses)
  | [] => quiet_done _
  | addressInput :: addresses => by
    apply quiet_bind (quiet_check _)
    intro address
    apply quiet_bind (quiet_readAccountInfo _ _)
    intro account
    split
    · exact quiet_done _
    · apply quiet_bind (quiet_check _)
      intro table
      exact quiet_bind (quiet_loadAddressLookupTables addresses) fun _ => quiet_done _

theorem parseAddressLookupTableAccount_address {tableAddress : PublicKey} {accountData : Bytes}
    {table : AddressLookupTable}
    (h : parseAddressLookupTableAccount tableAddress accountData = .ok table) :
    table.address = tableAddress := by
  unfold parseAddressLookupTableAccount at h
  split at h
  · cases h
  · split at h
    · cases h
    · obtain ⟨addresses, -, hret⟩ := Except.bind_eq_ok.1 h
      cases hret
      rfl

theorem loadAddressLookupTables_read : ∀ {addresses : List String}
    {events : List TransactionEvent} {tables : List AddressLookupTable},
    (loadAddressLookupTables client addresses).Exchanges events (.ok tables) →
      List.Forall₂ (TableRead events client.commitment) addresses tables
  | [], events, tables, h => by
    cases (Interaction.exchanges_done.1 h).2
    exact .nil
  | addressInput :: addresses, events, tables, h => by
    obtain ⟨address, haddress, hread⟩ := exchanges_check_ok.1 h
    obtain ⟨answer, account, later, rfl : answer = _, rfl, haccount⟩ := exchanges_request_ok.1 hread
    cases account with
    | none => cases (Interaction.exchanges_done.1 haccount).2
    | some account =>
      obtain ⟨table, htable, hrest⟩ := exchanges_check_ok.1 haccount
      obtain ⟨more, before, after, rfl, hmore, hret⟩ := exchanges_bind_ok.1 hrest
      obtain ⟨rfl, hret⟩ := Interaction.exchanges_done.1 hret
      cases hret
      have hsame := parseAddressLookupTableAccount_address htable
      subst hsame
      refine .cons ⟨decodePublicKey_ok haddress, account, List.mem_cons_self, htable⟩ ?_
      refine (loadAddressLookupTables_read hmore).imp fun _ _ hone => hone.mono ?_
      simp

theorem tableRead_addresses {addresses : List String} {tables : List AddressLookupTable}
    (h : List.Forall₂ (TableRead events commitment) addresses tables) :
    tables.map (·.address.toBase58) = addresses := by
  induction h with
  | nil => rfl
  | cons hone _ ih => rw [List.map_cons, hone.1, ih]

end

/-! ## What a transaction needs before it is sent -/

section

variable (client : ChanceryClient) (ed25519 : Ed25519) (inspection : SettlementInspection)
  (request : SettlementTransactionRequest)

/-- The commitment that the requests are made with. -/
def SettlementTransactionRequest.commitmentFor : RpcCommitment :=
  request.commitment.getD client.commitment

/-- What was read and checked for a prepared transaction. -/
structure Prepared (events : List TransactionEvent) (prepared : PreparedSettlementTransaction) :
    Prop where
  inspected : prepared.inspection = inspection
  ready : inspection.ready = true
  unexpired : ∃ slot : Nat,
    ⟨.read (.getSlot (request.commitmentFor client)), .ok slot⟩ ∈ events ∧
      slot ≤ inspection.observation.expiresAfterSlot
  instruction : buildInstruction client inspection = .ok prepared.instruction
  blockhash : ⟨.getLatestBlockhash (request.commitmentFor client),
    .ok ⟨prepared.recentBlockhash, prepared.lastValidBlockHeight⟩⟩ ∈ events
  lookupTables : List.Forall₂ (TableRead events client.commitment)
    request.addressLookupTableAddresses prepared.lookupTables
  signed : ∃ feePayer, decodePublicKey request.feePayer = .ok feePayer ∧ (do
    let message ← compileMessage [solanaInstruction prepared.instruction] feePayer
      prepared.recentBlockhash prepared.lookupTables
    signSolanaTransaction ed25519 message request.keypairs) = .ok prepared.transaction

/-- The transaction asks for the prepared instruction and nothing else, as the wire format reads
it with the lookup tables. -/
def AsksFor (prepared : PreparedSettlementTransaction) (transaction : Bytes) : Prop :=
  ∃ feePayer signatures message keys, decodePublicKey request.feePayer = .ok feePayer ∧
    decodeTransaction transaction = .ok (signatures, message) ∧
    message.keys (knownTables prepared.lookupTables) = some keys ∧
    CarriesOut [solanaInstruction prepared.instruction] feePayer prepared.recentBlockhash message
      keys

/-- What has to be said before a transaction is sent. -/
def SettlementPermits (before : List TransactionEvent) : TransactionCall → Prop
  | .sendTransaction transaction commitment skipPreflight _ =>
    commitment = request.commitmentFor client ∧ skipPreflight = false ∧
      Simulated before transaction ∧
      ∃ prepared, Prepared client ed25519 inspection request before prepared ∧
        transaction = prepared.transaction.bytes ∧
        (request.addressLookupTableAddresses.Nodup → AsksFor request prepared transaction)
  | _ => True

/-- What a submission comes to. -/
structure Submitted (events : List TransactionEvent) (submitted : SubmittedSettlementTransaction) :
    Prop where
  prepared : Prepared client ed25519 inspection request events submitted.prepared
  sent : sentTransactions events = [submitted.prepared.transaction.bytes]
  signature : ⟨.sendTransaction submitted.prepared.transaction.bytes (request.commitmentFor client)
    false 5, .ok submitted.signature⟩ ∈ events
  status : ⟨.getSignatureStatus submitted.signature, .ok (some submitted.status)⟩ ∈ events
  confirmed : submitted.status.err = none ∧
    commitmentSatisfied submitted.status.confirmationStatus (request.commitmentFor client) = true

variable {client ed25519 inspection request}

theorem Prepared.asksFor {events : List TransactionEvent} {prepared : PreparedSettlementTransaction}
    (h : Prepared client ed25519 inspection request events prepared)
    (hdistinct : request.addressLookupTableAddresses.Nodup) :
    AsksFor request prepared prepared.transaction.bytes := by
  obtain ⟨feePayer, hfeePayer, hsigned⟩ := h.signed
  have haddresses : (prepared.lookupTables.map (·.address)).Nodup := by
    apply List.Nodup.of_map PublicKey.toBase58
    rw [List.map_map]
    show (prepared.lookupTables.map (·.address.toBase58)).Nodup
    rwa [tableRead_addresses h.lookupTables]
  obtain ⟨message, keys, hdecode, -, -, hkeys, hcarries⟩ :=
    signedTransaction_resolves haddresses hsigned
  exact ⟨feePayer, _, message, keys, hfeePayer, hdecode, hkeys, hcarries⟩

theorem Prepared.mono {events events' : List TransactionEvent}
    {prepared : PreparedSettlementTransaction}
    (h : Prepared client ed25519 inspection request events prepared) (hsub : events ⊆ events') :
    Prepared client ed25519 inspection request events' prepared where
  inspected := h.inspected
  ready := h.ready
  unexpired := h.unexpired.imp fun _ hslot => hslot.imp_left fun hmem => hsub hmem
  instruction := h.instruction
  blockhash := hsub h.blockhash
  lookupTables := h.lookupTables.imp fun _ _ hone => hone.mono hsub
  signed := h.signed

theorem quiet_prepareTransaction :
    Quiet (prepareTransaction client ed25519 inspection request) := by
  apply quiet_bind (quiet_request rfl)
  intro slot
  apply quiet_bind (quiet_check _)
  intro _
  apply quiet_bind (quiet_check _)
  intro instruction
  apply quiet_bind (quiet_check _)
  intro feePayer
  apply quiet_bind (quiet_request rfl)
  intro latestBlockhash
  apply quiet_bind (quiet_loadAddressLookupTables _)
  intro lookupTables
  apply quiet_bind (quiet_check _)
  intro message
  exact quiet_bind (quiet_check _) fun _ => quiet_done _

theorem prepareTransaction_prepared {events : List TransactionEvent}
    {prepared : PreparedSettlementTransaction}
    (h : (prepareTransaction client ed25519 inspection request).Exchanges events (.ok prepared)) :
    Prepared client ed25519 inspection request events prepared := by
  obtain ⟨answer, slot, later, rfl : answer = _, rfl, hslot⟩ := exchanges_request_ok.1 h
  obtain ⟨_, hexpired, hbuilds⟩ := exchanges_check_ok.1 hslot
  obtain ⟨instruction, hinstruction, hpays⟩ := exchanges_check_ok.1 hbuilds
  obtain ⟨feePayer, hfeePayer, hasks⟩ := exchanges_check_ok.1 hpays
  obtain ⟨answer, latest, later, rfl : answer = _, rfl, hloads⟩ := exchanges_request_ok.1 hasks
  obtain ⟨tables, before, after, rfl, htables, hcompiles⟩ := exchanges_bind_ok.1 hloads
  obtain ⟨message, hmessage, hsigns⟩ := exchanges_check_ok.1 hcompiles
  obtain ⟨transaction, htransaction, hret⟩ := exchanges_check_ok.1 hsigns
  obtain ⟨rfl, hret⟩ := Interaction.exchanges_done.1 hret
  cases hret
  obtain ⟨_, hready, -⟩ := Except.bind_eq_ok.1 hinstruction
  exact {
    inspected := rfl
    ready := by simpa using rejectWhen_ok.1 hready
    unexpired := ⟨slot, List.mem_cons_self, not_lt.1 (rejectWhen_ok.1 hexpired)⟩
    instruction := hinstruction
    blockhash := List.mem_cons_of_mem _ List.mem_cons_self
    lookupTables := (loadAddressLookupTables_read htables).imp fun _ _ hone => hone.mono (by simp)
    signed := ⟨feePayer, hfeePayer, Except.bind_eq_ok.2 ⟨message, hmessage, htransaction⟩⟩ }

/-- A simulated settlement sends nothing, and its transaction is prepared and simulated. -/
theorem simulateSettlement_simulated {events : List TransactionEvent}
    {prepared : PreparedSettlementTransaction} {simulation : RpcSimulationResult}
    (h : (simulateSettlement client ed25519 inspection request).Exchanges events
      (.ok (prepared, simulation))) :
    Prepared client ed25519 inspection request events prepared ∧
      (simulation.err = none → Simulated events prepared.transaction.bytes) := by
  obtain ⟨prepared, before, after, rfl, hprepared, hsimulates⟩ := exchanges_bind_ok.1 h
  obtain ⟨answer, simulation, later, rfl : answer = _, rfl, hret⟩ :=
    exchanges_request_ok.1 hsimulates
  obtain ⟨rfl, hret⟩ := Interaction.exchanges_done.1 hret
  cases hret
  refine ⟨(prepareTransaction_prepared hprepared).mono (List.subset_append_left _ _), ?_⟩
  exact fun herr => ⟨_, _, simulation, List.mem_append_right _ List.mem_cons_self, herr⟩

theorem quiet_simulateSettlement :
    Quiet (simulateSettlement client ed25519 inspection request) := by
  apply quiet_bind quiet_prepareTransaction
  intro prepared
  exact quiet_bind (quiet_request rfl) fun _ => quiet_done _

theorem quiet_getChanceryEvents (signature : String) (commitment : RpcCommitment) :
    Quiet (getChanceryEvents client signature commitment) := by
  apply quiet_bind (quiet_request rfl)
  intro result
  split
  · exact quiet_done _
  · exact quiet_bind (quiet_check _) fun _ => quiet_done _

theorem settlementPermits_of_quiet (before : List TransactionEvent) (call : TransactionCall)
    (h : call.isSend = false) :
    SettlementPermits client ed25519 inspection request before call := by
  cases call with
  | sendTransaction => cases h
  | _ => exact trivial

variable (client ed25519 inspection request) in
/-- Every run of a submission, whatever comes back to its requests. -/
structure SettlementRun (events : List TransactionEvent)
    (result : Except TransactionError SubmittedSettlementTransaction) : Prop where
  guarded : Interaction.Guarded (SettlementPermits client ed25519 inspection request) events
  atMostOnce : (sentTransactions events).length ≤ 1
  submitted : ∀ submitted, result = .ok submitted →
    Submitted client ed25519 inspection request events submitted

/-- Nothing was sent, and nothing submitted. -/
theorem SettlementRun.unsent {events : List TransactionEvent} (e : TransactionError)
    (h : sentTransactions events = []) :
    SettlementRun client ed25519 inspection request events (.error e) where
  guarded := guarded_of_nil settlementPermits_of_quiet h
  atMostOnce := by simp [h]
  submitted := by
    intro submitted hresult
    cases hresult

theorem submitTransaction_exchange {events : List TransactionEvent}
    {result : Except TransactionError SubmittedSettlementTransaction}
    (h : (submitTransaction client ed25519 inspection request).Exchanges events result) :
    SettlementRun client ed25519 inspection request events result := by
  rcases Interaction.exchanges_bind.1 h with ⟨e, he, rfl⟩ |
    ⟨⟨prepared, simulation⟩, before, after, rfl, hsimulate, hrest⟩
  · exact .unsent e (quiet_simulateSettlement _ _ he)
  have hquiet := quiet_simulateSettlement _ _ hsimulate
  obtain ⟨hprepared, hsimulated⟩ := simulateSettlement_simulated hsimulate
  dsimp only at hrest
  split at hrest
  · obtain ⟨rfl, rfl⟩ := Interaction.exchanges_done.1 hrest
    exact .unsent _ (by simp [hquiet])
  · rename_i herr
    have hpermits : SettlementPermits client ed25519 inspection request before
        (.sendTransaction prepared.transaction.bytes (request.commitmentFor client) false 5) :=
      ⟨rfl, rfl, hsimulated (by simpa using herr), prepared, hprepared, rfl, hprepared.asksFor⟩
    obtain ⟨answer, ⟨e, -, rfl, rfl⟩ | ⟨signature, later, hanswer, rfl, hconfirms⟩⟩ :=
      exchanges_request.1 hrest
    · exact {
        guarded := guarded_send settlementPermits_of_quiet hquiet rfl hpermits
        atMostOnce := by simp [hquiet]
        submitted := fun _ hresult => by cases hresult }
    · have hlater : sentTransactions later = [] := by
        refine quiet_bind (quiet_awaitConfirmation _) (fun status => ?_) _ _ hconfirms
        apply quiet_bind (quiet_request rfl)
        intro transaction
        exact quiet_bind (quiet_getChanceryEvents _ _) fun _ => quiet_done _
      have hsent : sentTransactions (before ++ ⟨.sendTransaction prepared.transaction.bytes
          (request.commitmentFor client) false 5, answer⟩ :: later) =
          [prepared.transaction.bytes] := by
        rw [sentTransactions_append, sentTransactions_cons, hquiet, hlater]
        rfl
      refine ⟨guarded_send settlementPermits_of_quiet hquiet hlater hpermits, ?_, ?_⟩
      · exact (congrArg List.length hsent).le
      · rintro submitted rfl
        obtain ⟨status, confirming, fetching, rfl, hstatus, hfetches⟩ :=
          exchanges_bind_ok.1 hconfirms
        obtain ⟨_, transaction, later, -, rfl, hevents⟩ := exchanges_request_ok.1 hfetches
        obtain ⟨events, _, _, -, -, hret⟩ := exchanges_bind_ok.1 hevents
        obtain ⟨-, hret⟩ := Interaction.exchanges_done.1 hret
        cases hret
        obtain ⟨hseen, hconfirmed⟩ := awaitConfirmation_confirmed hstatus
        obtain rfl : answer = _ := hanswer
        exact {
          prepared := hprepared.mono (List.subset_append_left _ _)
          sent := hsent
          signature := by simp [SettlementTransactionRequest.commitmentFor]
          status := by simp [hseen]
          confirmed := hconfirmed }

/-- **Nothing is sent unchecked**, whatever the node answers and however far a run gets: a
transaction is sent at most once, only for a ready inspection whose slot has not passed, as
exactly the bytes that were simulated without an error, which ask for the inspected instruction
and nothing else; a submission that returns saw its signature confirmed. -/
theorem submitTransaction_guarded (client : ChanceryClient) (ed25519 : Ed25519)
    (inspection : SettlementInspection) (request : SettlementTransactionRequest)
    (node : List TransactionEvent → (call : TransactionCall) → call.Answer) :
    SettlementRun client ed25519 inspection request
      ((submitTransaction client ed25519 inspection request).record node []).1
      ((submitTransaction client ed25519 inspection request).record node []).2 := by
  obtain ⟨events, hevents, h⟩ := Interaction.exchanges_record node []
    (submitTransaction client ed25519 inspection request)
  rw [hevents, List.nil_append]
  exact submitTransaction_exchange h

end

end Chancery
