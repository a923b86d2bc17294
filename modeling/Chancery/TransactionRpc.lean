import Chancery.Confirmation
import Chancery.Lib.Exchange
import Chancery.SolanaTransaction

/-!
# Programs that send transactions

The requests of `typescript/src/ChanceryRpc.ts` that sending a transaction takes, with the clock
and the random bytes of the platform, and what a record of them says.

* `TransactionCall`, `Transacts` — a request, and a program over them; `exchanges_request`.
* `sentTransactions` — the transactions that were sent, in order.
* `Simulated`, `Confirmed` — a transaction that was simulated without an error, a signature that
  was seen confirmed.
-/

set_option autoImplicit false

namespace Chancery

/-- A blockhash with its last valid height. -/
structure RpcLatestBlockhash where
  blockhash : PublicKey
  lastValidBlockHeight : Nat

/-- `null` is none; `raw` holds the same once more. -/
structure RpcSimulationResult where
  err : Option Value
  logs : Option (List String)
  unitsConsumed : Option Nat
  returnData : Option Value
  accounts : Option Value

/-- The calls of a transaction client. -/
inductive TransactionCall where
  | read (request : RpcRequest)
  | getGenesisHash
  | getLatestBlockhash (commitment : RpcCommitment)
  | getBlockHeight (commitment : RpcCommitment)
  | simulateTransaction (transaction : Bytes) (commitment : RpcCommitment)
      (signatureVerification : Bool)
  | sendTransaction (transaction : Bytes) (commitment : RpcCommitment) (skipPreflight : Bool)
      (maximumRetries : Nat)
  | getSignatureStatus (signature : String)
  | getTransaction (signature : String) (commitment : RpcCommitment)
  | now
  | delay (milliseconds : Nat)
  | randomBytes (size : Nat)

/-- What a call returns. -/
def TransactionCall.Answer : TransactionCall → Type
  | .read request => request.Answer
  | .getGenesisHash => Except String String
  | .getLatestBlockhash _ => Except String RpcLatestBlockhash
  | .getBlockHeight _ => Except String Nat
  | .simulateTransaction _ _ _ => Except String RpcSimulationResult
  | .sendTransaction _ _ _ _ => Except String String
  | .getSignatureStatus _ => Except String (Option RpcSignatureStatus)
  | .getTransaction _ _ => Except String Value
  | .now => Nat
  | .delay _ => Unit
  | .randomBytes size => { bytes : Bytes // bytes.length = size }

/-- `unfinished` is no error of the code: the model followed a loop no further. -/
inductive TransactionError where
  | message (text : String)
  | simulationFailed (stage : String) (simulation : RpcSimulationResult)
  | confirmation (error : ConfirmationError)
  | unfinished

/-- A sequence of calls. -/
abbrev Transacts := Interaction TransactionCall.Answer TransactionError

/-- A call with its answer. -/
abbrev TransactionEvent := Interaction.Event TransactionCall.Answer

instance : MonadLift (Except String) Transacts where
  monadLift result := .done (result.mapError .message)

/-- Await a request that may fail. -/
def request {α : Type} (call : TransactionCall) (read : call.Answer → Except String α) :
    Transacts α :=
  .call call fun answer => .done ((read answer).mapError .message)

/-- A failure, without a call. -/
def failWith {α : Type} (error : TransactionError) : Transacts α := .done (.error error)

/-- One account. -/
def readAccountInfo (address : PublicKey) (commitment : RpcCommitment) :
    Transacts (Option RpcAccountInfo) :=
  request (.read (.getAccountInfo address commitment)) id

/-- The current clock. -/
def readClock (commitment : RpcCommitment) : Transacts RpcClock := do
  let account ← readAccountInfo clockSysvarAddress commitment
  parseClock account

/-- The latest blockhash. -/
def getLatestBlockhash (commitment : RpcCommitment) : Transacts RpcLatestBlockhash :=
  request (.getLatestBlockhash commitment) id

/-- The current block height. -/
def getBlockHeight (commitment : RpcCommitment) : Transacts Nat :=
  request (.getBlockHeight commitment) id

/-- A simulation of a transaction. -/
def simulateTransaction (transaction : Bytes) (commitment : RpcCommitment)
    (signatureVerification : Bool) : Transacts RpcSimulationResult :=
  request (.simulateTransaction transaction commitment signatureVerification) id

/-- The one call that hands over a transaction. -/
def sendTransaction (transaction : Bytes) (commitment : RpcCommitment) (skipPreflight : Bool)
    (maximumRetries : Nat) : Transacts String :=
  request (.sendTransaction transaction commitment skipPreflight maximumRetries) id

/-- The status of a signature. -/
def getSignatureStatus (signature : String) : Transacts (Option RpcSignatureStatus) :=
  request (.getSignatureStatus signature) id

/-- `await delay(milliseconds)` -/
def delay (milliseconds : Nat) : Transacts Unit := request (.delay milliseconds) .ok

/-- `Date.now()` -/
def now : Transacts Nat := request .now .ok

/-! ## Exchanges -/

section

variable {α β : Type} {events : List TransactionEvent}

/-- A request fails and ends the program, or it goes on with the answer. -/
theorem exchanges_request {call : TransactionCall} {read : call.Answer → Except String α}
    {f : α → Transacts β} {result : Except TransactionError β} :
    (request call read >>= f).Exchanges events result ↔
      ∃ answer, (∃ e, read answer = .error e ∧ events = [⟨call, answer⟩] ∧
          result = .error (.message e)) ∨
        ∃ a later, read answer = .ok a ∧ events = ⟨call, answer⟩ :: later ∧
          (f a).Exchanges later result := by
  unfold request
  rw [Interaction.bind_eq]
  simp only [Interaction.bind, Interaction.exchanges_call]
  refine exists_congr fun answer => ?_
  cases h : read answer with
  | error e =>
    simp only [Except.mapError, Interaction.bind, Interaction.exchanges_done]
    aesop
  | ok a =>
    simp only [Except.mapError, Interaction.bind]
    aesop

/-- A program that returns has its request answered. -/
theorem exchanges_request_ok {call : TransactionCall} {read : call.Answer → Except String α}
    {f : α → Transacts β} {b : β} :
    (request call read >>= f).Exchanges events (.ok b) ↔
      ∃ answer a later, read answer = .ok a ∧ events = ⟨call, answer⟩ :: later ∧
        (f a).Exchanges later (.ok b) := by
  simp [exchanges_request]

theorem exchanges_check {x : Except String α} {f : α → Transacts β}
    {result : Except TransactionError β} :
    ((liftM x : Transacts α) >>= f).Exchanges events result ↔
      (∃ e, x = .error e ∧ events = [] ∧ result = .error (.message e)) ∨
      ∃ a, x = .ok a ∧ (f a).Exchanges events result := by
  cases x with
  | error e =>
    show (Interaction.done _).Exchanges events result ↔ _
    simp
  | ok a =>
    show (f a).Exchanges events result ↔ _
    simp

theorem exchanges_check_ok {x : Except String α} {f : α → Transacts β} {b : β} :
    ((liftM x : Transacts α) >>= f).Exchanges events (.ok b) ↔
      ∃ a, x = .ok a ∧ (f a).Exchanges events (.ok b) := by
  simp [exchanges_check]

/-- A check at the end of a program. -/
theorem exchanges_check_done {x : Except String α} {a : α} :
    (liftM x : Transacts α).Exchanges events (.ok a) ↔ events = [] ∧ x = .ok a := by
  show (Interaction.done _).Exchanges events (.ok a) ↔ _
  cases x <;> simp [Except.mapError, eq_comm]

theorem exchanges_bind_ok {p : Transacts α} {f : α → Transacts β} {b : β} :
    (p >>= f).Exchanges events (.ok b) ↔ ∃ a before after, events = before ++ after ∧
      p.Exchanges before (.ok a) ∧ (f a).Exchanges after (.ok b) := by
  simp [Interaction.exchanges_bind]

end

/-! ## What a record says -/

/-- Whether a call hands over a transaction. -/
def TransactionCall.isSend : TransactionCall → Bool
  | .sendTransaction _ _ _ _ => true
  | _ => false

/-- The transactions that were sent, in order. -/
def sentTransactions (events : List TransactionEvent) : List Bytes :=
  events.filterMap fun event => match event.1 with
    | .sendTransaction transaction _ _ _ => some transaction
    | _ => none

/-- The transaction was simulated and nothing went wrong there. -/
def Simulated (events : List TransactionEvent) (transaction : Bytes) : Prop :=
  ∃ commitment verification simulation,
    ⟨.simulateTransaction transaction commitment verification, .ok simulation⟩ ∈ events ∧
      simulation.err = none

/-- The status was seen: no error, and the commitment is reached. -/
def Confirmed (events : List TransactionEvent) (signature : String)
    (commitment : RpcCommitment) : Prop :=
  ∃ status : RpcSignatureStatus, ⟨.getSignatureStatus signature, .ok (some status)⟩ ∈ events ∧
    status.err = none ∧ commitmentSatisfied status.confirmationStatus commitment = true

@[simp] theorem sentTransactions_nil : sentTransactions [] = [] := rfl

@[simp] theorem sentTransactions_append (before after : List TransactionEvent) :
    sentTransactions (before ++ after) = sentTransactions before ++ sentTransactions after :=
  List.filterMap_append

theorem sentTransactions_cons (event : TransactionEvent) (events : List TransactionEvent) :
    sentTransactions (event :: events) = sentTransactions [event] ++ sentTransactions events :=
  sentTransactions_append [event] events

@[simp] theorem sentTransactions_send (transaction : Bytes) (commitment : RpcCommitment)
    (skipPreflight : Bool) (maximumRetries : Nat)
    (answer : (TransactionCall.sendTransaction transaction commitment skipPreflight
      maximumRetries).Answer) :
    sentTransactions [⟨.sendTransaction transaction commitment skipPreflight maximumRetries,
      answer⟩] = [transaction] := rfl

@[simp] theorem sentTransactions_singleton_eq_nil {event : TransactionEvent} :
    sentTransactions [event] = [] ↔ event.1.isSend = false := by
  obtain ⟨call, answer⟩ := event
  cases call <;> simp [sentTransactions, TransactionCall.isSend]

theorem Simulated.append {events : List TransactionEvent} {transaction : Bytes}
    (h : Simulated events transaction) (before after : List TransactionEvent) :
    Simulated (before ++ events ++ after) transaction := by
  obtain ⟨commitment, verification, simulation, hmem, herr⟩ := h
  exact ⟨commitment, verification, simulation,
    List.mem_append_left _ (List.mem_append_right _ hmem), herr⟩

/-! ## Programs that send nothing -/

/-- No run hands over a transaction. -/
def Quiet {α : Type} (p : Transacts α) : Prop :=
  ∀ events result, p.Exchanges events result → sentTransactions events = []

section

variable {α β : Type}

theorem quiet_done (result : Except TransactionError α) : Quiet (.done result : Transacts α) := by
  intro events result' h
  rw [(Interaction.exchanges_done.1 h).1, sentTransactions_nil]

theorem quiet_check (x : Except String α) : Quiet (liftM x : Transacts α) := quiet_done _

theorem quiet_request {call : TransactionCall} {read : call.Answer → Except String α}
    (h : call.isSend = false) : Quiet (request call read) := by
  intro events result hrun
  obtain ⟨answer, later, rfl, hlater⟩ := Interaction.exchanges_call.1 hrun
  rw [(Interaction.exchanges_done.1 hlater).1, sentTransactions_singleton_eq_nil]
  exact h

theorem quiet_bind {p : Transacts α} {f : α → Transacts β} (hp : Quiet p) (hf : ∀ a, Quiet (f a)) :
    Quiet (p >>= f) := by
  intro events result h
  rcases Interaction.exchanges_bind.1 h with ⟨e, he, -⟩ | ⟨a, before, after, rfl, ha, hb⟩
  · exact hp _ _ he
  · rw [sentTransactions_append, hp _ _ ha, hf a _ _ hb, List.nil_append]

end

/-! ## Guards on what is sent -/

section

variable {permitted : List TransactionEvent → TransactionCall → Prop}
  {before after events : List TransactionEvent}

theorem isSend_of_nil (h : sentTransactions events = []) : ∀ event ∈ events,
    event.1.isSend = false := by
  intro event hevent
  obtain ⟨before, after, rfl⟩ := List.append_of_mem hevent
  rw [sentTransactions_append, sentTransactions_cons, List.append_eq_nil_iff,
    List.append_eq_nil_iff, sentTransactions_singleton_eq_nil] at h
  exact h.2.1

/-- What sends nothing is permitted where only sending is restricted. -/
theorem guarded_of_nil (hpermitted : ∀ before call, call.isSend = false → permitted before call)
    (h : sentTransactions events = []) : Interaction.Guarded permitted events := by
  intro before event hinit
  exact hpermitted before event.1 (isSend_of_nil h event (hinit.subset (by simp)))

/-- One transaction between exchanges that send none. -/
theorem guarded_send {event : TransactionEvent}
    (hpermitted : ∀ before call, call.isSend = false → permitted before call)
    (hbefore : sentTransactions before = []) (hafter : sentTransactions after = [])
    (hevent : permitted before event.1) :
    Interaction.Guarded permitted (before ++ event :: after) := by
  refine Interaction.guarded_append (guarded_of_nil hpermitted hbefore) ?_
  refine Interaction.guarded_cons (by simpa using hevent) ?_
  exact guarded_of_nil (fun _ _ hcall => hpermitted _ _ hcall) hafter

end

theorem quiet_readAccountInfo (address : PublicKey) (commitment : RpcCommitment) :
    Quiet (readAccountInfo address commitment) := quiet_request rfl

theorem quiet_readClock (commitment : RpcCommitment) : Quiet (readClock commitment) :=
  quiet_bind (quiet_readAccountInfo _ _) fun _ => quiet_check _

end Chancery
