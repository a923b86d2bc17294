import Chancery.Lib.Interaction

/-!
# Settlement execution

Model of `executePreparedMarketMakerSettlement` in `integration/typescript/src/settlement_execution.ts`,
`integration/python/chancery_integration/settlement_execution.py` and
`integration/rust/src/settlement_execution.rs`: five calls to an execution port, each after the
one before it succeeded.  The port may answer anything, and may remember.

* `ExecutionLanguage` — the values of the three languages that the port deals in.
* `executePreparedMarketMakerSettlement` — the five steps.
* `Executes` — every way a run can go; `executes_record`.
* `execution_disciplined` — no step out of order, nothing submitted without a trace.
-/

set_option autoImplicit false

namespace Chancery

/-- What a market maker's settlement does. -/
inductive MarketMakerSettlementAction where
  | mint
  | redeem
  deriving DecidableEq

/-- The body is what the port is shown besides the action; the execution does not look at it. -/
structure PreparedMarketMakerSettlement (Body : Type) where
  action : MarketMakerSettlementAction
  body : Body

/-- A settlement that was executed. -/
structure ExecutedMarketMakerSettlement where
  action : MarketMakerSettlementAction
  signature : String

/-- The stage at which an execution fails. -/
inductive SettlementExecutionStage where
  | preparation
  | simulation
  | submission
  | confirmation
  | reconciliation
  deriving DecidableEq

/-- A failure with its stage, and the signature once there is one. -/
structure SettlementExecutionError where
  stage : SettlementExecutionStage
  message : String
  signature : Option String := none

/-! ## Languages -/

/-- How a language's port fails, and how it turns a simulation or a confirmation down. -/
structure ExecutionLanguage where
  Failure : Type
  errorMessage : Failure → String
  Simulation : Type
  simulationRejection : Simulation → Option String
  Confirmation : Type
  confirmationRejection : Confirmation → Option String
  isWhitespace : Char → Bool

/-- What all three languages strip off a string. -/
def isSpace (c : Char) : Bool :=
  let code := c.toNat
  (9 ≤ code && code ≤ 13) || code == 0x20 || code == 0xa0 || code == 0x1680 ||
    (0x2000 ≤ code && code ≤ 0x200a) || code == 0x2028 || code == 0x2029 || code == 0x202f ||
    code == 0x205f || code == 0x3000

/-- A text without the blanks at its ends. -/
def trim (isWhitespace : Char → Bool) (text : String) : String :=
  String.ofList ((text.toList.dropWhile isWhitespace).reverse.dropWhile isWhitespace).reverse

/-- What JavaScript code may throw. -/
inductive Thrown where
  | error (message : String)
  | other (text : String)

/-- The message of whatever a port throws. -/
def executionErrorMessage : Thrown → String
  | .error message => message
  | .other text => text

/-- What a simulation reports. -/
inductive SettlementSimulationResult where
  | accepted
  | rejected (reason : String)

/-- The reason for a rejection, when there is one. -/
def SettlementSimulationResult.rejection : SettlementSimulationResult → Option String
  | accepted => none
  | rejected reason => some reason

/-- What a confirmation reports. -/
inductive SettlementConfirmationResult where
  | confirmed
  | rejected (reason : String)

def SettlementConfirmationResult.rejection : SettlementConfirmationResult → Option String
  | confirmed => none
  | rejected reason => some reason

/-- `String.prototype.trim` strips the byte-order mark as well. -/
def ExecutionLanguage.typescript : ExecutionLanguage where
  Failure := Thrown
  errorMessage := executionErrorMessage
  Simulation := SettlementSimulationResult
  simulationRejection := SettlementSimulationResult.rejection
  Confirmation := SettlementConfirmationResult
  confirmationRejection := SettlementConfirmationResult.rejection
  isWhitespace := fun c => isSpace c || c.toNat == 0xfeff

namespace Python

/-- What a simulation reports. -/
structure SettlementSimulationResult where
  accepted : Bool
  reason : Option String := none

/-- What a confirmation reports. -/
structure SettlementConfirmationResult where
  confirmed : Bool
  reason : Option String := none

/-- `reason or fallback`: an empty reason is no reason. -/
def reasonOr (reason : Option String) (fallback : String) : String :=
  match reason with
  | none | some "" => fallback
  | some reason => reason

def SettlementSimulationResult.rejection (result : SettlementSimulationResult) : Option String :=
  if result.accepted then none
  else some (reasonOr result.reason "Settlement simulation was rejected")

def SettlementConfirmationResult.rejection (result : SettlementConfirmationResult) :
    Option String :=
  if result.confirmed then none else some (reasonOr result.reason "Settlement was not confirmed")

end Python

/-- `str.strip` strips the information separators and the next-line character as well. -/
def ExecutionLanguage.python : ExecutionLanguage where
  Failure := String
  errorMessage := id
  Simulation := Python.SettlementSimulationResult
  simulationRejection := Python.SettlementSimulationResult.rejection
  Confirmation := Python.SettlementConfirmationResult
  confirmationRejection := Python.SettlementConfirmationResult.rejection
  isWhitespace := fun c => isSpace c || (0x1c ≤ c.toNat && c.toNat ≤ 0x1f) || c.toNat == 0x85

/-- The Rust executor. -/
def ExecutionLanguage.rust : ExecutionLanguage where
  Failure := String
  errorMessage := id
  Simulation := SettlementSimulationResult
  simulationRejection := SettlementSimulationResult.rejection
  Confirmation := SettlementConfirmationResult
  confirmationRejection := SettlementConfirmationResult.rejection
  isWhitespace := fun c => isSpace c || c.toNat == 0x85

/-- Whether nothing but blanks is left of a text. -/
def ExecutionLanguage.blank (L : ExecutionLanguage) (text : String) : Bool :=
  (trim L.isWhitespace text).isEmpty

/-! ## The port -/

section

variable (L : ExecutionLanguage) (Body Transaction : Type)

/-- A call of the port. -/
inductive PortCall where
  | prepareTransaction (settlement : PreparedMarketMakerSettlement Body)
  | simulate (transaction : Transaction) (settlement : PreparedMarketMakerSettlement Body)
  | submit (transaction : Transaction) (settlement : PreparedMarketMakerSettlement Body)
  | confirm (signature : String) (settlement : PreparedMarketMakerSettlement Body)
  | reconcile (signature : String) (settlement : PreparedMarketMakerSettlement Body)

variable {Body Transaction}

/-- A call returns a value of its type or fails. -/
def PortAnswer : PortCall Body Transaction → Type
  | .prepareTransaction _ => Except L.Failure Transaction
  | .simulate _ _ => Except L.Failure L.Simulation
  | .submit _ _ => Except L.Failure String
  | .confirm _ _ => Except L.Failure L.Confirmation
  | .reconcile _ _ => Except L.Failure Unit

/-- The stage that a call belongs to. -/
def PortCall.stage : PortCall Body Transaction → SettlementExecutionStage
  | prepareTransaction _ => .preparation
  | simulate _ _ => .simulation
  | submit _ _ => .submission
  | confirm _ _ => .confirmation
  | reconcile _ _ => .reconciliation

/-- What the execution goes on with after a call. -/
def PortGain : PortCall Body Transaction → Type
  | .prepareTransaction _ => Transaction
  | .submit _ _ => String
  | _ => Unit

/-- `catch` and the check of the answer that follows it. -/
def verdict : (call : PortCall Body Transaction) → PortAnswer L call → Except String (PortGain call)
  | .prepareTransaction _, .ok transaction => .ok transaction
  | .prepareTransaction _, .error failure => .error (L.errorMessage failure)
  | .simulate _ _, .ok simulation => match L.simulationRejection simulation with
    | none => .ok ()
    | some reason => .error reason
  | .simulate _ _, .error failure => .error (L.errorMessage failure)
  | .submit _ _, .ok signature =>
    if L.blank signature then
      .error "Settlement submission returned an empty transaction signature"
    else .ok signature
  | .submit _ _, .error failure => .error (L.errorMessage failure)
  | .confirm _ _, .ok confirmation => match L.confirmationRejection confirmation with
    | none => .ok ()
    | some reason => .error reason
  | .confirm _ _, .error failure => .error (L.errorMessage failure)
  | .reconcile _ _, .ok () => .ok ()
  | .reconcile _ _, .error failure => .error (L.errorMessage failure)

/-- An execution over the port. -/
abbrev PortInteraction (Body Transaction : Type) :=
  Interaction (@PortAnswer L Body Transaction) SettlementExecutionError

/-- One step: call the port, stop with the stage when that goes wrong. -/
def performStep (call : PortCall Body Transaction) (signature : Option String) :
    PortInteraction L Body Transaction (PortGain call) := do
  let answer ← Interaction.ask call
  match verdict L call answer with
  | .error message => .done (.error ⟨call.stage, message, signature⟩)
  | .ok gain => return gain

/-- An execution: prepared, simulated, submitted and confirmed. -/
def executePreparedMarketMakerSettlement (settlement : PreparedMarketMakerSettlement Body) :
    PortInteraction L Body Transaction ExecutedMarketMakerSettlement := do
  let transaction : Transaction ← performStep L (.prepareTransaction settlement) none
  let () ← performStep L (.simulate transaction settlement) none
  let signature : String ← performStep L (.submit transaction settlement) none
  let () ← performStep L (.confirm signature settlement) (some signature)
  let () ← performStep L (.reconcile signature settlement) (some signature)
  return ⟨settlement.action, signature⟩

/-! ## Runs -/

/-- A call with its answer. -/
abbrev PortEvent (Body Transaction : Type) := Interaction.Event (@PortAnswer L Body Transaction)

variable {L}

theorem record_performStep
    {environment : List (PortEvent L Body Transaction) → (call : PortCall Body Transaction) →
      PortAnswer L call}
    {events : List (PortEvent L Body Transaction)} {call : PortCall Body Transaction}
    {signature : Option String} :
    (performStep L call signature).record environment events =
      (events ++ [⟨call, environment events call⟩],
        match verdict L call (environment events call) with
        | .error message => .error ⟨call.stage, message, signature⟩
        | .ok gain => .ok gain) := by
  unfold performStep
  rw [Interaction.record_bind]
  show Interaction.record environment (events ++ [⟨call, environment events call⟩]) _ = _
  cases verdict L call (environment events call) with
  | error message => rfl
  | ok gain => rfl

variable (L) in
/-- A call was answered so that the execution goes on. -/
def Succeeds (event : PortEvent L Body Transaction) : Prop :=
  ∃ gain, verdict L event.1 event.2 = .ok gain

/-- How far an execution has got, with what it goes on with. -/
inductive Progress (Transaction : Type) where
  | started
  | prepared (transaction : Transaction)
  | simulated (transaction : Transaction)
  | submitted (signature : String)
  | confirmed (signature : String)
  | reconciled (signature : String)

/-- The signature that was submitted. -/
def Progress.signature : Progress Transaction → Option String
  | started | prepared _ | simulated _ => none
  | submitted signature | confirmed signature | reconciled signature => some signature

/-- The stages that are passed. -/
def Progress.stages : Progress Transaction → List SettlementExecutionStage
  | started => []
  | prepared _ => [.preparation]
  | simulated _ => [.preparation, .simulation]
  | submitted _ => [.preparation, .simulation, .submission]
  | confirmed _ => [.preparation, .simulation, .submission, .confirmation]
  | reconciled _ => [.preparation, .simulation, .submission, .confirmation, .reconciliation]

section

variable (settlement : PreparedMarketMakerSettlement Body)

/-- The one call that is next, and where what it gains leads. -/
inductive Step : Progress Transaction → (call : PortCall Body Transaction) →
    (PortGain call → Progress Transaction) → Prop
  | prepare : Step .started (.prepareTransaction settlement) .prepared
  | simulate (transaction : Transaction) :
      Step (.prepared transaction) (.simulate transaction settlement) fun _ =>
        .simulated transaction
  | submit (transaction : Transaction) :
      Step (.simulated transaction) (.submit transaction settlement) .submitted
  | confirm (signature : String) :
      Step (.submitted signature) (.confirm signature settlement) fun _ => .confirmed signature
  | reconcile (signature : String) :
      Step (.confirmed signature) (.reconcile signature settlement) fun _ => .reconciled signature

variable (L)

/-- The progress that a run of calls makes. -/
inductive Reaches : Progress Transaction → List (PortEvent L Body Transaction) → Prop
  | start : Reaches .started []
  | step {progress : Progress Transaction} {events : List (PortEvent L Body Transaction)}
      {call : PortCall Body Transaction} {next : PortGain call → Progress Transaction}
      {answer : PortAnswer L call} {gain : PortGain call} (h : Reaches progress events)
      (hstep : Step settlement progress call next) (hgain : verdict L call answer = .ok gain) :
      Reaches (next gain) (events ++ [⟨call, answer⟩])

/-- A run makes all the steps, or the last of them fails. -/
inductive Executes : List (PortEvent L Body Transaction) →
    Except SettlementExecutionError ExecutedMarketMakerSettlement → Prop
  | completed {events : List (PortEvent L Body Transaction)} {signature : String}
      (h : Reaches L settlement (.reconciled signature) events) :
      Executes events (.ok ⟨settlement.action, signature⟩)
  | failed {progress : Progress Transaction} {events : List (PortEvent L Body Transaction)}
      {call : PortCall Body Transaction} {next : PortGain call → Progress Transaction}
      {answer : PortAnswer L call} {message : String} (h : Reaches L settlement progress events)
      (hstep : Step settlement progress call next)
      (hfailure : verdict L call answer = .error message) :
      Executes (events ++ [⟨call, answer⟩]) (.error ⟨call.stage, message, progress.signature⟩)

variable {L settlement}

/-- **One step of a run**: the call fails and ends it, or the rest goes on from there. -/
theorem executes_performStep
    {environment : List (PortEvent L Body Transaction) → (call : PortCall Body Transaction) →
      PortAnswer L call}
    {progress : Progress Transaction} {events : List (PortEvent L Body Transaction)}
    {call : PortCall Body Transaction} {next : PortGain call → Progress Transaction}
    {rest : PortGain call → PortInteraction L Body Transaction ExecutedMarketMakerSettlement}
    (h : Reaches L settlement progress events) (hstep : Step settlement progress call next)
    (hrest : ∀ gain events, Reaches L settlement (next gain) events →
      Executes L settlement ((rest gain).record environment events).1
        ((rest gain).record environment events).2) :
    Executes L settlement
      ((performStep L call progress.signature >>= rest).record environment events).1
      ((performStep L call progress.signature >>= rest).record environment events).2 := by
  rw [Interaction.record_bind, record_performStep]
  cases hverdict : verdict L call (environment events call) with
  | error message => exact .failed h hstep hverdict
  | ok gain => exact hrest gain _ (h.step hstep hverdict)

theorem executes_record
    (environment : List (PortEvent L Body Transaction) → (call : PortCall Body Transaction) →
      PortAnswer L call) (settlement : PreparedMarketMakerSettlement Body) :
    Executes L settlement
      ((executePreparedMarketMakerSettlement L settlement).record environment []).1
      ((executePreparedMarketMakerSettlement L settlement).record environment []).2 := by
  unfold executePreparedMarketMakerSettlement
  apply executes_performStep .start .prepare
  intro transaction events hprepared
  apply executes_performStep hprepared (.simulate transaction)
  intro _ events hsimulated
  apply executes_performStep hsimulated (.submit transaction)
  intro signature events hsubmitted
  apply executes_performStep hsubmitted (.confirm signature)
  intro _ events hconfirmed
  apply executes_performStep hconfirmed (.reconcile signature)
  intro _ events hreconciled
  exact .completed hreconciled

/-! ## What a step rests on -/

variable (L settlement)

/-- What has to have been said before a call. -/
def Permitted (events : List (PortEvent L Body Transaction)) : PortCall Body Transaction → Prop
  | .prepareTransaction shown => shown = settlement
  | .simulate transaction shown => shown = settlement ∧
    ⟨.prepareTransaction settlement, .ok transaction⟩ ∈ events
  | .submit transaction shown => shown = settlement ∧
    ⟨.prepareTransaction settlement, .ok transaction⟩ ∈ events ∧
    ∃ simulation, ⟨.simulate transaction settlement, .ok simulation⟩ ∈ events ∧
      L.simulationRejection simulation = none
  | .confirm signature shown => shown = settlement ∧ L.blank signature = false ∧
    ∃ transaction, ⟨.submit transaction settlement, .ok signature⟩ ∈ events
  | .reconcile signature shown => shown = settlement ∧ L.blank signature = false ∧
    (∃ transaction, ⟨.submit transaction settlement, .ok signature⟩ ∈ events) ∧
    ∃ confirmation, ⟨.confirm signature settlement, .ok confirmation⟩ ∈ events ∧
      L.confirmationRejection confirmation = none

/-- The nonblank signature that submission returned. -/
def submittedSignature (events : List (PortEvent L Body Transaction)) : Option String :=
  events.findSome? fun event => match event with
    | ⟨.submit _ _, .ok signature⟩ => if L.blank signature then none else some signature
    | _ => none

variable {L settlement}

theorem verdict_prepare_ok {answer : PortAnswer L (.prepareTransaction settlement)}
    {transaction : Transaction}
    (h : verdict L (.prepareTransaction settlement) answer = .ok transaction) :
    answer = .ok transaction := by
  cases answer with
  | error failure => cases h
  | ok prepared =>
    cases h
    rfl

theorem verdict_simulate_ok {transaction : Transaction}
    {answer : PortAnswer L (.simulate transaction settlement)} {gain : Unit}
    (h : verdict L (.simulate transaction settlement) answer = .ok gain) :
    ∃ simulation, answer = .ok simulation ∧ L.simulationRejection simulation = none := by
  cases answer with
  | error failure => cases h
  | ok simulation =>
    refine ⟨simulation, rfl, ?_⟩
    simp only [verdict] at h
    split at h
    · assumption
    · cases h

theorem verdict_submit_ok {transaction : Transaction}
    {answer : PortAnswer L (.submit transaction settlement)} {signature : String}
    (h : verdict L (.submit transaction settlement) answer = .ok signature) :
    answer = .ok signature ∧ L.blank signature = false := by
  cases answer with
  | error failure => cases h
  | ok submitted =>
    simp only [verdict] at h
    split at h
    · cases h
    · rename_i hblank
      cases h
      exact ⟨rfl, Bool.eq_false_iff.2 hblank⟩

theorem verdict_confirm_ok {signature : String}
    {answer : PortAnswer L (@PortCall.confirm Body Transaction signature settlement)}
    {gain : Unit} (h : verdict L (.confirm signature settlement) answer = .ok gain) :
    ∃ confirmation, answer = .ok confirmation ∧ L.confirmationRejection confirmation = none := by
  cases answer with
  | error failure => cases h
  | ok confirmation =>
    refine ⟨confirmation, rfl, ?_⟩
    simp only [verdict] at h
    split at h
    · assumption
    · cases h

/-- **Every call is permitted** by what was said before it. -/
theorem Reaches.permitted {progress : Progress Transaction}
    {events : List (PortEvent L Body Transaction)} (h : Reaches L settlement progress events) :
    ∀ {call : PortCall Body Transaction} {next : PortGain call → Progress Transaction},
      Step settlement progress call next → Permitted L settlement events call := by
  induction h with
  | start =>
    rintro _ _ ⟨⟩
    rfl
  | @step _ events _ _ answer _ _ hdone hgain ih =>
    intro call next hstep
    have hbefore := ih hdone
    have hold : ∀ {event last : PortEvent L Body Transaction}, event ∈ events →
        event ∈ events ++ [last] := List.mem_append_left _
    have hnew : ∀ {last : PortEvent L Body Transaction}, last ∈ events ++ [last] :=
      List.mem_append_right _ List.mem_cons_self
    cases hdone with
    | prepare =>
      cases hstep
      rw [verdict_prepare_ok hgain]
      exact ⟨rfl, hnew⟩
    | simulate transaction =>
      cases hstep
      obtain ⟨simulation, rfl, haccepted⟩ := verdict_simulate_ok hgain
      exact ⟨rfl, hold hbefore.2, simulation, hnew, haccepted⟩
    | submit transaction =>
      cases hstep
      obtain ⟨rfl, hblank⟩ := verdict_submit_ok hgain
      exact ⟨rfl, hblank, transaction, hnew⟩
    | confirm signature =>
      cases hstep
      obtain ⟨confirmation, rfl, hconfirmed⟩ := verdict_confirm_ok hgain
      obtain ⟨-, hblank, transaction, hsubmitted⟩ := hbefore
      exact ⟨rfl, hblank, ⟨transaction, hold hsubmitted⟩, confirmation, hnew, hconfirmed⟩
    | reconcile signature => cases hstep

theorem Reaches.stages {progress : Progress Transaction}
    {events : List (PortEvent L Body Transaction)} (h : Reaches L settlement progress events) :
    events.map (·.1.stage) = progress.stages := by
  induction h with
  | start => rfl
  | step _ hstep _ ih =>
    rw [List.map_append, ih]
    cases hstep <;> rfl

theorem Reaches.succeeds {progress : Progress Transaction}
    {events : List (PortEvent L Body Transaction)} (h : Reaches L settlement progress events) :
    ∀ event ∈ events, Succeeds L event := by
  induction h with
  | start =>
    intro event hevent
    cases hevent
  | step _ _ hgain ih =>
    intro event hevent
    rcases List.mem_append.1 hevent with hold | hnew
    · exact ih event hold
    · rw [List.mem_singleton.1 hnew]
      exact ⟨_, hgain⟩

theorem submittedSignature_append (events events' : List (PortEvent L Body Transaction)) :
    submittedSignature L (events ++ events') =
      (submittedSignature L events).or (submittedSignature L events') := List.findSome?_append

theorem Reaches.signature {progress : Progress Transaction}
    {events : List (PortEvent L Body Transaction)} (h : Reaches L settlement progress events) :
    submittedSignature L events = progress.signature := by
  induction h with
  | start => rfl
  | step _ hstep hgain ih =>
    rw [submittedSignature_append, ih]
    cases hstep with
    | submit transaction =>
      obtain ⟨rfl, hblank⟩ := verdict_submit_ok hgain
      simp [submittedSignature, Progress.signature, hblank]
    | prepare => rfl
    | simulate transaction => rfl
    | confirm signature => rfl
    | reconcile signature => rfl

/-- Calls are permitted in order. -/
theorem Reaches.prefix_permitted {progress : Progress Transaction}
    {events : List (PortEvent L Body Transaction)} (h : Reaches L settlement progress events) :
    ∀ {before : List (PortEvent L Body Transaction)} {event : PortEvent L Body Transaction},
      before ++ [event] <+: events → Permitted L settlement before event.1 := by
  induction h with
  | start =>
    intro before event hinit
    simp at hinit
  | step hreaches hstep _ ih =>
    intro before event hinit
    rcases List.prefix_concat_iff.1 hinit with hlast | hearlier
    · obtain ⟨rfl, hevent⟩ := List.append_inj' hlast rfl
      cases hevent
      exact hreaches.permitted hstep
    · exact ih hearlier

theorem Executes.stages {events : List (PortEvent L Body Transaction)}
    {result : Except SettlementExecutionError ExecutedMarketMakerSettlement}
    (h : Executes L settlement events result) : events.map (·.1.stage) <+:
      [.preparation, .simulation, .submission, .confirmation, .reconciliation] := by
  cases h with
  | completed h =>
    rw [h.stages]
    exact List.prefix_rfl
  | failed h hstep =>
    rw [List.map_append, h.stages]
    cases hstep <;> exact List.prefix_append _ _

theorem Executes.permitted {events : List (PortEvent L Body Transaction)}
    {result : Except SettlementExecutionError ExecutedMarketMakerSettlement}
    (h : Executes L settlement events result) {before : List (PortEvent L Body Transaction)}
    {event : PortEvent L Body Transaction} (hinit : before ++ [event] <+: events) :
    Permitted L settlement before event.1 := by
  cases h with
  | completed h => exact h.prefix_permitted hinit
  | failed h hstep =>
    rcases List.prefix_concat_iff.1 hinit with hlast | hearlier
    · obtain ⟨rfl, hevent⟩ := List.append_inj' hlast rfl
      cases hevent
      exact h.permitted hstep
    · exact h.prefix_permitted hearlier

theorem Executes.succeeds_iff {events : List (PortEvent L Body Transaction)}
    {result : Except SettlementExecutionError ExecutedMarketMakerSettlement}
    (h : Executes L settlement events result) : (∃ executed, result = .ok executed) ↔
      events.length = 5 ∧ ∀ event ∈ events, Succeeds L event := by
  cases h with
  | completed h =>
    have hlength := congrArg List.length h.stages
    rw [List.length_map] at hlength
    exact ⟨fun _ => ⟨hlength, h.succeeds⟩, fun _ => ⟨_, rfl⟩⟩
  | failed h hstep hfailure =>
    constructor
    · rintro ⟨executed, hexecuted⟩
      cases hexecuted
    · rintro ⟨-, hsucceeds⟩
      obtain ⟨gain, hgain⟩ := hsucceeds _ (List.mem_append_right _ List.mem_cons_self)
      rw [hfailure] at hgain
      cases hgain

/-- A step that fails has not submitted anything. -/
theorem submittedSignature_failed {call : PortCall Body Transaction} {answer : PortAnswer L call}
    {message : String} (h : verdict L call answer = .error message) :
    submittedSignature L [⟨call, answer⟩] = none := by
  cases call with
  | submit transaction shown =>
    cases answer with
    | error failure => rfl
    | ok signature =>
      simp only [verdict] at h
      split at h
      · rename_i hblank
        simp [submittedSignature, hblank]
      · cases h
  | prepareTransaction shown => rfl
  | simulate transaction shown => rfl
  | confirm signature shown => rfl
  | reconcile signature shown => rfl

theorem Executes.executed {events : List (PortEvent L Body Transaction)}
    {executed : ExecutedMarketMakerSettlement} (h : Executes L settlement events (.ok executed)) :
    executed.action = settlement.action ∧
      submittedSignature L events = some executed.signature := by
  cases h with
  | completed h => exact ⟨rfl, h.signature⟩

theorem Executes.error {events : List (PortEvent L Body Transaction)}
    {error : SettlementExecutionError} (h : Executes L settlement events (.error error)) :
    error.signature = submittedSignature L events ∧
      ∃ before event, events = before ++ [event] ∧ error.stage = event.1.stage ∧
        verdict L event.1 event.2 = .error error.message := by
  cases h with
  | @failed _ before call _ answer _ h _ hfailure =>
    have hsubmitted : submittedSignature L (before ++ [⟨call, answer⟩]) = _ :=
      (submittedSignature_append before [⟨call, answer⟩]).trans <| by
        rw [h.signature, submittedSignature_failed hfailure, Option.or_none]
    exact ⟨hsubmitted.symm, before, _, rfl, rfl, hfailure⟩

/-- **No step out of order, nothing submitted without a trace**: whatever the port does, the calls
are a prefix of the five steps, each on what the steps before it returned; all five succeed exactly
when the result is a success; an error names the step that failed, with the signature exactly when
one was submitted. -/
theorem execution_disciplined (L : ExecutionLanguage) {Body Transaction : Type}
    (settlement : PreparedMarketMakerSettlement Body)
    (port : List (PortEvent L Body Transaction) → (call : PortCall Body Transaction) →
      PortAnswer L call)
    (events : List (PortEvent L Body Transaction))
    (result : Except SettlementExecutionError ExecutedMarketMakerSettlement)
    (hrun : (executePreparedMarketMakerSettlement L settlement).record port [] = (events, result)) :
    events.map (·.1.stage) <+:
        [.preparation, .simulation, .submission, .confirmation, .reconciliation] ∧
      (∀ before event, before ++ [event] <+: events → Permitted L settlement before event.1) ∧
      ((∃ executed, result = .ok executed) ↔
        events.length = 5 ∧ ∀ event ∈ events, Succeeds L event) ∧
      (∀ executed, result = .ok executed → executed.action = settlement.action ∧
        submittedSignature L events = some executed.signature) ∧
      (∀ error, result = .error error →
        error.signature = submittedSignature L events ∧
        ∃ before event, events = before ++ [event] ∧ error.stage = event.1.stage ∧
          verdict L event.1 event.2 = .error error.message) := by
  have h := executes_record port settlement
  rw [hrun] at h
  refine ⟨h.stages, fun _ _ => h.permitted, h.succeeds_iff, ?_, ?_⟩
  · rintro executed rfl
    exact h.executed
  · rintro error rfl
    exact h.error

/-- A port that loses the connection before the confirmation. -/
def disconnectingPort : List (PortEvent .typescript Unit Nat) → (call : PortCall Unit Nat) →
    PortAnswer .typescript call
  | _, .prepareTransaction _ => .ok 7
  | _, .simulate _ _ => .ok .accepted
  | _, .submit _ _ => .ok "5sig"
  | _, .confirm _ _ => .error (.error "connection lost")
  | _, .reconcile _ _ => .ok ()

theorem execution_disciplined_disconnectingPort :
    ∃ error, ((executePreparedMarketMakerSettlement .typescript ⟨.mint, ()⟩).record
      disconnectingPort []).2 = .error error ∧ error.signature = some "5sig" := by
  refine ⟨_, rfl, ?_⟩
  have hdisciplined := execution_disciplined .typescript ⟨.mint, ()⟩ disconnectingPort _ _ rfl
  obtain ⟨hsignature, -⟩ := hdisciplined.2.2.2.2 _ rfl
  exact hsignature.trans rfl

end

end

end Chancery
