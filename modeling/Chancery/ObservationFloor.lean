import Chancery.Chain
import Chancery.InspectionLaws

/-!
# The context floor under concurrent inspections

Inspections that were started on one client share the minimum context slot of its
`ChanceryRpc`.  Between two awaited requests an inspection runs undisturbed; any of those that
wait may be answered next, by any node.

* `SharedClient.step`, `SharedClient.run` — one answer, and a sequence of answers.
* `Observes` — what an inspection still does with the floor; `inspect_observes`.
* `dependentReads_bounded` — the recorded context slot bounds every dependent read, as long as no
  inspection writes a lower slot while another still reads.
-/

set_option autoImplicit false

namespace Chancery

/-- An inspection and the slots that it has written to the floor, newest first. -/
structure RunningInspection where
  session : Session SettlementInspection
  written : List Nat

/-- An inspection writes the slot it starts at, then the Clock's: that one it records. -/
def RunningInspection.contextSlot (running : RunningInspection) : Option Nat :=
  match running.written with
  | [clockSlot, _] => some clockSlot
  | _ => none

/-- Whether an inspection waits for an answer. -/
def RunningInspection.isAwaiting (running : RunningInspection) : Bool :=
  match running.session with
  | .call _ _ => true
  | .done _ => false

/-- A request with the floor it was sent under. -/
structure SentRequest where
  inspection : Nat
  request : RpcRequest
  minContextSlot : Option Nat
  clockRead : Bool

/-- Does the request read accounts for an inspection that has read the Clock? -/
def SentRequest.isDependentRead (sent : SentRequest) : Bool :=
  sent.clockRead && sent.request.isContextual

/-- A client with the inspections that share its floor. -/
structure SharedClient where
  minimumContextSlot : Option Nat
  inspections : List RunningInspection
  sent : List SentRequest

/-- The next answer: which inspection gets one, and the node that gives it. -/
structure AnswerEvent where
  inspection : Nat
  node : (request : RpcRequest) → request.Answer

/-! ## Steps -/

/-- The slots written before the next awaited request. -/
def leadingWrites : Session SettlementInspection → List Nat
  | .call (.setMinimumContextSlot slot) next => slot :: leadingWrites (next ())
  | _ => []

/-- What is left of a session behind its writes. -/
def afterLeadingWrites : Session SettlementInspection → Session SettlementInspection
  | .call (.setMinimumContextSlot _) next => afterLeadingWrites (next ())
  | session => session

/-- An inspection with the answer that it has been waiting for. -/
def receive (node : (request : RpcRequest) → request.Answer) :
    Session SettlementInspection → Option (Session SettlementInspection)
  | .call (.send request) next => some (next (node request))
  | _ => none

/-- Send what comes next; with a floor that is no safe integer the inspection fails instead. -/
def sendNext (minimumContextSlot : Option Nat) (place : Nat) (clockRead : Bool) :
    Session SettlementInspection → Session SettlementInspection × List SentRequest
  | .call (.send request) next =>
    match contextConfiguration minimumContextSlot request with
    | .ok minContextSlot =>
      (.call (.send request) next, [⟨place, request, minContextSlot, clockRead⟩])
    | .error e => (.done (.error e), [])
  | session => (session, [])

namespace SharedClient

/-- The inspection goes on: it writes the floor, then sends its next request. -/
def resume (state : SharedClient) (place : Nat) (written : List Nat)
    (session : Session SettlementInspection) : SharedClient :=
  let minimumContextSlot := (leadingWrites session).getLast?.or state.minimumContextSlot
  let writtenNow := (leadingWrites session).reverse ++ written
  let clockRead := (RunningInspection.mk session writtenNow).contextSlot.isSome
  let next := sendNext minimumContextSlot place clockRead (afterLeadingWrites session)
  { minimumContextSlot := minimumContextSlot
    inspections := state.inspections.set place ⟨next.1, writtenNow⟩
    sent := next.2 ++ state.sent }

/-- The inspection that an event answers, with its answer. -/
def answered (state : SharedClient) (event : AnswerEvent) :
    Option (List Nat × Session SettlementInspection) := do
  let running ← state.inspections[event.inspection]?
  let session ← receive event.node running.session
  return (running.written, session)

/-- One answer, and what the inspection does until it waits again. -/
def step (state : SharedClient) (event : AnswerEvent) : Option SharedClient := do
  let (written, session) ← state.answered event
  return state.resume event.inspection written session

/-- A run of answers, in any interleaving. -/
def run (state : SharedClient) : List AnswerEvent → Option SharedClient
  | [] => some state
  | event :: events => (state.step event).bind fun next => next.run events

/-- Inspections whose slot requests are on their way. -/
def started (client : ChanceryClient) (minimumContextSlot : Option Nat)
    (requests : List SettlementOperationRequest) : SharedClient where
  minimumContextSlot := minimumContextSlot
  inspections := requests.map fun request => ⟨inspect client request, []⟩
  sent := []

/-- The slot that an inspection observed. -/
def contextSlot (state : SharedClient) (inspection : Nat) : Option Nat :=
  state.inspections[inspection]?.bind (·.contextSlot)

/-- Every dependent read was sent with at least the context slot of its inspection. -/
def DependentReadsBounded (state : SharedClient) : Prop :=
  ∀ sent ∈ state.sent, sent.isDependentRead = true →
    ∀ contextSlot ∈ state.contextSlot sent.inspection,
      ∃ minContextSlot ∈ sent.minContextSlot, contextSlot ≤ minContextSlot

/-- What a returned inspection records is the context slot. -/
def RecordsContextSlot (state : SharedClient) : Prop :=
  ∀ place running inspection, state.inspections[place]? = some running →
    running.session = .done (.ok inspection) →
    state.contextSlot place = some inspection.observation.contextSlot

/-- No slot that is written next lies below the context slot of an inspection that still reads. -/
def WritesAbove (state : SharedClient) (event : AnswerEvent) : Prop :=
  ∀ continued ∈ state.answered event, ∀ slot ∈ leadingWrites continued.2,
    ∀ running ∈ state.inspections, running.isAwaiting = true →
      ∀ contextSlot ∈ running.contextSlot, contextSlot ≤ slot

instance (state : SharedClient) : Decidable state.DependentReadsBounded :=
  inferInstanceAs (Decidable (∀ _ ∈ _, _))

instance (state : SharedClient) (event : AnswerEvent) : Decidable (state.WritesAbove event) :=
  inferInstanceAs (Decidable (∀ _ ∈ state.answered event, _))

/-- Every step of a run keeps above the context slots of the inspections that still read. -/
def runWritesAbove (state : SharedClient) : List AnswerEvent → Bool
  | [] => true
  | event :: events => decide (state.WritesAbove event) &&
      (state.step event).all fun next => next.runWritesAbove events

end SharedClient

/-! ## What an inspection does with the floor -/

/-- Two writes to the floor, the second with the slot that the inspection records. -/
def Observes : List Nat → Session SettlementInspection → Prop
  | written, .done (.ok inspection) =>
    ∃ first, written = [inspection.observation.contextSlot, first]
  | _, .done (.error _) => True
  | written, .call (.send request) next => ∀ answer : request.Answer, Observes written (next answer)
  | written, .call (.setMinimumContextSlot slot) next =>
    written.length < 2 ∧ Observes (slot :: written) (next ())

/-- Reads leave the floor alone. -/
theorem observes_reads_bind {α : Type} {written : List Nat} (reads : Reads α)
    {rest : α → Session SettlementInspection} (h : ∀ a, Observes written (rest a)) :
    Observes written (reads.toSession >>= rest) := by
  induction reads with
  | done result =>
    cases result with
    | error e => trivial
    | ok a => exact h a
  | call request next ih => exact fun answer => ih answer

theorem observes_reads {slot first : Nat} {reads : Reads SettlementInspection}
    (h : ∀ inspection, reads.Yields (.ok inspection) → inspection.observation.contextSlot = slot) :
    Observes [slot, first] reads.toSession := by
  induction reads with
  | done result =>
    cases result with
    | error e => trivial
    | ok inspection =>
      have hslot := h inspection (.done _)
      exact ⟨first, by rw [hslot]⟩
  | call request next ih =>
    exact fun answer => ih answer fun inspection hi => h inspection (.call answer hi)

/-- What an inspection records is the slot of the Clock that it was given. -/
theorem inspectAt_contextSlot {client : ChanceryClient}
    {requestInput : SettlementOperationRequest} {clock : RpcClock}
    {inspection : SettlementInspection}
    (h : (inspectAt client requestInput clock).Yields (.ok inspection)) :
    inspection.observation.contextSlot = clock.slot := by
  obtain ⟨resolution, hresolved, hassemble⟩ := inspectAt_yields h
  obtain ⟨-, -, -, -, rfl⟩ := assembleInspection_ok.1 hassemble
  show resolution.observation.contextSlot = clock.slot
  rw [hresolved.observation]
  rfl

theorem inspect_observes (client : ChanceryClient) (requestInput : SettlementOperationRequest) :
    Observes [] (inspect client requestInput) := by
  apply observes_reads_bind
  intro initialContextSlot
  refine ⟨by simp, observes_reads_bind _ fun clock => ⟨by simp, ?_⟩⟩
  exact observes_reads fun inspection h => inspectAt_contextSlot h

/-- What follows the leading writes, and that there are none after the second write. -/
theorem observes_afterLeadingWrites {session : Session SettlementInspection} {written : List Nat}
    (h : Observes written session) :
    Observes ((leadingWrites session).reverse ++ written) (afterLeadingWrites session) ∧
      (written.length = 2 → leadingWrites session = []) := by
  induction session generalizing written with
  | done result => exact ⟨h, fun _ => rfl⟩
  | call op next ih =>
    cases op with
    | send request => exact ⟨h, fun _ => rfl⟩
    | setMinimumContextSlot slot =>
      have hrest := (ih () h.2).1
      refine ⟨?_, fun hlength => absurd h.1 (by omega)⟩
      simpa [leadingWrites, afterLeadingWrites] using hrest

theorem contextSlot_isSome_iff (running : RunningInspection) :
    running.contextSlot.isSome = true ↔ running.written.length = 2 := by
  obtain ⟨session, written⟩ := running
  rcases written with _ | ⟨clockSlot, _ | ⟨first, _ | ⟨slot, written⟩⟩⟩ <;>
    simp [RunningInspection.contextSlot]

/-- The context slot is the slot that was written last. -/
theorem contextSlot_eq_getLast {session : Session SettlementInspection} {writes written : List Nat}
    {contextSlot : Nat} (hwrites : writes ≠ [])
    (h : (RunningInspection.mk session (writes.reverse ++ written)).contextSlot =
      some contextSlot) :
    writes.getLast? = some contextSlot := by
  obtain ⟨earlier, last, rfl⟩ := List.eq_nil_or_concat' writes |>.resolve_left hwrites
  have hrev : (earlier ++ [last]).reverse ++ written = last :: (earlier.reverse ++ written) := by
    simp
  rw [hrev] at h
  generalize earlier.reverse ++ written = rest at h
  rcases rest with _ | ⟨first, _ | ⟨slot, rest⟩⟩
  · cases h
  · simpa [RunningInspection.contextSlot] using h
  · cases h

/-! ## The invariant -/

namespace SharedClient

/-- The floor is above the context slots of the inspections that still read. -/
def FloorAbove (state : SharedClient) : Prop :=
  ∀ running ∈ state.inspections, running.isAwaiting = true →
    ∀ contextSlot ∈ running.contextSlot, ∃ slot ∈ state.minimumContextSlot, contextSlot ≤ slot

structure Invariant (state : SharedClient) : Prop where
  observes : ∀ running ∈ state.inspections, Observes running.written running.session
  floorAbove : state.FloorAbove
  clockRead : ∀ sent ∈ state.sent, sent.clockRead = true →
    (state.contextSlot sent.inspection).isSome = true
  bounded : state.DependentReadsBounded

theorem invariant_started (client : ChanceryClient) (minimumContextSlot : Option Nat)
    (requests : List SettlementOperationRequest) :
    (started client minimumContextSlot requests).Invariant where
  observes := by
    intro running hrunning
    obtain ⟨request, -, rfl⟩ := List.mem_map.1 hrunning
    exact inspect_observes client request
  floorAbove := by
    intro running hrunning _ contextSlot hslot
    obtain ⟨request, -, rfl⟩ := List.mem_map.1 hrunning
    cases hslot
  clockRead := by
    intro sent hsent
    cases hsent
  bounded := by
    intro sent hsent
    cases hsent

/-- The answered inspection was waiting, and goes on as before. -/
theorem answered_some {state : SharedClient} {event : AnswerEvent} {written : List Nat}
    {session : Session SettlementInspection} (h : state.answered event = some (written, session)) :
    ∃ running, state.inspections[event.inspection]? = some running ∧ running.isAwaiting = true ∧
      running.written = written ∧
      (Observes running.written running.session → Observes written session) := by
  simp only [answered, Option.bind_eq_bind, Option.bind_eq_some_iff] at h
  obtain ⟨⟨awaited, written'⟩, hrunning, received, hreceive, hpair⟩ := h
  cases hpair
  refine ⟨⟨awaited, written'⟩, hrunning, ?_⟩
  cases awaited with
  | done result => cases hreceive
  | call op next =>
    cases op with
    | send request =>
      cases hreceive
      exact ⟨rfl, rfl, fun hobserves => hobserves _⟩
    | setMinimumContextSlot slot => cases hreceive

theorem step_some {state next : SharedClient} {event : AnswerEvent}
    (h : state.step event = some next) :
    ∃ written session, state.answered event = some (written, session) ∧
      next = state.resume event.inspection written session := by
  simp only [step, Option.bind_eq_bind, Option.bind_eq_some_iff] at h
  obtain ⟨⟨written, session⟩, hanswered, hnext⟩ := h
  cases hnext
  exact ⟨written, session, hanswered, rfl⟩

section

variable {state : SharedClient} {place : Nat} {written : List Nat}
  {session : Session SettlementInspection}

theorem contextSlot_resume {running : RunningInspection}
    (h : state.inspections[place]? = some running) (i : Nat) :
    (state.resume place written session).contextSlot i =
      if i = place then
        (RunningInspection.mk session ((leadingWrites session).reverse ++ written)).contextSlot
      else state.contextSlot i := by
  obtain ⟨hplace, -⟩ := List.getElem?_eq_some_iff.1 h
  by_cases hi : i = place
  · subst hi
    simp only [contextSlot, resume, List.getElem?_set_self hplace, if_pos]
    rfl
  · simp only [contextSlot, resume, List.getElem?_set_ne (Ne.symm hi), if_neg hi]

/-- A context slot stays what it is. -/
theorem contextSlot_resume_of_isSome {running : RunningInspection}
    (h : state.inspections[place]? = some running) (hwritten : running.written = written)
    (hobserves : Observes written session) {i : Nat} (hi : (state.contextSlot i).isSome = true) :
    (state.resume place written session).contextSlot i = state.contextSlot i := by
  rw [contextSlot_resume h]
  by_cases hplace : i = place
  · subst hplace hwritten
    have hslot : state.contextSlot i = running.contextSlot := by simp [contextSlot, h]
    rw [hslot] at hi ⊢
    have hnone := (observes_afterLeadingWrites hobserves).2 ((contextSlot_isSome_iff running).1 hi)
    rw [if_pos rfl, hnone]
    rfl
  · rw [if_neg hplace]

/-- The floor that the inspection goes on with is above its own context slot. -/
theorem floor_resume_self (hfloor : state.FloorAbove) {running : RunningInspection}
    (hmem : running ∈ state.inspections) (hawaiting : running.isAwaiting = true)
    (hwritten : running.written = written) {contextSlot : Nat}
    (h : (RunningInspection.mk session ((leadingWrites session).reverse ++ written)).contextSlot =
      some contextSlot) :
    ∃ slot ∈ (state.resume place written session).minimumContextSlot, contextSlot ≤ slot := by
  by_cases hwrites : leadingWrites session = []
  · subst hwritten
    rw [hwrites] at h
    have hslot := hfloor running hmem hawaiting contextSlot h
    simpa [resume, hwrites] using hslot
  · have hlast := contextSlot_eq_getLast hwrites h
    exact ⟨contextSlot, by simp [resume, hlast], le_rfl⟩

end

theorem contextConfiguration_ok {minimumContextSlot minContextSlot : Option Nat}
    {request : RpcRequest} (hcontextual : request.isContextual = true)
    (h : contextConfiguration minimumContextSlot request = .ok minContextSlot) :
    minContextSlot = minimumContextSlot := by
  unfold contextConfiguration at h
  rw [if_pos hcontextual] at h
  cases minimumContextSlot with
  | none =>
    cases h
    rfl
  | some slot =>
    dsimp only at h
    split at h
    · cases h
    · cases h
      rfl

/-- What is sent next bears the floor, and the inspection waits for it or has failed. -/
theorem sendNext_spec (minimumContextSlot : Option Nat) (place : Nat) (clockRead : Bool)
    {session : Session SettlementInspection} {written : List Nat}
    (hobserves : Observes written session) :
    Observes written (sendNext minimumContextSlot place clockRead session).1 ∧
      ∀ sent ∈ (sendNext minimumContextSlot place clockRead session).2,
        sent.inspection = place ∧ sent.clockRead = clockRead ∧
          contextConfiguration minimumContextSlot sent.request = .ok sent.minContextSlot := by
  cases session with
  | done result => exact ⟨hobserves, fun sent hsent => by cases hsent⟩
  | call op next =>
    cases op with
    | setMinimumContextSlot slot => exact ⟨hobserves, fun sent hsent => by cases hsent⟩
    | send request =>
      rcases hconfiguration : contextConfiguration minimumContextSlot request with e | minContextSlot
      · simp only [sendNext, hconfiguration]
        exact ⟨trivial, fun sent hsent => by cases hsent⟩
      · simp only [sendNext, hconfiguration, List.mem_singleton]
        refine ⟨hobserves, ?_⟩
        rintro sent rfl
        exact ⟨rfl, rfl, hconfiguration⟩

/-- **One answer keeps the invariant**, unless a slot is written below a floor still needed. -/
theorem invariant_step {state next : SharedClient} {event : AnswerEvent} (hinv : state.Invariant)
    (habove : state.WritesAbove event) (hstep : state.step event = some next) :
    next.Invariant := by
  obtain ⟨written, session, hanswered, rfl⟩ := step_some hstep
  obtain ⟨running, hplace, hawaiting, hwritten, hcontinues⟩ := answered_some hanswered
  have hmem : running ∈ state.inspections := List.mem_of_getElem? hplace
  have hobserves := hcontinues (hinv.observes running hmem)
  have hstable := fun i => contextSlot_resume_of_isSome (i := i) hplace hwritten hobserves
  have hself : ∀ contextSlot, (RunningInspection.mk session
      ((leadingWrites session).reverse ++ written)).contextSlot = some contextSlot →
        ∃ slot ∈ (state.resume event.inspection written session).minimumContextSlot,
          contextSlot ≤ slot :=
    fun _ => floor_resume_self hinv.floorAbove hmem hawaiting hwritten
  obtain ⟨hafter, -⟩ := observes_afterLeadingWrites hobserves
  obtain ⟨hsendObserves, hsend⟩ := sendNext_spec
    (state.resume event.inspection written session).minimumContextSlot event.inspection
    (RunningInspection.mk session
      ((leadingWrites session).reverse ++ written)).contextSlot.isSome hafter
  refine ⟨?_, ?_, ?_, ?_⟩
  · intro other hother
    rcases List.mem_or_eq_of_mem_set hother with hother | rfl
    · exact hinv.observes other hother
    · exact hsendObserves
  · intro other hother hotherAwaiting contextSlot hslot
    rcases List.mem_or_eq_of_mem_set hother with hother | rfl
    · by_cases hwrites : leadingWrites session = []
      · have hold := hinv.floorAbove other hother hotherAwaiting contextSlot hslot
        simpa [resume, hwrites] using hold
      · obtain ⟨slot, hlast⟩ := Option.ne_none_iff_exists'.1
          (mt List.getLast?_eq_none_iff.1 hwrites)
        refine ⟨slot, by simp [resume, hlast], ?_⟩
        exact habove _ hanswered slot (List.mem_of_getLast? hlast) other hother hotherAwaiting
          contextSlot hslot
    · exact hself contextSlot hslot
  · intro sent hsent hclock
    rcases List.mem_append.1 hsent with hsent | hsent
    · obtain ⟨hinspection, hclockRead, -⟩ := hsend sent hsent
      rw [hinspection, contextSlot_resume hplace, if_pos rfl, ← hclockRead]
      exact hclock
    · rw [hstable _ (hinv.clockRead sent hsent hclock)]
      exact hinv.clockRead sent hsent hclock
  · intro sent hsent hdependent contextSlot hslot
    obtain ⟨hclock, hcontextual⟩ := Bool.and_eq_true_iff.1 hdependent
    rcases List.mem_append.1 hsent with hsent | hsent
    · obtain ⟨hinspection, -, hconfiguration⟩ := hsend sent hsent
      rw [hinspection, contextSlot_resume hplace, if_pos rfl] at hslot
      rw [contextConfiguration_ok hcontextual hconfiguration]
      exact hself contextSlot hslot
    · rw [hstable _ (hinv.clockRead sent hsent hclock)] at hslot
      exact hinv.bounded sent hsent hdependent contextSlot hslot

theorem invariant_run {state final : SharedClient} {events : List AnswerEvent}
    (hinv : state.Invariant) (habove : state.runWritesAbove events = true)
    (hrun : state.run events = some final) : final.Invariant := by
  induction events generalizing state with
  | nil =>
    cases hrun
    exact hinv
  | cons event events ih =>
    obtain ⟨next, hstep, hrest⟩ := Option.bind_eq_some_iff.1 hrun
    simp only [runWritesAbove, hstep, Option.all_some, Bool.and_eq_true, decide_eq_true_eq] at habove
    exact ih (invariant_step hinv habove.1 hstep) habove.2 hrest

/-- What the Clock's read wrote is what the inspection records. -/
theorem records_of_invariant {state : SharedClient} (hinv : state.Invariant) :
    state.RecordsContextSlot := by
  intro place running inspection hplace hsession
  have hobserves := hinv.observes running (List.mem_of_getElem? hplace)
  obtain ⟨session, written⟩ := running
  subst hsession
  obtain ⟨first, hwritten⟩ := hobserves
  subst hwritten
  simp [contextSlot, hplace, RunningInspection.contextSlot]

/-- **The recorded context slot bounds every dependent read**, when no inspection writes a slot
below the context slot of one that still reads. -/
theorem dependentReads_bounded (client : ChanceryClient) (minimumContextSlot : Option Nat)
    (requests : List SettlementOperationRequest) (events : List AnswerEvent)
    (final : SharedClient)
    (habove : (started client minimumContextSlot requests).runWritesAbove events = true)
    (hrun : (started client minimumContextSlot requests).run events = some final) :
    final.DependentReadsBounded ∧ final.RecordsContextSlot := by
  have hinv := invariant_run (invariant_started client minimumContextSlot requests) habove hrun
  exact ⟨hinv.bounded, records_of_invariant hinv⟩

/-- An answer from a node at a slot. -/
def answerAt (inspection slot : Nat) : AnswerEvent :=
  ⟨inspection, (Sample.directMarket slot ratePrecisionE9.toNat 5).answer⟩

/-- A client that starts inspections of the sample market. -/
def sampleStart (requests : List SettlementOperationRequest) : SharedClient :=
  started (Sample.client .typescript) none requests

/-- A second inspection starts at slot 110 while the first reads what it has to read at slot 100. -/
theorem dependentReads_bounded_interleaved :
    ∃ final, (sampleStart [Sample.directMint 5, Sample.directMint 5]).run
      [answerAt 0 100, answerAt 0 100, answerAt 1 110, answerAt 0 100] = some final ∧
        (final.sent.filter (·.isDependentRead)).map (fun sent => (sent.inspection,
          sent.minContextSlot)) = [(0, some 110), (0, some 100)] ∧
        final.contextSlot 0 = some 100 ∧
        final.DependentReadsBounded ∧ final.RecordsContextSlot := by
  have habove : (sampleStart [Sample.directMint 5, Sample.directMint 5]).runWritesAbove
      [answerAt 0 100, answerAt 0 100, answerAt 1 110, answerAt 0 100] = true := by
    decide +kernel
  have hrun : ((sampleStart [Sample.directMint 5, Sample.directMint 5]).run
      [answerAt 0 100, answerAt 0 100, answerAt 1 110, answerAt 0 100]).any (fun final =>
        (final.sent.filter (·.isDependentRead)).map (fun sent => (sent.inspection,
          sent.minContextSlot)) == [(0, some 110), (0, some 100)] &&
        final.contextSlot 0 == some 100) = true := by decide +kernel
  obtain ⟨final, hfinal, hreads⟩ := (Option.any_eq_true _ _).1 hrun
  obtain ⟨hsent, hslot⟩ := Bool.and_eq_true_iff.1 hreads
  exact ⟨final, hfinal, beq_iff_eq.1 hsent, beq_iff_eq.1 hslot,
    dependentReads_bounded _ _ _ _ _ habove hfinal⟩

/-- Another inspection's start at slot 90 lowers the floor of one that recorded slot 100. -/
theorem laggingStart_lowers_floor :
    ∃ final, (sampleStart [Sample.directMint 5, Sample.directMint 5]).run
      [answerAt 0 100, answerAt 0 100, answerAt 1 90, answerAt 0 100] = some final ∧
        ¬ final.DependentReadsBounded := by
  have hrun : ((sampleStart [Sample.directMint 5, Sample.directMint 5]).run
      [answerAt 0 100, answerAt 0 100, answerAt 1 90, answerAt 0 100]).any
        (fun final => !decide final.DependentReadsBounded) = true := by decide +kernel
  obtain ⟨final, hfinal, hbounded⟩ := (Option.any_eq_true _ _).1 hrun
  exact ⟨final, hfinal, by simpa using hbounded⟩

end SharedClient

end Chancery
