import Chancery.Rpc

/-!
# Confirmation of a sent transaction

Model of `#confirmTransaction` in `typescript/src/client/ChanceryClient.ts` and of
`_confirm_transaction` in `python/chancery_reference/client.py`, against any stream of answers.

* `confirmLoop` — the polling loop both have; it pauses after a poll that decides nothing.
* `expectedConfirmation` — the first poll that decides, scanned in order.
* `confirmTransaction_eq` — the TypeScript loop is that scan.
* `confirmations_agree_iff` — Python's is too exactly when the first poll decides.
-/

set_option autoImplicit false

namespace Chancery

/-- The status of a signature. -/
structure RpcSignatureStatus where
  slot : Nat
  confirmations : Option Nat
  err : Option Value
  confirmationStatus : Option RpcCommitment

/-- How a wait for confirmation fails. -/
inductive ConfirmationError where
  | transactionFailed (signature : String) (err : Value)
  | expired (signature : String) (commitment : RpcCommitment)
  | pollLimit (signature : String) (commitment : RpcCommitment)
  | nameError (name : String)

/-- The order of the commitments. -/
def commitmentRank : RpcCommitment → Nat
  | .processed => 0
  | .confirmed => 1
  | .finalized => 2

/-- Whether a commitment is reached. -/
def commitmentSatisfied (actual : Option RpcCommitment) (required : RpcCommitment) : Bool :=
  match actual with
  | none => false
  | some actual => commitmentRank required ≤ commitmentRank actual

/-- The number of polls of a wait. -/
def maximumPolls : Nat := 120

section

variable (signature : String) (lastValidBlockHeight : Nat) (commitment : RpcCommitment)
  (statuses : Nat → Option RpcSignatureStatus) (blockHeights : Nat → Nat)

/-- The loop from a poll on, with the number of polls that remain. -/
def confirmLoop (pause : Except ConfirmationError Unit) :
    Nat → Nat → Except ConfirmationError RpcSignatureStatus
  | 0, _ => .error (.pollLimit signature commitment)
  | remaining + 1, poll =>
    let waitForNext : Except ConfirmationError RpcSignatureStatus :=
      if lastValidBlockHeight < blockHeights poll then .error (.expired signature commitment)
      else do
        pause
        confirmLoop pause remaining (poll + 1)
    match statuses poll with
    | none => waitForNext
    | some status =>
      match status.err with
      | some err => .error (.transactionFailed signature err)
      | none =>
        if commitmentSatisfied status.confirmationStatus commitment then .ok status
        else waitForNext

/-- `await delay(500)` returns. -/
def confirmTransaction : Except ConfirmationError RpcSignatureStatus :=
  confirmLoop signature lastValidBlockHeight commitment statuses blockHeights (.ok ())
    maximumPolls 0

/-- `time.sleep(0.5)` in a module that does not import `time`. -/
def pythonConfirmTransaction : Except ConfirmationError RpcSignatureStatus :=
  confirmLoop signature lastValidBlockHeight commitment statuses blockHeights
    (.error (.nameError "time")) maximumPolls 0

/-! ## The scan -/

/-- What a poll decides: a failure, the status asked for, an expiry, or nothing. -/
def pollVerdict (poll : Nat) : Option (Except ConfirmationError RpcSignatureStatus) :=
  match (statuses poll).bind (·.err) with
  | some err => some (.error (.transactionFailed signature err))
  | none =>
    match (statuses poll).filter fun status =>
      commitmentSatisfied status.confirmationStatus commitment with
    | some status => some (.ok status)
    | none =>
      if lastValidBlockHeight < blockHeights poll then some (.error (.expired signature commitment))
      else none

/-- The first poll that decides, or else the timeout. -/
def expectedConfirmation : Except ConfirmationError RpcSignatureStatus :=
  ((List.range maximumPolls).findSome? (pollVerdict signature lastValidBlockHeight commitment
    statuses blockHeights)).getD (.error (.pollLimit signature commitment))

/-- One round of the loop ends with the poll's verdict or goes on after the pause. -/
theorem confirmLoop_succ (pause : Except ConfirmationError Unit) (remaining poll : Nat) :
    confirmLoop signature lastValidBlockHeight commitment statuses blockHeights pause
        (remaining + 1) poll =
      (pollVerdict signature lastValidBlockHeight commitment statuses blockHeights poll).getD
        (pause >>= fun _ => confirmLoop signature lastValidBlockHeight commitment statuses
          blockHeights pause remaining (poll + 1)) := by
  rw [confirmLoop, pollVerdict]
  cases hstatus : statuses poll with
  | none =>
    by_cases hheight : lastValidBlockHeight < blockHeights poll <;> simp [hheight]
  | some status =>
    cases herr : status.err with
    | some err => simp [herr]
    | none =>
      cases hsatisfied : commitmentSatisfied status.confirmationStatus commitment with
      | true => simp [herr, Option.filter_some, hsatisfied]
      | false =>
        by_cases hheight : lastValidBlockHeight < blockHeights poll <;>
          simp [herr, Option.filter_some, hsatisfied, hheight]

theorem confirmLoop_eq (remaining poll : Nat) :
    confirmLoop signature lastValidBlockHeight commitment statuses blockHeights (.ok ())
        remaining poll =
      ((List.range' poll remaining).findSome? (pollVerdict signature lastValidBlockHeight
        commitment statuses blockHeights)).getD (.error (.pollLimit signature commitment)) := by
  induction remaining generalizing poll with
  | zero => rfl
  | succ remaining ih =>
    rw [confirmLoop_succ, List.range'_succ, List.findSome?_cons]
    cases pollVerdict signature lastValidBlockHeight commitment statuses blockHeights poll with
    | none => exact ih (poll + 1)
    | some verdict => rfl

/-- **The TypeScript loop** ends as the first deciding poll says. -/
theorem confirmTransaction_eq :
    confirmTransaction signature lastValidBlockHeight commitment statuses blockHeights =
      expectedConfirmation signature lastValidBlockHeight commitment statuses blockHeights := by
  rw [confirmTransaction, confirmLoop_eq, expectedConfirmation, List.range_eq_range']

theorem pythonConfirmTransaction_eq :
    pythonConfirmTransaction signature lastValidBlockHeight commitment statuses blockHeights =
      (pollVerdict signature lastValidBlockHeight commitment statuses blockHeights 0).getD
        (.error (.nameError "time")) := by
  rw [pythonConfirmTransaction, maximumPolls, confirmLoop_succ]
  rfl

theorem pollVerdict_ne_nameError (poll : Nat) (name : String) :
    pollVerdict signature lastValidBlockHeight commitment statuses blockHeights poll ≠
      some (.error (.nameError name)) := by
  unfold pollVerdict
  intro h
  split at h
  · cases h
  · split at h
    · cases h
    · split at h <;> cases h

theorem expectedConfirmation_ne_nameError (name : String) :
    expectedConfirmation signature lastValidBlockHeight commitment statuses blockHeights ≠
      .error (.nameError name) := by
  unfold expectedConfirmation
  cases hfound : (List.range maximumPolls).findSome? (pollVerdict signature lastValidBlockHeight
    commitment statuses blockHeights) with
  | none =>
    intro h
    cases h
  | some verdict =>
    obtain ⟨poll, _, hverdict⟩ := List.exists_of_findSome?_eq_some hfound
    rintro rfl
    exact pollVerdict_ne_nameError _ _ _ _ _ poll name hverdict

/-- **Both loops end as the scan says** exactly when the first poll decides; a transaction still
pending there makes the Python loop raise. -/
theorem confirmations_agree_iff :
    (confirmTransaction signature lastValidBlockHeight commitment statuses blockHeights =
        expectedConfirmation signature lastValidBlockHeight commitment statuses blockHeights ∧
      pythonConfirmTransaction signature lastValidBlockHeight commitment statuses blockHeights =
        expectedConfirmation signature lastValidBlockHeight commitment statuses blockHeights) ↔
      (pollVerdict signature lastValidBlockHeight commitment statuses blockHeights 0).isSome := by
  rw [pythonConfirmTransaction_eq]
  cases hfirst : pollVerdict signature lastValidBlockHeight commitment statuses blockHeights 0 with
  | none =>
    refine iff_of_false ?_ (by simp)
    rintro ⟨_, hpython⟩
    exact expectedConfirmation_ne_nameError _ _ _ _ _ "time" hpython.symm
  | some verdict =>
    refine iff_of_true ⟨confirmTransaction_eq .., ?_⟩ rfl
    rw [expectedConfirmation, maximumPolls, List.range_succ_eq_map, List.findSome?_cons, hfirst]
    rfl

end

/-! ## A transaction confirmed at the second poll -/

def confirmedAtSecondPoll : Nat → Option RpcSignatureStatus
  | 0 => none
  | _ => some { slot := 5, confirmations := some 1, err := none
                confirmationStatus := some .confirmed }

theorem pendingTransaction_raises :
    pythonConfirmTransaction "signature" 100 .confirmed confirmedAtSecondPoll (fun _ => 7) =
        .error (.nameError "time") ∧
      expectedConfirmation "signature" 100 .confirmed confirmedAtSecondPoll (fun _ => 7) =
        .ok { slot := 5, confirmations := some 1, err := none
              confirmationStatus := some .confirmed } :=
  ⟨rfl, rfl⟩

end Chancery
