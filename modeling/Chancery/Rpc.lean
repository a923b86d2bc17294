import Chancery.Value
import Chancery.Lib.Interaction
import Chancery.Lib.LittleEndian

/-!
# RPC requests

The requests that the client awaits, as `typescript/src/ChanceryRpc.ts` answers them: the
JSON of a response is already parsed, and a request may also fail.

* `RpcRequest`, `RpcRequest.Answer` — what is asked and what may come back.
* `Reads` — a program that only reads; `Session` — one that also moves the context floor.
* `contextConfiguration` — the `minContextSlot` that a request is sent with.
-/

set_option autoImplicit false

namespace Chancery

/-- How settled an observed state is. -/
inductive RpcCommitment where
  | processed
  | confirmed
  | finalized
  deriving DecidableEq

/-- An account as a node returns it. -/
structure RpcAccountInfo where
  data : Bytes
  executable : Bool
  lamports : Nat
  owner : PublicKey
  rentEpoch : Nat
  space : Nat

/-- A listed account. -/
structure RpcAddressAccountInfo where
  address : PublicKey
  account : RpcAccountInfo

/-- A filter of a listing. -/
inductive RpcProgramAccountFilter where
  | dataSize (size : Nat)
  | memcmp (offset : Nat) (bytes : Bytes)

/-- The clock sysvar. -/
structure RpcClock where
  slot : Nat
  epochStartUnixTimestamp : Int
  epoch : Nat
  leaderScheduleEpoch : Nat
  unixTimestamp : Int

/-- `bothAccountInfos` stands for two `getAccountInfo` requests awaited by one `Promise.all`. -/
inductive RpcRequest where
  | getSlot (commitment : RpcCommitment)
  | getAccountInfo (address : PublicKey) (commitment : RpcCommitment)
  | bothAccountInfos (left right : PublicKey) (commitment : RpcCommitment)
  | getProgramAccounts (programAddress : PublicKey) (filters : List RpcProgramAccountFilter)
      (commitment : RpcCommitment)
  | getTokenAccountsByOwner (owner mint : PublicKey) (commitment : RpcCommitment)

/-- What a node answers a request with. -/
def RpcRequest.Answer : RpcRequest → Type
  | .getSlot _ => Except String Nat
  | .getAccountInfo _ _ => Except String (Option RpcAccountInfo)
  | .bothAccountInfos _ _ _ =>
    Except String (Option RpcAccountInfo) × Except String (Option RpcAccountInfo)
  | .getProgramAccounts _ _ _ => Except String (List RpcAddressAccountInfo)
  | .getTokenAccountsByOwner _ _ _ => Except String (List RpcAddressAccountInfo)

/-- A sequence of requests. -/
abbrev Reads := Interaction RpcRequest.Answer String

/-- The current slot. -/
def getSlot (commitment : RpcCommitment) : Reads Nat :=
  .call (.getSlot commitment) .done

/-- One account. -/
def getAccountInfo (address : PublicKey) (commitment : RpcCommitment) :
    Reads (Option RpcAccountInfo) :=
  .call (.getAccountInfo address commitment) .done

/-- The accounts of a program. -/
def getProgramAccounts (programAddress : PublicKey) (filters : List RpcProgramAccountFilter)
    (commitment : RpcCommitment) : Reads (List RpcAddressAccountInfo) :=
  .call (.getProgramAccounts programAddress filters commitment) .done

/-- The token accounts of an owner. -/
def getTokenAccountsByOwner (owner mint : PublicKey) (commitment : RpcCommitment) :
    Reads (List RpcAddressAccountInfo) :=
  .call (.getTokenAccountsByOwner owner mint commitment) .done

/-! ## The clock -/

/-- `SysvarC1ock11111111111111111111111111111111`. -/
def clockSysvarAddress : PublicKey where
  bytes := [6, 167, 213, 23, 24, 199, 116, 201, 40, 86, 99, 152, 105, 29, 94, 182, 139, 94, 184,
    163, 155, 75, 109, 92, 115, 85, 91, 33, 0, 0, 0, 0]
  length_eq := rfl

/-- Eight bytes of the data as a number. -/
def unsigned64 (data : Bytes) (offset : Nat) : Nat :=
  LittleEndian.ofBytes ((data.drop offset).take 8)

/-- Eight bytes of the data as a signed number. -/
def signed64 (data : Bytes) (offset : Nat) : Int :=
  LittleEndian.unwrap 64 (unsigned64 data offset)

/-- The clock read from its account. -/
def parseClock (account : Option RpcAccountInfo) : Except String RpcClock :=
  match account with
  | none => .error "Clock sysvar account is unavailable or truncated"
  | some account =>
    if account.data.length < 40 then
      .error "Clock sysvar account is unavailable or truncated"
    else .ok {
      slot := unsigned64 account.data 0
      epochStartUnixTimestamp := signed64 account.data 8
      epoch := unsigned64 account.data 16
      leaderScheduleEpoch := unsigned64 account.data 24
      unixTimestamp := signed64 account.data 32 }

/-- The current clock. -/
def getClock (commitment : RpcCommitment) : Reads RpcClock := do
  let account ← getAccountInfo clockSysvarAddress commitment
  parseClock account

/-! ## The context floor -/

/-- A request, or a new floor for the requests after it. -/
inductive SessionOp where
  | send (request : RpcRequest)
  | setMinimumContextSlot (slot : Nat)

/-- What an operation returns. -/
def SessionOp.Answer : SessionOp → Type
  | .send request => request.Answer
  | .setMinimumContextSlot _ => Unit

/-- A sequence of operations on a client. -/
abbrev Session := Interaction SessionOp.Answer String

/-- The answer of a sent request. -/
def answerSent (request : RpcRequest) (answer : (SessionOp.send request).Answer) :
    request.Answer := answer

/-- Requests as operations of a session. -/
def Reads.toSession {α : Type} (reads : Reads α) : Session α := reads.embed .send answerSent

instance : MonadLift Reads Session where
  monadLift := Reads.toSession

/-- A new floor. -/
def setMinimumContextSlot (slot : Nat) : Session Unit :=
  .call (.setMinimumContextSlot slot) fun _ => .done (.ok ())

/-- Is the request sent with the context configuration?  `getSlot` is not. -/
def RpcRequest.isContextual : RpcRequest → Bool
  | .getSlot _ => false
  | _ => true

/-- The floor a request is sent with, or the error when it is no safe integer. -/
def contextConfiguration (minimumContextSlot : Option Nat) (request : RpcRequest) :
    Except String (Option Nat) :=
  if request.isContextual then
    match minimumContextSlot with
    | none => .ok none
    | some slot =>
      if maxSafeInteger < slot then
        .error "Minimum context slot exceeds the safe integer range"
      else .ok (some slot)
  else .ok none

end Chancery
