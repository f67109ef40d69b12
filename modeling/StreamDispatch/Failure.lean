import StreamDispatch.Text.Quoted

/-!
# Failures and call statuses

`Failure` lists why an operation of the dispatcher fails; each failure has one message.
Towards workers a failure travels as a `Status`: a `Code` and a message. Every failure but a
relayed status keeps its message and gets the code of its kind: unknown workers are
unauthenticated, missing records are not found, a refused window or permission is a denied
permission, a bad argument is an invalid argument, a missing worker or a failed assignment is
unavailability, and storage or light trouble is internal. A relayed status passes through
unchanged.
-/

namespace StreamDispatch

/-- The status codes of a remote call, numbered 0 to 16. -/
inductive Code where
  | ok
  | cancelled
  | unknown
  | invalidArgument
  | deadlineExceeded
  | notFound
  | alreadyExists
  | permissionDenied
  | resourceExhausted
  | failedPrecondition
  | aborted
  | outOfRange
  | unimplemented
  | internal
  | unavailable
  | dataLoss
  | unauthenticated
  deriving Repr, DecidableEq, BEq

namespace Code

/-- The codes in numeric order. -/
def all : List Code :=
  [ok, cancelled, unknown, invalidArgument, deadlineExceeded, notFound, alreadyExists,
    permissionDenied, resourceExhausted, failedPrecondition, aborted, outOfRange,
    unimplemented, internal, unavailable, dataLoss, unauthenticated]

/-- The code with a number; numbers outside 0–16 are `unknown`. -/
def ofInt (n : Int) : Code :=
  if 0 ≤ n then (all[n.toNat]?).getD unknown else unknown

/-- The name of a code. -/
def name : Code → String
  | ok => "Ok"
  | cancelled => "Cancelled"
  | unknown => "Unknown"
  | invalidArgument => "InvalidArgument"
  | deadlineExceeded => "DeadlineExceeded"
  | notFound => "NotFound"
  | alreadyExists => "AlreadyExists"
  | permissionDenied => "PermissionDenied"
  | resourceExhausted => "ResourceExhausted"
  | failedPrecondition => "FailedPrecondition"
  | aborted => "Aborted"
  | outOfRange => "OutOfRange"
  | unimplemented => "Unimplemented"
  | internal => "Internal"
  | unavailable => "Unavailable"
  | dataLoss => "DataLoss"
  | unauthenticated => "Unauthenticated"

end Code

/-- The outcome of a failed remote call: a code and a message. -/
structure Status where
  code : Code
  message : String
  deriving Repr, DecidableEq, BEq

/-- The full text of a status: its code, its quoted message, and its empty details and
metadata. -/
def Status.text (s : Status) : String :=
  "status: " ++ s.code.name ++ ", message: " ++ Text.quote s.message ++
    ", details: [], metadata: MetadataMap \x7b headers: \x7b\x7d \x7d"

/-- The two kinds of dispatch batch. -/
inductive BatchKind where
  | premieres
  | streams
  deriving Repr, DecidableEq, BEq

/-- The name of a batch kind. -/
def BatchKind.name : BatchKind → String
  | .premieres => "premieres"
  | .streams => "streams"

/-- Why an operation of the dispatcher failed. -/
inductive Failure where
  /-- no worker has this id -/
  | unauthenticated (workerId : String)
  | streamNotFound (id : Nat)
  | streamKeyNotFound (key : String)
  | courseNotFound (id : Nat)
  | hallNotFound (id : Nat)
  /-- a batch had jobs but no worker was alive -/
  | noWorkers (batch : BatchKind)
  /-- a worker answered an assignment with a refusal -/
  | rejected (workerId : String) (streamId : Nat)
  /-- a self-stream request came outside the stream's publishing window -/
  | outsideWindow (streamId : Nat)
  | invalidArgument (text : String)
  | permissionDenied (text : String)
  | storage (text : String)
  /-- a hall light could not be switched -/
  | actuator (text : String)
  /-- a connection to a worker could not be made -/
  | transport (text : String)
  /-- a worker's call ended with this status -/
  | relayed (status : Status)
  deriving Repr, DecidableEq, BEq

namespace Failure

/-- The message of a failure. -/
def message : Failure → String
  | unauthenticated w => "authentication failed: invalid worker id " ++ w
  | streamNotFound n => s!"Stream not found: {n}"
  | streamKeyNotFound k => "No stream with key " ++ k
  | courseNotFound n => s!"Course not found: {n}"
  | hallNotFound n => s!"Lecture hall not found: {n}"
  | noWorkers b => "No alive workers to handle " ++ b.name
  | rejected w n => "Worker " ++ w ++ s!" rejected stream {n}"
  | outsideWindow n => s!"Stream {n} rejected, time out of bounds"
  | invalidArgument t => "Invalid argument: " ++ t
  | permissionDenied t => "Permission denied: " ++ t
  | storage t => "Storage error: " ++ t
  | actuator t => "Light control failed: " ++ t
  | transport t => "Transport error: " ++ t
  | relayed s => "gRPC error: " ++ s.text

/-- The name of a failure's kind. -/
def name : Failure → String
  | unauthenticated _ => "Unauthenticated"
  | streamNotFound _ => "StreamNotFound"
  | streamKeyNotFound _ => "StreamKeyNotFound"
  | courseNotFound _ => "CourseNotFound"
  | hallNotFound _ => "LectureHallNotFound"
  | noWorkers _ => "NoWorkersAvailable"
  | rejected _ _ => "Rejected"
  | outsideWindow _ => "OutsideWindow"
  | invalidArgument _ => "InvalidArgument"
  | permissionDenied _ => "PermissionDenied"
  | storage _ => "Storage"
  | actuator _ => "Actuator"
  | transport _ => "Transport"
  | relayed _ => "Grpc"

/-- The code a failure travels with. -/
def code : Failure → Code
  | unauthenticated _ => .unauthenticated
  | streamNotFound _ | streamKeyNotFound _ | courseNotFound _ | hallNotFound _ => .notFound
  | outsideWindow _ | permissionDenied _ => .permissionDenied
  | invalidArgument _ => .invalidArgument
  | noWorkers _ | rejected _ _ | transport _ => .unavailable
  | relayed s => s.code
  | storage _ | actuator _ => .internal

/-- The debug text of a failure: its kind's name and its details, texts quoted. -/
def debugText : Failure → String
  | unauthenticated w => "Unauthenticated(" ++ Text.quote w ++ ")"
  | streamNotFound n => s!"StreamNotFound({n})"
  | streamKeyNotFound k => "StreamKeyNotFound(" ++ Text.quote k ++ ")"
  | courseNotFound n => s!"CourseNotFound({n})"
  | hallNotFound n => s!"LectureHallNotFound({n})"
  | noWorkers b => "NoWorkersAvailable(" ++ Text.quote b.name ++ ")"
  | rejected w n => "Rejected \x7b worker_id: " ++ Text.quote w ++ s!", stream_id: {n} \x7d"
  | outsideWindow n => s!"OutsideWindow({n})"
  | relayed s =>
    "Grpc(Status \x7b code: " ++ s.code.name ++
      (if s.message.isEmpty then "" else ", message: " ++ Text.quote s.message) ++
      ", source: None \x7d)"
  | invalidArgument t => "InvalidArgument(" ++ Text.quote t ++ ")"
  | permissionDenied t => "PermissionDenied(" ++ Text.quote t ++ ")"
  | storage t => "Storage(" ++ Text.quote t ++ ")"
  | actuator t => "Actuator(" ++ Text.quote t ++ ")"
  | transport t => "Transport(" ++ Text.quote t ++ ")"

/-- The status a failure travels as: a relayed status as it is, any other failure with its
kind's code and its message. -/
def toStatus : Failure → Status
  | relayed s => s
  | f => ⟨f.code, f.message⟩

end Failure

end StreamDispatch
