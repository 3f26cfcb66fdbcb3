namespace P4Control

/-!
# Status codes

Every call is answered by a status: a code from a fixed list and a message.  A status
with the code `ok` reports success.

* `StatusCode` — the codes, with their numbers on the wire and their names.
* `Status` — a code with a message.
* `Arrival` — what arrives on a stream: an item, or the status with which the stream fails.
-/

/-- The canonical codes of a call's outcome. -/
inductive StatusCode where
  | ok
  | cancelled
  | unknown
  | invalidArgument
  | deadlineExceeded
  | notFound
  | alreadyExists
  | permissionDenied
  | resourceExhausted
  | failedPrecondition
  | aborted
  | outOfRange
  | unimplemented
  | internal
  | unavailable
  | dataLoss
  | unauthenticated
deriving DecidableEq, Repr, Inhabited

namespace StatusCode

/-- All codes, each at the place of its number on the wire. -/
def all : List StatusCode :=
  [ok, cancelled, unknown, invalidArgument, deadlineExceeded, notFound, alreadyExists,
   permissionDenied, resourceExhausted, failedPrecondition, aborted, outOfRange, unimplemented,
   internal, unavailable, dataLoss, unauthenticated]

/-- The code with the given number; a number that no code has means `unknown`. -/
def ofNumber : Int → StatusCode
  | .ofNat n => all.getD n unknown
  | .negSucc _ => unknown

/-- The name under which a code is shown. -/
def name : StatusCode → String
  | ok => "Ok"
  | cancelled => "Cancelled"
  | unknown => "Unknown"
  | invalidArgument => "InvalidArgument"
  | deadlineExceeded => "DeadlineExceeded"
  | notFound => "NotFound"
  | alreadyExists => "AlreadyExists"
  | permissionDenied => "PermissionDenied"
  | resourceExhausted => "ResourceExhausted"
  | failedPrecondition => "FailedPrecondition"
  | aborted => "Aborted"
  | outOfRange => "OutOfRange"
  | unimplemented => "Unimplemented"
  | internal => "Internal"
  | unavailable => "Unavailable"
  | dataLoss => "DataLoss"
  | unauthenticated => "Unauthenticated"

end StatusCode

/-- The outcome of a call, or of one update of a write. -/
structure Status where
  code : StatusCode
  message : String
deriving DecidableEq, Repr, Inhabited

namespace Status

/-- Plain success. -/
def success : Status := ⟨.ok, ""⟩

/-- Whether the status reports success. -/
def isOk (s : Status) : Bool := s.code = .ok

/-- A status as one line of text. -/
def text (s : Status) : String := s.code.name ++ ": " ++ s.message

end Status

/-- What arrives on a stream: an item, or the status with which the stream fails. -/
inductive Arrival (α : Type) where
  | item (a : α)
  | failure (status : Status)
deriving DecidableEq, Repr

end P4Control
