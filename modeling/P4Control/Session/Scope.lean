import P4Control.Signal

namespace P4Control

/-!
# Session scopes

A session runs in a scope.  A scope is begun before the stream is set up, activated when
the stream is there, and ended by a close or by a failure.  Each begun scope is named by
a fresh token, and whatever runs in it watches for the cancellation of its token.

* `Scope` — the current token, the cancelled ones, the connection state, and a slot for
  what an open session has installed.
* `Scope.begin`, `Scope.activate`, `Scope.close`, `Scope.failIfCurrent` — the transitions.
* `Scope.openToken?` — the token of an open session.

Late callers hold tokens of scopes that have ended.  `activate` and `failIfCurrent` act
only on the current token, so a late caller cannot disturb a newer session.
-/

/-- Whether the stream session is there, as observers see it. -/
inductive ConnectionState where
  | closed
  | open
deriving DecidableEq, Repr, Inhabited

/-- The name under which a connection state is shown. -/
def ConnectionState.name : ConnectionState → String
  | closed => "CLOSED"
  | .open => "OPEN"

/-- The state as a word. -/
def ConnectionState.word : ConnectionState → String
  | closed => "Closed"
  | .open => "Open"

/-- The name of a begun scope: scopes are numbered in the order in which they begin. -/
abbrev Token := Nat

/-- The succession of session scopes of one client; an open session installs an `α`. -/
structure Scope (α : Type) where
  /-- How many scopes have begun. -/
  begun : Nat := 0
  /-- The scope that has begun and not ended. -/
  current : Option Token := none
  /-- The scopes that have been cancelled, latest first. -/
  cancelled : List Token := []
  /-- Whether the current scope has been activated. -/
  connection : Signal ConnectionState := ⟨.closed, 0⟩
  /-- Whether the last scope to end ended in failure, until the next one begins. -/
  failed : Bool := false
  /-- What the open session has installed. -/
  slot : Option α := none
deriving DecidableEq, Repr

namespace Scope

variable {α : Type}

instance : Inhabited (Scope α) := ⟨{}⟩

/-- Whether `token` names the scope in place. -/
def isCurrent (s : Scope α) (token : Token) : Bool := s.current = some token

/-- Whether the scope of `token` has been cancelled. -/
def isCancelled (s : Scope α) (token : Token) : Bool := s.cancelled.contains token

/-- Whether a session is open. -/
def isOpen (s : Scope α) : Bool := s.connection.value = .open

/-- Begins a scope if none is in place.  The flag tells whether the scope before it ended in failure. -/
def begin (s : Scope α) : Option (Token × Bool × Scope α) :=
  match s.current with
  | some _ => none
  | none => some (s.begun, s.failed,
      { s with begun := s.begun + 1, current := some s.begun, failed := false })

/-- Installs `a` and opens the session, if `token` names the scope in place. -/
def activate (s : Scope α) (token : Token) (a : α) : Option (Scope α) :=
  if s.isCurrent token then
    some { s with connection := s.connection.send .open, slot := some a }
  else none

/-- Ends the scope in place, if there is one, and empties the slot.  The flag tells whether a
session was open. -/
def close (s : Scope α) : Bool × Scope α :=
  match s.current with
  | some token => (s.isOpen,
      { s with current := none, cancelled := token :: s.cancelled,
               connection := s.connection.send .closed, slot := none })
  | none => (false, { s with slot := none })

/-- Ends the scope of `token` in failure, if it is the one in place. -/
def failIfCurrent (s : Scope α) (token : Token) : Option (Scope α) :=
  if s.isCurrent token then
    some { s with current := none, cancelled := token :: s.cancelled, failed := true,
                  connection := s.connection.send .closed, slot := none }
  else none

/-- The token of the open session.  A scope that still waits for its stream does not count. -/
def openToken? (s : Scope α) : Option Token := if s.isOpen then s.current else none

end Scope

end P4Control
