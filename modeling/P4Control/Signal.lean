namespace P4Control

/-!
# Signals

A value that others observe.  Every sending counts as a change, also one that sends the
value already there: an observer tells changes apart by the revision it last looked at.
-/

/-- A value with the number of times it has been sent. -/
structure Signal (α : Type) where
  /-- What was sent last. -/
  value : α
  /-- How many values have been sent since the start. -/
  revision : Nat := 0
deriving DecidableEq, Repr

namespace Signal

variable {α : Type}

/-- Sends `a` to the observers. -/
def send (s : Signal α) (a : α) : Signal α := ⟨a, s.revision + 1⟩

@[simp] theorem value_send (s : Signal α) (a : α) : (s.send a).value = a := rfl

@[simp] theorem revision_send (s : Signal α) (a : α) : (s.send a).revision = s.revision + 1 := rfl

end Signal

end P4Control
