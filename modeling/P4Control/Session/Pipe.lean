namespace P4Control

/-!
# Pipes

Frames travel through queues with a sending and a receiving half.  Either half may go
away: without a receiver nothing can be sent any more; without a sender the frames that
are left can still be received, and then the pipe has ended.

* `Pipe.send` — add a frame at the tail, or say why that is not possible.
* `Pipe.receive` — take the frame at the head, or say why there is none.
-/

/-- A queue of frames between two halves. -/
structure Pipe (α : Type) where
  /-- The frames sent and not yet received, oldest first. -/
  frames : List α := []
  /-- How many frames may wait; `none` for any number. -/
  capacity : Option Nat := none
  /-- Whether the sending half is there. -/
  hasSender : Bool := true
  /-- Whether the receiving half is there. -/
  hasReceiver : Bool := true
deriving DecidableEq, Repr

/-- Why a frame could not be sent. -/
inductive SendFailure where
  /-- The receiving half is gone. -/
  | closed
  /-- As many frames wait as may. -/
  | full
deriving DecidableEq, Repr

/-- What a receiver finds. -/
inductive Reception (α : Type) where
  | frame (a : α) (rest : Pipe α)
  /-- No frame yet, but one may come. -/
  | waiting
  /-- No frame, and none will come. -/
  | ended

namespace Pipe

variable {α : Type}

instance : Inhabited (Pipe α) := ⟨{}⟩

/-- Whether as many frames wait as may. -/
def isFull (p : Pipe α) : Bool :=
  match p.capacity with
  | none => false
  | some n => n ≤ p.frames.length

/-- Adds a frame at the tail. -/
def send (p : Pipe α) (a : α) : Except SendFailure (Pipe α) :=
  if !p.hasReceiver then .error .closed
  else if p.isFull then .error .full
  else .ok { p with frames := p.frames ++ [a] }

/-- Takes the frame at the head. -/
def receive (p : Pipe α) : Reception α :=
  match p.frames with
  | a :: rest => .frame a { p with frames := rest }
  | [] => if p.hasSender then .waiting else .ended

/-- Drops the sending half; the frames already sent stay. -/
def dropSender (p : Pipe α) : Pipe α := { p with hasSender := false }

/-- Drops the receiving half, and with it the frames not yet received. -/
def dropReceiver (p : Pipe α) : Pipe α := { p with hasReceiver := false, frames := [] }

/-! ### What was sent and received -/

/-- The reader waits when the pipe is empty and may still be filled. -/
theorem receive_eq_waiting {p : Pipe α} :
    p.receive = .waiting ↔ p.frames = [] ∧ p.hasSender = true := by
  unfold receive
  cases p.frames <;> cases p.hasSender <;> simp

/-- The reader is at the end when the pipe is empty and its sender is gone. -/
theorem receive_eq_ended {p : Pipe α} :
    p.receive = .ended ↔ p.frames = [] ∧ p.hasSender = false := by
  unfold receive
  cases p.frames <;> cases p.hasSender <;> simp

/-- A frame is taken from the front, and nothing else changes. -/
theorem receive_eq_frame {p q : Pipe α} {a : α} :
    p.receive = .frame a q ↔ p.frames = a :: q.frames ∧ q = { p with frames := q.frames } := by
  obtain ⟨frames, capacity, hasSender, hasReceiver⟩ := p
  obtain ⟨frames', capacity', hasSender', hasReceiver'⟩ := q
  unfold receive
  cases frames with
  | nil => cases hasSender <;> simp
  | cons b rest => simp; grind

/-- A frame is sent when there is a receiver and room for it, and comes last. -/
theorem send_eq_ok {p q : Pipe α} {a : α} :
    p.send a = .ok q ↔
      p.hasReceiver = true ∧ p.isFull = false ∧ q = { p with frames := p.frames ++ [a] } := by
  unfold send
  cases p.hasReceiver <;> cases p.isFull <;> simp [eq_comm]

end Pipe

end P4Control
