import P4Control.Packet

namespace P4Control

/-!
# Events

What a client reports on its own account to whoever listens.

* `Event` — an event about one device, `Event.kind` — its kind without the details.
* `EventSink` — the bounded buffer events are published through.
* `EventSink.drain` — what a subscriber at a given position receives.
* `Audience` — a sink with its subscribers, `Audience.step` — what happens there.

The sink keeps the last `capacity` events.  A subscriber is a position in the sequence of
all events posted; one that has fallen behind the buffer is told how many events it lost
and goes on with the oldest that is left.
-/

/-- Something that happened to the session of one device. -/
inductive Event where
  /-- The switch rejected a call because this client is not its master. -/
  | permissionDenied (device : DeviceId)
  /-- The channel reported itself unavailable, and the session ended. -/
  | channelError (device : DeviceId) (reason : String)
  /-- A session opened. -/
  | channelOpen (device : DeviceId)
  /-- A session opened after one that had failed. -/
  | channelReconnected (device : DeviceId)
  /-- An open session was closed from this side. -/
  | channelClosed (device : DeviceId)
  /-- The switch sent a packet. -/
  | packetIn (device : DeviceId) (pipeconf : PipeconfId) (packet : Packet)
  /-- The switch reported an error on the stream. -/
  | streamError (device : DeviceId) (code : StatusCode) (message : String)
deriving DecidableEq, Repr

/-- The kinds of events. -/
inductive EventKind where
  | permissionDenied
  | channelError
  | channelOpen
  | channelReconnected
  | channelClosed
  | packetIn
  | streamError
deriving DecidableEq, Repr

/-- The name under which a kind of event is shown. -/
def EventKind.name : EventKind → String
  | permissionDenied => "PERMISSION_DENIED"
  | channelError => "CHANNEL_ERROR"
  | channelOpen => "CHANNEL_OPEN"
  | channelReconnected => "CHANNEL_RECONNECTED"
  | channelClosed => "CHANNEL_CLOSED"
  | packetIn => "PACKET_IN"
  | streamError => "STREAM_ERROR"

namespace Event

/-- The device an event is about. -/
def device : Event → DeviceId
  | permissionDenied d | channelError d _ | channelOpen d | channelReconnected d
  | channelClosed d | packetIn d _ _ | streamError d _ _ => d

/-- The kind of an event. -/
def kind : Event → EventKind
  | permissionDenied _ => .permissionDenied
  | channelError .. => .channelError
  | channelOpen _ => .channelOpen
  | channelReconnected _ => .channelReconnected
  | channelClosed _ => .channelClosed
  | packetIn .. => .packetIn
  | streamError .. => .streamError

end Event

/-! ### The bounded sink -/

/-- Doubles `c` up to `steps` times until it is at least `n`. -/
def doubleUntil (n : Nat) : (steps c : Nat) → Nat
  | 0, c => c
  | steps + 1, c => if n ≤ c then c else doubleUntil n steps (2 * c)

/-- The least power of two that is at least `n`. -/
def powerOfTwoFrom (n : Nat) : Nat := doubleUntil n n 1

/-- What one receiving yields: a count of lost events, or an event. -/
inductive Received (ε : Type) where
  | lagged (lost : Nat)
  | event (e : ε)
deriving DecidableEq, Repr

/-- The bounded buffer of the last events posted. -/
structure EventSink (ε : Type) where
  /-- How many events are kept. -/
  capacity : Nat
  /-- The events kept, oldest first. -/
  kept : List ε := []
  /-- How many events have been posted. -/
  posted : Nat := 0
deriving DecidableEq, Repr

namespace EventSink

variable {ε : Type}

/-- A sink for at least `n` events: the capacity is a power of two, and at least one. -/
def ofCapacity (n : Nat) : EventSink ε := ⟨powerOfTwoFrom (max 1 n), [], 0⟩

/-- Posts an event; when the buffer is full the oldest one is lost. -/
def post (sink : EventSink ε) (e : ε) : EventSink ε :=
  let kept := sink.kept ++ [e]
  ⟨sink.capacity, kept.drop (kept.length - sink.capacity), sink.posted + 1⟩

/-- The position of a subscriber that joins now. -/
def subscribe (sink : EventSink ε) : Nat := sink.posted

/-- What a subscriber at `position` receives until nothing is left, and its position after. -/
def drain (sink : EventSink ε) (position : Nat) : List (Received ε) × Nat :=
  let oldest := sink.posted - sink.kept.length
  let events := (sink.kept.drop (position - oldest)).map .event
  (if position < oldest then .lagged (oldest - position) :: events else events, sink.posted)

end EventSink

/-! ### The subscribers -/

/-- A sink with its subscribers, each at its position. -/
structure Audience (κ ε : Type) where
  sink : EventSink ε
  positions : Directory κ Nat := .empty
deriving DecidableEq, Repr

/-- What happens at a sink. -/
inductive AudienceStep (κ ε : Type) where
  | post (e : ε)
  /-- A subscriber joins, or joins anew. -/
  | subscribe (name : κ)
  | drain (name : κ)
deriving DecidableEq, Repr

/-- What a subscriber receives in a step, if one drains, and the sink after it. -/
def Audience.step {κ ε : Type} [DecidableEq κ] (a : Audience κ ε) :
    AudienceStep κ ε → Option (List (Received ε)) × Audience κ ε
  | .post e => (none, { a with sink := a.sink.post e })
  | .subscribe name => (none, { a with positions := a.positions.insert name a.sink.subscribe })
  | .drain name =>
    match a.positions.find? name with
    | none => (none, a)
    | some position =>
      let (received, position) := a.sink.drain position
      (some received, { a with positions := a.positions.insert name position })

/-- The capacity of a sink whose owner does not choose one. -/
def defaultEventCapacity : Nat := 1024

end P4Control
