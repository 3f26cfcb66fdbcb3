import P4Control.System.Calls

namespace P4Control.System

/-!
# Running

Tasks run one at a time, in the order in which they became runnable, and each goes on
until it has to wait.

* `poll` — the first runnable task takes one step; it keeps its place while it can go on.
* `settle` — tasks run until none can.
* `advance` — the clock moves, and due timers make their calls runnable.
-/

/-- A client takes in a frame from its switch. -/
def listenFrame (s : System) (id : ClientId) : StreamResponse → System
  | .arbitration update =>
    s.updateClient id fun c => { c with arbiter := c.arbiter.acknowledge c.key.number update }
  | .error e => s.post (.streamError (s.client id).key.device e.code e.message)
  | .packet wire =>
    let device := (s.client id).key.device
    match s.catalog.devicePipeconf? device with
    | none => s
    | some conf =>
      match Packet.decode conf wire with
      | .ok packet => s.post (.packetIn device conf.id packet)
      | .error _ => s

/-- The status with which a stream counts as failed when the switch ends it. -/
def streamEnded : Status := ⟨.unavailable, "stream closed by server"⟩

/-- The stream of a session is lost: the failure is reported, and whatever it was, the session
ends. -/
def loseStream (s : System) (stream : StreamId) (id : ClientId) (token : Token) (status : Status) :
    System :=
  let (s, _) := s.report id .streamChannel (.refused status token)
  (s.failSession id token).dropListener stream

/-- Takes the first task off the queue. -/
def dequeue (s : System) : System := { s with ready := s.ready.tail }

/-- The agent's reading of an uplink takes one step. -/
def serveStep (s : System) (id : StreamId) : System :=
  let stream := s.stream id
  if stream.served then
    match stream.uplink.receive with
    | .frame frame uplink =>
      (s.updateStream id fun t => { t with uplink }).serveFrame id.switch frame
    | .waiting => s.dequeue
    | .ended =>
      s.dequeue.updateStream id fun t => { t with uplink := t.uplink.dropReceiver, served := false }
  else s.dequeue

/-- A client's reading of a downlink takes one step.  The end of the session comes before any frame
that may be waiting. -/
def listenStep (s : System) (id : StreamId) : System :=
  let stream := s.stream id
  match stream.listener with
  | none => s.dequeue
  | some (client, token) =>
    if (s.client client).scope.isCancelled token then s.dequeue.dropListener id
    else
      match stream.downlink.receive with
      | .frame (.item frame) downlink =>
        (s.updateStream id fun t => { t with downlink }).listenFrame client frame
      | .frame (.failure status) _ => s.dequeue.loseStream id client token status
      | .waiting => s.dequeue
      | .ended => s.dequeue.loseStream id client token streamEnded

/-- The first runnable task takes one step. -/
def poll (s : System) : System :=
  match s.ready with
  | [] => s
  | .serve stream :: _ => s.serveStep stream
  | .listen stream :: _ => s.listenStep stream
  | .resume call :: _ => s.dequeue.resume call

/-! ### Running until nothing can run -/

/-- The sum of numbers. -/
def total : List Nat → Nat
  | [] => 0
  | n :: rest => n + total rest

/-- How much a waiting call may still set in motion. -/
def Wait.weight : Wait → Nat
  | .turn => 4
  | _ => 1

/-- How much a stream may still set in motion. -/
def Stream.weight (t : Stream) : Nat :=
  3 * t.uplink.frames.length + 2 * t.downlink.frames.length + t.served.toNat +
    t.listener.isSome.toNat

/-- How much the scripted streams of a switch may still set in motion. -/
def Switch.weight (w : Switch) : Nat :=
  total (w.scriptedStreams.map fun script => 2 * script.frames.length)

/-- What every step of a task that gets something done lowers. -/
def work (s : System) : Nat :=
  total (s.clients.values.map fun c => total (c.calls.map fun call => Wait.weight call.wait)) +
    total (s.streams.values.map Stream.weight) + total (s.switches.values.map Switch.weight)

/-- A number of steps after which no task is runnable any more. -/
def enough (s : System) : Nat := s.ready.length + s.work * (s.work + 5)

/-- At most `n` steps, until no task is runnable. -/
def pollFor : Nat → System → System
  | 0, s => s
  | n + 1, s => if s.ready.isEmpty then s else pollFor n s.poll

/-- Tasks run until none can. -/
def settle (s : System) : System := pollFor s.enough s

/-! ### Time -/

/-- The timers that are due at `now`, soonest first. -/
def due (now : Duration) (timers : List Timer) : List Timer :=
  timers.takeWhile fun t => t.deadline.nanoseconds ≤ now.nanoseconds

/-- The clock moves on by `span`; the calls whose timers are due become runnable. -/
def advance (s : System) (span : Duration) : System :=
  let now : Duration := ⟨s.now.nanoseconds + span.nanoseconds⟩
  let fired := due now s.timers
  fired.foldl (fun s t => s.wake (.resume t.call))
    { s with now, timers := s.timers.drop fired.length }

end P4Control.System
