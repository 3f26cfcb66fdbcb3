import P4Control.Cookie
import P4Control.System.Session

namespace P4Control.System

/-!
# Calls

The calls on a client.  A call runs at once until it finishes or has to wait; a waiting
call is resumed when what it waits for has happened.

* `newCall`, `suspend`, `complete` — the life of a call.
* `await` — a call goes on with the answer of the switch, or waits for it.
* `openSession`, `setPipelineConfig`, `isPipelineConfigSet`, `read`, `openRead`,
  `readNext`, `write` — the calls.
* `resume` — a waiting call looks whether it can go on.
* `abort` — a call is dropped where it stands.

A switch answers at once or never, so a call that waits for an answer can only be ended
by the end of its scope or by its deadline.
-/

/-! ### The life of a call -/

/-- The number for the next call on a client. -/
def newCall (s : System) (id : ClientId) : System × CallId :=
  (s.updateClient id fun c => { c with made := c.made + 1 }, ⟨id, (s.client id).made⟩)

/-- Puts a call among the pending ones, or changes what it waits for. -/
def suspend (s : System) (id : CallId) (kind : CallKind) (wait : Wait) : System :=
  s.updateClient id.client fun c =>
    if c.calls.any fun call => decide (call.serial = id.serial) then
      { c with calls := c.calls.map fun call =>
          if call.serial = id.serial then { call with wait } else call }
    else { c with calls := c.calls ++ [⟨id.serial, kind, wait⟩] }

/-- The call leaves the line of those that open the session.  If it had its turn, the next one has
it now. -/
def leaveLine (s : System) (id : CallId) : System :=
  let turns := (s.client id.client).turns
  let left := turns.erase id.serial
  let s := s.updateClient id.client fun c => { c with turns := left }
  if turns.head? = some id.serial then
    match left.head? with
    | some next => s.wake (.resume ⟨id.client, next⟩)
    | none => s
  else s

/-- The call is no longer pending.  A request lets go of its client. -/
def retire (s : System) (id : CallId) (kind : CallKind) : System :=
  let s := s.leaveLine id
  let s := s.updateClient id.client fun c =>
    { c with calls := c.calls.filter fun call => decide (call.serial ≠ id.serial) }
  let s := { s with timers := s.timers.filter fun t => decide (t.call ≠ id) }
  match kind with
  | .request => s.release id.client
  | .next => s

/-- Notes how a call ended. -/
def record (s : System) (f : Finished) : System := { s with finished := s.finished ++ [f] }

/-- A request ends. -/
def complete (s : System) (id : CallId) (result : CallResult) : System :=
  (s.record ⟨id, result, none⟩).retire id .request

/-- A request ends and hands a read stream to its caller. -/
def completeWith (s : System) (id : CallId) (cursor : ReadCursor) : System :=
  (s.record ⟨id, .returned .stream, some cursor⟩).retire id .request

/-- Taking from a read stream ends. -/
def completeNext (s : System) (id : CallId) (result : CallResult) (cursor : ReadCursor) : System :=
  (s.record ⟨id, result, some cursor⟩).retire id .next

/-- A call fails.  A failure to set up the stream also ends the scope that was begun for it. -/
def failCall (s : System) (id : CallId) (operation : Operation) (token : Token)
    (failure : Failure) : System :=
  let (s, error) := s.report id.client operation failure
  let s := if operation = .openStream then s.failSession id.client token else s
  s.complete id (.failed error)

/-- A call goes on with the answer to what it has asked.  Without an answer it waits; a limit of
zero has passed at once. -/
def await {α : Type} (s : System) (id : CallId) (operation : Operation) (token : Token)
    (limit : Duration) (answer : Answer α) (goOn : System → α → System) : System :=
  match answer with
  | .reply a => goOn s a
  | .refused status => s.failCall id operation token (.refused status token)
  | .silence =>
    if limit.nanoseconds = 0 then s.failCall id operation token (.timedOut limit)
    else
      let deadline : Duration := ⟨s.now.nanoseconds + limit.nanoseconds⟩
      (s.suspend id .request (.answer operation token limit deadline)).setTimer ⟨deadline, id⟩

/-- A call goes on in the scope of the open session, or fails because none is open. -/
def inSession (s : System) (id : CallId) (goOn : System → Token → System) : System :=
  match (s.client id.client).scope.openToken? with
  | some token => goOn s token
  | none => s.complete id (.failed (.sessionNotOpen (s.client id.client).key.device))

/-! ### Opening the session -/

/-- Puts the scope begun for a session in place.  The client has claimed nothing in it yet. -/
def beginScope (s : System) (id : ClientId) (begun : Scope StreamId) : System :=
  s.updateClient id fun c => { c with scope := begun, arbiter := c.arbiter.forget }

/-- The session of `token` opens on its stream, with the scope as it is then, and the inbound loop
starts. -/
def goLive (s : System) (id : ClientId) (token : Token) (afterFailure : Bool)
    (activated : Scope StreamId) (stream : StreamId) : System :=
  let device := (s.client id).key.device
  let s := s.updateClient id fun c => { c with scope := activated }
  let s := s.post (if afterFailure then .channelReconnected device else .channelOpen device)
  let s := s.updateStream stream fun t => { t with listener := some (id, token) }
  s.wake (.listen stream)

/-- The stream of a session is there: the session opens, unless its scope has ended. -/
def activateSession (s : System) (id : CallId) (token : Token) (afterFailure : Bool)
    (stream : StreamId) : System :=
  let c := s.client id.client
  match c.scope.activate token stream with
  | none =>
    ((s.dropUplink stream).dropListener stream).complete id
      (.failed (.cancelled c.key.device Operation.openStream.text))
  | some scope =>
    (s.goLive id.client token afterFailure scope stream).complete id (.returned .done)

/-- A call whose turn it is begins a scope and sets up the stream.  If a scope is in place already,
there is nothing to do. -/
def setUp (s : System) (id : CallId) : System :=
  let c := s.client id.client
  match c.scope.begin with
  | none => s.complete id (.returned .done)
  | some (token, afterFailure, scope) =>
    let (s, answer) := (s.beginScope id.client scope).openStream c.switch
      (some (max c.config.queueCapacity 1))
    s.await id .openStream token c.config.shortTimeout answer fun s stream =>
      s.activateSession id token afterFailure stream

/-- Opens the session of a client.  Calls that open are served one after the other. -/
def openSession (s : System) (id : ClientId) : System × CallId :=
  let (s, call) := s.newCall id
  let first := (s.client id).turns = []
  let s := s.updateClient id fun c => { c with turns := c.turns ++ [call.serial] }
  (if first then s.setUp call else s.suspend call .request .turn, call)

/-! ### The forwarding program -/

/-- Pushes a program with device data, under the last used election id. -/
def setPipelineConfig (s : System) (id : ClientId) (conf : Pipeconf) (deviceData : Bytes) :
    System × CallId :=
  let (s, call) := s.newCall id
  let c := s.client id
  match conf.p4info? with
  | none => (s.complete call (.failed (.invalidPipeconf conf.id "pipeconf carries no P4Info")), call)
  | some p4info =>
    let request : SetPipelineRequest :=
      ⟨c.key.number, c.arbiter.lastUsed.map (·.toWire), .verifyAndCommit,
       ⟨p4info, deviceData, some (pipelineCookie conf deviceData)⟩⟩
    (s.inSession call fun s token =>
      let (switch, answer) := (s.switch c.switch).setPipeline request
      (s.updateSwitch c.switch fun _ => switch).await call .setPipeline token c.config.longTimeout
        answer fun s _ => s.complete call (.returned .done),
     call)

/-- Asks the switch for a view of its program and goes on with it. -/
def queryPipeline (s : System) (call : CallId) (view : PipelineView)
    (goOn : System → Option PipelineConfig → System) : System :=
  let c := s.client call.client
  s.inSession call fun s token =>
    let (switch, answer) := (s.switch c.switch).getPipeline ⟨c.key.number, view⟩
    (s.updateSwitch c.switch fun _ => switch).await call .getPipeline token c.config.shortTimeout
      answer goOn

/-- Asks whether the switch runs a program with the given device data.  The cookie decides; if the
switch keeps none, program and data themselves are compared. -/
def isPipelineConfigSet (s : System) (id : ClientId) (conf : Pipeconf) (deviceData : Bytes) :
    System × CallId :=
  let (s, call) := s.newCall id
  let answer := fun (s : System) (b : Bool) => s.complete call (.returned (.answer b))
  (s.queryPipeline call .cookieOnly fun s current =>
    match current with
    | none => answer s false
    | some config =>
      match config.cookie with
      | some cookie => answer s (cookie = pipelineCookie conf deviceData)
      | none =>
        match conf.p4info? with
        | none => answer s false
        | some p4info =>
          s.queryPipeline call .all fun s current =>
            match current with
            | none => answer s false
            | some config => answer s (config.p4info = p4info && config.deviceData = deviceData),
   call)

/-! ### The entity table -/

/-- Submits a read and goes on with the scope and the stream of the reply.  A read without queries
has an empty reply and does not reach the switch. -/
def submitRead (s : System) (call : CallId) (request : ReadRequest)
    (goOn : System → Token → ReadStream → System) : System :=
  let c := s.client call.client
  match request.error with
  | some error => s.complete call (.failed error)
  | none =>
    s.inSession call fun s token =>
      if request.queries = [] then goOn s token .spent
      else
        let (switch, answer) := (s.switch c.switch).read ⟨c.key.number, request.queries⟩
        (s.updateSwitch c.switch fun _ => switch).await call .read token c.config.shortTimeout
          answer fun s reply => goOn s token (.ofReply reply)

/-- Reads all entities that the request asks for. -/
def read (s : System) (id : ClientId) (request : ReadRequest) : System × CallId :=
  let (s, call) := s.newCall id
  (s.submitRead call request fun s token stream =>
    match stream.collect ((s.client id).scope.isCancelled token) with
    | (_, .failed status) => s.failCall call .read token (.refused status token)
    | (_, .cancelled) => s.failCall call .read token .cancelled
    | (_, .waiting) => s.suspend call .request (.chunk token)
    | (entities, _) => s.complete call (.returned (.entities entities)),
   call)

/-- Starts a read and hands its stream to the caller. -/
def openRead (s : System) (id : ClientId) (request : ReadRequest) : System × CallId :=
  let (s, call) := s.newCall id
  (s.submitRead call request fun s token stream => s.completeWith call ⟨id, token, stream⟩, call)

/-- Takes the next entity from a read stream. -/
def readNext (s : System) (cursor : ReadCursor) : System × CallId :=
  let (s, call) := s.newCall cursor.client
  let (step, stream) := cursor.stream.next ((s.client cursor.client).scope.isCancelled cursor.token)
  let left := { cursor with stream }
  (match step with
    | .entity e => s.completeNext call (.returned (.entity e)) left
    | .ended => s.completeNext call (.returned .noMore) left
    | .waiting => s.suspend call .next (.chunk cursor.token)
    | .cancelled =>
      let (s, error) := s.report cursor.client .read .cancelled
      s.completeNext call (.failed error) left
    | .failed status =>
      let (s, error) := s.report cursor.client .read (.refused status cursor.token)
      s.completeNext call (.failed error) left,
   call)

/-- Writes the updates of the request, under the last used election id.  A write without updates
has an empty report and does not reach the switch. -/
def write (s : System) (id : ClientId) (request : WriteRequest) : System × CallId :=
  let (s, call) := s.newCall id
  let c := s.client id
  match request.error with
  | some error => (s.complete call (.failed error), call)
  | none =>
    (s.inSession call fun s token =>
      if request.updates = [] then s.complete call (.returned (.report ⟨[]⟩))
      else
        let batch : UpdateBatch :=
          ⟨c.key.number, c.arbiter.lastUsed.map (·.toWire), request.updates, request.atomicity⟩
        let (switch, answer) := (s.switch c.switch).write batch
        (s.updateSwitch c.switch fun _ => switch).await call .write token c.config.shortTimeout
          answer fun s statuses =>
            match WriteReport.ofStatuses? request.updates statuses with
            | some report => s.complete call (.returned (.report report))
            | none =>
              s.complete call (.failed (.protocolViolation c.key.device
                ("write of " ++ toString request.updates.length ++ " updates answered with " ++
                  toString statuses.length ++ " statuses"))),
     call)

/-! ### Waiting calls -/

/-- A waiting call looks whether it can go on. -/
def resume (s : System) (id : CallId) : System :=
  let c := s.client id.client
  match s.call? id with
  | none => s
  | some call =>
    match call.wait with
    | .turn => if c.turns.head? = some id.serial then s.setUp id else s
    | .answer operation token limit deadline =>
      if c.scope.isCancelled token then s.failCall id operation token .cancelled
      else if deadline.nanoseconds ≤ s.now.nanoseconds then
        s.failCall id operation token (.timedOut limit)
      else s
    | .chunk token =>
      if c.scope.isCancelled token then
        let (s, error) := s.report id.client .read .cancelled
        match call.kind with
        | .request => s.complete id (.failed error)
        | .next => s.completeNext id (.failed error) ⟨id.client, token, .broken⟩
      else s

/-- Drops a pending call where it stands.  A scope it may have begun stays in place. -/
def abort (s : System) (id : CallId) : System :=
  match s.call? id with
  | none => s
  | some call => s.retire id call.kind

end P4Control.System
