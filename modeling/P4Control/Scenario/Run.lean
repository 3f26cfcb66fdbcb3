import P4Control.Scenario.Step
import P4Control.System.Registry
import P4Control.System.Run

namespace P4Control

/-!
# Running a scenario

A scenario is a list of steps on a control plane.  After each step every task that can
run does so until all are waiting, and a report is made of what can be seen.

* `Scenario` — the control plane with what its users hold, by name.
* `Scenario.act`, `Scenario.start` — the effect of an action, and of a request.
* `Scenario.observe` — what is seen when nothing runs any more.
* `Scenario.step` — one step with its report.
* `Scenario.run` — all steps.
-/

namespace Scenario

/-- A pending request. -/
inductive Pending where
  /-- A call on a client.  A call that takes from a read stream gives it back under the name it had. -/
  | call (id : CallId) (reading : Option String)
  /-- A call past any client that never gets an answer. -/
  | unanswered
deriving DecidableEq, Repr

/-- A stream in the hands of a user, past any client. -/
structure RawStream where
  id : StreamId
  /-- Whether the sending half is still there. -/
  sends : Bool := true
  /-- Whether the receiving half is still there. -/
  receives : Bool := true
deriving DecidableEq, Repr

/-- An observer of a client, with the revisions it has seen. -/
structure Observer where
  client : ClientId
  connection : Nat
  mastership : Nat
deriving DecidableEq, Repr

end Scenario

/-- A control plane with what its users hold. -/
structure Scenario where
  system : System := {}
  /-- The pending requests, in the order in which they were started. -/
  tasks : List (String × Scenario.Pending) := []
  reads : Directory String ReadCursor := .empty
  raws : Directory String Scenario.RawStream := .empty
  observers : Directory String Scenario.Observer := .empty
  /-- The sink through which events reach the one subscriber. -/
  sink : EventSink Event := .ofCapacity defaultEventCapacity
  /-- The subscriber's position in the sink. -/
  position : Nat := 0
  /-- The requests that have been dropped in this step. -/
  dropped : List String := []
  /-- How many steps have been made. -/
  steps : Nat := 0

namespace Scenario

/-- Puts another control plane in place. -/
def withSystem (x : Scenario) (system : System) : Scenario := { x with system }

/-! ### Actions -/

/-- Does something with the client of the given name. -/
def onClient (x : Scenario) (name : String) (f : ClientId → Scenario × Reply) : Scenario × Reply :=
  match x.system.handles.find? name with
  | none => (x, .missing .client)
  | some id => f id

/-- Does something with the switch of the given name. -/
def onSwitch (x : Scenario) (name : SwitchName) (f : Switch → Scenario × Reply) : Scenario × Reply :=
  match x.system.switches.find? name with
  | none => (x, .missing .switch)
  | some w => f w

/-- Does something with a registered configuration. -/
def onPipeconf (x : Scenario) (id : PipeconfId) (f : Pipeconf → Scenario × Reply) :
    Scenario × Reply :=
  match x.system.catalog.pipeconf? id with
  | none => (x, .missing .pipeconf)
  | some conf => f conf

/-- Does something with a stream past any client. -/
def onRaw (x : Scenario) (name : String) (f : RawStream → Scenario × Reply) : Scenario × Reply :=
  match x.raws.find? name with
  | none => (x, .missing .stream)
  | some raw => f raw

/-- Settings for a client: those of the control plane, with the given changes. -/
def settings (x : Scenario) (change : Option ConfigChange) : ClientConfig :=
  match change with
  | none => x.system.config
  | some change => change.apply x.system.config

/-- The reply to a frame that was queued, or could not be. -/
def sent (x : Scenario) (outcome : System × Option ClientError) : Scenario × Reply :=
  (x.withSystem outcome.1,
   match outcome.2 with
   | none => .done
   | some e => .error e)

/-- Whether parts of a client are still in use, by the system or by a read stream that has not
reported its end. -/
def inUse (x : Scenario) (id : ClientId) : Bool :=
  x.system.isInUse id || x.reads.values.any fun r => decide (r.client = id) && !r.stream.isOver

/-- What an observer of `signal` finds that has seen `revision`. -/
def changeOf {α : Type} (alive : Bool) (signal : Signal α) (revision : Nat) : Change × α :=
  (if !alive then .gone else if signal.revision = revision then .unchanged else .changed,
   signal.value)

/-- The observer of a client that has seen all there is to see now. -/
def observer (x : Scenario) (id : ClientId) : Observer :=
  let c := x.system.client id
  ⟨id, c.scope.connection.revision, c.arbiter.mastership.revision⟩

/-- Both halves of a stream past any client go, as far as they are there. -/
def discard (s : System) (raw : RawStream) : System :=
  let s := if raw.sends then s.dropUplink raw.id else s
  if raw.receives then s.dropListener raw.id else s

/-- What waits on the downlink of a stream. -/
def waiting (downlink : Pipe (Arrival StreamResponse)) : List RawItem :=
  downlink.frames.map (fun
    | .item frame => .frame frame
    | .failure status => .status status) ++
  if downlink.hasSender then [] else [.ended]

/-- The effect of an action. -/
def act (x : Scenario) : Action → Scenario × Reply
  | .create key handle change =>
    match x.system.createClient key (x.settings change) with
    | (s, .ok id) => (x.withSystem (s.setHandle handle id), .key (some (s.client id).key))
    | (s, .error e) => (x.withSystem s, .error e)
  | .new key handle change =>
    match x.system.channels.find? key.device with
    | none => (x, .missing .channel)
    | some switch =>
      let (s, id) := x.system.newClient key switch (x.settings change)
      (x.withSystem (s.setHandle handle id), .key (some key))
  | .get device handle =>
    match x.system.registered? device with
    | none => (x, .key none)
    | some id =>
      let s := match handle with
        | some name => x.system.setHandle name id
        | none => x.system
      (x.withSystem s, .key (some (x.system.client id).key))
  | .remove device =>
    let (s, removed) := x.system.removeClient device
    (x.withSystem s, .flag removed)
  | .deviceIds => (x, .devices x.system.deviceIds)
  | .clone client handle => x.onClient client fun id =>
      (x.withSystem (x.system.setHandle handle id), .done)
  | .drop client =>
    let (s, dropped) := x.system.dropHandle client
    (x.withSystem s, .flag dropped)
  | .addChannel device switch =>
    let s := if x.system.switches.contains switch then x.system
      else x.system.updateSwitch switch id
    (x.withSystem { s with channels := s.channels.insert device switch }, .done)
  | .removeChannel device =>
    (x.withSystem { x.system with channels := x.system.channels.erase device },
     .flag (x.system.channels.contains device))
  | .register conf =>
    (x.withSystem { x.system with catalog := x.system.catalog.register conf }, .done)
  | .bind device conf =>
    (x.withSystem { x.system with catalog := x.system.catalog.bind device conf }, .done)
  | .unbind device =>
    (x.withSystem { x.system with catalog := x.system.catalog.unbind device },
     .binding (x.system.catalog.binding? device))
  | .lookup device =>
    (x, .lookup (x.system.catalog.binding? device)
      ((x.system.catalog.devicePipeconf? device).map (·.fingerprint)))
  | .close client => x.onClient client fun id => (x.withSystem (x.system.closeSession id), .done)
  | .run client election => x.onClient client fun id =>
      x.sent (x.system.runForMastership id election)
  | .packetOut client conf packet => x.onClient client fun id => x.onPipeconf conf fun conf =>
      x.sent (x.system.packetOut id conf packet)
  | .info client => x.onClient client fun id =>
      let c := x.system.client id
      (x, .info ⟨c.key, c.scope.isOpen, c.arbiter.isMaster, x.system.describe id⟩)
  | .watch client name => x.onClient client fun id =>
      ({ x with observers := x.observers.insert name (x.observer id) }, .done)
  | .look name =>
    match x.observers.find? name with
    | none => (x, .missing .observer)
    | some seen =>
      let c := x.system.client seen.client
      let alive := x.inUse seen.client
      ({ x with observers := x.observers.insert name (x.observer seen.client) },
       .look (changeOf alive c.scope.connection seen.connection)
         (changeOf alive c.arbiter.mastership seen.mastership))
  | .dropRead name =>
    ({ x with reads := x.reads.erase name }, .flag (x.reads.contains name))
  | .steer switch steering => x.onSwitch switch fun _ =>
      (x.withSystem (x.system.updateSwitch switch fun w =>
        { w with agent := steering.apply w.agent }), .done)
  | .script switch script => x.onSwitch switch fun _ =>
      (x.withSystem (x.system.updateSwitch switch fun w => script.addTo w), .done)
  | .sendFrame switch frame => x.onSwitch switch fun _ =>
      let (s, sent) := x.system.pushFrame switch (.item frame)
      (x.withSystem s, .flag sent)
  | .failStream switch status => x.onSwitch switch fun _ =>
      let (s, sent) := x.system.failStream switch status
      (x.withSystem s, .flag sent)
  | .closeStream switch => x.onSwitch switch fun w =>
      (x.withSystem (x.system.detach switch), .flag w.attached.isSome)
  | .dump switch => x.onSwitch switch fun w => (x, .dump ⟨x.system.isAttached switch, w.agent⟩)
  | .noted switch => x.onSwitch switch fun w =>
      (x.withSystem (x.system.updateSwitch switch fun w => { w with noted := [] }), .noted w.noted)
  | .rawSend name frame => x.onRaw name fun raw =>
      if raw.sends then
        match (x.system.stream raw.id).uplink.send frame with
        | .ok uplink =>
          (x.withSystem ((x.system.updateStream raw.id fun t => { t with uplink }).wake
            (.serve raw.id)), .flag true)
        | .error _ => (x, .flag false)
      else (x, .flag false)
  | .rawClose name => x.onRaw name fun raw =>
      let s := if raw.sends then x.system.dropUplink raw.id else x.system
      ({ x with system := s, raws := x.raws.insert name { raw with sends := false } },
       .flag raw.sends)
  | .rawDrop name => x.onRaw name fun raw =>
      let s := if raw.receives then x.system.dropListener raw.id else x.system
      ({ x with system := s, raws := x.raws.insert name { raw with receives := false } },
       .flag raw.receives)
  | .rawReceive name => x.onRaw name fun raw =>
      if raw.receives then
        (x.withSystem (x.system.updateStream raw.id fun t =>
          { t with downlink := { t.downlink with frames := [] } }),
         .rawItems (waiting (x.system.stream raw.id).downlink))
      else (x, .rawItems [])
  | .abort task =>
    match x.tasks.find? fun t => decide (t.1 = task) with
    | none => (x, .missing .task)
    | some (_, pending) =>
      let s := match pending with
        | .call id _ => x.system.abort id
        | .unanswered => x.system
      ({ x with system := s, dropped := x.dropped ++ [task] }, .done)

/-! ### Requests -/

/-- A call on a client has been started; it may have finished already. -/
def started (x : Scenario) (name : String) (reading : Option String) (call : System × CallId) :
    Scenario × Reply :=
  ({ x with system := call.1, tasks := x.tasks ++ [(name, .call call.2 reading)] }, .pending name)

/-- A call past any client has been made; without an answer it stays pending. -/
def answered {α : Type} (x : Scenario) (name : String) (answer : Answer α) (reply : α → Reply) :
    Scenario × Reply :=
  match answer with
  | .reply a => (x, reply a)
  | .refused status => (x, .refused status)
  | .silence => ({ x with tasks := x.tasks ++ [(name, .unanswered)] }, .pending name)

/-- Puts the agent of a switch in place after a call past any client. -/
def withAgent (x : Scenario) (switch : SwitchName) (agent : Agent) : Scenario :=
  x.withSystem (x.system.updateSwitch switch fun w => { w with agent })

/-- The items of chunks; a failure does not occur in what an agent sends. -/
def itemsOf : List (Arrival (List Entity)) → List (List Entity)
  | [] => []
  | .item es :: rest => es :: itemsOf rest
  | .failure _ :: rest => itemsOf rest

/-- The effect of a request that is started under the given name. -/
def start (x : Scenario) (name : String) : Request → Scenario × Reply
  | .openSession client => x.onClient client fun id =>
      x.started name none (x.system.openSession id)
  | .setPipeline client conf data => x.onClient client fun id => x.onPipeconf conf fun conf =>
      x.started name none (x.system.setPipelineConfig id conf data)
  | .isPipelineSet client conf data => x.onClient client fun id => x.onPipeconf conf fun conf =>
      x.started name none (x.system.isPipelineConfigSet id conf data)
  | .read client conf query => x.onClient client fun id => x.onPipeconf conf fun conf =>
      x.started name none (x.system.read id (query.foldl QueryItem.addTo { pipeconf := conf }))
  | .openRead client conf query => x.onClient client fun id => x.onPipeconf conf fun conf =>
      x.started name (some name)
        (x.system.openRead id (query.foldl QueryItem.addTo { pipeconf := conf }))
  | .readNext stream =>
    match x.reads.find? stream with
    | none => (x, .missing .stream)
    | some cursor =>
      { x with reads := x.reads.erase stream }.started name (some stream)
        (x.system.readNext cursor)
  | .write client conf updates atomicity => x.onClient client fun id => x.onPipeconf conf fun conf =>
      let request : WriteRequest := updates.foldl UpdateItem.addTo { pipeconf := conf }
      let request := match atomicity with
        | some a => request.withAtomicity a
        | none => request
      x.started name none (x.system.write id request)
  | .rawOpen switch => x.onSwitch switch fun _ =>
      let (s, answer) := x.system.attachStream switch none
      match answer with
      | .reply id =>
        let s := match x.raws.find? name with
          | some old => discard s old
          | none => s
        ({ x with system := s, raws := x.raws.insert name { id } }, .stream name)
      | other => (x.withSystem s).answered name other fun _ => .stream name
  | .rawSet switch request => x.onSwitch switch fun w =>
      let (agent, answer) := w.agent.setPipeline request
      (x.withAgent switch agent).answered name answer fun _ => .done
  | .rawGet switch request => x.onSwitch switch fun w =>
      let (agent, answer) := w.agent.getPipeline request
      (x.withAgent switch agent).answered name answer .config
  | .rawRead switch request => x.onSwitch switch fun w =>
      let (agent, answer) := w.agent.read request
      let x := x.withAgent switch agent
      match answer with
      | .reply ⟨chunks, false⟩ => (x, .chunks (itemsOf chunks))
      | .reply ⟨_, true⟩ => x.answered name (.silence : Answer Unit) fun _ => .done
      | .refused status => (x, .refused status)
      | .silence => x.answered name (.silence : Answer Unit) fun _ => .done
  | .rawWrite switch request => x.onSwitch switch fun w =>
      let (agent, answer) := w.agent.write request
      (x.withAgent switch agent).answered name answer .statuses

/-! ### Finished requests -/

/-- How a finished call is shown; a read stream goes by the name `stream`. -/
def shown (stream : String) : CallResult → Reply
  | .returned .stream => .stream stream
  | .returned value => .returned value
  | .failed error => .error error

/-- Takes the requests that have finished or been dropped off the pending ones: those that are
left, what became of the others, and the read streams their callers have now. -/
def collect (finished : List Finished) (dropped : List String) :
    List (String × Pending) → Directory String ReadCursor →
      List (String × Pending) × List (String × Reply) × Directory String ReadCursor
  | [], reads => ([], [], reads)
  | (name, pending) :: rest, reads =>
    if name ∈ dropped then
      let (left, done, reads) := collect finished (dropped.erase name) rest reads
      (left, (name, .aborted) :: done, reads)
    else
      match pending with
      | .unanswered =>
        let (left, done, reads) := collect finished dropped rest reads
        ((name, pending) :: left, done, reads)
      | .call id reading =>
        match finished.find? fun f => decide (f.call = id) with
        | none =>
          let (left, done, reads) := collect finished dropped rest reads
          ((name, pending) :: left, done, reads)
        | some f =>
          let reads := match reading, f.cursor with
            | some stream, some cursor => reads.insert stream cursor
            | _, _ => reads
          let (left, done, reads) := collect finished dropped rest reads
          (left, (name, shown (reading.getD name) f.result) :: done, reads)

/-! ### Steps -/

/-- Does actions one after the other, with nothing running in between. -/
def actAll (x : Scenario) : List (Option Action) → Scenario × List Reply
  | [] => (x, [])
  | none :: rest =>
    let (x, replies) := x.actAll rest
    (x, .notAction :: replies)
  | some action :: rest =>
    let (x, reply) := x.act action
    let (x, replies) := x.actAll rest
    (x, reply :: replies)

/-- The name under which the request of a step runs. -/
def taskName (x : Scenario) (name : Option String) : String :=
  name.getD ("t" ++ toString x.steps)

/-- What a step does before the tasks run. -/
def perform (x : Scenario) : Step → Scenario × Outcome
  | .act action =>
    let (x, reply) := x.act action
    (x, .one reply)
  | .batch actions =>
    let (x, replies) := x.actAll actions
    (x, .many replies)
  | .start name request =>
    let (x, reply) := x.start (x.taskName name) request
    (x, .one reply)
  | .advance span => (x.withSystem (x.system.advance span), .one .done)

/-- The state of a client as everyone sees it. -/
def status (s : System) (id : ClientId) : ClientStatus :=
  let c := s.client id
  ⟨c.scope.connection.value, c.arbiter.mastership.value, c.arbiter.lastUsed⟩

/-- The reply of the request that was started last, if it has finished, and those of the others. -/
def splitOwn (own : Option String) (done : List (String × Reply)) :
    Option Reply × List (String × Reply) :=
  match own, done.getLast? with
  | some name, some (last, reply) => if last = name then (some reply, done.dropLast) else (none, done)
  | _, _ => (none, done)

/-- Looks at what has happened since `posted` events had been posted: finished requests are taken off
the pending ones, the subscriber receives its events, and a report is made. -/
def observe (x : Scenario) (posted : Nat) (outcome : Outcome) : Scenario × Report :=
  let (tasks, done, reads) := collect x.system.finished x.dropped x.tasks x.reads
  let own := match outcome with
    | .one (.pending name) => some name
    | _ => none
  let (ownReply, done) := splitOwn own done
  let sink := (x.system.journal.drop posted).foldl EventSink.post x.sink
  let (events, position) := sink.drain x.position
  ({ x with
      system := { x.system with finished := [] }
      tasks, reads, sink, position
      dropped := []
      steps := x.steps + 1 },
   { outcome := match ownReply with
       | some reply => .one reply
       | none => outcome
     done, events
     clients := x.system.handles.entries.map fun h => (h.1, status x.system h.2) })

/-- One step: its effect, the running of the tasks, and the report. -/
def step (x : Scenario) (step : Step) : Scenario × Report :=
  let posted := x.system.journal.length
  let (x, outcome) := x.perform step
  (x.withSystem x.system.settle).observe posted outcome

/-- All steps with their reports. -/
def run (x : Scenario) : List Step → Scenario × List Report
  | [] => (x, [])
  | s :: rest =>
    let (x, report) := x.step s
    let (x, reports) := x.run rest
    (x, report :: reports)

/-- The start of a scenario: a switch for each of the given devices with a channel to it, the
configurations, the bindings, and the sink's capacity. -/
def initial (devices : List String) (confs : List Pipeconf) (bindings : List (String × PipeconfId))
    (config : ConfigChange) (capacity : Nat) : Scenario :=
  { system := {
      switches := .ofList (devices.map fun d => (d, {}))
      channels := .ofList (devices.map fun d => (⟨d⟩, d))
      catalog := bindings.foldl (fun c b => c.bind ⟨b.1⟩ b.2) (confs.foldl Catalog.register {})
      config := config.apply {} }
    sink := .ofCapacity capacity }

end Scenario

end P4Control
