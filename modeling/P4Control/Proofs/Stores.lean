import P4Control.Proofs.Setback

namespace P4Control

/-!
# What switches store

An agent stores a table of entities and the program pushed last.  Requests get to it through the channel of
its switch, where a script may answer in its place, and it takes a push or a write from its master only.

* `Agent.stores`, `Agent.handle` — the table and the program; the agent after a unary request.
* `Agent.nextFault` — the fault that waits for the next call.
* `Agent.setPipeline_cases`, `Agent.write_cases` — a request is taken from the master, or changes nothing.
* `Agent.master_of_handle` — whoever changes what is stored carries the election id of the master.
* `Switch.take`, `Switch.agent_take` — a request goes through the channel.
* `Client.push?`, `Client.query?`, `Client.batch?` — the request that a client sends for a call.
* `System.setPipelineConfig_cases`, `System.write_cases` — the call ends without it, or goes on with the answer.
* `System.Relays` — a switch takes a request, and no other switch is touched.
-/

/-! ### The agent -/

namespace Agent

variable (a : Agent)

/-- What an agent stores. -/
def stores : EntityTable × Option PipelineConfig := (a.entities, a.pipeline)

/-- The agent after a unary request. -/
def handle : Request → Agent
  | .set request => (a.setPipeline request).1
  | .get request => (a.getPipeline request).1
  | .read query => (a.read query).1
  | .write batch => (a.write batch).1

/-- The fault that waits for the next call of `rpc`. -/
def nextFault (a : Agent) (rpc : Rpc) : Option Fault := ((a.faults.find? rpc).getD []).head?

/-- A call meets the first fault that is queued for its kind. -/
theorem enter_snd (a : Agent) (rpc : Rpc) : (a.enter rpc).2 = a.nextFault rpc := by
  unfold enter nextFault
  dsimp only
  split
  · next h => rw [h]; rfl
  · next h => rw [h]; rfl

/-- When a call comes in, it is counted and its fault is used up, and nothing else happens. -/
theorem enter_eq (rpc : Rpc) :
    (a.enter rpc).1 =
      { a with calls := (a.enter rpc).1.calls, faults := (a.enter rpc).1.faults } := by
  unfold enter
  dsimp only
  split <;> rfl

/-- A call that is counted changes nothing that is stored. -/
theorem stores_enter (rpc : Rpc) : (a.enter rpc).1.stores = a.stores := by
  rw [enter_eq]
  rfl

/-- A call that is counted makes nobody master. -/
theorem isMaster_enter (rpc : Rpc) (election : Option Uint128) :
    (a.enter rpc).1.isMaster election = a.isMaster election := by
  rw [enter_eq]
  rfl

variable {a} in
/-- A call does its work, or a fault keeps it from doing so. -/
theorem answer_cases {α : Type} {rpc : Rpc} {work : Agent → Agent × Answer α}
    {r : Agent × Answer α} (h : a.answer rpc work = r) :
    a.nextFault rpc = none ∧ r = work (a.enter rpc).1 ∨
      (∃ fault, a.nextFault rpc = some fault) ∧ r.1 = (a.enter rpc).1 ∧
        ∀ reply, r.2 ≠ .reply reply := by
  have hf := a.enter_snd rpc
  subst h
  unfold answer
  generalize a.enter rpc = entered at hf ⊢
  obtain ⟨b, fault⟩ := entered
  cases fault with
  | none => exact .inl ⟨hf.symm, rfl⟩
  | some fault => cases fault <;> exact .inr ⟨⟨_, hf.symm⟩, rfl, fun _ h => by cases h⟩

/-- The agent takes a push from its master, or stores what it has stored. -/
theorem setPipeline_cases (request : SetPipelineRequest) :
    ((a.setPipeline request).2 = .reply () ∧ a.isMaster request.election = true ∧
      (a.setPipeline request).1.stores = (a.entities,
        if request.action = .verify then a.pipeline else some request.config)) ∨
    (a.setPipeline request).2 ≠ .reply () ∧ (a.setPipeline request).1.stores = a.stores := by
  have hstores := a.stores_enter .setPipeline
  have hmaster := a.isMaster_enter .setPipeline request.election
  obtain ⟨-, he⟩ | ⟨-, he, hr⟩ := answer_cases (rfl : _ = a.setPipeline request)
  · rw [he]
    generalize (a.enter .setPipeline).1 = b at hstores hmaster ⊢
    split
    · next hm =>
      refine .inl ⟨?_, hmaster.symm.trans hm, ?_⟩
      · split <;> rfl
      · cases ha : request.action with
        | verify => exact hstores
        | _ =>
          exact congrArg (fun stored : EntityTable × Option PipelineConfig =>
            (stored.1, some request.config)) hstores
    · exact .inr ⟨by simp, hstores⟩
  · exact .inr ⟨hr (), by rw [he, hstores]⟩

/-- The agent takes updates from its master, or stores what it has stored. -/
theorem write_cases (batch : UpdateBatch) :
    (∃ statuses, (a.write batch).2 = .reply statuses ∧ a.isMaster batch.election = true ∧
      (a.write batch).1.stores =
        ((applyAll a.updateFailures 0 batch.updates a.entities).1, a.pipeline)) ∨
    (∀ statuses, (a.write batch).2 ≠ .reply statuses) ∧ (a.write batch).1.stores = a.stores := by
  have hstores := a.stores_enter .write
  have hmaster := a.isMaster_enter .write batch.election
  have hfailures : (a.enter .write).1.updateFailures = a.updateFailures := by
    rw [enter_eq]
  obtain ⟨-, he⟩ | ⟨-, he, hr⟩ := answer_cases (rfl : _ = a.write batch)
  · rw [he]
    -- the call is counted before the agent looks at it, which changes nothing of this
    generalize (a.enter .write).1 = b at hstores hmaster hfailures ⊢
    obtain ⟨hentities, hpipeline⟩ := Prod.mk.inj (show (b.entities, b.pipeline) = _ from hstores)
    dsimp only
    split
    · next hm =>
      refine .inl ⟨_, rfl, hmaster.symm.trans hm, ?_⟩
      rw [← hfailures, ← hentities, ← hpipeline]
      rfl
    · exact .inr ⟨by simp, hstores⟩
  · exact .inr ⟨hr, by rw [he, hstores]⟩

/-- A query for the program changes nothing that is stored. -/
theorem stores_getPipeline (request : GetPipelineRequest) :
    (a.getPipeline request).1.stores = a.stores := by
  obtain ⟨-, he⟩ | ⟨-, he, -⟩ := answer_cases (rfl : _ = a.getPipeline request)
  · rw [he]
    exact a.stores_enter _
  · rw [he]
    exact a.stores_enter _

/-- A read changes nothing that is stored. -/
theorem stores_read (query : EntityQuery) : (a.read query).1.stores = a.stores := by
  obtain ⟨-, he⟩ | ⟨-, he, -⟩ := answer_cases (rfl : _ = a.read query)
  · rw [he]
    exact a.stores_enter _
  · rw [he]
    exact a.stores_enter _

end Agent

/-- The election id that a request carries. -/
def Request.election? : Request → Option Uint128
  | .set request => request.election
  | .write batch => batch.election
  | .get _ | .read _ => none

/-- Whoever changes what an agent stores carries the election id of its master. -/
theorem Agent.master_of_handle {a : Agent} {request : Request}
    (h : (a.handle request).stores ≠ a.stores) :
    ∃ master, a.master = some master ∧ request.election? = some master := by
  have named : ∀ election, a.isMaster election = true →
      ∃ master, a.master = some master ∧ election = some master := by
    intro election hm
    unfold Agent.isMaster at hm
    cases hmaster : a.master with
    | none => simp [hmaster] at hm
    | some master => exact ⟨master, rfl, by simpa [hmaster] using hm⟩
  cases request with
  | set request =>
    obtain ⟨-, hm, -⟩ | ⟨-, hs⟩ := a.setPipeline_cases request
    · exact named _ hm
    · exact absurd hs h
  | get request => exact absurd (a.stores_getPipeline request) h
  | read query => exact absurd (a.stores_read query) h
  | write batch =>
    obtain ⟨-, -, hm, -⟩ | ⟨-, hs⟩ := a.write_cases batch
    · exact named _ hm
    · exact absurd hs h

namespace Switch

variable (w : Switch)

/-- The switch after a unary request has gone through its channel. -/
def take : Request → Switch
  | .set request => (w.setPipeline request).1
  | .get request => (w.getPipeline request).1
  | .read query => (w.read query).1
  | .write batch => (w.write batch).1

/-- The channel notes every request that goes through it. -/
theorem noted_take (request : Request) : (w.take request).noted = w.noted ++ [request] := by
  cases request with
  | set request => rfl
  | get request =>
    show (w.getPipeline request).1.noted = _
    unfold getPipeline
    dsimp only
    split <;> rfl
  | read query =>
    show (w.read query).1.noted = _
    unfold read
    dsimp only
    split <;> rfl
  | write batch =>
    show (w.write batch).1.noted = _
    unfold write
    dsimp only
    split <;> rfl

/-- Behind the channel, the agent handles the request, unless a script has answered it. -/
theorem agent_take (request : Request) :
    (w.take request).agent = w.agent.handle request ∨ (w.take request).agent = w.agent := by
  cases request with
  | set request => exact .inl rfl
  | get request =>
    show (w.getPipeline request).1.agent = _ ∨ (w.getPipeline request).1.agent = _
    -- whoever has a script does not ask the agent
    unfold getPipeline
    dsimp only
    split
    · exact .inr rfl
    · exact .inl rfl
  | read query =>
    show (w.read query).1.agent = _ ∨ (w.read query).1.agent = _
    unfold read
    dsimp only
    split
    · exact .inr rfl
    · exact .inl rfl
  | write batch =>
    show (w.write batch).1.agent = _ ∨ (w.write batch).1.agent = _
    unfold write
    dsimp only
    split
    · exact .inr rfl
    · exact .inl rfl

/-! Without a script, it is the agent that answers. -/

variable {w} in
/-- A query for the program. -/
theorem getPipeline_unscripted (h : w.scriptedConfigs = []) (request : GetPipelineRequest) :
    w.getPipeline request = ({ w.note (.get request) with agent := (w.agent.getPipeline request).1 },
      (w.agent.getPipeline request).2) := by
  unfold getPipeline
  dsimp only
  rw [show (w.note (.get request)).scriptedConfigs = [] from h]
  rfl

variable {w} in
/-- A read. -/
theorem read_unscripted (h : w.scriptedReads = []) (query : EntityQuery) :
    w.read query = ({ w.note (.read query) with agent := (w.agent.read query).1 },
      (w.agent.read query).2) := by
  unfold read
  dsimp only
  rw [show (w.note (.read query)).scriptedReads = [] from h]
  rfl

variable {w} in
/-- A write. -/
theorem write_unscripted (h : w.scriptedWrites = []) (batch : UpdateBatch) :
    w.write batch = ({ w.note (.write batch) with agent := (w.agent.write batch).1 },
      (w.agent.write batch).2) := by
  unfold write
  dsimp only
  rw [show (w.note (.write batch)).scriptedWrites = [] from h]
  rfl

/-- Whoever asks a switch changes nothing that it stores. -/
theorem stores_getPipeline (request : GetPipelineRequest) :
    (w.getPipeline request).1.agent.stores = w.agent.stores := by
  obtain h | h := w.agent_take (.get request)
  · exact (congrArg Agent.stores h).trans (w.agent.stores_getPipeline request)
  · exact congrArg Agent.stores h

/-- A read changes nothing that is stored, whoever answers it. -/
theorem stores_read (query : EntityQuery) :
    (w.read query).1.agent.stores = w.agent.stores := by
  obtain h | h := w.agent_take (.read query)
  · exact (congrArg Agent.stores h).trans (w.agent.stores_read query)
  · exact congrArg Agent.stores h

end Switch

/-- How a write ends where the switch has answered with statuses. -/
def WriteRequest.conclude (request : WriteRequest) (device : DeviceId) (statuses : List Status) :
    CallResult :=
  match WriteReport.ofStatuses? request.updates statuses with
  | some report => .returned (.report report)
  | none => .failed (.protocolViolation device
      ("write of " ++ toString request.updates.length ++ " updates answered with " ++
        toString statuses.length ++ " statuses"))

namespace Client

variable (c : Client)

/-- The push that a client makes of a program in its open session. -/
def push? (conf : Pipeconf) (deviceData : Bytes) : Option SetPipelineRequest :=
  match c.scope.openToken?, conf.p4info? with
  | some _, some p4info =>
    some ⟨c.key.number, c.arbiter.lastUsed.map (·.toWire), .verifyAndCommit,
      ⟨p4info, deviceData, some (pipelineCookie conf deviceData)⟩⟩
  | _, _ => none

/-- The queries that a client sends for a read in its open session, unless a name in it is unknown or it
is empty. -/
def query? (request : ReadRequest) : Option EntityQuery :=
  match c.scope.openToken?, request.error with
  | some _, none =>
    if request.queries = [] then none else some ⟨c.key.number, request.queries⟩
  | _, _ => none

/-- The updates that a client sends for a write in its open session, unless a name in it is unknown
or it is empty. -/
def batch? (request : WriteRequest) : Option UpdateBatch :=
  match c.scope.openToken?, request.error with
  | some _, none =>
    if request.updates = [] then none
    else some
      ⟨c.key.number, c.arbiter.lastUsed.map (·.toWire), request.updates, request.atomicity⟩
  | _, _ => none

variable {c}

/-- A client pushes a program that has a description, in its open session. -/
theorem push?_eq_some {conf : Pipeconf} {deviceData : Bytes} {request : SetPipelineRequest}
    (h : c.push? conf deviceData = some request) :
    ∃ token p4info, c.scope.openToken? = some token ∧ conf.p4info? = some p4info ∧
      request = ⟨c.key.number, c.arbiter.lastUsed.map (·.toWire), .verifyAndCommit,
        ⟨p4info, deviceData, some (pipelineCookie conf deviceData)⟩⟩ := by
  unfold push? at h
  split at h
  · next token p4info ho hp => exact ⟨token, p4info, ho, hp, (Option.some.inj h).symm⟩
  · cases h

/-- A client sends updates whose names are all known, in its open session. -/
theorem batch?_eq_some {request : WriteRequest} {batch : UpdateBatch}
    (h : c.batch? request = some batch) :
    ∃ token, c.scope.openToken? = some token ∧
      batch =
        ⟨c.key.number, c.arbiter.lastUsed.map (·.toWire), request.updates, request.atomicity⟩ := by
  unfold batch? at h
  split at h
  · next token ho _ =>
    split at h
    · cases h
    · exact ⟨token, ho, (Option.some.inj h).symm⟩
  · cases h

end Client

namespace System

variable {s t u : System} {K : CallId}

/-! ### Where switches stay as they are -/

/-- A close does not reach the switch in the same step. -/
@[simp] theorem switch_closeSession (s : System) (id : ClientId) (n : SwitchName) :
    (s.closeSession id).switch n = s.switch n := by
  rw [closeSession_eq]
  split <;> exact switch_endScope s id _ n

/-- Nor does a failure. -/
@[simp] theorem switch_failSession (s : System) (id : ClientId) (token : Token) (n : SwitchName) :
    (s.failSession id token).switch n = s.switch n := by
  unfold failSession
  split
  · rfl
  · exact switch_endScope s id _ n

/-- Nor does letting go of a client. -/
@[simp] theorem switch_release (s : System) (id : ClientId) (n : SwitchName) :
    (s.release id).switch n = s.switch n := by
  unfold release
  split
  · rfl
  · exact switch_closeSession s id n

/-- What the client reports it does not report to the switch. -/
@[simp] theorem switch_report (s : System) (id : ClientId) (operation : Operation)
    (failure : Failure) (n : SwitchName) :
    (s.report id operation failure).1.switch n = s.switch n := by
  cases failure with
  | refused status token =>
    unfold report
    dsimp only
    split
    · rfl
    · exact switch_failSession s id token n
    · rfl
  | _ => rfl

/-- A call that is retired asks for nothing. -/
@[simp] theorem switch_retire (s : System) (K : CallId) (kind : CallKind) (n : SwitchName) :
    (s.retire K kind).switch n = s.switch n := by
  have hw : (s.withdraw K).switch n = s.switch n := by
    rw [withdraw_eq]
    rfl
  rw [retire_eq]
  cases kind with
  | request => exact (switch_release _ _ n).trans hw
  | next => exact hw

/-- A call that is told its result asks for nothing. -/
@[simp] theorem switch_complete (s : System) (K : CallId) (result : CallResult) (n : SwitchName) :
    (s.complete K result).switch n = s.switch n :=
  switch_retire _ K .request n

/-- Nor does one that hands over a read stream. -/
@[simp] theorem switch_completeWith (s : System) (K : CallId) (cursor : ReadCursor)
    (n : SwitchName) : (s.completeWith K cursor).switch n = s.switch n :=
  switch_retire _ K .request n

/-- Nor does one that hands it back. -/
@[simp] theorem switch_completeNext (s : System) (K : CallId) (result : CallResult)
    (cursor : ReadCursor) (n : SwitchName) :
    (s.completeNext K result cursor).switch n = s.switch n :=
  switch_retire _ K .next n

/-- A call that fails asks for nothing more. -/
@[simp] theorem switch_failCall (s : System) (K : CallId) (operation : Operation) (token : Token)
    (failure : Failure) (n : SwitchName) :
    (s.failCall K operation token failure).switch n = s.switch n := by
  unfold failCall
  dsimp only
  rw [switch_complete]
  split
  · rw [switch_failSession, switch_report]
  · rw [switch_report]

/-- A call that has just been made has not asked yet. -/
@[simp] theorem switch_newCall (s : System) (id : ClientId) (n : SwitchName) :
    (s.newCall id).1.switch n = s.switch n := rfl

/-- A call that waits has asked before. -/
@[simp] theorem switch_suspend (s : System) (K : CallId) (kind : CallKind) (wait : Wait)
    (n : SwitchName) : (s.suspend K kind wait).switch n = s.switch n := rfl

/-- A call that goes on with an answer touches no switch, unless it does so when it goes on. -/
theorem switch_await {α : Type} {operation : Operation} {token : Token} {limit : Duration}
    {answer : Answer α} {goOn : System → α → System} {n : SwitchName}
    (h : ∀ a, answer = .reply a → (goOn s a).switch n = s.switch n) :
    (s.await K operation token limit answer goOn).switch n = s.switch n := by
  unfold await
  cases answer with
  | reply a => exact h a rfl
  | refused status => exact switch_failCall s K operation token _ n
  | silence =>
    dsimp only
    split
    · exact switch_failCall s K operation token _ n
    · rfl

/-! ### Calls that ask a switch -/

/-- A switch takes a request, if there is one, and the others stay as they are. -/
def Relays (s : System) (n : SwitchName) (request? : Option Request) (t : System) : Prop :=
  ∀ m, t.switch m = if n = m then (request?.map (s.switch m).take).getD (s.switch m) else s.switch m

/-- Where the switches stay as they are nothing has been relayed. -/
theorem Relays.of_same (h : ∀ m, t.switch m = s.switch m) (n : SwitchName) : s.Relays n none t := by
  intro m
  rw [h]
  exact (ite_self _).symm

/-- A call that ends relays nothing. -/
theorem relays_complete (s : System) (K : CallId) (result : CallResult) (n : SwitchName) :
    s.Relays n none (s.complete K result) :=
  .of_same (fun m => switch_complete s K result m) n

/-- A request goes through a channel, and whoever goes on with the answer touches no switch. -/
theorem relays_await {α : Type} {operation : Operation} {token : Token} {limit : Duration}
    {answer : Answer α} {goOn : System → α → System} {n : SwitchName} {request : Request}
    {w : Switch} (hu : ∀ m, u.switch m = s.switch m) (hw : (s.switch n).take request = w)
    (hgo : ∀ t a m, (goOn t a).switch m = t.switch m) :
    s.Relays n (some request)
      ((u.updateSwitch n fun _ => w).await K operation token limit answer goOn) := by
  intro m
  rw [switch_await fun a _ => hgo _ a m, switch_updateSwitch]
  split
  · next he =>
    rw [← he]
    exact hw.symm
  · exact hu m

/-- A push fails at once, or goes through the channel. -/
theorem setPipelineConfig_cases (s : System) (id : ClientId) (conf : Pipeconf) (deviceData : Bytes) :
    let c := s.client id
    let K := (s.newCall id).2
    (∃ error, c.push? conf deviceData = none ∧
      (s.setPipelineConfig id conf deviceData).1 = (s.newCall id).1.complete K (.failed error)) ∨
    ∃ token request, c.push? conf deviceData = some request ∧
      let asked := (s.switch c.switch).setPipeline request
      (s.setPipelineConfig id conf deviceData).1 =
        ((s.newCall id).1.updateSwitch c.switch fun _ => asked.1).await K .setPipeline token
          c.config.longTimeout asked.2 fun t _ => t.complete K (.returned .done) := by
  have hc := client_newCall_self s id
  unfold setPipelineConfig Client.push? inSession
  dsimp only
  rw [show (s.newCall id).2.client = id from rfl, hc]
  cases conf.p4info? with
  | none => cases (s.client id).scope.openToken? <;> exact .inl ⟨_, rfl, rfl⟩
  | some p4info =>
    cases (s.client id).scope.openToken? with
    | none => exact .inl ⟨_, rfl, rfl⟩
    | some token => exact .inr ⟨token, _, rfl, rfl⟩

/-- A write ends at once, without a word about its updates, or goes through the channel and ends as the
answer says. -/
theorem write_cases (s : System) (id : ClientId) (request : WriteRequest) :
    let c := s.client id
    let K := (s.newCall id).2
    (∃ result, c.batch? request = none ∧ (∀ r, result = .returned (.report r) → r.results = []) ∧
      (s.write id request).1 = (s.newCall id).1.complete K result) ∨
    ∃ token batch, c.batch? request = some batch ∧
      let asked := (s.switch c.switch).write batch
      (s.write id request).1 =
        ((s.newCall id).1.updateSwitch c.switch fun _ => asked.1).await K .write token
          c.config.shortTimeout asked.2
          fun t statuses => t.complete K (request.conclude c.key.device statuses) := by
  have hc := client_newCall_self s id
  unfold write Client.batch? inSession
  dsimp only
  rw [show (s.newCall id).2.client = id from rfl, hc]
  cases request.error with
  | some error => cases (s.client id).scope.openToken? <;> exact .inl ⟨_, rfl, by simp, rfl⟩
  | none =>
    cases (s.client id).scope.openToken? with
    | none => exact .inl ⟨_, rfl, by simp, rfl⟩
    | some token =>
      dsimp only
      -- a write without updates is answered without asking
      by_cases hu : request.updates = []
      · rw [if_pos hu, if_pos hu]
        exact .inl ⟨_, rfl, by rintro r ⟨⟩; rfl, rfl⟩
      · rw [if_neg hu, if_neg hu]
        refine .inr ⟨token, _, rfl, congrArg (System.await _ _ _ _ _ _) ?_⟩
        funext t statuses
        unfold WriteRequest.conclude
        cases WriteReport.ofStatuses? request.updates statuses <;> rfl

/-- A read ends or goes on at once, or goes through the channel and goes on with the answer. -/
theorem relays_submitRead (s : System) (id : ClientId) (request : ReadRequest)
    {goOn : System → Token → ReadStream → System}
    (hgo : ∀ t token stream m, (goOn t token stream).switch m = t.switch m) :
    s.Relays (s.client id).switch (((s.client id).query? request).map .read)
      ((s.newCall id).1.submitRead (s.newCall id).2 request goOn) := by
  have hc := client_newCall_self s id
  unfold submitRead Client.query? inSession
  dsimp only
  rw [show (s.newCall id).2.client = id from rfl, hc]
  cases request.error with
  | some error =>
    cases (s.client id).scope.openToken? <;> exact relays_complete (s.newCall id).1 _ _ _
  | none =>
    cases (s.client id).scope.openToken? with
    | none => exact relays_complete (s.newCall id).1 _ _ _
    | some token =>
      dsimp only
      split
      · exact .of_same (fun m => hgo (s.newCall id).1 token .spent m) _
      · exact relays_await (fun _ => rfl) rfl fun t reply m => hgo t token _ m

/-- A read relays its query, if the session is open and there is something to ask. -/
theorem relays_read (s : System) (id : ClientId) (request : ReadRequest) :
    s.Relays (s.client id).switch (((s.client id).query? request).map .read)
      (s.read id request).1 := by
  refine relays_submitRead s id request fun t token stream m => ?_
  split
  · exact switch_failCall _ _ _ _ _ m
  · exact switch_failCall _ _ _ _ _ m
  · rfl
  · exact switch_complete _ _ _ m

/-- Opening a read stream relays the same. -/
theorem relays_openRead (s : System) (id : ClientId) (request : ReadRequest) :
    s.Relays (s.client id).switch (((s.client id).query? request).map .read)
      (s.openRead id request).1 :=
  relays_submitRead s id request fun _ _ _ m => switch_completeWith _ _ _ m

/-- A push relays the program, if it can be described and the session is open. -/
theorem relays_setPipelineConfig (s : System) (id : ClientId) (conf : Pipeconf) (deviceData : Bytes) :
    s.Relays (s.client id).switch (((s.client id).push? conf deviceData).map .set)
      (s.setPipelineConfig id conf deviceData).1 := by
  obtain ⟨error, hp, he⟩ | ⟨token, request, hp, he⟩ := s.setPipelineConfig_cases id conf deviceData
  · rw [hp, he]
    exact relays_complete (s.newCall id).1 _ _ _
  · rw [hp, he, Option.map_some]
    exact relays_await (fun _ => rfl) rfl fun t _ m => switch_complete t _ _ m

/-- A write relays its batch, if there is one and the session is open. -/
theorem relays_write (s : System) (id : ClientId) (request : WriteRequest) :
    s.Relays (s.client id).switch (((s.client id).batch? request).map .write)
      (s.write id request).1 := by
  obtain ⟨result, hb, -, he⟩ | ⟨token, batch, hb, he⟩ := s.write_cases id request
  · rw [hb, he]
    exact relays_complete (s.newCall id).1 _ _ _
  · rw [hb, he, Option.map_some]
    exact relays_await (fun _ => rfl) rfl fun t _ m => switch_complete t _ _ m

end System

end P4Control
