import P4Control.Proofs.Opening
import P4Control.Proofs.Refusal

namespace P4Control

/-!
# What a failed call leaves behind

A call in the open session fails for what is wrong with the request, by the status of its switch, or
because its time is up at once.  What it fails with decides what becomes of the session.

* `Setback` — how a call fails, and `Setback.error` — what its caller is told.
* `Setback.outage?` — whether the channel is unavailable, and `Setback.loss_error` — its caller learns that.
* `Client.pushes`, `Client.checks`, `Client.reads`, `Client.writes` — what a switch makes of a call.
* `System.Spared` — nothing changes but the switch and the events.
* `System.TornDown` — the session is torn down.
* `System.Incurs` — a call fails, with what follows from the way it fails.
* `incurs_await` — the one lemma about an answer; `incurs_setPipelineConfig`, … — the calls.
-/

/-! ### How a call fails -/

/-- How a call fails. -/
inductive Setback where
  /-- The switch answers with a status, or ends its reply with one. -/
  | refused (operation : Operation) (status : Status)
  /-- The time for the answer is up. -/
  | unanswered (operation : Operation) (limit : Duration)
  /-- The client finds something wrong with the request, the answer or the session. -/
  | rejected (error : ClientError)
deriving DecidableEq, Repr

namespace Setback

/-- What the caller of a failed call is told. -/
def error (device : DeviceId) : Setback → ClientError
  | refused operation ⟨code, message⟩ =>
    match code with
    | .unavailable => .transportUnavailable device message
    | .permissionDenied => .permissionDenied device message
    | code => .rpc device operation.text code message
  | unanswered operation limit => .timeout device operation.text limit
  | rejected error => error

/-- The status with which a switch refuses a call. -/
def status? : Setback → Option Status
  | refused _ status => some status
  | _ => none

end Setback

/-- How a call fails that gets the answer, or gets none; a reply is looked at by `inspect`. -/
def Answer.setback? {α : Type} (answer : Answer α) (operation : Operation) (limit : Duration)
    (inspect : α → Option Setback) : Option Setback :=
  match answer with
  | .reply a => inspect a
  | .refused status => some (.refused operation status)
  | .silence => if limit.nanoseconds = 0 then some (.unanswered operation limit) else none

/-- The status with which a reply breaks off. -/
def ReadReply.failure? (reply : ReadReply) : Option Status :=
  reply.chunks.findSome? fun
    | .item _ => none
    | .failure status => some status

namespace Client

variable (c : Client) (w : Switch)

/-- A program is pushed: the switch after that, and how the call fails. -/
def pushes (conf : Pipeconf) (deviceData : Bytes) : Switch × Option Setback :=
  match conf.p4info? with
  | none => (w, some (.rejected (.invalidPipeconf conf.id "pipeconf carries no P4Info")))
  | some p4info =>
    let (w, answer) := w.setPipeline
      ⟨c.key.number, c.arbiter.lastUsed.map (·.toWire), .verifyAndCommit,
       ⟨p4info, deviceData, some (pipelineCookie conf deviceData)⟩⟩
    (w, answer.setback? .setPipeline c.config.longTimeout fun _ => none)

/-- The running program is checked: the switch after that, and how the call fails.  The switch is asked
again if it keeps no cookie. -/
def checks (conf : Pipeconf) : Switch × Option Setback :=
  let (w, answer) := w.getPipeline ⟨c.key.number, .cookieOnly⟩
  match answer with
  | .reply (some ⟨_, _, none⟩) =>
    if conf.p4info?.isSome then
      let (w, answer) := w.getPipeline ⟨c.key.number, .all⟩
      (w, answer.setback? .getPipeline c.config.shortTimeout fun _ => none)
    else (w, none)
  | answer => (w, answer.setback? .getPipeline c.config.shortTimeout fun _ => none)

/-- Entities are read, all of them or as a stream: the switch after that, and how the call fails.  Only
who reads them all runs into a failure behind the first chunk. -/
def reads (request : ReadRequest) (all : Bool) : Switch × Option Setback :=
  match request.error with
  | some error => (w, some (.rejected error))
  | none =>
    if request.queries = [] then (w, none)
    else
      let (w, answer) := w.read ⟨c.key.number, request.queries⟩
      (w, answer.setback? .read c.config.shortTimeout fun reply =>
        if all then reply.failure?.map (.refused .read) else none)

/-- Updates are written: the switch after that, and how the call fails. -/
def writes (request : WriteRequest) : Switch × Option Setback :=
  match request.error with
  | some error => (w, some (.rejected error))
  | none =>
    if request.updates = [] then (w, none)
    else
      let (w, answer) := w.write
        ⟨c.key.number, c.arbiter.lastUsed.map (·.toWire), request.updates, request.atomicity⟩
      (w, answer.setback? .write c.config.shortTimeout fun statuses =>
        if statuses = [] ∨ statuses.length = request.updates.length then none
        else some (.rejected (.protocolViolation c.key.device
          ("write of " ++ toString request.updates.length ++ " updates answered with " ++
            toString statuses.length ++ " statuses"))))

/-- The next entity is taken from a read stream: how the call fails. -/
def takes (cursor : ReadCursor) : Option Setback :=
  match (cursor.stream.next (c.scope.isCancelled cursor.token)).1 with
  | .failed status => some (.refused .read status)
  | .cancelled => some (.rejected (.cancelled c.key.device Operation.read.text))
  | _ => none

end Client

/-- The reason for which the channel is unavailable, if a call fails for that. -/
def Setback.outage? (b : Setback) : Option String := b.status?.bind Status.reason?

/-! ### Failures of a session -/

/-- What a caller is told who has found out that the channel is unavailable. -/
theorem Setback.loss_error (b : Setback) (device : DeviceId) (opening : Bool)
    (h : b.status?.isSome = true ∨ ∃ operation limit, b = .unanswered operation limit) :
    (CallResult.failed (b.error device)).loss opening =
      if opening then some b.outage? else b.outage?.map some := by
  rcases h with h | ⟨operation, limit, rfl⟩
  · cases b with
    | refused operation status =>
      obtain ⟨code, message⟩ := status
      cases code <;> cases opening <;> rfl
    | _ => cases h
  · cases opening <;> rfl

/-- Only a reply is found wrong by the client itself. -/
theorem Answer.inspect_of_rejected {α : Type} {answer : Answer α} {operation : Operation}
    {limit : Duration} {inspect : α → Option Setback} {error : ClientError}
    (h : answer.setback? operation limit inspect = some (.rejected error)) :
    ∃ a, inspect a = some (.rejected error) := by
  cases answer with
  | reply a => exact ⟨a, h⟩
  | refused status => cases h
  | silence =>
    unfold setback? at h
    dsimp only at h
    split at h <;> cases h

/-! What a client itself finds wrong with a request says nothing of a failure of its session. -/

namespace Client

variable {c : Client} {w : Switch} {error : ClientError}

/-- A push is rejected for its program only. -/
theorem loss_pushes {conf : Pipeconf} {deviceData : Bytes}
    (h : (c.pushes w conf deviceData).2 = some (.rejected error)) :
    (CallResult.failed error).loss false = none := by
  unfold pushes at h
  split at h
  · cases h
    rfl
  · obtain ⟨a, ha⟩ := Answer.inspect_of_rejected h
    cases ha

/-- A comparison of programs is rejected for nothing. -/
theorem checks_ne_rejected {conf : Pipeconf} : (c.checks w conf).2 ≠ some (.rejected error) := by
  intro h
  have never : ∀ {answer : Answer (Option PipelineConfig)},
      answer.setback? .getPipeline c.config.shortTimeout (fun _ => none) ≠ some (.rejected error) := by
    intro answer h
    obtain ⟨a, ha⟩ := Answer.inspect_of_rejected h
    cases ha
  unfold checks at h
  dsimp only at h
  split at h
  · split at h
    · exact never h
    · cases h
  · exact never h

/-- A read is rejected for what is wrong with its request only. -/
theorem loss_reads {request : ReadRequest} {all : Bool}
    (he : ∀ e, request.error = some e → (CallResult.failed e).loss false = none)
    (h : (c.reads w request all).2 = some (.rejected error)) :
    (CallResult.failed error).loss false = none := by
  unfold reads at h
  split at h
  · next e hreq =>
    cases h
    exact he _ hreq
  · split at h
    · cases h
    · obtain ⟨a, ha⟩ := Answer.inspect_of_rejected h
      simp at ha

/-- A write is rejected for what is wrong with its request, or with the answer. -/
theorem loss_writes {request : WriteRequest}
    (he : ∀ e, request.error = some e → (CallResult.failed e).loss false = none)
    (h : (c.writes w request).2 = some (.rejected error)) :
    (CallResult.failed error).loss false = none := by
  unfold writes at h
  split at h
  · next e hreq =>
    cases h
    exact he _ hreq
  · split at h
    · cases h
    · obtain ⟨a, ha⟩ := Answer.inspect_of_rejected h
      split at ha
      · cases ha
      · cases ha
        rfl

/-- The next item of a read stream is never rejected by the client for the loss of its session. -/
theorem loss_takes {cursor : ReadCursor} (h : c.takes cursor = some (.rejected error)) :
    (CallResult.failed error).loss false = none := by
  unfold takes at h
  split at h
  · cases h
  · cases h
    rfl
  · cases h

end Client

/-- Gathering the chunks of a reply stops where the reply breaks off. -/
theorem ReadStream.gather_failed (held : Bool) (chunks : List (Arrival (List Entity))) :
    (gather held chunks).2 =
      match ReadReply.failure? ⟨chunks, held⟩ with
      | some status => .failed status
      | none => if held then .waiting else .ended := by
  induction chunks with
  | nil => rfl
  | cons chunk rest ih =>
    cases chunk with
    | item es => exact ih
    | failure status => rfl

namespace System

variable {s t u : System} {id : ClientId} {w : Switch} {events : List Event}
  {stray : ClientId → Token → Prop}

/-! ### What is left of a failed call -/

/-- From `s` to `t`, the switch of the client has become `w`.  All pending calls, all other clients and
whatever else there is beside sessions and events are kept. -/
structure Kept (s : System) (id : ClientId) (w : Switch) (t : System) : Prop where
  switches : ∀ name, t.switch name = if (s.client id).switch = name then w else s.switch name
  channels : t.channels = s.channels
  registry : t.registry = s.registry
  handles : t.handles = s.handles
  catalog : t.catalog = s.catalog
  now : t.now = s.now
  timers : t.timers = s.timers
  turns : ∀ id', (t.client id').turns = (s.client id').turns
  calls : ∀ id', (t.client id').calls = (s.client id').calls
  others : ∀ id', id ≠ id' → (t.client id').profile = (s.client id').profile

/-- The session of the client is kept too, with its queue and its mastership, and the events have been
posted. -/
structure Spared (s : System) (id : ClientId) (w : Switch) (events : List Event) (t : System) : Prop
    extends Kept s id w t where
  profile : (t.client id).profile = (s.client id).profile
  streams : ∀ st, t.stream st = s.stream st
  ready : t.ready = s.ready
  journal : t.journal = s.journal ++ events

/-- The session of the client has been torn down for the given reason: it is not open any more, its
scope has been cancelled and its queue is not installed, the client is not master, and one event tells
so.  The last used election id is kept. -/
structure TornDown (s : System) (id : ClientId) (w : Switch) (reason : String) (t : System) : Prop
    extends Kept s id w t where
  isOpen : (t.client id).scope.isOpen = false
  current : (t.client id).scope.current = none
  slot : (t.client id).scope.slot = none
  cancelled : ∀ token, (t.client id).scope.isCancelled token = true ↔
    (s.client id).scope.isCancelled token = true ∨ (s.client id).scope.current = some token
  mastership : (t.client id).arbiter.mastership.value = .notMaster
  lastUsed : (t.client id).arbiter.lastUsed = (s.client id).arbiter.lastUsed
  key : (t.client id).key = (s.client id).key
  /-- The queue has no sender any more; what has been queued stays. -/
  streams : ∀ st, t.stream st =
    if (s.client id).scope.slot = some st then
      { s.stream st with uplink := (s.stream st).uplink.dropSender }
    else s.stream st
  ready : ∀ task ∈ s.ready, task ∈ t.ready
  journal : t.journal = s.journal ++ [.channelError (s.client id).key.device reason]

/-- From `s` to `t`, the switch of the client has become `w`, and there is what follows for the client
from a call that fails in the given way. -/
def Suffers (s : System) (id : ClientId) (w : Switch) (setback : Setback) (t : System) : Prop :=
  match setback.status? with
  | some ⟨.unavailable, message⟩ => s.TornDown id w message t
  | some ⟨.permissionDenied, _⟩ => s.Spared id w [.permissionDenied (s.client id).key.device] t
  | _ => s.Spared id w [] t

/-- From `s` to `t`, a new call on the client fails in the given way, and there is what follows from
that; or it does not fail. -/
def Incurs (s : System) (id : ClientId) (w : Switch) (setback : Option Setback) (t : System) :
    Prop :=
  match setback with
  | none => ∃ fs, t.finished = s.finished ++ fs ∧ ∀ f ∈ fs, ∃ value, f.result = .returned value
  | some b => s.Suffers id w b t ∧ ∃ cursor, t.finished = s.finished ++
      [⟨⟨id, (s.client id).made⟩, .failed (b.error (s.client id).key.device), cursor⟩]

/-! ### Along a call -/

/-- A call that has just been made has changed nothing yet. -/
theorem spared_newCall (s : System) (id : ClientId) :
    s.Spared id (s.switch (s.client id).switch) [] (s.newCall id).1 := by
  have hn := unmoved_newCall s id
  refine ⟨⟨fun name => ?_, rfl, rfl, rfl, rfl, rfl, rfl, hn.turns, hn.calls, fun id' _ => hn.profile id'⟩,
    hn.profile id, fun _ => rfl, rfl, (List.append_nil _).symm⟩
  show s.switch name = _
  split
  · next he => rw [he]
  · rfl

/-- The switch answers. -/
theorem Spared.answered {v : Switch} (h : s.Spared id w events t) :
    s.Spared id v events (t.updateSwitch (s.client id).switch fun _ => v) :=
  { h with
    switches := fun name => by
      rw [switch_updateSwitch, h.switches]
      split <;> rfl }

/-- An event is posted. -/
theorem Spared.post (h : s.Spared id w [] t) (e : Event) : s.Spared id w [e] (t.post e) :=
  { h with
    journal := by
      show t.journal ++ [e] = _
      rw [h.journal, List.append_nil] }

/-- No switch is moved. -/
theorem Unmoved.switch (hu : Unmoved s t) (name : SwitchName) : t.switch name = s.switch name := by
  unfold System.switch
  rw [hu.switches]

/-- No stream is moved. -/
theorem Unmoved.stream (hu : Unmoved s t) (st : StreamId) : t.stream st = s.stream st := by
  unfold System.stream
  rw [hu.streams]

/-- What is kept is kept by what moves nothing. -/
theorem Kept.unmoved (h : s.Kept id w t) (hu : Unmoved t u) : s.Kept id w u where
  switches name := (hu.switch name).trans (h.switches name)
  channels := hu.channels.trans h.channels
  registry := hu.registry.trans h.registry
  handles := hu.handles.trans h.handles
  catalog := hu.catalog.trans h.catalog
  now := hu.now.trans h.now
  timers := hu.timers.trans h.timers
  turns id' := (hu.turns id').trans (h.turns id')
  calls id' := (hu.calls id').trans (h.calls id')
  others id' hne := (hu.profile id').trans (h.others id' hne)

/-- Who is spared is spared by what moves nothing. -/
theorem Spared.unmoved (h : s.Spared id w events t) (hu : Unmoved t u) :
    s.Spared id w events u where
  toKept := h.toKept.unmoved hu
  profile := (hu.profile id).trans h.profile
  streams st := (hu.stream st).trans (h.streams st)
  ready := hu.ready.trans h.ready
  journal := hu.journal.trans h.journal

/-- A session that is torn down stays so where nothing moves. -/
theorem TornDown.unmoved {reason : String} (h : s.TornDown id w reason t) (hu : Unmoved t u) :
    s.TornDown id w reason u := by
  have hscope : (u.client id).scope = (t.client id).scope :=
    congrArg Profile.scope (hu.profile id)
  refine
    { toKept := h.toKept.unmoved hu, isOpen := ?_, current := ?_, slot := ?_, cancelled := ?_,
      mastership := (congrArg Profile.mastership (hu.profile id)).trans h.mastership
      lastUsed := (congrArg Profile.lastUsed (hu.profile id)).trans h.lastUsed
      key := (congrArg Profile.key (hu.profile id)).trans h.key
      streams := fun st => (hu.stream st).trans (h.streams st)
      ready := fun task hm => hu.ready ▸ h.ready task hm
      journal := hu.journal.trans h.journal }
  all_goals rw [hscope]
  · exact h.isOpen
  · exact h.current
  · exact h.slot
  · exact h.cancelled

/-- The session fails, and an event tells so. -/
theorem Spared.tornDown (h : s.Spared id w [] t) {token : Token}
    (ht : (s.client id).scope.current = some token) (reason : String) :
    s.TornDown id w reason
      ((t.failSession id token).post (.channelError (s.client id).key.device reason)) := by
  have hscope : (t.client id).scope = (s.client id).scope := congrArg Profile.scope h.profile
  have hcur : (t.client id).scope.current = some token := by rw [hscope, ht]
  -- Everything but the profile of the client comes from what the failure of a session spares.
  have hheeds := heeds_failSession (s := t) id token
  rw [failSession_eq hcur] at hheeds ⊢
  have hself := (client_endScope t id id ((t.client id).scope.ruin token)).trans (if_pos rfl)
  have hscope' : ((t.endScope id ((t.client id).scope.ruin token)).client id).scope =
      (s.client id).scope.ruin token := by rw [hself, hscope]
  have hready := (ready_endScope t id ((t.client id).scope.ruin token)).1
  have hrest := endScope_eq t id ((t.client id).scope.ruin token)
  change TornDown s id w reason
    ((t.endScope id ((t.client id).scope.ruin token)).post _)
  refine
    { switches := fun name => (switch_endScope t id _ name).trans (h.switches name)
      channels := (congrArg System.channels hrest).trans h.channels
      registry := (registry_endScope t id _).trans h.registry
      handles := (handles_endScope t id _).trans h.handles
      catalog := (congrArg System.catalog hrest).trans h.catalog
      now := hheeds.now.trans h.now
      timers := hheeds.timers.trans h.timers
      turns := fun id' => (hheeds.turns id').trans (h.turns id')
      calls := fun id' => (hheeds.calls id').trans (h.calls id')
      others := fun id' hne => ?_, isOpen := ?_, current := ?_, slot := ?_
      cancelled := fun token' => ?_, mastership := ?_, lastUsed := ?_, key := ?_
      streams := fun st => ?_, ready := fun task hm => ?_, journal := ?_ }
  · show ((t.endScope id _).client id').profile = _
    rw [client_endScope, if_neg hne, h.others id' hne]
  · exact congrArg Scope.isOpen hscope'
  · exact congrArg Scope.current hscope'
  · exact congrArg Scope.slot hscope'
  · show ((t.endScope id _).client id).scope.isCancelled token' = true ↔ _
    rw [hscope', ← hscope]
    exact Scope.isCancelled_ended hcur rfl token'
  · show ((t.endScope id _).client id).arbiter.mastership.value = _
    rw [hself]
    rfl
  · show ((t.endScope id _).client id).arbiter.lastUsed = _
    rw [hself]
    exact congrArg Profile.lastUsed h.profile
  · show ((t.endScope id _).client id).key = _
    rw [hself]
    exact congrArg Profile.key h.profile
  · show (t.endScope id _).stream st = _
    rw [stream_endScope, hscope, h.streams]
  · obtain ⟨new, hnew, -⟩ := hready
    show task ∈ (t.endScope id _).ready
    rw [hnew, h.ready]
    exact List.mem_append_left _ hm
  · show (t.endScope id _).journal ++ _ = _
    rw [journal_endScope, h.journal, List.append_nil]

/-! ### The report of a failure -/

/-- Whatever a client suffers, the rest is kept. -/
theorem Suffers.kept {b : Setback} (h : s.Suffers id w b t) : s.Kept id w t := by
  unfold Suffers at h
  split at h
  · exact h.toKept
  · exact h.toKept
  · exact h.toKept

/-- What a client has suffered stays where nothing moves. -/
theorem Suffers.unmoved {b : Setback} (h : s.Suffers id w b t) (hu : Unmoved t u) :
    s.Suffers id w b u := by
  unfold Suffers at h ⊢
  split at h
  · exact TornDown.unmoved h hu
  · exact Spared.unmoved h hu
  · exact Spared.unmoved h hu

/-- A status is reported in the scope in place. -/
theorem Spared.refused (h : s.Spared id w [] t) {token : Token}
    (ht : (s.client id).scope.current = some token) (operation : Operation) (status : Status) :
    s.Suffers id w (.refused operation status)
        (t.report id operation (.refused status token)).1 ∧
      (t.report id operation (.refused status token)).2 =
        (Setback.refused operation status).error (s.client id).key.device := by
  have hkey : (t.client id).key = (s.client id).key := congrArg Profile.key h.profile
  obtain ⟨code, message⟩ := status
  unfold report
  rw [hkey]
  cases code with
  | unavailable => exact ⟨h.tornDown ht message, rfl⟩
  | permissionDenied => exact ⟨h.post _, rfl⟩
  | _ => exact ⟨h, rfl⟩

/-! ### The end of a call -/

section

variable (ha : s.Attended none stray)

include ha

variable {name : String} (hh : s.handles.find? name = some id)

include hh

/-- A call fails, after what follows from that. -/
theorem incurs_complete {b : Setback} (h : s.Suffers id w b t) (hf : t.finished = s.finished) :
    s.Incurs id w (some b)
      (t.complete ⟨id, (s.client id).made⟩ (.failed (b.error (s.client id).key.device))) := by
  have hk := h.kept
  have hu := unmoved_completes ha (hk.turns id) (hk.calls id) hk.timers (hk.handles ▸ hh)
    (.failed (b.error (s.client id).key.device)) none
  exact ⟨h.unmoved hu, none, by rw [finished_complete, hf]⟩

omit ha hh in
/-- A call that returns does not fail. -/
theorem incurs_returns {f : Finished} {value : CallValue} (hf : t.finished = s.finished ++ [f])
    (hr : f.result = .returned value) : s.Incurs id w none t :=
  ⟨[f], hf, fun g hg => ⟨value, by rw [List.mem_singleton.mp hg, hr]⟩⟩

omit ha hh in
/-- Nor does one that waits. -/
theorem incurs_waits (hf : t.finished = s.finished) : s.Incurs id w none t :=
  ⟨[], by rw [hf, List.append_nil], fun _ hm => by cases hm⟩

/-- A failure is reported, and the call ends with what the report says. -/
theorem incurs_failCall {b : Setback} {operation : Operation} (hop : operation ≠ .openStream)
    (token : Token) {failure : Failure} (hf : t.finished = s.finished)
    (hb : s.Suffers id w b (t.report id operation failure).1 ∧
      (t.report id operation failure).2 = b.error (s.client id).key.device) :
    s.Incurs id w (some b)
      (t.failCall ⟨id, (s.client id).made⟩ operation token failure) := by
  have hfin := (heeds_report (s := t) id operation failure).finished
  unfold failCall
  dsimp only
  rw [if_neg hop, hb.2]
  exact incurs_complete ha hh hb.1 (hfin.trans hf)

/-- Whatever the answer is, it decides how the call fails. -/
theorem incurs_await {α : Type} {token : Token} (ht : (s.client id).scope.current = some token)
    (answer : Answer α) {operation : Operation} (hop : operation ≠ .openStream) {limit : Duration}
    {inspect : α → Option Setback} {goOn : System → α → System}
    (hu : s.Spared id w [] t) (hf : t.finished = s.finished)
    (hgo : ∀ a, answer = .reply a → s.Incurs id w (inspect a) (goOn t a)) :
    s.Incurs id w (answer.setback? operation limit inspect)
      (t.await ⟨id, (s.client id).made⟩ operation token limit answer goOn) := by
  cases answer with
  | reply a => exact hgo a rfl
  | refused status =>
    show s.Incurs id w (some (.refused operation status))
      (t.failCall ⟨id, (s.client id).made⟩ operation token (.refused status token))
    exact incurs_failCall ha hh hop token hf (hu.refused ht operation status)
  | silence =>
    unfold Answer.setback? await
    dsimp only
    split
    · have hkey : (t.client id).key = (s.client id).key := congrArg Profile.key hu.profile
      refine incurs_failCall ha hh hop token hf ⟨hu, ?_⟩
      show ClientError.timeout (t.client id).key.device operation.text limit = _
      rw [hkey]
      rfl
    · exact incurs_waits hf

end

/-! ### The calls -/

/-- A call that is answered goes on at once. -/
theorem await_reply {α : Type} (s : System) (K : CallId) (operation : Operation) (token : Token)
    (limit : Duration) (a : α) (goOn : System → α → System) :
    s.await K operation token limit (.reply a) goOn = goOn s a :=
  rfl

/-- In an open session the call goes on. -/
theorem Spared.inSession (h : s.Spared id w events t) {token : Token}
    (ho : (s.client id).scope.openToken? = some token) (n : Nat)
    (goOn : System → Token → System) : t.inSession ⟨id, n⟩ goOn = goOn t token := by
  have hscope : (t.client id).scope = (s.client id).scope := congrArg Profile.scope h.profile
  unfold System.inSession
  simp only [hscope, ho]

section

variable (ha : s.Attended none stray) {name : String} (hh : s.handles.find? name = some id)
  {token : Token} (ho : (s.client id).scope.openToken? = some token)

include ha hh ho

/-- A push fails as the switch answers it. -/
theorem incurs_setPipelineConfig (conf : Pipeconf) (deviceData : Bytes) :
    let exchange := (s.client id).pushes (s.switch (s.client id).switch) conf deviceData
    s.Incurs id exchange.1 exchange.2 (s.setPipelineConfig id conf deviceData).1 := by
  have hn := spared_newCall s id
  have hc := client_newCall_self s id
  unfold setPipelineConfig Client.pushes
  dsimp only
  cases conf.p4info? with
  | none => exact incurs_complete ha hh hn rfl
  | some p4info =>
    dsimp only
    rw [show (s.newCall id).2 = ⟨id, (s.client id).made⟩ from rfl, hn.inSession ho, hc]
    exact incurs_await ha hh (Scope.current_of_openToken? ho) _ (by decide) hn.answered rfl
      fun _ _ => incurs_returns (finished_complete _ _ _) rfl

/-- A comparison of programs fails as the switch answers its first query, or its second. -/
theorem incurs_isPipelineConfigSet (conf : Pipeconf) (deviceData : Bytes) :
    let exchange := (s.client id).checks (s.switch (s.client id).switch) conf
    s.Incurs id exchange.1 exchange.2 (s.isPipelineConfigSet id conf deviceData).1 := by
  have hn := spared_newCall s id
  have hc := client_newCall_self s id
  have ht := Scope.current_of_openToken? ho
  unfold isPipelineConfigSet queryPipeline Client.checks
  dsimp only
  rw [show (s.newCall id).2 = ⟨id, (s.client id).made⟩ from rfl, hn.inSession ho, hc]
  dsimp only
  rw [show ∀ n, (s.newCall id).1.switch n = s.switch n from fun _ => rfl]
  generalize (s.switch (s.client id).switch).getPipeline ⟨(s.client id).key.number, .cookieOnly⟩ =
    first
  obtain ⟨v, answer⟩ := first
  have hv := hn.answered (v := v)
  -- an answer that is no reply fails the call in the same way whenever it comes
  have fails : ∀ {u : System} {v : Switch} (answer : Answer (Option PipelineConfig))
      (goOn : System → Option PipelineConfig → System), s.Spared id v [] u →
      u.finished = s.finished → (∀ a, answer = .reply a → s.Incurs id v none (goOn u a)) →
        s.Incurs id v
          (answer.setback? .getPipeline (s.client id).config.shortTimeout fun _ => none)
          (u.await ⟨id, (s.client id).made⟩ .getPipeline token (s.client id).config.shortTimeout
            answer goOn) :=
    fun answer goOn hu hf hgo => incurs_await ha hh ht answer (by decide) hu hf hgo
  rcases answer with (_ | ⟨p4info, data, cookie⟩) | status | _
  · exact incurs_returns (finished_complete _ _ _) rfl
  · cases cookie with
    | some cookie => exact incurs_returns (finished_complete _ _ _) rfl
    | none =>
      -- the switch keeps no cookie, and is asked for everything
      cases conf.p4info? with
      | none => exact incurs_returns (finished_complete _ _ _) rfl
      | some p4info' =>
        rw [await_reply]
        dsimp only
        rw [if_pos Option.isSome_some, hv.inSession ho, client_updateSwitch, hc, switch_updateSwitch_self]
        refine fails _ _ hv.answered rfl fun current _ => ?_
        cases current with
        | none => exact incurs_returns (finished_complete _ _ _) rfl
        | some config => exact incurs_returns (finished_complete _ _ _) rfl
  · exact fails (.refused status) _ hv rfl fun _ he => by cases he
  · exact fails .silence _ hv rfl fun _ he => by cases he

/-- A read is submitted, and whoever submits it goes on with the reply. -/
theorem incurs_submitRead (request : ReadRequest) (all : Bool)
    {goOn : System → Token → ReadStream → System}
    (hspent : ∀ w t, t.finished = s.finished → s.Incurs id w none (goOn t token .spent))
    (hreply : ∀ w t reply, s.Spared id w [] t → t.finished = s.finished →
      s.Incurs id w (if all then (ReadReply.failure? reply).map (.refused .read) else none)
        (goOn t token (.ofReply reply))) :
    let exchange := (s.client id).reads (s.switch (s.client id).switch) request all
    s.Incurs id exchange.1 exchange.2
      ((s.newCall id).1.submitRead ⟨id, (s.client id).made⟩ request goOn) := by
  have hn := spared_newCall s id
  have hc := client_newCall_self s id
  unfold submitRead Client.reads
  dsimp only
  cases request.error with
  | some error => exact incurs_complete ha hh hn rfl
  | none =>
    dsimp only
    rw [hn.inSession ho, hc]
    -- without a query the stream is spent at once, and no switch is asked
    by_cases hq : request.queries = []
    · rw [if_pos hq, if_pos hq]
      exact hspent _ _ rfl
    · rw [if_neg hq, if_neg hq]
      exact incurs_await ha hh (Scope.current_of_openToken? ho) _ (by decide) hn.answered rfl
        fun reply _ => hreply _ _ reply hn.answered rfl

/-- A read of everything fails as the switch answers it, or with what is wrong in its stream. -/
theorem incurs_read (hv : (s.client id).scope.Valid) (request : ReadRequest) :
    let exchange := (s.client id).reads (s.switch (s.client id).switch) request true
    s.Incurs id exchange.1 exchange.2 (s.read id request).1 := by
  have ht := Scope.current_of_openToken? ho
  refine incurs_submitRead ha hh ho request true (fun w t hf => ?_) fun w t reply hu hf => ?_
  · exact incurs_returns ((finished_complete _ _ _).trans (by rw [hf])) rfl
  · have hscope : (t.client id).scope = (s.client id).scope := congrArg Profile.scope hu.profile
    have hcan : (t.client id).scope.isCancelled token = false := by
      rw [hscope]
      exact hv.isCancelled_current ht
    have hstep : ((ReadStream.ofReply reply).collect false).2 = _ :=
      ReadStream.gather_failed reply.held reply.chunks
    rw [hcan]
    generalize (ReadStream.ofReply reply).collect false = collected at hstep
    obtain ⟨entities, step⟩ := collected
    dsimp only at hstep
    subst hstep
    cases hfail : reply.failure? with
    | some status =>
      exact incurs_failCall ha hh (by decide) token hf (hu.refused ht .read status)
    | none =>
      cases hheld : reply.held with
      | true => exact incurs_waits hf
      | false => exact incurs_returns ((finished_complete _ _ _).trans (by rw [hf])) rfl

/-- Opening a read stream fails as the switch answers it. -/
theorem incurs_openRead (request : ReadRequest) :
    let exchange := (s.client id).reads (s.switch (s.client id).switch) request false
    s.Incurs id exchange.1 exchange.2 (s.openRead id request).1 :=
  incurs_submitRead ha hh ho request false
    (fun _ _ hf => incurs_returns ((finished_retire _ _ _).trans (congrArg (· ++ _) hf)) rfl)
    fun _ _ _ _ hf => incurs_returns ((finished_retire _ _ _).trans (congrArg (· ++ _) hf)) rfl

/-- A write fails as the switch answers it. -/
theorem incurs_write (request : WriteRequest) :
    let exchange := (s.client id).writes (s.switch (s.client id).switch) request
    s.Incurs id exchange.1 exchange.2 (s.write id request).1 := by
  have hn := spared_newCall s id
  have hc := client_newCall_self s id
  unfold write Client.writes
  dsimp only
  cases request.error with
  | some error => exact incurs_complete ha hh hn rfl
  | none =>
    dsimp only
    rw [show (s.newCall id).2 = ⟨id, (s.client id).made⟩ from rfl, hn.inSession ho, hc]
    by_cases hq : request.updates = []
    · rw [if_pos hq, if_pos hq]
      exact incurs_returns (finished_complete _ _ _) rfl
    · rw [if_neg hq, if_neg hq]
      refine incurs_await ha hh (Scope.current_of_openToken? ho) _ (by decide) hn.answered rfl
        fun statuses _ => ?_
      -- there is a report exactly if there is no status, or one for each update
      unfold WriteReport.ofStatuses?
      by_cases hnone : statuses = []
      · simp only [hnone, if_true, true_or]
        exact incurs_returns (finished_complete _ _ _) rfl
      · by_cases heach : statuses.length = request.updates.length
        · simp only [hnone, heach, if_true, if_false, or_true]
          exact incurs_returns (finished_complete _ _ _) rfl
        · simp only [hnone, heach, if_false, or_false]
          exact incurs_complete ha hh hn.answered rfl

end

/-- The next entity is taken from a read stream.  Whoever has the stream need not hold the client. -/
theorem incurs_readNext (ha : s.Attended none stray) {cursor : ReadCursor}
    (hcur : cursor.stream.phase = .running →
      (s.client cursor.client).scope.isCancelled cursor.token = false →
        (s.client cursor.client).scope.current = some cursor.token) :
    let c := s.client cursor.client
    s.Incurs cursor.client (s.switch c.switch) (c.takes cursor) (s.readNext cursor).1 := by
  have hn := spared_newCall s cursor.client
  have hc := client_newCall_self s cursor.client
  -- a failure is reported, and nothing is left of the call
  have fails : ∀ (failure : Failure) (b : Setback) (left : ReadCursor),
      s.Suffers cursor.client (s.switch (s.client cursor.client).switch) b
          ((s.newCall cursor.client).1.report cursor.client .read failure).1 ∧
        ((s.newCall cursor.client).1.report cursor.client .read failure).2 =
          b.error (s.client cursor.client).key.device →
      s.Incurs cursor.client (s.switch (s.client cursor.client).switch) (some b)
        (((s.newCall cursor.client).1.report cursor.client .read failure).1.completeNext
          ⟨cursor.client, (s.client cursor.client).made⟩
          (.failed ((s.newCall cursor.client).1.report cursor.client .read failure).2) left) := by
    rintro failure b left ⟨hb, he⟩
    have hfin := (heeds_report (s := (s.newCall cursor.client).1) cursor.client .read failure).finished
    have hk := hb.kept
    rw [he]
    refine ⟨hb.unmoved (unmoved_departs ha (hk.turns _) (hk.calls _) hk.timers _), some left, ?_⟩
    exact (finished_retire _ _ _).trans (congrArg (· ++ _) hfin)
  unfold readNext Client.takes
  dsimp only
  rw [hc]
  dsimp only
  generalize hnext : cursor.stream.next
    ((s.client cursor.client).scope.isCancelled cursor.token) = taken
  obtain ⟨step, stream⟩ := taken
  cases step with
  | entity e => exact incurs_returns (finished_retire _ _ _) rfl
  | ended => exact incurs_returns (finished_retire _ _ _) rfl
  | waiting => exact incurs_waits rfl
  | cancelled =>
    refine fails .cancelled (.rejected _) _ ⟨hn, ?_⟩
    show ClientError.cancelled ((s.newCall cursor.client).1.client cursor.client).key.device _ = _
    rw [hc]
    rfl
  | failed status =>
    obtain ⟨hphase, hcan, -⟩ := ReadStream.next_failed (congrArg Prod.fst hnext)
    exact fails _ _ _ (hn.refused (hcur hphase hcan) .read status)

end System

end P4Control
