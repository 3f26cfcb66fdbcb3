import P4Control.Proofs.Outcomes
import P4Control.Proofs.Stores

namespace P4Control

/-!
# Who is refused for lack of mastership

The agent refuses pushes and writes of those who are not master, and refuses whatever a fault tells it to
refuse.  A single update is refused so only if it has been marked to fail, or by a script.  Nobody else
makes a call fail for lack of mastership, neither at once nor while it waits for its answer.

* `CallResult.isDenied`, `CallResult.deniesUpdate` — a call failed for lack of mastership, or one of its
  updates did.
* `Agent.DeniesNext`, `Switch.DeniesUpdateNext` — somebody has told the agent to say so.
* `Switch.write_refused`, `Agent.setPipeline_refused` — the master is refused only by a fault.
* `Switch.denies_of_write` — an update is refused so only if it has been marked.
* `Scenario.Request.reserved?` — the requests that a switch grants to its master only.
* `denied_of_master`, `deniesUpdate_of_told` — what becomes of such requests, at once or later.
-/

/-- Whether a call failed for lack of mastership. -/
def CallResult.isDenied : CallResult → Bool
  | .failed (.permissionDenied _ _) => true
  | _ => false

/-- Whether an update of a write failed for lack of mastership. -/
def CallResult.deniesUpdate : CallResult → Bool
  | .returned (.report r) =>
    r.results.any fun result => result.rejection.any fun status => status.code = .permissionDenied
  | _ => false

/-- A call that has waited in vain has not been refused. -/
theorem not_denied_of_isLapse {error : ClientError} (h : error.isLapse = true) :
    (CallResult.failed error).isDenied = false := by
  cases error with
  | cancelled | timeout => rfl
  | _ => cases h

/-! ### The agent -/

namespace Agent

/-- The next call of `rpc` has been told to fail for lack of mastership. -/
def DeniesNext (a : Agent) (rpc : Rpc) : Prop :=
  ∃ message, a.nextFault rpc = some (.fail ⟨.permissionDenied, message⟩)

/-- A call is refused by a fault, or in the course of its work. -/
theorem answer_refused {α : Type} {a : Agent} {rpc : Rpc} {work : Agent → Agent × Answer α}
    {status : Status} (h : (a.answer rpc work).2 = .refused status) :
    a.nextFault rpc = some (.fail status) ∨ (work (a.enter rpc).1).2 = .refused status := by
  have hf := a.enter_snd rpc
  unfold answer at h
  generalize a.enter rpc = entered at hf h
  obtain ⟨b, fault⟩ := entered
  cases fault with
  | none => exact .inr h
  | some fault =>
    cases fault with
    | fail status' =>
      cases h
      exact .inl hf.symm
    | stall => cases h

/-- The statuses that are sent are among those of the updates. -/
theorem mem_of_mem_sentStatuses {limit : Option Nat} {statuses : List Status} {status : Status}
    (h : status ∈ sentStatuses limit statuses) : status ∈ statuses := by
  unfold sentStatuses at h
  split at h
  · exact List.mem_of_mem_take h
  · split at h
    · cases h
    · exact h

/-- The table itself says nothing about mastership. -/
theorem code_apply (table : EntityTable) (update : Update) :
    (table.apply update).2.code ≠ .permissionDenied := by
  unfold EntityTable.apply
  dsimp only
  split <;> simp [Status.success]

/-- An update is refused for lack of mastership only if it is marked so. -/
theorem marked_of_applyAll {marks : Directory Nat Status} {k : Nat} {updates : List Update}
    {table : EntityTable} {status : Status} (h : status ∈ (applyAll marks k updates table).2)
    (hc : status.code = .permissionDenied) : ∃ i, marks.find? i = some status := by
  induction updates generalizing k table with
  | nil => cases h
  | cons update rest ih =>
    unfold applyAll at h
    dsimp only at h
    rcases List.mem_cons.mp h with rfl | h
    · cases hm : marks.find? k with
      | some injected => exact ⟨k, hm⟩
      | none =>
        simp only [hm] at hc
        exact absurd hc (code_apply table update)
    · exact ih h

variable {a : Agent} {status : Status}

/-- A write of the master is refused only by a fault. -/
theorem write_refused {batch : UpdateBatch} (hm : a.isMaster batch.election = true)
    (h : (a.write batch).2 = .refused status) : a.nextFault .write = some (.fail status) := by
  refine (answer_refused h).resolve_right fun hw => ?_
  dsimp only at hw
  rw [if_pos ((a.isMaster_enter _ _).trans hm)] at hw
  cases hw

/-- A push of the master is refused only by a fault. -/
theorem setPipeline_refused {request : SetPipelineRequest} (hm : a.isMaster request.election = true)
    (h : (a.setPipeline request).2 = .refused status) :
    a.nextFault .setPipeline = some (.fail status) := by
  refine (answer_refused h).resolve_right fun hw => ?_
  rw [if_pos ((a.isMaster_enter _ _).trans hm)] at hw
  split at hw <;> cases hw

/-- An update that the agent takes in is refused so only if it is marked. -/
theorem marked_of_write {batch : UpdateBatch} {statuses : List Status}
    (h : (a.write batch).2 = .reply statuses) (hs : status ∈ statuses)
    (hc : status.code = .permissionDenied) : ∃ i, a.updateFailures.find? i = some status := by
  obtain ⟨-, he⟩ | ⟨-, -, hno⟩ := answer_cases (rfl : _ = a.write batch)
  · rw [he] at h
    dsimp only at h
    split at h
    · cases h
      obtain ⟨i, hi⟩ := marked_of_applyAll (mem_of_mem_sentStatuses hs) hc
      rw [a.enter_eq] at hi
      exact ⟨i, hi⟩
    · cases h
  · exact absurd h (hno statuses)

end Agent

namespace Switch

variable {w : Switch} {status : Status}

/-- A write of the master is refused only by a fault. -/
theorem write_refused {batch : UpdateBatch} (hm : w.agent.isMaster batch.election = true)
    (h : (w.write batch).2 = .refused status) : w.agent.nextFault .write = some (.fail status) := by
  unfold write at h
  dsimp only at h
  split at h
  · cases h
  · exact Agent.write_refused hm h

/-- An update of the next write has been told to fail for lack of mastership: it is marked so, or a
script answers in the place of the agent. -/
def DeniesUpdateNext (w : Switch) : Prop :=
  (∃ i message, w.agent.updateFailures.find? i = some ⟨.permissionDenied, message⟩) ∨
    ∃ statuses rest message, w.scriptedWrites = statuses :: rest ∧
      ⟨.permissionDenied, message⟩ ∈ statuses

/-- An update is refused for lack of mastership only if it has been told to. -/
theorem denies_of_write {batch : UpdateBatch} {statuses : List Status}
    (h : (w.write batch).2 = .reply statuses) (hs : status ∈ statuses)
    (hc : status.code = .permissionDenied) : w.DeniesUpdateNext := by
  obtain ⟨code, message⟩ := status
  obtain rfl : code = .permissionDenied := hc
  unfold write at h
  dsimp only at h
  split at h
  · next scripted rest hscript =>
    cases h
    exact .inr ⟨_, rest, message, hscript, hs⟩
  · obtain ⟨i, hi⟩ := Agent.marked_of_write h hs rfl
    exact .inl ⟨i, message, hi⟩

end Switch

/-! ### The calls -/

/-- A call is refused for lack of mastership by the switch, if whoever looks at the reply does not say
so. -/
theorem Answer.refused_of_isDenied {α : Type} {answer : Answer α} {operation : Operation}
    {limit : Duration} {inspect : α → Option Setback} {b : Setback} {device : DeviceId}
    (hb : answer.setback? operation limit inspect = some b)
    (hi : ∀ a b, inspect a = some b → (CallResult.failed (b.error device)).isDenied = false)
    (hd : (CallResult.failed (b.error device)).isDenied = true) :
    ∃ message, answer = .refused ⟨.permissionDenied, message⟩ := by
  cases answer with
  | reply a =>
    rw [hi a b hb] at hd
    cases hd
  | refused status =>
    cases hb
    -- of all codes only this one is reported as a denial
    obtain ⟨code, message⟩ := status
    cases code with
    | permissionDenied => exact ⟨message, rfl⟩
    | _ => cases hd
  | silence =>
    unfold setback? at hb
    dsimp only at hb
    split at hb
    · cases hb
      cases hd
    · cases hb

namespace Client

variable {c : Client} {w : Switch} {b : Setback} {device : DeviceId}

/-- A push of the master fails for lack of mastership only if it has been told to. -/
theorem denies_of_pushes {conf : Pipeconf} {deviceData : Bytes}
    (hm : w.agent.isMaster (c.arbiter.lastUsed.map (·.toWire)) = true)
    (hb : (c.pushes w conf deviceData).2 = some b)
    (hd : (CallResult.failed (b.error device)).isDenied = true) : w.agent.DeniesNext .setPipeline := by
  unfold pushes at hb
  split at hb
  · cases hb
    cases hd
  · obtain ⟨message, hr⟩ := Answer.refused_of_isDenied hb (fun _ _ h => by cases h) hd
    exact ⟨message, Agent.setPipeline_refused hm hr⟩

/-- A write of the master fails for lack of mastership only if it has been told to. -/
theorem denies_of_writes {request : WriteRequest}
    (hm : w.agent.isMaster (c.arbiter.lastUsed.map (·.toWire)) = true)
    (he : ∀ error, request.error = some error → (CallResult.failed error).isDenied = false)
    (hb : (c.writes w request).2 = some b)
    (hd : (CallResult.failed (b.error device)).isDenied = true) : w.agent.DeniesNext .write := by
  unfold writes at hb
  split at hb
  · next error herror =>
    cases hb
    rw [show (CallResult.failed (Setback.error device (.rejected error))).isDenied = false from
      he error herror] at hd
    cases hd
  · split at hb
    · cases hb
    · obtain ⟨message, hr⟩ := Answer.refused_of_isDenied hb (fun statuses b h => by
        split at h
        · cases h
        · cases h
          rfl) hd
      exact ⟨message, Switch.write_refused hm hr⟩

end Client

namespace System

section Ends

variable {P : CallResult → Prop} {s : System} {K : CallId}

/-- A call ends as it should, and no other. -/
theorem ends_complete {result : CallResult} (hr : P result) :
    ∀ f ∈ (s.complete K result).finished, f ∈ s.finished ∨ P f.result := by
  intro f hf
  rw [finished_complete] at hf
  rcases List.mem_append.mp hf with hf | hf
  · exact .inl hf
  · rw [List.mem_singleton.mp hf]
    exact .inr hr

/-- A call that goes on with the answer ends as it should if it does so with a reply. -/
theorem ends_await {α : Type} {operation : Operation} {token : Token} {limit : Duration}
    {answer : Answer α} {goOn : System → α → System} (hfail : ∀ error, P (.failed error))
    (hreply : ∀ a, answer = .reply a → ∀ f ∈ (goOn s a).finished, f ∈ s.finished ∨ P f.result) :
    ∀ f ∈ (s.await K operation token limit answer goOn).finished, f ∈ s.finished ∨ P f.result := by
  have fails : ∀ failure, ∀ f ∈ (s.failCall K operation token failure).finished,
      f ∈ s.finished ∨ P f.result := by
    intro failure f hf
    rw [finished_failCall] at hf
    rcases List.mem_append.mp hf with hf | hf
    · exact .inl hf
    · rw [List.mem_singleton.mp hf]
      exact .inr (hfail _)
  cases answer with
  | reply a => exact hreply a rfl
  | refused status => exact fails (.refused status token)
  | silence =>
    unfold await
    dsimp only
    split
    · exact fails (.timedOut limit)
    · exact fun f hf => .inl hf

end Ends

/-- A push says nothing about updates. -/
theorem deniesUpdate_setPipelineConfig (s : System) (id : ClientId) (conf : Pipeconf)
    (deviceData : Bytes) : ∀ f ∈ (s.setPipelineConfig id conf deviceData).1.finished,
      f ∈ s.finished ∨ f.result.deniesUpdate = false := by
  obtain ⟨error, -, he⟩ | ⟨token, request, -, he⟩ := s.setPipelineConfig_cases id conf deviceData
  · rw [he]
    exact ends_complete (P := fun result => result.deniesUpdate = false) rfl
  · rw [he]
    exact ends_await (P := fun result => result.deniesUpdate = false) (fun _ => rfl)
      fun _ _ => ends_complete (P := fun result => result.deniesUpdate = false) rfl

/-- An update is refused for lack of mastership only if the answer says so. -/
theorem deniesUpdate_conclude {request : WriteRequest} {device : DeviceId} {statuses : List Status}
    (h : (request.conclude device statuses).deniesUpdate = true) :
    ∃ status ∈ statuses, status.code = .permissionDenied := by
  unfold WriteRequest.conclude at h
  split at h
  · next report hr =>
    obtain ⟨result, hm, hd⟩ := List.any_eq_true.mp h
    unfold WriteReport.ofStatuses? at hr
    split at hr
    · cases hr
      obtain ⟨update, -, rfl⟩ := List.mem_map.mp hm
      cases hd
    · split at hr
      · cases hr
        -- the results are those of the updates and statuses in pairs
        obtain ⟨i, hi, rfl⟩ := List.getElem_of_mem hm
        rw [List.getElem_zipWith] at hd
        unfold WriteReport.result at hd
        dsimp only at hd
        split at hd
        · cases hd
        · exact ⟨_, List.getElem_mem _, by simpa using hd⟩
      · cases hr
  · cases h

/-- An update of a write is refused for lack of mastership only if it has been told to. -/
theorem deniesUpdate_write (s : System) (id : ClientId) (request : WriteRequest) :
    ∀ f ∈ (s.write id request).1.finished, f ∈ s.finished ∨
      (f.result.deniesUpdate = true → (s.switch (s.client id).switch).DeniesUpdateNext) := by
  let told (result : CallResult) : Prop :=
    result.deniesUpdate = true → (s.switch (s.client id).switch).DeniesUpdateNext
  obtain ⟨result, -, hempty, he⟩ | ⟨token, batch, -, he⟩ := s.write_cases id request
  · rw [he]
    refine ends_complete (P := told) fun hd => ?_
    cases result with
    | failed error => cases hd
    | returned value =>
      cases value with
      | report r =>
        unfold CallResult.deniesUpdate at hd
        simp only [hempty r rfl, List.any_nil] at hd
        cases hd
      | _ => cases hd
  · rw [he]
    refine ends_await (P := told) (fun _ hd => by cases hd) fun statuses hreply =>
      ends_complete (P := told) fun hd => ?_
    obtain ⟨status, hm, hc⟩ := deniesUpdate_conclude hd
    exact Switch.denies_of_write hreply hm hc

end System

namespace Scenario

variable {x : Scenario} {id : ClientId} {K : CallId} {client : String} {rpc : Rpc} {request : Request}

/-- A request that the switch grants to its master only, with the client that makes it and the call. -/
def Request.reserved? : Request → Option (String × Rpc)
  | .setPipeline client _ _ => some (client, .setPipeline)
  | .write client _ _ _ => some (client, .write)
  | _ => none

/-- Such a request does not open a session. -/
theorem opens_of_reserved (hr : Request.reserved? request = some (client, rpc)) :
    request.opens = false := by
  cases request with
  | openSession => cases hr
  | _ => rfl

/-- The switch refuses its master only if it has been told to. -/
theorem exchange_of_reserved (hr : Request.reserved? request = some (client, rpc))
    (hh : x.system.handles.find? client = some id)
    (hm : (x.system.switch (x.system.client id).switch).agent.isMaster
      ((x.system.client id).arbiter.lastUsed.map (·.toWire)) = true)
    (hK : x.callOf? request = some K) :
    ∃ exchange, x.exchange? request = some (id, exchange) ∧ ∀ b device, exchange.2 = some b →
      (CallResult.failed (b.error device)).isDenied = true →
        (x.system.switch (x.system.client id).switch).agent.DeniesNext rpc := by
  cases request with
  | setPipeline client' confId data =>
    cases hr
    simp only [callOf?, hh, Option.bind_eq_bind, Option.bind_some, Option.bind_eq_some_iff] at hK
    obtain ⟨conf, hconf, -⟩ := hK
    refine ⟨_, by simp only [exchange?, hh, hconf, Option.bind_eq_bind, Option.bind_some]; rfl, ?_⟩
    exact fun b device => Client.denies_of_pushes hm
  | write client' confId updates atomicity =>
    cases hr
    simp only [callOf?, hh, Option.bind_eq_bind, Option.bind_some, Option.bind_eq_some_iff] at hK
    obtain ⟨conf, hconf, -⟩ := hK
    refine ⟨_, by simp only [exchange?, hh, hconf, Option.bind_eq_bind, Option.bind_some]; rfl, ?_⟩
    refine fun b device => Client.denies_of_writes hm
      fun error (he : (writeOf conf updates atomicity).error = some error) => ?_
    rw [error_writeOf] at he
    obtain ⟨table, rfl⟩ := Pipeconf.tableError?_eq_some he
    rfl
  | _ => cases hr

/-- A push or a write of the master that is refused for lack of mastership, at once or after any further
moves, has been told to fail so. -/
theorem denied_of_master (ho : x.Orderly) (hr : Request.reserved? request = some (client, rpc))
    (hh : x.system.handles.find? client = some id)
    (hopen : (x.system.client id).scope.isOpen = true)
    (hm : (x.system.switch (x.system.client id).switch).agent.isMaster
      ((x.system.client id).arbiter.lastUsed.map (·.toWire)) = true)
    (hK : x.callOf? request = some K) (name : String) (ms : List Move) {f : Finished}
    (hf : f ∈ ((x.make (.start name request)).after ms).system.finished) (hcall : f.call = K)
    (hd : f.result.isDenied = true) :
    (x.system.switch (x.system.client id).switch).agent.DeniesNext rpc := by
  obtain ⟨stray, ha⟩ := ho.attended
  obtain ⟨exchange, hx, hdenies⟩ := exchange_of_reserved hr hh hm hK
  obtain ⟨g, hg, -, -⟩ | ⟨-, wait, hw, hb⟩ := start_outcome ho.valid ha hK name
  · -- the call has ended at once, and with what the switch has answered
    obtain rfl := eq_of_ended_at_once ho.valid ha ho.spent hK hg ms hf hcall
    have hincurs := incurs_start ho.valid ha name hx hopen
    unfold System.Incurs at hincurs
    split at hincurs
    · obtain ⟨fs, hfs, hreturned⟩ := hincurs
      rw [hg, List.append_cancel_left_eq] at hfs
      obtain ⟨value, hvalue⟩ := hreturned f (hfs ▸ List.mem_singleton_self f)
      rw [hvalue] at hd
      cases hd
    · next b hsome =>
      obtain ⟨-, cursor, hfinished⟩ := hincurs
      rw [hg, List.append_cancel_left_eq] at hfinished
      obtain rfl := List.singleton_inj.mp hfinished
      exact hdenies b _ hsome hd
  · -- the call has had to wait, and can only have waited in vain
    obtain ⟨token, operation, hc, hop⟩ := hb.cancels (opens_of_reserved hr)
    obtain ⟨error, he, hlapse⟩ := fails_after (ho.valid.make _) (attended_make ho.valid ha _)
      (spent_make ho.valid ha ho.spent _) hw hc hop ms f hf hcall
    rw [he, not_denied_of_isLapse hlapse] at hd
    cases hd

/-- What ends when such a request is made tells of no update that is refused for lack of mastership, unless
one has been told to fail so. -/
theorem updates_start (hr : Request.reserved? request = some (client, rpc))
    (hh : x.system.handles.find? client = some id) (hK : x.callOf? request = some K) (name : String) :
    ∀ f ∈ (x.make (.start name request)).system.finished, f ∈ x.system.finished ∨
      (f.result.deniesUpdate = true →
        (x.system.switch (x.system.client id).switch).DeniesUpdateNext) := by
  cases request with
  | setPipeline client' confId data =>
    cases hr
    simp only [callOf?, hh, Option.bind_eq_bind, Option.bind_some, Option.bind_eq_some_iff] at hK
    obtain ⟨conf, hconf, -⟩ := hK
    simp only [make, start, onClient, onPipeconf, hh, hconf]
    intro f hf
    refine (System.deniesUpdate_setPipelineConfig _ id conf data f hf).imp_right fun hno hd => ?_
    rw [hno] at hd
    cases hd
  | write client' confId updates atomicity =>
    cases hr
    simp only [callOf?, hh, Option.bind_eq_bind, Option.bind_some, Option.bind_eq_some_iff] at hK
    obtain ⟨conf, hconf, -⟩ := hK
    simp only [make, start, onClient, onPipeconf, hh, hconf]
    exact System.deniesUpdate_write x.system id (writeOf conf updates atomicity)
  | _ => cases hr

/-- An update of such a request that is refused for lack of mastership has been told to fail so. -/
theorem deniesUpdate_of_told (ho : x.Orderly) (hr : Request.reserved? request = some (client, rpc))
    (hh : x.system.handles.find? client = some id) (hK : x.callOf? request = some K) (name : String)
    (ms : List Move) {f : Finished}
    (hf : f ∈ ((x.make (.start name request)).after ms).system.finished) (hcall : f.call = K)
    (hd : f.result.deniesUpdate = true) :
    (x.system.switch (x.system.client id).switch).DeniesUpdateNext := by
  obtain ⟨stray, ha⟩ := ho.attended
  obtain ⟨value, hvalue⟩ : ∃ value, f.result = .returned value := by
    cases hresult : f.result with
    | returned value => exact ⟨value, rfl⟩
    | failed error =>
      rw [hresult] at hd
      cases hd
  have honce := returned_at_once ho.valid ha ho.spent hK (opens_of_reserved hr) name ms hf hcall hvalue
  have hin : f ∈ (x.make (.start name request)).system.finished := by
    rw [honce]
    exact List.mem_append_right _ (List.mem_singleton_self f)
  refine (updates_start hr hh hK name f hin).elim (fun hold => ?_) fun htold => htold hd
  exact absurd (hcall ▸ ho.spent f hold) (not_over_of_callOf? ho.valid ha hK)

end Scenario

end P4Control
