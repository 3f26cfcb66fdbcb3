import P4Control.Proofs.Enrolment
import P4Control.Proofs.Line

namespace P4Control

/-!
# Who keeps a client alive

A client is held by users, by the registry, and by the requests that are pending on it.  A request that
runs ends up pending, or lets go of its client; the next item of a read stream holds nothing.

* `System.OfKind` — what kind of call a pending one is.
* `System.Sealed` — a client that nobody holds has no scope in place.
* `System.Discharged` — what a request leaves behind, with one lemma for each step that requests are
  made of.
* `System.Sorted` — only requests wait for anything but a chunk.
* `held_cases` — the three kinds of holders.
-/

namespace System

variable {s t : System} {K : CallId} {id : ClientId} {kind : CallKind} {wait : Wait}

/-! ### Holders -/

/-- A request that is pending holds its client. -/
theorem isHeld_of_request {call : Call} (hm : call ∈ (s.client id).calls) (hk : call.kind = .request) :
    s.isHeld id = true := by
  have ha : ((s.client id).calls.any fun c => decide (c.kind = .request)) = true :=
    List.any_eq_true.mpr ⟨call, hm, decide_eq_true hk⟩
  rw [isHeld, ha, Bool.or_true]

/-- A client is held by a user, by the registry, or by a request. -/
theorem held_cases (hn : s.handles.keys.Nodup) (hr : s.registry.keys.Nodup) (h : s.isHeld id = true) :
    (∃ name, s.handles.find? name = some id) ∨ (∃ device, s.registered? device = some id) ∨
      ∃ call ∈ (s.client id).calls, call.kind = .request := by
  unfold isHeld at h
  rcases Bool.or_eq_true_iff.mp h with h | h
  · rcases Bool.or_eq_true_iff.mp h with h | h
    · exact .inl (Directory.find?_of_mem_values hn (List.contains_iff_mem.mp h))
    · exact .inr (.inl (Directory.find?_of_mem_values hr (List.contains_iff_mem.mp h)))
  · obtain ⟨call, hm, hk⟩ := List.any_eq_true.mp h
    exact .inr (.inr ⟨call, hm, of_decide_eq_true hk⟩)

/-! ### What a request leaves behind -/

/-- If the call is pending, it is of this kind. -/
def OfKind (s : System) (K : CallId) (kind : CallKind) : Prop :=
  ∀ call ∈ (s.client K.client).calls, call.serial = K.serial → call.kind = kind

/-- If nobody holds the client, no scope of it is in place. -/
def Sealed (s : System) (id : ClientId) : Prop :=
  s.isHeld id = true ∨ (s.client id).scope.current = none

/-- A request has run: it is pending, or has let go of its client. -/
structure Discharged (t : System) (K : CallId) : Prop where
  requests : t.OfKind K .request
  shut : t.Sealed K.client

/-- The kind of a call is told by the pending calls. -/
theorem OfKind.congr (h : s.OfKind K kind) (hc : (t.client K.client).calls = (s.client K.client).calls) :
    t.OfKind K kind := by
  unfold OfKind
  rw [hc]
  exact h

/-- A call that waits again is of the same kind. -/
theorem OfKind.suspend (h : s.OfKind K kind) (wait : Wait) : (s.suspend K kind wait).OfKind K kind := by
  intro call hm hs
  unfold System.suspend at hm
  rw [client_updateClient_self] at hm
  split at hm
  · obtain ⟨old, ho, rfl⟩ := List.mem_map.mp hm
    split at hs
    · next hold =>
      rw [if_pos hold]
      exact h old ho hold
    · next hold => exact absurd hs hold
  · rcases List.mem_append.mp hm with hm | hm
    · exact h call hm hs
    · rw [List.mem_singleton.mp hm]

/-- A call that has ended is not pending. -/
theorem ofKind_retire (s : System) (K : CallId) (kind kind' : CallKind) :
    (s.retire K kind').OfKind K kind := by
  intro call hm hs
  rw [(heeds_retire s K kind').calls] at hm
  exact absurd (by rw [hs]) (mem_calls_withdraw.mp hm).2

/-- The last holder that goes closes the session. -/
theorem sealed_release (s : System) (id : ClientId) : (s.release id).Sealed id := by
  unfold release
  split
  · next h => exact .inl h
  · refine .inr ?_
    rw [scope_closeSession]
    exact Scope.current_close _

/-- A request that ends lets go of its client, and if it was the last holder the session is closed.
-/
theorem discharged_retire (s : System) (K : CallId) : (s.retire K .request).Discharged K where
  requests := ofKind_retire s K .request .request
  shut := sealed_release (s.withdraw K) K.client

/-- A request that is told its result has ended. -/
theorem discharged_complete (s : System) (K : CallId) (result : CallResult) :
    (s.complete K result).Discharged K := discharged_retire _ K

/-- A request that fails has ended. -/
theorem discharged_failCall (s : System) (K : CallId) (operation : Operation) (token : Token)
    (failure : Failure) : (s.failCall K operation token failure).Discharged K := discharged_retire _ K

/-- A request that waits is pending, and so it holds its client. -/
theorem discharged_suspend (h : s.OfKind K .request) (wait : Wait) :
    (s.suspend K .request wait).Discharged K := by
  obtain ⟨call, hm, hs⟩ := (wait_suspend s K .request wait).1
  exact ⟨h.suspend wait, .inl (isHeld_of_request hm (h.suspend wait call hm hs))⟩

/-- A request that is not answered at once waits; if its time is up it has failed. -/
theorem discharged_await {α : Type} {operation : Operation} {token : Token} {limit : Duration}
    {answer : Answer α} {goOn : System → α → System} (h : s.OfKind K .request)
    (hg : ∀ a, (goOn s a).Discharged K) :
    (s.await K operation token limit answer goOn).Discharged K := by
  unfold await
  cases answer with
  | reply a => exact hg a
  | refused status => exact discharged_failCall s K operation token _
  | silence =>
    dsimp only
    split
    · exact discharged_failCall s K operation token _
    · have hd := discharged_suspend h
        (.answer operation token limit ⟨s.now.nanoseconds + limit.nanoseconds⟩)
      exact ⟨hd.requests, hd.shut⟩

/-- Without a session the request has failed at once. -/
theorem discharged_inSession {goOn : System → Token → System}
    (hg : ∀ token, (goOn s token).Discharged K) : (s.inSession K goOn).Discharged K := by
  unfold inSession
  split
  · exact hg _
  · exact discharged_complete s K _

/-! ### Opening the session -/

/-- Whoever has got a stream has come to an end, with an open session or without. -/
theorem discharged_activateSession (s : System) (K : CallId) (token : Token) (afterFailure : Bool)
    (st : StreamId) : (s.activateSession K token afterFailure st).Discharged K := by
  unfold activateSession
  dsimp only
  split <;> exact discharged_complete _ K _

/-- Whoever has the turn to open the session ends or waits for a stream. -/
theorem discharged_setUp (h : s.OfKind K .request) : (s.setUp K).Discharged K := by
  unfold setUp
  dsimp only
  split
  · exact discharged_complete s K _
  · next token afterFailure begun hb =>
    have hc := sameClients_openStream (s.beginScope K.client begun) (s.client K.client).switch
      (some (max (s.client K.client).config.queueCapacity 1))
    refine discharged_await (h.congr ?_) fun st => discharged_activateSession _ K token afterFailure st
    rw [hc.client, client_beginScope, if_pos rfl]

section

variable {stray : ClientId → Token → Prop}

/-- A call that has just been made is not pending yet. -/
theorem Attended.ofKind_newCall (ha : s.Attended none stray) (id : ClientId) (kind : CallKind) :
    (s.newCall id).1.OfKind (s.newCall id).2 kind := by
  intro call hm hs
  rw [(newCall_parts s id _).1] at hm
  have hlt := ha.made _ call hm
  rw [hs] at hlt
  exact absurd hlt (Nat.lt_irrefl _)

/-- A pending call is known by its number. -/
theorem Attended.ofKind_of_mem (ha : s.Attended none stray) {call : Call}
    (hm : call ∈ (s.client K.client).calls) (hs : call.serial = K.serial) : s.OfKind K call.kind := by
  intro other hother hser
  rw [eq_of_serial (ha.serials K.client) hother hm (hser.trans hs.symm)]

/-- A pending call is found by its number. -/
theorem Attended.call?_dequeue (ha : s.Attended none stray) {call : Call}
    (hm : call ∈ (s.client K.client).calls) (hs : call.serial = K.serial) :
    s.dequeue.call? K = some call :=
  call?_eq_some (s := s.dequeue) (ha.serials K.client) hm hs

/-- Opening the session. -/
theorem discharged_openSession (ha : s.Attended none stray) (id : ClientId) :
    (s.openSession id).1.Discharged (s.newCall id).2 := by
  have hr : ((s.newCall id).1.enterLine (s.newCall id).2).OfKind (s.newCall id).2 .request :=
    (ha.ofKind_newCall id .request).congr (enterLine_parts _ _ _).1
  unfold openSession
  dsimp only
  split
  · exact discharged_setUp hr
  · exact discharged_suspend hr _

/-! ### The calls in the open session -/

/-- Pushing a program. -/
theorem discharged_setPipelineConfig (ha : s.Attended none stray) (id : ClientId) (conf : Pipeconf)
    (deviceData : Bytes) : (s.setPipelineConfig id conf deviceData).1.Discharged (s.newCall id).2 := by
  have hr := ha.ofKind_newCall id .request
  unfold setPipelineConfig
  dsimp only
  split
  · exact discharged_complete _ _ _
  · dsimp only
    refine discharged_inSession fun token => ?_
    exact discharged_await hr fun _ => discharged_complete _ _ _

/-- Asking for the program, whatever is done with the answer. -/
theorem discharged_queryPipeline {view : PipelineView} {goOn : System → Option PipelineConfig → System}
    (h : s.OfKind K .request)
    (hg : ∀ (t : System) config, t.OfKind K .request → (goOn t config).Discharged K) :
    (s.queryPipeline K view goOn).Discharged K := by
  unfold queryPipeline
  exact discharged_inSession fun token => discharged_await h fun config => hg _ config h

/-- Asking whether a program is the one that is set. -/
theorem discharged_isPipelineConfigSet (ha : s.Attended none stray) (id : ClientId) (conf : Pipeconf)
    (deviceData : Bytes) :
    (s.isPipelineConfigSet id conf deviceData).1.Discharged (s.newCall id).2 := by
  unfold isPipelineConfigSet
  dsimp only
  refine discharged_queryPipeline (ha.ofKind_newCall id .request) fun t config ht => ?_
  split
  · exact discharged_complete _ _ _
  · split
    · exact discharged_complete _ _ _
    · split
      · exact discharged_complete _ _ _
      -- without a cookie the whole program is asked for
      · refine discharged_queryPipeline ht fun u config' _ => ?_
        split <;> exact discharged_complete _ _ _

/-- Submitting a read, whatever is done with the stream. -/
theorem discharged_submitRead {request : ReadRequest} {goOn : System → Token → ReadStream → System}
    (h : s.OfKind K .request)
    (hg : ∀ (t : System) token stream, t.OfKind K .request → (goOn t token stream).Discharged K) :
    (s.submitRead K request goOn).Discharged K := by
  unfold submitRead
  dsimp only
  split
  · exact discharged_complete _ _ _
  · refine discharged_inSession fun token => ?_
    split
    · exact hg s token _ h
    · exact discharged_await h fun reply => hg _ token _ h

/-- Reading everything. -/
theorem discharged_read (ha : s.Attended none stray) (id : ClientId) (request : ReadRequest) :
    (s.read id request).1.Discharged (s.newCall id).2 := by
  unfold read
  dsimp only
  refine discharged_submitRead (ha.ofKind_newCall id .request) fun t token stream ht => ?_
  split
  · exact discharged_failCall _ _ _ _ _
  · exact discharged_failCall _ _ _ _ _
  · exact discharged_suspend ht _
  · exact discharged_complete _ _ _

/-- Opening a read stream. -/
theorem discharged_openRead (ha : s.Attended none stray) (id : ClientId) (request : ReadRequest) :
    (s.openRead id request).1.Discharged (s.newCall id).2 := by
  unfold openRead
  dsimp only
  exact discharged_submitRead (ha.ofKind_newCall id .request) fun t token stream _ => discharged_retire _ _

/-- Writing. -/
theorem discharged_write (ha : s.Attended none stray) (id : ClientId) (request : WriteRequest) :
    (s.write id request).1.Discharged (s.newCall id).2 := by
  have hr := ha.ofKind_newCall id .request
  unfold write
  dsimp only
  split
  · exact discharged_complete _ _ _
  · dsimp only
    refine discharged_inSession fun token => ?_
    split
    · exact discharged_complete _ _ _
    · refine discharged_await hr fun statuses => ?_
      split <;> exact discharged_complete _ _ _

/-- Taking from a read stream is not a request. -/
theorem ofKind_readNext (ha : s.Attended none stray) (cursor : ReadCursor) :
    (s.readNext cursor).1.OfKind (s.newCall cursor.client).2 .next := by
  unfold readNext
  dsimp only
  split
  · exact ofKind_retire _ _ _ _
  · exact ofKind_retire _ _ _ _
  · exact (ha.ofKind_newCall cursor.client .next).suspend _
  · exact ofKind_retire _ _ _ _
  · exact ofKind_retire _ _ _ _

end

/-! ### Waiting calls -/

/-- A call that takes from a read stream waits for a chunk. -/
def Sorted (s : System) : Prop :=
  ∀ id, ∀ call ∈ (s.client id).calls, call.kind = .next → ∃ token, call.wait = .chunk token

/-- A request that waits goes on, if it can. -/
theorem discharged_resume {call : Call} (hcall : s.call? K = some call) (hr : s.OfKind K .request) :
    (s.resume K).Discharged K := by
  have hmem := List.mem_of_find?_eq_some hcall
  have hser : call.serial = K.serial := by simpa using List.find?_some hcall
  have hkind : call.kind = .request := hr call hmem hser
  -- a call that cannot go on yet is still pending
  have stays : s.Discharged K := ⟨hr, .inl (isHeld_of_request hmem hkind)⟩
  unfold resume
  simp only [hcall, hkind]
  split
  · split
    · exact discharged_setUp hr
    · exact stays
  · split
    · exact discharged_failCall _ _ _ _ _
    · split
      · exact discharged_failCall _ _ _ _ _
      · exact stays
  · split
    · exact discharged_complete _ _ _
    · exact stays

/-- A call runs that is a request, or waits for nothing but a chunk. -/
theorem Sorted.stroke {own : Option Token} {P : Wait → Prop} (h : s.Sorted) (hs : s.Stroke K own P t)
    (hK : t.OfKind K .request ∨ ∀ wait, P wait → ∃ token, wait = .chunk token) : t.Sorted := by
  intro id call hm hk
  by_cases he : (⟨id, call.serial⟩ : CallId) = K
  · subst he
    rcases hK with hr | hw
    · rw [hr call hm rfl] at hk
      cases hk
    · exact hw _ (hs.waits call hm rfl)
  · exact h id call ((hs.others id call he).mp hm) hk

/-- What calls wait for is told by the pending calls. -/
theorem Sorted.congr (h : s.Sorted) (hc : ∀ id, (t.client id).calls = (s.client id).calls) :
    t.Sorted := by
  intro id call hm hk
  rw [hc id] at hm
  exact h id call hm hk

/-- A call that has just been made does not wait yet. -/
theorem Sorted.newCall (h : s.Sorted) (id : ClientId) : (s.newCall id).1.Sorted :=
  h.congr fun id' => (newCall_parts s id id').1

/-- A call that ends waits no more. -/
theorem Sorted.retire (h : s.Sorted) (K : CallId) (kind : CallKind) : (s.retire K kind).Sorted := by
  intro id call hm hk
  rw [(heeds_retire s K kind).calls] at hm
  exact h id call (mem_calls_withdraw.mp hm).1 hk

/-- A call that waits for a chunk goes on, if it can. -/
theorem OfKind.resume_chunk {call : Call} (h : s.OfKind K kind) (hcall : s.call? K = some call)
    (hw : ∃ token, call.wait = .chunk token) : (s.resume K).OfKind K kind := by
  obtain ⟨token, hw⟩ := hw
  unfold System.resume
  simp only [hcall, hw]
  split
  · cases call.kind with
    | request => exact ofKind_retire _ _ _ _
    | next => exact ofKind_retire _ _ _ _
  · exact h

end System

namespace Scenario

variable {x : Scenario} {m : Move} {stray : ClientId → Token → Prop}

/-- What the start of a request does to the pending calls: nothing, or a request runs that is made by way
of a handle, or a call that takes from a read stream. -/
inductive Sets (x : Scenario) (t : System) : Prop
  | nothing (h : System.Spares x.system t)
  | request (id : ClientId) (P : Wait → Prop) (client : String)
      (hh : x.system.handles.find? client = some id)
      (hs : (x.system.newCall id).1.Stroke (x.system.newCall id).2 none P t)
      (hd : t.Discharged (x.system.newCall id).2)
  | take (cursor : ReadCursor) (ht : t = (x.system.readNext cursor).1)

/-- A change in which no call has a part. -/
theorem sets_of_clients {t : System} (hc : t.clients = x.system.clients) (hn : t.now = x.system.now)
    (hf : t.finished = x.system.finished) (ht : t.timers = x.system.timers)
    (hr : t.ready = x.system.ready) : x.Sets t := by
  refine .nothing (System.heeds_of_clients (fun id => ?_) hn hf ht fun id h => hr ▸ h).spares
  unfold System.client
  rw [hc]

/-- A request lets its own call wait or end. -/
theorem sets_start (hv : x.Valid) (ha : x.system.Attended none stray) (name : String) (request : Request) :
    x.Sets (x.start name request).1.system := by
  have self : x.Sets x.system := .nothing (.refl _)
  cases request with
  | openSession client =>
    exact holds_onClient self fun id hh =>
      .request id _ client hh (System.stroke_openSession hv.system ha id)
        (System.discharged_openSession ha id)
  | setPipeline client conf data =>
    exact holds_onPipeconf self fun id _ hh =>
      .request id _ client hh (System.stroke_setPipelineConfig hv.system ha id _ data)
        (System.discharged_setPipelineConfig ha id _ data)
  | isPipelineSet client conf data =>
    exact holds_onPipeconf self fun id _ hh =>
      .request id _ client hh (System.stroke_isPipelineConfigSet hv.system ha id _ data)
        (System.discharged_isPipelineConfigSet ha id _ data)
  | read client conf query =>
    exact holds_onPipeconf self fun id _ hh =>
      .request id _ client hh (System.stroke_read hv.system ha id _) (System.discharged_read ha id _)
  | openRead client conf query =>
    exact holds_onPipeconf self fun id _ hh =>
      .request id _ client hh (System.stroke_openRead hv.system ha id _)
        (System.discharged_openRead ha id _)
  | write client conf updates atomicity =>
    exact holds_onPipeconf self fun id _ hh =>
      .request id _ client hh (System.stroke_write hv.system ha id _)
        (System.discharged_write ha id _)
  | readNext stream =>
    simp only [start]
    split
    · exact self
    · next cursor _ => exact .take cursor rfl
  | rawOpen switch => exact .nothing (x.heeds_rawOpen name switch).spares
  | rawRead switch request =>
    refine holds_onSwitch self fun w _ => ?_
    dsimp only
    split <;> exact sets_of_clients rfl rfl rfl rfl rfl
  | rawSet | rawGet | rawWrite =>
    refine holds_onSwitch self fun w _ => ?_
    rw [system_answered]
    exact sets_of_clients rfl rfl rfl rfl rfl

/-- A request waits for a chunk only if it is the next item of a read stream. -/
theorem sorted_start (hv : x.Valid) (ha : x.system.Attended none stray) (h : x.system.Sorted)
    (name : String) (request : Request) : (x.start name request).1.system.Sorted := by
  cases sets_start hv ha name request with
  | nothing hs => exact h.congr hs.calls
  | request id P client hh hs hd => exact (h.newCall id).stroke hs (.inl hd.requests)
  | take cursor ht =>
    rw [ht]
    exact (h.newCall cursor.client).stroke (System.stroke_readNext hv.system ha cursor)
      (.inr fun wait hw => ⟨cursor.token, hw.1⟩)

/-- A call that is there waits for its turn, and is a request, or goes on as it was. -/
theorem sorted_resume (hv : x.Valid) (ha : x.system.Attended none stray) (h : x.system.Sorted) {K : CallId}
    {call : Call} (hm : call ∈ (x.system.client K.client).calls) (hs : call.serial = K.serial) :
    (x.system.dequeue.resume K).Sorted := by
  have hst := System.stroke_resume hv.system ha hm hs
  refine System.Sorted.stroke (s := x.system.dequeue) h hst ?_
  have hof := ha.ofKind_of_mem hm hs
  cases hk : call.kind with
  | request =>
    rw [hk] at hof
    exact .inl (System.discharged_resume (ha.call?_dequeue hm hs) hof).requests
  | next =>
    refine .inr fun wait hg => ?_
    obtain ⟨token, hw⟩ := h K.client call hm hk
    rcases hg with rfl | ⟨ht, -⟩
    · exact ⟨token, hw⟩
    · rw [hw] at ht
      cases ht

/-- A move keeps the calls sorted. -/
theorem sorted_make (hv : x.Valid) (ha : x.system.Attended none stray) (h : x.system.Sorted) (m : Move) :
    (x.make m).system.Sorted := by
  cases m with
  | start name request => exact sorted_start hv ha h name request
  | advance span => exact h.congr (System.spares_advance x.system span).calls
  | observe posted outcome => exact h
  | act action =>
    cases sways_act hv.system action with
    | spares hs => exact h.congr hs.calls
    | starts id hs => exact (h.newCall id).stroke hs (.inr fun wait hb => by cases hb)
    | resumes K call hm => cases hm
    | drops task name K reading call hm hf hc ht =>
      rw [make, ht]
      exact h.retire K call.kind
  | poll =>
    rw [show (x.make .poll).system = x.system.poll from rfl]
    cases sways_poll hv ha with
    | spares hs => exact h.congr hs.calls
    | starts id hs =>
      refine (h.newCall id).stroke hs (.inr fun wait hb => ?_)
      cases hb with
      | resumes _ _ hw =>
        -- a call that is pending has been made before
        obtain ⟨call, hm, hser, -⟩ := hw
        have hlt := ha.made id call hm
        rw [hser] at hlt
        exact absurd hlt (Nat.lt_irrefl _)
    | resumes K call hm hr hc hs hst =>
      rw [poll_of_resume hr]
      exact sorted_resume hv ha h hc hs
    | drops task name K reading call hm hf hc ht => cases hm

/-! ### Handing out a client -/

/-- Whom an action hands out: the control plane that has the client, the name, and the client. -/
def grants? (x : Scenario) : Action → Option (System × String × ClientId)
  | .create key handle change =>
    match x.system.createClient key (x.settings change) with
    | (s, .ok id) => some (s, handle, id)
    | (_, .error _) => none
  | .new key handle change =>
    (x.system.channels.find? key.device).map fun switch =>
      let made := x.system.newClient key switch (x.settings change)
      (made.1, handle, made.2)
  | .get device (some name) => (x.system.registered? device).map fun id => (x.system, name, id)
  | .clone client handle => (x.system.handles.find? client).map fun id => (x.system, handle, id)
  | _ => none

variable {s : System} {name : String} {id : ClientId} {action : Action}

/-- What is handed out gets the name, and does nothing else. -/
theorem act_of_grants (h : x.grants? action = some (s, name, id)) :
    x.make (.act action) = x.withSystem (s.setHandle name id) := by
  cases action with
  | create key handle change =>
    unfold grants? at h
    unfold make act
    dsimp only at h ⊢
    generalize x.system.createClient key (x.settings change) = made at h ⊢
    obtain ⟨t, outcome⟩ := made
    -- a creation that fails grants nothing
    cases outcome with
    | ok => cases h; rfl
    | error => cases h
  | new key handle change =>
    obtain ⟨switch, hc, he⟩ := Option.map_eq_some_iff.mp h
    cases he
    unfold make act
    dsimp only
    rw [hc]
  | get device handle =>
    cases handle with
    | none => cases h
    | some handle =>
      obtain ⟨id', hr, he⟩ := Option.map_eq_some_iff.mp h
      cases he
      unfold make act
      dsimp only
      rw [hr]
  | clone client handle =>
    obtain ⟨id', hr, he⟩ := Option.map_eq_some_iff.mp h
    cases he
    simp only [make, act, onClient, hr]
  | _ => cases h

/-- A client has been found, or made, to be handed out. -/
structure Provides (s t : System) (id : ClientId) : Prop where
  source : s.isHeld id = true ∨ ¬ s.Knows id
  handles : t.handles = s.handles
  registry : ∀ device id', s.registered? device = some id' → t.registered? device = some id'
  client : ∀ id', s.Knows id' → t.client id' = s.client id'
  stream : ∀ st, t.stream st = s.stream st
  journal : t.journal = s.journal

/-- A client that is held is provided as it is. -/
theorem provides_self (h : s.isHeld id = true) : Provides s s id :=
  ⟨.inl h, rfl, fun _ _ h => h, fun _ _ => rfl, fun _ => rfl, rfl⟩

/-- A new client is not known before, and has no session. -/
theorem provides_newClient (hv : s.Valid) (key : ClientKey) (switch : SwitchName) (config : ClientConfig) :
    Provides s (s.newClient key switch config).1 (s.newClient key switch config).2 where
  source := .inr (hv.not_knows_newClient key switch config)
  handles := rfl
  registry _ _ h := h
  client id' hk := by
    rw [System.client_newClient, if_neg]
    rintro rfl
    exact hv.not_knows_newClient key switch config hk
  stream _ := rfl
  journal := rfl

/-- What is handed out has been there, or is new. -/
theorem provides_of_grants (hv : x.Valid) (h : x.grants? action = some (s, name, id)) :
    Provides x.system s id := by
  cases action with
  | create key handle change =>
    unfold grants? at h
    dsimp only at h
    rcases System.createClient_cases x.system key (x.settings change) with
      ⟨id', hr, he⟩ | ⟨hn, ⟨hc, he⟩ | ⟨switch, hc, he⟩⟩
    · rw [he] at h
      by_cases hk : (x.system.client id').key = key
      · rw [if_pos hk] at h
        cases h
        exact provides_self (System.isHeld_of_registered hr)
      · rw [if_neg hk] at h
        cases h
    · rw [he] at h
      cases h
    · rw [he] at h
      cases h
      have hp := provides_newClient hv.system key switch (x.settings change)
      refine ⟨hp.source, hp.handles, fun device id' hr => ?_, hp.client, hp.stream, hp.journal⟩
      unfold System.registered? at hr ⊢
      -- Nobody else was on file for this device, so nobody is pushed out.
      rw [Directory.find?_insert, if_neg]
      · exact hr
      · rintro rfl
        rw [System.registered?, hr] at hn
        cases hn
  | new key handle change =>
    obtain ⟨switch, hc, he⟩ := Option.map_eq_some_iff.mp h
    cases he
    exact provides_newClient hv.system key switch (x.settings change)
  | get device handle =>
    cases handle with
    | none => cases h
    | some handle =>
      obtain ⟨id', hr, he⟩ := Option.map_eq_some_iff.mp h
      cases he
      exact provides_self (System.isHeld_of_registered hr)
  | clone client handle =>
    obtain ⟨id', hr, he⟩ := Option.map_eq_some_iff.mp h
    cases he
    exact provides_self (System.isHeld_of_handle hr)
  | _ => cases h

/-- An action hands out a client, or takes one from its user or from the registry, or does nothing of the
kind. -/
theorem holders_act_cases (action : Action) :
    (∃ s name id, x.grants? action = some (s, name, id)) ∨
      (∃ name old, action = .drop name ∧ x.system.handles.find? name = some old) ∨
      (∃ device old, action = .remove device ∧ x.system.registered? device = some old) ∨
      System.SameHolders x.system (x.make (.act action)).system := by
  have he : x.Effect action (x.make (.act action)).system := x.effect_act action
  generalize (x.make (.act action)).system = t at he
  have same : Move.files (.act action) = false → System.SameHolders x.system t := he.holders
  cases he with
  | @creates key handle change s id h =>
    refine .inl ⟨s, handle, id, ?_⟩
    unfold grants?
    dsimp only
    rw [h]
  | makes h | finds h | clones h => exact .inl ⟨_, _, _, Option.map_eq_some_iff.mpr ⟨_, h, rfl⟩⟩
  | drops h => exact .inr (.inl ⟨_, _, rfl, h⟩)
  | removes h => exact .inr (.inr (.inl ⟨_, _, rfl, h⟩))
  | stays => exact .inr (.inr (.inr (.refl _)))
  | files => exact .inr (.inr (.inr ⟨rfl, rfl⟩))
  | _ => exact .inr (.inr (.inr (same rfl)))

/-! ### Every run -/

/-- No handle is given away twice. -/
theorem nodup_handles_make (hv : x.Valid) (h : x.system.handles.keys.Nodup) (m : Move) :
    (x.make m).system.handles.keys.Nodup := by
  have same : ∀ {t}, System.SameHolders x.system t → t.handles.keys.Nodup := by
    intro t ht
    rw [ht.handles]
    exact h
  cases m with
  | act action =>
    rcases holders_act_cases (x := x) action with
      ⟨s, name, id, hg⟩ | ⟨name, old, rfl, hf⟩ | ⟨device, old, rfl, hr⟩ | hs
    · rw [act_of_grants hg]
      show (s.setHandle name id).handles.keys.Nodup
      rw [(System.setHandle_parts s name id).2, (provides_of_grants hv hg).handles]
      exact Directory.nodup_keys_insert h _ _
    · show (x.system.dropHandle name).1.handles.keys.Nodup
      rw [(System.dropHandle_parts hf).2.2]
      exact Directory.nodup_keys_erase h _
    · show (x.system.removeClient device).1.handles.keys.Nodup
      rw [(System.removeClient_parts x.system device hr).2.2.2]
      exact h
    · exact same hs
  | _ => exact same (holders_make hv rfl)

/-- What every run keeps of who has which client. -/
structure Custody (x : Scenario) : Prop where
  orderly : x.Orderly
  enrolled : x.Enrolled
  handles : x.system.handles.keys.Nodup
  sorted : x.system.Sorted

/-- A move leaves every client without holders without a session. -/
theorem Custody.make (h : x.Custody) (m : Move) : (x.make m).Custody := by
  obtain ⟨stray, ha⟩ := h.orderly.attended
  have hv := h.orderly.valid
  exact ⟨h.orderly.make m, h.enrolled.make hv m, nodup_handles_make hv h.handles m,
    sorted_make hv ha h.sorted m⟩

/-- So does a run. -/
theorem Custody.after (h : x.Custody) (ms : List Move) : (x.after ms).Custody := by
  induction ms generalizing x with
  | nil => exact h
  | cons m rest ih => exact ih (h.make m)

/-- In every state that a run leads to, a client that nobody holds has no session. -/
theorem custody_after (devices : List String) (confs : List Pipeconf)
    (bindings : List (String × PipeconfId)) (config : ConfigChange) (capacity : Nat) (ms : List Move) :
    ((initial devices confs bindings config capacity).after ms).Custody := by
  refine Custody.after ⟨orderly_after devices confs bindings config capacity [],
    enrolled_initial devices confs bindings config capacity, List.nodup_nil, ?_⟩ ms
  intro id call hm
  cases hm

end Scenario

end P4Control
