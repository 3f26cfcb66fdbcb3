import P4Control.Proofs.Calls

namespace P4Control

/-!
# What the tasks do, step by step

One step of a task is a short sequence of incidents.

* `System.listens` — what the inbound loop finds whose turn it is.
* `System.hears`, `System.loses` — the frame it takes, or the loss of its stream.
* `System.Polls` — the incidents of one step of the first runnable task.
* `System.OfPoll`, `Polls.ofPoll` — the incidents that such a step is made of.
* `leads_poll` — a step leads from a system to the next one by such incidents.
-/

/-- The reason that a status gives for the end of a session, if its code is that of an unavailable
channel. -/
def Status.reason? (status : Status) : Option String :=
  if status.code = .unavailable then some status.message else none

namespace System

/-- What the inbound loop finds whose turn it is to run, if its session has not ended. -/
def listens (s : System) : Option (ClientId × Token × Reception (Arrival StreamResponse)) :=
  match s.ready with
  | .listen st :: _ =>
    match (s.stream st).listener with
    | some (id, token) =>
      if (s.client id).scope.isCancelled token then none
      else some (id, token, (s.stream st).downlink.receive)
    | none => none
  | _ => none

/-- The frame that is taken by the inbound loop whose turn it is. -/
def hears (s : System) : Option (ClientId × StreamResponse) :=
  match s.listens with
  | some (id, _, .frame (.item frame) _) => some (id, frame)
  | _ => none

/-- The client that finds its stream lost when its inbound loop runs now, and the reason if the
channel is unavailable.  A stream that the switch has ended counts as that. -/
def loses (s : System) : Option (ClientId × Option String) :=
  match s.listens with
  | some (id, _, .frame (.failure status) _) => some (id, status.reason?)
  | some (id, _, .ended) => some (id, some "stream closed by server")
  | _ => none

/-- The incidents of one step of the first runnable task, which leads to `t`. -/
inductive Polls (s t : System) : List Incident → Prop
  | rests (hr : s.ready = []) : Polls s t []
  | serves (st : StreamId) (frame : StreamRequest) (hr : s.ready.head? = some (.serve st)) :
      Polls s t [.served st frame]
  | drains (st : StreamId) (hr : s.ready.head? = some (.serve st)) : Polls s t [.drained st]
  | hears (id : ClientId) (st : StreamId) (frame : StreamResponse)
      (hr : s.ready.head? = some (.listen st)) (hh : s.hears = some (id, frame)) :
      Polls s t [.heard id st frame]
  | leaves (st : StreamId) (hr : s.ready.head? = some (.listen st)) (hn : s.listens = none) :
      Polls s t [.left st]
  | loses (id : ClientId) (token : Token) (st : StreamId) (reason : Option String)
      (hr : s.ready.head? = some (.listen st)) (hl : s.loses = some (id, reason)) :
      Polls s t [.lost id token reason, .left st]
  | idles (task : Task) (hr : s.ready.head? = some task) (hh : s.hears = none)
      (hl : s.loses = none) : Polls s t [.idled task]
  | resumes (call : CallId) (is rest : List Incident) (hr : s.ready.head? = some (.resume call))
      (hc : Course call.client (s.opens call) is) (hp : Parting call.client t rest) :
      Polls s t (.idled (.resume call) :: (is ++ rest))

/-- The incidents that a step of the first runnable task is made of. -/
inductive OfPoll (s t : System) : Incident → Prop
  | served (st : StreamId) (frame : StreamRequest) (hr : s.ready.head? = some (.serve st)) :
      OfPoll s t (.served st frame)
  | drained (st : StreamId) : OfPoll s t (.drained st)
  | heard (id : ClientId) (st : StreamId) (frame : StreamResponse)
      (hh : s.hears = some (id, frame)) : OfPoll s t (.heard id st frame)
  | left (st : StreamId) : OfPoll s t (.left st)
  | lost (id : ClientId) (token : Token) (reason : Option String)
      (hl : s.loses = some (id, reason)) : OfPoll s t (.lost id token reason)
  | idled (task : Task) : OfPoll s t (.idled task)
  | call (K : CallId) {i : Incident} (hr : s.ready.head? = some (.resume K))
      (hi : i.OfCall K.client (s.opens K)) : OfPoll s t i
  | released (id : ClientId) (wasOpen : Bool) (hh : t.isHeld id = false) :
      OfPoll s t (.released id wasOpen)

variable {s t : System}

/-- What happens in a step of a task is of one of the kinds that can. -/
theorem Polls.ofPoll {is : List Incident} (h : Polls s t is) {i : Incident} (hi : i ∈ is) :
    s.OfPoll t i := by
  cases h with
  | rests hr => cases hi
  | serves st frame hr =>
    rw [List.mem_singleton.mp hi]
    exact .served st frame hr
  | drains st hr =>
    rw [List.mem_singleton.mp hi]
    exact .drained st
  | hears id st frame hr hh =>
    rw [List.mem_singleton.mp hi]
    exact .heard id st frame hh
  | leaves st hr hn =>
    rw [List.mem_singleton.mp hi]
    exact .left st
  | loses id token st reason hr hl =>
    simp only [List.mem_cons, List.not_mem_nil, or_false] at hi
    -- hi | hi | the task goes, then the call runs, then it lets go of its client
    rcases hi with rfl | rfl
    · exact .lost id token reason hl
    · exact .left st
  | idles task hr hh hl =>
    rw [List.mem_singleton.mp hi]
    exact .idled task
  | resumes K is rest hr hc hp =>
    simp only [List.mem_cons, List.mem_append] at hi
    rcases hi with rfl | hi | hi
    · exact .idled (.resume K)
    · exact .call K hr (hc.ofCall hi)
    · obtain ⟨hh, wasOpen, rfl⟩ := hp.released hi
      exact .released K.client wasOpen hh

/-! ### Congruences -/

/-- The same change of a stream, made after a quiet change. -/
theorem Quiet.updateStream (q : Quiet s t) (st : StreamId) (f : Stream → Stream) :
    Quiet (s.updateStream st f) (t.updateStream st f) where
  profile := q.profile
  keys := q.keys
  stream := by
    intro st'
    rw [stream_updateStream, stream_updateStream, q.stream, q.stream]
  line := q.line
  handles := q.handles
  registry := q.registry
  finished := q.finished
  ready := q.ready
  journal := q.journal
  waits := q.waits

/-- The same event, posted after a quiet change without events. -/
theorem Quiet.post (q : Quiet s t) (hj : t.journal = s.journal) (e : Event) :
    Quiet (s.post e) (t.post e) where
  profile := q.profile
  keys := q.keys
  stream := q.stream
  line := q.line
  handles := q.handles
  registry := q.registry
  finished := q.finished
  ready := q.ready
  journal := ⟨[], by simp [System.post, hj]⟩
  waits := q.waits

/-- It makes no difference whether a scope ends before the running task leaves the queue or
afterwards, except that the task may be runnable again. -/
theorem quiet_endScope (hne : s.ready ≠ []) (ready : List Task)
    (hr : ∀ task ∈ s.ready.tail, task ∈ ready) (events : List Event)
    (he : ∀ e ∈ events, e.kind = .permissionDenied) (id : ClientId) (ended : Scope StreamId) :
    Quiet (s.endScope id ended).dequeue
      (({ s with ready, journal := s.journal ++ events } : System).endScope id ended) := by
  obtain ⟨⟨new, hn, hm⟩, -⟩ := ready_endScope s id ended
  obtain ⟨⟨new', hn', -⟩, hall⟩ :=
    ready_endScope { s with ready, journal := s.journal ++ events } id ended
  have hready : ∀ task ∈ (s.endScope id ended).dequeue.ready,
      task ∈ (({ s with ready, journal := s.journal ++ events } : System).endScope id ended).ready := by
    intro task ht
    have ht' : task ∈ (s.endScope id ended).ready.tail := ht
    rw [hn, List.tail_append_of_ne_nil hne] at ht'
    rcases List.mem_append.mp ht' with hold | hnew
    · rw [hn']
      exact List.mem_append_left _ (hr task hold)
    · exact hall task (hm task hnew)
  refine quiet_of_parts ?_ ?_ ?_ ?_ ?_ ?_ hready ⟨events, ?_, he⟩
  all_goals rw [endScope_eq, dequeue, endScope_eq]
  · rfl
  · rfl

/-! ### The loss of a stream -/

/-- A status takes the channel for lost iff there is a reason to tell. -/
theorem reason?_iff {status : Status} :
    (status.code.outcome = .channelError ↔ status.reason? = some status.message) ∧
      (status.code.outcome ≠ .channelError ↔ status.reason? = none) := by
  unfold Status.reason? StatusCode.outcome
  cases status.code <;> simp

/-- The session ends in failure, and then its inbound loop does. -/
theorem leads_loseStream (hv : s.Valid) {st : StreamId} {id : ClientId} {token : Token}
    (hr : s.ready.head? = some (.listen st)) (hl : (s.stream st).listener = some (id, token))
    (hc : (s.client id).scope.isCancelled token = false) (status : Status) :
    s.Leads [.lost id token status.reason?, .left st]
      (s.dequeue.loseStream st id token status) := by
  obtain ⟨hk, hlt, -⟩ := hv.listeners st id token hl
  have ht := (hv.scopes id).current_eq_some hlt hc
  have hne : s.ready ≠ [] := by
    intro h
    rw [h] at hr
    cases hr
  -- the state in which the loop finds its session ended, and leaves
  have leaves : ∀ u : System, u.ready.head? = some (.listen st) →
      (u.stream st).listener = some (id, token) →
        (u.client id).scope.isCancelled token = true →
          u.Leads [.left st] (u.dequeue.dropListener st) :=
    fun u hr hl hc => .one (.left u id token st hr hl hc)
  have hhead : (s.failSession id token).ready.head? = some (.listen st) := by
    rw [failSession_eq ht]
    obtain ⟨⟨new, hn, -⟩, -⟩ := ready_endScope s id
      { (s.client id).scope with
        current := none, cancelled := token :: (s.client id).scope.cancelled, failed := true,
        connection := (s.client id).scope.connection.send .closed, slot := none }
    rw [hn, List.head?_append, hr]
    rfl
  have hlist : ((s.failSession id token).stream st).listener = some (id, token) := by
    rw [failSession_eq ht, stream_endScope]
    split <;> exact hl
  have hcan : ((s.failSession id token).client id).scope.isCancelled token = true := by
    rw [failSession_eq ht, client_endScope, if_pos rfl]
    simp [Scope.isCancelled]
  have quiet : ∀ events : List Event, (∀ e ∈ events, e.kind = .permissionDenied) →
      Quiet (s.failSession id token).dequeue
        (({ s with ready := s.ready.tail, journal := s.journal ++ events } : System).failSession
          id token) := by
    intro events he
    have ht' : (({ s with ready := s.ready.tail, journal := s.journal ++ events } : System).client
      id).scope.current = some token := ht
    rw [failSession_eq ht, failSession_eq ht']
    exact quiet_endScope hne s.ready.tail (fun _ h => h) events he id _
  unfold loseStream report
  dsimp only
  split
  · next ho =>
    rw [reason?_iff.2.mp (by rw [ho]; simp)]
    refine .cons (.failed s id token hk ht) ((leaves _ hhead hlist hcan).andQuiet ?_)
    exact (quiet [_] (by simp [Event.kind])).updateStream st _
  · next ho =>
    rw [reason?_iff.1.mp ho]
    refine .cons (.unavailable s id token _ hk ht)
      ((leaves ((s.failSession id token).post _) hhead hlist hcan).andQuiet ?_)
    rw [failSession_failSession (s := s.dequeue) ht]
    have q := quiet [] (by simp)
    rw [List.append_nil] at q
    have hj : (s.dequeue.failSession id token).journal = (s.failSession id token).journal := by
      rw [failSession_eq (s := s.dequeue) ht, failSession_eq ht, journal_endScope, journal_endScope]
      rfl
    exact (q.post hj _).updateStream st _
  · next ho =>
    rw [reason?_iff.2.mp (by rw [ho]; simp)]
    refine .cons (.failed s id token hk ht) ((leaves _ hhead hlist hcan).andQuiet ?_)
    have q := quiet [] (by simp)
    rw [List.append_nil] at q
    exact q.updateStream st _

/-! ### One step -/

/-- A step of an agent: it takes a frame, or finds its stream at an end, or waits. -/
theorem polls_serve {st : StreamId} (hr : s.ready.head? = some (.serve st)) :
    ∃ is, Polls s (s.serveStep st) is ∧ s.Leads is (s.serveStep st) := by
  -- an agent runs, no inbound loop
  have hn : s.listens = none := by
    unfold listens
    cases h : s.ready with
    | nil => rfl
    | cons task rest =>
      rw [h] at hr
      cases hr
      rfl
  have hh : s.hears = none := by rw [System.hears, hn]
  have hl : s.loses = none := by rw [System.loses, hn]
  unfold serveStep
  dsimp only
  split
  · next hv =>
    split
    · next frame uplink hu =>
      exact ⟨_, .serves st frame hr, .one (.served s st frame uplink hv hu)⟩
    · next hu =>
      exact ⟨_, .idles _ hr hh hl, .one (.idled s _ hr fun _ => Pipe.receive_eq_waiting.mp hu)⟩
    · next hu =>
      obtain ⟨hf, hs⟩ := Pipe.receive_eq_ended.mp hu
      exact ⟨_, .drains st hr, .one (.drained s st hr hv hf hs)⟩
  · next hv =>
    exact ⟨_, .idles _ hr hh hl, .one (.idled s _ hr fun h => absurd h hv)⟩

/-- A step of an inbound loop: it takes a frame, or finds its scope or its stream at an end, or
waits. -/
theorem polls_listen (hv : s.Valid) {st : StreamId} (hr : s.ready.head? = some (.listen st)) :
    ∃ is, Polls s (s.listenStep st) is ∧ s.Leads is (s.listenStep st) := by
  obtain ⟨rest, hready⟩ : ∃ rest, s.ready = .listen st :: rest := by
    cases h : s.ready with
    | nil =>
      rw [h] at hr
      cases hr
    | cons task rest =>
      rw [h] at hr
      cases hr
      exact ⟨rest, rfl⟩
  -- The same tests decide what the step does and what the history says of it: each case fixes the
  -- outcome of `listens` first.
  unfold listenStep
  dsimp only
  split
  · next hn =>
    have hnone : s.listens = none := by
      unfold listens
      rw [hready]
      simp only [hn]
    refine ⟨_, .idles _ hr ?_ ?_, .one (.idled s _ hr fun id token h => ?_)⟩
    · rw [System.hears, hnone]
    · rw [System.loses, hnone]
    · rw [hn] at h
      cases h
  · next id token hl =>
    split
    · next hc =>
      have hnone : s.listens = none := by
        unfold listens
        rw [hready]
        simp only [hl, if_pos hc]
      exact ⟨_, .leaves st hr hnone, .one (.left s id token st hr hl hc)⟩
    · next hc =>
      have hc' : (s.client id).scope.isCancelled token = false := by simpa using hc
      have hsome : s.listens = some (id, token, (s.stream st).downlink.receive) := by
        unfold listens
        rw [hready]
        simp only [hl, if_neg hc]
      split
      · next frame downlink hd =>
        refine ⟨_, .hears id st frame hr ?_, .one (.heard s id token st frame downlink hl hc' hd)⟩
        rw [System.hears, hsome, hd]
      · next status downlink hd =>
        refine ⟨_, .loses id token st status.reason? hr ?_, leads_loseStream hv hr hl hc' status⟩
        rw [System.loses, hsome, hd]
      · next hd =>
        refine ⟨_, .idles _ hr ?_ ?_, .one (.idled s _ hr ?_)⟩
        · rw [System.hears, hsome, hd]
        · rw [System.loses, hsome, hd]
        · intro id' token' h
          rw [hl] at h
          cases h
          exact ⟨hc', Pipe.receive_eq_waiting.mp hd⟩
      · next hd =>
        refine ⟨_, .loses id token st (some "stream closed by server") hr ?_,
          leads_loseStream hv hr hl hc' streamEnded⟩
        rw [System.loses, hsome, hd]

/-- The first runnable task takes one step. -/
theorem leads_poll (hv : s.Valid) : ∃ is, Polls s s.poll is ∧ s.Leads is s.poll := by
  unfold poll
  split
  · next h => exact ⟨[], .rests h, .refl s⟩
  · next st rest h => exact polls_serve (by rw [h]; rfl)
  · next st rest h => exact polls_listen hv (by rw [h]; rfl)
  · next call rest h =>
    have hr : s.ready.head? = some (.resume call) := by rw [h]; rfl
    have hd : Happens s (.idled (.resume call)) s.dequeue := .idled s _ hr trivial
    obtain ⟨is, parting, hc, hp, hl⟩ := plays_resume (hd.valid hv) call
    exact ⟨_, .resumes call is parting hr hc hp, .cons hd hl⟩

end System

end P4Control
