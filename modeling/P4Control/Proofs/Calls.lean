import P4Control.Proofs.Course

namespace P4Control

/-!
# The calls, one by one

Every call on a client, when it is made and each time it goes on, runs one of the courses.

* `ReadStream.next_running` — what a read stream that can still be read looks like.
* `plays_openSession`, `plays_setPipelineConfig`, `plays_isPipelineConfigSet`, `plays_read`,
  `plays_openRead`, `plays_readNext`, `plays_write` — the calls.
* `plays_resume` — a waiting call goes on.
-/

/-! ### Read streams -/

namespace ReadStream

/-- A stream that has failed cannot be read any more. -/
theorem fetch_failed {held : Bool} {chunks : List (Arrival (List Entity))} {status : Status}
    (h : (fetch held chunks).1 = .failed status) : (fetch held chunks).2 = broken := by
  induction chunks with
  | nil =>
    unfold fetch at h
    split at h <;> cases h
  | cons chunk rest ih =>
    cases chunk with
    | item es =>
      cases es with
      | nil => exact ih h
      | cons e es => cases h
    | failure status => rfl

/-- Only a stream that could be read can be read afterwards. -/
theorem next_running {r : ReadStream} {cancelled : Bool}
    (h : (r.next cancelled).2.phase = .running) : r.phase = .running := by
  unfold next at h
  split at h
  · next hp => exact hp
  · cases h
  · cases h

/-- A stream waits for its switch only while its session lasts. -/
theorem next_waiting {r : ReadStream} {cancelled : Bool} (h : (r.next cancelled).1 = .waiting) :
    r.phase = .running := by
  unfold next at h
  split at h
  · next hp => exact hp
  · cases h
  · cases h

/-- A stream fails by its switch only while its session lasts, and cannot be read any more. -/
theorem next_failed {r : ReadStream} {cancelled : Bool} {status : Status}
    (h : (r.next cancelled).1 = .failed status) :
    r.phase = .running ∧ cancelled = false ∧ (r.next cancelled).2 = broken := by
  unfold next at h ⊢
  split at h
  · next hp =>
    split at h
    · cases h
    · next hf =>
      split at h
      · cases h
      · next hc =>
        rw [if_neg hc]
        exact ⟨hp, by simpa using hc, fetch_failed h⟩
  · cases h
  · cases h

end ReadStream

namespace System

variable {s : System}

/-! ### Making a call -/

theorem quiet_newCall {id : ClientId} (hk : s.Knows id) : Quiet s (s.newCall id).1 := by
  have q : Quiet s (s.updateClient id fun c => { c with made := c.made + 1 }) :=
    quiet_updateClient hk rfl fun _ hc => .inl hc
  exact q

/-! ### Opening the session -/

/-- Setting up a stream with the agent is a call to the agent; a fault may prevent it. -/
theorem attachStream_cases (s : System) (name : SwitchName) (capacity : Option Nat) :
    ∃ agent, (s.switch name).agent.SameRole agent ∧
      ((∃ status, s.attachStream name capacity =
          (s.updateSwitch name fun w => { w with agent }, .refused status)) ∨
        s.attachStream name capacity = (s.updateSwitch name fun w => { w with agent }, .silence) ∨
        ∃ t st, (s.updateSwitch name fun w => { w with agent }).connect name capacity = (t, st) ∧
          s.attachStream name capacity = (t, .reply st)) := by
  have hr := (s.switch name).agent.sameRole_enter .streamChannel
  simp only [attachStream]
  generalize (s.switch name).agent.enter .streamChannel = entered at hr
  obtain ⟨agent, fault⟩ := entered
  refine ⟨agent, hr, ?_⟩
  cases fault with
  | none => exact .inr (.inr ⟨_, _, rfl, rfl⟩)
  | some fault =>
    cases fault with
    | fail status => exact .inl ⟨status, rfl⟩
    | stall => exact .inr (.inl rfl)

/-- Beginning a scope has nothing to do with the switches. -/
theorem beginScope_updateSwitch (id : ClientId) (begun : Scope StreamId) (n : SwitchName)
    (f : Switch → Switch) :
    (s.beginScope id begun).updateSwitch n f = (s.updateSwitch n f).beginScope id begun := rfl

/-- A session opens on a new stream in the scope begun for it. -/
theorem plays_goLive {id : CallId} {token : Token} {afterFailure : Bool} {begun : Scope StreamId}
    {st : StreamId} {t : System} (hk : s.Knows id.client)
    (hb : (s.client id.client).scope.begin = some (token, afterFailure, begun))
    (hs : SameClients (s.beginScope id.client begun) t)
    (ho : ∀ activated, begun.activate token st = some activated →
      s.Leads [.opened id.client token afterFailure st]
        (t.goLive id.client token afterFailure activated st)) :
    s.Plays id.client true (t.activateSession id token afterFailure st) := by
  have hc : (t.client id.client).scope = begun := by
    rw [hs.client, client_beginScope, if_pos rfl]
  have hkt : t.Knows id.client := by
    rw [hs.knows, knows_beginScope hk]
    exact hk
  -- the scope that has just begun is in place, so it can be activated
  have ha : begun.activate token st =
      some { begun with connection := begun.connection.send .open, slot := some st } := by
    obtain ⟨-, rfl, -, rfl⟩ := Scope.begin_eq_some hb
    unfold Scope.activate Scope.isCurrent
    simp
  unfold activateSession
  simp only [hc, ha]
  refine plays_told [.opened id.client token afterFailure st] ⟨id, .returned .done, none⟩ .request
    (.opens token afterFailure st _ rfl rfl rfl) (ho _ ha) ?_ (by simp)
  unfold Knows
  rwa [keys_goLive hkt]

/-- The scope begun for a session fails at once. -/
theorem plays_collapse {id : CallId} {token : Token} {afterFailure : Bool} {begun : Scope StreamId}
    {failure : Failure} (hk : s.Knows id.client)
    (hb : (s.client id.client).scope.begin = some (token, afterFailure, begun))
    (hl : Lost token failure) :
    s.Plays id.client true ((s.beginScope id.client begun).failCall id .openStream token failure) := by
  have hkb : (s.beginScope id.client begun).Knows id.client := (knows_beginScope hk _ _).mpr hk
  have hcur : ((s.beginScope id.client begun).client id.client).scope.current = some token := by
    rw [client_beginScope, if_pos rfl]
    obtain ⟨-, rfl, -, rfl⟩ := Scope.begin_eq_some hb
    rfl
  obtain ⟨f, t, he, rfl, hn, hkt, hs, ho⟩ :=
    failCall_of_current .openStream hkb hcur hl
  obtain ⟨reason, hr⟩ := Option.isSome_iff_exists.mp (ho rfl)
  rw [show (decide (Operation.openStream = .openStream)) = true from rfl, hr] at hs
  rw [he]
  exact plays_told [.began _ token afterFailure, .lost _ token reason] f .request
    (.collapses token afterFailure reason f rfl rfl hr)
    (.cons (.began s _ token afterFailure begun hk hb) hs) hkt (by simp [hn])

/-- The scope begun for a session waits for its stream. -/
theorem plays_begins {id : CallId} {token : Token} {afterFailure : Bool} {begun : Scope StreamId}
    {limit deadline : Duration} (hk : s.Knows id.client)
    (hb : (s.client id.client).scope.begin = some (token, afterFailure, begun)) :
    s.Plays id.client true
      (((s.beginScope id.client begun).suspend id .request
        (.answer .openStream token limit deadline)).setTimer ⟨deadline, id⟩) := by
  refine ⟨[.began id.client token afterFailure], [], .begins token afterFailure rfl, .stays, ?_⟩
  refine .cons (.began s id.client token afterFailure begun hk hb) (.of_quiet ?_)
  refine (quiet_suspend id .request ((knows_beginScope hk _ _).mpr hk) ?_).trans (quiet_setTimer _)
  intro token' ht
  cases ht
  rw [client_beginScope, if_pos rfl]
  obtain ⟨-, rfl, -, rfl⟩ := Scope.begin_eq_some hb
  exact Nat.lt_succ_self _

/-- A call that opens the session sets it up when it has its turn. -/
theorem plays_setUp (id : CallId) (hk : s.Knows id.client) :
    s.Plays id.client true (s.setUp id) := by
  unfold setUp
  dsimp only
  split
  · exact plays_complete _ hk rfl
  · next token afterFailure begun hb =>
    unfold openStream
    split
    · -- the agent's own stream; asking for it concerns no session, so it may come first
      obtain ⟨agent, hr, hcase⟩ := attachStream_cases (s.beginScope id.client begun)
        (s.client id.client).switch (some (max (s.client id.client).config.queueCapacity 1))
      have q : Quiet s (s.updateSwitch (s.client id.client).switch fun w => { w with agent }) :=
        quiet_updateSwitch (Switch.line_eq hr rfl rfl rfl)
      refine Plays.after q ?_
      have hk' := (q.knows id.client).mpr hk
      have hb' := hb
      rw [← q.scope id.client] at hb'
      have hsw := q.switch id.client
      have hconf : (System.client _ id.client).config = (s.client id.client).config :=
        congrArg Profile.config (q.profile id.client)
      rw [beginScope_updateSwitch] at hcase
      generalize s.updateSwitch (s.client id.client).switch _ = s' at hk' hb' hsw hconf hcase ⊢
      rcases hcase with ⟨status, he⟩ | he | ⟨t, st, hc, he⟩
      · simp only [he, await]
        exact plays_collapse hk' hb' (.refused status)
      · simp only [he, await]
        split
        · exact plays_collapse hk' hb' (.timedOut _)
        · exact plays_begins hk' hb'
      · simp only [he, await]
        exact plays_goLive hk' hb' (PassesBy.of_connect hc).clients fun activated ha => .one
          (.opened s' id.client token afterFailure begun activated
            (some (max (s.client id.client).config.queueCapacity 1)) t st hk' hb' (hsw ▸ hc) ha
            (by rw [hconf]))
    · next script rest hs =>
      refine plays_goLive hk hb (sameClients_playScript _ _ _ _ _) fun activated ha => .one
        (.played s id.client token afterFailure begun activated _ script rest _ _ hk hb hs rfl ha rfl)

/-- Opens the session of a client, at once or when its turn has come. -/
theorem plays_openSession {id : ClientId} (hk : s.Knows id) :
    s.Plays id true (s.openSession id).1 := by
  have hn := quiet_newCall hk
  have q : Quiet (s.newCall id).1 ((s.newCall id).1.updateClient id fun c =>
      { c with turns := c.turns ++ [(s.newCall id).2.serial] }) :=
    quiet_updateClient ((hn.knows id).mpr hk) rfl fun _ hc => .inl hc
  have hk' := (q.knows id).mpr ((hn.knows id).mpr hk)
  refine Plays.after (hn.trans q) ?_
  unfold openSession
  dsimp only
  split
  · exact plays_setUp (s.newCall id).2 hk'
  · exact .of_quiet (quiet_suspend (s.newCall id).2 _ hk' (by intro token ht; cases ht))

/-! ### The forwarding program -/

theorem plays_setPipelineConfig {id : ClientId} (hv : s.Valid) (hk : s.Knows id)
    (conf : Pipeconf) (deviceData : Bytes) :
    s.Plays id false (s.setPipelineConfig id conf deviceData).1 := by
  have hn := quiet_newCall hk
  have hk' := (hn.knows id).mpr hk
  refine Plays.after hn ?_
  unfold setPipelineConfig
  dsimp only
  split
  · exact plays_complete (s.newCall id).2 hk' rfl
  · dsimp only
    refine plays_inSession (s.newCall id).2 hk' fun token ht => ?_
    exact plays_ask rfl (Switch.line_setPipeline _ _) (hn.valid hv) hk'
      (Scope.current_of_openToken? ht)
      fun t _ _ hkt _ => plays_complete _ hkt rfl

/-- A call asks for the program of the switch and goes on with it, whatever it is. -/
theorem plays_queryPipeline (call : CallId) {view : PipelineView}
    {goOn : System → Option PipelineConfig → System} (hv : s.Valid) (hk : s.Knows call.client)
    (hg : ∀ (t : System) config, t.Valid → t.Knows call.client →
      t.Plays call.client false (goOn t config)) :
    s.Plays call.client false (s.queryPipeline call view goOn) := by
  unfold queryPipeline
  refine plays_inSession call hk fun token ht => ?_
  exact plays_ask rfl (Switch.line_getPipeline _ _) hv hk (Scope.current_of_openToken? ht)
    fun t config hvt hkt _ => hg t config hvt hkt

theorem plays_isPipelineConfigSet {id : ClientId} (hv : s.Valid) (hk : s.Knows id)
    (conf : Pipeconf) (deviceData : Bytes) :
    s.Plays id false (s.isPipelineConfigSet id conf deviceData).1 := by
  have hn := quiet_newCall hk
  have answer : ∀ (t : System) (b : Bool), t.Knows id →
      t.Plays id false (t.complete (s.newCall id).2 (.returned (.answer b))) :=
    fun t b hk => plays_complete (s.newCall id).2 hk rfl
  refine Plays.after hn ?_
  unfold isPipelineConfigSet
  dsimp only
  refine plays_queryPipeline (s.newCall id).2 (hn.valid hv) ((hn.knows id).mpr hk) ?_
  intro t config hvt hkt
  split
  · exact answer t _ hkt
  · split
    · exact answer t _ hkt
    · split
      · exact answer t _ hkt
      · -- without a cookie the program itself is asked for
        refine plays_queryPipeline (s.newCall id).2 hvt hkt ?_
        intro u config' hvu hku
        split <;> exact answer u _ hku

/-! ### The entity table -/

/-- A read is submitted and goes on in the scope of the open session. -/
theorem plays_submitRead (call : CallId) {request : ReadRequest}
    {goOn : System → Token → ReadStream → System} (hv : s.Valid) (hk : s.Knows call.client)
    (hg : ∀ (t : System) token stream, t.Valid → t.Knows call.client →
      (t.client call.client).scope.openToken? = some token →
        t.Plays call.client false (goOn t token stream))
    (he : ∀ error, request.error = some error → (CallResult.failed error).loss false = none) :
    s.Plays call.client false (s.submitRead call request goOn) := by
  unfold submitRead
  dsimp only
  split
  · next error h => exact plays_complete _ hk (he error h)
  · refine plays_inSession call hk fun token ht => ?_
    split
    · exact hg s token _ hv hk ht
    · exact plays_ask rfl (Switch.line_read _ _) hv hk (Scope.current_of_openToken? ht)
        fun t reply hvt hkt hs => hg t token _ hvt hkt (by rw [hs, ht])

theorem plays_read {id : ClientId} (hv : s.Valid) (hk : s.Knows id) (request : ReadRequest)
    (he : ∀ error, request.error = some error → (CallResult.failed error).loss false = none) :
    s.Plays id false (s.read id request).1 := by
  have hn := quiet_newCall hk
  refine Plays.after hn ?_
  unfold read
  dsimp only
  refine plays_submitRead (s.newCall id).2 (hn.valid hv) ((hn.knows id).mpr hk) ?_ he
  intro t token stream hvt hkt hopen
  have ht := Scope.current_of_openToken? hopen
  split
  · exact plays_failCall (s.newCall id).2 rfl hkt ht (.refused _)
  · exact plays_cancelled (s.newCall id).2 hkt (by simp)
  · refine .of_quiet (quiet_suspend (s.newCall id).2 _ hkt ?_)
    intro token' h
    cases h
    exact (hvt.scopes id).lt_begun ht
  · exact plays_complete (s.newCall id).2 hkt rfl

theorem plays_openRead {id : ClientId} (hv : s.Valid) (hk : s.Knows id) (request : ReadRequest)
    (he : ∀ error, request.error = some error → (CallResult.failed error).loss false = none) :
    s.Plays id false (s.openRead id request).1 := by
  have hn := quiet_newCall hk
  refine Plays.after hn ?_
  unfold openRead
  dsimp only
  refine plays_submitRead (s.newCall id).2 (hn.valid hv) ((hn.knows id).mpr hk) ?_ he
  intro t token stream hvt hkt ht
  have hopened : (t.client id).scope.Opened token :=
    ⟨(hvt.scopes id).lt_begun (Scope.current_of_openToken? ht),
      fun _ => (hvt.scopes id).isOpen_iff.mp (Scope.isOpen_of_openToken? ht)⟩
  exact plays_completeWith (s.newCall id).2 hkt ⟨hkt, fun _ => hopened⟩

/-- A call that takes from a read stream concerns the session of the stream. -/
theorem plays_readNext {cursor : ReadCursor} (hv : s.Valid) (hc : s.Holds cursor) :
    s.Plays cursor.client false (s.readNext cursor).1 := by
  have hn := quiet_newCall hc.1
  have hk' := (hn.knows cursor.client).mpr hc.1
  have hvn := hn.valid hv
  have hopened : cursor.stream.phase = .running →
      ((s.newCall cursor.client).1.client cursor.client).scope.Opened cursor.token := by
    rw [hn.scope]
    exact hc.2
  refine Plays.after hn ?_
  unfold readNext
  dsimp only
  generalize (s.newCall cursor.client).1 = t at *
  -- The stream is read before anything else, and its answer says which of five ways the call goes.
  generalize hb : (t.client cursor.client).scope.isCancelled cursor.token = cancelled
  have hleft : t.Holds { cursor with stream := (cursor.stream.next cancelled).2 } :=
    ⟨hk', fun hp => hopened (ReadStream.next_running hp)⟩
  split
  · exact plays_completeNext (s.newCall cursor.client).2 hk' rfl hleft
  · exact plays_completeNext (s.newCall cursor.client).2 hk' rfl hleft
  · next hw =>
    refine .of_quiet (quiet_suspend (s.newCall cursor.client).2 _ hk' ?_)
    intro token ht
    cases ht
    exact (hopened (ReadStream.next_waiting hw)).1
  · exact plays_completeNext (s.newCall cursor.client).2 hk' rfl hleft
  · next status hf =>
    obtain ⟨hp, rfl, hbroken⟩ := ReadStream.next_failed hf
    have ht := (hvn.scopes cursor.client).current_eq_some (hopened hp).1 hb
    have holds : ∀ u : System, u.Knows cursor.client →
        u.Holds { cursor with stream := (cursor.stream.next false).2 } := by
      intro u hku
      refine ⟨hku, fun hp' => ?_⟩
      rw [hbroken] at hp'
      cases hp'
    -- A stream that breaks off fails the session as well when the status says that nobody is there.
    rcases t.report_of_current cursor.client (Lost.refused (t := cursor.token) status) .read with
      ⟨reason, device, hr⟩ | ⟨reported, error, hr, hq, he⟩
    · simp only [hr]
      have hku := knows_failSession hk' cursor.token hk'
      refine plays_told [.lost cursor.client cursor.token (some reason)]
        ⟨(s.newCall cursor.client).2, .failed (.transportUnavailable device reason), some _⟩ .next
        (.ends cursor.token _ rfl) (.one (.unavailable t _ cursor.token reason hk' ht)) hku ?_
      intro r hr'
      cases hr'
      exact holds _ hku
    · simp only [hr]
      have hku := (hq.knows cursor.client).mpr hk'
      exact .after hq (plays_completeNext (s.newCall cursor.client).2 hku (he false)
        (holds _ hku))

theorem plays_write {id : ClientId} (hv : s.Valid) (hk : s.Knows id) (request : WriteRequest)
    (he : ∀ error, request.error = some error → (CallResult.failed error).loss false = none) :
    s.Plays id false (s.write id request).1 := by
  have hn := quiet_newCall hk
  have hk' := (hn.knows id).mpr hk
  refine Plays.after hn ?_
  unfold write
  dsimp only
  split
  · next error h => exact plays_complete (s.newCall id).2 hk' (he error h)
  · dsimp only
    refine plays_inSession (s.newCall id).2 hk' fun token ht => ?_
    split
    · exact plays_complete _ hk' rfl
    · refine plays_ask rfl (Switch.line_write _ _) (hn.valid hv) hk'
        (Scope.current_of_openToken? ht) ?_
      intro t statuses hvt hkt htt
      split <;> exact plays_complete _ hkt rfl

/-! ### Waiting calls -/

/-- Whether the pending call opens the session. -/
def opens (s : System) (id : CallId) : Bool := (s.call? id).any fun call => call.wait.opens

/-- A call is pending on a client that exists. -/
theorem knows_of_call? {id : CallId} {call : Call} (h : s.call? id = some call) :
    s.Knows id.client := by
  by_cases hk : s.Knows id.client
  · exact hk
  · unfold call? at h
    rw [client_eq_default hk] at h
    cases h

/-- A waiting call goes on, if it can. -/
theorem plays_resume (hv : s.Valid) (id : CallId) :
    s.Plays id.client (s.opens id) (s.resume id) := by
  unfold resume opens
  dsimp only
  split
  · exact .of_quiet (.refl s)
  · next call h =>
    have hk := knows_of_call? h
    have hm : call ∈ (s.client id.client).calls := List.mem_of_find?_eq_some h
    rw [h]
    obtain ⟨serial, kind, wait⟩ := call
    dsimp only [Option.any]
    -- A call that may not go on is left as it is; it was woken for nothing.
    cases wait with
    | turn =>
      dsimp only
      split
      · exact plays_setUp id hk
      · exact .of_quiet (.refl s)
    | answer operation token limit deadline =>
      dsimp only
      split
      · next hc => exact plays_cancelled id hk fun _ => (hv.scopes id.client).current_ne hc
      · next hc =>
        split
        · have ht := (hv.scopes id.client).current_eq_some (hv.waits id.client _ hm token rfl)
            (by simpa using hc)
          exact plays_failCall id rfl hk ht (.timedOut limit)
        · exact .of_quiet (.refl s)
    | chunk token =>
      dsimp only
      split
      · cases kind with
        | request => exact plays_complete id hk rfl
        | next => exact plays_completeNext id hk rfl ⟨hk, fun h => by cases h⟩
      · exact .of_quiet (.refl s)

end System

end P4Control
