import P4Control.Proofs.PartyEffects

namespace P4Control.System

/-!
# The calls and tasks of one party

A call of a party, and every step of one of its tasks, goes as it would without the others.

* `retire`, `complete`, `failCall`, `await`, `inSession` — the life of a call.
* `setUp`, `openSession`, `setPipelineConfig`, `read`, `write`, … — the calls.
* `resume`, `listenFrame`, `loseStream` — what the tasks of a party do.
-/

variable {Party : Type} [DecidableEq Party] {ω : Allotment Party} {p : Party} {s t u : System}

namespace Beside

variable (h : Beside ω p s t u)

include h

/-- The clock is shared. -/
theorem now_eq : u.now = t.now := by
  rw [← h.own]
  rfl

variable {id : ClientId} {K : CallId} {n : SwitchName}

/-- A party finds its pending calls. -/
theorem call?_eq (hid : ω.client K.client = p) : u.call? K = t.call? K := by
  unfold call?
  rw [h.client_eq hid]

/-! ### The life of a call -/

/-- A new call gets the same number beside others as it gets alone. -/
theorem newCall (hid : ω.client id = p) (hk : s.Knows id) :
    Beside ω p s (t.newCall id).1 (u.newCall id).1 ∧ (u.newCall id).2 = (t.newCall id).2 := by
  unfold System.newCall
  rw [h.client_eq hid]
  exact ⟨h.changeClient hid hk (f := fun c => { c with made := c.made + 1 }) fun _ => ⟨rfl, rfl, rfl⟩,
    rfl⟩

/-- A call begins to wait. -/
theorem suspend (hid : ω.client K.client = p) (hk : s.Knows K.client) (kind : CallKind) (wait : Wait) :
    Beside ω p s (t.suspend K kind wait) (u.suspend K kind wait) := by
  refine h.changeClient hid hk fun c => ?_
  split <;> exact ⟨rfl, rfl, rfl⟩

/-- A call leaves the line of those that open the session, and the next one is woken, which is of
the same client. -/
theorem leaveLine (hid : ω.client K.client = p) (hk : s.Knows K.client) :
    Beside ω p s (t.leaveLine K) (u.leaveLine K) := by
  have hleft : Beside ω p s
      (t.updateClient K.client fun c => { c with turns := (t.client K.client).turns.erase K.serial })
      (u.updateClient K.client fun c => { c with turns := (t.client K.client).turns.erase K.serial }) :=
    h.changeClient hid hk fun _ => ⟨rfl, rfl, rfl⟩
  unfold System.leaveLine
  dsimp only
  rw [h.client_eq hid]
  split
  · split
    · exact hleft.wake hid
    · exact hleft
  · exact hleft

/-- A call ends: it leaves the line, the pending calls and the timers, and lets go of its client. -/
theorem retire (hid : ω.client K.client = p) (hk : s.Knows K.client) (kind : CallKind) :
    Beside ω p s (t.retire K kind) (u.retire K kind) := by
  -- the call goes out of the line, then out of the pending calls, and its timers stop
  have hleft := (h.leaveLine hid hk).changeClient hid hk (f := fun c =>
    { c with calls := c.calls.filter fun call => decide (call.serial ≠ K.serial) })
    fun _ => ⟨rfl, rfl, rfl⟩
  have hstop := hleft.stopTimers hid
  cases kind with
  | request => exact hstop.release hid hk
  | next => exact hstop

/-- A call ends with a result, which carries no read stream. -/
theorem complete (hid : ω.client K.client = p) (hk : s.Knows K.client) (result : CallResult) :
    Beside ω p s (t.complete K result) (u.complete K result) := by
  refine Beside.retire ?_ hid hk .request
  exact h.record hid fun r hr => by cases hr

/-- A call hands its read stream over, which belongs to the client of the call. -/
theorem completeWith (hid : ω.client K.client = p) (hk : s.Knows K.client) {cursor : ReadCursor}
    (hc : cursor.client = K.client) :
    Beside ω p s (t.completeWith K cursor) (u.completeWith K cursor) := by
  refine Beside.retire ?_ hid hk .request
  exact h.record hid fun r hr => by rw [← Option.some.inj hr, hc, hid]

/-- A call gives the read stream back that it has taken from. -/
theorem completeNext (hid : ω.client K.client = p) (hk : s.Knows K.client) (result : CallResult)
    {cursor : ReadCursor} (hc : cursor.client = K.client) :
    Beside ω p s (t.completeNext K result cursor) (u.completeNext K result cursor) := by
  refine Beside.retire ?_ hid hk .next
  exact h.record hid fun r hr => by rw [← Option.some.inj hr, hc, hid]

/-- A failed call says the same, and takes down the same session. -/
theorem failCall (hid : ω.client K.client = p) (hk : s.Knows K.client) (operation : Operation)
    (token : Token) (failure : Failure) :
    Beside ω p s (t.failCall K operation token failure) (u.failCall K operation token failure) := by
  obtain ⟨hr, he⟩ := h.report hid hk operation failure
  unfold System.failCall
  dsimp only
  rw [he]
  split
  · exact (hr.failSession hid hk token).complete hid hk _
  · exact hr.complete hid hk _

/-- A call goes on with the answer to it, or waits for it until the same deadline.  What it goes on
with need only be the same where there is an answer. -/
theorem await {α : Type} (hid : ω.client K.client = p) (hk : s.Knows K.client) (operation : Operation)
    (token : Token) (limit : Duration) (answer : Answer α)
    {goOn goOn' : System → α → System}
    (hg : ∀ a, answer = .reply a → Beside ω p s (goOn t a) (goOn' u a)) :
    Beside ω p s (t.await K operation token limit answer goOn)
      (u.await K operation token limit answer goOn') := by
  unfold System.await
  split
  · exact hg _ rfl
  · exact h.failCall hid hk _ _ _
  · split
    · exact h.failCall hid hk _ _ _
    · dsimp only
      rw [h.now_eq]
      exact (h.suspend hid hk _ _).setTimer hid

/-- A call goes on in the open session, or fails. -/
theorem inSession (hid : ω.client K.client = p) (hk : s.Knows K.client)
    {goOn goOn' : System → Token → System} (hg : ∀ token, Beside ω p s (goOn t token) (goOn' u token)) :
    Beside ω p s (t.inSession K goOn) (u.inSession K goOn') := by
  unfold System.inSession
  rw [h.client_eq hid]
  split
  · exact hg _
  · exact h.complete hid hk _

/-! ### Opening the session -/

/-- A scope begins.  Its slot is the one that was there before, so no stream of another party gets
in. -/
theorem beginScope (hid : ω.client id = p) (hk : s.Knows id) {begun : Scope StreamId}
    (hs : begun.slot = (t.client id).scope.slot) :
    Beside ω p s (t.beginScope id begun) (u.beginScope id begun) := by
  refine h.updateClient hid hk ⟨rfl, rfl⟩ fun st hst => h.slot hid hk (hs ▸ hst)

/-- The session opens on a stream of the party. -/
theorem goLive (hid : ω.client id = p) (hk : s.Knows id) (token : Token) (afterFailure : Bool)
    {activated : Scope StreamId} {st : StreamId} (hst : ω.stream st = p)
    (hs : activated.slot = some st) :
    Beside ω p s (t.goLive id token afterFailure activated st)
      (u.goLive id token afterFailure activated st) := by
  unfold System.goLive
  dsimp only
  rw [h.client_eq hid]
  refine Beside.wake ?_ hst
  refine Beside.updateStream ?_ hst fun id' token' hl => by cases hl; exact hid
  refine Beside.post ?_ (by split <;> exact h.device hid hk)
  exact h.updateClient hid hk ⟨rfl, rfl⟩ fun st' hs' => by
    rw [hs] at hs'
    exact Option.some.inj hs' ▸ hst

/-- A call opens the session on its stream, or gives the stream back if the scope has ended. -/
theorem activateSession (hid : ω.client K.client = p) (hk : s.Knows K.client) (token : Token)
    (afterFailure : Bool) {st : StreamId} (hst : ω.stream st = p) :
    Beside ω p s (t.activateSession K token afterFailure st)
      (u.activateSession K token afterFailure st) := by
  unfold System.activateSession
  dsimp only
  rw [h.client_eq hid]
  split
  · exact ((h.dropUplink hst).dropListener hst).complete hid hk _
  · next scope ha =>
    obtain ⟨-, rfl⟩ := Scope.activate_eq_some ha
    exact (h.goLive hid hk token afterFailure hst rfl).complete hid hk _

omit h in
/-- The stream that is set up with the agent of a switch is one of its streams. -/
theorem switch_of_attachStream {capacity : Option Nat} {st : StreamId}
    (ha : (t.attachStream n capacity).2 = .reply st) : st.switch = n := by
  unfold System.attachStream at ha
  dsimp only at ha
  split at ha
  · cases ha
  · cases ha
  · cases ha
    rfl

omit h in
/-- So is the stream that is set up by a script. -/
theorem switch_of_openStream {capacity : Option Nat} {st : StreamId}
    (ha : (t.openStream n capacity).2 = .reply st) : st.switch = n := by
  unfold System.openStream at ha
  split at ha
  · exact switch_of_attachStream ha
  · cases ha
    rfl

/-- A call whose turn it is finds the session open, or has a stream set up by a switch of the party.
-/
theorem setUp (hid : ω.client K.client = p) (hk : s.Knows K.client) :
    Beside ω p s (t.setUp K) (u.setUp K) := by
  unfold System.setUp
  dsimp only
  rw [h.client_eq hid]
  split
  · exact h.complete hid hk _
  · next token afterFailure begun hb =>
    -- the stream that is set up is one of the client's own switch
    have hs : begun.slot = (t.client K.client).scope.slot := by rw [(Scope.begin_eq_some hb).2.2.2]
    have hn := h.switch hid hk
    obtain ⟨ho, ha⟩ := (h.beginScope hid hk hs).openStream hn
      (some (max (t.client K.client).config.queueCapacity 1))
    rw [ha]
    refine ho.await hid hk _ _ _ _ fun st hst => ?_
    exact ho.activateSession hid hk _ _ (by rw [Allotment.stream, switch_of_openStream hst, hn])

/-- Opens the session of a client. -/
theorem openSession (hid : ω.client id = p) (hk : s.Knows id) :
    Beside ω p s (t.openSession id).1 (u.openSession id).1 ∧
      (u.openSession id).2 = (t.openSession id).2 := by
  obtain ⟨hn, hcall⟩ := h.newCall hid hk
  have hline : ∀ n, Beside ω p s
      ((t.newCall id).1.updateClient id fun c => { c with turns := c.turns ++ [n] })
      ((u.newCall id).1.updateClient id fun c => { c with turns := c.turns ++ [n] }) :=
    fun n => hn.changeClient hid hk fun _ => ⟨rfl, rfl, rfl⟩
  unfold System.openSession
  dsimp only
  rw [hcall, hn.client_eq hid]
  refine ⟨?_, rfl⟩
  split
  · exact (hline _).setUp hid hk
  · exact (hline _).suspend hid hk _ _

/-! ### The forwarding program -/

/-- A call that the client makes on its switch. -/
theorem relay {α : Type} (hid : ω.client K.client = p) (hk : s.Knows K.client)
    (hn : ω.switch n = p) (operation : Operation) (token : Token) (limit : Duration)
    (f : Switch → Switch × Answer α) {goOn goOn' : System → α → System}
    (hg : ∀ t' u' a, Beside ω p s t' u' → Beside ω p s (goOn t' a) (goOn' u' a)) :
    Beside ω p s
      ((t.updateSwitch n fun _ => (f (t.switch n)).1).await K operation token limit (f (t.switch n)).2
        goOn)
      ((u.updateSwitch n fun _ => (f (u.switch n)).1).await K operation token limit (f (u.switch n)).2
        goOn') := by
  have hu := h.updateSwitch hn fun _ => (f (t.switch n)).1
  rw [h.switch_eq hn]
  exact hu.await hid hk _ _ _ _ fun a _ => hg _ _ a hu

/-- A program is pushed. -/
theorem setPipelineConfig (hid : ω.client id = p) (hk : s.Knows id) (conf : Pipeconf)
    (deviceData : Bytes) :
    Beside ω p s (t.setPipelineConfig id conf deviceData).1 (u.setPipelineConfig id conf deviceData).1 ∧
      (u.setPipelineConfig id conf deviceData).2 = (t.setPipelineConfig id conf deviceData).2 := by
  obtain ⟨hn, hcall⟩ := h.newCall hid hk
  unfold System.setPipelineConfig
  dsimp only
  rw [hcall, hn.client_eq hid]
  split
  · exact ⟨hn.complete hid hk _, rfl⟩
  · next p4info _ =>
    refine ⟨?_, rfl⟩
    dsimp only
    refine hn.inSession hid hk fun token => ?_
    exact hn.relay hid hk (hn.switch hid hk) _ _ _ (·.setPipeline _)
      fun t' u' _ h' => h'.complete hid hk _

/-- The switch is asked for its program. -/
theorem queryPipeline (hid : ω.client K.client = p) (hk : s.Knows K.client) (view : PipelineView)
    {goOn goOn' : System → Option PipelineConfig → System}
    (hg : ∀ t' u' a, Beside ω p s t' u' → Beside ω p s (goOn t' a) (goOn' u' a)) :
    Beside ω p s (t.queryPipeline K view goOn) (u.queryPipeline K view goOn') := by
  unfold System.queryPipeline
  dsimp only
  rw [h.client_eq hid]
  exact h.inSession hid hk fun token => h.relay hid hk (h.switch hid hk) _ _ _ (·.getPipeline _) hg

/-- The program is checked, with one query or with two. -/
theorem isPipelineConfigSet (hid : ω.client id = p) (hk : s.Knows id) (conf : Pipeconf)
    (deviceData : Bytes) :
    Beside ω p s (t.isPipelineConfigSet id conf deviceData).1
        (u.isPipelineConfigSet id conf deviceData).1 ∧
      (u.isPipelineConfigSet id conf deviceData).2 = (t.isPipelineConfigSet id conf deviceData).2 := by
  obtain ⟨hn, hcall⟩ := h.newCall hid hk
  unfold System.isPipelineConfigSet
  dsimp only
  rw [hcall]
  refine ⟨hn.queryPipeline hid hk _ fun t' u' current h' => ?_, rfl⟩
  split
  · exact h'.complete hid hk _
  · split
    · exact h'.complete hid hk _
    · split
      · exact h'.complete hid hk _
      · refine h'.queryPipeline hid hk _ fun t' u' current h' => ?_
        split <;> exact h'.complete hid hk _

/-! ### The entity table -/

/-- A read is submitted, and goes on with what it gets. -/
theorem submitRead (hid : ω.client K.client = p) (hk : s.Knows K.client) (request : ReadRequest)
    {goOn goOn' : System → Token → ReadStream → System}
    (hg : ∀ t' u' token r, Beside ω p s t' u' →
      Beside ω p s (goOn t' token r) (goOn' u' token r)) :
    Beside ω p s (t.submitRead K request goOn) (u.submitRead K request goOn') := by
  unfold System.submitRead
  dsimp only
  rw [h.client_eq hid]
  split
  · exact h.complete hid hk _
  · refine h.inSession hid hk fun token => ?_
    split
    · exact hg _ _ _ _ h
    · exact h.relay hid hk (h.switch hid hk) _ _ _ (·.read _) fun t' u' _ h' => hg _ _ _ _ h'

/-- Entities are read, all of them. -/
theorem read (hid : ω.client id = p) (hk : s.Knows id) (request : ReadRequest) :
    Beside ω p s (t.read id request).1 (u.read id request).1 ∧
      (u.read id request).2 = (t.read id request).2 := by
  obtain ⟨hn, hcall⟩ := h.newCall hid hk
  unfold System.read
  dsimp only
  rw [hcall]
  refine ⟨hn.submitRead hid hk _ fun t' u' token r h' => ?_, rfl⟩
  rw [h'.client_eq hid]
  split
  · exact h'.failCall hid hk _ _ _
  · exact h'.failCall hid hk _ _ _
  · exact h'.suspend hid hk _ _
  · exact h'.complete hid hk _

/-- Entities are read as a stream. -/
theorem openRead (hid : ω.client id = p) (hk : s.Knows id) (request : ReadRequest) :
    Beside ω p s (t.openRead id request).1 (u.openRead id request).1 ∧
      (u.openRead id request).2 = (t.openRead id request).2 := by
  obtain ⟨hn, hcall⟩ := h.newCall hid hk
  unfold System.openRead
  dsimp only
  rw [hcall]
  exact ⟨hn.submitRead hid hk _ fun t' u' token r h' => h'.completeWith hid hk rfl, rfl⟩

/-- The next entity is taken from a read stream. -/
theorem readNext {cursor : ReadCursor} (hid : ω.client cursor.client = p)
    (hk : s.Knows cursor.client) :
    Beside ω p s (t.readNext cursor).1 (u.readNext cursor).1 ∧
      (u.readNext cursor).2 = (t.readNext cursor).2 := by
  obtain ⟨hn, hcall⟩ := h.newCall hid hk
  unfold System.readNext
  dsimp only
  rw [hcall, hn.client_eq hid]
  refine ⟨?_, rfl⟩
  split
  · exact hn.completeNext hid hk _ rfl
  · exact hn.completeNext hid hk _ rfl
  · exact hn.suspend hid hk _ _
  -- the two failures are reported before the read stream is given back
  · obtain ⟨hr, he⟩ := hn.report hid hk .read .cancelled
    rw [he]
    exact hr.completeNext hid hk _ rfl
  · next status _ =>
    obtain ⟨hr, he⟩ := hn.report hid hk .read (.refused status cursor.token)
    rw [he]
    exact hr.completeNext hid hk _ rfl

/-- Updates are written. -/
theorem write (hid : ω.client id = p) (hk : s.Knows id) (request : WriteRequest) :
    Beside ω p s (t.write id request).1 (u.write id request).1 ∧
      (u.write id request).2 = (t.write id request).2 := by
  obtain ⟨hn, hcall⟩ := h.newCall hid hk
  unfold System.write
  dsimp only
  rw [hcall, hn.client_eq hid]
  split
  · exact ⟨hn.complete hid hk _, rfl⟩
  · refine ⟨?_, rfl⟩
    dsimp only
    refine hn.inSession hid hk fun token => ?_
    split
    · exact hn.complete hid hk _
    · refine hn.relay hid hk (hn.switch hid hk) _ _ _ (·.write _) fun t' u' statuses h' => ?_
      split <;> exact h'.complete hid hk _

/-! ### Waiting calls -/

/-- A waiting call runs again.  What it looks at is its own client, its own turn and the clock. -/
theorem resume (hid : ω.client K.client = p)
    (hk : ∀ call, t.call? K = some call → s.Knows K.client) :
    Beside ω p s (t.resume K) (u.resume K) := by
  unfold System.resume
  dsimp only
  rw [h.client_eq hid, h.call?_eq hid, h.now_eq]
  split
  · exact h
  · next call hc =>
    have hk := hk call hc
    split
    · split
      · exact h.setUp hid hk
      · exact h
    · split
      · exact h.failCall hid hk _ _ _
      · split
        · exact h.failCall hid hk _ _ _
        · exact h
    · next token _ =>
      obtain ⟨hr, he⟩ := h.report hid hk .read .cancelled
      split
      · rw [he]
        split
        · exact hr.complete hid hk _
        · exact hr.completeNext hid hk _ rfl
      · exact h

/-- A pending call is dropped. -/
theorem abort (hid : ω.client K.client = p)
    (hk : ∀ call, t.call? K = some call → s.Knows K.client) :
    Beside ω p s (t.abort K) (u.abort K) := by
  unfold System.abort
  rw [h.call?_eq hid]
  split
  · exact h
  · next call hc => exact h.retire hid (hk call hc) _

/-! ### Inbound loops -/

/-- A client takes a frame in.  A packet is read by means of the pipeline configurations, which are
shared. -/
theorem listenFrame (hid : ω.client id = p) (hk : s.Knows id) (frame : StreamResponse) :
    Beside ω p s (t.listenFrame id frame) (u.listenFrame id frame) := by
  have hcat : u.catalog = t.catalog := by
    rw [← h.own]
    rfl
  cases frame with
  | arbitration update =>
    exact h.changeClient hid hk (f := fun c =>
      { c with arbiter := c.arbiter.acknowledge c.key.number update }) fun _ => ⟨rfl, rfl, rfl⟩
  | error e =>
    unfold System.listenFrame
    rw [h.client_eq hid]
    exact h.post (h.device hid hk)
  | packet wire =>
    unfold System.listenFrame
    dsimp only
    rw [h.client_eq hid, hcat]
    split
    · exact h
    · split
      · exact h.post (h.device hid hk)
      · exact h

/-- A client finds its stream lost. -/
theorem loseStream {st : StreamId} (hst : ω.stream st = p) (hid : ω.client id = p) (hk : s.Knows id)
    (token : Token) (status : Status) :
    Beside ω p s (t.loseStream st id token status) (u.loseStream st id token status) :=
  (((h.report hid hk .streamChannel (.refused status token)).1.failSession hid hk token).dropListener hst)

/-! ### Channels, the registry and handles -/

/-- The channels of the party's devices change. -/
theorem setChannels {f : Directory DeviceId SwitchName → Directory DeviceId SwitchName}
    (hf : Directory.Concerns ω.device p f) :
    Beside ω p s { t with channels := f t.channels } { u with channels := f u.channels } := by
  refine h.lift (fun s => { s with channels := f s.channels }) ?_ (fun o ho => ?_) ?_ fun _ hk => hk
  · simp only [part, hf.own]
  · simp only [part, hf.others _ o ho]
  · exact ⟨h.fenced.clients, h.fenced.streams, h.fenced.registry, h.fenced.handles, h.fenced.finished,
      h.fenced.timers⟩

/-- The party's clients are registered, or struck off. -/
theorem setRegistry {f : Directory DeviceId ClientId → Directory DeviceId ClientId}
    (hf : Directory.Concerns ω.device p f)
    (ha : (f t.registry).All fun device id => ω.client id = ω.device device) :
    Beside ω p s { t with registry := f t.registry } { u with registry := f u.registry } := by
  refine h.lift (fun s => { s with registry := f s.registry }) ?_ (fun o ho => ?_) ?_ fun _ hk => hk
  · simp only [part, hf.own]
  · simp only [part, hf.others _ o ho]
  · exact ⟨h.fenced.clients, h.fenced.streams, ha, h.fenced.handles, h.fenced.finished, h.fenced.timers⟩

/-- The party's handles change. -/
theorem setHandles {f : Directory String ClientId → Directory String ClientId}
    (hf : Directory.Concerns ω.handle p f)
    (ha : (f t.handles).All fun name id => ω.client id = ω.handle name) :
    Beside ω p s { t with handles := f t.handles } { u with handles := f u.handles } := by
  refine h.lift (fun s => { s with handles := f s.handles }) ?_ (fun o ho => ?_) ?_ fun _ hk => hk
  · simp only [part, hf.own]
  · simp only [part, hf.others _ o ho]
  · exact ⟨h.fenced.clients, h.fenced.streams, h.fenced.registry, ha, h.fenced.finished, h.fenced.timers⟩

variable {name : String}

/-- A party finds its handles. -/
theorem find?_handle (hn : ω.handle name = p) : u.handles.find? name = t.handles.find? name := by
  rw [← h.own]
  exact Directory.find?_keep hn

/-- A party finds its registered clients. -/
theorem registered?_eq {device : DeviceId} (hd : ω.device device = p) :
    u.registered? device = t.registered? device := by
  rw [← h.own]
  exact Directory.find?_keep hd

/-- A party finds the channels of its devices. -/
theorem find?_channel {device : DeviceId} (hd : ω.device device = p) :
    u.channels.find? device = t.channels.find? device := by
  rw [← h.own]
  exact Directory.find?_keep hd

/-- A handle is given a client, and the client that had it is let go of. -/
theorem setHandle (hn : ω.handle name = p) (hid : ω.client id = p)
    (hold : ∀ old, t.handles.find? name = some old → s.Knows old) :
    Beside ω p s (t.setHandle name id) (u.setHandle name id) := by
  have hset := h.setHandles (Directory.concerns_insert hn id)
    (h.fenced.handles.insert (hid.trans hn.symm))
  unfold System.setHandle
  dsimp only
  rw [h.find?_handle hn]
  split
  · next old ho => exact hset.release ((h.fenced.handles.find? ho).trans hn) (hold old ho)
  · exact hset

/-- A handle is given up. -/
theorem dropHandle (hn : ω.handle name = p)
    (hold : ∀ old, t.handles.find? name = some old → s.Knows old) :
    Beside ω p s (t.dropHandle name).1 (u.dropHandle name).1 ∧
      (u.dropHandle name).2 = (t.dropHandle name).2 := by
  have hdrop := h.setHandles (Directory.concerns_erase ClientId hn) (h.fenced.handles.erase name)
  unfold System.dropHandle
  rw [h.find?_handle hn]
  split
  · exact ⟨h, rfl⟩
  · next old ho => exact ⟨hdrop.release ((h.fenced.handles.find? ho).trans hn) (hold old ho), rfl⟩

/-- A party numbers the clients of its devices as all do. -/
theorem newClient {key : ClientKey} (hd : ω.device key.device = p) (hn : ω.switch n = p)
    (config : ClientConfig) :
    Beside ω p s (t.newClient key n config).1 (u.newClient key n config).1 ∧
      (u.newClient key n config).2 = (t.newClient key n config).2 := by
  -- its number counts the clients of the device, which all belong to the party
  have hserial : (u.clients.keys.filter fun id => decide (id.device = key.device)).length =
      (t.clients.keys.filter fun id => decide (id.device = key.device)).length := by
    rw [← h.own]
    simp only [part, Directory.keys_keep, List.filter_filter]
    congr 1
    refine List.filter_congr fun id _ => ?_
    by_cases he : id.device = key.device <;> simp [he, Allotment.client, hd]
  unfold System.newClient
  dsimp only
  rw [hserial]
  refine ⟨?_, rfl⟩
  generalize (t.clients.keys.filter fun id => decide (id.device = key.device)).length = serial
  have hid : ω.client ⟨key.device, serial⟩ = p := hd
  have hf := Directory.concerns_insert hid ({ key, config, switch := n } : Client)
  refine h.lift (fun s => { s with clients := s.clients.insert _ _ }) ?_ (fun o ho => ?_) ?_
    fun id hk => ?_
  · simp only [part, hf.own]
  · simp only [part, hf.others _ o ho]
  · refine ⟨h.fenced.clients.insert ⟨rfl, hn.trans hid.symm, fun st hs => by cases hs⟩, h.fenced.streams,
      h.fenced.registry, h.fenced.handles, h.fenced.finished, h.fenced.timers⟩
  · unfold Knows at hk ⊢
    rw [Directory.keys_insert]
    split
    · exact hk
    · exact List.mem_append_left _ hk

/-- The party gets the registered client, or a fresh one if its channel leads to one of its switches. -/
theorem createClient {key : ClientKey} (hd : ω.device key.device = p)
    (hn : ∀ n, t.registered? key.device = none → t.channels.find? key.device = some n → ω.switch n = p)
    (config : ClientConfig) :
    Beside ω p s (t.createClient key config).1 (u.createClient key config).1 ∧
      (u.createClient key config).2 = (t.createClient key config).2 ∧
        ∀ id, (t.createClient key config).2 = .ok id → ω.client id = p := by
  unfold System.createClient
  rw [h.registered?_eq hd, h.find?_channel hd]
  split
  · next id hr =>
    have hid := (h.fenced.registry.find? hr).trans hd
    dsimp only
    rw [h.client_eq hid]
    refine ⟨h, rfl, fun id' he => ?_⟩
    split at he
    · cases he
      exact hid
    · cases he
  · next hr =>
    split
    · exact ⟨h, rfl, fun id he => by cases he⟩
    · next n hc =>
      obtain ⟨hnew, hid⟩ := h.newClient hd (hn n hr hc) config
      dsimp only
      rw [hid]
      -- the new client is of the party of its device
      have hp : ω.client (t.newClient key n config).2 = p := hd
      refine ⟨?_, rfl, fun id he => by cases he; exact hp⟩
      exact hnew.setRegistry (Directory.concerns_insert hd _)
        (hnew.fenced.registry.insert (hp.trans hd.symm))

omit h in
/-- Who creates a client has no handle on it yet. -/
theorem handles_createClient (t : System) (key : ClientKey) (config : ClientConfig) :
    (t.createClient key config).1.handles = t.handles := by
  unfold System.createClient
  split
  · rfl
  · split <;> rfl

/-- A client is struck off the registry, and its session is closed. -/
theorem removeClient {device : DeviceId} (hd : ω.device device = p)
    (hold : ∀ old, t.registered? device = some old → s.Knows old) :
    Beside ω p s (t.removeClient device).1 (u.removeClient device).1 ∧
      (u.removeClient device).2 = (t.removeClient device).2 := by
  have hforget := h.setRegistry (Directory.concerns_erase ClientId hd)
    (h.fenced.registry.erase device)
  unfold System.removeClient
  rw [h.registered?_eq hd]
  split
  · exact ⟨h, rfl⟩
  · next old ho =>
    have hid := (h.fenced.registry.find? ho).trans hd
    exact ⟨(hforget.closeSession hid (hold old ho)).release hid (hold old ho), rfl⟩

end Beside

end P4Control.System
