import P4Control.Proofs.Stores

namespace P4Control

/-!
# What changes what is stored

Whatever goes on in a control plane, what its switches store changes by steering, or because an agent handles
a request that changes it.  All other moves leave it alone.

* `System.KeepsStores` — no switch stores anything else than before.
* `System.Unasked`, `System.unasked_poll` — nor has any been asked for anything, as while tasks run.
* `keeps_act`, `keeps_start` — the other moves that leave alone what is stored.
* `Scenario.sent?`, `Scenario.raw?` — the request to change something that a client sends, or that reaches a
  switch past any client.
* `switch_sent`, `switch_raw` — what becomes of the switches where there is one.
* `stores_make` — what a move does to what is stored.
-/

namespace System

variable {s t u : System} {K : CallId}

/-! ### Where nothing that is stored changes -/

/-- No switch stores anything else than before. -/
def KeepsStores (s t : System) : Prop :=
  ∀ n, (t.switch n).agent.stores = (s.switch n).agent.stores

namespace KeepsStores

/-- No change keeps everything. -/
theorem refl (s : System) : KeepsStores s s := fun _ => rfl

/-- Changes that keep what is stored keep it together. -/
theorem trans (h : KeepsStores s t) (h' : KeepsStores t u) : KeepsStores s u :=
  fun n => (h' n).trans (h n)

/-- Where the switches stay as they are, so does what they store. -/
theorem of_same (h : ∀ n, t.switch n = s.switch n) : KeepsStores s t :=
  fun n => by rw [h]

end KeepsStores

/-- No switch has been asked for anything: it stores and has noted what it did before. -/
def Unasked (s t : System) : Prop :=
  ∀ n, (t.switch n).agent.stores = (s.switch n).agent.stores ∧ (t.switch n).noted = (s.switch n).noted

namespace Unasked

/-- Nobody is asked in no change. -/
theorem refl (s : System) : Unasked s s := fun _ => ⟨rfl, rfl⟩

/-- Nobody is asked in two changes if nobody is in either. -/
theorem trans (h : Unasked s t) (h' : Unasked t u) : Unasked s u :=
  fun n => ⟨(h' n).1.trans (h n).1, (h' n).2.trans (h n).2⟩

/-- Where the switches stay as they are nobody has been asked. -/
theorem of_same (h : ∀ n, t.switch n = s.switch n) : Unasked s t :=
  fun n => by rw [h]; exact ⟨rfl, rfl⟩

/-- An agent that is not asked changes nothing that it stores. -/
theorem keeps (h : Unasked s t) : KeepsStores s t := fun n => (h n).1

end Unasked

/-- A change to a switch that leaves alone what it stores. -/
theorem keeps_updateSwitch (s : System) (name : SwitchName) {f : Switch → Switch}
    (hf : (f (s.switch name)).agent.stores = (s.switch name).agent.stores) :
    KeepsStores s (s.updateSwitch name f) := by
  intro n
  rw [switch_updateSwitch]
  split
  · next he => rw [hf, he]
  · rfl

/-- A change to a switch by which it is not asked for anything. -/
theorem unasked_updateSwitch (s : System) (name : SwitchName) {f : Switch → Switch}
    (hf : (f (s.switch name)).agent.stores = (s.switch name).agent.stores)
    (hn : (f (s.switch name)).noted = (s.switch name).noted) :
    Unasked s (s.updateSwitch name f) := by
  intro n
  rw [switch_updateSwitch]
  split
  · next he =>
    rw [he] at hf hn ⊢
    exact ⟨hf, hn⟩
  · exact ⟨rfl, rfl⟩

/-! ### Streams -/

/-- Closing a stream's outbound half does not change the switch. -/
@[simp] theorem switch_dropUplink (s : System) (st : StreamId) (n : SwitchName) :
    (s.dropUplink st).switch n = s.switch n :=
  switch_wake _ _ n

/-- Leaving a stream does not change the switch. -/
@[simp] theorem switch_dropListener (s : System) (st : StreamId) (n : SwitchName) :
    (s.dropListener st).switch n = s.switch n := rfl

/-- An agent that lets go of its stream is asked for nothing. -/
theorem unasked_detach (s : System) (name : SwitchName) : Unasked s (s.detach name) := by
  intro n
  rw [switch_detach]
  split
  · next he => rw [he]; exact ⟨rfl, rfl⟩
  · exact ⟨rfl, rfl⟩

/-- A stream is set up without asking the agent for what it stores. -/
theorem unasked_connect (s : System) (name : SwitchName) (capacity : Option Nat) :
    Unasked s (s.connect name capacity).1 := by
  intro n
  rw [switch_connect]
  split
  · next he => rw [he]; exact ⟨rfl, rfl⟩
  · exact ⟨rfl, rfl⟩

/-- A call for a stream asks for nothing else. -/
theorem unasked_attachStream (s : System) (name : SwitchName) (capacity : Option Nat) :
    Unasked s (s.attachStream name capacity).1 :=
  s.holds_attachStream (unasked_updateSwitch s name (Agent.stores_enter _ _) rfl) fun t ht =>
    ht.trans (unasked_connect t name capacity)

/-- Neither does one that a script answers. -/
theorem unasked_openStream (s : System) (name : SwitchName) (capacity : Option Nat) :
    Unasked s (s.openStream name capacity).1 := by
  unfold openStream
  split
  · exact unasked_attachStream s name capacity
  · next script rest _ =>
    have hrest : Unasked s (s.updateSwitch name fun w => { w with scriptedStreams := rest }) :=
      unasked_updateSwitch s name rfl rfl
    exact hrest.trans (unasked_updateSwitch ((s.updateSwitch name fun w =>
      { w with scriptedStreams := rest }).updateStream _ _) name rfl rfl)

/-- Claims and packets change nothing that is stored. -/
theorem unasked_serveFrame (s : System) (name : SwitchName) (frame : StreamRequest) :
    Unasked s (s.serveFrame name frame) := by
  intro n
  rw [switch_serveFrame]
  split
  · next he =>
    rw [he]
    cases frame <;> exact ⟨rfl, rfl⟩
  · exact ⟨rfl, rfl⟩

/-! ### Calls that change nothing that is stored -/

/-- A call that waits changes nothing; if it is answered, the change is that of what follows. -/
theorem keeps_await {α : Type} {operation : Operation} {token : Token} {limit : Duration}
    {answer : Answer α} {goOn : System → α → System}
    (h : ∀ a, answer = .reply a → KeepsStores s (goOn s a)) :
    KeepsStores s (s.await K operation token limit answer goOn) := by
  cases answer with
  | reply a => exact h a rfl
  | _ => exact .of_same fun n => switch_await fun _ he => by cases he

/-- A call outside of a session changes nothing. -/
theorem keeps_inSession {goOn : System → Token → System} (h : ∀ token, KeepsStores s (goOn s token)) :
    KeepsStores s (s.inSession K goOn) := by
  unfold inSession
  split
  · exact h _
  · exact .of_same fun n => switch_complete _ _ _ n

/-- Whoever has the turn to open the session asks for a stream only. -/
theorem unasked_setUp (s : System) (K : CallId) : Unasked s (s.setUp K) := by
  unfold setUp
  dsimp only
  split
  · exact .of_same fun n => switch_complete _ _ _ n
  · next token afterFailure begun _ =>
    have hopen := unasked_openStream (s.beginScope K.client begun) (s.client K.client).switch
      (some (max (s.client K.client).config.queueCapacity 1))
    refine Unasked.trans (fun n => hopen n) (.of_same fun n => switch_await fun st _ => ?_)
    unfold activateSession
    dsimp only
    split
    · rw [switch_complete, switch_dropListener, switch_dropUplink]
    · rw [switch_complete, switch_goLive]

/-- Opening a session changes nothing that is stored. -/
theorem keeps_openSession (s : System) (id : ClientId) : KeepsStores s (s.openSession id).1 := by
  unfold openSession
  dsimp only
  split
  · exact fun n => (unasked_setUp _ _).keeps n
  · exact .refl _

/-- The switch of a client is asked, and gives what it stores to nobody. -/
theorem keeps_queryPipeline {view : PipelineView} {goOn : System → Option PipelineConfig → System}
    (h : ∀ t config, KeepsStores t (goOn t config)) :
    KeepsStores s (s.queryPipeline K view goOn) := by
  refine keeps_inSession fun token => ?_
  refine (keeps_updateSwitch s (s.client K.client).switch ?_).trans (keeps_await fun _ _ => h _ _)
  exact Switch.stores_getPipeline _ _

/-- Asking for the program changes nothing that is stored. -/
theorem keeps_isPipelineConfigSet (s : System) (id : ClientId) (conf : Pipeconf)
    (deviceData : Bytes) : KeepsStores s (s.isPipelineConfigSet id conf deviceData).1 := by
  have ends : ∀ (t : System) (result : CallResult),
      KeepsStores t (t.complete (s.newCall id).2 result) :=
    fun t result => .of_same fun n => switch_complete _ _ _ n
  refine KeepsStores.trans (t := (s.newCall id).1) (.refl _) (keeps_queryPipeline fun t config => ?_)
  dsimp only
  split
  · exact ends _ _
  · split
    · exact ends _ _
    · split
      · exact ends _ _
      · refine keeps_queryPipeline fun t config => ?_
        split <;> exact ends _ _

/-- A switch that takes a read stores what it stored. -/
theorem Relays.keeps {n : SwitchName} {query? : Option EntityQuery}
    (h : s.Relays n (query?.map .read) t) : KeepsStores s t := by
  intro m
  rw [h m]
  split
  · cases query? with
    | none => rfl
    | some query => exact Switch.stores_read _ query
  · rfl

/-- Taking what has been read changes nothing that is stored. -/
theorem keeps_readNext (s : System) (cursor : ReadCursor) : KeepsStores s (s.readNext cursor).1 := by
  refine .of_same fun n => ?_
  unfold readNext
  dsimp only
  split <;> simp

/-- A call that is resumed does not ask again for what it has waited for. -/
theorem unasked_resume (s : System) (K : CallId) : Unasked s (s.resume K) := by
  unfold resume
  dsimp only
  split
  · exact .refl s
  · split
    · split
      · exact unasked_setUp s K
      · exact .refl s
    · split
      · exact .of_same fun n => switch_failCall _ _ _ _ _ n
      · split
        · exact .of_same fun n => switch_failCall _ _ _ _ _ n
        · exact .refl s
    · split
      · refine .of_same fun n => ?_
        split <;> simp
      · exact .refl s

/-! ### Steps of tasks -/

/-- An agent that reads its stream is asked for nothing. -/
theorem unasked_serveStep (s : System) (st : StreamId) : Unasked s (s.serveStep st) := by
  unfold serveStep
  dsimp only
  split
  · split
    · exact Unasked.trans (.refl _) (unasked_serveFrame _ _ _)
    · exact .refl _
    · exact .refl _
  · exact .refl _

/-- A session that is lost asks for nothing. -/
theorem unasked_loseStream (s : System) (st : StreamId) (id : ClientId) (token : Token)
    (status : Status) : Unasked s (s.loseStream st id token status) := by
  refine .of_same fun n => ?_
  unfold loseStream
  dsimp only
  rw [switch_dropListener, switch_failSession, switch_report]

/-- A client that reads its stream asks for nothing. -/
theorem unasked_listenStep (s : System) (st : StreamId) : Unasked s (s.listenStep st) := by
  unfold listenStep
  dsimp only
  split
  · exact .refl _
  · split
    · exact .refl _
    · split
      · exact .of_same fun n => switch_listenFrame _ _ _ n
      · exact unasked_loseStream s.dequeue st _ _ _
      · exact .refl _
      · exact unasked_loseStream s.dequeue st _ _ _

/-- No task asks an agent to store something: requests do so when they are started. -/
theorem unasked_poll (s : System) : Unasked s s.poll := by
  unfold poll
  split
  · exact .refl s
  · exact unasked_serveStep s _
  · exact unasked_listenStep s _
  · exact Unasked.trans (t := s.dequeue) (.refl _) (unasked_resume _ _)

/-- No task changes what is stored. -/
theorem keeps_poll (s : System) : KeepsStores s s.poll := (unasked_poll s).keeps

/-- The clock asks nobody. -/
theorem switch_advance (s : System) (span : Duration) (n : SwitchName) :
    (s.advance span).switch n = s.switch n := by
  unfold advance
  dsimp only
  rw [foldl_resume_eq]
  rfl

end System

namespace Scenario

variable {x : Scenario}

/-! ### Actions -/

/-- What is steered is what the agent stores only where entities are added. -/
theorem stores_steering (a : Agent) {steering : Steering}
    (h : ∀ es, steering ≠ .addEntities es) : (steering.apply a).stores = a.stores := by
  cases steering with
  | addEntities es => exact absurd rfl (h es)
  | _ => rfl

/-- A handle that changes hands changes nothing that is stored. -/
theorem keeps_setHandle (s : System) (name : String) (id : ClientId) :
    System.KeepsStores s (s.setHandle name id) := by
  refine .of_same fun n => ?_
  unfold System.setHandle
  dsimp only
  split
  · exact System.switch_release _ _ n
  · rfl

/-- Creating a client changes nothing that is stored. -/
theorem keeps_createClient (s : System) (key : ClientKey) (config : ClientConfig) :
    System.KeepsStores s (s.createClient key config).1 := by
  unfold System.createClient
  split
  · exact .refl s
  · split <;> exact .refl s

/-- A frame that is sent changes nothing that is stored. -/
theorem keeps_enqueue {s t : System} {id : ClientId} {frame : StreamRequest}
    (h : s.enqueue id frame = .ok t) : System.KeepsStores s t := by
  obtain ⟨st, uplink, -, -, rfl⟩ := System.enqueue_eq_ok h
  exact .of_same fun n => System.switch_wake _ _ n

/-- Every action but the adding of entities leaves alone what is stored. -/
theorem Effect.keeps {action : Action} {t : System} (he : x.Effect action t)
    (h : ∀ n es, action ≠ .steer n (.addEntities es)) : System.KeepsStores x.system t := by
  cases he with
  | stays | files | empties => exact .refl _
  | connects => exact System.keeps_updateSwitch _ _ rfl
  | @creates key handle change s id hc =>
    have ht := keeps_createClient x.system key (x.settings change)
    rw [hc] at ht
    exact ht.trans (keeps_setHandle s handle id)
  | @makes key handle change n =>
    exact System.KeepsStores.trans (t := (x.system.newClient key n (x.settings change)).1) (.refl _)
      (keeps_setHandle _ handle _)
  | finds | clones => exact keeps_setHandle _ _ _
  | drops hf =>
    refine .of_same fun n => ?_
    rw [System.dropHandle, hf]
    exact System.switch_release _ _ n
  | removes hr =>
    refine .of_same fun n => ?_
    rw [System.removeClient, hr]
    exact (System.switch_release _ _ n).trans (System.switch_closeSession _ _ n)
  | closes => exact .of_same fun n => System.switch_closeSession _ _ n
  | @claims client election id =>
    have claimed : System.KeepsStores x.system (x.system.updateClient id fun c =>
        { c with arbiter := c.arbiter.claim election }) := fun _ => rfl
    -- A claim is noted before its frame is queued, and stays noted when there is no room for it.
    unfold System.runForMastership
    dsimp only
    split
    · next h' => exact claimed.trans (keeps_enqueue h')
    · exact claimed
  | sends =>
    unfold System.packetOut
    split
    · exact .refl _
    · split
      · next h' => exact keeps_enqueue h'
      · exact .refl _
  | @steers n steering =>
    refine System.keeps_updateSwitch _ n (stores_steering _ ?_)
    rintro es rfl
    exact h n es rfl
  | @scripts n script => exact System.keeps_updateSwitch _ n (by cases script <;> rfl)
  | notes => exact System.keeps_updateSwitch _ _ rfl
  | pushes => exact .of_same fun n => System.switch_pushFrame _ _ n _
  | @fails n status =>
    have hp : System.KeepsStores x.system (x.system.pushFrame n (.failure status)).1 :=
      .of_same fun m => System.switch_pushFrame _ n m _
    exact hp.trans (System.unasked_detach _ n).keeps
  | detaches => exact (System.unasked_detach _ _).keeps
  | queues => exact .of_same fun n => System.switch_wake _ _ n
  | hangsUp => exact .of_same fun n => System.switch_dropUplink _ _ n
  | turnsAway => exact .of_same fun n => System.switch_dropListener _ _ n
  | aborts => exact .of_same fun n => System.switch_retire _ _ _ n

/-- No action changes what is stored, unless it adds entities to a switch by hand. -/
theorem keeps_act {action : Action} (h : ∀ n es, action ≠ .steer n (.addEntities es)) :
    System.KeepsStores x.system (x.act action).1.system := (x.effect_act action).keeps h

/-! ### Requests -/

/-- The request to change what a switch stores that a client sends when it is asked to. -/
def sent? (x : Scenario) : Request → Option (SwitchName × P4Control.Request)
  | .setPipeline client conf data => do
    let c := x.system.client (← x.system.handles.find? client)
    (c.push? (← x.system.catalog.pipeconf? conf) data).map fun request => (c.switch, .set request)
  | .write client conf updates atomicity => do
    let c := x.system.client (← x.system.handles.find? client)
    (c.batch? (writeOf (← x.system.catalog.pipeconf? conf) updates atomicity)).map fun batch =>
      (c.switch, .write batch)
  | _ => none

/-- The request to change what a switch stores that reaches it past any client. -/
def raw? (x : Scenario) : Request → Option (SwitchName × P4Control.Request)
  | .rawSet switch request => (x.system.switches.find? switch).map fun _ => (switch, .set request)
  | .rawWrite switch batch => (x.system.switches.find? switch).map fun _ => (switch, .write batch)
  | _ => none

/-- The switch takes what a client sends to it, and no other switch is touched. -/
theorem switch_sent {request : Request} {n : SwitchName} {r : P4Control.Request}
    (h : x.sent? request = some (n, r)) (name : String) (m : SwitchName) :
    (x.make (.start name request)).system.switch m =
      if n = m then (x.system.switch m).take r else x.system.switch m := by
  cases request with
  | setPipeline client conf data =>
    simp only [sent?, Option.bind_eq_bind, Option.bind_eq_some_iff, Option.map_eq_some_iff] at h
    obtain ⟨id, hh, conf', hf, request, hp, he⟩ := h
    obtain ⟨rfl, rfl⟩ := Prod.mk.inj he
    have ht := System.relays_setPipelineConfig x.system id conf' data m
    rw [hp] at ht
    simp only [make, start, onClient, onPipeconf, hh, hf]
    exact ht
  | write client conf updates atomicity =>
    simp only [sent?, Option.bind_eq_bind, Option.bind_eq_some_iff, Option.map_eq_some_iff] at h
    obtain ⟨id, hh, conf', hf, batch, hb, he⟩ := h
    obtain ⟨rfl, rfl⟩ := Prod.mk.inj he
    have ht := System.relays_write x.system id (writeOf conf' updates atomicity) m
    rw [hb] at ht
    simp only [make, start, onClient, onPipeconf, hh, hf]
    exact ht
  | _ => cases h

/-- A new state of its agent is put in place of the one of a switch. -/
theorem switch_withAgent (x : Scenario) (n m : SwitchName) (agent : Agent) :
    (x.withAgent n agent).system.switch m =
      if n = m then { x.system.switch m with agent } else x.system.switch m := by
  show (x.system.updateSwitch n fun w => { w with agent }).switch m = _
  rw [System.switch_updateSwitch]
  split
  · next he => rw [he]
  · rfl

/-- The agent handles what reaches it past any client, and no other switch is touched. -/
theorem switch_raw {request : Request} {n : SwitchName} {r : P4Control.Request}
    (h : x.raw? request = some (n, r)) (name : String) (m : SwitchName) :
    (x.make (.start name request)).system.switch m =
      if n = m then { x.system.switch m with agent := (x.system.switch m).agent.handle r }
      else x.system.switch m := by
  cases request with
  | rawSet switch request | rawWrite switch request =>
    obtain ⟨w, hw, he⟩ := Option.map_eq_some_iff.mp h
    obtain ⟨rfl, rfl⟩ := Prod.mk.inj he
    simp only [make, start, onSwitch, hw]
    rw [system_answered, switch_withAgent, ← switch_of_find? hw]
    split
    · next he => rw [he]; rfl
    · rfl
  | _ => cases h

/-- An agent may be replaced by one that stores the same. -/
theorem keeps_withAgent {n : SwitchName} {agent : Agent}
    (h : agent.stores = (x.system.switch n).agent.stores) :
    System.KeepsStores x.system (x.withAgent n agent).system :=
  System.keeps_updateSwitch x.system n (f := fun w => { w with agent }) h

/-- Giving up a raw stream changes nothing that is stored. -/
theorem keeps_discard (s : System) (raw : RawStream) : System.KeepsStores s (discard s raw) :=
  holds_discard (.refl s) (fun t h => h.trans (.of_same fun n => System.switch_dropUplink t _ n))
    fun t h => h.trans (.of_same fun n => System.switch_dropListener t _ n)

/-- A request that sends no request to change anything leaves alone what is stored. -/
theorem keeps_start {request : Request} (hs : x.sent? request = none) (hr : x.raw? request = none)
    (name : String) : System.KeepsStores x.system (x.make (.start name request)).system := by
  -- A request on a client changes what is stored only by what it sends; with nothing to send, what its switch
  -- notes is all that is left.
  cases request with
  | openSession client =>
    exact holds_onClient (.refl _) fun _ _ => System.keeps_openSession _ _
  | setPipeline client conf data =>
    simp only [make, start, onClient, onPipeconf]
    split
    · exact .refl _
    · next id hh =>
      split
      · exact .refl _
      · next conf' hf =>
        have hp : (x.system.client id).push? conf' data = none := by
          simpa only [sent?, hh, hf, Option.bind_eq_bind, Option.bind_some,
            Option.map_eq_none_iff] using hs
        have ht := System.relays_setPipelineConfig x.system id conf' data
        rw [hp] at ht
        exact .of_same fun m => (ht m).trans (ite_self _)
  | isPipelineSet client conf data =>
    exact holds_onPipeconf (.refl _) fun _ _ _ => System.keeps_isPipelineConfigSet _ _ _ _
  | read client conf query =>
    exact holds_onPipeconf (.refl _) fun _ _ _ => (System.relays_read _ _ _).keeps
  | openRead client conf query =>
    exact holds_onPipeconf (.refl _) fun _ _ _ => (System.relays_openRead _ _ _).keeps
  | readNext stream =>
    simp only [make, start]
    split
    · exact .refl _
    · exact System.keeps_readNext _ _
  | write client conf updates atomicity =>
    simp only [make, start, onClient, onPipeconf]
    split
    · exact .refl _
    · next id hh =>
      split
      · exact .refl _
      · next conf' hf =>
        have hb : (x.system.client id).batch? (writeOf conf' updates atomicity) = none := by
          simpa only [sent?, hh, hf, Option.bind_eq_bind, Option.bind_some,
            Option.map_eq_none_iff] using hs
        have ht := System.relays_write x.system id (writeOf conf' updates atomicity)
        rw [hb] at ht
        exact .of_same fun m => (ht m).trans (ite_self _)
  | rawOpen switch =>
    exact holds_rawOpen (.refl _) (System.unasked_attachStream x.system switch none).keeps
      fun t old _ ht => ht.trans (keeps_discard t old)
  | rawSet switch request =>
    have hw : x.system.switches.find? switch = none := by simpa [raw?] using hr
    simp only [make, start, onSwitch, hw]
    exact .refl _
  | rawGet switch request =>
    simp only [make, start, onSwitch]
    split
    · exact .refl _
    · next w hw =>
      rw [system_answered]
      exact keeps_withAgent (by rw [switch_of_find? hw, Agent.stores_getPipeline])
  | rawRead switch request =>
    simp only [make, start, onSwitch]
    split
    · exact .refl _
    · next w hw =>
      have hk : System.KeepsStores x.system (x.withAgent switch (w.agent.read request).1).system :=
        keeps_withAgent (by rw [switch_of_find? hw, Agent.stores_read])
      split <;> exact hk
  | rawWrite switch batch =>
    have hw : x.system.switches.find? switch = none := by simpa [raw?] using hr
    simp only [make, start, onSwitch, hw]
    exact .refl _

/-! ### Moves -/

/-- The agent of a switch handles a request that is started, and ends up as `b`. -/
def Handles (x : Scenario) (m : Move) (n : SwitchName) (b : Agent) : Prop :=
  ∃ name request r, m = .start name request ∧
    (x.sent? request = some (n, r) ∨ x.raw? request = some (n, r)) ∧
    b = (x.system.switch n).agent.handle r

/-- Adding entities leaves the program alone, and every other switch. -/
theorem stores_addEntities (x : Scenario) (n m : SwitchName) (es : List Entity) :
    let a := (x.system.switch m).agent
    let b := ((x.act (.steer n (.addEntities es))).1.system.switch m).agent
    n = m ∧ b.stores = (a.entities ++ es, a.pipeline) ∨ b.stores = a.stores := by
  simp only [act, onSwitch]
  cases x.system.switches.find? n with
  | none => exact .inr rfl
  | some w =>
    have hs : (x.withSystem (x.system.updateSwitch n fun w =>
        { w with agent := Steering.apply w.agent (.addEntities es) })).system.switch m = _ :=
      System.switch_updateSwitch x.system n m _
    dsimp only
    rw [hs]
    split
    · next he => exact .inl ⟨he, by rw [← he]; rfl⟩
    · exact .inr rfl

/-- A request changes what is stored only on the switch that it is sent to, and as the agent handles
it there. -/
theorem stores_start (x : Scenario) (name : String) (request : Request) (n : SwitchName) :
    let b := ((x.make (.start name request)).system.switch n).agent
    x.Handles (.start name request) n b ∨ b.stores = (x.system.switch n).agent.stores := by
  cases hs : x.sent? request with
  | some sent =>
    obtain ⟨n', r⟩ := sent
    have hb := switch_sent hs name n
    split at hb
    · next he =>
      subst he
      -- a script may answer before the agent does
      obtain ht | ht := (x.system.switch n').agent_take r
      · exact .inl ⟨name, request, r, rfl, .inl hs, (congrArg Switch.agent hb).trans ht⟩
      · exact .inr (congrArg Agent.stores ((congrArg Switch.agent hb).trans ht))
    · exact .inr (congrArg (fun w => w.agent.stores) hb)
  | none =>
    cases hr : x.raw? request with
    | some sent =>
      obtain ⟨n', r⟩ := sent
      have hb := switch_raw hr name n
      split at hb
      · next he =>
        subst he
        exact .inl ⟨name, request, r, rfl, .inr hr, congrArg Switch.agent hb⟩
      · exact .inr (congrArg (fun w => w.agent.stores) hb)
    | none => exact .inr (keeps_start hs hr name n)

/-- What is stored changes only where entities are added, or where an agent handles a request. -/
theorem stores_make (x : Scenario) (m : Move) (n : SwitchName) :
    let a := (x.system.switch n).agent
    let b := ((x.make m).system.switch n).agent
    (∃ es, m = .act (.steer n (.addEntities es)) ∧ b.stores = (a.entities ++ es, a.pipeline)) ∨
      x.Handles m n b ∨ b.stores = a.stores := by
  intro a b
  cases m with
  | act action =>
    by_cases h : ∃ n' es, action = .steer n' (.addEntities es)
    · obtain ⟨n', es, rfl⟩ := h
      obtain ⟨rfl, hb⟩ | hb := stores_addEntities x n' n es
      · exact .inl ⟨es, rfl, hb⟩
      · exact .inr (.inr hb)
    · exact .inr (.inr (keeps_act (fun n' es he => h ⟨n', es, he⟩) n))
  | start name request => exact .inr (stores_start x name request n)
  | advance span =>
    exact .inr (.inr (congrArg (fun w => w.agent.stores) (System.switch_advance x.system span n)))
  | poll => exact .inr (.inr (System.keeps_poll x.system n))
  | observe posted outcome => exact .inr (.inr rfl)

end Scenario

end P4Control
