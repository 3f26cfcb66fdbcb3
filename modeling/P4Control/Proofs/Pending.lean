import P4Control.Proofs.Moves
import P4Control.Proofs.CallEffects

namespace P4Control

/-!
# Pending calls along a run

Whatever is done to a control plane, no pending call is overlooked, and what a call waits for it has
begun to wait for in a move of its own.

* `System.WaitsFor` — a pending call and what it waits for.
* `System.Spares` — a change that leaves the pending calls as they are.
* `Scenario.Began` — a move in which a call begins to wait.
* `Scenario.Sways` — what a move does to the pending calls.
* `sways_make` — every move does one of these things.
* `Scenario.Abandons`, `Scenario.Abandoned` — a call that sets up a stream is dropped.
* `attended_after` — no pending call is overlooked along a run.
-/

namespace System

/-- The call is pending, and waits for `wait`. -/
def WaitsFor (s : System) (K : CallId) (wait : Wait) : Prop :=
  ∃ call ∈ (s.client K.client).calls, call.serial = K.serial ∧ call.wait = wait

instance (s : System) (K : CallId) (wait : Wait) : Decidable (s.WaitsFor K wait) :=
  inferInstanceAs (Decidable (∃ call ∈ _, _))

variable {s t u : System} {K : CallId} {stray : ClientId → Token → Prop}

/-! ### Changes that leave the pending calls as they are -/

/-- A change that leaves the pending calls as they are and overlooks none of them. -/
structure Spares (s t : System) : Prop where
  calls : ∀ id, (t.client id).calls = (s.client id).calls
  cancelled : ∀ id token, (s.client id).scope.isCancelled token = true →
    (t.client id).scope.isCancelled token = true
  made : ∀ id, (t.client id).made = (s.client id).made
  turns : ∀ id, (t.client id).turns = (s.client id).turns
  attended : ∀ stray, s.Attended none stray → t.Attended none stray

/-- No change spares the pending calls. -/
theorem Spares.refl (s : System) : Spares s s :=
  ⟨fun _ => rfl, fun _ _ h => h, fun _ => rfl, fun _ => rfl, fun _ h => h⟩

/-- Changes that spare them do so together. -/
theorem Spares.trans (h : Spares s t) (h' : Spares t u) : Spares s u where
  calls id := (h'.calls id).trans (h.calls id)
  cancelled id token hc := h'.cancelled id token (h.cancelled id token hc)
  made id := (h'.made id).trans (h.made id)
  turns id := (h'.turns id).trans (h.turns id)
  attended stray ha := h'.attended stray (h.attended stray ha)

/-- What keeps the clients' calls spares them. -/
theorem Heeds.spares (h : Heeds s t) : Spares s t :=
  ⟨h.calls, h.cancelled, h.made, h.turns, fun _ ha => ha.heeds h⟩

/-- A new client has no calls. -/
theorem spares_newClient (hv : s.Valid) (key : ClientKey) (switch : SwitchName)
    (config : ClientConfig) : Spares s (s.newClient key switch config).1 := by
  have client : ∀ id,
      ((s.newClient key switch config).1.client id).calls = (s.client id).calls ∧
      ((s.newClient key switch config).1.client id).turns = (s.client id).turns ∧
      ((s.newClient key switch config).1.client id).made = (s.client id).made ∧
      ((s.newClient key switch config).1.client id).scope = (s.client id).scope := by
    intro id
    rw [client_newClient]
    split
    · next he =>
      rw [client_eq_default (he ▸ hv.not_knows_newClient key switch config)]
      exact ⟨rfl, rfl, rfl, rfl⟩
    · exact ⟨rfl, rfl, rfl, rfl⟩
  refine Heeds.spares ⟨rfl, rfl, rfl, fun id => (client id).1, fun id => (client id).2.1,
    fun id => (client id).2.2.1, fun _ h => h, fun id call _ token _ h => ?_, fun id token h => ?_,
    fun id token h ho => ?_⟩
  · rw [(client id).2.2.2] at h
    exact .inl h
  · rwa [(client id).2.2.2]
  · rw [(client id).2.2.2] at h ho
    exact ⟨h, ho⟩

/-! ### Time -/

/-- The calls whose timers have fired become runnable. -/
theorem ready_foldl_resume (fired : List Timer) (s : System) :
    (∀ task ∈ s.ready, task ∈ (fired.foldl (fun s t => s.wake (.resume t.call)) s).ready) ∧
      ∀ t ∈ fired, .resume t.call ∈ (fired.foldl (fun s t => s.wake (.resume t.call)) s).ready := by
  induction fired generalizing s with
  | nil => exact ⟨fun _ h => h, by simp⟩
  | cons first rest ih =>
    obtain ⟨hold, hnew⟩ := ih (s.wake (.resume first.call))
    refine ⟨fun task h => hold task ((mem_ready_wake s).mpr (.inr h)), fun t ht => ?_⟩
    rcases List.mem_cons.mp ht with rfl | ht
    · exact hold _ ((mem_ready_wake s).mpr (.inl rfl))
    · exact hnew t ht

/-- Waking them is all that happens. -/
theorem foldl_resume_eq (fired : List Timer) (s : System) :
    fired.foldl (fun s t => s.wake (.resume t.call)) s =
      { s with ready := (fired.foldl (fun s t => s.wake (.resume t.call)) s).ready } := by
  induction fired generalizing s with
  | nil => rfl
  | cons first rest ih =>
    rw [List.foldl_cons, ih, wake_eq]

/-- The timers are kept soonest first, so those that are due are found, and the others are left. -/
theorem mem_due_or_left {now : Duration} {timers : List Timer} {t : Timer}
    (hs : timers.Pairwise fun t u => t.deadline.nanoseconds ≤ u.deadline.nanoseconds)
    (ht : t ∈ timers) :
    (t.deadline.nanoseconds ≤ now.nanoseconds → t ∈ due now timers) ∧
      (now.nanoseconds < t.deadline.nanoseconds →
        t ∈ timers.drop (due now timers).length) := by
  induction timers with
  | nil => cases ht
  | cons first rest ih =>
    obtain ⟨hfirst, hrest⟩ := List.pairwise_cons.mp hs
    have hle : first.deadline.nanoseconds ≤ t.deadline.nanoseconds := by
      rcases List.mem_cons.mp ht with rfl | ht
      · exact Nat.le_refl _
      · exact hfirst t ht
    by_cases hd : first.deadline.nanoseconds ≤ now.nanoseconds
    · have hdue : due now (first :: rest) = first :: due now rest := by simp [due, hd]
      rw [hdue]
      rcases List.mem_cons.mp ht with rfl | ht
      · exact ⟨fun _ => List.mem_cons_self, fun hlt => by omega⟩
      · exact ⟨fun h => List.mem_cons_of_mem _ ((ih hrest ht).1 h), (ih hrest ht).2⟩
    · -- nobody behind the first one is due any sooner
      have hdue : due now (first :: rest) = [] := by simp [due, hd]
      rw [hdue]
      exact ⟨fun h => by omega, fun _ => ht⟩

/-- When time passes, whoever's deadline is reached becomes runnable. -/
theorem Attended.pass (h : s.Attended none stray) (span : Duration) :
    (s.advance span).Attended none stray := by
  have he : s.advance span =
      { s with
        now := ⟨s.now.nanoseconds + span.nanoseconds⟩
        timers := s.timers.drop
          (due ⟨s.now.nanoseconds + span.nanoseconds⟩ s.timers).length
        ready := (s.advance span).ready } := by
    conv => lhs; unfold advance
    dsimp only
    rw [foldl_resume_eq]
    rfl
  have hold : ∀ id, .resume id ∈ s.ready → .resume id ∈ (s.advance span).ready := by
    intro id hr
    unfold advance
    exact (ready_foldl_resume _ _).1 _ hr
  have hdue : ∀ t ∈ due ⟨s.now.nanoseconds + span.nanoseconds⟩ s.timers,
      .resume t.call ∈ (s.advance span).ready := by
    intro t ht
    unfold advance
    exact (ready_foldl_resume _ _).2 t ht
  generalize (s.advance span).ready = ready at he hold hdue
  rw [he]
  refine ⟨h.serials, h.made, h.running, h.queue, h.openers, h.sorted.drop, fun t ht => ?_,
    fun id call hm hb => ?_, h.settingUp⟩
  · exact h.timers t (List.mem_of_mem_drop ht)
  · have ha := h.tended id call hm hb
    generalize call.wait = wait at ha
    cases wait with
    | turn => exact ⟨ha.1, fun hh => hold _ (ha.2 hh)⟩
    | answer operation token limit deadline =>
      obtain ⟨hcan, hpast, htimer, hop⟩ := ha
      refine ⟨fun hc => hold _ (hcan hc), fun hd => ?_, fun hd => ?_, hop⟩
      -- A deadline that had passed before was seen to then; for one that passes now there is a timer.
      · by_cases hnow : deadline.nanoseconds ≤ s.now.nanoseconds
        · exact hold _ (hpast hnow)
        · exact hdue _ ((mem_due_or_left h.sorted (htimer (by omega))).1 hd)
      · have hlt : s.now.nanoseconds + span.nanoseconds < deadline.nanoseconds := hd
        exact (mem_due_or_left h.sorted (htimer (by omega))).2 hlt
    | chunk token => exact fun hc => hold _ (ha hc)

/-- Time passes for a pending call without changing what it waits for. -/
theorem spares_advance (s : System) (span : Duration) : Spares s (s.advance span) := by
  have hc : ∀ id, (s.advance span).client id = s.client id := by
    intro id
    unfold advance
    dsimp only
    rw [foldl_resume_eq]
    rfl
  exact ⟨fun id => by rw [hc], fun id token h => by rwa [hc], fun id => by rw [hc],
    fun id => by rw [hc], fun _ ha => ha.pass span⟩

/-! ### Holders and frames -/

/-- A handle that changes hands disturbs no call. -/
theorem heeds_setHandle (name : String) (id : ClientId) : Heeds s (s.setHandle name id) := by
  have hs : Heeds s { s with handles := s.handles.insert name id } :=
    heeds_of_clients (fun _ => rfl) rfl rfl rfl fun _ h => h
  unfold setHandle
  dsimp only
  split
  · exact hs.trans (heeds_release _)
  · exact hs

/-- A client that is let go of may close its session, whose calls are told. -/
theorem heeds_dropHandle (name : String) : Heeds s (s.dropHandle name).1 := by
  unfold dropHandle
  split
  · exact .refl s
  · next id _ =>
    have hs : Heeds s { s with handles := s.handles.erase name } :=
      heeds_of_clients (fun _ => rfl) rfl rfl rfl fun _ h => h
    exact hs.trans (heeds_release id)

/-- A client that is removed from the registry may close its session, whose calls are told. -/
theorem heeds_removeClient (device : DeviceId) : Heeds s (s.removeClient device).1 := by
  unfold removeClient
  split
  · exact .refl s
  · next id _ =>
    have hs : Heeds s { s with registry := s.registry.erase device } :=
      heeds_of_clients (fun _ => rfl) rfl rfl rfl fun _ h => h
    exact (hs.trans (heeds_closeSession id)).trans (heeds_release id)

/-- A client that is created has no calls, and the others keep theirs. -/
theorem spares_createClient (hv : s.Valid) (key : ClientKey) (config : ClientConfig) :
    Spares s (s.createClient key config).1 := by
  unfold createClient
  split
  · exact .refl s
  · split
    · exact .refl s
    · next switch _ =>
      refine (spares_newClient hv key switch config).trans (Heeds.spares ?_)
      exact heeds_of_clients (fun _ => rfl) rfl rfl rfl fun _ h => h

/-- A frame that is sent disturbs no call. -/
theorem heeds_enqueue {id : ClientId} {frame : StreamRequest} (h : s.enqueue id frame = .ok t) :
    Heeds s t := by
  obtain ⟨st, uplink, -, -, rfl⟩ := enqueue_eq_ok h
  have hs : Heeds s (s.updateStream st fun t => { t with uplink }) :=
    heeds_of_sameClients (sameClients_updateStream s st _) fun _ h => h
  exact hs.trans (heeds_wake _)

/-- A claim disturbs no call, sent or not. -/
theorem heeds_runForMastership (id : ClientId) (election : ElectionId) :
    Heeds s (s.runForMastership id election).1 := by
  unfold runForMastership
  have claimed : Heeds s (s.updateClient id fun c => { c with arbiter := c.arbiter.claim election }) :=
    heeds_updateClient rfl rfl rfl rfl
  dsimp only
  split
  · next h => exact claimed.trans (heeds_enqueue h)
  · exact claimed.trans (heeds_updateClient (f := fun c =>
      { c with arbiter := c.arbiter.restore (s.client id).arbiter }) rfl rfl rfl rfl)

/-- A packet disturbs no call, sent or not. -/
theorem heeds_packetOut (id : ClientId) (conf : Pipeconf) (packet : Packet) :
    Heeds s (s.packetOut id conf packet).1 := by
  unfold packetOut
  split
  · exact .refl s
  · split
    · next h => exact heeds_enqueue h
    · exact .refl s

/-- What happens on a stream disturbs no call. -/
theorem heeds_updateStream (st : StreamId) (f : Stream → Stream) : Heeds s (s.updateStream st f) :=
  heeds_of_clients (fun _ => rfl) rfl rfl rfl fun _ h => h

/-! ### One step of a task -/

/-- A task that is no call leaves the queue. -/
theorem heeds_dequeue {task : Task} (hr : s.ready.head? = some task) (ht : ∀ id, task ≠ .resume id) :
    Heeds s s.dequeue := by
  refine heeds_of_clients (fun _ => rfl) rfl rfl rfl fun id hm => ?_
  show _ ∈ s.ready.tail
  cases hready : s.ready with
  | nil =>
    rw [hready] at hm
    cases hm
  | cons first rest =>
    rw [hready] at hm hr
    refine (List.mem_cons.mp hm).resolve_left fun he => ht id ?_
    rw [he]
    exact (Option.some.inj hr).symm

/-- A step of an agent disturbs no call. -/
theorem heeds_serveStep {st : StreamId} (hr : s.ready.head? = some (.serve st)) :
    Heeds s (s.serveStep st) := by
  have hd : Heeds s s.dequeue := heeds_dequeue hr (by simp)
  unfold serveStep
  dsimp only
  split
  · split
    · exact (heeds_updateStream st _).trans (heeds_serveFrame _ _)
    · exact hd
    · exact hd.trans (heeds_updateStream st _)
  · exact hd

/-- A step of an inbound loop may end the scope of its session; then the calls in it are told. -/
theorem heeds_listenStep {st : StreamId} (hr : s.ready.head? = some (.listen st)) :
    Heeds s (s.listenStep st) := by
  have hd : Heeds s s.dequeue := heeds_dequeue hr (by simp)
  unfold listenStep
  dsimp only
  split
  · exact hd
  · split
    · exact hd.trans (heeds_dropListener st)
    · split
      · exact (heeds_updateStream st _).trans (heeds_listenFrame _ _)
      · exact hd.trans (heeds_loseStream st _ _ _)
      · exact hd
      · exact hd.trans (heeds_loseStream st _ _ _)

end System

namespace Scenario

variable {x : Scenario} {m : Move}

/-! ### What moves do to the pending calls -/

/-- What a request asks the switch of its client for. -/
def Request.operation? : Request → Option Operation
  | .openSession _ => some .openStream
  | .setPipeline _ _ _ => some .setPipeline
  | .isPipelineSet _ _ _ => some .getPipeline
  | .read _ _ _ | .openRead _ _ _ => some .read
  | .write _ _ _ _ => some .write
  | _ => none

/-- What a call begins to wait for in a move in which it runs. -/
inductive Began (x : Scenario) : Move → CallId → Wait → Prop
  /-- It has been started, and is in line or has asked for something. -/
  | starts (name : String) (request : Request) (operation : Operation) (K : CallId) (wait : Wait)
      (hK : K = (x.system.newCall K.client).2) (ho : request.operation? = some operation)
      (hb : x.system.Began K operation wait) : Began x (.start name request) K wait
  /-- It has been started to take from a read stream that the switch holds open. -/
  | reads (name stream : String) (cursor : ReadCursor) (K : CallId)
      (hr : x.reads.find? stream = some cursor) (hh : cursor.stream.held = true) :
      Began x (.start name (.readNext stream)) K (.chunk cursor.token)
  /-- It has got its turn, and has asked for a stream. -/
  | resumes (K : CallId) (wait : Wait) (hw : x.system.WaitsFor K .turn) (hne : wait ≠ .turn)
      (hb : x.system.Began K .openStream wait) : Began x .poll K wait

/-- What a move does to the pending calls, which leads to the system `t`. -/
inductive Sways (x : Scenario) (m : Move) (t : System) : Prop
  /-- Nothing. -/
  | spares (h : System.Spares x.system t)
  /-- A call starts. -/
  | starts (id : ClientId) (h : (x.system.newCall id).1.Stroke (x.system.newCall id).2 none
      (x.Began m (x.system.newCall id).2) t)
  /-- A waiting call runs again. -/
  | resumes (K : CallId) (call : Call) (hm : m = .poll)
      (hr : x.system.ready.head? = some (.resume K))
      (hc : call ∈ (x.system.client K.client).calls) (hs : call.serial = K.serial)
      (h : x.system.dequeue.Stroke K call.wait.settingUp? (x.system.Goes K call.wait) t)
  /-- A pending call is dropped. -/
  | drops (task name : String) (K : CallId) (reading : Option String) (call : Call)
      (hm : m = .act (.abort task))
      (hf : (x.tasks.find? fun t => decide (t.1 = task)) = some (name, .call K reading))
      (hc : x.system.call? K = some call) (ht : t = x.system.retire K call.kind)

/-- A change that heeds the calls begins none and ends none. -/
theorem Sways.of_heeds {t : System} (h : System.Heeds x.system t) : x.Sways m t := .spares h.spares

/-- A move that does nothing. -/
theorem Sways.self : x.Sways m x.system := .of_heeds (.refl x.system)

/-- What is done to switches, streams and names alone. -/
theorem Sways.of_clients {t : System} (hc : t.clients = x.system.clients)
    (hn : t.now = x.system.now) (hf : t.finished = x.system.finished)
    (ht : t.timers = x.system.timers) (hr : t.ready = x.system.ready) : x.Sways m t := by
  refine .of_heeds (System.heeds_of_clients (fun id => ?_) hn hf ht fun id h => hr ▸ h)
  unfold System.client
  rw [hc]

/-- A raw stream that is given up disturbs no call. -/
theorem heeds_discard (s : System) (raw : RawStream) : System.Heeds s (discard s raw) :=
  holds_discard (.refl s) (fun _ h => h.trans (System.heeds_dropUplink raw.id))
    fun _ h => h.trans (System.heeds_dropListener raw.id)

/-- Of the actions, only the dropping of a request touches a pending call. -/
theorem Effect.sways (hv : x.system.Valid) {action : Action} {t : System} (h : x.Effect action t) :
    x.Sways (.act action) t := by
  cases h with
  | stays => exact .self
  | @creates key handle change s id h =>
    have hc := System.spares_createClient hv key (x.settings change)
    rw [h] at hc
    exact .spares (hc.trans (System.heeds_setHandle handle id).spares)
  | @makes key handle change n h =>
    exact .spares ((System.spares_newClient hv key n (x.settings change)).trans
      (System.heeds_setHandle handle _).spares)
  | finds | clones => exact .of_heeds (System.heeds_setHandle _ _)
  | drops => exact .of_heeds (System.heeds_dropHandle _)
  | removes => exact .of_heeds (System.heeds_removeClient _)
  | closes => exact .of_heeds (System.heeds_closeSession _)
  | claims => exact .of_heeds (System.heeds_runForMastership _ _)
  | sends => exact .of_heeds (System.heeds_packetOut _ _ _)
  | files | connects | steers | scripts | notes | empties => exact .of_clients rfl rfl rfl rfl rfl
  | pushes => exact .of_heeds (System.heeds_pushFrame _ _)
  | @fails n status =>
    exact .of_heeds ((System.heeds_pushFrame n (.failure status)).trans (System.heeds_detach n))
  | detaches => exact .of_heeds (System.heeds_detach _)
  | queues => exact .of_heeds ((System.heeds_updateStream _ _).trans (System.heeds_wake _))
  | hangsUp => exact .of_heeds (System.heeds_dropUplink _)
  | turnsAway => exact .of_heeds (System.heeds_dropListener _)
  | aborts hf hc => exact .drops _ _ _ _ _ rfl hf hc rfl

/-- An action lets no call begin or end. -/
theorem sways_act (hv : x.system.Valid) (action : Action) :
    x.Sways (.act action) (x.act action).1.system := (x.effect_act action).sways hv

/-- A raw stream is set up past all calls. -/
theorem heeds_rawOpen (x : Scenario) (name : String) (n : SwitchName) :
    System.Heeds x.system (x.start name (.rawOpen n)).1.system :=
  holds_rawOpen (.refl _) (System.heeds_attachStream n none)
    fun t old _ ht => ht.trans (heeds_discard t old)

/-- A request lets its own call begin or end, and no other. -/
theorem sways_start (hv : x.Valid) {stray : ClientId → Token → Prop}
    (ha : x.system.Attended none stray) (name : String) (request : Request) :
    x.Sways (.start name request) (x.start name request).1.system := by
  -- a request that a client makes is one stroke of its own call
  have starts : ∀ {operation id t}, request.operation? = some operation →
      (x.system.newCall id).1.Stroke (x.system.newCall id).2 none
        (x.system.Began (x.system.newCall id).2 operation) t → x.Sways (.start name request) t :=
    fun ho h => .starts _ (h.mono fun wait => .starts name request _ _ wait rfl ho)
  cases request with
  | openSession client =>
    exact holds_onClient .self fun id _ => starts rfl (System.stroke_openSession hv.system ha id)
  | setPipeline client conf data =>
    exact holds_onPipeconf .self fun id _ _ =>
      starts rfl (System.stroke_setPipelineConfig hv.system ha id _ data)
  | isPipelineSet client conf data =>
    exact holds_onPipeconf .self fun id _ _ =>
      starts rfl (System.stroke_isPipelineConfigSet hv.system ha id _ data)
  | read client conf query =>
    exact holds_onPipeconf .self fun id _ _ => starts rfl (System.stroke_read hv.system ha id _)
  | openRead client conf query =>
    exact holds_onPipeconf .self fun id _ _ => starts rfl (System.stroke_openRead hv.system ha id _)
  | write client conf updates atomicity =>
    exact holds_onPipeconf .self fun id _ _ => starts rfl (System.stroke_write hv.system ha id _)
  | readNext stream =>
    simp only [start]
    split
    · exact .self
    · next cursor hr =>
      refine .starts cursor.client ((System.stroke_readNext hv.system ha cursor).mono ?_)
      rintro wait ⟨rfl, hh⟩
      exact .reads name stream cursor _ hr hh
  | rawOpen switch => exact .of_heeds (x.heeds_rawOpen name switch)
  | rawRead switch request =>
    refine holds_onSwitch .self fun w _ => ?_
    dsimp only
    split <;> exact .of_clients rfl rfl rfl rfl rfl
  | rawSet | rawGet | rawWrite =>
    refine holds_onSwitch .self fun w _ => ?_
    rw [system_answered]
    exact .of_clients rfl rfl rfl rfl rfl

/-- A task lets the call end that it resumes, or wait for something else. -/
theorem sways_poll (hv : x.Valid) {stray : ClientId → Token → Prop}
    (ha : x.system.Attended none stray) : x.Sways .poll x.system.poll := by
  unfold System.poll
  split
  · exact .self
  · next st rest hr => exact .of_heeds (System.heeds_serveStep (by rw [hr]; rfl))
  · next st rest hr => exact .of_heeds (System.heeds_listenStep (by rw [hr]; rfl))
  · next K rest hr =>
    have hhead : x.system.ready.head? = some (.resume K) := by rw [hr]; rfl
    by_cases hp : ∃ call ∈ (x.system.client K.client).calls, call.serial = K.serial
    · obtain ⟨call, hm, hs⟩ := hp
      exact .resumes K call rfl hhead hm hs (System.stroke_resume hv.system ha hm hs)
    · -- the call is no longer pending, so nobody waits for this task
      have hcall : x.system.dequeue.call? K = none := by
        refine List.find?_eq_none.mpr fun call hm hs => hp ⟨call, hm, ?_⟩
        simpa using hs
      have he : x.system.dequeue.resume K = x.system.dequeue := by
        unfold System.resume
        simp only [hcall]
      rw [he]
      refine .spares ⟨fun _ => rfl, fun _ _ h => h, fun _ => rfl, fun _ => rfl,
        fun stray h => h.dequeue ?_⟩
      intro id call hm _ hh
      rw [hhead] at hh
      cases hh
      exact hp ⟨call, hm, rfl⟩

/-- Every move leaves the pending calls as they are, or lets one of them run, or drops one. -/
theorem sways_make (hv : x.Valid) {stray : ClientId → Token → Prop}
    (ha : x.system.Attended none stray) (m : Move) : x.Sways m (x.make m).system := by
  cases m with
  | act action => exact sways_act hv.system action
  | start name request => exact sways_start hv ha name request
  | advance span => exact .spares (System.spares_advance x.system span)
  | poll => exact sways_poll hv ha
  | observe posted outcome =>
    exact .spares ⟨fun _ => rfl, fun _ _ h => h, fun _ => rfl, fun _ => rfl, fun _ h => ⟨h.serials, h.made,
      h.running, h.queue, h.openers, h.sorted, h.timers, h.tended, h.settingUp⟩⟩

/-! ### Nobody is overlooked along a run -/

/-- A move drops a call that has begun the scope of a token and waits for its stream. -/
def Abandons (x : Scenario) (m : Move) (id : ClientId) (token : Token) : Prop :=
  ∃ task name K reading call, m = .act (.abort task) ∧
    (x.tasks.find? fun t => decide (t.1 = task)) = some (name, .call K reading) ∧
    x.system.call? K = some call ∧ K.client = id ∧ call.wait.settingUp? = some token

/-- Somewhere along a run, the call has been dropped that had begun the scope of a token. -/
def Abandoned (x : Scenario) (ms : List Move) (id : ClientId) (token : Token) : Prop :=
  ∃ ms₁ m ms₂, ms = ms₁ ++ m :: ms₂ ∧ (x.after ms₁).Abandons m id token

/-- What is abandoned later in a run is abandoned in the run. -/
theorem Abandoned.cons {ms : List Move} {id : ClientId} {token : Token}
    (h : (x.make m).Abandoned ms id token) : x.Abandoned (m :: ms) id token := by
  obtain ⟨ms₁, m', ms₂, rfl, ha⟩ := h
  exact ⟨m :: ms₁, m', ms₂, rfl, ha⟩

/-- A move overlooks no pending call. -/
theorem attended_make (hv : x.Valid) {stray : ClientId → Token → Prop}
    (ha : x.system.Attended none stray) (m : Move) :
    (x.make m).system.Attended none fun id token => stray id token ∨ x.Abandons m id token := by
  have kept : ∀ {s : System}, s.Attended none stray →
      s.Attended none fun id token => stray id token ∨ x.Abandons m id token :=
    fun h => h.weaken fun _ _ => .inl
  have unowned : ∀ K id token, System.Astray stray K none id token ↔ stray id token := by
    intro K id token
    simp [System.Astray]
  cases sways_make hv ha m with
  | spares h => exact kept (h.attended stray ha)
  | starts id h =>
    exact kept (h.attended stray ((ha.newCall id).weaken fun id' token => (unowned _ id' token).mpr))
  | resumes K call hm hr hc hs h =>
    -- the task that leaves the queue is that of the call that runs
    refine kept (h.attended stray ((ha.takeUp hc hs).dequeue fun id other ho hb hh => ?_))
    rw [hr] at hh
    exact hb (by cases hh; rfl)
  | drops task name K reading call hm hf hc ht =>
    have hmem : call ∈ (x.system.client K.client).calls := List.mem_of_find?_eq_some hc
    have hs : call.serial = K.serial := by simpa using List.find?_some hc
    have hw : (x.system.withdraw K).Attended none
        fun id token => stray id token ∨ x.Abandons m id token := by
      refine (ha.takeUp hmem hs).withdraw.weaken fun id token hst => hst.imp_right ?_
      rintro ⟨rfl, hset⟩
      exact ⟨task, name, K, reading, call, hm, hf, hc, rfl, hset⟩
    rw [ht]
    exact hw.heeds (System.heeds_retire x.system K call.kind)

/-- Along a run every pending call stays attended, but for those in scopes that were abandoned. -/
theorem attended_from (hv : x.Valid) {stray : ClientId → Token → Prop}
    (ha : x.system.Attended none stray) (ms : List Move) :
    (x.after ms).system.Attended none fun id token => stray id token ∨ x.Abandoned ms id token := by
  -- on the moves; each of them may leave one more scope without its stream
  induction ms generalizing x stray with
  | nil => exact ha.weaken fun _ _ => .inl
  | cons m rest ih =>
    refine (ih (hv.make m) (attended_make hv ha m)).weaken fun id token h => ?_
    rcases h with (h | h) | h
    · exact .inl h
    · exact .inr ⟨[], m, rest, rfl, h⟩
    · exact .inr h.cons

/-- Where there are no clients no call is overlooked. -/
theorem attended_blank {s : System} (hc : s.clients = .empty) (ht : s.timers = []) :
    s.Attended none fun _ _ => False := by
  have client : ∀ id, s.client id = default := by
    intro id
    unfold System.client
    rw [hc]
    rfl
  refine ⟨fun id => ?_, fun id call hm => ?_, by simp, fun id => ?_, fun id n hn => ?_,
    by rw [ht]; exact .nil, by simp [ht], fun id call hm => ?_, fun id token h => ?_⟩
  · rw [client]
    exact .nil
  · rw [client] at hm
    cases hm
  · rw [client]
    exact .nil
  · rw [client] at hn
    cases hn
  · rw [client] at hm
    cases hm
  · rw [client] at h
    cases h

/-- Along every run, no pending call is overlooked, and only dropped calls leave a scope without its
stream. -/
theorem attended_after (devices : List String) (confs : List Pipeconf)
    (bindings : List (String × PipeconfId)) (config : ConfigChange) (capacity : Nat)
    (ms : List Move) :
    ((initial devices confs bindings config capacity).after ms).system.Attended none
      ((initial devices confs bindings config capacity).Abandoned ms) :=
  (attended_from (valid_initial devices confs bindings config capacity)
    (attended_blank rfl rfl) ms).weaken fun _ _ h => h.resolve_left fun h => h

end Scenario

end P4Control
