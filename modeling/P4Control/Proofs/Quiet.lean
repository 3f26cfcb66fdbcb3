import P4Control.Proofs.Incident

namespace P4Control

/-!
# Changes that no session notices

Waking tasks, moving calls and timers about and asking the agent for something are quiet.

* `Quiet.trans` — quiet changes in a row are a quiet change.
* `quiet_wake`, `quiet_updateClient`, `quiet_updateSwitch` — the elementary quiet changes.
* `line_setPipeline`, `line_getPipeline`, `line_read`, `line_write` — the calls on a switch.
* `Leads.append`, `Leads.one` — sequences of incidents.
-/

/-! ### The calls on a switch -/

namespace Agent

/-- What sessions have to do with in an agent stays as it is. -/
def SameRole (a b : Agent) : Prop :=
  b.master = a.master ∧ b.acknowledges = a.acknowledges ∧ b.claims = a.claims ∧
    b.packetOuts = a.packetOuts

variable (a : Agent)

/-- A call that is counted, and perhaps answered by a fault, changes no role. -/
theorem sameRole_enter (rpc : Rpc) : a.SameRole (a.enter rpc).1 := by
  simp only [enter]
  split <;> exact ⟨rfl, rfl, rfl, rfl⟩

/-- A call keeps the role of the agent if its work does. -/
theorem sameRole_answer {α : Type} (rpc : Rpc) (work : Agent → Agent × Answer α)
    (h : ∀ b : Agent, b.SameRole (work b).1) : a.SameRole (a.answer rpc work).1 := by
  have he := a.sameRole_enter rpc
  unfold answer
  split
  · next b hb =>
    rw [hb] at he
    obtain ⟨hm, ha, hc, hp⟩ := h b
    exact ⟨hm.trans he.1, ha.trans he.2.1, hc.trans he.2.2.1, hp.trans he.2.2.2⟩
  · next b status hb =>
    rw [hb] at he
    exact he
  · next b hb =>
    rw [hb] at he
    exact he

/-- Taking a program changes no role. -/
theorem sameRole_setPipeline (request : SetPipelineRequest) :
    a.SameRole (a.setPipeline request).1 := by
  refine a.sameRole_answer _ _ fun b => ?_
  split
  · split <;> exact ⟨rfl, rfl, rfl, rfl⟩
  · exact ⟨rfl, rfl, rfl, rfl⟩

/-- Telling the program changes no role. -/
theorem sameRole_getPipeline (request : GetPipelineRequest) :
    a.SameRole (a.getPipeline request).1 :=
  a.sameRole_answer _ _ fun _ => ⟨rfl, rfl, rfl, rfl⟩

/-- Answering a read changes no role. -/
theorem sameRole_read (request : EntityQuery) : a.SameRole (a.read request).1 :=
  a.sameRole_answer _ _ fun _ => ⟨rfl, rfl, rfl, rfl⟩

/-- Applying updates changes no role. -/
theorem sameRole_write (request : UpdateBatch) : a.SameRole (a.write request).1 := by
  refine a.sameRole_answer _ _ fun b => ?_
  split <;> exact ⟨rfl, rfl, rfl, rfl⟩

end Agent

namespace Switch

variable (w : Switch)

/-- An agent in the same role leaves the line of its switch as it is. -/
theorem line_eq {w v : Switch} (ha : w.agent.SameRole v.agent) (ht : v.attached = w.attached)
    (hc : v.streamCount = w.streamCount) (hs : v.scriptedStreams = w.scriptedStreams) :
    v.line = w.line := by
  obtain ⟨hm, hk, hl, hp⟩ := ha
  unfold line
  rw [ht, hc, hs, hm, hk, hl, hp]

/-- A push does not touch the switch's line to its clients. -/
theorem line_setPipeline (request : SetPipelineRequest) :
    (w.setPipeline request).1.line = w.line :=
  line_eq (w.agent.sameRole_setPipeline request) rfl rfl rfl

/-- A query for the program does not touch it. -/
theorem line_getPipeline (request : GetPipelineRequest) :
    (w.getPipeline request).1.line = w.line := by
  unfold getPipeline
  dsimp only
  split
  · rfl
  · exact line_eq (w.agent.sameRole_getPipeline request) rfl rfl rfl

/-- A read does not touch it. -/
theorem line_read (request : EntityQuery) : (w.read request).1.line = w.line := by
  unfold read
  dsimp only
  split
  · rfl
  · exact line_eq (w.agent.sameRole_read request) rfl rfl rfl

/-- A write does not touch it. -/
theorem line_write (request : UpdateBatch) : (w.write request).1.line = w.line := by
  unfold write
  dsimp only
  split
  · rfl
  · exact line_eq (w.agent.sameRole_write request) rfl rfl rfl

end Switch

namespace System

/-! ### Quiet changes -/

/-- No change is a quiet one. -/
theorem Quiet.refl (s : System) : Quiet s s where
  profile := fun _ => rfl
  keys := rfl
  stream := fun _ => rfl
  line := fun _ => rfl
  handles := rfl
  registry := rfl
  finished := rfl
  ready := fun _ h => h
  journal := ⟨[], by simp⟩
  waits := id

/-- Quiet changes add up to a quiet one. -/
theorem Quiet.trans {s t u : System} (h : Quiet s t) (h' : Quiet t u) : Quiet s u where
  profile := fun id => (h'.profile id).trans (h.profile id)
  keys := h'.keys.trans h.keys
  stream := fun st => (h'.stream st).trans (h.stream st)
  line := fun n => (h'.line n).trans (h.line n)
  handles := h'.handles.trans h.handles
  registry := h'.registry.trans h.registry
  finished := h'.finished.trans h.finished
  ready := fun task ht => h'.ready task (h.ready task ht)
  journal := by
    obtain ⟨es, he, hk⟩ := h.journal
    obtain ⟨es', he', hk'⟩ := h'.journal
    refine ⟨es ++ es', ?_, ?_⟩
    · rw [he', he, List.append_assoc]
    · intro e hm
      exact (List.mem_append.mp hm).elim (hk e) (hk' e)
  waits := fun hw => h'.waits (h.waits hw)

variable {s : System}

/-- Changes outside the clients, the streams and the switches, and tasks that become runnable. -/
theorem quiet_of_parts {t : System} (hc : t.clients = s.clients) (hs : t.streams = s.streams)
    (hw : t.switches = s.switches) (hh : t.handles = s.handles) (hr : t.registry = s.registry)
    (hf : t.finished = s.finished) (ht : ∀ task ∈ s.ready, task ∈ t.ready)
    (hj : ∃ events, t.journal = s.journal ++ events ∧ ∀ e ∈ events, e.kind = .permissionDenied) :
    Quiet s t := by
  have client : ∀ id, t.client id = s.client id := by
    intro id
    unfold System.client
    rw [hc]
  refine ⟨?_, by rw [hc], ?_, ?_, hh, hr, hf, ht, hj, ?_⟩
  · intro id
    rw [client]
  · intro st
    unfold stream
    rw [hs]
  · intro n
    unfold System.switch
    rw [hw]
  · intro h id
    rw [client]
    exact h id

/-- A change is quiet if all parts that others can see stay as they are, and no task is put to
sleep. -/
theorem quiet_of_eq {t : System} (hc : t.clients = s.clients) (hs : t.streams = s.streams)
    (hw : t.switches = s.switches) (hh : t.handles = s.handles) (hr : t.registry = s.registry)
    (hf : t.finished = s.finished) (hj : t.journal = s.journal)
    (ht : ∀ task ∈ s.ready, task ∈ t.ready) : Quiet s t :=
  quiet_of_parts hc hs hw hh hr hf ht ⟨[], by simp [hj]⟩

/-- Waking a task is quiet. -/
theorem quiet_wake (task : Task) : Quiet s (s.wake task) := by
  rw [wake_eq]
  exact quiet_of_eq rfl rfl rfl rfl rfl rfl rfl fun t ht => (mem_ready_wake s).mpr (.inr ht)

/-- Setting a timer is quiet. -/
theorem quiet_setTimer (t : Timer) : Quiet s (s.setTimer t) :=
  quiet_of_eq rfl rfl rfl rfl rfl rfl rfl fun _ h => h

/-- Telling that a request was denied is quiet: it is no event in the life of a session. -/
theorem quiet_post {e : Event} (he : e.kind = .permissionDenied) : Quiet s (s.post e) where
  profile := fun _ => rfl
  keys := rfl
  stream := fun _ => rfl
  line := fun _ => rfl
  handles := rfl
  registry := rfl
  finished := rfl
  ready := fun _ h => h
  journal := ⟨[e], rfl, by simpa using he⟩
  waits := id

/-- A client changes in what sessions have nothing to do with. -/
theorem quiet_updateClient {id : ClientId} {f : Client → Client} (hk : s.Knows id)
    (hp : (f (s.client id)).profile = (s.client id).profile)
    (hw : ∀ call ∈ (f (s.client id)).calls, call ∈ (s.client id).calls ∨
      ∀ token, call.wait.token? = some token → token < (s.client id).scope.begun) :
    Quiet s (s.updateClient id f) where
  profile := by
    intro id'
    rw [client_updateClient]
    split
    · next h => rw [hp, h]
    · rfl
  keys := keys_updateClient hk f
  stream := fun _ => rfl
  line := fun _ => rfl
  handles := rfl
  registry := rfl
  finished := rfl
  ready := fun _ h => h
  journal := ⟨[], by simp [updateClient]⟩
  waits := by
    intro h id' call hc token ht
    rw [client_updateClient] at hc ⊢
    split at hc
    · next hi =>
      subst hi
      rw [if_pos rfl, show (f (s.client id)).scope = (s.client id).scope from
        congrArg Profile.scope hp]
      -- the call was pending before, or waits in a scope that has begun
      rcases hw call hc with hold | hnew
      · exact h id call hold token ht
      · exact hnew token ht
    · next hi =>
      rw [if_neg hi]
      exact h id' call hc token ht

/-- A switch changes in what sessions have nothing to do with. -/
theorem quiet_updateSwitch {n : SwitchName} {f : Switch → Switch}
    (hl : (f (s.switch n)).line = (s.switch n).line) : Quiet s (s.updateSwitch n f) where
  profile := fun _ => rfl
  keys := rfl
  stream := fun _ => rfl
  line := by
    intro m
    rw [switch_updateSwitch]
    split
    · next h => rw [hl, h]
    · rfl
  handles := rfl
  registry := rfl
  finished := rfl
  ready := fun _ h => h
  journal := ⟨[], by simp [updateSwitch]⟩
  waits := id

/-- No session begins or ends in a quiet change. -/
theorem Quiet.scope {t : System} (q : Quiet s t) (id : ClientId) :
    (t.client id).scope = (s.client id).scope := congrArg Profile.scope (q.profile id)

/-- Clients keep their keys in a quiet change, as ever. -/
theorem Quiet.key {t : System} (q : Quiet s t) (id : ClientId) :
    (t.client id).key = (s.client id).key := congrArg Profile.key (q.profile id)

/-- Clients keep their switches in a quiet change, as ever. -/
theorem Quiet.switch {t : System} (q : Quiet s t) (id : ClientId) :
    (t.client id).switch = (s.client id).switch := congrArg Profile.switch (q.profile id)

/-- No client is created in a quiet change. -/
theorem Quiet.knows {t : System} (q : Quiet s t) (id : ClientId) : t.Knows id ↔ s.Knows id := by
  unfold Knows
  rw [q.keys]

/-! ### Sequences of incidents -/

/-- Sequences of incidents are put one behind the other. -/
theorem Leads.append {t u : System} {is js : List Incident} (h : Leads s is t)
    (h' : Leads t js u) : Leads s (is ++ js) u := by
  induction h with
  | refl s => exact h'
  | quiet q _ ih => exact .quiet q (ih h')
  | cons hi _ ih => exact .cons hi (ih h')

/-- A quiet change is a sequence without incidents. -/
theorem Leads.of_quiet {t : System} (q : Quiet s t) : Leads s [] t := .quiet q (.refl t)

/-- An incident is a sequence of one. -/
theorem Leads.one {t : System} {i : Incident} (h : Happens s i t) : Leads s [i] t :=
  .cons h (.refl t)

/-- A quiet change at the end of a sequence. -/
theorem Leads.andQuiet {t u : System} {is : List Incident} (h : Leads s is t) (q : Quiet t u) :
    Leads s is u := by
  have hl := h.append (.of_quiet q)
  rwa [List.append_nil] at hl

end System

end P4Control
