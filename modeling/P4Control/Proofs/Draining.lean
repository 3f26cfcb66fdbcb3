import P4Control.Proofs.Interleaving
import P4Control.Proofs.Outbox
import P4Control.Proofs.Plumbing

namespace P4Control

/-!
# Draining the uplinks

Where nothing is accepted, what waits on the uplinks goes to the agents: each stream in its order, and
each switch has taken what came from all of its streams.  An agent is done with a stream only when nothing
waits on it.

* `takenFrom`, `takenBy` — what has been taken from a stream, and by the agent of a switch.
* `System.Ebbs` — what the agents take, and what stays.
* `Happens.ebbs`, `Leads.ebbs` — incidents in which nothing is accepted.
* `Scenario.ebbs_polls` — the steps of tasks.
-/

variable {log log' : List (StreamId × StreamRequest)}

/-- The frames that have been taken from a stream. -/
def takenFrom (st : StreamId) (log : List (StreamId × StreamRequest)) : List StreamRequest :=
  (log.filter fun p => decide (p.1 = st)).map (·.2)

/-- The frames that the agent of a switch has taken, from all of its streams. -/
def takenBy (n : SwitchName) (log : List (StreamId × StreamRequest)) : List StreamRequest :=
  (log.filter fun p => decide (p.1.switch = n)).map (·.2)

/-- What is taken from a stream, in two parts of a log. -/
theorem takenFrom_append (st : StreamId) (log log' : List (StreamId × StreamRequest)) :
    takenFrom st (log ++ log') = takenFrom st log ++ takenFrom st log' := by
  rw [takenFrom, List.filter_append, List.map_append]
  rfl

/-- What a switch takes, in two parts of a log. -/
theorem takenBy_append (n : SwitchName) (log log' : List (StreamId × StreamRequest)) :
    takenBy n (log ++ log') = takenBy n log ++ takenBy n log' := by
  rw [takenBy, List.filter_append, List.map_append]
  rfl

/-- What is taken from a stream in one entry. -/
theorem takenFrom_one (st : StreamId) (p : StreamId × StreamRequest) :
    takenFrom st [p] = if p.1 = st then [p.2] else [] := by
  by_cases h : p.1 = st <;> simp [takenFrom, h]

/-- What a switch takes in one entry. -/
theorem takenBy_one (n : SwitchName) (p : StreamId × StreamRequest) :
    takenBy n [p] = if p.1.switch = n then [p.2] else [] := by
  by_cases h : p.1.switch = n <;> simp [takenBy, h]

/-- What has been taken from a stream has been taken by the agent of its switch, in the same order. -/
theorem takenFrom_sublist (st : StreamId) (log : List (StreamId × StreamRequest)) :
    (takenFrom st log).Sublist (takenBy st.switch log) := by
  have he : takenFrom st log = takenFrom st (log.filter fun p => decide (p.1.switch = st.switch)) := by
    unfold takenFrom
    rw [List.filter_filter]
    congr 1
    refine List.filter_congr fun p _ => ?_
    by_cases hp : p.1 = st <;> simp [hp]
  rw [he]
  exact List.filter_sublist.map _

namespace System

variable {s t u : System} {st : StreamId}

/-- Nothing is accepted.  The agents take what the log tells, and the rest stays; a stream without a sender
gets none, and the agent is done with a stream only when nothing waits on it. -/
structure Ebbs (s : System) (log : List (StreamId × StreamRequest)) (t : System) : Prop where
  count : ∀ n, (s.switch n).streamCount ≤ (t.switch n).streamCount
  frames : ∀ st, st.serial < (s.switch st.switch).streamCount →
    (s.stream st).uplink.frames = takenFrom st log ++ (t.stream st).uplink.frames
  unsent : ∀ st, st.serial < (s.switch st.switch).streamCount →
    (s.stream st).uplink.hasSender = false → (t.stream st).uplink.hasSender = false
  served : ∀ st, st.serial < (s.switch st.switch).streamCount → (s.stream st).served = true →
    (t.stream st).served = true ∨ (t.stream st).uplink.frames = []
  claims : ∀ n, (t.switch n).agent.claims = (s.switch n).agent.claims ++ claimsIn (takenBy n log)
  packets : ∀ n, (t.switch n).agent.packetOuts =
    (s.switch n).agent.packetOuts ++ packetsIn (takenBy n log)

/-- Nothing is taken in no change. -/
theorem Ebbs.refl (s : System) : Ebbs s [] s :=
  ⟨fun _ => Nat.le_refl _, fun _ _ => rfl, fun _ _ h => h, fun _ _ h => .inl h,
    fun _ => (List.append_nil _).symm, fun _ => (List.append_nil _).symm⟩

/-- What is taken in two changes is taken one after the other. -/
theorem Ebbs.trans (h : Ebbs s log t) (h' : Ebbs t log' u) : Ebbs s (log ++ log') u where
  count n := Nat.le_trans (h.count n) (h'.count n)
  frames st hset := by
    rw [h.frames st hset, h'.frames st (Nat.lt_of_lt_of_le hset (h.count _)), takenFrom_append,
      List.append_assoc]
  unsent st hset hn := h'.unsent st (Nat.lt_of_lt_of_le hset (h.count _)) (h.unsent st hset hn)
  served st hset hs := by
    have hset' := Nat.lt_of_lt_of_le hset (h.count st.switch)
    rcases h.served st hset hs with hs | hf
    · exact h'.served st hset' hs
    · have hframes := h'.frames st hset'
      rw [hf] at hframes
      exact .inr (List.append_eq_nil_iff.mp hframes.symm).2
  claims n := by
    rw [h'.claims, h.claims, takenBy_append, claimsIn_append, List.append_assoc]
  packets n := by
    rw [h'.packets, h.packets, takenBy_append, packetsIn_append, List.append_assoc]

/-- The agents take nothing. -/
theorem ebbs_of_still (hn : ∀ n, (s.switch n).streamCount ≤ (t.switch n).streamCount)
    (hst : ∀ st, st.serial < (s.switch st.switch).streamCount →
      (t.stream st).uplink.frames = (s.stream st).uplink.frames ∧
        ((s.stream st).uplink.hasSender = false → (t.stream st).uplink.hasSender = false) ∧
        (t.stream st).served = (s.stream st).served)
    (hw : ∀ n, (t.switch n).agent.claims = (s.switch n).agent.claims ∧
      (t.switch n).agent.packetOuts = (s.switch n).agent.packetOuts) : Ebbs s [] t where
  count := hn
  frames st hset := (hst st hset).1.symm
  unsent st hset := (hst st hset).2.1
  served st hset hs := .inl ((hst st hset).2.2.trans hs)
  claims n := by rw [(hw n).1]; exact (List.append_nil _).symm
  packets n := by rw [(hw n).2]; exact (List.append_nil _).symm

/-- Where the agents and the uplinks stay as they are, nothing is taken. -/
theorem ebbs_of_same (hst : ∀ st, (t.stream st).uplink.frames = (s.stream st).uplink.frames ∧
      ((s.stream st).uplink.hasSender = false → (t.stream st).uplink.hasSender = false) ∧
      (t.stream st).served = (s.stream st).served)
    (hw : ∀ n, t.switch n = s.switch n) : Ebbs s [] t :=
  ebbs_of_still (fun n => Nat.le_of_eq (by rw [hw n])) (fun st _ => hst st)
    fun n => by rw [hw n]; exact ⟨rfl, rfl⟩

/-- Nothing is taken in a quiet change. -/
theorem Quiet.ebbs (q : Quiet s t) : Ebbs s [] t :=
  ebbs_of_still
    (fun n => Nat.le_of_eq (congrArg Line.streamCount (q.line n)).symm)
    (fun st _ => by rw [q.stream st]; exact ⟨rfl, id, rfl⟩)
    fun n => ⟨congrArg Line.claims (q.line n), congrArg Line.packetOuts (q.line n)⟩

/-- Nothing is taken until the task has run. -/
theorem ebbs_dequeue (s : System) : Ebbs s [] s.dequeue :=
  ebbs_of_same (fun _ => ⟨rfl, fun h => h, rfl⟩) fun _ => rfl

/-- A session that ends accepts nothing more; what waits stays. -/
theorem ebbs_endScope (s : System) (id : ClientId) (ended : Scope StreamId) :
    Ebbs s [] (s.endScope id ended) := by
  refine ebbs_of_same (fun st => ?_) fun n => switch_endScope s id ended n
  rw [stream_endScope]
  split
  · exact ⟨rfl, fun _ => rfl, rfl⟩
  · exact ⟨rfl, fun h => h, rfl⟩

/-- Nothing is taken by an event. -/
theorem ebbs_post (s : System) (e : Event) : Ebbs s [] (s.post e) :=
  ebbs_of_same (fun _ => ⟨rfl, id, rfl⟩) fun _ => rfl

/-- A close loses no frame that waits. -/
theorem ebbs_closeSession (s : System) (id : ClientId) : Ebbs s [] (s.closeSession id) := by
  rw [closeSession_eq]
  split
  · exact (ebbs_endScope s id _).trans (ebbs_post _ _)
  · exact ebbs_endScope s id _

/-- A script does not reach the agent. -/
theorem agent_playScript (s : System) (n : SwitchName) (capacity : Option Nat) (script : ScriptedStream)
    (rest : List ScriptedStream) (m : SwitchName) :
    ((s.playScript n capacity script rest).1.switch m).agent = (s.switch m).agent := by
  show ((((s.updateSwitch n _).updateStream _ _).updateSwitch n _).switch m).agent = _
  rw [switch_updateSwitch, switch_updateStream, switch_updateStream, switch_updateSwitch,
    switch_updateSwitch]
  by_cases h : n = m <;> simp [h]

/-- A stream is set up beside those that are there. -/
theorem ebbs_opened {id : ClientId} {begun activated : Scope StreamId} {token : Token} {afterFailure : Bool}
    {n : SwitchName} {st : StreamId} (hn : (s.beginScope id begun).Adds n t st)
    (hst : ∀ st', st ≠ st' → (t.stream st').uplink = (s.stream st').uplink ∧
      (t.stream st').served = (s.stream st').served)
    (hw : ∀ m, (t.switch m).agent = (s.switch m).agent) :
    Ebbs s [] (t.goLive id token afterFailure activated st) := by
  have hcount : ∀ m, (t.switch m).streamCount = (s.switch m).streamCount + if n = m then 1 else 0 :=
    hn.count
  refine ebbs_of_still (fun m => ?_) (fun st' hset => ?_) fun m => ?_
  · rw [switch_goLive, hcount m]
    exact Nat.le_add_right _ _
  · have hne : st ≠ st' := by
      rintro rfl
      rw [hn.name] at hset
      exact Nat.lt_irrefl _ hset
    rw [stream_goLive, if_neg hne, (hst st' hne).1]
    exact ⟨rfl, fun h => h, (hst st' hne).2⟩
  · rw [switch_goLive, hw m]
    exact ⟨rfl, rfl⟩

/-- The agent of a switch takes a frame. -/
theorem ebbs_serve {frame : StreamRequest} {uplink : Pipe StreamRequest}
    (hu : (s.stream st).uplink.receive = .frame frame uplink) :
    Ebbs s [(st, frame)] ((s.updateStream st fun v => { v with uplink }).serveFrame st.switch frame) := by
  obtain ⟨hframes, he⟩ := Pipe.receive_eq_frame.mp hu
  have hup := fun st' =>
    uplink_serveFrame (s.updateStream st fun v => { v with uplink }) st.switch frame st'
  have hsw : ∀ n, ((s.updateStream st fun v => { v with uplink }).serveFrame st.switch frame).switch n =
      if st.switch = n then { s.switch st.switch with agent := agentAfter (s.switch st.switch).agent frame }
      else s.switch n := by
    intro n
    rw [switch_serveFrame]
    rfl
  -- What the agent sends back goes down, so the queues upwards change by the one frame it takes.
  refine ⟨fun n => ?_, fun st' _ => ?_, fun st' _ hn => ?_, fun st' _ hs => .inl ?_, fun n => ?_,
    fun n => ?_⟩
  · rw [hsw]
    split
    · next h => exact Nat.le_of_eq (by rw [← h])
    · exact Nat.le_refl _
  · rw [(hup st').1, stream_updateStream, takenFrom_one]
    split
    · next h =>
      rw [← h]
      exact hframes
    · rfl
  · rw [(hup st').1, stream_updateStream]
    split
    · next h =>
      rw [← h] at hn
      rw [he]
      exact hn
    · exact hn
  · rw [(hup st').2.1, stream_updateStream]
    split
    · next h =>
      rw [← h] at hs
      exact hs
    · exact hs
  all_goals
    rw [hsw, takenBy_one]
    split
    · next h =>
      rw [← h]
      cases frame <;> simp [agentAfter, Agent.receivePacket, Agent.arbitrate, claimsIn, packetsIn]
    · exact (List.append_nil _).symm

/-- The agent is done with a stream on which nothing waits. -/
theorem ebbs_drained (s : System) (hf : (s.stream st).uplink.frames = []) :
    Ebbs s [] (s.dequeue.updateStream st fun v =>
      { v with uplink := v.uplink.dropReceiver, served := false }) := by
  refine ⟨fun _ => Nat.le_refl _, fun st' _ => ?_, fun st' _ hn => ?_, fun st' _ h => ?_,
    fun _ => (List.append_nil _).symm, fun _ => (List.append_nil _).symm⟩
  all_goals rw [stream_updateStream]
  · split
    · next h =>
      rw [← h, hf]
      rfl
    · rfl
  · split
    · next h =>
      rw [← h] at hn
      exact hn
    · exact hn
  · split
    · exact .inr rfl
    · exact .inl h

/-- A client takes a frame from its stream. -/
theorem ebbs_heard (s : System) (id : ClientId) (frame : StreamResponse)
    (downlink : Pipe (Arrival StreamResponse)) :
    Ebbs s [] ((s.updateStream st fun v => { v with downlink }).listenFrame id frame) := by
  refine ebbs_of_same (fun st' => ?_) fun n => ?_
  · rw [stream_listenFrame, stream_updateStream]
    split
    · next h =>
      rw [← h]
      exact ⟨rfl, fun h => h, rfl⟩
    · exact ⟨rfl, fun h => h, rfl⟩
  · rw [switch_listenFrame]
    rfl

/-- The outbound half of a stream stays when its inbound half is dropped. -/
theorem ebbs_dropListener (s : System) (st : StreamId) : Ebbs s [] (s.dropListener st) := by
  refine ebbs_of_same (fun st' => ?_) fun _ => rfl
  rw [stream_dropListener]
  split
  · next h =>
    rw [← h]
    exact ⟨rfl, fun h => h, rfl⟩
  · exact ⟨rfl, fun h => h, rfl⟩

/-- An agent that lets go of a stream goes on to read it. -/
theorem ebbs_detach (s : System) (name : SwitchName) : Ebbs s [] (s.detach name) := by
  have same : ∀ n, (s.detach name).switch n =
      { s.switch n with attached := ((s.detach name).switch n).attached } := by
    intro n
    rw [switch_detach]
    split
    · next h => rw [← h]
    · rfl
  refine ebbs_of_still (fun n => ?_) (fun st' _ => ?_) fun n => ?_
  · exact Nat.le_of_eq (congrArg Switch.streamCount (same n)).symm
  · rw [stream_detach]
    split <;> exact ⟨rfl, fun h => h, rfl⟩
  · rw [same n]
    exact ⟨rfl, rfl⟩

/-- What the agent sends it does not take. -/
theorem ebbs_pushFrame (s : System) (name : SwitchName) (frame : Arrival StreamResponse) :
    Ebbs s [] (s.pushFrame name frame).1 := by
  refine ebbs_of_same (fun st' => ?_) fun n => switch_pushFrame _ name n frame
  obtain ⟨hu, hv, -⟩ := uplink_pushFrame s name frame st'
  rw [hu, hv]
  exact ⟨rfl, fun h => h, rfl⟩

/-- An agent changes, but not in what it has taken. -/
theorem ebbs_steered {name : SwitchName} {agent : Agent} (hc : agent.claims = (s.switch name).agent.claims)
    (hp : agent.packetOuts = (s.switch name).agent.packetOuts) :
    Ebbs s [] (s.updateSwitch name fun w => { w with agent }) := by
  refine ebbs_of_still (fun n => ?_) (fun _ _ => ⟨rfl, fun h => h, rfl⟩) fun n => ?_
  all_goals rw [switch_updateSwitch]
  · split
    · next h => exact Nat.le_of_eq (by rw [← h])
    · exact Nat.le_refl _
  · split
    · next h =>
      rw [← h]
      exact ⟨hc, hp⟩
    · exact ⟨rfl, rfl⟩

section

variable {id : ClientId} {token : Token} {afterFailure : Bool} {begun activated : Scope StreamId}
  {capacity : Option Nat}

/-- A session opens on a stream with the agent. -/
theorem ebbs_openWithAgent (hc : (s.beginScope id begun).connect (s.client id).switch capacity = (t, st)) :
    Ebbs s [] (t.goLive id token afterFailure activated st) := by
  have hn := adds_connect (s.beginScope id begun) (s.client id).switch capacity
  have hst := stream_connect (s.beginScope id begun) (s.client id).switch capacity
  have hw := switch_connect (s.beginScope id begun) (s.client id).switch
  rw [hc] at hn hst
  refine ebbs_opened hn (fun st' hne => ?_) fun m => ?_
  · rw [hst st', if_neg (by rw [← hn.name]; exact hne), stream_detach]
    split <;> exact ⟨rfl, rfl⟩
  · have hm := hw m capacity
    rw [hc] at hm
    rw [hm]
    split
    · next h =>
      rw [← h]
      rfl
    · rfl

/-- A session opens on the stream of a script. -/
theorem ebbs_openWithScript {script : ScriptedStream} {rest : List ScriptedStream}
    (hc : (s.beginScope id begun).playScript (s.client id).switch capacity script rest = (t, st)) :
    Ebbs s [] (t.goLive id token afterFailure activated st) := by
  have hn := adds_playScript (s.beginScope id begun) (s.client id).switch capacity script rest
  have hst := stream_playScript (s.beginScope id begun) (s.client id).switch capacity script rest
  rw [hc] at hn hst
  refine ebbs_opened hn (fun st' hne => ?_) fun m => ?_
  · rw [hst st', if_neg (by rw [← hn.name]; exact hne)]
    exact ⟨rfl, rfl⟩
  · have hm := agent_playScript (s.beginScope id begun) (s.client id).switch capacity script rest m
    rw [hc] at hm
    exact hm

end

/-! ### Incidents -/

/-- Where nothing is accepted, the uplinks ebb. -/
theorem Happens.ebbs {i : Incident} (hi : Happens s i t) (ha : i.accepts = false) :
    ∃ log, Ebbs s log t := by
  cases hi with
  | created | filed | told | began =>
    exact ⟨[], ebbs_of_same (fun _ => ⟨rfl, fun h => h, rfl⟩) fun _ => rfl⟩
  | idled task => exact ⟨[], ebbs_dequeue s⟩
  | opened id token afterFailure begun activated capacity t st hk hb hc hact hq =>
    exact ⟨[], ebbs_openWithAgent hc⟩
  | played id token afterFailure begun activated capacity script rest t st hk hb hs hc hact hq =>
    exact ⟨[], ebbs_openWithScript hc⟩
  | closed id hk => exact ⟨[], ebbs_closeSession s id⟩
  | released id hk hh => exact ⟨[], ebbs_closeSession s id⟩
  | failed id token hk ht =>
    rw [failSession_eq ht]
    exact ⟨[], ebbs_endScope s id _⟩
  | unavailable id token reason hk ht =>
    rw [failSession_eq ht]
    exact ⟨_, (ebbs_endScope s id _).trans (ebbs_post _ _)⟩
  | claimed | sent | foreign => cases ha
  | heard id token st frame downlink => exact ⟨[], ebbs_heard s id frame downlink⟩
  | left id token st => exact ⟨_, (ebbs_dequeue s).trans (ebbs_dropListener s.dequeue st)⟩
  | served st frame uplink hv hu => exact ⟨_, ebbs_serve hu⟩
  | drained st hr hv hf hs => exact ⟨[], ebbs_drained s hf⟩
  | detached name => exact ⟨[], ebbs_detach s name⟩
  | pushed name frame => exact ⟨[], ebbs_pushFrame s name frame⟩
  | steered name agent hc hp => exact ⟨[], ebbs_steered hc hp⟩

/-- So they do along a sequence of incidents. -/
theorem Leads.ebbs {is : List Incident} (l : Leads s is t) (ha : ∀ i ∈ is, i.accepts = false) :
    ∃ log, Ebbs s log t := by
  induction l with
  | refl s => exact ⟨[], .refl s⟩
  | quiet q _ ih =>
    obtain ⟨log, h⟩ := ih ha
    exact ⟨_, q.ebbs.trans h⟩
  | cons hi _ ih =>
    obtain ⟨log, h⟩ := hi.ebbs (ha _ List.mem_cons_self)
    obtain ⟨log', h'⟩ := ih fun j hj => ha j (List.mem_cons_of_mem _ hj)
    exact ⟨log ++ log', h.trans h'⟩

end System

namespace Scenario

variable {x : Scenario}

/-! ### Steps of tasks -/

/-- While tasks run, the uplinks ebb. -/
theorem ebbs_polls (hv : x.Valid) (n : Nat) :
    ∃ log, System.Ebbs x.system log (x.after (List.replicate n .poll)).system := by
  induction n generalizing x with
  | zero => exact ⟨[], .refl _⟩
  | succ n ih =>
    obtain ⟨is, hm, hl⟩ := leads_make hv (m := .poll) (by simp)
    obtain ⟨log, h⟩ := hl.ebbs (not_accepts_of_makes hm rfl (by simp))
    obtain ⟨log', h'⟩ := ih (hv.make .poll)
    exact ⟨log ++ log', h.trans h'⟩

/-- The tasks of a system run one step at a time. -/
theorem pollFor_eq_polls (x : Scenario) (n : Nat) :
    x.withSystem (System.pollFor n x.system) = x.after (List.replicate n .poll) := by
  induction n generalizing x with
  | zero => rfl
  | succ n ih =>
    rw [List.replicate_succ, after_cons, ← ih]
    show x.withSystem _ = x.withSystem (System.pollFor n x.system.poll)
    congr 1
    by_cases hr : x.system.ready = []
    · have hp : x.system.poll = x.system := by
        unfold System.poll
        rw [hr]
      rw [hp, System.pollFor_of_ready hr, System.pollFor_of_ready hr]
    · exact System.pollFor_succ hr n

end Scenario

end P4Control
