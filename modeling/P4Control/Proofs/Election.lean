import P4Control.Proofs.Bids
import P4Control.Proofs.Changes
import P4Control.Proofs.Interleaving
import P4Control.Proofs.Sending

namespace P4Control

/-!
# Who becomes master

Along a run the master of a switch is the one that the claims make it which its agent has taken in.  A
client that claims mastership while nothing else goes on learns from its agent whether it has got it.

* `Agent.Elects` — claims lead from one state of an agent to another.
* `Scenario.elects_after` — so it is along a run in which the master is not set by hand.
* `System.Talks` — an open session and its agent are connected, and what waits in between.
* `Talks.serve`, `Talks.hear`, `Talks.settle` — a claim is taken in and acknowledged.
* `highest_election_wins` — what comes of claims.
-/

namespace Agent

/-! ### Claims that an agent has taken in -/

/-- The agent has taken in claims, and nothing else has changed the master. -/
def Elects (a b : Agent) : Prop :=
  ∃ handled, b.claims = a.claims ++ handled ∧ b.master = (a.arbitrateAll handled).1.master

variable {a b c : Agent}

theorem Elects.of_same (hc : b.claims = a.claims) (hm : b.master = a.master) : a.Elects b :=
  ⟨[], by rw [hc, List.append_nil], hm⟩

theorem Elects.trans (h : a.Elects b) (h' : b.Elects c) : a.Elects c := by
  obtain ⟨handled, hc, hm⟩ := h
  obtain ⟨later, hc', hm'⟩ := h'
  refine ⟨handled ++ later, by rw [hc', hc, List.append_assoc], ?_⟩
  rw [hm', arbitrateAll_append]
  exact master_arbitrateAll_congr hm later

theorem SameRole.elects (h : a.SameRole b) : a.Elects b := .of_same h.2.2.1 h.1

/-- The acknowledgement of a claim tells who is the master now. -/
theorem acknowledges_claim (h : a.acknowledges = true) (claim : ArbitrationUpdate) :
    ∃ status, (a.arbitrate claim).2 =
      some ⟨claim.device, elect a.master claim.election, status⟩ :=
  ⟨_, if_pos h⟩

/-- A frame is taken in. -/
theorem elects_agentAfter (a : Agent) (frame : StreamRequest) :
    a.Elects (System.agentAfter a frame) := by
  cases frame with
  | arbitration claim => exact ⟨[claim], rfl, rfl⟩
  | packet wire => exact .of_same rfl rfl

end Agent

namespace System

variable {s t : System} {n : SwitchName}

theorem elects_of_same (h : t.switch n = s.switch n) :
    (s.switch n).agent.Elects (t.switch n).agent := by
  rw [h]
  exact .of_same rfl rfl

/-- A switch changes, and its agent has at most taken in claims. -/
theorem elects_updateSwitch (s : System) (name n : SwitchName) {f : Switch → Switch}
    (h : (s.switch name).agent.Elects (f (s.switch name)).agent) :
    (s.switch n).agent.Elects ((s.updateSwitch name f).switch n).agent := by
  rw [switch_updateSwitch]
  split
  · next he => exact he ▸ h
  · exact .of_same rfl rfl

theorem elects_detach (s : System) (name n : SwitchName) :
    (s.switch n).agent.Elects ((s.detach name).switch n).agent := by
  rw [switch_detach]
  split
  · next he => exact he ▸ .of_same rfl rfl
  · exact .of_same rfl rfl

theorem elects_connect (s : System) (name n : SwitchName) (capacity : Option Nat) :
    (s.switch n).agent.Elects ((s.connect name capacity).1.switch n).agent := by
  rw [switch_connect]
  split
  · next he => exact he ▸ .of_same rfl rfl
  · exact .of_same rfl rfl

theorem elects_attachStream (s : System) (name n : SwitchName) (capacity : Option Nat) :
    (s.switch n).agent.Elects ((s.attachStream name capacity).1.switch n).agent :=
  s.holds_attachStream (P := fun t => (s.switch n).agent.Elects (t.switch n).agent)
    (elects_updateSwitch s name n (f := fun w => { w with agent := _ })
      (Agent.sameRole_enter _ _).elects)
    fun t ht => ht.trans (elects_connect t name n capacity)

/-- The incidents in which the master does not change by anything but claims. -/
theorem Happens.elects {i : Incident} (h : Happens s i t) (hf : i ≠ .foreign)
    (hs : ∀ agent, i ≠ .steered n agent) : (s.switch n).agent.Elects (t.switch n).agent := by
  cases h with
  | created | filed | told | began | left | drained | idled => exact .of_same rfl rfl
  | opened id token afterFailure begun activated capacity t st hk hb hc ha hq =>
    have hcon := elects_connect (s.beginScope id begun) (s.client id).switch n capacity
    rw [hc] at hcon
    rw [switch_goLive]
    exact hcon
  | played id token afterFailure begun activated capacity script rest t st hk hb hs' hc ha hq =>
    obtain rfl : ((s.beginScope id begun).playScript (s.client id).switch capacity script rest).1 = t :=
      by rw [hc]
    rw [switch_goLive]
    have hrest := elects_updateSwitch (s.beginScope id begun) (s.client id).switch n
      (f := fun w => { w with scriptedStreams := rest }) (.of_same rfl rfl)
    exact hrest.trans (elects_updateSwitch (((s.beginScope id begun).updateSwitch
      (s.client id).switch fun w => { w with scriptedStreams := rest }).updateStream _ _) _ n
        (.of_same rfl rfl))
  | closed => exact elects_of_same (switch_closeSession s _ n)
  | released => exact elects_of_same (switch_closeSession s _ n)
  | failed => exact elects_of_same (switch_failSession s _ _ n)
  | unavailable => exact elects_of_same (switch_failSession s _ _ n)
  | claimed => exact elects_of_same (switch_wake _ _ n)
  | sent => exact elects_of_same (switch_wake _ _ n)
  | heard id token st frame downlink => exact elects_of_same (switch_listenFrame _ id frame n)
  | served st frame uplink =>
    -- This is the one place where a claim is decided.
    rw [switch_serveFrame]
    split
    · next he => exact he ▸ Agent.elects_agentAfter _ frame
    · exact .of_same rfl rfl
  | detached name => exact elects_detach s name n
  | pushed name frame => exact elects_of_same (switch_pushFrame s name n frame)
  | steered name agent hc hp =>
    have hne : name ≠ n := fun he => hs agent (by rw [he])
    rw [switch_updateSwitch, if_neg hne]
    exact .of_same rfl rfl
  | foreign => exact absurd rfl hf

theorem Quiet.elects (q : Quiet s t) : (s.switch n).agent.Elects (t.switch n).agent :=
  .of_same (congrArg Line.claims (q.line n)) (congrArg Line.master (q.line n))

theorem Leads.elects {is : List Incident} (h : Leads s is t) (hf : .foreign ∉ is)
    (hs : ∀ agent, .steered n agent ∉ is) : (s.switch n).agent.Elects (t.switch n).agent := by
  induction h with
  | refl s => exact .of_same rfl rfl
  | quiet q _ ih => exact q.elects.trans (ih hf hs)
  | cons hi _ ih =>
    simp only [List.mem_cons, not_or] at hf hs
    exact (hi.elects (Ne.symm hf.1) fun agent => Ne.symm (hs agent).1).trans
      (ih hf.2 fun agent => (hs agent).2)

end System

namespace Scenario

variable {x : Scenario} {n : SwitchName}

/-! ### Moves -/

/-- Only by steering is an agent steered. -/
theorem not_steered_of_makes {t : System} {m : Move} {is : List Incident} {agent : Agent}
    (h : Makes x t m is) (hm : ∀ steering, m ≠ .act (.steer n steering)) :
    .steered n agent ∉ is := by
  intro hi
  cases h.ofMove hi with
  | causes action hc =>
    obtain ⟨steering, rfl, -⟩ := hc
    exact hm steering rfl
  | call name request id hi => cases hi
  | task hi =>
    cases hi with
    | call K hr hi => cases hi

/-- Whether a move sets the master of a switch by hand. -/
def Move.setsMaster (n : SwitchName) : Move → Bool
  | .act (.steer switch (.setMaster _)) => decide (switch = n)
  | _ => false

/-- What else is steered has nothing to do with the master. -/
theorem elects_steer {switch : SwitchName} {steering : Steering}
    (hm : Move.setsMaster n (.act (.steer switch steering)) = false) :
    (x.system.switch n).agent.Elects
      ((x.act (.steer switch steering)).1.system.switch n).agent := by
  simp only [act, onSwitch]
  split
  · exact .of_same rfl rfl
  · show Agent.Elects _ ((x.system.updateSwitch switch fun w =>
      { w with agent := steering.apply w.agent }).switch n).agent
    rw [System.switch_updateSwitch]
    split
    · next he =>
      rw [he]
      cases steering with
      | setMaster id => exact absurd he (of_decide_eq_false hm)
      | _ => exact .of_same rfl rfl
    · exact .of_same rfl rfl

/-- Nor has what is done to streams past any client and agent. -/
theorem Effect.elects {action : Action} {t : System} (he : x.Effect action t)
    (ha : action.isForeign = true) : (x.system.switch n).agent.Elects (t.switch n).agent := by
  cases he with
  | stays | files | turnsAway | empties => exact .of_same rfl rfl
  | queues => exact System.elects_of_same (System.switch_wake _ _ n)
  | hangsUp => exact System.elects_of_same (System.switch_dropUplink _ _ n)
  | @scripts name script =>
    exact System.elects_updateSwitch x.system name n (by cases script <;> exact .of_same rfl rfl)
  | _ => cases ha

/-- Nor has a stream that is set up past any client. -/
theorem elects_rawOpen (name : String) (switch : SwitchName) :
    (x.system.switch n).agent.Elects
      ((x.start name (.rawOpen switch)).1.system.switch n).agent := by
  refine holds_rawOpen (P := fun t => (x.system.switch n).agent.Elects (t.switch n).agent)
    (.of_same rfl rfl) (System.elects_attachStream x.system switch n none) fun t old _ ht => ?_
  refine holds_discard (P := fun t => (x.system.switch n).agent.Elects (t.switch n).agent) ht
    (fun u hu => ?_) fun u hu => ?_
  · exact hu.trans (System.elects_of_same (System.switch_dropUplink u _ n))
  · exact hu.trans (System.elects_of_same (System.switch_dropListener u _ n))

/-- A move after which the master is the one that claims have made it. -/
theorem elects_make (hv : x.Valid) {m : Move} (hm : m.setsMaster n = false) :
    (x.system.switch n).agent.Elects ((x.make m).system.switch n).agent := by
  -- what clients and agents do among themselves is a list of incidents
  have domestic : m.isForeign = false → (∀ posted outcome, m ≠ .observe posted outcome) →
      (∀ steering, m ≠ .act (.steer n steering)) →
        (x.system.switch n).agent.Elects ((x.make m).system.switch n).agent := by
    intro hf ho hs
    obtain ⟨is, hmake, hl⟩ := leads_make hv ho
    exact hl.elects (not_foreign_of_makes hmake hf) fun agent => not_steered_of_makes hmake hs
  cases m with
  | act action =>
    by_cases ha : action.isForeign = true
    · exact (x.effect_act action).elects ha
    · by_cases hs : ∃ switch steering, action = .steer switch steering
      · obtain ⟨switch, steering, rfl⟩ := hs
        exact elects_steer hm
      · refine domestic (by simpa [Move.isForeign] using ha) (by simp) fun steering he => ?_
        exact hs ⟨n, steering, by simpa using he⟩
  | start name request =>
    by_cases hf : request.isForeign = true
    · cases request with
      | rawOpen switch => exact elects_rawOpen name switch
      | _ => cases hf
    · exact domestic (by simpa [Move.isForeign] using hf) (by simp) (by simp)
  | advance span => exact domestic rfl (by simp) (by simp)
  | poll => exact domestic rfl (by simp) (by simp)
  | observe posted outcome => exact .of_same rfl rfl

/-- Along a run that sets no master by hand, claims make the master. -/
theorem elects_after (hv : x.Valid) {ms : List Move} (hm : ∀ m ∈ ms, m.setsMaster n = false) :
    (x.system.switch n).agent.Elects ((x.after ms).system.switch n).agent := by
  induction ms generalizing x with
  | nil => exact .of_same rfl rfl
  | cons m rest ih =>
    exact (elects_make hv (hm m List.mem_cons_self)).trans
      (ih (hv.make m) fun m' hm' => hm m' (List.mem_cons_of_mem _ hm'))

end Scenario

/-! ### A claim and its acknowledgement -/

/-- A claim makes a client the master exactly if no other id is higher. -/
theorem Arbiter.verdict_elect (election : ElectionId) (master : Option Uint128) :
    verdict (some election) (Agent.elect master (some election.toWire)) =
      if ∀ m, master = some m → m.number ≤ election.toBits.toNat then .master else .notMaster := by
  have hiff := Agent.elect_eq_claimed_iff master election.toWire
  have hnumber : election.toWire.number = election.toBits.toNat := rfl
  rw [hnumber] at hiff
  by_cases he : Agent.elect master (some election.toWire) = some election.toWire
  · rw [if_pos (hiff.mp he), he]
    exact if_pos rfl
  · rw [if_neg fun hle => he (hiff.mpr hle)]
    unfold verdict
    split
    · next sent wire hs hw =>
      cases hs
      -- the id of another master does not read as the one that has been claimed
      exact if_neg fun hread => he (by rw [hw, hread]; rfl)
    · rfl

namespace System

variable {s : System} {refusing : Prop} {id : ClientId} {token : Token} {st : StreamId}
  {up : List StreamRequest} {down : List (Arrival StreamResponse)}

/-- The session of a client is open on a stream on which the agent sends.  `up` waits for the agent, and
`down` for the inbound loop. -/
structure Talks (s : System) (id : ClientId) (token : Token) (st : StreamId)
    (up : List StreamRequest) (down : List (Arrival StreamResponse)) : Prop where
  served : (s.stream st).served = true
  up : (s.stream st).uplink.frames = up
  sends : (s.stream st).uplink.hasSender = true
  attached : (s.switch st.switch).attached = some st.serial
  down : (s.stream st).downlink.frames = down
  roomy : (s.stream st).downlink.capacity = none
  heard : (s.stream st).downlink.hasReceiver = true
  lasts : (s.stream st).downlink.hasSender = true
  listener : (s.stream st).listener = some (id, token)
  live : (s.client id).scope.isCancelled token = false

/-- When all tasks wait, nothing waits on a stream that the agent serves. -/
theorem Plumbed.talks (h : s.Plumbed refusing) (hl : s.Looped) (hh : s.Heedful)
    (hv : (s.client id).scope.Valid) (hr : s.ready = []) (hs : (s.client id).scope.slot = some st)
    (hserved : (s.stream st).served = true) : ∃ token, s.Talks id token st [] [] := by
  obtain ⟨token, ht, hlist⟩ := hl.slots id st hs
  have hlive := hv.isCancelled_current ht
  have hstir : ¬ (s.stream st).Astir := fun ha => by
    have hm := h.tended st ha
    rw [hr] at hm
    cases hm
  have hbusy : ¬ s.Busy st := fun hb => by
    have hm := hh st hb
    rw [hr] at hm
    cases hm
  simp only [Stream.Astir, not_and, not_or, ne_eq, Classical.not_not, Bool.not_eq_false] at hstir
  have hcalm : ¬ ((s.stream st).downlink.frames ≠ [] ∨ (s.stream st).downlink.hasSender = false) :=
    fun hb => hbusy ⟨id, token, hlist, .inr hb⟩
  simp only [not_or, ne_eq, Classical.not_not, Bool.not_eq_false] at hcalm
  exact ⟨token, hserved, (hstir hserved).1, (hstir hserved).2, h.attached st hserved hcalm.2, hcalm.1,
    (h.sound st).roomy, (h.sound st).heard (by rw [hlist]; rfl), hcalm.2, hlist, hlive⟩

/-- Frames come and go on the stream, and nothing else changes. -/
theorem Talks.flow {t : System} (h : s.Talks id token st up down) {up' : List StreamRequest}
    {down' : List (Arrival StreamResponse)}
    (hs : t.stream st = { s.stream st with
      uplink := { (s.stream st).uplink with frames := up' }
      downlink := { (s.stream st).downlink with frames := down' } })
    (hw : (t.switch st.switch).attached = (s.switch st.switch).attached)
    (hc : (t.client id).scope = (s.client id).scope) : t.Talks id token st up' down' where
  served := by rw [hs]; exact h.served
  up := by rw [hs]
  sends := by rw [hs]; exact h.sends
  attached := hw.trans h.attached
  down := by rw [hs]
  roomy := by rw [hs]; exact h.roomy
  heard := by rw [hs]; exact h.heard
  lasts := by rw [hs]; exact h.lasts
  listener := by rw [hs]; exact h.listener
  live := by rw [hc]; exact h.live

theorem Talks.dequeue (h : s.Talks id token st up down) : s.dequeue.Talks id token st up down :=
  ⟨h.served, h.up, h.sends, h.attached, h.down, h.roomy, h.heard, h.lasts, h.listener, h.live⟩

theorem Talks.serve_idle (h : s.Talks id token st [] down) {rest : List Task}
    (hr : s.ready = .serve st :: rest) : s.poll = s.dequeue := by
  have hw := Pipe.receive_eq_waiting.mpr ⟨h.up, h.sends⟩
  unfold poll
  rw [hr]
  simp only [serveStep, h.served, if_true, hw]

theorem Talks.listen_idle (h : s.Talks id token st up []) {rest : List Task}
    (hr : s.ready = .listen st :: rest) : s.poll = s.dequeue := by
  have hw := Pipe.receive_eq_waiting.mpr ⟨h.down, h.lasts⟩
  unfold poll
  rw [hr]
  simp only [listenStep, h.listener, h.live, Bool.false_eq_true, if_false, hw]

/-- The agent takes in a claim, and acknowledges it. -/
theorem Talks.serve {claim : ArbitrationUpdate}
    (h : s.Talks id token st (.arbitration claim :: up) down) {rest : List Task}
    (hr : s.ready = .serve st :: rest) {ack : ArbitrationUpdate}
    (ha : ((s.switch st.switch).agent.arbitrate claim).2 = some ack) :
    s.poll.Talks id token st up (down ++ [.item (.arbitration ack)]) ∧
      (∀ id, s.poll.client id = s.client id) ∧
      s.poll.ready = (s.wake (.listen st)).ready := by
  have hrec : (s.stream st).uplink.receive =
      .frame (.arbitration claim) { (s.stream st).uplink with frames := up } :=
    Pipe.receive_eq_frame.mpr ⟨h.up, rfl⟩
  have hsend : (s.stream st).downlink.send (.item (.arbitration ack)) =
      .ok { (s.stream st).downlink with frames := down ++ [.item (.arbitration ack)] } :=
    Pipe.send_eq_ok.mpr ⟨h.heard, by rw [Pipe.isFull, h.roomy], by rw [h.down]⟩
  -- Nobody else runs: the first task takes the claim and pushes the acknowledgement back.
  have hpoll : s.poll = (((s.updateStream st fun t =>
        { t with uplink := { (s.stream st).uplink with frames := up } }).updateSwitch st.switch
          fun w => { w with agent := ((s.switch st.switch).agent.arbitrate claim).1 }).pushFrame
            st.switch (.item (.arbitration ack))).1 := by
    unfold poll
    rw [hr]
    simp only [serveStep, h.served, if_true, hrec, serveFrame_arbitration, switch_updateStream, ha]
  have hclient : ∀ id, s.poll.client id = s.client id := by
    intro id
    rw [hpoll, (sameClients_pushFrame _ _ _).client]
    rfl
  refine ⟨h.flow ?_ ?_ (by rw [hclient]), hclient, ?_⟩
  · rw [hpoll, stream_pushFrame]
    simp only [stream_updateSwitch, stream_updateStream_self, hsend, switch_updateSwitch_self,
      switch_updateStream, h.attached, and_self, if_true]
  · rw [hpoll, switch_pushFrame, switch_updateSwitch_self, switch_updateStream]
  · rw [hpoll]
    unfold pushFrame
    simp only [switch_updateSwitch_self, switch_updateStream, h.attached, stream_updateSwitch,
      stream_updateStream_self, hsend]
    rw [ready_wake, ready_wake]
    rfl

/-- The inbound loop takes the acknowledgement. -/
theorem Talks.hear {update : ArbitrationUpdate}
    (h : s.Talks id token st up (.item (.arbitration update) :: down)) {rest : List Task}
    (hr : s.ready = .listen st :: rest) :
    s.poll.Talks id token st up down ∧
      s.poll.client id = { s.client id with
        arbiter := (s.client id).arbiter.acknowledge (s.client id).key.number update } ∧
      s.poll.ready = s.ready := by
  have hrec : (s.stream st).downlink.receive =
      .frame (.item (.arbitration update)) { (s.stream st).downlink with frames := down } :=
    Pipe.receive_eq_frame.mpr ⟨h.down, rfl⟩
  -- the inbound loop runs and takes the update
  have hpoll : s.poll = (s.updateStream st fun t =>
      { t with downlink := { (s.stream st).downlink with frames := down } }).listenFrame id
        (.arbitration update) := by
    unfold poll
    rw [hr]
    simp only [listenStep, h.listener, h.live, Bool.false_eq_true, if_false, hrec]
  have hc : s.poll.client id = { s.client id with
      arbiter := (s.client id).arbiter.acknowledge (s.client id).key.number update } := by
    rw [hpoll, client_listenFrame]
    exact if_pos rfl
  refine ⟨h.flow ?_ ?_ (by rw [hc]), hc, by rw [hpoll]; rfl⟩
  · rw [hpoll, stream_listenFrame, stream_updateStream_self, ← h.up]
  · rw [hpoll, switch_listenFrame, switch_updateStream]

/-- When all tasks have run, the client has taken in what the agent says to its claim. -/
theorem Talks.settle {claim : ArbitrationUpdate} (h : s.Talks id token st [.arbitration claim] [])
    (hr : s.ready = [.serve st]) {ack : ArbitrationUpdate}
    (ha : ((s.switch st.switch).agent.arbitrate claim).2 = some ack) :
    s.settle.client id = { s.client id with
      arbiter := (s.client id).arbiter.acknowledge (s.client id).key.number ack } := by
  obtain ⟨hserved, hclient, hready⟩ := h.serve hr ha
  have hready' : s.poll.ready = [.serve st, .listen st] := by
    rw [hready, ready_wake, hr]
    rfl
  -- the agent finds nothing else
  have hidle := hserved.serve_idle hready'
  have hwaits : s.poll.poll.Talks id token st [] [.item (.arbitration ack)] := by
    rw [hidle]
    exact hserved.dequeue
  have hlisten : s.poll.poll.ready = [.listen st] := by
    rw [hidle]
    exact congrArg List.tail hready'
  obtain ⟨hheard, harbiter, hready''⟩ := hwaits.hear hlisten
  rw [hlisten] at hready''
  -- nor does the inbound loop
  have hlast := hheard.listen_idle hready''
  have hsettled : pollFor 4 s = s.poll.poll.poll.dequeue := by
    rw [pollFor_succ (by simp [hr]), pollFor_succ (by simp [hready']), pollFor_succ (by simp [hlisten]),
      pollFor_succ (by simp [hready'']), hlast]
    rfl
  have hdone : (pollFor 4 s).ready = [] := by
    rw [hsettled]
    exact congrArg List.tail hready''
  rw [← pollFor_eq_settle hdone, hsettled]
  have hsame : s.poll.poll.client id = s.client id := by
    rw [hidle]
    exact hclient id
  rw [← hsame]
  exact harbiter

/-- A claim that is sent while all tasks wait is accepted, and acknowledged when they have run. -/
theorem Plumbed.claim_settles (h : s.Plumbed refusing) (hl : s.Looped) (hh : s.Heedful)
    (hv : (s.client id).scope.Valid) (hr : s.ready = []) (hs : (s.client id).scope.slot = some st)
    (hserved : (s.stream st).served = true)
    (hack : (s.switch st.switch).agent.acknowledges = true) (election : ElectionId) :
    (s.runForMastership id election).2 = none ∧
      ((s.runForMastership id election).1.settle.client id).arbiter.mastership.value =
        if ∀ m, (s.switch st.switch).agent.master = some m → m.number ≤ election.toBits.toNat
          then .master else .notMaster := by
  obtain ⟨token, htalks⟩ := h.talks hl hh hv hr hs hserved
  generalize hframe : Arbiter.claimFrame (s.client id).key.number election = frame
  have hsend : (s.stream st).uplink.send frame =
      .ok { (s.stream st).uplink with frames := [frame] } := by
    refine Pipe.send_eq_ok.mpr ⟨(h.sound st).reader hserved, ?_, by rw [htalks.up]; rfl⟩
    rw [Pipe.isFull, (h.slots id st hs).room, htalks.up]
    exact decide_eq_false (Nat.not_le_of_lt (Nat.lt_of_lt_of_le Nat.zero_lt_one (Nat.le_max_right ..)))
  -- the claim is noted and its frame is queued
  generalize hclaimed : (((s.updateClient id fun c =>
    { c with arbiter := c.arbiter.claim election }).updateStream st fun t =>
      { t with uplink := { (s.stream st).uplink with frames := [frame] } }).wake (.serve st)) = t
  have hrun : s.runForMastership id election = (t, none) := by
    unfold runForMastership enqueue
    simp only [client_updateClient_self, hs, stream_updateClient, hframe, hsend, hclaimed]
  have hclient : t.client id =
      { s.client id with arbiter := (s.client id).arbiter.claim election } := by
    rw [← hclaimed, client_wake, client_updateStream, client_updateClient_self]
  have hswitch : t.switch st.switch = s.switch st.switch := by
    rw [← hclaimed, switch_wake, switch_updateStream, switch_updateClient]
  have hready : t.ready = [.serve st] := by
    rw [← hclaimed, ready_wake, ready_updateStream, ready_updateClient, hr]
    rfl
  have hsent : t.Talks id token st [frame] [] := by
    refine htalks.flow ?_ (by rw [hswitch]) (by rw [hclient])
    rw [← hclaimed, stream_wake, stream_updateStream_self, stream_updateClient, ← htalks.down]
  rw [hrun]
  refine ⟨rfl, ?_⟩
  rw [← hframe] at hsent
  obtain ⟨status, hacked⟩ := Agent.acknowledges_claim hack
    ⟨(s.client id).key.number, some election.toWire, none⟩
  rw [← hswitch] at hacked
  rw [hsent.settle hready hacked, hclient]
  show (Arbiter.acknowledge _ _ _).mastership.value = _
  rw [Arbiter.acknowledge, if_pos rfl, hswitch]
  exact Arbiter.verdict_elect election _

end System

namespace Scenario

/-- The master of a switch has the highest id of all that have been claimed, and of the one before, in
whatever order the claims come in; and each claimant is told the highest id so far and whether it is its
own.  So it is along runs in which no master is set by hand, and a client that claims mastership of such a
switch while nothing else goes on becomes the master exactly if no master has a higher id. -/
theorem highest_election_wins (devices : List String) (confs : List Pipeconf)
    (bindings : List (String × PipeconfId)) (config : ConfigChange) (capacity : Nat)
    (ms : List Move) :
    let x := (initial devices confs bindings config capacity).after ms
    (∀ (a : Agent) (claims : List ArbitrationUpdate),
      (a.arbitrateAll claims).1.master.map Uint128.number =
        Agent.highest (a.master :: claims.map (·.election)) ∧
      (∀ claims', claims.Perm claims' →
        (a.arbitrateAll claims').1.master = (a.arbitrateAll claims).1.master) ∧
      (a.acknowledges = true → ∀ k (hk : k < claims.length), ∃ ack,
        (a.arbitrateAll claims).2[k]? = some (some ack) ∧ ack.device = claims[k].device ∧
          ack.election.map Uint128.number =
            Agent.highest (a.master :: (claims.take (k + 1)).map (·.election)) ∧
          (ack.status.map Status.isOk = some true ↔ claims[k].election.map Uint128.number =
            Agent.highest (a.master :: (claims.take (k + 1)).map (·.election))))) ∧
    (∀ n ns, (∀ m ∈ ns, m.setsMaster n = false) →
      (x.system.switch n).agent.Elects ((x.after ns).system.switch n).agent) ∧
    ∀ client id st election, x.system.handles.find? client = some id →
      x.system.ready = [] → (x.system.client id).scope.slot = some st →
      (x.system.stream st).served = true →
      (x.system.switch st.switch).agent.acknowledges = true →
        let y := x.step (.act (.run client election))
        y.2.outcome = .one .done ∧
        (y.1.system.client id).arbiter.mastership.value =
          if ∀ m, (x.system.switch st.switch).agent.master = some m →
              m.number ≤ election.toBits.toNat
            then .master else .notMaster := by
  intro x
  have hinit := valid_initial devices confs bindings config capacity
  have htuned := tuned_initial devices confs bindings config capacity
  have hv : x.Valid := hinit.after ms
  refine ⟨fun a claims => ⟨a.number_master_arbitrateAll claims,
    fun claims' => a.master_arbitrateAll_perm, fun ha k hk => a.acknowledgement_arbitrateAll ha hk⟩,
    fun n ns hm => elects_after hv hm, ?_⟩
  · intro client id st election hh hr hs hserved hack
    have hp : x.system.Plumbed True := plumbed_after hinit htuned
      (plumbed_initial devices confs bindings config capacity _) ms fun _ _ _ => trivial
    have hheed : x.system.Heedful :=
      (Keeps.after (keeps_initial devices confs bindings config capacity) hinit htuned ms).heedful
    -- Streams lead to the agent of their switch and agents take their frames, so a claim made at rest
    -- is settled by the next round of tasks.
    have hlooped := (tuned_after devices confs bindings config capacity ms).looped
    obtain ⟨hdone, hverdict⟩ :=
      hp.claim_settles hlooped hheed (hv.system.scopes id) hr hs hserved hack election
    have hact : x.act (.run client election) = x.sent (x.system.runForMastership id election) := by
      simp only [act, onClient, hh]
    have hperform : x.perform (.act (.run client election)) =
        (x.withSystem (x.system.runForMastership id election).1, .one .done) := by
      simp only [perform, hact, sent, hdone]
    refine ⟨?_, ?_⟩
    · simp only [step, hperform]
      rfl
    · simp only [step, hperform]
      exact hverdict

/-- A client opens its session on a switch whose master has the id 7. -/
def contested : List Move :=
  [.act (.create ⟨⟨"leaf"⟩, 1⟩ "c" none), .act (.steer "leaf" (.setMaster (some ⟨0, 7⟩))),
   .start "t0" (.openSession "c"), .poll, .poll]

/-- With a lower id it does not become the master, and with an equal or a higher one it does.  Two claims
leave the same master in both orders. -/
theorem highest_election_wins_contested :
    let x := (initial ["leaf"] [] [] {} 16).after contested
    let claim := fun low =>
      (((x.step (.act (.run "c" ⟨0, low⟩))).1).system.client ⟨⟨"leaf"⟩, 0⟩).arbiter.mastership.value
    x.system.ready = [] ∧ claim 5 = .notMaster ∧ claim 7 = .master ∧ claim 9 = .master ∧
      (x.system.switch "leaf").agent.Elects
        ((x.after [.act (.run "c" ⟨0, 9⟩), .poll]).system.switch "leaf").agent ∧
      ((x.system.switch "leaf").agent.arbitrateAll
          [⟨1, some ⟨0, 9⟩, none⟩, ⟨2, some ⟨1, 0⟩, none⟩]).1.master =
        ((x.system.switch "leaf").agent.arbitrateAll
          [⟨2, some ⟨1, 0⟩, none⟩, ⟨1, some ⟨0, 9⟩, none⟩]).1.master := by
  obtain ⟨hagent, hrun, hclaim⟩ := highest_election_wins ["leaf"] [] [] {} 16 contested
  have hclaim := fun low => (hclaim "c" ⟨⟨"leaf"⟩, 0⟩ ⟨"leaf", 0⟩ ⟨0, low⟩ (by decide) (by decide)
    (by decide) (by decide) (by decide)).2
  exact ⟨by decide, (hclaim 5).trans (by decide), (hclaim 7).trans (by decide),
    (hclaim 9).trans (by decide), hrun "leaf" _ (by decide),
    (hagent _ [⟨2, some ⟨1, 0⟩, none⟩, ⟨1, some ⟨0, 9⟩, none⟩]).2.1 _ (.swap _ _ _)⟩

end Scenario

end P4Control
