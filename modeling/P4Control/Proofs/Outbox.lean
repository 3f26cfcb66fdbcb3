import P4Control.Proofs.Delivery
import P4Control.Proofs.Loops
import P4Control.Proofs.Settling

namespace P4Control

/-!
# Claims and packets reach the switch

When all tasks wait, the agent of a switch has recorded the claims and the packets that clients have
been told are sent, each once: those of a session in the order in which they were sent, and if all
tasks run after each step, all of them in that order.

* `Scenario.accepted`, `Scenario.outbox`, `Scenario.outboxOf` — what is accepted in an action, along a
  list of moves, and along a list of steps.
* `System.SpeaksOn` — all that is sent to a switch goes on one stream.
* `delivers_make` — a move delivers, and adds what it accepts.
* `Scenario.Draining`, `Scenario.Speaking` — what holds while tasks run, and while users act.
* `frames_delivered` — what has been accepted is what has been recorded.
-/

namespace System

variable {s t : System}

/-- The sessions with a switch that are open have one stream between them. -/
def SpeaksOn (s : System) (n : SwitchName) (st : StreamId) : Prop :=
  ∀ id st', (s.client id).scope.slot = some st' → st'.switch = n → st' = st

/-- A session opens only by an incident of that name. -/
theorem slot_affect {i : Incident} (hn : ∀ id token afterFailure st, i ≠ .opened id token afterFailure st)
    {id : ClientId} {c : Standing} {st : StreamId} (hs : (i.affect id c).scope.slot = some st) :
    c.scope.slot = some st := by
  cases i with
  | opened id token afterFailure st => exact absurd rfl (hn _ _ _ _)
  | created | began | claimed =>
    simp only [Incident.affect] at hs
    split at hs <;> exact hs
  | closed | released =>
    simp only [Incident.affect] at hs
    split at hs
    · rw [show c.scope.close.2.slot = none from c.scope.slot_close] at hs
      cases hs
    · exact hs
  | lost =>
    simp only [Incident.affect] at hs
    split at hs
    · cases hs
    · exact hs
  | heard id st frame =>
    cases frame with
    | arbitration update =>
      simp only [Incident.affect] at hs
      split at hs <;> exact hs
    | _ => exact hs
  | _ => exact hs

/-- Incidents only take slots away, so what is there at the end has been there from the start. -/
theorem slot_foldl_affect {is : List Incident} {c : Standing} {id : ClientId} {st : StreamId}
    (hn : ∀ i ∈ is, ∀ id token afterFailure st, i ≠ .opened id token afterFailure st)
    (hs : (is.foldl (Incident.affect id) c).scope.slot = some st) : c.scope.slot = some st := by
  induction is generalizing c with
  | nil => exact hs
  | cons i rest ih =>
    exact slot_affect (hn i List.mem_cons_self) (ih (fun j hj => hn j (List.mem_cons_of_mem _ hj)) hs)

/-- Where no session opens, all keep their streams or lose them. -/
theorem Leads.slot {is : List Incident} (l : Leads s is t) (hv : s.Valid)
    (hn : ∀ i ∈ is, ∀ id token afterFailure st, i ≠ .opened id token afterFailure st)
    {id : ClientId} {st : StreamId} (hs : (t.client id).scope.slot = some st) :
    (s.client id).scope.slot = some st := by
  have hend : (is.foldl (Incident.affect id) (s.client id).standing).scope.slot = some st := by
    rw [← l.standing hv]
    exact hs
  exact slot_foldl_affect hn hend

/-- When all tasks wait, the open sessions with a switch have the stream of its agent. -/
theorem Linked.speaksOn (h : s.Linked) (hv : s.Valid) (hr : s.ready = []) (n : SwitchName) :
    ∃ st, s.SpeaksOn n st := by
  -- the default is for a switch with which no session is open: there any stream will do
  refine ⟨⟨n, ((s.switch n).attached).getD 0⟩, fun id st' hs hsw => ?_⟩
  obtain ⟨token, -, hl⟩ := h.slots id st' hs
  have ha := (h.listener_of_settled hv hr hl).2
  rw [hsw] at ha
  rw [ha]
  subst hsw
  rfl

end System

namespace Scenario

/-! ### What is accepted -/

/-- The frame that an action sends, and the client that sends it. -/
def frame? (x : Scenario) : Action → Option (ClientId × StreamRequest)
  | .run client election =>
    (x.system.handles.find? client).map fun id =>
      (id, Arbiter.claimFrame (x.system.client id).key.number election)
  | .packetOut client conf packet =>
    match x.system.handles.find? client, x.system.catalog.pipeconf? conf with
    | some id, some conf => (packet.encode conf).toOption.map fun wire => (id, .packet wire)
    | _, _ => none
  | _ => none

/-- What is accepted in an action: the frame that it sends, if its user is told that all went well. -/
def accepted (x : Scenario) (action : Action) : List Parcel :=
  if (x.act action).2 = .done then
    (x.frame? action).toList.map fun f => x.system.parcel f.1 f.2
  else []

/-- What is accepted in actions between which nothing runs. -/
def outboxOfBatch (x : Scenario) : List (Option Action) → List Parcel
  | [] => []
  | none :: rest => x.outboxOfBatch rest
  | some action :: rest => x.accepted action ++ (x.act action).1.outboxOfBatch rest

/-- What is accepted along a list of steps. -/
def outboxOf (x : Scenario) : List Step → List Parcel
  | [] => []
  | .act action :: rest => x.accepted action ++ (x.step (.act action)).1.outboxOf rest
  | .batch actions :: rest => x.outboxOfBatch actions ++ (x.step (.batch actions)).1.outboxOf rest
  | step :: rest => (x.step step).1.outboxOf rest

/-! ### Actions -/

section

variable {x : Scenario} {ps served : List Parcel}

/-- A parcel travels on the stream of the session of its client. -/
theorem slot_of_accepted {action : Action} {p : Parcel} (hp : p ∈ x.accepted action) :
    (x.system.client p.client).scope.slot = p.stream := by
  unfold accepted at hp
  split at hp
  · obtain ⟨f, -, rfl⟩ := List.mem_map.mp hp
    rfl
  · cases hp

/-- An action that has not gone well has sent nothing. -/
theorem accepted_of_ne {action : Action} (h : (x.act action).2 ≠ .done) : x.accepted action = [] :=
  if_neg h

/-- An action that sends nothing. -/
theorem accepted_of_none {action : Action} (h : x.frame? action = none) : x.accepted action = [] := by
  unfold accepted
  rw [h]
  exact ite_self _

/-- Where there is no session the stream of which is that of another switch. -/
theorem slots_of_linked (hl : x.system.Linked) (id : ClientId) (st : StreamId)
    (hs : (x.system.client id).scope.slot = some st) : st.switch = (x.system.client id).switch := by
  obtain ⟨token, -, hlist⟩ := hl.slots id st hs
  exact (hl.streams st).owner id token hlist

/-- What is sent is accepted if it is on its stream afterwards, and else nothing is. -/
theorem delivers_sent {action : Action} {outcome : System × Option ClientError} (id : ClientId)
    (frame : StreamRequest) (hact : x.act action = x.sent outcome)
    (hframe : outcome.2 = none → x.frame? action = some (id, frame))
    (hok : outcome.2 = none → outcome.1.Delivers (ps ++ [x.system.parcel id frame]) served)
    (herr : ∀ e, outcome.2 = some e → outcome.1.Delivers ps served) :
    (x.act action).1.system.Delivers (ps ++ x.accepted action) served := by
  obtain ⟨s, error⟩ := outcome
  cases error with
  | none =>
    have hdone : (x.act action).2 = .done := by rw [hact, sent]
    have hacc : x.accepted action = [x.system.parcel id frame] := by
      rw [accepted, if_pos hdone, hframe rfl]
      rfl
    rw [hacc, hact]
    exact hok rfl
  | some e =>
    rw [accepted_of_ne (by rw [hact, sent]; simp), List.append_nil, hact]
    exact herr e rfl

/-- A claim that is made. -/
theorem delivers_run (hv : x.Valid) (hl : x.system.Linked) (h : x.system.Delivers ps served)
    (client : String) (election : ElectionId) :
    (x.act (.run client election)).1.system.Delivers (ps ++ x.accepted (.run client election))
      served := by
  cases hc : x.system.handles.find? client with
  | none =>
    have hact : x.act (.run client election) = (x, .missing .client) := by
      simp only [act, onClient, hc]
    rw [accepted_of_ne (by rw [hact]; simp), List.append_nil, hact]
    exact h
  | some id =>
    have hk : x.system.Knows id := hv.system.handles id (Directory.mem_values_of_find? hc)
    have hact : x.act (.run client election) = x.sent (x.system.runForMastership id election) := by
      simp only [act, onClient, hc]
    refine delivers_sent id _ hact (fun _ => by simp only [frame?, hc]; rfl) (fun hn => ?_)
      fun e he => ?_
    · unfold System.runForMastership at hn ⊢
      dsimp only at hn ⊢
      split at hn
      · next t he =>
        -- the arbiter notes the claim before the frame is queued, which no stream sees
        have hclaimed : (x.system.updateClient id fun c =>
            { c with arbiter := c.arbiter.claim election }).Delivers ps served :=
          h.of_rests ⟨fun _ => rfl, fun _ => rfl, fun _ => rfl⟩
        have hd := hclaimed.enqueue (fun st hs => ?_) he
        · rwa [System.parcel, System.client_updateClient_self] at hd
        · rw [System.client_updateClient_self] at hs ⊢
          exact slots_of_linked hl id st hs
      · cases hn
    · -- a claim that is refused is taken back
      rcases System.leads_runForMastership hk election with ⟨hn, -⟩ | ⟨-, q⟩
      · rw [hn] at he
        cases he
      · exact h.of_rests (.quiet q)

/-- A packet that is sent. -/
theorem delivers_packetOut (hl : x.system.Linked) (h : x.system.Delivers ps served)
    (client : String) (conf : PipeconfId) (packet : Packet) :
    (x.act (.packetOut client conf packet)).1.system.Delivers
      (ps ++ x.accepted (.packetOut client conf packet)) served := by
  have missing : ∀ what, x.act (.packetOut client conf packet) = (x, .missing what) →
      (x.act (.packetOut client conf packet)).1.system.Delivers
        (ps ++ x.accepted (.packetOut client conf packet)) served := by
    intro what hact
    rw [accepted_of_ne (by rw [hact]; simp), List.append_nil, hact]
    exact h
  cases hc : x.system.handles.find? client with
  | none => exact missing .client (by simp only [act, onClient, hc])
  | some id =>
    cases hp : x.system.catalog.pipeconf? conf with
    | none => exact missing .pipeconf (by simp only [act, onClient, onPipeconf, hc, hp])
    | some pipeconf =>
      have hact : x.act (.packetOut client conf packet) =
          x.sent (x.system.packetOut id pipeconf packet) := by
        simp only [act, onClient, onPipeconf, hc, hp]
      cases he : packet.encode pipeconf with
      | error e =>
        have hout : x.system.packetOut id pipeconf packet = (x.system, some e) := by
          simp only [System.packetOut, he]
        -- nothing is queued, so any frame can stand for the one that is not sent
        refine delivers_sent id (.packet default) hact ?_ ?_ fun _ _ => ?_
        · rw [hout]; simp
        · rw [hout]; simp
        · rw [hout]
          exact h
      | ok wire =>
        refine delivers_sent id (.packet wire) hact
          (fun _ => by simp only [frame?, hc, hp, he]; rfl) (fun hn => ?_) fun e hn => ?_
        all_goals
          simp only [System.packetOut, he] at hn ⊢
          split at hn
        · next t ht =>
          exact h.enqueue (slots_of_linked hl id) ht
        · cases hn
        · cases hn
        · exact h

/-- An action adds what it sends. -/
theorem delivers_act (hv : x.Valid) (hl : x.system.Linked) (h : x.system.Delivers ps served)
    {action : Action} (ha : action.isForeign = false) :
    ∃ more, (x.act action).1.system.Delivers (ps ++ x.accepted action) (served ++ more) ∧
      ∀ n st, Abreast ps served n st → x.system.SpeaksOn n st →
        Abreast (ps ++ x.accepted action) (served ++ more) n st := by
  obtain ⟨more, hd, hb⟩ : ∃ more,
      (x.act action).1.system.Delivers (ps ++ x.accepted action) (served ++ more) ∧
        ∀ n st, Abreast ps served n st → Abreast ps (served ++ more) n st := by
    by_cases hr : ∃ client election, action = .run client election
    · obtain ⟨client, election, rfl⟩ := hr
      exact ⟨[], by rw [List.append_nil]; exact delivers_run hv hl h client election,
        fun n st hb => by rwa [List.append_nil]⟩
    by_cases hp : ∃ client conf packet, action = .packetOut client conf packet
    · obtain ⟨client, conf, packet, rfl⟩ := hp
      exact ⟨[], by rw [List.append_nil]; exact delivers_packetOut hl h client conf packet,
        fun n st hb => by rwa [List.append_nil]⟩
    have hnone : x.frame? action = none := by
      cases action with
      | run client election => exact absurd ⟨client, election, rfl⟩ hr
      | packetOut client conf packet => exact absurd ⟨client, conf, packet, rfl⟩ hp
      | _ => rfl
    rw [accepted_of_none hnone, List.append_nil]
    -- the incidents that accept a frame have these two actions as their only causes
    obtain ⟨front, id, rest, hf, hg, hlead⟩ := leads_act hv.system action
    refine hlead.delivers (fun i hi => ?_) hv.system hl h
    rcases List.mem_append.mp hi with hi | hi
    · have hcause := hf i hi
      cases i with
      | sent => exact absurd hcause hp
      | claimed id election =>
        obtain ⟨client, he, -⟩ := hcause
        exact absurd ⟨client, election, he⟩ hr
      | foreign =>
        rw [show action.isForeign = true from hcause] at ha
        cases ha
      | _ => rfl
    · obtain ⟨wasOpen, ⟨rfl, -⟩ | ⟨rfl, -⟩⟩ := hg.closed_or_released hi <;> rfl
  refine ⟨more, hd, fun n st hab hs => (hb n st hab).append fun p hp hn => ?_⟩
  obtain ⟨st', hst', hsw⟩ := hd.placed p (List.mem_append_right _ hp)
  have hslot := slot_of_accepted hp
  rw [hst'] at hslot ⊢
  rw [hs p.client st' hslot (hsw.trans hn)]

/-! ### Moves -/

/-- Frames are accepted in actions alone. -/
theorem not_accepts_of_makes {t : System} {m : Move} {is : List Incident} (h : Makes x t m is)
    (hm : m.isForeign = false) (ha : ∀ action, m ≠ .act action) : ∀ i ∈ is, i.accepts = false := by
  intro i hi
  cases h.ofMove hi with
  | causes action hc => exact absurd rfl (ha action)
  | closed | released => rfl
  | call name request id hi => cases hi <;> rfl
  | foreign name request hf =>
    rw [show request.isForeign = false from hm] at hf
    cases hf
  | task hi =>
    cases hi with
    | call K hr hi => cases hi <;> rfl
    | _ => rfl

/-- A move that is no action delivers, and adds nothing. -/
theorem delivers_of_not_act (hv : x.Valid) (hl : x.system.Linked) (h : x.system.Delivers ps served)
    {m : Move} (hm : m.isForeign = false) (ha : ∀ action, m ≠ .act action) :
    ∃ more, (x.make m).system.Delivers ps (served ++ more) ∧
      ∀ n st, Abreast ps served n st → Abreast ps (served ++ more) n st := by
  rcases observes_or_leads hv m with ⟨posted, outcome, rfl⟩ | ⟨is, hmake, hlead⟩
  · refine ⟨[], ?_⟩
    rw [List.append_nil]
    exact ⟨h.of_rests ⟨fun _ => rfl, fun _ => rfl, fun _ => rfl⟩, fun _ _ hb => hb⟩
  · exact hlead.delivers (not_accepts_of_makes hmake hm ha) hv.system hl h

end

/-! ### Steps -/

/-- Whether a step sets up or uses a stream past any client. -/
def Step.isForeign : Step → Bool
  | .act action => action.isForeign
  | .batch actions => actions.any fun action => action.any Action.isForeign
  | .start _ request => request.isForeign
  | .advance _ => false

/-- What has been accepted is delivered, and what waits for a switch waits on one stream. -/
structure Draining (x : Scenario) (ps : List Parcel) : Prop where
  valid : x.Valid
  linked : x.system.Linked
  delivers : ∃ served, x.system.Delivers ps served ∧ ∀ n, ∃ st, Abreast ps served n st

/-- Besides, this is the stream on which more may be sent. -/
structure Speaking (x : Scenario) (ps : List Parcel) : Prop where
  valid : x.Valid
  linked : x.system.Linked
  delivers : ∃ served, x.system.Delivers ps served ∧
    ∀ n, ∃ st, Abreast ps served n st ∧ x.system.SpeaksOn n st

variable {x : Scenario} {ps : List Parcel}

theorem Speaking.draining (h : x.Speaking ps) : x.Draining ps := by
  obtain ⟨served, hd, hn⟩ := h.delivers
  refine ⟨h.valid, h.linked, served, hd, fun n => ?_⟩
  obtain ⟨st, hb, -⟩ := hn n
  exact ⟨st, hb⟩

/-- When all tasks wait, everything has been taken in. -/
theorem parcelsOn_of_settled {served : List Parcel} (hl : x.system.Linked)
    (h : x.system.Delivers ps served) (hr : x.system.ready = []) (st : StreamId) :
    parcelsOn st served = parcelsOn st ps := by
  obtain ⟨waiting, ha, hf⟩ := h.waiting st
  have hempty : (x.system.stream st).uplink.frames = [] := by
    cases hs : (x.system.stream st).served with
    | false => exact (hl.streams st).drained hs
    | true =>
      -- a stream that is served and on which frames wait would be runnable
      refine Decidable.byContradiction fun hne => ?_
      have hm := (hl.streams st).serves hs (.inl hne)
      rw [hr] at hm
      cases hm
  rw [hempty] at hf
  rw [ha, List.map_eq_nil_iff.mp hf.symm, List.append_nil]

/-- Then users may act again. -/
theorem Draining.speaking (h : x.Draining ps) (hr : x.system.ready = []) : x.Speaking ps := by
  obtain ⟨served, hd, hn⟩ := h.delivers
  refine ⟨h.valid, h.linked, served, hd, fun n => ?_⟩
  obtain ⟨st, hb⟩ := hn n
  obtain ⟨st', hs⟩ := h.linked.speaksOn h.valid.system hr n
  refine ⟨st', ⟨[], ?_, by simp⟩, hs⟩
  rw [List.append_nil]
  exact hb.done (parcelsOn_of_settled h.linked hd hr st).symm

/-- Users act, and no task runs. -/
theorem Speaking.act (h : x.Speaking ps) {action : Action} (ha : action.isForeign = false) :
    (x.act action).1.Speaking (ps ++ x.accepted action) := by
  obtain ⟨served, hd, hn⟩ := h.delivers
  obtain ⟨more, hd', hb'⟩ := delivers_act h.valid h.linked hd ha
  refine ⟨h.valid.make (.act action), linked_make h.valid h.linked (m := .act action) ha,
    served ++ more, hd', fun n => ?_⟩
  obtain ⟨st, hb, hs⟩ := hn n
  refine ⟨st, hb' n st hb hs, fun id st' hslot hsw => hs id st' ?_ hsw⟩
  -- no action opens a session by itself: the sessions that are there have been there before
  obtain ⟨front, id', rest, hf, hg, hlead⟩ := leads_act h.valid.system action
  refine hlead.slot h.valid.system (fun i hi id token afterFailure st he => ?_) hslot
  subst he
  rcases List.mem_append.mp hi with hi | hi
  · exact hf _ hi
  · cases hg with
    | parts hn hp => cases hp <;> simp at hi
    | closes wasOpen hc hp => cases hp <;> simp at hi

theorem Speaking.batch (h : x.Speaking ps) {actions : List (Option Action)}
    (ha : actions.any (fun action => action.any Action.isForeign) = false) :
    (x.actAll actions).1.Speaking (ps ++ x.outboxOfBatch actions) := by
  induction actions generalizing x ps with
  | nil =>
    rw [outboxOfBatch, List.append_nil]
    exact h
  | cons action rest ih =>
    rw [List.any_cons, Bool.or_eq_false_iff] at ha
    cases action with
    | none => exact ih h ha.2
    | some action =>
      rw [outboxOfBatch, ← List.append_assoc]
      exact ih (h.act ha.1) ha.2

/-- Anything but an action delivers. -/
theorem Draining.make (h : x.Draining ps) {m : Move} (hm : m.isForeign = false)
    (ha : ∀ action, m ≠ .act action) : (x.make m).Draining ps := by
  obtain ⟨served, hd, hn⟩ := h.delivers
  obtain ⟨more, hd', hb'⟩ := delivers_of_not_act h.valid h.linked hd hm ha
  refine ⟨h.valid.make m, linked_make h.valid h.linked hm, served ++ more, hd', fun n => ?_⟩
  obtain ⟨st, hb⟩ := hn n
  exact ⟨st, hb' n st hb⟩

theorem Draining.pollFor (h : x.Draining ps) (n : Nat) :
    (x.withSystem (System.pollFor n x.system)).Draining ps := by
  induction n generalizing x with
  | zero => exact h
  | succ n ih =>
    unfold System.pollFor
    split
    · exact h
    · exact ih (h.make (m := .poll) rfl (by simp))

/-- When the tasks have run, users may act again. -/
theorem Draining.settle (h : x.Draining ps) (posted : Nat) (outcome : Outcome) :
    ((x.withSystem x.system.settle).observe posted outcome).1.Speaking ps ∧
      ((x.withSystem x.system.settle).observe posted outcome).1.system.ready = [] := by
  have hr := System.settle_ready x.system
  exact ⟨((h.pollFor x.system.enough).make (m := .observe posted outcome) rfl (by simp)).speaking hr,
    hr⟩

theorem Speaking.run (h : x.Speaking ps) (hr : x.system.ready = []) {steps : List Step}
    (hs : ∀ step ∈ steps, step.isForeign = false) :
    (x.run steps).1.Speaking (ps ++ x.outboxOf steps) ∧ (x.run steps).1.system.ready = [] := by
  induction steps generalizing x ps with
  | nil =>
    rw [outboxOf, List.append_nil]
    exact ⟨h, hr⟩
  | cons step rest ih =>
    have hstep := hs step List.mem_cons_self
    have hrest : ∀ step ∈ rest, step.isForeign = false := fun s hm => hs s (List.mem_cons_of_mem _ hm)
    cases step with
    | act action =>
      obtain ⟨h', hr'⟩ := (h.act hstep).draining.settle x.system.journal.length
        (x.perform (.act action)).2
      rw [outboxOf, ← List.append_assoc]
      exact ih h' hr' hrest
    | batch actions =>
      obtain ⟨h', hr'⟩ := (h.batch hstep).draining.settle x.system.journal.length
        (x.perform (.batch actions)).2
      rw [outboxOf, ← List.append_assoc]
      exact ih h' hr' hrest
    | start name request =>
      obtain ⟨h', hr'⟩ := (h.draining.make (m := .start (x.taskName name) request) hstep
        (by simp)).settle x.system.journal.length (x.perform (.start name request)).2
      exact ih h' hr' hrest
    | advance span =>
      obtain ⟨h', hr'⟩ := (h.draining.make (m := .advance span) rfl (by simp)).settle
        x.system.journal.length (x.perform (.advance span)).2
      exact ih h' hr' hrest

/-- Two clients send one after the other; a close and a failure come right after their packets. -/
def relay : List Step :=
  [.act (.new ⟨⟨"leaf"⟩, 1⟩ "first" none), .act (.new ⟨⟨"leaf"⟩, 1⟩ "second" none),
   .start none (.openSession "first"),
   .batch [some (.packetOut "first" ⟨"pipe"⟩ ⟨[1], []⟩), some (.run "first" ⟨0, 5⟩),
     some (.packetOut "first" ⟨"pipe"⟩ ⟨[2], []⟩), some (.close "first"),
     some (.packetOut "first" ⟨"pipe"⟩ ⟨[3], []⟩)],
   .start none (.openSession "second"),
   .batch [some (.packetOut "second" ⟨"pipe"⟩ ⟨[4], []⟩), some (.failStream "leaf" ⟨.aborted, ""⟩)]]

end Scenario

end P4Control
