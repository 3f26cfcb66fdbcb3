import P4Control.Proofs.Contest

namespace P4Control

/-!
# What clients send is delivered

A frame is accepted when it has been put on the uplink of an open session.  From then on nothing takes
it away but the agent of the switch, which takes in the frames of an uplink one after the other, even
when the session has ended or another stream has taken the place of this one.

* `Parcel` — a frame that has been accepted, and the stream it travels on.
* `System.Delivers` — what has been accepted has been taken in by the agents or waits on its stream.
* `Abreast` — what waits for a switch waits on one stream.
* `Happens.delivers`, `Leads.delivers` — incidents in which nothing is accepted keep both.
* `Delivers.enqueue` — a frame that is put on an uplink is accepted.
-/

/-! ### Parcels -/

/-- A frame that a client has put on the stream of its session. -/
structure Parcel where
  client : ClientId
  /-- The switch of the client. -/
  switch : SwitchName
  /-- The stream of the session. -/
  stream : Option StreamId
  frame : StreamRequest
deriving DecidableEq

/-- The parcels that travel on one stream. -/
def parcelsOn (st : StreamId) (ps : List Parcel) : List Parcel :=
  ps.filter fun p => decide (p.stream = some st)

/-- The parcels of the clients of one switch. -/
def parcelsTo (n : SwitchName) (ps : List Parcel) : List Parcel :=
  ps.filter fun p => decide (p.switch = n)

/-- The packets among the frames of an uplink. -/
def packetsIn : List StreamRequest → List WirePacket
  | [] => []
  | .packet packet :: rest => packet :: packetsIn rest
  | .arbitration _ :: rest => packetsIn rest

theorem packetsIn_append (frames frames' : List StreamRequest) :
    packetsIn (frames ++ frames') = packetsIn frames ++ packetsIn frames' := by
  induction frames with
  | nil => rfl
  | cons frame rest ih =>
    cases frame with
    | arbitration claim => exact ih
    | packet packet => exact congrArg (packet :: ·) ih

theorem parcelsOn_append (st : StreamId) (ps qs : List Parcel) :
    parcelsOn st (ps ++ qs) = parcelsOn st ps ++ parcelsOn st qs := List.filter_append ..

theorem parcelsTo_append (n : SwitchName) (ps qs : List Parcel) :
    parcelsTo n (ps ++ qs) = parcelsTo n ps ++ parcelsTo n qs := List.filter_append ..

theorem parcelsOn_one (st : StreamId) (p : Parcel) :
    parcelsOn st [p] = if p.stream = some st then [p] else [] := by
  unfold parcelsOn
  by_cases h : p.stream = some st <;> simp [h]

theorem parcelsTo_one (n : SwitchName) (p : Parcel) :
    parcelsTo n [p] = if p.switch = n then [p] else [] := by
  unfold parcelsTo
  by_cases h : p.switch = n <;> simp [h]

/-- It makes no difference which of the two is looked at first. -/
theorem parcelsOn_parcelsTo (st : StreamId) (n : SwitchName) (ps : List Parcel) :
    parcelsOn st (parcelsTo n ps) = parcelsTo n (parcelsOn st ps) := by
  unfold parcelsOn parcelsTo
  rw [List.filter_filter, List.filter_filter]
  exact List.filter_congr fun p _ => Bool.and_comm ..

theorem parcelsOn_of_forall {st : StreamId} {ps : List Parcel} (h : ∀ p ∈ ps, p.stream = some st) :
    parcelsOn st ps = ps := List.filter_eq_self.mpr fun p hp => decide_eq_true (h p hp)

/-- Of the parcels to a switch, those that have not been taken in come last, and all of them are on
one stream. -/
def Abreast (accepted served : List Parcel) (n : SwitchName) (st : StreamId) : Prop :=
  ∃ waiting, parcelsTo n accepted = parcelsTo n served ++ waiting ∧
    ∀ p ∈ waiting, p.stream = some st

namespace Abreast

variable {accepted served : List Parcel} {n : SwitchName} {st : StreamId} {p : Parcel}

/-- Parcels on the stream on which the others wait are abreast of them. -/
theorem append (h : Abreast accepted served n st) {ps : List Parcel}
    (hp : ∀ p ∈ ps, p.switch = n → p.stream = some st) :
    Abreast (accepted ++ ps) served n st := by
  obtain ⟨waiting, hw, hall⟩ := h
  rw [Abreast, parcelsTo_append, hw, List.append_assoc]
  refine ⟨_, rfl, fun q hq => ?_⟩
  rcases List.mem_append.mp hq with hq | hq
  · exact hall q hq
  · obtain ⟨hm, hn⟩ := List.mem_filter.mp hq
    exact hp q hm (of_decide_eq_true hn)

/-- When the parcel that waits longest on a stream is taken in, the others stay abreast. -/
theorem serve (h : Abreast accepted served n st) {st' : StreamId} {rest : List Parcel}
    (ha : parcelsOn st' accepted = parcelsOn st' served ++ p :: rest)
    (hp : p.stream = some st') : Abreast accepted (served ++ [p]) n st := by
  obtain ⟨waiting, hw, hall⟩ := h
  rw [Abreast, parcelsTo_append, parcelsTo_one]
  by_cases hn : p.switch = n
  · -- of what waits for the switch, that on the stream begins with the parcel
    have hon : parcelsOn st' waiting = p :: parcelsTo n rest := by
      have heq := congrArg (parcelsOn st') hw
      rw [parcelsOn_append, parcelsOn_parcelsTo, parcelsOn_parcelsTo, ha, parcelsTo_append] at heq
      rw [← List.append_cancel_left heq]
      simp [parcelsTo, hn]
    have hst : st' = st := by
      have hm : p ∈ parcelsOn st' waiting := by rw [hon]; simp
      have hp' := hall p (List.mem_filter.mp hm).1
      rw [hp] at hp'
      exact Option.some.inj hp'
    -- and that is all there is
    rw [hst, parcelsOn_of_forall hall] at hon
    rw [if_pos hn]
    refine ⟨parcelsTo n rest, by rw [hw, hon, List.append_assoc]; rfl, fun q hq => hall q ?_⟩
    rw [hon]
    exact List.mem_cons_of_mem _ hq
  · rw [if_neg hn, List.append_nil]
    exact ⟨waiting, hw, hall⟩

/-- When nothing waits on the stream any more, all has been taken in. -/
theorem done (h : Abreast accepted served n st) (hst : parcelsOn st accepted = parcelsOn st served) :
    parcelsTo n accepted = parcelsTo n served := by
  obtain ⟨waiting, hw, hall⟩ := h
  have heq := congrArg (parcelsOn st) hw
  rw [parcelsOn_append, parcelsOn_parcelsTo, parcelsOn_parcelsTo, hst, parcelsOn_of_forall hall] at heq
  have hnil : waiting = [] := List.self_eq_append_right.mp heq
  rw [hw, hnil, List.append_nil]

end Abreast

namespace System

/-- All parcels that have been accepted have been taken in by the agents, each stream's in order, or
wait on their stream; the agents have recorded what they have taken in, and nothing else. -/
structure Delivers (s : System) (accepted served : List Parcel) : Prop where
  placed : ∀ p ∈ accepted, ∃ st, p.stream = some st ∧ st.switch = p.switch
  /-- Nothing is taken in that has not been accepted. -/
  known : ∀ p ∈ served, p ∈ accepted
  waiting : ∀ st, ∃ waiting, parcelsOn st accepted = parcelsOn st served ++ waiting ∧
    (s.stream st).uplink.frames = waiting.map (·.frame)
  claims : ∀ n, (s.switch n).agent.claims = claimsIn ((parcelsTo n served).map (·.frame))
  packets : ∀ n, (s.switch n).agent.packetOuts = packetsIn ((parcelsTo n served).map (·.frame))

variable {s t : System} {accepted served : List Parcel}

/-- A parcel travels on a stream of its switch. -/
theorem Delivers.switch_of_stream (h : s.Delivers accepted served) {p : Parcel}
    (hp : p ∈ accepted) {st : StreamId} (hst : p.stream = some st) : p.switch = st.switch := by
  obtain ⟨st', hst', hsw⟩ := h.placed p hp
  rw [hst] at hst'
  cases hst'
  exact hsw.symm

/-- What rests is delivered later. -/
theorem Delivers.of_rests (h : s.Delivers accepted served) (r : Rests s t) :
    t.Delivers accepted served where
  placed := h.placed
  known := h.known
  waiting st := by
    obtain ⟨waiting, ha, hf⟩ := h.waiting st
    exact ⟨waiting, ha, by rw [r.frames, hf]⟩
  claims n := by rw [r.claims, h.claims]
  packets n := by rw [r.packets, h.packets]

/-! ### The agent takes in a frame -/

/-- The agent takes in the parcel that waits longest on a stream. -/
theorem Delivers.serve (h : s.Delivers accepted served) {st : StreamId} {frame : StreamRequest}
    {uplink : Pipe StreamRequest} (hu : (s.stream st).uplink.receive = .frame frame uplink) :
    ∃ p rest, parcelsOn st accepted = parcelsOn st served ++ p :: rest ∧ p.stream = some st ∧
      ((s.updateStream st fun t => { t with uplink }).serveFrame st.switch frame).Delivers accepted
        (served ++ [p]) := by
  obtain ⟨hframes, -⟩ := Pipe.receive_eq_frame.mp hu
  obtain ⟨waiting, ha, hw⟩ := h.waiting st
  -- what waits longest on the stream is the frame that is taken
  obtain ⟨p, rest, rfl, hp, hrest⟩ : ∃ p rest, waiting = p :: rest ∧ p.frame = frame ∧
      rest.map (·.frame) = uplink.frames := by
    rw [hframes] at hw
    cases waiting with
    | nil => cases hw
    | cons p rest =>
      rw [List.map_cons, List.cons.injEq] at hw
      exact ⟨p, rest, rfl, hw.1.symm, hw.2.symm⟩
  have hmem : p ∈ parcelsOn st accepted := by
    rw [ha]
    simp
  obtain ⟨hpa, hpst⟩ := List.mem_filter.mp hmem
  have hpst : p.stream = some st := of_decide_eq_true hpst
  have hagent : ∀ n, parcelsTo n (served ++ [p]) =
      parcelsTo n served ++ if st.switch = n then [p] else [] := by
    intro n
    rw [parcelsTo_append, parcelsTo_one, h.switch_of_stream hpa hpst]
  refine ⟨p, rest, ha, hpst, h.placed, fun q hq => ?_, fun st' => ?_, fun n => ?_, fun n => ?_⟩
  · rcases List.mem_append.mp hq with hq | hq
    · exact h.known q hq
    · rw [List.mem_singleton.mp hq]
      exact hpa
  · rw [(uplink_serveFrame _ st.switch frame st').1, stream_updateStream, parcelsOn_append,
      parcelsOn_one, hpst]
    by_cases heq : st = st'
    · subst heq
      rw [if_pos rfl, if_pos rfl]
      exact ⟨rest, by rw [ha, List.append_assoc]; rfl, hrest.symm⟩
    · rw [if_neg heq, if_neg (by simpa using heq), List.append_nil]
      exact h.waiting st'
  all_goals
    rw [switch_serveFrame, switch_updateStream, switch_updateStream, hagent]
    by_cases heq : st.switch = n
    · subst heq
      rw [if_pos rfl, if_pos rfl, List.map_append]
      first
        | rw [claimsIn_append, ← h.claims]
        | rw [packetsIn_append, ← h.packets]
      rw [List.map_singleton, hp]
      cases frame <;> simp [agentAfter, Agent.receivePacket, Agent.arbitrate, claimsIn, packetsIn]
    · rw [if_neg heq, if_neg heq, List.append_nil]
      first
        | exact h.claims n
        | exact h.packets n

/-! ### All incidents in which nothing is accepted -/

end System

/-- Whether a frame is accepted by an incident, or may be. -/
def Incident.accepts : Incident → Bool
  | .claimed _ _ | .sent _ _ | .foreign => true
  | _ => false

namespace System

variable {s t : System} {accepted served : List Parcel}

/-- The uplinks rest unless a client queues a frame or an agent takes one. -/
theorem Happens.rests {i : Incident} (hi : Happens s i t) (ha : i.accepts = false)
    (hs : ∀ st frame, i ≠ .served st frame) (hl : s.Linked) : Rests s t := by
  cases hi with
  | created | filed | told | began | idled => exact ⟨fun _ => rfl, fun _ => rfl, fun _ => rfl⟩
  | opened id token afterFailure begun activated capacity t st hk hb hc hact =>
    -- The stream that is set up has not been used before, so nothing waits on it.
    have hfresh : s.stream (s.nextStream (s.client id).switch) = .dead :=
      (hl.streams (s.nextStream (s.client id).switch)).fresh (Nat.le_refl _)
    have hconn := Rests.connect (s.beginScope id begun) (n := (s.client id).switch) hfresh capacity
    rw [hc] at hconn
    have hbegun : Rests s (s.beginScope id begun) := ⟨fun _ => rfl, fun _ => rfl, fun _ => rfl⟩
    exact (hbegun.trans hconn).trans (.goLive t id token afterFailure activated st)
  | played id token afterFailure begun activated capacity script rest t st hk hb hscript =>
    rw [hl.scripts] at hscript
    cases hscript
  | closed id hk | released id hk hh => exact .closeSession s id
  | failed id token hk ht => exact .failSession s ht
  | unavailable id token reason hk ht => exact (Rests.failSession s ht).trans (.post _ _)
  | heard id token st frame downlink =>
    exact (Rests.updateStream s st (f := fun t => { t with downlink }) rfl).trans (.listenFrame _ id frame)
  | left id token st => exact (Rests.dequeue s).trans (.dropListener _ st)
  | served st frame => exact absurd rfl (hs st frame)
  | drained st hr hv hf => exact (Rests.dequeue s).trans (.updateStream _ st hf.symm)
  | detached n => exact .detach s n
  | pushed n frame => exact .pushFrame s n frame
  | steered n agent hc hp =>
    have agents : ∀ m, ((s.updateSwitch n fun w => { w with agent }).switch m).agent.claims =
        (s.switch m).agent.claims ∧ ((s.updateSwitch n fun w => { w with agent }).switch m).agent.packetOuts =
          (s.switch m).agent.packetOuts := by
      intro m
      rw [switch_updateSwitch]
      split
      · next heq => exact heq ▸ ⟨hc, hp⟩
      · exact ⟨rfl, rfl⟩
    exact ⟨fun _ => rfl, fun m => (agents m).1, fun m => (agents m).2⟩
  | claimed | sent | foreign => cases ha

/-- An incident in which nothing is accepted delivers one parcel, or none. -/
theorem Happens.delivers {i : Incident} (hi : Happens s i t) (ha : i.accepts = false)
    (hl : s.Linked) (h : s.Delivers accepted served) :
    ∃ more, t.Delivers accepted (served ++ more) ∧
      ∀ n st, Abreast accepted served n st → Abreast accepted (served ++ more) n st := by
  by_cases hs : ∃ st frame, i = .served st frame
  · obtain ⟨st, frame, rfl⟩ := hs
    cases hi with
    | served _ _ uplink hv hu =>
      -- The parcel is the first that waits on the stream.
      obtain ⟨p, rest, hon, hp, hd⟩ := h.serve hu
      exact ⟨[p], hd, fun n st' hb => hb.serve hon hp⟩
  · refine ⟨[], ?_⟩
    rw [List.append_nil]
    exact ⟨h.of_rests (hi.rests ha (fun st frame he => hs ⟨st, frame, he⟩) hl), fun _ _ hb => hb⟩

/-- So does a sequence of them. -/
theorem Leads.delivers {is : List Incident} (l : Leads s is t)
    (ha : ∀ i ∈ is, i.accepts = false) (hv : s.Valid) (hl : s.Linked)
    (h : s.Delivers accepted served) :
    ∃ more, t.Delivers accepted (served ++ more) ∧
      ∀ n st, Abreast accepted served n st → Abreast accepted (served ++ more) n st := by
  induction l generalizing served with
  | refl s =>
    refine ⟨[], ?_⟩
    rw [List.append_nil]
    exact ⟨h, fun _ _ hb => hb⟩
  | quiet q _ ih => exact ih ha (q.valid hv) (q.linked hl) (h.of_rests (.quiet q))
  | @cons s t u i is hi _ ih =>
    have hi0 : i.accepts = false := ha i List.mem_cons_self
    have hf : i ≠ .foreign := by
      rintro rfl
      cases hi0
    obtain ⟨more, hd, hb⟩ := hi.delivers hi0 hl h
    obtain ⟨more', hd', hb'⟩ := ih (fun j hj => ha j (List.mem_cons_of_mem _ hj)) (hi.valid hv)
      (hi.linked hf hv hl) hd
    refine ⟨more ++ more', ?_⟩
    rw [← List.append_assoc]
    exact ⟨hd', fun n st h => hb' n st (hb n st h)⟩

/-! ### Acceptance -/

/-- What a client hands over when it sends a frame. -/
def parcel (s : System) (id : ClientId) (frame : StreamRequest) : Parcel :=
  ⟨id, (s.client id).switch, (s.client id).scope.slot, frame⟩

/-- A frame that is put on an uplink is accepted. -/
theorem Delivers.enqueue (h : s.Delivers accepted served) {id : ClientId} {frame : StreamRequest}
    (hsw : ∀ st, (s.client id).scope.slot = some st → st.switch = (s.client id).switch)
    (he : s.enqueue id frame = .ok t) : t.Delivers (accepted ++ [s.parcel id frame]) served := by
  obtain ⟨st, uplink, hslot, hu, rfl⟩ := enqueue_eq_ok he
  obtain ⟨-, -, hsend⟩ := Pipe.send_eq_ok.mp hu
  have hon : (s.parcel id frame).stream = some st := hslot
  refine ⟨fun p hp => ?_, fun p hp => List.mem_append_left _ (h.known p hp), fun st' => ?_, ?_, ?_⟩
  · rcases List.mem_append.mp hp with hp | hp
    · exact h.placed p hp
    · rw [List.mem_singleton.mp hp]
      exact ⟨st, hon, hsw st hslot⟩
  · obtain ⟨waiting, ha, hw⟩ := h.waiting st'
    rw [parcelsOn_append, parcelsOn_one, hon, stream_wake, stream_updateStream]
    -- the frame waits on the stream of its session, behind the others
    by_cases heq : st = st'
    · subst heq
      rw [if_pos rfl, if_pos rfl, ha, List.append_assoc]
      refine ⟨_, rfl, ?_⟩
      rw [List.map_append, ← hw, hsend]
      rfl
    · rw [if_neg heq, if_neg (by simpa using heq), List.append_nil]
      exact ⟨waiting, ha, hw⟩
  · intro n
    rw [switch_wake]
    exact h.claims n
  · intro n
    rw [switch_wake]
    exact h.packets n

end System

end P4Control
