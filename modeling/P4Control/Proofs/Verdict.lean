import P4Control.Proofs.Contest

namespace P4Control.System

/-!
# How the contest is decided

The agent takes claims off the uplinks and sends its news, clients take the news, and users claim
anew or open their sessions anew.  In all this the clients stay apprised of the master, but for the claims
by which they are outbid without a word.

* `Contested.heard` — a client takes a frame.
* `Contested.decides` — the agent takes a claim, which is where a client may miss something.
* `Contested.opened` — a session opens, and its client takes part from then on.
* `Contested.claimed`, `Contested.steered` — a user claims, or changes the agent.
* `Leads.contested` — sequences of incidents in which no agent decides anything.
-/

variable {s t : System} {missed : ClientId → StreamId → Uint128 → Prop}

/-! ### Frames -/

/-- What a client makes of a frame it could have been told before. -/
theorem lastWord_heard {id : ClientId} {st : StreamId} {c : Standing} {frame : StreamResponse}
    {frames : List (Arrival StreamResponse)} {e : Uint128}
    (h : ((Incident.heard id st frame).affect id c).LastWord (newsIn c.key.number frames) e) :
    c.LastWord (newsIn c.key.number (.item frame :: frames)) e := by
  cases frame with
  | packet packet => exact h
  | error e => exact h
  | arbitration update =>
    by_cases hd : update.device = c.key.number
    · simp only [Incident.affect, hd, and_self, if_true] at h
      simp only [newsIn, hd, if_true]
      refine .told ?_
      rw [List.getLast?_cons]
      cases h with
      | told h => rw [h]; rfl
      | known hn hm he =>
        -- the last of the news makes the client master, so it names the client's claim
        obtain ⟨e', hused, hmaster⟩ := Arbiter.verdict_eq_master hm
        rw [show c.lastUsed = some e' from hused] at he
        rw [hn, hmaster]
        exact congrArg some he
    · simp only [Incident.affect, hd, and_false, if_false] at h
      simp only [newsIn, if_neg hd]
      exact h

/-- By hearing a frame nobody becomes master without a claim. -/
theorem claimed_heard {id id' : ClientId} {st : StreamId} {c : Standing} {frame : StreamResponse}
    (h : c.mastership = .master → ∃ e, c.lastUsed = some e)
    (hm : ((Incident.heard id st frame).affect id' c).mastership = .master) :
    ∃ e, c.lastUsed = some e := by
  cases frame with
  | packet packet => exact h hm
  | error e => exact h hm
  | arbitration update =>
    simp only [Incident.affect] at hm
    split at hm
    · obtain ⟨e, hused, -⟩ := Arbiter.verdict_eq_master hm
      exact ⟨e, hused⟩
    · exact h hm

/-- A frame changes neither the key of a client, nor its scopes, nor its claim. -/
theorem affect_heard (id id' : ClientId) (st : StreamId) (c : Standing) (frame : StreamResponse) :
    ((Incident.heard id st frame).affect id' c).key = c.key ∧
      ((Incident.heard id st frame).affect id' c).scope = c.scope ∧
      ((Incident.heard id st frame).affect id' c).lastUsed = c.lastUsed ∧
      (id ≠ id' → (Incident.heard id st frame).affect id' c = c) := by
  cases frame with
  | arbitration update =>
    simp only [Incident.affect]
    split
    · next h => exact ⟨rfl, rfl, rfl, fun hne => absurd h.1 hne⟩
    · exact ⟨rfl, rfl, rfl, fun _ => rfl⟩
  | _ => exact ⟨rfl, rfl, rfl, fun _ => rfl⟩

/-- An inbound loop takes a frame. -/
theorem Contested.heard (h : s.Contested missed) (hv : s.Valid) (hl : s.Linked) {id : ClientId}
    {token : Token} {st : StreamId} {frame : StreamResponse}
    {downlink : Pipe (Arrival StreamResponse)}
    (hlist : (s.stream st).listener = some (id, token))
    (hcan : (s.client id).scope.isCancelled token = false)
    (hd : (s.stream st).downlink.receive = .frame (.item frame) downlink) :
    ((s.updateStream st fun t => { t with downlink }).listenFrame id frame).Contested missed := by
  have hstand := fun id' => (Happens.heard s id token st frame downlink hlist hcan hd).standing hv id'
  have hstream : ∀ st', ((s.updateStream st fun t => { t with downlink }).listenFrame id frame).stream
      st' = if st = st' then { s.stream st with downlink } else s.stream st' := by
    intro st'
    rw [stream_listenFrame]
    exact stream_updateStream s st st' _
  have hswitch : ∀ n, ((s.updateStream st fun t => { t with downlink }).listenFrame id frame).switch n =
      s.switch n := switch_listenFrame (s.updateStream st fun t => { t with downlink }) id frame
  generalize (s.updateStream st fun t => { t with downlink }).listenFrame id frame = t
    at hstand hstream hswitch ⊢
  obtain ⟨hf, -⟩ := Pipe.receive_eq_frame.mp hd
  intro id' st' ha
  obtain ⟨hkey, hscope, hused, hother⟩ := affect_heard id id' st (s.client id').standing frame
  rw [← hstand] at hkey hscope hused
  have hs : s.Attends id' st' := by
    refine ⟨?_, hswitch st'.switch ▸ ha.attached⟩
    rw [← show (t.client id').scope = (s.client id').scope from hscope]
    exact ha.slot
  have hnumber : (t.client id').key.number = (s.client id').key.number :=
    congrArg ClientKey.number hkey
  obtain ⟨claimed, own, current⟩ := h id' st' hs
  refine ⟨fun hm => ?_, fun claim hc => ?_, fun e he => ?_⟩
  · rw [show (t.client id').arbiter.lastUsed = (s.client id').arbiter.lastUsed from hused]
    exact claimed_heard (c := (s.client id').standing) claimed
      ((congrArg Standing.mastership (hstand id')).symm.trans hm)
  · rw [hnumber]
    refine own claim ?_
    unfold claims at hc ⊢
    rw [hstream] at hc
    split at hc
    · next he => exact he ▸ hc
    · exact hc
  · rw [hswitch]
    refine current e ?_
    unfold news at he ⊢
    rw [hnumber, hstand, hstream] at he
    by_cases heq : st = st'
    · -- the one who reads the stream is the one who attends it
      subst heq
      obtain ⟨token', -, hl'⟩ := hl.listener_of_attends hs
      rw [hlist] at hl'
      cases hl'
      rw [hf]
      rw [if_pos rfl] at he
      exact lastWord_heard he
    · have hne : id ≠ id' := by
        rintro rfl
        have hcur := (hv.scopes id).current_eq_some (hv.listeners st id token hlist).2.1 hcan
        have hslot := (hv.listeners st id token hlist).2.2 hcur
        rw [hs.slot] at hslot
        exact heq (Option.some.inj hslot).symm
      rwa [if_neg heq, hother hne] at he

/-- The agent answers on the stream that it has, which someone reads. -/
theorem downlink_serveFrame {st : StreamId} (claim : ArbitrationUpdate)
    (ha : (s.switch st.switch).attached = some st.serial)
    (hr : (s.stream st).downlink.hasReceiver = true) (hc : (s.stream st).downlink.capacity = none) :
    ((s.serveFrame st.switch (.arbitration claim)).stream st).downlink.frames =
      (s.stream st).downlink.frames ++
        match ((s.switch st.switch).agent.arbitrate claim).2 with
        | none => []
        | some ack => [.item (.arbitration ack)] := by
  rw [serveFrame_arbitration]
  cases ((s.switch st.switch).agent.arbitrate claim).2 with
  | none => exact (List.append_nil _).symm
  | some ack =>
    have hsend : (s.stream st).downlink.send (.item (.arbitration ack)) = .ok
        { (s.stream st).downlink with
          frames := (s.stream st).downlink.frames ++ [.item (.arbitration ack)] } := by
      refine Pipe.send_eq_ok.mpr ⟨hr, ?_, rfl⟩
      unfold Pipe.isFull
      rw [hc]
    dsimp only
    rw [stream_pushFrame, stream_updateSwitch, hsend, switch_updateSwitch_self]
    dsimp only
    rw [if_pos ⟨rfl, ha⟩]

/-- The streams of other switches have no part in it. -/
theorem stream_serveFrame_of_ne {n : SwitchName} {st : StreamId} (frame : StreamRequest)
    (hn : st.switch ≠ n) : (s.serveFrame n frame).stream st = s.stream st := by
  cases frame with
  | packet packet => rfl
  | arbitration claim =>
    rw [serveFrame_arbitration]
    split
    · rfl
    · rw [stream_pushFrame]
      split
      · rw [if_neg fun h => hn h.1]
        rfl
      · rfl

/-- An acknowledged claim is news to everyone whom the agent would call by the name of the claimant. -/
theorem news_serveFrame {id : ClientId} {st : StreamId} (hl : s.Linked) (ha : s.Attends id st)
    (claim : ArbitrationUpdate) :
    (s.serveFrame st.switch (.arbitration claim)).news id st = s.news id st ++
      if (s.switch st.switch).agent.acknowledges = true ∧ claim.device = (s.client id).key.number then
        [((s.switch st.switch).agent.arbitrate claim).1.master]
      else [] := by
  obtain ⟨token, -, hlist⟩ := hl.listener_of_attends ha
  have hframes := downlink_serveFrame claim ha.attached
    ((hl.streams st).receiver.mpr (by rw [hlist]; rfl)) (hl.streams st).roomy
  have hclient := (sameClients_serveFrame s st.switch (.arbitration claim)).client id
  unfold news
  rw [hclient, hframes, newsIn_append]
  unfold Agent.arbitrate
  cases (s.switch st.switch).agent.acknowledges with
  | false => rfl
  | true =>
    by_cases hd : claim.device = (s.client id).key.number
    · simp [newsIn, hd]
    · simp [newsIn, hd]

/-- A claim that changes the master is higher. -/
theorem lt_of_elect {e : Uint128} {claimed : Option Uint128}
    (h : Agent.elect (some e) claimed ≠ some e) : ∃ e', claimed = some e' ∧ e.lt e' = true := by
  cases claimed with
  | none => exact absurd rfl h
  | some e' =>
    refine ⟨e', rfl, Decidable.byContradiction fun hlt => h ?_⟩
    exact if_neg hlt

section Served

variable {id : ClientId} {st st' : StreamId} {frame : StreamRequest} {uplink : Pipe StreamRequest}

/-- Those who attend a stream when the agent has taken a frame have attended it before. -/
theorem attends_of_served
    (h : ((s.updateStream st fun t => { t with uplink }).serveFrame st.switch frame).Attends id st') :
    s.Attends id st' := by
  have hslot := h.slot
  have hatt := h.attached
  rw [(sameClients_serveFrame _ _ _).client] at hslot
  rw [switch_serveFrame] at hatt
  refine ⟨hslot, ?_⟩
  split at hatt
  · next hn => rw [← hn]; exact hatt
  · exact hatt

theorem claims_served (s : System) (st st' : StreamId) (frame : StreamRequest)
    (uplink : Pipe StreamRequest) :
    ((s.updateStream st fun t => { t with uplink }).serveFrame st.switch frame).claims st' =
      if st = st' then claimsIn uplink.frames else s.claims st' := by
  rw [← claims_setUplink]
  unfold claims
  rw [(uplink_serveFrame _ _ _ _).1]

/-- A frame that is taken at one switch is nothing to the clients of another. -/
theorem keeps_served_of_ne (hn : st'.switch ≠ st.switch) :
    Keeps s ((s.updateStream st fun t => { t with uplink }).serveFrame st.switch frame) id st' := by
  have hsame := (sameClients_serveFrame (s.updateStream st fun t => { t with uplink }) st.switch
    frame).client id
  refine ⟨congrArg Client.standing hsame, ?_, ?_, ?_⟩
  · rw [claims_served, if_neg]
    rintro rfl
    exact hn rfl
  · rw [← news_setUplink s st uplink]
    unfold news
    rw [hsame, stream_serveFrame_of_ne _ hn]
  · rw [switch_serveFrame, if_neg (Ne.symm hn)]
    rfl

end Served

/-- The agent takes a claim whose turn it is.  Whoever is told has the right word then, and whoever is
not told has had it, or has missed the claim. -/
theorem Contested.decides (h : s.Contested missed) (hl : s.Linked) {origin : StreamId}
    {claim : ArbitrationUpdate} {uplink : Pipe StreamRequest}
    (hr : s.ready.head? = some (.serve origin)) (hv : (s.stream origin).served = true)
    (hu : (s.stream origin).uplink.receive = .frame (.arbitration claim) uplink) :
    ((s.updateStream origin fun t => { t with uplink }).serveFrame origin.switch
      (.arbitration claim)).Contested
        fun id st e => missed id st e ∨ s.Outbids id st e origin claim := by
  intro id st ha
  have hs := attends_of_served ha
  obtain ⟨claimed, own, current⟩ := h id st hs
  by_cases hn : st.switch = origin.switch
  · have hframes := (Pipe.receive_eq_frame.mp hu).1
    have hsame := (sameClients_serveFrame (s.updateStream origin fun t => { t with uplink })
      origin.switch (.arbitration claim)).client id
    have hclaims : s.claims origin = claim :: claimsIn uplink.frames := by
      unfold claims
      rw [hframes]
      rfl
    -- the claim is off the uplink before the agent answers
    have hbefore : (s.updateStream origin fun t => { t with uplink }).news id st = s.news id st :=
      news_setUplink s origin uplink id st
    have hnews := news_serveFrame (hl.takeUp hv hu) ⟨hs.slot, hs.attached⟩ claim
    rw [hbefore, hn] at hnews
    have hagent : ((s.updateStream origin fun t => { t with uplink }).serveFrame origin.switch
        (.arbitration claim)).switch st.switch =
          { s.switch st.switch with agent := ((s.switch st.switch).agent.arbitrate claim).1 } := by
      rw [switch_serveFrame, if_pos hn.symm, hn]
      rfl
    refine ⟨fun hm => ?_, fun c hc => ?_, fun e he => ?_⟩
    · rw [hsame]
      refine claimed ?_
      unfold IsMaster at hm ⊢
      rw [hsame] at hm
      exact hm
    · rw [hsame]
      rw [claims_served] at hc
      split at hc
      · next heq =>
        subst heq
        exact own c (by rw [hclaims]; exact List.mem_cons_of_mem _ hc)
      · exact own c hc
    · rw [hsame, hnews] at he
      rw [hagent]
      split at he
      · refine .inl ?_
        rw [hn]
        exact Standing.lastWord_snoc he
      · next hno =>
        rw [List.append_nil] at he
        rcases current e he with hmaster | hmissed
        · refine Decidable.or_iff_not_imp_left.mpr fun hchanged => .inr ⟨hs, hmaster, hr, hn.symm,
            ⟨hv, _, hframes⟩, ?_, ?_⟩
          · rw [Agent.arbitrate, hmaster] at hchanged
            exact lt_of_elect hchanged
          · refine Decidable.or_iff_not_imp_left.mpr fun hack => ?_
            have hdevice : claim.device ≠ (s.client id).key.number := fun hd =>
              hno ⟨by rw [← hn]; simpa using hack, hd⟩
            refine ⟨?_, hdevice⟩
            -- a claim on its own stream would be the client's own
            rintro rfl
            exact hdevice (own claim (by rw [hclaims]; exact List.mem_cons_self))
        · exact .inr (.inl hmissed)
  · refine (keeps_served_of_ne hn).apprised ⟨claimed, own, fun e he => ?_⟩
    exact (current e he).imp_right .inl

/-- The agent takes a packet, which says nothing about mastership. -/
theorem Contested.forwarded (h : s.Contested missed) (hv : s.Valid) (hl : s.Linked) {st : StreamId}
    {packet : WirePacket} {uplink : Pipe StreamRequest} (hs : (s.stream st).served = true)
    (hu : (s.stream st).uplink.receive = .frame (.packet packet) uplink) :
    ((s.updateStream st fun t => { t with uplink }).serveFrame st.switch (.packet packet)).Contested
      missed := by
  have hlt := (Happens.served s st _ uplink hs hu).linked (by simp) hv hl
  obtain ⟨hf, -⟩ := Pipe.receive_eq_frame.mp hu
  -- only the uplink changes, by a frame that claims nothing
  have hst : ∀ st', ((s.updateStream st fun t => { t with uplink }).serveFrame st.switch
      (.packet packet)).stream st' =
        if st = st' then { s.stream st with uplink } else s.stream st' := by
    intro st'
    rw [serveFrame_packet, stream_updateSwitch]
    exact stream_updateStream s st st' _
  have k : Steady s ((s.updateStream st fun t => { t with uplink }).serveFrame st.switch
      (.packet packet)) := by
    refine .of_mute hlt (fun _ => .inr rfl) ⟨fun st' => ?_, fun st' _ _ => ?_, fun n => ?_⟩
    · unfold claims
      rw [hst]
      split
      · next he =>
        rw [← he, hf]
        rfl
      · rfl
    · rw [hst]
      split
      · next he => rw [← he]
      · rfl
    · rw [switch_serveFrame]
      split
      · next he => exact he ▸ ⟨rfl, fun _ ha => ha⟩
      · exact ⟨rfl, fun _ ha => ha⟩
  exact k.contested h

section Opened

variable {id : ClientId} {token : Token} {afterFailure : Bool} {begun activated : Scope StreamId}
  {capacity : Option Nat} {st : StreamId}
  (hc : (s.beginScope id begun).connect (s.client id).switch capacity = (t, st))

include hc

theorem nextStream_of_connect : s.nextStream (s.client id).switch = st := by
  have h := connect_snd (s.beginScope id begun) (s.client id).switch capacity
  rw [hc] at h
  exact h.symm

/-- Nothing is on the way on the new stream. -/
theorem frames_opened :
    ((t.goLive id token afterFailure activated st).stream st).uplink.frames = [] ∧
      ((t.goLive id token afterFailure activated st).stream st).downlink.frames = [] := by
  have hconnect := stream_connect (s.beginScope id begun) (s.client id).switch capacity st
  rw [hc] at hconnect
  have hnext : (s.beginScope id begun).nextStream (s.client id).switch = st := nextStream_of_connect hc
  rw [if_pos hnext] at hconnect
  rw [stream_goLive, if_pos rfl, hconnect]
  exact ⟨rfl, rfl⟩

/-- The other streams carry what they carried. -/
theorem stream_opened {st' : StreamId} (hne : st ≠ st') :
    ((t.goLive id token afterFailure activated st).stream st').uplink = (s.stream st').uplink ∧
      ((t.goLive id token afterFailure activated st).stream st').downlink.frames =
        (s.stream st').downlink.frames := by
  have hconnect := stream_connect (s.beginScope id begun) (s.client id).switch capacity st'
  rw [hc] at hconnect
  have hnext : (s.beginScope id begun).nextStream (s.client id).switch = st := nextStream_of_connect hc
  rw [stream_goLive, if_neg hne, hconnect, hnext, if_neg hne, stream_detach]
  split <;> exact ⟨rfl, rfl⟩

theorem switch_opened (n : SwitchName) :
    (t.goLive id token afterFailure activated st).switch n =
      if (s.client id).switch = n then
        { s.switch (s.client id).switch with
          streamCount := (s.switch (s.client id).switch).streamCount + 1
          attached := some (s.switch (s.client id).switch).streamCount }
      else s.switch n := by
  have hconnect := switch_connect (s.beginScope id begun) (s.client id).switch n capacity
  rw [hc] at hconnect
  rw [switch_goLive]
  exact hconnect

/-- Another client attends another stream, at another switch: its switch has not been given a new one. -/
theorem switch_ne_of_attends (hl : s.Linked) {id' : ClientId} {st' : StreamId}
    (hslot : (s.client id').scope.slot = some st')
    (ha : (t.goLive id token afterFailure activated st).Attends id' st') :
    (s.client id).switch ≠ st'.switch := by
  have hst := nextStream_of_connect hc
  have hne : st ≠ st' := by
    rintro rfl
    have hdead : s.stream st = .dead := (hl.streams st).fresh (by rw [← hst]; exact Nat.le_refl _)
    obtain ⟨token', -, hlist⟩ := hl.slots id' st hslot
    rw [hdead] at hlist
    cases hlist
  intro hn
  have hatt := ha.attached
  rw [switch_opened hc, if_pos hn] at hatt
  apply hne
  rw [← hst]
  obtain ⟨n, serial⟩ := st'
  cases hn
  exact congrArg _ (Option.some.inj hatt)

/-- A session opens on a new stream.  Its client has claimed nothing yet, and the one before no longer
attends. -/
theorem Contested.opened (h : s.Contested missed) (hv : s.Valid) (hl : s.Linked) (hk : s.Knows id)
    (hb : (s.client id).scope.begin = some (token, afterFailure, begun))
    (ha : begun.activate token st = some activated)
    (hq : capacity = some (max (s.client id).config.queueCapacity 1)) :
    (t.goLive id token afterFailure activated st).Contested missed := by
  have hstand := (Happens.opened s id token afterFailure begun activated capacity t st hk hb hc
    ha hq).standing hv
  intro id' st' hatt
  have hstand := hstand id'
  by_cases hi : id = id'
  -- the client that opens: it is not master, and nothing is on its way on a new stream
  · subst hi
    rw [Incident.affect, if_pos rfl] at hstand
    have hslot : some st = some st' := by
      rw [← hatt.slot]
      exact (congrArg (fun c => c.scope.slot) hstand).symm
    cases hslot
    have hmaster : ((t.goLive id token afterFailure activated st).client id).standing.mastership ≠
        .master := by
      rw [hstand]
      exact fun hm => by cases hm
    obtain ⟨hup, hdown⟩ : ((t.goLive id token afterFailure activated st).stream st).uplink.frames = [] ∧
        ((t.goLive id token afterFailure activated st).stream st).downlink.frames = [] := frames_opened hc
    refine ⟨fun hm => absurd hm hmaster, fun claim hin => ?_, fun e he => ?_⟩
    · unfold claims at hin
      rw [hup] at hin
      cases hin
    · unfold news at he
      rw [hdown] at he
      cases he with
      | told h => cases h
      | known hn hm he => exact absurd hm hmaster
  -- another client: the new stream is on another switch, or it would attend that one
  · rw [Incident.affect, if_neg hi] at hstand
    have hslot : (s.client id').scope.slot = some st' := by
      rw [← hatt.slot]
      exact (congrArg (fun c => c.scope.slot) hstand).symm
    have hn := switch_ne_of_attends hc hl hslot hatt
    have hnext : st.switch = (s.client id).switch := by
      rw [← nextStream_of_connect hc]
      rfl
    have hw : (t.goLive id token afterFailure activated st).switch st'.switch = s.switch st'.switch := by
      rw [switch_opened hc, if_neg hn]
    have hne : st ≠ st' := by
      rintro rfl
      exact hn hnext.symm
    obtain ⟨hup, hdown⟩ :
        ((t.goLive id token afterFailure activated st).stream st').uplink = (s.stream st').uplink ∧
          ((t.goLive id token afterFailure activated st).stream st').downlink.frames =
            (s.stream st').downlink.frames := stream_opened hc hne
    have k : Keeps s (t.goLive id token afterFailure activated st) id' st' := by
      refine ⟨hstand, congrArg (fun u : Pipe StreamRequest => claimsIn u.frames) hup, ?_, by rw [hw]⟩
      unfold news
      rw [hdown, show ((t.goLive id token afterFailure activated st).client id').key =
        (s.client id').key from congrArg Standing.key hstand]
    exact k.apprised (h id' st' ⟨hslot, hw ▸ hatt.attached⟩)

end Opened

/-! ### Users -/

/-- A claim is queued.  The claimant does not take itself for the master until it has news. -/
theorem Contested.claimed (h : s.Contested missed) (hv : s.Valid) (hl : s.Linked) {id : ClientId}
    {election : ElectionId} {st : StreamId} {uplink : Pipe StreamRequest} (hk : s.Knows id)
    (hs : (s.client id).scope.slot = some st)
    (hu : (s.stream st).uplink.send (Arbiter.claimFrame (s.client id).key.number election) =
      .ok uplink) :
    (((s.updateClient id fun c => { c with arbiter := c.arbiter.claim election }).updateStream st
      fun t => { t with uplink }).wake (.serve st)).Contested missed := by
  have hstand := (Happens.claimed s id election st uplink hk hs hu).standing hv
  have hclaims : ∀ st', (((s.updateClient id fun c =>
      { c with arbiter := c.arbiter.claim election }).updateStream st fun t =>
        { t with uplink }).wake (.serve st)).claims st' =
          if st = st' then claimsIn uplink.frames else s.claims st' := by
    intro st'
    rw [claims_wake, claims_setUplink]
    rfl
  have hframes : ∀ st', ((((s.updateClient id fun c =>
      { c with arbiter := c.arbiter.claim election }).updateStream st fun t =>
        { t with uplink }).wake (.serve st)).stream st').downlink = (s.stream st').downlink := by
    intro st'
    rw [stream_wake, stream_updateStream]
    split
    · next he => rw [← he]; rfl
    · rfl
  have hswitch : ∀ n, (((s.updateClient id fun c =>
      { c with arbiter := c.arbiter.claim election }).updateStream st fun t =>
        { t with uplink }).wake (.serve st)).switch n = s.switch n := fun n => switch_wake _ _ n
  generalize ((s.updateClient id fun c =>
    { c with arbiter := c.arbiter.claim election }).updateStream st fun t =>
      { t with uplink }).wake (.serve st) = t at hstand hclaims hframes hswitch ⊢
  intro id' st' ha
  have hstand := hstand id'
  simp only [Incident.affect] at hstand
  by_cases hi : id = id'
  · subst hi
    rw [if_pos rfl] at hstand
    have hatt : s.Attends id st' := by
      refine ⟨?_, hswitch st'.switch ▸ ha.attached⟩
      rw [← show (t.client id).scope = (s.client id).scope from congrArg Standing.scope hstand]
      exact ha.slot
    obtain rfl := Option.some.inj (hs.symm.trans hatt.slot)
    have hkey : (t.client id).key = (s.client id).key := congrArg Standing.key hstand
    have hmaster : (t.client id).standing.mastership ≠ .master := by
      rw [hstand]
      exact fun hm => by cases hm
    obtain ⟨-, own, current⟩ := h id st hatt
    refine ⟨fun hm => absurd hm hmaster, fun claim hin => ?_, fun e he => ?_⟩
    · rw [hclaims, if_pos rfl, (Pipe.send_eq_ok.mp hu).2.2, claimsIn_append] at hin
      rw [hkey]
      rcases List.mem_append.mp hin with hin | hin
      · exact own claim hin
      · rw [List.mem_singleton.mp hin]
    · cases he with
      | known hn hm he => exact absurd hm hmaster
      | told hlast =>
        rw [hswitch]
        refine current e (.told ?_)
        unfold news at hlast ⊢
        rwa [hkey, hframes] at hlast
  · rw [if_neg hi] at hstand
    have hslot : (s.client id').scope.slot = some st' := by
      rw [← show (t.client id').scope = (s.client id').scope from congrArg Standing.scope hstand]
      exact ha.slot
    -- each session has a stream of its own
    have hne : st ≠ st' := by
      rintro rfl
      obtain ⟨token, -, hlist⟩ := hl.slots id st hs
      obtain ⟨token', -, hlist'⟩ := hl.slots id' st hslot
      rw [hlist] at hlist'
      cases hlist'
      exact hi rfl
    have k : Keeps s t id' st' := by
      refine ⟨hstand, by rw [hclaims, if_neg hne], ?_, by rw [hswitch]⟩
      unfold news
      rw [hframes, show (t.client id').key = (s.client id').key from congrArg Standing.key hstand]
    exact k.apprised (h id' st' ⟨hslot, hswitch st'.switch ▸ ha.attached⟩)

/-- An agent is steered, but keeps its master. -/
theorem Contested.steered (h : s.Contested missed) {n : SwitchName} {agent : Agent}
    (hm : agent.master = (s.switch n).agent.master) :
    (s.updateSwitch n fun w => { w with agent }).Contested missed := by
  have hswitch : ∀ n', ((s.updateSwitch n fun w => { w with agent }).switch n').attached =
      (s.switch n').attached ∧
        ((s.updateSwitch n fun w => { w with agent }).switch n').agent.master =
          (s.switch n').agent.master := by
    intro n'
    rw [switch_updateSwitch]
    split
    · next he => exact he ▸ ⟨rfl, hm⟩
    · exact ⟨rfl, rfl⟩
  intro id st ha
  have k : Keeps s (s.updateSwitch n fun w => { w with agent }) id st :=
    ⟨rfl, rfl, rfl, (hswitch st.switch).2⟩
  exact k.apprised (h id st ⟨ha.slot, (hswitch st.switch).1 ▸ ha.attached⟩)

/-! ### Sequences of incidents -/

/-- Nobody misses anything while no agent decides. -/
theorem Happens.contested {i : Incident} (hi : Happens s i t) (hv : s.Valid) (hl : s.Linked)
    (hn : i.isDecisive = false) (h : s.Contested missed) : t.Contested missed := by
  by_cases hs : i.isSteady = true
  · exact (hi.steady hs hv hl).contested h
  · cases hi with
    | opened id token afterFailure begun activated capacity t st hk hb hc ha hq =>
      exact h.opened hc hv hl hk hb ha hq
    | played id token afterFailure begun activated capacity script rest t st hk hb hscript hc ha =>
      rw [hl.scripts] at hscript
      cases hscript
    | claimed id election st uplink hk hslot hu => exact h.claimed hv hl hk hslot hu
    | heard id token st frame downlink hlist hc hd => exact h.heard hv hl hlist hc hd
    | pushed name frame =>
      match frame with
      | .failure status => exact absurd rfl hs
      | .item (.packet packet) => exact absurd rfl hs
      | .item (.error e) => exact absurd rfl hs
      | .item (.arbitration update) => cases hn
    | served | steered | foreign => cases hn
    | _ => exact absurd rfl hs

theorem Leads.contested {is : List Incident} (l : Leads s is t) (hv : s.Valid) (hl : s.Linked)
    (hn : ∀ i ∈ is, i.isDecisive = false) (h : s.Contested missed) : t.Contested missed := by
  induction l with
  | refl s => exact h
  | quiet q _ ih => exact ih (q.valid hv) (q.linked hl) hn ((q.steady hl).contested h)
  | cons hi _ ih =>
    have hi' := hn _ List.mem_cons_self
    refine ih (hi.valid hv) (hi.linked ?_ hv hl) (fun i hm => hn i (List.mem_cons_of_mem _ hm))
      (hi.contested hv hl hi' h)
    rintro rfl
    cases hi'

end P4Control.System
