import P4Control.Proofs.Metadata
import P4Control.Proofs.Tasks

namespace P4Control

/-!
# What an inbound loop makes of a frame

An inbound loop takes the frames of its stream one by one, while its session is in place.  A stream
error and a packet that can be named become events; nothing else that happens to a session does.

* `Hearing` — a frame that is taken, and `Hearing.events` — what is posted for it.
* `System.hearing?` — the frame that is taken in the next step of the tasks.
* `System.Takes` — what taking a frame does, and leaves as it is.
* `takes_poll` — so it is with every step in which a frame is taken.
* `Leads.inbound` — incidents in which no frame is taken post no such events.
* `poll_of_ended` — the loop of a session that has ended does nothing that anyone could see.
-/

/-! ### Frames and their events -/

/-- Whether a configuration has names for all metadata of a packet. -/
def Pipeconf.knows (conf : Pipeconf) (wire : WirePacket) : Bool :=
  wire.metadata.all fun item => (conf.metadataName? item.1).isSome

/-- The packet, with the names that a configuration has for its metadata. -/
def Pipeconf.named (conf : Pipeconf) (wire : WirePacket) : Packet :=
  ⟨wire.payload, wire.metadata.filterMap fun item =>
    (conf.metadataName? item.1).map fun name => (name, item.2)⟩

/-- A frame that an inbound loop takes. -/
structure Hearing where
  client : ClientId
  /-- The scope of the session. -/
  token : Token
  stream : StreamId
  frame : StreamResponse
  /-- The device of the client. -/
  device : DeviceId
  /-- The registered configuration that is bound to the device when the frame is taken. -/
  conf : Option Pipeconf
deriving DecidableEq

/-- The events about a frame: one for an error, and one for a packet whose metadata the configuration
of the device knows. -/
def Hearing.events (h : Hearing) : List Event :=
  match h.frame, h.conf with
  | .error e, _ => [.streamError h.device e.code e.message]
  | .packet wire, some conf =>
    if conf.knows wire then [.packetIn h.device conf.id (conf.named wire)] else []
  | .packet _, none => []
  | .arbitration _, _ => []

/-- Metadata is decoded if all of it is known. -/
theorem Packet.decode_of_knows {conf : Pipeconf} {wire : WirePacket}
    (h : conf.knows wire = true) : Packet.decode conf wire = .ok (conf.named wire) := by
  have hf : (wire.metadata.map (·.1)).find? (fun number => (conf.metadataName? number).isNone) = none := by
    simpa [Pipeconf.knows, Option.isSome_iff_ne_none] using h
  rw [decode, decodeItems_eq, translate_eq, hf]
  rfl

/-- One unknown item is enough for a packet not to be decoded. -/
theorem Packet.decode_of_not_knows {conf : Pipeconf} {wire : WirePacket}
    (h : conf.knows wire = false) : ∃ e, Packet.decode conf wire = .error e := by
  obtain ⟨number, hf⟩ : ∃ number, (wire.metadata.map (·.1)).find?
      (fun number => (conf.metadataName? number).isNone) = some number := by
    rw [← Option.isSome_iff_exists, List.find?_isSome]
    simpa [Pipeconf.knows] using h
  rw [decode, decodeItems_eq, translate_eq, hf]
  exact ⟨_, rfl⟩

namespace System

variable {s t : System}

/-- A frame posts its events. -/
theorem journal_listenFrame (s : System) (h : Hearing)
    (hd : h.device = (s.client h.client).key.device)
    (hc : h.conf = s.catalog.devicePipeconf? h.device) :
    (s.listenFrame h.client h.frame).journal = s.journal ++ h.events := by
  obtain ⟨id, token, st, frame, device, conf⟩ := h
  dsimp only at hd hc ⊢
  subst hd
  cases frame with
  | arbitration update => simp [listenFrame, Hearing.events, updateClient]
  | error e => rfl
  | packet wire =>
    simp only [listenFrame, Hearing.events, ← hc]
    cases conf with
    | none => simp
    | some conf =>
      dsimp only
      cases hk : conf.knows wire with
      | true => simp [Packet.decode_of_knows hk, post]
      | false =>
        obtain ⟨e, he⟩ := Packet.decode_of_not_knows hk
        simp [he]

/-! ### The frame that is taken next -/

/-- A session of a client is in place, in the scope of `token` and on the stream `st`. -/
def InSession (s : System) (id : ClientId) (token : Token) (st : StreamId) : Prop :=
  (s.client id).scope.current = some token ∧ (s.client id).scope.slot = some st

/-- The frame that is taken in the next step of the tasks. -/
def hearing? (s : System) : Option Hearing :=
  match s.ready, s.listens with
  | .listen st :: _, some (id, token, .frame (.item frame) _) =>
    some ⟨id, token, st, frame, (s.client id).key.device,
      s.catalog.devicePipeconf? (s.client id).key.device⟩
  | _, _ => none

/-- From `s` to `t`, a frame is taken: the session goes on, the frames behind it wait, and its events are
posted.  Nothing else changes, except that its client may take an arbitration update to heart. -/
structure Takes (s : System) (h : Hearing) (t : System) : Prop where
  session : s.InSession h.client h.token h.stream
  device : h.device = (s.client h.client).key.device
  conf : h.conf = s.catalog.devicePipeconf? h.device
  scopes : ∀ id, (t.client id).scope = (s.client id).scope
  clients : (∀ update, h.frame ≠ .arbitration update) → t.clients = s.clients
  others : ∀ id, h.client ≠ id → t.client id = s.client id
  listener : (s.stream h.stream).listener = some (h.client, h.token)
  stream : s.stream h.stream = { t.stream h.stream with
    downlink := { (t.stream h.stream).downlink with
      frames := .item h.frame :: (t.stream h.stream).downlink.frames } }
  streams : ∀ st, h.stream ≠ st → t.stream st = s.stream st
  switches : t.switches = s.switches
  ready : t.ready = s.ready
  journal : t.journal = s.journal ++ h.events

/-- What the loop finds whose turn it is. -/
theorem listens_eq_some {id : ClientId} {token : Token}
    {reception : Reception (Arrival StreamResponse)} (h : s.listens = some (id, token, reception)) :
    ∃ st rest, s.ready = .listen st :: rest ∧ (s.stream st).listener = some (id, token) ∧
      (s.client id).scope.isCancelled token = false ∧
      (s.stream st).downlink.receive = reception := by
  unfold listens at h
  split at h
  · next st rest hr =>
    split at h
    · next id' token' hl =>
      split at h
      · cases h
      · next hc =>
        cases h
        exact ⟨st, rest, hr, hl, by simpa using hc, rfl⟩
    · cases h
  · cases h

/-- A loop that has not been told of the end of its session runs in it. -/
theorem Valid.inSession (hv : s.Valid) {id : ClientId} {token : Token} {st : StreamId}
    (hl : (s.stream st).listener = some (id, token))
    (hc : (s.client id).scope.isCancelled token = false) : s.InSession id token st := by
  obtain ⟨-, hlt, hslot⟩ := hv.listeners st id token hl
  have ht := (hv.scopes id).current_eq_some hlt hc
  exact ⟨ht, hslot ht⟩

/-- A step in which a frame is taken. -/
theorem takes_poll (hv : s.Valid) {h : Hearing} (hh : s.hearing? = some h) : s.Takes h s.poll := by
  unfold hearing? at hh
  split at hh
  · next st rest id token frame downlink hr hlist =>
    cases hh
    -- the loop that has a frame before it is the one at the head of the queue
    obtain ⟨st', rest', hr', hl, hc, hd⟩ := listens_eq_some hlist
    obtain ⟨rfl, rfl⟩ : st = st' ∧ rest = rest' := by
      rw [hr] at hr'
      cases hr'
      exact ⟨rfl, rfl⟩
    obtain ⟨hf, he⟩ := Pipe.receive_eq_frame.mp hd
    have hp : s.poll = (s.updateStream st fun v => { v with downlink }).listenFrame id frame := by
      unfold poll
      rw [hr]
      simp only [listenStep, hl, hc, hd]
      rfl
    have hstream : s.poll.stream st = { s.stream st with downlink } := by
      rw [hp, stream_listenFrame]
      exact stream_updateStream_self s st _
    have heq : s.poll = { s with
        clients := s.poll.clients, streams := s.poll.streams, journal := s.poll.journal } := by
      rw [hp, listenFrame_eq]
      rfl
    refine ⟨hv.inSession hl hc, rfl, rfl, fun id' => ?_, fun hn => ?_, fun id' hne => ?_, hl, ?_,
      fun st' hne => ?_, by rw [heq], by rw [heq], ?_⟩
    · rw [hp, scope_listenFrame]
      rfl
    · rw [hp, clients_listenFrame _ _ hn]
      rfl
    · rw [hp, client_listenFrame]
      cases frame with
      | arbitration update => exact if_neg hne
      | error e => rfl
      | packet wire => rfl
    · rw [hstream, he]
      dsimp only
      rw [← hf]
    · rw [hp, stream_listenFrame, stream_updateStream, if_neg hne]
    · rw [hp]
      exact journal_listenFrame (s.updateStream st fun v => { v with downlink })
        ⟨id, token, st, frame, _, _⟩ rfl rfl
  · cases hh

/-- A session that is in place goes on when a frame is taken. -/
theorem Takes.inSession {h : Hearing} (ht : s.Takes h t) {id : ClientId} {token : Token}
    {st : StreamId} (hs : s.InSession id token st) : t.InSession id token st := by
  unfold InSession at *
  rwa [ht.scopes]

/-! ### The loop of a session that has ended -/

/-- A loop whose session has ended changes neither clients nor what has been posted. -/
theorem poll_of_ended (hv : s.Valid) {st : StreamId} (hr : s.ready.head? = some (.listen st))
    (he : ∀ id token, (s.stream st).listener = some (id, token) → ¬ s.InSession id token st) :
    s.poll.clients = s.clients ∧ s.poll.journal = s.journal := by
  obtain ⟨rest, hready⟩ := List.head?_eq_some_iff.mp hr
  unfold poll
  rw [hready]
  dsimp only
  unfold listenStep
  dsimp only
  split
  · exact ⟨rfl, rfl⟩
  · next id token hl =>
    split
    · exact ⟨rfl, rfl⟩
    · -- a loop that is told nothing runs in a session that is in place
      next hc => exact absurd (hv.inSession hl (by simpa using hc)) (he id token hl)

end System

/-! ### Events about frames -/

/-- Whether an event is about a frame. -/
def Event.isInbound (e : Event) : Bool :=
  match e.kind with
  | .packetIn | .streamError => true
  | _ => false

/-- The events of a frame are inbound ones. -/
theorem Hearing.isInbound_events (h : Hearing) : ∀ e ∈ h.events, e.isInbound = true := by
  unfold Hearing.events
  split
  · simp [Event.isInbound, Event.kind]
  · split <;> simp [Event.isInbound, Event.kind]
  · simp
  · simp

namespace System

variable {s t : System}

/-- The events about frames that have been posted. -/
def inbound (s : System) : List Event := s.journal.filter Event.isInbound

/-- A frame that is taken adds its events to the inbound ones. -/
theorem Takes.inbound {h : Hearing} (ht : s.Takes h t) : t.inbound = s.inbound ++ h.events := by
  unfold System.inbound
  rw [ht.journal, List.filter_append, List.filter_eq_self.mpr h.isInbound_events]

/-- Events of other kinds do not count among the inbound ones. -/
theorem inbound_of_journal {events : List Event} (hj : t.journal = s.journal ++ events)
    (hn : ∀ e ∈ events, e.isInbound = false) : t.inbound = s.inbound := by
  unfold System.inbound
  have hnone : events.filter Event.isInbound = [] :=
    List.filter_eq_nil_iff.mpr fun e he => by simp [hn e he]
  rw [hj, List.filter_append, hnone, List.append_nil]

theorem inbound_of_post {e : Event} (hj : t.journal = s.journal ++ [e]) (he : e.isInbound = false) :
    t.inbound = s.inbound :=
  inbound_of_journal hj fun _ hm => List.mem_singleton.mp hm ▸ he

theorem inbound_post (s : System) {e : Event} (he : e.isInbound = false) :
    (s.post e).inbound = s.inbound :=
  inbound_of_post rfl he

theorem inbound_of_same (hj : t.journal = s.journal) : t.inbound = s.inbound := by
  unfold System.inbound
  rw [hj]

/-- A quiet change posts no inbound event. -/
theorem Quiet.inbound (q : Quiet s t) : t.inbound = s.inbound := by
  obtain ⟨events, hj, he⟩ := q.journal
  refine inbound_of_journal hj fun e hm => ?_
  unfold Event.isInbound
  rw [he e hm]

/-- Nor does a session that is closed. -/
theorem inbound_closeSession (s : System) (id : ClientId) :
    (s.closeSession id).inbound = s.inbound := by
  rw [closeSession_eq]
  split
  · exact (inbound_post _ rfl).trans (inbound_of_same (journal_endScope s id _))
  · exact inbound_of_same (journal_endScope s id _)

/-- Nor does a session that opens. -/
theorem inbound_goLive {u : System} {id : ClientId} {begun : Scope StreamId}
    (hs : SameClients (s.beginScope id begun) u) (token : Token) (afterFailure : Bool)
    (activated : Scope StreamId) (st : StreamId) :
    (u.goLive id token afterFailure activated st).inbound = s.inbound := by
  refine inbound_of_post (by rw [journal_goLive, hs.journal]; rfl) ?_
  cases afterFailure <;> rfl

/-- Only frames that are taken become events about frames. -/
theorem Happens.inbound {i : Incident} (hi : Happens s i t)
    (hn : ∀ id st frame, i ≠ .heard id st frame) : t.inbound = s.inbound := by
  have same : t.journal = s.journal → t.inbound = s.inbound := inbound_of_same
  have past : i.passesBy = true → t.journal = s.journal := fun hp => (hi.passesBy hp).clients.journal
  cases hi with
  | opened id token afterFailure begun activated capacity u st hk hb hc ha =>
    exact inbound_goLive (PassesBy.of_connect hc).clients token afterFailure activated st
  | played id token afterFailure begun activated capacity script rest u st hk hb hs hc ha =>
    exact inbound_goLive (PassesBy.of_playScript hc).clients token afterFailure activated st
  | closed id hk => exact inbound_closeSession s id
  | released id hk hh => exact inbound_closeSession s id
  | failed id token hk ht =>
    refine same ?_
    rw [failSession_eq ht, journal_endScope]
  | unavailable id token reason hk ht =>
    refine (inbound_post _ rfl).trans (inbound_of_same ?_)
    rw [failSession_eq ht, journal_endScope]
  | claimed id election st uplink hk hs hu => exact same (journal_wake _ _)
  | heard id token st frame downlink hl hc hd => exact absurd rfl (hn id st frame)
  | foreign _ hc hh hr hf hj hl => exact same hj
  | created | filed | told | began => exact same rfl
  | sent | left | served | drained | idled | detached | pushed | steered => 
    exact same (past rfl)

/-- So it is with a sequence of incidents. -/
theorem Leads.inbound {is : List Incident} (l : Leads s is t)
    (hn : ∀ id st frame, .heard id st frame ∉ is) : t.inbound = s.inbound := by
  induction l with
  | refl s => rfl
  | quiet q _ ih => exact (ih hn).trans q.inbound
  | cons hi _ ih =>
    have hrest := ih fun id st frame hm => hn id st frame (List.mem_cons_of_mem _ hm)
    exact hrest.trans (hi.inbound fun id st frame he => hn id st frame (he ▸ List.mem_cons_self))

end System

end P4Control
