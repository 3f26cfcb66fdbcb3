import P4Control.Proofs.Agreement

namespace P4Control

/-!
# The contest for mastership

Claims travel to a switch on the uplinks of its streams, and what the agent has to say about the
master comes back on the downlink of the stream that it has.  A client may take itself for the master
although it is not: the news that correct it may be on their way, or there may be none, because the
agent acknowledges no claims, or acknowledges one to somebody else.

* `claimsIn`, `newsIn` — the claims on their way to a switch, and the news on their way back.
* `Standing.LastWord` — the id of the master by the last news of a client, read or unread.
* `System.Attends` — a client has the stream on which the agent sends.
* `System.Outbids` — the agent is about to take in a higher claim, and a client hears nothing of it.
* `Apprised`, `Contested` — the last word of a client is right, unless it has been outbid since.
* `Rests` — no frame comes or goes on an uplink.
* `Mute` — a change that leaves claims, news and agents alone.
* `Keeps`, `Steady` — changes that the contest has nothing to do with.
* `Happens.steady` — many an incident is such a change.
-/

/-- The claims among the frames of an uplink. -/
def claimsIn : List StreamRequest → List ArbitrationUpdate
  | [] => []
  | .arbitration claim :: rest => claim :: claimsIn rest
  | .packet _ :: rest => claimsIn rest

/-- The claims among two lists of frames. -/
theorem claimsIn_append (frames frames' : List StreamRequest) :
    claimsIn (frames ++ frames') = claimsIn frames ++ claimsIn frames' := by
  induction frames with
  | nil => rfl
  | cons frame rest ih =>
    cases frame with
    | packet packet => exact ih
    | arbitration claim => exact congrArg (claim :: ·) ih

/-- What the frames of a downlink say about the master to the one that the switch knows as `device`. -/
def newsIn (device : UInt64) : List (Arrival StreamResponse) → List (Option Uint128)
  | [] => []
  | .item (.arbitration update) :: rest =>
    if update.device = device then update.election :: newsIn device rest else newsIn device rest
  | _ :: rest => newsIn device rest

/-- The news among two lists of frames. -/
theorem newsIn_append (device : UInt64) (frames frames' : List (Arrival StreamResponse)) :
    newsIn device (frames ++ frames') = newsIn device frames ++ newsIn device frames' := by
  induction frames with
  | nil => rfl
  | cons frame rest ih =>
    match frame with
    | .failure status => exact ih
    | .item (.packet packet) => exact ih
    | .item (.error e) => exact ih
    | .item (.arbitration update) =>
      simp only [List.cons_append, newsIn]
      split
      · exact congrArg (update.election :: ·) ih
      · exact ih

/-- By the last word that a client has of the master, or will find in the news, the master has the id
`e`.  Whoever takes itself for the master goes by the id that it has claimed with. -/
inductive Standing.LastWord (c : Standing) (news : List (Option Uint128)) (e : Uint128) : Prop
  | told (h : news.getLast? = some (some e))
  | known (hn : news = []) (hm : c.mastership = .master) (he : c.lastUsed.map (·.toWire) = some e)

/-- Of the news only the last counts. -/
theorem Standing.lastWord_snoc {c : Standing} {news : List (Option Uint128)} {master : Option Uint128}
    {e : Uint128} (h : c.LastWord (news ++ [master]) e) : master = some e := by
  cases h with
  | told h =>
    rw [List.getLast?_concat] at h
    exact Option.some.inj h
  | known hn => exact absurd hn (by simp)

/-- The one who is found to be the master has claimed with the master's id. -/
theorem Arbiter.verdict_eq_master {lastUsed : Option ElectionId} {master : Option Uint128}
    (h : Arbiter.verdict lastUsed master = .master) :
    ∃ e, lastUsed = some e ∧ master = some e.toWire := by
  unfold Arbiter.verdict at h
  split at h
  · next sent wire =>
    split at h
    · next he =>
      subst he
      exact ⟨_, rfl, rfl⟩
    · cases h
  · cases h

/-- Whether an incident leaves the claims, the news and the sessions that go on as they are. -/
def Incident.isSteady : Incident → Bool
  | .opened _ _ _ _ | .claimed _ _ | .heard _ _ _ | .served _ _ | .steered _ _ | .foreign => false
  | .pushed _ (.item (.arbitration _)) => false
  | _ => true

/-- Whether an incident changes a master, or what a client is told of it, other than through its own
reading. -/
def Incident.isDecisive : Incident → Bool
  | .served _ _ | .steered _ _ | .foreign => true
  | .pushed _ (.item (.arbitration _)) => true
  | _ => false

namespace System

variable {s t : System}

/-! ### What is on its way -/

/-- The claims on their way to the switch of a stream. -/
def claims (s : System) (st : StreamId) : List ArbitrationUpdate :=
  claimsIn (s.stream st).uplink.frames

/-- The news about the master that a client will find on a stream. -/
def news (s : System) (id : ClientId) (st : StreamId) : List (Option Uint128) :=
  newsIn (s.client id).key.number (s.stream st).downlink.frames

/-- The client takes itself for the master of its switch. -/
def IsMaster (s : System) (id : ClientId) : Prop :=
  (s.client id).arbiter.mastership.value = .master

instance (s : System) (id : ClientId) : Decidable (s.IsMaster id) :=
  inferInstanceAs (Decidable ((s.client id).arbiter.mastership.value = .master))

/-- A client has an open session on the stream on which the agent of its switch sends. -/
structure Attends (s : System) (id : ClientId) (st : StreamId) : Prop where
  slot : (s.client id).scope.slot = some st
  attached : (s.switch st.switch).attached = some st.serial

/-- The agent of a switch whose master has the id `e` is about to take a higher claim off the stream
`origin`, and the client that attends the stream `st` of the switch will not be told: the agent
acknowledges no claims, or it acknowledges this one, which has waited on another stream, to somebody
else. -/
structure Outbids (s : System) (id : ClientId) (st : StreamId) (e : Uint128) (origin : StreamId)
    (claim : ArbitrationUpdate) : Prop where
  attends : s.Attends id st
  master : (s.switch st.switch).agent.master = some e
  turn : s.ready.head? = some (.serve origin)
  switch : origin.switch = st.switch
  waits : (s.stream origin).served = true ∧
    ∃ rest, (s.stream origin).uplink.frames = .arbitration claim :: rest
  higher : ∃ e', claim.election = some e' ∧ e.lt e' = true
  untold : (s.switch st.switch).agent.acknowledges = false ∨
    origin ≠ st ∧ claim.device ≠ (s.client id).key.number

/-- What a client has been told of the master, or will be, is true, unless it has been outbid since.
The ids that have been outbid so are those that `missed` says. -/
structure Apprised (s : System) (id : ClientId) (st : StreamId) (missed : Uint128 → Prop) : Prop where
  /-- Nobody is master without a claim. -/
  claimed : s.IsMaster id → ∃ e, (s.client id).arbiter.lastUsed = some e
  /-- The claims on the client's stream are those of the client. -/
  own : ∀ claim ∈ s.claims st, claim.device = (s.client id).key.number
  current : ∀ e, (s.client id).standing.LastWord (s.news id st) e →
    (s.switch st.switch).agent.master = some e ∨ missed e

/-- Everyone who attends a switch is apprised, but for what `missed` says. -/
def Contested (s : System) (missed : ClientId → StreamId → Uint128 → Prop) : Prop :=
  ∀ id st, s.Attends id st → s.Apprised id st (missed id st)

/-- More may have been missed. -/
theorem Contested.mono {missed missed' : ClientId → StreamId → Uint128 → Prop} (h : s.Contested missed)
    (hm : ∀ id st e, missed id st e → missed' id st e) : s.Contested missed' := by
  intro id st ha
  obtain ⟨claimed, own, current⟩ := h id st ha
  exact ⟨claimed, own, fun e he => (current e he).imp_right (hm id st e)⟩

/-! ### An uplink changes -/

/-- The claims on a stream are told by its uplink. -/
theorem claims_setUplink (s : System) (st st' : StreamId) (uplink : Pipe StreamRequest) :
    (s.updateStream st fun t => { t with uplink }).claims st' =
      if st = st' then claimsIn uplink.frames else s.claims st' := by
  unfold claims
  rw [stream_updateStream]
  split <;> rfl

/-- An uplink brings no news. -/
theorem news_setUplink (s : System) (st : StreamId) (uplink : Pipe StreamRequest) (id : ClientId)
    (st' : StreamId) :
    (s.updateStream st fun t => { t with uplink }).news id st' = s.news id st' := by
  unfold news
  rw [stream_updateStream]
  split
  · next h =>
    rw [← h]
    rfl
  · rfl

/-- A task that is woken claims nothing. -/
theorem claims_wake (s : System) (task : Task) (st : StreamId) :
    (s.wake task).claims st = s.claims st := by
  unfold claims
  rw [stream_wake]

/-! ### Nothing on its way -/

/-- Who attends a stream listens to it. -/
theorem Linked.listener_of_attends (h : s.Linked) {id : ClientId} {st : StreamId}
    (ha : s.Attends id st) : ∃ token, (s.client id).scope.current = some token ∧
      (s.stream st).listener = some (id, token) := h.slots id st ha.slot

/-- When all tasks wait, no news are on their way. -/
theorem Linked.news_of_settled (h : s.Linked) (hr : s.ready = []) {id : ClientId} {st : StreamId}
    (ha : s.Attends id st) : s.news id st = [] := by
  obtain ⟨token, -, hl⟩ := h.listener_of_attends ha
  have hf : (s.stream st).downlink.frames = [] := by
    refine Decidable.byContradiction fun hne => ?_
    have hm := (h.streams st).listens id token hl (.inr (.inl hne))
    rw [hr] at hm
    cases hm
  unfold news
  rw [hf]
  rfl

/-! ### Uplinks at rest -/

/-- No frame comes or goes on an uplink, and the agents take none in. -/
structure Rests (s t : System) : Prop where
  frames : ∀ st, (t.stream st).uplink.frames = (s.stream st).uplink.frames
  claims : ∀ n, (t.switch n).agent.claims = (s.switch n).agent.claims
  packets : ∀ n, (t.switch n).agent.packetOuts = (s.switch n).agent.packetOuts

namespace Rests

/-- Uplinks that rest in two changes rest in both. -/
theorem trans {u : System} (h : Rests s t) (h' : Rests t u) : Rests s u :=
  ⟨fun st => (h'.frames st).trans (h.frames st), fun n => (h'.claims n).trans (h.claims n),
    fun n => (h'.packets n).trans (h.packets n)⟩

/-- The switches stay as they are. -/
theorem of_streams (hst : ∀ st, (t.stream st).uplink.frames = (s.stream st).uplink.frames)
    (hw : ∀ n, t.switch n = s.switch n) : Rests s t :=
  ⟨hst, fun n => by rw [hw], fun n => by rw [hw]⟩

/-- Uplinks rest in a quiet change. -/
theorem quiet (q : Quiet s t) : Rests s t :=
  ⟨fun st => by rw [q.stream], fun n => congrArg Line.claims (q.line n),
    fun n => congrArg Line.packetOuts (q.line n)⟩

/-- A stream changes, but not in what is on its uplink. -/
theorem updateStream (s : System) (st : StreamId) {f : Stream → Stream}
    (hf : (f (s.stream st)).uplink.frames = (s.stream st).uplink.frames) :
    Rests s (s.updateStream st f) := by
  refine .of_streams (fun st' => ?_) fun _ => rfl
  rw [stream_updateStream]
  split
  · next h => rw [← h, hf]
  · rfl

/-- Uplinks rest when an inbound loop ends. -/
theorem dropListener (s : System) (st : StreamId) : Rests s (s.dropListener st) :=
  updateStream s st rfl

/-- Uplinks rest until the task has run. -/
theorem dequeue (s : System) : Rests s s.dequeue := ⟨fun _ => rfl, fun _ => rfl, fun _ => rfl⟩

/-- Uplinks rest when an event is posted. -/
theorem post (s : System) (e : Event) : Rests s (s.post e) := ⟨fun _ => rfl, fun _ => rfl, fun _ => rfl⟩

/-- The end of a session leaves on its stream what waits there. -/
theorem endScope (s : System) (id : ClientId) (ended : Scope StreamId) :
    Rests s (s.endScope id ended) := by
  refine .of_streams (fun st => ?_) fun n => switch_endScope s id ended n
  rw [stream_endScope]
  split <;> rfl

/-- A close leaves what waits on the uplink. -/
theorem closeSession (s : System) (id : ClientId) : Rests s (s.closeSession id) := by
  rw [closeSession_eq]
  split
  · exact (endScope s id _).trans (post _ _)
  · exact endScope s id _

/-- A failure leaves what waits on the uplink. -/
theorem failSession (s : System) {id : ClientId} {token : Token}
    (ht : (s.client id).scope.current = some token) : Rests s (s.failSession id token) := by
  rw [failSession_eq ht]
  exact endScope s id _

/-- A session opens with its uplink as it is. -/
theorem goLive (s : System) (id : ClientId) (token : Token) (afterFailure : Bool)
    (activated : Scope StreamId) (st : StreamId) :
    Rests s (s.goLive id token afterFailure activated st) := by
  refine .of_streams (fun st' => ?_) fun n => switch_goLive s id token afterFailure activated st n
  rw [stream_goLive]
  split
  · next h => rw [← h]
  · rfl

/-- A frame that is taken leaves the uplinks alone. -/
theorem listenFrame (s : System) (id : ClientId) (frame : StreamResponse) :
    Rests s (s.listenFrame id frame) :=
  .of_streams (fun st => by rw [stream_listenFrame]) fun n => switch_listenFrame s id frame n

/-- An agent that lets go of a stream leaves its uplink alone. -/
theorem detach (s : System) (n : SwitchName) : Rests s (s.detach n) := by
  have agent : ∀ m, ((s.detach n).switch m).agent = (s.switch m).agent := by
    intro m
    rw [switch_detach]
    split
    · next h => rw [← h]
    · rfl
  refine ⟨fun st => ?_, fun m => by rw [agent], fun m => by rw [agent]⟩
  rw [stream_detach]
  split <;> rfl

/-- What the agent sends leaves the uplinks alone. -/
theorem pushFrame (s : System) (n : SwitchName) (frame : Arrival StreamResponse) :
    Rests s (s.pushFrame n frame).1 :=
  .of_streams (fun st => by rw [(uplink_pushFrame s n frame st).1]) fun m =>
    switch_pushFrame s n m frame

/-- A new stream comes without frames, and leaves those on the one before. -/
theorem connect (s : System) {n : SwitchName} (hf : s.stream (s.nextStream n) = .dead)
    (capacity : Option Nat) : Rests s (s.connect n capacity).1 := by
  have agent : ∀ m, ((s.connect n capacity).1.switch m).agent = (s.switch m).agent := by
    intro m
    rw [switch_connect]
    split
    · next h => rw [← h]
    · rfl
  refine ⟨fun st => ?_, fun m => by rw [agent], fun m => by rw [agent]⟩
  rw [stream_connect]
  split
  · next h =>
    rw [← h, hf]
    rfl
  · exact (detach s n).frames st

end Rests

/-! ### Changes elsewhere -/

/-- A client and its stream do not change in what the contest is about, and neither does the master. -/
structure Keeps (s t : System) (id : ClientId) (st : StreamId) : Prop where
  standing : (t.client id).standing = (s.client id).standing
  claims : t.claims st = s.claims st
  news : t.news id st = s.news id st
  master : (t.switch st.switch).agent.master = (s.switch st.switch).agent.master

/-- A client is apprised as long as it keeps what it knows by. -/
theorem Keeps.apprised {id : ClientId} {st : StreamId} {missed : Uint128 → Prop} (k : Keeps s t id st)
    (h : s.Apprised id st missed) : t.Apprised id st missed := by
  refine ⟨fun hm => ?_, fun claim hc => ?_, fun e he => ?_⟩
  · rw [show (t.client id).arbiter.lastUsed = (s.client id).arbiter.lastUsed from
      congrArg Standing.lastUsed k.standing]
    exact h.claimed ((congrArg Standing.mastership k.standing).symm.trans hm)
  · rw [show (t.client id).key = (s.client id).key from congrArg Standing.key k.standing]
    exact h.own claim (k.claims ▸ hc)
  · rw [k.standing, k.news] at he
    rw [k.master]
    exact h.current e he

/-- Whoever attends a switch has attended it before, and nothing has changed for it. -/
def Steady (s t : System) : Prop := ∀ id st, t.Attends id st → s.Attends id st ∧ Keeps s t id st

/-- Where every client keeps what it knows by, all stay apprised. -/
theorem Steady.contested {missed : ClientId → StreamId → Uint128 → Prop} (k : Steady s t)
    (h : s.Contested missed) : t.Contested missed := by
  intro id st ha
  obtain ⟨hs, hk⟩ := k id st ha
  exact hk.apprised (h id st hs)

/-- The agents keep their masters, and no claim and no news come or go that someone would read. -/
structure Mute (s t : System) : Prop where
  claims : ∀ st, t.claims st = s.claims st
  news : ∀ st, (t.stream st).listener.isSome = true → ∀ device,
    newsIn device (t.stream st).downlink.frames = newsIn device (s.stream st).downlink.frames
  agents : ∀ n, (t.switch n).agent.master = (s.switch n).agent.master ∧
    ∀ serial, (t.switch n).attached = some serial → (s.switch n).attached = some serial

/-- Sessions end at most, and the rest is mute. -/
theorem Steady.of_mute (hl : t.Linked)
    (hc : ∀ id, (t.client id).scope.slot = none ∨ (t.client id).standing = (s.client id).standing)
    (hm : Mute s t) : Steady s t := by
  intro id st ha
  have hstand : (t.client id).standing = (s.client id).standing := by
    refine (hc id).resolve_left fun hn => ?_
    rw [ha.slot] at hn
    cases hn
  have hslot : (s.client id).scope.slot = some st := by
    rw [← show (t.client id).scope.slot = (s.client id).scope.slot from
      congrArg (fun c => c.scope.slot) hstand]
    exact ha.slot
  obtain ⟨token, -, hlist⟩ := hl.listener_of_attends ha
  obtain ⟨hmaster, hatt⟩ := hm.agents st.switch
  refine ⟨⟨hslot, hatt _ ha.attached⟩, hstand, hm.claims st, ?_, hmaster⟩
  unfold news
  rw [show (t.client id).key = (s.client id).key from congrArg Standing.key hstand]
  exact hm.news st (by rw [hlist]; rfl) _

/-- A quiet change keeps everything that clients know by. -/
theorem Quiet.steady (q : Quiet s t) (hl : s.Linked) : Steady s t := by
  refine .of_mute (q.linked hl) (fun id => .inr (q.standing id)) ⟨fun st => ?_, fun st _ device => ?_,
    fun n => ?_⟩
  · unfold claims
    rw [q.stream]
  · rw [q.stream]
  · have hn := q.line n
    refine ⟨congrArg Line.master hn, fun serial ha => ?_⟩
    rw [← show (t.switch n).attached = (s.switch n).attached from congrArg Line.attached hn]
    exact ha

/-! ### Incidents -/

/-- In a steady incident the session of a client ends, or its standing stays what it is. -/
theorem Happens.fate {i : Incident} (hi : Happens s i t) (hs : i.isSteady = true) (hv : s.Valid)
    (id : ClientId) :
    (t.client id).scope.slot = none ∨ (t.client id).standing = (s.client id).standing := by
  have hstand := hi.standing hv id
  have hslot : (t.client id).scope.slot = (i.affect id (s.client id).standing).scope.slot :=
    congrArg (fun c => c.scope.slot) hstand
  rw [hslot, hstand]
  -- A steady incident changes a standing only where no stream is left afterwards.
  cases hi with
  | created key switch config =>
    simp only [Incident.affect]
    split
    · next he =>
      refine .inl ?_
      rw [client_eq_default (he ▸ hv.not_knows_newClient key switch config)]
      rfl
    · exact .inr rfl
  | began id' token afterFailure begun hk hb =>
    obtain ⟨hc, -, -, -⟩ := Scope.begin_eq_some hb
    simp only [Incident.affect]
    split
    · next he => exact .inl ((hv.scopes id).slot_eq_none (he ▸ hc))
    · exact .inr rfl
  | closed | released =>
    simp only [Incident.affect]
    split
    · exact .inl (Scope.slot_close _)
    · exact .inr rfl
  | failed | unavailable =>
    simp only [Incident.affect]
    split
    · exact .inl rfl
    · exact .inr rfl
  | opened | played | claimed | heard | served | steered | foreign => cases hs
  | _ => exact .inr rfl

/-- Uplinks that rest bring no news, if the streams that are read bring none either. -/
theorem Rests.mute (h : Rests s t)
    (hn : ∀ st, (t.stream st).listener.isSome = true → ∀ device,
      newsIn device (t.stream st).downlink.frames = newsIn device (s.stream st).downlink.frames)
    (hw : ∀ n, t.switch n = s.switch n) : Mute s t :=
  ⟨fun st => congrArg claimsIn (h.frames st), hn, fun n => by
    rw [hw]
    exact ⟨rfl, fun _ ha => ha⟩⟩

/-- A scope ends. -/
theorem mute_endScope (s : System) (id : ClientId) (ended : Scope StreamId) :
    Mute s (s.endScope id ended) := by
  refine (Rests.endScope s id ended).mute (fun st _ _ => ?_) fun n => switch_endScope s id ended n
  rw [stream_endScope]
  split <;> rfl

/-- A close brings no news. -/
theorem mute_closeSession (s : System) (id : ClientId) : Mute s (s.closeSession id) := by
  have h := s.mute_endScope id (s.client id).scope.close.2
  rw [closeSession_eq]
  split
  · exact ⟨h.claims, h.news, h.agents⟩
  · exact h

/-- A failure brings no news. -/
theorem mute_failSession {id : ClientId} {token : Token}
    (ht : (s.client id).scope.current = some token) : Mute s (s.failSession id token) := by
  rw [failSession_eq ht]
  exact s.mute_endScope id _

/-- A frame that is no claim is queued. -/
theorem mute_send {st : StreamId} {packet : WirePacket} {uplink : Pipe StreamRequest}
    (hu : (s.stream st).uplink.send (.packet packet) = .ok uplink) :
    Mute s ((s.updateStream st fun t => { t with uplink }).wake (.serve st)) := by
  obtain ⟨-, -, he⟩ := Pipe.send_eq_ok.mp hu
  refine ⟨fun st' => ?_, fun st' _ _ => ?_, fun n => ?_⟩
  · rw [claims_wake, claims_setUplink]
    split
    · next heq =>
      rw [he, ← heq, claimsIn_append]
      exact List.append_nil _
    · rfl
  · rw [stream_wake, stream_updateStream]
    split
    · next heq => rw [← heq]
    · rfl
  · rw [switch_wake]
    exact ⟨rfl, fun _ ha => ha⟩

/-- An inbound loop ends, and nobody reads its stream any more. -/
theorem mute_dropListener (s : System) (st : StreamId) : Mute s (s.dropListener st) := by
  refine (Rests.dropListener s st).mute (fun st' hsome _ => ?_) fun _ => rfl
  rw [stream_dropListener] at hsome ⊢
  split at hsome
  · cases hsome
  · next hne => rw [if_neg hne]

/-- The agent is done with an uplink on which nothing is left. -/
theorem mute_drain {st : StreamId} (hf : (s.stream st).uplink.frames = []) :
    Mute s (s.updateStream st fun t =>
      { t with uplink := t.uplink.dropReceiver, served := false }) := by
  refine (Rests.updateStream s st hf.symm).mute (fun st' _ _ => ?_) fun _ => rfl
  rw [stream_updateStream]
  split
  · next heq => rw [← heq]
  · rfl

/-- The agent lets go of its stream. -/
theorem mute_detach (s : System) (n : SwitchName) : Mute s (s.detach n) := by
  refine ⟨fun st => congrArg claimsIn ((Rests.detach s n).frames st), fun st _ _ => ?_, fun m => ?_⟩
  · rw [stream_detach]
    split <;> rfl
  · rw [switch_detach]
    split
    · next he =>
      rw [← he]
      exact ⟨rfl, fun _ ha => by cases ha⟩
    · exact ⟨rfl, fun _ ha => ha⟩

/-- The agent sends a frame that is no news. -/
theorem mute_pushFrame (s : System) (n : SwitchName) {frame : Arrival StreamResponse}
    (hf : ∀ device, newsIn device [frame] = []) : Mute s (s.pushFrame n frame).1 := by
  refine (Rests.pushFrame s n frame).mute (fun st _ device => ?_) fun m => switch_pushFrame s n m frame
  rw [stream_pushFrame]
  split
  · next downlink hd =>
    obtain ⟨-, -, he⟩ := Pipe.send_eq_ok.mp hd
    split
    · rw [he]
      show newsIn device ((s.stream st).downlink.frames ++ [frame]) = _
      rw [newsIn_append, hf, List.append_nil]
    · rfl
  · rfl

/-- The incidents that have nothing to do with the contest are mute. -/
theorem Happens.mute {i : Incident} (hi : Happens s i t) (hs : i.isSteady = true) : Mute s t := by
  cases hi with
  | created | filed | told | began | idled =>
    exact ⟨fun _ => rfl, fun _ _ _ => rfl, fun _ => ⟨rfl, fun _ ha => ha⟩⟩
  | closed id hk | released id hk hh => exact s.mute_closeSession id
  | failed id token hk ht => exact mute_failSession ht
  | unavailable id token reason hk ht =>
    have h := mute_failSession ht
    exact ⟨h.claims, h.news, h.agents⟩
  | sent id packet st uplink hslot hu => exact mute_send hu
  | left id token st hr hlist hcan =>
    have h := s.dequeue.mute_dropListener st
    exact ⟨h.claims, h.news, h.agents⟩
  | drained st hr hserved hf =>
    have h := mute_drain (s := s.dequeue) hf
    exact ⟨h.claims, h.news, h.agents⟩
  | detached n => exact s.mute_detach n
  | pushed n frame =>
    refine s.mute_pushFrame n fun device => ?_
    -- of what an agent sends only an acknowledgement is news
    match frame with
    | .failure status => rfl
    | .item (.packet packet) => rfl
    | .item (.error e) => rfl
    | .item (.arbitration update) => cases hs
  | opened | played | claimed | heard | served | steered | foreign => cases hs

/-- Steady incidents are steady. -/
theorem Happens.steady {i : Incident} (hi : Happens s i t) (hs : i.isSteady = true) (hv : s.Valid)
    (h : s.Linked) : Steady s t := by
  have hf : i ≠ .foreign := by
    rintro rfl
    cases hs
  exact .of_mute (hi.linked hf hv h) (hi.fate hs hv) (hi.mute hs)

end System

end P4Control
