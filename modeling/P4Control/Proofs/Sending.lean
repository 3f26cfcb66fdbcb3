import P4Control.Proofs.Mastership
import P4Control.Proofs.Outbox
import P4Control.Proofs.Plumbing
import P4Control.Proofs.Refusal

namespace P4Control

/-!
# Sending is all or nothing

A claim or a packet is queued behind the frames of its session that wait, or it is refused and leaves no
trace: an earlier claim stays what it is, and is acknowledged as if nothing had been tried since.

* `System.outgoing` — the frames of a session that wait.
* `System.blocked?` — why a session takes no frame at the moment.
* `System.Sends` — what becomes of a frame.
* `Happening.decidesClaim`, `acknowledged_later` — what an acknowledgement does later in a run.
* `sends_all_or_nothing` — so it is with all claims and packets, after every run.
-/

namespace Pipe

variable {α : Type} {p : Pipe α}

theorem send_of_closed (h : p.hasReceiver = false) (a : α) : p.send a = .error .closed := by
  rw [send, h]
  rfl

theorem send_of_full (hr : p.hasReceiver = true) (hf : p.isFull = true) (a : α) :
    p.send a = .error .full := by
  rw [send, hr, hf]
  rfl

end Pipe

namespace System

variable {s : System} {refusing : Prop} {id : ClientId}

/-- The frames of a client's session that wait to be taken. -/
def outgoing (s : System) (id : ClientId) : List StreamRequest :=
  match (s.client id).scope.slot with
  | none => []
  | some st => (s.stream st).uplink.frames

/-- Whether nobody is there any more who could take the frames of a client's session. -/
def isCut (s : System) (id : ClientId) : Bool :=
  match (s.client id).scope.slot with
  | none => false
  | some st => !(s.stream st).uplink.hasReceiver

/-- Why a client's session takes no frame at the moment. -/
def blocked? (s : System) (id : ClientId) : Option ClientError :=
  let c := s.client id
  if c.scope.isOpen = false ∨ s.isCut id = true then some (.sessionNotOpen c.key.device)
  else if max 1 c.config.queueCapacity ≤ (s.outgoing id).length then
    some (.outboundQueueFull c.key.device)
  else none

/-- What becomes of a frame that is sent in the session of a client, given the state that results and
the error: it is queued on the stream of the session, or all is as before. -/
structure Sends (s : System) (id : ClientId) (frame : StreamRequest)
    (outcome : System × Option ClientError) : Prop where
  error : outcome.2 = s.blocked? id
  queued : s.blocked? id = none → ∃ st, (s.client id).scope.slot = some st ∧
    ∀ st', outcome.1.stream st' =
      if st = st' then
        { s.stream st with uplink :=
          { (s.stream st).uplink with frames := (s.stream st).uplink.frames ++ [frame] } }
      else s.stream st'
  unmoved : s.blocked? id ≠ none → s.Unmoved outcome.1 ∧ outcome.1.finished = s.finished

/-! ### The queue of a session -/

/-- The queue of a session is full when as many frames wait as the settings of its client allow. -/
theorem Plumbed.isFull_iff (h : s.Plumbed refusing) {st : StreamId}
    (hs : (s.client id).scope.slot = some st) :
    (s.stream st).uplink.isFull = true ↔
      max 1 (s.client id).config.queueCapacity ≤ (s.outgoing id).length := by
  unfold Pipe.isFull outgoing
  simp only [(h.slots id st hs).room, hs, decide_eq_true_eq, Nat.max_comm]

/-- A session that takes no frame refuses the one that is sent. -/
theorem Plumbed.enqueue_of_blocked (h : s.Plumbed refusing) (hv : (s.client id).scope.Valid)
    {e : ClientError} (he : s.blocked? id = some e) (frame : StreamRequest) :
    s.enqueue id frame = .error e := by
  cases hc : (s.client id).scope.isOpen with
  | false =>
    rw [blocked?, if_pos (.inl hc)] at he
    cases he
    exact enqueue_of_closed hv hc frame
  | true =>
    obtain ⟨st, hs⟩ := Option.isSome_iff_exists.mp (hv.isOpen_iff.mp hc)
    have hcut : s.isCut id = !(s.stream st).uplink.hasReceiver := by rw [isCut, hs]
    unfold enqueue
    simp only [hs]
    simp only [blocked?, hc, hcut, Bool.true_eq_false, false_or, Bool.not_eq_true'] at he
    split at he
    · next hr =>
      cases he
      rw [Pipe.send_of_closed hr]
    · next hr =>
      rw [Bool.not_eq_false] at hr
      split at he
      · next hfull =>
        cases he
        rw [Pipe.send_of_full hr ((h.isFull_iff hs).mpr hfull)]
      · cases he

/-- A session that takes frames queues the one that is sent behind the others. -/
theorem Plumbed.enqueue_of_free (h : s.Plumbed refusing) (hv : (s.client id).scope.Valid)
    (he : s.blocked? id = none) (frame : StreamRequest) :
    ∃ st, (s.client id).scope.slot = some st ∧
      s.enqueue id frame = .ok ((s.updateStream st fun _ => { s.stream st with uplink :=
        { (s.stream st).uplink with frames := (s.stream st).uplink.frames ++ [frame] } }).wake
          (.serve st)) := by
  unfold blocked? at he
  dsimp only at he
  split at he
  · cases he
  · next hopen =>
    rw [not_or, Bool.not_eq_false, Bool.not_eq_true] at hopen
    obtain ⟨st, hs⟩ := Option.isSome_iff_exists.mp (hv.isOpen_iff.mp hopen.1)
    -- the stream is not cut, so someone is there to receive
    have hr : (s.stream st).uplink.hasReceiver = true := by
      have hcut := hopen.2
      rw [isCut, hs] at hcut
      simpa using hcut
    split at he
    · cases he
    · next hroom =>
      -- and there is room
      have hf : (s.stream st).uplink.isFull = false := by
        rw [Bool.eq_false_iff]
        exact fun hfull => hroom ((h.isFull_iff hs).mp hfull)
      refine ⟨st, hs, ?_⟩
      unfold enqueue
      simp only [hs, Pipe.send_eq_ok.mpr ⟨hr, hf, rfl⟩]
      rfl

/-- The part in the election has nothing to do with what waits. -/
theorem blocked?_updateArbiter (s : System) (id : ClientId) (f : Client → Arbiter) :
    (s.updateClient id fun c => { c with arbiter := f c }).blocked? id = s.blocked? id := by
  unfold blocked? isCut outgoing
  rw [client_updateClient_self]
  rfl

/-- A claim is sent, or the client is as before. -/
theorem sends_runForMastership (h : s.Plumbed refusing) (hv : s.Valid) (id : ClientId)
    (election : ElectionId) :
    s.Sends id (Arbiter.claimFrame (s.client id).key.number election)
      (s.runForMastership id election) := by
  have hp := h.updateArbiter id fun c => c.arbiter.claim election
  have hb := blocked?_updateArbiter s id fun c => c.arbiter.claim election
  have hc := client_updateClient_self s id fun c => { c with arbiter := c.arbiter.claim election }
  have hscope := hv.scopes id
  unfold runForMastership
  generalize hclaimed : s.updateClient id (fun c => { c with arbiter := c.arbiter.claim election }) =
    claimed at hp hb hc ⊢
  have hslot : (claimed.client id).scope = (s.client id).scope := by rw [hc]
  have hstream : ∀ st, claimed.stream st = s.stream st := by
    rw [← hclaimed]
    exact fun _ => rfl
  rw [← hslot] at hscope
  dsimp only
  cases he : s.blocked? id with
  | none =>
    obtain ⟨st, hs, hq⟩ := hp.enqueue_of_free hscope (hb.trans he)
      (Arbiter.claimFrame (s.client id).key.number election)
    rw [hslot] at hs
    rw [hq]
    refine ⟨he.symm, fun _ => ⟨st, hs, fun st' => ?_⟩, fun hn => absurd he hn⟩
    rw [stream_wake, stream_updateStream, hstream, hstream]
  | some e =>
    rw [hp.enqueue_of_blocked hscope (hb.trans he)]
    rw [← hclaimed]
    -- the claim has been noted before it was sent, and is taken back
    exact ⟨he.symm, fun hn => (by rw [he] at hn; cases hn), fun _ => ⟨unmoved_takenBack s id election, rfl⟩⟩

/-- A packet whose metadata is known is sent, or the client is as before. -/
theorem sends_packetOut (h : s.Plumbed refusing) (hv : s.Valid) (id : ClientId) {conf : Pipeconf}
    {packet : Packet} {wire : WirePacket} (hw : packet.encode conf = .ok wire) :
    s.Sends id (.packet wire) (s.packetOut id conf packet) := by
  unfold packetOut
  simp only [hw]
  cases he : s.blocked? id with
  | none =>
    obtain ⟨st, hs, hq⟩ := h.enqueue_of_free (hv.scopes id) he (.packet wire)
    rw [hq]
    refine ⟨he.symm, fun _ => ⟨st, hs, fun st' => ?_⟩, fun hn => absurd he hn⟩
    rw [stream_wake, stream_updateStream]
  | some e =>
    rw [h.enqueue_of_blocked (hv.scopes id) he]
    exact ⟨he.symm, fun hn => (by rw [he] at hn; cases hn), fun _ => ⟨.refl s, rfl⟩⟩

/-- Only on a stream that refuses frames can nobody be there to take them. -/
theorem Plumbed.refusing_of_isCut (h : s.Plumbed refusing) (hc : s.isCut id = true) : refusing := by
  unfold isCut at hc
  split at hc
  · cases hc
  · next st hs => exact (h.slots id st hs).taken (by simpa using hc)

end System

namespace Scenario

variable {x : Scenario} {refusing : Prop} {id : ClientId}

/-- An action that sends a frame. -/
theorem sends_act (h : x.system.Plumbed refusing) (hv : x.Valid) {action : Action}
    {frame : StreamRequest} (hf : x.frame? action = some (id, frame)) :
    ∃ outcome, x.act action = x.sent outcome ∧ x.system.Sends id frame outcome := by
  cases action with
  | run client election =>
    simp only [frame?, Option.map_eq_some_iff, Prod.mk.injEq] at hf
    obtain ⟨id', hh, rfl, rfl⟩ := hf
    refine ⟨x.system.runForMastership id' election, ?_,
      System.sends_runForMastership h hv.system id' election⟩
    simp only [act, onClient, hh]
  | packetOut client confId packet =>
    simp only [frame?] at hf
    split at hf
    · next id' conf hh hc =>
      simp only [Option.map_eq_some_iff, Prod.mk.injEq] at hf
      obtain ⟨wire, hw, rfl, rfl⟩ := hf
      -- a frame is there only if the packet could be encoded
      have he : packet.encode conf = .ok wire := by
        cases hp : packet.encode conf with
        | error e => rw [hp] at hw; cases hw
        | ok w => rw [hp] at hw; cases hw; rfl
      refine ⟨x.system.packetOut id' conf packet, ?_,
        System.sends_packetOut h hv.system id' he⟩
      simp only [act, onClient, onPipeconf, hh, hc]
    · cases hf
  | _ => cases hf

/-! ### Later acknowledgements -/

/-- Where nothing is claimed and no scope begins, the last claim stays. -/
theorem fst_foldl_advanceBy {hs : List Happening} (hn : ∀ h ∈ hs, h.decidesClaim = false)
    (mark : Option ElectionId × MastershipState) : (hs.foldl advanceBy mark).1 = mark.1 := by
  induction hs generalizing mark with
  | nil => rfl
  | cons a rest ih =>
    rw [List.foldl_cons, ih fun h hm => hn h (List.mem_cons_of_mem _ hm)]
    cases a with
    | claimed | began => cases hn _ List.mem_cons_self
    | updated | ended => rfl

/-- The inbound loop takes an update that names the last claim. -/
theorem acknowledged (hv : x.Valid) {update : ArbitrationUpdate} {earlier : ElectionId}
    (hl : (x.system.client id).arbiter.lastUsed = some earlier)
    (hh : x.system.hears = some (id, .arbitration update))
    (hd : update.device = (x.system.client id).key.number)
    (he : update.election = some earlier.toWire) :
    ((x.make .poll).system.client id).arbiter.mastership.value = .master := by
  obtain ⟨is, hmake, hleads⟩ := leads_make hv (m := .poll) (by simp)
  cases hmake with
  | polls is hp =>
    rcases polls_calm hp with ⟨hn, -⟩ | ⟨id', st, frame, hh', rfl⟩
    · rw [hn] at hh
      cases hh
    · rw [hh] at hh'
      cases hh'
      have hs := congrArg Standing.mastership (hleads.standing hv.system id)
      rw [List.foldl_cons, List.foldl_nil, Incident.affect, if_pos ⟨rfl, hd⟩] at hs
      refine hs.trans ?_
      show Arbiter.verdict (x.system.client id).arbiter.lastUsed update.election = _
      rw [hl, he]
      exact if_pos rfl

/-- So it is later, unless something else has been claimed or a scope has begun meanwhile. -/
theorem acknowledged_later (hv : x.Valid) {earlier : ElectionId}
    (hl : (x.system.client id).arbiter.lastUsed = some earlier) (ms : List Move)
    (hn : ∀ h ∈ x.history id ms, h.decidesClaim = false) {update : ArbitrationUpdate}
    (hh : (x.after ms).system.hears = some (id, .arbitration update))
    (hd : update.device = ((x.after ms).system.client id).key.number)
    (he : update.election = some earlier.toWire) :
    (((x.after ms).make .poll).system.client id).arbiter.mastership.value = .master := by
  refine acknowledged (hv.after ms) ?_ hh hd he
  have hm := congrArg Prod.fst (mark_after hv id ms)
  rw [fst_foldl_advanceBy hn] at hm
  exact hm.trans hl

/-! ### All or nothing -/

/-- After every run, a claim or a packet whose metadata can be resolved is accepted if and only if the
session is open, someone is there to take its frames and there is room in its queue; and it is then
queued behind the frames that wait.  Otherwise the error says why, nothing changes but the count of what
has been sent to observers of the mastership, and an acknowledgement of an earlier claim still makes the
client master, whenever it comes.  Nobody is there to take the frames only where a script has said so. -/
theorem sends_all_or_nothing (devices : List String) (confs : List Pipeconf)
    (bindings : List (String × PipeconfId)) (config : ConfigChange) (capacity : Nat)
    (ms : List Move) (action : Action) (id : ClientId) (frame : StreamRequest)
    (hf : ((initial devices confs bindings config capacity).after ms).frame? action =
      some (id, frame)) :
    let x := (initial devices confs bindings config capacity).after ms
    let c := x.system.client id
    let y := (x.act action).1
    let reply := (x.act action).2
    let room := max 1 c.config.queueCapacity
    (reply = .done ↔ c.scope.isOpen = true ∧ x.system.isCut id = false ∧
      (x.system.outgoing id).length < room) ∧
    (reply = .done → ∃ st, c.scope.slot = some st ∧ ∀ st', y.system.stream st' =
      if st = st' then
        { x.system.stream st with uplink :=
          { (x.system.stream st).uplink with frames := x.system.outgoing id ++ [frame] } }
      else x.system.stream st') ∧
    (reply ≠ .done →
      (reply = .error (.sessionNotOpen c.key.device) ∧
          (c.scope.isOpen = false ∨ x.system.isCut id = true) ∨
        reply = .error (.outboundQueueFull c.key.device) ∧ c.scope.isOpen = true ∧
          x.system.isCut id = false ∧ room ≤ (x.system.outgoing id).length) ∧
      x.system.Unmoved y.system ∧ y.system.finished = x.system.finished ∧
      ∀ earlier, c.arbiter.lastUsed = some earlier → ∀ ns update,
        (∀ h ∈ y.history id ns, h.decidesClaim = false) →
        (y.after ns).system.hears = some (id, .arbitration update) →
        update.device = ((y.after ns).system.client id).key.number →
        update.election = some earlier.toWire →
          (((y.after ns).make .poll).system.client id).arbiter.mastership.value = .master) ∧
    (x.system.isCut id = true → ∃ m ∈ ms, m.queuesRefusing = true) := by
  intro x c y reply room
  have hinit := valid_initial devices confs bindings config capacity
  have hv : x.Valid := hinit.after ms
  have hp : x.system.Plumbed (∃ m ∈ ms, m.queuesRefusing = true) :=
    plumbed_after hinit (tuned_initial devices confs bindings config capacity)
      (plumbed_initial devices confs bindings config capacity _) ms fun m hm hr => ⟨m, hm, hr⟩
  obtain ⟨outcome, ha, hs⟩ := sends_act hp hv hf
  have hy : y.system = outcome.1 := by
    show (x.act action).1.system = _
    rw [ha]
    rfl
  have hreply : reply = (x.system.blocked? id).elim .done .error := by
    show (x.act action).2 = _
    rw [ha, ← hs.error]
    unfold sent
    cases outcome.2 <;> rfl
  -- The refusal looks at the scope, then at whoever takes the frames, then at the room: the three
  -- parts of the statement are the cases of this one test.
  have hblocked : x.system.blocked? id =
      if c.scope.isOpen = false ∨ x.system.isCut id = true then some (.sessionNotOpen c.key.device)
      else if room ≤ (x.system.outgoing id).length then some (.outboundQueueFull c.key.device)
      else none := rfl
  have hdone : reply = .done ↔ x.system.blocked? id = none := by
    rw [hreply]
    cases x.system.blocked? id <;> simp
  refine ⟨?_, fun hd => ?_, fun hd => ⟨?_, ?_⟩, hp.refusing_of_isCut⟩
  · rw [hdone, hblocked]
    cases c.scope.isOpen <;> cases x.system.isCut id <;> simp
  · obtain ⟨st, hslot, hst⟩ := hs.queued (hdone.mp hd)
    refine ⟨st, hslot, fun st' => ?_⟩
    rw [hy, hst, System.outgoing, hslot]
  · rw [hreply, hblocked]
    rw [ne_eq, hdone, hblocked] at hd
    split at hd
    · next hc => exact .inl ⟨by rw [if_pos hc, Option.elim_some], hc⟩
    · next hc =>
      rw [not_or, Bool.not_eq_false, Bool.not_eq_true] at hc
      split at hd
      · next hfull =>
        exact .inr ⟨by rw [if_neg (by simp [hc]), if_pos hfull, Option.elim_some], hc.1, hc.2, hfull⟩
      · exact absurd rfl hd
  · obtain ⟨hu, hfin⟩ := hs.unmoved fun hn => hd (hdone.mpr hn)
    rw [← hy] at hu hfin
    refine ⟨hu, hfin, fun earlier hl ns update hn hh hdev he => ?_⟩
    -- A refused claim leaves the one used last in place, so its acknowledgement still counts.
    have hvy : y.Valid := hv.make (.act action)
    refine acknowledged_later hvy ?_ ns hn hh hdev he
    exact (congrArg Profile.lastUsed (hu.profile id)).trans hl

/-- A client with a queue for one frame opens its session and claims mastership. -/
def crowding : List Move :=
  [.act (.create ⟨⟨"leaf"⟩, 1⟩ "c" (some { queueCapacity := some 0 })),
   .start "t0" (.openSession "c"), .act (.run "c" ⟨0, 5⟩)]

/-- There is no room for a second claim before the agent has read the first one, which stays pending and
is acknowledged. -/
theorem sends_all_or_nothing_crowding :
    let x := (initial ["leaf"] [] [] {} 16).after crowding
    let y := (x.act (.run "c" ⟨0, 7⟩)).1
    (x.system.outgoing ⟨⟨"leaf"⟩, 0⟩).length = 1 ∧
      (x.act (.run "c" ⟨0, 7⟩)).2 = .error (.outboundQueueFull ⟨"leaf"⟩) ∧
      (y.system.client ⟨⟨"leaf"⟩, 0⟩).arbiter.mastership.value = .pending ∧
      (((y.after [.poll, .poll]).make .poll).system.client ⟨⟨"leaf"⟩, 0⟩).arbiter.mastership.value =
        .master := by
  obtain ⟨hiff, -, hno, -⟩ := sends_all_or_nothing ["leaf"] [] [] {} 16 crowding (.run "c" ⟨0, 7⟩)
    ⟨⟨"leaf"⟩, 0⟩ (.arbitration ⟨1, some ⟨0, 7⟩, none⟩) (by decide)
  obtain ⟨hwhy, hu, -, hlater⟩ := hno fun hd => absurd (hiff.mp hd).2.2 (by decide)
  have hfull := hwhy.resolve_left fun hclosed => absurd hclosed.2 (by decide)
  have hpending := congrArg Profile.mastership (hu.profile ⟨⟨"leaf"⟩, 0⟩)
  exact ⟨by decide, hfull.1, hpending.trans (by decide),
    hlater ⟨0, 5⟩ (by decide) [.poll, .poll] ⟨1, some ⟨0, 5⟩, some .success⟩ (by decide) (by decide)
      (by decide) rfl⟩

/-- A session opens on a stream of which nobody takes the frames. -/
def deadEnd : List Move :=
  [.act (.create ⟨⟨"leaf"⟩, 1⟩ "c" none), .act (.script "leaf" (.stream ⟨[], false, true⟩)),
   .start "t0" (.openSession "c")]

/-- There a claim is refused although the session is open and no frame waits. -/
theorem refused_with_room :
    let x := (initial ["leaf"] [] [] {} 16).after deadEnd
    x.frame? (.run "c" ⟨0, 5⟩) = some (⟨⟨"leaf"⟩, 0⟩, .arbitration ⟨1, some ⟨0, 5⟩, none⟩) ∧
      (x.system.client ⟨⟨"leaf"⟩, 0⟩).scope.isOpen = true ∧
      x.system.outgoing ⟨⟨"leaf"⟩, 0⟩ = [] ∧
      (x.act (.run "c" ⟨0, 5⟩)).2 = .error (.sessionNotOpen ⟨"leaf"⟩) := by
  decide

end Scenario

end P4Control
