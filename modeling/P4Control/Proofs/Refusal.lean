import P4Control.Proofs.Metadata
import P4Control.Proofs.Pending

namespace P4Control

/-!
# Nothing passes a session that is not open

While the session of a client is not open, whatever is asked of the client is refused at once.  The
refusal says that no session is open, unless a name in the request cannot be resolved, and it leaves no
trace on switches, streams, sessions and pending calls.

* `Packet.unresolved?` — the first metadata item of a packet that the configuration does not know.
* `System.Unmoved` — two systems that differ in nothing that a session or a switch knows of.
* `System.unmoved_ends` — a new call that ends at once leaves no trace but its result.
* `System.Refuses` — a call that is refused.
* `Scenario.Request.refusal` — the error with which a request is refused.
* `refused_unless_open` — nothing passes a session that is not open.
-/

/-! ### Names that cannot be resolved -/

namespace Packet

/-- The first metadata item of a packet whose name the configuration does not know. -/
def unresolved? (conf : Pipeconf) (packet : Packet) : Option String :=
  (packet.metadata.map (·.1)).find? fun name => (conf.metadataId? name).isNone

/-- The error with which a packet is refused outside an open session of the device. -/
def refusal (conf : Pipeconf) (device : DeviceId) (packet : Packet) : ClientError :=
  ((packet.unresolved? conf).map (.unknownPacketMetadata conf.id)).getD (.sessionNotOpen device)

/-- A packet cannot be encoded exactly for the first name that is not known. -/
theorem encode_cases (conf : Pipeconf) (packet : Packet) :
    (∃ name, packet.unresolved? conf = some name ∧
      packet.encode conf = .error (.unknownPacketMetadata conf.id name)) ∨
    packet.unresolved? conf = none ∧ ∃ wire, packet.encode conf = .ok wire := by
  unfold encode unresolved?
  rw [encodeItems_eq, translate_eq]
  cases (packet.metadata.map (·.1)).find? fun name => (conf.metadataId? name).isNone with
  | none => exact .inr ⟨rfl, _, rfl⟩
  | some name => exact .inl ⟨name, rfl, rfl⟩

end Packet

namespace System

variable {s t u : System} {K : CallId} {stray : ClientId → Token → Prop}

/-! ### Leaving no trace -/

/-- Two systems that differ in nothing that a session, a switch or a pending call knows of: calls have
been counted and have finished, and a mastership may have been sent to its observers again. -/
structure Unmoved (s t : System) : Prop where
  switches : t.switches = s.switches
  streams : t.streams = s.streams
  journal : t.journal = s.journal
  channels : t.channels = s.channels
  registry : t.registry = s.registry
  handles : t.handles = s.handles
  catalog : t.catalog = s.catalog
  now : t.now = s.now
  timers : t.timers = s.timers
  ready : t.ready = s.ready
  profile : ∀ id, (t.client id).profile = (s.client id).profile
  turns : ∀ id, (t.client id).turns = (s.client id).turns
  calls : ∀ id, (t.client id).calls = (s.client id).calls

/-- A handle holds its client. -/
theorem isHeld_of_handle {name : String} {id : ClientId} (h : s.handles.find? name = some id) :
    s.isHeld id = true := by
  have hm := List.contains_iff_mem.mpr (Directory.mem_values_of_find? h)
  rw [isHeld, hm, Bool.true_or, Bool.true_or]

/-- No change moves nothing. -/
theorem Unmoved.refl (s : System) : Unmoved s s :=
  ⟨rfl, rfl, rfl, rfl, rfl, rfl, rfl, rfl, rfl, rfl, fun _ => rfl, fun _ => rfl, fun _ => rfl⟩

/-- Two changes that move nothing move nothing together. -/
theorem Unmoved.trans (h : Unmoved s t) (h' : Unmoved t u) : Unmoved s u where
  switches := h'.switches.trans h.switches
  streams := h'.streams.trans h.streams
  journal := h'.journal.trans h.journal
  channels := h'.channels.trans h.channels
  registry := h'.registry.trans h.registry
  handles := h'.handles.trans h.handles
  catalog := h'.catalog.trans h.catalog
  now := h'.now.trans h.now
  timers := h'.timers.trans h.timers
  ready := h'.ready.trans h.ready
  profile id := (h'.profile id).trans (h.profile id)
  turns id := (h'.turns id).trans (h.turns id)
  calls id := (h'.calls id).trans (h.calls id)

/-- A call that has just been made has moved nothing. -/
theorem unmoved_newCall (s : System) (id : ClientId) : Unmoved s (s.newCall id).1 := by
  have client : ∀ id', ((s.newCall id).1.client id').profile = (s.client id').profile ∧
      ((s.newCall id).1.client id').turns = (s.client id').turns ∧
      ((s.newCall id).1.client id').calls = (s.client id').calls := by
    intro id'
    rw [client_newCall]
    split
    · next he => exact he ▸ ⟨rfl, rfl, rfl⟩
    · exact ⟨rfl, rfl, rfl⟩
  exact ⟨rfl, rfl, rfl, rfl, rfl, rfl, rfl, rfl, rfl, rfl, fun id' => (client id').1,
    fun id' => (client id').2.1, fun id' => (client id').2.2⟩

/-- A call that waits nowhere ends without a trace. -/
theorem unmoved_withdraw (hturns : K.serial ∉ (s.client K.client).turns)
    (hcalls : ∀ call ∈ (s.client K.client).calls, call.serial ≠ K.serial)
    (htimers : ∀ t ∈ s.timers, t.call ≠ K) : Unmoved s (s.withdraw K) := by
  have client : ∀ id, (s.withdraw K).client id = s.client id := by
    intro id
    rw [client_withdraw]
    split
    · next he =>
      rw [List.erase_of_not_mem hturns, List.filter_eq_self.mpr fun call hm =>
        decide_eq_true (hcalls call hm), ← he]
    · rfl
  have hfilter : (s.timers.filter fun t => decide (t.call ≠ K)) = s.timers :=
    List.filter_eq_self.mpr fun t hm => decide_eq_true (htimers t hm)
  have hw := withdraw_eq s K
  rw [ready_leaveLine_of_not_mem hturns, hfilter] at hw
  exact ⟨by rw [hw], by rw [hw], by rw [hw], by rw [hw], by rw [hw], by rw [hw], by rw [hw],
    by rw [hw], by rw [hw], by rw [hw], fun id => by rw [client], fun id => by rw [client],
    fun id => by rw [client]⟩

/-- A new call waits nowhere, so nothing is left of it when it ends. -/
theorem unmoved_departs (ha : s.Attended none stray) {id : ClientId}
    (hturns : (t.client id).turns = (s.client id).turns)
    (hcalls : (t.client id).calls = (s.client id).calls) (htimers : t.timers = s.timers)
    (f : Finished) : Unmoved t ((t.record f).withdraw ⟨id, (s.client id).made⟩) := by
  have hr : Unmoved t (t.record f) :=
    ⟨rfl, rfl, rfl, rfl, rfl, rfl, rfl, rfl, rfl, rfl, fun _ => rfl, fun _ => rfl, fun _ => rfl⟩
  refine hr.trans (unmoved_withdraw ?_ (fun call hm => ?_) fun timer hm he => ?_)
  · show (s.client id).made ∉ (t.client id).turns
    rw [hturns]
    exact fun hm => Nat.lt_irrefl _ (ha.lt_made hm)
  · rw [show ((t.record f).client id).calls = _ from hcalls] at hm
    exact Nat.ne_of_lt (ha.made id call hm)
  · have hlt := ha.timers timer (htimers ▸ hm)
    rw [he] at hlt
    exact Nat.lt_irrefl _ hlt

/-- Nor does its end concern the session, since the client is in a user's hands. -/
theorem unmoved_completes (ha : s.Attended none stray) {id : ClientId}
    (hturns : (t.client id).turns = (s.client id).turns)
    (hcalls : (t.client id).calls = (s.client id).calls) (htimers : t.timers = s.timers)
    {name : String} (hh : t.handles.find? name = some id) (result : CallResult)
    (left : Option ReadCursor) :
    Unmoved t ((t.record ⟨⟨id, (s.client id).made⟩, result, left⟩).retire ⟨id, (s.client id).made⟩
      .request) := by
  have hw := unmoved_departs ha hturns hcalls htimers ⟨⟨id, (s.client id).made⟩, result, left⟩
  have hheld : ((t.record ⟨⟨id, (s.client id).made⟩, result, left⟩).withdraw
      ⟨id, (s.client id).made⟩).isHeld id = true :=
    isHeld_of_handle (by rw [hw.handles]; exact hh)
  -- a client that is still held is not closed when one of its calls ends
  rw [retire_eq]
  dsimp only
  rw [release, if_pos hheld]
  exact hw

/-- The new call has ended as told, and has left no other trace. -/
def EndsWith (s : System) (id : ClientId) (result : CallResult) (left : Option ReadCursor)
    (t : System) : Prop :=
  t.finished = s.finished ++ [⟨⟨id, (s.client id).made⟩, result, left⟩] ∧ Unmoved s t

/-- A new call that ends at once leaves no trace but its result. -/
theorem unmoved_ends (ha : s.Attended none stray) {name : String} {id : ClientId}
    (h : s.handles.find? name = some id) (result : CallResult) (left : Option ReadCursor) :
    s.EndsWith id result left
      (((s.newCall id).1.record ⟨(s.newCall id).2, result, left⟩).retire (s.newCall id).2
        .request) := by
  have hn := unmoved_newCall s id
  have hh : (s.newCall id).1.handles.find? name = some id := by rw [hn.handles, h]
  refine ⟨?_, hn.trans (unmoved_completes ha (hn.turns id) (hn.calls id) hn.timers hh result left)⟩
  rw [retire_eq]
  dsimp only
  rw [(heeds_release _).finished, finished_withdraw]
  rfl

/-! ### A name that is not known -/

/-- A read whose request is wrong fails at once. -/
theorem submitRead_of_error {request : ReadRequest} {error : ClientError}
    (h : request.error = some error) (goOn : System → Token → ReadStream → System) :
    s.submitRead K request goOn = s.complete K (.failed error) := by
  unfold submitRead
  dsimp only
  rw [h]

/-- A write whose request is wrong fails at once. -/
theorem write_of_error {request : WriteRequest} {error : ClientError} (h : request.error = some error)
    (id : ClientId) :
    (s.write id request).1 = (s.newCall id).1.complete (s.newCall id).2 (.failed error) := by
  unfold write
  dsimp only
  rw [h]

/-! ### A session that is not open -/

/-- A call outside an open session is told so. -/
theorem inSession_of_closed (h : (s.client K.client).scope.isOpen = false)
    (goOn : System → Token → System) :
    s.inSession K goOn =
      s.complete K (.failed (.sessionNotOpen (s.client K.client).key.device)) := by
  unfold inSession Scope.openToken?
  rw [h]
  rfl

/-- No frame is queued outside an open session. -/
theorem enqueue_of_closed {id : ClientId} (hv : (s.client id).scope.Valid)
    (h : (s.client id).scope.isOpen = false) (frame : StreamRequest) :
    s.enqueue id frame = .error (.sessionNotOpen (s.client id).key.device) := by
  have hslot : (s.client id).scope.slot = none := by
    rw [← Option.not_isSome_iff_eq_none]
    intro hs
    rw [hv.isOpen_iff.mpr hs] at h
    cases h
  unfold enqueue
  simp only [hslot]

/-- The new call has been refused with the error, and has left no other trace. -/
def Refuses (s : System) (id : ClientId) (error : ClientError) (t : System) : Prop :=
  t.finished = s.finished ++ [⟨⟨id, (s.client id).made⟩, .failed error, none⟩] ∧ Unmoved s t

section

variable {id : ClientId} {name : String} (ha : s.Attended none stray)
  (h : s.handles.find? name = some id)

include ha h

/-- A call that fails at once is refused. -/
theorem refuses_ends (error : ClientError) :
    s.Refuses id error ((s.newCall id).1.complete (s.newCall id).2 (.failed error)) :=
  unmoved_ends ha h _ none

variable (hc : (s.client id).scope.isOpen = false)

include hc

/-- Without a session whatever was to be done in it is refused. -/
theorem refuses_inSession (goOn : System → Token → System) :
    s.Refuses id (.sessionNotOpen (s.client id).key.device)
      ((s.newCall id).1.inSession (s.newCall id).2 goOn) := by
  have hn := unmoved_newCall s id
  have hscope : ((s.newCall id).1.client (s.newCall id).2.client).scope = (s.client id).scope :=
    congrArg Profile.scope (hn.profile id)
  have hkey : ((s.newCall id).1.client (s.newCall id).2.client).key = (s.client id).key :=
    congrArg Profile.key (hn.profile id)
  rw [inSession_of_closed (by rwa [hscope]), hkey]
  exact refuses_ends ha h _

/-- A push is refused, first of all for a program without a description. -/
theorem refuses_setPipelineConfig (conf : Pipeconf) (deviceData : Bytes) :
    s.Refuses id
      (if conf.p4info?.isNone then .invalidPipeconf conf.id "pipeconf carries no P4Info"
        else .sessionNotOpen (s.client id).key.device)
      (s.setPipelineConfig id conf deviceData).1 := by
  unfold setPipelineConfig
  dsimp only
  cases conf.p4info? with
  | none => exact refuses_ends ha h _
  | some p4info => exact refuses_inSession ha h hc _

/-- A comparison of programs is refused. -/
theorem refuses_isPipelineConfigSet (conf : Pipeconf) (deviceData : Bytes) :
    s.Refuses id (.sessionNotOpen (s.client id).key.device)
      (s.isPipelineConfigSet id conf deviceData).1 := by
  unfold isPipelineConfigSet queryPipeline
  exact refuses_inSession ha h hc _

/-- A read is refused, first of all for what is wrong with its request. -/
theorem refuses_submitRead (request : ReadRequest)
    (goOn : System → Token → ReadStream → System) :
    s.Refuses id (request.error.getD (.sessionNotOpen (s.client id).key.device))
      ((s.newCall id).1.submitRead (s.newCall id).2 request goOn) := by
  cases he : request.error with
  | some error =>
    rw [submitRead_of_error he]
    exact refuses_ends ha h _
  | none =>
    unfold submitRead
    dsimp only
    rw [he]
    exact refuses_inSession ha h hc _

/-- A write is refused, first of all for what is wrong with its request. -/
theorem refuses_write (request : WriteRequest) :
    s.Refuses id (request.error.getD (.sessionNotOpen (s.client id).key.device))
      (s.write id request).1 := by
  cases he : request.error with
  | some error =>
    rw [write_of_error he]
    exact refuses_ends ha h _
  | none =>
    unfold write
    dsimp only
    rw [he]
    exact refuses_inSession ha h hc _

end

/-- A claim that is taken back leaves no trace. -/
theorem unmoved_takenBack (s : System) (id : ClientId) (election : ElectionId) :
    Unmoved s ((s.updateClient id fun c => { c with arbiter := c.arbiter.claim election }).updateClient
      id fun c => { c with arbiter := c.arbiter.restore (s.client id).arbiter }) := by
  rw [updateClient_updateClient]
  refine ⟨rfl, rfl, rfl, rfl, rfl, rfl, rfl, rfl, rfl, rfl, fun id' => ?_, fun id' => ?_,
    fun id' => ?_⟩
  -- the arbiter has been put back, and with it the profile; turns and calls have not been touched
  all_goals
    rw [client_updateClient]
    split
    · next hid => exact hid ▸ rfl
    · rfl

/-- A claim outside an open session is refused, and is taken back. -/
theorem runForMastership_of_closed {id : ClientId} (hv : (s.client id).scope.Valid)
    (hc : (s.client id).scope.isOpen = false) (election : ElectionId) :
    (s.runForMastership id election).2 = some (.sessionNotOpen (s.client id).key.device) ∧
      (s.runForMastership id election).1.finished = s.finished ∧
      Unmoved s (s.runForMastership id election).1 := by
  have hscope : ((s.updateClient id fun c => { c with arbiter := c.arbiter.claim election }).client
      id).scope = (s.client id).scope := by
    rw [client_updateClient_self]
  have hkey : ((s.updateClient id fun c => { c with arbiter := c.arbiter.claim election }).client
      id).key = (s.client id).key := by
    rw [client_updateClient_self]
  have he : s.runForMastership id election =
      ((s.updateClient id fun c => { c with arbiter := c.arbiter.claim election }).updateClient id
        fun c => { c with arbiter := c.arbiter.restore (s.client id).arbiter },
       some (.sessionNotOpen (s.client id).key.device)) := by
    unfold runForMastership
    dsimp only
    rw [enqueue_of_closed (by rw [hscope]; exact hv) (by rw [hscope]; exact hc), hkey]
  rw [he]
  exact ⟨rfl, rfl, unmoved_takenBack s id election⟩

/-- A packet outside an open session is refused, if its metadata can be resolved. -/
theorem packetOut_of_closed {id : ClientId} (hv : (s.client id).scope.Valid)
    (hc : (s.client id).scope.isOpen = false) (conf : Pipeconf) (packet : Packet) :
    s.packetOut id conf packet = (s, some (packet.refusal conf (s.client id).key.device)) := by
  unfold packetOut Packet.refusal
  rcases packet.encode_cases conf with ⟨name, hn, he⟩ | ⟨hn, wire, he⟩
  · simp only [he, hn]
    rfl
  · simp only [he, hn, enqueue_of_closed hv hc]
    rfl

end System

namespace Scenario

/-! ### Refused requests and actions -/

/-- The client and the configuration of a request that runs in the open session. -/
def Request.inSession? : Request → Option (String × PipeconfId)
  | .setPipeline client conf _ => some (client, conf)
  | .isPipelineSet client conf _ => some (client, conf)
  | .read client conf _ => some (client, conf)
  | .openRead client conf _ => some (client, conf)
  | .write client conf _ _ => some (client, conf)
  | _ => none

/-- The error with which a request is refused outside an open session of the device. -/
def Request.refusal (conf : Pipeconf) (device : DeviceId) : Request → ClientError
  | .setPipeline _ _ _ =>
    if conf.p4info?.isNone then .invalidPipeconf conf.id "pipeconf carries no P4Info"
    else .sessionNotOpen device
  | .read _ _ query | .openRead _ _ query =>
    ((conf.unresolved? (query.filterMap (·.table?))).map (.unknownTable conf.id)).getD
      (.sessionNotOpen device)
  | .write _ _ updates _ =>
    ((conf.unresolved? (updates.filterMap (·.table?))).map (.unknownTable conf.id)).getD
      (.sessionNotOpen device)
  | _ => .sessionNotOpen device

variable {x : Scenario} {stray : ClientId → Token → Prop}

/-- Every request that needs a session is refused without one, with the error that comes first. -/
theorem refuses_start (ha : x.system.Attended none stray) {client : String} {id : ClientId}
    (h : x.system.handles.find? client = some id)
    (hc : (x.system.client id).scope.isOpen = false) (name : String) {request : Request}
    {confId : PipeconfId} {conf : Pipeconf} (hr : request.inSession? = some (client, confId))
    (hf : x.system.catalog.pipeconf? confId = some conf) :
    x.system.Refuses id (request.refusal conf (x.system.client id).key.device)
      (x.start name request).1.system := by
  cases request with
  | setPipeline _ _ data =>
    cases hr
    simp only [start, onClient, onPipeconf, h, hf]
    exact System.refuses_setPipelineConfig ha h hc conf data
  | isPipelineSet _ _ data =>
    cases hr
    simp only [start, onClient, onPipeconf, h, hf]
    exact System.refuses_isPipelineConfigSet ha h hc conf data
  | read _ _ query | openRead _ _ query =>
    cases hr
    simp only [start, onClient, onPipeconf, h, hf]
    have hs := System.refuses_submitRead ha h hc
      (query.foldl QueryItem.addTo { pipeconf := conf })
    -- what is wrong with the request is the first table that is not known
    rw [ReadRequest.error_foldl] at hs
    exact hs _
  | write _ _ updates atomicity =>
    cases hr
    simp only [start, onClient, onPipeconf, h, hf]
    have hs := System.refuses_write ha h hc (writeOf conf updates atomicity)
    rw [error_writeOf] at hs
    exact hs
  | _ => cases hr

/-- After every run, while the session of a client is not open, be it that none has been opened, that it
has ended or that its stream is being set up, every write, read, push or check of a program is refused
at once, and so is every claim and every packet.  The error says that no session is open, or which
name could not be resolved.  Nothing changes but the count of the calls and of what has been sent to
observers of the mastership. -/
theorem refused_unless_open (devices : List String) (confs : List Pipeconf)
    (bindings : List (String × PipeconfId)) (config : ConfigChange) (capacity : Nat)
    (ms : List Move) (client : String) (id : ClientId)
    (hh : ((initial devices confs bindings config capacity).after ms).system.handles.find? client =
      some id)
    (hc : (((initial devices confs bindings config capacity).after ms).system.client id).scope.isOpen =
      false) :
    let x := (initial devices confs bindings config capacity).after ms
    let device := (x.system.client id).key.device
    (∀ name request confId conf, Request.inSession? request = some (client, confId) →
      x.system.catalog.pipeconf? confId = some conf →
        x.system.Refuses id (request.refusal conf device) (x.start name request).1.system) ∧
    (∀ election, (x.act (.run client election)).2 = .error (.sessionNotOpen device) ∧
      (x.act (.run client election)).1.system.finished = x.system.finished ∧
      x.system.Unmoved (x.act (.run client election)).1.system) ∧
    ∀ confId conf packet, x.system.catalog.pipeconf? confId = some conf →
      x.act (.packetOut client confId packet) = (x, .error (packet.refusal conf device)) := by
  intro x device
  have hv : x.Valid := (valid_initial devices confs bindings config capacity).after ms
  have ha : x.system.Attended none _ := attended_after devices confs bindings config capacity ms
  have hs := hv.system.scopes id
  refine ⟨fun name request confId conf hr hf => refuses_start ha hh hc name hr hf, fun election => ?_,
    fun confId conf packet hf => ?_⟩
  -- a claim is refused before it is remembered
  · obtain ⟨hreply, hfinished, hmoved⟩ := System.runForMastership_of_closed hs hc election
    have he : x.act (.run client election) =
        x.sent (x.system.runForMastership id election) := by
      simp only [act, onClient, x, hh]
    rw [he]
    refine ⟨?_, hfinished, hmoved⟩
    unfold sent
    rw [hreply]
  · have he : x.act (.packetOut client confId packet) =
        x.sent (x.system.packetOut id conf packet) := by
      simp only [act, onClient, onPipeconf, x, hh, hf]
    rw [he, System.packetOut_of_closed hs hc]
    rfl

/-- A client has begun a scope for its session, and waits for the stream. -/
def halfOpen : List Move :=
  [.act (.new ⟨⟨"leaf"⟩, 1⟩ "c" none), .act (.steer "leaf" (.queueFault .streamChannel .stall)),
   .start "t0" (.openSession "c")]

/-- A half-open session refuses a read from an unknown table, a write and a claim. -/
theorem refused_unless_open_half :
    let x := (initial ["leaf"] [{ id := ⟨"basic"⟩, fingerprint := 1 }] [] {} 16).after halfOpen
    (x.system.client ⟨⟨"leaf"⟩, 0⟩).scope.current = some 0 ∧
      x.system.Refuses ⟨⟨"leaf"⟩, 0⟩ (.unknownTable ⟨"basic"⟩ "acl")
        (x.start "t1" (.read "c" ⟨"basic"⟩ [.all .meterEntry, .table "acl"])).1.system ∧
      x.system.Refuses ⟨⟨"leaf"⟩, 0⟩ (.sessionNotOpen ⟨"leaf"⟩)
        (x.start "t1" (.write "c" ⟨"basic"⟩ [] none)).1.system ∧
      (x.act (.run "c" ⟨0, 5⟩)).2 = .error (.sessionNotOpen ⟨"leaf"⟩) := by
  intro x
  have hh : x.system.handles.find? "c" = some ⟨⟨"leaf"⟩, 0⟩ := by decide
  have hc : (x.system.client ⟨⟨"leaf"⟩, 0⟩).scope.isOpen = false := by decide
  obtain ⟨hstart, hrun, -⟩ := refused_unless_open ["leaf"]
    [{ id := ⟨"basic"⟩, fingerprint := 1 }] [] {} 16 halfOpen "c" _ hh hc
  have hf : x.system.catalog.pipeconf? ⟨"basic"⟩ = some { id := ⟨"basic"⟩, fingerprint := 1 } := by
    decide
  exact ⟨by decide,
    hstart "t1" (.read "c" ⟨"basic"⟩ [.all .meterEntry, .table "acl"]) _ _ rfl hf,
    hstart "t1" (.write "c" ⟨"basic"⟩ [] none) _ _ rfl hf, (hrun _).1⟩

end Scenario

end P4Control
