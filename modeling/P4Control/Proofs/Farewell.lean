import P4Control.Proofs.Departures
import P4Control.Proofs.Draining
import P4Control.Proofs.Intake
import P4Control.Proofs.Snapshot

namespace P4Control

/-!
# After the last holder

A client that nobody holds has no session, and never gets one.  What its last session has left behind ends
by itself: the inbound loop as soon as it runs, the stream when the agent has taken what waits on it, and
the read streams when somebody takes from them.

* `Scenario.Gone` — a client that nobody holds, and without a scope, in every run.
* `Scenario.Watched` — what every run keeps; where it is at rest, the loops of ended sessions have ended.
* `Scenario.Farewell` — what comes after a client has lost its last holder.
* `last_holder_closes` — the holders of a client, in every run.
-/

namespace Scenario

variable {x y : Scenario} {m : Move} {id : ClientId} {token : Token} {st : StreamId} {u : System}

/-! ### A client that is gone -/

/-- Nobody holds the client any more, and it has no scope. -/
structure Gone (x : Scenario) (id : ClientId) : Prop where
  known : x.system.Knows id
  unheld : x.system.isHeld id = false
  vacant : (x.system.client id).scope.current = none

namespace Gone

theorem scope_make (h : x.Gone id) (hc : x.Custody) (m : Move) :
    ((x.make m).system.client id).scope = (x.system.client id).scope :=
  vacant_make hc.orderly.valid (opener?_of_unheld hc h.unheld m) h.vacant

theorem make (h : x.Gone id) (hc : x.Custody) (m : Move) : (x.make m).Gone id where
  known := (key_make hc.orderly.valid h.known m).1
  unheld := unheld_make hc h.known h.unheld m
  vacant := by
    rw [h.scope_make hc]
    exact h.vacant

theorem after (h : x.Gone id) (hc : x.Custody) (ms : List Move) : (x.after ms).Gone id := by
  induction ms generalizing x with
  | nil => exact h
  | cons m rest ih => exact ih (h.make hc m) (hc.make m)

theorem courseOf (h : x.Gone id) (hc : x.Custody) (m : Move) : ∀ p ∈ x.courseOf m, p.1 ≠ id := by
  intro p hp he
  obtain ⟨id', -, hp⟩ := List.mem_flatMap.mp hp
  obtain ⟨passage, hpassage, rfl⟩ := List.mem_map.mp hp
  obtain rfl : id' = id := he
  have hscope := h.scope_make hc m
  rw [passages, passagesBetween_of_same (congrArg Scope.begun hscope) (congrArg Scope.cancelled hscope)]
    at hpassage
  cases hpassage

/-- Nothing happens to its sessions any more. -/
theorem course (h : x.Gone id) (hc : x.Custody) (ms : List Move) : ∀ p ∈ x.course ms, p.1 ≠ id := by
  induction ms generalizing x with
  | nil => intro p hp; cases hp
  | cons m rest ih =>
    intro p hp
    rcases List.mem_append.mp hp with hp | hp
    · exact h.courseOf hc m p hp
    · exact ih (h.make hc m) (hc.make m) p hp

theorem closed (h : x.Gone id) (hv : x.Valid) :
    (status x.system id).connection = .closed ∧ (status x.system id).mastership = .notMaster := by
  have hopen := (hv.system.scopes id).isOpen_eq_false ((hv.system.scopes id).slot_eq_none h.vacant)
  refine ⟨?_, (hv.system.mastership id).resolve_right (by rw [hopen]; simp)⟩
  show (x.system.client id).scope.connection.value = .closed
  unfold Scope.isOpen at hopen
  cases hconn : (x.system.client id).scope.connection.value with
  | closed => rfl
  | «open» =>
    rw [hconn] at hopen
    cases hopen

/-- Every scope that it has had is cancelled. -/
theorem isCancelled (h : x.Gone id) (hv : x.Valid) (ht : token < (x.system.client id).scope.begun) :
    (x.system.client id).scope.isCancelled token = true := by
  cases hcancelled : (x.system.client id).scope.isCancelled token with
  | true => rfl
  | false =>
    have hcurrent := (hv.system.scopes id).current_eq_some ht hcancelled
    rw [h.vacant] at hcurrent
    cases hcurrent

/-- A read stream that has not reported its end belongs to a scope that has ended. -/
theorem hasEnded {r : ReadCursor} (h : x.Gone r.client) (hv : x.Valid) (hr : r ∈ x.reads.values)
    (hp : r.stream.phase = .running) : x.HasEnded r :=
  h.isCancelled hv ((hv.reads r hr).2 hp).1

section

variable {stream : String} {r : ReadCursor} (h : x.Gone r.client) (ho : x.Orderly)
  (hr : x.reads.find? stream = some r) (hp : r.stream.phase = .running)

include h ho hr hp

/-- Whoever takes from it gets an answer at once. -/
theorem take_returns_at_once (name : String) :
    ∃ result next, (x.make (.start name (.readNext stream))).system.finished =
      x.system.finished ++ [⟨(x.system.newCall r.client).2, result, some next⟩] := by
  have he := h.hasEnded ho.valid (Directory.mem_values_of_find? hr) hp
  generalize hstep : r.stream.next true = taken
  obtain ⟨step, rest⟩ := taken
  obtain ⟨result, hresult⟩ := ReadStream.next_ended (x.system.readCancelled r.client) r.stream
  rw [hstep] at hresult
  rw [system_readNext hr]
  exact ⟨result, _, System.readNext_returns (by rw [he]; exact hstep) hresult⟩

/-- There is no more in it than the rest of the chunk that has been fetched. -/
theorem draws_rest {results : List CallResult} {left : ReadCursor} (hd : Draws x r results y left) :
    results = (served r.stream.fetched ++ x.system.readCancelled r.client ::
      endings results.length).take results.length := by
  have he := h.hasEnded ho.valid (Directory.mem_values_of_find? hr) hp
  have hlate := draws_late hd ho h.known rfl he
  rw [ReadStream.drain_running hp] at hlate
  exact hlate

end

/-- Whoever waits for a chunk is told that the session has ended. -/
theorem chunk_fails {K : CallId} (h : x.Gone K.client) (ho : x.Orderly)
    (hw : x.system.WaitsFor K (.chunk token)) :
    x.system.Fails K (.cancelled (x.system.client K.client).key.device Operation.read.text)
      x.system.settle := by
  refine chunk_cancelled ho rfl ?_ hw
  obtain ⟨call, hm, -, hwait⟩ := hw
  exact h.isCancelled ho.valid (ho.valid.system.waits K.client call hm token (by rw [hwait]; rfl))

end Gone

/-! ### Loops that end -/

/-- An inbound loop reads its stream, or has ended and left it to nobody. -/
theorem heard_make (hv : x.Valid) (ht : x.Tuned) {l : ClientId × Token}
    (hset : st.serial < (x.system.switch st.switch).streamCount)
    (h : (x.system.stream st).listener = some l ∨ (x.system.stream st).Deaf) (m : Move) :
    st.serial < ((x.make m).system.switch st.switch).streamCount ∧
      (((x.make m).system.stream st).listener = some l ∨ ((x.make m).system.stream st).Deaf) := by
  cases hh : x.hearing? m with
  | some a =>
    have htakes := takes_make hv hh
    rw [htakes.switch_eq, htakes.listener_eq]
    exact ⟨hset, h.imp_right fun hd => htakes.deaf hd⟩
  | none =>
    have hfeeds := feeds_make hv ht hh
    have hfares := hfeeds.fares st hset
    refine ⟨Nat.lt_of_lt_of_le hset (hfeeds.count _), ?_⟩
    rcases h with hl | hd
    · cases hl' : ((x.make m).system.stream st).listener with
      | none => exact .inr (hfares.leaves (by rw [hl]; rfl) hl')
      | some l' =>
        have he := (hfares.hears l' hl').1
        rw [hl] at he
        exact .inl he.symm
    · exact .inr (hfares.deaf hd)

theorem heard_after (hv : x.Valid) (ht : x.Tuned) {l : ClientId × Token}
    (hset : st.serial < (x.system.switch st.switch).streamCount)
    (h : (x.system.stream st).listener = some l ∨ (x.system.stream st).Deaf) (ms : List Move) :
    ((x.after ms).system.stream st).listener = some l ∨ ((x.after ms).system.stream st).Deaf := by
  induction ms generalizing x with
  | nil => exact h
  | cons m rest ih =>
    obtain ⟨hset', h'⟩ := heard_make hv ht hset h m
    exact ih (hv.make m) (ht.make hv m) hset' h'

/-- What every run keeps of the holders, the loops and the uplinks. -/
structure Watched (x : Scenario) : Prop where
  custody : x.Custody
  tuned : x.Tuned
  heedful : ∃ hs got, x.Keeps hs got
  plumbed : x.system.Plumbed True
  held : ∀ id, x.system.Sealed id
  chronicled : ∃ past, x.Chronicled past

namespace Watched

theorem valid (h : x.Watched) : x.Valid := h.custody.orderly.valid

theorem make (h : x.Watched) (m : Move) : (x.make m).Watched where
  custody := h.custody.make m
  tuned := h.tuned.make h.valid m
  heedful := by
    obtain ⟨hs, got, hk⟩ := h.heedful
    exact ⟨_, _, hk.make h.valid h.tuned m⟩
  plumbed := plumbed_make h.valid h.tuned h.plumbed m fun _ => trivial
  held := sealed_make h.custody h.tuned h.held m
  chronicled := by
    obtain ⟨past, hp⟩ := h.chronicled
    exact ⟨_, (hp.make h.valid m).1⟩

theorem after (h : x.Watched) (ms : List Move) : (x.after ms).Watched := by
  induction ms generalizing x with
  | nil => exact h
  | cons m rest ih => exact ih (h.make m)

/-- Where nothing runs, no loop of a client that is gone reads a stream. -/
theorem listener_ne (h : x.Watched) (hg : x.Gone id) (hr : x.system.ready = []) (st : StreamId)
    (token : Token) : (x.system.stream st).listener ≠ some (id, token) := by
  intro hl
  obtain ⟨hs, got, hk⟩ := h.heedful
  have hbegun := (h.valid.system.listeners st id token hl).2.1
  have hready := hk.heedful st ⟨id, token, hl, .inl (hg.isCancelled h.valid hbegun)⟩
  rw [hr] at hready
  cases hready

/-- Where nothing runs, the agent is done with a stream that has lost its sender. -/
theorem not_served (h : x.Watched) (hr : x.system.ready = [])
    (hs : (x.system.stream st).uplink.hasSender = false) : (x.system.stream st).served = false := by
  refine Bool.eq_false_iff.mpr fun hserved => ?_
  have hready := h.plumbed.tended st ⟨hserved, .inr hs⟩
  rw [hr] at hready
  cases hready

end Watched

theorem watched_initial (devices : List String) (confs : List Pipeconf)
    (bindings : List (String × PipeconfId)) (config : ConfigChange) (capacity : Nat) :
    (initial devices confs bindings config capacity).Watched where
  custody := custody_after devices confs bindings config capacity []
  tuned := tuned_initial devices confs bindings config capacity
  heedful := ⟨_, _, keeps_initial devices confs bindings config capacity⟩
  plumbed := plumbed_initial devices confs bindings config capacity True
  held _ := .inr rfl
  chronicled := ⟨[], fun _ hk => (by cases hk), fun _ => tells_default⟩

/-! ### What the last session leaves behind -/

/-- What comes after a client has lost its last holder.  Nobody held it any more in `u`, and in `y` its
session has been closed. -/
structure Farewell (y : Scenario) (id : ClientId) (u : System) : Prop where
  /-- Tasks run until nothing does. -/
  rests : y.withSystem y.system.settle = y.after (List.replicate y.system.enough .poll) ∧
    y.system.settle.ready = []
  /-- The client stays closed, and the events tell of others. -/
  gone : ∀ ns, (y.after ns).Gone id ∧ (status (y.after ns).system id).connection = .closed ∧
    (status (y.after ns).system id).mastership = .notMaster ∧
    (∃ past, (y.after ns).system.lifecycle = y.system.lifecycle ++ eventsFrom past (y.course ns)) ∧
    ∀ p ∈ y.course ns, p.1 ≠ id
  /-- The inbound loop ends. -/
  loops : ∀ ns, (y.after ns).system.ready = [] →
    ∀ st token, ((y.after ns).system.stream st).listener ≠ some (id, token)
  /-- The stream of the session is released. -/
  released : ∀ ns, (y.after ns).system.ready = [] → ∀ st, (u.client id).scope.slot = some st →
    ((y.after ns).system.stream st).Deaf ∧
      (((y.after ns).system.switch st.switch).attached = some st.serial →
        (y.after ns).system.isAttached st.switch = false)
  /-- The agent takes all that waits on the stream, and is done with it. -/
  delivered : ∀ n, (y.after (List.replicate n .poll)).system.ready = [] →
    ∃ log, System.Ebbs y.system log (y.after (List.replicate n .poll)).system ∧
      ∀ st, (u.client id).scope.slot = some st →
        ((y.after (List.replicate n .poll)).system.stream st).served = false ∧
        ((u.stream st).served = true → takenFrom st log = (u.stream st).uplink.frames ∧
          (u.stream st).uplink.frames.Sublist (takenBy st.switch log))
  /-- Whoever takes from a read stream gets an answer at once; there is no more in a stream than the rest
  of the chunk that has been fetched. -/
  reads : ∀ ns stream r, (y.after ns).reads.find? stream = some r → r.client = id →
    r.stream.phase = .running →
      (∀ name, ∃ result next, ((y.after ns).make (.start name (.readNext stream))).system.finished =
        (y.after ns).system.finished ++ [⟨((y.after ns).system.newCall id).2, result, some next⟩]) ∧
      ∀ results z left, (y.after ns).Draws r results z left →
        results = (served r.stream.fetched ++ u.readCancelled id :: endings results.length).take
          results.length
  /-- Whoever waits for a chunk is told that the session has ended. -/
  pending : ∀ ns K token, K.client = id → (y.after ns).system.WaitsFor K (.chunk token) →
    (y.after ns).system.Fails K (.cancelled (u.client id).key.device Operation.read.text)
      (y.after ns).system.settle

namespace Departure

variable (h : x.Departure m id u)

include h

theorem gone (hw : x.Watched) (hx : x.system.isHeld id = true)
    (hy : (x.make m).system.isHeld id = false) : (x.make m).Gone id where
  known := (key_make hw.valid (hw.valid.system.knows_of_held hx) m).1
  unheld := hy
  vacant := by
    rw [show ((x.make m).system.client id).scope = (u.client id).scope.close.2 from
      congrArg Standing.scope h.shuts.standing]
    exact Scope.current_close _

/-- The stream of the session has lost its sender, and the inbound loop still has to end. -/
theorem session (hw : x.Watched) (hs : (u.client id).scope.slot = some st) :
    (x.make m).system.stream st = { u.stream st with uplink := (u.stream st).uplink.dropSender } ∧
      st.serial < ((x.make m).system.switch st.switch).streamCount ∧
      ∃ token, ((x.make m).system.stream st).listener = some (id, token) := by
  have hst := h.shuts.stream st
  rw [if_pos hs] at hst
  obtain ⟨token, hl⟩ := h.heard st hs
  have hl' : ((x.make m).system.stream st).listener = some (id, token) := by
    rw [hst]
    exact hl
  refine ⟨hst, Nat.lt_of_not_le fun hle => ?_, token, hl'⟩
  rw [(hw.make m).tuned.looped.fresh st hle] at hl'
  cases hl'

/-- The loop ends, and nobody reads the stream any more. -/
theorem stream_deaf (hw : x.Watched) (hg : (x.make m).Gone id) (hs : (u.client id).scope.slot = some st)
    {ns : List Move} (hr : ((x.make m).after ns).system.ready = []) :
    (((x.make m).after ns).system.stream st).Deaf := by
  have hwy := hw.make m
  obtain ⟨-, hset, token, hl⟩ := h.session hw hs
  exact (heard_after hwy.valid hwy.tuned hset (.inl hl) ns).resolve_left
    ((hwy.after ns).listener_ne (hg.after hwy.custody ns) hr st token)

/-- The agent takes what waits on the stream before it lets go of it. -/
theorem stream_drained (hw : x.Watched) (hs : (u.client id).scope.slot = some st) {ns : List Move}
    (hr : ((x.make m).after ns).system.ready = []) {log : List (StreamId × StreamRequest)}
    (he : System.Ebbs (x.make m).system log ((x.make m).after ns).system) :
    (((x.make m).after ns).system.stream st).served = false ∧
      ((u.stream st).served = true → takenFrom st log = (u.stream st).uplink.frames ∧
        (u.stream st).uplink.frames.Sublist (takenBy st.switch log)) := by
  obtain ⟨hst, hset, -⟩ := h.session hw hs
  have hunsent := he.unsent st hset (by rw [hst]; rfl)
  have hdone := ((hw.make m).after ns).not_served hr hunsent
  refine ⟨hdone, fun hserved => ?_⟩
  have hframes := he.frames st hset
  rcases he.served st hset (by rw [hst]; exact hserved) with hs | hf
  · rw [hdone] at hs
    cases hs
  · rw [hf, List.append_nil, hst] at hframes
    refine ⟨hframes.symm, ?_⟩
    rw [show (u.stream st).uplink.frames = takenFrom st log from hframes]
    exact takenFrom_sublist st log

/-- In whatever way the last holder has gone, the rest follows. -/
theorem farewell (hw : x.Watched) (hx : x.system.isHeld id = true)
    (hy : (x.make m).system.isHeld id = false) : (x.make m).Farewell id u := by
  have hwy := hw.make m
  have hgone := h.gone hw hx hy
  -- Once gone, the client stays gone: what holds now holds after every list of moves.
  have hstays : ∀ ns, ((x.make m).after ns).Gone id := hgone.after hwy.custody
  have hcancelled : ∀ ns, ((x.make m).after ns).system.readCancelled id = u.readCancelled id := by
    intro ns
    rw [readCancelled_after hwy.custody.orderly hgone.known ns]
    unfold System.readCancelled
    rw [show ((x.make m).system.client id).key = (u.client id).key from
      congrArg Standing.key h.shuts.standing]
  refine ⟨⟨pollFor_eq_polls _ _, System.settle_ready _⟩, fun ns => ?_,
    fun ns hr => (hwy.after ns).listener_ne (hstays ns) hr, fun ns hr st hslot => ?_,
    fun n hr => ?_, fun ns stream r hfind hclient hphase => ?_, fun ns K token hclient hwaits => ?_⟩
  · obtain ⟨past, hp⟩ := hwy.chronicled
    obtain ⟨hclosed, hmaster⟩ := (hstays ns).closed (hwy.after ns).valid
    exact ⟨hstays ns, hclosed, hmaster, ⟨past, (hp.after hwy.valid ns).2⟩,
      hgone.course hwy.custody ns⟩
  · have hd := h.stream_deaf hw hgone hslot hr
    refine ⟨hd, fun ha => ?_⟩
    unfold System.isAttached
    rw [ha]
    exact hd.hasReceiver
  · obtain ⟨log, he⟩ := ebbs_polls hwy.valid n
    exact ⟨log, he, fun st hslot => h.stream_drained hw hslot hr he⟩
  · subst hclient
    have ho := (hwy.after ns).custody.orderly
    refine ⟨(hstays ns).take_returns_at_once ho hfind hphase, fun results z left hdraws => ?_⟩
    rw [← hcancelled ns]
    exact (hstays ns).draws_rest ho hfind hphase hdraws
  · subst hclient
    have hfails := (hstays ns).chunk_fails (hwy.after ns).custody.orderly hwaits
    rwa [CallResult.failed.inj (hcancelled ns)] at hfails

end Departure

/-! ### The holders of a client -/

/-- A handle is dropped while its client has another holder. -/
theorem act_drop_of_held {name : String} (h : x.system.handles.find? name = some id)
    (hh : ({ x.system with handles := x.system.handles.erase name } : System).isHeld id = true) :
    x.act (.drop name) =
      (x.withSystem { x.system with handles := x.system.handles.erase name }, .flag true) := by
  unfold act
  dsimp only
  rw [(System.dropHandle_parts h).1, System.release, if_pos hh]

/-- A handle is replaced while its client has another holder. -/
theorem make_of_grants_held {action : Action} {s : System} {name : String} {new : ClientId}
    (hg : x.grants? action = some (s, name, new)) (h : s.handles.find? name = some id)
    (hh : ({ s with handles := s.handles.insert name new } : System).isHeld id = true) :
    x.make (.act action) = x.withSystem { s with handles := s.handles.insert name new } := by
  rw [act_of_grants hg]
  unfold System.setHandle
  rw [h]
  dsimp only
  rw [System.release, if_pos hh]

/-- After every run, a client in a session has a holder.  A handle that is dropped or replaced while its
client has another holder is taken from its user, and nothing else changes.  A session is closed in a move
only by someone who closes it, or where its client has no holder any more.  Where the last holder of a
client goes, the session is closed, and what it leaves behind ends. -/
theorem last_holder_closes (devices : List String) (confs : List Pipeconf)
    (bindings : List (String × PipeconfId)) (config : ConfigChange) (capacity : Nat)
    (ms : List Move) :
    let x := (initial devices confs bindings config capacity).after ms
    (∀ id, (x.system.client id).scope.current ≠ none → x.system.isHeld id = true) ∧
    -- one holder among several
    (∀ name id, x.system.handles.find? name = some id →
      let t : System := { x.system with handles := x.system.handles.erase name }
      t.isHeld id = true → x.act (.drop name) = (x.withSystem t, .flag true)) ∧
    (∀ action s name id old, x.grants? action = some (s, name, id) →
      x.system.handles.find? name = some old →
        let t : System := { s with handles := x.system.handles.insert name id }
        t.isHeld old = true → Provides x.system s id ∧ x.make (.act action) = x.withSystem t) ∧
    -- only the last one
    (∀ m id, .ended .closed ∈ x.passages id m →
      x.closesBy id m = true ∨ (x.make m).system.isHeld id = false) ∧
    -- the last one
    ∀ m id, x.system.isHeld id = true → (x.make m).system.isHeld id = false →
      ∃ u, x.Departure m id u ∧ (x.make m).Farewell id u := by
  intro x
  have hw : x.Watched := (watched_initial devices confs bindings config capacity).after ms
  refine ⟨fun id hcurrent => (hw.held id).resolve_right hcurrent,
    fun name id hn => act_drop_of_held hn, ?_,
    fun m id h => (ending_of_passages hw.valid h).1 rfl, fun m id hx hy => ?_⟩
  · intro action s name id old hg hn t hh
    have hp := provides_of_grants hw.valid hg
    rw [← hp.handles] at hn
    have ht : t = { s with handles := s.handles.insert name id } := by rw [hp.handles]
    rw [ht] at hh ⊢
    exact ⟨hp, make_of_grants_held hg hn hh⟩
  · obtain ⟨u, hd⟩ := departs hw.custody hw.tuned m hx hy
    exact ⟨u, hd, hd.farewell hw hx hy⟩

/-- A client has opened its session.  A claim waits, one entry has been taken from a read stream, and the
second of two handles is left. -/
def parting : List Move :=
  [.act (.new ⟨⟨"leaf"⟩, 1⟩ "leaf" none), .act (.clone "leaf" "copy"),
   .start "t0" (.openSession "leaf"), .poll, .poll, .poll,
   .act (.steer "leaf" (.addEntities [⟨.tableEntry, 1, [1], []⟩, ⟨.tableEntry, 2, [1], []⟩,
     ⟨.tableEntry, 3, [1], []⟩])),
   .start "r" (.openRead "leaf" ⟨"basic"⟩ [.all .tableEntry]), .observe 0 (.one .done),
   .start "t1" (.readNext "r"), .observe 0 (.one .done), .act (.run "leaf" ⟨0, 5⟩),
   .act (.drop "copy")]

/-- When the second handle goes, one event tells that the channel is closed.  The agent still takes the
claim, nobody reads the stream any more, and one entry is left to take. -/
theorem last_holder_closes_parting :
    let x := (initial ["leaf"] [⟨⟨"basic"⟩, 1, [1], .empty, .empty⟩] [] {} 16).after parting
    let y := x.make (.act (.drop "leaf"))
    let z := y.after (List.replicate 4 .poll)
    y.system.lifecycle = x.system.lifecycle ++ [.channelClosed ⟨"leaf"⟩] ∧
      (∃ log, System.Ebbs y.system log z.system ∧
        takenFrom ⟨"leaf", 0⟩ log = [.arbitration ⟨1, some ⟨0, 5⟩, none⟩]) ∧
      (z.system.stream ⟨"leaf", 0⟩).Deaf ∧
      ∃ r, y.reads.find? "r" = some r ∧ ∀ results z left, y.Draws r results z left →
        results = (served [⟨.tableEntry, 2, [1], []⟩] ++
          .failed (.cancelled ⟨"leaf"⟩ "read") :: endings results.length).take results.length := by
  have last := (last_holder_closes ["leaf"] [⟨⟨"basic"⟩, 1, [1], .empty, .empty⟩] [] {} 16
    parting).2.2.2.2 (.act (.drop "leaf")) ⟨⟨"leaf"⟩, 0⟩
  have facts :
      let x := (initial ["leaf"] [⟨⟨"basic"⟩, 1, [1], .empty, .empty⟩] [] {} 16).after parting
      let y := x.make (.act (.drop "leaf"))
      (x.system.isHeld ⟨⟨"leaf"⟩, 0⟩ = true ∧ y.system.isHeld ⟨⟨"leaf"⟩, 0⟩ = false) ∧
        (x.system.client ⟨⟨"leaf"⟩, 0⟩).key = ⟨⟨"leaf"⟩, 1⟩ ∧
        (x.system.client ⟨⟨"leaf"⟩, 0⟩).scope.isOpen = true ∧
        (x.system.client ⟨⟨"leaf"⟩, 0⟩).scope.slot = some ⟨"leaf", 0⟩ ∧
        (x.system.stream ⟨"leaf", 0⟩).served = true ∧
        (x.system.stream ⟨"leaf", 0⟩).uplink.frames = [.arbitration ⟨1, some ⟨0, 5⟩, none⟩] ∧
        (y.after (List.replicate 4 .poll)).system.ready = [] ∧
        y.reads.find? "r" = some ⟨⟨⟨"leaf"⟩, 0⟩, 0,
          ⟨[⟨.tableEntry, 2, [1], []⟩], [.item [⟨.tableEntry, 3, [1], []⟩]], false, .running⟩⟩ := by
    decide +kernel
  -- the facts are evaluated; the rest must not evaluate the run again
  revert last facts
  generalize (initial _ _ _ _ _).after parting = x
  rintro last ⟨⟨hheld, hgone⟩, hkey, hopen, hslot, hserved, hframes, hready, hread⟩
  obtain ⟨u, hd, hf⟩ := last hheld hgone
  obtain ⟨-, hstand, hlife, hstream⟩ := hd.cause.resolve_right fun h => by cases h.1
  have hscope : (u.client ⟨⟨"leaf"⟩, 0⟩).scope = (x.system.client ⟨⟨"leaf"⟩, 0⟩).scope :=
    congrArg Standing.scope hstand
  rw [← hd.key] at hkey
  rw [← hscope] at hopen hslot
  have hshut := hd.shuts.lifecycle
  rw [hopen, if_pos rfl, hlife, System.deviceOf, hkey] at hshut
  refine ⟨hshut, ?_, (hf.released _ hready _ hslot).1, _, hread, fun results z left hdraws => ?_⟩
  · obtain ⟨log, he, hlog⟩ := hf.delivered 4 hready
    refine ⟨log, he, ?_⟩
    rw [((hlog _ hslot).2 (by rw [hstream]; exact hserved)).1, hstream]
    exact hframes
  · have h := (hf.reads [] "r" _ hread rfl rfl).2 results z left hdraws
    rw [System.readCancelled, hkey] at h
    exact h

end Scenario

end P4Control
