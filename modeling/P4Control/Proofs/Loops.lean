import P4Control.Proofs.Agreement

namespace P4Control

/-!
# Every open session has its inbound loop

Streams may be set up, used and dropped past any client and agent.  None of this touches the stream of
an open session: that one is read by the inbound loop of the session, in the scope in place.

* `System.Looped` — the inbound loops are there.
* `System.Spins` — a change in which no session opens and no open session loses its loop.
* `System.Carries` — a change that keeps the loops, and leaves streams unread that nobody reads.
* `Scenario.Tuned` — a stream in the hands of a user is read by no inbound loop.
* `tuned_after` — all this holds along every run.
-/

namespace System

/-- An open session has an inbound loop for the scope in place, and streams that have not been set up
have none. -/
structure Looped (s : System) : Prop where
  fresh : ∀ st, (s.switch st.switch).streamCount ≤ st.serial → (s.stream st).listener = none
  slots : ∀ id st, (s.client id).scope.slot = some st →
    ∃ token, (s.client id).scope.current = some token ∧ (s.stream st).listener = some (id, token)

/-- A change in which no session opens, no open session loses its loop, and no loop begins. -/
structure Spins (s t : System) : Prop where
  slots : ∀ id st, (t.client id).scope.slot = some st →
    (s.client id).scope.slot = some st ∧ (t.client id).scope.current = (s.client id).scope.current
  loops : ∀ id st token, (t.client id).scope.slot = some st →
    (t.client id).scope.current = some token → (s.stream st).listener = some (id, token) →
      (t.stream st).listener = some (id, token)
  silent : ∀ st, (s.stream st).listener = none → (t.stream st).listener = none
  count : ∀ n, (s.switch n).streamCount ≤ (t.switch n).streamCount

/-- A change that keeps the inbound loops, and adds none to a stream that has been set up. -/
structure Carries (s t : System) : Prop where
  looped : s.Looped → t.Looped
  silent : ∀ st, st.serial < (s.switch st.switch).streamCount → (s.stream st).listener = none →
    (t.stream st).listener = none
  count : ∀ n, (s.switch n).streamCount ≤ (t.switch n).streamCount

variable {s t u : System} {id : ClientId} {token : Token} {st : StreamId}

/-- A change in which no session opens carries the loops along. -/
theorem Spins.carries (h : Spins s t) : Carries s t where
  looped hs := by
    refine ⟨fun st hle => h.silent st (hs.fresh st (Nat.le_trans (h.count _) hle)),
      fun id st hslot => ?_⟩
    obtain ⟨hold, hcur⟩ := h.slots id st hslot
    obtain ⟨token, ht, hl⟩ := hs.slots id st hold
    exact ⟨token, hcur.trans ht, h.loops id st token hslot (hcur.trans ht) hl⟩
  silent st _ := h.silent st
  count := h.count

/-- Such changes do so together. -/
theorem Spins.trans (h : Spins s t) (h' : Spins t u) : Spins s u where
  slots id st hslot := by
    obtain ⟨ht, hcur⟩ := h'.slots id st hslot
    obtain ⟨hs, hcur'⟩ := h.slots id st ht
    exact ⟨hs, hcur.trans hcur'⟩
  loops id st token hslot hc hl := by
    obtain ⟨ht, hcur⟩ := h'.slots id st hslot
    exact h'.loops id st token hslot hc (h.loops id st token ht (hcur.symm.trans hc) hl)
  silent st hn := h'.silent st (h.silent st hn)
  count n := Nat.le_trans (h.count n) (h'.count n)

/-- No change carries the loops along. -/
theorem Carries.refl (s : System) : Carries s s := ⟨fun h => h, fun _ _ h => h, fun _ => Nat.le_refl _⟩

/-- Changes that carry the loops do so together. -/
theorem Carries.trans (h : Carries s t) (h' : Carries t u) : Carries s u where
  looped hs := h'.looped (h.looped hs)
  silent st hlt hn := h'.silent st (Nat.lt_of_lt_of_le hlt (h.count _)) (h.silent st hlt hn)
  count n := Nat.le_trans (h.count n) (h'.count n)

/-! ### Changes elsewhere -/

/-- The scopes stay as they are, and so does whoever reads a stream. -/
theorem spins_of_same (hc : ∀ id, (t.client id).scope = (s.client id).scope)
    (hl : ∀ st, (t.stream st).listener = (s.stream st).listener)
    (hn : ∀ n, (s.switch n).streamCount ≤ (t.switch n).streamCount) : Spins s t where
  slots id st hslot := by
    rw [hc] at hslot ⊢
    exact ⟨hslot, rfl⟩
  loops id st token _ _ h := by rwa [hl]
  silent st h := by rwa [hl]
  count := hn

/-- No session opens in a quiet change. -/
theorem Quiet.spins (q : Quiet s t) : Spins s t := by
  refine spins_of_same q.scope (fun st => by rw [q.stream]) fun n => Nat.le_of_eq ?_
  exact (congrArg Line.streamCount (q.line n)).symm

/-- A switch changes, but sets up no stream. -/
theorem spins_updateSwitch (s : System) (n : SwitchName) {f : Switch → Switch}
    (hf : ∀ w, (f w).streamCount = w.streamCount) : Spins s (s.updateSwitch n f) := by
  refine spins_of_same (fun _ => rfl) (fun _ => rfl) fun m => Nat.le_of_eq ?_
  rw [switch_updateSwitch]
  split
  · next he => rw [hf, he]
  · rfl

/-- A stream changes, but not who reads it. -/
theorem spins_updateStream (s : System) (st : StreamId) {f : Stream → Stream}
    (hf : ∀ v, (f v).listener = v.listener) : Spins s (s.updateStream st f) := by
  refine spins_of_same (fun _ => rfl) (fun st' => ?_) fun _ => Nat.le_refl _
  rw [stream_updateStream]
  split
  · next he => rw [hf, he]
  · rfl

/-- Nor when a task is woken. -/
theorem spins_wake (s : System) (task : Task) : Spins s (s.wake task) :=
  (quiet_wake task).spins

/-- Nor when the outbound half of a stream is closed. -/
theorem spins_dropUplink (s : System) (st : StreamId) : Spins s (s.dropUplink st) :=
  (spins_updateStream s st (f := fun v => { v with uplink := v.uplink.dropSender }) fun _ =>
    rfl).trans (spins_wake _ _)

/-- A frame is queued on a stream. -/
theorem spins_queue (s : System) (st : StreamId) (uplink : Pipe StreamRequest) :
    Spins s ((s.updateStream st fun v => { v with uplink }).wake (.serve st)) :=
  (spins_updateStream s st (f := fun v => { v with uplink }) fun _ => rfl).trans (spins_wake _ _)

/-- A scope ends, and its session with it. -/
theorem spins_endScope (s : System) (id : ClientId) {ended : Scope StreamId}
    (hs : ended.slot = none) : Spins s (s.endScope id ended) := by
  refine ⟨fun id' st hslot => ?_, fun _ _ _ _ _ hl => ?_, fun st hn => ?_, fun n => ?_⟩
  · have hsame := (slot_of_endScope hs hslot).2
    rw [hsame] at hslot ⊢
    exact ⟨hslot, rfl⟩
  · rwa [(downlink_endScope s id ended _).1]
  · rwa [(downlink_endScope s id ended st).1]
  · exact Nat.le_of_eq (by rw [switch_endScope])

/-- Nor when an event is posted. -/
theorem spins_post (s : System) (e : Event) : Spins s (s.post e) :=
  spins_of_same (fun _ => rfl) (fun _ => rfl) fun _ => Nat.le_refl _

/-- A close takes a session away, and no other loses its loop. -/
theorem spins_closeSession (s : System) (id : ClientId) : Spins s (s.closeSession id) := by
  have he := spins_endScope s id (Scope.slot_close (s.client id).scope)
  rw [closeSession_eq]
  split
  · exact he.trans (spins_post _ _)
  · exact he

/-- A reader goes that is not the inbound loop of an open session. -/
theorem spins_dropListener (h : ∀ id token, (s.stream st).listener = some (id, token) →
    (s.client id).scope.current ≠ some token) : Spins s (s.dropListener st) := by
  refine ⟨fun _ _ hslot => ⟨hslot, rfl⟩, fun id st' token _ hc hl => ?_, fun st' hn => ?_,
    fun _ => Nat.le_refl _⟩
  · rw [stream_dropListener, if_neg]
    · exact hl
    · rintro rfl
      exact h id token hl hc
  · rw [stream_dropListener]
    split
    · rfl
    · exact hn

/-- The loop of a stream that the agent has let go of is there until it has read the end. -/
theorem spins_detach (s : System) (n : SwitchName) : Spins s (s.detach n) := by
  refine spins_of_same (fun id => by rw [(sameClients_detach s n).client]) (fun st => ?_) fun m => ?_
  · rw [stream_detach]
    split <;> rfl
  · rw [switch_detach]
    split
    · next he => exact he ▸ Nat.le_refl _
    · exact Nat.le_refl _

/-- A frame on its way changes no loop. -/
theorem spins_pushFrame (s : System) (n : SwitchName) (frame : Arrival StreamResponse) :
    Spins s (s.pushFrame n frame).1 := by
  refine spins_of_same (fun id => by rw [(sameClients_pushFrame s n frame).client])
    (fun st => (uplink_pushFrame s n frame st).2.2) fun m => ?_
  exact Nat.le_of_eq (by rw [switch_pushFrame])

/-- A frame that is served changes no loop. -/
theorem spins_serveFrame (s : System) (n : SwitchName) (frame : StreamRequest) :
    Spins s (s.serveFrame n frame) := by
  refine spins_of_same (fun id => by rw [(sameClients_serveFrame s n frame).client])
    (fun st => (uplink_serveFrame s n frame st).2.2) fun m => ?_
  rw [switch_serveFrame]
  split
  · next he => exact he ▸ Nat.le_refl _
  · exact Nat.le_refl _

/-! ### New streams -/

/-- A new stream of a switch is there, which nobody reads yet. -/
structure Adds (s : System) (n : SwitchName) (t : System) (st : StreamId) : Prop where
  name : st = s.nextStream n
  scopes : ∀ id, (t.client id).scope = (s.client id).scope
  silent : (t.stream st).listener = none
  others : ∀ st', st ≠ st' → (t.stream st').listener = (s.stream st').listener
  count : ∀ m, (t.switch m).streamCount = (s.switch m).streamCount + if n = m then 1 else 0

/-- Setting up a stream adds the next one of the switch. -/
theorem adds_connect (s : System) (n : SwitchName) (capacity : Option Nat) :
    s.Adds n (s.connect n capacity).1 (s.connect n capacity).2 := by
  have hname := connect_snd s n capacity
  refine ⟨hname, fun id => by rw [(sameClients_connect s n capacity).client], ?_, fun st' hne => ?_,
    fun m => ?_⟩
  · rw [stream_connect, if_pos hname.symm]
  · rw [stream_connect, if_neg (hname ▸ hne), stream_detach]
    split <;> rfl
  · rw [switch_connect]
    split
    · next he => rw [he]
    · rfl

/-- So does a script. -/
theorem adds_playScript (s : System) (n : SwitchName) (capacity : Option Nat)
    (script : ScriptedStream) (rest : List ScriptedStream) :
    s.Adds n (s.playScript n capacity script rest).1 (s.playScript n capacity script rest).2 := by
  have hname : (s.playScript n capacity script rest).2 = s.nextStream n := by
    show (⟨n, ((s.updateSwitch n _).switch n).streamCount⟩ : StreamId) = _
    rw [switch_updateSwitch_self]
    rfl
  -- the scripted stream is the only one that changes
  have hst : ∀ st', (s.playScript n capacity script rest).1.stream st' =
      if (s.playScript n capacity script rest).2 = st' then scriptedStream capacity script
      else s.stream st' := fun st' =>
    stream_updateStream (s.updateSwitch n fun w => { w with scriptedStreams := rest }) _ st'
      fun _ => scriptedStream capacity script
  refine ⟨hname, fun _ => rfl, ?_, fun st' hne => ?_, fun m => ?_⟩
  · rw [hst, if_pos rfl]
    rfl
  · rw [hst, if_neg hne]
  · show ((updateSwitch _ n _).switch m).streamCount = _
    rw [switch_updateSwitch]
    split
    · rw [switch_updateStream, switch_updateSwitch_self]
      next he => rw [he]
    · next hne =>
      rw [switch_updateStream, switch_updateSwitch, if_neg hne]
      rfl

/-- A stream that is added has no loop, and the others keep theirs. -/
theorem Adds.carries {n : SwitchName} (h : s.Adds n t st) : Carries s t where
  looped hs := by
    refine ⟨fun st' hle => ?_, fun id st' hslot => ?_⟩
    · by_cases he : st = st'
      · exact he ▸ h.silent
      · rw [h.others st' he]
        refine hs.fresh st' (Nat.le_trans ?_ hle)
        rw [h.count]
        exact Nat.le_add_right _ _
    · rw [h.scopes] at hslot ⊢
      obtain ⟨token, ht, hl⟩ := hs.slots id st' hslot
      refine ⟨token, ht, ?_⟩
      rw [h.others, hl]
      -- the stream of an open session has been set up before
      rintro rfl
      rw [h.name, hs.fresh (s.nextStream n) (Nat.le_refl _)] at hl
      cases hl
  silent st' hlt hn := by
    rw [h.others, hn]
    rintro rfl
    rw [h.name] at hlt
    exact Nat.lt_irrefl _ hlt
  count m := by
    rw [h.count]
    exact Nat.le_add_right _ _

/-- The stream that is added counts from then on. -/
theorem Adds.lt_count {n : SwitchName} (h : s.Adds n t st) :
    st.serial < (t.switch st.switch).streamCount := by
  rw [h.count, h.name]
  show (s.switch n).streamCount < (s.switch n).streamCount + if n = n then 1 else 0
  rw [if_pos rfl]
  exact Nat.lt_succ_self _

/-- A session opens on a stream that nobody reads. -/
theorem Looped.goLive (h : s.Looped) (afterFailure : Bool) {activated : Scope StreamId}
    (hc : activated.current = some token) (hs : activated.slot = some st)
    (hfree : (s.stream st).listener = none) (hset : st.serial < (s.switch st.switch).streamCount) :
    (s.goLive id token afterFailure activated st).Looped := by
  refine ⟨fun st' hle => ?_, fun id' st' hslot => ?_⟩
  · rw [switch_goLive] at hle
    rw [stream_goLive, if_neg]
    · exact h.fresh st' hle
    · rintro rfl
      exact Nat.lt_irrefl _ (Nat.lt_of_lt_of_le hset hle)
  · rw [client_goLive] at hslot ⊢
    rw [stream_goLive]
    split at hslot
    · next he =>
      subst he
      obtain rfl : st = st' := Option.some.inj (hs.symm.trans hslot)
      rw [if_pos rfl, if_pos rfl]
      exact ⟨token, hc, rfl⟩
    · -- the other sessions have streams of their own, for nobody has read this one
      next hne =>
      obtain ⟨token', ht, hl⟩ := h.slots id' st' hslot
      rw [if_neg hne, if_neg]
      · exact ⟨token', ht, hl⟩
      · rintro rfl
        rw [hfree] at hl
        cases hl

/-! ### Incidents -/

/-- A scope that begins has no stream yet. -/
theorem spins_beginScope (hv : s.Valid) {afterFailure : Bool} {begun : Scope StreamId}
    (hb : (s.client id).scope.begin = some (token, afterFailure, begun)) :
    Spins s (s.beginScope id begun) := by
  obtain ⟨hc, -, -, rfl⟩ := Scope.begin_eq_some hb
  have hn := (hv.scopes id).slot_eq_none hc
  refine ⟨fun id' st hslot => ?_, fun _ _ _ _ _ hl => hl, fun _ hl => hl, fun _ => Nat.le_refl _⟩
  rw [client_beginScope] at hslot ⊢
  split at hslot
  · rw [show (s.client id).scope.slot = some st from hslot] at hn
    cases hn
  · next hne =>
    rw [if_neg hne]
    exact ⟨hslot, rfl⟩

/-- A session opens on a new stream in the scope begun for it. -/
theorem carries_opened (hv : s.Valid) {afterFailure : Bool} {begun activated : Scope StreamId}
    {n : SwitchName} (hb : (s.client id).scope.begin = some (token, afterFailure, begun))
    (hn : (s.beginScope id begun).Adds n t st) (ha : begun.activate token st = some activated) :
    Carries s (t.goLive id token afterFailure activated st) := by
  obtain ⟨hcur, hact⟩ := Scope.activate_eq_some ha
  have hu : Carries s t := (spins_beginScope hv hb).carries.trans hn.carries
  refine ⟨fun h => ?_, fun st' hlt hs => ?_, fun n' => ?_⟩
  · refine (hu.looped h).goLive afterFailure ?_ ?_ hn.silent hn.lt_count
    · rw [hact]
      exact hcur
    · rw [hact]
  · rw [stream_goLive, if_neg]
    · exact hu.silent st' hlt hs
    · rintro rfl
      rw [hn.name] at hlt
      exact Nat.lt_irrefl _ hlt
  · rw [switch_goLive]
    exact hu.count n'

/-- Every incident keeps the inbound loops, unless it is past any client and agent. -/
theorem Happens.carries {i : Incident} (hi : Happens s i t) (hf : i ≠ .foreign) (hv : s.Valid) :
    Carries s t := by
  -- Many incidents touch neither clients nor streams nor switches.
  have elsewhere : ∀ {u : System}, u.clients = s.clients → u.streams = s.streams →
      u.switches = s.switches → Spins s u := by
    intro u hc hs hw
    refine spins_of_same (fun id => ?_) (fun st => ?_) fun n => ?_
    · unfold System.client
      rw [hc]
    · unfold System.stream
      rw [hs]
    · unfold System.switch
      exact Nat.le_of_eq (by rw [hw])
  have failed : ∀ {id token}, (s.client id).scope.current = some token →
      Spins s (s.failSession id token) := by
    intro id token ht
    rw [failSession_eq ht]
    exact spins_endScope s id rfl
  cases hi with
  | created key switch config =>
    exact (spins_of_same (fun id => (scope_newClient hv key switch config id).1) (fun _ => rfl)
      fun _ => Nat.le_refl _).carries
  | filed _ _ _ _ => exact Spins.carries (elsewhere rfl rfl rfl)
  | told _ _ => exact Spins.carries (elsewhere rfl rfl rfl)
  | began id token afterFailure begun hk hb => exact (spins_beginScope hv hb).carries
  | opened id token afterFailure begun activated capacity t st hk hb hc ha =>
    have hn := adds_connect (s.beginScope id begun) (s.client id).switch capacity
    rw [hc] at hn
    exact carries_opened hv hb hn ha
  | played id token afterFailure begun activated capacity script rest t st hk hb hs hc ha =>
    have hn := adds_playScript (s.beginScope id begun) (s.client id).switch capacity script rest
    rw [hc] at hn
    exact carries_opened hv hb hn ha
  | closed id hk => exact (spins_closeSession s id).carries
  | released id hk hh => exact (spins_closeSession s id).carries
  | failed id token hk ht => exact (failed ht).carries
  | unavailable id token reason hk ht => exact ((failed ht).trans (spins_post _ _)).carries
  | claimed id election st uplink hk hs hu =>
    have hc : Spins s (s.updateClient id fun c => { c with arbiter := c.arbiter.claim election }) := by
      refine spins_of_same (fun id' => ?_) (fun _ => rfl) fun _ => Nat.le_refl _
      rw [client_updateClient]
      split
      · next he => exact he ▸ rfl
      · rfl
    exact (hc.trans (spins_queue _ st uplink)).carries
  | sent id packet st uplink hs hu =>
    exact (spins_queue s st uplink).carries
  | heard id token st frame downlink hl hc hd =>
    have hd : Spins s (s.updateStream st fun v => { v with downlink }) :=
      spins_updateStream s st fun _ => rfl
    refine (hd.trans (spins_of_same (fun id' => ?_) (fun st' => ?_) fun n => ?_)).carries
    · rw [scope_listenFrame]
    · rw [stream_listenFrame]
    · exact Nat.le_of_eq (by rw [switch_listenFrame])
  | left id token st hr hl hc =>
    have hd : Spins s s.dequeue := elsewhere rfl rfl rfl
    refine (hd.trans (spins_dropListener fun id' token' hl' => ?_)).carries
    -- A listener leaves only when the scope of its token is no longer in place.
    rw [show (s.stream st).listener = some (id', token') from hl'] at hl
    cases hl
    exact (hv.scopes id).current_ne hc
  | served st frame uplink hs hu =>
    have hu : Spins s (s.updateStream st fun v => { v with uplink }) :=
      spins_updateStream s st fun _ => rfl
    exact (hu.trans (spins_serveFrame _ _ _)).carries
  | drained st hr hs hu =>
    have hd : Spins s s.dequeue := elsewhere rfl rfl rfl
    exact Spins.carries (hd.trans (spins_updateStream s.dequeue st fun _ => rfl))
  | idled task hr hi => exact Spins.carries (elsewhere rfl rfl rfl)
  | detached name => exact (spins_detach s name).carries
  | pushed name frame => exact (spins_pushFrame s name frame).carries
  | steered name agent hc hp =>
    exact (spins_updateSwitch s name (f := fun w => { w with agent }) fun _ => rfl).carries
  | foreign _ hc hh hr hf' hj hl => exact absurd rfl hf

/-- So does a sequence of them. -/
theorem Leads.carries {is : List Incident} (l : Leads s is t) (hf : .foreign ∉ is) (hv : s.Valid) :
    Carries s t := by
  induction l with
  | refl s => exact .refl s
  | quiet q _ ih => exact q.spins.carries.trans (ih hf (q.valid hv))
  | cons hi _ ih =>
    rw [List.mem_cons, not_or] at hf
    exact (hi.carries (Ne.symm hf.1) hv).trans (ih hf.2 (hi.valid hv))

end System

namespace Scenario

variable {x y : Scenario}

/-! ### Streams in the hands of users -/

/-- The inbound loops are there, and none of them reads a stream in the hands of a user. -/
structure Tuned (x : Scenario) : Prop where
  looped : x.system.Looped
  raws : ∀ raw ∈ x.raws.values,
    raw.id.serial < (x.system.switch raw.id.switch).streamCount ∧
      (x.system.stream raw.id).listener = none

/-- Users' streams stay unread where the loops are carried along. -/
theorem Tuned.carry (h : x.Tuned) (hc : System.Carries x.system y.system)
    (hr : ∀ raw ∈ y.raws.values, ∃ old ∈ x.raws.values, old.id = raw.id) : y.Tuned where
  looped := hc.looped h.looped
  raws raw hm := by
    obtain ⟨old, ho, he⟩ := hr raw hm
    obtain ⟨hlt, hn⟩ := h.raws old ho
    rw [← he]
    exact ⟨Nat.lt_of_lt_of_le hlt (hc.count _), hc.silent _ hlt hn⟩

/-- An action puts no other streams into the hands of users. -/
theorem raws_act {action : Action} {raw : RawStream} (h : raw ∈ (x.act action).1.raws.values) :
    ∃ old ∈ x.raws.values, old.id = raw.id := by
  -- an entry that is replaced keeps the id of its stream
  have replaced : ∀ {name : String} {old new : RawStream}, x.raws.find? name = some old →
      raw ∈ (x.raws.insert name new).values → new.id = old.id →
        ∃ old ∈ x.raws.values, old.id = raw.id := by
    intro name old new hf hm he
    rcases Directory.mem_values_insert hm with rfl | hm
    · exact ⟨old, Directory.mem_values_of_find? hf, he.symm⟩
    · exact ⟨raw, hm, rfl⟩
  have same : (x.act action).1.raws = x.raws → ∃ old ∈ x.raws.values, old.id = raw.id :=
    fun he => ⟨raw, he ▸ h, rfl⟩
  cases action with
  | rawClose name =>
    simp only [act, onRaw] at h
    split at h
    · exact ⟨raw, h, rfl⟩
    · next old hf => exact replaced hf h rfl
  | rawDrop name =>
    simp only [act, onRaw] at h
    split at h
    · exact ⟨raw, h, rfl⟩
    · next old hf => exact replaced hf h rfl
  | _ =>
    refine same ?_
    simp only [act, onClient, onSwitch, onPipeconf, onRaw, sent]
    repeat' first
      | rfl
      | split

/-- A request puts no stream into the hands of a user, unless it sets one up. -/
theorem raws_start {name : String} {request : Request} (hf : request.isForeign = false) :
    (x.start name request).1.raws = x.raws := by
  cases request with
  | rawOpen switch => cases hf
  | _ =>
    simp only [start, onClient, onSwitch, onPipeconf, answered, started, withAgent, withSystem]
    repeat' first
      | rfl
      | split

/-- A raw stream is given up without a loop. -/
theorem spins_discard (s : System) (raw : RawStream)
    (hl : (s.stream raw.id).listener = none) : System.Spins s (discard s raw) := by
  refine holds_discard (System.Quiet.refl s).spins (fun t h => h.trans (System.spins_dropUplink t raw.id)) fun t h =>
    h.trans (System.spins_dropListener fun id token ht => ?_)
  rw [h.silent raw.id hl] at ht
  cases ht

/-- What is done to streams past any client and agent touches no inbound loop. -/
theorem Effect.carries {action : Action} {t : System} (he : x.Effect action t) (h : x.Tuned)
    (ha : action.isForeign = true) : System.Carries x.system t := by
  cases he with
  | stays => exact .refl _
  | files => exact (x.system.quiet_files _ _).spins.carries
  | queues => exact (System.spins_queue _ _ _).carries
  | hangsUp => exact (System.spins_dropUplink _ _).carries
  | turnsAway hr =>
    refine (System.spins_dropListener fun id token hl => ?_).carries
    rw [(h.raws _ (Directory.mem_values_of_find? hr)).2] at hl
    cases hl
  | empties =>
    exact System.Spins.carries (System.spins_updateStream x.system _ (f := fun v =>
      { v with downlink := { v.downlink with frames := [] } }) fun _ => rfl)
  | @scripts n script =>
    exact (System.spins_updateSwitch x.system n (f := fun w => script.addTo w) fun _ => by
      cases script <;> rfl).carries
  | _ => cases ha

/-- A stream set up past any client has no inbound loop. -/
theorem tuned_rawOpen (h : x.Tuned) (name : String) (switch : SwitchName) :
    (x.start name (.rawOpen switch)).1.Tuned := by
  obtain ⟨agent, -, hcase⟩ := System.attachStream_cases x.system switch none
  have hu : System.Carries x.system (x.system.updateSwitch switch fun w => { w with agent }) :=
    (System.spins_updateSwitch x.system switch (f := fun w => { w with agent }) fun _ => rfl).carries
  have kept : ∀ raw ∈ x.raws.values, ∃ old ∈ x.raws.values, old.id = raw.id :=
    fun raw hm => ⟨raw, hm, rfl⟩
  simp only [start, onSwitch]
  split
  · exact h
  · rcases hcase with ⟨status, he⟩ | he | ⟨t, st, hc, he⟩
    · simp only [he]
      exact h.carry hu kept
    · simp only [he]
      exact h.carry hu kept
    · simp only [he]
      have ha := System.adds_connect (x.system.updateSwitch switch fun w => { w with agent }) switch
        none
      rw [hc] at ha
      have ht := hu.trans ha.carries
      -- the new stream is one that nobody reads
      have htuned : ({ x with system := t } : Scenario).Tuned := h.carry ht kept
      split
      · next old ho =>
        -- the name was in use: the stream that had it is given up first
        have hd := spins_discard t old (htuned.raws old (Directory.mem_values_of_find? ho)).2
        refine ⟨hd.carries.looped htuned.looped, fun raw hm => ?_⟩
        rcases Directory.mem_values_insert hm with rfl | hm
        · exact ⟨Nat.lt_of_lt_of_le ha.lt_count (hd.count _), hd.silent _ ha.silent⟩
        · obtain ⟨hlt, hn⟩ := htuned.raws raw hm
          exact ⟨Nat.lt_of_lt_of_le hlt (hd.count _), hd.silent _ hn⟩
      · refine ⟨htuned.looped, fun raw hm => ?_⟩
        rcases Directory.mem_values_insert hm with rfl | hm
        · exact ⟨ha.lt_count, ha.silent⟩
        · exact htuned.raws raw hm

/-- Every move keeps the inbound loops. -/
theorem Tuned.make (h : x.Tuned) (hv : x.Valid) (m : Move) : (x.make m).Tuned := by
  -- what clients and agents do among themselves is a list of incidents
  have domestic : m.isForeign = false → (∀ posted outcome, m ≠ .observe posted outcome) →
      System.Carries x.system (x.make m).system := by
    intro hf hm
    obtain ⟨is, hmake, hl⟩ := leads_make hv hm
    exact hl.carries (not_foreign_of_makes hmake hf) hv.system
  cases m with
  | act action =>
    refine h.carry ?_ fun raw => raws_act
    by_cases ha : action.isForeign = true
    · exact (x.effect_act action).carries h ha
    · exact domestic (by simpa [Move.isForeign] using ha) (by simp)
  | start name request =>
    by_cases hf : request.isForeign = true
    · cases request with
      | rawOpen switch => exact tuned_rawOpen h name switch
      | _ => cases hf
    · have hf' : request.isForeign = false := by simpa using hf
      refine h.carry (domestic hf' (by simp)) fun raw hm => ⟨raw, ?_, rfl⟩
      rwa [show (x.make (.start name request)).raws = x.raws from raws_start hf'] at hm
  | advance span => exact h.carry (domestic rfl (by simp)) fun raw hm => ⟨raw, hm, rfl⟩
  | poll => exact h.carry (domestic rfl (by simp)) fun raw hm => ⟨raw, hm, rfl⟩
  | observe posted outcome => exact ⟨⟨h.looped.fresh, h.looped.slots⟩, h.raws⟩

/-- There are no loops at the start. -/
theorem tuned_initial (devices : List String) (confs : List Pipeconf)
    (bindings : List (String × PipeconfId)) (config : ConfigChange) (capacity : Nat) :
    (initial devices confs bindings config capacity).Tuned :=
  ⟨⟨fun _ _ => rfl, by rintro id st ⟨⟩⟩, by rintro raw ⟨⟩⟩

/-- Along every run, an open session has its inbound loop. -/
theorem tuned_after (devices : List String) (confs : List Pipeconf)
    (bindings : List (String × PipeconfId)) (config : ConfigChange) (capacity : Nat)
    (ms : List Move) : ((initial devices confs bindings config capacity).after ms).Tuned := by
  have hx := valid_initial devices confs bindings config capacity
  have ht := tuned_initial devices confs bindings config capacity
  generalize initial devices confs bindings config capacity = x at hx ht
  induction ms generalizing x with
  | nil => exact ht
  | cons m rest ih => exact ih (x.make m) (hx.make m) (ht.make hx m)

end Scenario

end P4Control
