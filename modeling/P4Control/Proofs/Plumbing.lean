import P4Control.Proofs.Uplinks

namespace P4Control

/-!
# The uplinks along a run

Whatever happens, the uplinks stay in order.

* `Happens.plumbed`, `Leads.plumbed` — incidents keep the uplinks in order.
* `Scenario.plumbed_make`, `Scenario.plumbed_after` — and so do moves, also those past clients and agents.
-/

namespace System

variable {s t : System} {refusing : Prop} {id : ClientId} {st : StreamId}

/-! ### Incidents -/

/-- A session opens on a new stream in the scope begun for it. -/
theorem Plumbed.opened {begun activated : Scope StreamId} {n : SwitchName}
    (hn : (s.beginScope id begun).Adds n t st) (h : t.Plumbed refusing)
    (hr : (t.stream st).downlink.hasReceiver = true)
    (hu : (t.client id).Uses refusing st (t.stream st)) (token : Token) (afterFailure : Bool)
    (ha : begun.activate token st = some activated) :
    (t.goLive id token afterFailure activated st).Plumbed refusing := by
  obtain ⟨-, hact⟩ := Scope.activate_eq_some ha
  exact h.goLive (by rw [hact]) hn.lt_count hr hu token afterFailure

section

variable {token : Token} {afterFailure : Bool} {begun activated : Scope StreamId} {capacity : Option Nat}

/-- A session opens on a stream with the agent. -/
theorem Plumbed.openWithAgent (h : s.Plumbed refusing) (hv : s.Valid) (hl : s.Looped)
    (hb : (s.client id).scope.begin = some (token, afterFailure, begun))
    (hc : (s.beginScope id begun).connect (s.client id).switch capacity = (t, st))
    (ha : begun.activate token st = some activated)
    (hq : capacity = some (max (s.client id).config.queueCapacity 1)) :
    (t.goLive id token afterFailure activated st).Plumbed refusing := by
  have hlooped := (spins_beginScope hv hb).carries.looped hl
  have hn := adds_connect (s.beginScope id begun) (s.client id).switch capacity
  have ht := (h.beginScope hv hb).connect hlooped (s.client id).switch capacity
  have hst := stream_connect (s.beginScope id begun) (s.client id).switch capacity st
  have hclient := (sameClients_connect (s.beginScope id begun) (s.client id).switch capacity).client id
  rw [hc] at hn ht hst hclient
  dsimp only at hn ht hst hclient
  rw [if_pos hn.name.symm] at hst
  rw [client_beginScope, if_pos rfl] at hclient
  refine Plumbed.opened hn ht (by rw [hst]) ⟨?_, ?_, ?_, ?_⟩ token afterFailure ha
  · rw [hclient, hn.name]
    rfl
  · rw [hst]
  · rw [hst, hclient, hq]
  · rw [hst]
    rintro ⟨⟩

/-- A session opens on the stream of a script. -/
theorem Plumbed.openWithScript (h : s.Plumbed refusing) (hv : s.Valid) (hl : s.Looped)
    {script : ScriptedStream} {rest : List ScriptedStream}
    (hb : (s.client id).scope.begin = some (token, afterFailure, begun))
    (hs : (s.switch (s.client id).switch).scriptedStreams = script :: rest)
    (hc : (s.beginScope id begun).playScript (s.client id).switch capacity script rest = (t, st))
    (ha : begun.activate token st = some activated)
    (hq : capacity = some (max (s.client id).config.queueCapacity 1)) :
    (t.goLive id token afterFailure activated st).Plumbed refusing := by
  have hlooped := (spins_beginScope hv hb).carries.looped hl
  have hn := adds_playScript (s.beginScope id begun) (s.client id).switch capacity script rest
  have ht := (h.beginScope hv hb).playScript hlooped (s.client id).switch capacity hs
  have hst := stream_playScript (s.beginScope id begun) (s.client id).switch capacity script rest st
  have hclient := (sameClients_playScript (s.beginScope id begun) (s.client id).switch capacity
    script rest).client id
  rw [hc] at hn ht hst hclient
  dsimp only at hn ht hst hclient
  rw [if_pos hn.name.symm] at hst
  rw [client_beginScope, if_pos rfl] at hclient
  refine Plumbed.opened hn ht (by rw [hst]; rfl) ⟨?_, ?_, ?_, ?_⟩ token afterFailure ha
  · rw [hclient, hn.name]
    rfl
  · rw [hst]
    rfl
  · rw [hst, hclient, ← hq]
    rfl
  · rw [hst]
    intro hr
    refine h.scripts _ script (by rw [hs]; exact List.mem_cons_self) ?_
    -- a script says by itself whether it refuses frames
    simpa [scriptedStream] using hr

end

/-- Where clients, streams, switches and tasks stay, so do the uplinks. -/
theorem Plumbed.of_parts (h : s.Plumbed refusing) (hc : t.clients = s.clients)
    (hs : t.streams = s.streams) (hw : t.switches = s.switches) (hr : t.ready = s.ready) :
    t.Plumbed refusing := by
  have hclient : ∀ id, t.client id = s.client id := fun id => by rw [System.client, hc]; rfl
  refine h.of_same (fun st => by rw [System.stream, hs]; rfl)
    (fun n => by rw [System.switch, hw]; exact ⟨rfl, rfl, rfl⟩) (fun id st hslot => ?_)
    fun st hm => hr ▸ hm
  rw [hclient] at hslot ⊢
  exact ⟨hslot, rfl, rfl⟩

theorem Plumbed.newClient (h : s.Plumbed refusing) (key : ClientKey) (switch : SwitchName)
    (config : ClientConfig) : (s.newClient key switch config).1.Plumbed refusing := by
  refine h.of_same (fun _ => rfl) (fun _ => ⟨rfl, rfl, rfl⟩) (fun id st hslot => ?_) fun _ hm => hm
  rw [client_newClient] at hslot ⊢
  split at hslot
  · cases hslot
  · next hne =>
    rw [if_neg hne]
    exact ⟨hslot, rfl, rfl⟩

/-- A client takes a frame from its stream, which changes at most its view of the mastership. -/
theorem Plumbed.listenFrame (h : s.Plumbed refusing) (id : ClientId) (frame : StreamResponse) :
    (s.listenFrame id frame).Plumbed refusing := by
  have profile : ∀ id', ((s.listenFrame id frame).client id').scope = (s.client id').scope ∧
      ((s.listenFrame id frame).client id').switch = (s.client id').switch ∧
      ((s.listenFrame id frame).client id').config = (s.client id').config := by
    intro id'
    obtain ⟨arbiter, he⟩ := arbiter_listenFrame s id id' frame
    rw [he]
    exact ⟨rfl, rfl, rfl⟩
  rw [listenFrame_eq]
  refine h.of_same (fun _ => rfl) (fun _ => ⟨rfl, rfl, rfl⟩) (fun id' st' hslot => ?_) fun _ hm => hm
  exact ⟨(profile id').1 ▸ hslot, (profile id').2⟩

/-- The agent finds nothing on a stream. -/
theorem Plumbed.idle (h : s.Plumbed refusing) {task : Task} (hr : s.ready.head? = some task)
    (hi : s.Idle task) : s.dequeue.Plumbed refusing := by
  refine h.dequeue hr fun st he => ?_
  subst he
  rintro ⟨hs, hbusy⟩
  obtain ⟨hframes, hsends⟩ := hi hs
  rcases hbusy with hne | hgone
  · exact hne hframes
  · rw [hsends] at hgone
    cases hgone

/-- Every incident keeps the uplinks in order, unless it is past any client and agent. -/
theorem Happens.plumbed {i : Incident} (hi : Happens s i t) (hf : i ≠ .foreign) (hv : s.Valid)
    (hl : s.Looped) (h : s.Plumbed refusing) : t.Plumbed refusing := by
  cases hi with
  | created key switch config => exact h.newClient key switch config
  | filed | told => exact h.of_parts rfl rfl rfl rfl
  | began id token afterFailure begun hk hb => exact h.beginScope hv hb
  | opened id token afterFailure begun activated capacity t st hk hb hc ha hq =>
    exact h.openWithAgent hv hl hb hc ha hq
  | played id token afterFailure begun activated capacity script rest t st hk hb hs hc ha hq =>
    exact h.openWithScript hv hl hb hs hc ha hq
  | closed id hk => exact h.closeSession hl id
  | released id hk hh => exact h.closeSession hl id
  | failed id token hk ht => exact h.failSession hl ht
  | unavailable id token reason hk ht => exact (h.failSession hl ht).of_parts rfl rfl rfl rfl
  | claimed id election st uplink hk hs hu =>
    exact (h.updateArbiter id fun c => c.arbiter.claim election).queue hu
  | sent id packet st uplink hs hu => exact h.queue hu
  | heard id token st frame downlink hlist hc hd =>
    refine (h.changeDown (fun hdead => ?_) (Pipe.receive_eq_frame.mp hd).2).listenFrame id frame
    rw [hdead] at hlist
    cases hlist
  | left id token st hr hlist hc =>
    exact (h.dequeue hr (by rintro st' ⟨⟩)).dropListener st
  | served st frame uplink hs hu => exact (h.takeUp hs hu).serveFrame st.switch frame
  | drained st hr hs hu hn => exact h.drained hr hn
  | idled task hr hi => exact h.idle hr hi
  | detached name => exact h.detach name
  | pushed name frame => exact h.pushFrame name frame
  | steered name agent hc hp => exact h.updateAgent name fun _ => agent
  | foreign _ hc hh hr hf' hj hl => exact absurd rfl hf

/-- So does a sequence of them. -/
theorem Leads.plumbed {is : List Incident} (l : Leads s is t) (hf : .foreign ∉ is) (hv : s.Valid)
    (hl : s.Looped) (h : s.Plumbed refusing) : t.Plumbed refusing := by
  induction l with
  | refl s => exact h
  | quiet q _ ih => exact ih hf (q.valid hv) (q.spins.carries.looped hl) (q.plumbed h)
  | cons hi _ ih =>
    rw [List.mem_cons, not_or] at hf
    have hne := Ne.symm hf.1
    exact ih hf.2 (hi.valid hv) ((hi.carries hne hv).looped hl) (hi.plumbed hne hv hl h)

end System

namespace Scenario

variable {x : Scenario} {refusing : Prop}

/-! ### Moves -/

/-- A move after which a script waits whose stream takes no frames. -/
def Move.queuesRefusing : Move → Bool
  | .act (.script _ (.stream script)) => script.refusesFrames
  | _ => false

/-- No session is open on a stream in the hands of a user. -/
theorem Tuned.slot_ne (ht : x.Tuned) {raw : RawStream} (hm : raw ∈ x.raws.values)
    (id : ClientId) : (x.system.client id).scope.slot ≠ some raw.id := by
  intro hs
  obtain ⟨token, -, hl⟩ := ht.looped.slots id raw.id hs
  rw [(ht.raws raw hm).2] at hl
  cases hl

/-- What is done to streams past any client and agent keeps the uplinks in order. -/
theorem Effect.plumbed {action : Action} {t : System} (he : x.Effect action t) (ht : x.Tuned)
    (h : x.system.Plumbed refusing) (ha : action.isForeign = true)
    (hr : Move.queuesRefusing (.act action) = true → refusing) : t.Plumbed refusing := by
  cases he with
  | stays => exact h
  | files => exact (x.system.quiet_files _ _).plumbed h
  | queues _ hu => exact h.queue hu
  | hangsUp hraw => exact h.dropUplink (ht.slot_ne (Directory.mem_values_of_find? hraw))
  | turnsAway => exact h.dropListener _
  | empties =>
    refine h.changeDown (fun hdead => ?_) rfl
    rw [hdead]
    rfl
  | @scripts n script =>
    cases script with
    | stream script => exact h.queueScript n hr
    | _ => cases ha
  | _ => cases ha

theorem plumbed_discard {s : System} (h : s.Plumbed refusing) {raw : RawStream}
    (hn : ∀ id, (s.client id).scope.slot ≠ some raw.id) : (discard s raw).Plumbed refusing := by
  refine (holds_discard (P := fun t => t.Plumbed refusing ∧ System.PassesBy s t) ⟨h, .refl s⟩
    (fun t ht => ⟨ht.1.dropUplink fun id => ?_, ht.2.trans (.dropUplink t _)⟩)
    fun t ht => ⟨ht.1.dropListener _, ht.2.trans (.dropListener t _)⟩).1
  rw [ht.2.clients.client]
  exact hn id

/-- A stream is set up past any client, in place of the one of its name. -/
theorem plumbed_rawOpen (ht : x.Tuned) (h : x.system.Plumbed refusing) (name : String)
    (n : SwitchName) : (x.start name (.rawOpen n)).1.system.Plumbed refusing := by
  have asked : System.Looped (x.system.updateSwitch n fun w =>
      { w with agent := ((x.system.switch n).agent.enter .streamChannel).1 }) :=
    System.Carries.looped (System.Spins.carries (System.spins_updateSwitch x.system n fun _ => rfl))
      ht.looped
  -- the loops matter only where a stream is set up
  have hset : (x.system.attachStream n none).1.Plumbed refusing ∧
      (x.system.attachStream n none).1.Looped ∧
      System.PassesBy x.system (x.system.attachStream n none).1 :=
    x.system.holds_attachStream
      (P := fun t => t.Plumbed refusing ∧ t.Looped ∧ System.PassesBy x.system t)
      ⟨h.updateAgent n _, asked, .updateSwitch _ n _⟩
      fun t hc => ⟨hc.1.connect hc.2.1 n none, (System.adds_connect t n none).carries.looped hc.2.1,
        hc.2.2.trans (.connect t n none)⟩
  obtain ⟨hplumbed, -, hpasses⟩ := hset
  refine (holds_rawOpen (P := fun t => t.Plumbed refusing ∧ System.PassesBy x.system t) ⟨h, .refl _⟩
    ⟨hplumbed, hpasses⟩ fun t old ho hc => ⟨plumbed_discard hc.1 fun id => ?_,
      hc.2.trans (passesBy_discard t old)⟩).1
  rw [hc.2.clients.client]
  exact ht.slot_ne (Directory.mem_values_of_find? ho) id

/-- Every move keeps the uplinks in order. -/
theorem plumbed_make (hv : x.Valid) (ht : x.Tuned) (h : x.system.Plumbed refusing) (m : Move)
    (hr : m.queuesRefusing = true → refusing) : (x.make m).system.Plumbed refusing := by
  have domestic : m.isForeign = false → (∀ posted outcome, m ≠ .observe posted outcome) →
      (x.make m).system.Plumbed refusing := by
    intro hf hm
    obtain ⟨is, hmake, hl⟩ := leads_make hv hm
    exact hl.plumbed (not_foreign_of_makes hmake hf) hv.system ht.looped h
  cases m with
  | act action =>
    by_cases ha : action.isForeign = true
    · exact (x.effect_act action).plumbed ht h ha hr
    · exact domestic (by simpa [Move.isForeign] using ha) (by simp)
  | start name request =>
    by_cases hf : request.isForeign = true
    · cases request with
      | rawOpen switch => exact plumbed_rawOpen ht h name switch
      | _ => cases hf
    · exact domestic (by simpa [Move.isForeign] using hf) (by simp)
  | advance span => exact domestic rfl (by simp)
  | poll => exact domestic rfl (by simp)
  | observe posted outcome => exact ⟨h.fresh, h.sound, h.tended, h.attached, h.scripts, h.slots⟩

/-- Along a run the uplinks are in order, and streams refuse frames only if a script says so. -/
theorem plumbed_after (hv : x.Valid) (ht : x.Tuned) (h : x.system.Plumbed refusing)
    (ms : List Move) (hr : ∀ m ∈ ms, m.queuesRefusing = true → refusing) :
    (x.after ms).system.Plumbed refusing := by
  induction ms generalizing x with
  | nil => exact h
  | cons m rest ih =>
    exact ih (hv.make m) (ht.make hv m) (plumbed_make hv ht h m (hr m List.mem_cons_self))
      fun m' hm => hr m' (List.mem_cons_of_mem _ hm)

theorem plumbed_initial (devices : List String) (confs : List Pipeconf)
    (bindings : List (String × PipeconfId)) (config : ConfigChange) (capacity : Nat)
    (refusing : Prop) :
    (initial devices confs bindings config capacity).system.Plumbed refusing := by
  have hst : ∀ st, (initial devices confs bindings config capacity).system.stream st = .dead :=
    fun _ => rfl
  refine ⟨fun st _ => hst st, fun st => hst st ▸ Stream.sound_dead, ?_, ?_, fun n script hm => ?_, ?_⟩
  · rintro st ⟨⟨⟩, -⟩
  · rintro st ⟨⟩
  · rw [switch_initial] at hm
    cases hm
  · rintro id st ⟨⟩

end Scenario

end P4Control
