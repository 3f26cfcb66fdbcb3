import P4Control.Proofs.Intake

namespace P4Control

/-!
# Frames from the switch

The frames of a session are taken in the order in which they come in, each at most once, as long as the
session is in place.  They are all taken, unless the session is withdrawn before: what is left when it
ends otherwise is the failure with which the stream ended, and what a script has behind it.

* `Scenario.Withdraws`, `Scenario.Breaks` — how a session ends.
* `withdraws_or_breaks` — so ends every session.
* `Scenario.EndsAt` — where a session ends in a run.
* `Scenario.Puts` — what the agent sends comes in on its stream.
* `frames_heard` — the frames of every session and their events, along every run.
-/

/-! ### How sessions end -/

/-- Whether the scope of a client ends by an incident. -/
def Incident.ends (id : ClientId) : Incident → Bool
  | .closed id' _ | .released id' _ | .lost id' _ _ => id' = id
  | _ => false

namespace System

variable {s t : System} {id : ClientId} {token : Token} {st : StreamId}

/-- A session stays in place until its scope ends. -/
theorem Happens.inSession {i : Incident} (hi : Happens s i t) (hv : s.Valid)
    (he : i.ends id = false) (h : s.InSession id token st) : t.InSession id token st := by
  -- no scope can begin while the session is in place
  have begun : ∀ {begun afterFailure token'},
      (s.client id).scope.begin = some (token', afterFailure, begun) → False := by
    intro begun afterFailure token' hb
    obtain ⟨hc, -⟩ := Scope.begin_eq_some hb
    rw [h.1] at hc
    cases hc
  by_cases hs : i.subject? = some id
  · cases hi with
    | began id' token' afterFailure scope hk hb =>
      cases hs
      exact absurd hb begun
    | opened id' token' afterFailure scope activated capacity u st' hk hb hc ha =>
      cases hs
      exact absurd hb begun
    | played id' token' afterFailure scope activated capacity script rest u st' hk hb hn hc ha =>
      cases hs
      exact absurd hb begun
    | closed | released | failed | unavailable =>
      cases hs
      simp [Incident.ends] at he
    | _ => cases hs
  · have hscope : (t.client id).scope = (s.client id).scope := by
      show (t.client id).standing.scope = _
      rw [hi.standing hv id]
      exact (Incident.affect_of_subject?_ne hs _).2
    unfold InSession
    rwa [hscope]

theorem Leads.inSession {is : List Incident} (l : Leads s is t) (hv : s.Valid)
    (he : ∀ i ∈ is, i.ends id = false) (h : s.InSession id token st) : t.InSession id token st := by
  induction l with
  | refl s => exact h
  | quiet q _ ih =>
    refine ih (q.valid hv) he ?_
    unfold InSession
    rwa [q.scope]
  | cons hi _ ih =>
    exact ih (hi.valid hv) (fun i hm => he i (List.mem_cons_of_mem _ hm))
      (hi.inSession hv (he _ List.mem_cons_self) h)

end System

namespace Scenario

variable {x : Scenario} {m : Move} {id : ClientId} {token : Token} {st : StreamId}

/-- The session of a client is withdrawn in a move, and its stream is not lost: someone closes the session,
or nobody holds the client any more, or a call on the client fails in a way that ends the scope. -/
def Withdraws (x : Scenario) (id : ClientId) (m : Move) : Prop :=
  x.lossOf id m = none ∧
    (x.closesBy id m = true ∨ (x.make m).system.isHeld id = false ∨
      ∃ result ∈ x.resultsOf id m, (result.loss (x.isOpening m)).isSome = true)

/-- In a move, a client finds that the stream of its session has failed or has ended.  What is `left`
waits there, and no frame of it comes before the failure. -/
def Breaks (x : Scenario) (id : ClientId) (st : StreamId) (left : List (Arrival StreamResponse))
    (m : Move) : Prop :=
  left = (x.system.stream st).downlink.frames ∧ ∃ status, x.lossOf id m = some status.reason? ∧
    ((∃ rest, left = .failure status :: rest) ∨
      left = [] ∧ (x.system.stream st).downlink.hasSender = false ∧ status = System.streamEnded)

/-- A call whose failure ends a scope tells so. -/
theorem told_of_lost {opening : Bool} {is : List Incident} {id' : ClientId} {token : Token}
    {reason : Option String} (hc : Course id' opening is) (h : .lost id token reason ∈ is) :
    ∃ f, .told f ∈ is ∧ f.call.client = id ∧ f.result.loss opening = some reason := by
  cases hc with
  | ends token' f hf =>
    cases hl : f.result.loss opening with
    | none => simp [hl, lostBy] at h
    | some reason' =>
      obtain ⟨rfl, rfl, rfl⟩ : id = id' ∧ token = token' ∧ reason = reason' := by
        simpa [hl, lostBy] using h
      exact ⟨f, by simp, hf, hl⟩
  | collapses token' afterFailure reason' f ho hf hl =>
    obtain ⟨rfl, rfl, rfl⟩ : id = id' ∧ token = token' ∧ reason = reason' := by simpa using h
    exact ⟨f, by simp, hf, hl⟩
  | _ => simp at h

/-- The failure of such a call is among the results of a move. -/
theorem loss_of_course {opening : Bool} {is js : List Incident} {id' : ClientId}
    {reason : Option String} (hl : x.system.Leads js (x.make m).system)
    (hsub : ∀ i ∈ is, i ∈ js) (hc : Course id' opening is) (ho : x.isOpening m = opening)
    (h : .lost id token reason ∈ is) :
    ∃ result ∈ x.resultsOf id m, (result.loss (x.isOpening m)).isSome = true := by
  obtain ⟨f, hf, hid, hloss⟩ := told_of_lost hc h
  refine ⟨f.result, ?_, by rw [ho, hloss]; rfl⟩
  rw [resultsOf_eq hl, resultsAbout]
  refine List.mem_map.mpr ⟨f, List.mem_filter.mpr ⟨?_, by simpa using hid⟩, rfl⟩
  exact List.mem_flatMap.mpr ⟨_, hsub _ hf, List.mem_singleton_self f⟩

/-- An inbound loop that loses its stream leaves it. -/
theorem breaks_poll (hv : x.Valid) (h : x.system.InSession id token st) {reason : Option String}
    (hl : x.system.loses = some (id, reason)) :
    x.Breaks id st (x.system.stream st).downlink.frames .poll ∧
      ((x.make .poll).system.stream st).Deaf := by
  have hloss : x.lossOf id .poll = some reason := by
    simp only [lossOf, hl, if_true]
  -- the loop that runs is that of the session
  have own : ∀ {token' reception}, x.system.listens = some (id, token', reception) →
      ∃ rest, x.system.ready = .listen st :: rest ∧
        (x.system.stream st).listener = some (id, token') ∧
        (x.system.client id).scope.isCancelled token' = false ∧
        (x.system.stream st).downlink.receive = reception := by
    intro token' reception hlist
    obtain ⟨st', rest, hr, hlistener, hc, hd⟩ := System.listens_eq_some hlist
    have hs := hv.system.inSession hlistener hc
    obtain rfl : st = st' := Option.some.inj (h.2.symm.trans hs.2)
    exact ⟨rest, hr, hlistener, hc, hd⟩
  have deaf : ∀ token' status,
      x.system.poll = x.system.dequeue.loseStream st id token' status →
        ((x.make .poll).system.stream st).Deaf := by
    intro token' status hp
    show (x.system.poll.stream st).Deaf
    rw [hp, System.loseStream, System.stream_dropListener, if_pos rfl]
    exact ⟨rfl, rfl, rfl⟩
  unfold System.loses at hl
  split at hl
  · next id' token' status downlink hlist =>
    cases hl
    obtain ⟨rest, hr, hlistener, hc, hd⟩ := own hlist
    refine ⟨⟨rfl, status, hloss, .inl ⟨_, (Pipe.receive_eq_frame.mp hd).1⟩⟩, deaf token' status ?_⟩
    unfold System.poll
    rw [hr]
    simp only [System.listenStep, hlistener, hc, hd]
    rfl
  · next id' token' hlist =>
    cases hl
    obtain ⟨rest, hr, hlistener, hc, hd⟩ := own hlist
    obtain ⟨hf, hs⟩ := Pipe.receive_eq_ended.mp hd
    refine ⟨⟨rfl, System.streamEnded, hloss, .inr ⟨hf, hs, rfl⟩⟩, deaf token' System.streamEnded ?_⟩
    unfold System.poll
    rw [hr]
    simp only [System.listenStep, hlistener, hc, hd]
    rfl
  · cases hl

/-- A session ends because it is withdrawn, or because its stream breaks. -/
theorem withdraws_or_breaks (hv : x.Valid) (h : x.system.InSession id token st)
    (he : ¬ (x.make m).system.InSession id token st) :
    x.Withdraws id m ∨ x.Breaks id st (x.system.stream st).downlink.frames m ∧
      ((x.make m).system.stream st).Deaf := by
  cases hloss : x.lossOf id m with
  | some reason =>
    cases m with
    | poll =>
      have hs : x.system.loses = some (id, reason) := by
        simp only [lossOf] at hloss
        split at hloss
        · next id' reason' hs =>
          split at hloss
          · next hid =>
            cases hloss
            rw [hs, hid]
          · cases hloss
        · cases hloss
      exact .inr (breaks_poll hv h hs)
    | _ => cases hloss
  | none =>
    -- no inbound loop loses its stream, so it is one of the other ends
    refine .inl ⟨hloss, ?_⟩
    obtain ⟨is, hmake, hl⟩ := (observes_or_leads hv m).resolve_left (by
      rintro ⟨posted, outcome, rfl⟩
      exact he h)
    obtain ⟨i, hi, hends⟩ : ∃ i ∈ is, i.ends id = true := by
      refine Decidable.byContradiction fun hn => he (hl.inSession hv.system (fun i hi => ?_) h)
      cases hends : i.ends id with
      | false => rfl
      | true => exact absurd ⟨i, hi, hends⟩ hn
    have ha := accounts_make hmake i hi
    cases i with
    | closed id' wasOpen =>
      obtain rfl : id' = id := by simpa [Incident.ends] using hends
      exact .inl ha
    | released id' wasOpen =>
      obtain rfl : id' = id := by simpa [Incident.ends] using hends
      exact .inr (.inl ha)
    | lost id' token' reason =>
      obtain rfl : id' = id := by simpa [Incident.ends] using hends
      refine .inr (.inr ?_)
      cases hmake with
      | acts action front id rest hf hg => exact absurd rfl (ha action)
      | plays name request id is rest hc hp =>
        rcases List.mem_append.mp hi with hi | hi
        · exact loss_of_course hl (fun _ => List.mem_append_left _) hc rfl hi
        · cases hp <;> simp at hi
      | foreign name request hf => simp at hi
      | advances span => cases hi
      | polls is hp =>
        cases hp with
        | loses id'' token'' st' reason' hr hs =>
          obtain ⟨rfl, -, -⟩ : id' = id'' ∧ token' = token'' ∧ reason = reason' := by simpa using hi
          simp [lossOf, hs] at hloss
        | resumes call is rest hr hc hp =>
          rcases List.mem_append.mp ((List.mem_cons.mp hi).resolve_left (by simp)) with hi | hi
          · obtain ⟨tasks, hready⟩ := List.head?_eq_some_iff.mp hr
            refine loss_of_course hl (fun _ hm => ?_) hc (by simp only [isOpening, hready]) hi
            exact List.mem_cons_of_mem _ (List.mem_append_left _ hm)
          · cases hp <;> simp at hi
        | _ => simp at hi
    | _ => simp [Incident.ends] at hends

/-! ### After the end -/

/-- No frame is taken in a session that has ended. -/
theorem heardIn_of_over (hv : x.Valid) (hb : token < (x.system.client id).scope.begun)
    (hc : (x.system.client id).scope.current ≠ some token) (ms : List Move) :
    heardIn id token (x.hearings ms) = [] := by
  induction ms generalizing x with
  | nil => rfl
  | cons m rest ih =>
    obtain ⟨hle, hscope⟩ := scope_make hv m id
    have hrest := ih (hv.make m) (Nat.lt_of_lt_of_le hb hle) fun hcur =>
      hc (hscope token hb hcur ▸ hcur)
    rw [hearings, heardIn_append, hrest, List.append_nil]
    refine List.filter_eq_nil_iff.mpr fun a ha => ?_
    have hs := (takes_make hv (Option.mem_toList.mp ha)).session
    rw [decide_eq_true_eq]
    rintro ⟨rfl, rfl⟩
    exact hc hs.1

theorem deaf_make (hv : x.Valid) (ht : x.Tuned) (m : Move)
    (hset : st.serial < (x.system.switch st.switch).streamCount) (hd : (x.system.stream st).Deaf) :
    st.serial < ((x.make m).system.switch st.switch).streamCount ∧
      ((x.make m).system.stream st).Deaf := by
  cases hh : x.hearing? m with
  | none =>
    have hm := feeds_make hv ht hh
    exact ⟨Nat.lt_of_lt_of_le hset (hm.count _), (hm.fares st hset).deaf hd⟩
  | some a =>
    have hm := takes_make hv hh
    exact ⟨by rw [hm.switch_eq]; exact hset, hm.deaf hd⟩

/-- Nothing comes in on a stream that has lost its loop. -/
theorem came_of_deaf (hv : x.Valid) (ht : x.Tuned)
    (hset : st.serial < (x.system.switch st.switch).streamCount) (hd : (x.system.stream st).Deaf)
    (ms : List Move) : x.came st ms = [] := by
  induction ms generalizing x with
  | nil => rfl
  | cons m rest ih =>
    obtain ⟨hset', hd'⟩ := deaf_make hv ht m hset hd
    rw [came, ih (hv.make m) (ht.make hv m) hset' hd', arrivals, hd'.frames, List.drop_nil]
    rfl

/-- A session lasts, or there is a move that ends it. -/
theorem lasts_or_ends (h : x.system.InSession id token st) (ms : List Move) :
    (x.after ms).system.InSession id token st ∨ ∃ ns n rest, ms = ns ++ n :: rest ∧
      (x.after ns).system.InSession id token st ∧
      ¬ ((x.after ns).make n).system.InSession id token st := by
  induction ms generalizing x with
  | nil => exact .inl h
  | cons m rest ih =>
    by_cases hm : (x.make m).system.InSession id token st
    · rcases ih hm with hl | ⟨ns, n, rest', rfl, hb, he⟩
      · exact .inl hl
      · exact .inr ⟨m :: ns, n, rest', rfl, hb, he⟩
    · exact .inr ⟨[], m, rest, rfl, h, hm⟩

/-- Along `ms`, the session ends in the move `n` after `ns`, and no frame is taken in it from then on. -/
structure EndsAt (x : Scenario) (id : ClientId) (token : Token) (st : StreamId) (ms ns : List Move)
    (n : Move) : Prop where
  run : ∃ rest, ms = ns ++ n :: rest
  before : (x.after ns).system.InSession id token st
  after : ¬ ((x.after ns).make n).system.InSession id token st
  last : heardIn id token (x.hearings ms) = heardIn id token (x.hearings ns)

theorem endsAt (hv : x.Valid) {ns : List Move} {n : Move} (rest : List Move)
    (hb : (x.after ns).system.InSession id token st)
    (he : ¬ ((x.after ns).make n).system.InSession id token st)
    (hr : ((x.after ns).make n).system.Recalls id token st) :
    x.EndsAt id token st (ns ++ n :: rest) ns n := by
  refine ⟨⟨rest, rfl⟩, hb, he, ?_⟩
  have hnone : (x.after ns).hearing? n = none := by
    cases hh : (x.after ns).hearing? n with
    | none => rfl
    | some a => exact absurd ((takes_make (hv.after ns) hh).inSession hb) he
  rw [hearings_append, heardIn_append, hearings, hnone, Option.toList_none, List.nil_append,
    heardIn_of_over ((hv.after ns).make n) hr.begun (fun hc => he ⟨hc, hr.slot hc⟩),
    List.append_nil]

/-! ### What the agent sends -/

/-- In a move, exactly this comes in on the stream that the agent of a switch has, and nothing on any
other. -/
def Puts (x : Scenario) (name : SwitchName) (arrival : Arrival StreamResponse) (m : Move) : Prop :=
  ∃ serial, (x.system.switch name).attached = some serial ∧
    ∀ st, x.arrivals st m = if st = ⟨name, serial⟩ then [arrival] else []

/-- What the agent sends comes in. -/
theorem frames_pushFrame {s : System} {name : SwitchName} {arrival : Arrival StreamResponse}
    (h : (s.pushFrame name arrival).2 = true) :
    ∃ serial, (s.switch name).attached = some serial ∧
      ∀ st, ((s.pushFrame name arrival).1.stream st).downlink.frames =
        (s.stream st).downlink.frames ++ if st = ⟨name, serial⟩ then [arrival] else [] := by
  unfold System.pushFrame at h ⊢
  split at h
  · cases h
  · next serial ha =>
    split at h
    · cases h
    · next downlink hd =>
      obtain ⟨-, -, he⟩ := Pipe.send_eq_ok.mp hd
      refine ⟨serial, ha, fun st => ?_⟩
      dsimp only
      rw [System.stream_wake, System.stream_updateStream, he]
      split
      · next hst => rw [if_pos hst.symm, hst]
      · next hst => rw [if_neg (Ne.symm hst), List.append_nil]

theorem puts_sendFrame {name : SwitchName} {frame : StreamResponse}
    (h : (x.act (.sendFrame name frame)).2 = .flag true) :
    x.Puts name (.item frame) (.act (.sendFrame name frame)) := by
  have hm : (x.make (.act (.sendFrame name frame))).system = (x.system.pushFrame name (.item frame)).1 ∧
      (x.system.pushFrame name (.item frame)).2 = true := by
    simp only [act, onSwitch] at h
    simp only [make, act, onSwitch]
    split at h
    · cases h
    · exact ⟨rfl, by simpa using h⟩
  obtain ⟨serial, ha, hf⟩ := frames_pushFrame hm.2
  refine ⟨serial, ha, fun st => ?_⟩
  rw [arrivals, hm.1, hf, List.drop_left]

theorem puts_failStream {name : SwitchName} {status : Status}
    (h : (x.act (.failStream name status)).2 = .flag true) :
    x.Puts name (.failure status) (.act (.failStream name status)) := by
  have hm : (x.make (.act (.failStream name status))).system =
      (x.system.pushFrame name (.failure status)).1.detach name ∧
      (x.system.pushFrame name (.failure status)).2 = true := by
    simp only [act, onSwitch] at h
    simp only [make, act, onSwitch]
    split at h
    · cases h
    · exact ⟨rfl, by simpa [System.failStream] using h⟩
  obtain ⟨serial, ha, hf⟩ := frames_pushFrame hm.2
  refine ⟨serial, ha, fun st => ?_⟩
  have hd : (((x.system.pushFrame name (.failure status)).1.detach name).stream st).downlink.frames =
      ((x.system.pushFrame name (.failure status)).1.stream st).downlink.frames := by
    rw [System.stream_detach]
    split <;> rfl
  rw [arrivals, hm.1, hd, hf, List.drop_left]

/-! ### All frames -/

/-- Along every run, the events about frames are those for the frames that are taken, one after the other.
A frame is taken while its session is in place, and leaves it there; the loop of a session that has
ended does nothing that could be seen.  What comes in on the stream of a session is what has been taken
in this session, and then what is left.  As long as the session is in place, this is what waits, and
nothing when all tasks wait; when it has been withdrawn, it is what has not been taken before; and when
the stream has failed or ended, it begins with the failure, or is nothing. -/
theorem frames_heard (devices : List String) (confs : List Pipeconf)
    (bindings : List (String × PipeconfId)) (config : ConfigChange) (capacity : Nat)
    (ms : List Move) :
    let x := initial devices confs bindings config capacity
    let y := x.after ms
    y.system.inbound = (x.hearings ms).flatMap Hearing.events ∧
    (∀ m h, y.hearing? m = some h → y.system.Takes h (y.make m).system) ∧
    (∀ st, y.system.ready.head? = some (.listen st) →
      (∀ id token, (y.system.stream st).listener = some (id, token) →
        ¬ y.system.InSession id token st) →
      y.system.poll.clients = y.system.clients ∧ y.system.poll.journal = y.system.journal) ∧
    (∀ name,
      (∀ frame, (y.act (.sendFrame name frame)).2 = .flag true →
        y.Puts name (.item frame) (.act (.sendFrame name frame))) ∧
      ∀ status, (y.act (.failStream name status)).2 = .flag true →
        y.Puts name (.failure status) (.act (.failStream name status))) ∧
    ∀ ns rest id token st, ms = ns ++ rest → (x.after ns).system.InSession id token st →
      (∀ h ∈ x.hearings ms, h.stream = st ↔ h.client = id ∧ h.token = token) ∧
      ∃ left, x.came st ms = (heardIn id token (x.hearings ms)).map (.item ·.frame) ++ left ∧
        (y.system.InSession id token st ∧ left = (y.system.stream st).downlink.frames ∧
          (y.system.ready = [] → left = []) ∨
        ∃ ns' n, x.EndsAt id token st ms ns' n ∧
          ((x.after ns').Withdraws id n ∨ (x.after ns').Breaks id st left n)) := by
  intro x y
  have hv : x.Valid := valid_initial devices confs bindings config capacity
  have ht : x.Tuned := tuned_initial devices confs bindings config capacity
  have hk : x.Keeps [] fun _ => [] := keeps_initial devices confs bindings config capacity
  have hvy : y.Valid := hv.after ms
  refine ⟨?_, fun m h => takes_make hvy, fun st => System.poll_of_ended hvy.system,
    fun name => ⟨fun frame => puts_sendFrame, fun status => puts_failStream⟩, ?_⟩
  · exact (inbound_after hv ms).trans (List.nil_append _)
  intro ns rest id token st hms h
  subst hms
  have hiff := stream_iff hv ht ns rest h
  have hon : ∀ hs : List Hearing, (∀ a ∈ hs, a ∈ x.hearings (ns ++ rest)) →
      heardOn st hs = heardIn id token hs := fun hs hm =>
    List.filter_congr fun a ha => by simp only [hiff a (hm a ha)]
  have kept : ∀ ks : List Move, (∀ a ∈ x.hearings ks, a ∈ x.hearings (ns ++ rest)) → ∃ left,
      x.came st ks = (heardIn id token (x.hearings ks)).map (.item ·.frame) ++ left ∧
        (((x.after ks).system.stream st).listener.isSome = true →
          left = ((x.after ks).system.stream st).downlink.frames) := by
    intro ks hm
    obtain ⟨left, hg, hl⟩ := (hk.after hv ht ks).kept st
    rw [List.nil_append, List.nil_append, hon _ hm] at hg
    exact ⟨left, hg, hl⟩
  refine ⟨hiff, ?_⟩
  obtain ⟨left, hg, hl⟩ := kept (ns ++ rest) fun _ ha => ha
  rcases lasts_or_ends h rest with hlasts | ⟨ns', n, rest', rfl, hb, he⟩
  · rw [← after_append] at hlasts
    have hlist := hlasts.listener (ht.after hv _).looped
    have hleft := hl (by rw [hlist]; rfl)
    refine ⟨left, hg, .inl ⟨hlasts, hleft, fun hr => ?_⟩⟩
    -- a loop on whose stream frames wait would be runnable
    refine Decidable.byContradiction fun hne => ?_
    have hm := (hk.after hv ht (ns ++ rest)).heedful st
      ⟨id, token, hlist, .inr (.inl (hleft ▸ hne))⟩
    rw [show (x.after (ns ++ rest)).system.ready = [] from hr] at hm
    cases hm
  · rw [← after_append] at hb he
    have hv' := hv.after (ns ++ ns')
    have ht' := ht.after hv (ns ++ ns')
    have hr' := recalls_make hv' ht' n (hb.recalls hv'.system ht'.looped)
    have hend := endsAt hv rest' hb he hr'
    rw [List.append_assoc] at hend
    rcases withdraws_or_breaks hv' hb he with hw | ⟨hbreaks, hdeaf⟩
    · exact ⟨left, hg, .inr ⟨ns ++ ns', n, hend, .inl hw⟩⟩
    · -- what waits when the stream breaks is left for good, and nothing comes in behind it
      refine ⟨_, ?_, .inr ⟨ns ++ ns', n, hend, .inr hbreaks⟩⟩
      obtain ⟨left', hg', hl'⟩ := kept (ns ++ ns') fun a ha => by
        rw [← List.append_assoc, hearings_append]
        exact List.mem_append_left _ ha
      rw [hend.last, ← List.append_assoc, came_append, came, arrivals, hdeaf.frames, List.drop_nil,
        came_of_deaf (hv'.make n) (ht'.make hv' n) hr'.set hdeaf, List.append_nil, List.append_nil,
        hg', hl' (by rw [hb.listener ht'.looped]; rfl)]

/-- A switch sends packets and an error, and then its stream fails.  The first packet comes before a
configuration is bound to the device, and the third has metadata that the configuration does not know. -/
def bulletin : List Move :=
  [.act (.new ⟨⟨"leaf"⟩, 1⟩ "leaf" none), .start "open" (.openSession "leaf"),
   .act (.sendFrame "leaf" (.packet ⟨[1], []⟩)), .poll, .poll, .poll,
   .act (.bind ⟨"leaf"⟩ ⟨"pipe"⟩), .act (.sendFrame "leaf" (.packet ⟨[2], [(7, [9])]⟩)),
   .act (.sendFrame "leaf" (.packet ⟨[3], [(8, [9])]⟩)),
   .act (.sendFrame "leaf" (.error ⟨.aborted, "lost", none⟩)),
   .act (.failStream "leaf" ⟨.unavailable, "gone"⟩), .poll, .poll, .poll, .poll]

/-- One packet and the error become events, and all frames are taken before the stream fails. -/
theorem frames_heard_bulletin :
    let conf : Pipeconf := ⟨⟨"pipe"⟩, 0, [], .empty, .ofList [("port", 7)]⟩
    let x := initial ["leaf"] [conf] [] {} 16
    (x.after bulletin).system.inbound =
      [.packetIn ⟨"leaf"⟩ ⟨"pipe"⟩ ⟨[2], [("port", [9])]⟩, .streamError ⟨"leaf"⟩ .aborted "lost"] ∧
    ∃ left, x.came ⟨"leaf", 0⟩ bulletin =
      [.item (.packet ⟨[1], []⟩), .item (.packet ⟨[2], [(7, [9])]⟩),
       .item (.packet ⟨[3], [(8, [9])]⟩), .item (.error ⟨.aborted, "lost", none⟩)] ++ left := by
  intro conf x
  have h := frames_heard ["leaf"] [conf] [] {} 16 bulletin
  obtain ⟨-, left, hg, -⟩ := h.2.2.2.2 (bulletin.take 2) (bulletin.drop 2) ⟨⟨"leaf"⟩, 0⟩ 0 ⟨"leaf", 0⟩
    rfl ⟨by decide +kernel, by decide +kernel⟩
  exact ⟨h.1.trans (by decide +kernel), left, hg.trans (congrArg (· ++ left) (by decide +kernel))⟩

end Scenario

end P4Control
