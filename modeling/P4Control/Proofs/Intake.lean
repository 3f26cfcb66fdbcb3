import P4Control.Proofs.Downlinks
import P4Control.Proofs.Lifecycle

namespace P4Control

/-!
# What comes in and what is taken

Along a run, frames come in on the streams, and inbound loops take them.  A stream belongs to one session,
and what comes in there is taken in this session, in order, or waits.

* `System.Recalls` — a session that has been in place keeps its stream, and no other has it.
* `Scenario.hearings` — the frames that are taken in a run, `Scenario.came` — those that come in.
* `inbound_after` — what is posted about frames is what is posted for those that are taken.
* `stream_iff` — the frames that are taken on the stream of a session are those that are taken in it.
* `Scenario.Keeps` — what has come in has been taken, or waits while there is a loop to take it.
-/

namespace System

variable {s t : System} {id id' : ClientId} {token token' : Token} {st st' : StreamId}

/-- A session has been in place: it keeps its stream, and the stream has no other inbound loop. -/
structure Recalls (s : System) (id : ClientId) (token : Token) (st : StreamId) : Prop where
  set : st.serial < (s.switch st.switch).streamCount
  sole : ∀ l, (s.stream st).listener = some l → l = (id, token)
  begun : token < (s.client id).scope.begun
  slot : (s.client id).scope.current = some token → (s.client id).scope.slot = some st

/-- A session that is in place has its loop. -/
theorem InSession.listener (h : s.InSession id token st) (hl : s.Looped) :
    (s.stream st).listener = some (id, token) := by
  obtain ⟨token', ht, hlist⟩ := hl.slots id st h.2
  rw [h.1] at ht
  cases ht
  exact hlist

/-- A session that is in place has its own stream. -/
theorem InSession.recalls (h : s.InSession id token st) (hv : s.Valid) (hl : s.Looped) :
    s.Recalls id token st := by
  have hlist := h.listener hl
  refine ⟨Nat.lt_of_not_le fun hle => ?_, fun l hm => ?_, (hv.scopes id).lt_begun h.1, fun _ => h.2⟩
  · rw [hl.fresh st hle] at hlist
    cases hlist
  · rw [hlist] at hm
    exact (Option.some.inj hm).symm

/-- Two sessions that have been in place are on the same stream only if they are the same. -/
theorem Recalls.stream_eq_iff (h : s.Recalls id token st) (h' : s.InSession id' token' st')
    (hl : s.Looped) : st' = st ↔ id' = id ∧ token' = token := by
  constructor
  · rintro rfl
    have he := h.sole _ (h'.listener hl)
    exact ⟨congrArg Prod.fst he, congrArg Prod.snd he⟩
  · rintro ⟨rfl, rfl⟩
    exact Option.some.inj (h'.2.symm.trans (h.slot h'.1))

/-- The loop that takes a frame stays. -/
theorem Takes.listener_eq {h : Hearing} (ht : s.Takes h t) (st : StreamId) :
    (t.stream st).listener = (s.stream st).listener := by
  by_cases he : h.stream = st
  · rw [← he, ht.stream]
  · rw [ht.streams st he]

/-- A frame that is taken does not reach a switch. -/
theorem Takes.switch_eq {h : Hearing} (ht : s.Takes h t) (n : SwitchName) :
    t.switch n = s.switch n := by
  rw [System.switch, ht.switches]
  rfl

/-- A stream that has lost its loop stays deaf. -/
theorem Takes.deaf {h : Hearing} (ht : s.Takes h t) (hd : (s.stream st).Deaf) :
    (t.stream st).Deaf := by
  rwa [ht.streams]
  rintro rfl
  have hl := ht.listener
  rw [hd.listener] at hl
  cases hl

end System

namespace Scenario

variable {x : Scenario} {m : Move} {id : ClientId} {token : Token} {st : StreamId}

/-! ### Along a run -/

/-- The frames that are taken in a run. -/
def hearings (x : Scenario) : List Move → List Hearing
  | [] => []
  | m :: ms => (x.hearing? m).toList ++ (x.make m).hearings ms

/-- What comes in on a stream in a move: what waits there behind what has waited before. -/
def arrivals (x : Scenario) (st : StreamId) (m : Move) : List (Arrival StreamResponse) :=
  ((x.make m).system.stream st).downlink.frames.drop (x.system.stream st).downlink.frames.length

/-- What comes in on a stream in a run. -/
def came (x : Scenario) (st : StreamId) : List Move → List (Arrival StreamResponse)
  | [] => []
  | m :: ms => x.arrivals st m ++ (x.make m).came st ms

/-- What is taken on one stream. -/
def heardOn (st : StreamId) (hs : List Hearing) : List Hearing :=
  hs.filter fun h => decide (h.stream = st)

/-- What is taken in one session. -/
def heardIn (id : ClientId) (token : Token) (hs : List Hearing) : List Hearing :=
  hs.filter fun h => decide (h.client = id ∧ h.token = token)

/-- The frames that are taken, in two parts of a run. -/
theorem hearings_append (x : Scenario) (ms ns : List Move) :
    x.hearings (ms ++ ns) = x.hearings ms ++ (x.after ms).hearings ns := by
  induction ms generalizing x with
  | nil => rfl
  | cons m rest ih => simp only [List.cons_append, hearings, ih, after_cons, List.append_assoc]

/-- The frames that come in, in two parts of a run. -/
theorem came_append (x : Scenario) (st : StreamId) (ms ns : List Move) :
    x.came st (ms ++ ns) = x.came st ms ++ (x.after ms).came st ns := by
  induction ms generalizing x with
  | nil => rfl
  | cons m rest ih => simp only [List.cons_append, came, ih, after_cons, List.append_assoc]

/-- Those taken on a stream, in two parts of a history. -/
theorem heardOn_append (st : StreamId) (hs hs' : List Hearing) :
    heardOn st (hs ++ hs') = heardOn st hs ++ heardOn st hs' := List.filter_append ..

/-- Those taken in a session, in two parts of a history. -/
theorem heardIn_append (id : ClientId) (token : Token) (hs hs' : List Hearing) :
    heardIn id token (hs ++ hs') = heardIn id token hs ++ heardIn id token hs' :=
  List.filter_append ..

/-- What is posted about frames is what is posted for those that are taken. -/
theorem inbound_after (hv : x.Valid) (ms : List Move) :
    (x.after ms).system.inbound = x.system.inbound ++ (x.hearings ms).flatMap Hearing.events := by
  induction ms generalizing x with
  | nil => simp [hearings]
  | cons m rest ih =>
    rw [after_cons, ih (hv.make m), hearings, List.flatMap_append, ← List.append_assoc]
    congr 1
    cases hh : x.hearing? m with
    | none => simp [inbound_make hv hh]
    | some h => simp [(takes_make hv hh).inbound]

/-! ### Sessions keep their streams -/

/-- A session that has been in place keeps its stream in a move. -/
theorem recalls_make (hv : x.Valid) (ht : x.Tuned) (m : Move)
    (h : x.system.Recalls id token st) : (x.make m).system.Recalls id token st := by
  obtain ⟨hb, hscope⟩ := scope_make hv m id
  have hslot : ((x.make m).system.client id).scope.current = some token →
      ((x.make m).system.client id).scope.slot = some st := by
    intro hc
    have he := hscope token h.begun hc
    rw [he] at hc ⊢
    exact h.slot hc
  have hbegun := Nat.lt_of_lt_of_le h.begun hb
  cases hh : x.hearing? m with
  | none =>
    have hm := feeds_make hv ht hh
    exact ⟨Nat.lt_of_lt_of_le h.set (hm.count _),
      fun l hl => h.sole l ((hm.fares st h.set).hears l hl).1, hbegun, hslot⟩
  | some a =>
    have hm := takes_make hv hh
    exact ⟨by rw [hm.switch_eq]; exact h.set, fun l hl => h.sole l (hm.listener_eq st ▸ hl), hbegun,
      hslot⟩

/-- Users' streams stay unread along a run. -/
theorem Tuned.after (ht : x.Tuned) (hv : x.Valid) (ms : List Move) : (x.after ms).Tuned := by
  induction ms generalizing x with
  | nil => exact ht
  | cons m rest ih => exact ih (ht.make hv m) (hv.make m)

/-- A session that has been in place keeps its stream along a run. -/
theorem recalls_after (hv : x.Valid) (ht : x.Tuned) (h : x.system.Recalls id token st)
    (ms : List Move) : (x.after ms).system.Recalls id token st := by
  induction ms generalizing x with
  | nil => exact h
  | cons m rest ih => exact ih (hv.make m) (ht.make hv m) (recalls_make hv ht m h)

/-- The frames that are taken after a session has been in place. -/
theorem stream_of_later (hv : x.Valid) (ht : x.Tuned) (h : x.system.Recalls id token st)
    (ms : List Move) :
    ∀ a ∈ x.hearings ms, a.stream = st ↔ a.client = id ∧ a.token = token := by
  induction ms generalizing x with
  | nil => simp [hearings]
  | cons m rest ih =>
    intro a ha
    rcases List.mem_append.mp ha with ha | ha
    · have hm : x.hearing? m = some a := Option.mem_toList.mp ha
      exact h.stream_eq_iff (takes_make hv hm).session ht.looped
    · exact ih (hv.make m) (ht.make hv m) (recalls_make hv ht m h) a ha

/-- The sessions in which frames have been taken are recalled. -/
theorem recalls_of_earlier (hv : x.Valid) (ht : x.Tuned) (ms : List Move) :
    ∀ a ∈ x.hearings ms, (x.after ms).system.Recalls a.client a.token a.stream := by
  induction ms generalizing x with
  | nil => simp [hearings]
  | cons m rest ih =>
    intro a ha
    rcases List.mem_append.mp ha with ha | ha
    · have hm : x.hearing? m = some a := Option.mem_toList.mp ha
      have hs := (takes_make hv hm).session.recalls hv.system ht.looped
      exact recalls_after (hv.make m) (ht.make hv m) (recalls_make hv ht m hs) rest
    · exact ih (hv.make m) (ht.make hv m) a ha

/-- The frames that are taken on the stream of a session are those that are taken in it. -/
theorem stream_iff (hv : x.Valid) (ht : x.Tuned) (ns rest : List Move)
    (h : (x.after ns).system.InSession id token st) :
    ∀ a ∈ x.hearings (ns ++ rest), a.stream = st ↔ a.client = id ∧ a.token = token := by
  have hv' := hv.after ns
  have ht' := ht.after hv ns
  intro a ha
  rw [hearings_append] at ha
  rcases List.mem_append.mp ha with ha | ha
  · -- the session of a frame that has been taken before keeps its stream until now
    have hr := recalls_of_earlier hv ht ns a ha
    have he := hr.stream_eq_iff h ht'.looped
    rw [eq_comm (a := a.stream), he, eq_comm (a := id), eq_comm (a := token)]
  · exact stream_of_later hv' ht' (h.recalls hv'.system ht'.looped) rest a ha

/-! ### What has come in -/

/-- What has come in has been taken, except for what is left; and as long as an inbound loop is there
to take it, this is what waits. -/
structure Keeps (x : Scenario) (hs : List Hearing) (got : StreamId → List (Arrival StreamResponse)) :
    Prop where
  /-- Nothing has come in on a stream that has not been set up. -/
  fresh : ∀ st, (x.system.switch st.switch).streamCount ≤ st.serial →
    (x.system.stream st).Deaf ∧ heardOn st hs = [] ∧ got st = []
  kept : ∀ st, ∃ left, got st = (heardOn st hs).map (.item ·.frame) ++ left ∧
    ((x.system.stream st).listener.isSome = true → left = (x.system.stream st).downlink.frames)
  heedful : x.system.Heedful

variable {hs : List Hearing} {got : StreamId → List (Arrival StreamResponse)}

/-- Nobody takes a frame. -/
theorem Keeps.feeds (h : x.Keeps hs got) (ht : System.Feeds x.system (x.make m).system) :
    (x.make m).Keeps hs fun st => got st ++ x.arrivals st m where
  fresh st hle := by
    obtain ⟨hd, hn, hg⟩ := h.fresh st (Nat.le_trans (ht.count _) hle)
    have hd' := ht.fresh st hle hd
    refine ⟨hd', hn, ?_⟩
    rw [hg, arrivals, hd'.frames, List.drop_nil, List.append_nil]
  kept st := by
    obtain ⟨left, hg, hl⟩ := h.kept st
    refine ⟨left ++ x.arrivals st m, by rw [hg, List.append_assoc], fun hs => ?_⟩
    obtain ⟨l, hw⟩ := Option.isSome_iff_exists.mp hs
    by_cases hset : st.serial < (x.system.switch st.switch).streamCount
    · obtain ⟨hv, more, hf⟩ := (ht.fares st hset).hears l hw
      rw [hl (by rw [hv]; rfl), arrivals, hf, List.drop_left]
    · -- the stream is set up in this move, with all that waits on it
      obtain ⟨hd, hn, hg'⟩ := h.fresh st (Nat.le_of_not_lt hset)
      rw [hg', hn] at hg
      rw [show left = [] from hg.symm, arrivals, hd.frames]
      rfl
  heedful := ht.heedful h.heedful

/-- An inbound loop takes a frame. -/
theorem Keeps.takes (h : x.Keeps hs got) {a : Hearing}
    (ht : x.system.Takes a (x.make m).system) :
    (x.make m).Keeps (hs ++ [a]) fun st => got st ++ x.arrivals st m := by
  have hset : a.stream.serial < (x.system.switch a.stream.switch).streamCount := by
    refine Nat.lt_of_not_le fun hle => ?_
    have hl := ht.listener
    rw [(h.fresh a.stream hle).1.listener] at hl
    cases hl
  have hframes : (x.system.stream a.stream).downlink.frames =
      .item a.frame :: ((x.make m).system.stream a.stream).downlink.frames := by
    rw [ht.stream]
  have harr : ∀ st, x.arrivals st m = [] := by
    intro st
    refine List.drop_eq_nil_of_le ?_
    by_cases he : a.stream = st
    · rw [← he, hframes]
      exact Nat.le_succ _
    · exact Nat.le_of_eq (by rw [ht.streams st he])
  have hother : ∀ st, a.stream ≠ st → heardOn st (hs ++ [a]) = heardOn st hs := by
    intro st hne
    have hnone : heardOn st [a] = [] := by simp [heardOn, hne]
    rw [heardOn_append, hnone, List.append_nil]
  refine ⟨fun st hle => ?_, fun st => ?_, fun st hb => ?_⟩
  · rw [ht.switch_eq] at hle
    have hne : a.stream ≠ st := by
      rintro rfl
      exact Nat.lt_irrefl _ (Nat.lt_of_lt_of_le hset hle)
    obtain ⟨hd, hn, hg⟩ := h.fresh st hle
    refine ⟨ht.deaf hd, by rw [hother st hne, hn], by rw [hg, harr]; rfl⟩
  · obtain ⟨left, hg, hl⟩ := h.kept st
    rw [harr, List.append_nil]
    by_cases he : a.stream = st
    · subst he
      refine ⟨((x.make m).system.stream a.stream).downlink.frames, ?_, fun _ => rfl⟩
      rw [hg, hl (by rw [ht.listener]; rfl), hframes, heardOn_append, List.map_append,
        List.append_assoc]
      simp [heardOn]
    · refine ⟨left, by rw [hg, hother st he], fun hs => ?_⟩
      rw [ht.streams st he] at hs ⊢
      exact hl hs
  · -- the loop that has taken a frame has not left the queue
    rw [ht.ready]
    refine h.heedful st ?_
    by_cases he : a.stream = st
    · subst he
      exact ⟨a.client, a.token, ht.listener, .inr (.inl (by rw [hframes]; simp))⟩
    · exact hb.mono (by rw [ht.streams st he]) (by rw [ht.streams st he]) (by rw [ht.streams st he])
        fun id => by rw [ht.scopes]

/-- In a move, what comes in is taken or waits behind the rest. -/
theorem Keeps.make (h : x.Keeps hs got) (hv : x.Valid) (ht : x.Tuned) (m : Move) :
    (x.make m).Keeps (hs ++ (x.hearing? m).toList) fun st => got st ++ x.arrivals st m := by
  cases hh : x.hearing? m with
  | none =>
    rw [Option.toList_none, List.append_nil]
    exact h.feeds (feeds_make hv ht hh)
  | some a => exact h.takes (takes_make hv hh)

/-- So it is along a run. -/
theorem Keeps.after (h : x.Keeps hs got) (hv : x.Valid) (ht : x.Tuned) (ms : List Move) :
    (x.after ms).Keeps (hs ++ x.hearings ms) fun st => got st ++ x.came st ms := by
  induction ms generalizing x hs got with
  | nil => simpa [hearings, came] using h
  | cons m rest ih =>
    have hrest := ih (h.make hv ht m) (hv.make m) (ht.make hv m)
    simpa only [hearings, came, after_cons, List.append_assoc] using hrest

/-- Nothing has come in at the start. -/
theorem keeps_initial (devices : List String) (confs : List Pipeconf)
    (bindings : List (String × PipeconfId)) (config : ConfigChange) (capacity : Nat) :
    (initial devices confs bindings config capacity).Keeps [] fun _ => [] where
  fresh _ _ := ⟨Stream.deaf_dead, rfl, rfl⟩
  kept _ := ⟨[], rfl, by rintro ⟨⟩⟩
  heedful _ hb := absurd hb (System.not_busy_of_none rfl)

end Scenario

end P4Control
