import P4Control.Proofs.Standing

namespace P4Control

/-!
# The passages of sessions

A session scope begins, may open, and ends, by a close or in failure.  What is posted about
sessions follows from the order of these passages alone.

* `Passage`, `Chronicle` — the passages of the scopes of all clients.
* `phaseOf` — how far the last scope of a client has come; passages out of order have no phase.
* `eventOf`, `eventsFrom` — the events that a passage calls for.
* `Tells` — the scopes of a client are as its passages say.
* `trace` — the passages of a client in a sequence of incidents.
* `scope_foldl` — a scope that has begun before them and is in place afterwards has been left alone.
* `Leads.tells`, `Leads.posts` — incidents post the events that their passages call for.
-/

/-! ### Chronicles -/

/-- How a scope ends. -/
inductive Ending where
  | closed
  /-- In failure; the reason is that of an unavailable channel. -/
  | failed (reason : Option String)
deriving DecidableEq

/-- What a scope goes through. -/
inductive Passage where
  | began
  /-- The session opened. -/
  | opened
  | ended (how : Ending)
deriving DecidableEq

/-- The passages of all clients, in the order in which they came. -/
abbrev Chronicle := List (ClientId × Passage)

/-- The passages of one client. -/
def passagesOf (id : ClientId) (h : Chronicle) : List Passage :=
  (h.filter fun p => decide (p.1 = id)).map (·.2)

/-- The ending that a passage is. -/
def Passage.ending? : Passage → Option Ending
  | ended how => some how
  | _ => none

/-- Whether the scope that ended last ended in failure. -/
def endedInFailure (ps : List Passage) : Bool :=
  match (ps.filterMap Passage.ending?).getLast? with
  | some (.failed _) => true
  | _ => false

/-- Whether the session is open after some passages. -/
def isOpenAfter (ps : List Passage) : Bool := ps.getLast? = some .opened

/-- The events that a passage calls for after those of the same client in the past. -/
def eventOf (device : DeviceId) (past : List Passage) : Passage → List Event
  | .began => []
  | .opened =>
    [if endedInFailure past then .channelReconnected device else .channelOpen device]
  | .ended .closed => if isOpenAfter past then [.channelClosed device] else []
  | .ended (.failed (some reason)) => [.channelError device reason]
  | .ended (.failed none) => []

/-- The events that passages of one client call for, one by one. -/
def eventsOf (device : DeviceId) (past : List Passage) : List Passage → List Event
  | [] => []
  | p :: rest => eventOf device past p ++ eventsOf device (past ++ [p]) rest

/-- The events that the passages of all clients call for, one by one. -/
def eventsFrom (past : Chronicle) : Chronicle → List Event
  | [] => []
  | p :: rest => eventOf p.1.device (passagesOf p.1 past) p.2 ++ eventsFrom (past ++ [p]) rest

/-- How far the last scope of a client has come. -/
inductive Phase where
  | closed
  | begun
  | open
deriving DecidableEq

/-- A scope begins after the one before has ended, opens at most once, and ends once. -/
def Phase.next : Phase → Passage → Option Phase
  | closed, .began => some begun
  | begun, .opened => some .open
  | begun, .ended _ | .open, .ended _ => some closed
  | _, _ => none

/-- How far the last scope has come after some passages, if they came in order. -/
def phaseOf (ps : List Passage) : Option Phase := ps.foldlM Phase.next .closed

/-! ### One more passage -/

/-- The passages of a client in two chronicles come one after the other. -/
theorem passagesOf_append (id : ClientId) (h k : Chronicle) :
    passagesOf id (h ++ k) = passagesOf id h ++ passagesOf id k := by
  unfold passagesOf
  rw [List.filter_append, List.map_append]

/-- What is told of one client is nothing about another. -/
theorem passagesOf_map (id id' : ClientId) (ps : List Passage) :
    passagesOf id (ps.map fun p => (id', p)) = if id' = id then ps else [] := by
  unfold passagesOf
  induction ps with
  | nil => simp
  | cons p rest ih =>
    by_cases h : id' = id
    · simp_all
    · rw [List.map_cons, List.filter_cons, if_neg (by simpa using h), ih, if_neg h, if_neg h]

/-- The events of a longer chronicle are those of its parts, the later told from the earlier. -/
theorem eventsFrom_append (past h k : Chronicle) :
    eventsFrom past (h ++ k) = eventsFrom past h ++ eventsFrom (past ++ h) k := by
  induction h generalizing past with
  | nil => simp [eventsFrom]
  | cons p rest ih =>
    rw [List.cons_append, eventsFrom, eventsFrom, ih, List.append_assoc, List.append_assoc]
    rfl

/-- The events of more passages are those of their parts, the later told from the earlier. -/
theorem eventsOf_append (device : DeviceId) (past ps qs : List Passage) :
    eventsOf device past (ps ++ qs) = eventsOf device past ps ++ eventsOf device (past ++ ps) qs := by
  induction ps generalizing past with
  | nil => simp [eventsOf]
  | cons p rest ih =>
    rw [List.cons_append, eventsOf, eventsOf, ih, List.append_assoc, List.append_assoc]
    rfl

/-- While the passages are those of one client, the others do not matter. -/
theorem eventsFrom_map (past : Chronicle) (id : ClientId) (ps : List Passage) :
    eventsFrom past (ps.map fun p => (id, p)) = eventsOf id.device (passagesOf id past) ps := by
  induction ps generalizing past with
  | nil => rfl
  | cons p rest ih =>
    have hp : passagesOf id [(id, p)] = [p] := by
      rw [show [(id, p)] = [p].map fun p => (id, p) from rfl, passagesOf_map, if_pos rfl]
    rw [List.map_cons, eventsFrom, ih, passagesOf_append, hp, eventsOf]

/-- The phase after one more passage is the next one. -/
theorem phaseOf_concat (ps : List Passage) (p : Passage) :
    phaseOf (ps ++ [p]) = (phaseOf ps).bind fun phase => phase.next p := by
  unfold phaseOf
  rw [List.foldlM_append]
  simp

/-- Only an end decides anew whether the last scope ended in failure. -/
theorem endedInFailure_concat (ps : List Passage) (p : Passage) :
    endedInFailure (ps ++ [p]) =
      match p with
      | .ended (.failed _) => true
      | .ended .closed => false
      | _ => endedInFailure ps := by
  unfold endedInFailure
  rw [List.filterMap_append]
  rcases p with _ | _ | _ | _ <;> simp [Passage.ending?]

/-- A session is open just after it has opened, and after no other passage. -/
theorem isOpenAfter_concat (ps : List Passage) (p : Passage) :
    isOpenAfter (ps ++ [p]) = decide (p = .opened) := by
  unfold isOpenAfter
  rw [List.getLast?_concat]
  simp

/-- A session is open exactly in the phase of that name. -/
theorem isOpenAfter_iff {ps : List Passage} {phase : Phase} (h : phaseOf ps = some phase) :
    isOpenAfter ps = decide (phase = .open) := by
  rcases List.eq_nil_or_concat ps with rfl | ⟨qs, p, rfl⟩
  · cases h
    rfl
  · rw [List.concat_eq_append, phaseOf_concat, Option.bind_eq_some_iff] at h
    obtain ⟨before, -, hn⟩ := h
    rw [List.concat_eq_append, isOpenAfter_concat]
    cases before <;> cases p <;> cases hn <;> rfl

/-! ### Scopes and their passages -/

/-- How far the last scope has come. -/
def Scope.phase {α : Type} (s : Scope α) : Phase :=
  match s.current with
  | none => .closed
  | some _ => if s.isOpen then .open else .begun

/-- The scopes of a client are as its passages say. -/
structure Tells (c : Scope StreamId) (ps : List Passage) : Prop where
  phase : phaseOf ps = some c.phase
  /-- A scope in place has used up what was known of the failure of the one before. -/
  failed : c.failed = (c.current.isNone && endedInFailure ps)

/-- Before the first scope. -/
theorem tells_default : Tells default [] := ⟨rfl, rfl⟩

/-- Without a scope the session is closed. -/
theorem Scope.phase_of_none {α : Type} {s : Scope α} (h : s.current = none) : s.phase = .closed := by
  unfold Scope.phase
  rw [h]

/-- With a scope in place the session is open, or the scope has only begun. -/
theorem Scope.phase_of_some {α : Type} {s : Scope α} {token : Token} (h : s.current = some token) :
    s.phase = if s.isOpen then .open else .begun := by
  unfold Scope.phase
  rw [h]

/-- A session is open if its passages say so. -/
theorem Tells.isOpen {c : Scope StreamId} {ps : List Passage} (h : Tells c ps) (hv : c.Valid) :
    c.isOpen = isOpenAfter ps := by
  rw [isOpenAfter_iff h.phase]
  cases hc : c.current with
  | none =>
    rw [Scope.phase_of_none hc, hv.isOpen_eq_false (hv.slot_eq_none hc)]
    rfl
  | some token =>
    rw [Scope.phase_of_some hc]
    cases c.isOpen <;> rfl

/-- A scope begins. -/
theorem Tells.next {c : Scope StreamId} {ps : List Passage} (h : Tells c ps) (hv : c.Valid)
    (hc : c.current = none) : Tells c.next (ps ++ [.began]) := by
  refine ⟨?_, rfl⟩
  rw [phaseOf_concat, h.phase, Scope.phase_of_none hc]
  have ho : c.next.isOpen = false := hv.isOpen_eq_false (hv.slot_eq_none hc)
  rw [Scope.phase_of_some (s := c.next) rfl, ho]
  rfl

/-- A scope that has begun opens. -/
theorem Tells.install {c : Scope StreamId} {ps : List Passage} (h : Tells c ps) {token : Token}
    (hc : c.current = some token) (ho : c.isOpen = false) (st : StreamId) :
    Tells (c.install st) (ps ++ [.opened]) := by
  have hi : (c.install st).current = some token := hc
  refine ⟨?_, ?_⟩
  · rw [phaseOf_concat, h.phase, Scope.phase_of_some hc, ho, Scope.phase_of_some hi]
    rfl
  · have hf := h.failed
    rw [hc] at hf
    rw [hi]
    exact hf

/-- The scope in place ends in failure. -/
theorem Tells.ruin {c : Scope StreamId} {ps : List Passage} (h : Tells c ps) {token : Token}
    (hc : c.current = some token) (reason : Option String) :
    Tells (c.ruin token) (ps ++ [.ended (.failed reason)]) := by
  refine ⟨?_, ?_⟩
  · rw [phaseOf_concat, h.phase, Scope.phase_of_some hc, Scope.phase_of_none rfl]
    cases c.isOpen <;> rfl
  · rw [endedInFailure_concat]
    rfl

/-- What a close does to the scope in place, if there is one. -/
def closing (c : Scope StreamId) : List Passage :=
  if c.current.isSome then [.ended .closed] else []

/-- A closed scope is told by one more end, if there was one in place. -/
theorem Tells.close {c : Scope StreamId} {ps : List Passage} (h : Tells c ps) :
    Tells c.close.2 (ps ++ closing c) := by
  unfold closing
  cases hc : c.current with
  | none =>
    rw [Scope.close_of_none hc, if_neg (by simp), List.append_nil]
    exact ⟨h.phase, h.failed⟩
  | some token =>
    rw [Scope.close_of_current hc, if_pos (by simp)]
    have hf := h.failed
    rw [hc] at hf
    refine ⟨?_, ?_⟩
    · rw [phaseOf_concat, h.phase, Scope.phase_of_some hc, Scope.phase_of_none rfl]
      cases c.isOpen <;> rfl
    · rw [endedInFailure_concat]
      exact hf

/-- A close is an event while the session is open. -/
theorem Tells.posts_close {c : Scope StreamId} {ps : List Passage} (h : Tells c ps) (hv : c.Valid)
    (device : DeviceId) :
    eventsOf device ps (closing c) = if c.close.1 then [.channelClosed device] else [] := by
  unfold closing
  cases hc : c.current with
  | none =>
    rw [Scope.close_of_none hc]
    rfl
  | some token =>
    rw [Scope.close_of_current hc, if_pos (by simp), h.isOpen hv]
    simp [eventsOf, eventOf]

/-- The event of a session that opens tells whether the one before has failed. -/
theorem Tells.posts_opened {c : Scope StreamId} {ps : List Passage} (h : Tells c ps)
    (hc : c.current = none) (device : DeviceId) :
    eventsOf device ps [.began, .opened] =
      [if c.failed then .channelReconnected device else .channelOpen device] := by
  have hf := h.failed
  rw [hc] at hf
  rw [hf]
  simp [eventsOf, eventOf, endedInFailure_concat]

/-! ### The passages of incidents -/

namespace Incident

/-- The client whose scope begins, opens or ends by an incident. -/
def subject? : Incident → Option ClientId
  | .began id _ _ | .opened id _ _ _ | .closed id _ | .released id _ | .lost id _ _ => some id
  | _ => none

/-- The passages of the scopes of the client `id`, which are as in `c`, by an incident. -/
def passages (id : ClientId) (c : Standing) : Incident → List Passage
  | .began id' _ _ => if id' = id then [.began] else []
  | .opened id' _ _ _ => if id' = id then [.began, .opened] else []
  | .closed id' _ | .released id' _ => if id' = id then closing c.scope else []
  | .lost id' _ reason => if id' = id then [.ended (.failed reason)] else []
  | _ => []

/-- An incident concerns the scopes of no client but `id`. -/
def Concerns (id : ClientId) (i : Incident) : Prop := ∀ id', i.subject? = some id' → id' = id

/-- An incident that concerns one client has no other as its subject. -/
theorem Concerns.subject?_ne {i : Incident} {id id' : ClientId} (h : i.Concerns id)
    (hne : id' ≠ id) : i.subject? ≠ some id' := fun hs => hne (h id' hs)

/-- An incident without a subject concerns any client alike. -/
theorem concerns_of_none {i : Incident} (h : i.subject? = none) (id : ClientId) : i.Concerns id := by
  intro id' hs
  rw [h] at hs
  cases hs

end Incident

/-- The passages of the client `id`, whose standing is `c` before, in a sequence of incidents. -/
def trace (id : ClientId) (c : Standing) : List Incident → List Passage
  | [] => []
  | i :: is => i.passages id c ++ trace id (i.affect id c) is

/-- The passages of more incidents are those of their parts, the later told from where the earlier
leave off. -/
theorem trace_append (id : ClientId) (c : Standing) (is js : List Incident) :
    trace id c (is ++ js) = trace id c is ++ trace id (is.foldl (Incident.affect id) c) js := by
  induction is generalizing c with
  | nil => rfl
  | cons i rest ih => rw [List.cons_append, trace, trace, ih, List.append_assoc, List.foldl_cons]

/-- An incident with another subject leaves the scopes of a client alone. -/
theorem Incident.affect_of_subject?_ne {i : Incident} {id : ClientId} (h : i.subject? ≠ some id)
    (c : Standing) : i.passages id c = [] ∧ (i.affect id c).scope = c.scope := by
  have other : ∀ id', i.subject? = some id' → id' ≠ id := by
    rintro id' hs rfl
    exact h hs
  cases i with
  | began id' _ _ => simp [passages, affect, other id' rfl]
  | opened id' _ _ _ => simp [passages, affect, other id' rfl]
  | closed id' _ => simp [passages, affect, other id' rfl]
  | released id' _ => simp [passages, affect, other id' rfl]
  | lost id' _ _ => simp [passages, affect, other id' rfl]
  -- these change a client in other respects, but not its scope
  | created id' key =>
    refine ⟨rfl, ?_⟩
    simp only [affect]
    split <;> rfl
  | claimed id' election =>
    refine ⟨rfl, ?_⟩
    simp only [affect]
    split <;> rfl
  | heard id' st frame =>
    refine ⟨rfl, ?_⟩
    cases frame with
    | arbitration update =>
      simp only [affect]
      split <;> rfl
    | error e => rfl
    | packet wire => rfl
  | _ => exact ⟨rfl, rfl⟩

/-- Incidents about other clients leave no passage of a client, and its scope as it is. -/
theorem trace_of_subject?_ne {is : List Incident} {id : ClientId}
    (h : ∀ i ∈ is, i.subject? ≠ some id) (c : Standing) :
    trace id c is = [] ∧ (is.foldl (Incident.affect id) c).scope = c.scope := by
  induction is generalizing c with
  | nil => exact ⟨rfl, rfl⟩
  | cons i rest ih =>
    obtain ⟨hp, hs⟩ := Incident.affect_of_subject?_ne (h i List.mem_cons_self) c
    obtain ⟨ht, hr⟩ := ih (fun j hj => h j (List.mem_cons_of_mem _ hj)) (i.affect id c)
    exact ⟨by rw [trace, hp, ht, List.append_nil], by rw [List.foldl_cons, hr, hs]⟩

/-! ### Scopes that stay in place -/

/-- An incident leaves a scope alone that has begun before and is in place afterwards. -/
theorem Incident.scope_affect (i : Incident) (id : ClientId) {c : Standing} {token : Token}
    (hb : token < c.scope.begun) (hc : (i.affect id c).scope.current = some token) :
    (i.affect id c).scope = c.scope := by
  by_cases hs : i.subject? = some id
  · cases i with
    | began | opened =>
      cases hs
      simp only [affect, if_true] at hc
      cases hc
      exact absurd hb (Nat.lt_irrefl _)
    | closed | released =>
      cases hs
      simp only [affect, if_true] at hc
      unfold Scope.close at hc
      split at hc
      · cases hc
      · next hn =>
        rw [show c.scope.current = some token from hc] at hn
        cases hn
    | lost =>
      cases hs
      simp only [affect, if_true] at hc
      cases hc
    | _ => cases hs
  · exact (Incident.affect_of_subject?_ne hs c).2

/-- So does a sequence of incidents. -/
theorem scope_foldl (is : List Incident) (id : ClientId) {c : Standing} {token : Token}
    (hb : token < c.scope.begun)
    (hc : (is.foldl (Incident.affect id) c).scope.current = some token) :
    (is.foldl (Incident.affect id) c).scope = c.scope := by
  induction is generalizing c with
  | nil => rfl
  | cons i rest ih =>
    have hrest := ih (Nat.lt_of_lt_of_le hb (i.begun_affect id c)) hc
    have hi : (i.affect id c).scope.current = some token := by rwa [← hrest]
    exact hrest.trans (i.scope_affect id hb hi)

namespace System

variable {s t : System}

/-- Clients go by the names of their devices. -/
def Named (s : System) : Prop := ∀ id, s.Knows id → s.deviceOf id = id.device

/-- A quiet change does not rename any device. -/
theorem Quiet.named (q : Quiet s t) (hn : s.Named) : t.Named := by
  intro id hk
  unfold deviceOf
  rw [q.key]
  exact hn id ((q.knows id).mp hk)

/-- No incident renames a device. -/
theorem Happens.named {i : Incident} (hi : Happens s i t) (hv : s.Valid) (hn : s.Named) :
    t.Named := by
  intro id hk
  by_cases hs : s.Knows id
  · unfold deviceOf
    rw [hi.key hv hs]
    exact hn id hs
  · unfold Knows at hk
    rw [hi.keys hv] at hk
    have hm : id ∈ i.newcomers := (List.mem_append.mp hk).resolve_left hs
    -- only a creation has newcomers
    cases hi with
    | created key switch config =>
      rw [List.mem_singleton.mp hm]
      unfold deviceOf
      rw [client_newClient, if_pos rfl]
      rfl
    | _ => cases hm

/-- No sequence of incidents renames a device. -/
theorem Leads.named {is : List Incident} (l : Leads s is t) (hv : s.Valid) (hn : s.Named) :
    t.Named := by
  induction l with
  | refl s => exact hn
  | quiet q _ ih => exact ih (q.valid hv) (q.named hn)
  | cons hi _ ih => exact ih (hi.valid hv) (hi.named hv hn)

/-- A scope begins and opens. -/
theorem tells_goLive {id id' : ClientId} {token : Token} {afterFailure : Bool}
    {begun : Scope StreamId} {ps : List Passage} (hv : s.Valid)
    (hb : (s.client id').scope.begin = some (token, afterFailure, begun)) (st : StreamId)
    (ht : Tells (s.client id).scope ps) :
    Tells ((Incident.opened id' token afterFailure st).affect id (s.client id).standing).scope
      (ps ++ (Incident.opened id' token afterFailure st).passages id (s.client id).standing) := by
  obtain ⟨hc, -⟩ := Scope.begin_eq_some hb
  simp only [Incident.affect, Incident.passages]
  split
  · next h =>
    subst h
    have hbegun := ht.next (hv.scopes id') hc
    have ho : (s.client id').scope.next.isOpen = false :=
      (hv.scopes id').isOpen_eq_false ((hv.scopes id').slot_eq_none hc)
    have hopen := hbegun.install rfl ho st
    rwa [List.append_assoc] at hopen
  · rw [List.append_nil]
    exact ht

/-- Every incident takes the scopes of a client through its passages. -/
theorem Happens.tells {i : Incident} (hi : Happens s i t) (hv : s.Valid) {id : ClientId}
    {ps : List Passage} (ht : Tells (s.client id).scope ps) :
    Tells (t.client id).scope (ps ++ i.passages id (s.client id).standing) := by
  have hs : (t.client id).scope = (i.affect id (s.client id).standing).scope :=
    congrArg Standing.scope (hi.standing hv id)
  rw [hs]
  -- an incident without a subject is not about the scopes of anyone
  have calm : i.subject? = none → Tells (i.affect id (s.client id).standing).scope
      (ps ++ i.passages id (s.client id).standing) := by
    intro hn
    have hne : i.subject? ≠ some id := by simp [hn]
    obtain ⟨hp, hc⟩ := Incident.affect_of_subject?_ne hne (s.client id).standing
    rw [hp, hc, List.append_nil]
    exact ht
  have lost : ∀ (id' : ClientId) (token : Token) (reason : Option String),
      (s.client id').scope.current = some token →
      Tells ((Incident.lost id' token reason).affect id (s.client id).standing).scope
        (ps ++ (Incident.lost id' token reason).passages id (s.client id).standing) := by
    intro id' token reason hc
    simp only [Incident.affect, Incident.passages]
    split
    · next h =>
      subst h
      exact ht.ruin hc reason
    · rw [List.append_nil]
      exact ht
  have close : ∀ id' : ClientId,
      Tells (if id' = id then
          (⟨(s.client id).key, (s.client id).scope.close.2, (s.client id).arbiter.lastUsed,
            .notMaster⟩ : Standing)
        else (s.client id).standing).scope
        (ps ++ if id' = id then closing (s.client id).scope else []) := by
    intro id'
    split
    · exact ht.close
    · rw [List.append_nil]
      exact ht
  cases hi with
  | began id' token afterFailure begun hk hb =>
    obtain ⟨hc, -⟩ := Scope.begin_eq_some hb
    simp only [Incident.affect, Incident.passages]
    split
    · next h =>
      subst h
      exact ht.next (hv.scopes id') hc
    · rw [List.append_nil]
      exact ht
  | opened id' token afterFailure begun activated capacity t st hk hb hc ha =>
    exact tells_goLive hv hb st ht
  | played id' token afterFailure begun activated capacity script rest t st hk hb hn hc ha =>
    exact tells_goLive hv hb st ht
  | closed id' hk => exact close id'
  | released id' hk hh => exact close id'
  | failed id' token hk hc => exact lost id' token none hc
  | unavailable id' token reason hk hc => exact lost id' token (some reason) hc
  | _ => exact calm rfl

/-- Every incident posts the events that its passages call for. -/
theorem Happens.posts {i : Incident} (hi : Happens s i t) (hv : s.Valid) (hn : s.Named)
    {id : ClientId} {ps : List Passage} (ht : Tells (s.client id).scope ps) (hi' : i.Concerns id) :
    t.lifecycle = s.lifecycle ++
      eventsOf id.device ps (i.passages id (s.client id).standing) := by
  rw [hi.lifecycle]
  congr 1
  -- Two incidents open a session and two close one; they differ in who is behind them, not in events.
  have opened : ∀ {token afterFailure begun} (st : StreamId), s.Knows id →
      (s.client id).scope.begin = some (token, afterFailure, begun) →
      (Incident.opened id token afterFailure st).events s.deviceOf =
        eventsOf id.device ps
          ((Incident.opened id token afterFailure st).passages id (s.client id).standing) := by
    intro token afterFailure begun st hk hb
    obtain ⟨hc, -, rfl, -⟩ := Scope.begin_eq_some hb
    rw [Incident.events, Incident.passages, if_pos rfl, hn id hk, ht.posts_opened hc]
  have close : s.Knows id →
      eventsOf id.device ps (if id = id then closing (s.client id).scope else []) =
        if (s.client id).scope.close.1 then [.channelClosed (s.deviceOf id)] else [] := by
    intro hk
    rw [if_pos rfl, hn id hk, ht.posts_close (hv.scopes id)]
  cases hi with
  | began id' token afterFailure begun hk hb =>
    rw [Incident.passages, if_pos (hi' id' rfl)]
    rfl
  | opened id' token afterFailure begun activated capacity t st hk hb hc ha =>
    obtain rfl := hi' id' rfl
    exact opened st hk hb
  | played id' token afterFailure begun activated capacity script rest t st hk hb hs hc ha =>
    obtain rfl := hi' id' rfl
    exact opened st hk hb
  | closed id' hk =>
    obtain rfl := hi' id' rfl
    refine Eq.trans ?_ (close hk).symm
    cases (s.client id').scope.close.1 <;> rfl
  | released id' hk hh =>
    obtain rfl := hi' id' rfl
    refine Eq.trans ?_ (close hk).symm
    cases (s.client id').scope.close.1 <;> rfl
  | failed id' token hk hc =>
    rw [Incident.passages, if_pos (hi' id' rfl)]
    rfl
  | unavailable id' token reason hk hc =>
    obtain rfl := hi' id' rfl
    rw [Incident.events, Incident.passages, if_pos rfl, hn id' hk]
    rfl
  | _ => rfl

/-- A sequence of incidents takes the scopes of a client through its passages. -/
theorem Leads.tells {is : List Incident} (l : Leads s is t) (hv : s.Valid) {id : ClientId}
    {ps : List Passage} (ht : Tells (s.client id).scope ps) :
    Tells (t.client id).scope (ps ++ trace id (s.client id).standing is) := by
  induction l generalizing ps with
  | refl s =>
    rw [trace, List.append_nil]
    exact ht
  | quiet q _ ih =>
    rw [← q.standing]
    exact ih (q.valid hv) (by rwa [q.scope])
  | @cons s u t i is hi _ ih =>
    rw [trace, ← List.append_assoc, ← hi.standing hv]
    exact ih (hi.valid hv) (hi.tells hv ht)

/-- A sequence of incidents that concerns one client posts the events that its passages call for. -/
theorem Leads.posts {is : List Incident} (l : Leads s is t) (hv : s.Valid) (hn : s.Named)
    {id : ClientId} {ps : List Passage} (ht : Tells (s.client id).scope ps)
    (hi : ∀ i ∈ is, i.Concerns id) :
    t.lifecycle = s.lifecycle ++ eventsOf id.device ps (trace id (s.client id).standing is) := by
  induction l generalizing ps with
  | refl s => simp [trace, eventsOf]
  | quiet q _ ih =>
    rw [ih (q.valid hv) (q.named hn) (by rwa [q.scope]) hi, q.lifecycle, q.standing]
  | @cons s u t i is h _ ih =>
    rw [ih (h.valid hv) (h.named hv hn) (h.tells hv ht) fun j hj => hi j (List.mem_cons_of_mem _ hj),
      h.posts hv hn ht (hi i List.mem_cons_self), trace, eventsOf_append, h.standing hv,
      List.append_assoc]

end System

end P4Control
