import P4Control.Proofs.Setback
import P4Control.Proofs.Stores

namespace P4Control

/-!
# What a call does that has its turn

A call that opens the session and has its turn asks its switch for a stream, unless a scope is in place.
The answer decides what it leaves behind: an open session, a scope that has failed, or a scope in which
it waits for the answer.

* `Switch.streamAnswer`, `Switch.streamsAsked` — how a switch answers, and how often it has been asked.
* `Setback.events` — the events that tell of a call that fails.
* `System.Turn` — what a call shows that has its turn.
* `joined_line`, `openSession_eq` — a call gets in line first.
* `turn_complete`, `turn_failCall` — the end of a call whose client is still held.
* `setUp_passes` — a call finds a scope in place.
* `Asked`, `setUp_attempts`, `setUp_asks` — a call finds none, and asks for a stream.
-/

/-! ### Asking for a stream -/

namespace Switch

/-- How a switch answers a call that sets up a stream through its channel. -/
def streamAnswer (w : Switch) : Answer Unit :=
  match w.scriptedStreams with
  | _ :: _ => .reply ()
  | [] =>
    match (w.agent.enter .streamChannel).2 with
    | none => .reply ()
    | some (.fail status) => .refused status
    | some .stall => .silence

/-- How many streams have been asked for through the channel of a switch that has become `v`: those
that the agent has counted, and those that have been played from a script. -/
def streamsAsked (w v : Switch) : Nat :=
  (v.agent.callCount .streamChannel - w.agent.callCount .streamChannel) +
    (w.scriptedStreams.length - v.scriptedStreams.length)

/-- A switch that stays as it is has been asked for no stream. -/
theorem streamsAsked_self (w : Switch) : w.streamsAsked w = 0 := by simp [streamsAsked]

end Switch

/-- Every call is counted once. -/
theorem Agent.callCount_enter (a : Agent) (rpc : Rpc) :
    (a.enter rpc).1.callCount rpc = a.callCount rpc + 1 := by
  unfold enter
  dsimp only
  split <;> simp [callCount]

namespace System

variable {s t u : System} {K : CallId}

/-- The answer is that of the switch. -/
theorem openStream_answer (s : System) (n : SwitchName) (capacity : Option Nat) :
    (s.openStream n capacity).2.map (fun _ => ()) = (s.switch n).streamAnswer := by
  unfold openStream Switch.streamAnswer
  cases (s.switch n).scriptedStreams with
  | cons script rest => rfl
  | nil =>
    dsimp only [attachStream]
    cases ((s.switch n).agent.enter .streamChannel).2 with
    | none => rfl
    | some fault => cases fault <;> rfl

/-- The switch is asked once. -/
theorem streamsAsked_openStream (s : System) (n : SwitchName) (capacity : Option Nat) :
    (s.switch n).streamsAsked ((s.openStream n capacity).1.switch n) = 1 := by
  -- the agent has been asked, whatever it answers
  have entered : ∀ w : Switch, w.agent = ((s.switch n).agent.enter .streamChannel).1 →
      w.scriptedStreams = (s.switch n).scriptedStreams → (s.switch n).streamsAsked w = 1 := by
    intro w ha hs
    unfold Switch.streamsAsked
    rw [ha, hs, Agent.callCount_enter]
    omega
  unfold openStream
  split
  · next hs =>
    unfold attachStream
    dsimp only
    split
    · exact entered _ (by rw [switch_updateSwitch_self]) (by rw [switch_updateSwitch_self])
    · exact entered _ (by rw [switch_updateSwitch_self]) (by rw [switch_updateSwitch_self])
    · refine entered _ ?_ ?_ <;>
        rw [switch_connect, if_pos rfl, switch_updateSwitch_self]
  · next script rest hs =>
    -- a script has been used up instead
    show (s.switch n).streamsAsked (System.switch (updateSwitch _ _ _) n) = 1
    rw [switch_updateSwitch_self, switch_updateStream, switch_updateSwitch_self]
    unfold Switch.streamsAsked
    rw [hs]
    simp

end System

/-- How a call ends that sets up a stream, if it does: with the stream, or as the answer makes it fail. -/
def Answer.streamResult? (answer : Answer Unit) (device : DeviceId) (limit : Duration) :
    Option CallResult :=
  match answer with
  | .reply _ => some (.returned .done)
  | answer => (answer.setback? .openStream limit fun _ => none).map fun b => .failed (b.error device)

/-! ### How calls fail -/

/-- The events that tell of a call that fails. -/
def Setback.events (device : DeviceId) : Setback → List Event
  | refused _ ⟨code, message⟩ =>
    match code with
    | .unavailable => [.channelError device message]
    | .permissionDenied => [.permissionDenied device]
    | _ => []
  | _ => []

namespace System

variable {s t u : System} {K : CallId}

/-- A call that sets up a stream fails in a way that its client knows as the setback. -/
inductive Meets (token : Token) : Failure → Setback → Prop
  | refused (status : Status) : Meets token (.refused status token) (.refused .openStream status)
  | timedOut (limit : Duration) : Meets token (.timedOut limit) (.unanswered .openStream limit)

/-! ### The end of a call -/

/-- From `s` to `t`, the call has run.  It has asked its switch for a stream that often, the events have
been posted, and it has ended with the result, if there is one; then it has left the line, in which it
was the first. -/
structure Turn (s : System) (K : CallId) (asked : Nat) (events : List Event)
    (result : Option CallResult) (t : System) : Prop where
  asked : (s.switch (s.client K.client).switch).streamsAsked (t.switch (s.client K.client).switch) =
    asked
  journal : t.journal = s.journal ++ events
  finished : t.finished = s.finished ++ result.toList.map fun r => ⟨K, r, none⟩
  now : t.now = s.now
  turns : (t.client K.client).turns =
    if result.isSome then (s.client K.client).turns.tail else (s.client K.client).turns

/-- What ends with a call of a client that is still held. -/
structure Completes (s : System) (K : CallId) (result : CallResult) (t : System) : Prop where
  switches : t.switches = s.switches
  streams : t.streams = s.streams
  journal : t.journal = s.journal
  now : t.now = s.now
  finished : t.finished = s.finished ++ [⟨K, result, none⟩]
  scope : ∀ id, (t.client id).scope = (s.client id).scope
  arbiter : ∀ id, (t.client id).arbiter = (s.client id).arbiter
  turns : (t.client K.client).turns = (s.client K.client).turns.erase K.serial

/-- Where someone else holds the client, a call that ends does no more than that. -/
theorem completes_of_held {result : CallResult}
    (h : (s.complete K result).isHeld K.client = true) :
    s.Completes K result (s.complete K result) := by
  have hf := finished_complete s K result
  rw [complete_of_held h] at hf ⊢
  have hw := withdraw_eq (s.record ⟨K, result, none⟩) K
  have parts := withdraw_parts (s.record ⟨K, result, none⟩) K
  refine ⟨by rw [hw]; rfl, by rw [hw]; rfl, by rw [hw]; rfl, by rw [hw]; rfl, hf,
    fun id => (parts id).2.2.2, fun id => ?_, ?_⟩
  · rw [client_withdraw]
    split
    · next he => rw [← he]; rfl
    · rfl
  · rw [(parts K.client).2.1, if_pos rfl]
    rfl

/-- A call has its turn, and ends. -/
theorem Turn.complete {asked : Nat} {events : List Event} (h : s.Turn K asked events none t)
    (hturn : (s.client K.client).turns.head? = some K.serial) {result : CallResult}
    (hh : (t.complete K result).isHeld K.client = true) :
    s.Turn K asked events (some result) (t.complete K result) := by
  have hc := completes_of_held hh
  refine ⟨?_, hc.journal.trans h.journal, ?_, hc.now.trans h.now, ?_⟩
  · rw [switch_complete]
    exact h.asked
  · rw [hc.finished, h.finished]
    simp
  · rw [hc.turns, h.turns]
    obtain ⟨rest, hrest⟩ := List.head?_eq_some_iff.mp hturn
    simp [hrest]

/-- A failure is reported, and the scope ends. -/
theorem report_meets {token : Token} {failure : Failure} {b : Setback} (hm : Meets token failure b)
    (ht : (s.client K.client).scope.current = some token) :
    let v := (s.report K.client .openStream failure).1.failSession K.client token
    (s.report K.client .openStream failure).2 = b.error (s.client K.client).key.device ∧
      v.journal = s.journal ++ b.events (s.client K.client).key.device ∧
      (v.client K.client).scope = (s.client K.client).scope.ruin token := by
  have ended : ∀ v : System, v.client K.client = s.client K.client →
      (v.failSession K.client token).journal = v.journal ∧
        ((v.failSession K.client token).client K.client).scope =
          (s.client K.client).scope.ruin token := by
    intro v hv
    rw [failSession_eq (by rw [hv, ht])]
    refine ⟨journal_endScope _ _ _, ?_⟩
    rw [client_endScope, if_pos rfl, hv]
    rfl
  cases hm with
  | timedOut limit =>
    obtain ⟨hj, hs⟩ := ended s rfl
    exact ⟨rfl, hj.trans (List.append_nil _).symm, hs⟩
  | refused status =>
    obtain ⟨code, message⟩ := status
    obtain ⟨hj, hs⟩ := ended s rfl
    have plain : s.journal = s.journal ++ [] := (List.append_nil _).symm
    cases code with
    | unavailable =>
      -- the report has ended the scope already
      have hnone : (((s.failSession K.client token).post
          (.channelError (s.client K.client).key.device message)).client K.client).scope.current ≠
            some token := current_failSession s K.client token
      show _ ∧ (failSession (post _ _) _ _).journal = _ ∧ _
      refine ⟨rfl, ?_, ?_⟩
      · rw [failSession_eq_self hnone]
        exact congrArg (· ++ _) hj
      · show ((failSession (post _ _) _ _).client _).scope = _
        rw [failSession_eq_self hnone]
        exact hs
    | permissionDenied => exact ⟨rfl, (ended (s.post _) rfl).1, (ended (s.post _) rfl).2⟩
    | _ => exact ⟨rfl, hj.trans plain, hs⟩

/-- A call that sets up a stream fails.  Its scope has ended in failure. -/
theorem Turn.failCall {asked : Nat} (h : s.Turn K asked [] none t)
    (hkey : (t.client K.client).key = (s.client K.client).key)
    (hturn : (s.client K.client).turns.head? = some K.serial) {token : Token}
    {failure : Failure} {b : Setback} (hm : Meets token failure b)
    (ht : (t.client K.client).scope.current = some token)
    (hh : (t.failCall K .openStream token failure).isHeld K.client = true) :
    s.Turn K asked (b.events (s.client K.client).key.device)
        (some (.failed (b.error (s.client K.client).key.device)))
        (t.failCall K .openStream token failure) ∧
      ((t.failCall K .openStream token failure).client K.client).scope =
        (t.client K.client).scope.ruin token := by
  obtain ⟨herror, hjournal, hscope⟩ := report_meets hm ht
  have he : t.failCall K .openStream token failure =
      ((t.report K.client .openStream failure).1.failSession K.client token).complete K
        (.failed (t.report K.client .openStream failure).2) := rfl
  -- the report and the end of the scope leave the line and the results alone
  have hheeds := (heeds_report (s := t) K.client .openStream failure).trans
    (heeds_failSession K.client token)
  rw [he, herror, hkey] at hh ⊢
  rw [hkey] at hjournal
  refine ⟨Turn.complete ⟨?_, ?_, ?_, hheeds.now.trans h.now, ?_⟩ hturn hh, ?_⟩
  · rw [switch_failSession, switch_report]
    exact h.asked
  · rw [hjournal, h.journal, List.append_nil]
  · rw [hheeds.finished, h.finished]
  · rw [hheeds.turns, h.turns]
  · rw [(completes_of_held hh).scope, hscope]

/-! ### Scopes that have begun -/

/-- The end of a scope begins none. -/
theorem begun_endScope {id : ClientId} {ended : Scope StreamId} (hb : ended.begun = (s.client id).scope.begun)
    (id' : ClientId) :
    ((s.endScope id ended).client id').scope.begun = (s.client id').scope.begun := by
  rw [client_endScope]
  split
  · next he =>
    rw [← he]
    exact hb
  · rfl

/-- No scope begins with a close. -/
theorem begun_closeSession (s : System) (id id' : ClientId) :
    ((s.closeSession id).client id').scope.begun = (s.client id').scope.begun := by
  rw [closeSession_eq]
  split <;> exact begun_endScope (Scope.begun_close _) id'

/-- No scope begins with a failure. -/
theorem begun_failSession (s : System) (id : ClientId) (token : Token) (id' : ClientId) :
    ((s.failSession id token).client id').scope.begun = (s.client id').scope.begun := by
  by_cases ht : (s.client id).scope.current = some token
  · rw [failSession_eq ht]
    refine begun_endScope ?_ id'
    rfl
  · rw [failSession_eq_self ht]

/-- No scope begins when a call is retired. -/
theorem begun_retire (s : System) (K : CallId) (kind : CallKind) (id : ClientId) :
    ((s.retire K kind).client id).scope.begun = (s.client id).scope.begun := by
  have hw : ((s.withdraw K).client id).scope = (s.client id).scope := (withdraw_parts s K id).2.2.2
  rw [retire_eq, ← hw]
  cases kind with
  | next => rfl
  | request =>
    unfold release
    dsimp only
    split
    · rfl
    · exact begun_closeSession _ _ id

/-- A call that ends begins no scope. -/
theorem begun_complete (s : System) (K : CallId) (result : CallResult) (id : ClientId) :
    ((s.complete K result).client id).scope.begun = (s.client id).scope.begun :=
  begun_retire (s.record ⟨K, result, none⟩) K .request id

/-- No scope begins with a report. -/
theorem begun_report (s : System) (id : ClientId) (operation : Operation) (failure : Failure)
    (id' : ClientId) :
    ((s.report id operation failure).1.client id').scope.begun = (s.client id').scope.begun := by
  cases failure with
  | refused status token =>
    unfold report
    dsimp only
    split
    · rfl
    · exact begun_failSession s id token id'
    · rfl
  | _ => rfl

/-- No scope begins when a call fails. -/
theorem begun_failCall (s : System) (K : CallId) (operation : Operation) (token : Token)
    (failure : Failure) (id : ClientId) :
    ((s.failCall K operation token failure).client id).scope.begun =
      (s.client id).scope.begun := by
  unfold failCall
  dsimp only
  rw [begun_complete]
  split
  · rw [begun_failSession, begun_report]
  · exact begun_report s _ _ _ id

/-! ### Getting in line -/

/-- A call gets in line before anything else happens. -/
theorem joined_line (s : System) (id : ClientId) :
    let u := (s.newCall id).1.enterLine ⟨id, (s.client id).made⟩
    u.client id = { s.client id with
        turns := (s.client id).turns ++ [(s.client id).made]
        made := (s.client id).made + 1 } ∧
      (∀ id', (u.client id').scope = (s.client id').scope ∧
        (u.client id').arbiter = (s.client id').arbiter) ∧
      ∀ id', (u.client id').calls = (s.client id').calls := by
  intro u
  have hself : u.client id = _ := (client_enterLine _ _ id).trans (if_pos rfl)
  rw [client_newCall_self] at hself
  refine ⟨hself, fun id' => ?_, fun id' => ?_⟩
  all_goals
    by_cases he : id = id'
    · subst he
      simp only [hself, and_self]
    · have hother : u.client id' = s.client id' := by
        rw [client_enterLine, if_neg he, client_newCall, if_neg he]
      simp only [hother, and_self]

/-- Whoever comes into an empty line has the turn at once; anyone else waits in line. -/
theorem openSession_eq (s : System) (id : ClientId) :
    (s.openSession id).1 =
      if (s.client id).turns = [] then
        ((s.newCall id).1.enterLine ⟨id, (s.client id).made⟩).setUp ⟨id, (s.client id).made⟩
      else ((s.newCall id).1.enterLine ⟨id, (s.client id).made⟩).suspend
        ⟨id, (s.client id).made⟩ .request .turn := by
  rw [← (newCall_parts s id id).2.1]
  rfl

/-! ### A call whose turn it is -/

/-- A call that has its turn and finds a scope in place returns, and begins none. -/
theorem setUp_idles (hc : (s.client K.client).scope.current.isSome = true) :
    s.setUp K = s.complete K (.returned .done) := by
  obtain ⟨token, hc⟩ := Option.isSome_iff_exists.mp hc
  unfold setUp Scope.begin
  simp only [hc]

/-- A call that finds a scope in place has nothing to do. -/
theorem setUp_passes (hc : (s.client K.client).scope.current.isSome = true)
    (hh : (s.setUp K).isHeld K.client = true) : s.Completes K (.returned .done) (s.setUp K) := by
  rw [setUp_idles hc] at hh ⊢
  exact completes_of_held hh

/-- How the attempt ends that a call makes at a stream. -/
inductive Attempt (s : System) (K : CallId) (t : System) : Answer Unit → Prop
  /-- The session is open, and an event tells whether the last one had failed. -/
  | opens (ht : s.Turn K 1
        [if (s.client K.client).scope.failed then .channelReconnected (s.client K.client).key.device
          else .channelOpen (s.client K.client).key.device] (some (.returned .done)) t)
      (ho : (t.client K.client).scope.isOpen = true) : Attempt s K t (.reply ())
  /-- The call has failed, and its scope with it. -/
  | fails (answer : Answer Unit) (b : Setback)
      (ha : answer.setback? .openStream (s.client K.client).config.shortTimeout (fun _ => none) = some b)
      (ht : s.Turn K 1 (b.events (s.client K.client).key.device)
        (some (.failed (b.error (s.client K.client).key.device))) t)
      (hc : (t.client K.client).scope.current = none)
      (hf : (t.client K.client).scope.failed = true) : Attempt s K t answer
  /-- The call waits for the answer. -/
  | waits (token : Token) (hl : (s.client K.client).config.shortTimeout.nanoseconds ≠ 0)
      (ht : s.Turn K 1 [] none t) (hc : (t.client K.client).scope.current = some token)
      (ho : (t.client K.client).scope.isOpen = false)
      (hw : t.WaitsFor K (.answer .openStream token (s.client K.client).config.shortTimeout
        ⟨s.now.nanoseconds + (s.client K.client).config.shortTimeout.nanoseconds⟩)) :
      Attempt s K t .silence

/-- The call has begun a scope and asked its switch for a stream, and nothing else is seen yet. -/
structure Asked (s : System) (K : CallId) (u : System) : Prop where
  turn : s.Turn K 1 [] none u
  client : u.client K.client =
    { s.client K.client with
      scope := (s.client K.client).scope.next
      arbiter := (s.client K.client).arbiter.forget }

/-- In the scope that has begun a stream has been asked for, once. -/
theorem asked_openStream (s : System) (K : CallId) (capacity : Option Nat) :
    s.Asked K ((s.beginScope K.client (s.client K.client).scope.next).openStream
      (s.client K.client).switch capacity).1 := by
  have hasked := streamsAsked_openStream (s.beginScope K.client (s.client K.client).scope.next)
    (s.client K.client).switch capacity
  have hsame := sameClients_openStream (s.beginScope K.client (s.client K.client).scope.next)
    (s.client K.client).switch capacity
  generalize ((s.beginScope K.client (s.client K.client).scope.next).openStream
    (s.client K.client).switch capacity).1 = u at hasked hsame ⊢
  have hself : u.client K.client =
      { s.client K.client with
        scope := (s.client K.client).scope.next
        arbiter := (s.client K.client).arbiter.forget } := by
    rw [hsame.client, client_beginScope, if_pos rfl]
  refine ⟨⟨hasked, hsame.journal.trans (List.append_nil _).symm,
    hsame.finished.trans (List.append_nil _).symm, ?_, by rw [hself]; rfl⟩, hself⟩
  rw [show u = _ from hsame]
  rfl

/-- The scope in which the stream was asked for is in place. -/
theorem Asked.current (h : s.Asked K u) :
    (u.client K.client).scope.current = some (s.client K.client).scope.begun := by
  rw [h.client]
  rfl

/-- A refused call has made an attempt that failed. -/
theorem Asked.fails (h : s.Asked K u) (hturn : (s.client K.client).turns.head? = some K.serial)
    {failure : Failure} {b : Setback} {answer : Answer Unit}
    (hm : Meets (s.client K.client).scope.begun failure b)
    (ha : answer.setback? .openStream (s.client K.client).config.shortTimeout (fun _ => none) = some b)
    (hh : (u.failCall K .openStream (s.client K.client).scope.begun failure).isHeld K.client = true) :
    s.Attempt K (u.failCall K .openStream (s.client K.client).scope.begun failure) answer := by
  obtain ⟨ht, hs⟩ := h.turn.failCall (by rw [h.client]) hturn hm h.current hh
  exact .fails _ b ha ht (by rw [hs]; rfl) (by rw [hs]; rfl)

/-- A call without an answer has made an attempt, and its turn goes on. -/
theorem Asked.waits (h : s.Asked K u) (hv : (s.client K.client).scope.Valid)
    (hc : (s.client K.client).scope.current = none)
    (hl : (s.client K.client).config.shortTimeout.nanoseconds ≠ 0) :
    let deadline : Duration :=
      ⟨u.now.nanoseconds + (s.client K.client).config.shortTimeout.nanoseconds⟩
    s.Attempt K ((u.suspend K .request (.answer .openStream (s.client K.client).scope.begun
      (s.client K.client).config.shortTimeout deadline)).setTimer ⟨deadline, K⟩) .silence := by
  intro deadline
  have hclosed : (u.client K.client).scope.isOpen = false := by
    rw [h.client]
    exact hv.isOpen_eq_false (hv.slot_eq_none hc)
  obtain ⟨⟨call, hm, hserial⟩, hwait⟩ := wait_suspend u K .request
    (.answer .openStream (s.client K.client).scope.begun (s.client K.client).config.shortTimeout deadline)
  obtain ⟨hturns, -, hscope⟩ := suspend_parts (s := u) (K := K) .request
    (.answer .openStream (s.client K.client).scope.begun (s.client K.client).config.shortTimeout deadline)
    K.client
  refine .waits (s.client K.client).scope.begun hl
    ⟨h.turn.asked, h.turn.journal, h.turn.finished, h.turn.now, hturns.trans h.turn.turns⟩
    ?_ ?_ ⟨call, hm, hserial, ?_⟩
  · exact (congrArg Scope.current hscope).trans h.current
  · exact (congrArg Scope.isOpen hscope).trans hclosed
  · rw [hwait call hm hserial, ← h.turn.now]

/-- A call with an answer has made an attempt that opened the session. -/
theorem Asked.opens (h : s.Asked K u) (hturn : (s.client K.client).turns.head? = some K.serial)
    {st : StreamId}
    (hh : (u.activateSession K (s.client K.client).scope.begun (s.client K.client).scope.failed
      st).isHeld K.client = true) :
    s.Attempt K (u.activateSession K (s.client K.client).scope.begun (s.client K.client).scope.failed st)
      (.reply ()) := by
  -- nothing has happened to the scope since it began
  have hact : (u.client K.client).scope.activate (s.client K.client).scope.begun st =
      some ((s.client K.client).scope.next.install st) := by
    unfold Scope.activate Scope.isCurrent
    rw [h.current, h.client]
    simp [Scope.install, Scope.next]
  unfold activateSession at hh ⊢
  simp only [hact] at hh ⊢
  have hlive := client_goLive u K.client K.client (s.client K.client).scope.begun
    (s.client K.client).scope.failed ((s.client K.client).scope.next.install st) st
  rw [if_pos rfl] at hlive
  have hcan : ((s.client K.client).scope.next.install st).cancelled =
      (u.client K.client).scope.cancelled := by
    rw [h.client]
    rfl
  have hheeds := heeds_goLive (s := u) K.client (s.client K.client).scope.begun
    (s.client K.client).scope.failed st rfl hcan
  refine .opens (Turn.complete ⟨?_, ?_, ?_, hheeds.now.trans h.turn.now, ?_⟩ hturn hh) ?_
  · rw [switch_goLive]
    exact h.turn.asked
  · rw [journal_goLive, h.turn.journal, h.client, List.append_nil]
  · rw [finished_goLive, h.turn.finished]
  · rw [hlive]
    exact h.turn.turns
  · rw [(completes_of_held hh).scope, hlive]
    rfl

/-- A call that finds no scope in place asks for a stream, and the answer decides how its attempt
ends. -/
theorem setUp_attempts (hv : (s.client K.client).scope.Valid)
    (hc : (s.client K.client).scope.current = none)
    (hturn : (s.client K.client).turns.head? = some K.serial)
    (hh : (s.setUp K).isHeld K.client = true) :
    s.Attempt K (s.setUp K) (s.switch (s.client K.client).switch).streamAnswer := by
  have hb : (s.client K.client).scope.begin =
      some ((s.client K.client).scope.begun, (s.client K.client).scope.failed,
        (s.client K.client).scope.next) := by
    unfold Scope.begin
    rw [hc]
    rfl
  -- The switch is asked in the scope that has just begun; all three answers go on from there.
  have hasked := asked_openStream s K (some (max (s.client K.client).config.queueCapacity 1))
  have hanswer := openStream_answer (s.beginScope K.client (s.client K.client).scope.next)
    (s.client K.client).switch (some (max (s.client K.client).config.queueCapacity 1))
  rw [show (s.switch (s.client K.client).switch).streamAnswer = _ from hanswer.symm]
  unfold setUp at hh ⊢
  simp only [hb] at hh ⊢
  generalize (s.beginScope K.client (s.client K.client).scope.next).openStream
    (s.client K.client).switch (some (max (s.client K.client).config.queueCapacity 1)) = opened
    at hasked hh ⊢
  obtain ⟨u, answer⟩ := opened
  unfold await at hh ⊢
  cases answer with
  | refused status => exact hasked.fails hturn (.refused status) rfl hh
  | silence =>
    dsimp only at hh ⊢
    split at hh
    · next hl =>
      rw [if_pos hl]
      exact hasked.fails hturn (.timedOut _) (if_pos hl) hh
    · next hl =>
      rw [if_neg hl]
      exact hasked.waits hv hc hl
  | reply st => exact hasked.opens hturn hh

/-- A call that has its turn and finds no scope in place begins one, and ends as its switch answers. -/
theorem setUp_asks (hc : (s.client K.client).scope.current = none) :
    ((s.setUp K).client K.client).scope.begun = (s.client K.client).scope.begun + 1 ∧
      (s.setUp K).finished = s.finished ++
        ((s.switch (s.client K.client).switch).streamAnswer.streamResult?
          (s.client K.client).key.device (s.client K.client).config.shortTimeout).toList.map
            fun r => ⟨K, r, none⟩ := by
  -- no scope is in place, so one begins and a stream is asked for in it
  have hb : (s.client K.client).scope.begin =
      some ((s.client K.client).scope.begun, (s.client K.client).scope.failed,
        (s.client K.client).scope.next) := by
    unfold Scope.begin
    rw [hc]
    rfl
  have hasked := asked_openStream s K (some (max (s.client K.client).config.queueCapacity 1))
  have hanswer := openStream_answer (s.beginScope K.client (s.client K.client).scope.next)
    (s.client K.client).switch (some (max (s.client K.client).config.queueCapacity 1))
  rw [show (s.switch (s.client K.client).switch).streamAnswer = _ from hanswer.symm]
  unfold setUp
  simp only [hb]
  generalize (s.beginScope K.client (s.client K.client).scope.next).openStream
    (s.client K.client).switch (some (max (s.client K.client).config.queueCapacity 1)) = opened
    at hasked ⊢
  obtain ⟨u, answer⟩ := opened
  have hfin : u.finished = s.finished := hasked.turn.finished.trans (List.append_nil _)
  have hbegun : (u.client K.client).scope.begun = (s.client K.client).scope.begun + 1 := by
    rw [hasked.client]
    rfl
  -- whatever the failure, the call is told so and the scope has begun
  have fails : ∀ {failure : Failure} {b : Setback},
      Meets (s.client K.client).scope.begun failure b →
      ((u.failCall K .openStream (s.client K.client).scope.begun failure).client
          K.client).scope.begun = (s.client K.client).scope.begun + 1 ∧
        (u.failCall K .openStream (s.client K.client).scope.begun failure).finished =
          s.finished ++ [⟨K, .failed (b.error (s.client K.client).key.device), none⟩] := by
    intro failure b hm
    have he := (report_meets hm hasked.current).1
    rw [hasked.client] at he
    exact ⟨(begun_failCall _ _ _ _ _ _).trans hbegun, by rw [finished_failCall, he, hfin]⟩
  unfold await
  cases answer with
  | refused status => exact fails (.refused status)
  | silence =>
    dsimp only [Answer.map, Answer.streamResult?, Answer.setback?]
    split
    · exact fails (.timedOut _)
    · have hscope := (suspend_parts (s := u) (K := K) .request
        (.answer .openStream (s.client K.client).scope.begun (s.client K.client).config.shortTimeout
          ⟨u.now.nanoseconds + (s.client K.client).config.shortTimeout.nanoseconds⟩)
        K.client).2.2
      exact ⟨(congrArg Scope.begun hscope).trans hbegun, hfin.trans (List.append_nil _).symm⟩
  | reply st =>
    dsimp only [activateSession]
    -- nothing has happened to the scope since it began, so the session opens
    have hact : (u.client K.client).scope.activate (s.client K.client).scope.begun st =
        some ((u.client K.client).scope.install st) := by
      unfold Scope.activate Scope.isCurrent
      simp [Scope.install, ← hasked.current]
    rw [hact]
    refine ⟨?_, ?_⟩
    · rw [begun_complete, client_goLive, if_pos rfl]
      exact hbegun
    · rw [finished_complete, finished_goLive, hfin]
      rfl

end System

end P4Control
