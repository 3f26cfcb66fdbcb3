import P4Control.Proofs.Quiet
import P4Control.Proofs.Valid

namespace P4Control

/-!
# What a call does to the session of its client

A call runs in one go until it ends or has to wait.  What it does on the way is one of a few
sequences of incidents.

* `CallResult.loss` — whether the result of a call says that its scope ended in failure.
* `Course` — the sequences of incidents of a call in one go.
* `Incident.OfCall`, `Course.ofCall` — the incidents that these sequences are made of.
* `Parting` — what follows when a holder of a client has gone.
* `Plays` — a course with its parting that leads from one system to another.
* `plays_failCall`, `plays_await`, `plays_inSession` — the steps that calls are made of.
-/

/-- What the result of a call says about its scope: that it ended in failure, and the reason if the
channel was unavailable.  Any failure to set up a stream ends the scope, unless that has ended
before. -/
def CallResult.loss (opening : Bool) : CallResult → Option (Option String)
  | .returned _ => none
  | .failed (.transportUnavailable _ reason) => some (some reason)
  | .failed (.cancelled _ _) => none
  | .failed _ => if opening then some none else none

/-- Whether a call that waits like this opens the session. -/
def Wait.opens : Wait → Bool
  | .turn => true
  | .answer operation _ _ _ => operation = .openStream
  | .chunk _ => false

/-- The incident of a scope that ends in failure, if it does. -/
def lostBy (id : ClientId) (token : Token) : Option (Option String) → List Incident
  | none => []
  | some reason => [.lost id token reason]

/-- What a call on a client does in one go.  The call may be one that opens the session. -/
inductive Course (id : ClientId) (opening : Bool) : List Incident → Prop
  /-- It waits, or goes on waiting. -/
  | waits : Course id opening []
  /-- It begins a scope and waits for the stream. -/
  | begins (token : Token) (afterFailure : Bool) (ho : opening = true) :
      Course id opening [.began id token afterFailure]
  /-- It ends. -/
  | ends (token : Token) (f : Finished) (hc : f.call.client = id) :
      Course id opening (lostBy id token (f.result.loss opening) ++ [.told f])
  /-- It begins a scope and opens the session. -/
  | opens (token : Token) (afterFailure : Bool) (st : StreamId) (f : Finished) (ho : opening = true)
      (hc : f.call.client = id) (hr : f.result = .returned .done) :
      Course id opening [.opened id token afterFailure st, .told f]
  /-- It begins a scope that fails at once. -/
  | collapses (token : Token) (afterFailure : Bool) (reason : Option String) (f : Finished)
      (ho : opening = true) (hc : f.call.client = id) (hl : f.result.loss opening = some reason) :
      Course id opening [.began id token afterFailure, .lost id token reason, .told f]

/-- The incidents that courses are made of.  Only a call that opens the session begins a scope. -/
inductive Incident.OfCall (id : ClientId) (opening : Bool) : Incident → Prop
  | began (token : Token) (afterFailure : Bool) (ho : opening = true) :
      OfCall id opening (.began id token afterFailure)
  | opened (token : Token) (afterFailure : Bool) (st : StreamId) (ho : opening = true) :
      OfCall id opening (.opened id token afterFailure st)
  | lost (token : Token) (reason : Option String) : OfCall id opening (.lost id token reason)
  | told (f : Finished) (hc : f.call.client = id) : OfCall id opening (.told f)

/-- What happens in the course of a call is of these kinds. -/
theorem Course.ofCall {id : ClientId} {opening : Bool} {is : List Incident}
    (h : Course id opening is) {i : Incident} (hi : i ∈ is) : i.OfCall id opening := by
  cases h with
  | waits => cases hi
  | begins token afterFailure ho =>
    rw [List.mem_singleton.mp hi]
    exact .began token afterFailure ho
  | ends token f hc =>
    -- the result may tell of the loss of the session
    cases hl : f.result.loss opening with
    | none =>
      rw [hl] at hi
      rw [List.mem_singleton.mp hi]
      exact .told f hc
    | some reason =>
      simp only [hl, lostBy, List.cons_append, List.nil_append, List.mem_cons, List.not_mem_nil,
        or_false] at hi
      rcases hi with rfl | rfl
      · exact .lost token reason
      · exact .told f hc
  | opens token afterFailure st f ho hc hr =>
    simp only [List.mem_cons, List.not_mem_nil, or_false] at hi
    rcases hi with rfl | rfl
    · exact .opened token afterFailure st ho
    · exact .told f hc
  | collapses token afterFailure reason f ho hc hl =>
    simp only [List.mem_cons, List.not_mem_nil, or_false] at hi
    rcases hi with rfl | rfl | rfl
    · exact .began token afterFailure ho
    · exact .lost token reason
    · exact .told f hc

namespace System

/-- What follows when a holder of a client has gone: the session is closed if nobody holds the client
any more. -/
inductive Parting (id : ClientId) (t : System) : List Incident → Prop
  | stays : Parting id t []
  | goes (wasOpen : Bool) (h : t.isHeld id = false) : Parting id t [.released id wasOpen]

/-- A parting is the release of a client that nobody holds. -/
theorem Parting.released {id : ClientId} {t : System} {is : List Incident} (h : Parting id t is)
    {i : Incident} (hi : i ∈ is) : t.isHeld id = false ∧ ∃ wasOpen, i = .released id wasOpen := by
  cases h with
  | stays => cases hi
  | goes wasOpen hh => exact ⟨hh, wasOpen, List.mem_singleton.mp hi⟩

/-- A call on a client leads from one system to another in one go. -/
def Plays (s : System) (id : ClientId) (opening : Bool) (t : System) : Prop :=
  ∃ is rest, Course id opening is ∧ Parting id t rest ∧ s.Leads (is ++ rest) t

variable {s t : System}

/-- A call may begin with a quiet change. -/
theorem Plays.after {id : ClientId} {opening : Bool} {u : System} (q : Quiet s t)
    (h : t.Plays id opening u) : s.Plays id opening u := by
  obtain ⟨is, rest, hc, hp, hl⟩ := h
  exact ⟨is, rest, hc, hp, .quiet q hl⟩

/-- Nothing that a session would notice. -/
theorem Plays.of_quiet {id : ClientId} {opening : Bool} (q : Quiet s t) : s.Plays id opening t :=
  ⟨[], [], .waits, .stays, .of_quiet q⟩

/-! ### The end of a call -/

/-- A client is held as before when its session closes. -/
theorem isHeld_closeSession (s : System) (id : ClientId) :
    (s.closeSession id).isHeld id = s.isHeld id := by
  have he : ∀ ended, (s.endScope id ended).isHeld id = s.isHeld id := by
    intro ended
    unfold isHeld
    rw [handles_endScope, registry_endScope, client_endScope, if_pos rfl]
  rw [closeSession_eq]
  split
  · exact he _
  · exact he _

/-- A holder goes. -/
theorem leads_release {id : ClientId} (hk : s.Knows id) :
    ∃ rest, Parting id (s.release id) rest ∧ s.Leads rest (s.release id) := by
  unfold release
  split
  · exact ⟨[], .stays, .refl s⟩
  · next h =>
    have hh : s.isHeld id = false := by simpa using h
    refine ⟨_, .goes (s.client id).scope.close.1 ?_, .one (.released s id hk hh)⟩
    rw [isHeld_closeSession]
    exact hh

/-- To leave the line is a quiet change. -/
theorem quiet_leaveLine {id : CallId} (hk : s.Knows id.client) : Quiet s (s.leaveLine id) := by
  have q : Quiet s (s.updateClient id.client fun c =>
      { c with turns := (s.client id.client).turns.erase id.serial }) :=
    quiet_updateClient hk rfl fun call hc => .inl hc
  unfold leaveLine
  dsimp only
  split
  · split
    · exact q.trans (quiet_wake _)
    · exact q
  · exact q

/-- A call that is no longer pending lets go of its client. -/
theorem leads_retire {id : CallId} (hk : s.Knows id.client) (kind : CallKind) :
    ∃ rest, Parting id.client (s.retire id kind) rest ∧ s.Leads rest (s.retire id kind) := by
  have hq := quiet_leaveLine hk
  have hkl : (s.leaveLine id).Knows id.client := (hq.knows id.client).mpr hk
  have hc : Quiet (s.leaveLine id) ((s.leaveLine id).updateClient id.client fun c =>
      { c with calls := c.calls.filter fun call => decide (call.serial ≠ id.serial) }) :=
    quiet_updateClient hkl rfl fun call hm => .inl (List.mem_filter.mp hm).1
  have hq' : Quiet s { ((s.leaveLine id).updateClient id.client fun c =>
      { c with calls := c.calls.filter fun call => decide (call.serial ≠ id.serial) }) with
      timers := (s.leaveLine id).timers.filter fun t => decide (t.call ≠ id) } :=
    (hq.trans hc).trans (quiet_of_eq rfl rfl rfl rfl rfl rfl rfl fun _ h => h)
  cases kind with
  | request =>
    obtain ⟨rest, hp, hl⟩ := leads_release ((hq'.knows id.client).mpr hk)
    exact ⟨rest, hp, .quiet hq' hl⟩
  | next => exact ⟨[], .stays, .of_quiet hq'⟩

/-- A call ends after what has happened in it. -/
theorem plays_told {opening : Bool} (is : List Incident) (f : Finished) (kind : CallKind)
    (hc : Course f.call.client opening (is ++ [.told f])) (hl : s.Leads is t)
    (hk : t.Knows f.call.client) (hf : ∀ r, f.cursor = some r → t.Holds r) :
    s.Plays f.call.client opening ((t.record f).retire f.call kind) := by
  have hkr : (t.record f).Knows f.call.client := hk
  obtain ⟨rest, hp, hr⟩ := leads_retire hkr kind
  exact ⟨is ++ [.told f], rest, hc, hp, (hl.append (.one (.told t f hf))).append hr⟩

/-- A call ends with a result that says nothing about its scope. -/
theorem plays_ends {opening : Bool} {f : Finished} (kind : CallKind) (hk : s.Knows f.call.client)
    (hl : f.result.loss opening = none) (hf : ∀ r, f.cursor = some r → s.Holds r) :
    s.Plays f.call.client opening ((s.record f).retire f.call kind) := by
  refine plays_told [] f kind ?_ (.refl s) hk hf
  have hc : Course f.call.client opening (lostBy _ 0 (f.result.loss opening) ++ [.told f]) :=
    .ends 0 f rfl
  rwa [hl] at hc

/-- A call that ends without a loss does no more than let go of its client. -/
theorem plays_complete {opening : Bool} (id : CallId) {result : CallResult}
    (hk : s.Knows id.client) (hl : result.loss opening = none) :
    s.Plays id.client opening (s.complete id result) :=
  plays_ends (f := ⟨id, result, none⟩) .request hk hl (by simp)

/-- So does a call that ends with a read stream. -/
theorem plays_completeWith {opening : Bool} (id : CallId) {cursor : ReadCursor}
    (hk : s.Knows id.client) (hc : s.Holds cursor) :
    s.Plays id.client opening (s.completeWith id cursor) :=
  plays_ends (f := ⟨id, .returned .stream, some cursor⟩) .request hk rfl (by simpa using hc)

/-- So does a call for the next item of a read stream. -/
theorem plays_completeNext {opening : Bool} (id : CallId) {result : CallResult}
    {cursor : ReadCursor} (hk : s.Knows id.client) (hl : result.loss opening = none)
    (hc : s.Holds cursor) : s.Plays id.client opening (s.completeNext id result cursor) :=
  plays_ends (f := ⟨id, result, some cursor⟩) .next hk hl (by simpa using hc)

/-! ### Failures -/

/-- The failures of calls in the scope of `t` while it is in place. -/
inductive Lost (t : Token) : Failure → Prop
  | refused (status : Status) : Lost t (.refused status t)
  | timedOut (limit : Duration) : Lost t (.timedOut limit)

/-- A failure in the scope in place is reported: an unavailable channel ends the scope, and anything
else ends it only if the call was to set up the stream. -/
theorem report_of_current (s : System) (id : ClientId) {token : Token} {failure : Failure}
    (hl : Lost token failure) (operation : Operation) :
    (∃ reason device, s.report id operation failure =
      ((s.failSession id token).post (.channelError (s.client id).key.device reason),
        .transportUnavailable device reason)) ∨
    ∃ reported error, s.report id operation failure = (reported, error) ∧ Quiet s reported ∧
      ∀ opening, (CallResult.failed error).loss opening = if opening then some none else none := by
  cases hl with
  | refused status =>
    unfold report
    dsimp only
    split
    · exact .inr ⟨_, _, rfl, quiet_post rfl, fun _ => rfl⟩
    · exact .inl ⟨_, _, rfl⟩
    · exact .inr ⟨_, _, rfl, .refl s, fun _ => rfl⟩
  | timedOut limit => exact .inr ⟨_, _, rfl, .refl s, fun _ => rfl⟩

/-- A client remains one when a session fails. -/
theorem knows_failSession {id id' : ClientId} (hk : s.Knows id) (token : Token)
    (hk' : s.Knows id') : (s.failSession id token).Knows id' := by
  unfold Knows
  rw [keys_failSession hk]
  exact hk'

/-- A scope that has ended is not in place any more. -/
theorem failSession_failSession {id : ClientId} {token : Token}
    (ht : (s.client id).scope.current = some token) (e : Event) :
    ((s.failSession id token).post e).failSession id token = (s.failSession id token).post e := by
  refine failSession_eq_self ?_
  show ((s.failSession id token).client id).scope.current ≠ some token
  rw [failSession_eq ht, client_endScope, if_pos rfl]
  simp

/-- A call fails in the scope in place. -/
theorem failCall_of_current {id : CallId} (operation : Operation) {token : Token}
    {failure : Failure} (hk : s.Knows id.client) (ht : (s.client id.client).scope.current = some token)
    (hl : Lost token failure) :
    ∃ f t, s.failCall id operation token failure = (t.record f).retire f.call .request ∧
      f.call = id ∧ f.cursor = none ∧ t.Knows id.client ∧
      s.Leads (lostBy id.client token (f.result.loss (operation = .openStream))) t ∧
      (operation = .openStream → (f.result.loss true).isSome = true) := by
  rcases s.report_of_current id.client hl operation with
    ⟨reason, device, hr⟩ | ⟨reported, error, hr, hq, he⟩
  · refine ⟨⟨id, .failed (.transportUnavailable device reason), none⟩,
      (s.failSession id.client token).post (.channelError (s.client id.client).key.device reason),
      ?_, rfl, rfl, knows_failSession hk token hk, .one (.unavailable s _ token reason hk ht),
      fun _ => rfl⟩
    simp only [failCall, hr]
    split
    · rw [failSession_failSession ht]
      rfl
    · rfl
  · have hkr := (hq.knows id.client).mpr hk
    -- A failed attempt to open takes its scope with it, whatever the reason.
    by_cases ho : operation = .openStream
    · refine ⟨⟨id, .failed error, none⟩, reported.failSession id.client token, ?_, rfl, rfl,
        knows_failSession hkr token hkr, ?_, ?_⟩
      · simp only [failCall, hr, if_pos ho]
        rfl
      · rw [he, decide_eq_true ho, if_pos rfl]
        refine .quiet hq (.one (.failed reported _ token hkr ?_))
        rw [hq.scope]
        exact ht
      · intro _
        rw [he, if_pos rfl]
        rfl
    · refine ⟨⟨id, .failed error, none⟩, reported, ?_, rfl, rfl, hkr, ?_, fun h => absurd h ho⟩
      · simp only [failCall, hr, if_neg ho]
        rfl
      · rw [he, decide_eq_false ho]
        exact .of_quiet hq

/-- A call that fails takes its scope along if the failure calls for it. -/
theorem plays_failCall (id : CallId) {operation : Operation} {opening : Bool} {token : Token}
    {failure : Failure} (ho : decide (operation = .openStream) = opening) (hk : s.Knows id.client)
    (ht : (s.client id.client).scope.current = some token) (hl : Lost token failure) :
    s.Plays id.client opening (s.failCall id operation token failure) := by
  obtain ⟨f, t, he, rfl, hn, hkt, hs, -⟩ := failCall_of_current operation hk ht hl
  rw [ho] at hs
  rw [he]
  exact plays_told _ f .request (.ends token f rfl) hs hkt (by simp [hn])

/-- A call whose scope has ended is told so. -/
theorem plays_cancelled (id : CallId) {operation : Operation} {token : Token} {opening : Bool}
    (hk : s.Knows id.client)
    (ht : operation = .openStream → (s.client id.client).scope.current ≠ some token) :
    s.Plays id.client opening (s.failCall id operation token .cancelled) := by
  have he : s.failCall id operation token .cancelled =
      s.complete id (.failed (.cancelled (s.client id.client).key.device operation.text)) := by
    simp only [failCall, report]
    split
    · next ho => rw [failSession_eq_self (ht ho)]
    · rfl
  rw [he]
  exact plays_complete id hk rfl

/-! ### Waiting and going on -/

/-- A call waits for its turn, or in a scope that has begun. -/
theorem quiet_suspend (id : CallId) (kind : CallKind) {wait : Wait} (hk : s.Knows id.client)
    (hw : ∀ token, wait.token? = some token → token < (s.client id.client).scope.begun) :
    Quiet s (s.suspend id kind wait) := by
  refine quiet_updateClient hk ?_ ?_
  · split <;> rfl
  · intro call hc
    split at hc
    · obtain ⟨old, ho, rfl⟩ := List.mem_map.mp hc
      split
      · exact .inr hw
      · exact .inl ho
    · rcases List.mem_append.mp hc with ho | hn
      · exact .inl ho
      · rw [List.mem_singleton.mp hn]
        exact .inr hw

/-- A call goes on in the scope in place with an answer, or waits for it. -/
theorem plays_await {α : Type} {id : CallId} {operation : Operation} {opening : Bool} {token : Token}
    {limit : Duration} {answer : Answer α} {goOn : System → α → System}
    (ho : decide (operation = .openStream) = opening) (hv : s.Valid) (hk : s.Knows id.client)
    (ht : (s.client id.client).scope.current = some token)
    (hg : ∀ a, s.Plays id.client opening (goOn s a)) :
    s.Plays id.client opening (s.await id operation token limit answer goOn) := by
  unfold await
  cases answer with
  | reply a => exact hg a
  | refused status => exact plays_failCall id ho hk ht (.refused status)
  | silence =>
    dsimp only
    split
    · exact plays_failCall id ho hk ht (.timedOut limit)
    · refine .of_quiet ((quiet_suspend id .request hk ?_).trans (quiet_setTimer _))
      intro token' he
      cases he
      exact (hv.scopes id.client).lt_begun ht

/-- A call asks the switch for something that no session notices, and goes on with the answer. -/
theorem plays_ask {α : Type} {id : CallId} {operation : Operation} {opening : Bool} {token : Token}
    {limit : Duration} {n : SwitchName} {w : Switch} {answer : Answer α}
    {goOn : System → α → System} (ho : decide (operation = .openStream) = opening)
    (hl : w.line = (s.switch n).line) (hv : s.Valid) (hk : s.Knows id.client)
    (ht : (s.client id.client).scope.current = some token)
    (hg : ∀ (t : System) (a : α), t.Valid → t.Knows id.client →
      (t.client id.client).scope = (s.client id.client).scope →
        t.Plays id.client opening (goOn t a)) :
    s.Plays id.client opening
      ((s.updateSwitch n fun _ => w).await id operation token limit answer goOn) := by
  have q : Quiet s (s.updateSwitch n fun _ => w) := quiet_updateSwitch hl
  have hvq := q.valid hv
  have hkq := (q.knows id.client).mpr hk
  exact .after q (plays_await ho hvq hkq ht fun a => hg _ a hvq hkq rfl)

/-- A call goes on in the scope of the open session, or is told that there is none. -/
theorem plays_inSession (id : CallId) {goOn : System → Token → System} (hk : s.Knows id.client)
    (hg : ∀ token, (s.client id.client).scope.openToken? = some token →
      s.Plays id.client false (goOn s token)) :
    s.Plays id.client false (s.inSession id goOn) := by
  unfold inSession
  split
  · next token h => exact hg token h
  · exact plays_complete id hk rfl

end System

end P4Control
