import P4Control.Proofs.Requests
import P4Control.Proofs.Running

namespace P4Control

/-!
# What a running call leaves behind

While a call runs, the other pending calls stay as they are, and none is overlooked.  In the end the
call has finished, or it waits for something it has asked for.

* `Switch.Ignores` — a switch gives no answer.
* `System.Began` — what a call may wait for that runs now.
* `System.Stroke` — what a running call leaves behind.
* `stroke_retire`, `stroke_suspend`, `stroke_failCall`, `stroke_await` — the steps of calls.
* `stroke_openSession`, `stroke_setPipelineConfig`, … — the calls.
-/

/-! ### What calls wait for -/

/-- A switch gives no answer to an operation.  A check of the program may ask twice. -/
inductive Switch.Ignores (w : Switch) : Operation → Prop
  | openStream (hs : w.scriptedStreams = [])
      (hf : (w.agent.enter .streamChannel).2 = some .stall) : Ignores w .openStream
  | setPipeline (request : SetPipelineRequest) (h : (w.setPipeline request).2 = .silence) :
      Ignores w .setPipeline
  | getPipeline (request : GetPipelineRequest) (h : (w.getPipeline request).2 = .silence) :
      Ignores w .getPipeline
  | getPipelineAgain (first second : GetPipelineRequest) (config : Option PipelineConfig)
      (hf : (w.getPipeline first).2 = .reply config)
      (hs : ((w.getPipeline first).1.getPipeline second).2 = .silence) : Ignores w .getPipeline
  | read (query : EntityQuery) (h : (w.read query).2 = .silence) : Ignores w .read
  | write (batch : UpdateBatch) (h : (w.write batch).2 = .silence) : Ignores w .write

/-- How long a client waits for the answer to an operation. -/
def ClientConfig.limit (config : ClientConfig) : Operation → Duration
  | .setPipeline => config.longTimeout
  | _ => config.shortTimeout

namespace ReadStream

theorem gather_waiting {held : Bool} {chunks : List (Arrival (List Entity))}
    (h : (gather held chunks).2 = .waiting) : held = true := by
  induction chunks with
  | nil =>
    unfold gather at h
    split at h
    · assumption
    · cases h
  | cons chunk rest ih =>
    cases chunk with
    | item es => exact ih h
    | failure status => cases h

/-- All entities are waited for only while the session lasts and the switch holds the stream open. -/
theorem collect_waiting {r : ReadStream} {cancelled : Bool}
    (h : (r.collect cancelled).2 = .waiting) : cancelled = false ∧ r.held = true := by
  unfold collect at h
  split at h
  · cases h
  · split at h
    · cases h
    · next hc => exact ⟨by simpa using hc, gather_waiting h⟩

theorem fetch_waiting {held : Bool} {chunks : List (Arrival (List Entity))}
    (h : (fetch held chunks).1 = .waiting) : held = true := by
  induction chunks with
  | nil =>
    unfold fetch at h
    split at h
    · assumption
    · cases h
  | cons chunk rest ih =>
    cases chunk with
    | item es =>
      cases es with
      | nil => exact ih h
      | cons e es => cases h
    | failure status => cases h

/-- The next entity is waited for only while the session lasts and the switch holds the stream open. -/
theorem next_held {r : ReadStream} {cancelled : Bool} (h : (r.next cancelled).1 = .waiting) :
    cancelled = false ∧ r.held = true := by
  unfold next at h
  split at h
  · split at h
    · cases h
    · split at h
      · cases h
      · next hc => exact ⟨by simpa using hc, fetch_waiting h⟩
  · cases h
  · cases h

end ReadStream

namespace System

/-- What a request may wait for that runs in `s` and has an operation to ask its switch for. -/
inductive Began (s : System) (K : CallId) : Operation → Wait → Prop
  /-- It is in the line of those that open the session. -/
  | turn : Began s K .openStream .turn
  /-- It has asked its switch, which gives no answer; it waits as long as the settings say. -/
  | asked (operation : Operation) (token : Token)
      (hi : (s.switch (s.client K.client).switch).Ignores operation) :
      Began s K operation (.answer operation token ((s.client K.client).config.limit operation)
        ⟨s.now.nanoseconds + ((s.client K.client).config.limit operation).nanoseconds⟩)
  /-- It has read from its switch, which holds the stream open. -/
  | reads (token : Token) (query : EntityQuery) (reply : ReadReply)
      (hr : ((s.switch (s.client K.client).switch).read query).2 = .reply reply)
      (hh : reply.held = true) : Began s K .read (.chunk token)

/-- The line of a client of those that open the session, without one call. -/
def lineBut (s : System) (K : CallId) (id : ClientId) : List Nat :=
  (s.client id).turns.filter fun n => decide ((⟨id, n⟩ : CallId) ≠ K)

/-- A call runs from `s` until it ends or waits for something that `P` says.  It may be there to set up
the stream of the scope `own`. -/
structure Stroke (s : System) (K : CallId) (own : Option Token) (P : Wait → Prop) (t : System) :
    Prop where
  others : ∀ id call, (⟨id, call.serial⟩ : CallId) ≠ K →
    (call ∈ (t.client id).calls ↔ call ∈ (s.client id).calls)
  /-- It has finished, or waits. -/
  outcome : (∃ f, t.finished = s.finished ++ [f] ∧ f.call = K ∧
      ∀ call ∈ (t.client K.client).calls, call.serial ≠ K.serial) ∨
    t.finished = s.finished ∧ ∃ call ∈ (t.client K.client).calls, call.serial = K.serial
  waits : ∀ call ∈ (t.client K.client).calls, call.serial = K.serial → P call.wait
  cancelled : ∀ id token, (s.client id).scope.isCancelled token = true →
    (t.client id).scope.isCancelled token = true
  made : ∀ id, (s.client id).made ≤ (t.client id).made
  /-- The others keep their places in line. -/
  line : ∀ id, t.lineBut K id = s.lineBut K id
  attended : ∀ stray, s.Attended (some K) (Astray stray K own) → t.Attended none stray

variable {s t u : System} {K : CallId} {own : Option Token} {P : Wait → Prop}

/-- If a call has finished, it is the one that has run. -/
theorem Stroke.call_of_finished (h : s.Stroke K own P t) {f : Finished}
    (hf : t.finished = s.finished ++ [f]) : f.call = K := by
  obtain ⟨g, hg, hK, -⟩ | ⟨hsame, -⟩ := h.outcome
  · rw [hf, List.append_cancel_left_eq] at hg
    obtain rfl : f = g := by simpa using hg
    exact hK
  · rw [hsame] at hf
    exact absurd (List.self_eq_append_right.mp hf) (List.cons_ne_nil f [])

/-! ### Around the steps -/

theorem Stroke.after (hs : Heeds s u) (h : u.Stroke K own P t) : s.Stroke K own P t where
  others id call hne := by
    rw [h.others id call hne, hs.calls]
  outcome := by
    rw [← hs.finished]
    exact h.outcome
  waits := h.waits
  cancelled id token hc := h.cancelled id token (hs.cancelled id token hc)
  made id := by
    rw [← hs.made]
    exact h.made id
  line id := by
    rw [h.line, lineBut, lineBut, hs.turns]
  attended stray ha := h.attended stray (ha.heeds hs)

theorem Stroke.then (h : s.Stroke K own P t) (ht : Heeds t u) : s.Stroke K own P u where
  others id call hne := by
    rw [ht.calls, h.others id call hne]
  outcome := by
    rw [ht.finished, ht.calls]
    exact h.outcome
  waits := by
    rw [ht.calls]
    exact h.waits
  cancelled id token hc := ht.cancelled id token (h.cancelled id token hc)
  made id := by
    rw [ht.made]
    exact h.made id
  line id := by
    rw [lineBut, ht.turns]
    exact h.line id
  attended stray ha := (h.attended stray ha).heeds ht

theorem Stroke.mono {Q : Wait → Prop} (h : s.Stroke K own P t) (hp : ∀ wait, P wait → Q wait) :
    s.Stroke K own Q t :=
  { h with waits := fun call hm hs => hp call.wait (h.waits call hm hs) }

/-- The scope begun for a session is set up by the call that begins it. -/
theorem Stroke.beginScope {token : Token} {afterFailure : Bool} {begun : Scope StreamId}
    (hb : (s.client K.client).scope.begin = some (token, afterFailure, begun))
    (h : (s.beginScope K.client begun).Stroke K (some token) P t) : s.Stroke K none P t := by
  obtain ⟨-, -, -, hbegun⟩ := Scope.begin_eq_some hb
  have same : ∀ id, ((s.beginScope K.client begun).client id).calls = (s.client id).calls ∧
      ((s.beginScope K.client begun).client id).scope.cancelled = (s.client id).scope.cancelled ∧
      ((s.beginScope K.client begun).client id).made = (s.client id).made ∧
      ((s.beginScope K.client begun).client id).turns = (s.client id).turns := by
    intro id
    rw [client_beginScope]
    split
    · next he => exact he ▸ ⟨rfl, by rw [hbegun], rfl, rfl⟩
    · exact ⟨rfl, rfl, rfl, rfl⟩
  refine ⟨fun id call hne => ?_, h.outcome, h.waits, fun id token' hc => h.cancelled id token' ?_,
    fun id => ?_, fun id => ?_, fun stray ha => h.attended stray ?_⟩
  · rw [h.others id call hne, (same id).1]
  · unfold Scope.isCancelled
    rw [(same id).2.1]
    exact hc
  · rw [← (same id).2.2.1]
    exact h.made id
  · rw [h.line, lineBut, lineBut, (same id).2.2.2]
  · refine Attended.beginScope (ha.weaken fun id token' hst => ?_) hb
    rcases hst with hst | ⟨-, hn⟩
    · exact hst
    · cases hn

/-! ### The end of a call -/

theorem Attended.record {busy : Option CallId} {stray : ClientId → Token → Prop}
    (h : s.Attended busy stray) (f : Finished) : (s.record f).Attended busy stray :=
  ⟨h.serials, h.made, h.running, h.queue, h.openers, h.sorted, h.timers, h.tended, h.settingUp⟩

theorem finished_withdraw (s : System) (K : CallId) : (s.withdraw K).finished = s.finished := by
  rw [withdraw_eq]

/-- Whoever leaves the line leaves the others as they are. -/
theorem lineBut_withdraw (s : System) (K : CallId) (id : ClientId) :
    (s.withdraw K).lineBut K id = s.lineBut K id := by
  have gone : ∀ {p : Nat → Bool} {n : Nat}, p n = false → ∀ turns : List Nat,
      (turns.erase n).filter p = turns.filter p := by
    intro p n hn turns
    induction turns with
    | nil => rfl
    | cons m rest ih =>
      by_cases he : m = n
      · subst he
        rw [List.erase_cons_head, List.filter_cons_of_neg (by simp [hn])]
      · rw [List.erase_cons_tail (by simpa using he), List.filter_cons, List.filter_cons, ih]
  unfold lineBut
  rw [(withdraw_parts s K id).2.1]
  split
  · next he => exact gone (by simp [← he]) _
  · rfl

/-- The call ends.  It leaves no scope without its stream. -/
theorem stroke_retire {f : Finished} (hf : f.call = K) (kind : CallKind)
    (hown : ∀ token, own = some token → (s.client K.client).scope.current = some token →
      (s.client K.client).scope.isOpen = true) :
    s.Stroke K own P ((s.record f).retire K kind) := by
  have parts := withdraw_parts (s.record f) K
  -- the call is withdrawn first, and its client is let go of afterwards
  have hw : s.Stroke K own P ((s.record f).withdraw K) := by
    refine ⟨fun id call hne => ?_, .inl ⟨f, ?_, hf, fun call hm => ?_⟩, fun call hm hs => ?_,
      fun id token hc => ?_, fun id => Nat.le_of_eq (parts id).2.2.1.symm, lineBut_withdraw _ K,
      fun stray ha => ?_⟩
    · rw [mem_calls_withdraw]
      exact and_iff_left hne
    · rw [finished_withdraw]
      rfl
    · exact fun hs => (mem_calls_withdraw.mp hm).2 (by rw [hs])
    · exact absurd (by rw [hs]) (mem_calls_withdraw.mp hm).2
    · rw [(parts id).2.2.2]
      exact hc
    · refine (ha.record f).withdraw.strengthen fun id token hst hc ho => ?_
      rw [(parts id).2.2.2] at hc ho
      rcases hst with hst | ⟨rfl, hn⟩
      · exact hst
      · rw [show ((s.record f).client K.client).scope.isOpen = true from hown token hn hc] at ho
        cases ho
  exact hw.then (heeds_retire _ K kind)

theorem stroke_complete (result : CallResult)
    (hown : ∀ token, own = some token → (s.client K.client).scope.current = some token →
      (s.client K.client).scope.isOpen = true) : s.Stroke K own P (s.complete K result) :=
  stroke_retire (f := ⟨K, result, none⟩) rfl .request hown

/-- A call that sets up no stream ends. -/
theorem stroke_ends (s : System) (K : CallId) (P : Wait → Prop) (result : CallResult) :
    s.Stroke K none P (s.complete K result) :=
  stroke_complete result (by simp)

theorem stroke_endsNext (s : System) (K : CallId) (P : Wait → Prop) (result : CallResult)
    (cursor : ReadCursor) : s.Stroke K none P (s.completeNext K result cursor) :=
  stroke_retire (f := ⟨K, result, some cursor⟩) rfl .next (by simp)

/-- A scope that has ended is not in place. -/
theorem current_failSession (s : System) (id : ClientId) (token : Token) :
    ((s.failSession id token).client id).scope.current ≠ some token := by
  by_cases ht : (s.client id).scope.current = some token
  · rw [failSession_eq ht, client_endScope, if_pos rfl]
    simp
  · rwa [failSession_eq_self ht]

/-- The call fails, and if it was to set up a stream, its scope ends. -/
theorem stroke_failCall {operation : Operation} {token : Token} {failure : Failure}
    (hown : ∀ token', own = some token' → operation = .openStream ∧ token' = token) :
    s.Stroke K own P (s.failCall K operation token failure) := by
  have he : s.failCall K operation token failure =
      (if operation = .openStream then
        (s.report K.client operation failure).1.failSession K.client token
      else (s.report K.client operation failure).1).complete K
        (.failed (s.report K.client operation failure).2) := rfl
  rw [he]
  refine .after (heeds_report K.client operation failure) ?_
  generalize (s.report K.client operation failure).1 = u
  split
  · refine .after (heeds_failSession K.client token) (stroke_complete _ fun token' ht hc => ?_)
    obtain rfl := (hown token' ht).2
    exact absurd hc (current_failSession u K.client token')
  · next ho => exact stroke_complete _ fun token' ht => absurd (hown token' ht).1 ho

/-! ### Waiting -/

theorem stroke_suspend (kind : CallKind) {wait : Wait} (ha : s.Tends K wait)
    (hline : K.serial ∈ (s.client K.client).turns → wait.opens = true)
    (hown : ∀ token, own = some token → wait.settingUp? = some token) (hp : P wait) :
    s.Stroke K own P (s.suspend K kind wait) := by
  obtain ⟨⟨call, hm, hs⟩, hw⟩ := wait_suspend s K kind wait
  refine ⟨fun id call hne => mem_calls_suspend hne, .inr ⟨rfl, call, hm, hs⟩, fun call hm hs => ?_,
    fun id token hc => ?_, fun id => Nat.le_of_eq (suspend_parts kind wait id).2.1.symm, fun id => ?_,
    fun stray h => h.suspend kind ha hline fun token he _ _ => hown token he⟩
  · rw [hw call hm hs]
    exact hp
  · rw [(suspend_parts kind wait id).2.2]
    exact hc
  · rw [lineBut, (suspend_parts kind wait id).1, lineBut]

theorem Stroke.setTimer (timer : Timer) (ht : timer.call = K)
    (h : (s.setTimer timer).Stroke K own P t) : s.Stroke K own P t :=
  { h with
    attended := fun stray ha => h.attended stray (ha.setTimer (ht ▸ ha.running K rfl)) }

/-- The call goes on with an answer, or waits for it. -/
theorem stroke_await {α : Type} {operation : Operation} {token : Token} {limit : Duration}
    {answer : Answer α} {goOn : System → α → System}
    (hc : (s.client K.client).scope.isCancelled token = false)
    (hop : operation = .openStream → (s.client K.client).turns.head? = some K.serial)
    (hline : K.serial ∈ (s.client K.client).turns → operation = .openStream)
    (hown : ∀ token', own = some token' → operation = .openStream ∧ token' = token)
    (hp : answer = .silence →
      P (.answer operation token limit ⟨s.now.nanoseconds + limit.nanoseconds⟩))
    (hg : ∀ a, answer = .reply a → s.Stroke K own P (goOn s a)) :
    s.Stroke K own P (s.await K operation token limit answer goOn) := by
  unfold await
  cases answer with
  | reply a => exact hg a rfl
  | refused status => exact stroke_failCall hown
  | silence =>
    dsimp only
    split
    · exact stroke_failCall hown
    · next hl =>
      -- the deadline lies ahead, so the timer is all that the call needs for now
      refine .setTimer ⟨⟨s.now.nanoseconds + limit.nanoseconds⟩, K⟩ rfl ?_
      refine stroke_suspend .request ⟨fun hcan => ?_, fun hd => ?_, fun _ => ?_, hop⟩ (fun hin => ?_)
        (fun token' he => ?_) (hp rfl)
      · rw [show (s.client K.client).scope.isCancelled token = true from hcan] at hc
        cases hc
      · exact absurd (show s.now.nanoseconds + limit.nanoseconds ≤ s.now.nanoseconds from hd)
          (by omega)
      · exact mem_insertTimer.mpr (.inl rfl)
      · simpa [Wait.opens] using hline hin
      · obtain ⟨rfl, rfl⟩ := hown token' he
        rfl

/-! ### Opening the session -/

theorem ignores_openStream (s : System) (n : SwitchName) (capacity : Option Nat)
    (h : (s.openStream n capacity).2 = .silence) : (s.switch n).Ignores .openStream := by
  unfold openStream at h
  split at h
  · next hs =>
    refine .openStream hs ?_
    simp only [attachStream] at h
    split at h
    · cases h
    · next hf => exact hf
    · cases h
  · cases h

/-- The stream is there: the session opens, or its scope has ended. -/
theorem stroke_activateSession {token : Token} {afterFailure : Bool} {st : StreamId}
    (hown : ∀ token', own = some token' → token' = token) :
    s.Stroke K own P (s.activateSession K token afterFailure st) := by
  unfold activateSession
  dsimp only
  split
  · next ha =>
    refine .after ((heeds_dropUplink st).trans (heeds_dropListener st))
      (stroke_complete _ fun token' he hc => ?_)
    obtain rfl := hown token' he
    rw [(sameClients_dropListener _ st).client, (sameClients_dropUplink s st).client] at hc
    simp [Scope.activate, Scope.isCurrent, hc] at ha
  · next activated ha =>
    -- the session is open before the call ends, so the call leaves no scope behind
    have hact := (Scope.activate_eq_some ha).2
    have hopen : activated.isOpen = true := by
      rw [hact]
      rfl
    have hcan : activated.cancelled = (s.client K.client).scope.cancelled := by rw [hact]
    have hlive := heeds_goLive (s := s) K.client token afterFailure st hopen hcan
    refine .after hlive (stroke_complete _ fun token' _ _ => ?_)
    rw [client_goLive, if_pos rfl]
    exact hopen

/-- The call whose turn it is sets up the session. -/
theorem stroke_setUp (hv : (s.client K.client).scope.Valid)
    (hturn : (s.client K.client).turns.head? = some K.serial)
    (hp : ∀ token, (s.switch (s.client K.client).switch).Ignores .openStream →
      P (.answer .openStream token (s.client K.client).config.shortTimeout
        ⟨s.now.nanoseconds + (s.client K.client).config.shortTimeout.nanoseconds⟩)) :
    s.Stroke K none P (s.setUp K) := by
  unfold setUp
  dsimp only
  split
  · exact stroke_complete _ (by simp)
  · next token afterFailure begun hb =>
    have hvb := hv.begin hb
    have hcur : begun.current = some token := by
      obtain ⟨-, rfl, -, rfl⟩ := Scope.begin_eq_some hb
      rfl
    refine .beginScope hb ?_
    -- the switch is asked in the new scope, and its answer touches no client
    have hc := sameClients_openStream (s.beginScope K.client begun) (s.client K.client).switch
      (some (max (s.client K.client).config.queueCapacity 1))
    have hs := heeds_openStream (s := s.beginScope K.client begun) (s.client K.client).switch
      (some (max (s.client K.client).config.queueCapacity 1))
    have hi := ignores_openStream (s.beginScope K.client begun) (s.client K.client).switch
      (some (max (s.client K.client).config.queueCapacity 1))
    generalize (s.beginScope K.client begun).openStream (s.client K.client).switch
      (some (max (s.client K.client).config.queueCapacity 1)) = opened at hc hs hi
    obtain ⟨u, answer⟩ := opened
    have hself : u.client K.client =
        { s.client K.client with scope := begun, arbiter := (s.client K.client).arbiter.forget } := by
      rw [hc.client, client_beginScope, if_pos rfl]
    refine .after hs (stroke_await ?_ ?_ ?_ ?_ (fun hsil => ?_) fun st _ => ?_)
    · rw [hself]
      exact hvb.isCancelled_current hcur
    · rw [hself]
      exact fun _ => hturn
    · exact fun _ => rfl
    · rintro token' ⟨⟩
      exact ⟨rfl, rfl⟩
    · rw [show u.now = s.now from hs.now]
      exact hp token (hi hsil)
    · refine stroke_activateSession ?_
      rintro token' ⟨⟩
      rfl

theorem Stroke.enterLine (hn : K.serial ∉ (s.client K.client).turns)
    (h : (s.enterLine K).Stroke K none P t) : s.Stroke K none P t := by
  have same := enterLine_parts s K
  refine ⟨fun id call hne => ?_, h.outcome, h.waits, fun id token hc => h.cancelled id token ?_,
    fun id => ?_, fun id => ?_, fun stray ha => h.attended stray (ha.enterLine hn)⟩
  · rw [h.others id call hne, (same id).1]
  · rw [(same id).2.2]
    exact hc
  · rw [← (same id).2.1]
    exact h.made id
  · rw [h.line, lineBut, lineBut, client_enterLine]
    split
    · next he => simp [← he]
    · rfl

section

variable {stray : ClientId → Token → Prop}

/-- A new call is not in line yet. -/
theorem Attended.not_mem_turns (ha : s.Attended none stray) (id : ClientId) :
    (s.newCall id).2.serial ∉ ((s.newCall id).1.client id).turns := by
  rw [(newCall_parts s id id).2.1]
  exact fun hm => Nat.lt_irrefl _ (ha.lt_made hm)

/-- What a call began to wait for when it was made. -/
theorem Began.of_newCall {id : ClientId} {operation : Operation} {wait : Wait}
    (h : (s.newCall id).1.Began (s.newCall id).2 operation wait) :
    s.Began (s.newCall id).2 operation wait := by
  have hc : ((s.newCall id).1.client (s.newCall id).2.client).config =
      (s.client (s.newCall id).2.client).config := (newCall_parts s id id).2.2.2.1
  have hsw : ((s.newCall id).1.client (s.newCall id).2.client).switch =
      (s.client (s.newCall id).2.client).switch := (newCall_parts s id id).2.2.2.2.1
  cases h with
  | turn => exact .turn
  | asked operation token hi =>
    rw [hc]
    rw [hsw] at hi
    exact .asked operation token hi
  | reads token query reply hr hh =>
    rw [hsw] at hr
    exact .reads token query reply hr hh

/-- Opens the session, at once or when the call has its turn. -/
theorem stroke_openSession (hv : s.Valid) (ha : s.Attended none stray) (id : ClientId) :
    (s.newCall id).1.Stroke (s.newCall id).2 none (s.Began (s.newCall id).2 .openStream)
      (s.openSession id).1 := by
  have hn := ha.not_mem_turns id
  have hs : ((s.newCall id).1.client id).scope.Valid := by
    rw [(newCall_parts s id id).2.2.1]
    exact hv.scopes id
  refine Stroke.mono ?_ fun wait => Began.of_newCall
  refine .enterLine hn ?_
  unfold openSession
  dsimp only
  generalize (s.newCall id).1 = u at hn hs
  have hK : (s.newCall id).2.client = id := rfl
  generalize (s.newCall id).2 = K at hn hK
  subst hK
  have hself := (client_enterLine u K K.client).trans (if_pos rfl)
  split
  · next hfirst =>
    refine stroke_setUp ?_ ?_ fun token hi => ?_
    · rw [hself]
      exact hs
    · rw [hself, hfirst]
      rfl
    · have hb := Began.asked (s := u) (K := K) .openStream token (by rw [hself] at hi; exact hi)
      rw [hself]
      exact hb
  · next hfirst =>
    refine stroke_suspend .request ⟨?_, fun hh => ?_⟩ (fun _ => rfl) (by simp) .turn
    · rw [hself]
      exact List.mem_append_right _ (List.mem_singleton.mpr rfl)
    · rw [hself] at hh
      -- The call is not at the front, because somebody was in line before it.
      cases ht : (u.client K.client).turns with
      | nil => exact absurd ht hfirst
      | cons first rest =>
        rw [ht] at hh hn
        exact absurd (Option.some.inj hh ▸ List.mem_cons_self) hn

/-! ### The calls in the open session -/

/-- What a call needs to know of its client when it runs outside the line of those that open. -/
structure Unlined (s : System) (K : CallId) : Prop where
  scope : (s.client K.client).scope.Valid
  turns : K.serial ∉ (s.client K.client).turns

theorem Unlined.of_newCall (hv : s.Valid) (ha : s.Attended none stray) (id : ClientId) :
    (s.newCall id).1.Unlined (s.newCall id).2 where
  scope := by
    rw [(newCall_parts s id _).2.2.1]
    exact hv.scopes _
  turns := ha.not_mem_turns id

theorem Unlined.updateSwitch (h : s.Unlined K) (n : SwitchName) (f : Switch → Switch) :
    (s.updateSwitch n f).Unlined K := ⟨h.scope, h.turns⟩

theorem stroke_inSession {goOn : System → Token → System}
    (hg : ∀ token, (s.client K.client).scope.current = some token →
      s.Stroke K none P (goOn s token)) : s.Stroke K none P (s.inSession K goOn) := by
  unfold inSession
  split
  · next token h => exact hg token (Scope.current_of_openToken? h)
  · exact stroke_ends _ _ _ _

/-- The call asks its switch, and goes on with the answer or waits for it. -/
theorem stroke_ask {α : Type} {operation : Operation} {token : Token} {limit : Duration}
    {n : SwitchName} {w : Switch} {answer : Answer α} {goOn : System → α → System}
    (hu : s.Unlined K) (ht : (s.client K.client).scope.current = some token)
    (hop : operation ≠ .openStream)
    (hp : answer = .silence →
      P (.answer operation token limit ⟨s.now.nanoseconds + limit.nanoseconds⟩))
    (hg : ∀ a, answer = .reply a →
      (s.updateSwitch n fun _ => w).Stroke K none P (goOn (s.updateSwitch n fun _ => w) a)) :
    s.Stroke K none P ((s.updateSwitch n fun _ => w).await K operation token limit answer goOn) := by
  have hs : Heeds s (s.updateSwitch n fun _ => w) :=
    heeds_of_clients (fun _ => rfl) rfl rfl rfl fun _ h => h
  exact .after hs (stroke_await (hu.scope.isCancelled_current ht) (fun ho => absurd ho hop)
    (fun hin => absurd hin hu.turns) (by simp) hp hg)

/-- Pushes a program with device data. -/
theorem stroke_setPipelineConfig (hv : s.Valid) (ha : s.Attended none stray) (id : ClientId)
    (conf : Pipeconf) (deviceData : Bytes) :
    (s.newCall id).1.Stroke (s.newCall id).2 none (s.Began (s.newCall id).2 .setPipeline)
      (s.setPipelineConfig id conf deviceData).1 := by
  have hu := Unlined.of_newCall hv ha id
  refine Stroke.mono ?_ fun wait => Began.of_newCall
  unfold setPipelineConfig
  dsimp only
  split
  · exact stroke_ends _ _ _ _
  · dsimp only
    refine stroke_inSession fun token ht => ?_
    exact stroke_ask hu ht (by simp) (fun hs => .asked .setPipeline token (.setPipeline _ hs))
      fun t _ => stroke_ends _ _ _ _

/-- Asks the switch for its program, and goes on with it. -/
theorem stroke_queryPipeline {view : PipelineView}
    {goOn : System → Option PipelineConfig → System} (hu : s.Unlined K)
    (hp : ∀ token request,
      ((s.switch (s.client K.client).switch).getPipeline request).2 = .silence →
        P (.answer .getPipeline token (s.client K.client).config.shortTimeout
          ⟨s.now.nanoseconds + (s.client K.client).config.shortTimeout.nanoseconds⟩))
    (hg : ∀ request config,
      ((s.switch (s.client K.client).switch).getPipeline request).2 = .reply config →
        (s.updateSwitch (s.client K.client).switch fun _ =>
          ((s.switch (s.client K.client).switch).getPipeline request).1).Stroke K none P
          (goOn (s.updateSwitch (s.client K.client).switch fun _ =>
            ((s.switch (s.client K.client).switch).getPipeline request).1) config)) :
    s.Stroke K none P (s.queryPipeline K view goOn) := by
  unfold queryPipeline
  refine stroke_inSession fun token ht => ?_
  exact stroke_ask hu ht (by simp) (hp token _) (hg _)

/-- Asks whether the switch runs a program.  If the switch keeps no cookie, it is asked again. -/
theorem stroke_isPipelineConfigSet (hv : s.Valid) (ha : s.Attended none stray) (id : ClientId)
    (conf : Pipeconf) (deviceData : Bytes) :
    (s.newCall id).1.Stroke (s.newCall id).2 none (s.Began (s.newCall id).2 .getPipeline)
      (s.isPipelineConfigSet id conf deviceData).1 := by
  have hu := Unlined.of_newCall hv ha id
  have answer : ∀ (t : System) (b : Bool),
      t.Stroke (s.newCall id).2 none ((s.newCall id).1.Began (s.newCall id).2 .getPipeline)
        (t.complete (s.newCall id).2 (.returned (.answer b))) :=
    fun t b => stroke_ends _ _ _ _
  refine Stroke.mono ?_ fun wait => Began.of_newCall
  unfold isPipelineConfigSet
  dsimp only
  refine stroke_queryPipeline hu (fun token request hs =>
    .asked .getPipeline token (.getPipeline request hs)) fun request config hr => ?_
  split
  · exact answer _ _
  · split
    · exact answer _ _
    · split
      · exact answer _ _
      · -- the deadline of the second query counts from now as well
        refine stroke_queryPipeline (hu.updateSwitch _ _) (fun token again hs => ?_)
          fun again config' _ => ?_
        · refine .asked .getPipeline token (.getPipelineAgain request again _ hr ?_)
          rw [client_updateSwitch, switch_updateSwitch_self] at hs
          exact hs
        · split <;> exact answer _ _

/-- Submits a read, and goes on with the stream of the reply. -/
theorem stroke_submitRead {request : ReadRequest} {goOn : System → Token → ReadStream → System}
    (hu : s.Unlined K)
    (hp : ∀ token query, ((s.switch (s.client K.client).switch).read query).2 = .silence →
      P (.answer .read token (s.client K.client).config.shortTimeout
        ⟨s.now.nanoseconds + (s.client K.client).config.shortTimeout.nanoseconds⟩))
    (hg : ∀ (t : System) token stream, SameClients s t →
      (stream.held = true → ∃ query reply,
        ((s.switch (s.client K.client).switch).read query).2 = .reply reply ∧ reply.held = true) →
      t.Stroke K none P (goOn t token stream)) :
    s.Stroke K none P (s.submitRead K request goOn) := by
  unfold submitRead
  dsimp only
  split
  · exact stroke_ends _ _ _ _
  · refine stroke_inSession fun token ht => ?_
    split
    · exact hg s token .spent (.refl s) fun h => by cases h
    · exact stroke_ask hu ht (by simp) (hp token _) fun reply hr =>
        hg _ token _ (sameClients_updateSwitch s _ _) fun hh => ⟨_, reply, hr, hh⟩

/-- Reads all entities that the request asks for. -/
theorem stroke_read (hv : s.Valid) (ha : s.Attended none stray) (id : ClientId)
    (request : ReadRequest) :
    (s.newCall id).1.Stroke (s.newCall id).2 none (s.Began (s.newCall id).2 .read)
      (s.read id request).1 := by
  have hu := Unlined.of_newCall hv ha id
  refine Stroke.mono ?_ fun wait => Began.of_newCall
  unfold read
  dsimp only
  refine stroke_submitRead hu (fun token query hs => .asked .read token (.read query hs))
    fun t token stream hc hh => ?_
  split
  · exact stroke_failCall (by simp)
  · exact stroke_failCall (by simp)
  · next hw =>
    obtain ⟨hcan, hheld⟩ := ReadStream.collect_waiting (congrArg Prod.snd hw)
    obtain ⟨query, reply, hr, hreply⟩ := hh hheld
    refine stroke_suspend .request (fun hcan' => ?_) (fun hin => ?_) (by simp)
      (.reads token query reply hr hreply)
    · rw [show (t.client (s.newCall id).2.client).scope.isCancelled token = false from hcan] at hcan'
      cases hcan'
    · rw [hc.client] at hin
      exact absurd hin hu.turns
  · exact stroke_ends _ _ _ _

/-- Starts a read and hands its stream to the caller. -/
theorem stroke_openRead (hv : s.Valid) (ha : s.Attended none stray) (id : ClientId)
    (request : ReadRequest) :
    (s.newCall id).1.Stroke (s.newCall id).2 none (s.Began (s.newCall id).2 .read)
      (s.openRead id request).1 := by
  have hu := Unlined.of_newCall hv ha id
  refine Stroke.mono ?_ fun wait => Began.of_newCall
  unfold openRead
  dsimp only
  exact stroke_submitRead hu (fun token query hs => .asked .read token (.read query hs))
    fun t token stream _ _ => stroke_retire (f := ⟨(s.newCall id).2, .returned .stream, some _⟩) rfl
      .request (by simp)

/-- Takes the next entity from a read stream, which may be held open by the switch. -/
theorem stroke_readNext (hv : s.Valid) (ha : s.Attended none stray) (cursor : ReadCursor) :
    (s.newCall cursor.client).1.Stroke (s.newCall cursor.client).2 none
      (fun wait => wait = .chunk cursor.token ∧ cursor.stream.held = true)
      (s.readNext cursor).1 := by
  have hu := Unlined.of_newCall hv ha cursor.client
  unfold readNext
  dsimp only
  split
  · exact stroke_endsNext _ _ _ _ _
  · exact stroke_endsNext _ _ _ _ _
  · next hw =>
    obtain ⟨hcan, hheld⟩ := ReadStream.next_held hw
    refine stroke_suspend .next (fun hcan' => ?_) (fun hin => absurd hin hu.turns) (by simp)
      ⟨rfl, hheld⟩
    rw [show ((s.newCall cursor.client).1.client (s.newCall cursor.client).2.client).scope.isCancelled
      cursor.token = false from hcan] at hcan'
    cases hcan'
  · exact stroke_endsNext _ _ _ _ _
  · next status _ =>
    exact .after (heeds_report cursor.client .read (.refused status cursor.token))
      (stroke_endsNext _ _ _ _ _)

/-- Writes the updates of the request. -/
theorem stroke_write (hv : s.Valid) (ha : s.Attended none stray) (id : ClientId)
    (request : WriteRequest) :
    (s.newCall id).1.Stroke (s.newCall id).2 none (s.Began (s.newCall id).2 .write)
      (s.write id request).1 := by
  have hu := Unlined.of_newCall hv ha id
  refine Stroke.mono ?_ fun wait => Began.of_newCall
  unfold write
  dsimp only
  split
  · exact stroke_ends _ _ _ _
  · dsimp only
    refine stroke_inSession fun token ht => ?_
    split
    · exact stroke_ends _ _ _ _
    · refine stroke_ask hu ht (by simp) (fun hs => .asked .write token (.write _ hs))
        fun statuses _ => ?_
      split <;> exact stroke_ends _ _ _ _

/-! ### Waiting calls -/

theorem call?_eq_some {call : Call} (h : ((s.client K.client).calls.map (·.serial)).Nodup)
    (hm : call ∈ (s.client K.client).calls) (hs : call.serial = K.serial) :
    s.call? K = some call := by
  unfold call?
  cases hf : (s.client K.client).calls.find? fun c => decide (c.serial = K.serial) with
  | none => exact absurd (decide_eq_true hs) (List.find?_eq_none.mp hf call hm)
  | some other =>
    have hsame : other.serial = K.serial := by simpa using List.find?_some hf
    rw [eq_of_serial h (List.mem_of_find?_eq_some hf) hm (hsame.trans hs.symm)]

/-- What a call that has been resumed may wait for: the same as before, or, if it had to wait for its
turn, what it has asked for now. -/
def Goes (s : System) (K : CallId) (before wait : Wait) : Prop :=
  wait = before ∨ before = .turn ∧ s.Began K .openStream wait

/-- A waiting call goes on, if it can. -/
theorem stroke_resume (hv : s.Valid) (ha : s.Attended none stray) {call : Call}
    (hm : call ∈ (s.client K.client).calls) (hs : call.serial = K.serial) :
    s.dequeue.Stroke K call.wait.settingUp? (s.Goes K call.wait) (s.dequeue.resume K) := by
  have hserials := ha.serials K.client
  have hcall : s.dequeue.call? K = some call := call?_eq_some (s := s.dequeue) hserials hm hs
  have hattends : s.Tends K call.wait := by
    have h := ha.tended K.client call hm (by simp)
    rwa [hs] at h
  -- a call that cannot go on is still looked after
  have stays : s.dequeue.Tends K call.wait →
      s.dequeue.Stroke K call.wait.settingUp? (s.Goes K call.wait) s.dequeue := by
    intro hstay
    refine ⟨fun _ _ _ => .rfl, .inr ⟨rfl, call, hm, hs⟩, fun other ho he => .inl ?_,
      fun _ _ hc => hc, fun _ => Nat.le_refl _, fun _ => rfl,
      fun stray h => h.putBack hm hs hstay (fun hin => ?_) fun _ he _ _ => he⟩
    · rw [eq_of_serial hserials ho hm (he.trans hs.symm)]
    · exact ha.opens_of_mem_turns hm (hs ▸ hin)
  unfold resume
  simp only [hcall]
  generalize call.wait = wait at hattends stays ⊢
  cases wait with
  | turn =>
    dsimp only
    split
    · next hturn =>
      exact stroke_setUp (hv.scopes K.client) hturn fun token hi =>
        .inr ⟨rfl, .asked .openStream token hi⟩
    · next hturn => exact stays ⟨hattends.1, fun hh => absurd hh hturn⟩
  | answer operation token limit deadline =>
    have hown : ∀ token', (Wait.answer operation token limit deadline).settingUp? = some token' →
        operation = .openStream ∧ token' = token := by
      intro token' he
      cases operation <;> simp [Wait.settingUp?] at he ⊢
      exact he.symm
    dsimp only
    split
    · exact stroke_failCall hown
    · next hc =>
      split
      · exact stroke_failCall hown
      · next hd =>
        exact stays ⟨fun h => absurd h hc, fun h => absurd h hd, hattends.2.2.1, hattends.2.2.2⟩
  | chunk token =>
    dsimp only
    split
    · cases call.kind with
      | request => exact stroke_ends _ _ _ _
      | next => exact stroke_endsNext _ _ _ _ _
    · next hc => exact stays fun h => absurd h hc

end

end System

end P4Control
