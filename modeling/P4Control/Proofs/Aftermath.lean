import P4Control.Proofs.Builders
import P4Control.Proofs.Closing
import P4Control.Proofs.Lifecycle
import P4Control.Proofs.Setback

namespace P4Control

/-!
# Failed calls along a run

A call in the open session fails as its switch answers, when it is started.  Later it fails only because
its scope has ended or because its time is up.  A call that takes the session along takes all calls along
that wait in it.

* `Scope.Shut` — a scope that has begun, and in which no session is open.
* `unopened_after` — no session is open while a call waits for the stream of the scope in place.
* `Attended.front_of_line` — whoever is first in line while a session is open is about to run.
* `Scenario.exchange?` — what the switch makes of a request, and how the call fails.
* `Scenario.Exchanges` — the requests in a session, each with that.
* `System.Concluded` — a waiting call has failed, and nothing else has changed.
* `failures_classified` — a failed call has the effect that goes with the way it fails.
-/

/-- The scope of `token` has begun, and if it is in place no session is open. -/
def Scope.Shut {α : Type} (s : Scope α) (token : Token) : Prop :=
  token < s.begun ∧ (s.current = some token → s.isOpen = false)

/-- Whoever waits for a stream waits in its scope. -/
theorem Wait.token?_of_settingUp {wait : Wait} {token : Token}
    (h : wait.settingUp? = some token) : wait.token? = some token := by
  cases wait with
  | answer operation token' limit deadline =>
    cases operation with
    | openStream => exact h
    | _ => cases h
  | _ => cases h

namespace System

variable {s t : System} {K : CallId} {wait : Wait} {stray : ClientId → Token → Prop}

/-! ### The stream of a scope -/

/-- A call that has ended does not wait. -/
theorem not_waitsFor_complete (s : System) (K : CallId) (result : CallResult) (wait : Wait) :
    ¬ (s.complete K result).WaitsFor K wait := by
  rintro ⟨call, hm, hs, -⟩
  have hr := heeds_release (s := (s.record ⟨K, result, none⟩).withdraw K) K.client
  have hm' : call ∈ (((s.record ⟨K, result, none⟩).withdraw K).client K.client).calls := by
    rw [← hr.calls]
    exact hm
  exact (mem_calls_withdraw.mp hm').2 (by rw [hs])

theorem not_waitsFor_failCall (s : System) (K : CallId) (operation : Operation) (token : Token)
    (failure : Failure) (wait : Wait) : ¬ (s.failCall K operation token failure).WaitsFor K wait :=
  not_waitsFor_complete _ K _ wait

/-- While a session is open, whoever is first in line is about to run. -/
theorem Attended.front_of_line (ha : s.Attended none stray) (hv : s.Valid)
    (hu : ∀ K wait token, s.WaitsFor K wait → wait.settingUp? = some token →
      (s.client K.client).scope.Shut token)
    (ho : (s.client K.client).scope.isOpen = true) (hw : s.WaitsFor K .turn) :
    ∃ first, (s.client K.client).turns.head? = some first ∧
      .resume ⟨K.client, first⟩ ∈ s.ready := by
  obtain ⟨first, hfirst, hruns | ⟨token, limit, deadline, hother⟩⟩ := ha.first_in_line hw
  · exact ⟨first, hfirst, hruns⟩
  · -- it is told that its scope has ended, for the one in place is open
    refine ⟨first, hfirst, (ha.of_waitsFor hother).1 ?_⟩
    cases hcan : (s.client K.client).scope.isCancelled token with
    | true => rfl
    | false =>
      have hlt : token < (s.client K.client).scope.begun := by
        obtain ⟨call, hm, -, hwait⟩ := hother
        exact hv.waits K.client call hm token (by rw [hwait]; rfl)
      have hcur := (hv.scopes K.client).current_eq_some hlt hcan
      rw [(hu _ _ token hother rfl).2 hcur] at ho
      cases ho

/-- A call whose turn it is waits only while the session has not opened. -/
theorem isOpen_setUp (hv : (s.client K.client).scope.Valid) (hw : (s.setUp K).WaitsFor K wait) :
    ((s.setUp K).client K.client).scope.isOpen = false := by
  unfold setUp at hw ⊢
  dsimp only at hw ⊢
  split at hw
  · exact absurd hw (not_waitsFor_complete _ K _ wait)
  · next token afterFailure begun hb =>
    obtain ⟨hcur, -, -, -⟩ := Scope.begin_eq_some hb
    have hbegun : begun.isOpen = false := by
      obtain ⟨-, -, -, rfl⟩ := Scope.begin_eq_some hb
      exact hv.isOpen_eq_false (hv.slot_eq_none hcur)
    have hsame := sameClients_openStream (s := s.beginScope K.client begun)
      (s.client K.client).switch (some (max (s.client K.client).config.queueCapacity 1))
    generalize (s.beginScope K.client begun).openStream (s.client K.client).switch
      (some (max (s.client K.client).config.queueCapacity 1)) = opened at hw hsame ⊢
    obtain ⟨u, answer⟩ := opened
    have hscope : (u.client K.client).scope = begun := by
      rw [hsame.client, beginScope, client_updateClient_self]
    unfold await at hw ⊢
    cases answer with
    | refused status => exact absurd hw (not_waitsFor_failCall _ K _ _ _ wait)
    | reply st =>
      dsimp only [activateSession] at hw
      split at hw
      · exact absurd hw (not_waitsFor_complete _ K _ wait)
      · exact absurd hw (not_waitsFor_complete _ K _ wait)
    -- The call is left to wait, and the scope stays as it began.
    | silence =>
      dsimp only at hw ⊢
      split at hw
      · exact absurd hw (not_waitsFor_failCall _ K _ _ _ wait)
      · next hlimit =>
        rw [if_neg hlimit]
        show ((u.suspend K _ _).client K.client).scope.isOpen = false
        rw [(suspend_parts _ _ _).2.2, hscope]
        exact hbegun

/-! ### The calls in a session that is torn down -/

/-- Whoever waits in the session is in a cancelled scope then. -/
theorem TornDown.doomed {w : Switch} {reason : String} (h : s.TornDown K.client w reason t)
    (hv : s.Valid) (hw : s.WaitsFor K wait) {token : Token} {operation : Operation}
    (hc : wait.cancels? = some (token, operation)) :
    t.Doomed K (.cancelled (s.client K.client).key.device operation.text) := by
  obtain ⟨call, hm, hs, rfl⟩ := hw
  refine ⟨call.wait, token, operation, ⟨call, by rwa [h.calls], hs, rfl⟩, hc, ?_, by rw [h.key]⟩
  rw [h.cancelled]
  cases hold : (s.client K.client).scope.isCancelled token with
  | true => exact .inl rfl
  | false =>
    have hbegun := hv.waits K.client call hm token (Wait.token?_of_cancels? hc)
    exact .inr ((hv.scopes K.client).current_eq_some hbegun hold)

/-! ### Failing later -/

/-- A waiting call has failed: it is not pending any more, and has no timer.  Nothing else has changed
that a session, a switch or a pending call knows of, and no event has been posted. -/
structure Concluded (s : System) (K : CallId) (error : ClientError) (t : System) : Prop where
  finished : ∃ cursor, t.finished = s.finished ++ [⟨K, .failed error, cursor⟩]
  calls : ∀ id, (t.client id).calls =
    (s.client id).calls.filter fun call => decide ((⟨id, call.serial⟩ : CallId) ≠ K)
  profile : ∀ id, (t.client id).profile = (s.client id).profile
  turns : ∀ id, (t.client id).turns = (s.client id).turns
  timers : t.timers = s.timers.filter fun timer => decide (timer.call ≠ K)
  ready : t.ready = s.ready.tail
  journal : t.journal = s.journal
  switches : t.switches = s.switches
  streams : t.streams = s.streams
  channels : t.channels = s.channels
  registry : t.registry = s.registry
  handles : t.handles = s.handles
  catalog : t.catalog = s.catalog
  now : t.now = s.now

/-- A call that is not in line leaves nothing behind when it ends. -/
theorem concluded_withdraw (hturns : K.serial ∉ (s.client K.client).turns) (error : ClientError)
    (cursor : Option ReadCursor) :
    s.Concluded K error ((s.dequeue.record ⟨K, .failed error, cursor⟩).withdraw K) := by
  generalize hr : s.dequeue.record ⟨K, .failed error, cursor⟩ = r
  have hclients : ∀ id, r.client id = s.client id := fun id => by rw [← hr]; rfl
  -- the call is not in line, so no other gets its turn
  have hline : (r.leaveLine K).ready = s.ready.tail := by
    have hr' : K.serial ∉ (r.client K.client).turns := by rwa [hclients]
    rw [ready_leaveLine_of_not_mem hr', ← hr]
    rfl
  refine
    { finished := ⟨cursor, ?_⟩, calls := fun id => ?_, profile := fun id => ?_,
      turns := fun id => ?_, timers := ?_, ready := ?_, journal := ?_, switches := ?_, streams := ?_,
      channels := ?_, registry := ?_, handles := ?_, catalog := ?_, now := ?_ }
  · rw [finished_withdraw, ← hr]
    rfl
  · rw [(withdraw_parts r K id).1, hclients]
  · rw [client_withdraw]
    split
    · next hid => rw [hclients, hid]; rfl
    · rw [hclients]
  · rw [(withdraw_parts r K id).2.1, hclients]
    split
    · next hid => rw [← hid, List.erase_of_not_mem hturns]
    · rfl
  all_goals rw [withdraw_eq]
  · rw [← hr]
    rfl
  · exact hline
  all_goals
    rw [← hr]
    rfl

/-- Why a call fails that waits in the scope of `token`: the scope has ended, or its time is up. -/
inductive Lapses (s : System) (K : CallId) (token : Token) (operation : Operation) :
    Wait → ClientError → Prop
  | ended (wait : Wait) (hc : (s.client K.client).scope.isCancelled token = true) :
      Lapses s K token operation wait (.cancelled (s.client K.client).key.device operation.text)
  | late (limit deadline : Duration) (hc : (s.client K.client).scope.isCancelled token = false)
      (hd : deadline.nanoseconds ≤ s.now.nanoseconds) :
      Lapses s K token operation (.answer operation token limit deadline)
        (.timeout (s.client K.client).key.device operation.text limit)

/-- A failed call leaves, and takes its client along if nobody else holds it. -/
theorem concluded_retire (hturns : K.serial ∉ (s.client K.client).turns) (error : ClientError)
    (cursor : Option ReadCursor) (kind : CallKind) :
    ∃ u, s.Concluded K error u ∧
      ((s.dequeue.record ⟨K, .failed error, cursor⟩).retire K kind = u ∨
        u.isHeld K.client = false ∧
          (s.dequeue.record ⟨K, .failed error, cursor⟩).retire K kind = u.closeSession K.client) := by
  refine ⟨_, concluded_withdraw hturns error cursor, ?_⟩
  rw [retire_eq]
  cases kind with
  | next => exact .inl rfl
  | request =>
    unfold release
    dsimp only
    split
    · exact .inl rfl
    · next hheld => exact .inr ⟨eq_false_of_ne_true hheld, rfl⟩

/-- A call that opens no session leaves the scope in place when it fails. -/
theorem failCall_eq_retire {operation : Operation} (hop : operation ≠ .openStream) (token : Token)
    (failure : Failure) {error : ClientError}
    (he : s.report K.client operation failure = (s, error)) :
    s.failCall K operation token failure =
      (s.record ⟨K, .failed error, none⟩).retire K .request := by
  unfold failCall
  rw [he]
  dsimp only
  rw [if_neg hop]
  rfl

/-- A call in the open session that runs again has failed, or goes on waiting. -/
theorem resume_lapses (ha : s.Attended none stray) (hw : s.WaitsFor K wait) {token : Token}
    {operation : Operation} (hc : wait.cancels? = some (token, operation))
    (hop : operation ≠ .openStream) :
    (s.dequeue.resume K = s.dequeue ∧ ∀ error, ¬ s.Lapses K token operation wait error) ∨
      ∃ error u, s.Lapses K token operation wait error ∧ s.Concluded K error u ∧
        (s.dequeue.resume K = u ∨
          u.isHeld K.client = false ∧ s.dequeue.resume K = u.closeSession K.client) := by
  obtain ⟨call, hm, hs, rfl⟩ := hw
  -- whoever is in line opens the session, which this call does not
  have hturns : K.serial ∉ (s.client K.client).turns := by
    intro hin
    have hopens := ha.opens_of_mem_turns hm (hs ▸ hin)
    rw [Wait.opens_of_cancels? hc hop] at hopens
    cases hopens
  have hcall : s.dequeue.call? K = some call := call?_eq_some (ha.serials K.client) hm hs
  unfold resume
  simp only [hcall]
  cases hwait : call.wait with
  | turn =>
    rw [hwait] at hc
    cases hc
  | answer operation' token' limit deadline =>
    rw [hwait] at hc
    cases hc
    by_cases hcan : (s.client K.client).scope.isCancelled token = true
    · obtain ⟨u, hu, ht⟩ := concluded_retire hturns
        (.cancelled (s.client K.client).key.device operation.text) none .request
      refine .inr ⟨_, u, .ended _ hcan, hu, ?_⟩
      dsimp only
      rw [if_pos (show (s.dequeue.client K.client).scope.isCancelled token = true from hcan),
        failCall_eq_retire (s := s.dequeue) hop token .cancelled rfl]
      exact ht
    · dsimp only
      rw [if_neg (show ¬ (s.dequeue.client K.client).scope.isCancelled token = true from hcan)]
      by_cases hlate : deadline.nanoseconds ≤ s.now.nanoseconds
      · obtain ⟨u, hu, ht⟩ := concluded_retire hturns
          (.timeout (s.client K.client).key.device operation.text limit) none .request
        refine .inr ⟨_, u, .late limit deadline (eq_false_of_ne_true hcan) hlate, hu, ?_⟩
        rw [if_pos (show deadline.nanoseconds ≤ s.dequeue.now.nanoseconds from hlate),
          failCall_eq_retire (s := s.dequeue) hop token (.timedOut limit) rfl]
        exact ht
      · refine .inl ⟨if_neg hlate, fun error hlapses => ?_⟩
        cases hlapses with
        | ended wait hended => exact hcan hended
        | late limit deadline _ hpassed => exact hlate hpassed
  | chunk token' =>
    rw [hwait] at hc
    cases hc
    by_cases hcan : (s.client K.client).scope.isCancelled token = true
    · dsimp only
      rw [if_pos (show (s.dequeue.client K.client).scope.isCancelled token = true from hcan)]
      cases call.kind with
      | request =>
        obtain ⟨u, hu, ht⟩ := concluded_retire hturns
          (.cancelled (s.client K.client).key.device Operation.read.text) none .request
        exact .inr ⟨_, u, .ended _ hcan, hu, ht⟩
      | next =>
        obtain ⟨u, hu, ht⟩ := concluded_retire hturns
          (.cancelled (s.client K.client).key.device Operation.read.text)
          (some ⟨K.client, token, .broken⟩) .next
        exact .inr ⟨_, u, .ended _ hcan, hu, ht⟩
    · refine .inl ⟨if_neg hcan, fun error hlapses => ?_⟩
      cases hlapses with
      | ended wait hended => exact hcan hended

end System

namespace Scenario

variable {x : Scenario} {m : Move} {K : CallId} {wait : Wait} {token : Token}
  {stray : ClientId → Token → Prop}

/-- No session opens in a scope that has begun before. -/
theorem shut_make (hv : x.Valid) {id : ClientId} (h : (x.system.client id).scope.Shut token)
    (m : Move) : ((x.make m).system.client id).scope.Shut token := by
  obtain ⟨hb, hscope⟩ := scope_make hv m id
  refine ⟨Nat.lt_of_lt_of_le h.1 hb, fun hc => ?_⟩
  have he := hscope token h.1 hc
  rw [he] at hc ⊢
  exact h.2 hc

theorem operation_of_settingUp {operation : Operation} (h : x.system.Began K operation wait)
    (hset : wait.settingUp? = some token) : operation = .openStream := by
  cases h with
  | turn => cases hset
  | asked operation token' hi =>
    cases operation with
    | openStream => rfl
    | _ => cases hset
  | reads token' query reply hr hh => cases hset

/-- What a pending call waits for. -/
theorem wait_unique (ha : x.system.Attended none stray) {wait' : Wait}
    (hw : x.system.WaitsFor K wait) (hw' : x.system.WaitsFor K wait') : wait' = wait := by
  obtain ⟨call, hm, hs, rfl⟩ := hw
  obtain ⟨call', hm', hs', rfl⟩ := hw'
  rw [System.eq_of_serial (ha.serials K.client) hm hm' (hs.trans hs'.symm)]

/-- A new call has not been pending before. -/
theorem not_waitsFor_newCall (ha : x.system.Attended none stray)
    (hK : K = (x.system.newCall K.client).2) : ¬ x.system.WaitsFor K wait := by
  rintro ⟨call, hm, hs, -⟩
  have hlt := ha.made K.client call hm
  have hmade : K.serial = (x.system.client K.client).made := congrArg CallId.serial hK
  rw [hs, hmade] at hlt
  exact Nat.lt_irrefl _ hlt

theorem isOpen_openSession (hv : x.Valid) (ha : x.system.Attended none stray) {name client : String}
    (hK : K = (x.system.newCall K.client).2) (hset : wait.settingUp? = some token)
    (hw : (x.make (.start name (.openSession client))).system.WaitsFor K wait) :
    ((x.make (.start name (.openSession client))).system.client K.client).scope.isOpen = false := by
  cases hclient : x.system.handles.find? client with
  | none =>
    have he : (x.make (.start name (.openSession client))).system = x.system := by
      simp only [make, start, onClient, hclient]
    rw [he] at hw
    exact absurd hw (not_waitsFor_newCall ha hK)
  | some id =>
    have he : (x.make (.start name (.openSession client))).system =
        (x.system.openSession id).1 := by
      simp only [make, start, onClient, hclient, started]
    rw [he] at hw ⊢
    by_cases hid : K = (x.system.newCall id).2
    · obtain rfl : K.client = id := congrArg CallId.client hid
      unfold System.openSession at hw ⊢
      dsimp only at hw ⊢
      rw [← hid] at hw ⊢
      split at hw
      · next hfirst =>
        rw [if_pos hfirst]
        refine System.isOpen_setUp ?_ hw
        have hscope := (System.enterLine_parts (x.system.newCall K.client).1 K K.client).2.2.trans
          (System.newCall_parts x.system K.client K.client).2.2.1
        exact hscope.symm ▸ hv.system.scopes K.client
      · obtain ⟨call, hm, hs, rfl⟩ := hw
        rw [(System.wait_suspend _ K .request .turn).2 call hm hs] at hset
        cases hset
    · -- the call that is started is another one
      obtain ⟨call, hm, hs, -⟩ := hw
      have hne : (⟨K.client, call.serial⟩ : CallId) ≠ (x.system.newCall id).2 := by
        rw [hs]
        exact hid
      have hold := ((System.stroke_openSession hv.system ha id).others K.client call hne).mp hm
      rw [(System.newCall_parts x.system id K.client).1] at hold
      exact absurd ⟨call, hold, hs, rfl⟩ (not_waitsFor_newCall ha hK)

/-- A call that begins to wait for a stream has begun a scope that has not opened. -/
theorem Began.isOpen (hv : x.Valid) (ha : x.system.Attended none stray) (h : x.Began m K wait)
    (hset : wait.settingUp? = some token) (hw : (x.make m).system.WaitsFor K wait) :
    ((x.make m).system.client K.client).scope.isOpen = false := by
  have hay := attended_make hv ha m
  cases h with
  | starts name request operation K wait hK ho hb =>
    obtain rfl := operation_of_settingUp hb hset
    cases request with
    | openSession client => exact isOpen_openSession hv ha hK hset hw
    | _ => cases ho
  | reads name stream cursor K hr hh => cases hset
  | resumes K wait hturn hne hb =>
    -- it would still be in line if it had not run
    by_cases hr : x.system.ready.head? = some (.resume K)
    · have he : (x.make .poll).system = x.system.dequeue.resume K := poll_of_resume hr
      obtain ⟨call, hm, hs, hwait⟩ := hturn
      have hcall : x.system.dequeue.call? K = some call :=
        System.call?_eq_some (ha.serials K.client) hm hs
      rw [he] at hw ⊢
      unfold System.resume at hw ⊢
      simp only [hcall, hwait] at hw ⊢
      split at hw
      · next hfirst =>
        rw [if_pos hfirst]
        exact System.isOpen_setUp (hv.system.scopes K.client) hw
      · exact absurd (wait_unique ha (show x.system.WaitsFor K .turn from ⟨call, hm, hs, hwait⟩)
          (show x.system.WaitsFor K wait from hw)) hne
    · have hstill := (sways_make hv ha .poll).waits ha hturn (by simp) hr
      exact absurd (wait_unique hay hstill hw) hne

/-- Along every run, the session is not open while a call waits for the stream of the scope in place. -/
theorem unopened_from (hv : x.Valid) (ha : x.system.Attended none stray)
    (hx : ∀ K wait token, x.system.WaitsFor K wait → wait.settingUp? = some token →
      (x.system.client K.client).scope.Shut token) (ms : List Move) :
    ∀ K wait token, (x.after ms).system.WaitsFor K wait → wait.settingUp? = some token →
      ((x.after ms).system.client K.client).scope.Shut token := by
  induction ms generalizing x stray with
  | nil => exact hx
  | cons m rest ih =>
    refine ih (hv.make m) (attended_make hv ha m) fun K wait token hw hset => ?_
    rcases waitsFor_make hv ha hw with hw' | hbegan
    · exact shut_make hv (hx K wait token hw' hset) m
    · refine ⟨?_, fun _ => hbegan.isOpen hv ha hset hw⟩
      obtain ⟨call, hm, -, rfl⟩ := hw
      exact (hv.make m).system.waits K.client call hm token (Wait.token?_of_settingUp hset)

/-- Along every run, the session is not open while a call waits for the stream of the scope in place. -/
theorem unopened_after (devices : List String) (confs : List Pipeconf)
    (bindings : List (String × PipeconfId)) (config : ConfigChange) (capacity : Nat)
    (ms : List Move) :
    ∀ K wait token,
      ((initial devices confs bindings config capacity).after ms).system.WaitsFor K wait →
        wait.settingUp? = some token →
          (((initial devices confs bindings config capacity).after ms).system.client
            K.client).scope.Shut token := by
  refine unopened_from (valid_initial devices confs bindings config capacity)
    (attended_blank rfl rfl) ?_ ms
  rintro K wait token ⟨call, hm, -⟩
  cases hm

/-! ### Requests -/

/-- What the switch makes of a request in the open session of a client: the client, the switch after
that, and how the call fails. -/
def exchange? (x : Scenario) : Request → Option (ClientId × Switch × Option Setback)
  | .setPipeline client conf data => do
    let id ← x.system.handles.find? client
    let conf ← x.system.catalog.pipeconf? conf
    let c := x.system.client id
    some (id, c.pushes (x.system.switch c.switch) conf data)
  | .isPipelineSet client conf _ => do
    let id ← x.system.handles.find? client
    let conf ← x.system.catalog.pipeconf? conf
    let c := x.system.client id
    some (id, c.checks (x.system.switch c.switch) conf)
  | .read client conf query => do
    let id ← x.system.handles.find? client
    let conf ← x.system.catalog.pipeconf? conf
    let c := x.system.client id
    some (id, c.reads (x.system.switch c.switch) (query.foldl QueryItem.addTo { pipeconf := conf })
      true)
  | .openRead client conf query => do
    let id ← x.system.handles.find? client
    let conf ← x.system.catalog.pipeconf? conf
    let c := x.system.client id
    some (id, c.reads (x.system.switch c.switch) (query.foldl QueryItem.addTo { pipeconf := conf })
      false)
  | .readNext stream => do
    let cursor ← x.reads.find? stream
    let c := x.system.client cursor.client
    some (cursor.client, x.system.switch c.switch, c.takes cursor)
  | .write client conf updates atomicity => do
    let id ← x.system.handles.find? client
    let conf ← x.system.catalog.pipeconf? conf
    let c := x.system.client id
    let request : WriteRequest := updates.foldl UpdateItem.addTo { pipeconf := conf }
    some (id, c.writes (x.system.switch c.switch)
      (match atomicity with
        | some a => request.withAtomicity a
        | none => request))
  | _ => none

/-- How a request is one in the session of the client `id`, with what its switch makes of it. -/
inductive Exchanges (x : Scenario) (id : ClientId) (exchange : Switch × Option Setback) : Request → Prop
  | push {client : String} {confId : PipeconfId} {conf : Pipeconf} {data : Bytes}
      (hh : x.system.handles.find? client = some id)
      (hf : x.system.catalog.pipeconf? confId = some conf)
      (he : exchange = (x.system.client id).pushes
        (x.system.switch (x.system.client id).switch) conf data) :
      Exchanges x id exchange (.setPipeline client confId data)
  | check {client : String} {confId : PipeconfId} {conf : Pipeconf} {data : Bytes}
      (hh : x.system.handles.find? client = some id)
      (hf : x.system.catalog.pipeconf? confId = some conf)
      (he : exchange = (x.system.client id).checks
        (x.system.switch (x.system.client id).switch) conf) :
      Exchanges x id exchange (.isPipelineSet client confId data)
  | read {client : String} {confId : PipeconfId} {conf : Pipeconf} {query : List QueryItem}
      (hh : x.system.handles.find? client = some id)
      (hf : x.system.catalog.pipeconf? confId = some conf)
      (he : exchange = (x.system.client id).reads (x.system.switch (x.system.client id).switch)
        (query.foldl QueryItem.addTo { pipeconf := conf }) true) :
      Exchanges x id exchange (.read client confId query)
  | openRead {client : String} {confId : PipeconfId} {conf : Pipeconf} {query : List QueryItem}
      (hh : x.system.handles.find? client = some id)
      (hf : x.system.catalog.pipeconf? confId = some conf)
      (he : exchange = (x.system.client id).reads (x.system.switch (x.system.client id).switch)
        (query.foldl QueryItem.addTo { pipeconf := conf }) false) :
      Exchanges x id exchange (.openRead client confId query)
  | take {stream : String} {cursor : ReadCursor} (hf : x.reads.find? stream = some cursor)
      (hid : cursor.client = id)
      (he : exchange = (x.system.switch (x.system.client id).switch,
        (x.system.client id).takes cursor)) :
      Exchanges x id exchange (.readNext stream)
  | write {client : String} {confId : PipeconfId} {conf : Pipeconf} {updates : List UpdateItem}
      {atomicity : Option Atomicity} (hh : x.system.handles.find? client = some id)
      (hf : x.system.catalog.pipeconf? confId = some conf)
      (he : exchange = (x.system.client id).writes (x.system.switch (x.system.client id).switch)
        (writeOf conf updates atomicity)) :
      Exchanges x id exchange (.write client confId updates atomicity)

/-- A request that a switch has to do with is of one of these kinds. -/
theorem exchanges_of_exchange? {request : Request} {id : ClientId} {exchange : Switch × Option Setback}
    (h : x.exchange? request = some (id, exchange)) : x.Exchanges id exchange request := by
  -- all but the next item of a stream name a client and a configuration
  have named : ∀ {client : String} {confId : PipeconfId}
      {answer : ClientId → Pipeconf → Switch × Option Setback},
      ((x.system.handles.find? client).bind fun id => (x.system.catalog.pipeconf? confId).bind
        fun conf => some (id, answer id conf)) = some (id, exchange) →
      x.system.handles.find? client = some id ∧
        ∃ conf, x.system.catalog.pipeconf? confId = some conf ∧ exchange = answer id conf := by
    intro client confId answer h
    simp only [Option.bind_eq_some_iff, Option.some.injEq, Prod.mk.injEq] at h
    obtain ⟨_, hh, conf, hf, rfl, rfl⟩ := h
    exact ⟨hh, conf, hf, rfl⟩
  cases request with
  | setPipeline client confId data =>
    obtain ⟨hh, conf, hf, he⟩ := named h
    exact .push hh hf he
  | isPipelineSet client confId data =>
    obtain ⟨hh, conf, hf, he⟩ := named h
    exact .check hh hf he
  | read client confId query =>
    obtain ⟨hh, conf, hf, he⟩ := named h
    exact .read hh hf he
  | openRead client confId query =>
    obtain ⟨hh, conf, hf, he⟩ := named h
    exact .openRead hh hf he
  | write client confId updates atomicity =>
    obtain ⟨hh, conf, hf, he⟩ := named h
    exact .write hh hf he
  | readNext stream =>
    simp only [exchange?, Option.bind_eq_bind, Option.bind_eq_some_iff, Option.some.injEq,
      Prod.mk.injEq] at h
    obtain ⟨cursor, hf, rfl, rfl⟩ := h
    exact .take hf rfl rfl
  | _ => cases h

/-- A request in the open session fails as the switch answers, and has the effect that goes with it. -/
theorem incurs_start (hv : x.Valid) (ha : x.system.Attended none stray) (name : String)
    {request : Request} {id : ClientId} {exchange : Switch × Option Setback}
    (hx : x.exchange? request = some (id, exchange))
    (ho : (x.system.client id).scope.isOpen = true) :
    x.system.Incurs id exchange.1 exchange.2 (x.make (.start name request)).system := by
  have hs := hv.system.scopes id
  obtain ⟨token, htoken⟩ := hs.openToken?_of_isOpen ho
  cases exchanges_of_exchange? hx with
  | push hh hf he =>
    simp only [make, start, onClient, onPipeconf, hh, hf, he]
    exact System.incurs_setPipelineConfig ha hh htoken _ _
  | check hh hf he =>
    simp only [make, start, onClient, onPipeconf, hh, hf, he]
    exact System.incurs_isPipelineConfigSet ha hh htoken _ _
  | read hh hf he =>
    simp only [make, start, onClient, onPipeconf, hh, hf, he]
    exact System.incurs_read ha hh htoken hs _
  | openRead hh hf he =>
    simp only [make, start, onClient, onPipeconf, hh, hf, he]
    exact System.incurs_openRead ha hh htoken _
  | write hh hf he =>
    simp only [make, start, onClient, onPipeconf, hh, hf, he]
    exact System.incurs_write ha hh htoken _
  | take hf hid he =>
    subst hid
    simp only [make, start, hf, he]
    -- the scope of a read stream that has not come to its end has begun
    obtain ⟨-, hopened⟩ := hv.reads _ (Directory.mem_values_of_find? hf)
    exact System.incurs_readNext ha fun hphase hcan => hs.current_eq_some (hopened hphase).1 hcan

/-- In every state that a run leads to, a request in the open session of a client fails as its switch
answers, and has the effect that goes with the way it fails: an unavailable switch takes the session
down, a refusal for lack of mastership posts one event, and any other failure does nothing but tell the
caller.

With the session go all calls that wait in it, but not a call in line to open the session, which waits in
no session: it may open the next one (`failure_outlived`).  In an open session such a call is there only
while the first in line is about to run, so there is none when all tasks wait.

A call that waits fails later because its scope has ended or its time is up, and that changes nothing
else; but if the call was the last to hold its client, the session is closed. -/
theorem failures_classified (devices : List String) (confs : List Pipeconf)
    (bindings : List (String × PipeconfId)) (config : ConfigChange) (capacity : Nat)
    (ms : List Move) :
    let x := (initial devices confs bindings config capacity).after ms
    (∀ name request id exchange, x.exchange? request = some (id, exchange) →
      (x.system.client id).scope.isOpen = true →
        let t := (x.make (.start name request)).system
        x.system.Incurs id exchange.1 exchange.2 t ∧
        ∀ operation message, exchange.2 = some (.refused operation ⟨.unavailable, message⟩) →
          ∀ K wait, K.client = id → x.system.WaitsFor K wait → wait ≠ .turn →
            ∃ token pending, wait.cancels? = some (token, pending) ∧
              t.Fails K (.cancelled (x.system.client id).key.device pending.text) t.settle) ∧
    (∀ K, (x.system.client K.client).scope.isOpen = true → x.system.WaitsFor K .turn →
      ∃ first, (x.system.client K.client).turns.head? = some first ∧
        .resume ⟨K.client, first⟩ ∈ x.system.ready) ∧
    ∀ K wait token operation, x.system.ready.head? = some (.resume K) →
      x.system.WaitsFor K wait → wait.cancels? = some (token, operation) →
      operation ≠ .openStream →
        let t := (x.make .poll).system
        (t = x.system.dequeue ∧ ∀ error, ¬ x.system.Lapses K token operation wait error) ∨
        ∃ error u, x.system.Lapses K token operation wait error ∧ x.system.Concluded K error u ∧
          (t = u ∨ u.isHeld K.client = false ∧ t = u.closeSession K.client) := by
  intro x
  have hv : x.Valid := (valid_initial devices confs bindings config capacity).after ms
  have ha := attended_after devices confs bindings config capacity ms
  refine ⟨fun name request id exchange hx ho => ?_, fun K ho hw => ?_,
    fun K wait token operation hr hw hc hop => ?_⟩
  · have hincurs := incurs_start hv ha name hx ho
    refine ⟨hincurs, ?_⟩
    rintro operation message he K wait rfl hw hne
    rw [he] at hincurs
    -- the switch is unavailable: the session is torn down, and the calls in it are doomed
    have hdown : x.system.TornDown K.client exchange.1 message _ := hincurs.1
    have cancels : ∀ token pending, wait.cancels? = some (token, pending) →
        (x.make (.start name request)).system.Fails K
          (.cancelled (x.system.client K.client).key.device pending.text)
          (x.make (.start name request)).system.settle := fun token pending hcan =>
      settle_cancels (hv.make _) (attended_make hv ha _) (hdown.doomed hv.system hw hcan)
    cases wait with
    | turn => exact absurd rfl hne
    | answer pending token limit deadline => exact ⟨token, pending, rfl, cancels _ _ rfl⟩
    | chunk token => exact ⟨token, .read, rfl, cancels _ _ rfl⟩
  · exact ha.front_of_line hv.system
      (unopened_after devices confs bindings config capacity ms) ho hw
  · have he : (x.make .poll).system = x.system.dequeue.resume K := poll_of_resume hr
    rw [he]
    exact System.resume_lapses ha hw hc hop

/-- A client has opened its session and waits for the answer to a write.  The next push of a program finds
the switch unavailable. -/
def severed : List Move :=
  [.act (.new ⟨⟨"leaf"⟩, 1⟩ "leaf" none), .start "t0" (.openSession "leaf"), .poll, .poll, .poll,
   .act (.steer "leaf" (.queueFault .write .stall)),
   .act (.steer "leaf" (.queueFault .setPipeline (.fail ⟨.unavailable, "gone"⟩))),
   .start "t1" (.write "leaf" ⟨"basic"⟩ [.entity .insert ⟨.tableEntry, 1, [], []⟩] none)]

/-- The push takes the session down, and the write is cancelled. -/
theorem failures_classified_severed :
    let x := (initial ["leaf"] [{ id := ⟨"basic"⟩, fingerprint := 1, description := [1] }] [] {} 16).after
      severed
    let t := (x.make (.start "t2" (.setPipeline "leaf" ⟨"basic"⟩ []))).system
    (∃ w, x.system.TornDown ⟨⟨"leaf"⟩, 0⟩ w "gone" t) ∧
      t.Fails ⟨⟨⟨"leaf"⟩, 0⟩, 1⟩ (.cancelled ⟨"leaf"⟩ "write") t.settle := by
  intro x t
  have hw : x.system.WaitsFor ⟨⟨⟨"leaf"⟩, 0⟩, 1⟩
      (.answer .write 0 (.ofSeconds 10) (.ofSeconds 10)) := by decide +kernel
  have ho : (x.system.client ⟨⟨"leaf"⟩, 0⟩).scope.isOpen = true := by decide +kernel
  have hx : (x.exchange? (.setPipeline "leaf" ⟨"basic"⟩ [])).map (fun e => (e.1, e.2.2)) =
      some (⟨⟨"leaf"⟩, 0⟩, some (.refused .setPipeline ⟨.unavailable, "gone"⟩)) := by decide +kernel
  obtain ⟨⟨id, w, setback⟩, hx, he⟩ := Option.map_eq_some_iff.mp hx
  cases he
  obtain ⟨hincurs, hothers⟩ := (failures_classified ["leaf"]
    [{ id := ⟨"basic"⟩, fingerprint := 1, description := [1] }] [] {} 16 severed).1 "t2" _ _ _ hx ho
  obtain ⟨token, pending, hc, hfails⟩ := hothers _ _ rfl _ _ rfl hw (by simp)
  cases hc
  exact ⟨⟨w, hincurs.1⟩, hfails⟩

/-- The second of three calls has just opened the session, and the third is about to get its turn.  The
next write finds the switch unavailable. -/
def queued : List Move :=
  [.act (.new ⟨⟨"leaf"⟩, 1⟩ "leaf" none), .act (.steer "leaf" (.queueFault .streamChannel .stall)),
   .start "first" (.openSession "leaf"), .start "second" (.openSession "leaf"),
   .start "third" (.openSession "leaf"), .advance (.ofSeconds 10), .poll, .poll, .poll,
   .act (.steer "leaf" (.queueFault .write (.fail ⟨.unavailable, "gone"⟩)))]

/-- A write is not answered, and nobody but the write holds the client any more. -/
def forsaken : List Move :=
  [.act (.new ⟨⟨"leaf"⟩, 1⟩ "leaf" none), .start "open" (.openSession "leaf"), .poll, .poll,
   .act (.steer "leaf" (.queueFault .write .stall)),
   .start "write" (.write "leaf" ⟨"basic"⟩ [.entity .insert ⟨.tableEntry, 1, [], []⟩] none),
   .act (.drop "leaf"), .advance (.ofSeconds 10)]

/-- When the write takes the session down, the third call is pending; it is not cancelled, but opens the
session again.  And when the time of the other write is up, its failure does not leave the session as it
was: an event tells that it has been closed. -/
theorem failure_outlived :
    let confs : List Pipeconf := [{ id := ⟨"basic"⟩, fingerprint := 1, description := [1] }]
    let x := (initial ["leaf"] confs [] {} 16).after queued
    let t := (x.make (.start "write"
      (.write "leaf" ⟨"basic"⟩ [.entity .insert ⟨.tableEntry, 1, [], []⟩] none))).system
    let y := ((initial ["leaf"] confs [] {} 16).after forsaken).system
    ((x.system.client ⟨⟨"leaf"⟩, 0⟩).scope.isOpen = true ∧
      x.system.WaitsFor ⟨⟨⟨"leaf"⟩, 0⟩, 2⟩ .turn ∧
      ⟨⟨⟨⟨"leaf"⟩, 0⟩, 3⟩, .failed (.transportUnavailable ⟨"leaf"⟩ "gone"), none⟩ ∈ t.finished ∧
      ⟨⟨⟨⟨"leaf"⟩, 0⟩, 2⟩, .returned .done, none⟩ ∈ t.settle.finished ∧
      (t.settle.client ⟨⟨"leaf"⟩, 0⟩).scope.isOpen = true) ∧
    (y.client ⟨⟨"leaf"⟩, 0⟩).scope.isOpen = true ∧
      ⟨⟨⟨⟨"leaf"⟩, 0⟩, 1⟩, .failed (.timeout ⟨"leaf"⟩ "write" (.ofSeconds 10)), none⟩ ∈
        y.settle.finished ∧
      y.settle.journal = y.journal ++ [.channelClosed ⟨"leaf"⟩] := by
  decide +kernel

end Scenario

end P4Control
