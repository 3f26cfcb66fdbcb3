import P4Control.Proofs.Parts
import P4Control.Proofs.Scope

namespace P4Control.System

/-!
# What the end of a session does to the parts of a system

A session ends for its client, for its stream and for the tasks that run in its scope.

* `roused` — the tasks that the end of a scope makes runnable.
* `endScope_eq` — the end of a scope, part by part.
* `closeSession_eq`, `failSession_eq` — the two ways in which a scope ends.
-/

variable (s : System)

/-- The tasks that the end of the scope in place makes runnable: what runs in it, and the agent's
reading of the uplink. -/
def roused (id : ClientId) : List Task :=
  let c := s.client id
  (match c.scope.current with
    | some token =>
      c.scope.slot.toList.map .listen ++
        (c.calls.filter fun call => decide (call.wait.token? = some token)).map
          fun call => .resume ⟨id, call.serial⟩
    | none => []) ++
  c.scope.slot.toList.map .serve

/-- Waking what runs in a scope, task by task. -/
theorem wakeScope_eq (id : ClientId) (token : Token) :
    s.wakeScope id token =
      ((s.client id).scope.slot.toList.map Task.listen ++
        ((s.client id).calls.filter fun call => decide (call.wait.token? = some token)).map
          fun call => Task.resume ⟨id, call.serial⟩).foldl wake s := by
  unfold wakeScope
  cases hs : (s.client id).scope.slot <;> simp [hs, List.foldl_map]

/-- What the end of a scope does: to its client, to its stream, and to the runnable tasks. -/
theorem endScope_eq (id : ClientId) (ended : Scope StreamId) :
    s.endScope id ended =
      { s with
        clients := (s.updateClient id fun c =>
          { c with scope := ended, arbiter := c.arbiter.reset }).clients
        streams := match (s.client id).scope.slot with
          | some st => (s.updateStream st fun t => { t with uplink := t.uplink.dropSender }).streams
          | none => s.streams
        ready := ((s.roused id).foldl wake s).ready } := by
  unfold endScope roused
  -- Who is roused depends on the scope that was in place and on its stream.
  cases hc : (s.client id).scope.current with
  | none =>
    cases hs : (s.client id).scope.slot with
    | none => simp only [hc, hs]; rfl
    | some st =>
      simp only [hc, hs, dropUplink]
      rw [wake_eq]
      simp only [Option.toList, List.map_cons, List.map_nil, List.nil_append, List.foldl_cons,
        List.foldl_nil, ready_wake]
      rfl
  | some token =>
    simp only [hc, wakeScope_eq]
    generalize (s.client id).scope.slot.toList.map Task.listen ++ _ = tasks
    obtain ⟨-, -, he⟩ := ready_foldl_wake s tasks
    generalize (tasks.foldl wake s).ready = ready at he
    cases hs : (s.client id).scope.slot with
    | none =>
      simp only [Option.toList, List.map_nil, List.append_nil]
      rw [he]
      rfl
    | some st =>
      simp only [Option.toList, List.map_cons, List.map_nil, dropUplink]
      rw [List.foldl_append, he, wake_eq]
      simp only [List.foldl_cons, List.foldl_nil, ready_wake]
      rfl

/-! ### Part by part -/

/-- The client has the ended scope, and claims nothing any more. -/
theorem client_endScope (id id' : ClientId) (ended : Scope StreamId) :
    (s.endScope id ended).client id' =
      if id = id' then
        { s.client id with scope := ended, arbiter := (s.client id).arbiter.reset }
      else s.client id' := by
  rw [endScope_eq]
  exact client_updateClient s id id' fun c =>
    { c with scope := ended, arbiter := c.arbiter.reset }

/-- The stream of the session is at its end for the agent; the other streams stay as they are. -/
theorem stream_endScope (id : ClientId) (ended : Scope StreamId) (st : StreamId) :
    (s.endScope id ended).stream st =
      if (s.client id).scope.slot = some st then
        { s.stream st with uplink := (s.stream st).uplink.dropSender }
      else s.stream st := by
  rw [endScope_eq]
  cases hs : (s.client id).scope.slot with
  | none => rfl
  | some st' =>
    show (s.updateStream st' fun t => { t with uplink := t.uplink.dropSender }).stream st = _
    rw [stream_updateStream]
    by_cases h : st' = st <;> simp [h]

/-- Only the sender of the uplink goes. -/
theorem downlink_endScope (id : ClientId) (ended : Scope StreamId) (st : StreamId) :
    ((s.endScope id ended).stream st).listener = (s.stream st).listener ∧
      ((s.endScope id ended).stream st).downlink = (s.stream st).downlink := by
  rw [stream_endScope]
  split <;> exact ⟨rfl, rfl⟩

/-- A scope that ends without a session leaves those of the other clients. -/
theorem slot_of_endScope {s : System} {id id' : ClientId} {ended : Scope StreamId} {st : StreamId}
    (hs : ended.slot = none) (h : ((s.endScope id ended).client id').scope.slot = some st) :
    id ≠ id' ∧ (s.endScope id ended).client id' = s.client id' := by
  rw [client_endScope] at h ⊢
  split at h
  · rw [show ended.slot = some st from h] at hs
    cases hs
  · next hne => exact ⟨hne, if_neg hne⟩

/-- The switches do not see yet that a scope has ended. -/
@[simp] theorem switch_endScope (id : ClientId) (ended : Scope StreamId) (n : SwitchName) :
    (s.endScope id ended).switch n = s.switch n := by
  rw [endScope_eq]
  rfl

/-- The handles stay with their holders. -/
@[simp] theorem handles_endScope (id : ClientId) (ended : Scope StreamId) :
    (s.endScope id ended).handles = s.handles := by
  rw [endScope_eq]

/-- The registry keeps its clients. -/
@[simp] theorem registry_endScope (id : ClientId) (ended : Scope StreamId) :
    (s.endScope id ended).registry = s.registry := by
  rw [endScope_eq]

/-- No call has ended yet: the calls in the scope are woken to find out. -/
@[simp] theorem finished_endScope (id : ClientId) (ended : Scope StreamId) :
    (s.endScope id ended).finished = s.finished := by
  rw [endScope_eq]

/-- No event is posted by the end itself. -/
@[simp] theorem journal_endScope (id : ClientId) (ended : Scope StreamId) :
    (s.endScope id ended).journal = s.journal := by
  rw [endScope_eq]

/-- No client comes or goes. -/
theorem keys_endScope {s : System} {id : ClientId} (h : s.Knows id) (ended : Scope StreamId) :
    (s.endScope id ended).clients.keys = s.clients.keys := by
  rw [endScope_eq]
  exact keys_updateClient h fun c => { c with scope := ended, arbiter := c.arbiter.reset }

/-- The tasks runnable after the end of a scope: those from before and the roused ones. -/
theorem ready_endScope (id : ClientId) (ended : Scope StreamId) :
    (∃ new, (s.endScope id ended).ready = s.ready ++ new ∧ ∀ t ∈ new, t ∈ s.roused id) ∧
      ∀ t ∈ s.roused id, t ∈ (s.endScope id ended).ready := by
  rw [endScope_eq]
  obtain ⟨hn, ha, -⟩ := ready_foldl_wake s (s.roused id)
  exact ⟨hn, ha⟩

/-- Whoever was runnable still is. -/
theorem mem_ready_endScope {s : System} {task : Task} (hm : task ∈ s.ready) (id : ClientId)
    (ended : Scope StreamId) : task ∈ (s.endScope id ended).ready := by
  obtain ⟨⟨new, hready, -⟩, -⟩ := ready_endScope s id ended
  rw [hready]
  exact List.mem_append_left _ hm

/-! ### The two ways -/

/-- Closing a session ends the scope in place, and is an event if the session was open. -/
theorem closeSession_eq (id : ClientId) :
    s.closeSession id =
      if (s.client id).scope.close.1 then
        (s.endScope id (s.client id).scope.close.2).post
          (.channelClosed ((s.endScope id (s.client id).scope.close.2).client id).key.device)
      else s.endScope id (s.client id).scope.close.2 := rfl

/-- A failure ends the scope of its token. -/
theorem failSession_eq {s : System} {id : ClientId} {token : Token}
    (h : (s.client id).scope.current = some token) :
    s.failSession id token = s.endScope id
      { (s.client id).scope with
        current := none, cancelled := token :: (s.client id).scope.cancelled, failed := true,
        connection := (s.client id).scope.connection.send .closed, slot := none } := by
  unfold failSession
  rw [Scope.failIfCurrent_eq, if_pos h]

/-- A failure in a scope that is not in place changes nothing. -/
theorem failSession_eq_self {s : System} {id : ClientId} {token : Token}
    (h : (s.client id).scope.current ≠ some token) : s.failSession id token = s := by
  unfold failSession
  rw [Scope.failIfCurrent_eq, if_neg h]

/-- No client comes or goes with a close. -/
theorem keys_closeSession {s : System} {id : ClientId} (h : s.Knows id) :
    (s.closeSession id).clients.keys = s.clients.keys := by
  rw [closeSession_eq]
  split <;> exact keys_endScope h _

/-- No call ends in the close itself. -/
theorem finished_closeSession (id : ClientId) : (s.closeSession id).finished = s.finished := by
  rw [closeSession_eq]
  split <;> exact finished_endScope s id _

/-- No client comes or goes with a failure. -/
theorem keys_failSession {s : System} {id : ClientId} (h : s.Knows id) (token : Token) :
    (s.failSession id token).clients.keys = s.clients.keys := by
  unfold failSession
  split
  · rfl
  · exact keys_endScope h _

/-! ### Letting go -/

/-- No call ends because a client is let go of. -/
theorem finished_release (id : ClientId) : (s.release id).finished = s.finished := by
  unfold release
  split
  · rfl
  · exact finished_closeSession s id

/-- Nor because another one leaves the line. -/
theorem finished_leaveLine (id : CallId) : (s.leaveLine id).finished = s.finished := by
  unfold leaveLine
  dsimp only
  split
  · split
    · rw [finished_wake]
      rfl
    · rfl
  · rfl

/-- A call that is retired has been recorded before. -/
theorem finished_retire (id : CallId) (kind : CallKind) :
    (s.retire id kind).finished = s.finished := by
  cases kind with
  | request => exact (finished_release _ _).trans (finished_leaveLine s id)
  | next => exact finished_leaveLine s id

end P4Control.System
