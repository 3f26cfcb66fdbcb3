import P4Control.System.Registry
import P4Control.System.Run

namespace P4Control.System

/-!
# What an update does to the parts of a system

Each elementary update changes one family of parts and leaves the others as they are.

* `client_updateClient`, `stream_updateStream`, `switch_updateSwitch` — the part that is changed.
* the other lemmas — the parts that are not.
* `mem_ready_wake` — a woken task is runnable, beside those that were.
* `Knows` — a client that has been created.
-/

variable (s : System)

/-! ### Switches -/

/-- Updating one switch leaves the other switches as they are. -/
theorem switch_updateSwitch (n m : SwitchName) (f : Switch → Switch) :
    (s.updateSwitch n f).switch m = if n = m then f (s.switch n) else s.switch m := by
  unfold updateSwitch switch
  rw [Directory.find?_insert]
  split <;> rfl

/-- The switch that is updated. -/
@[simp] theorem switch_updateSwitch_self (n : SwitchName) (f : Switch → Switch) :
    (s.updateSwitch n f).switch n = f (s.switch n) := by
  rw [switch_updateSwitch, if_pos rfl]

/-- Streams are updated apart from switches. -/
@[simp] theorem switch_updateStream (st : StreamId) (f : Stream → Stream) (n : SwitchName) :
    (s.updateStream st f).switch n = s.switch n := rfl

/-- Clients are updated apart from switches. -/
@[simp] theorem switch_updateClient (id : ClientId) (f : Client → Client) (n : SwitchName) :
    (s.updateClient id f).switch n = s.switch n := rfl

/-! ### Streams -/

/-- Updating one stream leaves the other streams as they are. -/
theorem stream_updateStream (st st' : StreamId) (f : Stream → Stream) :
    (s.updateStream st f).stream st' = if st = st' then f (s.stream st) else s.stream st' := by
  unfold updateStream stream
  rw [Directory.find?_insert]
  split <;> rfl

/-- The stream that is updated. -/
@[simp] theorem stream_updateStream_self (st : StreamId) (f : Stream → Stream) :
    (s.updateStream st f).stream st = f (s.stream st) := by
  rw [stream_updateStream, if_pos rfl]

/-- Switches are updated apart from streams. -/
@[simp] theorem stream_updateSwitch (n : SwitchName) (f : Switch → Switch) (st : StreamId) :
    (s.updateSwitch n f).stream st = s.stream st := rfl

/-- Clients are updated apart from streams. -/
@[simp] theorem stream_updateClient (id : ClientId) (f : Client → Client) (st : StreamId) :
    (s.updateClient id f).stream st = s.stream st := rfl

/-! ### Clients -/

/-- Updating one client leaves the other clients as they are. -/
theorem client_updateClient (id id' : ClientId) (f : Client → Client) :
    (s.updateClient id f).client id' = if id = id' then f (s.client id) else s.client id' := by
  unfold updateClient client
  rw [Directory.find?_insert]
  split <;> rfl

/-- The client that is updated. -/
@[simp] theorem client_updateClient_self (id : ClientId) (f : Client → Client) :
    (s.updateClient id f).client id = f (s.client id) := by
  rw [client_updateClient, if_pos rfl]

/-- A client that is updated twice is updated once by both together. -/
theorem updateClient_updateClient (id : ClientId) (f g : Client → Client) :
    (s.updateClient id f).updateClient id g = s.updateClient id fun c => g (f c) := by
  have hg : g ((s.updateClient id f).client id) = g (f (s.client id)) := by
    rw [client_updateClient_self]
  unfold updateClient at hg ⊢
  rw [hg]
  exact congrArg (fun clients => { s with clients }) (Directory.insert_insert _ _ _ _)

/-- Switches are updated apart from clients. -/
@[simp] theorem client_updateSwitch (n : SwitchName) (f : Switch → Switch) (id : ClientId) :
    (s.updateSwitch n f).client id = s.client id := rfl

/-- Streams are updated apart from clients. -/
@[simp] theorem client_updateStream (st : StreamId) (f : Stream → Stream) (id : ClientId) :
    (s.updateStream st f).client id = s.client id := rfl

/-- The client has been created. -/
def Knows (id : ClientId) : Prop := id ∈ s.clients.keys

variable {s} in
/-- A client that has not been created is the blank one. -/
theorem client_eq_default {id : ClientId} (h : ¬ s.Knows id) : s.client id = default := by
  unfold client
  rw [Directory.find?_eq_none_iff.mpr h]
  rfl

variable {s} in
/-- Updating a client that has been created adds none. -/
theorem keys_updateClient {id : ClientId} (h : s.Knows id) (f : Client → Client) :
    (s.updateClient id f).clients.keys = s.clients.keys := by
  unfold updateClient
  rw [Directory.keys_insert]
  exact if_pos h

variable {s} in
/-- Updating a client that has been created creates none. -/
theorem knows_updateClient {id : ClientId} (h : s.Knows id) (f : Client → Client) (id' : ClientId) :
    (s.updateClient id f).Knows id' ↔ s.Knows id' := by
  unfold Knows
  rw [keys_updateClient h]

/-! ### The runnable tasks -/

/-- No task becomes runnable by an update of a stream: the task is woken apart from it. -/
@[simp] theorem ready_updateStream (st : StreamId) (f : Stream → Stream) :
    (s.updateStream st f).ready = s.ready := rfl

/-- No task becomes runnable by an update of a client. -/
@[simp] theorem ready_updateClient (id : ClientId) (f : Client → Client) :
    (s.updateClient id f).ready = s.ready := rfl

/-- Waking a task adds it behind the others, unless it is among them. -/
theorem ready_wake (t : Task) :
    (s.wake t).ready = s.ready ++ if t ∈ s.ready then [] else [t] := by
  unfold wake
  split <;> simp

/-- After a task has been woken, it and the tasks from before are runnable, whether or not it was.
-/
@[simp] theorem mem_ready_wake {t t' : Task} : t' ∈ (s.wake t).ready ↔ t' = t ∨ t' ∈ s.ready := by
  rw [ready_wake]
  split <;> simp_all [or_comm]

/-- Waking a task does nothing else. -/
theorem wake_eq (t : Task) : s.wake t = { s with ready := (s.wake t).ready } := by
  unfold wake
  split <;> rfl

/-- Waking a task leaves the switches as they are. -/
@[simp] theorem switch_wake (t : Task) (n : SwitchName) : (s.wake t).switch n = s.switch n := by
  rw [wake_eq]; rfl

/-- Waking a task leaves the streams as they are. -/
@[simp] theorem stream_wake (t : Task) (st : StreamId) : (s.wake t).stream st = s.stream st := by
  rw [wake_eq]; rfl

/-- Waking a task leaves each client as it is. -/
@[simp] theorem client_wake (t : Task) (id : ClientId) : (s.wake t).client id = s.client id := by
  rw [wake_eq]; rfl

/-- Waking a task leaves the table of clients as it is. -/
@[simp] theorem clients_wake (t : Task) : (s.wake t).clients = s.clients := by rw [wake_eq]

/-- Waking a task posts nothing. -/
@[simp] theorem journal_wake (t : Task) : (s.wake t).journal = s.journal := by rw [wake_eq]

/-- Waking a task leaves the handles to their holders. -/
@[simp] theorem handles_wake (t : Task) : (s.wake t).handles = s.handles := by rw [wake_eq]

/-- Waking a task leaves the registry as it is. -/
@[simp] theorem registry_wake (t : Task) : (s.wake t).registry = s.registry := by rw [wake_eq]

/-- Waking a task ends no call. -/
@[simp] theorem finished_wake (t : Task) : (s.wake t).finished = s.finished := by rw [wake_eq]

/-- Waking tasks adds those that are not among the others yet, and does nothing else. -/
theorem ready_foldl_wake (tasks : List Task) :
    (∃ new, (tasks.foldl wake s).ready = s.ready ++ new ∧ ∀ t ∈ new, t ∈ tasks) ∧
      (∀ t ∈ tasks, t ∈ (tasks.foldl wake s).ready) ∧
      tasks.foldl wake s = { s with ready := (tasks.foldl wake s).ready } := by
  induction tasks generalizing s with
  | nil => exact ⟨⟨[], by simp⟩, by simp, rfl⟩
  | cons t rest ih =>
    obtain ⟨⟨new, hn, hm⟩, ha, he⟩ := ih (s.wake t)
    rw [List.foldl_cons]
    refine ⟨⟨(if t ∈ s.ready then [] else [t]) ++ new, ?_, ?_⟩, ?_, ?_⟩
    -- what the first task adds comes before what the others add
    · rw [hn, ready_wake, List.append_assoc]
    · intro t' ht'
      rcases List.mem_append.mp ht' with h | h
      · split at h
        · cases h
        · rw [List.mem_singleton.mp h]
          exact List.mem_cons_self
      · exact List.mem_cons_of_mem _ (hm t' h)
    · intro t' ht'
      rcases List.mem_cons.mp ht' with rfl | h
      · rw [hn]
        exact List.mem_append_left _ ((mem_ready_wake s).mpr (.inl rfl))
      · exact ha t' h
    · rw [he, wake_eq]

end P4Control.System
