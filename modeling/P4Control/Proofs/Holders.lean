import P4Control.Proofs.Agreement
import P4Control.Proofs.Refusal

namespace P4Control

/-!
# The registry and the handles

Who has a client is written down in the registry and in the handles of users.  Both change only where a
client is created, looked up, shared, given back or removed.

* `System.SameHolders` — neither the registry nor the handles change.
* `Incident.files` — the incident in which they may change.
* `setHandle_parts`, `dropHandle_parts`, `removeClient_parts`, `createClient_cases` — where they do.
* `Scenario.Move.files` — the moves in which they do, `holders_make` — and those in which they do not.
-/

namespace System

variable {s t u : System} {id : ClientId}

/-! ### Where nobody takes or gives back a client -/

/-- Neither the registry nor the handles change. -/
structure SameHolders (s t : System) : Prop where
  registry : t.registry = s.registry
  handles : t.handles = s.handles

namespace SameHolders

/-- Nothing changes. -/
theorem refl (s : System) : SameHolders s s := ⟨rfl, rfl⟩

/-- One change after the other. -/
theorem trans (h : SameHolders s t) (h' : SameHolders t u) : SameHolders s u :=
  ⟨h'.registry.trans h.registry, h'.handles.trans h.handles⟩

end SameHolders

/-- Who leaves the clients alone leaves their holders alone. -/
theorem SameClients.holders (h : SameClients s t) : SameHolders s t := ⟨h.registry, h.handles⟩

/-- When a scope ends, its client stays with those who hold it. -/
theorem holders_endScope (s : System) (id : ClientId) (ended : Scope StreamId) :
    SameHolders s (s.endScope id ended) := ⟨registry_endScope s id ended, handles_endScope s id ended⟩

/-- So it does when its session is closed from the client's side. -/
theorem holders_closeSession (s : System) (id : ClientId) : SameHolders s (s.closeSession id) := by
  have he := holders_endScope s id (s.client id).scope.close.2
  rw [closeSession_eq]
  split
  · exact ⟨he.registry, he.handles⟩
  · exact he

/-- So it does when its session fails. -/
theorem holders_failSession (s : System) (id : ClientId) (token : Token) :
    SameHolders s (s.failSession id token) := by
  unfold failSession
  split
  · exact .refl s
  · exact holders_endScope s id _

/-- A client that is let go of loses its session at most; whoever let go of it has said so before.
-/
theorem SameHolders.release (h : SameHolders s t) (id : ClientId) : SameHolders s (t.release id) := by
  unfold System.release
  split
  · exact h
  · exact h.trans (holders_closeSession t id)

/-- Waking a task changes nobody's hold. -/
theorem SameHolders.wake (h : SameHolders s t) (task : Task) : SameHolders s (t.wake task) :=
  h.trans (sameClients_wake t task).holders

/-- Whoever leaves the line makes the next one run, and changes nobody's hold. -/
theorem holders_leaveLine (s : System) (K : CallId) : SameHolders s (s.leaveLine K) := by
  unfold leaveLine
  dsimp only
  split
  · split
    · refine SameHolders.wake ?_ _
      exact ⟨rfl, rfl⟩
    · exact ⟨rfl, rfl⟩
  · exact ⟨rfl, rfl⟩

/-- A call that ends gives back its own hold on the client, which is written down nowhere. -/
theorem holders_retire (s : System) (K : CallId) (kind : CallKind) :
    SameHolders s (s.retire K kind) := by
  have hl := holders_leaveLine s K
  unfold retire
  cases kind with
  | request =>
    refine SameHolders.release ?_ K.client
    exact ⟨hl.registry, hl.handles⟩
  | next => exact ⟨hl.registry, hl.handles⟩

/-- A frame is queued. -/
theorem holders_enqueue {frame : StreamRequest} (h : s.enqueue id frame = .ok t) :
    SameHolders s t := by
  obtain ⟨st, uplink, -, -, rfl⟩ := enqueue_eq_ok h
  refine SameHolders.wake ?_ _
  exact ⟨rfl, rfl⟩

/-- The sending half of a stream goes. -/
theorem holders_dropUplink (s : System) (st : StreamId) : SameHolders s (s.dropUplink st) :=
  (sameClients_dropUplink s st).holders

end System

/-- The incident in which someone takes or gives back a client. -/
def Incident.files : Incident → Bool
  | .filed => true
  | _ => false

namespace System

variable {s t : System} {id : ClientId}

/-- What no session notices, no holder notices. -/
theorem Quiet.holders (q : Quiet s t) : SameHolders s t := ⟨q.registry, q.handles⟩

/-- No incident but the filing of a client changes who holds one: all others concern scopes, streams
and agents. -/
theorem Happens.holders {i : Incident} (h : Happens s i t) (hf : i.files = false) :
    SameHolders s t := by
  have past : i.passesBy = true → SameHolders s t := fun hp => (h.passesBy hp).clients.holders
  -- The incidents at streams and agents pass all clients by; the others are gone through one by one.
  cases h with
  | filed => cases hf
  | created | told | began => exact ⟨rfl, rfl⟩
  | opened id token afterFailure begun activated capacity t st hk hb hc ha hq =>
    have hs := (PassesBy.of_connect hc).clients
    exact ⟨(registry_goLive _ _ _ _ _ _).trans hs.registry, (handles_goLive _ _ _ _ _ _).trans hs.handles⟩
  | played id token afterFailure begun activated capacity script rest t st hk hb hs' hc ha hq =>
    have hs := (PassesBy.of_playScript hc).clients
    exact ⟨(registry_goLive _ _ _ _ _ _).trans hs.registry, (handles_goLive _ _ _ _ _ _).trans hs.handles⟩
  | closed id hk => exact holders_closeSession s id
  | released id hk hh => exact holders_closeSession s id
  | failed id token hk ht => exact holders_failSession s id token
  | unavailable id token reason hk ht =>
    have hs := holders_failSession s id token
    exact ⟨hs.registry, hs.handles⟩
  | claimed =>
    refine SameHolders.wake ?_ _
    exact ⟨rfl, rfl⟩
  | heard id token st frame downlink hl hc hd =>
    rw [listenFrame_eq]
    exact ⟨rfl, rfl⟩
  | sent | left | served | drained | idled | detached | pushed | steered => exact past rfl
  | foreign _ hc hh hr hf' hj hl => exact ⟨hr, hh⟩

/-- Neither does a sequence of such incidents. -/
theorem Leads.holders {is : List Incident} (h : Leads s is t) (hf : ∀ i ∈ is, i.files = false) :
    SameHolders s t := by
  induction h with
  | refl s => exact .refl s
  | quiet q _ ih => exact q.holders.trans (ih hf)
  | cons hi _ ih =>
    exact (hi.holders (hf _ List.mem_cons_self)).trans (ih fun i hm => hf i (List.mem_cons_of_mem _ hm))

/-! ### Where someone does -/

/-- A handle is given a client.  The client that had it before is let go of, which leaves the
registry and the other handles as they are. -/
theorem setHandle_parts (s : System) (name : String) (id : ClientId) :
    (s.setHandle name id).registry = s.registry ∧
      (s.setHandle name id).handles = s.handles.insert name id := by
  unfold setHandle
  dsimp only
  split
  · next old _ =>
    have h := (SameHolders.refl { s with handles := s.handles.insert name id }).release old
    exact ⟨h.registry, h.handles⟩
  · exact ⟨rfl, rfl⟩

/-- A handle is given up, and its client is let go of. -/
theorem dropHandle_parts {s : System} {name : String} (h : s.handles.find? name = some id) :
    s.dropHandle name = (({ s with handles := s.handles.erase name } : System).release id, true) ∧
      (s.dropHandle name).1.registry = s.registry ∧
      (s.dropHandle name).1.handles = s.handles.erase name := by
  have hs := (SameHolders.refl { s with handles := s.handles.erase name }).release id
  unfold dropHandle
  rw [h]
  exact ⟨rfl, hs.registry, hs.handles⟩

/-- A client is struck off the registry: its session is closed, and the registry lets go of it. -/
theorem removeClient_parts (s : System) (device : DeviceId) (h : s.registered? device = some id) :
    (s.removeClient device).1 =
        (({ s with registry := s.registry.erase device } : System).closeSession id).release id ∧
      (s.removeClient device).2 = true ∧
      (s.removeClient device).1.registry = s.registry.erase device ∧
      (s.removeClient device).1.handles = s.handles := by
  unfold removeClient
  rw [h]
  have hs := (holders_closeSession { s with registry := s.registry.erase device } id).release id
  exact ⟨rfl, rfl, hs.registry, hs.handles⟩

/-- Where none is registered, none is removed. -/
theorem removeClient_of_none {device : DeviceId} (h : s.registered? device = none) :
    s.removeClient device = (s, false) := by
  unfold removeClient
  rw [h]

end System

namespace Scenario

variable {x : Scenario}

/-! ### Moves -/

/-- Whether a client may be taken or given back in a move. -/
def Move.files : Move → Bool
  | .act (.create _ _ _) | .act (.new _ _ _) | .act (.get _ _) | .act (.remove _)
  | .act (.clone _ _) | .act (.drop _) => true
  | _ => false

/-- The other actions steer a switch, use a stream or end a session, and leave registry and handles.
-/
theorem Effect.holders {action : Action} {t : System} (h : x.Effect action t)
    (hf : Move.files (.act action) = false) : System.SameHolders x.system t := by
  cases h with
  | stays => exact .refl _
  -- these are the actions that touch the files, which this one does not
  | creates | makes | finds | clones | drops | removes => cases hf
  | files | connects | steers | scripts | notes | empties => exact ⟨rfl, rfl⟩
  | closes => exact System.holders_closeSession _ _
  | claims =>
    unfold System.runForMastership
    dsimp only
    split
    · next h =>
      have hs := System.holders_enqueue h
      exact ⟨hs.registry, hs.handles⟩
    · exact ⟨rfl, rfl⟩
  | sends =>
    unfold System.packetOut
    split
    · exact .refl _
    · split
      · next h => exact System.holders_enqueue h
      · exact .refl _
  | pushes => exact (System.sameClients_pushFrame _ _ _).holders
  | fails =>
    exact ((System.sameClients_pushFrame x.system _ _).trans (System.sameClients_detach _ _)).holders
  | detaches => exact (System.sameClients_detach _ _).holders
  | queues =>
    refine System.SameHolders.wake ?_ _
    exact ⟨rfl, rfl⟩
  | hangsUp => exact System.holders_dropUplink _ _
  | turnsAway => exact ⟨rfl, rfl⟩
  | aborts => exact System.holders_retire _ _ _

/-- An action by which nobody takes or gives back a client leaves registry and handles. -/
theorem holders_act {action : Action} (hf : Move.files (.act action) = false) :
    System.SameHolders x.system (x.act action).1.system := (x.effect_act action).holders hf

/-- Neither a call nor a task takes or gives back a client. -/
theorem not_files_of_makes {t : System} {m : Move} {is : List Incident} (h : Makes x t m is)
    (ha : ∀ action, m ≠ .act action) : ∀ i ∈ is, i.files = false := by
  intro i hi
  cases h.ofMove hi with
  | causes action hc => exact absurd rfl (ha action)
  | closed | released | foreign => rfl
  | call name request id hi => cases hi <;> rfl
  | task hi =>
    cases hi with
    | call K hr hi => cases hi <;> rfl
    | _ => rfl

/-- In no other move does anyone take or give back a client. -/
theorem holders_make (hv : x.Valid) {m : Move} (hf : m.files = false) :
    System.SameHolders x.system (x.make m).system := by
  rcases observes_or_leads hv m with ⟨posted, outcome, rfl⟩ | ⟨is, hmake, hl⟩
  · exact ⟨rfl, rfl⟩
  -- An action may hide a filing among its incidents, so actions are looked at by their effect instead.
  · by_cases ha : ∃ action, m = .act action
    · obtain ⟨action, rfl⟩ := ha
      exact holders_act hf
    · exact hl.holders (not_files_of_makes hmake fun action he => ha ⟨action, he⟩)

end Scenario

end P4Control
