import P4Control.Proofs.Ending
import P4Control.Proofs.Incident
import P4Control.Proofs.Wiring

namespace P4Control.System

/-!
# Valid systems

What holds of the clients of a system at every moment, whatever has been done to it.

* `Valid` — the invariant.
* `Quiet.valid`, `Happens.valid` — quiet changes and incidents keep it.
* `Leads.valid` — and so does every sequence of them.
-/

/-- The clients of a system are in order. -/
structure Valid (s : System) : Prop where
  scopes : ∀ id, (s.client id).scope.Valid
  /-- An inbound loop runs in a scope that has begun; while that scope is in place the loop reads
  the stream of the open session. -/
  listeners : ∀ st id token, (s.stream st).listener = some (id, token) →
    s.Knows id ∧ token < (s.client id).scope.begun ∧
      ((s.client id).scope.current = some token → (s.client id).scope.slot = some st)
  /-- Only an open session has mastership or waits for it. -/
  mastership : ∀ id, (s.client id).arbiter.mastership.value = .notMaster ∨
    (s.client id).scope.isOpen = true
  waits : s.WaitsBegun
  nodup : s.clients.keys.Nodup
  /-- The clients of a device are numbered consecutively. -/
  numbered : ∀ id ∈ s.clients.keys,
    id.serial < (s.clients.keys.filter fun i => decide (i.device = id.device)).length
  handles : ∀ id ∈ s.handles.values, s.Knows id
  registry : ∀ id ∈ s.registry.values, s.Knows id
  cursors : ∀ f ∈ s.finished, ∀ r, f.cursor = some r → s.Holds r

/-- The system without clients and streams. -/
theorem valid_of_blank {s : System} (hc : s.clients = .empty) (ht : s.streams = .empty)
    (hh : s.handles = .empty) (hr : s.registry = .empty) (hf : s.finished = []) : s.Valid := by
  have client : ∀ id, s.client id = default := by
    intro id
    unfold System.client
    rw [hc]
    rfl
  refine ⟨?_, ?_, ?_, ?_, ?_, ?_, ?_, ?_, ?_⟩
  · intro id
    rw [client]
    exact Scope.valid_default
  · intro st id token h
    unfold stream at h
    rw [ht] at h
    cases h
  · intro id
    rw [client]
    exact .inl rfl
  · intro id call h
    rw [client] at h
    cases h
  · rw [hc]
    exact List.nodup_nil
  · intro id h
    rw [hc] at h
    cases h
  · intro id h
    rw [hh] at h
    cases h
  · intro id h
    rw [hr] at h
    cases h
  · intro f h
    rw [hf] at h
    cases h

/-- A client that a user has under a name is there. -/
theorem Valid.knows_of_handle {s : System} (hv : s.Valid) {name : String} {id : ClientId}
    (h : s.handles.find? name = some id) : s.Knows id :=
  hv.handles id (Directory.mem_values_of_find? h)

/-- A client on file is there. -/
theorem Valid.knows_of_registered {s : System} (hv : s.Valid) {device : DeviceId} {id : ClientId}
    (h : s.registered? device = some id) : s.Knows id :=
  hv.registry id (Directory.mem_values_of_find? h)

/-! ### Changes that keep the invariant -/

variable {s t : System}

theorem Holds.mono {r : ReadCursor} (h : s.Holds r) (hk : s.Knows r.client → t.Knows r.client)
    (ho : (s.client r.client).scope.Opened r.token → (t.client r.client).scope.Opened r.token) :
    t.Holds r :=
  ⟨hk h.1, fun hp => ho (h.2 hp)⟩

/-- The clients stay as they are, and inbound loops at most end. -/
theorem Valid.of_clients (h : s.Valid) (hc : t.clients = s.clients) (hh : t.handles = s.handles)
    (hr : t.registry = s.registry) (hf : t.finished = s.finished)
    (hl : ∀ st l, (t.stream st).listener = some l → (s.stream st).listener = some l) :
    t.Valid := by
  have client : ∀ id, t.client id = s.client id := by
    intro id
    unfold System.client
    rw [hc]
  have knows : ∀ id, t.Knows id ↔ s.Knows id := by
    intro id
    unfold Knows
    rw [hc]
  refine ⟨?_, ?_, ?_, ?_, ?_, ?_, ?_, ?_, ?_⟩
  · intro id
    rw [client]
    exact h.scopes id
  · intro st id token hs
    rw [client, knows]
    exact h.listeners st id token (hl st _ hs)
  · intro id
    rw [client]
    exact h.mastership id
  · intro id
    rw [client]
    exact h.waits id
  · rw [hc]
    exact h.nodup
  · rw [hc]
    exact h.numbered
  · intro id hm
    rw [hh] at hm
    exact (knows id).mpr (h.handles id hm)
  · intro id hm
    rw [hr] at hm
    exact (knows id).mpr (h.registry id hm)
  · intro f hm r hr'
    rw [hf] at hm
    refine (h.cursors f hm r hr').mono (knows r.client).mpr fun ho => ?_
    rwa [client]

theorem Valid.of_passesBy (h : s.Valid) (hp : PassesBy s t) : t.Valid :=
  h.of_clients hp.clients.clients hp.clients.handles hp.clients.registry hp.clients.finished
    hp.listener

/-- One client changes, and keeps its calls. -/
theorem Valid.of_client (h : s.Valid) {id : ClientId} (hid : s.Knows id)
    (hk : t.clients.keys = s.clients.keys)
    (hh : t.handles = s.handles) (hr : t.registry = s.registry) (hf : t.finished = s.finished)
    (hc : ∀ id', id ≠ id' → t.client id' = s.client id')
    (hw : (t.client id).calls = (s.client id).calls)
    (hb : (s.client id).scope.begun ≤ (t.client id).scope.begun)
    (ho : ∀ token, (s.client id).scope.Opened token → (t.client id).scope.Opened token)
    (hs : (t.client id).scope.Valid)
    (hm : (t.client id).arbiter.mastership.value = .notMaster ∨ (t.client id).scope.isOpen = true)
    (hl : ∀ st id' token, (t.stream st).listener = some (id', token) →
      ((s.stream st).listener = some (id', token) ∨ (id' = id ∧ token < (t.client id).scope.begun)) ∧
        (id' = id → (t.client id).scope.current = some token →
          (t.client id).scope.slot = some st)) :
    t.Valid := by
  -- who is known does not change, and no client has fewer scopes than before
  have knows : ∀ id, t.Knows id ↔ s.Knows id := by
    intro id
    unfold Knows
    rw [hk]
  have begun : ∀ id', (s.client id').scope.begun ≤ (t.client id').scope.begun := by
    intro id'
    by_cases hi : id = id'
    · exact hi ▸ hb
    · exact Nat.le_of_eq (by rw [hc id' hi])
  refine ⟨?_, ?_, ?_, ?_, ?_, ?_, ?_, ?_, ?_⟩
  · intro id'
    by_cases hi : id = id'
    · exact hi ▸ hs
    · rw [hc id' hi]
      exact h.scopes id'
  · intro st id' token hst
    obtain ⟨hold, hslot⟩ := hl st id' token hst
    by_cases hi : id' = id
    · subst hi
      refine ⟨(knows id').mpr hid, ?_, hslot rfl⟩
      rcases hold with hold | hnew
      · exact Nat.lt_of_lt_of_le (h.listeners st id' token hold).2.1 hb
      · exact hnew.2
    · rcases hold with hold | hnew
      · rw [hc id' (Ne.symm hi), knows]
        exact h.listeners st id' token hold
      · exact absurd hnew.1 hi
  · intro id'
    by_cases hi : id = id'
    · exact hi ▸ hm
    · rw [hc id' hi]
      exact h.mastership id'
  · intro id' call hcall token htoken
    refine Nat.lt_of_lt_of_le (h.waits id' call ?_ token htoken) (begun id')
    by_cases hi : id = id'
    · subst hi
      rwa [hw] at hcall
    · rwa [hc id' hi] at hcall
  · rw [hk]
    exact h.nodup
  · rw [hk]
    exact h.numbered
  · intro id' hm'
    rw [hh] at hm'
    exact (knows id').mpr (h.handles id' hm')
  · intro id' hm'
    rw [hr] at hm'
    exact (knows id').mpr (h.registry id' hm')
  · intro f hm' r hr'
    rw [hf] at hm'
    refine (h.cursors f hm' r hr').mono (knows r.client).mpr fun hopened => ?_
    by_cases hi : id = r.client
    · subst hi
      exact ho r.token hopened
    · rwa [hc r.client hi]

/-- A quiet change keeps the invariant. -/
theorem Quiet.valid (q : Quiet s t) (h : s.Valid) : t.Valid := by
  have scope : ∀ id, (t.client id).scope = (s.client id).scope := fun id =>
    congrArg Profile.scope (q.profile id)
  have knows : ∀ id, t.Knows id ↔ s.Knows id := by
    intro id
    unfold Knows
    rw [q.keys]
  -- everything that validity speaks of is in the profile, or stays
  refine ⟨?_, ?_, ?_, q.waits h.waits, ?_, ?_, ?_, ?_, ?_⟩
  · intro id
    rw [scope]
    exact h.scopes id
  · intro st id token hst
    rw [q.stream] at hst
    rw [scope, knows]
    exact h.listeners st id token hst
  · intro id
    rw [scope, show (t.client id).arbiter.mastership.value = (s.client id).arbiter.mastership.value
      from congrArg Profile.mastership (q.profile id)]
    exact h.mastership id
  · rw [q.keys]
    exact h.nodup
  · rw [q.keys]
    exact h.numbered
  · intro id hm
    rw [q.handles] at hm
    exact (knows id).mpr (h.handles id hm)
  · intro id hm
    rw [q.registry] at hm
    exact (knows id).mpr (h.registry id hm)
  · intro f hm r hr
    rw [q.finished] at hm
    refine (h.cursors f hm r hr).mono (knows r.client).mpr fun ho => ?_
    rwa [scope]

/-! ### New clients -/

/-- The id of a new client is not in use. -/
theorem Valid.not_knows_newClient (h : s.Valid) (key : ClientKey) (switch : SwitchName)
    (config : ClientConfig) : ¬ s.Knows (s.newClient key switch config).2 := by
  intro hk
  have hn := h.numbered _ hk
  exact Nat.lt_irrefl _ hn

theorem keys_newClient (h : s.Valid) (key : ClientKey) (switch : SwitchName)
    (config : ClientConfig) :
    (s.newClient key switch config).1.clients.keys =
      s.clients.keys ++ [(s.newClient key switch config).2] := by
  show (s.clients.insert _ _).keys = _
  rw [Directory.keys_insert]
  exact if_neg (h.not_knows_newClient key switch config)

theorem client_newClient (key : ClientKey) (switch : SwitchName) (config : ClientConfig)
    (id : ClientId) :
    (s.newClient key switch config).1.client id =
      if (s.newClient key switch config).2 = id then { key, config, switch } else s.client id := by
  unfold System.client System.newClient
  rw [Directory.find?_insert]
  split <;> rfl

/-- A new client is as blank as one that does not exist, but for its key, its settings and its
switch. -/
theorem scope_newClient (h : s.Valid) (key : ClientKey) (switch : SwitchName)
    (config : ClientConfig) (id : ClientId) :
    ((s.newClient key switch config).1.client id).scope = (s.client id).scope ∧
      ((s.newClient key switch config).1.client id).arbiter = (s.client id).arbiter ∧
      ((s.newClient key switch config).1.client id).calls = (s.client id).calls := by
  rw [client_newClient]
  split
  · next hi =>
    rw [client_eq_default (hi ▸ h.not_knows_newClient key switch config)]
    exact ⟨rfl, rfl, rfl⟩
  · exact ⟨rfl, rfl, rfl⟩

theorem Valid.newClient (h : s.Valid) (key : ClientKey) (switch : SwitchName)
    (config : ClientConfig) : (s.newClient key switch config).1.Valid := by
  have same := scope_newClient h key switch config
  have keys := keys_newClient h key switch config
  have knows : ∀ id, s.Knows id → (s.newClient key switch config).1.Knows id := by
    intro id hk
    show id ∈ Directory.keys _
    rw [keys]
    exact List.mem_append_left _ hk
  refine ⟨?_, ?_, ?_, ?_, ?_, ?_, ?_, ?_, ?_⟩
  · intro id
    rw [(same id).1]
    exact h.scopes id
  · intro st id token hst
    obtain ⟨hk, hl⟩ := h.listeners st id token hst
    rw [(same id).1]
    exact ⟨knows id hk, hl⟩
  · intro id
    rw [(same id).1, (same id).2.1]
    exact h.mastership id
  · intro id
    rw [(same id).1, (same id).2.2]
    exact h.waits id
  -- the new client has a number that no other has
  · rw [keys, List.nodup_append]
    refine ⟨h.nodup, by simp, ?_⟩
    intro id hm id' hm' he
    rw [List.mem_singleton.mp hm'] at he
    exact h.not_knows_newClient key switch config (he ▸ hm)
  · intro id hm
    rw [keys] at hm ⊢
    rw [List.filter_append, List.length_append]
    rcases List.mem_append.mp hm with hold | hnew
    · exact Nat.lt_of_lt_of_le (h.numbered id hold) (Nat.le_add_right _ _)
    · rw [List.mem_singleton.mp hnew, List.filter_cons_of_pos (by simp)]
      exact Nat.lt_succ_self _
  · intro id hm
    exact knows id (h.handles id hm)
  · intro id hm
    exact knows id (h.registry id hm)
  · intro f hm r hr
    refine (h.cursors f hm r hr).mono (knows r.client) fun ho => ?_
    rwa [(same r.client).1]

/-! ### Incidents -/

/-- A session opens on a new stream. -/
theorem Valid.goLive (h : s.Valid) {id : ClientId} (hk : s.Knows id) {token : Token}
    {afterFailure : Bool} {begun activated : Scope StreamId} {st : StreamId}
    (hb : (s.client id).scope.begin = some (token, afterFailure, begun))
    (hp : PassesBy (s.beginScope id begun) t) (ha : begun.activate token st = some activated) :
    (t.goLive id token afterFailure activated st).Valid := by
  have hs := hp.clients
  -- What opens the stream changes no client, so this is still the state in which the scope began.
  have client : ∀ id', t.client id' = if id = id' then
      { s.client id with scope := begun, arbiter := (s.client id).arbiter.forget }
      else s.client id' := by
    intro id'
    rw [hs.client]
    exact client_updateClient s id id' fun c =>
      { c with scope := begun, arbiter := c.arbiter.forget }
  have keys : t.clients.keys = s.clients.keys := by
    rw [hs.clients]
    exact keys_updateClient hk fun c => { c with scope := begun, arbiter := c.arbiter.forget }
  have hkt : t.Knows id := by
    unfold Knows
    rwa [keys]
  have hv := (h.scopes id).begin hb
  obtain ⟨-, rfl, -, hbegun⟩ := Scope.begin_eq_some hb
  obtain ⟨-, hact⟩ := Scope.activate_eq_some ha
  refine h.of_client hk ?_ ?_ ?_ ?_ ?_ ?_ ?_ ?_ ?_ ?_ ?_
  · rw [keys_goLive hkt, keys]
  · rw [handles_goLive, hs.handles]
    rfl
  · rw [registry_goLive, hs.registry]
    rfl
  · rw [finished_goLive, hs.finished]
    rfl
  · intro id' hi
    rw [client_goLive, if_neg hi, client, if_neg hi]
  · rw [client_goLive, if_pos rfl, client, if_pos rfl]
  · rw [client_goLive, if_pos rfl, hact, hbegun]
    exact Nat.le_succ _
  · intro token' hopened
    rw [client_goLive, if_pos rfl, hact, hbegun]
    exact ⟨Nat.lt_succ_of_lt hopened.1, fun _ => rfl⟩
  · rw [client_goLive, if_pos rfl]
    exact hv.activate ha
  · rw [client_goLive, if_pos rfl, client, if_pos rfl]
    exact .inl rfl
  · intro st' id' token hst
    rw [stream_goLive] at hst
    rw [client_goLive, if_pos rfl]
    split at hst
    · next hi =>
      cases hst
      rw [hact, hbegun]
      exact ⟨.inr ⟨rfl, Nat.lt_succ_self _⟩, fun _ _ => congrArg some hi⟩
    · next hi =>
      have hold : (s.stream st').listener = some (id', token) := hp.listener st' _ hst
      refine ⟨.inl hold, ?_⟩
      rintro rfl hc
      rw [hact, hbegun] at hc
      -- A listener of before listens for an earlier session, and its token is not the new one.
      have hlt := (h.listeners st' id' token hold).2.1
      rw [← Option.some.inj hc] at hlt
      exact absurd hlt (Nat.lt_irrefl _)

/-- The scope of a client ends. -/
theorem Valid.endScope (h : s.Valid) {id : ClientId} (hk : s.Knows id) {ended : Scope StreamId}
    (hv : ended.Valid) (hb : ended.begun = (s.client id).scope.begun) (hc : ended.current = none) :
    (s.endScope id ended).Valid := by
  refine h.of_client hk (keys_endScope hk ended) (handles_endScope s id ended)
    (registry_endScope s id ended) (finished_endScope s id ended) ?_ ?_ ?_ ?_ ?_ ?_ ?_
  · intro id' hi
    rw [client_endScope, if_neg hi]
  · rw [client_endScope, if_pos rfl]
  · rw [client_endScope, if_pos rfl]
    exact Nat.le_of_eq hb.symm
  -- no later scope is in place, so none can be mistaken for one that was opened
  · intro token hopened
    rw [client_endScope, if_pos rfl]
    refine ⟨hb ▸ hopened.1, fun hcur => ?_⟩
    rw [show (_ : Client).scope.current = ended.current from rfl, hc] at hcur
    cases hcur
  · rw [client_endScope, if_pos rfl]
    exact hv
  · rw [client_endScope, if_pos rfl]
    exact .inl rfl
  · intro st id' token hst
    rw [client_endScope, if_pos rfl]
    refine ⟨.inl ?_, fun _ hcur => ?_⟩
    · rw [stream_endScope] at hst
      split at hst <;> exact hst
    · rw [show (_ : Client).scope.current = ended.current from rfl, hc] at hcur
      cases hcur

/-- Whoever listens in the scope that ends is roused. -/
theorem Valid.listen_ready_endScope (h : s.Valid) {id id' : ClientId} {ended : Scope StreamId}
    {st : StreamId} {token : Token}
    (hcan : ∀ token, ended.isCancelled token = true →
      (s.client id).scope.isCancelled token = true ∨ (s.client id).scope.current = some token)
    (hl : (s.stream st).listener = some (id', token))
    (hc : ((s.endScope id ended).client id').scope.isCancelled token = true) :
    (s.client id').scope.isCancelled token = true ∨
      .listen st ∈ (s.endScope id ended).ready := by
  rw [client_endScope] at hc
  split at hc
  · next he =>
    subst he
    rcases hcan token hc with hold | hcur
    · exact .inl hold
    · refine .inr ((ready_endScope s id ended).2 _ ?_)
      have hslot := (h.listeners st id token hl).2.2 hcur
      simp [roused, hcur, hslot]
  · exact .inl hc

theorem Valid.post (h : s.Valid) (e : Event) : (s.post e).Valid :=
  h.of_clients rfl rfl rfl rfl fun _ _ hl => hl

theorem Valid.closeSession (h : s.Valid) {id : ClientId} (hk : s.Knows id) :
    (s.closeSession id).Valid := by
  have hv := h.endScope hk (h.scopes id).close (Scope.begun_close _) (Scope.current_close _)
  rw [closeSession_eq]
  split
  · exact hv.post _
  · exact hv

theorem Valid.failSession (h : s.Valid) {id : ClientId} (hk : s.Knows id) {token : Token}
    (ht : (s.client id).scope.current = some token) : (s.failSession id token).Valid := by
  rw [failSession_eq ht]
  exact h.endScope hk ((h.scopes id).terminate ht true) rfl rfl

/-- A scope begins, and waits for its stream. -/
theorem Valid.beginScope (h : s.Valid) {id : ClientId} (hk : s.Knows id) {token : Token}
    {afterFailure : Bool} {begun : Scope StreamId}
    (hb : (s.client id).scope.begin = some (token, afterFailure, begun)) :
    (s.beginScope id begun).Valid := by
  have hv := (h.scopes id).begin hb
  obtain ⟨hc, rfl, -, rfl⟩ := Scope.begin_eq_some hb
  refine h.of_client hk (keys_updateClient hk _) rfl rfl rfl ?_ ?_ ?_ ?_ ?_ ?_ ?_
  · intro id' hi
    exact (client_updateClient s id id' _).trans (if_neg hi)
  all_goals rw [show ((s.beginScope id _).client id) = _ from client_updateClient_self s id _]
  · exact Nat.le_succ _
  · intro token hopened
    refine ⟨Nat.lt_succ_of_lt hopened.1, fun hcur => ?_⟩
    exact absurd (Option.some.inj hcur).symm (Nat.ne_of_lt hopened.1)
  · exact hv
  · exact .inl rfl
  · intro st id' token hst
    refine ⟨.inl hst, ?_⟩
    rintro rfl hcur
    -- A listener is of a scope that has begun before, not of the one that begins now.
    have hlt := (h.listeners st id' token hst).2.1
    rw [← Option.some.inj hcur] at hlt
    exact absurd hlt (Nat.lt_irrefl _)

/-- A claim is made in a session that is open. -/
theorem Valid.claim (h : s.Valid) {id : ClientId} (hk : s.Knows id) {st : StreamId}
    (hs : (s.client id).scope.slot = some st) (election : ElectionId) :
    (s.updateClient id fun c => { c with arbiter := c.arbiter.claim election }).Valid := by
  have hopen : (s.client id).scope.isOpen = true := by
    rw [(h.scopes id).isOpen_iff, hs]
    rfl
  have hself := client_updateClient_self s id fun c => { c with arbiter := c.arbiter.claim election }
  have hcalls := congrArg Client.calls hself
  have hb := congrArg (fun c => c.scope.begun) hself
  refine h.of_client hk (keys_updateClient hk _) rfl rfl rfl ?_ hcalls (Nat.le_of_eq hb.symm) ?_ ?_ ?_ ?_
  · intro id' hi
    exact (client_updateClient s id id' _).trans (if_neg hi)
  · rw [client_updateClient_self]
    exact fun _ hopened => hopened
  · rw [client_updateClient_self]
    exact h.scopes id
  · rw [client_updateClient_self]
    exact .inr hopen
  · intro st' id' token hst
    rw [client_updateClient_self]
    refine ⟨.inl hst, ?_⟩
    rintro rfl hcur
    exact (h.listeners st' id' token hst).2.2 hcur

/-- An inbound loop takes a frame in the scope in place, where the session is open. -/
theorem Valid.listenFrame (h : s.Valid) {id : ClientId} {token : Token} {st : StreamId}
    (hl : (s.stream st).listener = some (id, token))
    (hc : (s.client id).scope.isCancelled token = false) (frame : StreamResponse)
    (downlink : Pipe (Arrival StreamResponse)) :
    ((s.updateStream st fun t => { t with downlink }).listenFrame id frame).Valid := by
  obtain ⟨hk, hlt, hslot⟩ := h.listeners st id token hl
  -- the session of the loop is in place, so an update may make its client master
  have hopen : (s.client id).scope.isOpen = true := by
    rw [(h.scopes id).isOpen_iff, hslot ((h.scopes id).current_eq_some hlt hc)]
    rfl
  have hclient : ∀ id', ((s.updateStream st fun t => { t with downlink }).listenFrame id
      frame).client id' = _ := fun id' => client_listenFrame _ id id' frame
  refine h.of_client hk (keys_listenFrame (s := s.updateStream st _) hk frame) ?_ ?_ ?_ ?_ ?_ ?_ ?_
    ?_ ?_ ?_
  · rw [listenFrame_eq]; rfl
  · rw [listenFrame_eq]; rfl
  · rw [listenFrame_eq]; rfl
  · intro id' hi
    rw [hclient]
    cases frame <;> simp [hi]
  · rw [hclient]
    cases frame <;> simp
  · rw [hclient]
    cases frame <;> simp
  · rw [hclient]
    cases frame <;> simp
  · rw [hclient]
    cases frame <;> simpa using h.scopes id
  · rw [hclient]
    right
    cases frame <;> simpa using hopen
  · intro st' id' token' hst
    rw [stream_listenFrame] at hst
    have hold : (s.stream st').listener = some (id', token') :=
      listener_updateStream (f := fun t => { t with downlink }) (fun _ => rfl) hst
    refine ⟨.inl hold, ?_⟩
    rintro rfl
    rw [hclient]
    have := (h.listeners st' id' token' hold).2.2
    cases frame <;> simpa using this

theorem PassesBy.foreign (h : PassesBy s t) : Happens s .foreign t :=
  .foreign s t h.clients.clients h.clients.handles h.clients.registry h.clients.finished
    h.clients.journal h.listener

/-- The incidents of streams and switches pass the clients by. -/
theorem Happens.passesBy {i : Incident} (hi : Happens s i t) (hp : i.passesBy = true) :
    PassesBy s t := by
  cases hi with
  | sent id packet st uplink => exact (PassesBy.setUplink s st uplink).trans (.wake _ _)
  | left id token st => exact (PassesBy.dequeue s).trans (.dropListener _ st)
  | served st frame uplink => exact (PassesBy.setUplink s st uplink).trans (.serveFrame _ _ frame)
  | drained st => exact (PassesBy.dequeue s).trans (.updateStream _ st fun _ => rfl)
  | idled task => exact .dequeue s
  | detached n => exact .detach s n
  | pushed n frame => exact .pushFrame s n frame
  | steered n agent => exact .updateSwitch s n _
  | _ => cases hp

/-- Every incident keeps the invariant. -/
theorem Happens.valid {i : Incident} (hi : Happens s i t) (h : s.Valid) : t.Valid := by
  have past : i.passesBy = true → t.Valid := fun hp => h.of_passesBy (hi.passesBy hp)
  cases hi with
  | created key switch config => exact h.newClient key switch config
  | filed handles registry hh hr =>
    exact ⟨h.scopes, h.listeners, h.mastership, h.waits, h.nodup, h.numbered, hh, hr, h.cursors⟩
  | told f hf =>
    refine ⟨h.scopes, h.listeners, h.mastership, h.waits, h.nodup, h.numbered, h.handles,
      h.registry, ?_⟩
    intro f' hm
    rcases List.mem_append.mp hm with hold | hnew
    · exact h.cursors f' hold
    · rw [List.mem_singleton.mp hnew]
      exact hf
  | began id token afterFailure begun hk hb => exact h.beginScope hk hb
  | opened id token afterFailure begun activated capacity t st hk hb hc ha =>
    exact h.goLive hk hb (.of_connect hc) ha
  | played id token afterFailure begun activated capacity script rest t st hk hb hs hc ha =>
    exact h.goLive hk hb (.of_playScript hc) ha
  | closed id hk => exact h.closeSession hk
  | released id hk hh => exact h.closeSession hk
  | failed id token hk ht => exact h.failSession hk ht
  | unavailable id token reason hk ht => exact (h.failSession hk ht).post _
  | claimed id election st uplink hk hs hu =>
    -- The arbiter changes first, in a session that is open; then only the stream does.
    exact (h.claim hk hs election).of_passesBy ((PassesBy.setUplink _ st uplink).trans (.wake _ _))
  | heard id token st frame downlink hl hc hd => exact h.listenFrame hl hc frame downlink
  | foreign _ hc hh hr hf hj hl => exact h.of_clients hc hh hr hf hl
  | sent | left | served | drained | idled | detached | pushed | steered => exact past rfl

/-- Every sequence of incidents keeps the invariant. -/
theorem Leads.valid {is : List Incident} (l : Leads s is t) (h : s.Valid) : t.Valid := by
  induction l with
  | refl s => exact h
  | quiet q _ ih => exact ih (q.valid h)
  | cons hi _ ih => exact ih (hi.valid h)

end P4Control.System
