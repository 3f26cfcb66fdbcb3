import P4Control.Proofs.Quiet
import P4Control.Proofs.Valid

namespace P4Control

/-!
# What incidents do to clients

Each incident changes the standing of a client by a function of its own, posts certain events
about sessions, and notes certain results.

* `Standing` — the session scopes of a client and its part in the election.
* `Incident.affect` — the standing of a client after an incident.
* `Incident.events` — the events about sessions that an incident posts.
* `Happens.standing`, `Happens.events`, `Happens.finished` — so it is with every incident.
* `Leads.standing`, `Leads.events`, `Leads.finished` — and with every sequence of them.
-/

/-- The session scopes of a client and its part in the election. -/
structure Standing where
  key : ClientKey
  scope : Scope StreamId
  lastUsed : Option ElectionId
  mastership : MastershipState

/-- The standing of a client. -/
def Client.standing (c : Client) : Standing :=
  ⟨c.key, c.scope, c.arbiter.lastUsed, c.arbiter.mastership.value⟩

namespace Scope

variable {α : Type}

/-- The scopes after another one has begun. -/
def next (s : Scope α) : Scope α :=
  { s with begun := s.begun + 1, current := some s.begun, failed := false }

/-- The scopes after the one of `token` has ended in failure. -/
def ruin (s : Scope α) (token : Token) : Scope α :=
  { s with current := none, cancelled := token :: s.cancelled, failed := true,
           connection := s.connection.send .closed, slot := none }

/-- The scopes after the session has opened on `a`. -/
def install (s : Scope α) (a : α) : Scope α :=
  { s with connection := s.connection.send .open, slot := some a }

end Scope

namespace Incident

/-- The standing of the client `id` after an incident. -/
def affect (id : ClientId) (c : Standing) : Incident → Standing
  | .created id' key => if id' = id then { c with key } else c
  | .began id' _ _ => if id' = id then ⟨c.key, c.scope.next, none, .notMaster⟩ else c
  | .opened id' _ _ st =>
    if id' = id then ⟨c.key, c.scope.next.install st, none, .notMaster⟩ else c
  | .closed id' _ | .released id' _ =>
    if id' = id then ⟨c.key, c.scope.close.2, c.lastUsed, .notMaster⟩ else c
  | .lost id' token _ => if id' = id then ⟨c.key, c.scope.ruin token, c.lastUsed, .notMaster⟩ else c
  | .claimed id' election => if id' = id then ⟨c.key, c.scope, some election, .pending⟩ else c
  | .heard id' _ (.arbitration update) =>
    if id' = id ∧ update.device = c.key.number then
      { c with mastership := Arbiter.verdict c.lastUsed update.election }
    else c
  | _ => c

/-- Only its creation gives a client a key. -/
theorem key_affect {i : Incident} {id : ClientId} (hn : ∀ key, i ≠ .created id key)
    (c : Standing) : (i.affect id c).key = c.key := by
  cases i with
  | created id' key =>
    have hne : id' ≠ id := by
      rintro rfl
      exact hn key rfl
    rw [affect, if_neg hne]
  | heard id' st frame =>
    cases frame with
    | arbitration update =>
      simp only [affect]
      split <;> rfl
    | error e => rfl
    | packet wire => rfl
  | began | opened | closed | released | lost | claimed =>
    simp only [affect]
    split <;> rfl
  | _ => rfl

/-- Scopes do not become fewer. -/
theorem begun_affect (i : Incident) (id : ClientId) (c : Standing) :
    c.scope.begun ≤ (i.affect id c).scope.begun := by
  have close : c.scope.begun ≤ c.scope.close.2.begun := Nat.le_of_eq c.scope.begun_close.symm
  cases i with
  | heard id' st frame =>
    cases frame with
    | arbitration update =>
      simp only [affect]
      split <;> exact Nat.le_refl _
    | error e => exact Nat.le_refl _
    | packet wire => exact Nat.le_refl _
  | began | opened =>
    simp only [affect]
    split
    · exact Nat.le_succ _
    · exact Nat.le_refl _
  | closed | released =>
    simp only [affect]
    split
    · exact close
    · exact Nat.le_refl _
  | created | lost | claimed =>
    simp only [affect]
    split <;> exact Nat.le_refl _
  | _ => exact Nat.le_refl _

/-- A scope in which a session has opened stays one: its session is open until the scope ends. -/
theorem opened_affect (i : Incident) {id : ClientId} {c : Standing} {token : Token}
    (h : c.scope.Opened token) : (i.affect id c).scope.Opened token := by
  -- after a close no scope is in place
  have close : c.scope.close.2.Opened token :=
    ⟨c.scope.begun_close.symm ▸ h.1, fun hc => by rw [c.scope.current_close] at hc; cases hc⟩
  cases i with
  | heard id' st frame =>
    cases frame with
    | arbitration update =>
      simp only [affect]
      split <;> exact h
    | _ => exact h
  | began =>
    simp only [affect]
    split
    -- the scope that begins is a later one
    · refine ⟨Nat.lt_succ_of_lt h.1, fun hc => ?_⟩
      exact absurd (Option.some.inj hc).symm (Nat.ne_of_lt h.1)
    · exact h
  | opened =>
    simp only [affect]
    split
    · exact ⟨Nat.lt_succ_of_lt h.1, fun _ => rfl⟩
    · exact h
  | closed | released =>
    simp only [affect]
    split
    · exact close
    · exact h
  | lost =>
    simp only [affect]
    split
    · exact ⟨h.1, fun hc => by cases hc⟩
    · exact h
  | created | claimed =>
    simp only [affect]
    split <;> exact h
  | _ => exact h

/-- The clients that come into being by an incident. -/
def newcomers : Incident → List ClientId
  | .created id _ => [id]
  | _ => []

/-- The results that an incident notes. -/
def results : Incident → List Finished
  | .told f => [f]
  | _ => []

end Incident

/-- Whether an event is about the course of a session. -/
def Event.isLifecycle (e : Event) : Bool :=
  match e.kind with
  | .channelOpen | .channelReconnected | .channelClosed | .channelError => true
  | _ => false

namespace Incident

/-- The events about the course of a session that an incident posts; `device` is the device of a
client. -/
def events (device : ClientId → DeviceId) : Incident → List Event
  | .opened id _ afterFailure _ =>
    [if afterFailure then .channelReconnected (device id) else .channelOpen (device id)]
  | .closed id true | .released id true => [.channelClosed (device id)]
  | .lost id _ (some reason) => [.channelError (device id) reason]
  | _ => []

end Incident

namespace System

variable {s t : System}

/-- The events about sessions that have been posted. -/
def lifecycle (s : System) : List Event := s.journal.filter Event.isLifecycle

/-- The device of a client. -/
def deviceOf (s : System) (id : ClientId) : DeviceId := (s.client id).key.device

/-! ### Quiet changes -/

theorem Quiet.standing (q : Quiet s t) (id : ClientId) :
    (t.client id).standing = (s.client id).standing := by
  have h := q.profile id
  unfold Client.standing
  rw [q.key, q.scope, show (t.client id).arbiter.lastUsed = (s.client id).arbiter.lastUsed from
      congrArg Profile.lastUsed h,
    show (t.client id).arbiter.mastership.value = (s.client id).arbiter.mastership.value from
      congrArg Profile.mastership h]

theorem Quiet.lifecycle (q : Quiet s t) : t.lifecycle = s.lifecycle := by
  obtain ⟨events, hj, he⟩ := q.journal
  have hn : events.filter Event.isLifecycle = [] := by
    rw [List.filter_eq_nil_iff]
    intro e hm
    simp [Event.isLifecycle, he e hm]
  unfold System.lifecycle
  rw [hj, List.filter_append, hn, List.append_nil]

/-! ### Incidents -/

theorem SameClients.standing (h : SameClients s t) (id : ClientId) :
    (t.client id).standing = (s.client id).standing := by rw [h.client]

theorem standing_endScope (id id' : ClientId) (ended : Scope StreamId) :
    ((s.endScope id ended).client id').standing =
      if id = id' then ⟨(s.client id').key, ended, (s.client id').arbiter.lastUsed, .notMaster⟩
      else (s.client id').standing := by
  rw [client_endScope]
  split
  · next h => rw [← h]; rfl
  · rfl

theorem standing_closeSession (id id' : ClientId) :
    ((s.closeSession id).client id').standing =
      if id = id' then
        ⟨(s.client id').key, (s.client id').scope.close.2, (s.client id').arbiter.lastUsed, .notMaster⟩
      else (s.client id').standing := by
  have he := standing_endScope (s := s) id id' (s.client id).scope.close.2
  have hs : ((s.closeSession id).client id') =
      (s.endScope id (s.client id).scope.close.2).client id' := by
    rw [closeSession_eq]
    split <;> rfl
  rw [hs, he]
  split
  · next h => rw [h]
  · rfl

theorem standing_failSession {id : ClientId} {token : Token}
    (ht : (s.client id).scope.current = some token) (id' : ClientId) :
    ((s.failSession id token).client id').standing =
      if id = id' then
        ⟨(s.client id').key, (s.client id').scope.ruin token, (s.client id').arbiter.lastUsed, .notMaster⟩
      else (s.client id').standing := by
  rw [failSession_eq ht, standing_endScope]
  split
  · next h => rw [← h]; rfl
  · rfl

theorem standing_beginScope {id : ClientId} {token : Token} {afterFailure : Bool}
    {begun : Scope StreamId}
    (hb : (s.client id).scope.begin = some (token, afterFailure, begun)) (id' : ClientId) :
    ((s.beginScope id begun).client id').standing =
      if id = id' then ⟨(s.client id').key, (s.client id').scope.next, none, .notMaster⟩
      else (s.client id').standing := by
  obtain ⟨-, -, -, rfl⟩ := Scope.begin_eq_some hb
  rw [client_beginScope]
  split
  · next h => rw [← h]; rfl
  · rfl

/-- A session opens on a new stream. -/
theorem standing_goLive {id : ClientId} {token : Token} {afterFailure : Bool}
    {begun activated : Scope StreamId} {st : StreamId}
    (hb : (s.client id).scope.begin = some (token, afterFailure, begun))
    (hs : SameClients (s.beginScope id begun) t) (ha : begun.activate token st = some activated)
    (id' : ClientId) :
    ((t.goLive id token afterFailure activated st).client id').standing =
      if id = id' then
        ⟨(s.client id').key, (s.client id').scope.next.install st, none, .notMaster⟩
      else (s.client id').standing := by
  have hstand := standing_beginScope hb id'
  rw [← hs.client] at hstand
  obtain ⟨-, rfl⟩ := Scope.activate_eq_some ha
  obtain ⟨-, -, -, rfl⟩ := Scope.begin_eq_some hb
  rw [client_goLive]
  split
  · next h =>
    subst h
    rw [if_pos rfl] at hstand
    obtain ⟨hk, -, hl, hm⟩ := Standing.mk.inj hstand
    unfold Client.standing
    rw [hk, hl, hm]
    rfl
  · next h => rw [hstand, if_neg h]

/-- An inbound loop takes an arbitration update. -/
theorem standing_acknowledge (s : System) (id id' : ClientId) (update : ArbitrationUpdate) :
    (if id = id' then
        { s.client id with
          arbiter := (s.client id).arbiter.acknowledge (s.client id).key.number update }
      else s.client id').standing =
      if id = id' ∧ update.device = (s.client id').key.number then
        { (s.client id').standing with
          mastership := Arbiter.verdict (s.client id').arbiter.lastUsed update.election }
      else (s.client id').standing := by
  by_cases h : id = id'
  · subst h
    rw [if_pos rfl]
    unfold Arbiter.acknowledge
    by_cases hd : update.device = (s.client id).key.number <;> simp [hd, Client.standing]
  · rw [if_neg h, if_neg (fun hd => h hd.1)]

/-- Every incident changes the standing of a client by its function. -/
theorem Happens.standing {i : Incident} (hi : Happens s i t) (hv : s.Valid) (id : ClientId) :
    (t.client id).standing = i.affect id (s.client id).standing := by
  -- most incidents pass the clients by
  have past : i.passesBy = true → (t.client id).standing = (s.client id).standing :=
    fun hp => (hi.passesBy hp).clients.standing id
  cases hi with
  | created key switch config =>
    rw [Incident.affect, client_newClient]
    split
    · next h =>
      rw [client_eq_default (h ▸ hv.not_knows_newClient key switch config)]
      rfl
    · rfl
  | filed _ _ _ _ => rfl
  | told _ _ => rfl
  | began id' token afterFailure begun hk hb => exact standing_beginScope hb id
  | opened id' token afterFailure begun activated capacity t st hk hb hc ha =>
    exact standing_goLive hb (PassesBy.of_connect hc).clients ha id
  | played id' token afterFailure begun activated capacity script rest t st hk hb hn hc ha =>
    exact standing_goLive hb (PassesBy.of_playScript hc).clients ha id
  | closed id' hk => exact standing_closeSession id' id
  | released id' hk hh => exact standing_closeSession id' id
  | failed id' token hk ht => exact standing_failSession ht id
  | unavailable id' token reason hk ht => exact standing_failSession ht id
  | claimed id' election st uplink hk hs hu =>
    show (System.client (wake _ _) id).standing = _
    rw [client_wake, client_updateStream, client_updateClient]
    simp only [Incident.affect]
    split
    · next h => rw [← h]; rfl
    · rfl
  | heard id' token st frame downlink hl hc hd =>
    rw [client_listenFrame]
    cases frame with
    | arbitration update => exact standing_acknowledge s id' id update
    | error e => rfl
    | packet wire => rfl
  | sent | left | served | drained | idled | detached | pushed | steered => exact past rfl
  | foreign _ hc hh hr hf hj hl =>
    unfold System.client
    rw [hc]
    rfl

/-- A client keeps its key. -/
theorem Happens.key {i : Incident} (hi : Happens s i t) (hv : s.Valid) {id : ClientId}
    (hk : s.Knows id) : (t.client id).key = (s.client id).key := by
  have hn : ∀ key, i ≠ .created id key := by
    rintro key rfl
    generalize he : Incident.created id key = i at hi
    cases hi <;> cases he
    exact hv.not_knows_newClient _ _ _ hk
  exact (congrArg Standing.key (hi.standing hv id)).trans (Incident.key_affect hn _)

/-- Clients come into being and stay. -/
theorem Happens.keys {i : Incident} (hi : Happens s i t) (hv : s.Valid) :
    t.clients.keys = s.clients.keys ++ i.newcomers := by
  have same : t.clients.keys = s.clients.keys → i.newcomers = [] →
      t.clients.keys = s.clients.keys ++ i.newcomers := by
    intro hk hn
    rw [hn, List.append_nil, hk]
  have past : i.passesBy = true → t.clients.keys = s.clients.keys :=
    fun hp => congrArg Directory.keys (hi.passesBy hp).clients.clients
  -- a session goes live in a client that is there already
  have lived : ∀ {u : System} {id begun}, s.Knows id → PassesBy (s.beginScope id begun) u →
      ∀ token afterFailure activated st,
        (u.goLive id token afterFailure activated st).clients.keys = s.clients.keys := by
    intro u id begun hk hp token afterFailure activated st
    rw [keys_goLive ((hp.clients.knows id).mpr ((knows_beginScope hk begun id).mpr hk)),
      hp.clients.clients]
    exact keys_updateClient hk _
  cases hi with
  | created key switch config => exact keys_newClient hv key switch config
  | filed _ _ _ _ => exact same rfl rfl
  | told _ _ => exact same rfl rfl
  | began id' token afterFailure begun hk hb => exact same (keys_updateClient hk _) rfl
  | opened id' token afterFailure begun activated capacity t st hk hb hc ha =>
    exact same (lived hk (.of_connect hc) token afterFailure activated st) rfl
  | played id' token afterFailure begun activated capacity script rest t st hk hb hn hc ha =>
    exact same (lived hk (.of_playScript hc) token afterFailure activated st) rfl
  | closed id' hk => exact same (keys_closeSession hk) rfl
  | released id' hk hh => exact same (keys_closeSession hk) rfl
  | failed id' token hk ht => exact same (keys_failSession hk token) rfl
  | unavailable id' token reason hk ht => exact same (keys_failSession hk token) rfl
  | claimed id' election st uplink hk hs hu =>
    refine same ?_ rfl
    rw [clients_wake]
    exact keys_updateClient hk fun c => { c with arbiter := c.arbiter.claim election }
  | heard id' token st frame downlink hl hc hd =>
    exact same (keys_listenFrame (s := s.updateStream st _) (hv.listeners st id' token hl).1 frame) rfl
  | sent | left | served | drained | idled | detached | pushed | steered => 
    exact same (past rfl) rfl
  | foreign _ hc hh hr hf hj hl => exact same (by rw [hc]) rfl

theorem Happens.knows {i : Incident} (hi : Happens s i t) (hv : s.Valid) {id : ClientId}
    (hk : s.Knows id) : t.Knows id := by
  unfold Knows
  rw [hi.keys hv]
  exact List.mem_append_left _ hk

theorem lifecycle_of_journal (hj : t.journal = s.journal) : t.lifecycle = s.lifecycle := by
  unfold lifecycle
  rw [hj]

theorem lifecycle_of_post {e : Event} (hj : t.journal = s.journal ++ [e])
    (he : e.isLifecycle = true) : t.lifecycle = s.lifecycle ++ [e] := by
  unfold lifecycle
  rw [hj, List.filter_append]
  simp [he]

theorem lifecycle_closeSession (id : ClientId) :
    (s.closeSession id).lifecycle = s.lifecycle ++
      if (s.client id).scope.close.1 then [.channelClosed (s.deviceOf id)] else [] := by
  rw [closeSession_eq]
  split
  · refine lifecycle_of_post ?_ rfl
    show (s.endScope id _).journal ++ [_] = _
    rw [journal_endScope, client_endScope, if_pos rfl]
    rfl
  · rw [List.append_nil]
    exact lifecycle_of_journal (journal_endScope s id _)

theorem lifecycle_goLive {u : System} {id : ClientId} {begun : Scope StreamId}
    (hs : SameClients (s.beginScope id begun) u) (token : Token) (afterFailure : Bool)
    (activated : Scope StreamId) (st : StreamId) :
    (u.goLive id token afterFailure activated st).lifecycle = s.lifecycle ++
      [if afterFailure then .channelReconnected (s.deviceOf id)
        else .channelOpen (s.deviceOf id)] := by
  refine lifecycle_of_post ?_ ?_
  · rw [journal_goLive, hs.journal, hs.client, client_beginScope, if_pos rfl]
    rfl
  · split <;> rfl

/-- What a frame makes known is not about the course of a session. -/
theorem lifecycle_listenFrame {u : System} (id : ClientId) (frame : StreamResponse) :
    (u.listenFrame id frame).lifecycle = u.lifecycle := by
  have quiet : ∀ e : Event, e.isLifecycle = false → (u.post e).lifecycle = u.lifecycle := by
    intro e he
    show (u.journal ++ [e]).filter _ = u.journal.filter _
    rw [List.filter_append]
    simp [he]
  cases frame with
  | arbitration update => rfl
  | error e => exact quiet _ rfl
  | packet wire =>
    simp only [listenFrame]
    split
    · rfl
    · split
      · exact quiet _ rfl
      · rfl

/-- Every incident posts its events about sessions. -/
theorem Happens.lifecycle {i : Incident} (hi : Happens s i t) :
    t.lifecycle = s.lifecycle ++ i.events s.deviceOf := by
  -- where nothing is posted, no event may belong to the incident
  have same : t.journal = s.journal → i.events s.deviceOf = [] →
      t.lifecycle = s.lifecycle ++ i.events s.deviceOf := by
    intro hj hn
    rw [hn, List.append_nil]
    exact lifecycle_of_journal hj
  have past : i.passesBy = true → t.journal = s.journal := fun hp => (hi.passesBy hp).clients.journal
  cases hi with
  | created key switch config => exact same rfl rfl
  | filed _ _ _ _ => exact same rfl rfl
  | told _ _ => exact same rfl rfl
  | began id' token afterFailure begun hk hb => exact same rfl rfl
  | opened id' token afterFailure begun activated capacity t st hk hb hc ha =>
    exact lifecycle_goLive (PassesBy.of_connect hc).clients token afterFailure activated st
  | played id' token afterFailure begun activated capacity script rest t st hk hb hn hc ha =>
    exact lifecycle_goLive (PassesBy.of_playScript hc).clients token afterFailure activated st
  | closed id' hk =>
    rw [lifecycle_closeSession]
    cases (s.client id').scope.close.1 <;> rfl
  | released id' hk hh =>
    rw [lifecycle_closeSession]
    cases (s.client id').scope.close.1 <;> rfl
  | failed id' token hk ht =>
    refine same ?_ rfl
    rw [failSession_eq ht, journal_endScope]
  | unavailable id' token reason hk ht =>
    refine lifecycle_of_post ?_ rfl
    rw [failSession_eq ht]
    show (s.endScope id' _).journal ++ [_] = _
    rw [journal_endScope]
    rfl
  | claimed id' election st uplink hk hs hu => exact same (journal_wake _ _) rfl
  | heard id' token st frame downlink hl hc hd =>
    rw [show (Incident.heard id' st frame).events s.deviceOf = [] from rfl, List.append_nil]
    exact lifecycle_listenFrame id' frame
  | sent | left | served | drained | idled | detached | pushed | steered => 
    exact same (past rfl) rfl
  | foreign _ hc hh hr hf hj hl => exact same hj rfl

/-- Every incident notes its results. -/
theorem Happens.finished {i : Incident} (hi : Happens s i t) :
    t.finished = s.finished ++ i.results := by
  have same : t.finished = s.finished → i.results = [] → t.finished = s.finished ++ i.results := by
    intro hf hn
    rw [hn, List.append_nil, hf]
  -- most incidents pass the calls by
  have past : i.passesBy = true → t.finished = s.finished :=
    fun hp => (hi.passesBy hp).clients.finished
  cases hi with
  | created key switch config => exact same rfl rfl
  | filed _ _ _ _ => exact same rfl rfl
  | told _ _ => rfl
  | began id' token afterFailure begun hk hb => exact same rfl rfl
  | opened id' token afterFailure begun activated capacity t st hk hb hc ha =>
    exact same ((finished_goLive _ _ _ _ _ _).trans (PassesBy.of_connect hc).clients.finished) rfl
  | played id' token afterFailure begun activated capacity script rest t st hk hb hn hc ha =>
    exact same ((finished_goLive _ _ _ _ _ _).trans (PassesBy.of_playScript hc).clients.finished) rfl
  | closed id' hk => exact same (finished_closeSession s id') rfl
  | released id' hk hh => exact same (finished_closeSession s id') rfl
  | failed id' token hk ht =>
    refine same ?_ rfl
    rw [failSession_eq ht, finished_endScope]
  | unavailable id' token reason hk ht =>
    refine same ?_ rfl
    rw [failSession_eq ht]
    exact finished_endScope s id' _
  | claimed id' election st uplink hk hs hu => exact same (finished_wake _ _) rfl
  | heard id' token st frame downlink hl hc hd =>
    refine same ?_ rfl
    rw [listenFrame_eq]
    rfl
  | sent | left | served | drained | idled | detached | pushed | steered => 
    exact same (past rfl) rfl
  | foreign _ hc hh hr hf hj hl => exact same hf rfl

/-- The events of an incident are about clients that exist. -/
theorem Happens.events_congr {i : Incident} (hi : Happens s i t) {device : ClientId → DeviceId}
    (hd : ∀ id, s.Knows id → device id = s.deviceOf id) : i.events device = i.events s.deviceOf := by
  cases hi with
  | opened id token afterFailure begun activated capacity t st hk hb hc ha =>
    simp only [Incident.events, hd id hk]
  | played id token afterFailure begun activated capacity script rest t st hk hb hn hc ha =>
    simp only [Incident.events, hd id hk]
  | closed id hk => cases h : (s.client id).scope.close.1 <;> simp [Incident.events, hd id hk]
  | released id hk hh => cases h : (s.client id).scope.close.1 <;> simp [Incident.events, hd id hk]
  | unavailable id token reason hk ht => simp only [Incident.events, hd id hk]
  | _ => rfl

/-! ### Sequences of incidents -/

/-- A sequence of incidents changes the standing of a client by their functions, one by one. -/
theorem Leads.standing {is : List Incident} (l : Leads s is t) (hv : s.Valid) (id : ClientId) :
    (t.client id).standing = is.foldl (Incident.affect id) (s.client id).standing := by
  induction l with
  | refl s => rfl
  | quiet q _ ih => rw [ih (q.valid hv), q.standing]
  | cons hi _ ih => rw [ih (hi.valid hv), hi.standing hv, List.foldl_cons]

theorem Leads.key {is : List Incident} (l : Leads s is t) (hv : s.Valid) {id : ClientId}
    (hk : s.Knows id) : (t.client id).key = (s.client id).key := by
  induction l with
  | refl s => rfl
  | quiet q _ ih => rw [ih (q.valid hv) ((q.knows id).mpr hk), q.key]
  | cons hi _ ih =>
    rw [ih (hi.valid hv) (hi.knows hv hk), hi.key hv hk]

/-- The events of a sequence of incidents are posted in their order. -/
theorem Leads.lifecycle {is : List Incident} (l : Leads s is t) (hv : s.Valid) :
    t.lifecycle = s.lifecycle ++ is.flatMap (Incident.events t.deviceOf) := by
  induction l with
  | refl s => simp
  | quiet q _ ih => rw [ih (q.valid hv), q.lifecycle]
  | @cons s u t i is hi l ih =>
    have he : i.events t.deviceOf = i.events s.deviceOf :=
      hi.events_congr fun id hk => congrArg ClientKey.device ((Leads.cons hi l).key hv hk)
    rw [ih (hi.valid hv), hi.lifecycle, List.flatMap_cons, he, List.append_assoc]

/-- Clients come into being and stay. -/
theorem Leads.keys {is : List Incident} (l : Leads s is t) (hv : s.Valid) :
    t.clients.keys = s.clients.keys ++ is.flatMap Incident.newcomers := by
  induction l with
  | refl s => simp
  | quiet q _ ih => rw [ih (q.valid hv), q.keys]
  | cons hi _ ih => rw [ih (hi.valid hv), hi.keys hv, List.flatMap_cons, List.append_assoc]

theorem Leads.knows {is : List Incident} (l : Leads s is t) (hv : s.Valid) {id : ClientId}
    (hk : s.Knows id) : t.Knows id := by
  unfold Knows
  rw [l.keys hv]
  exact List.mem_append_left _ hk

theorem Leads.begun_le {is : List Incident} (l : Leads s is t) (hv : s.Valid) (id : ClientId) :
    (s.client id).scope.begun ≤ (t.client id).scope.begun := by
  induction l with
  | refl s => exact Nat.le_refl _
  | quiet q _ ih =>
    rw [← q.scope]
    exact ih (q.valid hv)
  | @cons s u t i is hi _ ih =>
    have h : (u.client id).scope.begun = (i.affect id (s.client id).standing).scope.begun :=
      congrArg (fun c => c.scope.begun) (hi.standing hv id)
    refine Nat.le_trans ?_ (ih (hi.valid hv))
    rw [h]
    exact Incident.begun_affect i id (s.client id).standing

/-- A read stream stays in the hands of its caller. -/
theorem Leads.holds {is : List Incident} (l : Leads s is t) (hv : s.Valid) {r : ReadCursor}
    (h : s.Holds r) : t.Holds r := by
  induction l with
  | refl s => exact h
  | quiet q _ ih =>
    refine ih (q.valid hv) (h.mono (q.knows r.client).mpr fun ho => ?_)
    rwa [q.scope]
  | cons hi _ ih =>
    refine ih (hi.valid hv) (h.mono (hi.knows hv) fun ho => ?_)
    rw [show (Client.scope _) = _ from congrArg Standing.scope (hi.standing hv r.client)]
    exact Incident.opened_affect _ ho

/-- The results of a sequence of incidents are noted in their order. -/
theorem Leads.finished {is : List Incident} (l : Leads s is t) :
    t.finished = s.finished ++ is.flatMap Incident.results := by
  induction l with
  | refl s => simp
  | quiet q _ ih => rw [ih, q.finished]
  | cons hi _ ih => rw [ih, hi.finished, List.flatMap_cons, List.append_assoc]

end System

end P4Control
