import P4Control.Proofs.Closing
import P4Control.Proofs.Roster

namespace P4Control

/-!
# Creating, looking up and removing clients

The registry hands out the client it has under its own key, refuses any other key, and makes a fresh
client where it has none.  A client that is removed ends its session and never comes back; one that is on
file changes only by what is done through it.

* `Incident.touches`, `Leads.standing_of_untouched` — the incidents that a client notices.
* `Scenario.through?` — the client that a move is made through.
* `standing_of_registered` — nothing else changes a client on file.
* `remove_registered` — what comes of a removal.
* `registry_history` — all of it, after every list of moves.
-/

/-! ### What a client notices -/

/-- Whether an incident is about the session or the mastership of a client. -/
def Incident.touches (id : ClientId) : Incident → Bool
  | .began id' _ _ | .opened id' _ _ _ | .closed id' _ | .released id' _ | .lost id' _ _
  | .claimed id' _ | .heard id' _ _ => decide (id' = id)
  | _ => false

/-- Only a creation changes the standing of a client that is not touched, and only its key. -/
theorem Incident.affect_of_untouched {i : Incident} {id : ClientId} (h : i.touches id = false)
    (c : Standing) : { i.affect id c with key := c.key } = c := by
  cases i with
  | created id' key =>
    simp only [affect]
    split <;> rfl
  | heard id' st frame =>
    have hne : id' ≠ id := by simpa [touches] using h
    cases frame with
    | arbitration update => simp [affect, hne]
    | error e => rfl
    | packet wire => rfl
  | began id' | opened id' | closed id' | released id' | lost id' | claimed id' =>
    have hne : id' ≠ id := by simpa [touches] using h
    simp [affect, hne]
  | _ => rfl

/-- Incidents that touch others leave a client as it is, but for its key. -/
theorem Incident.foldl_of_untouched {is : List Incident} {id : ClientId}
    (h : ∀ i ∈ is, i.touches id = false) (c : Standing) :
    { is.foldl (Incident.affect id) c with key := c.key } = c := by
  induction is generalizing c with
  | nil => rfl
  | cons i rest ih =>
    have hr := ih (fun j hj => h j (List.mem_cons_of_mem _ hj)) (i.affect id c)
    rw [List.foldl_cons]
    calc { rest.foldl (Incident.affect id) (i.affect id c) with key := c.key }
        = { { rest.foldl (Incident.affect id) (i.affect id c) with key := (i.affect id c).key } with
            key := c.key } := rfl
      _ = { i.affect id c with key := c.key } := by rw [hr]
      _ = c := affect_of_untouched (h i List.mem_cons_self) c

/-- A call of another client touches this one in nothing. -/
theorem Incident.OfCall.untouched {i : Incident} {id id' : ClientId} {opening : Bool}
    (h : i.OfCall id' opening) (hne : id' ≠ id) : i.touches id = false := by
  cases h <;> simp [Incident.touches, hne]

namespace Scope

variable {α : Type} {s : Scope α}

/-- A close tells whether a session was open. -/
theorem Valid.fst_close (h : s.Valid) : s.close.1 = s.isOpen := by
  cases hc : s.current with
  | none => rw [close_of_none hc, h.isOpen_eq_false (h.slot_eq_none hc)]
  | some token => rw [close_of_current hc]

/-- A scope that has ended is as closed as it can be. -/
theorem Valid.close_of_vacant (h : s.Valid) (hc : s.current = none) : s.close = (false, s) := by
  rw [close_of_none hc, ← h.slot_eq_none hc]

/-- Without a scope in place the connection is closed. -/
theorem Valid.connection_of_vacant (h : s.Valid) (hc : s.current = none) :
    s.connection.value = .closed := by
  have ho := h.isOpen_eq_false (h.slot_eq_none hc)
  unfold isOpen at ho
  cases hv : s.connection.value with
  | closed => rfl
  | «open» => simp [hv] at ho

end Scope

namespace System

variable {s t : System} {id : ClientId}

/-- A client that is not touched on the way stands as before. -/
theorem Leads.standing_of_untouched {is : List Incident} (l : Leads s is t) (hv : s.Valid)
    (hk : s.Knows id) (h : ∀ i ∈ is, i.touches id = false) :
    (t.client id).standing = (s.client id).standing := by
  have hb := Incident.foldl_of_untouched h (s.client id).standing
  rw [← l.standing hv id] at hb
  have hkey : (t.client id).standing.key = (s.client id).standing.key := l.key hv hk
  rw [← hb, ← hkey]

/-- A holder that goes leaves a client alone that is held. -/
theorem Parting.untouched {id' : ClientId} {rest : List Incident} (h : Parting id' t rest)
    (hh : t.isHeld id = true) : ∀ i ∈ rest, i.touches id = false := by
  cases h with
  | stays => simp
  | goes wasOpen hn =>
    have hne : id' ≠ id := by
      rintro rfl
      rw [hn] at hh
      cases hh
    simp [Incident.touches, hne]

/-! ### Sessions that are closed -/

/-- A close posts an event only if the session was open. -/
theorem journal_closeSession (s : System) (id : ClientId) :
    (s.closeSession id).journal = s.journal ++
      if (s.client id).scope.close.1 then [.channelClosed (s.client id).key.device] else [] := by
  have hj := journal_endScope s id (s.client id).scope.close.2
  rw [closeSession_eq]
  split
  · show (s.endScope id _).journal ++ [_] = _
    rw [hj, client_endScope, if_pos rfl]
  · rw [hj, List.append_nil]

/-- The session of one client is closed without the others. -/
theorem client_closeSession_of_ne {id' : ClientId} (hne : id ≠ id') :
    (s.closeSession id).client id' = s.client id' := by
  have he : (s.closeSession id).client id' =
      (s.endScope id (s.client id).scope.close.2).client id' := by
    rw [closeSession_eq]
    split <;> rfl
  rw [he, client_endScope, if_neg hne]

/-- A client that is held does not notice that a holder goes, of itself or of another client. -/
theorem client_release_of_held (old : ClientId) (h : s.isHeld id = true) :
    (s.release old).client id = s.client id := by
  unfold release
  split
  · rfl
  · next hn =>
    refine client_closeSession_of_ne ?_
    rintro rfl
    exact hn h

/-- A handle is taken from a client that someone else holds, and nothing comes of it. -/
theorem client_setHandle_of_held {name : String} {id' : ClientId}
    (h : ({ s with handles := s.handles.insert name id' } : System).isHeld id = true) :
    (s.setHandle name id').client id = s.client id := by
  unfold setHandle
  dsimp only
  split
  · exact client_release_of_held _ h
  · rfl

/-- Closing a session for a second time changes nothing of its client. -/
theorem release_of_vacant (hv : s.Valid) (hc : (s.client id).scope.current = none) :
    (s.release id).journal = s.journal ∧ ((s.release id).client id).standing = (s.client id).standing := by
  unfold release
  split
  · exact ⟨rfl, rfl⟩
  · have hclose := (hv.scopes id).close_of_vacant hc
    refine ⟨?_, ?_⟩
    · rw [journal_closeSession, hclose]
      exact List.append_nil _
    · have hm := (hv.mastership id).resolve_right fun ho => by
        rw [(hv.scopes id).isOpen_eq_false ((hv.scopes id).slot_eq_none hc)] at ho
        cases ho
      rw [standing_closeSession, if_pos rfl, hclose]
      unfold Client.standing
      rw [hm]

/-- What comes of the removal of a client from the registry. -/
theorem removeClient_registered (hv : s.Valid) {device : DeviceId}
    (hr : s.registered? device = some id) :
    (s.removeClient device).1.journal = s.journal ++
        (if (s.client id).scope.isOpen then [.channelClosed (s.client id).key.device] else []) ∧
      ((s.removeClient device).1.client id).standing =
        ⟨(s.client id).key, (s.client id).scope.close.2, (s.client id).arbiter.lastUsed, .notMaster⟩ := by
  have hf : Happens s .filed { s with registry := s.registry.erase device } :=
    .filed s s.handles _ hv.handles fun id' h => hv.registry id' (Directory.mem_values_erase h)
  have hve := hf.valid hv
  have hk : ({ s with registry := s.registry.erase device } : System).Knows id :=
    hv.knows_of_registered hr
  have hc : ((({ s with registry := s.registry.erase device } : System).closeSession id).client
      id).scope.current = none := by
    rw [scope_closeSession]
    exact Scope.current_close _
  obtain ⟨hj, hs⟩ := release_of_vacant (hve.closeSession hk) hc
  rw [(removeClient_parts s device hr).1]
  refine ⟨?_, ?_⟩
  · rw [hj, journal_closeSession, (hve.scopes id).fst_close]
    rfl
  · rw [hs, standing_closeSession, if_pos rfl]
    rfl

end System

namespace Scenario

variable {x : Scenario} {id : ClientId} {device : DeviceId} {m : Move}

/-! ### What is done through a client -/

/-- The client that a move is made through, if it may change its session or its mastership: that of a
handle, of a read stream, of a call, or of an inbound loop; or the one that is removed. -/
def through? (x : Scenario) : Move → Option ClientId
  | .act (.close client) | .act (.run client _) => x.system.handles.find? client
  | .act (.remove device) => x.system.registered? device
  | .start _ request => x.asked? request
  | .poll =>
    match x.system.ready with
    | .resume K :: _ => some K.client
    | .listen st :: _ => (x.system.stream st).listener.map (·.1)
    | _ => none
  | _ => none

/-- An inbound loop runs through its client. -/
theorem through?_of_listens {token : Token} {reception : Reception (Arrival StreamResponse)}
    (h : x.system.listens = some (id, token, reception)) : x.through? .poll = some id := by
  unfold System.listens at h
  unfold through?
  split at h
  · next st rest hr =>
    rw [hr]
    dsimp only
    split at h
    · next id' token' hl =>
      rw [hl]
      split at h
      · cases h
      · cases h
        rfl
    · cases h
  · cases h

/-- A frame is heard through the client of the loop. -/
theorem through?_of_hears {frame : StreamResponse} (h : x.system.hears = some (id, frame)) :
    x.through? .poll = some id := by
  unfold System.hears at h
  split at h
  · next hl =>
    cases h
    exact through?_of_listens hl
  · cases h

/-- A stream is lost through the client of the loop. -/
theorem through?_of_loses {reason : Option String} (h : x.system.loses = some (id, reason)) :
    x.through? .poll = some id := by
  unfold System.loses at h
  split at h
  · next hl =>
    cases h
    exact through?_of_listens hl
  · next hl =>
    cases h
    exact through?_of_listens hl
  · cases h

/-- A call goes on through its client. -/
theorem through?_of_resume {K : CallId} (h : x.system.ready.head? = some (.resume K)) :
    x.through? .poll = some K.client := by
  obtain ⟨rest, hr⟩ := List.head?_eq_some_iff.mp h
  unfold through?
  rw [hr]

/-- What a move does to a client that is held afterwards is done through the client.  Of a request the
incidents do not say whose it is. -/
theorem untouched_of_makes {t : System} {is : List Incident} (h : Makes x t m is)
    (hs : ∀ name request, m ≠ .start name request) (hh : t.isHeld id = true)
    (hm : x.through? m ≠ some id) : ∀ i ∈ is, i.touches id = false := by
  intro i hi
  have unheld : ∀ {id'}, t.isHeld id' = false → decide (id' = id) = false := by
    intro id' hn
    refine decide_eq_false fun he => ?_
    rw [he, hh] at hn
    cases hn
  -- Every incident has somebody behind it: for each it is a client other than this one, or nobody.
  cases h.ofMove hi with
  | causes action hc =>
    cases i with
    | claimed id' election =>
      obtain ⟨client, rfl, hclient, -⟩ := hc
      refine decide_eq_false fun he => hm ?_
      rw [← he]
      exact hclient
    | _ => first | rfl | exact hc.elim
  | closed action id' wasOpen hc =>
    refine decide_eq_false fun he => hm ?_
    subst he
    cases action with
    | close client => exact of_decide_eq_true hc
    | remove device => exact of_decide_eq_true hc
    | _ => cases hc
  | released m id' wasOpen hn => exact unheld hn
  | call name request => exact absurd rfl (hs name request)
  | foreign name request => rfl
  | task hi =>
    cases hi with
    | heard id' st frame hhears => exact decide_eq_false fun he => hm (he ▸ through?_of_hears hhears)
    | lost id' token reason hl => exact decide_eq_false fun he => hm (he ▸ through?_of_loses hl)
    | call K hr hi =>
      have hne : K.client ≠ id := fun he => hm (he ▸ through?_of_resume hr)
      exact hi.untouched hne
    | released id' wasOpen hn => exact unheld hn
    | _ => rfl

/-- A client on file stays on file, with its session and its mastership, unless the move is made through
it. -/
theorem standing_of_registered (hv : x.Valid) (hr : x.system.registered? device = some id)
    (hm : x.through? m ≠ some id) :
    (x.make m).system.registered? device = some id ∧
      ((x.make m).system.client id).standing = (x.system.client id).standing := by
  have hk := hv.system.knows_of_registered hr
  -- only a creation for the device, or its removal, concerns the entry
  have hr' : (x.make m).system.registered? device = some id := by
    unfold System.registered? at hr ⊢
    cases registry_make hv m with
    | joins key handle change id' hn hk' hd hreply hh he =>
      have hne : key.device ≠ device := by
        intro hd'
        rw [hd', System.registered?, hr] at hn
        cases hn
      rw [he, Directory.find?_insert, if_neg hne]
      exact hr
    | refused key handle change error hact =>
      rw [make, hact]
      exact hr
    | leaves device' id' hi he =>
      have hne : device' ≠ device := fun hd => hm (by rw [hd]; exact hr)
      rw [he, Directory.find?_erase, if_neg hne]
      exact hr
    | joined _ _ _ _ _ _ _ he | absent _ _ he | stays _ _ _ he =>
      rw [he]
      exact hr
  refine ⟨hr', ?_⟩
  have hh := System.isHeld_of_registered hr'
  rcases observes_or_leads hv m with ⟨posted, outcome, rfl⟩ | ⟨is, hmake, hl⟩
  · rfl
  -- a request touches the client it is made through; any other move, what it says
  · by_cases hs : ∃ name request, m = .start name request
    · obtain ⟨name, request, rfl⟩ := hs
      rcases starts_start hv.system hv.reads name request with ⟨id'', ha, hplays⟩ | q | ⟨-, hf⟩
      · obtain ⟨is', rest', hc', hp', hl'⟩ := hplays
        have hne : id'' ≠ id := fun he => hm (he ▸ ha)
        refine hl'.standing_of_untouched hv.system hk fun i hi => ?_
        exact (List.mem_append.mp hi).elim (fun hi => (hc'.ofCall hi).untouched hne)
          (hp'.untouched hh i)
      · exact q.standing id
      · exact hf.standing_of_untouched hv.system hk (by simp [Incident.touches])
    · exact hl.standing_of_untouched hv.system hk
        (untouched_of_makes hmake (fun name request he => hs ⟨name, request, he⟩) hh hm)

/-! ### Creating a client -/

/-- What comes of the creation of a client where `onFile` is on file for the device. -/
def Creates (x : Scenario) (onFile : Option ClientId) (key : ClientKey) (handle : String)
    (change : Option ConfigChange) : Prop :=
  let reply := (x.act (.create key handle change)).2
  let y := x.make (.act (.create key handle change))
  match onFile, x.system.channels.find? key.device with
  | some id, _ =>
    if (x.system.client id).key = key then
      reply = .key (some key) ∧ y.system.handles.find? handle = some id ∧
        y.system.registry = x.system.registry ∧ y.system.client id = x.system.client id
    else reply = .error (.clientExists key.device (x.system.client id).key) ∧ y = x
  | none, none => reply = .error (.channelNotFound key.device) ∧ y = x
  | none, some switch =>
    ∃ id, ¬ x.system.Knows id ∧ reply = .key (some key) ∧ y.system.handles.find? handle = some id ∧
      y.system.registry = x.system.registry.insert key.device id ∧
      y.system.client id = { key, config := x.settings change, switch } ∧
      status y.system id = ⟨.closed, .notMaster, none⟩

/-- A client that has just been created is closed, is not master and has claimed nothing. -/
theorem status_of_fresh {s : System} {key : ClientKey} {config : ClientConfig} {switch : SwitchName}
    (h : s.client id = { key, config, switch }) : status s id = ⟨.closed, .notMaster, none⟩ := by
  unfold status
  rw [h]

/-- Creating a client by way of the registry does what the entry on file asks for. -/
theorem creates (hv : x.Valid) (key : ClientKey) (handle : String) (change : Option ConfigChange) :
    x.Creates (x.system.registered? key.device) key handle change := by
  unfold Creates
  cases hr : x.system.registered? key.device with
  | some id =>
    have hact := act_create_registered handle change hr
    -- the device is on file: with this key, or with another one
    by_cases hk : (x.system.client id).key = key
    · rw [if_pos hk] at hact
      dsimp only
      rw [if_pos hk, make, hact]
      refine ⟨rfl, System.find?_setHandle x.system handle id,
        (System.setHandle_parts x.system handle id).1, ?_⟩
      exact System.client_setHandle_of_held
        (System.isHeld_of_registered (s := { x.system with handles := _ }) hr)
    · rw [if_neg hk] at hact
      dsimp only
      rw [if_neg hk, make, hact]
      exact ⟨rfl, rfl⟩
  | none =>
    cases hc : x.system.channels.find? key.device with
    | none =>
      have hact := act_create_of_no_channel handle change hr hc
      dsimp only
      rw [make, hact]
      exact ⟨rfl, rfl⟩
    | some switch =>
      have hact := act_create_fresh handle change hr hc
      -- the client is new, and giving it a handle leaves it as it was made
      have hclient : (((x.enlist key switch (x.settings change)).1.setHandle handle
          (x.enlist key switch (x.settings change)).2).client
            (x.enlist key switch (x.settings change)).2) =
          { key, config := x.settings change, switch } := by
        rw [System.client_setHandle_of_held]
        · show (x.system.newClient key switch (x.settings change)).1.client
            (x.system.newClient key switch (x.settings change)).2 = _
          rw [System.client_newClient, if_pos rfl]
        · exact System.isHeld_of_handle
            ((Directory.find?_insert _ handle handle _).trans (if_pos rfl))
      dsimp only
      refine ⟨(x.enlist key switch (x.settings change)).2,
        hv.system.not_knows_newClient key switch (x.settings change), by rw [hact], ?_⟩
      rw [make, hact]
      exact ⟨System.find?_setHandle _ handle _, (System.setHandle_parts _ handle _).1, hclient,
        status_of_fresh hclient⟩

/-! ### Removing a client -/

/-- Whoever is handed out by a creation has been on file or is new. -/
theorem handed_out (hv : x.Valid) {key : ClientKey} {handle : String} {change : Option ConfigChange}
    (hr : (x.act (.create key handle change)).2 = .key (some key)) :
    ∃ id, (x.make (.act (.create key handle change))).system.handles.find? handle = some id ∧
      (x.make (.act (.create key handle change))).system.registered? key.device = some id := by
  cases registry_make hv (.act (.create key handle change)) with
  | joins _ _ _ id hn hk hd _ hh he =>
    refine ⟨id, hh, ?_⟩
    unfold System.registered?
    rw [he, Directory.find?_insert, if_pos rfl]
  | joined _ _ _ id hi _ hh he =>
    refine ⟨id, hh, ?_⟩
    unfold System.registered?
    rw [he]
    exact hi
  | refused _ _ _ error hact =>
    rw [hact] at hr
    cases hr
  | stays _ hc _ _ => exact absurd rfl (hc key handle change)

/-- What comes of the removal of the client of a device where `onFile` is on file for it. -/
def Removes (x : Scenario) (onFile : Option ClientId) (device : DeviceId) : Prop :=
  let reply := (x.act (.remove device)).2
  let y := x.make (.act (.remove device))
  match onFile with
  | none => reply = .flag false ∧ y = x
  | some id =>
    reply = .flag true ∧ y.system.registered? device = none ∧
      (status y.system id).connection = .closed ∧ (status y.system id).mastership = .notMaster ∧
      y.system.journal = x.system.journal ++
        (if (x.system.client id).scope.isOpen then [.channelClosed device] else []) ∧
      -- whatever happens afterwards, the client is not handed out again
      ∀ ns, (∀ device', (y.after ns).system.registered? device' ≠ some id) ∧
        ∀ key handle change,
          ((y.after ns).act (.create key handle change)).2 = .key (some key) →
            ∃ id', ((y.after ns).make (.act (.create key handle change))).system.handles.find? handle =
              some id' ∧ id' ≠ id

/-- Removing a device does what the entry on file asks for. -/
theorem removes (h : x.Enrolled) (hv : x.Valid) (device : DeviceId) :
    x.Removes (x.system.registered? device) device := by
  unfold Removes
  cases hr : x.system.registered? device with
  | none =>
    have hnone : x.system.removeClient device = (x.system, false) := System.removeClient_of_none hr
    dsimp only [make, act]
    rw [hnone]
    exact ⟨rfl, rfl⟩
  | some id =>
    obtain ⟨hj, hs⟩ := System.removeClient_registered hv.system hr
    obtain ⟨-, hflag, hreg, -⟩ := System.removeClient_parts x.system device hr
    have hstruck := h.struck hv hr
    refine ⟨?_, ?_, ?_, ?_, ?_, fun ns => ⟨(hstruck.after (hv.make _) ns).2, ?_⟩⟩
    · show Reply.flag (x.system.removeClient device).2 = _
      rw [hflag]
    · show (x.system.removeClient device).1.registry.find? device = none
      rw [hreg, Directory.find?_erase, if_pos rfl]
    · show ((x.system.removeClient device).1.client id).standing.scope.connection.value = .closed
      rw [hs]
      exact (hv.system.scopes id).close.connection_of_vacant (Scope.current_close _)
    · show ((x.system.removeClient device).1.client id).standing.mastership = .notMaster
      rw [hs]
    · rw [h.device_key hv hr] at hj
      exact hj
    · intro key handle change hreply
      -- whoever is handed out later is on file, and this client never is again
      obtain ⟨id', hh, hr'⟩ := handed_out ((hv.make _).after ns) hreply
      refine ⟨id', hh, ?_⟩
      rintro rfl
      have hlater := hstruck.after (hv.make _) (ns ++ [.act (.create key handle change)])
      rw [after_append] at hlater
      exact hlater.2 key.device hr'

/-! ### The registry -/

/-- After every list of moves, the registry has one entry per device, of a client whose key names the
device: whom a creation has handed out, unless it has been removed since.  Lookups and lists of devices
tell just that, creations and removals go by it, and a client on file changes only by what is done through
it. -/
theorem registry_history (devices : List String) (confs : List Pipeconf)
    (bindings : List (String × PipeconfId)) (config : ConfigChange) (capacity : Nat)
    (ms : List Move) :
    let start := initial devices confs bindings config capacity
    let x := start.after ms
    let onFile := fun device => start.filed device none ms
    x.system.registry.keys.Nodup ∧
      (∀ device id, x.system.registered? device = some id →
        (x.system.client id).key.device = device) ∧
      (∀ device, x.system.registered? device = onFile device ∧
        x.act (.get device none) =
          (x, .key ((onFile device).map fun id => (x.system.client id).key)) ∧
        ∀ name, (x.act (.get device (some name))).2 =
            .key ((onFile device).map fun id => (x.system.client id).key) ∧
          ∀ id, onFile device = some id →
            (x.make (.act (.get device (some name)))).system.handles.find? name = some id) ∧
      (∃ ids, x.act .deviceIds = (x, .devices ids) ∧ ids.Nodup ∧
        ∀ device, device ∈ ids ↔ (onFile device).isSome = true) ∧
      (∀ key handle change, x.Creates (onFile key.device) key handle change) ∧
      (∀ device, x.Removes (onFile device) device) ∧
      ∀ device id m, x.system.registered? device = some id → x.through? m ≠ some id →
        (x.make m).system.registered? device = some id ∧
          ((x.make m).system.client id).standing = (x.system.client id).standing := by
  intro start x onFile
  have hstart : start.Valid := valid_initial devices confs bindings config capacity
  have hv : x.Valid := hstart.after ms
  have he : x.Enrolled := (enrolled_initial devices confs bindings config capacity).after hstart ms
  -- What is on file is what the history says: the rest are facts about the registry in any state.
  have hfile : ∀ device, onFile device = x.system.registered? device := fun device =>
    (registered_after hstart device ms).symm
  refine ⟨he.nodup, fun device id => he.device_key hv, fun device => ⟨(hfile device).symm, ?_⟩,
    ⟨x.system.deviceIds, rfl, x.system.perm_deviceIds.nodup_iff.mpr he.nodup, fun device => ?_⟩,
    fun key handle change => ?_, fun device => ?_, fun device id m => standing_of_registered hv⟩
  · rw [hfile]
    cases hr : x.system.registered? device with
    | none => simp [act, hr]
    | some id =>
      refine ⟨?_, fun name => ⟨?_, ?_⟩⟩
      · simp only [act, hr]
        rfl
      · simp only [act, hr]
        rfl
      · rintro _ ⟨⟩
        simp only [make, act, hr]
        exact System.find?_setHandle x.system name id
  · rw [hfile]
    exact System.mem_deviceIds
  · rw [hfile]
    exact creates hv key handle change
  · rw [hfile]
    exact removes he hv device

end Scenario

end P4Control
