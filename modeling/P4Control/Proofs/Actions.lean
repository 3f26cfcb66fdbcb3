import P4Control.Proofs.Calls
import P4Control.Scenario.Run

namespace P4Control

/-!
# What actions do

An action has some effects of its own, and may close a session or take away a holder.

* `Scenario.Effect`, `effect_act` — what an action makes of the system.
* `Scenario.Causes` — the incidents that an action has as effects of its own.
* `Scenario.Goodbye` — the end of a session that may come with it.
* `leads_act` — an action leads from a system to the next one by such incidents.
-/

namespace System

variable {s t : System}

/-! ### Holders -/

/-- A user gets a client under a name, and the client that had the name loses a holder. -/
theorem leads_setHandle (hv : s.Valid) (name : String) {id : ClientId} (hk : s.Knows id) :
    ∃ old rest, Parting old (s.setHandle name id) rest ∧
      s.Leads (.filed :: rest) (s.setHandle name id) := by
  have hf : Happens s .filed { s with handles := s.handles.insert name id } := by
    refine .filed s _ s.registry (fun id' h => ?_) hv.registry
    rcases Directory.mem_values_insert h with rfl | h
    · exact hk
    · exact hv.handles id' h
  unfold setHandle
  dsimp only
  split
  · next old h =>
    have hko : ({ s with handles := s.handles.insert name id } : System).Knows old :=
      hv.knows_of_handle h
    obtain ⟨rest, hp, hl⟩ := leads_release hko
    exact ⟨old, rest, hp, .cons hf hl⟩
  · exact ⟨id, [], .stays, .one hf⟩

/-- A user gives a client back. -/
theorem leads_dropHandle (hv : s.Valid) {name : String} {id : ClientId}
    (h : s.handles.find? name = some id) :
    ∃ rest, Parting id (s.dropHandle name).1 rest ∧ s.Leads (.filed :: rest) (s.dropHandle name).1 := by
  have hf : Happens s .filed { s with handles := s.handles.erase name } :=
    .filed s _ s.registry (fun id' h => hv.handles id' (Directory.mem_values_erase h)) hv.registry
  have hk : ({ s with handles := s.handles.erase name } : System).Knows id := hv.knows_of_handle h
  obtain ⟨rest, hp, hl⟩ := leads_release hk
  unfold dropHandle
  rw [h]
  exact ⟨rest, hp, .cons hf hl⟩

/-- A registered client is closed and forgotten. -/
theorem leads_removeClient (hv : s.Valid) {device : DeviceId} {id : ClientId}
    (h : s.registered? device = some id) :
    ∃ wasOpen rest, Parting id (s.removeClient device).1 rest ∧
      s.Leads (.filed :: .closed id wasOpen :: rest) (s.removeClient device).1 := by
  have hf : Happens s .filed { s with registry := s.registry.erase device } :=
    .filed s s.handles _ hv.handles fun id' h => hv.registry id' (Directory.mem_values_erase h)
  have hk : ({ s with registry := s.registry.erase device } : System).Knows id :=
    hv.knows_of_registered h
  have hc := Happens.closed _ id hk
  have hkc : (({ s with registry := s.registry.erase device } : System).closeSession id).Knows id := by
    unfold Knows
    rw [keys_closeSession hk]
    exact hk
  obtain ⟨rest, hp, hl⟩ := leads_release hkc
  unfold removeClient
  rw [h]
  exact ⟨_, rest, hp, .cons hf (.cons hc hl)⟩

/-- What comes of the creation of a client. -/
theorem createClient_cases (s : System) (key : ClientKey) (config : ClientConfig) :
    (∃ id, s.registered? key.device = some id ∧ s.createClient key config =
        (s, if (s.client id).key = key then .ok id
          else .error (.clientExists key.device (s.client id).key))) ∨
    s.registered? key.device = none ∧
      (s.channels.find? key.device = none ∧
          s.createClient key config = (s, .error (.channelNotFound key.device)) ∨
        ∃ switch, s.channels.find? key.device = some switch ∧ s.createClient key config =
          ({ (s.newClient key switch config).1 with
              registry := s.registry.insert key.device (s.newClient key switch config).2 },
            .ok (s.newClient key switch config).2)) := by
  unfold createClient
  cases hr : s.registered? key.device with
  | some id => exact .inl ⟨id, rfl, rfl⟩
  | none =>
    cases hc : s.channels.find? key.device with
    | none => exact .inr ⟨rfl, .inl ⟨rfl, rfl⟩⟩
    | some switch => exact .inr ⟨rfl, .inr ⟨switch, rfl, rfl⟩⟩

/-- A client that is not to be had leaves all as it is. -/
theorem createClient_of_error {key : ClientKey} {config : ClientConfig} {e : ClientError}
    (h : s.createClient key config = (t, .error e)) : t = s := by
  rcases createClient_cases s key config with ⟨id, -, he⟩ | ⟨-, ⟨-, he⟩ | ⟨n, -, he⟩⟩
  · rw [he] at h
    exact (congrArg Prod.fst h).symm
  · rw [he] at h
    exact (congrArg Prod.fst h).symm
  · rw [he] at h
    cases h

/-- The registry has a client for a device, an old or a new one, or there is none to be had. -/
theorem leads_createClient (hv : s.Valid) (key : ClientKey) (config : ClientConfig) :
    ∃ is, (∀ i ∈ is, (∃ id key, i = .created id key) ∨ i = .filed) ∧
      s.Leads is (s.createClient key config).1 ∧
      ∀ id, (s.createClient key config).2 = .ok id → (s.createClient key config).1.Knows id := by
  rcases createClient_cases s key config with ⟨id, hr, he⟩ | ⟨-, ⟨-, he⟩ | ⟨n, -, he⟩⟩
  · rw [he]
    refine ⟨[], by simp, .refl s, fun id' hi => ?_⟩
    dsimp only at hi
    split at hi
    · cases hi
      exact hv.knows_of_registered hr
    · cases hi
  · rw [he]
    exact ⟨[], by simp, .refl s, fun _ hi => by cases hi⟩
  · rw [he]
    -- the device has a channel and no client yet: one is created and put on file
    have hc : Happens s (.created (s.newClient key n config).2 key) (s.newClient key n config).1 :=
      .created s key n config
    have hvn := hc.valid hv
    have hk : (s.newClient key n config).1.Knows (s.newClient key n config).2 := by
      unfold Knows
      rw [keys_newClient hv]
      simp
    refine ⟨[.created _ _, .filed], by simp, .cons hc (.one ?_), ?_⟩
    · refine .filed _ _ _ hvn.handles fun id' hm => ?_
      rcases Directory.mem_values_insert hm with rfl | hm
      · exact hk
      · exact hvn.registry id' hm
    · intro id' hi
      cases hi
      exact hk

/-- What the control plane knows of devices is nothing to the sessions. -/
theorem quiet_files (s : System) (channels : Directory DeviceId SwitchName) (catalog : Catalog) :
    Quiet s { s with channels, catalog } :=
  quiet_of_eq rfl rfl rfl rfl rfl rfl rfl fun _ h => h

/-! ### Frames -/

/-- A frame is queued on the stream of the open session. -/
theorem enqueue_eq_ok {id : ClientId} {frame : StreamRequest} (h : s.enqueue id frame = .ok t) :
    ∃ st uplink, (s.client id).scope.slot = some st ∧ (s.stream st).uplink.send frame = .ok uplink ∧
      t = (s.updateStream st fun t => { t with uplink }).wake (.serve st) := by
  unfold enqueue at h
  dsimp only at h
  split at h
  · cases h
  · next st hs =>
    split at h
    · cases h
    · cases h
    · next uplink hu =>
      cases h
      exact ⟨st, uplink, hs, hu, rfl⟩

/-- A claim is queued, or all is as before. -/
theorem leads_runForMastership {id : ClientId} (hk : s.Knows id) (election : ElectionId) :
    ((s.runForMastership id election).2 = none ∧
      s.Leads [.claimed id election] (s.runForMastership id election).1) ∨
    (∃ e, (s.runForMastership id election).2 = some e) ∧
      Quiet s (s.runForMastership id election).1 := by
  unfold runForMastership
  dsimp only
  cases he : (s.updateClient id fun c => { c with arbiter := c.arbiter.claim election }).enqueue id
      (Arbiter.claimFrame (s.client id).key.number election) with
  | ok t =>
    obtain ⟨st, uplink, hs, hu, rfl⟩ := enqueue_eq_ok he
    rw [client_updateClient_self] at hs
    exact .inl ⟨rfl, .one (.claimed s id election st uplink hk hs hu)⟩
  | error e =>
    -- the claim is taken back: the client is what it was before
    refine .inr ⟨⟨e, rfl⟩, ?_⟩
    show Quiet s ((s.updateClient id _).updateClient id fun c =>
      { c with arbiter := c.arbiter.restore (s.client id).arbiter })
    rw [updateClient_updateClient]
    exact quiet_updateClient hk rfl fun call hc => .inl hc

/-- A packet is queued, or nothing happens. -/
theorem leads_packetOut (s : System) (id : ClientId) (conf : Pipeconf) (packet : Packet) :
    ∃ is, (∀ i ∈ is, ∃ wire, i = .sent id wire) ∧ s.Leads is (s.packetOut id conf packet).1 := by
  unfold packetOut
  split
  · exact ⟨[], by simp, .refl s⟩
  · next wire _ =>
    split
    · next t he =>
      obtain ⟨st, uplink, hs, hu, rfl⟩ := enqueue_eq_ok he
      exact ⟨[.sent id wire], by simp, .one (.sent s id wire st uplink hs hu)⟩
    · exact ⟨[], by simp, .refl s⟩

end System

namespace Scenario

variable {x : Scenario} {action : Action} {t : System}

/-! ### What is named -/

section

variable {P : System → Prop} (hs : P x.system)

include hs

/-- Nothing happens where there is no client of the name. -/
theorem holds_onClient {client : String} {f : ClientId → Scenario × Reply}
    (hf : ∀ id, x.system.handles.find? client = some id → P (f id).1.system) :
    P (x.onClient client f).1.system := by
  unfold onClient
  split
  · exact hs
  · next id h => exact hf id h

/-- Nor where there is no such configuration. -/
theorem holds_onPipeconf {client : String} {conf : PipeconfId}
    {f : ClientId → Pipeconf → Scenario × Reply}
    (hf : ∀ id conf, x.system.handles.find? client = some id → P (f id conf).1.system) :
    P (x.onClient client fun id => x.onPipeconf conf (f id)).1.system := by
  refine holds_onClient hs fun id h => ?_
  unfold onPipeconf
  split
  · exact hs
  · next conf' _ => exact hf id conf' h

/-- Nor where there is no such switch. -/
theorem holds_onSwitch {switch : SwitchName} {f : Switch → Scenario × Reply}
    (hf : ∀ w, x.system.switches.find? switch = some w → P (f w).1.system) :
    P (x.onSwitch switch f).1.system := by
  unfold onSwitch
  split
  · exact hs
  · next w h => exact hf w h

/-- Nor where there is no such stream past any client. -/
theorem holds_onRaw {name : String} {f : RawStream → Scenario × Reply}
    (hf : ∀ raw, x.raws.find? name = some raw → P (f raw).1.system) :
    P (x.onRaw name f).1.system := by
  unfold onRaw
  split
  · exact hs
  · next raw h => exact hf raw h

end

/-! ### What an action makes of the system -/

/-- Whether an action closes the session of a client. -/
def closes (x : Scenario) (action : Action) (id : ClientId) : Bool :=
  match action with
  | .close client => x.system.handles.find? client = some id
  | .remove device => x.system.registry.find? device = some id
  | _ => false

/-- What an action makes of the system. -/
inductive Effect (x : Scenario) : Action → System → Prop
  /-- All stays: it looks at something, or what it names is not there. -/
  | stays {action : Action} (hn : ∀ id, x.closes action id = false) : Effect x action x.system
  /-- A user gets the client of a device, which is made if there is none. -/
  | creates {key : ClientKey} {handle : String} {change : Option ConfigChange} {s : System}
      {id : ClientId} (h : x.system.createClient key (x.settings change) = (s, .ok id)) :
      Effect x (.create key handle change) (s.setHandle handle id)
  /-- A user gets a client that is made for it alone. -/
  | makes {key : ClientKey} {handle : String} {change : Option ConfigChange} {n : SwitchName}
      (h : x.system.channels.find? key.device = some n) :
      Effect x (.new key handle change)
        ((x.system.newClient key n (x.settings change)).1.setHandle handle
          (x.system.newClient key n (x.settings change)).2)
  /-- A user gets a client that is registered. -/
  | finds {device : DeviceId} {name : String} {id : ClientId}
      (h : x.system.registered? device = some id) :
      Effect x (.get device (some name)) (x.system.setHandle name id)
  /-- A user gets a client that it has under another name. -/
  | clones {client handle : String} {id : ClientId} (h : x.system.handles.find? client = some id) :
      Effect x (.clone client handle) (x.system.setHandle handle id)
  | drops {client : String} {id : ClientId} (h : x.system.handles.find? client = some id) :
      Effect x (.drop client) (x.system.dropHandle client).1
  | removes {device : DeviceId} {id : ClientId} (h : x.system.registered? device = some id) :
      Effect x (.remove device) (x.system.removeClient device).1
  /-- Only what the control plane knows of devices changes. -/
  | files {action : Action} (channels : Directory DeviceId SwitchName) (catalog : Catalog)
      (hn : ∀ id, x.closes action id = false) :
      Effect x action { x.system with channels, catalog }
  /-- A device is reached through a switch that is new. -/
  | connects {device : DeviceId} {n : SwitchName} :
      Effect x (.addChannel device n)
        { x.system.updateSwitch n id with channels := x.system.channels.insert device n }
  | closes {client : String} {id : ClientId} (h : x.system.handles.find? client = some id) :
      Effect x (.close client) (x.system.closeSession id)
  | claims {client : String} {election : ElectionId} {id : ClientId}
      (h : x.system.handles.find? client = some id) :
      Effect x (.run client election) (x.system.runForMastership id election).1
  | sends {client : String} {name : PipeconfId} {packet : Packet} {id : ClientId} (conf : Pipeconf)
      (h : x.system.handles.find? client = some id) :
      Effect x (.packetOut client name packet) (x.system.packetOut id conf packet).1
  | steers {n : SwitchName} {steering : Steering} :
      Effect x (.steer n steering)
        (x.system.updateSwitch n fun w => { w with agent := steering.apply w.agent })
  | scripts {n : SwitchName} {script : Script} :
      Effect x (.script n script) (x.system.updateSwitch n fun w => script.addTo w)
  /-- The notes of a switch are handed over. -/
  | notes {n : SwitchName} :
      Effect x (.noted n) (x.system.updateSwitch n fun w => { w with noted := [] })
  | pushes {n : SwitchName} {frame : StreamResponse} :
      Effect x (.sendFrame n frame) (x.system.pushFrame n (.item frame)).1
  | fails {n : SwitchName} {status : Status} :
      Effect x (.failStream n status) ((x.system.pushFrame n (.failure status)).1.detach n)
  | detaches {n : SwitchName} : Effect x (.closeStream n) (x.system.detach n)
  /-- A user queues a frame past any client. -/
  | queues {name : String} {frame : StreamRequest} {raw : RawStream} {uplink : Pipe StreamRequest}
      (hr : x.raws.find? name = some raw)
      (hu : (x.system.stream raw.id).uplink.send frame = .ok uplink) :
      Effect x (.rawSend name frame)
        ((x.system.updateStream raw.id fun t => { t with uplink }).wake (.serve raw.id))
  /-- A user lets go of the sending half of a stream. -/
  | hangsUp {name : String} {raw : RawStream} (hr : x.raws.find? name = some raw) :
      Effect x (.rawClose name) (x.system.dropUplink raw.id)
  /-- A user lets go of the receiving half of a stream. -/
  | turnsAway {name : String} {raw : RawStream} (hr : x.raws.find? name = some raw) :
      Effect x (.rawDrop name) (x.system.dropListener raw.id)
  /-- A user takes all that waits on a stream. -/
  | empties {name : String} {raw : RawStream} (hr : x.raws.find? name = some raw) :
      Effect x (.rawReceive name) (x.system.updateStream raw.id fun t =>
        { t with downlink := { t.downlink with frames := [] } })
  /-- A pending call is dropped. -/
  | aborts {task name : String} {K : CallId} {reading : Option String} {call : Call}
      (hf : (x.tasks.find? fun t => decide (t.1 = task)) = some (name, .call K reading))
      (hc : x.system.call? K = some call) :
      Effect x (.abort task) (x.system.retire K call.kind)

/-- Every action has one of these effects. -/
theorem effect_act (x : Scenario) (action : Action) : x.Effect action (x.act action).1.system := by
  -- an action that finds no one under its name, or nothing to do, is one that `stays`
  cases action with
  | create key handle change =>
    simp only [act]
    cases h : x.system.createClient key (x.settings change) with
    | mk s made =>
      cases made with
      | ok id => exact .creates h
      | error e =>
        have hs : s = x.system := System.createClient_of_error h
        subst hs
        exact .stays fun _ => rfl
  | new key handle change =>
    simp only [act]
    split
    · exact .stays fun _ => rfl
    · next n h => exact .makes h
  | get device handle =>
    simp only [act]
    split
    · exact .stays fun _ => rfl
    · next id h =>
      cases handle with
      | none => exact .stays fun _ => rfl
      | some name => exact .finds h
  | remove device =>
    cases h : x.system.registered? device with
    | none =>
      have he : (x.act (.remove device)).1.system = x.system := by
        simp only [act, System.removeClient, h]
        rfl
      rw [he]
      exact .stays fun id => decide_eq_false fun hid => by
        rw [show x.system.registered? device = some id from hid] at h
        cases h
    | some id => exact .removes h
  | clone client handle => exact holds_onClient (.stays fun _ => rfl) fun id h => .clones h
  | drop client =>
    cases h : x.system.handles.find? client with
    | none =>
      have he : (x.act (.drop client)).1.system = x.system := by
        simp only [act, System.dropHandle, h]
        rfl
      rw [he]
      exact .stays fun _ => rfl
    | some id => exact .drops h
  | addChannel device n =>
    simp only [act]
    split
    · exact .files _ _ fun _ => rfl
    · exact .connects
  | removeChannel device => exact .files _ _ fun _ => rfl
  | register conf => exact .files _ _ fun _ => rfl
  | bind device conf => exact .files _ _ fun _ => rfl
  | unbind device => exact .files _ _ fun _ => rfl
  | close client =>
    simp only [act, onClient]
    split
    · next h => exact .stays fun id => decide_eq_false (by simp [h])
    · next id h => exact .closes h
  | run client election => exact holds_onClient (.stays fun _ => rfl) fun id h => .claims h
  | packetOut client name packet =>
    exact holds_onPipeconf (.stays fun _ => rfl) fun id conf h => .sends conf h
  | steer n steering => exact holds_onSwitch (.stays fun _ => rfl) fun _ _ => .steers
  | script n script => exact holds_onSwitch (.stays fun _ => rfl) fun _ _ => .scripts
  | sendFrame n frame => exact holds_onSwitch (.stays fun _ => rfl) fun _ _ => .pushes
  | failStream n status => exact holds_onSwitch (.stays fun _ => rfl) fun _ _ => .fails
  | closeStream n => exact holds_onSwitch (.stays fun _ => rfl) fun _ _ => .detaches
  | noted n => exact holds_onSwitch (.stays fun _ => rfl) fun _ _ => .notes
  | rawSend name frame =>
    refine holds_onRaw (.stays fun _ => rfl) fun raw hr => ?_
    split
    · split
      · next uplink hu => exact .queues hr hu
      · exact .stays fun _ => rfl
    · exact .stays fun _ => rfl
  | rawClose name =>
    refine holds_onRaw (.stays fun _ => rfl) fun raw hr => ?_
    dsimp only
    split
    · exact .hangsUp hr
    · exact .stays fun _ => rfl
  | rawDrop name =>
    refine holds_onRaw (.stays fun _ => rfl) fun raw hr => ?_
    dsimp only
    split
    · exact .turnsAway hr
    · exact .stays fun _ => rfl
  | rawReceive name =>
    refine holds_onRaw (.stays fun _ => rfl) fun raw hr => ?_
    split
    · exact .empties hr
    · exact .stays fun _ => rfl
  | abort task =>
    simp only [act]
    split
    · exact .stays fun _ => rfl
    · next name pending hf =>
      cases pending with
      | unanswered => exact .stays fun _ => rfl
      | call K reading =>
        dsimp only
        unfold System.abort
        split
        · exact .stays fun _ => rfl
        · next call hc => exact .aborts hf hc
  | deviceIds => exact .stays fun _ => rfl
  | lookup device => exact .stays fun _ => rfl
  | dropRead name => exact .stays fun _ => rfl
  | info client | watch client => exact holds_onClient (.stays fun _ => rfl) fun _ _ => .stays fun _ => rfl
  | dump n => exact holds_onSwitch (.stays fun _ => rfl) fun _ _ => .stays fun _ => rfl
  | look name =>
    simp only [act]
    split <;> exact .stays fun _ => rfl

/-! ### Incidents of an action -/

/-- Whether an action acts on streams past any client and agent. -/
def Action.isForeign : Action → Bool
  | .rawSend _ _ | .rawClose _ | .rawDrop _ | .rawReceive _ | .script _ (.stream _) => true
  | _ => false

/-- The incidents that an action has as effects of its own, beside those of a goodbye. -/
def Causes (x : Scenario) (action : Action) : Incident → Prop
  | .created _ _ | .filed => True
  | .sent _ _ => ∃ client conf packet, action = .packetOut client conf packet
  | .claimed id election => ∃ client, action = .run client election ∧
      x.system.handles.find? client = some id ∧ (x.act action).2 = .done
  | .pushed name frame => (∃ response, action = .sendFrame name response ∧ frame = .item response) ∨
      ∃ status, action = .failStream name status ∧ frame = .failure status
  | .detached name => (∃ status, action = .failStream name status) ∨ action = .closeStream name
  | .steered name agent => ∃ steering, action = .steer name steering ∧
      agent = steering.apply (x.system.switch name).agent
  | .foreign => action.isForeign = true
  | _ => False

/-- How an action may end a session: by closing it, or by taking away a holder. -/
inductive Goodbye (x : Scenario) (action : Action) (t : System) (id : ClientId) : List Incident → Prop
  | parts {rest : List Incident} (hn : ∀ id', x.closes action id' = false)
      (hp : System.Parting id t rest) : Goodbye x action t id rest
  | closes (wasOpen : Bool) {rest : List Incident} (hc : x.closes action id = true)
      (hp : System.Parting id t rest) : Goodbye x action t id (.closed id wasOpen :: rest)

theorem Goodbye.closed_or_released {id : ClientId} {rest : List Incident}
    (h : x.Goodbye action t id rest) {i : Incident} (hi : i ∈ rest) :
    ∃ wasOpen, (i = .closed id wasOpen ∧ x.closes action id = true) ∨
      (i = .released id wasOpen ∧ t.isHeld id = false) := by
  have parting : ∀ {is}, System.Parting id t is → i ∈ is →
      ∃ wasOpen, (i = .closed id wasOpen ∧ x.closes action id = true) ∨
        (i = .released id wasOpen ∧ t.isHeld id = false) := by
    intro is hp hi
    obtain ⟨hh, wasOpen, he⟩ := hp.released hi
    exact ⟨wasOpen, .inr ⟨he, hh⟩⟩
  cases h with
  | parts hn hp => exact parting hp hi
  | closes wasOpen hc hp =>
    rcases List.mem_cons.mp hi with rfl | hi
    · exact ⟨wasOpen, .inl ⟨rfl, hc⟩⟩
    · exact parting hp hi

/-- What an action does: effects of its own, and perhaps a goodbye. -/
def Acts (x : Scenario) (action : Action) (t : System) : Prop :=
  ∃ front id rest, (∀ i ∈ front, x.Causes action i) ∧ x.Goodbye action t id rest ∧
    x.system.Leads (front ++ rest) t

theorem Acts.of_front (front : List Incident) (hf : ∀ i ∈ front, x.Causes action i)
    (hl : x.system.Leads front t) (hn : ∀ id, x.closes action id = false) :
    x.Acts action t :=
  ⟨front, default, [], hf, .parts hn .stays, by rwa [List.append_nil]⟩

theorem Acts.of_quiet (q : System.Quiet x.system t)
    (hn : ∀ id, x.closes action id = false) : x.Acts action t :=
  .of_front [] (by simp) (.of_quiet q) hn

theorem Acts.of_parting (front : List Incident) {rest : List Incident} {id : ClientId}
    (hf : ∀ i ∈ front, x.Causes action i) (hp : System.Parting id t rest)
    (hl : x.system.Leads (front ++ rest) t)
    (hn : ∀ id, x.closes action id = false) : x.Acts action t :=
  ⟨front, id, rest, hf, .parts hn hp, hl⟩

/-- An action that gives a client a handle, after effects of its own. -/
theorem Acts.setHandle (front : List Incident) (hf : ∀ i ∈ front, x.Causes action i)
    (hl : x.system.Leads front t) (hv : t.Valid) (name : String) {id : ClientId} (hk : t.Knows id)
    (hn : ∀ id, x.closes action id = false) :
    x.Acts action (t.setHandle name id) := by
  obtain ⟨old, rest, hp, hr⟩ := System.leads_setHandle hv name hk
  refine .of_parting (front ++ [.filed]) ?_ hp ?_ hn
  · intro i h
    rcases List.mem_append.mp h with h | h
    · exact hf i h
    · rw [List.mem_singleton.mp h]
      trivial
  · rw [List.append_assoc]
    exact hl.append hr

/-- An action past any client and agent. -/
theorem Acts.of_foreign (ha : action.isForeign = true) (h : System.PassesBy x.system t)
    (hn : ∀ id, x.closes action id = false) : x.Acts action t :=
  .of_front [.foreign] (by simpa [Causes] using ha) (.one h.foreign) hn

/-! ### What an action leads to -/

/-- A frame is claimed with, or nothing happens. -/
theorem acts_run (hv : x.system.Valid) {client : String} {id : ClientId} (election : ElectionId)
    (h : x.system.handles.find? client = some id) :
    x.Acts (.run client election) (x.system.runForMastership id election).1 := by
  rcases System.leads_runForMastership (hv.knows_of_handle h) election with ⟨hn, hl⟩ | ⟨-, q⟩
  · refine .of_front [.claimed id election] ?_ hl fun _ => rfl
    simp [Causes, act, onClient, h, sent, hn]
  · exact .of_quiet q fun _ => rfl

/-- A script for a stream is past any client; any other is for the calls to the agent. -/
theorem acts_script (n : SwitchName) (script : Script) :
    x.Acts (.script n script) (x.system.updateSwitch n fun w => script.addTo w) := by
  cases script with
  | stream script => exact .of_foreign rfl (.updateSwitch _ n _) fun _ => rfl
  | config answer =>
    exact .of_quiet (System.quiet_updateSwitch (f := fun w => Script.addTo w (.config answer)) rfl)
      fun _ => rfl
  | read reply =>
    exact .of_quiet (System.quiet_updateSwitch (f := fun w => Script.addTo w (.read reply)) rfl)
      fun _ => rfl
  | write statuses =>
    exact .of_quiet (System.quiet_updateSwitch (f := fun w => Script.addTo w (.write statuses)) rfl)
      fun _ => rfl

/-- What an action makes of the system is led to by its incidents. -/
theorem Effect.acts (hv : x.system.Valid) (h : x.Effect action t) : x.Acts action t := by
  cases h with
  | stays hn => exact .of_quiet (.refl x.system) hn
  | creates h =>
    obtain ⟨is, hi, hl, hk⟩ := System.leads_createClient hv _ _
    rw [h] at hl hk
    refine .setHandle is (fun i him => ?_) hl (hl.valid hv) _ (hk _ rfl) fun _ => rfl
    rcases hi i him with ⟨id, key, rfl⟩ | rfl <;> trivial
  | @makes key handle change n h =>
    have hc : System.Happens x.system _ (x.system.newClient key n (x.settings change)).1 :=
      .created x.system key n (x.settings change)
    refine .setHandle [_] (by simp [Causes]) (.one hc) (hc.valid hv) handle ?_ fun _ => rfl
    unfold System.Knows
    rw [System.keys_newClient hv]
    simp
  | finds h =>
    exact .setHandle [] (by simp) (.refl x.system) hv _ (hv.knows_of_registered h) fun _ => rfl
  | clones h =>
    exact .setHandle [] (by simp) (.refl x.system) hv _ (hv.knows_of_handle h) fun _ => rfl
  | drops h =>
    obtain ⟨rest, hp, hl⟩ := System.leads_dropHandle hv h
    exact .of_parting [.filed] (by simp [Causes]) hp hl fun _ => rfl
  | removes h =>
    obtain ⟨wasOpen, rest, hp, hl⟩ := System.leads_removeClient hv h
    exact ⟨[.filed], _, _, by simp [Causes], .closes wasOpen (decide_eq_true h) hp, hl⟩
  | files channels catalog hn => exact .of_quiet (x.system.quiet_files channels catalog) hn
  | connects =>
    exact .of_quiet ((System.quiet_updateSwitch rfl).trans (System.quiet_files _ _ _)) fun _ => rfl
  | closes h =>
    exact ⟨[], _, _, by simp, .closes _ (decide_eq_true h) .stays,
      .one (.closed x.system _ (hv.knows_of_handle h))⟩
  | claims h => exact acts_run hv _ h
  | sends conf h =>
    obtain ⟨is, hi, hl⟩ := System.leads_packetOut x.system _ conf _
    refine .of_front is (fun i him => ?_) hl fun _ => rfl
    obtain ⟨wire, rfl⟩ := hi i him
    exact ⟨_, _, _, rfl⟩
  | @steers n steering =>
    have hs : System.Happens x.system (.steered n (steering.apply (x.system.switch n).agent))
        (x.system.updateSwitch n fun w => { w with agent := steering.apply w.agent }) :=
      .steered x.system n _ (by cases steering <;> rfl) (by cases steering <;> rfl)
    exact .of_front [_] (by simp [Causes]) (.one hs) fun _ => rfl
  | scripts => exact acts_script _ _
  | notes =>
    exact .of_quiet (System.quiet_updateSwitch (f := fun w => { w with noted := [] }) rfl)
      fun _ => rfl
  | pushes => exact .of_front [_] (by simp [Causes]) (.one (.pushed x.system _ _)) fun _ => rfl
  | fails =>
    exact .of_front [_, _] (by simp [Causes]) (.cons (.pushed x.system _ _) (.one (.detached _ _)))
      fun _ => rfl
  | detaches => exact .of_front [_] (by simp [Causes]) (.one (.detached x.system _)) fun _ => rfl
  | @queues name frame raw uplink hr hu =>
    exact .of_foreign rfl ((System.PassesBy.setUplink _ _ uplink).trans (.wake _ _)) fun _ => rfl
  | hangsUp hr => exact .of_foreign rfl (.dropUplink _ _) fun _ => rfl
  | turnsAway hr => exact .of_foreign rfl (.dropListener _ _) fun _ => rfl
  | empties hr => exact .of_foreign rfl (.updateStream _ _ fun _ => rfl) fun _ => rfl
  | @aborts task name K reading call hf hc =>
    -- Only the withdrawal of a call can be the last that keeps a client.
    obtain ⟨rest, hp, hl⟩ := System.leads_retire (System.knows_of_call? hc) call.kind
    exact .of_parting [] (by simp) hp hl fun _ => rfl

/-- The effect of an action on the system. -/
theorem leads_act (hv : x.system.Valid) (action : Action) :
    x.Acts action (x.act action).1.system := (x.effect_act action).acts hv

end Scenario

end P4Control
