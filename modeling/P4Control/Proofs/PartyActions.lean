import P4Control.Proofs.Interleaving
import P4Control.Proofs.Moves

namespace P4Control

/-!
# Actions and requests of several parties

Every action and every request is addressed to a party, to what all share, or to several parties at once.
What is addressed to one party goes as it would without the others, and they notice nothing; what is
addressed to all goes in every part as it does for all.

* `Addressee`, `Allotment.addressee`, `Allotment.target` — whom actions and requests are addressed to.
* `Scenario.part`, `Scenario.Fenced`, `Scenario.Beside` — parts of a control plane with what its users hold.
* `concurs_act`, `concurs_start` — what is addressed to one party.
* `part_act_everyone` — what is addressed to all.
-/

/-! ### Addressees -/

/-- Whom something is addressed to. -/
inductive Addressee (Party : Type) where
  /-- All parties, by way of what they share. -/
  | everyone
  | party (p : Party)
  /-- Several parties, each by what belongs to it. -/
  | several
deriving DecidableEq, Repr

namespace Addressee

variable {Party : Type} [DecidableEq Party]

/-- The addressee of what concerns `p` and all of `others`. -/
def of (p : Party) (others : List Party) : Addressee Party :=
  if ∀ q ∈ others, q = p then .party p else .several

/-- What concerns a party and perhaps others concerns that party alone iff all of them are that
party. -/
theorem of_eq_party {p q : Party} {others : List Party} :
    of p others = .party q ↔ p = q ∧ ∀ o ∈ others, o = q := by
  unfold of
  split
  · next h =>
    simp only [party.injEq]
    exact ⟨fun he => ⟨he, fun o ho => (h o ho).trans he⟩, And.left⟩
  · next h =>
    simp only [reduceCtorEq, false_iff]
    exact fun he => h fun o ho => (he.2 o ho).trans he.1.symm

/-- What names a party does not concern everyone. -/
theorem of_ne_everyone (p : Party) (others : List Party) : of p others ≠ .everyone := by
  unfold of
  split <;> simp

end Addressee

namespace Allotment

variable {Party : Type} [DecidableEq Party] (ω : Allotment Party)

/-- Whom an action is addressed to. -/
def addressee : Scenario.Action → Addressee Party
  | .create key handle _ | .new key handle _ => .of (ω.device key.device) [ω.handle handle]
  | .get device handle => .of (ω.device device) (handle.map ω.handle).toList
  | .remove device | .removeChannel device | .lookup device => .party (ω.device device)
  | .deviceIds => .several
  | .clone client handle => .of (ω.handle client) [ω.handle handle]
  | .drop client | .close client | .run client _ | .packetOut client _ _ | .info client =>
    .party (ω.handle client)
  | .addChannel device n => .of (ω.device device) [ω.switch n]
  | .register _ | .bind _ _ | .unbind _ => .everyone
  | .watch client observer => .of (ω.handle client) [ω.observer observer]
  | .look observer => .party (ω.observer observer)
  | .dropRead stream | .rawSend stream _ | .rawClose stream | .rawDrop stream | .rawReceive stream =>
    .party (ω.request stream)
  | .steer n _ | .script n _ | .sendFrame n _ | .failStream n _ | .closeStream n | .dump n
  | .noted n => .party (ω.switch n)
  | .abort task => .party (ω.request task)

/-- The party whose client, switch or read stream a request is for. -/
def target : Scenario.Request → Party
  | .openSession client | .setPipeline client _ _ | .isPipelineSet client _ _ | .read client _ _
  | .openRead client _ _ | .write client _ _ _ => ω.handle client
  | .readNext stream => ω.request stream
  | .rawOpen n | .rawSet n _ | .rawGet n _ | .rawRead n _ | .rawWrite n _ => ω.switch n

end Allotment

namespace Scenario

variable {Party : Type} {ω : Allotment Party} {x y z : Scenario}

/-- Nothing that belongs to one party refers to what belongs to another. -/
structure Fenced (ω : Allotment Party) (x : Scenario) : Prop where
  system : x.system.Fenced ω
  tasks : ∀ t ∈ x.tasks, ∀ id reading, t.2 = .call id reading →
    ω.client id.client = ω.request t.1 ∧
      ∀ stream, reading = some stream → ω.request stream = ω.request t.1
  reads : x.reads.All fun name r => ω.client r.client = ω.request name
  raws : x.raws.All fun name raw => ω.stream raw.id = ω.request name
  observers : x.observers.All fun name seen => ω.client seen.client = ω.observer name

variable [DecidableEq Party] {p : Party}

/-- The control plane with only what belongs to one party and to its users.  Nobody has received an event
yet. -/
def part (ω : Allotment Party) (p : Party) (x : Scenario) : Scenario :=
  { system := x.system.part ω p
    tasks := x.tasks.filter fun t => decide (ω.request t.1 = p)
    reads := x.reads.keep ω.request p
    raws := x.raws.keep ω.request p
    observers := x.observers.keep ω.observer p
    dropped := x.dropped.filter fun name => decide (ω.request name = p) }

/-- The system of a part is the part of the system. -/
theorem system_part (x : Scenario) : (x.part ω p).system = x.system.part ω p := rfl

/-- The party `p` has taken `x` to `y`, and its part of it to `z`. -/
structure Beside (ω : Allotment Party) (p : Party) (x y z : Scenario) : Prop where
  own : y.part ω p = z
  others : ∀ o, o ≠ p → y.part ω o = x.part ω o
  fenced : y.Fenced ω

/-- So it has, with the same reply in both. -/
def Concurs {α : Type} (ω : Allotment Party) (p : Party) (x : Scenario) (a b : Scenario × α) : Prop :=
  Beside ω p x a.1 b.1 ∧ b.2 = a.2

namespace Beside

/-- A part stands beside its whole. -/
theorem refl (hx : x.Fenced ω) (p : Party) : Beside ω p x x (x.part ω p) :=
  ⟨rfl, fun _ _ => rfl, hx⟩

variable (h : Beside ω p x y z)

include h

/-- The party changes the control plane. -/
theorem withSystem {t u : System} (hs : System.Beside ω p x.system t u) :
    Beside ω p x (y.withSystem t) (z.withSystem u) := by
  refine ⟨?_, fun o ho => ?_, ⟨hs.fenced, h.fenced.tasks, h.fenced.reads, h.fenced.raws,
    h.fenced.observers⟩⟩
  · rw [← h.own, ← hs.own]
    rfl
  · have hrest := h.others o ho
    unfold part at hrest ⊢
    rw [mk.injEq] at hrest ⊢
    exact ⟨hs.others o ho, hrest.2⟩

/-- A request becomes pending. -/
theorem addTask {name : String} (hn : ω.request name = p) {pending : Pending}
    (hp : ∀ id reading, pending = .call id reading →
      ω.client id.client = p ∧ ∀ stream, reading = some stream → ω.request stream = p) :
    Beside ω p x { y with tasks := y.tasks ++ [(name, pending)] }
      { z with tasks := z.tasks ++ [(name, pending)] } := by
  refine ⟨?_, fun o ho => ?_, ⟨h.fenced.system, fun t ht id reading he => ?_, h.fenced.reads,
    h.fenced.raws, h.fenced.observers⟩⟩
  · rw [← h.own]
    simp [part, hn]
  · have hn' : ω.request name ≠ o := fun he => ho (he.symm.trans hn)
    rw [← h.others o ho]
    simp [part, hn']
  · rcases List.mem_append.mp ht with ht | ht
    · exact h.fenced.tasks t ht id reading he
    · rw [List.mem_singleton.mp ht] at he ⊢
      rw [hn]
      exact hp id reading he

/-- A change of the party's read streams, made in the whole and in the part. -/
theorem setReads {f : Directory String ReadCursor → Directory String ReadCursor}
    (hf : Directory.Concerns ω.request p f)
    (ha : (f y.reads).All fun name r => ω.client r.client = ω.request name) :
    Beside ω p x { y with reads := f y.reads } { z with reads := f z.reads } := by
  refine ⟨?_, fun o ho => ?_, ⟨h.fenced.system, h.fenced.tasks, ha, h.fenced.raws, h.fenced.observers⟩⟩
  · rw [← h.own]
    simp only [part, hf.own]
  · rw [← h.others o ho]
    simp only [part, hf.others _ o ho]

/-- A change of the party's raw streams, made in the whole and in the part. -/
theorem setRaws {f : Directory String RawStream → Directory String RawStream}
    (hf : Directory.Concerns ω.request p f)
    (ha : (f y.raws).All fun name raw => ω.stream raw.id = ω.request name) :
    Beside ω p x { y with raws := f y.raws } { z with raws := f z.raws } := by
  refine ⟨?_, fun o ho => ?_, ⟨h.fenced.system, h.fenced.tasks, h.fenced.reads, ha, h.fenced.observers⟩⟩
  · rw [← h.own]
    simp only [part, hf.own]
  · rw [← h.others o ho]
    simp only [part, hf.others _ o ho]

/-- A change of the party's observers, made in the whole and in the part. -/
theorem setObservers {f : Directory String Observer → Directory String Observer}
    (hf : Directory.Concerns ω.observer p f)
    (ha : (f y.observers).All fun name seen => ω.client seen.client = ω.observer name) :
    Beside ω p x { y with observers := f y.observers } { z with observers := f z.observers } := by
  refine ⟨?_, fun o ho => ?_, ⟨h.fenced.system, h.fenced.tasks, h.fenced.reads, h.fenced.raws, ha⟩⟩
  · rw [← h.own]
    simp only [part, hf.own]
  · rw [← h.others o ho]
    simp only [part, hf.others _ o ho]

/-- A request of the party that is dropped in the whole and in the part. -/
theorem addDropped {name : String} (hn : ω.request name = p) :
    Beside ω p x { y with dropped := y.dropped ++ [name] } { z with dropped := z.dropped ++ [name] } := by
  refine ⟨?_, fun o ho => ?_, ⟨h.fenced.system, h.fenced.tasks, h.fenced.reads, h.fenced.raws,
    h.fenced.observers⟩⟩
  · rw [← h.own]
    simp [part, hn]
  · have hn' : ω.request name ≠ o := fun he => ho (he.symm.trans hn)
    rw [← h.others o ho]
    simp [part, hn']

end Beside

/-! ### What the party names -/

section Named

variable (hx : x.Fenced ω)

include hx

/-- What changes nothing, with the same answer, concurs. -/
theorem concurs_self {α : Type} (a : α) : Concurs ω p x (x, a) (x.part ω p, a) := ⟨.refl hx p, rfl⟩

/-- The party changes the control plane, and gets a reply. -/
theorem concurs_withSystem {α : Type} {t u : System} (h : System.Beside ω p x.system t u) (a : α) :
    Concurs ω p x (x.withSystem t, a) ((x.part ω p).withSystem u, a) :=
  ⟨(Beside.refl hx p).withSystem h, rfl⟩

/-- A handle of the party leads to the same client in the part, or to none in both. -/
theorem concurs_onClient (hv : x.Valid) {client : String} (hc : ω.handle client = p)
    {f g : ClientId → Scenario × Reply}
    (hfg : ∀ id, ω.client id = p → x.system.Knows id → Concurs ω p x (f id) (g id)) :
    Concurs ω p x (x.onClient client f) ((x.part ω p).onClient client g) := by
  have hfind := (System.Beside.refl hx.system p).find?_handle hc
  unfold onClient
  rw [show (x.part ω p).system.handles.find? client = x.system.handles.find? client from hfind]
  split
  · exact concurs_self hx _
  · next id hid =>
    exact hfg id ((hx.system.handles.find? hid).trans hc)
      (hv.system.knows_of_handle hid)

/-- A switch of the party is there in the part iff it is in the whole. -/
theorem concurs_onSwitch {n : SwitchName} (hn : ω.switch n = p) {f g : Switch → Scenario × Reply}
    (hfg : ∀ w, Concurs ω p x (f w) (g w)) :
    Concurs ω p x (x.onSwitch n f) ((x.part ω p).onSwitch n g) := by
  have hfind : (x.part ω p).system.switches.find? n = x.system.switches.find? n :=
    Directory.find?_keep hn
  unfold onSwitch
  rw [hfind]
  split
  · exact concurs_self hx _
  · exact hfg _

/-- Programs are registered for everyone. -/
theorem concurs_onPipeconf (conf : PipeconfId) {f g : Pipeconf → Scenario × Reply}
    (hfg : ∀ conf, Concurs ω p x (f conf) (g conf)) :
    Concurs ω p x (x.onPipeconf conf f) ((x.part ω p).onPipeconf conf g) := by
  unfold onPipeconf
  rw [show (x.part ω p).system.catalog = x.system.catalog from rfl]
  split
  · exact concurs_self hx _
  · exact hfg _

/-- A raw stream of the party is there in the part iff it is in the whole. -/
theorem concurs_onRaw {name : String} (hn : ω.request name = p) {f g : RawStream → Scenario × Reply}
    (hfg : ∀ raw, ω.stream raw.id = p → Concurs ω p x (f raw) (g raw)) :
    Concurs ω p x (x.onRaw name f) ((x.part ω p).onRaw name g) := by
  have hfind : (x.part ω p).raws.find? name = x.raws.find? name := Directory.find?_keep hn
  unfold onRaw
  rw [hfind]
  split
  · exact concurs_self hx _
  · next raw hr => exact hfg raw ((hx.raws.find? hr).trans hn)

omit hx in
/-- A stream past any client is given up. -/
theorem beside_discard {t u : System} (h : System.Beside ω p x.system t u) {raw : RawStream}
    (hr : ω.stream raw.id = p) : System.Beside ω p x.system (discard t raw) (discard u raw) := by
  have hsends : System.Beside ω p x.system (if raw.sends then t.dropUplink raw.id else t)
      (if raw.sends then u.dropUplink raw.id else u) := by
    split
    · exact h.dropUplink hr
    · exact h
  unfold discard
  dsimp only
  split
  · exact hsends.dropListener hr
  · exact hsends

omit hx in
/-- Whoever observes a client of the party sees the same in the part. -/
theorem observer_part {id : ClientId} (hid : ω.client id = p) :
    (x.part ω p).observer id = x.observer id := by
  unfold observer
  rw [show (x.part ω p).system.client id = x.system.client id from System.client_part hid]

/-- A client of the party is in use in the part iff it is in the whole. -/
theorem inUse_part {id : ClientId} (hid : ω.client id = p) : (x.part ω p).inUse id = x.inUse id := by
  unfold inUse
  rw [show (x.part ω p).system.isInUse id = x.system.isInUse id from
    System.isInUse_part hx.system hid]
  congr 1
  rw [Bool.eq_iff_iff, List.any_eq_true, List.any_eq_true]
  refine exists_congr fun r => and_congr_left fun hr => ?_
  rw [Bool.and_eq_true, decide_eq_true_eq] at hr
  exact Directory.mem_values_keep fun entry hm he => by rw [← hx.reads entry hm, he, hr.1, hid]

end Named

/-! ### Actions -/

omit [DecidableEq Party] in
/-- A client that the action creates leads to a switch of its own party. -/
def Seats (ω : Allotment Party) (x : Scenario) : Action → Prop
  | .create key _ _ => ∀ n, x.system.registered? key.device = none →
      x.system.channels.find? key.device = some n → ω.switch n = ω.device key.device
  | .new key _ _ => ∀ n, x.system.channels.find? key.device = some n →
      ω.switch n = ω.device key.device
  | _ => True

section Acts

variable (hx : x.Fenced ω) (hv : x.Valid)

include hx hv

/-- A client that is created by way of the registry: the device, the handle and the switch are the
party's own. -/
theorem concurs_create {key : ClientKey} {handle : String} {change : Option ConfigChange}
    (hd : ω.device key.device = p) (hh : ω.handle handle = p)
    (hs : x.Seats ω (.create key handle change)) :
    Concurs ω p x (x.act (.create key handle change)) ((x.part ω p).act (.create key handle change)) := by
  obtain ⟨hc, hr, hp⟩ := (System.Beside.refl hx.system p).createClient hd
    (fun n hr hc => (hs n hr hc).trans hd) (x.settings change)
  have hold := System.Beside.handles_createClient x.system key (x.settings change)
  simp only [act]
  rw [show (x.part ω p).settings change = x.settings change from rfl, system_part]
  generalize x.system.createClient key (x.settings change) = a at hc hr hp hold
  generalize (x.system.part ω p).createClient key (x.settings change) = b at hc hr
  obtain ⟨t, r⟩ := a
  obtain ⟨u, r'⟩ := b
  dsimp only at hc hr hp hold
  subst hr
  cases r' with
  | error e => exact concurs_withSystem hx hc _
  | ok id =>
    have hid := hp id rfl
    dsimp only
    rw [hc.client_eq hid]
    exact concurs_withSystem hx
      (hc.setHandle hh hid fun old ho => hv.system.knows_of_handle (hold ▸ ho)) _

/-- A client that is created past the registry. -/
theorem concurs_new {key : ClientKey} {handle : String} {change : Option ConfigChange}
    (hd : ω.device key.device = p) (hh : ω.handle handle = p)
    (hs : x.Seats ω (.new key handle change)) :
    Concurs ω p x (x.act (.new key handle change)) ((x.part ω p).act (.new key handle change)) := by
  have h := System.Beside.refl hx.system p
  simp only [act]
  rw [show (x.part ω p).settings change = x.settings change from rfl, system_part, h.find?_channel hd]
  split
  · exact concurs_self hx _
  · next n hn =>
    obtain ⟨hnew, hid⟩ := h.newClient hd ((hs n hn).trans hd) (x.settings change)
    have hp : ω.client (x.system.newClient key n (x.settings change)).2 = p := hd
    rw [hid]
    exact concurs_withSystem hx (hnew.setHandle hh hp fun old ho => hv.system.knows_of_handle ho) _

/-- A handle to the client of a device. -/
theorem concurs_get {device : DeviceId} {handle : Option String} (hd : ω.device device = p)
    (hh : ∀ name ∈ handle, ω.handle name = p) :
    Concurs ω p x (x.act (.get device handle)) ((x.part ω p).act (.get device handle)) := by
  have h := System.Beside.refl hx.system p
  simp only [act]
  rw [system_part, h.registered?_eq hd]
  split
  · exact concurs_self hx _
  · next id hr =>
    have hid := (hx.system.registry.find? hr).trans hd
    rw [h.client_eq hid]
    refine concurs_withSystem hx ?_ _
    cases handle with
    | none => exact h
    | some name => exact h.setHandle (hh name rfl) hid fun old ho => hv.system.knows_of_handle ho

omit hv

/-- A channel from a device of the party to a switch of the party. -/
theorem concurs_addChannel {device : DeviceId} {n : SwitchName} (hd : ω.device device = p)
    (hn : ω.switch n = p) :
    Concurs ω p x (x.act (.addChannel device n)) ((x.part ω p).act (.addChannel device n)) := by
  have h := System.Beside.refl hx.system p
  simp only [act]
  rw [show (x.part ω p).system.switches.contains n = _ from Directory.contains_keep hn]
  refine concurs_withSystem hx (System.Beside.setChannels ?_ (Directory.concerns_insert hd n)) _
  split
  · exact h
  · exact h.updateSwitch hn id

/-- A look at what has changed. -/
theorem concurs_look {name : String} (ho : ω.observer name = p) :
    Concurs ω p x (x.act (.look name)) ((x.part ω p).act (.look name)) := by
  simp only [act]
  rw [show (x.part ω p).observers.find? name = _ from Directory.find?_keep ho]
  split
  · exact concurs_self hx _
  · next seen hf =>
    have hid : ω.client seen.client = p := (hx.observers.find? hf).trans ho
    rw [observer_part hid, inUse_part hx hid, system_part,
      (System.Beside.refl hx.system p).client_eq hid]
    exact ⟨(Beside.refl hx p).setObservers (Directory.concerns_insert ho _)
      (hx.observers.insert (hid.trans ho.symm)), rfl⟩

/-- A user lets go of what it has of a stream past any client. -/
theorem concurs_letGo {name : String} (hn : ω.request name = p) {raw left : RawStream}
    (hraw : ω.stream raw.id = p) (hleft : left.id = raw.id) {t u : System}
    (hs : System.Beside ω p x.system t u) (reply : Reply) :
    Concurs ω p x ({ x with system := t, raws := x.raws.insert name left }, reply)
      ({ x.part ω p with system := u, raws := (x.part ω p).raws.insert name left }, reply) := by
  refine ⟨((Beside.refl hx p).withSystem hs).setRaws (Directory.concerns_insert hn _) ?_, rfl⟩
  exact hx.raws.insert ((congrArg ω.stream hleft).trans (hraw.trans hn.symm))

/-- A request of the party that is given up. -/
theorem concurs_abort {task : String} (hn : ω.request task = p) :
    Concurs ω p x (x.act (.abort task)) ((x.part ω p).act (.abort task)) := by
  have hfind : ((x.part ω p).tasks.find? fun t => decide (t.1 = task)) =
      x.tasks.find? fun t => decide (t.1 = task) := by
    unfold part
    rw [List.find?_filter]
    congr 1
    funext t
    by_cases ht : t.1 = task <;> simp [ht, hn]
  simp only [act]
  rw [hfind]
  split
  · exact concurs_self hx _
  · next name pending hf =>
    have hname : name = task := by simpa using List.find?_some hf
    refine ⟨((Beside.refl hx p).withSystem ?_).addDropped hn, rfl⟩
    cases pending with
    | call id reading =>
      have hid := (hx.tasks _ (List.mem_of_find?_eq_some hf) id reading rfl).1
      exact (System.Beside.refl hx.system p).abort (hid.trans (hname ▸ hn))
        fun call hc => System.knows_of_call? hc
    | unanswered => exact System.Beside.refl hx.system p

end Acts

/-- What is done to one party goes as it would without the others. -/
theorem concurs_act (hx : x.Fenced ω) (hv : x.Valid) {action : Action}
    (ha : ω.addressee action = .party p) (hs : x.Seats ω action) :
    Concurs ω p x (x.act action) ((x.part ω p).act action) := by
  have h := System.Beside.refl hx.system p
  -- Whatever an action looks up by a name of the party is found in the part as well, so both sides take the
  -- same branch; what is left is that the operation itself leaves the other parties alone.
  cases action with
  | create key handle change =>
    obtain ⟨hd, hh⟩ := Addressee.of_eq_party.mp ha
    exact concurs_create hx hv hd (hh _ List.mem_cons_self) hs
  | new key handle change =>
    obtain ⟨hd, hh⟩ := Addressee.of_eq_party.mp ha
    exact concurs_new hx hv hd (hh _ List.mem_cons_self) hs
  | get device handle =>
    obtain ⟨hd, hh⟩ := Addressee.of_eq_party.mp ha
    exact concurs_get hx hv hd fun name hm => hh _ (by simp [Option.mem_def.mp hm])
  | remove device =>
    obtain ⟨hr, he⟩ := h.removeClient (Addressee.party.inj ha) fun old ho =>
      hv.system.knows_of_registered ho
    simp only [act]
    rw [system_part, he]
    exact concurs_withSystem hx hr _
  | deviceIds => cases ha
  | clone client handle =>
    obtain ⟨hc, hh⟩ := Addressee.of_eq_party.mp ha
    exact concurs_onClient hx hv hc fun id hid hk => concurs_withSystem hx
      (h.setHandle (hh _ List.mem_cons_self) hid fun old ho => hv.system.knows_of_handle ho) _
  | drop client =>
    obtain ⟨hr, he⟩ := h.dropHandle (Addressee.party.inj ha) fun old ho => hv.system.knows_of_handle ho
    simp only [act]
    rw [system_part, he]
    exact concurs_withSystem hx hr _
  | addChannel device n =>
    obtain ⟨hd, hn⟩ := Addressee.of_eq_party.mp ha
    exact concurs_addChannel hx hd (hn _ List.mem_cons_self)
  | removeChannel device =>
    have hd := Addressee.party.inj ha
    simp only [act]
    rw [show (x.part ω p).system.channels.contains device = _ from Directory.contains_keep hd]
    exact concurs_withSystem hx (h.setChannels (Directory.concerns_erase SwitchName hd)) _
  | register conf => cases ha
  | bind device conf => cases ha
  | unbind device => cases ha
  | lookup device => exact concurs_self hx _
  | close client =>
    exact concurs_onClient hx hv (Addressee.party.inj ha) fun id hid hk =>
      concurs_withSystem hx (h.closeSession hid hk) _
  | run client election =>
    refine concurs_onClient hx hv (Addressee.party.inj ha) fun id hid hk => ?_
    obtain ⟨hr, he⟩ := h.runForMastership hid hk election
    unfold sent
    rw [system_part, he]
    exact concurs_withSystem hx hr _
  | packetOut client conf packet =>
    refine concurs_onClient hx hv (Addressee.party.inj ha) fun id hid hk => ?_
    refine concurs_onPipeconf hx conf fun conf => ?_
    obtain ⟨hr, he⟩ := h.packetOut hid hk conf packet
    unfold sent
    rw [system_part, he]
    exact concurs_withSystem hx hr _
  | info client =>
    refine concurs_onClient hx hv (Addressee.party.inj ha) fun id hid hk => ?_
    unfold System.describe
    rw [system_part, h.client_eq hid]
    exact concurs_self hx _
  | watch client name =>
    obtain ⟨hc, ho⟩ := Addressee.of_eq_party.mp ha
    have ho := ho _ List.mem_cons_self
    refine concurs_onClient hx hv hc fun id hid hk => ?_
    rw [observer_part hid]
    exact ⟨(Beside.refl hx p).setObservers (Directory.concerns_insert ho _)
      (hx.observers.insert (hid.trans ho.symm)), rfl⟩
  | look name => exact concurs_look hx (Addressee.party.inj ha)
  | dropRead name =>
    have hn := Addressee.party.inj ha
    simp only [act]
    rw [show (x.part ω p).reads.contains name = _ from Directory.contains_keep hn]
    exact ⟨(Beside.refl hx p).setReads (Directory.concerns_erase ReadCursor hn) (hx.reads.erase name),
      rfl⟩
  | steer n steering =>
    exact concurs_onSwitch hx (Addressee.party.inj ha) fun _ =>
      concurs_withSystem hx (h.updateSwitch (Addressee.party.inj ha) _) _
  | script n script =>
    exact concurs_onSwitch hx (Addressee.party.inj ha) fun _ =>
      concurs_withSystem hx (h.updateSwitch (Addressee.party.inj ha) _) _
  | sendFrame n frame =>
    refine concurs_onSwitch hx (Addressee.party.inj ha) fun _ => ?_
    obtain ⟨hr, he⟩ := h.pushFrame (Addressee.party.inj ha) (.item frame)
    dsimp only
    rw [system_part, he]
    exact concurs_withSystem hx hr _
  | failStream n status =>
    refine concurs_onSwitch hx (Addressee.party.inj ha) fun _ => ?_
    obtain ⟨hr, he⟩ := h.failStream (Addressee.party.inj ha) status
    dsimp only
    rw [system_part, he]
    exact concurs_withSystem hx hr _
  | closeStream n =>
    exact concurs_onSwitch hx (Addressee.party.inj ha) fun _ =>
      concurs_withSystem hx (h.detach (Addressee.party.inj ha)) _
  | dump n =>
    refine concurs_onSwitch hx (Addressee.party.inj ha) fun _ => ?_
    rw [system_part,
      h.isAttached_eq (Addressee.party.inj ha)]
    exact concurs_self hx _
  | noted n =>
    exact concurs_onSwitch hx (Addressee.party.inj ha) fun _ =>
      concurs_withSystem hx (h.updateSwitch (Addressee.party.inj ha) _) _
  | rawSend name frame =>
    refine concurs_onRaw hx (Addressee.party.inj ha) fun raw hraw => ?_
    split
    · rw [system_part, h.stream_eq hraw]
      split
      · have hserve : ω.task (.serve raw.id) = p := hraw
        refine concurs_withSystem hx (System.Beside.wake ?_ hserve) _
        exact h.changeStream hraw fun _ => .inl rfl
      · exact concurs_self hx _
    · exact concurs_self hx _
  | rawClose name =>
    have hn := Addressee.party.inj ha
    refine concurs_onRaw hx hn fun raw hraw => concurs_letGo hx hn hraw ?_ ?_ _
    · rfl
    · split
      · exact h.dropUplink hraw
      · exact h
  | rawDrop name =>
    have hn := Addressee.party.inj ha
    refine concurs_onRaw hx hn fun raw hraw => concurs_letGo hx hn hraw ?_ ?_ _
    · rfl
    · split
      · exact h.dropListener hraw
      · exact h
  | rawReceive name =>
    refine concurs_onRaw hx (Addressee.party.inj ha) fun raw hraw => ?_
    split
    · rw [system_part, h.stream_eq hraw]
      refine concurs_withSystem hx ?_ _
      exact h.changeStream hraw fun _ => .inl rfl
    · exact concurs_self hx _
  | abort task => exact concurs_abort hx (Addressee.party.inj ha)

/-! ### Requests -/

/-- A call has been started. -/
theorem concurs_started (h : Beside ω p x y z) {name : String} (hn : ω.request name = p)
    {reading : Option String} (hr : ∀ stream, reading = some stream → ω.request stream = p)
    {a b : System × CallId} (hs : System.Beside ω p x.system a.1 b.1 ∧ b.2 = a.2)
    (hid : ω.client a.2.client = p) :
    Concurs ω p x (y.started name reading a) (z.started name reading b) := by
  refine ⟨?_, rfl⟩
  unfold started
  rw [hs.2]
  refine (h.withSystem hs.1).addTask hn fun id reading' he => ?_
  cases he
  exact ⟨hid, hr⟩

/-- A call past any client has been made. -/
theorem concurs_answered {α : Type} (h : Beside ω p x y z) {name : String} (hn : ω.request name = p)
    (answer : Answer α) (reply : α → Reply) :
    Concurs ω p x (y.answered name answer reply) (z.answered name answer reply) := by
  unfold answered
  split
  · exact ⟨h, rfl⟩
  · exact ⟨h, rfl⟩
  · exact ⟨h.addTask hn (fun id reading he => by cases he), rfl⟩

/-- A raw stream on a switch of the party. -/
theorem concurs_rawOpen (hx : x.Fenced ω) {name : String} (hn : ω.request name = p) {n : SwitchName}
    (ht : ω.switch n = p) :
    Concurs ω p x (x.start name (.rawOpen n)) ((x.part ω p).start name (.rawOpen n)) := by
  refine concurs_onSwitch hx ht fun _ => ?_
  obtain ⟨hs, ha⟩ := (System.Beside.refl hx.system p).attachStream ht none
  dsimp only
  rw [system_part, ha, show (x.part ω p).raws.find? name = _ from Directory.find?_keep hn]
  split
  · next st hst =>
    have hst : ω.stream st = p := by rw [Allotment.stream, System.Beside.switch_of_attachStream hst, ht]
    refine ⟨((Beside.refl hx p).withSystem ?_).setRaws (Directory.concerns_insert hn _)
      (hx.raws.insert (hst.trans hn.symm)), rfl⟩
    split
    · next old ho => exact beside_discard hs ((hx.raws.find? ho).trans hn)
    · exact hs
  · exact concurs_answered ((Beside.refl hx p).withSystem hs) hn _ _

/-- A request to one party goes as it would without the others. -/
theorem concurs_start (hx : x.Fenced ω) (hv : x.Valid) {name : String} (hn : ω.request name = p)
    {request : Request} (ht : ω.target request = p) :
    Concurs ω p x (x.start name request) ((x.part ω p).start name request) := by
  have h := System.Beside.refl hx.system p
  have agent : ∀ {n} agent, ω.switch n = p →
      Beside ω p x (x.withAgent n agent) ((x.part ω p).withAgent n agent) :=
    fun agent hn => (Beside.refl hx p).withSystem (h.updateSwitch hn _)
  have none : ∀ stream, (none : Option String) = some stream → ω.request stream = p := by simp
  -- Requests name a client, a stream of reads or a switch: one lemma for each finds it on both sides
  -- or on neither, and the rest is what the system does with it.
  cases request with
  | openSession client =>
    exact concurs_onClient hx hv ht fun id hid hk =>
      concurs_started (.refl hx p) hn none (h.openSession hid hk) hid
  | setPipeline client conf data =>
    refine concurs_onClient hx hv ht fun id hid hk => concurs_onPipeconf hx conf fun conf => ?_
    refine concurs_started (.refl hx p) hn none (h.setPipelineConfig hid hk conf data) ?_
    unfold System.setPipelineConfig
    dsimp only
    split <;> exact hid
  | isPipelineSet client conf data =>
    exact concurs_onClient hx hv ht fun id hid hk => concurs_onPipeconf hx conf fun conf =>
      concurs_started (.refl hx p) hn none (h.isPipelineConfigSet hid hk conf data) hid
  | read client conf query =>
    exact concurs_onClient hx hv ht fun id hid hk => concurs_onPipeconf hx conf fun conf =>
      concurs_started (.refl hx p) hn none (h.read hid hk _) hid
  | openRead client conf query =>
    exact concurs_onClient hx hv ht fun id hid hk => concurs_onPipeconf hx conf fun conf =>
      concurs_started (.refl hx p) hn (by simpa using hn) (h.openRead hid hk _) hid
  | readNext stream =>
    have ht : ω.request stream = p := ht
    simp only [start]
    rw [show (x.part ω p).reads.find? stream = _ from Directory.find?_keep ht]
    split
    · exact concurs_self hx _
    · next cursor hc =>
      have hid := (hx.reads.find? hc).trans ht
      have hk := (hv.reads cursor (Directory.mem_values_of_find? hc)).1
      exact concurs_started
        ((Beside.refl hx p).setReads (Directory.concerns_erase ReadCursor ht) (hx.reads.erase stream))
        hn (by simpa using ht) (h.readNext hid hk) hid
  | write client conf updates atomicity =>
    refine concurs_onClient hx hv ht fun id hid hk => concurs_onPipeconf hx conf fun conf => ?_
    refine concurs_started (.refl hx p) hn none (h.write hid hk _) ?_
    unfold System.write
    dsimp only
    split <;> exact hid
  | rawOpen n => exact concurs_rawOpen hx hn ht
  | rawSet n request =>
    exact concurs_onSwitch hx ht fun w => concurs_answered (agent _ ht) hn _ _
  | rawGet n request =>
    exact concurs_onSwitch hx ht fun w => concurs_answered (agent _ ht) hn _ _
  | rawRead n request =>
    refine concurs_onSwitch hx ht fun w => ?_
    dsimp only
    split
    · exact ⟨agent _ ht, rfl⟩
    · exact concurs_answered (agent _ ht) hn _ _
    · exact ⟨agent _ ht, rfl⟩
    · exact concurs_answered (agent _ ht) hn _ _
  | rawWrite n request =>
    exact concurs_onSwitch hx ht fun w => concurs_answered (agent _ ht) hn _ _

/-! ### What all share -/

/-- What is done to all is done in every part. -/
theorem part_act_everyone {action : Action} (ha : ω.addressee action = .everyone) (p : Party) :
    (x.act action).1.part ω p = ((x.part ω p).act action).1 ∧
      ((x.part ω p).act action).2 = (x.act action).2 := by
  cases action with
  | register conf => exact ⟨rfl, rfl⟩
  | bind device conf => exact ⟨rfl, rfl⟩
  | unbind device => exact ⟨rfl, rfl⟩
  | _ => simp [Allotment.addressee, Addressee.of_ne_everyone] at ha

/-- What concerns everyone keeps the parties apart. -/
theorem Fenced.act_everyone (hx : x.Fenced ω) {action : Action} (ha : ω.addressee action = .everyone) :
    (x.act action).1.Fenced ω := by
  have catalog : ∀ c, (x.withSystem { x.system with catalog := c }).Fenced ω := fun _ =>
    ⟨⟨hx.system.clients, hx.system.streams, hx.system.registry, hx.system.handles, hx.system.finished,
      hx.system.timers⟩, hx.tasks, hx.reads, hx.raws, hx.observers⟩
  cases action with
  | register conf => exact catalog _
  | bind device conf => exact catalog _
  | unbind device => exact catalog _
  | _ => simp [Allotment.addressee, Addressee.of_ne_everyone] at ha

end Scenario

end P4Control
