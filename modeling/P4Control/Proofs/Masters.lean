import P4Control.Proofs.Denial
import P4Control.Proofs.Verdict

namespace P4Control

/-!
# Clients and switches agree on the master

As long as the master of a switch changes only by the claims that clients send, a client that takes
itself for the master when all tasks wait is the one whom the switch takes for it, unless it has been
outbid without a word: by a claim that the agent has not acknowledged, or that has waited on a stream
that another client has lost, and was acknowledged to that client on the stream of this one.

* `Scenario.Move.interferes` — the moves that change a master in other ways, or make clients believe so.
* `Scenario.Outbid` — a client has been outbid without a word.
* `contested_make`, `contested_after` — a move, and a run, keep the clients apprised but for that.
* `Contested.master` — what a client that takes itself for the master goes by when all tasks wait.
* `masters_agree` — clients and switches agree after every list of moves.
* `masters_differ` — and how they come to differ.
-/

namespace Scenario

variable {x : Scenario} {missed : ClientId → StreamId → Uint128 → Prop}

/-! ### Moves that do not interfere -/

/-- Whether an action makes someone master past the claims of clients, or feigns it, or uses streams
past clients and agents. -/
def Action.interferes : Action → Bool
  | .steer _ (.setMaster _) => true
  | .sendFrame _ (.arbitration _) => true
  | action => action.isForeign

/-- Whether a move does. -/
def Move.interferes : Move → Bool
  | .act action => action.interferes
  | .start _ request => request.isForeign
  | _ => false

theorem not_foreign_of_not_interferes {m : Move} (h : m.interferes = false) : m.isForeign = false := by
  cases m with
  | act action =>
    have h' : action.interferes = false := h
    unfold Action.interferes at h'
    split at h'
    · cases h'
    · cases h'
    · exact h'
  | _ => exact h

/-- Steering does not touch the master, unless it sets it. -/
theorem Steering.master_apply {steering : Steering} (a : Agent) (h : ∀ id, steering ≠ .setMaster id) :
    (steering.apply a).master = a.master := by
  cases steering with
  | setMaster id => exact absurd rfl (h id)
  | _ => rfl

/-- In the course of the moves, the client that attends a stream has been outbid without a word, when the
id of the master was `e`. -/
def Outbid (x : Scenario) (ms : List Move) (id : ClientId) (st : StreamId) (e : Uint128) : Prop :=
  ∃ before after origin claim, ms = before ++ .poll :: after ∧
    (x.after before).system.Outbids id st e origin claim

/-- Whoever has been outbid in a run has been outbid in its first move, or later. -/
theorem Outbid.cons {m : Move} {ms : List Move} {id : ClientId} {st : StreamId} {e : Uint128}
    (h : (m = .poll ∧ ∃ origin claim, x.system.Outbids id st e origin claim) ∨
      (x.make m).Outbid ms id st e) : x.Outbid (m :: ms) id st e := by
  rcases h with ⟨rfl, origin, claim, h⟩ | ⟨before, after, origin, claim, rfl, h⟩
  · exact ⟨[], ms, origin, claim, rfl, h⟩
  · exact ⟨m :: before, after, origin, claim, rfl, h⟩

/-! ### One move -/

/-- No agent decides anything in a move that does not interfere, unless it is the agent's turn. -/
theorem not_decisive_of_makes {t : System} {m : Move} {is : List Incident} (h : Makes x t m is)
    (hm : m.interferes = false) (hs : ∀ n steering, m ≠ .act (.steer n steering))
    (hp : m = .poll → ∀ st, x.system.ready.head? ≠ some (.serve st)) :
    ∀ i ∈ is, i.isDecisive = false := by
  intro i hi
  cases h.ofMove hi with
  | closed | released => rfl
  | call name request id hi => cases hi <;> rfl
  | foreign name request hf =>
    rw [show request.isForeign = false from hm] at hf
    cases hf
  | task hi =>
    cases hi with
    | served st frame hr => exact absurd hr (hp rfl st)
    | call K hr hi => cases hi <;> rfl
    | _ => rfl
  | causes action hc =>
    cases i with
    | pushed name frame =>
      obtain ⟨response, rfl, rfl⟩ | ⟨status, -, rfl⟩ := hc
      -- an arbitration update from the user would interfere
      · cases response with
        | arbitration update => cases hm
        | packet packet => rfl
        | error e => rfl
      · rfl
    | steered name agent =>
      obtain ⟨steering, rfl, -⟩ := hc
      exact absurd rfl (hs name steering)
    | foreign =>
      have hf : action.isForeign = true := hc
      rw [show action.isForeign = false from not_foreign_of_not_interferes hm] at hf
      cases hf
    | served st frame => cases hc
    | _ => rfl

/-- It is the agent's turn to take a frame off an uplink. -/
theorem contested_serve (hv : x.Valid) (hl : x.system.Linked) {st : StreamId}
    (hr : x.system.ready.head? = some (.serve st)) (h : x.system.Contested missed) :
    x.system.poll.Contested fun id st e =>
      missed id st e ∨ ∃ origin claim, x.system.Outbids id st e origin claim := by
  obtain ⟨rest, hready⟩ := List.head?_eq_some_iff.mp hr
  have hpoll : x.system.poll = x.system.serveStep st := by
    unfold System.poll
    rw [hready]
  -- where no claim is taken in, nothing new is missed
  have steady : ∀ {i t}, System.Happens x.system i t → i.isSteady = true → t.Contested fun id st e =>
      missed id st e ∨ ∃ origin claim, x.system.Outbids id st e origin claim := fun hi hs =>
    ((hi.steady hs hv.system hl).contested h).mono fun _ _ _ => .inl
  rw [hpoll]
  unfold System.serveStep
  dsimp only
  split
  · next hserved =>
    split
    · next frame uplink hu =>
      cases frame with
      | arbitration claim =>
        -- a claim may outbid whoever takes itself for the master, and is then missed
        exact (h.decides hl hr hserved hu).mono fun _ _ _ => .imp_right fun hout => ⟨_, _, hout⟩
      | packet packet =>
        exact (h.forwarded hv.system hl hserved hu).mono fun _ _ _ => .inl
    · next hu =>
      exact steady (.idled x.system _ hr fun _ => Pipe.receive_eq_waiting.mp hu) rfl
    · next hu =>
      obtain ⟨hf, hs⟩ := Pipe.receive_eq_ended.mp hu
      exact steady (.drained x.system st hr hserved hf hs) rfl
  · next hserved => exact steady (.idled x.system _ hr fun hs => absurd hs hserved) rfl

/-- In a move, clients miss only what they are outbid by in the step of an agent. -/
theorem contested_make (hv : x.Valid) (hl : x.system.Linked) {m : Move} (hm : m.interferes = false)
    (h : x.system.Contested missed) :
    (x.make m).system.Contested fun id st e =>
      missed id st e ∨ m = .poll ∧ ∃ origin claim, x.system.Outbids id st e origin claim := by
  by_cases hp : m = .poll ∧ ∃ st, x.system.ready.head? = some (.serve st)
  · obtain ⟨rfl, st, hr⟩ := hp
    exact (contested_serve hv hl hr h).mono fun _ _ _ => .imp_right fun hout => ⟨rfl, hout⟩
  suffices hkept : (x.make m).system.Contested missed from hkept.mono fun _ _ _ => .inl
  by_cases hs : ∃ n steering, m = .act (.steer n steering)
  · obtain ⟨n, steering, rfl⟩ := hs
    simp only [make, act, onSwitch]
    split
    · exact h
    · refine h.steered (Steering.master_apply _ ?_)
      -- setting the master would interfere
      rintro id rfl
      cases hm
  · obtain ⟨posted, outcome, rfl⟩ | ⟨is, hmake, hleads⟩ := observes_or_leads hv m
    · exact fun id st ha => by
        obtain ⟨claimed, own, current⟩ := h id st ⟨ha.slot, ha.attached⟩
        exact ⟨claimed, own, current⟩
    · refine hleads.contested hv.system hl (not_decisive_of_makes hmake hm ?_ ?_) h
      · exact fun n steering he => hs ⟨n, steering, he⟩
      · exact fun he st hr => hp ⟨he, st, hr⟩

/-! ### Runs -/

theorem contested_after (hv : x.Valid) (hl : x.system.Linked) {ms : List Move}
    (hm : ∀ m ∈ ms, m.interferes = false) (h : x.system.Contested missed) :
    (x.after ms).system.Contested fun id st e => missed id st e ∨ x.Outbid ms id st e := by
  induction ms generalizing x missed with
  | nil => exact h.mono fun _ _ _ => .inl
  | cons m rest ih =>
    have hm' := hm m List.mem_cons_self
    have hrest := ih (hv.make m) (linked_make hv hl (not_foreign_of_not_interferes hm'))
      (fun m' hin => hm m' (List.mem_cons_of_mem _ hin)) (contested_make hv hl hm' h)
    refine hrest.mono fun id st e hmissed => ?_
    rcases hmissed with (hmissed | hfirst) | hlater
    · exact .inl hmissed
    · exact .inr (.cons (.inl hfirst))
    · exact .inr (.cons (.inr hlater))

/-- Nobody has an open session at the start. -/
theorem contested_initial (devices : List String) (confs : List Pipeconf)
    (bindings : List (String × PipeconfId)) (config : ConfigChange) (capacity : Nat) :
    (initial devices confs bindings config capacity).system.Contested fun _ _ _ => False := by
  intro id st ha
  cases ha.slot

/-- Only who has an open session takes itself for the master. -/
theorem isOpen_of_isMaster {s : System} (hv : s.Valid) {id : ClientId} (hm : s.IsMaster id) :
    (s.client id).scope.isOpen = true := by
  refine (hv.mastership id).resolve_left fun hn => ?_
  rw [show (s.client id).arbiter.mastership.value = .master from hm] at hn
  cases hn

/-- When all tasks wait, whoever takes itself for the master attends its switch and has read all its news,
so the agent has its id for the master's unless it has missed something. -/
theorem master_of_contested {s : System} (hv : s.Valid) (hl : s.Linked) (hr : s.ready = [])
    (h : s.Contested missed) {id : ClientId} (hm : s.IsMaster id) :
    ∃ st e, (s.client id).scope.slot = some st ∧ (s.client id).arbiter.lastUsed = some e ∧
      ((s.switch (s.client id).switch).agent.master = some e.toWire ∨ missed id st e.toWire) := by
  obtain ⟨st, hs⟩ :=
    Option.isSome_iff_exists.mp ((hv.scopes id).isOpen_iff.mp (isOpen_of_isMaster hv hm))
  obtain ⟨token, -, hlist⟩ := hl.slots id st hs
  have ha : s.Attends id st := ⟨hs, (hl.listener_of_settled hv hr hlist).2⟩
  obtain ⟨claimed, -, current⟩ := h id st ha
  obtain ⟨e, he⟩ := claimed hm
  refine ⟨st, e, hs, he, ?_⟩
  rw [← (hl.streams st).owner id token hlist]
  refine current e.toWire (.known (hl.news_of_settled hr ha) hm ?_)
  rw [show (s.client id).standing.lastUsed = some e from he]
  rfl

/-! ### Agreement -/

/-- After every list of moves in which masters change only by the claims of clients, when all tasks wait,
a client that takes itself for the master of its switch is the one whose id the agent of the switch has
for the master's, and nobody else takes itself for it; but if the client has been outbid without a word,
in the session that it has and when the agent had its id for the master's, the agent has another id.

If client and agent agree, a push or a write that the client makes then is not refused for lack of
mastership, neither at once nor later, unless a fault has been queued that says so.  Neither is an update
of it, unless it has been marked to fail so or a script answers the write. -/
theorem masters_agree (devices : List String) (confs : List Pipeconf)
    (bindings : List (String × PipeconfId)) (config : ConfigChange) (capacity : Nat)
    (ms : List Move) (hm : ∀ m ∈ ms, m.interferes = false) :
    let start := initial devices confs bindings config capacity
    let x := start.after ms
    x.system.ready = [] →
      (∀ id, x.system.IsMaster id → ∃ st e,
        (x.system.client id).scope.slot = some st ∧ (x.system.client id).arbiter.lastUsed = some e ∧
          ((x.system.switch (x.system.client id).switch).agent.master = some e.toWire ∨
            start.Outbid ms id st e.toWire)) ∧
      (∀ id id', x.system.IsMaster id → x.system.IsMaster id' →
        (x.system.client id).switch = (x.system.client id').switch → id = id') ∧
      ∀ id client rpc request K, x.system.IsMaster id →
        (x.system.switch (x.system.client id).switch).agent.master =
          (x.system.client id).arbiter.lastUsed.map (·.toWire) →
        x.system.handles.find? client = some id → Request.reserved? request = some (client, rpc) →
        x.callOf? request = some K →
          ∀ name rest, ∀ f ∈ ((x.make (.start name request)).after rest).system.finished, f.call = K →
            (f.result.isDenied = true →
              (x.system.switch (x.system.client id).switch).agent.DeniesNext rpc) ∧
            (f.result.deniesUpdate = true →
              (x.system.switch (x.system.client id).switch).DeniesUpdateNext) := by
  intro start x hr
  have hstart : start.Valid := valid_initial devices confs bindings config capacity
  have ho : x.Orderly := orderly_after devices confs bindings config capacity ms
  have hv : x.system.Valid := ho.valid.system
  have hlinked : start.system.Linked := linked_initial devices confs bindings config capacity
  have hl : x.system.Linked :=
    linked_after hstart hlinked fun m hin => not_foreign_of_not_interferes (hm m hin)
  have hcontested := contested_after hstart hlinked hm
    (contested_initial devices confs bindings config capacity)
  have master : ∀ id, x.system.IsMaster id → ∃ st e,
      (x.system.client id).scope.slot = some st ∧ (x.system.client id).arbiter.lastUsed = some e ∧
        ((x.system.switch (x.system.client id).switch).agent.master = some e.toWire ∨
          start.Outbid ms id st e.toWire) := by
    intro id hmaster
    obtain ⟨st, e, hs, he, hagree⟩ := master_of_contested hv hl hr hcontested hmaster
    exact ⟨st, e, hs, he, hagree.imp_right fun hmissed => hmissed.resolve_left fun hno => hno⟩
  refine ⟨master, fun id id' hmaster hmaster' hn => ?_,
    fun id client rpc request K hmaster hagree hh hreserved hK name rest f hf hcall => ?_⟩
  · -- each of the two reads the one stream of the switch
    have hreads := hl.reads_of_open hv hr ⟨hn, isOpen_of_isMaster hv hmaster⟩
    exact hreads.unique (hl.reads_of_open hv hr ⟨rfl, isOpen_of_isMaster hv hmaster'⟩)
  · have hgranted : (x.system.switch (x.system.client id).switch).agent.isMaster
        ((x.system.client id).arbiter.lastUsed.map (·.toWire)) = true := by
      obtain ⟨-, e, -, he, -⟩ := master id hmaster
      unfold Agent.isMaster
      rw [hagree, he]
      simp
    exact ⟨denied_of_master ho hreserved hh (isOpen_of_isMaster hv hmaster) hgranted hK name rest hf hcall,
      deniesUpdate_of_told ho hreserved hh hK name rest hf hcall⟩

/-- Two clients contend for one switch: the first is master, until the second takes its stream and
claims with a higher id; of its two claims only the last one counts. -/
def contention : List Move :=
  [.act (.new ⟨⟨"leaf"⟩, 1⟩ "first" none), .act (.new ⟨⟨"leaf"⟩, 2⟩ "second" none),
   .start "t0" (.openSession "first"), .poll, .act (.run "first" ⟨0, 5⟩), .poll, .poll, .poll,
   .start "t1" (.openSession "second"), .act (.run "second" ⟨0, 3⟩), .poll, .poll,
   .act (.run "second" ⟨0, 7⟩)] ++ List.replicate 8 .poll

/-- One switch, with a program. -/
def oneLeaf : Scenario :=
  initial ["leaf"] [{ id := ⟨"basic"⟩, fingerprint := 1, description := [1] }] [] {} 16

/-- An entry is inserted. -/
def insertion (client : String) : Request :=
  .write client ⟨"basic"⟩ [.entity .insert ⟨.tableEntry, 1, [], []⟩] none

/-- After the contention the second client is master, and so does its switch think.  A write that it makes
then is not refused. -/
theorem masters_agree_contention :
    (∀ m ∈ contention, m.interferes = false) ∧ (oneLeaf.after contention).system.ready = [] ∧
      (oneLeaf.after contention).system.IsMaster ⟨⟨"leaf"⟩, 1⟩ ∧
      (∃ st e, ((oneLeaf.after contention).system.client ⟨⟨"leaf"⟩, 1⟩).scope.slot = some st ∧
        ((oneLeaf.after contention).system.client ⟨⟨"leaf"⟩, 1⟩).arbiter.lastUsed = some e ∧
          (((oneLeaf.after contention).system.switch
              ((oneLeaf.after contention).system.client ⟨⟨"leaf"⟩, 1⟩).switch).agent.master =
                some e.toWire ∨
            oneLeaf.Outbid contention ⟨⟨"leaf"⟩, 1⟩ st e.toWire)) ∧
      ∀ f ∈ ((oneLeaf.after contention).make (.start "t2" (insertion "second"))).system.finished,
        f.call = ⟨⟨⟨"leaf"⟩, 1⟩, 1⟩ → f.result.isDenied = false := by
  have hm : ∀ m ∈ contention, m.interferes = false := by decide
  have hmain := masters_agree ["leaf"] [{ id := ⟨"basic"⟩, fingerprint := 1, description := [1] }] [] {}
    16 contention hm
  dsimp only at hmain
  rw [show initial ["leaf"] [{ id := ⟨"basic"⟩, fingerprint := 1, description := [1] }] [] {} 16 =
    oneLeaf from rfl] at hmain
  have hr : (oneLeaf.after contention).system.ready = [] := by decide +kernel
  have hmaster : (oneLeaf.after contention).system.IsMaster ⟨⟨"leaf"⟩, 1⟩ := by decide +kernel
  have hnone : ((oneLeaf.after contention).system.switch
      ((oneLeaf.after contention).system.client ⟨⟨"leaf"⟩, 1⟩).switch).agent.nextFault .write = none := by
    decide +kernel
  obtain ⟨master, -, undenied⟩ := hmain hr
  refine ⟨hm, hr, hmaster, master _ hmaster, fun f hf hcall => eq_false_of_ne_true fun hd => ?_⟩
  -- nobody has told the switch to refuse the write
  obtain ⟨message, hfault⟩ := (undenied _ "second" .write (insertion "second") _ hmaster
    (by decide +kernel) (by decide +kernel) rfl (by decide +kernel) "t2" [] f
    (by rwa [after_nil]) hcall).1 hd
  rw [hnone] at hfault
  cases hfault

/-- The second client has taken the stream of the first and claims, and so does the first, which has not
found out yet. -/
def displaced : List Move :=
  [.act (.new ⟨⟨"leaf"⟩, 1⟩ "first" none), .act (.new ⟨⟨"leaf"⟩, 2⟩ "second" none),
   .start "t0" (.openSession "first"), .poll, .poll, .start "t1" (.openSession "second"),
   .act (.run "second" ⟨0, 7⟩), .act (.run "first" ⟨0, 9⟩)] ++ List.replicate 10 .poll

/-- A client claims, then claims with a higher id and with the old id again before it has heard of the
first claim.  From then on the agent acknowledges nothing. -/
def unacknowledged : List Move :=
  [.act (.new ⟨⟨"leaf"⟩, 1⟩ "first" none), .start "t0" (.openSession "first"), .poll, .poll,
   .act (.run "first" ⟨0, 7⟩), .poll, .act (.run "first" ⟨0, 9⟩), .act (.run "first" ⟨0, 7⟩),
   .act (.steer "leaf" (.acknowledge false))] ++ List.replicate 5 .poll

/-- The next write of the master is to fail in one update, and nothing else has been injected. -/
def marked : List Move :=
  [.act (.new ⟨⟨"leaf"⟩, 1⟩ "first" none), .start "t0" (.openSession "first"), .poll, .poll,
   .act (.run "first" ⟨0, 7⟩), .poll, .poll, .poll, .poll,
   .act (.steer "leaf" (.failUpdate 0 ⟨.permissionDenied, "no"⟩))]

/-- Clients and switches do not always agree.  Outbid on a stream that it has taken, or by a claim that has
not been acknowledged, a client takes itself for the master although another id is the master's, and its
write is refused.  An update of the true master is refused where it has been marked. -/
theorem masters_differ :
    (let s := (oneLeaf.after displaced).system
     let id : ClientId := ⟨⟨"leaf"⟩, 1⟩
     (∀ m ∈ displaced, m.interferes = false) ∧ s.ready = [] ∧ s.IsMaster id ∧
      (s.client id).arbiter.lastUsed = some ⟨0, 7⟩ ∧ (s.switch "leaf").agent.master = some ⟨0, 9⟩ ∧
      (s.switch "leaf").agent.faults = .empty ∧
      ∃ f ∈ ((oneLeaf.after displaced).make (.start "t2" (insertion "second"))).system.finished,
        f.call = ⟨id, 1⟩ ∧ f.result.isDenied = true) ∧
    (let s := (oneLeaf.after unacknowledged).system
     let id : ClientId := ⟨⟨"leaf"⟩, 0⟩
     (∀ m ∈ unacknowledged, m.interferes = false) ∧ s.ready = [] ∧ s.IsMaster id ∧
      (s.client id).arbiter.lastUsed = some ⟨0, 7⟩ ∧ (s.switch "leaf").agent.master = some ⟨0, 9⟩ ∧
      (s.switch "leaf").agent.faults = .empty ∧
      ∃ f ∈ ((oneLeaf.after unacknowledged).make (.start "t2" (insertion "first"))).system.finished,
        f.call = ⟨id, 1⟩ ∧ f.result.isDenied = true) ∧
    (let s := (oneLeaf.after marked).system
     let id : ClientId := ⟨⟨"leaf"⟩, 0⟩
     (∀ m ∈ marked, m.interferes = false) ∧ s.ready = [] ∧ s.IsMaster id ∧
      (s.client id).arbiter.lastUsed = some ⟨0, 7⟩ ∧ (s.switch "leaf").agent.master = some ⟨0, 7⟩ ∧
      (s.switch "leaf").agent.faults = .empty ∧
      ∃ f ∈ ((oneLeaf.after marked).make (.start "t2" (insertion "first"))).system.finished,
        f.call = ⟨id, 1⟩ ∧ f.result.deniesUpdate = true) := by
  decide +kernel

end Scenario

end P4Control
