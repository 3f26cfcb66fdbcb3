import P4Control.Proofs.Moves

namespace P4Control

/-!
# Mastership follows history

The mastership of a client is determined by what has happened to it last, and its last used
election id by the claims since its last scope began.

* `Happening`, `happenings`, `history` — what a run shows of a client's part in the election.
* `lastClaim`, `mastershipOf` — what the history says.
* `Ages` — how the standing of a client changes where it neither claims nor hears of a master.
* `mastership_history` — a client is what its history says, after every list of moves.
-/

namespace Scenario

/-! ### History -/

/-- What the mastership of a client depends on. -/
inductive Happening where
  /-- A claim was made without an error. -/
  | claimed (election : ElectionId)
  /-- The inbound loop took an update about the client's device, with the election id of the
  master. -/
  | updated (election : Option Uint128)
  /-- A scope began. -/
  | began
  /-- The scope in place ended, or the session was closed. -/
  | ended
deriving DecidableEq

namespace Happening

/-- Whether a happening decides what the last claim is. -/
def decidesClaim : Happening → Bool
  | claimed _ | began => true
  | updated _ | ended => false

end Happening

/-- The election id of the last claim since the last scope began. -/
def lastClaim (history : List Happening) : Option ElectionId :=
  match (history.filter Happening.decidesClaim).getLast? with
  | some (.claimed election) => some election
  | _ => none

/-- The mastership that follows from what has happened last: a claim is pending, and an update
makes the client master if it names the client's last claim. -/
def mastershipOf (history : List Happening) : MastershipState :=
  match history.getLast? with
  | some (.claimed _) => .pending
  | some (.updated (some wire)) =>
    if lastClaim history = some (.ofWire wire) then .master else .notMaster
  | _ => .notMaster

/-- The claim of a client that a move makes without an error. -/
def claimsOf (x : Scenario) (id : ClientId) : Move → List Happening
  | .act (.run client election) =>
    if x.system.handles.find? client = some id ∧ (x.act (.run client election)).2 = .done then
      [.claimed election]
    else []
  | _ => []

/-- The arbitration update about the client's device that its inbound loop takes in a move. -/
def updatesOf (x : Scenario) (id : ClientId) : Move → List Happening
  | .poll =>
    match x.system.hears with
    | some (id', .arbitration update) =>
      if id' = id ∧ update.device = (x.system.client id).key.number then [.updated update.election]
      else []
    | _ => []
  | _ => []

/-- Whether a move closes the session of a client. -/
def closesBy (x : Scenario) (id : ClientId) : Move → Bool
  | .act action => x.closes action id
  | _ => false

/-- The scopes of a client that begin and end in a move. -/
def scopesOf (x : Scenario) (id : ClientId) (m : Move) : List Happening :=
  let before := (x.system.client id).scope
  let after := ((x.make m).system.client id).scope
  (if before.begun < after.begun then [.began] else []) ++
    if before.cancelled.length < after.cancelled.length ∨ x.closesBy id m = true then [.ended]
    else []

/-- What happens to a client in a move. -/
def happenings (x : Scenario) (id : ClientId) (m : Move) : List Happening :=
  x.claimsOf id m ++ x.updatesOf id m ++ x.scopesOf id m

/-- What happens to a client in a run. -/
def history (x : Scenario) (id : ClientId) : List Move → List Happening
  | [] => []
  | m :: ms => x.happenings id m ++ (x.make m).history id ms

end Scenario

/-! ### Where a client neither claims nor hears of a master -/

/-- Whether an incident is neither a claim nor a frame that is taken. -/
def Incident.isCalm : Incident → Bool
  | .claimed _ _ | .heard _ _ _ => false
  | _ => true

/-- Mastership, or the wait for it, goes with a scope. -/
def Standing.Sound (c : Standing) : Prop := c.mastership = .notMaster ∨ c.scope.current.isSome = true

/-- Scopes begin and end, and nothing else changes the standing. -/
structure Ages (c d : Standing) : Prop where
  begun : c.scope.begun ≤ d.scope.begun
  cancelled : c.scope.cancelled.length ≤ d.scope.cancelled.length
  forgets : c.scope.begun < d.scope.begun → d.lastUsed = none
  remembers : c.scope.begun = d.scope.begun → d.lastUsed = c.lastUsed
  /-- Any beginning or end of a scope drops mastership. -/
  drops : c.scope.begun < d.scope.begun ∨
    c.scope.cancelled.length < d.scope.cancelled.length → d.mastership = .notMaster
  keeps : c.scope.begun = d.scope.begun →
    c.scope.cancelled.length = d.scope.cancelled.length → d.mastership = c.mastership

namespace Ages

theorem refl (c : Standing) : Ages c c :=
  ⟨Nat.le_refl _, Nat.le_refl _, fun h => absurd h (Nat.lt_irrefl _), fun _ => rfl,
    fun h => h.elim (fun h => absurd h (Nat.lt_irrefl _)) fun h => absurd h (Nat.lt_irrefl _),
    fun _ _ => rfl⟩

theorem trans {c d e : Standing} (h : Ages c d) (h' : Ages d e) : Ages c e := by
  have hb := h.begun
  have hb' := h'.begun
  have hc := h.cancelled
  have hc' := h'.cancelled
  refine ⟨Nat.le_trans hb hb', Nat.le_trans hc hc', ?_, ?_, ?_, ?_⟩
  · intro hlt
    by_cases hn : d.scope.begun < e.scope.begun
    · exact h'.forgets hn
    · rw [h'.remembers (by omega), h.forgets (by omega)]
  · intro he
    rw [h'.remembers (by omega), h.remembers (by omega)]
  · intro hlt
    by_cases hn : d.scope.begun < e.scope.begun ∨
        d.scope.cancelled.length < e.scope.cancelled.length
    · exact h'.drops hn
    · rw [h'.keeps (by omega) (by omega), h.drops (by omega)]
  · intro he hl
    rw [h'.keeps (by omega) (by omega), h.keeps (by omega) (by omega)]

/-- The scopes stay as many as they were. -/
theorem of_same {c d : Standing} (hb : d.scope.begun = c.scope.begun)
    (hc : d.scope.cancelled = c.scope.cancelled) (hl : d.lastUsed = c.lastUsed)
    (hm : d.mastership = c.mastership) : Ages c d := by
  refine ⟨Nat.le_of_eq hb.symm, Nat.le_of_eq (by rw [hc]), ?_, fun _ => hl, ?_, fun _ _ => hm⟩
  · intro h
    omega
  · intro h
    rw [hb, hc] at h
    omega

/-- A scope ends. -/
theorem of_end {c d : Standing} (hb : d.scope.begun = c.scope.begun) (token : Token)
    (hc : d.scope.cancelled = token :: c.scope.cancelled) (hl : d.lastUsed = c.lastUsed)
    (hm : d.mastership = .notMaster) : Ages c d := by
  have hlen : d.scope.cancelled.length = c.scope.cancelled.length + 1 := by
    rw [hc]
    rfl
  refine ⟨Nat.le_of_eq hb.symm, by omega, ?_, fun _ => hl, fun _ => hm, ?_⟩
  · intro h
    omega
  · intro _ h
    omega

/-- A scope begins. -/
theorem of_begin {c d : Standing} (hb : d.scope.begun = c.scope.begun + 1)
    (hc : d.scope.cancelled = c.scope.cancelled) (hl : d.lastUsed = none)
    (hm : d.mastership = .notMaster) : Ages c d := by
  refine ⟨by omega, Nat.le_of_eq (by rw [hc]), fun _ => hl, ?_, fun _ => hm, ?_⟩
  · intro h
    omega
  · intro h
    omega

end Ages

/-- A close ends the scope in place, if there is one. -/
theorem ages_close {c : Standing} (h : c.Sound) :
    Ages c { c with scope := c.scope.close.2, mastership := .notMaster } := by
  cases hc : c.scope.current with
  | some token =>
    rw [Scope.close_of_current hc]
    exact .of_end rfl token rfl rfl rfl
  | none =>
    rw [Scope.close_of_none hc]
    refine .of_same rfl rfl rfl ?_
    rcases h with h | h
    · exact h.symm
    · rw [hc] at h
      cases h

/-- A calm incident lets the client age. -/
theorem ages_affect {i : Incident} (hi : i.isCalm = true) (id : ClientId) {c : Standing}
    (h : c.Sound) : Ages c (i.affect id c) ∧ (i.affect id c).Sound := by
  -- an incident of another client changes nothing
  have same : Ages c c ∧ c.Sound := ⟨.refl c, h⟩
  cases i with
  | claimed _ _ => cases hi
  | heard _ _ _ => cases hi
  | created id' key =>
    simp only [Incident.affect]
    split
    · exact ⟨.of_same rfl rfl rfl rfl, h⟩
    · exact same
  | began id' token afterFailure =>
    simp only [Incident.affect]
    split
    · exact ⟨.of_begin rfl rfl rfl rfl, .inl rfl⟩
    · exact same
  | opened id' token afterFailure st =>
    simp only [Incident.affect]
    split
    · exact ⟨.of_begin rfl rfl rfl rfl, .inl rfl⟩
    · exact same
  | closed id' wasOpen =>
    simp only [Incident.affect]
    split
    · exact ⟨ages_close h, .inl rfl⟩
    · exact same
  | released id' wasOpen =>
    simp only [Incident.affect]
    split
    · exact ⟨ages_close h, .inl rfl⟩
    · exact same
  | lost id' token reason =>
    simp only [Incident.affect]
    split
    · exact ⟨.of_end rfl token rfl rfl rfl, .inl rfl⟩
    · exact same
  | _ => exact same

/-- So does a sequence of them. -/
theorem ages_foldl {is : List Incident} (hi : ∀ i ∈ is, i.isCalm = true) (id : ClientId)
    {c : Standing} (h : c.Sound) : Ages c (is.foldl (Incident.affect id) c) := by
  induction is generalizing c with
  | nil => exact .refl c
  | cons i rest ih =>
    obtain ⟨ha, hs⟩ := ages_affect (hi i List.mem_cons_self) id h
    exact ha.trans (ih (fun j hj => hi j (List.mem_cons_of_mem _ hj)) hs)

namespace Scenario

/-! ### What a happening changes -/

/-- The last claim and the mastership after one more happening. -/
def advanceBy (state : Option ElectionId × MastershipState) : Happening →
    Option ElectionId × MastershipState
  | .claimed election => (some election, .pending)
  | .updated election => (state.1, Arbiter.verdict state.1 election)
  | .began => (none, .notMaster)
  | .ended => (state.1, .notMaster)

/-- One more happening changes the last claim if it is a claim or the begin of a scope. -/
theorem lastClaim_concat (h : List Happening) (a : Happening) :
    lastClaim (h ++ [a]) =
      match a with
      | .claimed election => some election
      | .began => none
      | .updated _ | .ended => lastClaim h := by
  unfold lastClaim
  rw [List.filter_append]
  cases a <;> simp [Happening.decidesClaim]

/-- The claim and the mastership after one more happening follow from those before it. -/
theorem state_concat (h : List Happening) (a : Happening) :
    (lastClaim (h ++ [a]), mastershipOf (h ++ [a])) = advanceBy (lastClaim h, mastershipOf h) a := by
  have hm : mastershipOf (h ++ [a]) = (advanceBy (lastClaim h, mastershipOf h) a).2 := by
    unfold mastershipOf
    rw [List.getLast?_append, List.getLast?_singleton, Option.some_or, lastClaim_concat]
    cases a with
    | claimed election => rfl
    | updated election =>
      unfold advanceBy Arbiter.verdict
      cases election <;> cases lastClaim h <;> simp
    | began => rfl
    | ended => rfl
  rw [hm, lastClaim_concat]
  cases a <;> rfl

/-- The last claim and the mastership after some more happenings, one by one. -/
theorem state_append (h hs : List Happening) :
    (lastClaim (h ++ hs), mastershipOf (h ++ hs)) =
      hs.foldl advanceBy (lastClaim h, mastershipOf h) := by
  induction hs generalizing h with
  | nil => rw [List.append_nil]; rfl
  | cons a rest ih => rw [List.append_cons, ih, state_concat, List.foldl_cons]

/-! ### The incidents of a move -/

/-- A call neither claims nor hears of a master. -/
theorem isCalm_course {id : ClientId} {opening : Bool} {is : List Incident}
    (h : Course id opening is) : ∀ i ∈ is, i.isCalm = true := by
  intro i hi
  cases h.ofCall hi <;> rfl

/-- Nor does a parting. -/
theorem isCalm_parting {id : ClientId} {t : System} {rest : List Incident}
    (h : System.Parting id t rest) : ∀ i ∈ rest, i.isCalm = true := by
  intro i hi
  obtain ⟨-, wasOpen, rfl⟩ := h.released hi
  rfl

/-- Nor does a goodbye. -/
theorem isCalm_goodbye {x : Scenario} {action : Action} {t : System} {id : ClientId}
    {rest : List Incident} (h : x.Goodbye action t id rest) : ∀ i ∈ rest, i.isCalm = true := by
  intro i hi
  obtain ⟨wasOpen, ⟨rfl, -⟩ | ⟨rfl, -⟩⟩ := h.closed_or_released hi <;> rfl

/-- Only a claim of its own makes an action one. -/
theorem isCalm_causes {x : Scenario} {action : Action} (hn : ∀ client election,
    action ≠ .run client election) {i : Incident} (h : x.Causes action i) : i.isCalm = true := by
  cases i with
  | claimed id election =>
    obtain ⟨client, ha, -⟩ := h
    exact absurd ha (hn client election)
  | heard _ _ _ => exact h.elim
  | _ => rfl

theorem listens_of_head {s : System} {task : Task} (h : s.ready.head? = some task)
    (ht : ∀ st, task ≠ .listen st) : s.listens = none := by
  unfold System.listens
  cases hr : s.ready with
  | nil => rfl
  | cons task' rest =>
    rw [hr] at h
    cases h
    cases task with
    | listen st => exact absurd rfl (ht st)
    | serve st => rfl
    | resume call => rfl

/-- A step of a task is calm, unless an inbound loop takes a frame. -/
theorem polls_calm {s t : System} {is : List Incident} (h : System.Polls s t is) :
    (s.hears = none ∧ ∀ i ∈ is, i.isCalm = true) ∨
      ∃ id st frame, s.hears = some (id, frame) ∧ is = [.heard id st frame] := by
  -- only an inbound loop hears
  have deaf : s.listens = none → s.hears = none := by
    intro hn
    rw [System.hears, hn]
  cases h with
  | rests hr =>
    refine .inl ⟨deaf ?_, by simp⟩
    unfold System.listens
    rw [hr]
  | serves st frame hr =>
    exact .inl ⟨deaf (listens_of_head hr (by simp)), by simp [Incident.isCalm]⟩
  | drains st hr => exact .inl ⟨deaf (listens_of_head hr (by simp)), by simp [Incident.isCalm]⟩
  | hears id st frame hr hh => exact .inr ⟨id, st, frame, hh, rfl⟩
  | leaves st hr hn => exact .inl ⟨deaf hn, by simp [Incident.isCalm]⟩
  | loses id token st reason hr hl =>
    refine .inl ⟨?_, by simp [Incident.isCalm]⟩
    unfold System.loses at hl
    unfold System.hears
    split at hl <;> simp_all
  | idles task hr hh hl => exact .inl ⟨hh, by simp [Incident.isCalm]⟩
  | resumes call is rest hr hc hp =>
    refine .inl ⟨deaf (listens_of_head hr (by simp)), ?_⟩
    intro i hi
    rcases List.mem_cons.mp hi with rfl | hi
    · rfl
    · rcases List.mem_append.mp hi with hi | hi
      · exact isCalm_course hc i hi
      · exact isCalm_parting hp i hi

/-! ### A client is what its history says -/

/-- The last used election id of a client and its mastership. -/
def mark (x : Scenario) (id : ClientId) : Option ElectionId × MastershipState :=
  ((x.system.client id).arbiter.lastUsed, (x.system.client id).arbiter.mastership.value)

/-- A client without a scope is not master. -/
theorem Valid.sound {x : Scenario} (hv : x.Valid) (id : ClientId) :
    (x.system.client id).standing.Sound := by
  rcases hv.system.mastership id with h | h
  · exact .inl h
  · exact .inr ((hv.system.scopes id).current_of_open h)

/-- A calm move changes the mark as its scopes say. -/
theorem mark_of_calm {x : Scenario} (hv : x.Valid) {id : ClientId} {m : Move} (is : List Incident)
    (hl : x.system.Leads is (x.make m).system) (hi : ∀ i ∈ is, i.isCalm = true)
    (hc : x.claimsOf id m = []) (hu : x.updatesOf id m = [])
    (hm : x.closesBy id m = true →
      ((x.make m).system.client id).arbiter.mastership.value = .notMaster) :
    (x.make m).mark id = (x.happenings id m).foldl advanceBy (x.mark id) := by
  have ha := ages_foldl hi id (hv.sound id)
  rw [← hl.standing hv.system id] at ha
  obtain ⟨hb, hlen, hforget, hremember, hdrop, hkeep⟩ := ha
  dsimp only [Client.standing] at hb hlen hforget hremember hdrop hkeep
  unfold happenings scopesOf
  rw [hc, hu, List.nil_append, List.nil_append]
  simp only [mark]
  by_cases hlt : (x.system.client id).scope.begun < ((x.make m).system.client id).scope.begun
  · rw [if_pos hlt, hforget hlt, hdrop (.inl hlt)]
    split <;> rfl
  · rw [if_neg hlt, hremember (by omega), List.nil_append]
    split
    · next he =>
      -- a scope has ended, or a close has found none in place
      have hn : ((x.make m).system.client id).arbiter.mastership.value = .notMaster := by
        rcases he with he | he
        · exact hdrop (.inr he)
        · exact hm he
      rw [hn]
      rfl
    · next he =>
      rw [hkeep (by omega) (by omega)]
      rfl

/-- Mastership that is dropped stays dropped where the client neither claims nor hears of a master. -/
theorem notMaster_foldl {is : List Incident} (hi : ∀ i ∈ is, i.isCalm = true) (id : ClientId)
    {c : Standing} (h : c.mastership = .notMaster) :
    (is.foldl (Incident.affect id) c).mastership = .notMaster := by
  have ha := ages_foldl hi id (.inl h)
  by_cases hd : c.scope.begun < (is.foldl (Incident.affect id) c).scope.begun ∨
      c.scope.cancelled.length < (is.foldl (Incident.affect id) c).scope.cancelled.length
  · exact ha.drops hd
  · have hb := ha.begun
    have hc := ha.cancelled
    rw [ha.keeps (by omega) (by omega), h]

theorem scopesOf_eq_nil {x : Scenario} {id : ClientId} {m : Move}
    (hs : ((x.make m).system.client id).scope = (x.system.client id).scope)
    (hc : x.closesBy id m = false) : x.scopesOf id m = [] := by
  unfold scopesOf
  rw [hs, hc]
  simp

theorem mark_of_standing {x : Scenario} {id : ClientId} {c : Standing}
    (h : (x.system.client id).standing = c) : x.mark id = (c.lastUsed, c.mastership) := by
  rw [← h]
  rfl

/-- A claim changes the mark if it could be made. -/
theorem mark_run {x : Scenario} (hv : x.Valid) (id : ClientId) (client : String)
    (election : ElectionId) :
    (x.make (.act (.run client election))).mark id =
      (x.happenings id (.act (.run client election))).foldl advanceBy (x.mark id) := by
  cases hf : x.system.handles.find? client with
  | none =>
    have hx : x.make (.act (.run client election)) = x := by
      simp only [make, act, onClient, hf]
    have hc : x.claimsOf id (.act (.run client election)) = [] := by
      simp only [claimsOf, hf]
      simp
    refine mark_of_calm hv [] ?_ (by simp) hc rfl (by simp [closesBy, closes])
    rw [hx]
    exact .refl _
  | some id' =>
    have hk := hv.system.handles id' (Directory.mem_values_of_find? hf)
    have hx : (x.act (.run client election)) =
        x.sent (x.system.runForMastership id' election) := by
      simp only [act, onClient, hf]
    rcases System.leads_runForMastership hk election with ⟨hn, hl⟩ | ⟨⟨e, he⟩, q⟩
    · have hdone : (x.act (.run client election)).2 = .done := by
        rw [hx, sent, hn]
      have hstand := hl.standing hv.system id
      rw [show (x.system.runForMastership id' election).1 =
        (x.make (.act (.run client election))).system by rw [make, hx]; rfl,
        List.foldl_cons, List.foldl_nil, Incident.affect] at hstand
      have hscope : ((x.make (.act (.run client election))).system.client id).scope =
          (x.system.client id).scope := by
        have h := congrArg Standing.scope hstand
        split at h <;> exact h
      rw [happenings, scopesOf_eq_nil hscope rfl, mark_of_standing hstand]
      -- The claim was made: it is the only happening, and it is one of this client only.
      by_cases hi : id' = id
      · subst hi
        rw [if_pos rfl, claimsOf, if_pos ⟨hf, hdone⟩]
        rfl
      · rw [if_neg hi, claimsOf, if_neg (by simp [hf, hi])]
        rfl
    · have hc : x.claimsOf id (.act (.run client election)) = [] := by
        have hne : (x.act (.run client election)).2 ≠ .done := by
          rw [hx, sent, he]
          simp
        simp [claimsOf, hne]
      refine mark_of_calm hv [] ?_ (by simp) hc rfl (by simp [closesBy, closes])
      rw [make, hx]
      exact .of_quiet q

/-- A frame changes the mark if it is an arbitration update about the client's device. -/
theorem mark_heard {x : Scenario} (hv : x.Valid) (id : ClientId) {id' : ClientId} {st : StreamId}
    {frame : StreamResponse} (hh : x.system.hears = some (id', frame))
    (hl : x.system.Leads [.heard id' st frame] (x.make .poll).system) :
    (x.make .poll).mark id = (x.happenings id .poll).foldl advanceBy (x.mark id) := by
  have hstand := hl.standing hv.system id
  rw [List.foldl_cons, List.foldl_nil] at hstand
  -- what is not about mastership leaves the mark and is not in the history
  have same : ((x.make .poll).system.client id).standing = (x.system.client id).standing →
      x.updatesOf id .poll = [] →
      (x.make .poll).mark id = (x.happenings id .poll).foldl advanceBy (x.mark id) := by
    intro hs hu
    rw [happenings, scopesOf_eq_nil (congrArg Standing.scope hs) rfl, hu, mark_of_standing hs]
    rfl
  cases frame with
  | error e => exact same hstand (by simp [updatesOf, hh])
  | packet wire => exact same hstand (by simp [updatesOf, hh])
  | arbitration update =>
    rw [Incident.affect] at hstand
    -- an update is heeded by the client it has come to, and only for its own device number
    by_cases hd : id' = id ∧ update.device = (x.system.client id).standing.key.number
    · rw [if_pos hd] at hstand
      have hu : x.updatesOf id .poll = [.updated update.election] := by
        rw [updatesOf, hh]
        exact if_pos hd
      rw [happenings, scopesOf_eq_nil (congrArg Standing.scope hstand) rfl, mark_of_standing hstand,
        hu]
      rfl
    · rw [if_neg hd] at hstand
      refine same hstand ?_
      rw [updatesOf, hh]
      exact if_neg hd

/-- An action that closes a client's session leaves it without mastership. -/
theorem notMaster_of_goodbye {x : Scenario} (hv : x.Valid) {action : Action} {t : System}
    {id id' : ClientId} {front rest : List Incident} (hl : x.system.Leads (front ++ rest) t)
    (hr : ∀ i ∈ rest, i.isCalm = true) (hg : x.Goodbye action t id' rest)
    (hc : x.closes action id = true) :
    (t.client id).arbiter.mastership.value = .notMaster := by
  cases hg with
  | parts hn hp =>
    rw [hn id] at hc
    cases hc
  | @closes wasOpen rest hc' hp =>
    -- the session that is closed is the client's own
    have he : id' = id := by
      unfold closes at hc hc'
      split at hc
      · have h := (of_decide_eq_true hc').symm.trans (of_decide_eq_true hc)
        exact Option.some.inj h
      · have h := (of_decide_eq_true hc').symm.trans (of_decide_eq_true hc)
        exact Option.some.inj h
      · cases hc
    subst he
    have hstand := congrArg Standing.mastership (hl.standing hv.system id')
    rw [List.foldl_append, List.foldl_cons] at hstand
    refine hstand.trans (notMaster_foldl (fun i h => hr i (List.mem_cons_of_mem _ h)) id' ?_)
    rw [Incident.affect, if_pos rfl]

/-- Every move changes the mark of a client as its happenings say. -/
theorem mark_make {x : Scenario} (hv : x.Valid) (id : ClientId) (m : Move) :
    (x.make m).mark id = (x.happenings id m).foldl advanceBy (x.mark id) := by
  by_cases hrun : ∃ client election, m = .act (.run client election)
  · obtain ⟨client, election, rfl⟩ := hrun
    exact mark_run hv id client election
  · rcases observes_or_leads hv m with ⟨posted, outcome, rfl⟩ | ⟨is, hmake, hl⟩
    · rw [happenings, scopesOf_eq_nil rfl rfl]
      rfl
    · generalize ht : (x.make m).system = t at hmake
      cases hmake with
      | acts action front id' rest hf hg =>
        -- every action but a claim leaves the marks to others
        have hne : ∀ client election, action ≠ .run client election := by
          rintro client election rfl
          exact hrun ⟨client, election, rfl⟩
        have hfront : ∀ i ∈ front, i.isCalm = true := fun i h => isCalm_causes hne (hf i h)
        have hrest := isCalm_goodbye hg
        rw [← ht] at hg
        refine mark_of_calm hv _ hl ?_ ?_ rfl ?_
        · intro i hi
          exact (List.mem_append.mp hi).elim (hfront i) (hrest i)
        · unfold claimsOf
          split
          · next client election h =>
            cases h
            exact absurd rfl (hne client election)
          · rfl
        · intro hc
          exact notMaster_of_goodbye hv hl hrest hg hc
      | plays name request id' is rest hc hp =>
        refine mark_of_calm hv _ hl ?_ rfl rfl (by simp [closesBy])
        intro i hi
        exact (List.mem_append.mp hi).elim (isCalm_course hc i) (isCalm_parting hp i)
      | foreign name request hf =>
        exact mark_of_calm hv _ hl (by simp [Incident.isCalm]) rfl rfl (by simp [closesBy])
      | advances span => exact mark_of_calm hv _ hl (by simp) rfl rfl (by simp [closesBy])
      | polls is hp =>
        -- a task that runs hears an update, or nothing about mastership
        rcases polls_calm hp with ⟨hh, hi⟩ | ⟨id', st, frame, hh, rfl⟩
        · refine mark_of_calm hv _ hl hi rfl ?_ (by simp [closesBy])
          rw [updatesOf, hh]
        · exact mark_heard hv id hh hl

/-- Along a run the mark of a client follows its history. -/
theorem mark_after {x : Scenario} (hv : x.Valid) (id : ClientId) (ms : List Move) :
    (x.after ms).mark id = (x.history id ms).foldl advanceBy (x.mark id) := by
  induction ms generalizing x with
  | nil => rfl
  | cons m rest ih => rw [after_cons, ih (hv.make m), mark_make hv, history, List.foldl_append]

/-- After every list of moves, the last used election id of a client is that of its last claim since
its last scope began, its mastership is what has happened last says, and only an open session has
mastership or waits for it. -/
theorem mastership_history (devices : List String) (confs : List Pipeconf)
    (bindings : List (String × PipeconfId)) (config : ConfigChange) (capacity : Nat)
    (ms : List Move) (id : ClientId) :
    let x := initial devices confs bindings config capacity
    let c := (x.after ms).system.client id
    c.arbiter.lastUsed = lastClaim (x.history id ms) ∧
      c.arbiter.mastership.value = mastershipOf (x.history id ms) ∧
      (c.arbiter.mastership.value = .notMaster ∨ c.scope.isOpen = true) := by
  intro x c
  have hv : x.Valid := valid_initial devices confs bindings config capacity
  have hm := mark_after hv id ms
  have hs := state_append [] (x.history id ms)
  rw [List.nil_append] at hs
  have hmark : x.mark id = (lastClaim [], mastershipOf []) := rfl
  rw [hmark, ← hs] at hm
  obtain ⟨hl, hv'⟩ := Prod.mk.inj hm
  exact ⟨hl, hv', (hv.after ms).system.mastership id⟩

end Scenario

end P4Control
