import P4Control.Proofs.Transitions

namespace P4Control

/-!
# Calls that open a session are served in turn

However many calls that open the session of a client are started while one of them sets up the stream,
they are served one after the other, in the order in which they were started.  Each asks for a stream of
its own, until one succeeds; those behind it find the session open and have nothing to do.  If the open
session is lost in between, the next one in line begins anew.

* `Entry`, `Scenario.service` — what a run shows of these calls.
* `Stage`, `Serves` — the way in which calls in a line are served.
* `System.Shows` — a client in a stage.
* `Scenario.Undisturbed` — a move in which nobody closes the session or drops such a call.
* `System.ServesOn`, `setUp_serves`, `expire_serves` — what a call shows that has its turn.
* `serves_make` — what a move shows.
* `opens_served` — calls are served in turn along every calm run.
-/

/-! ### How calls are served -/

/-- What can be seen of a call that opens a session. -/
inductive Entry where
  /-- It asks its switch for a stream, which answers. -/
  | asks (call : CallId) (answer : Answer Unit) (now : Duration)
  /-- An event is posted while it runs. -/
  | posts (event : Event)
  | ends (call : CallId) (result : CallResult) (now : Duration)
  /-- The open session is lost: its stream has ended or failed, or a call has found the channel
  unavailable. -/
  | loses
deriving DecidableEq, Repr

/-- How far the calls in a line have come. -/
inductive Stage where
  /-- There is no session.  The flag tells whether the last one has failed. -/
  | closed (failed : Bool)
  /-- The first in line has asked for a stream, and waits for the answer. -/
  | asking (since : Duration)
  /-- The session is open. -/
  | live
deriving DecidableEq, Repr

/-- The calls in a line are served one after the other.  What they show leads from a stage and a line to
another stage and to those who are left in line. -/
inductive Serves (id : ClientId) (device : DeviceId) (limit : Duration) :
    Stage → List Nat → List Entry → Stage → List Nat → Prop
  | rests (stage : Stage) (line : List Nat) : Serves id device limit stage line [] stage line
  /-- The first in line gets a stream.  The session opens, and one event tells so. -/
  | opens (failed : Bool) (n : Nat) (now : Duration) {line left : List Nat} {log : List Entry}
      {stage : Stage} (h : Serves id device limit .live line log stage left) :
      Serves id device limit (.closed failed) (n :: line)
        (.asks ⟨id, n⟩ (.reply ()) now ::
          .posts (if failed then .channelReconnected device else .channelOpen device) ::
          .ends ⟨id, n⟩ (.returned .done) now :: log) stage left
  /-- The first in line gets an answer that makes it fail, with an error of its own. -/
  | fails (failed : Bool) (n : Nat) (now : Duration) (answer : Answer Unit) (b : Setback)
      (ha : answer.setback? .openStream limit (fun _ => none) = some b)
      {line left : List Nat} {log : List Entry} {stage : Stage}
      (h : Serves id device limit (.closed true) line log stage left) :
      Serves id device limit (.closed failed) (n :: line)
        (.asks ⟨id, n⟩ answer now :: ((b.events device).map .posts ++
          .ends ⟨id, n⟩ (.failed (b.error device)) now :: log)) stage left
  /-- The first in line gets no answer, and waits. -/
  | waits (failed : Bool) (n : Nat) (now : Duration) (hl : limit.nanoseconds ≠ 0)
      {line left : List Nat} {log : List Entry} {stage : Stage}
      (h : Serves id device limit (.asking now) (n :: line) log stage left) :
      Serves id device limit (.closed failed) (n :: line) (.asks ⟨id, n⟩ .silence now :: log) stage
        left
  /-- The time of the first in line is up. -/
  | expires (since now : Duration) (n : Nat)
      (hd : since.nanoseconds + limit.nanoseconds ≤ now.nanoseconds)
      {line left : List Nat} {log : List Entry} {stage : Stage}
      (h : Serves id device limit (.closed true) line log stage left) :
      Serves id device limit (.asking since) (n :: line)
        (.ends ⟨id, n⟩ (.failed ((Setback.unanswered .openStream limit).error device)) now :: log)
        stage left
  /-- The first in line finds the session open. -/
  | passes (n : Nat) (now : Duration) {line left : List Nat} {log : List Entry} {stage : Stage}
      (h : Serves id device limit .live line log stage left) :
      Serves id device limit .live (n :: line) (.ends ⟨id, n⟩ (.returned .done) now :: log) stage left
  /-- The session is lost, and the next in line begins anew. -/
  | loses {line left : List Nat} {log : List Entry} {stage : Stage}
      (h : Serves id device limit (.closed true) line log stage left) :
      Serves id device limit .live line (.loses :: log) stage left

namespace Serves

variable {id : ClientId} {device : DeviceId} {limit : Duration} {p q r : Stage}
  {line left : List Nat} {log log' : List Entry}

/-- Those who join the line get behind the others. -/
theorem append (h : Serves id device limit p line log q left) (more : List Nat) :
    Serves id device limit p (line ++ more) log q (left ++ more) := by
  induction h with
  | rests => exact .rests _ _
  | opens failed n now _ ih => exact .opens failed n now ih
  | fails failed n now answer b ha _ ih => exact .fails failed n now answer b ha ih
  | waits failed n now hl _ ih => exact .waits failed n now hl ih
  | expires since now n hd _ ih => exact .expires since now n hd ih
  | passes n now _ ih => exact .passes n now ih
  | loses _ ih => exact .loses ih

theorem trans {left' : List Nat} (h : Serves id device limit p line log q left)
    (h' : Serves id device limit q left log' r left') :
    Serves id device limit p line (log ++ log') r left' := by
  induction h with
  | rests => exact h'
  | opens failed n now _ ih => exact .opens failed n now (ih h')
  | fails failed n now answer b ha _ ih =>
    rw [List.cons_append, List.append_assoc, List.cons_append]
    exact .fails failed n now answer b ha (ih h')
  | waits failed n now hl _ ih => exact .waits failed n now hl (ih h')
  | expires since now n hd _ ih => exact .expires since now n hd (ih h')
  | passes n now _ ih => exact .passes n now (ih h')
  | loses _ ih => exact .loses (ih h')

end Serves

namespace System

variable {s t u : System} {K : CallId} {id : ClientId} {limit : Duration} {stage : Stage}
  {stray : ClientId → Token → Prop}

/-- What can be seen of a call that runs from `s` to `t`: how often it has asked its switch for a stream,
what has been posted, and what has ended. -/
def account (s : System) (K : CallId) (t : System) : List Entry :=
  let name := (s.client K.client).switch
  let w := s.switch name
  List.replicate (w.streamsAsked (t.switch name)) (.asks K w.streamAnswer s.now) ++
    (t.journal.drop s.journal.length).map .posts ++
    (t.finished.drop s.finished.length).map fun f => .ends f.call f.result t.now

/-- A client is in a stage.  Whoever is in line waits for its turn, but for one who has asked for a
stream. -/
inductive Shows (s : System) (id : ClientId) (limit : Duration) : Stage → Prop
  | closed (hc : (s.client id).scope.current = none)
      (hw : ∀ n ∈ (s.client id).turns, s.WaitsFor ⟨id, n⟩ .turn) :
      Shows s id limit (.closed (s.client id).scope.failed)
  | asking (n : Nat) (token : Token) (since : Duration)
      (hc : (s.client id).scope.current = some token) (ho : (s.client id).scope.isOpen = false)
      (hh : (s.client id).turns.head? = some n)
      (hw : s.WaitsFor ⟨id, n⟩ (.answer .openStream token limit
        ⟨since.nanoseconds + limit.nanoseconds⟩)) : Shows s id limit (.asking since)
  | live (ho : (s.client id).scope.isOpen = true)
      (hw : ∀ n ∈ (s.client id).turns, s.WaitsFor ⟨id, n⟩ .turn) : Shows s id limit .live

/-- Nothing changes in what a session or a switch has to do with. -/
structure Untouched (s t : System) : Prop where
  switches : t.switches = s.switches
  streams : t.streams = s.streams
  journal : t.journal = s.journal
  scope : ∀ id, (t.client id).scope = (s.client id).scope
  arbiter : ∀ id, (t.client id).arbiter = (s.client id).arbiter

/-- A call that runs from `s` to `t` serves the line on, and touches nothing if the session is open. -/
def ServesOn (s : System) (K : CallId) (limit : Duration) (stage : Stage) (line : List Nat)
    (t : System) : Prop :=
  (∃ next, Serves K.client (s.client K.client).key.device limit stage line (s.account K t) next
      (t.client K.client).turns ∧ t.Shows K.client limit next) ∧
    (stage = .live → Untouched s t)

/-! ### What a call shows -/

theorem account_of_turn {asked : Nat} {events : List Event} {result : Option CallResult}
    (h : s.Turn K asked events result t) :
    s.account K t =
      List.replicate asked (.asks K (s.switch (s.client K.client).switch).streamAnswer s.now) ++
        events.map .posts ++ result.toList.map fun r => .ends K r s.now := by
  unfold account
  dsimp only
  rw [h.asked, h.journal, h.finished, h.now, List.drop_left, List.drop_left, List.map_map]
  rfl

/-- A call that has not run shows nothing. -/
theorem account_of_same (hs : t.switches = s.switches) (hj : t.journal = s.journal)
    (hf : t.finished = s.finished) : s.account K t = [] := by
  unfold account System.switch
  dsimp only
  rw [hs, hj, hf, Switch.streamsAsked_self, List.drop_length, List.drop_length]
  rfl

theorem account_congr (hs : u.switches = s.switches) (hj : u.journal = s.journal)
    (hf : u.finished = s.finished) (hn : u.now = s.now)
    (hw : (u.client K.client).switch = (s.client K.client).switch) :
    s.account K t = u.account K t := by
  unfold account System.switch
  rw [hs, hj, hf, hn, hw]

/-- What comes before the call runs makes no difference if it changes no more than the line. -/
theorem ServesOn.after {line : List Nat} (h : u.ServesOn K limit stage line t)
    (hs : u.switches = s.switches) (hst : u.streams = s.streams) (hj : u.journal = s.journal)
    (hf : u.finished = s.finished) (hn : u.now = s.now)
    (hc : ∀ id, (u.client id).scope = (s.client id).scope ∧
      (u.client id).arbiter = (s.client id).arbiter)
    (hk : (u.client K.client).key = (s.client K.client).key)
    (hw : (u.client K.client).switch = (s.client K.client).switch) :
    s.ServesOn K limit stage line t := by
  obtain ⟨⟨next, hserves, hshows⟩, hlive⟩ := h
  rw [hk, ← account_congr hs hj hf hn hw] at hserves
  exact ⟨⟨next, hserves, hshows⟩, fun hl =>
    { switches := (hlive hl).switches.trans hs
      streams := (hlive hl).streams.trans hst
      journal := (hlive hl).journal.trans hj
      scope := fun id => ((hlive hl).scope id).trans (hc id).1
      arbiter := fun id => ((hlive hl).arbiter id).trans (hc id).2 }⟩

/-- A call that has to wait shows nothing. -/
theorem Untouched.servesOn (h : Untouched s t) (hf : t.finished = s.finished)
    (hs : t.Shows K.client limit stage) :
    s.ServesOn K limit stage (t.client K.client).turns t := by
  refine ⟨⟨stage, ?_, hs⟩, fun _ => h⟩
  rw [account_of_same h.switches h.journal hf]
  exact .rests _ _

theorem Completes.untouched {result : CallResult} (h : s.Completes K result t) : Untouched s t :=
  ⟨h.switches, h.streams, h.journal, h.scope, h.arbiter⟩

theorem Completes.turn {result : CallResult} (h : s.Completes K result t)
    (hturn : (s.client K.client).turns.head? = some K.serial) : s.Turn K 0 [] (some result) t := by
  refine ⟨?_, h.journal.trans (List.append_nil _).symm, h.finished, h.now, ?_⟩
  · unfold System.switch
    rw [h.switches]
    exact Switch.streamsAsked_self _
  · rw [h.turns]
    obtain ⟨rest, hrest⟩ := List.head?_eq_some_iff.mp hturn
    simp [hrest]

/-- A call that has its turn makes its attempt, or finds the session open. -/
theorem setUp_serves (hv : (s.client K.client).scope.Valid)
    (hp : (s.client K.client).scope.current = none ∧ stage = .closed (s.client K.client).scope.failed ∨
      (s.client K.client).scope.isOpen = true ∧ stage = .live)
    (hturn : (s.client K.client).turns.head? = some K.serial)
    (hline : ∀ n ∈ (s.client K.client).turns.tail, (s.setUp K).WaitsFor ⟨K.client, n⟩ .turn)
    (hh : (s.setUp K).isHeld K.client = true) :
    s.ServesOn K (s.client K.client).config.shortTimeout stage (s.client K.client).turns
      (s.setUp K) := by
  obtain ⟨rest, hrest⟩ := List.head?_eq_some_iff.mp hturn
  have tail : ∀ {result : CallResult} {asked : Nat} {events : List Event},
      s.Turn K asked events (some result) (s.setUp K) →
      ((s.setUp K).client K.client).turns = rest := by
    intro result asked events ht
    rw [ht.turns, hrest]
    rfl
  have waits : ∀ {turns : List Nat}, turns = rest →
      ∀ n ∈ turns, (s.setUp K).WaitsFor ⟨K.client, n⟩ .turn := by
    rintro turns rfl n hn
    exact hline n (by rw [hrest]; exact hn)
  -- No session is there, and the call asks for a stream; or one is, and the call passes.
  rcases hp with ⟨hc, rfl⟩ | ⟨ho, rfl⟩
  · refine ⟨?_, fun h => by cases h⟩
    have hattempt := setUp_attempts hv hc hturn hh
    generalize hanswer : (s.switch (s.client K.client).switch).streamAnswer = answer at hattempt
    cases hattempt with
    | opens ht ho =>
      have hleft := tail ht
      rw [account_of_turn ht, hanswer, hleft, hrest]
      exact ⟨.live, .opens _ _ _ (.rests _ _), .live ho (waits hleft)⟩
    | fails _ b ha ht hc' hf =>
      have hleft := tail ht
      have hshows : (s.setUp K).Shows K.client (s.client K.client).config.shortTimeout _ :=
        .closed hc' (waits hleft)
      rw [hf] at hshows
      rw [account_of_turn ht, hanswer, hleft, hrest]
      exact ⟨.closed true, .fails _ _ _ answer b ha (.rests _ _), hshows⟩
    | waits token hl ht hc' ho hw =>
      have hleft : ((s.setUp K).client K.client).turns = (s.client K.client).turns := ht.turns
      rw [account_of_turn ht, hanswer, hleft, hrest]
      exact ⟨.asking s.now, .waits _ _ _ hl (.rests _ _),
        .asking K.serial token s.now hc' ho (by rw [hleft, hturn]) hw⟩
  · have hcomp := setUp_passes (hv.current_of_open ho) hh
    have ht := hcomp.turn hturn
    have hleft := tail ht
    refine ⟨⟨.live, ?_, .live (by rw [hcomp.scope, ho]) (waits hleft)⟩, fun _ => hcomp.untouched⟩
    rw [account_of_turn ht, hleft, hrest]
    exact .passes _ _ (.rests _ _)

/-- The time of a call is up that waits for its stream. -/
theorem expire_serves {token : Token} {since : Duration}
    (hc : (s.client K.client).scope.current = some token)
    (hturn : (s.client K.client).turns.head? = some K.serial)
    (hd : since.nanoseconds + (s.client K.client).config.shortTimeout.nanoseconds ≤
      s.now.nanoseconds)
    (hline : ∀ n ∈ (s.client K.client).turns.tail,
      (s.failCall K .openStream token (.timedOut (s.client K.client).config.shortTimeout)).WaitsFor
        ⟨K.client, n⟩ .turn)
    (hh : (s.failCall K .openStream token
      (.timedOut (s.client K.client).config.shortTimeout)).isHeld K.client = true) :
    let t := s.failCall K .openStream token (.timedOut (s.client K.client).config.shortTimeout)
    Serves K.client (s.client K.client).key.device (s.client K.client).config.shortTimeout
        (.asking since) (s.client K.client).turns (s.account K t) (.closed true)
        (t.client K.client).turns ∧
      t.Shows K.client (s.client K.client).config.shortTimeout (.closed true) := by
  intro t
  obtain ⟨rest, hrest⟩ := List.head?_eq_some_iff.mp hturn
  have hstart : s.Turn K 0 [] none s :=
    ⟨Switch.streamsAsked_self _, (List.append_nil _).symm, (List.append_nil _).symm, rfl, rfl⟩
  obtain ⟨ht, hscope⟩ := hstart.failCall rfl hturn (.timedOut _) hc hh
  -- the call has left the line, and the others are still there
  have hleft : (t.client K.client).turns = rest := by
    rw [ht.turns, hrest]
    rfl
  rw [account_of_turn ht, hleft, hrest]
  refine ⟨.expires _ _ _ hd (.rests _ _), ?_⟩
  have hshows : t.Shows K.client (s.client K.client).config.shortTimeout _ :=
    .closed (by rw [hscope]; rfl) fun n hn => hline n (by rw [hrest]; exact hleft ▸ hn)
  rwa [hscope] at hshows

/-! ### A call that is started -/

/-- Whoever is in line and does not have its turn waits for it. -/
theorem Shows.waits_turn (h : s.Shows id limit stage) (ha : s.Attended none stray) {n : Nat}
    (hn : n ∈ (s.client id).turns.tail) : s.WaitsFor ⟨id, n⟩ .turn := by
  cases h with
  | closed hc hw => exact hw n (List.mem_of_mem_tail hn)
  | live ho hw => exact hw n (List.mem_of_mem_tail hn)
  | asking first token since hc ho hh hw =>
    obtain ⟨rest, hrest⟩ := List.head?_eq_some_iff.mp hh
    have hqueue := ha.queue id
    rw [hrest] at hn hqueue
    have hne : n ≠ first := by
      rintro rfl
      exact (List.nodup_cons.mp hqueue).1 hn
    obtain ⟨call, hm, hs, hopens⟩ := ha.opener (by rw [hrest]; exact List.mem_of_mem_tail hn)
    have htends := ha.tended id call hm (by simp)
    subst hs
    refine ⟨call, hm, rfl, ?_⟩
    generalize call.wait = wait at hopens htends
    cases wait with
    | turn => rfl
    | answer operation token' limit' deadline =>
      -- whoever has asked for a stream is the first in line
      have hop : operation = .openStream := by simpa [Wait.opens] using hopens
      have hhead := htends.2.2.2 hop
      rw [hrest] at hhead
      exact absurd (Option.some.inj hhead).symm hne
    | chunk token' => cases hopens

/-- While the first in line waits for its turn, or nobody is in line, no stream has been asked for. -/
theorem Shows.of_turn (h : s.Shows id limit stage) (ha : s.Attended none stray)
    (hn : ∀ n, (s.client id).turns.head? = some n → s.WaitsFor ⟨id, n⟩ .turn) :
    (s.client id).scope.current = none ∧ stage = .closed (s.client id).scope.failed ∨
      (s.client id).scope.isOpen = true ∧ stage = .live := by
  cases h with
  | closed hc hw => exact .inl ⟨hc, rfl⟩
  | live ho hw => exact .inr ⟨ho, rfl⟩
  | asking first token since hc ho hfirst hw =>
    obtain ⟨call, hm, hs, hwait⟩ := hw
    obtain ⟨other, hm', hs', hwait'⟩ := hn first hfirst
    obtain rfl := eq_of_serial (ha.serials id) hm hm' (hs.trans hs'.symm)
    rw [hwait] at hwait'
    cases hwait'

/-- A client stays in its stage while a call gets in line, or while nobody runs. -/
theorem Shows.mono (h : s.Shows id limit stage)
    (hs : (t.client id).scope = (s.client id).scope)
    (hh : (s.client id).turns.head?.isSome = true →
      (t.client id).turns.head? = (s.client id).turns.head?)
    (ht : ∀ n ∈ (t.client id).turns, n ∈ (s.client id).turns ∨ t.WaitsFor ⟨id, n⟩ .turn)
    (hw : ∀ n ∈ (s.client id).turns, ∀ wait, s.WaitsFor ⟨id, n⟩ wait → t.WaitsFor ⟨id, n⟩ wait) :
    t.Shows id limit stage := by
  cases h with
  | closed hc hturn =>
    rw [← hs]
    exact .closed (by rw [hs, hc]) fun n hn =>
      (ht n hn).elim (fun hin => hw n hin _ (hturn n hin)) fun h => h
  | live ho hturn =>
    exact .live (by rw [hs, ho]) fun n hn =>
      (ht n hn).elim (fun hin => hw n hin _ (hturn n hin)) fun h => h
  | asking n token since hc ho hfirst hask =>
    refine .asking n token since (by rw [hs, hc]) (by rw [hs, ho]) ?_
      (hw n (List.mem_of_mem_head? hfirst) _ hask)
    rw [hh (by rw [hfirst]; rfl), hfirst]

/-- Whoever finds others in line waits for its turn behind them. -/
theorem suspend_serves (ha : s.Attended none stray) (hs : s.Shows id limit stage)
    (hne : (s.client id).turns ≠ []) :
    let u := (s.newCall id).1.enterLine ⟨id, (s.client id).made⟩
    u.ServesOn ⟨id, (s.client id).made⟩ limit stage ((s.client id).turns ++ [(s.client id).made])
      (u.suspend ⟨id, (s.client id).made⟩ .request .turn) := by
  intro u
  obtain ⟨hself, hothers, hcalls⟩ := joined_line s id
  have parts := suspend_parts (s := u) (K := ⟨id, (s.client id).made⟩) .request .turn
  obtain ⟨⟨call, hm, hser⟩, hwait⟩ := wait_suspend u ⟨id, (s.client id).made⟩ .request .turn
  have hturns : ((u.suspend ⟨id, (s.client id).made⟩ .request .turn).client id).turns =
      (s.client id).turns ++ [(s.client id).made] := by
    rw [(parts id).1, hself]
  have huntouched : Untouched u (u.suspend ⟨id, (s.client id).made⟩ .request .turn) := by
    refine ⟨rfl, rfl, rfl, fun id' => (parts id').2.2, fun id' => ?_⟩
    unfold suspend
    rw [client_updateClient]
    split
    · next he =>
      rw [← he]
      split <;> rfl
    · rfl
  rw [← hturns]
  refine huntouched.servesOn (K := ⟨id, (s.client id).made⟩) rfl
    (hs.mono ((parts id).2.2.trans (hothers id).1) (fun hsome => ?_) (fun n hn => ?_)
      fun n hn wait hw => ?_)
  · obtain ⟨first, rest, hcons⟩ := List.exists_cons_of_ne_nil hne
    rw [hturns, hcons]
    rfl
  · rw [hturns] at hn
    rcases List.mem_append.mp hn with hin | hnew
    · exact .inl hin
    · rw [List.mem_singleton.mp hnew]
      exact .inr ⟨call, hm, hser, hwait call hm hser⟩
  -- The serial number is new, so whoever waited before is another call.
  · obtain ⟨other, ho, hser', hw'⟩ := hw
    refine ⟨other, (mem_calls_suspend fun he => ?_).mpr ((hcalls id).symm ▸ ho), hser', hw'⟩
    have hlt := ha.made id other ho
    rw [show other.serial = (s.client id).made from congrArg CallId.serial he] at hlt
    exact Nat.lt_irrefl _ hlt

/-- A call that opens the session is started. -/
theorem openSession_serves (hv : s.Valid) (ha : s.Attended none stray)
    (hs : s.Shows id limit stage) (hl : (s.client id).config.shortTimeout = limit)
    (hh : (s.openSession id).1.isHeld id = true) :
    s.ServesOn ⟨id, (s.client id).made⟩ limit stage ((s.client id).turns ++ [(s.client id).made])
      (s.openSession id).1 := by
  obtain ⟨hself, hothers, -⟩ := joined_line s id
  rw [openSession_eq] at hh ⊢
  let u := (s.newCall id).1.enterLine ⟨id, (s.client id).made⟩
  have hserves : u.ServesOn ⟨id, (s.client id).made⟩ limit stage
      ((s.client id).turns ++ [(s.client id).made])
      (if (s.client id).turns = [] then u.setUp ⟨id, (s.client id).made⟩
        else u.suspend ⟨id, (s.client id).made⟩ .request .turn) := by
    by_cases hfirst : (s.client id).turns = []
    · rw [if_pos hfirst] at hh ⊢
      -- nobody is in front of it: it sets up the stream itself
      have hp := hs.of_turn ha fun n hn => by
        rw [hfirst] at hn
        cases hn
      have h := setUp_serves (s := u) (K := ⟨id, (s.client id).made⟩)
        (by rw [(hothers id).1]; exact hv.scopes id) (by rw [(hothers id).1]; exact hp)
        (by rw [hself, hfirst]; rfl)
        (by rw [hself, hfirst]; simp) hh
      rw [hself, hl] at h
      exact h
    · rw [if_neg hfirst]
      exact suspend_serves ha hs hfirst
  exact hserves.after rfl rfl rfl rfl rfl hothers (by rw [hself]) (by rw [hself])

/-! ### A call that runs again -/

/-- A call that opens the session runs again. -/
theorem resume_serves (hv : s.Valid) (ha : s.Attended none stray) (hopens : s.opens K = true)
    (hs : s.Shows K.client limit stage) (hl : (s.client K.client).config.shortTimeout = limit)
    (hh : (s.dequeue.resume K).isHeld K.client = true) :
    s.ServesOn K limit stage (s.client K.client).turns (s.dequeue.resume K) := by
  obtain ⟨call, hcall, hcopens⟩ := call?_of_opens hopens
  obtain ⟨hm, hser⟩ := mem_of_call? hcall
  have hstroke := stroke_resume hv ha hm hser
  have htends : s.Tends K call.wait := ha.of_waitsFor ⟨call, hm, hser, rfl⟩
  -- whoever is in line behind the running call goes on waiting
  have hline : (s.client K.client).turns.head? = some K.serial →
      ∀ n ∈ (s.client K.client).turns.tail,
        (s.dequeue.resume K).WaitsFor ⟨K.client, n⟩ .turn := by
    intro hturn n hn
    obtain ⟨rest, hrest⟩ := List.head?_eq_some_iff.mp hturn
    obtain ⟨other, ho, hser', hw⟩ := hs.waits_turn ha hn
    have hqueue := ha.queue K.client
    rw [hrest] at hn hqueue
    refine ⟨other, (hstroke.others _ other fun he => ?_).mpr ho, hser', hw⟩
    have : n = K.serial := hser'.symm.trans (congrArg CallId.serial he)
    exact (List.nodup_cons.mp hqueue).1 (this ▸ hn)
  -- a call that cannot go on leaves everything as it is
  have stays : s.dequeue.resume K = s.dequeue →
      s.ServesOn K limit stage (s.client K.client).turns (s.dequeue.resume K) := by
    intro he
    have hshows : s.dequeue.Shows K.client limit stage :=
      hs.mono rfl (fun _ => rfl) (fun n hn => .inl hn) fun _ _ _ h => h
    rw [he]
    exact Untouched.servesOn (t := s.dequeue) ⟨rfl, rfl, rfl, fun _ => rfl, fun _ => rfl⟩ rfl hshows
  have hresume : s.dequeue.call? K = some call := hcall
  generalize ht : s.dequeue.resume K = t at *
  unfold resume at ht
  simp only [hresume] at ht
  subst hl
  cases hw : call.wait with
  | turn =>
    rw [hw] at ht
    dsimp only at ht
    split at ht
    · next hturn =>
      have hp := hs.of_turn ha fun n hn => by
        obtain rfl : n = K.serial := Option.some.inj (hn.symm.trans hturn)
        exact ⟨call, hm, hser, hw⟩
      subst ht
      have hserves := setUp_serves (s := s.dequeue) (hv.scopes K.client) hp hturn (hline hturn) hh
      exact hserves.after rfl rfl rfl rfl rfl (fun _ => ⟨rfl, rfl⟩) rfl rfl
    · exact stays ht.symm
  | answer operation token limit' deadline =>
    rw [hw] at ht htends hcopens
    obtain rfl : operation = .openStream := by simpa [Wait.opens] using hcopens
    have hturn := htends.2.2.2 rfl
    -- the first in line is this call, so the client is in the stage of one that has asked
    have only : ∀ {wait}, s.WaitsFor ⟨K.client, K.serial⟩ wait →
        wait = .answer .openStream token limit' deadline := by
      rintro _ ⟨other, ho, hser', rfl⟩
      obtain rfl := eq_of_serial (ha.serials K.client) hm ho (hser.trans hser'.symm)
      exact hw
    cases hs with
    | closed hc hturns => cases only (hturns K.serial (List.mem_of_mem_head? hturn))
    | live ho hturns => cases only (hturns K.serial (List.mem_of_mem_head? hturn))
    | asking n token' since hc ho hfirst hask =>
      obtain rfl : n = K.serial := Option.some.inj (hfirst.symm.trans hturn)
      cases only hask
      dsimp only at ht
      rw [if_neg (by
        rw [show (s.dequeue.client K.client).scope.isCancelled token = false from
          (hv.scopes K.client).isCancelled_current hc]
        simp)] at ht
      split at ht
      · next hd =>
        subst ht
        exact ⟨⟨_, expire_serves (s := s.dequeue) hc hturn hd (hline hturn) hh⟩, fun h => by cases h⟩
      · exact stays ht.symm
  | chunk token =>
    rw [hw] at hcopens
    cases hcopens

/-- When nothing can run, nobody is in line but behind one whose time is not up. -/
theorem Shows.settled (h : s.Shows id limit stage) (ha : s.Attended none stray)
    (hr : s.ready = []) :
    (s.client id).turns = [] ∨
      ∃ since, stage = .asking since ∧ s.now.nanoseconds < since.nanoseconds + limit.nanoseconds := by
  have idle : ∀ {task : Task}, task ∉ s.ready := by simp [hr]
  have nobody : (∀ n ∈ (s.client id).turns, s.WaitsFor ⟨id, n⟩ .turn) →
      (s.client id).turns = [] := by
    intro hw
    cases hturns : (s.client id).turns with
    | nil => rfl
    | cons n rest =>
      have hhead : (s.client id).turns.head? = some n := by rw [hturns]; rfl
      exact absurd ((ha.of_waitsFor (hw n (List.mem_of_mem_head? hhead))).2 hhead) idle
  cases h with
  | closed hc hw => exact .inl (nobody hw)
  | live ho hw => exact .inl (nobody hw)
  | asking n token since hc ho hh hw =>
    refine .inr ⟨since, rfl, Nat.lt_of_not_le fun hd => ?_⟩
    exact idle ((ha.of_waitsFor hw).2.1 hd)

/-- The stage of a client in whose line nobody has asked for a stream. -/
def stageOf (s : System) (id : ClientId) : Stage :=
  if (s.client id).scope.isOpen then .live else .closed (s.client id).scope.failed

theorem shows_stageOf
    (hc : (s.client id).scope.current = none ∨ (s.client id).scope.isOpen = true)
    (hw : ∀ n ∈ (s.client id).turns, s.WaitsFor ⟨id, n⟩ .turn) :
    s.Shows id limit (s.stageOf id) := by
  unfold stageOf
  split
  · next ho => exact .live ho hw
  · next ho =>
    have hnone : (s.client id).scope.current = none := hc.resolve_right ho
    exact .closed hnone hw

end System

namespace Scenario

variable {x : Scenario} {m : Move} {id : ClientId} {limit : Duration} {stage : Stage}

/-! ### Along a run -/

/-- A move leaves alone the calls that open the session of a client: it drops none of them, and nobody
closes the session, be it on purpose or by letting go of the client for good. -/
structure Undisturbed (x : Scenario) (id : ClientId) (m : Move) : Prop where
  keeps : x.dropsOpener id m = false
  unclosed : x.closesBy id m = false
  held : (x.make m).system.isHeld id = true

instance (x : Scenario) (id : ClientId) (m : Move) : Decidable (x.Undisturbed id m) :=
  decidable_of_iff (x.dropsOpener id m = false ∧ x.closesBy id m = false ∧
      (x.make m).system.isHeld id = true)
    ⟨fun ⟨h, h', h''⟩ => ⟨h, h', h''⟩, fun h => ⟨h.keeps, h.unclosed, h.held⟩⟩

/-- All moves leave the calls alone that open the session of a client. -/
def UndisturbedAlong (x : Scenario) (id : ClientId) : List Move → Prop
  | [] => True
  | m :: ms => x.Undisturbed id m ∧ (x.make m).UndisturbedAlong id ms

instance decidableUndisturbedAlong (x : Scenario) (id : ClientId) :
    (ms : List Move) → Decidable (x.UndisturbedAlong id ms)
  | [] => .isTrue trivial
  | m :: ms =>
    have := decidableUndisturbedAlong (x.make m) id ms
    inferInstanceAs (Decidable (_ ∧ _))

/-- What a move shows of the calls that open the session of a client, and of that session. -/
def entries (x : Scenario) (id : ClientId) (m : Move) : List Entry :=
  match x.opener? id m with
  | none =>
    if (x.system.client id).scope.isOpen && !((x.make m).system.client id).scope.isOpen then [.loses]
    else []
  | some n => x.system.account ⟨id, n⟩ (x.make m).system

/-- What a run shows of the calls that open the session of a client. -/
def service (x : Scenario) (id : ClientId) : List Move → List Entry
  | [] => []
  | m :: ms => x.entries id m ++ (x.make m).service id ms

/-- The call that opens the session of a client and is started in a move. -/
def joins (x : Scenario) (id : ClientId) : Move → List Nat
  | .start name (.openSession client) => (x.opener? id (.start name (.openSession client))).toList
  | _ => []

/-- The calls that open the session of a client and are started along a run, in this order. -/
def joined (x : Scenario) (id : ClientId) : List Move → List Nat
  | [] => []
  | m :: ms => x.joins id m ++ (x.make m).joined id ms

/-- A move in which no such call runs leaves the client in its stage, or its session is lost. -/
theorem serves_of_bystander (hx : x.Orderly) (hs : x.system.Shows id limit stage)
    (hu : x.Undisturbed id m) (ho : x.opener? id m = none) (device : DeviceId) :
    ∃ next, Serves id device limit stage (x.system.client id).turns (x.entries id m) next
        ((x.make m).system.client id).turns ∧ (x.make m).system.Shows id limit next := by
  obtain ⟨stray, ha⟩ := hx.attended
  obtain ⟨hturns, hwaits⟩ := line_make hx.valid ha ho hu.keeps
  rw [entries, ho, hturns]
  rcases lost_make hx ho hu.unclosed hu.held with hscope | ⟨hopen, hcur, hfailed⟩
  · refine ⟨stage, ?_, hs.mono hscope (fun _ => by rw [hturns]) (fun n hn => .inl (hturns ▸ hn)) hwaits⟩
    rw [hscope, Bool.and_not_self]
    exact .rests _ _
  · -- only an open session is lost, and whoever is in line then waits for its turn
    have hv' := (hx.valid.make m).system.scopes id
    rw [hopen, hv'.isOpen_eq_false (hv'.slot_eq_none hcur)]
    cases hs with
    | closed hc hw =>
      have := (hx.valid.system.scopes id).current_of_open hopen
      rw [hc] at this
      cases this
    | asking n token since hc hclosed hh hw =>
      rw [hclosed] at hopen
      cases hopen
    | live _ hw =>
      have hshows : (x.make m).system.Shows id limit _ :=
        .closed hcur fun n hn => hwaits n (hturns ▸ hn) .turn (hw n (hturns ▸ hn))
      rw [hfailed] at hshows
      exact ⟨.closed true, .loses (.rests _ _), hshows⟩

/-- What a move shows continues what has been shown before, and if the session is open, a call that
opens it touches nothing. -/
theorem serves_make (hx : x.Orderly) (hs : x.system.Shows id limit stage)
    (hl : (x.system.client id).config.shortTimeout = limit) (hu : x.Undisturbed id m) :
    (∃ next, Serves id (x.system.client id).key.device limit stage
        ((x.system.client id).turns ++ x.joins id m) (x.entries id m) next
        ((x.make m).system.client id).turns ∧ (x.make m).system.Shows id limit next) ∧
    (stage = .live → (x.opener? id m).isSome = true →
      System.Untouched x.system (x.make m).system) := by
  obtain ⟨stray, ha⟩ := hx.attended
  have hv := hx.valid
  -- Only a call that opens the session is served; without one, the line stays as it is.
  cases ho : x.opener? id m with
  | none =>
    have hjoins : x.joins id m = [] := by
      cases m with
      | start name request =>
        cases request with
        | openSession client => simp only [joins, ho, Option.toList]
        | _ => rfl
      | _ => rfl
    rw [hjoins, List.append_nil]
    exact ⟨serves_of_bystander hx hs hu ho _, fun _ h => by cases h⟩
  | some n =>
    have hheld := hu.held
    have hentries : x.entries id m = x.system.account ⟨id, n⟩ (x.make m).system := by
      rw [entries, ho]
    rw [hentries]
    cases m with
    | start name request =>
      cases request with
      | openSession client =>
        have hh : x.system.handles.find? client = some id ∧ n = (x.system.client id).made := by
          simp only [opener?] at ho
          split at ho
          · next h => exact ⟨h, (Option.some.inj ho).symm⟩
          · cases ho
        obtain ⟨hh, rfl⟩ := hh
        have he : (x.make (.start name (.openSession client))).system =
            (x.system.openSession id).1 := by
          simp only [make, start, onClient, hh, started]
        have hjoins : x.joins id (.start name (.openSession client)) =
            [(x.system.client id).made] := by
          simp only [joins, ho, Option.toList]
        rw [he] at hheld ⊢
        rw [hjoins]
        obtain ⟨hnext, hlive⟩ := System.openSession_serves hv.system ha hs hl hheld
        exact ⟨hnext, fun h _ => hlive h⟩
      | _ => cases ho
    | poll =>
      obtain ⟨K, rest, hready, rfl, hopens, rfl⟩ : ∃ K rest, x.system.ready = .resume K :: rest ∧
          K.client = id ∧ x.system.opens K = true ∧ n = K.serial := by
        simp only [opener?] at ho
        split at ho
        · next K rest hready =>
          split at ho
          · next h => exact ⟨K, rest, hready, h.1, h.2, (Option.some.inj ho).symm⟩
          · cases ho
        · cases ho
      have he : (x.make .poll).system = x.system.dequeue.resume K :=
        poll_of_resume (by rw [hready]; rfl)
      have hjoins : x.joins K.client .poll = [] := rfl
      rw [he] at hheld ⊢
      rw [hjoins, List.append_nil]
      obtain ⟨hnext, hlive⟩ := System.resume_serves hv.system ha hopens hs hl hheld
      exact ⟨hnext, fun h _ => hlive h⟩
    | _ => cases ho

theorem serves_after (hx : x.Orderly) (hk : x.system.Knows id)
    (hs : x.system.Shows id limit stage)
    (hl : (x.system.client id).config.shortTimeout = limit) {ns : List Move}
    (hu : x.UndisturbedAlong id ns) :
    ∃ next, Serves id (x.system.client id).key.device limit stage
        ((x.system.client id).turns ++ x.joined id ns) (x.service id ns) next
        ((x.after ns).system.client id).turns ∧ (x.after ns).system.Shows id limit next := by
  -- on the moves: those who join later get behind all others, so the first move serves the same line
  induction ns generalizing x stage with
  | nil => exact ⟨stage, by rw [joined, List.append_nil]; exact .rests _ _, hs⟩
  | cons m rest ih =>
    obtain ⟨hknows, hkey⟩ := key_make hx.valid hk m
    obtain ⟨⟨next, hfirst, hshows⟩, -⟩ := serves_make hx hs hl hu.1
    obtain ⟨last, hrest, hlast⟩ := ih (hx.make m) hknows hshows
      ((congrArg ClientConfig.shortTimeout (config_make hx.valid hk m)).trans hl) hu.2
    refine ⟨last, ?_, hlast⟩
    rw [hkey] at hrest
    rw [joined, service, ← List.append_assoc]
    exact (hfirst.append _).trans hrest

theorem UndisturbedAlong.split {ns₁ ns₂ : List Move} {m : Move}
    (h : x.UndisturbedAlong id (ns₁ ++ m :: ns₂)) :
    x.UndisturbedAlong id ns₁ ∧ (x.after ns₁).Undisturbed id m := by
  induction ns₁ generalizing x with
  | nil => exact ⟨trivial, h.1⟩
  | cons n rest ih => exact ⟨⟨h.1, (ih h.2).1⟩, (ih h.2).2⟩

/-- **Calls that open the session of a client are served in turn**, as long as nobody closes the session or
drops one of them.  Those in line and those who join it are served in this order, each asks its switch
for a stream of its own and fails by its own answer, until one opens the session, with one event; those
behind it return at once, and touch neither switches and streams nor events, scopes and mastership.
This lasts as long as the open session does.  If that is lost, because its stream has ended or failed or
because a call has found the channel unavailable, the next in line begins anew (`opens_begin_anew`).
When nothing can run, nobody is left in line but behind a call whose time is not up. -/
theorem opens_served (devices : List String) (confs : List Pipeconf)
    (bindings : List (String × PipeconfId)) (config : ConfigChange) (capacity : Nat)
    (ms ns : List Move) (id : ClientId)
    (hk : ((initial devices confs bindings config capacity).after ms).system.Knows id)
    (hc : (((initial devices confs bindings config capacity).after ms).system.client id).scope.current =
        none ∨
      (((initial devices confs bindings config capacity).after ms).system.client id).scope.isOpen =
        true)
    (hw : ∀ n ∈ (((initial devices confs bindings config capacity).after ms).system.client id).turns,
      ((initial devices confs bindings config capacity).after ms).system.WaitsFor ⟨id, n⟩ .turn)
    (hu : ((initial devices confs bindings config capacity).after ms).UndisturbedAlong id ns) :
    let x := (initial devices confs bindings config capacity).after ms
    let c := x.system.client id
    let y := x.after ns
    (∃ stage,
      Serves id c.key.device c.config.shortTimeout (x.system.stageOf id) (c.turns ++ x.joined id ns)
        (x.service id ns) stage (y.system.client id).turns ∧
      y.system.Shows id c.config.shortTimeout stage ∧
      (y.system.ready = [] → (y.system.client id).turns = [] ∨
        ∃ since, stage = .asking since ∧
          y.system.now.nanoseconds < since.nanoseconds + c.config.shortTimeout.nanoseconds)) ∧
    ∀ ns₁ m ns₂, ns = ns₁ ++ m :: ns₂ → ((x.after ns₁).opener? id m).isSome = true →
      ((x.after ns₁).system.client id).scope.isOpen = true →
        System.Untouched (x.after ns₁).system ((x.after ns₁).make m).system := by
  intro x c y
  have hx : x.Orderly := orderly_after devices confs bindings config capacity ms
  have hstart : x.system.Shows id c.config.shortTimeout (x.system.stageOf id) :=
    System.shows_stageOf hc hw
  obtain ⟨stage, hserves, hshows⟩ := serves_after hx hk hstart rfl hu
  obtain ⟨stray, ha⟩ := (hx.after ns).attended
  refine ⟨⟨stage, hserves, hshows, hshows.settled ha⟩, ?_⟩
  rintro ns₁ m ns₂ rfl hrun hopen
  obtain ⟨hbefore, hm⟩ := hu.split
  obtain ⟨mid, -, hmid⟩ := serves_after hx hk hstart rfl hbefore
  -- The stage that is reached before the call begins is the one of an open session.
  have hlive : mid = .live := by
    cases hmid with
    | closed hc hw =>
      have := (hx.after ns₁).valid.system.scopes id |>.current_of_open hopen
      rw [hc] at this
      cases this
    | asking n token since hc ho hh hw =>
      rw [ho] at hopen
      cases hopen
    | live ho hw => rfl
  exact (serves_make (hx.after ns₁) hmid
    (congrArg ClientConfig.shortTimeout (config_after hx hk ns₁)) hm).2 hlive hrun

/-- A client whose switch leaves one call for a stream without an answer, and refuses the next one. -/
def unwilling : List Move :=
  [.act (.new ⟨⟨"leaf"⟩, 1⟩ "leaf" none),
   .act (.steer "leaf" (.queueFault .streamChannel .stall)),
   .act (.steer "leaf" (.queueFault .streamChannel (.fail ⟨.unavailable, "down"⟩)))]

/-- Four calls open the session of the client while the first one waits for its stream. -/
def rush : List Move :=
  [.start "t0" (.openSession "leaf"), .start "t1" (.openSession "leaf"),
   .start "t2" (.openSession "leaf"), .start "t3" (.openSession "leaf"), .advance ⟨5⟩,
   .poll, .poll, .poll, .poll, .poll, .poll, .poll]

/-- What they show. -/
def rushService (id : ClientId) : List Entry :=
  [.asks ⟨id, 0⟩ .silence ⟨0⟩,
   .ends ⟨id, 0⟩ (.failed (.timeout ⟨"leaf"⟩ "open stream channel" ⟨5⟩)) ⟨5⟩,
   .asks ⟨id, 1⟩ (.refused ⟨.unavailable, "down"⟩) ⟨5⟩, .posts (.channelError ⟨"leaf"⟩ "down"),
   .ends ⟨id, 1⟩ (.failed (.transportUnavailable ⟨"leaf"⟩ "down")) ⟨5⟩,
   .asks ⟨id, 2⟩ (.reply ()) ⟨5⟩, .posts (.channelReconnected ⟨"leaf"⟩),
   .ends ⟨id, 2⟩ (.returned .done) ⟨5⟩, .ends ⟨id, 3⟩ (.returned .done) ⟨5⟩]

/-- The first call gets no answer, the second one is refused, the third one opens the session and the
last one has nothing to do. -/
theorem opens_served_rush :
    let x := (initial ["leaf"] [] [] { shortTimeout := some ⟨5⟩ } 16).after unwilling
    let id : ClientId := ⟨⟨"leaf"⟩, 0⟩
    x.system.Knows id ∧ (x.system.client id).scope.current = none ∧
      (∀ n ∈ (x.system.client id).turns, x.system.WaitsFor ⟨id, n⟩ .turn) ∧
      x.UndisturbedAlong id rush ∧
      (∃ stage, Serves id ⟨"leaf"⟩ ⟨5⟩ (.closed false) [0, 1, 2, 3] (rushService id) stage [] ∧
        (x.after rush).system.Shows id ⟨5⟩ stage) ∧
      System.Untouched (x.after (rush.take 11)).system ((x.after (rush.take 11)).make .poll).system := by
  intro x id
  have hk : x.system.Knows id := by
    show id ∈ x.system.clients.keys
    decide +kernel
  have hc : (x.system.client id).scope.current = none := by decide +kernel
  have hw : ∀ n ∈ (x.system.client id).turns, x.system.WaitsFor ⟨id, n⟩ .turn := by decide +kernel
  have hu : x.UndisturbedAlong id rush := by decide +kernel
  obtain ⟨⟨stage, hserves, hshows, -⟩, hpasses⟩ :=
    opens_served ["leaf"] [] [] { shortTimeout := some ⟨5⟩ } 16 unwilling rush id hk (.inl hc) hw hu
  have hdevice : (x.system.client id).key.device = ⟨"leaf"⟩ := by decide +kernel
  have hlimit : (x.system.client id).config.shortTimeout = ⟨5⟩ := by decide +kernel
  have hstage : x.system.stageOf id = .closed false := by decide +kernel
  have hline : (x.system.client id).turns ++ x.joined id rush = [0, 1, 2, 3] := by decide +kernel
  have hlog : x.service id rush = rushService id := by decide +kernel
  have hleft : ((x.after rush).system.client id).turns = [] := by decide +kernel
  rw [hdevice, hlimit, hstage, hline, hlog, hleft] at hserves
  rw [hlimit] at hshows
  exact ⟨hk, hc, hw, hu, ⟨stage, hserves, hshows⟩,
    hpasses (rush.take 11) .poll [] rfl (by decide +kernel) (by decide +kernel)⟩

/-- Two clients of one switch, which leaves the next two calls for a stream without an answer. -/
def rivals : List Move :=
  [.act (.new ⟨⟨"leaf"⟩, 1⟩ "a" none), .act (.new ⟨⟨"leaf"⟩, 2⟩ "b" none),
   .act (.steer "leaf" (.queueFault .streamChannel .stall)),
   .act (.steer "leaf" (.queueFault .streamChannel .stall))]

/-- Three calls open the session of one client and two calls that of the other, and the time of the first
call of each is up. -/
def scramble : List Move :=
  [.start "a1" (.openSession "a"), .start "b1" (.openSession "b"), .start "a2" (.openSession "a"),
   .start "a3" (.openSession "a"), .start "b2" (.openSession "b"), .advance (.ofSeconds 10),
   .poll, .poll, .poll, .poll, .poll, .poll, .poll, .poll, .poll]

/-- The second call has opened the session, and the other client takes the stream over; so the third call
asks for another stream, and another event tells that the session is open.  Nobody has closed anything
and no call has been dropped. -/
theorem opens_begin_anew :
    let x := (initial ["leaf"] [] [] {} 16).after rivals
    let id : ClientId := ⟨⟨"leaf"⟩, 0⟩
    (x.system.client id).scope.isOpen = false ∧ (x.system.client id).scope.current = none ∧
      x.UndisturbedAlong id scramble ∧
      x.service id scramble =
        [.asks ⟨id, 0⟩ .silence ⟨0⟩,
         .ends ⟨id, 0⟩ (.failed (.timeout ⟨"leaf"⟩ "open stream channel" (.ofSeconds 10))) (.ofSeconds 10),
         .asks ⟨id, 1⟩ (.reply ()) (.ofSeconds 10), .posts (.channelReconnected ⟨"leaf"⟩),
         .ends ⟨id, 1⟩ (.returned .done) (.ofSeconds 10),
         .loses,
         .asks ⟨id, 2⟩ (.reply ()) (.ofSeconds 10), .posts (.channelReconnected ⟨"leaf"⟩),
         .ends ⟨id, 2⟩ (.returned .done) (.ofSeconds 10)] := by
  decide +kernel

end Scenario

end P4Control
