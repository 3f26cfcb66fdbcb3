import P4Control.Proofs.Line
import P4Control.Proofs.Turns

namespace P4Control

/-!
# How sessions begin and end

The course of sessions can be told from outside, by what the switch answers and sends.  A scope begins
when a call that opens the session has its turn and finds none in place, and the answer to it decides
whether the session opens.  A scope fails by an answer, by the end of its stream, or by the clock; the
channel is unavailable if a status says so or if the switch has ended the stream.  Any other end is a
close.

* `Scenario.streamAnswer?` — what a switch answers in a move that is asked for the stream of a session.
* `Scenario.failureIn` — the failure by which the scope of a client ends in a move.
* `Scenario.passagesIn`, `Scenario.chronicle` — the passages of scopes in a move, and in a run.
* `Told`, `told_make` — what is told of a move agrees with what it does to the scopes of a client.
* `passages_eq_passagesIn` — the scopes of a client go through just these passages.
* `lifecycle_history` — the events posted are those that the chronicle calls for, and no others.
-/

namespace Scenario

variable {x : Scenario} {m : Move} {id : ClientId} {stray : ClientId → Token → Prop}

/-! ### What tells of a scope -/

/-- Whether a call that opens the session of a client has its turn in a move: it is started while nobody
is in line, or it has waited in line, is the first one, and runs. -/
def takesTurn (x : Scenario) (id : ClientId) : Move → Bool
  | .start _ (.openSession client) =>
    decide (x.system.handles.find? client = some id) && (x.system.client id).turns.isEmpty
  | .poll =>
    match x.system.ready with
    | .resume K :: _ =>
      decide (K.client = id) && decide ((x.system.client id).turns.head? = some K.serial) &&
        (x.system.call? K).any fun call => decide (call.wait = .turn)
    | _ => false
  | _ => false

/-- The answer of the switch to a client that asks for the stream of a session in a move.  A call that
has its turn asks if no scope is in place. -/
def streamAnswer? (x : Scenario) (id : ClientId) (m : Move) : Option (Answer Unit) :=
  if x.takesTurn id m && (x.system.client id).scope.current.isNone then
    some (x.system.switch (x.system.client id).switch).streamAnswer
  else none

/-- Whether a call runs in a move that waits for the stream of a session, and its time is up. -/
def overdue (x : Scenario) (id : ClientId) : Move → Bool
  | .poll =>
    match x.system.ready with
    | .resume K :: _ =>
      decide (K.client = id) && (x.system.call? K).any fun call =>
        match call.wait with
        | .answer .openStream token _ deadline =>
          !(x.system.client id).scope.isCancelled token &&
            decide (deadline.nanoseconds ≤ x.system.now.nanoseconds)
        | _ => false
    | _ => false
  | _ => false

/-- The failure of its session that a client learns from the answer to a request.  Only a status that
says so means that the channel is unavailable. -/
def outageIn (x : Scenario) (id : ClientId) : Move → Option (Option String)
  | .start _ request =>
    match x.exchange? request with
    | some (id', _, some b) =>
      if id' = id ∧ (x.system.client id).scope.isOpen = true then b.outage?.map some else none
    | _ => none
  | _ => none

/-- The failure by which the scope of a client ends in a move, with the reason if the channel is
unavailable: the stream is not set up, its time is up, it is lost, or a request finds out. -/
def failureIn (x : Scenario) (id : ClientId) (m : Move) : Option (Option String) :=
  match x.streamAnswer? id m with
  | some answer =>
    (answer.setback? .openStream (x.system.client id).config.shortTimeout fun _ => none).map
      Setback.outage?
  | none => if x.overdue id m then some none else (x.lossOf id m).or (x.outageIn id m)

/-- The passages of the scopes of a client in a move.  A scope that ends without a failure is closed. -/
def passagesIn (x : Scenario) (id : ClientId) (m : Move) : List Passage :=
  (match x.streamAnswer? id m with
    | none => []
    | some (.reply _) => [.began, .opened]
    | some _ => [.began]) ++
  match x.failureIn id m with
  | some reason => [.ended (.failed reason)]
  | none =>
    if (x.system.client id).scope.cancelled.length <
        ((x.make m).system.client id).scope.cancelled.length then
      [.ended .closed]
    else []

/-- The passages of the scopes of all clients in a move. -/
def passagesOfAll (x : Scenario) (m : Move) : Chronicle :=
  (x.make m).system.clients.keys.flatMap fun id => (x.passagesIn id m).map fun p => (id, p)

/-- The passages of the scopes of all clients in a run. -/
def chronicle (x : Scenario) : List Move → Chronicle
  | [] => []
  | m :: ms => x.passagesOfAll m ++ (x.make m).chronicle ms

/-! ### Failures end scopes -/

/-- The results of calls say that a scope has ended in failure only if it has. -/
theorem ended_mem_trace {is rest : List Incident} {opening : Bool} (hc : Course id opening is)
    {t : System} (hp : System.Parting id t rest) {id' : ClientId} (c : Standing)
    {reason : Option String}
    (h : (resultsAbout id' ((is ++ rest).flatMap Incident.results)).findSome?
      (CallResult.loss opening) = some reason) :
    id' = id ∧ .ended (.failed reason) ∈ trace id c (is ++ rest) := by
  have hrest : rest.flatMap Incident.results = [] := by cases hp <;> rfl
  rw [List.flatMap_append, hrest, List.append_nil] at h
  rw [trace_append]
  -- A course tells one result at most, and it is about the client of the call.
  cases hc with
  | waits | begins token afterFailure ho => cases h
  | ends token f hf =>
    cases hl : f.result.loss opening with
    | none =>
      by_cases he : f.call.client = id' <;>
        simp [lostBy, resultsAbout, Incident.results, hl, he] at h
    | some reason' =>
      by_cases he : f.call.client = id'
      · obtain rfl : reason' = reason := by
          simpa [lostBy, resultsAbout, Incident.results, hl, he] using h
        exact ⟨he.symm.trans hf, by simp [trace, lostBy, Incident.passages]⟩
      · simp [lostBy, resultsAbout, Incident.results, hl, he] at h
  | opens token afterFailure st f ho hf hd =>
    by_cases he : f.call.client = id' <;>
      simp [resultsAbout, Incident.results, hd, CallResult.loss, he] at h
  | collapses token afterFailure reason' f ho hf hl =>
    by_cases he : f.call.client = id'
    · obtain rfl : reason' = reason := by
        simpa [resultsAbout, Incident.results, hl, he] using h
      exact ⟨he.symm.trans hf, by simp [trace, Incident.passages]⟩
    · simp [resultsAbout, Incident.results, he] at h

/-- A failure that a move shows ends a scope. -/
theorem ended_of_failureOf (hv : x.Valid) {reason : Option String}
    (h : x.failureOf id m = some reason) : .ended (.failed reason) ∈ x.passages id m := by
  rcases observes_or_leads hv m with ⟨posted, outcome, rfl⟩ | ⟨is, hmake, hl⟩
  · have hnone : x.failureOf id (.observe posted outcome) = none := by
      simp [failureOf, lossOf, resultsOf, resultsAbout, make, observe]
    rw [hnone] at h
    cases h
  -- a move without a lost stream and without a result tells of no failure
  have calm : x.lossOf id m = none → is.flatMap Incident.results = [] →
      .ended (.failed reason) ∈ x.passages id m := by
    intro hn hr
    rw [failureOf_eq hl hn, hr] at h
    cases h
  cases hmake with
  | acts action front id' rest hf hg =>
    refine calm rfl ?_
    rw [List.flatMap_append, List.flatMap_eq_nil_iff.mpr fun i hi => (subject?_causes (hf i hi)).2,
      (trace_goodbye hg (x.system.client id').standing).1]
    rfl
  | plays name request id' is rest hc hp =>
    rw [failureOf_eq hl rfl] at h
    obtain ⟨rfl, hmem⟩ := ended_mem_trace hc hp (x.system.client id').standing h
    rwa [passages_start hv hc hp hl]
  | foreign name request hf => exact calm rfl rfl
  | advances span => exact calm rfl rfl
  | polls is hp =>
    have unlistened : x.system.loses = none → x.lossOf id .poll = none := by
      intro hn
      rw [lossOf, hn]
    cases hp with
    | loses id' token st reason' hr hs =>
      -- the stream may be that of another client
      by_cases he : id' = id
      · subst he
        rw [passages_loses hv hs hl]
        rw [failureOf, lossOf, hs] at h
        obtain rfl : reason' = reason := by simpa using h
        simp [trace, Incident.passages]
      · refine calm ?_ rfl
        rw [lossOf, hs]
        exact if_neg he
    | resumes call is rest hr hc hp =>
      have hn : x.lossOf id .poll = none :=
        unlistened (by rw [System.loses, listens_of_head hr (by simp)])
      rw [failureOf_eq hl hn, isOpening_poll hr] at h
      obtain ⟨rfl, hmem⟩ := ended_mem_trace hc hp (x.system.client call.client).standing h
      rw [passages_resume hv hr hc hp hl]
      exact List.mem_append_right _ hmem
    | rests hr => exact calm (unlistened (by simp [System.loses, System.listens, hr])) rfl
    | serves st frame hr | drains st hr =>
      exact calm (unlistened (by rw [System.loses, listens_of_head hr (by simp)])) rfl
    | hears id' st frame hr hh =>
      refine calm (unlistened ?_) rfl
      unfold System.hears at hh
      unfold System.loses
      split at hh
      · next hs => rw [hs]
      · cases hh
    | leaves st hr hn => exact calm (unlistened (by rw [System.loses, hn])) rfl
    | idles task hr hh hn => exact calm (unlistened hn) rfl

/-! ### What tells of a scope tells what becomes of it -/

/-- What can be told of a move is what it does to the scopes of a client. -/
structure Told (x : Scenario) (id : ClientId) (m : Move) : Prop where
  begun : (x.system.client id).scope.begun < ((x.make m).system.client id).scope.begun ↔
    (x.streamAnswer? id m).isSome = true
  opened : ∀ answer, x.streamAnswer? id m = some answer →
    (.returned .done ∈ x.resultsOf id m ↔ answer = .reply ())
  failed : x.failureOf id m = x.failureIn id m

/-- A move that tells what becomes of a scope shows what the standing of the client shows. -/
theorem Told.passages_eq (h : x.Told id m) (hv : x.Valid) : x.passages id m = x.passagesIn id m := by
  have hends : ∀ reason, x.failureIn id m = some reason →
      (x.system.client id).scope.cancelled.length <
        ((x.make m).system.client id).scope.cancelled.length := by
    intro reason hf
    have hmem := ended_of_failureOf hv (h.failed.trans hf)
    refine Decidable.byContradiction fun hlt => ?_
    unfold passages passagesBetween at hmem
    rw [if_neg hlt, List.append_nil] at hmem
    split at hmem
    · split at hmem <;> simp at hmem
    · cases hmem
  unfold passages passagesBetween passagesIn
  rw [h.failed]
  congr 1
  · cases ha : x.streamAnswer? id m with
    | none => rw [if_neg fun hb => by simpa [ha] using h.begun.mp hb]
    | some answer =>
      rw [if_pos (h.begun.mpr (by rw [ha]; rfl))]
      have ho := h.opened answer ha
      cases answer with
      | reply a => rw [if_pos (ho.mpr rfl)]
      | refused status => rw [if_neg fun hd => by cases ho.mp hd]
      | silence => rw [if_neg fun hd => by cases ho.mp hd]
  · cases hf : x.failureIn id m with
    | none => rfl
    | some reason => rw [if_pos (hends reason hf)]; rfl

/-- The results of a move are those of the calls that it ends. -/
theorem resultsOf_of_finished {fs : List Finished}
    (h : (x.make m).system.finished = x.system.finished ++ fs) :
    x.resultsOf id m = resultsAbout id fs := by
  unfold resultsOf
  rw [h, List.drop_left]

/-- A move that ends no call has no results. -/
theorem resultsOf_of_same (h : (x.make m).system.finished = x.system.finished) :
    x.resultsOf id m = [] := by
  have hnone : (x.make m).system.finished = x.system.finished ++ [] := by rw [h, List.append_nil]
  exact resultsOf_of_finished hnone

/-- The result of a call of the client is about the client. -/
theorem resultsAbout_self (K : CallId) (r : CallResult) (cursor : Option ReadCursor) :
    resultsAbout K.client [⟨K, r, cursor⟩] = [r] := by
  simp [resultsAbout]

/-- No scope begins where no switch is asked for a stream, and only failures have to be told. -/
theorem told_of_unasked (ha : x.streamAnswer? id m = none)
    (hb : ((x.make m).system.client id).scope.begun = (x.system.client id).scope.begun)
    (hf : x.failureOf id m = if x.overdue id m then some none else (x.lossOf id m).or (x.outageIn id m)) :
    x.Told id m where
  begun := by
    rw [hb, ha]
    simp
  opened answer h := by
    rw [ha] at h
    cases h
  failed := by rw [hf, failureIn, ha]

/-! #### Calls that open the session -/

/-- In a move in which a call has its turn, nothing else can fail. -/
theorem of_takesTurn (ht : x.takesTurn id m = true) :
    x.isOpening m = true ∧ x.overdue id m = false ∧ x.lossOf id m = none ∧
      x.outageIn id m = none := by
  cases m with
  | start name request =>
    cases request with
    | openSession client => exact ⟨rfl, rfl, rfl, rfl⟩
    | _ => cases ht
  | poll =>
    simp only [takesTurn] at ht
    split at ht
    · next K rest hr =>
      simp only [Bool.and_eq_true, decide_eq_true_eq, Option.any_eq_true] at ht
      obtain ⟨-, call, hcall, hwait⟩ := ht
      have hhead : x.system.ready.head? = some (.resume K) := by rw [hr]; rfl
      refine ⟨?_, ?_, ?_, rfl⟩
      · rw [isOpening_poll hhead, System.opens, hcall]
        simp [hwait, Wait.opens]
      · simp [overdue, hr, hcall, hwait]
      · rw [lossOf, System.loses, listens_of_head hhead (by simp)]
    · cases ht
  | _ => cases ht

/-- In `u`, a call has its turn that opens the session of the client; nothing has changed on the way from
`s` but the line. -/
structure Approach (s : System) (id : ClientId) (u : System) : Prop where
  client : ∃ turns made, u.client id = { s.client id with turns, made }
  switches : u.switches = s.switches
  finished : u.finished = s.finished

/-- A call that has its turn and finds no scope in place. -/
theorem told_of_asks {u : System} {n : Nat} (ht : x.takesTurn id m = true)
    (hm : (x.make m).system = u.setUp ⟨id, n⟩) (hu : Approach x.system id u)
    (hc : (x.system.client id).scope.current = none) : x.Told id m := by
  obtain ⟨hopening, -, hloss, -⟩ := of_takesTurn ht
  obtain ⟨turns, made, hclient⟩ := hu.client
  have hanswer : x.streamAnswer? id m =
      some (x.system.switch (x.system.client id).switch).streamAnswer := by
    simp [streamAnswer?, ht, hc]
  have hw : ∀ name, u.switch name = x.system.switch name := fun name => by
    rw [System.switch, hu.switches]
    rfl
  obtain ⟨hbegun, hend⟩ := System.setUp_asks (s := u) (K := ⟨id, n⟩) (by rw [hclient, hc])
  rw [← hm, hclient] at hbegun hend
  rw [hw, hu.finished] at hend
  have hres : x.resultsOf id m = _ := resultsOf_of_finished hend
  dsimp only at hbegun hres
  have about : ∀ r : CallResult, resultsAbout id [⟨⟨id, n⟩, r, none⟩] = [r] := fun r =>
    resultsAbout_self ⟨id, n⟩ r none
  generalize (x.system.switch (x.system.client id).switch).streamAnswer = answer at hanswer hres
  -- From here on the answer decides everything.
  refine ⟨by rw [hanswer, hbegun]; simp, ?_, ?_⟩
  · rintro _ ha
    obtain rfl := Option.some.inj (hanswer.symm.trans ha)
    rw [hres]
    cases answer with
    | reply a => simp [Answer.streamResult?, about]
    | refused status => simp [Answer.streamResult?, Answer.setback?, about]
    | silence =>
      unfold Answer.streamResult? Answer.setback?
      dsimp only
      split <;> simp [resultsAbout]
  · rw [failureOf, failureIn, hanswer, hloss, hres, hopening, Option.none_or]
    cases answer with
    | reply a => simp [Answer.streamResult?, Answer.setback?, about, CallResult.loss]
    | refused status =>
      have hl := Setback.loss_error (.refused .openStream status) (x.system.client id).key.device true
        (.inl rfl)
      simp only [Answer.streamResult?, Answer.setback?, Option.map_some, Option.toList_some,
        List.map_cons, List.map_nil, about, List.findSome?_cons, hl]
      rfl
    | silence =>
      unfold Answer.streamResult? Answer.setback?
      dsimp only
      split
      · have hl := Setback.loss_error (.unanswered .openStream (x.system.client id).config.shortTimeout)
          (x.system.client id).key.device true (.inr ⟨_, _, rfl⟩)
        simp only [Option.map_some, Option.toList_some, List.map_cons, List.map_nil, about,
          List.findSome?_cons, hl]
        rfl
      · rfl

/-- A call that has its turn. -/
theorem told_of_turn {u : System} {n : Nat} (ht : x.takesTurn id m = true)
    (hm : (x.make m).system = u.setUp ⟨id, n⟩) (hu : Approach x.system id u) : x.Told id m := by
  cases hc : (x.system.client id).scope.current with
  | none => exact told_of_asks ht hm hu hc
  | some token =>
    -- there is nothing to do
    obtain ⟨-, hover, hloss, hout⟩ := of_takesTurn ht
    obtain ⟨turns, made, hclient⟩ := hu.client
    have he := System.setUp_idles (s := u) (K := ⟨id, n⟩) (by rw [hclient, hc]; rfl)
    refine told_of_unasked (by simp [streamAnswer?, hc]) ?_ ?_
    · rw [hm, he, System.begun_complete, hclient]
    · have hend : (x.make m).system.finished =
          x.system.finished ++ [⟨⟨id, n⟩, .returned .done, none⟩] := by
        rw [hm, he, System.finished_complete, hu.finished]
      rw [failureOf, hloss, hover, hout, resultsOf_of_finished hend, resultsAbout_self ⟨id, n⟩]
      rfl

/-- A request to open the session waits in line, or has its turn at once. -/
theorem told_openSession {client : String} (hh : x.system.handles.find? client = some id)
    (name : String) : x.Told id (.start name (.openSession client)) := by
  have he : (x.make (.start name (.openSession client))).system = (x.system.openSession id).1 := by
    simp only [make, start, onClient, hh, started]
  obtain ⟨hself, -, -⟩ := System.joined_line x.system id
  rw [System.openSession_eq] at he
  by_cases hturns : (x.system.client id).turns = []
  · rw [if_pos hturns] at he
    refine told_of_turn ?_ he ⟨⟨_, _, hself⟩, rfl, rfl⟩
    simp [takesTurn, hh, hturns]
  · rw [if_neg hturns] at he
    refine told_of_unasked ?_ ?_ ?_
    · simp [streamAnswer?, takesTurn, hturns]
    · rw [he, (System.suspend_parts _ _ _).2.2, hself]
    · rw [failureOf, resultsOf_of_same (by rw [he]; rfl)]
      rfl

section

variable {K : CallId} (hr : x.system.ready.head? = some (.resume K))

include hr

/-- A call that goes on is no inbound loop that loses its stream. -/
theorem lossOf_of_resume : x.lossOf id .poll = none := by
  rw [lossOf, System.loses, listens_of_head hr (by simp)]

/-- A call runs again for nothing. -/
theorem told_of_idle (hn : x.streamAnswer? id .poll = none) (hover : x.overdue id .poll = false)
    (he : (x.make .poll).system = x.system.dequeue) : x.Told id .poll := by
  refine told_of_unasked hn (by rw [he]; rfl) ?_
  rw [failureOf, lossOf_of_resume hr, hover, resultsOf_of_same (by rw [he]; rfl)]
  rfl

/-- A call that waits for the stream of its session fails, because its scope has ended or its time is
up. -/
theorem told_of_lapse (hopens : x.system.opens K = true)
    (hn : x.streamAnswer? K.client .poll = none) {token : Token} {failure : System.Failure}
    (he : (x.make .poll).system = x.system.dequeue.failCall K .openStream token failure)
    (hl : (CallResult.failed (x.system.dequeue.report K.client .openStream failure).2).loss true =
      if x.overdue K.client .poll then some none else none) : x.Told K.client .poll := by
  refine told_of_unasked hn ?_ ?_
  · rw [he, System.begun_failCall]
    rfl
  · rw [failureOf, lossOf_of_resume hr, resultsOf_of_finished (by rw [he]; exact System.finished_failCall ..),
      resultsAbout_self, isOpening_poll hr, hopens, Option.none_or, List.findSome?_cons, hl]
    cases x.overdue K.client .poll <;> rfl

/-- A call runs again that opens the session. -/
theorem told_resume_opener (hopens : x.system.opens K = true) : x.Told K.client .poll := by
  obtain ⟨rest, hready⟩ := List.head?_eq_some_iff.mp hr
  obtain ⟨call, hcall, hcopens⟩ := System.call?_of_opens hopens
  have he : (x.make .poll).system = x.system.dequeue.resume K := poll_of_resume hr
  unfold System.resume at he
  simp only [show x.system.dequeue.call? K = some call from hcall] at he
  -- a call without its turn may fail, but asks for nothing
  have unasked : (call.wait ≠ .turn ∨ (x.system.client K.client).turns.head? ≠ some K.serial) →
      x.streamAnswer? K.client .poll = none := by
    intro h
    have ht : x.takesTurn K.client .poll = false := by
      simp only [takesTurn, hready, hcall]
      rcases h with h | h <;> simp [h]
    simp [streamAnswer?, ht]
  cases hw : call.wait with
  | turn =>
    rw [hw] at he
    dsimp only at he
    split at he
    · next hturn =>
      have hturn' : (x.system.client K.client).turns.head? = some K.serial := hturn
      refine told_of_turn ?_ he ⟨⟨_, _, rfl⟩, rfl, rfl⟩
      simp [takesTurn, hready, hturn', hcall, hw]
    · next hturn =>
      exact told_of_idle hr (unasked (.inr hturn)) (by simp [overdue, hready, hcall, hw]) he
  | answer operation token limit deadline =>
    rw [hw] at he hcopens
    obtain rfl : operation = .openStream := by simpa [Wait.opens] using hcopens
    have hn := unasked (.inl (by simp [hw]))
    have hover : x.overdue K.client .poll =
        (!(x.system.client K.client).scope.isCancelled token &&
          decide (deadline.nanoseconds ≤ x.system.now.nanoseconds)) := by
      simp [overdue, hready, hcall, hw]
    dsimp only at he
    split at he
    · next hcan =>
      refine told_of_lapse hr hopens hn he ?_
      rw [hover, show (x.system.client K.client).scope.isCancelled token = true from hcan]
      rfl
    · next hcan =>
      rw [show (x.system.client K.client).scope.isCancelled token = false from
        eq_false_of_ne_true hcan] at hover
      split at he
      · next hd =>
        refine told_of_lapse hr hopens hn he ?_
        rw [hover, decide_eq_true (show deadline.nanoseconds ≤ x.system.now.nanoseconds from hd)]
        rfl
      · next hd =>
        refine told_of_idle hr hn ?_ he
        rw [hover, decide_eq_false (show ¬ deadline.nanoseconds ≤ x.system.now.nanoseconds from hd)]
        rfl
  | chunk token =>
    rw [hw] at hcopens
    cases hcopens

end

/-! #### Moves without such a call -/

/-- Where no call runs that opens the session, the switch is not asked for a stream, and nobody's time for
one is up. -/
theorem unasked_of_opener? (ho : x.opener? id m = none) :
    x.streamAnswer? id m = none ∧ x.overdue id m = false := by
  constructor
  · have hturn : x.takesTurn id m = false := by
      cases hm : x.takesTurn id m with
      | false => rfl
      | true =>
        have hopening := (of_takesTurn hm).1
        cases m with
        | start name request =>
          cases request with
          | openSession client =>
            simp only [takesTurn, Bool.and_eq_true, decide_eq_true_eq] at hm
            exact absurd hm.1 (find?_of_opener? ho)
          | _ => cases hm
        | poll =>
          simp only [takesTurn] at hm
          split at hm
          · next K rest hr =>
            simp only [Bool.and_eq_true, decide_eq_true_eq] at hm
            have hhead : x.system.ready.head? = some (.resume K) := by rw [hr]; rfl
            rw [isOpening_poll hhead, opens_of_resume hhead ho hm.1.1] at hopening
            cases hopening
          · cases hm
        | _ => cases hm
    simp [streamAnswer?, hturn]
  · cases m with
    | poll =>
      simp only [overdue]
      split
      · next K rest hr =>
        by_cases hK : K.client = id
        · have hopens := opens_of_resume (K := K) (by rw [hr]; rfl) ho hK
          cases hcall : x.system.call? K with
          | none => simp
          | some call =>
            simp only [System.opens, hcall, Option.any_some] at hopens ⊢
            -- whoever waits for a stream opens the session
            split
            · next hw =>
              rw [hw] at hopens
              cases hopens
            · simp
        · simp [hK]
      · rfl
    | _ => rfl

/-- Then the results are to tell of a failure what the answer does. -/
theorem told_of_bystander (hv : x.Valid) (ho : x.opener? id m = none)
    (hf : (x.resultsOf id m).findSome? (CallResult.loss (x.isOpening m)) = x.outageIn id m) :
    x.Told id m := by
  obtain ⟨hanswer, hover⟩ := unasked_of_opener? ho
  refine told_of_unasked hanswer (begun_make hv ho) ?_
  rw [failureOf, hover, hf]
  rfl

/-- In a move, no call of a client ends, or one does. -/
theorem resultsOf_cases (hv : x.Valid) (ha : x.system.Attended none stray) (id : ClientId)
    (m : Move) :
    x.resultsOf id m = [] ∨
      ∃ f, (x.make m).system.finished = x.system.finished ++ [f] ∧ f.call.client = id ∧
        x.Ends f.call m := by
  obtain ⟨posted, outcome, rfl⟩ | hsame | ⟨f, hf, hends, -⟩ := finished_make hv ha m
  · left
    simp [resultsOf, resultsAbout, make, observe]
  · exact .inl (resultsOf_of_same hsame)
  · by_cases hid : f.call.client = id
    · exact .inr ⟨f, hf, hid, hends⟩
    · left
      rw [resultsOf_of_finished hf]
      simp [resultsAbout, hid]

/-- A call in the open session that runs again tells of no failure of its session. -/
theorem told_poll (hv : x.Valid) (ha : x.system.Attended none stray)
    (ho : x.opener? id .poll = none) : x.Told id .poll := by
  refine told_of_bystander hv ho ?_
  obtain hnone | ⟨f, hf, rfl, hends⟩ := resultsOf_cases hv ha id .poll
  · rw [hnone]
    rfl
  · rw [resultsOf_of_finished hf]
    cases hends with
    | resumes wait hr hw =>
      have hopens := opens_of_resume hr ho rfl
      have hwait := ha.opens_eq hw
      rw [hopens] at hwait
      -- the call that ends is one in the open session: its scope has ended, or its time is up
      obtain ⟨token, operation, hc, hop⟩ := Wait.cancels?_of_opens hwait.symm
      have he : (x.make .poll).system = x.system.dequeue.resume f.call := poll_of_resume hr
      rw [he] at hf
      obtain ⟨hsame, -⟩ | ⟨error, u, hlapses, hu, ht⟩ := System.resume_lapses ha hw hc hop
      · rw [hsame] at hf
        exact absurd (List.self_eq_append_right.mp hf) (List.cons_ne_nil f [])
      · obtain ⟨cursor, hfin⟩ := hu.finished
        have hf' : x.system.finished ++ [f] = x.system.finished ++ [⟨f.call, .failed error, cursor⟩] := by
          obtain ht | ⟨-, ht⟩ := ht
          · rw [← hf, ht, hfin]
          · rw [← hf, ht, System.finished_closeSession, hfin]
        rw [List.singleton_inj.mp (List.append_cancel_left hf'), isOpening_poll hr, hopens,
          resultsAbout_self]
        cases hlapses <;> rfl

/-! #### Requests in the open session -/

/-- What a client itself finds wrong tells of no failure of its session. -/
theorem loss_of_rejected {request : Request} {w : Switch} {error : ClientError}
    (hx : x.exchange? request = some (id, w, some (.rejected error))) :
    (CallResult.failed error).loss false = none := by
  -- a request is wrong for a table that is not known
  have unresolved : ∀ {conf : Pipeconf} {tables : List String} {error : ClientError},
      conf.tableError? tables = some error → (CallResult.failed error).loss false = none := by
    intro conf tables error h
    obtain ⟨table, rfl⟩ := Pipeconf.tableError?_eq_some h
    rfl
  cases exchanges_of_exchange? hx with
  | push hh hf he => exact Client.loss_pushes (congrArg Prod.snd he).symm
  | check hh hf he => exact absurd (congrArg Prod.snd he).symm Client.checks_ne_rejected
  | read hh hf he | openRead hh hf he =>
    refine Client.loss_reads (fun e hquery => ?_) (congrArg Prod.snd he).symm
    rw [ReadRequest.error_foldl] at hquery
    exact unresolved hquery
  | take hf hid he => exact Client.loss_takes (congrArg Prod.snd he).symm
  | write hh hf he =>
    refine Client.loss_writes (fun e hwrite => ?_) (congrArg Prod.snd he).symm
    rw [error_writeOf] at hwrite
    exact unresolved hwrite

/-- A failed call tells of the failure that follows from the way it fails. -/
theorem losses_incurs {s t : System} {w : Switch} {b : Option Setback} (h : s.Incurs id w b t)
    (hb : ∀ error, b = some (.rejected error) → (CallResult.failed error).loss false = none)
    {fs : List Finished} (hf : t.finished = s.finished ++ fs) :
    (resultsAbout id fs).findSome? (CallResult.loss false) =
      b.bind fun b => b.outage?.map some := by
  cases b with
  | none =>
    obtain ⟨gs, hg, hreturns⟩ := h
    rw [hf, List.append_cancel_left_eq] at hg
    subst hg
    refine List.findSome?_eq_none_iff.mpr fun r hr => ?_
    obtain ⟨f, hm, rfl⟩ := List.mem_map.mp hr
    -- a call that has not failed tells of no loss
    obtain ⟨value, hv⟩ := hreturns f (List.mem_filter.mp hm).1
    rw [hv]
    rfl
  | some b =>
    obtain ⟨-, cursor, hg⟩ := h
    rw [hf, List.append_cancel_left_eq] at hg
    subst hg
    rw [resultsAbout_self ⟨id, _⟩, List.findSome?_cons]
    have hl : (CallResult.failed (b.error (s.client id).key.device)).loss false =
        b.outage?.map some := by
      cases b with
      | rejected error => exact hb error rfl
      | refused operation status => exact Setback.loss_error _ _ false (.inl rfl)
      | unanswered operation limit => exact Setback.loss_error _ _ false (.inr ⟨_, _, rfl⟩)
    rw [hl]
    cases ho : b.outage? <;> simp [ho]

/-- A request that is not to open the session starts a call on the client whose switch is to answer. -/
theorem callOf?_eq {request : Request} (ho : request.opens = false) :
    x.callOf? request = (x.exchange? request).map fun e => (x.system.newCall e.1).2 := by
  cases request with
  | openSession client => cases ho
  | setPipeline client conf | isPipelineSet client conf | read client conf | openRead client conf
  | write client conf =>
    simp only [callOf?, exchange?, Option.bind_eq_bind]
    cases x.system.handles.find? client with
    | none => rfl
    | some id => cases x.system.catalog.pipeconf? conf <;> rfl
  | readNext stream =>
    simp only [callOf?, exchange?, Option.bind_eq_bind]
    cases x.reads.find? stream <;> rfl
  | _ => rfl

/-- A read stream does not fail by its switch outside an open session. -/
theorem outage?_takes (hv : x.Valid) {cursor : ReadCursor} (hr : cursor ∈ x.reads.values)
    (hc : (x.system.client cursor.client).scope.isOpen = false) {b : Setback}
    (h : (x.system.client cursor.client).takes cursor = some b) : b.outage? = none := by
  unfold Client.takes at h
  split at h
  · next status hstep =>
    -- the session in which it has been opened would still be open
    obtain ⟨hphase, hcan, -⟩ := ReadStream.next_failed hstep
    have hs := hv.system.scopes cursor.client
    obtain ⟨hlt, hopened⟩ := (hv.reads cursor hr).2 hphase
    rw [hs.isOpen_iff.mpr (hopened (hs.current_eq_some hlt hcan))] at hc
    cases hc
  · cases h
    rfl
  · cases h

/-- A request outside an open session tells of no failure. -/
theorem losses_of_closed (hv : x.Valid) (ha : x.system.Attended none stray) (name : String)
    {request : Request} {exchange : Switch × Option Setback}
    (hx : x.exchange? request = some (id, exchange))
    (hc : (x.system.client id).scope.isOpen = false) :
    (x.resultsOf id (.start name request)).findSome? (CallResult.loss false) = none := by
  -- every call but the next item of a stream is refused, and no refusal speaks of a loss
  have refused : ∀ {client : String} {confId : PipeconfId} {conf : Pipeconf},
      request.inSession? = some (client, confId) → x.system.handles.find? client = some id →
      x.system.catalog.pipeconf? confId = some conf →
      (x.resultsOf id (.start name request)).findSome? (CallResult.loss false) = none := by
    intro client confId conf hr hh hf
    have hend : (x.make (.start name request)).system.finished = _ :=
      (refuses_start ha hh hc name hr hf).1
    rw [resultsOf_of_finished hend, resultsAbout_self ⟨id, _⟩, List.findSome?_cons]
    have hl : (CallResult.failed (request.refusal conf (x.system.client id).key.device)).loss false =
        none := by
      unfold Request.refusal
      split
      · split <;> rfl
      all_goals
        first
        | rfl
        | cases conf.unresolved? _ <;> rfl
    rw [hl]
    rfl
  cases exchanges_of_exchange? hx with
  | push hh hf | check hh hf | read hh hf | openRead hh hf | write hh hf => exact refused rfl hh hf
  | @take stream cursor hf hid =>
    subst hid
    have hmem := Directory.mem_values_of_find? hf
    have hs := hv.system.scopes cursor.client
    -- a read stream outlives its session, so its items must be looked at
    have hincurs := System.incurs_readNext ha fun (hphase : cursor.stream.phase = .running) hcan =>
      hs.current_eq_some ((hv.reads cursor hmem).2 hphase).1 hcan
    have he : (x.make (.start name (.readNext stream))).system = (x.system.readNext cursor).1 := by
      simp only [make, start, hf, started]
    obtain hnone | ⟨f, hfin, -, -⟩ := resultsOf_cases hv ha cursor.client (.start name (.readNext stream))
    · rw [hnone]
      rfl
    · rw [resultsOf_of_finished hfin]
      rw [he] at hfin
      rw [losses_incurs hincurs (fun error => Client.loss_takes) hfin]
      cases hb : (x.system.client cursor.client).takes cursor with
      | none => rfl
      | some b => simp [outage?_takes hv hmem hc hb]

/-- A request tells of a failure if the answer of the switch does. -/
theorem told_start (hv : x.Valid) (ha : x.system.Attended none stray) (name : String)
    {request : Request} (ho : request.opens = false) : x.Told id (.start name request) := by
  have hopener : x.opener? id (.start name request) = none := by
    cases request with
    | openSession client => cases ho
    | _ => rfl
  refine told_of_bystander hv hopener ?_
  show (x.resultsOf id (.start name request)).findSome? (CallResult.loss request.opens) = _
  rw [ho, outageIn]
  have hcall := x.callOf?_eq ho
  cases hx : x.exchange? request with
  | none =>
    rw [hx] at hcall
    rw [resultsOf_of_same (finished_start_of_none hcall name)]
    rfl
  | some exchange =>
    obtain ⟨id', w, b⟩ := exchange
    rw [hx] at hcall
    by_cases hid : id' = id
    · subst hid
      cases hopen : (x.system.client id').scope.isOpen with
      | false =>
        rw [losses_of_closed hv ha name hx hopen]
        cases b <;> simp
      | true =>
        have hincurs := incurs_start hv ha name hx hopen
        obtain hnone | ⟨f, hfin, -, -⟩ := resultsOf_cases hv ha id' (.start name request)
        · -- a call that waits has not failed
          cases b with
          | none => rw [hnone]; rfl
          | some b =>
            obtain ⟨-, cursor, hfin⟩ := hincurs
            rw [resultsOf_of_finished hfin, resultsAbout_self ⟨id', _⟩] at hnone
            cases hnone
        · rw [resultsOf_of_finished hfin,
            losses_incurs hincurs (fun error hb => loss_of_rejected (by rw [hx, ← hb])) hfin]
          cases b <;> simp
    · obtain hnone | ⟨f, hfin, hf, hends⟩ := resultsOf_cases hv ha id (.start name request)
      · rw [hnone]
        cases b <;> simp [hid]
      · cases hends with
        | starts name request hK =>
          rw [hcall] at hK
          exact absurd ((congrArg CallId.client (Option.some.inj hK)).trans hf) hid

/-- Whatever a move does to the scopes of a client can be told. -/
theorem told_make (hv : x.Valid) (ha : x.system.Attended none stray) (id : ClientId) (m : Move) :
    x.Told id m := by
  -- nobody has a turn, and no call of the client ends
  have silent : x.opener? id m = none → x.outageIn id m = none → x.resultsOf id m = [] →
      x.Told id m := by
    intro ho hout hr
    refine told_of_bystander hv ho ?_
    rw [hr, hout]
    rfl
  have ended := resultsOf_cases hv ha id m
  cases m with
  | act action | advance span | observe posted outcome =>
    refine silent rfl rfl (ended.resolve_right ?_)
    rintro ⟨f, -, -, hends⟩
    cases hends
  | poll =>
    cases hopener : x.opener? id .poll with
    | none => exact told_poll hv ha hopener
    | some n =>
      -- the call that is resumed is one that opens the session
      obtain ⟨K, hr, rfl, hopens⟩ : ∃ K, x.system.ready.head? = some (.resume K) ∧ K.client = id ∧
          x.system.opens K = true := by
        simp only [opener?] at hopener
        split at hopener
        · next K rest hready =>
          split at hopener
          · next h => exact ⟨K, by rw [hready]; rfl, h.1, h.2⟩
          · cases hopener
        · cases hopener
      exact told_resume_opener hr hopens
  | start name request =>
    cases request with
    | openSession client =>
      by_cases hh : x.system.handles.find? client = some id
      · exact told_openSession hh name
      · refine silent (by simp [opener?, hh]) rfl (ended.resolve_right ?_)
        rintro ⟨f, -, rfl, hends⟩
        cases hends with
        | starts name request hK =>
          obtain ⟨id', hh', he⟩ := Option.map_eq_some_iff.mp hK
          rw [← congrArg CallId.client he] at hh
          exact hh hh'
    | _ => exact told_start hv ha name rfl

/-- The scopes of a client go through the passages that can be told. -/
theorem passages_eq_passagesIn (ho : x.Orderly) (id : ClientId) (m : Move) :
    x.passages id m = x.passagesIn id m := by
  obtain ⟨stray, ha⟩ := ho.attended
  exact (told_make ho.valid ha id m).passages_eq ho.valid

/-- **The course of a run is told by its moves and answers alone.** -/
theorem course_eq_chronicle (ho : x.Orderly) (ms : List Move) : x.course ms = x.chronicle ms := by
  induction ms generalizing x with
  | nil => rfl
  | cons m rest ih =>
    rw [course, chronicle, ih (ho.make m), courseOf, passagesOfAll]
    simp only [passages_eq_passagesIn ho]

/-! ### Sessions that are lost -/

/-- A client loses its stream while its session is open. -/
theorem isOpen_of_lossOf (hv : x.Valid) {reason : Option String}
    (h : x.lossOf id m = some reason) : (x.system.client id).scope.isOpen = true := by
  have hs := hv.system.scopes id
  obtain ⟨token, reception, hl⟩ : ∃ token reception, x.system.listens = some (id, token, reception) := by
    cases m with
    | poll =>
      simp only [lossOf, System.loses] at h
      split at h
      · next id' reason' hloses =>
        split at h
        · next he =>
          subst he
          split at hloses
          · next token status rest hl =>
            cases hloses
            exact ⟨token, _, hl⟩
          · next token hl =>
            cases hloses
            exact ⟨token, _, hl⟩
          · cases hloses
        · cases h
      · cases h
    | _ => cases h
  unfold System.listens at hl
  split at hl
  · split at hl
    · next st rest hr id' token' hlistener =>
      split at hl
      · cases hl
      · next hcan =>
        cases hl
        -- the scope in which a stream is listened to is the one in place
        obtain ⟨-, hlt, hslot⟩ := hv.system.listeners _ _ _ hlistener
        rw [hs.isOpen_iff, hslot (hs.current_eq_some hlt (eq_false_of_ne_true hcan))]
        rfl
    · cases hl
  · cases hl

/-- While nobody closes the session of a client that stays held, and no call runs that opens it, its scope
stays as it is, or its open session is lost. -/
theorem lost_make (hx : x.Orderly) (ho : x.opener? id m = none) (hc : x.closesBy id m = false)
    (hh : (x.make m).system.isHeld id = true) :
    ((x.make m).system.client id).scope = (x.system.client id).scope ∨
      (x.system.client id).scope.isOpen = true ∧
        ((x.make m).system.client id).scope.current = none ∧
        ((x.make m).system.client id).scope.failed = true := by
  cases hcur : (x.system.client id).scope.current with
  | none => exact .inl (vacant_make hx.valid ho hcur)
  | some token =>
    rcases stays_or_ends_make hx.valid ho (by rw [hcur]; rfl) with hs | ⟨hcur', how, hmem, hfailed⟩
    · exact .inl hs
    · have hne : how ≠ .closed := by
        intro he
        rcases (ending_of_passages hx.valid hmem).1 he with hclosed | hunheld
        · rw [hc] at hclosed
          cases hclosed
        · rw [hh] at hunheld
          cases hunheld
      refine .inr ⟨?_, hcur', hfailed hne⟩
      rw [passages_eq_passagesIn hx, passagesIn] at hmem
      obtain ⟨hanswer, hover⟩ := unasked_of_opener? ho
      simp only [hanswer, failureIn, hover, List.nil_append, Bool.false_eq_true, if_false] at hmem
      split at hmem
      · next reason hfail =>
        -- the stream is lost, or a request finds out that the channel is unavailable
        rcases Option.or_eq_some_iff.mp hfail with hloss | ⟨-, hout⟩
        · exact isOpen_of_lossOf hx.valid hloss
        · unfold outageIn at hout
          split at hout
          · split at hout
            · split at hout
              · next h => exact h.2
              · cases hout
            · cases hout
          · cases hout
      · split at hmem
        · exact absurd (by simpa using hmem) hne
        · cases hmem

/-- **Events mirror transitions.**  After every list of moves, the events posted about sessions are those
that the chronicle of sessions calls for, and no others; the chronicle is told by what the switches
answer and send, by the clock, and by who closes a session.  For each client every scope begins after
the one before has ended, opens at most once and ends at most once; the session is open as the chronicle
says; and a scope is closed only by someone who closes it or by the last holder that lets go of the
client. -/
theorem lifecycle_history (devices : List String) (confs : List Pipeconf)
    (bindings : List (String × PipeconfId)) (config : ConfigChange) (capacity : Nat)
    (ms : List Move) :
    let x := initial devices confs bindings config capacity
    let y := x.after ms
    y.system.lifecycle = eventsFrom [] (x.chronicle ms) ∧
      ∀ id,
        (phaseOf (passagesOf id (x.chronicle ms))).isSome = true ∧
        (y.system.client id).scope.isOpen = isOpenAfter (passagesOf id (x.chronicle ms)) ∧
        ∀ m how, .ended how ∈ y.passagesIn id m →
          (how = .closed → y.closesBy id m = true ∨ (y.make m).system.isHeld id = false) ∧
          ∀ action, m = .act action → how = .closed := by
  intro x y
  have hx : x.Orderly := orderly_after devices confs bindings config capacity []
  have hy : y.Orderly := orderly_after devices confs bindings config capacity ms
  have hstart : x.Chronicled [] := by
    refine ⟨fun id hk => ?_, fun id => ?_⟩
    · cases hk
    · exact tells_default
  obtain ⟨⟨-, ht⟩, hl⟩ := hstart.after hx.valid ms
  rw [← course_eq_chronicle hx ms]
  refine ⟨hl, fun id => ⟨?_, ?_, fun m how h => ?_⟩⟩
  · rw [show passagesOf id (x.course ms) = passagesOf id ([] ++ x.course ms) from rfl, (ht id).phase]
    rfl
  · exact (ht id).isOpen (hy.valid.system.scopes id)
  · rw [← passages_eq_passagesIn hy] at h
    exact ending_of_passages hy.valid h

end Scenario

end P4Control
