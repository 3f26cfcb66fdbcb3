import P4Control.Proofs.Mastership
import P4Control.Proofs.Passage

namespace P4Control

/-!
# The course of sessions along a run

What is posted about sessions is what their course calls for.  Here the course is read off the results
of the calls and off the scopes before and after each move.

* `passages`, `course` — the course of sessions, as a run shows it.
* `passages_make` — what a move shows is what its incidents do.
* `Chronicled` — the events posted are those that the course calls for.
* `scope_make` — a scope that has begun before a move and is in place after it has been left alone.
* `ending_of_passages` — who ends a session.
-/

namespace Scenario

/-! ### What a run shows -/

/-- Whether a move starts or resumes a call that opens a session. -/
def isOpening (x : Scenario) : Move → Bool
  | .start _ request => request.opens
  | .poll =>
    match x.system.ready with
    | .resume call :: _ => x.system.opens call
    | _ => false
  | _ => false

/-- The results among some finished calls that are about one client. -/
def resultsAbout (id : ClientId) (finished : List Finished) : List CallResult :=
  (finished.filter fun f => decide (f.call.client = id)).map (·.result)

/-- The results of the calls on a client that end in a move. -/
def resultsOf (x : Scenario) (id : ClientId) (m : Move) : List CallResult :=
  resultsAbout id ((x.make m).system.finished.drop x.system.finished.length)

/-- The loss of its stream that a client finds in a move. -/
def lossOf (x : Scenario) (id : ClientId) : Move → Option (Option String)
  | .poll =>
    match x.system.loses with
    | some (id', reason) => if id' = id then some reason else none
    | none => none
  | _ => none

/-- The failure in a move that ends a scope of a client: the loss of its stream, or what the result
of a call says. -/
def failureOf (x : Scenario) (id : ClientId) (m : Move) : Option (Option String) :=
  (x.lossOf id m).or ((x.resultsOf id m).findSome? (CallResult.loss (x.isOpening m)))

/-- How a scope ends in which there may have been a failure. -/
def endingOf : Option (Option String) → Ending
  | some reason => .failed reason
  | none => .closed

/-- The passages between two states of the scopes of a client, from the results of its calls and the
failure there may have been in between.  A call that begins a scope and returns has opened the
session. -/
def passagesBetween (before after : Scope StreamId) (results : List CallResult)
    (failure : Option (Option String)) : List Passage :=
  (if before.begun < after.begun then
    .began :: if .returned .done ∈ results then [.opened] else []
  else []) ++
    if before.cancelled.length < after.cancelled.length then [.ended (endingOf failure)] else []

/-- The passages of the scopes of a client in a move, from the results of its calls. -/
def passages (x : Scenario) (id : ClientId) (m : Move) : List Passage :=
  passagesBetween (x.system.client id).scope ((x.make m).system.client id).scope (x.resultsOf id m)
    (x.failureOf id m)

/-- The passages of the scopes of all clients in a move. -/
def courseOf (x : Scenario) (m : Move) : Chronicle :=
  (x.make m).system.clients.keys.flatMap fun id => (x.passages id m).map fun p => (id, p)

/-- The passages of the scopes of all clients in a run. -/
def course (x : Scenario) : List Move → Chronicle
  | [] => []
  | m :: ms => x.courseOf m ++ (x.make m).course ms

/-! ### Between two states -/

theorem passagesBetween_of_same {c d : Scope StreamId} (hb : d.begun = c.begun)
    (hc : d.cancelled = c.cancelled) (results : List CallResult) (failure : Option (Option String)) :
    passagesBetween c d results failure = [] := by
  unfold passagesBetween
  rw [hb, hc, if_neg (Nat.lt_irrefl _), if_neg (Nat.lt_irrefl _)]
  rfl

/-- A close comes last, after what has left a scope in place without a failure, or has left none. -/
theorem passagesBetween_close {c d : Scope StreamId} (results : List CallResult)
    {failure : Option (Option String)}
    (h : d.current.isSome = true → d.cancelled = c.cancelled ∧ failure = none) :
    passagesBetween c d.close.2 results failure = passagesBetween c d results failure ++ closing d := by
  unfold closing
  cases hd : d.current with
  | none =>
    rw [Scope.close_of_none hd, if_neg (by simp), List.append_nil]
    rfl
  | some token =>
    obtain ⟨hc, rfl⟩ := h (by rw [hd]; rfl)
    rw [Scope.close_of_current hd, if_pos (by simp)]
    simp [passagesBetween, endingOf, hc]

/-- The passages of a call.  What it leaves in place has not failed. -/
theorem trace_course {id : ClientId} {opening : Bool} {is : List Incident}
    (hc : Course id opening is) (c : Standing) :
    let results := resultsAbout id (is.flatMap Incident.results)
    let failure := results.findSome? (CallResult.loss opening)
    let d := (is.foldl (Incident.affect id) c).scope
    trace id c is = passagesBetween c.scope d results failure ∧
      (d.current.isSome = true → d.cancelled = c.scope.cancelled ∧ failure = none) := by
  cases hc with
  | waits => exact ⟨(passagesBetween_of_same rfl rfl _ _).symm, fun _ => ⟨rfl, rfl⟩⟩
  | begins token afterFailure ho =>
    simp [trace, Incident.passages, Incident.affect, passagesBetween, Scope.next, resultsAbout,
      Incident.results]
  | ends token f hf =>
    cases hl : f.result.loss opening with
    | none =>
      refine ⟨(passagesBetween_of_same rfl rfl _ _).symm, fun _ => ⟨rfl, ?_⟩⟩
      simp [lostBy, resultsAbout, Incident.results, hf, hl]
    | some reason =>
      simp [trace, lostBy, Incident.passages, Incident.affect, passagesBetween, Scope.ruin,
        resultsAbout, Incident.results, hf, hl, endingOf]
  | opens token afterFailure st f ho hf hd =>
    simp [trace, Incident.passages, Incident.affect, passagesBetween, Scope.next, Scope.install,
      resultsAbout, Incident.results, hf, hd, CallResult.loss]
  | collapses token afterFailure reason f ho hf hl =>
    -- a result that tells of a loss is not that of an opened session
    have hne : CallResult.returned .done ≠ f.result := by
      intro h
      rw [← h] at hl
      cases hl
    simp [trace, Incident.passages, Incident.affect, passagesBetween, Scope.next, Scope.ruin,
      resultsAbout, Incident.results, hf, hl, endingOf, hne]

/-- What has been done, and then perhaps a parting. -/
theorem trace_parting {id : ClientId} {rest : List Incident} {t : System}
    (hp : System.Parting id t rest) (c : Standing) (before : Scope StreamId)
    (results : List CallResult) {failure : Option (Option String)}
    (h : c.scope.current.isSome = true → c.scope.cancelled = before.cancelled ∧ failure = none) :
    rest.flatMap Incident.results = [] ∧
      passagesBetween before c.scope results failure ++ trace id c rest =
        passagesBetween before (rest.foldl (Incident.affect id) c).scope results failure := by
  cases hp with
  | stays => exact ⟨rfl, List.append_nil _⟩
  | goes wasOpen hh =>
    refine ⟨rfl, ?_⟩
    have hs : ([Incident.released id wasOpen].foldl (Incident.affect id) c).scope =
        c.scope.close.2 := by simp [Incident.affect]
    rw [hs, passagesBetween_close results h]
    simp [trace, Incident.passages]

/-- The passages of a call with its parting. -/
theorem trace_play {id : ClientId} {opening : Bool} {is rest : List Incident} {t : System}
    (hc : Course id opening is) (hp : System.Parting id t rest) (c : Standing) :
    let results := resultsAbout id ((is ++ rest).flatMap Incident.results)
    trace id c (is ++ rest) =
      passagesBetween c.scope ((is ++ rest).foldl (Incident.affect id) c).scope results
        (results.findSome? (CallResult.loss opening)) := by
  obtain ⟨ht, hn⟩ := trace_course hc c
  obtain ⟨hr, he⟩ := trace_parting hp (is.foldl (Incident.affect id) c) c.scope _ hn
  rw [List.flatMap_append, hr, List.append_nil, trace_append, List.foldl_append, ht, he]

/-- A goodbye fails nothing, and no call ends with it. -/
theorem trace_goodbye {x : Scenario} {action : Action} {t : System} {id : ClientId}
    {rest : List Incident} (hg : x.Goodbye action t id rest) (c : Standing) :
    rest.flatMap Incident.results = [] ∧
      trace id c rest =
        passagesBetween c.scope (rest.foldl (Incident.affect id) c).scope [] none := by
  have self : passagesBetween c.scope c.scope [] none = [] := passagesBetween_of_same rfl rfl _ _
  cases hg with
  | parts hn hp =>
    obtain ⟨hr, he⟩ := trace_parting hp c c.scope [] fun _ => ⟨rfl, rfl⟩
    rw [self, List.nil_append] at he
    exact ⟨hr, he⟩
  | @closes wasOpen rest hc hp =>
    let d := (Incident.closed id wasOpen).affect id c
    have hd : d.scope = c.scope.close.2 := by simp [d, Incident.affect]
    have hnone : d.scope.current.isSome = true →
        d.scope.cancelled = c.scope.cancelled ∧ (none : Option (Option String)) = none := by
      rw [hd]
      cases h : c.scope.current with
      | none => simp [Scope.close_of_none h, h]
      | some token => simp [Scope.close_of_current h]
    -- the close itself shows that the scope is closed, if one was in place
    have hclose : passagesBetween c.scope d.scope [] none = closing c.scope := by
      rw [hd, passagesBetween_close [] fun _ => ⟨rfl, rfl⟩, self, List.nil_append]
    obtain ⟨hr, he⟩ := trace_parting hp d c.scope [] hnone
    refine ⟨hr, ?_⟩
    rw [trace, List.foldl_cons, ← he, hclose, Incident.passages, if_pos rfl]

/-! ### What a move shows is what its incidents do -/

theorem concerns_course {id : ClientId} {opening : Bool} {is : List Incident}
    (h : Course id opening is) : ∀ i ∈ is, i.Concerns id := by
  intro i hi
  cases h.ofCall hi <;> simp [Incident.Concerns, Incident.subject?]

theorem concerns_parting {id : ClientId} {t : System} {rest : List Incident}
    (h : System.Parting id t rest) : ∀ i ∈ rest, i.Concerns id := by
  intro i hi
  obtain ⟨-, wasOpen, rfl⟩ := h.released hi
  simp [Incident.Concerns, Incident.subject?]

theorem concerns_goodbye {x : Scenario} {action : Action} {t : System} {id : ClientId}
    {rest : List Incident} (h : x.Goodbye action t id rest) : ∀ i ∈ rest, i.Concerns id := by
  intro i hi
  obtain ⟨wasOpen, ⟨rfl, -⟩ | ⟨rfl, -⟩⟩ := h.closed_or_released hi <;>
    simp [Incident.Concerns, Incident.subject?]

/-- What an action does of its own accord begins and ends no scope and is no result. -/
theorem subject?_causes {x : Scenario} {action : Action} {i : Incident} (h : x.Causes action i) :
    i.subject? = none ∧ i.results = [] := by
  cases i <;> first | exact ⟨rfl, rfl⟩ | exact h.elim

theorem resultsOf_eq {x : Scenario} {m : Move} {is : List Incident}
    (hl : x.system.Leads is (x.make m).system) (id : ClientId) :
    x.resultsOf id m = resultsAbout id (is.flatMap Incident.results) := by
  unfold resultsOf
  rw [hl.finished, List.drop_left]

theorem passages_eq {x : Scenario} (hv : x.Valid) {m : Move} {is : List Incident}
    (hl : x.system.Leads is (x.make m).system) (id : ClientId) :
    x.passages id m =
      passagesBetween (x.system.client id).standing.scope
        (is.foldl (Incident.affect id) (x.system.client id).standing).scope
        (resultsAbout id (is.flatMap Incident.results)) (x.failureOf id m) := by
  unfold passages
  rw [resultsOf_eq hl, ← hl.standing hv.system]
  rfl

/-- Where no stream is lost, only a call can fail. -/
theorem failureOf_eq {x : Scenario} {m : Move} {is : List Incident}
    (hl : x.system.Leads is (x.make m).system) {id : ClientId} (hn : x.lossOf id m = none) :
    x.failureOf id m =
      (resultsAbout id (is.flatMap Incident.results)).findSome? (CallResult.loss (x.isOpening m)) := by
  unfold failureOf
  rw [hn, resultsOf_eq hl, Option.none_or]

/-- What concerns other clients leaves a client without passages. -/
theorem passages_of_concerns {x : Scenario} (hv : x.Valid) {m : Move} {is : List Incident}
    (hl : x.system.Leads is (x.make m).system) {id id' : ClientId} (hi : ∀ i ∈ is, i.Concerns id)
    (hne : id' ≠ id) : x.passages id' m = [] := by
  have hsub : ∀ i ∈ is, i.subject? ≠ some id' := fun i h => (hi i h).subject?_ne hne
  obtain ⟨-, hs⟩ := trace_of_subject?_ne hsub (x.system.client id').standing
  rw [passages_eq hv hl, hs]
  exact passagesBetween_of_same rfl rfl _ _

/-- A move without incidents about scopes shows no passages. -/
theorem passages_of_calm {x : Scenario} (hv : x.Valid) {m : Move} {is : List Incident}
    (hl : x.system.Leads is (x.make m).system) (hi : ∀ i ∈ is, i.subject? = none) (id : ClientId) :
    x.passages id m = trace id (x.system.client id).standing is := by
  have hsub : ∀ i ∈ is, i.subject? ≠ some id := by
    intro i h
    rw [hi i h]
    simp
  obtain ⟨ht, hs⟩ := trace_of_subject?_ne hsub (x.system.client id).standing
  rw [ht, passages_eq hv hl, hs]
  exact passagesBetween_of_same rfl rfl _ _

/-- An action shows what its goodbye does. -/
theorem passages_act {x : Scenario} (hv : x.Valid) {action : Action} {front rest : List Incident}
    {id : ClientId} (hf : ∀ i ∈ front, x.Causes action i)
    (hg : x.Goodbye action (x.make (.act action)).system id rest)
    (hl : x.system.Leads (front ++ rest) (x.make (.act action)).system) :
    x.passages id (.act action) = trace id (x.system.client id).standing (front ++ rest) := by
  have hsub : ∀ i ∈ front, i.subject? ≠ some id := by
    intro i h
    rw [(subject?_causes (hf i h)).1]
    simp
  obtain ⟨ht, hs⟩ := trace_of_subject?_ne hsub (x.system.client id).standing
  have hr : front.flatMap Incident.results = [] :=
    List.flatMap_eq_nil_iff.mpr fun i h => (subject?_causes (hf i h)).2
  rw [passages_eq hv hl, failureOf_eq hl rfl, List.flatMap_append, hr, List.nil_append,
    trace_append, ht, List.nil_append, List.foldl_append]
  generalize front.foldl (Incident.affect id) (x.system.client id).standing = c at hs
  obtain ⟨hr', he⟩ := trace_goodbye hg c
  rw [← hs, hr', he]
  rfl

/-- A request on a client shows what its call does. -/
theorem passages_start {x : Scenario} (hv : x.Valid) {name : String} {request : Request}
    {is rest : List Incident} {id : ClientId} (hc : Course id request.opens is)
    (hp : System.Parting id (x.make (.start name request)).system rest)
    (hl : x.system.Leads (is ++ rest) (x.make (.start name request)).system) :
    x.passages id (.start name request) = trace id (x.system.client id).standing (is ++ rest) := by
  rw [passages_eq hv hl, failureOf_eq hl rfl]
  exact (trace_play hc hp (x.system.client id).standing).symm

theorem isOpening_poll {x : Scenario} {call : CallId}
    (hr : x.system.ready.head? = some (.resume call)) :
    x.isOpening .poll = x.system.opens call := by
  obtain ⟨rest, hready⟩ := List.head?_eq_some_iff.mp hr
  simp only [isOpening, hready]

/-- A waiting call that goes on shows what it does. -/
theorem passages_resume {x : Scenario} (hv : x.Valid) {call : CallId} {is rest : List Incident}
    (hr : x.system.ready.head? = some (.resume call))
    (hc : Course call.client (x.system.opens call) is)
    (hp : System.Parting call.client (x.make .poll).system rest)
    (hl : x.system.Leads (.idled (.resume call) :: (is ++ rest)) (x.make .poll).system) :
    x.passages call.client .poll =
      trace call.client (x.system.client call.client).standing
        (.idled (.resume call) :: (is ++ rest)) := by
  have hloss : x.lossOf call.client .poll = none := by
    rw [lossOf, System.loses, listens_of_head hr (by simp)]
  rw [passages_eq hv hl, failureOf_eq hl hloss, isOpening_poll hr]
  exact (trace_play hc hp (x.system.client call.client).standing).symm

/-- An inbound loop that loses its stream shows that its session fails. -/
theorem passages_loses {x : Scenario} (hv : x.Valid) {id : ClientId} {token : Token} {st : StreamId}
    {reason : Option String} (hs : x.system.loses = some (id, reason))
    (hl : x.system.Leads [.lost id token reason, .left st] (x.make .poll).system) :
    x.passages id .poll =
      trace id (x.system.client id).standing [.lost id token reason, .left st] := by
  have hf : x.failureOf id .poll = some reason := by
    rw [failureOf, lossOf, hs]
    simp
  rw [passages_eq hv hl, hf]
  simp [trace, Incident.passages, Incident.affect, passagesBetween, Scope.ruin, endingOf]

/-- A move concerns the scopes of one client, and shows the passages of its incidents. -/
theorem passages_make {x : Scenario} (hv : x.Valid) {m : Move} {is : List Incident}
    (hm : Makes x (x.make m).system m is) (hl : x.system.Leads is (x.make m).system) :
    ∃ id, (∀ i ∈ is, i.Concerns id) ∧
      x.passages id m = trace id (x.system.client id).standing is := by
  -- a move without a subject shows nothing, of whichever client
  have calm : (∀ i ∈ is, i.subject? = none) → ∃ id, (∀ i ∈ is, i.Concerns id) ∧
      x.passages id m = trace id (x.system.client id).standing is := fun h =>
    ⟨default, fun i hi => Incident.concerns_of_none (h i hi) _, passages_of_calm hv hl h default⟩
  cases hm with
  | acts action front id rest hf hg =>
    refine ⟨id, ?_, passages_act hv hf hg hl⟩
    intro i hi
    rcases List.mem_append.mp hi with hi | hi
    · exact Incident.concerns_of_none (subject?_causes (hf i hi)).1 id
    · exact concerns_goodbye hg i hi
  | plays name request id is rest hc hp =>
    refine ⟨id, ?_, passages_start hv hc hp hl⟩
    intro i hi
    exact (List.mem_append.mp hi).elim (concerns_course hc i) (concerns_parting hp i)
  | foreign name request hf => exact calm (by simp [Incident.subject?])
  | advances span => exact calm (by simp)
  | polls is hp =>
    cases hp with
    | loses id token st reason hr hs =>
      refine ⟨id, ?_, passages_loses hv hs hl⟩
      simp [Incident.Concerns, Incident.subject?]
    | resumes call is rest hr hc hp =>
      refine ⟨call.client, ?_, passages_resume hv hr hc hp hl⟩
      intro i hi
      rcases List.mem_cons.mp hi with rfl | hi
      · exact Incident.concerns_of_none rfl _
      · exact (List.mem_append.mp hi).elim (concerns_course hc i) (concerns_parting hp i)
    | _ => exact calm (by simp [Incident.subject?])

/-- What a move shows of any client is what its incidents do. -/
theorem passages_eq_trace {x : Scenario} (hv : x.Valid) {m : Move} {is : List Incident}
    (hm : Makes x (x.make m).system m is) (hl : x.system.Leads is (x.make m).system) (id : ClientId) :
    x.passages id m = trace id (x.system.client id).standing is := by
  obtain ⟨id', hi, hp⟩ := passages_make hv hm hl
  by_cases he : id = id'
  · rw [he, hp]
  · rw [passages_of_concerns hv hl hi he,
      (trace_of_subject?_ne (fun i hmem => (hi i hmem).subject?_ne he) _).1]

/-! ### The course of a run -/

/-- Where only one of some distinct keys yields anything. -/
theorem flatMap_of_single {κ β : Type} {keys : List κ} (hn : keys.Nodup) {a : κ} {f : κ → List β}
    (h : ∀ k, k ≠ a → f k = []) (ha : a ∉ keys → f a = []) : keys.flatMap f = f a := by
  induction keys with
  | nil => exact (ha (by simp)).symm
  | cons k rest ih =>
    obtain ⟨hk, hrest⟩ := List.nodup_cons.mp hn
    rw [List.flatMap_cons]
    by_cases he : k = a
    · subst he
      have hnil : rest.flatMap f = [] := by
        rw [List.flatMap_eq_nil_iff]
        intro k' hm
        refine h k' ?_
        rintro rfl
        exact hk hm
      rw [hnil, List.append_nil]
    · rw [h k he, List.nil_append]
      refine ih hrest fun hm => ha ?_
      rw [List.mem_cons]
      rintro (rfl | hm')
      · exact he rfl
      · exact hm hm'

/-- The course of sessions in a move is that of the client whom its incidents concern. -/
theorem courseOf_eq {x : Scenario} (hv : x.Valid) {m : Move} {is : List Incident}
    (hl : x.system.Leads is (x.make m).system) {id : ClientId} (hi : ∀ i ∈ is, i.Concerns id) :
    x.courseOf m = (x.passages id m).map fun p => (id, p) := by
  refine flatMap_of_single (hv.make m).system.nodup (fun id' hne => ?_) fun hn => ?_
  · rw [passages_of_concerns hv hl hi hne]
    rfl
  · -- a client that does not exist has not begun a scope
    have hnew : ¬ x.system.Knows id := fun hk => hn (hl.knows hv.system hk)
    have hb := System.client_eq_default hnew
    have ha := System.client_eq_default (s := (x.make m).system) hn
    unfold passages
    rw [hb, ha, passagesBetween_of_same rfl rfl]
    rfl

/-- What the course of sessions so far says of a scenario. -/
structure Chronicled (x : Scenario) (past : Chronicle) : Prop where
  named : x.system.Named
  tells : ∀ id, Tells (x.system.client id).scope (passagesOf id past)

/-- A move carries the course of sessions on, and posts the events that this calls for. -/
theorem Chronicled.make {x : Scenario} {past : Chronicle} (h : x.Chronicled past) (hv : x.Valid)
    (m : Move) :
    (x.make m).Chronicled (past ++ x.courseOf m) ∧
      (x.make m).system.lifecycle = x.system.lifecycle ++ eventsFrom past (x.courseOf m) := by
  rcases observes_or_leads hv m with ⟨posted, outcome, rfl⟩ | ⟨is, hmake, hl⟩
  · have hc : x.courseOf (.observe posted outcome) = [] := by
      unfold courseOf
      rw [List.flatMap_eq_nil_iff]
      intro id _
      have hp : x.passages id (.observe posted outcome) = [] := passagesBetween_of_same rfl rfl _ _
      rw [hp]
      rfl
    rw [hc, List.append_nil]
    exact ⟨⟨h.named, h.tells⟩, (List.append_nil _).symm⟩
  -- the incidents of a move are about one client
  · obtain ⟨id, hi, hp⟩ := passages_make hv hmake hl
    have hc := courseOf_eq hv hl hi
    rw [hp] at hc
    refine ⟨⟨hl.named hv.system h.named, fun id' => ?_⟩, ?_⟩
    · have ht := hl.tells hv.system (h.tells id')
      rw [hc, passagesOf_append, passagesOf_map]
      by_cases he : id = id'
      · subst he
        rwa [if_pos rfl]
      · have hsub : ∀ i ∈ is, i.subject? ≠ some id' :=
          fun i hm => (hi i hm).subject?_ne fun h => he h.symm
        rw [(trace_of_subject?_ne hsub _).1] at ht
        rwa [if_neg he]
    · rw [hc, eventsFrom_map]
      exact hl.posts hv.system h.named (h.tells id) hi

/-- So does a run, with the events in the order of the passages. -/
theorem Chronicled.after {x : Scenario} {past : Chronicle} (h : x.Chronicled past) (hv : x.Valid)
    (ms : List Move) :
    (x.after ms).Chronicled (past ++ x.course ms) ∧
      (x.after ms).system.lifecycle = x.system.lifecycle ++ eventsFrom past (x.course ms) := by
  induction ms generalizing x past with
  | nil =>
    rw [course, List.append_nil]
    exact ⟨h, (List.append_nil _).symm⟩
  | cons m rest ih =>
    obtain ⟨hm, hl⟩ := h.make hv m
    obtain ⟨ha, hr⟩ := ih hm (hv.make m)
    rw [course, ← List.append_assoc]
    refine ⟨ha, ?_⟩
    rw [eventsFrom_append, ← List.append_assoc, ← hl]
    exact hr

/-! ### Scopes that stay in place -/

/-- Scopes do not become fewer in a move, and one that has begun before and is in place afterwards has been
left alone. -/
theorem scope_make {x : Scenario} (hv : x.Valid) (m : Move) (id : ClientId) :
    (x.system.client id).scope.begun ≤ ((x.make m).system.client id).scope.begun ∧
      ∀ token, token < (x.system.client id).scope.begun →
        ((x.make m).system.client id).scope.current = some token →
          ((x.make m).system.client id).scope = (x.system.client id).scope := by
  rcases observes_or_leads hv m with ⟨posted, outcome, rfl⟩ | ⟨is, -, hl⟩
  · exact ⟨Nat.le_refl _, fun _ _ _ => rfl⟩
  · refine ⟨hl.begun_le hv.system id, fun token hb hc => ?_⟩
    have he := congrArg Standing.scope (hl.standing hv.system id)
    rw [show ((x.make m).system.client id).scope = _ from he] at hc ⊢
    exact scope_foldl is id hb hc

/-! ### Who ends a session -/

theorem mem_trace {is : List Incident} {id : ClientId} {c : Standing} {p : Passage}
    (h : p ∈ trace id c is) : ∃ i ∈ is, ∃ d, p ∈ i.passages id d := by
  induction is generalizing c with
  | nil => cases h
  | cons i rest ih =>
    rcases List.mem_append.mp h with hi | hr
    · exact ⟨i, List.mem_cons_self, c, hi⟩
    · obtain ⟨j, hj, hd⟩ := ih hr
      exact ⟨j, List.mem_cons_of_mem _ hj, hd⟩

/-- The incidents by which a scope ends. -/
theorem incident_of_ended {i : Incident} {id : ClientId} {c : Standing} {how : Ending}
    (h : .ended how ∈ i.passages id c) :
    how = .closed ∧ (∃ wasOpen, i = .closed id wasOpen ∨ i = .released id wasOpen) ∨
      ∃ token reason, i = .lost id token reason := by
  -- A client that closes and one that is let go of leave the same trace.
  have close : ∀ {id' : ClientId}, .ended how ∈ (if id' = id then closing c.scope else []) →
      id' = id ∧ how = .closed := by
    intro id' h
    split at h
    · next he =>
      unfold closing at h
      split at h
      · simp_all
      · cases h
    · cases h
  cases i with
  | closed id' wasOpen =>
    obtain ⟨rfl, hh⟩ := close h
    exact .inl ⟨hh, wasOpen, .inl rfl⟩
  | released id' wasOpen =>
    obtain ⟨rfl, hh⟩ := close h
    exact .inl ⟨hh, wasOpen, .inr rfl⟩
  | lost id' token reason =>
    simp only [Incident.passages] at h
    split at h
    · next he => exact .inr ⟨token, reason, by rw [he]⟩
    · cases h
  | began id' token afterFailure =>
    simp only [Incident.passages] at h
    split at h <;> simp at h
  | opened id' token afterFailure st =>
    simp only [Incident.passages] at h
    split at h <;> simp at h
  | _ => cases h

/-- Who can be behind an end of a scope in a move that leads to `t`: one who closes the session, or
the last holder that lets go of the client.  Failures are found by tasks and requests. -/
def Accounts (x : Scenario) (t : System) (m : Move) : Incident → Prop
  | .closed id _ => x.closesBy id m = true
  | .released id _ => t.isHeld id = false
  | .lost _ _ _ => ∀ action, m ≠ .act action
  | _ => True

/-- Somebody can be behind every end of a scope. -/
theorem accounts_make {x : Scenario} {t : System} {m : Move} {is : List Incident}
    (hm : Makes x t m is) : ∀ i ∈ is, Accounts x t m i := by
  intro i hi
  cases hm.ofMove hi with
  | causes action hc =>
    have hs := (subject?_causes hc).1
    cases i <;> trivial
  | closed action id wasOpen hc => exact hc
  | released m id wasOpen hh => exact hh
  | call name request id hi => cases hi <;> simp [Accounts]
  | foreign name request hf => trivial
  | task hi =>
    cases hi with
    | call K hr hi => cases hi <;> simp [Accounts]
    | released id wasOpen hh => exact hh
    | lost id token reason hl => simp [Accounts]
    | _ => trivial

/-- A session that a move shows as closed is closed by someone, or nobody holds the client any more;
and an action never shows one as failed. -/
theorem ending_of_passages {x : Scenario} (hv : x.Valid) {id : ClientId} {m : Move} {how : Ending}
    (h : .ended how ∈ x.passages id m) :
    (how = .closed → x.closesBy id m = true ∨ (x.make m).system.isHeld id = false) ∧
      ∀ action, m = .act action → how = .closed := by
  have hobs : ∀ posted outcome, m ≠ .observe posted outcome := by
    rintro posted outcome rfl
    have hp : x.passages id (.observe posted outcome) = [] := passagesBetween_of_same rfl rfl _ _
    rw [hp] at h
    cases h
  obtain ⟨is, hmake, hl⟩ := leads_make hv hobs
  obtain ⟨id', hi, hp⟩ := passages_make hv hmake hl
  -- a move shows endings of one client only
  have he : id = id' := by
    refine Decidable.byContradiction fun hne => ?_
    rw [passages_of_concerns hv hl hi hne] at h
    cases h
  subst he
  rw [hp] at h
  obtain ⟨i, hm, d, hd⟩ := mem_trace h
  have ha := accounts_make hmake i hm
  rcases incident_of_ended hd with ⟨hc, wasOpen, rfl | rfl⟩ | ⟨token, reason, rfl⟩
  · exact ⟨fun _ => .inl ha, fun _ _ => hc⟩
  · exact ⟨fun _ => .inr ha, fun _ _ => hc⟩
  · refine ⟨fun hc => ?_, fun action hact => absurd hact (ha action)⟩
    subst hc
    simp only [Incident.passages] at hd
    split at hd <;> simp at hd

end Scenario

end P4Control
