import P4Control.Proofs.Cursors
import P4Control.Proofs.Stores

namespace P4Control

/-!
# A read is a snapshot

The switch puts the answer to a read together when it takes the read, so a caller gets what the table
held then, whatever is written later and however slowly the entities are taken.

* `Served` — what a caller can have got from a read.
* `ReadStream.Stands` — where a stream stands after that.
* `draws_stands` — what is taken in a run, and `draws_late` — what is taken after the session has ended.
* `read_snapshot` — a read yields a prefix of a snapshot of the table.
-/

/-- Entities that have been taken one by one. -/
def served (es : List Entity) : List CallResult := es.map fun e => .returned (.entity e)

/-- The end of a read, reported `k` times. -/
def endings (k : Nat) : List CallResult := List.replicate k (.returned .noMore)

/-- What a caller can have got from a read of the entities `es`: the first of them; all of them and then
the end, if the stream is not held; or the first of them, and then once that the session has ended, and
then the end. -/
inductive Served (es : List Entity) (held : Bool) (ended : Prop) (cancelled : CallResult) :
    List CallResult → Prop
  | part (n : Nat) (hn : n ≤ es.length) : Served es held ended cancelled (served (es.take n))
  | whole (k : Nat) (hheld : held = false) :
      Served es held ended cancelled (served es ++ endings (k + 1))
  | cut (n k : Nat) (hn : n ≤ es.length) (he : ended) :
      Served es held ended cancelled (served (es.take n) ++ cancelled :: endings k)

theorem endings_succ (k : Nat) : endings (k + 1) = endings k ++ [.returned .noMore] :=
  List.replicate_succ'

namespace ReadStream

/-- Where a stream of `es` in chunks of `size` stands when a caller has got the given results. -/
inductive Stands (es : List Entity) (size : Nat) (held : Bool) (ended : Prop) (cancelled : CallResult) :
    List CallResult → ReadStream → Prop
  | part (n : Nat) (hn : n ≤ es.length) :
      Stands es size held ended cancelled (served (es.take n)) (taken size held es n)
  | whole (k : Nat) (hheld : held = false) :
      Stands es size held ended cancelled (served es ++ endings (k + 1)) .spent
  | broken (n : Nat) (hn : n ≤ es.length) (he : ended) :
      Stands es size held ended cancelled (served (es.take n) ++ [cancelled]) .broken
  | cut (n k : Nat) (hn : n ≤ es.length) (he : ended) :
      Stands es size held ended cancelled (served (es.take n) ++ cancelled :: endings (k + 1)) .spent

variable {es : List Entity} {size : Nat} {held : Bool} {ended ended' : Prop} {cancelled : CallResult}
  {results : List CallResult} {r : ReadStream}

theorem Stands.served (h : Stands es size held ended cancelled results r) :
    Served es held ended cancelled results := by
  cases h with
  | part n hn => exact .part n hn
  | whole k hheld => exact .whole k hheld
  | broken n hn he => exact .cut n 0 hn he
  | cut n k hn he => exact .cut n (k + 1) hn he

theorem Stands.mono (h : Stands es size held ended cancelled results r) (hm : ended → ended') :
    Stands es size held ended' cancelled results r := by
  cases h with
  | part n hn => exact .part n hn
  | whole k hheld => exact .whole k hheld
  | broken n hn he => exact .broken n hn (hm he)
  | cut n k hn he => exact .cut n k hn (hm he)

theorem served_take_succ {n : Nat} (hn : n < es.length) :
    P4Control.served (es.take (n + 1)) =
      P4Control.served (es.take n) ++ [.returned (.entity es[n])] := by
  unfold P4Control.served
  rw [List.take_succ_eq_append_getElem hn, List.map_append]
  rfl

/-- One more is taken from a stream, or it waits because all entities have been taken. -/
theorem Stands.next (hs : 0 < size) (h : Stands es size held ended cancelled results r) {noticed : Bool}
    (ho : noticed = true → ended) {step : ReadStep} {left : ReadStream}
    (hstep : r.next noticed = (step, left)) :
    (∃ result, step.result? cancelled = some result ∧
      Stands es size held ended cancelled (results ++ [result]) left) ∨
    step = .waiting ∧ held = true ∧ noticed = false ∧ results = P4Control.served es := by
  cases h with
  | part n hn =>
    -- Either there is one more to take, or it depends on whether the stream is held open.
    rcases Nat.lt_or_eq_of_le hn with hlt | rfl
    · rw [next_taken hs hlt] at hstep
      split at hstep
      · next hc =>
        cases hstep
        exact .inl ⟨cancelled, rfl, .broken n hn (ho hc.2)⟩
      · cases hstep
        refine .inl ⟨_, rfl, ?_⟩
        rw [← served_take_succ hlt]
        exact .part (n + 1) hlt
    · rw [next_taken_all] at hstep
      split at hstep
      · next hc =>
        cases hstep
        exact .inl ⟨cancelled, rfl, .broken _ hn (ho hc)⟩
      · next hc =>
        split at hstep
        · next hheld =>
          cases hstep
          exact .inr ⟨rfl, hheld, eq_false_of_ne_true hc, by rw [List.take_length]⟩
        · next hheld =>
          cases hstep
          rw [List.take_length]
          exact .inl ⟨_, rfl, .whole 0 (eq_false_of_ne_true hheld)⟩
  | whole k hheld =>
    cases hstep
    refine .inl ⟨_, rfl, ?_⟩
    rw [List.append_assoc, ← endings_succ]
    exact .whole (k + 1) hheld
  | broken n hn he =>
    cases hstep
    refine .inl ⟨_, rfl, ?_⟩
    rw [List.append_assoc]
    exact .cut n 0 hn he
  | cut n k hn he =>
    cases hstep
    refine .inl ⟨_, rfl, ?_⟩
    rw [List.append_assoc, List.cons_append, ← endings_succ]
    exact .cut n (k + 1) hn he

theorem mem_served {l : List Entity} {result : CallResult} (h : result ∈ P4Control.served l) :
    ∃ e, result = .returned (.entity e) := by
  obtain ⟨e, -, rfl⟩ := List.mem_map.mp h
  exact ⟨e, rfl⟩

/-- Where a stream stands of which nothing but entities has been got. -/
theorem Stands.stream_of_served {n : Nat} {error : ClientError}
    (h : Stands es size held ended (.failed error) results r) (hn : n ≤ es.length)
    (hr : results = P4Control.served (es.take n)) : r = taken size held es n := by
  have entities : ∀ result ∈ results, ∃ e, result = .returned (.entity e) :=
    fun result hm => mem_served (hr ▸ hm)
  cases h with
  | part m hm =>
    have hlength := congrArg List.length hr
    simp only [P4Control.served, List.length_map, List.length_take, Nat.min_eq_left hm,
      Nat.min_eq_left hn] at hlength
    rw [hlength]
  | whole k =>
    obtain ⟨e, he⟩ := entities (.returned .noMore) (List.mem_append_right _ List.mem_cons_self)
    cases he
  | broken m =>
    obtain ⟨e, he⟩ := entities (.failed error) (List.mem_append_right _ List.mem_cons_self)
    cases he
  | cut m k =>
    obtain ⟨e, he⟩ := entities (.failed error) (List.mem_append_right _ List.mem_cons_self)
    cases he

/-! ### After the end of the session -/

/-- What the next `k` calls get that take from a stream whose session has ended. -/
def drain (cancelled : CallResult) : (k : Nat) → ReadStream → List CallResult
  | 0, _ => []
  | k + 1, r => ((r.next true).1.result? cancelled).toList ++ drain cancelled k (r.next true).2

theorem drain_spent (cancelled : CallResult) (k : Nat) : drain cancelled k .spent = endings k := by
  induction k with
  | zero => rfl
  | succ k ih => exact congrArg (_ :: ·) ih

theorem drain_broken (cancelled : CallResult) (k : Nat) : drain cancelled k .broken = endings k := by
  cases k with
  | zero => rfl
  | succ k => exact congrArg (_ :: ·) (drain_spent cancelled k)

theorem take_endings (l : List CallResult) (k : Nat) :
    (l ++ cancelled :: endings (k + 1)).take k = (l ++ cancelled :: endings k).take k := by
  have hlong : k ≤ (l ++ cancelled :: endings k).length := by
    rw [List.length_append, List.length_cons, endings, List.length_replicate]
    omega
  rw [endings_succ, ← List.cons_append, ← List.append_assoc, List.take_append_of_le_length hlong]

/-- The rest of the chunk that has been fetched, when `n` entities have been taken. -/
def chunkRest (size : Nat) (es : List Entity) (n : Nat) : List Entity :=
  (es.drop n).take (room size n)

/-- After the end of the session there is nothing to wait for, and nothing that can fail. -/
theorem next_ended (cancelled : CallResult) (r : ReadStream) :
    ∃ result, (r.next true).1.result? cancelled = some result := by
  obtain ⟨fetched, chunks, held, phase⟩ := r
  cases phase with
  | running => cases fetched <;> exact ⟨_, rfl⟩
  | broken | finished => exact ⟨_, rfl⟩

/-- A caller still gets what has been fetched, and then once that the session has ended. -/
theorem drain_running {r : ReadStream} (h : r.phase = .running) (k : Nat) :
    drain cancelled k r = (P4Control.served r.fetched ++ cancelled :: endings k).take k := by
  induction k generalizing r with
  | zero => rfl
  | succ k ih =>
    obtain ⟨fetched, chunks, held, phase⟩ := r
    obtain rfl : phase = .running := h
    cases fetched with
    | nil =>
      have htake : (endings (k + 1)).take k = endings k := by
        rw [endings, List.take_replicate, Nat.min_eq_left (Nat.le_succ k)]
        rfl
      show cancelled :: drain cancelled k .broken = cancelled :: (endings (k + 1)).take k
      rw [drain_broken, htake]
    | cons e rest =>
      show .returned (.entity e) :: drain cancelled k { fetched := rest, chunks, held } =
        .returned (.entity e) :: (P4Control.served rest ++ cancelled :: endings (k + 1)).take k
      rw [ih rfl, take_endings]

/-- What has been fetched is the rest of the chunk. -/
theorem drain_taken (held : Bool) (n k : Nat) :
    drain cancelled k (taken size held es n) =
      (P4Control.served (chunkRest size es n) ++ cancelled :: endings k).take k := by
  rw [drain_running rfl]
  unfold taken chunkRest
  rw [fst_cut]

end ReadStream

namespace Scenario

open ReadStream

variable {x y : Scenario} {r left : ReadCursor} {results : List CallResult} {es : List Entity}
  {size : Nat} {held : Bool} {cancelled : CallResult}

/-- The session has ended in which the read was made. -/
def HasEnded (x : Scenario) (r : ReadCursor) : Prop :=
  (x.system.client r.client).scope.isCancelled r.token = true

/-! ### What is taken in a run -/

/-- A run in which something is taken from a stream is a run. -/
theorem Draws.after (h : Draws x r results y left) : ∃ ms, y = x.after ms := by
  induction h with
  | none x r => exact ⟨[], rfl⟩
  | move x y r left results m h ih =>
    obtain ⟨ms, rfl⟩ := ih
    exact ⟨m :: ms, rfl⟩
  | take x y r next left results name stream ms result hr hf h ih =>
    obtain ⟨ns, rfl⟩ := ih
    exact ⟨.start name (.readNext stream) :: ms ++ ns, (after_append ..).symm⟩

/-- What a run keeps of the client that a read was made on. -/
theorem readCancelled_after (ho : x.Orderly) {id : ClientId} (hk : x.system.Knows id)
    (ms : List Move) : (x.after ms).system.readCancelled id = x.system.readCancelled id := by
  unfold System.readCancelled
  rw [(key_after ho hk ms).2]

theorem HasEnded.after (h : x.HasEnded r) (ho : x.Orderly) (ms : List Move) :
    (x.after ms).HasEnded r :=
  cancelled_after ho h ms

/-- Whoever takes from a stream in a run gets what the stream holds. -/
theorem draws_stands (h : Draws x r results y left) (ho : x.Orderly)
    (hk : x.system.Knows r.client) (hc : x.system.readCancelled r.client = cancelled)
    (hs : 0 < size) {told : List CallResult}
    (hst : Stands es size held (x.HasEnded r) cancelled told r.stream) :
    (left.client = r.client ∧ left.token = r.token) ∧
      Stands es size held (y.HasEnded r) cancelled (told ++ results) left.stream := by
  -- on the run; a call that takes from the stream may still be pending for some moves
  induction h generalizing told with
  | none x r => exact ⟨⟨rfl, rfl⟩, (List.append_nil told).symm ▸ hst⟩
  | move x y r left results m h ih =>
    exact ih (ho.make m) (key_make ho.valid hk m).1
      ((readCancelled_after ho hk [m]).trans hc) (hst.mono fun he => he.after ho [m])
  | take x y r next left results name stream ms result hr hf h ih =>
    generalize hstep : r.stream.next ((x.system.client r.client).scope.isCancelled r.token) = taken
    obtain ⟨step, rest⟩ := taken
    have hnext := hst.next hs (fun he => he) hstep
    have hmoves : (x.make (.start name (.readNext stream))).after ms =
        x.after (.start name (.readNext stream) :: ms) := rfl
    have hfailed : ∀ status, step ≠ .failed status := by
      rintro status rfl
      obtain ⟨result, hresult, -⟩ | ⟨hwaiting, -⟩ := hnext
      · cases hresult
      · cases hwaiting
    have hown : (next.client = r.client ∧ next.token = r.token) ∧
        Stands es size held (((x.make (.start name (.readNext stream))).after ms).HasEnded r)
          cancelled (told ++ [result]) next.stream := by
      obtain ⟨hresult, hcursor⟩ | ⟨rfl, hresult, hcursor, hended⟩ :=
        take_cases ho hr hstep hfailed ms hf rfl
      · obtain rfl := Option.some.inj hcursor
        rw [hc] at hresult
        obtain ⟨result', hresult', hst'⟩ | ⟨rfl, -⟩ := hnext
        · obtain rfl := Option.some.inj (hresult.symm.trans hresult')
          exact ⟨⟨rfl, rfl⟩, hst'.mono fun he => he.after ho (_ :: ms)⟩
        · cases hresult
      · obtain rfl := Option.some.inj hcursor
        obtain rfl : result = cancelled := hresult.trans hc
        obtain ⟨result', hresult', -⟩ | ⟨-, hheld, -, rfl⟩ := hnext
        · cases hresult'
        · have hbroken : Stands es size held _ result (served (es.take es.length) ++ [result]) .broken :=
            .broken es.length (Nat.le_refl _) hended
          rw [List.take_length] at hbroken
          exact ⟨⟨rfl, rfl⟩, hbroken⟩
    obtain ⟨⟨hclient, htoken⟩, hst'⟩ := hown
    have hsame : ∀ z : Scenario, z.HasEnded next ↔ z.HasEnded r := fun z => by
      unfold HasEnded
      rw [hclient, htoken]
    rw [hmoves] at ih hst'
    obtain ⟨⟨hclient', htoken'⟩, hst''⟩ := ih (ho.after _) (hclient ▸ (key_after ho hk _).1)
      (by rw [hclient, readCancelled_after ho hk, hc]) (hst'.mono (hsame _).mpr)
    refine ⟨⟨hclient'.trans hclient, htoken'.trans htoken⟩, ?_⟩
    rw [List.append_assoc] at hst''
    exact hst''.mono (hsame _).mp

/-- Whoever takes from a stream after the session has ended gets what has been fetched, and is told so. -/
theorem draws_late (h : Draws x r results y left) (ho : x.Orderly) (hk : x.system.Knows r.client)
    (hc : x.system.readCancelled r.client = cancelled) (he : x.HasEnded r) :
    results = drain cancelled results.length r.stream := by
  induction h with
  | none x r => rfl
  | move x y r left results m h ih =>
    exact ih (ho.make m) (key_make ho.valid hk m).1 ((readCancelled_after ho hk [m]).trans hc)
      (he.after ho [m])
  | take x y r next left results name stream ms result hr hf h ih =>
    obtain ⟨result', hresult'⟩ := next_ended cancelled r.stream
    generalize hstep : r.stream.next true = taken at hresult'
    obtain ⟨step, rest⟩ := taken
    have hstep' := hstep
    rw [← show (x.system.client r.client).scope.isCancelled r.token = true from he] at hstep'
    -- in a session that has ended, no status is waited for
    have hfailed : ∀ status, step ≠ .failed status := by
      rintro status rfl
      cases hresult'
    obtain ⟨hresult, hcursor⟩ | ⟨rfl, -⟩ := take_cases ho hr hstep' hfailed ms hf rfl
    · obtain rfl := Option.some.inj hcursor
      rw [hc, hresult'] at hresult
      obtain rfl := Option.some.inj hresult
      have hrest := ih (ho.after (_ :: ms)) (key_after ho hk (_ :: ms)).1
        ((readCancelled_after ho hk (_ :: ms)).trans hc) (he.after ho (_ :: ms))
      rw [List.length_cons, drain, hstep, hresult']
      exact congrArg (result' :: ·) hrest
    · cases hresult'

/-- Whoever takes from a stream gets something at once, or waits because all entities have been taken and
the switch holds the stream. -/
theorem take_returns (ho : x.Orderly) (hc : x.system.readCancelled r.client = cancelled)
    (hs : 0 < size) {told : List CallResult}
    (hst : Stands es size held (x.HasEnded r) cancelled told r.stream) (name : String)
    {stream : String} (hr : x.reads.find? stream = some r) :
    (∃ result next, (x.make (.start name (.readNext stream))).system.finished =
      x.system.finished ++ [⟨(x.system.newCall r.client).2, result, some next⟩]) ∨
    held = true ∧ told = served es ∧ ¬ x.HasEnded r ∧
      (x.make (.start name (.readNext stream))).system.Awaits (x.system.newCall r.client).2 r.token := by
  obtain ⟨stray, ha⟩ := ho.attended
  generalize hstep : r.stream.next ((x.system.client r.client).scope.isCancelled r.token) = taken
  obtain ⟨step, rest⟩ := taken
  rw [system_readNext hr]
  obtain ⟨result, hresult, -⟩ | ⟨rfl, hheld, hover, htold⟩ := hst.next hs (fun he => he) hstep
  · exact .inl ⟨result, _, System.readNext_returns hstep (hc.symm ▸ hresult)⟩
  · refine .inr ⟨hheld, htold, fun he => ?_, (System.readNext_waits ha hstep).2⟩
    rw [show (x.system.client r.client).scope.isCancelled r.token = true from he] at hover
    cases hover

/-- A call that waits for a chunk after the session has ended is told so in the end. -/
theorem chunk_cancelled (ho : x.Orderly) {K : CallId} {token : Token} {error : ClientError}
    (hc : x.system.readCancelled K.client = .failed error)
    (he : (x.system.client K.client).scope.isCancelled token = true)
    (hw : x.system.WaitsFor K (.chunk token)) : x.system.Fails K error x.system.settle := by
  obtain ⟨stray, ha⟩ := ho.attended
  exact settle_cancels ho.valid ha
    ⟨_, token, .read, hw, rfl, he, (CallResult.failed.inj hc).symm⟩

end Scenario

/-! ### The answer of the switch -/

/-- A query selects the entities of its kind, unless it names another object or another key. -/
theorem EntityTable.select_eq (t : EntityTable) (queries : List Entity) :
    t.select queries = t.filter fun e => decide (∃ q ∈ queries, q.kind = e.kind ∧
      (q.id = 0 ∨ q.id = e.id) ∧ (q.key = [] ∨ q.key = e.key)) := by
  refine List.filter_congr fun e _ => ?_
  rw [Bool.eq_iff_iff, List.any_eq_true, decide_eq_true_eq]
  refine exists_congr fun q => and_congr_right fun _ => ?_
  simp [Entity.selects, and_assoc]

/-- The agent answers a read, if no fault waits for it. -/
theorem Agent.read_taken {a : Agent} (query : EntityQuery) (hfault : a.nextFault .read = none) :
    (a.read query).2 =
      .reply ⟨(chunksOf a.chunkSize (a.entities.select query.queries)).map .item, a.holdsReads⟩ := by
  obtain ⟨-, he⟩ | ⟨⟨fault, hf⟩, -⟩ := answer_cases (rfl : _ = a.read query)
  · rw [he, enter_eq]
  · rw [hfault] at hf
    cases hf

namespace System

/-- A read in the open session goes on with the answer of the agent. -/
theorem submitRead_taken {s : System} {K : CallId} {request : ReadRequest} {token : Token}
    (goOn : System → Token → ReadStream → System) (herror : request.error = none)
    (hne : request.queries ≠ []) (hopen : (s.client K.client).scope.openToken? = some token)
    {w : Switch} (hw : s.switch (s.client K.client).switch = w) (hscript : w.scriptedReads = [])
    (hfault : w.agent.nextFault .read = none) :
    ∃ w', s.submitRead K request goOn =
      goOn (s.updateSwitch (s.client K.client).switch fun _ => w') token
        (.taken (max w.agent.chunkSize 1) w.agent.holdsReads
          (w.agent.entities.select request.queries) 0) := by
  unfold submitRead inSession
  dsimp only
  rw [herror, hopen, hw]
  dsimp only
  rw [if_neg hne]
  generalize hquery : (⟨_, request.queries⟩ : EntityQuery) = query
  have hqueries : query.queries = request.queries := by rw [← hquery]
  rw [Switch.read_unscripted hscript, Agent.read_taken query hfault, await_reply, hqueries,
    ReadStream.ofReply_eq]
  exact ⟨_, rfl⟩

/-- The caller gets a stream that nothing has been taken from. -/
theorem openRead_returns {s : System} {id : ClientId} {request : ReadRequest} {token : Token}
    (herror : request.error = none) (hne : request.queries ≠ [])
    (hopen : (s.client id).scope.openToken? = some token) {w : Switch}
    (hw : s.switch (s.client id).switch = w) (hscript : w.scriptedReads = [])
    (hfault : w.agent.nextFault .read = none) :
    (s.openRead id request).1.finished = s.finished ++ [⟨(s.newCall id).2, .returned .stream,
      some ⟨id, token, .taken (max w.agent.chunkSize 1) w.agent.holdsReads
        (w.agent.entities.select request.queries) 0⟩⟩] := by
  have hc := client_newCall_self s id
  unfold openRead
  dsimp only
  obtain ⟨w', hsubmit⟩ := submitRead_taken (s := (s.newCall id).1) (K := (s.newCall id).2)
    (fun t token stream => t.completeWith (s.newCall id).2 ⟨id, token, stream⟩) herror hne
    ((congrArg (·.scope.openToken?) hc).trans hopen)
    ((congrArg (fun c : Client => s.switch c.switch) hc).trans hw) hscript hfault
  rw [hsubmit]
  exact finished_retire _ _ .request

/-- The caller gets all entities. -/
theorem read_returns {s : System} (hv : s.Valid) {id : ClientId} {request : ReadRequest} {token : Token}
    (herror : request.error = none) (hne : request.queries ≠ [])
    (hopen : (s.client id).scope.openToken? = some token) {w : Switch}
    (hw : s.switch (s.client id).switch = w) (hscript : w.scriptedReads = [])
    (hfault : w.agent.nextFault .read = none) (hheld : w.agent.holdsReads = false) :
    (s.read id request).1.finished = s.finished ++ [⟨(s.newCall id).2,
      .returned (.entities (w.agent.entities.select request.queries)), none⟩] := by
  have hc := client_newCall_self s id
  have hcurrent : ((s.newCall id).1.client id).scope.isCancelled token = false := by
    rw [hc]
    exact (hv.scopes id).isCancelled_current (Scope.current_of_openToken? hopen)
  unfold read
  dsimp only
  generalize hgoOn : (fun (t : System) (token : Token) (stream : ReadStream) => _) = goOn
  obtain ⟨w', hsubmit⟩ := submitRead_taken (s := (s.newCall id).1) (K := (s.newCall id).2)
    goOn herror hne ((congrArg (·.scope.openToken?) hc).trans hopen)
    ((congrArg (fun c : Client => s.switch c.switch) hc).trans hw) hscript hfault
  rw [hsubmit, ← hgoOn]
  dsimp only
  rw [client_updateSwitch, hcurrent, ReadStream.collect_taken, hheld, List.drop_zero]
  exact finished_complete _ _ _

end System

namespace Scenario

open ReadStream

/-- A read of the open session is a snapshot: the entities that its queries select when the switch takes it,
in table order.  Whatever happens later, entities are taken from it in this order, the end comes after the
last one, and after the end of the session there is no more than what has been fetched. -/
theorem read_snapshot (devices : List String) (confs : List Pipeconf)
    (bindings : List (String × PipeconfId)) (config : ConfigChange) (capacity : Nat)
    (ms : List Move) :
    let x := (initial devices confs bindings config capacity).after ms
    ∀ (client : String) (conf : PipeconfId) (query : List QueryItem) (id : ClientId) (conf' : Pipeconf),
      x.system.handles.find? client = some id → x.system.catalog.pipeconf? conf = some conf' →
      let request : ReadRequest := query.foldl QueryItem.addTo { pipeconf := conf' }
      let w := x.system.switch (x.system.client id).switch
      request.error = none → request.queries ≠ [] → (x.system.client id).scope.isOpen = true →
      w.scriptedReads = [] → w.agent.nextFault .read = none →
      let size := max w.agent.chunkSize 1
      let held := w.agent.holdsReads
      let error : ClientError := .cancelled (x.system.client id).key.device Operation.read.text
      let es := w.agent.entities.filter fun e => decide (∃ q ∈ request.queries, q.kind = e.kind ∧
        (q.id = 0 ∨ q.id = e.id) ∧ (q.key = [] ∨ q.key = e.key))
      ∀ name,
        -- all at once
        (held = false → (x.make (.start name (.read client conf query))).system.finished =
          x.system.finished ++ [⟨(x.system.newCall id).2, .returned (.entities es), none⟩]) ∧
        ∃ r : ReadCursor, r.client = id ∧ (x.system.client id).scope.current = some r.token ∧
          (x.make (.start name (.openRead client conf query))).system.finished =
            x.system.finished ++ [⟨(x.system.newCall id).2, .returned .stream, some r⟩] ∧
          -- one after the other, with anything in between
          ∀ results y left,
            (x.make (.start name (.openRead client conf query))).Draws r results y left →
            Served es held (y.HasEnded r) (.failed error) results ∧
            -- after the end of the session
            (∀ n ≤ es.length, results = served (es.take n) → y.HasEnded r →
              ∀ more z last, y.Draws left more z last →
                let rest := (es.drop n).take ((size - n % size) % size)
                more = (served rest ++ .failed error :: endings more.length).take more.length) ∧
            -- a call that takes from the stream ends at once, unless there is something to wait for
            ∀ next stream, y.reads.find? stream = some left →
              let K := (y.system.newCall id).2
              let y' := y.make (.start next (.readNext stream))
              (∃ result left', y'.system.finished =
                y.system.finished ++ [⟨K, result, some left'⟩]) ∨
              held = true ∧ results = served es ∧ ¬ y.HasEnded r ∧
                y'.system.WaitsFor K (.chunk r.token) ∧
                ∀ ns, (y'.after ns).HasEnded r → (y'.after ns).system.WaitsFor K (.chunk r.token) →
                  (y'.after ns).system.Fails K error (y'.after ns).system.settle := by
  intro x client conf query id conf' hclient hconf request w herror hne hopen hscript hfault size held
    error es name
  have ho : x.Orderly := orderly_after devices confs bindings config capacity ms
  have hk : x.system.Knows id := ho.valid.system.handles id (Directory.mem_values_of_find? hclient)
  have hs : 0 < size := Nat.lt_of_lt_of_le Nat.zero_lt_one (Nat.le_max_right _ 1)
  have hes : w.agent.entities.select request.queries = es := EntityTable.select_eq _ _
  obtain ⟨token, htoken⟩ := (ho.valid.system.scopes id).openToken?_of_isOpen hopen
  have hreq : x.make (.start name (.openRead client conf query)) =
      (x.started name (some name) (x.system.openRead id request)).1 := by
    simp only [make, start, onClient, onPipeconf, hclient, hconf, request]
  refine ⟨fun hheld => ?_, ⟨id, token, taken size held es 0⟩, rfl,
    Scope.current_of_openToken? htoken, ?_, ?_⟩
  · have hread := System.read_returns ho.valid.system herror hne htoken rfl hscript hfault hheld
    rw [hes] at hread
    simp only [make, start, onClient, onPipeconf, hclient, hconf]
    exact hread
  · have hread := System.openRead_returns herror hne htoken rfl hscript hfault
    rw [hes] at hread
    rw [hreq]
    exact hread
  rintro results y ⟨leftClient, leftToken, stream⟩ hdraws
  have ho' : (x.make (.start name (.openRead client conf query))).Orderly := ho.make _
  have hk' : (x.make (.start name (.openRead client conf query))).system.Knows id :=
    (key_make ho.valid hk _).1
  have hc' : (x.make (.start name (.openRead client conf query))).system.readCancelled id =
      .failed error := readCancelled_after ho hk [.start name (.openRead client conf query)]
  obtain ⟨⟨hid, htok⟩, hst⟩ := draws_stands hdraws ho' hk' hc' hs (Stands.part 0 (Nat.zero_le _))
  -- the caller still holds the stream of the same session
  obtain rfl : id = leftClient := hid.symm
  obtain rfl : token = leftToken := htok.symm
  rw [List.take_zero, show served [] = [] from rfl, List.nil_append] at hst
  obtain ⟨ns, hy⟩ := hdraws.after
  have hoy : y.Orderly := hy ▸ ho'.after ns
  have hky : y.system.Knows id := hy ▸ (key_after ho' hk' ns).1
  have hcy : y.system.readCancelled id = .failed error :=
    hy ▸ (readCancelled_after ho' hk' ns).trans hc'
  refine ⟨hst.served, fun n hn hresults he more z last hmore => ?_, fun next name' hr => ?_⟩
  · have hlate := draws_late hmore hoy hky hcy he
    rw [hst.stream_of_served hn hresults, drain_taken] at hlate
    exact hlate
  · refine (take_returns hoy hcy hs hst next hr).imp_right ?_
    rintro ⟨hheld, htold, hnot, hwaits⟩
    refine ⟨hheld, htold, hnot, hwaits.waitsFor, fun ns' he hw => ?_⟩
    have hoy' : ((y.make (.start next (.readNext name'))).after ns').Orderly := (hoy.make _).after ns'
    have hcancelled := readCancelled_after hoy hky (.start next (.readNext name') :: ns')
    exact chunk_cancelled hoy' (hcancelled.trans hcy) he hw

/-- A client has opened its session with a switch that stores three entries in two tables. -/
def stocked : List Move :=
  [.act (.new ⟨⟨"leaf"⟩, 1⟩ "leaf" none), .start "t0" (.openSession "leaf"), .poll, .poll, .poll,
   .act (.steer "leaf" (.addEntities [⟨.tableEntry, 1, [1], []⟩, ⟨.tableEntry, 2, [1], []⟩,
     ⟨.tableEntry, 1, [2], []⟩]))]

/-- The session is closed when one entry has been taken of the three that two queries select.  The next one is
in the same chunk, and after that the caller is told. -/
theorem read_snapshot_stocked :
    let x := (initial ["leaf"] [{ id := ⟨"basic"⟩, fingerprint := 1, description := [1] }] [] {} 16).after
      stocked
    let es : List Entity := [⟨.tableEntry, 1, [1], []⟩, ⟨.tableEntry, 2, [1], []⟩, ⟨.tableEntry, 1, [2], []⟩]
    let request : Request := .openRead "leaf" ⟨"basic"⟩ [.all .tableEntry, .entity (.wildcard .tableEntry 1)]
    let cancelled : CallResult := .failed (.cancelled ⟨"leaf"⟩ "read")
    ∃ r y left, (x.make (.start "r" request)).Draws r (served (es.take 2) ++ [cancelled]) y left ∧
      Served es false (y.HasEnded r) cancelled (served (es.take 2) ++ [cancelled]) := by
  have snapshot := read_snapshot ["leaf"]
    [{ id := ⟨"basic"⟩, fingerprint := 1, description := [1] }] [] {} 16 stocked
  intro x es request cancelled
  extract_lets at snapshot
  obtain ⟨-, r, -, -, hr, hserved⟩ := snapshot "leaf" ⟨"basic"⟩
    [.all .tableEntry, .entity (.wildcard .tableEntry 1)] ⟨⟨"leaf"⟩, 0⟩
    { id := ⟨"basic"⟩, fingerprint := 1, description := [1] } (by decide +kernel) (by decide +kernel)
    (by decide +kernel) (by decide +kernel) (by decide +kernel) (by decide +kernel) (by decide +kernel) "r"
  have hopened : (x.make (.start "r" request)).system.finished = x.system.finished ++
      [⟨(x.system.newCall ⟨⟨"leaf"⟩, 0⟩).2, .returned .stream,
        some ⟨⟨⟨"leaf"⟩, 0⟩, 0, .taken 2 false es 0⟩⟩] := by decide +kernel
  obtain ⟨hkey, hheld⟩ : (x.system.client ⟨⟨"leaf"⟩, 0⟩).key.device = ⟨"leaf"⟩ ∧
      (x.system.switch (x.system.client ⟨⟨"leaf"⟩, 0⟩).switch).agent.holdsReads = false := by
    decide +kernel
  have hes : (x.system.switch (x.system.client ⟨⟨"leaf"⟩, 0⟩).switch).agent.entities.filter
      (fun e => decide (∃ q ∈ (([.all .tableEntry, .entity (.wildcard .tableEntry 1)] :
          List QueryItem).foldl QueryItem.addTo
          { pipeconf := { id := ⟨"basic"⟩, fingerprint := 1, description := [1] } }).queries,
        q.kind = e.kind ∧ (q.id = 0 ∨ q.id = e.id) ∧ (q.key = [] ∨ q.key = e.key))) = es := by
    decide +kernel
  obtain ⟨y, hdraws⟩ : ∃ y, (x.make (.start "r" request)).Draws ⟨⟨⟨"leaf"⟩, 0⟩, 0, .taken 2 false es 0⟩
      (served (es.take 2) ++ [cancelled]) y ⟨⟨⟨"leaf"⟩, 0⟩, 0, .broken⟩ :=
    ⟨_, .move _ _ _ _ _ (.observe 0 (.one .done)) <|
      .take _ _ _ ⟨⟨⟨"leaf"⟩, 0⟩, 0, .taken 2 false es 1⟩ _ _ "t1" "r" [] _ (by decide +kernel)
        (by decide +kernel) <|
      .move _ _ _ _ _ (.observe 0 (.one .done)) <| .move _ _ _ _ _ (.act (.close "leaf")) <|
      .take _ _ _ ⟨⟨⟨"leaf"⟩, 0⟩, 0, .taken 2 false es 2⟩ _ _ "t2" "r" [] _ (by decide +kernel)
        (by decide +kernel) <|
      .move _ _ _ _ _ (.observe 0 (.one .done)) <|
      .take _ _ _ _ _ _ "t3" "r" [] _ (by decide +kernel) (by decide +kernel) <| .none _ _⟩
  -- The facts above are evaluated; the rest must not evaluate the run again.
  clear_value x es
  obtain rfl : r = ⟨⟨⟨"leaf"⟩, 0⟩, 0, .taken 2 false es 0⟩ := by
    cases List.append_cancel_left (hr.symm.trans hopened)
    rfl
  have hall := (hserved _ y _ hdraws).1
  rw [hes, hheld, hkey] at hall
  exact ⟨_, y, _, hdraws, hall⟩

end Scenario

end P4Control
