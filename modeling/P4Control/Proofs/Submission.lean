import P4Control.Proofs.Builders
import P4Control.Proofs.Changes
import P4Control.Proofs.Outcomes

namespace P4Control

/-!
# Requests are sent whole or not at all

When a read or a write is submitted, a name that is unknown counts before everything else, then whether the
session is open, then whether there is anything to ask for.  What passes is sent in one request.

* `System.Passes` — tasks run and time passes; `Passes.unasked` — meanwhile no switch is asked for anything.
* `System.AsksOnce` — a call makes one request.
* `System.Submits` — what comes of a call whose request has been made of names and items.
* `submits_read`, `submits_write` — the two kinds of requests.
* `sent_whole_or_not_at_all` — the requests that any calls make.
-/

namespace System

variable {s t u : System} {stray : ClientId → Token → Prop}

/-! ### What a request comes to -/

/-- Tasks run and time passes. -/
inductive Passes (s : System) : System → Prop
  | refl : Passes s s
  | poll {t : System} (h : Passes s t) : Passes s t.poll
  | advance {t : System} (h : Passes s t) (span : Duration) : Passes s (t.advance span)

/-- Only calls that begin ask a switch for anything. -/
theorem Passes.unasked (h : s.Passes t) : Unasked s t := by
  induction h with
  | refl => exact .refl s
  | poll _ ih => exact ih.trans (unasked_poll _)
  | advance _ span ih => exact ih.trans (.of_same fun n => switch_advance _ span n)

/-- The call has asked the switch of its client once, and nobody else; nor is any switch asked for anything
while the call runs. -/
def AsksOnce (s : System) (id : ClientId) (request : Request) (t : System) : Prop :=
  s.Relays (s.client id).switch (some request) t ∧
    ∀ u, t.Passes u → ∀ n, (u.switch n).noted =
      (s.switch n).noted ++ if (s.client id).switch = n then [request] else []

/-- What a switch has noted grows by the request it takes, and by nothing that comes later. -/
theorem Relays.asksOnce {id : ClientId} {request : Request}
    (h : s.Relays (s.client id).switch (some request) t) : s.AsksOnce id request t := by
  refine ⟨h, fun u hu n => ?_⟩
  rw [(hu.unasked n).2, h n]
  split
  · exact Switch.noted_take _ request
  · exact (List.append_nil _).symm

/-- What comes of a call that names the given tables and asks for the given items, by the configuration.  If it
can be sent, it is sent as `request`; if there is nothing to send, it returns `value`. -/
structure Submits {α : Type} (s : System) (id : ClientId) (conf : Pipeconf) (tables : List String)
    (items : List α) (request : Request) (value : CallValue) (left : Option ReadCursor) (t : System) :
    Prop where
  unknown : ∀ table, conf.unresolved? tables = some table → s.Refuses id (.unknownTable conf.id table) t
  closed : conf.unresolved? tables = none → (s.client id).scope.isOpen = false →
    s.Refuses id (.sessionNotOpen (s.client id).key.device) t
  empty : conf.unresolved? tables = none → (s.client id).scope.isOpen = true → items = [] →
    s.EndsWith id (.returned value) left t
  sent : conf.unresolved? tables = none → (s.client id).scope.isOpen = true → items ≠ [] →
    s.AsksOnce id request t

/-! ### The two kinds of requests -/

section

variable {id : ClientId} {name : String} {conf : Pipeconf} {tables : List String}
  (ha : s.Attended none stray) (hv : (s.client id).scope.Valid)
  (hh : s.handles.find? name = some id)

include ha hv hh

/-- A read is submitted; `goOn` takes its reply. -/
theorem submits_submitRead {request : ReadRequest} (herror : request.error = conf.tableError? tables)
    {goOn : System → Token → ReadStream → System} {value : CallValue} {left : Option ReadCursor}
    (hrelays : s.Relays (s.client id).switch (((s.client id).query? request).map .read)
      ((s.newCall id).1.submitRead (s.newCall id).2 request goOn))
    (hempty : ∀ token, (s.client id).scope.current = some token →
      s.EndsWith id (.returned value) left (goOn (s.newCall id).1 token .spent)) :
    s.Submits id conf tables request.queries (.read ⟨(s.client id).key.number, request.queries⟩) value left
      ((s.newCall id).1.submitRead (s.newCall id).2 request goOn) where
  unknown := by
    intro table hu
    rw [Pipeconf.tableError?, hu] at herror
    rw [submitRead_of_error herror]
    exact refuses_ends ha hh _
  closed := by
    intro hu hc
    have hr := refuses_submitRead ha hh hc request goOn
    rw [herror, Pipeconf.tableError?, hu] at hr
    exact hr
  empty := by
    intro hu ho he
    obtain ⟨token, htoken⟩ := hv.openToken?_of_isOpen ho
    rw [Pipeconf.tableError?, hu] at herror
    unfold submitRead inSession
    dsimp only
    rw [herror, show (s.newCall id).2.client = id from rfl, client_newCall_self]
    dsimp only
    -- The session is open, but nothing is asked: the reply is the stream that has ended.
    rw [htoken]
    dsimp only
    rw [if_pos he]
    exact hempty token (Scope.current_of_openToken? htoken)
  sent := by
    intro hu ho he
    obtain ⟨token, htoken⟩ := hv.openToken?_of_isOpen ho
    have hq : (s.client id).query? request =
        some ⟨(s.client id).key.number, request.queries⟩ := by
      simp [Client.query?, htoken, herror, Pipeconf.tableError?, hu, he]
    rw [hq] at hrelays
    exact hrelays.asksOnce

theorem submits_read {request : ReadRequest} (herror : request.error = conf.tableError? tables) :
    s.Submits id conf tables request.queries (.read ⟨(s.client id).key.number, request.queries⟩)
      (.entities []) none (s.read id request).1 :=
  submits_submitRead ha hv hh herror (relays_read s id request) fun _ _ => unmoved_ends ha hh _ none

theorem submits_openRead {request : ReadRequest} (herror : request.error = conf.tableError? tables) :
    s.Submits id conf tables request.queries (.read ⟨(s.client id).key.number, request.queries⟩)
      .stream ((s.client id).scope.current.map fun token => ⟨id, token, .spent⟩)
      (s.openRead id request).1 := by
  refine submits_submitRead ha hv hh herror (relays_openRead s id request) fun token hc => ?_
  rw [hc]
  exact unmoved_ends ha hh _ _

theorem submits_write {request : WriteRequest} (herror : request.error = conf.tableError? tables) :
    s.Submits id conf tables request.updates (.write ⟨(s.client id).key.number,
        (s.client id).arbiter.lastUsed.map (·.toWire), request.updates, request.atomicity⟩)
      (.report ⟨[]⟩) none (s.write id request).1 where
  unknown := by
    intro table hu
    rw [Pipeconf.tableError?, hu] at herror
    rw [write_of_error herror]
    exact refuses_ends ha hh _
  closed := by
    intro hu hc
    have hr := refuses_write ha hh hc request
    rw [herror, Pipeconf.tableError?, hu] at hr
    exact hr
  empty := by
    intro hu ho he
    obtain ⟨token, htoken⟩ := hv.openToken?_of_isOpen ho
    rw [Pipeconf.tableError?, hu] at herror
    unfold write inSession
    dsimp only
    rw [herror, show (s.newCall id).2.client = id from rfl, client_newCall_self]
    dsimp only
    rw [htoken]
    dsimp only
    -- there is nothing to write: the call returns without asking
    rw [if_pos he]
    exact unmoved_ends ha hh _ none
  sent := by
    intro hu ho he
    obtain ⟨token, htoken⟩ := hv.openToken?_of_isOpen ho
    have hrelays := relays_write s id request
    have hb : (s.client id).batch? request = some ⟨(s.client id).key.number,
        (s.client id).arbiter.lastUsed.map (·.toWire), request.updates, request.atomicity⟩ := by
      simp [Client.batch?, htoken, herror, Pipeconf.tableError?, hu, he]
    rw [hb] at hrelays
    exact hrelays.asksOnce

end

end System

namespace Scenario

/-- After every run, whatever the session of a client is in, and for every configuration and all calls that go
into the making of a read or a write.  If a table is named that is not known, the first such name is the error,
nothing is sent, and nothing else happens.  Otherwise a closed session refuses the request, an empty one is
answered at once, and any other is sent once: with the items of the calls, in their order, with the ids of the
tables that are named, and, if it is a write, with the atomicity given last and the election id used last. -/
theorem sent_whole_or_not_at_all (devices : List String) (confs : List Pipeconf)
    (bindings : List (String × PipeconfId)) (config : ConfigChange) (capacity : Nat)
    (ms : List Move) (client : String) (id : ClientId)
    (hh : ((initial devices confs bindings config capacity).after ms).system.handles.find? client =
      some id) (conf : Pipeconf) :
    let s := ((initial devices confs bindings config capacity).after ms).system
    let c := s.client id
    (∀ calls : List QueryItem,
      let request := calls.foldl QueryItem.addTo { pipeconf := conf }
      let tables := calls.filterMap (·.table?)
      let queries := calls.flatMap (·.queries conf)
      let left := c.scope.current.map fun token => ⟨id, token, .spent⟩
      s.Submits id conf tables queries (.read ⟨c.key.number, queries⟩) (.entities []) none
        (s.read id request).1 ∧
      s.Submits id conf tables queries (.read ⟨c.key.number, queries⟩) .stream left
        (s.openRead id request).1) ∧
    ∀ calls : List WriteCall,
      let request := calls.foldl WriteCall.addTo { pipeconf := conf }
      let tables := calls.filterMap (·.table?)
      let updates := calls.flatMap (·.updates conf)
      let atomicity := (calls.filterMap (·.atomicity?)).getLast?.getD .continueOnError
      s.Submits id conf tables updates
        (.write ⟨c.key.number, c.arbiter.lastUsed.map (·.toWire), updates, atomicity⟩) (.report ⟨[]⟩) none
        (s.write id request).1 := by
  intro s c
  have ha : s.Attended none _ := attended_after devices confs bindings config capacity ms
  have hv : c.scope.Valid :=
    ((valid_initial devices confs bindings config capacity).after ms).system.scopes id
  -- What the calls have put together is known from what each adds, so that the request is only sent.
  refine ⟨fun calls => ?_, fun calls => ?_⟩
  · intro request tables queries left
    have herror : request.error = conf.tableError? tables := ReadRequest.error_foldl conf calls
    have hqueries : request.queries = queries := by
      show (calls.foldl QueryItem.addTo { pipeconf := conf }).queries = _
      rw [ReadRequest.foldl_addTo]
      rfl
    rw [← hqueries]
    exact ⟨System.submits_read ha hv hh herror, System.submits_openRead ha hv hh herror⟩
  · intro request tables updates atomicity
    have herror : request.error = conf.tableError? tables := WriteRequest.error_foldl conf calls
    have hfoldl := WriteRequest.foldl_addTo calls { pipeconf := conf }
    have hupdates : request.updates = updates := by
      show (calls.foldl WriteCall.addTo { pipeconf := conf }).updates = _
      rw [hfoldl]
      rfl
    have hatomicity : request.atomicity = atomicity := by
      show (calls.foldl WriteCall.addTo { pipeconf := conf }).atomicity = _
      rw [hfoldl]
    rw [← hupdates, ← hatomicity]
    exact System.submits_write ha hv hh herror

/-- A client has opened its session, and has claimed the mastership. -/
def installed : List Move :=
  [.act (.new ⟨⟨"leaf"⟩, 1⟩ "leaf" none), .start "t0" (.openSession "leaf"), .poll, .poll, .poll,
   .act (.run "leaf" ⟨0, 5⟩)]

/-- A configuration that knows one table. -/
def oneTable : Pipeconf := { id := ⟨"basic"⟩, fingerprint := 1, tables := .ofList [("acl", 7)] }

/-- A write with two names that are unknown, one with none, and a read of nothing. -/
theorem sent_whole_or_not_at_all_installed :
    let s := ((initial ["leaf"] [oneTable] [] {} 16).after installed).system
    let id : ClientId := ⟨⟨"leaf"⟩, 0⟩
    let e : Entity := ⟨.tableEntry, 3, [1], [2]⟩
    let write (calls : List WriteCall) : System :=
      (s.write id (calls.foldl WriteCall.addTo { pipeconf := oneTable })).1
    s.Refuses id (.unknownTable ⟨"basic"⟩ "nat") (write
      [.insert e, .tableEntry .insert "nat" [] [], .tableEntry .insert "acl" [] [],
       .tableEntry .insert "fwd" [] []]) ∧
    s.AsksOnce id (.write ⟨1, some ⟨0, 5⟩, [⟨.modify, e⟩, ⟨.insert, ⟨.tableEntry, 7, [8], [9]⟩⟩], .rollbackOnError⟩)
      (write [.atomicity .dataplaneAtomic, .modify e, .tableEntry .insert "acl" [8] [9],
        .atomicity .rollbackOnError]) ∧
    s.EndsWith id (.returned (.entities [])) none (s.read id { pipeconf := oneTable }).1 := by
  have hh : ((initial ["leaf"] [oneTable] [] {} 16).after installed).system.handles.find? "leaf" =
      some ⟨⟨"leaf"⟩, 0⟩ := by decide +kernel
  obtain ⟨reads, writes⟩ := sent_whole_or_not_at_all ["leaf"] [oneTable] [] {} 16 installed "leaf" _ hh
    oneTable
  intro s id e write
  have ho : (s.client id).scope.isOpen = true := by decide +kernel
  have hc : (s.client id).key.number = 1 ∧ (s.client id).arbiter.lastUsed = some ⟨0, 5⟩ := by
    decide +kernel
  refine ⟨(writes _).unknown "nat" (by decide +kernel), ?_, (reads []).1.empty rfl ho rfl⟩
  have hsent := (writes [.atomicity .dataplaneAtomic, .modify e, .tableEntry .insert "acl" [8] [9],
    .atomicity .rollbackOnError]).sent (by decide +kernel) ho (by decide +kernel)
  rw [hc.1, hc.2] at hsent
  exact hsent

end Scenario

end P4Control
