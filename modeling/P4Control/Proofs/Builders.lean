import P4Control.Scenario.Step

namespace P4Control

/-!
# Requests under construction

A read or a write is put together by calls, in any number and order.  Some of them name a table; the first
name that the configuration does not know is kept as the error of the request.

* `Pipeconf.unresolved?` — the first table of a request that the configuration does not know.
* `Scenario.QueryItem.queries`, `WriteCall.updates` — what a call adds to its request.
* `ReadRequest.foldl_addTo`, `WriteRequest.foldl_addTo` — the request after any calls.
* `Scenario.callsOf` — the calls by which a write is made that is asked for part by part.
-/

/-- The first table among the given ones that the configuration does not know. -/
def Pipeconf.unresolved? (conf : Pipeconf) (tables : List String) : Option String :=
  tables.find? fun table => (conf.tableId? table).isNone

/-- The error of a request that names the given tables. -/
def Pipeconf.tableError? (conf : Pipeconf) (tables : List String) : Option ClientError :=
  (conf.unresolved? tables).map (.unknownTable conf.id)

/-- The first table that is not known is the one that is told. -/
theorem Pipeconf.tableError?_append (conf : Pipeconf) (tables tables' : List String) :
    conf.tableError? (tables ++ tables') = (conf.tableError? tables).or (conf.tableError? tables') := by
  unfold tableError? unresolved?
  rw [List.find?_append, Option.map_or]

/-- The only error of a request under construction is a name. -/
theorem Pipeconf.tableError?_eq_some {conf : Pipeconf} {tables : List String} {error : ClientError}
    (h : conf.tableError? tables = some error) : ∃ table, error = .unknownTable conf.id table := by
  obtain ⟨table, -, rfl⟩ := Option.map_eq_some_iff.mp h
  exact ⟨table, rfl⟩

/-! ### Reads -/

namespace Scenario

/-- The table that a part of a read names. -/
def QueryItem.table? : QueryItem → Option String
  | .table name => some name
  | _ => none

/-- The queries that a part adds to a read. -/
def QueryItem.queries (conf : Pipeconf) : QueryItem → List Entity
  | table name => (conf.tableId? name).toList.map fun id => .wildcard .tableEntry id
  | all kind => [.wildcard kind 0]
  | entities es => es
  | entity e => [e]

end Scenario

namespace ReadRequest

open Scenario (QueryItem)

/-- An item adds its queries to a read, unless its table is not known, and remembers the first
error. -/
theorem addTo_eq (item : QueryItem) (r : ReadRequest) :
    item.addTo r = { r with
      queries := r.queries ++ item.queries r.pipeconf
      error := r.error.or (r.pipeconf.tableError? item.table?.toList) } := by
  cases item with
  | table name =>
    simp only [QueryItem.addTo, tableEntries, entity, QueryItem.queries, QueryItem.table?,
      Pipeconf.tableError?, Pipeconf.unresolved?]
    cases ht : r.pipeconf.tableId? name <;> simp [ht]
  | all kind => simp [QueryItem.addTo, all, entity, QueryItem.queries, QueryItem.table?,
      Pipeconf.tableError?, Pipeconf.unresolved?]
  | entities es => simp [QueryItem.addTo, entities, QueryItem.queries, QueryItem.table?,
      Pipeconf.tableError?, Pipeconf.unresolved?]
  | entity e => simp [QueryItem.addTo, entity, QueryItem.queries, QueryItem.table?,
      Pipeconf.tableError?, Pipeconf.unresolved?]

/-- The read after any calls. -/
theorem foldl_addTo (query : List QueryItem) (r : ReadRequest) :
    query.foldl QueryItem.addTo r = { r with
      queries := r.queries ++ query.flatMap (·.queries r.pipeconf)
      error := r.error.or (r.pipeconf.tableError? (query.filterMap (·.table?))) } := by
  induction query generalizing r with
  | nil => simp [Pipeconf.tableError?, Pipeconf.unresolved?]
  | cons item rest ih =>
    have htables : (item :: rest).filterMap (·.table?) =
        item.table?.toList ++ rest.filterMap (·.table?) := by
      cases h : item.table? <;> simp [h]
    rw [List.foldl_cons, ih, addTo_eq, htables, Pipeconf.tableError?_append, List.flatMap_cons,
      List.append_assoc, Option.or_assoc]

/-- A read that is built item by item remembers the first table that is not known. -/
theorem error_foldl (conf : Pipeconf) (query : List QueryItem) :
    (query.foldl QueryItem.addTo { pipeconf := conf }).error =
      conf.tableError? (query.filterMap (·.table?)) := by
  rw [foldl_addTo]
  rfl

end ReadRequest

/-! ### Writes -/

/-- A call that goes into the making of a write. -/
inductive WriteCall where
  | insert (e : Entity)
  | modify (e : Entity)
  | delete (e : Entity)
  | update (type : UpdateType) (e : Entity)
  | entities (type : UpdateType) (es : List Entity)
  | tableEntry (type : UpdateType) (table : String) (key data : Bytes)
  | atomicity (a : Atomicity)
deriving DecidableEq, Repr

namespace WriteCall

/-- The write after one more call. -/
def addTo (w : WriteRequest) : WriteCall → WriteRequest
  | insert e => w.insert e
  | modify e => w.modify e
  | delete e => w.delete e
  | update type e => w.update type e
  | entities type es => w.entities type es
  | tableEntry type table key data => w.tableEntry type table key data
  | atomicity a => w.withAtomicity a

/-- The table that a call names. -/
def table? : WriteCall → Option String
  | tableEntry _ table _ _ => some table
  | _ => none

/-- The updates that a call adds to a write. -/
def updates (conf : Pipeconf) : WriteCall → List Update
  | insert e => [⟨.insert, e⟩]
  | modify e => [⟨.modify, e⟩]
  | delete e => [⟨.delete, e⟩]
  | update type e => [⟨type, e⟩]
  | entities type es => es.map fun e => ⟨type, e⟩
  | tableEntry type table key data =>
    (conf.tableId? table).toList.map fun id => ⟨type, ⟨.tableEntry, id, key, data⟩⟩
  | atomicity _ => []

/-- The atomicity that a call sets. -/
def atomicity? : WriteCall → Option Atomicity
  | atomicity a => some a
  | _ => none

end WriteCall

namespace WriteRequest

/-- A builder call adds its updates to a write, unless its table is not known, and remembers the
first error. -/
theorem addTo_eq (call : WriteCall) (w : WriteRequest) :
    call.addTo w = { w with
      updates := w.updates ++ call.updates w.pipeconf
      atomicity := call.atomicity?.getD w.atomicity
      error := w.error.or (w.pipeconf.tableError? call.table?.toList) } := by
  have hnone : w.pipeconf.tableError? [] = none := rfl
  cases call with
  | tableEntry type table key data =>
    simp only [WriteCall.addTo, tableEntry, update, WriteCall.updates, WriteCall.table?,
      WriteCall.atomicity?, Pipeconf.tableError?, Pipeconf.unresolved?]
    cases ht : w.pipeconf.tableId? table <;> simp [ht]
  | _ =>
    simp [WriteCall.addTo, insert, modify, delete, update, entities, withAtomicity, WriteCall.updates,
      WriteCall.table?, WriteCall.atomicity?, hnone]

/-- The write after any calls. -/
theorem foldl_addTo (calls : List WriteCall) (w : WriteRequest) :
    calls.foldl WriteCall.addTo w = { w with
      updates := w.updates ++ calls.flatMap (·.updates w.pipeconf)
      atomicity := (calls.filterMap (·.atomicity?)).getLast?.getD w.atomicity
      error := w.error.or (w.pipeconf.tableError? (calls.filterMap (·.table?))) } := by
  induction calls generalizing w with
  | nil => simp [Pipeconf.tableError?, Pipeconf.unresolved?]
  | cons call rest ih =>
    have htables : (call :: rest).filterMap (·.table?) =
        call.table?.toList ++ rest.filterMap (·.table?) := by
      cases h : call.table? <;> simp [h]
    -- The last atomicity counts, be it that of a later call.
    have hatomicity : ((call :: rest).filterMap (·.atomicity?)).getLast?.getD w.atomicity =
        (rest.filterMap (·.atomicity?)).getLast?.getD (call.atomicity?.getD w.atomicity) := by
      cases h : call.atomicity? with
      | none => simp [h]
      | some a =>
        rw [List.filterMap_cons_some h, List.getLast?_cons, Option.getD_some, Option.getD_some]
    rw [List.foldl_cons, ih, addTo_eq, htables, hatomicity, Pipeconf.tableError?_append,
      List.flatMap_cons, List.append_assoc, Option.or_assoc]

/-- A write that is built call by call remembers the first table that is not known. -/
theorem error_foldl (conf : Pipeconf) (calls : List WriteCall) :
    (calls.foldl WriteCall.addTo { pipeconf := conf }).error =
      conf.tableError? (calls.filterMap (·.table?)) := by
  rw [foldl_addTo]
  rfl

end WriteRequest

namespace Scenario

/-- The table that a part of a write names. -/
def UpdateItem.table? : UpdateItem → Option String
  | .table _ name _ _ => some name
  | _ => none

/-- The call by which a part of a write is added. -/
def UpdateItem.toCall : UpdateItem → WriteCall
  | table type name key data => .tableEntry type name key data
  | entities type es => .entities type es
  | entity type e => .update type e

/-- The write that is asked for. -/
def writeOf (conf : Pipeconf) (updates : List UpdateItem) (atomicity : Option Atomicity) :
    WriteRequest :=
  let request : WriteRequest := updates.foldl UpdateItem.addTo { pipeconf := conf }
  match atomicity with
  | some a => request.withAtomicity a
  | none => request

/-- The calls by which the write is made that is asked for. -/
def callsOf (updates : List UpdateItem) (atomicity : Option Atomicity) : List WriteCall :=
  updates.map (·.toCall) ++ atomicity.toList.map .atomicity

/-- A write is built by the calls for its items, and then one for the atomicity if that is given. -/
theorem writeOf_eq (conf : Pipeconf) (updates : List UpdateItem) (atomicity : Option Atomicity) :
    writeOf conf updates atomicity =
      (callsOf updates atomicity).foldl WriteCall.addTo { pipeconf := conf } := by
  have hupdates : ∀ w : WriteRequest,
      (updates.map (·.toCall)).foldl WriteCall.addTo w = updates.foldl UpdateItem.addTo w := by
    intro w
    rw [List.foldl_map]
    congr 1
    funext w item
    cases item <;> rfl
  rw [callsOf, List.foldl_append, hupdates]
  cases atomicity <;> rfl

/-- The call for the atomicity adds no error. -/
theorem error_writeOf (conf : Pipeconf) (updates : List UpdateItem) (atomicity : Option Atomicity) :
    (writeOf conf updates atomicity).error =
      conf.tableError? (updates.filterMap (·.table?)) := by
  have hitems : (updates.map (·.toCall)).filterMap (·.table?) = updates.filterMap (·.table?) := by
    rw [List.filterMap_map]
    congr 1
    funext item
    cases item <;> rfl
  have hatomicity : (atomicity.toList.map WriteCall.atomicity).filterMap (·.table?) = [] := by
    cases atomicity <;> rfl
  rw [writeOf_eq, WriteRequest.error_foldl, callsOf, List.filterMap_append, hitems, hatomicity,
    List.append_nil]

end Scenario

end P4Control
