import P4Control.Error
import P4Control.Pipeconf
import P4Control.Wire.Message

namespace P4Control

/-!
# Writing the entity table

A write is put together from updates, some of which name tables, and answered by one
status per update, or by none at all when every update succeeded.

* `WriteRequest` — the updates so far, or the first name that could not be resolved.
* `WriteReport` — the result of every update, in the order of the request.
* `WriteReport.ofStatuses?` — pairs the updates with the statuses of the answer.
-/

/-- A write under construction. -/
structure WriteRequest where
  pipeconf : Pipeconf
  updates : List Update := []
  atomicity : Atomicity := .continueOnError
  /-- The first table name that the configuration does not know. -/
  error : Option ClientError := none

namespace WriteRequest

/-- Adds an update of one entity. -/
def update (w : WriteRequest) (type : UpdateType) (e : Entity) : WriteRequest :=
  { w with updates := w.updates ++ [⟨type, e⟩] }

/-- Adds the insertion of an entity. -/
def insert (w : WriteRequest) (e : Entity) : WriteRequest := w.update .insert e

/-- Adds the modification of an entity. -/
def modify (w : WriteRequest) (e : Entity) : WriteRequest := w.update .modify e

/-- Adds the deletion of an entity. -/
def delete (w : WriteRequest) (e : Entity) : WriteRequest := w.update .delete e

/-- Adds the same kind of update of several entities. -/
def entities (w : WriteRequest) (type : UpdateType) (es : List Entity) : WriteRequest :=
  { w with updates := w.updates ++ es.map fun e => ⟨type, e⟩ }

/-- Adds an update of an entry of a named table. -/
def tableEntry (w : WriteRequest) (type : UpdateType) (table : String) (key data : Bytes) :
    WriteRequest :=
  match w.pipeconf.tableId? table with
  | some id => w.update type ⟨.tableEntry, id, key, data⟩
  | none => { w with error := w.error.or (some (.unknownTable w.pipeconf.id table)) }

/-- Sets the atomicity. -/
def withAtomicity (w : WriteRequest) (atomicity : Atomicity) : WriteRequest := { w with atomicity }

end WriteRequest

/-- The result of one update of a write. -/
structure UpdateResult where
  update : Update
  /-- The status with which the switch rejected the update, if it did. -/
  rejection : Option Status
deriving DecidableEq, Repr

/-- Whether the update was applied. -/
def UpdateResult.isSuccess (r : UpdateResult) : Bool := r.rejection.isNone

/-- The results of the updates of a write, in the order of the request. -/
structure WriteReport where
  results : List UpdateResult
deriving DecidableEq, Repr

namespace WriteReport

/-- Pairs an update with its status. -/
def result (update : Update) (status : Status) : UpdateResult :=
  ⟨update, if status.isOk then none else some status⟩

/-- The report of an answer.  No statuses mean that all updates were applied; otherwise there has
to be one for each update. -/
def ofStatuses? (updates : List Update) (statuses : List Status) : Option WriteReport :=
  if statuses = [] then some ⟨updates.map fun u => ⟨u, none⟩⟩
  else if statuses.length = updates.length then some ⟨List.zipWith result updates statuses⟩
  else none

/-- Whether every update was applied. -/
def isSuccess (r : WriteReport) : Bool := r.results.all (·.isSuccess)

/-- The results of the applied updates. -/
def successes (r : WriteReport) : List UpdateResult := r.results.filter (·.isSuccess)

/-- The results of the rejected updates. -/
def failures (r : WriteReport) : List UpdateResult := r.results.filter (!·.isSuccess)

end WriteReport

end P4Control
