import P4Control.Error
import P4Control.Pipeconf
import P4Control.Switch.Agent

namespace P4Control

/-!
# Reading the entity table

A read is put together from queries, some of which name tables, and answered by a stream
of chunks of entities.

* `ReadRequest` — the queries so far, or the first name that could not be resolved.
* `ReadStream` — the entities still to come; `ReadStream.next` takes one out.
* `ReadStream.collect` — all entities at once.

Between chunks the stream looks whether its session has ended.  Within a chunk it does
not, so at most the rest of a chunk is seen after the end of the session.
-/

/-- A read under construction. -/
structure ReadRequest where
  pipeconf : Pipeconf
  queries : List Entity := []
  /-- The first table name that the configuration does not know. -/
  error : Option ClientError := none

namespace ReadRequest

/-- Asks for what one entity, taken as a query, selects. -/
def entity (r : ReadRequest) (e : Entity) : ReadRequest := { r with queries := r.queries ++ [e] }

/-- Asks for what each of the given entities, taken as queries, selects. -/
def entities (r : ReadRequest) (es : List Entity) : ReadRequest :=
  { r with queries := r.queries ++ es }

/-- Asks for every entry of a table. -/
def tableEntries (r : ReadRequest) (table : String) : ReadRequest :=
  match r.pipeconf.tableId? table with
  | some id => r.entity (.wildcard .tableEntry id)
  | none => { r with error := r.error.or (some (.unknownTable r.pipeconf.id table)) }

/-- Asks for every entity of a kind. -/
def all (r : ReadRequest) (kind : EntityKind) : ReadRequest := r.entity (.wildcard kind 0)

end ReadRequest

/-- What taking from a read stream yields. -/
inductive ReadStep where
  | entity (e : Entity)
  /-- The session ended first. -/
  | cancelled
  /-- The switch ended the stream with a status. -/
  | failed (status : Status)
  /-- There are no more entities. -/
  | ended
  /-- The switch holds the stream open. -/
  | waiting
deriving DecidableEq, Repr

/-- How far a read stream has come. -/
inductive ReadPhase where
  /-- More may come. -/
  | running
  /-- The last thing it reported was an error. -/
  | broken
  /-- It has reported its end. -/
  | finished
deriving DecidableEq, Repr, Inhabited

/-- The rest of the answer to a read. -/
structure ReadStream where
  /-- What is left of the chunk fetched last. -/
  fetched : List Entity := []
  /-- The chunks to come. -/
  chunks : List (Arrival (List Entity)) := []
  /-- Whether the switch holds the stream open after the last chunk. -/
  held : Bool := false
  phase : ReadPhase := .running
deriving DecidableEq, Repr, Inhabited

namespace ReadStream

/-- The stream of a switch's reply. -/
def ofReply (reply : ReadReply) : ReadStream := { chunks := reply.chunks, held := reply.held }

/-- The stream that has reported its end. -/
def spent : ReadStream := { phase := .finished }

/-- The stream that has reported an error; only its end can follow. -/
def broken : ReadStream := { phase := .broken }

/-- Whether the stream has reported its end. -/
def isOver (r : ReadStream) : Bool := r.phase = .finished

/-- Takes the first entity of the next chunk that has one. -/
def fetch (held : Bool) : List (Arrival (List Entity)) → ReadStep × ReadStream
  | [] => if held then (.waiting, { held }) else (.ended, spent)
  | .item (e :: rest) :: chunks => (.entity e, { fetched := rest, chunks, held })
  | .item [] :: chunks => fetch held chunks
  | .failure status :: _ => (.failed status, broken)

/-- Takes the next entity; `cancelled` tells whether the stream's session has ended. -/
def next (r : ReadStream) (cancelled : Bool) : ReadStep × ReadStream :=
  match r.phase with
  | .running =>
    match r.fetched with
    | e :: rest => (.entity e, { r with fetched := rest })
    | [] => if cancelled then (.cancelled, broken) else fetch r.held r.chunks
  | .broken | .finished => (.ended, spent)

/-- The entities of chunks up to the first failure, and what follows them. -/
def gather (held : Bool) : List (Arrival (List Entity)) → List Entity × ReadStep
  | [] => ([], if held then .waiting else .ended)
  | .item es :: chunks =>
    let (entities, step) := gather held chunks
    (es ++ entities, step)
  | .failure status :: _ => ([], .failed status)

/-- All entities that can be taken without waiting, and what follows them. -/
def collect (r : ReadStream) (cancelled : Bool) : List Entity × ReadStep :=
  if r.phase ≠ .running then ([], .ended)
  else if cancelled then (r.fetched, .cancelled)
  else
    let (entities, step) := gather r.held r.chunks
    (r.fetched ++ entities, step)

end ReadStream

end P4Control
