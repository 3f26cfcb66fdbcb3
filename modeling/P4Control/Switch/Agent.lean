import P4Control.Directory
import P4Control.Wire.Message

namespace P4Control

/-!
# The agent on a switch

A small simulated switch agent.  It gives mastership to the highest election id it has
seen, takes pipeline pushes and writes from the master only, stores one forwarding
program and a flat table of entities, and records every claim and every packet it
receives.  Calls can be made to fail or to go unanswered.

* `Rpc`, `Fault`, `Answer` — the calls, what can be done to them, how they end.
* `Agent.arbitrate` — a mastership claim.
* `Agent.setPipeline`, `Agent.getPipeline`, `Agent.read`, `Agent.write` — the unary calls.
* `EntityTable.apply` — one update of the entity table.
-/

/-- The calls a switch answers. -/
inductive Rpc where
  | streamChannel
  | setPipeline
  | getPipeline
  | read
  | write
deriving DecidableEq, Repr, Inhabited

/-- What a queued fault does to the next call. -/
inductive Fault where
  | fail (status : Status)
  | stall
deriving DecidableEq, Repr

/-- How a call ends: with a reply, with a status, or not at all. -/
inductive Answer (α : Type) where
  | reply (a : α)
  | refused (status : Status)
  | silence
deriving DecidableEq, Repr

/-- The answer with its reply changed by `f`. -/
def Answer.map {α β : Type} (f : α → β) : Answer α → Answer β
  | reply a => reply (f a)
  | refused s => refused s
  | silence => silence

/-- The chunks in which a switch sends the result of a read.  After the last one it ends the
stream, or holds it open. -/
structure ReadReply where
  chunks : List (Arrival (List Entity))
  held : Bool
deriving DecidableEq, Repr

/-! ### The entity table -/

/-- The entities of a switch, oldest first. -/
abbrev EntityTable := List Entity

namespace EntityTable

/-- Whether two entities are entries for the same thing: the same kind, object and key. -/
def sameEntry (a b : Entity) : Bool := a.kind = b.kind && a.id = b.id && a.key = b.key

/-- Replaces the first entry for the same thing as `entity`. -/
def replace (entity : Entity) : EntityTable → EntityTable
  | [] => []
  | e :: rest => if sameEntry e entity then entity :: rest else e :: replace entity rest

/-- Removes the first entry for the same thing as `entity`. -/
def remove (entity : Entity) : EntityTable → EntityTable
  | [] => []
  | e :: rest => if sameEntry e entity then rest else e :: remove entity rest

/-- Applies an update.  Only an absent entry can be inserted, only a present one modified or
deleted. -/
def apply (table : EntityTable) (update : Update) : EntityTable × Status :=
  let present := table.any fun e => sameEntry e update.entity
  match update.type, present with
  | .insert, false => (table ++ [update.entity], .success)
  | .insert, true => (table, ⟨.alreadyExists, "entry exists"⟩)
  | .modify, true => (replace update.entity table, .success)
  | .delete, true => (remove update.entity table, .success)
  | .modify, false | .delete, false => (table, ⟨.notFound, "entry not found"⟩)

/-- The entities that at least one of the queries selects, in table order. -/
def select (table : EntityTable) (queries : List Entity) : List Entity :=
  table.filter fun e => queries.any (·.selects e)

end EntityTable

/-- Cuts a list into the rest of a piece with room for `room` more elements, and the pieces of
`size` elements after it. -/
def cut {α : Type} (size : Nat) : (room : Nat) → List α → List α × List (List α)
  | _, [] => ([], [])
  | room + 1, a :: rest =>
    let (piece, pieces) := cut size room rest
    (a :: piece, pieces)
  | 0, a :: rest =>
    let (piece, pieces) := cut size (size - 1) rest
    ([], (a :: piece) :: pieces)

/-- Cuts a list into pieces of `size` elements, the last one possibly shorter; a size of zero
counts as one. -/
def chunksOf {α : Type} (size : Nat) (l : List α) : List (List α) := (cut size 0 l).2

/-! ### The agent -/

/-- The state of a switch agent. -/
structure Agent where
  /-- The election id of the master. -/
  master : Option Uint128 := none
  /-- Whether claims are acknowledged. -/
  acknowledges : Bool := true
  /-- Whether cookies of pushed programs are remembered. -/
  keepsCookies : Bool := true
  /-- The program pushed last. -/
  pipeline : Option PipelineConfig := none
  entities : EntityTable := []
  /-- How many entities go into one chunk of a read. -/
  chunkSize : Nat := 2
  /-- Whether reads stay open after the last chunk. -/
  holdsReads : Bool := false
  /-- The faults waiting for calls, per call, oldest first. -/
  faults : Directory Rpc (List Fault) := .empty
  /-- The updates of the next write that shall fail, by position. -/
  updateFailures : Directory Nat Status := .empty
  /-- How many statuses of the next write are sent, if not all. -/
  statusLimit : Option Nat := none
  /-- How many calls have come in, per call. -/
  calls : Directory Rpc Nat := .empty
  /-- The claims received, oldest first. -/
  claims : List ArbitrationUpdate := []
  /-- The packets received, oldest first. -/
  packetOuts : List WirePacket := []
deriving DecidableEq, Repr, Inhabited

namespace Agent

/-! ### Steering -/

/-- Queues a fault for the next call of `rpc` that has none before it. -/
def queueFault (a : Agent) (rpc : Rpc) (fault : Fault) : Agent :=
  { a with faults := a.faults.insert rpc ((a.faults.find? rpc).getD [] ++ [fault]) }

/-- Makes the update at `index` of the next write fail. -/
def failUpdate (a : Agent) (index : Nat) (status : Status) : Agent :=
  { a with updateFailures := a.updateFailures.insert index status }

/-- Sets how many entities go into one chunk of a read; at least one. -/
def setChunkSize (a : Agent) (size : Nat) : Agent := { a with chunkSize := max size 1 }

/-- Adds entities to the table without looking at those that are there. -/
def addEntities (a : Agent) (entities : List Entity) : Agent :=
  { a with entities := a.entities ++ entities }

/-- How many calls of `rpc` have come in. -/
def callCount (a : Agent) (rpc : Rpc) : Nat := (a.calls.find? rpc).getD 0

/-! ### Calls -/

/-- A call of `rpc` comes in: it is counted, and the fault waiting for it is used up. -/
def enter (a : Agent) (rpc : Rpc) : Agent × Option Fault :=
  let a := { a with calls := a.calls.insert rpc (a.callCount rpc + 1) }
  match (a.faults.find? rpc).getD [] with
  | [] => (a, none)
  | fault :: rest => ({ a with faults := a.faults.insert rpc rest }, some fault)

/-- A call of `rpc` that does `work` unless a fault waits for it. -/
def answer {α : Type} (a : Agent) (rpc : Rpc) (work : Agent → Agent × Answer α) : Agent × Answer α :=
  match a.enter rpc with
  | (a, none) => work a
  | (a, some (.fail status)) => (a, .refused status)
  | (a, some .stall) => (a, .silence)

/-- Whether `election` is the id of the master. -/
def isMaster (a : Agent) (election : Option Uint128) : Bool :=
  a.master.isSome && election = a.master

/-- The status for those who are not master. -/
def notMaster : Status := ⟨.permissionDenied, "client is not master"⟩

/-- The master after a claim: the claimant if its id is higher, or if there was no master. -/
def elect (master claimed : Option Uint128) : Option Uint128 :=
  match master, claimed with
  | some m, some c => if m.lt c then some c else some m
  | some m, none => some m
  | none, c => c

/-- Takes in a claim.  The acknowledgement, if claims are acknowledged, names the master and says
whether it is the claimant. -/
def arbitrate (a : Agent) (claim : ArbitrationUpdate) : Agent × Option ArbitrationUpdate :=
  let master := elect a.master claim.election
  let status :=
    if master = claim.election then Status.success
    else ⟨.alreadyExists, "a higher election id holds mastership"⟩
  ({ a with claims := a.claims ++ [claim], master },
   if a.acknowledges then some ⟨claim.device, master, some status⟩ else none)

/-- Takes in a packet. -/
def receivePacket (a : Agent) (packet : WirePacket) : Agent :=
  { a with packetOuts := a.packetOuts ++ [packet] }

/-- A program is pushed.  Only the master may do so, and mere verification stores nothing. -/
def setPipeline (a : Agent) (request : SetPipelineRequest) : Agent × Answer Unit :=
  a.answer .setPipeline fun a =>
    if a.isMaster request.election then
      match request.action with
      | .verify => (a, .reply ())
      | _ => ({ a with pipeline := some request.config }, .reply ())
    else (a, .refused notMaster)

/-- The parts of a stored program that a view shows. -/
def view (keepsCookies : Bool) (stored : PipelineConfig) (v : PipelineView) : PipelineConfig :=
  let cookie := if keepsCookies then stored.cookie else none
  match v with
  | .all => ⟨stored.p4info, stored.deviceData, cookie⟩
  | .p4infoAndCookie => ⟨stored.p4info, [], cookie⟩
  | .deviceDataAndCookie => ⟨[], stored.deviceData, cookie⟩
  | .cookieOnly => ⟨[], [], cookie⟩

/-- The running program is asked for. -/
def getPipeline (a : Agent) (request : GetPipelineRequest) : Agent × Answer (Option PipelineConfig) :=
  a.answer .getPipeline fun a =>
    (a, .reply (a.pipeline.map fun stored => view a.keepsCookies stored request.view))

/-- Entities are asked for. -/
def read (a : Agent) (request : EntityQuery) : Agent × Answer ReadReply :=
  a.answer .read fun a =>
    let chunks := chunksOf a.chunkSize (a.entities.select request.queries)
    (a, .reply ⟨chunks.map .item, a.holdsReads⟩)

/-- Applies updates in order.  An update whose position is marked to fail does nothing and gets
the status it is marked with. -/
def applyAll (failures : Directory Nat Status) :
    (position : Nat) → List Update → EntityTable → EntityTable × List Status
  | _, [], table => (table, [])
  | i, update :: rest, table =>
    let (table, status) :=
      match failures.find? i with
      | some injected => (table, injected)
      | none => table.apply update
    let (table, statuses) := applyAll failures (i + 1) rest table
    (table, status :: statuses)

/-- The statuses that are sent: none when all updates succeeded, and otherwise at most as many as
the limit allows. -/
def sentStatuses (limit : Option Nat) (statuses : List Status) : List Status :=
  match limit with
  | some n => statuses.take n
  | none => if statuses.all (·.isOk) then [] else statuses

/-- Updates are written.  Only the master may do so. -/
def write (a : Agent) (request : UpdateBatch) : Agent × Answer (List Status) :=
  a.answer .write fun a =>
    if a.isMaster request.election then
      let (entities, statuses) := applyAll a.updateFailures 0 request.updates a.entities
      ({ a with entities, updateFailures := .empty, statusLimit := none },
       .reply (sentStatuses a.statusLimit statuses))
    else (a, .refused notMaster)

end Agent

end P4Control
