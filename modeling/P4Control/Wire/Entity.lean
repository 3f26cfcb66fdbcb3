import P4Control.Bytes

namespace P4Control

/-!
# Forwarding entities

The state of a switch is a flat table of entities.  An entity has a kind, the id of the
object it belongs to, a key and data; key and data are opaque.  The same shape serves as
a read query, in which a zero id and an empty key stand for "any".

* `EntityKind`, `UpdateType`, `Atomicity` — the enumerations of the protocol, with their names.
* `Entity` — one entity, `Entity.selects` — one entity used as a query.
* `Update` — a change of one entity.
-/

/-- What an entity is. -/
inductive EntityKind where
  | tableEntry
  | actionProfileMember
  | actionProfileGroup
  | counterEntry
  | directCounterEntry
  | meterEntry
  | directMeterEntry
  | packetReplicationEngineEntry
  | registerEntry
deriving DecidableEq, Repr, Inhabited

namespace EntityKind

/-- All kinds. -/
def all : List EntityKind :=
  [tableEntry, actionProfileMember, actionProfileGroup, counterEntry, directCounterEntry,
   meterEntry, directMeterEntry, packetReplicationEngineEntry, registerEntry]

/-- The protocol's name of a kind. -/
def name : EntityKind → String
  | tableEntry => "table_entry"
  | actionProfileMember => "action_profile_member"
  | actionProfileGroup => "action_profile_group"
  | counterEntry => "counter_entry"
  | directCounterEntry => "direct_counter_entry"
  | meterEntry => "meter_entry"
  | directMeterEntry => "direct_meter_entry"
  | packetReplicationEngineEntry => "packet_replication_engine_entry"
  | registerEntry => "register_entry"

/-- The kind of the given name, which is read exactly. -/
def ofName? (s : String) : Option EntityKind := all.find? (·.name = s)

end EntityKind

/-- How an entity is changed. -/
inductive UpdateType where
  | insert
  | modify
  | delete
deriving DecidableEq, Repr, Inhabited

namespace UpdateType

/-- All update types. -/
def all : List UpdateType := [insert, modify, delete]

/-- The protocol's name of an update type. -/
def name : UpdateType → String
  | insert => "INSERT"
  | modify => "MODIFY"
  | delete => "DELETE"

/-- The update type of the given name, which is read exactly. -/
def ofName? (s : String) : Option UpdateType := all.find? (·.name = s)

end UpdateType

/-- What a switch does with the rest of a write when one update fails. -/
inductive Atomicity where
  | continueOnError
  | rollbackOnError
  | dataplaneAtomic
deriving DecidableEq, Repr, Inhabited

namespace Atomicity

/-- All atomicities. -/
def all : List Atomicity := [continueOnError, rollbackOnError, dataplaneAtomic]

/-- The protocol's name of an atomicity. -/
def name : Atomicity → String
  | continueOnError => "CONTINUE_ON_ERROR"
  | rollbackOnError => "ROLLBACK_ON_ERROR"
  | dataplaneAtomic => "DATAPLANE_ATOMIC"

/-- The atomicity of the given name, which is read exactly. -/
def ofName? (s : String) : Option Atomicity := all.find? (·.name = s)

end Atomicity

/-- One entity of a switch's forwarding state. -/
structure Entity where
  kind : EntityKind
  /-- The object that owns the entity; zero in a query stands for every object of the kind. -/
  id : UInt32
  /-- The match key; empty in a query stands for every entry of the object. -/
  key : Bytes
  data : Bytes
deriving DecidableEq, Repr, Inhabited

namespace Entity

/-- The query for all entries of `kind` under object `id`. -/
def wildcard (kind : EntityKind) (id : UInt32) : Entity := ⟨kind, id, [], []⟩

/-- Whether `query`, used as a read query, selects `entity`. -/
def selects (query entity : Entity) : Bool :=
  query.kind = entity.kind && (query.id = 0 || query.id = entity.id) &&
    (query.key = [] || query.key = entity.key)

end Entity

/-- A change of one entity. -/
structure Update where
  type : UpdateType
  entity : Entity
deriving DecidableEq, Repr, Inhabited

end P4Control
