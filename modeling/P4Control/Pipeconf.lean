import P4Control.Bytes
import P4Control.Directory
import P4Control.Identity

namespace P4Control

/-!
# Pipeline configurations

A pipeline configuration bundles the description of a forwarding program with the names
that the client resolves itself: tables, and the metadata fields of controller packets.

* `Pipeconf` — one configuration, built up name by name.
* `Catalog` — the registered configurations and which device runs which.
-/

/-- A pipeline configuration as the controller knows it. -/
structure Pipeconf where
  id : PipeconfId
  /-- Changes whenever the program does; it seeds the cookie pushed with the program. -/
  fingerprint : UInt64
  /-- The program description; empty if there is none. -/
  description : Bytes := []
  tables : Directory String UInt32 := .empty
  packetMetadata : Directory String UInt32 := .empty
deriving DecidableEq, Repr

namespace Pipeconf

/-- Adds a table; a name given again replaces the earlier id. -/
def withTable (p : Pipeconf) (name : String) (id : UInt32) : Pipeconf :=
  { p with tables := p.tables.insert name id }

/-- Adds a packet metadata field; a name given again replaces the earlier id. -/
def withPacketMetadata (p : Pipeconf) (name : String) (id : UInt32) : Pipeconf :=
  { p with packetMetadata := p.packetMetadata.insert name id }

/-- The program description, if the configuration carries one. -/
def p4info? (p : Pipeconf) : Option Bytes :=
  if p.description = [] then none else some p.description

/-- The id of a table. -/
def tableId? (p : Pipeconf) (name : String) : Option UInt32 := p.tables.find? name

/-- The id of a packet metadata field. -/
def metadataId? (p : Pipeconf) (name : String) : Option UInt32 := p.packetMetadata.find? name

/-- The first field with the given id. -/
def metadataName? (p : Pipeconf) (id : UInt32) : Option String :=
  (p.packetMetadata.entries.find? fun entry => decide (entry.2 = id)).map (·.1)

end Pipeconf

/-- The known pipeline configurations and the bindings of devices to them. -/
structure Catalog where
  pipeconfs : Directory PipeconfId Pipeconf := .empty
  bindings : Directory DeviceId PipeconfId := .empty
deriving DecidableEq, Repr, Inhabited

namespace Catalog

/-- Makes a configuration known, in place of an earlier one of the same id. -/
def register (c : Catalog) (p : Pipeconf) : Catalog :=
  { c with pipeconfs := c.pipeconfs.insert p.id p }

/-- Records that a device runs the configuration of the given id, known or not. -/
def bind (c : Catalog) (device : DeviceId) (id : PipeconfId) : Catalog :=
  { c with bindings := c.bindings.insert device id }

/-- Forgets which configuration a device runs. -/
def unbind (c : Catalog) (device : DeviceId) : Catalog :=
  { c with bindings := c.bindings.erase device }

/-- The known configuration of the given id. -/
def pipeconf? (c : Catalog) (id : PipeconfId) : Option Pipeconf := c.pipeconfs.find? id

/-- The id bound to a device. -/
def binding? (c : Catalog) (device : DeviceId) : Option PipeconfId := c.bindings.find? device

/-- The configuration of a device, if an id is bound to it and known. -/
def devicePipeconf? (c : Catalog) (device : DeviceId) : Option Pipeconf :=
  (c.binding? device).bind c.pipeconf?

end Catalog

end P4Control
