import P4Control.Error
import P4Control.Pipeconf
import P4Control.Wire.Message

namespace P4Control

/-!
# Controller packets

Packets cross the stream with metadata addressed by number.  Callers and events see the
metadata by name, looked up in the pipeline configuration of the device.

* `Packet` — a packet with named metadata.
* `Packet.encode` — to the wire; fails at the first unknown name.
* `Packet.decode` — from the wire; fails at the first unknown number.
-/

/-- A packet whose metadata items are addressed by name. -/
structure Packet where
  payload : Bytes
  metadata : List (String × Bytes) := []
deriving DecidableEq, Repr, Inhabited

namespace Packet

/-- Adds a metadata item at the end. -/
def withMetadata (p : Packet) (name : String) (value : Bytes) : Packet :=
  { p with metadata := p.metadata ++ [(name, value)] }

/-- The first value of a metadata name. -/
def metadata? (p : Packet) (name : String) : Option Bytes :=
  (p.metadata.find? fun item => decide (item.1 = name)).map (·.2)

/-- The wire form of metadata items, in order; the first unknown name is an error. -/
def encodeItems (conf : Pipeconf) : List (String × Bytes) → Except ClientError (List (UInt32 × Bytes))
  | [] => .ok []
  | (name, value) :: rest =>
    match conf.metadataId? name with
    | none => .error (.unknownPacketMetadata conf.id name)
    | some id => (encodeItems conf rest).map ((id, value) :: ·)

/-- The named form of wire metadata, in order; the first unknown number is an error. -/
def decodeItems (conf : Pipeconf) : List (UInt32 × Bytes) → Except ClientError (List (String × Bytes))
  | [] => .ok []
  | (id, value) :: rest =>
    match conf.metadataName? id with
    | none => .error (.unknownPacketMetadata conf.id ("#" ++ toString id))
    | some name => (decodeItems conf rest).map ((name, value) :: ·)

/-- The wire form of a packet. -/
def encode (conf : Pipeconf) (p : Packet) : Except ClientError WirePacket :=
  (encodeItems conf p.metadata).map fun items => ⟨p.payload, items⟩

/-- The packet of a wire form. -/
def decode (conf : Pipeconf) (w : WirePacket) : Except ClientError Packet :=
  (decodeItems conf w.metadata).map fun items => ⟨w.payload, items⟩

end Packet

end P4Control
