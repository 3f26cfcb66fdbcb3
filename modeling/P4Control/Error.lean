import P4Control.Duration
import P4Control.Identity
import P4Control.Wire.Status

namespace P4Control

/-!
# Errors of the client

What a caller of the client can be told.  The constructors are the causes; the wording
of all of them is in `ClientError.message`, and `ClientError.code?` gives the status code
behind a cause that has one.

* `Operation` — the calls that a failure can be about, with the names errors use for them.
* `ClientError` — the causes.
-/

/-- The calls to a switch, as errors name them. -/
inductive Operation where
  | openStream
  | streamChannel
  | setPipeline
  | getPipeline
  | read
  | write
deriving DecidableEq, Repr, Inhabited

/-- The name of a call in error messages. -/
def Operation.text : Operation → String
  | openStream => "open stream channel"
  | streamChannel => "stream channel"
  | setPipeline => "set forwarding pipeline config"
  | getPipeline => "get forwarding pipeline config"
  | read => "read"
  | write => "write"

/-- Why a request to the client did not succeed. -/
inductive ClientError where
  /-- The channel failed, and the session with it. -/
  | transportUnavailable (device : DeviceId) (message : String)
  /-- The switch refused because this client is not its master. -/
  | permissionDenied (device : DeviceId) (message : String)
  /-- No answer came before the deadline. -/
  | timeout (device : DeviceId) (operation : String) (limit : Duration)
  /-- No session is open. -/
  | sessionNotOpen (device : DeviceId)
  /-- The session ended before the answer came. -/
  | cancelled (device : DeviceId) (operation : String)
  /-- The switch answered with something the protocol does not allow. -/
  | protocolViolation (device : DeviceId) (message : String)
  /-- The switch answered with any other status. -/
  | rpc (device : DeviceId) (operation : String) (code : StatusCode) (message : String)
  /-- The queue of outbound frames has no room. -/
  | outboundQueueFull (device : DeviceId)
  /-- The pipeline configuration cannot be used. -/
  | invalidPipeconf (pipeconf : PipeconfId) (reason : String)
  /-- The pipeline configuration has no table of that name. -/
  | unknownTable (pipeconf : PipeconfId) (table : String)
  /-- The pipeline configuration has no such packet metadata field. -/
  | unknownPacketMetadata (pipeconf : PipeconfId) (field : String)
  /-- No channel leads to the device. -/
  | channelNotFound (device : DeviceId)
  /-- The device already has a client under another key. -/
  | clientExists (device : DeviceId) (existing : ClientKey)
deriving DecidableEq, Repr

namespace ClientError

/-- The status code behind an error, when there is one. -/
def code? : ClientError → Option StatusCode
  | transportUnavailable .. => some .unavailable
  | permissionDenied .. => some .permissionDenied
  | timeout .. => some .deadlineExceeded
  | cancelled .. => some .cancelled
  | rpc _ _ code _ => some code
  | _ => none

/-- Whether no session was open. -/
def isSessionNotOpen : ClientError → Bool
  | sessionNotOpen .. => true
  | _ => false

/-- Whether this client lost mastership, or never had it. -/
def isPermissionDenied : ClientError → Bool
  | permissionDenied .. => true
  | _ => false

/-- Whether the channel itself failed, so that the session has to be opened again. -/
def isTransport : ClientError → Bool
  | transportUnavailable .. => true
  | _ => false

/-- Whether a deadline passed. -/
def isTimeout : ClientError → Bool
  | timeout .. => true
  | _ => false

/-- Whether the session ended first. -/
def isCancelled : ClientError → Bool
  | cancelled .. => true
  | _ => false

/-- The error as text for people. -/
def message : ClientError → String
  | transportUnavailable d m => "Channel to " ++ d.raw ++ " unavailable: " ++ m
  | permissionDenied d m => "Permission denied on " ++ d.raw ++ ": not master (" ++ m ++ ")"
  | timeout d op limit => op ++ " on " ++ d.raw ++ " timed out after " ++ limit.text
  | sessionNotOpen d => "No open stream session for " ++ d.raw
  | cancelled d op => op ++ " on " ++ d.raw ++ " cancelled by session close"
  | protocolViolation d m => "Protocol violation from " ++ d.raw ++ ": " ++ m
  | rpc d op code m => op ++ " on " ++ d.raw ++ " failed: " ++ code.name ++ ": " ++ m
  | outboundQueueFull d => "Outbound stream queue for " ++ d.raw ++ " is full"
  | invalidPipeconf p reason => "Invalid pipeconf " ++ p.raw ++ ": " ++ reason
  | unknownTable p table => "Unknown table " ++ table ++ " in pipeconf " ++ p.raw
  | unknownPacketMetadata p field => "Unknown packet metadata " ++ field ++ " in pipeconf " ++ p.raw
  | channelNotFound d => "No channel available for " ++ d.raw
  | clientExists d existing => "A client for " ++ d.raw ++ " already exists with key " ++ existing.text

end ClientError

end P4Control
