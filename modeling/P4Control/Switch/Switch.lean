import P4Control.Switch.Agent

namespace P4Control

/-!
# Switches as clients see them

Between a client and the agent of its switch stands a channel.  It notes the unary
requests that go through it, and it can hold scripted answers: a scripted answer is given
to the next call of its kind, which then does not reach the agent.

* `Request` — the requests that are noted.
* `ScriptedStream` — a stream whose frames are fixed beforehand.
* `Switch` — an agent behind its channel.
-/

/-- A unary request as noted by the channel. -/
inductive Request where
  | set (request : SetPipelineRequest)
  | get (request : GetPipelineRequest)
  | read (request : EntityQuery)
  | write (request : UpdateBatch)
deriving DecidableEq, Repr

/-- A stream whose frames from the switch are fixed beforehand. -/
structure ScriptedStream where
  frames : List (Arrival StreamResponse)
  /-- Whether the stream ends after the frames. -/
  ends : Bool
  /-- Whether the client's frames are refused; otherwise they are held and never read. -/
  refusesFrames : Bool
deriving DecidableEq, Repr

/-- An agent behind its channel. -/
structure Switch where
  agent : Agent := {}
  /-- How many streams have been set up. -/
  streamCount : Nat := 0
  /-- The stream on which the agent sends. -/
  attached : Option Nat := none
  /-- The unary requests noted since the last look, oldest first. -/
  noted : List Request := []
  scriptedStreams : List ScriptedStream := []
  scriptedConfigs : List (Answer (Option PipelineConfig)) := []
  scriptedReads : List ReadReply := []
  scriptedWrites : List (List Status) := []
deriving DecidableEq, Repr, Inhabited

namespace Switch

/-- Notes a request. -/
def note (s : Switch) (request : Request) : Switch := { s with noted := s.noted ++ [request] }

/-- Pushes a program through the channel. -/
def setPipeline (s : Switch) (request : SetPipelineRequest) : Switch × Answer Unit :=
  let s := s.note (.set request)
  let (agent, answer) := s.agent.setPipeline request
  ({ s with agent }, answer)

/-- Asks for the running program through the channel. -/
def getPipeline (s : Switch) (request : GetPipelineRequest) :
    Switch × Answer (Option PipelineConfig) :=
  let s := s.note (.get request)
  match s.scriptedConfigs with
  | scripted :: rest => ({ s with scriptedConfigs := rest }, scripted)
  | [] =>
    let (agent, answer) := s.agent.getPipeline request
    ({ s with agent }, answer)

/-- Asks for entities through the channel. -/
def read (s : Switch) (request : EntityQuery) : Switch × Answer ReadReply :=
  let s := s.note (.read request)
  match s.scriptedReads with
  | scripted :: rest => ({ s with scriptedReads := rest }, .reply scripted)
  | [] =>
    let (agent, answer) := s.agent.read request
    ({ s with agent }, answer)

/-- Writes updates through the channel. -/
def write (s : Switch) (request : UpdateBatch) : Switch × Answer (List Status) :=
  let s := s.note (.write request)
  match s.scriptedWrites with
  | scripted :: rest => ({ s with scriptedWrites := rest }, .reply scripted)
  | [] =>
    let (agent, answer) := s.agent.write request
    ({ s with agent }, answer)

end Switch

end P4Control
