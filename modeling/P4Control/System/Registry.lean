import P4Control.System.Session
import P4Control.Text.Quoted

namespace P4Control.System

/-!
# The registry

There is at most one registered client per device.  Users hold clients by handles of
their own; further clients can be made outside the registry.

* `createClient`, `removeClient`, `registered?`, `deviceIds` — the registry.
* `newClient` — a client outside the registry.
* `setHandle`, `dropHandle` — the handles.
-/

/-- A fresh client with a closed session, on the given switch. -/
def newClient (s : System) (key : ClientKey) (switch : SwitchName) (config : ClientConfig) :
    System × ClientId :=
  let serial := (s.clients.keys.filter fun id => decide (id.device = key.device)).length
  let id : ClientId := ⟨key.device, serial⟩
  ({ s with clients := s.clients.insert id { key, config, switch } }, id)

/-- The registered client of a device. -/
def registered? (s : System) (device : DeviceId) : Option ClientId := s.registry.find? device

/-- The client of a device under the given key: the registered one if it has that key, and a fresh
one if none is registered and a channel leads to the device. -/
def createClient (s : System) (key : ClientKey) (config : ClientConfig) :
    System × Except ClientError ClientId :=
  match s.registered? key.device with
  | some id =>
    let existing := (s.client id).key
    (s, if existing = key then .ok id else .error (.clientExists key.device existing))
  | none =>
    match s.channels.find? key.device with
    | none => (s, .error (.channelNotFound key.device))
    | some switch =>
      let (s, id) := s.newClient key switch config
      ({ s with registry := s.registry.insert key.device id }, .ok id)

/-- Closes the session of a device's registered client and forgets the client. -/
def removeClient (s : System) (device : DeviceId) : System × Bool :=
  match s.registered? device with
  | none => (s, false)
  | some id =>
    ((({ s with registry := s.registry.erase device }).closeSession id).release id, true)

/-- Inserts into a list in ascending order. -/
def insertDevice (d : DeviceId) : List DeviceId → List DeviceId
  | [] => [d]
  | e :: rest => if d.le e then d :: e :: rest else e :: insertDevice d rest

/-- The devices with a registered client, in ascending order. -/
def deviceIds (s : System) : List DeviceId := s.registry.keys.foldr insertDevice []

/-! ### Handles -/

/-- Gives a user a client under a name; what the name held before is let go. -/
def setHandle (s : System) (name : String) (id : ClientId) : System :=
  let before := s.handles.find? name
  let s := { s with handles := s.handles.insert name id }
  match before with
  | some old => s.release old
  | none => s

/-- Takes the client of the given name from its user. -/
def dropHandle (s : System) (name : String) : System × Bool :=
  match s.handles.find? name with
  | none => (s, false)
  | some id => (({ s with handles := s.handles.erase name }).release id, true)

/-! ### Looking at a client -/

/-- A client described in one line. -/
def describe (s : System) (id : ClientId) : String :=
  let c := s.client id
  "P4RuntimeClient \x7b key: ClientKey \x7b device_id: DeviceId(" ++ Text.quoted c.key.device.raw ++
    "), p4_device_id: " ++ toString c.key.number ++ " \x7d, session: " ++
    c.scope.connection.value.word ++ ", .. \x7d"

end P4Control.System
