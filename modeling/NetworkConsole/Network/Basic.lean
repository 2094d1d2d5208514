import NetworkConsole.Network.Error

/-! The network of a session: an index of device names, the devices under their ids, the topology
between the ids, and the history of all generated configuration lines. -/
namespace NetworkConsole

/-- A generated line with the name of its device. -/
structure HistoryEntry where
  device : String
  line : String
  deriving DecidableEq

structure Network where
  names : Table DeviceId := .empty
  devices : KeyedTable DeviceId Device := .empty
  topology : Topology := {}
  /-- Generated lines of all devices, oldest first. -/
  history : List HistoryEntry := []

namespace Network

def empty : Network := {}

def hasDevice (net : Network) (name : String) : Bool := net.names.contains name

def deviceId (net : Network) (name : String) : Except NetworkError DeviceId :=
  match net.names.get? name with
  | some id => .ok id
  | none => .error (.unknownName name)

/-- The id of a name with the device under this id. -/
def entry (net : Network) (name : String) : Except NetworkError (DeviceId × Device) :=
  match net.deviceId name with
  | .error e => .error e
  | .ok id =>
    match net.devices.get? id with
    | some d => .ok (id, d)
    | none => .error (.missingDevice id)

def device (net : Network) (name : String) : Except NetworkError Device :=
  match net.entry name with
  | .error e => .error e
  | .ok (_, d) => .ok d

/-- The devices at the nodes of the topology, in the order of addition. -/
def deviceList (net : Network) : List Device := net.topology.nodes.filterMap net.devices.get?

def deviceCount (net : Network) : Nat := net.devices.size

/-- The cable between two devices. -/
def cable? (net : Network) (a b : String) : Option Cable :=
  match net.names.get? a, net.names.get? b with
  | some i, some j => (net.topology.link? i j).map (·.cable)
  | _, _ => none

def connectionOf? (net : Network) (link : Link) : Option Connection :=
  match net.devices.get? link.left, net.devices.get? link.right with
  | some a, some b => some ⟨a.name, b.name, link.cable⟩
  | _, _ => none

/-- The connections by name, in the order of creation. -/
def connections (net : Network) : List Connection := net.topology.links.filterMap net.connectionOf?

def connectionCount (net : Network) : Nat := net.topology.links.length

/-- The first device and interface that hold `address`. -/
def holder? (net : Network) (address : Address) : Option (String × String) :=
  net.deviceList.findSome? fun d => (d.holder? address).map fun interface => (d.name, interface)

def isEmpty (net : Network) : Bool := net.devices.isEmpty && net.history.isEmpty

end Network
end NetworkConsole
