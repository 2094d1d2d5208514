import NetworkConsole.Connection

/-! Why a network refuses a change. -/
namespace NetworkConsole

inductive NetworkError where
  | unknownName (name : String)
  /-- A name stands for an id without a device. -/
  | missingDevice (id : DeviceId)
  | nameTaken (name : String)
  | selfConnection (name : String)
  | alreadyConnected (a b : String)
  | addressTaken (address : Address) (device interface : String)
  | statementPresent (device : String) (statement : Routing.Statement)
  deriving DecidableEq

namespace NetworkError

def text : NetworkError → String
  | .unknownName name => s!"Network device name was not found in topology: {name}"
  | .missingDevice id => s!"Network device was not found in topology: {id}"
  | .nameTaken name => s!"Network device name is already used: {name}"
  | .selfConnection name => s!"Cannot connect {name} to itself"
  | .alreadyConnected a b => s!"Devices are already connected: {a} <-> {b}"
  | .addressTaken address device interface =>
    s!"Address {address} is already assigned to {device} {interface}"
  | .statementPresent device statement =>
    s!"Routing statement already configured on {device}: {statement}"

instance : ToString NetworkError := ⟨text⟩

end NetworkError
end NetworkConsole
