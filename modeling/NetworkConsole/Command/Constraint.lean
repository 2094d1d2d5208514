import NetworkConsole.Command.Basic
import NetworkConsole.Network.Basic

/-! What a network demands of a command before it is carried out. -/
namespace NetworkConsole

inductive Feature where
  | routing | filtering
  deriving DecidableEq

namespace Feature

def text : Feature → String
  | .routing => "routing protocols"
  | .filtering => "access lists"

instance : ToString Feature := ⟨text⟩

end Feature

inductive ConstraintError where
  | unknownDevice (name : String)
  | duplicateDevice (name : String)
  | selfConnection (name : String)
  | duplicateConnection (a b : String)
  | listNumberOutOfRange (number : UInt32) (shape : AccessList.Shape)
  | processOutOfRange (protocol : Routing.Protocol) (process : UInt32)
  | unsupported (device : String) (kind : DeviceKind) (feature : Feature)
  | notAHost (address mask : Address)
  | addressInUse (address : Address) (device interface : String)
  | duplicateStatement (device : String) (statement : Routing.Statement)
  deriving DecidableEq

namespace ConstraintError

def text : ConstraintError → String
  | .unknownDevice name => s!"device `{name}` does not exist"
  | .duplicateDevice name => s!"device `{name}` already exists"
  | .selfConnection name => s!"cannot connect `{name}` to itself"
  | .duplicateConnection a b => s!"`{a}` and `{b}` are already connected"
  | .listNumberOutOfRange number shape =>
    let ranges := shape.rangesText
    s!"access list number {number} is invalid for a {shape} access list (expected {ranges})"
  | .processOutOfRange protocol process =>
    s!"{protocol} process id {process} out of range (expected 1-65535)"
  | .unsupported device kind feature =>
    s!"`{device}` is a {kind}, which does not support {feature}"
  | .notAHost address mask => s!"{address} is not a valid host address for mask {mask}"
  | .addressInUse address device interface =>
    s!"{address} is already assigned to `{device}` {interface}"
  | .duplicateStatement device statement =>
    s!"`{device}` already has the statement `{statement}`"

instance : ToString ConstraintError := ⟨text⟩

end ConstraintError

namespace Command

/-- Fails with the error unless the condition holds. -/
def demand (condition : Bool) (error : ConstraintError) : Except ConstraintError Unit :=
  if condition then .ok () else .error error

/-- The device of the given name. -/
def existing (net : Network) (name : String) : Except ConstraintError Device :=
  match net.device name with
  | .ok device => .ok device
  | .error _ => .error (.unknownDevice name)

/-- Process ids of OSPF and system numbers of EIGRP have 16 bits and are not zero. -/
def isProcessId (process : UInt32) : Bool := 1 ≤ process && process ≤ 65535

def checkProcess : Routing.Statement → Except ConstraintError Unit
  | .ospf process .. => demand (isProcessId process) (.processOutOfRange .ospf process)
  | .eigrp system .. => demand (isProcessId system) (.processOutOfRange .eigrp system)
  | .rip _ => .ok ()

/-- No interface other than the given one holds the address. -/
def checkAddressFree (net : Network) (device interface : String) (address : Address) :
    Except ConstraintError Unit :=
  match net.holder? address with
  | some (otherDevice, otherInterface) =>
    demand (otherDevice == device && otherInterface == interface)
      (.addressInUse address otherDevice otherInterface)
  | none => .ok ()

/-- Fails with the first demand of the network that the command does not meet. -/
def check (net : Network) : Command → Except ConstraintError Unit
  | .addDevice _ name => demand (!net.hasDevice name) (.duplicateDevice name)
  | .connect a b _ => do
    let _ ← existing net a
    let _ ← existing net b
    demand (a != b) (.selfConnection a)
    demand (net.cable? a b).isNone (.duplicateConnection a b)
  | .setInterface device interface address mask => do
    let _ ← existing net device
    demand (address.isHostOf mask) (.notAHost address mask)
    checkAddressFree net device interface address
  | .route device statement => do
    let d ← existing net device
    demand d.kind.canRoute (.unsupported device d.kind .routing)
    checkProcess statement
    demand (!d.routing.contains statement) (.duplicateStatement device statement)
  | .filter device number _ entry => do
    let d ← existing net device
    demand d.kind.canFilter (.unsupported device d.kind .filtering)
    demand (entry.shape.accepts number) (.listNumberOutOfRange number entry.shape)
  | .setHostname device _ | .showInterfaces device | .showRouting device | .showAccess device
  | .showCli device | .save device => discard (existing net device)
  | .showTopology | .showHistory | .clearCli | .clearAll | .help => .ok ()

end Command
end NetworkConsole
