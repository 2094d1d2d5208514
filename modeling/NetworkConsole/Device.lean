import NetworkConsole.AccessList
import NetworkConsole.Address.Mask
import NetworkConsole.Routing
import NetworkConsole.Table

/-! Devices and their configuration: hostname, interfaces, routing statements, access rules, and the
configuration lines generated for them. -/
namespace NetworkConsole

inductive DeviceKind where
  | router | switch | host | server
  deriving DecidableEq

namespace DeviceKind

instance : Keyword DeviceKind where
  all := [.router, .switch, .host, .server]
  spelling
    | .router => "router"
    | .switch => "switch"
    | .host => "host"
    | .server => "server"

instance : ToString DeviceKind := ⟨Keyword.spelling⟩

/-- Routing protocols run on routers. -/
def canRoute : DeviceKind → Bool
  | .router => true
  | _ => false

/-- Access lists are carried by routers and switches. -/
def canFilter : DeviceKind → Bool
  | .router | .switch => true
  | _ => false

end DeviceKind

abbrev DeviceId := Nat

structure Interface where
  address : Address
  mask : Address
  deriving DecidableEq

def Interface.prefixLength (interface : Interface) : Nat := interface.mask.leadingOnes

structure Device where
  id : DeviceId
  name : String
  kind : DeviceKind
  /-- The hostname, where one was configured. -/
  givenHostname : Option String := none
  interfaces : Table Interface := .empty
  routing : Routing.Config := {}
  /-- Access rules in arrival order. -/
  rules : List AccessList.Rule := []
  /-- Generated configuration lines, oldest first. -/
  cli : List String := []

namespace Device

/-- The configured hostname, or else the name. -/
def hostname (device : Device) : String := device.givenHostname.getD device.name

def interface? (device : Device) (interface : String) : Option Interface :=
  device.interfaces.get? interface

/-- The first interface that holds `address`. -/
def holder? (device : Device) (address : Address) : Option String :=
  (device.interfaces.entries.find? (·.2.address = address)).map Prod.fst

end Device
end NetworkConsole
