import NetworkConsole.Command.Kind
import NetworkConsole.Connection

/-! Commands with their arguments in domain types. -/
namespace NetworkConsole

inductive Command where
  | addDevice (kind : DeviceKind) (name : String)
  | connect (a b : String) (cable : Cable)
  | setInterface (device interface : String) (address mask : Address)
  | setHostname (device hostname : String)
  | route (device : String) (statement : Routing.Statement)
  | filter (device : String) (number : UInt32) (action : AccessList.Action)
      (entry : AccessList.Entry)
  | showInterfaces (device : String)
  | showRouting (device : String)
  | showAccess (device : String)
  | showCli (device : String)
  | showTopology
  | showHistory
  | save (device : String)
  | clearCli
  | clearAll
  | help
  deriving DecidableEq

/-- The kind that introduces statements of a protocol. -/
def Routing.Protocol.commandKind : Routing.Protocol → CommandKind
  | .ospf => .setOspf
  | .eigrp => .setEigrp
  | .rip => .setRip

/-- The kind that introduces rules of a shape. -/
def AccessList.Shape.commandKind : AccessList.Shape → CommandKind
  | .standard => .setStandardAccess
  | .extended => .setExtendedAccess

def Command.kind : Command → CommandKind
  | .addDevice .. => .add
  | .connect .. => .connect
  | .setInterface .. => .setInterface
  | .setHostname .. => .setHostname
  | .route _ statement => statement.protocol.commandKind
  | .filter _ _ _ entry => entry.shape.commandKind
  | .showInterfaces _ => .showInterfaces
  | .showRouting _ => .showRouting
  | .showAccess _ => .showAccess
  | .showCli _ => .showCli
  | .showTopology => .showTopology
  | .showHistory => .showHistory
  | .save _ => .save
  | .clearCli => .clearCli
  | .clearAll => .clearAll
  | .help => .help

end NetworkConsole
