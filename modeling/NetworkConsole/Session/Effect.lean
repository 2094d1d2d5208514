import NetworkConsole.Command.Basic

/-! What a command changed, and its answer to the user. -/
namespace NetworkConsole

inductive Effect where
  | deviceAdded (name : String) (kind : DeviceKind)
  | connected (a b : String) (cable : Cable)
  | interfaceConfigured (device interface : String)
  | hostnameChanged (device hostname : String)
  | routingAdded (device : String) (protocol : Routing.Protocol)
  | ruleAdded (device : String) (number sequence : UInt32)
  | saved (device : String) (lines : Nat)
  | cliCleared
  | networkCleared
  | none
  deriving DecidableEq

namespace Effect

def text : Effect → String
  | .deviceAdded name kind => s!"added {kind} {name}"
  | .connected a b cable => s!"connected {a} <-> {b} [{cable}]"
  | .interfaceConfigured device interface => s!"configured {interface} on {device}"
  | .hostnameChanged device hostname => s!"hostname of {device} is now {hostname}"
  | .routingAdded device protocol => s!"added {protocol} statement on {device}"
  | .ruleAdded device number sequence =>
    s!"added rule {sequence} to access list {number} on {device}"
  | .saved device lines => s!"saved {lines} lines of {device}"
  | .cliCleared => "configuration log cleared"
  | .networkCleared => "network cleared"
  | .none => "no change"

instance : ToString Effect := ⟨text⟩

end Effect

structure Answer where
  /-- Lines for the user. -/
  output : List String
  effect : Effect
  deriving DecidableEq

/-- The answer of a command that only looks. -/
def Answer.shown (output : List String) : Answer := ⟨output, .none⟩

end NetworkConsole
