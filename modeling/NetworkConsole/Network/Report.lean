import NetworkConsole.Network.Basic
import NetworkConsole.Text.Column

/-! What the console shows of a network: one text for each line, and no change. -/
namespace NetworkConsole

namespace Device

/-- One row of the interface table. -/
def interfaceRow (name address mask : String) : String :=
  let name := Text.padRight 16 name
  let address := Text.padRight 16 address
  s!"{name} {address} {mask}"

def interfaceReport (device : Device) : List String :=
  if device.interfaces.isEmpty then [s!"No interfaces configured on {device.name}"]
  else
    interfaceRow "Interface" "IP-Address" "Mask" ::
      device.interfaces.entries.map fun (name, interface) =>
        interfaceRow name (toString interface.address)
          s!"{interface.mask} (/{interface.prefixLength})"

def routingReport (device : Device) : List String :=
  if device.routing.isEmpty then [s!"No routing protocols configured on {device.name}"]
  else device.routing.listing.map toString

def accessReport (device : Device) : List String :=
  if device.rules.isEmpty then [s!"No access lists configured on {device.name}"]
  else device.rules.map fun rule => s!"access-list {rule}"

/-- The generated lines below a comment with hostname and kind. -/
def cliReport (device : Device) : List String :=
  s!"! {device.hostname} ({device.kind})" :: device.cli

def summary (device : Device) : String :=
  if device.hostname = device.name then s!"  {device.kind} {device.name}"
  else s!"  {device.kind} {device.name} (hostname {device.hostname})"

end Device

namespace Network

def topologyReport (net : Network) : List String :=
  s!"{net.deviceCount} devices, {net.connectionCount} connections" ::
    (net.deviceList.map Device.summary ++ net.connections.map fun connection => s!"  {connection}")

def historyReport (net : Network) : List String :=
  net.history.map fun entry => s!"[{entry.device}] {entry.line}"

end Network
end NetworkConsole
