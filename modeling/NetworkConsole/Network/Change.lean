import NetworkConsole.Network.Basic

/-! Changes of a network. Each checks what the network has to keep (unique names, links between
distinct devices and at most one for each pair, unique addresses, no statement twice) and answers
with the network that it leaves, also when it refuses. -/
namespace NetworkConsole.Network

/-- A step that answers and leaves a network, whether it succeeds or not. -/
abbrev Change (α : Type) := Network → Except NetworkError α × Network

def addDevice (name : String) (kind : DeviceKind) : Change DeviceId := fun net =>
  if net.hasDevice name then (.error (.nameTaken name), net)
  else
    let id := net.topology.size
    (.ok id,
      { net with
        names := net.names.insert name id
        devices := net.devices.insert id { id, name, kind }
        topology := net.topology.addNode })

def addLink (a b : String) (cable : Cable) : Change Unit := fun net =>
  match net.deviceId a, net.deviceId b with
  | .error e, _ => (.error e, net)
  | _, .error e => (.error e, net)
  | .ok i, .ok j =>
    if i = j then (.error (.selfConnection a), net)
    else if (net.topology.link? i j).isSome then (.error (.alreadyConnected a b), net)
    else (.ok (), { net with topology := net.topology.addLink i j cable })

/-- Puts a device under an id. -/
def put (id : DeviceId) (device : Device) (net : Network) : Network :=
  { net with devices := net.devices.insert id device }

/-- Logs generated lines, on the device of the given name and in the history. Under a name without
a device nothing is logged. -/
def log (name : String) (lines : List String) (net : Network) : Network :=
  match net.entry name with
  | .error _ => net
  | .ok (id, d) =>
    { net.put id { d with cli := d.cli ++ lines } with
      history := net.history ++ lines.map (⟨name, ·⟩) }

/-- What editing a device gives. -/
structure Edit (α : Type) where
  answer : α
  device : Device
  /-- The generated lines. -/
  lines : List String

/-- Edits the device of the given name, then logs the generated lines. -/
def edit {α : Type} (name : String) (step : Device → Except NetworkError (Edit α)) : Change α :=
  fun net =>
    match net.entry name with
    | .error e => (.error e, net)
    | .ok (id, d) =>
      match step d with
      | .error e => (.error e, net)
      | .ok result => (.ok result.answer, (net.put id result.device).log name result.lines)

/-- The interface that holds the address, unless it is the given one. -/
def otherHolder? (net : Network) (name interface : String) (address : Address) :
    Option (String × String) :=
  (net.holder? address).filter (· ≠ (name, interface))

/-- Gives an interface an address that no other interface holds; the answer is the generated
lines. -/
def setInterface (name interface : String) (address mask : Address) : Change (List String) :=
  fun net =>
    match net.otherHolder? name interface address with
    | some (otherDevice, otherInterface) =>
      (.error (.addressTaken address otherDevice otherInterface), net)
    | none =>
      edit name (fun d =>
        let lines := [s!"interface {interface}", s!"ip address {address} {mask}"]
        let interfaces := d.interfaces.insert interface ⟨address, mask⟩
        .ok ⟨lines, { d with interfaces }, lines⟩) net

def setHostname (name hostname : String) : Change (List String) :=
  edit name fun d =>
    let lines := [s!"hostname {hostname}"]
    .ok ⟨lines, { d with givenHostname := some hostname }, lines⟩

def addStatement (name : String) (statement : Routing.Statement) : Change (List String) :=
  edit name fun d =>
    match d.routing.add? statement with
    | none => .error (.statementPresent name statement)
    | some routing =>
      let lines := d.routing.linesFor statement
      .ok ⟨lines, { d with routing }, lines⟩

/-- Appends a rule to an access list under the next sequence number; the answer is the rule. -/
def addRule (name : String) (number : UInt32) (action : AccessList.Action)
    (entry : AccessList.Entry) : Change AccessList.Rule :=
  edit name fun d =>
    let rule : AccessList.Rule :=
      { number, sequence := AccessList.nextSequence number d.rules, action, entry }
    .ok ⟨rule, { d with rules := d.rules ++ [rule] }, [rule.line]⟩

/-- Forgets the generated lines, of every device and of the history. -/
def clearCli (net : Network) : Network :=
  { net with devices := net.devices.map ({ · with cli := [] }), history := [] }

def clear (_ : Network) : Network := empty

end NetworkConsole.Network
