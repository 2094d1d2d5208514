import NetworkConsole.Network.Basic
import NetworkConsole.Text.Quoted

/-! A snapshot of the topology and its JSON document, indented by two blanks. -/
namespace NetworkConsole

/-- A device as a snapshot shows it. -/
structure Snapshot.Node where
  name : String
  kind : DeviceKind
  deriving DecidableEq

structure Snapshot where
  devices : List Snapshot.Node
  connections : List Connection

def Network.snapshot (net : Network) : Snapshot :=
  { devices := net.deviceList.map fun d => ⟨d.name, d.kind⟩, connections := net.connections }

namespace Snapshot

/-- Puts a comma after the last line. -/
def withComma : List String → List String
  | [] => []
  | [line] => [line ++ ","]
  | line :: rest => line :: withComma rest

/-- The lines of some items, with a comma after each item but the last. -/
def separate : List (List String) → List String
  | [] => []
  | [item] => item
  | item :: rest => withComma item ++ separate rest

/-- Encloses items in brackets; with no item both brackets share a line. -/
def block (opening closing : String) (items : List (List String)) : List String :=
  if items.isEmpty then [opening ++ closing]
  else opening :: (separate items).map ("  " ++ ·) ++ [closing]

def array (items : List (List String)) : List String := block "[" "]" items

def object (items : List (List String)) : List String := block "\x7b" "\x7d" items

/-- Writes a key in front of the first line of its value. -/
def member (key : String) : List String → List String
  | [] => []
  | line :: rest => (Text.quoted key ++ ": " ++ line) :: rest

def text (value : String) : List String := [Text.quoted value]

def deviceLines (device : Node) : List String :=
  object [member "name" (text device.name), member "kind" (text (toString device.kind))]

def connectionLines (connection : Connection) : List String :=
  object
    [member "endpoints" (array (connection.endpoints.map text)),
      member "cable" (text (toString connection.cable))]

def document (snapshot : Snapshot) : String :=
  String.intercalate "\n"
    (object
      [member "devices" (array (snapshot.devices.map deviceLines)),
        member "connections" (array (snapshot.connections.map connectionLines))])

end Snapshot
end NetworkConsole
