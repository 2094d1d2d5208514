import NetworkConsole.Command.Argument
import NetworkConsole.Text.Column
import NetworkConsole.Topology

/-! The table of commands: for each kind the keywords that introduce it, its parameters, and a line
of help. -/
namespace NetworkConsole

structure Parameter where
  name : String
  type : ArgumentType
  deriving DecidableEq

/-- How a parameter stands in a usage line. -/
def Parameter.usage (parameter : Parameter) : String :=
  match parameter.type with
  | .keyword options => "<" ++ String.intercalate "|" options ++ ">"
  | _ => "<" ++ parameter.name ++ ">"

structure CommandShape where
  /-- Lowercase words. -/
  keywords : List String
  parameters : List Parameter
  description : String
  deriving DecidableEq

def CommandShape.usage (shape : CommandShape) : String :=
  String.intercalate " " (shape.keywords ++ shape.parameters.map Parameter.usage)

inductive CommandKind where
  | add | connect
  | setInterface | setHostname | setOspf | setEigrp | setRip | setStandardAccess | setExtendedAccess
  | showInterfaces | showRouting | showAccess | showCli | showTopology | showHistory
  | save | clearCli | clearAll | help
  deriving DecidableEq

namespace CommandKind

/-- All kinds, in the order in which `help` lists them. -/
def all : List CommandKind :=
  [.add, .connect, .setInterface, .setHostname, .setOspf, .setEigrp, .setRip, .setStandardAccess,
    .setExtendedAccess, .showInterfaces, .showRouting, .showAccess, .showCli, .showTopology,
    .showHistory, .save, .clearCli, .clearAll, .help]

theorem mem_all (kind : CommandKind) : kind ∈ all := by cases kind <;> decide

def deviceParameter : Parameter := ⟨"device", .name⟩

def numberParameter : Parameter := ⟨"number", .number⟩

def actionParameter : Parameter := ⟨"action", .keyword (Keyword.options AccessList.Action)⟩

def shape : CommandKind → CommandShape
  | .add =>
    { keywords := ["add"]
      parameters := [⟨"kind", .keyword (Keyword.options DeviceKind)⟩, ⟨"name", .name⟩]
      description := "Add a device to the topology" }
  | .connect =>
    { keywords := ["connect"]
      parameters :=
        [deviceParameter, ⟨"peer", .name⟩, ⟨"cable", .keyword (Keyword.options Cable)⟩]
      description := "Connect two devices" }
  | .setInterface =>
    { keywords := ["set", "interface"]
      parameters := [deviceParameter, ⟨"interface", .identifier⟩, ⟨"ip", .address⟩, ⟨"mask", .mask⟩]
      description := "Assign an address to an interface" }
  | .setHostname =>
    { keywords := ["set", "hostname"]
      parameters := [deviceParameter, ⟨"hostname", .name⟩]
      description := "Change the hostname" }
  | .setOspf =>
    { keywords := ["set", "ospf"]
      parameters :=
        [deviceParameter, ⟨"process", .number⟩, ⟨"network", .address⟩, ⟨"wildcard", .wildcard⟩,
          ⟨"area", .number⟩]
      description := "Add an OSPF network statement" }
  | .setEigrp =>
    { keywords := ["set", "eigrp"]
      parameters :=
        [deviceParameter, ⟨"asn", .number⟩, ⟨"network", .address⟩, ⟨"wildcard", .wildcard⟩]
      description := "Add an EIGRP network statement" }
  | .setRip =>
    { keywords := ["set", "rip"]
      parameters := [deviceParameter, ⟨"network", .address⟩]
      description := "Add a RIP network statement" }
  | .setStandardAccess =>
    { keywords := ["set", "acl-std"]
      parameters :=
        [deviceParameter, numberParameter, actionParameter, ⟨"source", .address⟩,
          ⟨"wildcard", .wildcard⟩]
      description := "Append a rule to a standard access list" }
  | .setExtendedAccess =>
    { keywords := ["set", "acl-ext"]
      parameters :=
        [deviceParameter, numberParameter, actionParameter,
          ⟨"protocol", .keyword (Keyword.options AccessList.Protocol)⟩, ⟨"source", .address⟩,
          ⟨"source-wildcard", .wildcard⟩, ⟨"destination", .address⟩,
          ⟨"destination-wildcard", .wildcard⟩]
      description := "Append a rule to an extended access list" }
  | .showInterfaces => ⟨["show", "interfaces"], [deviceParameter], "Show the interfaces"⟩
  | .showRouting => ⟨["show", "routing"], [deviceParameter], "Show the routing statements"⟩
  | .showAccess => ⟨["show", "acl"], [deviceParameter], "Show the access lists"⟩
  | .showCli => ⟨["show", "cli"], [deviceParameter], "Show the generated configuration"⟩
  | .showTopology => ⟨["show", "topology"], [], "Show devices and connections"⟩
  | .showHistory => ⟨["show", "history"], [], "Show the configuration log"⟩
  | .save => ⟨["save"], [deviceParameter], "Save the generated configuration"⟩
  | .clearCli => ⟨["clear", "cli"], [], "Clear the configuration log"⟩
  | .clearAll => ⟨["clear", "all"], [], "Reset the whole session"⟩
  | .help => ⟨["help"], [], "List all commands"⟩

def keywords (kind : CommandKind) : List String := kind.shape.keywords

def parameters (kind : CommandKind) : List Parameter := kind.shape.parameters

/-- The keywords as one word. -/
def name (kind : CommandKind) : String := String.intercalate "-" kind.keywords

def text (kind : CommandKind) : String := String.intercalate " " kind.keywords

instance : ToString CommandKind := ⟨text⟩

/-- Kinds in the order in which a line is matched: those with two keywords before those with one. -/
def matchOrder : List CommandKind :=
  all.filter (·.keywords.length = 2) ++ all.filter (·.keywords.length = 1)

theorem mem_matchOrder (kind : CommandKind) : kind ∈ matchOrder := by cases kind <;> decide

end CommandKind

/-- Usage and description of every command, in two columns. -/
def helpLines : List String :=
  let shapes := CommandKind.all.map CommandKind.shape
  let width := (shapes.map (·.usage.length)).foldl max 0
  shapes.map fun shape => Text.padRight width shape.usage ++ "  " ++ shape.description

end NetworkConsole
