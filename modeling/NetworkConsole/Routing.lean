import NetworkConsole.Address.Basic

/-! Routing statements and the routing configuration of a device. OSPF and EIGRP may run as several
processes, RIP has a single instance. Statements are recorded, no protocol is run. -/
namespace NetworkConsole.Routing

inductive Protocol where
  | ospf | eigrp | rip
  deriving DecidableEq

namespace Protocol

def text : Protocol → String
  | .ospf => "ospf"
  | .eigrp => "eigrp"
  | .rip => "rip"

instance : ToString Protocol := ⟨text⟩

/-- The order in which statements are listed. -/
def all : List Protocol := [.ospf, .eigrp, .rip]

end Protocol

inductive Statement where
  | ospf (process : UInt32) (network wildcard : Address) (area : UInt32)
  | eigrp (system : UInt32) (network wildcard : Address)
  | rip (network : Address)
  deriving DecidableEq

namespace Statement

def protocol : Statement → Protocol
  | .ospf .. => .ospf
  | .eigrp .. => .eigrp
  | .rip .. => .rip

/-- The lines that open the section of the statement's process. -/
def header : Statement → List String
  | .ospf process .. => [s!"router ospf {process}"]
  | .eigrp system .. => [s!"router eigrp {system}"]
  | .rip .. => ["router rip", "version 2"]

def networkLine : Statement → String
  | .ospf _ network wildcard area => s!"network {network} {wildcard} area {area}"
  | .eigrp _ network wildcard => s!"network {network} {wildcard}"
  | .rip network => s!"network {network}"

def lines (statement : Statement) : List String := statement.header ++ [statement.networkLine]

def text : Statement → String
  | .ospf process network wildcard area =>
    s!"ospf {process}: network {network} {wildcard} area {area}"
  | .eigrp system network wildcard => s!"eigrp {system}: network {network} {wildcard}"
  | .rip network => s!"rip: network {network}"

instance : ToString Statement := ⟨text⟩

end Statement

/-- The statements of a device, without repetition, in the order of addition. -/
structure Config where
  statements : List Statement := []
  deriving DecidableEq

namespace Config

def contains (config : Config) (statement : Statement) : Bool :=
  decide (statement ∈ config.statements)

/-- The configuration with one more statement, unless it is there already. -/
def add? (config : Config) (statement : Statement) : Option Config :=
  if config.contains statement then none else some ⟨config.statements ++ [statement]⟩

def ofProtocol (config : Config) (protocol : Protocol) : List Statement :=
  config.statements.filter (·.protocol = protocol)

/-- All statements, grouped by protocol. -/
def listing (config : Config) : List Statement := Protocol.all.flatMap config.ofProtocol

def isEmpty (config : Config) : Bool := config.statements.isEmpty

/-- The lines that adding `statement` generates. RIP shows its header with its first statement
only. -/
def linesFor (config : Config) (statement : Statement) : List String :=
  if statement.protocol = .rip ∧ config.ofProtocol .rip ≠ [] then [statement.networkLine]
  else statement.lines

end Config
end NetworkConsole.Routing
