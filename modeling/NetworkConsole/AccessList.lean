import NetworkConsole.Address.Basic
import NetworkConsole.Keyword

/-! Numbered access lists. A standard rule matches on the source, an extended rule on protocol,
source and destination; each shape has its own ranges of list numbers. Rules are recorded, never
applied to traffic. -/
namespace NetworkConsole.AccessList

inductive Action where
  | permit | deny
  deriving DecidableEq

instance : Keyword Action where
  all := [.permit, .deny]
  spelling
    | .permit => "permit"
    | .deny => "deny"

inductive Protocol where
  | ip | tcp | udp | icmp
  deriving DecidableEq

instance : Keyword Protocol where
  all := [.ip, .tcp, .udp, .icmp]
  spelling
    | .ip => "ip"
    | .tcp => "tcp"
    | .udp => "udp"
    | .icmp => "icmp"

instance : ToString Action := ⟨Keyword.spelling⟩
instance : ToString Protocol := ⟨Keyword.spelling⟩

inductive Shape where
  | standard | extended
  deriving DecidableEq

namespace Shape

def text : Shape → String
  | .standard => "standard"
  | .extended => "extended"

instance : ToString Shape := ⟨text⟩

/-- The closed ranges of list numbers. -/
def ranges : Shape → List (UInt32 × UInt32)
  | .standard => [(1, 99), (1300, 1999)]
  | .extended => [(100, 199), (2000, 2699)]

def accepts (shape : Shape) (number : UInt32) : Bool :=
  shape.ranges.any fun range => range.1 ≤ number && number ≤ range.2

def rangesText (shape : Shape) : String :=
  String.intercalate " or " (shape.ranges.map fun range => s!"{range.1}-{range.2}")

end Shape

/-- What a rule matches. A wildcard marks with ones the bits that may differ. -/
inductive Entry where
  | standard (source wildcard : Address)
  | extended (protocol : Protocol) (source sourceWildcard destination destinationWildcard : Address)
  deriving DecidableEq

namespace Entry

def shape : Entry → Shape
  | .standard .. => .standard
  | .extended .. => .extended

def text : Entry → String
  | .standard source wildcard => s!"{source} {wildcard}"
  | .extended protocol source sourceWildcard destination destinationWildcard =>
    s!"{protocol} {source} {sourceWildcard} {destination} {destinationWildcard}"

instance : ToString Entry := ⟨text⟩

end Entry

structure Rule where
  number : UInt32
  /-- Position inside the list of this number. -/
  sequence : UInt32
  action : Action
  entry : Entry
  deriving DecidableEq

namespace Rule

/-- The configuration line. It does not carry the sequence number. -/
def line (rule : Rule) : String := s!"access-list {rule.number} {rule.action} {rule.entry}"

def text (rule : Rule) : String :=
  s!"{rule.number} seq {rule.sequence}: {rule.action} {rule.entry}"

instance : ToString Rule := ⟨text⟩

end Rule

/-- The rules of one list, in arrival order. -/
def ofNumber (number : UInt32) (rules : List Rule) : List Rule :=
  rules.filter (·.number = number)

def sequenceStep : UInt32 := 10

/-- The sequence number of the next rule: one step past the largest of its list. -/
def nextSequence (number : UInt32) (rules : List Rule) : UInt32 :=
  ((ofNumber number rules).map (·.sequence)).foldl max 0 + sequenceStep

end NetworkConsole.AccessList
