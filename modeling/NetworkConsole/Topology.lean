import NetworkConsole.Device

/-! The physical topology: an undirected graph whose nodes are the device ids `0, 1, …` and whose
links carry a cable. Links keep the order in which they were made. -/
namespace NetworkConsole

inductive Cable where
  | ethernet | serial | fiber
  deriving DecidableEq

instance : Keyword Cable where
  all := [.ethernet, .serial, .fiber]
  spelling
    | .ethernet => "ethernet"
    | .serial => "serial"
    | .fiber => "fiber"

instance : ToString Cable := ⟨Keyword.spelling⟩

structure Link where
  left : DeviceId
  right : DeviceId
  cable : Cable
  deriving DecidableEq

/-- The link lies between `a` and `b`, in either direction. -/
def Link.joins (link : Link) (a b : DeviceId) : Bool :=
  (link.left == a && link.right == b) || (link.left == b && link.right == a)

theorem Link.joins_iff (link : Link) (a b : DeviceId) :
    link.joins a b = true ↔
      (link.left = a ∧ link.right = b) ∨ (link.left = b ∧ link.right = a) := by
  simp [joins]

theorem Link.joins_ends_comm (x y : Link) :
    x.joins y.left y.right = y.joins x.left x.right := by
  rw [Bool.eq_iff_iff, joins_iff, joins_iff]
  grind

theorem Link.joins_comm (link : Link) (a b : DeviceId) : link.joins a b = link.joins b a := by
  rw [joins, joins, Bool.or_comm]

structure Topology where
  size : Nat := 0
  links : List Link := []
  deriving DecidableEq

namespace Topology

def nodes (topology : Topology) : List DeviceId := List.range topology.size

/-- Adds a node; its id is the former size. -/
def addNode (topology : Topology) : Topology := { topology with size := topology.size + 1 }

def addLink (topology : Topology) (a b : DeviceId) (cable : Cable) : Topology :=
  { topology with links := topology.links ++ [⟨a, b, cable⟩] }

def link? (topology : Topology) (a b : DeviceId) : Option Link :=
  topology.links.find? (·.joins a b)

theorem link?_comm (topology : Topology) (a b : DeviceId) :
    topology.link? a b = topology.link? b a := by
  simp only [link?, Link.joins_comm _ a b]

theorem link?_eq_none_iff (topology : Topology) (a b : DeviceId) :
    topology.link? a b = none ↔ ∀ link ∈ topology.links, ¬ link.joins a b := by
  simp [link?]

end Topology
end NetworkConsole
