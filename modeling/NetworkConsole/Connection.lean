import NetworkConsole.Topology

/-! Connections between named devices. The order of the endpoints is kept for display; equality
ignores it. -/
namespace NetworkConsole

structure Connection where
  left : String
  right : String
  cable : Cable

namespace Connection

def endpoints (connection : Connection) : List String := [connection.left, connection.right]

def contains (connection : Connection) (device : String) : Bool :=
  connection.endpoints.contains device

/-- The endpoints are `a` and `b`, in either order. -/
def joins (connection : Connection) (a b : String) : Bool :=
  (connection.left == a && connection.right == b) || (connection.left == b && connection.right == a)

theorem joins_iff (connection : Connection) (a b : String) :
    connection.joins a b = true ↔
      (connection.left = a ∧ connection.right = b) ∨
        (connection.left = b ∧ connection.right = a) := by
  simp [joins]

/-- The same cable between the same two devices. -/
instance : BEq Connection := ⟨fun x y => x.cable == y.cable && x.joins y.left y.right⟩

def text (connection : Connection) : String :=
  s!"{connection.left} <-> {connection.right} [{connection.cable}]"

instance : ToString Connection := ⟨text⟩

end Connection
end NetworkConsole
