import NetworkConsole.Proofs.Network.Cases

/-! The operations of a network as data, with arbitrary arguments, and runs of them. A refused
operation is a step of a run like any other. -/
namespace NetworkConsole.Network

/-- The change without its answer. -/
def Change.forget {α : Type} (step : Change α) : Change Unit := fun net =>
  ((step net).1.map fun _ => (), (step net).2)

theorem Change.forget_error_iff {α : Type} (step : Change α) (net : Network) (e : NetworkError) :
    (Change.forget step net).1 = .error e ↔ (step net).1 = .error e := by
  cases h : (step net).1 <;> simp [Change.forget, h, Except.map]

inductive Operation where
  | addDevice (name : String) (kind : DeviceKind)
  | addLink (a b : String) (cable : Cable)
  | setInterface (device interface : String) (address mask : Address)
  | setHostname (device hostname : String)
  | addStatement (device : String) (statement : Routing.Statement)
  | addRule (device : String) (number : UInt32) (action : AccessList.Action)
      (entry : AccessList.Entry)
  | clearCli
  | clear

namespace Operation

def change : Operation → Change Unit
  | .addDevice name kind => Change.forget (Network.addDevice name kind)
  | .addLink a b cable => Network.addLink a b cable
  | .setInterface device interface address mask =>
    Change.forget (Network.setInterface device interface address mask)
  | .setHostname device hostname => Change.forget (Network.setHostname device hostname)
  | .addStatement device statement => Change.forget (Network.addStatement device statement)
  | .addRule device number action entry =>
    Change.forget (Network.addRule device number action entry)
  | .clearCli => fun net => (.ok (), net.clearCli)
  | .clear => fun net => (.ok (), net.clear)

/-- The network that an operation leaves. -/
def step (operation : Operation) (net : Network) : Network := (operation.change net).2

end Operation

def run : List Operation → Network → Network
  | [], net => net
  | operation :: rest, net => run rest (operation.step net)

theorem run_append (xs ys : List Operation) (net : Network) :
    run (xs ++ ys) net = run ys (run xs net) := by
  induction xs generalizing net with
  | nil => rfl
  | cons operation rest ih => exact ih (operation.step net)

/-- What every operation keeps, every run keeps. -/
theorem run_keeps {P : Network → Prop}
    (hstep : ∀ (operation : Operation) net, P net → P (operation.step net))
    (operations : List Operation) {net : Network} (h : P net) : P (run operations net) := by
  induction operations generalizing net with
  | nil => exact h
  | cons operation rest ih => exact ih (hstep operation net h)

end NetworkConsole.Network
