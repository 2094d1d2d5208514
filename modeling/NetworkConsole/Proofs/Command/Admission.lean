import NetworkConsole.Command.Constraint
import NetworkConsole.Proofs.Network.Cases

/-! The commands that a network admits: what the check of a command demands, stated without the
order in which it asks. -/
namespace NetworkConsole.Command

theorem bind_unit_ok_iff {ε α : Type} (x : Except ε Unit) (next : Unit → Except ε α) (a : α) :
    (x >>= next) = .ok a ↔ x = .ok () ∧ next () = .ok a := by
  cases x <;> simp [bind, Except.bind]

theorem demand_ok_iff (condition : Bool) (e : ConstraintError) :
    demand condition e = .ok () ↔ condition = true := by
  cases condition <;> simp [demand]

theorem existing_bind_ok_iff {α : Type} (net : Network) (name : String)
    (next : Device → Except ConstraintError α) (a : α) :
    (existing net name >>= next) = .ok a ↔ ∃ d, net.device name = .ok d ∧ next d = .ok a := by
  rw [existing]
  cases net.device name <;> simp [bind, Except.bind]

theorem discard_existing_ok_iff (net : Network) (name : String) :
    (discard (existing net name) : Except ConstraintError Unit) = .ok () ↔
      ∃ d, net.device name = .ok d := by
  rw [existing]
  cases net.device name <;> simp [discard, Functor.discard, Functor.mapConst, Except.map]

theorem checkAddressFree_ok_iff (net : Network) (device interface : String) (address : Address) :
    checkAddressFree net device interface address = .ok () ↔
      net.otherHolder? device interface address = none := by
  rw [checkAddressFree, Network.otherHolder?_eq_none_iff]
  cases net.holder? address with
  | none => simp
  | some holder => simp [demand_ok_iff, Prod.ext_iff]

/-- What a network demands of a command. -/
def Admitted (net : Network) : Command → Prop
  | .addDevice _ name => net.hasDevice name = false
  | .connect a b _ =>
    (∃ d, net.device a = .ok d) ∧ (∃ d, net.device b = .ok d) ∧ a ≠ b ∧ net.cable? a b = none
  | .setInterface device interface address mask =>
    (∃ d, net.device device = .ok d) ∧ address.isHostOf mask = true ∧
      net.otherHolder? device interface address = none
  | .route device statement =>
    ∃ d, net.device device = .ok d ∧ d.kind.canRoute = true ∧ checkProcess statement = .ok () ∧
      d.routing.contains statement = false
  | .filter device number _ entry =>
    ∃ d, net.device device = .ok d ∧ d.kind.canFilter = true ∧ entry.shape.accepts number = true
  | .setHostname device _ | .showInterfaces device | .showRouting device | .showAccess device
  | .showCli device | .save device => ∃ d, net.device device = .ok d
  | .showTopology | .showHistory | .clearCli | .clearAll | .help => True

theorem check_ok_iff (net : Network) (command : Command) :
    command.check net = .ok () ↔ command.Admitted net := by
  cases command with
  | addDevice kind name => simp [check, Admitted, demand_ok_iff]
  | connect a b cable =>
    simp [check, Admitted, existing_bind_ok_iff, bind_unit_ok_iff, demand_ok_iff]
  | setInterface device interface address mask =>
    simp [check, Admitted, existing_bind_ok_iff, bind_unit_ok_iff, demand_ok_iff,
      checkAddressFree_ok_iff]
  | route device statement =>
    simp [check, Admitted, existing_bind_ok_iff, bind_unit_ok_iff, demand_ok_iff]
  | filter device number action entry =>
    simp [check, Admitted, existing_bind_ok_iff, bind_unit_ok_iff, demand_ok_iff]
  | setHostname device | showInterfaces device | showRouting device | showAccess device
  | showCli device | save device => exact discard_existing_ok_iff net device
  | showTopology | showHistory | clearCli | clearAll | help => simp [check, Admitted]

end NetworkConsole.Command
