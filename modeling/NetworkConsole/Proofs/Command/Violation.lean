import NetworkConsole.Proofs.Command.Admission

/-! Why a check fails: each demand that is not met, together with those before it that are. -/
namespace NetworkConsole

/-- What the network says of the same violation. Ranges of numbers, features of devices and host
addresses are no concern of the network. -/
def ConstraintError.refusal? : ConstraintError → Option NetworkError
  | .unknownDevice name => some (.unknownName name)
  | .duplicateDevice name => some (.nameTaken name)
  | .selfConnection name => some (.selfConnection name)
  | .duplicateConnection a b => some (.alreadyConnected a b)
  | .addressInUse address device interface => some (.addressTaken address device interface)
  | .duplicateStatement device statement => some (.statementPresent device statement)
  | .listNumberOutOfRange .. | .processOutOfRange .. | .unsupported .. | .notAHost .. => none

namespace Command
variable {net : Network} {e : ConstraintError}

theorem bind_unit_error_iff {ε α : Type} (x : Except ε Unit) (next : Unit → Except ε α) (e : ε) :
    (x >>= next) = .error e ↔ x = .error e ∨ x = .ok () ∧ next () = .error e := by
  cases x <;> simp [bind, Except.bind]

theorem demand_error_iff (condition : Bool) (cause e : ConstraintError) :
    demand condition cause = .error e ↔ condition = false ∧ e = cause := by
  cases condition <;> simp [demand, eq_comm]

theorem existing_error_iff (name : String) :
    existing net name = .error e ↔ (∀ d, net.device name ≠ .ok d) ∧ e = .unknownDevice name := by
  rw [existing]
  cases net.device name <;> simp [eq_comm]

theorem existing_bind_error_iff {α : Type} (name : String)
    (next : Device → Except ConstraintError α) :
    (existing net name >>= next) = .error e ↔
      existing net name = .error e ∨ ∃ d, net.device name = .ok d ∧ next d = .error e := by
  rw [existing]
  cases net.device name <;> simp [bind, Except.bind]

theorem discard_existing_error_iff (name : String) :
    (discard (existing net name) : Except ConstraintError Unit) = .error e ↔
      existing net name = .error e := by
  rw [existing]
  cases net.device name <;> simp [discard, Functor.discard, Functor.mapConst, Except.map]

theorem checkAddressFree_error {device interface : String} {address : Address}
    (h : checkAddressFree net device interface address = .error e) :
    ∃ other otherInterface, net.otherHolder? device interface address = some (other, otherInterface) ∧
      e = .addressInUse address other otherInterface := by
  rw [checkAddressFree] at h
  cases hholder : net.holder? address with
  | none => simp [hholder] at h
  | some holder =>
    simp only [hholder, demand_error_iff] at h
    have hother : holder ≠ (device, interface) := by
      rintro rfl
      simp at h
    exact ⟨holder.1, holder.2, by simp [Network.otherHolder?, hholder, hother], h.2⟩

theorem refusal?_of_checkProcess {statement : Routing.Statement}
    (h : checkProcess statement = .error e) : e.refusal? = none := by
  cases statement with
  | ospf | eigrp =>
    rw [checkProcess, demand_error_iff] at h
    rw [h.2, ConstraintError.refusal?]
  | rip => cases h

end Command
end NetworkConsole
