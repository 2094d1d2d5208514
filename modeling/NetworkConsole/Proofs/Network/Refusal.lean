import NetworkConsole.Proofs.Network.Operation

/-! A refused change leaves the network as it was. This holds of every network, whether or not its
records agree. -/
namespace NetworkConsole.Network

def Change.Atomic {α : Type} (step : Change α) : Prop :=
  ∀ net e, (step net).1 = .error e → (step net).2 = net

theorem atomic_edit {α : Type} (name : String) (step : Device → Except NetworkError (Edit α)) :
    Change.Atomic (edit name step) := by
  intro net e h
  obtain ⟨_, he⟩ | ⟨_, _, _, _, _, _, hok⟩ := edit_cases name step net
  · rw [he]
  · rw [hok] at h
    cases h

theorem atomic_addDevice (name : String) (kind : DeviceKind) :
    Change.Atomic (addDevice name kind) := by
  intro net e h
  obtain ⟨_, _, he⟩ | ⟨_, hok⟩ := addDevice_cases name kind net
  · rw [he]
  · rw [hok] at h
    cases h

theorem atomic_addLink (a b : String) (cable : Cable) : Change.Atomic (addLink a b cable) := by
  intro net e h
  obtain ⟨_, he⟩ | ⟨_, _, _, _, _, _, hok⟩ := addLink_cases a b cable net
  · rw [he]
  · rw [hok] at h
    cases h

theorem atomic_setInterface (name interface : String) (address mask : Address) :
    Change.Atomic (setInterface name interface address mask) := by
  intro net e h
  obtain ⟨_, he⟩ | ⟨_, _, _, _, _, hok⟩ := setInterface_cases name interface address mask net
  · rw [he]
  · rw [hok] at h
    cases h

theorem atomic_setHostname (name hostname : String) : Change.Atomic (setHostname name hostname) :=
  atomic_edit name _

theorem atomic_addStatement (name : String) (statement : Routing.Statement) :
    Change.Atomic (addStatement name statement) :=
  atomic_edit name _

theorem atomic_addRule (name : String) (number : UInt32) (action : AccessList.Action)
    (entry : AccessList.Entry) : Change.Atomic (addRule name number action entry) :=
  atomic_edit name _

end NetworkConsole.Network
