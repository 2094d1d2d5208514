import NetworkConsole.Proofs.Network.Addresses
import NetworkConsole.Proofs.Network.Connections

/-! What the network says of each change that would break what it keeps. It is its own guard: none of
these refusals relies on a check made before. -/
namespace NetworkConsole.Network
variable {net : Network} {name : String}

theorem entry_of_absent (h : net.hasDevice name = false) :
    net.entry name = .error (.unknownName name) := by
  simp only [entry, deviceId, (hasDevice_eq_false_iff net name).1 h]

theorem device_of_absent (h : net.hasDevice name = false) :
    net.device name = .error (.unknownName name) := by
  simp only [device, entry_of_absent h]

theorem edit_of_absent {α : Type} (h : net.hasDevice name = false)
    (step : Device → Except NetworkError (Edit α)) :
    edit name step net = (.error (.unknownName name), net) := by
  simp only [edit, entry_of_absent h]

theorem addDevice_of_taken (h : net.hasDevice name = true) (kind : DeviceKind) :
    addDevice name kind net = (.error (.nameTaken name), net) := by
  rw [addDevice, if_pos h]

theorem addLink_of_absent_left {a : String} (h : net.hasDevice a = false) (b : String)
    (cable : Cable) : addLink a b cable net = (.error (.unknownName a), net) := by
  simp only [addLink, deviceId, (hasDevice_eq_false_iff net a).1 h]

theorem addLink_of_absent_right {a b : String} (ha : net.hasDevice a = true)
    (hb : net.hasDevice b = false) (cable : Cable) :
    addLink a b cable net = (.error (.unknownName b), net) := by
  obtain ⟨i, hi⟩ := (hasDevice_iff net a).1 ha
  simp only [addLink, deviceId, hi, (hasDevice_eq_false_iff net b).1 hb]

theorem addLink_self (h : net.hasDevice name = true) (cable : Cable) :
    addLink name name cable net = (.error (.selfConnection name), net) := by
  obtain ⟨i, hi⟩ := (hasDevice_iff net name).1 h
  simp only [addLink, deviceId, hi, if_true]

/-- The network compares ids where the caller compares names, which coherence makes the same. -/
theorem addLink_of_connected (h : net.skeleton.Coherent) {a b : String} (hab : a ≠ b)
    (hcable : (net.cable? a b).isSome) (cable : Cable) :
    addLink a b cable net = (.error (.alreadyConnected a b), net) := by
  cases ha : net.names.get? a with
  | none => simp [cable?, ha] at hcable
  | some i =>
    cases hb : net.names.get? b with
    | none => simp [cable?, ha, hb] at hcable
    | some j =>
      have hij : i ≠ j := by
        rintro rfl
        exact hab (h.name_inj ha hb)
      have hlink : (net.topology.link? i j).isSome := by simpa [cable?, ha, hb] using hcable
      simp only [addLink, deviceId, ha, hb, hij, hlink, if_true, if_false]

theorem setInterface_of_taken {interface other otherInterface : String} {address : Address}
    (h : net.otherHolder? name interface address = some (other, otherInterface)) (mask : Address) :
    setInterface name interface address mask net =
      (.error (.addressTaken address other otherInterface), net) := by
  simp only [setInterface, h]

theorem setInterface_of_absent {interface : String} {address : Address}
    (h : net.hasDevice name = false) (hfree : net.otherHolder? name interface address = none)
    (mask : Address) :
    setInterface name interface address mask net = (.error (.unknownName name), net) := by
  simp only [setInterface, hfree, edit_of_absent h]

theorem addStatement_of_present {d : Device} {statement : Routing.Statement}
    (hd : net.device name = .ok d) (h : d.routing.contains statement = true) :
    addStatement name statement net = (.error (.statementPresent name statement), net) := by
  obtain ⟨id, hname, hdevice⟩ := (device_ok_iff net name d).1 hd
  have hentry := (entry_ok_iff net name id d).2 ⟨hname, hdevice⟩
  simp only [addStatement, edit, hentry, Routing.Config.add?, h, if_true]

end NetworkConsole.Network
