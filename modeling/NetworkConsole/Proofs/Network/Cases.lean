import NetworkConsole.Network.Change

/-! What each change of a network can do: it refuses and leaves the network, or it succeeds with the
network given here. Other modules use these lemmas and do not open the changes. -/
namespace NetworkConsole.Network

theorem hasDevice_iff (net : Network) (name : String) :
    net.hasDevice name = true ↔ ∃ id, net.names.get? name = some id := by
  rw [hasDevice, KeyedTable.contains, Option.isSome_iff_exists]

theorem entry_ok_iff (net : Network) (name : String) (id : DeviceId) (d : Device) :
    net.entry name = .ok (id, d) ↔
      net.names.get? name = some id ∧ net.devices.get? id = some d := by
  rw [entry, deviceId]
  cases hname : net.names.get? name with
  | none => simp
  | some i =>
    cases hdevice : net.devices.get? i with
    | none =>
      simp only [hdevice, reduceCtorEq, Option.some.injEq, false_iff, not_and]
      intro hid
      simp [← hid, hdevice]
    | some x =>
      simp only [hdevice, Except.ok.injEq, Prod.mk.injEq, Option.some.injEq]
      constructor
      · intro h
        obtain ⟨rfl, rfl⟩ := h
        exact ⟨rfl, hdevice⟩
      · intro h
        obtain ⟨rfl, h⟩ := h
        exact ⟨rfl, Option.some.inj (hdevice.symm.trans h)⟩

theorem device_ok_iff (net : Network) (name : String) (d : Device) :
    net.device name = .ok d ↔
      ∃ id, net.names.get? name = some id ∧ net.devices.get? id = some d := by
  rw [device]
  cases h : net.entry name with
  | error e =>
    simp only [reduceCtorEq, false_iff, not_exists]
    intro id hid
    rw [(entry_ok_iff net name id d).2 hid] at h
    cases h
  | ok found =>
    obtain ⟨i, x⟩ := found
    have hfound := (entry_ok_iff net name i x).1 h
    simp only [Except.ok.injEq]
    constructor
    · intro hd
      exact ⟨i, hd ▸ hfound⟩
    · intro hd
      obtain ⟨id, hid⟩ := hd
      have hentry := (entry_ok_iff net name id d).2 hid
      rw [h, Except.ok.injEq, Prod.mk.injEq] at hentry
      exact hentry.2

/-- The network with a new state of the device `id` and the lines generated for it under `name`. -/
def record (name : String) (id : DeviceId) (device : Device) (lines : List String)
    (net : Network) : Network :=
  { net with
    devices := net.devices.insert id { device with cli := device.cli ++ lines }
    history := net.history ++ lines.map (⟨name, ·⟩) }

/-- Logging finds the device that was put just before. -/
theorem log_put {net : Network} {name : String} {id : DeviceId}
    (hname : net.names.get? name = some id) (device : Device) (lines : List String) :
    (net.put id device).log name lines = net.record name id device lines := by
  have hentry : (net.put id device).entry name = .ok (id, device) := by
    rw [entry_ok_iff]
    exact ⟨hname, by simp [put]⟩
  simp only [log, hentry]
  simp [put, record, KeyedTable.insert_insert]

theorem edit_cases {α : Type} (name : String) (step : Device → Except NetworkError (Edit α))
    (net : Network) :
    (∃ e, edit name step net = (.error e, net)) ∨
      ∃ id d result, net.names.get? name = some id ∧ net.devices.get? id = some d ∧
        step d = .ok result ∧
        edit name step net = (.ok result.answer, net.record name id result.device result.lines) := by
  cases hentry : net.entry name with
  | error e => exact .inl ⟨e, by simp only [edit, hentry]⟩
  | ok found =>
    obtain ⟨id, d⟩ := found
    obtain ⟨hname, hdevice⟩ := (entry_ok_iff net name id d).1 hentry
    cases hstep : step d with
    | error e => exact .inl ⟨e, by simp only [edit, hentry, hstep]⟩
    | ok result =>
      refine .inr ⟨id, d, result, hname, hdevice, hstep, ?_⟩
      simp only [edit, hentry, hstep, log_put hname]

theorem edit_ok {α : Type} {name : String} {step : Device → Except NetworkError (Edit α)}
    {net : Network} {id : DeviceId} {d : Device} {result : Edit α}
    (hname : net.names.get? name = some id) (hdevice : net.devices.get? id = some d)
    (hstep : step d = .ok result) :
    edit name step net = (.ok result.answer, net.record name id result.device result.lines) := by
  have hentry := (entry_ok_iff net name id d).2 ⟨hname, hdevice⟩
  simp only [edit, hentry, hstep, log_put hname]

theorem edit_error {α : Type} {name : String} {step : Device → Except NetworkError (Edit α)}
    {net : Network} {e : NetworkError} (h : (edit name step net).1 = .error e) :
    net.entry name = .error e ∨ ∃ id d, net.entry name = .ok (id, d) ∧ step d = .error e := by
  cases hentry : net.entry name with
  | error cause =>
    simp only [edit, hentry] at h
    cases h
    exact .inl rfl
  | ok found =>
    obtain ⟨id, d⟩ := found
    cases hstep : step d with
    | error cause =>
      simp only [edit, hentry, hstep] at h
      cases h
      exact .inr ⟨id, d, rfl, hstep⟩
    | ok result =>
      simp only [edit, hentry, hstep] at h
      cases h

theorem addDevice_cases (name : String) (kind : DeviceKind) (net : Network) :
    (∃ id, net.names.get? name = some id ∧
        addDevice name kind net = (.error (.nameTaken name), net)) ∨
      (net.names.get? name = none ∧
        addDevice name kind net =
          (.ok net.topology.size,
            { net with
              names := net.names.insert name net.topology.size
              devices := net.devices.insert net.topology.size
                { id := net.topology.size, name, kind }
              topology := net.topology.addNode })) := by
  cases hname : net.names.get? name with
  | some id =>
    have hhas : net.hasDevice name = true := (hasDevice_iff net name).2 ⟨id, hname⟩
    exact .inl ⟨id, rfl, by rw [addDevice, if_pos hhas]⟩
  | none =>
    have hhas : ¬ net.hasDevice name = true := by
      intro h
      obtain ⟨id, hid⟩ := (hasDevice_iff net name).1 h
      simp [hname] at hid
    exact .inr ⟨rfl, by rw [addDevice, if_neg hhas]⟩

theorem addLink_cases (a b : String) (cable : Cable) (net : Network) :
    (∃ e, addLink a b cable net = (.error e, net)) ∨
      ∃ i j, net.names.get? a = some i ∧ net.names.get? b = some j ∧ i ≠ j ∧
        net.topology.link? i j = none ∧
        addLink a b cable net =
          (.ok (), { net with topology := net.topology.addLink i j cable }) := by
  rw [addLink, deviceId, deviceId]
  cases ha : net.names.get? a with
  | none => exact .inl ⟨_, rfl⟩
  | some i =>
    cases hb : net.names.get? b with
    | none => exact .inl ⟨_, rfl⟩
    | some j =>
      by_cases hij : i = j
      · exact .inl ⟨_, if_pos hij⟩
      · cases hlink : net.topology.link? i j with
        | some link => exact .inl ⟨.alreadyConnected a b, by simp [hij, hlink]⟩
        | none => exact .inr ⟨i, j, rfl, rfl, hij, hlink, by simp [hij, hlink]⟩

theorem otherHolder?_eq_none_iff (net : Network) (name interface : String) (address : Address) :
    net.otherHolder? name interface address = none ↔
      ∀ holder, net.holder? address = some holder → holder = (name, interface) := by
  simp [otherHolder?, Option.filter_eq_none_iff]

theorem setInterface_cases (name interface : String) (address mask : Address) (net : Network) :
    (∃ e, setInterface name interface address mask net = (.error e, net)) ∨
      ∃ id d, net.names.get? name = some id ∧ net.devices.get? id = some d ∧
        net.otherHolder? name interface address = none ∧
        setInterface name interface address mask net =
          (.ok [s!"interface {interface}", s!"ip address {address} {mask}"],
            net.record name id
              { d with interfaces := d.interfaces.insert interface ⟨address, mask⟩ }
              [s!"interface {interface}", s!"ip address {address} {mask}"]) := by
  cases hother : net.otherHolder? name interface address with
  | some holder =>
    exact .inl ⟨.addressTaken address holder.1 holder.2, by simp only [setInterface, hother]⟩
  | none =>
    simp only [setInterface, hother]
    obtain ⟨e, he⟩ | ⟨id, d, result, hname, hdevice, hstep, hedit⟩ := edit_cases name _ net
    · exact .inl ⟨e, he⟩
    · cases hstep
      exact .inr ⟨id, d, hname, hdevice, trivial, hedit⟩

theorem setHostname_cases (name hostname : String) (net : Network) :
    (∃ e, setHostname name hostname net = (.error e, net)) ∨
      ∃ id d, net.names.get? name = some id ∧ net.devices.get? id = some d ∧
        setHostname name hostname net =
          (.ok [s!"hostname {hostname}"],
            net.record name id { d with givenHostname := some hostname }
              [s!"hostname {hostname}"]) := by
  obtain ⟨e, he⟩ | ⟨id, d, result, hname, hdevice, hstep, hedit⟩ := edit_cases name _ net
  · exact .inl ⟨e, he⟩
  · cases hstep
    exact .inr ⟨id, d, hname, hdevice, hedit⟩

theorem addStatement_cases (name : String) (statement : Routing.Statement) (net : Network) :
    (∃ e, addStatement name statement net = (.error e, net)) ∨
      ∃ id d routing, net.names.get? name = some id ∧ net.devices.get? id = some d ∧
        d.routing.add? statement = some routing ∧
        addStatement name statement net =
          (.ok (d.routing.linesFor statement),
            net.record name id { d with routing } (d.routing.linesFor statement)) := by
  obtain ⟨e, he⟩ | ⟨id, d, result, hname, hdevice, hstep, hedit⟩ := edit_cases name _ net
  · exact .inl ⟨e, he⟩
  · cases hadd : d.routing.add? statement with
    | none => simp [hadd] at hstep
    | some routing =>
      simp only [hadd] at hstep
      cases hstep
      exact .inr ⟨id, d, routing, hname, hdevice, hadd, hedit⟩

theorem addRule_cases (name : String) (number : UInt32) (action : AccessList.Action)
    (entry : AccessList.Entry) (net : Network) :
    (∃ e, addRule name number action entry net = (.error e, net)) ∨
      ∃ id d rule, net.names.get? name = some id ∧ net.devices.get? id = some d ∧
        rule = ⟨number, AccessList.nextSequence number d.rules, action, entry⟩ ∧
        addRule name number action entry net =
          (.ok rule, net.record name id { d with rules := d.rules ++ [rule] } [rule.line]) := by
  obtain ⟨e, he⟩ | ⟨id, d, result, hname, hdevice, hstep, hedit⟩ := edit_cases name _ net
  · exact .inl ⟨e, he⟩
  · cases hstep
    exact .inr ⟨id, d, _, hname, hdevice, rfl, hedit⟩

end NetworkConsole.Network
