import NetworkConsole.Proofs.Network.Views

/-! Settings: what one configuring operation does to one device. The device of a name changes by
settings, by the loss of its generated lines, and by coming and going; an operation on one name
leaves the devices of all others. -/
namespace NetworkConsole

inductive Setting where
  | interface (name : String) (address mask : Address)
  | hostname (hostname : String)
  | statement (statement : Routing.Statement)
  | rule (number : UInt32) (action : AccessList.Action) (entry : AccessList.Entry)
  deriving DecidableEq

namespace Device

/-- A device as it is added. -/
def blank (id : DeviceId) (name : String) (kind : DeviceKind) : Device := { id, name, kind }

/-- The rule that a device makes of a new entry. -/
def nextRule (d : Device) (number : UInt32) (action : AccessList.Action)
    (entry : AccessList.Entry) : AccessList.Rule :=
  ⟨number, AccessList.nextSequence number d.rules, action, entry⟩

/-- The device with the setting, before its lines are logged. -/
def put (d : Device) : Setting → Device
  | .interface name address mask =>
    { d with interfaces := d.interfaces.insert name ⟨address, mask⟩ }
  | .hostname hostname => { d with givenHostname := some hostname }
  | .statement statement => { d with routing := ⟨d.routing.statements ++ [statement]⟩ }
  | .rule number action entry => { d with rules := d.rules ++ [d.nextRule number action entry] }

/-- The lines that the setting generates on the device. -/
def linesFor (d : Device) : Setting → List String
  | .interface name address mask => [s!"interface {name}", s!"ip address {address} {mask}"]
  | .hostname hostname => [s!"hostname {hostname}"]
  | .statement statement => d.routing.linesFor statement
  | .rule number action entry => [(d.nextRule number action entry).line]

def configure (d : Device) (setting : Setting) : Device :=
  { d.put setting with cli := d.cli ++ d.linesFor setting }

def forget (d : Device) : Device := { d with cli := [] }

end Device

namespace Network
variable {net : Network}

/-- The device and the setting that an operation is about. -/
def Operation.setting? : Operation → Option (String × Setting)
  | .setInterface device interface address mask => some (device, .interface interface address mask)
  | .setHostname device hostname => some (device, .hostname hostname)
  | .addStatement device statement => some (device, .statement statement)
  | .addRule device number action entry => some (device, .rule number action entry)
  | .addDevice .. | .addLink .. | .clearCli | .clear => none

def Operation.Accepted (operation : Operation) (net : Network) : Prop :=
  (operation.change net).1 = .ok ()

instance (operation : Operation) (net : Network) : Decidable (operation.Accepted net) :=
  match h : (operation.change net).1 with
  | .ok () => isTrue h
  | .error _ => isFalse (by simp [Operation.Accepted, h])

namespace Operation
variable {α : Type} {operation : Operation} {step : Change α}

theorem refused (hchange : operation.change = Change.forget step) {e : NetworkError}
    (h : step net = (.error e, net)) : ¬ operation.Accepted net ∧ operation.step net = net := by
  simp [Accepted, Operation.step, hchange, Change.forget, h, Except.map]

theorem carriedOut (hchange : operation.change = Change.forget step) {a : α} {after : Network}
    (h : step net = (.ok a, after)) : operation.Accepted net ∧ operation.step net = after := by
  simp [Accepted, Operation.step, hchange, Change.forget, h, Except.map]

end Operation

/-- A configuring operation is refused and changes nothing, or the device of its name takes the
setting. -/
theorem setting_cases {operation : Operation} {name : String} {setting : Setting}
    (h : operation.setting? = some (name, setting)) (net : Network) :
    (¬ operation.Accepted net ∧ operation.step net = net) ∨
      ∃ id d, net.names.get? name = some id ∧ net.devices.get? id = some d ∧
        operation.Accepted net ∧
        operation.step net = net.record name id (d.put setting) (d.linesFor setting) := by
  cases operation with
  | setInterface device interface address mask =>
    cases h
    obtain ⟨e, he⟩ | ⟨id, d, hname, hdevice, _, hok⟩ :=
      setInterface_cases name interface address mask net
    · exact .inl (Operation.refused rfl he)
    · exact .inr ⟨id, d, hname, hdevice, Operation.carriedOut rfl hok⟩
  | setHostname device hostname =>
    cases h
    obtain ⟨e, he⟩ | ⟨id, d, hname, hdevice, hok⟩ := setHostname_cases name hostname net
    · exact .inl (Operation.refused rfl he)
    · exact .inr ⟨id, d, hname, hdevice, Operation.carriedOut rfl hok⟩
  | addStatement device statement =>
    cases h
    obtain ⟨e, he⟩ | ⟨id, d, routing, hname, hdevice, hadd, hok⟩ :=
      addStatement_cases name statement net
    · exact .inl (Operation.refused rfl he)
    · have hrouting : routing = ⟨d.routing.statements ++ [statement]⟩ := by
        rw [Routing.Config.add?] at hadd
        split at hadd
        · cases hadd
        · exact (Option.some.inj hadd).symm
      rw [hrouting] at hok
      exact .inr ⟨id, d, hname, hdevice, Operation.carriedOut rfl hok⟩
  | addRule device number action entry =>
    cases h
    obtain ⟨e, he⟩ | ⟨id, d, rule, hname, hdevice, hrule, hok⟩ :=
      addRule_cases name number action entry net
    · exact .inl (Operation.refused rfl he)
    · rw [hrule] at hok
      exact .inr ⟨id, d, hname, hdevice, Operation.carriedOut rfl hok⟩
  | addDevice | addLink | clearCli | clear => cases h

theorem device_congr {first second : Network} {name : String}
    (hnames : first.names.get? name = second.names.get? name)
    (hdevices : ∀ id, first.names.get? name = some id →
      first.devices.get? id = second.devices.get? id) :
    first.device name = second.device name := by
  simp only [device, entry, deviceId, ← hnames]
  cases h : first.names.get? name with
  | none => rfl
  | some id => simp only [hdevices id h]

theorem device_record (h : net.skeleton.Coherent) {name : String} {id : DeviceId}
    (hname : net.names.get? name = some id) (d : Device) (lines : List String) (other : String) :
    (net.record name id d lines).device other =
      if other = name then .ok { d with cli := d.cli ++ lines } else net.device other := by
  by_cases ho : other = name
  · rw [if_pos ho, device_ok_iff]
    exact ⟨id, ho ▸ hname, by simp [record]⟩
  · rw [if_neg ho]
    refine device_congr rfl fun i hi => ?_
    have hne : i ≠ id := by
      intro hid
      exact ho (h.name_inj (hid ▸ hi) hname)
    simp [record, hne]

/-- A device is left, or it is the one of the operation and takes the setting. -/
theorem device_setting (h : net.skeleton.Coherent) {operation : Operation} {name : String}
    {setting : Setting} (hsetting : operation.setting? = some (name, setting)) (other : String) :
    (¬ (other = name ∧ operation.Accepted net) ∧
        (operation.step net).device other = net.device other) ∨
      ((other = name ∧ operation.Accepted net) ∧ ∃ d, net.device other = .ok d ∧
        (operation.step net).device other = .ok (d.configure setting)) := by
  obtain ⟨hrefused, hstep⟩ | ⟨id, d, hname, hdevice, haccepted, hstep⟩ := setting_cases hsetting net
  · exact .inl ⟨fun hboth => hrefused hboth.2, by rw [hstep]⟩
  · rw [hstep, device_record h hname]
    by_cases ho : other = name
    · refine .inr ⟨⟨ho, haccepted⟩, d, ?_, ?_⟩
      · rw [ho]
        exact (device_ok_iff net name d).2 ⟨id, hname, hdevice⟩
      · rw [if_pos ho]
        cases setting <;> rfl
    · exact .inl ⟨fun hboth => ho hboth.1, if_neg ho⟩

theorem hasDevice_eq_false_iff (net : Network) (name : String) :
    net.hasDevice name = false ↔ net.names.get? name = none := by
  rw [hasDevice, KeyedTable.contains, Option.isSome_eq_false_iff, Option.isNone_iff_eq_none]

/-- A device is left, or the name was free and is now that of a blank device. -/
theorem device_addDevice (h : net.skeleton.Coherent) (name : String) (kind : DeviceKind)
    (other : String) :
    (¬ (other = name ∧ net.hasDevice name = false) ∧
        ((Operation.addDevice name kind).step net).device other = net.device other) ∨
      ((other = name ∧ net.hasDevice name = false) ∧
        ((Operation.addDevice name kind).step net).device other =
          .ok (.blank net.topology.size name kind)) := by
  rw [hasDevice_eq_false_iff]
  obtain ⟨id, hid, hadd⟩ | ⟨hname, hadd⟩ := addDevice_cases name kind net
  · rw [(Operation.refused rfl hadd).2]
    exact .inl ⟨by simp [hid], rfl⟩
  · rw [(Operation.carriedOut rfl hadd).2]
    by_cases ho : other = name
    · refine .inr ⟨⟨ho, hname⟩, (device_ok_iff _ _ _).2 ⟨net.topology.size, ?_, ?_⟩⟩
      · simp [ho]
      · simp [Device.blank]
    · refine .inl ⟨fun hboth => ho hboth.1, device_congr (by simp [ho]) fun id hid => ?_⟩
      simp only [KeyedTable.get?_insert, if_neg ho] at hid
      have hne : id ≠ net.topology.size := Nat.ne_of_lt (h.lt_size hid)
      simp [hne]

theorem device_addLink (a b : String) (cable : Cable) (net : Network) (name : String) :
    ((Operation.addLink a b cable).step net).device name = net.device name := by
  obtain ⟨e, he⟩ | ⟨i, j, _, _, _, _, hadd⟩ := addLink_cases a b cable net
  · simp only [Operation.step, Operation.change, he]
  · simp only [Operation.step, Operation.change, hadd]
    exact device_congr rfl fun _ _ => rfl

theorem device_clearCli_iff (net : Network) (name : String) (d : Device) :
    net.clearCli.device name = .ok d ↔ ∃ old, net.device name = .ok old ∧ d = old.forget := by
  simp only [device_ok_iff, clearCli, KeyedTable.get?_map, Option.map_eq_some_iff]
  constructor
  · intro hd
    obtain ⟨id, hname, old, hold, rfl⟩ := hd
    exact ⟨old, ⟨id, hname, hold⟩, rfl⟩
  · intro hd
    obtain ⟨old, ⟨id, hname, hold⟩, rfl⟩ := hd
    exact ⟨id, hname, old, hold, rfl⟩

theorem device_empty (name : String) (d : Device) : empty.device name ≠ .ok d := by
  simp [device, entry, deviceId, empty]

end Network
end NetworkConsole
