import NetworkConsole.Network.Report
import NetworkConsole.Proofs.Network.Setting

/-! Networks without their logs. Every question about the configuration has the same answer with the
logs and without them, and a change does not look at what was logged before it. -/
namespace NetworkConsole

@[simp] theorem Device.forget_forget (d : Device) : d.forget.forget = d.forget := rfl

@[simp] theorem Device.routing_forget (d : Device) : d.forget.routing = d.routing := rfl

namespace Network

/-- The network without the generated lines of its devices and without its history. -/
def unlogged (net : Network) : Network :=
  { net with devices := net.devices.map Device.forget, history := [] }

@[simp] theorem names_unlogged (net : Network) : net.unlogged.names = net.names := rfl

@[simp] theorem topology_unlogged (net : Network) : net.unlogged.topology = net.topology := rfl

@[simp] theorem deviceId_unlogged (net : Network) (name : String) :
    net.unlogged.deviceId name = net.deviceId name := rfl

@[simp] theorem hasDevice_unlogged (net : Network) (name : String) :
    net.unlogged.hasDevice name = net.hasDevice name := rfl

@[simp] theorem cable?_unlogged (net : Network) (a b : String) :
    net.unlogged.cable? a b = net.cable? a b := rfl

@[simp] theorem get?_unlogged (net : Network) (id : DeviceId) :
    net.unlogged.devices.get? id = (net.devices.get? id).map Device.forget :=
  KeyedTable.get?_map _ _ _

@[simp] theorem map_forget_forget (devices : KeyedTable DeviceId Device) :
    (devices.map Device.forget).map Device.forget = devices.map Device.forget := by
  refine KeyedTable.ext_get? (by simp) fun id => ?_
  simp [Function.comp_def]

@[simp] theorem unlogged_unlogged (net : Network) : net.unlogged.unlogged = net.unlogged := by
  simp [unlogged]

section Questions

theorem entry_unlogged (net : Network) (name : String) :
    net.unlogged.entry name = (net.entry name).map fun found => (found.1, found.2.forget) := by
  simp only [entry, deviceId, names_unlogged]
  cases net.names.get? name with
  | none => rfl
  | some id =>
    simp only [get?_unlogged]
    cases net.devices.get? id <;> rfl

theorem device_unlogged (net : Network) (name : String) :
    net.unlogged.device name = (net.device name).map Device.forget := by
  rw [device, device, entry_unlogged]
  cases net.entry name <;> rfl

theorem deviceList_unlogged (net : Network) :
    net.unlogged.deviceList = net.deviceList.map Device.forget := by
  rw [deviceList, deviceList, List.map_filterMap]
  exact List.filterMap_congr fun id _ => get?_unlogged net id

theorem connections_unlogged (net : Network) : net.unlogged.connections = net.connections := by
  refine List.filterMap_congr fun link _ => ?_
  simp only [connectionOf?, get?_unlogged]
  cases net.devices.get? link.left with
  | none => rfl
  | some a => cases net.devices.get? link.right <;> rfl

theorem holder?_unlogged (net : Network) (address : Address) :
    net.unlogged.holder? address = net.holder? address := by
  rw [holder?, holder?, deviceList_unlogged, List.findSome?_map]
  rfl

theorem otherHolder?_unlogged (net : Network) (name interface : String) (address : Address) :
    net.unlogged.otherHolder? name interface address = net.otherHolder? name interface address := by
  rw [otherHolder?, otherHolder?, holder?_unlogged]

theorem topologyReport_unlogged (net : Network) :
    net.unlogged.topologyReport = net.topologyReport := by
  have hcount : net.unlogged.deviceCount = net.deviceCount := by
    rw [deviceCount, deviceCount, ← KeyedTable.length_keys, ← KeyedTable.length_keys]
    simp [unlogged]
  rw [topologyReport, topologyReport, hcount, deviceList_unlogged, connections_unlogged,
    List.map_map]
  rfl

end Questions

/-- The change answers the same without the logs and leaves the same but for the logs. -/
def Change.Unmindful {α : Type} (step : Change α) : Prop :=
  ∀ net, (step net.unlogged).1 = (step net).1 ∧
    (step net.unlogged).2.unlogged = (step net).2.unlogged

/-- A new state of one device, with anything else that is no log. -/
theorem unlogged_insert (net : Network) (names : Table DeviceId) (id : DeviceId) (d : Device)
    (topology : Topology) (history : List HistoryEntry) :
    unlogged ⟨names, net.devices.insert id d, topology, history⟩ =
      { net.unlogged with
        names := names, devices := net.unlogged.devices.insert id d.forget, topology := topology } := by
  simp only [unlogged, KeyedTable.map_insert]

theorem unlogged_record (net : Network) (name : String) (id : DeviceId) (d : Device)
    (lines : List String) :
    (net.record name id d lines).unlogged =
      { net.unlogged with devices := net.unlogged.devices.insert id d.forget } :=
  unlogged_insert net net.names id _ net.topology _

section Changes

/-- An edit without the log of its device. -/
def Edit.forget {α : Type} (result : Edit α) : Edit α :=
  { result with device := result.device.forget }

/-- An edit that does not read the log of its device. -/
theorem unmindful_edit {α : Type} (name : String) {step : Device → Except NetworkError (Edit α)}
    (hstep : ∀ d, step d.forget = (step d).map Edit.forget) :
    Change.Unmindful (edit name step) := by
  intro net
  cases hentry : net.entry name with
  | error e =>
    have hentry' : net.unlogged.entry name = .error e := by rw [entry_unlogged, hentry]; rfl
    simp only [edit, hentry, hentry', unlogged_unlogged, and_self]
  | ok found =>
    -- The same device is found without its log, so the step gives the same edit without the log.
    obtain ⟨id, d⟩ := found
    have hentry' : net.unlogged.entry name = .ok (id, d.forget) := by
      rw [entry_unlogged, hentry]; rfl
    have hd := hstep d
    cases hresult : step d with
    | error e =>
      rw [hresult] at hd
      simp only [edit, hentry, hentry', hresult, hd, Except.map, unlogged_unlogged, and_self]
    | ok result =>
      rw [hresult] at hd
      obtain ⟨hname, hdevice⟩ := (entry_ok_iff net name id d).1 hentry
      obtain ⟨hname', hdevice'⟩ := (entry_ok_iff net.unlogged name id d.forget).1 hentry'
      rw [edit_ok hname hdevice hresult, edit_ok hname' hdevice' hd, unlogged_record,
        unlogged_record, unlogged_unlogged]
      exact ⟨rfl, rfl⟩

theorem unmindful_addDevice (name : String) (kind : DeviceKind) :
    Change.Unmindful (addDevice name kind) := by
  intro net
  rw [addDevice, addDevice, hasDevice_unlogged]
  by_cases h : net.hasDevice name = true
  · rw [if_pos h, if_pos h, unlogged_unlogged]
    exact ⟨rfl, rfl⟩
  · rw [if_neg h, if_neg h, unlogged_insert, unlogged_insert, unlogged_unlogged]
    exact ⟨rfl, rfl⟩

theorem unmindful_addLink (a b : String) (cable : Cable) : Change.Unmindful (addLink a b cable) := by
  intro net
  simp only [addLink, deviceId_unlogged, topology_unlogged]
  cases net.deviceId a with
  | error e => simp
  | ok i =>
    cases net.deviceId b with
    | error e => simp
    | ok j =>
      by_cases hij : i = j
      · simp [hij]
      · by_cases hlink : (net.topology.link? i j).isSome = true
        · simp [hij, hlink]
        · simp [hij, hlink, unlogged]

theorem unmindful_setInterface (name interface : String) (address mask : Address) :
    Change.Unmindful (setInterface name interface address mask) := by
  intro net
  rw [setInterface, setInterface, otherHolder?_unlogged]
  cases net.otherHolder? name interface address with
  | some holder => simp
  | none => exact unmindful_edit name (fun _ => rfl) net

theorem unmindful_setHostname (name hostname : String) :
    Change.Unmindful (setHostname name hostname) :=
  unmindful_edit name fun _ => rfl

theorem unmindful_addStatement (name : String) (statement : Routing.Statement) :
    Change.Unmindful (addStatement name statement) := by
  refine unmindful_edit name fun d => ?_
  rw [Device.routing_forget]
  cases d.routing.add? statement <;> rfl

theorem unmindful_addRule (name : String) (number : UInt32) (action : AccessList.Action)
    (entry : AccessList.Entry) : Change.Unmindful (addRule name number action entry) :=
  unmindful_edit name fun _ => rfl

end Changes

theorem unlogged_clearCli (net : Network) : net.clearCli.unlogged = net.unlogged :=
  net.unlogged_unlogged

/-- What an operation does to the network but for the logs does not depend on the logs. -/
theorem unlogged_step (operation : Operation) (net : Network) :
    (operation.step net.unlogged).unlogged = (operation.step net).unlogged := by
  cases operation with
  | addDevice name kind => exact (unmindful_addDevice name kind net).2
  | addLink a b cable => exact (unmindful_addLink a b cable net).2
  | setInterface device interface address mask =>
    exact (unmindful_setInterface device interface address mask net).2
  | setHostname device hostname => exact (unmindful_setHostname device hostname net).2
  | addStatement device statement => exact (unmindful_addStatement device statement net).2
  | addRule device number action entry => exact (unmindful_addRule device number action entry net).2
  | clearCli => exact congrArg unlogged (unlogged_unlogged net)
  | clear => rfl

/-- Runs of the same operations agree but for the logs if the networks that they start from do. -/
theorem unlogged_run (operations : List Operation) {net other : Network}
    (h : net.unlogged = other.unlogged) :
    (run operations net).unlogged = (run operations other).unlogged := by
  induction operations generalizing net other with
  | nil => exact h
  | cons operation rest ih =>
    refine ih ?_
    rw [← unlogged_step operation net, ← unlogged_step operation other, h]

end Network
end NetworkConsole
