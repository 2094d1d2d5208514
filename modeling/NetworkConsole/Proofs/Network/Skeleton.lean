import NetworkConsole.Proofs.Network.Operation

/-! The skeleton of a network: the index of names, the identities of the devices and the topology.
Names and connections are read off it, and configuring a device does not touch it. -/
namespace NetworkConsole

structure Identity where
  id : DeviceId
  name : String
  kind : DeviceKind

def Device.identity (device : Device) : Identity := ⟨device.id, device.name, device.kind⟩

structure Skeleton where
  names : Table DeviceId
  identities : KeyedTable DeviceId Identity
  topology : Topology

namespace Skeleton

def empty : Skeleton := ⟨.empty, .empty, {}⟩

def addDevice (name : String) (kind : DeviceKind) (s : Skeleton) : Skeleton where
  names := s.names.insert name s.topology.size
  identities := s.identities.insert s.topology.size ⟨s.topology.size, name, kind⟩
  topology := s.topology.addNode

def addLink (i j : DeviceId) (cable : Cable) (s : Skeleton) : Skeleton :=
  { s with topology := s.topology.addLink i j cable }

end Skeleton

namespace Network

def skeleton (net : Network) : Skeleton := ⟨net.names, net.devices.map Device.identity, net.topology⟩

theorem skeleton_record {net : Network} {id : DeviceId} {d device : Device}
    (hdevice : net.devices.get? id = some d) (hsame : device.identity = d.identity)
    (name : String) (lines : List String) :
    (net.record name id device lines).skeleton = net.skeleton := by
  have hid : (net.devices.map Device.identity).get? id = some device.identity := by
    simp [hdevice, hsame]
  simp only [skeleton, record, KeyedTable.map_insert]
  rw [show Device.identity { device with cli := device.cli ++ lines } = device.identity from rfl,
    KeyedTable.insert_get? hid]

/-- An edit that keeps the identity of its device keeps the skeleton. -/
theorem skeleton_edit {α : Type} {step : Device → Except NetworkError (Edit α)}
    (hsame : ∀ d result, step d = .ok result → result.device.identity = d.identity)
    (name : String) (net : Network) : (edit name step net).2.skeleton = net.skeleton := by
  obtain ⟨e, he⟩ | ⟨id, d, result, hname, hdevice, hstep, hedit⟩ := edit_cases name step net
  · rw [he]
  · rw [hedit]
    exact skeleton_record hdevice (hsame d result hstep) name result.lines

theorem skeleton_setInterface (name interface : String) (address mask : Address) (net : Network) :
    (setInterface name interface address mask net).2.skeleton = net.skeleton := by
  rw [setInterface]
  split
  · rfl
  · refine skeleton_edit ?_ name net
    intro d result hstep
    cases hstep
    rfl

theorem skeleton_setHostname (name hostname : String) (net : Network) :
    (setHostname name hostname net).2.skeleton = net.skeleton := by
  refine skeleton_edit ?_ name net
  intro d result hstep
  cases hstep
  rfl

theorem skeleton_addStatement (name : String) (statement : Routing.Statement) (net : Network) :
    (addStatement name statement net).2.skeleton = net.skeleton := by
  refine skeleton_edit ?_ name net
  intro d result hstep
  split at hstep
  · cases hstep
  · cases hstep
    rfl

theorem skeleton_addRule (name : String) (number : UInt32) (action : AccessList.Action)
    (entry : AccessList.Entry) (net : Network) :
    (addRule name number action entry net).2.skeleton = net.skeleton := by
  refine skeleton_edit ?_ name net
  intro d result hstep
  cases hstep
  rfl

theorem skeleton_clearCli (net : Network) : net.clearCli.skeleton = net.skeleton := by
  have hmap : (net.devices.map ({ · with cli := [] })).map Device.identity =
      net.devices.map Device.identity := by
    refine KeyedTable.ext_get? (by simp) fun id => ?_
    cases h : net.devices.get? id <;> simp [h, Device.identity]
  simp only [skeleton, clearCli, hmap]

theorem skeleton_addDevice {name : String} (kind : DeviceKind) {net : Network}
    (hname : net.names.get? name = none) :
    (addDevice name kind net).2.skeleton = net.skeleton.addDevice name kind := by
  obtain ⟨id, hid, _⟩ | ⟨_, hadd⟩ := addDevice_cases name kind net
  · simp [hname] at hid
  · rw [hadd]
    simp only [skeleton, Skeleton.addDevice, KeyedTable.map_insert, Device.identity]

/-- What an operation can do to the skeleton. -/
theorem skeleton_step_cases (operation : Operation) (net : Network) :
    (operation ≠ .clear ∧
        (∀ name kind, operation = .addDevice name kind → ∃ id, net.names.get? name = some id) ∧
        (operation.step net).skeleton = net.skeleton) ∨
      (∃ name kind, operation = .addDevice name kind ∧ net.names.get? name = none ∧
        (operation.step net).skeleton = net.skeleton.addDevice name kind) ∨
      (∃ a b cable i j, operation = .addLink a b cable ∧ net.names.get? a = some i ∧
        net.names.get? b = some j ∧ i ≠ j ∧ net.topology.link? i j = none ∧
        (operation.step net).skeleton = net.skeleton.addLink i j cable) ∨
      (operation = .clear ∧ (operation.step net).skeleton = Skeleton.empty) := by
  cases operation with
  | addDevice name kind =>
    cases hname : net.names.get? name with
    | none => exact .inr (.inl ⟨name, kind, rfl, hname, skeleton_addDevice kind hname⟩)
    | some id =>
      refine .inl ⟨by simp, ?_, ?_⟩
      · intro other _ h
        cases h
        exact ⟨id, hname⟩
      · obtain ⟨_, _, hadd⟩ | ⟨hnone, _⟩ := addDevice_cases name kind net
        · simp only [Operation.step, Operation.change, Change.forget, hadd]
        · simp [hname] at hnone
  | addLink a b cable =>
    obtain ⟨e, he⟩ | ⟨i, j, ha, hb, hij, hlink, hadd⟩ := addLink_cases a b cable net
    · exact .inl ⟨by simp, by simp, by simp only [Operation.step, Operation.change, he]⟩
    · refine .inr (.inr (.inl ⟨a, b, cable, i, j, rfl, ha, hb, hij, hlink, ?_⟩))
      simp only [Operation.step, Operation.change, hadd]
      rfl
  | setInterface device interface address mask =>
    exact .inl ⟨by simp, by simp, skeleton_setInterface device interface address mask net⟩
  | setHostname device hostname =>
    exact .inl ⟨by simp, by simp, skeleton_setHostname device hostname net⟩
  | addStatement device statement =>
    exact .inl ⟨by simp, by simp, skeleton_addStatement device statement net⟩
  | addRule device number action entry =>
    exact .inl ⟨by simp, by simp, skeleton_addRule device number action entry net⟩
  | clearCli => exact .inl ⟨by simp, by simp, skeleton_clearCli net⟩
  | clear => exact .inr (.inr (.inr ⟨rfl, rfl⟩))

end Network
end NetworkConsole
