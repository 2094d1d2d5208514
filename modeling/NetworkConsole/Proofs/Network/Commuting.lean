import NetworkConsole.Proofs.Network.Addresses
import NetworkConsole.Proofs.Network.Configuring
import NetworkConsole.Proofs.Network.History
import NetworkConsole.Proofs.Session.Reachable

/-! Settings on two devices can change places. Each finds its own device as it was; only an address is
looked for on all devices, and settings that are independent do not change who holds the address that
the other one is about. -/
namespace NetworkConsole

/-- Values under two keys that are there already can be written in either order. -/
theorem KeyedTable.insert_comm {κ α : Type} [DecidableEq κ] {table : KeyedTable κ α} {k l : κ}
    (hne : k ≠ l) (hk : k ∈ table.keys) (hl : l ∈ table.keys) (x y : α) :
    (table.insert k x).insert l y = (table.insert l y).insert k x := by
  refine ext_get? ?_ fun key => ?_
  · simp [keys_insert, hk, hl]
  · by_cases hkey : key = k
    · simp [hkey, hne]
    · simp [hkey]

namespace Network
variable {net : Network} {a b : String} {first second : Setting}

theorem Reachable.exclusive (h : net.Reachable) : net.Exclusive := by
  obtain ⟨operations, rfl⟩ := h.exists_run
  exact exclusive_run operations

/-- Two settings of interfaces are about two addresses, neither of which the interface of the other
setting has. -/
def Independent (net : Network) (a : String) (first : Setting) (b : String) (second : Setting) :
    Prop :=
  ∀ i x m j y n, first = .interface i x m → second = .interface j y n →
    x ≠ y ∧ ¬ net.Holds a i y ∧ ¬ net.Holds b j x

theorem Independent.symm (h : net.Independent a first b second) :
    net.Independent b second a first := by
  intro j y n i x m hsecond hfirst
  obtain ⟨hne, ha, hb⟩ := h i x m j y n hfirst hsecond
  exact ⟨hne.symm, hb, ha⟩

/-- The networks show the same, except that lines of different devices may stand in another order in
the history. -/
structure SameButOrder (net other : Network) : Prop where
  deviceList : net.deviceList = other.deviceList
  device : ∀ name, net.device name = other.device name
  connections : net.connections = other.connections
  linesOf : ∀ name, net.linesOf name = other.linesOf name

/-- The setting leaves everyone who holds the address. -/
def Spares (net : Network) (a : String) (setting : Setting) (y : Address) : Prop :=
  ∀ i x m, setting = .interface i x m → x ≠ y ∧ ¬ net.Holds a i y

theorem holds_iff_interface? {d : Device} (hd : net.device a = .ok d) (i : String) (x : Address) :
    net.Holds a i x ↔ ∃ found, d.interface? i = some found ∧ found.address = x := by
  simp [Holds, hd]

theorem holds_change (h : net.skeleton.Coherent) {y : Address} (hspares : net.Spares a first y)
    (e k : String) : (first.change a net).2.Holds e k y ↔ net.Holds e k y := by
  rw [← first.step_operation]
  obtain ⟨_, hsame⟩ | ⟨⟨rfl, _⟩, d, hd, hnew⟩ :=
    device_setting h (first.setting?_operation a) e
  · exact holds_congr hsame k y
  · rw [holds_iff_interface? hnew, holds_iff_interface? hd]
    cases first with
    | interface i x m =>
      obtain ⟨hne, hnot⟩ := hspares i x m rfl
      rw [holds_iff_interface? hd] at hnot
      by_cases hk : k = i
      · subst hk
        simpa [Device.interface?, Device.configure, Device.put, hne] using hnot
      · simp [Device.interface?, Device.configure, Device.put, hk]
    | hostname | statement | rule => rfl

theorem holder?_change (h : net.skeleton.Coherent) (hexclusive : net.Exclusive) {y : Address}
    (hspares : net.Spares a first y) : (first.change a net).2.holder? y = net.holder? y := by
  have hafter := coherent_step (first.operation a) net h
  have hexclusive' := exclusive_step (first.operation a) h hexclusive
  rw [first.step_operation] at hafter hexclusive'
  refine Option.ext fun holder => ?_
  rw [holder?_eq_some_iff hafter hexclusive', holder?_eq_some_iff h hexclusive,
    holds_change h hspares]

theorem entry_record (h : net.skeleton.Coherent) (hab : a ≠ b) {id : DeviceId}
    (hname : net.names.get? a = some id) (d : Device) (lines : List String) :
    (net.record a id d lines).entry b = net.entry b := by
  simp only [entry, deviceId, record]
  cases hb : net.names.get? b with
  | none => rfl
  | some i =>
    have hne : i ≠ id := fun hsame => hab (h.name_inj hname (hsame ▸ hb))
    simp [hne]

theorem entry_change (h : net.skeleton.Coherent) (hab : a ≠ b) :
    (first.change a net).2.entry b = net.entry b := by
  rw [Setting.change_eq]
  cases htarget : first.target a net with
  | error e => rfl
  | ok found =>
    have hname := ((entry_ok_iff net a _ _).1 (Setting.entry_of_target htarget)).1
    exact entry_record h hab hname _ _

/-- A setting finds the same target before and after an independent one on another device. -/
theorem target_change (h : net.skeleton.Coherent) (hexclusive : net.Exclusive) (hab : a ≠ b)
    (hindependent : net.Independent a first b second) :
    second.target b (first.change a net).2 = second.target b net := by
  -- Only an interface looks further than its own device.
  have hentry : (first.change a net).2.entry b = net.entry b := entry_change h hab
  cases second with
  | interface j y n =>
    have hspares : net.Spares a first y := fun i x m hfirst =>
      have hfree := hindependent i x m j y n hfirst rfl
      ⟨hfree.1, hfree.2.1⟩
    simp only [Setting.target, otherHolder?, holder?_change h hexclusive hspares, hentry]
  | hostname | statement | rule => simp only [Setting.target, hentry]

theorem SameButOrder.refl (net : Network) : net.SameButOrder net :=
  ⟨rfl, fun _ => rfl, rfl, fun _ => rfl⟩

/-- Lines that are logged on two devices stand in one order or the other. -/
theorem record_comm {i j : DeviceId} {d e : Device} (hab : a ≠ b) (hij : i ≠ j)
    (hi : net.devices.get? i = some d) (hj : net.devices.get? j = some e) (d' e' : Device)
    (lines more : List String) :
    ((net.record a i d' lines).record b j e' more).SameButOrder
      ((net.record b j e' more).record a i d' lines) := by
  have hdevices : ((net.record a i d' lines).record b j e' more).devices =
      ((net.record b j e' more).record a i d' lines).devices :=
    KeyedTable.insert_comm hij ((net.devices.mem_keys_iff i).2 ⟨d, hi⟩)
      ((net.devices.mem_keys_iff j).2 ⟨e, hj⟩) _ _
  refine ⟨?_, fun name => device_congr rfl fun _ _ => by rw [hdevices], ?_, fun name => ?_⟩
  · rw [deviceList, deviceList, hdevices]
    rfl
  · have hconnection : ((net.record a i d' lines).record b j e' more).connectionOf? =
        ((net.record b j e' more).record a i d' lines).connectionOf? := by
      funext link
      rw [connectionOf?, connectionOf?, hdevices]
    rw [connections, connections, hconnection]
    rfl
  · simp only [linesOf_record]
    by_cases hname : name = a
    · simp [hname, hab]
    · simp [hname]

/-- Settings on two devices that are independent can be made in either order. Each is answered or
refused as it would be without the other, and the two orders lead to the same devices, connections
and logs; in the history only lines of different devices may change places. -/
theorem settings_commute (h : net.Reachable) (hab : a ≠ b)
    (hindependent : net.Independent a first b second) :
    let left := first.change a net
    let right := second.change b net
    (second.change b left.2).1 = right.1 ∧ (first.change a right.2).1 = left.1 ∧
      (second.change b left.2).2.SameButOrder (first.change a right.2).2 := by
  intro left right
  have hsecond := target_change h.coherent h.exclusive hab hindependent
  have hfirst := target_change h.coherent h.exclusive hab.symm hindependent.symm
  rw [Setting.change_eq second b left.2, hsecond, Setting.change_eq first a right.2, hfirst]
  simp only [left, right, Setting.change_eq first a net, Setting.change_eq second b net]
  cases hleft : first.target a net with
  | error e =>
    cases hright : second.target b net <;> exact ⟨rfl, rfl, .refl _⟩
  | ok found =>
    cases hright : second.target b net with
    | error e => exact ⟨rfl, rfl, .refl _⟩
    | ok other =>
      obtain ⟨ha, hi⟩ := (entry_ok_iff net a _ _).1 (Setting.entry_of_target hleft)
      obtain ⟨hb, hj⟩ := (entry_ok_iff net b _ _).1 (Setting.entry_of_target hright)
      have hij : found.1 ≠ other.1 := fun hsame => hab (h.coherent.name_inj ha (hsame ▸ hb))
      exact ⟨rfl, rfl, record_comm hab hij hi hj _ _ _ _⟩

/-- Two interfaces that get new addresses. -/
theorem settings_commute_interfaces :
    let mask := Address.ofOctets 255 255 255 0
    let net := run [.addDevice "r1" .router, .addDevice "r2" .router,
      .setInterface "r1" "g0/0" (.ofOctets 10 0 0 1) mask] empty
    let first := Setting.interface "g0/0" (.ofOctets 10 0 0 2) mask
    let second := Setting.interface "g0/0" (.ofOctets 10 0 0 3) mask
    net.Reachable ∧ net.Independent "r1" first "r2" second ∧
      (second.change "r2" (first.change "r1" net).2).1 =
        .ok (.generated ["interface g0/0", "ip address 10.0.0.3 255.255.255.0"]) ∧
      (second.change "r2" (first.change "r1" net).2).2.SameButOrder
        (first.change "r1" (second.change "r2" net).2).2 := by
  intro mask net first second
  have hnet : net.Reachable := .operation (.operation (.operation .empty _) _) _
  have hindependent : net.Independent "r1" first "r2" second := by
    intro i x m j y n hfirst hsecond
    obtain ⟨rfl, rfl, -⟩ := Setting.interface.inj hfirst
    obtain ⟨rfl, rfl, -⟩ := Setting.interface.inj hsecond
    exact ⟨by decide, (holder?_eq_none_iff hnet.coherent _).1 (by decide +kernel) _ _,
      (holder?_eq_none_iff hnet.coherent _).1 (by decide +kernel) _ _⟩
  obtain ⟨hsecond, _, hsame⟩ := settings_commute hnet (by decide) hindependent
  exact ⟨hnet, hindependent, hsecond.trans (by decide +kernel), hsame⟩

/-- An address that an interface gives up is free for another one only afterwards. -/
example :
    let mask := Address.ofOctets 255 255 255 0
    let net := run [.addDevice "r1" .router, .addDevice "r2" .router,
      .setInterface "r1" "g0/0" (.ofOctets 10 0 0 1) mask] empty
    let first := Setting.interface "g0/0" (.ofOctets 10 0 0 2) mask
    let second := Setting.interface "g0/0" (.ofOctets 10 0 0 1) mask
    (second.change "r2" net).1 = .error (.addressTaken (.ofOctets 10 0 0 1) "r1" "g0/0") ∧
      (second.change "r2" (first.change "r1" net).2).1 =
        .ok (.generated ["interface g0/0", "ip address 10.0.0.1 255.255.255.0"]) := by
  decide +kernel

end Network
end NetworkConsole
