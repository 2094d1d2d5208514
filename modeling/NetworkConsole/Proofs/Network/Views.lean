import Mathlib.Data.List.Nodup
import NetworkConsole.Proofs.Network.Coherence

/-! What a network with a coherent skeleton shows: devices under their ids, ids under their names,
and a connection for every link. -/
namespace NetworkConsole.Network
variable {net : Network}

theorem get?_iff_identity (net : Network) (id : DeviceId) (x : Identity) :
    net.skeleton.identities.get? id = some x ↔
      ∃ d, net.devices.get? id = some d ∧ d.identity = x := by
  simp [skeleton]

theorem device_id (h : net.skeleton.Coherent) {id : DeviceId} {d : Device}
    (hd : net.devices.get? id = some d) : d.id = id :=
  h.id_eq id d.identity ((get?_iff_identity net id _).2 ⟨d, hd, rfl⟩)

theorem names_iff (h : net.skeleton.Coherent) (name : String) (id : DeviceId) :
    net.names.get? name = some id ↔ ∃ d, net.devices.get? id = some d ∧ d.name = name := by
  have hnames := h.names_iff name id
  simp only [get?_iff_identity] at hnames
  rw [show net.names = net.skeleton.names from rfl, hnames]
  constructor
  · intro hx
    obtain ⟨x, ⟨d, hd, rfl⟩, hn⟩ := hx
    exact ⟨d, hd, hn⟩
  · intro hd
    obtain ⟨d, hd, hn⟩ := hd
    exact ⟨d.identity, ⟨d, hd, rfl⟩, hn⟩

theorem devices_keys (h : net.skeleton.Coherent) :
    net.devices.keys = List.range net.topology.size := by
  rw [← KeyedTable.keys_map Device.identity]
  exact h.keys

theorem lt_size_iff (h : net.skeleton.Coherent) (id : DeviceId) :
    id < net.topology.size ↔ ∃ d, net.devices.get? id = some d := by
  rw [← KeyedTable.mem_keys_iff, devices_keys h, List.mem_range]

theorem deviceCount_eq (h : net.skeleton.Coherent) : net.deviceCount = net.topology.size := by
  rw [deviceCount, ← KeyedTable.length_keys, devices_keys h, List.length_range]

theorem getElem?_filterMap {α β : Type} {f : α → Option β} {l : List α}
    (h : ∀ a ∈ l, ∃ b, f a = some b) (i : Nat) : (l.filterMap f)[i]? = l[i]?.bind f := by
  induction l generalizing i with
  | nil => rfl
  | cons a rest ih =>
    obtain ⟨b, hb⟩ := h a List.mem_cons_self
    rw [List.filterMap_cons_some hb]
    cases i with
    | zero => simp [hb]
    | succ i => simpa using ih (fun x hx => h x (List.mem_cons_of_mem a hx)) i

/-- The device under an id stands at this place of the list. -/
theorem deviceList_getElem? (h : net.skeleton.Coherent) (id : DeviceId) :
    net.deviceList[id]? = net.devices.get? id := by
  have hall : ∀ i ∈ net.topology.nodes, ∃ d, net.devices.get? i = some d := by
    intro i hi
    exact (lt_size_iff h i).1 (List.mem_range.1 hi)
  rw [deviceList, getElem?_filterMap hall]
  by_cases hid : id < net.topology.size
  · simp [Topology.nodes, hid]
  · cases hget : net.devices.get? id with
    | none => simp [Topology.nodes, hid]
    | some d => exact absurd ((lt_size_iff h id).2 ⟨d, hget⟩) hid

theorem mem_deviceList_iff (h : net.skeleton.Coherent) (d : Device) :
    d ∈ net.deviceList ↔ ∃ id, net.devices.get? id = some d := by
  simp only [List.mem_iff_getElem?, deviceList_getElem? h]

theorem length_deviceList (h : net.skeleton.Coherent) :
    net.deviceList.length = net.topology.size := by
  have hall : ∀ id ∈ net.topology.nodes, (net.devices.get? id).isSome := by
    intro id hid
    exact Option.isSome_iff_exists.2 ((lt_size_iff h id).1 (List.mem_range.1 hid))
  rw [deviceList, List.filterMap_length_eq_length.2 hall, Topology.nodes, List.length_range]

theorem deviceList_ids (h : net.skeleton.Coherent) :
    net.deviceList.map Device.id = List.range net.topology.size := by
  refine List.ext_getElem (by simp [length_deviceList h]) fun i hi _ => ?_
  have hlt : i < net.deviceList.length := by simpa using hi
  have hget : net.devices.get? i = some net.deviceList[i] := by
    rw [← deviceList_getElem? h, List.getElem?_eq_getElem]
  simpa using device_id h hget

theorem deviceList_names_nodup (h : net.skeleton.Coherent) :
    (net.deviceList.map Device.name).Nodup := by
  have hnodup : net.deviceList.Nodup := by
    refine List.Nodup.of_map Device.id ?_
    rw [deviceList_ids h]
    exact List.nodup_range
  refine hnodup.map_on ?_
  intro x hx y hy hxy
  obtain ⟨i, hi⟩ := (mem_deviceList_iff h x).1 hx
  obtain ⟨j, hj⟩ := (mem_deviceList_iff h y).1 hy
  have hxi := (names_iff h x.name i).2 ⟨x, hi, rfl⟩
  have hyj := (names_iff h x.name j).2 ⟨y, hj, hxy.symm⟩
  obtain rfl := Option.some.inj (hxi.symm.trans hyj)
  exact Option.some.inj (hi.symm.trans hj)

theorem device_name (h : net.skeleton.Coherent) {name : String} {d : Device}
    (hd : net.device name = .ok d) : d.name = name ∧ d ∈ net.deviceList := by
  obtain ⟨id, hname, hid⟩ := (device_ok_iff net name d).1 hd
  obtain ⟨x, hx, hn⟩ := (names_iff h name id).1 hname
  obtain rfl := Option.some.inj (hid.symm.trans hx)
  exact ⟨hn, (mem_deviceList_iff h d).2 ⟨id, hid⟩⟩

theorem device_of_mem (h : net.skeleton.Coherent) {d : Device} (hd : d ∈ net.deviceList) :
    net.device d.name = .ok d := by
  obtain ⟨id, hid⟩ := (mem_deviceList_iff h d).1 hd
  exact (device_ok_iff net d.name d).2 ⟨id, (names_iff h d.name id).2 ⟨d, hid, rfl⟩, hid⟩

theorem hasDevice_iff_device (h : net.skeleton.Coherent) (name : String) :
    net.hasDevice name = true ↔ ∃ d, net.device name = .ok d := by
  rw [hasDevice_iff]
  constructor
  · intro hname
    obtain ⟨id, hid⟩ := hname
    obtain ⟨d, hd, _⟩ := (names_iff h name id).1 hid
    exact ⟨d, (device_ok_iff net name d).2 ⟨id, hid, hd⟩⟩
  · intro hd
    obtain ⟨d, hd⟩ := hd
    obtain ⟨id, hid, _⟩ := (device_ok_iff net name d).1 hd
    exact ⟨id, hid⟩

theorem entry_cases (h : net.skeleton.Coherent) (name : String) :
    (net.names.get? name = none ∧ net.entry name = .error (.unknownName name)) ∨
      ∃ id d, net.names.get? name = some id ∧ net.devices.get? id = some d ∧
        net.entry name = .ok (id, d) := by
  cases hname : net.names.get? name with
  | none => exact .inl ⟨rfl, by simp [entry, deviceId, hname]⟩
  | some id =>
    obtain ⟨d, hd, _⟩ := (names_iff h name id).1 hname
    exact .inr ⟨id, d, rfl, hd, (entry_ok_iff net name id d).2 ⟨hname, hd⟩⟩

theorem entry_ne_missing (h : net.skeleton.Coherent) (name : String) (id : DeviceId) :
    net.entry name ≠ .error (.missingDevice id) := by
  obtain ⟨_, hentry⟩ | ⟨i, d, _, _, hentry⟩ := entry_cases h name <;> simp [hentry]

theorem device_ne_missing (h : net.skeleton.Coherent) (name : String) (id : DeviceId) :
    net.device name ≠ .error (.missingDevice id) := by
  rw [device]
  obtain ⟨_, hentry⟩ | ⟨i, d, _, _, hentry⟩ := entry_cases h name <;> simp [hentry]

theorem edit_ne_missing (h : net.skeleton.Coherent) {α : Type}
    {step : Device → Except NetworkError (Edit α)} {id : DeviceId}
    (hstep : ∀ d, step d ≠ .error (.missingDevice id)) (name : String) :
    (edit name step net).1 ≠ .error (.missingDevice id) := by
  intro he
  obtain hentry | ⟨_, d, _, hd⟩ := edit_error he
  · exact entry_ne_missing h name id hentry
  · exact hstep d hd

theorem addLink_ne_missing (a b : String) (cable : Cable) (net : Network) (id : DeviceId) :
    (addLink a b cable net).1 ≠ .error (.missingDevice id) := by
  rw [addLink, deviceId, deviceId]
  cases net.names.get? a with
  | none => simp
  | some i =>
    cases net.names.get? b with
    | none => simp
    | some j =>
      by_cases hij : i = j
      · simp [hij]
      · cases hlink : net.topology.link? i j <;> simp [hij, hlink]

/-- No name of a coherent network stands for an id without a device, and no operation says so. -/
theorem change_ne_missing (h : net.skeleton.Coherent) (operation : Operation) (id : DeviceId) :
    (operation.change net).1 ≠ .error (.missingDevice id) := by
  cases operation with
  | addDevice name kind =>
    rw [Operation.change, ne_eq, Change.forget_error_iff]
    obtain ⟨_, _, hadd⟩ | ⟨_, hadd⟩ := addDevice_cases name kind net <;> simp [hadd]
  | addLink a b cable => exact addLink_ne_missing a b cable net id
  | setInterface device interface address mask =>
    rw [Operation.change, ne_eq, Change.forget_error_iff, setInterface]
    split
    · simp
    · exact edit_ne_missing h (by simp) device
  | setHostname device hostname =>
    rw [Operation.change, ne_eq, Change.forget_error_iff]
    exact edit_ne_missing h (by simp) device
  | addStatement device statement =>
    rw [Operation.change, ne_eq, Change.forget_error_iff]
    refine edit_ne_missing h (fun d => ?_) device
    split <;> simp
  | addRule device number action entry =>
    rw [Operation.change, ne_eq, Change.forget_error_iff]
    exact edit_ne_missing h (by simp) device
  | clearCli => simp [Operation.change]
  | clear => simp [Operation.change]

theorem connectionOf?_eq_some_iff (h : net.skeleton.Coherent) (link : Link) (c : Connection) :
    net.connectionOf? link = some c ↔
      net.names.get? c.left = some link.left ∧ net.names.get? c.right = some link.right ∧
        c.cable = link.cable := by
  rw [names_iff h, names_iff h, connectionOf?]
  cases hleft : net.devices.get? link.left with
  | none => simp
  | some a =>
    cases hright : net.devices.get? link.right with
    | none => simp
    | some b =>
      obtain ⟨left, right, cable⟩ := c
      simp [eq_comm]

/-- Both ends of a link are devices. -/
theorem exists_connectionOf? (h : net.skeleton.Coherent) {link : Link}
    (hlink : link ∈ net.topology.links) : ∃ c, net.connectionOf? link = some c := by
  obtain ⟨hleft, hright⟩ := h.simple.bounded link hlink
  obtain ⟨a, ha⟩ := (lt_size_iff h link.left).1 hleft
  obtain ⟨b, hb⟩ := (lt_size_iff h link.right).1 hright
  exact ⟨⟨a.name, b.name, link.cable⟩, by simp [connectionOf?, ha, hb]⟩

theorem length_connections (h : net.skeleton.Coherent) :
    net.connections.length = net.connectionCount := by
  rw [connections, connectionCount, List.filterMap_length_eq_length]
  intro link hlink
  exact Option.isSome_iff_exists.2 (exists_connectionOf? h hlink)

theorem isEmpty_iff (h : net.skeleton.Coherent) :
    net.isEmpty = true ↔ net.deviceList = [] ∧ net.connections = [] ∧ net.history = [] := by
  have hdevices : net.devices.isEmpty = true ↔ net.deviceList = [] := by
    rw [KeyedTable.isEmpty_iff, devices_keys h, ← deviceList_ids h, List.map_eq_nil_iff]
  have hlinks : net.deviceList = [] → net.connections = [] := by
    intro hnil
    have hsize : net.topology.size = 0 := by simpa [hnil] using (length_deviceList h).symm
    rw [connections, List.filterMap_eq_nil_iff]
    intro link hlink
    exact absurd (h.simple.bounded link hlink).1 (by simp [skeleton, hsize])
  rw [isEmpty, Bool.and_eq_true, hdevices, List.isEmpty_iff]
  constructor
  · intro hboth
    exact ⟨hboth.1, hlinks hboth.1, hboth.2⟩
  · intro hall
    exact ⟨hall.1, hall.2.2⟩

end NetworkConsole.Network
