import Mathlib.Data.List.Basic
import NetworkConsole.Proofs.Network.Views

/-! Which devices a network has after a run: the roster of those added since the last clearing. The
index of names, the table of devices and the nodes of the topology agree on it. -/
namespace NetworkConsole

/-- The members of a skeleton in the order of their ids. -/
def Skeleton.members (s : Skeleton) : List Identity :=
  s.topology.nodes.filterMap s.identities.get?

def Skeleton.roster (s : Skeleton) : List (String × DeviceKind) :=
  s.members.map fun x => (x.name, x.kind)

namespace Skeleton

theorem members_addDevice (s : Skeleton) (name : String) (kind : DeviceKind) :
    (s.addDevice name kind).members = s.members ++ [⟨s.topology.size, name, kind⟩] := by
  have hold : (List.range s.topology.size).filterMap (s.addDevice name kind).identities.get? =
      s.members := by
    refine List.filterMap_congr fun id hid => ?_
    have hne : id ≠ s.topology.size := Nat.ne_of_lt (List.mem_range.1 hid)
    simp [Skeleton.addDevice, hne]
  have hnew : [s.topology.size].filterMap (s.addDevice name kind).identities.get? =
      [⟨s.topology.size, name, kind⟩] := by
    simp [Skeleton.addDevice]
  calc (s.addDevice name kind).members
      = (List.range s.topology.size ++ [s.topology.size]).filterMap
          (s.addDevice name kind).identities.get? := by
        rw [← List.range_succ]
        rfl
    _ = s.members ++ [⟨s.topology.size, name, kind⟩] := by
        rw [List.filterMap_append, hold, hnew]

theorem Coherent.mem_roster_names {s : Skeleton} (h : s.Coherent) (name : String) :
    name ∈ s.roster.map Prod.fst ↔ ∃ id, s.names.get? name = some id := by
  simp only [roster, members, List.map_map, List.mem_map, List.mem_filterMap, Function.comp_apply]
  constructor
  · intro hmem
    obtain ⟨x, ⟨id, _, hx⟩, hn⟩ := hmem
    exact ⟨id, (h.names_iff name id).2 ⟨x, hx, hn⟩⟩
  · intro hname
    obtain ⟨id, hid⟩ := hname
    obtain ⟨x, hx, hn⟩ := (h.names_iff name id).1 hid
    exact ⟨x, ⟨id, List.mem_range.2 (h.lt_size hid), hx⟩, hn⟩

end Skeleton

namespace Network
variable {net : Network}

/-- The roster after an operation: a free name joins it with its kind, clearing empties it. -/
def Operation.enroll : Operation → List (String × DeviceKind) → List (String × DeviceKind)
  | .addDevice name kind, roster =>
    if name ∈ roster.map Prod.fst then roster else roster ++ [(name, kind)]
  | .clear, _ => []
  | _, roster => roster

def roster (operations : List Operation) : List (String × DeviceKind) :=
  operations.foldl (fun roster operation => operation.enroll roster) []

theorem roster_step (operation : Operation) {net : Network} (h : net.skeleton.Coherent) :
    (operation.step net).skeleton.roster = operation.enroll net.skeleton.roster := by
  obtain ⟨hclear, htaken, hs⟩ | ⟨name, kind, rfl, hname, hs⟩ |
    ⟨a, b, cable, i, j, rfl, _, _, _, _, hs⟩ | ⟨rfl, hs⟩ := skeleton_step_cases operation net
  · rw [hs]
    cases operation with
    | addDevice name kind =>
      have hmem := (h.mem_roster_names name).2 (htaken name kind rfl)
      rw [Operation.enroll, if_pos hmem]
    | clear => exact absurd rfl hclear
    | _ => rfl
  · have hmem : name ∉ net.skeleton.roster.map Prod.fst := by
      intro hmem
      obtain ⟨id, hid⟩ := (h.mem_roster_names name).1 hmem
      exact Option.some_ne_none id (hid.symm.trans hname)
    rw [hs, Operation.enroll, if_neg hmem, Skeleton.roster, Skeleton.members_addDevice, List.map_append]
    rfl
  · rw [hs]
    rfl
  · rw [hs]
    rfl

theorem roster_run_from (operations : List Operation) {net : Network} (h : net.skeleton.Coherent) :
    (run operations net).skeleton.roster =
      operations.foldl (fun roster operation => operation.enroll roster) net.skeleton.roster := by
  induction operations generalizing net with
  | nil => rfl
  | cons operation rest ih =>
    rw [run, ih (coherent_step operation net h), roster_step operation h]
    rfl

theorem map_identity_deviceList (net : Network) :
    net.deviceList.map Device.identity = net.skeleton.members := by
  rw [deviceList, List.map_filterMap]
  refine List.filterMap_congr fun id _ => ?_
  simp [skeleton]

theorem deviceList_roster (net : Network) :
    net.deviceList.map (fun d => (d.name, d.kind)) = net.skeleton.roster := by
  rw [Skeleton.roster, ← map_identity_deviceList, List.map_map]
  rfl

/-- The three records of a network (index of names, table of devices, nodes of the topology) agree
with the roster, so that every way of asking for a device gives the same answer. -/
structure Registers (net : Network) (roster : List (String × DeviceKind)) : Prop where
  names : ∀ name id, net.names.get? name = some id ↔
    ∃ d, net.devices.get? id = some d ∧ d.name = name ∧ d.id = id
  nodes : ∀ id, id ∈ net.topology.nodes ↔ ∃ d, net.devices.get? id = some d
  ids : net.deviceList.map Device.id = List.range roster.length
  order : net.deviceList.map (fun d => (d.name, d.kind)) = roster
  places : ∀ id, net.deviceList[id]? = net.devices.get? id
  distinct : (net.deviceList.map Device.name).Nodup
  count : net.deviceList.length = net.deviceCount
  known : ∀ name, net.hasDevice name = true ↔ ∃ d, net.device name = .ok d
  found : ∀ name d, net.device name = .ok d → d.name = name ∧ (name, d.kind) ∈ roster
  notMissing : ∀ name id, net.device name ≠ .error (.missingDevice id)
  neverMissing : ∀ (operation : Operation) id,
    (operation.change net).1 ≠ .error (.missingDevice id)
  connected : net.connections.length = net.connectionCount
  blank : net.isEmpty = true ↔
    net.deviceList = [] ∧ net.connections = [] ∧ net.history = []

theorem registers_run (operations : List Operation) :
    (run operations empty).Registers (roster operations) := by
  have h := coherent_run operations
  have horder := (deviceList_roster (run operations empty)).trans
    (roster_run_from operations Skeleton.coherent_empty)
  change _ = roster operations at horder
  generalize run operations empty = net at h horder
  have hlength : (roster operations).length = net.topology.size := by
    rw [← horder, List.length_map, length_deviceList h]
  refine
    { names := fun name id => ?_
      nodes := fun id => ?_
      ids := ?_
      order := horder
      places := deviceList_getElem? h
      distinct := deviceList_names_nodup h
      count := (length_deviceList h).trans (deviceCount_eq h).symm
      known := hasDevice_iff_device h
      found := fun name d hd => ?_
      notMissing := device_ne_missing h
      neverMissing := change_ne_missing h
      connected := length_connections h
      blank := isEmpty_iff h }
  · rw [names_iff h]
    constructor
    · intro hd
      obtain ⟨d, hd, hn⟩ := hd
      exact ⟨d, hd, hn, device_id h hd⟩
    · intro hd
      obtain ⟨d, hd, hn, _⟩ := hd
      exact ⟨d, hd, hn⟩
  · rw [← lt_size_iff h, Topology.nodes, List.mem_range]
  · rw [hlength]
    exact deviceList_ids h
  · obtain ⟨hn, hmem⟩ := device_name h hd
    refine ⟨hn, ?_⟩
    rw [← horder, ← hn]
    exact List.mem_map_of_mem hmem

end Network
end NetworkConsole
