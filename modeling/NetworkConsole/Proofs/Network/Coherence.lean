import NetworkConsole.Proofs.Network.Skeleton

/-! The invariant of the skeleton: names, identities and nodes describe the same devices, and the
topology is a simple graph on them. It holds after every run of operations. -/
namespace NetworkConsole

namespace Topology

/-- No link leaves the nodes or returns to its node, and two links have different ends. -/
structure Simple (topology : Topology) : Prop where
  bounded : ∀ link ∈ topology.links, link.left < topology.size ∧ link.right < topology.size
  irreflexive : ∀ link ∈ topology.links, link.left ≠ link.right
  unique : topology.links.Pairwise fun x y => ¬ x.joins y.left y.right

theorem simple_empty : Simple {} :=
  ⟨by simp, by simp, List.Pairwise.nil⟩

theorem Simple.addNode {topology : Topology} (h : topology.Simple) : topology.addNode.Simple where
  bounded := by
    intro link hlink
    obtain ⟨hleft, hright⟩ := h.bounded link hlink
    exact ⟨Nat.lt_succ_of_lt hleft, Nat.lt_succ_of_lt hright⟩
  irreflexive := h.irreflexive
  unique := h.unique

theorem Simple.addLink {topology : Topology} (h : topology.Simple) {i j : DeviceId}
    (hi : i < topology.size) (hj : j < topology.size) (hij : i ≠ j)
    (hlink : topology.link? i j = none) (cable : Cable) : (topology.addLink i j cable).Simple where
  bounded := by
    intro link hmem
    obtain hmem | rfl := by simpa [Topology.addLink] using hmem
    · exact h.bounded link hmem
    · exact ⟨hi, hj⟩
  irreflexive := by
    intro link hmem
    obtain hmem | rfl := by simpa [Topology.addLink] using hmem
    · exact h.irreflexive link hmem
    · exact hij
  unique := by
    refine List.pairwise_append.2 ⟨h.unique, List.pairwise_singleton _ _, ?_⟩
    intro x hx y hy
    obtain rfl := List.mem_singleton.1 hy
    exact (topology.link?_eq_none_iff i j).1 hlink x hx

end Topology

namespace Skeleton

structure Coherent (s : Skeleton) : Prop where
  keys : s.identities.keys = List.range s.topology.size
  id_eq : ∀ id x, s.identities.get? id = some x → x.id = id
  names_iff : ∀ name id, s.names.get? name = some id ↔
    ∃ x, s.identities.get? id = some x ∧ x.name = name
  simple : s.topology.Simple

theorem coherent_empty : empty.Coherent where
  keys := rfl
  id_eq := by simp [empty]
  names_iff := by simp [empty]
  simple := Topology.simple_empty

namespace Coherent
variable {s : Skeleton}

theorem lt_size_iff (h : s.Coherent) (id : DeviceId) :
    id < s.topology.size ↔ ∃ x, s.identities.get? id = some x := by
  rw [← KeyedTable.mem_keys_iff, h.keys, List.mem_range]

theorem lt_size (h : s.Coherent) {name : String} {id : DeviceId}
    (hname : s.names.get? name = some id) : id < s.topology.size := by
  obtain ⟨x, hx, _⟩ := (h.names_iff name id).1 hname
  exact (h.lt_size_iff id).2 ⟨x, hx⟩

/-- Two names do not stand for one device. -/
theorem name_inj (h : s.Coherent) {a b : String} {id : DeviceId}
    (ha : s.names.get? a = some id) (hb : s.names.get? b = some id) : a = b := by
  obtain ⟨x, hx, hxa⟩ := (h.names_iff a id).1 ha
  obtain ⟨y, hy, hyb⟩ := (h.names_iff b id).1 hb
  rw [hx, Option.some.injEq] at hy
  rw [← hxa, ← hyb, hy]

theorem addDevice (h : s.Coherent) {name : String} (hname : s.names.get? name = none)
    (kind : DeviceKind) : (s.addDevice name kind).Coherent where
  keys := by
    have hfresh : s.topology.size ∉ s.identities.keys := by simp [h.keys]
    simp only [Skeleton.addDevice, KeyedTable.keys_insert, if_neg hfresh, Topology.addNode,
      List.range_succ]
    rw [h.keys]
  id_eq := by
    intro id x hx
    simp only [Skeleton.addDevice, KeyedTable.get?_insert] at hx
    split at hx
    · next hid =>
      cases hx
      exact hid.symm
    · exact h.id_eq id x hx
  names_iff := by
    intro other id
    have hfree : ∀ x, s.identities.get? id = some x → x.name ≠ name := by
      intro x hx hn
      have := (h.names_iff name id).2 ⟨x, hx, hn⟩
      simp [hname] at this
    simp only [Skeleton.addDevice, KeyedTable.get?_insert]
    by_cases ho : other = name
    · by_cases hid : id = s.topology.size
      · simp [ho, hid]
      · simp only [ho, if_true, Option.some.injEq, hid, if_false]
        constructor
        · intro e
          exact absurd e.symm hid
        · intro hx
          obtain ⟨x, hx, hn⟩ := hx
          exact absurd hn (hfree x hx)
    · by_cases hid : id = s.topology.size
      · have hnone : s.names.get? other ≠ some id := by
          intro hsome
          exact Nat.lt_irrefl _ (hid ▸ h.lt_size hsome)
        simp [ho, Ne.symm ho, hid, hid ▸ hnone]
      · simp only [ho, if_false, hid]
        exact h.names_iff other id
  simple := h.simple.addNode

theorem addLink (h : s.Coherent) {a b : String} {i j : DeviceId}
    (ha : s.names.get? a = some i) (hb : s.names.get? b = some j) (hij : i ≠ j)
    (hlink : s.topology.link? i j = none) (cable : Cable) : (s.addLink i j cable).Coherent where
  keys := h.keys
  id_eq := h.id_eq
  names_iff := h.names_iff
  simple := h.simple.addLink (h.lt_size ha) (h.lt_size hb) hij hlink cable

end Coherent
end Skeleton

namespace Network

theorem coherent_step (operation : Operation) (net : Network) (h : net.skeleton.Coherent) :
    (operation.step net).skeleton.Coherent := by
  obtain ⟨_, _, hs⟩ | ⟨name, kind, _, hname, hs⟩ |
    ⟨a, b, cable, i, j, _, ha, hb, hij, hlink, hs⟩ | ⟨_, hs⟩ := skeleton_step_cases operation net
  · rw [hs]
    exact h
  · rw [hs]
    exact h.addDevice hname kind
  · rw [hs]
    exact h.addLink ha hb hij hlink cable
  · rw [hs]
    exact Skeleton.coherent_empty

theorem coherent_run (operations : List Operation) : (run operations empty).skeleton.Coherent :=
  run_keeps coherent_step operations Skeleton.coherent_empty

/-- What every operation keeps in coherent networks, every run from the empty one has. -/
theorem run_keeps_of_coherent {P : Network → Prop}
    (hstep : ∀ (operation : Operation) net, net.skeleton.Coherent → P net → P (operation.step net))
    (operations : List Operation) (h : P empty) : P (run operations empty) := by
  have hboth : (run operations empty).skeleton.Coherent ∧ P (run operations empty) :=
    run_keeps (P := fun net => net.skeleton.Coherent ∧ P net)
      (fun operation net h => ⟨coherent_step operation net h.1, hstep operation net h.1 h.2⟩)
      operations ⟨Skeleton.coherent_empty, h⟩
  exact hboth.2

end Network
end NetworkConsole
