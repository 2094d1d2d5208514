import Mathlib.Data.List.Pairwise
import NetworkConsole.Proofs.Network.Views

/-! Connections as an undirected graph on names. The search for a link between two ids and the list
of connections by name show the same graph, and a new link adds one connection at the end. -/
namespace NetworkConsole

namespace Topology

theorem Simple.eq_of_joins {topology : Topology} (h : topology.Simple) {x y : Link}
    (hx : x ∈ topology.links) (hy : y ∈ topology.links) {i j : DeviceId}
    (hxij : x.joins i j) (hyij : y.joins i j) : x = y := by
  have hsymm : Std.Symm fun x y : Link => ¬ x.joins y.left y.right := by
    constructor
    intro a b hab
    rwa [Link.joins_ends_comm]
  by_contra hne
  have hdistinct := h.unique.forall hx hy hne
  rw [Link.joins_iff] at hxij hyij hdistinct
  grind

theorem link?_eq_some_iff {topology : Topology} (h : topology.Simple) (i j : DeviceId)
    (link : Link) :
    topology.link? i j = some link ↔ link ∈ topology.links ∧ link.joins i j := by
  constructor
  · intro hfind
    rw [link?] at hfind
    exact ⟨List.mem_of_find?_eq_some hfind, by simpa using List.find?_some hfind⟩
  · intro hboth
    obtain ⟨hmem, hjoins⟩ := hboth
    cases hfind : topology.link? i j with
    | none => exact absurd hjoins ((topology.link?_eq_none_iff i j).1 hfind link hmem)
    | some other =>
      rw [link?] at hfind
      have hother : other.joins i j = true := by simpa using List.find?_some hfind
      rw [h.eq_of_joins (List.mem_of_find?_eq_some hfind) hmem hother hjoins]

end Topology

namespace Network
variable {net : Network}

theorem mem_connections_iff (net : Network) (c : Connection) :
    c ∈ net.connections ↔ ∃ link ∈ net.topology.links, net.connectionOf? link = some c := by
  simp [connections]

/-- A name and its id stand at the same end of a connection and of its link. -/
theorem joins_iff_of_connectionOf? (h : net.skeleton.Coherent) {link : Link} {c : Connection}
    (hc : net.connectionOf? link = some c) {a b : String} {i j : DeviceId}
    (ha : net.names.get? a = some i) (hb : net.names.get? b = some j) :
    c.joins a b ↔ link.joins i j := by
  obtain ⟨hleft, hright, _⟩ := (connectionOf?_eq_some_iff h link c).1 hc
  have hsame : ∀ {x y : String} {k l : DeviceId}, net.names.get? x = some k →
      net.names.get? y = some l → (x = y ↔ k = l) := by
    intro x y k l hx hy
    constructor
    · intro hxy
      exact Option.some.inj (hx.symm.trans (hxy ▸ hy))
    · intro hkl
      exact h.name_inj hx (hkl ▸ hy)
  rw [Connection.joins_iff, Link.joins_iff, hsame hleft ha, hsame hright hb, hsame hleft hb,
    hsame hright ha]

theorem hasDevice_of_mem_connections (h : net.skeleton.Coherent) {c : Connection}
    (hc : c ∈ net.connections) :
    net.hasDevice c.left = true ∧ net.hasDevice c.right = true ∧ c.left ≠ c.right := by
  obtain ⟨link, hmem, hlink⟩ := (mem_connections_iff net c).1 hc
  obtain ⟨hleft, hright, _⟩ := (connectionOf?_eq_some_iff h link c).1 hlink
  refine ⟨(hasDevice_iff net _).2 ⟨_, hleft⟩, (hasDevice_iff net _).2 ⟨_, hright⟩, ?_⟩
  intro hsame
  rw [hsame] at hleft
  exact h.simple.irreflexive link hmem (Option.some.inj (hleft.symm.trans hright))

theorem connections_pairwise (h : net.skeleton.Coherent) :
    net.connections.Pairwise fun x y => ¬ x.joins y.left y.right := by
  rw [connections, List.pairwise_filterMap]
  refine h.simple.unique.imp fun {x y} hxy c hc d hd hjoins => hxy ?_
  obtain ⟨hleft, hright, _⟩ := (connectionOf?_eq_some_iff h y d).1 hd
  exact (joins_iff_of_connectionOf? h hc hleft hright).1 hjoins

theorem cable?_comm (net : Network) (a b : String) : net.cable? a b = net.cable? b a := by
  rw [cable?, cable?]
  cases net.names.get? a with
  | none => cases net.names.get? b <;> rfl
  | some i =>
    cases net.names.get? b with
    | none => rfl
    | some j => simp only [Topology.link?_comm _ i j]

theorem cable?_eq_none_iff {a b : String} {i j : DeviceId} (ha : net.names.get? a = some i)
    (hb : net.names.get? b = some j) :
    net.cable? a b = none ↔ net.topology.link? i j = none := by
  simp [cable?, ha, hb]

theorem cable?_eq_some_iff (h : net.skeleton.Coherent) (a b : String) (cable : Cable) :
    net.cable? a b = some cable ↔ ∃ c ∈ net.connections, c.joins a b ∧ c.cable = cable := by
  constructor
  · intro hcable
    cases ha : net.names.get? a with
    | none => simp [cable?, ha] at hcable
    | some i =>
      cases hb : net.names.get? b with
      | none => simp [cable?, ha, hb] at hcable
      | some j =>
        simp only [cable?, ha, hb, Option.map_eq_some_iff] at hcable
        obtain ⟨link, hfind, rfl⟩ := hcable
        obtain ⟨hmem, hjoins⟩ := (Topology.link?_eq_some_iff h.simple i j link).1 hfind
        obtain ⟨c, hc⟩ := exists_connectionOf? h hmem
        obtain ⟨_, _, hcable⟩ := (connectionOf?_eq_some_iff h link c).1 hc
        exact ⟨c, (mem_connections_iff net c).2 ⟨link, hmem, hc⟩,
          (joins_iff_of_connectionOf? h hc ha hb).2 hjoins, hcable⟩
  · intro hconnected
    obtain ⟨c, hc, hjoins, rfl⟩ := hconnected
    obtain ⟨link, hmem, hlink⟩ := (mem_connections_iff net c).1 hc
    obtain ⟨hleft, hright, hcable⟩ := (connectionOf?_eq_some_iff h link c).1 hlink
    have hfound : net.cable? c.left c.right = some c.cable := by
      have hfind := (Topology.link?_eq_some_iff h.simple link.left link.right link).2
        ⟨hmem, by simp [Link.joins_iff]⟩
      simp only [skeleton] at hfind
      simp [cable?, hleft, hright, hfind, hcable]
    obtain ⟨rfl, rfl⟩ | ⟨rfl, rfl⟩ := (c.joins_iff a b).1 hjoins
    · exact hfound
    · rw [cable?_comm]
      exact hfound

theorem addLink_ok_iff (h : net.skeleton.Coherent) (a b : String) (cable : Cable) :
    (addLink a b cable net).1 = .ok () ↔
      a ≠ b ∧ net.hasDevice a = true ∧ net.hasDevice b = true ∧ net.cable? a b = none := by
  rw [hasDevice_iff, hasDevice_iff]
  constructor
  · intro hok
    obtain ⟨e, he⟩ | ⟨i, j, ha, hb, hij, hlink, _⟩ := addLink_cases a b cable net
    · simp [he] at hok
    · refine ⟨?_, ⟨i, ha⟩, ⟨j, hb⟩, (cable?_eq_none_iff ha hb).2 hlink⟩
      intro hab
      exact hij (Option.some.inj (ha.symm.trans (hab ▸ hb)))
  · intro hall
    obtain ⟨hab, ⟨i, ha⟩, ⟨j, hb⟩, hcable⟩ := hall
    have hij : i ≠ j := by
      intro hij
      exact hab (h.name_inj ha (hij ▸ hb))
    have hlink := (cable?_eq_none_iff ha hb).1 hcable
    simp [addLink, deviceId, ha, hb, hij, hlink]

theorem connections_addLink (h : net.skeleton.Coherent) {a b : String} {cable : Cable}
    (hok : (addLink a b cable net).1 = .ok ()) :
    (addLink a b cable net).2.connections = net.connections ++ [⟨a, b, cable⟩] := by
  obtain ⟨e, he⟩ | ⟨i, j, ha, hb, _, _, hadd⟩ := addLink_cases a b cable net
  · simp [he] at hok
  · have hnew : net.connectionOf? ⟨i, j, cable⟩ = some ⟨a, b, cable⟩ :=
      (connectionOf?_eq_some_iff h _ _).2 ⟨ha, hb, rfl⟩
    calc (addLink a b cable net).2.connections
        = (net.topology.links ++ [Link.mk i j cable]).filterMap net.connectionOf? := by
          rw [hadd]
          rfl
      _ = net.connections ++ [⟨a, b, cable⟩] := by
          rw [List.filterMap_append, List.filterMap_cons_some hnew]
          rfl

/-- A connection has two ends, both devices, and no two connections have the same ends. The cable
between two names is that of the connection that joins them, in either order; a link is made
exactly where there is none, and its connection comes last. -/
theorem simple_graph (operations : List Operation) :
    let net := run operations empty
    (∀ c ∈ net.connections, c.left ≠ c.right) ∧
      (net.connections.Pairwise fun x y => ¬ x.joins y.left y.right) ∧
      (∀ c ∈ net.connections, net.hasDevice c.left = true ∧ net.hasDevice c.right = true) ∧
      (∀ a b, net.cable? a b = net.cable? b a) ∧
      (∀ a b cable, net.cable? a b = some cable ↔
        ∃ c ∈ net.connections, c.joins a b ∧ c.cable = cable) ∧
      (∀ a b cable, (addLink a b cable net).1 = .ok () ↔
        a ≠ b ∧ net.hasDevice a = true ∧ net.hasDevice b = true ∧ net.cable? a b = none) ∧
      ∀ a b cable, (addLink a b cable net).1 = .ok () →
        (addLink a b cable net).2.connections = net.connections ++ [⟨a, b, cable⟩] := by
  intro net
  have h : net.skeleton.Coherent := coherent_run operations
  refine ⟨?_, connections_pairwise h, ?_, cable?_comm net, cable?_eq_some_iff h,
    addLink_ok_iff h, fun a b cable => connections_addLink h⟩
  · intro c hc
    exact (hasDevice_of_mem_connections h hc).2.2
  · intro c hc
    obtain ⟨hleft, hright, _⟩ := hasDevice_of_mem_connections h hc
    exact ⟨hleft, hright⟩

end Network
end NetworkConsole
