import NetworkConsole.Proofs.Network.Growth
import NetworkConsole.Proofs.Network.Recent
import NetworkConsole.Proofs.Table

/-! The interface table of a device as the record of what was written into it. The first accepted write
under a name gives the interface its place, the last one its address and mask. -/
namespace NetworkConsole.Network
variable {net : Network}

/-- What an operation writes into the interface table of the device. If it is refused or is about
another device, it writes nothing there. -/
def Operation.write? (name : String) : Operation × Network → Option (String × Interface)
  | (.setInterface device interface address mask, net) =>
    if device = name ∧ (Operation.setInterface device interface address mask).Accepted net then
      some (interface, ⟨address, mask⟩)
    else none
  | _ => none

/-- What was written into the interface table of the device since the network was last cleared,
oldest first. -/
def interfaceWrites (name : String) (operations : List Operation) : List (String × Interface) :=
  (recent operations).filterMap (Operation.write? name)

/-- The value of the last write under the key. -/
def lastWritten (key : String) (writes : List (String × Interface)) : Option Interface :=
  ((writes.filter (·.1 = key)).getLast?).map Prod.snd

def interfaceView : Device.View (Table Interface) where
  see := Device.interfaces
  start := .empty
  see_blank _ _ _ := rfl
  see_forget _ := rfl

theorem Operation.write?_eq_none {name : String} {operation : Operation}
    (h : ∀ interface address mask, operation = .setInterface name interface address mask →
      ¬ operation.Accepted net) :
    Operation.write? name (operation, net) = none := by
  cases operation with
  | setInterface device interface address mask =>
    refine if_neg fun hboth => ?_
    obtain ⟨rfl, haccepted⟩ := hboth
    exact h interface address mask rfl haccepted
  | _ => rfl

theorem seen_interfaces_step (h : net.skeleton.Coherent) (name : String) {operation : Operation}
    (hkept : operation ≠ .clear) :
    (operation.step net).seen interfaceView name =
      match Operation.write? name (operation, net) with
      | some write => (net.seen interfaceView name).insert write.1 write.2
      | none => net.seen interfaceView name := by
  obtain ⟨hclear, _⟩ | ⟨setting, d, hsetting, haccepted, hd, hnew⟩ | ⟨_, hnot, hseen⟩ :=
    seen_step_cases h interfaceView name operation
  · exact absurd hclear hkept
  · rw [seen_of_device interfaceView hnew, seen_of_device interfaceView hd]
    cases operation with
    | setInterface device interface address mask =>
      cases hsetting
      rw [Operation.write?, if_pos ⟨rfl, haccepted⟩]
      rfl
    | setHostname | addStatement | addRule =>
      cases hsetting
      rfl
    | addDevice | addLink | clearCli | clear => cases hsetting
  · rw [hseen, Operation.write?_eq_none]
    rintro interface address mask rfl
    exact hnot _ rfl

theorem seen_interfaces (name : String) (operations : List Operation) :
    (run operations empty).seen interfaceView name = .ofWrites (interfaceWrites name operations) := by
  refine recent_induction
    (P := fun net past =>
      net.seen interfaceView name = .ofWrites (past.filterMap (Operation.write? name)))
    (seen_empty interfaceView name) (fun operation net past h hkept hpast => ?_) operations
  rw [seen_interfaces_step h name hkept, List.filterMap_append, hpast]
  cases hwrite : Operation.write? name (operation, net) with
  | none => simp [hwrite]
  | some write =>
    rw [List.filterMap_cons_some hwrite, List.filterMap_nil, KeyedTable.ofWrites_concat]

/-- The table of a device lists once each name under which it accepted a write since the network was
last cleared, in the order of the first such writes, with the value of the last one. Refused
operations and those on other devices leave it alone. -/
theorem interfaces_last_written {operations : List Operation} {name : String} {d : Device}
    (hd : (run operations empty).device name = .ok d) :
    let writes := interfaceWrites name operations
    d.interfaces.keys = (writes.map Prod.fst).eraseDups ∧ d.interfaces.keys.Nodup ∧
      (∀ interface, d.interface? interface = lastWritten interface writes) ∧
      (∀ interface found,
        (interface, found) ∈ d.interfaces.entries ↔ d.interface? interface = some found) ∧
      ∀ operation : Operation, operation ≠ .clear →
        (∀ interface address mask, operation = .setInterface name interface address mask →
          ¬ operation.Accepted (run operations empty)) →
        ∃ e, (operation.step (run operations empty)).device name = .ok e ∧
          e.interfaces = d.interfaces := by
  intro writes
  have h := coherent_run operations
  have hseen := seen_interfaces name operations
  rw [seen_of_device interfaceView hd] at hseen
  have htable : d.interfaces = .ofWrites writes := hseen
  refine ⟨?_, d.interfaces.nodup, ?_, ?_, ?_⟩
  · rw [htable, KeyedTable.keys_ofWrites]
  · intro interface
    rw [Device.interface?, htable, KeyedTable.get?_ofWrites]
    rfl
  · exact d.interfaces.mem_entries_iff
  · intro operation hkept hnot
    obtain ⟨e, he, _⟩ := (extends_step hkept h).device name d hd
    refine ⟨e, he, ?_⟩
    have hstep := seen_interfaces_step h name hkept
    rw [Operation.write?_eq_none hnot, seen_of_device interfaceView he,
      seen_of_device interfaceView hd] at hstep
    exact hstep

/-- A first network is cleared away. In the second one a router gives up an address to a switch and
takes another; its attempts on addresses in use are refused. -/
theorem interfaces_last_written_router :
    let x : Address := .ofOctets 10 0 0 1
    let y : Address := .ofOctets 10 0 0 2
    let z : Address := .ofOctets 10 0 0 3
    let mask : Address := .ofOctets 255 255 255 0
    let operations : List Operation :=
      [.addDevice "r1" .router, .setInterface "r1" "lo" z mask, .clear,
        .setInterface "r1" "g1" z mask, .addDevice "r1" .router, .addDevice "sw" .switch,
        .setInterface "r1" "g0" x mask, .setInterface "r1" "g1" y mask, .setInterface "sw" "g0" y mask,
        .setInterface "r1" "g0" z mask, .clearCli, .setInterface "sw" "g0" x mask,
        .setInterface "r1" "g2" x mask]
    ∃ d, (run operations empty).device "r1" = .ok d ∧
      interfaceWrites "r1" operations = [("g0", ⟨x, mask⟩), ("g1", ⟨y, mask⟩), ("g0", ⟨z, mask⟩)] ∧
      d.interfaces.keys = ["g0", "g1"] ∧ d.interface? "g0" = some ⟨z, mask⟩ ∧
      d.interface? "g2" = none := by
  intro x y z mask operations
  have hwrites : interfaceWrites "r1" operations =
      [("g0", ⟨x, mask⟩), ("g1", ⟨y, mask⟩), ("g0", ⟨z, mask⟩)] := by decide +kernel
  obtain ⟨d, hd⟩ := (hasDevice_iff_device (coherent_run operations) "r1").1 (by decide +kernel)
  obtain ⟨hkeys, _, hget, _⟩ := interfaces_last_written hd
  rw [hwrites] at hkeys
  simp only [hwrites] at hget
  exact ⟨d, hd, hwrites, hkeys, hget "g0", hget "g2"⟩

end NetworkConsole.Network
