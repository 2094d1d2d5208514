import NetworkConsole.Proofs.Network.Refusal
import NetworkConsole.Proofs.Network.Setting

/-! Addresses of interfaces. The search for the holder of an address ends at the first interface that
has it, so it finds the holder only because no two interfaces share an address; and it is by this
search that an interface is refused an address that another one has. -/
namespace NetworkConsole

namespace Device

theorem interface?_of_holder? {d : Device} {interface : String} {address : Address}
    (h : d.holder? address = some interface) :
    ∃ i, d.interface? interface = some i ∧ i.address = address := by
  rw [holder?, Option.map_eq_some_iff] at h
  obtain ⟨entry, hfind, rfl⟩ := h
  refine ⟨entry.2, KeyedTable.get?_of_mem (List.mem_of_find?_eq_some hfind), ?_⟩
  simpa using List.find?_some hfind

theorem holder?_eq_none_iff (d : Device) (address : Address) :
    d.holder? address = none ↔
      ∀ interface i, d.interface? interface = some i → i.address ≠ address := by
  constructor
  · intro hnone interface i hi haddress
    rw [holder?, Option.map_eq_none_iff, List.find?_eq_none] at hnone
    rw [interface?, KeyedTable.get?, Option.map_eq_some_iff] at hi
    obtain ⟨entry, hfind, rfl⟩ := hi
    exact hnone entry (List.mem_of_find?_eq_some hfind) (by simpa using haddress)
  · intro hall
    cases hfound : d.holder? address with
    | none => rfl
    | some interface =>
      obtain ⟨i, hi, haddress⟩ := interface?_of_holder? hfound
      exact absurd haddress (hall interface i hi)

end Device

namespace Network
variable {net : Network}

/-- The interface of the device has the address. -/
def Holds (net : Network) (device interface : String) (address : Address) : Prop :=
  ∃ d i, net.device device = .ok d ∧ d.interface? interface = some i ∧ i.address = address

/-- No two interfaces of the network have one address. -/
def Exclusive (net : Network) : Prop :=
  ∀ address device interface other otherInterface, net.Holds device interface address →
    net.Holds other otherInterface address → device = other ∧ interface = otherInterface

theorem holds_of_holder? (h : net.skeleton.Coherent) {device interface : String}
    {address : Address} (hholder : net.holder? address = some (device, interface)) :
    net.Holds device interface address := by
  obtain ⟨d, hmem, hd⟩ := List.exists_of_findSome?_eq_some hholder
  simp only [Option.map_eq_some_iff, Prod.mk.injEq] at hd
  obtain ⟨_, hd, rfl, rfl⟩ := hd
  obtain ⟨i, hi, haddress⟩ := Device.interface?_of_holder? hd
  exact ⟨d, i, device_of_mem h hmem, hi, haddress⟩

theorem holder?_eq_none_iff (h : net.skeleton.Coherent) (address : Address) :
    net.holder? address = none ↔ ∀ device interface, ¬ net.Holds device interface address := by
  simp only [holder?, List.findSome?_eq_none_iff, Option.map_eq_none_iff,
    Device.holder?_eq_none_iff]
  constructor
  · intro hnone device interface hholds
    obtain ⟨d, i, hd, hi, haddress⟩ := hholds
    exact hnone d (device_name h hd).2 interface i hi haddress
  · intro hnone d hd interface i hi haddress
    exact hnone d.name interface ⟨d, i, device_of_mem h hd, hi, haddress⟩

/-- Where no address has two holders, the search finds the one there is. -/
theorem holder?_eq_some_iff (h : net.skeleton.Coherent) (hexclusive : net.Exclusive)
    (device interface : String) (address : Address) :
    net.holder? address = some (device, interface) ↔ net.Holds device interface address := by
  constructor
  · exact holds_of_holder? h
  · intro hholds
    cases hfound : net.holder? address with
    | none => exact absurd hholds ((holder?_eq_none_iff h address).1 hfound device interface)
    | some holder =>
      obtain ⟨hdevice, hinterface⟩ :=
        hexclusive _ _ _ _ _ (holds_of_holder? h hfound) hholds
      rw [← hdevice, ← hinterface]

/-- An interface is refused exactly the addresses that another one has. -/
theorem otherHolder?_eq_none_iff_holds (h : net.skeleton.Coherent) (hexclusive : net.Exclusive)
    (device interface : String) (address : Address) :
    net.otherHolder? device interface address = none ↔
      ∀ other otherInterface, net.Holds other otherInterface address →
        other = device ∧ otherInterface = interface := by
  rw [otherHolder?_eq_none_iff, Prod.forall]
  simp only [holder?_eq_some_iff h hexclusive, Prod.mk.injEq]

theorem holds_congr {first second : Network} {device : String}
    (h : first.device device = second.device device) (interface : String) (address : Address) :
    first.Holds device interface address ↔ second.Holds device interface address := by
  simp only [Holds, h]

theorem setInterface_ok_iff (h : net.skeleton.Coherent) (hexclusive : net.Exclusive)
    (device interface : String) (address mask : Address) :
    (∃ lines, (setInterface device interface address mask net).1 = .ok lines) ↔
      net.hasDevice device = true ∧ ∀ other otherInterface,
        net.Holds other otherInterface address → other = device ∧ otherInterface = interface := by
  rw [← otherHolder?_eq_none_iff_holds h hexclusive, hasDevice_iff]
  constructor
  · intro hok
    obtain ⟨lines, hok⟩ := hok
    obtain ⟨e, he⟩ | ⟨id, d, hname, _, hfree, _⟩ :=
      setInterface_cases device interface address mask net
    · simp [he] at hok
    · exact ⟨⟨id, hname⟩, hfree⟩
  · intro hboth
    obtain ⟨⟨id, hname⟩, hfree⟩ := hboth
    obtain ⟨d, hdevice, _⟩ := (names_iff h device id).1 hname
    rw [setInterface]
    simp only [hfree]
    exact ⟨_, by rw [edit_ok hname hdevice rfl]⟩

/-- An interface that is given an address has no other; all other interfaces keep theirs. -/
theorem holds_setInterface (h : net.skeleton.Coherent) {device interface : String}
    {address mask : Address} {lines : List String}
    (hok : (setInterface device interface address mask net).1 = .ok lines)
    (other otherInterface : String) (y : Address) :
    (setInterface device interface address mask net).2.Holds other otherInterface y ↔
      if other = device ∧ otherInterface = interface then y = address
      else net.Holds other otherInterface y := by
  obtain ⟨e, he⟩ | ⟨id, d, hname, hdevice, _, hstep⟩ :=
    setInterface_cases device interface address mask net
  · simp [he] at hok
  · have hd : net.device device = .ok d := (device_ok_iff net device d).2 ⟨id, hname, hdevice⟩
    rw [hstep]
    by_cases ho : other = device
    · subst ho
      simp only [Holds, device_record h hname, if_true, Except.ok.injEq, hd, Device.interface?,
        true_and]
      by_cases hi : otherInterface = interface
      · simp [hi, eq_comm]
      · simp [hi]
    · rw [if_neg fun hboth => ho hboth.1]
      exact holds_congr (by rw [device_record h hname, if_neg ho]) otherInterface y

/-- Of the other operations one may make a device without interfaces; none touches interfaces. -/
theorem interfaces_step (h : net.skeleton.Coherent) {operation : Operation}
    (hother : ∀ device interface address mask,
      operation ≠ .setInterface device interface address mask)
    {name : String} {d : Device} (hd : (operation.step net).device name = .ok d) :
    d.interfaces = .empty ∨ ∃ old, net.device name = .ok old ∧ d.interfaces = old.interfaces := by
  cases hsetting : operation.setting? with
  | some target =>
    obtain ⟨device, setting⟩ := target
    obtain ⟨_, hsame⟩ | ⟨_, old, hold, hnew⟩ := device_setting h hsetting name
    · exact .inr ⟨d, hsame ▸ hd, rfl⟩
    · obtain rfl := Except.ok.inj (hnew.symm.trans hd)
      refine .inr ⟨old, hold, ?_⟩
      cases setting with
      | interface =>
        cases operation with
        | setInterface => exact absurd rfl (hother _ _ _ _)
        | _ => cases hsetting
      | hostname | statement | rule => rfl
  | none =>
    cases operation with
    | addDevice device kind =>
      obtain ⟨hrefused, hstep⟩ | ⟨hfree, hstep⟩ := device_addDevice h device kind name
      · exact .inr ⟨d, hstep ▸ hd, rfl⟩
      · obtain rfl := Except.ok.inj (hstep.symm.trans hd)
        exact .inl rfl
    | addLink a b cable => exact .inr ⟨d, device_addLink a b cable net name ▸ hd, rfl⟩
    | clearCli =>
      obtain ⟨old, hold, rfl⟩ := (device_clearCli_iff net name d).1 hd
      exact .inr ⟨old, hold, rfl⟩
    | clear => exact absurd hd (device_empty name d)
    | setInterface | setHostname | addStatement | addRule => cases hsetting

theorem holds_of_step (h : net.skeleton.Coherent) {operation : Operation}
    (hother : ∀ device interface address mask,
      operation ≠ .setInterface device interface address mask)
    {device interface : String} {address : Address}
    (hholds : (operation.step net).Holds device interface address) :
    net.Holds device interface address := by
  obtain ⟨d, i, hd, hi, haddress⟩ := hholds
  rw [Device.interface?] at hi
  obtain hempty | ⟨old, hold, hsame⟩ := interfaces_step h hother hd
  · simp [hempty] at hi
  · exact ⟨old, i, hold, by rwa [Device.interface?, ← hsame], haddress⟩

theorem exclusive_empty : empty.Exclusive := by
  intro _ device _ _ _ hholds
  obtain ⟨d, _, hd, _⟩ := hholds
  exact absurd hd (device_empty device d)

/-- The new address of an interface has no other holder, since the search for one found none; the
other addresses have no more holders than before. -/
theorem Exclusive.setInterface (h : net.skeleton.Coherent) (hexclusive : net.Exclusive)
    {device interface : String} {address mask : Address} {lines : List String}
    (hok : (setInterface device interface address mask net).1 = .ok lines) :
    (setInterface device interface address mask net).2.Exclusive := by
  have hfree := ((setInterface_ok_iff h hexclusive device interface address mask).1 ⟨lines, hok⟩).2
  intro y a i b j ha hb
  rw [holds_setInterface h hok] at ha hb
  split at ha
  · next hai =>
    split at hb
    · next hbj => exact ⟨hai.1.trans hbj.1.symm, hai.2.trans hbj.2.symm⟩
    · next hbj => exact absurd (hfree b j (ha ▸ hb)) hbj
  · next hai =>
    split at hb
    · exact absurd (hfree a i (hb ▸ ha)) hai
    · exact hexclusive y a i b j ha hb

theorem exclusive_step (operation : Operation) (h : net.skeleton.Coherent)
    (hexclusive : net.Exclusive) : (operation.step net).Exclusive := by
  cases operation with
  | setInterface device interface address mask =>
    cases hresult : (setInterface device interface address mask net).1 with
    | ok lines => exact hexclusive.setInterface h hresult
    | error e =>
      have hsame := atomic_setInterface device interface address mask net e hresult
      rw [Operation.step, Operation.change, Change.forget, hsame]
      exact hexclusive
  | addDevice | addLink | setHostname | addStatement | addRule | clearCli | clear =>
    intro y a i b j ha hb
    exact hexclusive y a i b j (holds_of_step h (by simp) ha) (holds_of_step h (by simp) hb)

theorem exclusive_run (operations : List Operation) : (run operations empty).Exclusive :=
  run_keeps_of_coherent (fun operation _ => exclusive_step operation) operations exclusive_empty

/-- The holder of each address after an interface was given the address `x`. -/
theorem holder?_setInterface (h : net.skeleton.Coherent) (hexclusive : net.Exclusive)
    {device interface : String} {x mask : Address} {lines : List String}
    (hok : (setInterface device interface x mask net).1 = .ok lines) (y : Address) :
    (setInterface device interface x mask net).2.holder? y =
      if y = x then some (device, interface)
      else (net.holder? y).filter (· ≠ (device, interface)) := by
  have hafter : (setInterface device interface x mask net).2.skeleton.Coherent := by
    rw [skeleton_setInterface]
    exact h
  have hfree := ((setInterface_ok_iff h hexclusive device interface x mask).1 ⟨lines, hok⟩).2
  refine Option.ext fun holder => ?_
  obtain ⟨other, otherInterface⟩ := holder
  rw [holder?_eq_some_iff hafter (hexclusive.setInterface h hok), holds_setInterface h hok]
  by_cases hy : y = x
  · subst hy
    have hheld : net.Holds other otherInterface y →
        other = device ∧ otherInterface = interface := hfree other otherInterface
    by_cases hsame : other = device ∧ otherInterface = interface
    · simp [hsame]
    · simp only [if_neg hsame, if_true, Option.some.injEq, Prod.mk.injEq]
      constructor
      · intro hholds
        exact absurd (hheld hholds) hsame
      · intro heq
        exact absurd ⟨heq.1.symm, heq.2.symm⟩ hsame
  · rw [if_neg hy, Option.filter_eq_some_iff, holder?_eq_some_iff h hexclusive]
    by_cases hsame : other = device ∧ otherInterface = interface
    · simp [hsame, hy]
    · simp [hsame]

/-- An address has at most one holder, which the search finds. An interface takes an address exactly
where its device exists and no other interface has the address; it then gives up the address it
had, and every other address keeps its holder. -/
theorem addresses_unique (operations : List Operation) :
    let net := run operations empty
    (∀ x d i e j, net.Holds d i x → net.Holds e j x → d = e ∧ i = j) ∧
      (∀ x d i, net.holder? x = some (d, i) ↔ net.Holds d i x) ∧
      (∀ x, net.holder? x = none ↔ ∀ d i, ¬ net.Holds d i x) ∧
      (∀ d i x mask, (∃ lines, (setInterface d i x mask net).1 = .ok lines) ↔
        net.hasDevice d = true ∧ ∀ e j, net.Holds e j x → e = d ∧ j = i) ∧
      ∀ d i x mask lines, (setInterface d i x mask net).1 = .ok lines →
        let after := (setInterface d i x mask net).2
        after.holder? x = some (d, i) ∧
          (∀ y, y ≠ x → net.Holds d i y → after.holder? y = none) ∧
          ∀ y, y ≠ x → ¬ net.Holds d i y → after.holder? y = net.holder? y := by
  intro net
  have h : net.skeleton.Coherent := coherent_run operations
  have hexclusive : net.Exclusive := exclusive_run operations
  refine ⟨hexclusive, fun x d i => holder?_eq_some_iff h hexclusive d i x, holder?_eq_none_iff h,
    setInterface_ok_iff h hexclusive, ?_⟩
  intro d i x mask lines hok after
  have hafter := holder?_setInterface h hexclusive hok
  refine ⟨?_, ?_, ?_⟩
  · rw [hafter, if_pos rfl]
  · intro y hy hholds
    rw [hafter, if_neg hy, (holder?_eq_some_iff h hexclusive d i y).2 hholds]
    simp
  · intro y hy hholds
    have hother : net.holder? y ≠ some (d, i) :=
      fun hheld => hholds ((holder?_eq_some_iff h hexclusive d i y).1 hheld)
    rw [hafter, if_neg hy]
    cases hheld : net.holder? y with
    | none => rfl
    | some holder =>
      rw [hheld, ne_eq, Option.some.injEq] at hother
      simp [hother]

end Network
end NetworkConsole
