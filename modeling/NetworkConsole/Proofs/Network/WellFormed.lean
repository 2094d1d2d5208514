import NetworkConsole.Proofs.Address.Subnet
import NetworkConsole.Proofs.Command.Admission
import NetworkConsole.Proofs.Network.Setting

/-! Well-formed devices. What they require is said in the terms of the domain, without the checks that
enforce it; settings that fit a device and devices with proper names keep it. -/
namespace NetworkConsole

namespace Text

/-- An ASCII letter or digit, followed by letters, digits and the given marks. -/
def IsWordWith (marks : List Char) (text : String) : Prop :=
  ∃ first rest, text.toList = first :: rest ∧ first.isAlphanum = true ∧
    ∀ c ∈ rest, c.isAlphanum = true ∨ c ∈ marks

def nameMarks : List Char := ['_', '-', '.']

def identifierMarks : List Char := nameMarks ++ ['/', ':']

theorem isWordWith_iff {allowed : Char → Bool} {marks : List Char}
    (hallowed : ∀ c, allowed c = true ↔ c.isAlphanum = true ∨ c ∈ marks) (text : String) :
    isWord allowed text = true ↔ IsWordWith marks text := by
  rw [isWord, IsWordWith, Bool.and_eq_true, List.all_eq_true]
  cases text.toList with
  | nil => simp
  | cons first rest =>
    simp only [List.head?_cons, Option.any_some, List.mem_cons, forall_eq_or_imp, hallowed,
      List.cons.injEq]
    constructor
    · intro hword
      exact ⟨first, rest, ⟨rfl, rfl⟩, hword.1, hword.2.2⟩
    · intro hword
      obtain ⟨_, _, ⟨rfl, rfl⟩, hfirst, hrest⟩ := hword
      exact ⟨hfirst, .inl hfirst, hrest⟩

theorem isName_iff (text : String) : isName text = true ↔ IsWordWith nameMarks text := by
  refine isWordWith_iff (fun c => ?_) text
  simp [isNameChar, nameMarks, or_assoc]

theorem isIdentifier_iff (text : String) :
    isIdentifier text = true ↔ IsWordWith identifierMarks text := by
  refine isWordWith_iff (fun c => ?_) text
  simp [isIdentifierChar, isNameChar, identifierMarks, nameMarks, or_assoc]

end Text

/-- The mask is that of a prefix. The address is not the first and not the last of its subnet,
except in the subnets with prefix 31 and 32. -/
structure Interface.WellFormed (interface : Interface) : Prop where
  prefixLength_le : interface.prefixLength ≤ 32
  mask : interface.mask.value.toNat = 2 ^ 32 - 2 ^ (32 - interface.prefixLength)
  host : interface.prefixLength ≠ 31 → interface.prefixLength ≠ 32 →
    interface.address.value.toNat % 2 ^ (32 - interface.prefixLength) ≠ 0 ∧
      interface.address.value.toNat % 2 ^ (32 - interface.prefixLength) ≠
        2 ^ (32 - interface.prefixLength) - 1

theorem Interface.wellFormed_of_isHostOf {address mask : Address}
    (hmask : mask.isContiguous = true) (haddress : address.isHostOf mask = true) :
    Interface.WellFormed ⟨address, mask⟩ where
  prefixLength_le := mask.leadingOnes_le
  mask := Address.toNat_of_isContiguous hmask
  host := by
    intro h31 h32
    have hle := mask.leadingOnes_le
    refine (Address.isHostOf_iff hmask address).1 haddress ?_
    simp only [Interface.prefixLength] at h31 h32
    omega

/-- Numbers of OSPF processes and of EIGRP systems are positive and have 16 bits. -/
def Routing.Statement.WellFormed : Routing.Statement → Prop
  | .ospf process .. => 1 ≤ process.toNat ∧ process.toNat ≤ 65535
  | .eigrp system .. => 1 ≤ system.toNat ∧ system.toNat ≤ 65535
  | .rip _ => True

theorem Routing.Statement.wellFormed_of_checkProcess {statement : Routing.Statement}
    (h : Command.checkProcess statement = .ok ()) : statement.WellFormed := by
  cases statement with
  | ospf process _ _ _ | eigrp process _ _ =>
    have hrange := (Command.demand_ok_iff _ _).1 h
    simpa [Command.isProcessId, WellFormed, UInt32.le_iff_toNat_le] using hrange
  | rip network => trivial

namespace AccessList

/-- The numbers of lists of a shape. -/
def Shape.Numbers : Shape → Nat → Prop
  | .standard, n => 1 ≤ n ∧ n ≤ 99 ∨ 1300 ≤ n ∧ n ≤ 1999
  | .extended, n => 100 ≤ n ∧ n ≤ 199 ∨ 2000 ≤ n ∧ n ≤ 2699

theorem Shape.accepts_iff (shape : Shape) (number : UInt32) :
    shape.accepts number = true ↔ shape.Numbers number.toNat := by
  cases shape <;> simp [accepts, ranges, Numbers, UInt32.le_iff_toNat_le]

/-- No number is that of lists of both shapes. -/
theorem Shape.eq_of_numbers {shape other : Shape} {n : Nat} (h : shape.Numbers n)
    (hother : other.Numbers n) : shape = other := by
  cases shape <;> cases other <;> simp only [Numbers] at h hother <;> first | rfl | omega

end AccessList

namespace Device

structure WellFormed (d : Device) : Prop where
  name : Text.IsWordWith Text.nameMarks d.name
  hostname : Text.IsWordWith Text.nameMarks d.hostname
  interfaces : ∀ name interface, d.interface? name = some interface →
    Text.IsWordWith Text.identifierMarks name ∧ interface.WellFormed
  statements : ∀ statement ∈ d.routing.statements,
    d.kind = .router ∧ statement.WellFormed
  rules : ∀ rule ∈ d.rules,
    (d.kind = .router ∨ d.kind = .switch) ∧ rule.entry.shape.Numbers rule.number.toNat

variable {d : Device}

/-- No numbered list mixes shapes. -/
theorem WellFormed.shape_eq (h : d.WellFormed) {first second : AccessList.Rule}
    (hfirst : first ∈ d.rules) (hsecond : second ∈ d.rules) (hnumber : first.number = second.number) :
    first.entry.shape = second.entry.shape := by
  have hnumbers := (h.rules second hsecond).2
  rw [← hnumber] at hnumbers
  exact AccessList.Shape.eq_of_numbers (h.rules first hfirst).2 hnumbers

theorem wellFormed_blank {name : String} (h : isName name = true) (id : DeviceId)
    (kind : DeviceKind) : (blank id name kind).WellFormed where
  name := (Text.isName_iff name).1 h
  hostname := (Text.isName_iff name).1 h
  interfaces := by simp [interface?, blank]
  statements := by simp [blank]
  rules := by simp [blank]

theorem WellFormed.forget (h : d.WellFormed) : d.forget.WellFormed :=
  ⟨h.name, h.hostname, h.interfaces, h.statements, h.rules⟩

end Device

/-- What the checks of a line make sure of before a device takes a setting. -/
def Setting.Fits (d : Device) : Setting → Prop
  | .interface name address mask =>
    isIdentifier name = true ∧ mask.isContiguous = true ∧ address.isHostOf mask = true
  | .hostname given => isName given = true
  | .statement added => d.kind.canRoute = true ∧ Command.checkProcess added = .ok ()
  | .rule number _ entry => d.kind.canFilter = true ∧ entry.shape.accepts number = true

theorem Device.WellFormed.configure {d : Device} (h : d.WellFormed) {setting : Setting}
    (hfits : setting.Fits d) : (d.configure setting).WellFormed := by
  cases setting with
  | interface name address mask =>
    obtain ⟨hname, hmask, haddress⟩ := hfits
    refine ⟨h.name, h.hostname, ?_, h.statements, h.rules⟩
    intro other interface hinterface
    simp only [Device.interface?, Device.configure, Device.put, KeyedTable.get?_insert] at hinterface
    by_cases ho : other = name
    · rw [if_pos ho] at hinterface
      cases hinterface
      rw [ho]
      exact ⟨(Text.isIdentifier_iff name).1 hname, Interface.wellFormed_of_isHostOf hmask haddress⟩
    · rw [if_neg ho] at hinterface
      exact h.interfaces other interface hinterface
  | hostname given =>
    exact ⟨h.name, (Text.isName_iff given).1 hfits, h.interfaces, h.statements, h.rules⟩
  | statement statement =>
    obtain ⟨hkind, hprocess⟩ := hfits
    have hrouter : d.kind = .router := by
      cases hd : d.kind <;> simp [hd, DeviceKind.canRoute] at hkind ⊢
    refine ⟨h.name, h.hostname, h.interfaces, ?_, h.rules⟩
    intro other hother
    obtain hold | hnew := List.mem_append.1 hother
    · exact h.statements other hold
    · obtain rfl := List.mem_singleton.1 hnew
      exact ⟨hrouter, Routing.Statement.wellFormed_of_checkProcess hprocess⟩
  | rule number action entry =>
    obtain ⟨hkind, hnumber⟩ := hfits
    have hfilters : d.kind = .router ∨ d.kind = .switch := by
      cases hd : d.kind <;> simp [hd, DeviceKind.canFilter] at hkind ⊢
    refine ⟨h.name, h.hostname, h.interfaces, h.statements, ?_⟩
    intro other hother
    obtain hold | hnew := List.mem_append.1 hother
    · exact h.rules other hold
    · obtain rfl := List.mem_singleton.1 hnew
      exact ⟨hfilters, (AccessList.Shape.accepts_iff _ _).1 hnumber⟩

/-- A property that devices of proper names have at first, and that neither a fitting setting nor the
loss of the log takes from a device. -/
structure Device.Kept (P : Device → Prop) : Prop where
  blank {name : String} (h : isName name = true) (id : DeviceId) (kind : DeviceKind) :
    P (Device.blank id name kind)
  configure {d : Device} (h : P d) {setting : Setting} (hfits : setting.Fits d) :
    P (d.configure setting)
  forget {d : Device} (h : P d) : P d.forget

theorem Device.kept_wellFormed : Kept WellFormed where
  blank := wellFormed_blank
  configure := WellFormed.configure
  forget := WellFormed.forget

namespace Network
variable {net : Network}

/-- The devices that names stand for have the property. -/
def All (P : Device → Prop) (net : Network) : Prop := ∀ name d, net.device name = .ok d → P d

def WellFormed (net : Network) : Prop := net.All Device.WellFormed

/-- What the checks of a line make sure of before its operation. -/
def Operation.Fits (net : Network) (operation : Operation) : Prop :=
  match operation.setting? with
  | some (name, setting) => ∀ d, net.device name = .ok d → setting.Fits d
  | none =>
    match operation with
    | .addDevice name _ => isName name = true
    | _ => True

theorem all_empty (P : Device → Prop) : empty.All P := by
  intro name d hd
  exact absurd hd (device_empty name d)

theorem wellFormed_empty : empty.WellFormed := all_empty Device.WellFormed

theorem All.step {P : Device → Prop} (hP : Device.Kept P) (hnet : net.All P)
    (h : net.skeleton.Coherent) {operation : Operation} (hfits : operation.Fits net) :
    (operation.step net).All P := by
  intro name d hd
  cases hsetting : operation.setting? with
  | some target =>
    obtain ⟨device, setting⟩ := target
    simp only [Operation.Fits, hsetting] at hfits
    obtain ⟨_, hsame⟩ | ⟨⟨rfl, _⟩, old, hold, hnew⟩ := device_setting h hsetting name
    · exact hnet name d (hsame ▸ hd)
    · obtain rfl := Except.ok.inj (hnew.symm.trans hd)
      exact hP.configure (hnet name old hold) (hfits old hold)
  | none =>
    cases operation with
    | addDevice added kind =>
      obtain ⟨_, hsame⟩ | ⟨_, hnew⟩ := device_addDevice h added kind name
      · exact hnet name d (hsame ▸ hd)
      · obtain rfl := Except.ok.inj (hnew.symm.trans hd)
        exact hP.blank hfits _ _
    | addLink a b cable => exact hnet name d (device_addLink a b cable net name ▸ hd)
    | clearCli =>
      obtain ⟨old, hold, rfl⟩ := (device_clearCli_iff net name d).1 hd
      exact hP.forget (hnet name old hold)
    | clear => exact absurd hd (device_empty name d)
    | setInterface | setHostname | addStatement | addRule => cases hsetting

end Network
end NetworkConsole
