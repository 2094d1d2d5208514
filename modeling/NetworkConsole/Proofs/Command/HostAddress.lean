import NetworkConsole.Proofs.Address.Literal
import NetworkConsole.Proofs.Address.Subnet
import NetworkConsole.Proofs.Command.Violation
import NetworkConsole.Proofs.Network.Views

/-! Masks and host addresses as numbers. A mask is read exactly if it is that of a prefix `p`, and the
address of an interface is turned down exactly if below this mask it is the first or the last one of a
subnet with at least two host bits. -/
namespace NetworkConsole

theorem ArgumentType.read?_mask (mask : Address) :
    ArgumentType.mask.read? (toString mask) =
      if mask.isContiguous then some (.address mask) else none := by
  have hread : Address.ofString? (toString mask) = some mask :=
    (Address.ofString?_eq_some_iff (toString mask) mask).2 rfl
  rw [read?, hread]
  by_cases h : mask.isContiguous = true <;> simp [Option.filter, h]

namespace Address
variable {mask : Address} {p : Nat}

theorem isHostOf_eq_false_iff (hp : p ≤ 32) (h : mask.value.toNat = 2 ^ 32 - 2 ^ (32 - p))
    (address : Address) :
    address.isHostOf mask = false ↔
      p ≤ 30 ∧ (address.value.toNat % 2 ^ (32 - p) = 0 ∨
        address.value.toNat % 2 ^ (32 - p) = 2 ^ (32 - p) - 1) := by
  rw [← Bool.not_eq_true, isHostOf_iff (isContiguous_of_toNat hp h), leadingOnes_of_toNat hp h,
    Classical.not_imp, ← not_or, Classical.not_not, Nat.lt_succ_iff]

/-- Without a prefix the whole address is host part. -/
theorem mod_two_pow_32 (address : Address) :
    (address.value.toNat % 2 ^ 32 = 0 ↔ address = ofOctets 0 0 0 0) ∧
      (address.value.toNat % 2 ^ 32 = 2 ^ 32 - 1 ↔ address = ofOctets 255 255 255 255) := by
  obtain ⟨value⟩ := address
  rw [Nat.mod_eq_of_lt value.toNat_lt]
  constructor
  · rw [show ofOctets 0 0 0 0 = ⟨0⟩ from rfl, Address.mk.injEq, ← UInt32.toNat_inj]
    rfl
  · rw [show ofOctets 255 255 255 255 = ⟨4294967295⟩ from rfl, Address.mk.injEq, ← UInt32.toNat_inj]
    rfl

end Address

namespace Command
variable {net : Network}

theorem check_setInterface {device : String} {d : Device} (hd : net.device device = .ok d)
    (interface : String) (address mask : Address) :
    (Command.setInterface device interface address mask).check net =
      if address.isHostOf mask then checkAddressFree net device interface address
      else .error (.notAHost address mask) := by
  cases h : address.isHostOf mask <;> simp [check, existing, hd, demand, h, bind, Except.bind]

theorem checkAddressFree_ne_notAHost (net : Network) (device interface : String)
    (address x mask : Address) :
    checkAddressFree net device interface address ≠ .error (.notAHost x mask) := by
  intro h
  obtain ⟨_, _, _, he⟩ := checkAddressFree_error h
  cases he

/-- The address is turned down as no host before it is looked for on other interfaces. -/
theorem check_setInterface_eq_notAHost_iff {device : String} {d : Device}
    (hd : net.device device = .ok d) (interface : String) (address mask : Address) :
    (Command.setInterface device interface address mask).check net = .error (.notAHost address mask) ↔
      address.isHostOf mask = false := by
  rw [check_setInterface hd]
  cases h : address.isHostOf mask with
  | false => simp
  | true => simp [checkAddressFree_ne_notAHost]

/-- Masks are those of a prefix, and the prefix says which addresses are hosts: all but the first and
the last one of the subnet, or all of them where less than two bits are left. -/
theorem host_addresses (mask : Address) :
    ((∃ value, ArgumentType.mask.read? (toString mask) = some value) ↔
        ∃ p ≤ 32, mask.value.toNat = 2 ^ 32 - 2 ^ (32 - p)) ∧
      ∀ p ≤ 32, mask.value.toNat = 2 ^ 32 - 2 ^ (32 - p) →
        ArgumentType.mask.read? (toString mask) = some (.address mask) ∧
        ∀ address : Address,
          let host := address.value.toNat % 2 ^ (32 - p)
          Interface.prefixLength ⟨address, mask⟩ = p ∧
          ∀ (net : Network) (device interface : String) (d : Device), net.device device = .ok d →
            let verdict := (Command.setInterface device interface address mask).check net
            (verdict = .error (.notAHost address mask) ↔
                p ≤ 30 ∧ (host = 0 ∨ host = 2 ^ (32 - p) - 1)) ∧
              (verdict ≠ .error (.notAHost address mask) →
                verdict = checkAddressFree net device interface address) ∧
              (p = 31 ∨ p = 32 → verdict ≠ .error (.notAHost address mask)) ∧
              (p = 0 → (verdict = .error (.notAHost address mask) ↔
                address = .ofOctets 0 0 0 0 ∨ address = .ofOctets 255 255 255 255)) := by
  constructor
  · rw [ArgumentType.read?_mask, ← Address.isContiguous_iff]
    by_cases h : mask.isContiguous = true <;> simp [h]
  intro p hp hmask
  have hcontiguous := Address.isContiguous_of_toNat hp hmask
  refine ⟨by rw [ArgumentType.read?_mask, if_pos hcontiguous], ?_⟩
  intro address host
  refine ⟨Address.leadingOnes_of_toNat hp hmask, ?_⟩
  intro net device interface d hd verdict
  have hverdict : verdict = .error (.notAHost address mask) ↔
      p ≤ 30 ∧ (host = 0 ∨ host = 2 ^ (32 - p) - 1) :=
    (check_setInterface_eq_notAHost_iff hd interface address mask).trans
      (Address.isHostOf_eq_false_iff hp hmask address)
  refine ⟨hverdict, fun hhost => ?_, fun hsmall => ?_, ?_⟩
  · have hishost : address.isHostOf mask = true := by
      rw [← Bool.not_eq_false, ← check_setInterface_eq_notAHost_iff hd interface]
      exact hhost
    exact (check_setInterface hd interface address mask).trans (if_pos hishost)
  · rw [ne_eq, hverdict]
    omega
  · rintro rfl
    obtain ⟨hfirst, hlast⟩ := address.mod_two_pow_32
    rw [hverdict, ← hfirst, ← hlast]
    exact and_iff_right (by decide)

/-- The broadcast address of a subnet, in use elsewhere. It is turned down as no host; below a mask
that leaves one bit it is a host, and is turned down as in use. -/
theorem host_addresses_broadcast :
    let address : Address := .ofOctets 10 0 0 255
    let mask : Address := .ofOctets 255 255 255 0
    let narrow : Address := .ofOctets 255 255 255 254
    let net := Network.run [.addDevice "r1" .router, .addDevice "sw" .switch,
      .setInterface "sw" "g0" address (.ofOctets 255 255 255 255)] .empty
    (Command.setInterface "r1" "g0" address mask).check net = .error (.notAHost address mask) ∧
      (Command.setInterface "r1" "g0" address narrow).check net =
        .error (.addressInUse address "sw" "g0") := by
  intro address mask narrow net
  have hpresent : net.hasDevice "r1" = true := by decide +kernel
  obtain ⟨d, hd⟩ := (Network.hasDevice_iff_device (Network.coherent_run _) "r1").1 hpresent
  have hmask := (((host_addresses mask).2 24 (by decide) rfl).2 address).2 net "r1" "g0" d hd
  have hnarrow := (((host_addresses narrow).2 31 (by decide) rfl).2 address).2 net "r1" "g0" d hd
  refine ⟨hmask.1.2 ⟨by decide, .inr (by decide +kernel)⟩, ?_⟩
  rw [hnarrow.2.1 (hnarrow.2.2.1 (.inl rfl))]
  decide +kernel

end Command
end NetworkConsole
