import Mathlib.Data.Nat.Bitwise
import NetworkConsole.Address.Mask

/-! Subnets as arithmetic. A contiguous mask of prefix length `p` is `2 ^ 32 - 2 ^ (32 - p)`, and the
host part of an address below it is the remainder modulo `2 ^ (32 - p)`. -/
namespace NetworkConsole.Address

theorem getElem?_bits (address : Address) {i : Nat} (hi : i < 32) :
    address.bits[i]? = some (address.value.toNat.testBit (31 - i)) := by
  simp [bits, hi]

theorem leadingOnes_le (address : Address) : address.leadingOnes ≤ 32 := by
  have hlength := (List.takeWhile_sublist (p := id) (l := address.bits)).length_le
  simpa [leadingOnes, bits] using hlength

/-- A contiguous mask is a row of ones followed by a row of zeros. -/
theorem bits_of_isContiguous {mask : Address} (h : mask.isContiguous = true) :
    mask.bits = List.replicate mask.leadingOnes true ++
      List.replicate (32 - mask.leadingOnes) false := by
  have hones : mask.bits.takeWhile id = List.replicate mask.leadingOnes true := by
    refine List.eq_replicate_iff.2 ⟨rfl, fun bit hbit => ?_⟩
    simpa using List.all_eq_true.1 List.all_takeWhile bit hbit
  have hzeros : mask.bits.dropWhile id = List.replicate (32 - mask.leadingOnes) false := by
    refine List.eq_replicate_iff.2 ⟨?_, fun bit hbit => ?_⟩
    · have hlength := congrArg List.length (List.takeWhile_append_dropWhile (p := id) (l := mask.bits))
      rw [List.length_append, ← leadingOnes] at hlength
      simp [bits] at hlength ⊢
      omega
    · simpa using List.all_eq_true.1 h bit hbit
  rw [← hones, ← hzeros, List.takeWhile_append_dropWhile]

theorem testBit_of_isContiguous {mask : Address} (h : mask.isContiguous = true) {i : Nat}
    (hi : i < 32) : mask.value.toNat.testBit i = decide (32 - mask.leadingOnes ≤ i) := by
  have hle := mask.leadingOnes_le
  have hbit := mask.getElem?_bits (show 31 - i < 32 by omega)
  rw [bits_of_isContiguous h, show 31 - (31 - i) = i by omega] at hbit
  rw [List.getElem?_append, List.length_replicate, List.getElem?_replicate,
    List.getElem?_replicate] at hbit
  split at hbit
  · next hone =>
    rw [Option.some.injEq] at hbit
    rw [← hbit, eq_comm, decide_eq_true_eq]
    omega
  · next hzero =>
    rw [if_pos (by omega), Option.some.injEq] at hbit
    rw [← hbit, eq_comm, decide_eq_false_iff_not]
    omega

theorem two_pow_sub_two_pow {p : Nat} (hp : p ≤ 32) :
    2 ^ 32 - 2 ^ (32 - p) = 2 ^ (32 - p) * (2 ^ p - 1) := by
  rw [Nat.mul_sub_one, ← Nat.pow_add, Nat.sub_add_cancel hp]

theorem toNat_of_isContiguous {mask : Address} (h : mask.isContiguous = true) :
    mask.value.toNat = 2 ^ 32 - 2 ^ (32 - mask.leadingOnes) := by
  have hle := mask.leadingOnes_le
  rw [two_pow_sub_two_pow hle]
  refine Nat.eq_of_testBit_eq fun i => ?_
  rw [Nat.testBit_two_pow_mul, Nat.testBit_two_pow_sub_one]
  by_cases hi : i < 32
  · rw [testBit_of_isContiguous h hi]
    simp
    omega
  · have hlt : mask.value.toNat < 2 ^ i :=
      Nat.lt_of_lt_of_le mask.value.toNat_lt (Nat.pow_le_pow_right (by decide) (by omega))
    rw [Nat.testBit_lt_two_pow hlt]
    simp
    omega

theorem bits_of_toNat {mask : Address} {p : Nat} (hp : p ≤ 32)
    (h : mask.value.toNat = 2 ^ 32 - 2 ^ (32 - p)) :
    mask.bits = List.replicate p true ++ List.replicate (32 - p) false := by
  refine List.ext_getElem? fun i => ?_
  by_cases hi : i < 32
  · rw [mask.getElem?_bits hi, h, two_pow_sub_two_pow hp, Nat.testBit_two_pow_mul,
      Nat.testBit_two_pow_sub_one, List.getElem?_append, List.length_replicate]
    by_cases hone : i < p
    · rw [if_pos hone, List.getElem?_replicate, if_pos hone]
      simp
      omega
    · rw [if_neg hone, List.getElem?_replicate, if_pos (by omega)]
      simp
      omega
  · rw [List.getElem?_eq_none (by simp [bits]; omega), List.getElem?_eq_none (by simp; omega)]

theorem leadingOnes_of_toNat {mask : Address} {p : Nat} (hp : p ≤ 32)
    (h : mask.value.toNat = 2 ^ 32 - 2 ^ (32 - p)) : mask.leadingOnes = p := by
  rw [leadingOnes, bits_of_toNat hp h, List.takeWhile_append_of_pos (by simp)]
  simp

theorem isContiguous_of_toNat {mask : Address} {p : Nat} (hp : p ≤ 32)
    (h : mask.value.toNat = 2 ^ 32 - 2 ^ (32 - p)) : mask.isContiguous = true := by
  rw [isContiguous, bits_of_toNat hp h, List.dropWhile_append_of_pos (by simp)]
  simp

theorem isContiguous_iff (mask : Address) :
    mask.isContiguous = true ↔ ∃ p ≤ 32, mask.value.toNat = 2 ^ 32 - 2 ^ (32 - p) := by
  constructor
  · intro h
    exact ⟨mask.leadingOnes, mask.leadingOnes_le, toNat_of_isContiguous h⟩
  · intro h
    obtain ⟨p, hp, hmask⟩ := h
    exact isContiguous_of_toNat hp hmask

def trailingZeros (address : Address) : Nat := (address.bits.reverse.takeWhile not).length

/-- The mask is contiguous if the ones in front and the zeros at the end are all of its bits. -/
theorem isContiguous_iff_trailingZeros (mask : Address) :
    mask.isContiguous = true ↔ mask.leadingOnes + mask.trailingZeros = 32 := by
  constructor
  · intro h
    have hle := mask.leadingOnes_le
    rw [trailingZeros, bits_of_isContiguous h, List.reverse_append, List.reverse_replicate,
      List.takeWhile_append_of_pos (by simp)]
    simp
    omega
  · intro h
    have hlength := congrArg List.length (List.takeWhile_append_dropWhile (p := id) (l := mask.bits))
    rw [List.length_append, ← leadingOnes, show mask.bits.length = 32 by simp [bits]] at hlength
    have hback : (mask.bits.reverse.takeWhile not).length =
        (mask.bits.dropWhile id).reverse.length := by
      rw [← trailingZeros, List.length_reverse]
      omega
    have hprefix : mask.bits.reverse.takeWhile not = (mask.bits.dropWhile id).reverse := by
      have hboth : (mask.bits.dropWhile id).reverse <+: mask.bits.reverse :=
        List.reverse_prefix.2 (List.dropWhile_suffix id)
      exact (List.prefix_of_prefix_length_le (List.takeWhile_prefix not) hboth hback.le).eq_of_length
        hback
    rw [isContiguous, ← List.all_reverse, ← hprefix]
    exact List.all_takeWhile

theorem toNat_not_of_isContiguous {mask : Address} (h : mask.isContiguous = true) :
    (~~~mask.value).toNat = 2 ^ (32 - mask.leadingOnes) - 1 := by
  have hpow : 2 ^ (32 - mask.leadingOnes) ≤ 2 ^ 32 := Nat.pow_le_pow_right (by decide) (by omega)
  rw [UInt32.toNat_not, toNat_of_isContiguous h, UInt32.size]
  omega

theorem toNat_hostPart {mask : Address} (h : mask.isContiguous = true) (address : Address) :
    (address.hostPart mask).toNat = address.value.toNat % 2 ^ (32 - mask.leadingOnes) := by
  rw [hostPart, UInt32.toNat_and, toNat_not_of_isContiguous h, Nat.and_two_pow_sub_one_eq_mod]

/-- A subnet with at least two host bits keeps its first and its last address from the hosts. -/
theorem isHostOf_iff {mask : Address} (h : mask.isContiguous = true) (address : Address) :
    address.isHostOf mask = true ↔
      (mask.leadingOnes < 31 →
        address.value.toNat % 2 ^ (32 - mask.leadingOnes) ≠ 0 ∧
          address.value.toNat % 2 ^ (32 - mask.leadingOnes) ≠
            2 ^ (32 - mask.leadingOnes) - 1) := by
  simp only [isHostOf, Bool.or_eq_true, decide_eq_true_eq, Bool.and_eq_true, bne_iff_ne, ne_eq,
    ← UInt32.toNat_inj, toNat_hostPart h, toNat_not_of_isContiguous h, UInt32.toNat_zero]
  rw [← Nat.not_lt, ← imp_iff_not_or]

end NetworkConsole.Address
