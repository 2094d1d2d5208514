import NetworkConsole.Address.Basic

/-! Subnet masks. A contiguous mask is a row of ones followed by zeros; the ones are the network
part and their number is the prefix length. -/
namespace NetworkConsole.Address

/-- The 32 bits, the most significant first. -/
def bits (address : Address) : List Bool :=
  (List.range 32).map fun i => address.value.toNat.testBit (31 - i)

def leadingOnes (address : Address) : Nat := (address.bits.takeWhile id).length

/-- No one follows the first zero. -/
def isContiguous (address : Address) : Bool := (address.bits.dropWhile id).all not

/-- The bits of `address` that `mask` leaves to the host. -/
def hostPart (address mask : Address) : UInt32 := address.value &&& ~~~mask.value

/-- Neither the network nor the broadcast address of the subnet. Subnets with less than two host
bits have no such addresses. -/
def isHostOf (address mask : Address) : Bool :=
  31 ≤ mask.leadingOnes ||
    (address.hostPart mask != 0 && address.hostPart mask != ~~~mask.value)

end NetworkConsole.Address
