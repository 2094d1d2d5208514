import NetworkConsole.Text.Numeral

/-! IPv4 addresses as 32-bit numbers, with their dotted text. Reading accepts the canonical text
only: four octets without leading zeros. -/
namespace NetworkConsole

structure Address where
  value : UInt32
  deriving DecidableEq, Inhabited

namespace Address

/-- The address with the given octets, each below 256, the most significant first. -/
def ofOctets (a b c d : Nat) : Address :=
  ⟨UInt32.ofNat (a * 0x1000000 + b * 0x10000 + c * 0x100 + d)⟩

def octets (address : Address) : List Nat :=
  let n := address.value.toNat
  [n / 0x1000000, n / 0x10000 % 0x100, n / 0x100 % 0x100, n % 0x100]

theorem octets_ofOctets {a b c d : Nat} (ha : a < 256) (hb : b < 256) (hc : c < 256)
    (hd : d < 256) : (ofOctets a b c d).octets = [a, b, c, d] := by
  have h : (ofOctets a b c d).value.toNat = a * 0x1000000 + b * 0x10000 + c * 0x100 + d := by
    simp only [ofOctets, UInt32.toNat_ofNat']
    omega
  simp only [octets, h, List.cons.injEq, and_true]
  omega

def text (address : Address) : String :=
  String.intercalate "." (address.octets.map toString)

instance : ToString Address := ⟨text⟩

def ofString? (text : String) : Option Address :=
  match (text.toList.splitOn '.').map Text.octet? with
  | [some a, some b, some c, some d] => some (ofOctets a b c d)
  | _ => none

end Address
end NetworkConsole
