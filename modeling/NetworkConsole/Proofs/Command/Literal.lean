import Mathlib.Algebra.Group.Nat.Defs
import NetworkConsole.Command.Argument
import NetworkConsole.Proofs.Address.Literal
import NetworkConsole.Proofs.Text.Decimal

/-! Literals and what they are read as. The dotted form of an address is the only text that is read as
it; a number is read from each of its numerals, and from nothing else. -/
namespace NetworkConsole

namespace Address

/-- The characters are the plain numeral of an octet. -/
def IsOctet (cs : List Char) (n : Nat) : Prop := Text.Decimal cs n ∧ Text.Plain cs ∧ n < 256

/-- Dotted decimal: the octets with single dots between them, the most significant first. -/
def Dotted (address : Address) (text : String) : Prop :=
  ∃ w x y z a b c d, IsOctet w a ∧ IsOctet x b ∧ IsOctet y c ∧ IsOctet z d ∧
    text.toList = w ++ ['.'] ++ x ++ ['.'] ++ y ++ ['.'] ++ z ∧
    address.value.toNat = a * 256 ^ 3 + b * 256 ^ 2 + c * 256 + d

theorem isOctet_iff (cs : List Char) (n : Nat) :
    IsOctet cs n ↔ cs = Nat.toDigits 10 n ∧ n < 256 := by
  rw [IsOctet, ← and_assoc, Text.plain_decimal_iff]

theorem toList_text {address : Address} {a b c d : Nat} (h : address.octets = [a, b, c, d]) :
    address.text.toList = Nat.toDigits 10 a ++ ['.'] ++ Nat.toDigits 10 b ++ ['.'] ++
      Nat.toDigits 10 c ++ ['.'] ++ Nat.toDigits 10 d := by
  simp [text, h]

theorem octets_eq_iff {a b c d : Nat} (hb : b < 256) (hc : c < 256) (hd : d < 256)
    (address : Address) :
    address.octets = [a, b, c, d] ↔
      address.value.toNat = a * 256 ^ 3 + b * 256 ^ 2 + c * 256 + d := by
  have hvalue := address.value.toNat_lt
  simp only [octets, List.cons.injEq, and_true]
  omega

/-- The text of an address is its dotted form. -/
theorem dotted_iff (address : Address) (text : String) : address.Dotted text ↔ text = address.text := by
  constructor
  · rintro ⟨w, x, y, z, a, b, c, d, hw, hx, hy, hz, htext, hvalue⟩
    obtain ⟨rfl, ha⟩ := (isOctet_iff w a).1 hw
    obtain ⟨rfl, hb⟩ := (isOctet_iff x b).1 hx
    obtain ⟨rfl, hc⟩ := (isOctet_iff y c).1 hy
    obtain ⟨rfl, hd⟩ := (isOctet_iff z d).1 hz
    rw [← String.toList_inj, htext, toList_text ((octets_eq_iff hb hc hd address).2 hvalue)]
  · rintro rfl
    obtain ⟨a, b, c, d, hoctets⟩ : ∃ a b c d, address.octets = [a, b, c, d] := ⟨_, _, _, _, rfl⟩
    have hlt := address.octets_lt
    simp only [hoctets, List.forall_mem_cons, List.not_mem_nil, false_imp_iff, forall_const,
      and_true] at hlt
    obtain ⟨ha, hb, hc, hd⟩ := hlt
    have hread : ∀ n < 256, IsOctet (Nat.toDigits 10 n) n := fun n hn => (isOctet_iff _ n).2 ⟨rfl, hn⟩
    exact ⟨_, _, _, _, a, b, c, d, hread a ha, hread b hb, hread c hc, hread d hd,
      toList_text hoctets, (octets_eq_iff hb hc hd address).1 hoctets⟩

end Address

namespace ArgumentType

theorem read?_address_eq_some_iff (text : String) (value : Value) :
    ArgumentType.address.read? text = some value ↔
      ∃ a : Address, value = .address a ∧ text = toString a := by
  simp only [read?, Option.map_eq_some_iff, Address.ofString?_eq_some_iff]
  constructor
  · rintro ⟨a, htext, rfl⟩
    exact ⟨a, rfl, htext⟩
  · rintro ⟨a, rfl, htext⟩
    exact ⟨a, htext, rfl⟩

theorem read?_number_eq_some_iff (text : String) (value : Value) :
    ArgumentType.number.read? text = some value ↔
      ∃ n : UInt32, value = .number n ∧ Text.Decimal text.toList n.toNat := by
  simp only [read?, Option.map_eq_some_iff, Text.number?_eq_some_iff,
    Text.numeral?_eq_some_iff_decimal]
  constructor
  · rintro ⟨n, hn, rfl⟩
    exact ⟨n, rfl, hn⟩
  · rintro ⟨n, rfl, hn⟩
    exact ⟨n, hn, rfl⟩

/-- What is not a number is no row of digits, or a numeral of a number that is too large. -/
theorem read?_number_eq_none_iff (text : String) :
    ArgumentType.number.read? text = none ↔
      text = "" ∨ (∃ c ∈ text.toList, c ∉ Text.digits) ∨
        ∃ n, Text.Decimal text.toList n ∧ 2 ^ 32 ≤ n := by
  by_cases hdecimal : ∃ n, Text.Decimal text.toList n
  · obtain ⟨hne, hdigits⟩ := (Text.exists_decimal_iff text.toList).1 hdecimal
    have hempty : text ≠ "" := by simpa using hne
    have hall : ¬ ∃ c ∈ text.toList, c ∉ Text.digits := by simpa using hdigits
    obtain ⟨n, hn⟩ := hdecimal
    rw [or_iff_right hempty, or_iff_right hall]
    constructor
    · intro hnone
      refine ⟨n, hn, Nat.not_lt.1 fun hlt => ?_⟩
      rw [← UInt32.toNat_ofNat_of_lt (show n < UInt32.size from hlt)] at hn
      rw [(read?_number_eq_some_iff text _).2 ⟨_, rfl, hn⟩] at hnone
      cases hnone
    · rintro ⟨m, hm, hlarge⟩
      refine Option.eq_none_iff_forall_ne_some.2 fun value hvalue => ?_
      obtain ⟨k, _, hk⟩ := (read?_number_eq_some_iff text value).1 hvalue
      rw [hm.unique hk] at hlarge
      exact Nat.not_lt.2 hlarge k.toNat_lt
  · have hnone : ArgumentType.number.read? text = none := by
      refine Option.eq_none_iff_forall_ne_some.2 fun value hvalue => hdecimal ?_
      obtain ⟨k, _, hk⟩ := (read?_number_eq_some_iff text value).1 hvalue
      exact ⟨_, hk⟩
    refine iff_of_true hnone ?_
    rw [Text.exists_decimal_iff, not_and_or, not_not] at hdecimal
    obtain hempty | hother := hdecimal
    · exact .inl (by simpa using hempty)
    · exact .inr (.inl (by simpa using hother))

/-- An address is read from its dotted form alone, so that reading and writing addresses undo each
other; a wildcard is read like an address. A number is read from its numerals, however many zeros
stand in front, and from no other text. -/
theorem literals_exact (text : String) :
    (∀ value, ArgumentType.address.read? text = some value ↔
        ∃ a : Address, value = .address a ∧ text = toString a) ∧
      (∀ value, ArgumentType.wildcard.read? text = some value ↔
        ∃ a : Address, value = .address a ∧ text = toString a) ∧
      (∀ a : Address, text = toString a ↔ a.Dotted text) ∧
      (∀ a : Address, ArgumentType.address.read? (toString a) = some (.address a) ∧
        ArgumentType.wildcard.read? (toString a) = some (.address a)) ∧
      (∀ value, ArgumentType.number.read? text = some value ↔
        ∃ n : UInt32, value = .number n ∧ Text.Decimal text.toList n.toNat) ∧
      (ArgumentType.number.read? text = none ↔
        text = "" ∨ (∃ c ∈ text.toList, c ∉ Text.digits) ∨
          ∃ n, Text.Decimal text.toList n ∧ 2 ^ 32 ≤ n) ∧
      ∀ (zeros : Nat) (n : UInt32),
        ArgumentType.number.read? (String.ofList (List.replicate zeros '0') ++ toString n) =
          some (.number n) := by
  have haddress : ∀ a : Address, ArgumentType.address.read? (toString a) = some (.address a) :=
    fun a => (read?_address_eq_some_iff _ _).2 ⟨a, rfl, rfl⟩
  refine ⟨read?_address_eq_some_iff text, read?_address_eq_some_iff text,
    fun a => (a.dotted_iff text).symm, fun a => ⟨haddress a, haddress a⟩,
    read?_number_eq_some_iff text, read?_number_eq_none_iff text, fun zeros n => ?_⟩
  have hdecimal : Text.Decimal (toString n).toList n.toNat := by
    rw [← Text.numeral?_eq_some_iff_decimal, Text.toList_number, Text.numeral?_toDigits]
  refine (read?_number_eq_some_iff _ _).2 ⟨n, rfl, ?_⟩
  rw [String.toList_append, String.toList_ofList]
  exact hdecimal.zeros zeros

end ArgumentType
end NetworkConsole
