/-! Decimal numerals in ASCII digits. `number?` reads 32-bit numbers of any written length;
`octet?` reads the parts of a dotted address, where only the single digit zero may start with
zero. -/
namespace NetworkConsole.Text

/-- The value of a nonempty row of ASCII digits. -/
def numeral? (cs : List Char) : Option Nat :=
  if !cs.isEmpty && cs.all Char.isDigit then some (Nat.ofDigitChars 10 cs 0) else none

def number? (text : String) : Option UInt32 :=
  match numeral? text.toList with
  | some n => if n < UInt32.size then some (UInt32.ofNat n) else none
  | none => none

/-- A number below 256. -/
def octet? : List Char → Option Nat
  | '0' :: _ :: _ => none
  | cs =>
    match numeral? cs with
    | some n => if n < 256 then some n else none
    | none => none

end NetworkConsole.Text
