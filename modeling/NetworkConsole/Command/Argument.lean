import NetworkConsole.Address.Mask
import NetworkConsole.Text.Letter

/-! Types of command arguments, and the typed values that argument texts denote. -/
namespace NetworkConsole

inductive ArgumentType where
  /-- Name of a device or hostname; device names are also file names. -/
  | name
  /-- Name of an interface, which may also have slashes and colons. -/
  | identifier
  | address
  /-- A contiguous subnet mask. -/
  | mask
  /-- An inverse mask, with any bits. -/
  | wildcard
  /-- An unsigned 32-bit number. -/
  | number
  /-- One of the given lowercase words, in any case. -/
  | keyword (options : List String)
  deriving DecidableEq

inductive Value where
  | identifier (text : String)
  | address (address : Address)
  | number (number : UInt32)
  | keyword (spelling : String)
  deriving DecidableEq

def isNameChar (c : Char) : Bool := c.isAlphanum || c == '_' || c == '-' || c == '.'

def isIdentifierChar (c : Char) : Bool := isNameChar c || c == '/' || c == ':'

/-- The first character is a letter or digit and all characters satisfy `rest`. -/
def isWord (rest : Char → Bool) (text : String) : Bool :=
  text.toList.head?.any Char.isAlphanum && text.toList.all rest

def isName (text : String) : Bool := isWord isNameChar text

def isIdentifier (text : String) : Bool := isWord isIdentifierChar text

namespace ArgumentType

/-- The value that `text` denotes under the type, if it has the type. -/
def read? (type : ArgumentType) (text : String) : Option Value :=
  match type with
  | .name => if isName text then some (.identifier text) else none
  | .identifier => if isIdentifier text then some (.identifier text) else none
  | .address | .wildcard => (Address.ofString? text).map .address
  | .mask => ((Address.ofString? text).filter Address.isContiguous).map .address
  | .number => (Text.number? text).map .number
  | .keyword options => (options.find? (· == Text.lower text)).map .keyword

/-- The type as it is named in messages. -/
def text : ArgumentType → String
  | .name => "a name"
  | .identifier => "an identifier"
  | .address => "an IPv4 address"
  | .mask => "a contiguous subnet mask"
  | .wildcard => "a wildcard mask"
  | .number => "an unsigned integer"
  | .keyword options => "one of " ++ String.intercalate "|" options

instance : ToString ArgumentType := ⟨text⟩

end ArgumentType
end NetworkConsole
