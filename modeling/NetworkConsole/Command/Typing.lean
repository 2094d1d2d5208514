import NetworkConsole.Command.Token

/-! Typing the arguments of a token: there must be one for each parameter, and each must denote a
value of the parameter's type. -/
namespace NetworkConsole

inductive ArgumentError where
  | wrongCount (kind : CommandKind) (given : Nat)
  /-- The argument at a position, counted from one, does not have the type of its parameter. -/
  | wrongType (kind : CommandKind) (position : Nat) (parameter : Parameter) (value : String)
  deriving DecidableEq

namespace ArgumentError

def text : ArgumentError → String
  | .wrongCount kind given =>
    let expected := kind.parameters.length
    let usage := kind.shape.usage
    s!"wrong number of arguments for `{kind}`: expected {expected}, got {given} (usage: {usage})"
  | .wrongType kind position parameter value =>
    s!"argument {position} <{parameter.name}> of `{kind}` must be {parameter.type}, got `{value}`"

instance : ToString ArgumentError := ⟨text⟩

end ArgumentError

namespace Token

/-- Reads arguments under their parameters; the position of the first one is `position`. -/
def readArguments (kind : CommandKind) :
    Nat → List Parameter → List String → Except ArgumentError (List Value)
  | position, parameter :: parameters, argument :: arguments =>
    match parameter.type.read? argument with
    | none => .error (.wrongType kind position parameter argument)
    | some value =>
      match readArguments kind (position + 1) parameters arguments with
      | .error e => .error e
      | .ok values => .ok (value :: values)
  | _, _, _ => .ok []

/-- The typed arguments: first their number is checked, then each type from left to right. -/
def values (token : Token) : Except ArgumentError (List Value) :=
  if token.arguments.length ≠ token.kind.parameters.length then
    .error (.wrongCount token.kind token.arguments.length)
  else readArguments token.kind 1 token.kind.parameters token.arguments

end Token
end NetworkConsole
