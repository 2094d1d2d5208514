import NetworkConsole.Session.Failure

/-! Instructions: commands that a network admits, with the lines that they came from. -/
namespace NetworkConsole

/-- A command that passed all checks, with the line that it came from. -/
structure Instruction where
  raw : String
  command : Command
  deriving DecidableEq

def Instruction.kind (instruction : Instruction) : CommandKind := instruction.command.kind

namespace Token

/-- The command of a token, by its arguments alone. -/
def command (token : Token) : Except Cause Command :=
  match token.values with
  | .error e => .error (.arguments e)
  | .ok values =>
    match Command.build token.kind values with
    | .error e => .error (.internal (.argumentMismatch e))
    | .ok command => .ok command

/-- The checked command of a token in the given network. -/
def instruction (net : Network) (token : Token) : Except Cause Instruction :=
  match token.command with
  | .error cause => .error cause
  | .ok command =>
    match command.check net with
    | .error e => .error (.constraint e)
    | .ok () => .ok ⟨token.raw, command⟩

end Token
end NetworkConsole
