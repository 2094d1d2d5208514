import NetworkConsole.Command.Build
import NetworkConsole.Command.Constraint
import NetworkConsole.Command.Typing
import NetworkConsole.Store.Basic

/-! Why a line fails: it is no command, its arguments do not fit, the network does not allow it, the
console contradicts itself, or the configuration cannot be stored. Each cause belongs to a stage of
the line. -/
namespace NetworkConsole

/-- The stages of a line, in the order in which it passes them. -/
inductive Stage where
  | recognition | arguments | constraints | dispatch | execution
  deriving DecidableEq

namespace Stage

def all : List Stage := [.recognition, .arguments, .constraints, .dispatch, .execution]

def text : Stage → String
  | .recognition => "lexer"
  | .arguments => "syntax"
  | .constraints => "semantic"
  | .dispatch => "dispatch"
  | .execution => "execution"

instance : ToString Stage := ⟨text⟩

end Stage

/-- Contradictions inside the console; no line causes them on its own. -/
inductive InternalError where
  | noHandler (kind : CommandKind)
  | unexpectedCommand (handler given : CommandKind)
  | argumentMismatch (mismatch : Command.Mismatch)
  | network (error : NetworkError)
  deriving DecidableEq

namespace InternalError

def text : InternalError → String
  | .noHandler kind => s!"no executor registered for `{kind}`"
  | .unexpectedCommand handler given => s!"executor for `{handler}` received a `{given}` command"
  | .argumentMismatch ⟨kind, position⟩ =>
    s!"argument {position} of `{kind}` does not have the declared type"
  | .network error => s!"network rejected a validated command: {error}"

instance : ToString InternalError := ⟨text⟩

end InternalError

/-- Why carrying out a command fails. -/
inductive ExecutionError where
  | internal (error : InternalError)
  | store (error : StoreError)
  deriving DecidableEq

inductive Cause where
  | recognition (error : RecognitionError)
  | arguments (error : ArgumentError)
  | constraint (error : ConstraintError)
  | internal (error : InternalError)
  | store (error : StoreError)
  deriving DecidableEq

namespace Cause

/-- The stage that the cause belongs to. -/
def stage : Cause → Stage
  | .recognition _ => .recognition
  | .arguments _ => .arguments
  | .constraint _ => .constraints
  | .internal (.noHandler _) => .dispatch
  | .internal (.argumentMismatch _) => .arguments
  | .internal _ | .store _ => .execution

def text : Cause → String
  | .recognition error => s!"Lexical Error: {error}"
  | .arguments error => s!"Syntax Error: {error}"
  | .constraint error => s!"Semantic Error: {error}"
  | .internal error => s!"Internal Error: {error}"
  | .store error => s!"Store Error: {error}"

end Cause

def ExecutionError.cause : ExecutionError → Cause
  | .internal error => .internal error
  | .store error => .store error

/-- Why a line failed, with the line. -/
structure LineError where
  line : String
  cause : Cause
  deriving DecidableEq

namespace LineError

def stage (error : LineError) : Stage := error.cause.stage

def text (error : LineError) : String := s!"{error.cause.text} (in `{error.line}`)"

instance : ToString LineError := ⟨text⟩

/-- The console contradicts itself; no other input would help. -/
def isInternal (error : LineError) : Bool :=
  match error.cause with
  | .internal _ => true
  | _ => false

/-- A corrected line can succeed. -/
def isUserError (error : LineError) : Bool :=
  match error.cause with
  | .recognition _ | .arguments _ | .constraint _ => true
  | .internal _ | .store _ => false

end LineError
end NetworkConsole
