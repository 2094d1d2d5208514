import NetworkConsole.Command.Kind
import NetworkConsole.Text.Blank

/-! Tokens: lines recognised as a command with its arguments. A line is recognised by its first
words, which must be the keywords of a kind; the other words are the arguments. -/
namespace NetworkConsole

structure Token where
  kind : CommandKind
  arguments : List String
  /-- The line as it was given. -/
  raw : String
  deriving DecidableEq

inductive RecognitionError where
  | emptyLine
  | unrecognized
  deriving DecidableEq

namespace RecognitionError

def text : RecognitionError → String
  | .emptyLine => "empty command"
  | .unrecognized => "unrecognized command pattern"

instance : ToString RecognitionError := ⟨text⟩

end RecognitionError

namespace CommandKind

/-- Strips matching keywords from the front of a list of words. -/
def stripKeywords : List String → List String → Option (List String)
  | [], words => some words
  | _ :: _, [] => none
  | keyword :: keywords, word :: words =>
    if Text.folded word = keyword then stripKeywords keywords words else none

/-- The arguments that follow the keywords of the kind, if the words start with these. -/
def argumentsIn? (kind : CommandKind) (words : List String) : Option (List String) :=
  stripKeywords kind.keywords words

end CommandKind

namespace Token

/-- Recognises a line. -/
def ofLine (raw : String) : Except RecognitionError Token :=
  match Text.words raw with
  | [] => .error .emptyLine
  | words =>
    match CommandKind.matchOrder.findSome? fun kind => (kind.argumentsIn? words).map (kind, ·) with
    | some (kind, arguments) => .ok { kind, arguments, raw }
    | none => .error .unrecognized

end Token
end NetworkConsole
