import NetworkConsole.Session.Submit
import NetworkConsole.Text.Line

/-! Scripts: texts of one command on each line. Blank lines and comments, which start with `!` or
`#`, are passed over. -/
namespace NetworkConsole

def isSkipped (line : String) : Bool :=
  match (Text.trim line).toList with
  | [] => true
  | c :: _ => c == '!' || c == '#'

namespace Script

/-- The lines of a script that are not passed over, each with its number, counted from one. -/
def commandLines (script : String) : List (Nat × String) :=
  (((Text.lines script).zipIdx 1).filter fun entry => !isSkipped entry.1).map Prod.swap

/-- The processing of a script. -/
structure Run (σ : Type) where
  /-- The outcome of each processed line, with its number. -/
  outcomes : List (Nat × LineOutcome)
  session : Session σ
  reports : List Report

variable {σ : Type}

/-- Processes numbered lines one after the other, each by `submit`; with `stopOnError` the first failing
line is the last one. -/
def runLinesM {m : Type → Type} [Monad m] (submit : String → Session σ → m (Turn σ))
    (stopOnError : Bool) : List (Nat × String) → Session σ → m (Run σ)
  | [], session => pure ⟨[], session, []⟩
  | (number, line) :: rest, session => do
    let turn ← submit line session
    if turn.failed && stopOnError then
      return ⟨[(number, turn.outcome)], turn.session, turn.reports ++ [.stopped number]⟩
    else
      let run ← runLinesM submit stopOnError rest turn.session
      return ⟨(number, turn.outcome) :: run.outcomes, run.session, turn.reports ++ run.reports⟩

/-- Processes numbered lines with the handlers of a table. -/
def runLines (table : Dispatch σ) (stopOnError : Bool) (lines : List (Nat × String))
    (session : Session σ) : Run σ :=
  Id.run (runLinesM (fun line session => pure (session.submit table line)) stopOnError lines session)

def run (table : Dispatch σ) (stopOnError : Bool) (script : String) (session : Session σ) : Run σ :=
  runLines table stopOnError (commandLines script) session

end Script
end NetworkConsole
