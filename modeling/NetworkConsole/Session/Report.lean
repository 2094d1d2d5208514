import NetworkConsole.Session.Effect
import NetworkConsole.Session.Failure

/-! Reports made while lines are processed: what each stage made of its line, what was carried out,
and what the console noticed about itself. -/
namespace NetworkConsole

inductive Verdict where
  | passed
  | rejected (message : String)
  | storeFailed (message : String)
  | invariantViolated (message : String)
  deriving DecidableEq

def LineError.verdict (error : LineError) : Verdict :=
  match error.cause with
  | .internal _ => .invariantViolated error.text
  | .store _ => .storeFailed error.text
  | .recognition _ | .arguments _ | .constraint _ => .rejected error.text

/-- What a stage made of a line. -/
structure StageEvent where
  stage : Stage
  subject : String
  verdict : Verdict
  deriving DecidableEq

namespace StageEvent

def passed (line : String) (stage : Stage) : StageEvent := ⟨stage, line, .passed⟩

def failed (error : LineError) : StageEvent := ⟨error.stage, error.line, error.verdict⟩

def isPassed (event : StageEvent) : Bool := event.verdict = .passed

end StageEvent

/-- What the console reports besides its answers. -/
inductive Report where
  | stage (event : StageEvent)
  /-- A command of the kind was carried out. -/
  | carriedOut (kind : CommandKind) (effect : Effect)
  /-- A script ended early. -/
  | stopped (line : Nat)
  | missingHandler (kind : CommandKind)
  deriving DecidableEq

def Report.event? : Report → Option StageEvent
  | .stage event => some event
  | _ => none

end NetworkConsole
