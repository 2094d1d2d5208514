import NetworkConsole.Session.Dispatch
import NetworkConsole.Session.Report

/-! Submitting a line: recognition, arguments, constraints, dispatch and execution, until the first
stage that fails. -/
namespace NetworkConsole

abbrev LineOutcome := Except LineError Answer

/-- The processing of one line. -/
structure Turn (σ : Type) where
  outcome : LineOutcome
  session : Session σ
  reports : List Report

namespace Turn
variable {σ : Type}

def failed (turn : Turn σ) : Bool :=
  match turn.outcome with
  | .ok _ => false
  | .error _ => true

/-- A line that fails after the given stages. -/
def fail (line : String) (passed : List Stage) (cause : Cause) (session : Session σ) : Turn σ where
  outcome := .error ⟨line, cause⟩
  session
  reports :=
    passed.map (fun stage => .stage (.passed line stage)) ++ [.stage (.failed ⟨line, cause⟩)]

/-- A line that passes all stages. -/
def succeed (line : String) (kind : CommandKind) (answer : Answer) (session : Session σ) :
    Turn σ where
  outcome := .ok answer
  session
  reports :=
    Stage.all.map (fun stage => .stage (.passed line stage)) ++ [.carriedOut kind answer.effect]

end Turn

namespace Session
variable {σ : Type}

/-- Processes one line with the handlers of a table. -/
def submit (table : Dispatch σ) (line : String) (session : Session σ) : Turn σ :=
  match Token.ofLine line with
  | .error e => .fail line [] (.recognition e) session
  | .ok token =>
    match token.command with
    | .error cause => .fail line [.recognition] cause session
    | .ok command =>
      match command.check session.network with
      | .error e => .fail line [.recognition, .arguments] (.constraint e) session
      | .ok () =>
        match table.find command.kind with
        | .error e => .fail line [.recognition, .arguments, .constraints] (.internal e) session
        | .ok handler =>
          match handler ⟨token.raw, command⟩ session with
          | (.error e, session) =>
            .fail line [.recognition, .arguments, .constraints, .dispatch] e.cause session
          | (.ok answer, session) => .succeed line command.kind answer session

/-- The turns of some lines, each from the session that the one before leaves. -/
def turns (table : Dispatch σ) : List String → Session σ → List (Turn σ)
  | [], _ => []
  | line :: lines, session =>
    let turn := session.submit table line
    turn :: turns table lines turn.session

/-- The session after some lines. -/
def after (table : Dispatch σ) (lines : List String) (session : Session σ) : Session σ :=
  lines.foldl (fun session line => (session.submit table line).session) session

theorem after_append (table : Dispatch σ) (xs ys : List String) (session : Session σ) :
    session.after table (xs ++ ys) = (session.after table xs).after table ys := by
  simp [after, List.foldl_append]

end Session
end NetworkConsole
