import NetworkConsole.Session.Script

/-! Conversations: lines read one by one after a prompt, until `exit`, `quit` or the end of the
input. Failures are shown and end nothing. -/
namespace NetworkConsole

namespace Conversation

def isFarewell (line : String) : Bool := line == "exit" || line == "quit"

structure Run (σ : Type) where
  /-- What came of each line read before the end; nothing of a line that is passed over. -/
  outcomes : List (Option LineOutcome)
  session : Session σ

variable {σ : Type}

/-- Takes one line without the blanks around it; the conversation ends where this is `none`. -/
def hear (table : Dispatch σ) (line : String) (session : Session σ) :
    Option (Option LineOutcome × Session σ) :=
  let line := Text.trim line
  if isFarewell line then none
  else if isSkipped line then some (none, session)
  else
    let turn := session.submit table line
    some (some turn.outcome, turn.session)

def run (table : Dispatch σ) : List String → Session σ → Run σ
  | [], session => ⟨[], session⟩
  | line :: lines, session =>
    match hear table line session with
    | none => ⟨[], session⟩
    | some (outcome, session) =>
      let rest := run table lines session
      ⟨outcome :: rest.outcomes, rest.session⟩

def prompt : String := "netdsl> "

/-- The lines shown after an input line. -/
def reply : Option LineOutcome → List String
  | none => []
  | some (.ok answer) => answer.output
  | some (.error e) => [e.text]

/-- All that a conversation shows. -/
def Run.transcript (run : Run σ) : String :=
  String.join (run.outcomes.map fun outcome => prompt ++ Text.unlines (reply outcome)) ++
    prompt ++ "\n"

end Conversation
end NetworkConsole
