import NetworkConsole.Network.Snapshot
import NetworkConsole.Session.Conversation
import NetworkConsole.Store.Directory

/-! The program as a function of its input: what a script file or a conversation writes to the two
output streams, to the configuration directory and to the snapshot file. -/
namespace NetworkConsole.Program

structure Result where
  exitCode : UInt32
  stdout : String
  stderr : String
  session : Session DirectoryStore

/-- The document written to the snapshot file. -/
def Result.snapshot (result : Result) : String := result.session.network.snapshot.document

/-- What a script shows on the standard output: the answers of the successful lines. -/
def scriptOutput (outcomes : List (Nat × LineOutcome)) : String :=
  Text.unlines <| outcomes.flatMap fun
    | (_, .ok answer) => answer.output
    | (_, .error _) => []

/-- One line for each failure, with the place where it happened. -/
def scriptErrors (path : String) (outcomes : List (Nat × LineOutcome)) : List String :=
  outcomes.filterMap fun
    | (_, .ok _) => none
    | (number, .error e) => some s!"{path}:{number}: {e}"

/-- The last words of a run with failures. -/
def failureNotice (failed : Nat) : String := s!"Error: ScriptFailed \x7b failed: {failed} \x7d"

/-- What comes of the run of a script. -/
def scriptResult (path : String) (run : Script.Run DirectoryStore) : Result :=
  let errors := scriptErrors path run.outcomes
  { exitCode := if errors.isEmpty then 0 else 1
    stdout := scriptOutput run.outcomes
    stderr :=
      Text.unlines (if errors.isEmpty then [] else errors ++ [failureNotice errors.length])
    session := run.session }

def runScript (path : String) (stopOnError : Bool) (script : String)
    (session : Session DirectoryStore) : Result :=
  scriptResult path (Script.run .standard stopOnError script session)

def converse (input : String) (session : Session DirectoryStore) : Result :=
  let run := Conversation.run .standard (Text.lines input) session
  { exitCode := 0, stdout := run.transcript, stderr := "", session := run.session }

end NetworkConsole.Program
