import NetworkConsole.Options
import NetworkConsole.Program

/-! The command line: reads the script or the terminal, and puts output, configuration files and
snapshot where they belong. -/
namespace NetworkConsole.Program

/-- Makes the directory if the store wants it, and writes the files of the store. -/
def writeFiles (store : DirectoryStore) : IO Unit := do
  if store.made && !store.directory.isEmpty then IO.FS.createDirAll store.directory
  for (path, content) in store.files.entries do
    IO.FS.writeFile path content

/-- Takes the step of one line and writes its files; the store in the session has none before it and
none behind it. Where the system refuses, the step is taken again with the reason in the store's way. -/
def commit {α : Type} (session : Session DirectoryStore)
    (step : Session DirectoryStore → α × Session DirectoryStore) :
    IO (α × Session DirectoryStore) := do
  let (answer, next) ← try
      let taken := step session
      writeFiles taken.2.store
      pure taken
    catch e =>
      let blocked := { session.store with obstacle := some (toString e) }
      pure (step { session with store := blocked })
  return (answer, { next with store := session.store })

/-- A line of a script with the file that it writes. -/
def submit (line : String) (session : Session DirectoryStore) : IO (Turn DirectoryStore) := do
  let (turn, next) ← commit session fun session =>
    let turn := session.submit .standard line
    (turn, turn.session)
  return { turn with session := next }

partial def listen (session : Session DirectoryStore) : IO (Session DirectoryStore) := do
  let stdout ← IO.getStdout
  stdout.putStr Conversation.prompt
  stdout.flush
  let input ← (← IO.getStdin).getLine
  if input.isEmpty then return session
  let (answer, next) ← commit session fun session =>
    match Conversation.hear .standard input session with
    | none => (none, session)
    | some (outcome, next) => (some outcome, next)
  match answer with
  | none => return session
  | some outcome =>
    stdout.putStr (Text.unlines (Conversation.reply outcome))
    listen next

def start (options : Options) : IO UInt32 := do
  let session : Session DirectoryStore :=
    { network := .empty, store := { directory := options.directory } }
  let (exitCode, last) ← match options.script with
    | none =>
      let last ← listen session
      (← IO.getStdout).putStr "\n"
      pure (0, last)
    | some path =>
      let lines := Script.commandLines (← IO.FS.readFile path)
      let result := scriptResult path (← Script.runLinesM submit options.stopOnError lines session)
      (← IO.getStdout).putStr result.stdout
      (← IO.getStderr).putStr result.stderr
      pure (result.exitCode, result.session)
  match options.snapshot with
  | none => pure ()
  | some file => IO.FS.writeFile file last.network.snapshot.document
  return exitCode

end NetworkConsole.Program

def main (arguments : List String) : IO UInt32 := do
  match NetworkConsole.Options.read arguments {} with
  | .ok options => NetworkConsole.Program.start options
  | .error reason =>
    (← IO.getStderr).putStrLn s!"error: {reason}"
    return 2
