import NetworkConsole.Session.Submit

/-! Reports as records of a log, each with a level. -/
namespace NetworkConsole

inductive LogLevel where
  | error | warn | info | debug | trace
  deriving DecidableEq

namespace LogLevel

def text : LogLevel → String
  | .error => "ERROR"
  | .warn => "WARN"
  | .info => "INFO"
  | .debug => "DEBUG"
  | .trace => "TRACE"

instance : ToString LogLevel := ⟨text⟩

end LogLevel

structure LogRecord where
  level : LogLevel
  text : String
  deriving DecidableEq

def StageEvent.logRecord (event : StageEvent) : LogRecord :=
  match event.verdict with
  | .passed => ⟨.debug, s!"[{event.stage}] passed: {event.subject}"⟩
  | .rejected message => ⟨.info, s!"[{event.stage}] {message}"⟩
  | .storeFailed message => ⟨.warn, s!"[{event.stage}] {message}"⟩
  | .invariantViolated message => ⟨.error, s!"[{event.stage}] {message}"⟩

def Report.logRecord : Report → LogRecord
  | .stage event => event.logRecord
  | .carriedOut kind effect => ⟨.trace, s!"{kind.name}: {effect}"⟩
  | .stopped line => ⟨.debug, s!"Script stopped at line {line}"⟩
  | .missingHandler kind => ⟨.error, s!"No executor registered for `{kind}`"⟩

/-- What is reported of a table before the first line. -/
def Dispatch.reports {σ : Type} (table : Dispatch σ) : List Report :=
  table.missing.map .missingHandler

end NetworkConsole
