/-! Stores keep the configurations that `save` hands out. -/
namespace NetworkConsole

inductive StoreError where
  /-- The operating system refused, for the given reason. -/
  | system (reason : String)
  | rejected (device reason : String)
  | invalidName (name : String)
  deriving DecidableEq

namespace StoreError

def text : StoreError → String
  | .system reason => s!"IO Error: {reason}"
  | .rejected device reason => s!"configuration of `{device}` was rejected: {reason}"
  | .invalidName name => s!"`{name}` is not a valid configuration file name"

instance : ToString StoreError := ⟨text⟩

end StoreError

class ConfigStore (σ : Type) where
  /-- Keeps the configuration of a device in place of an earlier one; answers with the store as it
  is left, also when it refuses. -/
  save : σ → String → List String → Except StoreError Unit × σ

end NetworkConsole
