import NetworkConsole.Store.Basic
import NetworkConsole.Table

/-! Two stores without files: one keeps everything, the other refuses everything. -/
namespace NetworkConsole

structure MemoryStore where
  configs : Table (List String) := .empty

namespace MemoryStore

def get? (store : MemoryStore) (device : String) : Option (List String) := store.configs.get? device

def size (store : MemoryStore) : Nat := store.configs.size

def isEmpty (store : MemoryStore) : Bool := store.configs.isEmpty

instance : ConfigStore MemoryStore where
  save store device lines := (.ok (), ⟨store.configs.insert device lines⟩)

end MemoryStore

structure RefusingStore where
  reason : String

instance : ConfigStore RefusingStore where
  save store device _ := (.error (.rejected device store.reason), store)

end NetworkConsole
