import NetworkConsole.Store.Basic
import NetworkConsole.Store.Path
import NetworkConsole.Table
import NetworkConsole.Text.Line

/-! A directory of configuration files, one for each device and named after it. The directory is made
when it is first needed. The limits on names are those of common file systems: 255 bytes and no null
character. -/
namespace NetworkConsole

structure DirectoryStore where
  /-- The directory, as seen from where the console runs; the empty text is the place itself. -/
  directory : String := ""
  /-- Why the directory cannot be made, if it cannot. -/
  obstacle : Option String := none
  /-- The directory is there. -/
  made : Bool := false
  /-- File contents by path. -/
  files : Table String := .empty

namespace DirectoryStore

def fileName (device : String) : String := device ++ ".cfg"

/-- The path of the file of a device. -/
def path (store : DirectoryStore) (device : String) : String :=
  Path.join store.directory (fileName device)

/-- The name is a single path component below the directory. -/
def isFileName (name : String) : Bool :=
  (name.toList.all fun c => c != '/' && c != '\\' && c != ':') &&
    match Path.components name with
    | [.entry _] => true
    | _ => false

/-- Why the system refuses to write a file of this name, if it does. -/
def refusal? (store : DirectoryStore) (file : String) : Option String :=
  if store.obstacle.isSome then store.obstacle
  else if file.toList.contains '\x00' then some "file name contained an unexpected NUL byte"
  else if 255 < file.utf8ByteSize then some "File name too long (os error 36)"
  else none

/-- The lines joined by line feeds, with one more at the end. -/
def content (lines : List String) : String := String.intercalate "\n" lines ++ "\n"

instance : ConfigStore DirectoryStore where
  save store device lines :=
    if !isFileName device then (.error (.invalidName device), store)
    else
      let store := { store with made := store.made || store.obstacle.isNone }
      match store.refusal? (fileName device) with
      | some reason => (.error (.system reason), store)
      | none =>
        let files := store.files.insert (store.path device) (content lines)
        (.ok (), { store with files })

end DirectoryStore
end NetworkConsole
