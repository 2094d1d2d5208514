/-! Options of the command line. -/
namespace NetworkConsole

structure Options where
  /-- The script to run; without one the console converses. -/
  script : Option String := none
  /-- Where `save` puts configuration files. -/
  directory : String := "."
  /-- Where the snapshot goes when all is done. -/
  snapshot : Option String := none
  stopOnError : Bool := false
  deriving DecidableEq

namespace Options

/-- Reads options and at most one script, in any order. -/
def read : List String → Options → Except String Options
  | [], options => .ok options
  | "--stop-on-error" :: rest, options => read rest { options with stopOnError := true }
  | "-o" :: directory :: rest, options => read rest { options with directory }
  | "--output-dir" :: directory :: rest, options => read rest { options with directory }
  | "-s" :: file :: rest, options => read rest { options with snapshot := some file }
  | "--snapshot" :: file :: rest, options => read rest { options with snapshot := some file }
  | argument :: rest, options =>
    if argument.toList.head? = some '-' then .error s!"unexpected option {argument}"
    else
      match options.script with
      | none => read rest { options with script := some argument }
      | some _ => .error s!"unexpected argument {argument}"

end Options
end NetworkConsole
