/-! Paths as texts, and the components that they are read as on Unix. Slashes stand between the
components; an empty component and one that names the directory where it stands say nothing, the
latter except at the front. -/
namespace NetworkConsole.Path

inductive Component where
  | root
  /-- The directory where the path starts. -/
  | current
  | parent
  | entry (name : String)
  deriving DecidableEq

/-- The texts between the slashes. -/
def pieces (path : String) : List String := (path.toList.splitOn '/').map String.ofList

def isAbsolute (path : String) : Bool := path.toList.head? == some '/'

/-- What comes before the components of the pieces. -/
def front (path : String) : List Component :=
  if isAbsolute path then [.root]
  else if (pieces path).head? = some "." then [.current]
  else []

def component? (piece : String) : Option Component :=
  if piece = "" ∨ piece = "." then none
  else if piece = ".." then some .parent
  else some (.entry piece)

def components (path : String) : List Component :=
  front path ++ (pieces path).filterMap component?

/-- The path of a file as seen from where the directory is seen. An absolute one is the same from
everywhere. -/
def join (directory file : String) : String :=
  if isAbsolute file || directory.isEmpty then file
  else if directory.toList.getLast? = some '/' then directory ++ file
  else directory ++ "/" ++ file

end NetworkConsole.Path
