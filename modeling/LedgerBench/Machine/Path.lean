import LedgerBench.Text.Blank

/-! Paths. A path with a single component may be a bare name, to be looked for on the search path.
-/

namespace LedgerBench.Machine.Path

def segments (path : String) : List String :=
  (Text.splitAtEach '/' path.toList).map String.ofList

def isAbsolute (path : String) : Bool :=
  path.toList.head? == some '/'

def components (path : String) : List String :=
  let names := (segments path).filter fun s => s != "" && s != "."
  if isAbsolute path then "/" :: names
  else if (segments path).head? == some "." then "." :: names
  else names

def join (directory name : String) : String :=
  if directory.isEmpty || isAbsolute name then name
  else if directory.toList.getLast? == some '/' then directory ++ name
  else directory ++ "/" ++ name

end LedgerBench.Machine.Path
