import LedgerBench.Machine.Basic

/-! Changes of the files of a machine. -/

namespace LedgerBench.Machine

def newPlace (machine : Machine) (path : String) : Except SystemError String :=
  match machine.locate path with
  | none => .error .noSuchFile
  | some place =>
    if machine.directories.contains (parent place) then .ok place else .error .noSuchFile

/-- Writes a text to a place. A file that is there stays as executable as it is. -/
def write (machine : Machine) (place text : String) : Machine :=
  match machine.files.get? place with
  | some file => { machine with
      files := machine.files.insert place { file with content := .text text } }
  | none => { machine with files := machine.files.insert place (.ofText text false) }

def append (machine : Machine) (place text : String) : Machine :=
  machine.write place (((machine.files.get? place).map File.text).getD "" ++ text)

def touch (machine : Machine) (path : String) : Except SystemError Machine :=
  if machine.hasPath path then .ok machine
  else (machine.newPlace path).map fun place => machine.write place ""

def remove (machine : Machine) (path : String) : Except SystemError Machine :=
  match machine.locate path with
  | none => .error .noSuchFile
  | some place =>
    if machine.directories.contains place then .error .isDirectory
    else if machine.files.contains place then
      .ok { machine with files := machine.files.erase place }
    else .error .noSuchFile

def isWithin (place other : String) : Bool :=
  other == place || (place ++ "/").toList.isPrefixOf other.toList

def removeTree (machine : Machine) (place : String) : Machine :=
  { machine with
    files := (machine.files.keys.filter (isWithin place)).foldl Register.erase machine.files
    directories := machine.directories.filter fun d => !isWithin place d }

def makeDirectory (machine : Machine) (path : String) : Except SystemError Machine :=
  if machine.hasPath path then .error .fileExists
  else (machine.newPlace path).map fun place =>
    { machine with directories := machine.directories ++ [place] }

def makeDirectories (machine : Machine) (path : String) : Except SystemError Machine :=
  let names := (Path.components path).filter fun name => name != "/" && name != "."
  let start := if Path.isAbsolute path then "" else machine.directory
  (names.foldl (fun (made : Except SystemError (Machine × String)) name => do
    let (machine, place) ← made
    let next := if name = ".." then parent place else place ++ "/" ++ name
    if machine.files.contains next then .error .fileExists
    else if machine.directories.contains next then .ok (machine, next)
    else .ok ({ machine with directories := machine.directories ++ [next] }, next))
    (.ok (machine, start))).map (·.1)

def removeDirectory (machine : Machine) (path : String) : Except SystemError Machine :=
  match machine.locate path with
  | none => .error .noSuchFile
  | some place =>
    if machine.files.contains place then .error .notDirectory
    else if !machine.directories.contains place then .error .noSuchFile
    else if !(machine.namesIn place).isEmpty then .error .notEmpty
    else .ok (machine.removeTree place)

def renamed (before after name : String) : String :=
  if isWithin before name then after ++ String.ofList (name.toList.drop before.length) else name

/-- Gives a place another name, in place of what had that name. -/
def rename (machine : Machine) (before after : String) : Machine :=
  let cleared := if before = after then machine else machine.removeTree after
  { cleared with
    files := (cleared.files.entries.filter fun e => isWithin before e.1).foldl
      (fun files e => (files.erase e.1).insert (renamed before after e.1) e.2) cleared.files
    directories := cleared.directories.map (renamed before after) }

def setExecutable (machine : Machine) (place : String) (executable : Bool) : Machine :=
  { machine with files := machine.files.update place fun file => { file with executable } }

end LedgerBench.Machine
