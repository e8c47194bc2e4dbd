import LedgerBench.Machine.Path
import LedgerBench.Register

/-! The machine on which a harness runs, as far as it looks at it: files, settings and the working
directory. -/

namespace LedgerBench

inductive SystemError where
  | noSuchFile
  | badFormat
  | permissionDenied
  | fileExists
  | notDirectory
  | isDirectory
  | noSpace
  | notEmpty
  | tooManyLevels
  | networkUnreachable
  deriving Repr, DecidableEq

namespace SystemError

def reason : SystemError → String
  | .noSuchFile => "No such file or directory"
  | .badFormat => "Exec format error"
  | .permissionDenied => "Permission denied"
  | .fileExists => "File exists"
  | .notDirectory => "Not a directory"
  | .isDirectory => "Is a directory"
  | .noSpace => "No space left on device"
  | .notEmpty => "Directory not empty"
  | .tooManyLevels => "Too many levels of symbolic links"
  | .networkUnreachable => "Network is unreachable"

def number : SystemError → Nat
  | .noSuchFile => 2
  | .badFormat => 8
  | .permissionDenied => 13
  | .fileExists => 17
  | .notDirectory => 20
  | .isDirectory => 21
  | .noSpace => 28
  | .notEmpty => 39
  | .tooManyLevels => 40
  | .networkUnreachable => 101

def message (e : SystemError) : String :=
  e.reason ++ " (os error " ++ toString e.number ++ ")"

end SystemError

inductive Device where
  | null
  | zero
  | full
  | stream (number : Nat)
  deriving Repr, DecidableEq

inductive Content where
  | text (text : String)
  | device (device : Device)
  | tool (name : String)
  deriving Repr, DecidableEq

structure File where
  content : Content
  executable : Bool
  deriving Repr, DecidableEq

def File.ofText (text : String) (executable : Bool) : File :=
  ⟨.text text, executable⟩

/-- The text in a file, which is empty for what is no text. -/
def File.text (file : File) : String :=
  match file.content with
  | .text text => text
  | _ => ""

/-- A machine: files by their names from the root, the names of directories, of which the root is
the empty text, and the working directory. -/
structure Machine where
  files : Register String File
  directories : List String
  settings : Register String String
  directory : String

namespace Machine

def parent (place : String) : String :=
  String.ofList ((place.toList.reverse.dropWhile (· != '/')).tail).reverse

def ancestors : Nat → String → List String
  | 0, _ => []
  | fuel + 1, place => if place.isEmpty then [""] else place :: ancestors fuel (parent place)

def bare (directory : String) : Machine :=
  ⟨.empty, ancestors (directory.length + 1) directory, .empty, directory⟩

/-- Follows the segments of a path from a place. All but the last have to be directories. -/
def follow (machine : Machine) : String → List String → Option String
  | place, [] => some place
  | place, segment :: rest =>
    if machine.directories.contains place then
      if segment = "" ∨ segment = "." then follow machine place rest
      else if segment = ".." then follow machine (parent place) rest
      else follow machine (place ++ "/" ++ segment) rest
    else none

def locate (machine : Machine) (path : String) : Option String :=
  if path.isEmpty then none
  else if Path.isAbsolute path then machine.follow "" (Path.segments path).tail
  else machine.follow machine.directory (Path.segments path)

def file? (machine : Machine) (path : String) : Option File :=
  (machine.locate path).bind machine.files.get?

def isDirectory (machine : Machine) (path : String) : Bool :=
  (machine.locate path).any machine.directories.contains

def hasPath (machine : Machine) (path : String) : Bool :=
  (machine.file? path).isSome || machine.isDirectory path

def namesIn (machine : Machine) (place : String) : List String :=
  let start := (place ++ "/").toList
  let inside := (machine.directories ++ machine.files.keys).filterMap fun other =>
    if start.isPrefixOf other.toList then
      let name := other.toList.drop start.length
      if name.isEmpty || name.contains '/' then none else some (String.ofList name)
    else none
  (inside.mergeSort fun a b => decide (a ≤ b)).eraseReps

def setting? (machine : Machine) (name : String) : Option String :=
  machine.settings.get? name

def withSetting (machine : Machine) (name value : String) : Machine :=
  { machine with settings := machine.settings.insert name value }

def putFile (machine : Machine) (path : String) (file : File) : Machine :=
  let place := Path.join machine.directory path
  let needed := ancestors (place.length + 1) (parent place)
  { machine with
    files := machine.files.insert place file
    directories :=
      machine.directories ++ needed.filter fun d => !machine.directories.contains d }

end Machine
end LedgerBench
