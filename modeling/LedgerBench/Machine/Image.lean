import LedgerBench.Machine.Basic

/-! Programs: where they are found, and what the machine runs for them. -/

namespace LedgerBench

/-- A tool of the machine with the arguments that it gets, its own name being the first. -/
structure Image where
  tool : String
  arguments : List String
  deriving Repr, DecidableEq

namespace Machine

def searchPath (machine : Machine) : List String :=
  match machine.setting? "PATH" with
  | none => []
  | some text => (Text.splitAtEach ':' text.toList).map String.ofList

/-- A path with the home directory in place of a `~` that is its first component. -/
def withHome (machine : Machine) (path : String) : String :=
  match Path.components path, machine.setting? "HOME" with
  | "~" :: rest, some home => if home.isEmpty then path else rest.foldl Path.join home
  | _, _ => path

/-- A path from the root. One from the working directory is written by its components, without a
point at its start. -/
def absolute (machine : Machine) (path : String) : String :=
  if Path.isAbsolute path then path
  else
    let base := if machine.directory.isEmpty then "/" else machine.directory
    ((Path.components path).dropWhile (· == ".")).foldl Path.join base

/-- The first executable file of a name on the search path, on which `~` is the home directory. -/
def which (machine : Machine) (name : String) : Option String :=
  (machine.searchPath.map fun directory =>
    machine.absolute (Path.join (machine.withHome directory) name)).find? fun path =>
      (machine.file? path).any File.executable

/-- The path of what reads a script, and the argument that it gets before the path of the script, by
the line after the mark at the very beginning. -/
def interpreter? (text : String) : Option (String × Option String) :=
  match text.toList with
  | '#' :: '!' :: rest =>
    let isGap := fun c => c == ' ' || c == '\t'
    let line := ((rest.takeWhile (· != '\n')).dropWhile isGap).reverse.dropWhile isGap
    let path := line.reverse.takeWhile fun c => !isGap c
    let argument := (line.reverse.drop path.length).dropWhile isGap
    if path.isEmpty then none
    else some (String.ofList path,
      if argument.isEmpty then none else some (String.ofList argument))
  | _ => none

/-- How many scripts in a row may be read by another script. -/
def levelLimit : Nat := 5

def imageWithin (machine : Machine) : Nat → String → List String → Except SystemError Image
  | 0, _, _ => .error .tooManyLevels
  | level + 1, path, arguments =>
    match machine.file? path with
    | none => .error (if machine.isDirectory path then .permissionDenied else .noSuchFile)
    | some file =>
      if !file.executable then .error .permissionDenied
      else
        match file.content with
        | .tool name => .ok ⟨name, path :: arguments⟩
        | .device _ => .error .permissionDenied
        | .text text =>
          match interpreter? text with
          | none => .error .badFormat
          | some (reader, argument) =>
            machine.imageWithin level reader (argument.toList ++ path :: arguments)

/-- What is run for the file at a path, which calls itself by a name of its own if it is no script.
-/
def imageAt (machine : Machine) (path : String) (arguments : List String) :
    Except SystemError Image :=
  machine.imageWithin levelLimit path arguments

/-- What is run for the first of some paths that can be run. What may not be executed is passed
by, but tells in the end why nothing was found. -/
def firstImage (machine : Machine) (arguments : List String) (reason : SystemError) :
    List String → Except SystemError Image
  | [] => .error reason
  | path :: rest =>
    match machine.imageAt path arguments with
    | .error .noSuchFile => firstImage machine arguments reason rest
    | .error .permissionDenied => firstImage machine arguments .permissionDenied rest
    | found => found

/-- What a program runs. A name with a slash is a path, and any other name is looked for on the
search path. -/
def program (machine : Machine) (name : String) (arguments : List String) :
    Except SystemError Image :=
  if name.isEmpty then .error .noSuchFile
  else if name.toList.contains '/' then machine.imageAt name arguments
  else machine.firstImage arguments .noSuchFile
    (machine.searchPath.map fun place => Path.join place name)

end Machine
end LedgerBench
