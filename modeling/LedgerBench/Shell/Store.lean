import LedgerBench.Machine.Change
import LedgerBench.Shell.Command

/-! Where the streams of processes lead: to files, to devices, through pipes to other processes, or
to whoever started the first of them. -/

namespace LedgerBench.Shell

/-- Where a stream leads. Processes that share an opening share the place in the file. -/
inductive Stream where
  | outside
  | null
  | zero
  | full
  | source (pipe : Nat)
  | sink (pipe : Nat)
  | file (opening : Nat)
  | directory
  deriving Repr, DecidableEq

structure Opening where
  place : String
  position : Nat
  readable : Bool
  writable : Bool
  atEnd : Bool

structure Store where
  machine : Machine
  openings : Register Nat Opening
  pipes : Register Nat String
  next : Nat

namespace Store

def ofMachine (machine : Machine) : Store := ⟨machine, .empty, .empty, 0⟩

def makePipe (store : Store) : Nat × Store :=
  (store.next, { store with pipes := store.pipes.insert store.next "", next := store.next + 1 })

/-- Forgets the pipes and openings to which no stream leads. -/
def keepOnly (store : Store) (streams : List Stream) : Store :=
  let isKept := fun n => streams.any fun s => s == .source n || s == .sink n || s == .file n
  { store with
    openings := (store.openings.keys.filter fun n => !isKept n).foldl Register.erase store.openings
    pipes := (store.pipes.keys.filter fun n => !isKept n).foldl Register.erase store.pipes }

def modes : Access → Bool × Bool
  | .read => (true, false)
  | .update => (true, true)
  | _ => (false, true)

/-- Opens a path, seen from a directory. `own` tells where the streams of whoever opens it lead, and
`guarded` whether a file that is there must not be overwritten. -/
def openPath (store : Store) (directory : String) (own : Nat → Option Stream) (guarded : Bool)
    (access : Access) (path : String) : Except SystemError (Stream × Store) :=
  let machine := { store.machine with directory }
  let (readable, writable) := modes access
  let opened (machine : Machine) (place : String) : Stream × Store :=
    let opening : Opening := ⟨place, 0, readable, writable, access == .append⟩
    (.file store.next, { store with
      machine := { machine with directory := store.machine.directory }
      openings := store.openings.insert store.next opening
      next := store.next + 1 })
  match machine.locate path with
  | none => .error .noSuchFile
  | some place =>
    if machine.directories.contains place then
      if writable then .error .isDirectory else .ok (.directory, store)
    else
      match machine.files.get? place with
      | none =>
        if access == .read then .error .noSuchFile
        else (machine.newPlace path).map fun place => opened (machine.write place "") place
      | some file =>
        match file.content with
        | .device .null => .ok (.null, store)
        | .device .zero => .ok (.zero, store)
        | .device .full => .ok (.full, store)
        | .device (.stream n) =>
          match own n with
          | some stream => .ok (stream, store)
          | none => .error .noSuchFile
        | _ =>
          if access == .write && guarded then .error .fileExists
          else if access == .write || access == .overwrite then
            .ok (opened (machine.write place "") place)
          else .ok (opened machine place)

inductive Reading where
  | text (text : String) (store : Store)
  | finished
  | waits
  | refused (reason : SystemError)

inductive Writing where
  | done (store : Store)
  | waits
  | broken
  | refused (reason : SystemError)

def firstOf (lineOnly : Bool) (text : List Char) : List Char :=
  if lineOnly then
    let line := text.takeWhile (· != '\n')
    if line.length < text.length then line ++ ['\n'] else line
  else text

/-- Reads what is there, or only the first line of it. `isHeld` tells whether any process still
holds a stream. -/
def read (store : Store) (isHeld : Stream → Bool) (lineOnly : Bool) : Stream → Reading
  | .outside | .null => .finished
  | .zero => .text (String.ofList (List.replicate 4096 '\x00')) store
  | .full => .text (String.ofList (List.replicate 4096 '\x00')) store
  | .sink _ => .refused .permissionDenied
  | .directory => .refused .isDirectory
  | .source n =>
    match (store.pipes.get? n).getD "" with
    | "" => if isHeld (.sink n) then .waits else .finished
    | text =>
      let first := firstOf lineOnly text.toList
      let rest := String.ofList (text.toList.drop first.length)
      .text (String.ofList first) { store with pipes := store.pipes.insert n rest }
  | .file n =>
    match store.openings.get? n with
    | none => .finished
    | some opening =>
      if !opening.readable then .refused .permissionDenied
      else
        let text := ((store.machine.files.get? opening.place).map File.text).getD ""
        match firstOf lineOnly (text.toList.drop opening.position) with
        | [] => .finished
        | first =>
          let position := opening.position + first.length
          .text (String.ofList first)
            { store with openings := store.openings.insert n { opening with position } }

/-- How many characters a pipe holds before writers have to wait. -/
def pipeRoom : Nat := 65536

def overwritten (text : List Char) (position : Nat) (new : List Char) : List Char :=
  text.take position ++ List.replicate (position - text.length) '\x00' ++ new ++
    text.drop (position + new.length)

def write (store : Store) (isHeld : Stream → Bool) (text : String) : Stream → Writing
  | .outside | .null | .zero => .done store
  | .full => .refused .noSpace
  | .source _ | .directory => .refused .permissionDenied
  | .sink n =>
    if !isHeld (.source n) then .broken
    else
      let held := (store.pipes.get? n).getD ""
      if held.length < pipeRoom then
        .done { store with pipes := store.pipes.insert n (held ++ text) }
      else .waits
  | .file n =>
    match store.openings.get? n with
    | none => .done store
    | some opening =>
      if !opening.writable then .refused .permissionDenied
      else
        match store.machine.files.get? opening.place with
        | none => .done store
        | some file =>
          let old := file.text.toList
          let position := if opening.atEnd then old.length else opening.position
          let new := String.ofList (overwritten old position text.toList)
          .done { store with
            machine := store.machine.write opening.place new
            openings := store.openings.insert n
              { opening with position := position + text.length } }

end Store
end LedgerBench.Shell
