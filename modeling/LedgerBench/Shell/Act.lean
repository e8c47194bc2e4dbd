import LedgerBench.Shell.Glob
import LedgerBench.Shell.Process
import LedgerBench.Shell.Signal

/-! What a shell does in one step: it changes itself, its process and what processes share, and asks
the system for what concerns other processes. -/

namespace LedgerBench.Shell

structure Surroundings where
  process : Process
  store : Store
  nextNumber : Nat
  isHeld : Stream → Bool
  exists? : Nat → Bool
  requests : List Request
  next : Option Activity

def Surroundings.isHeldAnywhere (s : Surroundings) (stream : Stream) : Bool :=
  s.isHeld stream || s.process.holds stream

abbrev Move (α : Type) := StateM Surroundings α

namespace Move

/-! ### Times -/

def lookTime : Nat := 1
def commandTime : Nat := 2
def forkTime : Nat := 300
def startTime : Nat := 600

def spend (micros : Nat) : Move Unit :=
  modify fun s => { s with process := { s.process with wakes := s.process.wakes + micros } }

def block : Move Unit :=
  modify fun s => { s with process := { s.process with isBlocked := true } }

def request (r : Request) : Move Unit :=
  modify fun s => { s with requests := s.requests ++ [r] }

def finish (status : Nat) : Move Unit :=
  request (.finish (.exited (UInt8.ofNat status)))

def machine : Move Machine := do
  let s ← get
  return { s.store.machine with directory := s.process.directory }

/-! ### Processes -/

def split (activity : Activity) (streams : Register Nat Stream) (ignored : List Nat)
    (micros : Nat) : Move Nat := do
  let s ← get
  let number := s.nextNumber
  request (.spawn { s.process with
    number
    parent := s.process.number
    streams
    ignored := s.process.ignored ++ ignored
    pending := []
    children := []
    activity
    wakes := s.process.wakes + micros })
  modify fun s => { s with
    nextNumber := number + 1
    process := { s.process with children := (number, none) :: s.process.children } }
  spend forkTime
  return number

def start (image : Image) (settings : List (String × String)) (streams : Register Nat Stream) :
    Move Nat := do
  let s ← get
  let activity := activityOf s.store.machine s.nextNumber s.process.number s.process.directory
    settings image
  split activity (Process.ownStreams streams) [] (forkTime + startTime)

def become (image : Image) (settings : List (String × String)) : Move Unit :=
  modify fun s =>
    let p := s.process
    { s with
      process := { p with
        streams := Process.ownStreams p.streams
        pending := []
        wakes := p.wakes + startTime }
      next := some (activityOf s.store.machine p.number p.parent p.directory settings image) }

inductive Written where
  | done
  | waits
  | ended
  | refused
  deriving Repr, DecidableEq

def write (stream : Nat) (text : String) : Move Written := do
  let s ← get
  match s.process.streams.get? stream with
  | none => return .refused
  | some target =>
    match s.store.write s.isHeldAnywhere text target with
    | .done store =>
      set { s with store }
      return .done
    | .waits =>
      block
      return .waits
    | .broken =>
      if s.process.ignored.contains Signal.brokenPipe then return .refused
      else
        request (.finish (.signaled (UInt8.ofNat Signal.brokenPipe)))
        return .ended
    | .refused _ => return .refused

/-- Reads what is there, or the first line of it. It is `none` as long as nothing is there, and
empty at the end. -/
def read (stream : Nat) (lineOnly : Bool) : Move (Option String) := do
  let s ← get
  match (s.process.streams.get? stream).map (s.store.read s.isHeldAnywhere lineOnly) with
  | some (.text text store) =>
    set { s with store }
    return some text
  | some .waits =>
    block
    return none
  | _ => return some ""

end Move

structure Situation extends Surroundings where
  shell : Interpreter

abbrev Act (α : Type) := StateM Situation α

instance : MonadLift (StateM Surroundings) (StateM Situation) where
  monadLift move s :=
    let (a, after) := move s.toSurroundings
    (a, { s with toSurroundings := after })

namespace Act

open Move (spend block request machine)

/-! ### Frames -/

def changeShell (f : Interpreter → Interpreter) : Act Unit :=
  modify fun s => { s with shell := f s.shell }

def changeScope (f : Scope → Scope) : Act Unit :=
  changeShell fun shell => { shell with scope := f shell.scope }

def scope : Act Scope :=
  return (← get).shell.scope

def setStatus (status : Nat) : Act Unit :=
  changeScope fun scope => { scope with status }

def push (frame : Frame) : Act Unit :=
  changeShell fun shell => { shell with frames := frame :: shell.frames }

def run (command : Command) (tested : Bool) : Act Unit :=
  push (.run command tested [] none)

def undo (s : Situation) : Frame → Situation
  | .streams saved =>
    let old := s.process.streams
    let streams := saved.foldl (fun (r : Register Nat Stream) (n, kept) =>
      match kept.bind old.get? with
      | some stream => (r.insert n stream).erase (kept.getD 0)
      | none => r.erase n) old
    { s with process := { s.process with streams } }
  | .bindings saved =>
    let scope := saved.foldl (fun scope (name, v) => scope.restore name v) s.shell.scope
    { s with shell := { s.shell with scope } }
  | .leave args optionPlace saved =>
    let scope := saved.foldl (fun scope (name, v) => scope.restore name v) s.shell.scope
    { s with shell := { s.shell with scope := { scope with args, optionPlace } } }
  | .collect stream _ _ _ =>
    { s with process := { s.process with streams := s.process.streams.erase stream } }
  | _ => s

def unwindFrom (isLast : Frame → Bool) : List Frame → Situation → Situation
  | [], s => { s with shell := { s.shell with frames := [] } }
  | frame :: rest, s =>
    if isLast frame then { s with shell := { s.shell with frames := frame :: rest } }
    else unwindFrom isLast rest (undo s frame)

def unwind (isLast : Frame → Bool) : Act Unit :=
  modify fun s => unwindFrom isLast s.shell.frames s

def pop : Act Unit :=
  modify fun s =>
    match s.shell.frames with
    | [] => s
    | frame :: rest => undo { s with shell := { s.shell with frames := rest } } frame

/-! ### The end -/

def quit (status : Nat) : Act Unit := do
  unwind fun _ => false
  setStatus status
  let traps := (← get).shell.traps
  match traps.get? 0 with
  | none | some "" => Move.finish status
  | some text =>
    changeShell fun shell => { shell with
      traps := traps.erase 0
      frames := [.source (.ofText text) .text false false, .finish status] }

def complain (text : String) : Act Unit := do
  let s ← get
  match s.process.streams.get? 2 with
  | none => return ()
  | some stream =>
    let line := s.shell.scope.program ++ ": " ++ text ++ "\n"
    match s.store.write s.isHeldAnywhere line stream with
    | .done store => modify fun s => { s with store }
    | _ => return ()

def abort (fault : Fault) : Act Unit := do
  complain fault.message
  quit Fault.status

def checkStatus (tested : Bool) : Act Unit := do
  let scope ← scope
  if !tested && scope.status != 0 && scope.has 'e' then quit scope.status

def emit (stream : Nat) (text : String) (status : Nat) : Act Unit := do
  if text.isEmpty then setStatus status
  else
    match ← Move.write stream text with
    | .done => setStatus status
    | .waits => push (.emit stream text status)
    | .ended => return ()
    | .refused =>
      complain "I/O error"
      setStatus (max status 1)

/-! ### Processes -/

def loopDepth (shell : Interpreter) : Nat :=
  let inner := shell.frames.takeWhile fun
    | .leave .. => false
    | _ => true
  let loops := inner.filter fun
    | .condition .. | .again .. | .each .. => true
    | _ => false
  loops.length + (if inner.length = shell.frames.length then shell.outerLoops else 0)

/-- A shell as it goes on in a process of its own: it does nothing at signals but ignore those that
it has ignored. -/
def branchShell (shell : Interpreter) (frames : List Frame) : Interpreter :=
  { shell with
    traps := (shell.traps.keys.filter fun n => shell.traps.get? n != some "").foldl
      Register.erase shell.traps
    jobs := []
    outerLoops := loopDepth shell
    frames }

def dropJobs (isDropped : Job → Bool) : Act Unit := do
  let (dropped, kept) := (← get).shell.jobs.partition isDropped
  changeShell fun shell => { shell with jobs := kept }
  modify fun s => { s with process := s.process.forget (dropped.flatMap Job.processes) }

/-- Finds a number for commands that are started together: the first one that no job has, or only
one that has ended and that the shell has waited for. Such a job is forgotten. -/
def jobNumber : Act Nat := do
  let s ← get
  let isTaken (n : Nat) : Bool :=
    s.shell.jobs.any fun job => job.number == n && !(job.isKnown && s.process.hasEnded job)
  let number := ((List.range' 1 (s.shell.jobs.length + 1)).find? fun n => !isTaken n).getD 1
  dropJobs fun job => job.number == number
  return number

def fork (frames : List Frame) (streams : Register Nat Stream) (ignored : List Nat) : Act Nat := do
  let shell := (← get).shell
  Move.split (.shell (branchShell shell frames)) streams ignored Move.forkTime

def findImage (name : String) (args : List String) : Act (Except Nat Image) := do
  let machine ← machine
  let scope ← scope
  let image (path : String) : Except SystemError Image :=
    match machine.imageAt path args with
    | .error .badFormat => .ok ⟨"sh", "sh" :: path :: args⟩
    | found => found
  if name.toList.contains '/' then
    match image name with
    | .ok found => return .ok found
    | .error .noSuchFile => return .error 127
    | .error _ => return .error 126
  else
    let places := (Text.splitAtEach ':' ((scope.lookUp? "PATH").getD "").toList).map String.ofList
    let paths := (places.map fun place => Machine.Path.join place name).filter fun path =>
      !name.isEmpty && (machine.file? path).isSome
    match paths.map image with
    | [] => return .error 127
    | images =>
      match images.find? fun found => found matches .ok _ with
      | some (.ok found) => return .ok found
      | _ => return .error (if images.all (· matches .error .noSuchFile) then 127 else 126)

def explain (name : String) (status : Nat) : String :=
  name ++ (if status = 127 then ": not found" else ": Permission denied")

/-! ### Redirections -/

inductive Target where
  | file (stream : Nat) (access : Access) (path : String)
  | copy (stream : Nat) (source : Option Nat)
  | text (stream : Nat) (body : String)
  deriving Repr, DecidableEq

def Target.stream : Target → Nat
  | .file n .. | .copy n _ | .text n _ => n

def target : Redirect → Expand Target
  | .file stream access name => return .file stream access (← Expand.wholeText false name)
  | .text stream body => return .text stream (← Expand.wholeText false body)
  | .copy stream word => do
    let text ← Expand.wholeText false word
    match text.toList with
    | ['-'] => return .copy stream none
    | [c] =>
      match Decimal.digitValue c with
      | some n => return .copy stream (some n)
      | none => Expand.refuse (.misuse text "Bad fd number")
    | _ => Expand.refuse (.misuse text "Bad fd number")

def redirectTo (machine : Machine) (guarded : Bool) (store : Store) (streams : Register Nat Stream) :
    Target → Except String (Store × Register Nat Stream)
  | .file n access path =>
    match store.openPath machine.directory streams.get? guarded access path with
    | .ok (stream, store) => .ok (store, streams.insert n stream)
    | .error e => .error ((if access == .read then "cannot open " else "cannot create ") ++ path ++
        ": " ++ e.reason)
  | .copy n none => .ok (store, streams.erase n)
  | .copy n (some m) =>
    match streams.get? m with
    | some stream => .ok (store, streams.insert n stream)
    | none => .error (toString m ++ ": Bad file descriptor")
  | .text n body =>
    let (pipe, store) := store.makePipe
    let store := { store with pipes := store.pipes.insert pipe body }
    .ok (store, streams.insert n (.source pipe))

def keepStream (streams : Register Nat Stream) (n : Nat) :
    Register Nat Stream × Nat × Option Nat :=
  match streams.get? n with
  | some stream =>
    let kept := Process.freeNumber streams
    (streams.insert kept stream, n, some kept)
  | none => (streams, n, none)

/-- Redirects the streams of the process. With `keep` it gives what has to be set back later. -/
def redirect (targets : List Target) (keep : Bool) :
    Act (Except String (List (Nat × Option Nat))) := do
  let s ← get
  let machine ← machine
  let guarded := s.shell.scope.has 'C'
  let numbers := (targets.map Target.stream).eraseDups
  let (streams, saved) := if !keep then (s.process.streams, []) else
    numbers.foldl (fun (streams, saved) n =>
      let (streams, entry) := keepStream streams n
      (streams, entry :: saved)) (s.process.streams, [])
  let done := targets.foldl (fun done target => do
    let (store, streams) ← done
    redirectTo machine guarded store streams target) (Except.ok (s.store, streams))
  match done with
  | .ok (store, streams) =>
    set { s with store, process := { s.process with streams } }
    return .ok saved
  | .error reason => return .error reason

/-! ### Expansion -/

/-- Expands something for a command. If the output of another command is needed, that is started,
and the command is run anew when it has ended. -/
def expanding {α : Type} (command : Command) (tested : Bool) (outputs : List String)
    (status : Option Nat) (words : Expand α) (next : α → Act Unit) : Act Unit := do
  let known : Known := ⟨← scope, outputs⟩
  match words.run known with
  | .ok (a, known) =>
    changeScope fun _ => known.scope
    next a
  | .error (.fault fault) => abort fault
  | .error (.output inner scope) =>
    let s ← get
    let (pipe, store) := s.store.makePipe
    let stream := Process.freeNumber s.process.streams
    set { s with
      store
      shell := { s.shell with scope } }
    let _ ← jobNumber
    let child ← fork [.run inner false [] none] (s.process.streams.insert 1 (.sink pipe)) []
    changeScope fun _ => known.scope
    modify fun s => { s with
      process := { s.process with streams := s.process.streams.insert stream (.source pipe) } }
    push (.collect stream child "" (.run command tested outputs status))

def allFields (machine : Machine) (words : List Word) : Expand (List String) := do
  let found ← words.mapM Expand.fields
  let plain := (← Expand.scope).has 'f'
  return found.flatten.flatMap fun field =>
    if plain then [String.ofList (field.map Glyph.char)] else Glob.expand machine field

end Act
end LedgerBench.Shell
