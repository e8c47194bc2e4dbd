import LedgerBench.Shell.Step
import LedgerBench.Shell.Tool.Step

/-! A system of processes on a machine. Of all processes the one whose step is due first takes it. A
process that waits for another one looks again whenever that may have done something. -/

namespace LedgerBench.Shell

/-- The processes of a machine. Its clock counts millionths of a second. -/
structure System where
  store : Store
  clock : Nat
  processes : List Process
  nextNumber : Nat

structure Death where
  number : Nat
  status : WaitStatus
  deriving Repr, DecidableEq

structure Streams where
  output : Bool
  errors : Bool
  deriving Repr, DecidableEq

namespace System

def start (machine : Machine) : System := ⟨.ofMachine machine, 0, [], 1000⟩

def exists? (system : System) (number : Nat) : Bool :=
  system.processes.any (·.number == number)

def remove (system : System) (number : Nat) : System :=
  { system with processes := system.processes.filter (·.number != number) }

def change (system : System) (number : Nat) (f : Process → Process) : System :=
  { system with processes := system.processes.map fun p => if p.number == number then f p else p }

/-- The first process in the order of the next steps, of those that wait for nothing. -/
def first? (system : System) : Option Process :=
  system.processes.foldl (fun best p =>
    if p.isBlocked || p.isHalted then best
    else
      match best with
      | some b => if p.wakes < b.wakes then some p else some b
      | none => some p) none

def nextTime? (system : System) : Option Nat :=
  system.first?.map Process.wakes

def awake (clock : Nat) (p : Process) : Process :=
  if p.isBlocked then { p with isBlocked := false, wakes := max p.wakes clock } else p

/-- A process after one that it has started has ended. One that waits for no longer than some time
looks at once. -/
def informed (clock : Nat) (death : Death) (p : Process) : Process :=
  let children := p.children.map fun (number, status) =>
    if number == death.number then (number, some death.status) else (number, status)
  let wakes := match p.activity with
    | .tool (.watch ..) _ => clock
    | _ => p.wakes
  { p with children, wakes }

def bury (system : System) (death : Death) : System × Option Death :=
  match system.processes.find? (·.number == death.number) with
  | none => (system, none)
  | some p =>
    let system := (system.remove death.number).change p.parent (informed system.clock death)
    let streams := system.processes.flatMap fun p => p.streams.values
    ({ system with
      store := system.store.keepOnly streams
      processes := system.processes.map (awake system.clock) }, some death)

def catches (p : Process) (signal : Nat) : Bool :=
  match p.activity with
  | .shell shell => (shell.traps.get? signal).any (· != "")
  | .tool .. => false

def signal (system : System) (number signal : Nat) : System × Option Death :=
  match system.processes.find? (·.number == number) with
  | none => (system, none)
  | some p =>
    let system := if signal = Signal.continuing || signal = Signal.kill then
      system.change number fun p => { p with isHalted := false } else system
    let isSure := Signal.sure.contains signal
    if !isSure && catches p signal then
      (system.change number fun p =>
        awake system.clock { p with pending := p.pending.filter (· != signal) ++ [signal] }, none)
    else if !isSure && (p.ignored.contains signal || Signal.idle.contains signal) then
      (system, none)
    else if Signal.halting.contains signal then
      (system.change number fun p => { p with isHalted := true }, none)
    else system.bury ⟨number, .signaled (UInt8.ofNat signal)⟩

/-- The processes that have come from one. The fuel bounds how many there are. -/
def descendants (system : System) : Nat → List Nat → List Nat
  | 0, _ | _, [] => []
  | fuel + 1, number :: rest =>
    let children := (system.processes.filter (·.parent == number)).map Process.number
    children ++ descendants system fuel (children ++ rest)

def serve (number : Nat) : System × List Death → Request → System × List Death
  | (system, deaths), request =>
    let each (f : System → Nat → System × Option Death) (targets : List Nat) :=
      targets.foldl (fun (system, deaths) target =>
        let (system, death) := f system target
        (system, deaths ++ death.toList)) (system, deaths)
    match request with
    | .spawn process => ({ system with processes := system.processes ++ [process] }, deaths)
    | .signal target signal => each (fun system n => system.signal n signal) [target]
    | .signalAll origin signal =>
      each (fun system n => system.signal n signal)
        (system.descendants (system.processes.length + 1) [origin])
    | .finish status => each (fun system n => system.bury ⟨n, status⟩) [number]

def move (system : System) (p : Process) : Surroundings :=
  let others := system.processes.filter (·.number != p.number)
  let before : Surroundings :=
    { process := p
      store := system.store
      nextNumber := system.nextNumber
      isHeld := fun stream => others.any fun q => q.holds stream
      exists? := system.exists?
      requests := []
      next := none }
  match p.activity with
  | .tool task settings => (Step.ofTool settings task before).2
  | .shell shell =>
    let after := (Step.ofShell { before with shell }).2
    { after.toSurroundings with next := after.next.or (some (.shell after.shell)) }

/-- Takes the step that is due first, and tells which processes ended by it. -/
def step (system : System) : System × List Death :=
  match system.first? with
  | none => (system, [])
  | some p =>
    let after := system.move p
    let process := { after.process with activity := after.next.getD p.activity }
    let others := if process.isBlocked then id else awake p.wakes
    let system : System :=
      { store := after.store
        clock := p.wakes
        processes := system.processes.map fun q => if q.number == p.number then process else others q
        nextNumber := after.nextNumber }
    after.requests.foldl (serve p.number) (system, [])

def hasOpenOutput (system : System) : Bool :=
  system.processes.any fun p => p.holds .outside

def launch (system : System) (program : String) (args : List String) (streams : Streams) :
    Except SystemError (Nat × System) :=
  let machine := system.store.machine
  match machine.program program args with
  | .error e => .error e
  | .ok image =>
    let number := system.nextNumber
    let lead (isOpen : Bool) : Stream := if isOpen then .outside else .null
    let settings := machine.settings.entries
    let closed : Register Nat Stream := .empty
    let p : Process :=
      { number
        parent := 1
        directory := machine.directory
        streams := ((closed.insert 0 .null).insert 1 (lead streams.output)).insert 2
          (lead streams.errors)
        ignored := []
        pending := []
        children := []
        activity := activityOf machine number 1 machine.directory settings image
        wakes := system.clock + Move.forkTime + Move.startTime
        isBlocked := false
        isHalted := false }
    .ok (number, { system with
      processes := system.processes ++ [p]
      nextNumber := number + 1 })

end System
end LedgerBench.Shell
