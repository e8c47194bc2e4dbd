import LedgerBench.Machine.Image
import LedgerBench.Machine.WaitStatus
import LedgerBench.Shell.Expansion
import LedgerBench.Shell.Reader
import LedgerBench.Shell.Store

/-! Processes: shells, which run scripts, and tools, which do one thing. What a shell has left to do
is a stack of frames. Times are in millionths of a second. -/

namespace LedgerBench.Shell

/-- What a script is read from, by which it is told where `return` leads. -/
inductive Origin where
  | file
  | commandLine
  | otherFile
  | text
  deriving Repr, DecidableEq

/-- Something that a shell has left to do. `tested` says that the status of a command is looked at,
so that a failure does not end the shell. -/
inductive Frame where
  | source (script : Script) (origin : Origin) (ran tested : Bool)
  | run (command : Command) (tested : Bool) (outputs : List String) (status : Option Nat)
  | andThen (second : Command) (tested : Bool)
  | orElse (second : Command) (tested : Bool)
  | negate
  | branch (yes no : Command) (tested : Bool)
  | condition (outcome : Bool) (condition body : Command) (tested : Bool) (status : Nat)
  | again (outcome : Bool) (condition body : Command) (tested : Bool)
  | each (name : String) (rest : List String) (body : Command) (tested : Bool)
  | streams (saved : List (Nat × Option Nat))
  | bindings (saved : List (String × Option Variable))
  | leave (args : List String) (optionPlace : Nat) (saved : List (String × Option Variable))
  | check
  | await (numbers : List Nat)
  | waitFor (numbers : List Nat)
  | waitForAll
  | collect (stream child : Nat) (text : String) (next : Frame)
  | emit (stream : Nat) (text : String) (status : Nat)
  | readLine (raw : Bool) (names : List String) (text : String)
  | readScript (text : String)
  | trapped (status : Nat)
  | finish (status : Nat)

structure Job where
  number : Nat
  processes : List Nat
  isKnown : Bool
  deriving Repr, DecidableEq

structure Interpreter where
  scope : Scope
  functions : Register String Command
  aliases : Register String String
  traps : Register Nat String
  jobs : List Job
  outerLoops : Nat
  frames : List Frame

inductive Filter where
  | all
  | lines (count : Nat)
  | characters (count : Nat)
  | until (isFound : String → Bool) (line : String)

/-- How a tool waits for a command that may take too long. Times are in millionths of a second. -/
structure Watch where
  time : Nat
  signal : Nat
  more : Option Nat
  keepsStatus : Bool

inductive Task where
  | begin (image : Image) (input : Option String)
  | gather (image : Image) (text : String)
  | write (texts : List (Nat × String)) (status : Nat)
  | send (text : String) (next : Task)
  | pass (filter : Filter)
  | repeat (text : String)
  | pause
  | watch (child : Nat) (deadline : Option Nat) (isLate : Bool) (plan : Watch)
  | series (commands : List (List String)) (child : Option Nat) (status : Nat)

inductive Activity where
  | shell (shell : Interpreter)
  | tool (task : Task) (settings : List (String × String))

/-- A process. It wakes when its next step is due, unless it is blocked until another one does
something or halted by a signal. -/
structure Process where
  number : Nat
  parent : Nat
  directory : String
  streams : Register Nat Stream
  ignored : List Nat
  pending : List Nat
  children : List (Nat × Option WaitStatus)
  activity : Activity
  wakes : Nat
  isBlocked : Bool
  isHalted : Bool

inductive Request where
  | spawn (process : Process)
  | signal (number signal : Nat)
  | signalAll (number signal : Nat)
  | finish (status : WaitStatus)

namespace Process

def firstKept : Nat := 10

def ownStreams (streams : Register Nat Stream) : Register Nat Stream :=
  (streams.keys.filter (firstKept ≤ ·)).foldl Register.erase streams

def holds (p : Process) (stream : Stream) : Bool :=
  p.streams.values.contains stream

def freeNumber (streams : Register Nat Stream) : Nat :=
  streams.keys.foldl (fun free n => if n < free then free else n + 1) firstKept

def statusOf (p : Process) (number : Nat) : Option WaitStatus :=
  match p.children.lookup number with
  | some status => status
  | none => some (.exited 127)

def forget (p : Process) (numbers : List Nat) : Process :=
  { p with children := p.children.filter fun c => !numbers.contains c.1 }

def hasEnded (p : Process) (job : Job) : Bool :=
  job.processes.all fun n => (p.statusOf n).isSome

end Process

/-! ### Starting programs -/

def shellTools : List String := ["sh", "dash", "bash"]

def defaultPath : String :=
  "/usr/local/sbin:/usr/local/bin:/usr/sbin:/usr/bin:/sbin:/bin"

def startVariables (directory : String) (parent : Nat) (settings : List (String × String)) :
    Register String Variable :=
  let own : List (String × String) :=
    [("IFS", " \t\n"), ("OPTIND", "1"), ("PPID", toString parent), ("PS1", "$ "),
      ("PS2", "> "), ("PS4", "+ ")]
  let imported := (settings.filter fun s => isName s.1).foldl
    (fun (r : Register String Variable) (name, value) => r.insert name ⟨some value, true, false⟩)
    .empty
  let all := own.foldl
    (fun r (name, value) => r.insert name ⟨some value, false, false⟩) imported
  let all := if all.contains "PATH" then all else all.insert "PATH" ⟨some defaultPath, false, false⟩
  let place := if directory.isEmpty then "/" else directory
  all.insert "PWD" ⟨some place, true, false⟩

structure ShellArguments where
  options : List Char
  command : Option String
  rest : List String

def optionNames : List (String × Char) :=
  [("errexit", 'e'), ("noglob", 'f'), ("ignoreeof", 'I'), ("interactive", 'i'), ("monitor", 'm'),
    ("noexec", 'n'), ("stdin", 's'), ("xtrace", 'x'), ("verbose", 'v'), ("vi", 'V'),
    ("emacs", 'E'), ("noclobber", 'C'), ("allexport", 'a'), ("notify", 'b'), ("nounset", 'u')]

/-- The options after some have been put on or off. The letter `c` stands for itself, and an `o` for
a name that follows. -/
def readOptions : List Char → List String → Option (List Char × List String)
  | options, [] => some (options, [])
  | options, "--" :: rest => some (options, rest)
  | options, "-o" :: name :: rest =>
    match optionNames.lookup name with
    | some c => readOptions (c :: options) rest
    | none => none
  | options, "+o" :: name :: rest =>
    match optionNames.lookup name with
    | some c => readOptions (options.filter (· != c)) rest
    | none => none
  | options, word :: rest =>
    let isKnown := fun c => c == 'c' || c == 'l' || optionNames.any fun o => o.2 == c
    match word.toList with
    | '-' :: c :: letters =>
      if (c :: letters).all isKnown then readOptions (c :: letters ++ options) rest else none
    | '+' :: c :: letters =>
      if (c :: letters).all isKnown then
        readOptions (options.filter fun o => !(c :: letters).contains o) rest
      else none
    | ['-'] => some (options, rest)
    | ['+'] => readOptions options rest
    | _ => some (options, word :: rest)

def emptyShell (program : String) (args : List String) (number : Nat) (options : List Char)
    (bindings : Register String Variable) (frames : List Frame) : Interpreter :=
  { scope := ⟨program, args, bindings, options, 0, number, none, 0⟩
    functions := .empty
    aliases := .empty
    traps := .empty
    jobs := []
    outerLoops := 0
    frames }

def activityOf (machine : Machine) (number parent : Nat) (directory : String)
    (settings : List (String × String)) (image : Image) : Activity :=
  if !shellTools.contains image.tool then .tool (.begin image none) settings
  else
    let name := image.arguments.headD image.tool
    let bindings := startVariables directory parent settings
    let failed := Activity.tool (.write [] Fault.status) settings
    match readOptions [] image.arguments.tail with
    | none => failed
    | some (letters, rest) =>
      let options := letters.filter (· != 'c')
      let shell := fun program args frames =>
        Activity.shell (emptyShell program args number options bindings frames)
      match letters.contains 'c', rest with
      | true, [] => failed
      | true, command :: rest =>
        shell (rest.headD name) rest.tail [.source (.ofText command) .commandLine false false]
      | false, path :: args =>
        if options.contains 's' then shell name rest [.readScript ""]
        else
          let machine := { machine with directory }
          if machine.isDirectory path then shell path args []
          else
            match machine.file? path with
            | some file => shell path args [.source (.ofText file.text) .file false false]
            | none => failed
      | false, [] => shell name [] [.readScript ""]

end LedgerBench.Shell
