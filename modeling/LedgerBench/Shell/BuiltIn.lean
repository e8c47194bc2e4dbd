import LedgerBench.Shell.Act
import LedgerBench.Shell.Condition
import LedgerBench.Shell.Format
import LedgerBench.Shell.Signal

/-! The commands that belong to the shell itself. -/

namespace LedgerBench.Shell.BuiltIn

open Act
open Move (machine request)

abbrev Attempt := ExceptT Fault Act

def refuse {α : Type} (command reason : String) : Attempt α :=
  throw (.misuse command reason)

def done (status : Nat) : Attempt Unit :=
  setStatus status

def print (text : String) (status : Nat) : Attempt Unit :=
  emit 1 text status

def current : Attempt Scope :=
  return (← get).shell.scope

def count (text : String) : Attempt Nat :=
  readCount text

def assign (name value : String) : Attempt Unit := do
  let scope ← (← current).assign name value
  changeScope fun _ => scope

def quoted (text : String) : String :=
  "'" ++ String.ofList (text.toList.flatMap fun c => if c = '\'' then "'\"'\"'".toList else [c]) ++
    "'"

def options (command known : String) : List String → Attempt (List Char × List String)
  | [] => return ([], [])
  | word :: rest => do
    match word.toList with
    | ['-', '-'] => return ([], rest)
    | '-' :: c :: letters =>
      match (c :: letters).find? fun l => !known.toList.contains l with
      | some l => refuse command ("Illegal option -" ++ String.singleton l)
      | none =>
        let (more, rest) ← options command known rest
        return (c :: letters ++ more, rest)
    | _ => return ([], word :: rest)

/-! ### Going on elsewhere -/

def isLoop : Frame → Bool
  | .condition .. | .again .. | .each .. => true
  | _ => false

def unwindToLoop : Nat → Act Unit
  | 0 => return ()
  | 1 => unwind isLoop
  | n + 1 => do
    unwind isLoop
    pop
    unwindToLoop n

def leaveLoops (continues : Bool) (args : List String) : Attempt Unit := do
  let n ← match args with
    | [] => pure 1
    | text :: _ => count text
  if n = 0 then throw (.badNumber (args.headD ""))
  let shell := (← get).shell
  let inner := (shell.frames.takeWhile fun
    | .leave .. => false
    | _ => true).filter isLoop
  done 0
  if min n (loopDepth shell) = 0 then return ()
  if inner.length < min n (loopDepth shell) then unwind fun _ => false
  else
    unwindToLoop (min n inner.length)
    let frames := (← get).shell.frames
    match continues, frames with
    | true, .condition outcome condition body tested _ :: rest
    | true, .again outcome condition body tested :: rest =>
      changeShell fun shell =>
        { shell with frames := .again outcome condition body tested :: rest }
    | true, _ => return ()
    | false, _ => (pop : Act Unit)

def statusBefore (shell : Interpreter) : Nat :=
  (shell.frames.findSome? fun
    | .trapped status | .finish status => some status
    | _ => none).getD shell.scope.status

def exit (args : List String) : Attempt Unit := do
  match args with
  | [] => quit (statusBefore (← get).shell)
  | text :: _ => quit (← count text)

def returnFrom (args : List String) : Attempt Unit := do
  match args with
  | [] => pure ()
  | text :: _ => done (← count text)
  unwind fun
    | .leave .. | .source _ .file .. | .source _ .commandLine .. | .source _ .otherFile .. |
      .finish _ => true
    | _ => false
  match (← get).shell.frames with
  | .source .. :: _ => (pop : Act Unit)
  | _ => return ()

def evaluateText (args : List String) (tested : Bool) : Attempt Unit := do
  match args with
  | [] => done 0
  | args => push (.source (.ofText (Json.joined " " args)) .text false tested)

def runFile (args : List String) (tested : Bool) : Attempt Unit := do
  match args with
  | [] => refuse "." "file not found"
  | name :: _ =>
    let machine ← machine
    let scope ← current
    let places := (Text.splitAtEach ':' ((scope.lookUp? "PATH").getD "").toList).map String.ofList
    let paths := if name.toList.contains '/' then [name]
      else places.map fun place => Machine.Path.join place name
    match paths.findSome? machine.file? with
    | some file => push (.source (.ofText file.text) .otherFile false tested)
    | none => refuse "." ("cannot open " ++ name ++ ": No such file")

def replace (args : List String) : Attempt Unit := do
  match if args.head? = some "--" then args.tail else args with
  | [] => done 0
  | name :: args =>
    match ← findImage name args with
    | .ok image => Move.become image (← current).exports
    | .error status =>
      complain ("exec: " ++ explain name status)
      quit status

/-! ### Variables and options -/

def listed (mark : String) (isListed : Variable → Bool) (scope : Scope) : String :=
  String.join (scope.bindings.entries.filterMap fun (name, v) =>
    if !isListed v then none
    else some (mark ++ name ++ (match v.value with
      | some value => "=" ++ quoted value
      | none => "") ++ "\n"))

def declare (command : String) (exported readOnly : Bool) (args : List String) : Attempt Unit := do
  let (letters, names) ← options command "p" args
  if letters.contains 'p' || names.isEmpty then
    let isListed := fun (v : Variable) => (exported && v.exported) || (readOnly && v.readOnly)
    print (listed (command ++ " ") isListed (← current)) 0
  else
    for word in names do
      let name ← match assignmentOf? word with
        | some (name, value) => do
          assign name value
          pure name
        | none => if isName word then pure word else throw (.badName word)
      changeScope fun scope => scope.mark name exported readOnly
    done 0

def makeLocal (args : List String) : Attempt Unit := do
  if !(← get).shell.frames.any (· matches .leave ..) then refuse "local" "not in a function"
  for word in args do
    let (name, value) := match assignmentOf? word with
      | some (name, value) => (name, some value)
      | none => (word, none)
    if !isName name then
      if name = "-" then continue
      throw (.badName name)
    let old := (← current).bindings.get? name
    changeShell fun shell =>
      let before := shell.frames.takeWhile fun f => !f matches .leave ..
      match shell.frames.drop before.length with
      | .leave args place saved :: rest =>
        let saved := if saved.any (·.1 == name) then saved else saved ++ [(name, old)]
        { shell with frames := before ++ .leave args place saved :: rest }
      | _ => shell
    match value with
    | some value => assign name value
    | none => pure ()
  done 0

def beforeSign (name : String) : String :=
  String.ofList (name.toList.takeWhile (· != '='))

def unset (args : List String) : Attempt Unit := do
  let (letters, names) ← options "unset" "fv" args
  for name in names do
    let name := beforeSign name
    if letters.contains 'f' then
      changeShell fun shell => { shell with functions := shell.functions.erase name }
    else if !isName name then throw (.badName name)
    else
      let scope ← (← current).unset name
      changeScope fun _ => scope
  done 0

def setOptions (args : List String) : Attempt Unit := do
  match args with
  | [] => print (listed "" (fun v => v.value.isSome) (← current)) 0
  | ["-o"] | ["+o"] =>
    let scope ← current
    print (String.join (optionNames.map fun (name, c) =>
      name ++ "\t" ++ (if scope.has c then "on" else "off") ++ "\n")) 0
  | args =>
    let scope ← current
    match readOptions scope.options args with
    | none => refuse "set" "Illegal option"
    | some (options, rest) =>
      let args := if rest.isEmpty && !args.contains "--" then scope.args else rest
      changeScope fun scope => { scope with args, options := options.eraseDups }
      done 0

def shift (args : List String) : Attempt Unit := do
  let n ← match args with
    | [] => pure 1
    | text :: _ => count text
  let scope ← current
  if scope.args.length < n then refuse "shift" "can't shift that many"
  changeScope fun scope => { scope with args := scope.args.drop n }
  done 0

/-- The character of the next option, what it comes with, and where the reading of options is then:
the number of the next argument and a place inside of the one before it. -/
structure NextOption where
  letter : Char
  value : Option String
  index : Nat
  place : Nat
  isOver : Bool

def nextOption (known : List Char) (args : List String) (index place : Nat) : NextOption :=
  let quiet := known.head? = some ':'
  let before := ((args[index - 2]?).getD "").toList
  let inside := if place = 0 ∨ index ≤ 1 then [] else before.drop place
  let (chars, index, place) := match inside with
    | [] => ((args[index - 1]?.getD "").toList, index + 1, 0)
    | chars => (chars, index, place)
  let fresh := inside.isEmpty
  let isEnd := fresh && !(chars.head? = some '-' && chars.length > 1)
  if isEnd then ⟨'?', none, index - 1, 0, true⟩
  else if fresh && chars = ['-', '-'] then ⟨'?', none, index, 0, true⟩
  else
    let chars := if fresh then chars.tail else chars
    let place := if fresh then 1 else place
    match chars with
    | [] => ⟨'?', none, index, 0, true⟩
    | c :: rest =>
      let next := if rest.isEmpty then 0 else place + 1
      match (known.dropWhile (· == ':')).dropWhile (· != c), c == ':' with
      | _, true | [], _ => ⟨'?', if quiet then some (String.singleton c) else none, index, next, false⟩
      | _ :: ':' :: _, _ =>
        if !rest.isEmpty then ⟨c, some (String.ofList rest), index, 0, false⟩
        else
          match args[index - 1]? with
          | some value => ⟨c, some value, index + 1, 0, false⟩
          | none =>
            if quiet then ⟨':', some (String.singleton c), index, 0, false⟩
            else ⟨'?', none, index, 0, false⟩
      | _, _ => ⟨c, some "", index, next, false⟩

def getOptions (args : List String) : Attempt Unit := do
  match args with
  | known :: name :: rest =>
    let scope ← current
    let args := if rest.isEmpty then scope.args else rest
    let index := ((scope.lookUp? "OPTIND").bind (·.toNat?)).getD 1
    let next := nextOption known.toList args (max index 1) scope.optionPlace
    if !next.isOver then
      match next.value with
      | some value => assign "OPTARG" value
      | none => do
        let scope ← (← current).unset "OPTARG"
        changeScope fun _ => scope
    assign "OPTIND" (toString next.index)
    assign name (String.singleton next.letter)
    changeScope fun scope => { scope with optionPlace := next.place }
    done (if next.isOver then 1 else 0)
  | _ => refuse "getopts" "Usage: getopts optstring var [arg]"

/-! ### Input -/

def lineGlyphs (raw : Bool) : List Char → List Glyph
  | [] => []
  | '\\' :: c :: rest =>
    if raw then ⟨'\\', false⟩ :: lineGlyphs raw (c :: rest)
    else if c = '\n' then lineGlyphs raw rest
    else ⟨c, true⟩ :: lineGlyphs raw rest
  | c :: rest => if c = '\n' then [] else ⟨c, false⟩ :: lineGlyphs raw rest

def isSeparator (separators : List Char) (g : Glyph) : Bool :=
  !g.quoted && separators.contains g.char

def isGap (separators : List Char) (g : Glyph) : Bool :=
  isSeparator separators g && (g.char == ' ' || g.char == '\t' || g.char == '\n')

/-- What follows the end of a field: blanks, with one other separator among them. -/
def afterField (separators : List Char) (glyphs : List Glyph) : List Glyph :=
  let rest := glyphs.dropWhile (isGap separators)
  match rest with
  | g :: more =>
    if isSeparator separators g then more.dropWhile (isGap separators) else rest
  | [] => []

/-- The texts for so many variables. The last one gets all that is left. -/
def lineFields (separators : List Char) : Nat → List Glyph → List String
  | 0, _ => []
  | n + 1, glyphs =>
    let glyphs := glyphs.dropWhile (isGap separators)
    let field := glyphs.takeWhile fun g => !isSeparator separators g
    let rest := afterField separators (glyphs.drop field.length)
    let text := fun (gs : List Glyph) => String.ofList (gs.map Glyph.char)
    if n = 0 then
      if rest.isEmpty then [text field]
      else [text (glyphs.reverse.dropWhile (isGap separators)).reverse]
    else text field :: lineFields separators n rest

def assignLine (raw : Bool) (names : List String) (line : String) (status : Nat) :
    Attempt Unit := do
  let fields := lineFields (← current).separators names.length (lineGlyphs raw line.toList)
  for (name, value) in names.zip fields do
    if name.toList.contains '=' then assign (beforeSign name) "" else assign name value
  done status

def read (args : List String) : Attempt Unit := do
  let args := match args with
    | "-p" :: _ :: rest => rest
    | args => args
  let (letters, names) ← options "read" "r" args
  if names.isEmpty then refuse "read" "arg count"
  push (.readLine (letters.contains 'r') names "")

/-! ### Processes and signals -/

def jobOf (command text : String) : Attempt Job := do
  let jobs := (← get).shell.jobs
  let found := match text.toList.tail with
    | [] | ['%'] | ['+'] => jobs.head?
    | ['-'] => jobs.tail.head?
    | digits => (Decimal.readDigits 0 digits).bind fun n => jobs.find? (·.number == n)
  match found with
  | some job => return job
  | none => refuse command ("No such job: " ++ text)

/-- How a job is shown: with its number, a mark for the two newest ones, and its state. -/
def jobLine (withProcess : Bool) (p : Process) (place : Nat) (job : Job) : String :=
  let mark := if place = 0 then "+ " else if place = 1 then "- " else "  "
  let number := if withProcess then toString (job.processes.headD 0) ++ " " else ""
  let state := match p.hasEnded job, (job.processes.getLast?).bind p.statusOf with
    | true, some ending =>
      if ending.code = 0 then "Done"
      else if ending.code < 128 then "Done(" ++ toString ending.code ++ ")"
      else "Killed"
    | _, _ => "Running"
  let text := "[" ++ toString job.number ++ "] " ++ mark ++ number ++ state
  let others := String.join (job.processes.tail.map fun _ => " | ")
  String.ofList (text.toList ++ List.replicate (33 - text.length) ' ') ++ others ++ "\n"

/-- How jobs are shown one after the other. One that has ended is forgotten before the next one is
shown. -/
def jobLines (withProcess : Bool) (p : Process) (jobs : List Job) : List Job → String
  | [] => ""
  | job :: rest =>
    let line := jobLine withProcess p ((jobs.idxOf? job).getD 0) job
    let left := if p.hasEnded job then jobs.filter (· != job) else jobs
    line ++ jobLines withProcess p left rest

def showJobs (args : List String) : Attempt Unit := do
  let (letters, names) ← options "jobs" "lp" args
  let s ← get
  let asked ← names.mapM (jobOf "jobs")
  let jobs := if names.isEmpty then s.shell.jobs else asked
  let text := if letters.contains 'p' then
    String.join (jobs.map fun job => toString (job.processes.headD 0) ++ "\n")
  else jobLines (letters.contains 'l') s.process s.shell.jobs jobs
  let ended := jobs.filter s.process.hasEnded
  dropJobs ended.contains
  print text 0

def killStatus (signal : Nat) (targets : List String) : Attempt Nat := do
  let mut status := 0
  for text in targets do
    match text.toList with
    | '-' :: digits =>
      let _ ← count (String.ofList digits)
      complain "kill: No such process"
      status := 1
    | '%' :: _ =>
      let _ ← jobOf "kill" text
      complain "kill: No such process"
      status := 1
    | _ =>
      let number ← count text
      if (← get).exists? number then request (.signal number signal)
      else
        complain "kill: No such process"
        status := 1
  return status

def listSignals : List String → Attempt Unit
  | [] => print (String.join (WaitStatus.signalNames.map (· ++ "\n"))) 0
  | text :: _ => do
    let n ← count text
    print (Signal.name (if 128 < n then n - 128 else n) ++ "\n") 0

def kill (args : List String) : Attempt Unit := do
  let usage : Attempt Unit := refuse "kill" "Usage: kill [-s sigspec | -signum | -sigspec] pid..."
  let send (signal : Nat) (targets : List String) : Attempt Unit :=
    if targets.isEmpty then usage else do done (← killStatus signal targets)
  match args with
  | [] => usage
  | word :: rest =>
    match word.toList with
    | '-' :: letters =>
      match Signal.ofText? (String.ofList letters), letters with
      | some signal, _ => send signal rest
      | none, ['l'] => listSignals rest
      | none, ['s'] =>
        match rest with
        | name :: targets =>
          match Signal.ofText? name with
          | some signal => send signal targets
          | none => refuse "kill" ("invalid signal number or name: " ++ name)
        | [] => refuse "kill" "No arg for -s option"
      | none, 's' :: name =>
        match Signal.ofText? (String.ofList name) with
        | some signal => send signal rest
        | none => refuse "kill" ("invalid signal number or name: " ++ String.ofList name)
      | none, ['-'] => send Signal.terminate rest
      | none, c => refuse "kill" ("Illegal option -" ++ String.ofList (c.take 1))
    | _ => send Signal.terminate args

def trap (args : List String) : Attempt Unit := do
  let args := if args.head? = some "--" then args.tail else args
  match args with
  | [] =>
    let traps := (← get).shell.traps
    print (String.join (traps.entries.map fun (signal, action) =>
      "trap -- " ++ quoted action ++ " " ++ Signal.name signal ++ "\n")) 0
  | first :: rest =>
    let isNumber := !first.isEmpty && (Decimal.readDigits 0 first.toList).isSome
    let resets := rest.isEmpty || isNumber
    let action := if resets || first = "-" then none else some first
    for name in if resets then args else rest do
      match Signal.ofText? name with
      | none =>
        complain ("trap: " ++ name ++ ": bad trap")
        return ← done 1
      | some signal =>
        modify fun s =>
          let traps := match action with
            | some text => s.shell.traps.insert signal text
            | none => s.shell.traps.erase signal
          let others := s.process.ignored.filter (· != signal)
          { s with
            shell := { s.shell with traps }
            process := { s.process with
              ignored := if action = some "" then signal :: others else others } }
    done 0

def processesOf (jobs : List Job) (number : Nat) : Option (List Nat) :=
  (jobs.find? fun job => job.processes.getLast? == some number).map Job.processes

def wait (args : List String) : Attempt Unit := do
  let (_, args) ← options "wait" "" args
  match args with
  | [] => push .waitForAll
  | args =>
    let jobs := (← get).shell.jobs
    let found ← args.mapM fun text => do
      match text.toList with
      | '%' :: _ => return (← jobOf "wait" text).processes
      | _ =>
        let number ← count text
        return (processesOf jobs number).getD []
    done 127
    for processes in found.reverse do
      if !processes.isEmpty then push (.waitFor processes)
    match found.getLast? with
    | some [] => done 127
    | _ => return ()

/-! ### Directories and names -/

def shown (place : String) : String :=
  if place.isEmpty then "/" else place

def changeDirectory (args : List String) : Attempt Unit := do
  let (_, args) ← options "cd" "LP" args
  let scope ← current
  let path := match args with
    | [] => (scope.lookUp? "HOME").getD ""
    | "-" :: _ => (scope.lookUp? "OLDPWD").getD ""
    | path :: _ => path
  let machine ← machine
  let path := if path.isEmpty then "." else path
  match machine.locate path with
  | none => refuse "cd" ("can't cd to " ++ path)
  | some place =>
    if !machine.directories.contains place then refuse "cd" ("can't cd to " ++ path)
    let old := (← get).process.directory
    modify fun s => { s with process := { s.process with directory := place } }
    assign "OLDPWD" (shown old)
    changeScope fun scope => scope.mark "OLDPWD" true false
    assign "PWD" (shown place)
    if args.head? = some "-" then print (shown place ++ "\n") 0 else done 0

def describe (verbose : Bool) (name : String) : Attempt (Option String) := do
  let shell := (← get).shell
  let machine ← machine
  let described (text : String) : Option String := some (if verbose then name ++ text else name)
  if keywords.contains name then return described " is a shell keyword"
  match shell.aliases.get? name with
  | some text =>
    return some (if verbose then name ++ " is an alias for " ++ text
      else "alias " ++ name ++ "=" ++ quoted text)
  | none =>
    if shell.functions.contains name then return described " is a shell function"
    if specialCommands.contains name then return described " is a special shell builtin"
    if isBuiltIn name then return described " is a shell builtin"
    let found (path : String) : Bool := (machine.file? path).any File.executable
    if name.toList.contains '/' then
      return if found name then described (" is " ++ name) else none
    let places := Text.splitAtEach ':' ((shell.scope.lookUp? "PATH").getD "").toList
    let paths := places.map fun place => Machine.Path.join (String.ofList place) name
    return (paths.find? fun path => !name.isEmpty && found path).map fun path =>
      if verbose then name ++ " is " ++ path else path

def describeAll (verbose : Bool) (names : List String) : Attempt Unit := do
  let mut text := ""
  let mut status := 0
  for name in names do
    match ← describe verbose name with
    | some line => text := text ++ line ++ "\n"
    | none =>
      status := 127
      if verbose then text := text ++ name ++ ": not found\n"
  print text status

def setAliases (args : List String) : Attempt Unit := do
  let aliases := (← get).shell.aliases
  let shown (name text : String) := name ++ "=" ++ quoted text ++ "\n"
  match args with
  | [] => print (String.join (aliases.entries.map fun (name, text) => shown name text)) 0
  | args =>
    let mut text := ""
    let mut status := 0
    for word in args do
      match Text.splitAtEach '=' word.toList with
      | name :: first :: rest =>
        if name.isEmpty then status := 1
        else
          let value := (first :: rest).intersperse ['='] |>.flatten
          changeShell fun shell =>
            { shell with aliases :=
                shell.aliases.insert (String.ofList name) (String.ofList value) }
      | _ =>
        match aliases.get? word with
        | some value => text := text ++ shown word value
        | none =>
          complain ("alias: " ++ word ++ " not found")
          status := 1
    print text status

def dropAliases (args : List String) : Attempt Unit := do
  let (letters, names) ← options "unalias" "a" args
  let aliases := (← get).shell.aliases
  if letters.contains 'a' then
    changeShell fun shell => { shell with aliases := .empty }
    done 0
  else
    changeShell fun shell => { shell with aliases := names.foldl Register.erase shell.aliases }
    done (if names.all aliases.contains then 0 else 1)

/-! ### All together -/

def perform (name : String) (args : List String) (tested : Bool) : Attempt Unit := do
  match name with
  | ":" | "true" | "hash" => done 0
  | "false" => done 1
  | "." => runFile args tested
  | "[" =>
    if args.getLast? != some "]" then refuse "[" "missing ]"
    let outcome ← Condition.evaluate (← machine) args.dropLast
    done (if outcome then 0 else 1)
  | "test" => done (if ← Condition.evaluate (← machine) args then 0 else 1)
  | "alias" => setAliases args
  | "bg" | "fg" => refuse name "No current job"
  | "break" => leaveLoops false args
  | "continue" => leaveLoops true args
  | "cd" | "chdir" => changeDirectory args
  | "echo" => print (Format.echo args) 0
  | "eval" => evaluateText args tested
  | "exec" => replace args
  | "exit" => exit args
  | "export" => declare name true false args
  | "getopts" => getOptions args
  | "jobs" => showJobs args
  | "times" => done 0
  | "kill" => kill args
  | "local" => makeLocal args
  | "printf" =>
    let (text, status) := Format.printf args
    print text status
  | "pwd" => print (shown (← get).process.directory ++ "\n") 0
  | "read" => read args
  | "readonly" => declare name false true args
  | "return" => returnFrom args
  | "set" => setOptions args
  | "shift" => shift args
  | "trap" => trap args
  | "type" => describeAll true args
  | "ulimit" => if args.isEmpty then print "unlimited\n" 0 else done 0
  | "umask" => if args.isEmpty then print "0022\n" 0 else done 0
  | "unalias" => dropAliases args
  | "unset" => unset args
  | "wait" => wait args
  | _ => done 0

/-- Runs a command of the shell; a refusal ends the shell if the command is a special one. -/
def call (name : String) (args : List String) (special tested : Bool) : Act Unit := do
  match ← (perform name args tested).run with
  | .ok () => return ()
  | .error fault =>
    complain fault.message
    if special then quit Fault.status else setStatus Fault.status

end LedgerBench.Shell.BuiltIn
