import LedgerBench.Shell.BuiltIn

/-! The steps of a shell: each takes the first frame and does what it says. -/

namespace LedgerBench.Shell

open Act
open Move (machine block spend start become)

namespace Simple

structure Expanded where
  fields : List String
  targets : List Act.Target
  assignments : List (String × String)

/-- Whether the arguments of a command may be assignments, which are not divided. -/
def takesAssignments (isFunction : String → Bool) (fields : List String) : Bool :=
  match fields.dropWhile (· == "command") with
  | name :: _ => ["export", "readonly", "local"].contains name && !isFunction name
  | [] => false

def expandWords (machine : Machine) (isFunction : String → Bool) :
    List String → List Word → Expand (List String)
  | known, [] => return known
  | known, word :: rest => do
    let found ← match Reader.assignment? word, takesAssignments isFunction known with
      | some (name, value), true =>
        pure [name ++ "=" ++ (← Expand.wholeText true value)]
      | _, _ => allFields machine [word]
    expandWords machine isFunction (known ++ found) rest

def expandAssignments : List (String × Word) → Expand (List (String × String))
  | [] => return []
  | (name, word) :: rest => do
    let value ← Expand.wholeText true word
    match (← Expand.scope).assign name value with
    | .error fault => Expand.refuse fault
    | .ok scope => modify fun known => { known with scope }
    return (name, value) :: (← expandAssignments rest)

def expand (machine : Machine) (isFunction : String → Bool) (assignments : List (String × Word))
    (words : List Word) (redirects : List Redirect) : Expand Expanded := do
  let fields ← expandWords machine isFunction [] words
  let targets ← redirects.mapM target
  return ⟨fields, targets, ← expandAssignments assignments⟩

/-- Leaves out `command` in front of another command, by which functions are not meant. With other
options or nothing after it, it is a command itself. -/
def withoutMark : List String → List String
  | "command" :: "-p" :: rest => withoutMark rest
  | "command" :: "--" :: rest => withoutMark rest
  | "command" :: word :: rest =>
    if word.startsWith "-" then "command" :: word :: rest else withoutMark (word :: rest)
  | fields => fields

/-- Runs a command with its words expanded. `before` holds the variables as they were before its
assignments, and `isLast` tells that nothing is left to do after it. -/
def perform (before : Scope) (isLast tested : Bool) (status : Option Nat) (command : Expanded) :
    Act Unit := do
  spend Move.commandTime
  let fields := withoutMark command.fields
  let marked := fields.length < command.fields.length
  let shell := (← get).shell
  let saved := command.assignments.reverse.map fun (name, _) => (name, before.bindings.get? name)
  let failed (reason : String) : Act Unit := do
    complain reason
    changeScope fun scope => saved.foldl (fun scope (name, v) => scope.restore name v) scope
    setStatus Fault.status
  match fields with
  | [] =>
    match ← redirect command.targets true with
    | .error reason =>
      failed reason
      checkStatus tested
    | .ok kept =>
      push (.streams kept)
      pop
      setStatus (status.getD 0)
      checkStatus tested
  | name :: args =>
    let special := specialCommands.contains name && !marked
    let isFunction := shell.functions.contains name && !marked && !special
    if isFunction || isBuiltIn name || name = "command" then
      if !tested then push .check
      if !special && !saved.isEmpty then push (.bindings saved)
      changeScope fun scope =>
        if special then scope
        else command.assignments.foldl (fun scope (name, _) => scope.mark name true false) scope
      if name = "exec" && args.isEmpty then
        match ← redirect command.targets false with
        | .error reason =>
          complain reason
          if special then quit Fault.status else setStatus Fault.status
        | .ok _ => setStatus 0
      else
        match ← redirect command.targets true with
        | .error reason =>
          complain reason
          if special then quit Fault.status else setStatus Fault.status
        | .ok kept =>
          if !kept.isEmpty then push (.streams kept)
          match if isFunction then shell.functions.get? name else none with
          | some body =>
            let scope ← scope
            push (.leave scope.args scope.optionPlace [])
            changeScope fun scope => { scope with args, optionPlace := 0 }
            run body tested
          | none =>
            if name = "command" then
              match args with
              | "-v" :: names =>
                let _ ← (BuiltIn.describeAll false (names.take 1)).run
              | "-V" :: names =>
                let _ ← (BuiltIn.describeAll true (names.take 1)).run
              | [] => setStatus 0
              | _ =>
                complain "command: Illegal option"
                setStatus Fault.status
            else BuiltIn.call name args special tested
    else
      let old := (← get).process.streams
      let exports := command.assignments.foldl
        (fun (scope : Scope) (name, _) => scope.mark name true false) (← scope)
      match ← redirect command.targets false with
      | .error reason =>
        failed reason
        checkStatus tested
      | .ok _ =>
        match ← findImage name args with
        | .error code =>
          complain (explain name code)
          changeScope fun scope => saved.foldl (fun scope (name, v) => scope.restore name v) scope
          modify fun s => { s with process := { s.process with streams := old } }
          if code = 126 then spend Move.forkTime
          setStatus code
          checkStatus tested
        | .ok image =>
          let hasTraps := shell.traps.values.any (· != "")
          if isLast && !hasTraps then become image exports.exports
          else
            let _ ← jobNumber
            let child ← start image exports.exports (← get).process.streams
            changeScope fun scope => saved.foldl (fun scope (name, v) => scope.restore name v) scope
            modify fun s => { s with process := { s.process with streams := old } }
            if !tested then push .check
            push (.await [child])

end Simple

namespace Step

/-- Runs a command that is not simple in its first round, with what its words have led to. -/
def runCommand (command : Command) (tested : Bool) (outputs : List String) (status : Option Nat) :
    Act Unit := do
  let shell := (← get).shell
  let isLast := shell.frames.isEmpty
  match command with
  | .nothing => setStatus 0
  | .sequence first second =>
    run second tested
    run first tested
  | .andThen first second =>
    push (.andThen second tested)
    run first true
  | .orElse first second =>
    push (.orElse second tested)
    run first true
  | .negate inner =>
    push .negate
    run inner true
  | .branch condition yes no =>
    push (.branch yes no tested)
    run condition true
  | .loop outcome condition body =>
    push (.condition outcome condition body tested 0)
    run condition true
  | .each name words body => do
    let machine ← machine
    expanding command tested outputs status (allFields machine words) fun fields => do
      if fields.isEmpty then setStatus 0
      push (.each name fields body tested)
  | .choice subject clauses =>
    let chosen : Expand Command := do
      let text ← Expand.wholeText false subject
      for (patterns, body) in clauses do
        for word in patterns do
          if (← Expand.pattern word).isMatch text.toList then return body
      return .nothing
    expanding command tested outputs status chosen fun body => run body tested
  | .define name body =>
    changeShell fun shell => { shell with functions := shell.functions.insert name body }
    setStatus 0
  | .simple assignments words redirects => do
    let machine ← machine
    let before ← scope
    expanding command tested outputs status
      (Simple.expand machine shell.functions.contains assignments words redirects)
      (Simple.perform before isLast tested status)
  | .redirected inner redirects =>
    expanding command tested outputs status (redirects.mapM target) fun targets => do
      match ← redirect targets true with
      | .error reason =>
        complain reason
        setStatus Fault.status
        checkStatus tested
      | .ok kept =>
        push (.streams kept)
        run inner tested
  | .enclosed inner redirects =>
    expanding command tested outputs status (redirects.mapM target) fun targets => do
      if isLast && !shell.traps.values.any (· != "") then
        changeShell fun shell => branchShell shell []
        match ← redirect targets false with
        | .error reason =>
          complain reason
          setStatus Fault.status
        | .ok _ => run inner tested
      else
        let streams := (← get).process.streams
        match ← redirect targets false with
        | .error reason =>
          modify fun s => { s with process := { s.process with streams } }
          complain reason
          setStatus Fault.status
          checkStatus tested
        | .ok _ =>
          let _ ← jobNumber
          let child ← fork [.run inner tested [] none] (← get).process.streams []
          modify fun s => { s with process := { s.process with streams } }
          if !tested then push .check
          push (.await [child])
  | .pipeline commands => do
    let _ ← jobNumber
    let numbers ← startAll (← get).process.streams [] none commands
    if !tested then push .check
    push (.await numbers)
  | .background inner => do
    let streams := (← get).process.streams.insert 0 .null
    let job ← jobNumber
    let numbers ← match inner with
      | .pipeline commands => startAll streams [2, 3] none commands
      | .redirected inner redirects => do
        let child ← fork [.run (.enclosed inner redirects) false [] none] streams [2, 3]
        pure [child]
      | inner => do
        let child ← fork [.run inner false [] none] streams [2, 3]
        pure [child]
    changeShell fun shell => { shell with jobs := ⟨job, numbers, false⟩ :: shell.jobs }
    changeScope fun scope => { scope with newest := numbers.getLast?, status := 0 }
where
  startAll (streams : Register Nat Stream) (ignored : List Nat) :
      Option Stream → List Command → Act (List Nat)
    | _, [] => return []
    | input, [last] => do
      let streams := match input with
        | some stream => streams.insert 0 stream
        | none => streams
      return [← fork [.run last tested [] none] streams ignored]
    | input, first :: rest => do
      let s ← get
      let (pipe, store) := s.store.makePipe
      set { s with store }
      let own := match input with
        | some stream => streams.insert 0 stream
        | none => streams
      let child ← fork [.run first tested [] none] (own.insert 1 (.sink pipe)) ignored
      return child :: (← startAll streams ignored (some (.source pipe)) rest)

/-- Whether the frame at hand is finished before a signal is seen to: it belongs to a command that has
begun. -/
def isUninterrupted : Frame → Bool
  | .await _ | .collect .. | .emit .. | .readScript _ | .check => true
  | .run _ _ _ status => status.isSome
  | _ => false

def seeToSignal (signal : Nat) : Act Unit := do
  let s ← get
  set { s with process := { s.process with pending := s.process.pending.filter (· != signal) } }
  match s.shell.frames with
  | .waitFor _ :: _ | .waitForAll :: _ =>
    pop
    setStatus (128 + signal)
  | .readLine .. :: _ =>
    pop
    setStatus 1
  | _ => pure ()
  match s.shell.traps.get? signal with
  | none | some "" => return ()
  | some text =>
    push (.trapped (← scope).status)
    push (.source (.ofText text) .text true false)

def readOn (script : Script) (origin : Origin) (ran tested : Bool) : Act Unit := do
  let shell := (← get).shell
  match script.next shell.aliases with
  | .finished => if ran then return () else setStatus 0
  | .malformed => abort .malformed
  | .line command script =>
    spend Move.lookTime
    let ran := ran || !command matches .nothing
    if !(origin == .commandLine && script.rest.isEmpty) then
      push (.source script origin ran tested)
    match command with
    | .nothing => return ()
    | command => run command tested

def withoutEnds (text : String) : String :=
  String.ofList (text.toList.reverse.dropWhile (· == '\n')).reverse

def doFrame (frame : Frame) : Act Unit := do
  let s ← get
  let status := s.shell.scope.status
  match frame with
  | .source script origin ran tested => readOn script origin ran tested
  | .run command tested outputs last =>
    if s.shell.scope.has 'n' then return () else runCommand command tested outputs last
  | .andThen second tested => if status = 0 then run second tested
  | .orElse second tested => if status ≠ 0 then run second tested
  | .negate => setStatus (if status = 0 then 1 else 0)
  | .branch yes no tested => run (if status = 0 then yes else no) tested
  | .condition outcome condition body tested last =>
    if (status == 0) == outcome then
      push (.again outcome condition body tested)
      run body tested
    else setStatus last
  | .again outcome condition body tested =>
    spend Move.lookTime
    push (.condition outcome condition body tested status)
    run condition true
  | .each _ [] _ _ => return ()
  | .each name (value :: rest) body tested =>
    spend Move.lookTime
    match s.shell.scope.assign name value with
    | .error fault => abort fault
    | .ok scope =>
      changeScope fun _ => scope
      push (.each name rest body tested)
      run body tested
  | .streams _ | .bindings _ | .leave .. => modify fun s => undo s frame
  | .check => checkStatus false
  | .await numbers =>
    match numbers.mapM s.process.statusOf with
    | none =>
      push frame
      block
    | some statuses =>
      modify fun s => { s with process := s.process.forget numbers }
      setStatus ((statuses.getLast?.map WaitStatus.code).getD 0)
  | .waitFor numbers =>
    match numbers.mapM s.process.statusOf with
    | none =>
      push frame
      block
    | some statuses =>
      changeShell fun shell => { shell with jobs := shell.jobs.map fun job =>
        if job.processes == numbers then { job with isKnown := true } else job }
      setStatus ((statuses.getLast?.map WaitStatus.code).getD 127)
  | .waitForAll =>
    if s.shell.jobs.all s.process.hasEnded then
      changeShell fun shell =>
        { shell with jobs := shell.jobs.map fun job => { job with isKnown := true } }
      setStatus 0
    else
      push frame
      block
  | .collect stream child text next =>
    match ← Move.read stream false with
    | none => push frame
    | some "" =>
      match s.process.statusOf child with
      | none =>
        push frame
        block
      | some ending =>
        set { s with process := { s.process.forget [child] with
          streams := s.process.streams.erase stream } }
        match next with
        | .run command tested outputs _ =>
          push (.run command tested (outputs ++ [withoutEnds text]) (some ending.code))
        | next => push next
    | some more => push (.collect stream child (text ++ more) next)
  | .emit stream text status => emit stream text status
  | .readLine raw names text =>
    let finish (text : String) (status : Nat) : Act Unit := do
      match ← (BuiltIn.assignLine raw names text status).run with
      | .ok () => return ()
      | .error fault =>
        complain fault.message
        setStatus Fault.status
    match ← Move.read 0 true with
    | none => push frame
    | some "" => finish text 1
    | some more =>
      let text := text ++ more
      let ends := text.toList.reverse
      let isOpen := !raw && (ends.tail.takeWhile (· == '\\')).length % 2 = 1
      if ends.head? = some '\n' && !isOpen then finish text 0
      else push (.readLine raw names text)
  | .readScript text =>
    match ← Move.read 0 false with
    | none => push frame
    | some "" => push (.source (.ofText text) .file false false)
    | some more => push (.readScript (text ++ more))
  | .trapped status => setStatus status
  | .finish status => Move.finish status

def ofShell : Act Unit := do
  let s ← get
  match s.shell.frames with
  | [] => quit s.shell.scope.status
  | frame :: rest =>
    match s.process.pending, isUninterrupted frame with
    | signal :: _, false => seeToSignal signal
    | _, _ =>
      changeShell fun shell => { shell with frames := rest }
      doFrame frame

end Step
end LedgerBench.Shell
