import LedgerBench.Shell.Act
import LedgerBench.Shell.Tool.Table

/-! The steps of a process that runs a tool. -/

namespace LedgerBench.Shell.Filter

def takeLines : Nat → List Char → List Char × Nat
  | 0, _ => ([], 0)
  | n, [] => ([], n)
  | n + 1, c :: rest =>
    let (taken, left) := takeLines (if c = '\n' then n else n + 1) rest
    (c :: taken, left)

/-- What a filter makes of the text that comes next: what it passes on, and how it goes on or with
which status it ends. -/
def feed (filter : Filter) (text : String) : String × Except Nat Filter :=
  match filter with
  | .all => (text, .ok .all)
  | .lines n =>
    let (taken, left) := takeLines n text.toList
    (String.ofList taken, if left = 0 then .error 0 else .ok (.lines left))
  | .characters n =>
    let taken := text.toList.take n
    let left := n - taken.length
    (String.ofList taken, if left = 0 then .error 0 else .ok (.characters left))
  | .until isFound line =>
    let parts := (Text.splitAtEach '\n' (line ++ text).toList).map String.ofList
    if parts.dropLast.any isFound then ("", .error 0)
    else ("", .ok (.until isFound (parts.getLast?.getD "")))

/-- Whether a filter ends before it has read anything, and its status when nothing more comes. -/
def isOver : Filter → Bool
  | .lines n | .characters n => n = 0
  | _ => false

def status : Filter → Nat
  | .until isFound line => if !line.isEmpty && isFound line then 0 else 1
  | _ => 0

end LedgerBench.Shell.Filter

namespace LedgerBench.Shell.Step

open Move (spend block request finish machine)

def go (settings : List (String × String)) (task : Task) : Move Unit :=
  modify fun s => { s with next := some (.tool task settings) }

def imageOf (settings : List (String × String)) : List String → Move (Except Nat Image)
  | [] => return .error 127
  | name :: args => do
    let machine := (← machine).withSetting "PATH" ((settings.lookup "PATH").getD "/bin:/usr/bin")
    match machine.program name args with
    | .ok image => return .ok image
    | .error .badFormat => return .ok ⟨"sh", "sh" :: name :: args⟩
    | .error .noSuchFile => return .error 127
    | .error _ => return .error 126

def startCommand (settings : List (String × String)) (command : List String) :
    Move (Except Nat Nat) := do
  match ← imageOf settings command with
  | .error status => return .error status
  | .ok image => return .ok (← Move.start image settings (← get).process.streams)

def follow (image : Image) (settings : List (String × String)) (answer : Answer) : Move Unit := do
  let go := go settings
  match answer with
  | .done texts machine status =>
    modify fun s =>
      let directory := s.store.machine.directory
      { s with store := { s.store with machine := { machine with directory } } }
    go (.write texts status)
  | .input => go (.gather image "")
  | .pass filter => go (.pass filter)
  | .repeat text => go (.repeat text)
  | .pause (some micros) => do
    spend micros
    go (.write [] 0)
  | .pause none => go .pause
  | .become command settings ignored =>
    match ← imageOf settings command with
    | .error status => go (.write [(2, command.headD "" ++ ": cannot be run\n")] status)
    | .ok image =>
      modify fun s => { s with process := { s.process with ignored := s.process.ignored ++ ignored } }
      Move.become image settings
  | .watch plan command =>
    match ← startCommand settings command with
    | .error status => go (.write [] status)
    | .ok child => go (.watch child (some ((← get).process.wakes + plan.time)) false plan)
  | .series commands => go (.series commands none 0)
  | .signal signal numbers status => do
    for number in numbers do
      request (.signal number signal)
    go (.write [] status)

def writeAll (stream : Nat) (text : String) : Move Move.Written :=
  if text.isEmpty then return .done else Move.write stream text

def ofTool (settings : List (String × String)) (task : Task) : Move Unit := do
  let go := go settings
  let s ← get
  match task with
  | .begin image input =>
    let workplace : Workplace :=
      ⟨← machine, settings, s.process.number, s.process.parent, s.process.wakes, s.exists?, input⟩
    match tools.lookup image.tool with
    | none => finish 0
    | some tool => follow image settings (tool workplace image.arguments.tail)
  | .gather image text =>
    match ← Move.read 0 false with
    | none => return ()
    | some "" => go (.begin image (some text))
    | some more => go (.gather image (text ++ more))
  | .write [] status => finish status
  | .write ((stream, text) :: rest) status =>
    match ← writeAll stream text with
    | .done => go (.write rest status)
    | .refused => go (.write rest (max status 1))
    | .waits | .ended => return ()
  | .send text next =>
    match ← writeAll 1 text with
    | .done => go next
    | .refused => finish 1
    | .waits | .ended => return ()
  | .pass filter =>
    if filter.isOver then finish 0
    else
      match ← Move.read 0 false with
      | none => return ()
      | some "" => finish filter.status
      | some more =>
        let (text, after) := filter.feed more
        go (.send text (match after with
          | .ok filter => .pass filter
          | .error status => .write [] status))
  | .repeat text =>
    match ← Move.write 1 text with
    | .done => spend Move.lookTime
    | .refused => finish 1
    | .waits | .ended => return ()
  | .pause => block
  | .watch child deadline isLate plan =>
    match s.process.statusOf child, deadline with
    | some ending, _ =>
      let isForced := ending == .signaled (UInt8.ofNat Signal.kill)
      finish (if isLate && !plan.keepsStatus && !isForced then 124 else ending.code)
    | none, none => block
    | none, some time =>
      if time ≤ s.process.wakes then
        let signal := if isLate then Signal.kill else plan.signal
        request (.signalAll s.process.number signal)
        if signal = Signal.kill then
          request (.finish (.signaled (UInt8.ofNat signal)))
        else
          go (.watch child (if isLate then none else plan.more.map (time + ·)) true plan)
      else
        modify fun s => { s with process := { s.process with wakes := time } }
  | .series commands (some child) status =>
    match s.process.statusOf child with
    | none => block
    | some ending =>
      if ending.code = 0 then go (.series commands none status)
      else if ending.code = 255 then finish 124
      else if 128 < ending.code then finish 125
      else go (.series commands none 123)
  | .series [] none status => finish status
  | .series (command :: rest) none status =>
    match ← startCommand settings command with
    | .error code => finish code
    | .ok child => go (.series rest (some child) status)

end LedgerBench.Shell.Step
