import LedgerBench.Machine.Image
import LedgerBench.Shell.Condition
import LedgerBench.Shell.Format
import LedgerBench.Shell.Signal
import LedgerBench.Shell.Tool.Basic

/-! Tools that wait, write a line, or run other commands. -/

namespace LedgerBench.Shell.Tool

def constant (status : Nat) : Tool := fun w _ => ends w status

def line (text : Workplace → String) (flags : String) : Tool := fun w args =>
  withOptions w ⟨flags, "", []⟩ false 1 args fun given =>
    if given.operands.isEmpty then prints w (text w ++ "\n") 0
    else fails w "error" "extra operand" 1

def echo : Tool := fun w args =>
  let isOption := fun (word : String) =>
    match word.toList with
    | '-' :: c :: rest => (c :: rest).all fun c => "neE".toList.contains c
    | _ => false
  let options := args.takeWhile isOption
  let text := Json.joined " " (args.drop options.length)
  let letters := options.flatMap String.toList
  let escaped := (letters.filter fun c => c = 'e' || c = 'E').getLast? == some 'e'
  let (text, isWhole) := if escaped then Format.unescaped text.length text.toList
    else (text.toList, true)
  prints w (String.ofList text ++ if letters.contains 'n' || !isWhole then "" else "\n") 0

def printf : Tool := fun w args =>
  let (text, status) := Format.printf args
  prints w text (min status 1)

def condition (bracketed : Bool) : Tool := fun w args =>
  if bracketed && args.getLast? != some "]" then fails w "[" "missing ']'" 2
  else
    match Condition.evaluate w.machine (if bracketed then args.dropLast else args) with
    | .ok outcome => ends w (if outcome then 0 else 1)
    | .error fault => fails w "test" fault.message 2

def sleep : Tool := fun w args =>
  withOptions w ⟨"", "", []⟩ false 1 args fun given =>
    if given.operands.isEmpty then fails w "sleep" "missing operand" 1
    else if given.operands.any fun text => ["inf", "infinity"].contains text then .pause none
    else
      match given.operands.mapM microsOf? with
      | some times => .pause (some (times.foldl Nat.add 0))
      | none => fails w "sleep" "invalid time interval" 1

def yes : Tool := fun w args =>
  withOptions w ⟨"", "", []⟩ false 1 args fun given =>
    let text := if given.operands.isEmpty then "y" else Json.joined " " given.operands
    .repeat (String.join (List.replicate 64 (text ++ "\n")))

def identity : Tool := fun w args =>
  withOptions w ⟨"ugnrG", "", [("user", 'u'), ("group", 'g'), ("name", 'n')]⟩ false 1 args
    fun given =>
      let isShort := given.has 'u' || given.has 'g' || given.has 'G'
      prints w ((if !isShort then "uid=0(root) gid=0(root) groups=0(root)"
        else if given.has 'n' then "root" else "0") ++ "\n") 0

/-- A tool that does nothing, but refuses options with long names. -/
def idle (misuse : Nat) : Tool := fun w args =>
  if args.any fun word => word.startsWith "--" then fails w "error" "unrecognized option" misuse
  else ends w 0

def tty : Tool := fun w args =>
  withOptions w ⟨"s", "", [("silent", 's'), ("quiet", 's')]⟩ false 2 args fun given =>
    if !given.operands.isEmpty then fails w "tty" "extra operand" 2
    else prints w (if given.has 's' then "" else "not a tty\n") 1

/-! ### Other commands -/

def withSettings (settings : List (String × String)) :
    List String → List (String × String) × List String
  | [] => (settings, [])
  | word :: rest =>
    match assignmentOf? word with
    | some (name, value) =>
      withSettings (settings.filter (·.1 != name) ++ [(name, value)]) rest
    | none => (settings, word :: rest)

def env : Tool := fun w args =>
  let known : Known := ⟨"iv0", "uCS", [("ignore-environment", 'i'), ("unset", 'u')]⟩
  let args := args.map fun word => if word = "-" then "-i" else word
  withOptions w known true 125 args fun given =>
    let dropped := (given.options.filter fun o => o.1 == 'u').map (·.2)
    let kept := if given.has 'i' then [] else
      w.settings.filter fun s => !dropped.contains s.1
    match given.value? 'S' with
    | some text =>
      let words := ((Text.splitAtEach ' ' text.toList).filter (· != [])).map String.ofList
      .become (words ++ given.operands) kept []
    | none =>
      match withSettings kept given.operands with
      | (settings, []) =>
        prints w (String.join (settings.map fun (name, value) => name ++ "=" ++ value ++ "\n")) 0
      | (settings, command) => .become command settings []

def printEnv : Tool := fun w args =>
  withOptions w ⟨"0", "", []⟩ true 2 args fun given =>
    if given.operands.isEmpty then
      prints w (String.join (w.settings.map fun (name, value) => name ++ "=" ++ value ++ "\n")) 0
    else
      let found := given.operands.map fun name => w.settings.lookup name
      prints w (String.join (found.filterMap fun v => v.map (· ++ "\n")))
        (if found.all Option.isSome then 0 else 1)

def wrapper (known : Known) (isValue : String → Bool) (misuse : Nat) (ignored : List Nat) : Tool :=
  fun w args =>
    withOptions w known true misuse args fun given =>
      if given.operands.isEmpty || given.options.any fun o => !o.2.isEmpty && !isValue o.2 then
        fails w "error" "invalid operands" misuse
      else .become given.operands w.settings ignored

def nice : Tool :=
  wrapper ⟨"", "n", [("adjustment", 'n')]⟩ (fun text => text.isInt) 125 []

def stdbuf : Tool :=
  let isMode := fun (text : String) => text = "L" || (Decimal.readDigits 0 text.toList).isSome
  wrapper ⟨"", "oie", [("output", 'o'), ("input", 'i'), ("error", 'e')]⟩ isMode 125 []

def timeout : Tool := fun w args =>
  let known : Known := ⟨"fvp", "sk", [("signal", 's'), ("kill-after", 'k'), ("foreground", 'f'),
    ("preserve-status", 'p'), ("verbose", 'v')]⟩
  withOptions w known true 125 args fun given =>
    let named := (given.value? 's').getD "TERM"
    let plain := if named.startsWith "SIG" then (named.drop 3).toString else named
    let more := (given.value? 'k').map microsOf?
    match given.operands, Signal.ofText? plain, more.getD (some 0) with
    | duration :: name :: args, some signal, some patience =>
      match microsOf? duration with
      | some 0 => .become (name :: args) w.settings []
      | some time =>
        let more := if patience = 0 then none else some patience
        .watch ⟨time, signal, more, given.has 'p'⟩ (name :: args)
      | none => fails w "timeout" "invalid time interval" 125
    | _, _, _ => fails w "timeout" "missing operand" 125

def chunks (size : Nat) : Nat → List String → List (List String)
  | 0, _ | _, [] => []
  | fuel + 1, words => words.take size :: chunks size fuel (words.drop size)

def replaceMark (mark new : String) (text : String) : String :=
  if mark.isEmpty then text else new.intercalate (text.splitOn mark)

/-- The words of a text that end at some characters, or else at the end of a line. Quotes and
backslashes keep characters together. `current` holds a word backwards. -/
def quotedWords (isEnd : Char → Bool) : Option (List Char) → Option Char → List Char → List String
  | current, _, [] => ended current
  | current, some mark, c :: rest =>
    if c = mark then quotedWords isEnd current none rest
    else quotedWords isEnd (some (c :: current.getD [])) (some mark) rest
  | current, none, '\\' :: c :: rest => quotedWords isEnd (some (c :: current.getD [])) none rest
  | current, none, c :: rest =>
    if c = '\'' ∨ c = '"' then quotedWords isEnd (some (current.getD [])) (some c) rest
    else if isEnd c then ended current ++ quotedWords isEnd none none rest
    else quotedWords isEnd (some (c :: current.getD [])) none rest
where
  ended (current : Option (List Char)) : List String :=
    (current.map fun word => String.ofList word.reverse).toList

def inputWords (byZero : Bool) (text : List Char) : List String :=
  if byZero then ((Text.splitAtEach '\x00' text).filter (· != [])).map String.ofList
  else quotedWords isSpace none none text

def xargs : Tool := fun w args =>
  let known : Known := ⟨"0rtpx", "nIidELPsa", [("null", '0'), ("max-args", 'n'),
    ("no-run-if-empty", 'r')]⟩
  withOptions w known true 1 args fun given =>
    match w.input with
    | none => .input
    | some text =>
      let command := if given.operands.isEmpty then ["echo"] else given.operands
      let words := inputWords (given.has '0') text.toList
      match given.value? 'I' with
      | some mark =>
        let lines := (linesOf text).map fun line => line.dropWhile isSpace
        let lines := (lines.filter (· != [])).map fun line =>
          String.join (quotedWords (fun _ => false) none none line)
        .series (lines.map fun line => command.map (replaceMark mark line))
      | none =>
        if words.isEmpty then .series (if given.has 'r' then [] else [command])
        else
          let size := ((given.value? 'n').bind (·.toNat?)).getD words.length
          .series ((chunks (max size 1) words.length words).map fun chunk => command ++ chunk)

def kill : Tool := fun w args =>
  let (named, targets) := match args with
    | "-s" :: name :: rest => (some name, rest)
    | word :: rest =>
      match word.toList with
      | '-' :: c :: letters => (some (String.ofList (c :: letters)), rest)
      | _ => (none, word :: rest)
    | [] => (none, [])
  let plain := named.map fun name => if name.startsWith "SIG" then (name.drop 3).toString else name
  match (plain.getD "TERM" |> Signal.ofText?), targets.mapM fun t => Decimal.readDigits 0 t.toList with
  | some signal, some numbers =>
    if numbers.isEmpty then fails w "kill" "not enough arguments" 1
    else
      let present := numbers.filter w.exists?
      .signal signal present (if present.length = numbers.length then 0 else 1)
  | _, _ => fails w "kill" "cannot find process" 1

def which : Tool := fun w args =>
  withOptions w ⟨"as", "", []⟩ true 2 args fun given =>
    let machine := w.machine.withSetting "PATH" ((w.settings.lookup "PATH").getD "")
    let place (name : String) : Option String :=
      if !name.toList.contains '/' then machine.which name
      else if (machine.file? name).any File.executable then some name
      else none
    let found := given.operands.map place
    prints w (String.join (found.filterMap fun p => p.map (· ++ "\n")))
      (if !given.operands.isEmpty && found.all Option.isSome then 0 else 1)

end LedgerBench.Shell.Tool
