import LedgerBench.Json.Printer
import LedgerBench.Machine.Change
import LedgerBench.Shell.Tool.Basic

/-! Tools that look at files and change them. -/

namespace LedgerBench.Shell.Tool

/-- Changes the machine for each operand. What is refused is reported, and the rest is done. -/
def forEach (w : Workplace) (name : String) (operands : List String)
    (change : Machine → String → Except SystemError Machine) : Answer :=
  let (machine, texts) := operands.foldl (fun (machine, texts) path =>
    match change machine path with
    | .ok machine => (machine, texts)
    | .error e => (machine, texts ++ [(2, name ++ ": '" ++ path ++ "': " ++ e.reason ++ "\n")]))
    (w.machine, [])
  if operands.isEmpty then fails w name "missing operand" 1
  else .done texts machine (if texts.isEmpty then 0 else 1)

def touch : Tool := fun w args =>
  withOptions w ⟨"acmfh", "dtr", [("no-create", 'c'), ("date", 'd')]⟩ false 1 args fun given =>
    forEach w "touch" given.operands fun machine path =>
      if given.has 'c' then .ok machine else machine.touch path

def rm : Tool := fun w args =>
  let known : Known := ⟨"firRvdI", "", [("force", 'f'), ("recursive", 'r'), ("verbose", 'v')]⟩
  withOptions w known false 1 args fun given =>
    let recursive := given.has 'r' || given.has 'R'
    if given.operands.isEmpty && given.has 'f' then ends w 0
    else
      forEach w "rm" given.operands fun machine path =>
        let name := (Machine.Path.segments path).filter (· != "") |>.getLast?
        if name == some "." || name == some ".." then .error .permissionDenied
        else
        match machine.remove path with
        | .error .noSuchFile => if given.has 'f' then .ok machine else .error .noSuchFile
        | .error .isDirectory =>
          match machine.locate path with
          | some place =>
            if recursive then .ok (machine.removeTree place)
            else if given.has 'd' then machine.removeDirectory path
            else .error .isDirectory
          | none => .error .noSuchFile
        | result => result

def mkdir : Tool := fun w args =>
  withOptions w ⟨"pv", "m", [("parents", 'p'), ("mode", 'm')]⟩ false 1 args fun given =>
    forEach w "mkdir" given.operands fun machine path =>
      if given.has 'p' then machine.makeDirectories path else machine.makeDirectory path

/-- A path and the paths of all that contains it, the longest first. -/
def pathsUp (path : String) : List String :=
  let names := (Machine.Path.segments path).filter (· != "")
  let start := if Machine.Path.isAbsolute path then "/" else ""
  (List.range names.length).map fun n =>
    start ++ Json.joined "/" (names.take (names.length - n))

def rmdir : Tool := fun w args =>
  withOptions w ⟨"pv", "", [("parents", 'p')]⟩ false 1 args fun given =>
    forEach w "rmdir" given.operands fun machine path =>
      (if given.has 'p' then pathsUp path else [path]).foldlM Machine.removeDirectory machine

/-- Whether a file may be executed after a change of its mode, given as a number or by signs. -/
def executableAfter (mode : String) (executable : Bool) : Option Bool :=
  match mode.toList with
  | [] => none
  | chars =>
    if chars.all fun c => '0' ≤ c && c ≤ '7' then
      some ((chars.drop (chars.length - 3)).any fun c => c.toNat % 2 = 1)
    else
      (Text.splitAtEach ',' chars).foldlM (fun executable clause =>
        let who := clause.takeWhile fun c => "ugoa".toList.contains c
        let all := who.isEmpty || who.contains 'a' ||
          (who.contains 'u' && who.contains 'g' && who.contains 'o')
        match clause.drop who.length with
        | sign :: letters =>
          if !letters.all fun c => "rwxXst".toList.contains c then none
          else
            let named := letters.contains 'x' || (letters.contains 'X' && executable)
            if sign = '+' then some (executable || named)
            else if sign = '-' then some (executable && !(named && all))
            else if sign = '=' then some (named || (executable && !all))
            else none
        | [] => none) executable

def chmod : Tool := fun w args =>
  let isMode := fun (word : String) =>
    match word.toList with
    | '-' :: c :: _ => "rwxXst".toList.contains c
    | _ => true
  let options := args.filter fun word => !isMode word || ["-R", "-v", "-f", "-c"].contains word
  match args.filter fun word => !options.contains word with
  | mode :: paths =>
    if !options.all fun o => ["-R", "-v", "-f", "-c"].contains o then
      fails w "chmod" "invalid option" 1
    else if (executableAfter mode true).isNone then fails w "chmod" "invalid mode" 1
    else
      forEach w "chmod" paths fun machine path =>
        match machine.locate path, machine.file? path with
        | some place, some file =>
          .ok (machine.setExecutable place ((executableAfter mode file.executable).getD true))
        | _, _ => if machine.isDirectory path then .ok machine else .error .noSuchFile
  | [] => fails w "chmod" "missing operand" 1

def lastName (path : String) : String :=
  match (Machine.Path.components path).getLast? with
  | some name => name
  | none => if path.isEmpty then "" else "."

/-- Where something goes that is put to a path: into it if it is a directory. -/
def destination (machine : Machine) (source path : String) : Except SystemError String :=
  if machine.isDirectory path then
    machine.newPlace (Machine.Path.join path (lastName source))
  else machine.newPlace path

def copyTree (machine : Machine) (before after : String) : Machine :=
  let inside := Machine.isWithin before
  { machine with
    files := (machine.files.entries.filter fun e => inside e.1).foldl
      (fun files e => files.insert (Machine.renamed before after e.1) e.2) machine.files
    directories := machine.directories ++
      (machine.directories.filter inside).map (Machine.renamed before after) }

def transfer (w : Workplace) (name : String) (operands : List String)
    (put : Machine → String → String → Except SystemError Machine) : Answer :=
  match operands.reverse with
  | target :: source :: more =>
    let sources := (source :: more).reverse
    if sources.length > 1 && !w.machine.isDirectory target then
      fails w name ("target '" ++ target ++ "' is not a directory") 1
    else
      forEach w name sources fun machine path => do
        match machine.locate path with
        | none => .error .noSuchFile
        | some place =>
          if machine.hasPath path then put machine place (← destination machine path target)
          else .error .noSuchFile
  | _ => fails w name "missing file operand" 1

def mv : Tool := fun w args =>
  withOptions w ⟨"finvuT", "t", [("force", 'f')]⟩ false 1 args fun given =>
    transfer w "mv" given.operands fun machine before after =>
      .ok (machine.rename before after)

def cp : Tool := fun w args =>
  let known : Known := ⟨"rRafipvudLPHnT", "t", [("recursive", 'r'), ("archive", 'a')]⟩
  withOptions w known false 1 args fun given =>
    transfer w "cp" given.operands fun machine before after =>
      if machine.directories.contains before then
        if given.has 'r' || given.has 'R' || given.has 'a' then
          .ok (copyTree machine before after)
        else .error .isDirectory
      else
        match machine.files.get? before with
        | some file => .ok { machine with files := machine.files.insert after file }
        | none => .error .noSuchFile

/-- Gives a file another name. A link holds what its file holds when it is made. -/
def ln : Tool := fun w args =>
  withOptions w ⟨"sfnvirT", "t", [("symbolic", 's'), ("force", 'f')]⟩ false 1 args fun given =>
    transfer w "ln" given.operands fun machine before after =>
      if machine.files.contains after && !given.has 'f' then .error .fileExists
      else
        match machine.files.get? before with
        | some file => .ok { machine with files := machine.files.insert after file }
        | none => .ok machine

def ls : Tool := fun w args =>
  let known : Known := ⟨"aAl1dhtrRFisSnpgoLHQcuUX", "", [("all", 'a'), ("almost-all", 'A'),
    ("directory", 'd')]⟩
  withOptions w known false 2 args fun given =>
    let operands := if given.operands.isEmpty then ["."] else given.operands
    let missing := operands.filter fun path => !w.machine.hasPath path
    let complaints := missing.map fun path =>
      (2, "ls: cannot access '" ++ path ++ "': " ++ SystemError.noSuchFile.reason ++ "\n")
    let isShown := fun (name : String) => given.has 'a' || given.has 'A' || !name.startsWith "."
    let names (path : String) : List String :=
      match w.machine.locate path with
      | some place =>
        let own := if given.has 'a' then [".", ".."] else []
        own ++ (w.machine.namesIn place).filter isShown
      | none => []
    let isListed := fun path => w.machine.isDirectory path && !given.has 'd'
    let found := operands.filter w.machine.hasPath
    let plain := found.filter fun path => !isListed path
    let lines := plain ++ (found.filter isListed).flatMap fun path =>
      (if operands.length > 1 then [path ++ ":"] else []) ++ names path
    .done (complaints ++ [(1, String.join (lines.map (· ++ "\n")))]) w.machine
      (if missing.isEmpty then 0 else 2)

def mktemp : Tool := fun w args =>
  withOptions w ⟨"dquV", "tp", [("directory", 'd'), ("dry-run", 'u')]⟩ false 1 args fun given =>
    let template := given.operands.headD "/tmp/tmp.XXXXXXXXXX"
    let stem := template.toList.reverse.dropWhile (· == 'X')
    let count := template.length - stem.length
    if count < 3 then fails w "mktemp" "too few X's in template" 1
    else
      let digits := Decimal.digits (w.number * 1000 + w.machine.files.entries.length)
      let name := List.replicate (count - digits.length) 'a' ++ digits.take count
      let path := String.ofList (stem.reverse ++ name)
      let made := if given.has 'u' then .ok w.machine
        else if given.has 'd' then w.machine.makeDirectory path
        else w.machine.touch path
      match made with
      | .ok machine => .done [(1, path ++ "\n")] machine 0
      | .error e => fails w "mktemp" e.reason 1

def baseName : Tool := fun w args =>
  withOptions w ⟨"az", "s", [("suffix", 's'), ("multiple", 'a')]⟩ true 1 args fun given =>
    let stem (suffix : List Char) (path : String) : String :=
      let name := match (Machine.Path.segments path).filter (· != "") |>.getLast? with
        | some name => name
        | none => if path.isEmpty then "" else "/"
      if suffix.isSuffixOf name.toList && suffix.length < name.length then
        String.ofList (name.toList.take (name.length - suffix.length)) else name
    if given.has 'a' || given.has 's' then
      let suffix := ((given.value? 's').getD "").toList
      prints w (String.join (given.operands.map fun path => stem suffix path ++ "\n"))
        (if given.operands.isEmpty then 1 else 0)
    else
      match given.operands with
      | [path] => prints w (stem [] path ++ "\n") 0
      | [path, suffix] => prints w (stem suffix.toList path ++ "\n") 0
      | [] => fails w "basename" "missing operand" 1
      | _ => fails w "basename" "extra operand" 1

def dirName : Tool := fun w args =>
  withOptions w ⟨"z", "", []⟩ false 1 args fun given =>
    if given.operands.isEmpty then fails w "dirname" "missing operand" 1
    else
      let directory (path : String) : String :=
        let trimmed := path.toList.reverse.dropWhile (· == '/')
        let rest := (trimmed.dropWhile (· != '/')).dropWhile (· == '/')
        if !rest.isEmpty then String.ofList rest.reverse
        else if Machine.Path.isAbsolute path then "/"
        else "."
      prints w (String.join (given.operands.map fun path => directory path ++ "\n")) 0

/-- Writes the paths from the root of places that have to be there, or whose parents have to be. -/
def realPath (name : String) (strict : Bool) : Tool := fun w args =>
  withOptions w ⟨"femnqsvz", "", []⟩ false 1 args fun given =>
    let isNeeded := strict || given.has 'f' || given.has 'e'
    let found := given.operands.map fun path =>
      if !isNeeded then none
      else (w.machine.locate path).filter fun _ => w.machine.hasPath path || !given.has 'e'
    let lines := found.filterMap fun place =>
      place.map fun p => (if p.isEmpty then "/" else p) ++ "\n"
    if given.operands.isEmpty then fails w name "missing operand" 1
    else prints w (String.join lines) (if found.all Option.isSome then 0 else 1)

def tee : Tool := fun w args =>
  withOptions w ⟨"aip", "", [("append", 'a')]⟩ false 1 args fun given =>
    match w.input with
    | none => .input
    | some text =>
      let result := forEach w "tee" given.operands fun machine path => do
        let place ← machine.newPlace path
        if machine.directories.contains place then .error .isDirectory
        else if given.has 'a' then .ok (machine.append place text)
        else .ok (machine.write place text)
      match result with
      | .done texts machine status =>
        if given.operands.isEmpty then prints w text 0
        else .done (texts ++ [(1, text)]) machine status
      | answer => answer

def stat : Tool := fun w args =>
  withOptions w ⟨"Lft", "c", [("format", 'c')]⟩ false 1 args fun given =>
    let missing := given.operands.filter fun path => !w.machine.hasPath path
    let line (path : String) : String :=
      let size := Scope.sizeOf (((w.machine.file? path).map File.text).getD "")
      match given.value? 'c' with
      | some "%s" => toString size ++ "\n"
      | some "%n" => path ++ "\n"
      | _ => path ++ "\n"
    let found := given.operands.filter w.machine.hasPath
    if given.operands.isEmpty then fails w "stat" "missing operand" 1
    else prints w (String.join (found.map line)) (if missing.isEmpty then 0 else 1)

end LedgerBench.Shell.Tool
