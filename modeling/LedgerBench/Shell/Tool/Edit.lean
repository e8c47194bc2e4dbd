import LedgerBench.Shell.Tool.Basic
import LedgerBench.Shell.Tool.Regex

/-! Editing a text line by line with a script of short commands. -/

namespace LedgerBench.Shell.Tool

inductive Address where
  | line (n : Nat)
  | last
  | matching (r : Regex)

/-- What a command does to a line. A substitution is made of one of the matches, or of all from it
on. -/
inductive Edit where
  | substitute (r : Regex) (folded : Bool) (replacement : List Char) (first : Nat)
      (all printed : Bool)
  | delete
  | print
  | quit (status : Nat)
  | insert (text : List Char)
  | append (text : List Char)
  | change (text : List Char)
  | exchange (pairs : List (Char × Char))
  | number

structure EditCommand where
  addresses : List Address
  inverted : Bool
  edit : Edit

namespace EditCommand

/-- The text up to a mark, in which the mark can be written after a backslash. -/
def takePart (mark : Char) : List Char → Option (List Char × List Char)
  | [] => none
  | '\\' :: c :: rest =>
    (takePart mark rest).map fun (part, rest) =>
      (if c = mark then c :: part else if c = 't' then '\t' :: part else '\\' :: c :: part, rest)
  | c :: rest =>
    if c = mark then some ([], rest)
    else (takePart mark rest).map fun (part, rest) => (c :: part, rest)

def takeAddress (extended : Bool) : List Char → Option (Option Address × List Char)
  | '$' :: rest => some (some .last, rest)
  | '/' :: rest => do
    let (part, rest) ← takePart '/' rest
    let r ← Regex.ofText? extended (String.ofList part)
    return (some (.matching r), rest)
  | text =>
    let digits := text.takeWhile Decimal.isDigit
    if digits.isEmpty then some (none, text)
    else some ((Decimal.readDigits 0 digits).map Address.line, text.drop digits.length)

def takeText (rest : List Char) : List Char × List Char :=
  let isBlank := fun c => c == ' ' || c == '\t' || c == '\n'
  let text := match rest.dropWhile (· == ' ') with
    | '\\' :: text => (text.dropWhile isBlank)
    | text => text
  (text.takeWhile (· != '\n'), text.dropWhile (· != '\n'))

def takeEdit (extended : Bool) : List Char → Option (Edit × List Char)
  | 'd' :: rest => some (.delete, rest)
  | 'p' :: rest => some (.print, rest)
  | 'q' :: rest =>
    let digits := (rest.dropWhile (· == ' ')).takeWhile Decimal.isDigit
    if digits.isEmpty then some (.quit 0, rest)
    else (Decimal.readDigits 0 digits).map fun n =>
      (.quit n, (rest.dropWhile (· == ' ')).drop digits.length)
  | '=' :: rest => some (.number, rest)
  | 'i' :: rest =>
    let (text, rest) := takeText rest
    some (.insert text, rest)
  | 'a' :: rest =>
    let (text, rest) := takeText rest
    some (.append text, rest)
  | 'c' :: rest =>
    let (text, rest) := takeText rest
    some (.change text, rest)
  | 'y' :: mark :: rest => do
    let (old, rest) ← takePart mark rest
    let (new, rest) ← takePart mark rest
    if old.length ≠ new.length then none else some (.exchange (old.zip new), rest)
  | 's' :: mark :: rest => do
    let (pattern, rest) ← takePart mark rest
    let (replacement, rest) ← takePart mark rest
    let r ← Regex.ofText? extended (String.ofList pattern)
    let flags := rest.takeWhile fun c => c = 'g' || c = 'p' || c = 'i' || c = 'I' || Decimal.isDigit c
    let first := (Decimal.readDigits 0 (flags.filter Decimal.isDigit)).getD 1
    let folded := flags.contains 'i' || flags.contains 'I'
    return (.substitute r folded replacement (max first 1) (flags.contains 'g')
      (flags.contains 'p'), rest.drop flags.length)
  | _ => none

def ofChars (extended : Bool) : Nat → List Char → Option (List EditCommand)
  | 0, _ => none
  | fuel + 1, text => do
    match text.dropWhile fun c => c = ' ' || c = '\n' || c = ';' || c = '\t' with
    | [] => return []
    | '#' :: rest => ofChars extended fuel (rest.dropWhile (· != '\n'))
    | text =>
      let (first, rest) ← takeAddress extended text
      let (second, rest) ← match first, rest with
        | some _, ',' :: rest => takeAddress extended rest
        | _, rest => some (none, rest)
      let (inverted, rest) := match rest.dropWhile (· == ' ') with
        | '!' :: rest => (true, rest.dropWhile (· == ' '))
        | rest => (false, rest)
      let (edit, rest) ← takeEdit extended rest
      match rest.dropWhile (· == ' ') with
      | [] => return [⟨first.toList ++ second.toList, inverted, edit⟩]
      | c :: rest =>
        if c = ';' || c = '\n' then
          return ⟨first.toList ++ second.toList, inverted, edit⟩ :: (← ofChars extended fuel rest)
        else none

/-- What is put in for a match: `&` stands for all of it and a number for one of its groups. -/
def filled (m : Regex.Match) : List Char → List Char
  | [] => []
  | '&' :: rest => m.found ++ filled m rest
  | '\\' :: c :: rest =>
    (match Decimal.digitValue c with
      | some 0 => m.found
      | some n => (m.groups.lookup n).getD []
      | none => [if c = 'n' then '\n' else if c = 't' then '\t' else c]) ++ filled m rest
  | c :: rest => c :: filled m rest

/-- A line after a substitution, and whether anything was put in. `skipped` matches are left. -/
def substituted (r : Regex) (folded : Bool) (replacement : List Char) (all : Bool) :
    Nat → Nat → Bool → List Char → List Char × Bool
  | 0, _, _, text => (text, false)
  | fuel + 1, skipped, atStart, text =>
    match Regex.find? folded r atStart text with
    | none => (text, false)
    | some m =>
      let found := if skipped = 0 then filled m replacement else m.found
      let (step, after) := match m.found, m.after with
        | [], c :: after => ([c], after)
        | _, after => ([], after)
      if (skipped = 0 && !all) || (m.found.isEmpty && m.after.isEmpty) then
        (m.before ++ found ++ step ++ after, skipped = 0)
      else
        let (rest, changed) := substituted r folded replacement all fuel (skipped - 1) false after
        (m.before ++ found ++ step ++ rest, changed || skipped = 0)

/-- Whether a line is picked. `isOpen` tells whether the line before was picked by the same command
and the last line of the range has not come. -/
def picks (command : EditCommand) (isOpen : Bool) (n : Nat) (isLast : Bool) (line : List Char) :
    Bool × Bool :=
  let isAt : Address → Bool := fun
    | .line k => k = n
    | .last => isLast
    | .matching r => (Regex.find? false r true line).isSome
  match command.addresses with
  | [] => (true, false)
  | [one] => (isAt one, false)
  | low :: high :: _ =>
    if isOpen then
      let ends := match high with
        | .line k => k ≤ n
        | _ => isAt high
      (true, !ends)
    else if isAt low then
      (true, match high with
        | .line k => n < k
        | .last => !isLast
        | .matching _ => true)
    else (false, false)

structure Edited where
  line : Option (List Char)
  before : List (List Char)
  after : List (List Char)
  status : Option Nat
  opens : List Bool

def editLine (n : Nat) (isLast : Bool) : List (EditCommand × Bool) → List Char → Edited
  | [], line => ⟨some line, [], [], none, []⟩
  | (command, isOpen) :: rest, line =>
    let (picked, isOpen) := command.picks isOpen n isLast line
    let opens := isOpen :: rest.map (·.2)
    let go (line : List Char) (before after : List (List Char)) : Edited :=
      let more := editLine n isLast rest line
      { more with before := before ++ more.before, after := after ++ more.after,
                  opens := isOpen :: more.opens }
    if picked == command.inverted then go line [] []
    else
      match command.edit with
      | .delete => ⟨none, [], [], none, opens⟩
      | .print => go line [line] []
      | .quit status => ⟨some line, [], [], some status, opens⟩
      | .insert text => go line [text] []
      | .append text => go line [] [text]
      | .change text => ⟨none, if isOpen then [] else [text], [], none, opens⟩
      | .exchange pairs => go (line.map fun c => (pairs.lookup c).getD c) [] []
      | .number => go line [(toString n).toList] []
      | .substitute r folded replacement first all printed =>
        let (line, changed) := substituted r folded replacement all (line.length + 2) (first - 1)
          true line
        go line (if changed && printed then [line] else []) []

def editLines (commands : List EditCommand) (silent : Bool) :
    Nat → List Bool → List (List Char) → List (List Char) × Nat
  | _, _, [] => ([], 0)
  | n, opens, line :: rest =>
    let edited := editLine n rest.isEmpty (commands.zip opens) line
    let own := edited.before ++ (if silent then [] else edited.line.toList) ++ edited.after
    match edited.status with
    | some status => (own, status)
    | none =>
      let (more, status) := editLines commands silent (n + 1) edited.opens rest
      (own ++ more, status)

end EditCommand

def sed : Tool := fun w args =>
  let known : Known := ⟨"nErsuz", "ei", [("quiet", 'n'), ("silent", 'n'), ("expression", 'e'),
    ("regexp-extended", 'E')]⟩
  let inPlace := args.any fun word => word = "-i"
  withOptions w known false 1 (args.filter (· != "-i")) fun given =>
    let scripts := (given.options.filter fun o => o.1 == 'e').map (·.2)
    let (script, files) := match scripts, given.operands with
      | [], script :: files => (script, files)
      | scripts, files => ("\n".intercalate scripts, files)
    let extended := given.has 'E' || given.has 'r'
    match EditCommand.ofChars extended (script.length + 2) script.toList with
    | none => fails w "sed" "unknown command" 1
    | some commands =>
      let edited (text : String) : String × Nat :=
        let (lines, status) := EditCommand.editLines commands (given.has 'n') 1
          (commands.map fun _ => false) (linesOf text)
        (textOfLines lines, status)
      if inPlace then
        let machine := files.foldl (fun machine path =>
          match machine.locate path, machine.file? path with
          | some place, some file => machine.write place (edited file.text).1
          | _, _ => machine) w.machine
        let missing := files.any fun path => (w.machine.file? path).isNone
        .done [] machine (if missing then 2 else 0)
      else overTexts w "sed" 2 files fun texts => edited (String.join (texts.map (·.2)))

end LedgerBench.Shell.Tool
