import LedgerBench.Register
import LedgerBench.Shell.Command
import LedgerBench.Shell.Name

/-! Reading a script, one complete line of commands at a time, so that what stands further down is
looked at only when the commands before it have been run. -/

namespace LedgerBench.Shell

inductive Token where
  | word (word : Word)
  | keyword (text : String)
  | sign (text : String)
  | arrow (stream : Nat) (text : String)
  | newline
  | finish

/-- Words that are no commands where a command may begin. -/
def keywords : List String :=
  ["!", "case", "do", "done", "elif", "else", "esac", "fi", "for", "if", "in", "then", "until",
    "while", "\x7b", "\x7d"]

def Token.endsList : Token → Bool
  | .keyword text => ["do", "done", "elif", "else", "esac", "fi", "then", "\x7d"].contains text
  | .sign text => text == ")" || text == ";;"
  | .finish => true
  | _ => false

structure Script where
  rest : List Char
  entered : List (String × Nat)

def Script.ofText (text : String) : Script :=
  ⟨text.toList, []⟩

structure Cursor where
  script : Script
  held : Option Token
  aliases : Register String String

abbrev Reader (α : Type) := StateT Cursor Option α

namespace Reader

def rest : Reader (List Char) :=
  return (← get).script.rest

def moveTo (rest : List Char) : Reader Unit :=
  modify fun c => { c with script := { c.script with rest } }

def hold (token : Token) : Reader Unit :=
  modify fun c => { c with held := some token }

/-- The text of an alias, into which the reading goes, unless it is there already. -/
def enterAlias (name : String) : Reader Bool := do
  let c ← get
  let left := c.script.rest.length
  let entered := c.script.entered.filter fun e => e.2 ≤ left
  match c.aliases.get? name with
  | none => return false
  | some text =>
    if entered.any fun e => e.1 == name then return false
    else
      let script := { c.script with
        rest := text.toList ++ c.script.rest
        entered := (name, left) :: entered }
      set { c with script }
      return true

/-- Whether a word that was read from one place to another stands right after an alias whose text
ends with a blank. Such a word may be an alias too. -/
def followsAlias (before after : Nat) : Reader Bool := do
  let c ← get
  return c.script.entered.any fun (name, left) =>
    after < left && left < before && (c.aliases.get? name).any fun text =>
      text.toList.getLast?.any fun last => last == ' ' || last == '\t'

/-! ### Characters -/

def endsWord (c : Char) : Bool :=
  " \t\n;&|<>()".toList.contains c

inductive Place where
  | word
  | mark
  | braces
  | quotes
  | quotedBraces
  | innerQuotes
  | document
  | expression (depth : Nat)

def Place.isQuoted : Place → Bool
  | .word | .mark | .braces => false
  | _ => true

def Place.mayFinish : Place → Bool
  | .word | .mark | .document => true
  | _ => false

def Place.stopsBefore : Place → Char → Bool
  | .word, c | .mark, c => endsWord c
  | _, _ => false

/-- What a backslash with a character after it stands for: nothing at the end of a line, and the
character alone where it would mean something else without the backslash. -/
def Place.escape (place : Place) (c : Char) : List Char :=
  if c = '\n' then []
  else if !place.isQuoted then [c]
  else
    let special := match place with
      | .document => "\\$\x60"
      | .quotedBraces | .innerQuotes => "\\$\x60\"\x7d"
      | _ => "\\$\x60\""
    if special.toList.contains c then [c] else ['\\', c]

def takeParameter : List Char → Option (String × Bool × List Char)
  | '#' :: c :: rest =>
    if isNameStart c then some (name c rest, true, rest.dropWhile isNameRest)
    else if Decimal.isDigit c then some (number c rest, true, rest.dropWhile Decimal.isDigit)
    else if rest.head? = some '\x7d' && c != '\x7d' then
      if isSpecial c then some (String.singleton c, true, rest) else none
    else some ("#", false, c :: rest)
  | c :: rest =>
    if isNameStart c then some (name c rest, false, rest.dropWhile isNameRest)
    else if Decimal.isDigit c then some (number c rest, false, rest.dropWhile Decimal.isDigit)
    else if isSpecial c then some (String.singleton c, false, rest)
    else none
  | [] => none
where
  name (c : Char) (rest : List Char) : String := String.ofList (c :: rest.takeWhile isNameRest)
  number (c : Char) (rest : List Char) : String :=
    String.ofList (c :: rest.takeWhile Decimal.isDigit)

inductive Sign where
  | keep
  | cut (back longest : Bool)
  | onValue (change : Bool → Word → Change) (orEmpty : Bool)
  | unknown

def takeSign : List Char → Sign × List Char
  | '\x7d' :: rest => (.keep, '\x7d' :: rest)
  | '#' :: '#' :: rest => (.cut false true, rest)
  | '#' :: rest => (.cut false false, rest)
  | '%' :: '%' :: rest => (.cut true true, rest)
  | '%' :: rest => (.cut true false, rest)
  | ':' :: c :: rest => (onValue true c, rest)
  | c :: rest => (onValue false c, rest)
  | [] => (.unknown, [])
where
  onValue (orEmpty : Bool) (c : Char) : Sign :=
    if c = '-' then .onValue .orElse orEmpty
    else if c = '=' then .onValue .assign orEmpty
    else if c = '?' then .onValue .demand orEmpty
    else if c = '+' then .onValue .ifSet orEmpty
    else .unknown

def takeBackquoted (quoted : Bool) : List Char → Option (List Char × List Char)
  | [] => none
  | '\x60' :: rest => some ([], rest)
  | '\\' :: c :: rest =>
    (takeBackquoted quoted rest).map fun (text, rest) =>
      if c = '\n' then (text, rest)
      else if c = '\\' ∨ c = '$' ∨ c = '\x60' ∨ (c = '"' ∧ quoted) then (c :: text, rest)
      else ('\\' :: c :: text, rest)
  | c :: rest => (takeBackquoted quoted rest).map fun (text, rest) => (c :: text, rest)

def takeDocument (stripped : Bool) (mark : List Char) : Nat → List Char → List Char × List Char
  | 0, text => (text, [])
  | fuel + 1, text =>
    if text.isEmpty then ([], [])
    else
      let line := text.takeWhile (· != '\n')
      let line := if stripped then line.dropWhile (· == '\t') else line
      let rest := (text.dropWhile (· != '\n')).tail
      if line = mark then ([], rest)
      else
        let (body, after) := takeDocument stripped mark fuel rest
        (line ++ '\n' :: body, after)

def takeArrow : Char → List Char → String × List Char
  | '<', '<' :: '-' :: rest => ("<<-", rest)
  | '<', '<' :: rest => ("<<", rest)
  | '<', '&' :: rest => ("<&", rest)
  | '<', '>' :: rest => ("<>", rest)
  | '>', '>' :: rest => (">>", rest)
  | '>', '|' :: rest => (">|", rest)
  | '>', '&' :: rest => (">&", rest)
  | c, rest => (String.singleton c, rest)

def defaultStream (c : Char) : Nat :=
  if c = '<' then 0 else 1

def streamOf? : Word → Option Nat
  | [.glyph c false] => Decimal.digitValue c
  | _ => none

def assignment? (word : Word) : Option (String × Word) :=
  let isRest : Part → Bool := fun
    | .glyph c false => isNameRest c
    | _ => false
  match Word.plain? (word.takeWhile isRest), word.dropWhile isRest with
  | some name, .glyph '=' false :: value => if isName name then some (name, value) else none
  | _, _ => none

/-! ### Words, tokens and commands -/

structure Look where
  overNewlines : Bool
  keywords : Bool
  aliases : Bool

namespace Look

def plain : Look := ⟨false, false, false⟩
def command : Look := ⟨false, true, true⟩
def anywhere : Look := ⟨true, true, true⟩
def clause : Look := ⟨true, true, false⟩

end Look

def followed (first : Command) : Command → Command
  | .nothing => first
  | second => .sequence first second

def redirected (command : Command) : List Redirect → Command
  | [] => command
  | redirects => .redirected command redirects

def allArguments : Word := [.parameter "@" .keep true]

mutual

def parts : Nat → Place → Reader Word
  | 0, _ => failure
  | fuel + 1, place => do
    match ← rest with
    | [] => if place.mayFinish then return [] else failure
    | c :: left =>
      if place.stopsBefore c then return []
      moveTo left
      match place, c with
      | .braces, '\x7d' | .quotedBraces, '\x7d' | .quotes, '"' | .innerQuotes, '"' => return []
      | .expression depth, '(' => return .glyph c true :: (← parts fuel (.expression (depth + 1)))
      | .expression 0, ')' =>
        match left with
        | ')' :: left =>
          moveTo left
          return []
        | _ => return .glyph c true :: (← parts fuel (.expression 0))
      | .expression (depth + 1), ')' => return .glyph c true :: (← parts fuel (.expression depth))
      | .mark, '$' | .mark, '\x60' => return .glyph c false :: (← parts fuel place)
      | place, '$' =>
        let part ← substitution fuel place.isQuoted
        return part :: (← parts fuel place)
      | place, '\x60' =>
        let (text, left) ← takeBackquoted place.isQuoted left
        let (command, _) ← (list fuel true).run
          { (← get) with script := .ofText (String.ofList text) }
        moveTo left
        return .output command place.isQuoted :: (← parts fuel place)
      | place, '\\' =>
        match left with
        | [] => return [.glyph c true]
        | e :: left =>
          moveTo left
          return Word.quoted (place.escape e) ++ (← parts fuel place)
      | .word, '\'' | .mark, '\'' | .braces, '\'' =>
        match left.dropWhile (· != '\'') with
        | [] => failure
        | _ :: after =>
          moveTo after
          let text := Word.quoted (left.takeWhile (· != '\''))
          return .quotes :: text ++ (← parts fuel place)
      | .word, '"' | .mark, '"' | .braces, '"' =>
        match ← parts fuel .quotes with
        | [.parameter "@" .keep true] => return allArguments ++ (← parts fuel place)
        | inside => return .quotes :: inside ++ (← parts fuel place)
      | .quotedBraces, '"' =>
        let inside ← parts fuel .innerQuotes
        return inside ++ (← parts fuel place)
      | place, c => return .glyph c place.isQuoted :: (← parts fuel place)

def substitution : Nat → Bool → Reader Part
  | 0, _ => failure
  | fuel + 1, quoted => do
    match ← rest with
    | '(' :: '(' :: left =>
      moveTo left
      return .number (← parts fuel (.expression 0)) quoted
    | '(' :: left =>
      moveTo left
      let command ← list fuel true
      expectSign fuel ")"
      return .output command quoted
    | '\x7b' :: left =>
      moveTo left
      braced fuel quoted
    | c :: left =>
      if isNameStart c then
        moveTo (left.dropWhile isNameRest)
        return .parameter (String.ofList (c :: left.takeWhile isNameRest)) .keep quoted
      else if isSpecial c then
        moveTo left
        return .parameter (String.singleton c) .keep quoted
      else return .glyph '$' quoted
    | [] => return .glyph '$' quoted

def braced : Nat → Bool → Reader Part
  | 0, _ => failure
  | fuel + 1, quoted => do
    let place : Place := if quoted then .quotedBraces else .braces
    match takeParameter (← rest) with
    | none =>
      let _ ← parts fuel place
      return .parameter "" .unknown quoted
    | some (name, true, left) =>
      moveTo left
      let more ← parts fuel place
      return .parameter name (if more.isEmpty then .size else .unknown) quoted
    | some (name, false, left) =>
      let (sign, left) := takeSign left
      moveTo left
      match sign with
      | .cut back longest =>
        return .parameter name (.cut back longest (← parts fuel .braces)) quoted
      | sign =>
        let word ← parts fuel place
        match sign with
        | .onValue change orEmpty => return .parameter name (change orEmpty word) quoted
        | .keep => return .parameter name .keep quoted
        | _ => return .parameter name .unknown quoted

def freshToken : Nat → Reader Token
  | 0 => failure
  | fuel + 1 => do
    match ← rest with
    | [] => return .finish
    | ' ' :: left | '\t' :: left | '\\' :: '\n' :: left =>
      moveTo left
      freshToken fuel
    | '#' :: left =>
      moveTo (left.dropWhile (· != '\n'))
      freshToken fuel
    | '\n' :: left =>
      moveTo left
      return .newline
    | '&' :: '&' :: left | '|' :: '|' :: left | ';' :: ';' :: left => do
      let sign := String.ofList ((← rest).take 2)
      moveTo left
      return .sign sign
    | c :: left =>
      if "&|;()".toList.contains c then
        moveTo left
        return .sign (String.singleton c)
      else if c = '<' ∨ c = '>' then
        let (arrow, left) := takeArrow c left
        moveTo left
        return .arrow (defaultStream c) arrow
      else
        let word ← parts fuel .word
        match streamOf? word, ← rest with
        | some stream, '<' :: left =>
          let (arrow, left) := takeArrow '<' left
          moveTo left
          return .arrow stream arrow
        | some stream, '>' :: left =>
          let (arrow, left) := takeArrow '>' left
          moveTo left
          return .arrow stream arrow
        | _, _ => return .word word

def token : Nat → Look → Reader Token
  | 0, _ => failure
  | fuel + 1, look => do
    let token? := (← get).held
    modify fun c => { c with held := none }
    let before := (← rest).length
    let next ← match token? with
      | some t => pure t
      | none => freshToken fuel
    match next with
    | .newline => if look.overNewlines then token fuel look else return next
    | .word word =>
      match word.plain? with
      | none => return next
      | some text =>
        if look.keywords && keywords.contains text then return .keyword text
        if look.aliases || (← followsAlias before (← rest).length) then
          if ← enterAlias text then token fuel look else return next
        else return next
    | _ => return next

def expectSign : Nat → String → Reader Unit
  | 0, _ => failure
  | fuel + 1, text => do
    match ← token fuel .plain with
    | .sign found => if found = text then return () else failure
    | _ => failure

def expectKeyword : Nat → Look → String → Reader Unit
  | 0, _, _ => failure
  | fuel + 1, look, text => do
    match ← token fuel look with
    | .keyword found => if found = text then return () else failure
    | _ => failure

/-- What a redirection leads to, after its sign. The text of a document is taken out of the lines
that follow. -/
def redirect : Nat → Nat → String → Reader Redirect
  | 0, _, _ => failure
  | fuel + 1, stream, arrow => do
    if arrow = "<<" ∨ arrow = "<<-" then
      moveTo ((← rest).dropWhile fun c => c = ' ' ∨ c = '\t')
      let mark ← parts fuel .mark
      if mark.isEmpty then failure
      let left ← rest
      let line := left.takeWhile (· != '\n')
      let (body, after) := takeDocument (arrow = "<<-") mark.characters (left.length + 1)
        (left.drop (line.length + 1))
      let body ← if mark.hasQuotes then pure (Word.quoted body) else
        let (word, _) ← (parts fuel .document).run
          { (← get) with script := .ofText (String.ofList body) }
        pure word
      moveTo (line ++ '\n' :: after)
      return .text stream body
    else
      match ← token fuel .plain with
      | .word word =>
        match arrow with
        | "<&" | ">&" => return .copy stream word
        | "<" => return .file stream .read word
        | "<>" => return .file stream .update word
        | ">>" => return .file stream .append word
        | ">|" => return .file stream .overwrite word
        | _ => return .file stream .write word
      | _ => failure

def redirects : Nat → Reader (List Redirect)
  | 0 => failure
  | fuel + 1 => do
    match ← token fuel .command with
    | .arrow stream arrow =>
      let first ← redirect fuel stream arrow
      return first :: (← redirects fuel)
    | t =>
      hold t
      return []

def list : Nat → Bool → Reader Command
  | 0, _ => failure
  | fuel + 1, mayBeEmpty => do
    let t ← token fuel .anywhere
    hold t
    if mayBeEmpty && t.endsList then return .nothing
    let first ← andOr fuel .anywhere
    match ← token fuel .plain with
    | .sign "&" => return followed (.background first) (← list fuel true)
    | .sign ";" | .newline => return followed first (← list fuel true)
    | t =>
      hold t
      return first

def lineOfCommands : Nat → Reader Command
  | 0 => failure
  | fuel + 1 => do
    match ← token fuel .command with
    | .newline => return .nothing
    | .finish =>
      hold .finish
      return .nothing
    | t =>
      hold t
      let first ← andOr fuel .command
      match ← token fuel .plain with
      | .sign "&" => return followed (.background first) (← lineOfCommands fuel)
      | .sign ";" => return followed first (← lineOfCommands fuel)
      | .newline => return first
      | .finish =>
        hold .finish
        return first
      | _ => failure

def andOr : Nat → Look → Reader Command
  | 0, _ => failure
  | fuel + 1, look => do
    let first ← pipeline fuel look
    chain fuel first

def chain : Nat → Command → Reader Command
  | 0, _ => failure
  | fuel + 1, first => do
    match ← token fuel .plain with
    | .sign "&&" =>
      let second ← pipeline fuel .anywhere
      chain fuel (.andThen first second)
    | .sign "||" =>
      let second ← pipeline fuel .anywhere
      chain fuel (.orElse first second)
    | t =>
      hold t
      return first

def pipeline : Nat → Look → Reader Command
  | 0, _ => failure
  | fuel + 1, look => do
    match ← token fuel look with
    | .keyword "!" => return .negate (← piped fuel .command)
    | t =>
      hold t
      piped fuel look

def piped : Nat → Look → Reader Command
  | 0, _ => failure
  | fuel + 1, look => do
    let first ← command fuel look
    match ← pipedAfter fuel with
    | [] => return first
    | more => return .pipeline (first :: more)

def pipedAfter : Nat → Reader (List Command)
  | 0 => failure
  | fuel + 1 => do
    match ← token fuel .plain with
    | .sign "|" =>
      let next ← command fuel .anywhere
      return next :: (← pipedAfter fuel)
    | t =>
      hold t
      return []

def command : Nat → Look → Reader Command
  | 0, _ => failure
  | fuel + 1, look => do
    match ← token fuel look with
    | .keyword "if" => redirected (← branch fuel) <$> redirects fuel
    | .keyword "while" => redirected (← loop fuel true) <$> redirects fuel
    | .keyword "until" => redirected (← loop fuel false) <$> redirects fuel
    | .keyword "for" => redirected (← each fuel) <$> redirects fuel
    | .keyword "case" =>
      match ← token fuel .plain with
      | .word subject =>
        expectKeyword fuel .anywhere "in"
        redirected (.choice subject (← clauses fuel)) <$> redirects fuel
      | _ => failure
    | .keyword "\x7b" =>
      let body ← list fuel false
      expectKeyword fuel .plain "\x7d"
      redirected body <$> redirects fuel
    | .sign "(" =>
      let body ← list fuel false
      expectSign fuel ")"
      return .enclosed body (← redirects fuel)
    | .word word =>
      hold (.word word)
      simple fuel true [] [] []
    | .arrow stream arrow =>
      hold (.arrow stream arrow)
      simple fuel true [] [] []
    | _ => failure

def branch : Nat → Reader Command
  | 0 => failure
  | fuel + 1 => do
    let condition ← list fuel false
    expectKeyword fuel .plain "then"
    let yes ← list fuel false
    match ← token fuel .plain with
    | .keyword "elif" => return .branch condition yes (← branch fuel)
    | .keyword "else" =>
      let no ← list fuel false
      expectKeyword fuel .plain "fi"
      return .branch condition yes no
    | .keyword "fi" => return .branch condition yes .nothing
    | _ => failure

def loop : Nat → Bool → Reader Command
  | 0, _ => failure
  | fuel + 1, outcome => do
    let condition ← list fuel false
    expectKeyword fuel .plain "do"
    let body ← list fuel false
    expectKeyword fuel .plain "done"
    return .loop outcome condition body

def each : Nat → Reader Command
  | 0 => failure
  | fuel + 1 => do
    match ← token fuel .plain with
    | .word word =>
      match word.plain? with
      | none => failure
      | some name =>
        if !isName name then failure
        let words ← match ← token fuel .anywhere with
          | .keyword "in" => wordsOfLine fuel
          | .sign ";" => pure [allArguments]
          | t => do
            hold t
            pure [allArguments]
        expectKeyword fuel .anywhere "do"
        let body ← list fuel false
        expectKeyword fuel .plain "done"
        return .each name words body
    | _ => failure

def wordsOfLine : Nat → Reader (List Word)
  | 0 => failure
  | fuel + 1 => do
    match ← token fuel .plain with
    | .word word => return word :: (← wordsOfLine fuel)
    | .newline | .sign ";" => return []
    | _ => failure

def clauses : Nat → Reader (List (List Word × Command))
  | 0 => failure
  | fuel + 1 => do
    match ← token fuel .clause with
    | .keyword "esac" => return []
    | t =>
      match t with
      | .sign "(" => pure ()
      | t => hold t
      let patterns ← patterns fuel
      let body ← list fuel true
      match ← token fuel .clause with
      | .keyword "esac" => return [(patterns, body)]
      | .sign ";;" => return (patterns, body) :: (← clauses fuel)
      | _ => failure

def patterns : Nat → Reader (List Word)
  | 0 => failure
  | fuel + 1 => do
    let pattern : Word ← match ← token fuel .plain with
      | .word word => pure word
      | .keyword text => pure (text.toList.map fun c => .glyph c false)
      | _ => failure
    match ← token fuel .plain with
    | .sign "|" => return pattern :: (← patterns fuel)
    | .sign ")" => return [pattern]
    | _ => failure

/-- A simple command, or a function, which begins like one. What has been read of it is kept
backwards. -/
def simple : Nat → Bool → List (String × Word) → List Word → List Redirect → Reader Command
  | 0, _, _, _, _ => failure
  | fuel + 1, assigning, assignments, words, redirects => do
    match ← token fuel ⟨false, false, assigning⟩ with
    | .word word =>
      match if assigning then assignment? word else none with
      | some a => simple fuel true (a :: assignments) words redirects
      | none => simple fuel false assignments (word :: words) redirects
    | .arrow stream arrow =>
      let r ← redirect fuel stream arrow
      simple fuel assigning assignments words (r :: redirects)
    | t =>
      match t, assignments, words, redirects with
      | .sign "(", [], [name], [] =>
        expectSign fuel ")"
        match Word.plain? name with
        | none => failure
        | some name =>
          if !isName name || specialCommands.contains name then failure
          return .define name (← command fuel .anywhere)
      | t, _, _, _ =>
        hold t
        return .simple assignments.reverse words.reverse redirects.reverse

end

end Reader

inductive Reading where
  | finished
  | line (command : Command) (script : Script)
  | malformed

def Script.next (aliases : Register String String) (script : Script) : Reading :=
  match (Reader.lineOfCommands (20 * script.rest.length + 100)).run ⟨script, none, aliases⟩ with
  | none => .malformed
  | some (.nothing, cursor) =>
    if cursor.script.rest.isEmpty then .finished else .line .nothing cursor.script
  | some (command, cursor) => .line command cursor.script

end LedgerBench.Shell
