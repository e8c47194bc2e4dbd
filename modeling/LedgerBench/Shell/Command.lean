/-! The commands of a script, and the words of which they are made. Words stand for texts that are
known only when a command is run: they hold parameters, the outputs of other commands, and numbers
to be computed. -/

namespace LedgerBench.Shell

/-- What a file is opened for. Overwriting takes no notice of files that must not be overwritten. -/
inductive Access where
  | read
  | write
  | overwrite
  | append
  | update
  deriving Repr, DecidableEq

mutual

/-- A part of a word. A quoted part is neither divided nor taken for a pattern. -/
inductive Part where
  | glyph (char : Char) (quoted : Bool)
  | quotes
  | parameter (name : String) (change : Change) (quoted : Bool)
  | output (command : Command) (quoted : Bool)
  | number (expression : List Part) (quoted : Bool)

/-- What is made of the value of a parameter. Where it depends on whether there is a value, an empty
one may count as none. -/
inductive Change where
  | keep
  | size
  | cut (back longest : Bool) (pattern : List Part)
  | orElse (orEmpty : Bool) (word : List Part)
  | assign (orEmpty : Bool) (word : List Part)
  | demand (orEmpty : Bool) (word : List Part)
  | ifSet (orEmpty : Bool) (word : List Part)
  | unknown

inductive Redirect where
  | file (stream : Nat) (access : Access) (name : List Part)
  | copy (stream : Nat) (source : List Part)
  | text (stream : Nat) (body : List Part)

inductive Command where
  | nothing
  | simple (assignments : List (String × List Part)) (words : List (List Part))
    (redirects : List Redirect)
  | pipeline (commands : List Command)
  | background (command : Command)
  | sequence (first second : Command)
  | andThen (first second : Command)
  | orElse (first second : Command)
  | negate (command : Command)
  | branch (condition yes no : Command)
  | loop (outcome : Bool) (condition body : Command)
  | each (name : String) (words : List (List Part)) (body : Command)
  | choice (subject : List Part) (clauses : List (List (List Part) × Command))
  | define (name : String) (body : Command)
  | enclosed (command : Command) (redirects : List Redirect)
  | redirected (command : Command) (redirects : List Redirect)

end

abbrev Word := List Part

def Word.plain? (word : Word) : Option String :=
  (word.mapM fun
    | Part.glyph c false => some c
    | _ => none).map String.ofList

def Word.characters (word : Word) : List Char :=
  word.filterMap fun
    | .glyph c _ => some c
    | _ => none

def Word.hasQuotes (word : Word) : Bool :=
  word.any fun
    | .glyph _ quoted => quoted
    | .quotes => true
    | _ => false

def Word.quoted (text : List Char) : Word :=
  text.map fun c => .glyph c true

end LedgerBench.Shell
