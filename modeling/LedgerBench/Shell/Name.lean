import LedgerBench.Decimal.Digits

/-! The names of variables, of other parameters, and of the commands that belong to the shell itself.
-/

namespace LedgerBench.Shell

def isNameStart (c : Char) : Bool :=
  c.isAlpha || c = '_'

def isNameRest (c : Char) : Bool :=
  isNameStart c || Decimal.isDigit c

def isName (text : String) : Bool :=
  match text.toList with
  | [] => false
  | c :: rest => isNameStart c && rest.all isNameRest

def isSpecial (c : Char) : Bool :=
  "*@#?!$-".toList.contains c || Decimal.isDigit c

def assignmentOf? (text : String) : Option (String × String) :=
  let name := String.ofList (text.toList.takeWhile isNameRest)
  match text.toList.dropWhile isNameRest with
  | '=' :: value => if isName name then some (name, String.ofList value) else none
  | _ => none

/-- Commands whose errors end the shell and whose assignments stay. -/
def specialCommands : List String :=
  [".", ":", "break", "continue", "eval", "exec", "exit", "export", "local", "readonly", "return",
    "set", "shift", "times", "trap", "unset"]

def ordinaryCommands : List String :=
  ["[", "alias", "bg", "cd", "chdir", "command", "echo", "false", "fg", "getopts", "hash", "jobs",
    "kill", "printf", "pwd", "read", "test", "true", "type", "ulimit", "umask", "unalias",
    "wait"]

def isBuiltIn (name : String) : Bool :=
  specialCommands.contains name || ordinaryCommands.contains name

end LedgerBench.Shell
