/-! What a shell refuses to go on with. -/

namespace LedgerBench.Shell

inductive Fault where
  | readOnly (name : String)
  | badName (name : String)
  | badSubstitution
  | noValue (name text : String)
  | badNumber (text : String)
  | badExpression (reason text : String)
  | badStream (text : String)
  | misuse (command reason : String)
  | malformed
  deriving Repr, DecidableEq

def Fault.message : Fault → String
  | .readOnly name => name ++ ": is read only"
  | .badName name => name ++ ": bad variable name"
  | .badSubstitution => "Bad substitution"
  | .noValue name text => name ++ ": " ++ text
  | .badNumber text => "Illegal number: " ++ text
  | .badExpression reason text => "arithmetic expression: " ++ reason ++ ": \"" ++ text ++ "\""
  | .badStream text => text ++ ": Bad file descriptor"
  | .misuse command reason => command ++ ": " ++ reason
  | .malformed => "Syntax error"

def Fault.status : Nat := 2

end LedgerBench.Shell
