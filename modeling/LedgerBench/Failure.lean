import LedgerBench.Ledger.Amount

/-! Failures of hooks, steps and helpers: a cause under the contexts that were added to it on its
way out. Whether a failure ends the whole suite depends on its cause alone, whatever the contexts;
the cause of a nested chain's failure is the step of that chain, so it ends nothing. -/

namespace LedgerBench

/-- What went wrong. After an aborted suite nothing more is run, and the stop signal has cut short
what was cancelled. -/
inductive Cause where
  | plain (text : String)
  | aborted (reason : String)
  | cancelled
  | amount (error : AmountError)
  | step (label : String) (contexts : List String) (cause : Cause)
  deriving Repr, DecidableEq

namespace Cause

def parts : Cause → List String
  | .plain text => [text]
  | .aborted reason => ["Suite aborted: " ++ reason]
  | .cancelled => ["Execution cancelled by shutdown signal"]
  | .amount error => [error.message]
  | .step label contexts cause =>
    let inner := contexts ++ cause.parts
    (label ++ ": " ++ Json.joined ": " inner) :: inner

def connectionLost : Cause := .aborted "connection to the server was lost"

end Cause

structure Failure where
  contexts : List String
  cause : Cause
  deriving Repr, DecidableEq

namespace Failure

def ofCause (cause : Cause) : Failure := ⟨[], cause⟩

def plain (text : String) : Failure := ofCause (.plain text)

def inContext (failure : Failure) (context : String) : Failure :=
  { failure with contexts := context :: failure.contexts }

/-- The contexts and causes from the outside in. -/
def text (failure : Failure) : String :=
  Json.joined ": " (failure.contexts ++ failure.cause.parts)

/-- Why the rest of the suite is skipped after this failure; `none` when it goes on. -/
def abortReason? (failure : Failure) : Option String :=
  match failure.cause with
  | .aborted reason => some reason
  | .cancelled => some "shutdown requested"
  | _ => none

def isAborted (failure : Failure) : Bool :=
  match failure.cause with
  | .aborted _ => true
  | _ => false

def isCancelled (failure : Failure) : Bool :=
  failure.cause == .cancelled

@[simp] theorem abortReason?_inContext (failure : Failure) (context : String) :
    (failure.inContext context).abortReason? = failure.abortReason? := rfl

end Failure

def Except.inContext {α : Type} (result : Except Failure α) (context : String) :
    Except Failure α :=
  result.mapError (·.inContext context)

end LedgerBench
