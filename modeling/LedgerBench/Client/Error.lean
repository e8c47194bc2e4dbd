import LedgerBench.Failure

/-! Failures of a request. -/

namespace LedgerBench

inductive RemoteError where
  | remote (error message : String)
  | transport (text : String)
  | closed
  | timeout
  | decode (text : String)
  deriving Repr, DecidableEq

namespace RemoteError

def message : RemoteError → String
  | .remote error message => error ++ ": " ++ message
  | .transport text => "transport error: " ++ text
  | .closed => "connection closed"
  | .timeout => "request timed out"
  | .decode text => "could not decode response: " ++ text

def category : RemoteError → String
  | .remote .. => "remoteError"
  | .transport _ => "transportError"
  | .closed => "connectionClosed"
  | .timeout => "timeout"
  | .decode _ => "decodeError"

def subcategory? : RemoteError → Option String
  | .remote error _ => some error
  | _ => none

def serverMessage? : RemoteError → Option String
  | .remote _ message => some message
  | _ => none

def isNotFound (e : RemoteError) : Bool :=
  e.subcategory? == some "entryNotFound" || e.subcategory? == some "actNotFound"

def ofEnvelope (envelope : Json) : RemoteError :=
  .remote ((envelope.stringField? "error").getD "unknown")
    ((envelope.stringField? "error_message").getD "")

/-- The failure of a step. A lost connection ends the suite, any other error only the step. -/
def toFailure : RemoteError → Failure
  | .closed => .ofCause .connectionLost
  | e => .plain ("Remote error: " ++ e.message)

end RemoteError
end LedgerBench
