/-! How a process ended or changed. -/

namespace LedgerBench

structure WaitStatus where
  word : UInt32
  deriving Repr, DecidableEq

namespace WaitStatus

def exited (code : UInt8) : WaitStatus := ⟨code.toUInt32 <<< 8⟩

def signaled (signal : UInt8) : WaitStatus := ⟨signal.toUInt32 &&& 0x7f⟩

def signalNames : List String :=
  ["HUP", "INT", "QUIT", "ILL", "TRAP", "ABRT", "BUS", "FPE", "KILL", "USR1", "SEGV", "USR2",
    "PIPE", "ALRM", "TERM", "STKFLT", "CHLD", "CONT", "STOP", "TSTP", "TTIN", "TTOU", "URG", "XCPU",
    "XFSZ", "VTALRM", "PROF", "WINCH", "IO", "PWR", "SYS"]

def signalText (signal : Nat) : String :=
  match signal, signalNames[signal - 1]? with
  | 0, _ | _, none => toString signal
  | _, some name => toString signal ++ " (SIG" ++ name ++ ")"

/-- The status as a shell shows it in a number: that of an exit, and 128 more than the number of a
signal. -/
def code (status : WaitStatus) : Nat :=
  let low := (status.word &&& 0x7f).toNat
  if low = 0 then (status.word >>> 8 &&& 0xff).toNat else 128 + low

/-- The text of a status. The lowest seven bits tell an exit from a signal and from a process that
has only stopped. -/
def text (status : WaitStatus) : String :=
  let low := (status.word &&& 0x7f).toNat
  let high := (status.word >>> 8 &&& 0xff).toNat
  if low = 0 then "exit status: " ++ toString high
  else if low < 0x7f then
    "signal: " ++ signalText low ++ (if status.word &&& 0x80 = 0 then "" else " (core dumped)")
  else if status.word &&& 0x80 = 0 then
    "stopped (not terminated) by signal: " ++ signalText high
  else if status.word = 0xffff then "continued (WIFCONTINUED)"
  else
    "unrecognised wait status: " ++ toString status.word.toInt32.toInt ++ " 0x" ++
      String.ofList (Nat.toDigits 16 status.word.toNat)

end WaitStatus

end LedgerBench
