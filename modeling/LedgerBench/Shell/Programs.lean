import LedgerBench.Shell.Process
import LedgerBench.Shell.Tool.Table

/-! What is found on a machine before anything is put there: programs, devices and directories. -/

namespace LedgerBench.Machine

open Shell (tools shellTools)

def programPlaces : List String := ["/usr/bin", "/bin"]

def devices : List (String × Device) :=
  [("/dev/null", .null), ("/dev/zero", .zero), ("/dev/full", .full), ("/dev/stdin", .stream 0),
    ("/dev/stdout", .stream 1), ("/dev/stderr", .stream 2), ("/dev/fd/0", .stream 0),
    ("/dev/fd/1", .stream 1), ("/dev/fd/2", .stream 2)]

def commonDirectories : List String :=
  ["/dev/fd", "/etc", "/home", "/opt", "/proc", "/root", "/run", "/sbin", "/srv", "/tmp",
    "/usr/lib", "/usr/local/bin", "/usr/local/sbin", "/usr/sbin", "/usr/share", "/var/log",
    "/var/tmp"]

def withPrograms (machine : Machine) : Machine :=
  let withDirectories := { machine with
    directories := machine.directories ++
      (commonDirectories.flatMap fun d => ancestors (d.length + 1) d).eraseDups.filter fun d =>
        !machine.directories.contains d }
  let withDevices := devices.foldl (fun machine (path, device) =>
    machine.putFile path ⟨.device device, false⟩) withDirectories
  (shellTools ++ tools.map Prod.fst).foldl (fun machine name =>
    programPlaces.foldl (fun machine place =>
      machine.putFile (place ++ "/" ++ name) ⟨.tool name, true⟩) machine) withDevices

end LedgerBench.Machine
