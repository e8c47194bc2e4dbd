import LedgerBench.Shell.Tool.Date
import LedgerBench.Shell.Tool.Edit
import LedgerBench.Shell.Tool.Expr
import LedgerBench.Shell.Tool.Files
import LedgerBench.Shell.Tool.Lines
import LedgerBench.Shell.Tool.Plain

/-! The tools of the machine by their names. -/

namespace LedgerBench.Shell

def tools : List (String × Tool) :=
  [("[", Tool.condition true), ("arch", Tool.line (fun _ => "x86_64") ""),
    ("basename", Tool.baseName), ("cat", Tool.cat), ("chmod", Tool.chmod), ("cp", Tool.cp),
    ("cut", Tool.cut), ("date", Tool.date), ("dirname", Tool.dirName), ("echo", Tool.echo),
    ("egrep", Tool.grep true false), ("env", Tool.env), ("expr", Tool.expr),
    ("false", Tool.constant 1), ("fgrep", Tool.grep false true), ("grep", Tool.grep false false),
    ("head", Tool.partTool "head" Tool.headOf), ("hostname", Tool.line (fun _ => "localhost") ""),
    ("id", Tool.identity), ("kill", Tool.kill), ("ln", Tool.ln), ("ls", Tool.ls),
    ("mkdir", Tool.mkdir), ("mktemp", Tool.mktemp), ("mv", Tool.mv),
    ("nice", Tool.nice),
    ("nohup", Tool.wrapper ⟨"", "", []⟩ (fun _ => true) 125 [1]), ("nproc", Tool.line (fun _ => "4") ""),
    ("printenv", Tool.printEnv), ("printf", Tool.printf),
    ("pwd", Tool.line (fun w => if w.machine.directory.isEmpty then "/" else w.machine.directory)
      "LP"),
    ("readlink", Tool.realPath "readlink" false), ("realpath", Tool.realPath "realpath" true),
    ("rev", Tool.lineTool "rev" (·.map List.reverse)), ("rm", Tool.rm), ("rmdir", Tool.rmdir),
    ("sed", Tool.sed), ("seq", Tool.seq), ("setsid", Tool.wrapper ⟨"fcw", "", []⟩ (fun _ => true) 1 []),
    ("sleep", Tool.sleep), ("sort", Tool.sort), ("stat", Tool.stat),
    ("stdbuf", Tool.stdbuf), ("sync", Tool.idle 1),
    ("tac", Tool.lineTool "tac" List.reverse), ("tail", Tool.partTool "tail" Tool.tailOf),
    ("tee", Tool.tee), ("test", Tool.condition false), ("timeout", Tool.timeout),
    ("touch", Tool.touch), ("tr", Tool.tr), ("true", Tool.constant 0),
    ("tty", Tool.tty), ("uname", Tool.line (fun _ => "Linux") "asnrm"),
    ("uniq", Tool.uniq), ("wc", Tool.wc), ("which", Tool.which),
    ("whoami", Tool.line (fun _ => "root") ""), ("xargs", Tool.xargs), ("yes", Tool.yes)]

end LedgerBench.Shell
