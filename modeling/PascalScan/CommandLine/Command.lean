import PascalScan.CommandLine.Options
import PascalScan.SourceFile

/-!
# The command

The command scans one source file. It ends with status 0 if the source has no diagnostics, with 1
if it has some, and with 2 if its arguments are refused; help is given with status 0.
-/

namespace PascalScan.CommandLine

/-- Why the command breaks off. -/
inductive CommandFault where
  | file (fault : FileFault)
  /-- An option was left without a value. -/
  | noPath
  deriving DecidableEq, Repr

def CommandFault.message : CommandFault → String
  | file fault => fault.message
  | noPath => "expected str, bytes or os.PathLike object, not list"

/-- The effects of a command: the tree it leaves, its log, what it writes beside that to the
output and the error output, and the status it ends with. -/
structure Execution where
  tree : FileTree
  log : List Logging.Entry
  output : String
  errorOutput : String
  status : Except CommandFault Nat

/-- Scans the source that options name. Without an output directory the source is still read. -/
def scanNamed (t : FileTree) (o : Options) : Execution :=
  match o.source?, o.output? with
  | none, _ => ⟨t, [], "", "", .error .noPath⟩
  | some source, none =>
      match readSource t source with
      | .error fault => ⟨t, [], "", "", .error (.file fault)⟩
      | .ok _ => ⟨t, [], "", "", .error .noPath⟩
  | some source, some output =>
      let r := runFile t source output
      match r.outcome with
      | .error fault => ⟨r.tree, r.log, "", "", .error (.file fault)⟩
      | .ok success => ⟨r.tree, r.log, "", "", .ok (if success then 0 else 1)⟩

def execute (t : FileTree) (defaults : Options) (arguments : List String) : Execution :=
  match request defaults arguments with
  | .help => ⟨t, [], helpText, "", .ok 0⟩
  | .refuse fault => ⟨t, [], "", usageReport fault, .ok 2⟩
  | .scan o => scanNamed t o

end PascalScan.CommandLine
