import PascalScan.CommandLine.Command
import PascalScan.Logging.Registry
import Std.Time

/-!
# The program

Scans the source file that the command line and the environment name, on the real file system.
-/

open PascalScan

namespace PascalScan.Main

/-- The time at which a line is logged. -/
def stamp : IO String := do
  return (← Std.Time.PlainDateTime.now).format "uuuu-MM-dd HH:mm:ss,SSS"

/-- The program's loggers, by the level that the environment asks for. -/
def loggers : IO Logging.Registry := do
  let setting := (← IO.getEnv "LOG_LEVEL").getD Logging.defaultSetting
  match (Logging.Registry.initial.acquire setting Logging.lexerService).bind fun r =>
      r.acquire setting Logging.gateway with
  | .ok r => return r
  | .error e => throw (IO.userError e.message)

/-- Logs an entry. -/
def log (r : Logging.Registry) (e : Logging.Entry) : IO Unit := do
  IO.print (r.emit (← stamp) e)

/-- The path that an option gives. -/
def path (given : Option String) : IO String :=
  match given with
  | some p => return p
  | none => throw (IO.userError CommandLine.CommandFault.noPath.message)

/-- Scans a source file into two record files; whether it has no diagnostics. -/
def scanFile (r : Logging.Registry) (o : CommandLine.Options) : IO Bool := do
  let source ← path o.source?
  match decodeSource (← IO.FS.readBinFile source).toList with
  | .error fault => throw (IO.userError fault.message)
  | .ok text =>
      let output ← path o.output?
      IO.FS.createDirAll output
      let tokenFile := PathText.join output tokenFileName
      let diagnosticFile := PathText.join output diagnosticFileName
      let s := scan text
      IO.FS.writeFile tokenFile (Layout.tokenText s.tokens)
      IO.FS.writeFile diagnosticFile (Layout.diagnosticText s.diagnostics)
      (scanLog text).forM (log r)
      log r (runEntry source tokenFile diagnosticFile s.success)
      return s.success

end PascalScan.Main

def main (arguments : List String) : IO UInt32 := do
  let r ← PascalScan.Main.loggers
  let defaults := CommandLine.Options.ofEnvironment (← IO.getEnv "SOURCE_PATH")
    (← IO.getEnv "OUTPUT_DIR")
  match CommandLine.request defaults arguments with
  | .help =>
      IO.print CommandLine.helpText
      return 0
  | .refuse fault =>
      IO.eprint (CommandLine.usageReport fault)
      return 2
  | .scan o => return if ← PascalScan.Main.scanFile r o then 0 else 1
