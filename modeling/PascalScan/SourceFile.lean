import PascalScan.Layout
import PascalScan.FileTree.Access
import PascalScan.Text.LineEnd
import PascalScan.Text.Utf8

/-!
# Scanning a source file

A run reads a source file, scans it, and leaves two record files in an output directory. It goes
in steps, and a step that fails ends it: read and decode the source, make the directory, open the
token file, open the diagnostic file. Scanning and writing cannot fail.

`runFile` gives the tree that a run leaves, what it logs, and how it ended.
-/

namespace PascalScan

/-- Why a source was not scanned. -/
inductive FileFault where
  | access (fault : AccessFault)
  | undecodable (fault : DecodeFault)
  deriving DecidableEq, Repr

def FileFault.message : FileFault → String
  | access fault => fault.message
  | undecodable fault => fault.message

/-- The text of a source file: its bytes decoded, line ends made one, blanks at the ends dropped. -/
def decodeSource (bytes : List UInt8) : Except DecodeFault (List Char) :=
  (Utf8.decode bytes).map fun cs => Text.trim (Text.unifyLineEnds cs)

/-- Reads the text of a source file. -/
def readSource (t : FileTree) (path : String) : Except FileFault (List Char) :=
  match t.readFile path with
  | .error fault => .error (.access fault)
  | .ok bytes =>
      match decodeSource bytes with
      | .error fault => .error (.undecodable fault)
      | .ok text => .ok text

/-- The lines of the two record files as far as they are written, the latest first. -/
structure Streams where
  tokenLines : List String
  diagnosticLines : List String
  deriving DecidableEq, Repr

namespace Streams

def empty : Streams := ⟨[], []⟩

/-- What the token file holds. -/
def tokenText (s : Streams) : String := String.join s.tokenLines.reverse

/-- What the diagnostic file holds. -/
def diagnosticText (s : Streams) : String := String.join s.diagnosticLines.reverse

end Streams

/-- Sinks that write each record as a line; they refuse nothing. -/
def Sinks.writing : Sinks Streams Empty where
  token t st := .ok { st with tokenLines := Layout.tokenLine t :: st.tokenLines }
  diagnostic d st :=
    .ok { st with diagnosticLines := Layout.diagnosticLine d :: st.diagnosticLines }

/-- The name of the token file. -/
def tokenFileName : String := "source.dyd"

/-- The name of the diagnostic file. -/
def diagnosticFileName : String := "source.err"

/-- What a finished run logs: where the source and its records are. -/
def runEntry (source tokenFile diagnosticFile : String) (success : Bool) : Logging.Entry :=
  ⟨Logging.gateway, .info,
    source ++ " -> " ++ tokenFile ++ " (" ++
      (if success then "ok" else "errors in " ++ diagnosticFile) ++ ")"⟩

/-- The effects of a run, and whether the source had no diagnostics. -/
structure FileRun where
  tree : FileTree
  log : List Logging.Entry
  outcome : Except FileFault Bool

/-- A text as the node of a file. -/
def textNode (s : String) : Node := .file (Utf8.encode s.toList)

/-- Writes the records of a text to two open files. -/
def writeRecords (t : FileTree) (text : List Char) (tokenFile diagnosticFile : Path) :
    FileTree × List Logging.Entry × Bool :=
  let d := deliver Sinks.writing (Element.ofText text) .empty
  let written := (t.put tokenFile (textNode d.state.tokenText)).put diagnosticFile
    (textNode d.state.diagnosticText)
  match d.outcome with
  | .ok success => (written, d.log, success)
  | .error impossible => nomatch impossible

def runFile (t : FileTree) (source output : String) : FileRun :=
  match readSource t source with
  | .error fault => ⟨t, [], .error fault⟩
  | .ok text =>
    match t.makeDirectories output with
    | (t, some fault) => ⟨t, [], .error (.access fault)⟩
    | (t, none) =>
      let tokenFile := PathText.join output tokenFileName
      let diagnosticFile := PathText.join output diagnosticFileName
      match t.openFile tokenFile with
      | .error fault => ⟨t, [], .error (.access fault)⟩
      | .ok (tokenPlace, t) =>
        match t.openFile diagnosticFile with
        | .error fault => ⟨t, [], .error (.access fault)⟩
        | .ok (diagnosticPlace, t) =>
          let (t, log, success) := writeRecords t text tokenPlace diagnosticPlace
          ⟨t, log ++ [runEntry source tokenFile diagnosticFile success], .ok success⟩

end PascalScan
