import PascalScan.FileTree.Basic
import PascalScan.FileTree.PathText
import PascalScan.Text.Quoted

/-!
# Access to a file tree

Reading and writing files and making directories, by the text of a path. Each operation goes down
the path name by name, so what is wrong first on the way is the fault that it reports.

* `readFile` gives the bytes of a file.
* `openFile` makes a file or empties it, and says where it is.
* `makeDirectories` makes a directory and those that lead to it; what it made before a fault stays.
-/

namespace PascalScan

/-- Why the system refuses. -/
inductive Errno where
  | notFound
  | alreadyThere
  | notDirectory
  | isDirectory
  | nameTooLong
  deriving DecidableEq, Repr

namespace Errno

def number : Errno → Nat
  | notFound => 2
  | alreadyThere => 17
  | notDirectory => 20
  | isDirectory => 21
  | nameTooLong => 36

def text : Errno → String
  | notFound => "No such file or directory"
  | alreadyThere => "File exists"
  | notDirectory => "Not a directory"
  | isDirectory => "Is a directory"
  | nameTooLong => "File name too long"

end Errno

/-- A failed access: the system refused a path, or the path holds a NUL character. -/
inductive AccessFault where
  | refused (errno : Errno) (path : String)
  | nulInFile
  | nulInDirectory
  deriving DecidableEq, Repr

def AccessFault.message : AccessFault → String
  | refused errno path =>
      "[Errno " ++ toString errno.number ++ "] " ++ errno.text ++ ": " ++ Text.quote path
  | nulInFile => "embedded null byte"
  | nulInDirectory => "mkdir: embedded null character in path"

def AccessFault.isAlreadyThere : AccessFault → Bool
  | refused .alreadyThere _ => true
  | _ => false

/-- Where a path leads: to a directory that is there, or to a name in one. -/
inductive Target where
  | directory (at_ : Path)
  | name (parent : Path) (name : String) (slash : Bool)

namespace FileTree

/-- A name may have this many bytes and no more. -/
def maxNameBytes : Nat := 255

/-- A path has fewer bytes than this. -/
def maxPathBytes : Nat := 4096

/-- Goes down from a directory by names. -/
def enter (t : FileTree) (at_ : Path) : List String → Except Errno Path
  | [] => .ok at_
  | name :: rest =>
      if name = "." then t.enter at_ rest
      else if name = ".." then t.enter at_.dropLast rest
      else if maxNameBytes < name.utf8ByteSize then .error .nameTooLong
      else match t.find? (at_ ++ [name]) with
        | none => .error .notFound
        | some (.file _) => .error .notDirectory
        | some .directory => t.enter (at_ ++ [name]) rest

/-- Where a path leads. -/
def locate (t : FileTree) (path : String) : Except Errno Target :=
  if path = "" then .error .notFound
  else if maxPathBytes ≤ path.utf8ByteSize then .error .nameTooLong
  else
    let names := PathText.names path
    match names.getLast? with
    | none => .ok (.directory [])
    | some last => do
        let parent ← t.enter [] names.dropLast
        if last = "." ∨ last = ".." then
          return .directory (← t.enter parent [last])
        else if maxNameBytes < last.utf8ByteSize then .error .nameTooLong
        else return .name parent last (PathText.endsInSlash path)

/-- The node that a path leads to. -/
def node? (t : FileTree) (path : String) : Option Node :=
  if '\x00' ∈ path.toList then none
  else match t.locate path with
    | .error _ => none
    | .ok (.directory _) => some .directory
    | .ok (.name parent name slash) =>
        match t.find? (parent ++ [name]) with
        | some (.file bytes) => if slash then none else some (.file bytes)
        | other => other

def isThere (t : FileTree) (path : String) : Bool := (t.node? path).isSome

def isDirectory (t : FileTree) (path : String) : Bool := t.node? path == some .directory

/-- The bytes of a file. -/
def readFile (t : FileTree) (path : String) : Except AccessFault (List UInt8) :=
  if '\x00' ∈ path.toList then .error .nulInFile
  else match t.locate path with
    | .error e => .error (.refused e path)
    | .ok (.directory _) => .error (.refused .isDirectory path)
    | .ok (.name parent name slash) =>
        match t.find? (parent ++ [name]) with
        | none => .error (.refused .notFound path)
        | some .directory => .error (.refused .isDirectory path)
        | some (.file bytes) =>
            if slash then .error (.refused .notDirectory path) else .ok bytes

/-- Opens a file for writing: it is there afterwards, and empty. -/
def openFile (t : FileTree) (path : String) : Except AccessFault (Path × FileTree) :=
  if '\x00' ∈ path.toList then .error .nulInFile
  else match t.locate path with
    | .error e => .error (.refused e path)
    | .ok (.directory _) => .error (.refused .isDirectory path)
    | .ok (.name parent name slash) =>
        let place := parent ++ [name]
        match t.find? place with
        | some .directory => .error (.refused .isDirectory path)
        | some (.file _) =>
            if slash then .error (.refused .notDirectory path)
            else .ok (place, t.put place (.file []))
        | none =>
            if slash then .error (.refused .isDirectory path)
            else .ok (place, t.put place (.file []))

/-- Makes one directory in a directory that is there. -/
def makeDirectory (t : FileTree) (path : String) : Except AccessFault FileTree :=
  if '\x00' ∈ path.toList then .error .nulInDirectory
  else match t.locate path with
    | .error e => .error (.refused e path)
    | .ok (.directory _) => .error (.refused .alreadyThere path)
    | .ok (.name parent name _) =>
        match t.find? (parent ++ [name]) with
        | some _ => .error (.refused .alreadyThere path)
        | none => .ok (t.put (parent ++ [name]) .directory)

/-- Makes one directory, unless it is there already. -/
def ensureDirectory (t : FileTree) (path : String) : FileTree × Option AccessFault :=
  match t.makeDirectory path with
  | .ok t' => (t', none)
  | .error (.refused e p) =>
      (t, if t.isDirectory path then none else some (.refused e p))
  | .error fault => (t, some fault)

/-- The last step of making directories, once the way is there; the way to "." ends where it
starts. -/
def finishDirectory (t : FileTree) (path name : String) : FileTree × Option AccessFault :=
  if name = "." then (t, none) else t.ensureDirectory path

/-- Makes a directory and, first, the directories that lead to it. One that is there already is no
fault. -/
def makeDirectories (t : FileTree) (path : String) : FileTree × Option AccessFault :=
  let way := PathText.parentAndName path
  if _shorter : way.1.length < path.length then
    if way.1 ≠ "" ∧ way.2 ≠ "" ∧ t.isThere way.1 = false then
      let (t', fault?) := t.makeDirectories way.1
      if fault?.all AccessFault.isAlreadyThere then t'.finishDirectory path way.2
      else (t', fault?)
    else t.ensureDirectory path
  else t.ensureDirectory path
termination_by path.length

/-- Writes a whole file, and makes the directories that lead to it first. -/
def writeFile (t : FileTree) (path : String) (bytes : List UInt8) : Except AccessFault FileTree :=
  let parent := (PathText.split path).1
  let (t, fault?) := if parent = "" then (t, none) else t.makeDirectories parent
  match fault? with
  | some fault => .error fault
  | none =>
      match t.openFile path with
      | .error fault => .error fault
      | .ok (place, t) => .ok (t.put place (.file bytes))

end FileTree

end PascalScan
