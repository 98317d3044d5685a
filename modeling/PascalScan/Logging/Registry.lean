import PascalScan.Logging.Entry
import PascalScan.Text.Uppercase
import PascalScan.Text.Quoted

/-!
# The registry of loggers

Loggers form a tree by their dotted names, below a root logger. A logger is there from the first
time that somebody names it. It has a level, where zero leaves the decision to the logger above, and
at most one handler, which prints lines.

* `lineage` gives a logger and those above it.
* `acquire` sets a logger up by the level in force, once and for all.
* `emit` prints an entry on each handler among the loggers from its own up to the root, if the
  entry is at least as urgent as the first level that is set on the way.
* `run` performs a sequence of steps on an empty registry.
-/

namespace PascalScan.Logging

structure Logger where
  level : Level
  handlers : Nat
  deriving DecidableEq, Repr

/-- A logger that nobody has set up yet. -/
def Logger.blank : Logger := ⟨.notSet, 0⟩

/-- The name of the root logger; the empty name stands for it too. -/
def root : String := "root"

def canonical (name : String) : String := if name = "" then root else name

/-- The loggers that are there, by name, the newest first. -/
structure Registry where
  loggers : List (String × Logger)
  deriving Repr

/-- A level that was asked for and does not exist. -/
structure UnknownLevel where
  name : String
  deriving DecidableEq, Repr

def UnknownLevel.message (e : UnknownLevel) : String := "Unknown level: " ++ Text.quote e.name

namespace Registry

/-- Only the root logger is there to begin with, and it has a level. -/
def initial : Registry := ⟨[(root, ⟨.warning, 0⟩)]⟩

def names (r : Registry) : List String := r.loggers.map (·.1)

def find (r : Registry) (name : String) : Logger :=
  (r.loggers.lookup (canonical name)).getD .blank

/-- Makes sure that a logger is there. -/
def touch (r : Registry) (name : String) : Registry :=
  if r.names.contains (canonical name) then r else ⟨(canonical name, .blank) :: r.loggers⟩

/-- Gives a logger a new state. -/
def put (r : Registry) (name : String) (l : Logger) : Registry :=
  ⟨(r.touch name).loggers.map fun entry =>
    if entry.1 = canonical name then (entry.1, l) else entry⟩

/-- Whether a logger stands above one whose name goes on from its own. A new logger takes those that
go on from its name over from the root, but not if its name is the beginning of the root's: such a
logger stands above younger ones only. -/
def isAbove (r : Registry) (upper name : String) : Bool :=
  let there := if upper.toList.isPrefixOf root.toList then r.names.dropWhile (· != name)
    else r.names
  upper != root && there.contains upper

/-- The loggers between a name and the root, nearest first: those that are there and that the name
goes on from with a dot. The last argument is the name in reverse; a dot next to the one before is
passed over. -/
def between (r : Registry) (name : String) : List Char → List String
  | '.' :: c :: rest =>
      let upper := String.ofList (c :: rest).reverse
      if r.isAbove upper name then upper :: between r upper (c :: rest) else between r name rest
  | _ :: rest => between r name rest
  | [] => []

/-- A logger and those above it, nearest first. -/
def lineage (r : Registry) (name : String) : List String :=
  if canonical name = root then [root] else name :: r.between name name.toList.reverse ++ [root]

/-- Sets a logger up by the level that is asked for, in any case of its letters. A logger that
has a handler stays as it is; an unknown level changes nothing. -/
def acquire (r : Registry) (setting name : String) : Except UnknownLevel Registry :=
  if (r.find name).handlers ≠ 0 then .ok r
  else
    let wanted := String.ofList (Text.upper setting.toList)
    match Level.ofName? wanted with
    | some level => .ok (r.put name ⟨level, 1⟩)
    | none => .error ⟨wanted⟩

/-- The first level that is set from a logger up to the root; zero if none is. -/
def effectiveLevel (r : Registry) (name : String) : Level :=
  (((r.lineage name).map fun n => (r.find n).level).find? (· ≠ .notSet)).getD .notSet

/-- How many handlers an entry of a logger reaches. -/
def reach (r : Registry) (name : String) : Nat :=
  (r.lineage name).foldr (fun n count => (r.find n).handlers + count) 0

/-- What an entry prints: its line once for each handler it reaches, or nothing. -/
def emit (r : Registry) (time : String) (e : Entry) : String :=
  if 0 < e.level ∧ r.effectiveLevel e.logger ≤ e.level then
    String.join (List.replicate (r.reach e.logger)
      ({ e with logger := canonical e.logger }.line time))
  else ""

/-- What a sequence of entries prints. -/
def emitAll (r : Registry) (time : String) (es : List Entry) : String :=
  String.join (es.map (r.emit time))

/-- The program's own two loggers, set up at one level. -/
def services (level : Level) : Registry :=
  (initial.put lexerService ⟨level, 1⟩).put gateway ⟨level, 1⟩

end Registry

/-- The level that loggers are set up with unless another is asked for. -/
def defaultSetting : String := "INFO"

/-- The name of the logger that is meant when none is given. -/
def defaultName : String := "lexer"

inductive Step where
  /-- Asks for another level from now on. -/
  | setting (level : String)
  | acquire (name : Option String)
  | emit (e : Entry)
  deriving DecidableEq, Repr

inductive Answer where
  | nothing
  | acquired (name : String) (l : Logger)
  | unknownLevel (e : UnknownLevel)
  | printed (text : String)
  deriving DecidableEq, Repr

/-- The level asked for and the registry. -/
structure Session where
  setting : String
  registry : Registry

namespace Session

def initial : Session := ⟨defaultSetting, .initial⟩

def step (s : Session) (time : String) : Step → Answer × Session
  | .setting level => (.nothing, { s with setting := level })
  | .acquire name? =>
      let name := name?.getD defaultName
      let there := s.registry.touch name
      match there.acquire s.setting name with
      | .ok r => (.acquired (canonical name) (r.find name), { s with registry := r })
      | .error e => (.unknownLevel e, { s with registry := there })
  | .emit e =>
      let there := s.registry.touch e.logger
      (.printed (there.emit time e), { s with registry := there })

/-- The answers to a sequence of steps. -/
def run (s : Session) (time : String) : List Step → List Answer
  | [] => []
  | a :: steps =>
      let (answer, s') := s.step time a
      answer :: s'.run time steps

end Session

end PascalScan.Logging
