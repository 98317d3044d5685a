import PascalScan.Text.DecimalDigit
import PascalScan.Text.Quoted

/-!
# Options of the command line

The program takes the path of the source and the output directory, each by an option that has a
default, and a request for help. An option may be shortened to any beginning that no other option
shares, and its value may follow after an equals sign or as the next argument. Arguments are first
sorted into options and values, then taken from left to right.
-/

namespace PascalScan.CommandLine

/-- What the options set. An option whose value is two dashes, the mark where options end, is left
without a value. -/
structure Options where
  source? : Option String
  output? : Option String
  deriving DecidableEq, Repr

def defaultSource : String := "input/source.pas"

def defaultOutput : String := "output"

/-- The defaults, each of which the environment may replace. -/
def Options.ofEnvironment (source? output? : Option String) : Options :=
  ⟨some (source?.getD defaultSource), some (output?.getD defaultOutput)⟩

inductive Flag where
  | help
  | source
  | output
  deriving DecidableEq, Repr

namespace Flag

/-- The spellings of the options, in the order in which they are declared. -/
def spellings : List (String × Flag) :=
  [("-h", help), ("--help", help), ("--source", source), ("--out", output)]

def ofSpelling? (s : String) : Option Flag := spellings.lookup s

/-- How a message names an option. -/
def label : Flag → String
  | help => "-h/--help"
  | source => "--source"
  | output => "--out"

end Flag

/-- Why the arguments are refused. -/
inductive UsageFault where
  | ambiguous (argument : String) (candidates : List String)
  | valueMissing (flag : Flag)
  | valueIgnored (flag : Flag) (value : String)
  | unrecognized (arguments : List String)
  deriving DecidableEq, Repr

def UsageFault.message : UsageFault → String
  | ambiguous argument candidates =>
      "ambiguous option: " ++ argument ++ " could match " ++ ", ".intercalate candidates
  | valueMissing flag => "argument " ++ flag.label ++ ": expected one argument"
  | valueIgnored flag value =>
      "argument " ++ flag.label ++ ": ignored explicit argument " ++ Text.quote value
  | unrecognized arguments => "unrecognized arguments: " ++ " ".intercalate arguments

/-- What an argument is. -/
inductive Argument where
  | value (text : String)
  /-- The mark after which everything is a value. -/
  | separator
  /-- An option as it is spelled in full, perhaps with a value of its own. -/
  | option (flag : Flag) (spelling : String) (value? : Option String)
  /-- An option that does not exist. -/
  | unknown (text : String)
  deriving DecidableEq, Repr

/-- Whether a text is written like a negative number; one line break may follow it. -/
def isNegativeNumber (cs : List Char) : Bool :=
  match if cs.getLast? = some '\n' then cs.dropLast else cs with
  | '-' :: rest =>
      let whole := rest.takeWhile Text.isDecimalDigit
      match rest.drop whole.length with
      | [] => !whole.isEmpty
      | '.' :: decimals => !decimals.isEmpty && decimals.all Text.isDecimalDigit
      | _ => false
  | _ => false

/-- A text cut at its first equals sign. -/
def cutAtEquals (cs : List Char) : String × Option String :=
  let before := cs.takeWhile (· != '=')
  match cs.drop before.length with
  | [] => (String.ofList before, none)
  | _ :: after => (String.ofList before, some (String.ofList after))

/-- The options that an argument may be short for: one with two dashes is a beginning of theirs,
one with a single dash is a letter with a value. -/
def candidates (cs : List Char) : List (Flag × String × Option String) :=
  match cs with
  | '-' :: '-' :: _ =>
      let (start, value?) := cutAtEquals cs
      Flag.spellings.filterMap fun (spelling, flag) =>
        if start.toList.isPrefixOf spelling.toList then some (flag, spelling, value?) else none
  | _ =>
      let letter := String.ofList (cs.take 2)
      Flag.spellings.filterMap fun (spelling, flag) =>
        if spelling = letter then some (flag, spelling, some (String.ofList (cs.drop 2))) else none

/-- Sorts one argument that no separator precedes. -/
def classify (argument : String) : Except UsageFault Argument :=
  let cs := argument.toList
  if cs.head? ≠ some '-' ∨ cs.length = 1 then .ok (.value argument)
  else if argument = "--" then .ok .separator
  else match Flag.ofSpelling? argument with
    | some flag => .ok (.option flag argument none)
    | none =>
      let (start, value?) := cutAtEquals cs
      match Flag.ofSpelling? start with
      | some flag => .ok (.option flag start value?)
      | none =>
        match candidates cs with
        | [(flag, spelling, value?)] => .ok (.option flag spelling value?)
        | [] =>
            if isNegativeNumber cs || cs.contains ' ' then .ok (.value argument)
            else .ok (.unknown argument)
        | several => .error (.ambiguous argument (several.map fun c => c.2.1))

/-- Sorts the arguments; behind a separator all are values. -/
def classifyAll : List String → Except UsageFault (List Argument)
  | [] => .ok []
  | argument :: rest => do
      match ← classify argument with
      | .separator => return .separator :: rest.map .value
      | a => return a :: (← classifyAll rest)

/-- What the arguments ask for. -/
inductive Request where
  | scan (options : Options)
  | help
  | refuse (fault : UsageFault)
  deriving DecidableEq, Repr

/-- An option for help that has a value: in a group of letters each has to be the one for help. -/
def helpWithValue (spelling value : String) : Request :=
  if spelling = "-h" ∧ value ≠ "" then
    match value.toList.dropWhile (· == 'h') with
    | [] => .help
    | rest => .refuse (.valueIgnored .help (String.ofList rest))
  else .refuse (.valueIgnored .help value)

def Options.set (o : Options) (flag : Flag) (value? : Option String) : Options :=
  match flag with
  | .source => { o with source? := value? }
  | .output => { o with output? := value? }
  | .help => o

/-- Takes arguments from left to right, with the options and the leftover arguments so far. -/
def interpret (o : Options) (leftover : List String) : List Argument → Request
  | [] => if leftover.isEmpty then .scan o else .refuse (.unrecognized leftover)
  | .value text :: rest => interpret o (leftover ++ [text]) rest
  | .separator :: rest => interpret o (leftover ++ ["--"]) rest
  | .unknown text :: rest => interpret o (leftover ++ [text]) rest
  | .option .help _ none :: _ => .help
  | .option .help spelling (some value) :: _ => helpWithValue spelling value
  | .option flag _ (some value) :: rest =>
      interpret (o.set flag (if value = "--" then none else some value)) leftover rest
  | .option flag _ none :: .value text :: rest => interpret (o.set flag (some text)) leftover rest
  | .option flag _ none :: _ => .refuse (.valueMissing flag)

/-- What arguments ask for, where options that are not given have the defaults. -/
def request (defaults : Options) (arguments : List String) : Request :=
  match classifyAll arguments with
  | .error fault => .refuse fault
  | .ok sorted => interpret defaults [] sorted

/-! ## Texts about the options -/

def programName : String := "orchestrator.py"

def usage : String := "usage: " ++ programName ++ " [-h] [--source SOURCE] [--out OUT]\n"

def helpText : String :=
  usage ++ "\nScan a source program into token (.dyd) and error (.err) streams\n\noptions:\n" ++
    "  -h, --help       show this help message and exit\n  --source SOURCE\n  --out OUT\n"

/-- What is written about arguments that are refused. -/
def usageReport (fault : UsageFault) : String :=
  usage ++ programName ++ ": error: " ++ fault.message ++ "\n"

end PascalScan.CommandLine
