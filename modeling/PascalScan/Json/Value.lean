import PascalScan.Json.Binary64

/-!
# JSON values

The values that the services exchange. An object keeps its fields in the order in which they came;
a field is looked up by its name.
-/

namespace PascalScan

inductive Json where
  | null
  | bool (b : Bool)
  | int (n : Int)
  | float (x : Binary64)
  | text (s : String)
  | array (items : List Json)
  | object (fields : List (String × Json))

namespace Json

/-- The fields of an object. -/
abbrev Fields := List (String × Json)

instance : Inhabited Json := ⟨null⟩

/-- What a value is called in a message about a value of the wrong kind. -/
def kindName : Json → String
  | null => "NoneType"
  | bool _ => "bool"
  | int _ => "int"
  | float _ => "float"
  | text _ => "str"
  | array _ => "list"
  | object _ => "dict"

/-- Whether a value counts as yes: nothing that is null, false, zero or empty does. -/
def isTruthy : Json → Bool
  | null => false
  | bool b => b
  | int n => n != 0
  | float x => !x.isZero
  | text s => s != ""
  | array items => !items.isEmpty
  | object fields => !fields.isEmpty

/-- The integer that a value counts as: a truth value is one or zero. -/
def number? : Json → Option Int
  | bool b => some (if b then 1 else 0)
  | int n => some n
  | float x => x.toInt?
  | null => none
  | text _ => none
  | array _ => none
  | object _ => none

mutual

/-- Equality of values: numbers and truth values are compared by the number they count as, and the
fields of an object in any order. -/
def same : Json → Json → Bool
  | null, null => true
  | text s, text t => s == t
  | array xs, array ys => sameItems xs ys
  | object fs, object gs => fs.length == gs.length && sameFields fs gs
  | float x, float y => x == y && x != .notANumber
  | a, b => a.number?.isSome && a.number? == b.number?

def sameItems : List Json → List Json → Bool
  | [], [] => true
  | x :: xs, y :: ys => same x y && sameItems xs ys
  | _, _ => false

/-- Whether each field has an equal one of its name. -/
def sameFields : Fields → Fields → Bool
  | [], _ => true
  | (name, x) :: fs, gs =>
      (match gs.lookup name with
        | some y => same x y
        | none => false) && sameFields fs gs

end

/-- Puts a field: the last value of a name stands. -/
def put (fields : Fields) (name : String) (value : Json) : Fields :=
  if fields.any (·.1 == name) then
    fields.map fun field => if field.1 = name then (name, value) else field
  else fields ++ [(name, value)]

end Json

end PascalScan
