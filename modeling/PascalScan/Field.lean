import PascalScan.Token
import PascalScan.IntegerText
import PascalScan.Json.Value
import PascalScan.Text.Blank

/-!
# Fields of a record

A record arrives as the fields of a JSON object, and each field has to have a value of its kind.
Checking goes on after a fault, so that all faulty fields are reported, in the order in which the
record declares them. Fields that the record does not declare are passed over.
-/

namespace PascalScan

/-- What is wrong with the value of a field. -/
inductive Flaw where
  | missing
  | notText
  | notFalse
  | notTrue
  | notPhase
  | notTokenKind
  | notInteger
  | fractional
  | unreadable
  | tooLarge
  | notFinite
  /-- The record does not take a new value. -/
  | frozen
  deriving DecidableEq, Repr

namespace Flaw

def tag : Flaw → String
  | missing => "missing"
  | notText => "string_type"
  | notFalse => "literal_error"
  | notTrue => "literal_error"
  | notPhase => "literal_error"
  | notTokenKind => "enum"
  | notInteger => "int_type"
  | fractional => "int_from_float"
  | unreadable => "int_parsing"
  | tooLarge => "int_parsing_size"
  | notFinite => "finite_number"
  | frozen => "frozen_instance"

/-- A list of numbers in words: commas, and "or" before the last. -/
def alternatives (codes : List Nat) : String :=
  ", ".intercalate (codes.dropLast.map toString) ++ " or " ++
    String.join (codes.getLast?.toList.map toString)

def message : Flaw → String
  | missing => "Field required"
  | notText => "Input should be a valid string"
  | notFalse => "Input should be False"
  | notTrue => "Input should be True"
  | notPhase => "Input should be 'lex' or 'gateway'"
  | notTokenKind => "Input should be " ++ alternatives (TokenKind.all.map TokenKind.code)
  | notInteger => "Input should be a valid integer"
  | fractional => "Input should be a valid integer, got a number with a fractional part"
  | unreadable => "Input should be a valid integer, unable to parse string as an integer"
  | tooLarge => "Unable to parse input string as an integer, exceeded maximum size"
  | notFinite => "Input should be a finite number"
  | frozen => "Instance is frozen"

end Flaw

structure FieldFault where
  field : String
  flaw : Flaw
  deriving DecidableEq, Repr

/-- The outcome of checking fields: a value, or every fault. -/
abbrev Checked (α : Type) := Except (List FieldFault) α

namespace Checked

def map {α β : Type} (f : α → β) : Checked α → Checked β
  | .ok a => .ok (f a)
  | .error es => .error es

/-- Applies a checked function to a checked argument; the faults of both are kept in order. -/
def ap {α β : Type} : Checked (α → β) → Checked α → Checked β
  | .ok f, .ok a => .ok (f a)
  | .ok _, .error es => .error es
  | .error es, .ok _ => .error es
  | .error es, .error fs => .error (es ++ fs)

end Checked

namespace Field

/-! ## Values of a kind -/

def text : Json → Except Flaw String
  | .text s => .ok s
  | _ => .error .notText

/-- Whether an integer fits in 64 bits with a sign. -/
def isWord (n : Int) : Bool := -0x8000000000000000 ≤ n && n < 0x8000000000000000

/-- An integer: a truth value counts as one or zero, and a floating-point number has to lie
strictly between the bounds of 64 bits with a sign. -/
def integer : Json → Except Flaw Int
  | .bool b => .ok (if b then 1 else 0)
  | .int n => .ok n
  | .float x =>
      match x.toInt? with
      | some n => if n != -0x8000000000000000 && isWord n then .ok n else .error .tooLarge
      | none => .error (if x.isFinite then .fractional else .notFinite)
  | .text s =>
      match IntegerText.read (Text.trimWhile Text.isWhiteSpace s.toList) with
      | .ok n => .ok n
      | .error .unreadable => .error .unreadable
      | .error .tooLarge => .error .tooLarge
  | _ => .error .notInteger

/-- An integer or null. -/
def integerOrNull : Json → Except Flaw (Option Int)
  | .null => .ok none
  | v => (integer v).map some

/-- A kind of token, by its number. -/
def tokenKind (v : Json) : Except Flaw TokenKind :=
  match integer v with
  | .error _ => .error .notTokenKind
  | .ok n =>
      if !isWord n then .error .tooLarge
      else match TokenKind.ofCode? n with
        | some k => .ok k
        | none => .error .notTokenKind

/-- A value that counts as the number of false. -/
def isFalse (v : Json) : Except Flaw Unit :=
  if v.number? = some 0 then .ok () else .error .notFalse

/-- A value that counts as the number of true. -/
def isTrue (v : Json) : Except Flaw Unit :=
  if v.number? = some 1 then .ok () else .error .notTrue

/-! ## Fields of an object -/

def check {α : Type} (name : String) (kind : Json → Except Flaw α) (v : Json) : Checked α :=
  match kind v with
  | .ok a => .ok a
  | .error flaw => .error [⟨name, flaw⟩]

/-- A field that has to be there. -/
def required {α : Type} (fields : Json.Fields) (name : String) (kind : Json → Except Flaw α) :
    Checked α :=
  match fields.lookup name with
  | some v => check name kind v
  | none => .error [⟨name, .missing⟩]

/-- A field that may be absent. -/
def withDefault {α : Type} (fields : Json.Fields) (name : String) (default : α)
    (kind : Json → Except Flaw α) : Checked α :=
  match fields.lookup name with
  | some v => check name kind v
  | none => .ok default

end Field

end PascalScan
