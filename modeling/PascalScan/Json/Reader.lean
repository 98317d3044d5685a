import PascalScan.Json.Value

/-!
# JSON texts, read

`read` reads a text that holds one value. At a fault it stops, and reports what it expected there
and the place: the line, the column and the count of characters before it. Beside the numbers of
the standard it takes `NaN`, `Infinity` and `-Infinity`; of two fields of one name the last stands.
Arrays and objects may nest to a limit.
-/

namespace PascalScan.Json

/-- What holds other values. -/
inductive Container where
  | array
  | object
  deriving DecidableEq, Repr

def Container.name : Container → String
  | array => "array"
  | object => "object"

/-- What is wrong with a text. -/
inductive Cause where
  | value
  | fieldName
  | colon
  | comma
  | extra
  | unterminated
  | control
  | badEscape
  | badUnicodeEscape
  /-- An integer of more digits than are read. -/
  | tooManyDigits (count : Nat)
  /-- An array or an object in too many others. -/
  | nesting (inner : Container)
  deriving DecidableEq, Repr

/-- A fault before the rest of the text. -/
structure Stop where
  cause : Cause
  rest : List Char

/-- A fault with its place. -/
structure Fault where
  cause : Cause
  line : Nat
  column : Nat
  position : Nat
  deriving DecidableEq, Repr

/-- An integer may have this many digits and no more. -/
def maxDigits : Nat := 4300

/-- So many arrays and objects may lie in each other, unless another limit is asked for. -/
def maxNesting : Nat := 950

def isSpace (c : Char) : Bool := c == ' ' || c == '\t' || c == '\n' || c == '\r'

def skipSpace (cs : List Char) : List Char := cs.dropWhile isSpace

def hexDigit? (c : Char) : Option Nat :=
  if c.isDigit then some (c.toNat - '0'.toNat)
  else if 'a' ≤ c ∧ c ≤ 'f' then some (c.toNat - 'a'.toNat + 10)
  else if 'A' ≤ c ∧ c ≤ 'F' then some (c.toNat - 'A'.toNat + 10)
  else none

/-- The number in four hexadecimal digits at the front, which something has to follow. -/
def hexFour? : List Char → Option Nat
  | a :: b :: c :: d :: _ :: _ => do
      let a ← hexDigit? a
      let b ← hexDigit? b
      let c ← hexDigit? c
      let d ← hexDigit? d
      return ((a * 16 + b) * 16 + c) * 16 + d
  | _ => none

/-- The character that a letter after a backslash stands for. -/
def simpleEscape? : Char → Option Char
  | '"' => some '"'
  | '\\' => some '\\'
  | '/' => some '/'
  | 'b' => some '\x08'
  | 'f' => some '\x0c'
  | 'n' => some '\n'
  | 'r' => some '\r'
  | 't' => some '\t'
  | _ => none

/-- The character of one half of a surrogate pair that lacks the other. -/
def replacement : Char := '\ufffd'

/-- The character of an escape and how many characters it takes after the backslash. The first
argument is the text from the opening quote, the second the text after the backslash. -/
def escape (opening : List Char) : List Char → Except Stop (Char × Nat)
  | [] => .error ⟨.unterminated, opening⟩
  | 'u' :: digits =>
      match hexFour? digits with
      | none => .error ⟨.badUnicodeEscape, 'u' :: digits⟩
      | some high =>
          if 0xD800 ≤ high ∧ high < 0xDC00 then
            match digits.drop 4 with
            | '\\' :: 'u' :: more =>
                if more.length < 5 then .ok (replacement, 5)
                else match hexFour? more with
                  | none => .error ⟨.badUnicodeEscape, 'u' :: more⟩
                  | some low =>
                      if 0xDC00 ≤ low ∧ low < 0xE000 then
                        .ok (Char.ofNat (0x10000 + (high - 0xD800) * 0x400 + (low - 0xDC00)), 11)
                      else .ok (replacement, 5)
            | _ => .ok (replacement, 5)
          else if 0xDC00 ≤ high ∧ high < 0xE000 then .ok (replacement, 5)
          else .ok (Char.ofNat high, 5)
  | c :: rest =>
      match simpleEscape? c with
      | some d => .ok (d, 1)
      | none => .error ⟨.badEscape, '\\' :: c :: rest⟩

/-- The characters up to the closing quote, after those read so far in reverse. -/
def readChars (opening acc : List Char) : List Char → Except Stop (String × List Char)
  | [] => .error ⟨.unterminated, opening⟩
  | c :: rest =>
      if c = '"' then .ok (String.ofList acc.reverse, rest)
      else if c = '\\' then
        match escape opening rest with
        | .error stop => .error stop
        | .ok (d, n) => readChars opening (d :: acc) (rest.drop n)
      else if c.toNat < 0x20 then .error ⟨.control, c :: rest⟩
      else readChars opening (c :: acc) rest
termination_by cs => cs.length
decreasing_by all_goals simp only [List.length_drop, List.length_cons]; omega

/-- The digits of a text read so far, as a number. -/
def digitsValue (ds : List Char) : Nat := ds.foldl (fun n d => n * 10 + (d.toNat - '0'.toNat)) 0

/-- A fraction: a point and digits. -/
def fraction : List Char → List Char × List Char
  | '.' :: d :: rest =>
      if d.isDigit then (d :: rest.takeWhile Char.isDigit, rest.dropWhile Char.isDigit)
      else ([], '.' :: d :: rest)
  | cs => ([], cs)

/-- An exponent: its mark, perhaps a sign, and digits. -/
def exponent (cs : List Char) : Option Int × List Char :=
  match cs with
  | mark :: rest =>
      if mark = 'e' ∨ mark = 'E' then
        let (negative, digits) := match rest with
          | '-' :: ds => (true, ds)
          | '+' :: ds => (false, ds)
          | ds => (false, ds)
        let ds := digits.takeWhile Char.isDigit
        if ds.isEmpty then (none, cs)
        else
          let n : Int := digitsValue ds
          (some (if negative then -n else n), digits.dropWhile Char.isDigit)
      else (none, cs)
  | [] => (none, cs)

/-- A number. -/
def readNumber (cs : List Char) : Except Stop (Json × List Char) :=
  let (negative, body) := match cs with
    | '-' :: rest => (true, rest)
    | rest => (false, rest)
  let whole := match body with
    | '0' :: _ => ['0']
    | rest => rest.takeWhile Char.isDigit
  if whole.isEmpty then .error ⟨.value, cs⟩
  else
    let (decimals, afterFraction) := fraction (body.drop whole.length)
    let (power, rest) := exponent afterFraction
    if decimals.isEmpty && power.isNone then
      if maxDigits < whole.length then .error ⟨.tooManyDigits whole.length, cs⟩
      else
        let n : Int := digitsValue whole
        .ok (int (if negative then -n else n), rest)
    else
      .ok (float (.ofDecimal negative (digitsValue (whole ++ decimals))
        (power.getD 0 - decimals.length)), rest)

/-- The values that are written as a word. -/
def literals : List (List Char × Json) :=
  [("null".toList, null), ("true".toList, bool true), ("false".toList, bool false),
    ("NaN".toList, float .notANumber), ("Infinity".toList, float (.infinite false)),
    ("-Infinity".toList, float (.infinite true))]

def readLiteral? (cs : List Char) : Option (Json × List Char) :=
  (literals.find? fun row => row.1.isPrefixOf cs).map fun row => (row.2, cs.drop row.1.length)

mutual

/-- One value, in which so many arrays and objects may lie in each other as the first argument says.
The second argument bounds the calls that follow from this one. -/
def readValue (room : Nat) : Nat → List Char → Except Stop (Json × List Char)
  | 0, cs => .error ⟨.value, cs⟩
  | fuel + 1, cs =>
      match cs with
      | '"' :: rest => do
          let (s, rest) ← readChars cs [] rest
          return (text s, rest)
      | '[' :: rest =>
          if room = 0 then .error ⟨.nesting .array, cs⟩
          else match skipSpace rest with
            | ']' :: rest => .ok (array [], rest)
            | rest => readItems (room - 1) fuel [] rest
      | '\x7b' :: rest =>
          if room = 0 then .error ⟨.nesting .object, cs⟩
          else match skipSpace rest with
            | '\x7d' :: rest => .ok (object [], rest)
            | rest => readFields (room - 1) fuel [] rest
      | _ =>
          match readLiteral? cs with
          | some result => .ok result
          | none => readNumber cs

/-- The items of an array up to its end, after those read so far in reverse. -/
def readItems (room : Nat) : Nat → List Json → List Char → Except Stop (Json × List Char)
  | 0, _, cs => .error ⟨.value, cs⟩
  | fuel + 1, acc, cs => do
      let (x, rest) ← readValue room fuel cs
      match skipSpace rest with
      | ']' :: rest => return (array (x :: acc).reverse, rest)
      | ',' :: rest => readItems room fuel (x :: acc) (skipSpace rest)
      | rest => .error ⟨.comma, rest⟩

/-- The fields of an object up to its end, after those read so far. -/
def readFields (room : Nat) : Nat → Fields → List Char → Except Stop (Json × List Char)
  | 0, _, cs => .error ⟨.value, cs⟩
  | fuel + 1, acc, cs =>
      match cs with
      | '"' :: rest => do
          let (name, rest) ← readChars cs [] rest
          match skipSpace rest with
          | ':' :: rest =>
              let (x, rest) ← readValue room fuel (skipSpace rest)
              let acc := put acc name x
              match skipSpace rest with
              | '\x7d' :: rest => return (object acc, rest)
              | ',' :: rest => readFields room fuel acc (skipSpace rest)
              | rest => .error ⟨.comma, rest⟩
          | rest => .error ⟨.colon, rest⟩
      | _ => .error ⟨.fieldName, cs⟩

end

/-- Where in a text a rest of it starts. -/
def Stop.place (s : Stop) (whole : List Char) : Fault :=
  let before := whole.take (whole.length - s.rest.length)
  ⟨s.cause, before.count '\n' + 1,
    (before.reverse.takeWhile (· != '\n')).length + 1, before.length⟩

/-- Reads a text that holds one value, perhaps between spaces, and nothing else. The first argument
says how many arrays and objects may lie in each other. -/
def readNested (room : Nat) (cs : List Char) : Except Fault Json :=
  match readValue room (2 * cs.length + 2) (skipSpace cs) with
  | .error stop => .error (stop.place cs)
  | .ok (x, rest) =>
      match skipSpace rest with
      | [] => .ok x
      | rest => .error (Stop.place ⟨.extra, rest⟩ cs)

def read (s : String) : Except Fault Json := readNested maxNesting s.toList

def Cause.text : Cause → String
  | value => "Expecting value"
  | fieldName => "Expecting property name enclosed in double quotes"
  | colon => "Expecting ':' delimiter"
  | comma => "Expecting ',' delimiter"
  | extra => "Extra data"
  | unterminated => "Unterminated string starting at"
  | control => "Invalid control character at"
  | badEscape => "Invalid \\escape"
  | badUnicodeEscape => "Invalid \\uXXXX escape"
  | tooManyDigits count =>
      "Exceeds the limit (" ++ toString maxDigits ++
        " digits) for integer string conversion: value has " ++ toString count ++
        " digits; use sys.set_int_max_str_digits() to increase the limit"
  | nesting inner =>
      "maximum recursion depth exceeded while decoding a JSON " ++ inner.name ++
        " from a unicode string"

/-- Whether a text is not JSON at all, rather than beyond what is read. -/
def Cause.isSyntax : Cause → Bool
  | tooManyDigits _ => false
  | nesting _ => false
  | _ => true

def Fault.message (f : Fault) : String :=
  if f.cause.isSyntax then
    f.cause.text ++ ": line " ++ toString f.line ++ " column " ++ toString f.column ++
      " (char " ++ toString f.position ++ ")"
  else f.cause.text

end PascalScan.Json
