import PascalScan.Json.Value
import PascalScan.Text.Quoted

/-!
# JSON texts, written

Values are written on one line without spaces. Control characters, quotes and backslashes are
escaped, and every other character stands for itself.
-/

namespace PascalScan.Json

def escapeChar (c : Char) : List Char :=
  if c = '"' ∨ c = '\\' then ['\\', c]
  else if c.toNat < 0x20 then '\\' :: 'u' :: Text.hex 4 c.toNat
  else [c]

def writeText (s : String) : String :=
  String.ofList ('"' :: s.toList.flatMap escapeChar ++ ['"'])

mutual

/-- A text followed by the text of a value. -/
def writeOnto (out : String) : Json → String
  | null => out ++ "null"
  | bool b => out ++ if b then "true" else "false"
  | int n => out ++ toString n
  | float x => out ++ x.text
  | text s => out ++ writeText s
  | array items => (writeItemsOnto (out.push '[') items).push ']'
  | object fields => (writeFieldsOnto (out.push '\x7b') fields).push '\x7d'

def writeItemsOnto (out : String) : List Json → String
  | [] => out
  | [x] => writeOnto out x
  | x :: xs => writeItemsOnto ((writeOnto out x).push ',') xs

def writeFieldsOnto (out : String) : Fields → String
  | [] => out
  | [(name, x)] => writeOnto ((out ++ writeText name).push ':') x
  | (name, x) :: fs =>
      writeFieldsOnto ((writeOnto ((out ++ writeText name).push ':') x).push ',') fs

end

/-- The text of a value. -/
def write (value : Json) : String := writeOnto "" value

example : write (.object [("a", .array [.int 1, .null]), ("b", .text "\n")]) =
    "\x7b\"a\":[1,null],\"b\":\"\\u000a\"\x7d" := by
  decide +kernel

end PascalScan.Json
