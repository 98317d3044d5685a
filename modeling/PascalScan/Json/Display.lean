import PascalScan.Json.Value
import PascalScan.Text.Quoted

/-!
# JSON values in messages

How a message shows a value: texts are quoted, and the words for null and the truth values are
`None`, `True` and `False`.
-/

namespace PascalScan.Json

mutual

def display : Json → String
  | null => "None"
  | bool b => if b then "True" else "False"
  | int n => toString n
  | float x => x.text
  | text s => Text.quote s
  | array items => "[" ++ displayItems items ++ "]"
  | object fields => "\x7b" ++ displayFields fields ++ "\x7d"

def displayItems : List Json → String
  | [] => ""
  | [x] => display x
  | x :: xs => display x ++ ", " ++ displayItems xs

def displayFields : Fields → String
  | [] => ""
  | [(name, x)] => Text.quote name ++ ": " ++ display x
  | (name, x) :: fs => Text.quote name ++ ": " ++ display x ++ ", " ++ displayFields fs

end

end PascalScan.Json
