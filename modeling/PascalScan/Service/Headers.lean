import PascalScan.Text.Ascii

/-!
# Headers of a response

Headers are texts in ASCII under names. A name may stand more than once, in any case of its letters.
-/

namespace PascalScan.Service

abbrev Headers := List (String × String)

namespace Headers

/-- The first fault in a name or a value. -/
def fault? (headers : Headers) : Option AsciiFault :=
  headers.findSome? fun (name, value) =>
    (Ascii.fault? name.toList).or (Ascii.fault? value.toList)

/-- The values of a name, one after another; none if no header has it. -/
def value? (headers : Headers) (name : String) : Option String :=
  match headers.filter fun header => header.1.map Char.toLower == name.map Char.toLower with
  | [] => none
  | found => some (", ".intercalate (found.map (·.2)))

end Headers

end PascalScan.Service
