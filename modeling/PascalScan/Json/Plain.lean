import PascalScan.Json.Value

/-!
# Values as they are sent

What a message holds is sent only if it does not nest too deep, and with null in place of each
number that JSON has no text for. A reply of a service also leaves out the fields whose names are
reserved.
-/

namespace PascalScan.Json

/-- How deep a value may nest. -/
def maxDepth : Nat := 255

mutual

/-- How deep a value nests; each array and each object is one level, and so is a value in it. -/
def depth : Json → Nat
  | array items => itemsDepth items + 1
  | object fields => fieldsDepth fields + 1
  | _ => 1

def itemsDepth : List Json → Nat
  | [] => 0
  | x :: xs => max (depth x) (itemsDepth xs)

def fieldsDepth : Fields → Nat
  | [] => 0
  | (_, x) :: fs => max (depth x) (fieldsDepth fs)

end

mutual

/-- A value with null in place of each number that is not finite. -/
def finite : Json → Json
  | float x => if x.isFinite then float x else null
  | array items => array (finiteItems items)
  | object fields => object (finiteFields fields)
  | v => v

def finiteItems : List Json → List Json
  | [] => []
  | x :: xs => finite x :: finiteItems xs

def finiteFields : Fields → Fields
  | [] => []
  | (name, x) :: fs => (name, finite x) :: finiteFields fs

end

mutual

/-- Whether all numbers in a value are finite. -/
def isFinite : Json → Bool
  | float x => x.isFinite
  | array items => itemsFinite items
  | object fields => fieldsFinite fields
  | _ => true

def itemsFinite : List Json → Bool
  | [] => true
  | x :: xs => isFinite x && itemsFinite xs

def fieldsFinite : Fields → Bool
  | [] => true
  | (_, x) :: fs => isFinite x && fieldsFinite fs

end

/-- Whether a name is reserved: services leave its field out of their replies. -/
def isReserved (name : String) : Bool := "_sa".toList.isPrefixOf name.toList

mutual

/-- A value without the fields whose names are reserved. -/
def unreserved : Json → Json
  | array items => array (unreservedItems items)
  | object fields => object (unreservedFields fields)
  | v => v

def unreservedItems : List Json → List Json
  | [] => []
  | x :: xs => unreserved x :: unreservedItems xs

def unreservedFields : Fields → Fields
  | [] => []
  | (name, x) :: fs =>
      if isReserved name then unreservedFields fs else (name, unreserved x) :: unreservedFields fs

end

/-- Why a value cannot be sent. -/
inductive SendFault where
  | tooDeep
  /-- A number in it is not finite. -/
  | notFinite
  deriving DecidableEq, Repr

def SendFault.message : SendFault → String
  | tooDeep => "Maximum serialization depth exceeded"
  | notFinite => "Out of range float values are not JSON compliant"

/-- A value as it is sent. -/
def plain (v : Json) : Except SendFault Json :=
  if v.depth ≤ maxDepth then .ok v.finite else .error .tooDeep

end PascalScan.Json
