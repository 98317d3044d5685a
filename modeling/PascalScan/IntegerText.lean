/-!
# Integers written as text

The services take an integer as a text, too. It may have a sign, zeros in front, digits in groups
that single underscores divide, and a point with zeros behind. The zeros in front are passed over
before anything else is looked at, together with all underscores among them, and a minus sign is
still taken behind them.

`read` gives the integer, or says whether the text spells none or one of too many digits.
-/

namespace PascalScan.IntegerText

inductive Fault where
  | unreadable
  | tooLarge
  deriving DecidableEq, Repr

/-- An integer may have this many digits and no more. -/
def maxDigits : Nat := 4300

/-- What stands behind zeros and the underscores among them: a digit or a minus sign and all that
follows. Of zeros alone the last character is kept, and so is the one before a point. The first
argument is the character passed over last. -/
def behindZeros (last : Char) : List Char → Option (List Char)
  | [] => some [last]
  | c :: cs =>
      if c = '0' ∨ c = '_' then behindZeros c cs
      else if c.isDigit ∨ c = '-' then some (c :: cs)
      else if c = '.' then some (last :: c :: cs)
      else none

/-- A number without the zeros in front; none if no digit is in front. -/
def significant : List Char → Option (List Char)
  | [] => none
  | c :: cs =>
      if c = '0' then behindZeros c cs else if c.isDigit then some (c :: cs) else none

/-- A number without a point and zeros behind it. -/
def dropDecimals (cs : List Char) : List Char :=
  let whole := cs.takeWhile (· != '.')
  match cs.drop whole.length with
  | _ :: z :: zs => if (z :: zs).all (· == '0') then whole else cs
  | _ => cs

/-- Whether underscores stand one by one and none of them last. -/
def isGrouped : List Char → Bool
  | [] => true
  | '_' :: rest => rest.head?.any (· != '_') && isGrouped rest
  | _ :: rest => isGrouped rest

/-- A number without the underscores that divide its digits. -/
def joinGroups (cs : List Char) : List Char :=
  if cs.head? != some '_' && isGrouped cs then cs.filter (· != '_') else cs

/-- The number that digits spell. -/
def digitsValue (cs : List Char) : Nat :=
  cs.foldl (fun n d => n * 10 + (d.toNat - '0'.toNat)) 0

/-- The integer in digits with at most one minus sign and no zeros in front. -/
def readDigits (cs : List Char) : Except Fault Int :=
  let (negative, digits) := match cs with
    | '-' :: rest => (true, rest)
    | rest => (false, rest)
  let run := digits.takeWhile Char.isDigit
  if digits = ['0'] then .ok 0
  else if digits.head? = some '0' ∨ run = [] then .error .unreadable
  else if maxDigits < run.length then .error .tooLarge
  else if run.length < digits.length then .error .unreadable
  else
    let n : Int := digitsValue run
    .ok (if negative then -n else n)

/-- The integer that a text without blanks around it spells. -/
def read (cs : List Char) : Except Fault Int :=
  let (sign, body) := match cs with
    | '-' :: rest => (['-'], rest)
    | '+' :: rest => ([], rest)
    | rest => ([], rest)
  match significant body with
  | none => .error .unreadable
  | some number => readDigits (sign ++ joinGroups (dropDecimals number))

example : (read "+0_012_500.00".toList).toOption = some 12500 := by decide
example : (read "0__-7".toList).toOption = some (-7) := by decide
example : (read "1__0".toList).toOption = none := by decide

end PascalScan.IntegerText
