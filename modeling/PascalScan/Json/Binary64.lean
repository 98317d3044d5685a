/-!
# Binary floating-point numbers

A JSON number with a fraction or an exponent stands for a 64-bit binary floating-point number: the
one nearest to the decimal that is written, and of two equally near the one with the even
mantissa.
-/

namespace PascalScan

inductive Binary64 where
  /-- `mantissa` times two to the power `exponent`. -/
  | finite (negative : Bool) (mantissa : Nat) (exponent : Int)
  | infinite (negative : Bool)
  | notANumber
  deriving DecidableEq, Repr

namespace Binary64

/-- A quotient rounded to the nearest natural number, a half to the even one. -/
def roundDiv (n d : Nat) : Nat :=
  let q := n / d
  let r := n % d
  if 2 * r < d then q
  else if d < 2 * r then q + 1
  else if q % 2 = 0 then q else q + 1

/-- The least exponent. -/
def minExponent : Int := -1074

/-- `n / d` as a mantissa of at most 53 bits and an exponent. -/
def ofQuotient (n d : Nat) : Nat × Int :=
  let scaled (e : Int) : Nat × Nat :=
    if 0 ≤ e then (n, d * Nat.pow 2 e.toNat) else (n * Nat.pow 2 (-e).toNat, d)
  let guess := max ((n.log2 : Int) - (d.log2 : Int) - 53) minExponent
  let e := if Nat.pow 2 53 ≤ (scaled guess).1 / (scaled guess).2 then guess + 1 else guess
  (roundDiv (scaled e).1 (scaled e).2, e)

/-- The number nearest to `digits` times ten to the power `exponent`. Beyond 10^310 every number is
infinite and below 10^-330 every number is zero. -/
def ofDecimal (negative : Bool) (digits : Nat) (exponent : Int) : Binary64 :=
  let places : Int := (Nat.toDigits 10 digits).length
  if digits = 0 ∨ places + exponent < -330 then finite negative 0 0
  else if 310 < places + exponent then infinite negative
  else
    let (m, e) :=
      if 0 ≤ exponent then ofQuotient (digits * Nat.pow 10 exponent.toNat) 1
      else ofQuotient digits (Nat.pow 10 (-exponent).toNat)
    if Nat.pow 2 1024 ≤ m * Nat.pow 2 e.toNat then infinite negative else finite negative m e

/-- The integer that a number is, if it is one. -/
def toInt? : Binary64 → Option Int
  | finite negative m e =>
      let magnitude : Option Nat :=
        if 0 ≤ e then some (m * Nat.pow 2 e.toNat)
        else if m % Nat.pow 2 (-e).toNat = 0 then some (m / Nat.pow 2 (-e).toNat) else none
      magnitude.map fun n => if negative then -(n : Int) else n
  | infinite _ => none
  | notANumber => none

def isFinite : Binary64 → Bool
  | finite _ _ _ => true
  | infinite _ => false
  | notANumber => false

def isZero : Binary64 → Bool
  | finite _ m _ => m == 0
  | infinite _ => false
  | notANumber => false

/-- A number in full, with as many places as it takes. -/
def text : Binary64 → String
  | finite negative m e =>
      let sign := if negative then "-" else ""
      if 0 ≤ e then sign ++ toString (m * Nat.pow 2 e.toNat) ++ ".0"
      else
        let places := (-e).toNat
        let digits := Nat.toDigits 10 (m * Nat.pow 5 places)
        let padded := List.replicate (places + 1 - digits.length) '0' ++ digits
        let whole := padded.take (padded.length - places)
        let fraction := (padded.drop (padded.length - places)).reverse.dropWhile (· == '0')
        let shown := if fraction.isEmpty then ['0'] else fraction.reverse
        sign ++ String.ofList whole ++ "." ++ String.ofList shown
  | infinite negative => if negative then "-Infinity" else "Infinity"
  | notANumber => "NaN"

example : (ofDecimal false 1 23).toInt? = some 99999999999999991611392 := by decide +kernel
example : (ofDecimal true 15 (-1)).text = "-1.5" := by decide +kernel

end Binary64

end PascalScan
