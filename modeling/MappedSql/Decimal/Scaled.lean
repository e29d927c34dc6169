import MappedSql.Decimal.Word

/- Doubles from a significand of one word and a power of ten.

   Digits are taken into a significand as long as 64 bits hold it; further digits
   only move the decimal point. The significand is rounded to a double and then
   multiplied or divided once by a power of ten, so a long number may come out one
   place beside the nearest double. -/
namespace MappedSql.Decimal

/-- A significand below `2 ^ 64` and the power of ten it is scaled by. -/
structure Scaled where
  significand : Nat
  exponent : Int
  deriving DecidableEq, Repr

def digitValue (c : Char) : Nat := c.toNat - '0'.toNat

/-- Takes the digits before the point: once one does not fit, it and the rest count as places. -/
def Scaled.takeWhole : List Char → Nat → Scaled
  | [], n => ⟨n, 0⟩
  | c :: rest, n =>
    let m := n * 10 + digitValue c
    if m < Word.count then Scaled.takeWhole rest m else ⟨n, rest.length + 1⟩

/-- Takes the digits after the point: the first that does not fit ends the reading. -/
def Scaled.takeFraction (d : Scaled) : List Char → Scaled
  | [] => d
  | c :: rest =>
    let m := d.significand * 10 + digitValue c
    if m < Word.count then Scaled.takeFraction ⟨m, d.exponent - 1⟩ rest else d

/-- The greatest power of ten that is a double. -/
def topPower : Nat := 308

/-- A double times a power of ten. Below the least power the division is done in steps, of which
the third at the latest leaves zero; above the greatest only zero stays a number. -/
def scaleBy : (steps : Nat) → Float → Int → Option Float
  | steps, x, e =>
    if e.natAbs ≤ topPower then
      let y := if 0 ≤ e then x * Float.ofScientific 1 false e.natAbs
        else x / Float.ofScientific 1 false e.natAbs
      if y.isFinite then some y else none
    else if x == 0.0 then some x
    else if 0 ≤ e then none
    else
      match steps with
      | 0 => some 0.0
      | n + 1 => scaleBy n (x / Float.ofScientific 1 false topPower) (e + topPower)

/-- The double that the scaled number is read as, unless it is too large. -/
def Scaled.toFloat? (d : Scaled) : Option Float := scaleBy 4 (Float.ofNat d.significand) d.exponent

end MappedSql.Decimal
