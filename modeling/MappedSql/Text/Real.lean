import MappedSql.Text.Digits

/- Doubles from decimal text.

   A sign may stand first. Then come digits with at most one point among them, and an
   exponent; or a name of infinity or of what is not a number, in any case. -/
namespace MappedSql.Text

/-- The exponent of a decimal: a sign and at least one digit. -/
def readExponent? (cs : List Char) : Option Int :=
  match cs with
  | '-' :: r => (readNat? r).map fun n => -(n : Int)
  | '+' :: r => (readNat? r).map Int.ofNat
  | r => (readNat? r).map Int.ofNat

/-- The double of a decimal without a sign: its digits as a whole number, the places after the
point, and the exponent. -/
def readDecimal? (cs : List Char) : Option Float :=
  let whole := cs.takeWhile Char.isDigit
  let rest := cs.dropWhile Char.isDigit
  let (fraction, rest) := match rest with
    | '.' :: r => (r.takeWhile Char.isDigit, r.dropWhile Char.isDigit)
    | r => ([], r)
  let exponent := match rest with
    | [] => some 0
    | c :: r => if c = 'e' ∨ c = 'E' then readExponent? r else none
  match readNat? (whole ++ fraction), exponent with
  | some n, some e =>
    let scale := e - fraction.length
    -- beyond these exponents every double is zero or infinite already
    let bounded := max (-400 - (whole.length + fraction.length : Int)) (min scale 400)
    some (Float.ofScientific n (decide (bounded < 0)) bounded.natAbs)
  | _, _ => none

/-- The double of a text without a sign. -/
def readMagnitude? (cs : List Char) : Option Float :=
  let lowered := cs.map Char.toLower
  if lowered = "inf".toList ∨ lowered = "infinity".toList then some (1.0 / 0.0)
  else if lowered = "nan".toList then some (0.0 / 0.0)
  else readDecimal? cs

def readReal? (cs : List Char) : Option Float :=
  match cs with
  | '-' :: r => (readMagnitude? r).map fun x => -x
  | '+' :: r => readMagnitude? r
  | r => readMagnitude? r

end MappedSql.Text
