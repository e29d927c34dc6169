import MappedSql.Decimal.Word

/- The shortest decimal that reads back as a given double.

   A finite double is `mantissa * 2 ^ exponent` exactly. The reals that round to
   it form an interval, its ends included when the mantissa is even. For one digit,
   two digits and so on, the two points of that decimal grid next to the value are
   tried; the first grid with a point in the interval gives the answer, the nearer
   point if both are inside, and of two equally near points the even one. All of it
   is exact arithmetic on natural numbers. -/
namespace MappedSql.Decimal

/-- A nonnegative binary number `mantissa * 2 ^ exponent`. -/
structure Binary where
  mantissa : Nat
  exponent : Int
  /-- Whether the gap to the next smaller double is half the gap to the next larger one. -/
  narrowBelow : Bool
  deriving DecidableEq, Repr

/-- The number of fractions of a double, which has 52 bits for them. -/
def fractionCount : Nat := 0x10000000000000

def Binary.ofFloat (x : Float) : Binary :=
  let bits := x.toBits.toNat
  let field : Nat := bits / fractionCount % 2048
  let fraction : Nat := bits % fractionCount
  if field = 0 then ⟨fraction, -1074, false⟩
  else ⟨fraction + fractionCount, (field : Int) - 1075, fraction == 0 && decide (1 < field)⟩

/-- The nearest number of hundredths; of two equally near, the even one. -/
def Binary.toHundredths (b : Binary) : Nat :=
  let num := 100 * b.mantissa * Nat.pow 2 b.exponent.toNat
  let den := Nat.pow 2 (-b.exponent).toNat
  let below := num / den
  let twice := 2 * (num - below * den)
  if twice < den || (twice == den && below % 2 == 0) then below else below + 1

/-- Whether the sign bit of the double is set; true of the negative zero as well. -/
def isNegative (x : Float) : Bool := Word.half ≤ x.toBits.toNat

/-- A decimal `coefficient * 10 ^ exponent`. -/
structure Decimal where
  coefficient : Nat
  exponent : Int
  deriving DecidableEq, Repr

def digitCount (n : Nat) : Nat := (Nat.toDigits 10 n).length

/-- The exponent of the leading decimal digit of the fraction `num / den`. -/
def leadingExponent (num den : Nat) : Int :=
  if den ≤ num then (digitCount (num / den) : Int) - 1
  else
    let c := (den + num - 1) / num
    if c ≤ 1 then 0 else -(digitCount (c - 1) : Int)

/-- Without the zeros at the end of the coefficient; the steps are bounded by the digits. -/
def Decimal.strip : Nat → Decimal → Decimal
  | 0, d => d
  | n + 1, d =>
    if d.coefficient ≠ 0 ∧ d.coefficient % 10 = 0 then
      Decimal.strip n ⟨d.coefficient / 10, d.exponent + 1⟩
    else d

/-- Three points of one scale: the interval's ends and the value between them. -/
structure Interval where
  low : Nat
  value : Nat
  high : Nat
  closed : Bool

def Interval.holds (i : Interval) (p : Nat) : Bool :=
  if i.closed then i.low ≤ p && p ≤ i.high else i.low < p && p < i.high

/-- The multiple of `grid` in the interval that is nearest to its value, as a count of grids. -/
def Interval.nearest? (i : Interval) (grid : Nat) : Option Nat :=
  let below := i.value / grid
  let above := below + 1
  match i.holds (below * grid), i.holds (above * grid) with
  | true, true =>
    let down := i.value - below * grid
    let up := above * grid - i.value
    if down < up || (down == up && below % 2 == 0) then some below else some above
  | true, false => some below
  | false, true => some above
  | false, false => none

/-- The shortest decimal in the interval around `b`, found with at most `more` further digits
after `digits`. -/
def Binary.search (b : Binary) (top : Int) : (digits more : Nat) → Decimal
  | _, 0 => ⟨b.mantissa, 0⟩
  | digits, more + 1 =>
    let place := top - digits + 1
    -- the value and its interval in quarters of `2 ^ exponent`, and the grid in the same unit
    let up := Nat.pow 2 (b.exponent - 2).toNat * Nat.pow 10 (-place).toNat
    let grid := Nat.pow 2 (2 - b.exponent).toNat * Nat.pow 10 place.toNat
    let below := if b.narrowBelow then 1 else 2
    let i : Interval :=
      ⟨(4 * b.mantissa - below) * up, 4 * b.mantissa * up, (4 * b.mantissa + 2) * up,
        b.mantissa % 2 == 0⟩
    match i.nearest? grid with
    | some c => Decimal.strip (digits + 1) ⟨c, place⟩
    | none => b.search top (digits + 1) more

/-- The shortest decimal that reads back as the number; seventeen digits always suffice. -/
def Binary.shortest (b : Binary) : Decimal :=
  if b.mantissa = 0 then ⟨0, 0⟩
  else
    let num := b.mantissa * Nat.pow 2 b.exponent.toNat
    let den := Nat.pow 2 (-b.exponent).toNat
    b.search (leadingExponent num den) 1 18

/-- The shortest decimal of the magnitude of a finite double. -/
def shortest (x : Float) : Decimal := (Binary.ofFloat x).shortest

def Decimal.digits (d : Decimal) : String := toString d.coefficient

def Decimal.scale (d : Decimal) : Int := d.exponent + (digitCount d.coefficient : Int) - 1

/-- Numbers whose first digit stands at one of the exponents `first` to `last` are written with
all their places; others as digits with an exponent, whose plus sign may be left out. -/
structure Layout where
  first : Int
  last : Int
  /-- Whether an exponent that is not negative is written with its sign. -/
  plusSign : Bool
  /-- Whether a whole number is written with a point and a zero. -/
  wholePoint : Bool
  deriving DecidableEq, Repr

def Decimal.positional (d : Decimal) (wholePoint : Bool) : String :=
  if 0 ≤ d.exponent then
    d.digits ++ String.ofList (List.replicate d.exponent.toNat '0') ++
      (if wholePoint then ".0" else "")
  else
    let after := (-d.exponent).toNat
    let all := d.digits.toList
    let padded := List.replicate (after + 1 - all.length) '0' ++ all
    String.ofList (padded.take (padded.length - after)) ++ "." ++
      String.ofList (padded.drop (padded.length - after))

/-- A decimal as its first digit, a point before further digits, and the exponent. -/
def Decimal.scientific (d : Decimal) (plusSign : Bool) : String :=
  let all := d.digits.toList
  let tail := all.drop 1
  String.ofList (all.take 1) ++ (if tail.isEmpty then "" else "." ++ String.ofList tail) ++ "e" ++
    (if 0 ≤ d.scale then (if plusSign then "+" else "") else "-") ++ toString d.scale.natAbs

/-- The text of a finite double: the shortest digits that read back, in the given layout. -/
def text (layout : Layout) (x : Float) : String :=
  let d := shortest x
  (if isNegative x then "-" else "") ++
    (if layout.first ≤ d.scale && d.scale ≤ layout.last then d.positional layout.wholePoint
     else d.scientific layout.plusSign)

end MappedSql.Decimal
