import MappedSql.Decimal.Shortest

/- Counts of what a cache did. -/
namespace MappedSql.Cache

/-- How often each thing happened. -/
structure Tally where
  hits : Nat
  misses : Nat
  puts : Nat
  evictions : Nat
  clears : Nat
  deriving DecidableEq, Repr

namespace Tally

def zero : Tally := ⟨0, 0, 0, 0, 0⟩

/-- After a lookup, which found something or not. -/
def countLookup (t : Tally) (hit : Bool) : Tally :=
  if hit then { t with hits := t.hits + 1 } else { t with misses := t.misses + 1 }

def countPuts (t : Tally) (n : Nat) : Tally := { t with puts := t.puts + n }

def countEviction (t : Tally) : Tally := { t with evictions := t.evictions + 1 }

def countClear (t : Tally) : Tally := { t with clears := t.clears + 1 }

def lookups (t : Tally) : Nat := t.hits + t.misses

def hitRatio (t : Tally) : Float :=
  if t.lookups = 0 then 0.0 else Float.ofNat t.hits / Float.ofNat t.lookups

/-- The lookups in a hundred that found something. -/
def hitRate (t : Tally) : Float := t.hitRatio * 100.0

/-- The lookups in a hundred that found nothing; none while there was no lookup. -/
def missRate (t : Tally) : Float := if t.lookups = 0 then 0.0 else 100.0 - t.hitRate

/-- A ratio with two places after the point; a half goes to the even neighbour. -/
def twoPlaces (x : Float) : String :=
  let hundredths := (Decimal.Binary.ofFloat x).toHundredths
  let fraction := toString (hundredths % 100)
  toString (hundredths / 100) ++ "." ++ (if fraction.length < 2 then "0" else "") ++ fraction

def summary (t : Tally) : String :=
  s!"hits={t.hits} misses={t.misses} hit_ratio=" ++ twoPlaces t.hitRatio ++
    s!" puts={t.puts} evictions={t.evictions} clears={t.clears}"

end Tally

end MappedSql.Cache
