import MappedSql.Decimal.Shortest
import MappedSql.Decimal.Word
import MappedSql.Document.Decoding
import MappedSql.Text.Real
import MappedSql.Text.Split

/- Documents laid over one another.

   Settings come from several places, and what a later one says is written over what
   the earlier ones say: maps are merged entry by entry, anything else is replaced. The
   place of a value is a path of names and positions, and names are taken in small
   letters. Whatever stands in the way of a path gives way to it. -/
namespace MappedSql

namespace Document

/-- The entries of a map; none of anything else. -/
def entriesOf : Document → List (String × Document)
  | .map es => es
  | _ => []

/-- The items of a list; none of anything else. -/
def itemsOf : Document → List Document
  | .list ds => ds
  | _ => []

/-- With the entry of a name changed, or one made of `fresh`. -/
def alter (name : String) (fresh : Document) (f : Document → Document) :
    List (String × Document) → List (String × Document)
  | [] => [(name, f fresh)]
  | (k, d) :: rest => if name = k then (k, f d) :: rest else (k, d) :: alter name fresh f rest

mutual

def mergeAt (name : String) (top : Document) (d : Document) : Document :=
  match top with
  | .map es => .map (alter (Text.lowercase name) (.map []) (mergeAll es) d.entriesOf)
  | v => .map (alter (Text.lowercase name) .null (fun _ => v) d.entriesOf)

def mergeAll : List (String × Document) → Document → Document
  | [], d => d
  | (k, v) :: rest, d => mergeAll rest (mergeAt k v d)

end

/-- A step on the way to a value. -/
inductive Place where
  | name (s : String)
  /-- A position in a list, from its end if it is negative. -/
  | position (i : Int)

/-- A list with one item changed; it is filled up to the position. -/
def alterItem (i : Int) (f : Document → Document) (ds : List Document) : List Document :=
  let n := match i with
    | .ofNat n => n
    | .negSucc n => ds.length - (n + 1)
  let ds := ds ++ List.replicate (n + 1 - ds.length) .null
  ds.set n (f ((ds[n]?).getD .null))

/-- With a document laid over what is at a place. -/
def layAt (top : Document) : List Place → Document → Document
  | [], d => d
  | [.name k], d => mergeAt k top d
  | [.position i], d => .list (alterItem i (fun _ => top) d.itemsOf)
  | .name k :: rest, d => .map (alter (Text.lowercase k) .null (layAt top rest) d.entriesOf)
  | .position i :: rest, d => .list (alterItem i (layAt top rest) d.itemsOf)

/-- Characters of a name in the writing of a place. -/
def isNameChar (c : Char) : Bool := c.isAlphanum || c == ' ' || c == '_' || c == '-'

def isPadding (c : Char) : Bool := c == ' ' || c == '\t'

/-- The position that is written between brackets: digits, a minus sign before them, and blanks
around them. -/
def position? (index : List Char) : Option Int :=
  let digits := ((index.dropWhile isPadding).reverse.dropWhile isPadding).reverse
  if digits.head? == some '+' then none else Text.readSigned? digits

/-- The steps after the first one: a dot and a name, or a position in brackets. -/
def placesAfter? (depth : Nat) (cs : List Char) : Option (List Place) :=
  match depth with
  | 0 => none
  | depth + 1 =>
    match cs with
    | [] => some []
    | '.' :: rest =>
      let name := rest.takeWhile isNameChar
      if name.isEmpty then none
      else (placesAfter? depth (rest.dropWhile isNameChar)).map (.name (String.ofList name) :: ·)
    | '[' :: rest => do
      let (index, rest) ← Text.cut? ']' rest
      let i ← position? index
      return .position i :: (← placesAfter? depth rest)
    | _ => none

/-- The place that a key writes; a key that writes none is one name. -/
def placesOf (key : String) : List Place :=
  let cs := key.toList
  let name := cs.takeWhile isNameChar
  let read := if name.isEmpty then none
    else
      (placesAfter? (cs.length + 1) (cs.dropWhile isNameChar)).map
        (.name (String.ofList name) :: ·)
  read.getD [.name key]

/-- With entries laid over a document, each at the place that its key writes. -/
def lay (entries : List (String × Document)) (d : Document) : Document :=
  entries.foldl (fun d (k, v) => layAt v (placesOf k) d) d

end Document

namespace Conversions

/-- The plain text of a double: all its places, and no point in a whole number. -/
def wholeLayout : Decimal.Layout := ⟨-400, 400, false, false⟩

def floatText (x : Float) : String :=
  if x.isNaN then "NaN"
  else if x.isFinite then Decimal.text wholeLayout x
  else if x < 0.0 then "-inf" else "inf"

/-- The whole number next to a double, as far as an unsigned word holds it. -/
def rounded (x : Float) : Nat := x.round.toUInt64.toNat

/-- Every scalar goes where it can: words for truth values, numbers that are not zero, digits in
texts, and any scalar as a text. A whole number that no signed word holds is a double. Words of a
choice are known in any case of their letters. -/
def loose : Conversions where
  bool?
    | .bool b => some b
    | .int i => some (i != 0)
    | .float x => some (x != 0.0)
    | .text s =>
      let word := Text.lowercase s
      if ["1", "true", "on", "yes"].contains word then some true
      else if ["0", "false", "off", "no"].contains word then some false
      else none
    | _ => none
  nat?
    | .int i => if Word.isSigned i then word? i else some (rounded (Float.ofInt i))
    | .float x => some (rounded x)
    | .bool b => some (if b then 1 else 0)
    | .text s =>
      let word := Text.lowercase s
      if ["true", "on", "yes"].contains word then some 1
      else if ["false", "off", "no"].contains word then some 0
      else Text.readBelow? Word.count s.toList
    | _ => none
  text?
    | .text s => some s
    | .moment s => some s
    | .bool b => some (if b then "true" else "false")
    | .int i => some (if Word.isSigned i then toString i else floatText (Float.ofInt i))
    | .float x => some (floatText x)
    | _ => none
  choice?
    | .text s => some (Text.lowercase s)
    | .map [(s, _)] => some (Text.lowercase s)
    | _ => none
  absent?
    | .null => some true
    | _ => some false
  listing := .leading
  momentIsRecord := false

end Conversions

end MappedSql
