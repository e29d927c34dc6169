import MappedSql.Document.Basic

/- Tables of a TOML text while it is read.

   A table comes from its own header, from the header of a table below it, or from a
   dotted key. A header may stand for a table that only headers below it have made, and
   for no other; a dotted key may go through a table that a header has not made, and
   ends in one that dotted keys have made. What is written as a value is closed. -/
namespace MappedSql.Toml

/-- Where a table comes from. -/
inductive Origin where
  | implied
  | header
  | dotted
  deriving DecidableEq, Repr

/-- What stands under a key. -/
inductive Item where
  | value (d : Document)
  | table (origin : Origin) (entries : List (String × Item))
  /-- The tables of an array, the last first. -/
  | tables (all : List (List (String × Item)))

/-- What stands under the keys of a table. -/
abbrev Entries := List (String × Item)

namespace Entries

def get? (es : Entries) (k : String) : Option Item := es.lookup k

def set (es : Entries) (k : String) (i : Item) : Entries :=
  match es with
  | [] => [(k, i)]
  | (l, j) :: rest => if k = l then (l, i) :: rest else (l, j) :: set rest k i

/-- With the table at a path of headers changed; tables that are missing are implied. -/
def within (f : Entries → Option Entries) (path : List String) (es : Entries) : Option Entries :=
  match path with
  | [] => f es
  | k :: rest =>
    match es.get? k with
    | none => (within f rest []).map fun t => es.set k (.table .implied t)
    | some (.table origin t) => (within f rest t).map fun t => es.set k (.table origin t)
    | some (.tables (last :: others)) =>
      (within f rest last).map fun t => es.set k (.tables (t :: others))
    | some _ => none

/-- With the table of a header, which has not stood before. -/
def header (k : String) (es : Entries) : Option Entries :=
  match es.get? k with
  | none => some (es.set k (.table .header []))
  | some (.table .implied t) => some (es.set k (.table .header t))
  | some _ => none

/-- With one table more in the array of a header. -/
def arrayHeader (k : String) (es : Entries) : Option Entries :=
  match es.get? k with
  | none => some (es.set k (.tables [[]]))
  | some (.tables all) => some (es.set k (.tables ([] :: all)))
  | some _ => none

def put (d : Document) (path : List String) (es : Entries) : Option Entries :=
  match path with
  | [] => none
  | [k] => if (es.get? k).isSome then none else some (es.set k (.value d))
  | k :: rest =>
    match es.get? k with
    | none => (put d rest []).map fun t => es.set k (.table .dotted t)
    | some (.table .header _) => none
    | some (.table origin t) =>
      if rest.length = 1 ∧ origin ≠ .dotted then none
      else (put d rest t).map fun t => es.set k (.table origin t)
    | some _ => none

end Entries

mutual

def Item.document : Item → Document
  | .value d => d
  | .table _ es => .map (documents es)
  | .tables all => .list (documentsOf all)

/-- The entries of a table as those of a map. -/
def documents : List (String × Item) → List (String × Document)
  | [] => []
  | (k, i) :: rest => (k, i.document) :: documents rest

/-- The tables of an array as nodes, the first first. -/
def documentsOf : List (List (String × Item)) → List Document
  | [] => []
  | es :: rest => documentsOf rest ++ [.map (documents es)]

end

end MappedSql.Toml
