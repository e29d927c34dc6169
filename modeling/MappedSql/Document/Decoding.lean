import MappedSql.Decimal.Word
import MappedSql.Document.Basic
import MappedSql.Text.Case
import MappedSql.Text.Digits

/- Values from documents.

   How much a scalar may be bent to the sort that is wanted depends on where the
   document comes from: a format with marked scalars takes each for what it is, one
   that leaves their sort open has spellings for each sort, and settings are merged
   from sources that know texts only, so that any scalar goes where it can. The rest
   is common: a record takes the fields it knows and ignores others, a known field
   stands once, and a missing one has a default or is an error. -/
namespace MappedSql

/-- Whether a list can give the fields of a record in their order. -/
inductive Listing where
  | never
  /-- If it has no more items than there are fields. -/
  | atMost
  | leading
  deriving DecidableEq, Repr

/-- How the scalars of a document are taken. -/
structure Conversions where
  bool? : Document → Option Bool
  /-- Whole numbers of 64 bits without a sign. -/
  nat? : Document → Option Nat
  text? : Document → Option String
  /-- The word that a node writes where there is a choice of words. -/
  choice? : Document → Option String
  /-- Whether a node stands for no value where one may be left out; not every node may stand
  there. -/
  absent? : Document → Option Bool
  listing : Listing
  /-- Whether a date or a time counts as a record, of which it gives no field. -/
  momentIsRecord : Bool

namespace Conversions

/-- The number if an unsigned word of 64 bits holds it. -/
def word? (i : Int) : Option Nat :=
  match i with
  | .ofNat n => if n < Word.count then some n else none
  | .negSucc _ => none

/-- Every scalar is taken for what it is. -/
def marked : Conversions where
  bool?
    | .bool b => some b
    | _ => none
  nat?
    | .int i => word? i
    | _ => none
  text?
    | .text s => some s
    | _ => none
  choice?
    | .text s => some s
    | .map [(s, .null)] => some s
    | _ => none
  absent?
    | .null => some true
    | _ => some false
  listing := .atMost
  momentIsRecord := false

/-- Every scalar is taken for what it is, where tables take the place of all that is nested: a
word can be a key with an empty table or list behind it. -/
def tabular : Conversions where
  bool? := marked.bool?
  nat? := marked.nat?
  text? := marked.text?
  choice?
    | .text s => some s
    | .map [(s, .map [])] => some s
    | .map [(s, .list [])] => some s
    | _ => none
  absent? _ := some false
  listing := .leading
  momentIsRecord := true

/-- The value of a digit of the given base, which is at most sixteen. -/
def digit? (base : Nat) (c : Char) : Option Nat :=
  let n :=
    if c.isDigit then c.toNat - '0'.toNat
    else if 'a' ≤ c ∧ c ≤ 'f' then c.toNat - 'a'.toNat + 10
    else if 'A' ≤ c ∧ c ≤ 'F' then c.toNat - 'A'.toNat + 10
    else base
  if n < base then some n else none

/-- The number that digits of a base write. -/
def readBase? (base : Nat) (cs : List Char) : Option Nat :=
  if cs.isEmpty then none
  else cs.foldlM (fun n c => (digit? base c).map (n * base + ·)) 0

/-- Digits that begin with zeros that do not count; they write no number. -/
def isPadded (cs : List Char) : Bool :=
  match cs with
  | '0' :: c :: rest => (c :: rest).all Char.isDigit
  | _ => false

/-- The number that an unmarked scalar writes: decimal, or with the mark of another base. -/
def readOpen? (cs : List Char) : Option Nat :=
  let digits := match cs with
    | '+' :: r => r
    | r => r
  let n := match digits with
    | '0' :: 'x' :: r => readBase? 16 r
    | '0' :: 'o' :: r => readBase? 8 r
    | '0' :: 'b' :: r => readBase? 2 r
    | r => if isPadded r then none else Text.readNat? r
  n.bind fun n => if n < Word.count then some n else none

def isNull (s : String) : Bool := ["~", "null", "Null", "NULL"].contains s

def isNothing (s : String) : Bool := s.isEmpty || isNull s

/-- The characters of a scalar without quotes, or of a block that is tagged with the sort. -/
def openText? (sort : String) : Document → Option String
  | .plain s => some s
  | .tagged _ (.plain s) => some s
  | .tagged t (.block s) => if t = .standard sort then some s else none
  | _ => none

def scalarText? (d : Document) : Option String :=
  match d.untagged with
  | .plain s => some s
  | .text s => some s
  | .block s => some s
  | _ => none

/-- Scalars without quotes are what the place wants, if they have its spelling. A word of a choice
may be a tag with nothing behind it. -/
def unmarked : Conversions where
  bool? d :=
    (openText? "bool" d).bind fun s =>
      if ["true", "True", "TRUE"].contains s then some true
      else if ["false", "False", "FALSE"].contains s then some false
      else none
  nat? d := (openText? "int" d).bind fun s => readOpen? s.toList
  text? := scalarText?
  choice?
    | .tagged (.own name) (.plain s) => if isNothing s then some name else none
    | .tagged (.own _) _ => none
    | d => scalarText? d
  absent?
    | .plain s => some (isNothing s)
    | .tagged (.standard "null") (.plain s) => if isNull s then some true else none
    | _ => some false
  listing := .never
  momentIsRecord := false

variable (c : Conversions)

/-- The fields of a record by their names. -/
def record? (names : List String) (d : Document) : Option (String → Option Document) :=
  match d.untagged with
  | .map entries =>
    if names.all fun n => (entries.filter (·.1 == n)).length ≤ 1 then some fun n => entries.lookup n
    else none
  | .list items =>
    if c.listing = .leading ∨ c.listing = .atMost ∧ items.length ≤ names.length then
      some fun n => (names.zip items).lookup n
    else none
  | .plain "" => some fun _ => none
  | .moment _ => if c.momentIsRecord then some fun _ => none else none
  | _ => none

def required {α : Type} (read : Document → Option α) (field : Option Document) : Option α :=
  field.bind read

def orElse {α : Type} (default : α) (read : Document → Option α) (field : Option Document) :
    Option α :=
  match field with
  | none => some default
  | some d => read d

def optional {α : Type} (read : Document → Option α) (field : Option Document) :
    Option (Option α) :=
  match field with
  | none => some none
  | some d => (c.absent? d).bind fun absent => if absent then some none else (read d).map some

def items? {α : Type} (read : Document → Option α) (d : Document) : Option (List α) :=
  match d.untagged with
  | .list items => items.mapM read
  | .plain "" => some []
  | _ => none

/-- A map from names; of several entries of one name the last stands. -/
def entries? {α : Type} (read : Document → Option α) : Document → Option (List (String × α))
  | .map entries => do
    let all ← entries.mapM fun (k, d) => (read d).map fun a => (k, a)
    return all.foldl (fun kept e => kept.filter (·.1 != e.1) ++ [e]) []
  | .plain "" => some []
  | _ => none

def keyword? {α : Type} (ofKeyword? : String → Option α) (d : Document) : Option α :=
  (c.choice? d).bind ofKeyword?

end Conversions

end MappedSql
