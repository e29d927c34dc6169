import MappedSql.Decimal.Word
import MappedSql.Document.Decoding
import MappedSql.Document.Yaml.Node
import MappedSql.Text.Real

/- Documents whose scalars are what they look like, from YAML nodes.

   A scalar without quotes and tag is a number, a truth value or nothing if it is written
   like one, and else a text. One with the tag of a sort has to be of that sort; if it is not,
   there is no value, nor is there one for an alias within the node that it stands
   for. Keys are texts or whole numbers, and no key stands twice. -/
namespace MappedSql.Yaml

namespace Scalar

/-- A whole number in digits of a base, a sign allowed, if a signed word holds it. -/
def readSignedBase? (base : Nat) (cs : List Char) : Option Int :=
  let i := match cs with
    | '-' :: digits => (Conversions.readBase? base digits).map fun n => -(n : Int)
    | '+' :: digits => (Conversions.readBase? base digits).map Int.ofNat
    | digits => (Conversions.readBase? base digits).map Int.ofNat
  i.filter Word.isSigned

/-- The whole number that a scalar writes: in decimal, or with the mark of another base; a plus sign
may stand before any number. -/
def int? (cs : List Char) : Option Int :=
  match cs with
  | '0' :: 'x' :: digits => readSignedBase? 16 digits
  | '0' :: 'o' :: digits => readSignedBase? 8 digits
  | '+' :: rest => Text.readSigned? rest
  | cs => Text.readSigned? cs

/-- The names of what is no decimal; they are known as numbers and cannot be read as one. -/
def isName (s : String) : Bool :=
  [".inf", ".Inf", ".INF", "+.inf", "+.Inf", "+.INF", "-.inf", "-.Inf", "-.INF", ".nan",
    ".NAN"].contains s

/-- A scalar without quotes and tag; nothing if it cannot be read. -/
def untyped? (s : String) : Option Document :=
  let cs := s.toList
  match int? cs with
  | some i => some (.int i)
  | none =>
    if s = "~" ∨ s = "null" then some .null
    else if s = "true" then some (.bool true)
    else if s = "false" then some (.bool false)
    else if isName s then none
    else some (((Text.readReal? cs).map .float).getD (.text s))

/-- A scalar without quotes that has the tag of a sort; nothing if it cannot be read, and no value
if it is not of that sort. -/
def typed? (sort s : String) : Option (Option Document) :=
  let cs := s.toList
  if sort = "bool" then
    some <|
      if s = "true" then some (.bool true)
      else if s = "false" then some (.bool false)
      else none
  else if sort = "int" then some ((Text.readSigned? cs).map .int)
  else if sort = "float" then
    if isName s then none else some ((Text.readReal? cs).map .float)
  else if sort = "null" then some (if s = "~" ∨ s = "null" then some .null else none)
  else some (some (.text s))

/-- A scalar; nothing if it cannot be read. -/
def read? (p : Properties) (style : Style) (s : String) : Option (Option Document) :=
  match style, p.tag with
  | .plain, none => (untyped? s).map some
  | .plain, some (.standard sort) => typed? sort s
  | _, _ => some (some (.text s))

end Scalar

/-- The values of the nodes with an anchor that have been read. -/
abbrev Known := List (Nat × Option Document)

/-- A reader that keeps what aliases stand for. -/
abbrev Marking := StateT Known Option

/-- A map whose entries are being read. -/
structure Slots where
  key : Option Document
  entries : List (Document × Document)

namespace Slots

def sameKey : Document → Document → Bool
  | .text s, .text t => s == t
  | .int i, .int j => i == j
  | _, _ => false

/-- With a node more: a key, or the value of the key before it. What is no value is passed by where
a key is wanted. -/
def put? (s : Slots) (d : Option Document) : Option Slots :=
  match s.key with
  | none => some { s with key := d }
  | some k =>
    if s.entries.any fun e => sameKey e.1 k then none
    else some ⟨none, (k, d.getD .null) :: s.entries⟩

def name? : Document → Option String
  | .text s => some s
  | .int i => some (toString i)
  | _ => none

def map? (s : Slots) : Option Document := do
  let es ← s.entries.reverse.mapM fun e => (name? e.1).map fun name => (name, e.2)
  return .map (es.foldl (fun kept e => kept.filter (·.1 != e.1) ++ [e]) [])

end Slots

namespace Node

/-- A value, kept if an alias can stand for it. -/
def keep (p : Properties) (d : Option Document) : Marking (Option Document) := do
  match p.anchor with
  | some a => modify fun known => (a, d) :: known
  | none => pure ()
  return d

mutual

/-- The value of a node, if it has one. -/
def marked : Node → Marking (Option Document)
  | .scalar p style text => do keep p (← (Scalar.read? p style text : Option (Option Document)))
  | .list p items => do keep p (some (.list (← markedItems items)))
  | .map p entries => do
    let slots ← markedEntries ⟨none, []⟩ entries
    keep p (some (← slots.map?))
  | .alias number => return ((← get).lookup number).join

def markedItems : List Node → Marking (List Document)
  | [] => return []
  | n :: rest => do
    let d ← marked n
    return d.getD .null :: (← markedItems rest)

def markedEntries (s : Slots) : List (Node × Node) → Marking Slots
  | [] => return s
  | (k, n) :: rest => do
    let s ← s.put? (← marked k)
    let s ← s.put? (← marked n)
    markedEntries s rest

end

end Node

/-- The document that a text holds, with its scalars as what they look like; nothing written is an
empty map. -/
def readMarked (text : String) : Option Document := do
  match ← read? .v12 text with
  | none => return .map []
  | some c =>
    let (d, _) ← (c.root.marked).run []
    return d.getD .null

end MappedSql.Yaml
