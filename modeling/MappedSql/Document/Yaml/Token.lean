import MappedSql.Document.Yaml.Property

/- Tokens of a YAML text, and how far their reader has come.

   Block collections are told by their columns. The reader keeps the columns of those that
   are open, and closes the ones that a token stands to the left of. A key is known
   only by the colon behind it; so the reader keeps, for every level of brackets, the place
   where a key may have begun, and puts the tokens for it there when the colon comes. -/
namespace MappedSql.Yaml

/-- How a scalar is written. -/
inductive Style where
  | plain
  | quoted
  | literal
  | folded
  deriving DecidableEq, Repr

/-- A piece of a YAML text. -/
inductive Token where
  | directive (d : Directive)
  | documentStart
  | documentEnd
  | blockList
  | blockMap
  | blockEnd
  | flowList
  | flowListEnd
  | flowMap
  | flowMapEnd
  | item
  | comma
  | key
  | value
  | alias (name : String)
  | anchor (name : String)
  | tag (t : TagName)
  | scalar (style : Style) (text : String)
  deriving DecidableEq, Repr

/-- A column that what follows has to stand right of. -/
structure Level where
  column : Nat
  block : Bool
  deriving DecidableEq, Repr

/-- The place where a key may have begun. -/
structure KeyStart where
  index : Nat
  line : Nat
  column : Nat
  required : Bool
  before : Nat

/-- How far the reader of tokens has come. -/
structure Scan where
  place : Place
  tokens : Array Token
  keyAllowed : Bool
  levels : List Level
  flow : Nat
  /-- Where a key may have begun, for every open bracket and outside of them, innermost first. -/
  keys : List (Option KeyStart)
  /-- Where a colon needs no blank behind it, since what it follows ends by itself. -/
  adjacent : Nat
  /-- Whether braces or a question mark tell of entries in brackets. -/
  entriesTold : Bool
  /-- Whether an item in brackets has turned out to be an entry. -/
  inEntry : Bool

namespace Scan

/-- The reader at the start of a text. -/
def start (v : Version) (cs : List Char) : Scan :=
  ⟨⟨v, cs, 0, 0, 0, true⟩, #[], true, [], 0, [none], 0, false, false⟩

def version (s : Scan) : Version := s.place.version

/-- The innermost column; one to the left of all if there is none. -/
def columnOf : List Level → Int
  | [] => -1
  | l :: _ => l.column

def indent (s : Scan) : Int := columnOf s.levels

def push (s : Scan) (t : Token) : Scan := { s with tokens := s.tokens.push t }

/-- With a token put before those from a position on. -/
def insert (s : Scan) (n : Nat) (t : Token) : Scan :=
  { s with tokens := (s.tokens.extract 0 n).push t ++ s.tokens.extract n s.tokens.size }

def move (s : Scan) (p : Place) : Scan := { s with place := p }

/-- With the question decided whether a key may begin. -/
def allowKey (s : Scan) (allowed : Bool) : Scan := { s with keyAllowed := allowed }

/-- With those columns closed that are to the right of a column. Brackets keep them open. -/
def unroll (s : Scan) (column : Int) : Scan :=
  if 0 < s.flow then s
  else
    let isRight (l : Level) : Bool := decide (column < l.column)
    let ends := (s.levels.takeWhile isRight).filter (·.block)
    { s with
      levels := s.levels.dropWhile isRight
      tokens := s.tokens ++ List.replicate ends.length Token.blockEnd }

/-- With a collection in a column, if none is open there. Its token is put at a position. -/
def roll (s : Scan) (column position : Nat) (t : Token) : Scan :=
  if 0 < s.flow then s
  else
    let levels := match s.levels with
      | l :: outer => if !l.block && l.column ≤ column then outer else s.levels
      | [] => []
    if columnOf levels < column then
      { s with levels := ⟨column, true⟩ :: levels }.insert position t
    else { s with levels := levels }

/-- With what follows kept right of the collection, by the later version of the format. -/
def rollOne (s : Scan) : Scan :=
  match s.version, s.levels with
  | .v12, l :: _ =>
    if s.flow = 0 ∧ l.block then { s with levels := ⟨l.column + 1, false⟩ :: s.levels } else s
  | _, _ => s

def dropOnes (s : Scan) : Scan := { s with levels := s.levels.dropWhile fun l => !l.block }

/-- With the place forgotten where a key may have begun, which is an error where it had to. -/
def forget? (s : Scan) : Option Scan :=
  match s.keys with
  | some k :: outer => if k.required then none else some { s with keys := none :: outer }
  | _ => some s

/-- With this place as one where a key may have begun. -/
def remember? (s : Scan) : Option Scan :=
  if s.keyAllowed then do
    let s ← s.forget?
    let required := s.flow = 0 ∧ s.levels.head? = some ⟨s.place.column, true⟩
    let k : KeyStart := ⟨s.place.index, s.place.line, s.place.column, required, s.tokens.size⟩
    return { s with keys := some k :: s.keys.tail }
  else some s

/-- Whether no colon can make a key of what began there: a key stands on one line, and is not
longer than a limit. -/
def isPast (p : Place) (k : KeyStart) : Bool :=
  decide (k.line < p.line) || decide (k.index + 1024 < p.index)

/-- With the keys forgotten that did not come; by the later version of the format brackets put it
off. -/
def stale? (s : Scan) : Option Scan :=
  if s.version = .v12 ∧ 0 < s.flow then some s
  else do
    let keys ← s.keys.mapM fun k? =>
      match k? with
      | some k => if isPast s.place k then if k.required then none else some none else some k?
      | none => some none
    return { s with keys := keys }

@[simp] theorem version_start (v : Version) (cs : List Char) : (start v cs).version = v := rfl

@[simp] theorem size_push (s : Scan) (t : Token) : (s.push t).tokens.size = s.tokens.size + 1 := by
  simp [push]

theorem unroll_of_flow {s : Scan} (h : 0 < s.flow) (column : Int) : s.unroll column = s := by
  simp [unroll, h]

end Scan

end MappedSql.Yaml
