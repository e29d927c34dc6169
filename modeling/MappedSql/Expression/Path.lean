import MappedSql.Decimal.Word
import MappedSql.Expression.Error
import MappedSql.Text.Blank
import MappedSql.Text.Digits
import MappedSql.Text.Split

/- Paths into the parameter graph.

   A path such as `order.lines[0].sku` is a list of steps: names between dots, and
   indices in brackets, where quotes around an index are ignored. A name that is
   missing and a position past the end read as null, and so does everything below
   null. A step into a text, a number or a truth value is an error, as is a name
   that steps into a list. -/
namespace MappedSql

/-- One step of a path. -/
inductive Step where
  | name (s : String)
  | index (s : String)
  deriving DecidableEq, Repr

def Step.text : Step → String
  | .name s => s
  | .index s => s

namespace Path

open Expression (Error)
open Text (trimmed cut? readBelow?)

def isBreak (c : Char) : Bool := c == '.' || c == '['

def isQuote (c : Char) : Bool := c == '\'' || c == '"'

/-- The text without the quotes at its ends. -/
def unquoted (cs : List Char) : List Char :=
  ((cs.dropWhile isQuote).reverse.dropWhile isQuote).reverse

/-- The text after one dot, if it begins with one. -/
def afterDot : List Char → List Char
  | '.' :: rest => rest
  | cs => cs

theorem afterDot_length_le (cs : List Char) : (afterDot cs).length ≤ cs.length := by
  unfold afterDot
  split <;> simp

/-- The steps that a text writes; `whole` is the text that an error quotes. -/
def stepsOf (whole : String) (cs : List Char) : Except Error (List Step) :=
  match cs with
  | [] => .ok []
  | '[' :: rest =>
    match _h : cut? ']' rest with
    | none => .error (.malformed whole .unclosedBracket)
    | some (inner, rest) => do
      let steps ← stepsOf whole (afterDot rest)
      return .index (String.ofList (unquoted (trimmed inner))) :: steps
  | c :: cs =>
    let name := trimmed ((c :: cs).takeWhile (!isBreak ·))
    if _h : name = [] then .error (.malformed whole .emptySegment)
    else do
      let steps ← stepsOf whole (afterDot ((c :: cs).dropWhile (!isBreak ·)))
      return .name (String.ofList name) :: steps
termination_by cs.length
decreasing_by
  · have := Text.cut?_length_lt _h
    have := afterDot_length_le rest
    simp only [List.length_cons]
    omega
  · have h₁ := afterDot_length_le ((c :: cs).dropWhile (!isBreak ·))
    by_cases hb : isBreak c
    · simp [name, hb] at _h
    · have h₂ := (List.dropWhile_suffix (!isBreak ·) (l := cs)).length_le
      simp only [List.dropWhile_cons, hb, List.length_cons] at h₁ ⊢
      simp only [Bool.not_false, if_true] at h₁ ⊢
      omega

def parse (path : String) : Except Error (List Step) := stepsOf path path.toList

def walk : Value → List Step → Except Error Value
  | v, [] => .ok v
  | .null, _ :: _ => .ok .null
  | .obj f, s :: rest =>
    match Fields.get? f s.text with
    | some v => walk v rest
    | none => .ok .null
  | .arr items, .index i :: rest =>
    match readBelow? Word.count i.toList with
    | none => .error (.badIndex i)
    | some n =>
      match items[n]? with
      | some v => walk v rest
      | none => .ok .null
  | v, s :: _ => .error (.notNavigable s.text v.kind)

/-- The first name of a path: its text up to the first dot or bracket. -/
def root (path : String) : String :=
  String.ofList ((trimmed path.toList).takeWhile (!isBreak ·))

/-- What follows the first name of a path. -/
def tail (path : String) : String :=
  String.ofList ((trimmed path.toList).dropWhile (!isBreak ·))

end Path

namespace Value

/-- The value at a path, its first name included. -/
def read (v : Value) (path : String) : Except Expression.Error Value := do
  Path.walk v (← Path.parse (Text.trim path))

/-- The value at the tail of a path. -/
def readBelow (v : Value) (tail : String) : Except Expression.Error Value :=
  let rest := Text.trimmed tail.toList
  if rest.isEmpty then .ok v
  else do
    Path.walk v (← Path.parse (String.ofList (Path.afterDot rest)))

end Value

end MappedSql
