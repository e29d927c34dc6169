import MappedSql.Decimal.Word
import MappedSql.Expression.Error
import MappedSql.Text.Blank
import MappedSql.Text.Digits
import MappedSql.Text.Letter

/- The tokens of an expression.

   Blanks only separate tokens. An operator has a sign, a word or both; words that
   name no operator are names. A text stands in single or double quotes, and a
   backslash takes the character after it literally. A number is a run of digits and
   points: whole without a point, a double with one. -/
namespace MappedSql.Expression

/-- The operators, binary and unary. -/
inductive Operator where
  | or
  | and
  | not
  | eq
  | ne
  | lt
  | le
  | gt
  | ge
  | plus
  | minus
  deriving DecidableEq, Repr

/-- A piece of an expression. -/
inductive Token where
  | name (s : String)
  | text (s : String)
  | number (n : Number)
  | op (o : Operator)
  | openParen
  | closeParen
  | openBracket
  | closeBracket
  | dot
  deriving DecidableEq, Repr

namespace Token

/-- Whether a name may begin with the character. -/
def startsName (c : Char) : Bool := Text.isLetter c || c == '_' || c == '$'

/-- Whether a name may go on with the character. -/
def inName (c : Char) : Bool := Text.isWordChar c || c == '_' || c == '$'

/-- Whether a number may go on with the character. -/
def inNumber (c : Char) : Bool := c.isDigit || c == '.'

def ofWord (s : String) : Token :=
  match s with
  | "and" => .op .and
  | "or" => .op .or
  | "not" => .op .not
  | "eq" => .op .eq
  | "neq" => .op .ne
  | "lt" => .op .lt
  | "lte" => .op .le
  | "gt" => .op .gt
  | "gte" => .op .ge
  | s => .name s

/-- A double from digits around one point; digits may be missing after it. -/
def readDouble? (cs : List Char) : Option Number :=
  let whole := cs.takeWhile Char.isDigit
  match cs.dropWhile Char.isDigit with
  | '.' :: fraction =>
    if fraction.all Char.isDigit then do
      let n ← Text.readNat? (whole ++ fraction)
      Number.ofFloat? (Float.ofScientific n true fraction.length)
    else none
  | _ => none

/-- The number that a run of digits and points writes. -/
def readNumber? (cs : List Char) : Option Number :=
  if cs.contains '.' then readDouble? cs
  else (Text.readBelow? Word.half cs).map fun n => .int n

/-- The content of a text after its opening quote, and what follows the closing one. -/
def scanText (quote : Char) : List Char → Option (List Char × List Char)
  | [] => none
  | ['\\'] => none
  | '\\' :: c :: rest => (scanText quote rest).map fun (s, after) => (c :: s, after)
  | c :: rest =>
    if c = quote then some ([], rest)
    else (scanText quote rest).map fun (s, after) => (c :: s, after)

theorem scanText_length_lt {quote : Char} {cs s after : List Char}
    (h : scanText quote cs = some (s, after)) : after.length < cs.length := by
  fun_induction scanText quote cs generalizing s with
  | case1 => simp at h
  | case2 => simp at h
  | case3 c rest ih =>
    obtain ⟨⟨t, a⟩, ht, he⟩ := Option.map_eq_some_iff.1 h
    simp only [Prod.mk.injEq] at he
    obtain ⟨-, rfl⟩ := he
    have := ih ht
    simp only [List.length_cons]
    omega
  | case4 rest =>
    simp only [Option.some.injEq, Prod.mk.injEq] at h
    obtain ⟨-, rfl⟩ := h
    simp
  | case5 c rest _ _ _ ih =>
    obtain ⟨⟨t, a⟩, ht, he⟩ := Option.map_eq_some_iff.1 h
    simp only [Prod.mk.injEq] at he
    obtain ⟨-, rfl⟩ := he
    have := ih ht
    simp only [List.length_cons]
    omega

/-- A token, and what follows it in a text of at most `bound` characters. -/
structure Scanned (bound : Nat) where
  token : Token
  rest : List Char
  rest_le : rest.length ≤ bound

/-- The token at the start of a text that begins with `c`, which is not blank. -/
def scan (c : Char) (cs : List Char) : Except Fault (Scanned cs.length) :=
  match c, cs with
  | '=', '=' :: rest => .ok ⟨.op .eq, rest, by simp⟩
  | '!', '=' :: rest => .ok ⟨.op .ne, rest, by simp⟩
  | '<', '=' :: rest => .ok ⟨.op .le, rest, by simp⟩
  | '>', '=' :: rest => .ok ⟨.op .ge, rest, by simp⟩
  | '&', '&' :: rest => .ok ⟨.op .and, rest, by simp⟩
  | '|', '|' :: rest => .ok ⟨.op .or, rest, by simp⟩
  | '(', rest => .ok ⟨.openParen, rest, by simp⟩
  | ')', rest => .ok ⟨.closeParen, rest, by simp⟩
  | '[', rest => .ok ⟨.openBracket, rest, by simp⟩
  | ']', rest => .ok ⟨.closeBracket, rest, by simp⟩
  | '.', rest => .ok ⟨.dot, rest, by simp⟩
  | '<', rest => .ok ⟨.op .lt, rest, by simp⟩
  | '>', rest => .ok ⟨.op .gt, rest, by simp⟩
  | '!', rest => .ok ⟨.op .not, rest, by simp⟩
  | '+', rest => .ok ⟨.op .plus, rest, by simp⟩
  | '-', rest => .ok ⟨.op .minus, rest, by simp⟩
  | c, cs =>
    if c = '\'' ∨ c = '"' then
      match h : scanText c cs with
      | some (s, rest) => .ok ⟨.text (String.ofList s), rest, Nat.le_of_lt (scanText_length_lt h)⟩
      | none => .error .unterminatedText
    else if c.isDigit then
      let literal := c :: cs.takeWhile inNumber
      match readNumber? literal with
      | some n => .ok ⟨.number n, cs.dropWhile inNumber, (List.dropWhile_suffix _).length_le⟩
      | none => .error (.badNumber (String.ofList literal))
    else if startsName c then
      .ok ⟨ofWord (String.ofList (c :: cs.takeWhile inName)), cs.dropWhile inName,
        (List.dropWhile_suffix _).length_le⟩
    else .error (.unexpectedChar c)

def scanAll (cs : List Char) : Except Fault (List Token) :=
  match cs with
  | [] => .ok []
  | c :: cs =>
    if Text.isBlank c then scanAll cs
    else do
      let ⟨t, rest, _⟩ ← scan c cs
      let ts ← scanAll rest
      return t :: ts
termination_by cs.length

end Token

end MappedSql.Expression
