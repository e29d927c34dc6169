import MappedSql.Decimal.Word
import MappedSql.Document.Basic
import MappedSql.Text.Digits
import MappedSql.Text.Name
import MappedSql.Text.Real
import MappedSql.Text.Split
import MappedSql.Value.Reader

/- Documents from JSON5 text.

   JSON5 is JSON with comments, commas behind last members, names without quotes, either
   kind of quotes, and more ways to write numbers. A number without a point and an exponent
   is a whole one, which a signed word has to hold. Every call of a reader takes a unit of
   the depth that the length of the text allows. -/
namespace MappedSql.Json5

def isBreak (c : Char) : Bool := c == '\n' || c == '\r' || c == '\u2028' || c == '\u2029'

def isSpace (c : Char) : Bool :=
  let n := c.toNat
  isBreak c || c == '\t' || c == '\x0b' || c == '\x0c' || c == ' ' || n == 0xa0 || n == 0xfeff ||
    n == 0x1680 || (0x2000 ≤ n && n ≤ 0x200a) || n == 0x202f || n == 0x205f || n == 0x3000

/-- What follows blanks and comments. A comment that is not closed is none. -/
def skip (depth : Nat) (cs : List Char) : List Char :=
  match depth with
  | 0 => cs
  | depth + 1 =>
    match cs with
    | [] => []
    | '/' :: '/' :: rest => skip depth (rest.dropWhile fun c => !isBreak c)
    | '/' :: '*' :: rest =>
      match Text.find? ['*', '/'] rest with
      | some (_, rest) => skip depth rest
      | none => cs
    | c :: rest => if isSpace c then skip depth rest else cs

/-- What stands in a text: a character, or a number of sixteen bits that is half of one. -/
inductive Unit16 where
  | char (c : Char)
  | half (n : Nat)

/-- The characters that the parts of a text come to; every first half has a second one behind it. -/
def joined? : List Unit16 → Option (List Char)
  | [] => some []
  | .char c :: rest => (joined? rest).map (c :: ·)
  | .half high :: .half low :: rest =>
    if high < 0xdc00 ∧ 0xdc00 ≤ low then
      (joined? rest).map (Char.ofNat (0x10000 + (high - 0xd800) * 0x400 + (low - 0xdc00)) :: ·)
    else none
  | .half _ :: _ => none

def hex? (cs : List Char) : Option Nat :=
  if cs.isEmpty then none else cs.foldlM (fun n c => (Json.hexValue? c).map (n * 16 + ·)) 0

/-- The part that a number of sixteen bits stands for. -/
def unit (n : Nat) : Unit16 :=
  if 0xd800 ≤ n ∧ n < 0xe000 then .half n else .char (Char.ofNat n)

/-- The character of an escape of one letter. -/
def shortEscape? : Char → Option Char
  | 'b' => some '\x08'
  | 'f' => some '\x0c'
  | 'n' => some '\n'
  | 'r' => some '\r'
  | 't' => some '\t'
  | 'v' => some '\x0b'
  | '0' => some '\x00'
  | c => if c.isDigit || c == 'x' || c == 'u' then none else some c

/-- The parts of an escape after its backslash, and what follows it. One before an end of line comes
to nothing. -/
def escape? : List Char → Option (List Unit16 × List Char)
  | 'x' :: a :: b :: rest => (hex? [a, b]).map fun n => ([unit n], rest)
  | 'u' :: a :: b :: c :: d :: rest => (hex? [a, b, c, d]).map fun n => ([unit n], rest)
  | '\r' :: '\n' :: rest => some ([], rest)
  | c :: rest =>
    if isBreak c then some ([], rest) else (shortEscape? c).map fun e => ([.char e], rest)
  | [] => none

/-- The parts of a text up to its closing quote, and what follows it. -/
def quoted? (depth : Nat) (quote : Char) (cs : List Char) : Option (List Unit16 × List Char) :=
  match depth with
  | 0 => none
  | depth + 1 =>
    match cs with
    | [] => none
    | c :: rest =>
      if c = quote then some ([], rest)
      else if c = '\\' then do
        let (part, rest) ← escape? rest
        let (parts, rest) ← quoted? depth quote rest
        return (part ++ parts, rest)
      else if isBreak c then none
      else (quoted? depth quote rest).map fun (parts, rest) => (.char c :: parts, rest)

/-- Whether a name without quotes may have the character; a place that is not the `first` takes more
of them. -/
def isNameChar (first : Bool) (c : Char) : Bool :=
  c == '$' || c == '_' || if first then Text.startsName c else
    Text.continuesName c || c == '\u200c' || c == '\u200d'

/-- The parts of a name without quotes, and what follows it. -/
def bare (depth : Nat) (first : Bool) (cs : List Char) : List Unit16 × List Char :=
  match depth with
  | 0 => ([], cs)
  | depth + 1 =>
    let more (part : Unit16) (rest : List Char) : List Unit16 × List Char :=
      let (parts, rest) := bare depth false rest
      (part :: parts, rest)
    match cs with
    | '\\' :: 'u' :: a :: b :: c :: d :: rest =>
      match hex? [a, b, c, d] with
      | some n => more (unit n) rest
      | none => ([], cs)
    | c :: rest => if isNameChar first c then more (.char c) rest else ([], cs)
    | [] => ([], [])

/-- A text in quotes, and what follows it. -/
def text? (cs : List Char) : Option (String × List Char) := do
  let (parts, rest) ← match cs with
    | '"' :: rest => quoted? (rest.length + 1) '"' rest
    | '\'' :: rest => quoted? (rest.length + 1) '\'' rest
    | _ => none
  return (String.ofList (← joined? parts), rest)

/-- The name of a member, and what follows it. -/
def name? (cs : List Char) : Option (String × List Char) :=
  match cs with
  | '"' :: _ => text? cs
  | '\'' :: _ => text? cs
  | _ =>
    let (parts, rest) := bare (cs.length + 1) true cs
    if parts.isEmpty then none else (joined? parts).map fun s => (String.ofList s, rest)

/-- The characters of an exponent here; none if there is no digit. -/
def exponent (cs : List Char) : List Char :=
  match cs with
  | e :: rest =>
    if e = 'e' ∨ e = 'E' then
      let sign := (rest.take 1).filter fun c => c == '+' || c == '-'
      let digits := (rest.drop sign.length).takeWhile Char.isDigit
      if digits.isEmpty then [] else e :: sign ++ digits
    else []
  | [] => []

/-- The characters of a decimal without a sign. A whole part of several digits does not begin with a
zero. -/
def decimal? (cs : List Char) : Option (List Char) :=
  let whole := match cs with
    | '0' :: _ => ['0']
    | cs => cs.takeWhile Char.isDigit
  match cs.drop whole.length with
  | '.' :: rest =>
    let fraction := rest.takeWhile Char.isDigit
    if whole.isEmpty && fraction.isEmpty then none
    else some (whole ++ '.' :: fraction ++ exponent (rest.drop fraction.length))
  | rest => if whole.isEmpty then none else some (whole ++ exponent rest)

/-- How many numbers a word of 32 bits holds. -/
def hexCount : Nat := 0x100000000

/-- A number with digits of base sixteen, which has no sign and fits a word of 32 bits, and what
follows it. -/
def hexNumber? (cs : List Char) : Option (Document × List Char) :=
  let digits := cs.takeWhile fun c => (Json.hexValue? c).isSome
  (hex? digits).bind fun n => if n < hexCount then some (.int n, cs.drop digits.length) else none

/-- A decimal with its sign, and what follows it. -/
def decimalNumber? (sign cs : List Char) : Option (Document × List Char) := do
  let digits ← decimal? cs
  let number := sign ++ digits
  let d ←
    if digits.all Char.isDigit then (Text.readSigned? number).map .int
    else (Text.readReal? number).bind fun x => if x.isFinite then some (.float x) else none
  return (d, cs.drop digits.length)

/-- Whether digits of base sixteen follow their mark here. -/
def atHex : List Char → Bool
  | '0' :: x :: c :: _ => (x == 'x' || x == 'X') && (Json.hexValue? c).isSome
  | _ => false

def number? (cs : List Char) : Option (Document × List Char) :=
  let sign := (cs.take 1).filter fun c => c == '+' || c == '-'
  let cs := cs.drop sign.length
  if atHex cs then if sign.isEmpty then hexNumber? (cs.drop 2) else none
  else
    match Text.dropPiece? "Infinity".toList cs, Text.dropPiece? "NaN".toList cs with
    | some rest, _ =>
      if sign = ['+'] then none
      else some (.float (if sign.isEmpty then 1.0 / 0.0 else -1.0 / 0.0), rest)
    | none, some rest => if sign = ['+'] then none else some (.float (0.0 / 0.0), rest)
    | none, none => decimalNumber? sign cs

/-- A value that is no list and no map, and what follows it. -/
def leaf? (cs : List Char) : Option (Document × List Char) :=
  match Text.dropPiece? "null".toList cs, Text.dropPiece? "true".toList cs,
    Text.dropPiece? "false".toList cs, cs with
  | some rest, _, _, _ => some (.null, rest)
  | none, some rest, _, _ => some (.bool true, rest)
  | none, none, some rest, _ => some (.bool false, rest)
  | none, none, none, '"' :: _ => (text? cs).map fun (s, rest) => (.text s, rest)
  | none, none, none, '\'' :: _ => (text? cs).map fun (s, rest) => (.text s, rest)
  | none, none, none, _ => number? cs

mutual

def value? (depth : Nat) (cs : List Char) : Option (Document × List Char) :=
  match depth with
  | 0 => none
  | depth + 1 =>
    match cs with
    | '[' :: rest => do
      let (items, rest) ← items? depth (skip (rest.length + 1) rest)
      return (.list items, rest)
    | '\x7b' :: rest => do
      let (entries, rest) ← entries? depth [] (skip (rest.length + 1) rest)
      return (.map entries, rest)
    | _ => leaf? cs

def items? (depth : Nat) (cs : List Char) : Option (List Document × List Char) :=
  match depth with
  | 0 => none
  | depth + 1 =>
    match cs with
    | ']' :: rest => some ([], rest)
    | _ => do
      let (d, rest) ← value? depth cs
      match skip (rest.length + 1) rest with
      | ']' :: rest => return ([d], rest)
      | ',' :: rest =>
        let (ds, rest) ← items? depth (skip (rest.length + 1) rest)
        return (d :: ds, rest)
      | _ => none

/-- The entries up to the closing brace; of several of one name the last stands. -/
def entries? (depth : Nat) (es : List (String × Document)) (cs : List Char) :
    Option (List (String × Document) × List Char) :=
  match depth with
  | 0 => none
  | depth + 1 =>
    match cs with
    | '\x7d' :: rest => some (es, rest)
    | _ => do
      let (name, rest) ← name? cs
      match skip (rest.length + 1) rest with
      | ':' :: rest =>
        let (d, rest) ← value? depth (skip (rest.length + 1) rest)
        let es := es.filter (·.1 != name) ++ [(name, d)]
        match skip (rest.length + 1) rest with
        | '\x7d' :: rest => return (es, rest)
        | ',' :: rest => entries? depth es (skip (rest.length + 1) rest)
        | _ => none
      | _ => none

end

def read (text : String) : Option Document := do
  let cs := text.toList
  let (d, rest) ← value? (2 * cs.length + 2) (skip (cs.length + 1) cs)
  if (skip (rest.length + 1) rest).isEmpty then return d else none

end MappedSql.Json5
