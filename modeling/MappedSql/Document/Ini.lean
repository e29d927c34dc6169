import MappedSql.Document.Basic
import MappedSql.Text.Blank
import MappedSql.Value.Reader

/- Documents from INI text.

   A text has entries, and headers in brackets that begin a section of entries. A name
   goes on to the sign that ends it, over ends of lines too; a value goes on to the end of
   its line, and its front can stand in quotes. A backslash begins an escape everywhere.
   All values are texts. A comment stands at the start of a line only. -/
namespace MappedSql.Ini

/-- The number that four characters write in hexadecimal digits, a plus sign allowed. -/
def number? (cs : List Char) : Option Nat :=
  let digits := match cs with
    | '+' :: rest => rest
    | cs => cs
  digits.foldlM (fun n c => (Json.hexValue? c).map (n * 16 + ·)) 0

/-- The text of an escape after its backslash, and what follows it. One before an end of line
comes to nothing. -/
def escape? : List Char → Option (List Char × List Char)
  | 'x' :: a :: b :: c :: d :: rest =>
    (number? [a, b, c, d]).bind fun n =>
      if h : n.isValidChar then some ([Char.ofNatAux n h], rest) else none
  | 'x' :: _ => none
  | '0' :: rest => some (['\x00'], rest)
  | 'a' :: rest => some (['\x07'], rest)
  | 'b' :: rest => some (['\x08'], rest)
  | 't' :: rest => some (['\t'], rest)
  | 'r' :: rest => some (['\r'], rest)
  | 'n' :: rest => some (['\n'], rest)
  | '\n' :: rest => some ([], rest)
  | c :: rest => some ([c], rest)
  | [] => none

/-- The text up to a character that ends it, and the text from there on; nothing if none comes and
the end of all does not count as one. -/
def until? (depth : Nat) (ends : Char → Bool) (last : Bool) (cs : List Char) :
    Option (List Char × List Char) :=
  match depth with
  | 0 => none
  | depth + 1 =>
    match cs with
    | [] => if last then some ([], []) else none
    | c :: rest =>
      if ends c then some ([], cs)
      else if c = '\\' then do
        let (piece, rest) ← escape? rest
        let (text, rest) ← until? depth ends last rest
        return (piece ++ text, rest)
      else (until? depth ends last rest).map fun (text, rest) => (c :: text, rest)

def endsLine (c : Char) : Bool := c == '\n' || c == '\r'

/-- The text up to the end of the line, and the text from there on. -/
def line? (cs : List Char) : Option (List Char × List Char) :=
  until? (cs.length + 1) endsLine true cs

/-- A text in quotes after its first one, and behind it what else stands in the line. -/
def quoted? (quote : Char) (cs : List Char) : Option (List Char × List Char) := do
  let (text, rest) ← until? (cs.length + 1) (· == quote) false cs
  let (more, rest) ← line? rest.tail
  return (text ++ more, rest)

/-- A value after its sign, and what follows it. -/
def value? (cs : List Char) : Option (String × List Char) :=
  let value := match cs.dropWhile fun c => Text.isBlank c && !endsLine c with
    | '"' :: rest => quoted? '"' rest
    | '\'' :: rest => quoted? '\'' rest
    | cs => line? cs
  value.map fun (text, rest) => (String.ofList (Text.trimmed text), rest)

/-- What has been read of a text. -/
structure Sections where
  general : List (String × Document)
  named : List (String × List (String × Document))
  /-- The name of the section whose entries are being read. -/
  current : Option String

/-- With an entry of a name, whatever stood under it. -/
def put {α : Type} (name : String) (a : α) (es : List (String × α)) : List (String × α) :=
  es.filter (·.1 != name) ++ [(name, a)]

namespace Sections

/-- With a header, which begins its section anew. -/
def header (s : Sections) (name : String) : Sections :=
  { s with named := put name [] s.named, current := some name }

def entry (s : Sections) (name value : String) : Sections :=
  let d := Document.text value
  match s.current with
  | none => { s with general := put name d s.general }
  | some title =>
    { s with named := s.named.map fun (k, es) => (k, if k = title then put name d es else es) }

def entries (s : Sections) : List (String × Document) :=
  s.general ++ s.named.map fun (name, es) => (name, .map es)

end Sections

/-- The text from here on; `starts` says whether a line starts here, and `key` is a name whose sign
comes next. -/
def read? (depth : Nat) (s : Sections) (key : String) (starts : Bool) (cs : List Char) :
    Option Sections :=
  match depth with
  | 0 => none
  | depth + 1 =>
    match cs with
    | [] => some s
    | c :: rest =>
      if Text.isBlank c then read? depth s key (c == '\n') rest
      else if c = ';' ∨ c = '#' then
        if starts then read? depth s key true (rest.dropWhile (· != '\n')).tail else none
      else if c = '[' then do
        let (name, rest) ← until? (rest.length + 1) (· == ']') false rest
        read? depth (s.header (String.ofList (Text.trimmed name))) key false rest.tail
      else if c = '=' ∨ c = ':' then do
        if key.isEmpty then none
        let (value, rest) ← value? rest
        read? depth (s.entry key value) "" false rest
      else do
        let (name, rest) ← until? (cs.length + 1) (fun c => c == '=' || c == ':') false cs
        read? depth s (String.ofList (Text.trimmed name)) false rest

def read (text : String) : Option (List (String × Document)) :=
  (read? (text.length + 1) ⟨[], [], none⟩ "" true text.toList).map Sections.entries

end MappedSql.Ini
