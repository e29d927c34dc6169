import MappedSql.Document.Yaml.Place
import MappedSql.Value.Reader

/- Names of anchors and tags, and directives.

   A tag has a handle, which stands for the start of a name, and the rest of the name;
   a directive before a document says what a handle stands for there. A tag in angle
   brackets has no handle. A percent sign in a name begins the octets of a character. -/
namespace MappedSql.Yaml

/-- A directive. -/
inductive Directive where
  | version (major minor : Nat)
  /-- What a handle stands for; nothing if that is not text. -/
  | handle (name : String) (start : Option String)
  deriving DecidableEq, Repr

/-- A tag as it is written. -/
structure TagName where
  handle : String
  /-- The rest of the name; nothing if it is not text. -/
  suffix : Option String
  deriving DecidableEq, Repr

namespace Property

/-- An octet in two hexadecimal digits, and what follows it. -/
def octet? : List Char → Option (Nat × List Char)
  | '%' :: a :: b :: rest => do
    let high ← Json.hexValue? a
    let low ← Json.hexValue? b
    return (high * 16 + low, rest)
  | _ => none

/-- How many octets a character has that begins with this one. -/
def width? (octet : Nat) : Option Nat :=
  if octet < 0x80 then some 1
  else if octet < 0xc0 then none
  else if octet < 0xe0 then some 2
  else if octet < 0xf0 then some 3
  else if octet < 0xf8 then some 4
  else none

/-- The octets of a character after its first one, and what follows them. -/
def trailing? : Nat → List Char → Option (List Nat × List Char)
  | 0, cs => some ([], cs)
  | n + 1, cs => do
    let (octet, rest) ← octet? cs
    if octet < 0x80 ∨ 0xc0 ≤ octet then none
    let (octets, rest) ← trailing? n rest
    return (octet :: octets, rest)

def char? (n : Nat) : Option Char := if h : n.isValidChar then some (Char.ofNatAux n h) else none

def decoded? (first : Nat) (others : List Nat) : Option Char :=
  let all (head : Nat) := others.foldl (fun n octet => n * 0x40 + (octet - 0x80)) head
  let (n, least) := match others.length with
    | 0 => (first, 0)
    | 1 => (all (first - 0xc0), 0x80)
    | 2 => (all (first - 0xe0), 0x800)
    | _ => (all (first - 0xf0), 0x10000)
  if least ≤ n then char? n else none

/-- The character of an escape, and what follows it. By the earlier version of the format it need
not be one; by the later one the octets are the places of its number. -/
def escaped? (v : Version) (cs : List Char) : Option (Option Char × List Char) := do
  let (first, rest) ← octet? cs
  let n ← width? first
  let (others, rest) ← trailing? (n - 1) rest
  match v with
  | .v11 => return (decoded? first others, rest)
  | .v12 => (char? (others.foldl (fun n octet => n * 0x100 + octet) first)).map fun c => (c, rest)

/-- Characters of a tag in angle brackets, and of what a handle stands for. -/
def isLong (v : Version) (c : Char) : Bool :=
  isNameChar c || ";/?:@&=+$.!~*'()%,[]".contains c || v == .v12 && c == '#'

def isShort (v : Version) (c : Char) : Bool :=
  isLong v c && !isFlowSign c && !(v == .v12 && c == '!')

/-- The characters here that belong to a name, and what follows them. -/
def letters? (depth : Nat) (v : Version) (belongs : Char → Bool) (cs : List Char) :
    Option (List (Option Char) × List Char) :=
  match depth with
  | 0 => none
  | depth + 1 =>
    match cs with
    | [] => some ([], [])
    | c :: rest =>
      if !belongs c then some ([], cs)
      else do
        let (letter, rest) ← if c = '%' then escaped? v cs else pure (some c, rest)
        let (letters, rest) ← letters? depth v belongs rest
        return (letter :: letters, rest)

/-- A name of these letters; by the earlier version of the format it ends with a null. -/
def name? (v : Version) (letters : List (Option Char)) : Option String :=
  (letters.mapM id).map fun cs =>
    String.ofList (if v = .v11 then cs.takeWhile (· != '\x00') else cs)

/-- A handle and what follows it: an exclamation mark, and perhaps letters and another one. -/
def handle? : List Char → Option (List Char × List Char)
  | '!' :: rest =>
    let letters := rest.takeWhile isNameChar
    match rest.dropWhile isNameChar with
    | '!' :: rest => some ('!' :: letters ++ ['!'], rest)
    | rest => some ('!' :: letters, rest)
  | _ => none

def tag? (v : Version) (cs : List Char) : Option (TagName × List Char) :=
  match cs with
  | '!' :: '<' :: rest => do
    let (letters, rest) ← letters? (rest.length + 1) v (isLong v) rest
    if v = .v11 ∧ letters.isEmpty then none
    match rest with
    | '>' :: rest => return (⟨"", name? v letters⟩, rest)
    | _ => none
  | _ => do
    let (handle, rest) ← handle? cs
    let (letters, rest) ← letters? (rest.length + 1) v (isShort v) rest
    if 2 ≤ handle.length ∧ handle.getLast? = some '!' then
      if letters.isEmpty then none
      return (⟨String.ofList handle, name? v letters⟩, rest)
    else
      let suffix := name? v (handle.tail.map some ++ letters)
      return (if suffix = some "" then ⟨"", some "!"⟩ else ⟨"!", suffix⟩, rest)

/-- Whether a tag may end before these characters. -/
def endsTag (p : Place) (flow : Bool) (rest : List Char) : Bool :=
  p.endsWord rest || flow && rest.head?.any fun c => c == ',' || p.version == .v12 && isFlowSign c

def isAnchorChar (p : Place) (c : Char) : Bool :=
  match p.version with
  | .v11 => isNameChar c
  | .v12 => p.isInk c && !isFlowSign c && c != byteOrderMark

/-- The name of the anchor whose sign stands here, and the place after it. -/
def anchor? (p : Place) : Option (String × Place) :=
  let name := p.rest.tail.takeWhile (isAnchorChar p)
  let q := p.advance (name.length + 1)
  let ends := p.version == .v12 || p.endsWord q.rest ||
    q.startsWith fun c => "?:,]\x7d%@\x60".contains c
  if name.isEmpty || !ends then none else some (String.ofList name, q)

/-- A number of nine digits at most, and what follows it. -/
def number? (cs : List Char) : Option (Nat × List Char) :=
  let digits := cs.takeWhile Char.isDigit
  if digits.isEmpty || 9 < digits.length then none
  else
    some (digits.foldl (fun n c => n * 10 + (c.toNat - '0'.toNat)) 0, cs.dropWhile Char.isDigit)

/-- A version after its directive, and what follows it. -/
def version? (cs : List Char) : Option (Directive × List Char) := do
  let (major, rest) ← number? cs
  match rest with
  | '.' :: rest => (number? rest).map fun (minor, rest) => (.version major minor, rest)
  | _ => none

/-- A handle and what it stands for after their directive, and what follows them. -/
def handleDirective? (p : Place) (cs : List Char) : Option (Directive × List Char) := do
  let v := p.version
  let (handle, rest) ← handle? cs
  if handle.length ≠ 1 ∧ handle.getLast? ≠ some '!' then none
  if v = .v11 ∧ !rest.head?.any isBlank then none
  let rest := rest.dropWhile isBlank
  if v = .v12 ∧ !rest.head?.any (fun c => c == '!' || isShort v c) then none
  let (letters, rest) ← letters? (rest.length + 1) v (isLong v) rest
  if letters.isEmpty || !p.endsWord rest then none
  return (.handle (String.ofList handle) (name? v letters), rest)

/-- The directive whose sign stands here, and the place after its line. By the later version of the
format a directive that is not known says nothing. -/
def directive? (p : Place) : Option (Directive × Place) := do
  let name := p.rest.tail.takeWhile isNameChar
  let rest := p.rest.tail.dropWhile isNameChar
  if name.isEmpty || !p.endsWord rest then none
  let value := rest.dropWhile isBlank
  let (directive, rest) ←
    if name = "YAML".toList then version? value
    else if name = "TAG".toList then handleDirective? p value
    else if p.version = .v12 then
      some (.handle "" (some ""), rest.dropWhile fun c => !p.isBreak c)
    else none
  let q := p.advance (p.rest.length - rest.length)
  let q ← match p.version with
    | .v11 =>
      let q := q.after isBlank
      pure (if q.startsWith (· == '#') then q.lineEnd else q)
    | .v12 => q.skipBlanks?.map (·.2)
  if q.atLineEnd then return (directive, q.step) else none

end Property

end MappedSql.Yaml
