import MappedSql.Decimal.Word
import MappedSql.Document.Basic
import MappedSql.Text.Digits
import MappedSql.Text.Real
import MappedSql.Text.Split
import MappedSql.Value.Reader

/- Documents from RON text.

   RON writes values as a program would: structs with or without their name, tuples, lists,
   maps, and values that may be missing. A struct is a map and a tuple is a list; names of
   structs say nothing. Before the value stand attributes that turn on extensions, and
   comments may nest. Every call of a reader takes a unit of the depth that the length of
   the text allows. -/
namespace MappedSql.Ron

def isSpace (c : Char) : Bool := c == ' ' || c == '\t' || c == '\n' || c == '\r'

/-- What follows a comment that is open so many times. -/
def closeComment? (depth level : Nat) (cs : List Char) : Option (List Char) :=
  match depth with
  | 0 => none
  | depth + 1 =>
    match level, cs with
    | 0, _ => some cs
    | _, [] => none
    | level, '/' :: '*' :: rest => closeComment? depth (level + 1) rest
    | level + 1, '*' :: '/' :: rest => closeComment? depth level rest
    | level, _ :: rest => closeComment? depth level rest

/-- What follows blanks and comments; nothing if a comment is not closed. -/
def skipFrom? (depth : Nat) (cs : List Char) : Option (List Char) :=
  match depth with
  | 0 => none
  | depth + 1 =>
    match cs with
    | [] => some []
    | '/' :: '/' :: rest => skipFrom? depth (rest.dropWhile (· != '\n'))
    | '/' :: '*' :: rest => do skipFrom? depth (← closeComment? (rest.length + 2) 1 rest)
    | '/' :: _ => none
    | c :: rest => if isSpace c then skipFrom? depth rest else some cs

def skip? (cs : List Char) : Option (List Char) := skipFrom? (cs.length + 1) cs

def isName (c : Char) : Bool := c.isAlphanum || c == '_'

/-- Characters of names behind the mark of a raw one. -/
def isRawName (c : Char) : Bool := isName c || c == '.' || c == '+' || c == '-'

def name? (cs : List Char) : Option (List Char × List Char) :=
  match cs with
  | 'r' :: '"' :: _ => none
  | ['r'] => none
  | 'r' :: '#' :: rest =>
    let name := rest.takeWhile isRawName
    if name.isEmpty then none else some (name, rest.dropWhile isRawName)
  | c :: _ =>
    let rest := cs.dropWhile isName
    if c.isDigit || !isName c || rest.head?.any isRawName then none
    else some (cs.takeWhile isName, rest)
  | [] => none

/-- What follows a word, which has to end there. -/
def word? (word : String) (cs : List Char) : Option (List Char) :=
  (Text.dropPiece? word.toList cs).bind fun rest =>
    if rest.head?.any isName then none else some rest

def sign? (c : Char) : List Char → Option (List Char)
  | d :: rest => if d = c then some rest else none
  | [] => none

/-- The character of an escape with a number in braces, and what follows it. -/
def unicode? (cs : List Char) : Option (Char × List Char) := do
  let rest ← sign? '\x7b' cs
  let (digits, rest) ← Text.cut? '\x7d' rest
  if digits.isEmpty || 6 < digits.length then none
  let n ← digits.foldlM (fun n c => (Json.hexValue? c).map (n * 16 + ·)) 0
  if h : n.isValidChar then return (Char.ofNatAux n h, rest) else none

/-- The character of an escape after its backslash, and what follows it. -/
def escape? : List Char → Option (Char × List Char)
  | '\'' :: rest => some ('\'', rest)
  | '"' :: rest => some ('"', rest)
  | '\\' :: rest => some ('\\', rest)
  | 'n' :: rest => some ('\n', rest)
  | 'r' :: rest => some ('\r', rest)
  | 't' :: rest => some ('\t', rest)
  | '0' :: rest => some ('\x00', rest)
  | 'x' :: a :: b :: rest => do
    let high ← Json.hexValue? a
    let low ← Json.hexValue? b
    return (Char.ofNat (high * 16 + low), rest)
  | 'u' :: rest => unicode? rest
  | _ => none

/-- The characters of a text up to its closing quote, and what follows it. -/
def quoted? (depth : Nat) (cs : List Char) : Option (List Char × List Char) :=
  match depth with
  | 0 => none
  | depth + 1 =>
    match cs with
    | [] => none
    | '"' :: rest => some ([], rest)
    | '\\' :: rest => do
      let (c, rest) ← escape? rest
      let (text, rest) ← quoted? depth rest
      return (c :: text, rest)
    | c :: rest => (quoted? depth rest).map fun (text, rest) => (c :: text, rest)

/-- A text, and what follows it; in a raw one there are no escapes, and as many number signs close
it as have opened it. -/
def text? (cs : List Char) : Option (List Char × List Char) :=
  match cs with
  | '"' :: rest => quoted? (rest.length + 1) rest
  | 'r' :: rest => do
    let hashes := rest.takeWhile (· == '#')
    let rest ← sign? '"' (rest.drop hashes.length)
    Text.find? ('"' :: hashes) rest
  | _ => none

/-- A single character after its quote, and what follows it. -/
def char? (cs : List Char) : Option (Char × List Char) := do
  let (c, rest) ← match cs with
    | '\\' :: rest => escape? rest
    | c :: rest => if c = '\'' then none else some (c, rest)
    | [] => none
  return (c, ← sign? '\'' rest)

def isFloatChar (c : Char) : Bool := c.isDigit || "eE.+-_".contains c

def isIntChar (c : Char) : Bool := (Json.hexValue? c).isSome || c == '_'

/-- A number that is not whole, and what follows it. -/
def float? (cs : List Char) : Option (Document × List Char) :=
  let names := ["inf", "+inf", "-inf", "NaN", "+NaN", "-NaN"]
  let (text, rest) := match names.findSome? fun s => (word? s cs).map (s.toList, ·) with
    | some named => named
    | none => (cs.takeWhile isFloatChar, cs.dropWhile isFloatChar)
  (Text.readReal? text).map fun x => (.float x, rest)

/-- A whole number without its sign, and what follows it. Underscores do not count, but do not come
first. -/
def magnitude? (cs : List Char) : Option (Nat × List Char) :=
  let (base, cs) := match cs with
    | '0' :: 'x' :: rest => (16, rest)
    | '0' :: 'o' :: rest => (8, rest)
    | '0' :: 'b' :: rest => (2, rest)
    | cs => (10, cs)
  let digits := cs.takeWhile isIntChar
  if digits.isEmpty || digits.head? == some '_' then none
  else
    ((digits.filter (· != '_')).foldlM (fun n c =>
      (Json.hexValue? c).bind fun d => if d < base then some (n * base + d) else none) 0).map
        (·, cs.dropWhile isIntChar)

/-- A whole number, and what follows it. With a sign it has to fit a signed word, and without one an
unsigned word; one that no signed word holds is a double. -/
def int? (cs : List Char) : Option (Document × List Char) :=
  match cs with
  | '-' :: rest => (magnitude? rest).bind fun (n, rest) =>
    if n ≤ Word.half then some (.int (-(n : Int)), rest) else none
  | '+' :: rest => (magnitude? rest).bind fun (n, rest) =>
    if n < Word.half then some (.int n, rest) else none
  | _ => (magnitude? cs).bind fun (n, rest) =>
    if n < Word.half then some (.int n, rest)
    else if n < Word.count then some (.float (Float.ofNat n), rest)
    else none

/-- A number, and what follows it: a whole one if its characters allow that. -/
def number? (cs : List Char) : Option (Document × List Char) :=
  let digits := cs.drop (if cs.head?.any fun c => c == '+' || c == '-' then 1 else 0)
  if (digits.takeWhile isIntChar).length < (digits.takeWhile isFloatChar).length then float? cs
  else (int? cs).or (float? cs)

/-- A value without parts, and what follows it. -/
def leaf? (cs : List Char) : Option (Document × List Char) :=
  match cs with
  | '"' :: _ => (text? cs).map fun (s, rest) => (.text (String.ofList s), rest)
  | 'r' :: _ => (text? cs).map fun (s, rest) => (.text (String.ofList s), rest)
  | '\'' :: rest => (char? rest).map fun (c, rest) => (.text (String.singleton c), rest)
  | '.' :: _ => float? cs
  | c :: _ => if c.isDigit || c == '+' || c == '-' then number? cs else none
  | [] => none

def words : List (String × Document) :=
  [("true", .bool true), ("false", .bool false), ("None", .null), ("inf", .float (1.0 / 0.0)),
    ("-inf", .float (-1.0 / 0.0)), ("NaN", .float (0.0 / 0.0))]

/-- Whether a name and a colon stand here, behind blanks. -/
def atField (cs : List Char) : Option Bool := do
  let cs ← skip? cs
  match name? cs with
  | some (_, rest) => return (← skip? rest).head? == some ':'
  | none => return false

def deepest : Nat := 128

mutual

/-- A value that goes at most so many levels deep, and what follows it. -/
def value? (depth levels : Nat) (cs : List Char) : Option (Document × List Char) :=
  match depth with
  | 0 => none
  | depth + 1 =>
    match words.findSome? fun (s, d) => (word? s cs).map (d, ·) with
    | some r => some r
    | none =>
      match word? "Some" cs with
      | some rest => do
        if levels = 0 then none
        let (d, rest) ← value? depth (levels - 1) (← skip? (← sign? '(' (← skip? rest)))
        return (d, ← sign? ')' (← skip? rest))
      | none =>
        match name? cs with
        | some (_, rest) => do
          let rest ← skip? rest
          if rest.head? == some '(' then parts? depth levels rest else return (.null, rest)
        | none =>
          match cs with
          | '(' :: ')' :: rest => some (.null, rest)
          | '(' :: _ => parts? depth levels cs
          | '[' :: rest => do
            if levels = 0 then none
            let (items, rest) ← items? depth (levels - 1) ']' (← skip? rest)
            return (.list items, rest)
          | '\x7b' :: rest => do
            if levels = 0 then none
            let (entries, rest) ← entries? depth (levels - 1) false [] (← skip? rest)
            return (.map entries, rest)
          | _ => leaf? cs

/-- A struct or a tuple behind its name, and what follows it. -/
def parts? (depth levels : Nat) (cs : List Char) : Option (Document × List Char) :=
  match depth with
  | 0 => none
  | depth + 1 => do
    if levels = 0 then none
    let rest ← sign? '(' cs
    if ← atField rest then
      let (entries, rest) ← entries? depth (levels - 1) true [] (← skip? rest)
      return (.map entries, rest)
    else
      let (items, rest) ← items? depth (levels - 1) ')' (← skip? rest)
      return (.list items, rest)

def items? (depth levels : Nat) (closing : Char) (cs : List Char) :
    Option (List Document × List Char) :=
  match depth with
  | 0 => none
  | depth + 1 =>
    match sign? closing cs with
    | some rest => some ([], rest)
    | none => do
      let (d, rest) ← value? depth levels cs
      let rest ← skip? rest
      match sign? closing rest, sign? ',' rest with
      | some rest, _ => return ([d], rest)
      | none, some rest =>
        let (ds, rest) ← items? depth levels closing (← skip? rest)
        return (d :: ds, rest)
      | none, none => none

/-- The entries up to the closing bracket: the fields of a struct by their names, or those of a map,
whose keys have to be plain texts. Of several of one name the last stands. -/
def entries? (depth levels : Nat) (fields : Bool) (es : List (String × Document)) (cs : List Char) :
    Option (List (String × Document) × List Char) :=
  match depth with
  | 0 => none
  | depth + 1 =>
    let closing := if fields then ')' else '\x7d'
    match sign? closing cs with
    | some rest => some (es, rest)
    | none => do
      let (name, rest) ←
        if fields then (name? cs).map fun (name, rest) => (String.ofList name, rest)
        else if (word? "Some" cs).isSome then none
        else match value? depth levels cs with
          | some (.text name, rest) => some (name, rest)
          | _ => none
      let (d, rest) ← value? depth levels (← skip? (← sign? ':' (← skip? rest)))
      let es := es.filter (·.1 != name) ++ [(name, d)]
      let rest ← skip? rest
      match sign? closing rest, sign? ',' rest with
      | some rest, _ => return (es, rest)
      | none, some rest => entries? depth levels fields es (← skip? rest)
      | none, none => none

end

def extensions : List String := ["unwrap_newtypes", "implicit_some", "unwrap_variant_newtypes"]

/-- What follows the names of extensions, with commas between them and perhaps one behind. -/
def extensionNames? (depth : Nat) (cs : List Char) : Option (List Char) :=
  match depth with
  | 0 => none
  | depth + 1 => do
    let (name, rest) ← name? cs
    if !extensions.contains (String.ofList name) then none
    let rest ← skip? rest
    match sign? ',' rest with
    | some rest =>
      let rest ← skip? rest
      if rest.head?.any isName then extensionNames? depth rest else return rest
    | none => return rest

def pieces? : List String → List Char → Option (List Char)
  | [], cs => some cs
  | piece :: pieces, cs => do pieces? pieces (← skip? (← Text.dropPiece? piece.toList cs))

def attributes? (depth : Nat) (cs : List Char) : Option (List Char) :=
  match depth with
  | 0 => none
  | depth + 1 => do
    let cs ← skip? cs
    if cs.head? == some '#' then
      let rest ← pieces? ["#", "!", "[", "enable", "("] cs
      let rest ← extensionNames? (rest.length + 1) rest
      attributes? depth (← pieces? [")", "]"] (← skip? rest))
    else return cs

def read (text : String) : Option Document := do
  let cs ← attributes? (text.length + 1) text.toList
  let (d, rest) ← value? (2 * cs.length + 4) deepest cs
  if (← skip? rest).isEmpty then return d else none

end MappedSql.Ron
