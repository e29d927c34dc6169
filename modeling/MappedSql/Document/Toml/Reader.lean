import MappedSql.Document.Toml.Scalar
import MappedSql.Document.Toml.Table
import MappedSql.Text.Split

/- Documents from TOML text.

   A text is a list of lines: headers, which say to which table the entries after them
   belong, and entries, whose values may extend over several lines inside quotes or
   brackets. Neither a key nor a value goes deeper than a fixed limit. Every call of a
   reader takes a unit of the depth that the length of the text allows. -/
namespace MappedSql.Toml

def isBare (c : Char) : Bool := c.isAlphanum || c == '_' || c == '-'

def keyPart? (cs : List Char) : Option (String × List Char) :=
  match cs with
  | '"' :: _ => quoted? false cs
  | '\'' :: _ => quoted? false cs
  | _ =>
    let name := cs.takeWhile isBare
    if name.isEmpty then none else some (String.ofList name, cs.dropWhile isBare)

/-- How many parts a key has at most, and how deep lists and tables inside values go. -/
def deepest : Nat := 79

/-- A key of at most so many parts, with dots between them, and blanks around the parts. -/
def keyWithin? (limit : Nat) (cs : List Char) : Option (List String × List Char) :=
  match limit with
  | 0 => none
  | limit + 1 => do
    let (part, rest) ← keyPart? (skipBlanks cs)
    match skipBlanks rest with
    | '.' :: rest =>
      let (parts, rest) ← keyWithin? limit rest
      return (part :: parts, rest)
    | rest => return ([part], rest)

def key? (cs : List Char) : Option (List String × List Char) := keyWithin? deepest cs

/-- What follows a comment, at the end of its line. -/
def comment? (cs : List Char) : Option (List Char) :=
  match cs with
  | '#' :: rest =>
    let text := rest.takeWhile fun c => c != '\n' && c != '\r'
    if text.any isControl then none else some (rest.dropWhile fun c => c != '\n' && c != '\r')
  | rest => some rest

/-- What follows blanks, comments and ends of lines. -/
def skipLines (depth : Nat) (cs : List Char) : Option (List Char) :=
  match depth with
  | 0 => none
  | depth + 1 => do
    let rest ← comment? (skipBlanks cs)
    match newline? rest with
    | some rest => skipLines depth rest
    | none => if rest.length = cs.length then return cs else skipLines depth rest

/-- Characters of a value without quotes. A blank may stand between a date and a time. -/
def isWord (c : Char) : Bool := isBare c || c == '.' || c == '+' || c == ':'

def wordValue? (cs : List Char) : Option (Document × List Char) :=
  let first := cs.takeWhile isWord
  let rest := cs.dropWhile isWord
  match rest with
  | ' ' :: d :: more =>
    if d.isDigit && (date? first).any (·.2.isEmpty) then
      let second := (d :: more).takeWhile isWord
      (word? (first ++ ' ' :: second)).map fun v => (v, (d :: more).dropWhile isWord)
    else (word? first).map fun v => (v, rest)
  | _ => (word? first).map fun v => (v, rest)

mutual

/-- A value that goes at most so many levels deep. -/
def value? (depth levels : Nat) (cs : List Char) : Option (Document × List Char) :=
  match depth with
  | 0 => none
  | depth + 1 =>
    match cs with
    | '"' :: _ => (quoted? true cs).map fun (s, rest) => (.text s, rest)
    | '\'' :: _ => (quoted? true cs).map fun (s, rest) => (.text s, rest)
    | '[' :: rest => do
      if levels = 0 then none
      let (ds, rest) ← elements? depth (levels - 1) rest
      return (.list ds, rest)
    | '\x7b' :: rest => do
      if levels = 0 then none
      match skipBlanks rest with
      | '\x7d' :: rest => return (.map [], rest)
      | rest =>
        let (es, rest) ← members? depth (levels - 1) [] rest
        return (.map (documents es), rest)
    | _ => wordValue? cs

def elements? (depth levels : Nat) (cs : List Char) : Option (List Document × List Char) :=
  match depth with
  | 0 => none
  | depth + 1 => do
    match ← skipLines (cs.length + 1) cs with
    | ']' :: rest => return ([], rest)
    | rest =>
      let (d, rest) ← value? depth levels rest
      match ← skipLines (rest.length + 1) rest with
      | ',' :: rest =>
        let (ds, rest) ← elements? depth levels rest
        return (d :: ds, rest)
      | ']' :: rest => return ([d], rest)
      | _ => none

/-- The entries up to the closing brace, of which there is at least one. -/
def members? (depth levels : Nat) (es : Entries) (cs : List Char) : Option (Entries × List Char) :=
  match depth with
  | 0 => none
  | depth + 1 => do
    let (path, rest) ← key? cs
    match rest with
    | '=' :: rest =>
      let (d, rest) ← value? depth levels (skipBlanks rest)
      let es ← es.put d path
      match skipBlanks rest with
      | ',' :: rest => members? depth levels es rest
      | '\x7d' :: rest => return (es, rest)
      | _ => none
    | _ => none

end

/-- The key of a header and what follows its closing brackets. -/
def headerKey? (closing : List Char) (cs : List Char) : Option (List String × List Char) := do
  let (path, rest) ← key? cs
  let rest ← Text.dropPiece? closing rest
  return (path, rest)

/-- The lines from here on; `path` is the table that entries belong to. -/
def lines? (depth : Nat) (es : Entries) (path : List String) (cs : List Char) : Option Entries :=
  match depth with
  | 0 => none
  | depth + 1 => do
    let (es, path, rest) ← match skipBlanks cs with
      | [] => pure (es, path, [])
      | '[' :: '[' :: rest => do
        let (key, rest) ← headerKey? [']', ']'] rest
        let es ← es.within (Entries.arrayHeader (key.getLastD "")) key.dropLast
        pure (es, key, rest)
      | '[' :: rest => do
        let (key, rest) ← headerKey? [']'] rest
        let es ← es.within (Entries.header (key.getLastD "")) key.dropLast
        pure (es, key, rest)
      | c :: rest =>
        if c = '#' ∨ c = '\n' ∨ c = '\r' then pure (es, path, c :: rest)
        else do
          let (key, rest) ← key? (c :: rest)
          match rest with
          | '=' :: rest =>
            let (d, rest) ← value? (cs.length + 1) deepest (skipBlanks rest)
            let es ← es.within (Entries.put d key) path
            pure (es, path, rest)
          | _ => none
    let rest ← comment? (skipBlanks rest)
    match rest with
    | [] => return es
    | _ =>
      let rest ← newline? rest
      lines? depth es path rest

def read (text : String) : Option Document :=
  let cs := match text.toList with
    | '\ufeff' :: rest => rest
    | cs => cs
  (lines? (cs.length + 2) [] [] cs).map fun es => .map (documents es)

end MappedSql.Toml
