import MappedSql.Decimal.Word
import MappedSql.Document.Basic
import MappedSql.Text.Real
import MappedSql.Text.Split
import MappedSql.Value.Reader

/- Scalars of a TOML text. -/
namespace MappedSql.Toml

def isBlank (c : Char) : Bool := c == ' ' || c == '\t'

def skipBlanks (cs : List Char) : List Char := cs.dropWhile isBlank

/-- Control characters, which do not stand in a text by themselves. -/
def isControl (c : Char) : Bool := c.toNat < 0x20 && c != '\t' || c.toNat == 0x7f

def newline? : List Char → Option (List Char)
  | '\n' :: rest => some rest
  | '\r' :: '\n' :: rest => some rest
  | _ => none

def escape? : Char → Option Char
  | 'b' => some '\x08'
  | 't' => some '\t'
  | 'n' => some '\n'
  | 'f' => some '\x0c'
  | 'r' => some '\r'
  | '"' => some '"'
  | '\\' => some '\\'
  | _ => none

/-- Where in a double-quoted text one stands. -/
inductive QuoteMode where
  | text
  | escape
  | number (left value : Nat)
  /-- After the backslash at the end of a line; `ended` once the line has ended. -/
  | gap (ended : Bool)

/-- A double-quoted text after its first mark; over several lines if `wide`. -/
def basic (wide : Bool) (mode : QuoteMode) (read : List Char) :
    List Char → Option (List Char × List Char)
  | [] => none
  | c :: rest =>
    match mode with
    | .text =>
      if c = '"' then
        if wide then
          match rest with
          | '"' :: '"' :: '"' :: '"' :: after => some (('"' :: '"' :: read).reverse, after)
          | '"' :: '"' :: '"' :: after => some (('"' :: read).reverse, after)
          | '"' :: '"' :: after => some (read.reverse, after)
          | _ => basic wide .text ('"' :: read) rest
        else some (read.reverse, rest)
      else if c = '\\' then basic wide .escape read rest
      else if c = '\n' then if wide then basic wide .text ('\n' :: read) rest else none
      else if c = '\r' then
        if wide && rest.head? == some '\n' then basic wide .text read rest else none
      else if isControl c then none
      else basic wide .text (c :: read) rest
    | .escape =>
      if c = 'u' then basic wide (.number 4 0) read rest
      else if c = 'U' then basic wide (.number 8 0) read rest
      else if wide && (isBlank c || c == '\r' && rest.head? == some '\n') then
        basic wide (.gap false) read rest
      else if wide && c == '\n' then basic wide (.gap true) read rest
      else
        match escape? c with
        | some e => basic wide .text (e :: read) rest
        | none => none
    | .number left value =>
      match Json.hexValue? c with
      | none => none
      | some d =>
        let value := value * 16 + d
        if left ≤ 1 then
          if h : value.isValidChar then basic wide .text (Char.ofNatAux value h :: read) rest
          else none
        else basic wide (.number (left - 1) value) read rest
    | .gap ended =>
      if c = '\n' then basic wide (.gap true) read rest
      else if isBlank c || c == '\r' && rest.head? == some '\n' then
        basic wide (.gap ended) read rest
      else if !ended then none
      else if c = '\\' then basic wide .escape read rest
      else if c = '"' then
        match rest with
        | '"' :: '"' :: '"' :: '"' :: after => some (('"' :: '"' :: read).reverse, after)
        | '"' :: '"' :: '"' :: after => some (('"' :: read).reverse, after)
        | '"' :: '"' :: after => some (read.reverse, after)
        | _ => basic wide .text ('"' :: read) rest
      else if isControl c then none
      else basic wide .text (c :: read) rest

/-- A single-quoted text after its first mark; over several lines if `wide`. -/
def literal (wide : Bool) (read : List Char) : List Char → Option (List Char × List Char)
  | [] => none
  | c :: rest =>
    if c = '\'' then
      if wide then
        match rest with
        | '\'' :: '\'' :: '\'' :: '\'' :: after => some (('\'' :: '\'' :: read).reverse, after)
        | '\'' :: '\'' :: '\'' :: after => some (('\'' :: read).reverse, after)
        | '\'' :: '\'' :: after => some (read.reverse, after)
        | _ => literal wide ('\'' :: read) rest
      else some (read.reverse, rest)
    else if c = '\n' then if wide then literal wide ('\n' :: read) rest else none
    else if c = '\r' then
      if wide && rest.head? == some '\n' then literal wide read rest else none
    else if isControl c then none
    else literal wide (c :: read) rest

/-- A quoted text; one over several lines only where it is allowed. -/
def quoted? (wideToo : Bool) (cs : List Char) : Option (String × List Char) :=
  let r := match cs with
    | '"' :: '"' :: '"' :: rest =>
      if wideToo then basic true .text [] ((newline? rest).getD rest) else none
    | '\'' :: '\'' :: '\'' :: rest =>
      if wideToo then literal true [] ((newline? rest).getD rest) else none
    | '"' :: rest => basic false .text [] rest
    | '\'' :: rest => literal false [] rest
    | _ => none
  r.map fun (s, rest) => (String.ofList s, rest)

/-- The digits without the underscores between them, if each of those has a digit on both
sides. -/
def ungrouped? (isDigit : Char → Bool) (cs : List Char) : Option (List Char) :=
  match cs with
  | [] => none
  | [c] => if isDigit c then some [c] else none
  | c :: '_' :: rest =>
    if isDigit c then (ungrouped? isDigit rest).map (c :: ·) else none
  | c :: rest => if isDigit c then (ungrouped? isDigit rest).map (c :: ·) else none

/-- The number of a base that grouped digits write. -/
def based? (base : Nat) (cs : List Char) : Option Nat :=
  let isDigit (c : Char) : Bool := (Json.hexValue? c).any (· < base)
  (ungrouped? isDigit cs).map fun ds =>
    ds.foldl (fun n c => n * base + (Json.hexValue? c).getD 0) 0

/-- Decimal digits of a whole number: no zero stands first, unless it is alone. -/
def whole? (cs : List Char) : Option (List Char) :=
  match ungrouped? Char.isDigit cs with
  | some ('0' :: _ :: _) => none
  | ds => ds

/-- A whole number that a signed word of 64 bits holds. -/
def signed? (i : Int) : Option Document :=
  if Word.isSigned i then some (.int i) else none

/-- A decimal number without its sign, as a function of the sign. One with a point or an exponent
may lie below every double, but not above. -/
def decimal? (negative : Bool) (cs : List Char) : Option Document :=
  let isSign (c : Char) : Bool := c == '.' || c == 'e' || c == 'E'
  let wholePart := cs.takeWhile fun c => !isSign c
  let rest := cs.dropWhile fun c => !isSign c
  match whole? wholePart with
  | none => none
  | some w =>
    match rest with
    | [] => (Text.readNat? w).bind fun n => signed? (if negative then -n else n)
    | _ =>
      let fraction := match rest with
        | '.' :: r => ungrouped? Char.isDigit (r.takeWhile fun c => !isSign c)
        | _ => some []
      let tail := match rest with
        | '.' :: r => r.dropWhile fun c => !isSign c
        | r => r
      let exponent := match tail with
        | [] => some []
        | c :: r =>
          if c = '.' then none
          else match r with
            | '-' :: ds => (ungrouped? Char.isDigit ds).map (['e', '-'] ++ ·)
            | '+' :: ds => (ungrouped? Char.isDigit ds).map ('e' :: ·)
            | ds => (ungrouped? Char.isDigit ds).map ('e' :: ·)
      match fraction, exponent with
      | some f, some e =>
        (Text.readReal? ((if negative then ['-'] else []) ++ w ++
          (if f.isEmpty then [] else '.' :: f) ++ e)).bind fun x =>
            if x == 1.0 / 0.0 then none else some (.float x)
      | _, _ => none

def number? (cs : List Char) : Option Document :=
  let (negative, signs, digits) := match cs with
    | '-' :: r => (true, true, r)
    | '+' :: r => (false, true, r)
    | r => (false, false, r)
  match digits with
  | '0' :: 'x' :: r => if signs then none else (based? 16 r).bind fun n => signed? n
  | '0' :: 'o' :: r => if signs then none else (based? 8 r).bind fun n => signed? n
  | '0' :: 'b' :: r => if signs then none else (based? 2 r).bind fun n => signed? n
  | ['i', 'n', 'f'] => some (.float (if negative then -(1.0 / 0.0) else 1.0 / 0.0))
  | ['n', 'a', 'n'] => some (.float (0.0 / 0.0))
  | ds => decimal? negative ds

/-- Two digits that write a number within bounds, and what follows them. -/
def twoDigits? (least most : Nat) : List Char → Option (List Char × List Char)
  | a :: b :: rest =>
    match Text.readNat? [a, b] with
    | some n => if least ≤ n ∧ n ≤ most then some ([a, b], rest) else none
    | none => none
  | _ => none

def daysOf (year month : Nat) : Nat :=
  if month = 2 then
    if year % 4 = 0 ∧ (year % 100 ≠ 0 ∨ year % 400 = 0) then 29 else 28
  else if month = 4 ∨ month = 6 ∨ month = 9 ∨ month = 11 then 30 else 31

def date? : List Char → Option (List Char × List Char)
  | a :: b :: c :: d :: '-' :: m :: n :: '-' :: rest =>
    match Text.readNat? [a, b, c, d], Text.readNat? [m, n] with
    | some year, some month =>
      if 1 ≤ month ∧ month ≤ 12 then
        (twoDigits? 1 (daysOf year month) rest).map fun (day, rest) =>
          ([a, b, c, d, '-', m, n, '-'] ++ day, rest)
      else none
    | _, _ => none
  | _ => none

/-- The fraction of a second: nine digits at most, and no zeros at the end. -/
def fraction (digits : List Char) : List Char :=
  match ((digits.take 9).reverse.dropWhile (· == '0')).reverse with
  | [] => []
  | ds => '.' :: ds

/-- A time of the day and what follows it. -/
def time? (cs : List Char) : Option (List Char × List Char) := do
  let (hour, rest) ← twoDigits? 0 23 cs
  let rest ← Text.dropPiece? [':'] rest
  let (minute, rest) ← twoDigits? 0 59 rest
  let rest ← Text.dropPiece? [':'] rest
  let (second, rest) ← twoDigits? 0 60 rest
  let whole := hour ++ ':' :: minute ++ ':' :: second
  match rest with
  | '.' :: r =>
    let digits := r.takeWhile Char.isDigit
    if digits.isEmpty then none else return (whole ++ fraction digits, r.dropWhile Char.isDigit)
  | r => return (whole, r)

/-- The hours and minutes of an offset, whose sign is given, and what follows them. No offset at
all is written with a plus sign. -/
def offsetAfter? (sign : Char) (cs : List Char) : Option (List Char × List Char) := do
  let (hour, rest) ← twoDigits? 0 23 cs
  let rest ← Text.dropPiece? [':'] rest
  let (minute, rest) ← twoDigits? 0 59 rest
  let span := hour ++ ':' :: minute
  return ((if span.all (fun c => c == '0' || c == ':') then '+' else sign) :: span, rest)

/-- The offset of a time, which may be missing, and what follows it. -/
def offset? : List Char → Option (List Char × List Char)
  | 'Z' :: r => some (['Z'], r)
  | 'z' :: r => some (['Z'], r)
  | '+' :: r => offsetAfter? '+' r
  | '-' :: r => offsetAfter? '-' r
  | r => some ([], r)

/-- A date, a time, or both, if the text is one, as it is written by rule. -/
def moment? (cs : List Char) : Option (List Char) :=
  match date? cs with
  | some (date, []) => some date
  | some (date, mark :: rest) =>
    if mark == 'T' || mark == 't' || mark == ' ' then
      match time? rest with
      | some (time, rest) =>
        match offset? rest with
        | some (offset, []) => some (date ++ 'T' :: time ++ offset)
        | _ => none
      | none => none
    else none
  | none =>
    match time? cs with
    | some (time, []) => some time
    | _ => none

def word? (cs : List Char) : Option Document :=
  if cs = "true".toList then some (.bool true)
  else if cs = "false".toList then some (.bool false)
  else
    match moment? cs with
    | some m => some (.moment (String.ofList m))
    | none => number? cs

end MappedSql.Toml
