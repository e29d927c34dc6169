import MappedSql.Decimal.Scaled
import MappedSql.Decimal.Word
import MappedSql.Value.Basic

/- Values from JSON text.

   Reading has two stages, each a walk over a list with a small state. The first
   cuts the text into tokens, one character at a time; the second nests the tokens,
   with the containers still open kept on a stack. Of several fields of one name
   the last stands. Containers may be nested 127 deep. -/
namespace MappedSql.Json

/-- The signs of JSON between the values. -/
inductive Sign where
  | openArray
  | closeArray
  | openObject
  | closeObject
  | comma
  | colon
  deriving DecidableEq, Repr

/-- A piece of JSON text: a sign, or a value that is not a container. -/
inductive Token where
  | sign (s : Sign)
  | leaf (v : Value)

/-- Where in a token the text stands; characters read so far are in reverse. -/
inductive Mode where
  | between
  | word (read : List Char)
  | text (read : List Char)
  | escape (read : List Char)
  /-- Inside a four-digit escape, after `count` digits; `high` is a first surrogate before it. -/
  | unicode (read : List Char) (high : Option Nat) (count value : Nat)
  /-- After a first surrogate, where the escape of the second has to begin. -/
  | lowEscape (read : List Char) (high : Nat)
  | lowMark (read : List Char) (high : Nat)

def isSpace (c : Char) : Bool := c == ' ' || c == '\t' || c == '\n' || c == '\r'

/-- Characters of numbers and of the three names. -/
def isWord (c : Char) : Bool := c.isAlphanum || c == '-' || c == '+' || c == '.'

/-- The digits at the start and what follows them. -/
def spanDigits (cs : List Char) : List Char × List Char :=
  (cs.takeWhile Char.isDigit, cs.dropWhile Char.isDigit)

/-- An exponent after its letter: a sign and at least one digit. -/
def readExponent? (cs : List Char) : Option Int :=
  let (negative, digits) := match cs with
    | '-' :: r => (true, r)
    | '+' :: r => (false, r)
    | r => (false, r)
  if digits.isEmpty || !digits.all Char.isDigit then none
  else
    let n : Int := digits.foldl (fun n c => n * 10 + Decimal.digitValue c) 0
    some (if negative then -n else n)

/-- A number without its sign: the integer it is, or its scaled form. -/
def readMagnitude? (cs : List Char) : Option (Nat ⊕ Decimal.Scaled) :=
  let (whole, rest) := spanDigits cs
  if whole.isEmpty || (whole.head? == some '0' && whole.length ≠ 1) then none
  else
    let start := Decimal.Scaled.takeWhole whole 0
    match rest with
    | [] => some (if start.exponent = 0 then .inl start.significand else .inr start)
    | '.' :: r =>
      let (fraction, rest) := spanDigits r
      if fraction.isEmpty then none
      else
        let d := start.takeFraction fraction
        match rest with
        | [] => some (.inr d)
        | c :: r =>
          if c == 'e' || c == 'E' then
            (readExponent? r).map fun e => .inr { d with exponent := d.exponent + e }
          else none
    | c :: r =>
      if c == 'e' || c == 'E' then
        (readExponent? r).map fun e => .inr { start with exponent := start.exponent + e }
      else none

/-- A number. A negative whole number has to fit a signed word, a positive one an unsigned word,
and zero has no sign; what does not comply is a double. -/
def readNumber? : List Char → Option Number
  | '-' :: cs =>
    match readMagnitude? cs with
    | some (.inl n) =>
      if 0 < n ∧ n ≤ Word.half then some (.int (-n)) else some (.float (-(Float.ofNat n)))
    | some (.inr d) => d.toFloat?.map fun x => .float (-x)
    | none => none
  | cs =>
    match readMagnitude? cs with
    | some (.inl n) => some (.int n)
    | some (.inr d) => d.toFloat?.map .float
    | none => none

def readWord? (cs : List Char) : Option Value :=
  if cs = ['n', 'u', 'l', 'l'] then some .null
  else if cs = ['t', 'r', 'u', 'e'] then some (.bool true)
  else if cs = ['f', 'a', 'l', 's', 'e'] then some (.bool false)
  else (readNumber? cs).map .num

def hexValue? (c : Char) : Option Nat :=
  if c.isDigit then some (c.toNat - '0'.toNat)
  else if 'a' ≤ c && c ≤ 'f' then some (c.toNat - 'a'.toNat + 10)
  else if 'A' ≤ c && c ≤ 'F' then some (c.toNat - 'A'.toNat + 10)
  else none

def escapeChar? : Char → Option Char
  | '"' => some '"'
  | '\\' => some '\\'
  | '/' => some '/'
  | 'b' => some '\x08'
  | 'f' => some '\x0c'
  | 'n' => some '\n'
  | 'r' => some '\r'
  | 't' => some '\t'
  | _ => none

def afterUnicode? (read : List Char) (high : Option Nat) (value : Nat) : Option Mode :=
  match high with
  | none =>
    if 0xd800 ≤ value && value < 0xdc00 then some (.lowEscape read value)
    else if 0xdc00 ≤ value && value < 0xe000 then none
    else some (.text (Char.ofNat value :: read))
  | some h =>
    if 0xdc00 ≤ value && value < 0xe000 then
      some (.text (Char.ofNat (0x10000 + (h - 0xd800) * 0x400 + (value - 0xdc00)) :: read))
    else none

/-- A character outside of every token: a token of its own, or the start of one. -/
def start? (c : Char) : Option (List Token × Mode) :=
  if isSpace c then some ([], .between)
  else if isWord c then some ([], .word [c])
  else match c with
    | '"' => some ([], .text [])
    | '[' => some ([.sign .openArray], .between)
    | ']' => some ([.sign .closeArray], .between)
    | '\x7b' => some ([.sign .openObject], .between)
    | '\x7d' => some ([.sign .closeObject], .between)
    | ',' => some ([.sign .comma], .between)
    | ':' => some ([.sign .colon], .between)
    | _ => none

/-- One character further: the tokens it completes, and the mode after it. -/
def advance? (m : Mode) (c : Char) : Option (List Token × Mode) :=
  match m with
  | .between => start? c
  | .word read =>
    if isWord c then some ([], .word (c :: read))
    else do
      let v ← readWord? read.reverse
      let (tokens, mode) ← start? c
      some (.leaf v :: tokens, mode)
  | .text read =>
    if c == '"' then some ([.leaf (.str (String.ofList read.reverse))], .between)
    else if c == '\\' then some ([], .escape read)
    else if c.toNat < 0x20 then none
    else some ([], .text (c :: read))
  | .escape read =>
    if c == 'u' then some ([], .unicode read none 0 0)
    else (escapeChar? c).map fun e => ([], .text (e :: read))
  | .unicode read high count value => do
    let d ← hexValue? c
    let value := value * 16 + d
    if count = 3 then (afterUnicode? read high value).map fun m => ([], m)
    else some ([], .unicode read high (count + 1) value)
  | .lowEscape read high => if c == '\\' then some ([], .lowMark read high) else none
  | .lowMark read high => if c == 'u' then some ([], .unicode read (some high) 0 0) else none

/-- The tokens of a text that begins in the given mode. -/
def tokens? : Mode → List Char → Option (List Token)
  | .between, [] => some []
  | .word read, [] => (readWord? read.reverse).map fun v => [.leaf v]
  | _, [] => none
  | m, c :: cs => do
    let (ts, m) ← advance? m c
    let rest ← tokens? m cs
    some (ts ++ rest)

/-- A container that is still open; its complete members are in reverse. -/
inductive Frame where
  | arr (items : List Value)
  | obj (fields : List (String × Value))
  | field (fields : List (String × Value)) (name : String)

/-- What may come next. -/
inductive Expect where
  | value
  | valueOrClose
  | name
  | nameOrClose
  | colon
  | commaOrClose
  | nothing
  deriving DecidableEq

/-- The open containers, innermost first, what may come next, and the value when it is complete. -/
structure Nesting where
  frames : List Frame
  expect : Expect
  done : Option Value

/-- The value has been read: it becomes a member of the innermost container, or the result. -/
def Nesting.put? (frames : List Frame) (v : Value) : Option Nesting :=
  match frames with
  | [] => some ⟨[], .nothing, some v⟩
  | .arr items :: r => some ⟨.arr (v :: items) :: r, .commaOrClose, none⟩
  | .field fields k :: r => some ⟨.obj ((k, v) :: fields) :: r, .commaOrClose, none⟩
  | .obj _ :: _ => none

def depthLimit : Nat := 127

/-- A container is opened, unless too many are open. -/
def Nesting.enter? (frames : List Frame) (f : Frame) (e : Expect) : Option Nesting :=
  if frames.length < depthLimit then some ⟨f :: frames, e, none⟩ else none

def Nesting.advance? (n : Nesting) (t : Token) : Option Nesting :=
  match n.expect, t with
  | .value, .leaf v | .valueOrClose, .leaf v => put? n.frames v
  | .value, .sign .openArray | .valueOrClose, .sign .openArray =>
    enter? n.frames (.arr []) .valueOrClose
  | .value, .sign .openObject | .valueOrClose, .sign .openObject =>
    enter? n.frames (.obj []) .nameOrClose
  | .valueOrClose, .sign .closeArray | .commaOrClose, .sign .closeArray =>
    match n.frames with
    | .arr items :: r => put? r (.arr items.reverse)
    | _ => none
  | .nameOrClose, .sign .closeObject | .commaOrClose, .sign .closeObject =>
    match n.frames with
    | .obj fields :: r => put? r (.obj (Fields.ofList fields.reverse))
    | _ => none
  | .name, .leaf (.str k) | .nameOrClose, .leaf (.str k) =>
    match n.frames with
    | .obj fields :: r => some ⟨.field fields k :: r, .colon, none⟩
    | _ => none
  | .colon, .sign .colon => some { n with expect := .value }
  | .commaOrClose, .sign .comma =>
    match n.frames with
    | .arr _ :: _ => some { n with expect := .value }
    | .obj _ :: _ => some { n with expect := .name }
    | _ => none
  | _, _ => none

def read? (s : String) : Option Value := do
  let ts ← tokens? .between s.toList
  let n ← ts.foldlM Nesting.advance? ⟨[], .value, none⟩
  n.done

end MappedSql.Json
