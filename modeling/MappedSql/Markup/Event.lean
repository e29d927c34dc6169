import MappedSql.Markup.Error
import MappedSql.Text.Blank
import MappedSql.Text.Digits
import MappedSql.Text.Letter
import MappedSql.Text.Split

/- Markup as a stream of events.

   An event is a stretch of text, an opening tag with its attributes, or a closing
   tag. A `<` opens a tag only before a letter or underscore; before anything else
   but a slash, a comment or a section it is text. Entities are decoded, sections
   are text as they stand, and comments leave nothing. Lines are counted from 1, and
   the stream ends with the line it ends on or with the error that stopped it. -/
namespace MappedSql.Markup

open Text (isBlank find?)

/-- A piece of markup. -/
inductive Event where
  | text (s : List Char)
  | opening (name : String) (attributes : List (String × String)) (line : Nat) (closed : Bool)
  | closing (name : String) (line : Nat)
  deriving DecidableEq, Repr

/-- The events of a text, in order. -/
inductive Stream where
  | ending (line : Nat)
  | failed (e : Error)
  | event (e : Event) (rest : Stream)

/-- Something read, with the line and text after it. The text has at most `bound` characters. -/
structure Found (α : Type) (bound : Nat) where
  value : α
  line : Nat
  rest : List Char
  rest_le : rest.length ≤ bound

def Found.weaken {α : Type} {m n : Nat} (f : Found α m) (h : m ≤ n) : Found α n :=
  ⟨f.value, f.line, f.rest, Nat.le_trans f.rest_le h⟩

/-- Whether a tag or an attribute may begin with the character. -/
def startsName (c : Char) : Bool := Text.isLetter c || c == '_'

/-- Whether a name may go on with the character. -/
def inName (c : Char) : Bool :=
  Text.isWordChar c || c == '_' || c == '-' || c == ':' || c == '.'

def newlines (cs : List Char) : Nat := cs.count '\n'

theorem length_dropWhile_le (p : Char → Bool) (cs : List Char) :
    (cs.dropWhile p).length ≤ cs.length := (List.dropWhile_suffix p).length_le

def skipBlanks (line : Nat) (cs : List Char) : Found Unit cs.length :=
  ⟨(), line + newlines (cs.takeWhile isBlank), cs.dropWhile isBlank, length_dropWhile_le _ _⟩

def readHex? (cs : List Char) : Option Nat :=
  if cs.isEmpty then none
  else cs.foldlM (fun n c => do
    let d ← if c.isDigit then some (c.toNat - '0'.toNat)
      else if 'a' ≤ c && c ≤ 'f' then some (c.toNat - 'a'.toNat + 10)
      else if 'A' ≤ c && c ≤ 'F' then some (c.toNat - 'A'.toNat + 10)
      else none
    some (n * 16 + d)) 0

/-- The character of a code point, if it is one. -/
def charOf? (n : Nat) : Option Char := if n.isValidChar then some (Char.ofNat n) else none

def entityChar? (name : List Char) : Option Char :=
  match name with
  | ['l', 't'] => some '<'
  | ['g', 't'] => some '>'
  | ['a', 'm', 'p'] => some '&'
  | ['q', 'u', 'o', 't'] => some '"'
  | ['a', 'p', 'o', 's'] => some '\''
  | '#' :: 'x' :: digits => (readHex? digits).bind charOf?
  | '#' :: 'X' :: digits => (readHex? digits).bind charOf?
  | '#' :: digits => (Text.readNat? digits).bind charOf?
  | _ => none

/-- Whether the character may stand in the name of an entity. -/
def inEntity (c : Char) : Bool := c.isAlphanum || c == '#'

/-- The character of the entity after an ampersand. -/
def readEntity (line : Nat) (cs : List Char) : Except Error (Found Char cs.length) :=
  let name := cs.takeWhile inEntity
  match h : cs.dropWhile inEntity with
  | ';' :: rest =>
    match entityChar? name with
    | some c =>
      .ok ⟨c, line, rest, by
        have := length_dropWhile_le inEntity cs
        rw [h, List.length_cons] at this
        omega⟩
    | none => .error ⟨line, .unknownEntity (String.ofList name)⟩
  | _ => .error ⟨line, .unterminatedEntity (String.ofList name)⟩

/-- The value of the attribute `key` after its opening quote. -/
def readValue (key : String) (quote : Char) (line : Nat) (cs : List Char) :
    Except Error (Found (List Char) cs.length) :=
  match cs with
  | [] => .error ⟨line, .unterminatedValue key⟩
  | c :: cs =>
    if c = quote then .ok ⟨[], line, cs, Nat.le_succ _⟩
    else if c = '&' then do
      let e ← readEntity line cs
      have := e.rest_le
      let v ← readValue key quote e.line e.rest
      return ⟨e.value :: v.value, v.line, v.rest,
        Nat.le_succ_of_le (Nat.le_trans v.rest_le this)⟩
    else do
      let v ← readValue key quote (line + newlines [c]) cs
      return ⟨c :: v.value, v.line, v.rest, Nat.le_succ_of_le v.rest_le⟩
termination_by cs.length

/-- The attribute at the start of the text: a name, an equals sign and a value in quotes. -/
def readAttribute (line : Nat) (cs : List Char) :
    Except Error (Found (String × String) cs.length) :=
  let key := String.ofList (cs.takeWhile inName)
  let before := skipBlanks line (cs.dropWhile inName)
  have hb := Nat.le_trans before.rest_le (length_dropWhile_le inName cs)
  match h : before.rest with
  | '=' :: rest =>
    let after := skipBlanks before.line rest
    match h' : after.rest with
    | q :: rest' =>
      if q = '"' ∨ q = '\'' then do
        let v ← readValue key q after.line rest'
        return ⟨(key, String.ofList v.value), v.line, v.rest, by
          have h₁ := v.rest_le
          have h₂ := after.rest_le
          rw [h', List.length_cons] at h₂
          rw [h, List.length_cons] at hb
          omega⟩
      else .error ⟨after.line, .unquotedValue key⟩
    | [] => .error ⟨after.line, .unquotedValue key⟩
  | _ => .error ⟨before.line, .noValue key⟩

theorem readAttribute_name_lt {c : Char} {cs : List Char} (h : inName c = true) :
    ((c :: cs).dropWhile inName).length < (c :: cs).length := by
  simp only [List.dropWhile_cons, h, if_true, List.length_cons]
  exact Nat.lt_succ_of_le (length_dropWhile_le _ _)

/-- The rest of an opening tag: its attributes, and whether it closes itself. An attribute that
takes no character ends the reading, which cannot happen after the start of a name. -/
def readTag (name : String) (attributes : List (String × String)) (line : Nat) (cs : List Char) :
    Except Error (Found (List (String × String) × Bool) cs.length) :=
  let start := skipBlanks line cs
  have hs := start.rest_le
  match h : start.rest with
  | [] => .error ⟨start.line, .unterminatedTag name⟩
  | '/' :: '>' :: rest =>
    .ok ⟨(attributes, true), start.line, rest, by
      rw [h] at hs; simp only [List.length_cons] at hs; omega⟩
  | ['/'] => .error ⟨start.line, .unexpectedEnd⟩
  | '/' :: c :: _ => .error ⟨start.line + newlines [c], .expected "/>"⟩
  | '>' :: rest =>
    .ok ⟨(attributes, false), start.line, rest, by
      rw [h] at hs; simp only [List.length_cons] at hs; omega⟩
  | c :: rest =>
    if startsName c then do
      let a ← readAttribute start.line (c :: rest)
      if attributes.any (·.1 == a.value.1) then
        throw ⟨a.line, .duplicate a.value.1 name⟩
      if hl : a.rest.length < cs.length then
        let t ← readTag name (attributes ++ [a.value]) a.line a.rest
        return t.weaken (Nat.le_of_lt hl)
      else throw ⟨a.line, .unterminatedTag name⟩
    else .error ⟨start.line, .unexpectedChar c name⟩
termination_by cs.length

/-- The name of a closing tag after its `</`. -/
def readClosing (line : Nat) (cs : List Char) : Except Error (Found String cs.length) :=
  let name := String.ofList (cs.takeWhile inName)
  let after := skipBlanks line (cs.dropWhile inName)
  have ha := Nat.le_trans after.rest_le (length_dropWhile_le inName cs)
  match h : after.rest with
  | '>' :: rest => .ok ⟨name, after.line, rest, by rw [h, List.length_cons] at ha; omega⟩
  | [] => .error ⟨after.line, .unexpectedEnd⟩
  | _ => .error ⟨after.line, .expected ">"⟩

/-- The text up to a closing sign, and what follows that. -/
def readSection (closing : String) (line : Nat) (cs : List Char) :
    Except Error (Found (List Char) cs.length) :=
  match h : find? closing.toList cs with
  | some (before, after) =>
    .ok ⟨before, line + newlines before, after, by
      have := Text.find?_length h
      omega⟩
  | none => .error ⟨line + newlines cs, .unterminatedSection closing⟩

/-- What a text begins with. -/
inductive Opening where
  | closingTag (rest : List Char)
  | comment (rest : List Char)
  | literal (rest : List Char)
  | tag (rest : List Char)
  | entity (rest : List Char)
  | char (c : Char) (rest : List Char)

/-- Tells what the text begins with; `rest` is what follows the sign for it. -/
def Opening.of (c : Char) (cs : List Char) : Opening :=
  match c, cs with
  | '<', '/' :: rest => .closingTag rest
  | '<', '!' :: '-' :: '-' :: rest => .comment rest
  | '<', '!' :: '[' :: 'C' :: 'D' :: 'A' :: 'T' :: 'A' :: '[' :: rest => .literal rest
  | '<', d :: rest => if startsName d then .tag (d :: rest) else .char '<' (d :: rest)
  | '&', rest => .entity rest
  | c, rest => .char c rest

def Opening.rest : Opening → List Char
  | .closingTag r | .comment r | .literal r | .tag r | .entity r | .char _ r => r

theorem Opening.rest_of_le (c : Char) (cs : List Char) :
    (Opening.of c cs).rest.length ≤ cs.length := by
  unfold Opening.of
  split <;> (try split) <;> simp only [Opening.rest, List.length_cons] <;> omega

/-- The events of the text that begins on the given line. -/
def events (line : Nat) (cs : List Char) : Stream :=
  match cs with
  | [] => .ending line
  | c :: cs =>
    have hr := Opening.rest_of_le c cs
    match ho : Opening.of c cs with
    | .closingTag rest =>
      match readClosing line rest with
      | .ok f =>
        have := f.rest_le
        have : rest.length ≤ cs.length := by rw [ho] at hr; exact hr
        .event (.closing f.value line) (events f.line f.rest)
      | .error e => .failed e
    | .comment rest =>
      match readSection "-->" line rest with
      | .ok f =>
        have := f.rest_le
        have : rest.length ≤ cs.length := by rw [ho] at hr; exact hr
        events f.line f.rest
      | .error e => .failed e
    | .literal rest =>
      match readSection "]]>" line rest with
      | .ok f =>
        have := f.rest_le
        have : rest.length ≤ cs.length := by rw [ho] at hr; exact hr
        .event (.text f.value) (events f.line f.rest)
      | .error e => .failed e
    | .tag rest =>
      let name := String.ofList (rest.takeWhile inName)
      match readTag name [] line (rest.dropWhile inName) with
      | .ok f =>
        have := f.rest_le
        have := length_dropWhile_le inName rest
        have : rest.length ≤ cs.length := by rw [ho] at hr; exact hr
        .event (.opening name f.value.1 line f.value.2) (events f.line f.rest)
      | .error e => .failed e
    | .entity rest =>
      match readEntity line rest with
      | .ok f =>
        have := f.rest_le
        have : rest.length ≤ cs.length := by rw [ho] at hr; exact hr
        .event (.text [f.value]) (events f.line f.rest)
      | .error e => .failed e
    | .char d rest =>
      have : rest.length ≤ cs.length := by rw [ho] at hr; exact hr
      .event (.text [d]) (events (line + newlines [d]) rest)
termination_by cs.length

end MappedSql.Markup
