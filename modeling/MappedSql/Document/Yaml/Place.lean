/- Places in a YAML text.

   Lines and columns matter: what belongs to a collection stands deeper than the
   collection. A text is read by one of two versions of the format, which differ in
   what ends a line. Ends of lines that are not text are line feeds by the time
   a text is read. -/
namespace MappedSql.Yaml

/-- The version of the format by which a text is read. -/
inductive Version where
  | v11
  | v12
  deriving DecidableEq, Repr

def isBlank (c : Char) : Bool := c == ' ' || c == '\t'

/-- Characters that have a meaning inside brackets and braces. -/
def isFlowSign (c : Char) : Bool := [',', '[', ']', '{', '}'].contains c

def isNameChar (c : Char) : Bool := c.isAlphanum || c == '_' || c == '-'

def byteOrderMark : Char := '\ufeff'

namespace Version

def isBreak (v : Version) (c : Char) : Bool :=
  c == '\n' || v == .v11 && (c == '\u2028' || c == '\u2029')

/-- With a line feed for every end of a line, but for those that are text as well. -/
def lineFeeds (v : Version) : List Char → List Char
  | [] => []
  | '\r' :: '\n' :: rest => '\n' :: lineFeeds v rest
  | '\r' :: rest => '\n' :: lineFeeds v rest
  | c :: rest => (if v == .v11 && c == '\u0085' then '\n' else c) :: lineFeeds v rest

end Version

/-- A place in a text. -/
structure Place where
  version : Version
  rest : List Char
  index : Nat
  line : Nat
  column : Nat
  /-- Whether nothing but blanks stands before it on its line. -/
  leading : Bool

namespace Place

def isBreak (p : Place) (c : Char) : Bool := p.version.isBreak c

/-- Whether the character may stand inside a word. -/
def isInk (p : Place) (c : Char) : Bool := !isBlank c && !p.isBreak c

/-- Whether no word goes on with the characters. -/
def endsWord (p : Place) : List Char → Bool
  | [] => true
  | c :: _ => !p.isInk c

def step (p : Place) : Place :=
  match p.rest with
  | [] => p
  | c :: rest =>
    if p.isBreak c then
      { p with rest := rest, index := p.index + 1, line := p.line + 1, column := 0,
               leading := true }
    else
      { p with rest := rest, index := p.index + 1, column := p.column + 1,
               leading := p.leading && isBlank c }

def advance (p : Place) : Nat → Place
  | 0 => p
  | n + 1 => p.step.advance n

/-- The place after the characters that the text begins with. -/
def after (p : Place) (f : Char → Bool) : Place := p.advance (p.rest.takeWhile f).length

def lineEnd (p : Place) : Place := p.after fun c => !p.isBreak c

/-- Whether the line ends here, or the text. -/
def atLineEnd (p : Place) : Bool :=
  match p.rest with
  | [] => true
  | c :: _ => p.isBreak c

/-- Whether the text goes on with a character. -/
def startsWith (p : Place) (f : Char → Bool) : Bool := p.rest.head?.any f

/-- Whether a mark of the start or the end of a document stands here. -/
def atMark (p : Place) : Bool :=
  p.column == 0 &&
    match p.rest with
    | '-' :: '-' :: '-' :: rest => p.endsWord rest
    | '.' :: '.' :: '.' :: rest => p.endsWord rest
    | _ => false

/-- The blanks here, and the place after them and after a comment. A comment needs a blank before
it. -/
def skipBlanks? (p : Place) : Option (List Char × Place) :=
  let blanks := p.rest.takeWhile isBlank
  let q := p.advance blanks.length
  if q.startsWith (· == '#') then if blanks.isEmpty then none else some (blanks, q.lineEnd)
  else some (blanks, q)

@[simp] theorem version_step (p : Place) : p.step.version = p.version := by
  unfold step; split <;> (try split) <;> rfl

@[simp] theorem rest_step (p : Place) : p.step.rest = p.rest.tail := by
  unfold step; split <;> (try split) <;> simp_all

@[simp] theorem version_advance (p : Place) (n : Nat) : (p.advance n).version = p.version := by
  induction n generalizing p with
  | zero => rfl
  | succ n ih => simp [advance, ih]

/-- Going on drops characters and nothing else. -/
@[simp] theorem rest_advance (p : Place) (n : Nat) : (p.advance n).rest = p.rest.drop n := by
  induction n generalizing p with
  | zero => rfl
  | succ n ih => simp [advance, ih]

end Place

end MappedSql.Yaml
