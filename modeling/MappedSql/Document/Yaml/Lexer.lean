import MappedSql.Document.Yaml.Block
import MappedSql.Document.Yaml.Plain
import MappedSql.Document.Yaml.Quoted
import MappedSql.Document.Yaml.Token

/- Tokens from YAML text.

   A step skips what stands between tokens, closes the collections that end there, and
   reads one token. The two versions of the format differ in where tabs may stand, in what
   a colon in brackets needs behind it, and in how far text has to be indented. -/
namespace MappedSql.Yaml.Scan

/-- What stands between tokens is skipped: blanks, ends of lines and comments. Outside of brackets
a key may begin on a new line. By the earlier version of the format no tab stands where a key may
begin; by the later one none before a text that is not indented far enough. -/
def skip? (depth : Nat) (s : Scan) : Option Scan :=
  match depth with
  | 0 => none
  | depth + 1 =>
    let p := s.place
    match p.rest with
    | [] => some s
    | c :: _ =>
      if p.isBreak c then
        skip? depth { s with place := p.step, keyAllowed := s.keyAllowed || s.flow == 0 }
      else if c = '#' then skip? depth (s.move p.lineEnd)
      else if c = ' ' then skip? depth (s.move p.step)
      else if c = '\t' then
        match s.version with
        | .v11 => if 0 < s.flow || !s.keyAllowed then skip? depth (s.move p.step) else some s
        | .v12 =>
          if !s.levels.isEmpty && p.leading && decide (p.column < s.indent) then do
            let (_, p) ← p.skipBlanks?
            if p.atLineEnd then skip? depth (s.move p) else none
          else skip? depth (s.move p.step)
      else if s.version = .v11 ∧ c = byteOrderMark ∧ p.column = 0 then
        skip? depth (s.move p.step)
      else some s

/-- The reader behind the token that stands before this place; by the later version of the format a
comment on its line needs a blank before it. -/
def behind? (s : Scan) (p : Place) : Option Scan :=
  match s.version with
  | .v11 => some (s.move p)
  | .v12 => p.skipBlanks?.map fun (_, p) => s.move p

def deepest : Nat := 255

/-- A bracket or a brace is opened; a key may begin with it. -/
def openFlow? (s : Scan) (t : Token) : Option Scan := do
  let s ← s.remember?
  let s := s.rollOne
  if s.version = .v12 ∧ deepest ≤ s.flow then none
  let s := { s with
    flow := s.flow + 1
    keys := none :: s.keys
    keyAllowed := true
    entriesTold := s.entriesTold || t == Token.flowMap }
  let s ← s.behind? s.place.step
  return s.push t

/-- An item that has turned out to be an entry ends. -/
def endEntry (s : Scan) : Scan :=
  if s.inEntry then { s with inEntry := false, entriesTold := false }.push .flowMapEnd else s

def closeFlow? (s : Scan) (t : Token) : Option Scan := do
  let s ← s.forget?
  let s := if 0 < s.flow then { s with flow := s.flow - 1, keys := s.keys.tail } else s
  let s ← ((s.allowKey false).endEntry).behind? s.place.step
  let s := if 0 < s.flow then { s with adjacent := s.place.index } else s
  return s.push t

def comma? (s : Scan) : Option Scan := do
  let s ← s.forget?
  let s ← ((s.allowKey true).endEntry).behind? s.place.step
  return s.push .comma

/-- The dash of an item; by the later version of the format a tab may not stand between two of
them. -/
def item? (s : Scan) : Option Scan := do
  if 0 < s.flow || !s.keyAllowed then none
  let s := s.roll s.place.column s.tokens.size .blockList
  let s ← match s.version with
    | .v11 => pure (s.move s.place.step)
    | .v12 => do
      let (blanks, p) ← s.place.step.skipBlanks?
      if blanks.contains '\t' && p.startsWith (· == '-') && p.endsWord p.rest.tail then none
      let s := s.move p
      pure (if p.startsWith (fun c => p.isBreak c || isFlowSign c) then s.rollOne else s)
  let s ← s.forget?
  return (s.allowKey true).push .item

/-- Blanks and ends of lines after a question mark, of which there has to be one; a tab is none of
them. -/
def skipSpaces? (depth : Nat) (found : Bool) (s : Scan) : Option Scan :=
  match depth with
  | 0 => none
  | depth + 1 =>
    let p := s.place
    match p.rest with
    | [] => if found then some s else none
    | c :: _ =>
      if c = ' ' then skipSpaces? depth true (s.move p.step)
      else if p.isBreak c then
        skipSpaces? depth true { s with place := p.step, keyAllowed := s.keyAllowed || s.flow == 0 }
      else if c = '#' then skipSpaces? depth found (s.move p.lineEnd)
      else if found && c ≠ '\t' then some s
      else none

def key? (s : Scan) : Option Scan := do
  if s.flow = 0 ∧ !s.keyAllowed then none
  let s := s.roll s.place.column s.tokens.size .blockMap
  let s := { s with entriesTold := s.entriesTold || decide (0 < s.flow) }
  let s ← s.forget?
  let s := (s.allowKey (s.flow == 0)).move s.place.step
  let s ← match s.version with
    | .v11 => pure s
    | .v12 => s.skipSpaces? (s.place.rest.length + 1) false
  return s.push .key

/-- What stands behind a colon: by the later version of the format no word follows right after a
tab. -/
def colonEnd? (p : Place) : Option Place :=
  if p.version == .v12 && p.startsWith (· == '\t') then do
    let (blanks, q) ← p.skipBlanks?
    if !blanks.contains ' ' && q.startsWith isNameChar then none else some q
  else some p

/-- The colon of a value. If a key may have begun, the tokens for it are put where it began; else
the key was an explicit one, or there is none. -/
def value? (s : Scan) : Option Scan := do
  let start := s.place
  let entry := s.version == .v12 && decide (0 < s.flow) && !s.entriesTold
  let s := { s with inEntry := entry }
  let p ← colonEnd? start.step
  let s := s.move p
  match s.keys with
  | some k :: outer =>
    if entry && decide (k.line < start.line) then none
    let s := s.insert k.before .key
    let s := if entry then s.insert k.before .flowMap else s
    let s := (s.roll k.column k.before .blockMap).rollOne
    return ({ s with keys := none :: outer }.allowKey false).push .value
  | _ =>
    let s := if entry then s.push .flowMap else s
    if s.flow = 0 ∧ !s.keyAllowed then none
    let s := (s.roll start.column s.tokens.size .blockMap).rollOne
    return (s.allowKey (s.flow == 0)).push .value

def anchor? (s : Scan) (t : String → Token) : Option Scan := do
  let s ← s.remember?
  let (name, p) ← Property.anchor? s.place
  return ((s.allowKey false).move p).push (t name)

def tag? (s : Scan) : Option Scan := do
  let s ← s.remember?
  let p := s.place
  let (t, rest) ← Property.tag? s.version p.rest
  if !Property.endsTag p (decide (0 < s.flow)) rest then none
  return ((s.allowKey false).move (p.advance (p.rest.length - rest.length))).push (.tag t)

/-- A scalar that is set off as a block; by the earlier version of the format it is no key. -/
def block? (s : Scan) (style : Style) : Option Scan := do
  let s ← match s.version with
    | .v11 => s.forget?
    | .v12 => s.remember?
  let s := s.dropOnes
  let (text, p) ← Block.read? (style == .folded) s.indent s.place
  return ((s.allowKey true).move p).push (.scalar style text)

/-- Whether what stands behind a scalar in quotes may stand there. -/
def mayFollowQuoted (s : Scan) (line : Nat) (p : Place) : Bool :=
  p.atLineEnd || p.startsWith fun c =>
    if 0 < s.flow then [',', '}', ']', ':'].contains c else c == ':' && line == p.line

/-- A scalar in quotes. By the later version of the format only what belongs to the collection
around it follows on its line, and in brackets a colon behind it needs no blank. -/
def quoted? (s : Scan) (q : Quote) : Option Scan := do
  let s ← s.remember?
  let line := s.place.line
  let (text, p) ← q.read? s.indent s.place
  let s ← ((s.allowKey false).behind? p)
  match s.version with
  | .v11 => return s.push (.scalar .quoted text)
  | .v12 =>
    if !s.mayFollowQuoted line s.place then none
    let s ← s.skip? (s.place.rest.length + 1)
    return { s with adjacent := s.place.index }.push (.scalar .quoted text)

def plain? (s : Scan) : Option Scan := do
  let s ← s.remember?
  let s := s.dropOnes
  let scalar ← Plain.read? (decide (0 < s.flow)) (s.indent + 1) s.place
  return ((s.allowKey scalar.endsLine).move scalar.place).push (.scalar .plain scalar.text)

def directive? (s : Scan) : Option Scan := do
  let s ← (s.unroll (-1)).forget?
  let (d, p) ← Property.directive? s.place
  return ((s.allowKey false).move p).push (.directive d)

/-- A mark of the start or the end of a document. By the later version of the format nothing stands
behind that of an end. -/
def mark? (s : Scan) : Option Scan := do
  let s ← (s.unroll (-1)).forget?
  let p := s.place.advance 3
  let s := s.allowKey false
  if s.place.startsWith (· == '-') then return (s.move p).push .documentStart
  else
    let s ← s.behind? p
    if s.version = .v12 ∧ !s.place.atLineEnd then none
    return s.push .documentEnd

/-- Whether the colon here is that of a value. -/
def atValue (s : Scan) (rest : List Char) : Bool :=
  s.place.endsWord rest || decide (0 < s.flow) &&
    (s.version == .v11 || rest.head?.any isFlowSign || s.adjacent == s.place.index)

/-- Characters that no scalar without quotes begins with. -/
def isReserved (v : Version) (c : Char) : Bool :=
  ['%', '@', '\x60'].contains c || v == .v11 && (c == '\t' || c == '|' || c == '>')

/-- The token that begins with a character, behind which the text goes on with `rest`. -/
def token? (s : Scan) (c : Char) (rest : List Char) : Option Scan :=
  let ends := s.place.endsWord rest
  if c = '[' then s.openFlow? .flowList
  else if c = '{' then s.openFlow? .flowMap
  else if c = ']' then s.closeFlow? .flowListEnd
  else if c = '}' then s.closeFlow? .flowMapEnd
  else if c = ',' then s.comma?
  else if c = '-' ∧ ends then s.item?
  else if c = '?' ∧ (ends ∨ s.version = .v11 ∧ 0 < s.flow) then s.key?
  else if c = ':' ∧ s.atValue rest then s.value?
  else if c = '*' then s.anchor? .alias
  else if c = '&' then s.anchor? .anchor
  else if c = '!' then s.tag?
  else if c = '|' ∧ s.flow = 0 then s.block? .literal
  else if c = '>' ∧ s.flow = 0 then s.block? .folded
  else if c = '\'' then s.quoted? .single
  else if c = '"' then s.quoted? .double
  else if isReserved s.version c then none
  else s.plain?

def next? (s : Scan) : Option Scan :=
  match s.place.rest with
  | [] => none
  | c :: rest =>
    if c = '%' ∧ s.place.column = 0 then s.directive?
    else if s.place.atMark then s.mark?
    else if s.version = .v12 ∧ s.place.column < s.indent then none
    else s.token? c rest

def tokens? (depth : Nat) (s : Scan) : Option (List Token) :=
  match depth with
  | 0 => none
  | depth + 1 => do
    let s ← s.skip? (s.place.rest.length + 1)
    let s ← s.stale?
    let s := s.unroll s.place.column
    if s.place.rest.isEmpty then
      let s ← (s.unroll (-1)).forget?
      return s.tokens.toList
    else (← s.next?).tokens? depth

end MappedSql.Yaml.Scan

namespace MappedSql.Yaml

def Token.ofText? (v : Version) (cs : List Char) : Option (List Token) :=
  (Scan.start v (v.lineFeeds cs)).tokens? (cs.length + 2)

end MappedSql.Yaml
