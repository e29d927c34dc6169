import MappedSql.Document.Yaml.Place

/- Scalars that are set off as blocks of lines.

   After the mark of a block stand, in either order, what is done about the ends of lines
   after the last line of text, and how far the lines are indented; else the first
   line of text says that. A block keeps its lines, or folds those that are not set off by
   blanks. -/
namespace MappedSql.Yaml

/-- What is done about the ends of lines after the last line of text. -/
inductive Chomping where
  | clip
  | strip
  | keep
  deriving DecidableEq, Repr

namespace Chomping

def ofSign? : Char → Option Chomping
  | '+' => some .keep
  | '-' => some .strip
  | _ => none

end Chomping

/-- What stands behind the mark of a block. -/
structure BlockHeader where
  chomping : Chomping
  /-- How much further than what is around them the lines are indented. -/
  further : Option Nat

namespace BlockHeader

/-- A number of columns, which is not zero, if a digit stands here. -/
def further? (p : Place) : Option (Option Nat × Place) :=
  match p.rest with
  | c :: _ =>
    if c = '0' then none
    else if c.isDigit then some (some (c.toNat - '0'.toNat), p.step)
    else some (none, p)
  | [] => some (none, p)

/-- The header here, and the place after it. -/
def read? (p : Place) : Option (BlockHeader × Place) :=
  match p.rest.head?.bind Chomping.ofSign? with
  | some chomping => (further? p.step).map fun (n, p) => (⟨chomping, n⟩, p)
  | none => do
    let (n, p) ← further? p
    match n, p.rest.head?.bind Chomping.ofSign? with
    | some n, some chomping => return (⟨chomping, some n⟩, p.step)
    | n, _ => return (⟨.clip, n⟩, p)

end BlockHeader

namespace Block

/-- What was found before a line of text. -/
structure Margin where
  breaks : List Char
  /-- The column of the line of text, or of the longest line of blanks. -/
  deepest : Nat
  place : Place

/-- The margin here. Blanks are skipped up to the column of the text, or as far as they go if that
is not known yet. By the earlier version of the format no tab stands among them. -/
def margin? (depth : Nat) (indent : Option Nat) (breaks : List Char) (deepest : Nat) (p : Place) :
    Option Margin :=
  match depth with
  | 0 => none
  | depth + 1 =>
    let spaces := (p.rest.takeWhile (· == ' ')).length
    let p := p.advance <| match indent with
      | some n => min spaces (n - p.column)
      | none => spaces
    let deepest := max deepest p.column
    match p.rest with
    | [] => some ⟨breaks, deepest, p⟩
    | c :: _ =>
      if p.version == .v11 && c == '\t' && indent.all (decide <| p.column < ·) then none
      else if p.isBreak c then margin? depth indent (c :: breaks) deepest p.step
      else some ⟨breaks, deepest, p⟩

/-- What has been read of a block. -/
structure Lines where
  read : List Char
  /-- The end of the last line of text. -/
  ended : Option Char
  /-- The ends of empty lines after it, in reverse. -/
  breaks : List Char
  /-- Whether the last line of text begins with a blank. -/
  set : Bool
  place : Place

/-- What stands between two lines of text, in reverse. -/
def between (folds : Bool) (b : Lines) (setNext : Bool) : List Char :=
  if folds && b.ended == some '\n' && !b.set && !setNext then
    if b.breaks.isEmpty then [' '] else b.breaks
  else b.breaks ++ b.ended.toList

/-- The lines of text in the column `indent`. -/
def lines? (depth : Nat) (folds : Bool) (indent : Nat) (b : Lines) : Option Lines :=
  match depth with
  | 0 => none
  | depth + 1 =>
    let p := b.place
    match p.rest with
    | [] => some b
    | c :: _ =>
      if p.column ≠ indent then some b
      else do
        let text := p.rest.takeWhile fun c => !p.isBreak c
        let read := text.reverse ++ (between folds b (isBlank c) ++ b.read)
        let p := p.advance text.length
        let m ← margin? (p.rest.length + 1) (some indent) [] 0 p.step
        lines? depth folds indent ⟨read, p.rest.head?, m.breaks, isBlank c, m.place⟩

/-- The ends of lines after the last line of text, in reverse. By the later version of the format
the end of the text counts as one, if the last line goes as far as the lines of the block. -/
def tail (chomping : Chomping) (indent : Nat) (b : Lines) : List Char :=
  let closes := b.place.version == .v12 && b.place.rest.isEmpty &&
    decide (max 1 indent ≤ b.place.column)
  let last := (if closes then ['\n'] else []) ++ b.ended.toList
  match chomping with
  | .strip => []
  | .clip => last
  | .keep => b.breaks ++ last

/-- What a block without a line of text comes to by the later version of the format, in reverse. -/
def empty (chomping : Chomping) (sameLine : Bool) (m : Margin) : List Char :=
  if chomping = .strip ∨ sameLine then []
  else if chomping = .keep ∧ m.breaks ≠ [] then m.breaks
  else ['\n']

/-- The block whose mark stands here, around which things stand in the column `outer`, and the
place after it. -/
def read? (folds : Bool) (outer : Int) (p : Place) : Option (String × Place) := do
  let start := p.line
  let (header, p) ← BlockHeader.read? p.step
  let p ← match p.version with
    | .v11 =>
      let p := p.after isBlank
      pure (if p.startsWith (· == '#') then p.lineEnd else p)
    | .v12 => p.skipBlanks?.map (·.2)
  if !p.atLineEnd then none
  let p := p.step
  if p.version == .v12 && p.startsWith (· == '\t') then none
  let given := header.further.map fun n => (max outer 0).toNat + n
  let m ← margin? (p.rest.length + 1) given [] 0 p
  let indent := given.getD (max 1 (max m.deepest (outer + 1).toNat))
  let p := m.place
  if p.version == .v12 && p.rest.isEmpty then
    return (String.ofList (empty header.chomping (p.line == start) m).reverse, p)
  if p.version == .v12 && decide (p.column < indent) && decide (outer < p.column) then none
  let b ← lines? (p.rest.length + 1) folds indent ⟨[], none, m.breaks, false, p⟩
  return (String.ofList (tail header.chomping indent b ++ b.read).reverse, b.place)

end Block

end MappedSql.Yaml
