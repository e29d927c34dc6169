import MappedSql.Document.Yaml.Gap

/- Scalars without quotes.

   A scalar ends before a colon with a blank behind it, before a comment, before a mark
   of a document, in brackets before a sign, and outside of them before a line that is not
   indented further than what is around it. -/
namespace MappedSql.Yaml

/-- What was read of a scalar without quotes. -/
structure Plain where
  text : String
  /-- Whether the scalar was left at the start of a line. -/
  endsLine : Bool
  place : Place

namespace Plain

/-- The characters of a word. By the earlier version of the format a colon may not stand before a
sign in brackets; by the later one the word ends there. -/
def word? (p : Place) (flow : Bool) : List Char → Option (List Char)
  | [] => some []
  | c :: rest =>
    if !p.isInk c then some []
    else if c = ':' then
      if p.endsWord rest then some []
      else if flow && p.version == .v11 && rest.head?.any (fun d => isFlowSign d || d == '?') then
        none
      else if flow && rest.head?.any isFlowSign then some []
      else (word? p flow rest).map (c :: ·)
    else if flow && isFlowSign c then some []
    else (word? p flow rest).map (c :: ·)

/-- What a tab comes to that stands where lines are indented: by the later version of the format
it may stand in a line without text. -/
def atTab? (p : Place) : Option Place :=
  match p.version with
  | .v11 => none
  | .v12 => p.skipBlanks?.bind fun (_, p) => if p.atLineEnd then some p else none

/-- The scalar that goes on here with a word, after the characters in reverse and the gap that have
been read. -/
def words? (depth : Nat) (flow : Bool) (indent : Int) (read : List Char) (gap : Gap) (p : Place) :
    Option Plain :=
  match depth with
  | 0 => none
  | depth + 1 =>
    let done (read : List Char) (gap : Gap) (p : Place) : Plain :=
      ⟨String.ofList read.reverse, gap.endsLine, p⟩
    if p.atMark || p.startsWith (· == '#') then some (done read gap p)
    else if flow && p.version == .v12 && p.startsWith (· == '-') &&
        p.rest.tail.head?.any isFlowSign then none
    else do
      let word ← word? p flow p.rest
      let (read, gap) :=
        if word.isEmpty then (read, gap) else (word.reverse ++ (gap.folded ++ read), .none)
      let p := p.advance word.length
      if !p.startsWith (fun c => !p.isInk c) then return done read gap p
      else
        let (gap, p) ← gap.read? (p.rest.length + 1) indent atTab? p
        if !flow && decide (p.column < indent) then return done read gap p
        else words? depth flow indent read gap p

/-- The scalar that begins here, in lines indented at least as far as `indent`. -/
def read? (flow : Bool) (indent : Int) (p : Place) : Option Plain :=
  if flow && p.version == .v12 && decide (p.column < indent) then none
  else words? (p.rest.length + 1) flow indent [] .none p

end Plain

end MappedSql.Yaml
