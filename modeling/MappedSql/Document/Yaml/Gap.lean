import MappedSql.Document.Yaml.Place

/- What stands between the words of a scalar.

   Blanks within a line are text. Blanks around an end of line are dropped, a single
   line feed becomes a space, and of several all but the first are kept; an end of line
   that is text as well always stays. -/
namespace MappedSql.Yaml

/-- What was found between two words. -/
inductive Gap where
  | none
  | blanks (read : List Char)
  /-- An end of line, and those after it in reverse. -/
  | breaks (first : Char) (others : List Char)
  /-- An end of line that does not count, and those after it in reverse. -/
  | joined (others : List Char)

namespace Gap

def folded : Gap → List Char
  | .none => []
  | .blanks read => read
  | .breaks first others =>
    if first = '\n' then if others.isEmpty then [' '] else others else others ++ [first]
  | .joined others => others

def addBreak (c : Char) : Gap → Gap
  | .none | .blanks _ => .breaks c []
  | .breaks first others => .breaks first (c :: others)
  | .joined others => .joined (c :: others)

def addBlank (c : Char) : Gap → Gap
  | .none => .blanks [c]
  | .blanks read => .blanks (c :: read)
  | g => g

def endsLine : Gap → Bool
  | .breaks _ _ | .joined _ => true
  | _ => false

/-- The gap that goes on here, and the place after it. What a tab comes to that stands where lines
are indented is said by `atTab?`. -/
def read? (depth : Nat) (indent : Int) (atTab? : Place → Option Place) (g : Gap) (p : Place) :
    Option (Gap × Place) :=
  match depth with
  | 0 => Option.none
  | depth + 1 =>
    match p.rest with
    | [] => some (g, p)
    | c :: _ =>
      if p.isBreak c then read? depth indent atTab? (g.addBreak c) p.step
      else if isBlank c then
        if g.endsLine && c == '\t' && decide (p.column < indent) then
          (atTab? p).bind fun p => read? depth indent atTab? g p
        else read? depth indent atTab? (g.addBlank c) p.step
      else some (g, p)

/-- A single line feed becomes a space. -/
@[simp] theorem folded_feed : (breaks '\n' []).folded = [' '] := rfl

/-- Of several line feeds the first one is dropped. -/
theorem folded_feeds (n : Nat) :
    (breaks '\n' (List.replicate (n + 1) '\n')).folded = List.replicate (n + 1) '\n' := rfl

end Gap

end MappedSql.Yaml
