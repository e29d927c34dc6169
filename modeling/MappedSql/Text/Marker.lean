import MappedSql.Text.Split

/- Text with markers in it.

   A marker is a content between an opening and a closing sign. A backslash right
   before an opening sign escapes it: the backslash goes and the sign stays as text.
   An opening sign that no closing sign follows is text, with all that follows it.

   `pieces` cuts a text into literals and markers; replacing the markers is then a
   walk over the pieces. -/
namespace MappedSql.Text

/-- A stretch of a text with markers. -/
inductive Piece where
  | literal (s : List Char)
  | marker (content : List Char)
  deriving DecidableEq, Repr

/-- The signs at the two ends of a marker. -/
structure Delimiters where
  opening : List Char
  closing : List Char

/-- The literals and markers of a text, in order. Where both signs are empty there are no
markers. -/
def pieces (d : Delimiters) (cs : List Char) : List Piece :=
  if _ho : d.opening = [] ∧ d.closing = [] then [.literal cs]
  else
    match _hf : find? d.opening cs with
    | none => [.literal cs]
    | some (before, rest) =>
      if _hb : before.getLast? = some '\\' then
        .literal (before.dropLast ++ d.opening) :: pieces d rest
      else
        match _hc : find? d.closing rest with
        | none => [.literal cs]
        | some (content, after) => .literal before :: .marker content :: pieces d after
termination_by cs.length
decreasing_by
  all_goals have h₁ := find?_length _hf
  · have h₂ : before ≠ [] := by
      rintro rfl
      simp at _hb
    have h₃ := List.length_pos_iff.2 h₂
    omega
  · have h₂ := find?_length _hc
    have h₃ : 0 < d.opening.length + d.closing.length := by
      by_cases h : d.opening = []
      · have := List.length_pos_iff.2 fun h' => _ho ⟨h, h'⟩
        omega
      · have := List.length_pos_iff.2 h
        omega
    omega

/-- The text that the pieces make when every marker is replaced, from the left. -/
def assemble {ε : Type} (replace : String → Except ε String) : List Piece → Except ε String
  | [] => .ok ""
  | .literal s :: rest => do
    let after ← assemble replace rest
    return String.ofList s ++ after
  | .marker content :: rest => do
    let s ← replace (String.ofList content)
    let after ← assemble replace rest
    return s ++ after

def replaceMarkers {ε : Type} (d : Delimiters) (replace : String → Except ε String)
    (s : String) : Except ε String :=
  assemble replace (pieces d s.toList)

def markers : List Piece → List (List Char)
  | [] => []
  | .literal _ :: rest => markers rest
  | .marker content :: rest => content :: markers rest

end MappedSql.Text
