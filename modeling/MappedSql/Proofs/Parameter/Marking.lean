import Mathlib.Data.List.Forall2
import MappedSql.Proofs.Parameter.Signs
import MappedSql.Template.Compose

/- Question marks and their mappings.

   A composed text is a row of stretches: literal text, escaped opening signs, and placeholders.
   As long as the stretches do not run into each other (`Separate`), its statement is made of them
   one by one. Literal text stays as it is, an escaped sign loses its backslash, and each
   placeholder becomes one question mark, with the mapping of its content at the same place
   of the list (`mark_written`). There is no statement exactly if some content has no mapping, and
   the error is that of the first one (`mark_stretches`). -/
namespace MappedSql

theorem mapM_eq_ok_iff {ε α β : Type} {f : α → Except ε β} {as : List α} {bs : List β} :
    as.mapM f = .ok bs ↔ List.Forall₂ (fun a b => f a = .ok b) as bs := by
  induction as generalizing bs with
  | nil => cases bs <;> simp [pure, Except.pure]
  | cons a as ih =>
    rw [List.mapM_cons]
    constructor
    · intro h
      obtain ⟨b, hb, h⟩ := bind_eq_ok h
      obtain ⟨bs', hbs, h⟩ := bind_eq_ok h
      cases h
      exact .cons hb (ih.1 hbs)
    · intro h
      cases h with
      | cons hb hbs =>
        rw [hb, ih.2 hbs]
        rfl

/-- The first failure is the one that is reported. -/
theorem mapM_eq_error_iff {ε α β : Type} {f : α → Except ε β} {as : List α} {e : ε} :
    as.mapM f = .error e ↔ ∃ front a back, as = front ++ a :: back ∧
      (∀ a' ∈ front, ∃ b, f a' = .ok b) ∧ f a = .error e := by
  constructor
  · intro h
    induction as with
    | nil => cases h
    | cons a as ih =>
      rw [List.mapM_cons] at h
      cases hf : f a with
      | error e' =>
        rw [hf] at h
        cases h
        exact ⟨[], a, as, rfl, by simp, hf⟩
      | ok b =>
        have hrest : as.mapM f = .error e := by
          rw [hf] at h
          cases hmap : as.mapM f with
          | error e' =>
            rw [hmap] at h
            cases h
            rfl
          | ok bs =>
            rw [hmap] at h
            cases h
        obtain ⟨front, a', back, rfl, hfront, he⟩ := ih hrest
        exact ⟨a :: front, a', back, rfl, List.forall_mem_cons.2 ⟨⟨b, hf⟩, hfront⟩, he⟩
  · rintro ⟨front, a, back, rfl, hfront, he⟩
    induction front with
    | nil =>
      rw [List.nil_append, List.mapM_cons, he]
      rfl
    | cons x front ih =>
      obtain ⟨⟨b, hb⟩, hfront⟩ := List.forall_mem_cons.1 hfront
      rw [List.cons_append, List.mapM_cons, hb, ih hfront]
      rfl

namespace Placeholder

open Text (pieces)

/-- A stretch of a composed text. -/
inductive Stretch where
  | literal (s : List Char)
  | escaped
  | placeholder (content : List Char)
  deriving DecidableEq, Repr

namespace Stretch

/-- How the stretch is written. -/
def chars : Stretch → List Char
  | literal s => s
  | escaped => '\\' :: delimiters.opening
  | placeholder content => delimiters.opening ++ content ++ delimiters.closing

/-- What the stretch becomes in the statement. -/
def shown : Stretch → List Char
  | literal s => s
  | escaped => delimiters.opening
  | placeholder _ => ['?']

def content? : Stretch → Option (List Char)
  | placeholder content => some content
  | _ => none

def isLiteral : Stretch → Bool
  | literal _ => true
  | _ => false

end Stretch

/-- The text that stretches write. -/
def written (ss : List Stretch) : String := String.ofList (ss.flatMap Stretch.chars)

/-- The text of the statement that stretches make. -/
def shown (ss : List Stretch) : String := String.ofList (ss.flatMap Stretch.shown)

/-- The contents of the placeholders, in order. -/
def contents (ss : List Stretch) : List (List Char) := ss.filterMap Stretch.content?

/-- Stretches that do not run into each other: no opening sign in a literal, no closing sign in a
placeholder, literal text in one piece, and no backslash of it right before a placeholder. -/
def Separate : List Stretch → Prop
  | [] => True
  | .literal s :: rest =>
    Clean s ∧ (∀ t ∈ rest.head?, t.isLiteral = false) ∧
      (∀ t ∈ rest.head?, t.content? ≠ none → s.getLast? ≠ some '\\') ∧ Separate rest
  | .escaped :: rest => Separate rest
  | .placeholder content :: rest => '\x7d' ∉ content ∧ Separate rest

/-- The statement that stretches make. -/
def statement (ss : List Stretch) : Except Invalid Marked :=
  ((contents ss).mapM fun content => read (String.ofList content)).map fun ms => ⟨shown ss, ms⟩

section

variable (ss : List Stretch)

theorem markAll_literal (s : List Char) (ps : List Text.Piece) : markAll (.literal s :: ps) =
    (markAll ps).map fun m => ⟨String.ofList s ++ m.sql, m.mappings⟩ := by
  rw [markAll]
  cases markAll ps <;> rfl

theorem statement_literal (s : List Char) : statement (.literal s :: ss) =
    (statement ss).map fun m => ⟨String.ofList s ++ m.sql, m.mappings⟩ := by
  have hcontents : contents (.literal s :: ss) = contents ss := rfl
  have hshown : shown (.literal s :: ss) = String.ofList s ++ shown ss := String.ofList_append
  rw [statement, statement, hcontents, hshown]
  cases (contents ss).mapM fun content => read (String.ofList content) <;> rfl

theorem statement_escaped : statement (.escaped :: ss) =
    (statement ss).map fun m => ⟨String.ofList delimiters.opening ++ m.sql, m.mappings⟩ :=
  statement_literal ss delimiters.opening

theorem statement_placeholder (content : List Char) : statement (.placeholder content :: ss) =
    (do
      let p ← read (String.ofList content)
      let m ← statement ss
      return ⟨"?" ++ m.sql, p :: m.mappings⟩) := by
  have hcontents : contents (.placeholder content :: ss) = content :: contents ss := rfl
  have hshown : shown (.placeholder content :: ss) = "?" ++ shown ss := String.ofList_append
  rw [statement, statement, hcontents, hshown, List.mapM_cons]
  cases read (String.ofList content) with
  | error e => rfl
  | ok p => cases (contents ss).mapM fun content => read (String.ofList content) <;> rfl

end

/-- Stretches that do not run into each other make their statement one by one. -/
theorem markAll_chars : ∀ {ss : List Stretch}, Separate ss →
    markAll (pieces delimiters (ss.flatMap Stretch.chars)) = statement ss
  | [], _ => by
    rw [List.flatMap_nil, pieces_text clean_nil]
    rfl
  | [.literal s], h => by
    have hchars : [Stretch.literal s].flatMap Stretch.chars = s := List.append_nil s
    rw [hchars, pieces_text h.1, markAll_literal, statement_literal]
    rfl
  | .literal s :: .literal t :: rest, h => by cases h.2.1 _ rfl
  | .literal s :: .escaped :: rest, h => by
    have hchars : (Stretch.literal s :: .escaped :: rest).flatMap Stretch.chars =
        s ++ '\\' :: '#' :: '\x7b' :: rest.flatMap Stretch.chars := rfl
    have hrest : Separate rest := h.2.2.2
    rw [hchars, pieces_escaped h.1, markAll_literal, markAll_chars hrest, statement_literal,
      statement_escaped]
    cases statement rest with
    | error e => rfl
    | ok m => simp [Except.map, delimiters, String.append_assoc]
  | .literal s :: .placeholder content :: rest, h => by
    have hchars : (Stretch.literal s :: .placeholder content :: rest).flatMap Stretch.chars =
        s ++ '#' :: '\x7b' :: (content ++ '\x7d' :: rest.flatMap Stretch.chars) := by
      simp [Stretch.chars, delimiters]
    have hlast : s.getLast? ≠ some '\\' := h.2.2.1 _ rfl (Option.some_ne_none content)
    rw [hchars, pieces_marker h.1 hlast h.2.2.2.1, markAll_literal, markAll,
      markAll_chars h.2.2.2.2, statement_literal, statement_placeholder]
  | .escaped :: rest, h => by
    have hchars : (Stretch.escaped :: rest).flatMap Stretch.chars =
        [] ++ '\\' :: '#' :: '\x7b' :: rest.flatMap Stretch.chars := rfl
    have hrest : Separate rest := h
    rw [hchars, pieces_escaped clean_nil, markAll_literal, markAll_chars hrest, statement_escaped]
    rfl
  | .placeholder content :: rest, h => by
    have hchars : (Stretch.placeholder content :: rest).flatMap Stretch.chars =
        [] ++ '#' :: '\x7b' :: (content ++ '\x7d' :: rest.flatMap Stretch.chars) := by
      simp [Stretch.chars, delimiters]
    rw [hchars, pieces_marker clean_nil (by simp) h.1, markAll_literal, markAll,
      markAll_chars h.2, statement_placeholder]
    cases read (String.ofList content) with
    | error e => rfl
    | ok p =>
      cases statement rest with
      | error e => rfl
      | ok m => simp [Except.map, bind, Except.bind, pure, Except.pure]

theorem mark_written {ss : List Stretch} (h : Separate ss) : mark (written ss) = statement ss := by
  rw [mark, written, String.toList_ofList, markAll_chars h]

/-- The statement of separate stretches fails with the first content that writes no mapping. Else it
is the text with a question mark for each placeholder, beside the mappings of the contents in
their order. -/
theorem mark_stretches {ss : List Stretch} (h : Separate ss) :
    (∀ e, mark (written ss) = .error e ↔ ∃ front content back,
      contents ss = front ++ content :: back ∧
      (∀ c ∈ front, ∃ p, read (String.ofList c) = .ok p) ∧
      read (String.ofList content) = .error e) ∧
    ∀ m, mark (written ss) = .ok m ↔ m.sql = shown ss ∧
      List.Forall₂ (fun c p => read (String.ofList c) = .ok p) (contents ss) m.mappings := by
  rw [mark_written h, statement]
  constructor
  · intro e
    rw [← mapM_eq_error_iff]
    cases (contents ss).mapM fun content => read (String.ofList content) <;> simp [Except.map]
  · rintro ⟨sql, mappings⟩
    rw [← mapM_eq_ok_iff]
    cases (contents ss).mapM fun content => read (String.ofList content) <;>
      simp [Except.map, eq_comm]

/-- Placeholders next to each other and to an escaped sign, and a backslash of the text before
another. -/
def neighbours : List Stretch :=
  [.literal ['a', '#', '}'], .escaped, .placeholder ['x'], .placeholder [' ', 'y', '\\'],
    .literal ['\\'], .escaped]

theorem mark_stretches_neighbours : Separate neighbours ∧
    written neighbours = "a#\x7d\\#\x7b#\x7bx\x7d#\x7b y\\\x7d\\\\#\x7b" ∧
    mark (written neighbours) =
      .ok ⟨"a#\x7d#\x7b??\\#\x7b", [.ofProperty "x", .ofProperty "y\\"]⟩ := by
  have h : Separate neighbours := by
    refine ⟨by decide, ?_, ?_, by decide, by decide, by decide, ?_, ?_, trivial⟩
    all_goals
      intro t ht
      cases ht
      simp [Stretch.isLiteral, Stretch.content?]
  refine ⟨h, rfl, ((mark_stretches h).2 _).2 ⟨rfl, ?_⟩⟩
  exact .cons (by cbv) (.cons (by cbv) .nil)

/-- A content that writes no mapping is reported, whatever stands behind it. -/
example : mark "#\x7bx\x7d#\x7b\x7d#\x7b(y)\x7d" = .error ⟨"", .noProperty⟩ := by cbv

end Placeholder

end MappedSql
