import Mathlib
import MappedSql.Proofs.Statement.ComposedOnce
import MappedSql.Proofs.Statement.LastBind
import MappedSql.Proofs.Template.Signed

/- What becomes of escaped signs in a statement.

   A backslash before an opening sign keeps it as text, and is taken away by the reading that it
   escapes the sign from. Besides the reading of the whole statement there is one for each loop
   around the sign, so a sign within loops needs more than one backslash: it stays text if more
   backslashes stand before it than loops are around it, and else becomes a placeholder
   (`Source.signs_kept`). With a single one, as it is enough outside of loops, a sign in a loop
   is a placeholder after all (`Source.escape_lost`). -/
namespace MappedSql

open Placeholder (Sign Signed Shows sign)

/-- What is marked in the text of a statement. -/
def BoundStatement.marked (b : BoundStatement) : Placeholder.Marked := ⟨b.sql, b.mappings⟩

namespace PerCallSource

/-- The texts of a statement, as they are composed for the parameter, each with the number of
loops around it. -/
def texts (s : PerCallSource) (parameter : Value) : List (Nat × String) :=
  s.template.texts .standard (Bindings.start parameter s.databaseId) [] 0

/-- A statement is marked in the text that the walk over its template comes to. -/
theorem bind_marked (s : PerCallSource) (parameter : Value) :
    (s.bind parameter).map (·.marked) =
      match s.template.walk .standard (Bindings.start parameter s.databaseId) [] 0 with
      | .error e => .error (.composing s.id e)
      | .ok p =>
        (Placeholder.mark (Text.trim p.result)).mapError fun e => .composing s.id (.placeholder e)
    := by
  have hbind := s.bind_walked parameter
  cases hwalk : s.template.walk .standard (Bindings.start parameter s.databaseId) [] 0 with
  | error e =>
    rw [hwalk] at hbind
    exact congrArg _ hbind
  | ok p =>
    rw [hwalk] at hbind
    obtain ⟨c, -, hbind⟩ := hbind
    dsimp only
    cases hmark : Placeholder.mark (Text.trim p.result) with
    | error e =>
      rw [hmark] at hbind
      exact congrArg _ hbind
    | ok m =>
      rw [hmark] at hbind
      exact congrArg _ hbind

/-- A statement that is composed for each call shows the signs of its texts. -/
theorem marked_shows {s : PerCallSource} {parameter : Value} {m : Placeholder.Marked}
    {signs : List Sign} (hh : s.template.isHarmless false = true)
    (hr : Reads 0 (s.texts parameter) signs) (hm : (s.bind parameter).map (·.marked) = .ok m) :
    Shows m.sql.toList signs ∧ m.mappings.length = signs.count .placeholder := by
  rw [bind_marked] at hm
  cases hwalk : s.template.walk .standard (Bindings.start parameter s.databaseId) [] 0 with
  | error e =>
    rw [hwalk] at hm
    cases hm
  | ok p =>
    rw [hwalk] at hm
    have hwritten := s.template.walk_written .standard (by simpa using hh) hwalk hr
    exact hwritten.signed.trimmed.mark (eq_ok_of_mapError hm)

end PerCallSource

namespace Source

/-- Whether it is composed once or for each call, the statement of a template is marked as one
that is composed for each call. -/
theorem marked_perCall {id : String} {t : Template} {databaseId : Option String} {source : Source}
    (hs : ofTemplate id t databaseId = .ok source) (parameter : Value) :
    (source.bind parameter).map (·.marked) =
      (PerCallSource.bind ⟨id, t, databaseId⟩ parameter).map (·.marked) := by
  cases hd : t.isDynamic with
  | true =>
    rw [ofTemplate, if_pos hd] at hs
    cases hs
    rfl
  | false =>
    rw [ofTemplate_fixed hd] at hs
    rw [PerCallSource.bind_fixed hd]
    cases hmark : Placeholder.mark (Text.trim t.written) with
    | error e =>
      rw [hmark] at hs
      cases hs
    | ok m =>
      rw [hmark] at hs
      cases hs
      rfl

/-- Of the opening signs in the texts of a template, those with more backslashes before them than
loops around them are text in the SQL, in their order, and have no mapping. Each of the others is
a placeholder and has one. -/
theorem signs_kept {id : String} {t : Template} {databaseId : Option String} {source : Source}
    {parameter : Value} {b : BoundStatement} {signs : List Sign}
    (hs : ofTemplate id t databaseId = .ok source) (hb : source.bind parameter = .ok b)
    (hh : t.isHarmless false = true)
    (hr : Reads 0 (PerCallSource.texts ⟨id, t, databaseId⟩ parameter) signs) :
    Shows b.sql.toList signs ∧ b.mappings.length = signs.count .placeholder := by
  have hmarked := marked_perCall hs parameter
  rw [hb] at hmarked
  exact PerCallSource.marked_shows hh hr hmarked.symm

/-! ## One backslash more for each loop -/

/-- A loop over the ids of a parameter. -/
def ids : Loop := ⟨"ids", some "i", none, "", "", ""⟩

def oneId : Value := .obj [("ids", .arr [.ofNat 1])]

/-- The statement of a text under a loop with one round. -/
def underLoop (s : String) : PerCallSource := ⟨"s", .loop ids (.text s), none⟩

theorem items_ids : Evaluator.standard.items (Bindings.start oneId none) ids.collection =
    .ok [⟨.ofNat 0, .ofNat 1⟩] := by
  cbv

theorem texts_underLoop {s : String} (hs : Template.hasSubstitution s = false) :
    (underLoop s).texts oneId = [(1, s)] := by
  rw [PerCallSource.texts, underLoop, Template.texts]
  dsimp only [Scope.bindings, List.foldr_nil]
  rw [items_ids]
  dsimp only
  rw [Walked.roundTexts, Template.texts_plain _ hs]
  split <;> rfl

/-- What such a statement is marked with, if the text of the round has any content. -/
theorem exists_underLoop {s : String} (hs : Template.hasSubstitution s = false)
    (hround : (ids.roundText 0 (s ++ " ")).isEmpty = false) {m : Placeholder.Marked}
    (hm : Placeholder.mark (Text.trim (ids.joined [ids.roundText 0 (s ++ " ")] ++ " ")) = .ok m) :
    ∃ b, (underLoop s).bind oneId = .ok b ∧ b.marked = m := by
  have hwalk : ∃ p, (underLoop s).template.walk .standard (Bindings.start oneId none) [] 0 =
      .ok p ∧ p.result = ids.joined [ids.roundText 0 (s ++ " ")] ++ " " := by
    rw [underLoop, Template.walk]
    dsimp only [Scope.bindings, List.foldr_nil]
    rw [items_ids]
    simp only [Template.walk_plain _ hs]
    refine ⟨_, rfl, ?_⟩
    simp [Walked.map, Walked.andThen, Walked.within, Walked.of, hround]
  obtain ⟨p, hwalk, hresult⟩ := hwalk
  have hmarked := (underLoop s).bind_marked oneId
  rw [show (underLoop s).databaseId = none from rfl, hwalk] at hmarked
  dsimp only at hmarked
  rw [hresult, hm] at hmarked
  cases hb : (underLoop s).bind oneId with
  | error e =>
    rw [hb] at hmarked
    cases hmarked
  | ok b =>
    rw [hb] at hmarked
    exact ⟨b, rfl, Except.ok.inj hmarked⟩

/-- A sign with as many backslashes as keep it text in a loop, and one with one less. -/
def escapes : String := "\\\\#{c} \\#{d}"

theorem reads_escapes : Reads 0 [(1, escapes)] [.literal, .placeholder] := by
  have hd : Signed true 1 ("c\x7d ".toList ++ (sign 1 ++ ("d".toList ++ '\x7d' :: [])))
      [.placeholder] :=
    .placeholder (by decide) (by decide) (by decide) (by decide) (by decide) (.bare .nil)
  have hc : Signed true 1 ([] ++ (sign 2 ++ ("c\x7d ".toList ++
      (sign 1 ++ ("d".toList ++ '\x7d' :: []))))) [.literal, .placeholder] :=
    .literal .nil (by decide) (by decide) hd
  exact .single hc

theorem signs_kept_escapes :
    (underLoop escapes).template.isHarmless false = true ∧
      Reads 0 ((underLoop escapes).texts oneId) [.literal, .placeholder] ∧
      ∃ source b, ofTemplate "s" (underLoop escapes).template none = .ok source ∧
        source.bind oneId = .ok b ∧ b.marked = ⟨"#{c} ?", [.ofProperty "d"]⟩ ∧
        Shows b.sql.toList [.literal, .placeholder] ∧ b.mappings.length = 1 := by
  have hplain : Template.hasSubstitution escapes = false := by decide +kernel
  have hharmless : (underLoop escapes).template.isHarmless false = true := by decide +kernel
  have hreads : Reads 0 ((underLoop escapes).texts oneId) [.literal, .placeholder] := by
    rw [texts_underLoop hplain]
    exact reads_escapes
  have hmark : Placeholder.mark (Text.trim (ids.joined [ids.roundText 0 (escapes ++ " ")] ++
      " ")) = .ok ⟨"#{c} ?", [.ofProperty "d"]⟩ := by decide +kernel
  have hs : ofTemplate "s" (underLoop escapes).template none = .ok (.perCall (underLoop escapes)) :=
    rfl
  obtain ⟨b, hb, hmarked⟩ := exists_underLoop hplain (by decide +kernel) hmark
  obtain ⟨hshows, hcount⟩ := signs_kept hs hb hharmless hreads
  exact ⟨hharmless, hreads, _, b, hs, hb, hmarked, hshows, hcount⟩

/-- A sign with one backslash, which is text outside of loops, is a placeholder in a loop. -/
theorem escape_lost : ¬ ∀ (t : Template) (parameter : Value) (source : Source)
    (b : BoundStatement) (signs : List Sign), ofTemplate "s" t none = .ok source →
      source.bind parameter = .ok b →
      Reads 0 ((PerCallSource.texts ⟨"s", t, none⟩ parameter).map fun e => (0, e.2)) signs →
      Shows b.sql.toList signs ∧ b.mappings.length = signs.count .placeholder := by
  intro h
  have hplain : Template.hasSubstitution "\\#{x}" = false := by decide +kernel
  have hreads : Reads 0 (((underLoop "\\#{x}").texts oneId).map fun e => (0, e.2)) [.literal] := by
    have hx : Signed false 0 ([] ++ (sign 1 ++ "x\x7d".toList)) [.literal] :=
      .literal .nil (by decide) (by decide) (.bare (by decide))
    rw [texts_underLoop hplain]
    exact .single hx
  have hmark : Placeholder.mark (Text.trim (ids.joined [ids.roundText 0 ("\\#{x}" ++ " ")] ++
      " ")) = .ok ⟨"?", [.ofProperty "x"]⟩ := by decide +kernel
  obtain ⟨b, hb, hmarked⟩ := exists_underLoop hplain (by decide +kernel) hmark
  have hmappings : b.mappings = [.ofProperty "x"] := congrArg Placeholder.Marked.mappings hmarked
  obtain ⟨-, hcount⟩ := h _ oneId (.perCall (underLoop "\\#{x}")) b [.literal] rfl hb hreads
  rw [hmappings] at hcount
  cases hcount

end Source

end MappedSql
