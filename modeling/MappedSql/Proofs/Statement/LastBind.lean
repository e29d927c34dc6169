import Mathlib
import MappedSql.Proofs.Statement.Values
import MappedSql.Proofs.Template.Uses

/- Which binding a placeholder reads.

   What is evaluated while a template is composed, a test, a collection, a substitution or the
   source of a binding, sees what was bound last before it and is still in scope: this is how the
   walk over the template is made. A placeholder is resolved when the composition is over. It
   reads what was bound last under its name in the whole composition, in scope or not
   (`PerCallSource.bind_walk`), which is what was bound last before it only if the name is not
   bound again (`PerCallSource.later_bind_matters`). -/
namespace MappedSql

open Bindings (parameterName databaseIdName)

namespace PerCallSource

variable {parameter : Value} {databaseId : Option String} {p : Walked String} {c : Composition}

theorem get?_reserved (c : Composition) (name : String) : Fields.get? (reserved c) name =
    if name = databaseIdName ∨ name = parameterName then
      some ((Fields.get? c.bindings name).getD .null) else none := by
  simp only [reserved, Fields.ofList, List.map_cons, List.map_nil, List.foldl_cons,
    List.foldl_nil, Fields.get?_insert, Fields.get?]
  by_cases hd : name = databaseIdName
  · simp [hd]
  · have hne : parameterName ≠ databaseIdName := by decide
    by_cases hp : name = parameterName <;> simp [hd, hp, hne]

/-- A reserved name for which nothing is left has the value that the composition started from. -/
theorem get?_bindings_reserved (h : Walked.Reaches (Bindings.start parameter databaseId) []
    (Composition.start parameter databaseId) p p.result c) {name : String}
    (hname : name = databaseIdName ∨ name = parameterName) (hleft : p.left.lookup name = none) :
    Fields.get? c.bindings name = Fields.get? (Bindings.start parameter databaseId) name := by
  have hbound : p.bound.lookup name = none := by
    refine List.lookup_eq_none_iff.2 fun e he => bne_iff_ne.2 fun heq => ?_
    rcases h.bound e he with hvalue | hmem
    · rw [heq, hvalue] at hname
      revert hname
      decide
    · exact absurd (List.lookup_eq_none_iff.1 hleft e hmem) (by simp [heq])
  rw [h.bindings, List.append_nil, Scope.get?_bindings, hbound]
  rfl

/-- The side table of a statement has what was left for placeholders, the latest under each name,
and else the reserved names with the values that the composition started from. -/
theorem get?_side (h : Walked.Reaches (Bindings.start parameter databaseId) []
    (Composition.start parameter databaseId) p p.result c) (name : String) :
    Fields.get? (Fields.overlay (reserved c) c.side) name =
      (p.left.lookup name <|> Fields.get? (Bindings.start parameter databaseId) name) := by
  have hside : c.side = Scope.bindings [] p.left := h.side
  have hordered : Fields.Ordered c.side := hside ▸ Scope.ordered_bindings .nil p.left
  rw [Fields.get?_overlay _ hordered, hside, Scope.get?_bindings, get?_reserved]
  cases hleft : p.left.lookup name with
  | some v => rfl
  | none =>
    -- The reserved names are read from the bindings at the end, where they may have been bound to
    -- something else; but then that is left for placeholders too.
    by_cases hname : name = databaseIdName ∨ name = parameterName
    · rw [if_pos hname, get?_bindings_reserved h hname hleft, Bindings.get?_start]
      rcases hname with rfl | rfl <;> rfl
    · rw [if_neg hname, Bindings.get?_start]
      rw [not_or] at hname
      rw [if_neg hname.1, if_neg hname.2]
      rfl

/-- The text of the walk is the one that is marked. -/
theorem sql_walked (h : Walked.Reaches (Bindings.start parameter databaseId) []
    (Composition.start parameter databaseId) p p.result c) : c.sql = Text.trim p.result := by
  have houter : c.outer = [] := h.outer
  have hbuffer : c.buffer = p.result := h.buffer.trans String.empty_append
  rw [Composition.sql, houter, hbuffer]
  rfl

/-- A mapping of the statement reads what is left in the end. -/
theorem valueOf_walked (h : Walked.Reaches (Bindings.start parameter databaseId) []
    (Composition.start parameter databaseId) p p.result c) (sql : String)
    (ms : List ParameterMapping) (q : ParameterMapping) :
    BoundStatement.valueOf ⟨sql, ms, parameter, Fields.overlay (reserved c) c.side⟩ q =
      Scope.valueOf (Bindings.start parameter databaseId) parameter p.left q := by
  rw [Scope.valueOf, ← get?_side h]
  exact BoundStatement.valueOf_eq _ q

/-- In the scope of a text, a mapping whose name is not bound again reads what is left in the
end. -/
theorem valueOf_left {t : Template} {start : Bindings}
    (hwalk : t.walk .standard start [] 0 = .ok p) {u : Use} (hu : u ∈ p.uses)
    {q : ParameterMapping} (hwritten : IsWritten (Path.root q.property))
    (hrebinds : t.rebinds (Path.root q.property) = false)
    (haround : Path.root q.property ∉ u.around) :
    ∃ later, p.left = later ++ u.earlier ∧ ((∀ e ∈ later, e.1 ≠ Path.root q.property) →
      Scope.valueOf start parameter p.left q = Scope.valueOf start parameter u.scope q) := by
  have hfaithful := t.walk_faithful .standard start hwritten [] 0 hrebinds hwalk
  obtain ⟨later, hlater⟩ := hfaithful.earlier u hu
  refine ⟨later, hlater, fun hnot => ?_⟩
  have hlookup : u.scope.lookup (Path.root q.property) = p.left.lookup (Path.root q.property) := by
    rw [hfaithful.uses u hu haround [] rfl, List.append_nil, hlater,
      Scope.lookup_append_of_ne hnot]
  rw [Scope.valueOf, Scope.valueOf, hlookup]

/-- A statement is made of what the walk over its template comes to, the text with its placeholders
marked and the side table that the walk leaves. -/
theorem bind_walked (s : PerCallSource) (parameter : Value) :
    match s.template.walk .standard (Bindings.start parameter s.databaseId) [] 0 with
    | .error e => s.bind parameter = .error (.composing s.id e)
    | .ok p => ∃ c, Walked.Reaches (Bindings.start parameter s.databaseId) []
        (Composition.start parameter s.databaseId) p p.result c ∧
      match Placeholder.mark (Text.trim p.result) with
      | .error e => s.bind parameter = .error (.composing s.id (.placeholder e))
      | .ok m => s.bind parameter =
        .ok ⟨m.sql, m.mappings, parameter, Fields.overlay (reserved c) c.side⟩ := by
  have htracks := s.template.compose_walks .standard
    (Bindings.ordered_start parameter s.databaseId) []
    (Composition.start parameter s.databaseId) rfl
  rw [show (Composition.start parameter s.databaseId).counter = 0 from rfl] at htracks
  rw [PerCallSource.bind, composed]
  cases hwalk : s.template.walk .standard (Bindings.start parameter s.databaseId) [] 0 with
  | error e =>
    rw [hwalk] at htracks
    obtain ⟨c, hc⟩ := htracks
    rw [show (s.template.compose .standard).run _ = _ from hc]
    rfl
  | ok p =>
    rw [hwalk] at htracks
    obtain ⟨a, c, hc, h⟩ := htracks
    rw [show (s.template.compose .standard).run _ = _ from hc]
    refine ⟨c, h, ?_⟩
    dsimp only
    rw [sql_walked h]
    cases Placeholder.mark (Text.trim p.result) <;> rfl

/-- A statement that is composed for each call is what the walk over its template comes to. Every
mapping reads what was left last under its first name in the whole walk. In the scope of a text
this is the value of the name, if no loop around the text or around a binding of the name has
it as a variable, and it is not bound again after the text. -/
theorem bind_walk (s : PerCallSource) (parameter : Value) :
    match s.template.walk .standard (Bindings.start parameter s.databaseId) [] 0 with
    | .error e => s.bind parameter = .error (.composing s.id e)
    | .ok p =>
      match Placeholder.mark (Text.trim p.result) with
      | .error e => s.bind parameter = .error (.composing s.id (.placeholder e))
      | .ok m => ∃ b, s.bind parameter = .ok b ∧ b.sql = m.sql ∧ b.mappings = m.mappings ∧
        (∀ q : ParameterMapping, b.valueOf q =
          Scope.valueOf (Bindings.start parameter s.databaseId) parameter p.left q) ∧
        ∀ u ∈ p.uses, ∀ q : ParameterMapping, IsWritten (Path.root q.property) →
          s.template.rebinds (Path.root q.property) = false → Path.root q.property ∉ u.around →
          ∃ later, p.left = later ++ u.earlier ∧ ((∀ e ∈ later, e.1 ≠ Path.root q.property) →
            b.valueOf q =
              Scope.valueOf (Bindings.start parameter s.databaseId) parameter u.scope q) := by
  have hbind := s.bind_walked parameter
  cases hwalk : s.template.walk .standard (Bindings.start parameter s.databaseId) [] 0 with
  | error e =>
    rw [hwalk] at hbind
    exact hbind
  | ok p =>
    rw [hwalk] at hbind
    obtain ⟨c, h, hbind⟩ := hbind
    dsimp only
    cases hmark : Placeholder.mark (Text.trim p.result) with
    | error e =>
      rw [hmark] at hbind
      exact hbind
    | ok m =>
      rw [hmark] at hbind
      have hvalue := valueOf_walked h m.sql m.mappings
      refine ⟨_, hbind, rfl, rfl, hvalue, fun u hu q hwritten hrebinds haround => ?_⟩
      obtain ⟨later, hlater, heq⟩ := valueOf_left hwalk hu hwritten hrebinds haround
      exact ⟨later, hlater, fun hnot => (hvalue q).trans (heq hnot)⟩

/-! ## A name that is bound twice -/

/-- A placeholder after a binding of its name. -/
def boundOnce : List Template := [.bind "a" "1", .text "#{a}"]

/-- The name is bound again behind the placeholder. -/
def boundTwice : PerCallSource := ⟨"s", .block (boundOnce ++ [.bind "a" "2"]), none⟩

theorem walk_boundTwice :
    boundTwice.template.walk .standard (Bindings.start (.obj []) none) [] 0 =
      .ok ⟨"#{a} ", [("a", .ofNat 2), ("a", .ofNat 1)], [("a", .ofNat 2), ("a", .ofNat 1)], 0,
        [⟨"#{a}", [("a", .ofNat 1)], [("a", .ofNat 1)], []⟩]⟩ := by
  cbv

/-- The placeholder reads the later value. -/
theorem bind_walk_boundTwice : ∃ b, boundTwice.bind (.obj []) = .ok b ∧
    b.mappings = [.ofProperty "a"] ∧ b.valueOf (.ofProperty "a") = .ok (.ofNat 2) := by
  have hwalk := bind_walk boundTwice (.obj [])
  have hmark : Placeholder.mark (Text.trim "#{a} ") = .ok ⟨"?", [.ofProperty "a"]⟩ := by
    decide +kernel
  rw [show boundTwice.databaseId = none from rfl, walk_boundTwice] at hwalk
  dsimp only at hwalk
  rw [hmark] at hwalk
  obtain ⟨b, hb, -, hmappings, hvalue, -⟩ := hwalk
  refine ⟨b, hb, hmappings, (hvalue _).trans ?_⟩
  cbv

/-- A binding behind a placeholder changes what it reads. -/
theorem later_bind_matters : ¬ ∀ (parts : List Template) (name source : String)
    (parameter : Value) (b b' : BoundStatement),
    PerCallSource.bind ⟨"s", .block parts, none⟩ parameter = .ok b →
      PerCallSource.bind ⟨"s", .block (parts ++ [.bind name source]), none⟩ parameter = .ok b' →
      b'.sql = b.sql → b'.values.toOption = b.values.toOption := by
  intro h
  have hone : (PerCallSource.bind ⟨"s", .block boundOnce, none⟩ (.obj [])).toOption.map
      (fun b => (b.sql, b.values.toOption)) = some ("?", some [.ofNat 1]) := by cbv
  have htwo : (boundTwice.bind (.obj [])).toOption.map
      (fun b => (b.sql, b.values.toOption)) = some ("?", some [.ofNat 2]) := by cbv
  cases hb : PerCallSource.bind ⟨"s", .block boundOnce, none⟩ (.obj []) with
  | error e =>
    rw [hb] at hone
    cases hone
  | ok b =>
    cases hb' : boundTwice.bind (.obj []) with
    | error e =>
      rw [hb'] at htwo
      cases htwo
    | ok b' =>
      rw [hb] at hone
      rw [hb'] at htwo
      obtain ⟨hsql, hvalues⟩ := Prod.mk.inj (Option.some.inj hone)
      obtain ⟨hsql', hvalues'⟩ := Prod.mk.inj (Option.some.inj htwo)
      have heq := h boundOnce "a" "2" (.obj []) b b' hb hb' (hsql'.trans hsql.symm)
      rw [hvalues, hvalues'] at heq
      cases heq

end PerCallSource

end MappedSql
