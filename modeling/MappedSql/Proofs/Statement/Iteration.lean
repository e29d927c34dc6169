import Mathlib
import MappedSql.Proofs.Statement.Values
import MappedSql.Proofs.Template.Rounds

/- Iteration binds every placeholder to the right element.

   The values of a placeholder take a long way: loops rename it level by level, the renamed text
   is read again, and its first name is looked up in one flat table. All the same a statement
   reads the values that its template stands for (`values_lexical`): those of the innermost rounds
   around each placeholder. Only where a text can run into what is pasted behind it, other
   placeholders than those of the template may come about (`seams_matter`). -/
namespace MappedSql

open Placeholder (Contents isRegular firstName withFirst readContent)
open Bindings (parameterName databaseIdName)

/-! ## Values -/

/-- A mapping of a statement that reads the same value as a mapping of the template in its
scope. -/
def Agrees (start : Bindings) (b : BoundStatement) (p : ParameterMapping)
    (e : ParameterMapping × Scope) : Prop :=
  p.mode = e.1.mode ∧ b.valueOf p = e.2.valueOf start b.parameter e.1

section

variable {start : Bindings} {side : Fields}

/-- What stands for a placeholder is read when the placeholder is, and then agrees with it. -/
theorem Stands.read {b : BoundStatement} {content : List Char} {m : Mention}
    (h : Stands side [] content m) (hordered : Fields.Ordered side)
    (hside : ∀ name v, Fields.get? side name = some v →
      ∃ n number, name = Loop.freshName n number)
    (hb : b.side = Fields.overlay start side) :
    match m.read with
    | none => ∃ e, Placeholder.read (String.ofList content) = .error e
    | some e => ∃ p, Placeholder.read (String.ofList content) = .ok p ∧ Agrees start b p e := by
  have hlookup : ∀ name, Fields.get? b.side name =
      (Fields.get? side name <|> Fields.get? start name) := by
    intro name
    rw [hb, Fields.get?_overlay start hordered]
  rw [Mention.read, Placeholder.read, String.toList_ofList]
  cases h with
  | kept hr hc hs =>
    subst hc
    cases hp : readContent m.content with
    | error e => exact ⟨_, rfl⟩
    | ok p =>
      refine ⟨p, rfl, rfl, ?_⟩
      have hroot := Placeholder.root_of_readContent hr hp
      -- no fresh name is the first name of a placeholder of the template
      have hnone : Fields.get? side (Path.root p.property) = none := by
        cases hv : Fields.get? side (Path.root p.property) with
        | none => rfl
        | some v =>
          obtain ⟨n, number, hname⟩ := hside _ v hv
          rw [hroot] at hname
          refine absurd ?_ (Stands.firstName_ne hr n number)
          rw [← hname, String.toList_ofList]
      rw [BoundStatement.valueOf_eq, Scope.valueOf, hlookup, hnone, hroot, hs]
      rfl
  | renamed hr name number v hn hf hc hv hs =>
    obtain ⟨herror, hok⟩ :=
      Placeholder.readContent_fresh hr hf hn (Loop.isName_freshName hn number)
    rw [← hc] at herror hok
    cases hp : readContent m.content with
    | error e =>
      rw [herror e hp]
      exact ⟨_, rfl⟩
    | ok p =>
      obtain ⟨p', hp', hmode, hroot, hroot', htail⟩ := hok p hp
      rw [hp']
      refine ⟨p', rfl, hmode, ?_⟩
      rw [String.ofList_toList] at hroot hroot'
      rw [BoundStatement.valueOf_eq, Scope.valueOf, hlookup, hroot', hroot, hv, hs, htail]
      rfl

theorem Stands.readAll {b : BoundStatement} {contents : List (List Char)} {ms : List Mention}
    (h : List.Forall₂ (Stands side []) contents ms) (hordered : Fields.Ordered side)
    (hside : ∀ name v, Fields.get? side name = some v →
      ∃ n number, name = Loop.freshName n number)
    (hb : b.side = Fields.overlay start side) :
    match ms.mapM Mention.read with
    | none => ∃ e,
      (contents.mapM fun content => Placeholder.read (String.ofList content)) = .error e
    | some read => ∃ ps,
      (contents.mapM fun content => Placeholder.read (String.ofList content)) = .ok ps ∧
        List.Forall₂ (Agrees start b) ps read := by
  induction h with
  | nil => exact ⟨[], rfl, .nil⟩
  | @cons content m contents ms hm _ ih =>
    have hread := hm.read hordered hside hb
    rw [List.mapM_cons, List.mapM_cons]
    cases hm : m.read with
    | none =>
      rw [hm] at hread
      obtain ⟨e, he⟩ := hread
      exact ⟨e, by rw [he]; rfl⟩
    | some e =>
      rw [hm] at hread
      obtain ⟨p, hp, hagrees⟩ := hread
      rw [hp]
      cases hms : ms.mapM Mention.read with
      | none =>
        rw [hms] at ih
        obtain ⟨e', he'⟩ := ih
        exact ⟨e', by rw [he']; rfl⟩
      | some read =>
        rw [hms] at ih
        obtain ⟨ps, hps, hall⟩ := ih
        exact ⟨p :: ps, by rw [hps]; rfl, .cons hagrees hall⟩

/-- Mappings that agree read the same values. -/
theorem Agrees.values {b : BoundStatement} {ps : List ParameterMapping}
    {read : List (ParameterMapping × Scope)} (h : List.Forall₂ (Agrees start b) ps read) :
    ((ps.filter (·.mode != .output)).mapM b.valueOf).toOption =
      (read.filter fun e => e.1.mode != .output).mapM fun e =>
        (e.2.valueOf start b.parameter e.1).toOption := by
  induction h with
  | nil => rfl
  | @cons p e ps read hp _ ih =>
    obtain ⟨hmode, hvalue⟩ := hp
    rw [List.filter_cons, List.filter_cons, hmode]
    split
    · rw [List.mapM_cons, List.mapM_cons, ← ih, hvalue]
      cases e.2.valueOf start b.parameter e.1 with
      | error e => rfl
      | ok v => cases (ps.filter (·.mode != .output)).mapM b.valueOf <;> rfl
    · exact ih

end

/-! ## Statements -/

namespace PerCallSource

/-- The statement of a composition that has gone as the walk over its template. -/
theorem values_composed {s : PerCallSource} {parameter : Value} {c : Composition}
    {ms : List Mention}
    (h : Composed false [] (Composition.start parameter s.databaseId) ms c) :
    ((Placeholder.mark c.sql).toOption.bind fun m =>
      (BoundStatement.mk m.sql m.mappings parameter
        (Fields.overlay (reserved c) c.side)).values.toOption) =
      Mention.valuesOf (Bindings.start parameter s.databaseId) parameter ms := by
  obtain ⟨cs, hcs, ⟨contents, hc, hm⟩, -⟩ := h.text
  have hsql : c.sql = String.ofList (Text.trimmed cs) := by
    have houter : c.outer = [] := h.kept.outer
    have hbuffer : c.buffer.toList = cs := by simpa [Composition.start] using hcs
    rw [Composition.sql, houter, ← hbuffer]
    rfl
  have hmark := hc.trimmed.mark
  have hfresh := h.kept.fresh
  have hside : ∀ name v, Fields.get? c.side name = some v →
      ∃ n number, name = Loop.freshName n number := by
    intro name v hv
    obtain ⟨n, number, hname, -⟩ := hfresh.used name v hv
    exact ⟨n, number, hname⟩
  rw [hsql, reserved_eq h.kept.bindings, Mention.valuesOf]
  let side := Fields.overlay (Bindings.start parameter s.databaseId) c.side
  cases hp : Placeholder.mark (String.ofList (Text.trimmed cs)) with
  | error e =>
    have hnone := Stands.readAll (b := ⟨"", [], parameter, side⟩) hm hfresh.ordered hside rfl
    rw [← hmark, hp] at hnone
    cases hms : ms.mapM Mention.read with
    | none => rfl
    | some read =>
      rw [hms] at hnone
      obtain ⟨ps, hps, -⟩ := hnone
      cases hps
  | ok m =>
    have hsome := Stands.readAll (b := ⟨m.sql, m.mappings, parameter, side⟩) hm hfresh.ordered
      hside rfl
    rw [← hmark, hp] at hsome
    cases hms : ms.mapM Mention.read with
    | none =>
      rw [hms] at hsome
      obtain ⟨e, he⟩ := hsome
      cases he
    | some read =>
      rw [hms] at hsome
      obtain ⟨ps, hps, hagree⟩ := hsome
      cases hps
      exact Agrees.values hagree

/-- A statement reads the values that its template stands for, and fails where the walk over the
template does. -/
theorem values_lexical (s : PerCallSource) (parameter : Value) (hp : s.template.isPlain = true)
    (hs : s.template.isSeamless = true) :
    (s.bind parameter).toOption.bind (·.values.toOption) = s.lexicalValues parameter := by
  let c := Composition.start parameter s.databaseId
  have hfresh : c.Fresh :=
    ⟨Bindings.ordered_start parameter s.databaseId, .nil, fun _ _ hv => by cases hv⟩
  have htracks : Tracks c (s.template.compose .standard)
      (s.template.mentions .standard (Bindings.start parameter s.databaseId) [])
      fun _ ms c' => Composed false [] c ms c' :=
    Template.compose_tracks .standard s.template hp hs hfresh rfl
  rw [lexicalValues, PerCallSource.bind, composed]
  cases hms : s.template.mentions .standard (Bindings.start parameter s.databaseId) [] with
  | error e =>
    rw [hms] at htracks
    obtain ⟨c', hx⟩ := htracks
    rw [show (s.template.compose .standard).run c = _ from hx]
    rfl
  | ok ms =>
    rw [hms] at htracks
    obtain ⟨a, c', hx, hcomposed⟩ := htracks
    rw [show (s.template.compose .standard).run c = _ from hx]
    have hvalues := values_composed hcomposed
    show _ = Mention.valuesOf _ parameter ms
    rw [← hvalues]
    dsimp only
    cases Placeholder.mark c'.sql <;> rfl

/-- A loop over groups within which another loop takes the name of the group. -/
def nested : PerCallSource :=
  ⟨"s", .loop ⟨"g", some "x", none, "", "", ""⟩
    (.loop ⟨"x", some "x", some "k", "(", ")", ","⟩ (.text "#{x}")), none⟩

/-- Two groups of numbers. -/
def groups : Value := .obj [("g", .arr [.arr [.ofNat 1], .arr [.ofNat 2, .ofNat 3]])]

theorem isPlain_nested : nested.template.isPlain = true := by
  have ht : Template.isPlainText "#{x}" = true := by cbv
  simp only [nested, Template.isPlain, Template.every, ht, Bool.and_true]
  decide

theorem values_lexical_nested : nested.template.isPlain = true ∧
    nested.template.isSeamless = true ∧
    (nested.bind groups).toOption.bind (·.values.toOption) =
      some [.ofNat 1, .ofNat 2, .ofNat 3] := by
  have hseamless : nested.template.isSeamless = true := by decide
  have hvalues : nested.lexicalValues groups = some [.ofNat 1, .ofNat 2, .ofNat 3] := by cbv
  refine ⟨isPlain_nested, hseamless, ?_⟩
  rw [values_lexical nested groups isPlain_nested hseamless, hvalues]

/-- A loop whose opening makes an opening sign together with its body. -/
def glued : PerCallSource :=
  ⟨"s", .loop ⟨"g", some "x", none, "#", "", ""⟩ (.text "{x}"), none⟩

theorem isPlain_glued : glued.template.isPlain = true := by
  have ht : Template.isPlainText "{x}" = true := by cbv
  simp only [glued, Template.isPlain, Template.every, ht, Bool.and_true]
  decide

/-- The template has no placeholders, and its statement reads a value all the same. -/
theorem seams_matter : ¬ ∀ (s : PerCallSource) (parameter : Value),
    s.template.isPlain = true →
      (s.bind parameter).toOption.bind (·.values.toOption) = s.lexicalValues parameter := by
  intro h
  let one : Value := .obj [("g", .arr [.null])]
  have hrun : (glued.bind one).toOption.bind (·.values.toOption) = some [.null] := by cbv
  have hwalk : glued.lexicalValues one = some [] := by cbv
  have heq := h glued one isPlain_glued
  rw [hrun, hwalk] at heq
  cases heq

end PerCallSource

end MappedSql
