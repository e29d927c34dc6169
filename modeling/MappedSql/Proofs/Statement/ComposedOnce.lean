import Mathlib
import MappedSql.Proofs.Statement.Values

/- Statements that are composed once.

   A template without substitutions and without dynamic parts writes the same text in every
   state (`Template.compose_fixed`), so composing it once, over null, is as good as composing it
   for each call: both sources fail with one error, and else give one text with one list of
   mappings (`Source.fixed_agrees`). The values agree as well, as long as no placeholder begins
   with a reserved name. Only a statement that is composed for each call knows those names; a
   fixed one looks for a property of that name (`Source.reserved_names_differ`). -/
namespace MappedSql

namespace Template

mutual

/-- The text of a template without dynamic parts: its texts, each with a blank behind it. -/
def written : Template → String
  | .text s => s ++ " "
  | .block parts => writtenAll parts
  | _ => ""

def writtenAll : List Template → String
  | [] => ""
  | t :: rest => t.written ++ writtenAll rest

end

section

variable (ev : Evaluator)

mutual

/-- What a template without dynamic parts writes does not depend on the state it is composed in. -/
theorem compose_fixed : ∀ (t : Template), t.isDynamic = false → ∀ c : Composition,
    t.compose ev c = (.ok true, { c with buffer := c.buffer ++ t.written })
  | .text s, h, c => by
    rw [isDynamic] at h
    rw [compose, Compose.text, if_neg (by simp [h]), written, ← String.append_assoc]
    rfl
  | .block parts, h, c => by
    rw [isDynamic] at h
    rw [compose, Compose.bind_ok _ (composeAll_fixed parts h c), written]
    rfl
  | .test .., h, _ | .choose .., h, _ | .trim .., h, _ | .loop .., h, _ | .bind .., h, _ => by
    simp [isDynamic] at h

theorem composeAll_fixed : ∀ (parts : List Template), anyDynamic parts = false →
    ∀ c : Composition,
      composeAll ev parts c = (.ok (), { c with buffer := c.buffer ++ writtenAll parts })
  | [], _, c => by
    rw [composeAll, writtenAll, String.append_empty]
    rfl
  | t :: rest, h, c => by
    rw [anyDynamic, Bool.or_eq_false_iff] at h
    have hfirst : (discard (t.compose ev) : Compose Unit) c =
        (.ok (), { c with buffer := c.buffer ++ t.written }) := by
      rw [Compose.discard_eq, Compose.bind_ok _ (compose_fixed t h.1 c)]
      rfl
    rw [composeAll, Compose.bind_ok _ hfirst, composeAll_fixed rest h.2, writtenAll,
      String.append_assoc]

end

end

end Template

/-- Whether a composition starts with a value of this name. -/
def Bindings.isReserved (name : String) : Bool := name == parameterName || name == databaseIdName

theorem Bindings.get?_start_of_not_isReserved {name : String} (h : isReserved name = false)
    (parameter : Value) (databaseId : Option String) :
    Fields.get? (start parameter databaseId) name = none := by
  simp only [isReserved, Bool.or_eq_false_iff, beq_eq_false_iff_ne] at h
  rw [get?_start, if_neg h.2, if_neg h.1]

namespace PerCallSource

/-- A composition of a template without dynamic parts leaves nothing but its text in the state,
whatever the parameter. -/
theorem composed_fixed {s : PerCallSource} (h : s.template.isDynamic = false)
    (parameter : Value) : s.composed parameter =
      match Placeholder.mark (Text.trim s.template.written) with
      | .ok m => .ok (m,
          { Composition.start parameter s.databaseId with buffer := s.template.written })
      | .error e => .error (.composing s.id (.placeholder e)) := by
  have hrun : (s.template.compose .standard).run (Composition.start parameter s.databaseId) =
      (.ok true, { Composition.start parameter s.databaseId with
        buffer := "" ++ s.template.written }) := s.template.compose_fixed .standard h _
  rw [composed, hrun, String.empty_append]
  rfl

/-- A template without dynamic parts binds a parameter to the statement that its text writes, with
the reserved names beside the parameter. -/
theorem bind_fixed {s : PerCallSource} (h : s.template.isDynamic = false) (parameter : Value) :
    s.bind parameter = match Placeholder.mark (Text.trim s.template.written) with
      | .ok m => .ok ⟨m.sql, m.mappings, parameter, Bindings.start parameter s.databaseId⟩
      | .error e => .error (.composing s.id (.placeholder e)) := by
  let c := { Composition.start parameter s.databaseId with buffer := s.template.written }
  have hside : Fields.overlay (reserved c) c.side = Bindings.start parameter s.databaseId :=
    reserved_eq (c := c) rfl
  rw [bind, composed_fixed h, ← hside]
  cases Placeholder.mark (Text.trim s.template.written) <;> rfl

end PerCallSource

/-- The fixed source of a template without dynamic parts is the statement that its text writes. -/
theorem Source.ofTemplate_fixed {t : Template} (h : t.isDynamic = false) (id : String)
    (databaseId : Option String) : ofTemplate id t databaseId =
      match Placeholder.mark (Text.trim t.written) with
      | .ok m => .ok (.fixed m)
      | .error e => .error (.composing id (.placeholder e)) := by
  rw [ofTemplate, h, if_neg (by simp), PerCallSource.composed_fixed h]
  cases Placeholder.mark (Text.trim t.written) <;> rfl

namespace BoundStatement

/-- Statements that give every mapping which they read the same value have the same values. -/
theorem values_congr {b b' : BoundStatement} (hm : b.mappings = b'.mappings)
    (hv : ∀ m ∈ b.mappings, m.mode ≠ .output → b.valueOf m = b'.valueOf m) :
    b.values = b'.values := by
  have hread : ∀ m ∈ b.mappings.filter (·.mode != .output), b.valueOf m = b'.valueOf m := by
    intro m hmem
    obtain ⟨hmem, hmode⟩ := List.mem_filter.1 hmem
    exact hv m hmem (by simpa using hmode)
  rw [values, values, ← hm]
  generalize b.mappings.filter (·.mode != .output) = read at hread ⊢
  induction read with
  | nil => rfl
  | cons m rest ih =>
    rw [List.mapM_cons, List.mapM_cons, hread m List.mem_cons_self,
      ih fun m' hmem => hread m' (List.mem_cons_of_mem m hmem)]

end BoundStatement

namespace Source

/-- The fixed source of a template and the one that composes it for each call fail with one error,
or bind a parameter to one text with one list of mappings. The fixed one has all values supplied
by the parameter, the other one knows the reserved names; where no placeholder that is read begins
with one, the values are the same. -/
theorem fixed_agrees (id : String) (t : Template) (databaseId : Option String)
    (parameter : Value) (h : t.isDynamic = false) :
    (∃ e, ofTemplate id t databaseId = .error (.composing id e) ∧
      PerCallSource.bind ⟨id, t, databaseId⟩ parameter = .error (.composing id e)) ∨
    ∃ source fixed perCall, ofTemplate id t databaseId = .ok source ∧ source.isDynamic = false ∧
      source.bind parameter = .ok fixed ∧
      PerCallSource.bind ⟨id, t, databaseId⟩ parameter = .ok perCall ∧
      fixed.sql = perCall.sql ∧ fixed.mappings = perCall.mappings ∧
      (∀ m, fixed.valueOf m = Scope.supplied parameter m) ∧
      (∀ m, perCall.valueOf m =
        Scope.valueOf (Bindings.start parameter databaseId) parameter [] m) ∧
      ((∀ m ∈ fixed.mappings, m.mode ≠ .output →
        Bindings.isReserved (Path.root m.property) = false) → fixed.values = perCall.values) := by
  rw [ofTemplate_fixed h, PerCallSource.bind_fixed h]
  cases Placeholder.mark (Text.trim t.written) with
  | error e => exact .inl ⟨_, rfl, rfl⟩
  | ok m =>
    have hfixed : ∀ p, BoundStatement.valueOf ⟨m.sql, m.mappings, parameter, []⟩ p =
        Scope.supplied parameter p := fun p => BoundStatement.valueOf_eq _ p
    have hperCall : ∀ p, BoundStatement.valueOf ⟨m.sql, m.mappings, parameter,
        Bindings.start parameter databaseId⟩ p =
        Scope.valueOf (Bindings.start parameter databaseId) parameter [] p :=
      fun p => BoundStatement.valueOf_eq _ p
    refine .inr ⟨_, _, _, rfl, rfl, rfl, rfl, rfl, rfl, hfixed, hperCall, fun hroots => ?_⟩
    refine BoundStatement.values_congr rfl fun p hp hmode => ?_
    have hnone := Bindings.get?_start_of_not_isReserved (hroots p hp hmode) parameter databaseId
    rw [hfixed, hperCall, Scope.valueOf, hnone]
    rfl

/-- A template of two texts. -/
def byId : Template := .block [.text "select * from users", .text "where id = #{id}"]

theorem mark_byId : Placeholder.mark (Text.trim byId.written) =
    .ok ⟨"select * from users where id = ?", [.ofProperty "id"]⟩ := by
  decide +kernel

theorem fixed_agrees_byId : byId.isDynamic = false ∧
    ∃ source fixed perCall, ofTemplate "s" byId (some "pg") = .ok source ∧
      source.bind (.obj [("id", .ofNat 7)]) = .ok fixed ∧
      PerCallSource.bind ⟨"s", byId, some "pg"⟩ (.obj [("id", .ofNat 7)]) = .ok perCall ∧
      fixed.sql = perCall.sql ∧ fixed.sql = "select * from users where id = ?" ∧
      fixed.values = perCall.values ∧ fixed.values.toOption = some [.ofNat 7] := by
  have h : byId.isDynamic = false := by decide +kernel
  have hsource := ofTemplate_fixed h "s" (some "pg")
  rw [mark_byId] at hsource
  rcases fixed_agrees "s" byId (some "pg") (.obj [("id", .ofNat 7)]) h with
    ⟨e, he, -⟩ | ⟨source, fixed, perCall, hs, -, hf, hp, hsql, -, -, -, hvalues⟩
  · rw [he] at hsource
    cases hsource
  · rw [hs] at hsource
    cases hsource
    cases hf
    refine ⟨h, _, _, perCall, hs, rfl, hp, hsql, rfl, hvalues ?_, by cbv⟩
    intro m hm _
    rw [List.mem_singleton.1 hm]
    decide +kernel

/-- The id of the database is null to a statement that is composed once. -/
theorem reserved_names_differ : ¬ ∀ (id : String) (t : Template) (databaseId : Option String)
    (parameter : Value) (source : Source) (fixed perCall : BoundStatement),
    t.isDynamic = false → ofTemplate id t databaseId = .ok source →
      source.bind parameter = .ok fixed →
      PerCallSource.bind ⟨id, t, databaseId⟩ parameter = .ok perCall →
      fixed.values.toOption = perCall.values.toOption := by
  intro h
  let t : Template := .text "select #{_databaseId}"
  let m : Placeholder.Marked := ⟨"select ?", [.ofProperty "_databaseId"]⟩
  have ht : t.isDynamic = false := by decide +kernel
  have hmark : Placeholder.mark (Text.trim t.written) = .ok m := by decide +kernel
  have hsource : ofTemplate "s" t (some "pg") = .ok (.fixed m) := by
    rw [ofTemplate_fixed ht, hmark]
  have hperCall : PerCallSource.bind ⟨"s", t, some "pg"⟩ (.obj []) =
      .ok ⟨m.sql, m.mappings, .obj [], Bindings.start (.obj []) (some "pg")⟩ := by
    rw [PerCallSource.bind_fixed ht, hmark]
  have heq := h "s" t (some "pg") (.obj []) _ _ _ ht hsource rfl hperCall
  have hnull : (BoundStatement.values ⟨m.sql, m.mappings, .obj [], []⟩).toOption =
      some [.null] := by cbv
  have hpg : (BoundStatement.values ⟨m.sql, m.mappings, .obj [],
      Bindings.start (.obj []) (some "pg")⟩).toOption = some [.str "pg"] := by cbv
  rw [hnull, hpg] at heq
  cases heq

end Source

end MappedSql
