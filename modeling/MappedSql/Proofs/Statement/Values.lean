import MappedSql.Proofs.Template.Mention
import MappedSql.Proofs.Value.Ordered

/- Where a bound statement has its values from.

   A mapping reads the side table if its first name is there, and else what the parameter
   supplies (`BoundStatement.valueOf_eq`). The side table of a statement that is composed for each
   call begins with the two reserved names, which have the values that the composition starts
   from unless it binds them itself (`PerCallSource.reserved_eq`). -/
namespace MappedSql

open Bindings (parameterName databaseIdName)

theorem Bindings.get?_start (parameter : Value) (databaseId : Option String) (name : String) :
    Fields.get? (start parameter databaseId) name =
      if name = databaseIdName then some ((databaseId.map Value.str).getD .null)
      else if name = parameterName then some parameter else none := by
  simp [start, Fields.ofList]

theorem Bindings.ordered_start (parameter : Value) (databaseId : Option String) :
    Fields.Ordered (start parameter databaseId) := by
  have hnil : Fields.Ordered [] := List.Pairwise.nil
  rw [start, Fields.ofList, List.foldl_cons, List.foldl_cons, List.foldl_nil]
  exact (hnil.insert parameterName parameter).insert databaseIdName _

/-- The reserved names of a statement have the values that a composition starts from. -/
theorem PerCallSource.reserved_eq {c : Composition} {parameter : Value}
    {databaseId : Option String} (h : c.bindings = Bindings.start parameter databaseId) :
    reserved c = Bindings.start parameter databaseId := by
  have hne : parameterName ≠ databaseIdName := by decide
  rw [reserved, h]
  simp only [List.map_cons, List.map_nil, Bindings.get?_start, if_neg hne, if_true,
    Option.getD_some]
  rfl

theorem BoundStatement.valueOf_eq (b : BoundStatement) (m : ParameterMapping) : b.valueOf m =
    match Fields.get? b.side (Path.root m.property) with
    | some v => v.readBelow (Path.tail m.property)
    | none => Scope.supplied b.parameter m := by
  unfold valueOf sideValue
  cases Fields.get? b.side (Path.root m.property) with
  | none => rfl
  | some v =>
    dsimp only
    cases v.readBelow (Path.tail m.property) <;> rfl

end MappedSql
