import MappedSql.Expression.Error

/- The names that an expression can use.

   A composition starts from two reserved names: the parameter itself and the id of
   the database. A name that is not bound reads a field of the parameter when that
   is an object, where a missing field is null. -/
namespace MappedSql

/-- The names bound during a composition, with their values. -/
abbrev Bindings := Fields

namespace Bindings

def parameterName : String := "_parameter"

def databaseIdName : String := "_databaseId"

def start (parameter : Value) (databaseId : Option String) : Bindings :=
  Fields.ofList [(parameterName, parameter),
    (databaseIdName, (databaseId.map Value.str).getD .null)]

/-- The parameter, as it is bound at present. -/
def parameter (b : Bindings) : Value := (Fields.get? b parameterName).getD .null

/-- The value of a name: what is bound to it, or a field of the parameter. -/
def resolve (b : Bindings) (name : String) : Except Expression.Error Value :=
  match Fields.get? b name with
  | some v => .ok v
  | none =>
    match b.parameter with
    | .obj f => .ok ((Fields.get? f name).getD .null)
    | _ => .error (.undefined name)

end Bindings

end MappedSql
