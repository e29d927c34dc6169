import MappedSql.Expression.Path
import MappedSql.Parameter.Mapping

/- A statement bound to a parameter.

   The mappings stand in the order of the `?` of the text. A mapping whose first name
   is in the side table takes its value from there; else a null parameter supplies
   null, a simple parameter supplies itself, and any other parameter is read at the
   property. -/
namespace MappedSql

/-- The text of a statement with the mappings of its parameters, the parameter, and the names
that come before its properties. -/
structure BoundStatement where
  sql : String
  mappings : List ParameterMapping
  parameter : Value
  side : Fields

namespace BoundStatement

/-- Whether the first name of the path is in the side table. -/
def hasSide (b : BoundStatement) (path : String) : Bool := Fields.has b.side (Path.root path)

/-- The value of a path whose first name is in the side table. -/
def sideValue (b : BoundStatement) (path : String) : Except Expression.Error (Option Value) :=
  match Fields.get? b.side (Path.root path) with
  | some v => (v.readBelow (Path.tail path)).map some
  | none => .ok none

def setSide (b : BoundStatement) (name : String) (v : Value) : BoundStatement :=
  { b with side := Fields.insert name v b.side }

def valueOf (b : BoundStatement) (m : ParameterMapping) : Except Expression.Error Value := do
  match ← b.sideValue m.property with
  | some v => return v
  | none =>
    match b.parameter with
    | .null => return .null
    | v => if v.isSimple then return v else v.read m.property

/-- The values of the parameters that the statement reads, in the order of their marks. -/
def values (b : BoundStatement) : Except Expression.Error (List Value) :=
  (b.mappings.filter (·.mode != .output)).mapM b.valueOf

end BoundStatement

end MappedSql
