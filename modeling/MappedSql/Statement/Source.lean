import MappedSql.Statement.Bound
import MappedSql.Template.Compose
import MappedSql.Template.Reading

/- Sources of bound statements.

   A template that does not depend on the parameter is composed once, over the null
   parameter, when its source is made. Any other is composed for each parameter; what
   its placeholders may use is the final side table over the two reserved names. -/
namespace MappedSql

/-- A template of a statement with the id that its errors name. -/
structure PerCallSource where
  id : String
  template : Template
  databaseId : Option String

/-- Where the bound statements of a statement come from. -/
inductive Source where
  | fixed (m : Placeholder.Marked)
  | perCall (s : PerCallSource)

namespace PerCallSource

/-- The composed text and state of the template for a parameter, the placeholders marked. -/
def composed (s : PerCallSource) (parameter : Value) :
    Except Template.Error (Placeholder.Marked × Composition) :=
  let (r, c) := (s.template.compose .standard).run (Composition.start parameter s.databaseId)
  match r with
  | .error e => .error (.composing s.id e)
  | .ok _ =>
    match Placeholder.mark c.sql with
    | .ok m => .ok (m, c)
    | .error e => .error (.composing s.id (.placeholder e))

/-- The two reserved names with their values at the end of a composition. -/
def reserved (c : Composition) : Fields :=
  Fields.ofList ([Bindings.parameterName, Bindings.databaseIdName].map fun name =>
    (name, (Fields.get? c.bindings name).getD .null))

def bind (s : PerCallSource) (parameter : Value) : Except Template.Error BoundStatement := do
  let (m, c) ← s.composed parameter
  return ⟨m.sql, m.mappings, parameter, Fields.overlay (reserved c) c.side⟩

end PerCallSource

namespace Source

def ofTemplate (id : String) (t : Template) (databaseId : Option String) :
    Except Template.Error Source :=
  let s : PerCallSource := ⟨id, t, databaseId⟩
  if t.isDynamic then .ok (.perCall s)
  else do
    let (m, _) ← s.composed .null
    return .fixed m

def read (fragments : Fragments) (ns databaseId : Option String) (id script : String) :
    Except Template.Error Source := do
  ofTemplate id (← Template.read fragments ns script) databaseId

def bind (s : Source) (parameter : Value) : Except Template.Error BoundStatement :=
  match s with
  | .fixed m => .ok ⟨m.sql, m.mappings, parameter, []⟩
  | .perCall s => s.bind parameter

/-- Whether the statement is composed for each parameter. -/
def isDynamic : Source → Bool
  | .fixed _ => false
  | .perCall _ => true

end Source

end MappedSql
