import MappedSql.Mapper.Settings
import MappedSql.Statement.Command

/- Definitions of namespaces, as documents give them. -/
namespace MappedSql

/-- A fragment that scripts may include. -/
structure FragmentDefinition where
  id : String
  script : String
  deriving DecidableEq, Repr

namespace FragmentDefinition

def fieldNames : List String := ["id", "script"]

def decode (c : Conversions) (d : Document) : Option FragmentDefinition := do
  let field ← c.record? fieldNames d
  return {
    id := ← Conversions.required c.text? (field "id")
    script := ← Conversions.required c.text? (field "script") }

end FragmentDefinition

/-- A statement. -/
structure StatementDefinition where
  id : String
  command : Command
  script : String
  preparation : Preparation
  /-- Whether it flushes its cache; if it does not say, all but selects do. -/
  flushes : Option Bool
  /-- Whether its results are cached; if it does not say, those of selects are. -/
  usesCache : Option Bool
  timeout : Option Nat
  /-- The database it is for, if not for any. -/
  databaseId : Option String
  deriving DecidableEq, Repr

namespace StatementDefinition

def fieldNames : List String :=
  ["id", "command", "script", "statement_type", "flush_cache", "use_cache", "timeout",
    "database_id"]

def decode (c : Conversions) (d : Document) : Option StatementDefinition := do
  let field ← c.record? fieldNames d
  return {
    id := ← Conversions.required c.text? (field "id")
    command := ← Conversions.required (c.keyword? Command.ofKeyword?) (field "command")
    script := ← Conversions.required c.text? (field "script")
    preparation := ← Conversions.orElse .prepared
      (c.keyword? Preparation.ofKeyword?) (field "statement_type")
    flushes := ← c.optional c.bool? (field "flush_cache")
    usesCache := ← c.optional c.bool? (field "use_cache")
    timeout := ← c.optional c.nat? (field "timeout")
    databaseId := ← c.optional c.text? (field "database_id") }

end StatementDefinition

/-- A namespace with its cache, its fragments and its statements. -/
structure NamespaceDefinition where
  ns : String
  cache : Option CacheConfig
  cacheRef : Option String
  fragments : List FragmentDefinition
  statements : List StatementDefinition
  deriving DecidableEq, Repr

namespace NamespaceDefinition

def fieldNames : List String := ["namespace", "cache", "cache_ref", "fragments", "statements"]

def decode (c : Conversions) (d : Document) : Option NamespaceDefinition := do
  let field ← c.record? fieldNames d
  return {
    ns := ← Conversions.required c.text? (field "namespace")
    cache := ← c.optional (CacheConfig.decode c) (field "cache")
    cacheRef := ← c.optional c.text? (field "cache_ref")
    fragments := ← Conversions.orElse []
      (Conversions.items? (FragmentDefinition.decode c)) (field "fragments")
    statements := ← Conversions.orElse []
      (Conversions.items? (StatementDefinition.decode c)) (field "statements") }

/-- The statements in the order in which they are registered: those for one database first, so
that they come before those for any. -/
def inOrder (d : NamespaceDefinition) : List StatementDefinition :=
  d.statements.filter (·.databaseId.isSome) ++ d.statements.filter (·.databaseId.isNone)

end NamespaceDefinition

end MappedSql
