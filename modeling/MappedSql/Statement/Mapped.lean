import MappedSql.Cache.Key
import MappedSql.Decimal.Word
import MappedSql.Statement.Command
import MappedSql.Statement.Source

/- Statements as they are registered, and the key of a call.

   The key of a call consists of the statement's id, the window of rows, the composed
   text and the values of the parameters that the statement reads. Two calls of one key
   ask the database for the same rows. -/
namespace MappedSql

/-- A window of the rows of a result. -/
structure RowBounds where
  offset : Nat
  limit : Nat
  deriving DecidableEq, Repr

def RowBounds.all : RowBounds := ⟨0, Word.count - 1⟩

/-- A registered statement. -/
structure MappedStatement where
  id : String
  source : Source
  command : Command
  preparation : Preparation
  /-- The id of the cache that its results go to. -/
  cache : Option String
  /-- Whether a call makes what the cache holds worthless. -/
  flushes : Bool
  usesCache : Bool
  /-- After how many seconds a call is given up. -/
  timeout : Option Nat
  /-- The database it was written for, if not for any. -/
  databaseId : Option String

namespace MappedStatement

def bind (m : MappedStatement) (parameter : Value) : Except Template.Error BoundStatement :=
  m.source.bind parameter

/-- The values of the parameters that a bound statement reads. -/
def keyValues (b : BoundStatement) : List ParameterMapping → Except Template.Error (List Value)
  | [] => .ok []
  | p :: rest => do
    if p.mode = .output then keyValues b rest
    else
      match b.valueOf p with
      | .error e => .error (.expression p.property e)
      | .ok v => return v :: (← keyValues b rest)

/-- The key of a call with this window of rows. -/
def key (m : MappedStatement) (b : BoundStatement) (rows : RowBounds) :
    Except Template.Error Cache.Key := do
  return ⟨.str m.id :: .ofNat rows.offset :: .ofNat rows.limit :: .str b.sql ::
    (← keyValues b b.mappings)⟩

end MappedStatement

end MappedSql
