import MappedSql.Mapper.Error
import MappedSql.Statement.Mapped

/- Executors of statements.

   An executor works on a state of its own kind, such as the connection of a session
   and what the database holds. Every operation gives its answer and the state after
   it, also when it fails. -/
namespace MappedSql

/-- What carries out the statements of a session whose state is a `σ`. -/
structure Executor (σ : Type) where
  /-- The rows of a bound query, whose key is known. -/
  query : MappedStatement → Value → RowBounds → Cache.Key → BoundStatement → σ →
    Except MapperError Value × σ
  /-- The number of rows that a statement changes. -/
  update : MappedStatement → Value → σ → Except MapperError Nat × σ
  /-- The flag tells whether the database has to commit. -/
  commit : Bool → σ → Except MapperError Unit × σ
  /-- The flag tells whether the database has to roll back. -/
  rollback : Bool → σ → Except MapperError Unit × σ
  /-- The flag tells whether the database rolls back first. -/
  close : Bool → σ → Except MapperError Unit × σ
  isCached : MappedStatement → Cache.Key → σ → Except MapperError Bool
  deferLoad : MappedStatement → String → Cache.Key → σ → Except MapperError Unit × σ
  clearLocal : σ → σ
  isClosed : σ → Bool

namespace Executor

variable {σ : Type}

/-- The rows of a query: the statement is bound to the parameter, its key derived, and the bound
statement carried out. -/
def call (e : Executor σ) (m : MappedStatement) (parameter : Value) (rows : RowBounds) (s : σ) :
    Except MapperError Value × σ :=
  match m.bind parameter with
  | .error err => (.error (.template err), s)
  | .ok b =>
    match m.key b rows with
    | .error err => (.error (.template err), s)
    | .ok k => e.query m parameter rows k b s

end Executor

end MappedSql
