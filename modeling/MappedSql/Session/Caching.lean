import MappedSql.Cache.Transaction
import MappedSql.Session.Executor

/- Sessions that share caches.

   A caching executor stands before another one. The results of cached queries wait
   with the session and reach the shared caches when it commits; a statement that
   flushes its cache makes the session dirty, and until the session has committed or
   rolled back it reads past the caches, since its own writes may have made their
   results wrong. -/
namespace MappedSql

/-- The state of a caching session over a session whose state is a `σ`. -/
structure Caching (σ : Type) where
  /-- The caches that it shares with other sessions. -/
  shelf : Shelf
  transaction : Transaction
  /-- Whether a flush has happened since the last commit or rollback. -/
  dirty : Bool
  inner : σ

namespace Caching

variable {σ : Type}

def start (shelf : Shelf) (inner : σ) : Caching σ := ⟨shelf, [], false, inner⟩

/-- The slot of the cache of a statement. -/
def slot? (s : Caching σ) (m : MappedStatement) : Option Nat := m.cache.bind s.shelf.slot?

def within {α : Type} (s : Caching σ) (f : σ → α × σ) : α × Caching σ :=
  let (a, inner) := f s.inner
  (a, { s with inner })

def flush (s : Caching σ) (m : MappedStatement) : Caching σ :=
  match s.slot? m with
  | none => s
  | some slot =>
    if m.flushes then { s with dirty := true, transaction := s.transaction.clear s.shelf slot }
    else s

/-- The rows of a query from the session below, kept for the cache in a slot. -/
def fetch (s : Caching σ) (slot : Nat) (k : Cache.Key) (f : σ → Except MapperError Value × σ) :
    Except MapperError Value × Caching σ :=
  let (r, s) := s.within f
  match r with
  | .error e => (.error e, s)
  | .ok v => (.ok v, { s with transaction := s.transaction.put s.shelf slot k v })

/-- The rows of a query: from the cache if they are there and the session is not dirty. -/
def query (e : Executor σ) (m : MappedStatement) (parameter : Value) (rows : RowBounds)
    (k : Cache.Key) (b : BoundStatement) (s : Caching σ) : Except MapperError Value × Caching σ :=
  match s.slot? m with
  | none => s.within (e.query m parameter rows k b)
  | some slot =>
    let s := s.flush m
    if !m.usesCache then s.within (e.query m parameter rows k b)
    else if b.mappings.any (!·.isInputOnly) then (.error (.outParameters m.id), s)
    else if s.dirty then s.fetch slot k (e.query m parameter rows k b)
    else
      let (r, shelf) := s.transaction.get s.shelf slot k
      let s := { s with shelf }
      match r with
      | .error err => (.error (.cache err), s)
      | .ok (some v) => (.ok v, s)
      | .ok none => s.fetch slot k (e.query m parameter rows k b)

def update (e : Executor σ) (m : MappedStatement) (parameter : Value) (s : Caching σ) :
    Except MapperError Nat × Caching σ :=
  (s.flush m).within (e.update m parameter)

def publish (s : Caching σ) : Except Cache.Error Unit × Caching σ :=
  let (r, transaction, shelf) := s.transaction.commit s.shelf
  (r, { s with transaction, shelf })

def discard (s : Caching σ) : Caching σ := { s with transaction := s.transaction.reset }

/-- Commits below and then makes the waiting writes; the session is clean once both succeed. -/
def commit (e : Executor σ) (required : Bool) (s : Caching σ) :
    Except MapperError Unit × Caching σ :=
  match s.within (e.commit required) with
  | (.error err, s) => (.error err, s)
  | (.ok (), s) =>
    match s.publish with
    | (.error err, s) => (.error (.cache err), s)
    | (.ok (), s) => (.ok (), { s with dirty := false })

/-- Rolls back below, which makes the session clean if it succeeds; the waiting writes are dropped
if the rollback is required, whether it succeeds or not. -/
def rollback (e : Executor σ) (required : Bool) (s : Caching σ) :
    Except MapperError Unit × Caching σ :=
  let (r, s) := s.within (e.rollback required)
  let s := match r with
    | .ok () => { s with dirty := false }
    | .error _ => s
  (r, if required then s.discard else s)

/-- Closes the session below. The waiting writes are made first, unless the session is dirty and
does not commit by itself; of two failures the first one is reported. -/
def close (e : Executor σ) (autoCommit force : Bool) (s : Caching σ) :
    Except MapperError Unit × Caching σ :=
  let (r, s) : Except MapperError Unit × Caching σ :=
    if s.dirty && !autoCommit then (.ok (), s.discard)
    else
      let (r, s) := s.publish
      (r.mapError .cache, s)
  let (closed, s) := s.within (e.close force)
  (r.bind fun _ => closed, s)

/-- Whether anything waits to be written to a cache. -/
def isPending (s : Caching σ) : Bool := s.transaction.isPending

end Caching

def Executor.caching {σ : Type} (e : Executor σ) (autoCommit : Bool) : Executor (Caching σ) where
  query := Caching.query e
  update := Caching.update e
  commit := Caching.commit e
  rollback := Caching.rollback e
  close := Caching.close e autoCommit
  isCached _ _ _ := .error (.unsupported .isCached)
  deferLoad _ _ _ s := (.error (.unsupported .deferLoad), s)
  clearLocal s := { s with inner := e.clearLocal s.inner }
  isClosed s := e.isClosed s.inner

end MappedSql
