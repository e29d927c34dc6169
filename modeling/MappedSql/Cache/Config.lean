import MappedSql.Cache.Basic

/- Caches from their configuration.

   A configured cache is a store with a bound on its entries, then a clearing interval
   if one is given, then snapshots unless values may be shared, then counts and a lock
   around all of it. A store that is given from outside gets the counts and the lock
   alone. -/
namespace MappedSql

/-- Which entry gives way to a new one. -/
inductive Eviction where
  | leastRecent
  | firstIn
  deriving DecidableEq, Repr

def Eviction.name : Eviction → String
  | .leastRecent => "lru"
  | .firstIn => "fifo"

/-- How a cache is built. -/
structure CacheConfig where
  eviction : Eviction
  size : Nat
  flushInterval : Option Nat
  /-- Whether a value that is handed out is a copy. -/
  readWrite : Bool
  deriving DecidableEq, Repr

namespace CacheConfig

/-- The configuration of a cache that nothing is said about. -/
def standard : CacheConfig := ⟨.leastRecent, 1024, none, true⟩

/-- The empty cache of this order and capacity over an empty store. -/
def bounded (e : Eviction) (capacity : Nat) (id : String) : Cache :=
  match e with
  | .leastRecent => .leastRecent capacity [] 0 (.store id [])
  | .firstIn => .firstIn capacity [] 0 (.store id [])

/-- A cache with counts and a lock around it. -/
def shared (c : Cache) : Cache := .locked (.counted .zero true c)

def build (c : CacheConfig) (id : String) : Except Cache.Error Cache := do
  if c.size = 0 then throw (.noCapacity id)
  if c.flushInterval = some 0 then throw (.noInterval id)
  let store := bounded c.eviction c.size id
  let timed := match c.flushInterval with
    | some i => .timed i store
    | none => store
  return shared (if c.readWrite then .snapshots timed else timed)

/-- The cache of this id over a store from outside, which must have the same id. -/
def buildOver (id : String) (store : Cache) : Except Cache.Error Cache :=
  if store.id = id then .ok (shared store) else .error (.otherId id store.id)

end CacheConfig

end MappedSql
