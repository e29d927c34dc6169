import MappedSql.Cache.Config
import MappedSql.Document.Decoding
import MappedSql.Mapper.Error

/- Settings of a mapper. -/
namespace MappedSql

namespace Eviction

/-- The eviction order of a keyword, in small or capital letters. -/
def ofKeyword? (s : String) : Option Eviction :=
  if s = "lru" ∨ s = "LRU" then some .leastRecent
  else if s = "fifo" ∨ s = "FIFO" then some .firstIn
  else none

theorem ofKeyword?_name (e : Eviction) : ofKeyword? e.name = some e := by cases e <;> decide

end Eviction

namespace CacheConfig

def fieldNames : List String := ["eviction", "size", "flush_interval_ms", "read_write"]

/-- The configuration in a document; what is not given is as in a standard one. -/
def decode (c : Conversions) (d : Document) : Option CacheConfig := do
  let field ← c.record? fieldNames d
  return {
    eviction := ← Conversions.orElse standard.eviction
      (c.keyword? Eviction.ofKeyword?) (field "eviction")
    size := ← Conversions.orElse standard.size c.nat? (field "size")
    flushInterval := ← c.optional c.nat? (field "flush_interval_ms")
    readWrite := ← Conversions.orElse standard.readWrite c.bool? (field "read_write") }

end CacheConfig

/-- What holds for all sessions of a mapper. -/
structure Settings where
  cacheEnabled : Bool
  timeout : Option Nat
  databaseId : Option String
  caches : List (String × CacheConfig)
  deriving DecidableEq, Repr

namespace Settings

def standard : Settings := ⟨true, none, none, []⟩

def fieldNames : List String :=
  ["cache_enabled", "default_statement_timeout", "database_id", "caches"]

/-- The settings in a document; what is not given is as in the standard ones. -/
def decode (c : Conversions) (d : Document) : Option Settings := do
  let field ← c.record? fieldNames d
  return {
    cacheEnabled := ← Conversions.orElse standard.cacheEnabled c.bool? (field "cache_enabled")
    timeout := ← c.optional c.nat? (field "default_statement_timeout")
    databaseId := ← c.optional c.text? (field "database_id")
    caches := ← Conversions.orElse standard.caches
      (Conversions.entries? (CacheConfig.decode c)) (field "caches") }

/-- The configuration of the cache of a namespace. -/
def cacheConfig (s : Settings) (ns : String) : CacheConfig :=
  (s.caches.lookup ns).getD .standard

/-- What is wrong with the configuration of a cache. -/
def cacheFault? (ns : String) (c : CacheConfig) : Option Misconfigured :=
  if c.size = 0 then some (.cacheSize ns)
  else if c.flushInterval = some 0 then some (.cacheInterval ns)
  else none

/-- What is wrong with the settings: first the caches, then the timeout. -/
def fault? (s : Settings) : Option Misconfigured :=
  match s.caches.findSome? fun (ns, c) => cacheFault? ns c with
  | some fault => some fault
  | none => if s.timeout = some 0 then some .timeout else none

/-- Refuses settings that no mapper can work with. -/
def validate (s : Settings) : Except MapperError Unit :=
  match s.fault? with
  | some fault => .error (.configuration fault)
  | none => .ok ()

end Settings

end MappedSql
