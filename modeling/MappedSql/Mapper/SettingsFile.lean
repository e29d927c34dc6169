import MappedSql.Decimal.Word
import MappedSql.Document.Layer
import MappedSql.Document.Toml.Writer
import MappedSql.Mapper.Settings
import MappedSql.Mapper.SettingsFormat

/- Settings from a file and the environment.

   The file comes first, and the variables of the environment are laid over it. A
   variable names a place, with two underscores between the steps, and its text is a
   truth value or a number if it looks like one. A file that is missing, or of a format
   that is not known, says nothing. -/
namespace MappedSql

namespace Settings

/-- The place that a variable writes, without the prefix of its name. -/
def variableKey (name : String) : String := (Text.lowercase name).replace "__" "."

def variableValue (text : String) : Document :=
  let word := Text.lowercase text
  if word = "true" then .bool true
  else if word = "false" then .bool false
  else
    match Text.readSigned? text.toList with
    | some i => .int i
    | none =>
      match Text.readReal? text.toList with
      | some x => .float x
      | none => .text text

/-- The settings of a file, given by its extension and its text, under those of variables. -/
def load (file : Option (String × String)) (environment : List (String × String)) :
    Except MapperError Settings := do
  let entries ← match file with
    | none => pure []
    | some (extension, text) =>
      match SettingsFormat.ofExtension? extension with
      | some f => f.read text
      | none => pure []
  let d := Document.lay entries (.map [])
  let d := Document.lay (environment.map fun (k, v) => (variableKey k, variableValue v)) d
  match decode .loose d with
  | some s => do
    s.validate
    return s
  | none => throw .settings

def line (key value : String) : String := s!"{key} = {value}\n"

/-- A number as a settings file writes it, if a signed word of 64 bits holds it. -/
def number? (n : Nat) : Except MapperError String :=
  if n < Word.half then .ok (toString n) else .error .definition

/-- The line of a setting that may be left out. -/
def optionalLine (key : String) (value : Option (Except MapperError String)) :
    Except MapperError String :=
  match value with
  | none => .ok ""
  | some v => v.map (line key)

/-- A truth value as a settings file writes it. -/
def boolText (b : Bool) : String := if b then "true" else "false"

def section? (ns : String) (c : CacheConfig) : Except MapperError String := do
  let size ← number? c.size
  let interval ← optionalLine "flush_interval_ms" (c.flushInterval.map number?)
  return "\n[caches." ++ Toml.writeKey ns ++ "]\n" ++
    line "eviction" (Toml.writeText c.eviction.name) ++ line "size" size ++ interval ++
    line "read_write" (boolText c.readWrite)

def text (s : Settings) : Except MapperError String := do
  let timeout ← optionalLine "default_statement_timeout" (s.timeout.map number?)
  let sections ← s.caches.mapM fun (ns, c) => section? ns c
  return line "cache_enabled" (boolText s.cacheEnabled) ++ timeout ++
    (s.databaseId.map fun id => line "database_id" (Toml.writeText id)).getD "" ++
    (if sections.isEmpty then "\n[caches]\n" else String.join sections)

/-- The text to write to a settings file, whose path has to be given. -/
def save (s : Settings) (path : Option String) : Except MapperError String :=
  match path with
  | some _ => s.text
  | none => .error (.configuration .noSettingsPath)

/-- Whether two settings are the same, whatever the order of the caches. -/
def same (s t : Settings) : Bool :=
  s.cacheEnabled == t.cacheEnabled && s.timeout == t.timeout && s.databaseId == t.databaseId &&
    s.caches.length == t.caches.length &&
    s.caches.all fun (ns, c) => t.caches.lookup ns == some c

end Settings

end MappedSql
