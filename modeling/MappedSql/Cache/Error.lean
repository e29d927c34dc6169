/- Why a cache cannot be built or does not answer. -/
namespace MappedSql.Cache

/-- Why a cache cannot be built or does not answer. -/
inductive Error where
  /-- What is stored is not the text of a value. -/
  | notSnapshot (id : String)
  /-- What is stored is a text, but not of a value. -/
  | unreadable
  | refused (id reason : String)
  | noCapacity (id : String)
  | noInterval (id : String)
  | otherId (id found : String)
  | duplicate (id : String)
  deriving DecidableEq, Repr

/-- The wording of an error; there is none for a text that is not of a value. -/
def Error.message? : Error → Option String
  | .notSnapshot id =>
    some s!"Serialization error in cache '{id}': stored entry is not a serialized snapshot"
  | .unreadable => none
  | .refused id reason => some s!"Serialization error in cache '{id}': {reason}"
  | .noCapacity id =>
    some s!"Invalid cache configuration for '{id}': size must be greater than zero"
  | .noInterval id =>
    some s!"Invalid cache configuration for '{id}': flush interval must be greater than zero"
  | .otherId id found =>
    some (s!"Invalid cache configuration for '{id}': " ++
      s!"custom implementation reports id '{found}'")
  | .duplicate id => some s!"Cache '{id}' is already registered"

end MappedSql.Cache
