import MappedSql.Cache.Transaction
import MappedSql.Mapper.Settings
import MappedSql.Statement.Mapped

/- The registry of a mapper.

   Caches, fragments and statements are registered once under their ids and stay. A
   statement is found under its id, and also under the part after the last dot of the
   id as long as no other registered statement has the same. -/
namespace MappedSql

/-- What is registered. -/
structure Registry where
  settings : Settings
  shelf : Shelf
  cacheRefs : List (String × String)
  fragments : Fragments
  /-- The statements in the order of registration, with different ids. -/
  statements : List MappedStatement
  loaded : List String

namespace Registry

def empty (settings : Settings) : Registry := ⟨settings, [], [], [], [], []⟩

def databaseId (r : Registry) : Option String := r.settings.databaseId

/-- Whether a cache of this id is registered. -/
def hasCache (r : Registry) (id : String) : Bool := (r.shelf.slot? id).isSome

def addCache (r : Registry) (c : Cache) : Except MapperError Registry :=
  if r.hasCache c.id then .error (.cache (.duplicate c.id))
  else .ok { r with shelf := r.shelf ++ [c] }

def newCache (r : Registry) (id : String) (config : CacheConfig) : Except MapperError Registry := do
  r.addCache (← (config.build id).mapError MapperError.cache)

/-- With a namespace that shares the cache of another. -/
def addCacheRef (r : Registry) (ns referenced : String) : Registry :=
  { r with cacheRefs := (ns, referenced) :: r.cacheRefs.filter (·.1 != ns) }

def cacheRef? (r : Registry) (ns : String) : Option String := r.cacheRefs.lookup ns

def addFragment (r : Registry) (id : String) (nodes : List Markup.Node) :
    Except MapperError Registry :=
  if (r.fragments.get? id).isSome then .error (.configuration (.duplicateFragment id))
  else .ok { r with fragments := r.fragments ++ [(id, nodes)] }

def statement? (r : Registry) (id : String) : Option MappedStatement :=
  r.statements.find? (·.id == id)

/-- Whether a statement of this id is registered. -/
def hasStatement (r : Registry) (id : String) : Bool := (r.statement? id).isSome

def addStatement (r : Registry) (m : MappedStatement) : Except MapperError Registry :=
  if r.hasStatement m.id then .error (.configuration (.duplicateStatement m.id))
  else .ok { r with statements := r.statements ++ [m] }

/-- The part of an id after its last dot. -/
def shortName? (id : String) : Option String :=
  match Text.fields '.' id.toList with
  | [] => none
  | [_] => none
  | first :: others => some (String.ofList (others.getLastD first))

def sharing (r : Registry) (name : String) : List MappedStatement :=
  r.statements.filter fun m => shortName? m.id == some name

/-- The statement of a name: the one with this id, or the only one with this short name. -/
def find (r : Registry) (name : String) : Except MapperError MappedStatement :=
  match r.statement? name with
  | some m => .ok m
  | none =>
    match r.sharing name with
    | [] => .error (.configuration (.unknownStatement name))
    | [m] => .ok m
    | ms => .error (.configuration (.sharedName name (ms.map (·.id))))

def isLoaded (r : Registry) (ns : String) : Bool := r.loaded.contains ns

def markLoaded (r : Registry) (ns : String) : Registry :=
  if r.isLoaded ns then r else { r with loaded := ns :: r.loaded }

end Registry

end MappedSql
