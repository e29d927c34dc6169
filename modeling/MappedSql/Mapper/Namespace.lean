import MappedSql.Mapper.Deferred
import MappedSql.Mapper.Definition

/- Registering a namespace.

   Every id declared in a namespace is qualified with it. A statement that refers to a
   cache or a fragment which is not registered yet waits in the queue of the
   configuration, and so does a reference to the cache of a namespace without one. -/
namespace MappedSql

/-- The id of an element declared in a namespace: its local name, which has no dot, behind the
namespace. An id that is qualified already stays. -/
def qualify (ns id : String) : Except MapperError String :=
  match Text.dropPiece? (ns.toList ++ ['.']) id.toList with
  | some rest =>
    if rest.contains '.' then .error (.configuration (.dottedName id)) else .ok id
  | none =>
    if id.toList.contains '.' then .error (.configuration (.dottedName id))
    else .ok (ns ++ "." ++ id)

/-- Where the statements of a namespace get their cache. -/
inductive CacheSource where
  /-- The registered cache of this id, or none. -/
  | known (id : Option String)
  /-- The cache of a namespace that had none when the statement was declared. -/
  | awaited (ns : String)
  deriving DecidableEq, Repr

/-- The id of the cache, once it is registered. -/
def CacheSource.resolve (r : Registry) : CacheSource → Except MapperError (Option String)
  | .known id => .ok id
  | .awaited ns =>
    if r.hasCache ns then .ok (some ns) else .error (.incomplete (.cache ns))

namespace StatementDefinition

/-- The error of a script; a fragment that is missing may still come. -/
def scriptError : Template.Error → MapperError
  | .unknownFragment reference => .incomplete (.fragment reference)
  | e => .template e

def build (d : StatementDefinition) (ns : String) (source : CacheSource) (r : Registry) :
    Except MapperError MappedStatement := do
  let cache ← source.resolve r
  let id ← qualify ns d.id
  let script ← (Source.read r.fragments (some ns) r.databaseId id d.script).mapError scriptError
  return {
    id, cache
    source := script
    command := d.command
    preparation := d.preparation
    flushes := d.flushes.getD (!d.command.isSelect)
    usesCache := d.usesCache.getD d.command.isSelect
    timeout := d.timeout <|> r.settings.timeout
    databaseId := d.databaseId }

def attempt (d : StatementDefinition) (ns : String) (source : CacheSource) (r : Registry) :
    Verdict :=
  match d.build ns source r with
  | .ok m =>
    match r.addStatement m with
    | .ok r => .resolved r
    | .error e => .failed e r
  | .error e => if e.isIncomplete then .waiting else .failed e r

/-- Whether the definition is for this mapper: one for a database needs that database, and one for
any gives way to a statement that is registered already. -/
def applies (d : StatementDefinition) (ns : String) (r : Registry) : Except MapperError Bool :=
  match d.databaseId with
  | some required => .ok (r.databaseId == some required)
  | none => do
    let id ← qualify ns d.id
    return !r.hasStatement id

end StatementDefinition

/-- Whether an element was registered or waits. -/
inductive Resolution where
  | resolved
  | pending
  deriving DecidableEq, Repr

def Resolution.name : Resolution → String
  | .resolved => "resolved"
  | .pending => "pending"

/-- A namespace that is being registered, and the configuration it is registered in. -/
structure Registration where
  ns : String
  cache : Option String
  /-- The namespace whose cache its statements are to use, if that one has none yet. -/
  awaited : Option String
  configuration : Configuration

/-- A step of a registration; what was done before a failure stays. -/
abbrev Register (α : Type) := ExceptT MapperError (StateM Registration) α

namespace Registration

/-- The registration of a namespace, whose name is not blank. -/
def start (c : Configuration) (ns : String) : Except MapperError Registration :=
  if (Text.trim ns).isEmpty then .error (.configuration .blankNamespace)
  else .ok ⟨ns, none, none, c⟩

/-- Where the statements declared from now on get their cache. -/
def source (g : Registration) : CacheSource :=
  match g.awaited with
  | some ns => .awaited ns
  | none => .known g.cache

def setRegistry (g : Registration) (r : Registry) : Registration :=
  { g with configuration := { g.configuration with registry := r } }

/-- With an element at the end of the queue. -/
def defer (g : Registration) (d : Deferred) : Registration :=
  { g with configuration := g.configuration.defer d }

/-- The element that waits for the cache of a namespace. -/
def awaiting (ns referenced : String) : Deferred :=
  .mk s!"cache-ref {ns} -> {referenced}"
    (fun r => if r.hasCache referenced then .resolved r else .waiting) []

end Registration

namespace Register

/-- Builds and registers the namespace's own cache; without a configuration, as the settings have
it. -/
def newCache (config : Option CacheConfig) : Register String := do
  let g ← get
  let r := g.configuration.registry
  let r ← r.newCache g.ns (config.getD (r.settings.cacheConfig g.ns))
  set { g.setRegistry r with cache := some g.ns, awaited := none }
  return g.ns

/-- Shares the cache of another namespace; if that one has none yet, the reference waits. -/
def cacheRef (referenced : String) : Register Resolution := do
  let g ← get
  let g := g.setRegistry (g.configuration.registry.addCacheRef g.ns referenced)
  if g.configuration.registry.hasCache referenced then
    set { g with cache := some referenced, awaited := none }
    return .resolved
  else
    set { g.defer (Registration.awaiting g.ns referenced) with awaited := some referenced }
    return .pending

/-- Registers a fragment; the answer is its id. -/
def fragment (id script : String) : Register String := do
  let g ← get
  let id ← qualify g.ns id
  let nodes ← (Template.readFragment script).mapError MapperError.template
  set (g.setRegistry (← g.configuration.registry.addFragment id nodes))
  return id

/-- Registers a statement, unless it is not for this mapper. A statement that is incomplete
waits. -/
def statement (d : StatementDefinition) : Register Resolution := do
  let g ← get
  let r := g.configuration.registry
  if !(← d.applies g.ns r) then return .resolved
  match d.attempt g.ns g.source r with
  | .resolved r =>
    set (g.setRegistry r)
    return .resolved
  | .waiting =>
    set (g.defer (.mk (qualifyReference (some g.ns) d.id) (d.attempt g.ns g.source) []))
    return .pending
  | .failed e _ => throw e

/-- Registers all elements of a definition: the cache first, then the fragments and the
statements. -/
def all (d : NamespaceDefinition) : Register Unit := do
  if let some referenced := d.cacheRef then
    let _ ← cacheRef referenced
  if let some config := d.cache then
    let _ ← newCache (some config)
  d.fragments.forM fun f => do
    let _ ← fragment f.id f.script
  d.inOrder.forM fun s => do
    let _ ← statement s

end Register

namespace Configuration

/-- Registers a namespace, unless it is loaded already, and then tries again what waits. -/
def load (c : Configuration) (d : NamespaceDefinition) : Except MapperError Unit × Configuration :=
  if c.registry.isLoaded d.ns then (.ok (), c)
  else
    match Registration.start c d.ns with
    | .error e => (.error e, c)
    | .ok g =>
      match (Register.all d).run.run g with
      | (.error e, g) => (.error e, g.configuration)
      | (.ok (), g) =>
        let c := { g.configuration with registry := g.configuration.registry.markLoaded d.ns }
        match c.resolve with
        | (.error e, c) => (.error e, c)
        | (.ok _, c) => (.ok (), c)

end Configuration

end MappedSql
