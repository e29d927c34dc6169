import MappedSql.Cache.Error
import MappedSql.Template.Error

/- Why a mapper cannot be configured or a call fails.

   Only an element that waits for something not yet registered is incomplete; it may
   succeed later. All else is final. -/
namespace MappedSql

/-- What an element of a configuration waits for. -/
inductive Gap where
  | cache (ns : String)
  | fragment (reference : String)
  deriving DecidableEq, Repr

def Gap.message : Gap → String
  | .cache ns => s!"No cache for namespace '{ns}' could be found."
  | .fragment reference => s!"Could not find SQL statement to include with refid '{reference}'"

/-- What is wrong with a configuration. -/
inductive Misconfigured where
  | blankNamespace
  | dottedName (id : String)
  | duplicateFragment (id : String)
  | duplicateStatement (id : String)
  | unknownStatement (id : String)
  | sharedName (name : String) (ids : List String)
  | unresolved (names : List String)
  | noSettingsPath
  | cacheSize (ns : String)
  | cacheInterval (ns : String)
  | timeout
  /-- A reason that an element of the configuration gives by itself. -/
  | because (reason : String)
  deriving DecidableEq, Repr

def Misconfigured.message : Misconfigured → String
  | .blankNamespace => "The mapper element requires a namespace"
  | .dottedName id => s!"Dots are not allowed in element names, please remove it from {id}"
  | .duplicateFragment id =>
    s!"XML fragments parsed from previous mappers already contains value for {id}"
  | .duplicateStatement id => s!"Mapped Statements collection already contains value for {id}"
  | .unknownStatement id => s!"Mapped Statements collection does not contain value for {id}"
  | .sharedName name ids =>
    s!"{name} is ambiguous in Mapped Statements collection (try using the full name including " ++
      "the namespace, or rename one of the entries): " ++ ", ".intercalate ids
  | .unresolved names => "unresolved configuration elements: " ++ ", ".intercalate names
  | .noSettingsPath => "no settings path configured"
  | .cacheSize ns => s!"cache '{ns}' must have a size greater than 0"
  | .cacheInterval ns => s!"cache '{ns}' flush interval must be greater than 0"
  | .timeout => "default statement timeout must be greater than 0"
  | .because reason => reason

/-- What a caching session does not do. -/
inductive Unsupported where
  | isCached
  | deferLoad
  deriving DecidableEq, Repr

def Unsupported.name : Unsupported → String
  | .isCached => "is_cached"
  | .deferLoad => "defer_load"

/-- Why a mapper cannot be configured or a call fails. -/
inductive MapperError where
  | incomplete (gap : Gap)
  | configuration (fault : Misconfigured)
  | executor (reason : String)
  | unsupported (operation : Unsupported)
  /-- A statement that writes to its parameters is to be cached. -/
  | outParameters (statement : String)
  | template (e : Template.Error)
  | cache (e : Cache.Error)
  | settings
  | file
  /-- A document that does not define a namespace. -/
  | definition
  deriving DecidableEq, Repr

namespace MapperError

/-- The wording of an error; there is none where a format or a file is at fault. -/
def message? : MapperError → Option String
  | .incomplete gap => some s!"Incomplete configuration element: {gap.message}"
  | .configuration fault => some s!"Configuration error: {fault.message}"
  | .executor reason => some s!"Executor error: {reason}"
  | .unsupported operation => some s!"{operation.name} is not supported by CachingExecutor"
  | .outParameters statement =>
    some ("Caching stored procedures with OUT params is not supported. " ++
      s!"Please configure useCache=false in {statement} statement.")
  | .template e => some e.message
  | .cache e => e.message?
  | .settings | .file | .definition => none

/-- Whether the element may succeed once more is registered. -/
def isIncomplete : MapperError → Bool
  | .incomplete _ => true
  | _ => false

end MapperError

end MappedSql
