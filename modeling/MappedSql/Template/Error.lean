import MappedSql.Expression.Error
import MappedSql.Markup.Error
import MappedSql.Parameter.Placeholder

/- Why a template cannot be built or composed. -/
namespace MappedSql.Template

/-- What is wrong with the elements of a template. -/
inductive Fault where
  | tooManyDefaults
  | missingAttribute (element key : String) (line : Nat)
  | unknownElement (name : String) (line : Nat)
  | unknownBranch (name : String) (line : Nat)
  | branchOutside (name : String) (line : Nat)
  | circularInclude (reference : String) (path : List String)
  deriving DecidableEq, Repr

def Fault.message : Fault → String
  | .tooManyDefaults => "Too many default (otherwise) elements in choose statement."
  | .missingAttribute element key line =>
    s!"<{element}> requires the '{key}' attribute (line {line})."
  | .unknownElement name line => s!"Unknown element <{name}> in SQL statement (line {line})."
  | .unknownBranch name line => s!"Unknown element <{name}> in choose statement (line {line})."
  | .branchOutside name line =>
    s!"Element <{name}> outside of <choose> in SQL statement (line {line})."
  | .circularInclude reference path =>
    s!"Circular include of SQL fragment '{reference}' (" ++ " -> ".intercalate path ++ ")"

/-- Why a template cannot be built or composed. -/
inductive Error where
  | markup (e : Markup.Error)
  | builder (fault : Fault)
  | unknownFragment (reference : String)
  | expression (source : String) (e : Expression.Error)
  | placeholder (e : Placeholder.Invalid)
  /-- An error within the composition of a named statement. -/
  | composing (statement : String) (e : Error)
  deriving DecidableEq, Repr

def Error.message : Error → String
  | .markup e => s!"Template parse error at line {e.line}: {e.fault.message}"
  | .builder fault => s!"Builder error: {fault.message}"
  | .unknownFragment reference => s!"Could not find SQL fragment '{reference}'"
  | .expression source e => s!"Error evaluating expression '{source}': {e.message}"
  | .placeholder e => s!"Invalid parameter placeholder '{e.content}': {e.fault.message}"
  | .composing statement e => s!"Error composing statement '{statement}': {e.message}"

end MappedSql.Template
