import MappedSql.Parameter.Mapping
import MappedSql.Text.Digits
import MappedSql.Text.Marker

/- Placeholders of composed text.

   The content of `#{…}` is a property, perhaps a colon and an SQL type, and then
   attributes `name=value` after commas. Blanks around all of them do not count, nor
   do empty attributes. Every placeholder becomes one `?` of the statement, with its
   mapping at the same place of the list. -/
namespace MappedSql.Placeholder

open Text (trimmed cut? fields pieces)

/-- What is wrong with the content of a placeholder. -/
inductive Fault where
  | parenthesised
  | noProperty
  | unknownMode (name : String)
  | unknownType (name : String)
  | noValue (setting : String)
  | badScale (text : String)
  | unknownAttribute (name : String)
  deriving DecidableEq, Repr

def Fault.message : Fault → String
  | .parenthesised => "expression based parameters are not supported"
  | .noProperty => "missing property name"
  | .unknownMode name => s!"unknown parameter mode '{name}'"
  | .unknownType name => s!"unknown jdbc type '{name}'"
  | .noValue setting => s!"attribute '{setting}' has no value"
  | .badScale text => s!"numericScale '{text}' is not a number"
  | .unknownAttribute name =>
    s!"unknown attribute '{name}'; valid attributes are javaType, jdbcType, mode, " ++
      "numericScale, resultMap, typeHandler, jdbcTypeName"

/-- A placeholder that cannot be read. -/
structure Invalid where
  content : String
  fault : Fault
  deriving DecidableEq, Repr

def readType (s : String) : Except Fault SqlType := (SqlType.read s).mapError .unknownType

def readMode (s : String) : Except Fault ParameterMode :=
  (ParameterMode.read s).mapError .unknownMode

/-- The number of places that a text writes; it fits a word of 32 bits. -/
def readScale (s : String) : Except Fault Nat :=
  match Text.readBelow? 0x100000000 s.toList with
  | some n => .ok n
  | none => .error (.badScale s)

def setAttribute (m : ParameterMapping) (name value : String) : Except Fault ParameterMapping :=
  match name with
  | "javaType" => .ok { m with valueType := some value }
  | "jdbcType" => do return { m with sqlType := some (← readType value) }
  | "jdbcTypeName" => .ok { m with sqlTypeName := some value }
  | "mode" => do return { m with mode := ← readMode value }
  | "numericScale" => do return { m with scale := some (← readScale value) }
  | "resultMap" => .ok { m with resultMap := some value }
  | "typeHandler" => .ok { m with typeHandler := some value }
  | "property" => .ok { m with property := value }
  | other => .error (.unknownAttribute other)

def readAttribute (m : ParameterMapping) (cs : List Char) : Except Fault ParameterMapping :=
  match cut? '=' cs with
  | some (name, value) =>
    setAttribute m (String.ofList (trimmed name)) (String.ofList (trimmed value))
  | none => .error (.noValue (String.ofList (trimmed cs)))

/-- The property and the SQL type before the attributes. -/
def readHead (cs : List Char) : Except Fault ParameterMapping :=
  let (property, type) := match cut? ':' cs with
    | some (property, type) => (trimmed property, some (trimmed type))
    | none => (trimmed cs, none)
  if property.isEmpty then .error .noProperty
  else
    let m := ParameterMapping.ofProperty (String.ofList property)
    match type with
    | some t => do return { m with sqlType := some (← readType (String.ofList t)) }
    | none => .ok m

/-- The content of a placeholder before its first comma, and the pieces between the commas
after it, less those that are blank. -/
def split (cs : List Char) : List Char × List (List Char) :=
  match cut? ',' cs with
  | some (head, rest) => (head, (fields ',' rest).filter fun a => !(trimmed a).isEmpty)
  | none => (cs, [])

/-- The mapping that the content of a placeholder writes. -/
def readContent (cs : List Char) : Except Fault ParameterMapping :=
  let cs := trimmed cs
  if cs.head? = some '(' then .error .parenthesised
  else do
    let (head, attributes) := split cs
    attributes.foldlM readAttribute (← readHead head)

/-- The mapping that the content of a placeholder writes; an error quotes the content. -/
def read (content : String) : Except Invalid ParameterMapping :=
  (readContent content.toList).mapError (⟨content, ·⟩)

def delimiters : Text.Delimiters := ⟨['#', '\x7b'], ['\x7d']⟩

/-- A statement with `?` for its parameters, and their mappings in the same order. -/
structure Marked where
  sql : String
  mappings : List ParameterMapping
  deriving DecidableEq, Repr

/-- The statement that the pieces of a composed text make. -/
def markAll : List Text.Piece → Except Invalid Marked
  | [] => .ok ⟨"", []⟩
  | .literal s :: rest => do
    let m ← markAll rest
    return ⟨String.ofList s ++ m.sql, m.mappings⟩
  | .marker content :: rest => do
    let p ← read (String.ofList content)
    let m ← markAll rest
    return ⟨"?" ++ m.sql, p :: m.mappings⟩

def mark (text : String) : Except Invalid Marked := markAll (pieces delimiters text.toList)

end MappedSql.Placeholder
