import MappedSql.Text.Blank
import MappedSql.Text.Case

/- What is known of one `?` of a statement.

   A mapping names the property that supplies the value and may carry the types,
   the direction and the further attributes of its placeholder. -/
namespace MappedSql

/-- The direction of a parameter. -/
inductive ParameterMode where
  | input
  | output
  | inout
  deriving DecidableEq, Repr

namespace ParameterMode

def name : ParameterMode → String
  | .input => "IN"
  | .output => "OUT"
  | .inout => "INOUT"

/-- The direction that a text names in any case; else the text in capitals, trimmed. -/
def read (s : String) : Except String ParameterMode :=
  match Text.uppercase (Text.trim s) with
  | "IN" => .ok .input
  | "OUT" => .ok .output
  | "INOUT" => .ok .inout
  | other => .error other

end ParameterMode

/-- The SQL type of a parameter. -/
inductive SqlType where
  | array | bit | tinyInt | smallInt | integer | bigInt | float | real | double | numeric | decimal
  | char | varchar | longVarchar | nChar | nVarchar | date | time | timestamp
  | binary | varBinary | longVarBinary | blob | clob | nClob
  | boolean | cursor | struct | null | other | undefined
  deriving DecidableEq, Repr

namespace SqlType

def all : List SqlType :=
  [.array, .bit, .tinyInt, .smallInt, .integer, .bigInt, .float, .real, .double, .numeric,
    .decimal, .char, .varchar, .longVarchar, .nChar, .nVarchar, .date, .time, .timestamp,
    .binary, .varBinary, .longVarBinary, .blob, .clob, .nClob, .boolean, .cursor, .struct,
    .null, .other, .undefined]

def name : SqlType → String
  | .array => "ARRAY"
  | .bit => "BIT"
  | .tinyInt => "TINYINT"
  | .smallInt => "SMALLINT"
  | .integer => "INTEGER"
  | .bigInt => "BIGINT"
  | .float => "FLOAT"
  | .real => "REAL"
  | .double => "DOUBLE"
  | .numeric => "NUMERIC"
  | .decimal => "DECIMAL"
  | .char => "CHAR"
  | .varchar => "VARCHAR"
  | .longVarchar => "LONGVARCHAR"
  | .nChar => "NCHAR"
  | .nVarchar => "NVARCHAR"
  | .date => "DATE"
  | .time => "TIME"
  | .timestamp => "TIMESTAMP"
  | .binary => "BINARY"
  | .varBinary => "VARBINARY"
  | .longVarBinary => "LONGVARBINARY"
  | .blob => "BLOB"
  | .clob => "CLOB"
  | .nClob => "NCLOB"
  | .boolean => "BOOLEAN"
  | .cursor => "CURSOR"
  | .struct => "STRUCT"
  | .null => "NULL"
  | .other => "OTHER"
  | .undefined => "UNDEFINED"

theorem mem_all (t : SqlType) : t ∈ all := by cases t <;> decide

/-- The type that a text names in any case; else the text, trimmed. -/
def read (s : String) : Except String SqlType :=
  let wanted := Text.uppercase (Text.trim s)
  match all.find? (·.name == wanted) with
  | some t => .ok t
  | none => .error (Text.trim s)

end SqlType

/-- What is known of one `?` of a statement. -/
structure ParameterMapping where
  /-- The path of the value, in the side table or in the parameter. -/
  property : String
  valueType : Option String
  sqlType : Option SqlType
  sqlTypeName : Option String
  mode : ParameterMode
  scale : Option Nat
  resultMap : Option String
  typeHandler : Option String
  deriving DecidableEq, Repr

namespace ParameterMapping

def ofProperty (property : String) : ParameterMapping :=
  ⟨property, none, none, none, .input, none, none, none⟩

def isInputOnly (m : ParameterMapping) : Bool := m.mode == .input

end ParameterMapping

end MappedSql
