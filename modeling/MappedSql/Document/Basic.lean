import MappedSql.Value.Basic

/- Documents.

   What is written in a configuration file or handed over as an object: scalars, lists,
   and maps whose entries keep the order of the text. A format that does not mark its
   scalars leaves their sort open; then the place where the scalar is used decides, and a
   tag on the node can help. -/
namespace MappedSql

/-- What a tag says of the node that has it. -/
inductive Tag where
  /-- One of the sorts that every document knows. -/
  | standard (name : String)
  | own (name : String)
  | other
  deriving DecidableEq, Repr

/-- A node of a document. -/
inductive Document where
  | null
  | bool (b : Bool)
  | int (i : Int)
  | float (x : Float)
  | text (s : String)
  | plain (s : String)
  /-- A scalar set off as a block of lines. -/
  | block (s : String)
  | tagged (tag : Tag) (d : Document)
  | moment (s : String)
  | list (items : List Document)
  | map (entries : List (String × Document))
  /-- A node that no place takes, such as a map whose keys are no scalars. -/
  | other
  deriving Inhabited

namespace Document

def untagged : Document → Document
  | .tagged _ d => d
  | d => d

mutual

def ofValue : Value → Document
  | .null => .null
  | .bool b => .bool b
  | .num (.int i) => .int i
  | .num (.float x) => .float x
  | .str s => .text s
  | .arr items => .list (ofItems items)
  | .obj fields => .map (ofFields fields)

def ofItems : List Value → List Document
  | [] => []
  | v :: rest => ofValue v :: ofItems rest

def ofFields : List (String × Value) → List (String × Document)
  | [] => []
  | (k, v) :: rest => (k, ofValue v) :: ofFields rest

end

end Document

end MappedSql
