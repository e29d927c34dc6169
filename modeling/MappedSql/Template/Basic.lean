import MappedSql.Template.Error
import MappedSql.Text.Case
import MappedSql.Text.Marker

/- Templates of statements.

   A template is a tree of texts, tests, choices, trimmed parts, loops and bindings.
   Whether a part contributes is known only when the tree is composed for a
   parameter; a tree of texts without substitutions always composes to the same. -/
namespace MappedSql

/-- How the composed text of a part is trimmed and framed. A text to drop is dropped once, in any
case of its letters, the first in the list that matches. -/
structure TrimRule where
  /-- What is written in front of the part. -/
  before : Option String
  after : Option String
  /-- What may be dropped at the start of the part. -/
  dropStart : List String
  /-- What may be dropped at the end of the part. -/
  dropEnd : List String
  deriving DecidableEq, Repr

/-- What a loop runs over and how its rounds are joined. -/
structure Loop where
  collection : String
  /-- The name of the element of a round. -/
  item : Option String
  /-- The name of the position or key of a round. -/
  index : Option String
  opening : String
  closing : String
  separator : String
  deriving DecidableEq, Repr

/-- A template. -/
inductive Template where
  | text (s : String)
  | block (parts : List Template)
  | test (condition : String) (body : Template)
  | choose (branches : List (String × Template)) (default : Option Template)
  | trim (rule : TrimRule) (body : Template)
  | loop (l : Loop) (body : Template)
  | bind (name source : String)

namespace TrimRule

/-- The texts of a list between bars, in capitals. -/
def readList (s : Option String) : List String :=
  match s with
  | none => []
  | some s =>
    ((Text.fields '|' s.toList).filter fun f => !f.isEmpty).map fun f =>
      Text.uppercase (String.ofList f)

/-- The rule with written lists of texts to drop. -/
def read (before dropStart after dropEnd : Option String) : TrimRule :=
  ⟨before, after, readList dropStart, readList dropEnd⟩

/-- The rule of a condition: `WHERE` in front, a connective at the start dropped. -/
def conditions : TrimRule :=
  read (some "WHERE") (some "AND |OR |AND\n|OR\n|AND\r|OR\r|AND\t|OR\t") none none

/-- The rule of assignments: `SET` in front, a comma at the end dropped. -/
def assignments : TrimRule := read (some "SET") none none (some ",")

end TrimRule

namespace Template

def substitution : Text.Delimiters := ⟨['$', '\x7b'], ['\x7d']⟩

/-- Whether a text may have substitutions in it. -/
def hasSubstitution (s : String) : Bool := Text.contains substitution.opening s.toList

mutual

/-- Whether the composed text depends on the parameter. -/
def isDynamic : Template → Bool
  | .text s => hasSubstitution s
  | .block parts => anyDynamic parts
  | _ => true

/-- Whether one of the templates depends on the parameter. -/
def anyDynamic : List Template → Bool
  | [] => false
  | t :: rest => t.isDynamic || anyDynamic rest

end

/-- A choice, which has one default at most. -/
def ofBranches (branches : List (String × Template)) (defaults : List Template) :
    Except Error Template :=
  match defaults with
  | [] => .ok (.choose branches none)
  | [d] => .ok (.choose branches (some d))
  | _ => .error (.builder .tooManyDefaults)

end Template

end MappedSql
