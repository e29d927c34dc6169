import MappedSql.Template.Basic
import MappedSql.Template.Include

/- Templates from markup.

   Each element of the template language has its reading here: `if`, `choose` with
   `when` and `otherwise`, `trim`, `where`, `set`, `foreach` and `bind`. Text between the
   branches of a choice is ignored. A template whose only node is a `script` element is
   that element's content. -/
namespace MappedSql.Template

mutual

def ofNode : Markup.Node → Except Error Template
  | .text s => .ok (.text s)
  | .element name attributes line children =>
    match name with
    | "trim" => do
      let parts ← ofNodes children
      let get := attribute? attributes
      return .trim (TrimRule.read (get "prefix") (get "prefixOverrides") (get "suffix")
        (get "suffixOverrides")) (.block parts)
    | "where" => do return .trim TrimRule.conditions (.block (← ofNodes children))
    | "set" => do return .trim TrimRule.assignments (.block (← ofNodes children))
    | "foreach" => do
      let parts ← ofNodes children
      let collection ← required name attributes line "collection"
      let get := attribute? attributes
      return .loop ⟨collection, get "item", get "index", (get "open").getD "",
        (get "close").getD "", (get "separator").getD ""⟩ (.block parts)
    | "if" => do
      let condition ← required name attributes line "test"
      return .test condition (.block (← ofNodes children))
    | "choose" => do
      let (branches, defaults) ← ofBranchNodes children
      ofBranches branches defaults
    | "when" => .error (.builder (.branchOutside name line))
    | "otherwise" => .error (.builder (.branchOutside name line))
    | "bind" => do
      let bound ← required name attributes line "name"
      let source ← required name attributes line "value"
      return .bind bound source
    | _ => .error (.builder (.unknownElement name line))

def ofNodes : List Markup.Node → Except Error (List Template)
  | [] => .ok []
  | n :: rest => do
    let t ← ofNode n
    let ts ← ofNodes rest
    return t :: ts

/-- The branches and the defaults of a choice. -/
def ofBranchNodes : List Markup.Node → Except Error (List (String × Template) × List Template)
  | [] => .ok ([], [])
  | .text _ :: rest => ofBranchNodes rest
  | .element name attributes line children :: rest =>
    if name = "when" ∨ name = "if" then do
      let condition ← required name attributes line "test"
      let parts ← ofNodes children
      let (branches, defaults) ← ofBranchNodes rest
      return ((condition, .block parts) :: branches, defaults)
    else if name = "otherwise" then do
      let parts ← ofNodes children
      let (branches, defaults) ← ofBranchNodes rest
      return (branches, .block parts :: defaults)
    else .error (.builder (.unknownBranch name line))

end

def unwrap : List Markup.Node → List Markup.Node
  | [.element "script" _ _ children] => children
  | nodes => nodes

/-- The template that nodes write once their includes are expanded. -/
def ofMarkup (fragments : Fragments) (ns : Option String) (nodes : List Markup.Node) :
    Except Error Template := do
  return .block (← ofNodes (← expand fragments ns [] nodes))

def read (fragments : Fragments) (ns : Option String) (script : String) :
    Except Error Template := do
  let nodes ← (Markup.read script).mapError .markup
  ofMarkup fragments ns (unwrap nodes)

/-- The nodes of a fragment that a script writes. -/
def readFragment (script : String) : Except Error (List Markup.Node) :=
  (Markup.read script).mapError .markup

end MappedSql.Template
