import MappedSql.Document.Decoding
import MappedSql.Document.Yaml.Node

/- Documents whose scalars keep their sort open, from YAML nodes.

   What an alias stands for is read where it is used, so that a node may have itself in it.
   Where the place of a node says what it has to be, nodes go no deeper than a few levels;
   so aliases are followed to a fixed depth, and below it nothing is asked of them. -/
namespace MappedSql.Yaml.Node

def withTag (p : Properties) (d : Document) : Document :=
  match p.tag with
  | some t => .tagged t d
  | none => d

def ofStyle (style : Style) (text : String) : Document :=
  match style with
  | .plain => .plain text
  | .literal => .block text
  | .quoted | .folded => .text text

mutual

/-- A node as a document, where `target?` says what numbers stand for. A map whose keys are not all
scalars has no entries to ask for. -/
def unmarked (target? : Nat → Option Document) : Node → Document
  | .scalar p style text => withTag p (ofStyle style text)
  | .list p items => withTag p (.list (unmarkedItems target? items))
  | .map p entries =>
    withTag p (((unmarkedEntries? target? entries).map Document.map).getD .other)
  | .alias number => (target? number).getD .other

def unmarkedItems (target? : Nat → Option Document) : List Node → List Document
  | [] => []
  | n :: rest => unmarked target? n :: unmarkedItems target? rest

/-- The entries of a map as those of a document. -/
def unmarkedEntries? (target? : Nat → Option Document) :
    List (Node × Node) → Option (List (String × Document))
  | [] => some []
  | (k, n) :: rest => do
    let name ← Conversions.scalarText? (unmarked target? k)
    let d := unmarked target? n
    let rest ← unmarkedEntries? target? rest
    return (name, d) :: rest

end

def anchored (p : Properties) (n : Node) : List (Nat × Node) := (p.anchor.map (·, n)).toList

mutual

def anchors : Node → List (Nat × Node)
  | .scalar p style text => anchored p (.scalar p style text)
  | .list p items => anchored p (.list p items) ++ anchorsOfItems items
  | .map p entries => anchored p (.map p entries) ++ anchorsOfEntries entries
  | .alias _ => []

def anchorsOfItems : List Node → List (Nat × Node)
  | [] => []
  | n :: rest => anchors n ++ anchorsOfItems rest

def anchorsOfEntries : List (Node × Node) → List (Nat × Node)
  | [] => []
  | (k, n) :: rest => anchors k ++ anchors n ++ anchorsOfEntries rest

end

end MappedSql.Yaml.Node

namespace MappedSql.Yaml

/-- What a number stands for among targets by their anchors. -/
def Contents.target? (c : Contents) (targets : List (Nat × Document)) (number : Nat) :
    Option Document :=
  (c.meant.lookup number).bind fun anchor => targets.lookup anchor

/-- The nodes that have an anchor, as documents whose aliases are followed so many times. -/
def Contents.targets (c : Contents) : Nat → List (Nat × Document)
  | 0 => []
  | depth + 1 =>
    let targets := c.targets depth
    c.root.anchors.map fun (anchor, n) => (anchor, n.unmarked (c.target? targets))

/-- How many aliases are followed on the way to a scalar: one for every record around it, and one
more. -/
def aliasDepth : Nat := 4

/-- The document that a text holds, with the sort of its scalars left open; nothing written is an
empty scalar. -/
def read (text : String) : Option Document :=
  (read? .v11 text).map fun contents =>
    match contents with
    | none => .plain ""
    | some c => c.root.unmarked (c.target? (c.targets aliasDepth))

end MappedSql.Yaml
