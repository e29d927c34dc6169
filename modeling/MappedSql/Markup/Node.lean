import MappedSql.Markup.Event

/- The trees that markup writes.

   Elements nest by their tags; the text between two tags is one node, and there is
   no node for an empty text. -/
namespace MappedSql.Markup

/-- A text, or an element with its attributes, the line of its opening tag and its children. -/
inductive Node where
  | text (s : String)
  | element (name : String) (attributes : List (String × String)) (line : Nat)
      (children : List Node)
  deriving Repr

namespace Node

mutual

/-- The text of a node and all nodes below it. -/
def content : Node → String
  | .text s => s
  | .element _ _ _ children => contentOf children

/-- The text of all nodes of a list and below. -/
def contentOf : List Node → String
  | [] => ""
  | n :: rest => n.content ++ contentOf rest

end

end Node

/-- An element that is not closed yet, with its completed earlier siblings, the nearest first. -/
structure Unclosed where
  name : String
  attributes : List (String × String)
  line : Nat
  before : List Node

/-- The nodes of the innermost open element, the last first, the text after them, and the open
elements, the innermost first. -/
structure Nesting where
  nodes : List Node
  text : List Char
  unclosed : List Unclosed

namespace Nesting

/-- The nodes, with the text after them as the last. -/
def flush (n : Nesting) : List Node :=
  if n.text.isEmpty then n.nodes else .text (String.ofList n.text) :: n.nodes

def advance (n : Nesting) (e : Event) : Except Error Nesting :=
  match e with
  | .text s => .ok { n with text := n.text ++ s }
  | .opening name attributes line closed =>
    if closed then
      .ok { n with nodes := .element name attributes line [] :: n.flush, text := [] }
    else .ok ⟨[], [], ⟨name, attributes, line, n.flush⟩ :: n.unclosed⟩
  | .closing name line =>
    match n.unclosed with
    | [] => .error ⟨line, .unexpectedClosing name⟩
    | u :: outer =>
      if u.name = name then
        .ok ⟨.element u.name u.attributes u.line n.flush.reverse :: u.before, [], outer⟩
      else .error ⟨line, .otherClosing u.name name⟩

/-- The nodes that a stream of events makes. -/
def run (n : Nesting) : Stream → Except Error (List Node)
  | .failed e => .error e
  | .ending line =>
    match n.unclosed with
    | [] => .ok n.flush.reverse
    | u :: _ => .error ⟨line, .unclosed u.name⟩
  | .event e rest =>
    match n.advance e with
    | .ok m => m.run rest
    | .error e => .error e

end Nesting

def read (s : String) : Except Error (List Node) :=
  Nesting.run ⟨[], [], []⟩ (events 1 s.toList)

end MappedSql.Markup
