import MappedSql.Expression.Bindings
import MappedSql.Text.Blank

/- The state of one composition.

   Text goes to the innermost of a stack of buffers; a part that works on the text
   of its children composes them into a buffer of its own. Beside the bindings there
   is the side table, which holds the values of names that placeholders may use after
   the composition, and a counter for fresh names. -/
namespace MappedSql

/-- The state of one composition. -/
structure Composition where
  bindings : Bindings
  /-- The values of the names that placeholders may use. -/
  side : Fields
  buffer : String
  outer : List String
  counter : Nat

namespace Composition

/-- The state that a composition for the parameter starts from. -/
def start (parameter : Value) (databaseId : Option String) : Composition :=
  ⟨Bindings.start parameter databaseId, [], "", [], 0⟩

/-- With a text and a space behind it in the innermost buffer. -/
def append (c : Composition) (s : String) : Composition := { c with buffer := c.buffer ++ s ++ " " }

def push (c : Composition) : Composition := { c with buffer := "", outer := c.buffer :: c.outer }

/-- The text of the innermost buffer, and the state without that buffer. The last buffer stays,
and gives nothing. -/
def pop (c : Composition) : String × Composition :=
  match c.outer with
  | [] => ("", c)
  | b :: outer => (c.buffer, { c with buffer := b, outer := outer })

def sql (c : Composition) : String := Text.trim (c.outer.getLast?.getD c.buffer)

def bind (c : Composition) (name : String) (v : Value) : Composition :=
  { c with bindings := Fields.insert name v c.bindings }

/-- With the name bound as it was before: to a value, or not at all. -/
def restore (c : Composition) (name : String) (previous : Option Value) : Composition :=
  match previous with
  | some v => { c with bindings := Fields.insert name v c.bindings }
  | none => { c with bindings := Fields.erase c.bindings name }

/-- With the value under the name in the side table. -/
def setSide (c : Composition) (name : String) (v : Value) : Composition :=
  { c with side := Fields.insert name v c.side }

/-- With the number of the next fresh name used up. -/
def count (c : Composition) : Composition := { c with counter := c.counter + 1 }

/-- Popping gives back what was written since the push. -/
theorem pop_push (c : Composition) : c.push.pop = ("", c) := rfl

end Composition

end MappedSql
