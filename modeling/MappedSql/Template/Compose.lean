import MappedSql.Expression.Eval
import MappedSql.Template.Basic
import MappedSql.Template.Composition

/- Composing a template.

   A composition walks the tree and writes text into its state; it tells whether
   the part contributed, which is how a choice picks its branch. An error ends the
   walk, but the state it leaves is balanced all the same: buffers are popped and
   names are bound as before.

   A loop gives the element of each round a fresh name in the side table and renames
   the placeholders of the round to it, so that a placeholder keeps the value of its
   own round after the loop is over. -/
namespace MappedSql

/-- What expressions mean to a composition. -/
structure Evaluator where
  value : Bindings → String → Except Expression.Error Value
  test : Bindings → String → Except Expression.Error Bool
  items : Bindings → String → Except Expression.Error (List Expression.Item)

def Evaluator.standard : Evaluator := ⟨Expression.valueOf, Expression.holds, Expression.itemsOf⟩

namespace TrimRule

/-- What remains of a text that begins with `piece`, in any case of the ASCII letters. -/
def dropStart? : (piece text : List Char) → Option (List Char)
  | [], text => some text
  | _ :: _, [] => none
  | p :: ps, c :: cs => if p.toLower = c.toLower then dropStart? ps cs else none

/-- What remains of a text that ends with `piece`, which is not empty, in any case of the ASCII
letters. -/
def dropEnd? (piece text : List Char) : Option (List Char) :=
  if piece.isEmpty then none
  else (dropStart? piece.reverse text.reverse).map List.reverse

/-- The text without the first of the pieces that it begins with. -/
def withoutStart (pieces : List String) (cs : List Char) : List Char :=
  match pieces.findSome? fun p => dropStart? p.toList cs with
  | some rest => Text.trimLeft rest
  | none => cs

/-- The text without the first of the pieces that it ends with. A piece also matches without the
blanks around it, and no more than that is dropped. -/
def withoutEnd (pieces : List String) (cs : List Char) : List Char :=
  let found := pieces.find? fun p =>
    (dropEnd? p.toList cs).isSome || (dropEnd? (Text.trimmed p.toList) cs).isSome
  match found with
  | some p => Text.trimRight (cs.take (cs.length - (Text.trimmed p.toList).length))
  | none => cs

/-- The composed part as the rule frames it; nothing if the part is blank. -/
def apply (r : TrimRule) (body : String) : Option String :=
  let cs := Text.trimmed body.toList
  if cs.isEmpty then none
  else
    let content := String.ofList (withoutEnd r.dropEnd (withoutStart r.dropStart cs))
    some ((r.before.map (· ++ " ")).getD "" ++ content ++ (r.after.map (" " ++ ·)).getD "")

end TrimRule

namespace Loop

/-- The fresh name of a loop variable in one round. -/
def freshName (name : String) (number : Nat) : String := s!"__frch_{name}_{number}"

/-- Whether the first name of a placeholder is over before this text. -/
def endsName : List Char → Bool
  | [] => true
  | c :: _ => c == '.' || c == '[' || c == ',' || c == ':' || Text.isBlank c

/-- The content of a placeholder, with `name` as its first name replaced. -/
def renameRoot (name replacement : List Char) (content : List Char) : List Char :=
  match Text.dropPiece? name (Text.trimLeft content) with
  | some rest =>
    if endsName rest then content.takeWhile Text.isBlank ++ replacement ++ rest else content
  | none => content

/-- The content of a placeholder in one round of the loop: the names of the element and of the
position become the fresh ones. -/
def renamed (l : Loop) (number : Nat) (content : List Char) : List Char :=
  [l.item, l.index].foldl (fun content name =>
    match name with
    | some n => renameRoot n.toList (freshName n number).toList content
    | none => content) content

/-- The text of one round, with the placeholders renamed. -/
def renameAll (l : Loop) (number : Nat) : List Text.Piece → List Char
  | [] => []
  | .literal s :: rest => s ++ renameAll l number rest
  | .marker content :: rest =>
    Placeholder.delimiters.opening ++ renamed l number content ++
      Placeholder.delimiters.closing ++ renameAll l number rest

/-- The composed text of one round, trimmed, with the placeholders renamed. -/
def roundText (l : Loop) (number : Nat) (body : String) : String :=
  String.ofList
    (l.renameAll number (Text.pieces Placeholder.delimiters (Text.trimmed body.toList)))

def joined (l : Loop) (rounds : List String) : String :=
  l.opening ++ l.separator.intercalate rounds ++ l.closing

end Loop

theorem bind_eq_ok {ε α β : Type} {x : Except ε α} {f : α → Except ε β} {b : β}
    (h : x.bind f = .ok b) : ∃ a, x = .ok a ∧ f a = .ok b := by
  cases x with
  | error err => cases h
  | ok a => exact ⟨a, rfl, h⟩

/-- A step of a composition: it changes the state, and fails or gives a result. -/
abbrev Compose := ExceptT Template.Error (StateM Composition)

namespace Compose

section

variable {α β : Type} {c c' : Composition} {x : Compose α}

theorem bind_ok {a : α} (g : α → Compose β) (h : x c = (.ok a, c')) : (x >>= g) c = g a c' := by
  have hbind : (x >>= g) c = ExceptT.bindCont g (x c).1 (x c).2 := rfl
  rw [hbind, h]
  rfl

theorem bind_error {e : Template.Error} (g : α → Compose β) (h : x c = (.error e, c')) :
    (x >>= g) c = (.error e, c') := by
  have hbind : (x >>= g) c = ExceptT.bindCont g (x c).1 (x c).2 := rfl
  rw [hbind, h]
  rfl

theorem discard_eq (x : Compose α) : discard x = x >>= fun _ => pure () := by
  rw [Functor.discard, map_const, Function.comp, map_eq_pure_bind]

end

def append (s : String) : Compose Unit := modify (·.append s)

/-- The result of an expression over the present bindings. -/
def evaluate {α : Type} (source : String) (f : Bindings → Except Expression.Error α) :
    Compose α := do
  match f (← get).bindings with
  | .ok a => return a
  | .error e => throw (.expression source e)

/-- Composes into a buffer of its own, which is gone afterwards, and gives its text. -/
def captured {α : Type} (x : Compose α) : Compose String := fun c =>
  let (r, c) := x c.push
  let (body, c) := c.pop
  (r.map fun _ => body, c)

/-- Composes with a loop variable, if it has a name: the value stands in the side table under the
fresh name for good, and is bound to the name until the end. -/
def withVariable {α : Type} (name : Option String) (number : Nat) (v : Value) (x : Compose α) :
    Compose α :=
  match name with
  | none => x
  | some n => fun c =>
    let previous := Fields.get? c.bindings n
    let (r, c) := x ((c.setSide (Loop.freshName n number) v).bind n v)
    (r, c.restore n previous)

/-- The number for the fresh names of a round. -/
def nextNumber : Compose Nat := fun c => (.ok c.counter, c.count)

/-- The text with its substitutions made. An unknown name gives nothing. -/
def substituted (ev : Evaluator) (b : Bindings) (s : String) : Except Template.Error String :=
  Text.replaceMarkers Template.substitution (fun source =>
    match ev.value b source with
    | .ok v => .ok v.inline
    | .error (.undefined _) => .ok ""
    | .error e => .error (.expression source e)) s

/-- Writes a text of the template. A text with substitutions binds `value` to a parameter that is
null or simple. -/
def text (ev : Evaluator) (s : String) : Compose Unit := do
  if Template.hasSubstitution s then
    let parameter := (← get).bindings.parameter
    if parameter.kind = .null || parameter.isSimple then
      modify (·.bind "value" parameter)
    match substituted ev (← get).bindings s with
    | .ok t => append t
    | .error e => throw e
  else append s

def round (l : Loop) (body : Compose Bool) (i : Expression.Item) : Compose String := do
  let number ← nextNumber
  let text ← withVariable l.index number i.key
    (withVariable l.item number i.element (captured body))
  return l.roundText number text

/-- The texts of the rounds, without the empty ones. -/
def rounds (l : Loop) (body : Compose Bool) : List Expression.Item → Compose (List String)
  | [] => return []
  | i :: rest => do
    let text ← round l body i
    let texts ← rounds l body rest
    return if text.isEmpty then texts else text :: texts

end Compose

namespace Template

mutual

/-- Composes a template, and tells whether it contributed. -/
def compose (ev : Evaluator) : Template → Compose Bool
  | .text s => do
    Compose.text ev s
    return true
  | .block parts => do
    composeAll ev parts
    return true
  | .test condition body => do
    let holds ← Compose.evaluate condition (ev.test · condition)
    if holds then
      discard (compose ev body)
    return holds
  | .choose branches none => composeFirst ev branches
  | .choose branches (some d) => do
    let found ← composeFirst ev branches
    if !found then
      discard (compose ev d)
    return true
  | .trim rule body => do
    let part ← Compose.captured (compose ev body)
    match rule.apply part with
    | some s => do
      Compose.append s
      return true
    | none => return false
  | .loop l body => do
    let items ← Compose.evaluate l.collection (ev.items · l.collection)
    if items.isEmpty then return false
    let texts ← Compose.rounds l (compose ev body) items
    Compose.append (l.joined texts)
    return true
  | .bind name source => do
    let v ← Compose.evaluate source (ev.value · source)
    modify fun c => (c.setSide name v).bind name v
    return true

def composeAll (ev : Evaluator) : List Template → Compose Unit
  | [] => return ()
  | t :: rest => do
    discard (compose ev t)
    composeAll ev rest

/-- Composes the first branch whose condition holds, and tells whether there was one. -/
def composeFirst (ev : Evaluator) : List (String × Template) → Compose Bool
  | [] => return false
  | (condition, body) :: rest => do
    let holds ← Compose.evaluate condition (ev.test · condition)
    if holds then
      discard (compose ev body)
      return true
    composeFirst ev rest

end

end Template

end MappedSql
