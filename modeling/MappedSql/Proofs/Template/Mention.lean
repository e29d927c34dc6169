import MappedSql.Proofs.Parameter.Renaming
import MappedSql.Statement.Source

/- What the placeholders of a template stand for.

   A walk over the tree takes the parts that a composition takes and notes each placeholder
   with the names of the rounds around it (`Template.mentions`). No name is made up and no text
   is pasted: the first name of a placeholder is looked up in its scope, the innermost round
   first, then among the reserved names, and else the parameter supplies the value
   (`Scope.valueOf`). These are the values that a bound statement should have
   (`PerCallSource.lexicalValues`). -/
namespace MappedSql

open Placeholder (Clean endsOpen isRegular IsName freshPrefix readContent)

/-- The names of the rounds around a place in a template with their values, the innermost first. -/
abbrev Scope := List (String × Value)

namespace Scope

/-- The scope within a round of a loop; the element comes before the position. -/
def enter (s : Scope) (l : Loop) (i : Expression.Item) : Scope :=
  (l.item.map fun name => (name, i.element)).toList ++
    ((l.index.map fun name => (name, i.key)).toList ++ s)

/-- The names that expressions can use in the scope. -/
def bindings (start : Bindings) (s : Scope) : Bindings :=
  s.foldr (fun e b => Fields.insert e.1 e.2 b) start

/-- The value that a parameter supplies to a mapping: null, itself, or what it has at the path. -/
def supplied (parameter : Value) (m : ParameterMapping) : Except Expression.Error Value :=
  match parameter with
  | .null => .ok .null
  | v => if v.isSimple then .ok v else v.read m.property

/-- The value of a mapping that stands in the scope. -/
def valueOf (start : Bindings) (parameter : Value) (s : Scope) (m : ParameterMapping) :
    Except Expression.Error Value :=
  match s.lookup (Path.root m.property) <|> Fields.get? start (Path.root m.property) with
  | some v => v.readBelow (Path.tail m.property)
  | none => supplied parameter m

end Scope

/-- A placeholder as the template writes it, and the scope that it stands in. -/
structure Mention where
  content : List Char
  scope : Scope

namespace Mention

/-- The mapping that the placeholder writes, with its scope. -/
def read (m : Mention) : Option (ParameterMapping × Scope) :=
  (readContent m.content).toOption.map fun p => (p, m.scope)

/-- The values that the placeholders read, in their order. -/
def valuesOf (start : Bindings) (parameter : Value) (ms : List Mention) : Option (List Value) := do
  let read ← ms.mapM read
  (read.filter fun e => e.1.mode != .output).mapM fun e =>
    (e.2.valueOf start parameter e.1).toOption

end Mention

namespace Template

mutual

/-- The placeholders that the template comes to in a scope, in order. Of a trimmed part all of
them are noted, and a binding has none. -/
def mentions (ev : Evaluator) (start : Bindings) :
    Template → Scope → Except Error (List Mention)
  | .text s, scope =>
    .ok ((Text.markers (Text.pieces Placeholder.delimiters s.toList)).map (⟨·, scope⟩))
  | .block parts, scope => mentionsAll ev start parts scope
  | .test condition body, scope => do
    let holds ← (ev.test (scope.bindings start) condition).mapError (.expression condition)
    if holds then mentions ev start body scope else .ok []
  | .choose branches none, scope => do
    let found ← mentionsFirst ev start branches scope
    return found.getD []
  | .choose branches (some d), scope => do
    match ← mentionsFirst ev start branches scope with
    | some ms => return ms
    | none => mentions ev start d scope
  | .trim _ body, scope => mentions ev start body scope
  | .loop l body, scope => do
    let items ← (ev.items (scope.bindings start) l.collection).mapError (.expression l.collection)
    let rounds ← items.mapM fun i => mentions ev start body (scope.enter l i)
    return rounds.flatten
  | .bind _ _, _ => .ok []

/-- The placeholders of templates one after the other. -/
def mentionsAll (ev : Evaluator) (start : Bindings) :
    List Template → Scope → Except Error (List Mention)
  | [], _ => .ok []
  | t :: rest, scope => do
    let ms ← mentions ev start t scope
    let ms' ← mentionsAll ev start rest scope
    return ms ++ ms'

/-- The placeholders of the first branch whose condition holds, if there is one. -/
def mentionsFirst (ev : Evaluator) (start : Bindings) :
    List (String × Template) → Scope → Except Error (Option (List Mention))
  | [], _ => .ok none
  | (condition, body) :: rest, scope => do
    let holds ← (ev.test (scope.bindings start) condition).mapError (.expression condition)
    if holds then
      let ms ← mentions ev start body scope
      return some ms
    else mentionsFirst ev start rest scope

end

mutual

/-- Whether all texts and loops of the template pass, which are told whether a loop is around
them, and nothing in it is trimmed or bound. -/
def every (text : Bool → String → Bool) (loop : Bool → Loop → Bool) : Bool → Template → Bool
  | inner, .text s => text inner s
  | inner, .block parts => everyPart text loop inner parts
  | inner, .test _ body => every text loop inner body
  | inner, .choose branches none => everyBranch text loop inner branches
  | inner, .choose branches (some d) =>
    everyBranch text loop inner branches && every text loop inner d
  | _, .trim _ _ => false
  | inner, .loop l body => loop inner l && every text loop true body
  | _, .bind _ _ => false

/-- The same of all templates of a list. -/
def everyPart (text : Bool → String → Bool) (loop : Bool → Loop → Bool) :
    Bool → List Template → Bool
  | _, [] => true
  | inner, t :: rest => every text loop inner t && everyPart text loop inner rest

/-- The same of all branches of a choice. -/
def everyBranch (text : Bool → String → Bool) (loop : Bool → Loop → Bool) :
    Bool → List (String × Template) → Bool
  | _, [] => true
  | inner, (_, t) :: rest => every text loop inner t && everyBranch text loop inner rest

end

/-- Whether a text has no substitutions, no opening signs but those of its placeholders, and
placeholders with regular contents. -/
def isPlainText (s : String) : Bool :=
  !hasSubstitution s && (Text.pieces Placeholder.delimiters s.toList).all fun
    | .literal cs => decide (Clean cs)
    | .marker content => isRegular content

/-- Whether a name can be the name of a loop variable. -/
def isVariable (name : String) : Bool :=
  decide (IsName name.toList) && (Text.dropPiece? freshPrefix name.toList).isNone

/-- Whether the variables of a loop are names, and no placeholders begin in its own texts. -/
def isPlainLoop (l : Loop) : Bool :=
  l.item.all isVariable && l.index.all isVariable &&
    [l.opening, l.separator, l.closing].all fun s => decide (Clean s.toList)

/-- A template of texts, blocks, tests, choices and loops that are all plain. -/
def isPlain (t : Template) : Bool := t.every (fun _ => isPlainText) (fun _ => isPlainLoop) false

/-- Whether a text ends open once the blanks at its end are gone. -/
def opensAtEnd (s : String) : Bool := endsOpen (Text.trimRight s.toList)

/-- Within a loop, what stands behind a text is pasted right behind it. -/
def isSeamlessText (inner : Bool) (s : String) : Bool := !(inner && opensAtEnd s)

/-- A round is pasted right behind the opening or a separator of its loop, and within another loop
also what stands behind the loop. -/
def isSeamlessLoop (inner : Bool) (l : Loop) : Bool :=
  !endsOpen l.opening.toList && !endsOpen l.separator.toList &&
    !(inner && (opensAtEnd l.opening || opensAtEnd l.closing))

/-- A template in which no text can run into what is pasted right behind it. -/
def isSeamless (t : Template) : Bool := t.every isSeamlessText isSeamlessLoop false

end Template

/-- The values that the placeholders of the template stand for. -/
def PerCallSource.lexicalValues (s : PerCallSource) (parameter : Value) : Option (List Value) :=
  let start := Bindings.start parameter s.databaseId
  (s.template.mentions .standard start []).toOption.bind (Mention.valuesOf start parameter)

end MappedSql
