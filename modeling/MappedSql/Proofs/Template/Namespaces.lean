import Mathlib
import MappedSql.Proofs.Template.Inclusion

/- What a fragment means in a namespace.

   A fragment is kept as it is written, without the namespace that it is written in. A
   reference in it that has no dot belongs to the namespace that expands it, however deep
   the fragment stands: an expansion in a namespace is one outside of all, of nodes and
   fragments with the namespace before each such reference (`expand_qualify`). So two
   namespaces expand the same if they agree on all references that they come to
   (`expand_agree`). They do on a reference with a dot (`include_any_namespace`), and need
   not on one without (`include_other_namespace`). -/
namespace MappedSql

theorem qualifyReference_none (reference : String) :
    qualifyReference none reference = reference := rfl

theorem qualifyReference_dotted {reference : String} (h : '.' ∈ reference.toList)
    (ns : Option String) : qualifyReference ns reference = reference := by
  cases ns with
  | none => rfl
  | some ns => exact if_pos (by simpa using h)

open Markup (Node)

/-! ## References with their namespace -/

namespace Template

/-- The attributes of an include, with the namespace before a reference that has no dot. -/
def qualifyAttributes (ns : Option String) (attributes : List (String × String)) :
    List (String × String) :=
  attributes.map fun a => if a.1 == "refid" then (a.1, qualifyReference ns a.2) else a

theorem attribute?_qualify (ns : Option String) (attributes : List (String × String)) :
    attribute? (qualifyAttributes ns attributes) "refid" = reference? ns attributes := by
  unfold reference? attribute? qualifyAttributes
  induction attributes with
  | nil => rfl
  | cons a rest ih =>
    rw [List.map_cons, List.find?_cons, List.find?_cons]
    by_cases ha : (a.1 == "refid") = true
    · simp [ha]
    · rw [if_neg ha]
      simpa [ha] using ih

theorem required_qualify (ns : Option String) (attributes : List (String × String)) (line : Nat) :
    required "include" (qualifyAttributes ns attributes) line "refid" =
      (required "include" attributes line "refid").map (qualifyReference ns) := by
  rw [required, attribute?_qualify, reference?, required]
  cases attribute? attributes "refid" <;> rfl

end Template

open Template (qualifyAttributes)

namespace Markup.Node

mutual

/-- A node with the namespace before all references in it that have no dot. -/
def qualify (ns : Option String) : Node → Node
  | .text s => .text s
  | .element name attributes line children =>
    .element name (if name = "include" then qualifyAttributes ns attributes else attributes) line
      (qualifyAll ns children)

def qualifyAll (ns : Option String) : List Node → List Node
  | [] => []
  | n :: rest => n.qualify ns :: qualifyAll ns rest

end

end Markup.Node

namespace Fragments

def qualify (fs : Fragments) (ns : Option String) : Fragments :=
  fs.map fun f => (f.1, Node.qualifyAll ns f.2)

theorem get?_qualify (fs : Fragments) (ns : Option String) (id : String) :
    (fs.qualify ns).get? id = (fs.get? id).map (Node.qualifyAll ns) := by
  induction fs with
  | nil => rfl
  | cons f rest ih =>
    rw [qualify, List.map_cons, get?, get?]
    split
    · rfl
    · exact ih

end Fragments

namespace Fragments.Reaches

variable {fs : Fragments} {ns : Option String} {nodes more : List Node}
  {attributes : List (String × String)}

/-- Nodes reach what some of the includes among them reach. -/
theorem mono (hr : fs.Reaches ns nodes attributes)
    (h : ∀ outer, Node.Includes nodes outer → Node.Includes more outer) :
    fs.Reaches ns more attributes := by
  cases hr with
  | here hi => exact .here (h _ hi)
  | inside hi hid hf hr => exact .inside (h _ hi) hid hf hr

end Fragments.Reaches

namespace Template

variable {fs : Fragments} {ns : Option String} {path : List String} {nodes inner : List Node}

/-- To expand in a namespace is to write it before the references and expand outside of all. -/
theorem expand_qualify (fs : Fragments) (ns : Option String) (path : List String)
    (nodes : List Node) :
    expand (fs.qualify ns) none path (Node.qualifyAll ns nodes) = expand fs ns path nodes := by
  induction path, nodes using expand.induct fs ns with
  | case1 path => rw [Node.qualifyAll, expand, expand]
  | case2 path s rest ih =>
    rw [Node.qualifyAll, Node.qualify, expand_text, expand_text, ih]
  | case3 path own line children rest ihi ih =>
    rw [Node.qualifyAll, Node.qualify, if_pos rfl, expand_include, expand_include,
      required_qualify, ih]
    cases required "include" own line "refid" with
    | error err => rfl
    | ok reference =>
      simp only [Except.map, Except.bind, qualifyReference_none, Fragments.get?_qualify]
      by_cases hp : path.contains (qualifyReference ns reference) = true
      · rw [if_pos hp, if_pos hp]
      · rw [if_neg hp, if_neg hp]
        cases hf : fs.get? (qualifyReference ns reference) with
        | none => rfl
        | some inner =>
          dsimp only [Option.map_some]
          rw [ihi reference hp inner hf]
  | case4 path name own line children rest hn ihc ih =>
    rw [Node.qualifyAll, Node.qualify, if_neg hn, expand_element _ _ _ _ _ _ _ hn,
      expand_element _ _ _ _ _ _ _ hn, ihc, ih]

/-! ## Two namespaces -/

/-- Two namespaces expand the same if they agree on all references that the one comes to. -/
theorem expand_agree {ns' : Option String} (h : ∀ attributes, fs.Reaches ns nodes attributes →
    reference? ns' attributes = reference? ns attributes) :
    expand fs ns' path nodes = expand fs ns path nodes := by
  induction path, nodes using expand.induct fs ns with
  | case1 path => rw [expand, expand]
  | case2 path s rest ih =>
    rw [expand_text, expand_text, ih fun attributes hr =>
      h attributes (hr.mono fun _ => Node.includes_text.2)]
  | case3 path own line children rest ihi ih =>
    rw [expand_include, expand_include, ih fun attributes hr =>
      h attributes (hr.mono fun _ hi => Node.includes_include.2 (.inr hi))]
    cases href : required "include" own line "refid" with
    | error err => rfl
    | ok reference =>
      have hid : reference? ns own = some (qualifyReference ns reference) :=
        (reference?_eq_some line).2 ⟨reference, href, rfl⟩
      have hsame : qualifyReference ns' reference = qualifyReference ns reference := by
        have howner := h own (.here (Node.includes_include.2 (.inl rfl)))
        rw [hid, reference?_eq_some line, href] at howner
        obtain ⟨_, hsame, hq⟩ := howner
        cases hsame
        exact hq
      simp only [Except.bind, hsame]
      by_cases hp : path.contains (qualifyReference ns reference) = true
      · rw [if_pos hp, if_pos hp]
      · rw [if_neg hp, if_neg hp]
        cases hf : fs.get? (qualifyReference ns reference) with
        | none => rfl
        | some inner =>
          dsimp only
          rw [ihi reference hp inner hf fun attributes hr =>
            h attributes (.inside (Node.includes_include.2 (.inl rfl)) hid hf hr)]
  | case4 path name own line children rest hn ihc ih =>
    rw [expand_element _ _ _ _ _ _ _ hn, expand_element _ _ _ _ _ _ _ hn,
      ihc fun attributes hr =>
        h attributes (hr.mono fun _ hi => (Node.includes_element hn).2 (.inl hi)),
      ih fun attributes hr =>
        h attributes (hr.mono fun _ hi => (Node.includes_element hn).2 (.inr hi))]

/-- All references that the nodes come to have a dot. -/
def Dotted (fs : Fragments) (nodes : List Node) : Prop :=
  ∀ attributes reference, fs.Reaches none nodes attributes →
    attribute? attributes "refid" = some reference → '.' ∈ reference.toList

theorem reference?_dotted {attributes : List (String × String)}
    (h : ∀ reference, attribute? attributes "refid" = some reference → '.' ∈ reference.toList)
    (ns : Option String) : reference? ns attributes = attribute? attributes "refid" := by
  rw [reference?]
  cases href : attribute? attributes "refid" with
  | none => rfl
  | some reference => rw [Option.map_some, qualifyReference_dotted (h reference href)]

/-- With dots in all references, the same includes are reached in every namespace. -/
theorem Dotted.reaches (h : Dotted fs nodes) {attributes : List (String × String)}
    (hr : fs.Reaches ns nodes attributes) : fs.Reaches none nodes attributes := by
  induction hr with
  | here hi => exact .here hi
  | @inside nodes inner outer attributes id hi hid hf _ ih =>
    have houter : ∀ reference, attribute? outer "refid" = some reference →
        '.' ∈ reference.toList := fun reference => h outer reference (.here hi)
    have hid' : reference? none outer = some id := by
      rw [reference?_dotted houter, ← reference?_dotted houter ns, hid]
    exact .inside hi hid' hf (ih fun attributes' reference hr' =>
      h attributes' reference (.inside hi hid' hf hr'))

/-- An include of a fragment by an id with a dot gives the same nodes in all namespaces, or the
same error, if the references that the fragment comes to have dots. -/
theorem include_any_namespace (fs : Fragments) {own : List (String × String)} {id : String}
    {inner : List Node} (hown : attribute? own "refid" = some id) (hid : '.' ∈ id.toList)
    (hf : fs.get? id = some inner) (hdots : Dotted fs inner) (path : List String) (line : Nat)
    (children : List Node) (ns ns' : Option String) :
    expand fs ns path [.element "include" own line children] =
      expand fs ns' path [.element "include" own line children] := by
  have hdotted : Dotted fs [.element "include" own line children] := by
    have hsome : ∀ attributes reference,
        Node.Includes [.element "include" own line children] attributes →
        attribute? attributes "refid" = some reference → reference = id := by
      intro attributes reference hi href
      rcases Node.includes_include.1 hi with rfl | hi
      · exact Option.some.inj (href.symm.trans hown)
      · exact absurd hi Node.not_includes_nil
    intro attributes reference hr href
    cases hr with
    | here hi => exact hsome _ _ hi href ▸ hid
    | inside hi ho hf' hr =>
      obtain ⟨reference', href', rfl⟩ := Option.map_eq_some_iff.1 ho
      rw [hsome _ _ hi href', qualifyReference_none, hf] at hf'
      cases hf'
      exact hdots _ _ hr href
  refine (expand_agree fun attributes hr => ?_).symm
  have hdot := fun reference => hdotted attributes reference (hdotted.reaches hr)
  rw [reference?_dotted hdot, reference?_dotted hdot]

/-- An include of this id, on the first line. -/
def including (id : String) : Node := .element "include" [("refid", id)] 1 []

/-- Fragments that include each other with dots. -/
def dotted : Fragments := [("c.f", [.text "0", including "a.x"]), ("a.x", [.text "1"])]

theorem include_any_namespace_dotted :
    attribute? [("refid", "c.f")] "refid" = some "c.f" ∧ '.' ∈ "c.f".toList ∧
      dotted.get? "c.f" = some [.text "0", including "a.x"] ∧
      Dotted dotted [.text "0", including "a.x"] ∧
      expand dotted (some "a") [] [including "c.f"] =
        expand dotted (some "b") [] [including "c.f"] := by
  have hdots : Dotted dotted [.text "0", including "a.x"] := by
    have hown : ∀ attributes, Node.Includes [.text "0", including "a.x"] attributes →
        attributes = [("refid", "a.x")] := by
      intro attributes hi
      rcases Node.includes_include.1 (Node.includes_text.1 hi) with rfl | hi
      · rfl
      · exact absurd hi Node.not_includes_nil
    intro attributes reference hr href
    cases hr with
    | here hi =>
      rw [hown _ hi] at href
      cases href
      decide
    | inside hi ho hf hr =>
      rw [hown _ hi] at ho
      cases ho
      cases hf
      have hnone : ∀ outer, ¬ Node.Includes [.text "1"] outer :=
        fun outer hi => Node.not_includes_nil (Node.includes_text.1 hi)
      cases hr with
      | here hi => exact absurd hi (hnone _)
      | inside hi => exact absurd hi (hnone _)
  exact ⟨rfl, by decide, rfl, hdots, include_any_namespace dotted rfl (by decide) rfl hdots [] 1 []
    (some "a") (some "b")⟩

/-- A fragment that includes another without a dot, and that other in two namespaces. -/
def undotted : Fragments :=
  [("c.f", [including "x"]), ("a.x", [.text "1"]), ("b.x", [.text "2"])]

/-- Without the dot, an include of the fragment gives each namespace its own. -/
theorem include_other_namespace : '.' ∈ "c.f".toList ∧
    undotted.get? "c.f" = some [including "x"] ∧
    expand undotted (some "a") [] [including "c.f"] = .ok [.text "1"] ∧
    expand undotted (some "b") [] [including "c.f"] = .ok [.text "2"] ∧
    [Node.text "1"] ≠ [Node.text "2"] := by
  refine ⟨by decide, rfl, ?_, ?_, by simp⟩
  · cbv
  · cbv

end Template

end MappedSql
