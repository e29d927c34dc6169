import MappedSql.Markup.Node
import MappedSql.Template.Error

/- Shared fragments and their inclusion.

   A fragment is a list of nodes under a qualified id. An `include` element stands
   for the nodes of the fragment it refers to, with the includes in them expanded in
   turn; a reference without a dot belongs to the namespace that includes. A fragment
   may be included many times but not within itself. The expansion ends because every
   step into a fragment leaves one fragment fewer that may still be entered. -/
namespace MappedSql

/-- A reference, within a namespace unless it names one itself. -/
def qualifyReference (ns : Option String) (reference : String) : String :=
  match ns with
  | some ns => if reference.toList.contains '.' then reference else ns ++ "." ++ reference
  | none => reference

/-- Fragments under their qualified ids. -/
abbrev Fragments := List (String × List Markup.Node)

namespace Fragments

def get? (fragments : Fragments) (id : String) : Option (List Markup.Node) :=
  match fragments with
  | [] => none
  | (k, nodes) :: rest => if id = k then some nodes else get? rest id

/-- The fragments that are not on the path. -/
def offPath (fragments : Fragments) (path : List String) : Nat :=
  (fragments.filter fun f => !path.contains f.1).length

theorem offPath_append_lt {fragments : Fragments} {path : List String} {id : String}
    {nodes : List Markup.Node} (hf : fragments.get? id = some nodes)
    (hp : path.contains id = false) :
    fragments.offPath (path ++ [id]) < fragments.offPath path := by
  have hle : ∀ fs : Fragments, fs.offPath (path ++ [id]) ≤ fs.offPath path := by
    intro fs
    unfold offPath
    rw [← List.countP_eq_length_filter, ← List.countP_eq_length_filter]
    apply List.countP_mono_left
    intro e _ he
    simp_all
  induction fragments with
  | nil => simp [get?] at hf
  | cons e rest ih =>
    obtain ⟨k, ns⟩ := e
    by_cases hk : id = k
    · subst hk
      have hr := hle rest
      simp only [offPath, List.filter_cons] at hr ⊢
      simp only [hp, List.contains_append, List.contains_cons, List.contains_nil,
        Bool.or_false, beq_self_eq_true, Bool.or_true, Bool.not_true, Bool.not_false,
        if_true, List.length_cons] at hr ⊢
      simp at hr ⊢
      omega
    · simp only [get?, hk, if_false] at hf
      have := ih hf
      simp only [offPath, List.filter_cons] at this ⊢
      have hkc : (path ++ [id]).contains k = path.contains k := by
        simp [Ne.symm hk]
      rw [hkc]
      split <;> simp_all

end Fragments

namespace Template

def attribute? (attributes : List (String × String)) (key : String) : Option String :=
  (attributes.find? (·.1 == key)).map (·.2)

/-- The value of an attribute that the element must have. -/
def required (element : String) (attributes : List (String × String)) (line : Nat)
    (key : String) : Except Error String :=
  match attribute? attributes key with
  | some v => .ok v
  | none => .error (.builder (.missingAttribute element key line))

/-- The nodes with every include replaced by its fragment. `path` lists the fragments that the
nodes stand in, the outermost first. -/
def expand (fragments : Fragments) (ns : Option String) (path : List String) :
    List Markup.Node → Except Error (List Markup.Node)
  | [] => .ok []
  | .text s :: rest => do
    let after ← expand fragments ns path rest
    return .text s :: after
  | .element name attributes line children :: rest =>
    if name = "include" then do
      let id := qualifyReference ns (← required name attributes line "refid")
      if _hp : path.contains id then throw (.builder (.circularInclude id path))
      else
        match _hf : fragments.get? id with
        | none => throw (.unknownFragment id)
        | some nodes => do
          let nodes ← expand fragments ns (path ++ [id]) nodes
          let after ← expand fragments ns path rest
          return nodes ++ after
    else do
      let children ← expand fragments ns path children
      let after ← expand fragments ns path rest
      return .element name attributes line children :: after
termination_by nodes => (fragments.offPath path, nodes)
decreasing_by
  all_goals first
    | exact Prod.Lex.left _ _ (Fragments.offPath_append_lt _hf (by simpa using _hp))
    | (apply Prod.Lex.right; simp only [List.cons.sizeOf_spec, Markup.Node.element.sizeOf_spec,
        Markup.Node.text.sizeOf_spec]; omega)

theorem expand_text (fs : Fragments) (ns : Option String) (path : List String) (t : String)
    (rest : List Markup.Node) :
    expand fs ns path (.text t :: rest) =
      (expand fs ns path rest).bind fun after => .ok (.text t :: after) := by
  rw [expand]
  rfl

theorem expand_include (fs : Fragments) (ns : Option String) (path : List String)
    (attributes : List (String × String)) (line : Nat) (children rest : List Markup.Node) :
    expand fs ns path (.element "include" attributes line children :: rest) =
      (required "include" attributes line "refid").bind fun reference =>
        let id := qualifyReference ns reference
        if path.contains id then .error (.builder (.circularInclude id path))
        else match fs.get? id with
          | none => .error (.unknownFragment id)
          | some nodes => (expand fs ns (path ++ [id]) nodes).bind fun nodes =>
              (expand fs ns path rest).bind fun after => .ok (nodes ++ after) := by
  rw [expand, if_pos rfl]
  cases required "include" attributes line "refid" with
  | error err => rfl
  | ok reference =>
    simp only [Except.bind]
    show (dite _ _ _ : Except Error (List Markup.Node)) = _
    split
    · rfl
    · split <;> rename_i hf <;> simp only [hf] <;> rfl

theorem expand_element (fs : Fragments) (ns : Option String) (path : List String) {name : String}
    (attributes : List (String × String)) (line : Nat) (children rest : List Markup.Node)
    (hn : name ≠ "include") :
    expand fs ns path (.element name attributes line children :: rest) =
      (expand fs ns path children).bind fun children =>
        (expand fs ns path rest).bind fun after =>
          .ok (.element name attributes line children :: after) := by
  rw [expand, if_neg hn]
  rfl

end Template

end MappedSql
