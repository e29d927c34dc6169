import MappedSql.Proofs.Mapper.Registering
import MappedSql.Proofs.Template.Namespaces

/- The names of a namespace's elements.

   An element is declared by its local name or by its whole id, and referred to by either. Both
   ways come to the same id, so a fragment is found by the name it was declared with
   (`Register.found_of_fragment`). A namespace may have dots and a local name has none, so an id
   tells both of them: elements of different namespaces do not clash, also where one namespace is
   the front of another (`qualify_agrees`). -/
namespace MappedSql

/-- The local name of an element that is declared in a namespace. -/
def localName (ns id : String) : String :=
  match Text.dropPiece? (ns.toList ++ ['.']) id.toList with
  | some rest => String.ofList rest
  | none => id

namespace Qualified

variable {ns name q : String}

theorem localName_name (h : Qualified ns name q) : localName ns name = name := by
  rw [localName, h.dropPiece?_name]

theorem localName_id (h : Qualified ns name q) : localName ns q = name := by
  rw [localName, h.dropPiece?_id]
  exact String.ofList_toList

/-- A local name refers to the element of the namespace. -/
theorem reference_name (h : Qualified ns name q) : qualifyReference (some ns) name = q := by
  rw [qualifyReference, h.contains_dot, h.eq]
  rfl

/-- An id refers to its element from every namespace. -/
theorem reference_id (h : Qualified ns name q) (other : Option String) :
    qualifyReference other q = q := by
  have hdot : '.' ∈ q.toList := by
    rw [h.toList_eq]
    simp
  exact qualifyReference_dotted hdot other

end Qualified

theorem qualified_localName {ns id q : String} (h : qualify ns id = .ok q) :
    Qualified ns (localName ns id) q := by
  obtain ⟨name, hq, rfl | rfl⟩ := qualify_eq_ok_iff.1 h
  · rwa [hq.localName_name]
  · rwa [hq.localName_id]

theorem qualifyReference_of_qualify {ns id q : String} (h : qualify ns id = .ok q) :
    qualifyReference (some ns) id = q := by
  obtain ⟨name, hq, rfl | rfl⟩ := qualify_eq_ok_iff.1 h
  · exact hq.reference_name
  · exact hq.reference_id (some ns)

/-! ## Fragments are found by their names -/

theorem Fragments.get?_concat {fs : Fragments} {id : String} (hnew : fs.get? id = none)
    (nodes : List Markup.Node) : get? (fs ++ [(id, nodes)]) id = some nodes := by
  induction fs with
  | nil => simp [get?]
  | cons f fs ih =>
    obtain ⟨k, ns⟩ := f
    rw [get?] at hnew
    rw [List.cons_append, get?]
    by_cases hk : id = k
    · rw [if_pos hk] at hnew
      cases hnew
    · rw [if_neg hk] at hnew ⊢
      exact ih hnew

theorem Registry.get?_addFragment {r r' : Registry} {id : String} {nodes : List Markup.Node}
    (h : r.addFragment id nodes = .ok r') : r'.fragments.get? id = some nodes := by
  unfold addFragment at h
  split at h
  · cases h
  · rename_i hnew
    cases h
    exact Fragments.get?_concat (by simpa using hnew) nodes

theorem FragmentDefinition.read_eq_ok {f : FragmentDefinition} {ns id : String}
    {nodes : List Markup.Node} (h : f.read ns = .ok (id, nodes)) :
    qualify ns f.id = .ok id ∧ Template.readFragment f.script = .ok nodes := by
  obtain ⟨id', hid, h⟩ := bind_eq_ok h
  cases hread : Template.readFragment f.script with
  | error e =>
    rw [hread] at h
    cases h
  | ok nodes' =>
    rw [hread] at h
    cases h
    exact ⟨hid, rfl⟩

/-- A fragment that is registered has an id of the namespace, and is found under it. -/
theorem Register.found_of_fragment {g g' : Registration} {id script q : String}
    (h : outcome (fragment id script) g = (.ok q, g')) :
    qualify g.ns id = .ok q ∧ ∃ nodes, Template.readFragment script = .ok nodes ∧
      g'.configuration.registry.fragments.get? q = some nodes := by
  rw [outcome_fragment ⟨id, script⟩ g] at h
  cases hread : FragmentDefinition.read ⟨id, script⟩ g.ns with
  | error e =>
    rw [hread] at h
    cases h
  | ok x =>
    obtain ⟨q', nodes⟩ := x
    obtain ⟨hid, hnodes⟩ := FragmentDefinition.read_eq_ok hread
    rw [hread] at h
    dsimp only at h
    cases hadd : g.configuration.registry.addFragment q' nodes with
    | error e =>
      rw [hadd] at h
      cases h
    | ok r =>
      rw [hadd] at h
      cases h
      exact ⟨hid, nodes, hnodes, Registry.get?_addFragment hadd⟩

/-- **Ids do not clash, and references agree with them.** The id that a namespace gives an element
is the namespace, a dot and the local name, which has no dot. The namespace leaves it as it is, and
takes a reference that is spelled as the declaration for it, so that a fragment is found by the name
it is registered with. Whatever comes to the same id is declared in the same namespace, with the
same local name. -/
theorem qualify_agrees {ns id q : String} (h : qualify ns id = .ok q) :
    Qualified ns (localName ns id) q ∧ qualify ns q = .ok q ∧
      qualifyReference (some ns) id = q ∧
      (∀ (g g' : Registration) (script registered : String), g.ns = ns →
        Register.outcome (Register.fragment id script) g = (.ok registered, g') →
        registered = q ∧ ∃ nodes, Template.readFragment script = .ok nodes ∧
          g'.configuration.registry.fragments.get? (qualifyReference (some ns) id) = some nodes) ∧
      ∀ ns' id', qualify ns' id' = .ok q → ns' = ns ∧ localName ns' id' = localName ns id := by
  have hq := qualified_localName h
  have href := qualifyReference_of_qualify h
  refine ⟨hq, hq.qualify_id, href, ?_, ?_⟩
  · rintro g g' script registered rfl hdone
    obtain ⟨hid, hfound⟩ := Register.found_of_fragment hdone
    rw [h] at hid
    cases hid
    rw [href]
    exact ⟨rfl, hfound⟩
  · intro ns' id' h'
    exact (qualified_localName h').unique hq

/-- A namespace with a dot in it. -/
def blog : Registration := ⟨"com.blog", none, none, .empty .standard⟩

/-- A fragment that is declared and referred to by its whole id. -/
theorem qualify_agrees_blog :
    qualify "com.blog" "com.blog.columns" = .ok "com.blog.columns" ∧
    qualify "com.blog" "columns" = .ok "com.blog.columns" ∧
    Qualified "com.blog" (localName "com.blog" "com.blog.columns") "com.blog.columns" ∧
    qualifyReference (some "com.blog") "com.blog.columns" = "com.blog.columns" ∧
    localName "com.blog" "columns" = localName "com.blog" "com.blog.columns" ∧
    ∃ g nodes, Register.outcome (Register.fragment "com.blog.columns" "id, name") blog =
        (.ok "com.blog.columns", g) ∧
      Template.readFragment "id, name" = .ok nodes ∧
      g.configuration.registry.fragments.get?
        (qualifyReference (some "com.blog") "com.blog.columns") = some nodes := by
  have hcolumns : Qualified "com.blog" "columns" "com.blog.columns" := ⟨by decide, by decide⟩
  have hwhole := hcolumns.qualify_id
  have hlocal := hcolumns.qualify_name
  have hdone : (Register.outcome (Register.fragment "com.blog.columns" "id, name") blog).1 =
      .ok "com.blog.columns" := by cbv
  rcases hrun : Register.outcome (Register.fragment "com.blog.columns" "id, name") blog with
    ⟨answer, g⟩
  rw [hrun] at hdone
  subst hdone
  obtain ⟨hq, -, href, hfound, hunique⟩ := qualify_agrees hwhole
  obtain ⟨-, nodes, hread, hget⟩ := hfound blog g "id, name" _ rfl hrun
  exact ⟨hwhole, hlocal, hq, href, (hunique _ _ hlocal).2, g, nodes, rfl, hread, hget⟩

end MappedSql
