import Mathlib.Logic.Relation
import MappedSql.Template.Include

/- What an expansion of includes gives, and when there is one.

   Fragments include each other, perhaps in a circle, and an expansion follows them
   through the registry. It is described here in three ways that have nothing of its
   recursion. As it is carried out, it has the path of open fragments as a state, which
   it changes before and after the nodes of a fragment (`Runs`). What it should give is
   the nodes with the expansion of the fragment in place of each include, wherever the
   include stands (`Expanded`). And the includes that it comes to are told from the
   registry alone (`Reaches`), as are the fragments that a fragment includes (`Enters`).

   Every expansion ends with the path as it was, one on an empty path succeeds exactly if
   what it comes to is there and leads back to nothing, and its result is the right one
   (`expand_exact`). -/
namespace MappedSql

namespace Markup.Node

/-- An element of this name is among the nodes, or at any depth below them. -/
inductive Within (name : String) : List Node → Prop
  | here {nodes : List Node} {attributes : List (String × String)} {line : Nat}
      {children : List Node} (h : .element name attributes line children ∈ nodes) :
      Within name nodes
  | deeper {nodes : List Node} {outer : String} {attributes : List (String × String)} {line : Nat}
      {children : List Node} (h : .element outer attributes line children ∈ nodes)
      (hw : Within name children) : Within name nodes

/-- An include with these attributes is among the nodes or below them. What stands in an include
gives way with it, and does not count. -/
inductive Includes : List Node → List (String × String) → Prop
  | here {nodes : List Node} {attributes : List (String × String)} {line : Nat}
      {children : List Node} (h : .element "include" attributes line children ∈ nodes) :
      Includes nodes attributes
  | deeper {nodes : List Node} {name : String} {own attributes : List (String × String)}
      {line : Nat} {children : List Node} (h : .element name own line children ∈ nodes)
      (hn : name ≠ "include") (hi : Includes children attributes) : Includes nodes attributes

variable {name : String} {own attributes : List (String × String)} {line : Nat}
  {children rest nodes : List Node} {s : String}

theorem not_within_nil : ¬ Within name [] := by
  rintro (h | ⟨h, -⟩) <;> cases h

theorem within_text : Within name (.text s :: rest) ↔ Within name rest := by
  constructor
  · rintro (h | ⟨h, hw⟩)
    · exact .here (List.mem_of_ne_of_mem (by simp) h)
    · exact .deeper (List.mem_of_ne_of_mem (by simp) h) hw
  · rintro (h | ⟨h, hw⟩)
    · exact .here (List.mem_cons_of_mem _ h)
    · exact .deeper (List.mem_cons_of_mem _ h) hw

theorem within_element {outer : String} :
    Within name (.element outer own line children :: rest) ↔
      name = outer ∨ Within name children ∨ Within name rest := by
  constructor
  · rintro (h | ⟨h, hw⟩) <;> rcases List.mem_cons.1 h with h | h
    · cases h
      exact .inl rfl
    · exact .inr (.inr (.here h))
    · cases h
      exact .inr (.inl hw)
    · exact .inr (.inr (.deeper h hw))
  · rintro (rfl | hw | (h | ⟨h, hw⟩))
    · exact .here List.mem_cons_self
    · exact .deeper List.mem_cons_self hw
    · exact .here (List.mem_cons_of_mem _ h)
    · exact .deeper (List.mem_cons_of_mem _ h) hw

theorem within_append : Within name (nodes ++ rest) ↔ Within name nodes ∨ Within name rest := by
  constructor
  · rintro (h | ⟨h, hw⟩) <;> rcases List.mem_append.1 h with h | h
    · exact .inl (.here h)
    · exact .inr (.here h)
    · exact .inl (.deeper h hw)
    · exact .inr (.deeper h hw)
  · rintro ((h | ⟨h, hw⟩) | (h | ⟨h, hw⟩))
    · exact .here (List.mem_append_left _ h)
    · exact .deeper (List.mem_append_left _ h) hw
    · exact .here (List.mem_append_right _ h)
    · exact .deeper (List.mem_append_right _ h) hw

theorem not_includes_nil : ¬ Includes [] attributes := by
  rintro (h | ⟨h, -, -⟩) <;> cases h

theorem includes_text : Includes (.text s :: rest) attributes ↔ Includes rest attributes := by
  constructor
  · rintro (h | ⟨h, hn, hi⟩)
    · exact .here (List.mem_of_ne_of_mem (by simp) h)
    · exact .deeper (List.mem_of_ne_of_mem (by simp) h) hn hi
  · rintro (h | ⟨h, hn, hi⟩)
    · exact .here (List.mem_cons_of_mem _ h)
    · exact .deeper (List.mem_cons_of_mem _ h) hn hi

theorem includes_include : Includes (.element "include" own line children :: rest) attributes ↔
    attributes = own ∨ Includes rest attributes := by
  constructor
  · rintro (h | ⟨h, hn, hi⟩) <;> rcases List.mem_cons.1 h with h | h
    · cases h
      exact .inl rfl
    · exact .inr (.here h)
    · cases h
      exact absurd rfl hn
    · exact .inr (.deeper h hn hi)
  · rintro (rfl | (h | ⟨h, hn, hi⟩))
    · exact .here List.mem_cons_self
    · exact .here (List.mem_cons_of_mem _ h)
    · exact .deeper (List.mem_cons_of_mem _ h) hn hi

theorem includes_element (hn : name ≠ "include") :
    Includes (.element name own line children :: rest) attributes ↔
      Includes children attributes ∨ Includes rest attributes := by
  constructor
  · rintro (h | ⟨h, hn', hi⟩) <;> rcases List.mem_cons.1 h with h | h
    · cases h
      exact absurd rfl hn
    · exact .inr (.here h)
    · cases h
      exact .inl hi
    · exact .inr (.deeper h hn' hi)
  · rintro (hi | (h | ⟨h, hn', hi⟩))
    · exact .deeper List.mem_cons_self hn hi
    · exact .here (List.mem_cons_of_mem _ h)
    · exact .deeper (List.mem_cons_of_mem _ h) hn' hi

end Markup.Node

open Markup (Node)

namespace Template

/-- The fragment that an include with these attributes refers to. -/
def reference? (ns : Option String) (attributes : List (String × String)) : Option String :=
  (attribute? attributes "refid").map (qualifyReference ns)

theorem reference?_eq_some {ns : Option String} {attributes : List (String × String)}
    {id : String} (line : Nat) : reference? ns attributes = some id ↔
      ∃ reference, required "include" attributes line "refid" = .ok reference ∧
        qualifyReference ns reference = id := by
  rw [reference?, required]
  cases attribute? attributes "refid" <;> simp

end Template

/-! ## The includes that an expansion comes to -/

namespace Fragments

open Template (reference?)

/-- The first fragment includes the second one. -/
def Enters (fs : Fragments) (ns : Option String) (id id' : String) : Prop :=
  ∃ nodes attributes, fs.get? id = some nodes ∧ Node.Includes nodes attributes ∧
    reference? ns attributes = some id'

/-- An include with these attributes is among the nodes, or comes in by other includes. -/
inductive Reaches (fs : Fragments) (ns : Option String) :
    List Node → List (String × String) → Prop
  | here {nodes : List Node} {attributes : List (String × String)}
      (hi : Node.Includes nodes attributes) : Reaches fs ns nodes attributes
  | inside {nodes inner : List Node} {outer attributes : List (String × String)} {id : String}
      (hi : Node.Includes nodes outer) (hid : reference? ns outer = some id)
      (hf : fs.get? id = some inner) (hr : Reaches fs ns inner attributes) :
      Reaches fs ns nodes attributes

variable {fs : Fragments} {ns : Option String} {nodes inner : List Node}
  {attributes : List (String × String)} {id id' : String}

/-- A fragment leads to all that its nodes reach. -/
theorem Reaches.enters (hr : fs.Reaches ns inner attributes) (hf : fs.get? id = some inner)
    (hid : reference? ns attributes = some id') : Relation.TransGen (fs.Enters ns) id id' := by
  induction hr generalizing id with
  | here hi => exact .single ⟨_, _, hf, hi, hid⟩
  | inside hi ho hf' _ ih => exact .head ⟨_, _, hf, hi, ho⟩ (ih hf' hid)

end Fragments

namespace Template

variable {fs : Fragments} {ns : Option String} {path path' : List String}
  {nodes inner rest children : List Node} {own attributes : List (String × String)} {line : Nat}
  {name s id id' : String}

/-- Whether the expansion of the nodes succeeds. -/
def Completes (fs : Fragments) (ns : Option String) (path : List String) (nodes : List Node) :
    Prop :=
  ∃ out, expand fs ns path nodes = .ok out

theorem completes_text :
    Completes fs ns path (.text s :: rest) ↔ Completes fs ns path rest := by
  simp only [Completes, expand_text]
  cases expand fs ns path rest <;> simp [Except.bind]

theorem completes_element (hn : name ≠ "include") :
    Completes fs ns path (.element name own line children :: rest) ↔
      Completes fs ns path children ∧ Completes fs ns path rest := by
  simp only [Completes, expand_element _ _ _ _ _ _ _ hn]
  cases expand fs ns path children with
  | error err => simp [Except.bind]
  | ok out => cases expand fs ns path rest <;> simp [Except.bind]

/-- A fragment that an include can be replaced by: it is there, is not open, and can be expanded
itself. -/
def Replaceable (fs : Fragments) (ns : Option String) (path : List String)
    (attributes : List (String × String)) : Prop :=
  ∃ id inner, reference? ns attributes = some id ∧ id ∉ path ∧ fs.get? id = some inner ∧
    Completes fs ns (path ++ [id]) inner

theorem completes_include :
    Completes fs ns path (.element "include" own line children :: rest) ↔
      Replaceable fs ns path own ∧ Completes fs ns path rest := by
  simp only [Replaceable, Completes, expand_include, reference?_eq_some line]
  cases required "include" own line "refid" with
  | error err => simp [Except.bind]
  | ok reference =>
    by_cases hp : qualifyReference ns reference ∈ path
    · simp [Except.bind, hp]
    · cases hf : fs.get? (qualifyReference ns reference) with
      | none => simp [Except.bind, hp, hf]
      | some inner =>
        cases hi : expand fs ns (path ++ [qualifyReference ns reference]) inner with
        | error err => simp [Except.bind, hp, hf, hi]
        | ok out => cases hr : expand fs ns path rest <;> simp [Except.bind, hp, hf, hi]

/-- An expansion succeeds exactly if all includes of the nodes can be replaced. -/
theorem completes_iff : Completes fs ns path nodes ↔
    ∀ attributes, Node.Includes nodes attributes → Replaceable fs ns path attributes := by
  induction path, nodes using expand.induct fs ns with
  | case1 path =>
    exact ⟨fun _ _ hi => absurd hi Node.not_includes_nil, fun _ => ⟨[], by rw [expand]⟩⟩
  | case2 path s rest ih =>
    rw [completes_text, ih]
    simp only [Node.includes_text]
  | case3 path own line children rest _ ih =>
    rw [completes_include, ih]
    simp only [Node.includes_include, forall_eq_or_imp]
  | case4 path name own line children rest hn ihc ih =>
    rw [completes_element hn, ihc, ih]
    simp only [Node.includes_element hn, or_imp, forall_and]

/-- An include that can be replaced is so by the fragment that it refers to. -/
theorem Replaceable.opened (h : Replaceable fs ns path attributes)
    (hid : reference? ns attributes = some id) :
    id ∉ path ∧ ∃ inner, fs.get? id = some inner ∧ Completes fs ns (path ++ [id]) inner := by
  obtain ⟨id', inner, hid', hp, hf, hc⟩ := h
  rw [hid] at hid'
  cases hid'
  exact ⟨hp, inner, hf, hc⟩

/-- Each include that a successful expansion comes to is replaced, on the path on which it is come
to. -/
theorem Completes.reached (h : Completes fs ns path nodes) (hr : fs.Reaches ns nodes attributes) :
    ∃ longer, Replaceable fs ns longer attributes := by
  induction hr generalizing path with
  | here hi => exact ⟨path, completes_iff.1 h _ hi⟩
  | inside hi ho hf _ ih =>
    obtain ⟨-, inner, hf', hc⟩ := (completes_iff.1 h _ hi).opened ho
    rw [hf] at hf'
    cases hf'
    exact ih hc

/-- All includes that a successful expansion comes to are registered. -/
theorem Completes.registered (h : Completes fs ns path nodes)
    (hr : fs.Reaches ns nodes attributes) :
    ∃ id inner, reference? ns attributes = some id ∧ fs.get? id = some inner := by
  obtain ⟨_, id, inner, hid, -, hf, -⟩ := h.reached hr
  exact ⟨id, inner, hid, hf⟩

theorem Completes.enters (h : Completes fs ns path nodes) (hf : fs.get? id = some nodes)
    (he : fs.Enters ns id id') :
    id' ∉ path ∧ ∃ inner, fs.get? id' = some inner ∧ Completes fs ns (path ++ [id']) inner := by
  obtain ⟨nodes', attributes, hf', hi, hid⟩ := he
  rw [hf] at hf'
  cases hf'
  exact (completes_iff.1 h _ hi).opened hid

/-- What the nodes of an open fragment lead to is expanded on a longer path, and was not open. -/
theorem Completes.entered (h : Completes fs ns path nodes) (hf : fs.get? id = some nodes)
    (he : Relation.TransGen (fs.Enters ns) id id') :
    id' ∉ path ∧ ∃ longer inner, path ⊆ longer ∧ fs.get? id' = some inner ∧
      Completes fs ns longer inner := by
  induction he with
  | single he =>
    obtain ⟨hp, inner, hf', hc⟩ := h.enters hf he
    exact ⟨hp, _, inner, List.subset_append_left _ _, hf', hc⟩
  | tail _ he ih =>
    obtain ⟨-, longer, nodes', hsub, hf', hc'⟩ := ih
    obtain ⟨hp, inner, hf'', hc⟩ := hc'.enters hf' he
    refine ⟨fun h => hp (hsub h), _, inner, List.Subset.trans hsub ?_, hf'', hc⟩
    exact List.subset_append_left _ _

/-- No include that a successful expansion comes to leads back to itself. -/
theorem Completes.acyclic (h : Completes fs ns path nodes) (hr : fs.Reaches ns nodes attributes)
    (hid : reference? ns attributes = some id) : ¬ Relation.TransGen (fs.Enters ns) id id := by
  obtain ⟨longer, hreplaceable⟩ := h.reached hr
  obtain ⟨-, inner, hf, hc⟩ := hreplaceable.opened hid
  exact fun he => (hc.entered hf he).1 (by simp)

/-- An expansion succeeds if all that it comes to is registered, leads back to nothing, and is not
open. The induction is on the fragments that are not open. -/
theorem completes_of_reaches {path : List String} {nodes : List Node}
    (hreg : ∀ attributes, fs.Reaches ns nodes attributes →
      ∃ id inner, reference? ns attributes = some id ∧ fs.get? id = some inner)
    (hac : ∀ attributes id, fs.Reaches ns nodes attributes → reference? ns attributes = some id →
      ¬ Relation.TransGen (fs.Enters ns) id id)
    (hopen : ∀ attributes id, fs.Reaches ns nodes attributes →
      reference? ns attributes = some id → id ∉ path) : Completes fs ns path nodes := by
  rw [completes_iff]
  intro outer hi
  obtain ⟨id, inner, hid, hf⟩ := hreg outer (.here hi)
  have hp : id ∉ path := hopen outer id (.here hi) hid
  have hlt : fs.offPath (path ++ [id]) < fs.offPath path :=
    Fragments.offPath_append_lt hf (by simpa using hp)
  refine ⟨id, inner, hid, hp, hf, completes_of_reaches ?_ ?_ ?_⟩
  · exact fun attributes hr => hreg attributes (.inside hi hid hf hr)
  · exact fun attributes id' hr => hac attributes id' (.inside hi hid hf hr)
  · intro attributes id' hr hid' hmem
    rcases List.mem_append.1 hmem with hmem | hmem
    · exact hopen attributes id' (.inside hi hid hf hr) hid' hmem
    · cases List.mem_singleton.1 hmem
      exact hac outer _ (.here hi) hid (hr.enters hf hid')
termination_by fs.offPath path

/-! ## What an expansion gives -/

/-- The second list is the first one with every include replaced in its place by the expansion of
its fragment. -/
inductive Expanded (fs : Fragments) (ns : Option String) : List Node → List Node → Prop
  | nil : Expanded fs ns [] []
  | text {s : String} {rest after : List Node} (hr : Expanded fs ns rest after) :
      Expanded fs ns (.text s :: rest) (.text s :: after)
  | element {name : String} {own : List (String × String)} {line : Nat}
      {children rest below after : List Node} (hn : name ≠ "include")
      (hc : Expanded fs ns children below) (hr : Expanded fs ns rest after) :
      Expanded fs ns (.element name own line children :: rest)
        (.element name own line below :: after)
  | replaced {own : List (String × String)} {line : Nat} {id : String}
      {children rest inner instead after : List Node} (hid : reference? ns own = some id)
      (hf : fs.get? id = some inner) (hi : Expanded fs ns inner instead)
      (hr : Expanded fs ns rest after) :
      Expanded fs ns (.element "include" own line children :: rest) (instead ++ after)

variable {out out' : List Node}

theorem expanded_of_ok (h : expand fs ns path nodes = .ok out) : Expanded fs ns nodes out := by
  induction path, nodes using expand.induct fs ns generalizing out with
  | case1 path =>
    rw [expand] at h
    cases h
    exact .nil
  | case2 path s rest ih =>
    rw [expand_text] at h
    cases hr : expand fs ns path rest with
    | error err =>
      rw [hr] at h
      cases h
    | ok after =>
      rw [hr] at h
      cases h
      exact .text (ih hr)
  | case3 path own line children rest ihi ih =>
    obtain ⟨⟨id, inner, hid, hp, hf, instead, hi⟩, after, hr⟩ := completes_include.1 ⟨out, h⟩
    obtain ⟨reference, href, rfl⟩ := (reference?_eq_some line).1 hid
    have hp : ¬ path.contains (qualifyReference ns reference) = true := by simpa using hp
    rw [expand_include, href] at h
    simp only [Except.bind, if_neg hp, hf, hi, hr] at h
    cases h
    exact .replaced hid hf (ihi reference hp inner hf hi) (ih hr)
  | case4 path name own line children rest hn ihc ih =>
    obtain ⟨⟨below, hc⟩, after, hr⟩ := (completes_element hn).1 ⟨out, h⟩
    rw [expand_element _ _ _ _ _ _ _ hn, hc, hr] at h
    cases h
    exact .element hn (ihc hc) (ih hr)

/-- There is one result at most, whatever the registry. -/
theorem Expanded.unique (h : Expanded fs ns nodes out) (h' : Expanded fs ns nodes out') :
    out = out' := by
  induction h generalizing out' with
  | nil =>
    cases h'
    rfl
  | text _ ih =>
    cases h' with
    | text hr => rw [ih hr]
  | element hn _ _ ihc ih =>
    cases h' with
    | element _ hc hr => rw [ihc hc, ih hr]
    | replaced => exact absurd rfl hn
  | replaced hid hf _ _ ihi ih =>
    cases h' with
    | element hn => exact absurd rfl hn
    | replaced hid' hf' hi hr =>
      rw [hid] at hid'
      cases hid'
      rw [hf] at hf'
      cases hf'
      rw [ihi hi, ih hr]

theorem Expanded.not_within (h : Expanded fs ns nodes out) : ¬ Node.Within "include" out := by
  induction h with
  | nil => exact Node.not_within_nil
  | text _ ih => rwa [Node.within_text]
  | element hn _ _ ihc ih =>
    rw [Node.within_element]
    rintro (rfl | hw | hw)
    · exact hn rfl
    · exact ihc hw
    · exact ih hw
  | replaced _ _ _ _ ihi ih =>
    rw [Node.within_append]
    rintro (hw | hw)
    · exact ihi hw
    · exact ih hw

/-! ## How an expansion is carried out -/

/-- An expansion with the path of open fragments as its state: from the path before it and the
nodes to its answer and the path after it. A fragment is put on the path before its nodes, and what
is last on the path is taken off after them, whatever their answer. -/
inductive Runs (fs : Fragments) (ns : Option String) :
    List String → List Node → Except Error (List Node) → List String → Prop
  | nil {path : List String} : Runs fs ns path [] (.ok []) path
  | text {path path' : List String} {s : String} {rest : List Node}
      {answer : Except Error (List Node)} (hr : Runs fs ns path rest answer path') :
      Runs fs ns path (.text s :: rest) (answer.map (.text s :: ·)) path'
  | element {path path₁ path₂ : List String} {name : String} {own : List (String × String)}
      {line : Nat} {children rest below : List Node} {answer : Except Error (List Node)}
      (hn : name ≠ "include") (hc : Runs fs ns path children (.ok below) path₁)
      (hr : Runs fs ns path₁ rest answer path₂) :
      Runs fs ns path (.element name own line children :: rest)
        (answer.map (.element name own line below :: ·)) path₂
  | elementFails {path path₁ : List String} {name : String} {own : List (String × String)}
      {line : Nat} {children rest : List Node} {err : Error} (hn : name ≠ "include")
      (hc : Runs fs ns path children (.error err) path₁) :
      Runs fs ns path (.element name own line children :: rest) (.error err) path₁
  | unnamed {path : List String} {own : List (String × String)} {line : Nat}
      {children rest : List Node} {err : Error}
      (href : required "include" own line "refid" = .error err) :
      Runs fs ns path (.element "include" own line children :: rest) (.error err) path
  | circular {path : List String} {own : List (String × String)} {line : Nat}
      {children rest : List Node} {reference : String}
      (href : required "include" own line "refid" = .ok reference)
      (hp : qualifyReference ns reference ∈ path) :
      Runs fs ns path (.element "include" own line children :: rest)
        (.error (.builder (.circularInclude (qualifyReference ns reference) path))) path
  | unknown {path : List String} {own : List (String × String)} {line : Nat}
      {children rest : List Node} {reference : String}
      (href : required "include" own line "refid" = .ok reference)
      (hp : qualifyReference ns reference ∉ path)
      (hf : fs.get? (qualifyReference ns reference) = none) :
      Runs fs ns path (.element "include" own line children :: rest)
        (.error (.unknownFragment (qualifyReference ns reference))) path
  | replaced {path path₁ path₂ : List String} {own : List (String × String)} {line : Nat}
      {children rest inner instead : List Node} {reference : String}
      {answer : Except Error (List Node)}
      (href : required "include" own line "refid" = .ok reference)
      (hp : qualifyReference ns reference ∉ path)
      (hf : fs.get? (qualifyReference ns reference) = some inner)
      (hi : Runs fs ns (path ++ [qualifyReference ns reference]) inner (.ok instead) path₁)
      (hr : Runs fs ns path₁.dropLast rest answer path₂) :
      Runs fs ns path (.element "include" own line children :: rest)
        (answer.map (instead ++ ·)) path₂
  | replacementFails {path path₁ : List String} {own : List (String × String)} {line : Nat}
      {children rest inner : List Node} {reference : String} {err : Error}
      (href : required "include" own line "refid" = .ok reference)
      (hp : qualifyReference ns reference ∉ path)
      (hf : fs.get? (qualifyReference ns reference) = some inner)
      (hi : Runs fs ns (path ++ [qualifyReference ns reference]) inner (.error err) path₁) :
      Runs fs ns path (.element "include" own line children :: rest) (.error err) path₁.dropLast

variable {answer : Except Error (List Node)}

/-- A run gives the answer of the expansion and leaves the path as it was. -/
theorem Runs.eq_expand (h : Runs fs ns path nodes answer path') :
    answer = expand fs ns path nodes ∧ path' = path := by
  induction h with
  | nil => exact ⟨by rw [expand], rfl⟩
  | text _ ih =>
    obtain ⟨rfl, rfl⟩ := ih
    rw [expand_text]
    exact ⟨rfl, rfl⟩
  | element hn _ _ ihc ih =>
    obtain ⟨hc, rfl⟩ := ihc
    obtain ⟨rfl, rfl⟩ := ih
    rw [expand_element _ _ _ _ _ _ _ hn, ← hc]
    exact ⟨rfl, rfl⟩
  | elementFails hn _ ihc =>
    obtain ⟨hc, rfl⟩ := ihc
    rw [expand_element _ _ _ _ _ _ _ hn, ← hc]
    exact ⟨rfl, rfl⟩
  | unnamed href =>
    rw [expand_include, href]
    exact ⟨rfl, rfl⟩
  | circular href hp =>
    rw [expand_include, href]
    exact ⟨(if_pos (by simpa using hp)).symm, rfl⟩
  | unknown href hp hf =>
    rw [expand_include, href]
    simp [Except.bind, hp, hf]
  | replaced href hp hf _ _ ihi ih =>
    obtain ⟨hi, rfl⟩ := ihi
    rw [List.dropLast_concat] at ih
    obtain ⟨rfl, rfl⟩ := ih
    refine ⟨?_, rfl⟩
    rw [expand_include, href]
    simp only [Except.bind, List.contains_eq_mem, hp, decide_false, hf, ← hi]
    rfl
  | replacementFails href hp hf _ ihi =>
    obtain ⟨hi, rfl⟩ := ihi
    rw [expand_include, href]
    simp [Except.bind, hp, hf, ← hi]

/-- Every expansion comes to an end. -/
theorem runs_expand (fs : Fragments) (ns : Option String) (path : List String)
    (nodes : List Node) : Runs fs ns path nodes (expand fs ns path nodes) path := by
  induction path, nodes using expand.induct fs ns with
  | case1 path =>
    rw [expand]
    exact .nil
  | case2 path s rest ih =>
    rw [expand_text]
    exact .text ih
  | case3 path own line children rest ihi ih =>
    rw [expand_include]
    cases href : required "include" own line "refid" with
    | error err => exact .unnamed href
    | ok reference =>
      by_cases hp : path.contains (qualifyReference ns reference) = true
      · simp only [Except.bind, if_pos hp]
        exact .circular href (by simpa using hp)
      · have hmem : qualifyReference ns reference ∉ path := by simpa using hp
        simp only [Except.bind, if_neg hp]
        cases hf : fs.get? (qualifyReference ns reference) with
        | none => exact .unknown href hmem hf
        | some inner =>
          have hrun := ihi reference hp inner hf
          dsimp only
          cases hi : expand fs ns (path ++ [qualifyReference ns reference]) inner with
          | error err =>
            rw [hi] at hrun
            have h : Runs fs ns path (.element "include" own line children :: rest)
                (.error err) (path ++ [qualifyReference ns reference]).dropLast :=
              .replacementFails href hmem hf hrun
            rwa [List.dropLast_concat] at h
          | ok instead =>
            rw [hi] at hrun
            refine .replaced href hmem hf hrun ?_
            rwa [List.dropLast_concat]
  | case4 path name own line children rest hn ihc ih =>
    rw [expand_element _ _ _ _ _ _ _ hn]
    cases hc : expand fs ns path children with
    | error err =>
      rw [hc] at ihc
      exact .elementFails hn ihc
    | ok below =>
      rw [hc] at ihc
      exact .element hn ihc ih

/-- An expansion always ends, and leaves the path as it was. On an empty path it succeeds exactly
if every include that it comes to names a registered fragment that does not lead back to itself.
Its result then has no include, and is the only one that has the expansion of its fragment in the
place of each include and is like the nodes elsewhere. -/
theorem expand_exact (fs : Fragments) (ns : Option String) (path : List String)
    (nodes : List Node) :
    (∀ answer path', Runs fs ns path nodes answer path' ↔
      answer = expand fs ns path nodes ∧ path' = path) ∧
    ((∃ out, expand fs ns [] nodes = .ok out) ↔
      (∀ attributes, fs.Reaches ns nodes attributes →
        ∃ id inner, reference? ns attributes = some id ∧ fs.get? id = some inner) ∧
      ∀ attributes id, fs.Reaches ns nodes attributes → reference? ns attributes = some id →
        ¬ Relation.TransGen (fs.Enters ns) id id) ∧
    ∀ out, expand fs ns path nodes = .ok out →
      ¬ Node.Within "include" out ∧ ∀ out', Expanded fs ns nodes out' ↔ out' = out := by
  refine ⟨fun answer path' => ⟨Runs.eq_expand, ?_⟩, ⟨fun h => ⟨fun attributes => ?_, ?_⟩, ?_⟩, ?_⟩
  · rintro ⟨rfl, rfl⟩
    exact runs_expand fs ns path' nodes
  · exact Completes.registered h
  · exact fun attributes id => Completes.acyclic h
  · rintro ⟨hreg, hac⟩
    exact completes_of_reaches hreg hac fun _ _ _ _ => List.not_mem_nil
  · intro out hout
    have h := expanded_of_ok hout
    exact ⟨h.not_within, fun out' => ⟨fun h' => h'.unique h, fun he => he ▸ h⟩⟩

end Template

end MappedSql
