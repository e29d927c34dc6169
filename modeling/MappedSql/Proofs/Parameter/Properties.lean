import Mathlib.Data.List.Forall2
import MappedSql.Proofs.Parameter.Renaming
import MappedSql.Proofs.Text.Fields

/- The property of a mapping.

   A placeholder begins with its property, and an attribute may give it another one; of several
   such attributes the last one counts (`property_of_content`). Whatever is given has no blanks
   around it and no comma in it. A property that the placeholder begins with is not empty, since
   then the placeholder could not be read. One that an attribute gives may be empty: this
   is the one way in which a statement gets a mapping without a property (`mark_property`), and
   such a mapping stands for the whole parameter (`BoundStatement.valueOf_noProperty`). -/
namespace MappedSql

namespace Placeholder

open Text (trimmed cut? fields pieces markers)

/-- The property that an attribute gives, if it gives one. -/
def givenIn? (cs : List Char) : Option (List Char) :=
  match cut? '=' cs with
  | some (name, value) => if trimmed name = "property".toList then some (trimmed value) else none
  | none => none

/-- The property that the attributes of a placeholder give: the last one counts. -/
def given? (content : List Char) : Option (List Char) :=
  ((split (trimmed content)).2.filterMap givenIn?).getLast?

/-- The property of a placeholder. -/
def propertyOf (content : List Char) : List Char := (given? content).getD (pathOf content)

/-! ## Reading a property -/

theorem property_of_setting {name value : String} {m m' : ParameterMapping}
    (h : setAttribute m name value = .ok m') :
    m'.property = if name = "property" then value else m.property := by
  by_cases hname : name = "property"
  · rw [if_pos hname]
    rw [hname] at h
    cases h
    rfl
  · have hp := setAttribute_path hname m value m.property
    rw [show { m with property := m.property } = m from rfl, h] at hp
    rw [if_neg hname, Except.ok.inj hp]

theorem property_of_attribute {cs : List Char} {m m' : ParameterMapping}
    (h : readAttribute m cs = .ok m') :
    m'.property = ((givenIn? cs).map String.ofList).getD m.property := by
  unfold readAttribute at h
  unfold givenIn?
  cases hc : cut? '=' cs with
  | none =>
    rw [hc] at h
    cases h
  | some parts =>
    rw [hc] at h
    rw [property_of_setting h]
    have hname : String.ofList (trimmed parts.1) = "property" ↔
        trimmed parts.1 = "property".toList := by
      rw [← String.toList_inj, String.toList_ofList]
    by_cases hp : trimmed parts.1 = "property".toList
    · rw [if_pos (hname.2 hp)]
      simp only [if_pos hp]
      rfl
    · rw [if_neg (mt hname.1 hp)]
      simp only [if_neg hp]
      rfl

theorem property_of_attributes {attributes : List (List Char)} {m m' : ParameterMapping}
    (h : attributes.foldlM readAttribute m = .ok m') :
    m'.property = ((attributes.filterMap givenIn?).getLast?.map String.ofList).getD m.property := by
  induction attributes generalizing m with
  | nil =>
    cases h
    rfl
  | cons cs attributes ih =>
    rw [List.foldlM_cons] at h
    obtain ⟨m₁, hfirst, hrest⟩ := bind_eq_ok h
    rw [ih hrest, property_of_attribute hfirst]
    -- What a later attribute gives counts over this one.
    cases hg : givenIn? cs with
    | none => simp [hg]
    | some p =>
      cases ht : (attributes.filterMap givenIn?).getLast? <;> simp [hg, List.getLast?_cons, ht]

/-- The property of a mapping is that of its placeholder. -/
theorem property_of_content {content : List Char} {m : ParameterMapping}
    (h : readContent content = .ok m) :
    m.property = String.ofList (propertyOf content) ∧ pathOf content ≠ [] := by
  obtain ⟨m₀, hhead, hrest⟩ := readContent_eq_ok h
  obtain ⟨hpath, hne⟩ := property_of_readHead hhead
  refine ⟨?_, hne⟩
  rw [property_of_attributes hrest, hpath, propertyOf, given?]
  cases ((split (trimmed content)).2.filterMap givenIn?).getLast? <;> rfl

/-! ## What a property is like -/

theorem givenIn?_spec {cs p : List Char} (hcs : ',' ∉ cs) (h : givenIn? cs = some p) :
    trimmed p = p ∧ ',' ∉ p := by
  unfold givenIn? at h
  cases hc : cut? '=' cs with
  | none =>
    rw [hc] at h
    cases h
  | some parts =>
    obtain ⟨name, value⟩ := parts
    obtain ⟨rfl, -⟩ := Text.cut?_eq_some hc
    rw [hc] at h
    simp only [Option.ite_none_right_eq_some, Option.some.injEq] at h
    obtain ⟨-, rfl⟩ := h
    refine ⟨Text.trimmed_trimmed value, fun hmem => hcs ?_⟩
    exact List.mem_append_right _ (List.mem_cons_of_mem _ (Text.mem_of_mem_trimmed hmem))

theorem not_mem_of_mem_split {content cs : List Char} (h : cs ∈ (split content).2) : ',' ∉ cs := by
  unfold split at h
  split at h
  · exact Text.not_mem_of_mem_fields (List.mem_filter.1 h).1
  · cases h

theorem pathOf_trimmed (content : List Char) : trimmed (pathOf content) = pathOf content := by
  unfold pathOf
  split <;> exact Text.trimmed_trimmed _

/-- A property has no blanks around it and no comma in it. -/
theorem propertyOf_spec (content : List Char) :
    trimmed (propertyOf content) = propertyOf content ∧ ',' ∉ propertyOf content := by
  unfold propertyOf
  cases hg : given? content with
  | none =>
    obtain ⟨rest, -, -, hpath⟩ := pathOf_append content
    exact ⟨pathOf_trimmed content, fun hmem => (hpath ',' hmem).1 rfl⟩
  | some p =>
    obtain ⟨cs, hcs, hp⟩ := List.mem_filterMap.1 (List.mem_of_getLast? hg)
    exact givenIn?_spec (not_mem_of_mem_split hcs) hp

/-- The mappings of a text are those of its placeholders, in order. -/
theorem read_of_markAll {ps : List Text.Piece} {m : Marked} (h : markAll ps = .ok m) :
    List.Forall₂ (fun content mapping => read (String.ofList content) = .ok mapping)
      (markers ps) m.mappings := by
  induction ps generalizing m with
  | nil =>
    cases h
    exact .nil
  | cons piece ps ih =>
    cases piece with
    | literal s =>
      obtain ⟨m', hm', h⟩ := bind_eq_ok h
      cases h
      show List.Forall₂ _ (markers ps) m'.mappings
      exact ih hm'
    | marker content =>
      obtain ⟨p, hp, h⟩ := bind_eq_ok h
      obtain ⟨m', hm', h⟩ := bind_eq_ok h
      cases h
      exact .cons hp (ih hm')

/-- The property of each mapping of a text has no blanks around it and no comma in it, and it is
empty exactly if the last attribute of the placeholder that gives a property gives an empty one. -/
theorem mark_property {text : String} {m : Marked} (h : mark text = .ok m) :
    List.Forall₂ (fun content (mapping : ParameterMapping) =>
        Text.trim mapping.property = mapping.property ∧ ',' ∉ mapping.property.toList ∧
          (mapping.property = "" ↔ given? content = some []))
      (markers (pieces delimiters text.toList)) m.mappings := by
  refine (read_of_markAll h).imp fun content mapping hread => ?_
  have hcontent : readContent content = .ok mapping := by
    rw [read, String.toList_ofList] at hread
    cases hc : readContent content with
    | error e =>
      rw [hc] at hread
      cases hread
    | ok p =>
      rw [hc] at hread
      cases hread
      rfl
  obtain ⟨hproperty, hne⟩ := property_of_content hcontent
  obtain ⟨htrimmed, hcomma⟩ := propertyOf_spec content
  rw [hproperty, Text.trim, String.toList_ofList, htrimmed]
  refine ⟨rfl, hcomma, ?_⟩
  rw [← String.toList_inj, String.toList_ofList, propertyOf]
  cases given? content with
  | none => simp [hne]
  | some p => simp

/-- The last of the given properties counts, here over an empty one. -/
theorem mark_property_given :
    mark "#\x7ba\x7d #\x7b a, property=,property = b.c \x7d" =
      .ok ⟨"? ?", [.ofProperty "a", .ofProperty "b.c"]⟩ ∧
    List.Forall₂ (fun content (mapping : ParameterMapping) =>
        Text.trim mapping.property = mapping.property ∧ ',' ∉ mapping.property.toList ∧
          (mapping.property = "" ↔ given? content = some []))
      (markers (pieces delimiters "#\x7ba\x7d #\x7b a, property=,property = b.c \x7d".toList))
      [.ofProperty "a", .ofProperty "b.c"] := by
  have h : mark "#\x7ba\x7d #\x7b a, property=,property = b.c \x7d" =
      .ok ⟨"? ?", [.ofProperty "a", .ofProperty "b.c"]⟩ := by cbv
  exact ⟨h, mark_property h⟩

end Placeholder

/-! ## Without a property -/

theorem Value.read_empty (v : Value) : v.read "" = .ok v := by
  have hpath : Path.parse (Text.trim "") = .ok [] := by cbv
  rw [Value.read, hpath]
  show Path.walk v [] = .ok v
  cases v <;> rfl

namespace BoundStatement

/-- A mapping without a property stands for the whole parameter, unless a side value has the empty
name. -/
theorem valueOf_noProperty {b : BoundStatement} {m : ParameterMapping} (hm : m.property = "")
    (hside : b.hasSide "" = false) : b.valueOf m = .ok b.parameter := by
  have hnone : Fields.get? b.side (Path.root "") = none := by
    simpa [hasSide, Fields.has] using hside
  rw [valueOf, hm, sideValue, hnone]
  cases hp : b.parameter with
  | null => rfl
  | bool _ | num _ | str _ => rfl
  | arr items => exact Value.read_empty (.arr items)
  | obj fields => exact Value.read_empty (.obj fields)

end BoundStatement

namespace Placeholder

/-- An attribute takes the property away, and the statement gets the whole parameter. -/
theorem property_taken :
    mark "#\x7ba,property=\x7d" = .ok ⟨"?", [.ofProperty ""]⟩ ∧
      BoundStatement.values ⟨"?", [.ofProperty ""], .obj [("a", .bool true)], []⟩ =
        .ok [.obj [("a", .bool true)]] := by
  refine ⟨by cbv, ?_⟩
  cbv

end Placeholder

end MappedSql
