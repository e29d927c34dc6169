import MappedSql.Proofs.Template.Renamed
import MappedSql.Proofs.Template.Runs

/- Compositions beside the walk over their templates.

   What a part of a plain template composes is told by `Composed`: the names are bound as before,
   the side table only grows by fresh names, and the text that is added writes the placeholders
   that the walk has noted (`Writes`). -/
namespace MappedSql

open Placeholder (Clean Contents Sealed endsOpen delimiters)
open Expression (Item)
open Text (trimRight trimmed)

/-! ## Texts -/

theorem Text.mem_markers {content : List Char} {ps : List Piece} :
    content ∈ markers ps ↔ .marker content ∈ ps := by
  induction ps with
  | nil => simp [markers]
  | cons p ps ih => cases p <;> simp [markers, ih]

/-- A text of the composition writes these placeholders of the template. -/
def Writes (side : Fields) (s : Scope) (cs : List Char) (ms : List Mention) : Prop :=
  ∃ contents, Contents cs contents ∧ List.Forall₂ (Stands side s) contents ms

namespace Writes

variable {side : Fields} {s : Scope} {cs ds : List Char} {ms ms' : List Mention}

theorem clean (h : Clean cs) : Writes side s cs [] := ⟨[], .text h, .nil⟩

theorem mono {side' : Fields} (h : Writes side s cs ms)
    (hside : ∀ name v, Fields.get? side name = some v → Fields.get? side' name = some v) :
    Writes side' s cs ms := by
  obtain ⟨contents, hc, hm⟩ := h
  exact ⟨contents, hc, hm.imp fun _ _ hs => hs.mono hside⟩

theorem append (h : Writes side s cs ms) (h' : Writes side s ds ms') (hs : endsOpen cs = false) :
    Writes side s (cs ++ ds) (ms ++ ms') := by
  obtain ⟨contents, hc, hm⟩ := h
  obtain ⟨contents', hc', hm'⟩ := h'
  refine ⟨contents ++ contents', hc.append hc' fun ho => ?_, List.rel_append hm hm'⟩
  rw [hs] at ho
  cases ho

/-- A blank behind a text never matters. -/
theorem blank (h : Writes side s cs ms) : Writes side s (cs ++ [' ']) ms := by
  obtain ⟨contents, hc, hm⟩ := h
  have hblank : Contents [' '] [] := .text (by decide)
  refine ⟨contents, ?_, hm⟩
  simpa using hc.append hblank fun _ => by decide

/-- A plain text writes its own placeholders, as they are. -/
theorem plain {t : String} (h : Template.isPlainText t = true) : Writes side s t.toList
    ((Text.markers (Text.pieces delimiters t.toList)).map fun content => ⟨content, s⟩) := by
  simp only [Template.isPlainText, Bool.and_eq_true, List.all_eq_true] at h
  refine ⟨_, Placeholder.contents_pieces fun cs hcs => by simpa using h.2 _ hcs, ?_⟩
  have hregular : ∀ content ∈ Text.markers (Text.pieces delimiters t.toList),
      Placeholder.isRegular content = true := by
    intro content hmem
    exact h.2 _ (Text.mem_markers.1 hmem)
  rw [List.forall₂_map_right_iff, List.forall₂_same]
  exact fun content hmem => .kept (hregular content hmem) rfl rfl

theorem eq_nil (h : Writes side s [] ms) : ms = [] := by
  obtain ⟨contents, hc, hm⟩ := h
  have hnil : contents = [] := by
    generalize hcs : ([] : List Char) = cs at hc
    cases hc with
    | text => rfl
    | marker => exact absurd hcs.symm (by simp)
  rw [hnil] at hm
  cases hm
  rfl

end Writes

/-- The texts of rounds, put together with the separator, write these placeholders. -/
structure Joined (l : Loop) (side : Fields) (s : Scope) (texts : List String)
    (ms : List Mention) : Prop where
  writes : Writes side s (l.separator.intercalate texts).toList ms
  closed : Sealed (l.separator.intercalate texts).toList
  nonempty : ∀ t ∈ texts, t ≠ ""

namespace Joined

variable {l : Loop} {side : Fields} {s : Scope} {texts : List String} {ms ms' : List Mention}

theorem nil : Joined l side s [] [] := ⟨.clean Placeholder.clean_nil, .nil, by simp⟩

theorem ne_nil (h : Joined l side s texts ms) (hne : texts ≠ []) :
    (l.separator.intercalate texts).toList ≠ [] := by
  obtain ⟨t, rest, rfl⟩ := List.exists_cons_of_ne_nil hne
  have ht := h.nonempty t List.mem_cons_self
  rw [String.toList_intercalate, List.map_cons]
  cases rest with
  | nil => simpa using ht
  | cons t' rest => simp [ht]

/-- One more text in front; an empty one is left out. -/
theorem cons (hc : Clean l.separator.toList) (ho : endsOpen l.separator.toList = false)
    (h : Joined l side s texts ms') {t : String} (ht : Writes side s t.toList ms)
    (hclosed : Sealed t.toList) :
    Joined l side s (if t.isEmpty then texts else t :: texts) (ms ++ ms') := by
  split
  · rename_i hempty
    rw [String.isEmpty_iff.1 hempty] at ht
    rw [Writes.eq_nil ht]
    exact h
  · rename_i hne
    have hne : t ≠ "" := fun he => hne (String.isEmpty_iff.2 he)
    have hnonempty : ∀ t' ∈ t :: texts, t' ≠ "" := by
      intro t' hmem
      rcases List.mem_cons.1 hmem with rfl | hmem
      · exact hne
      · exact h.nonempty t' hmem
    by_cases hnil : texts = []
    · subst hnil
      have htext : (l.separator.intercalate [t]).toList = t.toList := by
        simp
      have hms : ms' = [] := h.writes.eq_nil
      refine ⟨?_, ?_, hnonempty⟩
      · rwa [htext, hms, List.append_nil]
      · rwa [htext]
    · have htext : (l.separator.intercalate (t :: texts)).toList =
          t.toList ++ (l.separator.toList ++ (l.separator.intercalate texts).toList) := by
        rw [String.toList_intercalate, String.toList_intercalate, List.map_cons,
          List.intercalate_cons_of_ne_nil (by simpa using hnil), List.append_assoc]
      refine ⟨?_, ?_, hnonempty⟩
      · rw [htext]
        exact ht.append ((Writes.clean hc).append h.writes ho) hclosed.endsOpen
      · rw [htext, ← List.append_assoc]
        exact h.closed.append (h.ne_nil hnil)

end Joined

/-! ## States -/

namespace Composition

/-- The names ascend, and those of the side table are fresh names of used numbers. -/
structure Fresh (c : Composition) : Prop where
  bound : Fields.Ordered c.bindings
  ordered : Fields.Ordered c.side
  used : ∀ name v, Fields.get? c.side name = some v →
    ∃ n number, name = Loop.freshName n number ∧ number < c.counter

/-- What composing a part keeps of the state it starts from. -/
structure Kept (c c' : Composition) : Prop where
  bindings : c'.bindings = c.bindings
  outer : c'.outer = c.outer
  counter : c.counter ≤ c'.counter
  side : ∀ name v, Fields.get? c.side name = some v → Fields.get? c'.side name = some v
  fresh : c'.Fresh

theorem Kept.refl {c : Composition} (h : c.Fresh) : c.Kept c :=
  ⟨rfl, rfl, Nat.le_refl _, fun _ _ hv => hv, h⟩

theorem Kept.trans {c c' c'' : Composition} (h : c.Kept c') (h' : c'.Kept c'') : c.Kept c'' where
  bindings := h'.bindings.trans h.bindings
  outer := h'.outer.trans h.outer
  counter := Nat.le_trans h.counter h'.counter
  side := fun name v hv => h'.side name v (h.side name v hv)
  fresh := h'.fresh

variable {c : Composition} {name : Option String} {number : Nat} {v : Value}

theorem Fresh.withVariable (h : c.Fresh) (hn : number < c.counter) :
    (c.withVariable name number v).Fresh := by
  cases name with
  | none => exact h
  | some n =>
    refine ⟨h.bound.insert n v, h.ordered.insert _ v, fun name' w hw => ?_⟩
    simp only [Composition.withVariable, setSide, Composition.bind, Fields.get?_insert] at hw ⊢
    split at hw
    · rename_i heq
      exact ⟨n, number, heq, hn⟩
    · exact h.used name' w hw

theorem get?_withVariable_self {n : String} :
    Fields.get? (c.withVariable (some n) number v).side (Loop.freshName n number) = some v := by
  simp [withVariable, setSide, Composition.bind]

/-- Other fresh names keep their values. -/
theorem get?_withVariable {n : String} {number' : Nat} (h : name = some n → number' ≠ number) :
    Fields.get? (c.withVariable name number v).side (Loop.freshName n number') =
      Fields.get? c.side (Loop.freshName n number') := by
  cases name with
  | none => rfl
  | some n' =>
    have hne : Loop.freshName n number' ≠ Loop.freshName n' number := by
      intro heq
      obtain ⟨rfl, rfl⟩ := Loop.freshName_inj heq
      exact h rfl rfl
    simp [withVariable, setSide, Composition.bind, hne]

end Composition

/-! ## Parts -/

/-- What a part has composed that has these placeholders. -/
structure Composed (inner : Bool) (s : Scope) (c : Composition) (ms : List Mention)
    (c' : Composition) : Prop where
  kept : c.Kept c'
  text : ∃ cs, c'.buffer.toList = c.buffer.toList ++ cs ∧ Writes c'.side s cs ms ∧
    endsOpen cs = false ∧ (inner = true → endsOpen (trimRight cs) = false)

namespace Composed

variable {inner : Bool} {s : Scope} {c c' c'' : Composition} {ms ms' : List Mention}

theorem refl (h : c.Fresh) : Composed inner s c [] c :=
  ⟨.refl h, [], by simp, .clean Placeholder.clean_nil, rfl, fun _ => rfl⟩

theorem trans (h : Composed inner s c ms c') (h' : Composed inner s c' ms' c'') :
    Composed inner s c (ms ++ ms') c'' := by
  obtain ⟨cs, hcs, hw, ho, hi⟩ := h.text
  obtain ⟨ds, hds, hw', ho', hi'⟩ := h'.text
  refine ⟨h.kept.trans h'.kept, cs ++ ds, ?_, (hw.mono h'.kept.side).append hw' ho, ?_, ?_⟩
  · rw [hds, hcs, List.append_assoc]
  · by_cases hnil : ds = []
    · rwa [hnil, List.append_nil]
    · rwa [Placeholder.endsOpen_append hnil]
  · exact fun hinner => Placeholder.endsOpen_trimRight_append (hi hinner) (hi' hinner)

/-- A text is written with a blank behind it. -/
theorem append (hf : c.Fresh) {t : String} (hw : Writes c.side s t.toList ms)
    (hi : inner = true → endsOpen (trimRight t.toList) = false) :
    Composed inner s c ms (c.append t) := by
  refine ⟨⟨rfl, rfl, Nat.le_refl _, fun _ _ hv => hv, ⟨hf.bound, hf.ordered, hf.used⟩⟩,
    t.toList ++ [' '], ?_, hw.blank, ?_, fun hinner => ?_⟩
  · simp [Composition.append]
  · rw [Placeholder.endsOpen_append (by simp)]
    rfl
  · rw [Placeholder.trimRight_append, if_pos (by decide)]
    exact hi hinner

end Composed

end MappedSql
