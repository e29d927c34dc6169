import MappedSql.Template.Composition

/- Fields in ascending order of their names.

   Where the names ascend, a field is found at one place only. So to write a field and
   then to write it as it was before, or to erase it if there was none, changes nothing. -/
namespace MappedSql.Fields

/-- The names ascend. -/
def Ordered (f : Fields) : Prop := f.Pairwise fun e e' => e.1 < e'.1

theorem lt_of_not {a b : String} (hne : a ≠ b) (h : ¬ a < b) : b < a := by
  apply Decidable.byContradiction
  intro h'
  exact hne (String.le_antisymm (String.not_lt.1 h') (String.not_lt.1 h))

theorem mem_insert {f : Fields} {name : String} {v : Value} {e : String × Value}
    (h : e ∈ insert name v f) : e = (name, v) ∨ e ∈ f := by
  induction f with
  | nil => simpa [insert] using h
  | cons d f ih =>
    obtain ⟨k, w⟩ := d
    rw [insert] at h
    split at h
    · rcases List.mem_cons.1 h with h | h
      · exact .inl h
      · exact .inr (List.mem_cons_of_mem _ h)
    · split at h
      · rcases List.mem_cons.1 h with h | h
        · exact .inl h
        · exact .inr h
      · rcases List.mem_cons.1 h with rfl | h
        · exact .inr List.mem_cons_self
        · exact (ih h).imp_right (List.mem_cons_of_mem _)

theorem Ordered.insert {f : Fields} (h : f.Ordered) (name : String) (v : Value) :
    (f.insert name v).Ordered := by
  induction f with
  | nil => exact List.pairwise_singleton _ _
  | cons d f ih =>
    obtain ⟨k, w⟩ := d
    obtain ⟨hk, hf⟩ := List.pairwise_cons.1 h
    rw [Fields.insert]
    split
    · rename_i heq
      exact List.pairwise_cons.2 ⟨fun e he => heq ▸ hk e he, hf⟩
    · rename_i hne
      split
      · rename_i hlt
        refine List.pairwise_cons.2 ⟨fun e he => ?_, h⟩
        rcases List.mem_cons.1 he with rfl | he
        · exact hlt
        · exact String.lt_trans hlt (hk e he)
      · rename_i hlt
        refine List.pairwise_cons.2 ⟨fun e he => ?_, ih hf⟩
        rcases mem_insert he with rfl | he
        · exact lt_of_not hne hlt
        · exact hk e he

theorem mem_of_get? {f : Fields} {name : String} {v : Value} (h : f.get? name = some v) :
    (name, v) ∈ f := by
  induction f with
  | nil => cases h
  | cons d f ih =>
    obtain ⟨k, w⟩ := d
    rw [get?] at h
    split at h
    · rename_i heq
      cases h
      exact heq ▸ List.mem_cons_self
    · exact List.mem_cons_of_mem _ (ih h)

theorem insert_insert (f : Fields) (name : String) (v w : Value) :
    (f.insert name v).insert name w = f.insert name w := by
  induction f with
  | nil => simp [insert]
  | cons d f ih =>
    obtain ⟨k, u⟩ := d
    by_cases heq : name = k
    · simp [insert, heq]
    · by_cases hlt : name < k
      · simp [insert, heq, hlt]
      · simp [insert, heq, hlt, ih]

theorem insert_of_get? {f : Fields} (h : f.Ordered) {name : String} {v : Value}
    (hv : f.get? name = some v) : f.insert name v = f := by
  induction f with
  | nil => cases hv
  | cons d f ih =>
    obtain ⟨k, w⟩ := d
    obtain ⟨hk, hf⟩ := List.pairwise_cons.1 h
    rw [get?] at hv
    split at hv
    · rename_i heq
      cases hv
      simp [insert, heq]
    · rename_i hne
      have hlt : k < name := hk _ (mem_of_get? hv)
      rw [insert, if_neg hne, if_neg fun h => String.lt_irrefl k (String.lt_trans hlt h), ih hf hv]

theorem erase_of_get? {f : Fields} {name : String} (h : f.get? name = none) :
    f.erase name = f := by
  rw [erase, List.filter_eq_self]
  intro e he
  rw [bne_iff_ne]
  rintro rfl
  induction f with
  | nil => cases he
  | cons d f ih =>
    rw [get?] at h
    split at h
    · cases h
    · rename_i hne
      rcases List.mem_cons.1 he with rfl | he
      · exact hne rfl
      · exact ih he h

theorem erase_insert {f : Fields} {name : String} (h : f.get? name = none) (v : Value) :
    (f.insert name v).erase name = f := by
  induction f with
  | nil => simp [insert, erase]
  | cons d f ih =>
    obtain ⟨k, w⟩ := d
    have herase := erase_of_get? h
    rw [get?] at h
    split at h
    · cases h
    · rename_i hne
      rw [insert, if_neg hne]
      split
      · rw [erase, List.filter_cons_of_neg (by simp)]
        exact herase
      · rw [erase, List.filter_cons_of_pos (by simp [Ne.symm hne])]
        exact congrArg _ (ih h)

theorem get?_of_lt {f : Fields} {name : String} (h : ∀ e ∈ f, name < e.1) :
    f.get? name = none := by
  cases hv : f.get? name with
  | none => rfl
  | some v => exact absurd (h _ (mem_of_get? hv)) (String.lt_irrefl name)

/-- Where the names ascend, the fields are told by their values. -/
theorem Ordered.ext {f g : Fields} (hf : f.Ordered) (hg : g.Ordered)
    (h : ∀ name, f.get? name = g.get? name) : f = g := by
  induction f generalizing g with
  | nil =>
    cases g with
    | nil => rfl
    | cons e g => exact absurd (h e.1) (by simp [get?])
  | cons d f ih =>
    obtain ⟨k, v⟩ := d
    obtain ⟨hk, hf'⟩ := List.pairwise_cons.1 hf
    cases g with
    | nil => exact absurd (h k) (by simp [get?])
    | cons e g =>
      obtain ⟨l, w⟩ := e
      obtain ⟨hl, hg'⟩ := List.pairwise_cons.1 hg
      have hle : ∀ {a b : String} {u : Value} {f : Fields}, (∀ e ∈ f, a < e.1) →
          get? ((a, u) :: f) b ≠ none → ¬ b < a := by
        intro a b u f ha hb hlt
        refine hb (get?_of_lt fun e he => ?_)
        rcases List.mem_cons.1 he with rfl | he
        · exact hlt
        · exact String.lt_trans hlt (ha e he)
      have heq : k = l := by
        refine String.le_antisymm (String.not_lt.1 ?_) (String.not_lt.1 ?_)
        · exact hle hk (by rw [h l]; simp [get?])
        · exact hle hl (by rw [← h k]; simp [get?])
      subst heq
      have hv := h k
      simp only [get?, if_true, Option.some.injEq] at hv
      have htail : f = g := by
        refine ih hf' hg' fun name => ?_
        by_cases hname : name = k
        · rw [hname, get?_of_lt hk, get?_of_lt hl]
        · simpa [get?, hname] using h name
      rw [hv, htail]

theorem insert_of_gt {f : Fields} {name : String} (h : ∀ e ∈ f, e.1 < name) (v : Value) :
    f.insert name v = f ++ [(name, v)] := by
  induction f with
  | nil => rfl
  | cons d f ih =>
    obtain ⟨k, w⟩ := d
    have hk : k < name := h _ List.mem_cons_self
    have hne : name ≠ k := by
      rintro rfl
      exact String.lt_irrefl name hk
    rw [insert, if_neg hne, if_neg fun h' => String.lt_irrefl k (String.lt_trans hk h'),
      ih fun e he => h e (List.mem_cons_of_mem _ he)]
    rfl

theorem foldl_insert (front : Fields) {rest : Fields} (h : Ordered (front ++ rest)) :
    rest.foldl (fun f e => insert e.1 e.2 f) front = front ++ rest := by
  induction rest generalizing front with
  | nil => simp
  | cons e rest ih =>
    have hlt : ∀ d ∈ front, d.1 < e.1 := fun d hd =>
      (List.pairwise_append.1 h).2.2 d hd e List.mem_cons_self
    have hnext := ih (front ++ [(e.1, e.2)]) (by simpa using h)
    rw [List.foldl_cons, insert_of_gt hlt, hnext, List.append_assoc]
    rfl

/-- Where the names ascend, the fields are those of their own list of entries. -/
theorem Ordered.ofList_eq {f : Fields} (h : f.Ordered) : Fields.ofList f = f :=
  foldl_insert [] h

theorem Ordered.erase {f : Fields} (h : f.Ordered) (name : String) : (f.erase name).Ordered :=
  List.Pairwise.filter _ h

/-- A field of the top comes before the fields below it. -/
theorem get?_overlay (f : Fields) {top : Fields} (h : top.Ordered) (name : String) :
    (overlay f top).get? name = (top.get? name <|> f.get? name) := by
  induction top generalizing f with
  | nil => simp [overlay]
  | cons d top ih =>
    obtain ⟨k, v⟩ := d
    obtain ⟨hk, htop⟩ := List.pairwise_cons.1 h
    rw [show overlay f ((k, v) :: top) = overlay (f.insert k v) top from rfl, ih _ htop, get?,
      get?_insert]
    split
    · rename_i heq
      rw [heq, get?_of_lt hk]
      rfl
    · rfl

end MappedSql.Fields

namespace MappedSql.Composition

theorem get?_restore (c : Composition) (name : String) (o : Option Value) (other : String) :
    Fields.get? (c.restore name o).bindings other =
      if other = name then o else Fields.get? c.bindings other := by
  cases o with
  | some v => exact Fields.get?_insert _ _ _ _
  | none => exact Fields.get?_erase _ _ _

theorem ordered_restore {c : Composition} (h : Fields.Ordered c.bindings) (name : String)
    (o : Option Value) : Fields.Ordered (c.restore name o).bindings := by
  cases o with
  | some v => exact h.insert name v
  | none => exact h.erase name

/-- A name that is bound and then restored is bound as before. -/
theorem bindings_restore {b : Bindings} (hb : Fields.Ordered b) (c : Composition) (name : String)
    (v : Value) (h : c.bindings = Fields.insert name v b) :
    (c.restore name (Fields.get? b name)).bindings = b := by
  unfold restore
  cases hv : Fields.get? b name with
  | some w =>
    show Fields.insert name w c.bindings = b
    rw [h, Fields.insert_insert, Fields.insert_of_get? hb hv]
  | none =>
    show Fields.erase c.bindings name = b
    rw [h, Fields.erase_insert hv]

end MappedSql.Composition
