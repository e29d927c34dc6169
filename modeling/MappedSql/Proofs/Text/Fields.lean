import MappedSql.Proofs.Text.Words

/- A text that is cut at a character.

   The fields of a text are those of its two parts wherever it is cut at the character
   (`fields_append_cons`), and putting texts together with the character between them gives
   them as fields again (`fields_intercalate`). Blanks at the ends stay at the ends: they are in
   the first or the last part (`cut?_trimmed`, `map_trimmed_fields`). -/
namespace MappedSql.Text

variable {c : Char} {cs ds : List Char}

/-! ## Fields -/

theorem fields_of_not_mem (h : c ∉ cs) : fields c cs = [cs] := by
  induction cs with
  | nil => rfl
  | cons d cs ih =>
    obtain ⟨hd, hcs⟩ := not_or.1 (mt List.mem_cons.2 h)
    rw [fields, if_neg (Ne.symm hd), ih hcs]

theorem fields_append_cons (c : Char) (front tail : List Char) :
    fields c (front ++ c :: tail) = fields c front ++ fields c tail := by
  induction front with
  | nil => simp [fields]
  | cons d front ih =>
    obtain ⟨f, fs, hf⟩ := List.exists_cons_of_ne_nil (fields_ne_nil c front)
    rw [List.cons_append, fields, fields, ih, hf]
    by_cases hd : d = c <;> simp [hd]

theorem fields_intercalate {parts : List (List Char)} (hne : parts ≠ [])
    (h : ∀ p ∈ parts, c ∉ p) : fields c ([c].intercalate parts) = parts := by
  induction parts with
  | nil => exact absurd rfl hne
  | cons p parts ih =>
    cases parts with
    | nil =>
      rw [List.intercalate_singleton]
      exact fields_of_not_mem (h p List.mem_cons_self)
    | cons q parts =>
      have hrest := ih (List.cons_ne_nil q parts) fun r hr => h r (List.mem_cons_of_mem p hr)
      rw [List.intercalate_cons_cons, List.append_assoc, List.singleton_append,
        fields_append_cons, fields_of_not_mem (h p List.mem_cons_self), hrest, List.singleton_append]

theorem not_mem_of_mem_fields {field : List Char} (h : field ∈ fields c cs) : c ∉ field := by
  induction cs generalizing field with
  | nil =>
    rw [List.mem_singleton.1 h]
    exact List.not_mem_nil
  | cons d cs ih =>
    obtain ⟨f, fs, hf⟩ := List.exists_cons_of_ne_nil (fields_ne_nil c cs)
    rw [fields] at h
    split at h
    · rcases List.mem_cons.1 h with rfl | h
      · exact List.not_mem_nil
      · exact ih h
    · rename_i hd
      rw [hf] at h ih
      rcases List.mem_cons.1 h with rfl | h
      · exact List.not_mem_cons_of_ne_of_not_mem (Ne.symm hd) (ih List.mem_cons_self)
      · exact ih (List.mem_cons_of_mem f h)

/-- The last occurrence of a character. -/
theorem exists_last (h : c ∈ cs) : ∃ front tail, cs = front ++ c :: tail ∧ c ∉ tail := by
  obtain ⟨before, after, hcs, hbefore⟩ := List.eq_append_cons_of_mem (List.mem_reverse.2 h)
  refine ⟨after.reverse, before.reverse, ?_, by simpa using hbefore⟩
  rw [← List.reverse_reverse cs, hcs]
  simp

/-! ## Blanks at the ends -/

theorem trimLeft_append_cons (hc : isBlank c = false) (cs ds : List Char) :
    trimLeft (cs ++ c :: ds) = trimLeft cs ++ c :: ds := by
  by_cases h : trimLeft cs = []
  · rw [trimLeft_append_of_blank (trimLeft_eq_nil_iff.1 h), trimLeft_of_not_isBlank hc, h]
    rfl
  · exact trimLeft_append h (c :: ds)

theorem trimmed_append_cons (hc : isBlank c = false) (cs ds : List Char) :
    trimmed (cs ++ c :: ds) = trimLeft cs ++ c :: trimRight ds := by
  rw [trimmed, trimLeft_append_cons hc, Placeholder.trimRight_append_cons _ _ hc]

theorem trimmed_trimmed (cs : List Char) : trimmed (trimmed cs) = trimmed cs := by
  rw [← trimLeft_trimRight cs, trimmed_trimLeft, trimmed_trimRight, trimLeft_trimRight]

theorem mem_of_mem_trimmed (h : c ∈ trimmed cs) : c ∈ cs := by
  obtain ⟨lead, trail, hcs, -⟩ := exists_blanks_trimmed cs
  rw [hcs]
  simp [h]

theorem cut?_trimmed (hc : isBlank c = false) (cs : List Char) :
    cut? c (trimmed cs) = (cut? c cs).map fun parts => (trimLeft parts.1, trimRight parts.2) := by
  cases h : cut? c cs with
  | none => exact cut?_eq_none_iff.2 (mt mem_of_mem_trimmed (cut?_eq_none_iff.1 h))
  | some parts =>
    obtain ⟨before, after⟩ := parts
    obtain ⟨rfl, hbefore⟩ := cut?_eq_some h
    rw [trimmed_append_cons hc]
    exact cut?_append_cons fun hmem => hbefore ((trimLeft_suffix before).subset hmem)

theorem map_trimmed_fields (hc : isBlank c = false) (cs : List Char) :
    (fields c (trimRight cs)).map trimmed = (fields c cs).map trimmed := by
  -- Behind the last cut there is one field, and that is where the blanks are.
  by_cases h : c ∈ cs
  · obtain ⟨front, tail, rfl, htail⟩ := exists_last h
    have htrim : c ∉ trimRight tail := fun hmem =>
      htail ((List.rdropWhile_prefix isBlank tail).subset hmem)
    rw [Placeholder.trimRight_append_cons _ _ hc, fields_append_cons, fields_append_cons,
      fields_of_not_mem htail, fields_of_not_mem htrim]
    simp [trimmed_trimRight]
  · have htrim : c ∉ trimRight cs := fun hmem =>
      h ((List.rdropWhile_prefix isBlank cs).subset hmem)
    rw [fields_of_not_mem h, fields_of_not_mem htrim]
    simp [trimmed_trimRight]

/-- The first character that is not blank. -/
theorem head?_trimmed (cs : List Char) : (trimmed cs).head? = cs.find? (!isBlank ·) := by
  induction cs with
  | nil => rfl
  | cons c cs ih =>
    cases hc : isBlank c with
    | true =>
      rw [← trimmed_trimLeft, trimLeft_of_isBlank hc, trimmed_trimLeft, ih]
      simp [hc]
    | false =>
      rw [trimmed, trimLeft_of_not_isBlank hc, trimRight_cons hc]
      simp [hc]

/-! ## Blanks around a text -/

/-- A text with blanks around it. -/
def Padded (core cs : List Char) : Prop := ∃ lead trail, cs = lead ++ core ++ trail ∧
  (∀ c ∈ lead, isBlank c = true) ∧ ∀ c ∈ trail, isBlank c = true

variable {core : List Char}

theorem padded_of_trimmed (h : trimmed cs = core) : Padded core cs := h ▸ exists_blanks_trimmed cs

theorem Padded.trimmed_eq (h : Padded core cs) : trimmed cs = trimmed core := by
  obtain ⟨lead, trail, rfl, hlead, htrail⟩ := h
  rw [List.append_assoc, ← trimmed_trimLeft, trimLeft_append_of_blank hlead, trimmed_trimLeft,
    ← trimmed_trimRight, Placeholder.trimRight_append, if_pos (trimRight_eq_nil_iff.2 htrail),
    trimmed_trimRight]

theorem Padded.not_mem (h : Padded core cs) (hc : isBlank c = false) (hcore : c ∉ core) :
    c ∉ cs := by
  obtain ⟨lead, trail, rfl, hlead, htrail⟩ := h
  intro hmem
  rw [List.append_assoc, List.mem_append, List.mem_append] at hmem
  rcases hmem with hmem | hmem | hmem
  · rw [hlead c hmem] at hc
    cases hc
  · exact hcore hmem
  · rw [htrail c hmem] at hc
    cases hc

end MappedSql.Text
