import Mathlib.Data.List.DropRight
import MappedSql.Proofs.Parameter.Contents

/- Blanks around a text, and the words between them.

   Blanks can be taken off the two ends of a text in either order (`trimLeft_trimRight`), and
   more than once (`trimmed_trimLeft`, `trimmed_trimRight`); they are what stands around the trimmed
   text (`exists_blanks_trimmed`). The words of a text are what stands
   between its blanks: they are the words of its two parts wherever it is cut at a blank
   (`words_append_cons`), and blanks at the ends do not change them. -/
namespace MappedSql.Text

variable {c : Char} {cs ds : List Char}

/-! ## Blanks at the ends -/

theorem trimLeft_eq_nil_iff : trimLeft cs = [] ↔ ∀ c ∈ cs, isBlank c = true :=
  List.dropWhile_eq_nil_iff

theorem trimRight_eq_nil_iff : trimRight cs = [] ↔ ∀ c ∈ cs, isBlank c = true :=
  List.rdropWhile_eq_nil_iff

theorem trimLeft_ne_nil (h : ∃ c ∈ cs, isBlank c = false) : trimLeft cs ≠ [] := by
  obtain ⟨c, hc, hblank⟩ := h
  intro hnil
  rw [trimLeft_eq_nil_iff.1 hnil c hc] at hblank
  cases hblank

theorem trimRight_ne_nil (h : ∃ c ∈ cs, isBlank c = false) : trimRight cs ≠ [] :=
  mt trimRight_eq_nil_iff.1 (mt trimLeft_eq_nil_iff.2 (trimLeft_ne_nil h))

theorem trimLeft_trimLeft (cs : List Char) : trimLeft (trimLeft cs) = trimLeft cs :=
  List.dropWhile_idempotent isBlank cs

theorem trimmed_eq_nil_iff : trimmed cs = [] ↔ ∀ c ∈ cs, isBlank c = true := by
  rw [trimmed, trimRight_eq_nil_iff, ← trimLeft_eq_nil_iff, trimLeft_trimLeft,
    trimLeft_eq_nil_iff]

theorem isBlank_getLast?_trimRight (cs : List Char) :
    ∀ c ∈ (trimRight cs).getLast?, isBlank c = false := by
  intro c hc
  have hhead := List.head?_dropWhile_not isBlank cs.reverse
  rw [trimRight, List.getLast?_reverse] at hc
  rw [hc] at hhead
  simpa using hhead

theorem trimLeft_eq_self (h : ∀ c ∈ cs.head?, isBlank c = false) : trimLeft cs = cs := by
  cases cs with
  | nil => rfl
  | cons c cs => exact trimLeft_of_not_isBlank (h c rfl)

theorem trimRight_eq_self (h : ∀ c ∈ cs.getLast?, isBlank c = false) : trimRight cs = cs := by
  refine List.rdropWhile_eq_self_iff.2 fun hne => ?_
  rw [h _ (List.getLast?_eq_some_getLast hne)]
  simp

theorem trimLeft_append_of_blank (h : ∀ c ∈ cs, isBlank c = true) (ds : List Char) :
    trimLeft (cs ++ ds) = trimLeft ds := List.dropWhile_append_of_pos h

theorem trimLeft_append (h : trimLeft cs ≠ []) (ds : List Char) :
    trimLeft (cs ++ ds) = trimLeft cs ++ ds := by
  have hne : (cs.dropWhile isBlank).isEmpty ≠ true := fun he => h (List.isEmpty_iff.1 he)
  rw [trimLeft, List.dropWhile_append, if_neg hne]
  rfl

theorem trimRight_cons (hc : isBlank c = false) (cs : List Char) :
    trimRight (c :: cs) = c :: trimRight cs := Placeholder.trimRight_append_cons [] cs hc

/-- The blanks may be taken off either end first. -/
theorem trimLeft_trimRight (cs : List Char) : trimLeft (trimRight cs) = trimmed cs := by
  induction cs with
  | nil => rfl
  | cons c cs ih =>
    cases hc : isBlank c with
    | true =>
      have hnil : trimRight [c] = [] := by simp [trimRight, hc]
      rw [trimmed, trimLeft_of_isBlank hc, ← List.singleton_append,
        Placeholder.trimRight_append, hnil]
      split
      · rename_i hcs
        rw [hcs] at ih
        exact ih
      · rw [List.singleton_append, trimLeft_of_isBlank hc, ih]
        rfl
    | false =>
      rw [trimmed, trimLeft_of_not_isBlank hc, trimRight_cons hc, trimLeft_of_not_isBlank hc]

theorem trimmed_trimLeft (cs : List Char) : trimmed (trimLeft cs) = trimmed cs := by
  rw [trimmed, trimLeft_trimLeft, trimmed]

theorem trimmed_trimRight (cs : List Char) : trimmed (trimRight cs) = trimmed cs := by
  rw [trimmed, trimLeft_trimRight, trimmed]
  exact List.rdropWhile_idempotent isBlank _

theorem exists_blanks_trimmed (cs : List Char) : ∃ lead trail, cs = lead ++ trimmed cs ++ trail ∧
    (∀ c ∈ lead, isBlank c = true) ∧ ∀ c ∈ trail, isBlank c = true := by
  refine ⟨cs.takeWhile isBlank, (trimLeft cs).rtakeWhile isBlank, ?_,
    fun c hc => List.mem_takeWhile_imp hc, fun c hc => List.mem_rtakeWhile_imp hc⟩
  have hright : trimmed cs ++ (trimLeft cs).rtakeWhile isBlank = trimLeft cs :=
    List.rdropWhile_append_rtakeWhile
  rw [List.append_assoc, hright]
  exact List.takeWhile_append_dropWhile.symm

/-! ## Words -/

/-- There is one first blank only. -/
theorem first_blank {word word' : List Char} {b b' : Char}
    (h : word ++ b :: cs = word' ++ b' :: ds) (hword : ∀ c ∈ word, isBlank c = false)
    (hb : isBlank b = true) (hword' : ∀ c ∈ word', isBlank c = false) (hb' : isBlank b' = true) :
    cs = ds := by
  have hrun : ∀ {word cs : List Char} {b : Char}, (∀ c ∈ word, isBlank c = false) →
      isBlank b = true → (word ++ b :: cs).dropWhile (!isBlank ·) = b :: cs :=
    fun hword hb => (span_run (fun c hc => by rw [hword c hc]; rfl) _
      (fun c hc => by cases hc; rw [hb]; rfl)).2
  have hdrop := congrArg (List.dropWhile (!isBlank ·)) h
  rw [hrun hword hb, hrun hword' hb'] at hdrop
  exact (List.cons.inj hdrop).2

/-- The words of a text: what stands between its blanks. -/
def words (cs : List Char) : List (List Char) := (cs.splitOnP isBlank).filter (· ≠ [])

@[simp] theorem words_nil : words [] = [] := by simp [words]

theorem words_append_cons (hc : isBlank c = true) (cs ds : List Char) :
    words (cs ++ c :: ds) = words cs ++ words ds := by
  rw [words, List.splitOnP_append_cons cs ds hc, List.filter_append, words, words]

theorem words_of_blank (h : ∀ c ∈ cs, isBlank c = true) : words cs = [] := by
  induction cs with
  | nil => exact words_nil
  | cons c cs ih =>
    have hcons := words_append_cons (h c List.mem_cons_self) [] cs
    rw [List.nil_append, words_nil, List.nil_append] at hcons
    rw [hcons, ih fun d hd => h d (List.mem_cons_of_mem c hd)]

theorem words_trimLeft (cs : List Char) : words (trimLeft cs) = words cs := by
  induction cs with
  | nil => rfl
  | cons c cs ih =>
    cases hc : isBlank c with
    | true =>
      have hcons := words_append_cons hc [] cs
      rw [List.nil_append, words_nil, List.nil_append] at hcons
      rw [trimLeft_of_isBlank hc, ih, hcons]
    | false => rw [trimLeft_of_not_isBlank hc]

theorem words_append_of_blank (h : ∀ c ∈ ds, isBlank c = true) : words (cs ++ ds) = words cs := by
  cases ds with
  | nil => rw [List.append_nil]
  | cons d ds =>
    rw [words_append_cons (h d List.mem_cons_self),
      words_of_blank fun c hc => h c (List.mem_cons_of_mem d hc), List.append_nil]

theorem words_trimRight (cs : List Char) : words (trimRight cs) = words cs := by
  have hsplit : trimRight cs ++ cs.rtakeWhile isBlank = cs := List.rdropWhile_append_rtakeWhile
  have hblank : ∀ c ∈ cs.rtakeWhile isBlank, isBlank c = true :=
    fun c hc => List.mem_rtakeWhile_imp hc
  rw [← words_append_of_blank hblank, hsplit]

/-- A text is cut between two words where a blank stands at the end of its first part. -/
theorem words_append (h : ∀ c ∈ cs.getLast?, isBlank c = true) (ds : List Char) :
    words (cs ++ ds) = words cs ++ words ds := by
  rcases List.eq_nil_or_concat cs with rfl | ⟨front, b, rfl⟩
  · rfl
  · have hb : isBlank b = true := h b (by simp)
    rw [List.concat_eq_append, List.append_assoc, List.singleton_append, words_append_cons hb,
      words_append_cons hb, words_nil, List.append_nil]

end MappedSql.Text
