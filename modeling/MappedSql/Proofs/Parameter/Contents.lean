import Mathlib.Data.List.Basic
import MappedSql.Parameter.Placeholder

/- The placeholders in a text.

   `Contents cs contents` says that all opening signs in a text begin placeholders, with
   these contents. Such a text falls into pieces as it is written (`Contents.mark`), and
   stays so without the blanks around it (`Contents.trimmed`). Two of them side by side
   make another, unless the first ends in a character that could make or escape an opening
   sign together with the second (`Contents.append`). -/
namespace MappedSql.Placeholder

open Text (find? contains dropPiece? pieces markers isBlank trimLeft trimRight)

/-- A text without an opening sign. -/
def Clean (cs : List Char) : Prop := contains delimiters.opening cs = false

instance (cs : List Char) : Decidable (Clean cs) := inferInstanceAs (Decidable (_ = _))

theorem clean_nil : Clean [] := rfl

theorem clean_iff {cs : List Char} : Clean cs ↔ find? delimiters.opening cs = none := by
  simp [Clean, contains]

theorem clean_cons {c : Char} {cs : List Char} :
    Clean (c :: cs) ↔ ¬ (c = '#' ∧ cs.head? = some '\x7b') ∧ Clean cs := by
  have hd : dropPiece? delimiters.opening (c :: cs) = none ↔
      ¬ (c = '#' ∧ cs.head? = some '\x7b') := by
    cases cs with
    | nil => simp [delimiters, dropPiece?]
    | cons d cs => simp [delimiters, dropPiece?, eq_comm]
  rw [clean_iff, clean_iff, find?, ← hd]
  cases dropPiece? delimiters.opening (c :: cs) with
  | some rest => simp
  | none => simp

theorem clean_append {cs ds : List Char} : Clean (cs ++ ds) ↔
    Clean cs ∧ Clean ds ∧ ¬ (cs.getLast? = some '#' ∧ ds.head? = some '\x7b') := by
  induction cs with
  | nil => simp [clean_nil]
  | cons c cs ih =>
    rw [List.cons_append, clean_cons, clean_cons, ih]
    cases cs with
    | nil => simp [clean_nil, and_comm]
    | cons d cs => simp [and_assoc]

/-- The first opening sign after a text without one. -/
theorem find?_opening {before rest : List Char} (h : Clean before) :
    find? delimiters.opening (before ++ '#' :: '\x7b' :: rest) = some (before, rest) := by
  induction before with
  | nil => simp [find?, delimiters, dropPiece?]
  | cons c before ih =>
    obtain ⟨hc, hb⟩ := clean_cons.1 h
    have hd : dropPiece? delimiters.opening (c :: (before ++ '#' :: '\x7b' :: rest)) = none := by
      cases before with
      | nil => simp [delimiters, dropPiece?]
      | cons d before => simpa [delimiters, dropPiece?, eq_comm] using hc
    rw [List.cons_append, find?, hd, ih hb]
    rfl

theorem find?_closing {content after : List Char} (h : '\x7d' ∉ content) :
    find? delimiters.closing (content ++ '\x7d' :: after) = some (content, after) := by
  induction content with
  | nil => simp [find?, delimiters, dropPiece?]
  | cons c content ih =>
    rw [List.mem_cons, not_or] at h
    have hd : dropPiece? delimiters.closing (c :: (content ++ '\x7d' :: after)) = none := by
      simp [delimiters, dropPiece?, h.1]
    rw [List.cons_append, find?, hd, ih h.2]
    rfl

/-- A text in which all opening signs begin placeholders with these contents. -/
inductive Contents : List Char → List (List Char) → Prop where
  | text {cs : List Char} (h : Clean cs) : Contents cs []
  | marker {before content after : List Char} {contents : List (List Char)} (hb : Clean before)
      (he : before.getLast? ≠ some '\\') (hc : '\x7d' ∉ content) (h : Contents after contents) :
    Contents (before ++ '#' :: '\x7b' :: (content ++ '\x7d' :: after)) (content :: contents)

theorem pieces_text {cs : List Char} (h : Clean cs) : pieces delimiters cs = [.literal cs] := by
  rw [pieces, dif_neg (by decide)]
  split
  · rfl
  · rename_i hf
    rw [clean_iff.1 h] at hf
    cases hf

theorem pieces_marker {before content after : List Char} (hb : Clean before)
    (he : before.getLast? ≠ some '\\') (hc : '\x7d' ∉ content) :
    pieces delimiters (before ++ '#' :: '\x7b' :: (content ++ '\x7d' :: after)) =
      .literal before :: .marker content :: pieces delimiters after := by
  rw [pieces, dif_neg (by decide)]
  split
  · rename_i hf
    rw [find?_opening hb] at hf
    cases hf
  · rename_i hf
    rw [find?_opening hb] at hf
    cases hf
    rw [dif_neg he]
    split
    · rename_i hf
      rw [find?_closing hc] at hf
      cases hf
    · rename_i hf
      rw [find?_closing hc] at hf
      cases hf
      rfl

/-- Whether a text ends in a character that may make or escape an opening sign together with what
follows. -/
def endsOpen (cs : List Char) : Bool := cs.getLast? == some '#' || cs.getLast? == some '\\'

theorem endsOpen_append {cs ds : List Char} (h : ds ≠ []) : endsOpen (cs ++ ds) = endsOpen ds := by
  rw [endsOpen, endsOpen, List.getLast?_append_of_ne_nil cs h]

theorem trimRight_append (cs ds : List Char) :
    trimRight (cs ++ ds) = if trimRight ds = [] then trimRight cs else cs ++ trimRight ds := by
  rw [trimRight, trimRight, trimRight, List.reverse_append, List.dropWhile_append]
  cases h : ds.reverse.dropWhile isBlank with
  | nil => rfl
  | cons d rest => simp

theorem trimRight_append_cons (cs ds : List Char) {d : Char} (h : isBlank d = false) :
    trimRight (cs ++ d :: ds) = cs ++ d :: trimRight ds := by
  have hd : trimRight [d] = [d] := by simp [trimRight, h]
  rw [List.append_cons, trimRight_append, trimRight_append cs [d], hd]
  split
  · rename_i hds
    simp [hds]
  · simp

/-- A text that ends in no blank, and does not end open. -/
def Sealed (cs : List Char) : Prop := ∀ c ∈ cs.getLast?, isBlank c = false ∧ c ≠ '#' ∧ c ≠ '\\'

namespace Sealed

variable {cs ds : List Char}

theorem nil : Sealed [] := fun c hc => by cases hc

theorem endsOpen (h : Sealed cs) : endsOpen cs = false := by
  cases hl : cs.getLast? with
  | none => simp [Placeholder.endsOpen, hl]
  | some c =>
    obtain ⟨-, hhash, hslash⟩ := h c hl
    simp [Placeholder.endsOpen, hl, hhash, hslash]

theorem trimRight (h : Sealed cs) : Text.trimRight cs = cs := by
  rw [Sealed, ← List.head?_reverse] at h
  cases hr : cs.reverse with
  | nil =>
    rw [List.reverse_eq_nil_iff.1 hr]
    rfl
  | cons c rest =>
    rw [hr] at h
    have hc : isBlank c = false := (h c rfl).1
    rw [Text.trimRight, hr, List.dropWhile_cons_of_neg (by simp [hc]), ← hr, List.reverse_reverse]

theorem append (h : Sealed ds) (hne : ds ≠ []) : Sealed (cs ++ ds) := by
  rwa [Sealed, List.getLast?_append_of_ne_nil cs hne]

end Sealed

/-- Without the blanks at its end a text is sealed unless it ends open. -/
theorem sealed_trimRight {cs : List Char} (h : endsOpen (trimRight cs) = false) :
    Sealed (trimRight cs) := by
  intro c hc
  have hb := List.head?_dropWhile_not isBlank cs.reverse
  rw [endsOpen, show (trimRight cs).getLast? = some c from hc] at h
  rw [trimRight, List.getLast?_reverse] at hc
  rw [hc] at hb
  simp only [Bool.or_eq_false_iff, beq_eq_false_iff_ne] at h
  simpa using And.intro hb h

theorem endsOpen_trimRight_append {cs ds : List Char} (h : endsOpen (trimRight cs) = false)
    (h' : endsOpen (trimRight ds) = false) : endsOpen (trimRight (cs ++ ds)) = false := by
  rw [trimRight_append]
  split
  · exact h
  · rename_i hne
    rwa [endsOpen_append hne]

theorem sealed_trimmed {cs : List Char} (h : endsOpen (trimRight cs) = false) :
    Sealed (Text.trimmed cs) := by
  refine sealed_trimRight ?_
  obtain ⟨front, hfront⟩ := Text.trimLeft_suffix cs
  by_cases hnil : trimRight (trimLeft cs) = []
  · rw [hnil]
    rfl
  · rw [← hfront, trimRight_append, if_neg hnil, endsOpen_append hnil] at h
    exact h

namespace Contents

/-- A text without opening signs before another, which it does not run into. -/
theorem text_append {cs ds : List Char} {contents : List (List Char)} (h : Clean cs)
    (h' : Contents ds contents)
    (hs : endsOpen cs = true → ds.head? ≠ some '\x7b' ∧ ds.head? ≠ some '#') :
    Contents (cs ++ ds) contents := by
  have hhash : ¬ (cs.getLast? = some '#' ∧ ds.head? = some '\x7b') :=
    fun hc => (hs (by simp [endsOpen, hc.1])).1 hc.2
  cases h' with
  | text hd => exact .text (clean_append.2 ⟨h, hd, hhash⟩)
  | @marker before content after contents hb he hc h' =>
    rw [← List.append_assoc]
    refine .marker (clean_append.2 ⟨h, hb, ?_⟩) ?_ hc h'
    · rintro ⟨hl, hd⟩
      exact hhash ⟨hl, by rw [List.head?_append, hd]; rfl⟩
    · rw [List.getLast?_append]
      cases hbefore : before.getLast? with
      | none =>
        intro hl
        rw [List.getLast?_eq_none_iff.1 hbefore] at hs
        exact (hs (by simp [endsOpen, show cs.getLast? = some '\\' from hl])).2 rfl
      | some c => rwa [hbefore] at he

/-- Two texts side by side, of which the first does not run into the second. -/
theorem append {cs ds : List Char} {as bs : List (List Char)} (h : Contents cs as)
    (h' : Contents ds bs)
    (hs : endsOpen cs = true → ds.head? ≠ some '\x7b' ∧ ds.head? ≠ some '#') :
    Contents (cs ++ ds) (as ++ bs) := by
  induction h with
  | text hc => exact text_append hc h' hs
  | @marker before content after contents hb he hc _ ih =>
    have hafter : Contents (after ++ ds) (contents ++ bs) := by
      refine ih fun ha => hs ?_
      have hne : after ≠ [] := by
        rintro rfl
        cases ha
      rw [show before ++ '#' :: '\x7b' :: (content ++ '\x7d' :: after) =
        (before ++ '#' :: '\x7b' :: (content ++ ['\x7d'])) ++ after by simp, endsOpen_append hne]
      exact ha
    simpa using Contents.marker hb he hc hafter

theorem trimLeft_append_marker {before : List Char} (rest : List Char) :
    trimLeft (before ++ '#' :: rest) = trimLeft before ++ '#' :: rest := by
  induction before with
  | nil => exact Text.trimLeft_of_not_isBlank (by decide)
  | cons c before ih =>
    cases hc : isBlank c with
    | true => rw [List.cons_append, Text.trimLeft_of_isBlank hc, Text.trimLeft_of_isBlank hc, ih]
    | false => rw [List.cons_append, Text.trimLeft_of_not_isBlank hc,
        Text.trimLeft_of_not_isBlank hc, List.cons_append]

theorem clean_of_suffix {cs ds : List Char} (h : ds <:+ cs) (hc : Clean cs) : Clean ds := by
  obtain ⟨front, rfl⟩ := h
  exact (clean_append.1 hc).2.1

theorem trimLeft {cs : List Char} {contents : List (List Char)} (h : Contents cs contents) :
    Contents (Text.trimLeft cs) contents := by
  cases h with
  | text hc => exact .text (clean_of_suffix (Text.trimLeft_suffix cs) hc)
  | @marker before content after contents hb he hc h =>
    rw [trimLeft_append_marker]
    have hsuffix := Text.trimLeft_suffix before
    refine .marker (clean_of_suffix hsuffix hb) ?_ hc h
    obtain ⟨front, hfront⟩ := hsuffix
    intro hl
    rw [← hfront, List.getLast?_append, hl] at he
    exact he rfl

theorem trimRight {cs : List Char} {contents : List (List Char)} (h : Contents cs contents) :
    Contents (Text.trimRight cs) contents := by
  induction h with
  | @text cs hc =>
    refine .text ?_
    obtain ⟨back, hback⟩ : Text.trimRight cs <+: cs := by
      have := List.reverse_prefix.2 (List.dropWhile_suffix isBlank (l := cs.reverse))
      rwa [List.reverse_reverse] at this
    rw [← hback] at hc
    exact (clean_append.1 hc).1
  | @marker before content after contents hb he hc h ih =>
    have hcut := trimRight_append_cons (before ++ '#' :: '\x7b' :: content) after
      (show isBlank '\x7d' = false by decide)
    rw [List.append_assoc, List.cons_append, List.cons_append] at hcut
    rw [hcut]
    simpa using Contents.marker hb he hc ih

/-- Without the blanks at its ends the text has the same placeholders. -/
theorem trimmed {cs : List Char} {contents : List (List Char)} (h : Contents cs contents) :
    Contents (Text.trimmed cs) contents := h.trimLeft.trimRight

/-- The mappings of the statement that the text writes. -/
theorem mark {cs : List Char} {contents : List (List Char)} (h : Contents cs contents) :
    (Placeholder.mark (String.ofList cs)).map (·.mappings) =
      contents.mapM fun content => read (String.ofList content) := by
  rw [Placeholder.mark, String.toList_ofList]
  induction h with
  | text hc =>
    rw [pieces_text hc]
    rfl
  | @marker before content after contents hb he hc h ih =>
    rw [pieces_marker hb he hc, List.mapM_cons, ← ih, markAll, markAll]
    cases read (String.ofList content) with
    | error e => rfl
    | ok p =>
      cases markAll (pieces delimiters after) with
      | error e => rfl
      | ok m => rfl

end Contents

theorem not_mem_of_find?_closing {cs content after : List Char}
    (h : find? delimiters.closing cs = some (content, after)) : '\x7d' ∉ content := by
  induction cs generalizing content with
  | nil => cases h
  | cons c cs ih =>
    unfold find? at h
    split at h
    · cases h
      simp
    · rename_i hd
      obtain ⟨⟨content', after'⟩, hf, he⟩ := Option.map_eq_some_iff.1 h
      cases he
      rw [List.mem_cons, not_or]
      refine ⟨?_, ih hf⟩
      rintro rfl
      simp [delimiters, dropPiece?] at hd

theorem clean_of_find?_opening {cs before after : List Char}
    (h : find? delimiters.opening cs = some (before, after)) : Clean before := by
  induction cs generalizing before with
  | nil => cases h
  | cons c cs ih =>
    unfold find? at h
    split at h
    · cases h
      exact clean_nil
    · rename_i hd
      obtain ⟨⟨before', after'⟩, hf, he⟩ := Option.map_eq_some_iff.1 h
      cases he
      refine clean_cons.2 ⟨?_, ih hf⟩
      rintro ⟨rfl, hhead⟩
      rw [Text.find?_eq_some hf] at hd
      cases before' with
      | nil => cases hhead
      | cons d before' =>
        cases hhead
        simp [delimiters, dropPiece?] at hd

/-- The placeholders of a text in whose literal pieces no opening sign is left. -/
theorem contents_pieces {cs : List Char}
    (h : ∀ s, .literal s ∈ pieces delimiters cs → Clean s) :
    Contents cs (markers (pieces delimiters cs)) := by
  induction hn : cs.length using Nat.strongRecOn generalizing cs with
  | _ n ih =>
    cases hf : find? delimiters.opening cs with
    | none =>
      have hc := clean_iff.2 hf
      rw [pieces_text hc]
      exact .text hc
    | some found =>
      obtain ⟨before, rest⟩ := found
      have hcs := Text.find?_eq_some hf
      have hunfold := h
      rw [pieces, dif_neg (by decide)] at hunfold
      split at hunfold
      · rename_i hf'
        rw [hf] at hf'
        cases hf'
      · rename_i hf'
        rw [hf] at hf'
        cases hf'
        split at hunfold
        · -- an escaped sign stays in its literal
          have hc := hunfold _ List.mem_cons_self
          rw [clean_append] at hc
          exact absurd hc.2.1 (by decide)
        · rename_i he
          split at hunfold
          · have hc := clean_iff.1 (hunfold cs List.mem_cons_self)
            rw [hf] at hc
            cases hc
          · rename_i content after hclose
            have hrest := Text.find?_eq_some hclose
            have hshape : cs = before ++ '#' :: '\x7b' :: (content ++ '\x7d' :: after) := by
              simp [hcs, hrest, delimiters]
            have hb := clean_of_find?_opening hf
            have hc := not_mem_of_find?_closing hclose
            rw [hshape, pieces_marker hb he hc] at h ⊢
            refine .marker hb he hc (ih after.length ?_ (fun s hs => h s ?_) rfl)
            · simp only [hshape, List.length_append, List.length_cons] at hn
              omega
            · simp [hs]

end MappedSql.Placeholder
