import MappedSql.Proofs.Template.Signed
import MappedSql.Proofs.Text.Words

/- What trimming drops, and the words around it.

   A rule may drop one piece at the start of a composed part and one at its end. At the start a
   piece goes where it stands as it is written, in any case of its letters
   (`TrimRule.withoutStart_dropped`), so a piece with a blank at its end goes with whole words. At
   the end it goes already where its letters stand, without the blanks around the piece
   (`TrimRule.withoutEnd_dropped`): that the piece is looked for with its blanks as well makes no
   difference (`TrimRule.Ends.letters`). So words stay whole at the start, and at the end as long as
   a blank stands before the letters (`TrimRule.apply_drops_words`); where none does, the last
   word is cut (`TrimRule.apply_cuts_word`). -/
namespace MappedSql

open Text (isBlank trimLeft trimRight trimmed words)

/-- The same letters, in any case of the ASCII ones. -/
def SameLetters (cs ds : List Char) : Prop := cs.map Char.toLower = ds.map Char.toLower

instance (cs ds : List Char) : Decidable (SameLetters cs ds) :=
  inferInstanceAs (Decidable (_ = _))

theorem blank_ranges {c : Char} (h : isBlank c = true) : c.toNat < 65 ∨ 122 < c.toNat := by
  simp only [isBlank, Bool.or_eq_true, Bool.and_eq_true, decide_eq_true_eq, beq_iff_eq] at h
  omega

/-- A blank has one case only. -/
theorem eq_of_toLower_blank {c d : Char} (h : c.toLower = d.toLower) (hd : isBlank d = true) :
    c = d := by
  have hrange := blank_ranges hd
  have hlower : d.toLower = d := by
    unfold Char.toLower
    split
    · rename_i hcase
      simp only [ge_iff_le, UInt32.le_iff_toNat_le, Char.toNat_val] at hcase
      simp at hcase
      omega
    · rfl
  rw [hlower] at h
  rcases TrimRule.toLower_cases c with hc | hc
  · rw [← hc, h]
  · rw [h] at hc
    omega

namespace SameLetters

variable {cs ds : List Char}

theorem length_eq (h : SameLetters cs ds) : cs.length = ds.length := by
  simpa using congrArg List.length h

/-- Letters that are no blanks are none in any case. -/
theorem not_blank (h : SameLetters cs ds) (hds : ∀ d ∈ ds, isBlank d = false) :
    ∀ c ∈ cs, isBlank c = false := by
  intro c hc
  have hmem : c.toLower ∈ ds.map Char.toLower := by
    rw [← h]
    exact List.mem_map_of_mem hc
  obtain ⟨d, hd, hlower⟩ := List.mem_map.1 hmem
  by_contra hblank
  have hcb : isBlank c = true := by simpa using hblank
  rw [← eq_of_toLower_blank hlower hcb, hds d hd] at hcb
  cases hcb

theorem reverse_iff : SameLetters cs.reverse ds.reverse ↔ SameLetters cs ds := by
  rw [SameLetters, SameLetters, List.map_reverse, List.map_reverse, List.reverse_inj]

/-- A blank behind the letters is the same blank. -/
theorem of_append_blank {b : Char} (h : SameLetters cs (ds ++ [b])) (hb : isBlank b = true) :
    ∃ word, cs = word ++ [b] ∧ SameLetters word ds := by
  rw [SameLetters, List.map_append, List.map_eq_append_iff] at h
  obtain ⟨word, last, rfl, hword, hlast⟩ := h
  rw [List.map_cons, List.map_nil, List.map_eq_singleton_iff] at hlast
  obtain ⟨c, rfl, hc⟩ := hlast
  exact ⟨word, by rw [eq_of_toLower_blank hc hb], hword⟩

end SameLetters

namespace TrimRule

/-- The text begins with the piece, which the rest follows. -/
def Begins (piece cs rest : List Char) : Prop :=
  ∃ head, cs = head ++ rest ∧ SameLetters head piece

theorem dropStart?_eq_some_iff {piece cs rest : List Char} :
    dropStart? piece cs = some rest ↔ Begins piece cs rest := by
  unfold Begins
  induction piece generalizing cs with
  | nil =>
    simp [dropStart?, SameLetters]
  | cons p ps ih =>
    cases cs with
    | nil => simp [dropStart?, SameLetters]
    | cons c cs =>
      rw [dropStart?]
      split
      · rename_i hlower
        rw [ih]
        constructor
        · rintro ⟨head, rfl, hs⟩
          exact ⟨c :: head, rfl, by simpa [SameLetters, hlower] using hs⟩
        · rintro ⟨head, hcs, hs⟩
          cases head with
          | nil => simp [SameLetters] at hs
          | cons d head =>
            obtain ⟨rfl, rfl⟩ := List.cons.inj hcs
            exact ⟨head, rfl, by simpa [SameLetters, hlower] using hs⟩
      · rename_i hlower
        simp only [reduceCtorEq, false_iff, not_exists, not_and]
        intro head hcs hs
        cases head with
        | nil => simp [SameLetters] at hs
        | cons d head =>
          obtain ⟨rfl, rfl⟩ := List.cons.inj hcs
          exact hlower (by simpa [SameLetters, eq_comm] using (List.cons.inj hs).1)

/-- The text ends with the piece, which is not empty: the rest stands before it, and the tail is how
it stands there. -/
def Ends (piece cs rest tail : List Char) : Prop :=
  piece ≠ [] ∧ cs = rest ++ tail ∧ SameLetters tail piece

theorem dropEnd?_eq_some_iff {piece cs rest : List Char} :
    dropEnd? piece cs = some rest ↔ ∃ tail, Ends piece cs rest tail := by
  rw [dropEnd?]
  split
  · rename_i hempty
    simp [Ends, List.isEmpty_iff.1 hempty]
  · rename_i hempty
    have hpiece : piece ≠ [] := fun hnil => hempty (List.isEmpty_iff.2 hnil)
    rw [Option.map_eq_some_iff]
    constructor
    · rintro ⟨front, hf, rfl⟩
      obtain ⟨head, hcs, hs⟩ := dropStart?_eq_some_iff.1 hf
      refine ⟨head.reverse, hpiece, ?_, ?_⟩
      · rw [← List.reverse_append, ← hcs, List.reverse_reverse]
      · rwa [← SameLetters.reverse_iff, List.reverse_reverse]
    · rintro ⟨tail, -, rfl, hs⟩
      refine ⟨rest.reverse, dropStart?_eq_some_iff.2 ⟨tail.reverse, ?_, ?_⟩,
        List.reverse_reverse _⟩
      · rw [List.reverse_append]
      · exact SameLetters.reverse_iff.2 hs

/-! ## The start -/

/-- A piece with a blank at its end stands before a text only where that blank does. -/
theorem Begins.exists_word {letters cs rest : List Char} {b : Char}
    (h : Begins (letters ++ [b]) cs rest) (hb : isBlank b = true) :
    ∃ word, cs = word ++ b :: rest ∧ SameLetters word letters := by
  obtain ⟨head, rfl, hs⟩ := h
  obtain ⟨word, rfl, hword⟩ := hs.of_append_blank hb
  exact ⟨word, by simp, hword⟩

/-- What is left of a text after its start: all of it where none of the pieces stands there, else
what follows one of them, from its first word. -/
inductive StartDropped (pieces : List String) (cs : List Char) : List Char → Prop where
  | kept (h : ∀ p ∈ pieces, ∀ rest, ¬ Begins p.toList cs rest) : StartDropped pieces cs cs
  | dropped {p : String} {rest : List Char} (hp : p ∈ pieces) (h : Begins p.toList cs rest) :
    StartDropped pieces cs (trimLeft rest)

theorem withoutStart_dropped (pieces : List String) (cs : List Char) :
    StartDropped pieces cs (withoutStart pieces cs) := by
  unfold withoutStart
  split
  · rename_i rest hfound
    obtain ⟨p, hp, hdrop⟩ := List.exists_of_findSome?_eq_some hfound
    exact .dropped hp (dropStart?_eq_some_iff.1 hdrop)
  · rename_i hnone
    refine .kept fun p hp rest h => ?_
    have hdrop := List.findSome?_eq_none_iff.1 hnone p hp
    rw [dropStart?_eq_some_iff.2 h] at hdrop
    cases hdrop

/-! ## The end -/

/-- Where a piece stands with its blanks at the end of a text that ends in none, its letters stand
there. -/
theorem Ends.letters {piece cs rest tail : List Char} (h : Ends piece cs rest tail)
    (hlast : ∀ c ∈ cs.getLast?, isBlank c = false) :
    ∃ rest tail, Ends (trimmed piece) cs rest tail := by
  obtain ⟨hpiece, rfl, hs⟩ := h
  -- a blank at the end of the piece would stand at the end of the text
  have hend : ∀ b ∈ piece.getLast?, isBlank b = false := by
    intro b hb
    by_contra hblank
    obtain ⟨letters, rfl⟩ := List.getLast?_eq_some_iff.1 hb
    obtain ⟨word, rfl, -⟩ := hs.of_append_blank (by simpa using hblank)
    exact hblank (hlast b (by simp))
  have htrimmed : trimmed piece = trimLeft piece := by
    rw [← Text.trimLeft_trimRight, Text.trimRight_eq_self hend]
  have hne : trimmed piece ≠ [] := by
    rw [Ne, Text.trimmed_eq_nil_iff]
    intro hall
    have hlastBlank := hend _ (List.getLast?_eq_some_getLast hpiece)
    rw [hall _ (List.getLast_mem hpiece)] at hlastBlank
    cases hlastBlank
  obtain ⟨front, hfront⟩ := Text.trimLeft_suffix piece
  rw [← hfront, ← htrimmed, SameLetters, List.map_append, List.map_eq_append_iff] at hs
  obtain ⟨before, letters, rfl, -, hletters⟩ := hs
  exact ⟨rest ++ before, letters, hne, by rw [List.append_assoc], hletters⟩

/-- What is left of a text before its end: all of it where the letters of none of the pieces stand
there, else what is before the letters of one of them, up to its last word. -/
inductive EndDropped (pieces : List String) (cs : List Char) : List Char → Prop where
  | kept (h : ∀ p ∈ pieces, ∀ rest tail, ¬ Ends (trimmed p.toList) cs rest tail) :
    EndDropped pieces cs cs
  | dropped {p : String} {rest tail : List Char} (hp : p ∈ pieces)
      (h : Ends (trimmed p.toList) cs rest tail) : EndDropped pieces cs (trimRight rest)

/-- Looking for the letters of the pieces is enough. -/
theorem withoutEnd_eq (pieces : List String) {cs : List Char}
    (hlast : ∀ c ∈ cs.getLast?, isBlank c = false) :
    withoutEnd pieces cs = (pieces.find? fun p => (dropEnd? (trimmed p.toList) cs).isSome).elim cs
      fun p => trimRight (cs.take (cs.length - (trimmed p.toList).length)) := by
  have hletters : ∀ p : String, ((dropEnd? p.toList cs).isSome ||
      (dropEnd? (trimmed p.toList) cs).isSome) = (dropEnd? (trimmed p.toList) cs).isSome := by
    intro p
    cases hdrop : dropEnd? p.toList cs with
    | none => rfl
    | some rest =>
      obtain ⟨tail, hends⟩ := dropEnd?_eq_some_iff.1 hdrop
      obtain ⟨rest', tail', hends⟩ := hends.letters hlast
      rw [dropEnd?_eq_some_iff.2 ⟨tail', hends⟩]
      rfl
  unfold withoutEnd
  simp only [hletters]
  cases pieces.find? fun p => (dropEnd? (trimmed p.toList) cs).isSome <;> rfl

theorem isSome_dropEnd?_iff {piece cs : List Char} :
    (dropEnd? piece cs).isSome = true ↔ ∃ rest tail, Ends piece cs rest tail := by
  rw [Option.isSome_iff_exists]
  exact exists_congr fun rest => dropEnd?_eq_some_iff

/-- As many characters are cut off the end as the letters have. -/
theorem Ends.take_eq {piece cs rest tail : List Char} (h : Ends piece cs rest tail) :
    cs.take (cs.length - piece.length) = rest := by
  rw [h.2.1, List.length_append, ← h.2.2.length_eq, Nat.add_sub_cancel, List.take_left]

theorem withoutEnd_dropped (pieces : List String) {cs : List Char}
    (hlast : ∀ c ∈ cs.getLast?, isBlank c = false) :
    EndDropped pieces cs (withoutEnd pieces cs) := by
  rw [withoutEnd_eq pieces hlast]
  cases hfound : pieces.find? fun p => (dropEnd? (trimmed p.toList) cs).isSome with
  | some p =>
    have hmatch := List.find?_some hfound
    obtain ⟨rest, tail, hends⟩ := isSome_dropEnd?_iff.1 hmatch
    rw [Option.elim_some, hends.take_eq]
    exact .dropped (List.mem_of_find?_eq_some hfound) hends
  | none =>
    refine .kept fun p hp rest tail hends => ?_
    exact List.find?_eq_none.1 hfound p hp (isSome_dropEnd?_iff.2 ⟨rest, tail, hends⟩)

/-! ## Both ends -/

/-- What is left of a composed part after its start. -/
def opened (r : TrimRule) (body : String) : List Char :=
  withoutStart r.dropStart (trimmed body.toList)

/-- What is left of a composed part between its ends. -/
def content (r : TrimRule) (body : String) : List Char := withoutEnd r.dropEnd (r.opened body)

/-- The text with what the rule writes in front of it and behind it. -/
def framed (r : TrimRule) (cs : List Char) : String :=
  (r.before.map (· ++ " ")).getD "" ++ String.ofList cs ++ (r.after.map (" " ++ ·)).getD ""

theorem apply_eq (r : TrimRule) (body : String) : r.apply body =
    if trimmed body.toList = [] then none else some (r.framed (r.content body)) := by
  simp only [apply, List.isEmpty_iff]
  rfl

/-- What is left of a part after its start does not end in a blank. -/
theorem isBlank_getLast?_opened (r : TrimRule) (body : String) :
    ∀ c ∈ (r.opened body).getLast?, isBlank c = false := by
  have hbody : ∀ c ∈ (trimmed body.toList).getLast?, isBlank c = false :=
    Text.isBlank_getLast?_trimRight _
  have hdropped := withoutStart_dropped r.dropStart (trimmed body.toList)
  rw [opened]
  generalize withoutStart r.dropStart (trimmed body.toList) = left at hdropped
  generalize trimmed body.toList = cs at hbody hdropped
  cases hdropped with
  | kept => exact hbody
  | @dropped p rest hp h =>
    obtain ⟨head, rfl, -⟩ := h
    obtain ⟨front, hfront⟩ := Text.trimLeft_suffix rest
    intro c hc
    refine hbody c ?_
    rw [← hfront, List.getLast?_append, List.getLast?_append, hc]
    rfl

/-- A part that is not blank loses a piece at its start only where the piece stands there, so one
that ends in a blank goes with whole words. At its end it loses the letters of a piece wherever
they stand, which are whole words where a blank is before them. -/
theorem apply_drops_words (r : TrimRule) (body : String) :
    (r.apply body = none ∧ ∀ c ∈ body.toList, isBlank c = true) ∨
    ∃ opened content, r.apply body = some (r.framed content) ∧
      (opened = trimmed body.toList ∧
          (∀ p ∈ r.dropStart, ∀ rest, ¬ Begins p.toList (trimmed body.toList) rest) ∨
        ∃ p ∈ r.dropStart, ∃ rest, Begins p.toList (trimmed body.toList) rest ∧
          opened = trimLeft rest ∧
          ∀ letters b, p.toList = letters ++ [b] → isBlank b = true →
            ∃ word, trimmed body.toList = word ++ b :: rest ∧ SameLetters word letters ∧
              words body.toList = words word ++ words opened) ∧
      (content = opened ∧
          (∀ p ∈ r.dropEnd, ∀ rest tail, ¬ Ends (trimmed p.toList) opened rest tail) ∨
        ∃ p ∈ r.dropEnd, ∃ rest tail, Ends (trimmed p.toList) opened rest tail ∧
          content = trimRight rest ∧
          ((∀ b ∈ rest.getLast?, isBlank b = true) →
            words opened = words content ++ words tail)) := by
  by_cases hblank : trimmed body.toList = []
  · exact .inl ⟨by rw [apply_eq, if_pos hblank], Text.trimmed_eq_nil_iff.1 hblank⟩
  · refine .inr ⟨r.opened body, r.content body, by rw [apply_eq, if_neg hblank], ?_, ?_⟩
    · have hdropped := withoutStart_dropped r.dropStart (trimmed body.toList)
      rw [opened]
      generalize withoutStart r.dropStart (trimmed body.toList) = left at hdropped
      cases hdropped with
      | kept h => exact .inl ⟨rfl, h⟩
      | @dropped p rest hp h =>
        refine .inr ⟨p, hp, rest, h, rfl, fun letters b hletters hb => ?_⟩
        rw [hletters] at h
        obtain ⟨word, hword, hs⟩ := h.exists_word hb
        refine ⟨word, hword, hs, ?_⟩
        rw [Text.words_trimLeft, ← Text.words_append_cons hb, ← hword, trimmed,
          Text.words_trimRight, Text.words_trimLeft]
    · have hdropped := withoutEnd_dropped r.dropEnd (r.isBlank_getLast?_opened body)
      rw [content]
      generalize withoutEnd r.dropEnd (r.opened body) = left at hdropped
      cases hdropped with
      | kept h => exact .inl ⟨rfl, h⟩
      | @dropped p rest tail hp h =>
        refine .inr ⟨p, hp, rest, tail, h, rfl, fun hb => ?_⟩
        rw [h.2.1, Text.words_trimRight, Text.words_append hb]

/-- A last word that ends with the letters of a piece is cut, though the piece begins with a
blank. -/
theorem apply_cuts_word : ¬ ∀ (r : TrimRule) (body content : String),
    r.before = none → r.after = none → r.dropStart = [] →
    (∀ p ∈ r.dropEnd, ∃ b ∈ p.toList.head?, isBlank b = true) →
    r.apply body = some content → words content.toList <+: words body.toList := by
  intro h
  let r := TrimRule.read none none none (some " AND")
  have hdropEnd : r.dropEnd = [" AND"] := rfl
  have hblank : ∀ p ∈ r.dropEnd, ∃ b ∈ p.toList.head?, isBlank b = true := by
    intro p hp
    rw [hdropEnd, List.mem_singleton] at hp
    rw [hp]
    exact ⟨' ', rfl, by decide⟩
  have hcut := h r "x = brand" "x = br" rfl rfl rfl hblank rfl
  revert hcut
  decide

end TrimRule

end MappedSql
