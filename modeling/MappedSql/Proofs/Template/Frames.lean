import MappedSql.Proofs.Template.Balance
import MappedSql.Proofs.Template.Clauses

/- Frames around nothing.

   A trimmed part contributes nothing if it is blank. Whether it is blank is asked before pieces are
   dropped, so a part that is not may still be dropped as a whole, and then what the rule writes in
   front of it and behind it stands alone. `TrimRule.Consumed` says which parts these are: the first
   piece that stands at the start is all there is, or the first that stands at the end is all that
   is left. Any other part leaves a clause that is not blank between the ends of its frame
   (`Template.compose_trim_frames`). Conditions are never consumed, for a connective goes with the
   blank behind it, and a trimmed part has no blank at its end (`TrimRule.conditions_not_consumed`).
   Assignments are, where they are a single comma (`TrimRule.assignments_consumed_iff`), so the
   frame may stand alone (`Template.trim_frames_nothing`). -/
namespace MappedSql

open Text (isBlank trimLeft trimRight trimmed)

namespace Text

theorem isBlank_head?_trimLeft (cs : List Char) : ∀ c ∈ (trimLeft cs).head?, isBlank c = false := by
  intro c hc
  have h := List.head?_dropWhile_not isBlank cs
  rw [show (cs.dropWhile isBlank).head? = some c from hc] at h
  exact h

/-- Blanks do not stand in front of a text that begins with none. -/
theorem eq_nil_of_head? {front cs : List Char} (hcs : ∀ c ∈ (front ++ cs).head?, isBlank c = false)
    (hfront : ∀ c ∈ front, isBlank c = true) : front = [] := by
  cases front with
  | nil => rfl
  | cons c front =>
    have hc : isBlank c = false := hcs c rfl
    rw [hfront c List.mem_cons_self] at hc
    cases hc

/-- Blanks do not stand behind a text that ends in none. -/
theorem eq_nil_of_getLast? {cs back : List Char}
    (hcs : ∀ c ∈ (cs ++ back).getLast?, isBlank c = false)
    (hback : ∀ c ∈ back, isBlank c = true) : back = [] := by
  by_contra hne
  have hlast := hcs (back.getLast hne) (by
    rw [List.getLast?_append_of_ne_nil _ hne, List.getLast?_eq_some_getLast hne]
    rfl)
  rw [hback _ (List.getLast_mem hne)] at hlast
  cases hlast

theorem isBlank_head?_trimmed (cs : List Char) : ∀ c ∈ (trimmed cs).head?, isBlank c = false := by
  rw [← trimLeft_trimRight]
  exact isBlank_head?_trimLeft (trimRight cs)

theorem isBlank_getLast?_trimmed (cs : List Char) :
    ∀ c ∈ (trimmed cs).getLast?, isBlank c = false :=
  isBlank_getLast?_trimRight (trimLeft cs)

end Text

namespace TrimRule

/-! ## Which pieces are dropped -/

/-- The first of the pieces that stands in a place. -/
def Foremost (stands : String → Prop) (pieces : List String) (p : String) : Prop :=
  ∃ before after, pieces = before ++ p :: after ∧ stands p ∧ ∀ q ∈ before, ¬ stands q

/-- The piece stands at the start of the text. -/
def AtStart (cs : List Char) (p : String) : Prop := ∃ rest, Begins p.toList cs rest

/-- The letters of the piece stand at the end of the text. -/
def AtEnd (cs : List Char) (p : String) : Prop := ∃ rest tail, Ends (trimmed p.toList) cs rest tail

theorem Foremost.mem {stands : String → Prop} {pieces : List String} {p : String}
    (h : Foremost stands pieces p) : p ∈ pieces := by
  obtain ⟨before, after, rfl, -, -⟩ := h
  exact List.mem_append_right before List.mem_cons_self

theorem exists_foremost_or (stands : String → Prop) (pieces : List String) :
    (∃ p, Foremost stands pieces p) ∨ ∀ q ∈ pieces, ¬ stands q := by
  induction pieces with
  | nil => exact .inr fun q hq => by cases hq
  | cons p pieces ih =>
    by_cases hp : stands p
    · exact .inl ⟨p, [], pieces, rfl, hp, fun q hq => by cases hq⟩
    · rcases ih with ⟨q, before, after, rfl, hq, hbefore⟩ | hnone
      · exact .inl ⟨q, p :: before, after, rfl, hq, List.forall_mem_cons.2 ⟨hp, hbefore⟩⟩
      · exact .inr (List.forall_mem_cons.2 ⟨hp, hnone⟩)

section

variable {pieces : List String} {cs rest tail : List Char} {p : String}

theorem withoutStart_of_none (h : ∀ q ∈ pieces, ¬ AtStart cs q) : withoutStart pieces cs = cs := by
  have hnone : (pieces.findSome? fun q => dropStart? q.toList cs) = none := by
    rw [List.findSome?_eq_none_iff]
    intro q hq
    rw [Option.eq_none_iff_forall_ne_some]
    exact fun rest hrest => h q hq ⟨rest, dropStart?_eq_some_iff.1 hrest⟩
  rw [withoutStart, hnone]

theorem withoutStart_of_foremost (hp : Foremost (AtStart cs) pieces p)
    (h : Begins p.toList cs rest) : withoutStart pieces cs = trimLeft rest := by
  obtain ⟨before, after, rfl, -, hbefore⟩ := hp
  have hfound : ((before ++ p :: after).findSome? fun q => dropStart? q.toList cs) = some rest := by
    rw [List.findSome?_eq_some_iff]
    refine ⟨before, p, after, rfl, dropStart?_eq_some_iff.2 h, fun q hq => ?_⟩
    rw [Option.eq_none_iff_forall_ne_some]
    exact fun rest hrest => hbefore q hq ⟨rest, dropStart?_eq_some_iff.1 hrest⟩
  rw [withoutStart, hfound]

theorem withoutEnd_of_none (hlast : ∀ c ∈ cs.getLast?, isBlank c = false)
    (h : ∀ q ∈ pieces, ¬ AtEnd cs q) : withoutEnd pieces cs = cs := by
  have hnone : (pieces.find? fun q => (dropEnd? (trimmed q.toList) cs).isSome) = none := by
    rw [List.find?_eq_none]
    exact fun q hq hmatch => h q hq (isSome_dropEnd?_iff.1 hmatch)
  rw [withoutEnd_eq pieces hlast, hnone, Option.elim_none]

theorem withoutEnd_of_foremost (hlast : ∀ c ∈ cs.getLast?, isBlank c = false)
    (hp : Foremost (AtEnd cs) pieces p) (h : Ends (trimmed p.toList) cs rest tail) :
    withoutEnd pieces cs = trimRight rest := by
  obtain ⟨before, after, rfl, hstands, hbefore⟩ := hp
  have hfound : ((before ++ p :: after).find? fun q => (dropEnd? (trimmed q.toList) cs).isSome) =
      some p := by
    rw [List.find?_eq_some_iff_append]
    refine ⟨isSome_dropEnd?_iff.2 hstands, before, after, rfl, fun q hq => ?_⟩
    rw [Bool.not_eq_true']
    exact eq_false_of_ne_true fun hmatch => hbefore q hq (isSome_dropEnd?_iff.1 hmatch)
  rw [withoutEnd_eq _ hlast, hfound, Option.elim_some, h.take_eq]

/-- Nothing is left of a text that is the letters of a piece. -/
theorem withoutEnd_eq_nil_iff (hne : cs ≠ []) (hfirst : ∀ c ∈ cs.head?, isBlank c = false)
    (hlast : ∀ c ∈ cs.getLast?, isBlank c = false) : withoutEnd pieces cs = [] ↔
      ∃ p, Foremost (AtEnd cs) pieces p ∧ SameLetters cs (trimmed p.toList) := by
  constructor
  · intro hnil
    rcases exists_foremost_or (AtEnd cs) pieces with ⟨p, hp⟩ | hnone
    · obtain ⟨before, after, hpieces, ⟨rest, tail, hends⟩, hbefore⟩ := id hp
      rw [withoutEnd_of_foremost hlast hp hends, Text.trimRight_eq_nil_iff] at hnil
      obtain ⟨-, hcs, hs⟩ := hends
      rw [hcs] at hfirst
      rw [Text.eq_nil_of_head? hfirst hnil, List.nil_append] at hcs
      exact ⟨p, hp, hcs ▸ hs⟩
    · exact absurd ((withoutEnd_of_none hlast hnone).symm.trans hnil) hne
  · rintro ⟨p, hp, hs⟩
    have hpiece : trimmed p.toList ≠ [] := by
      intro hnil
      rw [hnil] at hs
      exact hne (List.eq_nil_of_length_eq_zero hs.length_eq)
    have hends : Ends (trimmed p.toList) cs [] cs := ⟨hpiece, rfl, hs⟩
    rw [withoutEnd_of_foremost hlast hp hends]
    rfl

theorem withoutEnd_nil (pieces : List String) : withoutEnd pieces [] = [] := by
  unfold withoutEnd
  dsimp only
  split
  · rw [List.take_nil]
    rfl
  · rfl

end

/-! ## Parts of which nothing is left -/

/-- The pieces that are dropped are all that the text has. -/
inductive Consumed (r : TrimRule) (cs : List Char) : Prop where
  /-- The piece at the start is all of the text. -/
  | start {p : String} (hp : Foremost (AtStart cs) r.dropStart p) (hall : SameLetters cs p.toList)
  /-- No piece stands at the start, and the one at the end is all of the text. -/
  | stop {p : String} (hnone : ∀ q ∈ r.dropStart, ¬ AtStart cs q)
    (hp : Foremost (AtEnd cs) r.dropEnd p) (hall : SameLetters cs (trimmed p.toList))
  /-- The piece at the end is all that follows the one at the start, but for blanks. -/
  | both {p q : String} {rest : List Char} (hp : Foremost (AtStart cs) r.dropStart p)
    (hrest : Begins p.toList cs rest) (hq : Foremost (AtEnd (trimLeft rest)) r.dropEnd q)
    (hall : SameLetters (trimLeft rest) (trimmed q.toList))

theorem isBlank_head?_opened (r : TrimRule) (body : String) :
    ∀ c ∈ (r.opened body).head?, isBlank c = false := by
  have hdropped := withoutStart_dropped r.dropStart (trimmed body.toList)
  rw [opened]
  generalize withoutStart r.dropStart (trimmed body.toList) = left at hdropped
  cases hdropped with
  | kept => exact Text.isBlank_head?_trimmed body.toList
  | @dropped p rest hp h => exact Text.isBlank_head?_trimLeft rest

theorem content_eq_nil_iff (r : TrimRule) {body : String} (hbody : trimmed body.toList ≠ []) :
    r.content body = [] ↔ r.Consumed (trimmed body.toList) := by
  have hfirst := r.isBlank_head?_opened body
  have hlast := r.isBlank_getLast?_opened body
  rw [content]
  constructor
  · intro hnil
    rcases exists_foremost_or (AtStart (trimmed body.toList)) r.dropStart with ⟨p, hp⟩ | hnone
    · obtain ⟨before, after, hpieces, ⟨rest, hrest⟩, hbefore⟩ := id hp
      have hopened : r.opened body = trimLeft rest := withoutStart_of_foremost hp hrest
      by_cases hleft : trimLeft rest = []
      · -- what follows the piece is blank, and the text ends in no blank
        obtain ⟨head, hcs, hs⟩ := hrest
        have hend := Text.isBlank_getLast?_trimmed body.toList
        rw [hcs] at hend
        rw [Text.eq_nil_of_getLast? hend (Text.trimLeft_eq_nil_iff.1 hleft),
          List.append_nil] at hcs
        exact .start hp (hcs ▸ hs)
      · rw [hopened] at hfirst hlast hnil
        obtain ⟨q, hq, hs⟩ := (withoutEnd_eq_nil_iff hleft hfirst hlast).1 hnil
        exact .both hp hrest hq hs
    · have hopened : r.opened body = trimmed body.toList := withoutStart_of_none hnone
      rw [hopened] at hfirst hlast hnil
      obtain ⟨p, hp, hs⟩ := (withoutEnd_eq_nil_iff hbody hfirst hlast).1 hnil
      exact .stop hnone hp hs
  · intro hconsumed
    cases hconsumed with
    | @start p hp hall =>
      have hopened : r.opened body = [] :=
        withoutStart_of_foremost hp ⟨trimmed body.toList, (List.append_nil _).symm, hall⟩
      rw [hopened, withoutEnd_nil]
    | @stop p hnone hp hall =>
      have hopened : r.opened body = trimmed body.toList := withoutStart_of_none hnone
      rw [hopened] at hfirst hlast ⊢
      exact (withoutEnd_eq_nil_iff hbody hfirst hlast).2 ⟨p, hp, hall⟩
    | @both p q rest hp hrest hq hall =>
      have hopened : r.opened body = trimLeft rest := withoutStart_of_foremost hp hrest
      rw [hopened] at hfirst hlast ⊢
      by_cases hleft : trimLeft rest = []
      · rw [hleft, withoutEnd_nil]
      · exact (withoutEnd_eq_nil_iff hleft hfirst hlast).2 ⟨q, hq, hall⟩

/-- What is left of a part between its ends begins like what is left after its start. -/
theorem content_prefix (r : TrimRule) (body : String) : r.content body <+: r.opened body := by
  have hdropped := withoutEnd_dropped r.dropEnd (r.isBlank_getLast?_opened body)
  rw [content]
  generalize withoutEnd r.dropEnd (r.opened body) = left at hdropped
  cases hdropped with
  | kept => exact List.prefix_rfl
  | @dropped p rest tail hp h =>
    rw [h.2.1]
    refine List.IsPrefix.trans ?_ (List.prefix_append rest tail)
    rw [← List.reverse_suffix, trimRight, List.reverse_reverse]
    exact List.dropWhile_suffix isBlank

/-- What is left between the ends is blank only where nothing is. -/
theorem exists_not_blank_content_iff (r : TrimRule) (body : String) :
    (∃ c ∈ (r.content body), isBlank c = false) ↔ r.content body ≠ [] := by
  refine ⟨fun ⟨c, hc, _⟩ hnil => by simp [hnil] at hc, fun hne => ?_⟩
  have hfirst := r.isBlank_head?_opened body
  obtain ⟨rest, hrest⟩ := r.content_prefix body
  refine ⟨(r.content body).head hne, List.head_mem hne, hfirst _ ?_⟩
  rw [← hrest, List.head?_append_of_ne_nil _ hne, List.head?_eq_some_head hne]
  rfl

/-- A connective is dropped with the blank behind it, so it is never all of a trimmed text. -/
theorem conditions_not_consumed {cs : List Char} (hlast : ∀ c ∈ cs.getLast?, isBlank c = false) :
    ¬ conditions.Consumed cs := by
  have hend : ∀ p, p ∉ conditions.dropEnd := fun p hp => by cases hp
  intro h
  cases h with
  | @start p hp hall =>
    obtain ⟨word, b, hb, -, hcs⟩ := begins_conditions_iff.1
      ⟨p, hp.mem, cs, (List.append_nil cs).symm, hall⟩
    have hblank := hlast b (by simp [hcs])
    rw [isBlank_of_mem_connectiveBlanks hb] at hblank
    cases hblank
  | stop hnone hp hall => exact hend _ hp.mem
  | both hp hrest hq hall => exact hend _ hq.mem

/-- A comma has one case only. -/
theorem eq_comma {cs : List Char} (h : SameLetters cs [',']) : cs = [','] := by
  obtain ⟨c, rfl⟩ := List.length_eq_one_iff.1 h.length_eq
  have hc : c.toLower = ',' := List.singleton_inj.1 h
  rcases toLower_cases c with hcase | hcase
  · rw [← hcase, hc]
  · rw [hc] at hcase
    exact absurd hcase (by decide)

theorem assignments_consumed_iff {cs : List Char} : assignments.Consumed cs ↔ cs = [','] := by
  have hstart : ∀ p, p ∉ assignments.dropStart := fun p hp => by cases hp
  constructor
  · intro h
    cases h with
    | start hp hall => exact absurd hp.mem (hstart _)
    | @stop p hnone hp hall =>
      rw [List.mem_singleton.1 hp.mem] at hall
      exact eq_comma hall
    | both hp hrest hq hall => exact absurd hp.mem (hstart _)
  · rintro rfl
    have hends : Ends (trimmed ",".toList) [','] [] [','] := ⟨by decide, rfl, rfl⟩
    exact .stop (fun q hq => absurd hq (hstart q))
      ⟨[], [], rfl, ⟨_, _, hends⟩, fun q hq => by cases hq⟩ hends.2.2

end TrimRule

/-- Composing into a buffer of its own writes nothing. -/
theorem Compose.Balances.captured_buffer {α : Type} {names : List String} {x : Compose α}
    (hx : Compose.Balances names x) (c : Composition) :
    (Compose.captured x c).2.buffer = c.buffer := by
  have houter : (x c.push).2.outer = c.buffer :: c.outer := (hx c.push).outer
  show (x c.push).2.pop.2.buffer = c.buffer
  rw [Composition.pop, houter]

namespace Template

open TrimRule

/-- A trimmed part contributes nothing if it is composed of blanks. Otherwise its frame is written,
around a clause that is not blank if and only if the pieces that are dropped are not all of the
part. Conditions always leave a clause; assignments leave none where they are a single comma. -/
theorem compose_trim_frames (ev : Evaluator) (rule : TrimRule) (body : Template)
    {c c' : Composition} {part : String}
    (h : Compose.captured (body.compose ev) c = (.ok part, c')) :
    c'.buffer = c.buffer ∧
      ((∀ ch ∈ part.toList, isBlank ch = true) →
        (Template.trim rule body).compose ev c = (.ok false, c')) ∧
      ((∃ ch ∈ part.toList, isBlank ch = false) →
        (Template.trim rule body).compose ev c =
            (.ok true, c'.append (rule.framed (rule.content part))) ∧
          (rule.content part = [] ↔ rule.Consumed (trimmed part.toList)) ∧
          ((∃ ch ∈ rule.content part, isBlank ch = false) ↔
            ¬ rule.Consumed (trimmed part.toList))) ∧
      ¬ TrimRule.conditions.Consumed (trimmed part.toList) ∧
      (TrimRule.assignments.Consumed (trimmed part.toList) ↔ trimmed part.toList = [',']) := by
  have hbuffer : c'.buffer = c.buffer := by
    have hbalances : Compose.Balances ("value" :: body.declared) (body.compose ev) :=
      compose_balances ev List.mem_cons_self body (List.subset_cons_self _ _)
    have hcaptured := hbalances.captured_buffer c
    rwa [h] at hcaptured
  have hcompose : (Template.trim rule body).compose ev c =
      ((rule.apply part).elim (.ok false, c') fun s => (.ok true, c'.append s)) := by
    rw [Template.compose, Compose.bind_ok _ h]
    cases rule.apply part <;> rfl
  refine ⟨hbuffer, fun hblank => ?_, fun hsome => ?_,
    conditions_not_consumed (Text.isBlank_getLast?_trimmed _), assignments_consumed_iff⟩
  · rw [hcompose, apply_eq, if_pos (Text.trimmed_eq_nil_iff.2 hblank), Option.elim_none]
  · have hne : trimmed part.toList ≠ [] := by
      obtain ⟨ch, hch, hnot⟩ := hsome
      intro hnil
      rw [Text.trimmed_eq_nil_iff.1 hnil ch hch] at hnot
      cases hnot
    refine ⟨?_, rule.content_eq_nil_iff hne, ?_⟩
    · rw [hcompose, apply_eq, if_neg hne, Option.elim_some]
    · rw [exists_not_blank_content_iff, Ne, rule.content_eq_nil_iff hne]

/-- A single comma among assignments: the frame is written around nothing. -/
theorem compose_trim_frames_comma :
    let c := Composition.start .null none
    Compose.captured ((Template.text " , ").compose .standard) c = (.ok " ,  ", c) ∧
      (Template.trim .assignments (.text " , ")).compose .standard c = (.ok true, c.append "SET ") ∧
      TrimRule.assignments.Consumed [','] := by
  intro c
  have hcaptured : Compose.captured ((Template.text " , ").compose .standard) c =
      (.ok " ,  ", c) := by rfl
  obtain ⟨-, -, hframed, -, hcomma⟩ := compose_trim_frames .standard .assignments _ hcaptured
  refine ⟨hcaptured, (hframed ⟨',', by decide, by decide⟩).1, hcomma.2 (by rfl)⟩

/-- A frame may be written though nothing is left of the part. -/
theorem trim_frames_nothing : ¬ ∀ (ev : Evaluator) (rule : TrimRule) (body : Template)
    (c c' : Composition) (part : String),
    Compose.captured (body.compose ev) c = (.ok part, c') →
    (∀ ch ∈ rule.content part, isBlank ch = true) →
    (Template.trim rule body).compose ev c = (.ok false, c') := by
  intro h
  let c := Composition.start .null none
  have hnothing : TrimRule.assignments.content ", " = [] :=
    (content_eq_nil_iff _ (by decide)).2 (assignments_consumed_iff.2 (by rfl))
  have hcomma := h .standard .assignments (.text ",") c c ", " (by rfl) (by simp [hnothing])
  have happlied : ((Template.trim .assignments (.text ",")).compose .standard c).1 = .ok true := by
    cbv
  rw [hcomma] at happlied
  cases happlied

end Template

end MappedSql
