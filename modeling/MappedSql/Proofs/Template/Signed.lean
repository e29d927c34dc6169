import MappedSql.Proofs.Parameter.Signs
import MappedSql.Proofs.Template.Renamed
import MappedSql.Proofs.Template.Walk

/- The signs in the text of a template.

   Each round of a loop is read for placeholders, to rename them, and so loses a backslash before
   every opening sign: a text under one loop more has the same signs as the round that is made of
   it (`Placeholder.Signed.roundText`). A trimmed part keeps its signs if nothing is dropped that
   stands in them (`TrimRule.signed_apply`). With both, what a template comes to has the
   signs of the texts in it (`Template.walk_written`), where each text is taken under the loops
   around it (`Template.texts`, `Reads`). -/
namespace MappedSql

open Placeholder (Bare Ordinary Sign Signed endsOpen isSpecial delimiters sign)
open Expression (Item)
open Text (pieces trimLeft trimRight trimmed)

/-! ## Rounds -/

namespace Loop

/-- A loop variable whose name is a part of the content has no closing sign in it, nor has its
fresh name. -/
theorem not_mem_renameRoot {name : String} {content : List Char} (number : Nat)
    (h : '\x7d' ∉ content) :
    '\x7d' ∉ renameRoot name.toList (freshName name number).toList content := by
  unfold renameRoot
  split
  · rename_i rest hdrop
    have hleft : trimLeft content = name.toList ++ rest := Text.dropPiece?_eq_some.1 hdrop
    have hsuffix := (Text.trimLeft_suffix content).subset
    rw [hleft] at hsuffix
    have hname : '\x7d' ∉ name.toList := fun hmem => h (hsuffix (List.mem_append_left _ hmem))
    have hrest : '\x7d' ∉ rest := fun hmem => h (hsuffix (List.mem_append_right _ hmem))
    have hfront : '\x7d' ∉ content.takeWhile Text.isBlank :=
      fun hmem => h ((List.takeWhile_prefix _).subset hmem)
    have hdigits : '\x7d' ∉ Nat.toDigits 10 number := fun hmem => by
      have hdigit : ('\x7d' : Char).isDigit = true :=
        Nat.isDigit_of_mem_toDigits (by decide) (by decide) hmem
      revert hdigit
      decide
    have hprefix : '\x7d' ∉ Placeholder.freshPrefix := by decide
    split
    · simp [toList_freshName, hname, hrest, hfront, hdigits, hprefix]
    · exact h
  · exact h

theorem not_mem_renamed (l : Loop) (number : Nat) {content : List Char} (h : '\x7d' ∉ content) :
    '\x7d' ∉ l.renamed number content := by
  have hone : ∀ (name : Option String) {content : List Char}, '\x7d' ∉ content →
      '\x7d' ∉ renameVariable number content name := by
    intro name content hc
    cases name with
    | none => exact hc
    | some n => exact not_mem_renameRoot number hc
  rw [renamed_eq]
  exact hone l.index (hone l.item h)

end Loop

namespace Placeholder.Signed

variable {loops : Nat} {cs : List Char} {signs : List Sign}

/-- A reading for a loop takes a backslash from before each sign, and the loop with it. -/
theorem renameAll (l : Loop) (number : Nat) (h : Signed true (loops + 1) cs signs) :
    Signed true loops (l.renameAll number (pieces delimiters cs)) signs := by
  induction h with
  | bare hb =>
    rw [pieces_text hb.1, Loop.renameAll, Loop.renameAll, List.append_nil]
    exact .bare hb
  | @literal before after slashes signs hb he hs _ ih =>
    obtain ⟨slashes, rfl⟩ := Nat.exists_eq_succ_of_ne_zero (Nat.ne_zero_of_lt hs)
    rw [pieces_sign_succ hb.1, Loop.renameAll, List.append_assoc]
    exact .literal hb he (Nat.lt_of_succ_lt_succ hs) ih
  | @placeholder before content after slashes signs hb he hs hc hp h ih =>
    cases slashes with
    | zero =>
      rw [pieces_sign_zero hb.1 he hc, Loop.renameAll, Loop.renameAll]
      have hrenamed := placeholder hb he (Nat.zero_le loops) (l.not_mem_renamed number hc)
        (fun hne => absurd rfl hne) ih
      simpa [sign, delimiters] using hrenamed
    | succ slashes =>
      -- what was to be the content is read as text until the backslashes are gone
      have hcontent : Bare true (content ++ ['\x7d']) :=
        (hp (Nat.succ_ne_zero slashes)).append (by decide) (hp (Nat.succ_ne_zero slashes)).endsOpen
      obtain ⟨s, ps, hpieces, hbehind⟩ := h.pieces_append hcontent
      rw [List.append_cons content, pieces_sign_succ hb.1, Loop.renameAll, hbehind, Loop.renameAll]
      rw [hpieces, Loop.renameAll] at ih
      have hread := placeholder hb he (Nat.le_of_succ_le_succ hs) hc
        (fun _ => hp (Nat.succ_ne_zero slashes)) ih
      simpa using hread

theorem roundText {text : String} (l : Loop) (number : Nat)
    (h : Signed true (loops + 1) text.toList signs) :
    Signed true loops (l.roundText number text).toList signs := by
  rw [Loop.roundText, String.toList_ofList]
  exact h.trimmed.renameAll l number

end Placeholder.Signed

/-! ## Trimmed parts -/

namespace TrimRule

/-- Whether nothing is dropped that stands in signs, and none are written. -/
def isHarmless (inner : Bool) (r : TrimRule) : Bool :=
  (r.dropStart ++ r.dropEnd).all (fun s => decide (Ordinary s.toList)) &&
    (r.before.toList ++ r.after.toList).all fun s => decide (Bare inner s.toList)

theorem toLower_cases (c : Char) :
    c.toLower = c ∨ 97 ≤ c.toLower.toNat ∧ c.toLower.toNat ≤ 122 := by
  unfold Char.toLower
  split
  · rename_i h
    right
    simp only [ge_iff_le, UInt32.le_iff_toNat_le] at h
    simp only [Char.toNat, UInt32.toNat_add]
    simp at h ⊢
    omega
  · exact .inl rfl

/-- A special character is no letter, and the same in any case. -/
theorem isSpecial_of_toLower {c d : Char} (h : c.toLower = d.toLower) (hd : isSpecial d = true) :
    isSpecial c = true := by
  have hlower : isSpecial d.toLower = true := by
    simp only [isSpecial, Bool.or_eq_true, beq_iff_eq] at hd
    rcases hd with ((rfl | rfl) | rfl) | rfl <;> decide
  rw [← h] at hlower
  rcases toLower_cases c with hc | hc
  · rwa [hc] at hlower
  · exfalso
    simp only [isSpecial, Bool.or_eq_true, beq_iff_eq] at hlower
    rcases hlower with ((hl | hl) | hl) | hl <;> rw [hl] at hc <;> revert hc <;> decide

theorem exists_dropStart? {piece cs rest : List Char} (hp : Ordinary piece)
    (h : dropStart? piece cs = some rest) :
    ∃ front, cs = front ++ rest ∧ front.length = piece.length ∧ Ordinary front := by
  induction piece generalizing cs with
  | nil =>
    cases h
    exact ⟨[], rfl, rfl, by simp [Ordinary]⟩
  | cons p ps ih =>
    cases cs with
    | nil => cases h
    | cons c cs =>
      rw [dropStart?] at h
      split at h
      · rename_i hlower
        obtain ⟨front, rfl, hlength, hfront⟩ :=
          ih (fun c hc => hp c (List.mem_cons_of_mem p hc)) h
        refine ⟨c :: front, rfl, by simp [hlength], fun d hd => ?_⟩
        rcases List.mem_cons.1 hd with rfl | hd
        · cases hspecial : isSpecial d with
          | false => rfl
          | true =>
            have hp := hp p List.mem_cons_self
            rw [isSpecial_of_toLower hlower hspecial] at hp
            cases hp
        · exact hfront d hd
      · cases h

theorem exists_dropEnd? {piece cs rest : List Char} (hp : Ordinary piece)
    (h : dropEnd? piece cs = some rest) :
    ∃ back, cs = rest ++ back ∧ back.length = piece.length ∧ Ordinary back := by
  rw [dropEnd?] at h
  split at h
  · cases h
  · obtain ⟨front, hf, rfl⟩ := Option.map_eq_some_iff.1 h
    have hreverse : Ordinary piece.reverse := fun c hc => hp c (List.mem_reverse.1 hc)
    obtain ⟨back, hcs, hlength, hback⟩ := exists_dropStart? hreverse hf
    refine ⟨back.reverse, ?_, by simpa using hlength, fun c hc => hback c (List.mem_reverse.1 hc)⟩
    rw [← List.reverse_append, ← hcs, List.reverse_reverse]

variable {inner : Bool} {loops : Nat} {cs : List Char} {signs : List Sign} {pieces : List String}

theorem signed_withoutStart (hp : ∀ p ∈ pieces, Ordinary p.toList)
    (h : Signed inner loops cs signs) : Signed inner loops (withoutStart pieces cs) signs := by
  unfold withoutStart
  split
  · rename_i rest hfound
    obtain ⟨p, hmem, hdrop⟩ := List.exists_of_findSome?_eq_some hfound
    obtain ⟨front, rfl, -, hfront⟩ := exists_dropStart? (hp p hmem) hdrop
    exact (h.of_append_left hfront).trimLeft
  · exact h

/-- A piece that matches with the blanks around it drops no more than without them. -/
theorem exists_withoutEnd {p : List Char} (hp : Ordinary p)
    (h : (dropEnd? p cs).isSome = true ∨ (dropEnd? (trimmed p) cs).isSome = true) :
    ∃ back, cs = cs.take (cs.length - (trimmed p).length) ++ back ∧ Ordinary back := by
  obtain ⟨front, hfront, -⟩ := Placeholder.exists_trimLeft p
  obtain ⟨back, hback, -⟩ := Placeholder.exists_trimRight (trimLeft p)
  have hsplit : p = front ++ (trimmed p ++ back) := hfront.trans (congrArg _ hback)
  have htrimmed : Ordinary (trimmed p) := by
    rw [hsplit, Placeholder.ordinary_append, Placeholder.ordinary_append] at hp
    exact hp.2.1
  have hlength : (trimmed p).length ≤ p.length := by
    have hsum := congrArg List.length hsplit
    rw [List.length_append, List.length_append] at hsum
    omega
  have hend : ∀ q : List Char, Ordinary q → (trimmed p).length ≤ q.length →
      (dropEnd? q cs).isSome = true →
      ∃ back, cs = cs.take (cs.length - (trimmed p).length) ++ back ∧ Ordinary back := by
    intro q hq hle hsome
    obtain ⟨rest, hdrop⟩ := Option.isSome_iff_exists.1 hsome
    obtain ⟨back, rfl, hlength, hback⟩ := exists_dropEnd? hq hdrop
    have hge : rest.length ≤ (rest ++ back).length - (trimmed p).length := by
      rw [List.length_append]
      omega
    refine ⟨_, (List.take_append_drop _ _).symm, fun c hc => hback c ?_⟩
    rw [List.drop_append, List.drop_of_length_le hge, List.nil_append] at hc
    exact List.mem_of_mem_drop hc
  rcases h with h | h
  · exact hend p hp hlength h
  · exact hend _ htrimmed (Nat.le_refl _) h

theorem signed_withoutEnd (hp : ∀ p ∈ pieces, Ordinary p.toList)
    (h : Signed inner loops cs signs) : Signed inner loops (withoutEnd pieces cs) signs := by
  unfold withoutEnd
  dsimp only
  split
  · rename_i p hfound
    have hmatch := List.find?_some hfound
    rw [Bool.or_eq_true] at hmatch
    obtain ⟨back, hcs, hback⟩ :=
      exists_withoutEnd (hp p (List.mem_of_find?_eq_some hfound)) hmatch
    rw [hcs] at h
    exact (h.of_append_right hback).trimRight
  · exact h

/-- A part that is trimmed keeps its signs; without any text it has none. -/
theorem signed_apply {r : TrimRule} (hr : r.isHarmless inner = true) {body : String}
    (h : Signed inner loops body.toList signs) :
    match r.apply body with
    | some s => Signed inner loops s.toList signs
    | none => signs = [] := by
  simp only [isHarmless, Bool.and_eq_true, List.all_eq_true, decide_eq_true_eq] at hr
  obtain ⟨hdrops, hframes⟩ := hr
  have hbody := h.trimmed
  rw [apply]
  split
  · rename_i s hs
    split at hs
    · cases hs
    · have hcontent := signed_withoutEnd (fun p hmem => hdrops p (List.mem_append_right _ hmem))
        (signed_withoutStart (fun p hmem => hdrops p (List.mem_append_left _ hmem)) hbody)
      have hbefore : ∀ {cs : List Char}, Signed inner loops cs signs → Signed inner loops
          (((r.before.map (· ++ " ")).getD "").toList ++ cs) signs := by
        intro cs hcs
        cases hb : r.before with
        | none => exact hcs
        | some b => simpa using hcs.behind_blank (hframes b (by simp [hb]))
      have hafter : ∀ {cs : List Char}, Signed inner loops cs signs → Signed inner loops
          (cs ++ ((r.after.map (" " ++ ·)).getD "").toList) signs := by
        intro cs hcs
        cases ha : r.after with
        | none => simpa using hcs
        | some a => simpa using hcs.before_blank (hframes a (by simp [ha]))
      cases hs
      rw [String.toList_append, String.toList_append, String.toList_ofList]
      exact hafter (hbefore hcontent)
  · rename_i hnone
    split at hnone
    · rename_i hempty
      rw [List.isEmpty_iff.1 hempty] at hbody
      exact hbody.eq_nil
    · cases hnone

end TrimRule

/-! ## The texts of a template -/

namespace Loop

/-- Whether no signs begin in the own texts of a loop, nor together with the texts of its rounds. -/
def isHarmless (inner : Bool) (l : Loop) : Bool :=
  [l.opening, l.separator].all (fun s => decide (Bare inner s.toList) && !endsOpen s.toList) &&
    decide (Bare inner l.closing.toList)

theorem isHarmless_iff {inner : Bool} {l : Loop} : l.isHarmless inner = true ↔
    (Bare inner l.opening.toList ∧ endsOpen l.opening.toList = false) ∧
      (Bare inner l.separator.toList ∧ endsOpen l.separator.toList = false) ∧
        Bare inner l.closing.toList := by
  simp [isHarmless, and_assoc]

end Loop

/-- The texts that the rounds of a loop come to. -/
def Walked.roundTexts (l : Loop) (body : Scope → Nat → Except Template.Error (Walked String))
    (texts : Scope → Nat → List (Nat × String)) : List Item → Scope → Nat → List (Nat × String)
  | [], _, _ => []
  | i :: rest, scope, number =>
    (texts (scope.enter l i) (number + 1)).map (fun t => (t.1 + 1, t.2)) ++
      match Walked.round l body i scope number with
      | .ok p => roundTexts l body texts rest (p.bound ++ scope) p.number
      | .error _ => []

namespace Template

mutual

/-- Whether the trimmed parts and the loops of a template leave the signs of its texts as they
are. -/
def isHarmless : Bool → Template → Bool
  | _, .text _ => true
  | inner, .block parts => allHarmless inner parts
  | inner, .test _ body => body.isHarmless inner
  | inner, .choose branches none => eachHarmless inner branches
  | inner, .choose branches (some d) => eachHarmless inner branches && d.isHarmless inner
  | inner, .trim rule body => rule.isHarmless inner && body.isHarmless inner
  | inner, .loop l body => l.isHarmless inner && body.isHarmless true
  | _, .bind _ _ => true

def allHarmless : Bool → List Template → Bool
  | _, [] => true
  | inner, t :: rest => t.isHarmless inner && allHarmless inner rest

def eachHarmless : Bool → List (String × Template) → Bool
  | _, [] => true
  | inner, (_, t) :: rest => t.isHarmless inner && eachHarmless inner rest

end

mutual

/-- The texts that the template comes to in a scope, as they are composed, each with the number of
loops around it. -/
def texts (ev : Evaluator) (start : Bindings) : Template → Scope → Nat → List (Nat × String)
  | .text s, scope, number =>
    match walk ev start (.text s) scope number with
    | .ok p => p.uses.map fun u => (0, u.text)
    | .error _ => []
  | .block parts, scope, number => textsAll ev start parts scope number
  | .test condition body, scope, number =>
    match ev.test (scope.bindings start) condition with
    | .ok true => texts ev start body scope number
    | _ => []
  | .choose branches none, scope, number => (textsFirst ev start branches scope number).getD []
  | .choose branches (some d), scope, number =>
    (textsFirst ev start branches scope number).getD (texts ev start d scope number)
  | .trim _ body, scope, number => texts ev start body scope number
  | .loop l body, scope, number =>
    match ev.items (scope.bindings start) l.collection with
    | .ok items => Walked.roundTexts l (fun scope number => walk ev start body scope number)
        (fun scope number => texts ev start body scope number) items scope number
    | .error _ => []
  | .bind _ _, _, _ => []

/-- The texts of templates one after the other. -/
def textsAll (ev : Evaluator) (start : Bindings) :
    List Template → Scope → Nat → List (Nat × String)
  | [], _, _ => []
  | t :: rest, scope, number =>
    texts ev start t scope number ++
      match walk ev start t scope number with
      | .ok p => textsAll ev start rest (p.bound ++ scope) p.number
      | .error _ => []

/-- The texts of the first branch whose condition holds, if there is one. -/
def textsFirst (ev : Evaluator) (start : Bindings) :
    List (String × Template) → Scope → Nat → Option (List (Nat × String))
  | [], _, _ => none
  | (condition, body) :: rest, scope, number =>
    match ev.test (scope.bindings start) condition with
    | .ok true => some (texts ev start body scope number)
    | .ok false => textsFirst ev start rest scope number
    | .error _ => none

end

section

variable (ev : Evaluator) {start : Bindings} {s : String}

/-- A text without substitutions is composed as it is. -/
theorem walk_plain (hs : hasSubstitution s = false) (scope : Scope) (number : Nat) :
    walk ev start (.text s) scope number =
      .ok ⟨s ++ " ", [], [], number, [⟨s, scope, [], []⟩]⟩ := by
  rw [walk, if_neg (by simp [hs])]
  rfl

theorem texts_plain (hs : hasSubstitution s = false) (scope : Scope) (number : Nat) :
    texts ev start (.text s) scope number = [(0, s)] := by
  rw [texts, walk_plain ev hs]
  rfl

end

end Template

/-- Texts with these signs, where so many loops are around all of them. -/
inductive Reads (loops : Nat) : List (Nat × String) → List Sign → Prop where
  | nil : Reads loops [] []
  | cons {more : Nat} {t : String} {texts : List (Nat × String)} {signs signs' : List Sign}
      (h : Signed (decide (0 < loops + more)) (loops + more) t.toList signs)
      (hr : Reads loops texts signs') : Reads loops ((more, t) :: texts) (signs ++ signs')

namespace Reads

variable {loops : Nat} {texts texts' : List (Nat × String)} {signs : List Sign}

theorem single {more : Nat} {t : String}
    (h : Signed (decide (0 < loops + more)) (loops + more) t.toList signs) :
    Reads loops [(more, t)] signs := by
  rw [← List.append_nil signs]
  exact .cons h .nil

theorem split (h : Reads loops (texts ++ texts') signs) :
    ∃ front back, signs = front ++ back ∧ Reads loops texts front ∧ Reads loops texts' back := by
  induction texts generalizing signs with
  | nil => exact ⟨[], signs, rfl, .nil, h⟩
  | cons t texts ih =>
    cases h with
    | @cons more s _ signs signs' h hr =>
      obtain ⟨front, back, rfl, hfront, hback⟩ := ih hr
      exact ⟨signs ++ front, back, (List.append_assoc ..).symm, .cons h hfront, hback⟩

/-- The texts of a loop, seen from within. -/
theorem enter (h : Reads loops (texts.map fun t => (t.1 + 1, t.2)) signs) :
    Reads (loops + 1) texts signs := by
  induction texts generalizing signs with
  | nil =>
    cases h
    exact .nil
  | cons t texts ih =>
    cases h with
    | cons h hr =>
      rw [show loops + (t.1 + 1) = loops + 1 + t.1 by omega] at h
      exact .cons h (ih hr)

theorem eq_nil (h : Reads loops [] signs) : signs = [] := by
  cases h
  rfl

end Reads

/-- A text that is composed under so many loops has these signs, and nothing runs into it from
behind. -/
structure Written (loops : Nat) (s : String) (signs : List Sign) : Prop where
  signed : Signed (decide (0 < loops)) loops s.toList signs
  closed : endsOpen s.toList = false

namespace Written

variable {loops : Nat} {s t : String} {signs signs' : List Sign}

theorem empty (loops : Nat) : Written loops "" [] := ⟨.bare .nil, rfl⟩

theorem of_inner (h : Signed true loops s.toList signs) : Written loops s signs :=
  ⟨h.weaken, h.endsOpen⟩

theorem append (h : Written loops s signs) (h' : Written loops t signs') :
    Written loops (s ++ t) (signs ++ signs') := by
  refine ⟨?_, ?_⟩
  · rw [String.toList_append]
    exact h.signed.append h'.signed h.closed
  · rw [String.toList_append]
    by_cases hne : t.toList = []
    · rw [hne, List.append_nil]
      exact h.closed
    · rw [Placeholder.endsOpen_append hne]
      exact h'.closed

/-- A text of a template, with the blank behind it. -/
theorem blank (h : Signed (decide (0 < loops)) loops s.toList signs) :
    Written loops (s ++ " ") signs := by
  have htext : (s ++ " ").toList = s.toList ++ [' '] := String.toList_append
  refine ⟨?_, ?_⟩
  · rw [htext]
    exact h.append_ordinary (by decide)
  · rw [htext, Placeholder.endsOpen_append (by simp)]
    rfl

/-- One more round in front of others; an empty one is left out. -/
theorem round {l : Loop} (hl : l.isHarmless (decide (0 < loops)) = true) {texts : List String}
    (ht : Signed true loops t.toList signs)
    (h : Written loops (l.separator.intercalate texts) signs') :
    Written loops (l.separator.intercalate (if t.isEmpty then texts else t :: texts))
      (signs ++ signs') := by
  obtain ⟨-, ⟨hbare, hopen⟩, -⟩ := Loop.isHarmless_iff.1 hl
  split
  · rename_i hempty
    rw [String.isEmpty_iff.1 hempty] at ht
    rw [ht.eq_nil]
    exact h
  · by_cases hnil : texts = []
    · subst hnil
      have hsigns : signs' = [] := h.signed.eq_nil
      rw [hsigns, List.append_nil, String.intercalate_singleton]
      exact .of_inner ht
    · have hseparated : l.separator.intercalate (t :: texts) =
          t ++ (l.separator ++ l.separator.intercalate texts) := by
        refine String.toList_injective ?_
        rw [String.toList_append, String.toList_append, String.toList_intercalate,
          String.toList_intercalate, List.map_cons,
          List.intercalate_cons_of_ne_nil (by simpa using hnil), List.append_assoc]
      have hseparator : Written loops l.separator [] := ⟨.bare hbare, hopen⟩
      rw [hseparated]
      exact (of_inner ht).append (hseparator.append h)

/-- The rounds between the opening and the closing of their loop. -/
theorem joined {l : Loop} (hl : l.isHarmless (decide (0 < loops)) = true) {texts : List String}
    (h : Written loops (l.separator.intercalate texts) signs) :
    Written loops (l.joined texts ++ " ") signs := by
  obtain ⟨⟨hbare, hopen⟩, -, hclosing⟩ := Loop.isHarmless_iff.1 hl
  have hopening : Written loops l.opening [] := ⟨.bare hbare, hopen⟩
  have hrounds := hopening.append h
  refine blank ?_
  rw [Loop.joined, String.toList_append, ← List.append_nil signs]
  exact hrounds.signed.append (.bare hclosing) hrounds.closed

end Written

section

variable {l : Loop} {loops : Nat} {walk : Scope → Nat → Except Template.Error (Walked String)}
  {texts : Scope → Nat → List (Nat × String)}

/-- The rounds of a loop, by induction on the items. -/
theorem Walked.rounds_written (hl : l.isHarmless (decide (0 < loops)) = true)
    (hbody : ∀ {scope number p signs}, walk scope number = .ok p →
      Reads (loops + 1) (texts scope number) signs → Written (loops + 1) p.result signs)
    (items : List Item) : ∀ {scope number p signs},
      Walked.rounds l walk items scope number = .ok p →
      Reads loops (Walked.roundTexts l walk texts items scope number) signs →
      Written loops (l.separator.intercalate p.result) signs := by
  induction items with
  | nil =>
    intro scope number p signs h hr
    cases h
    rw [hr.eq_nil]
    exact .empty loops
  | cons i items ih =>
    intro scope number p signs h hr
    obtain ⟨q, hround, h⟩ := bind_eq_ok h
    obtain ⟨rest, hrest, h⟩ := bind_eq_ok h
    cases h
    rw [Walked.roundTexts, hround] at hr
    obtain ⟨front, back, rfl, hfront, hback⟩ := hr.split
    obtain ⟨body, hwalk, hround⟩ := bind_eq_ok hround
    cases hround
    have hinner : decide (0 < loops + 1) = true := by simp
    have hwritten := (hbody hwalk hfront.enter).signed
    rw [hinner] at hwritten
    exact Written.round hl (hwritten.roundText l number) (ih hrest hback)

end

section

variable (ev : Evaluator) {start : Bindings} {loops : Nat}

theorem eq_ok_of_mapError {ε ε' α : Type} {x : Except ε α} {f : ε → ε'} {a : α}
    (h : x.mapError f = .ok a) : x = .ok a := by
  cases x with
  | error e => cases h
  | ok b =>
    cases h
    rfl

theorem Template.text_written {s : String} {scope : Scope} {number : Nat} {p : Walked String}
    {signs : List Sign} (h : walk ev start (.text s) scope number = .ok p)
    (hr : Reads loops (texts ev start (.text s) scope number) signs) :
    Written loops p.result signs := by
  have hone : ∃ u, p.uses = [u] ∧ p.result = u.text ++ " " := by
    rw [walk] at h
    split at h
    · obtain ⟨t, -, h⟩ := bind_eq_ok h
      cases h
      exact ⟨_, rfl, rfl⟩
    · cases h
      exact ⟨_, rfl, rfl⟩
  obtain ⟨u, huses, hresult⟩ := hone
  rw [texts, h] at hr
  dsimp only at hr
  rw [huses] at hr
  cases hr with
  | cons h hr =>
    rw [hr.eq_nil, List.append_nil, hresult]
    exact .blank h

mutual

/-- What a template comes to has the signs of its texts. -/
theorem Template.walk_written : ∀ (t : Template) {loops : Nat} {scope : Scope} {number : Nat}
    {p : Walked String} {signs : List Sign}, t.isHarmless (decide (0 < loops)) = true →
    walk ev start t scope number = .ok p → Reads loops (texts ev start t scope number) signs →
    Written loops p.result signs
  | .text s, loops, scope, number, p, signs, _, h, hr => text_written ev h hr
  | .block parts, loops, scope, number, p, signs, hh, h, hr => by
    rw [isHarmless] at hh
    rw [walk] at h
    rw [texts] at hr
    exact walkAll_written parts hh h hr
  | .test condition body, loops, scope, number, p, signs, hh, h, hr => by
    rw [isHarmless] at hh
    rw [walk] at h
    rw [texts] at hr
    obtain ⟨holds, htest, h⟩ := bind_eq_ok h
    rw [eq_ok_of_mapError htest] at hr
    cases holds with
    | false =>
      cases h
      rw [hr.eq_nil]
      exact .empty loops
    | true => exact walk_written body hh h hr
  | .choose branches none, loops, scope, number, p, signs, hh, h, hr => by
    rw [isHarmless] at hh
    rw [walk] at h
    rw [texts] at hr
    obtain ⟨found, hfirst, h⟩ := bind_eq_ok h
    cases h
    have hbranch := walkFirst_written branches hh hfirst
    cases found with
    | none =>
      rw [hbranch] at hr
      rw [hr.eq_nil]
      exact .empty loops
    | some p =>
      obtain ⟨ts, hts, hwritten⟩ := hbranch
      rw [hts] at hr
      exact hwritten hr
  | .choose branches (some d), loops, scope, number, p, signs, hh, h, hr => by
    rw [isHarmless, Bool.and_eq_true] at hh
    rw [walk] at h
    rw [texts] at hr
    obtain ⟨found, hfirst, h⟩ := bind_eq_ok h
    have hbranch := walkFirst_written branches hh.1 hfirst
    cases found with
    | none =>
      rw [hbranch] at hr
      exact walk_written d hh.2 h hr
    | some q =>
      cases h
      obtain ⟨ts, hts, hwritten⟩ := hbranch
      rw [hts] at hr
      exact hwritten hr
  | .trim rule body, loops, scope, number, p, signs, hh, h, hr => by
    rw [isHarmless, Bool.and_eq_true] at hh
    rw [walk] at h
    rw [texts] at hr
    obtain ⟨q, hbody, h⟩ := bind_eq_ok h
    cases h
    have hpart := TrimRule.signed_apply hh.1 (walk_written body hh.2 hbody hr).signed
    rw [Walked.map]
    dsimp only
    cases happly : rule.apply q.result with
    | none =>
      rw [happly] at hpart
      rw [show signs = [] from hpart]
      exact .empty loops
    | some s =>
      rw [happly] at hpart
      exact .blank hpart
  | .loop l body, loops, scope, number, p, signs, hh, h, hr => by
    rw [isHarmless, Bool.and_eq_true] at hh
    rw [walk] at h
    rw [texts] at hr
    obtain ⟨items, hitems, h⟩ := bind_eq_ok h
    rw [eq_ok_of_mapError hitems] at hr
    cases items with
    | nil =>
      cases h
      rw [hr.eq_nil]
      exact .empty loops
    | cons i items =>
      obtain ⟨q, hrounds, h⟩ := bind_eq_ok h
      cases h
      have hinner : body.isHarmless (decide (0 < loops + 1)) = true := by simpa using hh.2
      exact (Walked.rounds_written hh.1 (fun h hr => walk_written body hinner h hr) _ hrounds
        hr).joined hh.1
  | .bind name source, loops, scope, number, p, signs, _, h, hr => by
    rw [walk] at h
    rw [texts] at hr
    obtain ⟨v, -, h⟩ := bind_eq_ok h
    cases h
    rw [hr.eq_nil]
    exact .empty loops

theorem Template.walkAll_written : ∀ (parts : List Template) {loops : Nat} {scope : Scope}
    {number : Nat} {p : Walked String} {signs : List Sign},
    allHarmless (decide (0 < loops)) parts = true →
    walkAll ev start parts scope number = .ok p →
    Reads loops (textsAll ev start parts scope number) signs → Written loops p.result signs
  | [], loops, scope, number, p, signs, _, h, hr => by
    rw [walkAll] at h
    rw [textsAll] at hr
    cases h
    rw [hr.eq_nil]
    exact .empty loops
  | t :: rest, loops, scope, number, p, signs, hh, h, hr => by
    rw [allHarmless, Bool.and_eq_true] at hh
    rw [walkAll] at h
    rw [textsAll] at hr
    obtain ⟨q, hfirst, h⟩ := bind_eq_ok h
    obtain ⟨q', hrest, h⟩ := bind_eq_ok h
    cases h
    rw [hfirst] at hr
    obtain ⟨front, back, rfl, hfront, hback⟩ := hr.split
    exact (walk_written t hh.1 hfirst hfront).append (walkAll_written rest hh.2 hrest hback)

theorem Template.walkFirst_written : ∀ (branches : List (String × Template)) {loops : Nat}
    {scope : Scope} {number : Nat} {o : Option (Walked String)},
    eachHarmless (decide (0 < loops)) branches = true →
    walkFirst ev start branches scope number = .ok o →
    match o with
    | none => textsFirst ev start branches scope number = none
    | some p => ∃ ts, textsFirst ev start branches scope number = some ts ∧
        ∀ {signs : List Sign}, Reads loops ts signs → Written loops p.result signs
  | [], loops, scope, number, o, _, h => by
    rw [walkFirst] at h
    cases h
    rw [textsFirst]
  | (condition, body) :: rest, loops, scope, number, o, hh, h => by
    rw [eachHarmless, Bool.and_eq_true] at hh
    rw [walkFirst] at h
    rw [textsFirst]
    obtain ⟨holds, htest, h⟩ := bind_eq_ok h
    rw [eq_ok_of_mapError htest]
    cases holds with
    | false => exact walkFirst_written rest hh.2 h
    | true =>
      obtain ⟨q, hbody, h⟩ := bind_eq_ok h
      cases h
      exact ⟨_, rfl, fun hr => walk_written body hh.1 hbody hr⟩

end

end

end MappedSql
