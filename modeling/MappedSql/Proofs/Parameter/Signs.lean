import Mathlib.Data.List.Basic
import MappedSql.Proofs.Parameter.Contents

/- Opening signs and the backslashes before them.

   A composed text is read for placeholders once for each loop around it and once more in the
   end, and every reading takes a backslash from before an opening sign. So a sign stays text
   exactly if more backslashes stand before it than loops are around it. `Signed` tells the
   signs of a text under some loops, and what becomes of each. The signs stay when other
   characters are cut off at the ends (`Signed.of_append_left`, `Signed.of_append_right`), and
   two texts side by side have the signs of both (`Signed.append`). In the end the SQL has the
   signs that stay text as they are and a question mark for each of the others
   (`Signed.mark`). -/
namespace MappedSql.Placeholder

open Text (pieces isBlank trimLeft trimRight)

/-- An opening sign behind this many backslashes. -/
def sign (slashes : Nat) : List Char := List.replicate slashes '\\' ++ ['#', '\x7b']

/-- What becomes of an opening sign. -/
inductive Sign where
  | literal
  | placeholder
  deriving DecidableEq, Repr

/-- A text without opening signs. Within loops, where texts are pasted together, it also has nothing
that could make or escape a sign together with what is pasted behind it. -/
def Bare (inner : Bool) (cs : List Char) : Prop :=
  Clean cs ∧ (inner = true → '#' ∉ cs ∧ '\\' ∉ cs)

instance (inner : Bool) (cs : List Char) : Decidable (Bare inner cs) :=
  inferInstanceAs (Decidable (_ ∧ _))

/-- A text with these opening signs under this many loops: a sign behind more backslashes stays
text, any other begins a placeholder. -/
inductive Signed (inner : Bool) (loops : Nat) : List Char → List Sign → Prop where
  | bare {cs : List Char} (h : Bare inner cs) : Signed inner loops cs []
  | literal {before after : List Char} {slashes : Nat} {signs : List Sign}
      (hb : Bare inner before) (he : before.getLast? ≠ some '\\') (hs : loops < slashes)
      (h : Signed inner loops after signs) :
      Signed inner loops (before ++ (sign slashes ++ after)) (.literal :: signs)
  | placeholder {before content after : List Char} {slashes : Nat} {signs : List Sign}
      (hb : Bare inner before) (he : before.getLast? ≠ some '\\') (hs : slashes ≤ loops)
      (hc : '\x7d' ∉ content) (hp : slashes ≠ 0 → Bare true content)
      (h : Signed inner loops after signs) :
      Signed inner loops (before ++ (sign slashes ++ (content ++ '\x7d' :: after)))
        (.placeholder :: signs)

/-! ## Other characters -/

/-- Whether a character stands in signs: in an opening one, in a closing one, or before one. -/
def isSpecial (c : Char) : Bool := c == '\\' || c == '#' || c == '\x7b' || c == '\x7d'

/-- A text without such characters. -/
def Ordinary (cs : List Char) : Prop := ∀ c ∈ cs, isSpecial c = false

instance (cs : List Char) : Decidable (Ordinary cs) := List.decidableBAll _ cs

theorem ordinary_append {cs ds : List Char} : Ordinary (cs ++ ds) ↔ Ordinary cs ∧ Ordinary ds := by
  simp [Ordinary, or_imp, forall_and]

theorem ordinary_of_blank {cs : List Char} (h : ∀ c ∈ cs, isBlank c = true) : Ordinary cs := by
  intro c hc
  have hblank := h c hc
  by_contra hspecial
  simp only [isSpecial, Bool.not_eq_false, Bool.or_eq_true, beq_iff_eq] at hspecial
  rcases hspecial with ((rfl | rfl) | rfl) | rfl <;> revert hblank <;> decide

theorem exists_trimLeft (cs : List Char) : ∃ front, cs = front ++ trimLeft cs ∧ Ordinary front :=
  ⟨cs.takeWhile isBlank, List.takeWhile_append_dropWhile.symm,
    ordinary_of_blank fun c hc => List.all_eq_true.1 List.all_takeWhile c hc⟩

theorem exists_trimRight (cs : List Char) : ∃ back, cs = trimRight cs ++ back ∧ Ordinary back := by
  refine ⟨(cs.reverse.takeWhile isBlank).reverse, ?_, ordinary_of_blank fun c hc => ?_⟩
  · rw [trimRight, ← List.reverse_append, List.takeWhile_append_dropWhile, List.reverse_reverse]
  · exact List.all_eq_true.1 List.all_takeWhile c (List.mem_reverse.1 hc)

theorem clean_of_ordinary {cs : List Char} (h : Ordinary cs) : Clean cs := by
  induction cs with
  | nil => exact clean_nil
  | cons c cs ih =>
    refine clean_cons.2 ⟨?_, ih fun d hd => h d (List.mem_cons_of_mem c hd)⟩
    rintro ⟨rfl, -⟩
    cases h '#' List.mem_cons_self

/-! ## Texts without signs -/

namespace Bare

variable {inner : Bool} {cs ds : List Char}

theorem nil : Bare inner [] := ⟨clean_nil, fun _ => by simp⟩

theorem of_append (h : Bare inner (cs ++ ds)) : Bare inner cs ∧ Bare inner ds := by
  obtain ⟨hc, hd, -⟩ := clean_append.1 h.1
  have htidy := fun hi => h.2 hi
  simp only [List.mem_append, not_or] at htidy
  exact ⟨⟨hc, fun hi => ⟨(htidy hi).1.1, (htidy hi).2.1⟩⟩,
    ⟨hd, fun hi => ⟨(htidy hi).1.2, (htidy hi).2.2⟩⟩⟩

theorem append (h : Bare inner cs) (h' : Bare inner ds) (ho : endsOpen cs = false) :
    Bare inner (cs ++ ds) := by
  refine ⟨clean_append.2 ⟨h.1, h'.1, fun hseam => ?_⟩, fun hi => ?_⟩
  · simp [endsOpen, hseam.1] at ho
  · simp only [List.mem_append, not_or]
    exact ⟨⟨(h.2 hi).1, (h'.2 hi).1⟩, (h.2 hi).2, (h'.2 hi).2⟩

theorem weaken (h : Bare true cs) : Bare inner cs := ⟨h.1, fun _ => h.2 rfl⟩

theorem endsOpen (h : Bare true cs) : Placeholder.endsOpen cs = false := by
  obtain ⟨hhash, hslash⟩ := h.2 rfl
  rw [Placeholder.endsOpen, Bool.or_eq_false_iff]
  constructor
  · exact beq_eq_false_iff_ne.2 fun hl => hhash (List.mem_of_getLast? hl)
  · exact beq_eq_false_iff_ne.2 fun hl => hslash (List.mem_of_getLast? hl)

end Bare

/-- A sign begins with a special character. -/
theorem exists_sign (slashes : Nat) : ∃ c rest, sign slashes = c :: rest ∧ isSpecial c = true := by
  cases slashes with
  | zero => exact ⟨'#', ['\x7b'], rfl, rfl⟩
  | succ slashes => exact ⟨'\\', sign slashes, rfl, rfl⟩

/-! ## Cutting texts -/

section

variable {a cs ds u v : List Char} {c : Char}

/-- A front without special characters ends before the first of them. -/
theorem front_before (h : u ++ cs = a ++ c :: ds) (hc : isSpecial c = true) (hu : Ordinary u) :
    ∃ x, a = u ++ x ∧ cs = x ++ c :: ds := by
  rcases List.append_eq_append_iff.1 h with ⟨x, rfl, hcs⟩ | ⟨y, rfl, hcs⟩
  · exact ⟨x, rfl, hcs⟩
  · cases y with
    | nil => exact ⟨[], by simp, by simpa using hcs.symm⟩
    | cons d y =>
      obtain ⟨rfl, -⟩ := List.cons.inj hcs
      have hd : isSpecial c = false := hu c (by simp)
      rw [hc] at hd
      cases hd

/-- An end without special characters begins behind the last of them. -/
theorem end_behind (h : cs ++ v = a ++ c :: ds) (hc : isSpecial c = true) (hv : Ordinary v) :
    ∃ x, cs = a ++ c :: x ∧ ds = x ++ v := by
  have hnot : c ∉ v := fun hmem => by
    have hd := hv c hmem
    rw [hc] at hd
    cases hd
  rcases List.append_eq_append_iff.1 h with ⟨x, rfl, rfl⟩ | ⟨y, rfl, hds⟩
  · exact absurd (by simp) hnot
  · cases y with
    | nil => exact absurd (by rw [← show c :: ds = v from hds]; simp) hnot
    | cons d y =>
      obtain ⟨rfl, rfl⟩ := List.cons.inj hds
      exact ⟨y, rfl, rfl⟩

end

namespace Signed

variable {inner : Bool} {loops : Nat} {cs ds u v : List Char} {signs signs' : List Sign}

/-- Without a front of other characters a text has the same signs. -/
theorem of_append_left (h : Signed inner loops (u ++ cs) signs) (hu : Ordinary u) :
    Signed inner loops cs signs := by
  generalize hw : u ++ cs = w at h
  have front : ∀ {before rest : List Char} {slashes : Nat}, Bare inner before →
      before.getLast? ≠ some '\\' → u ++ cs = before ++ (sign slashes ++ rest) →
      ∃ x, Bare inner x ∧ x.getLast? ≠ some '\\' ∧ cs = x ++ (sign slashes ++ rest) := by
    intro before rest slashes hb he heq
    obtain ⟨c, tail, hsign, hc⟩ := exists_sign slashes
    rw [hsign, List.cons_append] at heq ⊢
    obtain ⟨x, rfl, hcs⟩ := front_before heq hc hu
    refine ⟨x, hb.of_append.2, fun hl => he ?_, hcs⟩
    rw [List.getLast?_append, hl]
    rfl
  cases h with
  | bare hb =>
    rw [← hw] at hb
    exact .bare hb.of_append.2
  | literal hb he hs h =>
    obtain ⟨x, hx, hl, rfl⟩ := front hb he hw
    exact .literal hx hl hs h
  | placeholder hb he hs hc hp h =>
    obtain ⟨x, hx, hl, rfl⟩ := front hb he hw
    exact .placeholder hx hl hs hc hp h

/-- Without an end of other characters a text has the same signs. -/
theorem of_append_right (h : Signed inner loops (cs ++ v) signs) (hv : Ordinary v) :
    Signed inner loops cs signs := by
  generalize hw : cs ++ v = w at h
  induction h generalizing cs with
  | bare hb =>
    rw [← hw] at hb
    exact .bare hb.of_append.1
  | @literal before after slashes signs hb he hs _ ih =>
    have heq : cs ++ v = (before ++ (List.replicate slashes '\\' ++ ['#'])) ++ '\x7b' :: after := by
      rw [hw, sign]
      simp
    obtain ⟨x, rfl, rfl⟩ := end_behind heq rfl hv
    simpa [sign] using literal hb he hs (ih rfl)
  | @placeholder before content after slashes signs hb he hs hc hp _ ih =>
    have heq : cs ++ v = (before ++ (sign slashes ++ content)) ++ '\x7d' :: after := by
      rw [hw]
      simp
    obtain ⟨x, rfl, rfl⟩ := end_behind heq rfl hv
    simpa using placeholder hb he hs hc hp (ih rfl)

/-- With an end of other characters a text has the same signs. -/
theorem append_ordinary (h : Signed inner loops cs signs) (hv : Ordinary v) :
    Signed inner loops (cs ++ v) signs := by
  have hclean : Clean v := clean_of_ordinary hv
  induction h with
  | @bare before hb =>
    refine .bare ⟨clean_append.2 ⟨hb.1, hclean, fun hseam => ?_⟩, fun hi => ?_⟩
    · cases hv '\x7b' (List.mem_of_mem_head? hseam.2)
    · simp only [List.mem_append, not_or]
      exact ⟨⟨(hb.2 hi).1, fun hmem => by cases hv '#' hmem⟩,
        (hb.2 hi).2, fun hmem => by cases hv '\\' hmem⟩
  | literal hb he hs _ ih => simpa using literal hb he hs ih
  | placeholder hb he hs hc hp _ ih => simpa using placeholder hb he hs hc hp ih

theorem trimLeft (h : Signed inner loops cs signs) :
    Signed inner loops (Text.trimLeft cs) signs := by
  obtain ⟨front, hfront, ho⟩ := exists_trimLeft cs
  rw [hfront] at h
  exact h.of_append_left ho

theorem trimRight (h : Signed inner loops cs signs) :
    Signed inner loops (Text.trimRight cs) signs := by
  obtain ⟨back, hback, ho⟩ := exists_trimRight cs
  rw [hback] at h
  exact h.of_append_right ho

theorem trimmed (h : Signed inner loops cs signs) : Signed inner loops (Text.trimmed cs) signs :=
  h.trimLeft.trimRight

theorem eq_nil (h : Signed inner loops [] signs) : signs = [] := by
  generalize hw : ([] : List Char) = w at h
  cases h with
  | bare => rfl
  | literal => simp [sign] at hw
  | placeholder => simp [sign] at hw

/-- A text without signs before another. -/
theorem bare_append (h : Bare inner cs) (ho : endsOpen cs = false)
    (h' : Signed inner loops ds signs) : Signed inner loops (cs ++ ds) signs := by
  have hlast : ∀ {before : List Char}, before.getLast? ≠ some '\\' →
      (cs ++ before).getLast? ≠ some '\\' := by
    intro before hb
    rw [List.getLast?_append]
    cases hl : before.getLast? with
    | none =>
      intro hcs
      simp [endsOpen, show cs.getLast? = some '\\' from hcs] at ho
    | some c => rwa [hl] at hb
  cases h' with
  | bare hd => exact .bare (h.append hd ho)
  | literal hb he hs h' =>
    rw [← List.append_assoc]
    exact .literal (h.append hb ho) (hlast he) hs h'
  | placeholder hb he hs hc hp h' =>
    rw [← List.append_assoc]
    exact .placeholder (h.append hb ho) (hlast he) hs hc hp h'

/-- Two texts side by side have the signs of both. -/
theorem append (h : Signed inner loops cs signs) (h' : Signed inner loops ds signs')
    (ho : endsOpen cs = false) : Signed inner loops (cs ++ ds) (signs ++ signs') := by
  have hopen : ∀ {front after : List Char}, endsOpen (front ++ after) = false →
      endsOpen after = false := by
    intro front after ho
    by_cases hne : after = []
    · rw [hne]
      rfl
    · rwa [endsOpen_append hne] at ho
  induction h with
  | bare hb => exact bare_append hb ho h'
  | literal hb he hs _ ih =>
    have hrest := ih (hopen (hopen ho))
    simpa using literal hb he hs hrest
  | @placeholder before content after slashes signs hb he hs hc hp _ ih =>
    have hbehind : endsOpen ((content ++ ['\x7d']) ++ after) = false := by
      simpa using hopen (hopen ho)
    have hrest := ih (hopen hbehind)
    simpa using placeholder hb he hs hc hp hrest

/-- A text without signs in front, with a blank between. -/
theorem behind_blank (h : Signed inner loops cs signs) (hb : Bare inner u) :
    Signed inner loops (u ++ ' ' :: cs) signs := by
  have hfront : Signed inner loops (u ++ [' ']) [] := (Signed.bare hb).append_ordinary (by decide)
  simpa using hfront.append h (by rw [endsOpen_append (by simp)]; rfl)

/-- A text without signs behind, with a blank between. -/
theorem before_blank (h : Signed inner loops cs signs) (hb : Bare inner u) :
    Signed inner loops (cs ++ ' ' :: u) signs := by
  have hfront : Signed inner loops (cs ++ [' ']) signs := h.append_ordinary (by decide)
  simpa using hfront.append (.bare hb) (by rw [endsOpen_append (by simp)]; rfl)

/-- A text of a loop, seen from outside of all loops. -/
theorem weaken (h : Signed true loops cs signs) : Signed inner loops cs signs := by
  induction h with
  | bare hb => exact .bare hb.weaken
  | literal hb he hs _ ih => exact .literal hb.weaken he hs ih
  | placeholder hb he hs hc hp _ ih => exact .placeholder hb.weaken he hs hc hp ih

/-- A text of a loop does not end open. -/
theorem endsOpen (h : Signed true loops cs signs) : Placeholder.endsOpen cs = false := by
  induction h with
  | bare hb => exact hb.endsOpen
  | @literal before after slashes signs _ _ _ _ ih =>
    rw [endsOpen_append (by simp [sign])]
    by_cases hne : after = []
    · rw [hne, List.append_nil, sign, endsOpen_append (by simp)]
      rfl
    · rwa [endsOpen_append hne]
  | @placeholder before content after slashes signs _ _ _ _ _ _ ih =>
    rw [List.append_cons content, ← List.append_assoc, ← List.append_assoc]
    by_cases hne : after = []
    · rw [hne, List.append_nil, endsOpen_append (by simp), endsOpen_append (by simp)]
      rfl
    · rwa [endsOpen_append hne]

end Signed

/-! ## Reading texts -/

theorem clean_slashes {cs : List Char} (h : Clean cs) (slashes : Nat) :
    Clean (cs ++ List.replicate slashes '\\') := by
  have hslashes : Clean (List.replicate slashes '\\') := by
    induction slashes with
    | zero => exact clean_nil
    | succ slashes ih => exact clean_cons.2 ⟨by simp, ih⟩
  refine clean_append.2 ⟨h, hslashes, fun hseam => ?_⟩
  have hmem := List.mem_of_mem_head? hseam.2
  cases (List.mem_replicate.1 hmem).2

theorem pieces_escaped {before : List Char} (hb : Clean before) (rest : List Char) :
    pieces delimiters (before ++ '\\' :: '#' :: '\x7b' :: rest) =
      .literal (before ++ ['#', '\x7b']) :: pieces delimiters rest := by
  have hfind : Text.find? delimiters.opening (before ++ '\\' :: '#' :: '\x7b' :: rest) =
      some (before ++ ['\\'], rest) := by
    rw [List.append_cons]
    exact find?_opening (clean_slashes hb 1)
  rw [pieces, dif_neg (by decide)]
  split
  · rename_i hf
    rw [hfind] at hf
    cases hf
  · rename_i hf
    rw [hfind] at hf
    cases hf
    rw [dif_pos (by simp), List.dropLast_concat]
    rfl

/-- A reading takes a backslash from before a sign, and goes on behind the sign. -/
theorem pieces_sign_succ {before : List Char} (hb : Clean before) (slashes : Nat)
    (rest : List Char) : pieces delimiters (before ++ (sign (slashes + 1) ++ rest)) =
      .literal (before ++ sign slashes) :: pieces delimiters rest := by
  have h := pieces_escaped (clean_slashes hb slashes) rest
  rw [sign, sign, List.replicate_succ']
  simpa using h

/-- A sign without backslashes begins a placeholder. -/
theorem pieces_sign_zero {before content after : List Char} (hb : Clean before)
    (he : before.getLast? ≠ some '\\') (hc : '\x7d' ∉ content) :
    pieces delimiters (before ++ (sign 0 ++ (content ++ '\x7d' :: after))) =
      .literal before :: .marker content :: pieces delimiters after :=
  pieces_marker hb he hc

namespace Signed

variable {inner : Bool} {loops : Nat} {cs u : List Char} {signs : List Sign}

/-- A text without signs in front of another becomes a part of its first piece. -/
theorem pieces_append (h : Signed inner loops cs signs) (hu : Bare true u) :
    ∃ s ps, pieces delimiters cs = .literal s :: ps ∧
      pieces delimiters (u ++ cs) = .literal (u ++ s) :: ps := by
  have hfront : ∀ {before : List Char}, Bare inner before → Clean (u ++ before) :=
    fun hb => (hu.weaken.append hb hu.endsOpen).1
  cases h with
  | bare hb => exact ⟨cs, [], pieces_text hb.1, pieces_text (hfront hb)⟩
  | @literal before after slashes signs hb he hs h =>
    obtain ⟨slashes, rfl⟩ := Nat.exists_eq_succ_of_ne_zero (Nat.ne_zero_of_lt hs)
    refine ⟨_, _, pieces_sign_succ hb.1 slashes after, ?_⟩
    rw [← List.append_assoc, pieces_sign_succ (hfront hb), List.append_assoc]
  | @placeholder before content after slashes signs hb he hs hc hp h =>
    cases slashes with
    | zero =>
      refine ⟨_, _, pieces_sign_zero hb.1 he hc, ?_⟩
      rw [← List.append_assoc, pieces_sign_zero (hfront hb) ?_ hc]
      rw [List.getLast?_append]
      cases hl : before.getLast? with
      | none => exact fun hl => (hu.2 rfl).2 (List.mem_of_getLast? hl)
      | some c => rwa [hl] at he
    | succ slashes =>
      refine ⟨_, _, pieces_sign_succ hb.1 slashes _, ?_⟩
      rw [← List.append_assoc, pieces_sign_succ (hfront hb), List.append_assoc]

end Signed

/-- A statement with these signs: opening signs that stay text, and question marks. -/
inductive Shows : List Char → List Sign → Prop where
  | bare {cs : List Char} (h : Clean cs) : Shows cs []
  | literal {before after : List Char} {signs : List Sign} (hb : Clean before)
      (h : Shows after signs) : Shows (before ++ '#' :: '\x7b' :: after) (.literal :: signs)
  | placeholder {before after : List Char} {signs : List Sign} (hb : Clean before)
      (h : Shows after signs) : Shows (before ++ '?' :: after) (.placeholder :: signs)

/-- The statement that a text under no loops writes shows its signs, with one mapping for each
placeholder. -/
theorem Signed.mark {inner : Bool} {cs : List Char} {signs : List Sign}
    (h : Signed inner 0 cs signs) {m : Marked} (hm : mark (String.ofList cs) = .ok m) :
    Shows m.sql.toList signs ∧ m.mappings.length = signs.count .placeholder := by
  rw [Placeholder.mark, String.toList_ofList] at hm
  induction h generalizing m with
  | bare hb =>
    rw [pieces_text hb.1] at hm
    cases hm
    exact ⟨by simpa using Shows.bare hb.1, rfl⟩
  | @literal before after slashes signs hb he hs h ih =>
    obtain ⟨slashes, rfl⟩ := Nat.exists_eq_succ_of_ne_zero (Nat.ne_zero_of_lt hs)
    rw [pieces_sign_succ hb.1, markAll] at hm
    cases hafter : markAll (pieces delimiters after) with
    | error e =>
      rw [hafter] at hm
      cases hm
    | ok rest =>
      rw [hafter] at hm
      cases hm
      obtain ⟨hshows, hcount⟩ := ih hafter
      refine ⟨?_, by simpa using hcount⟩
      simpa [sign] using Shows.literal (clean_slashes hb.1 slashes) hshows
  | @placeholder before content after slashes signs hb he hs hc hp h ih =>
    obtain rfl := Nat.le_zero.1 hs
    rw [pieces_sign_zero hb.1 he hc, markAll, markAll] at hm
    cases hread : read (String.ofList content) with
    | error e =>
      rw [hread] at hm
      cases hm
    | ok p =>
      cases hafter : markAll (pieces delimiters after) with
      | error e =>
        rw [hread, hafter] at hm
        cases hm
      | ok rest =>
        rw [hread, hafter] at hm
        cases hm
        obtain ⟨hshows, hcount⟩ := ih hafter
        refine ⟨?_, by simpa using hcount⟩
        simpa using Shows.placeholder hb.1 hshows

end MappedSql.Placeholder
