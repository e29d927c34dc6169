import Mathlib.Data.List.Forall2
import MappedSql.Proofs.Template.Mention

/- The placeholders of a round.

   A loop gives its variables fresh names in each round. Fresh names of different names or of
   different numbers are different (`Loop.freshName_inj`). `Stands side s content m` says that a
   content of the composed text stands for a placeholder of the template: it is the same content,
   whose first name means the same in `s` as where the template has it, or it has a fresh first
   name that the side table gives the value of the first name there. Renaming the contents of a
   round takes them from the scope of the round to the scope around it (`Stands.renamed`). -/
namespace MappedSql

open Placeholder (Contents endsOpen isRegular IsName freshPrefix firstName withFirst pathOf)
open Expression (Token.inName)

/-! ## Fresh names -/

namespace Loop

theorem toList_freshName (name : String) (number : Nat) : (freshName name number).toList =
    freshPrefix ++ (name.toList ++ '_' :: Nat.toDigits 10 number) := by
  show ("__frch_" ++ name ++ "_" ++ number.repr).toList = _
  rw [String.toList_append, String.toList_append, String.toList_append, Nat.toList_repr,
    List.append_assoc, List.append_assoc]
  rfl

theorem freshName_inj {name name' : String} {number number' : Nat}
    (h : freshName name number = freshName name' number') : name = name' ∧ number = number' := by
  have hlist := congrArg String.toList h
  rw [toList_freshName, toList_freshName] at hlist
  -- the number is what stands behind the last underscore
  have cut : ∀ name number, Text.cut? '_' (name ++ '_' :: Nat.toDigits 10 number).reverse =
      some ((Nat.toDigits 10 number).reverse, name.reverse) := by
    intro name number
    rw [List.reverse_append, List.reverse_cons, List.append_assoc]
    exact Text.cut?_append_cons (by simp)
  have heq := (cut name.toList number).symm.trans
    ((congrArg _ (congrArg _ (List.append_cancel_left hlist))).trans (cut name'.toList number'))
  simp only [Option.some.injEq, Prod.mk.injEq, List.reverse_inj] at heq
  refine ⟨String.ext_iff.2 heq.2, ?_⟩
  have hnumber := congrArg (fun digits => Nat.ofDigitChars 10 digits 0) heq.1
  simpa using hnumber

theorem inName_of_isDigit {c : Char} (h : c.isDigit = true) : Token.inName c = true := by
  have hlt : c.toNat < 128 := by
    simp only [Char.isDigit, Bool.and_eq_true, decide_eq_true_eq, UInt32.le_iff_toNat_le] at h
    exact Nat.lt_of_le_of_lt h.2 (by decide)
  rw [Token.inName, Text.isWordChar, if_pos hlt, Char.isAlphanum, h, Bool.or_true]
  rfl

theorem isName_freshName {name : String} (h : IsName name.toList) (number : Nat) :
    IsName (freshName name number).toList := by
  rw [toList_freshName]
  refine ⟨List.append_ne_nil_of_left_ne_nil (by decide) _, fun c hc => ?_⟩
  rcases List.mem_append.1 hc with hc | hc
  · have hprefix : freshPrefix.all Token.inName = true := by decide
    exact List.all_eq_true.1 hprefix c hc
  · rcases List.mem_append.1 hc with hc | hc
    · exact h.2 c hc
    · rcases List.mem_cons.1 hc with rfl | hc
      · decide
      · exact inName_of_isDigit (Nat.isDigit_of_mem_toDigits (by decide) (by decide) hc)

end Loop

/-- A text that does not begin like a fresh name is no fresh name. -/
theorem Placeholder.ne_freshName {cs : List Char} (h : Text.dropPiece? freshPrefix cs = none)
    (name : String) (number : Nat) : cs ≠ (Loop.freshName name number).toList := by
  rintro rfl
  rw [Loop.toList_freshName, Text.dropPiece?_eq_some.2 rfl] at h
  cases h

/-! ## Renamed texts -/

namespace Loop

open Text (pieces)
open Placeholder (delimiters pieces_text pieces_marker)

/-- The text of a round ends as its body does. -/
theorem getLast?_renameAll (l : Loop) (number : Nat) {cs : List Char}
    {contents : List (List Char)} (h : Contents cs contents) :
    (l.renameAll number (pieces delimiters cs)).getLast? = cs.getLast? := by
  induction h with
  | text hc =>
    rw [pieces_text hc, renameAll, renameAll, List.append_nil]
  | @marker before content after contents hb he hc h ih =>
    have ends : ∀ front after : List Char,
        (front ++ '\x7d' :: after).getLast? = after.getLast?.or (some '\x7d') := by
      intro front after
      rw [List.append_cons, List.getLast?_append, List.getLast?_concat]
    have hleft := ends (before ++ '#' :: '\x7b' :: l.renamed number content)
      (l.renameAll number (pieces delimiters after))
    have hright := ends (before ++ '#' :: '\x7b' :: content) after
    rw [ih, ← hright] at hleft
    rw [pieces_marker hb he hc, renameAll, renameAll]
    simpa [delimiters] using hleft

/-- The placeholders of the text of a round are those of its body, renamed. -/
theorem contents_renameAll (l : Loop) (number : Nat) {cs : List Char}
    {contents : List (List Char)} (h : Contents cs contents)
    (hr : ∀ content ∈ contents, '\x7d' ∉ content → '\x7d' ∉ l.renamed number content) :
    Contents (l.renameAll number (pieces delimiters cs)) (contents.map (l.renamed number)) := by
  induction h with
  | text hc =>
    rw [pieces_text hc, renameAll, renameAll, List.append_nil]
    exact .text hc
  | @marker before content after contents hb he hc h ih =>
    rw [pieces_marker hb he hc, renameAll, renameAll]
    have hafter := ih fun content' hmem => hr content' (List.mem_cons_of_mem content hmem)
    simpa [delimiters] using Contents.marker hb he (hr content List.mem_cons_self hc) hafter

end Loop

/-! ## Contents and placeholders -/

namespace Placeholder

theorem trimLeft_withFirst {name : List Char} (hn : IsName name) (content : List Char) :
    Text.trimLeft (withFirst name content) =
      name ++ (Text.trimLeft content).dropWhile (!endsFirst ·) := by
  have hpad : ∀ c ∈ content.takeWhile Text.isBlank, Text.isBlank c = true :=
    fun c hc => List.all_eq_true.1 List.all_takeWhile c hc
  obtain ⟨c, cs, rfl⟩ := List.exists_cons_of_ne_nil hn.1
  have hc : Text.isBlank c = false := isBlank_of_inName (hn.2 c List.mem_cons_self)
  rw [withFirst, List.append_assoc, Text.trimLeft, List.dropWhile_append_of_pos hpad]
  exact Text.trimLeft_of_not_isBlank hc

theorem firstName_withFirst {name : List Char} (hn : IsName name) (content : List Char) :
    firstName (withFirst name content) = name := by
  rw [firstName, trimLeft_withFirst hn]
  exact (takeWhile_first hn.endsFirst (head_dropWhile_first _)).1

theorem not_mem_withFirst {d : Char} {name content : List Char} (hn : IsName name)
    (hd : Token.inName d = false) (h : d ∉ content) : d ∉ withFirst name content := by
  rw [withFirst, List.mem_append, List.mem_append]
  rintro ((hc | hc) | hc)
  · exact h (List.takeWhile_subset _ hc)
  · exact hn.not_mem hd hc
  · exact h ((Text.trimLeft_suffix content).subset (List.dropWhile_subset _ hc))

end Placeholder

/-- A content of a text composed in the scope stands for a placeholder of the template. -/
inductive Stands (side : Fields) (s : Scope) (content : List Char) (m : Mention) : Prop where
  | kept (hr : isRegular m.content = true) (hc : content = m.content)
    (hs : m.scope.lookup (String.ofList (firstName m.content)) =
      s.lookup (String.ofList (firstName m.content)))
  | renamed (hr : isRegular m.content = true) (name : String) (number : Nat) (v : Value)
    (hn : IsName name.toList) (hf : firstName m.content = name.toList)
    (hc : content = withFirst (Loop.freshName name number).toList m.content)
    (hv : Fields.get? side (Loop.freshName name number) = some v)
    (hs : m.scope.lookup name = some v)

namespace Stands

variable {side : Fields} {s : Scope} {content : List Char} {m : Mention}

/-- With more in the side table. -/
theorem mono {side' : Fields} (h : Stands side s content m)
    (hside : ∀ name v, Fields.get? side name = some v → Fields.get? side' name = some v) :
    Stands side' s content m := by
  cases h with
  | kept hr hc hs => exact .kept hr hc hs
  | renamed hr name number v hn hf hc hv hs =>
    exact .renamed hr name number v hn hf hc (hside _ v hv) hs

/-- The first name of a regular placeholder is not fresh. -/
theorem firstName_ne {content : List Char} (hr : isRegular content = true) (name : String)
    (number : Nat) : firstName content ≠ (Loop.freshName name number).toList := by
  obtain ⟨hblank, hfresh, -⟩ := Placeholder.isRegular_iff.1 hr
  rw [Placeholder.firstName_eq hblank]
  intro heq
  have hpath : pathOf content = (Loop.freshName name number).toList ++
      (pathOf content).dropWhile (!Path.isBreak ·) := by
    rw [← heq, List.takeWhile_append_dropWhile]
  rw [hpath, Loop.toList_freshName, List.append_assoc, Text.dropPiece?_eq_some.2 rfl] at hfresh
  cases hfresh

end Stands

namespace Loop

open Template (isVariable)

/-- The content with one variable renamed. -/
def renameVariable (number : Nat) (content : List Char) (name : Option String) : List Char :=
  match name with
  | some n => renameRoot n.toList (freshName n number).toList content
  | none => content

theorem renamed_eq (l : Loop) (number : Nat) (content : List Char) :
    l.renamed number content =
      renameVariable number (renameVariable number content l.item) l.index := rfl

theorem isVariable_iff {name : String} : isVariable name = true ↔
    IsName name.toList ∧ Text.dropPiece? freshPrefix name.toList = none := by
  simp [isVariable]

theorem renameVariable_some {name : String} (h : isVariable name = true) (number : Nat)
    (content : List Char) : renameVariable number content (some name) =
      if firstName content = name.toList then
        withFirst (freshName name number).toList content
      else content :=
  renameRoot_eq (isVariable_iff.1 h).1.endsFirst _ content

/-- The name of a variable that is renamed is no longer the first name. -/
theorem firstName_renameVariable {name : String} (h : isVariable name = true) (number : Nat)
    (content : List Char) :
    firstName (renameVariable number content (some name)) ≠ name.toList := by
  obtain ⟨hn, hfresh⟩ := isVariable_iff.1 h
  rw [renameVariable_some h]
  split
  · rw [Placeholder.firstName_withFirst (isName_freshName hn number)]
    exact (Placeholder.ne_freshName hfresh name number).symm
  · assumption

theorem not_mem_renameVariable {d : Char} (hd : Token.inName d = false) {name : Option String}
    (h : ∀ n ∈ name, isVariable n = true) (number : Nat) {content : List Char}
    (hc : d ∉ content) : d ∉ renameVariable number content name := by
  cases name with
  | none => exact hc
  | some n =>
    have hn := h n rfl
    rw [renameVariable_some hn]
    split
    · exact Placeholder.not_mem_withFirst (isName_freshName (isVariable_iff.1 hn).1 number) hd hc
    · exact hc

end Loop

namespace Stands

open Template (isVariable)

variable {side : Fields} {s : Scope} {content : List Char} {m : Mention}

/-- Renaming a variable takes a content out of the scope of the variable. -/
theorem renameVariable {name : Option String} (hname : ∀ n ∈ name, isVariable n = true) {v : Value}
    {number : Nat} (hv : ∀ n ∈ name, firstName content = n.toList →
      Fields.get? side (Loop.freshName n number) = some v)
    (h : Stands side ((name.map fun n => (n, v)).toList ++ s) content m) :
    Stands side s (Loop.renameVariable number content name) m := by
  cases name with
  | none => exact h
  | some n =>
    have hn := hname n rfl
    obtain ⟨hname, hfresh⟩ := Loop.isVariable_iff.1 hn
    rw [Loop.renameVariable_some hn]
    cases h with
    | kept hr hc hs =>
      subst hc
      by_cases hf : firstName m.content = n.toList
      · rw [if_pos hf]
        refine .renamed hr n number v hname hf rfl (hv n rfl hf) ?_
        rw [hf, String.ofList_toList] at hs
        rw [hs]
        simp
      · rw [if_neg hf]
        refine .kept hr rfl (hs.trans ?_)
        have hne : String.ofList (firstName m.content) ≠ n := by
          rintro rfl
          exact hf String.toList_ofList.symm
        simp [List.lookup_cons, beq_eq_false_iff_ne.2 hne]
    | renamed hr name' number' v' hn' hf hc hv' hs =>
      -- a first name that is fresh is not the name of a variable
      have hne : firstName content ≠ n.toList := by
        rw [hc, Placeholder.firstName_withFirst (Loop.isName_freshName hn' number')]
        exact (Placeholder.ne_freshName hfresh name' number').symm
      rw [if_neg hne]
      exact .renamed hr name' number' v' hn' hf hc hv' hs

/-- Renaming the variables of a round takes a content out of the scope of the round. -/
theorem round {l : Loop} {i : Expression.Item} {number : Nat}
    (hitem : ∀ n ∈ l.item, isVariable n = true) (hindex : ∀ n ∈ l.index, isVariable n = true)
    (helement : ∀ n ∈ l.item, Fields.get? side (Loop.freshName n number) = some i.element)
    (hkey : ∀ n ∈ l.index, l.item ≠ some n →
      Fields.get? side (Loop.freshName n number) = some i.key)
    (h : Stands side (s.enter l i) content m) : Stands side s (l.renamed number content) m := by
  rw [Loop.renamed_eq]
  have hinner := renameVariable hitem (fun n hn _ => helement n hn) h
  refine renameVariable hindex (fun n hn hf => hkey n hn ?_) hinner
  -- where both have one name, the element has taken it
  intro heq
  rw [heq] at hf
  exact Loop.firstName_renameVariable (hitem n heq) number content hf

end Stands

end MappedSql
