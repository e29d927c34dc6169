import Mathlib
import MappedSql.Proofs.Parameter.Renaming
import MappedSql.Proofs.Statement.Values
import MappedSql.Proofs.Text.Words

/- Paths into the side table.

   A path into a value is cut into steps (`Path.Cut`), and its first step names a field. A path
   into the side table is cut at its first dot or bracket: what stands before it is the entry,
   and what follows is walked from there. Both come to the same for every table that has the first
   step as a name, exactly if what stands before the cut is that step
   (`BoundStatement.sideValue_eq_read_iff`). It is not where a blank stands before the first dot
   or bracket, or where the path begins with a bracket: then the entry is not found, or another
   one is (`BoundStatement.spaced_root_missed`). -/
namespace MappedSql

open Text (cut? trimmed isBlank)

namespace Path

/-- A text cut into steps: indices in brackets, and names up to the next dot or bracket, without the
blanks around them. A dot between two steps does not count. -/
inductive Cut : List Char → List Step → Prop where
  | nil : Cut [] []
  | index {inner after : List Char} {steps : List Step} (hi : ']' ∉ inner)
      (h : Cut (afterDot after) steps) :
      Cut ('[' :: (inner ++ ']' :: after))
        (.index (String.ofList (unquoted (trimmed inner))) :: steps)
  | name {name after : List Char} {steps : List Step} (hn : ∀ c ∈ name, isBreak c = false)
      (ha : ∀ c ∈ after.head?, isBreak c = true) (hne : trimmed name ≠ [])
      (h : Cut (afterDot after) steps) :
      Cut (name ++ after) (.name (String.ofList (trimmed name)) :: steps)

theorem isBlank_of_isBreak {c : Char} (h : isBreak c = true) : isBlank c = false := by
  simp only [isBreak, Bool.or_eq_true, beq_iff_eq] at h
  rcases h with rfl | rfl <;> decide

theorem isBreak_head?_dropWhile (cs : List Char) :
    ∀ c ∈ (cs.dropWhile (!isBreak ·)).head?, isBreak c = true := by
  intro c hc
  have hd := List.head?_dropWhile_not (!isBreak ·) cs
  rw [hc] at hd
  simpa using hd

theorem span_break {name after : List Char} (hn : ∀ c ∈ name, isBreak c = false)
    (ha : ∀ c ∈ after.head?, isBreak c = true) :
    (name ++ after).takeWhile (!isBreak ·) = name ∧
      (name ++ after).dropWhile (!isBreak ·) = after :=
  Text.span_run (fun c hc => by rw [hn c hc]; rfl) after fun c hc => by rw [ha c hc]; rfl

/-- The steps that are read do not depend on the text that an error would quote. -/
theorem stepsOf_eq_ok_iff {whole : String} {cs : List Char} {steps : List Step} :
    stepsOf whole cs = .ok steps ↔ Cut cs steps := by
  constructor
  · intro h
    fun_induction stepsOf whole cs generalizing steps with
    | case1 =>
      cases h
      exact .nil
    | case2 rest hcut => cases h
    | case3 rest inner after hcut ih =>
      obtain ⟨tail, htail, h⟩ := bind_eq_ok h
      cases h
      obtain ⟨rfl, hi⟩ := Text.cut?_eq_some hcut
      exact .index hi (ih htail)
    | case4 c cs name hname => cases h
    | case5 c cs hc name hname =>
      rename_i ih
      obtain ⟨tail, htail, h⟩ := bind_eq_ok h
      cases h
      have hnone : ∀ d ∈ (c :: cs).takeWhile (!isBreak ·), isBreak d = false :=
        fun d hd => by simpa using List.all_eq_true.1 List.all_takeWhile d hd
      have hcut := Cut.name hnone (isBreak_head?_dropWhile (c :: cs)) hname (ih htail)
      rwa [List.takeWhile_append_dropWhile] at hcut
  · intro h
    induction h with
    | nil => rw [stepsOf]
    | @index inner after steps hi _ ih =>
      have hcut : cut? ']' (inner ++ ']' :: after) = some (inner, after) :=
        Text.cut?_append_cons hi
      rw [stepsOf]
      split
      · rename_i heq
        rw [hcut] at heq
        cases heq
      · rename_i heq
        cases heq.symm.trans hcut
        rw [ih]
        rfl
    | @name name after steps hn ha hne _ ih =>
      obtain ⟨htake, hdrop⟩ := span_break hn ha
      cases name with
      | nil => exact absurd rfl hne
      | cons c name =>
        rw [List.cons_append] at htake hdrop ⊢
        rw [stepsOf]
        · simp only [htake, hdrop, ih]
          rw [dif_neg hne]
          rfl
        · rintro rfl
          cases hn '[' List.mem_cons_self

/-! ## Blanks around a path -/

theorem afterDot_trimRight (cs : List Char) :
    afterDot (Text.trimRight cs) = Text.trimRight (afterDot cs) := by
  have hkept : ∀ {c : Char} {ds : List Char}, c ≠ '.' → afterDot (c :: ds) = c :: ds := by
    intro c ds hc
    unfold afterDot
    split
    · rename_i heq
      exact absurd (List.cons.inj heq).1 hc
    · rfl
  cases cs with
  | nil => rfl
  | cons c cs =>
    by_cases hc : c = '.'
    · rw [hc, Text.trimRight_cons (by decide)]
      rfl
    · rw [hkept hc]
      obtain ⟨back, hback, -⟩ := Placeholder.trimRight_append_blanks (c :: cs)
      cases htrim : Text.trimRight (c :: cs) with
      | nil => rfl
      | cons d ds =>
        rw [htrim] at hback
        exact hkept (by rwa [← (List.cons.inj hback).1])

namespace Cut

variable {cs : List Char} {steps : List Step}

theorem eq_nil (h : Cut [] steps) : steps = [] := by
  generalize hw : ([] : List Char) = w at h
  cases h with
  | nil => rfl
  | index => cases hw
  | name _ _ hne =>
    obtain ⟨rfl, -⟩ := List.append_eq_nil_iff.1 hw.symm
    exact absurd rfl hne

theorem trimLeft (h : Cut cs steps) : Cut (Text.trimLeft cs) steps := by
  cases h with
  | nil => exact .nil
  | index hi h =>
    rw [Text.trimLeft_of_not_isBlank (by decide)]
    exact .index hi h
  | @name name after steps hn ha hne h =>
    have hleft : Text.trimLeft name ≠ [] := fun hnil => hne (by rw [trimmed, hnil]; rfl)
    rw [Text.trimLeft_append hleft, ← Text.trimmed_trimLeft name]
    refine .name (fun c hc => hn c ((Text.trimLeft_suffix name).subset hc)) ha ?_ h
    rwa [Text.trimmed_trimLeft]

theorem trimRight (h : Cut cs steps) : Cut (Text.trimRight cs) steps := by
  induction h with
  | nil => exact .nil
  | @index inner after steps hi _ ih =>
    have hcut := Placeholder.trimRight_append_cons ('[' :: inner) after
      (show isBlank ']' = false by decide)
    rw [List.cons_append, List.cons_append] at hcut
    rw [← afterDot_trimRight] at ih
    rw [hcut]
    exact .index hi ih
  | @name name after steps hn ha hne _ ih =>
    rw [← afterDot_trimRight] at ih
    cases after with
    | nil =>
      obtain ⟨back, hback, -⟩ := Placeholder.trimRight_append_blanks name
      rw [List.append_nil, ← List.append_nil (Text.trimRight name), ← Text.trimmed_trimRight name]
      refine .name (fun c hc => hn c ?_) ha ?_ ih
      · rw [hback]
        exact List.mem_append_left _ hc
      · rwa [Text.trimmed_trimRight]
    | cons b after =>
      have hb : isBlank b = false := isBlank_of_isBreak (ha b rfl)
      rw [Placeholder.trimRight_append_cons name after hb]
      rw [Text.trimRight_cons hb] at ih
      exact .name hn (fun c hc => ha c hc) hne ih

end Cut

theorem parse_trim_eq_ok_iff {path : String} {steps : List Step} :
    parse (Text.trim path) = .ok steps ↔ Cut (trimmed path.toList) steps := by
  rw [parse, stepsOf_eq_ok_iff, Text.trim, String.toList_ofList]

/-- Blanks around a path that can be read do not change its steps. -/
theorem parse_trim {path : String} {steps : List Step} (h : parse path = .ok steps) :
    parse (Text.trim path) = .ok steps := by
  rw [parse, stepsOf_eq_ok_iff] at h
  exact parse_trim_eq_ok_iff.2 h.trimLeft.trimRight

/-! ## The root of a path -/

/-- The first step of a path is its root without the blanks after it, and the tail is cut into the
other steps; or it is an index, before which there is no root. -/
theorem first_step {path : String} {first : Step} {steps : List Step}
    (h : parse (Text.trim path) = .ok (first :: steps)) :
    (first = .name (Text.trim (root path)) ∧ Cut (afterDot (tail path).toList) steps) ∨
      (first ≠ .name (root path) ∧ root path = "" ∧
        Cut (afterDot (tail path).toList) (first :: steps)) := by
  have hcut := parse_trim_eq_ok_iff.1 h
  rw [Text.trim, root, tail, String.toList_ofList, String.toList_ofList]
  generalize trimmed path.toList = cs at hcut
  cases hcut with
  | @index inner after _ hi h =>
    right
    have hbreak : isBreak '[' = true := by decide
    rw [List.takeWhile_cons_of_neg (by simp [hbreak]),
      List.dropWhile_cons_of_neg (by simp [hbreak])]
    exact ⟨by simp, rfl, .index hi h⟩
  | @name name after _ hn ha hne h =>
    left
    obtain ⟨htake, hdrop⟩ := span_break hn ha
    rw [htake, hdrop]
    exact ⟨rfl, h⟩

/-- The tail of a path has no blanks around it. -/
theorem trimmed_tail (path : String) : trimmed (tail path).toList = (tail path).toList := by
  rw [tail, String.toList_ofList]
  have hsuffix := List.dropWhile_suffix (!isBreak ·) (l := trimmed path.toList)
  have hhead := isBreak_head?_dropWhile (trimmed path.toList)
  generalize (trimmed path.toList).dropWhile (!isBreak ·) = cs at hsuffix hhead
  rw [trimmed, Text.trimLeft_eq_self fun c hc => isBlank_of_isBreak (hhead c hc)]
  refine Text.trimRight_eq_self fun c hc => ?_
  obtain ⟨front, hfront⟩ := hsuffix
  refine Text.isBlank_getLast?_trimRight (Text.trimLeft path.toList) c ?_
  rw [show Text.trimRight (Text.trimLeft path.toList) = front ++ cs from hfront.symm,
    List.getLast?_append, hc]
  rfl

/-- What is read below a value at the tail of a path. -/
theorem readBelow_tail {path : String} {steps : List Step}
    (h : Cut (afterDot (tail path).toList) steps) (v : Value) :
    v.readBelow (tail path) = walk v steps := by
  rw [Value.readBelow, trimmed_tail]
  split
  · rename_i hempty
    rw [List.isEmpty_iff.1 hempty] at h
    rw [h.eq_nil]
    rfl
  · have hparse : parse (String.ofList (afterDot (tail path).toList)) = .ok steps := by
      rw [parse, String.toList_ofList, stepsOf_eq_ok_iff]
      exact h
    rw [hparse]
    rfl

theorem read_eq_walk {path : String} {steps : List Step}
    (h : parse (Text.trim path) = .ok steps) (v : Value) : v.read path = walk v steps := by
  rw [Value.read, h]
  rfl

/-- A value that these steps lead through, to a truth value. -/
def chain : List Step → Value
  | [] => .bool true
  | s :: rest => .obj [(s.text, chain rest)]

theorem walk_chain (steps : List Step) : walk (chain steps) steps = .ok (.bool true) := by
  induction steps with
  | nil => rfl
  | cons s rest ih =>
    rw [chain, walk, Fields.get?, if_pos rfl]
    exact ih

/-- Fewer steps do not reach the end of the chain. -/
theorem walk_chain_ne {front steps : List Step} (h : front.length < steps.length) :
    walk (chain steps) front ≠ .ok (.bool true) := by
  induction front generalizing steps with
  | nil =>
    cases steps with
    | nil => cases h
    | cons s rest => simp [walk, chain]
  | cons t front ih =>
    cases steps with
    | nil => cases h
    | cons s rest =>
      have hrest := ih (Nat.lt_of_succ_lt_succ h)
      rw [chain, walk, Fields.get?, Fields.get?]
      by_cases hts : t.text = s.text
      · rw [if_pos hts]
        exact hrest
      · rw [if_neg hts]
        simp

end Path

namespace BoundStatement

variable {path : String} {first : Step} {steps : List Step}

theorem sideValue_of_get? {b : BoundStatement} {v : Value}
    (h : Fields.get? b.side (Path.root path) = some v) :
    b.sideValue path = (v.readBelow (Path.tail path)).map some := by
  rw [sideValue, h]

/-- A path whose root is its first step is read from the entry of that name. -/
theorem sideValue_eq_read {b : BoundStatement}
    (h : Path.parse (Text.trim path) = .ok (.name (Path.root path) :: steps))
    (hhas : Fields.has b.side (Path.root path) = true) :
    b.sideValue path = (Value.read (.obj b.side) path).map some ∧
      ∀ m : ParameterMapping, m.property = path → b.valueOf m = Value.read (.obj b.side) path := by
  obtain ⟨v, hv⟩ := Option.isSome_iff_exists.1 hhas
  have hbelow : v.readBelow (Path.tail path) = Path.walk v steps := by
    rcases Path.first_step h with ⟨-, hcut⟩ | ⟨hne, -⟩
    · exact Path.readBelow_tail hcut v
    · exact absurd rfl hne
  have hread : Value.read (.obj b.side) path = Path.walk v steps := by
    rw [Path.read_eq_walk h, Path.walk, Step.text, hv]
  constructor
  · rw [sideValue_of_get? hv, hread, hbelow]
  · rintro m rfl
    rw [valueOf_eq, show Fields.get? b.side (Path.root m.property) = some v from hv, hread,
      ← hbelow]

/-- A table with nothing but a value for the first step, through which the steps lead. -/
def leading (first : Step) (steps : List Step) : BoundStatement :=
  ⟨"", [], .null, [(first.text, Path.chain (first :: steps))]⟩

theorem get?_leading (first : Step) (steps : List Step) :
    Fields.get? (leading first steps).side first.text = some (Path.chain (first :: steps)) :=
  if_pos rfl

/-- If a path resolves in that table as in an object with the same fields, its first step is its
root. -/
theorem root_of_leading (h : Path.parse (Text.trim path) = .ok (first :: steps))
    (hhas : (leading first steps).hasSide path = true)
    (hside : (leading first steps).sideValue path =
      (Value.read (.obj (leading first steps).side) path).map some) :
    first = .name (Path.root path) := by
  have hget := get?_leading first steps
  have htext : Path.root path = first.text := by
    by_contra hne
    have hnone : Fields.get? (leading first steps).side (Path.root path) = none := if_neg hne
    rw [hasSide, Fields.has, hnone] at hhas
    cases hhas
  rcases Path.first_step h with ⟨hfirst, -⟩ | ⟨-, -, hcut⟩
  · rw [hfirst] at htext
    exact hfirst.trans (congrArg Step.name htext.symm)
  · -- the table is walked from its entry by all steps, the object by those after the first
    exfalso
    have hread : Value.read (.obj (leading first steps).side) path =
        Path.walk (Path.chain (first :: steps)) steps := by
      rw [Path.read_eq_walk h, Path.walk, hget]
    rw [sideValue_of_get? (by rwa [htext]), Path.readBelow_tail hcut, Path.walk_chain,
      hread] at hside
    have hne : Path.walk (Path.chain (first :: steps)) steps ≠ .ok (.bool true) :=
      Path.walk_chain_ne (Nat.lt_succ_self steps.length)
    cases hwalk : Path.walk (Path.chain (first :: steps)) steps with
    | error e =>
      rw [hwalk] at hside
      cases hside
    | ok w =>
      rw [hwalk] at hside
      cases hside
      exact hne hwalk

/-- For every side table that has the first step of a path as a name, the path finds its entry there
and is read from it as it is read from an object with the same fields, exactly if its root is
that step. Paths that can be read as they stand are among these (`Path.parse_trim`). -/
theorem sideValue_eq_read_iff (h : Path.parse (Text.trim path) = .ok (first :: steps)) :
    (∀ b : BoundStatement, Fields.has b.side first.text = true → b.hasSide path = true ∧
      b.sideValue path = (Value.read (.obj b.side) path).map some ∧
      ∀ m : ParameterMapping, m.property = path →
        b.valueOf m = Value.read (.obj b.side) path) ↔
      first = .name (Path.root path) := by
  constructor
  · intro hall
    have hhas : Fields.has (leading first steps).side first.text = true := by
      rw [Fields.has, get?_leading]
      rfl
    obtain ⟨hroot, hside, -⟩ := hall (leading first steps) hhas
    exact root_of_leading h hroot hside
  · rintro rfl b hhas
    exact ⟨hhas, sideValue_eq_read h hhas⟩

/-- A list in the side table. -/
def withIds : BoundStatement :=
  ⟨"?", [.ofProperty " ids.[1] "], .null, [("ids", .arr [.ofNat 4, .ofNat 5])]⟩

theorem sideValue_eq_read_iff_item :
    Path.parse (Text.trim " ids.[1] ") = .ok [.name "ids", .index "1"] ∧
      withIds.hasSide " ids.[1] " = true ∧
      withIds.sideValue " ids.[1] " = (Value.read (.obj withIds.side) " ids.[1] ").map some ∧
      withIds.values.toOption = some [.ofNat 5] := by
  have hparse : Path.parse (Text.trim " ids.[1] ") = .ok [.name "ids", .index "1"] := by
    cbv
  have hread := (sideValue_eq_read_iff hparse).2 rfl withIds rfl
  exact ⟨hparse, hread.1, hread.2.1, by cbv⟩

/-- With a blank between the root of a path and its first dot the entry is not found. -/
theorem spaced_root_missed : ¬ ∀ (b : BoundStatement) (path : String) (first : Step)
    (steps : List Step), Path.parse (Text.trim path) = .ok (first :: steps) →
      Fields.has b.side first.text = true →
      (b.sideValue path).toOption = ((Value.read (.obj b.side) path).map some).toOption := by
  intro h
  let b : BoundStatement := ⟨"?", [.ofProperty "a .b"], .null, [("a", .obj [("b", .ofNat 1)])]⟩
  have heq := h b "a .b" (.name "a") [.name "b"] (by cbv) rfl
  have hside : (b.sideValue "a .b").toOption = some none := by cbv
  have hread : ((Value.read (.obj b.side) "a .b").map some).toOption = some (some (.ofNat 1)) := by
    cbv
  rw [hside, hread] at heq
  cases heq

end BoundStatement

end MappedSql
