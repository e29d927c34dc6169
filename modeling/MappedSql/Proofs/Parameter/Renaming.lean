import MappedSql.Proofs.Parameter.Contents
import MappedSql.Statement.Bound
import MappedSql.Template.Compose

/- The first name of a placeholder.

   A loop replaces the first name in the content of a placeholder by a fresh one
   (`Loop.renameRoot`). The content then writes the same mapping, but for the first name
   of its property (`readContent_withFirst`), as long as its property has no blank in it
   and no attribute gives it another one (`isRegular`). -/
namespace MappedSql

open Text (cut? fields dropPiece? isBlank)
open Expression (Token.inName)

/-! ## Names -/

namespace Placeholder

/-- Whether the first name of a placeholder is over before the character. -/
def endsFirst (c : Char) : Bool := c == '.' || c == '[' || c == ',' || c == ':' || isBlank c

/-- A name such as expressions have. -/
def IsName (cs : List Char) : Prop := cs ≠ [] ∧ ∀ c ∈ cs, Token.inName c = true

instance (cs : List Char) : Decidable (IsName cs) :=
  decidable_of_iff (cs ≠ [] ∧ cs.all Token.inName = true)
    (and_congr_right fun _ => List.all_eq_true)

theorem isBlank_of_inName {c : Char} (h : Token.inName c = true) : isBlank c = false := by
  cases hb : isBlank c with
  | false => rfl
  | true =>
    have hw := Text.isWordChar_of_isBlank hb
    simp only [Token.inName, hw, Bool.false_or, Bool.or_eq_true, beq_iff_eq] at h
    rcases h with rfl | rfl <;> cases hb

theorem endsFirst_of_inName {c : Char} (h : Token.inName c = true) : endsFirst c = false := by
  have hne : ∀ d, Token.inName d = false → c ≠ d := by
    rintro d hd rfl
    rw [h] at hd
    cases hd
  simp only [endsFirst, isBlank_of_inName h, Bool.or_false, Bool.or_eq_false_iff,
    beq_eq_false_iff_ne]
  exact ⟨⟨⟨hne '.' (by decide), hne '[' (by decide)⟩, hne ',' (by decide)⟩, hne ':' (by decide)⟩

namespace IsName

variable {name : List Char}

theorem endsFirst (h : IsName name) : ∀ c ∈ name, endsFirst c = false :=
  fun c hc => endsFirst_of_inName (h.2 c hc)

theorem not_mem (h : IsName name) {d : Char} (hd : Token.inName d = false) : d ∉ name := by
  intro hmem
  rw [h.2 d hmem] at hd
  cases hd

end IsName

/-! ## The first name -/

/-- The first name of a placeholder. -/
def firstName (content : List Char) : List Char :=
  (Text.trimLeft content).takeWhile (!endsFirst ·)

/-- The content of a placeholder with another first name. -/
def withFirst (name content : List Char) : List Char :=
  content.takeWhile isBlank ++ name ++ (Text.trimLeft content).dropWhile (!endsFirst ·)

theorem takeWhile_first {name rest : List Char} (hn : ∀ c ∈ name, endsFirst c = false)
    (hr : ∀ c ∈ rest.head?, endsFirst c = true) :
    (name ++ rest).takeWhile (!endsFirst ·) = name ∧
      (name ++ rest).dropWhile (!endsFirst ·) = rest := by
  have hall : ∀ c ∈ name, (!endsFirst c) = true := fun c hc => by rw [hn c hc]; rfl
  rw [List.takeWhile_append_of_pos hall, List.dropWhile_append_of_pos hall]
  cases rest with
  | nil => simp
  | cons c rest => simp [hr c rfl]

theorem head_dropWhile_first (cs : List Char) :
    ∀ c ∈ (cs.dropWhile (!endsFirst ·)).head?, endsFirst c = true := by
  intro c hc
  have h := List.head?_dropWhile_not (!endsFirst ·) cs
  cases hd : (cs.dropWhile (!endsFirst ·)).head? with
  | none => rw [hd] at hc; cases hc
  | some d =>
    rw [hd] at h hc
    cases hc
    simpa using h

end Placeholder

namespace Loop

open Placeholder

theorem endsName_iff {rest : List Char} :
    endsName rest = true ↔ ∀ c ∈ rest.head?, endsFirst c = true := by
  cases rest with
  | nil => simp [endsName]
  | cons c rest => simp [endsName, endsFirst]

/-- Only the first name is replaced. -/
theorem renameRoot_eq {name : List Char} (hn : ∀ c ∈ name, endsFirst c = false)
    (replacement content : List Char) : renameRoot name replacement content =
      if firstName content = name then withFirst replacement content else content := by
  unfold renameRoot
  have hsplit : firstName content ++ (Text.trimLeft content).dropWhile (!endsFirst ·) =
      Text.trimLeft content := List.takeWhile_append_dropWhile
  split
  · rename_i rest hd
    rw [Text.dropPiece?_eq_some] at hd
    by_cases hr : endsName rest = true
    · obtain ⟨ht, hdrop⟩ := takeWhile_first hn (endsName_iff.1 hr)
      rw [if_pos hr, if_pos (by rw [firstName, hd, ht]), withFirst, hd, hdrop]
    · rw [if_neg hr, if_neg]
      intro hf
      rw [hf, hd] at hsplit
      refine hr (endsName_iff.2 ?_)
      rw [← List.append_cancel_left hsplit]
      exact head_dropWhile_first _
  · rename_i hd
    rw [if_neg]
    intro hf
    rw [Text.dropPiece?_eq_some.2 (hf ▸ hsplit.symm)] at hd
    cases hd

end Loop

/-! ## The path -/

namespace Placeholder

/-- How the fresh names of loops begin. -/
def freshPrefix : List Char := "__frch_".toList

/-- The path in the content of a placeholder. -/
def pathOf (content : List Char) : List Char :=
  match cut? ':' (split (Text.trimmed content)).1 with
  | some (path, _) => Text.trimmed path
  | none => Text.trimmed (split (Text.trimmed content)).1

/-- Whether an attribute gives the mapping another path. -/
def setsPath (cs : List Char) : Bool :=
  match cut? '=' cs with
  | some (name, _) => Text.trimmed name == "property".toList
  | none => false

/-- A path without blanks, which does not begin like a fresh name and is not given again by an
attribute. -/
def isRegular (content : List Char) : Bool :=
  (pathOf content).all (!isBlank ·) && (dropPiece? freshPrefix (pathOf content)).isNone &&
    (split (Text.trimmed content)).2.all (!setsPath ·)

theorem trimRight_append_blanks (cs : List Char) :
    ∃ back, cs = Text.trimRight cs ++ back ∧ ∀ c ∈ back, isBlank c = true := by
  refine ⟨(cs.reverse.takeWhile isBlank).reverse, ?_, ?_⟩
  · rw [Text.trimRight, ← List.reverse_append, List.takeWhile_append_dropWhile,
      List.reverse_reverse]
  · intro c hc
    exact List.all_eq_true.1 List.all_takeWhile c (List.mem_reverse.1 hc)

theorem isBlank_of_trimLeft {cs rest : List Char} {c : Char}
    (h : Text.trimLeft cs = c :: rest) : isBlank c = false := by
  have hd := List.head?_dropWhile_not isBlank cs
  rw [show cs.dropWhile isBlank = c :: rest from h] at hd
  simpa using hd

theorem split_append (cs : List Char) : ∃ rest, cs = (split cs).1 ++ rest ∧
    (∀ c ∈ rest.head?, c = ',') ∧ ',' ∉ (split cs).1 := by
  unfold split
  cases h : cut? ',' cs with
  | none => exact ⟨[], by simp, by simp, Text.cut?_eq_none_iff.1 h⟩
  | some found =>
    obtain ⟨head, rest⟩ := found
    obtain ⟨rfl, hn⟩ := Text.cut?_eq_some h
    exact ⟨',' :: rest, rfl, by simp, hn⟩

/-- The path and what follows it. -/
theorem pathOf_append (content : List Char) : ∃ rest,
    Text.trimLeft content = pathOf content ++ rest ∧
    (∀ c ∈ rest.head?, c = ',' ∨ c = ':' ∨ isBlank c = true) ∧
    ∀ c ∈ pathOf content, c ≠ ',' ∧ c ≠ ':' := by
  obtain ⟨blanks, hblanks, hb⟩ := trimRight_append_blanks (Text.trimLeft content)
  obtain ⟨attributes, hsplit, ha, hcomma⟩ := split_append (Text.trimmed content)
  obtain ⟨front, type, hfront, ht, hcolon, hpath⟩ : ∃ front type,
      (split (Text.trimmed content)).1 = front ++ type ∧ (∀ c ∈ type.head?, c = ':') ∧
      ':' ∉ front ∧ pathOf content = Text.trimmed front := by
    unfold pathOf
    cases h : cut? ':' (split (Text.trimmed content)).1 with
    | none => exact ⟨_, [], by simp, by simp, Text.cut?_eq_none_iff.1 h, rfl⟩
    | some found =>
      obtain ⟨front, type⟩ := found
      obtain ⟨hf, hn⟩ := Text.cut?_eq_some h
      exact ⟨front, ':' :: type, hf, by simp, hn, rfl⟩
  have hwhole : Text.trimLeft content = front ++ (type ++ (attributes ++ blanks)) := by
    rw [hblanks, show Text.trimRight (Text.trimLeft content) = Text.trimmed content from rfl,
      hsplit, hfront]
    simp
  have hleft : Text.trimLeft front = front := by
    cases front with
    | nil => rfl
    | cons c front => exact Text.trimLeft_of_not_isBlank (isBlank_of_trimLeft hwhole)
  obtain ⟨gap, hgap, hg⟩ := trimRight_append_blanks front
  have hpath' : pathOf content = Text.trimRight front := by rw [hpath, Text.trimmed, hleft]
  refine ⟨gap ++ (type ++ (attributes ++ blanks)), ?_, ?_, ?_⟩
  · rw [hwhole, hpath', ← List.append_assoc (Text.trimRight front), ← hgap]
  · intro c hc
    simp only [List.head?_append, Option.mem_def, Option.or_eq_some_iff] at hc
    rcases hc with hc | ⟨-, hc | ⟨-, hc | ⟨-, hc⟩⟩⟩
    · exact .inr (.inr (hg c (List.mem_of_mem_head? hc)))
    · exact .inr (.inl (ht c hc))
    · exact .inl (ha c hc)
    · exact .inr (.inr (hb c (List.mem_of_mem_head? hc)))
  · intro c hc
    have hin : c ∈ front := by
      rw [hgap, ← hpath']
      exact List.mem_append_left _ hc
    constructor
    · rintro rfl
      exact hcomma (hfront ▸ List.mem_append_left _ hin)
    · rintro rfl
      exact hcolon hin

theorem isRegular_iff {content : List Char} : isRegular content = true ↔
    (∀ c ∈ pathOf content, isBlank c = false) ∧ dropPiece? freshPrefix (pathOf content) = none ∧
      ∀ a ∈ (split (Text.trimmed content)).2, setsPath a = false := by
  simp [isRegular, and_assoc]

theorem trimmed_of_not_blank {cs : List Char} (h : ∀ c ∈ cs, isBlank c = false) :
    Text.trimmed cs = cs := Text.strip_run h

theorem root_ofList {path : List Char} (h : ∀ c ∈ path, isBlank c = false) :
    Path.root (String.ofList path) = String.ofList (path.takeWhile (!Path.isBreak ·)) := by
  rw [Path.root, String.toList_ofList, trimmed_of_not_blank h]

theorem tail_ofList {path : List Char} (h : ∀ c ∈ path, isBlank c = false) :
    Path.tail (String.ofList path) = String.ofList (path.dropWhile (!Path.isBreak ·)) := by
  rw [Path.tail, String.toList_ofList, trimmed_of_not_blank h]

/-- The first name of a placeholder is the first name of its path. -/
theorem firstName_eq {content : List Char} (h : ∀ c ∈ pathOf content, isBlank c = false) :
    firstName content = (pathOf content).takeWhile (!Path.isBreak ·) := by
  obtain ⟨rest, hrest, hhead, hpath⟩ := pathOf_append content
  have hends : ∀ c ∈ pathOf content, endsFirst c = Path.isBreak c := by
    intro c hc
    have hcomma : (c == ',') = false := beq_eq_false_iff_ne.2 (hpath c hc).1
    have hcolon : (c == ':') = false := beq_eq_false_iff_ne.2 (hpath c hc).2
    simp [endsFirst, Path.isBreak, h c hc, hcomma, hcolon]
  have hnone : rest.takeWhile (!endsFirst ·) = [] := by
    cases rest with
    | nil => rfl
    | cons c rest =>
      have hc : endsFirst c = true := by
        rcases hhead c rfl with rfl | rfl | hb
        · rfl
        · rfl
        · simp [endsFirst, hb]
      exact List.takeWhile_cons_of_neg (by simp [hc])
  have hsame : ∀ cs : List Char, (∀ c ∈ cs, endsFirst c = Path.isBreak c) →
      cs.takeWhile (!endsFirst ·) = cs.takeWhile (!Path.isBreak ·) := by
    intro cs hcs
    induction cs with
    | nil => rfl
    | cons c cs ih =>
      rw [List.takeWhile_cons, List.takeWhile_cons, hcs c List.mem_cons_self,
        ih fun d hd => hcs d (List.mem_cons_of_mem c hd)]
  rw [firstName, hrest, List.takeWhile_append, hnone, List.append_nil, ← hsame _ hends]
  split
  · rename_i hlen
    exact (List.takeWhile_prefix _).eq_of_length hlen |>.symm
  · rfl

/-! ## The mapping -/

theorem setAttribute_path {name : String} (h : name ≠ "property") (m : ParameterMapping)
    (value path : String) : setAttribute { m with property := path } name value =
      (setAttribute m name value).map ({ · with property := path }) := by
  unfold setAttribute
  split
  · rfl
  · cases readType value <;> rfl
  · rfl
  · cases readMode value <;> rfl
  · cases readScale value <;> rfl
  · rfl
  · rfl
  · exact absurd rfl h
  · rfl

theorem readAttribute_path {cs : List Char} (h : setsPath cs = false) (m : ParameterMapping)
    (path : String) : readAttribute { m with property := path } cs =
      (readAttribute m cs).map ({ · with property := path }) := by
  unfold setsPath at h
  unfold readAttribute
  cases hc : cut? '=' cs with
  | none => rfl
  | some found =>
    obtain ⟨name, value⟩ := found
    rw [hc] at h
    refine setAttribute_path ?_ m _ path
    rintro hname
    rw [← hname] at h
    simp at h

theorem readAttributes_path {attributes : List (List Char)}
    (h : ∀ a ∈ attributes, setsPath a = false) (m : ParameterMapping) (path : String) :
    attributes.foldlM readAttribute { m with property := path } =
      (attributes.foldlM readAttribute m).map ({ · with property := path }) := by
  induction attributes generalizing m with
  | nil => rfl
  | cons a attributes ih =>
    rw [List.foldlM_cons, List.foldlM_cons, readAttribute_path (h a List.mem_cons_self)]
    cases readAttribute m a with
    | error e => rfl
    | ok m' => exact ih (fun b hb => h b (List.mem_cons_of_mem a hb)) m'

/-- A content that can be read has a head and attributes that can be read one after the other. -/
theorem readContent_eq_ok {content : List Char} {m : ParameterMapping}
    (hm : readContent content = .ok m) :
    ∃ m₀, readHead (split (Text.trimmed content)).1 = .ok m₀ ∧
      (split (Text.trimmed content)).2.foldlM readAttribute m₀ = .ok m := by
  rw [readContent] at hm
  split at hm
  · cases hm
  · exact bind_eq_ok hm

/-- The property of a head is the path, which is not empty. -/
theorem property_of_readHead {content : List Char} {m : ParameterMapping}
    (hm : readHead (split (Text.trimmed content)).1 = .ok m) :
    m.property = String.ofList (pathOf content) ∧ pathOf content ≠ [] := by
  unfold pathOf
  unfold readHead at hm
  cases hc : cut? ':' (split (Text.trimmed content)).1 with
  | none =>
    rw [hc] at hm
    dsimp only at hm
    split at hm
    · cases hm
    · rename_i hne
      cases hm
      exact ⟨rfl, by simpa using hne⟩
  | some found =>
    obtain ⟨path, type⟩ := found
    rw [hc] at hm
    dsimp only at hm
    split at hm
    · cases hm
    · rename_i hne
      obtain ⟨t, -, ht⟩ := bind_eq_ok hm
      cases ht
      exact ⟨rfl, by simpa using hne⟩

/-- The property of a mapping is the path. -/
theorem property_of_readContent {content : List Char} (h : isRegular content = true)
    {m : ParameterMapping} (hm : readContent content = .ok m) :
    m.property = String.ofList (pathOf content) := by
  obtain ⟨m₀, hhead, hrest⟩ := readContent_eq_ok hm
  have hp := readAttributes_path (isRegular_iff.1 h).2.2 m₀ m₀.property
  rw [show { m₀ with property := m₀.property } = m₀ from rfl, hrest] at hp
  have heq : m = { m with property := m₀.property } := Except.ok.inj hp
  rw [heq]
  exact (property_of_readHead hhead).1

end Placeholder

theorem Text.cut?_append {c : Char} {front : List Char} (h : c ∉ front) (cs : List Char) :
    cut? c (front ++ cs) = (cut? c cs).map fun (before, after) => (front ++ before, after) := by
  induction front with
  | nil => simp
  | cons d front ih =>
    rw [List.mem_cons, not_or] at h
    rw [List.cons_append, cut?, if_neg (Ne.symm h.1), ih h.2, Option.map_map]
    rfl

namespace Placeholder

/-- What a content writes after its first name: the rest of the path, the type and the
attributes. -/
def afterFirst (cs : List Char) : List Char × Option (List Char) × List (List Char) :=
  let written := split (Text.trimRight cs)
  match cut? ':' written.1 with
  | some (path, type) => (Text.trimRight path, some (Text.trimmed type), written.2)
  | none => (Text.trimRight written.1, none, written.2)

/-- The mapping of a path and a type. -/
def readTyped (path : List Char) (type : Option (List Char)) : Except Fault ParameterMapping :=
  let m := ParameterMapping.ofProperty (String.ofList path)
  match type with
  | some t => (readType (String.ofList t)).map fun t => { m with sqlType := some t }
  | none => .ok m

/-- The mapping of a path, a type and attributes. -/
def readParts (path : List Char) (type : Option (List Char)) (attributes : List (List Char)) :
    Except Fault ParameterMapping := do
  attributes.foldlM readAttribute (← readTyped path type)

section

variable {pad name rest : List Char}

theorem trimmed_name (hn : IsName name) (rest : List Char) :
    Text.trimmed (name ++ rest) = name ++ Text.trimRight rest := by
  have hleft : Text.trimLeft (name ++ rest) = name ++ rest := by
    obtain ⟨c, cs, rfl⟩ := List.exists_cons_of_ne_nil hn.1
    exact Text.trimLeft_of_not_isBlank (isBlank_of_inName (hn.2 c List.mem_cons_self))
  obtain ⟨front, last, rfl⟩ : ∃ front last, name = front ++ [last] :=
    ⟨_, _, (List.dropLast_concat_getLast hn.1).symm⟩
  have hlast : isBlank last = false := isBlank_of_inName (hn.2 last (by simp))
  rw [Text.trimmed, hleft]
  simpa using trimRight_append_cons front rest hlast

theorem trimmed_first (hpad : ∀ c ∈ pad, isBlank c = true) (hn : IsName name) (rest : List Char) :
    Text.trimmed (pad ++ (name ++ rest)) = name ++ Text.trimRight rest := by
  rw [← trimmed_name hn, Text.trimmed, Text.trimLeft, List.dropWhile_append_of_pos hpad]
  rfl

theorem split_first (hn : IsName name) (cs : List Char) :
    split (name ++ cs) = (name ++ (split cs).1, (split cs).2) := by
  unfold split
  rw [Text.cut?_append (hn.not_mem (by decide))]
  cases cut? ',' cs with
  | none => rfl
  | some found => rfl

theorem readHead_name (hn : IsName name) (head : List Char) : readHead (name ++ head) =
    match cut? ':' head with
    | some (path, type) => (readType (String.ofList (Text.trimmed type))).map fun t =>
      { ParameterMapping.ofProperty (String.ofList (name ++ Text.trimRight path)) with
        sqlType := some t }
    | none => .ok (.ofProperty (String.ofList (name ++ Text.trimRight head))) := by
  have hne : ∀ cs, (name ++ cs).isEmpty = false := by
    intro cs
    obtain ⟨c, name, rfl⟩ := List.exists_cons_of_ne_nil hn.1
    rfl
  rw [readHead, Text.cut?_append (hn.not_mem (by decide))]
  cases cut? ':' head with
  | none =>
    dsimp only [Option.map_none]
    rw [trimmed_name hn, hne, if_neg (by simp)]
  | some found =>
    obtain ⟨path, type⟩ := found
    dsimp only [Option.map_some]
    rw [trimmed_name hn, hne, if_neg (by simp)]
    cases readType (String.ofList (Text.trimmed type)) <;> rfl

theorem readContent_first (hpad : ∀ c ∈ pad, isBlank c = true) (hn : IsName name) :
    readContent (pad ++ (name ++ rest)) = readParts (name ++ (afterFirst rest).1)
      (afterFirst rest).2.1 (afterFirst rest).2.2 := by
  have hparen : (name ++ Text.trimRight rest).head? ≠ some '(' := by
    obtain ⟨c, cs, rfl⟩ := List.exists_cons_of_ne_nil hn.1
    intro hc
    cases hc
    exact hn.not_mem (by decide) List.mem_cons_self
  rw [readContent, trimmed_first hpad hn, if_neg hparen, split_first hn]
  dsimp only
  rw [readHead_name hn, afterFirst]
  dsimp only
  cases cut? ':' (split (Text.trimRight rest)).1 with
  | none => rfl
  | some found => rfl

theorem pathOf_first (hpad : ∀ c ∈ pad, isBlank c = true) (hn : IsName name) :
    pathOf (pad ++ (name ++ rest)) = name ++ (afterFirst rest).1 := by
  rw [pathOf, trimmed_first hpad hn, split_first hn]
  dsimp only
  rw [Text.cut?_append (hn.not_mem (by decide)), afterFirst]
  dsimp only
  cases cut? ':' (split (Text.trimRight rest)).1 with
  | none => exact trimmed_name hn _
  | some found => exact trimmed_name hn _

end

theorem readTyped_path (path path' : List Char) (type : Option (List Char)) :
    readTyped path' type =
      (readTyped path type).map ({ · with property := String.ofList path' }) := by
  unfold readTyped
  cases type with
  | none => rfl
  | some t =>
    dsimp only
    generalize readType (String.ofList t) = read
    cases read <;> rfl

/-- With another first name the content writes the same mapping, but for the first name of its
property. -/
theorem readContent_withFirst {content name fresh : List Char} (h : isRegular content = true)
    (hfirst : firstName content = name) (hn : IsName name) (hf : IsName fresh) :
    ∃ rest, pathOf content = name ++ rest ∧ readContent (withFirst fresh content) =
      (readContent content).map ({ · with property := String.ofList (fresh ++ rest) }) := by
  let pad := content.takeWhile isBlank
  let after := (Text.trimLeft content).dropWhile (!endsFirst ·)
  have hpad : ∀ c ∈ pad, isBlank c = true :=
    fun c hc => List.all_eq_true.1 List.all_takeWhile c hc
  have hcontent : content = pad ++ (name ++ after) := by
    rw [← hfirst, firstName, List.takeWhile_append_dropWhile, Text.trimLeft,
      List.takeWhile_append_dropWhile]
  have hpath : pathOf content = name ++ (afterFirst after).1 := by
    rw [hcontent]
    exact pathOf_first hpad hn
  have hattributes : ∀ a ∈ (afterFirst after).2.2, setsPath a = false := by
    have ha := (isRegular_iff.1 h).2.2
    rw [hcontent, trimmed_first hpad hn, split_first hn] at ha
    intro a hmem
    refine ha a ?_
    rw [afterFirst] at hmem
    split at hmem <;> exact hmem
  refine ⟨(afterFirst after).1, hpath, ?_⟩
  have hwith : withFirst fresh content = pad ++ (fresh ++ after) := by
    rw [withFirst, List.append_assoc]
  have hread : readContent content = readParts (name ++ (afterFirst after).1)
      (afterFirst after).2.1 (afterFirst after).2.2 := by
    conv => lhs; rw [hcontent]
    exact readContent_first hpad hn
  rw [hwith, hread, readContent_first hpad hf, readParts, readParts,
    readTyped_path (name ++ (afterFirst after).1)]
  cases readTyped (name ++ (afterFirst after).1) (afterFirst after).2.1 with
  | error e => rfl
  | ok m => exact readAttributes_path hattributes m _

theorem isBreak_of_inName {c : Char} (h : Token.inName c = true) : Path.isBreak c = false := by
  have he := endsFirst_of_inName h
  simp only [endsFirst, Bool.or_eq_false_iff] at he
  simp [Path.isBreak, he]

/-- The first name of the path, and what follows it. -/
theorem root_name {name rest : List Char} (hn : IsName name)
    (hb : ∀ c ∈ rest, isBlank c = false) :
    Path.root (String.ofList (name ++ rest)) =
        String.ofList (name ++ rest.takeWhile (!Path.isBreak ·)) ∧
      Path.tail (String.ofList (name ++ rest)) =
        String.ofList (rest.dropWhile (!Path.isBreak ·)) := by
  have hblank : ∀ c ∈ name ++ rest, isBlank c = false := by
    intro c hc
    rcases List.mem_append.1 hc with hc | hc
    · exact isBlank_of_inName (hn.2 c hc)
    · exact hb c hc
  have hbreak : ∀ c ∈ name, (!Path.isBreak c) = true :=
    fun c hc => by rw [isBreak_of_inName (hn.2 c hc)]; rfl
  rw [root_ofList hblank, tail_ofList hblank, List.takeWhile_append_of_pos hbreak,
    List.dropWhile_append_of_pos hbreak]
  exact ⟨rfl, rfl⟩

/-- A placeholder whose first name is replaced has the same mode, and leads to the same place below
its first name. -/
theorem readContent_fresh {content name fresh : List Char} (h : isRegular content = true)
    (hfirst : firstName content = name) (hn : IsName name) (hf : IsName fresh) :
    (∀ e, readContent content = .error e → readContent (withFirst fresh content) = .error e) ∧
    ∀ m, readContent content = .ok m → ∃ m', readContent (withFirst fresh content) = .ok m' ∧
      m'.mode = m.mode ∧ Path.root m.property = String.ofList name ∧
      Path.root m'.property = String.ofList fresh ∧
      Path.tail m'.property = Path.tail m.property := by
  obtain ⟨rest, hpath, hread⟩ := readContent_withFirst h hfirst hn hf
  have hblank := (isRegular_iff.1 h).1
  have hrest : ∀ c ∈ rest, isBlank c = false :=
    fun c hc => hblank c (hpath ▸ List.mem_append_right name hc)
  have hroot := firstName_eq hblank
  rw [hfirst, hpath, List.takeWhile_append_of_pos fun c hc => by
    rw [isBreak_of_inName (hn.2 c hc)]; rfl] at hroot
  have hnone : rest.takeWhile (!Path.isBreak ·) = [] := by simpa using hroot.symm
  refine ⟨fun e he => by rw [hread, he]; rfl, fun m hm => ?_⟩
  refine ⟨{ m with property := String.ofList (fresh ++ rest) }, by rw [hread, hm]; rfl, rfl, ?_⟩
  obtain ⟨hr, ht⟩ := root_name hn hrest
  obtain ⟨hr', ht'⟩ := root_name hf hrest
  rw [property_of_readContent h hm, hpath, hr, hr', ht, ht', hnone, List.append_nil,
    List.append_nil]
  exact ⟨rfl, rfl, rfl⟩

/-- The first name of a placeholder supplies its value. -/
theorem root_of_readContent {content : List Char} (h : isRegular content = true)
    {m : ParameterMapping} (hm : readContent content = .ok m) :
    Path.root m.property = String.ofList (firstName content) := by
  have hblank := (isRegular_iff.1 h).1
  rw [property_of_readContent h hm, root_ofList hblank, firstName_eq hblank]

end Placeholder

end MappedSql
