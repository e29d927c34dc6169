import MappedSql.Proofs.Statement.ComposedOnce
import MappedSql.Proofs.Template.Trimming

/- Conditions and assignments under tests.

   The body of a clause is a list of texts, each under a test of its own, with blanks between
   them. Composed, it is the texts whose tests hold, one behind another
   (`ClausePart.composeAll_parts`). Texts that each begin with a connective make a list of
   conditions: the first one that holds loses its connective, whichever it is, since nothing but
   blanks stands before it (`TrimRule.conditions_apply`). Texts that each end with a comma make a
   list of assignments: the last one that holds loses its comma (`TrimRule.assignments_apply`). So
   a clause has no connective and no comma too many, and is there if and only if one of its tests
   holds (`ClausePart.clauses_never_dangle`). -/
namespace MappedSql

open Text (isBlank trimLeft trimRight trimmed)

namespace Text

/-- A text does not contain a piece whose first character it has not. -/
theorem contains_cons_eq_false {c : Char} {cs : List Char} (h : c ∉ cs) (piece : List Char) :
    contains (c :: piece) cs = false := by
  suffices hfind : find? (c :: piece) cs = none by rw [contains, hfind]; rfl
  induction cs with
  | nil => rfl
  | cons d cs ih =>
    obtain ⟨hd, hcs⟩ := not_or.1 (mt List.mem_cons.2 h)
    have hdrop : dropPiece? (c :: piece) (d :: cs) = none := by
      rw [dropPiece?, if_neg hd]
    rw [find?, hdrop, ih hcs]
    rfl

end Text

namespace TrimRule

/-! ## The two rules -/

/-- The connectives of conditions. -/
def connectives : List String := ["AND", "OR"]

/-- The blanks that may stand behind a connective. -/
def connectiveBlanks : List Char := [' ', '\n', '\r', '\t']

theorem conditions_eq : conditions = ⟨some "WHERE", none,
    connectiveBlanks.flatMap fun b => connectives.map (·.push b), []⟩ :=
  rfl

theorem assignments_eq : assignments = ⟨some "SET", none, [], [","]⟩ := rfl

/-- A connective, in any case. -/
def Connective (word : List Char) : Prop := ∃ s ∈ connectives, SameLetters word s.toList

theorem isBlank_of_mem_connectiveBlanks {b : Char} (h : b ∈ connectiveBlanks) :
    isBlank b = true := by
  simp only [connectiveBlanks, List.mem_cons, List.not_mem_nil, or_false] at h
  rcases h with rfl | rfl | rfl | rfl <;> decide

theorem Connective.not_blank {word : List Char} (h : Connective word) :
    ∀ c ∈ word, isBlank c = false := by
  obtain ⟨s, hs, hword⟩ := h
  refine hword.not_blank ?_
  simp only [connectives, List.mem_cons, List.not_mem_nil, or_false] at hs
  rcases hs with rfl | rfl <;> simp [isBlank]

theorem Connective.ne_nil {word : List Char} (h : Connective word) : word ≠ [] := by
  obtain ⟨s, hs, hword⟩ := h
  simp only [connectives, List.mem_cons, List.not_mem_nil, or_false] at hs
  rw [← List.length_pos_iff, hword.length_eq]
  rcases hs with rfl | rfl <;> simp

/-- What conditions drop at their start: a connective and one blank. -/
theorem begins_conditions_iff {cs rest : List Char} :
    (∃ p ∈ conditions.dropStart, Begins p.toList cs rest) ↔
      ∃ word, ∃ b ∈ connectiveBlanks, Connective word ∧ cs = word ++ b :: rest := by
  rw [conditions_eq]
  constructor
  · rintro ⟨p, hp, h⟩
    obtain ⟨b, hb, hp⟩ := List.mem_flatMap.1 hp
    obtain ⟨s, hs, rfl⟩ := List.mem_map.1 hp
    rw [String.toList_push] at h
    obtain ⟨word, hcs, hword⟩ := h.exists_word (isBlank_of_mem_connectiveBlanks hb)
    exact ⟨word, b, hb, ⟨s, hs, hword⟩, hcs⟩
  · rintro ⟨word, b, hb, ⟨s, hs, hword⟩, rfl⟩
    refine ⟨s.push b, List.mem_flatMap.2 ⟨b, hb, List.mem_map_of_mem hs⟩, word ++ [b], ?_, ?_⟩
    · rw [List.append_assoc, List.singleton_append]
    · rw [String.toList_push, SameLetters, List.map_append, List.map_append, hword]

/-- The text is a connective, a blank and a clause, with blanks in front. -/
def Connected (cs clause : List Char) : Prop :=
  ∃ lead word, ∃ b ∈ connectiveBlanks, cs = lead ++ (word ++ b :: clause) ∧
    (∀ c ∈ lead, isBlank c = true) ∧ Connective word ∧ ∃ c ∈ clause, isBlank c = false

/-- The text is a clause and a comma, with blanks behind. -/
def Listed (cs clause : List Char) : Prop :=
  ∃ tail, cs = clause ++ ',' :: tail ∧ (∀ c ∈ tail, isBlank c = true) ∧
    ∃ c ∈ clause, isBlank c = false

/-- What follows is part of the clause. -/
theorem Connected.append {cs clause : List Char} (h : Connected cs clause) (ds : List Char) :
    Connected (cs ++ ds) (clause ++ ds) := by
  obtain ⟨lead, word, b, hb, rfl, hlead, hword, ch, hch, hclause⟩ := h
  exact ⟨lead, word, b, hb, by simp, hlead, hword, ch, List.mem_append_left ds hch, hclause⟩

theorem Connected.prepend {cs clause blanks : List Char} (h : Connected cs clause)
    (hblanks : ∀ c ∈ blanks, isBlank c = true) : Connected (blanks ++ cs) clause := by
  obtain ⟨lead, word, b, hb, rfl, hlead, hword, hclause⟩ := h
  refine ⟨blanks ++ lead, word, b, hb, by simp, fun c hc => ?_, hword, hclause⟩
  exact (List.mem_append.1 hc).elim (hblanks c) (hlead c)

/-- What stands in front is part of the clause. -/
theorem Listed.prepend {cs clause : List Char} (h : Listed cs clause) (ds : List Char) :
    Listed (ds ++ cs) (ds ++ clause) := by
  obtain ⟨tail, rfl, htail, ch, hch, hclause⟩ := h
  exact ⟨tail, by simp, htail, ch, List.mem_append_right ds hch, hclause⟩

theorem Listed.append {cs clause blanks : List Char} (h : Listed cs clause)
    (hblanks : ∀ c ∈ blanks, isBlank c = true) : Listed (cs ++ blanks) clause := by
  obtain ⟨tail, rfl, htail, hclause⟩ := h
  refine ⟨tail ++ blanks, by simp, fun c hc => ?_, hclause⟩
  exact (List.mem_append.1 hc).elim (htail c) (hblanks c)

theorem Connected.exists_not_blank {cs clause : List Char} (h : Connected cs clause) :
    ∃ c ∈ cs, isBlank c = false := by
  obtain ⟨lead, word, b, -, rfl, -, -, ch, hch, hclause⟩ := h
  exact ⟨ch, by simp [hch], hclause⟩

theorem Listed.exists_not_blank {cs clause : List Char} (h : Listed cs clause) :
    ∃ c ∈ cs, isBlank c = false := by
  obtain ⟨tail, rfl, -, ch, hch, hclause⟩ := h
  exact ⟨ch, by simp [hch], hclause⟩

theorem exists_connected_of_trimmed {cs : List Char} (h : ∃ clause, Connected (trimmed cs) clause) :
    ∃ clause, Connected cs clause := by
  obtain ⟨clause, h⟩ := h
  obtain ⟨lead, trail, hcs, hlead, -⟩ := Text.exists_blanks_trimmed cs
  rw [hcs]
  exact ⟨_, (h.prepend hlead).append trail⟩

theorem exists_listed_of_trimmed {cs : List Char} (h : ∃ clause, Listed (trimmed cs) clause) :
    ∃ clause, Listed cs clause := by
  obtain ⟨clause, h⟩ := h
  obtain ⟨lead, trail, hcs, -, htrail⟩ := Text.exists_blanks_trimmed cs
  rw [hcs]
  exact ⟨_, (h.prepend lead).append htrail⟩

theorem Connected.trimmed {cs clause : List Char} (h : Connected cs clause) :
    ∃ word, ∃ b ∈ connectiveBlanks, Connective word ∧
      trimmed cs = word ++ b :: trimRight clause := by
  obtain ⟨lead, word, b, hb, rfl, hlead, hword, hclause⟩ := h
  refine ⟨word, b, hb, hword, ?_⟩
  rw [Text.trimmed, Text.trimLeft_append_of_blank hlead, Text.trimLeft_eq_self,
    List.append_cons, Placeholder.trimRight_append,
    if_neg (Text.trimRight_ne_nil hclause), ← List.append_cons]
  intro c hc
  rw [List.head?_append_of_ne_nil _ hword.ne_nil] at hc
  exact hword.not_blank c (List.mem_of_mem_head? hc)

theorem Listed.trimmed {cs clause : List Char} (h : Listed cs clause) :
    trimmed cs = trimLeft clause ++ [','] := by
  obtain ⟨tail, rfl, htail, hclause⟩ := h
  rw [Text.trimmed, Text.trimLeft_append (Text.trimLeft_ne_nil hclause),
    Placeholder.trimRight_append_cons _ _ (by decide), Text.trimRight_eq_nil_iff.2 htail]

theorem withoutStart_conditions {word rest : List Char} {b : Char} (hword : Connective word)
    (hb : b ∈ connectiveBlanks) :
    withoutStart conditions.dropStart (word ++ b :: rest) = trimLeft rest := by
  have hdropped := withoutStart_dropped conditions.dropStart (word ++ b :: rest)
  generalize withoutStart conditions.dropStart (word ++ b :: rest) = left at hdropped
  cases hdropped with
  | kept h =>
    obtain ⟨p, hp, hbegins⟩ := begins_conditions_iff.2 ⟨word, b, hb, hword, rfl⟩
    exact absurd hbegins (h p hp _)
  | @dropped p rest' hp h =>
    -- whichever piece stands there, it is over at the first blank
    obtain ⟨word', b', hb', hword', hcs⟩ := begins_conditions_iff.1 ⟨p, hp, h⟩
    rw [Text.first_blank hcs hword.not_blank (isBlank_of_mem_connectiveBlanks hb)
      hword'.not_blank (isBlank_of_mem_connectiveBlanks hb')]

theorem withoutEnd_assignments (cs : List Char) :
    withoutEnd assignments.dropEnd (cs ++ [',']) = trimRight cs := by
  have hlast : ∀ c ∈ (cs ++ [',']).getLast?, isBlank c = false := by
    intro c hc
    rw [List.getLast?_concat, Option.mem_some_iff] at hc
    rw [← hc]
    decide
  have hdropped := withoutEnd_dropped assignments.dropEnd hlast
  generalize withoutEnd assignments.dropEnd (cs ++ [',']) = left at hdropped
  rw [assignments_eq] at hdropped
  cases hdropped with
  | kept h => exact absurd ⟨by decide, by rfl, rfl⟩ (h "," List.mem_cons_self cs [','])
  | @dropped p rest tail hp h =>
    rw [List.mem_singleton.1 hp] at h
    obtain ⟨-, hcs, hs⟩ := h
    have hlength : [','].length = tail.length := hs.length_eq.symm
    rw [(List.append_inj' hcs hlength).1]

/-- Conditions lose the connective that they begin with, and what is left of them is framed. -/
theorem conditions_apply {cs clause : List Char} (h : Connected cs clause) :
    conditions.apply (String.ofList cs) =
      some ("WHERE " ++ String.ofList (Text.trimmed clause)) := by
  obtain ⟨word, b, hb, hword, htrimmed⟩ := h.trimmed
  rw [apply_eq, content, opened, String.toList_ofList, htrimmed, if_neg (by simp),
    withoutStart_conditions hword hb, Text.trimLeft_trimRight, conditions_eq]
  simp [framed, withoutEnd]

/-- Assignments lose the comma that they end with, and what is left of them is framed. -/
theorem assignments_apply {cs clause : List Char} (h : Listed cs clause) :
    assignments.apply (String.ofList cs) =
      some ("SET " ++ String.ofList (Text.trimmed clause)) := by
  have hopened : assignments.opened (String.ofList cs) = trimLeft clause ++ [','] := by
    rw [opened, String.toList_ofList, h.trimmed, assignments_eq]
    rfl
  rw [apply_eq, content, hopened, withoutEnd_assignments, String.toList_ofList, h.trimmed,
    if_neg (by simp), assignments_eq, Text.trimmed]
  simp [framed]

end TrimRule

/-- A part of the body of a clause: blanks, or a text under a test. -/
inductive ClausePart where
  | gap (s : String)
  | branch (condition : String) (body : Template)

namespace ClausePart

def template : ClausePart → Template
  | gap s => .text s
  | branch condition body => .test condition body

/-- Gaps are blank, and the texts under tests have no dynamic parts. -/
def Plain : ClausePart → Prop
  | gap s => ∀ c ∈ s.toList, isBlank c = true
  | branch _ body => body.isDynamic = false

instance : DecidablePred Plain
  | gap _ => decidable_of_iff _ List.all_eq_true
  | branch _ body => inferInstanceAs (Decidable (body.isDynamic = false))

section

variable (holds : String → Bool)

/-- Whether the part is a text whose test holds. -/
def active : ClausePart → Bool
  | gap _ => false
  | branch condition _ => holds condition

/-- What the part writes. -/
def composed : ClausePart → List Char
  | gap s => (s ++ " ").toList
  | branch condition body => if holds condition then body.written.toList else []

/-- What the parts write, one behind another. -/
def composedAll (parts : List ClausePart) : List Char := parts.flatMap (composed holds)

end

variable {ev : Evaluator} {holds : String → Bool} {c : Composition} {p : ClausePart}
  {parts : List ClausePart}

theorem blank_composed (h : p.Plain) (hactive : p.active holds = false) :
    ∀ ch ∈ p.composed holds, isBlank ch = true := by
  cases p with
  | gap s =>
    intro ch hch
    rw [composed, String.toList_append, List.mem_append] at hch
    rcases hch with hch | hch
    · exact h ch hch
    · rw [List.mem_singleton.1 hch]
      decide
  | branch condition body =>
    have hfalse : holds condition = false := hactive
    simp [composed, hfalse]

/-- Parts of which none is active write blanks only. -/
theorem blank_composedAll (h : ∀ p ∈ parts, p.Plain)
    (hactive : ∀ p ∈ parts, p.active holds = false) :
    ∀ ch ∈ composedAll holds parts, isBlank ch = true := by
  intro ch hch
  obtain ⟨p, hp, hch⟩ := List.mem_flatMap.1 hch
  exact blank_composed (h p hp) (hactive p hp) ch hch

/-- Blanks have no substitution in them. -/
theorem hasSubstitution_gap {s : String} (h : (gap s).Plain) :
    Template.hasSubstitution s = false := by
  refine Text.contains_cons_eq_false (fun hmem => ?_) ['\x7b']
  have hblank := h _ hmem
  revert hblank
  decide

theorem compose_part (hplain : p.Plain)
    (htest : ∀ condition body, p = .branch condition body →
      ev.test c.bindings condition = .ok (holds condition)) :
    (discard (p.template.compose ev) : Compose Unit) c =
      (.ok (), { c with buffer := c.buffer ++ String.ofList (p.composed holds) }) := by
  cases p with
  | gap s =>
    have hfixed := (Template.text s).compose_fixed ev (hasSubstitution_gap hplain) c
    rw [Compose.discard_eq, template, Compose.bind_ok _ hfixed, composed, String.ofList_toList]
    rfl
  | branch condition body =>
    have hevaluate : Compose.evaluate condition (ev.test · condition) c =
        (.ok (holds condition), c) := by
      rw [Compose.evaluate_eq, htest condition body rfl]
      rfl
    have hbody : (discard (body.compose ev) : Compose Unit) c =
        (.ok (), { c with buffer := c.buffer ++ body.written }) := by
      rw [Compose.discard_eq, Compose.bind_ok _ (body.compose_fixed ev hplain c)]
      rfl
    have htested : (Template.test condition body).compose ev c = (.ok (holds condition),
        { c with
          buffer := c.buffer ++ String.ofList ((branch condition body).composed holds) }) := by
      rw [Template.compose, Compose.bind_ok _ hevaluate, composed]
      cases holds condition with
      | true =>
        rw [if_pos rfl, if_pos rfl, Compose.bind_ok _ hbody, String.ofList_toList]
        rfl
      | false =>
        rw [if_neg (by simp), if_neg (by simp), String.ofList_nil, String.append_empty]
        rfl
    rw [Compose.discard_eq, template, Compose.bind_ok _ htested]
    rfl

/-- The parts of a clause write what they are composed of. -/
theorem composeAll_parts (hplain : ∀ p ∈ parts, p.Plain)
    (htests : ∀ condition body, .branch condition body ∈ parts →
      ev.test c.bindings condition = .ok (holds condition)) :
    Template.composeAll ev (parts.map template) c =
      (.ok (), { c with buffer := c.buffer ++ String.ofList (composedAll holds parts) }) := by
  induction parts generalizing c with
  | nil =>
    rw [List.map_nil, Template.composeAll, composedAll, List.flatMap_nil, String.ofList_nil,
      String.append_empty]
    rfl
  | cons p rest ih =>
    have hfirst := compose_part (hplain p List.mem_cons_self) fun condition body hp =>
      htests condition body (hp ▸ List.mem_cons_self)
    have hrest := @ih { c with buffer := c.buffer ++ String.ofList (p.composed holds) }
      (fun q hq => hplain q (List.mem_cons_of_mem p hq))
      fun condition body hq => htests condition body (List.mem_cons_of_mem p hq)
    rw [List.map_cons, Template.composeAll, Compose.bind_ok _ hfirst, hrest, composedAll,
      composedAll, List.flatMap_cons, String.ofList_append, String.append_assoc]

theorem compose_trim (rule : TrimRule) (hplain : ∀ p ∈ parts, p.Plain)
    (htests : ∀ condition body, .branch condition body ∈ parts →
      ev.test c.bindings condition = .ok (holds condition)) :
    (Template.trim rule (.block (parts.map template))).compose ev c =
      match rule.apply (String.ofList (composedAll holds parts)) with
      | some s => (.ok true, c.append s)
      | none => (.ok false, c) := by
  have hparts := composeAll_parts (c := c.push) hplain htests
  have hcaptured : Compose.captured ((Template.block (parts.map template)).compose ev) c =
      (.ok (String.ofList (composedAll holds parts)), c) := by
    rw [Compose.captured, Template.compose, Compose.bind_ok _ hparts]
    show (Except.ok ("" ++ String.ofList (composedAll holds parts)), c) = _
    rw [String.empty_append]
  rw [Template.compose, Compose.bind_ok _ hcaptured]
  cases rule.apply (String.ofList (composedAll holds parts)) <;> rfl

/-- A trimmed part contributes nothing if its parts write blanks only. -/
theorem compose_trim_eq_nothing_iff (rule : TrimRule) (hplain : ∀ p ∈ parts, p.Plain)
    (htests : ∀ condition body, .branch condition body ∈ parts →
      ev.test c.bindings condition = .ok (holds condition)) :
    (Template.trim rule (.block (parts.map template))).compose ev c = (.ok false, c) ↔
      ∀ ch ∈ composedAll holds parts, isBlank ch = true := by
  rw [compose_trim rule hplain htests, TrimRule.apply_eq, String.toList_ofList]
  split
  · rename_i s hs
    have hne : trimmed (composedAll holds parts) ≠ [] := by
      intro hnil
      rw [if_pos hnil] at hs
      cases hs
    refine iff_of_false (fun h => ?_) (mt Text.trimmed_eq_nil_iff.2 hne)
    cases (Prod.mk.inj h).1
  · rename_i hs
    refine iff_of_true rfl (Text.trimmed_eq_nil_iff.1 ?_)
    by_contra hne
    rw [if_neg hne] at hs
    cases hs

/-- Parts whose texts are not blank write blanks only if none of their tests holds. -/
theorem blank_composedAll_iff (hplain : ∀ p ∈ parts, p.Plain)
    (hbodies : ∀ condition body, .branch condition body ∈ parts →
      ∃ ch ∈ body.written.toList, isBlank ch = false) :
    (∀ ch ∈ composedAll holds parts, isBlank ch = true) ↔
      ∀ condition body, .branch condition body ∈ parts → holds condition = false := by
  constructor
  · intro hblank condition body hmem
    obtain ⟨ch, hch, hnot⟩ := hbodies condition body hmem
    by_contra hholds
    have hcomposed : (branch condition body).composed holds = body.written.toList :=
      if_pos (by simpa using hholds)
    rw [hblank ch (List.mem_flatMap.2 ⟨_, hmem, hcomposed ▸ hch⟩)] at hnot
    cases hnot
  · intro hnone
    refine blank_composedAll hplain fun p hp => ?_
    cases p with
    | gap s => rfl
    | branch condition body => exact hnone condition body hp

theorem composedAll_append_cons {before after : List ClausePart} {condition : String}
    {body : Template} (h : holds condition = true) :
    composedAll holds (before ++ .branch condition body :: after) =
      composedAll holds before ++ (body.written.toList ++ composedAll holds after) := by
  rw [composedAll, composedAll, composedAll, List.flatMap_append, List.flatMap_cons, composed,
    if_pos h]

/-- Where a test holds, there is a first one that does. -/
theorem exists_first_active (h : ∃ p ∈ parts, p.active holds = true) :
    ∃ before condition body after, parts = before ++ .branch condition body :: after ∧
      (∀ p ∈ before, p.active holds = false) ∧ holds condition = true := by
  obtain ⟨p, hfound⟩ := Option.isSome_iff_exists.1 (List.find?_isSome.2 h)
  obtain ⟨hactive, before, after, rfl, hbefore⟩ := List.find?_eq_some_iff_append.1 hfound
  have hinactive : ∀ p ∈ before, p.active holds = false := fun p hp => by simpa using hbefore p hp
  cases p with
  | gap s => cases hactive
  | branch condition body => exact ⟨before, condition, body, after, rfl, hinactive, hactive⟩

/-- Where a test holds, there is a last one that does. -/
theorem exists_last_active (h : ∃ p ∈ parts, p.active holds = true) :
    ∃ before condition body after, parts = before ++ .branch condition body :: after ∧
      (∀ p ∈ after, p.active holds = false) ∧ holds condition = true := by
  obtain ⟨p, hp, hactive⟩ := h
  obtain ⟨before, condition, body, after, hparts, hbefore, hholds⟩ :=
    exists_first_active ⟨p, List.mem_reverse.2 hp, hactive⟩
  refine ⟨after.reverse, condition, body, before.reverse, ?_,
    fun p hp => hbefore p (List.mem_reverse.1 hp), hholds⟩
  rw [← List.reverse_reverse parts, hparts]
  simp

section

variable (hplain : ∀ p ∈ parts, p.Plain)
  (htests : ∀ condition body, .branch condition body ∈ parts →
    ev.test c.bindings condition = .ok (holds condition))

include hplain htests

/-- Conditions under tests write `WHERE` and what follows the first connective of those that
hold. -/
theorem conditions_framed (hbodies : ∀ condition body, .branch condition body ∈ parts →
      ∃ clause, TrimRule.Connected body.written.toList clause)
    (hactive : ∃ p ∈ parts, p.active holds = true) :
    ∃ before condition body after clause, parts = before ++ .branch condition body :: after ∧
      (∀ p ∈ before, p.active holds = false) ∧ holds condition = true ∧
      TrimRule.Connected body.written.toList clause ∧
      (Template.trim .conditions (.block (parts.map template))).compose ev c =
        (.ok true, c.append
          ("WHERE " ++ String.ofList (trimmed (clause ++ composedAll holds after)))) := by
  obtain ⟨before, condition, body, after, rfl, hbefore, hholds⟩ := exists_first_active hactive
  obtain ⟨clause, hclause⟩ := hbodies condition body (List.mem_append_right _ List.mem_cons_self)
  refine ⟨before, condition, body, after, clause, rfl, hbefore, hholds, hclause, ?_⟩
  have hblank : ∀ ch ∈ composedAll holds before, isBlank ch = true :=
    blank_composedAll (fun p hp => hplain p (List.mem_append_left _ hp)) hbefore
  have hconnected := (hclause.append (composedAll holds after)).prepend hblank
  rw [← composedAll_append_cons hholds] at hconnected
  rw [compose_trim _ hplain htests, TrimRule.conditions_apply hconnected]

/-- Assignments under tests write `SET` and what precedes the last comma of those that hold. -/
theorem assignments_framed (hbodies : ∀ condition body, .branch condition body ∈ parts →
      ∃ clause, TrimRule.Listed body.written.toList clause)
    (hactive : ∃ p ∈ parts, p.active holds = true) :
    ∃ before condition body after clause, parts = before ++ .branch condition body :: after ∧
      (∀ p ∈ after, p.active holds = false) ∧ holds condition = true ∧
      TrimRule.Listed body.written.toList clause ∧
      (Template.trim .assignments (.block (parts.map template))).compose ev c =
        (.ok true, c.append
          ("SET " ++ String.ofList (trimmed (composedAll holds before ++ clause)))) := by
  obtain ⟨before, condition, body, after, rfl, hafter, hholds⟩ := exists_last_active hactive
  obtain ⟨clause, hclause⟩ := hbodies condition body (List.mem_append_right _ List.mem_cons_self)
  refine ⟨before, condition, body, after, clause, rfl, hafter, hholds, hclause, ?_⟩
  have hblank : ∀ ch ∈ composedAll holds after, isBlank ch = true :=
    blank_composedAll
      (fun p hp => hplain p (List.mem_append_right _ (List.mem_cons_of_mem _ hp))) hafter
  have hlisted := (hclause.append hblank).prepend (composedAll holds before)
  rw [← composedAll_append_cons hholds] at hlisted
  rw [compose_trim _ hplain htests, TrimRule.assignments_apply hlisted]

end

/-- Plain texts under tests make clauses without a connective or a comma too many. Where each text
is a connective, a blank and a clause, the conditions contribute nothing if and only if no test
holds, and else write `WHERE` and the texts whose tests hold, the first of them without its
connective. Where each text is a clause and a comma, the assignments contribute nothing if and only
if no test holds, and else write `SET` and the texts whose tests hold, the last of them without its
comma. -/
theorem clauses_never_dangle (hplain : ∀ p ∈ parts, p.Plain)
    (htests : ∀ condition body, .branch condition body ∈ parts →
      ev.test c.bindings condition = .ok (holds condition)) :
    ((∀ condition body, .branch condition body ∈ parts →
        ∃ clause, TrimRule.Connected (trimmed body.written.toList) clause) →
      ((Template.trim .conditions (.block (parts.map template))).compose ev c = (.ok false, c) ↔
        ∀ condition body, .branch condition body ∈ parts → holds condition = false) ∧
      ((∃ p ∈ parts, p.active holds = true) →
        ∃ before condition body after clause, parts = before ++ .branch condition body :: after ∧
          (∀ p ∈ before, p.active holds = false) ∧ holds condition = true ∧
          TrimRule.Connected body.written.toList clause ∧
          (Template.trim .conditions (.block (parts.map template))).compose ev c =
            (.ok true, c.append
              ("WHERE " ++ String.ofList (trimmed (clause ++ composedAll holds after)))))) ∧
    ((∀ condition body, .branch condition body ∈ parts →
        ∃ clause, TrimRule.Listed (trimmed body.written.toList) clause) →
      ((Template.trim .assignments (.block (parts.map template))).compose ev c = (.ok false, c) ↔
        ∀ condition body, .branch condition body ∈ parts → holds condition = false) ∧
      ((∃ p ∈ parts, p.active holds = true) →
        ∃ before condition body after clause, parts = before ++ .branch condition body :: after ∧
          (∀ p ∈ after, p.active holds = false) ∧ holds condition = true ∧
          TrimRule.Listed body.written.toList clause ∧
          (Template.trim .assignments (.block (parts.map template))).compose ev c =
            (.ok true, c.append
              ("SET " ++ String.ofList (trimmed (composedAll holds before ++ clause)))))) := by
  constructor
  · intro htrimmed
    have hbodies := fun condition body h =>
      TrimRule.exists_connected_of_trimmed (htrimmed condition body h)
    refine ⟨?_, conditions_framed hplain htests hbodies⟩
    rw [compose_trim_eq_nothing_iff _ hplain htests, blank_composedAll_iff hplain]
    intro condition body h
    exact (hbodies condition body h).elim fun _ => TrimRule.Connected.exists_not_blank
  · intro htrimmed
    have hbodies := fun condition body h =>
      TrimRule.exists_listed_of_trimmed (htrimmed condition body h)
    refine ⟨?_, assignments_framed hplain htests hbodies⟩
    rw [compose_trim_eq_nothing_iff _ hplain htests, blank_composedAll_iff hplain]
    intro condition body h
    exact (hbodies condition body h).elim fun _ => TrimRule.Listed.exists_not_blank

/-- Three conditions, the first of which does not hold where `a` is false. -/
def threeConditions : List ClausePart :=
  [.gap "\n  ", .branch "a" (.text "AND a = 1"), .gap " ",
    .branch "b" (.text "or\tb = 2"), .gap "\n", .branch "c" (.text "AND c = 3")]

/-- Three assignments, the last of which is not made where `a` is false. -/
def threeAssignments : List ClausePart :=
  [.branch "b" (.text "b = 2,"), .gap "\n", .branch "c" (.text " c = 3 , "),
    .gap " ", .branch "a" (.text "a = 1,")]

theorem apply_threeConditions : TrimRule.conditions.apply
    (String.ofList (composedAll (· != "a") threeConditions)) =
      some "WHERE b = 2 \n AND c = 3" := by
  rfl

theorem apply_threeAssignments : TrimRule.assignments.apply
    (String.ofList (composedAll (· != "a") threeAssignments)) = some "SET b = 2, \n  c = 3" := by
  rfl

theorem clauses_never_dangle_three :
    let c := Composition.start (.obj [("a", .bool false), ("b", .bool true), ("c", .bool true)]) none
    let conditions := Template.trim .conditions (.block (threeConditions.map template))
    let assignments := Template.trim .assignments (.block (threeAssignments.map template))
    (∃ s, conditions.compose .standard c = (.ok true, c.append ("WHERE " ++ s))) ∧
      conditions.compose .standard c = (.ok true, c.append "WHERE b = 2 \n AND c = 3") ∧
      (∃ s, assignments.compose .standard c = (.ok true, c.append ("SET " ++ s))) ∧
      assignments.compose .standard c = (.ok true, c.append "SET b = 2, \n  c = 3") := by
  intro c conditions assignments
  have htests : ∀ condition ∈ ["a", "b", "c"],
      Evaluator.standard.test c.bindings condition = .ok (condition != "a") := by
    intro condition h
    simp only [List.mem_cons, List.not_mem_nil, or_false] at h
    rcases h with rfl | rfl | rfl <;> cbv
  have hactive : ("b" != "a") = true := by decide
  rw [← and_assoc]
  constructor
  · have hplain : ∀ p ∈ threeConditions, p.Plain := by decide
    have hparts : ∀ condition body, .branch condition body ∈ threeConditions →
        condition ∈ ["a", "b", "c"] ∧
          ∃ clause, TrimRule.Connected (trimmed body.written.toList) clause := by
      intro condition body h
      simp only [threeConditions, List.mem_cons, branch.injEq, reduceCtorEq, List.not_mem_nil,
        or_false, false_or] at h
      rcases h with ⟨rfl, rfl⟩ | ⟨rfl, rfl⟩ | ⟨rfl, rfl⟩
      · exact ⟨by decide, "a = 1".toList, [], "AND".toList, ' ', by decide, by rfl,
          by simp, ⟨"AND", by decide, by rfl⟩, 'a', by decide, by decide⟩
      · exact ⟨by decide, "b = 2".toList, [], "or".toList, '\t', by decide, by rfl,
          by simp, ⟨"OR", by decide, by rfl⟩, 'b', by decide, by decide⟩
      · exact ⟨by decide, "c = 3".toList, [], "AND".toList, ' ', by decide, by rfl,
          by simp, ⟨"AND", by decide, by rfl⟩, 'c', by decide, by decide⟩
    have hholds := fun condition body h => htests condition (hparts condition body h).1
    obtain ⟨_, _, _, _, _, -, -, -, -, hrun⟩ :=
      ((clauses_never_dangle hplain hholds).1 fun condition body h =>
        (hparts condition body h).2).2
          ⟨.branch "b" (.text "or\tb = 2"), by simp [threeConditions], hactive⟩
    exact ⟨⟨_, hrun⟩, by rw [compose_trim _ hplain hholds, apply_threeConditions]⟩
  · have hplain : ∀ p ∈ threeAssignments, p.Plain := by decide
    have hparts : ∀ condition body, .branch condition body ∈ threeAssignments →
        condition ∈ ["a", "b", "c"] ∧
          ∃ clause, TrimRule.Listed (trimmed body.written.toList) clause := by
      intro condition body h
      simp only [threeAssignments, List.mem_cons, branch.injEq, reduceCtorEq, List.not_mem_nil,
        or_false, false_or] at h
      rcases h with ⟨rfl, rfl⟩ | ⟨rfl, rfl⟩ | ⟨rfl, rfl⟩
      · exact ⟨by decide, "b = 2".toList, [], by rfl, by simp, 'b', by decide,
          by decide⟩
      · exact ⟨by decide, "c = 3 ".toList, [], by rfl, by simp, 'c', by decide,
          by decide⟩
      · exact ⟨by decide, "a = 1".toList, [], by rfl, by simp, 'a', by decide,
          by decide⟩
    have hholds := fun condition body h => htests condition (hparts condition body h).1
    obtain ⟨_, _, _, _, _, -, -, -, -, hrun⟩ :=
      ((clauses_never_dangle hplain hholds).2 fun condition body h =>
        (hparts condition body h).2).2
          ⟨.branch "b" (.text "b = 2,"), by simp [threeAssignments], hactive⟩
    exact ⟨⟨_, hrun⟩, by rw [compose_trim _ hplain hholds, apply_threeAssignments]⟩

end ClausePart

end MappedSql
