import MappedSql.Proofs.Template.Balance
import MappedSql.Proofs.Template.Walk

/- The values that names have where texts are composed.

   What a walk binds it also leaves for placeholders. So where a text is composed, the latest
   value left under a name is the one that the name has there, unless a loop is in the way: the
   variable of a round hides the name, and a binding of the name in such a round is out of scope
   after it. For names that no loop takes (`Template.rebinds`) the two go together through the
   whole walk (`Template.walk_faithful`). -/
namespace MappedSql

open Expression (Item)

namespace Template

mutual

/-- Whether a name is bound within a loop that has it as a variable. -/
def rebinds (x : String) : Template → Bool
  | .text _ => false
  | .block parts => rebindsAny x parts
  | .test _ body => body.rebinds x
  | .choose branches none => rebindsBranch x branches
  | .choose branches (some d) => rebindsBranch x branches || d.rebinds x
  | .trim _ body => body.rebinds x
  | .loop l body =>
    (l.item == some x || l.index == some x) && body.declared.contains x || body.rebinds x
  | .bind _ _ => false

def rebindsAny (x : String) : List Template → Bool
  | [] => false
  | t :: rest => t.rebinds x || rebindsAny x rest

def rebindsBranch (x : String) : List (String × Template) → Bool
  | [] => false
  | (_, t) :: rest => t.rebinds x || rebindsBranch x rest

end

end Template

/-- A name of the template, not made up for a round and not bound by itself. -/
structure IsWritten (x : String) : Prop where
  value : x ≠ "value"
  fresh : ∀ n number, x ≠ Loop.freshName n number

namespace Walked

variable {α β γ : Type} {x : String} {names names' : List String} {scope : Scope}
  {p : Walked α} {q : Walked β}

/-- What the walk leaves for placeholders are values of these names and of fresh names, among them
what it binds under the name; and where a text is composed, the latest value left under the name
is the one that the name has there, if it is no variable of a loop around the text. -/
structure Faithful (x : String) (names : List String) (scope : Scope) (p : Walked α) : Prop where
  left : ∀ e ∈ p.left, e.1 ∈ names ∨ ∃ n number, e.1 = Loop.freshName n number
  bound : p.bound.lookup x = p.left.lookup x
  earlier : ∀ u ∈ p.uses, ∃ later, p.left = later ++ u.earlier
  uses : ∀ u ∈ p.uses, x ∉ u.around → ∀ before : Scope, scope.lookup x = before.lookup x →
    u.scope.lookup x = (u.earlier ++ before).lookup x

theorem faithful_of (a : α) (number : Nat) : Faithful x names scope (.of a number) :=
  ⟨by simp [of], rfl, by simp [of], by simp [of]⟩

theorem Faithful.mono (h : Faithful x names scope p) (hn : names ⊆ names') :
    Faithful x names' scope p :=
  ⟨fun e he => (h.left e he).imp_left fun hm => hn hm, h.bound, h.earlier, h.uses⟩

theorem Faithful.map (h : Faithful x names scope p) (f : α → β) :
    Faithful x names scope (p.map f) := ⟨h.left, h.bound, h.earlier, h.uses⟩

theorem Faithful.andThen (h : Faithful x names scope p)
    (h' : Faithful x names' (p.bound ++ scope) q) (f : α → β → γ) :
    Faithful x (names ++ names') scope (p.andThen q f) := by
  refine ⟨fun e he => ?_, ?_, fun u hu => ?_, fun u hu haround before hbefore => ?_⟩
  · rcases List.mem_append.1 he with he | he
    · exact (h'.left e he).imp_left (List.mem_append_right _)
    · exact (h.left e he).imp_left (List.mem_append_left _)
  · simp only [Walked.andThen, List.lookup_append, h.bound, h'.bound]
  · rcases List.mem_append.1 hu with hu | hu
    · obtain ⟨later, hlater⟩ := h.earlier u hu
      exact ⟨q.left ++ later, by rw [List.append_assoc, ← hlater]; rfl⟩
    · obtain ⟨w, hw, rfl⟩ := List.mem_map.1 hu
      obtain ⟨later, hlater⟩ := h'.earlier w hw
      exact ⟨later, by rw [← List.append_assoc, ← hlater]; rfl⟩
  · rcases List.mem_append.1 hu with hu | hu
    · exact h.uses u hu haround before hbefore
    · -- For the second part, what the first one has left counts as left before.
      obtain ⟨w, hw, rfl⟩ := List.mem_map.1 hu
      rw [List.append_assoc]
      refine h'.uses w hw haround (p.left ++ before) ?_
      rw [List.lookup_append, List.lookup_append, h.bound, hbefore]

/-- Nothing is left under a name that is not bound. -/
theorem Faithful.lookup_left (h : Faithful x names scope p) (hx : IsWritten x) (hn : x ∉ names) :
    p.left.lookup x = none := by
  refine Scope.lookup_eq_none fun e he heq => ?_
  rcases h.left e he with hmem | ⟨n, number, hfresh⟩
  · exact hn (heq ▸ hmem)
  · exact hx.fresh n number (heq ▸ hfresh)

/-- A variable hides its name within the round alone, where the name is not bound. -/
theorem Faithful.within (hx : IsWritten x) {name : Option String} {number : Nat} {v : Value}
    (hname : name = some x → x ∉ names)
    (h : Faithful x names ((name.map fun n => (n, v)).toList ++ scope) p) :
    Faithful x names scope (p.within name number v) := by
  have hfresh : ∀ e ∈ (name.map fun n => (Loop.freshName n number, v)).toList,
      ∃ n number, e.1 = Loop.freshName n number := by
    intro e he
    obtain ⟨n, -, rfl⟩ := Option.map_eq_some_iff.1 (Option.mem_toList.1 he)
    exact ⟨n, number, rfl⟩
  have hnone : List.lookup x (name.map fun n => (Loop.freshName n number, v)).toList = none := by
    refine Scope.lookup_eq_none fun e he heq => ?_
    obtain ⟨n, number, hn⟩ := hfresh e he
    exact hx.fresh n number (heq ▸ hn)
  refine ⟨fun e he => ?_, ?_, fun u hu => ?_, fun u hu haround before hbefore => ?_⟩
  · rcases List.mem_append.1 he with he | he
    · exact h.left e he
    · exact .inr (hfresh e he)
  · show List.lookup x (p.bound.filter _) = List.lookup x (p.left ++ _)
    rw [List.lookup_append, hnone, Option.or_none, ← h.bound]
    cases name with
    | none => rw [Scope.filter_none]
    | some n =>
      -- What is bound under the name of the variable is taken out, but there is nothing.
      rw [Scope.lookup_filter]
      by_cases hn : x = n
      · rw [if_pos hn, h.bound, h.lookup_left hx (hname (by rw [hn]))]
      · rw [if_neg hn]
  · obtain ⟨w, hw, rfl⟩ := List.mem_map.1 hu
    obtain ⟨later, hlater⟩ := h.earlier w hw
    exact ⟨later, by rw [← List.append_assoc, ← hlater]; rfl⟩
  · obtain ⟨w, hw, rfl⟩ := List.mem_map.1 hu
    simp only [List.mem_append, not_or] at haround
    rw [List.append_assoc]
    refine h.uses w hw haround.2 _ ?_
    have hvariable : List.lookup x (name.map fun n => (n, v)).toList = none := by
      refine Scope.lookup_eq_none fun e he heq => haround.1 ?_
      obtain ⟨n, hn, rfl⟩ := Option.map_eq_some_iff.1 (Option.mem_toList.1 he)
      exact Option.mem_toList.2 (heq ▸ hn)
    -- Neither the variable nor its fresh name gets in the way of this name.
    rw [List.lookup_append, List.lookup_append, hnone, hvariable, hbefore]

/-! ## Rounds -/

variable {l : Loop} {body : Scope → Nat → Except Template.Error (Walked String)} {number : Nat}

theorem Faithful.round (hx : IsWritten x) (hitem : l.item = some x → x ∉ names)
    (hindex : l.index = some x → x ∉ names)
    (hbody : ∀ scope number p, body scope number = .ok p → Faithful x names scope p) (i : Item)
    {p : Walked String} (h : round l body i scope number = .ok p) : Faithful x names scope p := by
  obtain ⟨p, hp, h⟩ := bind_eq_ok h
  cases h
  exact (((hbody _ _ p hp).within hx hitem).within hx hindex).map _

/-- The rounds of a loop, by induction on the items. -/
theorem Faithful.rounds (hx : IsWritten x) (hitem : l.item = some x → x ∉ names)
    (hindex : l.index = some x → x ∉ names)
    (hbody : ∀ scope number p, body scope number = .ok p → Faithful x names scope p)
    (items : List Item) : ∀ (scope : Scope) (number : Nat) {p : Walked (List String)},
      rounds l body items scope number = .ok p → Faithful x names scope p := by
  induction items with
  | nil =>
    intro scope number p h
    cases h
    exact faithful_of [] number
  | cons i items ih =>
    intro scope number p h
    obtain ⟨p, hp, h⟩ := bind_eq_ok h
    obtain ⟨q, hq, h⟩ := bind_eq_ok h
    cases h
    have hround := Faithful.round hx hitem hindex hbody i hp
    exact (hround.andThen (ih _ _ hq) _).mono (List.append_subset.2 ⟨.refl _, .refl _⟩)

end Walked

/-! ## Templates -/

namespace Template

open Walked (Faithful)

variable (ev : Evaluator) (start : Bindings) {x : String}

theorem text_faithful (hx : IsWritten x) (s : String) {scope : Scope} {number : Nat}
    {p : Walked String} (h : walk ev start (.text s) scope number = .ok p) :
    Faithful x [] scope p := by
  rw [walk] at h
  split at h
  · obtain ⟨t, -, h⟩ := bind_eq_ok h
    cases h
    have hnone : (scope.automatic start).lookup x = none := by
      refine Scope.lookup_eq_none fun e he heq => hx.value ?_
      exact heq ▸ scope.automatic_value start e he
    refine ⟨by simp, hnone, by simp, fun u hu _ before hbefore => ?_⟩
    rw [List.mem_singleton.1 hu, List.lookup_append, hnone, hbefore]
    rfl
  · cases h
    refine ⟨by simp, rfl, by simp, fun u hu _ before hbefore => ?_⟩
    rw [List.mem_singleton.1 hu, hbefore]
    rfl

mutual

/-- Where a text is composed, the latest value left under a name is the one that the name has
there, unless a loop around the text or around a binding of the name has it as a variable. -/
theorem walk_faithful (hx : IsWritten x) : ∀ (t : Template) (scope : Scope) (number : Nat)
    {p : Walked String}, t.rebinds x = false → walk ev start t scope number = .ok p →
    Faithful x t.declared scope p
  | .text s, scope, number, p, _, h => text_faithful ev start hx s h
  | .block parts, scope, number, p, hr, h => walkAll_faithful hx parts scope number hr h
  | .test condition body, scope, number, p, hr, h => by
    rw [walk] at h
    obtain ⟨holds, -, h⟩ := bind_eq_ok h
    cases holds with
    | false =>
      cases h
      exact Walked.faithful_of "" number
    | true => exact walk_faithful hx body scope number hr h
  | .choose branches none, scope, number, p, hr, h => by
    rw [walk] at h
    obtain ⟨found, hfound, h⟩ := bind_eq_ok h
    cases h
    cases found with
    | none => exact Walked.faithful_of "" number
    | some p => exact walkFirst_faithful hx branches scope number hr hfound
  | .choose branches (some d), scope, number, p, hr, h => by
    rw [walk] at h
    rw [rebinds, Bool.or_eq_false_iff] at hr
    obtain ⟨found, hfound, h⟩ := bind_eq_ok h
    cases found with
    | none =>
      exact (walk_faithful hx d scope number hr.2 h).mono (List.subset_append_right _ _)
    | some p =>
      cases h
      exact (walkFirst_faithful hx branches scope number hr.1 hfound).mono
        (List.subset_append_left _ _)
  | .trim rule body, scope, number, p, hr, h => by
    rw [walk] at h
    obtain ⟨p, hp, h⟩ := bind_eq_ok h
    cases h
    exact (walk_faithful hx body scope number hr hp).map _
  | .loop l body, scope, number, p, hr, h => by
    rw [walk] at h
    rw [rebinds, Bool.or_eq_false_iff] at hr
    obtain ⟨items, -, h⟩ := bind_eq_ok h
    have hvariable : l.item = some x ∨ l.index = some x → x ∉ body.declared := by
      intro hl hmem
      rcases hl with hl | hl <;> simp [hl, hmem] at hr
    cases items with
    | nil =>
      cases h
      exact Walked.faithful_of "" number
    | cons i items =>
      obtain ⟨p, hp, h⟩ := bind_eq_ok h
      cases h
      exact (Faithful.rounds hx (fun hl => hvariable (.inl hl)) (fun hl => hvariable (.inr hl))
        (fun scope number _ => walk_faithful hx body scope number hr.2) _ scope number hp).map _
  | .bind name source, scope, number, p, _, h => by
    rw [walk] at h
    obtain ⟨v, -, h⟩ := bind_eq_ok h
    cases h
    exact ⟨by simp [declared], rfl, by simp, by simp⟩

theorem walkAll_faithful (hx : IsWritten x) : ∀ (parts : List Template) (scope : Scope)
    (number : Nat) {p : Walked String}, rebindsAny x parts = false →
    walkAll ev start parts scope number = .ok p → Faithful x (declaredAll parts) scope p
  | [], scope, number, p, _, h => by
    rw [walkAll] at h
    cases h
    exact Walked.faithful_of "" number
  | t :: rest, scope, number, p, hr, h => by
    rw [walkAll] at h
    rw [rebindsAny, Bool.or_eq_false_iff] at hr
    obtain ⟨p, hp, h⟩ := bind_eq_ok h
    obtain ⟨q, hq, h⟩ := bind_eq_ok h
    cases h
    exact (walk_faithful hx t scope number hr.1 hp).andThen (walkAll_faithful hx rest _ _ hr.2 hq) _

theorem walkFirst_faithful (hx : IsWritten x) : ∀ (branches : List (String × Template))
    (scope : Scope) (number : Nat) {p : Walked String}, rebindsBranch x branches = false →
    walkFirst ev start branches scope number = .ok (some p) →
    Faithful x (declaredFirst branches) scope p
  | [], scope, number, p, _, h => by
    rw [walkFirst] at h
    cases h
  | (condition, body) :: rest, scope, number, p, hr, h => by
    rw [walkFirst] at h
    rw [rebindsBranch, Bool.or_eq_false_iff] at hr
    obtain ⟨holds, -, h⟩ := bind_eq_ok h
    cases holds with
    | false =>
      exact (walkFirst_faithful hx rest scope number hr.2 h).mono (List.subset_append_right _ _)
    | true =>
      obtain ⟨p, hp, h⟩ := bind_eq_ok h
      cases h
      exact (walk_faithful hx body scope number hr.1 hp).mono (List.subset_append_left _ _)

end

end Template

end MappedSql
