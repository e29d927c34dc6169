import MappedSql.Proofs.Template.Mention
import MappedSql.Proofs.Template.Runs

/- What bindings are for the parts of a template.

   A composition writes bindings into one state and takes the variables of a loop out of it
   again. A walk has no state: a part is given the names in scope, the latest first, and gives
   back its text, the names that it binds for what comes after it, and the values that it leaves
   for placeholders (`Walked`). So a test, a collection, a substitution and the source of a binding
   see what was bound last before them and is still in scope; the variables of a round hide it
   within the round, and what a round binds under their names is gone with them. Each text is
   noted with the scope that it is composed in (`Use`).

   A composition comes to what the walk does (`Template.compose_walks`), and the side table has
   the values left for placeholders, the latest under each name. -/
namespace MappedSql

open Expression (Item)

/-- A text of the template, as it is composed. -/
structure Use where
  text : String
  scope : Scope
  /-- What has been left for placeholders before it, the latest first. -/
  earlier : Scope
  /-- The variables of the loops around it. -/
  around : List String

/-- What a part of a template comes to. -/
structure Walked (α : Type) where
  result : α
  /-- What it binds for the parts after it, the latest first. -/
  bound : Scope
  /-- What it leaves for placeholders, the latest first. -/
  left : Scope
  /-- The number for the fresh names of the next round. -/
  number : Nat
  uses : List Use

namespace Walked

variable {α β γ : Type}

def of (a : α) (number : Nat) : Walked α := ⟨a, [], [], number, []⟩

def map (f : α → β) (p : Walked α) : Walked β := { p with result := f p.result }

/-- A part and the one after it. -/
def andThen (p : Walked α) (q : Walked β) (f : α → β → γ) : Walked γ :=
  ⟨f p.result q.result, q.bound ++ p.bound, q.left ++ p.left, q.number,
    p.uses ++ q.uses.map fun u => { u with earlier := u.earlier ++ p.left }⟩

/-- A part within which a loop variable is bound, if it has a name. Outside, the name is bound as
before; the value is left under the fresh name. -/
def within (name : Option String) (number : Nat) (v : Value) (p : Walked α) : Walked α :=
  let fresh : Scope := (name.map fun n => (Loop.freshName n number, v)).toList
  { p with
    bound := p.bound.filter fun e => name != some e.1
    left := p.left ++ fresh
    uses := p.uses.map fun u =>
      { u with earlier := u.earlier ++ fresh, around := name.toList ++ u.around } }

/-- A round of a loop whose body is `body`. -/
def round (l : Loop) (body : Scope → Nat → Except Template.Error (Walked String)) (i : Item)
    (scope : Scope) (number : Nat) : Except Template.Error (Walked String) := do
  let p ← body (scope.enter l i) (number + 1)
  return ((p.within l.item number i.element).within l.index number i.key).map (l.roundText number)

/-- The texts of the rounds, without the empty ones. -/
def rounds (l : Loop) (body : Scope → Nat → Except Template.Error (Walked String)) :
    List Item → Scope → Nat → Except Template.Error (Walked (List String))
  | [], _, number => return .of [] number
  | i :: rest, scope, number => do
    let p ← round l body i scope number
    let q ← rounds l body rest (p.bound ++ scope) p.number
    return p.andThen q fun text texts => if text.isEmpty then texts else text :: texts

end Walked

/-- What a text with substitutions binds before they are made: `value`, if the parameter is null or
simple. -/
def Scope.automatic (start : Bindings) (s : Scope) : Scope :=
  let parameter := (s.bindings start).parameter
  if parameter.kind = .null || parameter.isSimple then [("value", parameter)] else []

theorem Scope.automatic_value (start : Bindings) (s : Scope) :
    ∀ e ∈ s.automatic start, e.1 = "value" := by
  intro e he
  simp only [automatic] at he
  split at he
  · rw [List.mem_singleton.1 he]
  · cases he

namespace Template

mutual

/-- What a template comes to in a scope. -/
def walk (ev : Evaluator) (start : Bindings) :
    Template → Scope → Nat → Except Error (Walked String)
  | .text s, scope, number =>
    if hasSubstitution s then do
      let t ← Compose.substituted ev (Scope.bindings start (scope.automatic start ++ scope)) s
      return ⟨t ++ " ", scope.automatic start, [], number,
        [⟨t, scope.automatic start ++ scope, [], []⟩]⟩
    else return ⟨s ++ " ", [], [], number, [⟨s, scope, [], []⟩]⟩
  | .block parts, scope, number => walkAll ev start parts scope number
  | .test condition body, scope, number => do
    let holds ← (ev.test (scope.bindings start) condition).mapError (.expression condition)
    if holds then walk ev start body scope number else return .of "" number
  | .choose branches none, scope, number => do
    let found ← walkFirst ev start branches scope number
    return found.getD (.of "" number)
  | .choose branches (some d), scope, number => do
    match ← walkFirst ev start branches scope number with
    | some p => return p
    | none => walk ev start d scope number
  | .trim rule body, scope, number => do
    let p ← walk ev start body scope number
    return p.map fun text => ((rule.apply text).map (· ++ " ")).getD ""
  | .loop l body, scope, number => do
    let items ← (ev.items (scope.bindings start) l.collection).mapError (.expression l.collection)
    if items.isEmpty then return .of "" number
    else
      let p ← Walked.rounds l (fun scope number => walk ev start body scope number) items scope
        number
      return p.map fun texts => l.joined texts ++ " "
  | .bind name source, scope, number => do
    let v ← (ev.value (scope.bindings start) source).mapError (.expression source)
    return ⟨"", [(name, v)], [(name, v)], number, []⟩

/-- What templates one after the other come to. -/
def walkAll (ev : Evaluator) (start : Bindings) :
    List Template → Scope → Nat → Except Error (Walked String)
  | [], _, number => return .of "" number
  | t :: rest, scope, number => do
    let p ← walk ev start t scope number
    let q ← walkAll ev start rest (p.bound ++ scope) p.number
    return p.andThen q (· ++ ·)

/-- What the first branch whose condition holds comes to, if there is one. -/
def walkFirst (ev : Evaluator) (start : Bindings) :
    List (String × Template) → Scope → Nat → Except Error (Option (Walked String))
  | [], _, _ => return none
  | (condition, body) :: rest, scope, number => do
    let holds ← (ev.test (scope.bindings start) condition).mapError (.expression condition)
    if holds then
      let p ← walk ev start body scope number
      return some p
    else walkFirst ev start rest scope number

end

end Template

/-! ## Scopes and bindings -/

namespace Scope

variable {start : Bindings}

theorem bindings_append (s t : Scope) :
    bindings start (s ++ t) = bindings (bindings start t) s := List.foldr_append ..

theorem ordered_bindings (h : Fields.Ordered start) (s : Scope) :
    Fields.Ordered (s.bindings start) := by
  induction s with
  | nil => exact h
  | cons e s ih => exact ih.insert e.1 e.2

theorem lookup_cons (k : String) (v : Value) (s : Scope) (name : String) :
    List.lookup name ((k, v) :: s) = if name = k then some v else List.lookup name s := by
  rw [List.lookup_cons]
  by_cases h : name = k
  · simp [h]
  · simp [h, beq_false_of_ne h]

theorem get?_bindings (s : Scope) (name : String) :
    Fields.get? (s.bindings start) name = (s.lookup name <|> Fields.get? start name) := by
  induction s with
  | nil => rfl
  | cons e s ih =>
    obtain ⟨k, v⟩ := e
    rw [show bindings start ((k, v) :: s) = Fields.insert k v (bindings start s) from rfl,
      Fields.get?_insert, lookup_cons, ih]
    split <;> rfl

theorem lookup_eq_none {s : Scope} {name : String} (h : ∀ e ∈ s, e.1 ≠ name) :
    s.lookup name = none :=
  List.lookup_eq_none_iff.2 fun e he => bne_iff_ne.2 (h e he).symm

/-- Names that come before count only if they are the one. -/
theorem lookup_append_of_ne {s t : Scope} {name : String} (h : ∀ e ∈ s, e.1 ≠ name) :
    (s ++ t).lookup name = t.lookup name := by
  rw [List.lookup_append, lookup_eq_none h, Option.none_or]

theorem filter_none (bound : Scope) :
    bound.filter (fun e => (none : Option String) != some e.1) = bound :=
  List.filter_eq_self.2 fun _ _ => rfl

theorem lookup_filter (bound : Scope) (n name : String) :
    (bound.filter fun e => some n != some e.1).lookup name =
      if name = n then none else bound.lookup name := by
  induction bound with
  | nil => simp
  | cons e bound ih =>
    obtain ⟨k, v⟩ := e
    by_cases hk : n = k
    · rw [List.filter_cons_of_neg (by simp [hk]), ih, lookup_cons, ← hk]
      split <;> rfl
    · rw [List.filter_cons_of_pos (by simp [hk]), lookup_cons, lookup_cons, ih]
      by_cases hn : name = n
      · rw [if_pos hn, if_pos hn, if_neg (hn ▸ hk)]
      · rw [if_neg hn, if_neg hn]

/-- Where a name is bound as before, what was bound under it in between does not matter. -/
theorem bindings_restore (hstart : Fields.Ordered start) {s bound : Scope} {n : String}
    {v : Value} {c : Composition} (h : c.bindings = bindings start (bound ++ (n, v) :: s)) :
    (c.restore n (Fields.get? (bindings start s) n)).bindings =
      bindings start (bound.filter (fun e => some n != some e.1) ++ s) := by
  have hs := ordered_bindings hstart s
  refine Fields.Ordered.ext ?_ (ordered_bindings hstart _) fun name => ?_
  · exact Composition.ordered_restore (h ▸ ordered_bindings hstart _) n _
  · have hinner : bindings start ((n, v) :: s) = Fields.insert n v (bindings start s) := rfl
    rw [Composition.get?_restore, bindings_append, get?_bindings (bound.filter _), lookup_filter, h,
      bindings_append, get?_bindings bound, hinner, Fields.get?_insert]
    split
    · rename_i hn
      rw [hn]
      rfl
    · rfl

end Scope

/-! ## States -/

namespace Walked

variable {α β γ : Type} {start : Bindings} {scope : Scope} {c c' c'' : Composition}
  {p : Walked α} {q : Walked β} {s t : String}

/-- A composition that has come from one state to another has done what the walk says: the names
in scope are bound, the latest values are in the side table, and the text is written. What is bound
is left for placeholders too, but for `value`. -/
structure Reaches (start : Bindings) (scope : Scope) (c : Composition) (p : Walked α) (s : String)
    (c' : Composition) : Prop where
  bindings : c'.bindings = Scope.bindings start (p.bound ++ scope)
  side : c'.side = Scope.bindings c.side p.left
  buffer : c'.buffer = c.buffer ++ s
  outer : c'.outer = c.outer
  counter : c'.counter = p.number
  bound : ∀ e ∈ p.bound, e.1 = "value" ∨ e ∈ p.left

theorem reaches_of (h : c.bindings = scope.bindings start) (a : α) :
    Reaches start scope c (.of a c.counter) "" c :=
  ⟨h, rfl, String.append_empty.symm, rfl, rfl, by simp [Walked.of]⟩

theorem Reaches.append (h : Reaches start scope c p s c') (t : String) :
    Reaches start scope c p (s ++ (t ++ " ")) (c'.append t) := by
  refine ⟨h.bindings, h.side, ?_, h.outer, h.counter, h.bound⟩
  show c'.buffer ++ t ++ " " = c.buffer ++ (s ++ (t ++ " "))
  rw [h.buffer, String.append_assoc, String.append_assoc]

theorem Reaches.map (h : Reaches start scope c p s c') (f : α → β) :
    Reaches start scope c (p.map f) s c' :=
  ⟨h.bindings, h.side, h.buffer, h.outer, h.counter, h.bound⟩

/-- The text that is made of the result of a part is written. -/
theorem Reaches.write (h : Reaches start scope c p "" c') (f : α → String)
    (hf : f p.result = t ++ " ") :
    Reaches start scope c (p.map f) (p.map f).result (c'.append t) := by
  have happend := (h.append t).map f
  rwa [String.empty_append, ← hf] at happend

theorem Reaches.andThen (h : Reaches start scope c p s c')
    (h' : Reaches start (p.bound ++ scope) c' q t c'') (f : α → β → γ) :
    Reaches start scope c (p.andThen q f) (s ++ t) c'' := by
  refine ⟨?_, ?_, ?_, h'.outer.trans h.outer, h'.counter, fun e he => ?_⟩
  · rw [h'.bindings, Walked.andThen, List.append_assoc]
  · rw [h'.side, h.side, Walked.andThen, Scope.bindings_append]
  · rw [h'.buffer, h.buffer, String.append_assoc]
  · rcases List.mem_append.1 he with he | he
    · exact (h'.bound e he).imp_right (List.mem_append_left _)
    · exact (h.bound e he).imp_right (List.mem_append_right _)

/-- The text of a part that is composed into a buffer of its own is not written. -/
theorem Reaches.pop (h : Reaches start scope c.push p s c') :
    c'.pop.1 = s ∧ Reaches start scope c p "" c'.pop.2 := by
  have hpop : c'.pop = (s, { c' with buffer := c.buffer, outer := c.outer }) := by
    have hbuffer : c'.buffer = s := h.buffer.trans String.empty_append
    have houter : c'.outer = c.buffer :: c.outer := h.outer
    rw [Composition.pop, houter, hbuffer]
  rw [hpop]
  exact ⟨rfl, h.bindings, h.side, String.append_empty.symm, rfl, h.counter, h.bound⟩

/-- Once the variable of a loop is bound as before, the part has bound nothing under its name. -/
theorem Reaches.within (hstart : Fields.Ordered start) (hb : c.bindings = scope.bindings start)
    {name : Option String} {number : Nat} {v : Value}
    (h : Reaches start ((name.map fun n => (n, v)).toList ++ scope)
      (c.withVariable name number v) p s c') :
    Reaches start scope c (p.within name number v) s (c'.withoutVariable name c) := by
  refine ⟨?_, ?_, ?_, ?_, ?_, fun e he => ?_⟩
  · -- The composition restores one name, the walk drops what is bound under it.
    cases name with
    | none =>
      rw [Walked.within, Scope.filter_none]
      exact h.bindings
    | some n =>
      have hrestore := Scope.bindings_restore (s := scope) hstart h.bindings
      rw [← hb] at hrestore
      exact hrestore
  · rw [Composition.withoutVariable_side, h.side, Walked.within, Scope.bindings_append]
    cases name <;> rfl
  · rw [Composition.withoutVariable_buffer, h.buffer, Composition.withVariable_buffer]
  · rw [Composition.withoutVariable_outer, h.outer, Composition.withVariable_outer]
  · rw [Composition.withoutVariable_counter, h.counter]
    rfl
  · exact (h.bound e (List.mem_filter.1 he).1).imp_right (List.mem_append_left _)

end Walked

/-! ## Rounds -/

section

open Walked (Reaches)

variable {start : Bindings} {scope : Scope} {c : Composition} {l : Loop} {body : Compose Bool}
  {walk : Scope → Nat → Except Template.Error (Walked String)}

theorem Scope.bindings_withVariable (hb : c.bindings = scope.bindings start)
    (name : Option String) (number : Nat) (v : Value) :
    (c.withVariable name number v).bindings =
      Scope.bindings start ((name.map fun n => (n, v)).toList ++ scope) := by
  rw [Composition.withVariable_bindings, hb, Scope.bindings_append]
  rfl

theorem Tracks.walk_round (hstart : Fields.Ordered start)
    (hbody : ∀ (scope : Scope) (c : Composition), c.bindings = scope.bindings start →
      Tracks c body (walk scope c.counter) fun _ p c' => Reaches start scope c p p.result c')
    (hb : c.bindings = scope.bindings start) (i : Item) :
    Tracks c (Compose.round l body i) (Walked.round l walk i scope c.counter)
      fun text p c' => text = p.result ∧ Reaches start scope c p "" c' := by
  have hcount : c.count.bindings = scope.bindings start := hb
  have hindex := Scope.bindings_withVariable hcount l.index c.counter i.key
  have hitem := Scope.bindings_withVariable hindex l.item c.counter i.element
  let entered :=
    (c.count.withVariable l.index c.counter i.key).withVariable l.item c.counter i.element
  have hrun := hbody (scope.enter l i) entered.push hitem
  have hcounter : entered.push.counter = c.counter + 1 := by
    simp [entered, Composition.push, Composition.count]
  rw [hcounter] at hrun
  refine Tracks.before (show Compose.nextNumber c = (.ok c.counter, c.count) from rfl) ?_
  refine Tracks.bind (P := fun text p c' => text = p.result ∧ Reaches start scope c.count
    ((p.within l.item c.counter i.element).within l.index c.counter i.key) "" c') ?_ ?_
  · refine Tracks.withVariable (Tracks.withVariable (Tracks.captured ?_))
    refine hrun.imp fun _ p c' h => ?_
    obtain ⟨htext, hreaches⟩ := Walked.Reaches.pop h
    exact ⟨htext, (hreaches.within hstart hindex).within hstart hcount⟩
  · rintro text p c' ⟨rfl, h⟩
    exact Tracks.ok ⟨rfl, h.bindings, h.side, h.buffer, h.outer, h.counter, h.bound⟩

/-- The rounds of a loop, by induction on the items. -/
theorem Tracks.walk_rounds (hstart : Fields.Ordered start)
    (hbody : ∀ (scope : Scope) (c : Composition), c.bindings = scope.bindings start →
      Tracks c body (walk scope c.counter) fun _ p c' => Reaches start scope c p p.result c')
    (items : List Item) : ∀ (scope : Scope) (c : Composition), c.bindings = scope.bindings start →
      Tracks c (Compose.rounds l body items) (Walked.rounds l walk items scope c.counter)
        fun texts p c' => texts = p.result ∧ Reaches start scope c p "" c' := by
  induction items with
  | nil =>
    intro scope c hb
    exact Tracks.ok ⟨rfl, Walked.reaches_of hb []⟩
  | cons i items ih =>
    intro scope c hb
    refine Tracks.bind (Tracks.walk_round hstart hbody hb i) ?_
    rintro text p c' ⟨rfl, h⟩
    rw [← h.counter]
    refine Tracks.bind (ih (p.bound ++ scope) c' h.bindings) ?_
    rintro texts q c'' ⟨rfl, h'⟩
    exact Tracks.ok ⟨rfl, h.andThen h' _⟩

end

/-! ## Templates -/

section

open Walked (Reaches)

variable (ev : Evaluator) {start : Bindings}

/-- The state in which the substitutions of a text are made. -/
def Composition.automatic (c : Composition) : Composition :=
  let parameter := c.bindings.parameter
  if parameter.kind = .null || parameter.isSimple then c.bind "value" parameter else c

theorem Composition.automatic_eq {scope : Scope} {c : Composition}
    (hb : c.bindings = scope.bindings start) : c.automatic =
      { c with bindings := Scope.bindings start (scope.automatic start ++ scope) } := by
  simp only [automatic, Scope.automatic, ← hb]
  split
  · rw [Scope.bindings_append, ← hb]
    rfl
  · rw [List.nil_append, ← hb]

theorem Compose.text_substitution {s : String} (hs : Template.hasSubstitution s = true)
    (c : Composition) : Compose.text ev s c =
      match Compose.substituted ev c.automatic.bindings s with
      | .ok t => (.ok (), c.automatic.append t)
      | .error e => (.error e, c.automatic) := by
  let rest : Compose Unit := do
    match Compose.substituted ev (← get).bindings s with
    | .ok t => Compose.append t
    | .error e => throw e
  have hrest : ∀ c : Composition, rest c = match Compose.substituted ev c.bindings s with
      | .ok t => (.ok (), c.append t)
      | .error e => (.error e, c) := by
    intro c
    show (match Compose.substituted ev c.bindings s with
      | .ok t => Compose.append t
      | .error e => throw e : Compose Unit) c = _
    cases Compose.substituted ev c.bindings s <;> rfl
  rw [Compose.text, if_pos hs, ← hrest, Composition.automatic]
  let parameter := c.bindings.parameter
  show (if parameter.kind = .null || parameter.isSimple then
    (modify (·.bind "value" parameter) : Compose Unit) >>= fun _ => rest else rest) c = _
  split <;> rfl

theorem Tracks.walk_text {scope : Scope} {c : Composition} (hb : c.bindings = scope.bindings start)
    (s : String) : Tracks c (Compose.text ev s)
      (Template.walk ev start (.text s) scope c.counter)
      fun _ p c' => Reaches start scope c p p.result c' := by
  rw [Template.walk]
  by_cases hs : Template.hasSubstitution s = true
  · rw [if_pos hs]
    unfold Tracks
    rw [Compose.text_substitution ev hs, Composition.automatic_eq hb]
    cases Compose.substituted ev (Scope.bindings start (scope.automatic start ++ scope)) s with
    | error e => exact ⟨_, rfl⟩
    | ok t =>
      exact ⟨(), _, rfl, rfl, rfl, String.append_assoc, rfl, rfl,
        fun e he => .inl (scope.automatic_value start e he)⟩
  · rw [if_neg hs, Compose.text, if_neg hs]
    exact ⟨(), _, rfl, hb, rfl, String.append_assoc, rfl, rfl, by simp⟩

mutual

/-- A composition comes to what the walk over its template does. -/
theorem Template.compose_walks (hstart : Fields.Ordered start) : ∀ (t : Template) (scope : Scope)
    (c : Composition), c.bindings = scope.bindings start →
    Tracks c (t.compose ev) (t.walk ev start scope c.counter)
      fun _ p c' => Reaches start scope c p p.result c'
  | .text s, scope, c, hb => by
    rw [compose]
    exact Tracks.after (Tracks.walk_text ev hb s)
  | .block parts, scope, c, hb => by
    rw [compose, walk]
    exact Tracks.after (composeAll_walks hstart parts scope c hb)
  | .test condition body, scope, c, hb => by
    rw [compose, walk]
    refine Tracks.bind (Tracks.evaluate condition hb) ?_
    rintro holds _ c ⟨rfl, rfl⟩
    cases holds with
    | false => exact Tracks.ok (Walked.reaches_of hb "")
    | true => exact Tracks.after (Tracks.discard (compose_walks hstart body scope c hb))
  | .choose branches none, scope, c, hb => by
    rw [compose, walk]
    refine Tracks.map ?_
    refine (composeFirst_walks hstart branches scope c hb).imp fun found o c' h => ?_
    cases o with
    | some p => exact h.2
    | none => exact h.2 ▸ Walked.reaches_of hb ""
  | .choose branches (some d), scope, c, hb => by
    rw [compose, walk]
    refine Tracks.bind (composeFirst_walks hstart branches scope c hb) ?_
    rintro found o c' ⟨rfl, h⟩
    cases o with
    | some p => exact Tracks.ok h
    | none =>
      -- The search has left the state as it was, so the default begins where the choice does.
      subst h
      exact Tracks.after (Tracks.discard (compose_walks hstart d scope c' hb))
  | .trim rule body, scope, c, hb => by
    rw [compose, walk]
    have hbody := compose_walks hstart body scope c.push hb
    refine Tracks.bind (P := fun text p c' => text = p.result ∧ Reaches start scope c p "" c')
      (Tracks.captured (hbody.imp fun _ _ _ h => h.pop)) ?_
    rintro text p c' ⟨rfl, h⟩
    cases hr : rule.apply p.result with
    | none => exact Tracks.ok (by simpa [Walked.map, hr] using h.map fun _ => "")
    | some s => exact ⟨true, _, rfl, h.write _ (by simp [hr])⟩
  | .loop l body, scope, c, hb => by
    rw [compose, walk]
    refine Tracks.bind (Tracks.evaluate l.collection hb) ?_
    rintro items _ c ⟨rfl, rfl⟩
    cases items with
    | nil => exact Tracks.ok (Walked.reaches_of hb "")
    | cons i items =>
      refine Tracks.bind (Tracks.walk_rounds hstart (compose_walks hstart body) (i :: items) scope c
        hb) ?_
      rintro texts p c' ⟨rfl, h⟩
      exact ⟨true, _, rfl, h.write _ rfl⟩
  | .bind name source, scope, c, hb => by
    rw [compose, walk]
    refine Tracks.bind (Tracks.evaluate source hb) ?_
    rintro v _ c ⟨rfl, rfl⟩
    refine ⟨true, (c.setSide name v).bind name v, rfl, ?_, rfl, String.append_empty.symm, rfl, rfl,
      fun e he => .inr he⟩
    show Fields.insert name v c.bindings = Fields.insert name v (scope.bindings start)
    rw [hb]

theorem Template.composeAll_walks (hstart : Fields.Ordered start) : ∀ (parts : List Template)
    (scope : Scope) (c : Composition), c.bindings = scope.bindings start →
    Tracks c (composeAll ev parts) (walkAll ev start parts scope c.counter)
      fun _ p c' => Reaches start scope c p p.result c'
  | [], scope, c, hb => by
    rw [composeAll, walkAll]
    exact Tracks.ok (Walked.reaches_of hb "")
  | t :: rest, scope, c, hb => by
    rw [composeAll, walkAll]
    refine Tracks.bind (Tracks.discard (compose_walks hstart t scope c hb)) fun _ p c' h => ?_
    rw [← h.counter]
    exact Tracks.map ((composeAll_walks hstart rest _ c' h.bindings).imp
      fun _ _ _ h' => h.andThen h' _)

/-- A choice that finds no branch leaves the state as it is. -/
theorem Template.composeFirst_walks (hstart : Fields.Ordered start) :
    ∀ (branches : List (String × Template)) (scope : Scope) (c : Composition),
    c.bindings = scope.bindings start →
    Tracks c (composeFirst ev branches) (walkFirst ev start branches scope c.counter)
      fun found o c' => found = o.isSome ∧ match o with
        | some p => Reaches start scope c p p.result c'
        | none => c' = c
  | [], scope, c, hb => by
    rw [composeFirst, walkFirst]
    exact Tracks.ok ⟨rfl, rfl⟩
  | (condition, body) :: rest, scope, c, hb => by
    rw [composeFirst, walkFirst]
    refine Tracks.bind (Tracks.evaluate condition hb) ?_
    rintro holds _ c ⟨rfl, rfl⟩
    cases holds with
    | false => exact composeFirst_walks hstart rest scope c hb
    | true =>
      have hbody := Tracks.discard (compose_walks hstart body scope c hb)
      exact Tracks.after (Tracks.map (hbody.imp fun _ _ _ h => ⟨rfl, h⟩))

end

end

end MappedSql
