import MappedSql.Proofs.Template.Runs

/- Compositions leave their state balanced.

   `Balances names x`: from every state and whatever `x` comes to, a result or an error, the
   buffers below the innermost are as before and that one is only extended, names other than
   `names` are bound as before, nothing is gone from the side table, and no number is given out
   again. One lemma says so for each operation of a composition. The two that take something back
   at their end, a buffer (`Balances.captured`) or a variable (`Balances.withVariable`), do so
   after an error too. A template composes with its own bindings and `value` as the only names
   that may change (`Template.compose_balanced`). -/
namespace MappedSql

namespace Composition

/-- What stays of a state that was `c`, where only these names may be bound to something else. -/
structure Balanced (names : List String) (c c' : Composition) : Prop where
  outer : c'.outer = c.outer
  buffer : ∃ s, c'.buffer = c.buffer ++ s
  bindings : ∀ name, name ∉ names → Fields.get? c'.bindings name = Fields.get? c.bindings name
  side : ∀ name, Fields.has c.side name = true → Fields.has c'.side name = true
  counter : c.counter ≤ c'.counter

namespace Balanced

variable {names : List String} {c c' c'' : Composition}

theorem refl (c : Composition) : c.Balanced names c :=
  ⟨rfl, ⟨"", String.append_empty.symm⟩, fun _ _ => rfl, fun _ h => h, Nat.le_refl _⟩

theorem trans (h : c.Balanced names c') (h' : c'.Balanced names c'') : c.Balanced names c'' := by
  obtain ⟨s, hs⟩ := h.buffer
  obtain ⟨s', hs'⟩ := h'.buffer
  refine ⟨h'.outer.trans h.outer, ⟨s ++ s', ?_⟩, fun name hn => ?_,
    fun name hn => h'.side name (h.side name hn), Nat.le_trans h.counter h'.counter⟩
  · rw [hs', hs, String.append_assoc]
  · exact (h'.bindings name hn).trans (h.bindings name hn)

theorem append (c : Composition) (s : String) : c.Balanced names (c.append s) :=
  ⟨rfl, ⟨s ++ " ", String.append_assoc⟩, fun _ _ => rfl, fun _ h => h, Nat.le_refl _⟩

theorem count (c : Composition) : c.Balanced names c.count :=
  ⟨rfl, ⟨"", String.append_empty.symm⟩, fun _ _ => rfl, fun _ h => h, Nat.le_succ _⟩

theorem bind (c : Composition) {name : String} (h : name ∈ names) (v : Value) :
    c.Balanced names (c.bind name v) := by
  refine ⟨rfl, ⟨"", String.append_empty.symm⟩, fun other hn => ?_, fun _ h => h, Nat.le_refl _⟩
  have hne : other ≠ name := fun heq => hn (heq ▸ h)
  exact (Fields.get?_insert _ _ _ _).trans (if_neg hne)

theorem setSide (c : Composition) (name : String) (v : Value) :
    c.Balanced names (c.setSide name v) := by
  refine ⟨rfl, ⟨"", String.append_empty.symm⟩, fun _ _ => rfl, fun other h => ?_, Nat.le_refl _⟩
  rw [Fields.has] at h ⊢
  rw [Composition.setSide, Fields.get?_insert]
  split
  · rfl
  · exact h

/-- A buffer that is pushed and popped leaves no trace. -/
theorem pop (h : c.push.Balanced names c') : c.Balanced names c'.pop.2 := by
  have houter : c'.outer = c.buffer :: c.outer := h.outer
  have hpop : c'.pop.2 = { c' with buffer := c.buffer, outer := c.outer } := by
    rw [Composition.pop, houter]
  rw [hpop]
  exact ⟨rfl, ⟨"", String.append_empty.symm⟩, h.bindings, h.side, h.counter⟩

/-- A name that is bound and then restored is bound as before, whatever else may change. -/
theorem restore {name : String} {v : Value} (h : (c.bind name v).Balanced names c') :
    c.Balanced names (c'.restore name (Fields.get? c.bindings name)) := by
  refine ⟨(restore_outer ..).trans h.outer, ?_, fun other hn => ?_, fun other ho => ?_, ?_⟩
  · rw [restore_buffer]
    exact h.buffer
  · rw [Composition.get?_restore]
    split
    · rename_i heq
      rw [heq]
    · rename_i hne
      rw [h.bindings other hn]
      exact (Fields.get?_insert _ _ _ _).trans (if_neg hne)
  · rw [restore_side]
    exact h.side other ho
  · rw [restore_counter]
    exact h.counter

end Balanced

end Composition

namespace Compose

/-- The composition leaves every state balanced, whatever it comes to. -/
def Balances {α : Type} (names : List String) (x : Compose α) : Prop :=
  ∀ c : Composition, c.Balanced names (x c).2

namespace Balances

variable {α β : Type} {names : List String} {x : Compose α}

theorem pure (a : α) : Balances names (Pure.pure a : Compose α) := fun c => .refl c

theorem throw (e : Template.Error) : Balances names (MonadExcept.throw e : Compose α) :=
  fun c => .refl c

theorem bind {g : α → Compose β} (hx : Balances names x) (hg : ∀ a, Balances names (g a)) :
    Balances names (x >>= g) := by
  intro c
  have hc := hx c
  rcases hr : x c with ⟨r, c'⟩
  rw [hr] at hc
  cases r with
  | error e =>
    rw [bind_error g hr]
    exact hc
  | ok a =>
    rw [bind_ok g hr]
    exact hc.trans (hg a c')

theorem discard (hx : Balances names x) : Balances names (Functor.discard x) := by
  rw [discard_eq]
  exact hx.bind fun _ => .pure ()

theorem ite {p : Prop} [Decidable p] {y : Compose α} (hx : Balances names x)
    (hy : Balances names y) : Balances names (if p then x else y) := by
  split
  · exact hx
  · exact hy

/-- Reading the state changes nothing. -/
theorem get {g : Composition → Compose β} (hg : ∀ c, Balances names (g c)) :
    Balances names ((MonadState.get : Compose Composition) >>= g) := fun c => hg c c

theorem modified {f : Composition → Composition} (hf : ∀ c : Composition, c.Balanced names (f c)) :
    Balances names (modify f : Compose Unit) := hf

theorem append (s : String) : Balances names (Compose.append s) := fun c => .append c s

theorem evaluate (source : String) (f : Bindings → Except Expression.Error α) :
    Balances names (Compose.evaluate source f) := by
  unfold Compose.evaluate
  refine .get fun c => ?_
  cases f c.bindings with
  | ok a => exact .pure a
  | error e => exact .throw _

theorem captured (hx : Balances names x) : Balances names (Compose.captured x) :=
  fun c => .pop (hx c.push)

theorem withVariable (hx : Balances names x) (name : Option String) (number : Nat) (v : Value) :
    Balances names (Compose.withVariable name number v x) := by
  cases name with
  | none => exact hx
  | some n =>
    intro c
    have hset : c.Balanced names (c.setSide (Loop.freshName n number) v) := .setSide c _ v
    exact hset.trans (.restore (hx _))

theorem text (h : "value" ∈ names) (ev : Evaluator) (s : String) :
    Balances names (Compose.text ev s) := by
  unfold Compose.text
  refine .ite (.get fun c => ?_) (.append s)
  refine .ite (.bind (.modified fun c => .bind c h _) fun _ => ?_) ?_
  all_goals
    refine .get fun c => ?_
    cases substituted ev c.bindings s with
    | ok t => exact .append t
    | error e => exact .throw e

/-- A round leaves the state balanced if its body does: its variables are bound for the body
alone. -/
theorem round {l : Loop} {body : Compose Bool} (hb : Balances names body) (i : Expression.Item) :
    Balances names (Compose.round l body i) := by
  unfold Compose.round
  refine .bind (fun c => .count c) fun number => ?_
  refine .bind ?_ fun text => .pure _
  exact (hb.captured.withVariable l.item number i.element).withVariable l.index number i.key

theorem rounds {l : Loop} {body : Compose Bool} (hb : Balances names body)
    (items : List Expression.Item) : Balances names (Compose.rounds l body items) := by
  induction items with
  | nil => exact .pure []
  | cons i rest ih => exact .bind (hb.round i) fun text => .bind ih fun texts => .pure _

end Balances

end Compose

namespace Template

open Compose (Balances)

mutual

/-- The names that the template binds for what comes after. -/
def declared : Template → List String
  | .text _ => []
  | .block parts => declaredAll parts
  | .test _ body => body.declared
  | .choose branches none => declaredFirst branches
  | .choose branches (some d) => declaredFirst branches ++ d.declared
  | .trim _ body => body.declared
  | .loop _ body => body.declared
  | .bind name _ => [name]

def declaredAll : List Template → List String
  | [] => []
  | t :: rest => t.declared ++ declaredAll rest

def declaredFirst : List (String × Template) → List String
  | [] => []
  | (_, t) :: rest => t.declared ++ declaredFirst rest

end

section

variable (ev : Evaluator) {names : List String}

mutual

theorem compose_balances (hvalue : "value" ∈ names) : ∀ t : Template, t.declared ⊆ names →
    Balances names (t.compose ev)
  | .text s, _ => by
    rw [compose]
    exact .bind (.text hvalue ev s) fun _ => .pure true
  | .block parts, h => by
    rw [compose]
    exact .bind (composeAll_balances hvalue parts h) fun _ => .pure true
  | .test condition body, h => by
    rw [compose]
    refine .bind (.evaluate _ _) fun holds => ?_
    exact .ite (.bind (compose_balances hvalue body h).discard fun _ => .pure _) (.pure _)
  | .choose branches none, h => by
    rw [compose]
    exact composeFirst_balances hvalue branches h
  | .choose branches (some d), h => by
    rw [compose]
    rw [declared, List.append_subset] at h
    refine .bind (composeFirst_balances hvalue branches h.1) fun found => ?_
    exact .ite (.bind (compose_balances hvalue d h.2).discard fun _ => .pure _) (.pure _)
  | .trim rule body, h => by
    rw [compose]
    refine .bind (compose_balances hvalue body h).captured fun part => ?_
    cases rule.apply part with
    | none => exact .pure false
    | some s => exact .bind (.append s) fun _ => .pure true
  | .loop l body, h => by
    rw [compose]
    refine .bind (.evaluate _ _) fun items => .ite (.pure false) ?_
    refine .bind (.rounds (compose_balances hvalue body h) items) fun texts => ?_
    exact .bind (.append _) fun _ => .pure true
  | .bind name source, h => by
    rw [compose]
    refine .bind (.evaluate _ _) fun v => .bind (.modified fun c => ?_) fun _ => .pure true
    have hname : name ∈ names := h List.mem_cons_self
    exact .trans (.setSide c name v) (.bind _ hname v)

theorem composeAll_balances (hvalue : "value" ∈ names) : ∀ parts : List Template,
    declaredAll parts ⊆ names → Balances names (composeAll ev parts)
  | [], _ => by
    rw [composeAll]
    exact .pure ()
  | t :: rest, h => by
    rw [composeAll]
    rw [declaredAll, List.append_subset] at h
    exact .bind (compose_balances hvalue t h.1).discard fun _ => composeAll_balances hvalue rest h.2

theorem composeFirst_balances (hvalue : "value" ∈ names) :
    ∀ branches : List (String × Template), declaredFirst branches ⊆ names →
      Balances names (composeFirst ev branches)
  | [], _ => by
    rw [composeFirst]
    exact .pure false
  | (condition, body) :: rest, h => by
    rw [composeFirst]
    rw [declaredFirst, List.append_subset] at h
    refine .bind (.evaluate _ _) fun holds => ?_
    have hbody := (compose_balances hvalue body h.1).discard
    exact .ite (.bind hbody fun _ => .pure true) (composeFirst_balances hvalue rest h.2)

end

end

/-- Whatever a composition of a template comes to, a result or an error, it leaves its state
balanced: the stack of buffers is as deep and as full as before below the innermost one, which has
only grown, names are bound as before but for `value` and those that the template binds, every
entry of the side table is still there, and the counter has not gone back. -/
theorem compose_balanced (ev : Evaluator) (t : Template) (c : Composition) :
    c.Balanced ("value" :: t.declared) (t.compose ev c).2 :=
  compose_balances ev List.mem_cons_self t (List.subset_cons_self _ _) c

end Template

end MappedSql
