import MappedSql.Proofs.Value.Ordered
import MappedSql.Template.Compose

/- Compositions beside walks.

   A walk over a template says what its composition comes to without the state that is changed
   underway. `Tracks c x y P`: run from `c`, the composition `x` fails as the walk `y` does, and
   else `P` holds of the two results and of the state at the end. One lemma says so for each
   operation of a composition; the variable of a loop is bound for what is within it
   (`Tracks.withVariable`). -/
namespace MappedSql

/-! ## The variable of a loop -/

namespace Composition

/-- With a loop variable, if it has a name. -/
def withVariable (c : Composition) (name : Option String) (number : Nat) (v : Value) :
    Composition :=
  match name with
  | some n => (c.setSide (Loop.freshName n number) v).bind n v
  | none => c

/-- With the loop variable bound as it was before. -/
def withoutVariable (c : Composition) (name : Option String) (before : Composition) :
    Composition :=
  match name with
  | some n => c.restore n (Fields.get? before.bindings n)
  | none => c

section

variable (c before : Composition) (name : Option String) (number : Nat) (v : Value)

@[simp] theorem withVariable_buffer : (c.withVariable name number v).buffer = c.buffer := by
  cases name <;> rfl

@[simp] theorem withVariable_outer : (c.withVariable name number v).outer = c.outer := by
  cases name <;> rfl

@[simp] theorem withVariable_counter : (c.withVariable name number v).counter = c.counter := by
  cases name <;> rfl

theorem withVariable_bindings : (c.withVariable name number v).bindings =
    (name.map fun n => (n, v)).toList.foldr (fun e b => Fields.insert e.1 e.2 b) c.bindings := by
  cases name <;> rfl

@[simp] theorem restore_buffer (n : String) (o : Option Value) :
    (c.restore n o).buffer = c.buffer := by
  cases o <;> rfl

@[simp] theorem restore_outer (n : String) (o : Option Value) :
    (c.restore n o).outer = c.outer := by
  cases o <;> rfl

@[simp] theorem restore_counter (n : String) (o : Option Value) :
    (c.restore n o).counter = c.counter := by
  cases o <;> rfl

@[simp] theorem restore_side (n : String) (o : Option Value) : (c.restore n o).side = c.side := by
  cases o <;> rfl

@[simp] theorem withoutVariable_buffer :
    (c.withoutVariable name before).buffer = c.buffer := by
  cases name <;> simp [withoutVariable]

@[simp] theorem withoutVariable_outer : (c.withoutVariable name before).outer = c.outer := by
  cases name <;> simp [withoutVariable]

@[simp] theorem withoutVariable_counter :
    (c.withoutVariable name before).counter = c.counter := by
  cases name <;> simp [withoutVariable]

@[simp] theorem withoutVariable_side : (c.withoutVariable name before).side = c.side := by
  cases name <;> simp [withoutVariable]

end

variable {c : Composition} {name : Option String} {number : Nat} {v : Value}

/-- A variable leaves the names bound as they were. -/
theorem withoutVariable_bindings (hb : Fields.Ordered c.bindings) (number : Nat) (v : Value)
    {c' : Composition} (h : c'.bindings = (c.withVariable name number v).bindings) :
    (c'.withoutVariable name c).bindings = c.bindings := by
  cases name with
  | none => exact h
  | some n => exact bindings_restore hb c' n v h

theorem ordered_withVariable (hb : Fields.Ordered c.bindings) :
    Fields.Ordered (c.withVariable name number v).bindings := by
  cases name with
  | none => exact hb
  | some n => exact hb.insert n v

end Composition

/-! ## Runs -/

/-- An expression is read over the present bindings, and changes nothing. -/
theorem Compose.evaluate_eq {α : Type} (source : String)
    (f : Bindings → Except Expression.Error α) (c : Composition) :
    Compose.evaluate source f c = ((f c.bindings).mapError (.expression source), c) := by
  have hget : ∀ k : Composition → Compose α, (get >>= k) c = k c c := fun _ => rfl
  unfold Compose.evaluate
  rw [hget]
  cases f c.bindings <;> rfl

/-- Run from the state, the composition fails where the walk fails, with the same error; else their
results and the state at the end are related. -/
def Tracks {α β : Type} (c : Composition) (x : Compose α) (y : Except Template.Error β)
    (P : α → β → Composition → Prop) : Prop :=
  match y with
  | .error e => ∃ c', x c = (.error e, c')
  | .ok b => ∃ a c', x c = (.ok a, c') ∧ P a b c'

namespace Tracks

variable {α α' β β' : Type} {c : Composition} {x : Compose α} {y : Except Template.Error β}
  {P : α → β → Composition → Prop}

theorem imp {Q : α → β → Composition → Prop} (h : Tracks c x y P)
    (himp : ∀ a b c', P a b c' → Q a b c') : Tracks c x y Q := by
  cases y with
  | error e => exact h
  | ok b =>
    obtain ⟨a, c', hx, hP⟩ := h
    exact ⟨a, c', hx, himp a b c' hP⟩

theorem ok {a : α} {b : β} (h : P a b c) : Tracks c (pure a : Compose α) (.ok b) P :=
  ⟨a, c, rfl, h⟩

theorem bind {g : α → Compose α'} {k : β → Except Template.Error β'}
    {Q : α' → β' → Composition → Prop} (h : Tracks c x y P)
    (hg : ∀ a b c', P a b c' → Tracks c' (g a) (k b) Q) : Tracks c (x >>= g) (y >>= k) Q := by
  cases y with
  | error e =>
    obtain ⟨c', hx⟩ := h
    exact ⟨c', Compose.bind_error g hx⟩
  | ok b =>
    obtain ⟨a, c', hx, hP⟩ := h
    have hrest := hg a b c' hP
    show Tracks c (x >>= g) (k b) Q
    unfold Tracks at hrest ⊢
    rw [Compose.bind_ok g hx]
    exact hrest

/-- A step of the composition alone. -/
theorem before {g : α → Compose α'} {Q : α' → β → Composition → Prop} {a : α} {c' : Composition}
    (hx : x c = (.ok a, c')) (h : Tracks c' (g a) y Q) : Tracks c (x >>= g) y Q :=
  bind (y := .ok ()) (P := fun a' _ c'' => a' = a ∧ c'' = c') ⟨a, c', hx, rfl, rfl⟩
    fun _ _ _ hP => by rw [hP.1, hP.2]; exact h

/-- A change of the result alone. -/
theorem after {f : α → α'} {Q : α' → β → Composition → Prop}
    (h : Tracks c x y fun a b c' => Q (f a) b c') :
    Tracks c (x >>= fun a => pure (f a)) y Q := by
  have hb := bind (k := Except.ok) h fun a b c' hQ => ok hQ
  cases y <;> exact hb

/-- A change of the result of the walk alone. -/
theorem map {f : β → β'} {Q : α → β' → Composition → Prop}
    (h : Tracks c x y fun a b c' => Q a (f b) c') : Tracks c x (y >>= fun b => pure (f b)) Q := by
  cases y with
  | error e => exact h
  | ok b => exact h

theorem discard {Q : β → Composition → Prop} (h : Tracks c x y fun _ b c' => Q b c') :
    Tracks c (discard x) y fun _ b c' => Q b c' := by
  rw [Compose.discard_eq]
  exact after h

theorem captured {P : String → β → Composition → Prop}
    (h : Tracks c.push x y fun _ b c' => P c'.pop.1 b c'.pop.2) :
    Tracks c (Compose.captured x) y P := by
  cases y with
  | error e =>
    obtain ⟨c', hx⟩ := h
    exact ⟨c'.pop.2, by rw [Compose.captured, hx]; rfl⟩
  | ok b =>
    obtain ⟨a, c', hx, hP⟩ := h
    exact ⟨c'.pop.1, c'.pop.2, by rw [Compose.captured, hx]; rfl, hP⟩

theorem withVariable {name : Option String} {number : Nat} {v : Value}
    (h : Tracks (c.withVariable name number v) x y fun a b c' =>
      P a b (c'.withoutVariable name c)) : Tracks c (Compose.withVariable name number v x) y P := by
  cases name with
  | none => exact h
  | some n =>
    have hwith : Compose.withVariable (some n) number v x c =
        ((x (c.withVariable (some n) number v)).1,
          (x (c.withVariable (some n) number v)).2.withoutVariable (some n) c) := rfl
    cases y with
    | error e =>
      obtain ⟨c', hx⟩ := h
      exact ⟨c'.withoutVariable (some n) c, by rw [hwith, hx]⟩
    | ok b =>
      obtain ⟨a, c', hx, hP⟩ := h
      exact ⟨a, c'.withoutVariable (some n) c, by rw [hwith, hx], hP⟩

/-- Expressions see the names of the scope. -/
theorem evaluate {γ : Type} (source : String) {f : Bindings → Except Expression.Error γ}
    {b : Bindings} (hb : c.bindings = b) :
    Tracks c (Compose.evaluate source f) ((f b).mapError (.expression source))
      fun a a' c' => a = a' ∧ c' = c := by
  subst hb
  unfold Tracks
  rw [Compose.evaluate_eq]
  cases f c.bindings with
  | error e => exact ⟨_, rfl⟩
  | ok a => exact ⟨_, _, rfl, rfl, rfl⟩

end Tracks

end MappedSql
