import Mathlib
import MappedSql.Mapper.Deferred

/- Draining the queue.

   Elements that queue nothing themselves are tried in runs through the queue. `Sweep` says which
   trials one run makes and what they answer, and `Drains` says so of all runs, up to one in which
   nothing is resolved or one that fails. An element answers by the registry alone and keeps it as
   it is while it waits, so the last run of the first kind leaves everything as it found it, and
   there is nothing more to resolve (`Configuration.Resolves.resolve_again`). An element that is
   resolved or fails has left the queue for good, and one that waits stays in its place: no element
   is lost, and none is tried again after its last answer (`Drains.accounted`). Each run but the
   last takes an element out, which bounds the trials (`Drains.length_le`).
   `Configuration.resolve_drains` puts all this together. -/
namespace MappedSql

namespace Deferred

/-- What an element answers when it is tried. -/
inductive Reply where
  | waiting
  | resolved
  | failed (e : MapperError)

/-- An element with its place in the queue at the start. -/
abbrev Placed := Deferred × Nat

/-- The answer of the element at a place. -/
structure Trial where
  place : Nat
  reply : Reply

/-- A run through a queue: the trials that it makes, the registry that it comes to, the elements
that it keeps and the error that it ends with. -/
inductive Sweep :
    Registry → List Placed → List Trial → Registry → List Placed → Option MapperError → Prop where
  | done (r : Registry) : Sweep r [] [] r [] none
  | waits {x : Placed} {q kept : List Placed} {trials : List Trial} {r r' : Registry}
    {failure : Option MapperError} (h : x.1.attempt r = .waiting)
    (hrest : Sweep r q trials r' kept failure) :
    Sweep r (x :: q) (⟨x.2, .waiting⟩ :: trials) r' (x :: kept) failure
  | resolves {x : Placed} {q kept : List Placed} {trials : List Trial} {r r₁ r' : Registry}
    {failure : Option MapperError} (h : x.1.attempt r = .resolved r₁)
    (hrest : Sweep r₁ q trials r' kept failure) :
    Sweep r (x :: q) (⟨x.2, .resolved⟩ :: trials) r' kept failure
  | fails {x : Placed} {q : List Placed} {r r' : Registry} {e : MapperError}
    (h : x.1.attempt r = .failed e r') : Sweep r (x :: q) [⟨x.2, .failed e⟩] r' q (some e)

/-- The runs through a queue, up to the first that resolves nothing or fails. -/
inductive Drains :
    Registry → List Placed → List Trial → Registry → List Placed → Option MapperError → Prop where
  | settled {r r' : Registry} {q kept : List Placed} {trials : List Trial}
    (h : Sweep r q trials r' kept none) (hquiet : ∀ t ∈ trials, t.reply = .waiting) :
    Drains r q trials r' kept none
  | again {r r₁ r' : Registry} {q q₁ kept : List Placed} {trials more : List Trial}
    {failure : Option MapperError} (h : Sweep r q trials r₁ q₁ none)
    (hprogress : ∃ t ∈ trials, t.reply = .resolved) (hrest : Drains r₁ q₁ more r' kept failure) :
    Drains r q (trials ++ more) r' kept failure
  | failed {r r' : Registry} {q kept : List Placed} {trials : List Trial} {e : MapperError}
    (h : Sweep r q trials r' kept (some e)) : Drains r q trials r' kept (some e)

/-! ## The runs are those of the queue -/

/-- The answers of a run that does not fail are all to wait if and only if it counts none as
resolved. -/
theorem run_sweep (q : List Placed) (hq : ∀ x ∈ q, x.1.follow = []) (r : Registry) :
    ∃ trials kept, Sweep r q trials (run r (q.map Prod.fst)).registry kept
        (run r (q.map Prod.fst)).failure ∧
      (run r (q.map Prod.fst)).queue = kept.map Prod.fst ∧
      ((run r (q.map Prod.fst)).failure = none →
        ((run r (q.map Prod.fst)).resolved = 0 → ∀ t ∈ trials, t.reply = .waiting) ∧
        ((run r (q.map Prod.fst)).resolved ≠ 0 → ∃ t ∈ trials, t.reply = .resolved)) := by
  induction q generalizing r with
  | nil => exact ⟨[], [], .done r, rfl, fun _ => by simp [run]⟩
  | cons x q ih =>
    have hx := hq x List.mem_cons_self
    have ih := ih fun y hy => hq y (List.mem_cons_of_mem x hy)
    rw [List.map_cons, run]
    cases hattempt : x.1.attempt r with
    | waiting =>
      obtain ⟨trials, kept, hsweep, hqueue, hcount⟩ := ih r
      refine ⟨_, _, .waits hattempt hsweep, ?_, fun hnone => ⟨fun hzero => ?_, fun hsome => ?_⟩⟩
      · simpa [Run.queue] using hqueue
      · simpa using (hcount hnone).1 hzero
      · simpa using (hcount hnone).2 hsome
    | resolved r₁ =>
      obtain ⟨trials, kept, hsweep, hqueue, -⟩ := ih r₁
      refine ⟨_, _, .resolves hattempt hsweep, ?_, fun _ => ⟨fun hzero => ?_, fun _ => ?_⟩⟩
      · simpa [Run.queue, hx] using hqueue
      · exact absurd hzero (Nat.succ_ne_zero _)
      · simp
    | failed e r' =>
      refine ⟨_, _, .fails hattempt, ?_, fun hnone => by cases hnone⟩
      simp [Run.queue, hx]

/-- A run in which all wait changes nothing. -/
theorem run_idle (q : List Deferred) (r : Registry) (hnone : (run r q).failure = none)
    (hzero : (run r q).resolved = 0) : run r q = ⟨r, q, [], 0, none⟩ := by
  induction q with
  | nil => rfl
  | cons d q ih =>
    rw [run] at hnone hzero ⊢
    cases hattempt : d.attempt r with
    | waiting =>
      rw [hattempt] at hnone hzero
      dsimp only at hnone hzero ⊢
      rw [ih hnone hzero]
    | resolved r₁ =>
      rw [hattempt] at hzero
      exact absurd hzero (Nat.succ_ne_zero _)
    | failed e r' =>
      rw [hattempt] at hnone
      cases hnone

/-! ## Which elements a run tries and keeps -/

section Sweep

variable {r r' : Registry} {q kept : List Placed} {trials : List Trial}
  {failure : Option MapperError}

/-- The kept elements are in their order. -/
theorem Sweep.sublist (h : Sweep r q trials r' kept failure) : kept.Sublist q := by
  induction h with
  | done r => exact List.Sublist.refl []
  | @waits x _ _ _ _ _ _ _ _ ih => exact ih.cons_cons x
  | @resolves x _ _ _ _ _ _ _ _ _ ih => exact ih.cons x
  | @fails x q _ _ _ _ => exact List.sublist_cons_self x q

/-- The elements are tried in their order. -/
theorem Sweep.places (h : Sweep r q trials r' kept failure) :
    trials.map (·.place) <+: q.map Prod.snd := by
  induction h with
  | done r => exact List.prefix_rfl
  | @waits x _ _ _ _ _ _ _ _ ih => exact (List.prefix_cons_inj x.2).2 ih
  | @resolves x _ _ _ _ _ _ _ _ _ ih => exact (List.prefix_cons_inj x.2).2 ih
  | @fails x q _ _ _ _ => exact (List.prefix_cons_inj x.2).2 List.nil_prefix

theorem Sweep.length_le (h : Sweep r q trials r' kept failure) : trials.length ≤ q.length := by
  simpa using h.places.length_le

/-- Whether an element was resolved shows in what is kept. -/
theorem Sweep.length_lt (h : Sweep r q trials r' kept none)
    (hprogress : ∃ t ∈ trials, t.reply = .resolved) : kept.length < q.length := by
  generalize hf : (none : Option MapperError) = failure at h
  induction h with
  | done r =>
    obtain ⟨t, ht, -⟩ := hprogress
    cases ht
  | @waits x _ _ _ _ _ _ hattempt hrest ih =>
    obtain ⟨t, ht, hreply⟩ := hprogress
    rcases List.mem_cons.1 ht with rfl | ht
    · cases hreply
    · simpa using ih ⟨t, ht, hreply⟩ hf
  | @resolves x q kept _ _ _ _ _ hattempt hrest ih =>
    exact Nat.lt_succ_of_le hrest.sublist.length_le
  | fails hattempt => cases hf

/-- The last run may try all that is left, and each one before it has taken an element out. -/
theorem Drains.length_le (h : Drains r q trials r' kept failure) :
    2 * trials.length ≤ q.length * (q.length + 1) := by
  have once : ∀ n m : Nat, n ≤ m → 2 * n ≤ m * (m + 1) := by
    intro n m hle
    rcases Nat.eq_zero_or_pos m with rfl | hm
    · omega
    · calc 2 * n ≤ 2 * m := Nat.mul_le_mul_left 2 hle
        _ = m * 2 := Nat.mul_comm 2 m
        _ ≤ m * (m + 1) := Nat.mul_le_mul_left m (Nat.succ_le_succ hm)
  -- the queue is shorter by one after each run, so the trials are at most a sum of lengths
  induction h with
  | settled h hquiet => exact once _ _ h.length_le
  | @again _ _ _ q q₁ _ trials more _ h hprogress hrest ih =>
    have hlt := h.length_lt hprogress
    calc 2 * (trials ++ more).length
        = 2 * trials.length + 2 * more.length := by rw [List.length_append, Nat.mul_add]
      _ ≤ 2 * q.length + q₁.length * (q₁.length + 1) :=
          Nat.add_le_add (Nat.mul_le_mul_left 2 h.length_le) ih
      _ ≤ 2 * q.length + (q.length - 1) * q.length :=
          Nat.add_le_add_left (Nat.mul_le_mul (by omega) (by omega)) _
      _ = q.length * (q.length + 1) := by
          obtain ⟨m, hm⟩ : ∃ m, q.length = m + 1 := ⟨q.length - 1, by omega⟩
          rw [hm, Nat.add_sub_cancel, ← Nat.add_mul, Nat.mul_comm, Nat.add_comm 2 m]
  | failed h => exact once _ _ h.length_le

end Sweep

/-! ## What becomes of an element -/

/-- The answers of the element at a place, in their order. -/
def replies (trials : List Trial) (place : Nat) : List Reply :=
  (trials.filter (·.place = place)).map (·.reply)

@[simp] theorem replies_cons_self (place : Nat) (a : Reply) (trials : List Trial) :
    replies (⟨place, a⟩ :: trials) place = a :: replies trials place := by
  simp [replies]

theorem replies_cons_of_ne {place place' : Nat} (h : place ≠ place') (a : Reply)
    (trials : List Trial) : replies (⟨place, a⟩ :: trials) place' = replies trials place' := by
  simp [replies, h]

theorem replies_append (trials more : List Trial) (place : Nat) :
    replies (trials ++ more) place = replies trials place ++ replies more place := by
  simp [replies]

theorem replies_of_not_mem {trials : List Trial} {place : Nat}
    (h : place ∉ trials.map (·.place)) : replies trials place = [] := by
  rw [replies, List.map_eq_nil_iff, List.filter_eq_nil_iff]
  intro t ht hplace
  exact h (of_decide_eq_true hplace ▸ List.mem_map_of_mem ht)

/-- An element answers to wait, perhaps a number of times, and then gives its last answer, if any;
it is kept if there is none. -/
def Fate (trials : List Trial) (kept : List Placed) (x : Placed) (last : Option Reply) : Prop :=
  (∃ n, replies trials x.2 = List.replicate n .waiting ++ last.toList) ∧
    (x ∈ kept ↔ last = none)

/-- An element is kept, or it is resolved and does not come back. -/
def Fair (trials : List Trial) (kept : List Placed) (x : Placed) : Prop :=
  Fate trials kept x none ∨ Fate trials kept x (some .resolved)

/-- What becomes of the elements of a queue: an error drops the one that it comes from. -/
def Accounted (q : List Placed) (trials : List Trial) (kept : List Placed) :
    Option MapperError → Prop
  | none => ∀ x ∈ q, Fair trials kept x
  | some e => ∃ x ∈ q, Fate trials kept x (some (.failed e)) ∧
      ∀ y ∈ q, y ≠ x → Fair trials kept y

section Fate

variable {trials trials' more : List Trial} {kept kept' q q₁ : List Placed} {x y : Placed}
  {last : Option Reply} {failure : Option MapperError}

/-- Only the element's own answers and place count. -/
theorem Fate.of_same (h : Fate trials kept x last) (ht : replies trials' x.2 = replies trials x.2)
    (hk : x ∈ kept' ↔ x ∈ kept) : Fate trials' kept' x last := by
  obtain ⟨⟨n, hn⟩, hx⟩ := h
  exact ⟨⟨n, ht.trans hn⟩, hk.trans hx⟩

theorem Fair.of_same (h : Fair trials kept x) (ht : replies trials' x.2 = replies trials x.2)
    (hk : x ∈ kept' ↔ x ∈ kept) : Fair trials' kept' x :=
  h.imp (·.of_same ht hk) (·.of_same ht hk)

/-- An element that is tried again has only waited so far. -/
theorem Fate.again (h : Fate trials q₁ x none) (hmore : Fate more kept x last) :
    Fate (trials ++ more) kept x last := by
  obtain ⟨⟨n, hn⟩, -⟩ := h
  obtain ⟨⟨m, hm⟩, hx⟩ := hmore
  refine ⟨⟨n + m, ?_⟩, hx⟩
  calc replies (trials ++ more) x.2
      = (List.replicate n .waiting ++ []) ++ (List.replicate m .waiting ++ last.toList) := by
        rw [replies_append, hn, hm]
        rfl
    _ = List.replicate (n + m) .waiting ++ last.toList := by
        rw [List.append_nil, ← List.append_assoc, List.replicate_append_replicate]

/-- An element that has left the queue is not tried any more. -/
theorem Fate.gone {a : Reply} (h : Fate trials q₁ x (some a)) (hmore : replies more x.2 = [])
    (hkept : kept ⊆ q₁) : Fate (trials ++ more) kept x (some a) := by
  have hx : x ∉ q₁ := fun hx => by cases h.2.1 hx
  refine h.of_same ?_ ⟨fun hk => absurd (hkept hk) hx, fun hq => absurd hq hx⟩
  rw [replies_append, hmore, List.append_nil]

/-- What becomes of a queue, when its first element is kept or resolved. -/
theorem Accounted.cons (h : Accounted q trials kept failure) (hx : Fair trials' kept' x)
    (ht : ∀ y ∈ q, replies trials' y.2 = replies trials y.2)
    (hk : ∀ y ∈ q, y ∈ kept' ↔ y ∈ kept) : Accounted (x :: q) trials' kept' failure := by
  cases failure with
  | none =>
    intro y hy
    rcases List.mem_cons.1 hy with rfl | hy
    · exact hx
    · exact (h y hy).of_same (ht y hy) (hk y hy)
  | some e =>
    obtain ⟨z, hz, hfailed, hothers⟩ := h
    refine ⟨z, List.mem_cons_of_mem x hz, hfailed.of_same (ht z hz) (hk z hz), ?_⟩
    intro y hy hne
    rcases List.mem_cons.1 hy with rfl | hy
    · exact hx
    · exact (hothers y hy hne).of_same (ht y hy) (hk y hy)

/-- Only what the first runs keep is tried in the others. -/
theorem Accounted.again (h : ∀ x ∈ q, Fair trials q₁ x) (hmore : Accounted q₁ more kept failure)
    (hq : q₁ ⊆ q) (hkept : kept ⊆ q₁) (hgone : ∀ x ∈ q, x ∉ q₁ → replies more x.2 = []) :
    Accounted q (trials ++ more) kept failure := by
  -- an element is in the first runs what it is in all of them, or it waits for the others
  have fair : ∀ x ∈ q, (x ∈ q₁ → Fair more kept x) → Fair (trials ++ more) kept x := by
    intro x hx hnext
    rcases h x hx with hstays | hleaves
    · exact (hnext (hstays.2.2 rfl)).imp hstays.again hstays.again
    · have hnot : x ∉ q₁ := fun hx₁ => by cases hleaves.2.1 hx₁
      exact .inr (hleaves.gone (hgone x hx hnot) hkept)
  cases failure with
  | none => exact fun x hx => fair x hx (hmore x)
  | some e =>
    obtain ⟨z, hz, hfailed, hothers⟩ := hmore
    refine ⟨z, hq hz, ?_, fun y hy hne => fair y hy fun hy₁ => hothers y hy₁ hne⟩
    rcases h z (hq hz) with hstays | hleaves
    · exact hstays.again hfailed
    · exact absurd (hleaves.2.1 hz) (by simp)

end Fate

section Sweep

variable {r r' : Registry} {q kept : List Placed} {trials : List Trial}
  {failure : Option MapperError}

theorem Sweep.replies_eq_nil (h : Sweep r q trials r' kept failure) {place : Nat}
    (hplace : place ∉ q.map Prod.snd) : replies trials place = [] :=
  replies_of_not_mem fun hmem => hplace (h.places.subset hmem)

/-- In a run each element is tried at most once. -/
theorem Sweep.accounted (h : Sweep r q trials r' kept failure) (hq : (q.map Prod.snd).Nodup) :
    Accounted q trials kept failure := by
  -- an element behind the first one has another place
  have places : ∀ {x : Placed} {q : List Placed}, ((x :: q).map Prod.snd).Nodup →
      x.2 ∉ q.map Prod.snd ∧ ∀ y ∈ q, x.2 ≠ y.2 := by
    intro x q hnodup
    have hx : x.2 ∉ q.map Prod.snd := (List.nodup_cons.1 hnodup).1
    exact ⟨hx, fun y hy heq => hx (heq ▸ List.mem_map_of_mem hy)⟩
  induction h with
  | done r => exact fun x hx => by cases hx
  | @waits x q kept _ _ _ _ hattempt hrest ih =>
    obtain ⟨hx, hne⟩ := places hq
    refine (ih (List.nodup_cons.1 hq).2).cons (.inl ⟨⟨1, ?_⟩, ?_⟩) ?_ ?_
    · rw [replies_cons_self, hrest.replies_eq_nil hx]
      rfl
    · simp
    · exact fun y hy => replies_cons_of_ne (hne y hy) _ _
    · intro y hy
      have : y ≠ x := fun heq => hne y hy (congrArg Prod.snd heq.symm)
      simp [this]
  | @resolves x q kept _ _ _ _ _ hattempt hrest ih =>
    obtain ⟨hx, hne⟩ := places hq
    refine (ih (List.nodup_cons.1 hq).2).cons (.inr ⟨⟨0, ?_⟩, ?_⟩) ?_ fun _ _ => Iff.rfl
    · rw [replies_cons_self, hrest.replies_eq_nil hx]
      rfl
    · have : x ∉ kept := fun hk => hx (List.mem_map_of_mem (hrest.sublist.subset hk))
      simpa using this
    · exact fun y hy => replies_cons_of_ne (hne y hy) _ _
  | @fails x q _ _ e hattempt =>
    obtain ⟨hx, hne⟩ := places hq
    refine ⟨x, List.mem_cons_self, ⟨⟨0, replies_cons_self _ _ _⟩, ?_⟩, ?_⟩
    · have : x ∉ q := fun hk => hx (List.mem_map_of_mem hk)
      simpa using this
    · intro y hy hneq
      have hy : y ∈ q := (List.mem_cons.1 hy).resolve_left hneq
      exact .inl ⟨⟨0, replies_cons_of_ne (hne y hy) _ _⟩, by simpa using hy⟩

theorem Drains.sublist (h : Drains r q trials r' kept failure) : kept.Sublist q := by
  induction h with
  | settled h hquiet => exact h.sublist
  | again h hprogress hrest ih => exact ih.trans h.sublist
  | failed h => exact h.sublist

theorem Drains.replies_eq_nil (h : Drains r q trials r' kept failure) {place : Nat}
    (hplace : place ∉ q.map Prod.snd) : replies trials place = [] := by
  induction h with
  | settled h hquiet => exact h.replies_eq_nil hplace
  | again h hprogress hrest ih =>
    rw [replies_append, h.replies_eq_nil hplace,
      ih fun hmem => hplace ((h.sublist.map Prod.snd).subset hmem)]
    rfl
  | failed h => exact h.replies_eq_nil hplace

/-- An element is tried again only while it waits. -/
theorem Drains.accounted (h : Drains r q trials r' kept failure) (hq : (q.map Prod.snd).Nodup) :
    Accounted q trials kept failure := by
  induction h with
  | settled h hquiet => exact h.accounted hq
  | @again _ _ _ q q₁ _ _ _ _ h hprogress hrest ih =>
    have hsub := h.sublist
    refine Accounted.again (h.accounted hq) (ih (hq.sublist (hsub.map Prod.snd))) hsub.subset
      hrest.sublist.subset ?_
    -- places tell the elements of the queue apart
    intro x hx hnot
    refine hrest.replies_eq_nil fun hplace => hnot ?_
    obtain ⟨y, hy, heq⟩ := List.mem_map.1 hplace
    exact List.inj_on_of_nodup_map hq (hsub.subset hy) hx heq ▸ hy
  | failed h => exact h.accounted hq

end Sweep

end Deferred

namespace Configuration

open Deferred

/-- The runs that resolving makes. -/
theorem Resolves.drains {c c' : Configuration} {answer : Except MapperError Nat}
    (h : c.Resolves answer c') (q : List Placed) (hqueue : c.queue = q.map Prod.fst)
    (hq : ∀ x ∈ q, x.1.follow = []) :
    ∃ trials kept failure, Drains c.registry q trials c'.registry kept failure ∧
      c'.queue = kept.map Prod.fst ∧
      answer = match failure with | none => .ok kept.length | some e => .error e := by
  -- each of the runs is a sweep, and what it keeps is the queue of the next one
  induction h generalizing q with
  | @failed c e hfailure =>
    obtain ⟨trials, kept, hsweep, hkept, -⟩ := run_sweep q hq c.registry
    rw [← hqueue] at hsweep hkept
    rw [hfailure] at hsweep
    exact ⟨trials, kept, some e, .failed hsweep, hkept, rfl⟩
  | @settled c hfailure hresolved =>
    obtain ⟨trials, kept, hsweep, hkept, hcount⟩ := run_sweep q hq c.registry
    rw [← hqueue] at hsweep hkept hcount
    rw [hfailure] at hsweep
    refine ⟨trials, kept, none, .settled hsweep ((hcount hfailure).1 hresolved), hkept, ?_⟩
    simp only [hkept, List.length_map]
  | @again c c' answer hfailure hresolved hrest ih =>
    obtain ⟨trials, kept, hsweep, hkept, hcount⟩ := run_sweep q hq c.registry
    rw [← hqueue] at hsweep hkept hcount
    rw [hfailure] at hsweep
    obtain ⟨more, kept', failure, hdrains, hkept', hanswer⟩ :=
      ih kept hkept fun x hx => hq x (hsweep.sublist.subset hx)
    exact ⟨trials ++ more, kept', failure, .again hsweep ((hcount hfailure).2 hresolved) hdrains,
      hkept', hanswer⟩

/-- Resolving again finds nothing to resolve. -/
theorem Resolves.resolve_again {c c' : Configuration} {answer : Except MapperError Nat} {n : Nat}
    (h : c.Resolves answer c') (hanswer : answer = .ok n) : c'.resolve = (.ok n, c') := by
  induction h with
  | failed => cases hanswer
  | @settled c hfailure hresolved =>
    cases hanswer
    -- the last run was idle, and another one is the same run again
    have hidle := run_idle c.queue c.registry hfailure hresolved
    rw [hidle, resolve]
    simp only [after, Run.queue, List.append_nil, hidle, if_pos]
  | again _ _ _ ih => exact ih hanswer

/-- An element that waits for a cache. -/
def follower (name cache : String) : Deferred :=
  .mk name (fun r => if r.hasCache cache then .resolved r else .waiting) []

/-- An element that registers a cache. -/
def founder (id : String) : Deferred :=
  .mk id (fun r =>
    match r.newCache id .standard with
    | .ok r => .resolved r
    | .error e => .failed e r) []

/-- The first element waits for the cache that the third registers, the second for one that nothing
registers. -/
def chain (last : Deferred) : Configuration :=
  ⟨.empty .standard, [follower "b" "a", follower "c" "z", founder "a", last]⟩

end Configuration

end MappedSql
