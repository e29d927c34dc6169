import MappedSql.Proofs.Cache.Unbounded
import MappedSql.Proofs.Session.Steps

/- The requests of one session, and what they leave waiting.

   A request of a session either empties what waits with it, by making the writes or by
   dropping them (`Caching.Emptied`), or lets it go on, with a clear for the cache that it
   flushes and the result that it has obtained (`Caching.Waits`). So what waits at a step
   is told by what has happened since something else last did (`Since`), which is the one
   induction that every run of sessions needs (`Tracked`). Nothing is asked of the caches:
   those that evict or lose entries when they are looked into only have fewer afterwards. -/
namespace MappedSql

open Cache (Entries Key Pending)

/-- What is read of a cache through a transaction it had before. -/
theorem Cache.Pending.entries_get (p : Pending) (c : Cache) (k : Key) :
    (p.get c k).2.entries ⊆ c.entries := by
  rw [Pending.get]
  split
  · exact List.Subset.refl _
  · exact Cache.entries_get k c

namespace Shelf

/-- The shelf after a lookup: no entry is new, and none is lost if the caches keep all that is
put. -/
structure Read (s' s : Shelf) : Prop where
  under : s'.Under s
  same : (∀ c ∈ s, c.Unbounded) → s'.Same s

theorem Read.frames {s s' : Shelf} (h : s'.Read s) : s'.frames = s.frames := h.under.frames

theorem read_refl (s : Shelf) : s.Read s := ⟨under_refl s, fun _ => same_refl s⟩

theorem read_get {s : Shelf} {i : Nat} {c : Cache} (hc : s[i]? = some c) (p : Pending) (k : Key) :
    Read (s.set i (p.get c k).2) s := by
  refine ⟨under_set hc (Pending.frame_get p c k) (p.entries_get c k), fun hu => ?_⟩
  refine same_set hc (Pending.frame_get p c k) ?_
  rw [Pending.get]
  split
  · rfl
  · exact ((hu c (List.mem_of_getElem? hc)).get k).2

end Shelf

/-- Whether a request has a session clear the cache of this id. A query that cannot be bound does
not get that far. -/
def Request.Flushes (id : String) : Request → Prop
  | .query m parameter rows => m.flushes = true ∧ m.cache = some id ∧
    ∃ b k, m.bind parameter = .ok b ∧ m.key b rows = .ok k
  | .update m _ => m.flushes = true ∧ m.cache = some id
  | _ => False

/-! ## One request -/

namespace Caching

variable {σ : Type} {s : Caching σ} {e : Executor σ}

/-- Whether a query comes to the session below: what that one would say makes a difference. -/
def Asks (m : MappedStatement) (parameter : Value) (rows : RowBounds) (k : Key)
    (b : BoundStatement) (s : Caching σ) : Prop :=
  ∃ e e' : Executor σ, (query e m parameter rows k b s).1 ≠ (query e' m parameter rows k b s).1

/-- The session below gives the result of a query, which is to go to the cache of this id. -/
def Obtains (e : Executor σ) (r : Request) (id : String) (s : Caching σ) (k : Key) (v : Value) :
    Prop :=
  ∃ m parameter rows b, r = .query m parameter rows ∧ m.CachedIn id ∧ m.bind parameter = .ok b ∧
    m.key b rows = .ok k ∧ s.Asks m parameter rows k b ∧
    (e.query m parameter rows k b s.inner).1 = .ok v

/-- Whether nothing waits after a request. -/
def Empties (e : Executor σ) (r : Request) (s : Caching σ) : Prop :=
  match r with
  | .commit required => (e.commit required s.inner).1 = .ok ()
  | .rollback required => required = true
  | .close _ => True
  | _ => False

/-- Whether the waiting writes are made at a request. -/
def Publishes (e : Executor σ) (autoCommit : Bool) (r : Request) (s : Caching σ) : Prop :=
  match r with
  | .commit required => (e.commit required s.inner).1 = .ok ()
  | .close _ => ¬ (s.dirty = true ∧ autoCommit = false)
  | _ => False

theorem Obtains.unique {r : Request} {id : String} {k l : Key} {v w : Value}
    (h : Obtains e r id s k v) (h' : Obtains e r id s l w) : k = l ∧ v = w := by
  obtain ⟨m, parameter, rows, b, rfl, -, hb, hk, -, hv⟩ := h
  obtain ⟨m', parameter', rows', b', heq, -, hb', hl, -, hw⟩ := h'
  cases heq
  rw [hb] at hb'
  cases hb'
  rw [hk] at hl
  cases hl
  rw [hv] at hw
  exact ⟨rfl, Except.ok.inj hw⟩

/-- What a request leaves waiting for a cache that does not empty it: the clear alone if it
flushes the cache, else what was waiting, and with it the result that it has obtained. -/
def Leaves (e : Executor σ) (r : Request) (id : String) (s s' : Caching σ) : Prop :=
  ∃ p : Pending,
    (r.Flushes id ∧ p = ⟨true, []⟩ ∨ ¬ r.Flushes id ∧ p = s.transaction.pendingOf id) ∧
    ((∃ k v, Obtains e r id s k v ∧ s'.transaction.pendingOf id = p.put k v) ∨
      (∀ k v, ¬ Obtains e r id s k v) ∧ s'.transaction.pendingOf id = p)

/-- The ways a query can go. Which one it goes does not depend on the session below. -/
inductive Course (m : MappedStatement) (parameter : Value) (rows : RowBounds) (k : Key)
    (b : BoundStatement) (s : Caching σ) : Prop where
  /-- The statement has no cache, or its results are not cached. -/
  | past (h : s.slot? m = none ∨ m.usesCache = false)
      (hq : ∀ e : Executor σ, query e m parameter rows k b s =
        (s.flush m).within (e.query m parameter rows k b))
  /-- The session answers without the one below. -/
  | alone (answer : Except MapperError Value) (shelf : Shelf) (hs : shelf.Read s.shelf)
      (hq : ∀ e : Executor σ, query e m parameter rows k b s = (answer, { s.flush m with shelf }))
  /-- The session below has the result, which is kept. -/
  | below (slot : Nat) (shelf : Shelf) (hs : s.slot? m = some slot) (hu : m.usesCache = true)
      (hshelf : shelf.Read s.shelf)
      (hq : ∀ e : Executor σ, query e m parameter rows k b s =
        Caching.fetch { s.flush m with shelf } slot k (e.query m parameter rows k b))

/-- A clean session goes by what the cache has for a query. -/
theorem query_clean {m : MappedStatement} {b : BoundStatement} {slot : Nat}
    (hs : s.slot? m = some slot) (hu : m.usesCache = true)
    (ho : ¬ b.mappings.any (!·.isInputOnly) = true) (hd : ¬ (s.flush m).dirty = true)
    (parameter : Value) (rows : RowBounds) (k : Key) (e : Executor σ) :
    query e m parameter rows k b s =
      match (s.flush m).transaction.get (s.flush m).shelf slot k with
      | (.error err, shelf) => (.error (.cache err), { s.flush m with shelf })
      | (.ok (some v), shelf) => (.ok v, { s.flush m with shelf })
      | (.ok none, shelf) =>
        Caching.fetch { s.flush m with shelf } slot k (e.query m parameter rows k b) := by
  simp only [query, hs, hu, ho, Bool.not_true, Bool.false_eq_true, if_false]
  rw [if_neg hd]
  rcases (s.flush m).transaction.get (s.flush m).shelf slot k with ⟨_ | _ | _, shelf⟩ <;> rfl

theorem course (h : s.transaction.Aligned s.shelf)
    (m : MappedStatement) (parameter : Value) (rows : RowBounds) (k : Key) (b : BoundStatement) :
    Course m parameter rows k b s := by
  have hflush : (s.flush m).shelf.Read s.shelf := shelf_flush s m ▸ Shelf.read_refl _
  cases hs : s.slot? m with
  | none =>
    refine .past (.inl hs) fun e => ?_
    rw [query, hs, flush, hs]
  | some slot =>
    by_cases hu : m.usesCache = true
    · by_cases ho : b.mappings.any (!·.isInputOnly) = true
      · refine .alone (.error (.outParameters m.id)) _ hflush fun e => ?_
        simp only [query, hs, hu, ho, Bool.not_true, Bool.false_eq_true, if_false, if_true]
      · by_cases hd : (s.flush m).dirty = true
        · refine .below slot _ hs hu hflush fun e => ?_
          simp only [query, hs, hu, ho, Bool.not_true, Bool.false_eq_true, if_false]
          rw [if_pos hd]
        · -- a clean session looks for the result first
          obtain ⟨id, -, hi⟩ := slot?_eq_some.1 hs
          obtain ⟨c, hc, rfl⟩ := Shelf.slot?_some hi
          have hread := Shelf.read_get hc ((s.flush m).transaction.pendingOf c.id) k
          rcases hg : ((s.flush m).transaction.pendingOf c.id).get c k with ⟨r, d⟩
          have hget : (s.flush m).transaction.get (s.flush m).shelf slot k =
              (r, s.shelf.set slot d) := by
            rw [shelf_flush, Transaction.get_slot (aligned_flush h m) hi hc, hg]
          rw [hg] at hread
          have hquery := query_clean hs hu ho hd parameter rows k
          rw [hget] at hquery
          rcases r with err | - | v
          · exact .alone (.error (.cache err)) _ hread hquery
          · exact .below slot _ hs hu hread hquery
          · exact .alone (.ok v) _ hread hquery
    · refine .past (.inr (Bool.not_eq_true _ ▸ hu)) fun e => ?_
      simp [query, hs, hu]

/-- The session below of a query that comes to it decides about the answer. -/
theorem asks_of_fetch {m : MappedStatement} {parameter : Value} {rows : RowBounds} {k : Key}
    {b : BoundStatement} {t : Caching σ} {slot : Nat}
    (hq : ∀ e : Executor σ, query e m parameter rows k b s =
      t.fetch slot k (e.query m parameter rows k b)) (e : Executor σ) :
    s.Asks m parameter rows k b := by
  refine ⟨{ e with query := fun _ _ _ _ _ u => (.ok .null, u) },
    { e with query := fun _ _ _ _ _ u => (.error (.unsupported .isCached), u) }, ?_⟩
  rw [hq, hq]
  intro h
  cases h

/-- A flush leaves the clear alone waiting for the cache of the statement. -/
theorem pendingOf_flushed {m : MappedStatement} {id : String}
    (hid : (s.shelf.slot? id).isSome = true) :
    (m.flushes = true ∧ m.cache = some id) ∧
        (s.flush m).transaction.pendingOf id = ⟨true, []⟩ ∨
      ¬ (m.flushes = true ∧ m.cache = some id) ∧
        (s.flush m).transaction.pendingOf id = s.transaction.pendingOf id := by
  rcases s.pendingOf_flush m id with ⟨⟨hf, hc, -⟩, hp⟩ | ⟨hn, hp⟩
  · exact .inl ⟨⟨hf, hc⟩, hp⟩
  · exact .inr ⟨fun ⟨hf, hc⟩ => hn ⟨hf, hc, hid⟩, hp⟩

/-- A request that does not empty what waits adds nothing to the caches, and what waits goes
on. -/
structure Waits (e : Executor σ) (r : Request) (s s' : Caching σ) : Prop where
  aligned : s'.transaction.Aligned s'.shelf
  shelf : s'.shelf.Read s.shelf
  leaves : ∀ id, (s.shelf.slot? id).isSome = true → Leaves e r id s s'

/-- Nothing is kept of a request that has at most flushed a cache. -/
theorem waits_flush (h : s.transaction.Aligned s.shelf) {m : MappedStatement} {r : Request}
    {s' : Caching σ} (hshelf : s'.shelf.Read s.shelf)
    (ht : s'.transaction = (s.flush m).transaction)
    (hr : ∀ id, r.Flushes id ↔ m.flushes = true ∧ m.cache = some id)
    (hn : ∀ id, (s.shelf.slot? id).isSome = true → ∀ k v, ¬ Obtains e r id s k v) :
    Waits e r s s' := by
  refine ⟨?_, hshelf, fun id hid => ?_⟩
  · rw [ht]
    exact (aligned_flush h m).congr hshelf.frames.symm
  · refine ⟨(s.flush m).transaction.pendingOf id, ?_, .inr ⟨hn id hid, by rw [ht]⟩⟩
    rw [hr]
    exact pendingOf_flushed hid

/-- A request that is not carried out leaves everything as it is. -/
theorem waits_idle (h : s.transaction.Aligned s.shelf) {r : Request} {s' : Caching σ}
    (hs : s'.shelf = s.shelf) (ht : s'.transaction = s.transaction) (hf : ∀ id, ¬ r.Flushes id)
    (hn : ∀ id k v, ¬ Obtains e r id s k v) : Waits e r s s' := by
  refine ⟨by rwa [hs, ht], hs ▸ Shelf.read_refl _, fun id _ => ?_⟩
  exact ⟨_, .inr ⟨hf id, rfl⟩, .inr ⟨hn id, by rw [ht]⟩⟩

/-- A query that cannot be bound, or has no key, is not carried out. -/
theorem waits_unbound (h : s.transaction.Aligned s.shelf) {m : MappedStatement}
    {parameter : Value} {rows : RowBounds}
    (hn : ∀ b k, m.bind parameter = .ok b → m.key b rows ≠ .ok k) :
    Waits e (.query m parameter rows) s s := by
  refine waits_idle h rfl rfl ?_ ?_
  · rintro id ⟨-, -, b, k, hb, hk⟩
    exact hn b k hb hk
  · rintro id k v ⟨m', parameter', rows', b, heq, -, hb, hk, -⟩
    cases heq
    exact hn b k hb hk

section

variable {m : MappedStatement} {parameter : Value} {rows : RowBounds} {b : BoundStatement}
  {k : Key} (hb : m.bind parameter = .ok b) (hk : m.key b rows = .ok k)

include hb hk

theorem flushes_query (id : String) : (Request.query m parameter rows).Flushes id ↔
    m.flushes = true ∧ m.cache = some id :=
  ⟨fun ⟨hf, hc, _⟩ => ⟨hf, hc⟩, fun ⟨hf, hc⟩ => ⟨hf, hc, b, k, hb, hk⟩⟩

theorem obtains_query {id : String} {l : Key} {v : Value}
    (h : Obtains e (.query m parameter rows) id s l v) :
    m.CachedIn id ∧ s.Asks m parameter rows k b ∧
      (e.query m parameter rows k b s.inner).1 = .ok v := by
  obtain ⟨m', parameter', rows', b', heq, hc, hb', hl, ha, hv⟩ := h
  cases heq
  rw [hb] at hb'
  cases hb'
  rw [hk] at hl
  cases hl
  exact ⟨hc, ha, hv⟩

/-- A result of the session below goes to the cache of the statement, and to no other. -/
theorem waits_fetch (h : s.transaction.Aligned s.shelf) {slot : Nat} {shelf : Shelf}
    (hs : s.slot? m = some slot) (hu : m.usesCache = true) (hshelf : shelf.Read s.shelf)
    (hasks : s.Asks m parameter rows k b) : Waits e (.query m parameter rows) s
      (Caching.fetch { s.flush m with shelf } slot k (e.query m parameter rows k b)).2 := by
  have hflushes := flushes_query hb hk
  simp only [fetch, within, inner_flush]
  cases hr : (e.query m parameter rows k b s.inner).1 with
  | error err =>
    refine waits_flush h hshelf rfl hflushes fun id _ l v ho => ?_
    obtain ⟨-, -, hv⟩ := obtains_query hb hk ho
    rw [hr] at hv
    cases hv
  | ok v =>
    obtain ⟨id', hcache, hi⟩ := slot?_eq_some.1 hs
    have hi : shelf.slot? id' = some slot := (Shelf.slot?_congr hshelf.frames id').trans hi
    have ha := (aligned_flush h m).congr hshelf.frames.symm
    refine ⟨ha.put hi k v, hshelf, fun id hid => ?_⟩
    refine ⟨(s.flush m).transaction.pendingOf id, ?_, ?_⟩
    · rw [hflushes]
      exact pendingOf_flushed hid
    · dsimp only
      rw [Transaction.pendingOf_put hi]
      split
      · rename_i he
        subst he
        exact .inl ⟨k, v, ⟨m, parameter, rows, b, rfl, ⟨hcache, hu⟩, hb, hk, hasks, hr⟩, rfl⟩
      · rename_i hne
        refine .inr ⟨fun l w ho => hne ?_, rfl⟩
        obtain ⟨hc, -⟩ := obtains_query hb hk ho
        exact Option.some.inj (hc.cache.symm.trans hcache)

/-- A query goes one of its ways, and only the last one keeps a result. -/
theorem waits_bound (h : s.transaction.Aligned s.shelf) :
    Waits e (.query m parameter rows) s (query e m parameter rows k b s).2 := by
  have hflushes := flushes_query hb hk
  cases course h m parameter rows k b with
  | past hp hq =>
    rw [hq]
    refine waits_flush h (shelf_flush s m ▸ Shelf.read_refl _) rfl hflushes ?_
    intro id hid l v ho
    obtain ⟨hc, -⟩ := obtains_query hb hk ho
    rcases hp with hp | hp
    · rw [slot?, hc.cache] at hp
      rw [show s.shelf.slot? id = none from hp] at hid
      cases hid
    · rw [hc.usesCache] at hp
      cases hp
  | alone answer shelf hs hq =>
    rw [hq]
    refine waits_flush h hs rfl hflushes fun id _ l v ho => ?_
    -- two sessions below would have to lead to different answers
    obtain ⟨-, ⟨e₁, e₂, hne⟩, -⟩ := obtains_query hb hk ho
    rw [hq, hq] at hne
    exact hne rfl
  | below slot shelf hs hu hshelf hq =>
    rw [hq]
    exact waits_fetch hb hk h hs hu hshelf (asks_of_fetch hq e)

end

theorem waits_query (h : s.transaction.Aligned s.shelf)
    (autoCommit : Bool) (m : MappedStatement) (parameter : Value) (rows : RowBounds) :
    Waits e (.query m parameter rows) s
      ((e.caching autoCommit).serve (.query m parameter rows) s).2 := by
  simp only [Executor.serve, Executor.call]
  cases hb : m.bind parameter with
  | error err =>
    refine waits_unbound h fun b k hb' => ?_
    rw [hb] at hb'
    cases hb'
  | ok b =>
    dsimp only
    cases hk : m.key b rows with
    | error err =>
      refine waits_unbound h fun b' k hb' hk' => ?_
      rw [hb] at hb'
      cases hb'
      rw [hk] at hk'
      cases hk'
    | ok k => exact waits_bound hb hk h

/-- A request that does not empty what waits. -/
theorem waits_serve (h : s.transaction.Aligned s.shelf)
    (autoCommit : Bool) {r : Request} (hr : ¬ Empties e r s) :
    Waits e r s ((e.caching autoCommit).serve r s).2 := by
  have none_obtained : (∀ m parameter rows, r ≠ .query m parameter rows) →
      ∀ id k v, ¬ Obtains e r id s k v := by
    rintro hq id k v ⟨m, parameter, rows, b, heq, -⟩
    exact hq m parameter rows heq
  cases r with
  | query m parameter rows => exact waits_query h autoCommit m parameter rows
  | update m parameter =>
    exact waits_flush h (shelf_flush s m ▸ Shelf.read_refl _) rfl (fun _ => Iff.rfl)
      fun id _ => none_obtained (by simp) id
  | commit required =>
    show Waits e _ s (Caching.commit e required s).2
    simp only [Caching.commit, within]
    cases hc : (e.commit required s.inner).1 with
    | error err => exact waits_idle h rfl rfl (fun _ => id) (none_obtained (by simp))
    | ok => exact absurd hc hr
  | rollback required =>
    cases required with
    | true => exact absurd rfl hr
    | false =>
      show Waits e _ s (Caching.rollback e false s).2
      simp only [Caching.rollback, within, Bool.false_eq_true, if_false]
      cases (e.rollback false s.inner).1 <;>
        exact waits_idle h rfl rfl (fun _ => id) (none_obtained (by simp))
  | close force => exact absurd trivial hr

/-- A request that empties what waits makes the waiting writes, or drops them. -/
structure Emptied (e : Executor σ) (autoCommit : Bool) (r : Request) (s s' : Caching σ) :
    Prop where
  aligned : s'.transaction.Aligned s'.shelf
  waiting : ∀ id, s'.transaction.pendingOf id = .empty
  publishes : Publishes e autoCommit r s → s'.shelf = s.publish.2.shelf
  drops : ¬ Publishes e autoCommit r s → s'.shelf = s.shelf

theorem emptied_serve (h : s.transaction.Aligned s.shelf) (autoCommit : Bool) {r : Request}
    (hr : Empties e r s) : Emptied e autoCommit r s ((e.caching autoCommit).serve r s).2 := by
  cases r with
  | query m parameter rows => cases hr
  | update m parameter => cases hr
  | commit required =>
    show Emptied e autoCommit _ s (Caching.commit e required s).2
    rw [commit_of_ok (e.commit required s.inner).2 (Prod.ext hr rfl)]
    split <;> exact ⟨aligned_publish h, pendingOf_publish s, fun _ => rfl, fun hn => absurd hr hn⟩
  | rollback required =>
    cases (show required = true from hr)
    have hn : ¬ Publishes e autoCommit (.rollback true) s := id
    show Emptied e autoCommit _ s (Caching.rollback e true s).2
    simp only [Caching.rollback, within, if_true]
    cases (e.rollback true s.inner).1 <;>
      exact ⟨h.reset, Transaction.pendingOf_reset _, fun hp => absurd hp hn, fun _ => rfl⟩
  | close force =>
    show Emptied e autoCommit _ s (close e autoCommit force s).2
    rw [close_state]
    split
    · rename_i hd
      have hd : s.dirty = true ∧ autoCommit = false := by simpa using hd
      exact ⟨h.reset, Transaction.pendingOf_reset _, fun hp => absurd hd hp, fun _ => rfl⟩
    · rename_i hd
      have hd : ¬ (s.dirty = true ∧ autoCommit = false) := by simpa using hd
      exact ⟨aligned_publish h, pendingOf_publish s, fun _ => rfl, fun hn => absurd hd hn⟩

theorem not_flushes_of_empties {r : Request} {id : String} (h : Empties e r s) :
    ¬ r.Flushes id := by
  cases r with
  | query m parameter rows => cases h
  | update m parameter => cases h
  | _ => exact fun h => h

theorem not_obtains_of_empties {r : Request} {id : String} {k : Key} {v : Value}
    (h : Empties e r s) : ¬ Obtains e r id s k v := by
  rintro ⟨m, parameter, rows, b, rfl, -⟩
  cases h

theorem empties_of_publishes {autoCommit : Bool} {r : Request} (h : Publishes e autoCommit r s) :
    Empties e r s := by
  cases r with
  | commit required => exact h
  | close force => trivial
  | _ => cases h

end Caching

/-! ## Since -/

/-- One thing has happened before a step, and another has not happened after it. -/
def Since (P Q : Nat → Prop) (n : Nat) : Prop := ∃ j < n, P j ∧ ∀ x, j < x → x < n → ¬ Q x

theorem since_zero {P Q : Nat → Prop} : ¬ Since P Q 0 := fun ⟨_, h, _⟩ => Nat.not_lt_zero _ h

theorem since_succ {P Q : Nat → Prop} {n : Nat} :
    Since P Q (n + 1) ↔ P n ∨ Since P Q n ∧ ¬ Q n := by
  constructor
  · rintro ⟨j, hj, hp, hq⟩
    rcases Nat.lt_succ_iff_lt_or_eq.1 hj with hlt | rfl
    · exact .inr ⟨⟨j, hlt, hp, fun x hx hxn => hq x hx (Nat.lt_succ_of_lt hxn)⟩,
        hq n hlt (Nat.lt_succ_self n)⟩
    · exact .inl hp
  · rintro (hp | ⟨⟨j, hj, hp, hq⟩, hn⟩)
    · exact ⟨n, Nat.lt_succ_self n, hp, fun x hx hxn => absurd hx (by omega)⟩
    · refine ⟨j, Nat.lt_succ_of_lt hj, hp, fun x hx hxn => ?_⟩
      rcases Nat.lt_succ_iff_lt_or_eq.1 hxn with hlt | rfl
      · exact hq x hx hlt
      · exact hn

/-! ## What waits at a step -/

namespace Caching

variable {flushes empties : Nat → Prop} {obtains : Key → Value → Nat → Prop} {p : Pending}
  {n : Nat}

/-- What waits for a cache is what the steps so far say that flush it, that empty what waits and
that obtain results for it: a clear if a flush is not emptied yet, and under each key the last
result since then. -/
structure Tracked (flushes empties : Nat → Prop) (obtains : Key → Value → Nat → Prop)
    (p : Pending) (n : Nat) : Prop where
  distinct : p.entries.Distinct
  clears : p.clears = true ↔ Since flushes empties n
  last : ∀ k v, p.entries.get? k = some v ↔ Since (fun x => ∃ l, (k == l) = true ∧ obtains l v x)
    (fun x => empties x ∨ flushes x ∨ ∃ w l, (k == l) = true ∧ obtains l w x) n

theorem tracked_zero : Tracked flushes empties obtains .empty 0 := by
  refine ⟨Cache.Entries.distinct_nil, ?_, fun k v => ?_⟩
  · exact ⟨fun h => absurd h Bool.false_ne_true, fun h => absurd h since_zero⟩
  · exact ⟨fun h => absurd h.symm (Option.some_ne_none v), fun h => absurd h since_zero⟩

/-- A step that is not about the cache and does not empty what waits. -/
theorem Tracked.idle (h : Tracked flushes empties obtains p n) (hf : ¬ flushes n)
    (he : ¬ empties n) (ho : ∀ k v, ¬ obtains k v n) :
    Tracked flushes empties obtains p (n + 1) := by
  refine ⟨h.distinct, ?_, fun k v => ?_⟩
  · rw [h.clears, since_succ]
    simp [hf, he]
  · rw [h.last, since_succ]
    simp [hf, he, ho]

theorem tracked_emptied (he : empties n) (hf : ¬ flushes n) (ho : ∀ k v, ¬ obtains k v n) :
    Tracked flushes empties obtains .empty (n + 1) := by
  refine ⟨Cache.Entries.distinct_nil, ?_, fun k v => ?_⟩
  · rw [since_succ]
    simp [hf, he, Pending.empty]
  · rw [since_succ]
    simp [ho, he, Pending.empty]

/-- A step that flushes the cache leaves the clear alone. -/
theorem Tracked.flushed (h : Tracked flushes empties obtains p n) (he : ¬ empties n) {q : Pending}
    (hq : flushes n ∧ q = ⟨true, []⟩ ∨ ¬ flushes n ∧ q = p) :
    q.entries.Distinct ∧ (q.clears = true ↔ Since flushes empties (n + 1)) ∧
    ∀ k v, q.entries.get? k = some v ↔
      Since (fun x => ∃ l, (k == l) = true ∧ obtains l v x)
        (fun x => empties x ∨ flushes x ∨ ∃ w l, (k == l) = true ∧ obtains l w x) n ∧
      ¬ (empties n ∨ flushes n) := by
  rcases hq with ⟨hf, rfl⟩ | ⟨hf, rfl⟩
  · refine ⟨Cache.Entries.distinct_nil, ?_, fun k v => ?_⟩
    · simp [since_succ, hf]
    · simp [hf]
  · refine ⟨h.distinct, ?_, fun k v => ?_⟩
    · rw [since_succ, h.clears]
      simp [hf, he]
    · rw [h.last]
      simp [hf, he]

/-- A step that does not empty what waits: it may flush the cache first, and then obtain a
result. -/
theorem Tracked.leaves (h : Tracked flushes empties obtains p n) (he : ¬ empties n)
    (hunique : ∀ {k l v w}, obtains k v n → obtains l w n → k = l ∧ v = w) {q p' : Pending}
    (hq : flushes n ∧ q = ⟨true, []⟩ ∨ ¬ flushes n ∧ q = p)
    (hp : (∃ k v, obtains k v n ∧ p' = q.put k v) ∨ (∀ k v, ¬ obtains k v n) ∧ p' = q) :
    Tracked flushes empties obtains p' (n + 1) := by
  obtain ⟨hdistinct, hclears, hlast⟩ := h.flushed he hq
  rcases hp with ⟨l, w, ho, rfl⟩ | ⟨hn, rfl⟩
  · refine ⟨hdistinct.insert l w, hclears, fun k v => ?_⟩
    have hfor : ∀ v, (∃ l', (k == l') = true ∧ obtains l' v n) ↔ (k == l) = true ∧ w = v := by
      intro v
      constructor
      · rintro ⟨l', hk, ho'⟩
        obtain ⟨rfl, rfl⟩ := hunique ho ho'
        exact ⟨hk, rfl⟩
      · rintro ⟨hk, rfl⟩
        exact ⟨l, hk, ho⟩
    rw [since_succ, Pending.put, Cache.Entries.get?_insert]
    split
    · rename_i hk
      simp [hfor, hk]
    · rename_i hk
      rw [hlast]
      simp [hfor, hk]
  · refine ⟨hdistinct, hclears, fun k v => ?_⟩
    rw [hlast, since_succ]
    simp [hn]

end Caching

end MappedSql
