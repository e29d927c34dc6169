import MappedSql.Proofs.Cache.Publishing
import MappedSql.Session.Caching

/- The steps of a caching session.

   A session is asked for one thing after the other (`Request`), and the executor with
   caches before it serves a request as the one below does (`Executor.serve`). What a
   step does to the caches and to what waits for them is said here once: a flush
   (`pendingOf_flush`), the ways a query can go (`queried`), and the end of a
   transaction (`pendingOf_publish`, `publish_getElem?`). -/
namespace MappedSql

/-- What a session is asked for. -/
inductive Request where
  | query (m : MappedStatement) (parameter : Value) (rows : RowBounds)
  | update (m : MappedStatement) (parameter : Value)
  | commit (required : Bool)
  | rollback (required : Bool)
  | close (force : Bool)

/-- What a session answers. -/
inductive Reply where
  | rows (answer : Except MapperError Value)
  | count (answer : Except MapperError Nat)
  | done (answer : Except MapperError Unit)

/-- The answer to a request, and the state after it. -/
def Executor.serve {σ : Type} (e : Executor σ) (r : Request) (s : σ) : Reply × σ :=
  match r with
  | .query m parameter rows => (e.call m parameter rows s).map .rows id
  | .update m parameter => (e.update m parameter s).map .count id
  | .commit required => (e.commit required s).map .done id
  | .rollback required => (e.rollback required s).map .done id
  | .close force => (e.close force s).map .done id

/-- A statement whose results go to the cache of this id. -/
structure MappedStatement.CachedIn (m : MappedStatement) (id : String) : Prop where
  cache : m.cache = some id
  usesCache : m.usesCache = true

/-- The shelf with the same layers, and with no entry that was not there. -/
structure Shelf.Under (s' s : Shelf) : Prop where
  frames : s'.frames = s.frames
  entries : ∀ (i : Nat) (c' : Cache), s'[i]? = some c' →
    ∃ c : Cache, s[i]? = some c ∧ c'.entries ⊆ c.entries

theorem Shelf.under_refl (s : Shelf) : s.Under s :=
  ⟨rfl, fun _ c' h => ⟨c', h, List.Subset.refl _⟩⟩

theorem Shelf.Under.cache {s s' : Shelf} (h : s'.Under s) {i : Nat} {c' : Cache}
    (hc : s'[i]? = some c') :
    ∃ c, s[i]? = some c ∧ c'.frame = c.frame ∧ c'.entries ⊆ c.entries := by
  obtain ⟨c, hs, hsub⟩ := h.entries i c' hc
  have hf := Shelf.frame_getElem? h.frames i
  rw [hc, hs] at hf
  exact ⟨c, hs, Option.some.inj hf, hsub⟩

theorem Shelf.under_set {s : Shelf} {i : Nat} {c d : Cache} (hc : s[i]? = some c)
    (hf : d.frame = c.frame) (he : d.entries ⊆ c.entries) : Shelf.Under (s.set i d) s := by
  refine ⟨Shelf.frames_set hc hf, ?_⟩
  intro j c' hj
  rw [List.getElem?_set] at hj
  split at hj
  · rename_i hij
    subst hij
    split at hj
    · cases hj
      exact ⟨c, hc, he⟩
    · cases hj
  · exact ⟨c', hj, List.Subset.refl _⟩

namespace Caching

open Cache (Pending)

variable {σ : Type} {s : Caching σ} {m : MappedStatement}

theorem slot?_eq_some {slot : Nat} :
    s.slot? m = some slot ↔ ∃ id, m.cache = some id ∧ s.shelf.slot? id = some slot :=
  Option.bind_eq_some_iff

/-- The cache of a statement is the first one of its id. -/
theorem slot?_cache {slot : Nat} {c : Cache} (hs : s.slot? m = some slot)
    (hc : s.shelf[slot]? = some c) : m.cache = some c.id ∧ s.shelf.slot? c.id = some slot := by
  obtain ⟨id, hcache, hslot⟩ := slot?_eq_some.1 hs
  obtain ⟨d, hd, rfl⟩ := Shelf.slot?_some hslot
  rw [hc] at hd
  cases hd
  exact ⟨hcache, hslot⟩

/-! ## Flushing -/

@[simp] theorem shelf_flush (s : Caching σ) (m : MappedStatement) :
    (s.flush m).shelf = s.shelf := by
  unfold flush
  split
  · rfl
  · split <;> rfl

@[simp] theorem inner_flush (s : Caching σ) (m : MappedStatement) :
    (s.flush m).inner = s.inner := by
  unfold flush
  split
  · rfl
  · split <;> rfl

/-- Whether a statement clears the cache of this id. -/
def Clears (s : Caching σ) (m : MappedStatement) (id : String) : Prop :=
  m.flushes = true ∧ m.cache = some id ∧ (s.shelf.slot? id).isSome = true

theorem dirty_flush (s : Caching σ) (m : MappedStatement) :
    (s.flush m).dirty = true ↔ s.dirty = true ∨ ∃ id, s.Clears m id := by
  unfold flush
  split
  · rename_i hn
    refine ⟨.inl, ?_⟩
    rintro (h | ⟨id, -, hc, hs⟩)
    · exact h
    · rw [slot?, hc] at hn
      rw [show s.shelf.slot? id = none from hn] at hs
      cases hs
  · rename_i slot hs
    obtain ⟨id, hc, hi⟩ := slot?_eq_some.1 hs
    split
    · rename_i hf
      exact ⟨fun _ => .inr ⟨id, hf, hc, by rw [hi]; rfl⟩, fun _ => rfl⟩
    · rename_i hf
      exact ⟨.inl, fun h => h.resolve_right fun ⟨_, h, _⟩ => hf h⟩

/-- A flush has the cache of the statement cleared, and nothing put into it. -/
theorem pendingOf_flush (s : Caching σ) (m : MappedStatement) (id : String) :
    (s.Clears m id ∧ (s.flush m).transaction.pendingOf id = ⟨true, []⟩) ∨
      (¬ s.Clears m id ∧ (s.flush m).transaction.pendingOf id = s.transaction.pendingOf id) := by
  unfold flush
  split
  · rename_i hn
    refine .inr ⟨?_, rfl⟩
    rintro ⟨-, hc, hs⟩
    rw [slot?, hc] at hn
    rw [show s.shelf.slot? id = none from hn] at hs
    cases hs
  · rename_i slot hs
    obtain ⟨id', hc, hi⟩ := slot?_eq_some.1 hs
    split
    · rename_i hf
      show (_ ∧ (s.transaction.update s.shelf slot (·.clear)).pendingOf id = _) ∨
        (_ ∧ (s.transaction.update s.shelf slot (·.clear)).pendingOf id = _)
      rw [Transaction.pendingOf_update hi]
      split
      · rename_i he
        subst he
        exact .inl ⟨⟨hf, hc, by rw [hi]; rfl⟩, rfl⟩
      · rename_i hne
        refine .inr ⟨?_, rfl⟩
        rintro ⟨-, hc', -⟩
        rw [hc] at hc'
        exact hne (Option.some.inj hc').symm
    · rename_i hf
      exact .inr ⟨fun ⟨h, _⟩ => hf h, rfl⟩

theorem aligned_flush (h : s.transaction.Aligned s.shelf) (m : MappedStatement) :
    (s.flush m).transaction.Aligned s.shelf := by
  unfold flush
  split
  · exact h
  · rename_i slot hs
    obtain ⟨id, -, hi⟩ := slot?_eq_some.1 hs
    split
    · exact h.update hi _
    · exact h

/-! ## Queries -/

/-- The ways a query can go. -/
inductive Queried (e : Executor σ) (m : MappedStatement) (parameter : Value) (rows : RowBounds)
    (k : Cache.Key) (b : BoundStatement) (s : Caching σ) :
    Except MapperError Value × Caching σ → Prop where
  /-- The statement has no cache, or its results are not cached. -/
  | past (h : s.slot? m = none ∨ m.usesCache = false) :
      Queried e m parameter rows k b s ((s.flush m).within (e.query m parameter rows k b))
  /-- The results of the statement cannot be cached. -/
  | refused (slot : Nat) (hs : s.slot? m = some slot) (hu : m.usesCache = true)
      (ho : b.mappings.any (!·.isInputOnly) = true) :
      Queried e m parameter rows k b s (.error (.outParameters m.id), s.flush m)
  /-- The cache has the result. -/
  | hit (slot : Nat) (c : Cache) (v : Value) (hs : s.slot? m = some slot)
      (hu : m.usesCache = true) (hc : s.shelf[slot]? = some c)
      (hd : (s.flush m).dirty = false)
      (hp : ((s.flush m).transaction.pendingOf c.id).clears = false)
      (hv : (c.get k).1 = .ok (some v)) :
      Queried e m parameter rows k b s
        (.ok v, { s.flush m with shelf := s.shelf.set slot (c.get k).2 })
  /-- The cache fails to answer. -/
  | failed (slot : Nat) (c : Cache) (err : Cache.Error) (hs : s.slot? m = some slot)
      (hu : m.usesCache = true) (hc : s.shelf[slot]? = some c) (hv : (c.get k).1 = .error err) :
      Queried e m parameter rows k b s
        (.error (.cache err), { s.flush m with shelf := s.shelf.set slot (c.get k).2 })
  /-- The session below has the result, which is kept. -/
  | fetched (slot : Nat) (shelf : Shelf) (hs : s.slot? m = some slot) (hu : m.usesCache = true)
      (hshelf : shelf.Under s.shelf) :
      Queried e m parameter rows k b s
        (Caching.fetch { s.flush m with shelf } slot k (e.query m parameter rows k b))

theorem queried (h : s.transaction.Aligned s.shelf) (e : Executor σ) (m : MappedStatement)
    (parameter : Value) (rows : RowBounds) (k : Cache.Key) (b : BoundStatement) :
    Queried e m parameter rows k b s (query e m parameter rows k b s) := by
  cases hs : s.slot? m with
  | none =>
    have hf : s.flush m = s := by rw [flush, hs]
    have hq : query e m parameter rows k b s =
        (s.flush m).within (e.query m parameter rows k b) := by rw [query, hs, hf]
    rw [hq]
    exact .past (.inl hs)
  | some slot =>
    simp only [query, hs]
    by_cases hu : m.usesCache = true
    · simp only [hu, Bool.not_true, Bool.false_eq_true, if_false]
      by_cases ho : b.mappings.any (!·.isInputOnly) = true
      · rw [if_pos ho]
        exact .refused slot hs hu ho
      · rw [if_neg ho]
        by_cases hd : (s.flush m).dirty = true
        · rw [if_pos hd]
          have hf : Queried e m parameter rows k b s
              (fetch { s.flush m with shelf := s.shelf } slot k (e.query m parameter rows k b)) :=
            .fetched slot s.shelf hs hu (Shelf.under_refl _)
          rwa [← shelf_flush s m] at hf
        · rw [if_neg hd]
          have hd := Bool.eq_false_iff.2 hd
          obtain ⟨id, -, hi⟩ := slot?_eq_some.1 hs
          obtain ⟨c, hc, rfl⟩ := Shelf.slot?_some hi
          rw [shelf_flush, Transaction.get_slot (aligned_flush h m) hi hc]
          by_cases hp : ((s.flush m).transaction.pendingOf c.id).clears = true
          · -- with a clear waiting the session does not look into the cache
            simp only [Pending.get, hp, if_true]
            have hset : s.shelf.set slot c = s.shelf := by
              obtain ⟨hlt, rfl⟩ := List.getElem?_eq_some_iff.1 hc
              exact List.set_getElem_self hlt
            rw [hset]
            exact .fetched slot s.shelf hs hu (Shelf.under_refl _)
          · have hp := Bool.eq_false_iff.2 hp
            simp only [Pending.get, hp, Bool.false_eq_true, if_false]
            split
            · rename_i err hv
              exact .failed slot c err hs hu hc hv
            · rename_i v hv
              exact .hit slot c v hs hu hc hd hp hv
            · exact .fetched slot _ hs hu
                (Shelf.under_set hc (Cache.frame_get k c) (Cache.entries_get k c))
    · rw [Bool.not_eq_true] at hu
      simp only [hu, Bool.not_false, if_true]
      exact .past (.inr hu)

/-! ## The end of a transaction -/

@[simp] theorem pendingOf_publish (s : Caching σ) (id : String) :
    s.publish.2.transaction.pendingOf id = .empty := Transaction.pendingOf_reset _ _

@[simp] theorem frames_publish (s : Caching σ) : s.publish.2.shelf.frames = s.shelf.frames :=
  Transaction.frames_write _ _

theorem publish_getElem? (h : s.transaction.Aligned s.shelf) (i : Nat) :
    s.publish.2.shelf[i]? = s.shelf[i]?.map fun c =>
      if s.shelf.slot? c.id = some i then ((s.transaction.pendingOf c.id).commit c).2 else c :=
  Transaction.write_getElem? h i

theorem aligned_publish (h : s.transaction.Aligned s.shelf) :
    s.publish.2.transaction.Aligned s.publish.2.shelf :=
  h.reset.congr (frames_publish s).symm

/-- A commit below is followed by the waiting writes, and the session is clean if they succeed. -/
theorem commit_of_ok {e : Executor σ} {required : Bool} {s : Caching σ} (inner : σ)
    (h : e.commit required s.inner = (.ok (), inner)) :
    commit e required s = match s.publish.1 with
      | .ok () => (.ok (), { s.publish.2 with inner, dirty := false })
      | .error err => (.error (.cache err), { s.publish.2 with inner }) := by
  have hp : publish { s with inner } = (s.publish.1, { s.publish.2 with inner }) := rfl
  simp only [commit, within, h, hp]
  cases s.publish.1 <;> rfl

/-- The waiting writes are made at the close, or dropped, whatever becomes of it below. -/
theorem close_state (e : Executor σ) (autoCommit force : Bool) (s : Caching σ) :
    (close e autoCommit force s).2 =
      { (if s.dirty && !autoCommit then s.discard else s.publish.2) with
        inner := (e.close force s.inner).2 } := by
  unfold close
  cases s.dirty && !autoCommit <;> rfl

end Caching

end MappedSql
