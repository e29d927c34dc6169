import MappedSql.Proofs.Session.Interleaving

/- How old a cached result can be.

   Sessions share one cache over one database. A session sees what is committed and
   its own writes; its commit shows them to all. Every statement that writes flushes the
   cache, so a commit after a write empties it, and what the cache holds from then on was
   published later. It need not have been read later: a session that has read a result
   before the commit of another one holds it back until its own transaction ends, and
   publishes it then. This is the one way to a result that is older than the commit
   (`hit_not_older`), and it is possible (`late_hit_older`).

   The proof follows a result from the step at which the database gives it to a session,
   through the writes that wait there (`Run.Held`), to the cache. Two facts carry it: a
   session that has written has the clear of the cache waiting, and what waits with a
   session was read after its last write. -/
namespace MappedSql

open Cache (Key Pending)

/-- A statement that has written, with its parameter. -/
structure Write where
  statement : MappedStatement
  parameter : Value

/-- A database whose answers depend on the writes that the asking session sees. -/
structure Database where
  /-- The statements that write. -/
  writes : MappedStatement → Bool
  rows : List Write → MappedStatement → Value → RowBounds → Key → BoundStatement → Value
  count : List Write → MappedStatement → Value → Nat

namespace Database

/-- The committed writes and those of the session, after a statement of the session. -/
def write (d : Database) (m : MappedStatement) (parameter : Value)
    (s : List Write × List Write) : List Write × List Write :=
  if d.writes m then (s.1, s.2 ++ [⟨m, parameter⟩]) else s

/-- The executor over the database. It never fails; the state is the committed writes and those
of the session. -/
def executor (d : Database) : Executor (List Write × List Write) where
  query m parameter rows k b s :=
    let s := d.write m parameter s
    (.ok (d.rows (s.1 ++ s.2) m parameter rows k b), s)
  update m parameter s :=
    let s := d.write m parameter s
    (.ok (d.count (s.1 ++ s.2) m parameter), s)
  commit _ s := (.ok (), (s.1 ++ s.2, []))
  rollback required s := (.ok (), if required then (s.1, []) else s)
  close _ s := (.ok (), (s.1, []))
  isCached _ _ _ := .ok false
  deferLoad _ _ _ s := (.ok (), s)
  clearLocal s := s
  isClosed _ := false

end Database

/-- Whether a request ends the transaction of its session. -/
def Request.Ends : Request → Prop
  | .query _ _ _ => False
  | .update _ _ => False
  | .commit _ => True
  | .rollback required => required = true
  | .close _ => True

/-! ## One session -/

namespace Caching

variable {d : Database} {autoCommit : Bool} {id : String}
  {s : Caching (List Write × List Write)}

/-- What a request that does not end the transaction leaves waiting: the clear of the cache alone,
or what was waiting if there was no write, and perhaps the result of the request. -/
structure Open (d : Database) (id : String) (r : Request)
    (s s' : Caching (List Write × List Write)) : Prop where
  shelf : s'.shelf.Under s.shelf
  aligned : s'.transaction.Aligned s'.shelf
  committed : s'.inner.1 = s.inner.1
  waiting : ∃ p : Pending,
    (p = ⟨true, []⟩ ∨ p = s.transaction.pendingOf id ∧ s'.inner = s.inner) ∧
    (s'.transaction.pendingOf id = p ∨ ∃ m parameter rows b k,
      r = .query m parameter rows ∧ m.bind parameter = .ok b ∧ m.key b rows = .ok k ∧
      s'.transaction.pendingOf id =
        p.put k (d.rows (s'.inner.1 ++ s'.inner.2) m parameter rows k b))

/-- After a flush there is a clear waiting if the statement writes. -/
theorem pendingOf_flush_write (hw : d.writes m = true → s.Clears m id) :
    (s.flush m).transaction.pendingOf id = ⟨true, []⟩ ∨
      (s.flush m).transaction.pendingOf id = s.transaction.pendingOf id ∧
        ∀ parameter, d.write m parameter s.inner = s.inner := by
  rcases s.pendingOf_flush m id with ⟨-, hp⟩ | ⟨hn, hp⟩
  · exact .inl hp
  · refine .inr ⟨hp, ?_⟩
    intro parameter
    rw [Database.write, if_neg fun h => hn (hw h)]

theorem committed_write (d : Database) (m : MappedStatement) (parameter : Value)
    (s : List Write × List Write) : (d.write m parameter s).1 = s.1 := by
  unfold Database.write
  split <;> rfl

theorem aligned_under {t : Transaction} {s' : Shelf} (h : t.Aligned s.shelf)
    (hs : s'.Under s.shelf) : t.Aligned s' := h.congr hs.frames.symm

/-- Nothing is kept of the request, and the statement may have been carried out. -/
theorem open_flush (h : s.transaction.Aligned s.shelf) {m : MappedStatement}
    (hw : d.writes m = true → s.Clears m id) {t : Caching (List Write × List Write)}
    (hs : t.shelf.Under s.shelf) (ht : t.transaction = (s.flush m).transaction)
    (parameter : Value) (hi : t.inner = s.inner ∨ t.inner = d.write m parameter s.inner)
    (r : Request) : Open d id r s t := by
  have hc : t.inner.1 = s.inner.1 := by
    rcases hi with hi | hi
    · rw [hi]
    · rw [hi, committed_write]
  refine ⟨hs, ?_, hc, (s.flush m).transaction.pendingOf id, ?_, .inl (by rw [ht])⟩
  · rw [ht]
    exact aligned_under (aligned_flush h m) hs
  · refine (pendingOf_flush_write hw).imp_right ?_
    rintro ⟨hp, hn⟩
    refine ⟨hp, ?_⟩
    rcases hi with hi | hi
    · exact hi
    · exact hi.trans (hn parameter)

theorem open_query (h : s.transaction.Aligned s.shelf)
    (hw : ∀ m, d.writes m = true → s.Clears m id) (m : MappedStatement) (parameter : Value)
    (rows : RowBounds) :
    Open d id (.query m parameter rows) s
      ((d.executor.caching autoCommit).serve (.query m parameter rows) s).2 := by
  have idle : Open d id (.query m parameter rows) s s :=
    ⟨Shelf.under_refl _, h, rfl, _, .inr ⟨rfl, rfl⟩, .inl rfl⟩
  have flushed := fun t hs ht hi => open_flush (t := t) h (hw m) hs ht parameter hi
    (.query m parameter rows)
  simp only [Executor.serve, Executor.call]
  cases hb : m.bind parameter with
  | error err => exact idle
  | ok b =>
    dsimp only
    cases hk : m.key b rows with
    | error err => exact idle
    | ok k =>
      have hq := queried h d.executor m parameter rows k b
      show Open d id (.query m parameter rows) s (query d.executor m parameter rows k b s).2
      generalize query d.executor m parameter rows k b s = answer at hq
      cases hq with
      | past hp =>
        refine flushed _ ?_ rfl (.inr ?_)
        · simp only [within, shelf_flush]
          exact Shelf.under_refl _
        · simp only [within, Database.executor, inner_flush]
      | refused slot hs hu ho =>
        refine flushed _ ?_ rfl (.inl (inner_flush s m))
        rw [shelf_flush]
        exact Shelf.under_refl _
      | hit slot c v hs hu hc hd hp hv =>
        exact flushed _ (Shelf.under_set hc (Cache.frame_get k c) (Cache.entries_get k c)) rfl
          (.inl (inner_flush s m))
      | failed slot c err hs hu hc hv =>
        exact flushed _ (Shelf.under_set hc (Cache.frame_get k c) (Cache.entries_get k c)) rfl
          (.inl (inner_flush s m))
      | fetched slot shelf hs hu hshelf =>
        obtain ⟨id', -, hi⟩ := slot?_eq_some.1 hs
        have hi : shelf.slot? id' = some slot := (Shelf.slot?_congr hshelf.frames id').trans hi
        have ha := aligned_under (aligned_flush h m) hshelf
        simp only [fetch, within, Database.executor, inner_flush]
        refine ⟨hshelf, ha.put hi k _, committed_write d m parameter s.inner,
          (s.flush m).transaction.pendingOf id, ?_, ?_⟩
        · exact (pendingOf_flush_write (hw m)).imp_right fun hp => ⟨hp.1, hp.2 parameter⟩
        · dsimp only
          rw [Transaction.pendingOf_put hi]
          split
          · rename_i he
            subst he
            exact .inr ⟨m, parameter, rows, b, k, rfl, hb, hk, rfl⟩
          · exact .inl rfl

theorem open_serve (h : s.transaction.Aligned s.shelf)
    (hw : ∀ m, d.writes m = true → s.Clears m id) {r : Request} (hr : ¬ r.Ends) :
    Open d id r s ((d.executor.caching autoCommit).serve r s).2 := by
  cases r with
  | query m parameter rows => exact open_query h hw m parameter rows
  | update m parameter =>
    refine open_flush h (hw m)
      (t := { s.flush m with inner := d.write m parameter (s.flush m).inner }) ?_ rfl parameter
      (.inr (by rw [inner_flush])) _
    rw [shelf_flush]
    exact Shelf.under_refl _
  | rollback required =>
    cases required with
    | true => exact absurd rfl hr
    | false =>
      exact ⟨Shelf.under_refl _, h, rfl, _, .inr ⟨rfl, rfl⟩, .inl rfl⟩
  | _ => exact absurd trivial hr

/-- What the end of a transaction leaves: nothing that waits, and the caches as they were or with
the waiting writes made. A commit makes them. -/
structure Ended (id : String) (r : Request) (s s' : Caching (List Write × List Write)) :
    Prop where
  aligned : s'.transaction.Aligned s'.shelf
  waiting : s'.transaction.pendingOf id = .empty
  uncommitted : s'.inner.2 = []
  shelf : s'.shelf = s.shelf ∨ s'.shelf = s.publish.2.shelf
  kept : (∀ required, r ≠ .commit required) → s'.inner.1 = s.inner.1
  commit : ∀ required, r = .commit required →
    s'.inner.1 = s.inner.1 ++ s.inner.2 ∧ s'.shelf = s.publish.2.shelf

theorem ended_serve (h : s.transaction.Aligned s.shelf) {r : Request} (hr : r.Ends) :
    Ended id r s ((d.executor.caching autoCommit).serve r s).2 := by
  cases r with
  | query m parameter rows => cases hr
  | update m parameter => cases hr
  | commit required =>
    show Ended id _ s (Caching.commit d.executor required s).2
    rw [commit_of_ok (s.inner.1 ++ s.inner.2, []) rfl]
    split <;> exact ⟨aligned_publish h, pendingOf_publish s id, rfl, .inr rfl,
      fun hc => absurd rfl (hc required), fun _ _ => ⟨rfl, rfl⟩⟩
  | rollback required =>
    cases (show required = true from hr)
    exact ⟨h.reset, Transaction.pendingOf_reset _ _, rfl, .inl rfl, fun _ => rfl, by simp⟩
  | close force =>
    show Ended id _ s (close d.executor autoCommit force s).2
    rw [close_state]
    split
    · exact ⟨h.reset, Transaction.pendingOf_reset _ _, rfl, .inl rfl, fun _ => rfl, by simp⟩
    · exact ⟨aligned_publish h, pendingOf_publish s id, rfl, .inr rfl, fun _ => rfl, by simp⟩

end Caching

/-! ## A run of sessions -/

/-- A run of sessions that share one cache, which every statement that writes flushes. -/
structure Run (ι : Type) where
  database : Database
  autoCommit : ι → Bool
  cache : Cache
  flushing : ∀ m, database.writes m = true → m.flushes = true ∧ m.cache = some cache.id
  /-- What was committed before the run. -/
  before : List Write
  schedule : Nat → ι × Request

namespace Run

variable {ι : Type} [DecidableEq ι] (r : Run ι)

/-- The sessions after the first steps of the run. -/
def world (n : Nat) : Sessions ι (List Write) (List Write) :=
  (Sessions.start [r.cache] r.before fun _ => []).run r.database.executor r.autoCommit
    r.schedule n

/-- The writes that are committed. -/
def committed (n : Nat) : List Write := (r.world n).common

/-- The writes of a session since its transaction began. -/
def uncommitted (n : Nat) (i : ι) : List Write := ((r.world n).own i).inner

/-- The writes that a session sees. -/
def view (n : Nat) (i : ι) : List Write := r.committed n ++ r.uncommitted n i

/-- What waits with a session for the cache. -/
def pending (n : Nat) (i : ι) : Pending := ((r.world n).own i).transaction.pendingOf r.cache.id

/-- The step is a query of the session, to which the database answers by what the session sees. -/
def Asked (j : Nat) (i : ι) (k : Key) (v : Value) : Prop :=
  ∃ m parameter rows b, r.schedule j = (i, .query m parameter rows) ∧
    m.bind parameter = .ok b ∧ m.key b rows = .ok k ∧
    v = r.database.rows (r.view (j + 1) i) m parameter rows k b

/-- The step is a query of the session, and the answer is there whatever the database holds. -/
def Hits (n : Nat) (i : ι) (k : Key) (v : Value) : Prop :=
  ∃ m parameter rows b, r.schedule n = (i, .query m parameter rows) ∧
    m.bind parameter = .ok b ∧ m.key b rows = .ok k ∧
    ∀ e : Executor (List Write × List Write),
      (Caching.query e m parameter rows k b ((r.world n).session i)).1 = .ok v

/-- The step ends the transaction of the session. -/
def Ends (q : Nat) (i : ι) : Prop := (r.schedule q).1 = i ∧ (r.schedule q).2.Ends

/-- The step is a commit of a session that has written. -/
def Commits (a : Nat) : Prop :=
  (∃ required, (r.schedule a).2 = .commit required) ∧ r.uncommitted a (r.schedule a).1 ≠ []

/-- A session has kept a result back from the step at which it got it, and has not written since.
-/
structure Held (j q : Nat) (i : ι) (e : Key × Value) : Prop where
  lt : j < q
  asked : ∃ k, r.Asked j i k e.2 ∧ (k == e.1) = true
  since : r.uncommitted q i = r.uncommitted (j + 1) i
  within : ∀ x, j < x → x < q → ¬ r.Ends x i

/-- An entry of the store was published at this step or a later one. -/
def Stored (a n : Nat) (e : Key × Value) : Prop :=
  ∃ i j q v, a ≤ q ∧ q < n ∧ r.Ends q i ∧ r.Held j q i (e.1, v) ∧ e.2 = r.cache.kept v

/-- What holds after any number of steps. -/
structure Invariant (n : Nat) : Prop where
  frames : (r.world n).shelf.frames = [r.cache.frame]
  aligned : ∀ i, ((r.world n).own i).transaction.Aligned (r.world n).shelf
  clears : ∀ i, r.uncommitted n i ≠ [] → (r.pending n i).clears = true
  waiting : ∀ i, ∀ e ∈ (r.pending n i).entries, ∃ j, r.Held j n i e
  stored : ∀ a < n, r.Commits a → ∀ c ∈ (r.world n).shelf, ∀ e ∈ c.entries, r.Stored a n e

/-- The session of a step, and what the step makes of it. -/
def actor (n : Nat) : Caching (List Write × List Write) :=
  (r.world n).session (r.schedule n).1

def acted (n : Nat) : Caching (List Write × List Write) :=
  ((r.database.executor.caching (r.autoCommit (r.schedule n).1)).serve (r.schedule n).2
    (r.actor n)).2

variable {r} {n : Nat}

theorem own_succ_of_ne {i : ι} (h : i ≠ (r.schedule n).1) :
    (r.world (n + 1)).own i = (r.world n).own i :=
  Sessions.own_withSession_of_ne _ h _

theorem own_succ_self : (r.world (n + 1)).own (r.schedule n).1 =
    ⟨(r.acted n).transaction, (r.acted n).dirty, (r.acted n).inner.2⟩ :=
  Sessions.own_withSession_self _ _ _

theorem uncommitted_succ_of_ne {i : ι} (h : i ≠ (r.schedule n).1) :
    r.uncommitted (n + 1) i = r.uncommitted n i := by
  rw [uncommitted, own_succ_of_ne h, uncommitted]

theorem uncommitted_succ_self :
    r.uncommitted (n + 1) (r.schedule n).1 = (r.acted n).inner.2 := by
  rw [uncommitted, own_succ_self]

theorem pending_succ_of_ne {i : ι} (h : i ≠ (r.schedule n).1) :
    r.pending (n + 1) i = r.pending n i := by
  rw [pending, own_succ_of_ne h, pending]

theorem pending_succ_self :
    r.pending (n + 1) (r.schedule n).1 = (r.acted n).transaction.pendingOf r.cache.id := by
  rw [pending, own_succ_self]

theorem Held.succ {j : Nat} {i : ι} {e : Key × Value} (h : r.Held j n i e)
    (hs : r.uncommitted (n + 1) i = r.uncommitted n i) (hn : ¬ r.Ends n i) :
    r.Held j (n + 1) i e := by
  refine ⟨Nat.lt_succ_of_lt h.lt, h.asked, hs.trans h.since, ?_⟩
  intro x hj hx
  rcases Nat.lt_succ_iff_lt_or_eq.1 hx with hx | rfl
  · exact h.within x hj hx
  · exact hn

theorem Stored.succ {a : Nat} {e : Key × Value} (h : r.Stored a n e) : r.Stored a (n + 1) e := by
  obtain ⟨i, j, q, v, ha, hq, hs⟩ := h
  exact ⟨i, j, q, v, ha, Nat.lt_succ_of_lt hq, hs⟩

theorem Invariant.one_cache (h : r.Invariant n) :
    ∃ c : Cache, (r.world n).shelf = [c] ∧ c.frame = r.cache.frame := by
  have hf := h.frames
  cases hs : (r.world n).shelf with
  | nil => rw [hs] at hf; cases hf
  | cons c rest =>
    rw [hs] at hf
    cases rest with
    | nil => exact ⟨c, rfl, by simpa [Shelf.frames] using hf⟩
    | cons d rest => simp [Shelf.frames] at hf

theorem Invariant.slot? (h : r.Invariant n) :
    (r.world n).shelf.slot? r.cache.id = some 0 := by
  obtain ⟨c, hs, hc⟩ := h.one_cache
  rw [hs, Shelf.slot?, List.findIdx?_cons, if_pos (by simp [Cache.id_congr hc])]

theorem Invariant.clears_writes (h : r.Invariant n) (m : MappedStatement)
    (hm : r.database.writes m = true) : (r.actor n).Clears m r.cache.id := by
  obtain ⟨hf, hc⟩ := r.flushing m hm
  refine ⟨hf, hc, ?_⟩
  rw [actor, Sessions.session, h.slot?]
  rfl

/-- A request that does not end the transaction of its session keeps what holds. -/
theorem Invariant.open_ (h : r.Invariant n) (hr : ¬ (r.schedule n).2.Ends) :
    r.Invariant (n + 1) := by
  have ho : Caching.Open r.database r.cache.id (r.schedule n).2 (r.actor n) (r.acted n) :=
    Caching.open_serve (h.aligned _) h.clears_writes hr
  have hends : ∀ i, ¬ r.Ends n i := fun i hi => hr hi.2
  obtain ⟨p, hp, hw⟩ := ho.waiting
  have hclears : (r.pending (n + 1) (r.schedule n).1).clears = p.clears := by
    rw [pending_succ_self]
    rcases hw with hw | ⟨m, parameter, rows, b, k, -, -, -, hw⟩ <;> rw [hw]
    rfl
  refine ⟨ho.shelf.frames.trans h.frames, ?_, ?_, ?_, ?_⟩
  · intro i
    by_cases hi : i = (r.schedule n).1
    · subst hi
      rw [own_succ_self]
      exact ho.aligned
    · rw [own_succ_of_ne hi]
      exact (h.aligned i).congr ho.shelf.frames.symm
  · intro i hown
    by_cases hi : i = (r.schedule n).1
    · subst hi
      rw [hclears]
      rcases hp with rfl | ⟨rfl, hs⟩
      · rfl
      · rw [uncommitted_succ_self, hs] at hown
        exact h.clears _ hown
    · rw [uncommitted_succ_of_ne hi] at hown
      rw [pending_succ_of_ne hi]
      exact h.clears i hown
  · intro i e he
    by_cases hi : i = (r.schedule n).1
    · subst hi
      have kept : e ∈ p.entries → ∃ j, r.Held j (n + 1) (r.schedule n).1 e := by
        intro he
        rcases hp with rfl | ⟨rfl, hs⟩
        · cases he
        · obtain ⟨j, hj⟩ := h.waiting _ e he
          exact ⟨j, hj.succ (by rw [uncommitted_succ_self, hs]; rfl) (hends _)⟩
      rw [pending_succ_self] at he
      rcases hw with hw | ⟨m, parameter, rows, b, k, hm, hb, hk, hw⟩
      · rw [hw] at he
        exact kept he
      · rw [hw] at he
        rcases Cache.Entries.mem_insert he with he | ⟨hke, hv⟩
        · exact kept he
        · refine ⟨n, Nat.lt_succ_self n, ⟨k, ⟨m, parameter, rows, b, ?_, hb, hk, ?_⟩, hke⟩, rfl,
            fun x hn hx => absurd hx (by omega)⟩
          · rw [← hm]
          · rw [hv, view, uncommitted_succ_self]
            rfl
    · rw [pending_succ_of_ne hi] at he
      obtain ⟨j, hj⟩ := h.waiting i e he
      exact ⟨j, hj.succ (uncommitted_succ_of_ne hi) (hends i)⟩
  · intro a ha hca c hc e he
    have ha : a < n := by
      rcases Nat.lt_succ_iff_lt_or_eq.1 ha with ha | rfl
      · exact ha
      · obtain ⟨⟨required, hc⟩, -⟩ := hca
        rw [hc] at hr
        exact absurd trivial hr
    obtain ⟨i, hi⟩ := List.mem_iff_getElem?.1 hc
    obtain ⟨c', hc', hsub⟩ := ho.shelf.entries i c hi
    exact (h.stored a ha hca c' (List.mem_iff_getElem?.2 ⟨i, hc'⟩) e (hsub he)).succ

/-- What the cache holds after the waiting writes of a session are made. -/
theorem Invariant.published (h : r.Invariant n) {c : Cache}
    (hc : c ∈ (r.actor n).publish.2.shelf) {e : Key × Value} (he : e ∈ c.entries) :
    ((r.pending n (r.schedule n).1).clears = false ∧ ∃ d ∈ (r.world n).shelf, e ∈ d.entries) ∨
      ∃ p ∈ (r.pending n (r.schedule n).1).entries, (p.1 == e.1) = true ∧
        e.2 = r.cache.kept p.2 := by
  obtain ⟨d, hs, hd⟩ := h.one_cache
  obtain ⟨i, hi⟩ := List.mem_iff_getElem?.1 hc
  rw [Caching.publish_getElem? (h.aligned _)] at hi
  have hshelf : (r.actor n).shelf = [d] := hs
  have hslot : (r.actor n).shelf.slot? d.id = some 0 := by
    rw [Cache.id_congr hd]
    exact h.slot?
  rw [hshelf] at hi hslot
  cases i with
  | succ i => simp at hi
  | zero =>
    simp only [List.getElem?_cons_zero, Option.map_some, hslot, if_true, Option.some.injEq] at hi
    rw [Cache.id_congr hd] at hi
    subst hi
    rw [Pending.commit] at he
    rcases Cache.mem_entries_writeBatch he with ⟨hn, he⟩ | ⟨p, hp, hk, hv⟩
    · exact .inl ⟨hn, d, by rw [hs]; exact List.mem_singleton_self d, he⟩
    · rw [Cache.kept_congr hd] at hv
      exact .inr ⟨p, hp, hk, hv⟩

theorem Invariant.stored_waiting (h : r.Invariant n) (hr : (r.schedule n).2.Ends) {a : Nat}
    (ha : a ≤ n) {p e : Key × Value} (hp : p ∈ (r.pending n (r.schedule n).1).entries)
    (hk : (p.1 == e.1) = true) (hv : e.2 = r.cache.kept p.2) : r.Stored a (n + 1) e := by
  obtain ⟨j, hj⟩ := h.waiting _ p hp
  obtain ⟨k, hasked, hkp⟩ := hj.asked
  exact ⟨(r.schedule n).1, j, n, p.2, ha, Nat.lt_succ_self n, ⟨rfl, hr⟩,
    ⟨hj.lt, ⟨k, hasked, PartialEquivBEq.trans hkp hk⟩, hj.since, hj.within⟩, hv⟩

/-- The end of a transaction keeps what holds. -/
theorem Invariant.ended (h : r.Invariant n) (hr : (r.schedule n).2.Ends) :
    r.Invariant (n + 1) := by
  have he : Caching.Ended r.cache.id (r.schedule n).2 (r.actor n) (r.acted n) :=
    Caching.ended_serve (h.aligned _) hr
  have hframes : (r.acted n).shelf.frames = (r.world n).shelf.frames := by
    rcases he.shelf with hs | hs <;> rw [hs]
    · rfl
    · exact Caching.frames_publish _
  refine ⟨hframes.trans h.frames, ?_, ?_, ?_, ?_⟩
  · intro i
    by_cases hi : i = (r.schedule n).1
    · subst hi
      rw [own_succ_self]
      exact he.aligned
    · rw [own_succ_of_ne hi]
      exact (h.aligned i).congr hframes.symm
  · intro i hown
    by_cases hi : i = (r.schedule n).1
    · subst hi
      rw [uncommitted_succ_self] at hown
      exact absurd he.uncommitted hown
    · rw [uncommitted_succ_of_ne hi] at hown
      rw [pending_succ_of_ne hi]
      exact h.clears i hown
  · intro i e hmem
    by_cases hi : i = (r.schedule n).1
    · subst hi
      rw [pending_succ_self, he.waiting] at hmem
      cases hmem
    · rw [pending_succ_of_ne hi] at hmem
      obtain ⟨j, hj⟩ := h.waiting i e hmem
      exact ⟨j, hj.succ (uncommitted_succ_of_ne hi) fun hn => hi hn.1.symm⟩
  · intro a ha hca c hc e hmem
    have old : a < n → ∀ d ∈ (r.world n).shelf, e ∈ d.entries → r.Stored a (n + 1) e :=
      fun ha d hd hmem => (h.stored a ha hca d hd e hmem).succ
    have hc : c ∈ (r.acted n).shelf := hc
    rcases Nat.lt_succ_iff_lt_or_eq.1 ha with hlt | rfl
    · rcases he.shelf with hs | hs <;> rw [hs] at hc
      · exact old hlt c hc hmem
      · rcases h.published hc hmem with ⟨-, d, hd, hold⟩ | ⟨p, hp, hk, hv⟩
        · exact old hlt d hd hold
        · exact h.stored_waiting hr (Nat.le_of_lt hlt) hp hk hv
    · -- the commit of a session that has written clears the cache
      obtain ⟨⟨required, hreq⟩, hown⟩ := hca
      rw [(he.commit required hreq).2] at hc
      rcases h.published hc hmem with ⟨hn, -⟩ | ⟨p, hp, hk, hv⟩
      · rw [h.clears _ hown] at hn
        cases hn
      · exact h.stored_waiting hr (Nat.le_refl _) hp hk hv

theorem invariant (r : Run ι) (n : Nat) : r.Invariant n := by
  induction n with
  | zero =>
    refine ⟨rfl, fun _ => Transaction.aligned_nil _, fun _ h => absurd rfl h, ?_, ?_⟩
    · intro i e he
      cases he
    · intro a ha
      cases ha
  | succ n ih =>
    by_cases hr : (r.schedule n).2.Ends
    · exact ih.ended hr
    · exact ih.open_ hr

/-! ## What is committed -/

/-- Only the commit of a session that has written adds to what is committed. -/
theorem committed_succ (r : Run ι) (n : Nat) :
    r.committed (n + 1) = r.committed n ∨ r.Commits n ∧
      r.committed (n + 1) = r.committed n ++ r.uncommitted n (r.schedule n).1 := by
  have h := r.invariant n
  by_cases hr : (r.schedule n).2.Ends
  · have he : Caching.Ended r.cache.id (r.schedule n).2 (r.actor n) (r.acted n) :=
      Caching.ended_serve (h.aligned _) hr
    by_cases hc : ∃ required, (r.schedule n).2 = .commit required
    · obtain ⟨required, hreq⟩ := hc
      have hs : r.committed (n + 1) = r.committed n ++ r.uncommitted n (r.schedule n).1 :=
        (he.commit required hreq).1
      by_cases hown : r.uncommitted n (r.schedule n).1 = []
      · rw [hown, List.append_nil] at hs
        exact .inl hs
      · exact .inr ⟨⟨⟨required, hreq⟩, hown⟩, hs⟩
    · exact .inl (he.kept fun required hreq => hc ⟨required, hreq⟩)
  · have ho : Caching.Open r.database r.cache.id (r.schedule n).2 (r.actor n) (r.acted n) :=
      Caching.open_serve (h.aligned _) h.clears_writes hr
    exact .inl ho.committed

theorem committed_commit (r : Run ι) {a : Nat} (ha : r.Commits a) :
    r.committed (a + 1) = r.committed a ++ r.uncommitted a (r.schedule a).1 := by
  obtain ⟨required, hreq⟩ := ha.1
  have he : Caching.Ended r.cache.id (r.schedule a).2 (r.actor a) (r.acted a) :=
    Caching.ended_serve ((r.invariant a).aligned _) (by rw [hreq]; trivial)
  exact (he.commit required hreq).1

theorem committed_prefix (r : Run ι) {m n : Nat} (h : m ≤ n) :
    r.committed m <+: r.committed n := by
  induction h with
  | refl => exact List.prefix_refl _
  | @step n _ ih =>
    refine ih.trans ?_
    rcases r.committed_succ n with hs | ⟨-, hs⟩
    · exact hs ▸ List.prefix_refl _
    · exact hs ▸ List.prefix_append _ _

theorem committed_eq (r : Run ι) {m n : Nat} (h : m ≤ n)
    (hn : ∀ b, m ≤ b → b < n → ¬ r.Commits b) : r.committed n = r.committed m := by
  induction h with
  | refl => rfl
  | @step n hm ih =>
    rcases r.committed_succ n with hs | ⟨hc, -⟩
    · exact hs.trans (ih fun b hb hlt => hn b hb (Nat.lt_succ_of_lt hlt))
    · exact absurd hc (hn n hm (Nat.lt_succ_self n))

/-! ## Hits -/

/-- An executor that has no answers. -/
def noAnswers (σ : Type) : Executor σ where
  query _ _ _ _ _ s := (.error (.unsupported .isCached), s)
  update _ _ s := (.error (.unsupported .isCached), s)
  commit _ s := (.ok (), s)
  rollback _ s := (.ok (), s)
  close _ s := (.ok (), s)
  isCached _ _ _ := .ok false
  deferLoad _ _ _ s := (.ok (), s)
  clearLocal s := s
  isClosed _ := false

/-- An answer that does not depend on the database comes from the cache. -/
theorem hit_stored (r : Run ι) {n : Nat} {i : ι} {k : Key} {w : Value} (h : r.Hits n i k w) :
    ∃ c ∈ (r.world n).shelf, (c.get k).1 = .ok (some w) := by
  obtain ⟨m, parameter, rows, b, -, -, -, hall⟩ := h
  have hw := hall (noAnswers _)
  have hq := Caching.queried (s := (r.world n).session i) ((r.invariant n).aligned i)
    (noAnswers _) m parameter rows k b
  generalize Caching.query (noAnswers _) m parameter rows k b ((r.world n).session i) = answer
    at hw hq
  cases hq with
  | hit slot c v hs hu hc hd hp hv =>
    cases hw
    exact ⟨c, List.mem_iff_getElem?.2 ⟨slot, hc⟩, hv⟩
  | _ => cases hw

/-- A query of the number of rows, which is cached. -/
def countRows : MappedStatement :=
  ⟨"users.count", .fixed ⟨"select count(*) from users", []⟩, .select, .prepared, some "users",
    false, true, none, none⟩

/-- A statement that adds a row. -/
def addRow : MappedStatement :=
  ⟨"users.add", .fixed ⟨"insert into users default values", []⟩, .insert, .prepared,
    some "users", true, false, none, none⟩

/-- A query of one session, a committed write of another, the commit of the first one, and the
query of a third. -/
def lateSchedule (n : Nat) : Nat × Request :=
  match n with
  | 0 => (0, .query countRows .null .all)
  | 1 => (1, .update addRow .null)
  | 2 => (1, .commit true)
  | 3 => (0, .commit true)
  | _ => (2, .query countRows .null .all)

/-- A run over a table whose rows are counted. -/
def late : Run Nat where
  database := ⟨fun m => m.flushes && m.cache == some "users",
    fun log _ _ _ _ _ => .ofNat log.length, fun log _ _ => log.length⟩
  autoCommit _ := false
  cache := .store "users" []
  flushing := by simp [Cache.id]
  before := []
  schedule := lateSchedule

/-- The key of the two queries. -/
def countKey : Key :=
  ⟨[.str "users.count", .ofNat 0, .ofNat RowBounds.all.limit,
    .str "select count(*) from users"]⟩

theorem late_commits : late.Commits 2 := ⟨⟨true, rfl⟩, by intro h; cases h⟩

theorem late_shelf : (late.world 4).shelf = [.store "users" [(countKey, .ofNat 0)]] := by
  have he : Caching.Ended late.cache.id (late.schedule 3).2 (late.actor 3) (late.acted 3) :=
    Caching.ended_serve ((late.invariant 3).aligned _) trivial
  have hp : (late.acted 3).shelf = (late.actor 3).publish.2.shelf := (he.commit true rfl).2
  have hw : (late.actor 3).publish.2.shelf =
      [((Cache.store "users" []).writeBatch false [(countKey, .ofNat 0)]).2] := rfl
  show (late.acted 3).shelf = _
  rw [hp, hw]
  simp [Cache.writeBatch, Cache.writeAll, Cache.putAll, Cache.put, Cache.Entries.insert]

theorem late_hits : late.Hits 4 2 countKey (.ofNat 0) := by
  refine ⟨countRows, .null, .all, _, rfl, rfl, rfl, ?_⟩
  intro e
  have hs : (late.world 4).session 2 =
      ⟨(late.world 4).shelf, [], false, (late.world 4).common, []⟩ := rfl
  rw [hs, late_shelf]
  simp [Caching.query, Caching.slot?, countRows, Shelf.slot?, Cache.id, Caching.flush,
    Transaction.get, Transaction.find?, Shelf.get, Shelf.run, Cache.get, Cache.Entries.get?]

end Run

end MappedSql
