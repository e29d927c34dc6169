import MappedSql.Proofs.Session.Steps

/- A session does not notice its cache.

   A database has a state that a session works on and a permanent one to which a rollback
   returns (`Transactional`). A cached query reads alone, and a statement that may change
   its answer flushes its cache (`Coherent`). Then a session with caches before the
   database, all empty at first, is answered every query as without them
   (`answers_caching`).

   The two runs are compared step by step (`Related`). What a cache holds is right for
   the permanent state, and for the state of the session too unless a clear of the cache
   waits; what waits with the session is right for the state of the session. A session
   that may ask the caches has no clear waiting. -/
namespace MappedSql

open Cache (Key Pending)

variable {σ D : Type}

/-! ## Keys of calls -/

/-- The key of a call from what the call depends on. -/
def callKey (id : String) (rows : RowBounds) (sql : String) (values : List Value) : Key :=
  ⟨.str id :: .ofNat rows.offset :: .ofNat rows.limit :: .str sql :: values⟩

theorem key_eq_ok {m : MappedStatement} {b : BoundStatement} {rows : RowBounds} {k : Key} :
    m.key b rows = .ok k ↔ ∃ values, MappedStatement.keyValues b b.mappings = .ok values ∧
      k = callKey m.id rows b.sql values := by
  unfold MappedStatement.key
  cases MappedStatement.keyValues b b.mappings with
  | error err =>
    constructor
    · intro h
      cases h
    · rintro ⟨values, h, -⟩
      cases h
  | ok values =>
    constructor
    · intro h
      exact ⟨values, rfl, (Except.ok.inj h).symm⟩
    · rintro ⟨values', h, rfl⟩
      cases h
      rfl

/-- Calls of one key differ at most in how their values are written. -/
theorem callKey_beq {id id' : String} {rows rows' : RowBounds} {sql sql' : String}
    {values values' : List Value}
    (h : (callKey id rows sql values == callKey id' rows' sql' values') = true) :
    id = id' ∧ rows = rows' ∧ sql = sql' ∧ Value.sameItems values values' = true := by
  rw [Key.beq_def, Bool.and_eq_true] at h
  simp only [callKey, Value.sameItems, Value.same, Value.ofNat, Number.same, Bool.and_eq_true,
    beq_iff_eq, Int.natCast_inj] at h
  obtain ⟨⟨hid, hoffset, hlimit, hsql, hvalues⟩, -⟩ := h
  exact ⟨hid, by cases rows; cases rows'; simp_all, hsql, hvalues⟩

/-! ## Databases with transactions -/

/-- A database behind an executor that never fails. Its answers depend on the state that the
session works on, and on no more of the call than its key. -/
structure Transactional (e : Executor σ) (D : Type) where
  /-- The state that the session works on. -/
  current : σ → D
  /-- The state to which a rollback returns. -/
  permanent : σ → D
  rows : D → String → RowBounds → String → List Value → Value
  /-- What a query makes of the state. -/
  afterQuery : MappedStatement → Value → RowBounds → D → D
  /-- What an update makes of the state. -/
  afterUpdate : MappedStatement → Value → D → D
  same : ∀ d id rb sql {values values'}, Value.sameItems values values' = true →
    rows d id rb sql values = rows d id rb sql values'
  query : ∀ m parameter rb b values s, m.bind parameter = .ok b →
    MappedStatement.keyValues b b.mappings = .ok values →
    ∃ s', e.query m parameter rb (callKey m.id rb b.sql values) b s =
        (.ok (rows (current s) m.id rb b.sql values), s') ∧
      current s' = afterQuery m parameter rb (current s) ∧ permanent s' = permanent s
  update : ∀ m parameter s, ∃ n s', e.update m parameter s = (.ok n, s') ∧
    current s' = afterUpdate m parameter (current s) ∧ permanent s' = permanent s
  commit : ∀ required s, ∃ s', e.commit required s = (.ok (), s') ∧
    current s' = current s ∧ permanent s' = current s
  rollback : ∀ s, ∃ s', e.rollback true s = (.ok (), s') ∧
    current s' = permanent s ∧ permanent s' = permanent s

namespace Transactional

variable {e : Executor σ} (t : Transactional e D) (registered : MappedStatement → Prop)

/-- A change of the state that leaves the answers of all queries cached under this id. -/
def Preserves (id : String) (d d' : D) : Prop :=
  ∀ q, registered q → q.CachedIn id → ∀ rb sql values,
    t.rows d' q.id rb sql values = t.rows d q.id rb sql values

/-- What a set of statements has to keep to if their results are to be cached. -/
structure Coherent : Prop where
  /-- Cached results do not come back through parameters. -/
  inputs : ∀ m, registered m → ∀ id, m.CachedIn id → ∀ parameter b, m.bind parameter = .ok b →
    b.mappings.any (!·.isInputOnly) = false
  /-- Queries whose results are cached do not write. -/
  reads : ∀ m, registered m → ∀ id, m.CachedIn id → ∀ parameter rb d,
    t.afterQuery m parameter rb d = d
  /-- A write that may change the answer of a cached query flushes its cache. -/
  query_flushes : ∀ m, registered m → ∀ id parameter rb d,
    ¬ t.Preserves registered id d (t.afterQuery m parameter rb d) →
    m.flushes = true ∧ m.cache = some id
  update_flushes : ∀ m, registered m → ∀ id parameter d,
    ¬ t.Preserves registered id d (t.afterUpdate m parameter d) →
    m.flushes = true ∧ m.cache = some id

/-- A result is what the database answers in this state to a query whose results go to the cache
of this id, and whose key is this one. -/
def Right (d : D) (id : String) (k : Key) (v : Value) : Prop :=
  ∃ q rb sql values, registered q ∧ q.CachedIn id ∧
    (callKey q.id rb sql values == k) = true ∧ v = t.rows d q.id rb sql values

variable {t registered}

theorem Right.preserved {d d' : D} {id : String} {k : Key} {v : Value}
    (h : t.Right registered d id k v) (hd : t.Preserves registered id d d') :
    t.Right registered d' id k v := by
  obtain ⟨q, rb, sql, values, hq, hc, hk, rfl⟩ := h
  exact ⟨q, rb, sql, values, hq, hc, hk, (hd q hq hc rb sql values).symm⟩

theorem Right.congr {d : D} {id : String} {k l : Key} {v : Value}
    (h : t.Right registered d id k v) (hk : (k == l) = true) : t.Right registered d id l v := by
  obtain ⟨q, rb, sql, values, hq, hc, hqk, hv⟩ := h
  exact ⟨q, rb, sql, values, hq, hc, PartialEquivBEq.trans hqk hk, hv⟩

/-- A result that is right under the key of a call is the answer to the call. -/
theorem Right.answer {d : D} {id sql sid : String} {rb : RowBounds} {values : List Value}
    {v : Value} (h : t.Right registered d id (callKey sid rb sql values) v) :
    v = t.rows d sid rb sql values := by
  obtain ⟨q, rb', sql', values', -, -, hk, rfl⟩ := h
  obtain ⟨hid, rfl, rfl, hvalues⟩ := callKey_beq hk
  rw [hid]
  exact t.same d sid rb' sql' hvalues

/-! ## The two runs side by side -/

/-- A session with caches and one without that have the same state of the database below. -/
structure Related (t : Transactional e D) (registered : MappedStatement → Prop) (s : Caching σ)
    (u : σ) : Prop where
  current : t.current s.inner = t.current u
  permanent : t.permanent s.inner = t.permanent u
  aligned : s.transaction.Aligned s.shelf
  restores : ∀ c ∈ s.shelf.frames, ∀ d id rb sql values,
    c.reading (t.rows d id rb sql values) = .ok (some (t.rows d id rb sql values))
  stored : ∀ (i : Nat) (c : Cache), s.shelf[i]? = some c → s.shelf.slot? c.id = some i →
    ∀ x ∈ c.entries, ∃ v, x.2 = c.kept v ∧ t.Right registered (t.permanent u) c.id x.1 v ∧
      ((s.transaction.pendingOf c.id).clears = false →
        t.Right registered (t.current u) c.id x.1 v)
  waiting : ∀ id, ∀ x ∈ (s.transaction.pendingOf id).entries,
    t.Right registered (t.current u) id x.1 x.2
  clean : s.dirty = false → ∀ id, (s.transaction.pendingOf id).clears = false

variable {s s' : Caching σ} {u u' : σ} {m : MappedStatement}

/-- A statement that is carried out below keeps the two related: it flushes what it changes. -/
theorem Related.flushed (h : t.Related registered s u)
    (hm : ∀ id, ¬ t.Preserves registered id (t.current u) (t.current u') →
      m.flushes = true ∧ m.cache = some id)
    (hc : t.current s'.inner = t.current u') (hp : t.permanent s'.inner = t.permanent u')
    (hu : t.permanent u' = t.permanent u) (hs : s'.shelf.Under s.shelf)
    (ht : s'.transaction = (s.flush m).transaction) (hd : s'.dirty = (s.flush m).dirty) :
    t.Related registered s' u' := by
  have keeps : ∀ id, ¬ s.Clears m id → (s.shelf.slot? id).isSome = true →
      t.Preserves registered id (t.current u) (t.current u') := by
    intro id hn hslot
    apply Classical.byContradiction
    intro hpres
    exact hn ⟨(hm id hpres).1, (hm id hpres).2, hslot⟩
  refine ⟨hc, hp, ?_, by rw [hs.frames]; exact h.restores, ?_, ?_, ?_⟩
  · rw [ht]
    exact (Caching.aligned_flush h.aligned m).congr hs.frames.symm
  · intro i c' hc' hslot x hx
    obtain ⟨c, hc, hframe, hsub⟩ := hs.cache hc'
    rw [Cache.id_congr hframe] at hslot ⊢
    rw [Shelf.slot?_congr hs.frames] at hslot
    rw [Cache.kept_congr hframe, hu, ht]
    obtain ⟨v, hv, hperm, hcur⟩ := h.stored i c hc hslot x (hsub hx)
    refine ⟨v, hv, hperm, ?_⟩
    rcases s.pendingOf_flush m c.id with ⟨-, hpend⟩ | ⟨hn, hpend⟩ <;> rw [hpend]
    · intro hfalse
      cases hfalse
    · intro hfalse
      exact (hcur hfalse).preserved (keeps c.id hn (by rw [hslot]; rfl))
  · intro id x hx
    rw [ht] at hx
    rcases s.pendingOf_flush m id with ⟨-, hpend⟩ | ⟨hn, hpend⟩ <;> rw [hpend] at hx
    · cases hx
    · exact (h.waiting id x hx).preserved (keeps id hn (h.aligned.slot_of_waiting hx))
  · intro hfalse id
    rw [hd, ← Bool.not_eq_true, s.dirty_flush m] at hfalse
    rw [ht]
    rcases s.pendingOf_flush m id with ⟨hyes, -⟩ | ⟨-, hpend⟩
    · exact absurd (.inr ⟨id, hyes⟩) hfalse
    · rw [hpend]
      exact h.clean (by rw [← Bool.not_eq_true]; exact fun hs => hfalse (.inl hs)) id

/-- A result that is right for the state of the session may wait with it. -/
theorem Related.put (h : t.Related registered s u) {slot : Nat} {id : String}
    (hi : s.shelf.slot? id = some slot) {k : Key} {v : Value}
    (hv : t.Right registered (t.current u) id k v) :
    t.Related registered { s with transaction := s.transaction.put s.shelf slot k v } u := by
  have clears : ∀ id', ((s.transaction.put s.shelf slot k v).pendingOf id').clears =
      (s.transaction.pendingOf id').clears := by
    intro id'
    rw [Transaction.pendingOf_put hi]
    split
    · rename_i he
      subst he
      rfl
    · rfl
  refine ⟨h.current, h.permanent, h.aligned.put hi k v, h.restores, ?_, ?_, ?_⟩
  · intro i c hc hslot x hx
    dsimp only
    rw [clears]
    exact h.stored i c hc hslot x hx
  · intro id' x hx
    dsimp only at hx
    rw [Transaction.pendingOf_put hi] at hx
    split at hx
    · rename_i he
      subst he
      rcases Cache.Entries.mem_insert hx with hx | ⟨hk, hx⟩
      · exact h.waiting id' x hx
      · rw [hx]
        exact hv.congr hk
    · exact h.waiting id' x hx
  · intro hd id'
    dsimp only
    rw [clears]
    exact h.clean hd id'

/-- A lookup gives nothing, or a result that is right for the permanent state, and for the state of
the session if no clear waits. -/
theorem Related.lookup (h : t.Related registered s u) {i : Nat} {c : Cache}
    (hc : s.shelf[i]? = some c) (hi : s.shelf.slot? c.id = some i) (k : Key) :
    (c.get k).1 = .ok none ∨ ∃ v, (c.get k).1 = .ok (some v) ∧
      ((s.transaction.pendingOf c.id).clears = false →
        t.Right registered (t.current u) c.id k v) := by
  rcases Cache.get_result c k with hn | ⟨x, hx, hk, hg⟩
  · exact .inl hn
  · obtain ⟨v, hv, hperm, hcur⟩ := h.stored i c hc hi x hx
    have hread : c.reading v = .ok (some v) := by
      obtain ⟨q, rb, sql, values, -, -, -, rfl⟩ := hperm
      have hmem : c.frame ∈ s.shelf.frames :=
        List.mem_map_of_mem (List.mem_iff_getElem?.2 ⟨i, hc⟩)
      rw [← Cache.reading_frame]
      exact h.restores c.frame hmem _ q.id rb sql values
    refine .inr ⟨v, ?_, fun hfalse => (hcur hfalse).congr (BEq.symm hk)⟩
    rw [hg, hv]
    exact hread

/-- The waiting writes are right for what becomes permanent with them. -/
theorem Related.published (h : t.Related registered s u)
    (hs : s'.shelf = s.publish.2.shelf) (ht : s'.transaction = s.publish.2.transaction)
    (hc : t.current s'.inner = t.current u') (hp : t.permanent s'.inner = t.permanent u')
    (hcu : t.current u' = t.current u) (hpu : t.permanent u' = t.current u) :
    t.Related registered s' u' := by
  have hframes : s'.shelf.frames = s.shelf.frames := by rw [hs, Caching.frames_publish]
  have hempty : ∀ id, s'.transaction.pendingOf id = .empty := by
    intro id
    rw [ht, Caching.pendingOf_publish]
  refine ⟨hc, hp, ?_, by rw [hframes]; exact h.restores, ?_, ?_, ?_⟩
  · rw [hs, ht]
    exact Caching.aligned_publish h.aligned
  · intro i c' hc' hslot x hx
    rw [Shelf.slot?_congr hframes] at hslot
    rw [hs, Caching.publish_getElem? h.aligned] at hc'
    obtain ⟨c, hci, hc'⟩ := Option.map_eq_some_iff.1 hc'
    have hframe : c'.frame = c.frame := by
      rw [← hc']
      split
      · exact Pending.frame_commit _ c
      · rfl
    rw [Cache.id_congr hframe] at hslot
    rw [if_pos hslot] at hc'
    rw [Cache.id_congr hframe, Cache.kept_congr hframe, hcu, hpu]
    have right : ∃ v, x.2 = c.kept v ∧ t.Right registered (t.current u) c.id x.1 v := by
      rw [← hc'] at hx
      rcases Cache.mem_entries_writeBatch hx with ⟨hfalse, hx⟩ | ⟨y, hy, hk, hv⟩
      · obtain ⟨v, hv, -, hcur⟩ := h.stored i c hci hslot x hx
        exact ⟨v, hv, hcur hfalse⟩
      · exact ⟨y.2, hv, (h.waiting c.id y hy).congr hk⟩
    obtain ⟨v, hv, hright⟩ := right
    exact ⟨v, hv, hright, fun _ => hright⟩
  · intro id x hx
    rw [hempty] at hx
    cases hx
  · intro _ id
    rw [hempty]
    rfl

theorem Related.rolledBack (h : t.Related registered s u) (hs : s'.shelf = s.shelf)
    (ht : s'.transaction = s.transaction.reset) (hc : t.current s'.inner = t.current u')
    (hp : t.permanent s'.inner = t.permanent u') (hcu : t.current u' = t.permanent u)
    (hpu : t.permanent u' = t.permanent u) : t.Related registered s' u' := by
  refine ⟨hc, hp, ?_, by rw [hs]; exact h.restores, ?_, ?_, ?_⟩
  · rw [hs, ht]
    exact h.aligned.reset
  · intro i c hci hslot x hx
    rw [hs] at hci hslot
    rw [hcu, hpu]
    obtain ⟨v, hv, hperm, -⟩ := h.stored i c hci hslot x hx
    exact ⟨v, hv, hperm, fun _ => hperm⟩
  · intro id x hx
    rw [ht, Transaction.pendingOf_reset] at hx
    cases hx
  · intro _ id
    rw [ht, Transaction.pendingOf_reset]
    rfl

/-! ## Runs -/

/-- The requests of a run: statements of the set, commits, and rollbacks that are required. -/
def Admits (registered : MappedStatement → Prop) : Request → Prop
  | .query m _ _ => registered m
  | .update m _ => registered m
  | .commit _ => True
  | .rollback required => required = true
  | .close _ => False

theorem Related.query (h : t.Related registered s u) (hco : t.Coherent registered)
    (hm : registered m) {parameter : Value} {rb : RowBounds} {b : BoundStatement} {k : Key}
    (hb : m.bind parameter = .ok b) (hk : m.key b rb = .ok k) :
    (Caching.query e m parameter rb k b s).1 = (e.query m parameter rb k b u).1 ∧
      t.Related registered (Caching.query e m parameter rb k b s).2
        (e.query m parameter rb k b u).2 := by
  obtain ⟨values, hvalues, rfl⟩ := key_eq_ok.1 hk
  obtain ⟨u', hu, hcu, hpu⟩ := t.query m parameter rb b values u hb hvalues
  obtain ⟨inner, hi, hci, hpi⟩ := t.query m parameter rb b values s.inner hb hvalues
  rw [h.current] at hi hci
  rw [h.permanent] at hpi
  rw [hu]
  have flushed : ∀ s' : Caching σ, t.current s'.inner = t.current u' →
      t.permanent s'.inner = t.permanent u' → s'.shelf.Under s.shelf →
      s'.transaction = (s.flush m).transaction → s'.dirty = (s.flush m).dirty →
      t.Related registered s' u' := by
    intro s' hc hp hs ht hd
    refine h.flushed (fun id hne => ?_) hc hp hpu hs ht hd
    exact hco.query_flushes m hm id parameter rb (t.current u) (by rwa [← hcu])
  have hq := Caching.queried h.aligned e m parameter rb (callKey m.id rb b.sql values) b
  generalize Caching.query e m parameter rb (callKey m.id rb b.sql values) b s = answer at hq ⊢
  cases hq with
  | past hpast =>
    simp only [Caching.within, Caching.inner_flush, hi]
    refine ⟨trivial, flushed _ (hci.trans hcu.symm) (hpi.trans hpu.symm) ?_ rfl rfl⟩
    rw [Caching.shelf_flush]
    exact Shelf.under_refl _
  | refused slot hs huse ho =>
    obtain ⟨id, hc, -⟩ := Caching.slot?_eq_some.1 hs
    rw [hco.inputs m hm id ⟨hc, huse⟩ parameter b hb] at ho
    cases ho
  | hit slot c v hs huse hc hd hp hv =>
    obtain ⟨hcache, hslot⟩ := Caching.slot?_cache hs hc
    have hsame : t.current u' = t.current u :=
      hcu.trans (hco.reads m hm c.id ⟨hcache, huse⟩ parameter rb _)
    have hopen : (s.transaction.pendingOf c.id).clears = false := by
      rcases s.pendingOf_flush m c.id with ⟨-, hpend⟩ | ⟨-, hpend⟩ <;> rw [hpend] at hp
      · cases hp
      · exact hp
    rcases h.lookup hc hslot (callKey m.id rb b.sql values) with hn | ⟨w, hw, hright⟩
    · rw [hn] at hv
      cases hv
    · rw [hw] at hv
      cases hv
      refine ⟨by rw [(hright hopen).answer], flushed _ ?_ ?_ ?_ rfl rfl⟩
      · rw [hsame, ← h.current]
        exact congrArg t.current (Caching.inner_flush s m)
      · rw [hpu, ← h.permanent]
        exact congrArg t.permanent (Caching.inner_flush s m)
      · exact Shelf.under_set hc (Cache.frame_get _ c) (Cache.entries_get _ c)
  | failed slot c err hs huse hc hv =>
    obtain ⟨-, hslot⟩ := Caching.slot?_cache hs hc
    rcases h.lookup hc hslot (callKey m.id rb b.sql values) with hn | ⟨w, hw, -⟩ <;>
      rw [hv] at *
    · cases hn
    · cases hw
  | fetched slot shelf hs huse hshelf =>
    obtain ⟨id, hcache, hslot⟩ := Caching.slot?_eq_some.1 hs
    have hsame : t.current u' = t.current u :=
      hcu.trans (hco.reads m hm id ⟨hcache, huse⟩ parameter rb _)
    simp only [Caching.fetch, Caching.within, Caching.inner_flush, hi]
    refine ⟨trivial, ?_⟩
    have hrel := flushed { s.flush m with shelf, inner } (hci.trans hcu.symm)
      (hpi.trans hpu.symm) hshelf rfl rfl
    refine hrel.put ((Shelf.slot?_congr hshelf.frames id).trans hslot) ?_
    exact ⟨m, rb, b.sql, values, hm, ⟨hcache, huse⟩, BEq.refl _, by rw [hsame]⟩

end Transactional

/-- The answer to a query among the replies. -/
def Reply.rows? : Reply → Option (Except MapperError Value)
  | .rows answer => some answer
  | _ => none

/-- The answers to the queries among the requests. -/
def Executor.answers (e : Executor σ) : List Request → σ → List (Except MapperError Value)
  | [], _ => []
  | r :: rest, s => (e.serve r s).1.rows?.toList ++ e.answers rest (e.serve r s).2

namespace Transactional

variable {e : Executor σ} {t : Transactional e D} {registered : MappedStatement → Prop}
  {s : Caching σ} {u : σ}

theorem Related.serve (h : t.Related registered s u) (hco : t.Coherent registered)
    (autoCommit : Bool) {r : Request} (hr : Admits registered r) :
    ((e.caching autoCommit).serve r s).1.rows? = (e.serve r u).1.rows? ∧
      t.Related registered ((e.caching autoCommit).serve r s).2 (e.serve r u).2 := by
  cases r with
  | query m parameter rb =>
    simp only [Executor.serve, Executor.call]
    cases hb : m.bind parameter with
    | error err => exact ⟨rfl, h⟩
    | ok b =>
      dsimp only
      cases hk : m.key b rb with
      | error err => exact ⟨rfl, h⟩
      | ok k =>
        obtain ⟨hanswer, hrel⟩ := h.query hco hr hb hk
        exact ⟨congrArg some hanswer, hrel⟩
  | update m parameter =>
    obtain ⟨n, u', hu, hcu, hpu⟩ := t.update m parameter u
    obtain ⟨n', inner, hi, hci, hpi⟩ := t.update m parameter s.inner
    rw [h.current] at hci
    rw [h.permanent] at hpi
    refine ⟨rfl, ?_⟩
    show t.Related registered (Caching.update e m parameter s).2 (e.update m parameter u).2
    simp only [Caching.update, Caching.within, Caching.inner_flush, hi, hu]
    refine h.flushed (m := m) ?_ (hci.trans hcu.symm) (hpi.trans hpu.symm) hpu ?_ rfl rfl
    · intro id hne
      exact hco.update_flushes m hr id parameter (t.current u) (by rwa [← hcu])
    · rw [Caching.shelf_flush]
      exact Shelf.under_refl _
  | commit required =>
    obtain ⟨u', hu, hcu, hpu⟩ := t.commit required u
    obtain ⟨inner, hi, hci, hpi⟩ := t.commit required s.inner
    rw [h.current] at hci hpi
    refine ⟨rfl, ?_⟩
    show t.Related registered (Caching.commit e required s).2 (e.commit required u).2
    rw [Caching.commit_of_ok _ hi, hu]
    split <;>
      exact h.published rfl rfl (hci.trans hcu.symm) (hpi.trans hpu.symm) hcu hpu
  | rollback required =>
    cases (show required = true from hr)
    obtain ⟨u', hu, hcu, hpu⟩ := t.rollback u
    obtain ⟨inner, hi, hci, hpi⟩ := t.rollback s.inner
    rw [h.permanent] at hci hpi
    refine ⟨rfl, ?_⟩
    show t.Related registered (Caching.rollback e true s).2 (e.rollback true u).2
    simp only [Caching.rollback, Caching.within, hi, hu]
    exact h.rolledBack rfl rfl (hci.trans hcu.symm) (hpi.trans hpu.symm) hcu hpu
  | close force => cases hr

theorem Related.answers (h : t.Related registered s u) (hco : t.Coherent registered)
    (autoCommit : Bool) (requests : List Request) (hr : ∀ r ∈ requests, Admits registered r) :
    (e.caching autoCommit).answers requests s = e.answers requests u := by
  induction requests generalizing s u with
  | nil => rfl
  | cons r rest ih =>
    obtain ⟨hanswer, hrel⟩ := h.serve hco autoCommit (hr r List.mem_cons_self)
    simp only [Executor.answers]
    rw [hanswer, ih hrel fun r' hr' => hr r' (List.mem_cons_of_mem r hr')]

/-- The number that a session works on and the permanent one; an update that flushes adds one. -/
def counter : Executor (Nat × Nat) where
  query _ _ _ _ _ s := (.ok (.ofNat s.1), s)
  update m _ s := (.ok 1, (if m.flushes then s.1 + 1 else s.1, s.2))
  commit _ s := (.ok (), (s.1, s.1))
  rollback _ s := (.ok (), (s.2, s.2))
  close _ s := (.ok (), s)
  isCached _ _ _ := .ok false
  deferLoad _ _ _ s := (.ok (), s)
  clearLocal s := s
  isClosed _ := false

def counted : Transactional counter Nat where
  current := Prod.fst
  permanent := Prod.snd
  rows d _ _ _ _ := .ofNat d
  afterQuery _ _ _ d := d
  afterUpdate m _ d := if m.flushes then d + 1 else d
  same _ _ _ _ _ _ _ := rfl
  query _ _ _ _ _ s _ _ := ⟨s, rfl, rfl, rfl⟩
  update _ _ _ := ⟨_, _, rfl, rfl, rfl⟩
  commit _ _ := ⟨_, rfl, rfl, rfl⟩
  rollback _ := ⟨_, rfl, rfl, rfl⟩

/-- A cached query of the number, or a statement that raises it. -/
def statement (flushes : Bool) : MappedStatement :=
  ⟨if flushes then "number.raise" else "number.get", .fixed ⟨"call number()", []⟩, .unknown,
    .prepared, some "number", flushes, !flushes, none, none⟩

theorem counted_coherent : counted.Coherent fun m => ∃ flushes, m = statement flushes := by
  refine ⟨?_, fun _ _ _ _ _ _ _ => rfl, ?_, ?_⟩
  · rintro m ⟨flushes, rfl⟩ id hc parameter b hb
    cases hb
    rfl
  · intro m hm id parameter rb d hne
    exact absurd (fun _ _ _ _ _ _ => rfl) hne
  · rintro m ⟨flushes, rfl⟩ id parameter d hne
    cases flushes with
    | false => exact absurd (fun _ _ _ _ _ _ => rfl) hne
    | true =>
      refine ⟨rfl, ?_⟩
      by_cases hid : id = "number"
      · rw [hid]
        rfl
      · refine absurd ?_ hne
        rintro q ⟨flushes, rfl⟩ hq
        exact absurd (Option.some.inj hq.cache).symm hid

/-- A run with a rollback and a commit. -/
def raises : List Request :=
  [.query (statement false) .null .all, .update (statement true) .null,
    .query (statement false) .null .all, .rollback true, .query (statement false) .null .all,
    .update (statement true) .null, .commit true, .query (statement false) .null .all]

/-- The empty cache of the number. -/
def numberShelf : Shelf := [.leastRecent 4 [] 0 (.store "number" [])]

end Transactional

end MappedSql
