import MappedSql.Proofs.Session.Interleaving
import MappedSql.Proofs.Session.Requests

/- What a session changes in the caches that it shares.

   Until a session publishes, the others see nothing of it in the caches; when it
   publishes, each cache becomes what the history of the session says. A cache
   that the session has flushed since what waited with it was last emptied loses what it
   had, and then gets, under each key, the last result that the session below has given
   since then and since the last flush. This holds for caches that keep all that is put,
   between the steps of any other sessions (`Sharing.entries_succ`).

   What a step leaves waiting is known (`Caching.Waits`, `Caching.Emptied`), and so is what
   waits after many (`Caching.Tracked`). What is left is that a step of one session
   changes nothing that waits with another one. -/
namespace MappedSql

open Cache (Entries Key Pending)

namespace Caching

variable {σ : Type} {s : Caching σ} {e : Executor σ}

theorem publish_answer (hu : ∀ c ∈ s.shelf, c.Unbounded) : s.publish.1 = .ok () :=
  Transaction.write_answer hu s.transaction

/-- Caches that keep all that is put refuse no commit. -/
theorem commit_answer (hu : ∀ c ∈ s.shelf, c.Unbounded) (autoCommit required : Bool) :
    ((e.caching autoCommit).serve (.commit required) s).1 =
      .done (e.commit required s.inner).1 := by
  show Reply.done (Caching.commit e required s).1 = _
  cases hc : (e.commit required s.inner).1 with
  | error err => simp only [Caching.commit, within, hc]
  | ok => rw [commit_of_ok _ (Prod.ext hc rfl), publish_answer hu]

end Caching

/-! ## A run of sessions -/

/-- A run of sessions over the same caches, which keep all that is put and have different ids. -/
structure Sharing (ι ω σ : Type) where
  executor : Executor (ω × σ)
  autoCommit : ι → Bool
  shelf : Shelf
  unbounded : ∀ c ∈ shelf, c.Unbounded
  distinct : (shelf.map Cache.id).Nodup
  common : ω
  inner : ι → σ
  schedule : Nat → ι × Request

namespace Sharing

variable {ι ω σ : Type} [DecidableEq ι] (r : Sharing ι ω σ)

/-- The sessions after the first steps of the run. -/
def world (n : Nat) : Sessions ι ω σ :=
  (Sessions.start r.shelf r.common r.inner).run r.executor r.autoCommit r.schedule n

/-- The session of a step. -/
def actor (n : Nat) : Caching (ω × σ) := (r.world n).session (r.schedule n).1

/-- The answer to the request of a step, and its session afterwards. -/
def served (n : Nat) : Reply × Caching (ω × σ) :=
  (r.executor.caching (r.autoCommit (r.schedule n).1)).serve (r.schedule n).2 (r.actor n)

/-- The session flushes the cache of this id at the step. -/
def Flushes (i : ι) (id : String) (n : Nat) : Prop :=
  (r.schedule n).1 = i ∧ (r.schedule n).2.Flushes id

/-- The step leaves nothing waiting with the session: it is a commit that succeeds below, a
required rollback or a close. -/
def Empties (i : ι) (n : Nat) : Prop :=
  (r.schedule n).1 = i ∧ (r.actor n).Empties r.executor (r.schedule n).2

/-- The session is given a result for the cache of this id by the one below. -/
def Obtains (i : ι) (id : String) (k : Key) (v : Value) (n : Nat) : Prop :=
  (r.schedule n).1 = i ∧ (r.actor n).Obtains r.executor (r.schedule n).2 id k v

/-- The step is a commit that succeeds below, or a close of a session that is not dirty or commits
by itself. -/
def Publishes (n : Nat) : Prop :=
  (r.actor n).Publishes r.executor (r.autoCommit (r.schedule n).1) (r.schedule n).2

/-- The session has flushed the cache of this id since what waits with it was last emptied. -/
def Flushed (i : ι) (id : String) (n : Nat) : Prop :=
  Since (r.Flushes i id) (r.Empties i) n

/-- The session is given a result under this key. -/
def ObtainsFor (i : ι) (id : String) (k : Key) (v : Value) (n : Nat) : Prop :=
  ∃ l, (k == l) = true ∧ r.Obtains i id l v n

/-- The last result that the session was given under this key, since it last flushed the cache and
since what waits with it was last emptied. -/
def Last (i : ι) (id : String) (k : Key) (v : Value) (n : Nat) : Prop :=
  Since (r.ObtainsFor i id k v)
    (fun x => r.Empties i x ∨ r.Flushes i id x ∨ ∃ w, r.ObtainsFor i id k w x) n

/-- What waits with a session for a cache is what its history says. -/
def Tracked (i : ι) (id : String) (p : Pending) (n : Nat) : Prop :=
  Caching.Tracked (r.Flushes i id) (r.Empties i) (r.Obtains i id) p n

/-- What waits with a session for the cache of this id. -/
def pending (i : ι) (id : String) (n : Nat) : Pending :=
  ((r.world n).own i).transaction.pendingOf id

/-- What holds after any number of steps. -/
structure Invariant (n : Nat) : Prop where
  frames : (r.world n).shelf.frames = r.shelf.frames
  aligned : ∀ i, ((r.world n).own i).transaction.Aligned (r.world n).shelf
  tracked : ∀ i id, (r.shelf.slot? id).isSome = true → r.Tracked i id (r.pending i id n) n

variable {r} {n : Nat} {i : ι} {id : String}

theorem own_succ_of_ne (h : i ≠ (r.schedule n).1) : (r.world (n + 1)).own i = (r.world n).own i :=
  Sessions.own_withSession_of_ne _ h _

theorem own_succ_self : ((r.world (n + 1)).own (r.schedule n).1).transaction =
    (r.served n).2.transaction :=
  congrArg Private.transaction (Sessions.own_withSession_self _ _ _)

theorem shelf_succ : (r.world (n + 1)).shelf = (r.served n).2.shelf := rfl

theorem Invariant.unbounded (h : r.Invariant n) : ∀ c ∈ (r.world n).shelf, c.Unbounded :=
  Shelf.unbounded_congr h.frames r.unbounded

theorem Invariant.slot (h : r.Invariant n) {slot : Nat} {c : Cache}
    (hc : (r.world n).shelf[slot]? = some c) : (r.world n).shelf.slot? c.id = some slot := by
  refine Shelf.slot?_of_distinct ?_ hc
  rw [← Shelf.ids_frames, h.frames, Shelf.ids_frames]
  exact r.distinct

/-! ### What waits -/

/-- A session that is not asked has the same waiting as before. -/
theorem Tracked.idle {p : Pending} (h : r.Tracked i id p n) (hi : i ≠ (r.schedule n).1) :
    r.Tracked i id p (n + 1) :=
  Caching.Tracked.idle h (fun hn => hi hn.1.symm) (fun hn => hi hn.1.symm)
    fun _ _ hn => hi hn.1.symm

theorem tracked_emptied (h : r.Empties i n) : r.Tracked i id .empty (n + 1) :=
  Caching.tracked_emptied h (fun hf => Caching.not_flushes_of_empties h.2 hf.2)
    fun _ _ ho => Caching.not_obtains_of_empties h.2 ho.2

theorem Tracked.leaves {p : Pending} (h : r.Tracked i id p n) (hi : (r.schedule n).1 = i)
    (he : ¬ r.Empties i n) (hp : (r.actor n).transaction.pendingOf id = p)
    {s' : Caching (ω × σ)}
    (hl : Caching.Leaves r.executor (r.schedule n).2 id (r.actor n) s') :
    r.Tracked i id (s'.transaction.pendingOf id) (n + 1) := by
  obtain ⟨q, hq, hs'⟩ := hl
  refine Caching.Tracked.leaves h he (fun ho ho' => ho.2.unique ho'.2) (q := q) ?_ ?_
  · exact hq.imp (fun ⟨hf, hc⟩ => ⟨⟨hi, hf⟩, hc⟩)
      fun ⟨hf, hc⟩ => ⟨fun hn => hf hn.2, hc.trans hp⟩
  · exact hs'.imp (fun ⟨k, v, ho, hc⟩ => ⟨k, v, ⟨hi, ho⟩, hc⟩)
      fun ⟨hn, hc⟩ => ⟨fun k v ho => hn k v ho.2, hc⟩

/-! ### Every step -/

theorem invariant_zero (r : Sharing ι ω σ) : r.Invariant 0 := by
  exact ⟨rfl, fun _ => Transaction.aligned_nil _, fun _ _ _ => Caching.tracked_zero⟩

/-- One step. Only the session that is asked has something else waiting afterwards. -/
theorem Invariant.succ (h : r.Invariant n) : r.Invariant (n + 1) := by
  have hal : (r.actor n).transaction.Aligned (r.actor n).shelf := h.aligned _
  suffices hs : (r.served n).2.transaction.Aligned (r.served n).2.shelf ∧
      (r.served n).2.shelf.frames = (r.world n).shelf.frames ∧
      ∀ id, (r.shelf.slot? id).isSome = true → r.Tracked (r.schedule n).1 id
        ((r.served n).2.transaction.pendingOf id) (n + 1) by
    obtain ⟨haligned, hframes, htracked⟩ := hs
    refine ⟨hframes.trans h.frames, fun i => ?_, fun i id hid => ?_⟩
    · by_cases hi : i = (r.schedule n).1
      · rw [hi, own_succ_self]
        exact haligned
      · rw [own_succ_of_ne hi]
        exact (h.aligned i).congr hframes.symm
    · rw [pending]
      by_cases hi : i = (r.schedule n).1
      · rw [hi, own_succ_self]
        exact htracked id hid
      · rw [own_succ_of_ne hi]
        exact (h.tracked i id hid).idle hi
  by_cases he : r.Empties (r.schedule n).1 n
  · have hemptied := Caching.emptied_serve hal (r.autoCommit (r.schedule n).1) he.2
    refine ⟨hemptied.aligned, ?_, fun id hid => ?_⟩
    · by_cases hpub : r.Publishes n
      · exact (congrArg Shelf.frames (hemptied.publishes hpub)).trans (Caching.frames_publish _)
      · exact congrArg Shelf.frames (hemptied.drops hpub)
    · exact hemptied.waiting id ▸ tracked_emptied he
  · have hwaits := Caching.waits_serve hal (r.autoCommit (r.schedule n).1)
      (e := r.executor) (r := (r.schedule n).2) fun h' => he ⟨rfl, h'⟩
    refine ⟨hwaits.aligned, hwaits.shelf.frames, fun id hid => ?_⟩
    refine (h.tracked _ id hid).leaves rfl he rfl (hwaits.leaves id ?_)
    rwa [show (r.actor n).shelf.slot? id = r.shelf.slot? id from Shelf.slot?_congr h.frames id]

theorem invariant (r : Sharing ι ω σ) (n : Nat) : r.Invariant n := by
  induction n with
  | zero => exact r.invariant_zero
  | succ n ih => exact ih.succ

/-! ### What is published -/

theorem shelf_unpublished (r : Sharing ι ω σ) (h : ¬ r.Publishes n) :
    (r.world (n + 1)).shelf.map Cache.entries = (r.world n).shelf.map Cache.entries := by
  have hinv := r.invariant n
  by_cases he : r.Empties (r.schedule n).1 n
  · have hemptied := Caching.emptied_serve (hinv.aligned _) (r.autoCommit (r.schedule n).1) he.2
    exact congrArg (List.map Cache.entries) (hemptied.drops h)
  · have hwaits := Caching.waits_serve (hinv.aligned _)
      (r.autoCommit (r.schedule n).1) (e := r.executor) (r := (r.schedule n).2)
      fun h' => he ⟨rfl, h'⟩
    exact (hwaits.shelf.same hinv.unbounded).entries

theorem shelf_published (r : Sharing ι ω σ) (h : r.Publishes n) {slot : Nat} {c : Cache}
    (hc : (r.world n).shelf[slot]? = some c) :
    (r.world (n + 1)).shelf[slot]? = some ((r.pending (r.schedule n).1 c.id n).commit c).2 := by
  have hinv := r.invariant n
  have hal : (r.actor n).transaction.Aligned (r.actor n).shelf := hinv.aligned _
  have hemptied := Caching.emptied_serve hal (r.autoCommit (r.schedule n).1)
    (Caching.empties_of_publishes h)
  have hslot : (r.actor n).shelf.slot? c.id = some slot := hinv.slot hc
  have hc : (r.actor n).shelf[slot]? = some c := hc
  rw [shelf_succ, served, hemptied.publishes h, Caching.publish_getElem? hal, hc]
  simp only [Option.map_some, hslot, if_true]
  rfl

/-- What a session changes in the caches. A commit succeeds exactly if it does below. As long as
a session does not publish, every cache keeps its entries. When it publishes, every cache keeps
them, or none if the session has flushed it, except under the keys for which the session was
given results; there it has the last ones. -/
theorem entries_succ (r : Sharing ι ω σ) (n : Nat) :
    (∀ required, (r.schedule n).2 = .commit required →
      ((r.served n).1 = .done (.ok ()) ↔ r.Publishes n)) ∧
    (¬ r.Publishes n →
      (r.world (n + 1)).shelf.map Cache.entries = (r.world n).shelf.map Cache.entries) ∧
    (r.Publishes n → ∀ (slot : Nat) (c : Cache), (r.world n).shelf[slot]? = some c →
      ∃ c', (r.world (n + 1)).shelf[slot]? = some c' ∧ c'.id = c.id ∧ ∀ k,
        (∀ v, r.Last (r.schedule n).1 c.id k v n → c'.entries.get? k = some v) ∧
        ((∀ v, ¬ r.Last (r.schedule n).1 c.id k v n) →
          (r.Flushed (r.schedule n).1 c.id n → c'.entries.get? k = none) ∧
          (¬ r.Flushed (r.schedule n).1 c.id n →
            c'.entries.get? k = c.entries.get? k))) := by
  have hinv := r.invariant n
  refine ⟨fun required hr => ?_, r.shelf_unpublished, fun hpub slot c hc => ?_⟩
  · rw [served, Publishes, hr, Caching.commit_answer hinv.unbounded, Caching.Publishes,
      Reply.done.injEq]
  · have hunb := hinv.unbounded c (List.mem_of_getElem? hc)
    have hid : (r.shelf.slot? c.id).isSome = true := by
      rw [← Shelf.slot?_congr hinv.frames, hinv.slot hc]
      rfl
    have htracked := hinv.tracked (r.schedule n).1 c.id hid
    refine ⟨_, r.shelf_published hpub hc, Cache.id_congr (Pending.frame_commit _ c),
      fun k => ⟨fun v hv => ?_, fun hnone => ?_⟩⟩
    · rw [hunb.commit htracked.distinct, (htracked.last k v).2 hv, Option.some_or]
    · have hget : (r.pending (r.schedule n).1 c.id n).entries.get? k = none :=
        Option.eq_none_iff_forall_ne_some.2 fun v hv => hnone v ((htracked.last k v).1 hv)
      rw [hunb.commit htracked.distinct, hget, Option.none_or]
      refine ⟨fun hf => if_pos (htracked.clears.2 hf), fun hf => if_neg fun hc => ?_⟩
      exact hf (htracked.clears.1 hc)

/-! ### A flush between two results -/

/-- The rows of a table that all sessions see; an update adds one. -/
def rowCounter : Executor (Nat × Unit) where
  query _ _ _ _ _ s := (.ok (.ofNat s.1), s)
  update _ _ s := (.ok 1, (s.1 + 1, ()))
  commit _ s := (.ok (), s)
  rollback _ s := (.ok (), s)
  close _ s := (.ok (), s)
  isCached _ _ _ := .ok false
  deferLoad _ _ _ s := (.ok (), s)
  clearLocal s := s
  isClosed _ := false

/-- A cached query of the number of rows, or a statement that adds one. -/
def rowStatement (adds : Bool) : MappedStatement :=
  ⟨if adds then "rows.add" else "rows.count", .fixed ⟨"call rows()", []⟩, .unknown, .prepared,
    some "rows", adds, !adds, none, none⟩

def rowKey : Key :=
  ⟨[.str "rows.count", .ofNat 0, .ofNat RowBounds.all.limit, .str "call rows()"]⟩

/-- One session adds a row and counts, a second one adds a row too, and the first one commits. -/
def rowSchedule (n : Nat) : Bool × Request :=
  match n with
  | 0 => (false, .update (rowStatement true) .null)
  | 1 => (false, .query (rowStatement false) .null .all)
  | 2 => (true, .update (rowStatement true) .null)
  | _ => (false, .commit true)

/-- The cache has the count of an earlier time. -/
def recount : Sharing Bool Nat Unit where
  executor := rowCounter
  autoCommit _ := false
  shelf := [.locked (.counted .zero true (.store "rows" [(rowKey, .ofNat 7)]))]
  unbounded := by simp [Cache.Unbounded]
  distinct := by simp
  common := 0
  inner _ := ()
  schedule := rowSchedule

theorem recount_last : recount.Last false "rows" rowKey (.ofNat 1) 3 := by
  refine ⟨1, by decide, ⟨rowKey, BEq.refl rowKey, rfl, rowStatement false, .null, .all, _, rfl,
    ⟨rfl, rfl⟩, rfl, rfl, Caching.asks_of_fetch (fun e => rfl) rowCounter, rfl⟩, ?_⟩
  intro x hx hlt
  have hx : x = 2 := by omega
  subst hx
  rintro (⟨hi, -⟩ | ⟨hi, -⟩ | ⟨w, l, -, hi, -⟩) <;> cases hi

/-- The count from the time before is gone, and the one that the session was given is there. -/
theorem entries_succ_recount : recount.Publishes 3 ∧
    recount.Last false "rows" rowKey (.ofNat 1) 3 ∧
    ∃ c, (recount.world 4).shelf[0]? = some c ∧ c.entries.get? rowKey = some (.ofNat 1) := by
  have hpub : recount.Publishes 3 := rfl
  obtain ⟨c, hc, -, hk⟩ := (entries_succ recount 3).2.2 hpub 0 _ rfl
  exact ⟨hpub, recount_last, c, hc, (hk rowKey).1 (.ofNat 1) recount_last⟩

end Sharing

end MappedSql
