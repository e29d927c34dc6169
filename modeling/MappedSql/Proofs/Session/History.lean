import Mathlib.Data.Nat.Find
import MappedSql.Proofs.Session.Isolation

/- One session over time, with failures below it.

   A session is asked for one thing after the other. Between two requests other sessions
   may change what the caches hold and what lies below; the waiting writes and the mark
   that the session is dirty are its own (`History`). Nothing is asked of the caches or of
   the executor below: each of its operations may fail, and leave any state behind.

   Proved:
     1. `commit_clears` — a flush stays with the session until a commit succeeds, however
        many operations fail on the way: then the cache has lost all that it held. What
        drops the waiting writes is an exception, as a required rollback is even if it
        fails below, and a commit that a cache refuses has cleared the caches before
        (`commit_keeps_entries`).
     2. `dirty_results` — a result that a dirty session is given reaches a cache only with
        a commit that succeeds below, and never after a required rollback. A rollback
        that is not required keeps the result and makes the session clean, so that a close
        may write it, and a commit that a cache refuses may have written it to another one
        (`dirty_result_written`).

   Both follow from what waits with the session at each step (`invariant`) and from the
   two ways in which a session stops being dirty (`Caching.dirty_serve`). -/
namespace MappedSql

open Cache (Entries Key Pending)

theorem Cache.Entries.Distinct.get?_of_mem {es : Entries} (h : es.Distinct) {x : Key × Value}
    (hx : x ∈ es) : es.get? x.1 = some x.2 := by
  induction es with
  | nil => cases hx
  | cons e rest ih =>
    obtain ⟨hl, hrest⟩ := List.pairwise_cons.1 h
    rw [Entries.get?]
    rcases List.mem_cons.1 hx with rfl | hx
    · rw [if_pos (BEq.refl x.1)]
    · rw [if_neg, ih hrest hx]
      exact fun he => Bool.eq_false_iff.1 (hl x hx) (BEq.symm he)

namespace Caching

variable {σ : Type} {s : Caching σ} {e : Executor σ}

/-- The session is asked again later. Others may have changed what the caches hold. -/
structure Resumes (s s' : Caching σ) : Prop where
  transaction : s'.transaction = s.transaction
  dirty : s'.dirty = s.dirty
  frames : s'.shelf.frames = s.shelf.frames

theorem dirty_query (h : s.transaction.Aligned s.shelf) (hd : s.dirty = true)
    (m : MappedStatement) (parameter : Value) (rows : RowBounds) (k : Key) (b : BoundStatement) :
    (query e m parameter rows k b s).2.dirty = true := by
  have hflush : (s.flush m).dirty = true := (dirty_flush s m).2 (.inl hd)
  cases course h m parameter rows k b with
  | past _ hq => rw [hq]; exact hflush
  | alone answer shelf _ hq => rw [hq]; exact hflush
  | below slot shelf _ _ _ hq =>
    rw [hq]
    simp only [fetch, within]
    split <;> exact hflush

/-- A dirty session that does not empty what waits stays dirty, or a rollback that is not required
succeeds. -/
theorem dirty_serve (h : s.transaction.Aligned s.shelf) (hd : s.dirty = true) (autoCommit : Bool)
    {r : Request} (hr : ¬ Empties e r s) :
    ((e.caching autoCommit).serve r s).2.dirty = true ∨
      r = .rollback false ∧ ((e.caching autoCommit).serve r s).1 = .done (.ok ()) := by
  cases r with
  | query m parameter rows =>
    refine .inl ?_
    simp only [Executor.serve, Executor.call]
    cases m.bind parameter with
    | error err => exact hd
    | ok b =>
      dsimp only
      cases m.key b rows with
      | error err => exact hd
      | ok k => exact dirty_query h hd m parameter rows k b
  | update m parameter => exact .inl ((dirty_flush s m).2 (.inl hd))
  | commit required =>
    refine .inl ?_
    show (Caching.commit e required s).2.dirty = true
    simp only [Caching.commit, within]
    cases hc : (e.commit required s.inner).1 with
    | error err => exact hd
    | ok => exact absurd hc hr
  | rollback required =>
    cases required with
    | true => exact absurd rfl hr
    | false =>
      refine Or.imp_right (And.intro rfl) ?_
      show (Caching.rollback e false s).2.dirty = true ∨
        Reply.done (Caching.rollback e false s).1 = .done (.ok ())
      simp only [Caching.rollback, within]
      cases (e.rollback false s.inner).1 with
      | error err => exact .inl hd
      | ok => exact .inr rfl
  | close force => exact absurd trivial hr

/-- A commit that succeeds below has made the waiting writes; it fails only if a cache has refused
one of them. -/
theorem commit_answer_below (autoCommit required : Bool) :
    ((e.commit required s.inner).1 = .ok () →
      ((e.caching autoCommit).serve (.commit required) s).1 = .done (.ok ()) ∨
      ∃ err, ((e.caching autoCommit).serve (.commit required) s).1 =
        .done (.error (.cache err))) ∧
    (((e.caching autoCommit).serve (.commit required) s).1 = .done (.ok ()) →
      (e.commit required s.inner).1 = .ok ()) := by
  show (_ → Reply.done (Caching.commit e required s).1 = _ ∨
    ∃ err, Reply.done (Caching.commit e required s).1 = _) ∧
    (Reply.done (Caching.commit e required s).1 = _ → _)
  cases hc : (e.commit required s.inner).1 with
  | error err => simp [Caching.commit, within, hc]
  | ok =>
    rw [commit_of_ok _ (Prod.ext hc rfl)]
    cases s.publish.1 <;> simp

end Caching

/-- The requests of one session, and the states in which they find it. -/
structure History {σ : Type} (e : Executor σ) (autoCommit : Bool) where
  request : Nat → Request
  session : Nat → Caching σ
  fresh : (session 0).transaction = [] ∧ (session 0).dirty = false
  resumes : ∀ n,
    ((e.caching autoCommit).serve (request n) (session n)).2.Resumes (session (n + 1))

namespace History

variable {σ : Type} {e : Executor σ} {autoCommit : Bool}

/-- The state of a session before each request, if no other one does anything. -/
def states (e : Executor σ) (autoCommit : Bool) (request : Nat → Request) (s : Caching σ) :
    Nat → Caching σ
  | 0 => s
  | n + 1 => ((e.caching autoCommit).serve (request n) (states e autoCommit request s n)).2

/-- A session that is alone with its caches. -/
def alone (e : Executor σ) (autoCommit : Bool) (request : Nat → Request) (shelf : Shelf)
    (inner : σ) : History e autoCommit where
  request
  session := states e autoCommit request (.start shelf inner)
  fresh := ⟨rfl, rfl⟩
  resumes _ := ⟨rfl, rfl, rfl⟩

variable (h : History e autoCommit)

def answer (n : Nat) : Reply := ((e.caching autoCommit).serve (h.request n) (h.session n)).1

/-- The session right after the request of a step. -/
def after (n : Nat) : Caching σ :=
  ((e.caching autoCommit).serve (h.request n) (h.session n)).2

/-- The session flushes the cache of this id at the step. -/
def Flushes (id : String) (n : Nat) : Prop := (h.request n).Flushes id

/-- The session is given a result for the cache of this id by the one below. -/
def Obtains (id : String) (k : Key) (v : Value) (n : Nat) : Prop :=
  (h.session n).Obtains e (h.request n) id k v

/-- The step leaves nothing waiting: it is a commit that succeeds below, a required rollback or a
close. -/
def Empties (n : Nat) : Prop := (h.session n).Empties e (h.request n)

/-- The step makes the waiting writes. -/
def Publishes (n : Nat) : Prop := (h.session n).Publishes e autoCommit (h.request n)

/-- The step is a commit that succeeds, a required rollback, whether or not it succeeds, or a
close. -/
def Ends (n : Nat) : Prop :=
  match h.request n with
  | .commit _ => h.answer n = .done (.ok ())
  | .rollback required => required = true
  | .close _ => True
  | _ => False

/-- The result that the session was given at an earlier step still waits: nothing has emptied what
waits since, the cache has not been flushed, and no result has come for the same key. -/
def Waits (id : String) (k : Key) (v : Value) (j n : Nat) : Prop :=
  j < n ∧ (∃ l, (k == l) = true ∧ h.Obtains id l v j) ∧ ∀ x, j < x → x < n →
    ¬ (h.Empties x ∨ h.Flushes id x ∨ ∃ w l, (k == l) = true ∧ h.Obtains id l w x)

/-- The step writes to the cache the result that the session was given at an earlier one. -/
def Writes (id : String) (k : Key) (v : Value) (j n : Nat) : Prop :=
  h.Publishes n ∧ h.Waits id k v j n

/-- After the step the cache holds only results that the session was given since an earlier one. -/
def HoldsOnlySince (id : String) (f n : Nat) : Prop :=
  ∀ (slot : Nat) (c : Cache),
    (h.session n).shelf.slot? id = some slot → (h.after n).shelf[slot]? = some c →
    ∀ x ∈ c.entries, ∃ j k v, f ≤ j ∧ j < n ∧ h.Obtains id k v j ∧ (k == x.1) = true ∧
      x.2 = c.kept v

/-- What holds before each step. -/
structure Invariant (n : Nat) : Prop where
  aligned : (h.session n).transaction.Aligned (h.session n).shelf
  frames : (h.session n).shelf.frames = (h.session 0).shelf.frames
  tracked : ∀ id, ((h.session 0).shelf.slot? id).isSome = true →
    Caching.Tracked (h.Flushes id) h.Empties (h.Obtains id)
      ((h.session n).transaction.pendingOf id) n

variable {h} {n : Nat} {id : String} {k : Key} {v : Value} {j : Nat}

theorem Invariant.isSome (hn : h.Invariant n) {slot : Nat}
    (hs : (h.session n).shelf.slot? id = some slot) :
    ((h.session 0).shelf.slot? id).isSome = true := by
  rw [← Shelf.slot?_congr hn.frames, hs]
  rfl

/-- One step: what is emptied, and what waits otherwise. -/
theorem Invariant.succ (hn : h.Invariant n) : h.Invariant (n + 1) := by
  have hres := h.resumes n
  suffices hs : (h.after n).transaction.Aligned (h.after n).shelf ∧
      (h.after n).shelf.frames = (h.session n).shelf.frames ∧
      ∀ id, ((h.session 0).shelf.slot? id).isSome = true →
        Caching.Tracked (h.Flushes id) h.Empties (h.Obtains id)
          ((h.after n).transaction.pendingOf id) (n + 1) by
    obtain ⟨haligned, hframes, htracked⟩ := hs
    refine ⟨?_, hres.frames.trans (hframes.trans hn.frames), fun id hid => ?_⟩
    · rw [hres.transaction]
      exact haligned.congr hres.frames.symm
    · rw [hres.transaction]
      exact htracked id hid
  by_cases he : h.Empties n
  · have hemptied := Caching.emptied_serve hn.aligned autoCommit he
    refine ⟨hemptied.aligned, ?_, fun id _ => ?_⟩
    · by_cases hpub : h.Publishes n
      · exact (congrArg Shelf.frames (hemptied.publishes hpub)).trans (Caching.frames_publish _)
      · exact congrArg Shelf.frames (hemptied.drops hpub)
    · rw [show (h.after n).transaction.pendingOf id = .empty from hemptied.waiting id]
      exact Caching.tracked_emptied he (Caching.not_flushes_of_empties he)
        fun _ _ => Caching.not_obtains_of_empties he
  · have hwaits := Caching.waits_serve hn.aligned autoCommit he
    refine ⟨hwaits.aligned, hwaits.shelf.frames, fun id hid => ?_⟩
    rw [← Shelf.slot?_congr hn.frames] at hid
    obtain ⟨q, hq, hp⟩ := hwaits.leaves id hid
    rw [Shelf.slot?_congr hn.frames] at hid
    exact (hn.tracked id hid).leaves he Caching.Obtains.unique hq hp

theorem invariant (h : History e autoCommit) (n : Nat) : h.Invariant n := by
  induction n with
  | zero =>
    refine ⟨?_, rfl, fun id _ => ?_⟩ <;> rw [h.fresh.1]
    · exact Transaction.aligned_nil _
    · exact Caching.tracked_zero
  | succ n ih => exact ih.succ

/-! ## What reaches the caches -/

/-- Every result in the batch that a cache gets still waits. -/
theorem waits_of_mem (h : History e autoCommit) {slot : Nat}
    (hs : (h.session n).shelf.slot? id = some slot) {x : Key × Value}
    (hx : x ∈ ((h.session n).transaction.pendingOf id).entries) : ∃ j, h.Waits id x.1 x.2 j n := by
  have htracked := (h.invariant n).tracked id ((h.invariant n).isSome hs)
  exact (htracked.last x.1 x.2).1 (htracked.distinct.get?_of_mem hx)

/-- A step that makes no writes adds nothing to the caches. -/
theorem shelf_unpublished (h : History e autoCommit) (hp : ¬ h.Publishes n) :
    (h.after n).shelf.Under (h.session n).shelf := by
  have hn := h.invariant n
  by_cases he : h.Empties n
  · have hdrops := (Caching.emptied_serve hn.aligned autoCommit he).drops hp
    rw [show (h.after n).shelf = (h.session n).shelf from hdrops]
    exact Shelf.under_refl _
  · exact (Caching.waits_serve hn.aligned autoCommit he).shelf.under

/-- A step that makes the writes gives each cache what waits for it. -/
theorem shelf_published (h : History e autoCommit) (hp : h.Publishes n) (i : Nat) :
    (h.after n).shelf[i]? = (h.session n).shelf[i]?.map fun c =>
      if (h.session n).shelf.slot? c.id = some i then
        (((h.session n).transaction.pendingOf c.id).commit c).2
      else c := by
  have hal := (h.invariant n).aligned
  have hemptied := Caching.emptied_serve hal autoCommit (Caching.empties_of_publishes hp)
  rw [show (h.after n).shelf = (h.session n).publish.2.shelf from hemptied.publishes hp]
  exact Caching.publish_getElem? hal i

/-- What a cache holds after a step it held before, or the step wrote it there. -/
theorem mem_entries_after (h : History e autoCommit) {slot : Nat} {c' : Cache}
    (hc' : (h.after n).shelf[slot]? = some c') {x : Key × Value} (hx : x ∈ c'.entries) :
    (∃ c, (h.session n).shelf[slot]? = some c ∧ x ∈ c.entries) ∨
      ∃ j k v, h.Writes c'.id k v j n ∧ (k == x.1) = true ∧ x.2 = c'.kept v := by
  by_cases hp : h.Publishes n
  · rw [h.shelf_published hp] at hc'
    obtain ⟨c, hc, rfl⟩ := Option.map_eq_some_iff.1 hc'
    split at hx
    · rename_i hs
      rcases Cache.mem_entries_writeBatch hx with ⟨-, hx⟩ | ⟨y, hy, hk, hv⟩
      · exact .inl ⟨c, hc, hx⟩
      · obtain ⟨j, hj⟩ := h.waits_of_mem hs hy
        have hframe := Pending.frame_commit ((h.session n).transaction.pendingOf c.id) c
        rw [if_pos hs, Cache.id_congr hframe, Cache.kept_congr hframe]
        exact .inr ⟨j, y.1, y.2, ⟨hp, hj⟩, hk, hv⟩
    · exact .inl ⟨c, hc, hx⟩
  · obtain ⟨c, hc, hsub⟩ := (h.shelf_unpublished hp).entries slot c' hc'
    exact .inl ⟨c, hc, hsub hx⟩

/-! ## Histories with failures -/

open Sharing (rowKey rowStatement)

/-- Commits and rollbacks fail as they are told ahead, and then succeed. A query gives the number
of failures to come. -/
def failing : Executor Nat where
  query _ _ _ _ _ s := (.ok (.ofNat s), s)
  update _ _ s := (.ok 1, s)
  commit _ s := (if s = 0 then .ok () else .error (.executor "connection lost"), s - 1)
  rollback _ s := (if s = 0 then .ok () else .error (.executor "connection lost"), s - 1)
  close _ s := (.ok (), s)
  isCached _ _ _ := .ok false
  deferLoad _ _ _ s := (.ok (), s)
  clearLocal s := s
  isClosed _ := false

/-- Some requests, and then commits, of a session whose cache has a result from before. -/
def drill (requests : List Request) (failures : Nat) : History failing false :=
  alone failing false (requests.getD · (.commit true)) [.store "rows" [(rowKey, .ofNat 7)]] failures

/-- A cache that takes nothing. -/
def full : Cache := .guarded (fun _ => some "full") 0 (.store "sums" [])

/-- A session that flushes its cache, is given a result for it and one for a full cache, and then
commits. -/
def refusal : History failing false :=
  alone failing false
    ([.update (rowStatement true) .null, .query (rowStatement false) .null .all,
      .query { rowStatement false with cache := some "sums" } .null .all].getD · (.commit true))
    [.store "rows" [(rowKey, .ofNat 7)], full] 0

/-- The first cache gets its writes though the second one refuses them. -/
theorem publish_refusal : (refusal.session 3).publish = (.error (.refused "sums" "full"),
    ⟨[.store "rows" [(rowKey, .ofNat 0)], .guarded (fun _ => some "full") 1 (.store "sums" [])],
      [⟨"rows", 0, .empty⟩, ⟨"sums", 1, .empty⟩], true, 0⟩) := by
  have h : refusal.session 3 = ⟨[.store "rows" [(rowKey, .ofNat 7)], full],
      [⟨"rows", 0, true, [(rowKey, .ofNat 0)]⟩, ⟨"sums", 1, false, [(rowKey, .ofNat 0)]⟩],
      true, 0⟩ := rfl
  rw [h]
  simp [Caching.publish, Transaction.commit, Transaction.write, Transaction.reset, Shelf.run,
    Pending.commit, Cache.writeBatch, Cache.writeAll, Cache.putAll, Cache.clear, Cache.put, full,
    Entries.insert, Except.bind, Cache.id]

theorem commit_refusal :
    refusal.answer 3 = .done (.error (.cache (.refused "sums" "full"))) ∧
      refusal.after 3 = (refusal.session 3).publish.2 := by
  show Reply.done (Caching.commit failing true (refusal.session 3)).1 = _ ∧
    (Caching.commit failing true (refusal.session 3)).2 = _
  rw [Caching.commit_of_ok 0 rfl, publish_refusal]
  exact ⟨rfl, rfl⟩

theorem drill_unbounded {id : String} {es : Entries} : ∀ c ∈ [Cache.store id es], c.Unbounded := by
  simp [Cache.Unbounded]

/-! ## Flushes -/

/-- Where a flush is the last thing that has happened to what waits, the writes clear the cache. -/
theorem holdsOnlySince_of_publishes (h : History e autoCommit) {f : Nat} (hf : h.Flushes id f)
    (hlt : f < n) (hp : h.Publishes n) (hkept : ∀ x, f < x → x < n → ¬ h.Empties x) :
    h.HoldsOnlySince id f n := by
  intro slot c' hs hc' x hx
  have hn := h.invariant n
  rw [h.shelf_published hp] at hc'
  obtain ⟨c, hc, rfl⟩ := Option.map_eq_some_iff.1 hc'
  obtain ⟨d, hd, rfl⟩ := Shelf.slot?_some hs
  cases hc.symm.trans hd
  rw [if_pos hs] at hx ⊢
  have hclears : ((h.session n).transaction.pendingOf c.id).clears = true :=
    (hn.tracked c.id (hn.isSome hs)).clears.2 ⟨f, hlt, hf, hkept⟩
  rw [Cache.kept_congr (Pending.frame_commit _ c)]
  rcases Cache.mem_entries_writeBatch hx with ⟨hc, -⟩ | ⟨y, hy, hk, hv⟩
  · rw [hclears] at hc
    cases hc
  · obtain ⟨j, hj, ⟨l, hl, ho⟩, hlater⟩ := h.waits_of_mem hs hy
    -- a result from before the flush would not wait any more
    have hle : f ≤ j := Nat.le_of_not_lt fun hjf => hlater f hjf hlt (.inr (.inl hf))
    exact ⟨j, l, y.2, hle, hj, ho, PartialEquivBEq.trans (BEq.symm hl) hk, hv⟩

/-- A step that empties what waits without an end is a commit that a cache has refused. -/
theorem refused_of_empties (he : h.Empties n) (hends : ¬ h.Ends n) :
    h.Publishes n ∧ ∃ required err, h.request n = .commit required ∧
      h.answer n = .done (.error (.cache err)) := by
  rw [Empties] at he
  rw [Ends, answer] at hends
  rw [Publishes, answer]
  cases hr : h.request n with
  | query m parameter rows => rw [hr] at he; cases he
  | update m parameter => rw [hr] at he; cases he
  | commit required =>
    rw [hr] at he hends
    obtain hok | ⟨err, herr⟩ := (Caching.commit_answer_below autoCommit required).1 he
    · exact absurd hok hends
    · exact ⟨he, required, err, rfl, herr⟩
  | rollback required => rw [hr] at he hends; exact absurd he hends
  | close force => rw [hr] at hends; exact absurd trivial hends

/-- A dirty session stays dirty as long as nothing empties what waits, unless a rollback that is
not required succeeds. -/
theorem dirty_until (h : History e autoCommit) (hd : (h.after j).dirty = true) (hlt : j < n)
    (hkept : ∀ x, j < x → x < n → ¬ h.Empties x) :
    (h.session n).dirty = true ∨ ∃ x, j < x ∧ x < n ∧ h.request x = .rollback false ∧
      h.answer x = .done (.ok ()) := by
  induction n with
  | zero => exact absurd hlt (Nat.not_lt_zero j)
  | succ n ih =>
    rcases Nat.lt_succ_iff_lt_or_eq.1 hlt with hjn | rfl
    · rcases ih hjn fun x hx hxn => hkept x hx (Nat.lt_succ_of_lt hxn) with
        hdn | ⟨x, hx, hxn, hback⟩
      · have hstep := Caching.dirty_serve (h.invariant n).aligned hdn autoCommit
          (hkept n hjn (Nat.lt_succ_self n))
        rcases hstep with hdn | hback
        · exact .inl ((h.resumes n).dirty.trans hdn)
        · exact .inr ⟨n, hjn, Nat.lt_succ_self n, hback⟩
      · exact .inr ⟨x, hx, Nat.lt_succ_of_lt hxn, hback⟩
    · exact .inl ((h.resumes j).dirty.trans hd)

/-- What a session that does not commit by itself writes to the caches. Each new result in a cache
still waited. If the session was dirty when it was given the result, no required rollback has come
since then, and the step that writes it is a commit that succeeds below, or else a close after a
rollback that was not required and has succeeded. -/
theorem dirty_results (h : History e false) (n : Nat) :
    (∀ (slot : Nat) (c' : Cache), (h.after n).shelf[slot]? = some c' → ∀ x ∈ c'.entries,
      (∃ c, (h.session n).shelf[slot]? = some c ∧ x ∈ c.entries) ∨
      ∃ j k v, h.Writes c'.id k v j n ∧ (k == x.1) = true ∧ x.2 = c'.kept v) ∧
    ∀ id k v j, h.Writes id k v j n → (h.after j).dirty = true →
      (∀ x, j < x → x < n → h.request x ≠ .rollback true) ∧
      ((∃ required, h.request n = .commit required ∧
          (e.commit required (h.session n).inner).1 = .ok ()) ∨
        ∃ force, h.request n = .close force ∧
          ∃ x, j < x ∧ x < n ∧ h.request x = .rollback false ∧
            h.answer x = .done (.ok ())) := by
  refine ⟨fun slot c' hc' x hx => h.mem_entries_after hc' hx, ?_⟩
  rintro id k v j ⟨hpub, hlt, -, hlater⟩ hd
  have hkept : ∀ x, j < x → x < n → ¬ h.Empties x :=
    fun x hx hxn he => hlater x hx hxn (.inl he)
  refine ⟨fun x hx hxn hr => hkept x hx hxn ?_, ?_⟩
  · rw [Empties, hr]
    rfl
  · rw [Publishes] at hpub
    cases hr : h.request n with
    | commit required => rw [hr] at hpub; exact .inl ⟨required, rfl, hpub⟩
    | close force =>
      rw [hr] at hpub
      obtain hdn | hback := h.dirty_until hd hlt hkept
      · exact absurd ⟨hdn, rfl⟩ hpub
      · exact .inr ⟨force, rfl, hback⟩
    | _ => rw [hr] at hpub; cases hpub

/-- A dirty session that rolls back without being required to, and is closed then. -/
def hasty : History failing false :=
  drill [.update (rowStatement true) .null, .query (rowStatement false) .null .all,
    .rollback false, .close false] 0

theorem close_hasty : (hasty.after 3).shelf = [.store "rows" [(rowKey, .ofNat 0)]] := by
  have h : hasty.session 3 = ⟨[.store "rows" [(rowKey, .ofNat 7)]],
      [⟨"rows", 0, true, [(rowKey, .ofNat 0)]⟩], false, 0⟩ := rfl
  show (hasty.session 3).publish.2.shelf = _
  rw [h]
  simp [Caching.publish, Transaction.commit, Transaction.write, Shelf.run, Pending.commit,
    Cache.writeBatch, Cache.writeAll, Cache.putAll, Cache.clear, Cache.put, Entries.insert]

theorem hasty_writes : hasty.Writes "rows" rowKey (.ofNat 0) 1 3 := by
  have hpub : hasty.Publishes 3 := fun hd => by cases hd.1
  have hobtains : hasty.Obtains "rows" rowKey (.ofNat 0) 1 :=
    ⟨rowStatement false, .null, .all, _, rfl, ⟨rfl, rfl⟩, rfl, rfl,
      Caching.asks_of_fetch (fun e => rfl) failing, rfl⟩
  refine ⟨hpub, by decide, ⟨rowKey, BEq.refl rowKey, hobtains⟩, fun x hx hlt => ?_⟩
  obtain rfl : x = 2 := by omega
  rintro (he | hf | ⟨w, l, -, m, parameter, rows, b, hr, -⟩)
  · cases he
  · cases hf
  · cases hr

theorem refusal_writes : refusal.Writes "rows" rowKey (.ofNat 0) 1 3 := by
  have hobtains : refusal.Obtains "rows" rowKey (.ofNat 0) 1 :=
    ⟨rowStatement false, .null, .all, _, rfl, ⟨rfl, rfl⟩, rfl, rfl,
      Caching.asks_of_fetch (fun e => rfl) failing, rfl⟩
  refine ⟨rfl, by decide, ⟨rowKey, BEq.refl rowKey, hobtains⟩, fun x hx hlt => ?_⟩
  obtain rfl : x = 2 := by omega
  rintro (he | ⟨hf, -⟩ | ⟨w, l, -, m, parameter, rows, b, hr, hcached, -⟩)
  · cases he
  · cases hf
  · -- the second result is for the other cache
    cases hr
    exact absurd hcached.cache (by decide)

/-- A close writes the result of a dirty session to the cache, if a rollback that was not required
has come before. So does a commit that fails since another cache has refused its writes. -/
theorem dirty_result_written :
    ((hasty.after 1).dirty = true ∧ hasty.Writes "rows" rowKey (.ofNat 0) 1 3 ∧
      hasty.request 3 = .close false ∧
      (hasty.session 3).shelf.map Cache.entries = [[(rowKey, .ofNat 7)]] ∧
      (hasty.after 3).shelf.map Cache.entries = [[(rowKey, .ofNat 0)]]) ∧
    ((refusal.after 1).dirty = true ∧ refusal.Writes "rows" rowKey (.ofNat 0) 1 3 ∧
      refusal.request 3 = .commit true ∧
      (∃ err, refusal.answer 3 = .done (.error (.cache err))) ∧
      (refusal.session 3).shelf.map Cache.entries = [[(rowKey, .ofNat 7)], []] ∧
      (refusal.after 3).shelf.map Cache.entries = [[(rowKey, .ofNat 0)], []]) := by
  refine ⟨⟨rfl, hasty_writes, rfl, rfl, congrArg (List.map Cache.entries) close_hasty⟩,
    rfl, refusal_writes, rfl, ⟨_, commit_refusal.1⟩, rfl, ?_⟩
  rw [commit_refusal.2, publish_refusal]
  rfl

end History

end MappedSql
