import MappedSql.Proofs.Cache.Replacement
import MappedSql.Proofs.Cache.Unbounded

/- The end of a transaction over stores that refuse puts.

   A guard in front of a store may refuse any put. A batch stops at the first put that is
   refused, so the store has then got a front of the batch (`Roomy.commit`). The other
   caches do not suffer from it: every cache of a transaction gets exactly what waits for
   it, whatever the caches before it have answered (`Kept.write_getElem?`), and the
   answer fails if and only if one of theirs does (`Kept.write_error_iff`). Both need that
   the caches of a transaction are different ones, which is so however the transaction has
   come about (`Held.kept`). -/
namespace MappedSql

namespace Cache

namespace Entries

/-- Results under keys that are all different stand behind each other. -/
theorem overwrite_eq_append {es new : Entries} (h : Distinct (es ++ new)) :
    es.overwrite new = es ++ new := by
  induction new generalizing es with
  | nil => exact (List.append_nil es).symm
  | cons e rest ih =>
    obtain ⟨k, v⟩ := e
    have hnew : es.get? k = none := by
      refine Option.eq_none_iff_forall_ne_some.2 fun w hw => ?_
      obtain ⟨l, hl, hkl, -⟩ := mem_of_get? hw
      have hlk := (List.pairwise_append.1 h).2.2 l hl (k, v) List.mem_cons_self
      exact Bool.eq_false_iff.1 hlk (BEq.symm hkl)
    show (es.insert k v).overwrite rest = es ++ (k, v) :: rest
    rw [insert_of_absent hnew, ih (by rwa [List.append_assoc]), List.append_assoc]
    rfl

theorem Distinct.perm {es fs : Entries} (h : es.Distinct) (hp : fs.Perm es) : fs.Distinct :=
  (hp.pairwise_iff fun hab => Bool.eq_false_iff.2 fun hba =>
    Bool.eq_false_iff.1 hab (BEq.symm hba)).2 h

end Entries

/-! ## Refusals -/

/-- Whether a cache keeps all that it does not refuse: a store, perhaps with counts, locks and
guards around it. -/
def Roomy : Cache → Prop
  | .store _ _ => True
  | .counted _ _ inner => inner.Roomy
  | .locked inner => inner.Roomy
  | .guarded _ _ inner => inner.Roomy
  | _ => False

/-- How many of the puts that came to the guards of a cache they have refused. -/
def refusals : Cache → Nat
  | .store _ _ => 0
  | .leastRecent _ _ _ inner => inner.refusals
  | .firstIn _ _ _ inner => inner.refusals
  | .timed _ inner => inner.refusals
  | .snapshots inner => inner.refusals
  | .counted _ _ inner => inner.refusals
  | .locked inner => inner.refusals
  | .guarded reason n inner => (List.range n).countP (fun m => (reason m).isSome) + inner.refusals

@[simp] theorem refusals_clear (c : Cache) : c.clear.refusals = c.refusals := by
  induction c <;> simp_all [clear, refusals]

/-- What has become of a cache to which results were put one after the other: it has got a front of
them, all if no guard has refused one, and the answer tells whether one has. -/
structure Wrote (c : Cache) (es : Entries) (answer : Except Error Unit) (after : Cache) : Prop where
  roomy : after.Roomy
  front : ∃ done, done <+: es ∧ after.entries = c.entries.overwrite done ∧
    (answer = .ok () → done = es)
  refused : (∃ e, answer = .error e) ↔ c.refusals < after.refusals
  grown : c.refusals ≤ after.refusals

theorem Roomy.clear {c : Cache} (h : c.Roomy) : c.clear.Roomy ∧ c.clear.entries = [] := by
  induction c with
  | store id es => exact ⟨trivial, rfl⟩
  | counted t b inner ih => exact ih h
  | locked inner ih => exact ih h
  | guarded reason n inner ih => exact ih h
  | _ => cases h

theorem Roomy.put {c : Cache} (h : c.Roomy) (k : Key) (v : Value) :
    Wrote c [(k, v)] (c.put k v).1 (c.put k v).2 := by
  induction c with
  | store id es =>
    rw [put_store]
    exact ⟨trivial, ⟨_, List.prefix_refl _, rfl, fun _ => rfl⟩, by simp [refusals], Nat.le_refl _⟩
  | counted t b inner ih =>
    obtain ⟨hroomy, hfront, hrefused, hgrown⟩ := ih h
    rw [Cache.put]
    exact ⟨hroomy, hfront, hrefused, hgrown⟩
  | locked inner ih =>
    obtain ⟨hroomy, hfront, hrefused, hgrown⟩ := ih h
    rw [Cache.put]
    exact ⟨hroomy, hfront, hrefused, hgrown⟩
  | guarded reason n inner ih =>
    obtain ⟨hroomy, hfront, hrefused, hgrown⟩ := ih h
    rw [Cache.put]
    cases hn : reason n with
    | some why =>
      refine ⟨h, ⟨[], List.nil_prefix, rfl, fun he => by cases he⟩, ?_, ?_⟩ <;>
        simp [refusals, List.range_succ, hn]
    | none =>
      refine ⟨hroomy, hfront, hrefused.trans ?_, ?_⟩
      · simp [refusals, List.range_succ, hn]
      · simpa [refusals, List.range_succ, hn] using hgrown
  | _ => cases h

theorem Roomy.putAll {c : Cache} (h : c.Roomy) (es : Entries) :
    Wrote c es (c.putAll es).1 (c.putAll es).2 := by
  induction es generalizing c with
  | nil =>
    exact ⟨h, ⟨[], List.prefix_refl _, rfl, fun _ => rfl⟩, by simp [Cache.putAll], Nat.le_refl _⟩
  | cons e rest ih =>
    obtain ⟨k, v⟩ := e
    have hput := h.put k v
    rw [Cache.putAll]
    rcases hp : c.put k v with ⟨err | ⟨⟩, d⟩ <;> rw [hp] at hput
    · -- the batch ends with the put that is refused
      obtain ⟨done, hdone, hentries, -⟩ := hput.front
      exact ⟨hput.roomy, ⟨done, hdone.trans ⟨rest, rfl⟩, hentries, fun he => by cases he⟩,
        hput.refused, hput.grown⟩
    · obtain ⟨done, hdone, hentries, hall⟩ := hput.front
      cases hall rfl
      have hsame : d.refusals = c.refusals := by
        refine Nat.le_antisymm (Nat.le_of_not_lt fun hlt => ?_) hput.grown
        obtain ⟨err, herr⟩ := hput.refused.2 hlt
        cases herr
      have hrest := ih hput.roomy
      obtain ⟨done, hdone, hentries', hall'⟩ := hrest.front
      rw [hentries] at hentries'
      exact ⟨hrest.roomy, ⟨(k, v) :: done, (List.prefix_cons_inj _).2 hdone, hentries',
        fun he => congrArg _ (hall' he)⟩, hsame ▸ hrest.refused, hsame ▸ hrest.grown⟩

theorem Roomy.writeBatch {c : Cache} (h : c.Roomy) (clears : Bool) (es : Entries) :
    Wrote (if clears then c.clear else c) es (c.writeBatch clears es).1
      (c.writeBatch clears es).2 := by
  induction c with
  | store id own =>
    cases clears
    · exact Roomy.putAll h es
    · exact Roomy.putAll h.clear.1 es
  | guarded reason n inner ih =>
    cases clears
    · exact Roomy.putAll h es
    · exact Roomy.putAll h.clear.1 es
  | counted t b inner ih =>
    obtain ⟨hroomy, hfront, hrefused, hgrown⟩ := ih h
    cases clears <;> exact ⟨hroomy, hfront, hrefused, hgrown⟩
  | locked inner ih =>
    obtain ⟨hroomy, hfront, hrefused, hgrown⟩ := ih h
    cases clears <;> exact ⟨hroomy, hfront, hrefused, hgrown⟩
  | _ => cases h

/-- What a cache has after what waited for it was written: nothing from before if it was to be
cleared, and all that waited unless it has refused a put. -/
structure Committed (p : Pending) (c after : Cache) : Prop where
  cleared : p.clears = true → ∀ e ∈ after.entries, e ∈ p.entries
  complete : after.refusals = c.refusals → ∀ k, after.entries.get? k =
    (p.entries.get? k).or (if p.clears then none else c.entries.get? k)

theorem Roomy.commit {c : Cache} (h : c.Roomy) {p : Pending} (hp : p.entries.Distinct) :
    Committed p c (p.commit c).2 ∧
      ((∃ e, (p.commit c).1 = .error e) ↔ c.refusals < (p.commit c).2.refusals) := by
  have hwrote : Wrote (if p.clears then c.clear else c) p.entries (p.commit c).1 (p.commit c).2 :=
    h.writeBatch p.clears p.entries
  have hentries : (if p.clears then c.clear else c).entries =
      if p.clears then [] else c.entries := by
    cases p.clears
    · rfl
    · exact h.clear.2
  have hrefusals : (if p.clears then c.clear else c).refusals = c.refusals := by
    cases p.clears <;> simp
  obtain ⟨done, hdone, hafter, hall⟩ := hwrote.front
  rw [hentries] at hafter
  have hrefused := hwrote.refused
  rw [hrefusals] at hrefused
  refine ⟨⟨fun hc e he => ?_, fun hsame k => ?_⟩, hrefused⟩
  · have hdistinct : Entries.Distinct ([] ++ done) := List.Pairwise.sublist hdone.sublist hp
    rw [hafter, if_pos hc, Entries.overwrite_eq_append hdistinct] at he
    exact hdone.subset he
  · have hok : (p.commit c).1 = .ok () := by
      cases hr : (p.commit c).1 with
      | ok => rfl
      | error err => exact absurd (hrefused.1 ⟨err, hr⟩) (Nat.not_lt.2 (Nat.le_of_eq hsame))
    rw [hafter, hall hok, Entries.get?_overwrite hp]
    cases p.clears <;> rfl

end Cache

/-! ## What a session holds -/

namespace Transaction

open Cache (Pending Committed)

/-- What a session can hold for the caches of a shelf: it puts results and schedules clears, its end
of a transaction empties all that waits, and the caches on the shelf change as others use them.
Neither the caches nor the results for one of them are held in an order of their own. -/
inductive Held : Transaction → Shelf → Prop where
  | start (s : Shelf) : Held [] s
  | put {t : Transaction} {s : Shelf} (h : Held t s) (slot : Nat) (k : Cache.Key) (v : Value) :
      Held (t.put s slot k v) s
  | clear {t : Transaction} {s : Shelf} (h : Held t s) (slot : Nat) : Held (t.clear s slot) s
  | reset {t : Transaction} {s : Shelf} (h : Held t s) : Held t.reset s
  | elsewhere {t : Transaction} {s s' : Shelf} (h : Held t s)
      (hids : s'.map Cache.id = s.map Cache.id) : Held t s'
  | reorder {t t' : Transaction} {s : Shelf} (h : Held t s) (hp : t'.Perm t) : Held t' s
  | shuffle {t : Transaction} {s : Shelf} (h : Held t s) (order : Buffered → Cache.Entries)
      (hp : ∀ b ∈ t, (order b).Perm b.pending.entries) :
      Held (t.map fun b => { b with pending := { b.pending with entries := order b } }) s

/-- Every cache has one entry, with a slot that holds a cache of its id, and one result at most
waits under a key. -/
structure Kept (t : Transaction) (s : Shelf) : Prop where
  distinct : (t.map (·.id)).Nodup
  slots : ∀ b ∈ t, (s.map Cache.id)[b.slot]? = some b.id
  keys : ∀ b ∈ t, b.pending.entries.Distinct

/-- What waits for the caches may be anything else, under different keys. -/
theorem Kept.map {t : Transaction} {s : Shelf} (h : t.Kept s) {f : Buffered → Pending}
    (hf : ∀ b ∈ t, (f b).entries.Distinct) : Kept (t.map fun b => { b with pending := f b }) s := by
  refine ⟨?_, fun b hb => ?_, fun b hb => ?_⟩
  · rw [List.map_map]
    exact h.distinct
  · obtain ⟨a, ha, rfl⟩ := List.mem_map.1 hb
    exact h.slots a ha
  · obtain ⟨a, ha, rfl⟩ := List.mem_map.1 hb
    exact hf a ha

theorem Kept.update {t : Transaction} {s : Shelf} (h : t.Kept s) (slot : Nat)
    {f : Pending → Pending} (hf : ∀ p : Pending, p.entries.Distinct → (f p).entries.Distinct) :
    (t.update s slot f).Kept s := by
  refine ⟨distinct_update h.distinct s slot f, fun b hb => ?_, fun b hb => ?_⟩
  · rcases mem_update hb with ⟨a, ha, hid, hslot, -⟩ | ⟨c, hc, rfl⟩
    · rw [hid, hslot]
      exact h.slots a ha
    · rw [List.getElem?_map, hc]
      rfl
  · rcases mem_update hb with ⟨a, ha, -, -, hp | hp⟩ | ⟨c, -, rfl⟩
    · rw [hp]
      exact h.keys a ha
    · rw [hp]
      exact hf _ (h.keys a ha)
    · exact hf _ Cache.Entries.distinct_nil

/-- However a transaction has come about, its caches are different ones. -/
theorem Held.kept {t : Transaction} {s : Shelf} (h : t.Held s) : t.Kept s := by
  induction h with
  | start s => exact ⟨List.nodup_nil, by simp, by simp⟩
  | put h slot k v ih => exact ih.update slot fun p hp => hp.insert k v
  | clear h slot ih => exact ih.update slot fun p _ => Cache.Entries.distinct_nil
  | reset h ih => exact ih.map fun _ _ => Cache.Entries.distinct_nil
  | elsewhere h hids ih => exact ⟨ih.distinct, fun b hb => hids ▸ ih.slots b hb, ih.keys⟩
  | reorder h hp ih =>
    exact ⟨(hp.map _).nodup_iff.2 ih.distinct, fun b hb => ih.slots b (hp.subset hb),
      fun b hb => ih.keys b (hp.subset hb)⟩
  | shuffle h order hp ih => exact ih.map fun b hb => (ih.keys b hb).perm (hp b hb)

/-! ## The writes of a transaction -/

section

variable {b : Buffered} {rest t : Transaction} {s : Shelf}

theorem Kept.slot (h : t.Kept s) (hb : b ∈ t) : ∃ c, s[b.slot]? = some c ∧ c.id = b.id := by
  have := h.slots b hb
  rw [List.getElem?_map] at this
  exact Option.map_eq_some_iff.1 this

/-- After the first cache has got its writes, the others still wait for theirs. -/
theorem Kept.tail (h : Kept (b :: rest) s) {c : Cache} (hc : s[b.slot]? = some c) :
    Kept rest (s.set b.slot (b.pending.commit c).2) := by
  have hids : (s.set b.slot (b.pending.commit c).2).map Cache.id = s.map Cache.id := by
    rw [← Shelf.ids_frames, Shelf.frames_set hc (Pending.frame_commit b.pending c),
      Shelf.ids_frames]
  have hdistinct := h.distinct
  rw [List.map_cons, List.nodup_cons] at hdistinct
  exact ⟨hdistinct.2, fun a ha => hids ▸ h.slots a (List.mem_cons_of_mem _ ha),
    fun a ha => h.keys a (List.mem_cons_of_mem _ ha)⟩

/-- No other cache is in the slot of the first one. -/
theorem Kept.slot_ne (h : Kept (b :: rest) s) {a : Buffered} (ha : a ∈ rest) :
    a.slot ≠ b.slot := by
  intro he
  have hb := h.slots b List.mem_cons_self
  rw [← he, h.slots a (List.mem_cons_of_mem _ ha)] at hb
  have hdistinct := h.distinct
  rw [List.map_cons, List.nodup_cons] at hdistinct
  exact hdistinct.1 (Option.some.inj hb ▸ List.mem_map_of_mem ha)

theorem write_untouched {i : Nat} (h : ∀ a ∈ t, a.slot ≠ i) : (write s t).2[i]? = s[i]? := by
  induction t generalizing s with
  | nil => rfl
  | cons b rest ih =>
    simp only [write]
    rw [ih fun a ha => h a (List.mem_cons_of_mem _ ha), Shelf.run]
    split
    · exact List.getElem?_set_ne (h b List.mem_cons_self)
    · rfl

/-- Every cache gets what waits for it, whatever the others answer. -/
theorem Kept.write_getElem? (h : t.Kept s) (hb : b ∈ t) {c : Cache} (hc : s[b.slot]? = some c) :
    (write s t).2[b.slot]? = some (b.pending.commit c).2 := by
  induction t generalizing s with
  | nil => cases hb
  | cons a rest ih =>
    obtain ⟨d, hd, -⟩ := h.slot (List.mem_cons_self (l := rest))
    simp only [write, Shelf.run_some hd]
    rcases List.mem_cons.1 hb with rfl | hb
    · rw [hd] at hc
      cases hc
      rw [write_untouched fun x hx => h.slot_ne hx,
        List.getElem?_set_self (List.getElem?_eq_some_iff.1 hd).1]
    · refine ih (h.tail hd) hb ?_
      rw [List.getElem?_set_ne (h.slot_ne hb).symm, hc]

/-- The writes fail if and only if those of some cache do. -/
theorem Kept.write_error_iff (h : t.Kept s) : (∃ e, (write s t).1 = .error e) ↔
    ∃ b ∈ t, ∃ c, s[b.slot]? = some c ∧ ∃ e, (b.pending.commit c).1 = .error e := by
  induction t generalizing s with
  | nil => simp [write]
  | cons a rest ih =>
    obtain ⟨d, hd, -⟩ := h.slot (List.mem_cons_self (l := rest))
    have hrest := ih (h.tail hd)
    have hsame : ∀ b ∈ rest, (s.set a.slot (a.pending.commit d).2)[b.slot]? = s[b.slot]? :=
      fun b hb => List.getElem?_set_ne (h.slot_ne hb).symm
    simp only [write, Shelf.run_some hd, Option.getD_some, List.mem_cons, exists_eq_or_imp, hd,
      Option.some.injEq, exists_eq_left']
    cases (a.pending.commit d).1 with
    | error e => simp [Except.bind]
    | ok =>
      simp only [Except.bind, reduceCtorEq, exists_false, false_or, hrest]
      exact exists_congr fun b => and_congr_right fun hb => by rw [hsame b hb]

end

theorem not_isPending_reset (t : Transaction) : t.reset.isPending = false := by
  simp [isPending, reset, Pending.isPending, Pending.empty]

/-- The end of a transaction over caches that keep all that they do not refuse. It fails if and only
if some cache has refused a put, and nothing waits any more. Every cache of the transaction has got
its clear and, unless it has refused a put itself, all its results: refusals of other caches do not
matter, whichever comes first. -/
theorem commit_over_refusals {t : Transaction} {s : Shelf} (h : t.Held s)
    (hroomy : ∀ b ∈ t, ∀ c, s[b.slot]? = some c → c.Roomy) :
    ((∃ e, (t.commit s).1 = .error e) ↔ ∃ b ∈ t, ∃ c after, s[b.slot]? = some c ∧
        (t.commit s).2.2[b.slot]? = some after ∧ c.refusals < after.refusals) ∧
      (t.commit s).2.1.isPending = false ∧
      ∀ b ∈ t, ∃ c after, s[b.slot]? = some c ∧ (t.commit s).2.2[b.slot]? = some after ∧
        Committed b.pending c after := by
  have hkept := h.kept
  have hwrote : ∀ b ∈ t, ∀ c, s[b.slot]? = some c → _ := fun b hb c hc =>
    (hroomy b hb c hc).commit (hkept.keys b hb)
  refine ⟨hkept.write_error_iff.trans (exists_congr fun b => and_congr_right fun hb => ?_),
    not_isPending_reset t, fun b hb => ?_⟩
  · constructor
    · rintro ⟨c, hc, he⟩
      exact ⟨c, _, hc, hkept.write_getElem? hb hc, (hwrote b hb c hc).2.1 he⟩
    · rintro ⟨c, after, hc, hafter, hlt⟩
      rw [show (t.commit s).2.2[b.slot]? = _ from hkept.write_getElem? hb hc] at hafter
      cases hafter
      exact ⟨c, hc, (hwrote b hb c hc).2.2 hlt⟩
  · obtain ⟨c, hc, -⟩ := hkept.slot hb
    exact ⟨c, _, hc, hkept.write_getElem? hb hc, (hwrote b hb c hc).1⟩

/-- Two caches with an old result each. The guard of the first one refuses its second put, and the
one of the second cache refuses none. -/
def refusingShelf : Shelf :=
  [.guarded (fun n => if n = 1 then some "put refused" else none) 0
      (.store "a" [(Cache.named "old", .null)]),
    .locked (.guarded (fun _ => none) 0 (.store "b" [(Cache.named "old", .null)]))]

/-- Two results wait for the first cache, which is to be cleared, and one for the second. -/
def waitingForTwo : Transaction :=
  (((Transaction.clear [] refusingShelf 0).put refusingShelf 0 (Cache.named "x") .null).put
    refusingShelf 0 (Cache.named "y") .null).put refusingShelf 1 (Cache.named "x") (.bool true)

theorem commit_over_refusals_second :
    waitingForTwo.Held refusingShelf ∧
    (∀ b ∈ waitingForTwo, ∀ c, refusingShelf[b.slot]? = some c → c.Roomy) ∧
    (∃ e, (waitingForTwo.commit refusingShelf).1 = .error e) ∧
    (waitingForTwo.commit refusingShelf).2.2.map Cache.entries =
      [[(Cache.named "x", .null)], [(Cache.named "old", .null), (Cache.named "x", .bool true)]] ∧
    (waitingForTwo.commit refusingShelf).2.1.isPending = false ∧
    ∀ b ∈ waitingForTwo, ∃ c after, refusingShelf[b.slot]? = some c ∧
      (waitingForTwo.commit refusingShelf).2.2[b.slot]? = some after ∧
      Committed b.pending c after := by
  have hheld : waitingForTwo.Held refusingShelf :=
    ((((Held.start _).clear 0).put 0 _ _).put 0 _ _).put 1 _ _
  have hroomy : ∀ b ∈ waitingForTwo, ∀ c, refusingShelf[b.slot]? = some c → c.Roomy :=
    fun b _ c hc => by
      rcases List.mem_cons.1 (List.mem_of_getElem? hc) with rfl | hc
      · exact trivial
      · cases List.mem_singleton.1 hc
        exact trivial
  have hanswer : (waitingForTwo.commit refusingShelf).1 = .error (.refused "a" "put refused") := by
    cbv
  exact ⟨hheld, hroomy, ⟨_, hanswer⟩, by cbv, (commit_over_refusals hheld hroomy).2⟩

end Transaction

end MappedSql
