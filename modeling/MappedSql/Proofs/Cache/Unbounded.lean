import MappedSql.Proofs.Cache.Publishing

/- Caches that keep all that is put.

   Layers that count or lock leave the store behind them as it would be alone. Such a
   cache answers a lookup with what the store has (`Unbounded.get`), refuses nothing, and
   after the writes of a transaction the store has the results of the transaction and,
   under the other keys, what it had before unless the transaction clears
   (`Unbounded.commit`). -/
namespace MappedSql

namespace Cache

/-! ## Results under different keys -/

namespace Entries

/-- There is at most one result for a key. -/
def Distinct (es : Entries) : Prop := es.Pairwise fun a b => (a.1 == b.1) = false

/-- The results with others put over them, one after the other. -/
def overwrite (es new : Entries) : Entries := new.foldl (fun es e => es.insert e.1 e.2) es

theorem distinct_nil : Distinct [] := List.Pairwise.nil

theorem Distinct.insert {es : Entries} (h : es.Distinct) (k : Key) (v : Value) :
    (es.insert k v).Distinct := by
  induction es with
  | nil => exact List.pairwise_singleton _ _
  | cons e rest ih =>
    obtain ⟨l, w⟩ := e
    obtain ⟨hl, hrest⟩ := List.pairwise_cons.1 h
    simp only [Entries.insert]
    split
    · exact List.pairwise_cons.2 ⟨hl, hrest⟩
    · rename_i hk
      refine List.pairwise_cons.2 ⟨fun f hf => ?_, ih hrest⟩
      rcases mem_insert hf with hf | ⟨hkf, -⟩
      · exact hl f hf
      · exact Bool.eq_false_iff.2 fun hlf => hk (PartialEquivBEq.trans hkf (BEq.symm hlf))

/-- The results put over others win. -/
theorem get?_overwrite {es new : Entries} (h : new.Distinct) (k : Key) :
    (es.overwrite new).get? k = (new.get? k).or (es.get? k) := by
  induction new generalizing es with
  | nil => rfl
  | cons e rest ih =>
    obtain ⟨l, v⟩ := e
    obtain ⟨hl, hrest⟩ := List.pairwise_cons.1 h
    show ((es.insert l v).overwrite rest).get? k = _
    rw [ih hrest, get?_insert, Entries.get?]
    split
    · rename_i hk
      cases hg : get? rest k with
      | none => rfl
      | some w =>
        obtain ⟨f, hf, hkf, -⟩ := mem_of_get? hg
        exact absurd (PartialEquivBEq.trans (BEq.symm hk) hkf) (Bool.eq_false_iff.1 (hl f hf))
    · rfl

end Entries

/-! ## Counts and locks around a store -/

/-- Whether a cache is a store, perhaps with counts and locks around it. -/
def Unbounded : Cache → Prop
  | .store _ _ => True
  | .counted _ _ inner => inner.Unbounded
  | .locked inner => inner.Unbounded
  | _ => False

theorem unbounded_frame (c : Cache) : c.frame.Unbounded ↔ c.Unbounded := by
  induction c <;> simp_all [frame, Unbounded]

theorem Unbounded.get {c : Cache} (h : c.Unbounded) (k : Key) :
    (c.get k).1 = .ok (c.entries.get? k) ∧ (c.get k).2.entries = c.entries := by
  induction c with
  | store id es => exact ⟨rfl, rfl⟩
  | counted t b inner ih =>
    obtain ⟨hr, he⟩ := ih h
    rcases hg : inner.get k with ⟨answer, d⟩
    rw [hg] at hr he
    cases hr
    simp only [Cache.get, hg]
    exact ⟨rfl, he⟩
  | locked inner ih => exact ih h
  | _ => cases h

theorem putAll_store (id : String) (es new : Entries) :
    (store id es).putAll new = (.ok (), store id (es.overwrite new)) := by
  induction new generalizing es with
  | nil => rfl
  | cons e rest ih =>
    simp only [putAll, put]
    exact ih _

theorem Unbounded.writeBatch {c : Cache} (h : c.Unbounded) (clears : Bool) (new : Entries) :
    (c.writeBatch clears new).1 = .ok () ∧
      (c.writeBatch clears new).2.entries =
        Entries.overwrite (if clears then [] else c.entries) new := by
  induction c with
  | store id es =>
    rw [Cache.writeBatch, writeAll]
    · cases clears <;> simp [clear, putAll_store, entries]
    · simp
    · simp
  | counted t b inner ih => exact ih h
  | locked inner ih => exact ih h
  | _ => cases h

/-- After the writes of a transaction the store has, under each key, what waited for it, and else
what it had before unless the transaction clears. -/
theorem Unbounded.commit {c : Cache} (h : c.Unbounded) {p : Pending} (hp : p.entries.Distinct)
    (k : Key) : (p.commit c).2.entries.get? k =
      (p.entries.get? k).or (if p.clears then none else c.entries.get? k) := by
  rw [Pending.commit, (h.writeBatch p.clears p.entries).2, Entries.get?_overwrite hp]
  cases p.clears <;> rfl

end Cache

/-! ## Shelves -/

namespace Shelf

/-- The shelf with the same layers and the same entries; counts may differ. -/
structure Same (s' s : Shelf) : Prop where
  frames : s'.frames = s.frames
  entries : s'.map Cache.entries = s.map Cache.entries

theorem same_refl (s : Shelf) : s.Same s := ⟨rfl, rfl⟩

theorem same_set {s : Shelf} {i : Nat} {c d : Cache} (hc : s[i]? = some c)
    (hf : d.frame = c.frame) (he : d.entries = c.entries) : Same (s.set i d) s := by
  refine ⟨frames_set hc hf, ?_⟩
  obtain ⟨hi, rfl⟩ := List.getElem?_eq_some_iff.1 hc
  rw [List.map_set, he, ← List.getElem_map Cache.entries (h := by simpa using hi)]
  exact List.set_getElem_self _

theorem unbounded_congr {s s' : Shelf} (hf : s'.frames = s.frames)
    (h : ∀ c ∈ s, c.Unbounded) : ∀ c ∈ s', c.Unbounded := by
  intro c hc
  have hm : c.frame ∈ s.frames := hf ▸ List.mem_map_of_mem hc
  obtain ⟨d, hd, he⟩ := List.mem_map.1 hm
  exact (Cache.unbounded_frame c).1 (he ▸ (Cache.unbounded_frame d).2 (h d hd))

/-- Where ids are distinct, every cache is the first one of its id. -/
theorem slot?_of_distinct {s : Shelf} (h : (s.map Cache.id).Nodup) {i : Nat} {c : Cache}
    (hc : s[i]? = some c) : s.slot? c.id = some i := by
  obtain ⟨hi, rfl⟩ := List.getElem?_eq_some_iff.1 hc
  refine List.findIdx?_eq_some_iff_getElem.2 ⟨hi, by simp, fun j hj hji => ?_⟩
  have hne := List.pairwise_iff_getElem.1 h j i (by simpa using Nat.lt_trans hj hi)
    (by simpa using hi) hj
  exact hne (by simpa using hji)

theorem ids_frames (s : Shelf) : s.frames.map Cache.id = s.map Cache.id := by
  rw [frames, List.map_map]
  exact List.map_congr_left fun c _ => Cache.id_frame c

end Shelf

/-- Such caches refuse no write. -/
theorem Transaction.write_answer {s : Shelf} (h : ∀ c ∈ s, c.Unbounded) (t : Transaction) :
    (write s t).1 = .ok () := by
  induction t generalizing s with
  | nil => rfl
  | cons b rest ih =>
    simp only [write]
    cases hc : s[b.slot]? with
    | none =>
      simp only [Shelf.run, hc, Option.getD_none]
      exact ih h
    | some c =>
      have hframes := Shelf.frames_set hc (Cache.Pending.frame_commit b.pending c)
      simp only [Shelf.run_some hc, Option.getD_some, Cache.Pending.commit,
        ((h c (List.mem_of_getElem? hc)).writeBatch b.pending.clears b.pending.entries).1]
      exact ih (Shelf.unbounded_congr hframes h)

end MappedSql
