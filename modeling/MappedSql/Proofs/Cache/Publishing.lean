import MappedSql.Proofs.Cache.Provenance

/- What a transaction writes to the caches.

   A transaction keeps one entry for each cache that it has written to, with the slot
   in which the cache's id was first seen. As long as the shelf has the same layers in
   the same slots (`Shelf.frames`) the slot stays right (`Transaction.Aligned`), and
   then the transaction acts on each cache by what waits for its id alone: `get_slot`
   for lookups, `pendingOf_update` for new writes and `write_getElem?` for the end of
   the transaction. -/
namespace MappedSql

namespace Cache

theorem writeBatch_nothing (c : Cache) : c.writeBatch false [] = (.ok (), c) := by
  induction c with
  | counted t b inner ih => simp [writeBatch, ih, Tally.countPuts]
  | locked inner ih => simp [writeBatch, ih]
  | _ => rfl

theorem Pending.commit_empty (c : Cache) : Pending.empty.commit c = (.ok (), c) :=
  writeBatch_nothing c

theorem Pending.get_empty (c : Cache) (k : Key) : Pending.empty.get c k = c.get k := rfl

@[simp] theorem Pending.frame_commit (p : Pending) (c : Cache) :
    (p.commit c).2.frame = c.frame := frame_writeBatch c p.clears p.entries

@[simp] theorem Pending.frame_get (p : Pending) (c : Cache) (k : Key) :
    (p.get c k).2.frame = c.frame := by
  rw [Pending.get]
  split
  · rfl
  · exact Cache.frame_get k c

end Cache

namespace Shelf

/-- The layers of the caches in their slots. -/
def frames (s : Shelf) : List Cache := s.map Cache.frame

theorem slot?_frames (s : Shelf) (id : String) : Shelf.slot? s.frames id = s.slot? id := by
  simp only [slot?, frames, List.findIdx?_map]
  congr 1
  funext c
  simp [Cache.id_frame]

theorem slot?_congr {s s' : Shelf} (h : s.frames = s'.frames) (id : String) :
    s.slot? id = s'.slot? id := by
  rw [← slot?_frames s, h, slot?_frames]

theorem frame_getElem? {s s' : Shelf} (h : s.frames = s'.frames) (i : Nat) :
    s[i]?.map Cache.frame = s'[i]?.map Cache.frame := by
  rw [← List.getElem?_map, ← List.getElem?_map]
  exact congrArg (·[i]?) h

theorem slot?_some {s : Shelf} {id : String} {i : Nat} (h : s.slot? id = some i) :
    ∃ c, s[i]? = some c ∧ c.id = id := by
  obtain ⟨hi, hc, -⟩ := List.findIdx?_eq_some_iff_getElem.1 h
  exact ⟨s[i], List.getElem?_eq_getElem hi, by simpa using hc⟩

theorem frames_set {s : Shelf} {i : Nat} {c d : Cache} (hc : s[i]? = some c)
    (hd : d.frame = c.frame) : Shelf.frames (s.set i d) = s.frames := by
  obtain ⟨hi, rfl⟩ := List.getElem?_eq_some_iff.1 hc
  rw [frames, List.map_set, hd, ← List.getElem_map Cache.frame (h := by simpa using hi)]
  exact List.set_getElem_self _

theorem run_some {α : Type} {s : Shelf} {i : Nat} {c : Cache} (hc : s[i]? = some c)
    (f : Cache → α × Cache) : s.run i f = (some (f c).1, s.set i (f c).2) := by
  rw [run, hc]

end Shelf

namespace Transaction

open Cache (Pending)

/-- What waits for the cache of this id; nothing if there was no write to it. -/
def pendingOf (t : Transaction) (id : String) : Pending :=
  match t.find? id with
  | some b => b.pending
  | none => .empty

/-- Every cache has one entry, with the slot that its id has on the shelf. -/
structure Aligned (t : Transaction) (s : Shelf) : Prop where
  distinct : (t.map (·.id)).Nodup
  slots : ∀ b ∈ t, s.slot? b.id = some b.slot

theorem aligned_nil (s : Shelf) : Aligned [] s := ⟨List.nodup_nil, by simp⟩

theorem Aligned.congr {t : Transaction} {s s' : Shelf} (h : t.Aligned s)
    (hs : s.frames = s'.frames) : t.Aligned s' :=
  ⟨h.distinct, fun b hb => (Shelf.slot?_congr hs b.id).symm.trans (h.slots b hb)⟩

theorem find?_some {t : Transaction} {id : String} {b : Buffered} (h : t.find? id = some b) :
    b ∈ t ∧ b.id = id :=
  ⟨List.mem_of_find?_eq_some h, by simpa using List.find?_some h⟩

theorem Aligned.slot_of_waiting {t : Transaction} {s : Shelf} (h : t.Aligned s) {id : String}
    {x : Cache.Key × Value} (hx : x ∈ (t.pendingOf id).entries) : (s.slot? id).isSome = true := by
  rw [pendingOf] at hx
  cases hf : t.find? id with
  | none =>
    rw [hf] at hx
    cases hx
  | some b =>
    obtain ⟨hb, rfl⟩ := find?_some hf
    rw [h.slots b hb]
    rfl

/-! ## Lookups -/

theorem get_slot {t : Transaction} {s : Shelf} (h : t.Aligned s) {id : String} {i : Nat}
    {c : Cache} (hi : s.slot? id = some i) (hc : s[i]? = some c) (k : Cache.Key) :
    t.get s i k = (((t.pendingOf id).get c k).1, s.set i ((t.pendingOf id).get c k).2) := by
  obtain ⟨c', hc', hid⟩ := Shelf.slot?_some hi
  rw [hc] at hc'
  cases hc'
  simp only [get, hc, hid, pendingOf]
  cases hf : t.find? id with
  | none => simp only [Shelf.get, Shelf.run_some hc, Option.getD_some, Pending.get_empty]
  | some b =>
    obtain ⟨hb, rfl⟩ := find?_some hf
    have hs : b.slot = i := by
      rw [h.slots b hb] at hi
      exact Option.some.inj hi
    simp only [hs, Shelf.run_some hc, Option.getD_some]

/-! ## New writes -/

theorem id_touched (f : Pending → Pending) (id : String) (b : Buffered) :
    (if b.id = id then { b with pending := f b.pending } else b : Buffered).id = b.id := by
  split <;> rfl

theorem find?_update {t : Transaction} {s : Shelf} {id : String} {i : Nat}
    (hi : s.slot? id = some i) (f : Pending → Pending) (id' : String) :
    (t.update s i f).find? id' =
      if id' = id then
        some (match t.find? id with
          | some b => { b with pending := f b.pending }
          | none => ⟨id, i, f .empty⟩)
      else t.find? id' := by
  obtain ⟨c, hc, rfl⟩ := Shelf.slot?_some hi
  simp only [update, hc]
  split
  · rename_i hsome
    obtain ⟨b, hb⟩ := Option.isSome_iff_exists.1 hsome
    have hmap : (t.map fun b => if b.id = c.id then { b with pending := f b.pending } else b).find?
        (·.id == id') = (t.find? id').map fun b =>
          if b.id = c.id then { b with pending := f b.pending } else b := by
      rw [List.find?_map, find?]
      congr 2
      funext b'
      simp [id_touched f c.id]
    rw [find?, hmap]
    split
    · rename_i he
      subst he
      simp [hb, (find?_some hb).2]
    · rename_i hne
      cases hf : t.find? id' with
      | none => rfl
      | some b' =>
        have : b'.id ≠ c.id := fun he => hne ((find?_some hf).2.symm.trans he)
        simp [this]
  · rename_i hnone
    have hn : t.find? c.id = none := by simpa using hnone
    rw [find?, List.find?_append, hn]
    split
    · rename_i he
      subst he
      rw [find?] at hn
      simp [hn]
    · rename_i hne
      simp [find?, Ne.symm hne]

theorem pendingOf_update {t : Transaction} {s : Shelf} {id : String} {i : Nat}
    (hi : s.slot? id = some i) (f : Pending → Pending) (id' : String) :
    (t.update s i f).pendingOf id' = if id' = id then f (t.pendingOf id) else t.pendingOf id' := by
  simp only [pendingOf, find?_update hi]
  by_cases he : id' = id
  · simp only [he, if_true]
    cases t.find? id <;> rfl
  · simp only [he, if_false]

/-- An entry is one of those before, with its id and its slot, or the new one. -/
theorem mem_update {t : Transaction} {s : Shelf} {slot : Nat} {f : Pending → Pending} {b : Buffered}
    (hb : b ∈ t.update s slot f) :
    (∃ a ∈ t, b.id = a.id ∧ b.slot = a.slot ∧
      (b.pending = a.pending ∨ b.pending = f a.pending)) ∨
    ∃ c, s[slot]? = some c ∧ b = ⟨c.id, slot, f .empty⟩ := by
  rw [update] at hb
  cases hc : s[slot]? with
  | none =>
    rw [hc] at hb
    exact .inl ⟨b, hb, rfl, rfl, .inl rfl⟩
  | some c =>
    rw [hc] at hb
    dsimp only at hb
    split at hb
    · obtain ⟨a, ha, rfl⟩ := List.mem_map.1 hb
      refine .inl ⟨a, ha, ?_⟩
      split
      · exact ⟨rfl, rfl, .inr rfl⟩
      · exact ⟨rfl, rfl, .inl rfl⟩
    · rcases List.mem_append.1 hb with hb | hb
      · exact .inl ⟨b, hb, rfl, rfl, .inl rfl⟩
      · exact .inr ⟨c, rfl, List.mem_singleton.1 hb⟩

theorem distinct_update {t : Transaction} (h : (t.map (·.id)).Nodup) (s : Shelf) (slot : Nat)
    (f : Pending → Pending) : ((t.update s slot f).map (·.id)).Nodup := by
  rw [update]
  cases s[slot]? with
  | none => exact h
  | some c =>
    dsimp only
    split
    · rw [List.map_map]
      have hids : ∀ b ∈ t, ((·.id) ∘ fun b : Buffered =>
          if b.id = c.id then { b with pending := f b.pending } else b) b = b.id :=
        fun b _ => id_touched f c.id b
      rw [List.map_congr_left hids]
      exact h
    · rename_i hnone
      have hnew : ∀ a ∈ t, a.id ≠ c.id := by simpa [find?, List.find?_eq_none] using hnone
      rw [List.map_append, List.nodup_append]
      refine ⟨h, by simp, fun id hid id' hid' => ?_⟩
      obtain ⟨a, ha, rfl⟩ := List.mem_map.1 hid
      cases List.mem_singleton.1 hid'
      exact hnew a ha

theorem Aligned.update {t : Transaction} {s : Shelf} (h : t.Aligned s) {id : String} {i : Nat}
    (hi : s.slot? id = some i) (f : Pending → Pending) : (t.update s i f).Aligned s := by
  refine ⟨distinct_update h.distinct s i f, fun b hb => ?_⟩
  rcases mem_update hb with ⟨a, ha, hid, hslot, -⟩ | ⟨c, hc, rfl⟩
  · rw [hid, hslot]
    exact h.slots a ha
  · obtain ⟨c', hc', rfl⟩ := Shelf.slot?_some hi
    cases hc.symm.trans hc'
    exact hi

theorem pendingOf_put {t : Transaction} {s : Shelf} {id : String} {i : Nat}
    (hi : s.slot? id = some i) (k : Cache.Key) (v : Value) (id' : String) :
    (t.put s i k v).pendingOf id' =
      if id' = id then (t.pendingOf id).put k v else t.pendingOf id' :=
  pendingOf_update hi _ id'

theorem Aligned.put {t : Transaction} {s : Shelf} (h : t.Aligned s) {id : String} {i : Nat}
    (hi : s.slot? id = some i) (k : Cache.Key) (v : Value) : (t.put s i k v).Aligned s :=
  h.update hi _

@[simp] theorem pendingOf_reset (t : Transaction) (id : String) :
    t.reset.pendingOf id = .empty := by
  have hmap : t.reset.find? id = (t.find? id).map fun b => { b with pending := .empty } := by
    rw [find?, reset, List.find?_map]
    rfl
  rw [pendingOf, hmap]
  cases t.find? id <;> rfl

theorem Aligned.reset {t : Transaction} {s : Shelf} (h : t.Aligned s) : t.reset.Aligned s := by
  refine ⟨?_, ?_⟩
  · rw [Transaction.reset, List.map_map]
    exact h.distinct
  · intro b hb
    obtain ⟨a, ha, rfl⟩ := List.mem_map.1 hb
    exact h.slots a ha

/-! ## The end of a transaction -/

@[simp] theorem frames_write (s : Shelf) (t : Transaction) :
    Shelf.frames (write s t).2 = s.frames := by
  induction t generalizing s with
  | nil => rfl
  | cons b rest ih =>
    simp only [write]
    rw [ih, Shelf.run]
    split
    · rename_i c hc
      exact Shelf.frames_set hc (Pending.frame_commit b.pending c)
    · rfl

/-- Each cache gets what waits for its id if it is the first one of that id. -/
theorem write_getElem? {s : Shelf} {t : Transaction} (h : t.Aligned s) (i : Nat) :
    (write s t).2[i]? = s[i]?.map fun c =>
      if s.slot? c.id = some i then ((t.pendingOf c.id).commit c).2 else c := by
  induction t generalizing s with
  | nil =>
    simp only [write, pendingOf, find?, List.find?_nil, Pending.commit_empty, ite_self]
    exact Option.map_id'.symm
  | cons b rest ih =>
    have hb := h.slots b List.mem_cons_self
    obtain ⟨d, hd, hid⟩ := Shelf.slot?_some hb
    have hdist := h.distinct
    rw [List.map_cons, List.nodup_cons] at hdist
    have hfr := Shelf.frames_set hd (Pending.frame_commit b.pending d)
    have hrest : Aligned rest (s.set b.slot (b.pending.commit d).2) :=
      Aligned.congr ⟨hdist.2, fun a ha => h.slots a (List.mem_cons_of_mem _ ha)⟩ hfr.symm
    simp only [write, Shelf.run_some hd]
    rw [ih hrest]
    by_cases hi : i = b.slot
    · -- the cache that the first entry writes to gets nothing from the others
      subst hi
      have hlt : b.slot < s.length := (List.getElem?_eq_some_iff.1 hd).1
      have hnone : find? rest b.id = none := by
        rw [find?, List.find?_eq_none]
        intro a ha he
        exact hdist.1 (by rw [← (by simpa using he : a.id = b.id)]; exact List.mem_map_of_mem ha)
      have hid' : (b.pending.commit d).2.id = b.id := by
        rw [Cache.id_congr (Pending.frame_commit b.pending d), hid]
      rw [List.getElem?_set_self hlt, hd]
      simp only [Option.map_some, hid, hid', hb, Shelf.slot?_congr hfr, if_true]
      simp only [pendingOf, hnone, Pending.commit_empty]
      simp [find?]
    · rw [List.getElem?_set_ne (Ne.symm hi)]
      cases hc : s[i]? with
      | none => rfl
      | some c =>
        simp only [Option.map_some, Shelf.slot?_congr hfr]
        split
        · rename_i hslot
          have hne : b.id ≠ c.id := by
            intro he
            rw [← he, hb] at hslot
            exact hi (Option.some.inj hslot).symm
          simp [pendingOf, find?, hne]
        · rfl

end Transaction

end MappedSql
