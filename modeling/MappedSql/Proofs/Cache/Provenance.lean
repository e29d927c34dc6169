import MappedSql.Cache.Transaction

/- Where the results of a cache come from.

   The layers around a store evict, clear and count, and one of them keeps texts in
   place of values; none of them makes a result up. What the store holds after an
   operation it held before, or the operation put it there (`mem_entries_put`,
   `mem_entries_writeBatch`), and a lookup gives nothing or what the layers show of an
   entry of the store (`get_result`). How the layers alter a value on its way in and out
   depends on the layers alone, which no operation changes (`frame_get` and the
   lemmas beside it). -/
namespace MappedSql.Cache

/-- The layers of a cache, without what they and the store have in them. -/
def frame : Cache → Cache
  | .store id _ => .store id []
  | .leastRecent cap _ _ inner => .leastRecent cap [] 0 inner.frame
  | .firstIn cap _ _ inner => .firstIn cap [] 0 inner.frame
  | .timed i inner => .timed i inner.frame
  | .snapshots inner => .snapshots inner.frame
  | .counted _ e inner => .counted .zero e inner.frame
  | .locked inner => .locked inner.frame
  | .guarded reason _ inner => .guarded reason 0 inner.frame

/-- What the store keeps of a value that is put. -/
def kept : Cache → Value → Value
  | .store _ _, v => v
  | .leastRecent _ _ _ inner, v => inner.kept v
  | .firstIn _ _ _ inner, v => inner.kept v
  | .timed _ inner, v => inner.kept v
  | .snapshots inner, v => inner.kept (.str v.json)
  | .counted _ _ inner, v => inner.kept v
  | .locked inner, v => inner.kept v
  | .guarded _ _ inner, v => inner.kept v

/-- What a lookup answers where the store has found a value. -/
def shown : Cache → Value → Except Error (Option Value)
  | .store _ _, v => .ok (some v)
  | .leastRecent _ _ _ inner, v => inner.shown v
  | .firstIn _ _ _ inner, v => inner.shown v
  | .timed _ inner, v => inner.shown v
  | .snapshots inner, v => (inner.shown v).bind (thaw inner.id)
  | .counted _ _ inner, v => inner.shown v
  | .locked inner, v => inner.shown v
  | .guarded _ _ inner, v => inner.shown v

/-- What a lookup makes of a value that was put. -/
def reading (c : Cache) (v : Value) : Except Error (Option Value) := c.shown (c.kept v)

/-! ## The layers stay -/

theorem id_frame (c : Cache) : c.frame.id = c.id := by
  induction c <;> simp_all [frame, id]

theorem kept_frame (c : Cache) (v : Value) : c.frame.kept v = c.kept v := by
  induction c generalizing v <;> simp_all [frame, kept]

theorem shown_frame (c : Cache) (v : Value) : c.frame.shown v = c.shown v := by
  induction c generalizing v <;> simp_all [frame, shown, id_frame]

theorem reading_frame (c : Cache) : c.frame.reading = c.reading := by
  funext v
  rw [reading, reading, kept_frame, shown_frame]

theorem id_congr {c d : Cache} (h : c.frame = d.frame) : c.id = d.id := by
  rw [← id_frame c, h, id_frame]

theorem kept_congr {c d : Cache} (h : c.frame = d.frame) : c.kept = d.kept := by
  funext v
  rw [← kept_frame c, h, kept_frame]

theorem shown_congr {c d : Cache} (h : c.frame = d.frame) : c.shown = d.shown := by
  funext v
  rw [← shown_frame c, h, shown_frame]

theorem reading_congr {c d : Cache} (h : c.frame = d.frame) : c.reading = d.reading := by
  funext v
  rw [reading, reading, kept_congr h, shown_congr h]

@[simp] theorem frame_clear (c : Cache) : c.clear.frame = c.frame := by
  induction c <;> simp_all [clear, frame]

@[simp] theorem frame_elapse (i : Nat) (c : Cache) : (c.elapse i).frame = c.frame := by
  unfold elapse
  split <;> simp

@[simp] theorem frame_remove (k : Key) (c : Cache) : (c.remove k).2.frame = c.frame := by
  fun_induction remove k c <;> simp_all [frame]

@[simp] theorem frame_get (k : Key) (c : Cache) : (c.get k).2.frame = c.frame := by
  fun_induction get k c <;> simp_all [frame]

/-- The cache after an eviction, if there is one. -/
def evicted (c : Cache) (eldest? : Option Key) : Cache :=
  match eldest? with
  | none => c
  | some eldest => (c.remove eldest).2

@[simp] theorem frame_evicted (c : Cache) (eldest? : Option Key) :
    (c.evicted eldest?).frame = c.frame := by
  cases eldest? <;> simp [evicted]

/-- A layer that evicts the entry not used for longest does so after the put, and answers as the
cache inside it. -/
theorem put_leastRecent (k : Key) (v : Value) (cap : Nat) (keys : List Key) (n : Nat)
    (inner : Cache) : ∃ keys' n' eldest?, (leastRecent cap keys n inner).put k v =
      ((inner.put k v).1, .leastRecent cap keys' n' ((inner.put k v).2.evicted eldest?)) := by
  rw [put]
  rcases inner.put k v with ⟨e | -, d⟩
  · exact ⟨keys, n, none, rfl⟩
  · dsimp only
    split
    · exact ⟨_, n, none, rfl⟩
    · split
      · exact ⟨_, n, none, rfl⟩
      · exact ⟨_, n + 1, some _, rfl⟩

/-- A layer that evicts the oldest entry does so before the put, and answers as the cache inside it
does then. -/
theorem put_firstIn (k : Key) (v : Value) (cap : Nat) (keys : List Key) (n : Nat)
    (inner : Cache) : ∃ keys' n' eldest?, (firstIn cap keys n inner).put k v =
      (((inner.evicted eldest?).put k v).1,
        .firstIn cap keys' n' ((inner.evicted eldest?).put k v).2) := by
  rw [put]
  dsimp only
  generalize (if keys.any (k == ·) then keys else keys ++ [k]) = queue
  cases queue with
  | nil => exact ⟨[], n, none, rfl⟩
  | cons eldest others =>
    dsimp only
    split
    · exact ⟨_, n, none, rfl⟩
    · exact ⟨_, n + 1, some eldest, rfl⟩

@[simp] theorem layers_evicted (c : Cache) (eldest? : Option Key) :
    (c.evicted eldest?).layers = c.layers := by
  cases eldest? <;> simp [evicted]

@[simp] theorem frame_put (k : Key) (v : Value) (c : Cache) : (c.put k v).2.frame = c.frame := by
  match c with
  | .store id es => rw [put]; rfl
  | .leastRecent cap keys n inner =>
    obtain ⟨keys', n', eldest?, h⟩ := put_leastRecent k v cap keys n inner
    rw [h, frame, frame_evicted, frame_put k v inner, frame]
  | .firstIn cap keys n inner =>
    obtain ⟨keys', n', eldest?, h⟩ := put_firstIn k v cap keys n inner
    rw [h, frame, frame_put k v (inner.evicted eldest?), frame_evicted, frame]
  | .timed i inner =>
    rw [put, frame, frame]
    rw [frame_put k v (inner.elapse i), frame_elapse]
  | .snapshots inner =>
    rw [put, frame, frame]
    rw [frame_put k _ inner]
  | .counted t e inner =>
    rw [put, frame, frame]
    rw [frame_put k v inner]
  | .locked inner =>
    rw [put, frame, frame]
    rw [frame_put k v inner]
  | .guarded reason n inner =>
    rw [put]
    split
    · rfl
    · rw [frame, frame]
      rw [frame_put k v inner]
termination_by c.layers
decreasing_by all_goals simp [layers]

@[simp] theorem frame_putAll (c : Cache) (es : List (Key × Value)) :
    (c.putAll es).2.frame = c.frame := by
  induction es generalizing c with
  | nil => rfl
  | cons e rest ih =>
    have hp := frame_put e.1 e.2 c
    simp only [putAll]
    split
    · rename_i d hd
      rw [ih, ← hp, hd]
    · rename_i d hd
      rw [← hp, hd]

theorem frame_writeAll (c : Cache) (clears : Bool) (es : List (Key × Value)) :
    (c.writeAll clears es).2.frame = c.frame := by
  rw [writeAll, frame_putAll]
  split <;> simp

@[simp] theorem frame_writeBatch (c : Cache) (clears : Bool) (es : List (Key × Value)) :
    (c.writeBatch clears es).2.frame = c.frame := by
  fun_induction writeBatch clears es c <;> simp_all [frame, frame_writeAll]

/-! ## What the store holds was put -/

theorem Entries.mem_insert {es : Entries} {k : Key} {v : Value} {e : Key × Value}
    (h : e ∈ es.insert k v) : e ∈ es ∨ (k == e.1) = true ∧ e.2 = v := by
  induction es with
  | nil =>
    simp only [Entries.insert, List.mem_singleton] at h
    subst h
    exact .inr ⟨BEq.refl k, rfl⟩
  | cons f rest ih =>
    obtain ⟨l, w⟩ := f
    simp only [Entries.insert] at h
    split at h
    · rename_i hk
      rcases List.mem_cons.1 h with rfl | h
      · exact .inr ⟨hk, rfl⟩
      · exact .inl (List.mem_cons_of_mem _ h)
    · rcases List.mem_cons.1 h with rfl | h
      · exact .inl List.mem_cons_self
      · exact (ih h).imp_left (List.mem_cons_of_mem _)

theorem Entries.mem_of_get? {es : Entries} {k : Key} {v : Value} (h : es.get? k = some v) :
    ∃ e ∈ es, (k == e.1) = true ∧ e.2 = v := by
  induction es with
  | nil => cases h
  | cons f rest ih =>
    obtain ⟨l, w⟩ := f
    simp only [Entries.get?] at h
    split at h
    · rename_i hk
      exact ⟨(l, w), List.mem_cons_self, hk, by simpa using h⟩
    · obtain ⟨e, he, hk⟩ := ih h
      exact ⟨e, List.mem_cons_of_mem _ he, hk⟩

@[simp] theorem entries_clear (c : Cache) : c.clear.entries = [] := by
  induction c <;> simp_all [clear, entries]

theorem entries_elapse (i : Nat) (c : Cache) : (c.elapse i).entries ⊆ c.entries := by
  unfold elapse
  split <;> simp

theorem entries_remove (k : Key) (c : Cache) : (c.remove k).2.entries ⊆ c.entries := by
  fun_induction remove k c with
  | case1 id es => exact fun e he => (List.mem_filter.1 he).1
  | case4 i inner v d hd ih =>
    rw [hd] at ih
    exact List.Subset.trans ih (entries_elapse i inner)
  | _ => simp_all [entries]

theorem entries_evicted (c : Cache) (eldest? : Option Key) :
    (c.evicted eldest?).entries ⊆ c.entries := by
  cases eldest? with
  | none => exact List.Subset.refl _
  | some eldest => exact entries_remove eldest c

theorem entries_get (k : Key) (c : Cache) : (c.get k).2.entries ⊆ c.entries := by
  fun_induction get k c <;> simp_all [entries]

theorem mem_entries_put {c : Cache} {k : Key} {v : Value} {e : Key × Value}
    (h : e ∈ (c.put k v).2.entries) :
    e ∈ c.entries ∨ (k == e.1) = true ∧ e.2 = c.kept v := by
  match c with
  | .store id es =>
    rw [put] at h
    exact Entries.mem_insert h
  | .leastRecent cap keys n inner =>
    obtain ⟨keys', n', eldest?, hp⟩ := put_leastRecent k v cap keys n inner
    rw [hp] at h
    exact mem_entries_put (c := inner) (entries_evicted (inner.put k v).2 eldest? h)
  | .firstIn cap keys n inner =>
    obtain ⟨keys', n', eldest?, hp⟩ := put_firstIn k v cap keys n inner
    rw [hp] at h
    have hi := mem_entries_put (c := inner.evicted eldest?) h
    rw [kept_congr (frame_evicted inner eldest?)] at hi
    exact hi.imp_left fun he => entries_evicted inner eldest? he
  | .timed i inner =>
    rw [put] at h
    have hi := mem_entries_put (c := inner.elapse i) h
    rw [kept_congr (frame_elapse i inner)] at hi
    exact hi.imp_left fun he => entries_elapse i inner he
  | .snapshots inner =>
    rw [put] at h
    exact mem_entries_put (c := inner) h
  | .counted t b inner =>
    rw [put] at h
    exact mem_entries_put (c := inner) h
  | .locked inner =>
    rw [put] at h
    exact mem_entries_put (c := inner) h
  | .guarded reason n inner =>
    rw [put] at h
    split at h
    · exact .inl h
    · exact mem_entries_put (c := inner) h
termination_by c.layers
decreasing_by all_goals simp [layers]

theorem mem_entries_putAll {c : Cache} {es : List (Key × Value)} {e : Key × Value}
    (h : e ∈ (c.putAll es).2.entries) :
    e ∈ c.entries ∨ ∃ p ∈ es, (p.1 == e.1) = true ∧ e.2 = c.kept p.2 := by
  induction es generalizing c with
  | nil => exact .inl h
  | cons p rest ih =>
    have hp : ∀ {f}, f ∈ (c.put p.1 p.2).2.entries →
        f ∈ c.entries ∨ ∃ q ∈ p :: rest, (q.1 == f.1) = true ∧ f.2 = c.kept q.2 :=
      fun hf => (mem_entries_put hf).imp_right fun hf => ⟨p, List.mem_cons_self, hf⟩
    simp only [putAll] at h
    split at h
    · rename_i d hd
      rcases ih h with h | ⟨q, hq, hk, hv⟩
      · exact hp (by rw [hd]; exact h)
      · rw [kept_congr (d := c) (by rw [← frame_put p.1 p.2 c, hd])] at hv
        exact .inr ⟨q, List.mem_cons_of_mem _ hq, hk, hv⟩
    · rename_i d hd
      exact hp (by rw [hd]; exact h)

/-- After the writes of a transaction the store holds results of the transaction, and what it
held before unless the transaction clears. -/
theorem mem_entries_writeBatch {c : Cache} {clears : Bool} {es : List (Key × Value)}
    {e : Key × Value} (h : e ∈ (c.writeBatch clears es).2.entries) :
    clears = false ∧ e ∈ c.entries ∨ ∃ p ∈ es, (p.1 == e.1) = true ∧ e.2 = c.kept p.2 := by
  have all : ∀ d : Cache, e ∈ (d.writeAll clears es).2.entries →
      clears = false ∧ e ∈ d.entries ∨ ∃ p ∈ es, (p.1 == e.1) = true ∧ e.2 = d.kept p.2 := by
    intro d h
    rw [writeAll] at h
    rcases mem_entries_putAll h with h | ⟨p, hp, hk, hv⟩
    · cases clears
      · exact .inl ⟨rfl, h⟩
      · simp at h
    · have hf : (if clears then d.clear else d).frame = d.frame := by split <;> simp
      rw [kept_congr hf] at hv
      exact .inr ⟨p, hp, hk, hv⟩
  induction c with
  | counted t b inner ih => exact ih h
  | locked inner ih => exact ih h
  | _ => exact all _ h

/-- A lookup gives nothing, or what the layers show of an entry of the store. -/
theorem get_result (c : Cache) (k : Key) :
    (c.get k).1 = .ok none ∨
      ∃ e ∈ c.entries, (k == e.1) = true ∧ (c.get k).1 = c.shown e.2 := by
  induction c with
  | store id es =>
    simp only [get, entries, shown]
    cases hv : es.get? k with
    | none => exact .inl rfl
    | some v =>
      obtain ⟨e, he, hk, rfl⟩ := Entries.mem_of_get? hv
      exact .inr ⟨e, he, hk, rfl⟩
  | timed i inner ih =>
    simp only [get, entries, shown]
    split
    · exact .inl rfl
    · exact ih
  | snapshots inner ih =>
    simp only [get, entries, shown]
    rw [id_congr (frame_get k inner)]
    rcases ih with h | ⟨e, he, hk, h⟩
    · exact .inl (by rw [h]; rfl)
    · exact .inr ⟨e, he, hk, by rw [h]⟩
  | counted t b inner ih =>
    simp only [get, entries, shown]
    rcases hr : inner.get k with ⟨r, d⟩
    rw [hr] at ih
    cases r <;> exact ih
  | _ => assumption

/-- What a lookup finds was put under an equal key, if everything in the store was put. -/
theorem get_reading {c : Cache} {P : Key → Value → Prop} {k : Key} {w : Value}
    (hc : ∀ e ∈ c.entries, ∃ v, e.2 = c.kept v ∧ P e.1 v) (h : (c.get k).1 = .ok (some w)) :
    ∃ l v, (k == l) = true ∧ P l v ∧ c.reading v = .ok (some w) := by
  rcases get_result c k with hn | ⟨e, he, hk, hs⟩
  · rw [hn] at h
    cases h
  · obtain ⟨v, hv, hp⟩ := hc e he
    exact ⟨e.1, v, hk, hp, by rw [reading, ← hv, ← hs, h]⟩

end MappedSql.Cache
