import Mathlib
import MappedSql.Cache.Config
import MappedSql.Proofs.Cache.Provenance
import MappedSql.Proofs.Value.Rereading

/- What a configured cache answers.

   A configured cache is a policy, which bounds the entries of a store, with layers around
   it. The layers keep the policy's answers: the bound looks at keys alone and treats texts
   in place of values as it does values (`put_frozen` and the lemmas beside it), and the
   other layers pass operations on. So the whole answers what the policy alone would answer
   (`build_answers`), with one exception: the layer of snapshots makes a value of the text
   for a lookup, and hands out the text itself when an entry is removed (`removed_text`). -/
namespace MappedSql

namespace Cache

/-! ## Operations -/

/-- What can be asked of a cache. -/
inductive Operation where
  | put (k : Key) (v : Value)
  | get (k : Key)
  | remove (k : Key)
  | clear
  | size
  | commit (clears : Bool) (es : List (Key × Value))

inductive Answer where
  | written (r : Except Error Unit)
  | found (r : Except Error (Option Value))
  | removed (v : Option Value)
  | cleared
  | counted (n : Nat)

namespace Operation

/-- The answer of a cache to the operation, and the cache after it. -/
def run (c : Cache) : Operation → Answer × Cache
  | .put k v => (.written (c.put k v).1, (c.put k v).2)
  | .get k => (.found (c.get k).1, (c.get k).2)
  | .remove k => (.removed (c.remove k).1, (c.remove k).2)
  | .clear => (.cleared, c.clear)
  | .size => (.counted c.size.1, c.size.2)
  | .commit clears es => (.written (c.writeBatch clears es).1, (c.writeBatch clears es).2)

/-- The values that the operation brings. -/
def values : Operation → List Value
  | .put _ v => [v]
  | .commit _ es => es.map (·.2)
  | _ => []

end Operation

/-- The answers to operations that are made one after the other. -/
def answers (c : Cache) : List Operation → List Answer
  | [] => []
  | o :: rest => (o.run c).1 :: (o.run c).2.answers rest

/-! ## Layers that pass operations on -/

-- The equations are made here, once, and not by all the proofs that unfold the two.
attribute [local simp] size mapEntries

/-- Everything passes the layer unchanged, and the layer stays as it is. -/
structure Passes (layer : Cache → Cache) : Prop where
  put (c : Cache) (k : Key) (v : Value) :
    (layer c).put k v = ((c.put k v).1, layer (c.put k v).2)
  get (c : Cache) (k : Key) : (layer c).get k = ((c.get k).1, layer (c.get k).2)
  remove (c : Cache) (k : Key) : (layer c).remove k = ((c.remove k).1, layer (c.remove k).2)
  clear (c : Cache) : (layer c).clear = layer c.clear
  size (c : Cache) : (layer c).size = (c.size.1, layer c.size.2)

theorem passes_id : Passes fun c => c :=
  ⟨fun _ _ _ => rfl, fun _ _ => rfl, fun _ _ => rfl, fun _ => rfl, fun _ => rfl⟩

/-- An interval that does not pass. -/
theorem passes_timed {i : Nat} (h : i ≠ 0) : Passes (.timed i) where
  put c k v := by rw [Cache.put, elapse, if_neg h]
  get c k := by rw [Cache.get, if_neg h]
  remove c k := by rw [Cache.remove, elapse, if_neg h]
  clear c := rfl
  size c := by rw [Cache.size, elapse, if_neg h]

theorem Passes.putAll {layer : Cache → Cache} (h : Passes layer) (c : Cache)
    (es : List (Key × Value)) :
    (layer c).putAll es = ((c.putAll es).1, layer (c.putAll es).2) := by
  induction es generalizing c with
  | nil => rfl
  | cons e rest ih =>
    simp only [Cache.putAll, h.put]
    rcases c.put e.1 e.2 with ⟨_ | _, d⟩
    · rfl
    · exact ih d

theorem Passes.writeAll {layer : Cache → Cache} (h : Passes layer) (c : Cache) (clears : Bool)
    (es : List (Key × Value)) : (layer c).writeAll clears es =
      ((c.writeAll clears es).1, layer (c.writeAll clears es).2) := by
  cases clears with
  | false => exact h.putAll c es
  | true =>
    simp only [Cache.writeAll, if_true, h.clear]
    exact h.putAll c.clear es

theorem run_locked (c : Cache) (o : Operation) :
    o.run (.locked c) = ((o.run c).1, .locked (o.run c).2) := by
  cases o <;> simp [Operation.run, put, get, remove, clear, size, writeBatch]

/-- The counts after an operation with this answer. A lookup that fails is not counted. -/
def Tally.noted (t : Tally) : Operation → Answer → Tally
  | .put _ _, _ => t.countPuts 1
  | .get _, .found (.ok v) => t.countLookup v.isSome
  | .clear, _ => t.countClear
  | .commit clears es, _ => (if clears then t.countClear else t).countPuts es.length
  | _, _ => t

/-- The counts alone change. -/
theorem run_counted (t : Tally) (e : Bool) (c : Cache) (o : Operation) :
    o.run (.counted t e c) = ((o.run c).1, .counted (t.noted o (o.run c).1) e (o.run c).2) := by
  cases o with
  | put k v => simp only [Operation.run, put, Tally.noted]
  | get k =>
    simp only [Operation.run, get]
    rcases c.get k with ⟨_ | v, d⟩
    · rfl
    · rfl
  | remove k => simp only [Operation.run, remove, Tally.noted]
  | clear => rfl
  | size => simp only [Operation.run, size, Tally.noted]
  | commit clears es => simp only [Operation.run, writeBatch, Tally.noted]

/-! ## Bounds on a store -/

/-- A store, perhaps with bounds on its entries. -/
def Bounding : Cache → Prop
  | .store _ _ => True
  | .leastRecent _ _ _ inner => inner.Bounding
  | .firstIn _ _ _ inner => inner.Bounding
  | _ => False

theorem bounding_frame (c : Cache) : c.frame.Bounding ↔ c.Bounding := by
  induction c <;> simp_all [frame, Bounding]

theorem Bounding.congr {c d : Cache} (h : c.Bounding) (hf : d.frame = c.frame) : d.Bounding := by
  rwa [← bounding_frame, hf, bounding_frame]

theorem Bounding.size {c : Cache} (h : c.Bounding) : c.size = (c.entries.length, c) := by
  induction c with
  | store id es => rw [Cache.size, entries]
  | leastRecent cap keys n inner ih => rw [Cache.size, ih h, entries]
  | firstIn cap keys n inner ih => rw [Cache.size, ih h, entries]
  | _ => cases h

theorem Bounding.kept {c : Cache} (h : c.Bounding) (v : Value) : c.kept v = v := by
  induction c with
  | store id es => rfl
  | leastRecent cap keys n inner ih => exact ih h
  | firstIn cap keys n inner ih => exact ih h
  | _ => cases h

theorem Bounding.shown {c : Cache} (h : c.Bounding) (v : Value) : c.shown v = .ok (some v) := by
  induction c with
  | store id es => rfl
  | leastRecent cap keys n inner ih => exact ih h
  | firstIn cap keys n inner ih => exact ih h
  | _ => cases h

theorem Bounding.writeBatch {c : Cache} (h : c.Bounding) (clears : Bool)
    (es : List (Key × Value)) : c.writeBatch clears es = c.writeAll clears es := by
  cases c with
  | store id es => rfl
  | leastRecent cap keys n inner => rfl
  | firstIn cap keys n inner => rfl
  | _ => cases h

/-! ## Texts in place of values -/

/-- The text that is kept in place of a value. -/
def freeze (v : Value) : Value := .str v.json

/-- The entries with texts in place of the values. -/
def Entries.frozen (es : Entries) : Entries := es.map fun e => (e.1, freeze e.2)

/-- The cache with texts in place of the values. -/
def frozen (c : Cache) : Cache := c.mapEntries Entries.frozen

theorem Entries.get?_frozen (es : Entries) (k : Key) :
    es.frozen.get? k = (es.get? k).map freeze := by
  induction es with
  | nil => rfl
  | cons e rest ih =>
    obtain ⟨l, v⟩ := e
    simp only [Entries.frozen, List.map_cons, Entries.get?]
    split
    · rfl
    · exact ih

theorem Entries.insert_frozen (es : Entries) (k : Key) (v : Value) :
    es.frozen.insert k (freeze v) = (es.insert k v).frozen := by
  induction es with
  | nil => rfl
  | cons e rest ih =>
    obtain ⟨l, w⟩ := e
    simp only [Entries.frozen, List.map_cons, Entries.insert]
    split
    · rfl
    · exact congrArg _ ih

theorem Entries.erase_frozen (es : Entries) (k : Key) :
    es.frozen.erase k = (es.erase k).frozen := by
  rw [Entries.erase, Entries.frozen, List.filter_map]
  rfl

theorem frame_frozen (c : Cache) : c.frozen.frame = c.frame := by
  induction c <;> simp_all [frozen, mapEntries, frame]

theorem entries_frozen (c : Cache) : c.frozen.entries = c.entries.frozen := by
  induction c <;> simp_all [frozen, mapEntries, entries]

theorem Bounding.frozen {c : Cache} (h : c.Bounding) : c.frozen.Bounding :=
  h.congr (frame_frozen c)

theorem clear_frozen (c : Cache) : c.frozen.clear = c.clear.frozen := by
  induction c <;> simp_all [Cache.frozen, mapEntries, clear, Entries.frozen]

theorem Bounding.remove_frozen {c : Cache} (h : c.Bounding) (k : Key) :
    c.frozen.remove k = ((c.remove k).1.map freeze, (c.remove k).2.frozen) := by
  induction c with
  | store id es =>
    simp only [Cache.frozen, mapEntries, remove, Entries.get?_frozen, Entries.erase_frozen]
  | leastRecent cap keys n inner ih =>
    have hi := ih h
    simp only [Cache.frozen, mapEntries, remove] at hi ⊢
    rw [hi]
  | firstIn cap keys n inner ih =>
    have hi := ih h
    simp only [Cache.frozen, mapEntries, remove] at hi ⊢
    rw [hi]
  | _ => cases h

theorem Bounding.get_frozen {c : Cache} (h : c.Bounding) (k : Key) :
    c.frozen.get k = ((c.get k).1.map (·.map freeze), (c.get k).2.frozen) := by
  induction c with
  | store id es =>
    simp only [Cache.frozen, mapEntries, get, Entries.get?_frozen]
    rfl
  | leastRecent cap keys n inner ih =>
    have hi := ih h
    simp only [Cache.frozen, mapEntries, get] at hi ⊢
    rw [hi]
  | firstIn cap keys n inner ih =>
    have hi := ih h
    simp only [Cache.frozen, mapEntries, get] at hi ⊢
    rw [hi]
  | _ => cases h

theorem Bounding.put_frozen {c : Cache} (h : c.Bounding) (k : Key) (v : Value) :
    c.frozen.put k (freeze v) = ((c.put k v).1, (c.put k v).2.frozen) := by
  match c with
  | .store id es =>
    simp only [Cache.frozen, mapEntries, put, Entries.insert_frozen]
  | .leastRecent cap keys n inner =>
    have hi := put_frozen (c := inner) h k v
    have hb : (inner.put k v).2.Bounding := Bounding.congr (c := inner) h (frame_put k v inner)
    simp only [Cache.frozen, mapEntries, put] at hi ⊢
    rw [hi]
    rcases hp : inner.put k v with ⟨_ | _, d⟩
    · rfl
    · rw [hp] at hb
      dsimp only
      split
      · rfl
      · split
        · rfl
        · rename_i eldest _
          have hr := hb.remove_frozen eldest
          rw [Cache.frozen] at hr
          simp only [mapEntries, hr, Cache.frozen]
  | .firstIn cap keys n inner =>
    simp only [Cache.frozen, mapEntries, put]
    generalize (if keys.any (k == ·) then keys else keys ++ [k]) = queue
    cases queue with
    | nil =>
      have hi := put_frozen (c := inner) h k v
      simp only [Cache.frozen] at hi
      simp only [hi, mapEntries]
    | cons eldest others =>
      dsimp only
      split
      · have hi := put_frozen (c := inner) h k v
        simp only [Cache.frozen] at hi
        simp only [hi, mapEntries]
      · have hr := Bounding.remove_frozen (c := inner) h eldest
        have hb : (inner.remove eldest).2.Bounding :=
          Bounding.congr (c := inner) h (frame_remove eldest inner)
        have hi := put_frozen hb k v
        simp only [Cache.frozen] at hi hr
        simp only [hr, hi, mapEntries]
termination_by c.layers
decreasing_by all_goals simp [layers]

/-! ## What operations do to a bounded store -/

theorem Bounding.frame_run {c : Cache} (h : c.Bounding) (o : Operation) :
    (o.run c).2.frame = c.frame := by
  cases o with
  | put k v => exact frame_put k v c
  | get k => exact frame_get k c
  | remove k => exact frame_remove k c
  | clear => exact frame_clear c
  | size => rw [Operation.run, h.size]
  | commit clears es => exact frame_writeBatch c clears es

/-- What is stored after an operation was there before, or the operation brings its value. -/
theorem Bounding.mem_entries_run {c : Cache} (h : c.Bounding) {o : Operation} {e : Key × Value}
    (he : e ∈ (o.run c).2.entries) : e ∈ c.entries ∨ e.2 ∈ o.values := by
  cases o with
  | put k v =>
    rcases mem_entries_put he with he | ⟨-, he⟩
    · exact .inl he
    · rw [h.kept] at he
      exact .inr (List.mem_singleton.2 he)
  | get k => exact .inl (entries_get k c he)
  | remove k => exact .inl (entries_remove k c he)
  | clear =>
    rw [Operation.run, entries_clear] at he
    cases he
  | size =>
    rw [Operation.run, h.size] at he
    exact .inl he
  | commit clears es =>
    rcases mem_entries_writeBatch he with ⟨-, he⟩ | ⟨p, hp, -, he⟩
    · exact .inl he
    · rw [h.kept] at he
      exact .inr (List.mem_map.2 ⟨p, hp, he.symm⟩)

/-- Operations on a bounded store pass the layer. -/
theorem Passes.run {layer : Cache → Cache} (h : Passes layer) {c : Cache} (hc : c.Bounding)
    (hbatch : ∀ clears es, (layer c).writeBatch clears es = (layer c).writeAll clears es)
    (o : Operation) : o.run (layer c) = ((o.run c).1, layer (o.run c).2) := by
  cases o with
  | put k v => simp only [Operation.run, h.put]
  | get k => simp only [Operation.run, h.get]
  | remove k => simp only [Operation.run, h.remove]
  | clear => simp only [Operation.run, h.clear]
  | size => simp only [Operation.run, h.size]
  | commit clears es => simp only [Operation.run, hbatch, hc.writeBatch, h.writeAll]

/-! ## Snapshots -/

/-- The text of the value is read as the value again. -/
def Readable (v : Value) : Prop := Json.read? v.json = some v

/-- Values of whole numbers, texts and ascending fields are readable up to a depth of 127. -/
theorem readable_of_faithful {v : Value} (h : v.Faithful Json.depthLimit) : Readable v :=
  h.read?_json

theorem thaw_freeze (id : String) {v : Value} (h : Readable v) :
    thaw id (some (freeze v)) = .ok (some v) := by
  rw [Readable] at h
  simp only [thaw, freeze, h]

/-- What a lookup makes of the text is what was found without the texts. -/
theorem Bounding.get_thawed {c : Cache} (h : c.Bounding) (hr : ∀ e ∈ c.entries, Readable e.2)
    (k : Key) (id : String) :
    ((c.get k).1.map (·.map freeze)).bind (thaw id) = (c.get k).1 := by
  rcases get_result c k with hn | ⟨e, he, -, hs⟩
  · rw [hn]
    rfl
  · rw [hs, h.shown]
    exact thaw_freeze id (hr e he)

/-- The answer with the text in place of a value that is removed. -/
def Answer.frozen : Answer → Answer
  | .removed v => .removed (v.map freeze)
  | a => a

theorem Passes.put_snapshots {layer : Cache → Cache} (h : Passes layer) {c : Cache}
    (hc : c.Bounding) (k : Key) (v : Value) : (snapshots (layer c.frozen)).put k v =
      ((c.put k v).1, .snapshots (layer (c.put k v).2.frozen)) := by
  have hp := hc.put_frozen k v
  rw [freeze] at hp
  rw [Cache.put, h.put, hp]

theorem Passes.putAll_snapshots {layer : Cache → Cache} (h : Passes layer) {c : Cache}
    (hc : c.Bounding) (es : List (Key × Value)) : (snapshots (layer c.frozen)).putAll es =
      ((c.putAll es).1, .snapshots (layer (c.putAll es).2.frozen)) := by
  induction es generalizing c with
  | nil => rfl
  | cons e rest ih =>
    have hb := hc.congr (frame_put e.1 e.2 c)
    simp only [Cache.putAll, h.put_snapshots hc]
    rcases hp : c.put e.1 e.2 with ⟨_ | _, d⟩
    · rfl
    · rw [hp] at hb
      exact ih hb

/-- The answer with the texts in place of the values, as a lookup makes values of them. -/
def Answer.thawed (id : String) : Answer → Answer
  | .found r => .found ((r.map (·.map freeze)).bind (thaw id))
  | .removed v => .removed (v.map freeze)
  | a => a

/-- A layer of snapshots has texts in place of the values. -/
theorem Passes.run_texts {layer : Cache → Cache} (h : Passes layer) {c : Cache}
    (hc : c.Bounding) (o : Operation) :
    ∃ id, o.run (.snapshots (layer c.frozen)) =
      ((o.run c).1.thawed id, .snapshots (layer (o.run c).2.frozen)) := by
  refine ⟨(layer (o.run c).2.frozen).id, ?_⟩
  cases o with
  | put k v =>
    simp only [Operation.run, h.put_snapshots hc]
    rfl
  | get k =>
    simp only [Operation.run, Cache.get, h.get, hc.get_frozen]
    rfl
  | remove k =>
    simp only [Operation.run, Cache.remove, h.remove, hc.remove_frozen]
    rfl
  | clear =>
    simp only [Operation.run, Cache.clear, h.clear, clear_frozen]
    rfl
  | size =>
    have hlength : c.frozen.entries.length = c.entries.length := by
      rw [entries_frozen, Entries.frozen, List.length_map]
    simp only [Operation.run, Cache.size, h.size, hc.frozen.size, hc.size, hlength]
    rfl
  | commit clears es =>
    simp only [Operation.run, hc.writeBatch]
    cases clears with
    | false => simp [Cache.writeBatch, Cache.writeAll, h.putAll_snapshots hc, Answer.thawed]
    | true =>
      have hclear := h.putAll_snapshots (hc.congr (frame_clear c)) es
      simp [Cache.writeBatch, Cache.writeAll, Cache.clear, h.clear, clear_frozen, hclear,
        Answer.thawed]

/-- Where the texts can be read back, a lookup answers as the values would. -/
theorem Bounding.thawed_run {c : Cache} (hc : c.Bounding) (hr : ∀ e ∈ c.entries, Readable e.2)
    (o : Operation) (id : String) : (o.run c).1.thawed id = (o.run c).1.frozen := by
  cases o with
  | get k => exact congrArg Answer.found (hc.get_thawed hr k id)
  | _ => rfl

end Cache

open Cache

namespace CacheConfig

/-! ## The layers of a configuration -/

/-- The layer that clears from time to time, if there is one. -/
def timing (config : CacheConfig) (c : Cache) : Cache :=
  match config.flushInterval with
  | some i => .timed i c
  | none => c

/-- The configured cache around a bounded store with these values. -/
def around (config : CacheConfig) (t : Tally) (c : Cache) : Cache :=
  .locked (.counted t true
    (if config.readWrite then .snapshots (config.timing c.frozen) else config.timing c))

/-- The answer of a configured cache where the bounded store has this one. -/
def answer (config : CacheConfig) (a : Answer) : Answer := if config.readWrite then a.frozen else a

/-- The same answer, where the texts need not be readable. -/
def shown (config : CacheConfig) (id : String) (a : Answer) : Answer :=
  if config.readWrite then a.thawed id else a

/-- A bounded store with values that can be read back if they are kept as texts. -/
structure Admits (config : CacheConfig) (c : Cache) : Prop where
  bounding : c.Bounding
  readable : config.readWrite = true → ∀ e ∈ c.entries, Readable e.2

variable {config : CacheConfig}

theorem passes_timing (h : config.flushInterval ≠ some 0) : Passes config.timing := by
  unfold timing
  cases hi : config.flushInterval with
  | none => exact passes_id
  | some i => exact passes_timed fun h0 => h (by rw [hi, h0])

theorem writeBatch_timing {c : Cache} (hc : c.Bounding) (clears : Bool)
    (es : List (Key × Value)) :
    (config.timing c).writeBatch clears es = (config.timing c).writeAll clears es := by
  unfold timing
  cases config.flushInterval with
  | none => exact hc.writeBatch clears es
  | some i => rfl

theorem bounding_bounded (e : Eviction) (n : Nat) (id : String) : (bounded e n id).Bounding := by
  cases e <;> trivial

theorem entries_bounded (e : Eviction) (n : Nat) (id : String) : (bounded e n id).entries = [] := by
  cases e <;> rfl

theorem frozen_bounded (e : Eviction) (n : Nat) (id : String) :
    (bounded e n id).frozen = bounded e n id := by
  cases e <;> rfl

theorem build_around {id : String} (hsize : 1 ≤ config.size)
    (hi : config.flushInterval ≠ some 0) : config.build id =
      .ok (config.around .zero (bounded config.eviction config.size id)) := by
  have hpos : config.size ≠ 0 := by omega
  rw [build, if_neg hpos, if_neg hi, around, frozen_bounded]
  rfl

/-- One operation, whether texts can be read back or not. -/
theorem run_layers (hi : config.flushInterval ≠ some 0) {c : Cache} (hc : c.Bounding) (t : Tally)
    (o : Operation) : ∃ id, o.run (config.around t c) =
      (config.shown id (o.run c).1,
        config.around (t.noted o (config.shown id (o.run c).1)) (o.run c).2) := by
  have hpass := passes_timing hi
  simp only [around, shown, run_locked, run_counted]
  cases hrw : config.readWrite with
  | false => exact ⟨"", by simp [hpass.run hc (writeBatch_timing hc) o]⟩
  | true =>
    obtain ⟨id, hrun⟩ := hpass.run_texts hc o
    exact ⟨id, by simp [hrun]⟩

/-- One operation, where texts can be read back. -/
theorem run_around (hi : config.flushInterval ≠ some 0) {c : Cache} (hc : config.Admits c)
    (t : Tally) (o : Operation) : ∃ t', o.run (config.around t c) =
      (config.answer (o.run c).1, config.around t' (o.run c).2) := by
  obtain ⟨id, hrun⟩ := run_layers hi hc.bounding t o
  have hanswer : config.shown id (o.run c).1 = config.answer (o.run c).1 := by
    rw [shown, answer]
    split
    · rename_i hrw
      exact hc.bounding.thawed_run (hc.readable hrw) o id
    · rfl
  rw [hanswer] at hrun
  exact ⟨_, hrun⟩

theorem Admits.run {c : Cache} (hc : config.Admits c) {o : Operation}
    (ho : config.readWrite = true → ∀ v ∈ o.values, Readable v) : config.Admits (o.run c).2 where
  bounding := hc.bounding.congr (hc.bounding.frame_run o)
  readable hrw e he := by
    rcases hc.bounding.mem_entries_run he with he | he
    · exact hc.readable hrw e he
    · exact ho hrw e.2 he

/-- All operations, one after the other. -/
theorem answers_around (hi : config.flushInterval ≠ some 0) {c : Cache} (hc : config.Admits c)
    (t : Tally) {ops : List Operation}
    (hops : config.readWrite = true → ∀ o ∈ ops, ∀ v ∈ o.values, Readable v) :
    (config.around t c).answers ops = (c.answers ops).map config.answer := by
  induction ops generalizing c t with
  | nil => rfl
  | cons o rest ih =>
    obtain ⟨t', ho⟩ := run_around hi hc t o
    have hnext : config.Admits (o.run c).2 := hc.run fun hrw => hops hrw o List.mem_cons_self
    rw [answers, answers, ho, List.map_cons,
      ih hnext t' fun hrw o' ho' => hops hrw o' (List.mem_cons_of_mem o ho')]

/-- A configuration with room for an entry can be built. Whatever is then done with the cache, its
answers are those of the bounded store alone, if the texts of the values that are put can be read
back; only a removal hands out the text of the removed value where texts are kept. -/
theorem build_answers (config : CacheConfig) (id : String) (hsize : 1 ≤ config.size)
    (hi : config.flushInterval ≠ some 0) (ops : List Operation)
    (hops : config.readWrite = true → ∀ o ∈ ops, ∀ v ∈ o.values, Readable v) :
    ∃ c, config.build id = .ok c ∧
      c.answers ops = ((bounded config.eviction config.size id).answers ops).map config.answer :=
  ⟨_, build_around hsize hi, answers_around hi
    ⟨bounding_bounded .., fun _ e he => by rw [entries_bounded] at he; cases he⟩ .zero hops⟩

/-- A configuration with all layers and room for one entry. -/
def copying : CacheConfig := ⟨.firstIn, 1, some 60000, true⟩

def oneKey : Key := ⟨[.str "k"]⟩

/-- A result of one row. -/
def oneRow : Value := .arr [.obj [("n", .num (.int 1))]]

theorem faithful_oneRow (d : Nat) : oneRow.Faithful (d + 2) := by
  refine .arr fun v hv => ?_
  rw [List.mem_singleton.1 hv]
  refine .obj (List.pairwise_singleton _ _) fun e he => ?_
  rw [List.mem_singleton.1 he]
  exact .whole (by decide) (by decide)

theorem readable_oneRow : Readable oneRow := readable_of_faithful (faithful_oneRow 125)

theorem build_answers_copying : 1 ≤ copying.size ∧ copying.flushInterval ≠ some 0 ∧
    Readable oneRow ∧ ∃ c, copying.build "c" = .ok c ∧
      c.answers [.put oneKey oneRow, .get oneKey, .remove oneKey, .commit true [(oneKey, oneRow)],
        .size] = ((bounded .firstIn 1 "c").answers [.put oneKey oneRow, .get oneKey,
          .remove oneKey, .commit true [(oneKey, oneRow)], .size]).map copying.answer := by
  refine ⟨by decide, by decide, readable_oneRow,
    build_answers copying "c" (by decide) (by decide) _ fun _ o ho v hv => ?_⟩
  have hvalue : v = oneRow := by
    simp only [List.mem_cons, List.not_mem_nil, or_false] at ho
    rcases ho with rfl | rfl | rfl | rfl | rfl
    · exact List.mem_singleton.1 hv
    · cases hv
    · cases hv
    · exact List.mem_singleton.1 hv
    · cases hv
  exact hvalue ▸ readable_oneRow

/-- A removal hands out the text of the row, and not the row. -/
theorem removed_text : Readable oneRow ∧ ∃ c, copying.build "c" = .ok c ∧
    c.answers [.put oneKey oneRow, .remove oneKey] =
      [.written (.ok ()), .removed (some (.str oneRow.json))] ∧
    (bounded .firstIn 1 "c").answers [.put oneKey oneRow, .remove oneKey] =
      [.written (.ok ()), .removed (some oneRow)] ∧ Value.str oneRow.json ≠ oneRow := by
  refine ⟨readable_oneRow, copying.around .zero (bounded .firstIn 1 "c"),
    build_around (by decide) (by decide), by cbv, by cbv, ?_⟩
  rintro ⟨⟩

end CacheConfig

end MappedSql
