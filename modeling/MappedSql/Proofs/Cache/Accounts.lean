import MappedSql.Proofs.Cache.Replacement

/- What the counts of a cache account for.

   The layer that counts sees every operation and its answer, so its counts are sums over
   the history (`Noted`). Evictions are counted further inside, by the bound. They are
   what balances the books: a result that came under a key of its own is still stored, or
   gave way, or was removed, or was dropped by a clear (`Follows.balance` for one
   operation on the bounded store, `conserved` for a history of the whole cache). -/
namespace MappedSql

namespace Cache

/-! ## What an operation counts -/

/-- How many of the results, put one after the other, come under a key that is not stored then. -/
def newKeys (c : Cache) : List (Key × Value) → Nat
  | [] => 0
  | (k, v) :: rest => (if (c.entries.get? k).isSome then 0 else 1) + (c.put k v).2.newKeys rest

namespace Answer

def hits : Answer → Nat
  | .found (.ok (some _)) => 1
  | _ => 0

def failures : Answer → Nat
  | .found (.error _) => 1
  | _ => 0

def removals : Answer → Nat
  | .removed (some _) => 1
  | _ => 0

end Answer

namespace Operation

def lookups (_ : Cache) : Operation → Nat
  | .get _ => 1
  | _ => 0

/-- Lookups that give a value. -/
def hits (c : Cache) (o : Operation) : Nat := (o.run c).1.hits

/-- Lookups that fail. -/
def failures (c : Cache) (o : Operation) : Nat := (o.run c).1.failures

/-- Puts, those of a batch each for itself. -/
def puts (_ : Cache) : Operation → Nat
  | .put _ _ => 1
  | .commit _ es => es.length
  | _ => 0

/-- Clears, and batches that clear. -/
def clears (_ : Cache) : Operation → Nat
  | .clear => 1
  | .commit true _ => 1
  | _ => 0

/-- Results that are stored under a key that is not there at that moment. -/
def arrivals (c : Cache) : Operation → Nat
  | .put k v => c.newKeys [(k, v)]
  | .commit clears es => (if clears then c.clear else c).newKeys es
  | _ => 0

/-- Removals that find an entry. -/
def removals (c : Cache) (o : Operation) : Nat := (o.run c).1.removals

/-- Entries that a clear drops. -/
def dropped (c : Cache) : Operation → Nat
  | .clear => c.size.1
  | .commit true _ => c.size.1
  | _ => 0

theorem removals_remove (c : Cache) (k : Key) :
    removals c (.remove k) = if (c.remove k).1.isSome then 1 else 0 := by
  rw [removals, run]
  cases (c.remove k).1 <;> rfl

end Operation

/-! ## The layer that counts -/

/-- The counts `t'` are the counts `t` and those of the history. -/
structure Noted (t t' : Tally) (c : Cache) (ops : List Operation) : Prop where
  hits : t'.hits = t.hits + c.total Operation.hits ops
  lookups : t'.hits + t'.misses + c.total Operation.failures ops =
    t.hits + t.misses + c.total Operation.lookups ops
  puts : t'.puts = t.puts + c.total Operation.puts ops
  clears : t'.clears = t.clears + c.total Operation.clears ops
  evictions : t'.evictions = t.evictions

theorem noted_nil (t : Tally) (c : Cache) : Noted t t c [] := ⟨rfl, rfl, rfl, rfl, rfl⟩

/-- One operation, with the answer that the cache gives. -/
theorem noted_single (t : Tally) (c : Cache) (o : Operation) :
    Noted t (t.noted o (o.run c).1) c [o] := by
  cases o with
  | get k =>
    -- The one operation whose counts depend on the answer: a failure is neither hit nor miss.
    rcases hr : (c.get k).1 with err | v | v
    all_goals
      constructor <;> simp +arith [total, Operation.run, Tally.noted, Tally.countLookup,
        Operation.hits, Answer.hits, Operation.failures, Answer.failures, Operation.lookups,
        Operation.puts, Operation.clears, hr]
  | put k v => constructor <;> rfl
  | remove k => constructor <;> rfl
  | size => constructor <;> rfl
  | clear => constructor <;> rfl
  | commit clears es =>
    cases clears <;> constructor <;> rfl

theorem Noted.cons {t t₁ t' : Tally} {c : Cache} {o : Operation} {ops : List Operation}
    (h : Noted t t₁ c [o]) (h' : Noted t₁ t' (o.run c).2 ops) : Noted t t' c (o :: ops) := by
  obtain ⟨hits, lookups, puts, clears, evictions⟩ := h
  simp only [total] at hits lookups puts clears
  obtain ⟨hits', lookups', puts', clears', evictions'⟩ := h'
  constructor
  · simp only [total]; omega
  · simp only [total]; omega
  · simp only [total]; omega
  · simp only [total]; omega
  · rw [evictions', evictions]

/-! ## The books of a bounded store -/

@[simp] theorem evictions_clear (c : Cache) : c.clear.evictions = c.evictions := by
  induction c <;> simp_all [clear, evictions]

@[simp] theorem evictions_elapse (i : Nat) (c : Cache) : (c.elapse i).evictions = c.evictions := by
  unfold elapse
  split <;> simp

@[simp] theorem evictions_get (k : Key) (c : Cache) : (c.get k).2.evictions = c.evictions := by
  fun_induction get k c <;> simp_all [evictions]

@[simp] theorem evictions_remove (k : Key) (c : Cache) :
    (c.remove k).2.evictions = c.evictions := by
  fun_induction remove k c <;> simp_all [evictions]

theorem evictions_frozen (c : Cache) : c.frozen.evictions = c.evictions := by
  induction c <;> simp_all [frozen, mapEntries, evictions]

section

variable {cap : Nat} {id : String} {e : Eviction} {c : Cache} {es : Entries}

theorem Follows.balance_putAll (h : Follows cap id e c es) (new : List (Key × Value)) :
    c.newKeys new + c.entries.length + c.evictions =
      (c.putAll new).2.entries.length + (c.putAll new).2.evictions := by
  induction new generalizing c es with
  | nil => simp [newKeys, Cache.putAll]
  | cons f rest ih =>
    obtain ⟨d, hd, hnext, hput⟩ := h.puts f.1 f.2
    have hrest := ih hnext
    rw [← hnext.entries.length, ← h.entries.length, ← h.entries.get?] at hput
    simp only [newKeys, Cache.putAll, hd]
    omega

/-- One operation. -/
theorem Follows.balance (h : Follows cap id e c es) (o : Operation) :
    o.arrivals c + c.entries.length + c.evictions =
      (o.run c).2.entries.length + (o.run c).2.evictions + o.removals c + o.dropped c := by
  have hsize := h.bounding.size
  cases o with
  | put k v =>
    have hput := h.balance_putAll [(k, v)]
    obtain ⟨d, hd, -⟩ := h.puts k v
    simp only [Cache.putAll, hd] at hput
    simp only [Operation.arrivals, Operation.removals, Operation.dropped, Operation.run, hd]
    exact hput
  | get k =>
    have hentries : (c.get k).2.entries = c.entries := by cases h <;> rfl
    simp [Operation.arrivals, Operation.removals, Answer.removals, Operation.dropped,
      Operation.run, hentries]
  | remove k =>
    obtain ⟨hfound, hnext⟩ := h.remove k
    have hlen := h.entries.apart.length_erase k
    rw [← hnext.entries.length, ← h.entries.length, ← hfound] at hlen
    simp only [Operation.arrivals, Operation.dropped, Operation.run, evictions_remove,
      Operation.removals_remove]
    omega
  | clear =>
    simp only [Operation.arrivals, Operation.dropped, Operation.run, Operation.removals,
      Answer.removals, entries_clear, evictions_clear, hsize, List.length_nil]
    omega
  | size =>
    simp [Operation.arrivals, Operation.removals, Answer.removals, Operation.dropped,
      Operation.run, hsize]
  | commit clears new =>
    simp only [Operation.run, Operation.arrivals, Operation.removals, Answer.removals,
      h.bounding.writeBatch, writeAll]
    cases clears with
    | false =>
      have hall := h.balance_putAll new
      simp only [Operation.dropped, Bool.false_eq_true, if_false]
      omega
    | true =>
      have hall := h.clear.balance_putAll new
      simp only [entries_clear, evictions_clear, List.length_nil] at hall
      simp only [Operation.dropped, if_true, hsize]
      omega

end

/-! ## Texts that can be read -/

/-- The text of the value can be read, if not as the same value. -/
def Legible (v : Value) : Prop := (Json.read? v.json).isSome = true

/-- Only a value that nests more than 127 deep, or has a number that is not read, is not legible. -/
theorem legible_of_within {v : Value} (h : v.Within Json.depthLimit) : Legible v := by
  rw [Legible, Json.read?_json h]
  rfl

theorem exists_thaw (id : String) {v : Value} (h : Legible v) :
    ∃ w, thaw id (some (freeze v)) = .ok (some w) := by
  obtain ⟨w, hw⟩ := Option.isSome_iff_exists.1 h
  exact ⟨w, by simp only [thaw, freeze, hw]⟩

/-- A lookup fails only where a text cannot be read. -/
theorem Bounding.exists_get_thawed {c : Cache} (h : c.Bounding) (hl : ∀ e ∈ c.entries, Legible e.2)
    (k : Key) (id : String) :
    ∃ v, ((c.get k).1.map (·.map freeze)).bind (thaw id) = .ok v := by
  rcases get_result c k with hn | ⟨e, he, -, hs⟩
  · rw [hn]
    exact ⟨none, rfl⟩
  · rw [hs, h.shown]
    obtain ⟨w, hw⟩ := exists_thaw id (hl e he)
    exact ⟨some w, hw⟩

end Cache

open Cache

namespace CacheConfig

variable {config : CacheConfig} {cap : Nat} {id : String} {e : Eviction} {c : Cache}
  {es : Entries}

/-! ## The books of a configured cache -/

theorem entries_around (t : Tally) (c : Cache) : (config.around t c).entries =
    if config.readWrite then c.entries.frozen else c.entries := by
  have htiming : ∀ d, (config.timing d).entries = d.entries := by
    intro d
    unfold timing
    cases config.flushInterval <;> rfl
  simp only [around, Cache.entries]
  split
  · rw [Cache.entries, htiming, entries_frozen]
  · rw [htiming]

theorem tally?_around (t : Tally) (c : Cache) : (config.around t c).tally? =
    some { t with evictions := t.evictions + c.evictions } := by
  have htiming : ∀ d, (config.timing d).evictions = d.evictions := by
    intro d
    unfold timing
    cases config.flushInterval <;> rfl
  simp only [around, Cache.tally?, if_true]
  split
  · rw [Cache.evictions, htiming, evictions_frozen]
  · rw [htiming]

theorem isSome_get?_around (t : Tally) (c : Cache) (k : Key) :
    ((config.around t c).entries.get? k).isSome = (c.entries.get? k).isSome := by
  rw [entries_around]
  split
  · rw [Entries.get?_frozen, Option.isSome_map]
  · rfl

theorem removals_shown (id : String) (a : Answer) :
    (config.shown id a).removals = a.removals := by
  rw [shown]
  split
  · rcases a with r | r | v | _ | n
    case removed => cases v <;> rfl
    all_goals rfl
  · rfl

/-- A lookup answers, if the texts can be read where texts are kept. -/
theorem shown_found (hc : c.Bounding)
    (hl : config.readWrite = true → ∀ e ∈ c.entries, Legible e.2) (k : Key) (id : String) :
    ∃ v, config.shown id (.found (c.get k).1) = .found (.ok v) := by
  cases hrw : config.readWrite with
  | true =>
    obtain ⟨v, hv⟩ := hc.exists_get_thawed (hl hrw) k id
    exact ⟨v, by rw [shown, if_pos hrw, Answer.thawed, hv]⟩
  | false =>
    rw [shown, hrw]
    rcases get_result c k with hn | ⟨e, -, -, hs⟩
    · exact ⟨none, by rw [hn]; rfl⟩
    · exact ⟨some e.2, by rw [hs, hc.shown]; rfl⟩

section

variable (hi : config.flushInterval ≠ some 0)
include hi

theorem size_around (hc : c.Bounding) (t : Tally) : (config.around t c).size.1 = c.size.1 := by
  obtain ⟨id, hrun⟩ := run_layers hi hc t .size
  have hanswer := congrArg Prod.fst hrun
  simp only [Operation.run, shown, Answer.thawed, ite_self] at hanswer
  exact Answer.counted.inj hanswer

theorem newKeys_around (hc : c.Bounding) (t : Tally) (new : List (Key × Value)) :
    (config.around t c).newKeys new = c.newKeys new := by
  induction new generalizing c t with
  | nil => rfl
  | cons f rest ih =>
    obtain ⟨id, hrun⟩ := run_layers hi hc t (.put f.1 f.2)
    have hnext := congrArg Prod.snd hrun
    simp only [Operation.run] at hnext
    simp only [newKeys, isSome_get?_around, hnext]
    rw [ih (hc.congr (frame_put f.1 f.2 c))]

theorem arrivals_around (hc : c.Bounding) (t : Tally) (o : Operation) :
    o.arrivals (config.around t c) = o.arrivals c := by
  cases o with
  | put k v => exact newKeys_around hi hc t [(k, v)]
  | commit clears new =>
    cases clears with
    | false => exact newKeys_around hi hc t new
    | true =>
      obtain ⟨id, hrun⟩ := run_layers hi hc t .clear
      have hnext := congrArg Prod.snd hrun
      simp only [Operation.run] at hnext
      simp only [Operation.arrivals, if_true, hnext]
      exact newKeys_around hi (hc.congr (frame_clear c)) _ new
  | _ => rfl

theorem removals_around (hc : c.Bounding) (t : Tally) (o : Operation) :
    o.removals (config.around t c) = o.removals c := by
  obtain ⟨id, hrun⟩ := run_layers hi hc t o
  rw [Operation.removals, hrun]
  exact removals_shown id (o.run c).1

theorem dropped_around (hc : c.Bounding) (t : Tally) (o : Operation) :
    o.dropped (config.around t c) = o.dropped c := by
  cases o with
  | clear => exact size_around hi hc t
  | commit clears new =>
    cases clears with
    | false => rfl
    | true => exact size_around hi hc t
  | _ => rfl

/-- A result that came under a new key is stored, or gave way, or was removed, or was dropped. -/
theorem conserved (h : Follows cap id e c es) (t : Tally) (ops : List Operation) :
    (config.around t c).total Operation.arrivals ops + c.entries.length + c.evictions =
      (c.after ops).entries.length + (c.after ops).evictions +
        (config.around t c).total Operation.removals ops +
        (config.around t c).total Operation.dropped ops := by
  -- The sums are of the configured cache, the balance of each step is of the bounded store in it:
  -- what an operation counts is the same at both.
  induction ops generalizing c es t with
  | nil => simp [total]
  | cons o rest ih =>
    obtain ⟨id, hrun⟩ := run_layers hi h.bounding t o
    have hstep := h.balance o
    have hrest := ih (h.run o).2 (t.noted o (config.shown id (o.run c).1))
    simp only [total, hrun, after_cons, arrivals_around hi h.bounding,
      removals_around hi h.bounding, dropped_around hi h.bounding]
    omega

/-- The layers stay around the bounded store, with the counts of the history. -/
theorem after_around (h : Follows cap id e c es) (t : Tally) (ops : List Operation) :
    ∃ t', (config.around t c).after ops = config.around t' (c.after ops) ∧
      Noted t t' (config.around t c) ops := by
  induction ops generalizing c es t with
  | nil => exact ⟨t, rfl, noted_nil t _⟩
  | cons o rest ih =>
    obtain ⟨id, hrun⟩ := run_layers hi h.bounding t o
    have hone := noted_single t (config.around t c) o
    obtain ⟨t', hafter, hrest⟩ := ih (h.run o).2 (t.noted o (config.shown id (o.run c).1))
    rw [hrun] at hone
    refine ⟨t', ?_, hone.cons ?_⟩
    · rw [after_cons, hrun, hafter, after_cons]
    · rw [hrun]
      exact hrest

theorem failures_around (hc : c.Bounding)
    (hl : config.readWrite = true → ∀ e ∈ c.entries, Legible e.2) (t : Tally) (o : Operation) :
    o.failures (config.around t c) = 0 := by
  obtain ⟨id, hrun⟩ := run_layers hi hc t o
  rw [Operation.failures, hrun]
  cases o with
  | get k =>
    obtain ⟨v, hv⟩ := shown_found hc hl k id
    rw [Operation.run, hv]
    rfl
  | _ =>
    rw [shown]
    split <;> rfl

theorem total_failures (h : Follows cap id e c es) (t : Tally)
    (hl : config.readWrite = true → ∀ e ∈ c.entries, Legible e.2) {ops : List Operation}
    (hops : config.readWrite = true → ∀ o ∈ ops, ∀ v ∈ o.values, Legible v) :
    (config.around t c).total Operation.failures ops = 0 := by
  -- Carried along: what is stored was there before, or an operation brought it.
  induction ops generalizing c es t with
  | nil => rfl
  | cons o rest ih =>
    obtain ⟨id, hrun⟩ := run_layers hi h.bounding t o
    have hnext : config.readWrite = true → ∀ e ∈ (o.run c).2.entries, Legible e.2 := by
      intro hrw e he
      rcases h.bounding.mem_entries_run he with he | he
      · exact hl hrw e he
      · exact hops hrw o List.mem_cons_self e.2 he
    simp only [total, failures_around hi h.bounding hl, hrun]
    rw [ih (h.run o).2 _ hnext fun hrw o' ho' => hops hrw o' (List.mem_cons_of_mem o ho')]

end

/-- What the counts `t` of a cache account for after the operations. -/
structure Accounts (c : Cache) (ops : List Operation) (t : Tally) : Prop where
  hits : t.hits = c.total Operation.hits ops
  lookups : t.hits + t.misses + c.total Operation.failures ops = c.total Operation.lookups ops
  puts : t.puts = c.total Operation.puts ops
  clears : t.clears = c.total Operation.clears ops
  kept : c.total Operation.arrivals ops = (c.after ops).size.1 + t.evictions +
    c.total Operation.removals ops + c.total Operation.dropped ops

theorem accounts_around (hi : config.flushInterval ≠ some 0) (h : Follows cap id e c es)
    (hempty : c.entries = []) (hnone : c.evictions = 0) (ops : List Operation) :
    ∃ t, ((config.around .zero c).after ops).tally? = some t ∧
      Accounts (config.around .zero c) ops t := by
  obtain ⟨t, hafter, hnoted⟩ := after_around hi h .zero ops
  have hkept := conserved hi h .zero ops
  have hbounding := (h.after ops).bounding
  rw [hempty, hnone, List.length_nil] at hkept
  refine ⟨_, by rw [hafter, tally?_around], ?_⟩
  constructor
  · simpa [Tally.zero] using hnoted.hits
  · simpa [Tally.zero] using hnoted.lookups
  · simpa [Tally.zero] using hnoted.puts
  · simpa [Tally.zero] using hnoted.clears
  · -- The evictions that are shown are those of the bound: the layer that counts adds none.
    have hevictions : t.evictions = 0 := hnoted.evictions
    rw [hafter, size_around hi hbounding, hbounding.size]
    simp only [hevictions]
    omega

/-- With room for one: a result that gives way, one that is put again, one that is removed and one
that a clearing batch drops. -/
def fourArrivals : List Operation :=
  [.put (named "a") oneRow, .put (named "b") oneRow, .get (named "a"), .get (named "b"),
    .put (named "b") oneRow, .remove (named "b"), .put (named "a") oneRow,
    .commit true [(named "b", oneRow)]]

theorem legible_fourArrivals : ∀ o ∈ fourArrivals, ∀ v ∈ o.values, Legible v := by
  have hrow : Legible oneRow := legible_of_within (faithful_oneRow 125).within
  simp [fourArrivals, Operation.values, hrow]

end CacheConfig

end MappedSql
