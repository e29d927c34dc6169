import MappedSql.Proofs.Cache.Histories
import MappedSql.Proofs.Cache.Unbounded

/- Which entry gives way.

   A bounded store has two parts that an operation changes one after the other: the keys
   that the bound has in its order, and the entries of the store. The rule behind it is
   simpler, one list of results (`Policy`) in the order of their last use or of their
   arrival. A bounded store answers as the list does, and what it stores are the results
   of the list, under the keys of the bound (`leastRecent_answers`, `firstIn_answers`).
   Both come from one relation between a bounded store and a list (`Follows`), which
   every operation keeps. -/
namespace MappedSql.Cache

/-! ## Results under their keys -/

namespace Entries

theorem any_eq (es : Entries) (k : Key) : es.any (k == ·.1) = (es.get? k).isSome := by
  induction es with
  | nil => rfl
  | cons e rest ih =>
    obtain ⟨l, w⟩ := e
    cases hk : k == l
    · simpa [get?, hk] using ih
    · simp [get?, hk]

theorem any_keys (es : Entries) (k : Key) :
    (es.map (·.1)).any (k == ·) = (es.get? k).isSome := by
  rw [← any_eq, List.any_map]
  rfl

theorem get?_congr {k l : Key} (h : (k == l) = true) (es : Entries) : es.get? k = es.get? l := by
  induction es with
  | nil => rfl
  | cons e rest ih =>
    have hk : (k == e.1) = (l == e.1) := BEq.congr_left h
    simp only [get?, hk, ih]

theorem keys_erase (es : Entries) (k : Key) :
    (es.erase k).map (·.1) = (es.map (·.1)).filter fun l => !(k == l) := by
  rw [erase, List.filter_map]
  rfl

theorem keys_front (es : Entries) (k : Key) (v : Value) :
    ((k, v) :: es.erase k).map (·.1) = k :: (es.map (·.1)).filter fun l => !(k == l) := by
  rw [List.map_cons, keys_erase]

theorem erase_of_absent {es : Entries} {k : Key} (h : es.get? k = none) : es.erase k = es := by
  rw [erase, List.filter_eq_self]
  intro e he
  have hany := any_eq es k
  rw [h, Option.isSome_none, List.any_eq_false] at hany
  simpa using hany e he

theorem insert_of_absent {es : Entries} {k : Key} (h : es.get? k = none) (v : Value) :
    es.insert k v = es ++ [(k, v)] := by
  induction es with
  | nil => rfl
  | cons e rest ih =>
    obtain ⟨l, w⟩ := e
    cases hk : k == l
    · rw [get?, if_neg (by simp [hk])] at h
      simp [insert, hk, ih h]
    · simp [get?, hk] at h

namespace Distinct

theorem erase {es : Entries} (h : es.Distinct) (k : Key) : (es.erase k).Distinct :=
  List.Pairwise.filter _ h

/-- The key of the first result is the key of no other. -/
theorem get?_tail {l : Key} {w : Value} {rest : Entries} (h : Distinct ((l, w) :: rest)) {k : Key}
    (hk : (k == l) = true) : rest.get? k = none := by
  cases hg : rest.get? k with
  | none => rfl
  | some v =>
    obtain ⟨f, hf, hkf, -⟩ := mem_of_get? hg
    have hlf := (List.pairwise_cons.1 h).1 f hf
    exact absurd (PartialEquivBEq.trans (BEq.symm hk) hkf) (Bool.eq_false_iff.1 hlf)

theorem erase_first {e : Key × Value} {rest : Entries} (h : Distinct (e :: rest)) :
    Entries.erase (e :: rest) e.1 = rest := by
  have hrest : Entries.erase rest e.1 = rest :=
    erase_of_absent (get?_tail (l := e.1) (w := e.2) h (BEq.refl e.1))
  rw [Entries.erase] at hrest
  simp [Entries.erase, hrest]

theorem erase_last {e : Key × Value} {front : Entries} (h : Distinct (front ++ [e])) :
    Entries.erase (front ++ [e]) e.1 = front := by
  have hfront : Entries.erase front e.1 = front := by
    rw [Entries.erase, List.filter_eq_self]
    intro f hf
    have hfe := (List.pairwise_append.1 h).2.2 f hf e (List.mem_singleton_self e)
    simpa [BEq.comm] using hfe
  rw [Entries.erase] at hfront
  simp [Entries.erase, hfront]

/-- An erased result leaves one result fewer, if there was one under the key. -/
theorem length_erase {es : Entries} (h : es.Distinct) (k : Key) :
    (es.erase k).length + (if (es.get? k).isSome then 1 else 0) = es.length := by
  induction es with
  | nil => rfl
  | cons e rest ih =>
    obtain ⟨l, w⟩ := e
    have hrest := ih (List.pairwise_cons.1 h).2
    cases hk : k == l
    · simp only [Entries.erase, List.filter_cons, hk, get?] at hrest ⊢
      simp at hrest ⊢
      omega
    · have htail := erase_of_absent (h.get?_tail hk)
      simp only [Entries.erase] at htail
      simp [Entries.erase, get?, hk, htail]

theorem length_front {es : Entries} (h : es.Distinct) (k : Key) (v : Value) :
    ((k, v) :: es.erase k).length = es.length + (if (es.get? k).isSome then 0 else 1) := by
  have herase := h.length_erase k
  rw [List.length_cons]
  split at herase <;> simp_all

/-- A result under a key that is there takes the place of the old one. -/
theorem insert_of_present {es : Entries} (h : es.Distinct) {k : Key} (hk : (es.get? k).isSome)
    (v : Value) : es.insert k v = es.map fun e => if k == e.1 then (e.1, v) else e := by
  induction es with
  | nil => simp at hk
  | cons e rest ih =>
    obtain ⟨l, w⟩ := e
    cases hl : k == l
    · rw [get?, if_neg (by simp [hl])] at hk
      simp [Entries.insert, hl, ih (List.pairwise_cons.1 h).2 hk]
    · have hrest : rest.map (fun e => if k == e.1 then (e.1, v) else e) = rest := by
        conv_rhs => rw [← List.map_id rest]
        apply List.map_congr_left
        intro f hf
        have hlf := (List.pairwise_cons.1 h).1 f hf
        have hkf : (k == f.1) = false := by
          rw [Bool.eq_false_iff]
          intro hkf
          exact Bool.eq_false_iff.1 hlf (PartialEquivBEq.trans (BEq.symm hl) hkf)
        simp [hkf]
      simp [Entries.insert, hl, hrest]

end Distinct

/-- The same results, each under one key, in perhaps another order. -/
structure Matches (es fs : Entries) : Prop where
  distinct : es.Distinct
  apart : fs.Distinct
  get? : ∀ k, es.get? k = fs.get? k

namespace Matches

variable {es fs : Entries}

theorem nil : Matches [] [] := ⟨distinct_nil, distinct_nil, fun _ => rfl⟩

theorem insert (h : Matches es fs) (k : Key) (v : Value) :
    Matches (es.insert k v) (fs.insert k v) where
  distinct := h.distinct.insert k v
  apart := h.apart.insert k v
  get? l := by rw [get?_insert, get?_insert, h.get?]

theorem erase (h : Matches es fs) (k : Key) : Matches (es.erase k) (fs.erase k) where
  distinct := h.distinct.erase k
  apart := h.apart.erase k
  get? l := by rw [get?_erase, get?_erase, h.get?]

/-- A result that is put stands in front of the others, as well as in its place. -/
theorem insert_front (h : Matches es fs) (k : Key) (v : Value) :
    Matches (es.insert k v) ((k, v) :: fs.erase k) where
  distinct := h.distinct.insert k v
  apart := by
    refine List.pairwise_cons.2 ⟨?_, h.apart.erase k⟩
    intro e he
    simpa using (List.mem_filter.1 he).2
  get? l := by
    rw [get?_insert, Entries.get?, get?_erase, h.get?]
    split <;> rfl

/-- A result that is there may stand in front of the others. -/
theorem front (h : Matches es fs) {k : Key} {v : Value} (hv : fs.get? k = some v) :
    Matches es ((k, v) :: fs.erase k) where
  distinct := h.distinct
  apart := (h.insert_front k v).apart
  get? l := by
    rw [Entries.get?, get?_erase, h.get?]
    split
    · rename_i hl
      rw [get?_congr hl, hv]
    · rfl

theorem length (h : Matches es fs) : es.length = fs.length := by
  -- The two lists are in different orders: each time the other list loses the result that is
  -- under the first key of the one.
  induction es generalizing fs with
  | nil =>
    cases fs with
    | nil => rfl
    | cons f rest =>
      have hf := h.get? f.1
      simp [Entries.get?] at hf
  | cons e rest ih =>
    obtain ⟨l, w⟩ := e
    have hrest := h.erase l
    rw [show Entries.erase ((l, w) :: rest) l = rest from h.distinct.erase_first] at hrest
    have hfound : (fs.get? l).isSome = true := by
      rw [← h.get?]
      simp [Entries.get?]
    have hlen := h.apart.length_erase l
    rw [if_pos hfound, ← ih hrest] at hlen
    simpa using hlen

end Matches

end Entries

/-! ## A put through a bound -/

section Put

variable {cap n : Nat} {keys : List Key} {inner d : Cache} {k : Key} {v : Value}

theorem put_leastRecent_refused {err : Error} (h : inner.put k v = (.error err, d)) :
    (Cache.leastRecent cap keys n inner).put k v = (.error err, .leastRecent cap keys n d) := by
  simp only [Cache.put, h]

theorem put_leastRecent_kept (h : inner.put k v = (.ok (), d))
    (room : (k :: keys.filter fun l => !(k == l)).length ≤ cap) :
    (Cache.leastRecent cap keys n inner).put k v =
      (.ok (), .leastRecent cap (k :: keys.filter fun l => !(k == l)) n d) := by
  simp only [Cache.put, h, room, if_true]

theorem put_leastRecent_dropped {front : List Key} {last : Key} (h : inner.put k v = (.ok (), d))
    (hq : (k :: keys.filter fun l => !(k == l)) = front ++ [last])
    (full : cap < (front ++ [last]).length) :
    (Cache.leastRecent cap keys n inner).put k v =
      (.ok (), .leastRecent cap front (n + 1) (d.remove last).2) := by
  simp only [Cache.put, h, hq, Nat.not_le.2 full, if_false, List.getLast?_concat,
    List.dropLast_concat]

theorem put_firstIn_tracked (hk : keys.any (k == ·) = true) (room : keys.length ≤ cap) :
    (Cache.firstIn cap keys n inner).put k v =
      ((inner.put k v).1, .firstIn cap keys n (inner.put k v).2) := by
  simp only [Cache.put, hk, if_true]
  cases keys with
  | nil => rfl
  | cons first rest => simp only [room, if_true]

theorem put_firstIn_kept (hk : keys.any (k == ·) = false) (room : keys.length < cap) :
    (Cache.firstIn cap keys n inner).put k v =
      ((inner.put k v).1, .firstIn cap (keys ++ [k]) n (inner.put k v).2) := by
  have hlen : (keys ++ [k]).length ≤ cap := by simpa using room
  simp only [Cache.put, hk, Bool.false_eq_true, if_false]
  cases hq : keys ++ [k] with
  | nil => simp at hq
  | cons first rest =>
    rw [hq] at hlen
    simp only [hlen, if_true]

/-- The first key is removed before the put. -/
theorem put_firstIn_dropped {first : Key} {rest : List Key} (hk : keys.any (k == ·) = false)
    (hq : keys ++ [k] = first :: rest) (full : cap ≤ keys.length) :
    (Cache.firstIn cap keys n inner).put k v =
      (((inner.remove first).2.put k v).1,
        .firstIn cap rest (n + 1) ((inner.remove first).2.put k v).2) := by
  have hlen : ¬ (first :: rest).length ≤ cap := by
    rw [← hq]
    simp
    omega
  simp only [Cache.put, hk, hq, hlen, Bool.false_eq_true, if_false]

end Put

/-! ## Policies -/

/-- A rule by which results give way, on the results alone: what a put and what a lookup make of
them. -/
structure Policy where
  put (es : Entries) (k : Key) (v : Value) : Entries
  use (es : Entries) (k : Key) : Entries

namespace Policy

/-- The result used last is the first one. What stands behind the first `capacity` results is
dropped. -/
def leastRecent (capacity : Nat) : Policy where
  put es k v := ((k, v) :: es.erase k).take capacity
  use es k :=
    match es.get? k with
    | some v => (k, v) :: es.erase k
    | none => es

/-- The oldest result is the first one. A put under a key that is there leaves the order as it is;
a new one goes to the end, and the oldest is dropped if there are then more than `capacity`. -/
def firstIn (capacity : Nat) : Policy where
  put es k v :=
    if es.any (k == ·.1) then es.map fun e => if k == e.1 then (e.1, v) else e
    else if es.length < capacity then es ++ [(k, v)]
    else (es ++ [(k, v)]).tail
  use es _ := es

/-- The answer to an operation, and the results after it. -/
def run (p : Policy) (es : Entries) : Operation → Answer × Entries
  | .put k v => (.written (.ok ()), p.put es k v)
  | .get k => (.found (.ok (es.get? k)), p.use es k)
  | .remove k => (.removed (es.get? k), es.erase k)
  | .clear => (.cleared, [])
  | .size => (.counted es.length, es)
  | .commit clears new =>
    (.written (.ok ()), new.foldl (fun es e => p.put es e.1 e.2) (if clears then [] else es))

/-- The answers to operations that are made one after the other. -/
def answers (p : Policy) (es : Entries) : List Operation → List Answer
  | [] => []
  | o :: rest => (p.run es o).1 :: p.answers (p.run es o).2 rest

/-- The results after operations that are made one after the other. -/
def after (p : Policy) (es : Entries) (ops : List Operation) : Entries :=
  ops.foldl (fun es o => (p.run es o).2) es

/-- The policy of a bounded store. -/
def of (e : Eviction) (capacity : Nat) : Policy :=
  match e with
  | .leastRecent => leastRecent capacity
  | .firstIn => firstIn capacity

end Policy

/-! ## A bounded store follows its policy -/

/-- A bounded store that has, in the order of the policy, the keys of these results, and that
stores these results. -/
inductive Follows (cap : Nat) (id : String) : Eviction → Cache → Entries → Prop where
  | leastRecent {n : Nat} {stored es : Entries} (same : stored.Matches es)
      (room : es.length ≤ cap) :
      Follows cap id .leastRecent (.leastRecent cap (es.map (·.1)) n (.store id stored)) es
  | firstIn {n : Nat} {stored es : Entries} (same : stored.Matches es) (room : es.length ≤ cap)
      (positive : 0 < cap) :
      Follows cap id .firstIn (.firstIn cap (es.map (·.1)) n (.store id stored)) es

@[simp] theorem put_store (id : String) (es : Entries) (k : Key) (v : Value) :
    (Cache.store id es).put k v = (.ok (), .store id (es.insert k v)) := by
  rw [Cache.put]

@[simp] theorem remove_store (id : String) (es : Entries) (k : Key) :
    (Cache.store id es).remove k = (es.get? k, .store id (es.erase k)) := by
  rw [Cache.remove]

/-- A put keeps a bounded store with its policy. A result under a new key makes it one result
longer, or drops one. -/
def Puts (cap : Nat) (id : String) (e : Eviction) (c : Cache) (es : Entries) (k : Key)
    (v : Value) : Prop :=
  ∃ d, c.put k v = (.ok (), d) ∧ Follows cap id e d ((Policy.of e cap).put es k v) ∧
    d.evictions + ((Policy.of e cap).put es k v).length =
      c.evictions + es.length + (if (es.get? k).isSome then 0 else 1)

section Puts

variable {cap n : Nat} {id : String} {stored es : Entries} {k : Key}

theorem puts_leastRecent_kept (same : stored.Matches es) (v : Value)
    (room : ((k, v) :: es.erase k).length ≤ cap) :
    Puts cap id .leastRecent (.leastRecent cap (es.map (·.1)) n (.store id stored)) es k v := by
  have hput : (Policy.of .leastRecent cap).put es k v = (k, v) :: es.erase k :=
    List.take_of_length_le room
  have hkeys := Entries.keys_front es k v
  refine ⟨_, put_leastRecent_kept (put_store id stored k v) ?_, ?_, ?_⟩
  · rw [← hkeys]
    simpa using room
  · rw [hput, ← hkeys]
    exact .leastRecent (same.insert_front k v) room
  · simp only [hput, same.apart.length_front, evictions]
    omega

/-- With one result too many, the last of the list and the last of the keys are dropped. -/
theorem puts_leastRecent_dropped (same : stored.Matches es) (v : Value) (room : es.length ≤ cap)
    (full : cap < ((k, v) :: es.erase k).length) :
    Puts cap id .leastRecent (.leastRecent cap (es.map (·.1)) n (.store id stored)) es k v := by
  -- What the bound drops is the last of its keys, so the results are told from their end too.
  obtain ⟨front, last, hq⟩ : ∃ front last, (k, v) :: es.erase k = front ++ [last] :=
    ⟨_, _, (List.dropLast_append_getLast (List.cons_ne_nil _ _)).symm⟩
  have hmatch := same.insert_front k v
  have hkeys := Entries.keys_front es k v
  have hlen := same.apart.length_front k v
  rw [hq] at hmatch hkeys hlen full
  rw [List.map_append] at hkeys
  rw [List.length_append, List.length_singleton] at hlen full
  have hfront : front.length = cap := by
    split at hlen <;> omega
  have hput : (Policy.of .leastRecent cap).put es k v = front := by
    simp only [Policy.of, Policy.leastRecent, hq]
    exact List.take_left' hfront
  have hstored := hmatch.erase last.1
  rw [hmatch.apart.erase_last] at hstored
  refine ⟨_, put_leastRecent_dropped (put_store id stored k v) hkeys.symm (by simpa using full),
    ?_, ?_⟩
  · rw [hput, remove_store]
    exact .leastRecent hstored (Nat.le_of_eq hfront)
  · simp only [hput, evictions, remove_store]
    omega

theorem puts_firstIn_tracked (same : stored.Matches es) (v : Value) (room : es.length ≤ cap)
    (positive : 0 < cap) (hk : (es.get? k).isSome = true) :
    Puts cap id .firstIn (.firstIn cap (es.map (·.1)) n (.store id stored)) es k v := by
  have hput : (Policy.of .firstIn cap).put es k v =
      es.map fun e => if k == e.1 then (e.1, v) else e := by
    simp only [Policy.of, Policy.firstIn, Entries.any_eq, hk, if_true]
  have hmap : ((Policy.of .firstIn cap).put es k v).map (·.1) = es.map (·.1) := by
    rw [hput, List.map_map]
    apply List.map_congr_left
    intro e he
    simp only [Function.comp]
    split <;> rfl
  have hlen : ((Policy.of .firstIn cap).put es k v).length = es.length := by
    rw [hput, List.length_map]
  have hmatch := same.insert k v
  rw [same.apart.insert_of_present hk, ← hput] at hmatch
  rw [Puts, put_firstIn_tracked ((Entries.any_keys es k).trans hk) (by simpa using room),
    put_store]
  refine ⟨_, rfl, ?_, ?_⟩
  · rw [← hmap]
    exact .firstIn hmatch (hlen ▸ room) positive
  · simp [hlen, hk, evictions]

theorem puts_firstIn_kept (same : stored.Matches es) (v : Value) (room : es.length < cap)
    (hk : es.get? k = none) :
    Puts cap id .firstIn (.firstIn cap (es.map (·.1)) n (.store id stored)) es k v := by
  have hany : (es.map (·.1)).any (k == ·) = false := by
    rw [Entries.any_keys, hk]
    rfl
  have hput : (Policy.of .firstIn cap).put es k v = es ++ [(k, v)] := by
    simp [Policy.of, Policy.firstIn, Entries.any_eq, hk, room]
  have hkeys : es.map (·.1) ++ [k] = (es ++ [(k, v)]).map (·.1) := by simp
  have hmatch := same.insert k v
  rw [Entries.insert_of_absent hk] at hmatch
  rw [Puts, put_firstIn_kept hany (by simpa using room), put_store, hkeys]
  refine ⟨_, rfl, ?_, ?_⟩
  · rw [hput]
    exact .firstIn hmatch (by simpa using room) (by omega)
  · simp [hput, hk, evictions]
    omega

/-- With one result too many, the first of the queue and the first of the keys are dropped. -/
theorem puts_firstIn_dropped {first : Key × Value} {rest : Entries}
    (same : stored.Matches (first :: rest)) (v : Value) (room : (first :: rest).length = cap)
    (hk : Entries.get? (first :: rest) k = none) :
    Puts cap id .firstIn (.firstIn cap ((first :: rest).map (·.1)) n (.store id stored))
      (first :: rest) k v := by
  have hany : ((first :: rest).map (·.1)).any (k == ·) = false := by
    rw [Entries.any_keys, hk]
    rfl
  have hput : (Policy.of .firstIn cap).put (first :: rest) k v = rest ++ [(k, v)] := by
    simp only [Policy.of, Policy.firstIn, Entries.any_eq, hk, room, Nat.lt_irrefl,
      Option.isSome_none, Bool.false_eq_true, if_false]
    rfl
  have hkeys : (first :: rest).map (·.1) ++ [k] = first.1 :: (rest ++ [(k, v)]).map (·.1) := by
    simp
  have hrest : Entries.get? rest k = none := by
    rw [Entries.get?] at hk
    split at hk
    · cases hk
    · exact hk
  -- The bound removes the oldest result first and stores the new one afterwards.
  have hstored := (same.erase first.1).insert k v
  rw [same.apart.erase_first, Entries.insert_of_absent hrest] at hstored
  have hlen : (rest ++ [(k, v)]).length = cap := by simpa using room
  rw [Puts, put_firstIn_dropped hany hkeys (by simpa using Nat.le_of_eq room.symm), remove_store,
    put_store]
  refine ⟨_, rfl, ?_, ?_⟩
  · rw [hput]
    exact .firstIn hstored (Nat.le_of_eq hlen) (by simp at room; omega)
  · rw [hput, hlen, room, hk]
    simp [evictions]
    omega

end Puts

namespace Follows

variable {cap : Nat} {id : String} {e : Eviction} {c : Cache} {es : Entries}

theorem empty (h : e = .firstIn → 0 < cap) :
    Follows cap id e (CacheConfig.bounded e cap id) [] := by
  cases e with
  | leastRecent => exact .leastRecent .nil (Nat.zero_le _)
  | firstIn => exact .firstIn .nil (Nat.zero_le _) (h rfl)

theorem bounding (h : Follows cap id e c es) : c.Bounding := by
  cases h <;> trivial

theorem tracked (h : Follows cap id e c es) : c.tracked = es.map (·.1) := by
  cases h <;> rfl

theorem entries (h : Follows cap id e c es) : c.entries.Matches es := by
  cases h with
  | leastRecent same room => exact same
  | firstIn same room positive => exact same

theorem room (h : Follows cap id e c es) : es.length ≤ cap := by
  cases h <;> assumption

theorem puts (h : Follows cap id e c es) (k : Key) (v : Value) : Puts cap id e c es k v := by
  cases h with
  | leastRecent same room =>
    rcases Nat.lt_or_ge cap ((k, v) :: es.erase k).length with hfull | hroom
    · exact puts_leastRecent_dropped same v room hfull
    · exact puts_leastRecent_kept same v hroom
  | firstIn same room positive =>
    cases hk : es.get? k with
    | some w => exact puts_firstIn_tracked same v room positive (by rw [hk]; rfl)
    | none =>
      rcases Nat.lt_or_ge es.length cap with hroom | hfull
      · exact puts_firstIn_kept same v hroom hk
      · obtain ⟨first, rest, rfl⟩ : ∃ first rest, es = first :: rest :=
          List.exists_cons_of_length_pos (by omega)
        exact puts_firstIn_dropped same v (Nat.le_antisymm room hfull) hk

theorem size (h : Follows cap id e c es) : c.size = (es.length, c) := by
  rw [h.bounding.size, h.entries.length]

theorem get (h : Follows cap id e c es) (k : Key) :
    (c.get k).1 = .ok (es.get? k) ∧
      Follows cap id e (c.get k).2 ((Policy.of e cap).use es k) := by
  cases h with
  | leastRecent same room =>
    refine ⟨congrArg Except.ok (same.get? k), ?_⟩
    simp only [Cache.get, promote, Entries.any_keys, Policy.of, Policy.leastRecent]
    cases hv : es.get? k with
    | none =>
      simp only [Option.isSome_none, Bool.false_eq_true, if_false]
      exact .leastRecent same room
    | some v =>
      have hlen : ((k, v) :: es.erase k).length ≤ cap := by
        have herase := same.apart.length_erase k
        simp [hv] at herase ⊢
        omega
      simp only [Option.isSome_some, if_true, ← Entries.keys_erase]
      exact .leastRecent (same.front hv) hlen
  | firstIn same room positive =>
    exact ⟨congrArg Except.ok (same.get? k), .firstIn same room positive⟩

theorem remove (h : Follows cap id e c es) (k : Key) :
    (c.remove k).1 = es.get? k ∧ Follows cap id e (c.remove k).2 (es.erase k) := by
  have hroom : (es.erase k).length ≤ cap := Nat.le_trans (List.length_filter_le _ _) h.room
  cases h with
  | leastRecent same room =>
    simp only [Cache.remove, ← Entries.keys_erase]
    exact ⟨same.get? k, .leastRecent (same.erase k) hroom⟩
  | firstIn same room positive =>
    simp only [Cache.remove, ← Entries.keys_erase]
    exact ⟨same.get? k, .firstIn (same.erase k) hroom positive⟩

theorem clear (h : Follows cap id e c es) : Follows cap id e c.clear [] := by
  cases h with
  | leastRecent same room => exact .leastRecent .nil (Nat.zero_le _)
  | firstIn same room positive => exact .firstIn .nil (Nat.zero_le _) positive

theorem putAll (h : Follows cap id e c es) (new : Entries) :
    (c.putAll new).1 = .ok () ∧ Follows cap id e (c.putAll new).2
      (new.foldl (fun es f => (Policy.of e cap).put es f.1 f.2) es) := by
  induction new generalizing c es with
  | nil => exact ⟨rfl, h⟩
  | cons f rest ih =>
    obtain ⟨d, hd, hnext, -⟩ := h.puts f.1 f.2
    simp only [Cache.putAll, hd]
    exact ih hnext

/-- One operation. -/
theorem run (h : Follows cap id e c es) (o : Operation) :
    (o.run c).1 = ((Policy.of e cap).run es o).1 ∧
      Follows cap id e (o.run c).2 ((Policy.of e cap).run es o).2 := by
  cases o with
  | put k v =>
    obtain ⟨d, hd, hnext, -⟩ := h.puts k v
    simp only [Operation.run, hd]
    exact ⟨rfl, hnext⟩
  | get k => exact ⟨congrArg Answer.found (h.get k).1, (h.get k).2⟩
  | remove k => exact ⟨congrArg Answer.removed (h.remove k).1, (h.remove k).2⟩
  | clear => exact ⟨rfl, h.clear⟩
  | size =>
    simp only [Operation.run, h.size]
    exact ⟨rfl, h⟩
  | commit clears new =>
    simp only [Operation.run, h.bounding.writeBatch, writeAll]
    cases clears with
    | false =>
      obtain ⟨hok, hnext⟩ := h.putAll new
      exact ⟨congrArg Answer.written hok, hnext⟩
    | true =>
      obtain ⟨hok, hnext⟩ := h.clear.putAll new
      exact ⟨congrArg Answer.written hok, hnext⟩

/-- All operations, one after the other. -/
theorem answers (h : Follows cap id e c es) (ops : List Operation) :
    c.answers ops = (Policy.of e cap).answers es ops := by
  induction ops generalizing c es with
  | nil => rfl
  | cons o rest ih =>
    obtain ⟨hanswer, hnext⟩ := h.run o
    rw [Cache.answers, Policy.answers, hanswer, ih hnext]

theorem after (h : Follows cap id e c es) (ops : List Operation) :
    Follows cap id e (c.after ops) ((Policy.of e cap).after es ops) := by
  induction ops generalizing c es with
  | nil => exact h
  | cons o rest ih => exact ih (h.run o).2

end Follows

/-- A bounded store beside the results that its policy has: the same results, stored exactly under
the keys of the bound, and not too many of them. -/
structure InStep (cap : Nat) (c : Cache) (es : Entries) : Prop where
  tracked : c.tracked = es.map (·.1)
  once : c.tracked.Pairwise fun k l => (k == l) = false
  stored : c.entries.Matches es
  isSome_get? : ∀ k, (c.entries.get? k).isSome = c.tracked.any (k == ·)
  size : c.size.1 = es.length
  room : c.entries.length ≤ cap

theorem Follows.inStep {cap : Nat} {id : String} {e : Eviction} {c : Cache} {es : Entries}
    (h : Follows cap id e c es) : InStep cap c es where
  tracked := h.tracked
  once := by
    rw [h.tracked, List.pairwise_map]
    exact h.entries.apart
  stored := h.entries
  isSome_get? k := by rw [h.tracked, Entries.any_keys, h.entries.get?]
  size := congrArg Prod.fst h.size
  room := h.entries.length ▸ h.room

/-! ## The two bounds -/

/-- A store that is bounded by last use answers as its policy does, a list of results with the one
used last in front. After each history it is in step with that list. -/
theorem leastRecent_answers (cap : Nat) (id : String) (ops : List Operation) :
    (CacheConfig.bounded .leastRecent cap id).answers ops =
        (Policy.leastRecent cap).answers [] ops ∧
      InStep cap ((CacheConfig.bounded .leastRecent cap id).after ops)
        ((Policy.leastRecent cap).after [] ops) := by
  have hempty : Follows cap id .leastRecent (CacheConfig.bounded .leastRecent cap id) [] :=
    .empty (by simp)
  exact ⟨hempty.answers ops, (hempty.after ops).inStep⟩

/-- The key that is put is never the one that gives way. -/
theorem Follows.get?_put {cap : Nat} {id : String} {c : Cache} {es : Entries}
    (h : Follows cap id .firstIn c es) (k : Key) (v : Value) :
    (c.put k v).2.entries.get? k = some v := by
  cases h with
  | @firstIn n stored es same room positive =>
    obtain ⟨keys', n', eldest?, hput⟩ := Cache.put_firstIn k v cap (es.map (·.1)) n
      (.store id stored)
    rw [hput]
    cases eldest? <;> simp [evicted, Cache.entries, Entries.get?_insert]

/-- A store that is bounded by arrival answers as its policy does, a queue of results with the
oldest in front. After each history it is in step with that queue, and a further put leaves its
key in the store. -/
theorem firstIn_answers (cap : Nat) (id : String) (hcap : 1 ≤ cap) (ops : List Operation) :
    (CacheConfig.bounded .firstIn cap id).answers ops =
        (Policy.firstIn cap).answers [] ops ∧
      InStep cap ((CacheConfig.bounded .firstIn cap id).after ops)
        ((Policy.firstIn cap).after [] ops) ∧
      ∀ k v, ((((CacheConfig.bounded .firstIn cap id).after ops).put k v).2.entries.get? k) =
        some v := by
  have hempty : Follows cap id .firstIn (CacheConfig.bounded .firstIn cap id) [] :=
    .empty fun _ => hcap
  exact ⟨hempty.answers ops, (hempty.after ops).inStep, (hempty.after ops).get?_put⟩

/-- A key of one text. -/
def named (s : String) : Key := ⟨[.str s]⟩

/-- With room for two: a put and a lookup of the oldest result, which gives way all the same, and a
removal that makes room again. -/
def reputs : List Operation :=
  [.put (named "a") (.bool true), .put (named "b") .null, .put (named "a") (.bool false),
    .get (named "a"), .put (named "c") .null, .get (named "a"), .remove (named "b"),
    .put (named "d") .null, .get (named "c"), .size]

theorem firstIn_answers_reputs :
    1 ≤ 2 ∧
      (Policy.firstIn 2).answers [] reputs =
        [.written (.ok ()), .written (.ok ()), .written (.ok ()), .found (.ok (some (.bool false))),
          .written (.ok ()), .found (.ok none), .removed (some .null), .written (.ok ()),
          .found (.ok (some .null)), .counted 2] ∧
      (CacheConfig.bounded .firstIn 2 "t").answers reputs = (Policy.firstIn 2).answers [] reputs ∧
      InStep 2 ((CacheConfig.bounded .firstIn 2 "t").after reputs)
        ((Policy.firstIn 2).after [] reputs) ∧
      ∀ k v, ((((CacheConfig.bounded .firstIn 2 "t").after reputs).put k v).2.entries.get? k) =
        some v :=
  ⟨by decide, by cbv, firstIn_answers 2 "t" (by decide) reputs⟩

end MappedSql.Cache
