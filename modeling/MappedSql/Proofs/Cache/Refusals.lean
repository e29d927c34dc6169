import MappedSql.Proofs.Cache.Replacement

/- Puts that are refused.

   A bound is laid around a cache that may refuse a put, and that a refused put leaves as
   it was (`Firm`). A bound by last use stores first and keeps its order afterwards, so a
   refused put changes nothing. A bound by arrival has its key in the queue, and the
   oldest entry removed, before it stores: a refused put under a new key leaves both done
   (`refused_put`), so that an entry is lost to a result that was never stored
   (`refused_put_evicts`). -/
namespace MappedSql.Cache

/-- Whatever was done with the cache, a put that it refuses leaves its entries as they were. -/
def Firm (d : Cache) : Prop :=
  ∀ ops k v err, ((d.after ops).put k v).1 = .error err →
    ((d.after ops).put k v).2.entries = (d.after ops).entries

/-- Operations make the one cache of the other. -/
def Reaches (d inner : Cache) : Prop := ∃ ops, inner = d.after ops

namespace Reaches

variable {d inner : Cache}

theorem refl (d : Cache) : Reaches d d := ⟨[], rfl⟩

theorem run (h : Reaches d inner) (o : Operation) : Reaches d (o.run inner).2 := by
  obtain ⟨ops, rfl⟩ := h
  exact ⟨ops ++ [o], (after_append d ops [o]).symm⟩

theorem put (h : Reaches d inner) (k : Key) (v : Value) : Reaches d (inner.put k v).2 :=
  h.run (.put k v)

theorem remove (h : Reaches d inner) (k : Key) : Reaches d (inner.remove k).2 := h.run (.remove k)

theorem evicted (h : Reaches d inner) (eldest? : Option Key) :
    Reaches d (inner.evicted eldest?) := by
  cases eldest? with
  | none => exact h
  | some eldest => exact h.remove eldest

/-- A refused put leaves the entries, wherever operations have led. -/
theorem refused (h : Reaches d inner) (hd : d.Firm) {k : Key} {v : Value} {err : Error}
    (hr : (inner.put k v).1 = .error err) : (inner.put k v).2.entries = inner.entries := by
  obtain ⟨ops, rfl⟩ := h
  exact hd ops k v err hr

end Reaches

/-! ## Histories of a bound -/

/-- A bound around what operations have made of `d`. A queue has no more keys than there is room
for. -/
inductive Around (cap : Nat) (d : Cache) : Eviction → Cache → Prop where
  | leastRecent {keys : List Key} {n : Nat} {inner : Cache} (reached : Reaches d inner) :
      Around cap d .leastRecent (.leastRecent cap keys n inner)
  | firstIn {keys : List Key} {n : Nat} {inner : Cache} (room : keys.length ≤ cap)
      (reached : Reaches d inner) : Around cap d .firstIn (.firstIn cap keys n inner)

section

variable {cap n : Nat} {d inner : Cache} {keys : List Key}

theorem around_put_leastRecent (reached : Reaches d inner) (k : Key) (v : Value) :
    Around cap d .leastRecent ((Cache.leastRecent cap keys n inner).put k v).2 := by
  obtain ⟨keys', n', eldest?, hput⟩ := put_leastRecent k v cap keys n inner
  rw [hput]
  exact .leastRecent ((reached.put k v).evicted eldest?)

theorem around_put_firstIn (room : keys.length ≤ cap) (reached : Reaches d inner) (k : Key)
    (v : Value) : Around cap d .firstIn ((Cache.firstIn cap keys n inner).put k v).2 := by
  cases hk : keys.any (k == ·) with
  | true =>
    rw [put_firstIn_tracked hk room]
    exact .firstIn room (reached.put k v)
  | false =>
    rcases Nat.lt_or_ge keys.length cap with hroom | hfull
    · rw [put_firstIn_kept hk hroom]
      exact .firstIn (by simpa using hroom) (reached.put k v)
    · obtain ⟨first, rest, hq⟩ : ∃ first rest, keys ++ [k] = first :: rest :=
        List.exists_cons_of_length_pos (by simp)
      have hlen := congrArg List.length hq
      rw [put_firstIn_dropped hk hq hfull]
      exact .firstIn (by simp at hlen; omega) ((reached.remove first).put k v)

end

theorem stable_around (cap : Nat) (d : Cache) (e : Eviction) : Stable (Around cap d e) where
  put h k v := by
    cases h with
    | leastRecent reached => exact around_put_leastRecent reached k v
    | firstIn room reached => exact around_put_firstIn room reached k v
  get h k := by
    cases h with
    | leastRecent reached => exact .leastRecent (reached.run (.get k))
    | firstIn room reached => exact .firstIn room (reached.run (.get k))
  remove h k := by
    cases h with
    | leastRecent reached =>
      rw [Cache.remove]
      exact .leastRecent (reached.remove k)
    | firstIn room reached =>
      rw [Cache.remove]
      exact .firstIn (Nat.le_trans (List.length_filter_le _ _) room) (reached.remove k)
  clear h := by
    cases h with
    | leastRecent reached => exact .leastRecent (reached.run .clear)
    | firstIn room reached => exact .firstIn (Nat.zero_le _) (reached.run .clear)
  size h := by
    cases h with
    | leastRecent reached =>
      rw [Cache.size]
      exact .leastRecent (reached.run .size)
    | firstIn room reached =>
      rw [Cache.size]
      exact .firstIn room (reached.run .size)
  batch h clears es := by
    cases h <;> rfl

/-! ## The refused put -/

/-- What a refused put leaves of a queue: nothing changes if the key is in it. A new key stays in
the queue all the same, and where there is no room for it the first key is gone, from the queue
and from the cache that the bound is around. -/
def RefusalOfQueue (cap : Nat) (k : Key) (q q' : Cache) : Prop :=
  if q.tracked.any (k == ·) then q'.tracked = q.tracked ∧ q'.entries = q.entries
  else if q.tracked.length < cap then
    q'.tracked = q.tracked ++ [k] ∧ q'.entries = q.entries
  else
    ∃ first rest, q.tracked ++ [k] = first :: rest ∧ q'.tracked = rest ∧
      q'.entries = (q.remove first).2.entries

variable {cap : Nat} {d s : Cache} {k : Key} {v : Value} {err : Error}

theorem Around.refused_leastRecent (h : Around cap d .leastRecent s) (hd : d.Firm)
    (hr : (s.put k v).1 = .error err) :
    (s.put k v).2.tracked = s.tracked ∧ (s.put k v).2.entries = s.entries := by
  cases h with
  | @leastRecent keys n inner reached =>
    rcases hp : inner.put k v with ⟨err' | ok, c⟩
    · have hentries := reached.refused hd (congrArg Prod.fst hp)
      rw [hp] at hentries
      rw [put_leastRecent_refused hp]
      exact ⟨rfl, hentries⟩
    · -- what the cache inside stores is not refused outside
      rcases Nat.lt_or_ge cap (k :: keys.filter fun l => !(k == l)).length with hfull | hroom
      · obtain ⟨front, last, hq⟩ : ∃ front last,
            (k :: keys.filter fun l => !(k == l)) = front ++ [last] :=
          ⟨_, _, (List.dropLast_append_getLast (List.cons_ne_nil _ _)).symm⟩
        rw [put_leastRecent_dropped hp hq (hq ▸ hfull)] at hr
        cases hr
      · rw [put_leastRecent_kept hp hroom] at hr
        cases hr

theorem Around.refused_firstIn (h : Around cap d .firstIn s) (hd : d.Firm)
    (hr : (s.put k v).1 = .error err) : RefusalOfQueue cap k s (s.put k v).2 := by
  cases h with
  | @firstIn keys n inner room reached =>
    rw [RefusalOfQueue, tracked]
    cases hk : keys.any (k == ·) with
    | true =>
      rw [put_firstIn_tracked hk room] at hr ⊢
      exact ⟨rfl, reached.refused hd hr⟩
    | false =>
      rcases Nat.lt_or_ge keys.length cap with hroom | hfull
      · rw [put_firstIn_kept hk hroom] at hr ⊢
        simp only [Bool.false_eq_true, if_false, hroom, if_true]
        exact ⟨rfl, reached.refused hd hr⟩
      · obtain ⟨first, rest, hq⟩ : ∃ first rest, keys ++ [k] = first :: rest :=
          List.exists_cons_of_length_pos (by simp)
        rw [put_firstIn_dropped hk hq hfull] at hr ⊢
        simp only [Bool.false_eq_true, if_false, Nat.not_lt.2 hfull]
        refine ⟨first, rest, hq, rfl, ?_⟩
        rw [Cache.remove]
        exact (reached.remove first).refused hd hr

/-! ## Stores with a guard -/

/-- A store whose puts are guarded. -/
def GuardedStore (reason : Nat → Option String) (id : String) (c : Cache) : Prop :=
  ∃ n es, c = .guarded reason n (.store id es)

theorem stable_guardedStore (reason : Nat → Option String) (id : String) :
    Stable (GuardedStore reason id) where
  put h k v := by
    obtain ⟨n, es, rfl⟩ := h
    rw [Cache.put]
    cases reason n with
    | some why => exact ⟨n + 1, es, rfl⟩
    | none => exact ⟨n + 1, es.insert k v, by rw [put_store]⟩
  get h k := by
    obtain ⟨n, es, rfl⟩ := h
    exact ⟨n, es, rfl⟩
  remove h k := by
    obtain ⟨n, es, rfl⟩ := h
    exact ⟨n, es.erase k, by rw [Cache.remove, remove_store]⟩
  clear h := by
    obtain ⟨n, es, rfl⟩ := h
    exact ⟨n, [], rfl⟩
  size h := by
    obtain ⟨n, es, rfl⟩ := h
    exact ⟨n, es, by rw [Cache.size, Cache.size]⟩
  batch h clears es := by
    obtain ⟨n, es', rfl⟩ := h
    rfl

/-- A guard that refuses a put does not touch the store. -/
theorem firm_guarded (reason : Nat → Option String) (n : Nat) (id : String) (es : Entries) :
    Firm (.guarded reason n (.store id es)) := by
  intro ops k v err hr
  obtain ⟨n', es', h⟩ := (stable_guardedStore reason id).after ⟨n, es, rfl⟩ ops
  rw [h, Cache.put] at hr ⊢
  cases hn : reason n' with
  | some why => rfl
  | none =>
    rw [hn, put_store] at hr
    cases hr

/-- A put that is refused leaves a bound by last use as it was, keys and entries. It leaves a bound
by arrival as it was only under a key that is in the queue. -/
theorem refused_put (cap : Nat) {d : Cache} (hd : d.Firm) (ops : List Operation) (k : Key)
    (v : Value) (err : Error) :
    (let s := (Cache.leastRecent cap [] 0 d).after ops;
      (s.put k v).1 = .error err →
        (s.put k v).2.tracked = s.tracked ∧ (s.put k v).2.entries = s.entries) ∧
    (let q := (Cache.firstIn cap [] 0 d).after ops;
      (q.put k v).1 = .error err → RefusalOfQueue cap k q (q.put k v).2) := by
  have hrecent := (stable_around cap d .leastRecent).after
    (.leastRecent (Reaches.refl d) : Around cap d _ (.leastRecent cap [] 0 d)) ops
  have hqueue := (stable_around cap d .firstIn).after
    (.firstIn (Nat.zero_le _) (Reaches.refl d) : Around cap d _ (.firstIn cap [] 0 d)) ops
  exact ⟨hrecent.refused_leastRecent hd, hqueue.refused_firstIn hd⟩

/-- An empty store that refuses the third put. -/
def refusesThird : Cache :=
  .guarded (fun n => if n = 2 then some "put refused" else none) 0 (.store "t" [])

/-- Two results that are stored. -/
def twoPuts : List Operation := [.put (named "a") .null, .put (named "b") .null]

theorem refused_put_third :
    refusesThird.Firm ∧
    (let s := (Cache.leastRecent 2 [] 0 refusesThird).after twoPuts;
      (s.put (named "c") .null).1 = .error (.refused "t" "put refused") ∧
        (s.put (named "c") .null).2.tracked = s.tracked ∧
        (s.put (named "c") .null).2.entries = s.entries) ∧
    (let q := (Cache.firstIn 2 [] 0 refusesThird).after twoPuts;
      (q.put (named "c") .null).1 = .error (.refused "t" "put refused") ∧
        RefusalOfQueue 2 (named "c") q (q.put (named "c") .null).2) := by
  have hfirm : refusesThird.Firm := firm_guarded _ _ _ _
  obtain ⟨hrecent, hqueue⟩ :=
    refused_put 2 hfirm twoPuts (named "c") .null (.refused "t" "put refused")
  have hs : (((Cache.leastRecent 2 [] 0 refusesThird).after twoPuts).put (named "c") .null).1 =
      .error (.refused "t" "put refused") := by cbv
  have hq : (((Cache.firstIn 2 [] 0 refusesThird).after twoPuts).put (named "c") .null).1 =
      .error (.refused "t" "put refused") := by cbv
  exact ⟨hfirm, ⟨hs, hrecent hs⟩, hq, hqueue hq⟩

/-- A store with one entry that refuses every put. -/
def refusesAll : Cache :=
  .guarded (fun _ => some "put refused") 0 (.store "t" [(named "a", .null)])

/-- Two refused puts: the first leaves its key in the queue, and the second removes the entry under
that key. -/
theorem refused_put_evicts :
    refusesAll.Firm ∧
    (let q := (Cache.firstIn 1 [] 0 refusesAll).after [.put (named "a") .null];
      (q.put (named "b") .null).1 = .error (.refused "t" "put refused") ∧
        q.tracked = [named "a"] ∧ q.entries = [(named "a", .null)] ∧
        (q.put (named "b") .null).2.tracked = [named "b"] ∧
        (q.put (named "b") .null).2.entries = []) := by
  refine ⟨firm_guarded _ _ _ _, ?_⟩
  cbv

end MappedSql.Cache
