import MappedSql.Cache.Error
import MappedSql.Cache.Key
import MappedSql.Cache.Tally
import MappedSql.Text.Quoted
import MappedSql.Value.Reader

/- Caches.

   A cache is a store of results with layers around it. A layer bounds the number of
   entries, clears them from time to time, keeps texts in place of values, counts, or
   guards; every operation passes through the layers from the outside, and each layer
   keeps a state of its own. An operation gives its answer and the cache after it, also
   when it fails.

   No time passes between two operations, so the interval of a layer that clears from
   time to time has passed only if it is zero. -/
namespace MappedSql

open Cache (Error Key Entries Tally)

/-- A store of results with layers around it. -/
inductive Cache where
  | store (id : String) (entries : Entries)
  /-- At most `capacity` entries; the one not used for longest gives way. The keys are in the order
  of their last use, the last used first. -/
  | leastRecent (capacity : Nat) (keys : List Key) (evictions : Nat) (inner : Cache)
  /-- At most `capacity` entries; the oldest gives way. The keys are in the order of arrival. -/
  | firstIn (capacity : Nat) (keys : List Key) (evictions : Nat) (inner : Cache)
  /-- Cleared before an operation once the interval, in milliseconds, has passed. -/
  | timed (interval : Nat) (inner : Cache)
  | snapshots (inner : Cache)
  /-- Lookups, puts and clears are counted; evictions of the layers inside may be added. -/
  | counted (tally : Tally) (evictions : Bool) (inner : Cache)
  | locked (inner : Cache)
  /-- The n-th put is refused if there is a reason to. -/
  | guarded (reason : Nat → Option String) (puts : Nat) (inner : Cache)

namespace Cache

def id : Cache → String
  | .store id _ => id
  | .leastRecent _ _ _ inner => inner.id
  | .firstIn _ _ _ inner => inner.id
  | .timed _ inner => inner.id
  | .snapshots inner => inner.id
  | .counted _ _ inner => inner.id
  | .locked inner => inner.id
  | .guarded _ _ inner => inner.id

def entries : Cache → Entries
  | .store _ es => es
  | .leastRecent _ _ _ inner => inner.entries
  | .firstIn _ _ _ inner => inner.entries
  | .timed _ inner => inner.entries
  | .snapshots inner => inner.entries
  | .counted _ _ inner => inner.entries
  | .locked inner => inner.entries
  | .guarded _ _ inner => inner.entries

/-- With the content of the store changed behind the back of the layers. -/
def mapEntries (f : Entries → Entries) : Cache → Cache
  | .store id es => .store id (f es)
  | .leastRecent cap keys n inner => .leastRecent cap keys n (inner.mapEntries f)
  | .firstIn cap keys n inner => .firstIn cap keys n (inner.mapEntries f)
  | .timed i inner => .timed i (inner.mapEntries f)
  | .snapshots inner => .snapshots (inner.mapEntries f)
  | .counted t e inner => .counted t e (inner.mapEntries f)
  | .locked inner => .locked (inner.mapEntries f)
  | .guarded reason n inner => .guarded reason n (inner.mapEntries f)

def clear : Cache → Cache
  | .store id _ => .store id []
  | .leastRecent cap _ n inner => .leastRecent cap [] n inner.clear
  | .firstIn cap _ n inner => .firstIn cap [] n inner.clear
  | .timed i inner => .timed i inner.clear
  | .snapshots inner => .snapshots inner.clear
  | .counted t e inner => .counted t.countClear e inner.clear
  | .locked inner => .locked inner.clear
  | .guarded reason n inner => .guarded reason n inner.clear

def layers : Cache → Nat
  | .store _ _ => 0
  | .leastRecent _ _ _ inner => inner.layers + 1
  | .firstIn _ _ _ inner => inner.layers + 1
  | .timed _ inner => inner.layers + 1
  | .snapshots inner => inner.layers + 1
  | .counted _ _ inner => inner.layers + 1
  | .locked inner => inner.layers + 1
  | .guarded _ _ inner => inner.layers + 1

@[simp] theorem layers_clear (c : Cache) : c.clear.layers = c.layers := by
  induction c <;> simp_all [clear, layers]

/-- What is inside a layer that clears from time to time, when an operation comes to it. -/
def elapse (interval : Nat) (inner : Cache) : Cache := if interval = 0 then inner.clear else inner

@[simp] theorem layers_elapse (interval : Nat) (c : Cache) :
    (c.elapse interval).layers = c.layers := by
  unfold elapse
  split <;> simp

def size : Cache → Nat × Cache
  | .store id es => (es.length, .store id es)
  | .leastRecent cap keys n inner =>
    let (s, inner) := inner.size
    (s, .leastRecent cap keys n inner)
  | .firstIn cap keys n inner =>
    let (s, inner) := inner.size
    (s, .firstIn cap keys n inner)
  | .timed i inner =>
    let (s, inner) := (inner.elapse i).size
    (s, .timed i inner)
  | .snapshots inner =>
    let (s, inner) := inner.size
    (s, .snapshots inner)
  | .counted t e inner =>
    let (s, inner) := inner.size
    (s, .counted t e inner)
  | .locked inner =>
    let (s, inner) := inner.size
    (s, .locked inner)
  | .guarded reason n inner =>
    let (s, inner) := inner.size
    (s, .guarded reason n inner)
termination_by c => c.layers
decreasing_by all_goals simp [layers]

/-- Without the entry of the key, and what was stored there. -/
def remove (k : Key) : Cache → Option Value × Cache
  | .store id es => (es.get? k, .store id (es.erase k))
  | .leastRecent cap keys n inner =>
    let (v, inner) := inner.remove k
    (v, .leastRecent cap (keys.filter fun l => !(k == l)) n inner)
  | .firstIn cap keys n inner =>
    let (v, inner) := inner.remove k
    (v, .firstIn cap (keys.filter fun l => !(k == l)) n inner)
  | .timed i inner =>
    let (v, inner) := (inner.elapse i).remove k
    (v, .timed i inner)
  | .snapshots inner =>
    let (v, inner) := inner.remove k
    (v, .snapshots inner)
  | .counted t e inner =>
    let (v, inner) := inner.remove k
    (v, .counted t e inner)
  | .locked inner =>
    let (v, inner) := inner.remove k
    (v, .locked inner)
  | .guarded reason n inner =>
    let (v, inner) := inner.remove k
    (v, .guarded reason n inner)
termination_by c => c.layers
decreasing_by all_goals simp [layers]

@[simp] theorem layers_remove (k : Key) (c : Cache) : (c.remove k).2.layers = c.layers := by
  fun_induction remove k c <;> simp_all [layers]

/-- The keys with this one in front, if it is one of them. -/
def promote (k : Key) (keys : List Key) : List Key :=
  if keys.any (k == ·) then k :: keys.filter fun l => !(k == l) else keys

/-- The value that a snapshot was made of. -/
def thaw (id : String) (stored : Option Value) : Except Error (Option Value) :=
  match stored with
  | none => .ok none
  | some (.str s) =>
    match Json.read? s with
    | some v => .ok (some v)
    | none => .error .unreadable
  | some _ => .error (.notSnapshot id)

def get (k : Key) : Cache → Except Error (Option Value) × Cache
  | .store id es => (.ok (es.get? k), .store id es)
  | .leastRecent cap keys n inner =>
    let (r, inner) := inner.get k
    (r, .leastRecent cap (promote k keys) n inner)
  | .firstIn cap keys n inner =>
    let (r, inner) := inner.get k
    (r, .firstIn cap keys n inner)
  | .timed i inner =>
    if i = 0 then (.ok none, .timed i inner.clear)
    else
      let (r, inner) := inner.get k
      (r, .timed i inner)
  | .snapshots inner =>
    let (r, inner) := inner.get k
    (r.bind (thaw inner.id), .snapshots inner)
  | .counted t e inner =>
    let (r, inner) := inner.get k
    match r with
    | .ok v => (.ok v, .counted (t.countLookup v.isSome) e inner)
    | .error err => (.error err, .counted t e inner)
  | .locked inner =>
    let (r, inner) := inner.get k
    (r, .locked inner)
  | .guarded reason n inner =>
    let (r, inner) := inner.get k
    (r, .guarded reason n inner)

def put (k : Key) (v : Value) : Cache → Except Error Unit × Cache
  | .store id es => (.ok (), .store id (es.insert k v))
  | .leastRecent cap keys n inner =>
    let (r, inner) := inner.put k v
    match r with
    | .error err => (.error err, .leastRecent cap keys n inner)
    | .ok () =>
      let keys := k :: keys.filter fun l => !(k == l)
      if keys.length ≤ cap then (.ok (), .leastRecent cap keys n inner)
      else
        match keys.getLast? with
        | none => (.ok (), .leastRecent cap keys n inner)
        | some eldest =>
          (.ok (), .leastRecent cap keys.dropLast (n + 1) (inner.remove eldest).2)
  | .firstIn cap keys n inner =>
    let keys := if keys.any (k == ·) then keys else keys ++ [k]
    match keys with
    | [] =>
      let (r, inner) := inner.put k v
      (r, .firstIn cap keys n inner)
    | eldest :: others =>
      if keys.length ≤ cap then
        let (r, inner) := inner.put k v
        (r, .firstIn cap keys n inner)
      else
        let (r, inner) := ((inner.remove eldest).2).put k v
        (r, .firstIn cap others (n + 1) inner)
  | .timed i inner =>
    let (r, inner) := (inner.elapse i).put k v
    (r, .timed i inner)
  | .snapshots inner =>
    let (r, inner) := inner.put k (.str v.json)
    (r, .snapshots inner)
  | .counted t e inner =>
    let (r, inner) := inner.put k v
    (r, .counted (t.countPuts 1) e inner)
  | .locked inner =>
    let (r, inner) := inner.put k v
    (r, .locked inner)
  | .guarded reason n inner =>
    match reason n with
    | some why => (.error (.refused inner.id why), .guarded reason (n + 1) inner)
    | none =>
      let (r, inner) := inner.put k v
      (r, .guarded reason (n + 1) inner)
termination_by c => c.layers
decreasing_by all_goals simp [layers]

/-- The results put one after the other, until one is refused. -/
def putAll (c : Cache) : List (Key × Value) → Except Error Unit × Cache
  | [] => (.ok (), c)
  | (k, v) :: rest =>
    match c.put k v with
    | (.ok (), c) => c.putAll rest
    | (.error e, c) => (.error e, c)

/-- A clear, if there is to be one, and then results put one after the other. -/
def writeAll (c : Cache) (clears : Bool) (es : List (Key × Value)) : Except Error Unit × Cache :=
  (if clears then c.clear else c).putAll es

/-- The writes of one transaction. A layer that counts, counts them all beforehand and passes them
on as one, as does a layer that locks; any other layer takes them one by one. -/
def writeBatch (clears : Bool) (es : List (Key × Value)) : Cache → Except Error Unit × Cache
  | .counted t e inner =>
    let t := if clears then t.countClear else t
    let (r, inner) := inner.writeBatch clears es
    (r, .counted (t.countPuts es.length) e inner)
  | .locked inner =>
    let (r, inner) := inner.writeBatch clears es
    (r, .locked inner)
  | c => c.writeAll clears es

def evictions : Cache → Nat
  | .store _ _ => 0
  | .leastRecent _ _ n inner => n + inner.evictions
  | .firstIn _ _ n inner => n + inner.evictions
  | .timed _ inner => inner.evictions
  | .snapshots inner => inner.evictions
  | .counted _ _ inner => inner.evictions
  | .locked inner => inner.evictions
  | .guarded _ _ inner => inner.evictions

/-- The counts of the outermost layer that counts. A guard does not let them through. -/
def tally? : Cache → Option Tally
  | .store _ _ => none
  | .leastRecent _ _ _ inner => inner.tally?
  | .firstIn _ _ _ inner => inner.tally?
  | .timed _ inner => inner.tally?
  | .snapshots inner => inner.tally?
  | .counted t e inner =>
    some (if e then { t with evictions := t.evictions + inner.evictions } else t)
  | .locked inner => inner.tally?
  | .guarded _ _ _ => none

/-- The cache in one line, for a reader. -/
def describe (c : Cache) : String × Cache :=
  let (n, c) := c.size
  ("Cache \x7b id: " ++ Text.debugQuoted c.id ++ s!", size: {n} \x7d", c)

end Cache

end MappedSql
