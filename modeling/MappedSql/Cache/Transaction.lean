import MappedSql.Cache.Basic

/- Writes to shared caches that wait for the end of a transaction.

   A session shares caches with others. What it clears and puts stays with it until it
   commits; then each cache gets its clear and its puts as one batch. The session does
   not see its own puts, and sees nothing of a cache it has cleared. -/
namespace MappedSql

namespace Cache

/-- The writes that wait for one cache. -/
structure Pending where
  clears : Bool
  entries : Entries

namespace Pending

def empty : Pending := ⟨false, []⟩

def put (p : Pending) (k : Key) (v : Value) : Pending := { p with entries := p.entries.insert k v }

/-- With the cache to be cleared, and no results to put. -/
def clear (_ : Pending) : Pending := ⟨true, []⟩

def isPending (p : Pending) : Bool := p.clears || !p.entries.isEmpty

/-- The result under a key: none if the cache is to be cleared, else what the cache gives. -/
def get (p : Pending) (c : Cache) (k : Key) : Except Error (Option Value) × Cache :=
  if p.clears then (.ok none, c) else c.get k

def commit (p : Pending) (c : Cache) : Except Error Unit × Cache := c.writeBatch p.clears p.entries

end Pending

end Cache

/-- The caches that sessions share, each in its slot. -/
abbrev Shelf := List Cache

namespace Shelf

/-- The slot of the first cache with this id. -/
def slot? (s : Shelf) (id : String) : Option Nat := s.findIdx? (·.id == id)

/-- What an operation on the cache in a slot answers, and the shelf after it. -/
def run {α : Type} (s : Shelf) (slot : Nat) (f : Cache → α × Cache) : Option α × Shelf :=
  match s[slot]? with
  | some c =>
    let (a, c) := f c
    (some a, s.set slot c)
  | none => (none, s)

/-- The result under a key of the cache in a slot. -/
def get (s : Shelf) (slot : Nat) (k : Cache.Key) : Except Cache.Error (Option Value) × Shelf :=
  let (r, s) := s.run slot (·.get k)
  (r.getD (.ok none), s)

end Shelf

/-- The writes of a session that wait for a cache of the shelf. -/
structure Buffered where
  id : String
  slot : Nat
  pending : Cache.Pending

/-- What a session has to write, for each cache it has written to, in the order of first writes. -/
abbrev Transaction := List Buffered

namespace Transaction

/-- What waits for the cache of this id. -/
def find? (t : Transaction) (id : String) : Option Buffered := List.find? (·.id == id) t

/-- With what waits for the cache in a slot changed. A cache is told by its id, and the slot in
which the id was first seen stays. -/
def update (t : Transaction) (s : Shelf) (slot : Nat) (f : Cache.Pending → Cache.Pending) :
    Transaction :=
  match s[slot]? with
  | none => t
  | some c =>
    if (t.find? c.id).isSome then
      t.map fun b => if b.id = c.id then { b with pending := f b.pending } else b
    else t ++ [⟨c.id, slot, f .empty⟩]

/-- With a result to put into the cache in a slot. -/
def put (t : Transaction) (s : Shelf) (slot : Nat) (k : Cache.Key) (v : Value) : Transaction :=
  t.update s slot (·.put k v)

/-- With the cache in a slot to be cleared. -/
def clear (t : Transaction) (s : Shelf) (slot : Nat) : Transaction := t.update s slot (·.clear)

/-- The result under a key of the cache in a slot, as the session sees it. -/
def get (t : Transaction) (s : Shelf) (slot : Nat) (k : Cache.Key) :
    Except Cache.Error (Option Value) × Shelf :=
  match s[slot]? with
  | none => (.ok none, s)
  | some c =>
    match t.find? c.id with
    | some b =>
      let (r, s) := s.run b.slot (b.pending.get · k)
      (r.getD (.ok none), s)
    | none => s.get slot k

/-- The shelf after all writes. All caches get theirs even if one refuses; the first refusal is
the answer. -/
def write (s : Shelf) : Transaction → Except Cache.Error Unit × Shelf
  | [] => (.ok (), s)
  | b :: rest =>
    let (r, s) := s.run b.slot b.pending.commit
    let (r', s) := write s rest
    ((r.getD (.ok ())).bind fun _ => r', s)

def reset (t : Transaction) : Transaction := t.map fun b => { b with pending := .empty }

def commit (t : Transaction) (s : Shelf) : Except Cache.Error Unit × Transaction × Shelf :=
  let (r, s) := write s t
  (r, t.reset, s)

def isPending (t : Transaction) : Bool := t.any (·.pending.isPending)

end Transaction

end MappedSql
