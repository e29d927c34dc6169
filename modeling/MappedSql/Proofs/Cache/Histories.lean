import MappedSql.Proofs.Cache.Stack

/- Histories of a cache.

   A history is a list of operations, made one after the other. What holds at the start
   and stays through each put, lookup, removal and clear stays through a whole history
   (`Stable.after`): a batch is a clear and puts. What each operation adds to a count is
   added up along the history (`total`). -/
namespace MappedSql.Cache

/-- The cache after operations that are made one after the other. -/
def after (c : Cache) (ops : List Operation) : Cache := ops.foldl (fun c o => (o.run c).2) c

@[simp] theorem after_nil (c : Cache) : c.after [] = c := rfl

@[simp] theorem after_cons (c : Cache) (o : Operation) (ops : List Operation) :
    c.after (o :: ops) = (o.run c).2.after ops := rfl

theorem after_append (c : Cache) (ops ops' : List Operation) :
    c.after (ops ++ ops') = (c.after ops).after ops' := List.foldl_append

/-- The sum of what the operations count, each at the cache that it comes to. -/
def total (count : Cache → Operation → Nat) (c : Cache) : List Operation → Nat
  | [] => 0
  | o :: rest => count c o + total count (o.run c).2 rest

/-- The keys that the outermost bound has in its order. -/
def tracked : Cache → List Key
  | .leastRecent _ keys _ _ => keys
  | .firstIn _ keys _ _ => keys
  | _ => []

/-! ## What stays through a history -/

/-- What the single steps keep, for caches that take a batch as a clear and puts. -/
structure Stable (P : Cache → Prop) : Prop where
  put {c : Cache} (h : P c) (k : Key) (v : Value) : P (c.put k v).2
  get {c : Cache} (h : P c) (k : Key) : P (c.get k).2
  remove {c : Cache} (h : P c) (k : Key) : P (c.remove k).2
  clear {c : Cache} (h : P c) : P c.clear
  size {c : Cache} (h : P c) : P c.size.2
  batch {c : Cache} (h : P c) (clears : Bool) (es : List (Key × Value)) :
    c.writeBatch clears es = c.writeAll clears es

variable {P : Cache → Prop}

theorem Stable.putAll (hP : Stable P) {c : Cache} (h : P c) (es : List (Key × Value)) :
    P (c.putAll es).2 := by
  induction es generalizing c with
  | nil => exact h
  | cons e rest ih =>
    have hput := hP.put h e.1 e.2
    simp only [Cache.putAll]
    split
    · rename_i d hd
      rw [hd] at hput
      exact ih hput
    · rename_i d hd
      rw [hd] at hput
      exact hput

theorem Stable.run (hP : Stable P) {c : Cache} (h : P c) (o : Operation) : P (o.run c).2 := by
  cases o with
  | put k v => exact hP.put h k v
  | get k => exact hP.get h k
  | remove k => exact hP.remove h k
  | clear => exact hP.clear h
  | size => exact hP.size h
  | commit clears es =>
    simp only [Operation.run, hP.batch h, writeAll]
    cases clears with
    | false => exact hP.putAll h es
    | true => exact hP.putAll (hP.clear h) es

theorem Stable.after (hP : Stable P) {c : Cache} (h : P c) (ops : List Operation) :
    P (c.after ops) := by
  induction ops generalizing c with
  | nil => exact h
  | cons o rest ih => exact ih (hP.run h o)

end MappedSql.Cache
