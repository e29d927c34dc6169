import MappedSql.Cache.Hash
import MappedSql.Value.Text

/- Keys of cached results.

   A key is a list of components. Its fingerprint depends on their order: each
   component's hash, times its place counted from one, is added to 37 times what went
   before. Keys are equal if their components are equal and so are the fingerprints. -/
namespace MappedSql

namespace Cache

/-- What a list of components is reduced to. All words wrap at 64 bits. -/
structure Fingerprint where
  hashcode : UInt64
  checksum : UInt64
  count : Nat
  deriving DecidableEq, Repr

namespace Fingerprint

def empty : Fingerprint := ⟨17, 0, 0⟩

/-- The fingerprint with one component more, of the given hash. -/
def add (f : Fingerprint) (h : UInt64) : Fingerprint :=
  ⟨37 * f.hashcode + h * UInt64.ofNat (f.count + 1), f.checksum + h, f.count + 1⟩

def ofHashes (hs : List UInt64) : Fingerprint := hs.foldl add empty

theorem add_count (f : Fingerprint) (h : UInt64) : (f.add h).count = f.count + 1 := rfl

end Fingerprint

/-- The key of a cached result. -/
structure Key where
  components : List Value

namespace Key

def fingerprint (k : Key) : Fingerprint := .ofHashes (k.components.map componentHash)

/-- A key without components stands for no key. -/
def isNull (k : Key) : Bool := k.components.isEmpty

def same (k l : Key) : Bool :=
  Value.sameItems k.components l.components && k.fingerprint == l.fingerprint

instance : BEq Key := ⟨same⟩

theorem beq_def (k l : Key) :
    (k == l) = (Value.sameItems k.components l.components && k.fingerprint == l.fingerprint) := rfl

instance : EquivBEq Key where
  rfl := by intro k; simp [beq_def, Value.sameItems_refl]
  symm := by
    intro k l h
    simp only [beq_def, Bool.and_eq_true, beq_iff_eq] at h ⊢
    exact ⟨Value.sameItems_symm h.1, h.2.symm⟩
  trans := by
    intro k l m h h'
    simp only [beq_def, Bool.and_eq_true, beq_iff_eq] at h h' ⊢
    exact ⟨Value.sameItems_trans h.1 h'.1, h.2.trans h'.2⟩

/-- A component as the text of a key shows it. -/
def componentText : Value → String
  | .str s => s
  | v => v.json

/-- The text of a key: its two sums and its components. -/
def text (k : Key) : String :=
  let f := k.fingerprint
  ":".intercalate (toString f.hashcode.toNat :: toString f.checksum.toNat ::
    k.components.map componentText)

end Key

/-- Results under their keys. -/
abbrev Entries := List (Key × Value)

namespace Entries

def get? (es : Entries) (k : Key) : Option Value :=
  match es with
  | [] => none
  | (l, v) :: rest => if k == l then some v else get? rest k

/-- With the result under the key, in place of one that was there. -/
def insert (es : Entries) (k : Key) (v : Value) : Entries :=
  match es with
  | [] => [(k, v)]
  | (l, w) :: rest => if k == l then (l, v) :: rest else (l, w) :: insert rest k v

def erase (es : Entries) (k : Key) : Entries := es.filter fun e => !(k == e.1)

@[simp] theorem get?_nil (k : Key) : get? [] k = none := rfl

theorem get?_insert (es : Entries) (k l : Key) (v : Value) :
    (es.insert k v).get? l = if l == k then some v else es.get? l := by
  induction es with
  | nil => rfl
  | cons e rest ih =>
    obtain ⟨m, w⟩ := e
    by_cases hk : (k == m) = true
    · by_cases hl : (l == k) = true
      · have : (l == m) = true := PartialEquivBEq.trans hl hk
        simp [insert, get?, hk, hl, this]
      · have : (l == m) = false := by
          rw [Bool.eq_false_iff]
          exact fun h => hl (PartialEquivBEq.trans h (BEq.symm hk))
        simp [insert, get?, hk, hl, this]
    · by_cases hl : (l == m) = true
      · have : (l == k) = false := by
          rw [Bool.eq_false_iff]
          exact fun h => hk (PartialEquivBEq.trans (BEq.symm h) hl)
        simp [insert, get?, hk, hl, this]
      · simp [insert, get?, hk, hl, ih]

theorem get?_erase (es : Entries) (k l : Key) :
    (es.erase k).get? l = if l == k then none else es.get? l := by
  induction es with
  | nil => simp [erase]
  | cons e rest ih =>
    obtain ⟨m, w⟩ := e
    simp only [erase] at ih
    by_cases hk : (k == m) = true
    · by_cases hl : (l == k) = true
      · simp [erase, hk, hl] at ih ⊢
        exact ih
      · have : (l == m) = false := by
          rw [Bool.eq_false_iff]
          exact fun h => hl (PartialEquivBEq.trans h (BEq.symm hk))
        simp [erase, get?, hk, hl, this] at ih ⊢
        exact ih
    · by_cases hl : (l == m) = true
      · have : (l == k) = false := by
          rw [Bool.eq_false_iff]
          exact fun h => hk (PartialEquivBEq.trans (BEq.symm h) hl)
        simp [erase, get?, hk, hl, this]
      · simp [erase, get?, hk, hl] at ih ⊢
        exact ih

end Entries

end Cache

end MappedSql
