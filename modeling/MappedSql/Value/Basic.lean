import MappedSql.Decimal.Word

/- Values of the parameter graph.

   A value is null, a truth value, a number, a text, a list or an object. Whole
   numbers and doubles are different numbers even when they are equal: `1` is not
   `1.0`. The fields of an object are kept in ascending order of their names, one
   entry a name, and the same ordered fields serve wherever names map to values:
   bindings of an expression and side tables of a bound statement. -/
namespace MappedSql

/-- A number as it is written: whole, or with a fraction or exponent. -/
inductive Number where
  | int (i : Int)
  | float (x : Float)
  deriving DecidableEq, Repr

/-- A node of the parameter graph. -/
inductive Value where
  | null
  | bool (b : Bool)
  | num (n : Number)
  | str (s : String)
  | arr (items : List Value)
  | obj (fields : List (String × Value))
  deriving Repr, Inhabited

/-- Names with their values, in ascending order of the names. -/
abbrev Fields := List (String × Value)

/-- What sort of value it is. -/
inductive Kind where
  | null
  | boolean
  | number
  | string
  | array
  | object
  deriving DecidableEq, Repr

/-- The name of a kind, as messages give it. -/
def Kind.name : Kind → String
  | .null => "null"
  | .boolean => "boolean"
  | .number => "number"
  | .string => "string"
  | .array => "array"
  | .object => "object"

namespace Number

/-- The smallest and the largest whole number that a value can hold. -/
def least : Int := -(Word.half : Int)

def greatest : Int := (Word.count : Int) - 1

def toFloat : Number → Float
  | .int i => Float.ofInt i
  | .float x => x

/-- A computed double, which has to be finite to be a value. -/
def ofFloat? (x : Float) : Option Number := if x.isFinite then some (.float x) else none

/-- The bits of a double, where both zeros have the same. -/
def bits (x : Float) : UInt64 := if x == 0.0 then 0 else x.toBits

/-- Whether two numbers are the same: both whole and equal, or both doubles and equal. -/
def same : Number → Number → Bool
  | .int i, .int j => i == j
  | .float x, .float y => bits x == bits y
  | _, _ => false

theorem same_refl (n : Number) : n.same n = true := by cases n <;> simp [same]

theorem same_symm {m n : Number} (h : m.same n = true) : n.same m = true := by
  cases m <;> cases n <;> simp only [same, beq_iff_eq] at * <;> first | exact h.symm | cases h

theorem same_trans {l m n : Number} (h : l.same m = true) (h' : m.same n = true) :
    l.same n = true := by
  cases l <;> cases m <;> cases n <;>
    first
    | (simp [same] at h; done)
    | (simp [same] at h'; done)
    | (simp only [same, beq_iff_eq] at *; exact h.trans h')

/-- The number as a whole number that a signed word of 64 bits holds. -/
def toSigned? : Number → Option Int
  | .int i => if Word.isSigned i then some i else none
  | .float _ => none

/-- The number as a position in a list. -/
def toIndex? : Number → Option Nat
  | .int (.ofNat n) => some n
  | _ => none

end Number

namespace Value

def kind : Value → Kind
  | .null => .null
  | .bool _ => .boolean
  | .num _ => .number
  | .str _ => .string
  | .arr _ => .array
  | .obj _ => .object

/-- Whether the value can be bound as a parameter by itself. -/
def isSimple : Value → Bool
  | .bool _ | .num _ | .str _ => true
  | _ => false

/-- Whether the value counts as true in a test: all but null, false and the zeros. -/
def isTrue : Value → Bool
  | .null => false
  | .bool b => b
  | .num n => n.toFloat != 0.0
  | _ => true

def ofInt (i : Int) : Value := .num (.int i)

def ofNat (n : Nat) : Value := .num (.int n)

mutual

/-- Whether two values are equal; doubles are compared as numbers. -/
def same : Value → Value → Bool
  | .null, .null => true
  | .bool a, .bool b => a == b
  | .num m, .num n => m.same n
  | .str s, .str t => s == t
  | .arr xs, .arr ys => sameItems xs ys
  | .obj f, .obj g => sameFields f g
  | _, _ => false

/-- Whether two lists hold equal values in the same order. -/
def sameItems : List Value → List Value → Bool
  | [], [] => true
  | x :: xs, y :: ys => same x y && sameItems xs ys
  | _, _ => false

/-- Whether two objects hold the same names with equal values. -/
def sameFields : List (String × Value) → List (String × Value) → Bool
  | [], [] => true
  | (k, x) :: f, (l, y) :: g => k == l && same x y && sameFields f g
  | _, _ => false

end

mutual

theorem same_refl : ∀ v : Value, same v v = true
  | .null => rfl
  | .bool _ => by simp [same]
  | .num n => by simp [same, Number.same_refl]
  | .str _ => by simp [same]
  | .arr items => by simp [same, sameItems_refl items]
  | .obj fields => by simp [same, sameFields_refl fields]

theorem sameItems_refl : ∀ items : List Value, sameItems items items = true
  | [] => rfl
  | v :: rest => by simp [sameItems, same_refl v, sameItems_refl rest]

theorem sameFields_refl : ∀ fields : List (String × Value), sameFields fields fields = true
  | [] => rfl
  | (k, v) :: rest => by simp [sameFields, same_refl v, sameFields_refl rest]

end

mutual

theorem same_symm : ∀ {v w : Value}, same v w = true → same w v = true
  | .null, w => by cases w <;> simp [same]
  | .bool _, w => by
    cases w <;> simp [same]
    exact fun h => h.symm
  | .num _, w => by cases w <;> simp only [same] <;> first | exact Number.same_symm | simp
  | .str _, w => by
    cases w <;> simp [same]
    exact fun h => h.symm
  | .arr xs, w => by
    cases w <;> simp only [same] <;> first | exact sameItems_symm | simp
  | .obj f, w => by
    cases w <;> simp only [same] <;> first | exact sameFields_symm | simp

theorem sameItems_symm : ∀ {xs ys : List Value}, sameItems xs ys = true → sameItems ys xs = true
  | [], ys => by cases ys <;> simp [sameItems]
  | x :: xs, [] => by simp [sameItems]
  | x :: xs, y :: ys => by
    simp only [sameItems, Bool.and_eq_true]
    exact fun h => ⟨same_symm h.1, sameItems_symm h.2⟩

theorem sameFields_symm :
    ∀ {f g : List (String × Value)}, sameFields f g = true → sameFields g f = true
  | [], g => by cases g <;> simp [sameFields]
  | (k, x) :: f, [] => by simp [sameFields]
  | (k, x) :: f, (l, y) :: g => by
    simp only [sameFields, Bool.and_eq_true, beq_iff_eq]
    exact fun h => ⟨⟨h.1.1.symm, same_symm h.1.2⟩, sameFields_symm h.2⟩

end

mutual

theorem same_trans : ∀ {u v w : Value}, same u v = true → same v w = true → same u w = true
  | .null, v, w => by cases v <;> cases w <;> simp [same]
  | .bool _, v, w => by
    cases v <;> cases w <;> simp [same]
    exact fun h h' => h.trans h'
  | .num _, v, w => by
    cases v <;> cases w <;> simp only [same] <;> first | exact Number.same_trans | simp
  | .str _, v, w => by
    cases v <;> cases w <;> simp [same]
    exact fun h h' => h.trans h'
  | .arr _, v, w => by
    cases v <;> cases w <;> simp only [same] <;> first | exact sameItems_trans | simp
  | .obj _, v, w => by
    cases v <;> cases w <;> simp only [same] <;> first | exact sameFields_trans | simp

theorem sameItems_trans : ∀ {xs ys zs : List Value},
    sameItems xs ys = true → sameItems ys zs = true → sameItems xs zs = true
  | [], ys, zs => by cases ys <;> cases zs <;> simp [sameItems]
  | x :: xs, ys, zs => by
    cases ys <;> cases zs <;> simp only [sameItems, Bool.and_eq_true] <;>
      first | exact fun h h' => ⟨same_trans h.1 h'.1, sameItems_trans h.2 h'.2⟩ | simp

theorem sameFields_trans : ∀ {f g h : List (String × Value)},
    sameFields f g = true → sameFields g h = true → sameFields f h = true
  | [], g, h => by cases g <;> cases h <;> simp [sameFields]
  | (_, _) :: f, g, h => by
    cases g <;> cases h <;> simp only [sameFields, Bool.and_eq_true, beq_iff_eq] <;>
      first
      | exact fun h h' =>
          ⟨⟨h.1.1.trans h'.1.1, same_trans h.1.2 h'.1.2⟩, sameFields_trans h.2 h'.2⟩
      | simp

end

end Value

namespace Fields

def get? : Fields → String → Option Value
  | [], _ => none
  | (k, v) :: rest, name => if name = k then some v else get? rest name

/-- Whether there is an entry of this name. -/
def has (f : Fields) (name : String) : Bool := (f.get? name).isSome

/-- With the value under the name, in the place of its order. -/
def insert (name : String) (v : Value) : Fields → Fields
  | [] => [(name, v)]
  | (k, w) :: rest =>
    if name = k then (name, v) :: rest
    else if name < k then (name, v) :: (k, w) :: rest
    else (k, w) :: insert name v rest

def erase (f : Fields) (name : String) : Fields := f.filter (·.1 != name)

/-- The fields of a list of entries; of several entries of one name the last one stands. -/
def ofList (entries : List (String × Value)) : Fields :=
  entries.foldl (fun f e => insert e.1 e.2 f) []

/-- These fields with all entries of `top` written on top. -/
def overlay (f top : Fields) : Fields := top.foldl (fun f e => insert e.1 e.2 f) f

@[simp] theorem get?_nil (name : String) : get? [] name = none := rfl

@[simp] theorem get?_insert (f : Fields) (name other : String) (v : Value) :
    (f.insert name v).get? other = if other = name then some v else f.get? other := by
  induction f with
  | nil => rfl
  | cons e rest ih => grind [insert, get?]

@[simp] theorem get?_erase (f : Fields) (name other : String) :
    (f.erase name).get? other = if other = name then none else f.get? other := by
  induction f with
  | nil => simp [erase, get?]
  | cons e rest ih =>
    by_cases h : e.1 = name <;> simp [erase, h] at ih ⊢ <;> grind [get?]

end Fields

end MappedSql
