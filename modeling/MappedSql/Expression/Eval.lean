import MappedSql.Decimal.Word
import MappedSql.Expression.Bindings
import MappedSql.Expression.Tree
import MappedSql.Text.Blank
import MappedSql.Value.Text

/- The value of an expression under bindings.

   Reading a part of null gives null. Whole numbers are added, subtracted and
   negated exactly while a signed word holds the result, and as doubles otherwise;
   `+` with a text on either side joins the texts. Numbers are ordered as doubles,
   texts by their characters. The connectives look at their second operand only if
   the first does not decide. -/
namespace MappedSql

def Number.negate (n : Number) : Value :=
  match n.toSigned? with
  | some i => if i = -(Word.half : Int) then .num (.float (-n.toFloat)) else .num (.int (-i))
  | none => .num (.float (-n.toFloat))

namespace Value

/-- The order of two values of one sort, where that sort is ordered. -/
def order? : Value → Value → Option Ordering
  | .num a, .num b =>
    some (if a.toFloat < b.toFloat then .lt else if a.toFloat == b.toFloat then .eq else .gt)
  | .str a, .str b => some (if a < b then .lt else if a = b then .eq else .gt)
  | .bool a, .bool b =>
    some (if a = b then .eq else if b then .lt else .gt)
  | .null, .null => some .eq
  | _, _ => none

/-- A computed double as a value; one that is not finite is null. -/
def ofFloat (x : Float) : Value := ((Number.ofFloat? x).map Value.num).getD .null

end Value

namespace Expression

def Comparison.holds (c : Comparison) (l r : Value) : Except Error Bool :=
  match c, Value.order? l r with
  | .eq, o => .ok (o == some .eq || l.same r)
  | .ne, o => .ok (!(o == some .eq || l.same r))
  | _, none => .error (.cannotOrder l.kind r.kind)
  | .lt, some o => .ok (o == .lt)
  | .le, some o => .ok (o != .gt)
  | .gt, some o => .ok (o == .gt)
  | .ge, some o => .ok (o != .lt)

def Arithmetic.onInt : Arithmetic → Int → Int → Int
  | .add, i, j => i + j
  | .sub, i, j => i - j

def Arithmetic.onFloat : Arithmetic → Float → Float → Float
  | .add, x, y => x + y
  | .sub, x, y => x - y

/-- The arithmetic on numbers: exact on whole numbers if operands and result are signed words. -/
def Arithmetic.onNumber (a : Arithmetic) (m n : Number) : Value :=
  match m.toSigned?, n.toSigned? with
  | some i, some j =>
    if Word.isSigned (a.onInt i j) then .ofInt (a.onInt i j)
    else .ofFloat (a.onFloat m.toFloat n.toFloat)
  | _, _ => .ofFloat (a.onFloat m.toFloat n.toFloat)

/-- The value of `+` or `-` between two values. -/
def Arithmetic.apply (a : Arithmetic) (l r : Value) : Except Error Value :=
  match a, l, r with
  | .add, .str s, r => .ok (.str (s ++ r.inline))
  | .add, l, .str s => .ok (.str (l.inline ++ s))
  | a, .num m, .num n => .ok (a.onNumber m n)
  | _, l, r => .error (.cannotCombine l.kind r.kind)

def fieldOf (v : Value) (name : String) : Except Error Value :=
  match v with
  | .null => .ok .null
  | .obj f => .ok ((Fields.get? f name).getD .null)
  | v => .error (.notNavigable name v.kind)

/-- The part of a value at an index: a position of a list or a name of an object. -/
def indexOf (v i : Value) : Except Error Value :=
  match v, i with
  | .null, _ => .ok .null
  | .arr items, .num n => .ok ((n.toIndex?.bind (items[·]?)).getD .null)
  | .obj f, .str k => .ok ((Fields.get? f k).getD .null)
  | v, i => .error (.notNavigable i.inline v.kind)

/-- How many items, fields or characters a value has. -/
def sizeOf? : Value → Option Nat
  | .arr items => some items.length
  | .obj f => some f.length
  | .str s => some s.length
  | _ => none

def callOf (v : Value) (method : String) : Except Error Value :=
  match method, sizeOf? v, v with
  | "size", some n, _ => .ok (.ofNat n)
  | "length", some n, _ => .ok (.ofNat n)
  | "isEmpty", some n, _ => .ok (.bool (n == 0))
  | "trim", _, .str s => .ok (.str (Text.trim s))
  | m, _, v => .error (.noMethod m v.kind)

def Expr.eval (b : Bindings) : Expr → Except Error Value
  | .literal v => .ok v
  | .name s => b.resolve s
  | .field e part => do fieldOf (← e.eval b) part
  | .index e i => do
    let v ← e.eval b
    let k ← i.eval b
    indexOf v k
  | .call e method => do callOf (← e.eval b) method
  | .not e => do return .bool !(← e.eval b).isTrue
  | .neg e => do
    match ← e.eval b with
    | .num n => return n.negate
    | v => throw (.cannotNegate v.kind)
  | .and l r => do
    if (← l.eval b).isTrue then return .bool (← r.eval b).isTrue else return .bool false
  | .or l r => do
    if (← l.eval b).isTrue then return .bool true else return .bool (← r.eval b).isTrue
  | .compare c l r => do
    let x ← l.eval b
    let y ← r.eval b
    return .bool (← c.holds x y)
  | .arith a l r => do
    let x ← l.eval b
    let y ← r.eval b
    a.apply x y

def valueOf (b : Bindings) (source : String) : Except Error Value := do
  (← Expr.parse source).eval b

/-- Whether a written expression holds as a test. -/
def holds (b : Bindings) (source : String) : Except Error Bool := do
  return (← valueOf b source).isTrue

/-- An element of a collection, with its position or name. -/
structure Item where
  key : Value
  element : Value

/-- The items of a list or the fields of an object. -/
def Item.listOf? : Value → Option (List Item)
  | .arr items => some (items.zipIdx.map fun (v, i) => ⟨.ofNat i, v⟩)
  | .obj f => some (f.map fun (k, v) => ⟨.str k, v⟩)
  | _ => none

/-- The items of the collection that a written expression gives. -/
def itemsOf (b : Bindings) (source : String) : Except Error (List Item) := do
  let v ← valueOf b source
  match v, Item.listOf? v with
  | _, some items => return items
  | .null, none => throw (.nullCollection source)
  | v, none => throw (.notIterable source v.kind)

/-- The different texts among these that are expressions. -/
def distinct (sources : List String) : List String :=
  (sources.filter fun s => (Expr.parse s).isOk).eraseDups

end Expression

end MappedSql
