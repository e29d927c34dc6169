import MappedSql.Expression.Token

/- Expressions, and their reading from tokens.

   From loosest to tightest: `or`, `and`, prefix `not`, one comparison, `+` and `-`,
   prefix minus, and operands. Chains of `or`, `and`, `+` and `-` group to the left;
   a comparison has at most one operator. An operand is a number, a text, one of the
   words `null`, `true` and `false`, an expression in parentheses, or a name with
   any number of fields, method calls and indices after it.

   Each reading function returns the tokens it left together with the fact that they
   are fewer, which is why the reading ends. -/
namespace MappedSql.Expression

inductive Comparison where
  | eq
  | ne
  | lt
  | le
  | gt
  | ge
  deriving DecidableEq, Repr

inductive Arithmetic where
  | add
  | sub
  deriving DecidableEq, Repr

/-- An expression. -/
inductive Expr where
  | literal (v : Value)
  | name (s : String)
  | field (e : Expr) (name : String)
  | index (e i : Expr)
  | call (e : Expr) (method : String)
  | not (e : Expr)
  | neg (e : Expr)
  | and (l r : Expr)
  | or (l r : Expr)
  | compare (c : Comparison) (l r : Expr)
  | arith (a : Arithmetic) (l r : Expr)
  deriving Repr

def Operator.comparison? : Operator → Option Comparison
  | .eq => some .eq
  | .ne => some .ne
  | .lt => some .lt
  | .le => some .le
  | .gt => some .gt
  | .ge => some .ge
  | _ => none

def Operator.arithmetic? : Operator → Option Arithmetic
  | .plus => some .add
  | .minus => some .sub
  | _ => none

/-- The value or name that a word stands for as an operand. -/
def Expr.ofName (s : String) : Expr :=
  match s with
  | "null" => .literal .null
  | "true" => .literal (.bool true)
  | "false" => .literal (.bool false)
  | s => .name s

/-- Whether a word may have steps after it. -/
def isPathRoot (s : String) : Bool := s != "null" && s != "true" && s != "false"

namespace Parser

/-- An expression, and the tokens left, which are fewer than `bound`. -/
structure Parsed (bound : Nat) where
  expr : Expr
  rest : List Token
  rest_lt : rest.length < bound

def Parsed.weaken {m n : Nat} (p : Parsed m) (h : m ≤ n) : Parsed n :=
  ⟨p.expr, p.rest, Nat.lt_of_lt_of_le p.rest_lt h⟩

mutual

def readOr (ts : List Token) : Except Fault (Parsed ts.length) := do
  let p ← readAnd ts
  have := p.rest_lt
  let q ← moreOr p.expr p.rest
  return q.weaken this
termination_by (ts.length, 6)

/-- Reads what a chain of `or` goes on with. -/
def moreOr (l : Expr) (ts : List Token) : Except Fault (Parsed (ts.length + 1)) :=
  match ts with
  | .op .or :: ts => do
    let p ← readAnd ts
    have := p.rest_lt
    let q ← moreOr (.or l p.expr) p.rest
    return q.weaken (by simp only [List.length_cons]; omega)
  | ts => .ok ⟨l, ts, Nat.lt_succ_self _⟩
termination_by (ts.length, 7)

def readAnd (ts : List Token) : Except Fault (Parsed ts.length) := do
  let p ← readNot ts
  have := p.rest_lt
  let q ← moreAnd p.expr p.rest
  return q.weaken this
termination_by (ts.length, 5)

/-- Reads what a chain of `and` goes on with. -/
def moreAnd (l : Expr) (ts : List Token) : Except Fault (Parsed (ts.length + 1)) :=
  match ts with
  | .op .and :: ts => do
    let p ← readNot ts
    have := p.rest_lt
    let q ← moreAnd (.and l p.expr) p.rest
    return q.weaken (by simp only [List.length_cons]; omega)
  | ts => .ok ⟨l, ts, Nat.lt_succ_self _⟩
termination_by (ts.length, 7)

def readNot (ts : List Token) : Except Fault (Parsed ts.length) :=
  match ts with
  | .op .not :: ts => do
    let p ← readNot ts
    return ⟨.not p.expr, p.rest, Nat.lt_succ_of_lt p.rest_lt⟩
  | ts => readComparison ts
termination_by (ts.length, 4)

/-- Reads a sum, or two sums with a comparison between them. -/
def readComparison (ts : List Token) : Except Fault (Parsed ts.length) := do
  let p ← readSum ts
  have := p.rest_lt
  match hr : p.rest with
  | .op o :: rest =>
    have : rest.length < ts.length := by rw [hr, List.length_cons] at this; omega
    match o.comparison? with
    | some c => do
      let q ← readSum rest
      return ⟨.compare c p.expr q.expr, q.rest, Nat.lt_trans q.rest_lt this⟩
    | none => return p
  | _ => return p
termination_by (ts.length, 3)

def readSum (ts : List Token) : Except Fault (Parsed ts.length) := do
  let p ← readUnary ts
  have := p.rest_lt
  let q ← moreSum p.expr p.rest
  return q.weaken this
termination_by (ts.length, 2)

/-- Reads what a chain of `+` and `-` goes on with. -/
def moreSum (l : Expr) (ts : List Token) : Except Fault (Parsed (ts.length + 1)) :=
  match ts with
  | .op o :: rest =>
    match o.arithmetic? with
    | some a => do
      let p ← readUnary rest
      have := p.rest_lt
      let q ← moreSum (.arith a l p.expr) p.rest
      return q.weaken (by simp only [List.length_cons]; omega)
    | none => .ok ⟨l, .op o :: rest, Nat.lt_succ_self _⟩
  | ts => .ok ⟨l, ts, Nat.lt_succ_self _⟩
termination_by (ts.length, 7)

def readUnary (ts : List Token) : Except Fault (Parsed ts.length) :=
  match ts with
  | .op .minus :: ts => do
    let p ← readUnary ts
    return ⟨.neg p.expr, p.rest, Nat.lt_succ_of_lt p.rest_lt⟩
  | ts => readOperand ts
termination_by (ts.length, 1)

def readOperand (ts : List Token) : Except Fault (Parsed ts.length) :=
  match ts with
  | .number n :: rest => .ok ⟨.literal (.num n), rest, Nat.lt_succ_self _⟩
  | .text s :: rest => .ok ⟨.literal (.str s), rest, Nat.lt_succ_self _⟩
  | .name s :: rest =>
    if isPathRoot s then moreSteps (.name s) rest
    else .ok ⟨Expr.ofName s, rest, Nat.lt_succ_self _⟩
  | .openParen :: rest => do
    let p ← readOr rest
    have := p.rest_lt
    match hr : p.rest with
    | .closeParen :: after =>
      return ⟨p.expr, after, by rw [hr] at this; simp only [List.length_cons] at *; omega⟩
    | _ => .error .closeParenExpected
  | _ => .error .valueExpected
termination_by (ts.length, 0)

/-- Reads the fields, calls and indices after a name. -/
def moreSteps (e : Expr) (ts : List Token) : Except Fault (Parsed (ts.length + 1)) :=
  match ts with
  | .dot :: .name s :: .openParen :: .closeParen :: rest => do
    let p ← moreSteps (.call e s) rest
    return p.weaken (by simp only [List.length_cons]; omega)
  | .dot :: .name _ :: .openParen :: _ => .error .closeParenExpected
  | .dot :: .name s :: rest => do
    let p ← moreSteps (.field e s) rest
    return p.weaken (by simp only [List.length_cons]; omega)
  | .dot :: _ => .error .nameExpected
  | .openBracket :: rest => do
    let p ← readOr rest
    have := p.rest_lt
    match hr : p.rest with
    | .closeBracket :: after => do
      have : after.length < rest.length := by rw [hr, List.length_cons] at this; omega
      let q ← moreSteps (.index e p.expr) after
      return q.weaken (by simp only [List.length_cons]; omega)
    | _ => .error .closeBracketExpected
  | ts => .ok ⟨e, ts, Nat.lt_succ_self _⟩
termination_by (ts.length, 7)

end

end Parser

/-- The expression that the tokens write, all of them. -/
def Expr.ofTokens (ts : List Token) : Except Fault Expr := do
  let p ← Parser.readOr ts
  if p.rest.isEmpty then return p.expr else throw .trailingInput

def Expr.parse (source : String) : Except Error Expr :=
  match (do Expr.ofTokens (← Token.scanAll source.toList)) with
  | .ok e => .ok e
  | .error fault => .error (.malformed source fault)

end MappedSql.Expression
