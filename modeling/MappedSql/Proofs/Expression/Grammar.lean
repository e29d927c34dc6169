import MappedSql.Expression.Tree

/- The grammar of expressions.

   A phrase is a derivation: it says which rules of the grammar make an expression of a
   list of tokens, parentheses included. `Phrase.tokens` is the list that a phrase
   derives, `Phrase.tree` the expression that it stands for. A chain (of `or`, of `and`,
   of `+` and `-`, of the steps after a name) is its first member and what goes on with
   it, and a phrase that goes on stands for what becomes of the expression to its left.

   What a phrase cannot be followed by, if it is to be read to its end and no further, is
   told by the strength of the next token (`Category.Ends`). -/
namespace MappedSql.Expression

/-! ## Phrases -/

/-- The sorts of phrases, from the loosest to the tightest, beside each chain what it goes on
with. -/
inductive Category where
  | disjunction
  | disjuncts
  | conjunction
  | conjuncts
  | negation
  | comparison
  | sum
  | summands
  | unary
  | operand
  | steps

/-- The operator of a comparison. -/
def Comparison.operator : Comparison → Operator
  | .eq => .eq
  | .ne => .ne
  | .lt => .lt
  | .le => .le
  | .gt => .gt
  | .ge => .ge

/-- The operator of an addition or a subtraction. -/
def Arithmetic.operator : Arithmetic → Operator
  | .add => .plus
  | .sub => .minus

/-- The derivations of the grammar. -/
inductive Phrase : Category → Type where
  | disjunction (first : Phrase .conjunction) (more : Phrase .disjuncts) : Phrase .disjunction
  | noDisjunct : Phrase .disjuncts
  | disjunct (next : Phrase .conjunction) (more : Phrase .disjuncts) : Phrase .disjuncts
  | conjunction (first : Phrase .negation) (more : Phrase .conjuncts) : Phrase .conjunction
  | noConjunct : Phrase .conjuncts
  | conjunct (next : Phrase .negation) (more : Phrase .conjuncts) : Phrase .conjuncts
  | negated (inner : Phrase .negation) : Phrase .negation
  | notNegated (inner : Phrase .comparison) : Phrase .negation
  | compared (c : Comparison) (left right : Phrase .sum) : Phrase .comparison
  | notCompared (inner : Phrase .sum) : Phrase .comparison
  | sum (first : Phrase .unary) (more : Phrase .summands) : Phrase .sum
  | noSummand : Phrase .summands
  | summand (a : Arithmetic) (next : Phrase .unary) (more : Phrase .summands) : Phrase .summands
  | negative (inner : Phrase .unary) : Phrase .unary
  | notNegative (inner : Phrase .operand) : Phrase .unary
  | number (n : Number) : Phrase .operand
  | text (s : String) : Phrase .operand
  | null : Phrase .operand
  | truth (b : Bool) : Phrase .operand
  | group (inner : Phrase .disjunction) : Phrase .operand
  | path (root : String) (h : root ∉ ["null", "true", "false"]) (more : Phrase .steps) :
      Phrase .operand
  | noStep : Phrase .steps
  | field (name : String) (more : Phrase .steps) : Phrase .steps
  | call (method : String) (more : Phrase .steps) : Phrase .steps
  | index (position : Phrase .disjunction) (more : Phrase .steps) : Phrase .steps

/-- What a phrase stands for: an expression, or what becomes of the one to its left. -/
abbrev Category.Meaning : Category → Type
  | .disjuncts | .conjuncts | .summands | .steps => Expr → Expr
  | _ => Expr

/-- The expression that a phrase of this meaning makes, behind another one where it goes on. -/
def Category.expr : (c : Category) → c.Meaning → Expr → Expr
  | .disjuncts, grow, left => grow left
  | .conjuncts, grow, left => grow left
  | .summands, grow, left => grow left
  | .steps, grow, left => grow left
  | .disjunction, e, _ => e
  | .conjunction, e, _ => e
  | .negation, e, _ => e
  | .comparison, e, _ => e
  | .sum, e, _ => e
  | .unary, e, _ => e
  | .operand, e, _ => e

namespace Phrase

/-- The tokens that a phrase derives. -/
def tokens {c : Category} : Phrase c → List Token
  | .disjunction first more => first.tokens ++ more.tokens
  | .noDisjunct => []
  | .disjunct next more => .op .or :: (next.tokens ++ more.tokens)
  | .conjunction first more => first.tokens ++ more.tokens
  | .noConjunct => []
  | .conjunct next more => .op .and :: (next.tokens ++ more.tokens)
  | .negated inner => .op .not :: inner.tokens
  | .notNegated inner => inner.tokens
  | .compared c left right => left.tokens ++ .op c.operator :: right.tokens
  | .notCompared inner => inner.tokens
  | .sum first more => first.tokens ++ more.tokens
  | .noSummand => []
  | .summand a next more => .op a.operator :: (next.tokens ++ more.tokens)
  | .negative inner => .op .minus :: inner.tokens
  | .notNegative inner => inner.tokens
  | .number n => [.number n]
  | .text s => [.text s]
  | .null => [.name "null"]
  | .truth b => [.name (if b then "true" else "false")]
  | .group inner => .openParen :: (inner.tokens ++ [.closeParen])
  | .path root _ more => .name root :: more.tokens
  | .noStep => []
  | .field name more => .dot :: .name name :: more.tokens
  | .call method more => .dot :: .name method :: .openParen :: .closeParen :: more.tokens
  | .index position more => .openBracket :: (position.tokens ++ .closeBracket :: more.tokens)

-- The equations are made here, once, and not by all the proofs that begin with them.
attribute [local simp] tokens

/-- The expression that a phrase stands for. Chains group to the left. -/
def tree {c : Category} : Phrase c → c.Meaning
  | .disjunction first more => more.tree first.tree
  | .noDisjunct => fun left => left
  | .disjunct next more => fun left => more.tree (.or left next.tree)
  | .conjunction first more => more.tree first.tree
  | .noConjunct => fun left => left
  | .conjunct next more => fun left => more.tree (.and left next.tree)
  | .negated inner => Expr.not inner.tree
  | .notNegated inner => inner.tree
  | .compared c left right => Expr.compare c left.tree right.tree
  | .notCompared inner => inner.tree
  | .sum first more => more.tree first.tree
  | .noSummand => fun left => left
  | .summand a next more => fun left => more.tree (.arith a left next.tree)
  | .negative inner => Expr.neg inner.tree
  | .notNegative inner => inner.tree
  | .number n => Expr.literal (.num n)
  | .text s => Expr.literal (.str s)
  | .null => Expr.literal .null
  | .truth b => Expr.literal (.bool b)
  | .group inner => inner.tree
  | .path root _ more => more.tree (.name root)
  | .noStep => fun left => left
  | .field name more => fun left => more.tree (.field left name)
  | .call method more => fun left => more.tree (.call left method)
  | .index position more => fun left => more.tree (.index left position.tree)

end Phrase

/-! ## What can follow a phrase -/

@[simp] theorem Comparison.comparison?_operator (c : Comparison) :
    c.operator.comparison? = some c := by
  cases c <;> rfl

theorem Comparison.operator_injective {c d : Comparison} (h : c.operator = d.operator) : c = d := by
  have hsome := Comparison.comparison?_operator c
  rw [h, Comparison.comparison?_operator] at hsome
  exact (Option.some.inj hsome).symm

@[simp] theorem Arithmetic.arithmetic?_operator (a : Arithmetic) :
    a.operator.arithmetic? = some a := by
  cases a <;> rfl

theorem Operator.operator_of_comparison? {o : Operator} {c : Comparison}
    (h : o.comparison? = some c) : c.operator = o := by
  cases o <;> cases h <;> rfl

theorem Operator.operator_of_arithmetic? {o : Operator} {a : Arithmetic}
    (h : o.arithmetic? = some a) : a.operator = o := by
  cases o <;> cases h <;> rfl

/-- How tightly a token holds on to what stands before it. -/
def Token.strength : Token → Nat
  | .op .or => 1
  | .op .and => 2
  | .op .eq | .op .ne | .op .lt | .op .le | .op .gt | .op .ge => 3
  | .op .plus | .op .minus => 4
  | .dot | .openBracket | .openParen => 5
  | _ => 0

namespace Category

/-- The strength of the loosest tokens that go on with a phrase. -/
def floor : Category → Nat
  | .disjunction | .disjuncts => 1
  | .conjunction | .conjuncts => 2
  | .negation | .comparison => 3
  | .sum | .summands => 4
  | .unary | .operand | .steps => 5

/-- Whether a phrase is over before these tokens. -/
def Ends (c : Category) (rest : List Token) : Prop := ∀ t ∈ rest.head?, t.strength < c.floor

theorem ends_nil (c : Category) : c.Ends [] := fun t h => by cases h

theorem ends_cons {c : Category} {t : Token} (h : t.strength < c.floor) (rest : List Token) :
    c.Ends (t :: rest) := fun t' h' => by
  cases h'
  exact h

theorem Ends.mono {c c' : Category} {rest : List Token} (h : c.Ends rest)
    (hc : c.floor ≤ c'.floor) : c'.Ends rest := fun t ht => Nat.lt_of_lt_of_le (h t ht) hc

/-- A token that a phrase goes on with does not follow it. -/
theorem Ends.absurd {c : Category} {t : Token} {rest : List Token} (h : c.Ends (t :: rest))
    (ht : c.floor ≤ t.strength) : False := Nat.not_lt.2 ht (h t rfl)

end Category

namespace Phrase

open Category (Ends ends_cons)

variable {rest : List Token}

theorem ends_disjuncts (more : Phrase .disjuncts) (h : Ends .disjunction rest) :
    Ends .conjunction (more.tokens ++ rest) := by
  cases more with
  | noDisjunct => exact h.mono (by decide)
  | disjunct next more => exact ends_cons (by decide) _

theorem ends_conjuncts (more : Phrase .conjuncts) (h : Ends .conjunction rest) :
    Ends .negation (more.tokens ++ rest) := by
  cases more with
  | noConjunct => exact h.mono (by decide)
  | conjunct next more => exact ends_cons (by decide) _

theorem ends_summands (more : Phrase .summands) (h : Ends .sum rest) :
    Ends .unary (more.tokens ++ rest) := by
  cases more with
  | noSummand => exact h.mono (by decide)
  | summand a next more => exact ends_cons (by cases a <;> decide) _

theorem ends_operator (c : Comparison) (rest : List Token) :
    Ends .sum (.op c.operator :: rest) := ends_cons (by cases c <;> decide) rest

/-- A step without parentheses is not followed by any. -/
theorem steps_ne_openParen (more : Phrase .steps) (h : Ends .steps rest) (ts : List Token) :
    more.tokens ++ rest ≠ .openParen :: ts := by
  intro he
  cases more with
  | noStep =>
    obtain rfl : rest = .openParen :: ts := he
    exact h.absurd (by decide)
  | field | call | index => cases he

/-! ## What a phrase begins with -/

/-- An operand begins with no operator. -/
theorem operand_begins (p : Phrase .operand) :
    ∃ t rest, p.tokens = t :: rest ∧ ∀ o, t ≠ .op o := by
  cases p <;> exact ⟨_, _, rfl, fun o h => by cases h⟩

theorem operand_ne_op (p : Phrase .operand) (o : Operator) (rest ts : List Token) :
    p.tokens ++ rest ≠ .op o :: ts := by
  obtain ⟨t, us, ht, hop⟩ := p.operand_begins
  rw [ht]
  exact fun h => hop o (List.cons.inj h).1

theorem unary_begins (p : Phrase .unary) :
    ∃ t rest, p.tokens = t :: rest ∧ t ≠ .op .not := by
  cases p with
  | negative inner => exact ⟨_, _, rfl, by decide⟩
  | notNegative inner =>
    obtain ⟨t, rest, ht, hop⟩ := inner.operand_begins
    exact ⟨t, rest, ht, hop .not⟩

theorem sum_begins (p : Phrase .sum) : ∃ t rest, p.tokens = t :: rest ∧ t ≠ .op .not := by
  cases p with
  | sum first more =>
    obtain ⟨t, rest, ht, hop⟩ := first.unary_begins
    exact ⟨t, rest ++ more.tokens, by rw [tokens, ht]; rfl, hop⟩

theorem comparison_begins (p : Phrase .comparison) :
    ∃ t rest, p.tokens = t :: rest ∧ t ≠ .op .not := by
  cases p with
  | compared c left right =>
    obtain ⟨t, rest, ht, hop⟩ := left.sum_begins
    exact ⟨t, rest ++ .op c.operator :: right.tokens, by rw [tokens, ht]; rfl, hop⟩
  | notCompared inner => exact inner.sum_begins

theorem comparison_ne_not (p : Phrase .comparison) (rest ts : List Token) :
    p.tokens ++ rest ≠ .op .not :: ts := by
  obtain ⟨t, us, ht, hop⟩ := p.comparison_begins
  rw [ht]
  exact fun h => hop (List.cons.inj h).1

end Phrase

end MappedSql.Expression
