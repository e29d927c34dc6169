import MappedSql.Proofs.Expression.Grammar

/- What the reading of expressions takes.

   Every phrase is read to its end and as the expression that it stands for, whatever
   follows it, as long as its category is over there (`Phrase.read_tokens`). The reading
   functions return what they left with a proof that it is shorter; `Parser.Gives` says which
   expression and which tokens a reading gives and leaves that proof aside. For each rule of
   the grammar one lemma tells what its reading function gives from what it gives on the
   parts. -/
namespace MappedSql.Expression

namespace Parser

/-- The reading gives the expression and leaves the tokens. -/
def Gives {n : Nat} (x : Except Fault (Parsed n)) (e : Expr) (rest : List Token) : Prop :=
  ∃ h, x = .ok ⟨e, rest, h⟩

namespace Gives

variable {m n : Nat} {x : Except Fault (Parsed n)} {e e' : Expr} {rest rest' : List Token}

theorem unique (h : Gives x e rest) (h' : Gives x e' rest') : rest = rest' := by
  obtain ⟨_, rfl⟩ := h
  obtain ⟨_, h'⟩ := h'
  cases h'
  rfl

theorem bind {f : Parsed n → Except Fault (Parsed m)} (h : Gives x e rest)
    (hf : ∀ h, Gives (f ⟨e, rest, h⟩) e' rest') : Gives (x >>= f) e' rest' := by
  obtain ⟨hlt, rfl⟩ := h
  exact hf hlt

theorem of_bind {f : Parsed n → Except Fault (Parsed m)} (h : Gives (x >>= f) e rest) :
    ∃ p : Parsed n, Gives x p.expr p.rest ∧ Gives (f p) e rest := by
  cases x with
  | error fault =>
    obtain ⟨_, h⟩ := h
    cases h
  | ok p => exact ⟨p, ⟨p.rest_lt, rfl⟩, h⟩

theorem of_weaken {hle : n ≤ m} (h : Gives (x >>= fun p => pure (p.weaken hle)) e rest) :
    Gives x e rest := by
  obtain ⟨p, hx, _, h⟩ := h.of_bind
  cases h
  exact hx

theorem of_ok {h : rest.length < n} (hg : Gives (.ok ⟨e, rest, h⟩) e' rest') :
    e = e' ∧ rest = rest' := by
  obtain ⟨_, hg⟩ := hg
  cases hg
  exact ⟨rfl, rfl⟩

theorem not_error {fault : Fault} (h : Gives (.error fault : Except Fault (Parsed n)) e rest) :
    False := by
  obtain ⟨_, h⟩ := h
  cases h

end Gives

end Parser

open MappedSql.Expression.Parser

/-- What the reading of a category gives and leaves, behind another expression where it goes on. -/
def Category.Gives : Category → Expr → List Token → Expr → List Token → Prop
  | .disjunction, _, ts, e, rest => Parser.Gives (readOr ts) e rest
  | .disjuncts, left, ts, e, rest => Parser.Gives (moreOr left ts) e rest
  | .conjunction, _, ts, e, rest => Parser.Gives (readAnd ts) e rest
  | .conjuncts, left, ts, e, rest => Parser.Gives (moreAnd left ts) e rest
  | .negation, _, ts, e, rest => Parser.Gives (readNot ts) e rest
  | .comparison, _, ts, e, rest => Parser.Gives (readComparison ts) e rest
  | .sum, _, ts, e, rest => Parser.Gives (readSum ts) e rest
  | .summands, left, ts, e, rest => Parser.Gives (moreSum left ts) e rest
  | .unary, _, ts, e, rest => Parser.Gives (readUnary ts) e rest
  | .operand, _, ts, e, rest => Parser.Gives (readOperand ts) e rest
  | .steps, left, ts, e, rest => Parser.Gives (moreSteps left ts) e rest

theorem Category.Gives.unique {c : Category} {left e e' : Expr} {ts rest rest' : List Token}
    (h : c.Gives left ts e rest) (h' : c.Gives left ts e' rest') : rest = rest' := by
  cases c <;> exact Parser.Gives.unique h h'

/-! ## Where a reading stops -/

section

variable {ts us rest : List Token}

theorem moreOr_ends (h : Category.Ends .disjuncts rest) (left : Expr) :
    Gives (moreOr left rest) left rest := by
  unfold moreOr
  split
  · exact (h.absurd (by decide)).elim
  · exact ⟨_, rfl⟩

theorem moreAnd_ends (h : Category.Ends .conjuncts rest) (left : Expr) :
    Gives (moreAnd left rest) left rest := by
  unfold moreAnd
  split
  · exact (h.absurd (by decide)).elim
  · exact ⟨_, rfl⟩

theorem moreSum_ends (h : Category.Ends .summands rest) (left : Expr) :
    Gives (moreSum left rest) left rest := by
  unfold moreSum
  split
  · rename_i o rest
    cases ha : o.arithmetic? with
    | none => exact ⟨_, rfl⟩
    | some a =>
      rw [← Operator.operator_of_arithmetic? ha] at h
      exact (h.absurd (by cases a <;> decide)).elim
  · exact ⟨_, rfl⟩

theorem moreSteps_ends (h : Category.Ends .steps rest) (left : Expr) :
    Gives (moreSteps left rest) left rest := by
  unfold moreSteps
  split
  all_goals first | exact (h.absurd (by decide)).elim | exact ⟨_, rfl⟩

/-! ## What each reading makes of its parts -/

variable {first next inner left e : Expr}

theorem gives_readOr (hfirst : Gives (readAnd ts) first us) (hmore : Gives (moreOr first us) e rest) :
    Gives (readOr ts) e rest := by
  rw [readOr]
  exact hfirst.bind fun _ => hmore.bind fun _ => ⟨_, rfl⟩

theorem gives_moreOr (hnext : Gives (readAnd ts) next us)
    (hmore : Gives (moreOr (.or left next) us) e rest) :
    Gives (moreOr left (.op .or :: ts)) e rest := by
  rw [moreOr]
  exact hnext.bind fun _ => hmore.bind fun _ => ⟨_, rfl⟩

theorem gives_readAnd (hfirst : Gives (readNot ts) first us)
    (hmore : Gives (moreAnd first us) e rest) : Gives (readAnd ts) e rest := by
  rw [readAnd]
  exact hfirst.bind fun _ => hmore.bind fun _ => ⟨_, rfl⟩

theorem gives_moreAnd (hnext : Gives (readNot ts) next us)
    (hmore : Gives (moreAnd (.and left next) us) e rest) :
    Gives (moreAnd left (.op .and :: ts)) e rest := by
  rw [moreAnd]
  exact hnext.bind fun _ => hmore.bind fun _ => ⟨_, rfl⟩

theorem gives_readNot (h : Gives (readNot ts) inner rest) :
    Gives (readNot (.op .not :: ts)) (.not inner) rest := by
  rw [readNot]
  exact h.bind fun _ => ⟨_, rfl⟩

/-- What does not begin with a `not` is read as a comparison. -/
theorem gives_readNot_of_ne (hts : ∀ us, ts ≠ .op .not :: us)
    (h : Gives (readComparison ts) e rest) : Gives (readNot ts) e rest := by
  unfold readNot
  split
  · exact (hts _ rfl).elim
  · exact h

theorem gives_readComparison {c : Comparison}
    (hfirst : Gives (readSum ts) first (.op c.operator :: us))
    (hnext : Gives (readSum us) next rest) :
    Gives (readComparison ts) (.compare c first next) rest := by
  rw [readComparison]
  refine hfirst.bind fun _ => ?_
  dsimp only
  rw [Comparison.comparison?_operator]
  exact hnext.bind fun _ => ⟨_, rfl⟩

/-- A sum is read alone where no comparison follows. -/
theorem gives_readComparison_of_ends (h : Category.Ends .comparison rest)
    (hsum : Gives (readSum ts) e rest) : Gives (readComparison ts) e rest := by
  rw [readComparison]
  refine hsum.bind fun _ => ?_
  dsimp only
  split
  · rename_i o us _
    cases hc : o.comparison? with
    | none => exact ⟨_, rfl⟩
    | some c =>
      rw [← Operator.operator_of_comparison? hc] at h
      exact (h.absurd (by cases c <;> decide)).elim
  · exact ⟨_, rfl⟩

theorem gives_readSum (hfirst : Gives (readUnary ts) first us)
    (hmore : Gives (moreSum first us) e rest) : Gives (readSum ts) e rest := by
  rw [readSum]
  exact hfirst.bind fun _ => hmore.bind fun _ => ⟨_, rfl⟩

theorem gives_moreSum {a : Arithmetic} (hnext : Gives (readUnary ts) next us)
    (hmore : Gives (moreSum (.arith a left next) us) e rest) :
    Gives (moreSum left (.op a.operator :: ts)) e rest := by
  rw [moreSum, Arithmetic.arithmetic?_operator]
  exact hnext.bind fun _ => hmore.bind fun _ => ⟨_, rfl⟩

theorem gives_readUnary (h : Gives (readUnary ts) inner rest) :
    Gives (readUnary (.op .minus :: ts)) (.neg inner) rest := by
  rw [readUnary]
  exact h.bind fun _ => ⟨_, rfl⟩

/-- What does not begin with a minus is read as an operand. -/
theorem gives_readUnary_of_ne (hts : ∀ us, ts ≠ .op .minus :: us)
    (h : Gives (readOperand ts) e rest) : Gives (readUnary ts) e rest := by
  unfold readUnary
  split
  · exact (hts _ rfl).elim
  · exact h

theorem gives_group (h : Gives (readOr ts) e (.closeParen :: rest)) :
    Gives (readOperand (.openParen :: ts)) e rest := by
  rw [readOperand]
  exact h.bind fun _ => ⟨_, rfl⟩

theorem gives_path {root : String} (hroot : root ∉ ["null", "true", "false"])
    (h : Gives (moreSteps (.name root) ts) e rest) :
    Gives (readOperand (.name root :: ts)) e rest := by
  have hpath : isPathRoot root = true := by simpa [isPathRoot, and_assoc] using hroot
  rw [readOperand, if_pos hpath]
  exact h

/-- A name after a dot is a field if no parentheses follow it. -/
theorem gives_field {name : String} (hts : ∀ us, ts ≠ .openParen :: us)
    (h : Gives (moreSteps (.field left name) ts) e rest) :
    Gives (moreSteps left (.dot :: .name name :: ts)) e rest := by
  rw [moreSteps]
  · exact h.bind fun _ => ⟨_, rfl⟩
  · exact fun us => hts (.closeParen :: us)
  · exact hts

theorem gives_call {method : String} (h : Gives (moreSteps (.call left method) ts) e rest) :
    Gives (moreSteps left (.dot :: .name method :: .openParen :: .closeParen :: ts)) e rest := by
  rw [moreSteps]
  exact h.bind fun _ => ⟨_, rfl⟩

theorem gives_index {position : Expr} (hposition : Gives (readOr ts) position (.closeBracket :: us))
    (h : Gives (moreSteps (.index left position) us) e rest) :
    Gives (moreSteps left (.openBracket :: ts)) e rest := by
  rw [moreSteps]
  refine hposition.bind fun _ => ?_
  exact h.bind fun _ => ⟨_, rfl⟩

end

namespace Phrase

/-- A phrase is read to its end, and no further. -/
theorem read_tokens {c : Category} (p : Phrase c) {rest : List Token} (h : c.Ends rest)
    (left : Expr) : c.Gives left (p.tokens ++ rest) (c.expr p.tree left) rest := by
  induction p generalizing rest left with
  | disjunction first more hfirst hmore =>
    rw [tokens, List.append_assoc]
    exact gives_readOr (hfirst (more.ends_disjuncts h) left) (hmore h first.tree)
  | noDisjunct => exact moreOr_ends h left
  | disjunct next more hnext hmore =>
    rw [tokens, List.cons_append, List.append_assoc]
    exact gives_moreOr (hnext (more.ends_disjuncts h) left) (hmore h (.or left next.tree))
  | conjunction first more hfirst hmore =>
    rw [tokens, List.append_assoc]
    exact gives_readAnd (hfirst (more.ends_conjuncts h) left) (hmore h first.tree)
  | noConjunct => exact moreAnd_ends h left
  | conjunct next more hnext hmore =>
    rw [tokens, List.cons_append, List.append_assoc]
    exact gives_moreAnd (hnext (more.ends_conjuncts h) left) (hmore h (.and left next.tree))
  | negated inner hinner => exact gives_readNot (hinner h left)
  | notNegated inner hinner =>
    exact gives_readNot_of_ne (inner.comparison_ne_not rest) (hinner (h.mono (by decide)) left)
  | compared c first second hfirst hsecond =>
    rw [tokens, List.append_assoc]
    exact gives_readComparison (hfirst (ends_operator c _) left)
      (hsecond (h.mono (by decide)) left)
  | notCompared inner hinner =>
    exact gives_readComparison_of_ends h (hinner (h.mono (by decide)) left)
  | sum first more hfirst hmore =>
    rw [tokens, List.append_assoc]
    exact gives_readSum (hfirst (more.ends_summands h) left) (hmore h first.tree)
  | noSummand => exact moreSum_ends h left
  | summand a next more hnext hmore =>
    rw [tokens, List.cons_append, List.append_assoc]
    exact gives_moreSum (hnext (more.ends_summands h) left) (hmore h (.arith a left next.tree))
  | negative inner hinner => exact gives_readUnary (hinner h left)
  | notNegative inner hinner =>
    exact gives_readUnary_of_ne (inner.operand_ne_op .minus rest) (hinner (h.mono (by decide)) left)
  | number n =>
    show Gives (readOperand (.number n :: rest)) _ _
    rw [readOperand]
    exact ⟨_, rfl⟩
  | text s =>
    show Gives (readOperand (.text s :: rest)) _ _
    rw [readOperand]
    exact ⟨_, rfl⟩
  | null =>
    show Gives (readOperand (.name "null" :: rest)) _ _
    rw [readOperand]
    exact ⟨_, rfl⟩
  | truth b =>
    show Gives (readOperand (.name (if b then "true" else "false") :: rest)) _ _
    rw [readOperand]
    cases b <;> exact ⟨_, rfl⟩
  | group inner hinner =>
    rw [tokens, List.cons_append, List.append_assoc]
    exact gives_group (hinner (Category.ends_cons (by decide) _) left)
  | path root hroot more hmore => exact gives_path hroot (hmore h (.name root))
  | noStep => exact moreSteps_ends h left
  | field name more hmore =>
    exact gives_field (more.steps_ne_openParen h) (hmore h (.field left name))
  | call method more hmore => exact gives_call (hmore h (.call left method))
  | index position more hposition hmore =>
    rw [tokens, List.cons_append, List.append_assoc]
    exact gives_index (hposition (Category.ends_cons (by decide) _) left)
      (hmore h (.index left position.tree))

end Phrase

/-! ## The tokens of a phrase -/

/-- The tokens that a phrase derives are read as the expression that it stands for. -/
theorem Expr.ofTokens_tokens (p : Phrase .disjunction) : Expr.ofTokens p.tokens = .ok p.tree := by
  have hread := p.read_tokens (Category.ends_nil _) (.name "")
  rw [List.append_nil] at hread
  obtain ⟨hlt, h⟩ := hread
  rw [Expr.ofTokens, h]
  rfl

end MappedSql.Expression
