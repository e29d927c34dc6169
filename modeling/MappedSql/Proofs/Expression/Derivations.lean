import MappedSql.Proofs.Expression.Reading

/- The reading of expressions and the grammar say the same.

   What a reading takes of the tokens is a phrase of its category: the chains by induction on
   the length of what they go on with, the categories from the tightest to the loosest, and
   once around for what stands in parentheses and brackets. The tokens of a phrase, in turn,
   are read to their end, so that two phrases with the same tokens end at the same places
   and, rule by rule, are the same. -/
namespace MappedSql.Expression

open MappedSql.Expression.Parser

/-! ## What is read is a phrase -/

namespace Category

/-- What the reading of a category takes of the tokens is a phrase of it. -/
def SoundOn (c : Category) (ts : List Token) : Prop :=
  ∀ left {e rest}, c.Gives left ts e rest →
    ∃ p : Phrase c, ts = p.tokens ++ rest ∧ c.expr p.tree left = e

/-- The reading of a category is sound on lists of at most `n` tokens. -/
def Sound (c : Category) (n : Nat) : Prop := ∀ ts : List Token, ts.length ≤ n → c.SoundOn ts

variable {n : Nat}

/-- A reading that comes back to itself does so on fewer tokens. -/
theorem Sound.induction {c : Category} (step : ∀ ts : List Token, ts.length ≤ n →
    (∀ us : List Token, us.length < ts.length → c.SoundOn us) → c.SoundOn ts) : c.Sound n := by
  intro ts
  induction hl : ts.length using Nat.strongRecOn generalizing ts with
  | _ l ih =>
    subst hl
    exact fun hn => step ts hn fun us hus =>
      ih us.length hus us rfl (Nat.le_of_lt (Nat.lt_of_lt_of_le hus hn))

/-- A chain is sound if its first member and what goes on with it are. -/
theorem sound_chain {c head tail : Category} (make : Phrase head → Phrase tail → Phrase c)
    (htokens : ∀ first more, (make first more).tokens = first.tokens ++ more.tokens)
    (htree : ∀ first more left,
      c.expr (make first more).tree left = tail.expr more.tree (head.expr first.tree left))
    (hsplit : ∀ {left e ts rest}, c.Gives left ts e rest → ∃ first us, us.length < ts.length ∧
      head.Gives left ts first us ∧ tail.Gives first us e rest)
    (hhead : head.Sound n) (htail : tail.Sound n) : c.Sound n := by
  intro ts hn left e rest h
  obtain ⟨_, us, hlt, hfirst, hmore⟩ := hsplit h
  obtain ⟨first, hts, rfl⟩ := hhead ts hn left hfirst
  obtain ⟨more, hus, hmore⟩ := htail us (Nat.le_of_lt (Nat.lt_of_lt_of_le hlt hn)) _ hmore
  refine ⟨make first more, ?_, ?_⟩
  · rw [htokens, List.append_assoc, ← hus, ← hts]
  · rw [htree, hmore]

/-- What goes on with a chain is sound behind an operator, if the next member is and what goes on
after it. -/
theorem sound_link {next tail : Category} (make : Phrase next → Phrase tail → Phrase tail)
    (join : Expr → Expr → Expr) {left e : Expr} {t : Token} {us rest : List Token}
    (htokens : ∀ member more, (make member more).tokens = t :: (member.tokens ++ more.tokens))
    (htree : ∀ member more, tail.expr (make member more).tree left =
      tail.expr more.tree (join left (next.expr member.tree left)))
    (hnext : next.SoundOn us) (htail : ∀ vs : List Token, vs.length < us.length → tail.SoundOn vs)
    {member : Expr} {vs : List Token} (hlt : vs.length < us.length)
    (hmember : next.Gives left us member vs) (hmore : tail.Gives (join left member) vs e rest) :
    ∃ p : Phrase tail, t :: us = p.tokens ++ rest ∧ tail.expr p.tree left = e := by
  obtain ⟨member, hus, rfl⟩ := hnext left hmember
  obtain ⟨more, hvs, hmore⟩ := htail vs hlt _ hmore
  refine ⟨make member more, ?_, ?_⟩
  · rw [htokens, List.cons_append, List.append_assoc, ← hvs, ← hus]
  · rw [htree, hmore]

theorem sound_steps (hinner : ∀ m < n, Sound .disjunction m) : Sound .steps n := by
  refine Sound.induction fun ts hn ih left e rest h => ?_
  replace h : Parser.Gives (moreSteps left ts) e rest := h
  unfold moreSteps at h
  split at h
  · rename_i s us
    obtain ⟨more, rfl, rfl⟩ := ih us (by simp only [List.length_cons]; omega) _ h.of_weaken
    exact ⟨.call s more, rfl, rfl⟩
  · exact h.not_error.elim
  · rename_i s us _ _
    obtain ⟨more, rfl, rfl⟩ := ih us (by simp only [List.length_cons]; omega) _ h.of_weaken
    exact ⟨.field s more, rfl, rfl⟩
  · exact h.not_error.elim
  · rename_i us
    obtain ⟨p, hp, h⟩ := h.of_bind
    obtain ⟨position, hus, hposition⟩ := hinner us.length hn us (Nat.le_refl _) left hp
    have hlt := p.rest_lt
    split at h
    · rename_i after hafter
      rw [hafter] at hus hlt
      have hshort : after.length < (Token.openBracket :: us).length := by
        simp only [List.length_cons] at hlt ⊢
        omega
      obtain ⟨more, rfl, rfl⟩ := ih after hshort _ h.of_weaken
      refine ⟨.index position more, ?_, ?_⟩
      · rw [hus]
        simp [Phrase.tokens]
      · rw [← hposition]
        rfl
    · exact h.not_error.elim
  · obtain ⟨rfl, rfl⟩ := h.of_ok
    exact ⟨.noStep, rfl, rfl⟩

theorem sound_operand (hinner : ∀ m < n, Sound .disjunction m) (hsteps : Sound .steps n) :
    Sound .operand n := by
  intro ts hn left e rest h
  replace h : Parser.Gives (readOperand ts) e rest := h
  unfold readOperand at h
  split at h
  · rename_i m us
    obtain ⟨rfl, rfl⟩ := h.of_ok
    exact ⟨.number m, rfl, rfl⟩
  · rename_i s us
    obtain ⟨rfl, rfl⟩ := h.of_ok
    exact ⟨.text s, rfl, rfl⟩
  · rename_i s us
    split at h
    · rename_i hroot
      obtain ⟨more, rfl, rfl⟩ := hsteps us (Nat.le_of_lt hn) _ h
      exact ⟨.path s (by simpa [isPathRoot, and_assoc] using hroot) more, rfl, rfl⟩
    · rename_i hroot
      obtain ⟨rfl, rfl⟩ := h.of_ok
      have hword : s = "null" ∨ s = "true" ∨ s = "false" := by
        simpa [isPathRoot, Decidable.or_iff_not_imp_left] using hroot
      rcases hword with rfl | rfl | rfl
      · exact ⟨.null, rfl, rfl⟩
      · exact ⟨.truth true, rfl, rfl⟩
      · exact ⟨.truth false, rfl, rfl⟩
  · rename_i us
    obtain ⟨p, hp, h⟩ := h.of_bind
    obtain ⟨inner, hus, hinner⟩ := hinner us.length hn us (Nat.le_refl _) left hp
    dsimp only at h
    split at h
    · rename_i after hafter
      obtain ⟨rfl, rfl⟩ := h.of_ok
      rw [hafter] at hus
      refine ⟨.group inner, ?_, hinner⟩
      rw [hus]
      simp [Phrase.tokens]
    · exact h.not_error.elim
  · exact h.not_error.elim

theorem sound_unary (hoperand : Sound .operand n) : Sound .unary n := by
  refine Sound.induction fun ts hn ih left e rest h => ?_
  replace h : Parser.Gives (readUnary ts) e rest := h
  unfold readUnary at h
  split at h
  · rename_i us
    obtain ⟨p, hp, h⟩ := h.of_bind
    obtain ⟨rfl, rfl⟩ := h.of_ok
    obtain ⟨inner, hus, hinner⟩ := ih us (Nat.lt_succ_self _) left hp
    exact ⟨.negative inner, congrArg _ hus, congrArg _ hinner⟩
  · exact (hoperand ts hn left h).imp' (fun inner => .notNegative inner) fun inner h => h

theorem sound_summands (hnext : Sound .unary n) : Sound .summands n := by
  refine Sound.induction fun ts hn ih left e rest h => ?_
  replace h : Parser.Gives (moreSum left ts) e rest := h
  unfold moreSum at h
  split at h
  · rename_i o us
    split at h
    · rename_i a ha
      obtain rfl := Operator.operator_of_arithmetic? ha
      obtain ⟨p, hp, h⟩ := h.of_bind
      exact sound_link (.summand a) (.arith a) (fun _ _ => rfl) (fun _ _ => rfl)
        (hnext us (Nat.le_of_lt hn)) (fun vs hvs => ih vs (Nat.lt_succ_of_lt hvs)) p.rest_lt hp
        h.of_weaken
    · obtain ⟨rfl, rfl⟩ := h.of_ok
      exact ⟨.noSummand, rfl, rfl⟩
  · obtain ⟨rfl, rfl⟩ := h.of_ok
    exact ⟨.noSummand, rfl, rfl⟩

theorem sound_sum (hunary : Sound .unary n) : Sound .sum n := by
  refine sound_chain .sum (fun _ _ => rfl) (fun _ _ _ => rfl) (fun {left e ts rest} h => ?_) hunary
    (sound_summands hunary)
  replace h : Parser.Gives (readSum ts) e rest := h
  rw [readSum] at h
  obtain ⟨p, hp, h⟩ := h.of_bind
  exact ⟨p.expr, p.rest, p.rest_lt, hp, h.of_weaken⟩

theorem sound_comparison (hsum : Sound .sum n) : Sound .comparison n := by
  intro ts hn left e rest h
  replace h : Parser.Gives (readComparison ts) e rest := h
  rw [readComparison] at h
  obtain ⟨p, hp, h⟩ := h.of_bind
  have hlt := p.rest_lt
  obtain ⟨first, hts, hfirst⟩ := hsum ts hn left hp
  dsimp only at h
  split at h
  · rename_i o us hus
    rw [hus] at hts hlt
    split at h
    · rename_i c hc
      obtain ⟨q, hq, h⟩ := h.of_bind
      obtain ⟨rfl, rfl⟩ := h.of_ok
      have hle : us.length ≤ n := by
        simp only [List.length_cons] at hlt
        omega
      obtain ⟨second, hsplit, hsecond⟩ := hsum us hle left hq
      refine ⟨.compared c first second, ?_, ?_⟩
      · rw [Phrase.tokens, Operator.operator_of_comparison? hc, List.append_assoc,
          List.cons_append, ← hsplit, ← hts]
      · rw [← hfirst, ← hsecond]
        rfl
    · obtain ⟨rfl, rfl⟩ := h.of_ok
      exact ⟨.notCompared first, hts.trans (by rw [hus]; rfl), hfirst⟩
  · obtain ⟨rfl, rfl⟩ := h.of_ok
    exact ⟨.notCompared first, hts, hfirst⟩

theorem sound_negation (hcomparison : Sound .comparison n) : Sound .negation n := by
  refine Sound.induction fun ts hn ih left e rest h => ?_
  replace h : Parser.Gives (readNot ts) e rest := h
  unfold readNot at h
  split at h
  · rename_i us
    obtain ⟨p, hp, h⟩ := h.of_bind
    obtain ⟨rfl, rfl⟩ := h.of_ok
    obtain ⟨inner, hus, hinner⟩ := ih us (Nat.lt_succ_self _) left hp
    exact ⟨.negated inner, congrArg _ hus, congrArg _ hinner⟩
  · exact (hcomparison ts hn left h).imp' (fun inner => .notNegated inner) fun inner h => h

theorem sound_conjuncts (hnext : Sound .negation n) : Sound .conjuncts n := by
  refine Sound.induction fun ts hn ih left e rest h => ?_
  replace h : Parser.Gives (moreAnd left ts) e rest := h
  unfold moreAnd at h
  split at h
  · rename_i us
    obtain ⟨p, hp, h⟩ := h.of_bind
    exact sound_link .conjunct .and (fun _ _ => rfl) (fun _ _ => rfl) (hnext us (Nat.le_of_lt hn))
      (fun vs hvs => ih vs (Nat.lt_succ_of_lt hvs)) p.rest_lt hp h.of_weaken
  · obtain ⟨rfl, rfl⟩ := h.of_ok
    exact ⟨.noConjunct, rfl, rfl⟩

theorem sound_conjunction (hnegation : Sound .negation n) : Sound .conjunction n := by
  refine sound_chain .conjunction (fun _ _ => rfl) (fun _ _ _ => rfl)
    (fun {left e ts rest} h => ?_) hnegation (sound_conjuncts hnegation)
  replace h : Parser.Gives (readAnd ts) e rest := h
  rw [readAnd] at h
  obtain ⟨p, hp, h⟩ := h.of_bind
  exact ⟨p.expr, p.rest, p.rest_lt, hp, h.of_weaken⟩

theorem sound_disjuncts (hnext : Sound .conjunction n) : Sound .disjuncts n := by
  refine Sound.induction fun ts hn ih left e rest h => ?_
  replace h : Parser.Gives (moreOr left ts) e rest := h
  unfold moreOr at h
  split at h
  · rename_i us
    obtain ⟨p, hp, h⟩ := h.of_bind
    exact sound_link .disjunct .or (fun _ _ => rfl) (fun _ _ => rfl) (hnext us (Nat.le_of_lt hn))
      (fun vs hvs => ih vs (Nat.lt_succ_of_lt hvs)) p.rest_lt hp h.of_weaken
  · obtain ⟨rfl, rfl⟩ := h.of_ok
    exact ⟨.noDisjunct, rfl, rfl⟩

theorem sound_disjunction (n : Nat) : Sound .disjunction n := by
  induction n using Nat.strongRecOn with
  | _ n ih =>
    have hoperand : Sound .operand n := sound_operand ih (sound_steps ih)
    have hnegation := sound_negation (sound_comparison (sound_sum (sound_unary hoperand)))
    have hconjunction := sound_conjunction hnegation
    refine sound_chain .disjunction (fun _ _ => rfl) (fun _ _ _ => rfl)
      (fun {left e ts rest} h => ?_) hconjunction (sound_disjuncts hconjunction)
    replace h : Parser.Gives (readOr ts) e rest := h
    rw [readOr] at h
    obtain ⟨p, hp, h⟩ := h.of_bind
    exact ⟨p.expr, p.rest, p.rest_lt, hp, h.of_weaken⟩

end Category

/-! ## One derivation -/

namespace Phrase

open Category (Ends ends_nil ends_cons)

/-- Phrases of one category that can both be followed by what stands behind them end at the same
place. -/
theorem tokens_cut {c : Category} (p q : Phrase c) {rest rest' : List Token} (hr : c.Ends rest)
    (hr' : c.Ends rest') (h : p.tokens ++ rest = q.tokens ++ rest') :
    p.tokens = q.tokens ∧ rest = rest' := by
  have hp := p.read_tokens hr (.name "")
  rw [h] at hp
  obtain rfl := hp.unique (q.read_tokens hr' (.name ""))
  exact ⟨List.append_cancel_right h, rfl⟩

/-- Chains fall apart into their first members and what goes on with them in one way only. -/
theorem chain_cut {head tail : Category}
    (hends : ∀ more : Phrase tail, Ends head (more.tokens ++ []))
    (first first' : Phrase head) (more more' : Phrase tail)
    (h : first.tokens ++ more.tokens = first'.tokens ++ more'.tokens) :
    first.tokens = first'.tokens ∧ more.tokens = more'.tokens := by
  simp only [List.append_nil] at hends
  exact tokens_cut first first' (hends more) (hends more') h

/-! A rule with a prefix operator or a comparison derives other tokens than the rule without. -/

theorem negated_ne (p : Phrase .negation) (q : Phrase .comparison) :
    .op .not :: p.tokens ≠ q.tokens :=
  fun h => q.comparison_ne_not [] _ ((List.append_nil _).trans h.symm)

theorem negative_ne (p : Phrase .unary) (q : Phrase .operand) :
    .op .minus :: p.tokens ≠ q.tokens :=
  fun h => q.operand_ne_op .minus [] _ ((List.append_nil _).trans h.symm)

theorem compared_ne (c : Comparison) (first second p : Phrase .sum) :
    first.tokens ++ .op c.operator :: second.tokens ≠ p.tokens := by
  rw [← List.append_nil p.tokens]
  intro h
  cases (tokens_cut first p (ends_operator c _) (ends_nil _) h).2

theorem path_ne {root word : String} (hroot : root ∉ ["null", "true", "false"])
    (hword : word ∈ ["null", "true", "false"]) (more : Phrase .steps) :
    .name root :: more.tokens ≠ [.name word] := by
  intro h
  have hname : root = word := Token.name.inj (List.cons.inj h).1
  exact hroot (hname ▸ hword)

theorem word_mem (b : Bool) : (if b then "true" else "false") ∈ ["null", "true", "false"] := by
  cases b <;> simp

/-- Different phrases of one category derive different tokens. -/
theorem tokens_injective {c : Category} {p q : Phrase c} (h : p.tokens = q.tokens) : p = q := by
  induction p with
  | disjunction first more hfirst hmore =>
    cases q with
    | disjunction first' more' =>
      obtain ⟨hf, hm⟩ := chain_cut (fun m => m.ends_disjuncts (ends_nil _))
        first first' more more' h
      rw [hfirst hf, hmore hm]
  | noDisjunct =>
    cases q with
    | noDisjunct => rfl
    | disjunct => cases h
  | disjunct next more hnext hmore =>
    cases q with
    | noDisjunct => cases h
    | disjunct next' more' =>
      obtain ⟨-, htail⟩ := List.cons.inj h
      obtain ⟨hn, hm⟩ := chain_cut (fun m => m.ends_disjuncts (ends_nil _))
        next next' more more' htail
      rw [hnext hn, hmore hm]
  | conjunction first more hfirst hmore =>
    cases q with
    | conjunction first' more' =>
      obtain ⟨hf, hm⟩ := chain_cut (fun m => m.ends_conjuncts (ends_nil _))
        first first' more more' h
      rw [hfirst hf, hmore hm]
  | noConjunct =>
    cases q with
    | noConjunct => rfl
    | conjunct => cases h
  | conjunct next more hnext hmore =>
    cases q with
    | noConjunct => cases h
    | conjunct next' more' =>
      obtain ⟨-, htail⟩ := List.cons.inj h
      obtain ⟨hn, hm⟩ := chain_cut (fun m => m.ends_conjuncts (ends_nil _))
        next next' more more' htail
      rw [hnext hn, hmore hm]
  | negated inner hinner =>
    cases q with
    | negated inner' => rw [hinner (List.cons.inj h).2]
    | notNegated inner' => exact (negated_ne inner inner' h).elim
  | notNegated inner hinner =>
    cases q with
    | negated inner' => exact (negated_ne inner' inner h.symm).elim
    | notNegated inner' => rw [hinner h]
  | compared c first second hfirst hsecond =>
    cases q with
    | compared c' first' second' =>
      obtain ⟨hf, hs⟩ := tokens_cut first first' (ends_operator c _) (ends_operator c' _) h
      obtain ⟨ho, hs⟩ := List.cons.inj hs
      rw [hfirst hf, hsecond hs, Comparison.operator_injective (Token.op.inj ho)]
    | notCompared inner => exact (compared_ne c first second inner h).elim
  | notCompared inner hinner =>
    cases q with
    | compared c first second => exact (compared_ne c first second inner h.symm).elim
    | notCompared inner' => rw [hinner h]
  | sum first more hfirst hmore =>
    cases q with
    | sum first' more' =>
      obtain ⟨hf, hm⟩ := chain_cut (fun m => m.ends_summands (ends_nil _))
        first first' more more' h
      rw [hfirst hf, hmore hm]
  | noSummand =>
    cases q with
    | noSummand => rfl
    | summand => cases h
  | summand a next more hnext hmore =>
    cases q with
    | noSummand => cases h
    | summand a' next' more' =>
      obtain ⟨ho, htail⟩ := List.cons.inj h
      obtain ⟨hn, hm⟩ := chain_cut (fun m => m.ends_summands (ends_nil _))
        next next' more more' htail
      have ha : a = a' := by cases a <;> cases a' <;> first | rfl | cases ho
      rw [hnext hn, hmore hm, ha]
  | negative inner hinner =>
    cases q with
    | negative inner' => rw [hinner (List.cons.inj h).2]
    | notNegative inner' => exact (negative_ne inner inner' h).elim
  | notNegative inner hinner =>
    cases q with
    | negative inner' => exact (negative_ne inner' inner h.symm).elim
    | notNegative inner' => rw [hinner h]
  | number n =>
    cases q <;> cases h
    rfl
  | text s =>
    cases q <;> cases h
    rfl
  | null =>
    cases q with
    | null => rfl
    | truth b => cases b <;> simp [tokens] at h
    | path root hroot more => exact (path_ne hroot (by simp) more h.symm).elim
    | _ => cases h
  | truth b =>
    cases q with
    | null => cases b <;> simp [tokens] at h
    | truth b' => cases b <;> cases b' <;> first | rfl | simp [tokens] at h
    | path root hroot more => exact (path_ne hroot (word_mem b) more h.symm).elim
    | _ => cases h
  | group inner hinner =>
    cases q with
    | group inner' => rw [hinner (List.append_cancel_right (List.cons.inj h).2)]
    | _ => cases h
  | path root hroot more hmore =>
    cases q with
    | null => exact (path_ne hroot (by simp) more h).elim
    | truth b => exact (path_ne hroot (word_mem b) more h).elim
    | path root' hroot' more' =>
      obtain ⟨hname, hm⟩ := List.cons.inj h
      cases hname
      rw [hmore hm]
    | _ => cases h
  | noStep => cases q <;> first | rfl | cases h
  | field name more hmore =>
    cases q with
    | field name' more' =>
      obtain ⟨hname, hm⟩ := List.cons.inj (List.cons.inj h).2
      cases hname
      rw [hmore hm]
    | call method more' =>
      have hm := (List.cons.inj (List.cons.inj h).2).2
      exact (more.steps_ne_openParen (ends_nil _) _ (by rw [hm]; rfl)).elim
    | _ => cases h
  | call method more hmore =>
    cases q with
    | field name more' =>
      have hm := (List.cons.inj (List.cons.inj h).2).2
      exact (more'.steps_ne_openParen (ends_nil _) _ (by rw [← hm]; rfl)).elim
    | call method' more' =>
      obtain ⟨hname, hm⟩ := List.cons.inj (List.cons.inj h).2
      cases hname
      rw [hmore (List.cons.inj (List.cons.inj hm).2).2]
    | _ => cases h
  | index position more hposition hmore =>
    cases q with
    | index position' more' =>
      obtain ⟨hp, hm⟩ := tokens_cut position position' (ends_cons (by decide) _)
        (ends_cons (by decide) _) (List.cons.inj h).2
      rw [hposition hp, hmore (List.cons.inj hm).2]
    | _ => cases h

end Phrase

/-! ## The expression of a list of tokens -/

/-- Tokens that are read as an expression are those of a phrase. -/
theorem Expr.exists_phrase {ts : List Token} {e : Expr} (h : Expr.ofTokens ts = .ok e) :
    ∃ p : Phrase .disjunction, p.tokens = ts ∧ p.tree = e := by
  rw [Expr.ofTokens] at h
  cases hread : readOr ts with
  | error fault =>
    rw [hread] at h
    cases h
  | ok q =>
    obtain ⟨e', rest, hlt⟩ := q
    rw [hread] at h
    cases rest with
    | cons t rest => cases h
    | nil =>
      cases h
      obtain ⟨p, hts, hp⟩ := Category.sound_disjunction ts.length ts (Nat.le_refl _) (.name "")
        ⟨hlt, hread⟩
      exact ⟨p, (hts.trans (List.append_nil _)).symm, hp⟩

/-- A list of tokens is read, to its last token, as exactly the expressions that it has derivations
of in the grammar, and it has no more than one derivation. -/
theorem Expr.ofTokens_eq_ok_iff (ts : List Token) (e : Expr) :
    (Expr.ofTokens ts = .ok e ↔ ∃ p : Phrase .disjunction, p.tokens = ts ∧ p.tree = e) ∧
      ∀ p q : Phrase .disjunction, p.tokens = ts → q.tokens = ts → p = q := by
  refine ⟨⟨exists_phrase, ?_⟩, fun p q hp hq => Phrase.tokens_injective (hp.trans hq.symm)⟩
  rintro ⟨p, rfl, rfl⟩
  exact ofTokens_tokens p

end MappedSql.Expression
