import MappedSql.Expression.Eval
import MappedSql.Proofs.Decimal.Doubles

/- Whole numbers compared.

   Numbers are ordered as doubles. So a comparison of two whole numbers is one of the nearest
   doubles (`Comparison.holds_ofInt`), and it is exact for all operators as long as different
   numbers have different nearest doubles (`Expr.eval_compare_ofInt`): up to `2 ^ 53`, and beyond
   for numbers that are more than `2 ^ 11` apart. Numbers that are closer may count as equal
   (`Expr.eval_compare_inexact`), but the order of two numbers is never turned round. -/
namespace MappedSql

open Decimal (nearest)

namespace Number

theorem natAbs_lt {i : Int} (h : least ≤ i ∧ i ≤ greatest) : i.natAbs < 2 ^ 64 := by
  have hleast : least = -2 ^ 63 := rfl
  have hgreatest : greatest = 2 ^ 64 - 1 := rfl
  omega

end Number

/-- Whole numbers are ordered like the nearest doubles. -/
theorem Value.order?_ofInt {i j : Int} (hi : i.natAbs < 2 ^ 64) (hj : j.natAbs < 2 ^ 64) :
    (Value.ofInt i).order? (.ofInt j) = some (compare (nearest i) (nearest j)) := by
  obtain ⟨hlt, heq⟩ := Decimal.floatOfInt_compare hi hj
  show some (if Float.ofInt i < Float.ofInt j then Ordering.lt
    else if Float.ofInt i == Float.ofInt j then .eq else .gt) = _
  rw [Option.some_inj]
  rcases lt_trichotomy (nearest i) (nearest j) with h | h | h
  · rw [if_pos (hlt.2 h), compare_lt_iff_lt.2 h]
  · rw [if_neg (mt hlt.1 (by omega)), if_pos (heq.2 h), compare_eq_iff_eq.2 h]
  · rw [if_neg (mt hlt.1 (by omega)), if_neg (mt heq.1 (by omega)), compare_gt_iff_gt.2 h]

namespace Expression

namespace Comparison

/-- What a comparison says of two values in this order. -/
def onOrder : Comparison → Ordering → Bool
  | .eq, o => o == .eq
  | .ne, o => o != .eq
  | .lt, o => o == .lt
  | .le, o => o != .gt
  | .gt, o => o == .gt
  | .ge, o => o != .lt

/-- What a comparison says of whole numbers. -/
def onInt : Comparison → Int → Int → Bool
  | .eq, i, j => decide (i = j)
  | .ne, i, j => decide (i ≠ j)
  | .lt, i, j => decide (i < j)
  | .le, i, j => decide (i ≤ j)
  | .gt, i, j => decide (j < i)
  | .ge, i, j => decide (j ≤ i)

theorem onOrder_compare (c : Comparison) (i j : Int) : c.onOrder (compare i j) = c.onInt i j := by
  rcases lt_trichotomy i j with h | rfl | h
  · rw [compare_lt_iff_lt.2 h]
    cases c <;> simp [onOrder, onInt, h, h.le, h.ne]
  · rw [compare_eq_iff_eq.2 rfl]
    cases c <;> simp [onOrder, onInt]
  · rw [compare_gt_iff_gt.2 h]
    cases c <;> simp [onOrder, onInt, h, h.le, h.ne']

/-- A comparison of ordered values goes by their order, if values that are the same are equal in
it. -/
theorem holds_of_order (c : Comparison) {l r : Value} {o : Ordering} (h : l.order? r = some o)
    (hsame : l.same r = true → o = .eq) : c.holds l r = .ok (c.onOrder o) := by
  have heq : (some o == some .eq || l.same r) = (o == .eq) := by
    cases hs : l.same r with
    | false => exact Bool.or_false _
    | true =>
      rw [hsame hs]
      rfl
  cases c <;> simp only [holds, h, heq] <;> rfl

theorem holds_ofInt (c : Comparison) {i j : Int} (hi : i.natAbs < 2 ^ 64)
    (hj : j.natAbs < 2 ^ 64) :
    c.holds (.ofInt i) (.ofInt j) = .ok (c.onInt (nearest i) (nearest j)) := by
  rw [c.holds_of_order (Value.order?_ofInt hi hj), onOrder_compare]
  intro hsame
  have heq : i = j := by simpa [Value.ofInt, Value.same, Number.same] using hsame
  rw [heq, compare_eq_iff_eq]

/-- All comparisons of numbers are those of others if and only if these have the same order. -/
theorem onInt_eq_iff {i j v w : Int} :
    (∀ c : Comparison, c.onInt v w = c.onInt i j) ↔ compare v w = compare i j := by
  constructor
  · intro h
    have hlt : v < w ↔ i < j := by simpa [onInt] using h .lt
    have heq : v = w ↔ i = j := by simpa [onInt] using h .eq
    rcases lt_trichotomy i j with hij | hij | hij
    · rw [compare_lt_iff_lt.2 hij, compare_lt_iff_lt.2 (hlt.2 hij)]
    · rw [compare_eq_iff_eq.2 hij, compare_eq_iff_eq.2 (heq.2 hij)]
    · rw [compare_gt_iff_gt.2 hij, compare_gt_iff_gt.2 (by omega)]
  · intro h c
    rw [← onOrder_compare, ← onOrder_compare, h]

end Comparison

namespace Expr

variable {b : Bindings} {l r : Expr} {i j : Int}

theorem eval_compare (c : Comparison) (hl : l.eval b = .ok (.ofInt i))
    (hr : r.eval b = .ok (.ofInt j)) (hi : i.natAbs < 2 ^ 64) (hj : j.natAbs < 2 ^ 64) :
    (Expr.compare c l r).eval b = .ok (.bool (c.onInt (nearest i) (nearest j))) := by
  rw [eval, hl, hr]
  show (c.holds (.ofInt i) (.ofInt j)).bind (fun holds => .ok (Value.bool holds)) = _
  rw [c.holds_ofInt hi hj]
  rfl

/-- A comparison of whole numbers is one of the nearest doubles. All comparisons are exact if and
only if the numbers are equal or have different nearest doubles, as numbers up to `2 ^ 53` do and
numbers that are far enough apart. A number that is found less than another is less. -/
theorem eval_compare_ofInt (hl : l.eval b = .ok (.ofInt i)) (hr : r.eval b = .ok (.ofInt j))
    (hi : Number.least ≤ i ∧ i ≤ Number.greatest) (hj : Number.least ≤ j ∧ j ≤ Number.greatest) :
    (∀ c, (Expr.compare c l r).eval b = .ok (.bool (c.onInt (nearest i) (nearest j)))) ∧
      ((∀ c, (Expr.compare c l r).eval b = .ok (.bool (c.onInt i j))) ↔
        (nearest i = nearest j → i = j)) ∧
      (i.natAbs ≤ 2 ^ 53 ∧ j.natAbs ≤ 2 ^ 53 ∨ 2 ^ 11 < (i - j).natAbs →
        ∀ c, (Expr.compare c l r).eval b = .ok (.bool (c.onInt i j))) ∧
      ((Expr.compare .lt l r).eval b = .ok (.bool true) → i < j) := by
  have hi := Number.natAbs_lt hi
  have hj := Number.natAbs_lt hj
  have hcompare := fun c => eval_compare c hl hr hi hj
  have hexact : (∀ c, (Expr.compare c l r).eval b = .ok (.bool (c.onInt i j))) ↔
      (nearest i = nearest j → i = j) := by
    rw [← Decimal.compare_nearest_iff, ← Comparison.onInt_eq_iff]
    simp only [hcompare, Except.ok.injEq, Value.bool.injEq]
  refine ⟨hcompare, hexact, fun h => hexact.2 fun heq => ?_, fun h => ?_⟩
  · rcases h with ⟨hsmall, hsmall'⟩ | hfar
    · rwa [Decimal.nearest_of_natAbs_le hsmall, Decimal.nearest_of_natAbs_le hsmall'] at heq
    · exact absurd heq (Decimal.nearest_ne_of_dist hi hj hfar)
  · rw [hcompare, Except.ok.injEq, Value.bool.injEq] at h
    exact Decimal.lt_of_nearest_lt (of_decide_eq_true h)

/-- The largest number that a value holds is far from the smallest. -/
theorem eval_compare_ofInt_greatest :
    (Expr.literal (.ofInt Number.greatest)).eval [] = .ok (.ofInt Number.greatest) ∧
      (Expr.literal (.ofInt Number.least)).eval [] = .ok (.ofInt Number.least) ∧
      (Number.least ≤ Number.greatest ∧ Number.greatest ≤ Number.greatest) ∧
      (Number.least ≤ Number.least ∧ Number.least ≤ Number.greatest) ∧
      ∀ c, (Expr.compare c (.literal (.ofInt Number.greatest))
        (.literal (.ofInt Number.least))).eval [] =
          .ok (.bool (c.onInt Number.greatest Number.least)) := by
  refine ⟨rfl, rfl, by decide, by decide, ?_⟩
  obtain ⟨-, -, hfar, -⟩ := eval_compare_ofInt (b := []) (l := .literal (.ofInt Number.greatest))
    (r := .literal (.ofInt Number.least)) rfl rfl (by decide) (by decide)
  exact hfar (.inr (by decide))

/-- The first number that is no double counts as equal to the one below it. -/
theorem eval_compare_inexact : ¬ ∀ (c : Comparison) (l r : Expr) (b : Bindings) (i j : Int),
    l.eval b = .ok (.ofInt i) → r.eval b = .ok (.ofInt j) →
    (Number.least ≤ i ∧ i ≤ Number.greatest) → (Number.least ≤ j ∧ j ≤ Number.greatest) →
    (Expr.compare c l r).eval b = .ok (.bool (c.onInt i j)) := by
  intro h
  have hexact := h .eq (.literal (.ofInt (2 ^ 53 + 1))) (.literal (.ofInt (2 ^ 53))) []
    (2 ^ 53 + 1) (2 ^ 53) rfl rfl (by decide) (by decide)
  rw [eval_compare .eq rfl rfl (by decide) (by decide), Except.ok.injEq,
    Value.bool.injEq] at hexact
  revert hexact
  decide

end Expr

end Expression

end MappedSql
