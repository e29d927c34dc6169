import Mathlib.Data.Nat.Log
import Mathlib.Tactic.Ring
import MappedSql.Decimal.Word

/- Whole numbers as doubles.

   A double keeps 53 binary digits. Of a whole number that has more, the nearest double is the one
   that the digits to spare are rounded away for, half a unit to the even side (`halfEven`,
   `nearest`). Rounding keeps the order of numbers (`nearest_mono`), leaves them alone up to
   `2 ^ 53` (`nearest_of_natAbs_le`) and moves those of 64 bits by `2 ^ 10` at most
   (`nearest_dist`). So two of them may be rounded to the same only if they are close to each other
   (`nearest_ne_of_dist`). -/
namespace MappedSql.Decimal

/-- `n / 2 ^ k` as the nearest whole number, and of two that are equally near as the even one. -/
def halfEven (n k : Nat) : Nat :=
  match compare (2 * (n % 2 ^ k)) (2 ^ k) with
  | .lt => n / 2 ^ k
  | .eq => n / 2 ^ k + n / 2 ^ k % 2
  | .gt => n / 2 ^ k + 1

/-- The rest is below half a unit, half a unit or above. -/
theorem halfEven_cases (n k : Nat) :
    (2 * (n % 2 ^ k) < 2 ^ k ∧ halfEven n k = n / 2 ^ k) ∨
    (2 * (n % 2 ^ k) = 2 ^ k ∧ halfEven n k = n / 2 ^ k + n / 2 ^ k % 2) ∨
    (2 ^ k < 2 * (n % 2 ^ k) ∧ halfEven n k = n / 2 ^ k + 1) := by
  rw [halfEven]
  rcases lt_trichotomy (2 * (n % 2 ^ k)) (2 ^ k) with h | h | h
  · rw [compare_lt_iff_lt.2 h]
    exact .inl ⟨h, rfl⟩
  · rw [compare_eq_iff_eq.2 h]
    exact .inr (.inl ⟨h, rfl⟩)
  · rw [compare_gt_iff_gt.2 h]
    exact .inr (.inr ⟨h, rfl⟩)

theorem halfEven_zero (n : Nat) : halfEven n 0 = n := by
  rcases halfEven_cases n 0 with ⟨h, heq⟩ | ⟨h, heq⟩ | ⟨h, heq⟩
  · simpa using heq
  all_goals
    rw [Nat.pow_zero, Nat.mod_one] at h
    omega

theorem compare_mul_right {k : Nat} (hk : 0 < k) (n m : Nat) :
    compare (n * k) (m * k) = compare n m := by
  rw [← cmp_eq_compare, ← cmp_eq_compare, cmp_mul_pos_right hk]

/-- Zeros at the end of the number make no difference. -/
theorem halfEven_mul_two_pow (n k m : Nat) : halfEven (n * 2 ^ m) (k + m) = halfEven n k := by
  have hpos : 0 < 2 ^ m := Nat.two_pow_pos m
  have hdiv : n * 2 ^ m / 2 ^ (k + m) = n / 2 ^ k := by
    rw [Nat.pow_add, Nat.mul_div_mul_right _ _ hpos]
  have hmod : 2 * (n * 2 ^ m % 2 ^ (k + m)) = 2 * (n % 2 ^ k) * 2 ^ m := by
    rw [Nat.pow_add, Nat.mul_mod_mul_right, Nat.mul_assoc]
  rw [halfEven, hmod, hdiv, Nat.pow_add, compare_mul_right hpos, halfEven]

theorem div_le_halfEven (n k : Nat) : n / 2 ^ k ≤ halfEven n k := by
  rcases halfEven_cases n k with ⟨-, heq⟩ | ⟨-, heq⟩ | ⟨-, heq⟩ <;> omega

theorem halfEven_le (n k : Nat) : halfEven n k ≤ n / 2 ^ k + 1 := by
  rcases halfEven_cases n k with ⟨-, heq⟩ | ⟨-, heq⟩ | ⟨-, heq⟩ <;> omega

theorem halfEven_mono {n m : Nat} (h : n ≤ m) (k : Nat) : halfEven n k ≤ halfEven m k := by
  have hdiv : n / 2 ^ k ≤ m / 2 ^ k := Nat.div_le_div_right h
  rcases Nat.lt_or_eq_of_le hdiv with hlt | heq
  · calc halfEven n k ≤ n / 2 ^ k + 1 := halfEven_le n k
      _ ≤ m / 2 ^ k := hlt
      _ ≤ halfEven m k := div_le_halfEven m k
  · -- the same whole part, and so no smaller a rest
    have hn := Nat.div_add_mod n (2 ^ k)
    have hm := Nat.div_add_mod m (2 ^ k)
    rw [heq] at hn
    rcases halfEven_cases n k with ⟨hr, hv⟩ | ⟨hr, hv⟩ | ⟨hr, hv⟩ <;>
      rcases halfEven_cases m k with ⟨hr', hv'⟩ | ⟨hr', hv'⟩ | ⟨hr', hv'⟩ <;> omega

/-- Rounding moves a number by half a unit at most. -/
theorem halfEven_dist (n k : Nat) :
    2 * (halfEven n k * 2 ^ k) ≤ 2 * n + 2 ^ k ∧ 2 * n ≤ 2 * (halfEven n k * 2 ^ k) + 2 ^ k := by
  have hn : n / 2 ^ k * 2 ^ k + n % 2 ^ k = n := Nat.div_add_mod' n (2 ^ k)
  have hup : (n / 2 ^ k + 1) * 2 ^ k = n / 2 ^ k * 2 ^ k + 2 ^ k := Nat.succ_mul _ _
  rcases halfEven_cases n k with ⟨h, heq⟩ | ⟨h, heq⟩ | ⟨h, heq⟩
  · rw [heq]
    omega
  · rcases Nat.mod_two_eq_zero_or_one (n / 2 ^ k) with hbit | hbit
    · rw [heq, hbit, Nat.add_zero]
      omega
    · rw [heq, hbit, hup]
      omega
  · have hlt : n % 2 ^ k < 2 ^ k := Nat.mod_lt n (Nat.two_pow_pos k)
    rw [heq, hup]
    omega

/-! ## The nearest double -/

/-- How many binary digits the number has more than the 53 that a double keeps. -/
def spare (n : Nat) : Nat := n.log2 - 52

def nearestNat (n : Nat) : Nat := halfEven n (spare n) * 2 ^ spare n

/-- The double that is nearest to a whole number, which is a whole number as well. -/
def nearest : Int → Int
  | .ofNat n => nearestNat n
  | .negSucc n => -(nearestNat (n + 1))

theorem lt_two_pow_spare (n : Nat) : n < 2 ^ (53 + spare n) := by
  have hlog : n < 2 ^ (n.log2 + 1) := Nat.lt_log2_self
  refine Nat.lt_of_lt_of_le hlog (Nat.pow_le_pow_right (by decide) ?_)
  rw [spare]
  omega

theorem two_pow_spare_le {n : Nat} (h : 2 ^ 52 ≤ n) : 2 ^ (52 + spare n) ≤ n := by
  have hne : n ≠ 0 := by omega
  have hlog : 52 ≤ n.log2 := (Nat.le_log2 hne).2 h
  have hsum : 52 + spare n = n.log2 := by
    rw [spare]
    omega
  rw [hsum]
  exact Nat.log2_self_le hne

theorem spare_le {n b : Nat} (h : n < 2 ^ (53 + b)) : spare n ≤ b := by
  have hlog : n.log2 < 53 + b := by
    rcases Nat.eq_zero_or_pos n with rfl | hn
    · rw [Nat.log2_zero]
      omega
    · exact (Nat.log2_lt hn.ne').2 h
  rw [spare]
  omega

theorem spare_of_lt {n : Nat} (h : n < 2 ^ 53) : spare n = 0 := Nat.le_zero.1 (spare_le h)

theorem log2_mul_two_pow {n : Nat} (h : 0 < n) (k : Nat) : (n * 2 ^ k).log2 = n.log2 + k := by
  rw [Nat.log2_eq_iff (Nat.mul_pos h (Nat.two_pow_pos k)).ne']
  constructor
  · rw [Nat.pow_add]
    exact Nat.mul_le_mul_right _ (Nat.log2_self_le h.ne')
  · rw [Nat.add_right_comm, Nat.pow_add]
    exact Nat.mul_lt_mul_of_pos_right Nat.lt_log2_self (Nat.two_pow_pos k)

theorem spare_mul_two_pow {n : Nat} (h : 2 ^ 52 ≤ n) (k : Nat) :
    spare (n * 2 ^ k) = spare n + k := by
  have hlong : 52 ≤ n.log2 := (Nat.le_log2 (by omega)).2 h
  rw [spare, spare, log2_mul_two_pow (by omega)]
  omega

/-- Rounding may carry into one digit more. -/
theorem halfEven_spare_le (n : Nat) : halfEven n (spare n) ≤ 2 ^ 53 := by
  have hdiv : n / 2 ^ spare n < 2 ^ 53 := by
    rw [Nat.div_lt_iff_lt_mul (Nat.two_pow_pos _), ← Nat.pow_add]
    exact lt_two_pow_spare n
  exact Nat.le_trans (halfEven_le n _) hdiv

theorem two_pow_le_halfEven_spare {n : Nat} (h : 2 ^ 52 ≤ n) : 2 ^ 52 ≤ halfEven n (spare n) := by
  have hdiv : 2 ^ 52 ≤ n / 2 ^ spare n := by
    rw [Nat.le_div_iff_mul_le (Nat.two_pow_pos _), ← Nat.pow_add]
    exact two_pow_spare_le h
  exact Nat.le_trans hdiv (div_le_halfEven n _)

theorem nearestNat_le (n : Nat) : nearestNat n ≤ 2 ^ (53 + spare n) := by
  rw [nearestNat, Nat.pow_add]
  exact Nat.mul_le_mul_right _ (halfEven_spare_le n)

theorem le_nearestNat {n : Nat} (h : 2 ^ 52 ≤ n) : 2 ^ (52 + spare n) ≤ nearestNat n := by
  rw [nearestNat, Nat.pow_add]
  exact Nat.mul_le_mul_right _ (two_pow_le_halfEven_spare h)

theorem spare_mono {n m : Nat} (h : n ≤ m) : spare n ≤ spare m := by
  have hlog : n.log2 ≤ m.log2 := by
    rw [Nat.log2_eq_log_two, Nat.log2_eq_log_two]
    exact Nat.log_mono_right h
  rw [spare, spare]
  omega

theorem nearestNat_mono {n m : Nat} (h : n ≤ m) : nearestNat n ≤ nearestNat m := by
  rcases Nat.lt_or_eq_of_le (spare_mono h) with hlt | heq
  · -- a power of two lies between numbers of different lengths, and it is no number in between
    have hlong : 2 ^ 52 ≤ m := by
      by_contra hshort
      rw [spare_of_lt (n := m) (by omega)] at hlt
      exact Nat.not_lt_zero _ hlt
    calc nearestNat n ≤ 2 ^ (53 + spare n) := nearestNat_le n
      _ ≤ 2 ^ (52 + spare m) := Nat.pow_le_pow_right (by decide) (by omega)
      _ ≤ nearestNat m := le_nearestNat hlong
  · rw [nearestNat, nearestNat, heq]
    exact Nat.mul_le_mul_right _ (halfEven_mono h _)

theorem nearestNat_of_lt {n : Nat} (h : n < 2 ^ 53) : nearestNat n = n := by
  rw [nearestNat, spare_of_lt h, halfEven_zero, Nat.pow_zero, Nat.mul_one]

/-- Up to this bound all whole numbers are doubles. -/
theorem nearestNat_of_le {n : Nat} (h : n ≤ 2 ^ 53) : nearestNat n = n := by
  rcases Nat.lt_or_eq_of_le h with hlt | rfl
  · exact nearestNat_of_lt hlt
  · decide

theorem nearestNat_dist {n : Nat} (h : n < 2 ^ 64) :
    nearestNat n ≤ n + 2 ^ 10 ∧ n ≤ nearestNat n + 2 ^ 10 := by
  have hunit : 2 ^ spare n ≤ 2 ^ 11 := Nat.pow_le_pow_right (by decide) (spare_le h)
  have hdist := halfEven_dist n (spare n)
  rw [nearestNat]
  omega

theorem nearestNat_zero : nearestNat 0 = 0 := nearestNat_of_lt (by decide)

theorem nearest_natCast (n : Nat) : nearest n = nearestNat n := rfl

theorem nearest_neg_natCast (n : Nat) : nearest (-n) = -(nearestNat n : Int) := by
  cases n with
  | zero =>
    rw [nearestNat_zero]
    rfl
  | succ n => rfl

/-- Rounding keeps the order of numbers, though it may take different ones to the same. -/
theorem nearest_mono {i j : Int} (h : i ≤ j) : nearest i ≤ nearest j := by
  obtain ⟨n, rfl | rfl⟩ := Int.eq_nat_or_neg i
  · obtain ⟨m, rfl⟩ := Int.eq_ofNat_of_zero_le (Int.le_trans (Int.natCast_nonneg n) h)
    exact Int.ofNat_le.2 (nearestNat_mono (Int.ofNat_le.1 h))
  · obtain ⟨m, rfl | rfl⟩ := Int.eq_nat_or_neg j
    · rw [nearest_neg_natCast, nearest_natCast]
      omega
    · rw [nearest_neg_natCast, nearest_neg_natCast]
      have hle := nearestNat_mono (n := m) (m := n) (by omega)
      omega

theorem nearest_of_natAbs_le {i : Int} (h : i.natAbs ≤ 2 ^ 53) : nearest i = i := by
  obtain ⟨n, rfl | rfl⟩ := Int.eq_nat_or_neg i
  · rw [nearest_natCast, nearestNat_of_le (by simpa using h)]
  · rw [nearest_neg_natCast, nearestNat_of_le (by simpa using h)]

/-- Rounding moves a number of 64 bits by half the largest unit at most. -/
theorem nearest_dist {i : Int} (h : i.natAbs < 2 ^ 64) :
    nearest i ≤ i + 2 ^ 10 ∧ i ≤ nearest i + 2 ^ 10 := by
  obtain ⟨hup, hdown⟩ := nearestNat_dist h
  obtain ⟨n, rfl | rfl⟩ := Int.eq_nat_or_neg i
  · rw [nearest_natCast]
    rw [Int.natAbs_natCast] at hup hdown
    omega
  · rw [nearest_neg_natCast]
    rw [Int.natAbs_neg, Int.natAbs_natCast] at hup hdown
    omega

theorem lt_of_nearest_lt {i j : Int} (h : nearest i < nearest j) : i < j := by
  by_contra hle
  exact absurd (nearest_mono (Int.not_lt.1 hle)) (Int.not_le.2 h)

/-- The nearest doubles have the order of the numbers unless they are the same. -/
theorem compare_nearest_iff {i j : Int} :
    compare (nearest i) (nearest j) = compare i j ↔ (nearest i = nearest j → i = j) := by
  constructor
  · intro h heq
    rw [compare_eq_iff_eq.2 heq] at h
    exact compare_eq_iff_eq.1 h.symm
  · intro h
    rcases lt_trichotomy i j with hij | hij | hij
    · have hle := nearest_mono hij.le
      rw [compare_lt_iff_lt.2 hij, compare_lt_iff_lt.2 (by omega)]
    · rw [hij, compare_eq_iff_eq.2 rfl, compare_eq_iff_eq.2 rfl]
    · have hle := nearest_mono hij.le
      rw [compare_gt_iff_gt.2 hij, compare_gt_iff_gt.2 (by omega)]

/-- Numbers that are rounded to the same are equal or close to each other. -/
theorem nearest_ne_of_dist {i j : Int} (hi : i.natAbs < 2 ^ 64) (hj : j.natAbs < 2 ^ 64)
    (h : 2 ^ 11 < (i - j).natAbs) : nearest i ≠ nearest j := by
  have hdist := nearest_dist hi
  have hdist' := nearest_dist hj
  omega

end MappedSql.Decimal
