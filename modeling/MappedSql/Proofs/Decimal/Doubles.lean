import Mathlib
import MappedSql.Proofs.Decimal.Nearest

/- Whole numbers in the arithmetic of doubles.

   A double is unpacked to a sign, a mantissa of 53 digits and an exponent. `Denotes` says that such
   a number is a whole one. To round a mantissa is to shift it to the right, where a round bit and a
   sticky bit keep enough of the digits that are lost to tell which side is nearer: `shifted` says
   what they are after any number of shifts, so a mantissa is rounded by `halfEven`
   (`roundedMantissa_shifted`, `roundWithAccuracy_eq`). Whole numbers become doubles in one of two
   ways, by their length, and either way the double is the nearest one (`denotes_floatOfNat`). The
   order of doubles is the one of the numbers that they denote (`Denotes.compare_eq`), so doubles of
   whole numbers have the order of the nearest ones (`floatOfInt_compare`). -/
namespace MappedSql.Decimal

open Float.Model Float.Model.UnpackedFloat

/-! ## Rounding a mantissa -/

/-- What a mantissa is after some shifts to the right, with its round bit and its sticky bit. -/
def shifted (n k : Nat) : ExtendedMantissa :=
  ⟨n / 2 ^ k, decide (2 ^ k ≤ 2 * (n % 2 ^ k)), decide (2 * (n % 2 ^ k) % 2 ^ k ≠ 0)⟩

theorem shifted_zero (n : Nat) : shifted n 0 = ⟨n, false, false⟩ := by
  simp [shifted, Nat.mod_one]

theorem shiftRightOne_shifted (n k : Nat) : (shifted n k).shiftRightOne = shifted n (k + 1) := by
  have hpos : 0 < 2 ^ k := Nat.two_pow_pos k
  have hmod : n % 2 ^ (k + 1) = n % 2 ^ k + 2 ^ k * (n / 2 ^ k % 2) := Nat.mod_pow_succ
  have hlt : n % 2 ^ k < 2 ^ k := Nat.mod_lt n hpos
  have hbit : n / 2 ^ k % 2 = 0 ∨ n / 2 ^ k % 2 = 1 := Nat.mod_two_eq_zero_or_one _
  have hrest : 2 * (n % 2 ^ (k + 1)) % 2 ^ (k + 1) = 2 * (n % 2 ^ k) := by
    have hdvd : 2 ^ k ∣ 2 ^ (k + 1) := Nat.pow_dvd_pow 2 (Nat.le_succ k)
    rw [Nat.pow_succ', Nat.mul_mod_mul_left, ← Nat.pow_succ', Nat.mod_mod_of_dvd n hdvd]
  have hround : (n / 2 ^ k % 2 != 0) = decide (2 ^ (k + 1) ≤ 2 * (n % 2 ^ (k + 1))) := by
    rw [Bool.eq_iff_iff, bne_iff_ne, decide_eq_true_iff, hmod, Nat.pow_succ']
    rcases hbit with h | h
    · rw [h]; omega
    · rw [h]; omega
  have hsticky : (decide (2 ^ k ≤ 2 * (n % 2 ^ k)) || decide (2 * (n % 2 ^ k) % 2 ^ k ≠ 0)) =
      decide (2 * (n % 2 ^ (k + 1)) % 2 ^ (k + 1) ≠ 0) := by
    rw [Bool.eq_iff_iff, Bool.or_eq_true, decide_eq_true_iff, decide_eq_true_iff,
      decide_eq_true_iff, hrest]
    rcases Nat.lt_or_ge (2 * (n % 2 ^ k)) (2 ^ k) with h | h
    · rw [Nat.mod_eq_of_lt h]; omega
    · omega
  rw [shifted, ExtendedMantissa.shiftRightOne, shifted]
  simp only [ExtendedMantissa.mk.injEq]
  refine ⟨?_, hround, hsticky⟩
  rw [Nat.div_div_eq_div_mul, ← Nat.pow_succ]

theorem repeat_shiftRightOne (n k : Nat) :
    (⟨n, false, false⟩ : ExtendedMantissa) >>> k = shifted n k := by
  show k.repeat ExtendedMantissa.shiftRightOne ⟨n, false, false⟩ = shifted n k
  induction k with
  | zero => exact (shifted_zero n).symm
  | succ k ih => rw [Nat.repeat, ih, shiftRightOne_shifted]

theorem roundedMantissa_shifted (n k : Nat) : (shifted n k).roundedMantissa = halfEven n k := by
  have hlt : n % 2 ^ k < 2 ^ k := Nat.mod_lt n (Nat.two_pow_pos k)
  rcases halfEven_cases n k with ⟨h, heq⟩ | ⟨h, heq⟩ | ⟨h, heq⟩
  · have hround : decide (2 ^ k ≤ 2 * (n % 2 ^ k)) = false := decide_eq_false (by omega)
    rw [heq, shifted, hround]
    cases decide (2 * (n % 2 ^ k) % 2 ^ k ≠ 0) <;> rfl
  · have hround : decide (2 ^ k ≤ 2 * (n % 2 ^ k)) = true := decide_eq_true (by omega)
    have hsticky : decide (2 * (n % 2 ^ k) % 2 ^ k ≠ 0) = false := by
      rw [h, Nat.mod_self]
      rfl
    rw [heq, shifted, hround, hsticky]
    rfl
  · have hround : decide (2 ^ k ≤ 2 * (n % 2 ^ k)) = true := decide_eq_true (by omega)
    have hsticky : decide (2 * (n % 2 ^ k) % 2 ^ k ≠ 0) = true := by
      refine decide_eq_true ?_
      rw [Nat.mod_eq_sub_mod (by omega), Nat.mod_eq_of_lt (by omega)]
      omega
    rw [heq, shifted, hround, hsticky]
    rfl

theorem shiftToTargetExponent_eq (m : Nat) {e : Int} (he : -1074 ≤ e) :
    shiftToTargetExponent Format.binary64 m e .exact = (shifted m (spare m), e + spare m) := by
  have htarget : (Format.binary64.targetExponent (totalExponent m e) - e).toNat = spare m := by
    simp only [Format.targetExponent, totalExponent, Format.mantissaBits, Format.minExponent, spare]
    omega
  rw [shiftToTargetExponent, shiftToExponent, htarget]
  exact Prod.ext (repeat_shiftRightOne m (spare m)) rfl

theorem roundWithAccuracy_eq (s : Sign) (m : Nat) {e : Int} (he : -1074 ≤ e) :
    let r := halfEven m (spare m)
    roundWithAccuracy Format.binary64 s m e .exact =
      if h : r / 2 ^ spare r = 0 then .zero s
      else .finite s (r / 2 ^ spare r) (e + spare m + spare r) (Nat.pos_of_ne_zero h) := by
  intro r
  have hr : (shifted m (spare m)).roundedMantissa = r := roundedMantissa_shifted m (spare m)
  rw [roundWithAccuracy, shiftToTargetExponent_eq m he]
  dsimp only
  rw [hr, shiftToTargetExponent_eq r (by omega)]
  rfl

/-! ## Packing -/

theorem unpackSign_packComponents {spec : Format} {sign : Sign} {exponent mantissa} :
    unpackSign (packComponents spec sign exponent mantissa) = sign.toBitVec := by
  ext i hi
  obtain rfl : i = 0 := by omega
  have h : ¬ spec.mantissaBitsWithoutImplicit + spec.exponentBits <
      spec.mantissaBitsWithoutImplicit := by omega
  simp [unpackSign, packComponents, BitVec.getLsbD_append, BitVec.getElem_append, h]

theorem ofBitVec_toBitVec (s : Sign) : Sign.ofBitVec s.toBitVec = s := by cases s <;> rfl

/-- The exponent of a number in canonical form is neither of the two that are set apart. -/
theorem biased_ne {n : Nat} (h : 0 < n) (h' : n < 2047) :
    (BitVec.ofNat 11 n).toNat = n ∧ BitVec.ofNat 11 n ≠ -1#11 ∧ BitVec.ofNat 11 n ≠ 0#11 := by
  have htoNat : (BitVec.ofNat 11 n).toNat = n := by
    rw [BitVec.toNat_ofNat, Nat.mod_eq_of_lt (by omega)]
  refine ⟨htoNat, fun heq => ?_, fun heq => ?_⟩
  · have hvalue : n = 2047 := htoNat.symm.trans (congrArg BitVec.toNat heq)
    omega
  · have hvalue : n = 0 := htoNat.symm.trans (congrArg BitVec.toNat heq)
    omega

/-- The leading digit, which is left out in the packed form, is put back. -/
theorem toNat_leading_append {m : Nat} (hm : 2 ^ 52 ≤ m) (hm' : m < 2 ^ 53) :
    (1#1 ++ BitVec.ofNat 52 m).toNat = m := by
  rw [BitVec.toNat_append, BitVec.toNat_ofNat, BitVec.toNat_ofNat,
    ← Nat.shiftLeft_add_eq_or_of_lt (Nat.mod_lt _ (by decide)), Nat.shiftLeft_eq]
  omega

theorem unpack_pack_finite (s : Sign) {m : Nat} {e : Int} (hm : 2 ^ 52 ≤ m) (hm' : m < 2 ^ 53)
    (he : -1074 ≤ e) (he' : e ≤ 971) (hpos : 0 < m) :
    (Float.Model.pack (.finite s m e hpos)).unpack = .finite s m e hpos := by
  have hlog : m.log2 = 52 := (Nat.log2_eq_iff hpos.ne').2 ⟨hm, hm'⟩
  have hbias : (Format.binary64.exponentBias : Int) = 1023 := by decide
  obtain ⟨hexponent, hlast, hfirst⟩ := biased_ne (n := (e + 1075).toNat) (by omega) (by omega)
  have hpack : UnpackedFloat.pack Format.binary64 (.finite s m e hpos) =
      packComponents Format.binary64 s (BitVec.ofNat 11 (e + 1075).toNat) (BitVec.ofNat 52 m) := by
    have hbiased : e + Format.binary64.exponentBias + ((52 : Nat) : Int) = e + 1075 := by
      rw [hbias]
      omega
    rw [UnpackedFloat.pack]
    dsimp only
    rw [hbiased, hlog, if_neg (by omega), if_pos (by decide)]
  have hunbiased : ((e + 1075).toNat : Int) -
      (Format.binary64.exponentBias + ((52 : Nat) : Int)) = e := by
    rw [hbias]
    omega
  rw [Float.Model.unpack, Float.Model.pack]
  dsimp only
  rw [hpack, UnpackedFloat.unpack]
  simp only [unpackMantissa_packComponents, unpackExponent_packComponents,
    unpackSign_packComponents, ofBitVec_toBitVec, if_neg hlast, if_neg hfirst, hexponent,
    hunbiased, toNat_leading_append hm hm']

/-! ## Doubles that are whole numbers -/

/-- The number is in the form that a double is unpacked to, and it is this whole number. -/
def Denotes : UnpackedFloat → Int → Prop
  | .zero _, v => v = 0
  | .finite s m e _, v => 2 ^ 52 ≤ m ∧ m < 2 ^ 53 ∧ -52 ≤ e ∧ e ≤ 971 ∧
      s.apply (m * 2 ^ (e + 52).toNat : Nat) = v * 2 ^ 52
  | _, _ => False

theorem Denotes.unpack_pack {u : UnpackedFloat} {v : Int} (h : Denotes u v) :
    (Float.Model.pack u).unpack = u := by
  cases u with
  | zero s => cases s <;> rfl
  | finite s m e hpos =>
    obtain ⟨hm, hm', he, he', -⟩ := h
    exact unpack_pack_finite s hm hm' (by omega) he' hpos
  | infinity s => cases h
  | notANumber => cases h

theorem Denotes.neg {u : UnpackedFloat} {v : Int} (h : Denotes u v) : Denotes u.neg (-v) := by
  cases u with
  | zero s => exact (congrArg Neg.neg h).trans Int.neg_zero
  | finite s m e hpos =>
    obtain ⟨hm, hm', he, he', hv⟩ := h
    refine ⟨hm, hm', he, he', ?_⟩
    rw [Int.neg_mul, ← hv]
    cases s with
    | positive => rfl
    | negative => exact (Int.neg_neg _).symm
  | infinity s => cases h
  | notANumber => cases h

/-- A carry into one digit more is shifted away again. -/
theorem div_two_pow_spare {r : Nat} (h : 2 ^ 52 ≤ r) (h' : r ≤ 2 ^ 53) :
    2 ^ 52 ≤ r / 2 ^ spare r ∧ r / 2 ^ spare r < 2 ^ 53 ∧
      r / 2 ^ spare r * 2 ^ spare r = r := by
  rcases Nat.lt_or_eq_of_le h' with hlt | rfl
  · rw [spare_of_lt hlt, Nat.pow_zero, Nat.div_one, Nat.mul_one]
    exact ⟨h, hlt, rfl⟩
  · decide

/-- A mantissa that is long enough is rounded to a number in canonical form. -/
theorem denotes_roundWithAccuracy (s : Sign) {m : Nat} {e v : Int} (hm : 2 ^ 52 ≤ m)
    (hlow : -1074 ≤ e) (he : -52 ≤ e + spare m)
    (he' : e + spare m + spare (halfEven m (spare m)) ≤ 971)
    (hv : s.apply (halfEven m (spare m) * 2 ^ (e + spare m + 52).toNat : Nat) = v * 2 ^ 52) :
    Denotes (roundWithAccuracy Format.binary64 s m e .exact) v := by
  obtain ⟨hr, hr', hvalue⟩ :=
    div_two_pow_spare (two_pow_le_halfEven_spare hm) (halfEven_spare_le m)
  rw [roundWithAccuracy_eq s m hlow, dif_neg (by omega)]
  refine ⟨hr, hr', by omega, he', ?_⟩
  rw [← hv]
  generalize halfEven m (spare m) = r at hvalue
  have hexponent : (e + spare m + spare r + 52).toNat =
      spare r + (e + spare m + 52).toNat := by omega
  rw [hexponent, Nat.pow_add, ← Nat.mul_assoc, hvalue]

/-- The number is kept by a product with one. -/
theorem Denotes.mul_one {u : UnpackedFloat} {v : Int} (h : Denotes u v) :
    Denotes (u.mul Format.binary64 (.finite .positive (2 ^ 52) (-52) (by decide))) v := by
  cases u with
  | zero s => cases s <;> exact h
  | finite s m e hpos =>
    obtain ⟨hm, hm', he, he', hv⟩ := h
    have hspare : spare (m * 2 ^ 52) = 52 := by
      rw [spare_mul_two_pow hm, spare_of_lt hm']
    have hround : halfEven (m * 2 ^ 52) 52 = m := by
      rw [← Nat.zero_add 52, halfEven_mul_two_pow, halfEven_zero]
    have hexponent : e + -52 + ((52 : Nat) : Int) = e := by omega
    have hsign : s * .positive = s := by cases s <;> rfl
    show Denotes (roundWithAccuracy Format.binary64 (s * .positive) (m * 2 ^ 52) (e + -52) .exact) v
    rw [hsign]
    refine denotes_roundWithAccuracy s (by omega) (by omega) ?_ ?_ ?_ <;> rw [hspare, hexponent]
    · exact he
    · rw [hround, spare_of_lt hm']
      omega
    · rw [hround]
      exact hv
  | infinity s => cases h
  | notANumber => cases h

/-- A number of up to 53 digits is filled up with zeros. -/
theorem denotes_ofNat_of_lt {n : Nat} (hn : n < 2 ^ 53) :
    Denotes (UnpackedFloat.ofNat Format.binary64 n) n := by
  rcases Nat.eq_zero_or_pos n with rfl | hpos
  · rfl
  have hlog : n.log2 ≤ 52 := Nat.lt_succ_iff.1 ((Nat.log2_lt hpos.ne').2 hn)
  obtain ⟨k, hk⟩ : ∃ k, n.log2 + k = 52 := ⟨52 - n.log2, by omega⟩
  have hfilled : (n * 2 ^ k).log2 = 52 := (log2_mul_two_pow hpos k).trans hk
  have hne : n * 2 ^ k ≠ 0 := (Nat.mul_pos hpos (Nat.two_pow_pos k)).ne'
  obtain ⟨hm, hm'⟩ := (Nat.log2_eq_iff hne).1 hfilled
  have hround : UnpackedFloat.ofNat Format.binary64 n =
      roundWithAccuracy Format.binary64 .positive (n * 2 ^ k) (-k) .exact := by
    have hsign : compare (n : Int) 0 = .gt := compare_gt_iff_gt.2 (by omega)
    have hshift : ((0 : Int) - Format.binary64.targetExponent (totalExponent n 0)).toNat = k := by
      simp only [Format.targetExponent, totalExponent, Format.mantissaBits, Format.minExponent]
      omega
    rw [UnpackedFloat.ofNat, UnpackedFloat.ofInt, UnpackedFloat.normalize, hsign]
    dsimp only
    rw [Int.toNat_natCast, UnpackedFloat.round, decreaseExponent, hshift, Nat.shiftLeft_eq,
      Int.zero_sub]
  rw [hround]
  refine denotes_roundWithAccuracy .positive hm (by omega) ?_ ?_ ?_ <;> rw [spare_of_lt hm']
  · omega
  · rw [halfEven_zero, spare_of_lt hm']
    omega
  · have hexponent : (-(k : Int) + ((0 : Nat) : Int) + 52).toNat = n.log2 := by omega
    rw [halfEven_zero, hexponent, Nat.mul_assoc, ← Nat.pow_add, Nat.add_comm k, hk]
    exact Int.natCast_mul n (2 ^ 52)

theorem unpack_one : (Float.exactlyRepresentablePowersOfTen[0]).toModel.unpack =
    .finite .positive (2 ^ 52) (-52) (by decide) := by
  rfl

/-- A whole number of 64 bits becomes the double that is nearest to it. -/
theorem denotes_floatOfNat {n : Nat} (h : n < 2 ^ 64) :
    Denotes (Float.ofNat n).toModel.unpack (nearestNat n) := by
  rcases Nat.lt_or_ge n (2 ^ 53) with hlt | hge
  · -- a number of up to 53 digits is made a double and multiplied by one
    have hfast : Float.ofNat n =
        n.toUInt64.toFloat * Float.exactlyRepresentablePowersOfTen[0] := by
      show Float.ofScientific n false 0 = _
      rw [Float.ofScientific, dif_pos ⟨hlt, by decide⟩]
      rfl
    have hword : n.toUInt64.toNat = n := Nat.mod_eq_of_lt h
    have hmade : Denotes (n.toUInt64.toFloat).toModel.unpack n := by
      show Denotes
        (Float.Model.pack (UnpackedFloat.ofNat Format.binary64 n.toUInt64.toNat)).unpack n
      rw [hword, (denotes_ofNat_of_lt hlt).unpack_pack]
      exact denotes_ofNat_of_lt hlt
    have hproduct := hmade.mul_one
    rw [← unpack_one] at hproduct
    rw [hfast, nearestNat_of_lt hlt]
    show Denotes (Float.Model.pack (UnpackedFloat.mul Format.binary64 _ _)).unpack n
    rw [hproduct.unpack_pack]
    exact hproduct
  · -- one of more digits is scaled and rounded
    have hslow : (Float.ofNat n).toModel.unpack = (Float.Model.pack
        (roundWithAccuracy Format.binary64 .positive (n * 2 ^ 53) (-53) .exact)).unpack := by
      have hmodel : Float.ofNat n = Float.ofModel (Float.Model.ofScientific n 0) := by
        show Float.ofScientific n false 0 = _
        rw [Float.ofScientific, dif_neg (by omega)]
        rfl
      have hlarge : ¬ (0 : Int) < -((2 ^ Format.binary64.exponentBits : Int) + n.log2) := by
        show ¬ (0 : Int) < -((2 ^ 11 : Int) + n.log2)
        omega
      rw [hmodel, ← Nat.shiftLeft_eq, ← Nat.mul_one (n <<< 53)]
      show (Float.Model.pack (UnpackedFloat.ofScientific Format.binary64 n 0)).unpack = _
      rw [UnpackedFloat.ofScientific, dif_neg (by omega), if_neg (by decide), if_neg hlarge,
        if_pos (by decide)]
      rfl
    have hspare : spare (n * 2 ^ 53) = spare n + 53 := spare_mul_two_pow (by omega) 53
    have hcarry : spare (halfEven n (spare n)) ≤ 1 :=
      spare_le (Nat.lt_of_le_of_lt (halfEven_spare_le n) (by decide))
    have hdigits : spare n ≤ 11 := spare_le h
    have hexponent : -53 + ((spare n + 53 : Nat) : Int) = spare n := by omega
    have hrounded : Denotes (roundWithAccuracy Format.binary64 .positive (n * 2 ^ 53) (-53) .exact)
        (nearestNat n) := by
      refine denotes_roundWithAccuracy .positive (by omega) (by omega) ?_ ?_ ?_ <;>
        rw [hspare, hexponent]
      · omega
      · rw [halfEven_mul_two_pow]
        omega
      · have htoNat : ((spare n : Int) + 52).toNat = spare n + 52 := by omega
        rw [halfEven_mul_two_pow, htoNat, Nat.pow_add, ← Nat.mul_assoc]
        exact Int.natCast_mul (nearestNat n) (2 ^ 52)
    rw [hslow, hrounded.unpack_pack]
    exact hrounded

/-- A whole number of 64 bits and a sign becomes the double that is nearest to it. -/
theorem denotes_floatOfInt {i : Int} (h : i.natAbs < 2 ^ 64) :
    Denotes (Float.ofInt i).toModel.unpack (nearest i) := by
  cases i with
  | ofNat n => exact denotes_floatOfNat h
  | negSucc n =>
    have hpositive := (denotes_floatOfNat (n := n + 1) h).neg
    show Denotes (Float.Model.pack (Float.ofNat (n + 1)).toModel.unpack.neg).unpack _
    rw [hpositive.unpack_pack]
    exact hpositive

/-! ## The order of doubles -/

/-- Of two numbers in canonical form the one with the larger exponent is larger. -/
theorem lt_of_exponent_lt {m m' a b : Nat} (hm : m < 2 ^ 53) (hm' : 2 ^ 52 ≤ m') (h : a < b) :
    m * 2 ^ a < m' * 2 ^ b := by
  have hcarry : 53 + a = 52 + (a + 1) := by omega
  calc m * 2 ^ a < 2 ^ 53 * 2 ^ a := Nat.mul_lt_mul_of_pos_right hm (Nat.two_pow_pos a)
    _ = 2 ^ 52 * 2 ^ (a + 1) := by rw [← Nat.pow_add, ← Nat.pow_add, hcarry]
    _ ≤ 2 ^ 52 * 2 ^ b := Nat.mul_le_mul_left _ (Nat.pow_le_pow_right (by decide) h)
    _ ≤ m' * 2 ^ b := Nat.mul_le_mul_right _ hm'

theorem compare_magnitude {m m' : Nat} {e e' : Int} (hm : 2 ^ 52 ≤ m) (hlt : m < 2 ^ 53)
    (he : -52 ≤ e) (hm' : 2 ^ 52 ≤ m') (hlt' : m' < 2 ^ 53) (he' : -52 ≤ e') :
    (compare e e').then (compare m m') =
      compare (m * 2 ^ (e + 52).toNat) (m' * 2 ^ (e' + 52).toNat) := by
  rcases lt_trichotomy e e' with h | rfl | h
  · rw [compare_lt_iff_lt.2 h, compare_lt_iff_lt.2 (lt_of_exponent_lt hlt hm' (by omega))]
    rfl
  · rw [compare_eq_iff_eq.2 rfl, Ordering.eq_then]
    exact (compare_mul_right (Nat.two_pow_pos _) m m').symm
  · rw [compare_gt_iff_gt.2 h, compare_gt_iff_gt.2 (lt_of_exponent_lt hlt' hm (by omega))]
    rfl

/-- Numbers of one scale have the order of their multiples. -/
theorem compare_scaled {a b : Nat} {v w : Int} (ha : (a : Int) = v * 2 ^ 52)
    (hb : (b : Int) = w * 2 ^ 52) : compare a b = compare v w := by
  have hcast : compare (a : Int) b = compare a b := by
    rw [← cmp_eq_compare, ← cmp_eq_compare, Int.natCast_strictMono.cmp_map_eq]
  rw [← hcast, ha, hb, ← cmp_eq_compare, ← cmp_eq_compare, cmp_mul_pos_right (by decide)]

/-- Among negative numbers the order of the magnitudes is turned round. -/
theorem swap_compare_neg (v w : Int) : (compare (-v) (-w)).swap = compare v w := by
  rw [← cmp_eq_compare, ← cmp_eq_compare, cmp_swap]
  exact StrictAnti.cmp_map_eq (f := Neg.neg) (fun _ _ => Int.neg_lt_neg) w v

/-- A mantissa and an exponent in canonical form, and how many parts of `2 ^ 52` to one they are. -/
def Canonical (m : Nat) (e : Int) (parts : Int) : Prop :=
  2 ^ 52 ≤ m ∧ m < 2 ^ 53 ∧ -52 ≤ e ∧ (m * 2 ^ (e + 52).toNat : Nat) = parts

theorem Denotes.sign_cases {u : UnpackedFloat} {v : Int} (h : Denotes u v) :
    (∃ s, u = .zero s ∧ v = 0) ∨
    (∃ m e hpos, u = .finite .positive m e hpos ∧ 0 < v ∧ Canonical m e (v * 2 ^ 52)) ∨
    (∃ m e hpos, u = .finite .negative m e hpos ∧ v < 0 ∧ Canonical m e (-v * 2 ^ 52)) := by
  cases u with
  | infinity s => cases h
  | notANumber => cases h
  | zero s => exact .inl ⟨s, rfl, h⟩
  | finite s m e hpos =>
    obtain ⟨hm, hm', he, -, hv⟩ := h
    have hparts : 0 < m * 2 ^ (e + 52).toNat := Nat.mul_pos hpos (Nat.two_pow_pos _)
    refine .inr ?_
    cases s with
    | positive =>
      have hv : ((m * 2 ^ (e + 52).toNat : Nat) : Int) = v * 2 ^ 52 := hv
      exact .inl ⟨m, e, hpos, rfl, by omega, hm, hm', he, hv⟩
    | negative =>
      have hv : -((m * 2 ^ (e + 52).toNat : Nat) : Int) = v * 2 ^ 52 := hv
      exact .inr ⟨m, e, hpos, rfl, by omega, hm, hm', he, by omega⟩

theorem Canonical.compare_eq {m m' : Nat} {e e' v w : Int} (h : Canonical m e (v * 2 ^ 52))
    (h' : Canonical m' e' (w * 2 ^ 52)) : (compare e e').then (compare m m') = compare v w := by
  obtain ⟨hm, hlt, he, hv⟩ := h
  obtain ⟨hm', hlt', he', hw⟩ := h'
  rw [compare_magnitude hm hlt he hm' hlt' he', compare_scaled hv hw]

/-- Doubles that are whole numbers have the order of these numbers. -/
theorem Denotes.compare_eq {u w : UnpackedFloat} {v v' : Int} (h : Denotes u v)
    (h' : Denotes w v') : u.compare w = some (compare v v') := by
  have lt : v < v' → compare v v' = .lt := compare_lt_iff_lt.2
  have gt : v' < v → compare v v' = .gt := compare_gt_iff_gt.2
  rcases h.sign_cases with ⟨s, rfl, rfl⟩ | ⟨m, e, hpos, rfl, hv, hc⟩ | ⟨m, e, hpos, rfl, hv, hc⟩
  · rcases h'.sign_cases with ⟨s', rfl, rfl⟩ | ⟨m', e', hpos', rfl, hv', -⟩ |
      ⟨m', e', hpos', rfl, hv', -⟩
    · rfl
    · exact congrArg some (lt hv').symm
    · exact congrArg some (gt hv').symm
  · rcases h'.sign_cases with ⟨s', rfl, rfl⟩ | ⟨m', e', hpos', rfl, hv', hc'⟩ |
      ⟨m', e', hpos', rfl, hv', -⟩
    · exact congrArg some (gt hv).symm
    · exact congrArg some (hc.compare_eq hc')
    · exact congrArg some (gt (hv'.trans hv)).symm
  · rcases h'.sign_cases with ⟨s', rfl, rfl⟩ | ⟨m', e', hpos', rfl, hv', -⟩ |
      ⟨m', e', hpos', rfl, hv', hc'⟩
    · exact congrArg some (lt hv).symm
    · exact congrArg some (lt (hv.trans hv')).symm
    · show some ((compare e e').then (compare m m')).swap = _
      rw [hc.compare_eq hc', swap_compare_neg]

/-- The double of a whole number, compared with that of another. -/
theorem floatOfInt_compare {i j : Int} (hi : i.natAbs < 2 ^ 64) (hj : j.natAbs < 2 ^ 64) :
    (Float.ofInt i < Float.ofInt j ↔ nearest i < nearest j) ∧
      ((Float.ofInt i == Float.ofInt j) = true ↔ nearest i = nearest j) := by
  have h := (denotes_floatOfInt hi).compare_eq (denotes_floatOfInt hj)
  constructor
  · show decide ((Float.ofInt i).toModel.lt (Float.ofInt j).toModel = true) = true ↔ _
    rw [decide_eq_true_iff, Float.Model.lt, UnpackedFloat.lt, h, beq_iff_eq, Option.some_inj,
      compare_lt_iff_lt]
  · show ((Float.ofInt i).toModel.beq (Float.ofInt j).toModel) = true ↔ _
    rw [Float.Model.beq, UnpackedFloat.beq, h, beq_iff_eq, Option.some_inj, compare_eq_iff_eq]

end MappedSql.Decimal
