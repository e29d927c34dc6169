import Mathlib.Algebra.Ring.Int.Parity
import Mathlib.Data.Nat.Prime.Basic
import MappedSql.Cache.Key

/- What a key's hashcode tells of the places of its components.

   The hash of a component counts in the hashcode with a weight that its place and the number of
   components decide (`weight`): with another hash in its place, the hashcode moves by the
   difference of the two times the weight (`ofHashes_set`). Words wrap, so a weight may lose what it
   is multiplied with. An odd weight loses nothing (`Word.mul_sub_ne_zero`), and the weight is odd if
   the place is, counted from one, since 37 is odd (`odd_weight`). So another hash at an odd place is
   always seen. Two hashes that change places move the hashcode by the difference of their weights,
   which is odd at an odd distance (`odd_weight_sub`), so they are seen as well, in lists of every
   length and for any hashes (`Key.hashcode_places`). At an even place the topmost bit of a hash is
   never seen (`Key.hashcode_top`). -/
namespace MappedSql

/-! ## Odd words -/

namespace Word

theorem odd_ofNat {n : Nat} : Odd (UInt64.ofNat n).toNat ↔ Odd n := by
  rw [UInt64.toNat_ofNat', Nat.odd_iff, Nat.odd_iff, Nat.mod_mod_of_dvd _ (by decide)]

theorem odd_mul {v w : UInt64} : Odd (v * w).toNat ↔ Odd v.toNat ∧ Odd w.toNat := by
  rw [UInt64.toNat_mul, ← Nat.odd_mul, Nat.odd_iff, Nat.odd_iff,
    Nat.mod_mod_of_dvd _ (by decide)]

theorem odd_pow {v : UInt64} (h : Odd v.toNat) (n : Nat) : Odd (v ^ n).toNat := by
  induction n with
  | zero => exact odd_one
  | succ n ih =>
    rw [UInt64.pow_succ]
    exact odd_mul.2 ⟨ih, h⟩

theorem odd_sub {v w : UInt64} : Odd (v - w).toNat ↔ (Odd v.toNat ↔ ¬ Odd w.toNat) := by
  have hw := w.toNat_lt
  rw [UInt64.toNat_sub, Nat.odd_iff, Nat.odd_iff, Nat.odd_iff]
  omega

/-- A product with an odd word loses nothing: it has no factor in common with the number of
words. -/
theorem mul_sub_ne_zero {w d d' : UInt64} (hw : Odd w.toNat) (h : d ≠ d') : w * (d - d') ≠ 0 := by
  intro hzero
  have hdvd : 2 ^ 64 ∣ w.toNat * (d - d').toNat := by
    rw [Nat.dvd_iff_mod_eq_zero, ← UInt64.toNat_mul, hzero]
    rfl
  have hcoprime : Nat.Coprime (2 ^ 64) w.toNat := (Nat.coprime_two_left.2 hw).pow_left 64
  have hsub : (d - d').toNat = 0 :=
    Nat.eq_zero_of_dvd_of_lt (hcoprime.dvd_of_dvd_mul_left hdvd) (d - d').toNat_lt
  have heq : d - d' = 0 := UInt64.toNat.inj hsub
  rw [UInt64.sub_eq_iff_eq_add, UInt64.zero_add] at heq
  exact h heq

/-- The topmost bit. -/
def top : UInt64 := 0x8000000000000000

theorem top_ne_zero : top ≠ 0 := by decide

/-- Of an even multiple of the topmost bit nothing is left. -/
theorem mul_top {w : UInt64} (hw : ¬ Odd w.toNat) : w * top = 0 := by
  rw [Nat.not_odd_iff_even] at hw
  obtain ⟨m, hm⟩ := hw
  have htop : top.toNat = 2 ^ 63 := rfl
  refine UInt64.toNat.inj ?_
  rw [UInt64.toNat_mul, htop, hm, UInt64.toNat_zero]
  omega

end Word

namespace Cache

namespace Fingerprint

/-- With these words more in the hashcode and in the checksum. -/
def shift (f : Fingerprint) (d e : UInt64) : Fingerprint :=
  { f with hashcode := f.hashcode + d, checksum := f.checksum + e }

@[simp] theorem shift_zero (f : Fingerprint) : f.shift 0 0 = f := by simp [shift]

@[simp] theorem shift_shift (f : Fingerprint) (d d' e e' : UInt64) :
    (f.shift d e).shift d' e' = f.shift (d + d') (e + e') := by
  simp [shift, UInt64.add_assoc]

theorem shift_hashcode_ne (f : Fingerprint) {d : UInt64} (hd : d ≠ 0) (e : UInt64) :
    (f.shift d e).hashcode ≠ f.hashcode := by
  simpa [shift] using hd

theorem shift_add (f : Fingerprint) (d e h : UInt64) :
    (f.shift d e).add h = (f.add h).shift (37 * d) e := by
  have hcode : 37 * (f.hashcode + d) + h * UInt64.ofNat (f.count + 1) =
      37 * f.hashcode + h * UInt64.ofNat (f.count + 1) + 37 * d := by grind
  have hsum : f.checksum + e + h = f.checksum + h + e := by grind
  simp only [shift, add, hcode, hsum]

/-- What a shift comes to once more components are added. -/
theorem shift_foldl (hs : List UInt64) (f : Fingerprint) (d e : UInt64) :
    hs.foldl add (f.shift d e) = (hs.foldl add f).shift (37 ^ hs.length * d) e := by
  induction hs generalizing f d with
  | nil => simp
  | cons h hs ih =>
    have hpow : (37 : UInt64) ^ hs.length * (37 * d) = 37 ^ (h :: hs).length * d := by
      rw [List.length_cons, UInt64.pow_succ, UInt64.mul_assoc]
    rw [List.foldl_cons, List.foldl_cons, shift_add, ih, hpow]

theorem foldl_count (hs : List UInt64) (f : Fingerprint) :
    (hs.foldl add f).count = f.count + hs.length := by
  induction hs generalizing f with
  | nil => rfl
  | cons h hs ih => rw [List.foldl_cons, ih, add_count, List.length_cons]; omega

/-- Another hash in place of one that is added. -/
theorem add_eq_shift (f : Fingerprint) (h h' : UInt64) :
    f.add h' = (f.add h).shift (UInt64.ofNat (f.count + 1) * (h' - h)) (h' - h) := by
  have hcode : 37 * f.hashcode + h' * UInt64.ofNat (f.count + 1) =
      37 * f.hashcode + h * UInt64.ofNat (f.count + 1) +
        UInt64.ofNat (f.count + 1) * (h' - h) := by grind
  have hsum : f.checksum + h' = f.checksum + h + (h' - h) := by grind
  simp only [shift, add, hcode, hsum]

/-! ## The weight of a place -/

/-- How many times the hash at a place, counted from zero, is in the hashcode of `n` components. -/
def weight (n i : Nat) : UInt64 := 37 ^ (n - (i + 1)) * UInt64.ofNat (i + 1)

theorem odd_weight {n i : Nat} : Odd (weight n i).toNat ↔ Odd (i + 1) := by
  have h37 : Odd ((37 : UInt64) ^ (n - (i + 1))).toNat := Word.odd_pow (by decide) _
  rw [weight, Word.odd_mul, Word.odd_ofNat]
  exact and_iff_right h37

/-- Of the weights of two places at an odd distance one is odd and one is not. -/
theorem odd_weight_sub {n i j : Nat} :
    Odd (weight n i - weight n j).toNat ↔ Odd ((i : Int) - j) := by
  rw [Word.odd_sub, odd_weight, odd_weight, Nat.odd_iff, Nat.odd_iff, Int.odd_iff]
  omega

/-- Another hash at one of the places. -/
theorem ofHashes_set (hs : List UInt64) {i : Nat} (hi : i < hs.length) (h : UInt64) :
    ofHashes (hs.set i h) = (ofHashes hs).shift (weight hs.length i * (h - hs[i])) (h - hs[i]) := by
  have hsplit : hs.take i ++ hs[i] :: hs.drop (i + 1) = hs := by simp
  -- up to the place both lists come to the same, and behind it they differ by a shift
  have hcount : ((hs.take i).foldl add empty).count = i := by
    rw [foldl_count, List.length_take, Nat.min_eq_left (Nat.le_of_lt hi)]
    exact Nat.zero_add i
  have hlength : (hs.drop (i + 1)).length = hs.length - (i + 1) := List.length_drop
  have hbefore : ofHashes hs =
      (hs.drop (i + 1)).foldl add (((hs.take i).foldl add empty).add hs[i]) := by
    rw [ofHashes]
    conv => lhs; rw [← hsplit]
    rw [List.foldl_append, List.foldl_cons]
  have hafter : ofHashes (hs.set i h) =
      (hs.drop (i + 1)).foldl add (((hs.take i).foldl add empty).add h) := by
    rw [ofHashes, List.set_eq_take_append_cons_drop, if_pos hi, List.foldl_append,
      List.foldl_cons]
  rw [hafter, hbefore, add_eq_shift _ hs[i] h, shift_foldl, hcount, hlength, ← UInt64.mul_assoc,
    weight]

/-- Two hashes that change places. The hashes are the same in all, and so is their sum. -/
theorem ofHashes_exchange (hs : List UInt64) {i j : Nat} (hi : i < hs.length) (hj : j < hs.length)
    (hij : i ≠ j) :
    ofHashes ((hs.set i hs[j]).set j hs[i]) =
      (ofHashes hs).shift ((weight hs.length i - weight hs.length j) * (hs[j] - hs[i])) 0 := by
  have hj' : j < (hs.set i hs[j]).length := by rwa [List.length_set]
  have hcode : weight hs.length i * (hs[j] - hs[i]) + weight hs.length j * (hs[i] - hs[j]) =
      (weight hs.length i - weight hs.length j) * (hs[j] - hs[i]) := by grind
  have hsum : hs[j] - hs[i] + (hs[i] - hs[j]) = 0 := by grind
  rw [ofHashes_set _ hj', List.getElem_set_ne hij, List.length_set, ofHashes_set _ hi, shift_shift,
    hcode, hsum]

end Fingerprint

namespace Key

/-- The fingerprint of a key under any hash of components. -/
def fingerprintBy (hash : Value → UInt64) (k : Key) : Fingerprint :=
  .ofHashes (k.components.map hash)

theorem fingerprintBy_componentHash (k : Key) : k.fingerprintBy componentHash = k.fingerprint := rfl

/-- The key with another component at a place. -/
def replace (k : Key) (i : Fin k.components.length) (c : Value) : Key :=
  ⟨k.components.set i c⟩

/-- The key in which two components have changed places. -/
def exchange (k : Key) (i j : Fin k.components.length) : Key :=
  ⟨(k.components.set i k.components[j]).set j k.components[i]⟩

theorem fingerprintBy_replace (hash : Value → UInt64) (k : Key) (i : Fin k.components.length)
    (c : Value) :
    (k.replace i c).fingerprintBy hash = (k.fingerprintBy hash).shift
      (Fingerprint.weight k.components.length i * (hash c - hash k.components[i]))
      (hash c - hash k.components[i]) := by
  have hi : i < (k.components.map hash).length := by simp
  have h := Fingerprint.ofHashes_set _ hi (hash c)
  rw [← List.map_set, List.length_map, List.getElem_map] at h
  exact h

theorem fingerprintBy_exchange (hash : Value → UInt64) (k : Key)
    {i j : Fin k.components.length} (hij : i ≠ j) :
    (k.exchange i j).fingerprintBy hash = (k.fingerprintBy hash).shift
      ((Fingerprint.weight k.components.length i - Fingerprint.weight k.components.length j) *
        (hash k.components[j] - hash k.components[i])) 0 := by
  have hi : i < (k.components.map hash).length := by simp
  have hj : j < (k.components.map hash).length := by simp
  have h := Fingerprint.ofHashes_exchange _ hi hj (Fin.val_ne_of_ne hij)
  rw [List.length_map, List.getElem_map, List.getElem_map, ← List.map_set, ← List.map_set] at h
  exact h

/-- **The hashcode tells the order of the components.** Under any hash, two components whose hashes
differ and which change places at an odd distance change the hashcode, and nothing else of the
fingerprint. A component at an odd place, counted from one, changes the hashcode if one with
another hash takes its place. -/
theorem hashcode_places (hash : Value → UInt64) (k : Key) :
    (∀ i j : Fin k.components.length, Odd ((i : Int) - j) →
      hash k.components[i] ≠ hash k.components[j] →
      ((k.exchange i j).fingerprintBy hash).hashcode ≠ (k.fingerprintBy hash).hashcode ∧
      ((k.exchange i j).fingerprintBy hash).checksum = (k.fingerprintBy hash).checksum ∧
      ((k.exchange i j).fingerprintBy hash).count = (k.fingerprintBy hash).count) ∧
    ∀ (i : Fin k.components.length) (c : Value), Odd ((i : Nat) + 1) →
      hash c ≠ hash k.components[i] →
      ((k.replace i c).fingerprintBy hash).hashcode ≠ (k.fingerprintBy hash).hashcode := by
  constructor
  · intro i j hodd hne
    have hij : i ≠ j := by
      rintro rfl
      simp at hodd
    have hweight : Odd (Fingerprint.weight k.components.length i -
        Fingerprint.weight k.components.length j).toNat := Fingerprint.odd_weight_sub.2 hodd
    have hmoves := Word.mul_sub_ne_zero hweight hne.symm
    rw [fingerprintBy_exchange hash k hij]
    exact ⟨Fingerprint.shift_hashcode_ne _ hmoves 0, UInt64.add_zero _, rfl⟩
  · intro i c hodd hne
    have hweight : Odd (Fingerprint.weight k.components.length i).toNat :=
      Fingerprint.odd_weight.2 hodd
    have hmoves := Word.mul_sub_ne_zero hweight hne
    rw [fingerprintBy_replace]
    exact Fingerprint.shift_hashcode_ne _ hmoves _

/-- A key of four components. -/
def ofFour : Key := ⟨[.num (.int 1), .null, .num (.int 2), .bool true]⟩

/-- The first component and the last, three places apart, and another component in third place. -/
theorem hashcode_places_four :
    (componentHash (.num (.int 1)) ≠ componentHash (.bool true) ∧
      (ofFour.exchange ⟨0, by decide⟩ ⟨3, by decide⟩).fingerprint.hashcode ≠
        ofFour.fingerprint.hashcode ∧
      (ofFour.exchange ⟨0, by decide⟩ ⟨3, by decide⟩).fingerprint.checksum =
        ofFour.fingerprint.checksum ∧
      (ofFour.exchange ⟨0, by decide⟩ ⟨3, by decide⟩).fingerprint.count =
        ofFour.fingerprint.count) ∧
    componentHash .null ≠ componentHash (.num (.int 2)) ∧
      (ofFour.replace ⟨2, by decide⟩ .null).fingerprint.hashcode ≠
        ofFour.fingerprint.hashcode := by
  have hends : componentHash (.num (.int 1)) ≠ componentHash (.bool true) := by decide +kernel
  have hthird : componentHash .null ≠ componentHash (.num (.int 2)) := by decide +kernel
  have h := hashcode_places componentHash ofFour
  simp only [fingerprintBy_componentHash] at h
  exact ⟨⟨hends, h.1 ⟨0, by decide⟩ ⟨3, by decide⟩ (by decide) hends⟩, hthird,
    h.2 ⟨2, by decide⟩ .null (by decide) hthird⟩

/-- At an even place the topmost bit of a hash is not seen, nor is it at two places at an even
distance: there the components of two hashes that differ in it may change places. -/
theorem hashcode_top (hash : Value → UInt64) (k : Key) :
    (∀ i j : Fin k.components.length, Even ((i : Int) - j) →
      hash k.components[j] = hash k.components[i] + Word.top →
      (k.exchange i j).fingerprintBy hash = k.fingerprintBy hash) ∧
    ∀ (i : Fin k.components.length) (c : Value), Even ((i : Nat) + 1) →
      hash c = hash k.components[i] + Word.top →
      ((k.replace i c).fingerprintBy hash).hashcode = (k.fingerprintBy hash).hashcode := by
  have hsub : ∀ h : UInt64, h + Word.top - h = Word.top := by
    intro h
    grind
  constructor
  · intro i j heven htop
    have hij : i ≠ j := by
      rintro rfl
      exact Word.top_ne_zero (UInt64.left_eq_add.1 htop)
    have hweight : ¬ Odd (Fingerprint.weight k.components.length i -
        Fingerprint.weight k.components.length j).toNat := by
      rw [Fingerprint.odd_weight_sub, Int.not_odd_iff_even]
      exact heven
    rw [fingerprintBy_exchange hash k hij, htop, hsub, Word.mul_top hweight,
      Fingerprint.shift_zero]
  · intro i c heven htop
    have hweight : ¬ Odd (Fingerprint.weight k.components.length i).toNat := by
      rw [Fingerprint.odd_weight, Nat.not_odd_iff_even]
      exact heven
    rw [fingerprintBy_replace, htop, hsub, Word.mul_top hweight]
    exact UInt64.add_zero _

end Key

end Cache

end MappedSql
