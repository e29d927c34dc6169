import MappedSql.Decimal.Word

/- Whole numbers from decimal digits.

   A number is read only if all of the text is digits and the number fits its
   range; a plus sign may stand before it, and a minus sign where the range goes
   below zero. -/
namespace MappedSql.Text

/-- The number that the digits write, if there is at least one and there is nothing else. -/
def readNat? (cs : List Char) : Option Nat :=
  if cs.isEmpty || !cs.all Char.isDigit then none
  else some (cs.foldl (fun n c => n * 10 + (c.toNat - '0'.toNat)) 0)

/-- The number below `bound` that the text writes, a plus sign allowed. -/
def readBelow? (bound : Nat) (cs : List Char) : Option Nat :=
  let digits := match cs with
    | '+' :: r => r
    | r => r
  (readNat? digits).bind fun n => if n < bound then some n else none

/-- The number that the text writes, a sign allowed, if a signed word of 64 bits holds it. -/
def readSigned? (cs : List Char) : Option Int :=
  match cs with
  | '-' :: r => (readNat? r).bind fun n => if n ≤ Word.half then some (-n) else none
  | r => (readBelow? Word.half r).map Int.ofNat

/-- The ten digits. -/
def digits : List Char := ['0', '1', '2', '3', '4', '5', '6', '7', '8', '9']

theorem mem_digits {c : Char} (h : c.isDigit = true) : c ∈ digits := by
  have hall : ∀ n ∈ List.range' 48 10, Char.ofNat n ∈ digits := by decide
  simp only [Char.isDigit, Bool.and_eq_true, decide_eq_true_eq, UInt32.le_iff_toNat_le] at h
  have hc := hall c.toNat (List.mem_range'_1.2 ⟨h.1, Nat.lt_succ_of_le h.2⟩)
  rwa [Char.ofNat_toNat] at hc

/-- Digits are read as the number that they write. -/
theorem readNat?_digits {cs : List Char} (hne : cs ≠ []) (h : ∀ c ∈ cs, c.isDigit = true) :
    readNat? cs = some (Nat.ofDigitChars 10 cs 0) := by
  have hstep : ∀ n : Nat, ∀ c : Char, n * 10 + (c.toNat - '0'.toNat) =
      10 * n + (c.toNat - '0'.toNat) := fun n c => by rw [Nat.mul_comm]
  rw [readNat?, List.isEmpty_eq_false_iff.2 hne, List.all_eq_true.2 h, Nat.ofDigitChars]
  simp only [hstep]
  rfl

/-- Digits that write a number below the bound are read as that number. -/
theorem readBelow?_digits {bound : Nat} {cs : List Char} (hne : cs ≠ [])
    (h : ∀ c ∈ cs, c.isDigit = true) (hlt : Nat.ofDigitChars 10 cs 0 < bound) :
    readBelow? bound cs = some (Nat.ofDigitChars 10 cs 0) := by
  have hread : readBelow? bound cs =
      (readNat? cs).bind fun n => if n < bound then some n else none := by
    unfold readBelow?
    split
    · exact absurd (h '+' List.mem_cons_self) (by decide)
    · rfl
  rw [hread, readNat?_digits hne h, Option.bind_some, if_pos hlt]

end MappedSql.Text
