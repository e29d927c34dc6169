/- Whole numbers that a machine word of 64 bits holds. -/
namespace MappedSql.Word

/-- How many numbers a word holds: those below this one, if it has no sign. -/
def count : Nat := 0x10000000000000000

/-- The number of negative numbers that a signed word holds. -/
def half : Nat := 0x8000000000000000

def isSigned (i : Int) : Bool := -(half : Int) ≤ i && i < half

theorem count_eq : count = 2 * half := rfl

theorem isSigned_iff {i : Int} : isSigned i = true ↔ -(half : Int) ≤ i ∧ i < half := by
  simp [isSigned]

end MappedSql.Word
