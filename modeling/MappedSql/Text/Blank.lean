/- Blank characters, and text without the blanks around it.

   A blank is a character with the Unicode property `White_Space`: the ASCII
   blanks with the line and page controls, the two no-break spaces, and the
   typographic spaces. Running text is handled as a list of characters;
   the functions on `String` are the same functions seen from outside. -/
namespace MappedSql.Text

/-- Whether the character separates words, in any script. -/
def isBlank (c : Char) : Bool :=
  let n := c.toNat
  (0x9 ≤ n && n ≤ 0xd) || n == 0x20 || n == 0x85 || n == 0xa0 || n == 0x1680 ||
    (0x2000 ≤ n && n ≤ 0x200a) || n == 0x2028 || n == 0x2029 || n == 0x202f ||
    n == 0x205f || n == 0x3000

/-- The text from its first character that is not blank. -/
def trimLeft (cs : List Char) : List Char := cs.dropWhile isBlank

/-- The text up to its last character that is not blank. -/
def trimRight (cs : List Char) : List Char := (cs.reverse.dropWhile isBlank).reverse

def trimmed (cs : List Char) : List Char := trimRight (trimLeft cs)

def trim (s : String) : String := String.ofList (trimmed s.toList)

def trimStart (s : String) : String := String.ofList (trimLeft s.toList)

def trimEnd (s : String) : String := String.ofList (trimRight s.toList)

/-- Every character that ASCII calls white space is blank. -/
theorem isBlank_of_isWhitespace {c : Char} (h : c.isWhitespace = true) : isBlank c = true := by
  simp only [Char.isWhitespace, Bool.or_eq_true, decide_eq_true_eq] at h
  rcases h with ((rfl | rfl) | rfl) | rfl <;> decide

theorem trimLeft_of_not_isBlank {c : Char} {cs : List Char} (h : isBlank c = false) :
    trimLeft (c :: cs) = c :: cs := by
  simp [trimLeft, h]

theorem trimLeft_of_isBlank {c : Char} {cs : List Char} (h : isBlank c = true) :
    trimLeft (c :: cs) = trimLeft cs := by
  simp [trimLeft, h]

@[simp] theorem trimLeft_nil : trimLeft [] = [] := rfl

@[simp] theorem trimRight_nil : trimRight [] = [] := rfl

@[simp] theorem trimmed_nil : trimmed [] = [] := rfl

/-- Trimming the start only removes characters from the start. -/
theorem trimLeft_suffix (cs : List Char) : trimLeft cs <:+ cs := List.dropWhile_suffix _

end MappedSql.Text
