import MappedSql.Proofs.Expression.Scanning

/- Tokens are read back from any way of writing them.

   The same tokens can be written in many ways: an operator by a sign or by a word, a
   number with zeros in front, a text in either quote and with more backslashes than it
   needs (`WritesText`), and blanks of any kind and number between two tokens
   (`WritesAll`). Whatever a text holds, its quotes and backslashes are escaped, so that
   the first bare quote ends it (`scanText_writes`). Every other token is over at the blank
   behind it, and the scanner takes exactly what was written (`scanAll_writes`). -/
namespace MappedSql.Expression

open Text (isBlank)

/-! ## Ways of writing a token -/

/-- The ways of writing an operator, by signs and by words. -/
def Operator.spellings : Operator → List String
  | .or => ["||", "or"]
  | .and => ["&&", "and"]
  | .not => ["!", "not"]
  | .eq => ["==", "eq"]
  | .ne => ["!=", "neq"]
  | .lt => ["<", "lt"]
  | .le => ["<=", "lte"]
  | .gt => [">", "gt"]
  | .ge => [">=", "gte"]
  | .plus => ["+"]
  | .minus => ["-"]

namespace Token

/-- The characters write the content of a text between two of these quotes: a quote or a backslash
stands behind a backslash, and any other character may. -/
inductive WritesText (quote : Char) : List Char → List Char → Prop where
  | nil : WritesText quote [] []
  | plain {c : Char} {s cs : List Char} (hc : c ≠ quote ∧ c ≠ '\\') (h : WritesText quote s cs) :
      WritesText quote (c :: s) (c :: cs)
  | escaped (c : Char) {s cs : List Char} (h : WritesText quote s cs) :
      WritesText quote (c :: s) ('\\' :: c :: cs)

/-- The characters write the token. -/
inductive Writes : Token → List Char → Prop where
  | name (s : String) : Writes (.name s) s.toList
  | text {quote : Char} {s : String} {cs : List Char} (hq : quote = '\'' ∨ quote = '"')
      (h : WritesText quote s.toList cs) : Writes (.text s) (quote :: (cs ++ [quote]))
  | number {ds : List Char} (hne : ds ≠ []) (h : ∀ d ∈ ds, d.isDigit = true) :
      Writes (.number (.int (Nat.ofDigitChars 10 ds 0))) ds
  | op {o : Operator} {s : String} (h : s ∈ o.spellings) : Writes (.op o) s.toList
  | openParen : Writes .openParen ['(']
  | closeParen : Writes .closeParen [')']
  | openBracket : Writes .openBracket ['[']
  | closeBracket : Writes .closeBracket [']']
  | dot : Writes .dot ['.']

/-- A name that is no word of an operator, a whole number from zero up that a signed word holds, a
text, an operator, a bracket or a dot. -/
def Writable : Token → Prop
  | .name s => isName s.toList = true ∧ s ∉ Operator.words
  | .number (.int i) => 0 ≤ i ∧ i < Word.half
  | .number (.float _) => False
  | _ => True

/-- The characters write the tokens, with a blank or more between two of them. -/
inductive WritesAll : List Token → List Char → Prop where
  | blank {gap : List Char} (h : ∀ c ∈ gap, isBlank c = true) : WritesAll [] gap
  | last {gap w : List Char} {t : Token} (hgap : ∀ c ∈ gap, isBlank c = true) (h : Writes t w) :
      WritesAll [t] (gap ++ w)
  | next {gap w cs : List Char} {b : Char} {t : Token} {ts : List Token}
      (hgap : ∀ c ∈ gap, isBlank c = true) (h : Writes t w) (hb : isBlank b = true)
      (hts : WritesAll ts cs) : WritesAll (t :: ts) (gap ++ (w ++ b :: cs))

/-! ## Every token can be written -/

theorem exists_writesText (quote : Char) (s : List Char) : ∃ cs, WritesText quote s cs := by
  induction s with
  | nil => exact ⟨[], .nil⟩
  | cons c s ih =>
    obtain ⟨cs, h⟩ := ih
    exact ⟨'\\' :: c :: cs, .escaped c h⟩

theorem exists_writes {t : Token} (ht : t.Writable) : ∃ w, Writes t w := by
  cases t with
  | name s => exact ⟨_, .name s⟩
  | text s =>
    obtain ⟨cs, h⟩ := exists_writesText '"' s.toList
    exact ⟨_, .text (.inr rfl) h⟩
  | number n =>
    cases n with
    | int i =>
      obtain ⟨n, rfl⟩ := Int.eq_ofNat_of_zero_le ht.1
      have h := Writes.number (Nat.toDigits_ne_nil (n := n) (b := 10)) fun d hd =>
        Nat.isDigit_of_mem_toDigits (by decide) (by decide) hd
      rw [Nat.ofDigitChars_toDigits (by decide) (by decide)] at h
      exact ⟨_, h⟩
    | float x => exact ht.elim
  | op o => cases o <;> exact ⟨_, .op List.mem_cons_self⟩
  | openParen => exact ⟨_, .openParen⟩
  | closeParen => exact ⟨_, .closeParen⟩
  | openBracket => exact ⟨_, .openBracket⟩
  | closeBracket => exact ⟨_, .closeBracket⟩
  | dot => exact ⟨_, .dot⟩

theorem exists_writesAll {ts : List Token} (hts : ∀ t ∈ ts, t.Writable) :
    ∃ cs, WritesAll ts cs := by
  induction ts with
  | nil => exact ⟨[], .blank (by simp)⟩
  | cons t ts ih =>
    obtain ⟨w, h⟩ := exists_writes (hts t List.mem_cons_self)
    obtain ⟨cs, hcs⟩ := ih fun t' ht' => hts t' (List.mem_cons_of_mem t ht')
    exact ⟨[] ++ (w ++ ' ' :: cs), .next (by simp) h (by decide) hcs⟩

/-! ## What is written is read -/

theorem scanText_writes {quote : Char} {s cs : List Char} (h : WritesText quote s cs)
    (hq : quote ≠ '\\') (rest : List Char) :
    scanText quote (cs ++ quote :: rest) = some (s, rest) := by
  induction h with
  | nil =>
    rw [List.nil_append, scanText, if_pos rfl]
    · exact fun hquote _ => hq hquote
    · exact fun _ _ hquote _ => hq hquote
  | plain hc h ih =>
    rw [List.cons_append, scanText, if_neg hc.1, ih]
    · rfl
    · exact fun hslash _ => hc.2 hslash
    · exact fun _ _ hslash _ => hc.2 hslash
  | escaped c h ih =>
    rw [List.cons_append, List.cons_append, scanText, ih]
    rfl

/-- What ends a token at a blank. -/
theorem isBlank_apart {c : Char} (h : isBlank c = true) :
    c ≠ '=' ∧ inName c = false ∧ inNumber c = false := by
  have hname : inName c = false := Bool.eq_false_iff.2 fun hn => by
    rw [Placeholder.isBlank_of_inName hn] at h
    cases h
  have hdigit : c.isDigit = false := Bool.eq_false_iff.2 fun hd => by
    rw [(digit_apart hd).1] at h
    cases h
  have hne : ∀ d, isBlank d = false → c ≠ d := by
    rintro d hd rfl
    rw [hd] at h
    cases h
  exact ⟨hne '=' (by decide), hname, by simp [inNumber, hdigit, hne '.' (by decide)]⟩

variable {rest : List Char}

theorem scanAll_operator {o : Operator} {s : String} (h : s ∈ o.spellings)
    (hrest : ∀ c ∈ rest.head?, isBlank c = true) :
    scanAll (s.toList ++ rest) = (scanAll rest).map (.op o :: ·) := by
  have hequals : rest.head? ≠ some '=' := fun he => (isBlank_apart (hrest '=' he)).1 rfl
  have hname : ∀ c ∈ rest.head?, inName c = false := fun c hc => (isBlank_apart (hrest c hc)).2.1
  cases o <;> simp only [Operator.spellings, List.mem_cons, List.not_mem_nil, or_false] at h <;>
    rcases h with rfl | rfl
  -- a sign of one token only, a sign that an equals sign would make longer, or a word
  all_goals first
    | exact scanAll_of_scan (by decide) rfl
    | exact scanAll_sign (by decide) hequals
    | exact scanAll_word (by decide) hname

/-- A token that is written before a blank, or at the end, is the first one that is read. -/
theorem scanAll_writes {t : Token} {w : List Char} (ht : t.Writable) (h : Writes t w)
    (hrest : ∀ c ∈ rest.head?, isBlank c = true) :
    scanAll (w ++ rest) = (scanAll rest).map (t :: ·) := by
  cases h with
  | name s =>
    rw [scanAll_word ht.1 fun c hc => (isBlank_apart (hrest c hc)).2.1, String.ofList_toList,
      ofWord_name ht.2]
  | @text quote s cs hq h =>
    have hslash : quote ≠ '\\' := by rcases hq with rfl | rfl <;> decide
    have hread := scanAll_text hq (scanText_writes h hslash rest)
    rw [String.ofList_toList] at hread
    rwa [List.cons_append, List.append_assoc]
  | number hne h =>
    exact scanAll_digits hne h (Int.ofNat_lt.1 ht.2) fun c hc => (isBlank_apart (hrest c hc)).2.2
  | op h => exact scanAll_operator h hrest
  | openParen | closeParen | openBracket | closeBracket | dot =>
    exact scanAll_of_scan (by decide) rfl

theorem scanAll_writesAll {ts : List Token} {cs : List Char} (hts : ∀ t ∈ ts, t.Writable)
    (h : WritesAll ts cs) : scanAll cs = .ok ts := by
  have hnil : scanAll [] = .ok [] := by rw [scanAll]
  induction h with
  | blank hgap =>
    have hread := scanAll_blanks hgap []
    rwa [List.append_nil, hnil] at hread
  | @last gap w t hgap h =>
    have hread : scanAll (w ++ []) = (scanAll []).map (t :: ·) :=
      scanAll_writes (hts t List.mem_cons_self) h (by simp)
    rw [List.append_nil, hnil] at hread
    rw [scanAll_blanks hgap, hread]
    rfl
  | @next gap w cs b t ts hgap h hb _ ih =>
    have hrest : ∀ c ∈ (b :: cs).head?, isBlank c = true := fun c hc => by
      cases hc
      exact hb
    have hblank : scanAll ([b] ++ cs) = scanAll cs := scanAll_blanks (by simpa using hb) cs
    rw [List.singleton_append] at hblank
    rw [scanAll_blanks hgap, scanAll_writes (hts t List.mem_cons_self) h hrest, hblank,
      ih fun t' ht' => hts t' (List.mem_cons_of_mem t ht')]
    rfl

/-- Every list of tokens can be written, and whatever the way in which it is written, it is read
back: names, whole numbers and texts as they are, operators from any of their spellings. -/
theorem scanAll_written {ts : List Token} (hts : ∀ t ∈ ts, t.Writable) :
    (∃ cs, WritesAll ts cs) ∧ ∀ cs, WritesAll ts cs → scanAll cs = .ok ts :=
  ⟨exists_writesAll hts, fun _ h => scanAll_writesAll hts h⟩

/-- A comparison with a text that has a quote in it. -/
theorem scanAll_written_comparison :
    (∀ t ∈ [.name "name", .op .ne, .text "it's"], Writable t) ∧
      WritesAll [.name "name", .op .ne, .text "it's"] " name neq  'it\\'\\s'".toList ∧
      scanAll " name neq  'it\\'\\s'".toList = .ok [.name "name", .op .ne, .text "it's"] := by
  have hts : ∀ t ∈ [.name "name", .op .ne, .text "it's"], Writable t := by
    simp only [List.forall_mem_cons]
    exact ⟨⟨by decide, by decide⟩, trivial, trivial, by simp⟩
  have hspace : ∀ c ∈ [' '], isBlank c = true := List.forall_mem_singleton.2 (by decide)
  have hquoted : WritesText '\'' "it's".toList "it\\'\\s".toList :=
    .plain (by decide) (.plain (by decide) (.escaped '\'' (.escaped 's' .nil)))
  have htext : WritesAll [.text "it's"] ([' '] ++ "'it\\'\\s'".toList) :=
    .last hspace (.text (.inl rfl) hquoted)
  have hop : WritesAll [.op .ne, .text "it's"] ([] ++ ("neq".toList ++ ' ' :: _)) :=
    .next (by simp) (.op (by decide)) (by decide) htext
  have hname : WritesAll [.name "name", .op .ne, .text "it's"]
      ([' '] ++ ("name".toList ++ ' ' :: _)) :=
    .next hspace (.name "name") (by decide) hop
  exact ⟨hts, hname, (scanAll_written hts).2 _ hname⟩

end Token

end MappedSql.Expression
