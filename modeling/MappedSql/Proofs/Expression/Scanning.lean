import MappedSql.Proofs.Parameter.Renaming

/- What is found at the start of a text.

   For each kind of token one lemma says that it is found where it stands, whatever
   follows: a word or a number is over before a character that neither goes on with, the
   signs `!`, `<` and `>` before anything but an equals sign. The kinds do not compete, as
   no character begins two of them (`startsName_apart`, `digit_apart`). -/
namespace MappedSql.Expression

open Text (isBlank span_run mem_digits)

/-! ## Names -/

namespace Token

/-- Whether the characters have the form of a name. -/
def isName : List Char → Bool
  | [] => false
  | c :: cs => startsName c && cs.all inName

theorem inName_of_startsName {c : Char} (h : startsName c = true) : inName c = true := by
  simp only [startsName, Bool.or_eq_true] at h
  rcases h with (h | h) | h
  · simp [inName, Text.isWordChar_of_isLetter h]
  · simp [inName, h]
  · simp [inName, h]

theorem isName_forall {w : List Char} (h : isName w = true) : Placeholder.IsName w := by
  cases w with
  | nil => cases h
  | cons c cs =>
    rw [isName, Bool.and_eq_true, List.all_eq_true] at h
    exact ⟨List.cons_ne_nil c cs, List.forall_mem_cons.2 ⟨inName_of_startsName h.1, h.2⟩⟩

end Token

/-- The words that name an operator. -/
def Operator.words : List String := ["and", "or", "not", "eq", "neq", "lt", "lte", "gt", "gte"]

theorem Token.ofWord_name {s : String} (h : s ∉ Operator.words) : ofWord s = .name s := by
  unfold ofWord
  split
  on_goal 10 => rfl
  all_goals simp [Operator.words] at h

/-! ## Characters that begin a token -/

namespace Token

/-- The characters that a sign can begin with. -/
def signs : List Char := ['=', '!', '<', '>', '&', '|', '(', ')', '[', ']', '.', '+', '-']

/-- A digit begins a number and nothing else. -/
theorem digit_apart {c : Char} (h : c.isDigit = true) :
    isBlank c = false ∧ c ∉ signs ∧ ¬(c = '\'' ∨ c = '"') ∧ startsName c = false := by
  have hall : Text.digits.all (fun d => isBlank d = false ∧ d ∉ signs ∧
      ¬(d = '\'' ∨ d = '"') ∧ startsName d = false) = true := by decide +kernel
  simpa using List.all_eq_true.1 hall c (mem_digits h)

/-- What a name can begin with begins a word and nothing else. -/
theorem startsName_apart {c : Char} (h : startsName c = true) :
    isBlank c = false ∧ c ∉ signs ∧ ¬(c = '\'' ∨ c = '"') ∧ c.isDigit = false := by
  refine ⟨Placeholder.isBlank_of_inName (inName_of_startsName h), ?_, ?_, ?_⟩
  · have hall : signs.all (startsName · = false) = true := by decide +kernel
    intro hc
    rw [of_decide_eq_true (List.all_eq_true.1 hall c hc)] at h
    cases h
  · rintro (rfl | rfl) <;> revert h <;> decide
  · refine Bool.eq_false_iff.2 fun hd => ?_
    rw [(digit_apart hd).2.2.2] at h
    cases h

/-! ## The first token -/

-- The equations take long to make; the proofs that need them do not wait for each other here.
attribute [local simp] scanAll

theorem scanAll_blanks {gap : List Char} (h : ∀ c ∈ gap, isBlank c = true) (cs : List Char) :
    scanAll (gap ++ cs) = scanAll cs := by
  induction gap with
  | nil => rfl
  | cons c gap ih =>
    rw [List.cons_append, scanAll, if_pos (h c List.mem_cons_self),
      ih fun d hd => h d (List.mem_cons_of_mem c hd)]

theorem scanAll_of_scan {c : Char} {cs rest : List Char} {t : Token} {hle}
    (hc : isBlank c = false) (h : scan c cs = .ok ⟨t, rest, hle⟩) :
    scanAll (c :: cs) = (scanAll rest).map (t :: ·) := by
  rw [scanAll, if_neg (by rw [hc]; exact Bool.false_ne_true), h]
  show (scanAll rest >>= fun ts => pure (t :: ts)) = _
  cases scanAll rest <;> rfl

/-- A sign that an equals sign would make longer. -/
theorem scanAll_sign {c : Char} {o : Operator}
    (h : (c, o) ∈ [('!', Operator.not), ('<', .lt), ('>', .gt)]) {rest : List Char}
    (hrest : rest.head? ≠ some '=') : scanAll (c :: rest) = (scanAll rest).map (.op o :: ·) := by
  have hscan : isBlank c = false ∧ ∃ hle, scan c rest = .ok ⟨.op o, rest, hle⟩ := by
    simp only [List.mem_cons, Prod.mk.injEq, List.not_mem_nil, or_false] at h
    cases rest with
    | nil => rcases h with ⟨rfl, rfl⟩ | ⟨rfl, rfl⟩ | ⟨rfl, rfl⟩ <;> exact ⟨by decide, _, rfl⟩
    | cons d rest =>
      have hd : d ≠ '=' := by simpa using hrest
      rcases h with ⟨rfl, rfl⟩ | ⟨rfl, rfl⟩ | ⟨rfl, rfl⟩
      all_goals
        refine ⟨by decide, ?_⟩
        rw [scan]
        · exact ⟨_, rfl⟩
        all_goals simp [hd]
  obtain ⟨hblank, _, hscan⟩ := hscan
  exact scanAll_of_scan hblank hscan

/-- What begins with no sign is a text, a number or a word. -/
theorem scan_other {c : Char} (h : c ∉ signs) (cs : List Char) : scan c cs =
    if c = '\'' ∨ c = '"' then
      match h : scanText c cs with
      | some (s, rest) => .ok ⟨.text (String.ofList s), rest, Nat.le_of_lt (scanText_length_lt h)⟩
      | none => .error .unterminatedText
    else if c.isDigit then
      match readNumber? (c :: cs.takeWhile inNumber) with
      | some n => .ok ⟨.number n, cs.dropWhile inNumber, (List.dropWhile_suffix _).length_le⟩
      | none => .error (.badNumber (String.ofList (c :: cs.takeWhile inNumber)))
    else if startsName c then
      .ok ⟨ofWord (String.ofList (c :: cs.takeWhile inName)), cs.dropWhile inName,
        (List.dropWhile_suffix _).length_le⟩
    else .error (.unexpectedChar c) := by
  unfold scan
  split
  on_goal 17 => rfl
  all_goals simp [signs] at h

/-- A name, or the word of an operator. -/
theorem scanAll_word {w rest : List Char} (hw : isName w = true)
    (hrest : ∀ c ∈ rest.head?, inName c = false) :
    scanAll (w ++ rest) = (scanAll rest).map (ofWord (String.ofList w) :: ·) := by
  cases w with
  | nil => cases hw
  | cons c cs =>
    rw [isName, Bool.and_eq_true, List.all_eq_true] at hw
    obtain ⟨hblank, hsign, hquote, hdigit⟩ := startsName_apart hw.1
    obtain ⟨htake, hdrop⟩ := span_run hw.2 rest hrest
    have hscan := scan_other hsign (cs ++ rest)
    rw [if_neg hquote, if_neg (by simp [hdigit]), if_pos hw.1] at hscan
    rw [List.cons_append, scanAll_of_scan hblank hscan, htake, hdrop]

theorem readNumber?_digits {ds : List Char} (hne : ds ≠ []) (h : ∀ d ∈ ds, d.isDigit = true)
    (hlt : Nat.ofDigitChars 10 ds 0 < Word.half) :
    readNumber? ds = some (.int (Nat.ofDigitChars 10 ds 0)) := by
  have hpoint : ds.contains '.' = false := by
    refine Bool.eq_false_iff.2 fun hmem => ?_
    exact absurd (h '.' (List.contains_iff_mem.1 hmem)) (by decide)
  rw [readNumber?, hpoint, if_neg Bool.false_ne_true, Text.readBelow?_digits hne h hlt]
  rfl

/-- A number without a point. -/
theorem scanAll_digits {ds rest : List Char} (hne : ds ≠ []) (h : ∀ d ∈ ds, d.isDigit = true)
    (hlt : Nat.ofDigitChars 10 ds 0 < Word.half) (hrest : ∀ c ∈ rest.head?, inNumber c = false) :
    scanAll (ds ++ rest) =
      (scanAll rest).map (.number (.int (Nat.ofDigitChars 10 ds 0)) :: ·) := by
  have hread := readNumber?_digits hne h hlt
  cases ds with
  | nil => exact absurd rfl hne
  | cons d ds =>
    have hd : d.isDigit = true := h d List.mem_cons_self
    have hin : ∀ c ∈ ds, inNumber c = true := fun c hc => by
      rw [inNumber, h c (List.mem_cons_of_mem d hc), Bool.true_or]
    obtain ⟨hblank, hsign, hquote, -⟩ := digit_apart hd
    obtain ⟨htake, hdrop⟩ := span_run hin rest hrest
    have hscan := scan_other hsign (ds ++ rest)
    rw [if_neg hquote, if_pos hd, htake, hread] at hscan
    rw [List.cons_append, scanAll_of_scan hblank hscan, hdrop]

theorem scanAll_text {quote : Char} (hq : quote = '\'' ∨ quote = '"') {s cs rest : List Char}
    (h : scanText quote cs = some (s, rest)) :
    scanAll (quote :: cs) = (scanAll rest).map (.text (String.ofList s) :: ·) := by
  have hblank : isBlank quote = false := by rcases hq with rfl | rfl <;> decide
  have hsign : quote ∉ signs := by rcases hq with rfl | rfl <;> decide
  have hscan := scan_other hsign cs
  rw [if_pos hq] at hscan
  split at hscan
  · rename_i heq
    obtain ⟨rfl, rfl⟩ := Prod.mk.inj (Option.some.inj (heq.symm.trans h))
    exact scanAll_of_scan hblank hscan
  · rename_i heq
    cases heq.symm.trans h

end Token

end MappedSql.Expression
