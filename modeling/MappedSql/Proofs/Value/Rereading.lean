import Mathlib
import MappedSql.Proofs.Value.Ordered
import MappedSql.Value.Reader
import MappedSql.Value.Text

/- What is read of the text of a value.

   Reading cuts a text into tokens and nests the tokens, so both stages are told for the
   text of a value: it is cut into the tokens of the value (`cut_of_within`), and they nest
   to one value again, as long as not too many containers are open (`nests_of_within`).
   Whole numbers come back as they are. Of doubles it is asked that some number is read
   of their text: the reader may come out one place beside the nearest double, so the
   number need not be the one that was written. -/
namespace MappedSql

namespace Json

/-! ## Whole numbers -/

theorem isDigit_digits (n : Nat) : (Nat.toDigits 10 n).all Char.isDigit = true := by
  rw [List.all_eq_true]
  intro c hc
  exact Nat.isDigit_of_mem_toDigits (by decide) (by decide) hc

theorem spanDigits_digits (n : Nat) : spanDigits (Nat.toDigits 10 n) = (Nat.toDigits 10 n, []) := by
  have hall := List.all_eq_true.1 (isDigit_digits n)
  rw [spanDigits, List.takeWhile_eq_self_iff.2 hall, List.dropWhile_eq_nil_iff.2 hall]

/-- A number has no zero in front. -/
theorem head?_digits {n : Nat} (h : 0 < n) : (Nat.toDigits 10 n).head? ≠ some '0' := by
  induction n using Nat.strongRecOn with
  | _ n ih =>
    rcases Nat.lt_or_ge n 10 with hlt | hge
    · rw [Nat.toDigits_of_lt_base hlt]
      intro hzero
      have hall : ∀ m < 10, 0 < m → m.digitChar ≠ '0' := by decide
      exact hall n hlt h (Option.some.inj hzero)
    · have hrest := ih (n / 10) (by omega) (by omega)
      rw [Nat.toDigits_of_base_le (by decide) hge, List.head?_append]
      cases hd : (Nat.toDigits 10 (n / 10)).head? with
      | none => exact absurd (List.head?_eq_none_iff.1 hd) Nat.toDigits_ne_nil
      | some d =>
        rw [hd] at hrest
        exact hrest

theorem le_ofDigitChars (ds : List Char) (n : Nat) : n ≤ Nat.ofDigitChars 10 ds n := by
  induction ds generalizing n with
  | nil => exact Nat.le_refl n
  | cons d rest ih =>
    have hrest := ih (10 * n + (d.toNat - '0'.toNat))
    rw [Nat.ofDigitChars_cons]
    omega

/-- The digits of a number that a word holds are all taken into the significand. -/
theorem takeWhole_digits (ds : List Char) (n : Nat) (h : Nat.ofDigitChars 10 ds n < Word.count) :
    Decimal.Scaled.takeWhole ds n = ⟨Nat.ofDigitChars 10 ds n, 0⟩ := by
  induction ds generalizing n with
  | nil => rfl
  | cons d rest ih =>
    have hstep : n * 10 + Decimal.digitValue d = 10 * n + (d.toNat - '0'.toNat) := by
      rw [Decimal.digitValue, Nat.mul_comm]
    rw [Nat.ofDigitChars_cons] at h ⊢
    have hfits := Nat.lt_of_le_of_lt (le_ofDigitChars rest _) h
    simp only [Decimal.Scaled.takeWhole, hstep, hfits, if_true]
    exact ih _ h

theorem readMagnitude?_digits {n : Nat} (h : n < Word.count) :
    readMagnitude? (Nat.toDigits 10 n) = some (.inl n) := by
  have hvalue : Nat.ofDigitChars 10 (Nat.toDigits 10 n) 0 = n :=
    Nat.ofDigitChars_toDigits (by decide) (by decide)
  have htake := takeWhole_digits (Nat.toDigits 10 n) 0 (by rwa [hvalue])
  have hempty : (Nat.toDigits 10 n).isEmpty = false :=
    List.isEmpty_eq_false_iff.2 Nat.toDigits_ne_nil
  have hzero :
      ((Nat.toDigits 10 n).head? == some '0' && (Nat.toDigits 10 n).length ≠ 1) = false := by
    rcases Nat.eq_zero_or_pos n with rfl | hpos
    · rfl
    · rw [beq_false_of_ne (head?_digits hpos)]
      rfl
  rw [hvalue] at htake
  simp only [readMagnitude?, spanDigits_digits, hempty, hzero, htake, Bool.or_self,
    Bool.false_eq_true, if_false, if_true]

theorem toList_text_ofNat (n : Nat) : (Number.text (.int n)).toList = Nat.toDigits 10 n := by
  rw [Number.text, Int.toString_eq_repr]
  exact (congrArg String.toList Nat.repr_eq_ofList_toDigits).trans String.toList_ofList

theorem toList_text_neg {n : Nat} (h : 0 < n) :
    (Number.text (.int (-n))).toList = '-' :: Nat.toDigits 10 n := by
  obtain ⟨m, rfl⟩ : ∃ m, n = m + 1 := ⟨n - 1, by omega⟩
  rw [Number.text, Int.toString_eq_repr]
  change ("-" ++ Nat.repr (m + 1)).toList = _
  rw [Nat.repr_eq_ofList_toDigits, String.toList_append]
  exact congrArg ('-' :: ·) String.toList_ofList

theorem readNumber?_digits {n : Nat} (h : n < Word.count) :
    readNumber? (Nat.toDigits 10 n) = some (.int n) := by
  cases hds : Nat.toDigits 10 n with
  | nil => exact absurd hds Nat.toDigits_ne_nil
  | cons d rest =>
    have hd : d ≠ '-' := by
      rintro rfl
      have hdigit := isDigit_digits n
      rw [hds] at hdigit
      cases hdigit
    rw [readNumber?]
    · rw [← hds, readMagnitude?_digits h]
    · intro cs hcs
      exact hd (List.cons.inj hcs).1

/-- A whole number that a word holds is read as it is. -/
theorem readNumber?_whole {i : Int} (hl : Number.least ≤ i) (hg : i ≤ Number.greatest) :
    readNumber? (Number.text (.int i)).toList = some (.int i) := by
  rcases lt_or_ge i 0 with hneg | hpos
  · obtain ⟨n, rfl⟩ : ∃ n : Nat, i = -n := ⟨i.natAbs, by omega⟩
    have hn : 0 < n := by omega
    have hhalf : n ≤ Word.half := by
      rw [Number.least] at hl
      omega
    have hcount : n < Word.count := by
      rw [Word.count_eq]
      have : 0 < Word.half := by decide
      omega
    rw [toList_text_neg hn]
    simp only [readNumber?, readMagnitude?_digits hcount, hn, hhalf, and_self, if_true]
  · obtain ⟨n, rfl⟩ : ∃ n : Nat, i = n := ⟨i.natAbs, by omega⟩
    have hcount : n < Word.count := by
      rw [Number.greatest] at hg
      omega
    rw [toList_text_ofNat, readNumber?_digits hcount]

/-! ## Words -/

/-- One character. -/
theorem tokens_step {m m' : Mode} {c : Char} {ts : List Token} (h : advance? m c = some (ts, m'))
    (cs : List Char) : tokens? m (c :: cs) = (tokens? m' cs).map (ts ++ ·) := by
  simp only [tokens?, h, Option.bind_eq_bind, Option.bind_some, Option.map_eq_bind]
  rfl

/-- A character that completes no token. -/
theorem tokens_silent {m m' : Mode} {c : Char} (h : advance? m c = some ([], m'))
    (cs : List Char) : tokens? m (c :: cs) = tokens? m' cs := by
  rw [tokens_step h]
  simp

/-- What a word stands before: nothing, or a character that no word has. -/
def Ends (cs : List Char) : Prop := ∀ c ∈ cs.head?, isWord c = false

theorem tokens_word {w : List Char} (hw : ∀ c ∈ w, isWord c = true) (read cs : List Char) :
    tokens? (.word read) (w ++ cs) = tokens? (.word (w.reverse ++ read)) cs := by
  induction w generalizing read with
  | nil => rfl
  | cons c rest ih =>
    have hstep : advance? (.word read) c = some ([], .word (c :: read)) := by
      rw [advance?, if_pos (hw c List.mem_cons_self)]
    have hrest := ih (fun d hd => hw d (List.mem_cons_of_mem c hd)) (c :: read)
    rw [List.cons_append, tokens_silent hstep, hrest, List.reverse_cons, List.append_assoc,
      List.singleton_append]

/-- The end of a word is found at the character after it. -/
theorem tokens_ended {w cs : List Char} {v : Value} (hv : readWord? w = some v) (hcs : Ends cs) :
    tokens? (.word w.reverse) cs = (tokens? .between cs).map (.leaf v :: ·) := by
  cases cs with
  | nil => simp [tokens?, hv]
  | cons c rest =>
    have hc : isWord c = false := hcs c rfl
    cases hs : start? c with
    | none => simp [tokens?, advance?, hc, hv, hs]
    | some p =>
      obtain ⟨ts, m⟩ := p
      have hstep : advance? (.word w.reverse) c = some (.leaf v :: ts, m) := by
        simp [advance?, hc, hv, hs]
      have hbetween : advance? .between c = some (ts, m) := hs
      rw [tokens_step hstep, tokens_step hbetween, Option.map_map]
      rfl

theorem isSpace_of_isWord {c : Char} (h : isWord c = true) : isSpace c = false := by
  rw [Bool.eq_false_iff]
  intro hs
  simp only [isSpace, Bool.or_eq_true, beq_iff_eq] at hs
  rcases hs with ((rfl | rfl) | rfl) | rfl <;> exact absurd h (by decide)

theorem tokens_leaf {w cs : List Char} {v : Value} (hw : ∀ c ∈ w, isWord c = true)
    (hv : readWord? w = some v) (hcs : Ends cs) :
    tokens? .between (w ++ cs) = (tokens? .between cs).map (.leaf v :: ·) := by
  cases w with
  | nil => cases hv
  | cons c rest =>
    have hc := hw c List.mem_cons_self
    have hstep : advance? .between c = some ([], .word [c]) := by
      simp [advance?, start?, isSpace_of_isWord hc, hc]
    have hrest := tokens_word (fun d hd => hw d (List.mem_cons_of_mem c hd)) [c] cs
    rw [← tokens_ended hv hcs, List.reverse_cons, ← hrest, List.cons_append, tokens_silent hstep]

theorem readWord?_number {w : List Char} {n : Number} (h : readNumber? w = some n) :
    readWord? w = some (.num n) := by
  have hnull : w ≠ ['n', 'u', 'l', 'l'] := by
    rintro rfl
    cases h
  have htrue : w ≠ ['t', 'r', 'u', 'e'] := by
    rintro rfl
    cases h
  have hfalse : w ≠ ['f', 'a', 'l', 's', 'e'] := by
    rintro rfl
    cases h
  rw [readWord?, if_neg hnull, if_neg htrue, if_neg hfalse, h]
  rfl

/-! ## The characters of numbers -/

/-- All characters of the text are characters of words. -/
def OfWord (s : String) : Prop := s.toList.all isWord = true

theorem OfWord.append {s t : String} (hs : OfWord s) (ht : OfWord t) : OfWord (s ++ t) := by
  rw [OfWord, String.toList_append, List.all_append, hs, ht]
  rfl

theorem ofWord_ofList {cs : List Char} (h : ∀ c ∈ cs, isWord c = true) :
    OfWord (String.ofList cs) := by
  rw [OfWord, String.toList_ofList, List.all_eq_true]
  exact h

theorem OfWord.isWord {s : String} (h : OfWord s) {c : Char} (hc : c ∈ s.toList) :
    isWord c = true := List.all_eq_true.1 h c hc

theorem OfWord.if {p : Prop} [Decidable p] {s t : String} (hs : OfWord s) (ht : OfWord t) :
    OfWord (if p then s else t) := by
  split
  · exact hs
  · exact ht

theorem ofWord_toString (n : Nat) : OfWord (toString n) := by
  rw [Nat.toString_eq_ofList_toDigits]
  refine ofWord_ofList fun c hc => ?_
  simp [isWord, Char.isAlphanum, List.all_eq_true.1 (isDigit_digits n) c hc]

theorem ofWord_positional (d : Decimal.Decimal) (wholePoint : Bool) :
    OfWord (d.positional wholePoint) := by
  have hdigits : OfWord d.digits := ofWord_toString _
  have hzeros : ∀ n, ∀ c ∈ List.replicate n '0', isWord c = true := by
    intro n c hc
    rw [List.eq_of_mem_replicate hc]
    rfl
  have hpadded : ∀ n, ∀ c ∈ List.replicate n '0' ++ d.digits.toList, isWord c = true := by
    intro n c hc
    exact (List.mem_append.1 hc).elim (hzeros n c) hdigits.isWord
  rw [Decimal.Decimal.positional]
  split
  · exact (hdigits.append (ofWord_ofList (hzeros _))).append (.if rfl rfl)
  · have hwhole : ∀ n m,
        OfWord (String.ofList ((List.replicate n '0' ++ d.digits.toList).take m)) :=
      fun n m => ofWord_ofList fun c hc => hpadded n c (List.mem_of_mem_take hc)
    have hfraction : ∀ n m,
        OfWord (String.ofList ((List.replicate n '0' ++ d.digits.toList).drop m)) :=
      fun n m => ofWord_ofList fun c hc => hpadded n c (List.mem_of_mem_drop hc)
    have hpoint : OfWord "." := rfl
    exact ((hwhole _ _).append hpoint).append (hfraction _ _)

theorem ofWord_scientific (d : Decimal.Decimal) (plusSign : Bool) :
    OfWord (d.scientific plusSign) := by
  have hdigits : OfWord d.digits := ofWord_toString _
  have hfirst : OfWord (String.ofList (d.digits.toList.take 1)) :=
    ofWord_ofList fun c hc => hdigits.isWord (List.mem_of_mem_take hc)
  have htail : OfWord (String.ofList (d.digits.toList.drop 1)) :=
    ofWord_ofList fun c hc => hdigits.isWord (List.mem_of_mem_drop hc)
  have hempty : OfWord "" := rfl
  have hpoint : OfWord "." := rfl
  have hletter : OfWord "e" := rfl
  have hplus : OfWord "+" := rfl
  have hminus : OfWord "-" := rfl
  have hexponent : OfWord (toString d.scale.natAbs) := ofWord_toString _
  rw [Decimal.Decimal.scientific]
  exact (((hfirst.append (.if hempty (hpoint.append htail))).append hletter).append
    (.if (.if hplus hempty) hminus)).append hexponent

theorem ofWord_text (n : Number) : OfWord n.text := by
  cases n with
  | int i =>
    rw [Number.text, Int.toString_eq_repr]
    cases i with
    | ofNat m => exact ofWord_toString m
    | negSucc m => exact OfWord.append rfl (ofWord_toString (m + 1))
  | float x =>
    rw [Number.text, Decimal.text]
    exact OfWord.append (.if rfl rfl) (.if (ofWord_positional _ _) (ofWord_scientific _ _))

/-! ## Texts -/

theorem tokens_plain {c : Char} (hq : c ≠ '"') (hb : c ≠ '\\') (hc : ¬ c.toNat < 0x20)
    (read cs : List Char) : tokens? (.text read) (c :: cs) = tokens? (.text (c :: read)) cs := by
  refine tokens_silent ?_ cs
  simp [advance?, hq, hb, hc]

theorem tokens_short {c e : Char} (he : escapeChar? e = some c) (hu : e ≠ 'u')
    (read cs : List Char) :
    tokens? (.text read) ('\\' :: e :: cs) = tokens? (.text (c :: read)) cs := by
  have hescape : advance? (.text read) '\\' = some ([], .escape read) := rfl
  have hstep : advance? (.escape read) e = some ([], .text (c :: read)) := by
    simp [advance?, he, hu]
  rw [tokens_silent hescape, tokens_silent hstep]

theorem hexValue?_digitChar {n : Nat} (h : n < 16) : hexValue? n.digitChar = some n := by
  have hall : ∀ m < 16, hexValue? m.digitChar = some m := by decide
  exact hall n h

theorem tokens_control {c : Char} (hc : c.toNat < 0x20) (read cs : List Char) :
    tokens? (.text read) ('\\' :: 'u' :: '0' :: '0' :: (c.toNat / 16).digitChar ::
      (c.toNat % 16).digitChar :: cs) = tokens? (.text (c :: read)) cs := by
  have hzero : hexValue? '0' = some 0 := rfl
  have hhigh := hexValue?_digitChar (n := c.toNat / 16) (by omega)
  have hlow := hexValue?_digitChar (n := c.toNat % 16) (by omega)
  have hvalue : c.toNat / 16 * 16 + c.toNat % 16 = c.toNat := by omega
  have hafter : afterUnicode? read none c.toNat = some (.text (c :: read)) := by
    rw [afterUnicode?]
    simp only [Char.ofNat_toNat]
    rw [if_neg (by simp; omega), if_neg (by simp; omega)]
  simp [tokens?, advance?, hzero, hhigh, hlow, hvalue, hafter]

theorem tokens_escapedChar (c : Char) (read cs : List Char) :
    tokens? (.text read) (Value.escapedChar c ++ cs) = tokens? (.text (c :: read)) cs := by
  have hchar : ∀ {n}, c.toNat = n → some (Char.ofNat n) = some c := by
    rintro n rfl
    rw [Char.ofNat_toNat]
  rw [Value.escapedChar]
  split
  · exact tokens_short (e := '"') (by rename_i h; rw [h]; rfl) (by decide) read cs
  rename_i hq
  split
  · exact tokens_short (e := '\\') (by rename_i h; rw [h]; rfl) (by decide) read cs
  rename_i hb
  split
  · exact tokens_short (e := 'b') (hchar ‹_›) (by decide) read cs
  split
  · exact tokens_short (e := 't') (hchar ‹_›) (by decide) read cs
  split
  · exact tokens_short (e := 'n') (hchar ‹_›) (by decide) read cs
  split
  · exact tokens_short (e := 'f') (hchar ‹_›) (by decide) read cs
  split
  · exact tokens_short (e := 'r') (hchar ‹_›) (by decide) read cs
  split
  · rename_i hc
    exact tokens_control hc read cs
  · rename_i hc
    exact tokens_plain hq hb hc read cs

theorem tokens_text (s read cs : List Char) :
    tokens? (.text read) (s.flatMap Value.escapedChar ++ '"' :: cs) =
      (tokens? .between cs).map (.leaf (.str (String.ofList (read.reverse ++ s))) :: ·) := by
  induction s generalizing read with
  | nil =>
    rw [List.flatMap_nil, List.append_nil, List.nil_append]
    have hstep : advance? (.text read) '"' =
        some ([.leaf (.str (String.ofList read.reverse))], .between) := rfl
    exact tokens_step hstep cs
  | cons c rest ih =>
    rw [List.flatMap_cons, List.append_assoc, tokens_escapedChar, ih]
    simp

theorem tokens_quoted (s : String) (cs : List Char) :
    tokens? .between ((Value.quoted s).toList ++ cs) =
      (tokens? .between cs).map (.leaf (.str s) :: ·) := by
  have hs := tokens_text s.toList [] cs
  simp only [List.reverse_nil, List.nil_append, String.ofList_toList] at hs
  rw [← hs, ← tokens_silent (m := .between) (c := '"') rfl]
  simp [Value.quoted]

end Json

/-! ## The tokens of a value -/

/-- What is read of the text of the number. -/
def Number.reread (n : Number) : Number := (Json.readNumber? n.text.toList).getD n

/-- Some number is read of the text of the number. -/
def Number.Legible (n : Number) : Prop := (Json.readNumber? n.text.toList).isSome = true

namespace Value

/-- The value nests at most `d` deep, and of the texts of its numbers numbers are read. -/
inductive Within : Nat → Value → Prop where
  | null {d : Nat} : Within d .null
  | bool {d : Nat} (b : Bool) : Within d (.bool b)
  | num {d : Nat} {n : Number} (h : n.Legible) : Within d (.num n)
  | str {d : Nat} (s : String) : Within d (.str s)
  | arr {d : Nat} {items : List Value} (h : ∀ v ∈ items, Within d v) : Within (d + 1) (.arr items)
  | obj {d : Nat} {fields : List (String × Value)} (h : ∀ e ∈ fields, Within d e.2) :
    Within (d + 1) (.obj fields)

mutual

/-- What the text of the value is cut into. -/
def tokens : Value → List Json.Token
  | .null => [.leaf .null]
  | .bool b => [.leaf (.bool b)]
  | .num n => [.leaf (.num n.reread)]
  | .str s => [.leaf (.str s)]
  | .arr items => .sign .openArray :: (itemTokens items ++ [.sign .closeArray])
  | .obj fields => .sign .openObject :: (fieldTokens fields ++ [.sign .closeObject])

/-- The tokens of the items of a list. -/
def itemTokens : List Value → List Json.Token
  | [] => []
  | [v] => tokens v
  | v :: rest => tokens v ++ .sign .comma :: itemTokens rest

/-- The tokens of the fields of an object. -/
def fieldTokens : List (String × Value) → List Json.Token
  | [] => []
  | [(k, v)] => .leaf (.str k) :: .sign .colon :: tokens v
  | (k, v) :: rest =>
    .leaf (.str k) :: .sign .colon :: (tokens v ++ .sign .comma :: fieldTokens rest)

end

mutual

/-- The value that is read of the text of the value. -/
def reread : Value → Value
  | .num n => .num n.reread
  | .arr items => .arr (rereadItems items)
  | .obj fields => .obj (Fields.ofList (rereadFields fields))
  | v => v

def rereadItems : List Value → List Value
  | [] => []
  | v :: rest => reread v :: rereadItems rest

def rereadFields : List (String × Value) → List (String × Value)
  | [] => []
  | (k, v) :: rest => (k, reread v) :: rereadFields rest

end

end Value

namespace Json

/-- The text of the value is cut into its tokens, whatever stands behind it. -/
def Cut (v : Value) : Prop :=
  ∀ cs, Ends cs → tokens? .between (v.json.toList ++ cs) = (tokens? .between cs).map (v.tokens ++ ·)

theorem tokens_sign {c : Char} {s : Sign} (h : start? c = some ([.sign s], .between))
    (cs : List Char) : tokens? .between (c :: cs) = (tokens? .between cs).map (.sign s :: ·) :=
  tokens_step (show advance? .between c = some ([.sign s], .between) from h) cs

/-- The signs of JSON stand behind a word. -/
theorem ends_sign {c : Char} (h : isWord c = false) (cs : List Char) : Ends (c :: cs) := by
  rintro d ⟨⟩
  exact h

theorem cut_items {items : List Value} (h : ∀ v ∈ items, Cut v) {cs : List Char} (hcs : Ends cs) :
    tokens? .between ((Value.jsonItems items).toList ++ cs) =
      (tokens? .between cs).map (Value.itemTokens items ++ ·) := by
  induction items with
  | nil => simp [Value.jsonItems, Value.itemTokens]
  | cons v rest ih =>
    have hv := h v List.mem_cons_self
    cases rest with
    | nil => exact hv cs hcs
    | cons w rest =>
      have hrest := ih fun u hu => h u (List.mem_cons_of_mem v hu)
      have hcomma := hv (',' :: ((Value.jsonItems (w :: rest)).toList ++ cs)) (ends_sign rfl _)
      rw [tokens_sign (s := .comma) rfl, hrest] at hcomma
      simpa [Value.jsonItems, Value.itemTokens, Function.comp_def] using hcomma

theorem cut_fields {fields : List (String × Value)} (h : ∀ e ∈ fields, Cut e.2) {cs : List Char}
    (hcs : Ends cs) : tokens? .between ((Value.jsonFields fields).toList ++ cs) =
      (tokens? .between cs).map (Value.fieldTokens fields ++ ·) := by
  have hname : ∀ k cs, tokens? .between ((Value.quoted k).toList ++ ':' :: cs) =
      (tokens? .between cs).map (.leaf (.str k) :: .sign .colon :: ·) := by
    intro k cs
    rw [tokens_quoted, tokens_sign (s := .colon) rfl, Option.map_map]
    rfl
  induction fields with
  | nil => simp [Value.jsonFields, Value.fieldTokens]
  | cons e rest ih =>
    obtain ⟨k, v⟩ := e
    have hv := h (k, v) List.mem_cons_self
    cases rest with
    | nil =>
      have hone := hname k (v.json.toList ++ cs)
      rw [hv cs hcs] at hone
      simpa [Value.jsonFields, Value.fieldTokens, Function.comp_def] using hone
    | cons f rest =>
      have hrest := ih fun g hg => h g (List.mem_cons_of_mem _ hg)
      have hcomma := hname k (v.json.toList ++ ',' :: ((Value.jsonFields (f :: rest)).toList ++ cs))
      rw [hv _ (ends_sign rfl _), tokens_sign (s := .comma) rfl, hrest] at hcomma
      simpa [Value.jsonFields, Value.fieldTokens, Function.comp_def] using hcomma

theorem cut_of_within {d : Nat} {v : Value} (h : v.Within d) : Cut v := by
  -- By the cases of the value: a word ends at what stands behind it, the rest ends by itself.
  induction h with
  | null => exact fun cs hcs => tokens_leaf (w := ['n', 'u', 'l', 'l']) (by simp [isWord]) rfl hcs
  | bool b =>
    intro cs hcs
    cases b with
    | true => exact tokens_leaf (w := ['t', 'r', 'u', 'e']) (by simp [isWord]) rfl hcs
    | false => exact tokens_leaf (w := ['f', 'a', 'l', 's', 'e']) (by simp [isWord]) rfl hcs
  | @num d n h =>
    intro cs hcs
    obtain ⟨m, hm⟩ := Option.isSome_iff_exists.1 h
    have hreread : n.reread = m := by rw [Number.reread, hm, Option.getD_some]
    have hleaf := tokens_leaf (fun c hc => (ofWord_text n).isWord hc) (readWord?_number hm) hcs
    rw [← hreread] at hleaf
    exact hleaf
  | str s => exact fun cs _ => tokens_quoted s cs
  | @arr d items _ ih =>
    intro cs hcs
    have hitems := cut_items ih (ends_sign (c := ']') rfl cs)
    rw [tokens_sign (s := .closeArray) rfl] at hitems
    have hopen := tokens_sign (c := '[') (s := .openArray) rfl
      ((Value.jsonItems items).toList ++ ']' :: cs)
    rw [hitems] at hopen
    simpa [Value.json, Value.tokens, Function.comp_def] using hopen
  | @obj d fields _ ih =>
    intro cs hcs
    have hfields := cut_fields ih (ends_sign (c := '\x7d') rfl cs)
    rw [tokens_sign (s := .closeObject) rfl] at hfields
    have hopen := tokens_sign (c := '\x7b') (s := .openObject) rfl
      ((Value.jsonFields fields).toList ++ '\x7d' :: cs)
    rw [hfields] at hopen
    simpa [Value.json, Value.tokens, Function.comp_def] using hopen

/-! ## The tokens nested -/

/-- The tokens nested one after the other. -/
def nest (n : Nesting) (ts : List Token) : Option Nesting := ts.foldlM Nesting.advance? n

theorem nest_step {n n' : Nesting} {t : Token} (h : n.advance? t = some n') (ts : List Token) :
    nest n (t :: ts) = nest n' ts := by
  rw [nest, List.foldlM_cons, h]
  rfl

/-- Where a value may come, the tokens of the value put one value, unless too many containers are
open around it. -/
def Nests (d : Nat) (v : Value) : Prop :=
  ∀ (frames : List Frame) (e : Expect) (ts : List Token), e = .value ∨ e = .valueOrClose →
    frames.length + d ≤ depthLimit →
    nest ⟨frames, e, none⟩ (v.tokens ++ ts) = (Nesting.put? frames v.reread).bind (nest · ts)

section

variable {d : Nat} {frames : List Frame}

theorem nest_leaf {v : Value} {e : Expect} (he : e = .value ∨ e = .valueOrClose)
    (ts : List Token) :
    nest ⟨frames, e, none⟩ (.leaf v :: ts) = (Nesting.put? frames v).bind (nest · ts) := by
  rcases he with rfl | rfl <;> rfl

theorem nest_items {items : List Value} (h : ∀ v ∈ items, Nests d v) (hne : items ≠ [])
    (acc : List Value) {e : Expect} (he : e = .value ∨ e = .valueOrClose)
    (hdepth : (Frame.arr acc :: frames).length + d ≤ depthLimit) (ts : List Token) :
    nest ⟨.arr acc :: frames, e, none⟩ (Value.itemTokens items ++ .sign .closeArray :: ts) =
      (Nesting.put? frames (.arr (acc.reverse ++ Value.rereadItems items))).bind (nest · ts) := by
  induction items generalizing acc e with
  | nil => exact absurd rfl hne
  | cons v rest ih =>
    have hv := h v List.mem_cons_self (.arr acc :: frames) e
    cases rest with
    | nil =>
      rw [Value.itemTokens, hv _ he hdepth, Value.rereadItems, Value.rereadItems,
        ← List.reverse_cons]
      rfl
    | cons w rest =>
      -- the list has its items in reverse until it is closed
      have hrest := ih (fun u hu => h u (List.mem_cons_of_mem v hu)) (List.cons_ne_nil w rest)
        (v.reread :: acc) (.inl rfl) hdepth
      rw [List.reverse_cons, List.append_assoc] at hrest
      rw [Value.itemTokens, List.append_assoc, hv _ he hdepth, Value.rereadItems]
      · exact hrest
      · simp

theorem nest_fields {fields : List (String × Value)} (h : ∀ e ∈ fields, Nests d e.2)
    (hne : fields ≠ []) (acc : List (String × Value)) {e : Expect}
    (he : e = .name ∨ e = .nameOrClose)
    (hdepth : (Frame.obj acc :: frames).length + d ≤ depthLimit) (ts : List Token) :
    nest ⟨.obj acc :: frames, e, none⟩ (Value.fieldTokens fields ++ .sign .closeObject :: ts) =
      (Nesting.put? frames (.obj (Fields.ofList (acc.reverse ++ Value.rereadFields fields)))).bind
        (nest · ts) := by
  have hname : ∀ acc e k ts, e = .name ∨ e = .nameOrClose →
      nest ⟨.obj acc :: frames, e, none⟩ (.leaf (.str k) :: .sign .colon :: ts) =
        nest ⟨.field acc k :: frames, .value, none⟩ ts := by
    rintro acc e k ts (rfl | rfl) <;> rfl
  induction fields generalizing acc e with
  | nil => exact absurd rfl hne
  | cons f rest ih =>
    obtain ⟨k, v⟩ := f
    have hv := h (k, v) List.mem_cons_self (.field acc k :: frames) .value
    cases rest with
    | nil =>
      rw [Value.fieldTokens, List.cons_append, List.cons_append, hname _ _ _ _ he,
        hv _ (.inl rfl) hdepth, Value.rereadFields, Value.rereadFields, ← List.reverse_cons]
      rfl
    | cons f rest =>
      have hrest := ih (fun u hu => h u (List.mem_cons_of_mem _ hu)) (List.cons_ne_nil f rest)
        ((k, v.reread) :: acc) (.inl rfl) hdepth
      rw [List.reverse_cons, List.append_assoc] at hrest
      rw [Value.fieldTokens, List.cons_append, List.cons_append, List.append_assoc,
        hname _ _ _ _ he, hv _ (.inl rfl) hdepth, Value.rereadFields]
      · exact hrest
      · simp

end

theorem nests_of_within {d : Nat} {v : Value} (h : v.Within d) : Nests d v := by
  induction h with
  | null => exact fun _ _ ts he _ => nest_leaf he ts
  | bool b => exact fun _ _ ts he _ => nest_leaf he ts
  | num h => exact fun _ _ ts he _ => nest_leaf he ts
  | str s => exact fun _ _ ts he _ => nest_leaf he ts
  | @arr d items _ ih =>
    intro frames e ts he hdepth
    have hroom : frames.length < depthLimit := by omega
    have hopen : Nesting.advance? ⟨frames, e, none⟩ (.sign .openArray) =
        some ⟨.arr [] :: frames, .valueOrClose, none⟩ := by
      rcases he with rfl | rfl <;> exact if_pos hroom
    rw [Value.tokens, List.cons_append, nest_step hopen, List.append_assoc]
    cases items with
    | nil => rfl
    | cons v rest =>
      have hinside : (Frame.arr [] :: frames).length + d ≤ depthLimit := by
        rw [List.length_cons]
        omega
      exact nest_items ih (List.cons_ne_nil v rest) [] (.inr rfl) hinside ts
  | @obj d fields _ ih =>
    intro frames e ts he hdepth
    have hroom : frames.length < depthLimit := by omega
    have hopen : Nesting.advance? ⟨frames, e, none⟩ (.sign .openObject) =
        some ⟨.obj [] :: frames, .nameOrClose, none⟩ := by
      rcases he with rfl | rfl <;> exact if_pos hroom
    rw [Value.tokens, List.cons_append, nest_step hopen, List.append_assoc]
    cases fields with
    | nil => rfl
    | cons f rest =>
      have hinside : (Frame.obj [] :: frames).length + d ≤ depthLimit := by
        rw [List.length_cons]
        omega
      exact nest_fields ih (List.cons_ne_nil f rest) [] (.inr rfl) hinside ts

/-- A value that does not nest too deep is read of its own text. -/
theorem read?_json {v : Value} (h : v.Within depthLimit) : read? v.json = some v.reread := by
  have hcut := cut_of_within h [] (by rintro c ⟨⟩)
  have hnest := nests_of_within h [] .value [] (.inl rfl) (by simp)
  rw [List.append_nil] at hcut hnest
  have htokens : tokens? .between v.json.toList = some v.tokens := by
    rw [hcut]
    simp [tokens?]
  rw [read?, htokens]
  exact congrArg (Option.bind · Nesting.done) hnest

end Json

/-! ## Values that come back -/

namespace Value

/-- The value nests at most `d` deep, its numbers are read of their texts as they are, and the names
of its fields ascend. -/
inductive Faithful : Nat → Value → Prop where
  | null {d : Nat} : Faithful d .null
  | bool {d : Nat} (b : Bool) : Faithful d (.bool b)
  | num {d : Nat} {n : Number} (h : Json.readNumber? n.text.toList = some n) : Faithful d (.num n)
  | str {d : Nat} (s : String) : Faithful d (.str s)
  | arr {d : Nat} {items : List Value} (h : ∀ v ∈ items, Faithful d v) :
    Faithful (d + 1) (.arr items)
  | obj {d : Nat} {fields : List (String × Value)} (ordered : Fields.Ordered fields)
    (h : ∀ e ∈ fields, Faithful d e.2) : Faithful (d + 1) (.obj fields)

/-- A whole number that a word holds. -/
theorem Faithful.whole {d : Nat} {i : Int} (hl : Number.least ≤ i) (hg : i ≤ Number.greatest) :
    Faithful d (.num (.int i)) := .num (Json.readNumber?_whole hl hg)

theorem Faithful.within {d : Nat} {v : Value} (h : v.Faithful d) : v.Within d := by
  induction h with
  | null => exact .null
  | bool b => exact .bool b
  | num h => exact .num (by rw [Number.Legible, h]; rfl)
  | str s => exact .str s
  | arr _ ih => exact .arr ih
  | obj _ _ ih => exact .obj ih

theorem rereadItems_eq {items : List Value} (h : ∀ v ∈ items, v.reread = v) :
    rereadItems items = items := by
  induction items with
  | nil => rfl
  | cons v rest ih =>
    rw [rereadItems, h v List.mem_cons_self, ih fun w hw => h w (List.mem_cons_of_mem v hw)]

theorem rereadFields_eq {fields : List (String × Value)} (h : ∀ e ∈ fields, e.2.reread = e.2) :
    rereadFields fields = fields := by
  induction fields with
  | nil => rfl
  | cons e rest ih =>
    obtain ⟨k, v⟩ := e
    have hv : v.reread = v := h (k, v) List.mem_cons_self
    rw [rereadFields, hv, ih fun f hf => h f (List.mem_cons_of_mem _ hf)]

theorem Faithful.reread_eq {d : Nat} {v : Value} (h : v.Faithful d) : v.reread = v := by
  induction h with
  | null => rfl
  | bool b => rfl
  | num h => rw [reread, Number.reread, h, Option.getD_some]
  | str s => rfl
  | arr _ ih => rw [reread, rereadItems_eq ih]
  | obj ordered _ ih => rw [reread, rereadFields_eq ih, Fields.Ordered.ofList_eq ordered]

/-- A value that is read of its own text is the value again. -/
theorem Faithful.read?_json {v : Value} (h : v.Faithful Json.depthLimit) :
    Json.read? v.json = some v := by
  rw [Json.read?_json h.within, h.reread_eq]

end Value

end MappedSql
