import MappedSql.Proofs.Markup.Writing

/- What is written is read back.

   Each reader is given what has been written for it, with anything behind it: it takes
   exactly that, gives what was meant, and counts its line breaks (`readEntity_refers` up
   to `readTag_writes`). In the stream of events a written text only adds to the text
   that is being gathered (`run_writesText`), and written nodes are put behind the ones
   that are there (`run_writes`). Nodes in normal form come out as they are, since no two
   texts run together and no empty one is left out (`flush_pushAll`); with that the
   forest is read back (`read_writes`). -/
namespace MappedSql.Markup

open Text (isBlank find? span_run)

/-! ## Runs of characters -/

theorem newlines_append (a b : List Char) : newlines (a ++ b) = newlines a + newlines b :=
  List.count_append

theorem newlines_cons (c : Char) (cs : List Char) :
    newlines (c :: cs) = newlines [c] + newlines cs := newlines_append [c] cs

theorem newlines_cons_of_ne {c : Char} (h : c ≠ '\n') (cs : List Char) :
    newlines (c :: cs) = newlines cs := List.count_cons_of_ne h

theorem newlines_eq_zero {cs : List Char} (h : '\n' ∉ cs) : newlines cs = 0 :=
  List.count_eq_zero.2 h

/-- The signs around a section have no line breaks. -/
theorem newlines_between {opening closing : List Char} (ho : newlines opening = 0)
    (hc : newlines closing = 0) (body m : List Char) :
    newlines (opening ++ (body ++ (closing ++ m))) = newlines body + newlines m := by
  rw [newlines_append, newlines_append, newlines_append, ho, hc, Nat.zero_add, Nat.zero_add]

theorem inName_of_startsName {c : Char} (h : startsName c = true) : inName c = true := by
  simp only [startsName, Bool.or_eq_true] at h
  rcases h with h | h
  · simp [inName, Text.isWordChar_of_isLetter h]
  · simp [inName, h]

theorem inName_of_isBlank {c : Char} (h : isBlank c = true) : inName c = false := by
  have hw := Text.isWordChar_of_isBlank h
  have hne : ∀ d, isBlank d = false → (c == d) = false := by
    intro d hd
    refine beq_false_of_ne fun he => ?_
    rw [he, hd] at h
    cases h
  simp [inName, hw, hne '_' (by decide), hne '-' (by decide), hne ':' (by decide),
    hne '.' (by decide)]

theorem isBlank_of_startsName {c : Char} (h : startsName c = true) : isBlank c = false := by
  refine Bool.eq_false_iff.2 fun hb => ?_
  have hn := inName_of_isBlank hb
  rw [inName_of_startsName h] at hn
  cases hn

theorem IsName.first {name : String} (h : IsName name) :
    ∃ c cs, name.toList = c :: cs ∧ startsName c = true := by
  have hfirst := h.1
  cases hname : name.toList with
  | nil => simp [hname] at hfirst
  | cons c cs => exact ⟨c, cs, rfl, by simpa [hname] using hfirst⟩

theorem IsName.newlines {name : String} (h : IsName name) : Markup.newlines name.toList = 0 :=
  newlines_eq_zero fun hn => absurd (h.2 _ hn) (by decide)

theorem skipBlanks_run {blanks rest : List Char} (hb : Blanks blanks)
    (hr : ∀ c ∈ rest.head?, isBlank c = false) (line : Nat) :
    (skipBlanks line (blanks ++ rest)).line = line + newlines blanks ∧
      (skipBlanks line (blanks ++ rest)).rest = rest := by
  obtain ⟨ht, hd⟩ := span_run hb rest hr
  exact ⟨by rw [skipBlanks, ht], hd⟩

/-! ## Entities -/

/-- A check of the digits of a base holds of each of them. -/
theorem IsDigit.all {base v : Nat} {d : Char} (h : IsDigit base d v) {p : Nat → Char → Bool}
    (hp : (List.range base).all (fun v => p v v.digitChar && p v v.digitChar.toUpper) = true) :
    p v d = true := by
  have hv := List.all_eq_true.1 hp v (List.mem_range.2 h.1)
  rw [Bool.and_eq_true] at hv
  rcases h.2 with rfl | rfl
  · exact hv.1
  · exact hv.2

theorem digit_ten {v : Nat} {d : Char} (h : IsDigit 10 d v) :
    d.isDigit = true ∧ d.toNat - 48 = v := by
  have hall := h.all (p := fun v d => d.isDigit && d.toNat - 48 == v) (by decide)
  simpa using hall

/-- The three kinds of digits that the reader tells apart. -/
theorem digit_sixteen {v : Nat} {d : Char} (h : IsDigit 16 d v) :
    d.isDigit = true ∧ d.toNat - 48 = v ∨
      d.isDigit = false ∧ ('a' ≤ d ∧ d ≤ 'f') ∧ d.toNat - 97 + 10 = v ∨
      d.isDigit = false ∧ ¬ ('a' ≤ d ∧ d ≤ 'f') ∧ ('A' ≤ d ∧ d ≤ 'F') ∧
        d.toNat - 65 + 10 = v := by
  have hall := h.all (p := fun v d =>
    if d.isDigit then d.toNat - 48 == v
    else if 'a' ≤ d ∧ d ≤ 'f' then d.toNat - 97 + 10 == v
    else decide ('A' ≤ d ∧ d ≤ 'F') && d.toNat - 65 + 10 == v) (by decide)
  split at hall
  · rename_i h₁
    exact .inl ⟨h₁, by simpa using hall⟩
  · rename_i h₁
    rw [Bool.not_eq_true] at h₁
    split at hall
    · rename_i h₂
      exact .inr (.inl ⟨h₁, h₂, by simpa using hall⟩)
    · rename_i h₂
      rw [Bool.and_eq_true, decide_eq_true_eq, beq_iff_eq] at hall
      exact .inr (.inr ⟨h₁, h₂, hall⟩)

theorem digit_inEntity {v : Nat} {d : Char} (h : IsDigit 16 d v) : inEntity d = true :=
  h.all (p := fun _ d => inEntity d) (by decide)

theorem readNat?_spells {ds : List Char} {n : Nat} (hne : ds ≠ []) (h : Spells 10 ds n) :
    Text.readNat? ds = some n := by
  suffices hs : ds.all Char.isDigit = true ∧
      ds.foldl (fun n c => n * 10 + (c.toNat - '0'.toNat)) 0 = n by
    rw [Text.readNat?, hs.1, hs.2, List.isEmpty_eq_false_iff.2 hne]
    rfl
  clear hne
  induction h with
  | nil => exact ⟨rfl, rfl⟩
  | digit hs hd ih =>
    obtain ⟨hdigit, hv⟩ := digit_ten hd
    rw [List.all_append, ih.1, List.foldl_append, ih.2]
    simp [hdigit, hv]

theorem readHex?_spells {ds : List Char} {n : Nat} (hne : ds ≠ []) (h : Spells 16 ds n) :
    readHex? ds = some n := by
  rw [readHex?, List.isEmpty_eq_false_iff.2 hne, if_neg Bool.false_ne_true]
  clear hne
  induction h with
  | nil => rfl
  | digit hs hd ih =>
    rw [List.foldlM_append, ih]
    rcases digit_sixteen hd with ⟨h₁, hv⟩ | ⟨h₁, h₂, hv⟩ | ⟨h₁, h₂, h₃, hv⟩
    · simp [h₁, hv]
    · simp [h₁, h₂, hv]
    · simp [h₁, h₂, h₃, hv]

theorem charOf?_toNat (c : Char) : charOf? c.toNat = some c := by
  rw [charOf?, if_pos (show c.toNat.isValidChar from c.valid), Char.ofNat_toNat]

theorem Spells.forall {base : Nat} {ds : List Char} {n : Nat} (h : Spells base ds n)
    {p : Char → Prop} (hp : ∀ {d v}, IsDigit base d v → p d) : ∀ d ∈ ds, p d := by
  induction h with
  | nil => simp
  | digit hs hd ih =>
    intro d hmem
    rcases List.mem_append.1 hmem with hmem | hmem
    · exact ih d hmem
    · cases List.mem_singleton.1 hmem
      exact hp hd

theorem Spells.inEntity {base : Nat} {ds : List Char} {n : Nat} (hb : base ≤ 16)
    (h : Spells base ds n) : ∀ d ∈ ds, inEntity d = true :=
  h.forall fun hd => digit_inEntity ⟨Nat.lt_of_lt_of_le hd.1 hb, hd.2⟩

/-- Decimal digits are not taken for the sign of hexadecimal ones. -/
theorem Spells.no_sign {ds : List Char} {n : Nat} (h : Spells 10 ds n) :
    ∀ d ∈ ds, d ≠ 'x' ∧ d ≠ 'X' :=
  h.forall fun hd => by
    have hdigit := (digit_ten hd).1
    constructor <;> (rintro rfl; cases hdigit)

theorem Refers.inEntity {name : List Char} {c : Char} (h : Refers name c) :
    ∀ d ∈ name, inEntity d = true := by
  cases h with
  | decimal _ hs =>
    intro d hd
    rcases List.mem_cons.1 hd with rfl | hd
    · decide
    · exact hs.inEntity (by decide) d hd
  | hex hx _ hs =>
    intro d hd
    rcases List.mem_cons.1 hd with rfl | hd
    · decide
    · rcases List.mem_cons.1 hd with rfl | hd
      · rcases hx with rfl | rfl <;> decide
      · exact hs.inEntity (by decide) d hd
  | _ => exact List.all_eq_true.1 rfl

/-- No entity breaks the line. -/
theorem Refers.newlines {name : List Char} {c : Char} (h : Refers name c) (m : List Char) :
    Markup.newlines ('&' :: (name ++ ';' :: m)) = Markup.newlines m := by
  have hname : Markup.newlines name = 0 :=
    newlines_eq_zero fun hn => absurd (h.inEntity _ hn) (by decide)
  rw [newlines_cons_of_ne (by decide), newlines_append, hname, newlines_cons_of_ne (by decide),
    Nat.zero_add]

theorem Refers.entityChar? {name : List Char} {c : Char} (h : Refers name c) :
    entityChar? name = some c := by
  cases h with
  | decimal hne hs =>
    rename_i ds
    have hread : (Text.readNat? ds).bind charOf? = some c := by
      rw [readNat?_spells hne hs]
      exact charOf?_toNat c
    rw [Markup.entityChar?]
    · exact hread
    · rintro digits rfl
      exact (hs.no_sign _ List.mem_cons_self).1 rfl
    · rintro digits rfl
      exact (hs.no_sign _ List.mem_cons_self).2 rfl
  | hex hx hne hs =>
    rename_i ds x
    have hread : (readHex? ds).bind charOf? = some c := by
      rw [readHex?_spells hne hs]
      exact charOf?_toNat c
    rcases hx with rfl | rfl <;> exact hread
  | _ => rfl

/-- The reader gives a value, and the line and the text after it. -/
def Gives {α : Type} {bound : Nat} (r : Except Error (Found α bound)) (value : α) (line : Nat)
    (rest : List Char) : Prop :=
  ∃ hle, r = .ok ⟨value, line, rest, hle⟩

/-- An entity is read up to its sign. -/
theorem readEntity_refers {name : List Char} {c : Char} (h : Refers name c) (line : Nat)
    (rest : List Char) : Gives (readEntity line (name ++ ';' :: rest)) c line rest := by
  obtain ⟨ht, hd⟩ := span_run h.inEntity (';' :: rest) (by simp; decide)
  rw [readEntity]
  split
  · rename_i rest' hrest
    rw [hd] at hrest
    cases hrest
    simp only [ht, h.entityChar?]
    exact ⟨_, rfl⟩
  · rename_i hne
    exact absurd hd (hne rest)

/-! ## Attributes -/

/-- A value is read up to its quote. -/
theorem readValue_writes {quote : Char} (hq : quote ≠ '&') {s v : List Char}
    (h : WritesValue quote s v) (key : String) (line : Nat) (rest : List Char) :
    Gives (readValue key quote line (v ++ quote :: rest)) s (line + newlines v) rest := by
  induction h generalizing line with
  | nil =>
    rw [List.nil_append, readValue, if_pos rfl]
    exact ⟨_, rfl⟩
  | char hc h ih =>
    rename_i c s m
    obtain ⟨hle, ih⟩ := ih (line + newlines [c])
    rw [List.cons_append, readValue, if_neg hc.1, if_neg hc.2, ih, newlines_cons c m,
      ← Nat.add_assoc]
    exact ⟨_, rfl⟩
  | entity hn h ih =>
    rename_i name c s m
    obtain ⟨hle, ih⟩ := ih line
    obtain ⟨hle', he⟩ := readEntity_refers hn line (m ++ quote :: rest)
    rw [List.cons_append, List.append_assoc, List.cons_append, readValue, if_neg hq.symm,
      if_pos rfl, he, hn.newlines]
    dsimp only [bind, Except.bind]
    rw [ih]
    exact ⟨_, rfl⟩

theorem readAttribute_of {line l₁ l₂ l₃ : Nat} {cs r₁ r₂ r₃ v : List Char} {key : String}
    {quote : Char} (hk : String.ofList (cs.takeWhile inName) = key)
    (h₁ : (skipBlanks line (cs.dropWhile inName)).line = l₁)
    (h₁' : (skipBlanks line (cs.dropWhile inName)).rest = '=' :: r₁)
    (h₂ : (skipBlanks l₁ r₁).line = l₂) (h₂' : (skipBlanks l₁ r₁).rest = quote :: r₂)
    (hq : quote = '"' ∨ quote = '\'') (hv : Gives (readValue key quote l₂ r₂) v l₃ r₃) :
    Gives (readAttribute line cs) (key, String.ofList v) l₃ r₃ := by
  subst hk h₁ h₂
  obtain ⟨hle, hv⟩ := hv
  rw [readAttribute]
  split
  · rename_i rest hrest
    rw [h₁'] at hrest
    cases hrest
    dsimp only
    split
    · rename_i q rest' hrest'
      rw [h₂'] at hrest'
      cases hrest'
      rw [if_pos hq, hv]
      exact ⟨_, rfl⟩
    · rename_i hrest'
      rw [h₂'] at hrest'
      cases hrest'
  · rename_i hne
    exact absurd h₁' (hne r₁)

/-- Blanks that end before the character. -/
theorem skipBlanks_cons {blanks : List Char} {c : Char} (hb : Blanks blanks)
    (hc : isBlank c = false) (line : Nat) (rest : List Char) :
    (skipBlanks line (blanks ++ c :: rest)).line = line + newlines blanks ∧
      (skipBlanks line (blanks ++ c :: rest)).rest = c :: rest :=
  skipBlanks_run hb (by simpa using hc) line

/-- An attribute is read up to its second quote. -/
theorem readAttribute_writes {key value : String} (hk : IsName key) {quote : Char}
    {left right v : List Char} (hl : Blanks left) (hr : Blanks right)
    (hq : quote = '"' ∨ quote = '\'') (hv : WritesValue quote value.toList v) (line : Nat)
    (rest : List Char) :
    Gives (readAttribute line
        (key.toList ++ (left ++ '=' :: (right ++ quote :: (v ++ quote :: rest)))))
      (key, value) (line + newlines left + newlines right + newlines v) rest := by
  have hname : ∀ c ∈ (left ++ '=' :: (right ++ quote :: (v ++ quote :: rest))).head?,
      inName c = false := by
    intro c hc
    cases left with
    | nil => cases hc; decide
    | cons b left => cases hc; exact inName_of_isBlank (hl _ List.mem_cons_self)
  obtain ⟨ht, hd⟩ := span_run hk.2 _ hname
  have hequals : isBlank '=' = false := by decide
  obtain ⟨h₁, h₁'⟩ := skipBlanks_cons hl hequals line (right ++ quote :: (v ++ quote :: rest))
  have hquote : isBlank quote = false := by rcases hq with rfl | rfl <;> decide
  obtain ⟨h₂, h₂'⟩ := skipBlanks_cons hr hquote (line + newlines left) (v ++ quote :: rest)
  have hamp : quote ≠ '&' := by rcases hq with rfl | rfl <;> decide
  have hread := readAttribute_of (by rw [ht, String.ofList_toList]) (by rw [hd, h₁])
    (by rw [hd, h₁']) h₂ h₂' hq (readValue_writes hamp hv key _ rest)
  rwa [String.ofList_toList] at hread

/-! ## Tags -/

theorem readTag_end (name : String) (attributes : List (String × String)) {line : Nat}
    {cs rest : List Char} {closed : Bool} (h : (skipBlanks line cs).rest = tagEnd closed ++ rest) :
    Gives (readTag name attributes line cs) (attributes, closed) (skipBlanks line cs).line
      rest := by
  rw [readTag]
  dsimp only
  cases closed with
  | true =>
    split <;> rename_i hrest <;> try (rw [h] at hrest; cases hrest)
    · exact ⟨_, rfl⟩
    · rename_i hne
      exact absurd rfl hne
    · rename_i hne _ _
      exact absurd rfl (hne rest rfl)
  | false =>
    split <;> rename_i hrest <;> try (rw [h] at hrest; cases hrest)
    · exact ⟨_, rfl⟩
    · rename_i hne _ _ _
      exact absurd rfl hne

theorem readTag_attribute {name : String} {attributes : List (String × String)}
    {line l₀ l l' : Nat} {cs r r' r'' : List Char} {c : Char} {a : String × String}
    {t : List (String × String) × Bool} (hl : (skipBlanks line cs).line = l₀)
    (h : (skipBlanks line cs).rest = c :: r) (hc : startsName c = true)
    (ha : Gives (readAttribute l₀ (c :: r)) a l r')
    (hnew : attributes.any (·.1 == a.1) = false) (hlt : r'.length < cs.length)
    (ht : Gives (readTag name (attributes ++ [a]) l r') t l' r'') :
    Gives (readTag name attributes line cs) t l' r'' := by
  subst hl
  obtain ⟨hla, ha⟩ := ha
  obtain ⟨hlt', ht⟩ := ht
  have hslash : c ≠ '/' := by rintro rfl; cases hc
  have hclose : c ≠ '>' := by rintro rfl; cases hc
  rw [readTag]
  dsimp only
  split <;> rename_i hrest <;> rw [h] at hrest <;> cases hrest <;>
    try first | exact absurd rfl hslash | exact absurd rfl hclose
  rw [if_pos hc, ha]
  dsimp only [bind, Except.bind]
  rw [if_neg (Bool.eq_false_iff.1 hnew)]
  rw [dif_pos hlt, ht]
  exact ⟨_, rfl⟩

/-- An attribute in a tag is read, and then what is behind it. -/
theorem readTag_writesAttribute {a : String × String} {m : List Char} (ha : WritesAttribute a m)
    (hn : IsName a.1) {name : String} {earlier : List (String × String)} {line l : Nat}
    {tail rest : List Char} {t : List (String × String) × Bool}
    (hnew : earlier.any (·.1 == a.1) = false)
    (ht : Gives (readTag name (earlier ++ [a]) (line + newlines m) tail) t l rest) :
    Gives (readTag name earlier line (m ++ tail)) t l rest := by
  obtain ⟨quote, before, left, right, v, hq, hb, hl, hr, hv, rfl⟩ := ha
  obtain ⟨c, cs, hname, hc⟩ := hn.first
  have hquote : quote ≠ '\n' := by rcases hq with rfl | rfl <;> decide
  have hlines : line + newlines (before ++ (a.1.toList ++
        (left ++ '=' :: (right ++ quote :: (v ++ [quote]))))) =
      line + newlines before + newlines left + newlines right + newlines v := by
    simp only [newlines_append, hn.newlines, newlines_cons_of_ne hquote,
      newlines_cons_of_ne (show '=' ≠ '\n' by decide), Nat.zero_add, Nat.add_assoc]
    rfl
  rw [hlines] at ht
  obtain ⟨hline, hrest⟩ := skipBlanks_cons hb (isBlank_of_startsName hc) line
    (cs ++ (left ++ '=' :: (right ++ quote :: (v ++ quote :: tail))))
  have hread := readAttribute_writes hn hl hr hq hv (line + newlines before) tail
  rw [hname] at hread
  have htext :
      before ++ (a.1.toList ++ (left ++ '=' :: (right ++ quote :: (v ++ [quote])))) ++ tail =
        before ++ c :: (cs ++ (left ++ '=' :: (right ++ quote :: (v ++ quote :: tail)))) := by
    simp [hname]
  rw [htext]
  refine readTag_attribute hline hrest hc hread hnew ?_ ht
  simp only [List.length_append, List.length_cons]
  omega

theorem tagEnd_head (closed : Bool) (rest : List Char) :
    ∀ c ∈ (tagEnd closed ++ rest).head?, isBlank c = false ∧ inName c = false := by
  cases closed <;> (intro c hc; cases hc; decide)

/-- The attributes of a tag are read in their order, up to its end. -/
theorem readTag_writes {attributes : List (String × String)} {m : List Char}
    (ha : WritesAttributes attributes m) (earlier : List (String × String)) {blanks : List Char}
    (hn : ∀ a ∈ attributes, IsName a.1) (hd : ((earlier ++ attributes).map (·.1)).Nodup)
    (hb : Blanks blanks) (name : String) (line : Nat) (closed : Bool) (rest : List Char) :
    Gives (readTag name earlier line (m ++ (blanks ++ (tagEnd closed ++ rest))))
      (earlier ++ attributes, closed) (line + newlines m + newlines blanks) rest := by
  induction ha generalizing earlier line with
  | nil =>
    obtain ⟨hl, hr⟩ := skipBlanks_run hb (fun c hc => (tagEnd_head closed rest c hc).1) line
    have hend := readTag_end name earlier hr
    rw [hl] at hend
    simpa [newlines] using hend
  | cons ha h ih =>
    rename_i a others m m'
    have hnew : earlier.any (·.1 == a.1) = false := by
      rw [List.any_eq_false]
      intro x hx he
      rw [List.map_append, List.nodup_append] at hd
      exact hd.2.2 _ (List.mem_map_of_mem hx) a.1 (by simp) (by simpa using he)
    have hothers := ih (earlier ++ [a]) (fun x hx => hn x (List.mem_cons_of_mem _ hx))
      (by simpa using hd) (line + newlines m)
    rw [List.append_assoc, newlines_append]
    refine readTag_writesAttribute ha (hn _ List.mem_cons_self) hnew ?_
    simpa [Nat.add_assoc] using hothers

/-- A closing tag is read up to its end. -/
theorem readClosing_writes {name : String} (hn : IsName name) {blanks : List Char}
    (hb : Blanks blanks) (line : Nat) (rest : List Char) :
    Gives (readClosing line (name.toList ++ (blanks ++ '>' :: rest))) name
      (line + newlines blanks) rest := by
  have hname : ∀ c ∈ (blanks ++ '>' :: rest).head?, inName c = false := by
    intro c hc
    cases blanks with
    | nil => cases hc; decide
    | cons b blanks => cases hc; exact inName_of_isBlank (hb _ List.mem_cons_self)
  obtain ⟨ht, hd⟩ := span_run hn.2 _ hname
  have hclose : isBlank '>' = false := by decide
  obtain ⟨hl, hr⟩ := skipBlanks_cons hb hclose line rest
  rw [← hd] at hl hr
  rw [readClosing]
  split <;> rename_i hrest
  · rw [hr] at hrest
    cases hrest
    rw [hl, ht, String.ofList_toList]
    exact ⟨_, rfl⟩
  · rw [hr] at hrest
    cases hrest
  · rename_i hne
    exact absurd hr (hne rest)

/-! ## Sections and comments -/

theorem readSection_writes {p body : List Char} {x : Char} (hx : x ∉ p) {closing : String}
    (hc : closing.toList = p ++ [x]) (hb : ¬ closing.toList <:+: body) (line : Nat)
    (rest : List Char) :
    Gives (readSection closing line (body ++ (closing.toList ++ rest))) body
      (line + newlines body) rest := by
  rw [hc] at hb ⊢
  have hfind := Text.find?_first hx hb rest
  rw [readSection]
  split <;> rename_i h
  · rw [hc, hfind] at h
    cases h
    exact ⟨_, rfl⟩
  · rw [hc, hfind] at h
    cases h

/-! ## Events -/

theorem events_char {c : Char} (hc : c ≠ '<' ∧ c ≠ '&') (line : Nat) (cs : List Char) :
    events line (c :: cs) = .event (.text [c]) (events (line + newlines [c]) cs) := by
  have ho : Opening.of c cs = .char c cs := by
    unfold Opening.of
    split <;> simp_all
  rw [events]
  split <;> rename_i h <;> rw [ho] at h <;> cases h
  rfl

theorem events_entity {line l : Nat} {cs rest : List Char} {c : Char}
    (h : Gives (readEntity line cs) c l rest) :
    events line ('&' :: cs) = .event (.text [c]) (events l rest) := by
  obtain ⟨hle, h⟩ := h
  rw [events]
  split <;> rename_i ho <;> cases ho
  rw [h]

theorem events_literal {line l : Nat} {cs body rest : List Char}
    (h : Gives (readSection "]]>" line cs) body l rest) :
    events line ("<![CDATA[".toList ++ cs) = .event (.text body) (events l rest) := by
  obtain ⟨hle, h⟩ := h
  show events line ('<' :: '!' :: '[' :: 'C' :: 'D' :: 'A' :: 'T' :: 'A' :: '[' :: cs) = _
  rw [events]
  split <;> rename_i ho <;> cases ho
  rw [h]

theorem events_comment {line l : Nat} {cs body rest : List Char}
    (h : Gives (readSection "-->" line cs) body l rest) :
    events line ("<!--".toList ++ cs) = events l rest := by
  obtain ⟨hle, h⟩ := h
  show events line ('<' :: '!' :: '-' :: '-' :: cs) = _
  rw [events]
  split <;> rename_i ho <;> cases ho
  rw [h]

theorem events_closing {line l : Nat} {cs rest : List Char} {name : String}
    (h : Gives (readClosing line cs) name l rest) :
    events line ('<' :: '/' :: cs) = .event (.closing name line) (events l rest) := by
  obtain ⟨hle, h⟩ := h
  rw [events]
  split <;> rename_i ho <;> cases ho
  rw [h]

theorem events_tag {line l : Nat} {cs rest : List Char} {c : Char} {name : String}
    {attributes : List (String × String)} {closed : Bool} (hc : startsName c = true)
    (hn : String.ofList ((c :: cs).takeWhile inName) = name)
    (h : Gives (readTag name [] line ((c :: cs).dropWhile inName)) (attributes, closed) l rest) :
    events line ('<' :: c :: cs) =
      .event (.opening name attributes line closed) (events l rest) := by
  subst hn
  obtain ⟨hle, h⟩ := h
  have hslash : c ≠ '/' := by rintro rfl; cases hc
  have hbang : c ≠ '!' := by rintro rfl; cases hc
  have ho : Opening.of '<' (c :: cs) = .tag (c :: cs) := by
    unfold Opening.of
    split <;> simp_all
  rw [events]
  split <;> rename_i h' <;> rw [ho] at h' <;> cases h'
  simp only [h]

/-! ## Texts -/

namespace Nesting

variable (n : Nesting)

/-- With a text behind the one that is being gathered. -/
def gather (s : List Char) : Nesting := { n with text := n.text ++ s }

@[simp] theorem gather_nil : n.gather [] = n := by simp [gather]

theorem gather_gather (s t : List Char) : (n.gather s).gather t = n.gather (s ++ t) := by
  simp [gather]

theorem run_text (s : List Char) (rest : Stream) :
    n.run (.event (.text s) rest) = (n.gather s).run rest := rfl

end Nesting

/-- A written text is gathered. -/
theorem run_writesText {s m : List Char} (h : WritesText s m) (n : Nesting) (line : Nat)
    (rest : List Char) :
    n.run (events line (m ++ rest)) = (n.gather s).run (events (line + newlines m) rest) := by
  induction h generalizing n line with
  | nil => simp [newlines]
  | char hc h ih =>
    rename_i c s m
    rw [List.cons_append, events_char hc, n.run_text, ih, n.gather_gather, newlines_cons c m,
      Nat.add_assoc]
    rfl
  | entity hn h ih =>
    rename_i name c s m
    have hread := readEntity_refers hn line (m ++ rest)
    rw [List.cons_append, List.append_assoc, List.cons_append, events_entity hread, n.run_text,
      ih, n.gather_gather, hn.newlines]
    rfl
  | literal hb h ih =>
    rename_i body s m
    have hread := readSection_writes (p := [']', ']']) (x := '>') (by decide) rfl hb line
      (m ++ rest)
    rw [List.append_assoc, List.append_assoc, List.append_assoc, events_literal hread, n.run_text,
      ih, n.gather_gather, newlines_between rfl rfl, Nat.add_assoc]
  | comment hb h ih =>
    rename_i body s m
    have hread := readSection_writes (p := ['-', '-']) (x := '>') (by decide) rfl hb line
      (m ++ rest)
    rw [List.append_assoc, List.append_assoc, List.append_assoc, events_comment hread, ih,
      newlines_between rfl rfl, Nat.add_assoc]

/-! ## Nodes -/

namespace Nesting

/-- With a node behind those that are there. -/
def push (n : Nesting) : Node → Nesting
  | .text s => n.gather s.toList
  | .element name attributes line children =>
    ⟨.element name attributes line children :: n.flush, [], n.unclosed⟩

def pushAll (n : Nesting) (nodes : List Node) : Nesting := nodes.foldl push n

theorem pushAll_cons (n : Nesting) (node : Node) (rest : List Node) :
    n.pushAll (node :: rest) = (n.push node).pushAll rest := rfl

@[simp] theorem unclosed_push (n : Nesting) (node : Node) :
    (n.push node).unclosed = n.unclosed := by
  cases node <;> rfl

@[simp] theorem unclosed_pushAll (n : Nesting) (nodes : List Node) :
    (n.pushAll nodes).unclosed = n.unclosed := by
  induction nodes generalizing n with
  | nil => rfl
  | cons node rest ih => rw [pushAll_cons, ih, unclosed_push]

/-- Nodes in normal form are not changed by being put together, if the first one is not a text
behind another one. -/
theorem flush_pushAll {n : Nesting} {nodes : List Node} (h : Node.NormalAll nodes)
    (hn : n.text = [] ∨ ∀ m ∈ nodes.head?, m.isText = false) :
    (n.pushAll nodes).flush = nodes.reverse ++ n.flush := by
  induction nodes generalizing n with
  | nil => rfl
  | cons node rest ih =>
    obtain ⟨hnode, hside, hrest⟩ := h
    rw [pushAll_cons, List.reverse_cons, List.append_assoc]
    cases node with
    | text s =>
      have hempty : n.text = [] := hn.resolve_right fun h => absurd (h _ rfl) Bool.noConfusion
      have hs : s.toList ≠ [] := fun hs => hnode (String.toList_eq_nil_iff.1 hs)
      rw [ih hrest (.inr (hside rfl)), push, gather, flush, flush, hempty]
      simp [hs]
    | element name attributes line children =>
      rw [ih hrest (.inl rfl)]
      rfl

/-- The opening tag of an element sets aside what is there. -/
def enter (n : Nesting) (name : String) (attributes : List (String × String)) (line : Nat) :
    Nesting :=
  ⟨[], [], ⟨name, attributes, line, n.flush⟩ :: n.unclosed⟩

/-- The closing tag puts the element with its children behind what was set aside. -/
theorem run_closing {children : List Node} (h : Node.NormalAll children) (n : Nesting)
    (name : String) (attributes : List (String × String)) (line l : Nat) (rest : Stream) :
    ((n.enter name attributes line).pushAll children).run (.event (.closing name l) rest) =
      (n.push (.element name attributes line children)).run rest := by
  have hflush : ((n.enter name attributes line).pushAll children).flush = children.reverse :=
    (flush_pushAll h (.inl rfl)).trans (List.append_nil _)
  rw [run, advance, unclosed_pushAll]
  simp only [enter, if_true] at hflush ⊢
  rw [hflush, List.reverse_reverse]
  rfl

end Nesting

/-- A tag is one event, on the line of its sign. -/
theorem events_writesTag {name : String} {attributes : List (String × String)} {closed : Bool}
    {t : List Char} (h : WritesTag name attributes closed t) (hn : IsName name)
    (ha : ∀ a ∈ attributes, IsName a.1) (hd : (attributes.map (·.1)).Nodup) (line : Nat)
    (rest : List Char) :
    events line (t ++ rest) =
      .event (.opening name attributes line closed) (events (line + newlines t) rest) := by
  obtain ⟨a, blanks, hw, hfirst, hb, rfl⟩ := h
  obtain ⟨c, cs, hname, hc⟩ := hn.first
  have hend : ∀ c ∈ (a ++ (blanks ++ (tagEnd closed ++ rest))).head?, inName c = false := by
    intro c hc
    cases a with
    | cons d a => cases hc; exact inName_of_isBlank (hfirst _ rfl)
    | nil =>
      cases blanks with
      | cons b blanks => cases hc; exact inName_of_isBlank (hb _ List.mem_cons_self)
      | nil => exact (tagEnd_head closed rest c hc).2
  obtain ⟨ht, hdrop⟩ := span_run hn.2 _ hend
  have htag := readTag_writes hw [] ha hd hb name line closed rest
  have hlines : newlines ('<' :: (name.toList ++ (a ++ (blanks ++ tagEnd closed)))) =
      newlines a + newlines blanks := by
    have hclose : newlines (tagEnd closed) = 0 := by cases closed <;> rfl
    rw [newlines_cons_of_ne (by decide), newlines_append, newlines_append, newlines_append,
      hn.newlines, hclose, Nat.zero_add, Nat.add_zero]
  have htext : '<' :: (name.toList ++ (a ++ (blanks ++ tagEnd closed))) ++ rest =
      '<' :: c :: (cs ++ (a ++ (blanks ++ (tagEnd closed ++ rest)))) := by
    simp [hname]
  rw [hname] at ht hdrop
  rw [htext, hlines, ← Nat.add_assoc]
  refine events_tag hc ?_ ?_
  · rw [← List.cons_append, ht, ← hname, String.ofList_toList]
  · rw [← List.cons_append, hdrop]
    exact htag

/-- A closing tag is one event. -/
theorem events_writesClosing {name : String} {e : List Char} (h : WritesClosing name e)
    (hn : IsName name) (line : Nat) (rest : List Char) :
    events line (e ++ rest) = .event (.closing name line) (events (line + newlines e) rest) := by
  obtain ⟨blanks, hb, rfl⟩ := h
  have hlines : newlines ('<' :: '/' :: (name.toList ++ (blanks ++ ['>']))) = newlines blanks := by
    rw [newlines_cons_of_ne (by decide), newlines_cons_of_ne (by decide), newlines_append,
      newlines_append, hn.newlines, Nat.zero_add]
    rfl
  have hread := events_closing (readClosing_writes hn hb line rest)
  rw [hlines, ← hread]
  simp

/-- Written nodes are put behind those that are there. -/
theorem run_writes {before m : List Char} {nodes : List Node} (h : Writes before nodes m)
    (hn : Node.NormalAll nodes) (n : Nesting) (rest : List Char) :
    n.run (events (1 + newlines before) (m ++ rest)) =
      (n.pushAll nodes).run (events (1 + newlines (before ++ m)) rest) := by
  induction h generalizing n rest with
  | nil => simp [Nesting.pushAll]
  | gap hm h ih =>
    rw [List.append_assoc, run_writesText hm, n.gather_nil, Nat.add_assoc, ← newlines_append,
      ih hn, List.append_assoc]
  | text hm h ih =>
    rw [List.append_assoc, run_writesText hm, Nat.add_assoc, ← newlines_append, ih hn.2.2,
      List.append_assoc]
    rfl
  | single ht h ih =>
    obtain ⟨⟨hname, hattributes, hdistinct, -⟩, -, hrest⟩ := hn
    rw [List.append_assoc, events_writesTag ht hname hattributes hdistinct, Nat.add_assoc,
      ← newlines_append, ← List.append_assoc, Nesting.pushAll_cons, ← ih hrest]
    rfl
  | pair ht hc he h ihc ih =>
    rename_i before t c e m name attributes children nodes
    obtain ⟨⟨hname, hattributes, hdistinct, hchildren⟩, -, hrest⟩ := hn
    have hopen : n.run (events (1 + newlines before) (t ++ (c ++ (e ++ (m ++ rest))))) =
        (n.enter name attributes (1 + newlines before)).run
          (events (1 + newlines (before ++ t)) (c ++ (e ++ (m ++ rest)))) := by
      rw [events_writesTag ht hname hattributes hdistinct, Nat.add_assoc, ← newlines_append]
      rfl
    rw [List.append_assoc, List.append_assoc, List.append_assoc, hopen, ihc hchildren,
      events_writesClosing he hname, Nesting.run_closing hchildren, Nat.add_assoc,
      ← newlines_append, ih hrest, Nesting.pushAll_cons]
    simp only [List.append_assoc]

/-- Markup that writes nodes in normal form is read as these nodes, each element on the line of
its opening tag. -/
theorem read_writes {nodes : List Node} {markup : String} (hn : Node.NormalAll nodes)
    (h : Writes [] nodes markup.toList) : read markup = .ok nodes := by
  have hrun := run_writes h hn ⟨[], [], []⟩ []
  rw [List.append_nil] at hrun
  rw [read]
  refine hrun.trans ?_
  rw [events, Nesting.run, Nesting.unclosed_pushAll, Nesting.flush_pushAll hn (.inl rfl)]
  simp [Nesting.flush]

/-- All nodes in normal form are what some markup is read as, up to the lines of the elements. -/
theorem exists_read {nodes : List Node} (hn : Node.NormalAll nodes) :
    ∃ nodes' markup, Node.AlikeAll nodes nodes' ∧ read markup = .ok nodes' := by
  obtain ⟨nodes', m, halike, h⟩ := exists_writes nodes []
  have hn' := Node.AlikeAll.normal nodes nodes' halike hn
  exact ⟨nodes', String.ofList m, halike, read_writes hn' (by rwa [String.toList_ofList])⟩

/-- A text with a comment in it, an element over two lines with a section below it, and an element
without children. -/
def sampleText : String :=
  "a &lt;<!-- < -->b\n<if test='x &#x3e; 1'\n><![CDATA[<]]></if ><else/>"

def sample : List Node :=
  [.text "a <b\n", .element "if" [("test", "x > 1")] 2 [.text "<"], .element "else" [] 3 []]

theorem sample_normal : Node.NormalAll sample := by
  have hnames : IsName "if" ∧ IsName "else" ∧ IsName "test" := by decide
  simp [sample, Node.NormalAll, Node.Normal, Node.isText, hnames]

theorem sample_writes : Writes [] sample sampleText.toList := by
  have htext : WritesText "a <b\n".toList
      ("a &lt;".toList ++ ("<!--".toList ++ (" < ".toList ++ ("-->".toList ++ "b\n".toList)))) :=
    .char (by decide) (.char (by decide) (.entity .lt (.comment (by decide)
      (.char (by decide) (.char (by decide) .nil)))))
  have hspells : Spells 16 "3e".toList '>'.toNat :=
    .digit (.digit .nil (d := '3') (v := 3) (by decide)) (d := 'e') (v := 14) (by decide)
  have hvalue : WritesValue '\'' "x > 1".toList "x &#x3e; 1".toList :=
    .char (by decide) (.char (by decide) (.entity (.hex (.inl rfl) (by decide) hspells)
      (.char (by decide) (.char (by decide) .nil))))
  have hattribute : WritesAttribute ("test", "x > 1") " test='x &#x3e; 1'".toList :=
    ⟨'\'', " ".toList, [], [], _, .inr rfl, by decide, by decide, by decide, hvalue, rfl⟩
  have htag : WritesTag "if" [("test", "x > 1")] false "<if test='x &#x3e; 1'\n>".toList :=
    ⟨_, "\n".toList, .cons hattribute .nil, fun c hc => by cases hc; rfl, by decide, rfl⟩
  have hsection : WritesText ("<".toList ++ [])
      ("<![CDATA[".toList ++ ("<".toList ++ ("]]>".toList ++ []))) := .literal (by decide) .nil
  have hclosing : WritesClosing "if" "</if >".toList := ⟨" ".toList, by decide, rfl⟩
  have hsingle : WritesTag "else" [] true "<else/>".toList :=
    ⟨[], [], .nil, nofun, by decide, rfl⟩
  exact .text htext (.pair htag (.text (s := "<") hsection .nil) hclosing (.single hsingle .nil))

/-- The sample is read back. -/
theorem read_writes_sample : Node.NormalAll sample ∧ Writes [] sample sampleText.toList ∧
    read sampleText = .ok sample :=
  ⟨sample_normal, sample_writes, read_writes sample_normal sample_writes⟩

end MappedSql.Markup
