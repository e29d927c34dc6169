/- Cutting text at a character or at a piece of text.

   `cut?` cuts at the first occurrence of a character, `find?` at the first
   occurrence of a piece; both return what stands before it and what follows it.
   `fields` cuts at every occurrence. The lemmas say that nothing is lost and that
   the cut is the first one. -/
namespace MappedSql.Text

/-- What stands before the first `c`, and what follows it. -/
def cut? (c : Char) : List Char → Option (List Char × List Char)
  | [] => none
  | d :: rest =>
    if d = c then some ([], rest)
    else (cut? c rest).map fun (before, after) => (d :: before, after)

/-- The pieces between the occurrences of `c`; one piece if there is none. -/
def fields (c : Char) : List Char → List (List Char)
  | [] => [[]]
  | d :: rest =>
    if d = c then [] :: fields c rest
    else match fields c rest with
      | [] => [[d]]
      | f :: fs => (d :: f) :: fs

/-- What remains of a text that begins with `piece`. -/
def dropPiece? : (piece text : List Char) → Option (List Char)
  | [], text => some text
  | _ :: _, [] => none
  | p :: ps, c :: cs => if p = c then dropPiece? ps cs else none

/-- What stands before the first occurrence of `piece`, and what follows it. -/
def find? (piece : List Char) : List Char → Option (List Char × List Char)
  | [] => if piece.isEmpty then some ([], []) else none
  | c :: cs =>
    match dropPiece? piece (c :: cs) with
    | some rest => some ([], rest)
    | none => (find? piece cs).map fun (before, after) => (c :: before, after)

def contains (piece text : List Char) : Bool := (find? piece text).isSome

/-- A run of characters that is over at the next one. -/
theorem span_run {p : Char → Bool} {cs : List Char} (h : ∀ c ∈ cs, p c = true)
    (rest : List Char) (hr : ∀ c ∈ rest.head?, p c = false) :
    (cs ++ rest).takeWhile p = cs ∧ (cs ++ rest).dropWhile p = rest := by
  rw [List.takeWhile_append_of_pos h, List.dropWhile_append_of_pos h]
  cases rest with
  | nil => simp
  | cons c rest =>
    have hc : p c = false := hr c rfl
    simp [hc]

/-- A text without any of the characters that are taken off its ends is left as it is. -/
theorem strip_run {p : Char → Bool} {cs : List Char} (h : ∀ c ∈ cs, p c = false) :
    ((cs.dropWhile p).reverse.dropWhile p).reverse = cs := by
  have drop : ∀ ds : List Char, (∀ c ∈ ds, p c = false) → ds.dropWhile p = ds := by
    intro ds hd
    cases ds with
    | nil => rfl
    | cons d ds => exact List.dropWhile_cons_of_neg (by simp [hd d List.mem_cons_self])
  rw [drop cs h, drop cs.reverse fun c hc => h c (List.mem_reverse.1 hc), List.reverse_reverse]

theorem cut?_eq_some {c : Char} {cs before after : List Char}
    (h : cut? c cs = some (before, after)) : cs = before ++ c :: after ∧ c ∉ before := by
  induction cs generalizing before with
  | nil => simp [cut?] at h
  | cons d rest ih =>
    by_cases hd : d = c
    · simp [cut?, hd] at h
      obtain ⟨rfl, rfl⟩ := h
      simp [hd]
    · simp only [cut?, hd, if_false, Option.map_eq_some_iff] at h
      obtain ⟨⟨b, a⟩, hb, he⟩ := h
      simp only [Prod.mk.injEq] at he
      obtain ⟨rfl, rfl⟩ := he
      obtain ⟨rfl, hn⟩ := ih hb
      exact ⟨rfl, by simp [hn, Ne.symm hd]⟩

theorem cut?_append_cons {c : Char} {before after : List Char} (h : c ∉ before) :
    cut? c (before ++ c :: after) = some (before, after) := by
  induction before with
  | nil => simp [cut?]
  | cons d rest ih =>
    simp only [List.mem_cons, not_or] at h
    simp [cut?, Ne.symm h.1, ih h.2]

theorem cut?_eq_none_iff {c : Char} {cs : List Char} : cut? c cs = none ↔ c ∉ cs := by
  induction cs with
  | nil => simp [cut?]
  | cons d rest ih =>
    by_cases hd : d = c
    · simp [cut?, hd]
    · simp [cut?, hd, ih, Ne.symm hd]

theorem cut?_length_lt {c : Char} {cs before after : List Char}
    (h : cut? c cs = some (before, after)) : after.length < cs.length := by
  obtain ⟨rfl, -⟩ := cut?_eq_some h
  simp only [List.length_append, List.length_cons]
  omega

theorem dropPiece?_eq_some {piece text rest : List Char} :
    dropPiece? piece text = some rest ↔ text = piece ++ rest := by
  induction piece generalizing text with
  | nil => simp [dropPiece?, eq_comm]
  | cons p ps ih =>
    cases text with
    | nil => simp [dropPiece?]
    | cons c cs =>
      by_cases h : p = c
      · simp [dropPiece?, h, ih]
      · simp [dropPiece?, h, Ne.symm h]

theorem find?_eq_some {piece cs before after : List Char}
    (h : find? piece cs = some (before, after)) : cs = before ++ piece ++ after := by
  induction cs generalizing before with
  | nil =>
    by_cases hp : piece.isEmpty
    · simp [find?, hp] at h
      simp_all [List.isEmpty_iff]
    · simp [find?, hp] at h
  | cons c cs ih =>
    unfold find? at h
    split at h
    · rename_i rest hr
      simp only [Option.some.injEq, Prod.mk.injEq] at h
      obtain ⟨rfl, rfl⟩ := h
      simpa using dropPiece?_eq_some.1 hr
    · simp only [Option.map_eq_some_iff] at h
      obtain ⟨⟨b, a⟩, hb, he⟩ := h
      simp only [Prod.mk.injEq] at he
      obtain ⟨rfl, rfl⟩ := he
      simp [ih hb]

theorem find?_length {piece cs before after : List Char}
    (h : find? piece cs = some (before, after)) :
    before.length + piece.length + after.length = cs.length := by
  rw [find?_eq_some h]
  simp only [List.length_append]

/-- A piece of text that ends with a character it has nowhere else is found where it first
stands. -/
theorem find?_first {p body : List Char} {x : Char} (hx : x ∉ p) (hb : ¬ p ++ [x] <:+: body)
    (rest : List Char) :
    find? (p ++ [x]) (body ++ (p ++ [x] ++ rest)) = some (body, rest) := by
  induction body with
  | nil =>
    obtain ⟨c, cs, hc⟩ : ∃ c cs, p ++ [x] ++ rest = c :: cs := by cases p <;> simp
    rw [List.nil_append, hc, find?, dropPiece?_eq_some.2 hc.symm]
  | cons b body ih =>
    have hnone : dropPiece? (p ++ [x]) (b :: body ++ (p ++ [x] ++ rest)) = none := by
      refine Option.eq_none_iff_forall_ne_some.2 fun r hr => ?_
      have heq := dropPiece?_eq_some.1 hr
      rcases Nat.lt_or_ge (b :: body).length (p ++ [x]).length with hlt | hge
      · -- the last character would stand in the middle of the piece
        have hget : (b :: body ++ (p ++ [x] ++ rest))[p.length]? = some x := by
          rw [heq]
          simp
        have hle : (b :: body).length ≤ p.length := by
          rw [List.length_append] at hlt
          exact Nat.le_of_lt_succ hlt
        have hpos : 0 < (b :: body).length := Nat.succ_pos _
        rw [List.getElem?_append_right hle, List.append_assoc,
          List.getElem?_append_left (by omega)] at hget
        exact hx (List.mem_of_getElem? hget)
      · have hpre : p ++ [x] <+: b :: body :=
          List.prefix_of_prefix_length_le ⟨r, heq.symm⟩ (List.prefix_append _ _) hge
        exact hb hpre.isInfix
    rw [List.cons_append] at hnone ⊢
    rw [find?, hnone, ih fun h => hb (h.trans (List.suffix_cons b body).isInfix)]
    rfl

theorem fields_ne_nil (c : Char) (cs : List Char) : fields c cs ≠ [] := by
  cases cs with
  | nil => simp [fields]
  | cons d rest => unfold fields; split <;> (try split) <;> simp

theorem intercalate_fields (c : Char) (cs : List Char) : [c].intercalate (fields c cs) = cs := by
  induction cs with
  | nil => rfl
  | cons d rest ih =>
    obtain ⟨f, fs, hf⟩ := List.exists_cons_of_ne_nil (fields_ne_nil c rest)
    rw [hf] at ih
    by_cases h : d = c
    · simp only [fields, h, if_true, hf]
      conv => rhs; rw [← ih]
      cases fs <;> simp [List.intercalate]
    · simp only [fields, h, if_false, hf]
      conv => rhs; rw [← ih]
      cases fs <;> simp [List.intercalate]

end MappedSql.Text
