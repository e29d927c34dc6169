import MappedSql.Proofs.Expression.Reading
import MappedSql.Proofs.Expression.Scanning
import MappedSql.Proofs.Statement.Values

/- A path reads the same as an expression and as a path.

   A root with names and indices after it can be read by a placeholder, which cuts it at dots
   and brackets and walks down the parameter, and by an expression, which scans it, reads it
   by its grammar and evaluates what comes of that. Both come down to the same list of steps:
   the walk of the cut path (`Path.read_written`), and one step of the evaluation after the
   other (`valueOf_written`). From one value a step leads both to the same value, or neither
   can take it (`stepOf_walk`), and a path is taken step by step (`foldlM_agrees`). Only an
   index into an object is told apart: to a path it is the name of a field, to an expression
   a number. -/
namespace MappedSql

open Expression (Error Token Operator Phrase Expr fieldOf indexOf)
open Text (span_run)
open Bindings (parameterName databaseIdName)

/-! ## Paths -/

/-- How a step of a path is written. -/
def Step.chars : Step → List Char
  | .name s => '.' :: s.toList
  | .index s => '[' :: (s.toList ++ [']'])

/-- A name that is no word of an operator, or the digits of an index that a signed word holds. -/
def Step.Plain : Step → Prop
  | .name s => Token.isName s.toList = true ∧ s ∉ Operator.words
  | .index s => s.toList ≠ [] ∧ (∀ d ∈ s.toList, d.isDigit = true) ∧
      Nat.ofDigitChars 10 s.toList 0 < Word.half

namespace Path

/-- The path of a root and the steps after it. -/
def written (root : String) (steps : List Step) : String :=
  String.ofList (root.toList ++ steps.flatMap Step.chars)

/-- A path that begins with a name of the parameter. -/
structure Plain (root : String) (steps : List Step) : Prop where
  root_name : Token.isName root.toList = true
  root_word : root ∉ Operator.words
  root_value : root ∉ ["null", "true", "false"]
  root_free : root ∉ [parameterName, databaseIdName]
  steps : ∀ s ∈ steps, s.Plain

/-! ## Reading a path -/

variable (whole : String) {rest : List Char}

theorem stepsOf_name {w : List Char} (hw : Token.isName w = true)
    (hrest : ∀ c ∈ rest.head?, isBreak c = true) :
    stepsOf whole (w ++ rest) =
      (stepsOf whole (afterDot rest)).map (.name (String.ofList w) :: ·) := by
  have hname := Token.isName_forall hw
  have hbreak : ∀ c ∈ w, (!isBreak c) = true := fun c hc => by
    rw [Placeholder.isBreak_of_inName (hname.2 c hc)]
    rfl
  obtain ⟨htake, hdrop⟩ := span_run hbreak rest fun c hc => by rw [hrest c hc]; rfl
  have htrim : Text.trimmed w = w := Placeholder.trimmed_of_not_blank fun c hc =>
    Placeholder.isBlank_of_inName (hname.2 c hc)
  cases w with
  | nil => cases hw
  | cons c cs =>
    rw [List.cons_append] at htake hdrop ⊢
    rw [stepsOf]
    · simp only [htake, hdrop, htrim]
      rw [dif_neg (List.cons_ne_nil c cs)]
      cases stepsOf whole (afterDot rest) <;> rfl
    · rintro rfl
      exact absurd (hname.2 '[' List.mem_cons_self) (by decide)

theorem stepsOf_index {ds : List Char} (h : ∀ d ∈ ds, d.isDigit = true) :
    stepsOf whole ('[' :: (ds ++ ']' :: rest)) =
      (stepsOf whole (afterDot rest)).map (.index (String.ofList ds) :: ·) := by
  have hcut : Text.cut? ']' (ds ++ ']' :: rest) = some (ds, rest) :=
    Text.cut?_append_cons fun hmem => absurd (h ']' hmem) (by decide)
  have htrim : Text.trimmed ds = ds := Placeholder.trimmed_of_not_blank fun d hd =>
    (Token.digit_apart (h d hd)).1
  have hquote : unquoted ds = ds := Text.strip_run fun d hd => by
    have := (Token.digit_apart (h d hd)).2.2.1
    rw [not_or] at this
    simp [isQuote, this]
  rw [stepsOf]
  split
  · rename_i heq
    rw [hcut] at heq
    cases heq
  · rename_i heq
    obtain ⟨rfl, rfl⟩ := Prod.mk.inj (Option.some.inj (heq.symm.trans hcut))
    rw [htrim, hquote]
    cases stepsOf whole (afterDot _) <;> rfl

theorem isBreak_steps (steps : List Step) :
    ∀ c ∈ (steps.flatMap Step.chars).head?, isBreak c = true := by
  intro c hc
  cases steps with
  | nil => cases hc
  | cons s steps => cases s <;> cases hc <;> decide

theorem inName_steps (steps : List Step) :
    ∀ c ∈ (steps.flatMap Step.chars).head?, Token.inName c = false := by
  refine fun c hc => Bool.eq_false_iff.2 fun hn => ?_
  have hbreak := isBreak_steps steps c hc
  rw [Placeholder.isBreak_of_inName hn] at hbreak
  cases hbreak

/-- The steps of a path are read as they are. -/
theorem stepsOf_chars {steps : List Step} (h : ∀ s ∈ steps, s.Plain) :
    stepsOf whole (afterDot (steps.flatMap Step.chars)) = .ok steps := by
  induction steps with
  | nil =>
    show stepsOf whole [] = _
    rw [stepsOf]
  | cons s steps ih =>
    have hs := h s List.mem_cons_self
    have ih := ih fun s' hs' => h s' (List.mem_cons_of_mem s hs')
    rw [List.flatMap_cons]
    cases s with
    | name s =>
      show stepsOf whole (s.toList ++ steps.flatMap Step.chars) = _
      rw [stepsOf_name whole hs.1 (isBreak_steps steps), ih, String.ofList_toList]
      rfl
    | index s =>
      show stepsOf whole ('[' :: (s.toList ++ [']'] ++ steps.flatMap Step.chars)) = _
      rw [List.append_assoc, List.singleton_append, stepsOf_index whole hs.2.1, ih,
        String.ofList_toList]
      rfl

theorem isBlank_chars {s : Step} (h : s.Plain) : ∀ c ∈ s.chars, Text.isBlank c = false := by
  have hname : ∀ c, Token.inName c = true → Text.isBlank c = false :=
    fun c => Placeholder.isBlank_of_inName
  cases s with
  | name s =>
    refine List.forall_mem_cons.2 ⟨by decide, fun c hc => ?_⟩
    exact hname c ((Token.isName_forall h.1).2 c hc)
  | index s =>
    refine List.forall_mem_cons.2 ⟨by decide, fun c hc => ?_⟩
    rcases List.mem_append.1 hc with hc | hc
    · exact (Token.digit_apart (h.2.1 c hc)).1
    · cases List.mem_singleton.1 hc
      decide

variable {root : String} {steps : List Step}

theorem trim_written (h : Plain root steps) :
    Text.trim (written root steps) = written root steps := by
  rw [Text.trim, written, String.toList_ofList, Placeholder.trimmed_of_not_blank]
  intro c hc
  rcases List.mem_append.1 hc with hc | hc
  · exact Placeholder.isBlank_of_inName ((Token.isName_forall h.root_name).2 c hc)
  · obtain ⟨s, hs, hc⟩ := List.mem_flatMap.1 hc
    exact isBlank_chars (h.steps s hs) c hc

theorem parse_written (h : Plain root steps) :
    parse (written root steps) = .ok (.name root :: steps) := by
  rw [parse, written, String.toList_ofList,
    stepsOf_name _ h.root_name (isBreak_steps steps), stepsOf_chars _ h.steps,
    String.ofList_toList]
  rfl

theorem walk_null (steps : List Step) : walk .null steps = .ok .null := by
  cases steps <;> rfl

/-- What a path reads of an object: the steps after its root go on from the field of that name. -/
theorem read_written (h : Plain root steps) (fields : Fields) :
    Value.read (.obj fields) (written root steps) =
      walk ((Fields.get? fields root).getD .null) steps := by
  rw [Value.read, trim_written h, parse_written h]
  show walk (.obj fields) (.name root :: steps) = _
  simp only [walk, Step.text]
  cases Fields.get? fields root with
  | none => exact (walk_null steps).symm
  | some v => rfl

end Path

/-! ## Paths as expressions -/

namespace Expression

/-- An operand on its own. -/
def Phrase.ofOperand (p : Phrase .operand) : Phrase .disjunction :=
  .disjunction (.conjunction (.notNegated (.notCompared (.sum (.notNegative p) .noSummand)))
    .noConjunct) .noDisjunct

@[simp] theorem Phrase.tokens_ofOperand (p : Phrase .operand) :
    p.ofOperand.tokens = p.tokens := by
  simp [ofOperand, tokens]

/-- The steps of a path as steps of an expression. -/
def Phrase.ofSteps : List Step → Phrase .steps
  | [] => .noStep
  | .name s :: steps => .field s (ofSteps steps)
  | .index s :: steps =>
    .index (ofOperand (.number (.int (Nat.ofDigitChars 10 s.toList 0)))) (ofSteps steps)

theorem scanAll_steps {steps : List Step} (h : ∀ s ∈ steps, s.Plain) :
    Token.scanAll (steps.flatMap Step.chars) = .ok (Phrase.ofSteps steps).tokens := by
  induction steps with
  | nil =>
    show Token.scanAll [] = _
    rw [Token.scanAll]
    rfl
  | cons s steps ih =>
    have hs := h s List.mem_cons_self
    have ih := ih fun s' hs' => h s' (List.mem_cons_of_mem s hs')
    rw [List.flatMap_cons]
    cases s with
    | name s =>
      show Token.scanAll ('.' :: (s.toList ++ steps.flatMap Step.chars)) = _
      rw [Token.scanAll_of_scan (by decide) rfl, Token.scanAll_word hs.1 (Path.inName_steps steps),
        ih, String.ofList_toList, Token.ofWord_name hs.2]
      rfl
    | index s =>
      show Token.scanAll ('[' :: (s.toList ++ [']'] ++ steps.flatMap Step.chars)) = _
      rw [Token.scanAll_of_scan (by decide) rfl, List.append_assoc, List.singleton_append,
        Token.scanAll_digits hs.1 hs.2.1 hs.2.2 (fun c hc => by cases hc; decide),
        Token.scanAll_of_scan (by decide) rfl, ih]
      simp [Phrase.ofSteps, Phrase.tokens, Except.map]

/-- The root of a path and its steps as an operand. -/
def Phrase.ofPath (root : String) (h : root ∉ ["null", "true", "false"]) (steps : List Step) :
    Phrase .disjunction :=
  ofOperand (.path root h (ofSteps steps))

theorem parse_written {root : String} {steps : List Step} (h : Path.Plain root steps) :
    Expr.parse (Path.written root steps) = .ok ((Phrase.ofSteps steps).tree (.name root)) := by
  have hscan : Token.scanAll (Path.written root steps).toList =
      .ok (Phrase.ofPath root h.root_value steps).tokens := by
    rw [Path.written, String.toList_ofList,
      Token.scanAll_word h.root_name (Path.inName_steps steps), scanAll_steps h.steps,
      String.ofList_toList, Token.ofWord_name h.root_word]
    simp [Phrase.ofPath, Phrase.tokens, Except.map]
  have hparse : (do Expr.ofTokens (← Token.scanAll (Path.written root steps).toList)) =
      Except.ok (Phrase.ofPath root h.root_value steps).tree := by
    rw [hscan]
    exact Expr.ofTokens_tokens _
  rw [Expr.parse, hparse]
  rfl

/-- What an expression reads of a value by one step of a path. -/
def stepOf (v : Value) : Step → Except Error Value
  | .name s => fieldOf v s
  | .index s => indexOf v (.num (.int (Nat.ofDigitChars 10 s.toList 0)))

theorem eval_ofSteps (b : Bindings) (steps : List Step) (e : Expr) :
    ((Phrase.ofSteps steps).tree e).eval b = e.eval b >>= fun v => steps.foldlM stepOf v := by
  induction steps generalizing e with
  | nil =>
    show e.eval b = _
    cases e.eval b <;> rfl
  | cons s steps ih =>
    cases s with
    | name s =>
      show ((Phrase.ofSteps steps).tree (.field e s)).eval b = _
      rw [ih, Expr.eval, bind_assoc]
      rfl
    | index s =>
      show ((Phrase.ofSteps steps).tree (.index e (.literal _))).eval b = _
      rw [ih, Expr.eval, bind_assoc]
      rfl

theorem valueOf_written {root : String} {steps : List Step} (h : Path.Plain root steps)
    (fields : Fields) (databaseId : Option String) :
    valueOf (Bindings.start (.obj fields) databaseId) (Path.written root steps) =
      steps.foldlM stepOf ((Fields.get? fields root).getD .null) := by
  have hfree : root ≠ databaseIdName ∧ root ≠ parameterName := by
    simpa [and_comm] using h.root_free
  have hroot : (Expr.name root).eval (Bindings.start (.obj fields) databaseId) =
      .ok ((Fields.get? fields root).getD .null) := by
    have hne : parameterName ≠ databaseIdName := by decide
    simp only [Expr.eval, Bindings.resolve, Bindings.parameter, Bindings.get?_start,
      if_neg hfree.1, if_neg hfree.2, if_neg hne, if_true, Option.getD_some]
  rw [valueOf, parse_written h]
  show ((Phrase.ofSteps steps).tree (.name root)).eval _ = _
  rw [eval_ofSteps, hroot]
  rfl

/-! ## Both readings -/

/-- The same value, or on either side a step into a value of one kind that has no such part. -/
def Agree (x y : Except Error Value) : Prop :=
  (∃ v, x = .ok v ∧ y = .ok v) ∨
    ∃ s s' k, x = .error (.notNavigable s k) ∧ y = .error (.notNavigable s' k)

/-- The part of a list at an index. -/
theorem walk_index (items : List Value) {s : String} (hs : (Step.index s).Plain)
    (steps : List Step) : Path.walk (.arr items) (.index s :: steps) =
      Path.walk ((items[Nat.ofDigitChars 10 s.toList 0]?).getD .null) steps := by
  have hbound : Nat.ofDigitChars 10 s.toList 0 < Word.count :=
    Nat.lt_trans hs.2.2 (by decide)
  simp only [Path.walk, Text.readBelow?_digits hs.1 hs.2.1 hbound]
  cases items[Nat.ofDigitChars 10 s.toList 0]? with
  | none => exact (Path.walk_null steps).symm
  | some v => rfl

/-- One step, unless it is an index into an object, leads both readings to the same value or fails
in both. -/
theorem stepOf_walk (v : Value) {s : Step} (hs : s.Plain) (h : ∀ i f, s = .index i → v ≠ .obj f) :
    (∃ v', stepOf v s = .ok v' ∧ ∀ steps, Path.walk v (s :: steps) = Path.walk v' steps) ∨
      ∃ t t' k, stepOf v s = .error (.notNavigable t k) ∧
        ∀ steps, Path.walk v (s :: steps) = .error (.notNavigable t' k) := by
  cases v with
  | null => exact .inl ⟨.null, by cases s <;> rfl, fun steps => (Path.walk_null steps).symm⟩
  | bool | num | str => cases s <;> exact .inr ⟨_, _, _, rfl, fun steps => rfl⟩
  | arr items =>
    cases s with
    | name s => exact .inr ⟨s, s, _, rfl, fun steps => rfl⟩
    | index s => exact .inl ⟨_, rfl, walk_index items hs⟩
  | obj f =>
    cases s with
    | name s =>
      refine .inl ⟨_, rfl, fun steps => ?_⟩
      simp only [Path.walk, Step.text]
      cases Fields.get? f s with
      | none => exact (Path.walk_null steps).symm
      | some v => rfl
    | index i => exact absurd rfl (h i f rfl)

/-- A path whose indices meet no object. -/
theorem foldlM_agrees (v : Value) {steps : List Step} (hs : ∀ s ∈ steps, s.Plain)
    (h : ∀ front i back, steps = front ++ .index i :: back →
      ∀ f, Path.walk v front ≠ .ok (.obj f)) :
    Agree (steps.foldlM stepOf v) (Path.walk v steps) := by
  induction steps generalizing v with
  | nil => exact .inl ⟨v, rfl, rfl⟩
  | cons s steps ih =>
    have hfirst : ∀ i f, s = .index i → v ≠ .obj f := by
      rintro i f rfl rfl
      exact h [] i steps rfl f rfl
    rcases stepOf_walk v (hs s List.mem_cons_self) hfirst with
      ⟨v', hstep, hwalk⟩ | ⟨t, t', k, hstep, hwalk⟩
    · rw [List.foldlM_cons, hstep, hwalk]
      refine ih v' (fun s' hs' => hs s' (List.mem_cons_of_mem s hs')) ?_
      intro front i back hback f
      rw [← hwalk front]
      exact h (s :: front) i back (by rw [hback]; rfl) f
    · rw [List.foldlM_cons, hstep, hwalk]
      exact .inr ⟨t, t', k, rfl, rfl⟩

/-- Where no index stands for the name of a field, a path has the same value as an expression and as
a path into the parameter, or neither reading gets past a value that has no such part. -/
theorem valueOf_agrees_read {root : String} {steps : List Step} (h : Path.Plain root steps)
    (fields : Fields) (databaseId : Option String)
    (hobj : ∀ front i back, steps = front ++ .index i :: back →
      ∀ f, Value.read (.obj fields) (Path.written root front) ≠ .ok (.obj f)) :
    Agree (valueOf (Bindings.start (.obj fields) databaseId) (Path.written root steps))
      (Value.read (.obj fields) (Path.written root steps)) := by
  rw [valueOf_written h, Path.read_written h]
  refine foldlM_agrees _ h.steps fun front i back hback f => ?_
  have hsteps : ∀ s ∈ front, s.Plain := fun s hs =>
    h.steps s (by rw [hback]; exact List.mem_append_left _ hs)
  rw [← Path.read_written { h with steps := hsteps }]
  exact hobj front i back hback f

/-- A field of an item of a list. -/
theorem valueOf_agrees_read_item :
    Path.Plain "lines" [.index "1", .name "sku"] ∧
      Agree
        (valueOf (Bindings.start (.obj [("lines", .arr [.null, .obj [("sku", .str "x")]])]) none)
          "lines[1].sku")
        (Value.read (.obj [("lines", .arr [.null, .obj [("sku", .str "x")]])]) "lines[1].sku") := by
  have hplain : Path.Plain "lines" [.index "1", .name "sku"] :=
    { root_name := by decide
      root_word := by decide
      root_value := by decide
      root_free := by decide
      steps := List.forall_mem_cons.2 ⟨⟨by decide, List.all_eq_true.1 (by decide), by decide⟩,
        List.forall_mem_cons.2 ⟨⟨by decide, by decide⟩, by simp⟩⟩ }
  refine ⟨hplain, valueOf_agrees_read hplain _ none ?_⟩
  intro front i back hback f
  -- the only index follows the root, which is a list
  cases front with
  | nil =>
    rw [Path.read_written { hplain with steps := by simp }]
    exact fun h => by cases h
  | cons s front =>
    obtain ⟨-, hback⟩ := List.cons.inj hback
    cases front with
    | nil => cases hback
    | cons s' front => exact absurd (List.cons.inj hback).2 (by simp)

end Expression

end MappedSql
