import MappedSql.Proofs.Template.Tracking

/- A composition goes as the walk over its template.

   `Tracks.round` is the step of a loop: a round is composed in the scope of its variables, and
   its text writes the same placeholders in the scope around the loop. From it follow the rounds
   of a loop by induction on the items, and a template by induction on the tree
   (`Template.compose_tracks`). -/
namespace MappedSql

open Placeholder (Clean endsOpen Sealed)
open Expression (Item)
open Text (trimRight)
open Template (every everyPart everyBranch isPlainText isPlainLoop isSeamlessText isSeamlessLoop
  isVariable mentions mentionsAll mentionsFirst)

/-! ## Rounds -/

section

variable {start : Bindings} {l : Loop} {s : Scope} {c : Composition} {body : Compose Bool}

/-- The state in which the body of a round is composed. -/
def Composition.entered (c : Composition) (l : Loop) (i : Item) : Composition :=
  (c.count.withVariable l.index c.counter i.key).withVariable l.item c.counter i.element

theorem Composition.entered_bindings {i : Item} (hb : c.bindings = s.bindings start) :
    (c.entered l i).bindings = (s.enter l i).bindings start := by
  rw [entered, withVariable_bindings, withVariable_bindings, Scope.bindings, Scope.enter,
    List.foldr_append, List.foldr_append]
  rw [show c.count.bindings = c.bindings from rfl, hb]
  rfl

theorem Composition.Fresh.entered (h : c.Fresh) (l : Loop) (i : Item) : (c.entered l i).Fresh := by
  have hcount : c.count.Fresh := by
    refine ⟨h.bound, h.ordered, fun name v hv => ?_⟩
    obtain ⟨n, number, hname, hlt⟩ := h.used name v hv
    exact ⟨n, number, hname, Nat.lt_succ_of_lt hlt⟩
  have hlt : c.counter < c.count.counter := Nat.lt_succ_self _
  exact (hcount.withVariable hlt).withVariable (by simpa using hlt)

/-- What stood in the side table before a round stays there. -/
theorem Composition.Fresh.side_entered (h : c.Fresh) (l : Loop) (i : Item) {name : String}
    {v : Value} (hv : Fields.get? c.side name = some v) :
    Fields.get? (c.entered l i).side name = some v := by
  obtain ⟨n, number, rfl, hlt⟩ := h.used name v hv
  have hne : number ≠ c.counter := Nat.ne_of_lt hlt
  rw [Composition.entered, get?_withVariable fun _ => hne, get?_withVariable fun _ => hne]
  exact hv

theorem Composition.get?_element {i : Item} : ∀ n ∈ l.item,
    Fields.get? (c.entered l i).side (Loop.freshName n c.counter) = some i.element := by
  intro n hn
  rw [entered, show l.item = some n from hn]
  exact get?_withVariable_self

theorem Composition.get?_key {i : Item} : ∀ n ∈ l.index, l.item ≠ some n →
    Fields.get? (c.entered l i).side (Loop.freshName n c.counter) = some i.key := by
  intro n hn hne
  rw [entered, get?_withVariable fun h => absurd h hne, show l.index = some n from hn]
  exact get?_withVariable_self

theorem Template.isPlainLoop_iff : isPlainLoop l = true ↔
    (∀ n ∈ l.item, isVariable n = true) ∧ (∀ n ∈ l.index, isVariable n = true) ∧
      Clean l.opening.toList ∧ Clean l.separator.toList ∧ Clean l.closing.toList := by
  simp [isPlainLoop, and_assoc, Option.all_eq_true]

/-- The text of a round writes the placeholders of the body, in the scope around the loop. -/
theorem Writes.roundText {side : Fields} {i : Item} {number : Nat} {text : String}
    {ms : List Mention} (hl : isPlainLoop l = true)
    (helement : ∀ n ∈ l.item, Fields.get? side (Loop.freshName n number) = some i.element)
    (hkey : ∀ n ∈ l.index, l.item ≠ some n →
      Fields.get? side (Loop.freshName n number) = some i.key)
    (h : Writes side (s.enter l i) text.toList ms)
    (hends : endsOpen (trimRight text.toList) = false) :
    Writes side s (l.roundText number text).toList ms ∧
      Sealed (l.roundText number text).toList := by
  obtain ⟨hitem, hindex, -⟩ := Template.isPlainLoop_iff.1 hl
  obtain ⟨contents, hc, hm⟩ := h
  have hc := hc.trimmed
  rw [Loop.roundText, String.toList_ofList]
  constructor
  · refine ⟨_, l.contents_renameAll number hc fun content _ hbrace => ?_, ?_⟩
    · rw [Loop.renamed_eq]
      refine Loop.not_mem_renameVariable (by decide) hindex number ?_
      exact Loop.not_mem_renameVariable (by decide) hitem number hbrace
    · rw [List.forall₂_map_left_iff]
      exact hm.imp fun content m hs => hs.round hitem hindex helement hkey
  · rw [Sealed, l.getLast?_renameAll number hc]
    exact Placeholder.sealed_trimmed hends

/-- What a round leaves behind: its text, and a state with the names bound as before. -/
structure Rounded (s : Scope) (c : Composition) (text : String) (ms : List Mention)
    (c' : Composition) : Prop where
  kept : c.Kept c'
  buffer : c'.buffer = c.buffer
  writes : Writes c'.side s text.toList ms
  closed : Sealed text.toList

/-- The state after a round whose body has ended in the state. -/
def Composition.left (c : Composition) (l : Loop) (i : Item) (ended : Composition) : Composition :=
  (ended.pop.2.withoutVariable l.item
    (c.count.withVariable l.index c.counter i.key)).withoutVariable l.index c.count

theorem Composition.left_bindings {i : Item} {c' : Composition} (hbound : Fields.Ordered c.bindings)
    (h : c'.pop.2.bindings = (c.entered l i).bindings) :
    (c.left l i c').bindings = c.bindings := by
  have hcount : Fields.Ordered c.count.bindings := hbound
  have hinner : (c'.pop.2.withoutVariable l.item
      (c.count.withVariable l.index c.counter i.key)).bindings =
        (c.count.withVariable l.index c.counter i.key).bindings :=
    withoutVariable_bindings (ordered_withVariable hcount) c.counter i.element h
  exact withoutVariable_bindings hcount c.counter i.key hinner

/-- What the body of a round has composed in the scope of the round. -/
theorem Composed.rounded {i : Item} {c' : Composition} {ms : List Mention}
    (hl : isPlainLoop l = true) (hf : c.Fresh)
    (h : Composed true (s.enter l i) (c.entered l i).push ms c') :
    Rounded s c (l.roundText c.counter c'.pop.1) ms (c.left l i c') := by
  have hpop : c'.pop = (c'.buffer,
      { c' with buffer := (c.entered l i).buffer, outer := (c.entered l i).outer }) := by
    unfold Composition.pop
    rw [h.kept.outer]
    rfl
  have hside : ∀ name v, Fields.get? (c.entered l i).side name = some v →
      Fields.get? c'.side name = some v := h.kept.side
  have hbindings : (c.left l i c').bindings = c.bindings := by
    refine Composition.left_bindings hf.bound ?_
    rw [hpop]
    exact h.kept.bindings
  obtain ⟨cs, hcs, hw, -, hends⟩ := h.text
  have htext : c'.buffer.toList = cs := by simpa [Composition.push] using hcs
  rw [← htext] at hw hends
  -- the fresh names of the round are in the side table from its start on
  have hround := Writes.roundText hl (fun n hn => hside _ _ (Composition.get?_element n hn))
    (fun n hn hne => hside _ _ (Composition.get?_key n hn hne)) hw (hends rfl)
  rw [Composition.left, hpop] at hbindings ⊢
  refine ⟨⟨hbindings, ?_, ?_, fun name v hv => ?_, ?_⟩, ?_, ?_, hround.2⟩
  · simp [Composition.entered, Composition.count]
  · have hle : c.counter + 1 ≤ c'.counter := by
      simpa [Composition.entered, Composition.push, Composition.count] using h.kept.counter
    simpa using Nat.le_of_succ_le hle
  · simpa using hside name v (hf.side_entered l i hv)
  · have hfresh := h.kept.fresh
    refine ⟨?_, by simpa using hfresh.ordered, by simpa using hfresh.used⟩
    rw [hbindings]
    exact hf.bound
  · simp [Composition.entered, Composition.count]
  · simpa using hround.1

theorem Tracks.round {i : Item} {y : Except Template.Error (List Mention)}
    (hl : isPlainLoop l = true) (hf : c.Fresh) (hb : c.bindings = s.bindings start)
    (hbody : ∀ c', c'.Fresh → c'.bindings = (s.enter l i).bindings start →
      Tracks c' body y fun _ ms c'' => Composed true (s.enter l i) c' ms c'') :
    Tracks c (Compose.round l body i) y (Rounded s c) := by
  have hentered := hf.entered l i
  have hrun := hbody (c.entered l i).push
    ⟨hentered.bound, hentered.ordered, hentered.used⟩ (Composition.entered_bindings hb)
  refine Tracks.before (show Compose.nextNumber c = (.ok c.counter, c.count) from rfl) ?_
  refine Tracks.after (Tracks.withVariable (Tracks.withVariable (Tracks.captured ?_)))
  exact hrun.imp fun _ ms c' h => h.rounded hl hf

/-- The rounds of a loop, by induction on the items; a round whose text is empty has no
placeholders. -/
theorem Tracks.rounds (hl : isPlainLoop l = true) (ho : endsOpen l.separator.toList = false)
    {walk : Item → Except Template.Error (List Mention)}
    (hbody : ∀ i c', c'.Fresh → c'.bindings = (s.enter l i).bindings start →
      Tracks c' body (walk i) fun _ ms c'' => Composed true (s.enter l i) c' ms c'')
    (items : List Item) : ∀ c : Composition, c.Fresh → c.bindings = s.bindings start →
      Tracks c (Compose.rounds l body items) (items.mapM walk) fun texts rounds c' =>
        c.Kept c' ∧ c'.buffer = c.buffer ∧ Joined l c'.side s texts rounds.flatten := by
  induction items with
  | nil =>
    intro c hf hb
    exact Tracks.ok ⟨.refl hf, rfl, .nil⟩
  | cons i items ih =>
    intro c hf hb
    rw [List.mapM_cons]
    refine Tracks.bind (Tracks.round hl hf hb (hbody i)) fun text ms c' h => ?_
    refine Tracks.bind (ih c' h.kept.fresh (h.kept.bindings.trans hb)) fun texts rounds c'' h' => ?_
    obtain ⟨hkept, hbuffer, hjoined⟩ := h'
    refine Tracks.ok ⟨h.kept.trans hkept, hbuffer.trans h.buffer, ?_⟩
    have hseparator := (Template.isPlainLoop_iff.1 hl).2.2.2.1
    exact hjoined.cons hseparator ho (h.writes.mono hkept.side) h.closed

/-- The rounds of a loop between its opening and its closing. -/
theorem Joined.composed {inner : Bool} {c c' : Composition} {texts : List String}
    {ms : List Mention} (hl : isPlainLoop l = true) (hs : isSeamlessLoop inner l = true)
    (h : Joined l c'.side s texts ms) (hkept : c.Kept c') (hbuffer : c'.buffer = c.buffer) :
    Composed inner s c ms (c'.append (l.joined texts)) := by
  obtain ⟨-, -, hopening, -, hclosing⟩ := Template.isPlainLoop_iff.1 hl
  simp only [isSeamlessLoop, Bool.and_eq_true, Bool.not_eq_true', Bool.and_eq_false_iff,
    Bool.or_eq_false_iff] at hs
  obtain ⟨⟨ho, -⟩, hends⟩ := hs
  have htext : (l.joined texts).toList = l.opening.toList ++
      ((l.separator.intercalate texts).toList ++ l.closing.toList) := by
    rw [Loop.joined, String.toList_append, String.toList_append, List.append_assoc]
  have hwrites : Writes c'.side s (l.joined texts).toList ms := by
    rw [htext, ← List.nil_append ms, ← List.append_nil ms]
    exact (Writes.clean hopening).append
      (h.writes.append (.clean hclosing) h.closed.endsOpen) ho
  have hcomposed : Composed inner s c' ms (c'.append (l.joined texts)) := by
    refine .append hkept.fresh hwrites fun hinner => ?_
    obtain ⟨hopen, hclose⟩ := hends.resolve_left (by simp [hinner])
    rw [htext]
    refine Placeholder.endsOpen_trimRight_append hopen
      (Placeholder.endsOpen_trimRight_append ?_ hclose)
    rw [h.closed.trimRight]
    exact h.closed.endsOpen
  refine ⟨hkept.trans hcomposed.kept, ?_⟩
  rw [← hbuffer]
  exact hcomposed.text

theorem Tracks.text {ev : Evaluator} {inner : Bool} {t : String} (ht : isPlainText t = true)
    (hs : isSeamlessText inner t = true) (hf : c.Fresh) :
    Tracks c (Compose.text ev t)
      (.ok ((Text.markers (Text.pieces Placeholder.delimiters t.toList)).map (⟨·, s⟩)))
      fun _ ms c' => Composed inner s c ms c' := by
  have hsubstitution : Template.hasSubstitution t = false := by
    simp only [isPlainText, Bool.and_eq_true, Bool.not_eq_true'] at ht
    exact ht.1
  have htext : Compose.text ev t = Compose.append t := by
    rw [Compose.text, hsubstitution]
    rfl
  rw [htext]
  refine ⟨(), c.append t, rfl, .append hf (.plain ht) fun hinner => ?_⟩
  simpa [isSeamlessText, hinner, Template.opensAtEnd] using hs

end

/-! ## Templates -/

section

variable (ev : Evaluator) {start : Bindings}

mutual

/-- A composition goes as the walk over its template. -/
theorem Template.compose_tracks : ∀ (t : Template) {inner : Bool} {s : Scope} {c : Composition},
    every (fun _ => isPlainText) (fun _ => isPlainLoop) inner t = true →
    every isSeamlessText isSeamlessLoop inner t = true → c.Fresh →
    c.bindings = s.bindings start →
    Tracks c (t.compose ev) (mentions ev start t s) fun _ ms c' => Composed inner s c ms c'
  | .text t, inner, s, c, hp, hs, hf, _ => by
    rw [compose, mentions]
    exact Tracks.after (Tracks.text hp hs hf)
  | .block parts, inner, s, c, hp, hs, hf, hb => by
    rw [compose, mentions]
    exact Tracks.after (composeAll_tracks parts hp hs hf hb)
  | .test condition body, inner, s, c, hp, hs, hf, hb => by
    rw [compose, mentions]
    refine Tracks.bind (Tracks.evaluate condition hb) ?_
    rintro holds _ _ ⟨rfl, rfl⟩
    cases holds with
    | false => exact Tracks.ok (.refl hf)
    | true => exact Tracks.after (Tracks.discard (compose_tracks body hp hs hf hb))
  | .choose branches none, inner, s, c, hp, hs, hf, hb => by
    rw [compose, mentions]
    refine Tracks.map ?_
    exact (composeFirst_tracks branches hp hs hf hb).imp fun _ _ _ h => h.2
  | .choose branches (some d), inner, s, c, hp, hs, hf, hb => by
    rw [compose, mentions]
    simp only [every, Bool.and_eq_true] at hp hs
    refine Tracks.bind (composeFirst_tracks branches hp.1 hs.1 hf hb) ?_
    rintro found o c' ⟨rfl, h⟩
    cases o with
    | some ms => exact Tracks.ok h
    | none =>
      have hrest := compose_tracks d hp.2 hs.2 h.kept.fresh (h.kept.bindings.trans hb)
      exact Tracks.after (Tracks.discard (hrest.imp fun _ _ _ h' => h.trans h'))
  | .trim _ _, _, _, _, hp, _, _, _ => by cases hp
  | .loop l body, inner, s, c, hp, hs, hf, hb => by
    rw [compose, mentions]
    simp only [every, Bool.and_eq_true] at hp hs
    have ho : endsOpen l.separator.toList = false := by
      have h := hs.1
      simp only [isSeamlessLoop, Bool.and_eq_true, Bool.not_eq_true'] at h
      exact h.1.2
    refine Tracks.bind (Tracks.evaluate l.collection hb) ?_
    rintro items _ _ ⟨rfl, rfl⟩
    cases items with
    | nil => exact Tracks.ok (.refl hf)
    | cons i items =>
      refine Tracks.bind (Tracks.rounds hp.1 ho
        (fun i c' hf' hb' => compose_tracks body hp.2 hs.2 hf' hb') (i :: items) _ hf hb) ?_
      rintro texts rounds c' ⟨hkept, hbuffer, hjoined⟩
      exact ⟨true, _, rfl, hjoined.composed hp.1 hs.1 hkept hbuffer⟩
  | .bind _ _, _, _, _, hp, _, _, _ => by cases hp

theorem Template.composeAll_tracks : ∀ (parts : List Template) {inner : Bool} {s : Scope}
    {c : Composition}, everyPart (fun _ => isPlainText) (fun _ => isPlainLoop) inner parts = true →
    everyPart isSeamlessText isSeamlessLoop inner parts = true → c.Fresh →
    c.bindings = s.bindings start →
    Tracks c (composeAll ev parts) (mentionsAll ev start parts s)
      fun _ ms c' => Composed inner s c ms c'
  | [], inner, s, c, _, _, hf, _ => by
    rw [composeAll, mentionsAll]
    exact Tracks.ok (.refl hf)
  | t :: rest, inner, s, c, hp, hs, hf, hb => by
    rw [composeAll, mentionsAll]
    simp only [everyPart, Bool.and_eq_true] at hp hs
    refine Tracks.bind (Tracks.discard (compose_tracks t hp.1 hs.1 hf hb)) fun _ ms c' h => ?_
    have hrest := composeAll_tracks rest hp.2 hs.2 h.kept.fresh (h.kept.bindings.trans hb)
    exact Tracks.map (hrest.imp fun _ _ _ h' => h.trans h')

theorem Template.composeFirst_tracks : ∀ (branches : List (String × Template)) {inner : Bool}
    {s : Scope} {c : Composition},
    everyBranch (fun _ => isPlainText) (fun _ => isPlainLoop) inner branches = true →
    everyBranch isSeamlessText isSeamlessLoop inner branches = true → c.Fresh →
    c.bindings = s.bindings start →
    Tracks c (composeFirst ev branches) (mentionsFirst ev start branches s)
      fun found o c' => found = o.isSome ∧ Composed inner s c (o.getD []) c'
  | [], inner, s, c, _, _, hf, _ => by
    rw [composeFirst, mentionsFirst]
    exact Tracks.ok ⟨rfl, .refl hf⟩
  | (condition, body) :: rest, inner, s, c, hp, hs, hf, hb => by
    rw [composeFirst, mentionsFirst]
    simp only [everyBranch, Bool.and_eq_true] at hp hs
    refine Tracks.bind (Tracks.evaluate condition hb) ?_
    rintro holds _ _ ⟨rfl, rfl⟩
    cases holds with
    | false => exact composeFirst_tracks rest hp.2 hs.2 hf hb
    | true =>
      have hbody := Tracks.discard (compose_tracks body hp.1 hs.1 hf hb)
      exact Tracks.after (Tracks.map (hbody.imp fun _ _ _ h => ⟨rfl, h⟩))

end

end

end MappedSql
