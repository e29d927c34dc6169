import MappedSql.Markup.Node

/- The ways of writing nodes as markup.

   The same nodes can be written in many ways: a character as it is, by name or by number
   (`Refers`), a text in parts, with sections and with comments between them
   (`WritesText`), a value in either quote (`WritesValue`), a tag with any blanks in it
   (`WritesTag`), and an element without children as one tag or as two. `Writes` admits
   them all. It is about the markup alone and not about how that is read; the line of an
   element is told by what stands before it. -/
namespace MappedSql.Markup

open Text (isBlank)

/-! ## Nodes in normal form -/

/-- A name that an element or an attribute may have. -/
def IsName (name : String) : Prop :=
  name.toList.head?.any startsName = true ∧ ∀ c ∈ name.toList, inName c = true

instance (name : String) : Decidable (IsName name) :=
  decidable_of_iff (name.toList.head?.any startsName = true ∧ name.toList.all inName = true)
    (and_congr_right fun _ => List.all_eq_true)

/-- Whether all of the characters are blank. -/
def Blanks (cs : List Char) : Prop := ∀ c ∈ cs, isBlank c = true

instance (cs : List Char) : Decidable (Blanks cs) :=
  decidable_of_iff (cs.all isBlank = true) List.all_eq_true

namespace Node

def isText : Node → Bool
  | .text _ => true
  | .element _ _ _ _ => false

mutual

/-- A text that is not empty, or an element whose names are names and whose attributes are
different, with such nodes below it. -/
def Normal : Node → Prop
  | .text s => s ≠ ""
  | .element name attributes _ children =>
    IsName name ∧ (∀ a ∈ attributes, IsName a.1) ∧ (attributes.map (·.1)).Nodup ∧
      NormalAll children

/-- Nodes in normal form of which no two that stand side by side are texts. -/
def NormalAll : List Node → Prop
  | [] => True
  | n :: rest =>
    n.Normal ∧ (n.isText = true → ∀ m ∈ rest.head?, m.isText = false) ∧ NormalAll rest

end

end Node

/-! ## Characters -/

/-- The digit stands for the value. A digit that is a letter may be small or capital. -/
def IsDigit (base : Nat) (d : Char) (v : Nat) : Prop :=
  v < base ∧ (d = v.digitChar ∨ d = v.digitChar.toUpper)

instance (base : Nat) (d : Char) (v : Nat) : Decidable (IsDigit base d v) :=
  inferInstanceAs (Decidable (_ ∧ _))

/-- The digits write the number; zeros may stand before it. -/
inductive Spells (base : Nat) : List Char → Nat → Prop where
  | nil : Spells base [] 0
  | digit {ds : List Char} {n : Nat} {d : Char} {v : Nat} (hs : Spells base ds n)
      (hd : IsDigit base d v) : Spells base (ds ++ [d]) (n * base + v)

/-- What stands between `&` and `;` for a character: one of five names, or its code point. -/
inductive Refers : List Char → Char → Prop where
  | lt : Refers ['l', 't'] '<'
  | gt : Refers ['g', 't'] '>'
  | amp : Refers ['a', 'm', 'p'] '&'
  | quot : Refers ['q', 'u', 'o', 't'] '"'
  | apos : Refers ['a', 'p', 'o', 's'] '\''
  | decimal {ds : List Char} {c : Char} (hne : ds ≠ []) (hs : Spells 10 ds c.toNat) :
      Refers ('#' :: ds) c
  | hex {ds : List Char} {c : Char} {x : Char} (hx : x = 'x' ∨ x = 'X') (hne : ds ≠ [])
      (hs : Spells 16 ds c.toNat) : Refers ('#' :: x :: ds) c

/-! ## Texts and tags -/

/-- The markup writes the text. A section holds text as it stands, and a comment holds none. -/
inductive WritesText : List Char → List Char → Prop where
  | nil : WritesText [] []
  | char {c : Char} {s m : List Char} (hc : c ≠ '<' ∧ c ≠ '&') (h : WritesText s m) :
      WritesText (c :: s) (c :: m)
  | entity {name : List Char} {c : Char} {s m : List Char} (hn : Refers name c)
      (h : WritesText s m) : WritesText (c :: s) ('&' :: (name ++ ';' :: m))
  | literal {body s m : List Char} (hb : ¬ "]]>".toList <:+: body) (h : WritesText s m) :
      WritesText (body ++ s) ("<![CDATA[".toList ++ (body ++ ("]]>".toList ++ m)))
  | comment {body s m : List Char} (hb : ¬ "-->".toList <:+: body) (h : WritesText s m) :
      WritesText s ("<!--".toList ++ (body ++ ("-->".toList ++ m)))

/-- The markup writes the value of an attribute between two of these quotes. -/
inductive WritesValue (quote : Char) : List Char → List Char → Prop where
  | nil : WritesValue quote [] []
  | char {c : Char} {s m : List Char} (hc : c ≠ quote ∧ c ≠ '&') (h : WritesValue quote s m) :
      WritesValue quote (c :: s) (c :: m)
  | entity {name : List Char} {c : Char} {s m : List Char} (hn : Refers name c)
      (h : WritesValue quote s m) : WritesValue quote (c :: s) ('&' :: (name ++ ';' :: m))

/-- The markup writes the attribute, with any blanks before it and around its sign. -/
def WritesAttribute (a : String × String) (m : List Char) : Prop :=
  ∃ quote before left right v, (quote = '"' ∨ quote = '\'') ∧
    Blanks before ∧ Blanks left ∧ Blanks right ∧ WritesValue quote a.2.toList v ∧
    m = before ++ (a.1.toList ++ (left ++ '=' :: (right ++ quote :: (v ++ [quote]))))

/-- The markup writes the attributes in their order. -/
inductive WritesAttributes : List (String × String) → List Char → Prop where
  | nil : WritesAttributes [] []
  | cons {a : String × String} {rest : List (String × String)} {m m' : List Char}
      (ha : WritesAttribute a m) (h : WritesAttributes rest m') :
      WritesAttributes (a :: rest) (m ++ m')

/-- The end of an opening tag; it may close the element at once. -/
def tagEnd (closed : Bool) : List Char := if closed then ['/', '>'] else ['>']

/-- The markup writes an opening tag. A blank follows its name if there are attributes. -/
def WritesTag (name : String) (attributes : List (String × String)) (closed : Bool)
    (m : List Char) : Prop :=
  ∃ a blanks, WritesAttributes attributes a ∧ (∀ c ∈ a.head?, isBlank c = true) ∧
    Blanks blanks ∧ m = '<' :: (name.toList ++ (a ++ (blanks ++ tagEnd closed)))

/-- The markup writes a closing tag. -/
def WritesClosing (name : String) (m : List Char) : Prop :=
  ∃ blanks, Blanks blanks ∧ m = '<' :: '/' :: (name.toList ++ (blanks ++ ['>']))

/-! ## Nodes -/

/-- After what stands before it, the markup writes the nodes. The line of an element is one more
than the number of line breaks before its opening tag. -/
inductive Writes : List Char → List Node → List Char → Prop where
  | nil {before : List Char} : Writes before [] []
  /-- Comments and empty sections, which are not text. -/
  | gap {before m m' : List Char} {nodes : List Node} (hm : WritesText [] m)
      (h : Writes (before ++ m) nodes m') : Writes before nodes (m ++ m')
  | text {before m m' : List Char} {s : String} {nodes : List Node}
      (hm : WritesText s.toList m) (h : Writes (before ++ m) nodes m') :
      Writes before (.text s :: nodes) (m ++ m')
  | single {before t m : List Char} {name : String} {attributes : List (String × String)}
      {nodes : List Node} (ht : WritesTag name attributes true t)
      (h : Writes (before ++ t) nodes m) :
      Writes before (.element name attributes (1 + newlines before) [] :: nodes) (t ++ m)
  | pair {before t c e m : List Char} {name : String} {attributes : List (String × String)}
      {children nodes : List Node} (ht : WritesTag name attributes false t)
      (hc : Writes (before ++ t) children c) (he : WritesClosing name e)
      (h : Writes (before ++ t ++ c ++ e) nodes m) :
      Writes before (.element name attributes (1 + newlines before) children :: nodes)
        (t ++ (c ++ (e ++ m)))

/-! ## All nodes can be written -/

namespace Node

mutual

/-- The nodes differ at most in the lines of their elements. -/
def Alike : Node → Node → Prop
  | .text s, .text t => s = t
  | .element name attributes _ children, .element name' attributes' _ children' =>
    name = name' ∧ attributes = attributes' ∧ AlikeAll children children'
  | _, _ => False

def AlikeAll : List Node → List Node → Prop
  | [], [] => True
  | n :: rest, n' :: rest' => n.Alike n' ∧ AlikeAll rest rest'
  | _, _ => False

end

theorem Alike.isText {n n' : Node} (h : n.Alike n') : n'.isText = n.isText := by
  cases n <;> cases n' <;> first | rfl | cases h

mutual

/-- Lines do not matter to the normal form. -/
theorem Alike.normal : (n n' : Node) → n.Alike n' → n.Normal → n'.Normal
  | .text _, .text _, h, hn => by
    cases h
    exact hn
  | .element _ _ _ children, .element _ _ _ children', ⟨hname, hattributes, hc⟩, hn => by
    subst hname hattributes
    exact ⟨hn.1, hn.2.1, hn.2.2.1, AlikeAll.normal children children' hc hn.2.2.2⟩

theorem AlikeAll.normal : (ns ns' : List Node) → AlikeAll ns ns' → NormalAll ns → NormalAll ns'
  | [], [], _, _ => trivial
  | n :: rest, n' :: rest', ⟨h, hrest⟩, ⟨hn, hside, hall⟩ => by
    refine ⟨Alike.normal n n' h hn, fun ht m' hm' => ?_, AlikeAll.normal rest rest' hrest hall⟩
    rw [h.isText] at ht
    cases rest' with
    | nil => cases hm'
    | cons m'' rest' =>
      cases hm'
      cases rest with
      | nil => cases hrest
      | cons m rest => exact hrest.1.isText.trans (hside ht m rfl)

end

end Node

theorem exists_writesText (s : List Char) : ∃ m, WritesText s m := by
  induction s with
  | nil => exact ⟨[], .nil⟩
  | cons c s ih =>
    obtain ⟨m, h⟩ := ih
    by_cases hlt : c = '<'
    · subst hlt
      exact ⟨_, .entity .lt h⟩
    · by_cases hamp : c = '&'
      · subst hamp
        exact ⟨_, .entity .amp h⟩
      · exact ⟨_, .char ⟨hlt, hamp⟩ h⟩

theorem exists_writesValue (s : List Char) : ∃ v, WritesValue '"' s v := by
  induction s with
  | nil => exact ⟨[], .nil⟩
  | cons c s ih =>
    obtain ⟨v, h⟩ := ih
    by_cases hquot : c = '"'
    · subst hquot
      exact ⟨_, .entity .quot h⟩
    · by_cases hamp : c = '&'
      · subst hamp
        exact ⟨_, .entity .amp h⟩
      · exact ⟨_, .char ⟨hquot, hamp⟩ h⟩

theorem exists_writesTag (name : String) (attributes : List (String × String)) (closed : Bool) :
    ∃ t, WritesTag name attributes closed t := by
  suffices h : ∃ a, WritesAttributes attributes a ∧ ∀ c ∈ a.head?, isBlank c = true by
    obtain ⟨a, ha, hfirst⟩ := h
    exact ⟨_, a, [], ha, hfirst, by decide, rfl⟩
  induction attributes with
  | nil => exact ⟨[], .nil, by simp⟩
  | cons first rest ih =>
    obtain ⟨m, h, -⟩ := ih
    obtain ⟨v, hv⟩ := exists_writesValue first.2.toList
    have ha : WritesAttribute first
        ([' '] ++ (first.1.toList ++ ([] ++ '=' :: ([] ++ '"' :: (v ++ ['"']))))) :=
      ⟨'"', [' '], [], [], v, .inl rfl, by decide, by decide, by decide, hv, rfl⟩
    exact ⟨_, .cons ha h, by simp; decide⟩

/-- Whatever stands before them, any nodes can be written, with lines that fit. -/
theorem exists_writes : (nodes : List Node) → (before : List Char) →
    ∃ nodes' m, Node.AlikeAll nodes nodes' ∧ Writes before nodes' m
  | [], _ => ⟨[], [], trivial, .nil⟩
  | .text s :: rest, before => by
    obtain ⟨m, hm⟩ := exists_writesText s.toList
    obtain ⟨rest', m', hrest, h⟩ := exists_writes rest (before ++ m)
    exact ⟨.text s :: rest', _, ⟨rfl, hrest⟩, .text hm h⟩
  | .element name attributes line children :: rest, before => by
    obtain ⟨t, ht⟩ := exists_writesTag name attributes false
    obtain ⟨children', c, hchildren, hc⟩ := exists_writes children (before ++ t)
    have he : WritesClosing name ('<' :: '/' :: (name.toList ++ ([] ++ ['>']))) :=
      ⟨[], by decide, rfl⟩
    obtain ⟨rest', m, hrest, h⟩ := exists_writes rest _
    exact ⟨.element name attributes (1 + newlines before) children' :: rest', _,
      ⟨⟨rfl, rfl, hchildren⟩, hrest⟩, .pair ht hc he h⟩

end MappedSql.Markup
