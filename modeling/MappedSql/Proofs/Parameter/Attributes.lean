import Mathlib
import MappedSql.Proofs.Parameter.Marking
import MappedSql.Proofs.Text.Fields

/- The attributes of a placeholder.

   The content of a placeholder is a head and attributes, each behind a comma. Blanks may
   stand around all their parts and change nothing, not even the error (`readContent_writes`). An
   attribute is a setting of the mapping that the head gives (`Setting`), and two settings
   of different names do not touch the same part of it (`Setting.apply_comm`). So
   attributes with different names may stand in any order (`read_perm`). -/
namespace MappedSql.Placeholder

open Text (trimmed cut? fields isBlank Padded)

/-! ## Contents as they are written -/

/-- An attribute, without the blanks around its parts. -/
structure Attribute where
  name : List Char
  value : List Char
  name_plain : '=' ∉ name ∧ ',' ∉ name
  value_plain : ',' ∉ value
  name_trimmed : trimmed name = name
  value_trimmed : trimmed value = value

/-- A property, perhaps with an SQL type, without the blanks around the two. -/
structure Head where
  property : List Char
  type? : Option (List Char)
  property_plain : ':' ∉ property ∧ ',' ∉ property
  type_plain : ∀ type ∈ type?, ',' ∉ type
  property_trimmed : trimmed property = property
  type_trimmed : ∀ type ∈ type?, trimmed type = type

/-- Whether a text is the attribute with blanks around its name and its value. -/
def Attribute.Writes (a : Attribute) (cs : List Char) : Prop :=
  ∃ name value, Padded a.name name ∧ Padded a.value value ∧ cs = name ++ '=' :: value

/-- Whether a text is the head with blanks around its property and its type. -/
def Head.Writes (h : Head) (cs : List Char) : Prop :=
  match h.type? with
  | none => Padded h.property cs
  | some type => ∃ property written, Padded h.property property ∧ Padded type written ∧
      cs = property ++ ':' :: written

/-- Whether a content has the head and behind it, each after a comma, the attributes. -/
def Writes (h : Head) (as : List Attribute) (content : List Char) : Prop :=
  ∃ head texts, h.Writes head ∧ List.Forall₂ Attribute.Writes as texts ∧
    content = [','].intercalate (head :: texts)

/-! ## What they stand for -/

/-- What an attribute sets in a mapping. -/
inductive Setting where
  | valueType (name : String)
  | sqlType (t : SqlType)
  | sqlTypeName (name : String)
  | mode (m : ParameterMode)
  | scale (n : Nat)
  | resultMap (name : String)
  | typeHandler (name : String)
  | property (path : String)

namespace Setting

/-- The name of the attribute. -/
def name : Setting → String
  | .valueType _ => "javaType"
  | .sqlType _ => "jdbcType"
  | .sqlTypeName _ => "jdbcTypeName"
  | .mode _ => "mode"
  | .scale _ => "numericScale"
  | .resultMap _ => "resultMap"
  | .typeHandler _ => "typeHandler"
  | .property _ => "property"

def apply (m : ParameterMapping) : Setting → ParameterMapping
  | .valueType name => { m with valueType := some name }
  | .sqlType t => { m with sqlType := some t }
  | .sqlTypeName name => { m with sqlTypeName := some name }
  | .mode direction => { m with mode := direction }
  | .scale n => { m with scale := some n }
  | .resultMap name => { m with resultMap := some name }
  | .typeHandler name => { m with typeHandler := some name }
  | .property path => { m with property := path }

/-- The setting of an attribute with this name and value. -/
def read (name value : String) : Except Fault Setting :=
  match name with
  | "javaType" => .ok (.valueType value)
  | "jdbcType" => (readType value).map .sqlType
  | "jdbcTypeName" => .ok (.sqlTypeName value)
  | "mode" => (readMode value).map .mode
  | "numericScale" => (readScale value).map .scale
  | "resultMap" => .ok (.resultMap value)
  | "typeHandler" => .ok (.typeHandler value)
  | "property" => .ok (.property value)
  | other => .error (.unknownAttribute other)

theorem setAttribute_eq (m : ParameterMapping) (name value : String) :
    setAttribute m name value = (read name value).map (apply m) := by
  unfold setAttribute
  split <;> simp only [read]
  case h_2 => cases readType value <;> rfl
  case h_4 => cases readMode value <;> rfl
  case h_5 => cases readScale value <;> rfl
  all_goals rfl

theorem name_of_map {α : Type} {x : Except Fault α} {f : α → Setting} {name : String}
    (hf : ∀ a, (f a).name = name) {s : Setting} (h : x.map f = .ok s) : s.name = name := by
  cases x with
  | error e => cases h
  | ok a =>
    cases h
    exact hf a

theorem name_of_read {name value : String} {s : Setting} (h : read name value = .ok s) :
    s.name = name := by
  unfold read at h
  split at h
  case h_2 => exact name_of_map (f := Setting.sqlType) (fun _ => rfl) h
  case h_4 => exact name_of_map (f := Setting.mode) (fun _ => rfl) h
  case h_5 => exact name_of_map (f := Setting.scale) (fun _ => rfl) h
  case h_9 => cases h
  all_goals
    cases h
    rfl

/-- Settings of different names do not come in each other's way. -/
theorem apply_comm {s t : Setting} (h : s.name ≠ t.name) (m : ParameterMapping) :
    apply (apply m s) t = apply (apply m t) s := by
  cases s <;> cases t <;> first | rfl | exact absurd rfl h

end Setting

/-- The setting of an attribute. -/
def Attribute.setting (a : Attribute) : Except Fault Setting :=
  Setting.read (String.ofList a.name) (String.ofList a.value)

/-- The mapping that a head alone gives. -/
def Head.mapping (h : Head) : Except Fault ParameterMapping :=
  if h.property.head? = some '(' then .error .parenthesised
  else if h.property = [] then .error .noProperty
  else
    let m := ParameterMapping.ofProperty (String.ofList h.property)
    match h.type? with
    | some type => (readType (String.ofList type)).map fun t => { m with sqlType := some t }
    | none => .ok m

/-- The mapping that a head with attributes gives. -/
def mapping (h : Head) (as : List Attribute) : Except Fault ParameterMapping := do
  let m ← h.mapping
  let settings ← as.mapM Attribute.setting
  return settings.foldl Setting.apply m

/-! ## Reading what is written -/

variable {head : List Char} {h : Head} {as : List Attribute} {cs : List Char}

theorem isBlank_comma : isBlank ',' = false := by decide

theorem Attribute.Writes.not_mem {a : Attribute} (hw : a.Writes cs) : ',' ∉ cs := by
  obtain ⟨name, value, hname, hvalue, rfl⟩ := hw
  exact List.not_mem_append (hname.not_mem isBlank_comma a.name_plain.2)
    (List.not_mem_cons_of_ne_of_not_mem (by decide)
      (hvalue.not_mem isBlank_comma a.value_plain))

theorem Head.Writes.not_mem (hw : h.Writes cs) : ',' ∉ cs := by
  unfold Head.Writes at hw
  split at hw
  · exact hw.not_mem isBlank_comma h.property_plain.2
  · rename_i type htype
    obtain ⟨property, written, hproperty, hwritten, rfl⟩ := hw
    exact List.not_mem_append (hproperty.not_mem isBlank_comma h.property_plain.2)
      (List.not_mem_cons_of_ne_of_not_mem (by decide)
        (hwritten.not_mem isBlank_comma (h.type_plain type htype)))

/-- The blanks around an attribute do not count. -/
theorem readAttribute_trimmed (m : ParameterMapping) (cs : List Char) :
    readAttribute m (trimmed cs) = readAttribute m cs := by
  unfold readAttribute
  rw [Text.cut?_trimmed (by decide)]
  cases cut? '=' cs with
  | none => simp only [Option.map_none, Text.trimmed_trimmed]
  | some parts => simp only [Option.map_some, Text.trimmed_trimLeft, Text.trimmed_trimRight]

/-- The blanks around a head do not count. -/
theorem readHead_trimmed (cs : List Char) : readHead (trimmed cs) = readHead cs := by
  unfold readHead
  rw [Text.cut?_trimmed (by decide)]
  cases cut? ':' cs with
  | none => simp only [Option.map_none, Text.trimmed_trimmed]
  | some parts => simp only [Option.map_some, Text.trimmed_trimLeft, Text.trimmed_trimRight]

theorem readAttribute_writes {a : Attribute} (hw : a.Writes cs) (m : ParameterMapping) :
    readAttribute m cs = a.setting.map (Setting.apply m) := by
  obtain ⟨name, value, hname, hvalue, rfl⟩ := hw
  have hcut : cut? '=' (name ++ '=' :: value) = some (name, value) :=
    Text.cut?_append_cons (hname.not_mem (by decide) a.name_plain.1)
  rw [readAttribute, hcut]
  dsimp only
  rw [hname.trimmed_eq, hvalue.trimmed_eq, a.name_trimmed, a.value_trimmed,
    Setting.setAttribute_eq]
  rfl

theorem readHead_writes (hw : h.Writes cs) (hopen : h.property.head? ≠ some '(') :
    readHead cs = h.mapping := by
  unfold Head.Writes at hw
  rw [Head.mapping, if_neg hopen]
  split at hw
  · rename_i htype
    have hcut : cut? ':' cs = none :=
      Text.cut?_eq_none_iff.2 (hw.not_mem (by decide) h.property_plain.1)
    rw [readHead, hcut]
    dsimp only
    rw [hw.trimmed_eq, h.property_trimmed, htype]
    simp only [List.isEmpty_iff]
  · rename_i type htype
    obtain ⟨property, written, hproperty, hwritten, rfl⟩ := hw
    have hcut : cut? ':' (property ++ ':' :: written) = some (property, written) :=
      Text.cut?_append_cons (hproperty.not_mem (by decide) h.property_plain.1)
    rw [readHead, hcut]
    dsimp only
    rw [hproperty.trimmed_eq, hwritten.trimmed_eq, h.property_trimmed, h.type_trimmed type htype,
      htype]
    simp only [List.isEmpty_iff]
    cases readType (String.ofList type) <;> rfl

/-- Attributes that are read one after the other. -/
theorem foldlM_readAttribute {texts : List (List Char)}
    (hw : List.Forall₂ Attribute.Writes as texts) (m : ParameterMapping) :
    texts.foldlM readAttribute m =
      (as.mapM Attribute.setting).map fun settings => settings.foldl Setting.apply m := by
  induction hw generalizing m with
  | nil => rfl
  | cons ha _ ih =>
    rw [List.foldlM_cons, List.mapM_cons, readAttribute_writes ha]
    rename_i a text as texts _
    cases a.setting with
    | error e => rfl
    | ok s =>
      show texts.foldlM readAttribute (Setting.apply m s) = _
      rw [ih]
      cases as.mapM Attribute.setting <;> rfl

/-- The parts of a content, up to blanks around them. -/
theorem split_writes {head : List Char} {texts : List (List Char)} (hhead : ',' ∉ head)
    (htexts : ∀ t ∈ texts, ',' ∉ t ∧ trimmed t ≠ []) :
    trimmed (split (trimmed ([','].intercalate (head :: texts)))).1 = trimmed head ∧
      (split (trimmed ([','].intercalate (head :: texts)))).2.map trimmed = texts.map trimmed := by
  -- The content loses its blanks before it is cut, so the head loses those in front of it and
  -- the last part those behind it.
  unfold split
  rw [Text.cut?_trimmed isBlank_comma]
  cases texts with
  | nil =>
    rw [List.intercalate_singleton, Text.cut?_eq_none_iff.2 hhead]
    exact ⟨Text.trimmed_trimmed head, rfl⟩
  | cons t texts =>
    rw [List.intercalate_cons_cons, List.append_assoc, List.singleton_append,
      Text.cut?_append_cons hhead]
    refine ⟨Text.trimmed_trimLeft head, ?_⟩
    have hfields : fields ',' ([','].intercalate (t :: texts)) = t :: texts :=
      Text.fields_intercalate (List.cons_ne_nil t texts) fun u hu => (htexts u hu).1
    have hmap := Text.map_trimmed_fields isBlank_comma ([','].intercalate (t :: texts))
    have hfilter : ∀ l : List (List Char), (l.filter fun a => !(trimmed a).isEmpty).map trimmed =
        (l.map trimmed).filter (!·.isEmpty) := by
      intro l
      rw [List.filter_map]
      rfl
    show ((fields ',' _).filter fun a => !(trimmed a).isEmpty).map trimmed = _
    rw [hfilter, hmap, hfields, List.filter_eq_self]
    intro u hu
    obtain ⟨v, hv, rfl⟩ := List.mem_map.1 hu
    simpa using (htexts v hv).2

theorem Attribute.Writes.trimmed_ne_nil {a : Attribute} (hw : a.Writes cs) : trimmed cs ≠ [] := by
  obtain ⟨name, value, -, -, rfl⟩ := hw
  rw [Text.trimmed_append_cons (by decide)]
  simp

/-- The first character of a content that is not blank is that of its property, if it has one. -/
theorem head?_trimmed_writes {texts : List (List Char)} (hw : h.Writes head) :
    (trimmed ([','].intercalate (head :: texts))).head? = some '(' ↔
      h.property.head? = some '(' := by
  obtain ⟨property, type, hproperty, rfl, htype⟩ : ∃ property type,
      Padded h.property property ∧ head = property ++ type ∧ ∀ c ∈ type.head?, c = ':' := by
    unfold Head.Writes at hw
    split at hw
    · exact ⟨head, [], hw, (List.append_nil head).symm, by simp⟩
    · obtain ⟨property, written, hproperty, -, rfl⟩ := hw
      exact ⟨property, ':' :: written, hproperty, rfl, by simp⟩
  obtain ⟨rest, hcontent, hrest⟩ : ∃ rest, [','].intercalate ((property ++ type) :: texts) =
      property ++ rest ∧ ∀ c ∈ rest.head?, c = ':' ∨ c = ',' := by
    cases texts with
    | nil => exact ⟨type, List.intercalate_singleton, fun c hc => .inl (htype c hc)⟩
    | cons t texts =>
      refine ⟨type ++ ',' :: [','].intercalate (t :: texts), by simp, ?_⟩
      cases type with
      | nil => simp
      | cons d type => exact fun c hc => .inl (htype c hc)
  obtain ⟨lead, trail, rfl, hlead, htrail⟩ := hproperty
  have hown : h.property.find? (!isBlank ·) = h.property.head? := by
    rw [← Text.head?_trimmed, h.property_trimmed]
  have hblank : ∀ cs : List Char, (∀ c ∈ cs, isBlank c = true) → cs.find? (!isBlank ·) = none :=
    fun cs hcs => List.find?_eq_none.2 fun c hc => by simp [hcs c hc]
  have hbehind : rest.find? (!isBlank ·) ≠ some '(' := by
    cases rest with
    | nil => simp
    | cons c rest => rcases hrest c rfl with rfl | rfl <;> simp [isBlank]
  rw [hcontent, Text.head?_trimmed]
  simp only [List.append_assoc, List.find?_append, hblank lead hlead, hblank trail htrail, hown,
    Option.none_or]
  cases h.property.head? with
  | none => simpa using hbehind
  | some c => rfl

theorem plain_of_writes {texts : List (List Char)}
    (hw : List.Forall₂ Attribute.Writes as texts) : ∀ t ∈ texts, ',' ∉ t ∧ trimmed t ≠ [] := by
  induction hw with
  | nil => simp
  | cons ha _ ih => exact List.forall_mem_cons.2 ⟨⟨ha.not_mem, ha.trimmed_ne_nil⟩, ih⟩

theorem foldlM_map_trimmed (texts : List (List Char)) (m : ParameterMapping) :
    (texts.map trimmed).foldlM readAttribute m = texts.foldlM readAttribute m := by
  rw [List.foldlM_map]
  simp only [readAttribute_trimmed]

/-- A content gives the mapping that its head and its attributes stand for, wherever blanks are. -/
theorem readContent_writes {content : List Char} (hw : Writes h as content) :
    readContent content = mapping h as := by
  obtain ⟨head, texts, hhead, htexts, rfl⟩ := hw
  obtain ⟨hfirst, hrest⟩ := split_writes hhead.not_mem (plain_of_writes htexts)
  unfold readContent mapping
  dsimp only
  by_cases hopen : h.property.head? = some '('
  · rw [if_pos ((head?_trimmed_writes hhead).2 hopen), Head.mapping, if_pos hopen]
    rfl
  · rw [if_neg (mt (head?_trimmed_writes hhead).1 hopen), ← readHead_trimmed, hfirst,
      readHead_trimmed, readHead_writes hhead hopen]
    cases h.mapping with
    | error e => rfl
    | ok m =>
      show (split _).2.foldlM readAttribute m = _
      rw [← foldlM_map_trimmed, hrest, foldlM_map_trimmed, foldlM_readAttribute htexts]
      show _ = as.mapM Attribute.setting >>= fun settings => Except.ok _
      cases as.mapM Attribute.setting <;> rfl

/-! ## Any order -/

theorem names_of_settings {settings : List Setting}
    (hs : List.Forall₂ (fun (a : Attribute) s => a.setting = .ok s) as settings) :
    settings.map Setting.name = (as.map (·.name)).map String.ofList := by
  induction hs with
  | nil => rfl
  | cons ha _ ih =>
    rw [List.map_cons, List.map_cons, List.map_cons, Setting.name_of_read ha, ih]

/-- Settings with different names may be made in any order. -/
theorem foldl_apply_perm {settings settings' : List Setting}
    (hnames : (settings.map Setting.name).Nodup) (hperm : settings.Perm settings')
    (m : ParameterMapping) :
    settings.foldl Setting.apply m = settings'.foldl Setting.apply m := by
  apply hperm.foldl_eq'
  intro s hs t ht m
  by_cases hst : s = t
  · rw [hst]
  · exact Setting.apply_comm (fun hname => hst (List.inj_on_of_nodup_map hnames hs ht hname)) m

/-- Attributes with different names stand for the same in any order. -/
theorem mapping_perm {as' : List Attribute} (hnames : (as.map (·.name)).Nodup)
    (hperm : as.Perm as') {m : ParameterMapping} (hm : mapping h as = .ok m) :
    mapping h as' = .ok m := by
  obtain ⟨m₀, hhead, hm⟩ := bind_eq_ok hm
  obtain ⟨settings, hsettings, hm⟩ := bind_eq_ok hm
  cases hm
  obtain ⟨settings', hsettings', hperm'⟩ :=
    List.perm_comp_forall₂ hperm.symm (mapM_eq_ok_iff.1 hsettings)
  have hdistinct : (settings.map Setting.name).Nodup := by
    rw [names_of_settings (mapM_eq_ok_iff.1 hsettings)]
    exact hnames.map fun _ _ heq => by simpa using congrArg String.toList heq
  rw [mapping, hhead]
  show as'.mapM Attribute.setting >>= _ = _
  rw [mapM_eq_ok_iff.2 hsettings', foldl_apply_perm hdistinct hperm'.symm]
  rfl

/-- The attributes of a placeholder may stand in any order if their names are different, and blanks
may stand around all parts: either neither content can be read, or both write the same mapping. -/
theorem read_perm {h : Head} {as as' : List Attribute} (hnames : (as.map (·.name)).Nodup)
    (hperm : as.Perm as') {s s' : String} (hs : Writes h as s.toList)
    (hs' : Writes h as' s'.toList) :
    (∃ e e', read s = .error e ∧ read s' = .error e') ∨ ∃ m, read s = .ok m ∧ read s' = .ok m := by
  have hnames' : (as'.map (·.name)).Nodup := (hperm.map _).nodup_iff.1 hnames
  simp only [read, readContent_writes hs, readContent_writes hs']
  -- If two attributes are wrong, the error is that of the first one, so it depends on the order.
  cases hm : mapping h as with
  | ok m =>
    rw [mapping_perm hnames hperm hm]
    exact .inr ⟨m, rfl, rfl⟩
  | error e =>
    cases hm' : mapping h as' with
    | error e' => exact .inl ⟨_, _, rfl, rfl⟩
    | ok m =>
      rw [mapping_perm hnames' hperm.symm hm'] at hm
      cases hm

/-- A property with its SQL type. -/
def price : Head := ⟨['p'], some "REAL".toList, by decide, by decide, by decide, by decide⟩

/-- A type in whose name the signs of other parts stand. -/
def foreignType : Attribute :=
  ⟨"javaType".toList, "a=b:c".toList, by decide, by decide, by decide, by decide⟩

def inOut : Attribute :=
  ⟨"mode".toList, "INOUT".toList, by decide, by decide, by decide, by decide⟩

theorem read_perm_price :
    ([foreignType, inOut].map (·.name)).Nodup ∧ [foreignType, inOut].Perm [inOut, foreignType] ∧
    Writes price [foreignType, inOut] " p: REAL ,javaType = a=b:c , mode=INOUT".toList ∧
    Writes price [inOut, foreignType] "p:REAL,mode =INOUT,  javaType=a=b:c ".toList ∧
    ∃ m, read " p: REAL ,javaType = a=b:c , mode=INOUT" = .ok m ∧
      read "p:REAL,mode =INOUT,  javaType=a=b:c " = .ok m ∧ m.valueType = some "a=b:c" := by
  have hnames : ([foreignType, inOut].map (·.name)).Nodup := by decide
  have hperm : [foreignType, inOut].Perm [inOut, foreignType] := .swap _ _ _
  have hs : Writes price [foreignType, inOut]
      " p: REAL ,javaType = a=b:c , mode=INOUT".toList :=
    ⟨" p: REAL ".toList, ["javaType = a=b:c ".toList, " mode=INOUT".toList],
      ⟨" p".toList, " REAL ".toList, Text.padded_of_trimmed (by decide),
        Text.padded_of_trimmed (by decide), by decide⟩,
      .cons ⟨"javaType ".toList, " a=b:c ".toList, Text.padded_of_trimmed (by decide),
        Text.padded_of_trimmed (by decide), by decide⟩
      (.cons ⟨" mode".toList, "INOUT".toList, Text.padded_of_trimmed (by decide),
        Text.padded_of_trimmed (by decide), by decide⟩ .nil), by decide⟩
  have hs' : Writes price [inOut, foreignType] "p:REAL,mode =INOUT,  javaType=a=b:c ".toList :=
    ⟨"p:REAL".toList, ["mode =INOUT".toList, "  javaType=a=b:c ".toList],
      ⟨"p".toList, "REAL".toList, Text.padded_of_trimmed (by decide),
        Text.padded_of_trimmed (by decide), by decide⟩,
      .cons ⟨"mode ".toList, "INOUT".toList, Text.padded_of_trimmed (by decide),
        Text.padded_of_trimmed (by decide), by decide⟩
      (.cons ⟨"  javaType".toList, "a=b:c ".toList, Text.padded_of_trimmed (by decide),
        Text.padded_of_trimmed (by decide), by decide⟩ .nil), by decide⟩
  refine ⟨hnames, hperm, hs, hs', ?_⟩
  have hread : read " p: REAL ,javaType = a=b:c , mode=INOUT" =
      .ok { ParameterMapping.ofProperty "p" with
        valueType := some "a=b:c", sqlType := some .real, mode := .inout } := by cbv
  rcases read_perm hnames hperm hs hs' with ⟨e, -, he, -⟩ | ⟨m, hm, hm'⟩
  · rw [hread] at he
    cases he
  · refine ⟨m, hm, hm', ?_⟩
    rw [hread] at hm
    cases hm
    rfl

end MappedSql.Placeholder
