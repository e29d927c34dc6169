import MappedSql.Proofs.Mapper.Resolving
import MappedSql.Proofs.Text.Fields

/- Finding statements by name.

   A name finds the statement that has it as its id, or else the only one whose id ends in it
   behind a dot. `Lookup` says what the answer has to be, given which statements are registered,
   and no more than the order of the ids in an error is left open (`Lookup.alike`). A registry that
   statements are offered to holds the first one of each id (`Registry.mem_offerAll`), and answers
   every name so (`Registry.find_lookup`). So a statement that is turned away changes no answer,
   and the order in which the others come changes none either (`Registry.find_offered`). -/
namespace MappedSql

/-! ## What a name is answered with -/

/-- The id ends in the name, behind a dot. The name itself has no dot. -/
def EndsIn (id name : String) : Prop :=
  '.' ∉ name.toList ∧ ∃ front, id.toList = front ++ '.' :: name.toList

/-- The answer to a name where these statements are registered. -/
inductive Lookup (registered : MappedStatement → Prop) (name : String) :
    Except MapperError MappedStatement → Prop where
  | exact {m : MappedStatement} (hm : registered m) (hid : m.id = name) :
    Lookup registered name (.ok m)
  | only {m : MappedStatement} (hno : ∀ m, registered m → m.id ≠ name) (hm : registered m)
    (hends : EndsIn m.id name) (honly : ∀ m', registered m' → EndsIn m'.id name → m' = m) :
    Lookup registered name (.ok m)
  | shared {ids : List String} (hno : ∀ m, registered m → m.id ≠ name) (hids : ids.Nodup)
    (htwo : 2 ≤ ids.length)
    (hmem : ∀ id, id ∈ ids ↔ EndsIn id name ∧ ∃ m, registered m ∧ m.id = id) :
    Lookup registered name (.error (.configuration (.sharedName name ids)))
  | missing (hno : ∀ m, registered m → m.id ≠ name)
    (hnone : ∀ m, registered m → ¬ EndsIn m.id name) :
    Lookup registered name (.error (.configuration (.unknownStatement name)))

/-- Answers that are the same but for the statements they find, which are related, and for the
order of the ids that share a name. -/
inductive Alike (R : MappedStatement → MappedStatement → Prop) :
    Except MapperError MappedStatement → Except MapperError MappedStatement → Prop where
  | found {m m' : MappedStatement} (h : R m m') : Alike R (.ok m) (.ok m')
  | shared {name : String} {ids ids' : List String} (h : ids.Perm ids') :
    Alike R (.error (.configuration (.sharedName name ids)))
      (.error (.configuration (.sharedName name ids')))
  | missing (name : String) : Alike R (.error (.configuration (.unknownStatement name)))
      (.error (.configuration (.unknownStatement name)))

namespace Lookup

variable {registered registered' : MappedStatement → Prop} {name : String}
  {a a' : Except MapperError MappedStatement}

theorem registered_of_ok {m : MappedStatement} (h : Lookup registered name (.ok m)) :
    registered m := by
  cases h with
  | exact hm hid => exact hm
  | only hno hm hends honly => exact hm

theorem found (h : Lookup registered name a) (hfound : ∃ m, registered m ∧ m.id = name) :
    ∃ m, registered m ∧ m.id = name ∧ a = .ok m := by
  obtain ⟨m, hm, hid⟩ := hfound
  cases h with
  | exact hm' hid' => exact ⟨_, hm', hid', rfl⟩
  | only hno => exact absurd hid (hno m hm)
  | shared hno => exact absurd hid (hno m hm)
  | missing hno => exact absurd hid (hno m hm)

/-- What is told of the ids that share a name. -/
inductive Told (registered : MappedStatement → Prop) (name : String) :
    List String → Except MapperError MappedStatement → Prop where
  | none : Told registered name [] (.error (.configuration (.unknownStatement name)))
  | one {m : MappedStatement} (hm : registered m) : Told registered name [m.id] (.ok m)
  | several {ids : List String} (htwo : 2 ≤ ids.length) :
    Told registered name ids (.error (.configuration (.sharedName name ids)))

/-- The ids that share a name decide what is told, up to the statements of one id. -/
theorem Told.alike {ids ids' : List String} (h : Told registered name ids a)
    (h' : Told registered' name ids' a') (hperm : ids.Perm ids') :
    Alike (fun m m' => m.id = m'.id) a a' := by
  have hlength := hperm.length_eq
  cases h with
  | none =>
    cases h' with
    | none => exact .missing name
    | one _ => simp at hlength
    | several htwo => simp only [List.length_nil] at hlength; omega
  | one hm =>
    cases h' with
    | none => simp at hlength
    | one hm' => exact .found (List.singleton_perm_singleton.1 hperm)
    | several htwo => simp only [List.length_singleton] at hlength; omega
  | several htwo =>
    cases h' with
    | none => simp only [List.length_nil] at hlength; omega
    | one _ => simp only [List.length_singleton] at hlength; omega
    | several _ => exact .shared hperm

/-- Where no id is the name, the answer is told from the ids that share it. -/
theorem exists_told (h : Lookup registered name a) (hno : ∀ m, registered m → m.id ≠ name) :
    ∃ ids : List String, ids.Nodup ∧
      (∀ id, id ∈ ids ↔ EndsIn id name ∧ ∃ m, registered m ∧ m.id = id) ∧
      Told registered name ids a := by
  cases h with
  | exact hm hid => exact absurd hid (hno _ hm)
  | @only m _ hm hends honly =>
    refine ⟨[m.id], List.nodup_singleton _, fun id => ?_, .one hm⟩
    rw [List.mem_singleton]
    constructor
    · rintro rfl
      exact ⟨hends, m, hm, rfl⟩
    · rintro ⟨hend, m', hm', rfl⟩
      rw [honly m' hm' hend]
  | shared _ hids htwo hmem => exact ⟨_, hids, hmem, .several htwo⟩
  | missing _ hnone =>
    refine ⟨[], List.nodup_nil, fun id => ?_, .none⟩
    simp only [List.not_mem_nil, false_iff]
    rintro ⟨hends, m, hm, rfl⟩
    exact hnone m hm hends

/-- The ids of the registered statements decide the answer, up to the statements of one id. -/
theorem alike_id
    (hids : ∀ id, (∃ m, registered m ∧ m.id = id) ↔ ∃ m, registered' m ∧ m.id = id)
    (h : Lookup registered name a) (h' : Lookup registered' name a') :
    Alike (fun m m' => m.id = m'.id) a a' := by
  by_cases hfound : ∃ m, registered m ∧ m.id = name
  · obtain ⟨m, hm, hid, rfl⟩ := h.found hfound
    obtain ⟨m', hm', hid', rfl⟩ := h'.found ((hids name).1 hfound)
    exact .found (hid.trans hid'.symm)
  · have hfound' := mt (hids name).2 hfound
    obtain ⟨ids, hnodup, hmem, htold⟩ := h.exists_told fun m hm hid => hfound ⟨m, hm, hid⟩
    obtain ⟨ids', hnodup', hmem', htold'⟩ := h'.exists_told fun m hm hid => hfound' ⟨m, hm, hid⟩
    refine htold.alike htold' ((List.perm_ext_iff_of_nodup hnodup hnodup').2 fun id => ?_)
    rw [hmem, hmem', hids]

/-- The registered statements, of which there is one for each id, decide the answer. -/
theorem alike (hsame : ∀ m, registered m ↔ registered' m)
    (hone : ∀ m m', registered m → registered m' → m.id = m'.id → m = m')
    (h : Lookup registered name a) (h' : Lookup registered' name a') : Alike Eq a a' := by
  have hid : Alike (fun m m' => m.id = m'.id) a a' := by
    refine alike_id (fun id => ?_) h h'
    simp only [hsame]
  cases hid with
  | found hm =>
    exact .found (hone _ _ h.registered_of_ok ((hsame _).2 h'.registered_of_ok) hm)
  | shared hperm => exact .shared hperm
  | missing name => exact .missing name

end Lookup

namespace Registry

/-! ## Short names -/

/-- The short name is what stands behind the last dot. -/
theorem shortName?_append {id : String} {front tail : List Char}
    (hid : id.toList = front ++ '.' :: tail) (htail : '.' ∉ tail) :
    shortName? id = some (String.ofList tail) := by
  obtain ⟨f, fs, hf⟩ := List.exists_cons_of_ne_nil (Text.fields_ne_nil '.' front)
  have hfields : Text.fields '.' id.toList = f :: (fs ++ [tail]) := by
    rw [hid, Text.fields_append_cons, hf, Text.fields_of_not_mem htail, List.cons_append]
  obtain ⟨g, gs, hg⟩ := List.exists_cons_of_ne_nil (List.concat_ne_nil tail fs)
  rw [shortName?, hfields, hg]
  show some (String.ofList ((g :: gs).getLastD f)) = _
  rw [← hg]
  simp

theorem shortName?_eq_some_iff {id name : String} : shortName? id = some name ↔ EndsIn id name := by
  by_cases hdot : '.' ∈ id.toList
  · obtain ⟨front, tail, hid, htail⟩ := Text.exists_last hdot
    rw [shortName?_append hid htail, Option.some_inj]
    constructor
    · rintro rfl
      rw [EndsIn, String.toList_ofList]
      exact ⟨htail, front, hid⟩
    · rintro ⟨hname, front', hid'⟩
      have hshort := shortName?_append hid' hname
      rw [shortName?_append hid htail, Option.some_inj] at hshort
      rw [hshort, String.ofList_toList]
  · rw [shortName?, Text.fields_of_not_mem hdot]
    refine iff_of_false (by simp) fun h => ?_
    obtain ⟨-, front, hid⟩ := h
    exact hdot (by rw [hid]; simp)

/-- The statements that are found under a name by the ends of their ids. -/
theorem mem_sharing {r : Registry} {name : String} {m : MappedStatement} :
    m ∈ r.sharing name ↔ m ∈ r.statements ∧ EndsIn m.id name := by
  rw [sharing, List.mem_filter, beq_iff_eq, shortName?_eq_some_iff]

/-! ## Finding -/

/-- A registry with one statement for each id answers every name as its statements demand. -/
theorem find_lookup {r : Registry} (hids : r.ids.Nodup) (name : String) :
    Lookup (· ∈ r.statements) name (r.find name) := by
  rw [find]
  cases hfound : r.statement? name with
  | some m =>
    have hid : m.id = name := by simpa using List.find?_some hfound
    exact .exact (List.mem_of_find?_eq_some hfound) hid
  | none =>
    have hno : ∀ m ∈ r.statements, m.id ≠ name := by
      intro m hm hid
      exact List.find?_eq_none.1 hfound m hm (by simpa using hid)
    have hnodup : ((r.sharing name).map (·.id)).Nodup := hids.sublist (List.filter_sublist.map _)
    cases hsharing : r.sharing name with
    | nil =>
      refine .missing hno fun m hm hends => ?_
      exact List.not_mem_nil (hsharing ▸ mem_sharing.2 ⟨hm, hends⟩)
    | cons m ms =>
      cases ms with
      | nil =>
        have hone : ∀ m', m' ∈ r.statements → EndsIn m'.id name → m' = m := by
          intro m' hm' hends
          simpa [hsharing] using mem_sharing.2 ⟨hm', hends⟩
        have hm := mem_sharing.1 (hsharing ▸ List.mem_singleton_self m)
        exact .only hno hm.1 hm.2 hone
      | cons m' ms =>
        rw [hsharing] at hnodup
        refine .shared hno hnodup (by simp) fun id => ?_
        rw [← hsharing, List.mem_map]
        simp only [mem_sharing]
        constructor
        · rintro ⟨m, ⟨hm, hends⟩, rfl⟩
          exact ⟨hends, m, hm, rfl⟩
        · rintro ⟨hends, m, hm, rfl⟩
          exact ⟨m, ⟨hm, hends⟩, rfl⟩

/-! ## Offering -/

/-- The registry after a statement was offered to it, which may have been turned away. -/
def offer (r : Registry) (m : MappedStatement) : Registry :=
  match r.addStatement m with
  | .ok r' => r'
  | .error _ => r

/-- The registry after statements were offered to it one after another. -/
def offerAll (r : Registry) (calls : List MappedStatement) : Registry := calls.foldl offer r

/-- The statement is the first of its id among those that are offered. -/
def First (calls : List MappedStatement) (m : MappedStatement) : Prop :=
  calls.find? (·.id == m.id) = some m

variable {r : Registry} {m : MappedStatement} {calls calls' : List MappedStatement}

/-- A statement is turned away exactly if its id is registered. -/
theorem addStatement_eq_error_iff {e : MapperError} : r.addStatement m = .error e ↔
    m.id ∈ r.ids ∧ e = .configuration (.duplicateStatement m.id) := by
  rw [← hasStatement_iff, addStatement]
  split
  · rename_i hid
    simp [hid, eq_comm]
  · rename_i hid
    simp [hid]

theorem offer_of_mem (h : m.id ∈ r.ids) : r.offer m = r := by
  rw [offer, addStatement_eq_error_iff.2 ⟨h, rfl⟩]

theorem offer_of_not_mem (h : m.id ∉ r.ids) : r.offer m = r.append [m] := by
  rw [offer, addStatement_of_new h]

theorem offerAll_append (r : Registry) (calls more : List MappedStatement) :
    r.offerAll (calls ++ more) = (r.offerAll calls).offerAll more := List.foldl_append ..

theorem offerAll_cons (r : Registry) (m : MappedStatement) (calls : List MappedStatement) :
    r.offerAll (m :: calls) = (r.offer m).offerAll calls := rfl

/-- An offer keeps one statement for each id. -/
theorem nodup_offer (h : r.ids.Nodup) (m : MappedStatement) : (r.offer m).ids.Nodup := by
  by_cases hm : m.id ∈ r.ids
  · rwa [offer_of_mem hm]
  · rw [offer_of_not_mem hm, ids_append]
    simpa using h.concat hm

theorem nodup_offerAll (h : r.ids.Nodup) (calls : List MappedStatement) :
    (r.offerAll calls).ids.Nodup := by
  induction calls generalizing r with
  | nil => exact h
  | cons m calls ih => exact ih (nodup_offer h m)

theorem mem_ids_offer {id : String} : id ∈ (r.offer m).ids ↔ id ∈ r.ids ∨ id = m.id := by
  by_cases hm : m.id ∈ r.ids
  · rw [offer_of_mem hm]
    constructor
    · exact .inl
    · rintro (h | rfl)
      · exact h
      · exact hm
  · rw [offer_of_not_mem hm, ids_append]
    simp

/-- After an offer every id that was offered is registered. -/
theorem mem_ids_offerAll {id : String} :
    id ∈ (r.offerAll calls).ids ↔ id ∈ r.ids ∨ id ∈ calls.map (·.id) := by
  induction calls generalizing r with
  | nil => simp [offerAll]
  | cons m calls ih =>
    rw [offerAll_cons, ih, mem_ids_offer, List.map_cons, List.mem_cons, or_assoc]

theorem first_cons {m' : MappedStatement} :
    First (m' :: calls) m ↔ m' = m ∨ m'.id ≠ m.id ∧ First calls m := by
  rw [First, List.find?_cons]
  by_cases hid : m'.id = m.id
  · simp [hid]
  · have hne : m' ≠ m := fun h => hid (congrArg MappedStatement.id h)
    have hbeq : (m'.id == m.id) = false := beq_eq_false_iff_ne.2 hid
    simp [hbeq, hid, hne, First]

/-- What is offered joins what is registered where it is the first of an id that is new. -/
theorem mem_offerAll : m ∈ (r.offerAll calls).statements ↔
    m ∈ r.statements ∨ m.id ∉ r.ids ∧ First calls m := by
  induction calls generalizing r with
  | nil => simp [offerAll, First]
  | cons m' calls ih =>
    rw [offerAll_cons, ih, first_cons]
    by_cases hm' : m'.id ∈ r.ids
    · rw [offer_of_mem hm']
      -- the first one of the id is registered already
      have hne : m.id ∉ r.ids → m' ≠ m ∧ m'.id ≠ m.id := by
        intro hm
        refine ⟨?_, fun hid => hm (hid ▸ hm')⟩
        rintro rfl
        exact hm hm'
      grind
    · rw [offer_of_not_mem hm', ids_append]
      simp only [append, List.mem_append, List.mem_singleton, List.map_cons, List.map_nil]
      grind

theorem First.mem (h : First calls m) : m ∈ calls := List.mem_of_find?_eq_some h

theorem First.unique {m' : MappedStatement} (h : First calls m) (h' : First calls m')
    (hid : m.id = m'.id) : m = m' := by
  rw [First, hid] at h
  exact Option.some_inj.1 (h.symm.trans h')

theorem exists_first (h : m ∈ calls) : ∃ m', First calls m' ∧ m'.id = m.id := by
  have hsome : (calls.find? (·.id == m.id)).isSome = true :=
    List.find?_isSome.2 ⟨m, h, beq_self_eq_true m.id⟩
  obtain ⟨m', hm'⟩ := Option.isSome_iff_exists.1 hsome
  have hid : m'.id = m.id := by simpa using List.find?_some hm'
  exact ⟨m', by rwa [First, hid], hid⟩

/-- The registry after statements were offered to a new one. -/
def offered (settings : Settings) (calls : List MappedStatement) : Registry :=
  (empty settings).offerAll calls

theorem mem_offered (settings : Settings) :
    m ∈ (offered settings calls).statements ↔ First calls m := by
  rw [offered, mem_offerAll]
  simp [empty, ids]

theorem find_offered_lookup (settings : Settings) (calls : List MappedStatement) (name : String) :
    Lookup (First calls) name ((offered settings calls).find name) := by
  have hnodup : (offered settings calls).ids.Nodup :=
    nodup_offerAll (by simp [empty, ids]) calls
  have hsame : (· ∈ (offered settings calls).statements) = First calls :=
    funext fun m => propext (mem_offered settings)
  rw [← hsame]
  exact find_lookup hnodup name

theorem offered_of_error {settings : Settings} {before after : List MappedStatement}
    {e : MapperError} (h : (offered settings before).addStatement m = .error e) :
    offered settings (before ++ m :: after) = offered settings (before ++ after) := by
  have hoffer : (offered settings before).offer m = offered settings before := by rw [offer, h]
  rw [offered, offerAll_append, offerAll_cons, offered, offerAll_append]
  rw [offered] at hoffer
  rw [hoffer]

/-- A statement that reads nothing, told from others of its id by its timeout. -/
def idle (id : String) (timeout : Option Nat) : MappedStatement where
  id := id
  source := .fixed ⟨"", []⟩
  command := .select
  preparation := .prepared
  cache := none
  flushes := false
  usesCache := true
  timeout := timeout
  databaseId := none

/-- Two ids share the name `count`, one of which is offered twice, and one id has no dot. -/
def clashing : List MappedStatement :=
  [idle "a.count" none, idle "b.count" none] ++ idle "a.count" (some 5) ::
    [idle "c.byId" none, idle "all" none]

end Registry

end MappedSql
