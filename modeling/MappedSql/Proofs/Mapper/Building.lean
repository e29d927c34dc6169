import MappedSql.Mapper.Namespace

/- What a statement needs of a registry.

   A statement is built from the caches and the fragments that are registered. As long as
   something is missing it is incomplete; any other outcome, a failure included, stays
   when more is registered (`build_settled`). The ids of a namespace are its name, a dot
   and a local name without one (`qualify_eq_ok_iff`), so two namespaces never declare the
   same id (`qualify_namespace`). -/
namespace MappedSql

/-! ## Ids -/

/-- The id of a namespace's element with this local name, which has no dot. -/
structure Qualified (ns name q : String) : Prop where
  no_dot : '.' ∉ name.toList
  eq : q = ns ++ "." ++ name

namespace Qualified

variable {ns ns' name name' q : String}

theorem toList_eq (h : Qualified ns name q) :
    q.toList = ns.toList ++ '.' :: name.toList := by
  rw [h.eq]
  simp

/-- The namespace is what stands before the last dot. -/
theorem cut?_reverse (h : Qualified ns name q) :
    Text.cut? '.' q.toList.reverse = some (name.toList.reverse, ns.toList.reverse) := by
  have hname : '.' ∉ name.toList.reverse := fun hdot => h.no_dot (List.mem_reverse.1 hdot)
  rw [h.toList_eq, List.reverse_append, List.reverse_cons, List.append_assoc]
  exact Text.cut?_append_cons hname

/-- An id is of one namespace only, and has one local name there. -/
theorem unique (h : Qualified ns name q) (h' : Qualified ns' name' q) : ns = ns' ∧ name = name' := by
  have heq := h.cut?_reverse.symm.trans h'.cut?_reverse
  simp only [Option.some.injEq, Prod.mk.injEq, List.reverse_inj] at heq
  exact ⟨String.ext_iff.2 heq.2, String.ext_iff.2 heq.1⟩

theorem contains_dot (h : Qualified ns name q) : name.toList.contains '.' = false := by
  simpa using h.no_dot

theorem dropPiece?_name (h : Qualified ns name q) :
    Text.dropPiece? (ns.toList ++ ['.']) name.toList = none := by
  refine Option.eq_none_iff_forall_ne_some.2 fun rest hrest => h.no_dot ?_
  rw [Text.dropPiece?_eq_some.1 hrest]
  simp

theorem dropPiece?_id (h : Qualified ns name q) :
    Text.dropPiece? (ns.toList ++ ['.']) q.toList = some name.toList :=
  Text.dropPiece?_eq_some.2 (by simpa using h.toList_eq)

/-- The namespace takes the local name for the id. -/
theorem qualify_name (h : Qualified ns name q) : qualify ns name = .ok q := by
  rw [qualify, h.dropPiece?_name, h.eq]
  simp only [h.contains_dot, Bool.false_eq_true, if_false]

/-- The namespace leaves the id as it is. -/
theorem qualify_id (h : Qualified ns name q) : qualify ns q = .ok q := by
  rw [qualify, h.dropPiece?_id]
  simp only [h.contains_dot, Bool.false_eq_true, if_false]

end Qualified

/-- A namespace declares an element by its local name or by its id, and by nothing else. -/
theorem qualify_eq_ok_iff {ns id q : String} :
    qualify ns id = .ok q ↔ ∃ name, Qualified ns name q ∧ (id = name ∨ id = q) := by
  constructor
  · intro h
    unfold qualify at h
    split at h
    · rename_i rest hrest
      split at h
      · cases h
      · rename_i hdot
        cases h
        have htext := Text.dropPiece?_eq_some.1 hrest
        have hname : '.' ∉ (String.ofList rest).toList := by simpa using hdot
        exact ⟨String.ofList rest, ⟨hname, by simp [String.ext_iff, htext]⟩, .inr rfl⟩
    · split at h
      · cases h
      · rename_i hdot
        cases h
        exact ⟨id, ⟨by simpa using hdot, rfl⟩, .inl rfl⟩
  · rintro ⟨name, hq, rfl | rfl⟩
    · exact hq.qualify_name
    · exact hq.qualify_id

/-- Two namespaces do not declare the same id. -/
theorem qualify_namespace {ns ns' id id' q : String} (h : qualify ns id = .ok q)
    (h' : qualify ns' id' = .ok q) : ns = ns' := by
  obtain ⟨name, hq, -⟩ := qualify_eq_ok_iff.1 h
  obtain ⟨name', hq', -⟩ := qualify_eq_ok_iff.1 h'
  exact (hq.unique hq').1

/-! ## Expansion -/

/-- Fragments that include others, under the same ids. -/
def Fragments.Extends (fs' fs : Fragments) : Prop :=
  ∀ id nodes, fs.get? id = some nodes → fs'.get? id = some nodes

namespace Template

/-- An outcome that is not the want of a fragment. -/
def Settled {α : Type} (x : Except Error α) : Prop :=
  ∀ reference, x ≠ .error (.unknownFragment reference)

/-- Steps that are the same once they are settled make a whole that is. -/
theorem bind_settled {α β : Type} {x x' : Except Error α} {f f' : α → Except Error β}
    (hx : Settled x → x' = x) (hf : ∀ a, Settled (f a) → f' a = f a)
    (h : Settled (x.bind f)) : x'.bind f' = x.bind f := by
  cases x with
  | error err =>
    rw [hx fun reference he => h reference (by rw [he]; rfl)]
    rfl
  | ok a =>
    rw [hx fun reference he => by cases he]
    exact hf a h

/-- An expansion that misses no fragment is the same over more fragments. -/
theorem expand_settled {fs fs' : Fragments} (h : fs'.Extends fs) (ns : Option String)
    (path : List String) (nodes : List Markup.Node) (hx : Settled (expand fs ns path nodes)) :
    expand fs' ns path nodes = expand fs ns path nodes := by
  induction path, nodes using expand.induct fs ns with
  | case1 path => simp [expand]
  | case2 path s rest ih =>
    rw [expand_text] at hx ⊢
    rw [expand_text]
    exact bind_settled ih (fun _ _ => rfl) hx
  | case3 path attributes line children rest ihf ih =>
    rw [expand_include] at hx ⊢
    rw [expand_include]
    refine bind_settled (fun _ => rfl) (fun reference hr => ?_) hx
    dsimp only at hr ⊢
    by_cases hp : path.contains (qualifyReference ns reference) = true
    · rw [if_pos hp, if_pos hp]
    · rw [if_neg hp] at hr
      rw [if_neg hp, if_neg hp]
      cases hf : fs.get? (qualifyReference ns reference) with
      | none =>
        rw [hf] at hr
        exact absurd rfl (hr _)
      | some nodes =>
        rw [hf] at hr
        rw [h _ _ hf]
        exact bind_settled (ihf reference hp nodes hf)
          (fun _ hrest => bind_settled ih (fun _ _ => rfl) hrest) hr
  | case4 path name attributes line children rest hn ihc ih =>
    rw [expand_element _ _ _ _ _ _ _ hn] at hx ⊢
    rw [expand_element _ _ _ _ _ _ _ hn]
    exact bind_settled ihc (fun _ hrest => bind_settled ih (fun _ _ => rfl) hrest) hx

theorem read_settled {fs fs' : Fragments} (h : fs'.Extends fs) (ns : Option String)
    (script : String) (hx : Settled (read fs ns script)) : read fs' ns script = read fs ns script :=
  bind_settled (fun _ => rfl)
    (fun nodes hn => bind_settled (expand_settled h ns [] (unwrap nodes)) (fun _ _ => rfl) hn) hx

end Template

theorem Source.read_settled {fs fs' : Fragments} (h : fs'.Extends fs)
    (ns databaseId : Option String) (id script : String)
    (hx : Template.Settled (read fs ns databaseId id script)) :
    read fs' ns databaseId id script = read fs ns databaseId id script :=
  Template.bind_settled (Template.read_settled h ns script) (fun _ _ => rfl) hx

/-! ## Building -/

/-- A registry that has the caches and the fragments of another, under the same settings. -/
structure Registry.Extends (r' r : Registry) : Prop where
  settings : r'.settings = r.settings
  caches : ∀ id, r.hasCache id = true → r'.hasCache id = true
  fragments : r'.fragments.Extends r.fragments

theorem Registry.Extends.refl (r : Registry) : r.Extends r := ⟨rfl, fun _ h => h, fun _ _ h => h⟩

theorem Registry.Extends.trans {r r' r'' : Registry} (h : r''.Extends r') (h' : r'.Extends r) :
    r''.Extends r :=
  ⟨h.settings.trans h'.settings, fun id hc => h.caches id (h'.caches id hc),
    fun id nodes hf => h.fragments id nodes (h'.fragments id nodes hf)⟩

/-- An outcome that more registered elements do not change. -/
def Complete {α : Type} (x : Except MapperError α) : Prop := ∀ gap, x ≠ .error (.incomplete gap)

theorem complete_ok {α : Type} (a : α) : Complete (.ok a : Except MapperError α) := by
  intro gap h
  cases h

namespace StatementDefinition

theorem build_eq (d : StatementDefinition) (ns : String) (source : CacheSource) (r : Registry) :
    d.build ns source r = (source.resolve r).bind fun cache =>
      (qualify ns d.id).bind fun id =>
        ((Source.read r.fragments (some ns) r.databaseId id d.script).mapError scriptError).bind
          fun script => .ok
            { id, cache
              source := script
              command := d.command
              preparation := d.preparation
              flushes := d.flushes.getD (!d.command.isSelect)
              usesCache := d.usesCache.getD d.command.isSelect
              timeout := d.timeout <|> r.settings.timeout
              databaseId := d.databaseId } := rfl

/-- A statement that is built, or that cannot be built, stays so when more is registered. -/
theorem build_settled {r r' : Registry} (h : r'.Extends r) (d : StatementDefinition)
    (ns : String) (source : CacheSource) (hb : Complete (d.build ns source r)) :
    d.build ns source r' = d.build ns source r := by
  have hdb : r'.databaseId = r.databaseId := by rw [Registry.databaseId, h.settings]; rfl
  rw [build_eq] at hb
  rw [build_eq, build_eq, h.settings, hdb]
  have hsource : source.resolve r' = source.resolve r := by
    cases source with
    | known id => rfl
    | awaited ref =>
      simp only [CacheSource.resolve] at hb ⊢
      by_cases hc : r.hasCache ref = true
      · rw [if_pos hc, if_pos (h.caches ref hc)]
      · rw [if_neg hc] at hb
        exact absurd rfl (hb _)
  rw [hsource]
  cases hc : source.resolve r with
  | error err => rfl
  | ok cache =>
    cases hq : qualify ns d.id with
    | error err => rfl
    | ok id =>
      rw [hc, hq] at hb
      change Complete (Except.bind (Except.mapError scriptError _) _) at hb
      have hs : Template.Settled
          (Source.read r.fragments (some ns) r.databaseId id d.script) := by
        intro reference he
        rw [he] at hb
        exact hb _ rfl
      show Except.bind (Except.mapError scriptError _) _ =
        Except.bind (Except.mapError scriptError _) _
      rw [Source.read_settled h.fragments _ _ _ _ hs]

theorem build_id {d : StatementDefinition} {ns : String} {source : CacheSource} {r : Registry}
    {m : MappedStatement} (h : d.build ns source r = .ok m) : qualify ns d.id = .ok m.id := by
  rw [build_eq] at h
  obtain ⟨cache, -, h⟩ := bind_eq_ok h
  obtain ⟨id, hq, h⟩ := bind_eq_ok h
  obtain ⟨script, -, h⟩ := bind_eq_ok h
  cases h
  exact hq

/-- The cache of a statement may be known or awaited. -/
theorem build_source {r : Registry} {source source' : CacheSource}
    (h : source.resolve r = source'.resolve r) (d : StatementDefinition) (ns : String) :
    d.build ns source r = d.build ns source' r := by
  rw [build_eq, build_eq, h]

end StatementDefinition

theorem CacheConfig.build_id {config : CacheConfig} {id : String} {c : Cache}
    (h : config.build id = .ok c) : c.id = id := by
  have hb : (bounded config.eviction config.size id).id = id := by
    cases config.eviction <;> rfl
  unfold build at h
  by_cases hs : config.size = 0
  · rw [if_pos hs] at h
    cases h
  · rw [if_neg hs] at h
    by_cases hf : config.flushInterval = some 0
    · rw [if_pos hf] at h
      cases h
    · rw [if_neg hf] at h
      cases h
      simp only [shared, Cache.id]
      cases config.readWrite <;> cases config.flushInterval <;> exact hb

end MappedSql
