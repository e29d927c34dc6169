import MappedSql.Proofs.Mapper.Resolving

/- Registering one namespace.

   A registration goes through the reference to a cache, the namespace's own cache, its
   fragments and its statements. What it adds to the registry can be told from the
   definition and from what is registered before (`NamespaceDefinition.source`,
   `ownCaches`, `ownFragments`): of the statements it takes all that suit the database,
   but none for any database whose id is registered at that moment (`pick`). A statement
   that lacks something is taken but not registered, and so does not keep a later one
   of its id out. -/
namespace MappedSql

/-! ## What a definition adds -/

/-- The fragment with its id. -/
def FragmentDefinition.read (f : FragmentDefinition) (ns : String) :
    Except MapperError (String × List Markup.Node) :=
  (qualify ns f.id).bind fun id =>
    ((Template.readFragment f.script).mapError MapperError.template).map fun nodes => (id, nodes)

namespace StatementDefinition

/-- Whether a statement is for this database, or for any. -/
def suits (d : StatementDefinition) (databaseId : Option String) : Bool :=
  match d.databaseId with
  | some required => databaseId == some required
  | none => true

/-- The id of a statement, if it has one. -/
def idIn? (d : StatementDefinition) (ns : String) : Option String := (qualify ns d.id).toOption

/-- Whether a statement lacks nothing that is registered. -/
def isReady (d : StatementDefinition) (ns : String) (source : CacheSource) (r : Registry) : Bool :=
  (d.build ns source r).isOk

end StatementDefinition

namespace NamespaceDefinition

/-- The cache that the namespace builds, if it can be built. -/
def ownCaches (d : NamespaceDefinition) : Shelf :=
  match d.cache with
  | some config => ((config.build d.ns).toOption).toList
  | none => []

/-- The fragments of the namespace that can be read. -/
def ownFragments (d : NamespaceDefinition) : Fragments :=
  d.fragments.filterMap fun f => (f.read d.ns).toOption

/-- Where the statements of the namespace get their cache. -/
def source (d : NamespaceDefinition) (r : Registry) : CacheSource :=
  match d.cache, d.cacheRef with
  | some _, _ => .known (some d.ns)
  | none, some referenced =>
    if r.hasCache referenced then .known (some referenced) else .awaited referenced
  | none, none => .known none

/-- The reference that has to wait. -/
def references (d : NamespaceDefinition) (r : Registry) : List Job :=
  match d.cacheRef with
  | some referenced => if r.hasCache referenced then [] else [.cache d.ns referenced]
  | none => []

/-- The statements that are for this database, in the order of registration. -/
def applicable (d : NamespaceDefinition) (databaseId : Option String) :
    List StatementDefinition :=
  d.inOrder.filter (·.suits databaseId)

end NamespaceDefinition

/-- The statements that are taken one after the other: all for one database, and those for any
whose id is not counted yet. -/
def pick (ns : String) (counts : StatementDefinition → Bool) :
    List String → List StatementDefinition → List StatementDefinition
  | _, [] => []
  | ids, s :: rest =>
    if s.databaseId.isNone && (s.idIn? ns).any ids.contains then pick ns counts ids rest
    else
      s :: pick ns counts (if counts s then ids ++ (s.idIn? ns).toList else ids) rest

/-! ## Steps of a registration -/

namespace Register

variable {α β : Type}

/-- The outcome of a step and the registration after it. -/
def outcome (x : Register α) (g : Registration) : Except MapperError α × Registration := x.run.run g

theorem outcome_pure (a : α) (g : Registration) : outcome (pure a) g = (.ok a, g) := rfl

theorem outcome_get (g : Registration) : outcome get g = (.ok g, g) := rfl

theorem outcome_set (g g' : Registration) : outcome (set g') g = (.ok ⟨⟩, g') := rfl

theorem outcome_throw (e : MapperError) (g : Registration) :
    outcome (throw e : Register α) g = (.error e, g) := rfl

theorem outcome_lift (x : Except MapperError α) (g : Registration) :
    outcome (liftM x) g = (x, g) := by
  cases x <;> rfl

theorem outcome_bind (x : Register α) (f : α → Register β) (g : Registration) :
    outcome (x >>= f) g = match outcome x g with
      | (.ok a, g) => outcome (f a) g
      | (.error e, g) => (.error e, g) := by
  unfold outcome
  rw [ExceptT.run_bind, StateT.run_bind]
  rcases x.run.run g with ⟨r, g'⟩
  cases r <;> rfl

theorem outcome_statement (d : StatementDefinition) (g : Registration) :
    outcome (statement d) g = match d.applies g.ns g.configuration.registry with
      | .error e => (.error e, g)
      | .ok false => (.ok .resolved, g)
      | .ok true => match d.attempt g.ns g.source g.configuration.registry with
        | .resolved r => (.ok .resolved, g.setRegistry r)
        | .waiting => (.ok .pending, g.defer
            (.mk (qualifyReference (some g.ns) d.id) (d.attempt g.ns g.source) []))
        | .failed e _ => (.error e, g) := by
  simp only [statement, outcome_bind, outcome_get, outcome_lift]
  cases h : d.applies g.ns g.configuration.registry with
  | error e => rfl
  | ok b =>
    cases b with
    | false => rfl
    | true =>
      simp only [Bool.not_true, Bool.false_eq_true, if_false]
      cases d.attempt g.ns g.source g.configuration.registry <;>
        simp only [outcome_bind, outcome_set, outcome_pure, outcome_throw]

theorem outcome_forM_cons {γ : Type} (x : γ) (xs : List γ) (f : γ → Register Unit)
    (g : Registration) : outcome ((x :: xs).forM f) g = match outcome (f x) g with
      | (.ok _, g) => outcome (xs.forM f) g
      | (.error e, g) => (.error e, g) := by
  rw [List.forM, outcome_bind]
  rcases outcome (f x) g with ⟨r, g'⟩
  cases r <;> rfl

/-- The first step: the cache that is shared. -/
def referring (d : NamespaceDefinition) : Register Unit :=
  match d.cacheRef with
  | some referenced => do let _ ← cacheRef referenced
  | none => pure ()

/-- The second step: the namespace's own cache. -/
def caching (d : NamespaceDefinition) : Register Unit :=
  match d.cache with
  | some config => do let _ ← newCache (some config)
  | none => pure ()

/-- The third step. -/
def fragments (fs : List FragmentDefinition) : Register Unit :=
  fs.forM fun f => do let _ ← fragment f.id f.script

/-- The last step. -/
def statements (ss : List StatementDefinition) : Register Unit :=
  ss.forM fun s => do let _ ← statement s

theorem all_eq (d : NamespaceDefinition) : all d = (do
    referring d
    caching d
    fragments d.fragments
    statements d.inOrder) := by
  unfold all referring caching fragments statements
  cases d.cacheRef <;> cases d.cache <;> simp

theorem outcome_referring (d : NamespaceDefinition) (c : Configuration) :
    ∃ refs cache awaited, outcome (referring d) ⟨d.ns, none, none, c⟩ = (.ok (),
      ⟨d.ns, cache, awaited, ⟨{ c.registry with cacheRefs := refs },
        c.queue ++ (d.references c.registry).map Job.deferred⟩⟩) ∧
      (d.cache = none → Registration.source ⟨d.ns, cache, awaited, c⟩ = d.source c.registry) := by
  unfold referring NamespaceDefinition.references NamespaceDefinition.source
  cases hr : d.cacheRef with
  | none =>
    refine ⟨c.registry.cacheRefs, none, none, by simp [outcome_pure], ?_⟩
    intro hc
    rw [hc]
    rfl
  | some referenced =>
    have hcache : ∀ refs, Registry.hasCache { c.registry with cacheRefs := refs } referenced =
        c.registry.hasCache referenced := fun _ => rfl
    simp only [cacheRef, outcome_bind, outcome_get, Registration.setRegistry,
      Registry.addCacheRef, hcache]
    by_cases hc : c.registry.hasCache referenced = true
    · refine ⟨(d.ns, referenced) :: c.registry.cacheRefs.filter (·.1 != d.ns),
        some referenced, none, by
        simp only [hc, if_true, outcome_bind, outcome_set, outcome_pure, List.map_nil,
          List.append_nil], ?_⟩
      intro hd
      simp [hd, hc, Registration.source]
    · refine ⟨(d.ns, referenced) :: c.registry.cacheRefs.filter (·.1 != d.ns),
        none, some referenced, by
        simp only [hc, if_false, Bool.false_eq_true, outcome_bind, outcome_set, outcome_pure]
        rfl, ?_⟩
      intro hd
      simp [hd, hc, Registration.source]

/-- The registration with the namespace's own cache, if it has one. -/
def withCaches (g : Registration) (d : NamespaceDefinition) : Registration :=
  { g with
    cache := if d.cache.isSome then some d.ns else g.cache
    awaited := if d.cache.isSome then none else g.awaited
    configuration := { g.configuration with registry := { g.configuration.registry with
      shelf := g.configuration.registry.shelf ++ d.ownCaches } } }

/-- The namespace's own cache is built, and no cache of its id is registered. -/
theorem outcome_caching {d : NamespaceDefinition} {g : Registration} (hg : g.ns = d.ns)
    (hnew : g.configuration.registry.hasCache d.ns = false) :
    (∃ config e, d.cache = some config ∧ config.build d.ns = .error e ∧
      (outcome (caching d) g).1 = .error (.cache e)) ∨
    (∀ config, d.cache = some config → ∃ c, config.build d.ns = .ok c) ∧
      outcome (caching d) g = (.ok (), withCaches g d) := by
  unfold caching withCaches NamespaceDefinition.ownCaches
  cases hc : d.cache with
  | none =>
    refine .inr ⟨fun _ h => (by cases h), ?_⟩
    simp [outcome_pure]
  | some config =>
    simp only [newCache, outcome_bind, outcome_get, outcome_lift, Option.getD_some, hg,
      Registry.newCache]
    cases hb : config.build d.ns with
    | error e => exact .inl ⟨config, e, rfl, hb, rfl⟩
    | ok c =>
      refine .inr ⟨fun config' h => ⟨c, by rw [← Option.some.inj h]; exact hb⟩, ?_⟩
      have hadd : g.configuration.registry.addCache c = .ok
          { g.configuration.registry with shelf := g.configuration.registry.shelf ++ [c] } := by
        rw [Registry.addCache, CacheConfig.build_id hb, hnew]
        rfl
      have hlift : (do
          let c ← Except.mapError MapperError.cache (Except.ok c)
          g.configuration.registry.addCache c) = g.configuration.registry.addCache c := rfl
      rw [hlift, hadd]
      simp only [outcome_set, outcome_pure, Registration.setRegistry, hg]
      rfl

theorem outcome_fragment (f : FragmentDefinition) (g : Registration) :
    outcome (fragment f.id f.script) g = match f.read g.ns with
      | .error e => (.error e, g)
      | .ok (id, nodes) => match g.configuration.registry.addFragment id nodes with
        | .error e => (.error e, g)
        | .ok r => (.ok id, g.setRegistry r) := by
  simp only [fragment, outcome_bind, outcome_get, outcome_lift, FragmentDefinition.read]
  cases qualify g.ns f.id with
  | error e => rfl
  | ok id =>
    cases (Template.readFragment f.script).mapError MapperError.template with
    | error e => rfl
    | ok nodes =>
      cases ha : g.configuration.registry.addFragment id nodes <;>
        simp only [ha, Except.bind, Except.map, outcome_set, outcome_pure]

end Register

/-! ## Fragments -/

namespace Fragments

/-- The ids of the fragments. -/
def ids (fs : Fragments) : List String := fs.map (·.1)

theorem get?_isSome {fs : Fragments} {id : String} : (fs.get? id).isSome = true ↔ id ∈ fs.ids := by
  induction fs with
  | nil => simp [get?, ids]
  | cons f rest ih =>
    obtain ⟨k, nodes⟩ := f
    by_cases hk : id = k
    · simp [get?, ids, hk]
    · simpa [get?, ids, hk] using ih

theorem get?_eq_some {fs : Fragments} (h : fs.ids.Nodup) {id : String}
    {nodes : List Markup.Node} : fs.get? id = some nodes ↔ (id, nodes) ∈ fs := by
  induction fs with
  | nil => simp [get?]
  | cons f rest ih =>
    obtain ⟨k, ns⟩ := f
    rw [ids, List.map_cons, List.nodup_cons] at h
    by_cases hk : id = k
    · subst hk
      have hn : (id, nodes) ∉ rest := fun hm => h.1 (List.mem_map.2 ⟨_, hm, rfl⟩)
      simp [get?, hn, eq_comm]
    · simp [get?, hk, ih h.2]

end Fragments

namespace Register

/-- With more fragments. -/
def withFragments (g : Registration) (fs : Fragments) : Registration :=
  g.setRegistry { g.configuration.registry with
    fragments := g.configuration.registry.fragments ++ fs }

/-- The fragments can be read and have ids of their own. -/
theorem outcome_fragments (fs : List FragmentDefinition) (g g' : Registration)
    (hg : g.configuration.registry.fragments.ids.Nodup) :
    outcome (fragments fs) g = (.ok (), g') ↔
      (∀ f ∈ fs, ∃ x, f.read g.ns = .ok x) ∧
      (g.configuration.registry.fragments ++
        fs.filterMap fun f => (f.read g.ns).toOption).ids.Nodup ∧
      g' = withFragments g (fs.filterMap fun f => (f.read g.ns).toOption) := by
  induction fs generalizing g with
  | nil =>
    have hn : withFragments g [] = g := by simp [withFragments, Registration.setRegistry]
    simp only [List.filterMap_nil, List.append_nil, hg, hn, List.not_mem_nil, false_implies,
      implies_true, true_and]
    exact ⟨fun h => (Prod.mk.inj h).2.symm, fun h => by rw [h]; rfl⟩
  | cons f fs ih =>
    rw [fragments, outcome_forM_cons, outcome_bind, outcome_fragment]
    cases hf : f.read g.ns with
    | error e =>
      refine ⟨fun h => (by cases h), fun h => ?_⟩
      obtain ⟨x, hx⟩ := h.1 f List.mem_cons_self
      rw [hf] at hx
      cases hx
    | ok x =>
      obtain ⟨id, nodes⟩ := x
      dsimp only
      rw [List.filterMap_cons_some (by rw [hf]; rfl)]
      by_cases hid : id ∈ g.configuration.registry.fragments.ids
      · rw [Registry.addFragment, if_pos (Fragments.get?_isSome.2 hid)]
        refine ⟨fun h => (by cases h), fun h => ?_⟩
        have hdist := h.2.1
        rw [Fragments.ids, List.map_append, List.nodup_append] at hdist
        exact absurd rfl (hdist.2.2 id hid id List.mem_cons_self)
      · rw [Registry.addFragment, if_neg fun h => hid (Fragments.get?_isSome.1 h)]
        have hnext :
            (withFragments g [(id, nodes)]).configuration.registry.fragments.ids.Nodup := by
          show (Fragments.ids (_ ++ [(id, nodes)])).Nodup
          have hids := List.Nodup.concat hid hg
          simpa [Fragments.ids] using hids
        have hstep := ih (withFragments g [(id, nodes)]) hnext
        refine Iff.trans hstep ?_
        have hns : (withFragments g [(id, nodes)]).ns = g.ns := rfl
        have hmore : ∀ more, withFragments (withFragments g [(id, nodes)]) more =
            withFragments g ((id, nodes) :: more) := by
          intro more
          simp [withFragments, Registration.setRegistry]
        have happend : ∀ more, (withFragments g [(id, nodes)]).configuration.registry.fragments ++
            more = g.configuration.registry.fragments ++ (id, nodes) :: more := by
          intro more
          simp [withFragments, Registration.setRegistry]
        rw [hmore, happend, hns]
        have hall : (∀ f' ∈ f :: fs, ∃ x, f'.read g.ns = .ok x) ↔
            ∀ f' ∈ fs, ∃ x, f'.read g.ns = .ok x := by
          simp [hf]
        rw [hall]

/-- The own cache and the fragments of a namespace of which nothing is registered. -/
theorem outcome_own {d : NamespaceDefinition} {g : Registration} (hg : g.ns = d.ns)
    (hnew : g.configuration.registry.hasCache d.ns = false)
    (hids : g.configuration.registry.fragments.ids.Nodup)
    (hdistinct : ∀ q ∈ d.ownFragments.ids, q ∉ g.configuration.registry.fragments.ids)
    (g' : Registration) :
    outcome (do caching d; fragments d.fragments) g = (.ok (), g') ↔
      (∀ config, d.cache = some config → ∃ c, config.build d.ns = .ok c) ∧
      (∀ f ∈ d.fragments, ∃ x, f.read d.ns = .ok x) ∧ d.ownFragments.ids.Nodup ∧
      g' = withFragments (withCaches g d) d.ownFragments := by
  have hfragments : (withCaches g d).configuration.registry.fragments =
      g.configuration.registry.fragments := rfl
  have hns : (withCaches g d).ns = d.ns := hg
  rw [outcome_bind]
  rcases outcome_caching hg hnew with ⟨config, e, hc, he, ho⟩ | ⟨hok, ho⟩
  · rcases hcaching : outcome (caching d) g with ⟨r, g₁⟩
    rw [hcaching] at ho
    dsimp only at ho
    subst ho
    refine ⟨fun h => (by cases h), fun h => ?_⟩
    obtain ⟨c', hc'⟩ := h.1 config hc
    rw [he] at hc'
    cases hc'
  · rw [ho]
    dsimp only
    rw [outcome_fragments d.fragments (withCaches g d) g' hids, hfragments, hns, Fragments.ids,
      List.map_append, List.nodup_append]
    constructor
    · rintro ⟨hread, ⟨-, hnodup, -⟩, rfl⟩
      exact ⟨hok, hread, hnodup, rfl⟩
    · rintro ⟨-, hread, hnodup, rfl⟩
      refine ⟨hread, ⟨hids, hnodup, ?_⟩, rfl⟩
      rintro q hq _ hq' rfl
      exact hdistinct q hq' hq

end Register

/-! ## Statements -/

namespace Registration

/-- The statements that a registration takes. -/
def taken (g : Registration) (ss : List StatementDefinition) : List StatementDefinition :=
  pick g.ns (·.isReady g.ns g.source g.configuration.registry) g.configuration.registry.ids
    (ss.filter (·.suits g.configuration.registry.databaseId))

/-- The job of a statement in the registration. -/
def job (g : Registration) (s : StatementDefinition) : Job := .statement g.ns g.source s

end Registration

namespace StatementDefinition

/-- A statement is passed over if it is for another database, or for any while its id is
registered. -/
inductive Turn (s : StatementDefinition) (ns : String) (r : Registry) :
    Except MapperError Bool → Prop where
  | other (h : s.suits r.databaseId = false) : Turn s ns r (.ok false)
  | unnamed (e : MapperError) (h : s.databaseId = none) (hq : qualify ns s.id = .error e) :
    Turn s ns r (.error e)
  | known (q : String) (h : s.databaseId = none) (hq : qualify ns s.id = .ok q)
      (hin : q ∈ r.ids) : Turn s ns r (.ok false)
  | taken (h : s.suits r.databaseId = true)
      (hn : s.databaseId = none → ∃ q, qualify ns s.id = .ok q ∧ q ∉ r.ids) :
    Turn s ns r (.ok true)

theorem turn (s : StatementDefinition) (ns : String) (r : Registry) :
    Turn s ns r (s.applies ns r) := by
  unfold applies
  cases hd : s.databaseId with
  | some required =>
    dsimp only
    cases hr : r.databaseId == some required with
    | false => exact .other (by rw [suits, hd]; exact hr)
    | true => exact .taken (by rw [suits, hd]; exact hr) (by rw [hd]; simp)
  | none =>
    dsimp only
    cases hq : qualify ns s.id with
    | error e => exact .unnamed e hd hq
    | ok q =>
      show Turn s ns r (.ok (!r.hasStatement q))
      cases hs : r.hasStatement q with
      | true => exact .known q hd hq (Registry.hasStatement_iff.1 hs)
      | false =>
        refine .taken (by rw [suits, hd]) fun _ => ⟨q, hq, ?_⟩
        intro hin
        rw [Registry.hasStatement_iff.2 hin] at hs
        cases hs

end StatementDefinition

namespace Registration

theorem taken_other {g : Registration} {s : StatementDefinition} {ss : List StatementDefinition}
    (h : s.suits g.configuration.registry.databaseId = false) :
    g.taken (s :: ss) = g.taken ss := by
  simp [taken, h]

theorem taken_known {g : Registration} {s : StatementDefinition} {ss : List StatementDefinition}
    {q : String} (h : s.databaseId = none) (hq : qualify g.ns s.id = .ok q)
    (hin : q ∈ g.configuration.registry.ids) : g.taken (s :: ss) = g.taken ss := by
  have hs : s.suits g.configuration.registry.databaseId = true := by
    rw [StatementDefinition.suits, h]
  have hid : s.idIn? g.ns = some q := by rw [StatementDefinition.idIn?, hq]; rfl
  rw [taken, List.filter_cons, if_pos hs, pick, if_pos (by simp [h, hid, hin]), taken]

theorem taken_cons {g : Registration} {s : StatementDefinition} {ss : List StatementDefinition}
    (hs : s.suits g.configuration.registry.databaseId = true)
    (hn : s.databaseId = none →
      ∃ q, qualify g.ns s.id = .ok q ∧ q ∉ g.configuration.registry.ids) :
    g.taken (s :: ss) = s :: pick g.ns (·.isReady g.ns g.source g.configuration.registry)
      (if s.isReady g.ns g.source g.configuration.registry then
        g.configuration.registry.ids ++ (s.idIn? g.ns).toList
        else g.configuration.registry.ids)
      (ss.filter (·.suits g.configuration.registry.databaseId)) := by
  rw [taken, List.filter_cons, if_pos hs, pick, if_neg]
  intro h
  rw [Bool.and_eq_true] at h
  obtain ⟨q, hq, hnew⟩ := hn (by simpa using h.1)
  rw [StatementDefinition.idIn?, hq] at h
  exact hnew (by simpa [Except.toOption] using h.2)

theorem taken_kept {g : Registration} {s : StatementDefinition} {ss : List StatementDefinition}
    (hs : s.suits g.configuration.registry.databaseId = true)
    (hn : s.databaseId = none →
      ∃ q, qualify g.ns s.id = .ok q ∧ q ∉ g.configuration.registry.ids)
    {e : MapperError} (he : s.build g.ns g.source g.configuration.registry = .error e) :
    g.taken (s :: ss) = s :: g.taken ss := by
  have hready : s.isReady g.ns g.source g.configuration.registry = false := by
    rw [StatementDefinition.isReady, he]
    rfl
  rw [taken_cons hs hn, hready]
  rfl

theorem taken_done {g : Registration} {s : StatementDefinition} {ss : List StatementDefinition}
    (hs : s.suits g.configuration.registry.databaseId = true)
    (hn : s.databaseId = none →
      ∃ q, qualify g.ns s.id = .ok q ∧ q ∉ g.configuration.registry.ids)
    {m : MappedStatement} (hm : s.build g.ns g.source g.configuration.registry = .ok m) :
    g.taken (s :: ss) = s :: (g.setRegistry (g.configuration.registry.append [m])).taken ss := by
  have hready : s.isReady g.ns g.source g.configuration.registry = true := by
    rw [StatementDefinition.isReady, hm]
    rfl
  have hid : s.idIn? g.ns = some m.id := by
    rw [StatementDefinition.idIn?, StatementDefinition.build_id hm]
    rfl
  rw [taken_cons hs hn, hready, hid, if_pos rfl]
  simp only [taken, setRegistry, Registry.ids_append]
  rfl

end Registration

namespace Register

theorem outcome_statement_step (s : StatementDefinition) (g : Registration) :
    outcome (do let _ ← statement s) g = match s.applies g.ns g.configuration.registry with
      | .error e => (.error e, g)
      | .ok false => (.ok (), g)
      | .ok true => match s.build g.ns g.source g.configuration.registry with
        | .ok m => match g.configuration.registry.addStatement m with
          | .ok r => (.ok (), g.setRegistry r)
          | .error e => (.error e, g)
        | .error e => if e.isIncomplete then (.ok (), g.defer (g.job s).deferred)
            else (.error e, g) := by
  rw [outcome_bind, outcome_statement]
  cases s.applies g.ns g.configuration.registry with
  | error e => rfl
  | ok b =>
    cases b with
    | false => rfl
    | true =>
      simp only [StatementDefinition.attempt]
      cases s.build g.ns g.source g.configuration.registry with
      | ok m =>
        dsimp only
        cases g.configuration.registry.addStatement m <;> rfl
      | error e =>
        dsimp only
        cases e.isIncomplete <;> rfl

/-- The ways in which a registration can take the step of a statement. -/
inductive Stepped (g : Registration) (s : StatementDefinition) : Registration → Prop where
  /-- The statement is passed over. -/
  | passed (h : ∀ ss, g.taken (s :: ss) = g.taken ss) : Stepped g s g
  /-- The statement lacks something. -/
  | kept (h : ∀ ss, g.taken (s :: ss) = s :: g.taken ss) :
    Stepped g s (g.defer (g.job s).deferred)
  /-- The statement is registered. -/
  | done (m : MappedStatement) (hm : (g.job s).make g.configuration.registry = .ok (some m))
    (hnew : m.id ∉ g.configuration.registry.ids)
    (h : ∀ ss, g.taken (s :: ss) =
      s :: (g.setRegistry (g.configuration.registry.append [m])).taken ss) :
    Stepped g s (g.setRegistry (g.configuration.registry.append [m]))

/-- A step that does not fail; then a statement for any database has an id. -/
theorem stepped {s : StatementDefinition} {g g' : Registration}
    (h : outcome (do let _ ← statement s) g = (.ok (), g')) :
    (s.databaseId = none → ∃ q, qualify g.ns s.id = .ok q) ∧ Stepped g s g' := by
  rw [outcome_statement_step] at h
  have hturn := s.turn g.ns g.configuration.registry
  generalize s.applies g.ns g.configuration.registry = applies at h hturn
  cases hturn with
  | other ho =>
    cases h
    refine ⟨fun hn => ?_, .passed fun ss => g.taken_other ho⟩
    rw [StatementDefinition.suits, hn] at ho
    cases ho
  | unnamed e hn hq => cases h
  | known q hn hq hin =>
    cases h
    exact ⟨fun _ => ⟨q, hq⟩, .passed fun ss => g.taken_known hn hq hin⟩
  | taken hs hn =>
    have hnamed : s.databaseId = none → ∃ q, qualify g.ns s.id = .ok q := by
      intro hdb
      obtain ⟨q, hq, -⟩ := hn hdb
      exact ⟨q, hq⟩
    refine ⟨hnamed, ?_⟩
    dsimp only at h
    cases hb : s.build g.ns g.source g.configuration.registry with
    | error e =>
      rw [hb] at h
      dsimp only at h
      by_cases he : e.isIncomplete = true
      · rw [if_pos he] at h
        cases h
        exact .kept fun ss => g.taken_kept hs hn hb
      · rw [if_neg he] at h
        cases h
    | ok m =>
      rw [hb] at h
      dsimp only at h
      cases hm : g.configuration.registry.addStatement m with
      | error e => rw [hm] at h; cases h
      | ok r =>
        rw [hm] at h
        cases h
        obtain ⟨hnew, rfl⟩ := Registry.addStatement_eq_ok hm
        refine .done m ?_ hnew fun ss => g.taken_done hs hn hb
        rw [Registration.job, Job.make, hb]
        rfl

/-- A registration that does not fail registers the statements it takes, or keeps those that lack
something. -/
theorem statements_progress (ss : List StatementDefinition) (g g' : Registration)
    (h : outcome (statements ss) g = (.ok (), g')) :
    (∀ s ∈ ss, s.databaseId = none → ∃ q, qualify g.ns s.id = .ok q) ∧
    ∃ (r : Registry) (kept : List Job), g' = { g with configuration :=
        ⟨r, g.configuration.queue ++ kept.map Job.deferred⟩ } ∧
      Progress g.configuration.registry ((g.taken ss).map g.job) r kept := by
  induction ss generalizing g with
  | nil =>
    refine ⟨by simp, g.configuration.registry, [], ?_, progress_refl _ _⟩
    cases h
    simp
  | cons s ss ih =>
    rw [statements, outcome_forM_cons] at h
    cases hstep : outcome (do let _ ← statement s) g with
    | mk result g₁ =>
      rw [hstep] at h
      cases result with
      | error e => cases h
      | ok u =>
        obtain ⟨hnamed, hstepped⟩ := stepped hstep
        have hns : g₁.ns = g.ns := by cases hstepped <;> rfl
        obtain ⟨hrest, r, kept, rfl, hp⟩ := ih g₁ h
        refine ⟨List.forall_mem_cons.2 ⟨hnamed, fun s' hs' => hns ▸ hrest s' hs'⟩, ?_⟩
        cases hstepped with
        | passed ht =>
          rw [ht]
          exact ⟨r, kept, rfl, hp⟩
        | kept ht =>
          rw [ht]
          refine ⟨r, g.job s :: kept, ?_, hp.cons_kept⟩
          simp [Registration.defer, Configuration.defer]
        | done m hm hnew ht =>
          rw [ht]
          exact ⟨r, kept, rfl, hp.cons_registered hm hnew⟩

/-- A registration whose statements make healthy jobs does not fail. -/
theorem statements_healthy (ss : List StatementDefinition) (g : Registration)
    (hq : ∀ s ∈ ss, s.databaseId = none → ∃ q, qualify g.ns s.id = .ok q)
    (hh : Healthy g.configuration.registry ((g.taken ss).map g.job)) :
    ∃ g', outcome (statements ss) g = (.ok (), g') := by
  induction ss generalizing g with
  | nil => exact ⟨g, rfl⟩
  | cons s ss ih =>
    have hqs : ∀ s' ∈ ss, s'.databaseId = none → ∃ q, qualify g.ns s'.id = .ok q :=
      fun s' hs' => hq s' (List.mem_cons_of_mem s hs')
    rw [statements, outcome_forM_cons, outcome_statement_step]
    have hturn := s.turn g.ns g.configuration.registry
    generalize s.applies g.ns g.configuration.registry = applies at hturn ⊢
    cases hturn with
    | other ho =>
      rw [g.taken_other ho] at hh
      exact ih g hqs hh
    | unnamed e hn he =>
      obtain ⟨q, hq⟩ := hq s List.mem_cons_self hn
      rw [he] at hq
      cases hq
    | known q hn hq hin =>
      rw [g.taken_known hn hq hin] at hh
      exact ih g hqs hh
    | taken hs hn =>
      dsimp only
      cases hb : s.build g.ns g.source g.configuration.registry with
      | error e =>
        rw [g.taken_kept hs hn hb] at hh
        have hmake : (g.job s).make g.configuration.registry = .error e := by
          rw [Registration.job, Job.make, hb]
          rfl
        dsimp only
        rw [if_pos (hh.complete (g.job s) List.mem_cons_self e hmake)]
        exact ih (g.defer (g.job s).deferred) hqs hh.tail
      | ok m =>
        rw [g.taken_done hs hn hb] at hh
        have hmake : (g.job s).make g.configuration.registry = .ok (some m) := by
          rw [Registration.job, Job.make, hb]
          rfl
        obtain ⟨hnew, hnext⟩ := hh.register hmake
        dsimp only
        rw [Registry.addStatement_of_new hnew]
        exact ih (g.setRegistry (g.configuration.registry.append [m])) hqs hnext

end Register

end MappedSql
