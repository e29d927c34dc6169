import MappedSql.Proofs.Mapper.Registering

/- Loading namespaces one after the other.

   What is registered after some loads can be told from the loaded definitions: their
   caches and fragments (`Registry.laid`), and the statements of those jobs that are done
   (`Loaded`). Each load adds the jobs of its namespace (`NamespaceDefinition.jobs`). A
   configuration is complete if all jobs are done at its end, so whether the loads and
   the end succeed can be told from the jobs alone (`assemble_iff`). -/
namespace MappedSql

/-! ## Statements with the same id -/

theorem StatementDefinition.idIn?_eq_some {s : StatementDefinition} {ns q : String} :
    s.idIn? ns = some q ↔ qualify ns s.id = .ok q := by
  unfold idIn?
  cases qualify ns s.id <;> simp [Except.toOption]

/-- The ids of statements, as far as they have one. -/
def idsIn (ns : String) (ss : List StatementDefinition) : List String :=
  ss.filterMap (·.idIn? ns)

theorem mem_idsIn_cons {ns q : String} {s : StatementDefinition} {ss : List StatementDefinition} :
    q ∈ idsIn ns (s :: ss) ↔ s.idIn? ns = some q ∨ q ∈ idsIn ns ss := by
  simp [idsIn]

/-- Which ids are counted at first matters only for the ids of the statements. -/
theorem pick_ids {ns : String} {counts : StatementDefinition → Bool} {ids ids' : List String}
    {ss : List StatementDefinition} (h : ∀ q ∈ idsIn ns ss, q ∈ ids ↔ q ∈ ids') :
    pick ns counts ids ss = pick ns counts ids' ss := by
  induction ss generalizing ids ids' with
  | nil => rfl
  | cons s ss ih =>
    have hrest : ∀ q ∈ idsIn ns ss, q ∈ ids ↔ q ∈ ids' :=
      fun q hq => h q (mem_idsIn_cons.2 (.inr hq))
    have hany : (s.idIn? ns).any ids.contains = (s.idIn? ns).any ids'.contains := by
      cases hs : s.idIn? ns with
      | none => rfl
      | some q => simp [h q (mem_idsIn_cons.2 (.inl hs))]
    rw [pick, pick, hany, ih hrest]
    split
    · rfl
    · congr 1
      refine ih fun q hq => ?_
      split
      · simp [hrest q hq]
      · exact hrest q hq

/-- An id that is not counted yet is picked. -/
theorem mem_pick {ns q : String} {counts : StatementDefinition → Bool} {ids : List String}
    {ss : List StatementDefinition} (hq : q ∉ ids) (h : q ∈ idsIn ns ss) :
    q ∈ idsIn ns (pick ns counts ids ss) := by
  induction ss generalizing ids with
  | nil => cases h
  | cons s ss ih =>
    rw [pick]
    by_cases hs : s.idIn? ns = some q
    · rw [if_neg (by simp [hs, hq])]
      exact mem_idsIn_cons.2 (.inl hs)
    · have hss : q ∈ idsIn ns ss := (mem_idsIn_cons.1 h).resolve_left hs
      split
      · exact ih hq hss
      · refine mem_idsIn_cons.2 (.inr (ih ?_ hss))
        split
        · simpa [hq] using hs
        · exact hq

/-- A statement is counted if it is the first of its id and another one of that id comes after
it. -/
def Ahead (ns : String) (counts : StatementDefinition → Bool) (ids : List String)
    (ss : List StatementDefinition) : Prop :=
  ∀ as s bs q, ss = as ++ s :: bs → s.idIn? ns = some q → q ∉ ids → q ∉ idsIn ns as →
    q ∈ idsIn ns bs → counts s = true

theorem Ahead.tail {ns : String} {counts : StatementDefinition → Bool} {ids : List String}
    {s : StatementDefinition} {ss : List StatementDefinition} (h : Ahead ns counts ids (s :: ss)) :
    Ahead ns counts (ids ++ (s.idIn? ns).toList) ss := by
  rintro as t bs q rfl ht hq has hbs
  rw [List.mem_append, not_or] at hq
  refine h (s :: as) t bs q rfl ht hq.1 ?_ hbs
  rw [mem_idsIn_cons, not_or]
  exact ⟨by simpa using hq.2, has⟩

/-- If the first of several statements of an id always counts, so may all. -/
theorem Ahead.pick_eq {ns : String} {counts : StatementDefinition → Bool} {ids : List String}
    {ss : List StatementDefinition} (h : Ahead ns counts ids ss) :
    pick ns counts ids ss = pick ns (fun _ => true) ids ss := by
  induction ss generalizing ids with
  | nil => rfl
  | cons s ss ih =>
    rw [pick, pick]
    split
    · rename_i hskip
      rw [Bool.and_eq_true] at hskip
      -- the id of the statement is counted already
      have hin : ∀ q, s.idIn? ns = some q → q ∈ ids := by
        intro q hs
        simpa [hs] using hskip.2
      refine ih ?_
      rintro as t bs q rfl ht hq has hbs
      refine h (s :: as) t bs q rfl ht hq ?_ hbs
      rw [mem_idsIn_cons, not_or]
      exact ⟨fun hs => hq (hin q hs), has⟩
    · congr 1
      rw [if_pos rfl, ← ih h.tail]
      refine pick_ids fun q hq => ?_
      by_cases hs : s.idIn? ns = some q
      · by_cases hin : q ∈ ids
        · split <;> simp [hin]
        · rw [if_pos (h [] s ss q rfl hs hin (by simp [idsIn]) hq)]
      · split
        · rfl
        · simpa using fun hq => absurd hq hs

/-- If the first of several statements of an id does not count, the id is picked twice. -/
theorem ahead_of_nodup {ns : String} {counts : StatementDefinition → Bool} {ids : List String}
    {ss : List StatementDefinition} (h : (idsIn ns (pick ns counts ids ss)).Nodup) :
    Ahead ns counts ids ss := by
  rintro as s bs q rfl hs hq has hbs
  induction as generalizing ids with
  | nil =>
    rw [List.nil_append, pick, if_neg (by simp [hs, hq])] at h
    by_cases hc : counts s = true
    · exact hc
    · rw [if_neg hc] at h
      simp only [idsIn, List.filterMap_cons, hs, List.nodup_cons] at h
      exact absurd (mem_pick hq hbs) h.1
  | cons a as ih =>
    rw [mem_idsIn_cons, not_or] at has
    rw [List.cons_append, pick] at h
    split at h
    · exact ih h hq has.2
    · refine ih (h.sublist ((List.sublist_cons_self _ _).filterMap _)) ?_ has.2
      · split
        · simpa [hq] using has.1
        · exact hq

/-! ## What loads register -/

namespace Registry

/-- The caches and the fragments, without the rest. -/
def base (r : Registry) : Registry := { r with cacheRefs := [], statements := [], loaded := [] }

/-- The caches and the fragments of namespaces. -/
def laid (settings : Settings) (ds : List NamespaceDefinition) : Registry :=
  { empty settings with
    shelf := ds.flatMap (·.ownCaches)
    fragments := ds.flatMap (·.ownFragments) }

@[simp] theorem base_append (r : Registry) (ms : List MappedStatement) :
    (r.append ms).base = r.base := rfl

@[simp] theorem base_markLoaded (r : Registry) (ns : String) : (r.markLoaded ns).base = r.base := by
  unfold markLoaded
  split <;> rfl

theorem extends_base {r r' : Registry} (h : r'.Extends r.base) : r'.Extends r :=
  ⟨h.settings, h.caches, h.fragments⟩

theorem hasCache_iff {r : Registry} {id : String} :
    r.hasCache id = true ↔ id ∈ r.shelf.map (·.id) := by
  unfold hasCache Shelf.slot?
  rw [List.findIdx?_isSome, List.any_eq_true, List.mem_map]
  simp only [beq_iff_eq]

end Registry

theorem Job.make_base (j : Job) (r : Registry) : j.make r.base = j.make r := by cases j <;> rfl

theorem made_base {r : Registry} {jobs : List Job} {ms : List MappedStatement} :
    Made r.base jobs ms ↔ Made r jobs ms := by
  simp only [Made, Job.make_base]

namespace NamespaceDefinition

/-- The statements that a load takes after other loads. -/
def taken (d : NamespaceDefinition) (settings : Settings) (before : List NamespaceDefinition) :
    List StatementDefinition :=
  pick d.ns
    (·.isReady d.ns (d.source (.laid settings before)) (.laid settings (before ++ [d]))) []
    (d.applicable settings.databaseId)

/-- The jobs of a namespace that is loaded after others. -/
def jobs (d : NamespaceDefinition) (settings : Settings) (before : List NamespaceDefinition) :
    List Job :=
  d.references (.laid settings before) ++
    (d.taken settings before).map (.statement d.ns (d.source (.laid settings before)))

/-- What a definition has to be, whatever else is loaded. -/
structure Legible (d : NamespaceDefinition) : Prop where
  named : (Text.trim d.ns).isEmpty = false
  cache : ∀ config, d.cache = some config → ∃ c, config.build d.ns = .ok c
  fragments : ∀ f ∈ d.fragments, ∃ x, f.read d.ns = .ok x
  distinct : d.ownFragments.ids.Nodup
  qualified : ∀ s ∈ d.inOrder, s.databaseId = none → ∃ q, qualify d.ns s.id = .ok q

end NamespaceDefinition

/-- The jobs of namespaces that are loaded one after the other, after others. -/
def jobsFrom (settings : Settings) :
    List NamespaceDefinition → List NamespaceDefinition → List Job
  | _, [] => []
  | before, d :: rest => d.jobs settings before ++ jobsFrom settings (before ++ [d]) rest

theorem jobsFrom_append (settings : Settings) (before ds es : List NamespaceDefinition) :
    jobsFrom settings before (ds ++ es) =
      jobsFrom settings before ds ++ jobsFrom settings (before ++ ds) es := by
  induction ds generalizing before with
  | nil => simp [jobsFrom]
  | cons d ds ih => simp [jobsFrom, ih]

theorem jobsFrom_concat (settings : Settings) (ds : List NamespaceDefinition)
    (d : NamespaceDefinition) :
    jobsFrom settings [] (ds ++ [d]) = jobsFrom settings [] ds ++ d.jobs settings ds := by
  simp [jobsFrom_append, jobsFrom]

/-- The jobs of a namespace make statements with its ids. -/
theorem NamespaceDefinition.id_of_jobs {d : NamespaceDefinition} {settings : Settings}
    {before : List NamespaceDefinition} {q : String}
    (h : q ∈ (d.jobs settings before).filterMap (·.id?)) : ∃ id, qualify d.ns id = .ok q := by
  obtain ⟨j, hj, hq⟩ := List.mem_filterMap.1 h
  rcases List.mem_append.1 hj with hj | hj
  · unfold references at hj
    split at hj
    · split at hj
      · cases hj
      · rw [List.mem_singleton.1 hj] at hq
        cases hq
    · cases hj
  · obtain ⟨s, -, rfl⟩ := List.mem_map.1 hj
    exact ⟨s.id, StatementDefinition.idIn?_eq_some.1 hq⟩

theorem id_of_jobsFrom {settings : Settings} {before ds : List NamespaceDefinition} {q : String}
    (h : q ∈ (jobsFrom settings before ds).filterMap (·.id?)) :
    ∃ d ∈ ds, ∃ id, qualify d.ns id = .ok q := by
  induction ds generalizing before with
  | nil => cases h
  | cons d ds ih =>
    rw [jobsFrom, List.filterMap_append, List.mem_append] at h
    rcases h with h | h
    · exact ⟨d, List.mem_cons_self, d.id_of_jobs h⟩
    · obtain ⟨d', hd', hq⟩ := ih h
      exact ⟨d', List.mem_cons_of_mem d hd', hq⟩

/-! ## What is registered between loads -/

/-- Some jobs are done, and their statements have ids of their own. -/
def Split (r : Registry) (jobs : List Job) (ms : List MappedStatement) (kept : List Job) : Prop :=
  ∃ done, jobs.Perm (done ++ kept) ∧ Made r done ms ∧ (ms.map (·.id)).Nodup

theorem Split.more {r : Registry} {jobs kept : List Job} {ms : List MappedStatement}
    (h : Split r jobs ms kept) (more : List Job) : Split r (jobs ++ more) ms (kept ++ more) := by
  obtain ⟨done, hperm, hmade, hids⟩ := h
  refine ⟨done, ?_, hmade, hids⟩
  rw [← List.append_assoc]
  exact hperm.append_right more

theorem Split.settled {r r' : Registry} (he : r'.Extends r) {jobs kept : List Job}
    {ms : List MappedStatement} (h : Split r jobs ms kept) : Split r' jobs ms kept := by
  obtain ⟨done, hperm, hmade, hids⟩ := h
  exact ⟨done, hperm, hmade.settled he, hids⟩

theorem Split.progress {r r' : Registry} {jobs kept kept' : List Job}
    (h : Split r.base jobs r.statements kept) (hp : Progress r kept r' kept') :
    Split r'.base jobs r'.statements kept' := by
  obtain ⟨done, hperm, hmade, hids⟩ := h
  obtain ⟨done', ms, rfl, hperm', hmade', hids'⟩ := hp
  refine ⟨done ++ done', ?_, hmade.append (made_base.2 hmade'), hids' hids⟩
  rw [List.append_assoc]
  exact hperm.trans (hperm'.append_left done)

theorem Progress.before {r r' : Registry} {jobs kept : List Job} (h : Progress r jobs r' kept)
    (waiting : List Job) : Progress r (waiting ++ jobs) r' (waiting ++ kept) := by
  induction waiting with
  | nil => exact h
  | cons j waiting ih => exact ih.cons_kept

/-- A configuration after the loads of namespaces. -/
structure Loaded (settings : Settings) (ds : List NamespaceDefinition) (c : Configuration) :
    Prop where
  legible : ∀ d ∈ ds, d.Legible
  base : c.registry.base = .laid settings ds
  loaded : ∀ ns, ns ∈ c.registry.loaded ↔ ns ∈ ds.map (·.ns)
  queue : ∃ kept : List Job, c.queue = kept.map Job.deferred ∧
    Split (.laid settings ds) (jobsFrom settings [] ds) c.registry.statements kept

theorem loaded_empty (settings : Settings) : Loaded settings [] (.empty settings) where
  legible := by simp
  base := rfl
  loaded := by simp [Configuration.empty, Registry.empty]
  queue := ⟨[], rfl, [], List.Perm.refl _, made_nil _, List.nodup_nil⟩

/-! ## Caches and fragments of different namespaces -/

theorem NamespaceDefinition.id_of_ownCaches {d : NamespaceDefinition} {c : Cache}
    (h : c ∈ d.ownCaches) : c.id = d.ns := by
  unfold ownCaches at h
  split at h
  · rename_i config hc
    cases hb : config.build d.ns with
    | error e => rw [hb] at h; cases h
    | ok c' =>
      rw [hb] at h
      rw [List.mem_singleton.1 h]
      exact CacheConfig.build_id hb
  · cases h

theorem Registry.laid_hasCache {settings : Settings} {ds : List NamespaceDefinition} {ns : String}
    (h : (laid settings ds).hasCache ns = true) : ns ∈ ds.map (·.ns) := by
  obtain ⟨c, hc, rfl⟩ := List.mem_map.1 (hasCache_iff.1 h)
  obtain ⟨d, hd, hc⟩ := List.mem_flatMap.1 hc
  exact List.mem_map.2 ⟨d, hd, (d.id_of_ownCaches hc).symm⟩

theorem NamespaceDefinition.id_of_ownFragments {d : NamespaceDefinition} {q : String}
    (h : q ∈ d.ownFragments.ids) : ∃ id, qualify d.ns id = .ok q := by
  obtain ⟨⟨q', nodes⟩, hf, rfl⟩ := List.mem_map.1 h
  obtain ⟨f, -, hread⟩ := List.mem_filterMap.1 hf
  refine ⟨f.id, ?_⟩
  unfold FragmentDefinition.read at hread
  cases hq : qualify d.ns f.id with
  | error e => rw [hq] at hread; cases hread
  | ok q =>
    rw [hq] at hread
    cases hn : (Template.readFragment f.script).mapError MapperError.template with
    | error e => rw [hn] at hread; cases hread
    | ok nodes => rw [hn] at hread; cases hread; rfl

theorem Fragments.ids_append (fs fs' : Fragments) : ids (fs ++ fs') = fs.ids ++ fs'.ids :=
  List.map_append

/-- A namespace does not declare the fragments of others. -/
theorem NamespaceDefinition.ownFragments_new {d : NamespaceDefinition} {settings : Settings}
    {ds : List NamespaceDefinition} (hnew : d.ns ∉ ds.map (·.ns)) {q : String}
    (h : q ∈ d.ownFragments.ids) : q ∉ (Registry.laid settings ds).fragments.ids := by
  intro hq
  obtain ⟨id, hid⟩ := d.id_of_ownFragments h
  obtain ⟨f, hf, rfl⟩ := List.mem_map.1 hq
  obtain ⟨d', hd', hf⟩ := List.mem_flatMap.1 hf
  obtain ⟨id', hid'⟩ := d'.id_of_ownFragments (List.mem_map_of_mem hf)
  exact hnew (List.mem_map.2 ⟨d', hd', (qualify_namespace hid hid').symm⟩)

theorem Registry.laid_fragments {settings : Settings} {ds : List NamespaceDefinition}
    (hnames : (ds.map (·.ns)).Nodup) (h : ∀ d ∈ ds, d.Legible) :
    (laid settings ds).fragments.ids.Nodup := by
  induction ds with
  | nil => exact List.nodup_nil
  | cons d ds ih =>
    rw [List.map_cons, List.nodup_cons] at hnames
    show (Fragments.ids (d.ownFragments ++ (laid settings ds).fragments)).Nodup
    rw [Fragments.ids_append, List.nodup_append]
    refine ⟨(h d List.mem_cons_self).distinct,
      ih hnames.2 fun d' hd' => h d' (List.mem_cons_of_mem d hd'), ?_⟩
    rintro q hq _ hq' rfl
    exact d.ownFragments_new hnames.1 hq hq'

/-! ## A load -/

namespace Register

/-- The steps before the statements. -/
def elements (d : NamespaceDefinition) : Register Unit := do
  referring d
  caching d
  fragments d.fragments

theorem all_elements (d : NamespaceDefinition) :
    all d = (do elements d; statements d.inOrder) := by
  rw [all_eq, elements]
  simp

end Register

theorem NamespaceDefinition.source_base (d : NamespaceDefinition) (r : Registry) :
    d.source r.base = d.source r := rfl

/-- A registration before the statements. -/
structure Opened (settings : Settings) (ds : List NamespaceDefinition) (d : NamespaceDefinition)
    (c : Configuration) (g : Registration) : Prop where
  ns : g.ns = d.ns
  source : g.source = d.source (.laid settings ds)
  base : g.configuration.registry.base = .laid settings (ds ++ [d])
  statements : g.configuration.registry.statements = c.registry.statements
  loaded : g.configuration.registry.loaded = c.registry.loaded
  queue : g.configuration.queue =
    c.queue ++ (d.references (.laid settings ds)).map Job.deferred

/-- The steps before the statements succeed if the cache can be built and the fragments can be
read. -/
theorem Loaded.elements {settings : Settings} {ds : List NamespaceDefinition} {c : Configuration}
    (hl : Loaded settings ds c) (hnames : (ds.map (·.ns)).Nodup) {d : NamespaceDefinition}
    (hnew : d.ns ∉ ds.map (·.ns)) : ∃ g₁, Opened settings ds d c g₁ ∧
      ∀ g, Register.outcome (Register.elements d) ⟨d.ns, none, none, c⟩ = (.ok (), g) ↔
        (∀ config, d.cache = some config → ∃ c, config.build d.ns = .ok c) ∧
        (∀ f ∈ d.fragments, ∃ x, f.read d.ns = .ok x) ∧ d.ownFragments.ids.Nodup ∧ g = g₁ := by
  obtain ⟨refs, cache, awaited, href, hsource⟩ := Register.outcome_referring d c
  have hreferences : d.references c.registry = d.references (.laid settings ds) := by
    rw [← hl.base]
    rfl
  rw [hreferences] at href
  -- the registration after the first step
  let g₀ : Registration := ⟨d.ns, cache, awaited, ⟨{ c.registry with cacheRefs := refs },
    c.queue ++ (d.references (.laid settings ds)).map Job.deferred⟩⟩
  have hfragments : g₀.configuration.registry.fragments =
      (Registry.laid settings ds).fragments := by
    rw [← hl.base]
    rfl
  have hids : g₀.configuration.registry.fragments.ids.Nodup := by
    rw [hfragments]
    exact Registry.laid_fragments hnames hl.legible
  have hdistinct : ∀ q ∈ d.ownFragments.ids, q ∉ g₀.configuration.registry.fragments.ids := by
    rw [hfragments]
    exact fun q hq => d.ownFragments_new hnew hq
  have hfresh : g₀.configuration.registry.hasCache d.ns = false := by
    rw [Bool.eq_false_iff]
    intro hc
    have hlaid : (Registry.laid settings ds).hasCache d.ns = true := by
      rw [← hl.base]
      exact hc
    exact hnew (Registry.laid_hasCache hlaid)
  refine ⟨Register.withFragments (Register.withCaches g₀ d) d.ownFragments,
    ⟨rfl, ?_, ?_, rfl, rfl, rfl⟩, fun g => ?_⟩
  · show Registration.source (Register.withCaches g₀ d) = d.source (.laid settings ds)
    rw [← hl.base, d.source_base]
    cases hc : d.cache with
    | none =>
      rw [← hsource hc]
      simp only [Register.withCaches, g₀, hc]
      rfl
    | some config =>
      simp only [Register.withCaches, hc]
      rw [NamespaceDefinition.source, hc]
      rfl
  · show Registry.base { c.registry with
        shelf := c.registry.shelf ++ d.ownCaches
        fragments := c.registry.fragments ++ d.ownFragments } = .laid settings (ds ++ [d])
    have hb := hl.base
    simp only [Registry.base, Registry.laid, Registry.empty, Registry.mk.injEq] at hb ⊢
    simp [hb]
  · rw [Register.elements, Register.outcome_bind, href]
    exact Register.outcome_own rfl hfresh hids hdistinct g

theorem Fragments.get?_append {fs fs' : Fragments} {id : String} {nodes : List Markup.Node}
    (h : fs.get? id = some nodes) : get? (fs ++ fs') id = some nodes := by
  induction fs with
  | nil => cases h
  | cons f fs ih =>
    obtain ⟨k, ns⟩ := f
    rw [List.cons_append, get?]
    rw [get?] at h
    by_cases hk : id = k
    · rw [if_pos hk] at h
      rw [if_pos hk, h]
    · rw [if_neg hk] at h
      rw [if_neg hk, ih h]

theorem Registry.laid_extends (settings : Settings) (ds es : List NamespaceDefinition) :
    (laid settings (ds ++ es)).Extends (laid settings ds) where
  settings := rfl
  caches := by
    intro id h
    rw [hasCache_iff] at h ⊢
    simp only [laid, List.flatMap_append, List.map_append, List.mem_append] at h ⊢
    exact .inl h
  fragments := by
    intro id nodes h
    simp only [laid, List.flatMap_append]
    exact Fragments.get?_append h

/-- The ids that are registered belong to the namespaces that are loaded. -/
theorem Loaded.id_of_registered {settings : Settings} {ds : List NamespaceDefinition}
    {c : Configuration} (hl : Loaded settings ds c) {q : String} (h : q ∈ c.registry.ids) :
    ∃ d ∈ ds, ∃ id, qualify d.ns id = .ok q := by
  obtain ⟨kept, -, done, hperm, hmade, -⟩ := hl.queue
  rw [Registry.ids, hmade.ids] at h
  refine id_of_jobsFrom ((hperm.filterMap _).mem_iff.2 ?_)
  rw [List.filterMap_append]
  exact List.mem_append_left _ h

/-- What the registration takes can be told from the definitions. -/
theorem Opened.taken_eq {settings : Settings} {ds : List NamespaceDefinition} {c : Configuration}
    {d : NamespaceDefinition} {g : Registration} (ho : Opened settings ds d c g)
    (hl : Loaded settings ds c) (hnew : d.ns ∉ ds.map (·.ns)) :
    (g.taken d.inOrder).map g.job =
      (d.taken settings ds).map (.statement d.ns (d.source (.laid settings ds))) := by
  have hready : (fun s : StatementDefinition =>
      s.isReady d.ns (d.source (.laid settings ds)) g.configuration.registry) = fun s =>
        s.isReady d.ns (d.source (.laid settings ds)) (.laid settings (ds ++ [d])) := by
    rw [← ho.base]
    rfl
  have hdb : g.configuration.registry.databaseId = settings.databaseId := by
    show g.configuration.registry.base.databaseId = _
    rw [ho.base]
    rfl
  have hjob : g.job = .statement d.ns (d.source (.laid settings ds)) := by
    unfold Registration.job
    rw [ho.ns, ho.source]
  rw [hjob, Registration.taken, NamespaceDefinition.taken, hdb, ho.ns, ho.source, hready]
  congr 1
  refine pick_ids fun q hq => ⟨fun hin => ?_, fun hin => (by cases hin)⟩
  -- a statement of the namespace does not have the id of a registered one
  obtain ⟨s, -, hs⟩ := List.mem_filterMap.1 hq
  rw [Registry.ids, ho.statements] at hin
  obtain ⟨d', hd', id, hid⟩ := hl.id_of_registered hin
  exact absurd (List.mem_map.2
    ⟨d', hd', (qualify_namespace (StatementDefinition.idIn?_eq_some.1 hs) hid).symm⟩) hnew

/-- After the statements what is not registered waits. -/
theorem Opened.registered {settings : Settings} {ds : List NamespaceDefinition}
    {c : Configuration} {d : NamespaceDefinition} {g g' : Registration}
    (ho : Opened settings ds d c g) (hl : Loaded settings ds c) (hnew : d.ns ∉ ds.map (·.ns))
    (h : Register.outcome (Register.statements d.inOrder) g = (.ok (), g')) :
    (∀ s ∈ d.inOrder, s.databaseId = none → ∃ q, qualify d.ns s.id = .ok q) ∧
    g'.configuration.registry.base = .laid settings (ds ++ [d]) ∧
    g'.configuration.registry.loaded = c.registry.loaded ∧
    ∃ kept : List Job, g'.configuration.queue = kept.map Job.deferred ∧
      Split (.laid settings (ds ++ [d])) (jobsFrom settings [] (ds ++ [d]))
        g'.configuration.registry.statements kept := by
  obtain ⟨hq, r, kept, rfl, hp⟩ := Register.statements_progress d.inOrder g g' h
  obtain ⟨waiting, hqueue, hsplit⟩ := hl.queue
  rw [ho.taken_eq hl hnew] at hp
  have hr : r.base = .laid settings (ds ++ [d]) ∧ r.loaded = c.registry.loaded := by
    obtain ⟨done, ms, rfl, -⟩ := hp
    exact ⟨ho.base, ho.loaded⟩
  refine ⟨ho.ns ▸ hq, hr.1, hr.2, waiting ++ d.references (.laid settings ds) ++ kept, ?_, ?_⟩
  · show g.configuration.queue ++ kept.map Job.deferred = _
    rw [ho.queue, hqueue]
    simp
  · rw [← hr.1]
    refine Split.progress ?_ (hp.before (waiting ++ d.references (.laid settings ds)))
    rw [ho.base, ho.statements, jobsFrom_concat, List.append_assoc]
    exact (hsplit.settled (Registry.laid_extends settings ds [d])).more _

/-- With a namespace that is loaded. -/
def Configuration.mark (c : Configuration) (ns : String) : Configuration :=
  { c with registry := c.registry.markLoaded ns }

/-- A load of a namespace that is not loaded yet. -/
theorem Configuration.load_eq {c : Configuration} {d : NamespaceDefinition}
    (h : c.registry.isLoaded d.ns = false) : c.load d =
      if (Text.trim d.ns).isEmpty then (.error (.configuration .blankNamespace), c)
      else match Register.outcome (Register.elements d) ⟨d.ns, none, none, c⟩ with
        | (.error e, g) => (.error e, g.configuration)
        | (.ok (), g) => match Register.outcome (Register.statements d.inOrder) g with
          | (.error e, g) => (.error e, g.configuration)
          | (.ok (), g) => match (g.configuration.mark d.ns).resolve with
            | (.error e, c) => (.error e, c)
            | (.ok _, c) => (.ok (), c) := by
  rw [load, if_neg (by simp [h]), Registration.start]
  by_cases hn : (Text.trim d.ns).isEmpty = true
  · rw [if_pos hn, if_pos hn]
  · rw [if_neg hn, if_neg hn]
    show (match Register.outcome (Register.all d) ⟨d.ns, none, none, c⟩ with
      | (.error e, g) => (Except.error e, g.configuration)
      | (.ok (), g) => match (g.configuration.mark d.ns).resolve with
        | (.error e, c) => (.error e, c)
        | (.ok _, c) => (.ok (), c)) = _
    rw [Register.all_elements, Register.outcome_bind]
    rcases Register.outcome (Register.elements d) ⟨d.ns, none, none, c⟩ with ⟨_ | _, g⟩
    · rfl
    · rcases Register.outcome (Register.statements d.inOrder) g with ⟨_ | _, g'⟩ <;> rfl

theorem Loaded.isLoaded_new {settings : Settings} {ds : List NamespaceDefinition}
    {c : Configuration} (hl : Loaded settings ds c) {ns : String} (hnew : ns ∉ ds.map (·.ns)) :
    c.registry.isLoaded ns = false := by
  rw [Bool.eq_false_iff]
  intro h
  exact hnew ((hl.loaded ns).1 (by simpa [Registry.isLoaded] using h))

theorem Registry.markLoaded_statements (r : Registry) (ns : String) :
    (r.markLoaded ns).statements = r.statements := by
  unfold markLoaded
  split <;> rfl

theorem Registry.mem_markLoaded {r : Registry} {ns ns' : String} :
    ns' ∈ (r.markLoaded ns).loaded ↔ ns' ∈ r.loaded ∨ ns' = ns := by
  unfold markLoaded isLoaded
  split
  · rename_i h
    have hin : ns ∈ r.loaded := by simpa using h
    refine ⟨.inl, ?_⟩
    rintro (h | rfl)
    · exact h
    · exact hin
  · rw [List.mem_cons, or_comm]

/-- A load that succeeds adds the caches, the fragments and the jobs of the namespace. -/
theorem Loaded.load {settings : Settings} {ds : List NamespaceDefinition} {c c' : Configuration}
    (hl : Loaded settings ds c) {d : NamespaceDefinition}
    (hnames : ((ds ++ [d]).map (·.ns)).Nodup) (h : c.load d = (.ok (), c')) :
    Loaded settings (ds ++ [d]) c' := by
  rw [List.map_append, List.nodup_append] at hnames
  have hnew : d.ns ∉ ds.map (·.ns) := fun hin => hnames.2.2 d.ns hin d.ns (by simp) rfl
  obtain ⟨g₁, ho, helements⟩ := hl.elements hnames.1 hnew
  rw [Configuration.load_eq (hl.isLoaded_new hnew)] at h
  split at h
  · cases h
  · rename_i hblank
    split at h
    · cases h
    · rename_i g he
      obtain ⟨hcache, hread, hdistinct, rfl⟩ := (helements g).1 he
      split at h
      · cases h
      · rename_i g' hs
        obtain ⟨hq, hbase, hloaded, kept, hqueue, hsplit⟩ := ho.registered hl hnew hs
        split at h
        · cases h
        · rename_i n c'' hres
          cases h
          obtain ⟨kept', hqueue', -, hp, -⟩ :=
            Configuration.resolve_progress (c := g'.configuration.mark d.ns) hqueue hres
          have hmark : (g'.configuration.mark d.ns).registry.base =
              .laid settings (ds ++ [d]) := by
            rw [← hbase]
            exact Registry.base_markLoaded _ _
          have hdone := Split.progress (by rw [hmark, Configuration.mark,
            Registry.markLoaded_statements]; exact hsplit) hp
          obtain ⟨-, ms, hr, -⟩ := hp
          have hr' : c'.registry.base = .laid settings (ds ++ [d]) := by
            rw [hr, Registry.base_append, hmark]
          refine ⟨?_, hr', ?_, kept', hqueue', hr' ▸ hdone⟩
          · intro d' hd'
            rcases List.mem_append.1 hd' with hd' | hd'
            · exact hl.legible d' hd'
            · rw [List.mem_singleton.1 hd']
              exact ⟨by simpa using hblank, hcache, hread, hdistinct, hq⟩
          · intro ns
            have hns : ns ∈ c'.registry.loaded ↔ ns ∈ c.registry.loaded ∨ ns = d.ns := by
              rw [hr, ← hloaded]
              exact Registry.mem_markLoaded
            rw [hns, hl.loaded ns]
            simp

/-- Jobs that are all done at the end, with ids of their own. -/
structure Sure (r : Registry) (jobs : List Job) : Prop where
  made : ∀ j ∈ jobs, ∃ o, j.make r = .ok o
  distinct : (jobs.filterMap (·.id?)).Nodup

theorem Sure.sublist {r : Registry} {jobs jobs' : List Job} (h : Sure r jobs)
    (hs : jobs'.Sublist jobs) : Sure r jobs' :=
  ⟨fun j hj => h.made j (hs.subset hj), h.distinct.sublist (hs.filterMap _)⟩

/-- What is done at the end either is done already or lacks something. -/
theorem Sure.healthy {r r' : Registry} {jobs kept : List Job} (h : Sure r' jobs)
    (he : r'.Extends r.base) (hs : Split r.base jobs r.statements kept) : Healthy r kept := by
  obtain ⟨done, hperm, hmade, -⟩ := hs
  refine ⟨?_, ?_⟩
  · intro j hj e hmake
    obtain ⟨o, ho⟩ := h.made j (hperm.mem_iff.2 (List.mem_append_right done hj))
    cases hi : e.isIncomplete with
    | true => rfl
    | false =>
      have hcomplete : Complete (j.make r) := by
        rintro gap hgap
        rw [hmake] at hgap
        cases hgap
        cases hi
      rw [j.make_settled (Registry.extends_base he) hcomplete, hmake] at ho
      cases ho
  · rw [Registry.ids, hmade.ids, ← List.filterMap_append]
    exact (hperm.filterMap _).nodup_iff.1 h.distinct

theorem Healthy.right {r : Registry} (jobs : List Job) {jobs' : List Job}
    (h : Healthy r (jobs ++ jobs')) : Healthy r jobs' := by
  induction jobs with
  | nil => exact h
  | cons j jobs ih => exact ih h.tail

/-- A load of jobs that are done at the end succeeds. -/
theorem Loaded.load_sure {settings : Settings} {ds : List NamespaceDefinition} {c : Configuration}
    (hl : Loaded settings ds c) {d : NamespaceDefinition}
    (hnames : ((ds ++ [d]).map (·.ns)).Nodup) (hd : d.Legible) {r : Registry}
    (hr : r.Extends (.laid settings (ds ++ [d])))
    (hsure : Sure r (jobsFrom settings [] (ds ++ [d]))) : ∃ c', c.load d = (.ok (), c') := by
  rw [List.map_append, List.nodup_append] at hnames
  have hnew : d.ns ∉ ds.map (·.ns) := fun hin => hnames.2.2 d.ns hin d.ns (by simp) rfl
  obtain ⟨g, ho, helements⟩ := hl.elements hnames.1 hnew
  obtain ⟨waiting, -, hsplit⟩ := hl.queue
  have hhealthy : Healthy g.configuration.registry ((g.taken d.inOrder).map g.job) := by
    refine Healthy.right (waiting ++ d.references (.laid settings ds)) ?_
    refine hsure.healthy (ho.base ▸ hr) ?_
    rw [ho.taken_eq hl hnew, ho.base, ho.statements, jobsFrom_concat, List.append_assoc]
    exact (hsplit.settled (Registry.laid_extends settings ds [d])).more _
  obtain ⟨g', hs⟩ := Register.statements_healthy d.inOrder g (ho.ns ▸ hd.qualified) hhealthy
  obtain ⟨-, hbase, -, kept, hqueue, hsplit'⟩ := ho.registered hl hnew hs
  have hmark : (g'.configuration.mark d.ns).registry.base = .laid settings (ds ++ [d]) := by
    rw [← hbase]
    exact Registry.base_markLoaded _ _
  obtain ⟨n, c', hres⟩ := Configuration.resolve_healthy (c := g'.configuration.mark d.ns) hqueue
    (hsure.healthy (hmark ▸ hr) (by
      rw [hmark, Configuration.mark, Registry.markLoaded_statements]
      exact hsplit'))
  refine ⟨c', ?_⟩
  rw [Configuration.load_eq (hl.isLoaded_new hnew), if_neg (by simp [hd.named]),
    (helements g).2 ⟨hd.cache, hd.fragments, hd.distinct, rfl⟩]
  dsimp only
  rw [hs]
  dsimp only
  rw [hres]

/-! ## All loads -/

/-- Loads namespaces one after the other, up to a failure. -/
def Configuration.loadAll (c : Configuration) :
    List NamespaceDefinition → Except MapperError Configuration
  | [] => .ok c
  | d :: rest => match c.load d with
    | (.error e, _) => .error e
    | (.ok (), c) => c.loadAll rest

/-- Loads namespaces one after the other, and ends with a configuration in which nothing waits. -/
def assemble (settings : Settings) (ds : List NamespaceDefinition) :
    Except MapperError Configuration :=
  ((Configuration.empty settings).loadAll ds).bind fun c => match c.finish with
    | (.error e, _) => .error e
    | (.ok (), c) => .ok c

theorem Loaded.loadAll {settings : Settings} {ds es : List NamespaceDefinition}
    {c c' : Configuration} (hl : Loaded settings ds c)
    (hnames : ((ds ++ es).map (·.ns)).Nodup) (h : c.loadAll es = .ok c') :
    Loaded settings (ds ++ es) c' := by
  induction es generalizing ds c with
  | nil =>
    cases h
    simpa using hl
  | cons d es ih =>
    rw [← List.singleton_append, ← List.append_assoc] at hnames ⊢
    have hfirst : ((ds ++ [d]).map (·.ns)).Nodup := by
      rw [List.map_append] at hnames
      exact (List.nodup_append.1 hnames).1
    rw [Configuration.loadAll] at h
    split at h
    · cases h
    · rename_i c₁ hload
      exact ih (hl.load hfirst hload) hnames h

theorem Loaded.loadAll_sure {settings : Settings} {ds es : List NamespaceDefinition}
    {c : Configuration} (hl : Loaded settings ds c) (hnames : ((ds ++ es).map (·.ns)).Nodup)
    (hes : ∀ d ∈ es, d.Legible) {r : Registry} (hr : r.Extends (.laid settings (ds ++ es)))
    (hsure : Sure r (jobsFrom settings [] (ds ++ es))) : ∃ c', c.loadAll es = .ok c' := by
  induction es generalizing ds c with
  | nil => exact ⟨c, rfl⟩
  | cons d es ih =>
    rw [← List.singleton_append, ← List.append_assoc] at hnames hr hsure
    have hfirst : ((ds ++ [d]).map (·.ns)).Nodup := by
      rw [List.map_append] at hnames
      exact (List.nodup_append.1 hnames).1
    obtain ⟨c₁, hload⟩ := hl.load_sure hfirst (hes d List.mem_cons_self)
      (hr.trans (Registry.laid_extends settings (ds ++ [d]) es))
      (hsure.sublist (jobsFrom_append settings [] (ds ++ [d]) es ▸ List.sublist_append_left _ _))
    rw [Configuration.loadAll, hload]
    exact ih (hl.load hfirst hload) hnames (fun d' hd' => hes d' (List.mem_cons_of_mem d hd'))
      hr hsure

/-- At the end all jobs are done. -/
theorem assemble_content {settings : Settings} {ds : List NamespaceDefinition}
    (hnames : (ds.map (·.ns)).Nodup) {c : Configuration} (h : assemble settings ds = .ok c) :
    (∀ d ∈ ds, d.Legible) ∧ c.registry.base = .laid settings ds ∧
      Split (.laid settings ds) (jobsFrom settings [] ds) c.registry.statements [] := by
  obtain ⟨c₁, hall, hfinish⟩ := bind_eq_ok h
  have hl : Loaded settings ds c₁ := (loaded_empty settings).loadAll hnames hall
  unfold Configuration.finish at hfinish
  split at hfinish
  · cases hfinish
  · rename_i c₂ hf
    cases hfinish
    split at hf
    · cases hf
    · rename_i n c₃ hres
      split at hf
      · rename_i hn
        cases hf
        obtain ⟨kept, hqueue, hsplit⟩ := hl.queue
        obtain ⟨kept', -, hn', hp, -⟩ := Configuration.resolve_progress hqueue hres
        have hnil : kept' = [] := List.length_eq_zero_iff.1 (hn'.symm.trans hn)
        have hdone := Split.progress (hl.base.symm ▸ hsplit) hp
        obtain ⟨-, ms, hr, -⟩ := hp
        have hb : c.registry.base = .laid settings ds := by rw [hr, Registry.base_append, hl.base]
        exact ⟨hl.legible, hb, hb ▸ hnil ▸ hdone⟩
      · cases hf

/-- Whether all loads and the end succeed can be told from the definitions and their jobs. -/
theorem assemble_iff {settings : Settings} {ds : List NamespaceDefinition}
    (hnames : (ds.map (·.ns)).Nodup) : (∃ c, assemble settings ds = .ok c) ↔
      (∀ d ∈ ds, d.Legible) ∧ Sure (.laid settings ds) (jobsFrom settings [] ds) := by
  constructor
  · rintro ⟨c, h⟩
    obtain ⟨hlegible, -, done, hperm, hmade, hids⟩ := assemble_content hnames h
    rw [List.append_nil] at hperm
    refine ⟨hlegible, ?_, ?_⟩
    · intro j hj
      obtain ⟨made, hmap, -⟩ := hmade
      have hin : j.make (.laid settings ds) ∈ made.map Except.ok := by
        rw [← hmap]
        exact List.mem_map_of_mem (hperm.mem_iff.1 hj)
      obtain ⟨o, -, ho⟩ := List.mem_map.1 hin
      exact ⟨o, ho.symm⟩
    · rw [(hperm.filterMap _).nodup_iff, ← hmade.ids]
      exact hids
  · rintro ⟨hlegible, hsure⟩
    obtain ⟨c₁, hall⟩ :=
      (loaded_empty settings).loadAll_sure hnames hlegible (.refl _) hsure
    have hl : Loaded settings ds c₁ := (loaded_empty settings).loadAll hnames hall
    obtain ⟨kept, hqueue, hsplit⟩ := hl.queue
    obtain ⟨n, c₂, hres⟩ := Configuration.resolve_healthy hqueue
      (hsure.healthy (hl.base ▸ .refl _) (hl.base.symm ▸ hsplit))
    -- what still waits lacks something, but nothing is lacking
    obtain ⟨kept', -, hn, hp, hwaits⟩ := Configuration.resolve_progress hqueue hres
    have hnone : kept' = [] := by
      refine List.eq_nil_iff_forall_not_mem.2 fun j hj => ?_
      obtain ⟨e, he⟩ := hwaits j hj
      obtain ⟨done, -, -, hperm, -⟩ := hp
      obtain ⟨done', hperm', -⟩ := hsplit
      obtain ⟨o, ho⟩ := hsure.made j (hperm'.mem_iff.2 (List.mem_append_right done'
        (hperm.mem_iff.2 (List.mem_append_right done hj))))
      rw [← hl.base, j.make_base, he] at ho
      cases ho
    refine ⟨c₂, ?_⟩
    rw [assemble, hall]
    show (match c₁.finish with
      | (.error e, _) => Except.error e
      | (.ok (), c) => .ok c) = _
    rw [Configuration.finish, hres]
    dsimp only
    rw [if_pos (by rw [hn, hnone]; rfl)]

end MappedSql
