import Mathlib
import MappedSql.Proofs.Mapper.Loading

/- The order of loads.

   At the end the registry has the same caches and fragments whatever the order of the
   loads was, and a statement that is built there does not depend on when its cache came.
   So the order matters only for which statements are taken. A namespace may declare an
   id again for any database, and gives that statement up if the id is registered. A
   statement that waits is not registered yet: then both are taken, and one of them fails
   in the end. `assemble_perm` says that nothing else depends on the order. -/
namespace MappedSql

namespace NamespaceDefinition

/-- Where the namespace declares an id again, the first statement of the id does not have to wait
when the namespace is loaded after others. -/
def Ready (d : NamespaceDefinition) (settings : Settings) (before : List NamespaceDefinition) :
    Prop :=
  Ahead d.ns
    (·.isReady d.ns (d.source (.laid settings before)) (.laid settings (before ++ [d]))) []
    (d.applicable settings.databaseId)

/-- The statements of a namespace if none has to wait. -/
def chosen (d : NamespaceDefinition) (settings : Settings) : List StatementDefinition :=
  pick d.ns (fun _ => true) [] (d.applicable settings.databaseId)

/-- What has to be registered at the end. -/
def due (d : NamespaceDefinition) (settings : Settings) (r : Registry) : List Job :=
  (d.cacheRef.map (.cache d.ns)).toList ++
    (d.chosen settings).map (.statement d.ns (d.source r))

end NamespaceDefinition

/-- No statement that is declared again has to wait in this order of loads. -/
def Ready (settings : Settings) (ds : List NamespaceDefinition) : Prop :=
  ∀ before d after, ds = before ++ d :: after → d.Ready settings before

/-! ## Jobs over a registry -/

/-- The statement that a job makes, if it makes one. -/
def Job.product? (r : Registry) (j : Job) : Option MappedStatement := (j.make r).toOption.join

theorem Made.eq {r : Registry} {jobs : List Job} {ms : List MappedStatement}
    (h : Made r jobs ms) : ms = jobs.filterMap (·.product? r) := by
  obtain ⟨made, hj, rfl⟩ := h
  have hp : jobs.map (·.product? r) = made := by
    calc jobs.map (·.product? r)
        = (jobs.map (·.make r)).map fun x => x.toOption.join := by rw [List.map_map]; rfl
      _ = (made.map Except.ok).map fun x => x.toOption.join := by rw [hj]
      _ = made := by rw [List.map_map]; exact List.map_id _
  rw [← hp, List.filterMap_map]
  rfl

/-- Jobs that come to the same over a registry. -/
structure Same (r : Registry) (jobs jobs' : List Job) : Prop where
  ids : jobs.filterMap (·.id?) = jobs'.filterMap (·.id?)
  made : (∀ j ∈ jobs, ∃ o, j.make r = .ok o) ↔ ∀ j ∈ jobs', ∃ o, j.make r = .ok o
  products : jobs.filterMap (·.product? r) = jobs'.filterMap (·.product? r)

namespace Same

variable {r : Registry} {jobs jobs' more more' : List Job}

theorem refl (r : Registry) (jobs : List Job) : Same r jobs jobs := ⟨rfl, .rfl, rfl⟩

theorem append (h : Same r jobs jobs') (hm : Same r more more') :
    Same r (jobs ++ more) (jobs' ++ more') := by
  refine ⟨?_, ?_, ?_⟩
  · rw [List.filterMap_append, List.filterMap_append, h.ids, hm.ids]
  · simp only [List.forall_mem_append, h.made, hm.made]
  · rw [List.filterMap_append, List.filterMap_append, h.products, hm.products]

theorem sure_iff (h : Same r jobs jobs') : Sure r jobs ↔ Sure r jobs' :=
  ⟨fun hs => ⟨h.made.1 hs.made, h.ids ▸ hs.distinct⟩,
    fun hs => ⟨h.made.2 hs.made, h.ids ▸ hs.distinct⟩⟩

end Same

/-! ## The end does not depend on the order -/

namespace NamespaceDefinition

/-- The cache of the statements is the same at the end, known or awaited. -/
theorem resolve_source {d : NamespaceDefinition} {r r' : Registry} (he : r'.Extends r) :
    (d.source r).resolve r' = (d.source r').resolve r' := by
  unfold source
  cases d.cache with
  | some config => rfl
  | none =>
    cases d.cacheRef with
    | none => rfl
    | some referenced =>
      dsimp only
      by_cases hc : r.hasCache referenced = true
      · rw [if_pos hc, if_pos (he.caches referenced hc)]
      · rw [if_neg hc]
        by_cases hc' : r'.hasCache referenced = true
        · rw [if_pos hc']
          simp [CacheSource.resolve, hc']
        · rw [if_neg hc']

/-- A namespace without statements that have to wait has the jobs that are due at the end. -/
theorem Ready.same {d : NamespaceDefinition} {settings : Settings}
    {before : List NamespaceDefinition} (h : d.Ready settings before) {r : Registry}
    (he : r.Extends (.laid settings before)) :
    Same r (d.jobs settings before) (d.due settings r) := by
  refine Same.append ?_ ?_
  · unfold references
    cases d.cacheRef with
    | none => exact .refl r []
    | some referenced =>
      dsimp only
      split
      · rename_i hc
        have hmake : (Job.cache d.ns referenced).make r = .ok none := by
          rw [Job.make, if_pos (he.caches referenced hc)]
        refine ⟨rfl, ?_, ?_⟩
        · simp [hmake]
        · simp [Job.product?, hmake, Except.toOption]
      · exact .refl r _
  · have hmake : ∀ s : StatementDefinition,
        (Job.statement d.ns (d.source (.laid settings before)) s).make r =
          (Job.statement d.ns (d.source r) s).make r := by
      intro s
      rw [Job.make, Job.make, s.build_source (resolve_source he)]
    rw [taken, h.pick_eq, ← chosen]
    refine ⟨?_, ?_, ?_⟩
    · rw [List.filterMap_map, List.filterMap_map]
      rfl
    · simp only [List.forall_mem_map, hmake]
    · rw [List.filterMap_map, List.filterMap_map]
      refine List.filterMap_congr fun s _ => ?_
      simp only [Function.comp_apply, Job.product?, hmake]

end NamespaceDefinition

theorem jobsFrom_same {settings : Settings} {before ds : List NamespaceDefinition}
    (h : Ready settings (before ++ ds)) {r : Registry}
    (he : r.Extends (.laid settings (before ++ ds))) :
    Same r (jobsFrom settings before ds) (ds.flatMap (·.due settings r)) := by
  induction ds generalizing before with
  | nil => exact .refl r []
  | cons d ds ih =>
    rw [jobsFrom, List.flatMap_cons]
    refine Same.append ?_ (ih ?_ ?_)
    · exact (h before d ds rfl).same (he.trans (Registry.laid_extends settings before (d :: ds)))
    · simpa using h
    · simpa using he

/-- If all jobs are done at the end, no statement that is declared again had to wait. -/
theorem Sure.ready {settings : Settings} {ds : List NamespaceDefinition} {r : Registry}
    (h : Sure r (jobsFrom settings [] ds)) : Ready settings ds := by
  rintro before d after rfl
  have hs : Sure r (d.jobs settings before) := by
    refine h.sublist ?_
    rw [jobsFrom_append, jobsFrom]
    exact (List.sublist_append_left _ _).trans (List.sublist_append_right _ _)
  have hids := hs.distinct
  rw [NamespaceDefinition.jobs, List.filterMap_append, List.filterMap_map] at hids
  exact ahead_of_nodup (List.nodup_append.1 hids).2.1

theorem due_same {settings : Settings} {ds : List NamespaceDefinition} (h : Ready settings ds) :
    Same (.laid settings ds) (jobsFrom settings [] ds)
      (ds.flatMap (·.due settings (.laid settings ds))) :=
  jobsFrom_same h (.refl _)

/-- Whether all loads and the end succeed, without the jobs. -/
theorem assemble_due {settings : Settings} {ds : List NamespaceDefinition}
    (hnames : (ds.map (·.ns)).Nodup) : (∃ c, assemble settings ds = .ok c) ↔
      (∀ d ∈ ds, d.Legible) ∧ Ready settings ds ∧
        Sure (.laid settings ds) (ds.flatMap (·.due settings (.laid settings ds))) := by
  rw [assemble_iff hnames]
  constructor
  · rintro ⟨hlegible, hsure⟩
    exact ⟨hlegible, hsure.ready, (due_same hsure.ready).sure_iff.1 hsure⟩
  · rintro ⟨hlegible, hready, hsure⟩
    exact ⟨hlegible, (due_same hready).sure_iff.2 hsure⟩

theorem assemble_statements {settings : Settings} {ds : List NamespaceDefinition}
    (hnames : (ds.map (·.ns)).Nodup) {c : Configuration} (h : assemble settings ds = .ok c) :
    c.registry.statements.Perm ((ds.flatMap (·.due settings (.laid settings ds))).filterMap
      (·.product? (.laid settings ds))) := by
  obtain ⟨-, -, done, hperm, hmade, -⟩ := assemble_content hnames h
  have hready := ((assemble_due hnames).1 ⟨c, h⟩).2.1
  rw [hmade.eq, ← (due_same hready).products]
  rw [List.append_nil] at hperm
  exact (hperm.filterMap _).symm

/-! ## Another order -/

section

variable {settings : Settings} {ds ds' : List NamespaceDefinition}

theorem Registry.laid_perm (settings : Settings) (hp : ds.Perm ds') :
    (laid settings ds).shelf.Perm (laid settings ds').shelf ∧
      (laid settings ds).fragments.Perm (laid settings ds').fragments := by
  unfold laid
  exact ⟨hp.flatMap_right _, hp.flatMap_right _⟩

theorem Registry.extends_perm (hp : ds.Perm ds') (hids : (laid settings ds).fragments.ids.Nodup) :
    (laid settings ds').Extends (laid settings ds) where
  settings := rfl
  caches := by
    intro id h
    rw [hasCache_iff] at h ⊢
    exact ((laid_perm settings hp).1.map _).mem_iff.1 h
  fragments := by
    have hfrags := (laid_perm settings hp).2
    have hids' : (laid settings ds').fragments.ids.Nodup := (hfrags.map _).nodup_iff.1 hids
    intro id nodes h
    rw [Fragments.get?_eq_some hids] at h
    exact (Fragments.get?_eq_some hids').2 (hfrags.mem_iff.1 h)

/-- What is due does not depend on the order. -/
theorem due_perm (hp : ds.Perm ds') (hids : (Registry.laid settings ds).fragments.ids.Nodup) :
    (ds.flatMap (·.due settings (.laid settings ds))).Perm
      (ds'.flatMap (·.due settings (.laid settings ds'))) := by
  have hids' : (Registry.laid settings ds').fragments.ids.Nodup :=
    ((Registry.laid_perm settings hp).2.map _).nodup_iff.1 hids
  have hcache : ∀ id, (Registry.laid settings ds).hasCache id =
      (Registry.laid settings ds').hasCache id := fun id => Bool.eq_iff_iff.2
    ⟨(Registry.extends_perm hp hids).caches id, (Registry.extends_perm hp.symm hids').caches id⟩
  have hdue : (fun d : NamespaceDefinition => d.due settings (.laid settings ds)) =
      fun d => d.due settings (.laid settings ds') := by
    funext d
    have hsource : d.source (.laid settings ds) = d.source (.laid settings ds') := by
      unfold NamespaceDefinition.source
      simp only [hcache]
    rw [NamespaceDefinition.due, NamespaceDefinition.due, hsource]
  rw [hdue]
  exact hp.flatMap_right _

theorem Sure.perm {r : Registry} {jobs jobs' : List Job} (h : Sure r jobs)
    (hp : jobs.Perm jobs') : Sure r jobs' :=
  ⟨fun j hj => h.made j (hp.mem_iff.2 hj), (hp.filterMap _).nodup_iff.1 h.distinct⟩

theorem Sure.make_eq {r r' : Registry} {jobs : List Job} (h : Sure r jobs) (he : r'.Extends r)
    {j : Job} (hj : j ∈ jobs) : j.make r' = j.make r := by
  obtain ⟨o, ho⟩ := h.made j hj
  exact j.make_settled he (ho ▸ complete_ok o)

theorem Sure.settled {r r' : Registry} {jobs : List Job} (h : Sure r jobs) (he : r'.Extends r) :
    Sure r' jobs :=
  ⟨fun j hj => h.make_eq he hj ▸ h.made j hj, h.distinct⟩

/-- If all loads and the end succeed in one order, they succeed in another just if no statement
that is declared again has to wait there. The caches, the fragments and the statements are then
the same. -/
theorem assemble_perm (hnames : (ds.map (·.ns)).Nodup) (hp : ds.Perm ds') {c : Configuration}
    (h : assemble settings ds = .ok c) :
    ((∃ c', assemble settings ds' = .ok c') ↔ Ready settings ds') ∧
    ∀ c', assemble settings ds' = .ok c' →
      c'.registry.shelf.Perm c.registry.shelf ∧
      c'.registry.fragments.Perm c.registry.fragments ∧
      c'.registry.statements.Perm c.registry.statements := by
  have hnames' : (ds'.map (·.ns)).Nodup := (hp.map _).nodup_iff.1 hnames
  obtain ⟨hlegible, -, hsure⟩ := (assemble_due hnames).1 ⟨c, h⟩
  have hids : (Registry.laid settings ds).fragments.ids.Nodup :=
    Registry.laid_fragments hnames hlegible
  have he := Registry.extends_perm hp hids
  have hdue := due_perm hp hids
  refine ⟨?_, fun c' h' => ?_⟩
  · rw [assemble_due hnames']
    refine ⟨fun hs => hs.2.1, fun hready => ⟨?_, hready, (hsure.settled he).perm hdue⟩⟩
    exact fun d hd => hlegible d (hp.mem_iff.2 hd)
  · obtain ⟨-, hbase, -⟩ := assemble_content hnames h
    obtain ⟨-, hbase', -⟩ := assemble_content hnames' h'
    obtain ⟨hshelf, hfragments⟩ := Registry.laid_perm settings hp
    rw [← hbase, ← hbase'] at hshelf hfragments
    refine ⟨hshelf.symm, hfragments.symm, ?_⟩
    have hproducts : (ds.flatMap (·.due settings (.laid settings ds))).filterMap
          (·.product? (.laid settings ds')) =
        (ds.flatMap (·.due settings (.laid settings ds))).filterMap
          (·.product? (.laid settings ds)) := by
      refine List.filterMap_congr fun j hj => ?_
      rw [Job.product?, hsure.make_eq he hj]
      rfl
    have hstatements := assemble_statements hnames h
    rw [← hproducts] at hstatements
    exact (assemble_statements hnames' h').trans
      ((hdue.filterMap _).symm.trans hstatements.symm)

end

/-! ## A statement that waits -/

theorem exists_of_isOk {ε α : Type} {x : Except ε α} (h : x.isOk = true) : ∃ a, x = .ok a := by
  cases x with
  | error e => cases h
  | ok a => exact ⟨a, rfl⟩

namespace LoadOrder

/-- Settings for one database. -/
def vendor : Settings := { Settings.standard with databaseId := some "pg" }

/-- A namespace with a fragment. -/
def shared : NamespaceDefinition := ⟨"b", none, none, [⟨"f", "x"⟩], []⟩

/-- A select that is declared for a database or for any. -/
def variant (databaseId : Option String) (script : String) : StatementDefinition :=
  ⟨"s", .select, script, .prepared, none, none, none, databaseId⟩

/-- A namespace that declares a statement with the fragment. -/
def once : NamespaceDefinition :=
  ⟨"a", none, none, [], [variant (some "pg") "<include refid=\"b.f\"/>"]⟩

/-- A namespace that declares the statement again for any database. -/
def twice : NamespaceDefinition := { once with statements := once.statements ++ [variant none "y"] }

theorem assemble_once : (assemble vendor [shared, once]).isOk = true := by cbv

theorem assemble_once_first : (assemble vendor [once, shared]).isOk = true := by cbv

/-- The loads succeed in both orders. -/
theorem assemble_perm_once : ([shared, once].map (·.ns)).Nodup ∧
    [shared, once].Perm [once, shared] ∧ ∃ c, assemble vendor [shared, once] = .ok c ∧
      Ready vendor [once, shared] ∧ ∃ c', assemble vendor [once, shared] = .ok c' ∧
        c'.registry.shelf.Perm c.registry.shelf ∧
        c'.registry.fragments.Perm c.registry.fragments ∧
        c'.registry.statements.Perm c.registry.statements := by
  have hnames : ([shared, once].map (·.ns)).Nodup := by decide
  have hperm : [shared, once].Perm [once, shared] := .swap _ _ _
  obtain ⟨c, h⟩ := exists_of_isOk assemble_once
  obtain ⟨c', h'⟩ := exists_of_isOk assemble_once_first
  obtain ⟨hready, hsame⟩ := assemble_perm hnames hperm h
  exact ⟨hnames, hperm, c, h, hready.1 ⟨c', h'⟩, c', h', hsame c' h'⟩

theorem assemble_twice : (assemble vendor [shared, twice]).isOk = true := by cbv

/-- Loaded before the fragment, the statement for the database waits, and the one for any does not
give way to it. -/
theorem assemble_twice_first : (assemble vendor [twice, shared]).isOk = false := by cbv

/-- The loads succeed in one order and not in the other. -/
theorem order_matters : ([shared, twice].map (·.ns)).Nodup ∧
    [shared, twice].Perm [twice, shared] ∧ (∃ c, assemble vendor [shared, twice] = .ok c) ∧
      ¬ ∃ c, assemble vendor [twice, shared] = .ok c := by
  refine ⟨by decide, .swap _ _ _, exists_of_isOk assemble_twice, ?_⟩
  rintro ⟨c, h⟩
  have hfails := assemble_twice_first
  rw [h] at hfails
  cases hfails

end LoadOrder

end MappedSql
