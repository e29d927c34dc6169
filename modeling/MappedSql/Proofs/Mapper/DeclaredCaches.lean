import Mathlib
import MappedSql.Proofs.Mapper.Loading

/- The caches that registered statements hold.

   A namespace declares one cache for all its statements: its own, else the one that it refers
   to, else none (`NamespaceDefinition.declared`). Its statements are registered at different
   moments, some long after their namespace was loaded, and other namespaces may fail to load in
   between. Still each of them holds the declared cache, and that cache is registered
   (`Configuration.statement_cache`). What carries this is that a statement which waits has a
   source from which it can draw no other cache, whatever is registered by then
   (`NamespaceDefinition.Draws`). -/
namespace MappedSql

namespace Registry

/-- The registered cache of this id. -/
def cache? (r : Registry) (id : String) : Option Cache := r.shelf.find? (·.id == id)

theorem exists_of_hasCache {r : Registry} {id : String} (h : r.hasCache id = true) :
    ∃ c ∈ r.shelf, c.id = id := List.mem_map.1 (hasCache_iff.1 h)

/-- Where ids are distinct, a cache is the registered one of its id. -/
theorem cache?_of_mem {r : Registry} (h : (r.shelf.map Cache.id).Nodup) {c : Cache}
    (hc : c ∈ r.shelf) : r.cache? c.id = some c := by
  obtain ⟨front, back, hshelf⟩ := List.append_of_mem hc
  rw [hshelf, List.map_append, List.map_cons, List.nodup_append] at h
  rw [cache?, hshelf, List.find?_append, List.find?_eq_none.2, Option.none_or, List.find?_cons]
  · simp
  · intro c' hc' heq
    exact h.2.2 c'.id (List.mem_map_of_mem hc') c.id List.mem_cons_self (by simpa using heq)

/-- A registry with all caches of another. -/
def Covers (r' r : Registry) : Prop := ∀ id, r.hasCache id = true → r'.hasCache id = true

theorem Covers.refl (r : Registry) : r.Covers r := fun _ h => h

theorem Covers.trans {r r' r'' : Registry} (h : r''.Covers r') (h' : r'.Covers r) : r''.Covers r :=
  fun id hc => h id (h' id hc)

theorem covers_of_shelf {r r' : Registry} {more : Shelf} (h : r'.shelf = r.shelf ++ more) :
    r'.Covers r := by
  intro id hc
  rw [hasCache_iff] at hc ⊢
  rw [h, List.map_append]
  exact List.mem_append_left _ hc

theorem covers_of_eq {r r' : Registry} (h : r'.shelf = r.shelf) : r'.Covers r :=
  covers_of_shelf (h.trans (List.append_nil _).symm)

end Registry

/-! ## Declared caches -/

namespace NamespaceDefinition

/-- The id of the cache that the namespace declares for its statements. -/
def declared (d : NamespaceDefinition) : Option String :=
  if d.cache.isSome then some d.ns else d.cacheRef

/-- This is the declared cache, and it is registered. -/
structure Holds (d : NamespaceDefinition) (r : Registry) (held : Option String) : Prop where
  declared : held = d.declared
  registered : ∀ id ∈ held, r.hasCache id = true

/-- A source that gives the declared cache or nothing, now and when more caches are registered. -/
def Draws (d : NamespaceDefinition) (r : Registry) (source : CacheSource) : Prop :=
  ∀ r' : Registry, r'.Covers r → ∀ held, source.resolve r' = .ok held → d.Holds r' held

variable {d : NamespaceDefinition} {r r' : Registry} {held : Option String}

theorem Holds.mono (h : d.Holds r held) (hr : r'.Covers r) : d.Holds r' held :=
  ⟨h.declared, fun id hid => hr id (h.registered id hid)⟩

theorem Draws.mono {source : CacheSource} (h : d.Draws r source) (hr : r'.Covers r) :
    d.Draws r' source := fun r'' hr' => h r'' (hr'.trans hr)

/-- A cache that is known stays the declared one. -/
theorem Holds.draws (h : d.Holds r held) : d.Draws r (.known held) := by
  intro r' hr held' hres
  cases hres
  exact h.mono hr

/-- A cache that is awaited is registered once it is given. -/
theorem draws_awaited {referenced : String} (h : d.declared = some referenced) :
    d.Draws r (.awaited referenced) := by
  intro r' _ held hres
  rw [CacheSource.resolve] at hres
  split at hres
  · rename_i hc
    cases hres
    exact ⟨h.symm, fun id hid => by cases hid; exact hc⟩
  · cases hres

theorem mem_ownCaches {c : Cache} :
    c ∈ d.ownCaches ↔ ∃ config, d.cache = some config ∧ config.build d.ns = .ok c := by
  unfold ownCaches
  cases d.cache with
  | none => simp
  | some config => cases hb : config.build d.ns <;> simp [hb, Except.toOption, eq_comm]

theorem nodup_ownCaches (d : NamespaceDefinition) : (d.ownCaches.map Cache.id).Nodup := by
  unfold ownCaches
  cases d.cache with
  | none => exact List.nodup_nil
  | some config => cases hb : config.build d.ns <;> simp [hb, Except.toOption]

theorem declared_of_cache {config : CacheConfig} (h : d.cache = some config) :
    d.declared = some d.ns := by
  rw [declared, h]
  rfl

theorem declared_of_none (h : d.cache = none) : d.declared = d.cacheRef := by
  rw [declared, h]
  rfl

/-- The source of a namespace draws the declared cache, once its own is registered. -/
theorem draws_source (h : ∀ config, d.cache = some config → r.hasCache d.ns = true) :
    d.Draws r (d.source r) := by
  unfold source
  cases hc : d.cache with
  | some config =>
    refine Holds.draws ⟨(declared_of_cache hc).symm, fun id hid => ?_⟩
    cases hid
    exact h config hc
  | none =>
    cases hr : d.cacheRef with
    | none => exact Holds.draws ⟨by rw [declared_of_none hc, hr], fun id hid => by cases hid⟩
    | some referenced =>
      have hdeclared : d.declared = some referenced := by rw [declared_of_none hc, hr]
      dsimp only
      split
      · rename_i hcache
        refine Holds.draws ⟨hdeclared.symm, fun id hid => ?_⟩
        cases hid
        exact hcache
      · exact draws_awaited hdeclared

end NamespaceDefinition

theorem StatementDefinition.build_cache {d : StatementDefinition} {ns : String}
    {source : CacheSource} {r : Registry} {m : MappedStatement} (h : d.build ns source r = .ok m) :
    source.resolve r = .ok m.cache := by
  rw [build_eq] at h
  obtain ⟨cache, hc, h⟩ := bind_eq_ok h
  obtain ⟨id, -, h⟩ := bind_eq_ok h
  obtain ⟨script, -, h⟩ := bind_eq_ok h
  cases h
  exact hc

/-! ## Sound configurations -/

/-- The registered caches are those of the definitions, and the registered statements are theirs
and hold the caches that they declare. -/
structure Registry.Sound (ds : List NamespaceDefinition) (r : Registry) : Prop where
  caches : ∀ c ∈ r.shelf, ∃ d ∈ ds, ∃ config, d.cache = some config ∧ config.build d.ns = .ok c
  distinct : (r.shelf.map Cache.id).Nodup
  statements : ∀ m ∈ r.statements, ∃ d ∈ ds, ∃ s ∈ d.statements,
    qualify d.ns s.id = .ok m.id ∧ d.Holds r m.cache

/-- A statement that waits is one of the definitions, and draws the cache that it declares. -/
def Job.Sound (ds : List NamespaceDefinition) (r : Registry) : Job → Prop
  | .cache _ _ => True
  | .statement ns source s => ∃ d ∈ ds, d.ns = ns ∧ s ∈ d.statements ∧ d.Draws r source

structure Configuration.Sound (ds : List NamespaceDefinition) (c : Configuration) : Prop where
  registry : c.registry.Sound ds
  queue : ∀ e ∈ c.queue, ∃ j : Job, e = j.deferred ∧ j.Sound ds c.registry

section

variable {ds ds' : List NamespaceDefinition} {r r' : Registry} {j : Job} {c : Configuration}

theorem Registry.Sound.mono (h : r.Sound ds) (hds : ds ⊆ ds') : r.Sound ds' where
  caches := fun k hk => by
    obtain ⟨d, hd, hc⟩ := h.caches k hk
    exact ⟨d, hds hd, hc⟩
  distinct := h.distinct
  statements := fun m hm => by
    obtain ⟨d, hd, hs⟩ := h.statements m hm
    exact ⟨d, hds hd, hs⟩

/-- What else is registered does not matter. -/
theorem Registry.Sound.congr (h : r.Sound ds) (hshelf : r'.shelf = r.shelf)
    (hstatements : r'.statements = r.statements) : r'.Sound ds where
  caches := by rw [hshelf]; exact h.caches
  distinct := by rw [hshelf]; exact h.distinct
  statements := by
    rw [hstatements]
    intro m hm
    obtain ⟨d, hd, s, hs, hq, hheld⟩ := h.statements m hm
    exact ⟨d, hd, s, hs, hq, hheld.mono (covers_of_eq hshelf)⟩

theorem Job.Sound.mono (h : j.Sound ds r) (hds : ds ⊆ ds') (hr : r'.Covers r) :
    j.Sound ds' r' := by
  cases j with
  | cache ns referenced => trivial
  | statement ns source s =>
    obtain ⟨d, hd, hns, hs, hdraws⟩ := h
    exact ⟨d, hds hd, hns, hs, hdraws.mono hr⟩

/-- What waits still draws the same where more is loaded and registered. -/
theorem Job.Sound.queue {queue : List Deferred}
    (h : ∀ e ∈ queue, ∃ j : Job, e = j.deferred ∧ j.Sound ds r) (hds : ds ⊆ ds')
    (hr : r'.Covers r) : ∀ e ∈ queue, ∃ j : Job, e = j.deferred ∧ j.Sound ds' r' := by
  intro e he
  obtain ⟨j, rfl, hj⟩ := h e he
  exact ⟨j, rfl, hj.mono hds hr⟩

theorem Configuration.Sound.mono (h : c.Sound ds) (hds : ds ⊆ ds') : c.Sound ds' where
  registry := h.registry.mono hds
  queue := Job.Sound.queue h.queue hds (.refl _)

/-- A configuration with the same caches and statements, and the same that waits. -/
theorem Configuration.Sound.congr (h : c.Sound ds) (hshelf : r'.shelf = c.registry.shelf)
    (hstatements : r'.statements = c.registry.statements) :
    Configuration.Sound ds { c with registry := r' } where
  registry := h.registry.congr hshelf hstatements
  queue := Job.Sound.queue h.queue (List.Subset.refl ds) (Registry.covers_of_eq hshelf)

theorem Configuration.Sound.defer (h : c.Sound ds) (hj : j.Sound ds c.registry) :
    (c.defer j.deferred).Sound ds where
  registry := h.registry
  queue := fun e he => by
    rcases List.mem_append.1 he with he | he
    · exact h.queue e he
    · exact ⟨j, List.mem_singleton.1 he, hj⟩

/-- The statement that a job makes holds the declared cache. -/
theorem Registry.Sound.make {m : MappedStatement} (h : r.Sound ds) (hj : j.Sound ds r)
    (hm : j.make r = .ok (some m)) : (r.append [m]).Sound ds where
  caches := h.caches
  distinct := h.distinct
  statements := fun m' hm' => by
    have hcovers : (r.append [m]).Covers r := covers_of_eq rfl
    rcases List.mem_append.1 hm' with hm' | hm'
    · obtain ⟨d, hd, s, hs, hq, hheld⟩ := h.statements m' hm'
      exact ⟨d, hd, s, hs, hq, hheld.mono hcovers⟩
    · rw [List.mem_singleton.1 hm']
      cases j with
      | cache ns referenced =>
        rw [Job.make] at hm
        split at hm <;> cases hm
      | statement ns source s =>
        obtain ⟨d, hd, rfl, hs, hdraws⟩ := hj
        rw [Job.make] at hm
        cases hb : s.build d.ns source r with
        | error e => rw [hb] at hm; cases hm
        | ok built =>
          rw [hb] at hm
          cases hm
          exact ⟨d, hd, s, hs, s.build_id hb,
            (hdraws r (.refl r) _ (s.build_cache hb)).mono hcovers⟩

/-! ## Trying again what waits -/

/-- To try a job again leaves the registry sound, whatever comes of it. -/
theorem Job.Sound.attempt (hj : j.Sound ds r) (h : r.Sound ds) :
    match j.deferred.attempt r with
    | .waiting => True
    | .resolved r' => r'.Sound ds ∧ r'.shelf = r.shelf
    | .failed _ r' => r' = r := by
  rw [Job.attempt_deferred]
  cases hmake : j.make r with
  | error e =>
    dsimp only
    by_cases he : e.isIncomplete = true
    · rw [if_pos he]
      trivial
    · rw [if_neg he]
  | ok made =>
    cases made with
    | none => exact ⟨h, rfl⟩
    | some m =>
      dsimp only
      cases hm : r.addStatement m with
      | error e => rfl
      | ok r' =>
        obtain ⟨-, rfl⟩ := Registry.addStatement_eq_ok hm
        exact ⟨h.make hj hmake, rfl⟩

/-- A run through the queue keeps a configuration sound, also one that fails. -/
theorem Configuration.Sound.run (queue : List Deferred) (h : Configuration.Sound ds ⟨r, queue⟩) :
    (Configuration.after (Deferred.run r queue)).Sound ds ∧
      (Deferred.run r queue).registry.shelf = r.shelf := by
  induction queue generalizing r with
  | nil => exact ⟨h, rfl⟩
  | cons e queue ih =>
    obtain ⟨j, rfl, hj⟩ := h.queue e List.mem_cons_self
    have hrest : Configuration.Sound ds ⟨r, queue⟩ :=
      ⟨h.registry, fun e he => h.queue e (List.mem_cons_of_mem _ he)⟩
    have hattempt := hj.attempt h.registry
    rw [Deferred.run, j.follow_deferred]
    cases hv : j.deferred.attempt r with
    | waiting =>
      obtain ⟨hnext, hshelf⟩ := ih hrest
      refine ⟨⟨hnext.registry, fun e he => ?_⟩, hshelf⟩
      rcases List.mem_cons.1 he with rfl | he
      · exact ⟨j, rfl, hj.mono (List.Subset.refl ds) (Registry.covers_of_eq hshelf)⟩
      · exact hnext.queue e he
    | resolved r' =>
      rw [hv] at hattempt
      obtain ⟨hr', hshelf⟩ := hattempt
      have hnow : Configuration.Sound ds ⟨r', queue⟩ := ⟨hr',
        Job.Sound.queue hrest.queue (List.Subset.refl ds) (Registry.covers_of_eq hshelf)⟩
      obtain ⟨hnext, hshelf'⟩ := ih hnow
      exact ⟨⟨hnext.registry, hnext.queue⟩, hshelf'.trans hshelf⟩
    | failed err r' =>
      rw [hv] at hattempt
      subst hattempt
      refine ⟨⟨h.registry, fun e he => ?_⟩, rfl⟩
      simp only [Configuration.after, Deferred.Run.queue, List.append_nil] at he
      exact hrest.queue e he

theorem Configuration.Sound.resolves {c' : Configuration} {answer : Except MapperError Nat}
    (h : c.Sound ds) (hres : c.Resolves answer c') : c'.Sound ds := by
  induction hres with
  | failed => exact (Configuration.Sound.run _ h).1
  | settled => exact (Configuration.Sound.run _ h).1
  | again _ _ _ ih => exact ih (Configuration.Sound.run _ h).1

theorem Configuration.finish_state (c : Configuration) : c.finish.2 = c.resolve.2 := by
  rw [finish]
  rcases c.resolve with ⟨e | n, c'⟩
  · rfl
  · dsimp only
    split <;> rfl

end

/-! ## Registering a namespace -/

/-- A registration of the namespace in a sound configuration, whose statements draw the cache that
it declares. -/
structure Registration.Sound (ds : List NamespaceDefinition) (d : NamespaceDefinition)
    (g : Registration) : Prop where
  configuration : g.configuration.Sound ds
  ns : g.ns = d.ns
  source : d.Draws g.configuration.registry g.source

namespace Register

variable {ds : List NamespaceDefinition} {d : NamespaceDefinition}

/-- What each step keeps, all of them keep, also if one fails. -/
theorem forM_keeps {α : Type} {P : Registration → Prop} {f : α → Register Unit} {xs : List α}
    (hf : ∀ x ∈ xs, ∀ g, P g → P (outcome (f x) g).2) {g : Registration} (hg : P g) :
    P (outcome (xs.forM f) g).2 := by
  induction xs generalizing g with
  | nil => exact hg
  | cons x xs ih =>
    have hx := hf x List.mem_cons_self g hg
    rw [outcome_forM_cons]
    rcases hstep : outcome (f x) g with ⟨_ | _, g'⟩
    · rwa [hstep] at hx
    · rw [hstep] at hx
      exact ih (fun x' hx' => hf x' (List.mem_cons_of_mem x hx')) hx

theorem fragments_sound (fs : List FragmentDefinition) {g : Registration} (hg : g.Sound ds d) :
    (outcome (fragments fs) g).2.Sound ds d := by
  refine forM_keeps (fun f _ g hg => ?_) hg
  rw [outcome_bind, outcome_fragment]
  cases f.read g.ns with
  | error e => exact hg
  | ok x =>
    obtain ⟨id, nodes⟩ := x
    dsimp only
    cases ha : g.configuration.registry.addFragment id nodes with
    | error e => exact hg
    | ok r =>
      rw [Registry.addFragment] at ha
      split at ha
      · cases ha
      · cases ha
        exact ⟨hg.configuration.congr rfl rfl, hg.ns, hg.source⟩

theorem statements_sound (ss : List StatementDefinition) (hss : ∀ s ∈ ss, s ∈ d.statements)
    (hd : d ∈ ds) {g : Registration} (hg : g.Sound ds d) :
    (outcome (statements ss) g).2.Sound ds d := by
  refine forM_keeps (fun s hs g hg => ?_) hg
  have hjob : (g.job s).Sound ds g.configuration.registry :=
    ⟨d, hd, hg.ns.symm, hss s hs, hg.source⟩
  rw [outcome_statement_step]
  cases s.applies g.ns g.configuration.registry with
  | error e => exact hg
  | ok applies =>
    cases applies with
    | false => exact hg
    | true =>
      dsimp only
      cases hb : s.build g.ns g.source g.configuration.registry with
      | error e =>
        dsimp only
        by_cases he : e.isIncomplete = true
        · rw [if_pos he]
          exact ⟨hg.configuration.defer hjob, hg.ns, hg.source⟩
        · rw [if_neg he]
          exact hg
      | ok m =>
        dsimp only
        cases hm : g.configuration.registry.addStatement m with
        | error e => exact hg
        | ok r =>
          obtain ⟨-, rfl⟩ := Registry.addStatement_eq_ok hm
          have hmake : (g.job s).make g.configuration.registry = .ok (some m) := by
            rw [Registration.job, Job.make, hb]
            rfl
          exact ⟨⟨hg.configuration.registry.make hjob hmake, hg.configuration.queue⟩, hg.ns,
            hg.source⟩

/-- A cache that cannot be built or added leaves the registration as it was. -/
theorem caching_error {g g' : Registration} {e : MapperError}
    (h : outcome (caching d) g = (.error e, g')) : g' = g := by
  unfold caching at h
  cases hc : d.cache with
  | none =>
    rw [hc] at h
    cases h
  | some config =>
    rw [hc] at h
    simp only [newCache, outcome_bind, outcome_get, outcome_lift, Option.getD_some] at h
    cases hn : g.configuration.registry.newCache g.ns config with
    | error e => rw [hn] at h; cases h; rfl
    | ok r => rw [hn] at h; cases h

end Register

namespace Configuration.Sound

variable {ds : List NamespaceDefinition} {d : NamespaceDefinition} {c : Configuration}

/-- No cache of a namespace is registered before the namespace is loaded. -/
theorem hasCache_new (h : c.Sound ds) (hnew : d.ns ∉ ds.map (·.ns)) :
    c.registry.hasCache d.ns = false := by
  rw [Bool.eq_false_iff]
  intro hc
  obtain ⟨k, hk, hid⟩ := Registry.exists_of_hasCache hc
  obtain ⟨d', hd', config, -, hb⟩ := h.registry.caches k hk
  rw [CacheConfig.build_id hb] at hid
  exact hnew (List.mem_map.2 ⟨d', hd', hid⟩)

/-- With the namespace's own cache, which is new. -/
theorem withCaches {g : Registration} (h : g.configuration.Sound ds) (hd : d ∈ ds)
    (hnew : g.configuration.registry.hasCache d.ns = false) :
    (Register.withCaches g d).configuration.Sound ds := by
  have hcovers : (Register.withCaches g d).configuration.registry.Covers
      g.configuration.registry := Registry.covers_of_shelf rfl
  refine ⟨⟨fun k hk => ?_, ?_, fun m hm => ?_⟩,
    Job.Sound.queue h.queue (List.Subset.refl ds) hcovers⟩
  · rcases List.mem_append.1 hk with hk | hk
    · exact h.registry.caches k hk
    · exact ⟨d, hd, d.mem_ownCaches.1 hk⟩
  · show ((g.configuration.registry.shelf ++ d.ownCaches).map Cache.id).Nodup
    rw [List.map_append, List.nodup_append]
    refine ⟨h.registry.distinct, d.nodup_ownCaches, ?_⟩
    rintro id hid id' hid' rfl
    obtain ⟨own, hown, rfl⟩ := List.mem_map.1 hid'
    rw [d.id_of_ownCaches hown] at hid
    rw [Registry.hasCache_iff.2 hid] at hnew
    cases hnew
  · obtain ⟨d', hd', s, hs, hq, hheld⟩ := h.registry.statements m hm
    exact ⟨d', hd', s, hs, hq, hheld.mono hcovers⟩

/-- With the references of the namespace noted, and with the one that has to wait. -/
theorem withReferences (h : c.Sound ds) (d : NamespaceDefinition)
    (refs : List (String × String)) :
    Configuration.Sound ds ⟨{ c.registry with cacheRefs := refs },
      c.queue ++ (d.references c.registry).map Job.deferred⟩ := by
  have hrefs : Configuration.Sound ds
      { c with registry := { c.registry with cacheRefs := refs } } := h.congr rfl rfl
  refine ⟨hrefs.registry, fun e he => ?_⟩
  rcases List.mem_append.1 he with he | he
  · exact hrefs.queue e he
  · obtain ⟨j, hj, rfl⟩ := List.mem_map.1 he
    refine ⟨j, rfl, ?_⟩
    unfold NamespaceDefinition.references at hj
    split at hj
    · split at hj
      · cases hj
      · rw [List.mem_singleton.1 hj]
        trivial
    · cases hj

/-- With its own cache a namespace draws the cache that it declares, if it did without one. -/
theorem draws_withCaches {g : Registration} {r : Registry}
    (hbuilt : ∀ config, d.cache = some config → ∃ own, config.build d.ns = .ok own)
    (hsource : d.cache = none → g.source = d.source r)
    (hr : g.configuration.registry.Covers r) :
    d.Draws (Register.withCaches g d).configuration.registry
      (Register.withCaches g d).source := by
  have hcovers : (Register.withCaches g d).configuration.registry.Covers
      g.configuration.registry := Registry.covers_of_shelf rfl
  cases hc : d.cache with
  | some config =>
    obtain ⟨own, hown⟩ := hbuilt config hc
    have hin : (Register.withCaches g d).configuration.registry.hasCache d.ns = true := by
      refine Registry.hasCache_iff.2 (List.mem_map.2 ⟨own, ?_, CacheConfig.build_id hown⟩)
      exact List.mem_append_right _ (d.mem_ownCaches.2 ⟨config, hc, hown⟩)
    have hdraws := d.draws_source (r := (Register.withCaches g d).configuration.registry)
      fun _ _ => hin
    rw [NamespaceDefinition.source, hc] at hdraws
    simpa [Register.withCaches, Registration.source, hc] using hdraws
  | none =>
    have hdraws := d.draws_source (r := r) fun config hcon => by
      rw [hc] at hcon
      cases hcon
    rw [← hsource hc] at hdraws
    have hsame : (Register.withCaches g d).source = g.source := by
      simp [Register.withCaches, Registration.source, hc]
    rw [hsame]
    exact hdraws.mono (hcovers.trans hr)

/-- The steps before the statements keep a configuration sound, and after them the statements
draw the declared cache. -/
theorem elements (h : c.Sound ds) (hnew : d.ns ∉ ds.map (·.ns)) :
    (Register.outcome (Register.elements d) ⟨d.ns, none, none, c⟩).2.configuration.Sound
      (ds ++ [d]) ∧
    ((Register.outcome (Register.elements d) ⟨d.ns, none, none, c⟩).1 = .ok () →
      (Register.outcome (Register.elements d) ⟨d.ns, none, none, c⟩).2.Sound (ds ++ [d]) d) := by
  obtain ⟨refs, cache, awaited, href, hsource⟩ := Register.outcome_referring d c
  rw [Register.elements, Register.outcome_bind, href]
  dsimp only
  -- the registration after the first step
  generalize hg : (⟨d.ns, cache, awaited, ⟨{ c.registry with cacheRefs := refs },
    c.queue ++ (d.references c.registry).map Job.deferred⟩⟩ : Registration) = g
  have hns : g.ns = d.ns := by rw [← hg]
  have hfirst : g.configuration.Sound (ds ++ [d]) := by
    rw [← hg]
    exact (h.mono (List.subset_append_left ds [d])).withReferences d refs
  have hfresh : g.configuration.registry.hasCache d.ns = false := by
    have hc := h.hasCache_new hnew
    rwa [← hg]
  have hdrawn : d.cache = none → g.source = d.source c.registry := by
    rw [← hg]
    exact hsource
  have hcovers : g.configuration.registry.Covers c.registry :=
    Registry.covers_of_eq (by rw [← hg])
  rw [Register.outcome_bind]
  rcases hcaching : Register.outcome (Register.caching d) g with ⟨e | ⟨⟩, g'⟩
  · rw [Register.caching_error hcaching]
    exact ⟨hfirst, fun hok => by cases hok⟩
  · rcases Register.outcome_caching hns hfresh with ⟨config, e, -, -, he⟩ | ⟨hbuilt, ho⟩
    · rw [hcaching] at he
      cases he
    · rw [hcaching] at ho
      cases ho
      have hsecond : (Register.withCaches g d).Sound (ds ++ [d]) d :=
        ⟨hfirst.withCaches (by simp) hfresh, hns, draws_withCaches hbuilt hdrawn hcovers⟩
      have hthird := Register.fragments_sound d.fragments hsecond
      exact ⟨hthird.configuration, fun _ => hthird⟩

/-- A load of another namespace keeps a configuration sound, also one that fails. -/
theorem load (h : c.Sound ds) (hnew : d.ns ∉ ds.map (·.ns)) :
    (c.load d).2.Sound (ds ++ [d]) := by
  have hmore := h.mono (List.subset_append_left ds [d])
  by_cases hl : c.registry.isLoaded d.ns = true
  · rw [Configuration.load, if_pos hl]
    exact hmore
  · rw [Configuration.load_eq (by simpa using hl)]
    split
    · exact hmore
    · obtain ⟨hbefore, hopened⟩ := h.elements hnew
      rcases he : Register.outcome (Register.elements d) ⟨d.ns, none, none, c⟩ with ⟨_ | _, g⟩
      · rwa [he] at hbefore
      · rw [he] at hopened
        have hss : ∀ s ∈ d.inOrder, s ∈ d.statements := by
          intro s hs
          rcases List.mem_append.1 hs with hs | hs <;> exact (List.mem_filter.1 hs).1
        have hlast := Register.statements_sound d.inOrder hss (by simp) (hopened rfl)
        dsimp only
        rcases hs : Register.outcome (Register.statements d.inOrder) g with ⟨_ | _, g'⟩
        · rw [hs] at hlast
          exact hlast.configuration
        · rw [hs] at hlast
          have hmark : (g'.configuration.mark d.ns).Sound (ds ++ [d]) := by
            refine hlast.configuration.congr ?_ (Registry.markLoaded_statements _ _)
            unfold Registry.markLoaded
            split <;> rfl
          have hresolved := hmark.resolves (Configuration.resolves _)
          dsimp only
          rcases hres : (g'.configuration.mark d.ns).resolve with ⟨_ | _, c'⟩ <;>
            rwa [hres] at hresolved

end Configuration.Sound

/-! ## All loads -/

namespace Configuration

/-- What is done to a configuration while it is set up. -/
inductive Change where
  | load (d : NamespaceDefinition)
  | resolve
  | finish

/-- The configuration after a change, which may fail. -/
def change (c : Configuration) : Change → Configuration
  | .load d => (c.load d).2
  | .resolve => c.resolve.2
  | .finish => c.finish.2

def Change.definition? : Change → Option NamespaceDefinition
  | .load d => some d
  | _ => none

/-- The configuration of these settings after the changes. -/
def setUp (settings : Settings) (changes : List Change) : Configuration :=
  changes.foldl change (.empty settings)

/-- The definitions that are loaded in the changes. -/
def definitions (changes : List Change) : List NamespaceDefinition :=
  changes.filterMap Change.definition?

theorem sound_empty (settings : Settings) : (empty settings).Sound [] :=
  ⟨⟨fun _ hc => (by cases hc), List.nodup_nil, fun _ hm => (by cases hm)⟩,
    fun _ he => (by cases he)⟩

theorem Sound.change {ds : List NamespaceDefinition} {c : Configuration} (h : c.Sound ds)
    (step : Change) (hnames : ((ds ++ step.definition?.toList).map (·.ns)).Nodup) :
    (c.change step).Sound (ds ++ step.definition?.toList) := by
  cases step with
  | load d =>
    refine h.load fun hin => ?_
    rw [List.map_append, List.nodup_append] at hnames
    exact hnames.2.2 d.ns hin d.ns (by simp [Change.definition?]) rfl
  | resolve =>
    rw [show Change.resolve.definition?.toList = [] from rfl, List.append_nil]
    exact h.resolves c.resolves
  | finish =>
    rw [show Change.finish.definition?.toList = [] from rfl, List.append_nil, Configuration.change,
      finish_state]
    exact h.resolves c.resolves

theorem Sound.changes {ds : List NamespaceDefinition} {c : Configuration} (h : c.Sound ds)
    (changes : List Change) (hnames : ((ds ++ definitions changes).map (·.ns)).Nodup) :
    (changes.foldl Configuration.change c).Sound (ds ++ definitions changes) := by
  induction changes generalizing ds c with
  | nil => simpa [definitions] using h
  | cons step changes ih =>
    have hsplit : ds ++ definitions (step :: changes) =
        (ds ++ step.definition?.toList) ++ definitions changes := by
      rw [List.append_assoc, definitions, definitions, List.filterMap_cons]
      cases step.definition? <;> rfl
    rw [hsplit] at hnames ⊢
    have hfirst := hnames
    rw [List.map_append, List.nodup_append] at hfirst
    exact ih (h.change step hfirst.1) hnames

/-- After any loads of different namespaces, failed ones included, every registered statement is
declared by one of the namespaces. It holds the cache of its namespace if that one has its own,
else the registered cache that the namespace refers to, which then is the own cache of another,
and no cache if the namespace declares none. -/
theorem statement_cache (settings : Settings) (changes : List Change)
    (hnames : ((definitions changes).map (·.ns)).Nodup) :
    ∀ m ∈ (setUp settings changes).registry.statements,
      ∃ d ∈ definitions changes, (∃ s ∈ d.statements, qualify d.ns s.id = .ok m.id) ∧
        (∀ d' ∈ definitions changes, (∃ id, qualify d'.ns id = .ok m.id) → d' = d) ∧
        (∀ config, d.cache = some config → m.cache = some d.ns ∧
          ∃ c, config.build d.ns = .ok c ∧
            (setUp settings changes).registry.cache? d.ns = some c) ∧
        (∀ referenced, d.cache = none → d.cacheRef = some referenced →
          m.cache = some referenced ∧ ∃ owner ∈ definitions changes, owner.ns = referenced ∧
            ∃ config c, owner.cache = some config ∧ config.build referenced = .ok c ∧
              (setUp settings changes).registry.cache? referenced = some c) ∧
        (d.cache = none → d.cacheRef = none → m.cache = none) := by
  have hsound : (setUp settings changes).Sound (definitions changes) :=
    (sound_empty settings).changes changes hnames
  generalize setUp settings changes = configuration at hsound ⊢
  intro m hm
  obtain ⟨d, hd, s, hs, hq, hheld⟩ := hsound.registry.statements m hm
  -- a registered cache is the own cache of the namespace of its id
  have howner : ∀ id, configuration.registry.hasCache id = true →
      ∃ owner ∈ definitions changes, owner.ns = id ∧ ∃ config c, owner.cache = some config ∧
        config.build id = .ok c ∧ configuration.registry.cache? id = some c := by
    intro id hid
    obtain ⟨c, hc, rfl⟩ := Registry.exists_of_hasCache hid
    obtain ⟨owner, ho, config, hconfig, hb⟩ := hsound.registry.caches c hc
    have hid := CacheConfig.build_id hb
    exact ⟨owner, ho, hid.symm, config, c, hconfig, hid ▸ hb,
      Registry.cache?_of_mem hsound.registry.distinct hc⟩
  have hsame : ∀ d' ∈ definitions changes, d'.ns = d.ns → d' = d :=
    fun d' hd' hns => List.inj_on_of_nodup_map hnames hd' hd hns
  refine ⟨d, hd, ⟨s, hs, hq⟩, ?_, ?_, ?_, ?_⟩
  · rintro d' hd' ⟨id, hid⟩
    exact hsame d' hd' (qualify_namespace hid hq)
  · intro config hc
    have hcache : m.cache = some d.ns := hheld.declared.trans (d.declared_of_cache hc)
    obtain ⟨owner, ho, hns, config', c, hconfig, hb, hregistered⟩ :=
      howner d.ns (hheld.registered d.ns (by rw [hcache]; rfl))
    rw [hsame owner ho hns, hc] at hconfig
    cases hconfig
    exact ⟨hcache, c, hb, hregistered⟩
  · intro referenced hc href
    have hcache : m.cache = some referenced := by
      rw [hheld.declared, d.declared_of_none hc, href]
    exact ⟨hcache, howner referenced (hheld.registered referenced (by rw [hcache]; rfl))⟩
  · intro hc href
    rw [hheld.declared, d.declared_of_none hc, href]

/-- A namespace with a statement, which refers to the cache of another. -/
def referring : NamespaceDefinition :=
  ⟨"a", none, some "b", [], [⟨"s", .select, "x", .prepared, none, none, none, none⟩]⟩

/-- The other namespace is loaded after it, and a load in between fails. -/
def late : List Change :=
  [.load referring, .load ⟨"c", some { CacheConfig.standard with size := 0 }, none, [], []⟩,
    .load ⟨"b", some .standard, none, [], []⟩]

/-- The statement holds the cache of the other all the same. -/
theorem statement_cache_late : ((definitions late).map (·.ns)).Nodup ∧
    ∃ m ∈ (setUp .standard late).registry.statements, m.id = "a.s" ∧ m.cache = some "b" ∧
      ∃ c, (setUp .standard late).registry.cache? "b" = some c := by
  have hnames : ((definitions late).map (·.ns)).Nodup := by decide
  have hids : (setUp .standard late).registry.ids = ["a.s"] := by cbv
  have hs : qualify "a" "s" = .ok "a.s" := by cbv
  obtain ⟨m, hm, hid⟩ := List.mem_map.1 (hids ▸ List.mem_singleton_self "a.s")
  obtain ⟨d, -, -, hunique, -, href, -⟩ := statement_cache .standard late hnames m hm
  rw [← hunique referring List.mem_cons_self ⟨"s", hid.symm ▸ hs⟩] at href
  obtain ⟨hcache, -, -, -, -, c, -, -, hc⟩ := href "b" rfl rfl
  exact ⟨hnames, m, hm, hid, hcache, c, hc⟩

end Configuration

end MappedSql
