import Mathlib.Data.List.Nodup
import MappedSql.Proofs.Mapper.Building

/- Trying again what waits.

   What waits while namespaces are registered is a reference to a cache or a statement
   (`Job`). To try it again adds at most a statement to the registry, and what a job makes
   depends on the caches and the fragments alone. So a run through the queue splits it:
   some jobs are done, with the statements they make registered in turn, and the rest
   still lacks something (`Progress`). The run does not fail if what jobs make is
   complete and has ids of its own (`Healthy`). -/
namespace MappedSql

/-! ## Registered statements -/

namespace Registry

/-- The ids of the registered statements. -/
def ids (r : Registry) : List String := r.statements.map (·.id)

theorem hasStatement_iff {r : Registry} {id : String} : r.hasStatement id = true ↔ id ∈ r.ids := by
  simp [hasStatement, statement?, ids]

/-- With more statements. -/
def append (r : Registry) (ms : List MappedStatement) : Registry :=
  { r with statements := r.statements ++ ms }

@[simp] theorem append_nil (r : Registry) : r.append [] = r := by simp [append]

@[simp] theorem append_append (r : Registry) (ms ms' : List MappedStatement) :
    (r.append ms).append ms' = r.append (ms ++ ms') := by simp [append]

@[simp] theorem ids_append (r : Registry) (ms : List MappedStatement) :
    (r.append ms).ids = r.ids ++ ms.map (·.id) := by simp [append, ids]

theorem addStatement_eq_ok {r r' : Registry} {m : MappedStatement}
    (h : r.addStatement m = .ok r') : m.id ∉ r.ids ∧ r' = r.append [m] := by
  unfold addStatement at h
  split at h
  · cases h
  · rename_i hn
    cases h
    exact ⟨fun hm => hn (hasStatement_iff.2 hm), rfl⟩

theorem addStatement_of_new {r : Registry} {m : MappedStatement} (h : m.id ∉ r.ids) :
    r.addStatement m = .ok (r.append [m]) := by
  rw [addStatement, if_neg fun hm => h (hasStatement_iff.1 hm)]
  rfl

end Registry

/-! ## Jobs -/

/-- What waits in the queue of a configuration. -/
inductive Job where
  /-- The reference of a namespace to the cache of another. -/
  | cache (ns referenced : String)
  | statement (ns : String) (source : CacheSource) (d : StatementDefinition)

namespace Job

/-- What the job makes of what is registered: a statement, or nothing for a reference. -/
def make : Job → Registry → Except MapperError (Option MappedStatement)
  | .cache _ referenced, r =>
    if r.hasCache referenced then .ok none else .error (.incomplete (.cache referenced))
  | .statement ns source d, r => (d.build ns source r).map some

/-- The waiting element of the job. -/
def deferred : Job → Deferred
  | .cache ns referenced => Registration.awaiting ns referenced
  | .statement ns source d => .mk (qualifyReference (some ns) d.id) (d.attempt ns source) []

/-- The id of the statement that the job makes. -/
def id? : Job → Option String
  | .cache _ _ => none
  | .statement ns _ d => (qualify ns d.id).toOption

theorem follow_deferred (j : Job) : j.deferred.follow = [] := by cases j <;> rfl

theorem attempt_deferred (j : Job) (r : Registry) : j.deferred.attempt r =
    match j.make r with
    | .ok none => .resolved r
    | .ok (some m) =>
      match r.addStatement m with
      | .ok r => .resolved r
      | .error e => .failed e r
    | .error e => if e.isIncomplete then .waiting else .failed e r := by
  cases j with
  | cache ns referenced =>
    show (if r.hasCache referenced then Verdict.resolved r else .waiting) = _
    simp only [make]
    by_cases hc : r.hasCache referenced = true <;> simp [hc, MapperError.isIncomplete]
  | statement ns source d =>
    show d.attempt ns source r = _
    simp only [make, StatementDefinition.attempt]
    cases d.build ns source r with
    | error e => rfl
    | ok m => cases r.addStatement m <;> rfl

/-- What a job makes does not depend on the registered statements. -/
theorem make_append (j : Job) (r : Registry) (ms : List MappedStatement) :
    j.make (r.append ms) = j.make r := by
  cases j <;> rfl

theorem make_settled {r r' : Registry} (h : r'.Extends r) (j : Job) (hj : Complete (j.make r)) :
    j.make r' = j.make r := by
  cases j with
  | cache ns referenced =>
    simp only [make] at hj ⊢
    by_cases hc : r.hasCache referenced = true
    · rw [if_pos hc, if_pos (h.caches referenced hc)]
    · rw [if_neg hc] at hj
      exact absurd rfl (hj _)
  | statement ns source d =>
    have hd : Complete (d.build ns source r) := by
      intro gap he
      refine hj gap ?_
      rw [make, he]
      rfl
    rw [make, make, d.build_settled h ns source hd]

theorem make_id {j : Job} {r : Registry} {m : MappedStatement} (h : j.make r = .ok (some m)) :
    j.id? = some m.id := by
  cases j with
  | cache ns referenced =>
    simp only [make] at h
    split at h <;> cases h
  | statement ns source d =>
    rw [make] at h
    cases hb : d.build ns source r with
    | error e => rw [hb] at h; cases h
    | ok m' =>
      rw [hb] at h
      cases h
      rw [id?, StatementDefinition.build_id hb]
      rfl

theorem make_none {j : Job} {r : Registry} (h : j.make r = .ok none) : j.id? = none := by
  cases j with
  | cache ns referenced => rfl
  | statement ns source d =>
    rw [make] at h
    cases hb : d.build ns source r <;> rw [hb] at h <;> cases h

end Job

/-- What the jobs make, in their order. -/
def Made (r : Registry) (jobs : List Job) (ms : List MappedStatement) : Prop :=
  ∃ made : List (Option MappedStatement),
    jobs.map (·.make r) = made.map .ok ∧ ms = made.filterMap id

theorem made_nil (r : Registry) : Made r [] [] := ⟨[], rfl, rfl⟩

theorem Made.append {r : Registry} {jobs jobs' : List Job} {ms ms' : List MappedStatement}
    (h : Made r jobs ms) (h' : Made r jobs' ms') : Made r (jobs ++ jobs') (ms ++ ms') := by
  obtain ⟨made, hj, rfl⟩ := h
  obtain ⟨made', hj', rfl⟩ := h'
  exact ⟨made ++ made', by simp [hj, hj'], by simp⟩

theorem Made.ids {r : Registry} {jobs : List Job} {ms : List MappedStatement}
    (h : Made r jobs ms) : ms.map (·.id) = jobs.filterMap (·.id?) := by
  obtain ⟨made, hj, rfl⟩ := h
  induction jobs generalizing made with
  | nil =>
    cases made with
    | nil => rfl
    | cons o made => cases hj
  | cons j jobs ih =>
    cases made with
    | nil => cases hj
    | cons o made =>
      simp only [List.map_cons, List.cons.injEq] at hj
      have := ih made hj.2
      cases o with
      | none => simpa [Job.make_none hj.1] using this
      | some m => simpa [Job.make_id hj.1] using this

theorem Made.settled {r r' : Registry} (he : r'.Extends r) {jobs : List Job}
    {ms : List MappedStatement} (h : Made r jobs ms) : Made r' jobs ms := by
  obtain ⟨made, hj, rfl⟩ := h
  refine ⟨made, ?_, rfl⟩
  rw [← hj]
  apply List.map_congr_left
  intro j hmem
  refine j.make_settled he ?_
  have hok : j.make r ∈ made.map Except.ok := by
    rw [← hj]
    exact List.mem_map_of_mem hmem
  obtain ⟨o, -, ho⟩ := List.mem_map.1 hok
  rw [← ho]
  exact complete_ok o

/-! ## Runs through the queue -/

/-- Some jobs are done and have their statements registered, the others are kept. -/
def Progress (r : Registry) (jobs : List Job) (r' : Registry) (kept : List Job) : Prop :=
  ∃ done ms, r' = r.append ms ∧ jobs.Perm (done ++ kept) ∧ Made r done ms ∧
    (r.ids.Nodup → r'.ids.Nodup)

theorem progress_refl (r : Registry) (jobs : List Job) : Progress r jobs r jobs :=
  ⟨[], [], by simp, by simp, made_nil r, id⟩

theorem Made.append_iff {r : Registry} {jobs : List Job} {ms ms' : List MappedStatement} :
    Made (r.append ms') jobs ms ↔ Made r jobs ms := by
  simp only [Made, Job.make_append]

theorem Progress.trans {r r' r'' : Registry} {jobs kept kept' : List Job}
    (h : Progress r jobs r' kept) (h' : Progress r' kept r'' kept') :
    Progress r jobs r'' kept' := by
  obtain ⟨done, ms, rfl, hperm, hmade, hids⟩ := h
  obtain ⟨done', ms', rfl, hperm', hmade', hids'⟩ := h'
  refine ⟨done ++ done', ms ++ ms', by simp, ?_, hmade.append (Made.append_iff.1 hmade'),
    fun hr => hids' (hids hr)⟩
  rw [List.append_assoc]
  exact hperm.trans (hperm'.append_left done)

/-- A job that is done comes before what else is. -/
theorem Progress.cons_done {r r' : Registry} {j : Job} {jobs kept : List Job}
    (ms : List MappedStatement) (hj : Made r [j] ms)
    (hids : r.ids.Nodup → (r.append ms).ids.Nodup) (h : Progress (r.append ms) jobs r' kept) :
    Progress r (j :: jobs) r' kept := by
  obtain ⟨done, ms', rfl, hperm, hmade, hids'⟩ := h
  exact ⟨j :: done, ms ++ ms', by simp, hperm.cons j, hj.append (Made.append_iff.1 hmade),
    fun hr => hids' (hids hr)⟩

theorem Progress.cons_nothing {r r' : Registry} {j : Job} {jobs kept : List Job}
    (hj : j.make r = .ok none) (h : Progress r jobs r' kept) : Progress r (j :: jobs) r' kept := by
  refine Progress.cons_done [] ⟨[none], by simp [hj], rfl⟩ ?_ ?_
  · simp
  · simpa using h

theorem Progress.cons_registered {r r' : Registry} {j : Job} {jobs kept : List Job}
    {m : MappedStatement} (hj : j.make r = .ok (some m)) (hnew : m.id ∉ r.ids)
    (h : Progress (r.append [m]) jobs r' kept) : Progress r (j :: jobs) r' kept := by
  refine Progress.cons_done [m] ⟨[some m], by simp [hj], rfl⟩ ?_ h
  intro hr
  rw [Registry.ids_append]
  simpa using List.Nodup.concat hnew hr

theorem Progress.cons_kept {r r' : Registry} {j : Job} {jobs kept : List Job}
    (h : Progress r jobs r' kept) : Progress r (j :: jobs) r' (j :: kept) := by
  obtain ⟨done, ms, rfl, hperm, hmade, hids⟩ := h
  exact ⟨done, ms, rfl, (hperm.cons j).trans List.perm_middle.symm, hmade, hids⟩

/-- A run that does not fail keeps the jobs that lack something. -/
theorem run_progress (jobs : List Job) (r : Registry)
    (h : (Deferred.run r (jobs.map Job.deferred)).failure = none) :
    ∃ kept : List Job,
      (Deferred.run r (jobs.map Job.deferred)).queue = kept.map Job.deferred ∧
      Progress r jobs (Deferred.run r (jobs.map Job.deferred)).registry kept ∧
      ∀ j ∈ kept, ∃ e, j.make r = .error e := by
  induction jobs generalizing r with
  | nil => exact ⟨[], rfl, progress_refl r [], by simp⟩
  | cons j jobs ih =>
    rw [List.map_cons, Deferred.run, Job.attempt_deferred, Job.follow_deferred] at h ⊢
    cases hj : j.make r with
    | error e =>
      rw [hj] at h
      dsimp only at h ⊢
      by_cases he : e.isIncomplete = true
      · rw [if_pos he] at h
        rw [if_pos he]
        obtain ⟨kept, hq, hp, hk⟩ := ih r h
        refine ⟨j :: kept, ?_, hp.cons_kept, ?_⟩
        · simpa [Deferred.Run.queue] using hq
        · intro j' hj'
          rcases List.mem_cons.1 hj' with rfl | hj'
          · exact ⟨e, hj⟩
          · exact hk j' hj'
      · rw [if_neg he] at h
        cases h
    | ok made =>
      rw [hj] at h
      cases made with
      | none =>
        dsimp only at h ⊢
        obtain ⟨kept, hq, hp, hk⟩ := ih r h
        exact ⟨kept, by simpa [Deferred.Run.queue] using hq, hp.cons_nothing hj, hk⟩
      | some m =>
        dsimp only at h ⊢
        cases hm : r.addStatement m with
        | error e => rw [hm] at h; cases h
        | ok r' =>
          rw [hm] at h
          dsimp only at h ⊢
          obtain ⟨hnew, rfl⟩ := Registry.addStatement_eq_ok hm
          obtain ⟨kept, hq, hp, hk⟩ := ih _ h
          refine ⟨kept, by simpa [Deferred.Run.queue] using hq, hp.cons_registered hj hnew, ?_⟩
          -- what failed in the larger registry fails in this one
          intro j' hj'
          obtain ⟨e, he⟩ := hk j' hj'
          exact ⟨e, (j'.make_append r _).symm.trans he⟩

/-- Jobs that lack something or make statements with ids of their own. -/
structure Healthy (r : Registry) (jobs : List Job) : Prop where
  complete : ∀ j ∈ jobs, ∀ e, j.make r = .error e → e.isIncomplete = true
  distinct : (r.ids ++ jobs.filterMap (·.id?)).Nodup

theorem Healthy.tail {r : Registry} {j : Job} {jobs : List Job} (h : Healthy r (j :: jobs)) :
    Healthy r jobs :=
  ⟨fun j' hj' => h.complete j' (List.mem_cons_of_mem j hj'), h.distinct.sublist
    ((List.Sublist.filterMap _ (List.sublist_cons_self j jobs)).append_left r.ids)⟩

theorem Healthy.register {r : Registry} {j : Job} {jobs : List Job} (h : Healthy r (j :: jobs))
    {m : MappedStatement} (hj : j.make r = .ok (some m)) :
    m.id ∉ r.ids ∧ Healthy (r.append [m]) jobs := by
  have hdist := h.distinct
  rw [List.filterMap_cons, Job.make_id hj] at hdist
  refine ⟨fun hm => (List.nodup_append.1 hdist).2.2 m.id hm m.id List.mem_cons_self rfl, ?_, ?_⟩
  · intro j' hj' e he
    exact h.tail.complete j' hj' e ((j'.make_append r [m]).symm.trans he)
  · simpa using hdist

theorem run_healthy (jobs : List Job) (r : Registry) (h : Healthy r jobs) :
    (Deferred.run r (jobs.map Job.deferred)).failure = none := by
  induction jobs generalizing r with
  | nil => rfl
  | cons j jobs ih =>
    rw [List.map_cons, Deferred.run, Job.attempt_deferred]
    cases hj : j.make r with
    | error e =>
      dsimp only
      rw [if_pos (h.complete j List.mem_cons_self e hj)]
      exact ih r h.tail
    | ok made =>
      cases made with
      | none => exact ih r h.tail
      | some m =>
        obtain ⟨hnew, hnext⟩ := h.register hj
        dsimp only
        rw [Registry.addStatement_of_new hnew]
        exact ih (r.append [m]) hnext

theorem Healthy.progress {r r' : Registry} {jobs kept : List Job} (h : Healthy r jobs)
    (hp : Progress r jobs r' kept) : Healthy r' kept := by
  obtain ⟨done, ms, rfl, hperm, hmade, -⟩ := hp
  refine ⟨?_, ?_⟩
  · intro j hj e he
    exact h.complete j (hperm.mem_iff.2 (List.mem_append_right done hj)) e
      ((j.make_append r ms).symm.trans he)
  · rw [Registry.ids_append, hmade.ids, List.append_assoc, ← List.filterMap_append]
    exact ((hperm.filterMap _).append_left r.ids).nodup_iff.1 h.distinct

namespace Configuration

variable {c c' : Configuration} {answer : Except MapperError Nat} {jobs : List Job} {n : Nat}

theorem run_split (hq : c.queue = jobs.map Job.deferred)
    (hfailure : (Deferred.run c.registry c.queue).failure = none) :
    ∃ kept : List Job,
      (after (Deferred.run c.registry c.queue)).queue = kept.map Job.deferred ∧
      Progress c.registry jobs (after (Deferred.run c.registry c.queue)).registry kept ∧
      ∀ j ∈ kept, ∃ e, j.make c.registry = .error e := by
  rw [hq] at hfailure ⊢
  exact run_progress jobs c.registry hfailure

theorem Resolves.progress (h : c.Resolves answer c') (hq : c.queue = jobs.map Job.deferred)
    (hanswer : answer = .ok n) :
    ∃ kept : List Job, c'.queue = kept.map Job.deferred ∧ n = kept.length ∧
      Progress c.registry jobs c'.registry kept ∧
      ∀ j ∈ kept, ∃ e, j.make c.registry = .error e := by
  induction h generalizing jobs with
  | failed => cases hanswer
  | settled hfailure =>
    cases hanswer
    obtain ⟨kept, hkept, hp, hk⟩ := run_split hq hfailure
    exact ⟨kept, hkept, (congrArg List.length hkept).trans (List.length_map _), hp, hk⟩
  | @again c c' answer hfailure _ _ ih =>
    obtain ⟨kept, hkept, hp, -⟩ := run_split hq hfailure
    obtain ⟨kept', hkept', hn, hp', hk'⟩ := ih hkept hanswer
    refine ⟨kept', hkept', hn, hp.trans hp', fun j hj => ?_⟩
    obtain ⟨done, ms, hr', -⟩ := hp
    obtain ⟨e, he⟩ := hk' j hj
    rw [hr'] at he
    exact ⟨e, (j.make_append c.registry ms).symm.trans he⟩

theorem Resolves.healthy (h : c.Resolves answer c') (hq : c.queue = jobs.map Job.deferred)
    (hjobs : Healthy c.registry jobs) : ∃ n, answer = .ok n := by
  induction h generalizing jobs with
  | @failed c e hfailure =>
    rw [hq, run_healthy jobs c.registry hjobs] at hfailure
    cases hfailure
  | settled => exact ⟨_, rfl⟩
  | again hfailure _ _ ih =>
    obtain ⟨kept, hkept, hp, -⟩ := run_split hq hfailure
    exact ih hkept (hjobs.progress hp)

/-- What stays in the queue lacks something. -/
theorem resolve_progress (hq : c.queue = jobs.map Job.deferred) (h : c.resolve = (.ok n, c')) :
    ∃ kept : List Job, c'.queue = kept.map Job.deferred ∧ n = kept.length ∧
      Progress c.registry jobs c'.registry kept ∧
      ∀ j ∈ kept, ∃ e, j.make c.registry = .error e := by
  have hres := c.resolves
  rw [h] at hres
  exact hres.progress hq rfl

theorem resolve_healthy (hq : c.queue = jobs.map Job.deferred) (h : Healthy c.registry jobs) :
    ∃ n c', c.resolve = (.ok n, c') := by
  obtain ⟨n, hn⟩ := c.resolves.healthy hq h
  exact ⟨n, c.resolve.2, Prod.ext hn rfl⟩

end Configuration

end MappedSql
