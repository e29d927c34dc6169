import Mathlib
import MappedSql.Proofs.Mapper.Registering

/- What becomes of the statements that are declared.

   A declared statement is registered, waits or is an error, or else it is passed over. A
   statement for one database is passed over in a mapper of another, and a statement for
   any database is passed over while one of its id is registered (`Meets`). Over a whole
   sequence of declarations nothing else is lost: what is registered and what waits are
   the declarations that were not passed over, in their order, and a statement that kept
   one out was registered before (`Configuration.declareAll_accounted`). The registered
   statement need not be one for the database. So the second of two statements for any
   database is passed over without a word (`second_passed_over`), where the second of two
   statements for the database is an error. -/
namespace MappedSql

/-- A statement that is declared, and what its namespace has come to before it. -/
structure Declaration where
  ns : String
  /-- The cache that the namespace uses. -/
  cache : Option String
  /-- The namespace whose cache it is to use, if that one has none yet. -/
  awaited : Option String
  definition : StatementDefinition

namespace Declaration

/-- The registration of the namespace, up to the declaration. -/
def registration (d : Declaration) (c : Configuration) : Registration :=
  ⟨d.ns, d.cache, d.awaited, c⟩

/-- Where the statement gets its cache. -/
def source (d : Declaration) : CacheSource :=
  match d.awaited with
  | some ns => .awaited ns
  | none => .known d.cache

/-- What the statement is with what is registered. -/
def build (d : Declaration) (r : Registry) : Except MapperError MappedStatement :=
  d.definition.build d.ns d.source r

def job (d : Declaration) : Job := .statement d.ns d.source d.definition

/-- What becomes of a declaration. -/
inductive Fate where
  | registered (m : MappedStatement)
  | queued (gap : Gap)
  | refused (e : MapperError)
  /-- It is for another database. -/
  | foreign
  /-- It is for any database, and this statement has its id. -/
  | hidden (m : MappedStatement)

namespace Fate

/-- What the one who declares is told. -/
def answer : Fate → Except MapperError Resolution
  | .registered _ | .foreign | .hidden _ => .ok .resolved
  | .queued _ => .ok .pending
  | .refused e => .error e

/-- What is registered. -/
def statements : Fate → List MappedStatement
  | .registered m => [m]
  | _ => []

/-- What waits. -/
def jobs (d : Declaration) : Fate → List Job
  | .queued _ => [d.job]
  | _ => []

end Fate

/-- The fate of a declaration, told from what is registered before it. -/
inductive Meets (d : Declaration) (r : Registry) : Fate → Prop where
  | foreign (hs : d.definition.suits r.databaseId = false) : Meets d r .foreign
  | hidden {q : String} {m : MappedStatement} (hd : d.definition.databaseId = none)
    (hq : qualify d.ns d.definition.id = .ok q) (hm : r.statement? q = some m) :
    Meets d r (.hidden m)
  /-- It is for any database, and its id cannot be one of the namespace. -/
  | unnamed {e : MapperError} (hd : d.definition.databaseId = none)
    (hq : qualify d.ns d.definition.id = .error e) : Meets d r (.refused e)
  | queued {gap : Gap} (ht : d.definition.Turn d.ns r (.ok true))
    (hb : d.build r = .error (.incomplete gap)) : Meets d r (.queued gap)
  | faulty {e : MapperError} (ht : d.definition.Turn d.ns r (.ok true))
    (hb : d.build r = .error e) (he : e.isIncomplete = false) : Meets d r (.refused e)
  /-- It is for the database, and a statement of its id is registered. -/
  | duplicate {m : MappedStatement} (hd : d.definition.databaseId ≠ none)
    (hs : d.definition.suits r.databaseId = true) (hb : d.build r = .ok m) (hin : m.id ∈ r.ids) :
    Meets d r (.refused (.configuration (.duplicateStatement m.id)))
  | registered {m : MappedStatement} (ht : d.definition.Turn d.ns r (.ok true))
    (hb : d.build r = .ok m) (hnew : m.id ∉ r.ids) : Meets d r (.registered m)

/-- The fates of declarations that are made one after the other: each meets what is registered
before the first one and by those in front of it. -/
inductive Course : Registry → List Declaration → List Fate → Prop where
  | nil (r : Registry) : Course r [] []
  | cons {r : Registry} {d : Declaration} {ds : List Declaration} {f : Fate} {fs : List Fate}
    (h : d.Meets r f) (hs : Course (r.append f.statements) ds fs) : Course r (d :: ds) (f :: fs)

/-- What waits of declarations. -/
def waiting : List Declaration → List Fate → List Job
  | d :: ds, f :: fs => f.jobs d ++ waiting ds fs
  | _, _ => []

end Declaration

namespace Configuration

/-- The answer to a declaration, and the configuration after it. -/
def declare (c : Configuration) (d : Declaration) :
    Except MapperError Resolution × Configuration :=
  let (answer, g) := Register.outcome (Register.statement d.definition) (d.registration c)
  (answer, g.configuration)

/-- Declarations one after the other; one that is an error does not end the sequence. -/
def declareAll (c : Configuration) : List Declaration →
    List (Except MapperError Resolution) × Configuration
  | [] => ([], c)
  | d :: ds =>
    let (answer, c) := c.declare d
    let (answers, c) := c.declareAll ds
    (answer :: answers, c)

/-- With more statements and with more that waits. -/
def grow (c : Configuration) (ms : List MappedStatement) (js : List Job) : Configuration :=
  ⟨c.registry.append ms, c.queue ++ js.map Job.deferred⟩

@[simp] theorem grow_nil (c : Configuration) : c.grow [] [] = c := by simp [grow]

@[simp] theorem grow_grow (c : Configuration) (ms ms' : List MappedStatement)
    (js js' : List Job) : (c.grow ms js).grow ms' js' = c.grow (ms ++ ms') (js ++ js') := by
  simp [grow]

end Configuration

/-! ## One declaration -/

/-- The turn of a statement is what the mapper takes it for. -/
theorem StatementDefinition.Turn.applies {s : StatementDefinition} {ns : String} {r : Registry}
    {a : Except MapperError Bool} (h : s.Turn ns r a) : s.applies ns r = a := by
  unfold StatementDefinition.applies
  cases h with
  | other hs =>
    cases hd : s.databaseId with
    | none => simp [StatementDefinition.suits, hd] at hs
    | some required => simpa [StatementDefinition.suits, hd] using hs
  | unnamed e hd hq => rw [hd, hq]; rfl
  | known q hd hq hin =>
    rw [hd, hq]
    show Except.ok (!r.hasStatement q) = _
    rw [Registry.hasStatement_iff.2 hin]
    rfl
  | taken hs hn =>
    cases hd : s.databaseId with
    | some required => simpa [StatementDefinition.suits, hd] using hs
    | none =>
      obtain ⟨q, hq, hnew⟩ := hn hd
      have hfree : r.hasStatement q = false := by
        rw [← Bool.not_eq_true, Registry.hasStatement_iff]
        exact hnew
      rw [hq]
      show Except.ok (!r.hasStatement q) = _
      rw [hfree]
      rfl

namespace Declaration

variable {d : Declaration} {c : Configuration} {r : Registry} {f : Fate}

/-- What a declaration leaves, told from its turn. -/
theorem declare_eq {answer : Except MapperError Bool}
    (h : d.definition.Turn d.ns c.registry answer) :
    c.declare d = match answer with
      | .error e => (.error e, c)
      | .ok false => (.ok .resolved, c)
      | .ok true => match d.build c.registry with
        | .ok m => match c.registry.addStatement m with
          | .ok _ => (.ok .resolved, c.grow [m] [])
          | .error e => (.error e, c)
        | .error e =>
          if e.isIncomplete then (.ok .pending, c.grow [] [d.job]) else (.error e, c) := by
  have happlies : d.definition.applies (d.registration c).ns
      (d.registration c).configuration.registry = answer := h.applies
  have hattempt : d.definition.attempt (d.registration c).ns (d.registration c).source
      (d.registration c).configuration.registry = match d.build c.registry with
        | .ok m => match c.registry.addStatement m with
          | .ok r => .resolved r
          | .error e => .failed e c.registry
        | .error e => if e.isIncomplete then .waiting else .failed e c.registry := rfl
  rw [Configuration.declare, Register.outcome_statement, happlies, hattempt]
  cases answer with
  | error e => rfl
  | ok taken =>
    cases taken with
    | false => rfl
    | true =>
      dsimp only
      cases d.build c.registry with
      | error e =>
        cases he : e.isIncomplete with
        | false => simp only [he]; rfl
        | true =>
          simp only [he, Configuration.grow, Registry.append_nil]
          rfl
      | ok m =>
        dsimp only
        cases hm : c.registry.addStatement m with
        | error e => rfl
        | ok r' =>
          obtain ⟨-, rfl⟩ := Registry.addStatement_eq_ok hm
          simp only [Configuration.grow, List.map_nil, List.append_nil]
          rfl

/-- Every declaration meets a fate. -/
theorem exists_meets (d : Declaration) (r : Registry) : ∃ f, d.Meets r f := by
  have hturn := d.definition.turn d.ns r
  generalize d.definition.applies d.ns r = applies at hturn
  cases hturn with
  | other hs => exact ⟨_, .foreign hs⟩
  | unnamed e hd hq => exact ⟨_, .unnamed hd hq⟩
  | known q hd hq hin =>
    obtain ⟨m, hm⟩ := Option.isSome_iff_exists.1 (Registry.hasStatement_iff.2 hin)
    exact ⟨_, .hidden hd hq hm⟩
  | taken hs hn =>
    have ht := StatementDefinition.Turn.taken hs hn
    cases hb : d.build r with
    | error e =>
      cases e with
      | incomplete gap => exact ⟨_, .queued ht hb⟩
      | _ => exact ⟨_, .faulty ht hb rfl⟩
    | ok m =>
      by_cases hin : m.id ∈ r.ids
      · refine ⟨_, .duplicate (fun hd => ?_) hs hb hin⟩
        -- A statement for any database is taken with an id that is new.
        obtain ⟨q, hq, hnew⟩ := hn hd
        rw [StatementDefinition.build_id hb] at hq
        cases hq
        exact hnew hin
      · exact ⟨_, .registered ht hb hin⟩

/-- The fate tells the answer and what is registered or waits. -/
theorem Meets.declare (h : d.Meets c.registry f) :
    c.declare d = (f.answer, c.grow f.statements (f.jobs d)) := by
  cases h with
  | foreign hs =>
    rw [declare_eq (.other hs)]
    simp [Fate.answer, Fate.statements, Fate.jobs]
  | hidden hd hq hm =>
    have hin := Registry.hasStatement_iff.1 (Option.isSome_iff_exists.2 ⟨_, hm⟩)
    rw [declare_eq (.known _ hd hq hin)]
    simp [Fate.answer, Fate.statements, Fate.jobs]
  | unnamed hd hq =>
    rw [declare_eq (.unnamed _ hd hq)]
    simp [Fate.answer, Fate.statements, Fate.jobs]
  | queued ht hb =>
    rw [declare_eq ht, hb]
    rfl
  | faulty ht hb he =>
    rw [declare_eq ht, hb]
    simp [Fate.answer, Fate.statements, Fate.jobs, he]
  | duplicate hd hs hb hin =>
    rw [declare_eq (.taken hs fun hn => absurd hn hd), hb]
    simp only [Registry.addStatement, Registry.hasStatement_iff.2 hin]
    simp [Fate.answer, Fate.statements, Fate.jobs]
  | registered ht hb hnew =>
    rw [declare_eq ht, hb]
    simp only [Registry.addStatement_of_new hnew]
    rfl

/-- A statement that keeps a declaration out is registered. -/
theorem Meets.hidden_mem {m : MappedStatement} (h : d.Meets r (.hidden m)) :
    m ∈ r.statements := by
  cases h with
  | hidden hd hq hm => exact List.mem_of_find?_eq_some hm

/-! ## Declarations one after the other -/

theorem exists_course (ds : List Declaration) (r : Registry) : ∃ fs, Course r ds fs := by
  induction ds generalizing r with
  | nil => exact ⟨[], .nil r⟩
  | cons d ds ih =>
    obtain ⟨f, hf⟩ := d.exists_meets r
    obtain ⟨fs, hfs⟩ := ih (r.append f.statements)
    exact ⟨f :: fs, .cons hf hfs⟩

theorem Course.declareAll {ds : List Declaration} {fs : List Fate}
    (h : Course c.registry ds fs) :
    c.declareAll ds = (fs.map Fate.answer, c.grow (fs.flatMap Fate.statements) (waiting ds fs)) := by
  induction ds generalizing c fs with
  | nil =>
    cases h
    simp [Configuration.declareAll, waiting]
  | cons d ds ih =>
    cases h with
    | cons hf hs =>
      rename_i f fs
      have hrest := ih (c := c.grow f.statements (f.jobs d)) hs
      simp only [Configuration.declareAll, hf.declare, hrest, Configuration.grow_grow,
        List.map_cons, List.flatMap_cons, waiting]

/-- What keeps a declaration out was there at the start or comes of a declaration before it. -/
theorem Course.hidden_mem {ds : List Declaration} {fs before rest : List Fate}
    {m : MappedStatement} (h : Course r ds fs) (hfs : fs = before ++ .hidden m :: rest) :
    m ∈ r.statements ∨ .registered m ∈ before := by
  -- Of the fates before it only those that register something add to the registry.
  induction h generalizing before with
  | nil r => simp at hfs
  | @cons r d ds f fs hf hs ih =>
    cases before with
    | nil =>
      cases hfs
      exact .inl hf.hidden_mem
    | cons g before =>
      cases hfs
      rcases ih rfl with hm | hm
      · rcases List.mem_append.1 hm with hm | hm
        · exact .inl hm
        · cases f with
          | registered m' =>
            rw [List.mem_singleton.1 hm]
            exact .inr List.mem_cons_self
          | _ => cases hm
      · exact .inr (List.mem_cons_of_mem _ hm)

end Declaration

/-- Declarations are accounted for: each meets its fate and is answered accordingly, and the
configuration has grown by what they register and by what of them waits. What keeps a declaration
out is registered at the start or by a declaration before it. -/
theorem Configuration.declareAll_accounted (c : Configuration) (ds : List Declaration) :
    ∃ fates, Declaration.Course c.registry ds fates ∧
      c.declareAll ds = (fates.map Declaration.Fate.answer,
        c.grow (fates.flatMap Declaration.Fate.statements) (Declaration.waiting ds fates)) ∧
      ∀ before m rest, fates = before ++ .hidden m :: rest →
        m ∈ c.registry.statements ∨ .registered m ∈ before := by
  obtain ⟨fates, h⟩ := Declaration.exists_course ds c.registry
  exact ⟨fates, h, h.declareAll, fun _ _ _ hfates => h.hidden_mem hfates⟩

namespace Declaration

/-- A select for a database or for any. -/
def select (databaseId : Option String) (script : String) : Declaration :=
  ⟨"a", none, none, ⟨"all", .select, script, .prepared, none, none, none, databaseId⟩⟩

/-- The answers to two declarations of one id, for a database or for any, and the configuration
after them. -/
def twice (databaseId : Option String) : List (Except MapperError Resolution) × Configuration :=
  (Configuration.empty { Settings.standard with databaseId := some "pg" }).declareAll
    [select databaseId "x", select databaseId "y"]

/-- Of two statements for any database the second is passed over while no statement for the
database is registered; it does not wait and is no error. Of two statements for the database the
second is an error. -/
theorem second_passed_over :
    (twice none).1 = [.ok .resolved, .ok .resolved] ∧ (twice none).2.pending = [] ∧
    (twice none).2.registry.statements.map (fun m => (m.id, m.databaseId, m.source)) =
      [("a.all", none, .fixed ⟨"x", []⟩)] ∧
    (twice (some "pg")).1 =
      [.ok .resolved, .error (.configuration (.duplicateStatement "a.all"))] :=
  ⟨by cbv, by cbv, by cbv, by cbv⟩

end Declaration

end MappedSql
