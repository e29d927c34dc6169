import MappedSql.Mapper.Registry

/- Elements of a configuration that wait for others.

   An element that refers to something not registered yet waits in a queue. The queue
   is run through again and again until a run resolves nothing. In a run each element
   is tried in its turn against what the ones before it have registered. Those that
   still wait keep their order, and what the others have queued comes behind them. An
   element that fails leaves the queue and ends the run.

   The runs come to an end: each but the last takes an element out of the queue for
   good, and what an element may queue in its place is part of the element. -/
namespace MappedSql

/-- The outcome of trying an element. -/
inductive Verdict where
  | waiting
  | resolved (r : Registry)
  | failed (e : MapperError) (r : Registry)

/-- An element that waits, with the elements that are queued once it does not wait any more. -/
inductive Deferred where
  | mk (name : String) (attempt : Registry → Verdict) (follow : List Deferred)

namespace Deferred

def name : Deferred → String
  | .mk name _ _ => name

def attempt : Deferred → Registry → Verdict
  | .mk _ attempt _ => attempt

/-- What is queued once the element does not wait any more. -/
def follow : Deferred → List Deferred
  | .mk _ _ follow => follow

mutual

def weight : Deferred → Nat
  | .mk _ _ follow => weights follow + 1

def weights : List Deferred → Nat
  | [] => 0
  | d :: rest => weight d + weights rest

end

theorem weight_eq (d : Deferred) : d.weight = weights d.follow + 1 := by
  cases d
  simp [weight, follow]

theorem weights_append (ds es : List Deferred) : weights (ds ++ es) = weights ds + weights es := by
  induction ds with
  | nil => simp [weights]
  | cons d rest ih => simp [weights, ih]; omega

/-- The outcome of a run through the queue. -/
structure Run where
  registry : Registry
  /-- The elements that still wait, those after a failure included. -/
  kept : List Deferred
  /-- The elements that were queued in this run. -/
  added : List Deferred
  resolved : Nat
  failure : Option MapperError

def run (r : Registry) : List Deferred → Run
  | [] => ⟨r, [], [], 0, none⟩
  | d :: rest =>
    match d.attempt r with
    | .waiting =>
      let next := run r rest
      { next with kept := d :: next.kept }
    | .resolved r =>
      let next := run r rest
      { next with added := d.follow ++ next.added, resolved := next.resolved + 1 }
    | .failed e r => ⟨r, rest, d.follow, 0, some e⟩

def Run.queue (o : Run) : List Deferred := o.kept ++ o.added

/-- A run takes the elements it resolves out of the queue for good. -/
theorem weights_run (r : Registry) (queue : List Deferred) :
    weights (run r queue).queue + (run r queue).resolved ≤ weights queue := by
  induction queue generalizing r with
  | nil => simp [run, Run.queue, weights]
  | cons d rest ih =>
    unfold run
    split
    · have := ih r
      simp only [Run.queue, List.cons_append, weights] at this ⊢
      omega
    · next r' _ =>
      have := ih r'
      simp only [Run.queue, weights_append, weights, weight_eq d] at this ⊢
      omega
    · simp only [Run.queue, weights_append, weights, weight_eq d]
      omega

end Deferred

/-- What is registered and what still waits. -/
structure Configuration where
  registry : Registry
  queue : List Deferred

namespace Configuration

def empty (settings : Settings) : Configuration := ⟨.empty settings, []⟩

/-- With an element at the end of the queue. -/
def defer (c : Configuration) (d : Deferred) : Configuration := { c with queue := c.queue ++ [d] }

def pending (c : Configuration) : List String := c.queue.map (·.name)

def after (o : Deferred.Run) : Configuration := ⟨o.registry, o.queue⟩

/-- Runs through the queue until nothing more is resolved; the answer is the number of elements
that still wait. -/
def resolve (c : Configuration) : Except MapperError Nat × Configuration :=
  let o := Deferred.run c.registry c.queue
  match o.failure with
  | some e => (.error e, after o)
  | none =>
    if o.resolved = 0 then (.ok o.queue.length, after o)
    else resolve (after o)
termination_by Deferred.weights c.queue
decreasing_by
  have : Deferred.weights o.queue + o.resolved ≤ Deferred.weights c.queue :=
    Deferred.weights_run c.registry c.queue
  show Deferred.weights o.queue < Deferred.weights c.queue
  omega

/-- How resolving goes from a configuration to its answer and what is left: runs that resolve
something, and a last one that fails or resolves nothing. -/
inductive Resolves : Configuration → Except MapperError Nat → Configuration → Prop
  | failed {c : Configuration} {e : MapperError}
      (hfailure : (Deferred.run c.registry c.queue).failure = some e) :
      Resolves c (.error e) (after (Deferred.run c.registry c.queue))
  | settled {c : Configuration} (hfailure : (Deferred.run c.registry c.queue).failure = none)
      (hresolved : (Deferred.run c.registry c.queue).resolved = 0) :
      Resolves c (.ok (Deferred.run c.registry c.queue).queue.length)
        (after (Deferred.run c.registry c.queue))
  | again {c c' : Configuration} {answer : Except MapperError Nat}
      (hfailure : (Deferred.run c.registry c.queue).failure = none)
      (hresolved : (Deferred.run c.registry c.queue).resolved ≠ 0)
      (hrest : Resolves (after (Deferred.run c.registry c.queue)) answer c') :
      Resolves c answer c'

theorem resolves (c : Configuration) : c.Resolves c.resolve.1 c.resolve.2 := by
  induction c using resolve.induct with
  | case1 c o e hfailure =>
    rw [resolve, hfailure]
    exact .failed hfailure
  | case2 c o hfailure hresolved =>
    rw [resolve, hfailure]
    dsimp only
    rw [if_pos hresolved]
    exact .settled hfailure hresolved
  | case3 c o hfailure hresolved ih =>
    rw [resolve, hfailure]
    dsimp only
    rw [if_neg hresolved]
    exact .again hfailure hresolved ih

/-- Resolves what can be resolved; it is an error if anything still waits. -/
def finish (c : Configuration) : Except MapperError Unit × Configuration :=
  match c.resolve with
  | (.error e, c) => (.error e, c)
  | (.ok n, c) =>
    if n = 0 then (.ok (), c) else (.error (.configuration (.unresolved c.pending)), c)

end Configuration

end MappedSql
