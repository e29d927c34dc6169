import Mathlib.Logic.Function.Basic
import MappedSql.Proofs.Session.Steps

/- Sessions that take turns.

   Any number of caching sessions share the caches of one shelf and whatever the
   executors below them have in common, such as the rows that are committed. Each has
   its own waiting writes, its own flag and its own part of the state below. A step is
   one request of one session; the others see of it what it changes on the shelf and
   in the common state. -/
namespace MappedSql

/-- What a caching session has to itself. -/
structure Private (σ : Type) where
  transaction : Transaction
  dirty : Bool
  inner : σ

/-- Sessions over caches and a state `ω` that they share. -/
structure Sessions (ι ω σ : Type) where
  shelf : Shelf
  common : ω
  own : ι → Private σ

namespace Sessions

variable {ι ω σ : Type}

/-- Sessions that have done nothing yet. -/
def start (shelf : Shelf) (common : ω) (inner : ι → σ) : Sessions ι ω σ :=
  ⟨shelf, common, fun i => ⟨[], false, inner i⟩⟩

/-- One of the sessions, with what it shares. -/
def session (w : Sessions ι ω σ) (i : ι) : Caching (ω × σ) :=
  ⟨w.shelf, (w.own i).transaction, (w.own i).dirty, w.common, (w.own i).inner⟩

variable [DecidableEq ι]

/-- The sessions after one of them has come to a new state. -/
def withSession (w : Sessions ι ω σ) (i : ι) (s : Caching (ω × σ)) : Sessions ι ω σ :=
  ⟨s.shelf, s.inner.1, Function.update w.own i ⟨s.transaction, s.dirty, s.inner.2⟩⟩

theorem own_withSession_of_ne (w : Sessions ι ω σ) {i j : ι} (h : j ≠ i) (s : Caching (ω × σ)) :
    (w.withSession i s).own j = w.own j := Function.update_of_ne h _ _

theorem own_withSession_self (w : Sessions ι ω σ) (i : ι) (s : Caching (ω × σ)) :
    (w.withSession i s).own i = ⟨s.transaction, s.dirty, s.inner.2⟩ := Function.update_self _ _ _

/-- The answer to a request of one session, and the sessions after it. -/
def step (e : Executor (ω × σ)) (autoCommit : ι → Bool) (w : Sessions ι ω σ) (i : ι)
    (r : Request) : Reply × Sessions ι ω σ :=
  let (reply, s) := (e.caching (autoCommit i)).serve r (w.session i)
  (reply, w.withSession i s)

/-- The sessions after the first requests of a schedule. -/
def run (e : Executor (ω × σ)) (autoCommit : ι → Bool) (w : Sessions ι ω σ)
    (schedule : Nat → ι × Request) : Nat → Sessions ι ω σ
  | 0 => w
  | n + 1 => ((run e autoCommit w schedule n).step e autoCommit (schedule n).1 (schedule n).2).2

end Sessions

end MappedSql
