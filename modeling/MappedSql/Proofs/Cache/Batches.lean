import MappedSql.Proofs.Cache.Replacement

/- A batch against its operations one by one.

   A layer that counts and one that locks pass a batch on as a whole, every other layer
   takes it as a clear and puts. (A lock keeps others out meanwhile, which leaves no trace
   in the cache.) Whichever layers a cache has, the batch leaves it as the
   clear and the puts would (`writeBatch_of_accepted`): all the layers with their entries,
   their orders and their counts. For this the puts must be accepted, since a layer that
   counts has counted the whole batch before a put in it is refused. Only a guard refuses
   puts, and a cache without guards accepts all (`Unguarded.put_accepted`). -/
namespace MappedSql.Cache

variable {c inner : Cache} {clears : Bool} {es : List (Key × Value)}

/-! ## Layers that pass a batch on -/

theorem passes_locked : Passes .locked where
  put c k v := by rw [put]
  get c k := by rw [get]
  remove c k := by rw [remove]
  clear c := rfl
  size c := by rw [size]

theorem Tally.countPuts_countPuts (t : Tally) (m n : Nat) :
    (t.countPuts m).countPuts n = t.countPuts (m + n) := by
  simp [Tally.countPuts, Nat.add_assoc]

theorem putAll_cons (c : Cache) (e : Key × Value) (rest : List (Key × Value)) :
    c.putAll (e :: rest) = match (c.put e.1 e.2).1 with
      | .ok () => (c.put e.1 e.2).2.putAll rest
      | .error err => (.error err, (c.put e.1 e.2).2) := by
  rw [putAll]
  rcases c.put e.1 e.2 with ⟨_ | _, d⟩ <;> rfl

/-- A layer that counts puts, when all of them are accepted. -/
theorem putAll_counted (t : Tally) (e : Bool)
    (h : ((counted t e inner).putAll es).1 = .ok ()) :
    (inner.putAll es).1 = .ok () ∧ (counted t e inner).putAll es =
      (.ok (), counted (t.countPuts es.length) e (inner.putAll es).2) := by
  induction es generalizing t inner with
  | nil => exact ⟨rfl, rfl⟩
  | cons entry rest ih =>
    have hput : (counted t e inner).put entry.1 entry.2 = ((inner.put entry.1 entry.2).1,
        counted (t.countPuts 1) e (inner.put entry.1 entry.2).2) := by rw [put]
    rw [putAll_cons, hput] at h
    rw [putAll_cons, putAll_cons, hput]
    cases hanswer : (inner.put entry.1 entry.2).1 with
    | error err =>
      rw [hanswer] at h
      cases h
    | ok u =>
      rw [hanswer] at h
      obtain ⟨hinner, hrest⟩ := ih (t.countPuts 1) h
      refine ⟨hinner, ?_⟩
      dsimp only
      rw [hrest, Tally.countPuts_countPuts, List.length_cons, Nat.add_comm]

/-- A batch whose puts are accepted is a clear, if there is to be one, and the puts. -/
theorem writeBatch_of_accepted (h : (c.writeAll clears es).1 = .ok ()) :
    c.writeBatch clears es = c.writeAll clears es := by
  -- On the layers: the two that pass the batch on need it of the layers below, to which the
  -- same puts come and are accepted; the others clear and put themselves.
  induction c with
  | counted t e inner ih =>
    have hclear : (if clears then (counted t e inner).clear else counted t e inner) =
        counted (if clears then t.countClear else t) e (if clears then inner.clear else inner) := by
      cases clears <;> rfl
    rw [writeAll, hclear] at h ⊢
    obtain ⟨hinner, hputs⟩ := putAll_counted _ e h
    rw [hputs, writeBatch, ih hinner]
    exact Prod.ext hinner rfl
  | locked inner ih =>
    rw [passes_locked.writeAll] at h ⊢
    rw [writeBatch, ih h]
  | _ => rfl

/-! ## Puts that are accepted -/

/-- Whether no layer of a cache refuses puts. -/
def Unguarded : Cache → Prop
  | .store _ _ => True
  | .leastRecent _ _ _ inner => inner.Unguarded
  | .firstIn _ _ _ inner => inner.Unguarded
  | .timed _ inner => inner.Unguarded
  | .snapshots inner => inner.Unguarded
  | .counted _ _ inner => inner.Unguarded
  | .locked inner => inner.Unguarded
  | .guarded _ _ _ => False

theorem unguarded_frame (c : Cache) : c.frame.Unguarded ↔ c.Unguarded := by
  induction c <;> simp_all [frame, Unguarded]

theorem Unguarded.congr {d : Cache} (h : c.Unguarded) (hf : d.frame = c.frame) :
    d.Unguarded := by
  rwa [← unguarded_frame, hf, unguarded_frame]

theorem Unguarded.put_accepted {c : Cache} (h : c.Unguarded) (k : Key) (v : Value) :
    (c.put k v).1 = .ok () := by
  -- Not on the cache itself: two layers change what is below them before they put into it, which
  -- keeps the number of layers and that none of them is a guard.
  match c with
  | .store id es => rw [put]
  | .leastRecent cap keys n inner =>
    obtain ⟨keys', n', eldest?, hput⟩ := put_leastRecent k v cap keys n inner
    rw [hput]
    exact put_accepted (c := inner) h k v
  | .firstIn cap keys n inner =>
    obtain ⟨keys', n', eldest?, hput⟩ := put_firstIn k v cap keys n inner
    have hinner : (inner.evicted eldest?).Unguarded :=
      Unguarded.congr (c := inner) h (frame_evicted inner eldest?)
    rw [hput]
    exact put_accepted hinner k v
  | .timed i inner =>
    have hinner : (inner.elapse i).Unguarded :=
      Unguarded.congr (c := inner) h (frame_elapse i inner)
    rw [put]
    exact put_accepted hinner k v
  | .snapshots inner =>
    rw [put]
    exact put_accepted (c := inner) h k _
  | .counted t e inner =>
    rw [put]
    exact put_accepted (c := inner) h k v
  | .locked inner =>
    rw [put]
    exact put_accepted (c := inner) h k v
  | .guarded reason n inner => cases h
termination_by c.layers
decreasing_by all_goals simp [layers]

/-! ## One by one -/

/-- The operations of a batch. -/
def singly (clears : Bool) (es : List (Key × Value)) : List Operation :=
  (if clears then [.clear] else []) ++ es.map fun e => .put e.1 e.2

/-- The answers to the operations of a batch when none is refused. -/
def accepted (clears : Bool) (es : List (Key × Value)) : List Answer :=
  (if clears then [.cleared] else []) ++ es.map fun _ => .written (.ok ())

/-- A cache without guards accepts puts one after the other. -/
theorem Unguarded.putAll (h : c.Unguarded) (es : List (Key × Value)) :
    c.putAll es = (.ok (), c.after (singly false es)) ∧
      c.answers (singly false es) = accepted false es := by
  induction es generalizing c with
  | nil => exact ⟨rfl, rfl⟩
  | cons e rest ih =>
    have hput := h.put_accepted e.1 e.2
    obtain ⟨hafter, hanswers⟩ := ih (h.congr (frame_put e.1 e.2 c))
    refine ⟨?_, ?_⟩
    · rw [putAll_cons, hput]
      exact hafter
    · show Answer.written (c.put e.1 e.2).1 :: (c.put e.1 e.2).2.answers (singly false rest) = _
      rw [hput, hanswers]
      rfl

/-- A cache with a layer of each kind, in which a bound is full. -/
def deep : Cache :=
  .counted .zero true (.locked (.leastRecent 1 [named "old"] 0 (.snapshots (.timed 60000
    (.counted .zero false (.firstIn 2 [named "old"] 0 (.store "c" [(named "old", .str "1")])))))))

end MappedSql.Cache
