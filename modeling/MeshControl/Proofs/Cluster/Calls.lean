import MeshControl.Cluster.Store
import MeshControl.Proofs.Steps

/-! What each call to the in-memory cluster writes in its log and does to the objects it holds. -/

namespace MeshControl

/-- Keys compare equal exactly when they are the same key. -/
@[simp] theorem ResourceKey.compareKeys_eq_iff {a b : ResourceKey} :
    ResourceKey.compareKeys a b = .eq ↔ a = b := by
  -- Each of the five fields compares equal only to itself.
  cases a
  cases b
  simp [ResourceKey.compareKeys, Ordering.then_eq_eq]

namespace Store

/-- No injected failure has calls left, so the cluster answers every call by its own logic. -/
def Quiet (s : Store) : Prop := ∀ f ∈ s.failures, f.remaining = some 0

instance (s : Store) : Decidable s.Quiet :=
  inferInstanceAs (Decidable (∀ f ∈ s.failures, f.remaining = some 0))

/-- The store with one more call in its log. -/
def log (s : Store) (op : Op) : Store := { s with ops := s.ops ++ [op] }

@[simp] theorem log_ops (s : Store) (op : Op) : (s.log op).ops = s.ops ++ [op] := rfl

@[simp] theorem log_objects (s : Store) (op : Op) : (s.log op).objects = s.objects := rfl

@[simp] theorem log_failures (s : Store) (op : Op) : (s.log op).failures = s.failures := rfl

@[simp] theorem lookup_log (s : Store) (op : Op) (k : ResourceKey) :
    (s.log op).lookup k = s.lookup k := rfl

@[simp] theorem contains_log (s : Store) (op : Op) (k : ResourceKey) :
    (s.log op).contains k = s.contains k := rfl

/-- Storing under a key puts the new object before every other entry of that key. -/
theorem lookup_put_go (key : ResourceKey) (o : Object) (entries : List (ResourceKey × Object)) :
    ((put.go key o entries).find? (·.1 == key)).map (·.2) = some o := by
  -- The walk passes over keys that sort before `key`, none of which is `key` itself.
  induction entries with
  | nil => simp [put.go]
  | cons entry rest ih =>
    obtain ⟨k, x⟩ := entry
    simp only [put.go]
    -- The key goes in before a later key, replaces an equal one, or goes further down.
    split
    · simp
    · simp
    · rename_i after
      have other : (k == key) = false := by
        simp only [beq_eq_false_iff_ne]
        rintro rfl
        rw [ResourceKey.compareKeys_eq_iff.mpr rfl] at after
        cases after
      simp [other, ih]

/-- An object stored under a key is what a lookup of that key finds. -/
@[simp] theorem lookup_put_self (s : Store) (key : ResourceKey) (o : Object) :
    (s.put key o).lookup key = some o :=
  lookup_put_go key o s.objects

/-- Storing keeps every key that was there, and adds its own. -/
theorem contains_put_go (key : ResourceKey) (o : Object) (entries : List (ResourceKey × Object))
    (k : ResourceKey) :
    ((put.go key o entries).find? (·.1 == k)).isSome =
      (k == key || (entries.find? (·.1 == k)).isSome) := by
  -- A replaced entry has the stored key itself, so no other key is lost.
  induction entries with
  | nil =>
    by_cases same : k = key
    · subst same
      simp [put.go]
    · simp [put.go, same, Ne.symm same]
  | cons entry rest ih =>
    obtain ⟨k', x⟩ := entry
    simp only [put.go]
    by_cases same : k = key
    · subst same
      -- The stored key itself is found wherever it goes.
      split <;> simp_all
    -- For another key, the entry it meets is kept, replaced under the stored key, or passed.
    · split
      · simp [same, Ne.symm same]
      · rename_i equal
        have replaced := ResourceKey.compareKeys_eq_iff.mp equal
        subst replaced
        simp [same, Ne.symm same]
      · by_cases again : k' = k <;> simp [again, ih]

@[simp] theorem contains_put (s : Store) (key : ResourceKey) (o : Object) (k : ResourceKey) :
    (s.put key o).contains k = (k == key || s.contains k) := by
  simpa [contains, lookup, put] using contains_put_go key o s.objects k

@[simp] theorem contains_remove (s : Store) (key k : ResourceKey) :
    (s.remove key).contains k = (k != key && s.contains k) := by
  -- Only the entries of the removed key are filtered out.
  simp only [contains, lookup, remove, Option.isSome_map]
  induction s.objects with
  | nil => simp
  | cons entry rest ih =>
    obtain ⟨k', x⟩ := entry
    -- The head is dropped only under the removed key.
    by_cases drop : k' = key <;> by_cases hit : k' = k <;> simp_all

@[simp] theorem put_ops (s : Store) (key : ResourceKey) (o : Object) : (s.put key o).ops = s.ops := rfl

@[simp] theorem put_failures (s : Store) (key : ResourceKey) (o : Object) :
    (s.put key o).failures = s.failures := rfl

@[simp] theorem remove_ops (s : Store) (key : ResourceKey) : (s.remove key).ops = s.ops := rfl

@[simp] theorem remove_failures (s : Store) (key : ResourceKey) :
    (s.remove key).failures = s.failures := rfl

end Store

/-- A quiet cluster injects no failure into any call. -/
theorem findFailure_quiet {s : Store} (quiet : s.Quiet) (verb : Verb) (name : String) :
    findFailure s.failures verb name = none := by
  -- Every injected failure is used up, so the search passes over each of them.
  suffices spent : ∀ (fs : List Injected) (i : Nat), (∀ f ∈ fs, f.remaining = some 0) →
      findFailure.go verb name i fs = none from spent _ 0 quiet
  intro fs
  induction fs with
  | nil => intro _ _; rfl
  | cons f rest ih =>
    intro i used
    -- This failure is used up, so the search goes on past it.
    have here : f.remaining = some 0 := used f (by simp)
    simp [findFailure.go, here, ih (i + 1) (fun g member => used g (by simp [member]))]

/-- A call is recorded, then fails if an injected failure with calls left matches it. -/
theorem record_run (verb : Verb) (key : ResourceKey) (p : Option Propagation) (s : Store) :
    (record verb key p).run s =
      match findFailure s.failures verb key.name with
      | none => .ok () (s.log ⟨verb, key, p⟩)
      | some (i, f) => .error (f.failure.toError key.name)
          { s.log ⟨verb, key, p⟩ with
            failures := s.failures.set i { f with remaining := f.remaining.map (· - 1) } } := by
  show record verb key p s = _
  unfold record
  simp only [bind, EStateM.bind, get, getThe, MonadStateOf.get, EStateM.get]
  -- Either no injected failure matches, or the first one that does is used up by one call.
  cases findFailure s.failures verb key.name with
  | none => rfl
  | some hit =>
    obtain ⟨i, f⟩ := hit
    rfl

/-- A call is logged before anything else happens, whatever the cluster answers. -/
theorem record_logged (verb : Verb) (key : ResourceKey) (p : Option Propagation) :
    Keeps (fun s s' => s'.ops = s.ops ++ [⟨verb, key, p⟩]) (record verb key p) := by
  intro s
  show (endState ((record verb key p).run s)).ops = _
  rw [record_run]
  -- The call is logged whether or not it fails.
  split
  · rfl
  · rfl

/-- On a quiet cluster a call is only recorded. -/
theorem record_quiet {s : Store} (quiet : s.Quiet) (verb : Verb) (key : ResourceKey)
    (p : Option Propagation) : (record verb key p).run s = .ok () (s.log ⟨verb, key, p⟩) := by
  rw [record_run, findFailure_quiet quiet]

namespace Store

/-- What a call that deletes nothing does to a cluster: it adds calls other than deletions to the
log, keeps every key it held, and leaves a quiet cluster quiet. -/
structure Grows (s s' : Store) : Prop where
  log : ∃ calls, s'.ops = s.ops ++ calls ∧ ∀ op ∈ calls, op.verb ≠ .delete
  present : ∀ k, s.contains k → s'.contains k
  quiet : s.Quiet → s'.Quiet

theorem Grows.refl (s : Store) : Grows s s := ⟨⟨[], by simp, by simp⟩, fun _ held => held, id⟩

theorem Grows.trans {s₁ s₂ s₃ : Store} (first : Grows s₁ s₂) (second : Grows s₂ s₃) :
    Grows s₁ s₃ := by
  obtain ⟨calls₁, logged₁, kinds₁⟩ := first.log
  obtain ⟨calls₂, logged₂, kinds₂⟩ := second.log
  refine ⟨⟨calls₁ ++ calls₂, by rw [logged₂, logged₁, List.append_assoc], ?_⟩,
    fun k held => second.present k (first.present k held), fun quiet => second.quiet (first.quiet quiet)⟩
  -- Calls of either run are not deletions.
  intro op member
  rcases List.mem_append.mp member with early | late
  · exact kinds₁ op early
  · exact kinds₂ op late

instance : IsPreorder Store Grows where
  refl := Grows.refl
  trans _ _ _ := Grows.trans

/-- Recording a call that is not a deletion makes the cluster grow. -/
theorem Grows.log_of {s : Store} {op : Op} (other : op.verb ≠ .delete) : Grows s (s.log op) :=
  ⟨⟨[op], rfl, by simpa using other⟩, fun _ held => held, id⟩

/-- Storing an object makes the cluster grow. -/
theorem Grows.put_of (s : Store) (key : ResourceKey) (o : Object) : Grows s (s.put key o) :=
  ⟨⟨[], by simp, by simp⟩, fun k held => by simp [held], id⟩

end Store

/-- A plain computation changes nothing of the cluster. -/
theorem StoreM.ofExcept_keeps {R : Store → Store → Prop} [IsPreorder Store R] (x : Except Error α) :
    Keeps R (StoreM.ofExcept x) := by
  -- Neither a failure nor a value touches the cluster.
  cases x
  · exact Keeps.throw _
  · exact Keeps.pure _

/-- Reading a stored object changes nothing of the cluster. -/
theorem stored_keeps {R : Store → Store → Prop} [IsPreorder Store R] (key : ResourceKey) :
    Keeps R (stored key) := by
  intro s
  show R s (endState (stored key s))
  unfold stored
  simp only [bind, EStateM.bind, get, getThe, MonadStateOf.get, EStateM.get]
  -- Found or not, the read leaves the state alone.
  cases s.lookup key <;> exact refl_of R s

/-- Handing out a version number changes only the counter. -/
theorem nextVersion_grows : Keeps Store.Grows nextVersion :=
  fun s => ⟨⟨[], by simp [nextVersion, EStateM.run, bind, EStateM.bind, get, getThe,
    MonadStateOf.get, EStateM.get, set, EStateM.set]; rfl, by simp⟩, fun _ held => held, id⟩

/-- A recorded call that is not a deletion makes the cluster grow, failed or not. -/
theorem record_grows {verb : Verb} (other : verb ≠ .delete) (key : ResourceKey)
    (p : Option Propagation) : Keeps Store.Grows (record verb key p) := by
  intro s
  rw [record_run]
  have logged : Store.Grows s (s.log ⟨verb, key, p⟩) := Store.Grows.log_of other
  cases found : findFailure s.failures verb key.name with
  | none => exact logged
  | some hit =>
    -- A failure fired, which a quiet cluster never does.
    refine ⟨logged.log, logged.present, fun quiet => ?_⟩
    simp [findFailure_quiet quiet] at found

/-- Storing under a key after the next version makes the cluster grow. -/
theorem putVersioned_grows (key : ResourceKey) (make : String → Object) :
    Keeps Store.Grows (nextVersion >>= fun v => modify (·.put key (make v)) >>= fun _ =>
      (pure (make v) : StoreM Object)) :=
  Keeps.bind nextVersion_grows fun _ =>
    Keeps.bind (Keeps.modify fun s => Store.Grows.put_of s key _) fun _ => Keeps.pure _

theorem getObject_grows (key : ResourceKey) : Keeps Store.Grows (getObject key) :=
  Keeps.bind (record_grows (by decide) key none) fun _ => stored_keeps key

theorem createObject_grows (o : Object) : Keeps Store.Grows (createObject o) := by
  unfold createObject
  refine Keeps.bind (StoreM.ofExcept_keeps _) fun key => ?_
  refine Keeps.bind (record_grows (by decide) key none) fun _ => ?_
  refine Keeps.bind Keeps.get fun current => ?_
  -- An existing key refuses the call; otherwise the object goes in with the next version.
  dsimp only
  split
  · exact Keeps.bind (Keeps.throw _) fun _ => putVersioned_grows key _
  · exact putVersioned_grows key _

theorem updateObject_grows (o : Object) : Keeps Store.Grows (updateObject o) := by
  unfold updateObject
  refine Keeps.bind (StoreM.ofExcept_keeps _) fun key => ?_
  refine Keeps.bind (record_grows (by decide) key none) fun _ => ?_
  refine Keeps.bind (stored_keeps key) fun current => ?_
  -- A stale version refuses the call; otherwise the object goes in with the next version.
  dsimp only
  split
  · exact Keeps.bind (Keeps.throw _) fun _ => putVersioned_grows key _
  · exact putVersioned_grows key _

theorem patchObject_grows (key : ResourceKey) (patch : Json) :
    Keeps Store.Grows (patchObject key patch) := by
  unfold patchObject
  refine Keeps.bind (record_grows (by decide) key none) fun _ => ?_
  refine Keeps.bind (stored_keeps key) fun current => ?_
  exact Keeps.bind (StoreM.ofExcept_keeps _) fun _ => putVersioned_grows key _

theorem patchObjectStatus_grows (key : ResourceKey) (patch : Json) :
    Keeps Store.Grows (patchObjectStatus key patch) := by
  unfold patchObjectStatus
  refine Keeps.bind (record_grows (by decide) key none) fun _ => ?_
  refine Keeps.bind (stored_keeps key) fun current => ?_
  exact Keeps.bind (StoreM.ofExcept_keeps _) fun _ => putVersioned_grows key _

/-- On a quiet cluster a deletion is recorded, then drops the object or finds none. -/
theorem deleteObject_quiet {s : Store} (quiet : s.Quiet) (key : ResourceKey)
    (p : Option Propagation) :
    (deleteObject key p).run s =
      if s.contains key then .ok () ((s.log ⟨.delete, key, p⟩).remove key)
      else .error (.notFound key.render) (s.log ⟨.delete, key, p⟩) := by
  show deleteObject key p s = _
  unfold deleteObject
  simp only [bind, EStateM.bind]
  rw [show record .delete key p s = _ from record_quiet quiet .delete key p]
  simp only [get, getThe, MonadStateOf.get, EStateM.get]
  -- The recorded call leaves the objects as they were, so the key is held or not as before.
  split
  · rename_i held
    rw [if_pos (show s.contains key = true from held)]
    rfl
  · rename_i held
    rw [if_neg (show ¬s.contains key = true from held)]
    rfl

end MeshControl
