import MeshControl.Proofs.Cluster.Calls

/-! Objects stored under the keys they name: a read gives back an object of the key it asked
for, and a run confined to some calls and keys logs, changes and spends only those. -/

namespace MeshControl

namespace Object

@[simp] theorem key_setField (o : Object) (name : String) (value : Json) :
    (o.setField name value).key = o.key := rfl

/-- Changing metadata other than the name and the namespace keeps the key. -/
theorem key_withMeta (o : Object) {f : ObjectMeta → ObjectMeta}
    (name : (f o.metadata).name = o.metadata.name) (ns : (f o.metadata).ns = o.metadata.ns) :
    (o.withMeta f).key = o.key := by
  simp only [Object.key, Object.withMeta, Object.ns, name, ns]

/-- The finalizers of an object, none when unset. -/
def finalizerList (o : Object) : List String := o.metadata.finalizers.getD []

end Object

namespace Store

/-- Storing under a key leaves the objects of every other key where they were. -/
theorem lookup_put_of_ne (s : Store) (key : ResourceKey) (o : Object) {k : ResourceKey}
    (other : k ≠ key) : (s.put key o).lookup k = s.lookup k := by
  have skip : (key == k) = false := by simpa using Ne.symm other
  simp only [lookup, put]
  -- The walk inserts before, replaces, or passes over each entry; none of them is `k`'s but
  -- the ones it keeps.
  induction s.objects with
  | nil => simp [put.go, skip]
  | cons entry rest ih =>
    obtain ⟨k', x⟩ := entry
    simp only [put.go]
    split
    · simp [skip]
    · rename_i equal
      have replaced := ResourceKey.compareKeys_eq_iff.mp equal
      subst replaced
      simp [skip]
    · by_cases here : k' = k
      · simp [here]
      · simp [here, ih]

@[simp] theorem lookup_remove_self (s : Store) (key : ResourceKey) : (s.remove key).lookup key = none := by
  simp only [lookup, remove, Option.map_eq_none_iff, List.find?_eq_none]
  intro entry member
  simp only [List.mem_filter, bne_iff_ne, ne_eq] at member
  simpa using member.2

/-- Removing a key leaves the objects of every other key where they were. -/
theorem lookup_remove_of_ne (s : Store) (key : ResourceKey) {k : ResourceKey} (other : k ≠ key) :
    (s.remove key).lookup k = s.lookup k := by
  simp only [lookup, remove, List.find?_filter]
  -- The entries filtered out are of `key`, which a search for `k` passes over anyway.
  congr 1
  refine List.find?_congr fun entry _ => ?_
  by_cases here : entry.1 = k
  · simp [here, other]
  · simp [here]

/-- Every object is stored under the key it names. -/
def WellKeyed (s : Store) : Prop := ∀ k o, s.lookup k = some o → o.key = .ok k

namespace WellKeyed

variable {s : Store}

theorem put (keyed : s.WellKeyed) {key : ResourceKey} {o : Object} (named : o.key = .ok key) :
    (s.put key o).WellKeyed := by
  intro k o' found
  -- The new entry names its own key; every other entry is as it was.
  by_cases here : k = key
  · subst here
    rw [lookup_put_self, Option.some.injEq] at found
    exact found ▸ named
  · rw [lookup_put_of_ne s key o here] at found
    exact keyed k o' found

theorem remove (keyed : s.WellKeyed) (key : ResourceKey) : (s.remove key).WellKeyed := by
  intro k o found
  -- The removed key holds nothing; every other key holds what it held.
  by_cases here : k = key
  · subst here
    simp at found
  · rw [lookup_remove_of_ne s key here] at found
    exact keyed k o found

/-- A cluster whose every entry holds an object naming the entry's key is well keyed. -/
theorem of_objects (named : ∀ p ∈ s.objects, p.2.key = .ok p.1) : s.WellKeyed := by
  intro k o found
  -- A hit of the search is an entry filed under k, and entries name their keys.
  simp only [lookup, Option.map_eq_some_iff] at found
  obtain ⟨p, hit, rfl⟩ := found
  have same : p.1 = k := by simpa using List.find?_some hit
  exact same ▸ named p (List.mem_of_find?_eq_some hit)

end WellKeyed

/-- The cluster is told to fail calls of a verb on objects of a name in this way. -/
def Injects (s : Store) (verb : Verb) (name : String) (failure : Failure) : Prop :=
  ∃ f ∈ s.failures, f.verb = verb ∧ f.name = name ∧ f.failure = failure

/-- What a run confined to the calls `P`, deleting only objects of keys `D` and writing only
objects of keys `W`, does to a well-keyed cluster: it stays well-keyed, its calls are logged
after the earlier ones, an object of another key is kept or, under `D`, gone, and the failures
left to inject are some of those that were. -/
structure Confined (P : Op → Prop) (D W : ResourceKey → Prop) (s s' : Store) : Prop where
  keyed : s'.WellKeyed
  log : ∃ calls, s'.ops = s.ops ++ calls ∧ ∀ op ∈ calls, P op
  frame : ∀ k, ¬ W k → s'.lookup k = s.lookup k ∨ D k ∧ s'.lookup k = none
  spends : ∀ verb name failure, s'.Injects verb name failure → s.Injects verb name failure

/-- A run confined to `P`, `D` and `W` when it starts on a well-keyed cluster. -/
def Within (P : Op → Prop) (D W : ResourceKey → Prop) (s s' : Store) : Prop :=
  s.WellKeyed → Confined P D W s s'

variable {P P' : Op → Prop} {D D' W W' : ResourceKey → Prop}

theorem Within.refl (s : Store) : Within P D W s s :=
  fun keyed => ⟨keyed, ⟨[], by simp, by simp⟩, fun _ _ => .inl rfl, fun _ _ _ held => held⟩

theorem Within.trans {s₁ s₂ s₃ : Store} (first : Within P D W s₁ s₂) (second : Within P D W s₂ s₃) :
    Within P D W s₁ s₃ := by
  intro keyed
  have one := first keyed
  have two := second one.keyed
  -- The calls of the two runs are logged one after the other.
  obtain ⟨calls₁, logged₁, allowed₁⟩ := one.log
  obtain ⟨calls₂, logged₂, allowed₂⟩ := two.log
  refine ⟨two.keyed, ⟨calls₁ ++ calls₂, by rw [logged₂, logged₁, List.append_assoc], ?_⟩, ?_,
    fun verb name failure held => one.spends _ _ _ (two.spends _ _ _ held)⟩
  · intro op member
    rcases List.mem_append.mp member with early | late
    · exact allowed₁ op early
    · exact allowed₂ op late
  · -- An object gone after either run stays gone: only writes bring one back.
    intro k unwritten
    rcases one.frame k unwritten with same₁ | ⟨deletable, gone₁⟩ <;>
      rcases two.frame k unwritten with same₂ | ⟨deletable, gone₂⟩
    · exact .inl (same₂.trans same₁)
    · exact .inr ⟨deletable, gone₂⟩
    · exact .inr ⟨deletable, same₂.trans gone₁⟩
    · exact .inr ⟨deletable, gone₂⟩

instance : IsPreorder Store (Within P D W) where
  refl := Within.refl
  trans _ _ _ := Within.trans

theorem Within.mono {s s' : Store} (within : Within P D W s s') (calls : ∀ op, P op → P' op)
    (deleted : ∀ k, D k → D' k) (written : ∀ k, W k → W' k) : Within P' D' W' s s' := by
  intro keyed
  have confined := within keyed
  obtain ⟨logged, log, allowed⟩ := confined.log
  refine ⟨confined.keyed, ⟨logged, log, fun op member => calls op (allowed op member)⟩, ?_,
    confined.spends⟩
  intro k unwritten
  -- A key outside the wider written set is outside the narrower one, so its frame holds.
  rcases confined.frame k (fun held => unwritten (written k held)) with same | ⟨deletable, gone⟩
  · exact .inl same
  · exact .inr ⟨deleted k deletable, gone⟩

/-- A step that changes only the counter of versions keeps every object and the log. -/
theorem Within.of_objects {s s' : Store} (objects : s'.objects = s.objects) (ops : s'.ops = s.ops)
    (failures : s'.failures = s.failures) : Within P D W s s' := by
  intro keyed
  have same : ∀ k, s'.lookup k = s.lookup k := fun k => by simp only [lookup, objects]
  refine ⟨fun k o found => keyed k o ((same k).symm.trans found), ⟨[], by simp [ops]⟩,
    fun k _ => .inl (same k), ?_⟩
  intro verb name failure held
  simpa only [Injects, failures] using held

/-- A confined run that left every object as it was wrote none. -/
theorem Within.unwritten {s s' : Store} (within : Within P D W s s') (same : s'.objects = s.objects) :
    Within P D (fun _ => False) s s' := by
  intro keyed
  have confined := within keyed
  exact ⟨confined.keyed, confined.log, fun k _ => .inl (by simp only [lookup, same]), confined.spends⟩

end Store

/-! The calls on the cluster, confined. -/

/-- The injected failure that fires is one of the cluster's, for the verb and name called. -/
theorem findFailure_mem {fs : List Injected} {verb : Verb} {name : String} {i : Nat} {f : Injected}
    (found : findFailure fs verb name = some (i, f)) : f ∈ fs ∧ f.verb = verb ∧ f.name = name := by
  suffices walk : ∀ j, findFailure.go verb name j fs = some (i, f) → f ∈ fs ∧ f.verb = verb ∧ f.name = name from
    walk 0 found
  clear found
  induction fs with
  | nil => intro j found; cases found
  | cons g rest ih =>
    intro j found
    simp only [findFailure.go] at found
    -- Either this entry fires, or the search goes on to the rest one index higher.
    split at found
    · rename_i hit
      simp only [Option.some.injEq, Prod.mk.injEq] at found
      obtain ⟨-, rfl⟩ := found
      simp only [Bool.and_eq_true, beq_iff_eq] at hit
      exact ⟨by simp, hit.1.1, hit.1.2⟩
    · obtain ⟨member, same⟩ := ih (j + 1) found
      exact ⟨by simp [member], same⟩

/-- Without an injected failure for a verb and name, a call of them is only recorded. -/
theorem record_run_free {verb : Verb} {key : ResourceKey} {s : Store}
    (free : ∀ failure, ¬ s.Injects verb key.name failure) (p : Option Propagation) :
    (record verb key p).run s = .ok () (s.log ⟨verb, key, p⟩) := by
  rw [record_run]
  -- A failure that fired would be one the cluster was told to inject, and there is none.
  cases found : findFailure s.failures verb key.name with
  | none => rfl
  | some hit =>
    obtain ⟨i, f⟩ := hit
    obtain ⟨member, sameVerb, sameName⟩ := findFailure_mem found
    exact absurd ⟨f, member, sameVerb, sameName, rfl⟩ (free f.failure)

/-- A recorded call that fails fails with an injected failure for its verb and name. -/
theorem record_injected {verb : Verb} {key : ResourceKey} {p : Option Propagation} {s s' : Store}
    {e : Error} (failed : (record verb key p).run s = .error e s') :
    ∃ failure, s.Injects verb key.name failure ∧ e = failure.toError key.name := by
  rw [record_run] at failed
  -- Only a failure the search finds makes the call fail.
  cases found : findFailure s.failures verb key.name with
  | none => rw [found] at failed; cases failed
  | some hit =>
    obtain ⟨i, f⟩ := hit
    rw [found] at failed
    cases failed
    obtain ⟨member, sameVerb, sameName⟩ := findFailure_mem found
    exact ⟨f.failure, ⟨f, member, sameVerb, sameName, rfl⟩, rfl⟩

/-- A recorded call logs itself and changes no object, failed or not; a failure it fires is used
up by one call. -/
theorem record_within (verb : Verb) (key : ResourceKey) (p : Option Propagation) :
    Keeps (Store.Within (· = ⟨verb, key, p⟩) (fun _ => False) (fun _ => False)) (record verb key p) := by
  intro s keyed
  rw [record_run]
  -- Fired or not, the call is logged and no object changes.
  cases found : findFailure s.failures verb key.name with
  | none => exact ⟨keyed, ⟨[_], rfl, by simp⟩, fun _ _ => .inl rfl, fun _ _ _ held => held⟩
  | some hit =>
    obtain ⟨i, f⟩ := hit
    obtain ⟨member, -, -⟩ := findFailure_mem found
    refine ⟨keyed, ⟨[_], rfl, by simp⟩, fun _ _ => .inl rfl, ?_⟩
    -- The failures left are the old ones, one of them with a call fewer.
    rintro verb' name' failure' ⟨g, held, sameVerb, sameName, sameFailure⟩
    rcases List.mem_or_eq_of_mem_set held with old | used
    · exact ⟨g, old, sameVerb, sameName, sameFailure⟩
    · subst used
      exact ⟨f, member, sameVerb, sameName, sameFailure⟩

theorem nextVersion_within {P : Op → Prop} {D W : ResourceKey → Prop} :
    Keeps (Store.Within P D W) nextVersion :=
  fun _ => Store.Within.of_objects rfl rfl rfl

/-- A read logs itself and changes no object. -/
theorem getObject_within (key : ResourceKey) :
    Keeps (Store.Within (· = ⟨.get, key, none⟩) (fun _ => False) (fun _ => False)) (getObject key) :=
  Keeps.bind (record_within _ _ _) fun _ => stored_keeps key

/-- A call recorded without a failure only logs itself. -/
theorem record_ok {verb : Verb} {key : ResourceKey} {p : Option Propagation} {s s₁ : Store} {u : Unit}
    (ran : (record verb key p).run s = .ok u s₁) : s₁ = s.log ⟨verb, key, p⟩ := by
  rw [record_run] at ran
  -- A fired failure is an error, so the call ran clean.
  split at ran
  · cases ran
    rfl
  · cases ran

/-- Reading the stored object of a key finds it or fails with not found, changing nothing. -/
theorem stored_run (key : ResourceKey) (s : Store) :
    (stored key).run s = (s.lookup key).elim (.error (.notFound key.render) s) fun o => .ok o s := by
  show stored key s = _
  unfold stored
  simp only [bind, EStateM.bind, get, getThe, MonadStateOf.get, EStateM.get]
  cases s.lookup key <;> rfl

/-- A read that returns gives the object stored under its key, and only logs itself. -/
theorem getObject_ok {key : ResourceKey} {s s' : Store} {o : Object}
    (ran : (getObject key).run s = .ok o s') : s.lookup key = some o ∧ s' = s.log ⟨.get, key, none⟩ := by
  obtain ⟨_, s₁, recorded, found⟩ := run_bind_ok ran
  cases record_ok recorded
  rw [stored_run] at found
  -- Logging the call keeps the objects, so what was found was stored before it.
  cases held : (s.log ⟨.get, key, none⟩).lookup key with
  | none => rw [held] at found; cases found
  | some stored =>
    rw [held] at found
    cases found
    exact ⟨by simpa using held, rfl⟩

/-- A read finds nothing only when nothing is stored under its key or the cluster was told to
fail it so. -/
theorem getObject_notFound {key : ResourceKey} {s s' : Store} {e : Error}
    (failed : (getObject key).run s = .error e s') (notFound : e.isNotFound = true) :
    s.lookup key = none ∨ s.Injects .get key.name .notFound := by
  unfold getObject at failed
  rw [EStateM.run_bind] at failed
  -- The call failed with an injected failure, or it ran and the lookup found nothing.
  cases recorded : (record .get key none).run s with
  | error e₁ s₁ =>
    rw [recorded] at failed
    cases failed
    obtain ⟨failure, injected, rfl⟩ := record_injected recorded
    -- Of the failures the cluster gives, only an injected NotFound is a NotFound.
    cases failure <;> simp_all [Failure.toError, Error.isNotFound, Error.apiCode?]
  | ok u s₁ =>
    rw [recorded] at failed
    cases record_ok recorded
    dsimp only at failed
    rw [stored_run] at failed
    -- An object found would have been returned, so nothing is stored under the key.
    cases held : (s.log ⟨.get, key, none⟩).lookup key with
    | none => exact .inl (by simpa using held)
    | some stored => rw [held] at failed; cases failed

/-- An update of an object that names its key logs itself and writes only that key. -/
theorem updateObject_within {o : Object} {k : ResourceKey} (named : o.key = .ok k) :
    Keeps (Store.Within (· = ⟨.update, k, none⟩) (fun _ => False) (· = k)) (updateObject o) := by
  unfold updateObject
  simp only [named, StoreM.ofExcept, pure_bind]
  refine Keeps.bind ((record_within _ _ _).weaken fun _ _ within => ?_) fun _ => ?_
  · exact within.mono (fun _ same => same) (fun _ no => no) (fun _ no => no.elim)
  refine Keeps.bind (stored_keeps k) fun current => ?_
  -- A stale version is refused before anything is written.
  split
  · exact Keeps.throw_bind _ _
  refine Keeps.bind nextVersion_within fun v => Keeps.bind (Keeps.modify fun s keyed => ?_) fun _ =>
    Keeps.pure _
  -- The stored object is the given one with new versions, so it names the same key.
  refine ⟨keyed.put ((Object.key_withMeta o rfl rfl).trans named), ⟨[], by simp, by simp⟩,
    fun k' other => .inl ?_, fun _ _ _ held => held⟩
  exact Store.lookup_put_of_ne s k _ other

/-- An object whose key cannot be formed is never sent: the update fails before it is logged. -/
theorem updateObject_unnamed {o : Object} {e : Error} (unnamed : o.key = .error e) (s : Store) :
    (updateObject o).run s = .error e s := by
  unfold updateObject
  simp only [unnamed, StoreM.ofExcept]
  rfl

/-- An update that returns was checked against the object stored under its key, whose version it
carried if it carried one. It stores under the key the object it was given, with the stored uid,
the stored generation (1 when there is none) moved to the next one when the object's JSON outside
metadata and status changed, and the version it hands out; it leaves every other key alone. -/
theorem updateObject_run_eq {o u : Object} {k : ResourceKey} {s s' : Store} (named : o.key = .ok k)
    (ran : (updateObject o).run s = .ok u s') :
    ∃ current, s.lookup k = some current ∧
      (o.metadata.resourceVersion = none ∨ o.metadata.resourceVersion = current.metadata.resourceVersion) ∧
      u = o.withMeta (fun m => { m with
        generation := some (if !(specPart current.toJson).beq (specPart o.toJson) then
          nextGeneration (current.metadata.generation.getD 1) else current.metadata.generation.getD 1),
        uid := current.metadata.uid, resourceVersion := some (toString (s.version + 1)) }) ∧
      s'.lookup k = some u ∧ s'.version = s.version + 1 ∧ ∀ k', k' ≠ k → s'.lookup k' = s.lookup k' := by
  unfold updateObject at ran
  simp only [named, StoreM.ofExcept, pure_bind] at ran
  obtain ⟨_, s₁, recorded, ran⟩ := run_bind_ok ran
  cases record_ok recorded
  obtain ⟨current, s₂, found, ran⟩ := run_bind_ok ran
  rw [stored_run, Store.lookup_log] at found
  -- The update was checked against the object stored under its key.
  have held : s.lookup k = some current ∧ s₂ = s.log ⟨.update, k, none⟩ := by
    cases stored : s.lookup k with
    | none => rw [stored] at found; cases found
    | some o' =>
      rw [stored] at found
      cases found
      exact ⟨rfl, rfl⟩
  obtain ⟨held, rfl⟩ := held
  refine ⟨current, held, ?_⟩
  -- A stale version would have been refused, so the update carried a fresh one.
  split at ran
  · obtain ⟨_, _, thrown, -⟩ := run_bind_ok ran
    cases thrown
  rename_i fresh
  obtain ⟨v, s₃, handed, ran⟩ := run_bind_ok ran
  cases handed
  obtain ⟨_, s₄, stored, ran⟩ := run_bind_ok ran
  cases stored
  cases ran
  -- Not refused: the version it carried was none or the stored one.
  refine ⟨?_, rfl, Store.lookup_put_self _ _ _, rfl, fun k' other => Store.lookup_put_of_ne _ k _ other⟩
  cases carried : o.metadata.resourceVersion with
  | none => exact .inl rfl
  | some v => simp_all

/-- An update that returns stores what it returns under its key, with the finalizers it was
given. -/
theorem updateObject_ok {o u : Object} {k : ResourceKey} {s s' : Store} (named : o.key = .ok k)
    (ran : (updateObject o).run s = .ok u s') :
    s'.lookup k = some u ∧ u.finalizerList = o.finalizerList := by
  obtain ⟨current, -, -, rfl, written, -⟩ := updateObject_run_eq named ran
  exact ⟨written, rfl⟩

/-- An update that returns was checked against the object stored under its key, whose version it
carried if it carried one; it stores the given fields under the next version, which it hands out,
and leaves every other key alone. -/
theorem updateObject_run_ok {o u : Object} {k : ResourceKey} {s s' : Store} (named : o.key = .ok k)
    (ran : (updateObject o).run s = .ok u s') :
    ∃ current, s.lookup k = some current ∧
      (o.metadata.resourceVersion = none ∨
        o.metadata.resourceVersion = current.metadata.resourceVersion) ∧
      u.data = o.data ∧ u.key = .ok k ∧ u.metadata.resourceVersion = some (toString (s.version + 1)) ∧
      s'.lookup k = some u ∧ s'.version = s.version + 1 ∧ ∀ k', k' ≠ k → s'.lookup k' = s.lookup k' := by
  obtain ⟨current, held, carried, rfl, rest⟩ := updateObject_run_eq named ran
  exact ⟨current, held, carried, rfl, (Object.key_withMeta o rfl rfl).trans named, rfl, rest⟩

/-- An update of a stored object at its own version returns, when no failure is injected into
updates of its name. -/
theorem updateObject_returns {o current : Object} {k : ResourceKey} {s : Store} (named : o.key = .ok k)
    (held : s.lookup k = some current)
    (fresh : o.metadata.resourceVersion = current.metadata.resourceVersion)
    (free : ∀ failure, ¬ s.Injects .update k.name failure) :
    Returns (updateObject o) s fun _ _ => True := by
  unfold updateObject
  simp only [named, StoreM.ofExcept, pure_bind]
  have found : (stored k).run (s.log ⟨.update, k, none⟩) = .ok current (s.log ⟨.update, k, none⟩) := by
    rw [stored_run, Store.lookup_log, held]
    rfl
  refine Returns.bind (Returns.of_run (record_run_free free none) ?_)
  refine Returns.bind (Returns.of_run found ?_)
  -- The version given is the stored one, so the update is not refused.
  rw [fresh]
  simp only [bne_self_eq_false, Bool.and_false, Bool.false_eq_true, if_false]
  exact Returns.bind (Returns.of_run rfl (Returns.bind (Returns.of_run rfl (Returns.pure trivial))))

/-- A create that returns found nothing under the object's key and stores the object there
with generation 1, the uid the cluster gives and the next version; it logs itself and leaves
every other key and the failures to inject alone. -/
theorem createObject_run_ok {o created : Object} {s s' : Store} (ran : (createObject o).run s = .ok created s') :
    ∃ k, o.key = .ok k ∧ s.lookup k = none ∧
      created = o.withMeta (fun m => { m with
        generation := some 1, uid := some ("uid-" ++ k.name), resourceVersion := some (toString (s.version + 1)) }) ∧
      s'.lookup k = some created ∧ (∀ k', k' ≠ k → s'.lookup k' = s.lookup k') ∧
      s'.ops = s.ops ++ [⟨.create, k, none⟩] ∧ s'.failures = s.failures := by
  unfold createObject at ran
  obtain ⟨k, s₁, named, rest⟩ := run_bind_ok ran
  -- The key was formed, so nothing was refused before the call was logged.
  have keyed : o.key = .ok k ∧ s₁ = s := by
    cases formed : o.key with
    | error e => simp [formed, StoreM.ofExcept] at named; cases named
    | ok k' =>
      simp only [formed, StoreM.ofExcept] at named
      cases named
      exact ⟨rfl, rfl⟩
  obtain ⟨keyed, rfl⟩ := keyed
  obtain ⟨_, s₂, recorded, ran⟩ := run_bind_ok rest
  cases record_ok recorded
  obtain ⟨s₃, s₄, got, ran⟩ := run_bind_ok ran
  cases got
  dsimp only at ran
  -- An object already under the key would have been refused, so nothing was there.
  split at ran
  · obtain ⟨_, _, thrown, -⟩ := run_bind_ok ran
    cases thrown
  rename_i fresh
  obtain ⟨v, s₅, handed, ran⟩ := run_bind_ok ran
  cases handed
  obtain ⟨_, s₆, stored, ran⟩ := run_bind_ok ran
  cases stored
  cases ran
  refine ⟨k, keyed, by simpa [Store.contains] using fresh, rfl, Store.lookup_put_self _ _ _,
    fun k' other => Store.lookup_put_of_ne _ k _ other, rfl, rfl⟩

/-- A read changes neither the objects nor the version counter, whatever the cluster answers. -/
theorem getObject_data (key : ResourceKey) (s : Store) :
    (endState ((getObject key).run s)).objects = s.objects ∧
      (endState ((getObject key).run s)).version = s.version := by
  unfold getObject
  rw [EStateM.run_bind, record_run]
  -- A fired failure stops the read; otherwise it only looks the key up.
  cases findFailure s.failures .get key.name with
  | none =>
    dsimp only
    rw [stored_run]
    cases (s.log ⟨.get, key, none⟩).lookup key <;> exact ⟨rfl, rfl⟩
  | some hit => exact ⟨rfl, rfl⟩

/-- A read changes no object, whatever the cluster answers. -/
theorem getObject_objects (key : ResourceKey) (s : Store) :
    (endState ((getObject key).run s)).objects = s.objects :=
  (getObject_data key s).1

/-- An update that fails leaves the objects and the version counter as they were: it hands out
a version only once every check passed. -/
theorem updateObject_data_of_error {o : Object} {s s' : Store} {e : Error}
    (failed : (updateObject o).run s = .error e s') : s'.objects = s.objects ∧ s'.version = s.version := by
  unfold updateObject at failed
  -- An object without a key fails before anything is logged.
  cases named : o.key with
  | error e₁ =>
    simp only [named, StoreM.ofExcept] at failed
    cases failed
    exact ⟨rfl, rfl⟩
  | ok k =>
    simp only [named, StoreM.ofExcept, pure_bind] at failed
    rw [EStateM.run_bind, record_run] at failed
    -- A failure fired by the call stops it; otherwise the stored object is read and checked.
    cases found : findFailure s.failures .update k.name with
    | some hit =>
      rw [found] at failed
      cases failed
      exact ⟨rfl, rfl⟩
    | none =>
      rw [found] at failed
      dsimp only at failed
      rw [EStateM.run_bind, stored_run] at failed
      cases held : (s.log ⟨.update, k, none⟩).lookup k with
      | none =>
        rw [held] at failed
        cases failed
        exact ⟨rfl, rfl⟩
      | some current =>
        rw [held] at failed
        dsimp only [Option.elim] at failed
        -- A stale version is refused before a version is handed out; otherwise the update goes in.
        by_cases stale : (o.metadata.resourceVersion.isSome &&
            o.metadata.resourceVersion != current.metadata.resourceVersion) = true
        · rw [if_pos stale] at failed
          cases failed
          exact ⟨rfl, rfl⟩
        · rw [if_neg stale] at failed
          cases failed

/-- An update that fails changes no object: it stores only once every check passed. -/
theorem updateObject_objects_of_error {o : Object} {s s' : Store} {e : Error}
    (failed : (updateObject o).run s = .error e s') : s'.objects = s.objects :=
  (updateObject_data_of_error failed).1

/-- An update logs itself, once, when its object names a key. -/
theorem updateObject_ops {o : Object} {k : ResourceKey} (named : o.key = .ok k) (s : Store) :
    (endState ((updateObject o).run s)).ops = s.ops ++ [⟨.update, k, none⟩] := by
  unfold updateObject
  simp only [named, StoreM.ofExcept, pure_bind]
  rw [EStateM.run_bind, record_run]
  -- However the update ends, the call was logged first and nothing after it logs.
  cases findFailure s.failures .update k.name with
  | some hit => rfl
  | none =>
    dsimp only
    rw [EStateM.run_bind, stored_run]
    cases (s.log ⟨.update, k, none⟩).lookup k with
    | none => rfl
    | some current =>
      dsimp only [Option.elim]
      by_cases stale : (o.metadata.resourceVersion.isSome &&
          o.metadata.resourceVersion != current.metadata.resourceVersion) = true
      · rw [if_pos stale]
        rfl
      · rw [if_neg stale]
        rfl

/-- A deletion logs itself and takes away at most the object of its own key. -/
theorem deleteObject_within (key : ResourceKey) (p : Option Propagation) :
    Keeps (Store.Within (· = ⟨.delete, key, p⟩) (· = key) (fun _ => False)) (deleteObject key p) := by
  unfold deleteObject
  refine Keeps.bind ((record_within _ _ _).weaken fun _ _ within => ?_) fun _ =>
    Keeps.bind Keeps.get fun s => ?_
  · exact within.mono (fun _ same => same) (fun _ no => no.elim) (fun _ no => no)
  refine Keeps.ite (Keeps.modify fun s keyed => ?_) (Keeps.throw _)
  refine ⟨keyed.remove key, ⟨[], by simp, by simp⟩, fun k _ => ?_, fun _ _ _ held => held⟩
  -- Only the deleted key loses its object.
  by_cases here : k = key
  · subst here
    exact .inr ⟨rfl, Store.lookup_remove_self s k⟩
  · exact .inl (Store.lookup_remove_of_ne s key here)

end MeshControl
