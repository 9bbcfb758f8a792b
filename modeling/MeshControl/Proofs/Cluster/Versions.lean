import MeshControl.Proofs.Cluster.Client
import MeshControl.Proofs.Engine.Shared
import MeshControl.Proofs.Resource.Merged

/-! The versions and generations the in-memory cluster hands out: each call writes one key, drops
one or changes nothing, so versions only grow and stay distinct, and generations follow the spec. -/

namespace MeshControl

/-! Runs that return. -/

section Commits

variable {ε σ α β : Type}

/-- A run that returns ends in a state that `R` relates to the one it started in. -/
def Commits (R : σ → σ → Prop) (x : EStateM ε σ α) : Prop :=
  ∀ s a s', x.run s = .ok a s' → R s s'

namespace Commits

variable {R R₁ R₂ : σ → σ → Prop}

theorem of_keeps {x : EStateM ε σ α} (kept : Keeps R x) : Commits R x := by
  intro s a s' ran
  simpa [ran] using kept s

/-- A step that returns, then steps that return: the relations compose. -/
theorem bind {x : EStateM ε σ α} {f : α → EStateM ε σ β} (first : Commits R₁ x)
    (rest : ∀ a, Commits R₂ (f a)) (compose : ∀ s₁ s₂ s₃, R₁ s₁ s₂ → R₂ s₂ s₃ → R s₁ s₃) :
    Commits R (x >>= f) := by
  intro s b s' ran
  -- The whole returned, so the first step did, and the rest ran from its state.
  obtain ⟨a, s₁, returned, rest'⟩ := run_bind_ok ran
  exact compose _ _ _ (first s a s₁ returned) (rest a s₁ b s' rest')

/-- Nothing after a failure runs, so it never returns. -/
theorem throw_bind (e : ε) (f : α → EStateM ε σ β) : Commits R (MonadExcept.throw e >>= f) := by
  intro s b s' ran
  -- A thrown failure gives no value to go on with.
  obtain ⟨_, _, thrown, -⟩ := run_bind_ok ran
  cases thrown

theorem throw (e : ε) : Commits R (MonadExcept.throw e : EStateM ε σ α) := by
  intro s b s' ran
  cases ran

theorem ite {c : Prop} [Decidable c] {x y : EStateM ε σ α} (yes : Commits R x) (no : Commits R y) :
    Commits R (if c then x else y) := by
  split
  · exact yes
  · exact no

theorem map {x : EStateM ε σ α} (f : α → β) (first : Commits R x) : Commits R (f <$> x) := by
  intro s b s' ran
  rw [run_map] at ran
  -- A mapped run returns exactly when the run does.
  cases result : x.run s with
  | ok a s₁ =>
    rw [result] at ran
    cases ran
    exact first s a _ result
  | error e s₁ => rw [result] at ran; cases ran

end Commits

end Commits

/-! What a call does to the objects and the counter. -/

namespace Store

/-- One key written: the counter went up by one, the object now under the key carries the new
version, and every other key holds what it held. -/
structure Written (k : ResourceKey) (s s' : Store) : Prop where
  version : s'.version = s.version + 1
  stamped : ∃ o, s'.lookup k = some o ∧ o.metadata.resourceVersion = some (toString s'.version)
  others : ∀ k', k' ≠ k → s'.lookup k' = s.lookup k'

/-- One key dropped: nothing is left under it, every other key holds what it held, and the
counter stays. -/
structure Dropped (k : ResourceKey) (s s' : Store) : Prop where
  version : s'.version = s.version
  gone : s'.lookup k = none
  others : ∀ k', k' ≠ k → s'.lookup k' = s.lookup k'

/-- What one call does to the objects and the counter: nothing, one key written, or one key
dropped. -/
inductive Step (s s' : Store) : Prop
  | same : SameData s s' → Step s s'
  | written (k : ResourceKey) : Written k s s' → Step s s'
  | dropped (k : ResourceKey) : Dropped k s s' → Step s s'

/-- No two keys hold objects of one version. -/
def Distinct (s : Store) : Prop :=
  ∀ k₁ k₂ o₁ o₂, s.lookup k₁ = some o₁ → s.lookup k₂ = some o₂ →
    o₁.metadata.resourceVersion = o₂.metadata.resourceVersion → k₁ = k₂

variable {s₁ s₂ s₃ s s' : Store} {k : ResourceKey}

theorem SameData.lookup (same : SameData s s') (k : ResourceKey) : s'.lookup k = s.lookup k := by
  simp only [Store.lookup, same.1]

/-- A check that changes nothing, then a write. -/
theorem Written.of_same (first : SameData s₁ s₂) (second : Written k s₂ s₃) : Written k s₁ s₃ :=
  ⟨second.version.trans (by rw [first.2]), second.stamped,
    fun k' other => (second.others k' other).trans (first.lookup k')⟩

/-- A check that changes nothing, then a deletion. -/
theorem Dropped.of_same (first : SameData s₁ s₂) (second : Dropped k s₂ s₃) : Dropped k s₁ s₃ :=
  ⟨second.version.trans first.2, second.gone,
    fun k' other => (second.others k' other).trans (first.lookup k')⟩

/-- Whatever a deletion leaves stored was stored under its key before. -/
theorem Dropped.lookup_of_some (cut : Dropped k s s') {k' : ResourceKey} {o : Object}
    (held : s'.lookup k' = some o) : s.lookup k' = some o := by
  -- Nothing is left under the dropped key, and every other key is untouched.
  by_cases here : k' = k
  · subst here
    rw [cut.gone] at held
    cases held
  · exact (cut.others k' here).symm.trans held

/-- The object a write stores carries the version it hands out, which the counter had not
reached before. -/
theorem Written.fresh (written : Written k s s') {o : Object} (held : s'.lookup k = some o) :
    o.metadata.resourceVersion = some (toString (s.version + 1)) ∧ ¬ o.Issued s.version := by
  -- The write stamped the stored object with the next version, above every one issued.
  obtain ⟨o', stored, stamped⟩ := written.stamped
  rw [held, Option.some.injEq] at stored
  subst stored
  rw [written.version] at stamped
  exact ⟨stamped, fun issued => issued.ne_next stamped⟩

/-- Every object a call leaves stored was stored under its key before, or carries a version the
counter had not reached. -/
theorem Step.since : Step s s' → s.Since s'
  | .same kept => ⟨kept.2.ge, fun k o held => .inl ((kept.lookup k).symm.trans held)⟩
  | .written k wrote => by
    -- The counter moved up by one; only the written key can hold something new.
    refine ⟨by rw [wrote.version]; omega, fun k' o held => ?_⟩
    by_cases here : k' = k
    · subst here
      exact .inr (wrote.fresh held).2
    · exact .inl ((wrote.others k' here).symm.trans held)
  | .dropped _ cut => ⟨cut.version.ge, fun _ _ held => .inl (cut.lookup_of_some held)⟩

/-- A call keeps every object stamped with a version the counter handed out. -/
theorem Step.versioned : Step s s' → s.Versioned → s'.Versioned
  -- Nothing changed, so every object stays stamped.
  | .same kept, versioned => fun k o held => by
    rw [kept.2]
    exact versioned k o ((kept.lookup k).symm.trans held)
  -- The written object carries the new counter; the others carry older versions.
  | .written k wrote, versioned => fun k' o held => by
    by_cases here : k' = k
    · subst here
      rw [wrote.version]
      exact ⟨_, le_refl _, (wrote.fresh held).1⟩
    · rw [wrote.version]
      exact (versioned k' o ((wrote.others k' here).symm.trans held)).mono (by omega)
  | .dropped _ cut, versioned => fun k' o held => by
    rw [cut.version]
    exact versioned k' o (cut.lookup_of_some held)

/-- A call keeps the versions of stored objects pairwise distinct: a write stamps its object
with a version no stored object carries. -/
theorem Step.distinct (step : Step s s') (versioned : s.Versioned) (distinct : s.Distinct) : s'.Distinct := by
  -- Kept and dropped keys hold old objects; a write adds one object with a fresh version.
  cases step with
  | same kept =>
    intro k₁ k₂ o₁ o₂ held₁ held₂ equal
    exact distinct k₁ k₂ o₁ o₂ ((kept.lookup k₁).symm.trans held₁) ((kept.lookup k₂).symm.trans held₂) equal
  | written k wrote =>
    -- An object other than the written one was stored before and carries an older version.
    have older : ∀ k' o, k' ≠ k → s'.lookup k' = some o →
        s.lookup k' = some o ∧ o.metadata.resourceVersion ≠ some (toString (s.version + 1)) :=
      fun k' o other held =>
        have before := (wrote.others k' other).symm.trans held
        ⟨before, (versioned k' o before).ne_next⟩
    intro k₁ k₂ o₁ o₂ held₁ held₂ equal
    -- Two keys with one version: neither is the written key unless both are.
    by_cases first : k₁ = k <;> by_cases second : k₂ = k
    · exact first.trans second.symm
    · subst first
      exact absurd ((wrote.fresh held₁).1.symm.trans equal) (older k₂ o₂ second held₂).2.symm
    · subst second
      exact absurd (equal.trans (wrote.fresh held₂).1) (older k₁ o₁ first held₁).2
    · exact distinct k₁ k₂ o₁ o₂ (older k₁ o₁ first held₁).1 (older k₂ o₂ second held₂).1 equal
  | dropped k cut =>
    intro k₁ k₂ o₁ o₂ held₁ held₂ equal
    exact distinct k₁ k₂ o₁ o₂ (cut.lookup_of_some held₁) (cut.lookup_of_some held₂) equal

/-- What every run of calls keeps from `s` to `s'`: the counter goes no lower and each object is
the one `s` held under its key or carries a version handed out since; a cluster whose objects
carry versions the counter handed out stays so, and their versions stay pairwise distinct. -/
structure Counted (s s' : Store) : Prop where
  since : s.Since s'
  versioned : s.Versioned → s'.Versioned
  distinct : s.Versioned → s.Distinct → s'.Distinct

theorem Counted.refl (s : Store) : Counted s s := ⟨Since.refl s, id, fun _ => id⟩

theorem Counted.trans (first : Counted s₁ s₂) (second : Counted s₂ s₃) : Counted s₁ s₃ :=
  ⟨first.since.trans second.since, second.versioned ∘ first.versioned,
    fun versioned distinct => second.distinct (first.versioned versioned) (first.distinct versioned distinct)⟩

theorem Step.counted (step : Step s s') : Counted s s' :=
  ⟨step.since, step.versioned, step.distinct⟩

/-- The empty cluster holds nothing, so it holds no version twice. -/
theorem empty_versioned : (({} : Store)).Versioned ∧ (({} : Store)).Distinct := by
  have empty : ∀ k, ({} : Store).lookup k = none := fun _ => rfl
  refine ⟨fun k o held => ?_, fun k₁ k₂ o₁ o₂ held => ?_⟩ <;> rw [empty] at held <;> cases held

end Store

/-! What each call does to the objects and the counter. -/

/-- Checks that change nothing, then steps that return in `R`: the whole returns in `R`, when
`R` does not see such checks. -/
theorem Commits.after_check {R : Store → Store → Prop}
    (closed : ∀ s₁ s₂ s₃, Store.SameData s₁ s₂ → R s₂ s₃ → R s₁ s₃) {x : StoreM α} {f : α → StoreM β}
    (first : Keeps Store.SameData x) (rest : ∀ a, Commits R (f a)) : Commits R (x >>= f) :=
  Commits.bind (Commits.of_keeps first) rest closed

/-- Handing out the next version and storing under a key an object stamped with it writes that
key. -/
theorem putVersioned_written (key : ResourceKey) {make : String → Object}
    (stamped : ∀ v, (make v).metadata.resourceVersion = some v) :
    Commits (Store.Written key) (nextVersion >>= fun v => modify (·.put key (make v)) >>= fun _ =>
      (pure (make v) : StoreM Object)) := by
  intro s a s' ran
  -- The run stamps the object with the counter plus one and stores it.
  have stored : (nextVersion >>= fun v => modify (·.put key (make v)) >>= fun _ =>
      (pure (make v) : StoreM Object)).run s = .ok (make (toString (s.version + 1)))
        ({ s with version := s.version + 1 }.put key (make (toString (s.version + 1)))) := rfl
  rw [stored] at ran
  cases ran
  exact ⟨rfl, ⟨_, Store.lookup_put_self _ _ _, stamped _⟩,
    fun k' other => Store.lookup_put_of_ne _ key _ other⟩

/-- A deletion that returns dropped its key. -/
theorem deleteObject_dropped (key : ResourceKey) (p : Option Propagation) :
    Commits (Store.Dropped key) (deleteObject key p) := by
  -- Removing drops the key and leaves the others.
  have removed : Commits (Store.Dropped key) (modify (·.remove key) : StoreM PUnit) := by
    intro s a s' ran
    cases ran
    exact ⟨rfl, Store.lookup_remove_self s key, fun k' other => Store.lookup_remove_of_ne s key other⟩
  have closed : ∀ s₁ s₂ s₃, Store.SameData s₁ s₂ → Store.Dropped key s₂ s₃ → Store.Dropped key s₁ s₃ :=
    fun _ _ _ => Store.Dropped.of_same
  unfold deleteObject
  exact Commits.after_check closed (record_sameData _ _ _) fun _ =>
    Commits.after_check closed Keeps.get fun _ => Commits.ite removed (Commits.throw _)

namespace Call

/-- The key a call writes when it returns: that of the object it seeds, creates or updates, or
the one it patches. -/
def target : Call → Option ResourceKey
  | insert o | create o | update o => o.key.toOption
  | patch key _ | patchStatus key _ => some key
  | _ => none

/-- A call that writes a key and returns handed out the next version and stored under the key
an object stamped with it, leaving every other key. -/
theorem written_of_ok (c : Call) {k : ResourceKey} (aimed : c.target = some k) {s s' : Store}
    (ran : c.run.run s = .ok () s') : Store.Written k s s' := by
  -- A key read off the object as an option is the key it names.
  have named : ∀ o : Object, o.key.toOption = some k → o.key = .ok k := fun o same => by
    cases formed : o.key <;> simp_all [Except.toOption]
  have closed : ∀ s₁ s₂ s₃, Store.SameData s₁ s₂ → Store.Written k s₂ s₃ → Store.Written k s₁ s₃ :=
    fun _ _ _ => Store.Written.of_same
  -- Every run of the call that returns wrote the key.
  suffices writes : Commits (Store.Written k) c.run from writes s () s' ran
  cases c with
  | insert o =>
    refine Commits.map _ ?_
    unfold seedObject
    simp only [named o aimed, StoreM.ofExcept, pure_bind]
    exact putVersioned_written k fun _ => rfl
  | create o =>
    refine Commits.map _ ?_
    unfold createObject
    simp only [named o aimed, StoreM.ofExcept, pure_bind]
    refine Commits.after_check closed (record_sameData _ _ _) fun _ =>
      Commits.after_check closed Keeps.get fun current => ?_
    -- An existing key refuses the create, which then never returns.
    split
    · exact Commits.throw_bind _ _
    · exact putVersioned_written k fun _ => rfl
  | update o =>
    refine Commits.map _ ?_
    unfold updateObject
    simp only [named o aimed, StoreM.ofExcept, pure_bind]
    refine Commits.after_check closed (record_sameData _ _ _) fun _ =>
      Commits.after_check closed (stored_keeps k) fun current => ?_
    -- A missing object or a stale version refuses the update.
    split
    · exact Commits.throw_bind _ _
    · exact putVersioned_written k fun _ => rfl
  -- Patches read the object and merge the patch before they store the result.
  | patch key p =>
    cases aimed
    refine Commits.map _ ?_
    exact Commits.after_check closed (record_sameData _ _ _) fun _ =>
      Commits.after_check closed (stored_keeps _) fun _ =>
        Commits.after_check closed (StoreM.ofExcept_keeps _) fun _ => putVersioned_written _ fun _ => rfl
  | patchStatus key p =>
    cases aimed
    refine Commits.map _ ?_
    exact Commits.after_check closed (record_sameData _ _ _) fun _ =>
      Commits.after_check closed (stored_keeps _) fun _ =>
        Commits.after_check closed (StoreM.ofExcept_keeps _) fun _ => putVersioned_written _ fun _ => rfl
  -- The other calls write no key.
  | get key => cases aimed
  | list group version kind ns selector => cases aimed
  | delete key p => cases aimed

/-- Seeding, creating or updating an object that names no key fails at once. -/
theorem unnamed_run {o : Object} {e : Error} (unnamed : o.key = .error e) (s : Store) :
    (insert o).run.run s = .error e s ∧ (create o).run.run s = .error e s ∧
      (update o).run.run s = .error e s := by
  -- Each fails at the key check, before recording or storing anything.
  refine ⟨?_, ?_, ?_⟩
  · show (discard (seedObject o)).run s = _
    unfold seedObject
    simp only [unnamed, StoreM.ofExcept]
    rfl
  · show (discard (createObject o)).run s = _
    unfold createObject
    simp only [unnamed, StoreM.ofExcept]
    rfl
  · show (discard (updateObject o)).run s = _
    rw [discard_eq_map, run_map, updateObject_unnamed unnamed]

/-- Every call, whatever it answers, changes nothing, writes one key or drops one. -/
theorem step_run (c : Call) (s : Store) : Store.Step s (endState (c.run.run s)) := by
  -- A failed call changes nothing; one that returns wrote, dropped or only read.
  cases ran : c.run.run s with
  | error e s' => exact .same (c.run_aborts s e s' ran)
  | ok u s' =>
    -- A write that names its key writes it; one that names none never returns.
    have write : ∀ o : Object, c.target = o.key.toOption →
        (∀ e, o.key = .error e → c.run.run s = .error e s) → Store.Step s s' := fun o aimed unnamed => by
      cases named : o.key with
      | ok k => exact .written k (c.written_of_ok (by rw [aimed, named]; rfl) ran)
      | error e => rw [unnamed e named] at ran; cases ran
    cases c with
    | insert o => exact write o rfl fun e unnamed => (unnamed_run unnamed s).1
    | create o => exact write o rfl fun e unnamed => (unnamed_run unnamed s).2.1
    | update o => exact write o rfl fun e unnamed => (unnamed_run unnamed s).2.2
    | patch key p => exact .written key (written_of_ok _ rfl ran)
    | patchStatus key p => exact .written key (written_of_ok _ rfl ran)
    -- A read changes neither the objects nor the counter.
    | get key =>
      have ended : endState ((getObject key).run s) = s' :=
        (endState_map (fun _ => PUnit.unit) (getObject key) s).symm.trans (congrArg endState ran)
      exact .same (ended ▸ getObject_data key s)
    | list group version kind ns selector =>
      cases ran
      exact .same ⟨rfl, rfl⟩
    | delete key p => exact .dropped key (Commits.map _ (deleteObject_dropped key p) s u s' ran)

theorem runAll_append (cs₁ cs₂ : List Call) (s : Store) :
    runAll (cs₁ ++ cs₂) s = runAll cs₂ (runAll cs₁ s) := by
  induction cs₁ generalizing s with
  | nil => rfl
  | cons c rest ih => exact ih _

/-- Every run of calls keeps what each call keeps: the counter, the versions handed out since,
and versions issued and pairwise distinct. -/
theorem counted_runAll : ∀ (cs : List Call) (s : Store), Store.Counted s (runAll cs s)
  | [], s => Store.Counted.refl s
  | c :: rest, s => (c.step_run s).counted.trans (counted_runAll rest _)

/-- A write after any run of calls hands out a version above the counter the run started from. -/
theorem version_lt_written (between : List Call) (s₁ : Store) (c : Call) {k : ResourceKey}
    (aimed : c.target = some k) {s₂ : Store} (ran : c.run.run (runAll between s₁) = .ok () s₂) :
    s₁.version < s₂.version := by
  -- The run before the write kept the counter from going down.
  have counted := (counted_runAll between s₁).since.1
  rw [(c.written_of_ok aimed ran).version]
  omega

/-- From the empty cluster on, every stored object carries a version the counter handed out,
and no two keys hold objects of one version. -/
theorem distinct_runAll_empty (cs : List Call) : (runAll cs {}).Versioned ∧ (runAll cs {}).Distinct :=
  have counted := counted_runAll cs {}
  ⟨counted.versioned Store.empty_versioned.1,
    counted.distinct Store.empty_versioned.1 Store.empty_versioned.2⟩

end Call

/-! Generations and uids. -/

/-- A create that returns stored under the object's key the object with generation 1 and the
uid `uid-<name>`. -/
theorem createObject_generation {o c : Object} {s s' : Store} (ran : (createObject o).run s = .ok c s') :
    ∃ k, o.key = .ok k ∧ s'.lookup k = some c ∧ c.metadata.generation = some 1 ∧
      c.metadata.uid = some ("uid-" ++ k.name) := by
  obtain ⟨k, named, -, rfl, stored, -⟩ := createObject_run_ok ran
  exact ⟨k, named, stored, rfl, rfl⟩

/-- Over the signed 64-bit range the next generation is one more, but the largest wraps to the
smallest. -/
theorem nextGeneration_eq {g : Int} (low : -9223372036854775808 ≤ g) (high : g ≤ 9223372036854775807) :
    nextGeneration g = if g = 9223372036854775807 then -9223372036854775808 else g + 1 := by
  unfold nextGeneration
  split
  · -- At the largest value the sum is one past the range and comes back at its bottom.
    rename_i largest
    subst largest
    decide
  · -- Below it the sum stays in range, where reducing modulo 2^64 changes nothing.
    apply Int.bmod_eq_of_le <;> omega

/-- An update that returns stored under its key the object it was given with the stored uid, and
the next generation after the stored one (1 when there is none) exactly when the update changes
the object's JSON outside metadata and status. -/
theorem updateObject_generation {o u current : Object} {k : ResourceKey} {s s' : Store}
    (named : o.key = .ok k) (held : s.lookup k = some current) (ran : (updateObject o).run s = .ok u s') :
    s'.lookup k = some u ∧ u.metadata.uid = current.metadata.uid ∧
      u.metadata.generation = some (if (specPart current.toJson).beq (specPart o.toJson) then
        current.metadata.generation.getD 1 else nextGeneration (current.metadata.generation.getD 1)) := by
  -- The update stored the given object with the stored uid and a new generation.
  obtain ⟨current', held', -, rfl, written, -⟩ := updateObject_run_eq named ran
  rw [held, Option.some.injEq] at held'
  subst held'
  refine ⟨written, rfl, ?_⟩
  -- The update compares the two objects' JSON outside metadata and status.
  cases (specPart current.toJson).beq (specPart o.toJson) <;> simp [Object.withMeta]

/-- A patch that returns merged the patch into the stored object's JSON and stored the result
under its key, with the next generation after the stored one (1 when there is none) exactly when
the patch changes the object's JSON outside metadata and status. -/
theorem patchObject_generation {key : ResourceKey} {p : Json} {s s' : Store} {u : Object}
    (ran : (patchObject key p).run s = .ok u s') :
    ∃ current, s.lookup key = some current ∧ s'.lookup key = some u ∧
      u.metadata.generation = some (if (specPart current.toJson).beq (specPart (current.toJson.mergePatch p))
        then current.metadata.generation.getD 1 else nextGeneration (current.metadata.generation.getD 1)) := by
  obtain ⟨current, read, held, -, rfl, written, -⟩ := patchObject_run_eq ran
  refine ⟨current, held, written, ?_⟩
  -- The patch compares the object's JSON outside metadata and status before and after the merge.
  cases (specPart current.toJson).beq (specPart (current.toJson.mergePatch p)) <;> simp [Object.withMeta]

/-! A status patch. -/

/-- A plain computation checked on the cluster returned its value. -/
theorem StoreM.ofExcept_mapError_ok {ε : Type} {x : Except ε α} {g : ε → Error} {s s' : Store} {a : α}
    (ran : (StoreM.ofExcept (x.mapError g)).run s = .ok a s') : x = .ok a := by
  cases x with
  | error e => cases ran
  | ok b => cases ran; rfl

/-- A value found in a canonical object is canonical. -/
theorem Json.Canonical.get? {t : Json} (canonical : t.Canonical) {k : String} {v : Json}
    (found : t.get? k = some v) : v.Canonical := by
  -- Only an object has fields, and each of its values is canonical.
  cases t with
  | obj fs => exact ((Json.canonical_obj fs).mp canonical).2 (k, v) (Fields.mem_of_get? found)
  | _ => cases found

/-- Reading back a value that agrees with the JSON of an object as the cluster holds it except at
"status": the type stays, the metadata is the object's when its metadata reads back, and every
other field but the status is the object's. -/
theorem Object.ofJson_frame {current r : Object} (regular : current.Regular)
    (back : ObjectMeta.decode current.metadata.toJson.toYaml = .ok current.metadata) {fs : Fields}
    (canonical : (Json.obj fs).Canonical) (same : ∀ k, k ≠ "status" → fs.get? k = current.toJson.get? k)
    (read : Object.ofJson (.obj fs) = .ok r) :
    (∀ t, current.types = some t → r.types = some t) ∧ r.metadata = current.metadata ∧
      ∀ k, k ≠ "apiVersion" → k ≠ "kind" → k ≠ "metadata" → k ≠ "status" →
        Fields.get? r.data k = Fields.get? current.data k := by
  -- Reading the JSON back checks the type, decodes the metadata and keeps the rest.
  obtain ⟨readMeta, -, -, kept, types⟩ := Object.ofJson_obj_ok canonical read
  refine ⟨fun t typed => ?_, ?_, fun k notApi notKind notMeta notStatus => ?_⟩
  -- The type is read from apiVersion and kind, which the object's JSON carries.
  · obtain ⟨api, kind⟩ := Object.get?_toJson_types typed regular.unique
      (regular.reserved "apiVersion" (by simp)) (regular.reserved "kind" (by simp))
    exact types _ _ (by rw [same _ (by decide), api]) (by rw [same _ (by decide), kind])
  -- The metadata is decoded from the object's own, which reads back.
  · have decoded := readMeta _ (by rw [same _ (by decide), regular.toJson_get?_metadata])
    rw [back] at decoded
    exact (Except.ok.inj decoded).symm
  -- Every other field but status is read from the object's JSON.
  · rw [kept k notApi notKind notMeta, same k notStatus, Object.get?_toJson_data regular.unique notApi notKind notMeta]

/-- A status patch of an object as the cluster holds it, whose metadata reads back, changes
nothing outside status but the version: the type, the metadata but its resourceVersion, and
every other field stay. -/
theorem patchObjectStatus_frame {key : ResourceKey} {patch : Json} {s s' : Store} {u current : Object}
    (canonical : patch.Canonical) (held : s.lookup key = some current) (regular : current.Regular)
    (back : ObjectMeta.decode current.metadata.toJson.toYaml = .ok current.metadata)
    (ran : (patchObjectStatus key patch).run s = .ok u s') :
    s'.lookup key = some u ∧ (∀ t, current.types = some t → u.types = some t) ∧
      u.metadata = { current.metadata with resourceVersion := some (toString s'.version) } ∧
      ∀ k, k ≠ "apiVersion" → k ≠ "kind" → k ≠ "metadata" → k ≠ "status" →
        Fields.get? u.data k = Fields.get? current.data k := by
  -- The object's JSON is a sorted object of fields.
  obtain ⟨fs, json, sorted⟩ := current.sorted_toJson
  have canonicalFs : (Json.obj fs).Canonical := json ▸ regular.canonical
  -- Step through the patch: record, read, decode the merged value, hand out a version, store.
  unfold patchObjectStatus at ran
  obtain ⟨_, s₁, recorded, ran⟩ := run_bind_ok ran
  cases record_ok recorded
  obtain ⟨current', s₂, found, ran⟩ := run_bind_ok ran
  rw [stored_run, Store.lookup_log, held] at found
  cases found
  obtain ⟨read, s₃, decoded, ran⟩ := run_bind_ok ran
  obtain ⟨v, s₄, handed, ran⟩ := run_bind_ok ran
  cases handed
  obtain ⟨_, s₅, stored, ran⟩ := run_bind_ok ran
  cases stored
  cases ran
  -- The value read back is the object's JSON with at most its status replaced.
  have framed : ∃ fs' : Fields, (Json.obj fs').Canonical ∧ (∀ k, k ≠ "status" → fs'.get? k = current.toJson.get? k) ∧
      Object.ofJson (.obj fs') = .ok read := by
    revert decoded
    -- Without a status the value is the object's JSON; with one, only status is replaced.
    cases status : patch.get? "status" with
    | none =>
      intro decoded
      refine ⟨fs, canonicalFs, fun k _ => by rw [json]; rfl, ?_⟩
      rw [← json]
      exact StoreM.ofExcept_mapError_ok decoded
    | some st =>
      intro decoded
      have merged : (((current.toJson.get? "status").getD .null).mergePatch st).Canonical :=
        Json.Canonical.mergePatch (canonical.get? status)
          (Json.Canonical.getD fun x found => regular.canonical.get? found)
      refine ⟨Fields.insert fs "status" (((current.toJson.get? "status").getD .null).mergePatch st),
        (Json.canonical_obj _).mpr ⟨sorted.insert _ _, fun kv mem => ?_⟩, fun k other => ?_, ?_⟩
      -- The merged status is canonical, and so is every field kept.
      · rcases Fields.mem_insert mem with here | old
        · rw [here]
          exact merged
        · exact ((Json.canonical_obj fs).mp canonicalFs).2 kv old
      · rw [Fields.get?_insert, if_neg (Ne.symm other), json]
        rfl
      · have result := StoreM.ofExcept_mapError_ok decoded
        rw [json] at result ⊢
        exact result
  obtain ⟨fs', canonical', same, readOk⟩ := framed
  obtain ⟨types, metadata, data⟩ := Object.ofJson_frame regular back canonical' same readOk
  -- The stored object is the one decoded, stamped with the new version.
  refine ⟨Store.lookup_put_self _ _ _, types, ?_, data⟩
  simp only [Object.withMeta, metadata]
  rfl

/-! Stale updates. -/

/-- An update whose carried version is not the stored one is refused as stale when no failure
fires on it: the cluster logs it and changes nothing else. -/
theorem updateObject_stale {o current : Object} {k : ResourceKey} {s : Store} (named : o.key = .ok k)
    (free : findFailure s.failures .update k.name = none) (held : s.lookup k = some current)
    (carried : o.metadata.resourceVersion.isSome = true)
    (stale : o.metadata.resourceVersion ≠ current.metadata.resourceVersion) :
    (updateObject o).run s =
      .error (.conflict (k.render ++ " has been modified")) (s.log ⟨.update, k, none⟩) := by
  unfold updateObject
  -- Record the update, find the stored object, and compare the versions.
  simp only [named, StoreM.ofExcept, pure_bind]
  rw [EStateM.run_bind, record_run, free]
  dsimp only
  rw [EStateM.run_bind, stored_run, Store.lookup_log, held]
  dsimp only [Option.elim]
  -- The carried version is set and differs from the stored one.
  rw [if_pos (by simp [carried, stale])]
  rfl

/-- No lost update: an update carrying the version of an object read before a later write of
its key is refused as stale, as long as an object is stored there and no failure fires on
updates of its name. -/
theorem updateObject_stale_of_written {s₀ : Store} (versioned : s₀.Versioned) {k : ResourceKey}
    {o₀ : Object} (read : s₀.lookup k = some o₀) (before : List Call) (c : Call) (aimed : c.target = some k)
    {s₁ : Store} (wrote : c.run.run (Call.runAll before s₀) = .ok () s₁) (after : List Call)
    {current : Object} (held : (Call.runAll after s₁).lookup k = some current)
    (free : ∀ f ∈ (Call.runAll after s₁).failures, ¬ f.Fires .update k.name)
    {o : Object} (named : o.key = .ok k) (carried : o.metadata.resourceVersion = o₀.metadata.resourceVersion) :
    (updateObject o).run (Call.runAll after s₁) =
      .error (.conflict (k.render ++ " has been modified")) ((Call.runAll after s₁).log ⟨.update, k, none⟩) := by
  -- The counters before the read, at the write, and after it.
  have counted₀ := Call.counted_runAll before s₀
  have written := c.written_of_ok aimed wrote
  have counted₁ := Call.counted_runAll after s₁
  have later : s₀.version ≤ s₁.version := by
    have := counted₀.since.1
    rw [written.version]
    omega
  -- The object now stored carries a version handed out after the read: the write's, or a later one.
  have fresh : ¬ current.Issued s₀.version := by
    rcases counted₁.since.2 k current held with same | newer
    · exact fun issued => (written.fresh same).2 (issued.mono counted₀.since.1)
    · exact fun issued => newer (issued.mono later)
  -- The version read was issued before the write, which the stored object's was not.
  obtain ⟨n, below, stamped⟩ := versioned k o₀ read
  refine updateObject_stale named ((findFailure_eq_none_iff _).mpr free) held (by simp [carried, stamped]) ?_
  intro same
  exact fresh ⟨n, below, by rw [← same, carried, stamped]⟩

/-! The cluster's bookkeeping. -/

/-- The in-memory cluster's bookkeeping: versions grow and stay distinct, generations and uids
follow the API, a status patch touches only status, and a stale update is refused. -/
theorem versions_generations_bookkeeping :
    (∀ (c : Call) (k : ResourceKey) (s s' : Store), c.target = some k → c.run.run s = .ok () s' →
      s'.version = s.version + 1 ∧
        ∃ o, s'.lookup k = some o ∧ o.metadata.resourceVersion = some (toString s'.version)) ∧
    (∀ (s : Store) (before between : List Call) (c₁ c₂ : Call) (k₁ k₂ : ResourceKey) (s₁ s₂ : Store),
      c₁.target = some k₁ → c₁.run.run (Call.runAll before s) = .ok () s₁ →
      c₂.target = some k₂ → c₂.run.run (Call.runAll between s₁) = .ok () s₂ →
      s₁.version < s₂.version) ∧
    (∀ cs : List Call, (Call.runAll cs {}).Versioned ∧ (Call.runAll cs {}).Distinct) ∧
    (∀ (o c : Object) (s s' : Store), (createObject o).run s = .ok c s' →
      ∃ k, o.key = .ok k ∧ s'.lookup k = some c ∧ c.metadata.generation = some 1 ∧
        c.metadata.uid = some ("uid-" ++ k.name)) ∧
    (∀ (o u current : Object) (k : ResourceKey) (s s' : Store), o.key = .ok k →
      s.lookup k = some current → (updateObject o).run s = .ok u s' →
      s'.lookup k = some u ∧ u.metadata.uid = current.metadata.uid ∧
        u.metadata.generation = some (if (specPart current.toJson).beq (specPart o.toJson) then
          current.metadata.generation.getD 1 else nextGeneration (current.metadata.generation.getD 1))) ∧
    (∀ (key : ResourceKey) (p : Json) (u : Object) (s s' : Store), (patchObject key p).run s = .ok u s' →
      ∃ current, s.lookup key = some current ∧ s'.lookup key = some u ∧
        u.metadata.generation = some (if (specPart current.toJson).beq (specPart (current.toJson.mergePatch p))
          then current.metadata.generation.getD 1 else nextGeneration (current.metadata.generation.getD 1))) ∧
    (∀ g : Int, -9223372036854775808 ≤ g → g ≤ 9223372036854775807 →
      nextGeneration g = if g = 9223372036854775807 then -9223372036854775808 else g + 1) ∧
    (∀ (key : ResourceKey) (patch : Json) (u current : Object) (s s' : Store), patch.Canonical →
      s.lookup key = some current → current.Regular →
      ObjectMeta.decode current.metadata.toJson.toYaml = .ok current.metadata →
      (patchObjectStatus key patch).run s = .ok u s' →
      s'.lookup key = some u ∧ (∀ t, current.types = some t → u.types = some t) ∧
        u.metadata = { current.metadata with resourceVersion := some (toString s'.version) } ∧
        ∀ k, k ≠ "apiVersion" → k ≠ "kind" → k ≠ "metadata" → k ≠ "status" →
          Fields.get? u.data k = Fields.get? current.data k) ∧
    ∀ (s₀ : Store) (k : ResourceKey) (o₀ : Object) (before : List Call) (c : Call) (s₁ : Store)
      (after : List Call) (current o : Object), s₀.Versioned → s₀.lookup k = some o₀ →
      c.target = some k → c.run.run (Call.runAll before s₀) = .ok () s₁ →
      (Call.runAll after s₁).lookup k = some current →
      (∀ f ∈ (Call.runAll after s₁).failures, ¬ f.Fires .update k.name) →
      o.key = .ok k → o.metadata.resourceVersion = o₀.metadata.resourceVersion →
      (updateObject o).run (Call.runAll after s₁) =
        .error (.conflict (k.render ++ " has been modified")) ((Call.runAll after s₁).log ⟨.update, k, none⟩) :=
  ⟨fun c _ _ _ aimed ran => ⟨(c.written_of_ok aimed ran).version, (c.written_of_ok aimed ran).stamped⟩,
    fun _ _ between _ c₂ _ _ s₁ _ _ _ aimed ran => Call.version_lt_written between s₁ c₂ aimed ran,
    Call.distinct_runAll_empty,
    fun _ _ _ _ ran => createObject_generation ran,
    fun _ _ _ _ _ _ named held ran => updateObject_generation named held ran,
    fun _ _ _ _ _ ran => patchObject_generation ran,
    fun _ low high => nextGeneration_eq low high,
    fun _ _ _ _ _ _ canonical held regular back ran => patchObjectStatus_frame canonical held regular back ran,
    fun _ _ _ before c _ after _ _ versioned read aimed wrote held free named carried =>
      updateObject_stale_of_written versioned read before c aimed wrote after held free named carried⟩

/-- The ConfigMap `x` of the namespace istio-system, with a value and maybe a version. -/
def xConfigMap (value : String) (version : Option String) : Object :=
  { types := some ⟨"v1", "ConfigMap"⟩,
    metadata := { name := some "x", ns := some "istio-system", resourceVersion := version },
    data := [("data", .obj [("a", .str value)])] }

/-- The key of `xConfigMap`. -/
def xConfigMapKey : ResourceKey := ⟨"", "v1", "ConfigMap", "istio-system", "x"⟩

/-- `xConfigMap` stored at a given generation. -/
def xConfigMapAt (value : String) (generation : Int) : Object :=
  { xConfigMap value none with metadata := { (xConfigMap value none).metadata with generation := some generation } }

/-- Two ways the bookkeeping departs from plain counting. Seed `x`, read it at version 1, update
it, delete it: an update carrying version 1 then finds nothing and fails with not found, not a
conflict. And an update that changes `x` stored at the largest signed 64-bit generation stores it
at the smallest. -/
theorem stale_update_not_found_and_generation_wraps :
    (((Call.runAll [.insert (xConfigMap "1" none)] {}).lookup xConfigMapKey).map
        (·.metadata.resourceVersion) = some (some "1") ∧
      (∃ s, (Call.update (xConfigMap "2" none)).run.run
        (Call.runAll [.insert (xConfigMap "1" none), .get xConfigMapKey] {}) = .ok () s) ∧
      ∃ s', (updateObject (xConfigMap "3" (some "1"))).run
        (Call.runAll [.insert (xConfigMap "1" none), .get xConfigMapKey, .update (xConfigMap "2" none),
          .delete xConfigMapKey (some .foreground)] {}) = .error (.notFound xConfigMapKey.render) s') ∧
    ((Call.runAll [.insert (xConfigMapAt "1" 9223372036854775807), .update (xConfigMap "2" none)] {}).lookup
        xConfigMapKey).bind (·.metadata.generation) = some (-9223372036854775808) :=
  ⟨⟨rfl, ⟨_, rfl⟩, ⟨_, rfl⟩⟩, by decide⟩

end MeshControl
