import MeshControl.Proofs.Engine.Deletion
import MeshControl.Proofs.Engine.Failures

/-! Which objects a pass leaves in the cluster: a write that succeeded leaves its object there, and
one that failed leaves a plain failure, so a pass without failures leaves what it installed. -/

namespace MeshControl

/-! Writes keep the key of the object written. -/

/-- A patch is for the object it brings up to date. -/
theorem createPatch_key {current desired : Object} {p : ObjectPatch}
    (made : createPatch current desired = .ok (some p)) : desired.key = .ok p.key := by
  unfold createPatch at made
  -- Both keys must read, and agree, before any patch is made.
  cases hc : current.key with
  | error e => simp [hc, bind, Except.bind] at made
  | ok ck =>
    cases hd : desired.key with
    | error e => simp [hc, hd, bind, Except.bind] at made
    | ok dk =>
      simp only [hc, hd, bind, Except.bind] at made
      split at made
      · simp [throw, throwThe, MonadExceptOf.throw] at made
      · cases ha : current.lastApplied with
        | error e => simp [ha] at made
        | ok original =>
          -- An empty patch is none; any other is made for the desired key.
          simp only [ha] at made
          split at made
          · split at made
            · cases made
            · cases made
              rfl
          · cases made

/-- A patch against a desired object of a known key is for that key. -/
theorem createPatch_key_eq {current desired : Object} {p : ObjectPatch} {key : ResourceKey}
    (keyed : desired.key = .ok key) (made : createPatch current desired = .ok (some p)) : p.key = key :=
  Except.ok.inj ((createPatch_key made).symm.trans keyed)

/-- Editing Kiali's configuration rewrites the data of the object, never its key. -/
theorem kialiConfigured_key {obj o : Object} {grafana tracing : Option String}
    (edited : kialiConfigured obj grafana tracing = .ok o) : o.key = obj.key := by
  unfold kialiConfigured at edited
  simp only [bind, Except.bind, pure, Except.pure] at edited
  -- Without URLs the object is returned; otherwise only its data is rewritten.
  split at edited
  · cases edited
    rfl
  · repeat' split at edited
    all_goals first
      | (cases edited; rfl)
      | cases edited

/-- The Kiali hook rewrites the data of the object, never its key. -/
theorem configureKiali_key (ns : String) (obj : Object) :
    Yields (fun o => o.key = obj.key) (configureKiali ns obj) := by
  unfold configureKiali
  refine Yields.ite (Yields.pure rfl) ?_
  refine Yields.bind (Yields.of_forall _ fun _ => trivial) fun grafana _ => ?_
  refine Yields.bind (Yields.of_forall _ fun _ => trivial) fun tracing _ => ?_
  intro w o w' ran
  -- The edited object is what the hook returns.
  cases edited : kialiConfigured obj grafana tracing with
  | error e =>
    rw [edited] at ran
    cases ran
  | ok edit =>
    rw [edited] at ran
    cases ran
    exact kialiConfigured_key edited

theorem Hooks.beforeApply_key (h : Hooks) (ns : String) (key : ResourceKey) (obj : Object) :
    Yields (fun o => o.key = obj.key) (h.beforeApply ns key obj) :=
  Yields.ite (configureKiali_key ns obj) (Yields.pure rfl)

/-- The hooks and the stamp keep the key of the object they prepare. -/
theorem Hooks.beforeApply_stamped_key {h : Hooks} {ns : String} {key : ResourceKey} {obj D : Object}
    {w w' : World} (keyed : obj.key = .ok key) (hooked : (h.beforeApply ns key obj).run w = .ok D w') :
    D.stampLastApplied.key = .ok key :=
  (Hooks.beforeApply_key h ns key obj w D w' hooked).trans keyed

/-! A write that returns leaves its object in the cluster. -/

theorem getObject_present {key : ResourceKey} {s s' : Store} {o : Object}
    (ran : (getObject key).run s = .ok o s') : s'.contains key := by
  obtain ⟨_, s₁, _, looked⟩ := run_bind_ok ran
  obtain ⟨s₂, s₃, got, found⟩ := run_bind_ok looked
  cases got
  -- A read that returned found its object stored.
  split at found
  · rename_i stored
    cases found
    simp [Store.contains, stored]
  · cases found

theorem createObject_present {o created : Object} {key : ResourceKey} {s s' : Store}
    (keyed : o.key = .ok key) (ran : (createObject o).run s = .ok created s') : s'.contains key := by
  obtain ⟨k, s₁, read, rest⟩ := run_bind_ok ran
  -- The object is stored under its own key.
  rw [keyed] at read
  cases read
  obtain ⟨_, s₂, _, rest⟩ := run_bind_ok rest
  obtain ⟨s₃, s₄, got, rest⟩ := run_bind_ok rest
  cases got
  dsimp only at rest
  split at rest
  · -- An object already there is a conflict, not a return.
    obtain ⟨_, _, thrown, _⟩ := run_bind_ok rest
    cases thrown
  · obtain ⟨v, s₅, _, rest⟩ := run_bind_ok rest
    obtain ⟨_, s₆, modified, rest⟩ := run_bind_ok rest
    cases modified
    cases rest
    simp

theorem patchObject_present {key : ResourceKey} {patch : Json} {s s' : Store} {o : Object}
    (ran : (patchObject key patch).run s = .ok o s') : s'.contains key := by
  obtain ⟨_, s₁, _, rest⟩ := run_bind_ok ran
  obtain ⟨current, s₂, _, rest⟩ := run_bind_ok rest
  obtain ⟨patched, s₃, _, rest⟩ := run_bind_ok rest
  obtain ⟨v, s₄, _, rest⟩ := run_bind_ok rest
  -- The merged object is stored back under the patched key.
  obtain ⟨_, s₅, modified, rest⟩ := run_bind_ok rest
  cases modified
  cases rest
  simp

/-- A cluster call that returned ran on the world's cluster. -/
theorem Engine.cluster_ok {α : Type} {x : StoreM α} {w w' : World} {a : α}
    (ran : (Engine.cluster x).run w = .ok a w') : x.run w.store = .ok a w'.store := by
  rw [Engine.cluster_run] at ran
  -- A stopped world never returns from a call.
  split at ran
  · cases ran
  · cases result : x.run w.store with
    | ok b s =>
      rw [result] at ran
      cases ran
      rfl
    | error e s =>
      rw [result] at ran
      cases ran

/-- Applying an object with a key never fails; when it succeeds, the object is in the cluster,
and when it does not, the failure is plain. -/
theorem applyObject_present (ctx : Context) {key : ResourceKey} {desired : Object}
    (keyed : desired.key = .ok key) (status : ResourceStatus) (w : World) :
    Returns (applyObject ctx key desired status) w fun r w' =>
      (r.1 = .ok () → w'.store.contains key) ∧ (∀ e, r.1 = .error e → e.Plain) := by
  refine (applyObject_runs ctx key desired status w).mono fun r w' run => ?_
  -- One case per way an application goes.
  cases run with
  -- Every failure is of a hook, a read, a create or a patch, each plain.
  | hookFailed hooked =>
    exact ⟨(fun failed => by cases failed), fun _ same => by
      cases same
      exact Hooks.beforeApply_plain _ _ _ _ _ _ _ hooked⟩
  | readFailed _ read _ =>
    exact ⟨(fun failed => by cases failed), fun _ same => by
      cases same
      exact Engine.cluster_plain (getObject_plain key) _ _ _ read⟩
  | createFailed _ _ _ create =>
    exact ⟨(fun failed => by cases failed), fun _ same => by
      cases same
      exact Engine.cluster_plain (createObject_plain _) _ _ _ create⟩
  | created hooked _ _ create after =>
    -- The created object stays through the hooks after a create, which delete nothing.
    have present := createObject_present (Hooks.beforeApply_stamped_key keyed hooked) (Engine.cluster_ok create)
    exact ⟨fun _ => (Keeps.of_ok after (Hooks.afterCreate_steady _ _ _)).store.present _ present,
      fun _ same => by cases same⟩
  | unpatchable _ _ made =>
    exact ⟨(fun failed => by cases failed), fun _ same => by
      cases same
      exact createPatch_plain _ _ _ made⟩
  -- A converged object was found by the read.
  | converged _ read _ => exact ⟨fun _ => getObject_present (Engine.cluster_ok read), fun _ same => by cases same⟩
  | patchFailed _ _ _ patch =>
    exact ⟨(fun failed => by cases failed), fun _ same => by
      cases same
      exact Engine.cluster_plain (patchObject_plain _ _) _ _ _ patch⟩
  | @patched D X P p w₁ w₂ w₃ hooked _ made patch =>
    -- A drifted object is patched under the key of the desired object; counting it keeps the cluster.
    have patchKey := createPatch_key_eq (Hooks.beforeApply_stamped_key keyed hooked) made
    have present : w₃.store.contains key := patchKey ▸ patchObject_present (Engine.cluster_ok patch)
    exact ⟨fun _ => present, fun _ same => by cases same⟩

/-! A pass that met no failure leaves every status it appended naming an object in the
cluster. -/

namespace Tally

/-- What a part of a pass leaves of a tally, in the cluster as that part ends: the failures so
far stay, followed by plain failures of its own; and when it met none, the statuses it appended
name objects the cluster holds. -/
structure Installs (t t' : Tally) (s : Store) : Prop where
  failed : ∃ failed, t'.errors.errors = t.errors.errors ++ failed ∧ ∀ e ∈ failed, e.Plain
  present : t'.errors.errors = t.errors.errors →
    ∃ applied, t'.status.resources = t.status.resources ++ applied ∧ ∀ r ∈ applied, s.contains r.resource

theorem Installs.refl (t : Tally) (s : Store) : Installs t t s :=
  ⟨⟨[], by simp, by simp⟩, fun _ => ⟨[], by simp, by simp⟩⟩

/-- A part that met a plain failure has nothing to show present. -/
theorem Installs.of_plain {t t' : Tally} {s : Store} {e : Error} (pushed : t'.errors = t.errors.push e)
    (isPlain : e.Plain) : Installs t t' s := by
  -- A plain failure is added as it is.
  have grew : t'.errors.errors = t.errors.errors ++ [e] := by rw [pushed, Aggregate.push_plain _ isPlain]
  exact ⟨⟨[e], grew, by simpa using isPlain⟩, fun same => by simp [grew] at same⟩

/-- Objects present stay present while the cluster grows. -/
theorem Installs.mono {t t' : Tally} {s s' : Store} (installs : Installs t t' s)
    (grew : Store.Grows s s') : Installs t t' s' := by
  refine ⟨installs.failed, fun same => ?_⟩
  -- Objects present stay present as the cluster grows.
  obtain ⟨applied, appended, present⟩ := installs.present same
  exact ⟨applied, appended, fun r member => grew.present _ (present r member)⟩

theorem Installs.trans {t₁ t₂ t₃ : Tally} {s : Store} (first : Installs t₁ t₂ s)
    (second : Installs t₂ t₃ s) : Installs t₁ t₃ s := by
  obtain ⟨failed₁, grew₁, plain₁⟩ := first.failed
  obtain ⟨failed₂, grew₂, plain₂⟩ := second.failed
  refine ⟨⟨failed₁ ++ failed₂, by rw [grew₂, grew₁, List.append_assoc], fun e member => ?_⟩,
    fun same => ?_⟩
  -- Each failure is one part's, so plain.
  · rcases List.mem_append.mp member with early | late
    · exact plain₁ e early
    · exact plain₂ e late
  · -- No failure in the whole means none in either part.
    have none : failed₁ = [] ∧ failed₂ = [] := by simpa [grew₂, grew₁] using same
    obtain ⟨a₁, appended₁, present₁⟩ := first.present (by simp [grew₁, none.1])
    obtain ⟨a₂, appended₂, present₂⟩ := second.present (by simp [grew₂, none.2])
    refine ⟨a₁ ++ a₂, by rw [appended₂, appended₁, List.append_assoc], fun r member => ?_⟩
    rcases List.mem_append.mp member with early | late
    · exact present₁ r early
    · exact present₂ r late

/-- Steps that delete nothing, one after the other. -/
theorem Installs.then {t₁ t₂ t₃ : Tally} {w₁ w₂ w₃ : World}
    (first : World.Steady w₁ w₂ ∧ Installs t₁ t₂ w₂.store)
    (second : World.Steady w₂ w₃ ∧ Installs t₂ t₃ w₃.store) :
    World.Steady w₁ w₃ ∧ Installs t₁ t₃ w₃.store :=
  ⟨first.1.trans second.1, (first.2.mono second.1.store).trans second.2⟩

/-- One object applied: its status is appended, and its outcome noted. -/
theorem Installs.single (t : Tally) (k : ResourceKey) (entry : ResourceStatus) {s : Store}
    {result : Except Error Unit} (plain : FailsPlainly result)
    (present : result = .ok () → s.contains entry.resource) :
    Installs t (((t.process k).addResource entry).collect result) s := by
  -- A success appends the status of an object present; a failure is plain.
  cases result with
  | ok u =>
    cases u
    refine ⟨⟨[], by simp, by simp⟩, fun _ => ⟨[entry], by simp, ?_⟩⟩
    simpa using present rfl
  | error e =>
    have isPlain : e.Plain := plain e rfl
    exact Installs.of_plain (by simp) isPlain

/-- The failures of a part gathered into the pass as one outcome. -/
theorem Installs.regather {t t' : Tally} {s : Store} (installs : Installs { t with errors := {} } t' s) :
    Installs t ({ t' with errors := t.errors }.collect t'.errors.toResult) s := by
  obtain ⟨failed, grew, plain⟩ := installs.failed
  -- The part started with no failure of its own.
  have own : t'.errors.errors = failed := by simpa using grew
  have gathered := Aggregate.collect_toResult t.errors t'.errors (own ▸ plain)
  refine ⟨⟨failed, by simpa [own] using gathered, plain⟩, fun same => ?_⟩
  -- Nothing was gathered, so the part met no failure.
  have none : t'.errors.errors = [] := by simpa [gathered] using same
  obtain ⟨applied, appended, present⟩ := installs.present (by simpa using none)
  exact ⟨applied, by simpa using appended, present⟩

end Tally

/-- Applying an object that is not a list deletes nothing, and its status names an object
present when it succeeded. -/
theorem reconcileSingle_installs (ctx : Context) (old : ComponentStatus) (desired : Object)
    (t : Tally) (w : World) :
    Returns (reconcileSingle ctx old desired t) w fun r w' =>
      World.Steady w w' ∧ Tally.Installs t (r.2.collect r.1) w'.store := by
  refine Returns.and (Returns.mono (Returns.with_keeps (reconcileSingle_steady ctx old desired t)
    (Returns.mono (reconcileSingle_returns ctx old desired t w) fun _ _ _ => trivial))
    fun _ _ ⟨steady, _⟩ => steady) ?_
  unfold reconcileSingle
  dsimp only
  -- An object without a key fails plainly; one with a key is applied.
  split
  · rename_i e failed
    -- An object without a key is a plain failure, with nothing appended.
    have isPlain : e.Plain := by
      rw [Context.bookkeeping_key] at failed
      exact Object.key_plain desired e failed
    exact Returns.pure (Tally.Installs.of_plain rfl isPlain)
  · rename_i key found
    refine Returns.bind (Returns.mono ((applyObject_present ctx found _ w).and
      (applyObject_returns ctx key _ _ w)) fun ⟨result, status⟩ w₁ ⟨⟨present, plain⟩, named⟩ => ?_)
    refine Returns.bind (Returns.mono (Engine.now_returns w₁) fun now w₂ ⟨_, same⟩ => ?_)
    subst same
    have keyed : status.resource = key := by simpa using named
    exact Returns.pure (Tally.Installs.single t key _ plain fun ok => keyed ▸ present ok)

/-- Items applied in turn, each deleting nothing and leaving its statuses present. -/
theorem Tally.foldlM_installs {α : Type} {items : List α} {f : Tally → α → Engine Tally}
    (each : ∀ i ∈ items, ∀ t w, Returns (f t i) w fun t' w' =>
      World.Steady w w' ∧ Tally.Installs t t' w'.store) :
    ∀ t w, Returns (items.foldlM f t) w fun t' w' => World.Steady w w' ∧ Tally.Installs t t' w'.store :=
  Returns.foldlM (R := fun _ t w t' w' => World.Steady w w' ∧ Tally.Installs t t' w'.store) items
    (fun t w => ⟨World.Steady.refl w, Tally.Installs.refl t w.store⟩)
    (fun _ _ _ _ _ _ _ _ first later => Tally.Installs.then first later) each

/-- Applying an object tree deletes nothing, and when it met no failure every status it
appended names an object present. -/
theorem reconcileTree_installs (ctx : Context) (old : ComponentStatus) :
    ∀ (fuel : Nat) (desired : Object) (t : Tally) (w : World),
      Returns (reconcileTree ctx old fuel desired t) w fun t' w' =>
        World.Steady w w' ∧ Tally.Installs t t' w'.store
  | 0, desired, t, w => by
    unfold reconcileTree
    exact Returns.bind (Returns.mono (reconcileSingle_installs ctx old desired t w)
      fun _ _ installs => Returns.pure installs)
  | fuel + 1, desired, t, w => by
    unfold reconcileTree
    -- A list unfolds into its items; anything else is one object.
    split
    · split
      · -- Items that are not all objects are a plain failure of the list.
        rename_i e failed
        have isPlain : e.Plain := Object.listItems_plain desired e failed
        exact Returns.pure ⟨World.Steady.refl w, Tally.Installs.of_plain rfl isPlain⟩
      · exact Tally.foldlM_installs (fun item _ t w => reconcileTree_installs ctx old fuel item t w) t w
    · exact Returns.bind (Returns.mono (reconcileSingle_installs ctx old desired t w)
        fun _ _ installs => Returns.pure installs)

/-- Applying an object within a component pass deletes nothing, and gathers its failures as one
outcome. -/
theorem reconcileObject_installs (ctx : Context) (old : ComponentStatus) (desired : Object)
    (t : Tally) (w : World) :
    Returns (reconcileObject ctx old desired t) w fun r w' =>
      World.Steady w w' ∧ Tally.Installs t (r.2.collect r.1) w'.store := by
  unfold reconcileObject
  refine Returns.bind (Returns.mono (reconcileTree_installs ctx old _ desired _ w)
    fun t' _ ⟨steady, installs⟩ => ?_)
  exact Returns.pure ⟨steady, installs.regather⟩

/-- A document that cannot be read is a plain failure naming its file. -/
theorem Manifest.objects_plain (m : Manifest) : ∀ d ∈ m.objects, FailsPlainly d := by
  intro d member e failed
  simp only [Manifest.objects, List.mem_filterMap] at member
  obtain ⟨⟨i, raw⟩, _, decoded⟩ := member
  subst failed
  -- A document that is null gives nothing; one that does not read, a manifest failure.
  split at decoded
  · cases decoded
  · cases decoded
  · cases decoded
    exact Error.plain_manifest _

/-- Applying the manifests of a component deletes nothing, and when it met no failure every
status it appended names an object present. -/
theorem applyManifests_installs (ctx : Context) (old : ComponentStatus) :
    ∀ (ms : List Manifest) (t : Tally) (w : World),
      Returns (applyManifests ctx old ms t) w fun t' w' =>
        World.Steady w w' ∧ Tally.Installs t t' w'.store
  | [], t, w => Returns.pure ⟨World.Steady.refl w, Tally.Installs.refl t w.store⟩
  | m :: rest, t, w => by
    unfold applyManifests
    -- The manifest's own documents come first, then the rest of the manifests.
    have later : ∀ t₁ w₁, World.Steady w w₁ ∧ Tally.Installs t t₁ w₁.store →
        Returns (applyManifests ctx old rest t₁) w₁ fun t' w' =>
          World.Steady w w' ∧ Tally.Installs t t' w'.store :=
      fun t₁ w₁ first => Returns.mono (applyManifests_installs ctx old rest t₁ w₁) fun _ _ second =>
        Tally.Installs.then first second
    -- A file that is not YAML adds nothing.
    split
    · exact Returns.bind (Returns.pure (later t w ⟨World.Steady.refl w, Tally.Installs.refl t w.store⟩))
    · refine Returns.bind (Returns.mono (Tally.foldlM_installs (fun decoded member t w => ?_) t w)
        fun t₁ w₁ first => later t₁ w₁ first)
      -- Each document that reads is applied; a broken one is a plain failure.
      cases decoded with
      | ok obj =>
        exact Returns.bind (Returns.mono (reconcileObject_installs ctx old obj t w)
          fun _ _ installs => Returns.pure installs)
      | error e =>
        have isPlain : e.Plain := m.objects_plain _ member e rfl
        exact Returns.pure ⟨World.Steady.refl w, Tally.Installs.of_plain rfl isPlain⟩

end MeshControl
