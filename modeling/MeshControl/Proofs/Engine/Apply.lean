import MeshControl.Engine.Component
import MeshControl.Proofs.Engine.Hooks

/-! What applying the desired objects of a component does, whatever the cluster answers: it
never fails, it deletes nothing, and each leaf object that has a key leaves one status under
that key, in the order of the leaves of the manifests. -/

namespace MeshControl

/-- Bookkeeping touches labels, annotations and owner references, never the key. -/
@[simp] theorem Context.bookkeeping_key (ctx : Context) (o : Object) :
    (ctx.bookkeeping o).key = o.key := by
  -- The key reads the types, the name and the namespace, which bookkeeping copies.
  have name : (ctx.bookkeeping o).metadata.name = o.metadata.name := by
    unfold Context.bookkeeping
    dsimp only
    split
    · split <;> rfl
    · rfl
  have ns : (ctx.bookkeeping o).metadata.ns = o.metadata.ns := by
    unfold Context.bookkeeping
    dsimp only
    split
    · split <;> rfl
    · rfl
  have types : (ctx.bookkeeping o).types = o.types := rfl
  simp only [Object.key, Object.ns, name, ns, types]

/-- A status found for a key, or a fresh one, is the status of that key. -/
@[simp] theorem ComponentStatus.find?_getD_resource (c : ComponentStatus) (k : ResourceKey) :
    ((c.find? k).getD (.ofKey k)).resource = k := by
  unfold ComponentStatus.find?
  -- A found status was found by its key; a fresh one is made from it.
  cases found : c.resources.find? (·.resource == k) with
  | none => rfl
  | some r => simpa using List.find?_some found

namespace Object

/-- The objects a desired object stands for: itself, or the items of a list, nested while
`fuel` lasts; a list whose items do not all read as objects stands for none. -/
def leaves : Nat → Object → List Object
  | 0, o => [o]
  | fuel + 1, o =>
    if o.isList then
      match o.listItems with
      | .ok items => items.flatMap (leaves fuel)
      | .error _ => []
    else [o]

/-- The keys of the leaves of a desired object, in order, as deep as a pass unfolds it. -/
def leafKeys (o : Object) : List ResourceKey :=
  (o.leaves (o.toJson.depth + 1)).filterMap fun leaf => leaf.key.toOption

end Object

/-- The keys a document of a manifest renders: those of its leaves when it reads as an object. -/
def documentKeys : Except Error Object → List ResourceKey
  | .ok o => o.leafKeys
  | .error _ => []

/-- The keys a manifest renders, document by document; none for a file that is not YAML. -/
def Manifest.keys (m : Manifest) : List ResourceKey :=
  if m.isYaml then m.objects.flatMap documentKeys else []

/-- The keys the manifests of a component render, in order. -/
def renderedKeys (ms : List Manifest) : List ResourceKey := ms.flatMap Manifest.keys

namespace Tally

@[simp] theorem process_status (t : Tally) (k : ResourceKey) : (t.process k).status = t.status := by
  unfold process
  -- Noting a key touches only the list of keys.
  split <;> rfl

@[simp] theorem process_errors (t : Tally) (k : ResourceKey) : (t.process k).errors = t.errors := by
  unfold process
  split <;> rfl

@[simp] theorem addResource_resources (t : Tally) (r : ResourceStatus) :
    (t.addResource r).status.resources = t.status.resources ++ [r] := rfl

@[simp] theorem addResource_errors (t : Tally) (r : ResourceStatus) :
    (t.addResource r).errors = t.errors := rfl

@[simp] theorem collect_status (t : Tally) (r : Except Error Unit) : (t.collect r).status = t.status :=
  rfl

@[simp] theorem collect_errors (t : Tally) (r : Except Error Unit) :
    (t.collect r).errors = t.errors.collect r := rfl

/-- What applying objects with keys `keys` adds to a tally: the component's own status and
name stay, the keys are noted as applied, and one status per key is appended in order. -/
structure Adds (keys : List ResourceKey) (t t' : Tally) : Prop where
  status : t'.status.status = t.status.status
  name : t'.status.resource = t.status.resource
  processed : ∀ k, k ∈ t'.processed ↔ k ∈ t.processed ∨ k ∈ keys
  applied : ∃ applied : List ResourceStatus,
    applied.map (·.resource) = keys ∧ t'.status.resources = t.status.resources ++ applied

theorem Adds.refl (t : Tally) : Adds [] t t :=
  ⟨rfl, rfl, by simp, ⟨[], rfl, by simp⟩⟩

theorem Adds.trans {k₁ k₂ : List ResourceKey} {t₁ t₂ t₃ : Tally} (first : Adds k₁ t₁ t₂)
    (second : Adds k₂ t₂ t₃) : Adds (k₁ ++ k₂) t₁ t₃ := by
  -- The statuses appended by both steps, in order.
  obtain ⟨a₁, keys₁, grew₁⟩ := first.applied
  obtain ⟨a₂, keys₂, grew₂⟩ := second.applied
  refine ⟨second.status.trans first.status, second.name.trans first.name, fun k => ?_,
    ⟨a₁ ++ a₂, by simp [keys₁, keys₂], by simp [grew₁, grew₂]⟩⟩
  rw [second.processed, first.processed, List.mem_append, or_assoc]

/-- Noting an outcome leaves what was applied as it was. -/
theorem Adds.collect {keys : List ResourceKey} {t t' : Tally} (added : Adds keys t t')
    (r : Except Error Unit) : Adds keys t (t'.collect r) :=
  ⟨added.status, added.name, added.processed, added.applied⟩

/-- Applying one object notes its key and appends its status. -/
theorem Adds.single (t : Tally) {key : ResourceKey} {r : ResourceStatus} (named : r.resource = key) :
    Adds [key] t ((t.process key).addResource r) := by
  unfold process addResource
  -- A key already noted stays once; a new one is added.
  split
  · rename_i held
    refine ⟨rfl, rfl, fun k => ?_, ⟨[r], by simp [named], rfl⟩⟩
    -- The key was noted before, so the list of keys stays as it was.
    simp only [List.mem_singleton]
    constructor
    · exact Or.inl
    · rintro (noted | rfl)
      · exact noted
      · simpa using held
  · exact ⟨rfl, rfl, fun k => by simp, ⟨[r], by simp [named], rfl⟩⟩

end Tally

/-! ### The ways applying an object goes -/

/-- The status observed at the generation the cluster reported, or as it was when it reported
none. -/
def ResourceStatus.observeSome (r : ResourceStatus) (generation : Option Int) : ResourceStatus :=
  (generation.map r.observe).getD r

namespace ResourceStatus

@[simp] theorem observe_resource (r : ResourceStatus) (g : Int) : (r.observe g).resource = r.resource :=
  rfl

@[simp] theorem observe_conditions (r : ResourceStatus) (g : Int) :
    (r.observe g).status.conditions = r.status.conditions := rfl

@[simp] theorem observeSome_resource (r : ResourceStatus) (g : Option Int) :
    (r.observeSome g).resource = r.resource := by
  cases g <;> rfl

@[simp] theorem observeSome_conditions (r : ResourceStatus) (g : Option Int) :
    (r.observeSome g).status.conditions = r.status.conditions := by
  cases g <;> rfl

end ResourceStatus

theorem Engine.record_run (f : Metrics → Metrics) (w : World) :
    (Engine.record f).run w = .ok () { w with metrics := f w.metrics } := rfl

/-- An attempt returns the outcome of its step, in the world the step ended in. -/
theorem Engine.attempt_outcome {α : Type} (x : Engine α) (w : World) :
    Returns (Engine.attempt x) w fun r w' =>
      (∀ a, r = .ok a → x.run w = .ok a w') ∧ (∀ e, r = .error e → x.run w = .error e w') :=
  (Engine.attempt_returns (R := fun _ _ => True) (fun _ => trivial) w).mono fun _ _ facts => facts.2

/-- How a run of applyObject from w went: the hooks ran, the object was read, then created when
missing or patched when it drifted; proofs take these ways and not the definition's branches. -/
inductive ApplyRun (ctx : Context) (key : ResourceKey) (desired : Object) (status : ResourceStatus)
    (w : World) : Except Error Unit × ResourceStatus → World → Prop
  /-- The hooks failed. -/
  | hookFailed {e : Error} {w₁ : World}
      (hooked : (ctx.hooks.beforeApply ctx.ns key desired).run w = .error e w₁) :
      ApplyRun ctx key desired status w (.error e, status) w₁
  /-- The read failed, other than by finding nothing. -/
  | readFailed {D : Object} {e : Error} {w₁ w₂ : World}
      (hooked : (ctx.hooks.beforeApply ctx.ns key desired).run w = .ok D w₁)
      (read : (Engine.cluster (getObject key)).run w₁ = .error e w₂) (found : e.isNotFound = false) :
      ApplyRun ctx key desired status w (.error e, status) w₂
  /-- Nothing was found, and the create failed. -/
  | createFailed {D : Object} {e e' : Error} {w₁ w₂ w₃ : World}
      (hooked : (ctx.hooks.beforeApply ctx.ns key desired).run w = .ok D w₁)
      (read : (Engine.cluster (getObject key)).run w₁ = .error e w₂) (missing : e.isNotFound = true)
      (create : (Engine.cluster (createObject D.stampLastApplied)).run w₂ = .error e' w₃) :
      ApplyRun ctx key desired status w (.error e', status) w₃
  /-- Nothing was found; the object was created, the create counted, and the hooks after a
  create ran. -/
  | created {D c : Object} {e : Error} {w₁ w₂ w₃ w₄ : World}
      (hooked : (ctx.hooks.beforeApply ctx.ns key desired).run w = .ok D w₁)
      (read : (Engine.cluster (getObject key)).run w₁ = .error e w₂) (missing : e.isNotFound = true)
      (create : (Engine.cluster (createObject D.stampLastApplied)).run w₂ = .ok c w₃)
      (after : (ctx.hooks.afterCreate key c).run
        { w₃ with metrics := w₃.metrics.countOperation key.kind "create" } = .ok () w₄) :
      ApplyRun ctx key desired status w (.ok (), status.observe (c.metadata.generation.getD 1)) w₄
  /-- The object was found, and no patch could be made against it. -/
  | unpatchable {D X : Object} {e : Error} {w₁ w₂ : World}
      (hooked : (ctx.hooks.beforeApply ctx.ns key desired).run w = .ok D w₁)
      (read : (Engine.cluster (getObject key)).run w₁ = .ok X w₂)
      (made : createPatch X D.stampLastApplied = .error e) :
      ApplyRun ctx key desired status w (.error e, status) w₂
  /-- The object was found and needs no patch. -/
  | converged {D X : Object} {w₁ w₂ : World}
      (hooked : (ctx.hooks.beforeApply ctx.ns key desired).run w = .ok D w₁)
      (read : (Engine.cluster (getObject key)).run w₁ = .ok X w₂)
      (made : createPatch X D.stampLastApplied = .ok none) :
      ApplyRun ctx key desired status w (.ok (), status.observeSome X.metadata.generation) w₂
  /-- The object was found and had drifted; Reconciled was removed, and the patch failed. -/
  | patchFailed {D X : Object} {p : ObjectPatch} {e : Error} {w₁ w₂ w₃ : World}
      (hooked : (ctx.hooks.beforeApply ctx.ns key desired).run w = .ok D w₁)
      (read : (Engine.cluster (getObject key)).run w₁ = .ok X w₂)
      (made : createPatch X D.stampLastApplied = .ok (some p))
      (patch : (Engine.cluster (patchObject p.key p.body)).run w₂ = .error e w₃) :
      ApplyRun ctx key desired status w (.error e, { status with status := status.status.remove .reconciled }) w₃
  /-- The object was found and had drifted; Reconciled was removed, the patch went through, and
  it counted. -/
  | patched {D X P : Object} {p : ObjectPatch} {w₁ w₂ w₃ : World}
      (hooked : (ctx.hooks.beforeApply ctx.ns key desired).run w = .ok D w₁)
      (read : (Engine.cluster (getObject key)).run w₁ = .ok X w₂)
      (made : createPatch X D.stampLastApplied = .ok (some p))
      (patch : (Engine.cluster (patchObject p.key p.body)).run w₂ = .ok P w₃) :
      ApplyRun ctx key desired status w
        (.ok (), ResourceStatus.observeSome { status with status := status.status.remove .reconciled }
          P.metadata.generation)
        { w₃ with metrics := w₃.metrics.countOperation key.kind "patch" }

/-- Applying an object always returns, along one of the ways of `ApplyRun`. -/
theorem applyObject_runs (ctx : Context) (key : ResourceKey) (desired : Object)
    (status : ResourceStatus) (w : World) :
    Returns (applyObject ctx key desired status) w (ApplyRun ctx key desired status w) := by
  unfold applyObject
  refine Returns.bind (Returns.mono (Engine.attempt_outcome _ w) fun hooked w₁ outcome => ?_)
  obtain ⟨hookedOk, hookedErr⟩ := outcome
  -- A hook failure ends the application with the status unchanged.
  cases hooked with
  | error e => exact Returns.pure (.hookFailed (hookedErr e rfl))
  | ok D =>
    have hooks := hookedOk D rfl
    refine Returns.bind (Returns.mono (Engine.attempt_outcome _ w₁) fun found w₂ outcome => ?_)
    obtain ⟨foundOk, foundErr⟩ := outcome
    -- The read fails, finds nothing, or finds the object.
    cases found with
    | error e =>
      have read := foundErr e rfl
      dsimp only
      -- Only a read that found nothing leads to a create.
      split
      · rename_i present
        exact Returns.pure (.readFailed hooks read (by simpa using present))
      · rename_i missing
        have missing : e.isNotFound = true := by simpa using missing
        refine Returns.bind (Returns.mono (Engine.attempt_outcome _ w₂) fun created w₃ outcome => ?_)
        obtain ⟨createdOk, createdErr⟩ := outcome
        -- A failed create keeps the status; a created object is observed at its generation.
        cases created with
        | error e' => exact Returns.pure (.createFailed hooks read missing (createdErr e' rfl))
        | ok c =>
          refine Returns.bind (Returns.of_run (Engine.record_run _ _) ?_)
          refine Returns.bind (Returns.mono (Hooks.afterCreate_total _ _ _ _).with_run fun _ w₄ after => ?_)
          exact Returns.pure (.created hooks read missing (createdOk c rfl) after.1)
    | ok X =>
      have read := foundOk X rfl
      dsimp only
      -- A patch that cannot be made, is not needed, or is sent.
      split
      · rename_i e made
        exact Returns.pure (.unpatchable hooks read made)
      · rename_i made
        -- The status is observed at the generation found, if the object has one.
        have run := @ApplyRun.converged ctx key desired status w _ _ _ _ hooks read made
        split
        · rename_i generation
          rw [generation] at run
          exact Returns.pure run
        · rename_i generation
          rw [generation] at run
          exact Returns.pure run
      · rename_i p made
        refine Returns.bind (Returns.mono (Engine.attempt_outcome _ w₂) fun patched w₃ outcome => ?_)
        obtain ⟨patchedOk, patchedErr⟩ := outcome
        -- A failed patch leaves Reconciled removed; a patch that went through is observed.
        cases patched with
        | error e => exact Returns.pure (.patchFailed hooks read made (patchedErr e rfl))
        | ok P =>
          refine Returns.bind (Returns.of_run (Engine.record_run _ _) ?_)
          have run := @ApplyRun.patched ctx key desired status w _ _ _ _ _ _ _ hooks read made (patchedOk P rfl)
          split
          · rename_i generation
            rw [generation] at run
            exact Returns.pure run
          · rename_i generation
            rw [generation] at run
            exact Returns.pure run

/-- A run of `applyObject` went one of the ways of `ApplyRun`. -/
theorem ApplyRun.of_run {ctx : Context} {key : ResourceKey} {desired : Object} {status : ResourceStatus}
    {w w' : World} {r : Except Error Unit × ResourceStatus}
    (ran : (applyObject ctx key desired status).run w = .ok r w') : ApplyRun ctx key desired status w r w' :=
  (applyObject_runs ctx key desired status w).holds ran

/-- Applying an object never fails, and its status stays the status of the same key. -/
theorem applyObject_returns (ctx : Context) (key : ResourceKey) (desired : Object)
    (status : ResourceStatus) (w : World) :
    Returns (applyObject ctx key desired status) w fun r _ => r.2.resource = status.resource :=
  (applyObject_runs ctx key desired status w).mono fun _ _ run => by
    -- Every way keeps the status's key.
    cases run <;> simp

/-- Applying an object that is not a list never fails, and adds its status when it has a
key. -/
theorem reconcileSingle_returns (ctx : Context) (old : ComponentStatus) (desired : Object)
    (t : Tally) (w : World) :
    Returns (reconcileSingle ctx old desired t) w fun r _ =>
      Tally.Adds desired.key.toOption.toList t r.2 := by
  unfold reconcileSingle
  simp only [Context.bookkeeping_key]
  -- An object without a key adds nothing; one with a key adds its status.
  split
  · rename_i e failed
    exact Returns.pure (by rw [failed]; exact Tally.Adds.refl t)
  · rename_i key found
    refine Returns.bind (Returns.mono (applyObject_returns ctx key _ _ w) fun ⟨result, status⟩ w₁ named => ?_)
    refine Returns.bind (Returns.mono (Engine.now_returns w₁) fun now w₂ _ => ?_)
    exact Returns.pure (by rw [found]; exact Tally.Adds.single _ (by simpa using named))

/-- The keys of one object, as a list: its key, or none. -/
theorem keys_singleton (o : Object) :
    ([o].filterMap fun leaf => leaf.key.toOption) = o.key.toOption.toList := by
  rw [List.filterMap_cons, List.filterMap_nil]
  -- A key that does not read contributes nothing.
  cases o.key <;> rfl

/-- Applying items in turn adds the keys of each item, in order. -/
theorem Tally.foldlM_adds {α : Type} {items : List α} {f : Tally → α → Engine Tally}
    (keys : α → List ResourceKey)
    (each : ∀ i ∈ items, ∀ t w, Returns (f t i) w fun t' _ => Tally.Adds (keys i) t t') :
    ∀ t w, Returns (items.foldlM f t) w fun t' _ => Tally.Adds (items.flatMap keys) t t' :=
  Returns.foldlM (R := fun xs t _ t' _ => Tally.Adds (xs.flatMap keys) t t') items
    (fun t _ => Tally.Adds.refl t)
    (fun c rest _ _ _ _ _ _ first later => by
      -- The keys of one item come before those of the items after it.
      rw [List.flatMap_cons]
      exact first.trans later) each

/-- Applying an object and noting its outcome adds its status when it has a key. -/
theorem reconcileSingle_collect_returns (ctx : Context) (old : ComponentStatus) (desired : Object)
    (t : Tally) (w : World) :
    Returns (do let (result, t) ← reconcileSingle ctx old desired t; return t.collect result) w
      fun t' _ => Tally.Adds ([desired].filterMap fun leaf => leaf.key.toOption) t t' := by
  refine Returns.bind (Returns.mono (reconcileSingle_returns ctx old desired t w) fun ⟨result, t₁⟩ _ added => ?_)
  rw [keys_singleton]
  exact Returns.pure (added.collect result)

/-- Applying an object tree never fails, and adds the statuses of its leaves that have keys, in
order. -/
theorem reconcileTree_returns (ctx : Context) (old : ComponentStatus) :
    ∀ (fuel : Nat) (desired : Object) (t : Tally) (w : World),
      Returns (reconcileTree ctx old fuel desired t) w fun t' _ =>
        Tally.Adds ((desired.leaves fuel).filterMap fun leaf => leaf.key.toOption) t t'
  | 0, desired, t, w => by
    unfold reconcileTree
    exact reconcileSingle_collect_returns ctx old desired t w
  | fuel + 1, desired, t, w => by
    unfold reconcileTree
    -- A list unfolds into its items; anything else is one leaf.
    split
    · rename_i listed
      split
      · -- Items that are not all objects stop the list, with nothing applied.
        rename_i e failed
        have none : desired.leaves (fuel + 1) = [] := by simp [Object.leaves, listed, failed]
        rw [none]
        exact Returns.pure ((Tally.Adds.refl t).collect _)
      · rename_i items found
        have unfolded : desired.leaves (fuel + 1) = items.flatMap (Object.leaves fuel) := by
          simp [Object.leaves, listed, found]
        rw [unfolded, List.filterMap_flatMap]
        exact Tally.foldlM_adds _ (fun item _ t w => reconcileTree_returns ctx old fuel item t w) t w
    · rename_i single
      have unfolded : desired.leaves (fuel + 1) = [desired] := by simp [Object.leaves, single]
      rw [unfolded]
      exact reconcileSingle_collect_returns ctx old desired t w

/-- Applying an object within a component pass never fails, and adds the statuses of its
leaves that have keys, in order. -/
theorem reconcileObject_returns (ctx : Context) (old : ComponentStatus) (desired : Object)
    (t : Tally) (w : World) :
    Returns (reconcileObject ctx old desired t) w fun r _ => Tally.Adds desired.leafKeys t r.2 := by
  unfold reconcileObject
  refine Returns.bind (Returns.mono (reconcileTree_returns ctx old _ desired _ w) fun t' _ added => ?_)
  exact Returns.pure ⟨added.status, added.name, added.processed, added.applied⟩

/-- Applying the manifests of a component never fails, and adds the statuses of the keys they
render, in order. -/
theorem applyManifests_returns (ctx : Context) (old : ComponentStatus) :
    ∀ (ms : List Manifest) (t : Tally) (w : World),
      Returns (applyManifests ctx old ms t) w fun t' _ => Tally.Adds (renderedKeys ms) t t'
  | [], t, _ => Returns.pure (Tally.Adds.refl t)
  | m :: rest, t, w => by
    unfold applyManifests
    -- The manifest's own documents come first, then the rest of the manifests.
    have later : ∀ t₁ w₁, Tally.Adds m.keys t t₁ →
        Returns (applyManifests ctx old rest t₁) w₁ fun t' _ => Tally.Adds (renderedKeys (m :: rest)) t t' :=
      fun t₁ w₁ first => Returns.mono (applyManifests_returns ctx old rest t₁ w₁) fun t₂ _ second =>
        first.trans second
    -- A file that is not YAML renders nothing.
    split
    · rename_i notYaml
      have none : m.keys = [] := by simp_all [Manifest.keys]
      exact Returns.bind (Returns.pure (later t w (none ▸ Tally.Adds.refl t)))
    · rename_i yaml
      have documents : m.keys = m.objects.flatMap documentKeys := by simp_all [Manifest.keys]
      refine Returns.bind (Returns.mono (Tally.foldlM_adds documentKeys (fun decoded _ t w => ?_) t w)
        fun t₁ w₁ first => later t₁ w₁ (documents ▸ first))
      -- A document that reads applies its leaves; a broken one adds nothing.
      cases decoded with
      | ok obj =>
        refine Returns.bind (Returns.mono (reconcileObject_returns ctx old obj t w) fun ⟨result, t'⟩ _ added => ?_)
        exact Returns.pure (added.collect result)
      | error e => exact Returns.pure ⟨rfl, rfl, by simp [documentKeys], ⟨[], rfl, by simp⟩⟩

/-! Applying keeps whatever the primitive steps keep; in particular it deletes nothing. -/

section StepsKeep

variable {R : World → World → Prop} [IsPreorder World R]

theorem applyObject_keeps (steps : World.StepsKeep R) (ctx : Context) (key : ResourceKey)
    (desired : Object) (status : ResourceStatus) : Keeps R (applyObject ctx key desired status) := by
  unfold applyObject
  refine Keeps.bind (Engine.attempt_keeps (Hooks.beforeApply_keeps steps _ _ _ _)) fun hooked => ?_
  -- Every way is made of reads, creates, patches, records and hooks, none a deletion.
  cases hooked with
  | error e => exact Keeps.pure _
  | ok desired =>
    refine Keeps.bind (Engine.attempt_keeps (steps.cluster (getObject_grows _))) fun found => ?_
    cases found with
    | error e =>
      refine Keeps.ite (Keeps.pure _) ?_
      refine Keeps.bind (Engine.attempt_keeps (steps.cluster (createObject_grows _))) fun created => ?_
      cases created with
      | error e => exact Keeps.pure _
      | ok created =>
        exact Keeps.bind (steps.record _) fun _ =>
          Keeps.bind (Hooks.afterCreate_keeps steps _ _ _) fun _ => Keeps.pure _
    | ok current =>
      dsimp only
      split
      · exact Keeps.pure _
      · split <;> exact Keeps.pure _
      · refine Keeps.bind (Engine.attempt_keeps (steps.cluster (patchObject_grows _ _))) fun patched => ?_
        cases patched with
        | error e => exact Keeps.pure _
        | ok patched =>
          refine Keeps.bind (steps.record _) fun _ => ?_
          split <;> exact Keeps.pure _

theorem reconcileSingle_keeps (steps : World.StepsKeep R) (ctx : Context) (old : ComponentStatus)
    (desired : Object) (t : Tally) : Keeps R (reconcileSingle ctx old desired t) := by
  unfold reconcileSingle
  dsimp only
  split
  · exact Keeps.pure _
  · exact Keeps.bind (applyObject_keeps steps _ _ _ _) fun _ =>
      Keeps.bind Engine.now_keeps fun _ => Keeps.pure _

theorem reconcileTree_keeps (steps : World.StepsKeep R) (ctx : Context) (old : ComponentStatus) :
    ∀ (fuel : Nat) (desired : Object) (t : Tally), Keeps R (reconcileTree ctx old fuel desired t)
  | 0, desired, t => by
    unfold reconcileTree
    exact Keeps.bind (reconcileSingle_keeps steps _ _ _ _) fun _ => Keeps.pure _
  | fuel + 1, desired, t => by
    unfold reconcileTree
    refine Keeps.ite ?_ (Keeps.bind (reconcileSingle_keeps steps _ _ _ _) fun _ => Keeps.pure _)
    split
    · exact Keeps.pure _
    · exact Keeps.foldlM _ (fun t item _ => reconcileTree_keeps steps ctx old fuel item t) _

theorem applyManifests_keeps (steps : World.StepsKeep R) (ctx : Context) (old : ComponentStatus) :
    ∀ (ms : List Manifest) (t : Tally), Keeps R (applyManifests ctx old ms t)
  | [], _ => Keeps.pure _
  | m :: rest, t => by
    unfold applyManifests
    dsimp only
    refine Keeps.ite (Keeps.bind (Keeps.pure _) fun t => applyManifests_keeps steps ctx old rest t) ?_
    refine Keeps.bind (Keeps.foldlM _ (fun t decoded _ => ?_) _) fun t =>
      applyManifests_keeps steps ctx old rest t
    cases decoded with
    | ok obj =>
      exact Keeps.bind (Keeps.bind (reconcileTree_keeps steps _ _ _ _ _) fun _ => Keeps.pure _) fun _ =>
        Keeps.pure _
    | error e => exact Keeps.pure _

end StepsKeep

theorem reconcileSingle_steady (ctx : Context) (old : ComponentStatus) (desired : Object)
    (t : Tally) : Keeps World.Steady (reconcileSingle ctx old desired t) :=
  reconcileSingle_keeps World.steady_stepsKeep ctx old desired t

theorem applyManifests_steady (ctx : Context) (old : ComponentStatus) (ms : List Manifest) (t : Tally) :
    Keeps World.Steady (applyManifests ctx old ms t) :=
  applyManifests_keeps World.steady_stepsKeep ctx old ms t

end MeshControl
