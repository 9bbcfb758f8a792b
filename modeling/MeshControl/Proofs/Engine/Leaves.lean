import MeshControl.Proofs.Engine.Tracking

/-! What a component pass makes of each leaf of its manifests, whatever the cluster answers: one
result per leaf, in order, appending the written leaves' entries and adding every failure once. -/

namespace MeshControl

/-- The value of a computation, or what `onError` makes of its failure. -/
def Except.valueOr {ε α : Type} (x : Except ε α) (onError : ε → α) : α :=
  Except.casesOn x onError id

@[simp] theorem Except.valueOr_ok {ε α : Type} (a : α) (onError : ε → α) :
    Except.valueOr (Except.ok a : Except ε α) onError = a := rfl

@[simp] theorem Except.valueOr_error {ε α : Type} (e : ε) (onError : ε → α) :
    Except.valueOr (Except.error e : Except ε α) onError = onError e := rfl

/-! The leaves of the manifests, read as objects or as the failure that stopped them. -/

namespace Object

/-- The leaves of a desired object in the order a pass applies them: the object itself, or the
items of a list, nested while `fuel` lasts. A list whose items do not all read as objects is one
failure. -/
def leafReads : Nat → Object → List (Except Error Object)
  | 0, o => [.ok o]
  | fuel + 1, o =>
    if o.isList then Except.valueOr (o.listItems.map (·.flatMap (leafReads fuel))) fun e => [.error e]
    else [.ok o]

end Object

/-- The leaves of a document: those of the object it reads as, or its failure to read. -/
def documentReads (d : Except Error Object) : List (Except Error Object) :=
  Except.valueOr (d.map fun o => o.leafReads (o.toJson.depth + 1)) fun e => [.error e]

/-- The leaves of a manifest, document by document; none for a file that is not YAML. -/
def Manifest.leafReads (m : Manifest) : List (Except Error Object) :=
  if m.isYaml then m.objects.flatMap documentReads else []

/-- The leaves of a component's manifests, in the order a pass applies them. -/
def renderedReads (ms : List Manifest) : List (Except Error Object) := ms.flatMap Manifest.leafReads

/-! What a pass made of each leaf. -/

/-- What one leaf of the manifests came to in a pass. -/
inductive LeafResult where
  /-- A document or list item that did not read as an object, or an object without a key. -/
  | unread (e : Error)
  /-- An object written, with the entry left for it and the outcome of the write. -/
  | applied (entry : ResourceStatus) (result : Except Error Unit)

namespace LeafResult

/-- The entry left for the leaf, if it was written. -/
def entry? : LeafResult → Option ResourceStatus
  | unread _ => none
  | applied entry _ => some entry

/-- The failures the leaf adds to the pass. -/
def failures : LeafResult → List Error
  | unread e => [e]
  | applied _ result => (failureOf result).toList

end LeafResult

/-- How applying an object changes the status it starts from: the key and the Installed
condition stay as they were. -/
structure ResourceStatus.Refreshed (r r' : ResourceStatus) : Prop where
  resource : r'.resource = r.resource
  installed : r'.status.get .installed = r.status.get .installed

/-- How a leaf and what a pass made of it correspond, the pass reading the previous entries
`old` and the clock reading `now`, and the leaf's step going from the world `w` to `w'`: a leaf
that does not read, or has no key, is its failure and changes nothing; an object with a key is
applied in `w`, starting from the previous entry of the key (or a fresh one), which ends in `w'`,
and its entry is what that returns, marked with the outcome. -/
inductive LeafResult.Of (ctx : Context) (old : ComponentStatus) (now : String) :
    World → Except Error Object → LeafResult → World → Prop
  | unreadable (e : Error) (w : World) : Of ctx old now w (.error e) (.unread e) w
  | keyless {o : Object} {e : Error} (w : World) (failed : o.key = .error e) : Of ctx old now w (.ok o) (.unread e) w
  | written {o : Object} {key : ResourceKey} {r : ResourceStatus} {result : Except Error Unit} {w w' : World}
      (keyed : o.key = .ok key)
      (applied : (applyObject ctx key (ctx.bookkeeping o) ((old.find? key).getD (.ofKey key))).run w =
        .ok (result, r) w') :
      Of ctx old now w (.ok o) (.applied { r with status := r.status.afterReconcile now (failureOf result) } result) w'

/-- The leaves `reads`, applied in turn from the world `w`, came to `results` and ended in `w'`:
each leaf's step starts in the world the one before it ended in. -/
inductive LeafResult.Run (ctx : Context) (old : ComponentStatus) (now : String) :
    World → List (Except Error Object) → List LeafResult → World → Prop
  | nil (w : World) : Run ctx old now w [] [] w
  | cons {w w₁ w₂ : World} {read : Except Error Object} {res : LeafResult}
      {reads : List (Except Error Object)} {results : List LeafResult}
      (first : Of ctx old now w read res w₁) (rest : Run ctx old now w₁ reads results w₂) :
      Run ctx old now w (read :: reads) (res :: results) w₂

/-- Leaves applied after leaves, from where the first ones ended, are one run. -/
theorem LeafResult.Run.append {ctx : Context} {old : ComponentStatus} {now : String} {w w₁ w₂ : World}
    {reads reads' : List (Except Error Object)} {results results' : List LeafResult}
    (first : Run ctx old now w reads results w₁) (second : Run ctx old now w₁ reads' results' w₂) :
    Run ctx old now w (reads ++ reads') (results ++ results') w₂ := by
  -- The first run's leaves come first, each step from where the one before ended.
  induction first with
  | nil => exact second
  | cons leaf _ later => exact .cons leaf (later second)

/-- A failure noted as an outcome is added as it is when it is plain. -/
theorem Aggregate.collect_plain (agg : Aggregate) {r : Except Error Unit} (plain : FailsPlainly r) :
    (agg.collect r).errors = agg.errors ++ (failureOf r).toList := by
  -- A success adds nothing; a plain failure adds itself.
  cases r with
  | ok u =>
    cases u
    simp [failureOf]
  | error e => simp [failureOf, Aggregate.push_plain agg (plain e rfl)]

/-- The failure of a plainly failing outcome is plain. -/
theorem FailsPlainly.failureOf {r : Except Error Unit} (plain : FailsPlainly r) :
    ∀ e ∈ (failureOf r).toList, e.Plain := by
  intro e member
  -- Only a failed outcome has a failure.
  cases r with
  | ok u => simp [MeshControl.failureOf] at member
  | error e' =>
    simp only [MeshControl.failureOf, Option.mem_toList, Option.some.injEq] at member
    exact plain e (by rw [member])

/-- Applying an object keeps the key and the Installed condition of the status it starts from. -/
theorem applyObject_refreshed (ctx : Context) (key : ResourceKey) (desired : Object)
    (status : ResourceStatus) : Yields (fun r => status.Refreshed r.2) (applyObject ctx key desired status) := by
  intro w r w' ran
  have kept : status.Refreshed status := ⟨rfl, rfl⟩
  -- A patch first drops Reconciled, which leaves Installed as it was.
  have dropped : status.Refreshed { status with status := status.status.remove .reconciled } :=
    ⟨rfl, StatusType.get_remove_of_ne _ (by decide)⟩
  -- Observing a generation changes neither the key nor a condition.
  have observed : ∀ {r : ResourceStatus} (g : Option Int), status.Refreshed r → status.Refreshed (r.observeSome g) := by
    intro r g refreshed
    cases g with
    | none => exact refreshed
    | some g => exact ⟨refreshed.resource, refreshed.installed⟩
  -- Failures keep the status, a create observes a fresh one, a patch drops Reconciled.
  cases ApplyRun.of_run ran with
  | hookFailed => exact kept
  | readFailed => exact kept
  | createFailed => exact kept
  | created => exact ⟨rfl, rfl⟩
  | unpatchable => exact kept
  | converged => exact observed _ kept
  | patchFailed => exact dropped
  | patched => exact observed _ dropped

/-- The entry left for a written leaf is the previous entry of its key, or a fresh one, with the
key and the Installed condition kept by the write and the outcome marked by the pass. -/
theorem LeafResult.Of.carried {ctx : Context} {old : ComponentStatus} {now : String} {w w' : World}
    {o : Object} {entry : ResourceStatus} {result : Except Error Unit}
    (of : LeafResult.Of ctx old now w (.ok o) (.applied entry result) w') :
    ∃ key r, o.key = .ok key ∧ ((old.find? key).getD (.ofKey key)).Refreshed r ∧
      entry = { r with status := r.status.afterReconcile now (failureOf result) } := by
  -- Only a written leaf has an entry.
  cases of with
  | written keyed applied => exact ⟨_, _, keyed, applyObject_refreshed ctx _ _ _ w _ w' applied, rfl⟩

namespace Tally

/-- What applying the leaves `reads` from the world `w` to `w'` adds to a tally, the pass reading
the previous entries `old` and the clock reading `now`: one result per leaf, in order, each
from the world the leaf before it ended in; the entries of the written leaves appended to the
statuses; and the failures of all of them, each plain, added to the failures. -/
def Records (ctx : Context) (old : ComponentStatus) (now : String) (reads : List (Except Error Object))
    (t : Tally) (w : World) (t' : Tally) (w' : World) : Prop :=
  ∃ results : List LeafResult, LeafResult.Run ctx old now w reads results w' ∧
    t'.status.resources = t.status.resources ++ results.filterMap LeafResult.entry? ∧
    t'.errors.errors = t.errors.errors ++ results.flatMap LeafResult.failures ∧
    ∀ e ∈ results.flatMap LeafResult.failures, e.Plain

section Records

variable {ctx : Context} {old : ComponentStatus} {now : String}

theorem Records.refl (t : Tally) (w : World) : Records ctx old now [] t w t w :=
  ⟨[], .nil w, by simp, by simp, by simp⟩

theorem Records.trans {r₁ r₂ : List (Except Error Object)} {t₁ t₂ t₃ : Tally} {w₁ w₂ w₃ : World}
    (first : Records ctx old now r₁ t₁ w₁ t₂ w₂) (second : Records ctx old now r₂ t₂ w₂ t₃ w₃) :
    Records ctx old now (r₁ ++ r₂) t₁ w₁ t₃ w₃ := by
  -- The results of both parts concatenate, and so do their entries and failures.
  obtain ⟨res₁, run₁, resources₁, errors₁, plain₁⟩ := first
  obtain ⟨res₂, run₂, resources₂, errors₂, plain₂⟩ := second
  refine ⟨res₁ ++ res₂, run₁.append run₂, by simp [resources₁, resources₂],
    by simp [errors₁, errors₂], fun e member => ?_⟩
  rw [List.flatMap_append, List.mem_append] at member
  rcases member with early | late
  · exact plain₁ e early
  · exact plain₂ e late

/-- A leaf that does not read is its own failure. -/
theorem Records.unreadable (t : Tally) (w : World) {e : Error} (plain : e.Plain) :
    Records ctx old now [.error e] t w (t.collect (.error e)) w :=
  ⟨[.unread e], .cons (.unreadable e w) (.nil w), by simp [LeafResult.entry?],
    by simp [LeafResult.failures, Aggregate.push_plain _ plain], by simpa [LeafResult.failures] using plain⟩

end Records

end Tally

/-- Applying an object that is not a list comes to one result for it, at the same clock
reading. -/
theorem reconcileSingle_records (ctx : Context) (old : ComponentStatus) (desired : Object)
    (t : Tally) (w : World) :
    Returns (reconcileSingle ctx old desired t) w fun r w' =>
      w'.now = w.now ∧ Tally.Records ctx old w.now [.ok desired] t w (r.2.collect r.1) w' := by
  refine Returns.and (Returns.mono (Returns.with_keeps (reconcileSingle_keeps World.sameNow_stepsKeep
    ctx old desired t) (Returns.mono (reconcileSingle_returns ctx old desired t w) fun _ _ _ => trivial))
    fun _ _ kept => kept.1) ?_
  unfold reconcileSingle
  dsimp only
  -- An object without a key fails; one with a key is applied.
  split
  · rename_i e failed
    -- An object without a key is its own failure, with nothing appended.
    have keyless : desired.key = .error e := by rwa [Context.bookkeeping_key] at failed
    have plain : e.Plain := Object.key_plain desired e keyless
    exact Returns.pure ⟨[.unread e], .cons (.keyless w keyless) (.nil w), by simp [LeafResult.entry?],
      by simp [LeafResult.failures, Aggregate.push_plain _ plain],
      by simpa [LeafResult.failures] using plain⟩
  · rename_i key found
    have keyed : desired.key = .ok key := by rwa [Context.bookkeeping_key] at found
    refine Returns.bind (Returns.mono (applyObject_present ctx found _ w).with_run
      fun applied w₁ facts => ?_)
    obtain ⟨ran, _, plain⟩ := facts
    obtain ⟨result, status⟩ := applied
    -- Applying keeps the clock reading, so the outcome is marked at the pass's time.
    have same : w₁.now = w.now := by
      have kept := applyObject_keeps World.sameNow_stepsKeep ctx key (ctx.bookkeeping desired)
        ((old.find? key).getD (.ofKey key)) w
      rwa [ran] at kept
    refine Returns.bind (Returns.mono (Engine.now_returns w₁) fun now w₂ read => ?_)
    obtain ⟨rfl, unchanged⟩ := read
    subst w₂
    rw [same]
    refine Returns.pure ⟨[.applied _ result], .cons (.written keyed ran) (.nil w₁),
      by simp [LeafResult.entry?], ?_, ?_⟩
    -- The outcome's failure, if any, is added as it is.
    · simp [LeafResult.failures, Aggregate.collect_plain _ plain]
    · simpa [LeafResult.failures] using FailsPlainly.failureOf plain

/-- Items applied in turn, each coming to its results at the same clock reading. -/
theorem Tally.foldlM_records {α : Type} {items : List α} {f : Tally → α → Engine Tally}
    (ctx : Context) (old : ComponentStatus) (reads : α → List (Except Error Object))
    (each : ∀ i ∈ items, ∀ t w, Returns (f t i) w fun t' w' =>
      w'.now = w.now ∧ Tally.Records ctx old w.now (reads i) t w t' w') :
    ∀ t w, Returns (items.foldlM f t) w fun t' w' =>
      w'.now = w.now ∧ Tally.Records ctx old w.now (items.flatMap reads) t w t' w' :=
  Returns.foldlM (R := fun xs t w t' w' =>
      w'.now = w.now ∧ Tally.Records ctx old w.now (xs.flatMap reads) t w t' w') items
    (fun t w => ⟨rfl, Tally.Records.refl t w⟩)
    (fun c rest t₁ w₁ t₂ w₂ t₃ w₃ first later => by
      -- The clock reading is the same throughout, so the parts join.
      obtain ⟨same₁, records₁⟩ := first
      obtain ⟨same₂, records₂⟩ := later
      rw [same₁] at records₂ same₂
      exact ⟨same₂, by rw [List.flatMap_cons]; exact records₁.trans records₂⟩) each

/-- Applying an object tree comes to one result per leaf, in order, at the same clock
reading. -/
theorem reconcileTree_records (ctx : Context) (old : ComponentStatus) :
    ∀ (fuel : Nat) (desired : Object) (t : Tally) (w : World),
      Returns (reconcileTree ctx old fuel desired t) w fun t' w' =>
        w'.now = w.now ∧ Tally.Records ctx old w.now (desired.leafReads fuel) t w t' w'
  | 0, desired, t, w => by
    unfold reconcileTree
    exact Returns.bind (Returns.mono (reconcileSingle_records ctx old desired t w)
      fun _ _ recorded => Returns.pure recorded)
  | fuel + 1, desired, t, w => by
    unfold reconcileTree
    -- A list unfolds into its items; anything else is one leaf.
    split
    · rename_i listed
      split
      · -- Items that are not all objects are one failure of the list.
        rename_i e failed
        have unfolded : desired.leafReads (fuel + 1) = [.error e] := by
          simp [Object.leafReads, listed, failed, Except.map]
        rw [unfolded]
        exact Returns.pure ⟨rfl, Tally.Records.unreadable t w (Object.listItems_plain desired e failed)⟩
      · rename_i items found
        have unfolded : desired.leafReads (fuel + 1) = items.flatMap (Object.leafReads fuel) := by
          simp [Object.leafReads, listed, found, Except.map]
        rw [unfolded]
        exact Tally.foldlM_records ctx old _ (fun item _ t w => reconcileTree_records ctx old fuel item t w) t w
    · rename_i single
      have unfolded : desired.leafReads (fuel + 1) = [.ok desired] := by simp [Object.leafReads, single]
      rw [unfolded]
      exact Returns.bind (Returns.mono (reconcileSingle_records ctx old desired t w)
        fun _ _ recorded => Returns.pure recorded)

/-- Applying a document's object within a component pass comes to one result per leaf, and
gathers their failures as one outcome that adds them as they are. -/
theorem reconcileObject_records (ctx : Context) (old : ComponentStatus) (desired : Object)
    (t : Tally) (w : World) :
    Returns (reconcileObject ctx old desired t) w fun r w' =>
      w'.now = w.now ∧ Tally.Records ctx old w.now (documentReads (.ok desired)) t w (r.2.collect r.1) w' := by
  unfold reconcileObject
  refine Returns.bind (Returns.mono (reconcileTree_records ctx old _ desired _ w) fun t' w' recorded => ?_)
  obtain ⟨same, results, run, resources, errors, plain⟩ := recorded
  -- The tree started with no failure, so its failures are its leaves'.
  have own : t'.errors.errors = results.flatMap LeafResult.failures := by simpa using errors
  refine Returns.pure ⟨same, results, run, by simpa using resources, ?_, plain⟩
  rw [Tally.collect_errors, Aggregate.collect_toResult _ _ (own ▸ plain), own]

/-- Applying the manifests of a component comes to one result per leaf they render, in order,
at the same clock reading. -/
theorem applyManifests_records (ctx : Context) (old : ComponentStatus) :
    ∀ (ms : List Manifest) (t : Tally) (w : World),
      Returns (applyManifests ctx old ms t) w fun t' w' =>
        w'.now = w.now ∧ Tally.Records ctx old w.now (renderedReads ms) t w t' w'
  | [], t, w => Returns.pure ⟨rfl, Tally.Records.refl t w⟩
  | m :: rest, t, w => by
    unfold applyManifests
    -- The manifest's own documents come first, then the rest of the manifests.
    have later : ∀ t₁ w₁, w₁.now = w.now ∧ Tally.Records ctx old w.now m.leafReads t w t₁ w₁ →
        Returns (applyManifests ctx old rest t₁) w₁ fun t' w' =>
          w'.now = w.now ∧ Tally.Records ctx old w.now (renderedReads (m :: rest)) t w t' w' := by
      intro t₁ w₁ first
      obtain ⟨same₁, records₁⟩ := first
      refine Returns.mono (applyManifests_records ctx old rest t₁ w₁) fun t₂ w₂ second => ?_
      obtain ⟨same₂, records₂⟩ := second
      rw [same₁] at records₂ same₂
      exact ⟨same₂, records₁.trans records₂⟩
    -- A file that is not YAML has no leaves.
    split
    · rename_i notYaml
      have none : m.leafReads = [] := by simp_all [Manifest.leafReads]
      exact Returns.bind (Returns.pure (later t w ⟨rfl, none ▸ Tally.Records.refl t w⟩))
    · rename_i yaml
      have documents : m.leafReads = m.objects.flatMap documentReads := by simp_all [Manifest.leafReads]
      refine Returns.bind (Returns.mono (Tally.foldlM_records ctx old documentReads
        (fun decoded member t w => ?_) t w) fun t₁ w₁ first => later t₁ w₁ (documents ▸ first))
      -- A document that reads is applied; one that does not is its own failure.
      cases decoded with
      | ok obj =>
        exact Returns.bind (Returns.mono (reconcileObject_records ctx old obj t w)
          fun _ _ recorded => Returns.pure recorded)
      | error e =>
        have isPlain : e.Plain := m.objects_plain _ member e rfl
        exact Returns.pure ⟨rfl, Tally.Records.unreadable t w isPlain⟩

/-! A whole component pass. -/

/-- What a component pass from w reports: one result per leaf in order and one outcome per stale
entry, newest first; its entries and its failures are those of the leaves, then of the deletions. -/
def PassReport (ctx : Context) (old : ComponentStatus) (ms : List Manifest) (w : World)
    (r : ComponentStatus × Except Error Unit) : Prop :=
  ∃ (results : List LeafResult) (deleted : List (ResourceStatus × Option Error)) (w₁ : World),
    LeafResult.Run ctx old w.now w (renderedReads ms) results w₁ ∧
    deleted.map Prod.fst = (staleEntries (renderedKeys ms) old.resources).reverse ∧
    r.1.resources = results.filterMap LeafResult.entry? ++
      (deleted.map fun d => d.1.afterDeletion w.now d.2).reverse ∧
    r.2 = Aggregate.toResult ⟨results.flatMap LeafResult.failures ++ deleted.filterMap Prod.snd⟩ ∧
    (∀ e ∈ results.flatMap LeafResult.failures, e.Plain) ∧
    ∀ e ∈ deleted.filterMap Prod.snd, e.Plain ∧ e.isAbsent = false

/-- Every component pass returns what `PassReport` says, at the same clock reading. -/
theorem reconcileComponent_reports (ctx : Context) (name : String) (ms : List Manifest)
    (previous : Option ComponentStatus) (w : World) :
    Returns (reconcileComponent ctx name ms previous) w fun r w' =>
      w'.now = w.now ∧ PassReport ctx (previous.getD (.named name)) ms w r := by
  unfold reconcileComponent
  refine Returns.bind (Returns.mono ((applyManifests_records ctx _ ms _ w).and
    (applyManifests_returns ctx _ ms _ w)) fun t w₁ applying => ?_)
  obtain ⟨⟨same₁, results, run, resources, errors, plain⟩, added⟩ := applying
  -- The deletion pass walks the previous entries newest first.
  have walked : staleEntries t.processed (previous.getD (.named name)).resources.reverse =
      (staleEntries (renderedKeys ms) (previous.getD (.named name)).resources).reverse :=
    added.staleEntries_processed_reverse rfl _
  refine Returns.bind (Returns.mono (deleteStale_removes ctx t.processed _ t.errors w₁)
    fun removal w₂ deleting => ?_)
  -- The deletion pass marks each stale entry and adds its failures after the leaves'.
  obtain ⟨⟨deleted, order, returned, grew, failed⟩, same₂, _⟩ := deleting
  refine Returns.bind (Returns.mono (Engine.now_returns w₂) fun now w₃ read => ?_)
  obtain ⟨rfl, unchanged⟩ := read
  subst w₃
  rw [same₁] at returned
  -- Both kinds of pass report the applied entries followed by the removed ones, and the failures
  -- of both, gathered as one outcome.
  have gathered : removal.2 = ⟨results.flatMap LeafResult.failures ++ deleted.filterMap Prod.snd⟩ := by
    rw [show removal.2 = ⟨removal.2.errors⟩ from rfl, grew, errors]
    simp
  have report : ∀ c : ComponentStatus, c.resources = t.status.resources ++ removal.1 →
      PassReport ctx (previous.getD (.named name)) ms w (c, removal.2.toResult) :=
    fun c kept => ⟨results, deleted, w₁, run, by rw [order, walked], by simp [kept, resources, returned],
      by rw [gathered], plain, failed⟩
  -- Whether or not the component is deleted, the report is the same.
  split
  · exact Returns.pure ⟨same₂.trans same₁, report _ rfl⟩
  · exact Returns.pure ⟨same₂.trans same₁, report _ rfl⟩

end MeshControl
