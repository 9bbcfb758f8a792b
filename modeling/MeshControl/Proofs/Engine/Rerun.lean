import MeshControl.Proofs.Engine.Prepared
import MeshControl.Proofs.Engine.Flatten

/-! A second pass over objects the cluster already holds as it would write them: it only reads,
succeeds, and leaves every entry Installed and Reconciled. -/

namespace MeshControl

/-- A desired object the cluster `s` holds as a pass would write it: its key is formed, the hooks
make an object of it on `s`, and the object stored under the key leaves that one, stamped,
nothing to patch. -/
def Settled (ctx : Context) (s : Store) (o : Object) : Prop :=
  ∃ key D X, o.key = .ok key ∧ ctx.hooks.prepared ctx.ns s key (ctx.bookkeeping o) = .ok D ∧
    s.lookup key = some X ∧ createPatch X D.stampLastApplied = .ok none

/-- Whether an object is settled depends on the cluster only through its own key and the routes
the hooks read. -/
theorem Settled.congr {ctx : Context} {s s' : Store} {o : Object} (settled : Settled ctx s o)
    (same : ∀ k, (o.key = .ok k ∨ k ∈ ctx.hooks.routeKeys ctx.ns) → s'.lookup k = s.lookup k) :
    Settled ctx s' o := by
  obtain ⟨key, D, X, keyed, made, held, converged⟩ := settled
  refine ⟨key, D, X, keyed, ?_, ?_, converged⟩
  -- The hooks read only their routes, which are unchanged.
  · rw [Hooks.prepared_congr _ _ (fun k route => same k (.inr route))]
    exact made
  -- The object under its own key is unchanged.
  · rw [same key (.inl keyed)]
    exact held

theorem Settled.reads {ctx : Context} {w w' : World} {o : Object} (settled : Settled ctx w.store o)
    (reads : World.Reads w w') : Settled ctx w'.store o :=
  settled.congr fun k _ => reads.lookup k

/-! ### Applying the leaves of manifests -/

section Fold

variable (ctx : Context) (old : ComponentStatus)

/-- Every failure among the leaves of a desired object is plain: a list whose items do not all
read as objects. -/
theorem Object.leafReads_plain : ∀ (fuel : Nat) (o : Object), ∀ r ∈ o.leafReads fuel, FailsPlainly r
  | 0, o => by
    intro r member
    rw [Object.leafReads, List.mem_singleton] at member
    subst member
    exact FailsPlainly.pure o
  | fuel + 1, o => by
    intro r member
    -- A list is read item by item; anything else is one leaf, which reads.
    by_cases listed : o.isList
    -- Items that do not read fail plainly; those that do are read leaf by leaf.
    · cases read : o.listItems with
      | error e =>
        simp only [Object.leafReads, listed, if_true, read, Except.map, Except.valueOr_error,
          List.mem_singleton] at member
        subst member
        intro e' failed
        cases failed
        exact Object.listItems_plain o e read
      | ok items =>
        simp only [Object.leafReads, listed, if_true, read, Except.map, Except.valueOr_ok,
          List.mem_flatMap] at member
        obtain ⟨item, _, inItem⟩ := member
        exact Object.leafReads_plain fuel item r inItem
    · simp only [Object.leafReads, listed, Bool.false_eq_true, if_false, List.mem_singleton] at member
      subst member
      exact FailsPlainly.pure o

variable {R : List (Except Error Object) → Tally → World → Tally → World → Prop}

/-- Leaves applied one step each, in order, do what the steps do together. -/
theorem foldlM_leafStep
    (append : ∀ xs ys t₁ w₁ t₂ w₂ t₃ w₃, R xs t₁ w₁ t₂ w₂ → R ys t₂ w₂ t₃ w₃ → R (xs ++ ys) t₁ w₁ t₃ w₃)
    (none : ∀ t w, R [] t w t w)
    (leaf : ∀ r, FailsPlainly r → ∀ t w, Returns (leafStep ctx old t r) w (R [r] t w))
    {xs : List (Except Error Object)} (plain : ∀ r ∈ xs, FailsPlainly r) :
    ∀ t w, Returns (xs.foldlM (leafStep ctx old) t) w (R xs t w) :=
  Returns.foldlM (S := fun r => R [r]) xs none
    (fun c rest _ _ _ _ _ _ first later => append [c] rest _ _ _ _ _ _ first later)
    fun r member => leaf r (plain r member)

/-- A document's object is applied leaf by leaf from no failures, which are then gathered into
the pass as one outcome. -/
theorem reconcileObject_fold
    (append : ∀ xs ys t₁ w₁ t₂ w₂ t₃ w₃, R xs t₁ w₁ t₂ w₂ → R ys t₂ w₂ t₃ w₃ → R (xs ++ ys) t₁ w₁ t₃ w₃)
    (none : ∀ t w, R [] t w t w)
    (leaf : ∀ r, FailsPlainly r → ∀ t w, Returns (leafStep ctx old t r) w (R [r] t w))
    (regather : ∀ xs t w t' w', R xs { t with errors := {} } w t' w' →
      R xs t w ({ t' with errors := t.errors }.collect t'.errors.toResult) w')
    (obj : Object) (t : Tally) (w : World) :
    Returns (reconcileObject ctx old obj t) w fun r w' => R (documentReads (.ok obj)) t w (r.2.collect r.1) w' := by
  unfold reconcileObject
  -- A document's tree is a fold of leaf steps from no failures.
  rw [reconcileTree_eq_foldlM]
  exact Returns.bind (Returns.mono (foldlM_leafStep ctx old append none leaf (Object.leafReads_plain _ obj) _ w)
    fun t' w' part => Returns.pure (regather _ t w t' w' part))

/-- A property of the parts of a pass over the leaves of manifests holds of applying them whole
when it holds of no leaves, of one leaf applied as a step, joins over consecutive parts, and
survives the gathering of a document's failures into one outcome. -/
theorem applyManifests_fold
    (none : ∀ t w, R [] t w t w)
    (append : ∀ xs ys t₁ w₁ t₂ w₂ t₃ w₃, R xs t₁ w₁ t₂ w₂ → R ys t₂ w₂ t₃ w₃ → R (xs ++ ys) t₁ w₁ t₃ w₃)
    (leaf : ∀ r, FailsPlainly r → ∀ t w, Returns (leafStep ctx old t r) w (R [r] t w))
    (regather : ∀ xs t w t' w', R xs { t with errors := {} } w t' w' →
      R xs t w ({ t' with errors := t.errors }.collect t'.errors.toResult) w') :
    ∀ (ms : List Manifest) (t : Tally) (w : World), Returns (applyManifests ctx old ms t) w (R (renderedReads ms) t w)
  | [], t, w => Returns.pure (none t w)
  | m :: rest, t, w => by
    unfold applyManifests
    -- The manifest's own leaves come first, then those of the rest of the manifests.
    have later : ∀ t₁ w₁, R m.leafReads t w t₁ w₁ →
        Returns (applyManifests ctx old rest t₁) w₁ (R (renderedReads (m :: rest)) t w) :=
      fun t₁ w₁ first => Returns.mono (applyManifests_fold none append leaf regather rest t₁ w₁)
        fun t₂ w₂ second => append _ _ _ _ _ _ _ _ first second
    -- A file that is not YAML has no leaves; a YAML file's documents are applied in turn.
    split
    · rename_i notYaml
      have unread : m.leafReads = [] := by simp_all [Manifest.leafReads]
      exact Returns.bind (Returns.pure (later t w (unread ▸ none t w)))
    · rename_i yaml
      have documents : m.leafReads = m.objects.flatMap documentReads := by simp_all [Manifest.leafReads]
      refine Returns.bind (Returns.mono (Returns.foldlM (S := fun d => R (documentReads d))
        (R := fun ds => R (ds.flatMap documentReads)) m.objects (fun t w => none t w)
        (fun d ds _ _ _ _ _ _ first later => append _ _ _ _ _ _ _ _ first later)
        (fun d member t w => ?_) t w) fun t₁ w₁ first => later t₁ w₁ (documents ▸ first))
      -- A document that parsed is applied leaf by leaf; one that did not fails plainly.
      cases d with
      | ok obj =>
        exact Returns.bind (Returns.mono (reconcileObject_fold ctx old append none leaf regather obj t w)
          fun r w' part => Returns.pure part)
      | error e =>
        exact leaf (.error e) (m.objects_plain _ member) t w

/-- Every leaf step returns. -/
theorem leafStep_total (t : Tally) (r : Except Error Object) (w : World) :
    Returns (leafStep ctx old t r) w fun _ _ => True := by
  -- An object is applied and recorded; a failure is only recorded.
  cases r with
  | ok o =>
    exact Returns.bind (Returns.mono (reconcileSingle_returns ctx old o t w) fun _ _ _ => Returns.pure trivial)
  | error e => exact Returns.pure trivial

end Fold

/-! ### A second pass -/

/-- On a calm world, applying an object the cluster already holds as it would be written only
reads: the hooks read their routes, the object is read, and there is nothing to patch. -/
theorem applyObject_settled (ctx : Context) {key : ResourceKey} {desired D X : Object} {w : World}
    (calm : w.Calm) (made : ctx.hooks.prepared ctx.ns w.store key desired = .ok D)
    (held : w.store.lookup key = some X) (converged : createPatch X D.stampLastApplied = .ok none)
    (status : ResourceStatus) :
    Returns (applyObject ctx key desired status) w fun r w' => r.1 = .ok () ∧ World.Reads w w' := by
  -- On a calm world the hooks read their routes and make D.
  have hooksRan : (ctx.hooks.beforeApply ctx.ns key desired).run w =
      .ok D (w.logged (ctx.hooks.reads ctx.ns key desired)) := by
    rw [Hooks.beforeApply_calm _ _ _ _ calm, made]
    rfl
  -- The read finds X.
  have found : (Engine.cluster (getObject key)).run (w.logged (ctx.hooks.reads ctx.ns key desired)) =
      .ok X ((w.logged (ctx.hooks.reads ctx.ns key desired)).logged [⟨.get, key, none⟩]) := by
    rw [Engine.getObject_calm _ (calm.logged _), World.lookup_logged, held]
    rfl
  -- The hooks' reads and the read of the object are all the calls.
  have reads : World.Reads w ((w.logged (ctx.hooks.reads ctx.ns key desired)).logged [⟨.get, key, none⟩]) := by
    rw [World.logged_logged]
    exact ctx.hooks.reads_then_get ctx.ns key desired w
  refine (applyObject_runs ctx key desired status w).mono fun r w' run => ?_
  -- The hooks make `D` and the read finds `X`, which leaves nothing to patch: every other way is cut off.
  cases run with
  | hookFailed hooked => rw [hooksRan] at hooked; cases hooked
  | readFailed hooked read => rw [hooksRan] at hooked; cases hooked; rw [found] at read; cases read
  | createFailed hooked read => rw [hooksRan] at hooked; cases hooked; rw [found] at read; cases read
  | created hooked read => rw [hooksRan] at hooked; cases hooked; rw [found] at read; cases read
  | unpatchable hooked read patch =>
    rw [hooksRan] at hooked; cases hooked; rw [found] at read; cases read; rw [converged] at patch; cases patch
  | patchFailed hooked read patch =>
    rw [hooksRan] at hooked; cases hooked; rw [found] at read; cases read; rw [converged] at patch; cases patch
  | patched hooked read patch =>
    rw [hooksRan] at hooked; cases hooked; rw [found] at read; cases read; rw [converged] at patch; cases patch
  | converged hooked read =>
    rw [hooksRan] at hooked; cases hooked; rw [found] at read; cases read
    exact ⟨rfl, reads⟩

/-- On a calm world, applying a settled object only reads, succeeds, and appends one entry with
Installed and Reconciled True. -/
theorem reconcileSingle_settled (ctx : Context) (old : ComponentStatus) (t : Tally) {o : Object}
    {w : World} (settled : Settled ctx w.store o) (calm : w.Calm) :
    Returns (reconcileSingle ctx old o t) w fun r w' =>
      r.1 = .ok () ∧ World.Reads w w' ∧ r.2.errors = t.errors ∧
        ∃ entry, r.2.status.resources = t.status.resources ++ [entry] ∧
          entry.status.isInstalled = true ∧ entry.status.isReconciled = true := by
  obtain ⟨key, D, X, keyed, made, held, converged⟩ := settled
  unfold reconcileSingle
  dsimp only
  -- The object's key is formed, so the pass applies it.
  split
  · rename_i e failed
    rw [Context.bookkeeping_key, keyed] at failed
    cases failed
  · rename_i key' found
    rw [Context.bookkeeping_key, keyed] at found
    cases found
    refine Returns.bind (Returns.mono (applyObject_settled ctx calm made held converged _) fun applied w₁ facts => ?_)
    obtain ⟨result, status⟩ := applied
    obtain ⟨ok, reads⟩ := facts
    cases ok
    refine Returns.bind (Returns.mono (Engine.now_returns w₁) fun now w₂ read => ?_)
    obtain ⟨rfl, rfl⟩ := read
    exact Returns.pure ⟨rfl, reads, by simp, _, by rw [Tally.addResource_resources, Tally.process_status],
      StatusType.afterReconcile_none_settled _ _⟩

/-- What a part of a second pass over the leaves `xs` does when each of them is settled on a calm
world: it only reads, adds no failure, and appends entries with Installed and Reconciled True. -/
def Tally.Rereads (ctx : Context) (xs : List (Except Error Object)) (t : Tally) (w : World) (t' : Tally)
    (w' : World) : Prop :=
  (∀ r ∈ xs, ∃ o, r = .ok o ∧ Settled ctx w.store o) → w.Calm →
    World.Reads w w' ∧ t'.errors = t.errors ∧
      ∃ entries, t'.status.resources = t.status.resources ++ entries ∧
        ∀ e ∈ entries, e.status.isInstalled = true ∧ e.status.isReconciled = true

namespace Tally.Rereads

variable {ctx : Context}

theorem nil (t : Tally) (w : World) : Rereads ctx [] t w t w :=
  fun _ _ => ⟨World.Reads.refl w, rfl, [], by simp, by simp⟩

theorem append {xs ys : List (Except Error Object)} {t₁ t₂ t₃ : Tally} {w₁ w₂ w₃ : World}
    (first : Rereads ctx xs t₁ w₁ t₂ w₂) (second : Rereads ctx ys t₂ w₂ t₃ w₃) :
    Rereads ctx (xs ++ ys) t₁ w₁ t₃ w₃ := by
  intro settled calm
  obtain ⟨reads₁, errors₁, entries₁, grew₁, good₁⟩ :=
    first (fun r member => settled r (List.mem_append_left _ member)) calm
  -- The first part only read, so the leaves of the second are still settled.
  obtain ⟨reads₂, errors₂, entries₂, grew₂, good₂⟩ := second (fun r member => by
      obtain ⟨o, rfl, held⟩ := settled r (List.mem_append_right _ member)
      exact ⟨o, rfl, held.reads reads₁⟩) (reads₁.calm calm)
  exact ⟨reads₁.trans reads₂, errors₂.trans errors₁, entries₁ ++ entries₂,
    by rw [grew₂, grew₁, List.append_assoc], List.forall_mem_append.mpr ⟨good₁, good₂⟩⟩

/-- A part that added no failure gathers none. -/
theorem regather {xs : List (Except Error Object)} {t t' : Tally} {w w' : World}
    (part : Rereads ctx xs { t with errors := {} } w t' w') :
    Rereads ctx xs t w ({ t' with errors := t.errors }.collect t'.errors.toResult) w' := by
  intro settled calm
  obtain ⟨reads, errors, entries, grew, good⟩ := part settled calm
  rw [errors]
  exact ⟨reads, rfl, entries, grew, good⟩

end Tally.Rereads

/-- One leaf of a second pass does what `Tally.Rereads` says. -/
theorem leafStep_rereads (ctx : Context) (old : ComponentStatus) (r : Except Error Object) (t : Tally)
    (w : World) : Returns (leafStep ctx old t r) w (Tally.Rereads ctx [r] t w) := by
  -- Only a settled object on a calm world has something to show.
  by_cases ready : (∃ o, r = .ok o ∧ Settled ctx w.store o) ∧ w.Calm
  · obtain ⟨⟨o, rfl, settled⟩, calm⟩ := ready
    unfold leafStep
    refine Returns.bind (Returns.mono (reconcileSingle_settled ctx old t settled calm) fun applied w' facts => ?_)
    obtain ⟨result, t'⟩ := applied
    obtain ⟨ok, reads, errors, entry, grew, installed, reconciled⟩ := facts
    cases ok
    refine Returns.pure fun _ _ => ⟨reads, errors, [entry], grew, ?_⟩
    simpa using And.intro installed reconciled
  · -- Without a settled object on a calm world there is nothing to show.
    exact Returns.mono (leafStep_total ctx old t r w) fun _ _ _ settled calm =>
      absurd ⟨settled r (List.mem_singleton_self r), calm⟩ ready

/-- **A pass over settled objects only reads.** On a calm world, a pass whose leaves are all settled
and whose entries hold nothing stale only reads, succeeds, and leaves all Installed and Reconciled. -/
theorem reconcileComponent_rerun (ctx : Context) (name : String) (ms : List Manifest) (prev : ComponentStatus)
    {w : World} (calm : w.Calm) (settled : ∀ r ∈ renderedReads ms, ∃ o, r = .ok o ∧ Settled ctx w.store o)
    (nothingStale : staleEntries (renderedKeys ms) prev.resources = []) :
    Returns (reconcileComponent ctx name ms (some prev)) w fun r w' =>
      r.2 = .ok () ∧ World.Reads w w' ∧
        ∀ e ∈ r.1.resources, e.status.isInstalled = true ∧ e.status.isReconciled = true := by
  unfold reconcileComponent
  simp only [Option.getD_some]
  -- Apply the manifests, carrying Rereads and the processed keys together.
  refine Returns.bind (Returns.mono ((applyManifests_fold ctx prev Tally.Rereads.nil
    (fun _ _ _ _ _ _ _ _ first second => first.append second) (fun r _ => leafStep_rereads ctx prev r)
    (fun _ _ _ _ _ part => part.regather) ms _ w).and (applyManifests_returns ctx prev ms _ w))
    fun t w₁ facts => ?_)
  obtain ⟨rereads, added⟩ := facts
  obtain ⟨reads, errors, entries, grew, good⟩ := rereads settled calm
  -- Every previous entry was rendered again or is known to be deleted, so nothing is deleted.
  have nothing : staleEntries t.processed prev.resources.reverse = [] := by
    rw [added.staleEntries_processed_reverse rfl, nothingStale, List.reverse_nil]
  rw [deleteStale_settled ctx _ _ _ nothing]
  refine Returns.bind (Returns.pure ?_)
  refine Returns.bind (Returns.mono (Engine.now_returns w₁) fun now w₂ read => ?_)
  obtain ⟨-, rfl⟩ := read
  -- No failure was added, so the outcome is Ok.
  have clean : t.errors.toResult = .ok () := by
    rw [errors]
    rfl
  have resources : t.status.resources ++ [] = entries := by simpa using grew
  -- Whichever generation the pass notes, the entries are those the leaves made.
  split
  · exact Returns.pure ⟨clean, reads, by simpa [resources] using good⟩
  · exact Returns.pure ⟨clean, reads, by simpa [resources] using good⟩

end MeshControl
