import MeshControl.Proofs.Engine.Tracking
import MeshControl.Proofs.Cluster.Keyed
import MeshControl.Engine.ControlPlane

/-! What a teardown deletes: every object its status tracks and has not seen deleted, newest
first, and besides those only the constraints the delete hooks read and update. -/

namespace MeshControl

/-! The keys a teardown deletes, and the calls it makes. -/

/-- A key of a security context constraint. -/
def ResourceKey.IsConstraint (k : ResourceKey) : Prop := ∃ name, k = constraintKey name

/-- A key of one of the constraints that grants give. -/
def Grants.Constrains (g : Grants) (k : ResourceKey) : Prop := ∃ c ∈ g.constraints, k = constraintKey c

/-- A key of a constraint that the ServiceAccount hook grants and revokes. -/
def Hooks.Granted (h : Hooks) (k : ResourceKey) : Prop := ∃ g, h.serviceAccounts = some g ∧ g.Constrains k

theorem Hooks.Granted.isConstraint {h : Hooks} {k : ResourceKey} (granted : h.Granted k) : k.IsConstraint := by
  obtain ⟨_, _, c, _, rfl⟩ := granted
  exact ⟨c, rfl⟩

/-- A read or an update of an object whose key `W` allows. -/
def Op.ReadsOrUpdates (W : ResourceKey → Prop) (op : Op) : Prop :=
  (op.verb = .get ∨ op.verb = .update) ∧ W op.key

/-- A call of a teardown that deletes the objects of `keys`: one of those deletions, or a read
or an update of a constraint by the delete hooks. -/
def Op.OfTeardown (keys : List ResourceKey) (op : Op) : Prop :=
  op.verb = .delete ∧ op.key ∈ keys ∨ op.ReadsOrUpdates ResourceKey.IsConstraint

/-- The objects of a component a teardown deletes, newest first: those whose deletion is not
confirmed, failed installs included. -/
def ComponentStatus.teardownKeys (c : ComponentStatus) : List ResourceKey :=
  (c.resources.reverse.filter fun r => !r.status.deletionConfirmed).map (·.resource)

/-- The objects a teardown deletes, in order: newest component first. -/
def ControlPlaneStatus.teardownKeys (status : ControlPlaneStatus) : List ResourceKey :=
  status.componentStatus.reverse.flatMap ComponentStatus.teardownKeys

theorem ControlPlaneStatus.mem_teardownKeys {status : ControlPlaneStatus} {k : ResourceKey} :
    k ∈ status.teardownKeys ↔ ∃ c ∈ status.componentStatus, ∃ r ∈ c.resources,
      r.status.deletionConfirmed = false ∧ r.resource = k := by
  simp [teardownKeys, ComponentStatus.teardownKeys, List.mem_flatMap, and_assoc]

namespace World

variable {P : Op → Prop} {D W : ResourceKey → Prop}

/-- A step confined to the calls `P`, deleting only objects under `D` and writing only objects
under `W`, of a well-keyed cluster. -/
def Within (P : Op → Prop) (D W : ResourceKey → Prop) (w w' : World) : Prop :=
  Store.Within P D W w.store w'.store

instance : IsPreorder World (Within P D W) where
  refl w := Store.Within.refl w.store
  trans _ _ _ first second := Store.Within.trans first second

/-- A step that leaves the cluster alone is confined to anything. -/
theorem Within.of_store {w w' : World} (same : w'.store = w.store) : Within P D W w w' := by
  unfold Within
  rw [same]
  exact Store.Within.refl w.store

end World

namespace Engine

variable {α : Type} {P : Op → Prop} {D W : ResourceKey → Prop}

theorem cluster_within {x : StoreM α} (kept : Keeps (Store.Within P D W) x) :
    Keeps (World.Within P D W) (Engine.cluster x) := by
  intro w
  show Store.Within P D W w.store (endState ((Engine.cluster x).run w)).store
  rw [Engine.endState_cluster]
  -- A call the cluster never reached leaves it alone.
  split
  · exact Store.Within.refl w.store
  · exact kept w.store

theorem sleep_within (ms : Nat) : Keeps (World.Within P D W) (Engine.sleep ms) :=
  -- Sleeping only moves the clock and counts, whichever branch it takes.
  Keeps.modify fun w => World.Within.of_store (by split <;> (try split) <;> (try split) <;> rfl)

theorem record_within (f : Metrics → Metrics) : Keeps (World.Within P D W) (Engine.record f) :=
  Keeps.modify fun _ => World.Within.of_store rfl

end Engine

/-! The delete hooks touch constraints only. -/

/-- Granting or revoking constraints reads and updates the granted constraints and nothing else:
a read constraint is stored under its own key, so its update is of the same constraint. -/
theorem updateUsers_within (g : Grants) (user : String) (add : Bool) :
    Keeps (World.Within (Op.ReadsOrUpdates g.Constrains) (fun _ => False) g.Constrains)
      (updateUsers g user add) := by
  unfold updateUsers
  -- Each constraint is read, and updated only when its user list changes.
  refine Keeps.forM _ fun constraint granted => retryWhile_keeps Engine.sleep_within ?_
  have read : Keeps (World.Within (Op.ReadsOrUpdates g.Constrains) (fun _ => False) g.Constrains)
      (Engine.cluster (getObject (constraintKey constraint))) :=
    Engine.cluster_within ((getObject_within (constraintKey constraint)).weaken
      fun _ _ within => within.mono (fun op same => by subst same; exact ⟨.inl rfl, constraint, granted, rfl⟩)
        (fun _ no => no) (fun _ no => no.elim))
  refine Keeps.bind_of read fun w scc w₁ ran keyed => ?_
  -- The constraint read is stored under its own key, so its update is of it too.
  have named : scc.key = .ok (constraintKey constraint) := by
    obtain ⟨found, logged⟩ := getObject_ok (Engine.cluster_ok ran)
    exact keyed _ _ (by rw [logged, Store.lookup_log]; exact found)
  have update : ∀ v, Keeps (World.Within (Op.ReadsOrUpdates g.Constrains) (fun _ => False) g.Constrains)
      (Engine.cluster (updateObject (scc.setField "users" v))) := fun v =>
    Engine.cluster_within ((updateObject_within ((Object.key_setField scc "users" v).trans named)).weaken
      fun _ _ within => within.mono (fun op same => by subst same; exact ⟨.inr rfl, constraint, granted, rfl⟩)
        (fun _ no => no) (fun k same => ⟨constraint, granted, same⟩))
  -- Nothing to change returns at once; otherwise the one update.
  exact (Keeps.ite (Keeps.pure _) (Keeps.discard (update _))) w₁ keyed

/-- A grant or revoke run by the hooks touches only the constraints they grant. -/
theorem Hooks.updateUsers_within {h : Hooks} {g : Grants} (granting : h.serviceAccounts = some g)
    (user : String) (add : Bool) :
    Keeps (World.Within (Op.ReadsOrUpdates h.Granted) (fun _ => False) h.Granted) (updateUsers g user add) :=
  -- The hooks grant only their own constraints.
  (MeshControl.updateUsers_within g user add).weaken fun _ _ within => within.mono
    (fun _ call => ⟨call.1, g, granting, call.2⟩) (fun _ no => no) (fun _ constrains => ⟨g, granting, constrains⟩)

theorem Hooks.afterCreate_within (h : Hooks) (key : ResourceKey) (obj : Object) :
    Keeps (World.Within (Op.ReadsOrUpdates h.Granted) (fun _ => False) h.Granted) (h.afterCreate key obj) := by
  unfold afterCreate
  -- Only a hook with grants, for a ServiceAccount, updates constraints.
  split
  · rename_i g granting
    split
    · exact Keeps.discard (Engine.attempt_keeps (Hooks.updateUsers_within granting _ _))
    · exact Keeps.pure _
  · exact Keeps.pure _

theorem Hooks.afterDelete_within (h : Hooks) (key : ResourceKey) :
    Keeps (World.Within (Op.ReadsOrUpdates h.Granted) (fun _ => False) h.Granted) (h.afterDelete key) := by
  unfold afterDelete
  -- Revoking is the same calls on the same constraints.
  split
  · rename_i g granting
    split
    · exact Keeps.discard (Engine.attempt_keeps (Hooks.updateUsers_within granting _ _))
    · exact Keeps.pure _
  · exact Keeps.pure _

/-- Deleting a resource deletes its own object in the foreground, and otherwise reads and updates
the constraints the hooks grant only, whatever the cluster answers. -/
theorem deleteResource_within (ctx : Context) (key : ResourceKey) :
    Keeps (World.Within (fun op => op = deletionOf key ∨ op.ReadsOrUpdates ctx.hooks.Granted)
      (· = key) ctx.hooks.Granted) (deleteResource ctx key) := by
  unfold deleteResource
  have deleted : Keeps (World.Within (fun op => op = deletionOf key ∨ op.ReadsOrUpdates ctx.hooks.Granted)
      (· = key) ctx.hooks.Granted) (Engine.cluster (deleteObject key (some .foreground))) :=
    Engine.cluster_within ((deleteObject_within key (some .foreground)).weaken
      fun _ _ within => within.mono (fun _ same => .inl same) (fun _ same => same) (fun _ no => no.elim))
  have hooks : Keeps (World.Within (fun op => op = deletionOf key ∨ op.ReadsOrUpdates ctx.hooks.Granted)
      (· = key) ctx.hooks.Granted) (ctx.hooks.afterDelete key) :=
    (Hooks.afterDelete_within ctx.hooks key).weaken fun _ _ within => within.mono
      (fun _ hook => .inr hook) (fun _ no => no.elim) (fun _ same => same)
  refine Keeps.bind (Engine.attempt_keeps deleted) fun r => ?_
  dsimp only
  -- A deletion that went through is counted; either way the hooks run, or a failure stops.
  cases r with
  | ok u =>
    cases u
    exact Keeps.bind (Engine.record_within _) fun _ => hooks
  | error e => exact Keeps.ite (Keeps.throw_bind _ _) hooks

/-! The deletions of a teardown. -/

/-- Tearing down a control plane that holds the finalizer deletes its teardown keys in order,
touching only those and constraints, then removes the finalizer from where the deletions ended. -/
theorem deleteControlPlane_run (cfg : EngineConfig) {cp : ControlPlane} (held : cp.hasFinalizer = true)
    (w : World) :
    ∃ w₁, (deleteControlPlane cfg cp).run w = (removeFinalizer cp cfg.finalizerRetry).run w₁ ∧
      World.Within (Op.OfTeardown cp.statusOrDefault.teardownKeys) (· ∈ cp.statusOrDefault.teardownKeys)
        ResourceKey.IsConstraint w w₁ ∧
      (w.Running → World.Deletes cp.statusOrDefault.teardownKeys w w₁ ∧ w₁.Running) := by
  unfold deleteControlPlane
  -- A held finalizer means the teardown runs rather than adding it.
  simp only [held, Bool.not_true, Bool.false_eq_true, if_false]
  refine Returns.exists_run_bind (Returns.with_keeps
    (R := World.Within (Op.OfTeardown cp.statusOrDefault.teardownKeys)
      (· ∈ cp.statusOrDefault.teardownKeys) ResourceKey.IsConstraint) ?_ ?_)
  · -- Each deletion is of a key the status tracks and has not seen deleted.
    refine Keeps.forIn _ (fun component listed _ => ?_) _
    refine Keeps.bind (Keeps.forIn _ (fun resource tracked _ => ?_) _) fun _ => Keeps.pure _
    split
    · rename_i fresh
      have member : resource.resource ∈ cp.statusOrDefault.teardownKeys :=
        ControlPlaneStatus.mem_teardownKeys.mpr ⟨component, List.mem_reverse.mp listed, resource,
          List.mem_reverse.mp tracked, by simpa using fresh, rfl⟩
      refine Keeps.bind (Keeps.discard (Engine.attempt_keeps ((deleteResource_within _ _).weaken
        fun _ _ within => within.mono ?_ ?_ ?_))) fun _ => Keeps.pure _
      · rintro op (same | hook)
        · exact .inl ⟨by rw [same]; rfl, by rw [same]; exact member⟩
        · exact .inr ⟨hook.1, hook.2.isConstraint⟩
      · rintro k rfl
        exact member
      · exact fun _ granted => granted.isConstraint
    · exact Keeps.pure _
  · -- The deletions add up, component after component, entry after entry.
    refine Returns.mono (Returns.forIn
      (S := fun (c : ComponentStatus) _ w _ w' => w.Running → World.Deletes c.teardownKeys w w' ∧ w'.Running)
      (R := fun (cs : List ComponentStatus) _ w _ w' =>
        w.Running → World.Deletes (cs.flatMap ComponentStatus.teardownKeys) w w' ∧
        w'.Running) _ (fun _ w running => ⟨World.Deletes.refl w, running⟩) ?_ ?_ _ w) fun _ _ done => done
    · intro c rest _ w₁ _ w₂ _ w₃ first later
      -- One component's deletions come before those of the components after it.
      rw [List.flatMap_cons]
      exact World.Deletes.trans_running first later
    intro component _ _ w₀
    -- Within a component, the entries not yet seen deleted are deleted in order.
    refine Returns.bind (Returns.mono (Returns.forIn
      (S := fun (r : ResourceStatus) _ w _ w' => w.Running →
        World.Deletes (([r].filter fun r => !r.status.deletionConfirmed).map (·.resource)) w w' ∧ w'.Running)
      (R := fun (rs : List ResourceStatus) _ w _ w' => w.Running →
        World.Deletes ((rs.filter fun r => !r.status.deletionConfirmed).map (·.resource)) w w' ∧ w'.Running)
      _ (fun _ w running => ⟨World.Deletes.refl w, running⟩) ?_ ?_ _ w₀)
      fun _ w' deleted => by exact Returns.pure ⟨_, rfl, deleted⟩)
    · intro r rest _ w₁ _ w₂ _ w₃ first later
      -- One entry's deletion comes before those of the entries after it.
      have parts : (r :: rest).filter (fun r => !r.status.deletionConfirmed) =
          [r].filter (fun r => !r.status.deletionConfirmed) ++ rest.filter fun r => !r.status.deletionConfirmed :=
        List.filter_append [r] rest
      rw [parts, List.map_append]
      exact World.Deletes.trans_running first later
    intro resource _ _ w₁
    -- An entry seen deleted is skipped; any other is deleted whatever the answer.
    split
    · rename_i fresh
      refine Returns.bind (Returns.map (Returns.mono (deleteResource_attempt _ resource.resource w₁)
        fun _ w₂ deleted => Returns.pure ⟨_, rfl, fun running => ?_⟩))
      simpa [List.filter_cons, fresh] using deleted.2.2 running
    · rename_i confirmed
      refine Returns.pure ⟨_, rfl, fun running => ⟨?_, running⟩⟩
      simpa [List.filter_cons, confirmed] using World.Deletes.refl w₁

end MeshControl
