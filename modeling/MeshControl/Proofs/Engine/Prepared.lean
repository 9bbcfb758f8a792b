import MeshControl.Proofs.Engine.Presence
import MeshControl.Proofs.Engine.Teardown

/-! The hooks before a write, on a calm cluster: what they make of an object is a function of
the routes the cluster holds (Hooks.prepared), and running them only logs their reads. -/

namespace MeshControl

namespace World

/-- The world with calls added to its log. -/
def logged (w : World) (calls : List Op) : World :=
  { w with store := { w.store with ops := w.store.ops ++ calls } }

@[simp] theorem logged_objects (w : World) (calls : List Op) :
    (w.logged calls).store.objects = w.store.objects := rfl

@[simp] theorem logged_ops (w : World) (calls : List Op) :
    (w.logged calls).store.ops = w.store.ops ++ calls := rfl

@[simp] theorem lookup_logged (w : World) (calls : List Op) (k : ResourceKey) :
    (w.logged calls).store.lookup k = w.store.lookup k := rfl

@[simp] theorem logged_now (w : World) (calls : List Op) : (w.logged calls).now = w.now := rfl

@[simp] theorem logged_nil (w : World) : w.logged [] = w := by
  simp [logged]

@[simp] theorem logged_logged (w : World) (first second : List Op) :
    (w.logged first).logged second = w.logged (first ++ second) := by
  simp [logged, List.append_assoc]

theorem Calm.logged {w : World} (calm : w.Calm) (calls : List Op) : (w.logged calls).Calm := calm

/-- A step that only reads: the calls it logs are reads, and nothing else of the world changes. -/
def Reads (w w' : World) : Prop :=
  ∃ calls : List Op, (∀ c ∈ calls, c.verb = .get) ∧ w' = w.logged calls

theorem Reads.refl (w : World) : Reads w w := ⟨[], by simp, by simp⟩

theorem Reads.trans {w₁ w₂ w₃ : World} (first : Reads w₁ w₂) (second : Reads w₂ w₃) : Reads w₁ w₃ := by
  obtain ⟨calls₁, gets₁, rfl⟩ := first
  obtain ⟨calls₂, gets₂, rfl⟩ := second
  -- The two logs concatenate, and every call of either is a read.
  refine ⟨calls₁ ++ calls₂, fun c member => ?_, by simp⟩
  rcases List.mem_append.mp member with early | late
  · exact gets₁ c early
  · exact gets₂ c late

/-- Logging reads is a step that only reads. -/
theorem Reads.of_logged (w : World) {calls : List Op} (gets : ∀ c ∈ calls, c.verb = .get) :
    Reads w (w.logged calls) :=
  ⟨calls, gets, rfl⟩

theorem Reads.calm {w w' : World} (reads : Reads w w') (calm : w.Calm) : w'.Calm := by
  obtain ⟨calls, -, rfl⟩ := reads
  exact calm.logged calls

theorem Reads.lookup {w w' : World} (reads : Reads w w') (k : ResourceKey) :
    w'.store.lookup k = w.store.lookup k := by
  obtain ⟨calls, -, rfl⟩ := reads
  rfl

end World

/-- A plain outcome as the result of a run that ends in `s`. -/
def asResult {ε σ α : Type} (x : Except ε α) (s : σ) : EStateM.Result ε σ α :=
  Except.casesOn x (fun e => .error e s) (fun a => .ok a s)

@[simp] theorem asResult_ok {ε σ α : Type} (a : α) (s : σ) :
    asResult (Except.ok a : Except ε α) s = .ok a s := rfl

@[simp] theorem asResult_error {ε σ α : Type} (e : ε) (s : σ) :
    asResult (Except.error e : Except ε α) s = .error e s := rfl

/-- A plain outcome returned exactly when it is a value, and then in the state it was given. -/
theorem asResult_eq_ok {ε σ α : Type} {x : Except ε α} {s s' : σ} {a : α} (same : asResult x s = .ok a s') :
    x = .ok a ∧ s' = s := by
  -- A failure is never a value.
  cases x with
  | error e => cases same
  | ok b =>
    cases same
    exact ⟨rfl, rfl⟩

/-- A plain computation runs to its own outcome, in the world it started in. -/
theorem Engine.ofExcept_run {α : Type} (x : Except Error α) (w : World) :
    (Engine.ofExcept x).run w = asResult x w := by
  cases x <;> rfl

/-- On a calm world a read is logged and finds the object stored under its key, or fails with
not found. -/
theorem Engine.getObject_calm (key : ResourceKey) {w : World} (calm : w.Calm) :
    (Engine.cluster (getObject key)).run w =
      (w.store.lookup key).elim (.error (.notFound key.render) (w.logged [⟨.get, key, none⟩]))
        fun o => .ok o (w.logged [⟨.get, key, none⟩]) := by
  -- A quiet cluster injects no failure, and a running world passes the call on.
  obtain ⟨quiet, running, -⟩ := calm
  have read : (getObject key).run w.store =
      (w.store.lookup key).elim (.error (.notFound key.render) (w.store.log ⟨.get, key, none⟩))
        fun o => .ok o (w.store.log ⟨.get, key, none⟩) := by
    unfold getObject
    rw [EStateM.run_bind, record_quiet quiet]
    dsimp only
    rw [stored_run, Store.lookup_log]
  rw [Engine.cluster_run, if_neg (by simp [running]), read]
  cases w.store.lookup key <;> rfl

/-- On a calm world a read that returned found the object stored under its key, and logged
the read. -/
theorem Engine.getObject_calm_ok {key : ResourceKey} {w w' : World} {X : Object} (calm : w.Calm)
    (ran : (Engine.cluster (getObject key)).run w = .ok X w') :
    w.store.lookup key = some X ∧ w' = w.logged [⟨.get, key, none⟩] := by
  rw [Engine.getObject_calm key calm] at ran
  -- A missing object fails the read.
  cases held : w.store.lookup key with
  | none =>
    rw [held] at ran
    cases ran
  | some Y =>
    rw [held] at ran
    cases ran
    exact ⟨rfl, rfl⟩

/-- On a calm world a read that failed found nothing under its key, and logged the read. -/
theorem Engine.getObject_calm_error {key : ResourceKey} {w w' : World} {e : Error} (calm : w.Calm)
    (ran : (Engine.cluster (getObject key)).run w = .error e w') :
    w.store.lookup key = none ∧ w' = w.logged [⟨.get, key, none⟩] := by
  rw [Engine.getObject_calm key calm] at ran
  -- A stored object is returned, not a failure.
  cases held : w.store.lookup key with
  | none =>
    rw [held] at ran
    cases ran
    exact ⟨rfl, rfl⟩
  | some Y =>
    rw [held] at ran
    cases ran

/-- On a calm world a route is read once, and its URL is the one the route the cluster holds
serves. -/
theorem routeUrl_calm (ns name : String) {w : World} (calm : w.Calm) :
    (routeUrl ns name).run w =
      .ok ((w.store.lookup (routeKey ns name)).bind routeUrlOf) (w.logged [⟨.get, routeKey ns name, none⟩]) := by
  unfold routeUrl
  rw [EStateM.run_bind, run_tryCatch, run_map, Engine.getObject_calm _ calm]
  -- A missing route is not found, which the lookup takes as no URL.
  cases w.store.lookup (routeKey ns name) <;> rfl

namespace Hooks

/-- The keys of the objects the hooks read before a write: Kiali's routes, when its hook runs. -/
def routeKeys (h : Hooks) (ns : String) : List ResourceKey :=
  if h.kiali then [routeKey ns "grafana", routeKey ns "tracing"] else []

/-- Whether the Kiali hook edits an object before its write: the `kiali` ConfigMap. -/
def editsKiali (h : Hooks) (key : ResourceKey) (obj : Object) : Bool :=
  h.kiali && key.isCore "ConfigMap" && obj.metadata.name == some kialiConfigMap

/-- What the hooks make of an object before it is written, on a cluster holding `s`: the Kiali
ConfigMap pointed at the URLs its routes serve, any other object as it is. -/
def prepared (h : Hooks) (ns : String) (s : Store) (key : ResourceKey) (obj : Object) : Except Error Object :=
  if h.editsKiali key obj then
    kialiConfigured obj ((s.lookup (routeKey ns "grafana")).bind routeUrlOf)
      ((s.lookup (routeKey ns "tracing")).bind routeUrlOf)
  else .ok obj

/-- The reads the hooks make before an object is written. -/
def reads (h : Hooks) (ns : String) (key : ResourceKey) (obj : Object) : List Op :=
  if h.editsKiali key obj then [⟨.get, routeKey ns "grafana", none⟩, ⟨.get, routeKey ns "tracing", none⟩]
  else []

theorem reads_get (h : Hooks) (ns : String) (key : ResourceKey) (obj : Object) :
    ∀ c ∈ h.reads ns key obj, c.verb = .get := by
  unfold reads
  -- The Kiali hook reads its two routes; the others read nothing.
  split <;> simp

/-- The hooks' reads before a write, followed by the read of the object, only read. -/
theorem reads_then_get (h : Hooks) (ns : String) (key : ResourceKey) (obj : Object) (w : World) :
    World.Reads w (w.logged (h.reads ns key obj ++ [⟨.get, key, none⟩])) := by
  refine World.Reads.of_logged w fun c member => ?_
  -- The hooks' reads are reads, and so is the object's own read.
  rcases List.mem_append.mp member with hook | own
  · exact h.reads_get ns key obj c hook
  · rw [List.mem_singleton] at own
    rw [own]

/-- On a calm world the hooks before a write make of the object what `prepared` says, and only
log their reads. -/
theorem beforeApply_calm (h : Hooks) (ns : String) (key : ResourceKey) (obj : Object) {w : World}
    (calm : w.Calm) :
    (h.beforeApply ns key obj).run w = asResult (h.prepared ns w.store key obj) (w.logged (h.reads ns key obj)) := by
  unfold beforeApply prepared reads editsKiali
  -- Only the Kiali ConfigMap is edited, and only when the Kiali hook is on.
  by_cases kiali : (h.kiali && key.isCore "ConfigMap") = true
  · rw [if_pos kiali]
    unfold configureKiali
    by_cases named : (obj.metadata.name == some kialiConfigMap) = true
    · have edits : (h.kiali && key.isCore "ConfigMap" && obj.metadata.name == some kialiConfigMap) = true := by
        rw [kiali, named]
        rfl
      rw [if_pos edits, if_pos edits, if_neg (by simp [bne, named]), EStateM.run_bind, routeUrl_calm _ _ calm]
      -- The second route is read after the first, and the edit reads nothing.
      show (routeUrl ns "tracing" >>= _).run _ = _
      rw [EStateM.run_bind, routeUrl_calm _ _ (calm.logged _)]
      dsimp only
      rw [Engine.ofExcept_run]
      simp
    -- Another ConfigMap is handed on without a read.
    · have edits : (h.kiali && key.isCore "ConfigMap" && obj.metadata.name == some kialiConfigMap) ≠ true := by
        simpa [kiali] using named
      rw [if_neg edits, if_neg edits, if_pos (by simpa [bne] using named), World.logged_nil]
      rfl
  -- Any other object, or without the Kiali hook, is handed on too.
  · have edits : (h.kiali && key.isCore "ConfigMap" && obj.metadata.name == some kialiConfigMap) ≠ true := by
      simp_all
    rw [if_neg kiali, if_neg edits, if_neg edits, World.logged_nil]
    rfl

/-- What the hooks make of an object depends on the cluster only through the routes they read. -/
theorem prepared_congr (h : Hooks) (ns : String) {s s' : Store}
    (same : ∀ k ∈ h.routeKeys ns, s'.lookup k = s.lookup k) (key : ResourceKey) (obj : Object) :
    h.prepared ns s' key obj = h.prepared ns s key obj := by
  unfold prepared
  split
  · rename_i edits
    -- Editing means the Kiali hook is on, so both routes are among those read.
    have kiali : h.kiali = true := by
      simp only [editsKiali, Bool.and_eq_true] at edits
      exact edits.1.1
    rw [same _ (by simp [routeKeys, kiali]), same _ (by simp [routeKeys, kiali])]
  · rfl

/-- The hooks edit an object's data, never its key. -/
theorem prepared_key (h : Hooks) (ns : String) (s : Store) (key : ResourceKey) {obj D : Object}
    (made : h.prepared ns s key obj = .ok D) : D.key = obj.key := by
  unfold prepared at made
  -- The edit keeps the key; an object not edited is the same object.
  split at made
  · exact kialiConfigured_key made
  · cases made
    rfl

/-- The routes the hooks read are no constraints the hooks grant. -/
theorem not_granted_of_routeKeys (h : Hooks) {ns : String} {k : ResourceKey} (route : k ∈ h.routeKeys ns) :
    ¬ h.Granted k := by
  rintro ⟨g, -, c, -, rfl⟩
  unfold routeKeys at route
  -- A route key is not a constraint's key: their kinds differ.
  split at route <;> simp [routeKey, constraintKey] at route

end Hooks

end MeshControl
