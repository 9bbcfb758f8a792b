import MeshControl.Proofs.Engine.Rerun
import MeshControl.Proofs.Patch.Drift

/-! What a successful first pass leaves: on a calm cluster that fits its leaves, each step writes
only its own object and granted constraints, so every leaf ends settled. -/

namespace MeshControl

/-- The keys of the leaves of a pass that read as objects with a key, in order. -/
def readKeys (xs : List (Except Error Object)) : List ResourceKey :=
  xs.filterMap fun r => r.toOption.bind fun o => o.key.toOption

@[simp] theorem readKeys_append (xs ys : List (Except Error Object)) :
    readKeys (xs ++ ys) = readKeys xs ++ readKeys ys :=
  List.filterMap_append

theorem mem_readKeys {xs : List (Except Error Object)} {o : Object} {k : ResourceKey}
    (member : .ok o ∈ xs) (keyed : o.key = .ok k) : k ∈ readKeys xs :=
  List.mem_filterMap.mpr ⟨.ok o, member, by simp [Except.toOption, keyed]⟩

/-- The keys a document renders are those of the leaves it reads. -/
theorem documentKeys_eq_readKeys (d : Except Error Object) : documentKeys d = readKeys (documentReads d) := by
  -- A document that parsed reads its leaves; one that did not reads as a failure with no key.
  cases d with
  | ok o =>
    simp only [documentKeys, documentReads, Except.map, Except.valueOr_ok, Object.leafKeys,
      Object.leaves_eq_filterMap, readKeys, List.filterMap_filterMap]
  | error e => rfl

/-- The keys a component renders are those of the leaves it reads. -/
theorem renderedKeys_eq_readKeys (ms : List Manifest) : renderedKeys ms = readKeys (renderedReads ms) := by
  unfold renderedKeys renderedReads readKeys
  rw [List.filterMap_flatMap]
  refine List.flatMap_congr fun m _ => ?_
  unfold Manifest.keys Manifest.leafReads
  -- A YAML file's keys are its documents'; any other file has none.
  split
  · rw [List.filterMap_flatMap]
    exact List.flatMap_congr fun d _ => documentKeys_eq_readKeys d
  · rfl

/-- A noted outcome that left the failures as they were is a success, when it fails plainly. -/
theorem Aggregate.collect_eq_self {agg : Aggregate} {r : Except Error Unit} (plain : FailsPlainly r)
    (same : (agg.collect r).errors = agg.errors) : r = .ok () := by
  rw [Aggregate.collect_plain agg plain] at same
  -- Only a failure would have been noted.
  cases r with
  | ok u => rfl
  | error e => simp [failureOf] at same

/-! ### Steps that write few objects -/

namespace World

/-- A step that writes at most the objects of the keys `W`, ending in a world that is calm and
stores each object under its own key. -/
structure Touches (W : ResourceKey → Prop) (w w' : World) : Prop where
  calm : w'.Calm
  keyed : w'.store.WellKeyed
  frame : ∀ k, ¬ W k → w'.store.lookup k = w.store.lookup k

variable {W W' : ResourceKey → Prop}

theorem Touches.refl {w : World} (calm : w.Calm) (keyed : w.store.WellKeyed) : Touches W w w :=
  ⟨calm, keyed, fun _ _ => rfl⟩

theorem Touches.trans {w₁ w₂ w₃ : World} (first : Touches W w₁ w₂) (second : Touches W w₂ w₃) :
    Touches W w₁ w₃ :=
  ⟨second.calm, second.keyed, fun k other => (second.frame k other).trans (first.frame k other)⟩

theorem Touches.mono {w w' : World} (touches : Touches W w w') (wider : ∀ k, W k → W' k) :
    Touches W' w w' :=
  ⟨touches.calm, touches.keyed, fun k other => touches.frame k fun written => other (wider k written)⟩

/-- A step that only reads writes nothing. -/
theorem Reads.touches {w w' : World} (reads : Reads w w') (calm : w.Calm) (keyed : w.store.WellKeyed) :
    Touches W w w' :=
  ⟨reads.calm calm, fun k o found => keyed k o (by rwa [reads.lookup] at found), fun k _ => reads.lookup k⟩

/-- A step confined to deleting objects of `D` and writing objects of `W` writes no others. -/
theorem Within.touches {P : Op → Prop} {D : ResourceKey → Prop} {w w' : World}
    (within : World.Within P D W w w') (calm : w'.Calm) (keyed : w.store.WellKeyed) :
    Touches (fun k => D k ∨ W k) w w' := by
  have confined := within keyed
  refine ⟨calm, confined.keyed, fun k other => ?_⟩
  -- A key outside W was kept, or deleted, which D covers.
  rcases confined.frame k (fun written => other (.inr written)) with same | ⟨deleted, _⟩
  · exact same
  · exact absurd (.inl deleted) other

/-- A write of an object under its own key writes nothing else. -/
theorem Touches.of_write {w w' : World} {key : ResourceKey} {o : Object} (calm : w'.Calm)
    (keyed : w.store.WellKeyed) (named : o.key = .ok key) (stored : w'.store.lookup key = some o)
    (others : ∀ k, k ≠ key → w'.store.lookup k = w.store.lookup k) : Touches (· = key) w w' := by
  refine ⟨calm, fun k o' found => ?_, fun k other => others k other⟩
  -- The written key holds the object, which names it; the others are unchanged.
  by_cases here : k = key
  · subst here
    rw [stored, Option.some.injEq] at found
    exact found ▸ named
  · rw [others k here] at found
    exact keyed k o' found

end World

/-- A settled object stays settled through a step that writes neither its key nor a route. -/
theorem Settled.touched {ctx : Context} {W : ResourceKey → Prop} {w w' : World} {o : Object}
    (settled : Settled ctx w.store o) (touched : World.Touches W w w')
    (untouched : ∀ k, (o.key = .ok k ∨ k ∈ ctx.hooks.routeKeys ctx.ns) → ¬ W k) : Settled ctx w'.store o :=
  settled.congr fun k read => touched.frame k (untouched k read)

/-! ### What a first pass needs -/

/-- The objects the hooks make of a desired object on the cluster `s`, stamped with their own
configuration, are regular, and the configuration they record reads back from its text. -/
def Writable (ctx : Context) (s : Store) (o : Object) : Prop :=
  ∀ key D, o.key = .ok key → ctx.hooks.prepared ctx.ns s key (ctx.bookkeeping o) = .ok D →
    D.stampLastApplied.Regular ∧ Json.parse D.appliedConfiguration.render = .ok D.appliedConfiguration

theorem Writable.congr {ctx : Context} {s s' : Store} {o : Object} (writable : Writable ctx s o)
    (routes : ∀ k ∈ ctx.hooks.routeKeys ctx.ns, s'.lookup k = s.lookup k) : Writable ctx s' o := by
  intro key D keyed made
  -- The hooks read only the routes, which are unchanged.
  rw [Hooks.prepared_congr _ _ routes] at made
  exact writable key D keyed made

/-- A computable check that an object is regular: canonical, with its other fields unique and
none of them reserved, its annotations and labels sorted, and no deletion time. -/
def Object.regularCheck (o : Object) : Bool :=
  decide o.toJson.Canonical && decide o.data.keys.Nodup &&
    ["apiVersion", "kind", "metadata"].all (fun k => (Fields.get? o.data k).isNone) &&
    o.metadata.annotations.all (fun a => decide (a.Pairwise fun x y => x.1 < y.1)) &&
    o.metadata.labels.all (fun a => decide (a.Pairwise fun x y => x.1 < y.1)) &&
    o.metadata.deletionTimestamp.isNone

theorem Object.regular_of_check {o : Object} (check : o.regularCheck = true) : o.Regular := by
  simp only [Object.regularCheck, Bool.and_eq_true, List.all_eq_true, Option.isNone_iff_eq_none] at check
  obtain ⟨⟨⟨⟨⟨canonical, unique⟩, reserved⟩, annotations⟩, labels⟩, undeleted⟩ := check
  refine ⟨of_decide_eq_true canonical, of_decide_eq_true unique, fun k member => reserved k member,
    ⟨fun a set => ?_, fun a set => ?_, fun t set => ?_⟩⟩
  -- Each part of the check is the matching field of Regular.
  · rw [set] at annotations
    have sorted : a.Pairwise (fun x y => x.1 < y.1) := of_decide_eq_true annotations
    exact sorted
  · rw [set] at labels
    have sorted : a.Pairwise (fun x y => x.1 < y.1) := of_decide_eq_true labels
    exact sorted
  · rw [set] at undeleted
    cases undeleted

/-- A computable check that an object is writable on the cluster `s`. -/
def Writable.check (ctx : Context) (s : Store) (o : Object) : Bool :=
  match o.key with
  | .error _ => true
  | .ok key =>
    match ctx.hooks.prepared ctx.ns s key (ctx.bookkeeping o) with
    | .error _ => true
    | .ok D => D.stampLastApplied.regularCheck &&
      decide (((Json.parse D.appliedConfiguration.render).toOption.map fun v =>
        v.beq D.appliedConfiguration && D.appliedConfiguration.floatFree) = some true)

theorem Writable.of_check {ctx : Context} {s : Store} {o : Object} (check : Writable.check ctx s o = true) :
    Writable ctx s o := by
  intro key D keyed made
  -- The check computed the hooks' object and compared its record.
  simp only [Writable.check, keyed, made, Bool.and_eq_true, decide_eq_true_eq] at check
  exact ⟨Object.regular_of_check check.1, parse_eq_of_check check.2⟩

/-- What a first pass over the leaves `xs` needs of the world it starts in: calm and storing each
object under its own key; the keys of the leaves distinct, none of them a constraint the hooks
grant or a route they read; the objects the cluster holds under those keys regular; and the
objects the hooks make of the leaves writable. -/
structure Fits (ctx : Context) (xs : List (Except Error Object)) (w : World) : Prop where
  calm : w.Calm
  keyed : w.store.WellKeyed
  distinct : (readKeys xs).Nodup
  apart : ∀ k ∈ readKeys xs, ¬ ctx.hooks.Granted k ∧ k ∉ ctx.hooks.routeKeys ctx.ns
  regular : ∀ k ∈ readKeys xs, ∀ X, w.store.lookup k = some X → X.Regular
  writable : ∀ o, .ok o ∈ xs → Writable ctx w.store o

namespace Fits

variable {ctx : Context} {xs ys : List (Except Error Object)} {w w' : World}

/-- The routes the hooks read are no leaf's and no granted constraint, so a step that writes only
leaves and constraints keeps them. -/
theorem routes_kept (fits : Fits ctx xs w)
    (touched : World.Touches (fun k => k ∈ readKeys xs ∨ ctx.hooks.Granted k) w w') :
    ∀ k ∈ ctx.hooks.routeKeys ctx.ns, w'.store.lookup k = w.store.lookup k := by
  intro k route
  refine touched.frame k ?_
  rintro (leaf | granted)
  · exact (fits.apart k leaf).2 route
  · exact Hooks.not_granted_of_routeKeys _ route granted

/-- What a leaf's settledness reads, its own key or a route, is no constraint the hooks grant. -/
theorem not_granted_of_read (fits : Fits ctx xs w) {o : Object} (member : .ok o ∈ xs) {k : ResourceKey}
    (read : o.key = .ok k ∨ k ∈ ctx.hooks.routeKeys ctx.ns) : ¬ ctx.hooks.Granted k := by
  -- A leaf's own key is not granted; a route is never a constraint.
  rcases read with keyed | route
  · exact (fits.apart k (mem_readKeys member keyed)).1
  · exact Hooks.not_granted_of_routeKeys _ route

theorem left (fits : Fits ctx (xs ++ ys) w) : Fits ctx xs w where
  calm := fits.calm
  keyed := fits.keyed
  distinct := by
    have distinct := fits.distinct
    rw [readKeys_append] at distinct
    exact distinct.sublist (List.sublist_append_left _ _)
  apart k leaf := fits.apart k (by simp [leaf])
  regular k leaf := fits.regular k (by simp [leaf])
  writable o member := fits.writable o (List.mem_append_left _ member)

/-- After the leaves `xs`, the world still fits the leaves that follow them. -/
theorem after (fits : Fits ctx (xs ++ ys) w)
    (touched : World.Touches (fun k => k ∈ readKeys xs ∨ ctx.hooks.Granted k) w w') : Fits ctx ys w' := by
  have distinct := fits.distinct
  rw [readKeys_append, List.nodup_append] at distinct
  -- The keys of the later leaves were neither written before nor granted.
  have kept : ∀ k ∈ readKeys ys, w'.store.lookup k = w.store.lookup k := by
    intro k later
    refine touched.frame k ?_
    rintro (earlier | granted)
    · exact distinct.2.2 k earlier k later rfl
    · exact (fits.apart k (by simp [later])).1 granted
  refine ⟨touched.calm, touched.keyed, distinct.2.1, fun k later => fits.apart k (by simp [later]),
    fun k later X held => fits.regular k (by simp [later]) X (by rw [← kept k later]; exact held),
    fun o member => ?_⟩
  exact (fits.writable o (List.mem_append_right _ member)).congr (fits.left.routes_kept touched)

end Fits

/-! ### One object -/

/-- On a calm, well-keyed world, applying an object that fits either fails or writes only its own
object and granted constraints, and leaves it settled. -/
theorem applyObject_settles (ctx : Context) {o : Object} {key : ResourceKey} (keyed : o.key = .ok key)
    (status : ResourceStatus) {w : World} (calm : w.Calm) (wellKeyed : w.store.WellKeyed)
    (apart : ¬ ctx.hooks.Granted key ∧ key ∉ ctx.hooks.routeKeys ctx.ns)
    (regular : ∀ X, w.store.lookup key = some X → X.Regular) (writable : Writable ctx w.store o) :
    Returns (applyObject ctx key (ctx.bookkeeping o) status) w fun r w' =>
      r.1 = .ok () → World.Touches (fun k => k = key ∨ ctx.hooks.Granted k) w w' ∧ Settled ctx w'.store o := by
  -- Neither a route nor the object's own key is written by the step or granted.
  have routesApart : ∀ k ∈ ctx.hooks.routeKeys ctx.ns, ¬ (k = key ∨ ctx.hooks.Granted k) := by
    rintro k route (rfl | granted)
    · exact apart.2 route
    · exact Hooks.not_granted_of_routeKeys _ route granted
  -- On a calm world the hooks make of the object what `Hooks.prepared` says and only log their reads.
  have hooksRan : ∀ {D : Object} {w₁ : World},
      (ctx.hooks.beforeApply ctx.ns key (ctx.bookkeeping o)).run w = .ok D w₁ →
      ctx.hooks.prepared ctx.ns w.store key (ctx.bookkeeping o) = .ok D ∧
        w₁ = w.logged (ctx.hooks.reads ctx.ns key (ctx.bookkeeping o)) :=
    fun hooked => asResult_eq_ok ((Hooks.beforeApply_calm _ _ _ _ calm).symm.trans hooked)
  have stampKey : ∀ {D : Object}, ctx.hooks.prepared ctx.ns w.store key (ctx.bookkeeping o) = .ok D →
      D.stampLastApplied.key = .ok key :=
    fun made => (Hooks.prepared_key _ _ _ _ made).trans ((Context.bookkeeping_key ctx o).trans keyed)
  -- The hooks and the read of the object only read.
  have read : World.Touches (fun k => k = key ∨ ctx.hooks.Granted k) w
      ((w.logged (ctx.hooks.reads ctx.ns key (ctx.bookkeeping o))).logged [⟨.get, key, none⟩]) := by
    rw [World.logged_logged]
    exact (ctx.hooks.reads_then_get ctx.ns key (ctx.bookkeeping o) w).touches calm wellKeyed
  refine (applyObject_runs ctx key (ctx.bookkeeping o) status w).mono fun r w' run => ?_
  -- Only a create, a patch, or nothing to patch returns without a failure.
  cases run with
  | hookFailed => exact fun failed => by cases failed
  | readFailed => exact fun failed => by cases failed
  | createFailed => exact fun failed => by cases failed
  | unpatchable => exact fun failed => by cases failed
  | patchFailed => exact fun failed => by cases failed
  | @created D c e w₁ w₂ w₃ _ hooked found _ create after =>
    -- A missing object is created under its key, and the create hooks touch only constraints.
    obtain ⟨made, rfl⟩ := hooksRan hooked
    obtain ⟨-, rfl⟩ := Engine.getObject_calm_error (calm.logged _) found
    obtain ⟨stampRegular, readsBack⟩ := writable key D keyed made
    have ran := Engine.cluster_ok create
    obtain ⟨k, named, -, written, stored, others, -, -⟩ := createObject_run_ok ran
    rw [stampKey made, Except.ok.injEq] at named
    subst named
    have createdKey : c.key = .ok key := by
      rw [written]
      exact (Object.key_withMeta _ rfl rfl).trans (stampKey made)
    have steady := Keeps.of_ok create (Engine.cluster_steady (createObject_grows _))
    have wrote : World.Touches (fun k => k = key ∨ ctx.hooks.Granted k) w w₃ :=
      read.trans ((World.Touches.of_write (steady.calm read.calm) read.keyed createdKey stored
        others).mono fun _ same => .inl same)
    -- Counting the create changes no object; the create hooks write only constraints.
    have counted : World.Touches (fun k => k = key ∨ ctx.hooks.Granted k) w
        { w₃ with metrics := w₃.metrics.countOperation key.kind "create" } :=
      ⟨wrote.calm, wrote.keyed, wrote.frame⟩
    have granted := World.Within.touches (Keeps.of_ok after (Hooks.afterCreate_within _ _ _))
      ((Keeps.of_ok after (Hooks.afterCreate_steady _ _ _)).calm counted.calm) counted.keyed
    have touched : World.Touches (fun k => k = key ∨ ctx.hooks.Granted k) w w' :=
      counted.trans (granted.mono fun _ written => written.elim False.elim Or.inr)
    have kept : w'.store.lookup key = some c :=
      (granted.frame key (by simp [apart.1])).trans stored
    exact fun _ => ⟨touched, key, D, c, keyed,
      by rw [Hooks.prepared_congr _ _ fun r route => touched.frame r (routesApart r route)]; exact made,
      kept, createPatch_created_eq_none stampRegular readsBack ran⟩
  | @converged D X w₁ w₂ hooked found converged =>
    -- Nothing to patch: the object is settled as it is.
    obtain ⟨made, rfl⟩ := hooksRan hooked
    obtain ⟨held, rfl⟩ := Engine.getObject_calm_ok (calm.logged _) found
    exact fun _ => ⟨read, key, D, X, keyed, made, held, converged⟩
  | @patched D X P p w₁ w₂ w₃ hooked found made' patch =>
    -- A drifted object is patched under its key, and the result needs no patch to it.
    obtain ⟨made, rfl⟩ := hooksRan hooked
    obtain ⟨held, rfl⟩ := Engine.getObject_calm_ok (calm.logged _) found
    obtain ⟨stampRegular, readsBack⟩ := writable key D keyed made
    have patchKey : p.key = key := createPatch_key_eq (stampKey made) made'
    have ran := Engine.cluster_ok patch
    obtain ⟨stored, others, -, -⟩ := patchObject_stored ran
    have held' : ((w.logged (ctx.hooks.reads ctx.ns key (ctx.bookkeeping o))).logged
        [⟨.get, key, none⟩]).store.lookup p.key = some X := by
      rw [patchKey]
      exact held
    have liveRegular := regular X held
    have named : P.key = .ok key :=
      (patchObject_meets_stamped liveRegular stampRegular made' held' ran).1.trans (wellKeyed key X held)
    rw [patchKey] at stored others
    have steady := Keeps.of_ok patch (Engine.cluster_steady (patchObject_grows _ _))
    have touched : World.Touches (fun k => k = key ∨ ctx.hooks.Granted k) w w₃ :=
      read.trans ((World.Touches.of_write (steady.calm read.calm) read.keyed named stored
        others).mono fun _ same => .inl same)
    have settled : Settled ctx w₃.store o :=
      ⟨key, D, P, keyed,
        by rw [Hooks.prepared_congr _ _ fun r route => touched.frame r (routesApart r route)]; exact made,
        stored, createPatch_patched_eq_none liveRegular stampRegular readsBack made' held' ran⟩
    -- Counting the patch changes no object.
    exact fun _ => ⟨⟨touched.calm, touched.keyed, touched.frame⟩, settled⟩

/-- Applying an object that is not a list, on a world that fits it, fails plainly or writes only
its own object and the constraints the hooks grant and leaves it settled; the failures so far
stay as they were. -/
theorem reconcileSingle_settles (ctx : Context) (old : ComponentStatus) (t : Tally) {o : Object}
    {w : World} (fits : Fits ctx [.ok o] w) :
    Returns (reconcileSingle ctx old o t) w fun r w' =>
      r.2.errors = t.errors ∧ FailsPlainly r.1 ∧
        (r.1 = .ok () → World.Touches (fun k => k ∈ readKeys [.ok o] ∨ ctx.hooks.Granted k) w w' ∧
          Settled ctx w'.store o) := by
  unfold reconcileSingle
  dsimp only
  -- A leaf with no key fails plainly; a keyed one is applied.
  split
  · rename_i e failed
    rw [Context.bookkeeping_key] at failed
    exact Returns.pure ⟨rfl, fun e' same => by cases same; exact Object.key_plain o e failed, fun ok => by cases ok⟩
  · rename_i key found
    rw [Context.bookkeeping_key] at found
    have leaf : key ∈ readKeys [.ok o] := mem_readKeys (List.mem_singleton_self _) found
    refine Returns.bind (Returns.mono ((applyObject_settles ctx found _ fits.calm fits.keyed (fits.apart key leaf)
      (fits.regular key leaf) (fits.writable o (List.mem_singleton_self _))).and
      (applyObject_present ctx (by rwa [Context.bookkeeping_key]) _ w)) fun applied w₁ facts => ?_)
    obtain ⟨settles, -, plain⟩ := facts
    refine Returns.bind (Returns.mono (Engine.now_returns w₁) fun now w₂ read => ?_)
    obtain ⟨rfl, rfl⟩ := read
    refine Returns.pure ⟨by simp, plain, fun ok => ?_⟩
    obtain ⟨touched, settled⟩ := settles ok
    exact ⟨touched.mono fun k written => written.elim (fun same => .inl (same ▸ leaf)) .inr, settled⟩

namespace Tally

/-- What a part of a first pass over the leaves `xs` does: the failures so far stay, followed by
plain failures of its own; and when it met none on a world that fits the leaves, it wrote only
their objects and the constraints the hooks grant, and left every leaf a settled object. -/
structure Settles (ctx : Context) (xs : List (Except Error Object)) (t : Tally) (w : World) (t' : Tally)
    (w' : World) : Prop where
  failed : ∃ failed, t'.errors.errors = t.errors.errors ++ failed ∧ ∀ e ∈ failed, e.Plain
  settles : t'.errors.errors = t.errors.errors → Fits ctx xs w →
    World.Touches (fun k => k ∈ readKeys xs ∨ ctx.hooks.Granted k) w w' ∧
      ∀ r ∈ xs, ∃ o, r = .ok o ∧ Settled ctx w'.store o

namespace Settles

variable {ctx : Context}

theorem nil (t : Tally) (w : World) : Settles ctx [] t w t w :=
  ⟨⟨[], by simp, by simp⟩, fun _ fits => ⟨World.Touches.refl fits.calm fits.keyed, by simp⟩⟩

theorem append {xs ys : List (Except Error Object)} {t₁ t₂ t₃ : Tally} {w₁ w₂ w₃ : World}
    (first : Settles ctx xs t₁ w₁ t₂ w₂) (second : Settles ctx ys t₂ w₂ t₃ w₃) :
    Settles ctx (xs ++ ys) t₁ w₁ t₃ w₃ := by
  obtain ⟨failed₁, grew₁, plain₁⟩ := first.failed
  obtain ⟨failed₂, grew₂, plain₂⟩ := second.failed
  refine ⟨⟨failed₁ ++ failed₂, by rw [grew₂, grew₁, List.append_assoc], List.forall_mem_append.mpr ⟨plain₁, plain₂⟩⟩,
    fun same fits => ?_⟩
  -- No failure in the whole means none in either part.
  have none : failed₁ = [] ∧ failed₂ = [] := by simpa [grew₂, grew₁] using same
  obtain ⟨touched₁, settled₁⟩ := first.settles (by simp [grew₁, none.1]) fits.left
  obtain ⟨touched₂, settled₂⟩ := second.settles (by simp [grew₂, none.2]) (fits.after touched₁)
  have distinct := fits.distinct
  rw [readKeys_append, List.nodup_append] at distinct
  -- Each part writes only its own leaves and granted constraints.
  refine ⟨(touched₁.mono fun k written => ?_).trans (touched₂.mono fun k written => ?_), fun r member => ?_⟩
  · exact written.elim (fun leaf => .inl (by simp [leaf])) .inr
  · exact written.elim (fun leaf => .inl (by simp [leaf])) .inr
  rcases List.mem_append.mp member with early | late
  · -- A leaf written before keeps its object: the later leaves have other keys.
    obtain ⟨o, rfl, settled⟩ := settled₁ r early
    refine ⟨o, rfl, settled.touched touched₂ fun k read => ?_⟩
    rintro (later | granted)
    · rcases read with keyed | route
      · exact distinct.2.2 k (mem_readKeys early keyed) k later rfl
      · exact (fits.apart k (by simp [later])).2 route
    · exact fits.not_granted_of_read (List.mem_append_left _ early) read granted
  · exact settled₂ r late

/-- A part's failures gathered into the pass as one outcome. -/
theorem regather {xs : List (Except Error Object)} {t t' : Tally} {w w' : World}
    (part : Settles ctx xs { t with errors := {} } w t' w') :
    Settles ctx xs t w ({ t' with errors := t.errors }.collect t'.errors.toResult) w' := by
  obtain ⟨failed, grew, plain⟩ := part.failed
  have own : t'.errors.errors = failed := by simpa using grew
  have gathered := Aggregate.collect_toResult t.errors t'.errors (own ▸ plain)
  refine ⟨⟨failed, by simpa [own] using gathered, plain⟩, fun same fits => ?_⟩
  -- Nothing was gathered, so the part met no failure.
  have none : t'.errors.errors = [] := by simpa [gathered] using same
  exact part.settles (by simpa using none) fits

end Settles

end Tally

/-- One leaf of a first pass does what `Tally.Settles` says. -/
theorem leafStep_settles (ctx : Context) (old : ComponentStatus) (r : Except Error Object)
    (plain : FailsPlainly r) (t : Tally) (w : World) :
    Returns (leafStep ctx old t r) w (Tally.Settles ctx [r] t w) := by
  -- A leaf that does not read is its own failure; an object is applied.
  cases r with
  | error e =>
    -- A leaf that does not read is its own failure.
    have isPlain : e.Plain := plain e rfl
    have grew : (t.collect (.error e)).errors.errors = t.errors.errors ++ [e] :=
      Aggregate.push_plain _ isPlain
    refine Returns.pure ⟨⟨[e], grew, by simpa using isPlain⟩, fun same _ => ?_⟩
    rw [grew] at same
    simp at same
  | ok o =>
    unfold leafStep
    -- Only a world that fits the leaf has something to show.
    by_cases fits : Fits ctx [.ok o] w
    · refine Returns.bind (Returns.mono (reconcileSingle_settles ctx old t fits) fun applied w' facts => ?_)
      obtain ⟨result, t'⟩ := applied
      obtain ⟨kept, plainResult, settles⟩ := facts
      have grew : (t'.collect result).errors.errors = t.errors.errors ++ (failureOf result).toList := by
        rw [Tally.collect_errors, Aggregate.collect_plain _ plainResult, kept]
      refine Returns.pure ⟨⟨_, grew, FailsPlainly.failureOf plainResult⟩, fun same _ => ?_⟩
      -- No failure was noted, so the write succeeded.
      have ok : result = .ok () := Aggregate.collect_eq_self plainResult (by rw [← kept] at same; exact same)
      obtain ⟨touched, settled⟩ := settles ok
      exact ⟨touched, fun r member => ⟨o, List.mem_singleton.mp member, settled⟩⟩
    -- Without fitting, only the failures count.
    · refine Returns.bind (Returns.mono (reconcileSingle_installs ctx old o t w) fun applied w' facts => ?_)
      exact Returns.pure ⟨facts.2.failed, fun _ fitting => absurd fitting fits⟩

/-! ### A first pass -/

/-- A stale entry is not of a key applied again. -/
theorem resource_not_mem_of_stale {P : List ResourceKey} {rs : List ResourceStatus} {e : ResourceStatus}
    (stale : e ∈ staleEntries P rs) : e.resource ∉ P := by
  unfold staleEntries at stale
  simp only [List.mem_filter, Bool.not_eq_true', Bool.or_eq_false_iff, List.contains_eq_mem,
    decide_eq_false_iff_not] at stale
  exact stale.2.1

/-- An entry stale among the older ones is stale among all. -/
theorem mem_staleEntries_cons {P : List ResourceKey} {r e : ResourceStatus} {older : List ResourceStatus}
    (stale : e ∈ staleEntries P older) : e ∈ staleEntries P (r :: older) := by
  unfold staleEntries at stale ⊢
  rw [List.mem_filter] at stale ⊢
  exact ⟨List.mem_cons_of_mem r stale.1, stale.2⟩

/-- The deletion pass deletes only the objects of the stale entries it walks, and otherwise writes
only the constraints the hooks grant, whatever the cluster answers. -/
theorem deleteStale_within (ctx : Context) (processed : List ResourceKey) :
    ∀ (rs : List ResourceStatus) (errors : Aggregate),
      Keeps (World.Within (fun _ => True) (fun k => ∃ r ∈ staleEntries processed rs, r.resource = k)
        ctx.hooks.Granted) (deleteStale ctx processed rs errors)
  | [], _ => Keeps.pure _
  | r :: older, errors => by
    -- The older entries delete objects of entries stale among all of them.
    have rest : ∀ errors', Keeps (World.Within (fun _ => True)
        (fun k => ∃ e ∈ staleEntries processed (r :: older), e.resource = k) ctx.hooks.Granted)
        (deleteStale ctx processed older errors') := fun errors' =>
      (deleteStale_within ctx processed older errors').weaken fun _ _ within =>
        within.mono (fun _ _ => trivial) (fun _ deleted => by
          obtain ⟨e, stale, named⟩ := deleted
          exact ⟨e, mem_staleEntries_cons stale, named⟩) (fun _ granted => granted)
    unfold deleteStale
    -- An entry applied again or known deleted is passed over; a stale one is deleted.
    split
    · exact rest errors
    · rename_i stale
      have own : r ∈ staleEntries processed (r :: older) := by
        rw [staleEntries_cons, if_neg stale]
        exact List.mem_cons_self
      have deleting : Keeps (World.Within (fun _ => True)
          (fun k => ∃ e ∈ staleEntries processed (r :: older), e.resource = k) ctx.hooks.Granted)
          (deleteResource ctx r.resource) :=
        (deleteResource_within ctx r.resource).weaken fun _ _ within =>
          within.mono (fun _ _ => trivial) (fun _ same => ⟨r, own, same.symm⟩) (fun _ granted => granted)
      refine Keeps.bind Engine.now_keeps fun now => ?_
      refine Keeps.bind (Engine.attempt_keeps deleting) fun res => ?_
      -- Either outcome of the deletion is noted; then the older entries are walked.
      have later : ∀ entry : ResourceStatus × Aggregate,
          Keeps (World.Within (fun _ => True) (fun k => ∃ e ∈ staleEntries processed (r :: older), e.resource = k)
            ctx.hooks.Granted) (deleteStale ctx processed older entry.2 >>= fun rest =>
              pure (rest.1 ++ [entry.1], rest.2)) :=
        fun entry => Keeps.bind (rest entry.2) fun _ => Keeps.pure _
      dsimp only
      cases res with
      | ok u => exact Keeps.bind (Keeps.pure _) fun entry => later entry
      | error e => exact Keeps.bind (Keeps.pure _) fun entry => later entry

/-- **What a successful first pass leaves.** On a world that fits the leaves of the manifests, a
component pass that deletes no route the hooks read, when it succeeds, leaves the world calm and
every leaf an object the cluster holds as the pass would write it. -/
theorem reconcileComponent_settles (ctx : Context) (name : String) (ms : List Manifest)
    (old : ComponentStatus) {w : World} (fits : Fits ctx (renderedReads ms) w)
    (staleApart : ∀ r ∈ staleEntries (renderedKeys ms) old.resources, r.resource ∉ ctx.hooks.routeKeys ctx.ns) :
    Returns (reconcileComponent ctx name ms (some old)) w fun r w' =>
      r.2 = .ok () → w'.Calm ∧ ∀ x ∈ renderedReads ms, ∃ o, x = .ok o ∧ Settled ctx w'.store o := by
  unfold reconcileComponent
  simp only [Option.getD_some]
  -- Apply the manifests, carrying Settles and the processed keys together.
  refine Returns.bind (Returns.mono ((applyManifests_fold ctx old Tally.Settles.nil
    (fun _ _ _ _ _ _ _ _ first second => first.append second) (leafStep_settles ctx old)
    (fun _ _ _ _ _ part => part.regather) ms _ w).and (applyManifests_adds ctx old ms _ w))
    fun t w₁ facts => ?_)
  obtain ⟨settles, steady, added, -⟩ := facts
  -- The deletion pass walks the previous entries newest first.
  have walked : staleEntries t.processed old.resources.reverse =
      (staleEntries (renderedKeys ms) old.resources).reverse :=
    added.staleEntries_processed_reverse rfl _
  -- The deletions remove only stale entries' objects and write granted constraints.
  refine Returns.bind (Returns.mono (Returns.with_keeps (deleteStale_within ctx t.processed _ t.errors)
    (deleteStale_calm ctx t.processed old.resources.reverse t.errors w₁ (steady.calm fits.calm)))
    fun removal w₂ facts => ?_)
  obtain ⟨within, result, deleted⟩ := facts
  subst result
  refine Returns.bind (Returns.mono (Engine.now_returns w₂) fun now w₃ read => ?_)
  obtain ⟨-, same⟩ := read
  subst w₃
  have post : t.errors.toResult = .ok () →
      w₂.Calm ∧ ∀ x ∈ renderedReads ms, ∃ o, x = .ok o ∧ Settled ctx w₂.store o := by
    intro ok
    have none : t.errors.errors = [] := (Aggregate.toResult_ok_iff _).mp ok
    obtain ⟨touched, settled⟩ := settles.settles (by simpa using none) fits
    -- The deletions keep the world calm and well keyed.
    have removed := World.Within.touches within (deleted.calm touched.calm) touched.keyed
    refine ⟨removed.calm, fun x member => ?_⟩
    obtain ⟨o, rfl, held⟩ := settled x member
    refine ⟨o, rfl, held.touched removed fun k read => ?_⟩
    rintro (⟨e, stale, named⟩ | granted)
    · -- What the deletions removed is neither rendered nor a route.
      rw [walked, List.mem_reverse] at stale
      subst named
      rcases read with keyed | route
      · have rendered : e.resource ∈ renderedKeys ms := by
          rw [renderedKeys_eq_readKeys]
          exact mem_readKeys member keyed
        exact resource_not_mem_of_stale stale rendered
      · exact staleApart e stale route
    · exact fits.not_granted_of_read member read granted
  -- Whichever generation the pass notes, the world is the one the deletions left.
  split
  · exact Returns.pure post
  · exact Returns.pure post

end MeshControl
