import MeshControl.Proofs.Engine.Settle
import MeshControl.Proofs.Engine.Tracking

/-! A second pass over the same manifests changes nothing, once a first pass succeeded from a calm
cluster; a first pass that swallows a failure may not be repeated. -/

namespace MeshControl

/-- A pass over a component is idempotent: after a first pass that succeeds from a world fitting its
leaves, a second pass over its status succeeds, only reads, and leaves all Installed and Reconciled. -/
theorem reconcileComponent_idempotent (ctx : Context) (name : String) (ms : List Manifest)
    (previous : Option ComponentStatus) {w w₁ : World} {S₁ : ComponentStatus}
    (fits : Fits ctx (renderedReads ms) w)
    (staleApart : ∀ r ∈ staleEntries (renderedKeys ms) (previous.getD (.named name)).resources,
      r.resource ∉ ctx.hooks.routeKeys ctx.ns)
    (first : (reconcileComponent ctx name ms previous).run w = .ok (S₁, .ok ()) w₁) :
    ∃ S₂ w₂, (reconcileComponent ctx name ms (some S₁)).run w₁ = .ok (S₂, .ok ()) w₂ ∧ World.Reads w₁ w₂ ∧
      ∀ e ∈ S₂.resources, e.status.isInstalled = true ∧ e.status.isReconciled = true := by
  rw [reconcileComponent_getD] at first
  -- The first pass leaves every leaf settled on a calm cluster ...
  obtain ⟨calm, settled⟩ := (reconcileComponent_settles ctx name ms _ fits staleApart).holds first rfl
  -- ... and its entries are the leaves it applied and the stale entries it marked deleted.
  obtain ⟨-, ⟨applied, named, entries⟩, -⟩ := (reconcileComponent_calm ctx name ms _ fits.calm).holds first
  -- Every entry is rendered again or marked deleted, so none is stale the second time.
  have nothingStale : staleEntries (renderedKeys ms) S₁.resources = [] := by
    rw [entries]
    refine staleEntries_settled named fun d member => ?_
    obtain ⟨e, -, rfl⟩ := List.mem_map.mp member
    exact ResourceStatus.deletedAt_isDeleted _ _
  -- From the settled leaves on the calm cluster, the second pass only reads.
  obtain ⟨r, w₂, ran, ok, reads, installed⟩ := reconcileComponent_rerun ctx name ms S₁ calm settled nothingStale
  exact ⟨r.1, w₂, by rw [ran, ← ok], reads, installed⟩

/-- The control plane `basic` of `istio-system`, at its first generation. -/
def meshPlane : ControlPlane :=
  { metadata := { name := some "basic", ns := some "istio-system", uid := some "uid-basic", generation := some 1 },
    spec := {} }

/-- A pass over `basic` with the built-in hooks and no grants. -/
def meshContext : Context := Context.make meshPlane "1.0.0" (Hooks.builtin none)

/-- A second pass over `pilot`, after a first on an empty cluster, only reads and leaves `pilot`
installed and reconciled. -/
theorem pilot_rerun_reads :
    Returns (reconcileComponent meshContext "pilot" [pilotManifest "b"] none) {} fun first w₁ =>
      ∃ S₂ w₂, (reconcileComponent meshContext "pilot" [pilotManifest "b"] (some first.1)).run w₁ =
          .ok (S₂, .ok ()) w₂ ∧ World.Reads w₁ w₂ ∧
        ∀ e ∈ S₂.resources, e.status.isInstalled = true ∧ e.status.isReconciled = true := by
  -- The rendered leaves are read once for all that the first pass needs of them.
  have checks : (readKeys (renderedReads [pilotManifest "b"])).Nodup ∧
      (∀ k ∈ readKeys (renderedReads [pilotManifest "b"]), k ∉ meshContext.hooks.routeKeys meshContext.ns) ∧
      (renderedReads [pilotManifest "b"]).all
        (fun r => (r.toOption.map (Writable.check meshContext {})).getD true) = true := by
    decide +kernel
  obtain ⟨distinct, unread, writable⟩ := checks
  -- The empty cluster is calm and well keyed, holds nothing, and grants nothing.
  have fits : Fits meshContext (renderedReads [pilotManifest "b"]) {} := by
    refine ⟨by decide, Store.WellKeyed.of_objects (by simp), distinct, fun k member => ⟨?_, unread k member⟩,
      fun k _ X held => by simp [Store.lookup] at held, fun o member => ?_⟩
    · rintro ⟨g, grants, -⟩
      cases grants
    · exact Writable.of_check (List.all_eq_true.mp writable (.ok o) member)
  -- The first pass succeeds on the empty cluster.
  have first : Returns (reconcileComponent meshContext "pilot" [pilotManifest "b"] none) {} fun r _ =>
      r.2.toOption = some () :=
    Returns.of_check (by decide +kernel)
  obtain ⟨⟨S₁, result⟩, w₁, ran, ok⟩ := first
  -- The first pass's outcome is Ok, as computed.
  cases result with
  | error e => cases ok
  | ok u =>
    exact Returns.of_run ran (reconcileComponent_idempotent meshContext "pilot" [pilotManifest "b"] none fits
      (by decide +kernel) ran)

/-- The Kiali ConfigMap, whose configuration is text that does not read as YAML. -/
def brokenKialiManifest : Manifest :=
  ⟨"kiali.yaml", "apiVersion: v1\nkind: ConfigMap\nmetadata:\n  name: kiali\n  namespace: istio-system\ndata:\n  config.yaml: 'a: ['\n"⟩

/-- The Route serving Grafana. -/
def grafanaRoute : Object :=
  { types := some ⟨"route.openshift.io/v1", "Route"⟩, metadata := { name := some "grafana", ns := some "istio-system" },
    data := [("spec", .obj [("host", .str "g.example.com")])] }

/-- A cluster holding the Grafana route, whose first read of it is answered not found. -/
def clusterMissingGrafanaOnce : World :=
  { store := (({} : Store).put (routeKey "istio-system" "grafana") grafanaRoute).addFailure .get "grafana" .notFound (some 1) }

/-- A first pass that swallows a failure is not repeated: it takes an unread Grafana route for none
and succeeds, and the second pass reads the route and fails on text that is not YAML. -/
theorem reconcileComponent_rerun_fails_after_missed_route :
    Returns (reconcileComponent meshContext "kiali" [brokenKialiManifest] none) clusterMissingGrafanaOnce
      fun first w₁ => first.2.toOption = some () ∧ w₁.Calm ∧
        Returns (reconcileComponent meshContext "kiali" [brokenKialiManifest] (some first.1)) w₁
          fun second _ => second.2.toOption = none := by
  -- The first pass takes the missed route for none and succeeds.
  have first : Returns (reconcileComponent meshContext "kiali" [brokenKialiManifest] none) clusterMissingGrafanaOnce
      fun first w₁ => first.2.toOption = some () ∧ w₁.Calm :=
    Returns.of_check (by decide +kernel)
  -- Run after it, the second pass reads the route and fails on the text.
  have both : Returns (reconcileComponent meshContext "kiali" [brokenKialiManifest] none >>= fun first =>
      reconcileComponent meshContext "kiali" [brokenKialiManifest] (some first.1)) clusterMissingGrafanaOnce
        fun second _ => second.2.toOption = none :=
    Returns.of_check (by decide +kernel)
  exact (first.and (Returns.of_bind both)).mono fun _ _ holds => ⟨holds.1.1, holds.1.2, holds.2⟩

end MeshControl
