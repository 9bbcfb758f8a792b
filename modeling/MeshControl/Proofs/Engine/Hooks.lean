import MeshControl.Engine.Hooks
import MeshControl.Proofs.Engine.Frame

/-! The hooks around object writes are steady steps: they read routes and constraints and
update constraints, but never delete, never move the clock reading, and never stop a calm
world. So does every retry loop made of steady steps. -/

namespace MeshControl

variable {α : Type} {R : World → World → Prop} [IsPreorder World R]

omit [IsPreorder World R] in
theorem Keeps.discard {x : Engine α} (kept : Keeps R x) : Keeps R (discard x) :=
  Keeps.map _ kept

/-- A retry loop keeps what each call and each wait between calls keep. -/
theorem retryWhile_keeps {retry : Error → Bool} {c : RetryConfig} {sleep : Nat → Engine Unit}
    {op : Engine α} (slept : ∀ ms, Keeps R (sleep ms)) (kept : Keeps R op) :
    Keeps R (retryWhile retry c sleep op) := by
  -- The loop is on the number of calls left; a refused failure ends it by rethrowing.
  suffices each : ∀ left delay, Keeps R (retryWhile.go retry c sleep op delay left) from
    each _ _
  intro left
  induction left with
  | zero => exact fun _ => kept
  | succ left ih =>
    intro delay
    refine Keeps.tryCatch kept fun e => ?_
    -- A failure the loop retries waits first; any other is rethrown.
    split
    · exact Keeps.bind (slept _) fun _ => ih _
    · exact Keeps.throw _

omit [IsPreorder World R] in
/-- A retry loop returns what its first call returns, when that call returns. -/
theorem retryWhile_returns {retry : Error → Bool} {c : RetryConfig} {sleep : Nat → Engine Unit}
    {op : Engine α} {w : World} {post : α → World → Prop} (first : Returns op w post) :
    Returns (retryWhile retry c sleep op) w post := by
  show Returns (retryWhile.go retry c sleep op c.initialDelay (c.maxAttempts - 1)) w post
  -- With calls left, a call that returns is not retried.
  cases c.maxAttempts - 1 with
  | zero => exact first
  | succ left => exact Returns.tryCatch first

/-- What a retry loop that returns did, seen from where it started: its last call returned, after
calls that failed and waits between them. A relation `S` that failed calls and waits keep carries
what the last call did back to the start. -/
theorem retryWhile_ok {retry : Error → Bool} {c : RetryConfig} {sleep : Nat → Engine Unit}
    {op : Engine α} {Q : World → α → World → Prop} (slept : ∀ ms, Keeps R (sleep ms))
    (failed : ∀ w e w', op.run w = .error e w' → R w w')
    (returned : ∀ w a w', op.run w = .ok a w' → Q w a w')
    (back : ∀ w₀ w a w', R w₀ w → Q w a w' → Q w₀ a w') {w w' : World} {a : α}
    (ran : (retryWhile retry c sleep op).run w = .ok a w') : Q w a w' := by
  suffices each : ∀ left delay w, (retryWhile.go retry c sleep op delay left).run w = .ok a w' →
      Q w a w' from each _ _ w ran
  -- The loop is on the number of calls left: a call that failed and was retried is carried back.
  intro left
  induction left with
  | zero => exact fun _ w ran => returned w a w' ran
  | succ left ih =>
    intro delay w ran
    rw [retryWhile.go, run_tryCatch] at ran
    -- The call returned, which is the last call; or it failed and the loop went on.
    cases result : op.run w with
    | ok b w₁ =>
      rw [result] at ran
      cases ran
      exact returned w _ _ result
    | error e w₁ =>
      rw [result] at ran
      dsimp only at ran
      split at ran
      · obtain ⟨_, w₂, waited, rest⟩ := run_bind_ok ran
        -- The wait keeps the relation, after the failed call that kept it too.
        have moved : R w₁ w₂ := by
          have kept := slept delay w₁
          rwa [waited] at kept
        exact back w w₂ a w' (IsTrans.trans _ _ _ (failed w e w₁ result) moved) (ih _ w₂ rest)
      -- A failure not retried would not have returned.
      · cases ran

/-- A poll keeps what each check and each wait between checks keep. -/
theorem pollUntil_keeps {c : RetryConfig} {sleep : Nat → Engine Unit} {check : Engine Bool}
    (slept : ∀ ms, Keeps R (sleep ms)) (kept : Keeps R check) : Keeps R (pollUntil c sleep check) := by
  -- The loop is on the number of checks left.
  suffices each : ∀ left attempt delay, Keeps R (pollUntil.go c sleep check attempt delay left) from
    each _ _ _
  intro left
  induction left with
  | zero => exact fun _ _ => Keeps.pure _
  | succ left ih =>
    intro attempt delay
    -- A failed check counts as not ready.
    refine Keeps.bind (Keeps.tryCatch kept fun _ => Keeps.pure _) fun ready => ?_
    dsimp only
    exact Keeps.ite (Keeps.pure _) (Keeps.ite (Keeps.bind (slept _) fun _ => ih _ _) (ih _ _))

omit [IsPreorder World R] in
/-- A poll whose waits return always returns: a failed check counts as not ready. -/
theorem pollUntil_returns {c : RetryConfig} {sleep : Nat → Engine Unit} {check : Engine Bool}
    (slept : ∀ ms w, Returns (sleep ms) w fun _ _ => True) (w : World) :
    Returns (pollUntil c sleep check) w fun _ _ => True := by
  suffices each : ∀ left attempt delay w,
      Returns (pollUntil.go c sleep check attempt delay left) w fun _ _ => True from each _ _ _ w
  intro left
  induction left with
  | zero => exact fun _ _ w => Returns.pure trivial
  | succ left ih =>
    intro attempt delay w
    -- Whatever the check gives, the poll stops or waits and checks again.
    have next : ∀ (ready : Bool) w₁, Returns (if ready = true then pure true else
        if attempt < c.maxAttempts then sleep delay >>= fun _ =>
          pollUntil.go c sleep check (attempt + 1) (c.nextDelay delay) left
        else pollUntil.go c sleep check (attempt + 1) (c.nextDelay delay) left) w₁ fun _ _ => True := by
      intro ready w₁
      -- Ready stops the poll; otherwise it waits while attempts remain, then checks again.
      split
      · exact Returns.pure trivial
      · split
        · exact Returns.bind (Returns.mono (slept _ w₁) fun _ w₂ _ => ih _ _ w₂)
        · exact ih _ _ w₁
    exact Returns.bind (Returns.tryCatch_of (fun ready w₁ _ => next ready w₁) fun _ w₁ =>
      Returns.pure (next false w₁))

/-! The hooks keep whatever the primitive steps keep. -/

/-- Looking a route up only reads the cluster. -/
theorem routeUrl_keeps (steps : World.StepsKeep R) (ns name : String) : Keeps R (routeUrl ns name) := by
  unfold routeUrl
  refine Keeps.bind (Keeps.tryCatch (Keeps.map _ (steps.cluster (getObject_grows _))) fun e => ?_)
    fun _ => Keeps.pure _
  -- A missing route is no URL; any other failure is rethrown.
  split
  · exact Keeps.pure _
  · exact Keeps.throw _

/-- The Kiali hook reads two routes and rewrites the object it is given, nothing else. -/
theorem configureKiali_keeps (steps : World.StepsKeep R) (ns : String) (obj : Object) : Keeps R (configureKiali ns obj) := by
  unfold configureKiali
  split
  · exact Keeps.pure _
  · -- Past the route lookups the configuration is edited without the cluster.
    exact Keeps.bind (routeUrl_keeps steps _ _) fun _ =>
      Keeps.bind (routeUrl_keeps steps _ _) fun _ => Engine.ofExcept_keeps _

/-- Granting or revoking constraints re-reads and updates constraints, deleting nothing. -/
theorem updateUsers_keeps (steps : World.StepsKeep R) (g : Grants) (user : String) (add : Bool) :
    Keeps R (updateUsers g user add) := by
  unfold updateUsers
  refine Keeps.forM _ fun constraint _ => retryWhile_keeps steps.sleep ?_
  refine Keeps.bind (steps.cluster (getObject_grows _)) fun scc => ?_
  exact Keeps.ite (Keeps.pure _) (Keeps.discard (steps.cluster (updateObject_grows _)))

namespace Hooks

theorem beforeApply_keeps (steps : World.StepsKeep R) (h : Hooks) (ns : String) (key : ResourceKey) (obj : Object) :
    Keeps R (h.beforeApply ns key obj) := by
  unfold beforeApply
  -- Only a ConfigMap, with the Kiali hook on, is edited.
  split
  · exact configureKiali_keeps steps ns obj
  · exact Keeps.pure _

theorem afterCreate_keeps (steps : World.StepsKeep R) (h : Hooks) (key : ResourceKey) (obj : Object) :
    Keeps R (h.afterCreate key obj) := by
  unfold afterCreate
  -- Only ServiceAccounts get grants, and only where the hooks hold some.
  split
  · split
    · exact Keeps.discard (Engine.attempt_keeps (updateUsers_keeps steps _ _ _))
    · exact Keeps.pure _
  · exact Keeps.pure _

theorem afterDelete_keeps (steps : World.StepsKeep R) (h : Hooks) (key : ResourceKey) :
    Keeps R (h.afterDelete key) := by
  unfold afterDelete
  -- Revoking follows the same two checks.
  split
  · split
    · exact Keeps.discard (Engine.attempt_keeps (updateUsers_keeps steps _ _ _))
    · exact Keeps.pure _
  · exact Keeps.pure _

theorem afterCreate_steady (h : Hooks) (key : ResourceKey) (obj : Object) :
    Keeps World.Steady (h.afterCreate key obj) :=
  afterCreate_keeps World.steady_stepsKeep h key obj

theorem afterDelete_steady (h : Hooks) (key : ResourceKey) : Keeps World.Steady (h.afterDelete key) :=
  afterDelete_keeps World.steady_stepsKeep h key

theorem afterCreate_total (h : Hooks) (key : ResourceKey) (obj : Object) (w : World) :
    Returns (h.afterCreate key obj) w fun _ _ => True := by
  unfold afterCreate
  split
  · split
    -- A grant is attempted, so its failure is swallowed.
    · exact Returns.map (Engine.attempt_total _ w)
    · exact Returns.pure trivial
  · exact Returns.pure trivial

theorem afterDelete_total (h : Hooks) (key : ResourceKey) (w : World) :
    Returns (h.afterDelete key) w fun _ _ => True := by
  unfold afterDelete
  split
  · split
    · exact Returns.map (Engine.attempt_total _ w)
    · exact Returns.pure trivial
  · exact Returns.pure trivial

end Hooks

end MeshControl
