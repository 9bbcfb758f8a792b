import MeshControl.Proofs.Engine.Prepared
import MeshControl.Proofs.Engine.Shared

/-! Bounded loops as rounds: a retry loop and a poll end as the call of their last round ended,
which scripted calls make countable; and the readiness wait, which polls and writes nothing. -/

namespace MeshControl

variable {σ α : Type}

/-- Where round `i` of a loop that never stops begins, when round 0 begins in `s` and sleeps
`delay` after its call: each round makes the call, then sleeps, each delay following the one
before. -/
def roundStart (c : RetryConfig) (sleep : Nat → EStateM Error σ Unit) (x : EStateM Error σ α) :
    Nat → Nat → σ → σ
  | _, 0, s => s
  | delay, i + 1, s =>
    roundStart c sleep x (c.nextDelay delay) i (endState ((sleep delay).run (endState (x.run s))))

/-- Whether a retry loop calls again after this outcome: a failure with an error it retries. -/
def retriedBy (retry : Error → Bool) : EStateM.Result Error σ α → Bool
  | .error e _ => retry e
  | .ok _ _ => false

/-- Whether a poll stops after this outcome of its check: the check reported ready. -/
def reportsReady : EStateM.Result Error σ Bool → Bool
  | .ok b _ => b
  | .error _ _ => false

section Rounds

variable {c : RetryConfig} {sleep : Nat → EStateM Error σ Unit} {x : EStateM Error σ α}

@[simp] theorem roundStart_zero (delay : Nat) (s : σ) : roundStart c sleep x delay 0 s = s := rfl

theorem roundStart_succ (delay i : Nat) (s : σ) :
    roundStart c sleep x delay (i + 1) s =
      roundStart c sleep x (c.nextDelay delay) i (endState ((sleep delay).run (endState (x.run s)))) :=
  rfl

/-- A retry loop with `left` calls in hand after its first makes `k + 1` calls when the first `k`
fail with errors it retries and the next one has no call after it or an outcome the loop takes:
it ends as that call ends. -/
theorem retryWhile_go_run {retry : Error → Bool} (sleeps : ∀ ms s, ∃ s', (sleep ms).run s = .ok () s') :
    ∀ k left delay s, k ≤ left →
      (∀ i < k, retriedBy retry (x.run (roundStart c sleep x delay i s)) = true) →
      (k = left ∨ retriedBy retry (x.run (roundStart c sleep x delay k s)) = false) →
      (retryWhile.go retry c sleep x delay left).run s = x.run (roundStart c sleep x delay k s) := by
  intro k
  -- The induction is on the failed calls before the last: each is one retried round.
  induction k with
  | zero =>
    intro left delay s _ _ last
    -- With no call left the loop is the call; otherwise the call's outcome is taken.
    cases left with
    | zero => rfl
    | succ left =>
      have taken : retriedBy retry (x.run s) = false := by simpa using last
      rw [retryWhile.go, run_tryCatch]
      rw [roundStart_zero]
      cases result : x.run s with
      | ok a s₁ => rfl
      | error e s₁ =>
        rw [result] at taken
        simp only [retriedBy] at taken
        simp [taken]
        rfl
  | succ k ih =>
    intro left delay s bound failing last
    -- Some failure was retried, so a call was left for it.
    obtain ⟨left, rfl⟩ : ∃ l, left = l + 1 := ⟨left - 1, by omega⟩
    have first := failing 0 (Nat.succ_pos k)
    rw [retryWhile.go, run_tryCatch]
    cases result : x.run s with
    | ok a s₁ => simp [roundStart, result, retriedBy] at first
    | error e s₁ =>
      simp only [roundStart, result, retriedBy] at first
      obtain ⟨s₂, waited⟩ := sleeps delay s₁
      -- The retried failure sleeps once, and the loop goes on from there with one call fewer.
      have next : ∀ i, roundStart c sleep x delay (i + 1) s = roundStart c sleep x (c.nextDelay delay) i s₂ := by
        intro i
        rw [roundStart_succ, result, endState_error, waited, endState_ok]
      simp only [first, if_true]
      rw [EStateM.run_bind, waited]
      rw [next k]
      refine ih left (c.nextDelay delay) s₂ (by omega) (fun i below => ?_) ?_
      · rw [← next i]
        exact failing (i + 1) (by omega)
      · rcases last with same | taken
        · exact .inl (by omega)
        · exact .inr (by rwa [← next k])

/-- A retry loop makes `min j (max 1 m)` calls, `m` being its budget, when `j` is the first call
whose outcome it takes (or any number past the budget when it takes none), and ends as the last
of them ended: with its outcome, in the state it left. -/
theorem retryWhile_run {retry : Error → Bool} (sleeps : ∀ ms s, ∃ s', (sleep ms).run s = .ok () s')
    (s : σ) {j : Nat} (pos : 0 < j)
    (before : ∀ i, i + 1 < j → retriedBy retry (x.run (roundStart c sleep x c.initialDelay i s)) = true)
    (stops : j ≤ max 1 c.maxAttempts →
      retriedBy retry (x.run (roundStart c sleep x c.initialDelay (j - 1) s)) = false) :
    (retryWhile retry c sleep x).run s =
      x.run (roundStart c sleep x c.initialDelay (min j (max 1 c.maxAttempts) - 1) s) := by
  show (retryWhile.go retry c sleep x c.initialDelay (c.maxAttempts - 1)).run s = _
  refine retryWhile_go_run sleeps _ _ _ s (by omega) (fun i below => before i (by omega)) ?_
  -- Either the call it takes comes within the budget, or the budget runs out first.
  by_cases within : j ≤ max 1 c.maxAttempts
  · exact .inr (by rw [show min j (max 1 c.maxAttempts) - 1 = j - 1 by omega]; exact stops within)
  · exact .inl (by omega)

/-- A failed check counts as not ready, and the poll goes on where the check stopped. -/
theorem run_tryCatch_ready (check : EStateM Error σ Bool) (s : σ) :
    (tryCatch check fun _ => pure false : EStateM Error σ Bool).run s =
      .ok (reportsReady (check.run s)) (endState (check.run s)) := by
  rw [run_tryCatch]
  cases check.run s <;> rfl

/-- A poll with `left` checks in hand, `attempt` being the number of the next, reports whether
one of them, the `j`-th, is ready, and ends as the last check it made ended: after the `j`-th,
or after all `left`, with a sleep between two checks and none after the last. -/
theorem pollUntil_go_run {check : EStateM Error σ Bool} (sleeps : ∀ ms s, ∃ s', (sleep ms).run s = .ok () s') :
    ∀ left attempt delay s j, attempt + left = c.maxAttempts + 1 → 0 < j →
      (∀ i, i + 1 < j → reportsReady (check.run (roundStart c sleep check delay i s)) = false) →
      (j ≤ left → reportsReady (check.run (roundStart c sleep check delay (j - 1) s)) = true) →
      (pollUntil.go c sleep check attempt delay left).run s =
        .ok (decide (j ≤ left)) (if min j left = 0 then s
          else endState (check.run (roundStart c sleep check delay (min j left - 1) s))) := by
  intro left
  -- The induction is on the checks in hand; the first check that reports ready ends it.
  induction left with
  | zero =>
    intro attempt delay s j _ pos _ _
    simp [pollUntil.go, show ¬ j ≤ 0 by omega]
  | succ left ih =>
    intro attempt delay s j budget pos before first
    -- The check is made, a failure counted as not ready.
    rw [pollUntil.go, EStateM.run_bind, run_tryCatch_ready]
    cases isReady : reportsReady (check.run s) with
    | true =>
      -- A first check that is ready is the `j`-th: no check before it failed to be.
      have one : j = 1 := by
        by_contra other
        have := before 0 (by omega)
        simp [isReady] at this
      subst one
      simp
    | false =>
      have later : 2 ≤ j := by
        by_contra early
        have := first (by omega)
        simp [show j - 1 = 0 by omega, isReady] at this
      simp only [Bool.false_eq_true, if_false]
      cases left with
      | zero =>
        -- The last check is spent: no sleep, and the poll reports not ready.
        simp [show ¬ attempt < c.maxAttempts by omega, pollUntil.go, show ¬ j ≤ 1 by omega,
          show min j 1 = 1 by omega]
      | succ left =>
        -- Not ready, with a check left: sleep, and poll on from there.
        obtain ⟨s₂, waited⟩ := sleeps delay (endState (check.run s))
        have next : ∀ i, roundStart c sleep check delay (i + 1) s =
            roundStart c sleep check (c.nextDelay delay) i s₂ := by
          intro i
          rw [roundStart_succ, waited, endState_ok]
        rw [if_pos (by omega), EStateM.run_bind, waited]
        dsimp only
        rw [ih (attempt + 1) (c.nextDelay delay) s₂ (j - 1) (by omega) (by omega)
          (fun i below => by rw [← next i]; exact before (i + 1) (by omega))
          (fun within => by rw [← next (j - 1 - 1), show j - 1 - 1 + 1 = j - 1 by omega]; exact first (by omega))]
        rw [if_neg (by omega), if_neg (by omega), show min j (left + 1 + 1) - 1 = min (j - 1) (left + 1) - 1 + 1 by omega,
          next]
        congr 1
        simp only [decide_eq_decide]
        omega

/-- A poll makes `min j m` checks, `m` being its budget, when `j` is the first check that reports
ready (or any number past the budget when none does), and reports whether `j ≤ m`; it ends as
its last check ended, or where it started when it made none. -/
theorem pollUntil_run {check : EStateM Error σ Bool} (sleeps : ∀ ms s, ∃ s', (sleep ms).run s = .ok () s')
    (s : σ) {j : Nat} (pos : 0 < j)
    (before : ∀ i, i + 1 < j → reportsReady (check.run (roundStart c sleep check c.initialDelay i s)) = false)
    (first : j ≤ c.maxAttempts → reportsReady (check.run (roundStart c sleep check c.initialDelay (j - 1) s)) = true) :
    (pollUntil c sleep check).run s =
      .ok (decide (j ≤ c.maxAttempts)) (if min j c.maxAttempts = 0 then s
        else endState (check.run (roundStart c sleep check c.initialDelay (min j c.maxAttempts - 1) s))) :=
  pollUntil_go_run sleeps c.maxAttempts 1 c.initialDelay s j (by omega) pos before first

end Rounds

/-! Scripted loops: the outcome of each call is given in advance, and every call and every sleep
is logged. -/

/-- What a bounded loop is seen to do: call its operation, or sleep some milliseconds. -/
inductive LoopEvent where
  | call
  | sleep (ms : Nat)
  deriving DecidableEq, Repr

/-- An operation given by the outcomes of its calls: the call made after `n` others is logged and
has the outcome `outcomes n`. -/
def scripted (outcomes : Nat → Except Error α) : EStateM Error (List LoopEvent) α := fun log =>
  asResult (outcomes (log.count .call)) (log ++ [.call])

/-- A sleep that is logged. -/
def loggedSleep (ms : Nat) : EStateM Error (List LoopEvent) Unit := fun log =>
  .ok () (log ++ [.sleep ms])

namespace RetryConfig

/-- The log of `n` calls with one sleep between each two and none after the last, the sleeps
taking the delays from `delay` on. -/
def calls (c : RetryConfig) : Nat → Nat → List LoopEvent
  | _, 0 => []
  | _, 1 => [.call]
  | delay, n + 2 => .call :: .sleep delay :: c.calls (c.nextDelay delay) (n + 1)

/-- The log of `n` calls holds `n` calls. -/
@[simp] theorem count_call_calls (c : RetryConfig) : ∀ delay n, (c.calls delay n).count .call = n
  | _, 0 => rfl
  | _, 1 => rfl
  | delay, n + 2 => by
    simp [calls, count_call_calls c (c.nextDelay delay) (n + 1)]

end RetryConfig

/-- A plain outcome as a run ends where the run was put to end. -/
@[simp] theorem endState_asResult (x : Except Error α) (s : σ) : endState (asResult x s) = s := by
  cases x <;> rfl

theorem retriedBy_asResult (retry : Error → Bool) (x : Except Error α) (s : σ) :
    retriedBy retry (asResult x s) = true ↔ ∃ e, x = .error e ∧ retry e = true := by
  cases x <;> simp [retriedBy]

theorem reportsReady_asResult (x : Except Error Bool) (s : σ) :
    reportsReady (asResult x s) = true ↔ x = .ok true := by
  cases x <;> simp [reportsReady]

section Scripted

variable {c : RetryConfig} {o : Nat → Except Error α}

/-- A scripted call adds itself to the log, whatever its outcome. -/
@[simp] theorem endState_scripted (log : List LoopEvent) :
    endState ((scripted o).run log) = log ++ [.call] := by
  show endState (asResult _ _) = _
  cases o (log.count .call) <;> rfl

@[simp] theorem endState_loggedSleep (ms : Nat) (log : List LoopEvent) :
    endState ((loggedSleep ms).run log) = log ++ [.sleep ms] := rfl

/-- Round `i` of a scripted loop begins after `i` calls, each followed by a sleep. -/
theorem roundStart_scripted : ∀ i delay log,
    roundStart c loggedSleep (scripted o) delay i log ++ [.call] = log ++ c.calls delay (i + 1)
  | 0, _, _ => rfl
  | i + 1, delay, log => by
    -- The round's call and sleep extend the log by one call and one sleep.
    rw [roundStart_succ, roundStart_scripted i, endState_scripted, endState_loggedSleep]
    simp [RetryConfig.calls]

/-- The call of round `i` of a scripted loop is the `i`-th, with the outcome `o i`, and leaves
the log of `i + 1` calls. -/
theorem scripted_round (delay i : Nat) :
    (scripted o).run (roundStart c loggedSleep (scripted o) delay i []) =
      asResult (o i) (c.calls delay (i + 1)) := by
  have logged := roundStart_scripted (o := o) (c := c) i delay []
  -- The calls before the round are i, so its call is the i-th.
  have counted : (roundStart c loggedSleep (scripted o) delay i []).count .call = i := by
    have := congrArg (List.count LoopEvent.call) logged
    simpa using this
  show asResult _ _ = _
  rw [counted, logged, List.nil_append]

theorem loggedSleep_returns (ms : Nat) (log : List LoopEvent) :
    ∃ log', (loggedSleep ms).run log = .ok () log' :=
  ⟨_, rfl⟩

/-- A retry loop over scripted calls makes `min j (max 1 m)` calls, `j` being the first whose
outcome it takes, with a sleep between two, and returns the outcome of the last. -/
theorem retryWhile_scripted (retry : Error → Bool) {j : Nat} (pos : 0 < j)
    (before : ∀ i, i + 1 < j → ∃ e, o i = .error e ∧ retry e = true)
    (stops : j ≤ max 1 c.maxAttempts → ∀ e, o (j - 1) = .error e → retry e = false) :
    (retryWhile retry c loggedSleep (scripted o)).run [] =
      asResult (o (min j (max 1 c.maxAttempts) - 1)) (c.calls c.initialDelay (min j (max 1 c.maxAttempts))) := by
  -- Each scripted round is the call with the scripted outcome.
  rw [retryWhile_run loggedSleep_returns [] pos (fun i below => by
      rw [scripted_round, retriedBy_asResult]; exact before i below)
    (fun within => by
      rw [scripted_round, Bool.eq_false_iff, ne_eq, retriedBy_asResult]
      rintro ⟨e, failed, retried⟩
      rw [stops within e failed] at retried
      cases retried),
    scripted_round, show min j (max 1 c.maxAttempts) - 1 + 1 = min j (max 1 c.maxAttempts) by omega]

/-- The retry budget: over calls with the outcomes `o 0, o 1, …`, conflict and backoff retries each
make `min j (max 1 m)` calls with a sleep between two, and return the last call's outcome. -/
theorem retry_budget (c : RetryConfig) (o : Nat → Except Error α) {j : Nat} (pos : 0 < j) :
    ((∀ i, i + 1 < j → ∃ e, o i = .error e ∧ e.isConflict = true) →
      (j ≤ max 1 c.maxAttempts → ∀ e, o (j - 1) = .error e → e.isConflict = false) →
      (retryOnConflict c loggedSleep (scripted o)).run [] =
        asResult (o (min j (max 1 c.maxAttempts) - 1)) (c.calls c.initialDelay (min j (max 1 c.maxAttempts)))) ∧
    ((∀ i, i + 1 < j → ∃ e, o i = .error e ∧ e.isRetriable = true) →
      (j ≤ max 1 c.maxAttempts → ∀ e, o (j - 1) = .error e → e.isRetriable = false) →
      (retryWithBackoff c loggedSleep (scripted o)).run [] =
        asResult (o (min j (max 1 c.maxAttempts) - 1)) (c.calls c.initialDelay (min j (max 1 c.maxAttempts)))) :=
  ⟨retryWhile_scripted Error.isConflict pos, retryWhile_scripted Error.isRetriable pos⟩

/-- Two stale writes, then success. -/
def staleTwice (i : Nat) : Except Error Nat := if i < 2 then .error (.conflict "stale") else .ok 7

/-- Two conflicts are retried within a budget of five: three calls with a sleep between each two,
and the third call's value. -/
theorem retry_budget_staleTwice :
    (retryOnConflict (.fixed 5 0) loggedSleep (scripted staleTwice)).run [] =
        .ok 7 [.call, .sleep 0, .call, .sleep 0, .call] ∧
      (retryWithBackoff (.fixed 5 0) loggedSleep (scripted staleTwice)).run [] =
        .ok 7 [.call, .sleep 0, .call, .sleep 0, .call] := by
  -- The first two calls conflict, and the third succeeds.
  have stale : ∀ i, i + 1 < 3 → staleTwice i = .error (.conflict "stale") := by
    intro i below
    simp [staleTwice, show i < 2 by omega]
  have budget := retry_budget (.fixed 5 0) staleTwice (j := 3) (by decide)
  refine ⟨budget.1 (fun i below => ⟨_, stale i below, rfl⟩) (fun _ e failed => ?_),
    budget.2 (fun i below => ⟨_, stale i below, rfl⟩) (fun _ e failed => ?_)⟩
  · cases failed
  · cases failed

/-- A poll over scripted checks makes `min j m` checks, `j` being the first that reports ready, with
a sleep between two, and reports whether `j ≤ m`; with no budget it makes none. -/
theorem pollUntil_scripted {o : Nat → Except Error Bool} {j : Nat} (pos : 0 < j)
    (before : ∀ i, i + 1 < j → o i ≠ .ok true) (first : j ≤ c.maxAttempts → o (j - 1) = .ok true) :
    (pollUntil c loggedSleep (scripted o)).run [] =
      .ok (decide (j ≤ c.maxAttempts)) (c.calls c.initialDelay (min j c.maxAttempts)) := by
  rw [pollUntil_run loggedSleep_returns [] pos
    (fun i below => by rw [scripted_round, Bool.eq_false_iff, ne_eq, reportsReady_asResult]; exact before i below)
    (fun within => by rw [scripted_round, reportsReady_asResult]; exact first within)]
  -- With no check made the log is empty; otherwise it is the log of the last check.
  by_cases none : min j c.maxAttempts = 0
  · rw [if_pos none, none]
    rfl
  · rw [if_neg none, scripted_round, endState_asResult, show min j c.maxAttempts - 1 + 1 = min j c.maxAttempts by omega]

end Scripted

/-! The readiness wait. After a component is reconciled a pass may wait for its Deployments: it
reads them in order, round after round with a sleep between two rounds, until a round finds them
all ready or the rounds are spent. The wait never fails and writes nothing. -/

/-- The Deployments a readiness wait reads: the entries of a component of kind Deployment that
are not known to be deleted, in order. -/
def ComponentStatus.waitedDeployments (comp : ComponentStatus) : List ResourceKey :=
  (comp.resources.filter fun r => r.resource.kind == "Deployment" && !r.status.isDeleted).map (·.resource)

/-- The polling of a readiness wait: a number of rounds at a fixed interval. -/
def EngineConfig.readiness (cfg : EngineConfig) : RetryConfig :=
  .fixed cfg.readinessAttempts cfg.readinessInterval

/-- A wait for no Deployment does nothing; otherwise it polls whether every one is ready. -/
theorem waitForComponent_eq (cfg : EngineConfig) (comp : ComponentStatus) :
    waitForComponent cfg comp =
      if comp.waitedDeployments.isEmpty then pure ()
      else discard (pollUntil cfg.readiness Engine.sleep (deploymentsReady comp.waitedDeployments)) :=
  rfl

/-- Whether a read of a key finds a ready Deployment: no failure is pending for reads of its
name, and the cluster holds a ready object under it. -/
def Store.readsReady (s : Store) (k : ResourceKey) : Bool :=
  (findFailure s.failures .get k.name).isNone && (s.lookup k).any deploymentReady

@[simp] theorem Store.readsReady_log (s : Store) (op : Op) : (s.log op).readsReady = s.readsReady := rfl

/-- A read that returns saw no pending failure, so it reads ready exactly when the object it
found is. -/
theorem readsReady_of_getObject {k : ResourceKey} {s s' : Store} {o : Object}
    (ran : (getObject k).run s = .ok o s') : s.readsReady k = deploymentReady o := by
  obtain ⟨found, -⟩ := getObject_ok ran
  -- A read that returned met no failure.
  have free : findFailure s.failures .get k.name = none := by
    unfold getObject at ran
    rw [EStateM.run_bind, record_run] at ran
    cases hit : findFailure s.failures .get k.name with
    | none => rfl
    | some h =>
      rw [hit] at ran
      cases ran
  simp [Store.readsReady, free, found]

/-- A read that reads ready returns the ready object and only logs itself. -/
theorem getObject_of_readsReady {k : ResourceKey} {s : Store} (ready : s.readsReady k = true) :
    ∃ o, (getObject k).run s = .ok o (s.log ⟨.get, k, none⟩) ∧ deploymentReady o = true := by
  simp only [Store.readsReady, Bool.and_eq_true, Option.isNone_iff_eq_none, Option.any_eq_true] at ready
  obtain ⟨free, o, found, ready⟩ := ready
  refine ⟨o, ?_, ready⟩
  unfold getObject
  rw [EStateM.run_bind, record_run, free]
  dsimp only
  rw [stored_run, Store.lookup_log, found]
  rfl

/-- One round of a readiness wait on a running world reads the Deployments in order up to the
first whose read does not find a ready Deployment, and reports ready when there is none such. -/
theorem deploymentsReady_round : ∀ (keys : List ResourceKey) {u : World}, u.Running →
    reportsReady ((deploymentsReady keys).run u) = keys.all u.store.readsReady ∧
      (endState ((deploymentsReady keys).run u)).store.ops =
        u.store.ops ++ (keys.take ((keys.takeWhile u.store.readsReady).length + 1)).map (⟨.get, ·, none⟩)
  | [], _, _ => ⟨rfl, by simp; rfl⟩
  | k :: rest, u, running => by
    unfold deploymentsReady
    -- On a running world the first Deployment is read.
    rw [EStateM.run_bind, Engine.cluster_run, if_neg (by simp [running.1])]
    cases read : (getObject k).run u.store with
    | error e s' =>
      -- A read that fails ends the round.
      have unready : u.store.readsReady k = false := by
        cases ready : u.store.readsReady k
        · rfl
        · obtain ⟨o, ran, -⟩ := getObject_of_readsReady ready
          rw [ran] at read
          cases read
      have logged := getObject_ops k u.store
      rw [read, endState_error] at logged
      simp [unready, reportsReady, logged]
    | ok o s' =>
      have same := readsReady_of_getObject read
      obtain ⟨-, rfl⟩ := getObject_ok read
      dsimp only
      cases ready : deploymentReady o with
      | true =>
        -- A ready Deployment lets the round go on with the rest, on the cluster with the read logged.
        rw [if_pos rfl]
        have next := deploymentsReady_round rest (u := { u with store := u.store.log ⟨.get, k, none⟩ }) running
        simp only [Store.readsReady_log, Store.log_ops] at next
        rw [ready] at same
        simp [same, next.1, next.2]
      -- A Deployment that is not ready ends the round, not ready.
      | false =>
        rw [if_neg (by simp)]
        rw [ready] at same
        simp [same, reportsReady]

/-- What a readiness wait changes of a world: it logs reads, uses up failures the cluster was told
to inject into them, and lets time pass. The objects and the version counter, the metrics, the
clock reading and whether the world runs stay as they were. -/
structure World.Waits (w w' : World) : Prop where
  objects : w'.store.objects = w.store.objects
  version : w'.store.version = w.store.version
  reads : ∃ calls, w'.store.ops = w.store.ops ++ calls ∧ ∀ op ∈ calls, op.verb = .get
  metrics : w'.metrics = w.metrics
  now : w'.now = w.now
  running : w.Running → w'.Running

namespace World.Waits

theorem refl (w : World) : Waits w w := ⟨rfl, rfl, ⟨[], by simp, by simp⟩, rfl, rfl, id⟩

theorem trans {w₁ w₂ w₃ : World} (first : Waits w₁ w₂) (second : Waits w₂ w₃) : Waits w₁ w₃ := by
  obtain ⟨calls₁, logged₁, gets₁⟩ := first.reads
  obtain ⟨calls₂, logged₂, gets₂⟩ := second.reads
  refine ⟨second.objects.trans first.objects, second.version.trans first.version,
    ⟨calls₁ ++ calls₂, by rw [logged₂, logged₁, List.append_assoc], fun op member => ?_⟩,
    second.metrics.trans first.metrics, second.now.trans first.now,
    fun running => second.running (first.running running)⟩
  -- A call of either part is a read.
  rcases List.mem_append.mp member with early | late
  · exact gets₁ op early
  · exact gets₂ op late

instance : IsPreorder World Waits where
  refl := refl
  trans _ _ _ := trans

end World.Waits

/-- A read only logs itself and uses up a failure injected into it. -/
theorem Engine.getObject_waits (k : ResourceKey) : Keeps World.Waits (Engine.cluster (getObject k)) := by
  intro w
  rw [Engine.endState_cluster]
  -- A stopped world makes no call; a read changes no object or counter.
  split
  · exact World.Waits.refl w
  · exact ⟨(getObject_data k w.store).1, (getObject_data k w.store).2,
      ⟨_, getObject_ops k w.store, by simp⟩, rfl, rfl, id⟩

/-- A sleep only moves the clock, and stops no world without a deadline. -/
theorem Engine.sleep_waits (ms : Nat) : Keeps World.Waits (Engine.sleep ms) := by
  intro w
  -- Whatever the deadline, the sleep changes only the clock and whether the world stopped.
  obtain ⟨clock, stopped, slept⟩ : ∃ clock stopped,
      endState ((Engine.sleep ms).run w) = { w with clock := clock, stopped := stopped } := by
    show ∃ clock stopped, (if w.stopped then w else _) = _
    split
    · exact ⟨w.clock, w.stopped, rfl⟩
    · split
      · split
        · exact ⟨_, _, rfl⟩
        · exact ⟨_, _, rfl⟩
      · exact ⟨_, _, rfl⟩
  have running := Engine.sleep_staysRunning ms w
  rw [slept] at running ⊢
  exact ⟨rfl, rfl, ⟨[], by simp, by simp⟩, rfl, rfl, running⟩

theorem deploymentsReady_waits : ∀ keys : List ResourceKey, Keeps World.Waits (deploymentsReady keys)
  | [] => Keeps.pure _
  | k :: rest => by
    unfold deploymentsReady
    exact Keeps.bind (Engine.getObject_waits k) fun _ => Keeps.ite (deploymentsReady_waits rest) (Keeps.pure _)

theorem waitForComponent_waits (cfg : EngineConfig) (comp : ComponentStatus) :
    Keeps World.Waits (waitForComponent cfg comp) := by
  rw [waitForComponent_eq]
  exact Keeps.ite (Keeps.pure _) (Keeps.discard (pollUntil_keeps Engine.sleep_waits (deploymentsReady_waits _)))

/-- Where round `i` of a readiness wait from `w` begins. -/
def readinessRound (cfg : EngineConfig) (comp : ComponentStatus) (w : World) (i : Nat) : World :=
  roundStart cfg.readiness Engine.sleep (deploymentsReady comp.waitedDeployments) cfg.readiness.initialDelay i w

theorem engineSleep_returns (ms : Nat) (w : World) : ∃ w', (Engine.sleep ms).run w = .ok () w' :=
  ⟨_, rfl⟩

/-- Every round of a readiness wait from a running world begins on a running world. -/
theorem readinessRound_running (cfg : EngineConfig) (comp : ComponentStatus) {w : World}
    (running : w.Running) (i : Nat) : (readinessRound cfg comp w i).Running := by
  unfold readinessRound
  -- Any delay, since each round's sleep takes the next.
  generalize cfg.readiness.initialDelay = delay
  induction i generalizing w delay with
  | zero => exact running
  | succ i ih =>
    rw [roundStart_succ]
    -- A round and the sleep after it keep the world running.
    have round := (deploymentsReady_waits comp.waitedDeployments w).running running
    exact ih ((Engine.sleep_waits delay _).running round) _

/-- What a readiness wait does from a world `w` for a component: -/
structure ReadinessWait (cfg : EngineConfig) (comp : ComponentStatus) (w : World) : Prop where
  /-- with no Deployment to wait for, nothing happens; -/
  idle : comp.waitedDeployments = [] → (waitForComponent cfg comp).run w = .ok () w
  /-- with no round configured, nothing happens either; -/
  unpolled : cfg.readinessAttempts = 0 → (waitForComponent cfg comp).run w = .ok () w
  /-- every round begins on a running world and reads the Deployments in order up to the first
  whose read fails or finds one that is not ready; it finds them all ready when no read does so; -/
  round : ∀ i, (readinessRound cfg comp w i).Running ∧
    reportsReady ((deploymentsReady comp.waitedDeployments).run (readinessRound cfg comp w i)) =
      comp.waitedDeployments.all (readinessRound cfg comp w i).store.readsReady ∧
    (endState ((deploymentsReady comp.waitedDeployments).run (readinessRound cfg comp w i))).store.ops =
      (readinessRound cfg comp w i).store.ops ++
        (comp.waitedDeployments.take
          ((comp.waitedDeployments.takeWhile (readinessRound cfg comp w i).store.readsReady).length + 1)).map
          (⟨.get, ·, none⟩)
  /-- the wait makes `min j m` rounds, `m` being the rounds configured and `j` the first round that
  finds every Deployment ready (or any number past `m` when none does), with one sleep between two
  rounds and none after the last, and ends as its last round ended; -/
  rounds : comp.waitedDeployments ≠ [] → ∀ j, 0 < j →
    (∀ i, i + 1 < j → comp.waitedDeployments.all (readinessRound cfg comp w i).store.readsReady = false) →
    (j ≤ cfg.readinessAttempts →
      comp.waitedDeployments.all (readinessRound cfg comp w (j - 1)).store.readsReady = true) →
    (waitForComponent cfg comp).run w = .ok () (if min j cfg.readinessAttempts = 0 then w
      else endState ((deploymentsReady comp.waitedDeployments).run
        (readinessRound cfg comp w (min j cfg.readinessAttempts - 1))))
  /-- and it always returns, only logging reads, using up failures injected into them and letting
  time pass. -/
  returns : ∃ w', (waitForComponent cfg comp).run w = .ok () w' ∧ World.Waits w w'

/-- A readiness wait always returns. -/
theorem waitForComponent_returns (cfg : EngineConfig) (comp : ComponentStatus) (w : World) :
    Returns (waitForComponent cfg comp) w fun _ _ => True := by
  rw [waitForComponent_eq]
  -- No Deployment to wait for returns at once; a poll always returns.
  split
  · exact Returns.pure trivial
  · exact Returns.map (pollUntil_returns (fun _ _ => ⟨(), _, rfl, trivial⟩) w)

/-- A readiness wait from a running world does what `ReadinessWait` says. -/
theorem readinessWait_of_running (cfg : EngineConfig) (comp : ComponentStatus) {w : World}
    (running : w.Running) : ReadinessWait cfg comp w := by
  -- Each round reads as deploymentsReady_round says, on a running world.
  have round := fun i => deploymentsReady_round comp.waitedDeployments (readinessRound_running cfg comp running i)
  have polled : ∀ j, 0 < j →
      (∀ i, i + 1 < j → comp.waitedDeployments.all (readinessRound cfg comp w i).store.readsReady = false) →
      (j ≤ cfg.readinessAttempts →
        comp.waitedDeployments.all (readinessRound cfg comp w (j - 1)).store.readsReady = true) →
      (pollUntil cfg.readiness Engine.sleep (deploymentsReady comp.waitedDeployments)).run w =
        .ok (decide (j ≤ cfg.readinessAttempts)) (if min j cfg.readinessAttempts = 0 then w
          else endState ((deploymentsReady comp.waitedDeployments).run
            (readinessRound cfg comp w (min j cfg.readinessAttempts - 1)))) :=
    fun j pos before first =>
      pollUntil_run engineSleep_returns w pos (fun i below => (round i).1.trans (before i below))
        (fun within => (round (j - 1)).1.trans (first within))
  have rounds : comp.waitedDeployments ≠ [] → ∀ j, 0 < j →
      (∀ i, i + 1 < j → comp.waitedDeployments.all (readinessRound cfg comp w i).store.readsReady = false) →
      (j ≤ cfg.readinessAttempts →
        comp.waitedDeployments.all (readinessRound cfg comp w (j - 1)).store.readsReady = true) →
      (waitForComponent cfg comp).run w = .ok () (if min j cfg.readinessAttempts = 0 then w
        else endState ((deploymentsReady comp.waitedDeployments).run
          (readinessRound cfg comp w (min j cfg.readinessAttempts - 1)))) := by
    intro waited j pos before first
    rw [waitForComponent_eq, if_neg (by simpa using waited), discard_eq_map, run_map,
      polled j pos before first]
  refine ⟨fun waited => ?_, fun none => ?_, fun i => ⟨readinessRound_running cfg comp running i, round i⟩,
    rounds, ?_⟩
  -- No Deployment to wait for: nothing happens.
  · rw [waitForComponent_eq, if_pos (by simp [waited])]
    rfl
  · -- With no round configured the first round that could be ready is the first after the budget.
    by_cases waited : comp.waitedDeployments = []
    · rw [waitForComponent_eq, if_pos (by simp [waited])]
      rfl
    · rw [rounds waited 1 (by omega) (fun i below => absurd below (by omega)) (fun within => absurd within (by omega)),
        if_pos (by omega)]
  -- The wait returns and keeps what a wait keeps.
  · obtain ⟨_, w', ran, -⟩ := waitForComponent_returns cfg comp w
    have kept := waitForComponent_waits cfg comp w
    rw [ran] at kept
    exact ⟨w', ran, kept⟩

/-- The readiness wait: on a running world a wait does what `ReadinessWait` says, and the poll
under it makes `min j m` checks of any scripted check, `j` being the first that reports ready,
with one sleep between two checks and none after the last, and reports whether `j ≤ m`. -/
theorem readiness_wait (cfg : EngineConfig) (comp : ComponentStatus) {w : World} (running : w.Running) :
    ReadinessWait cfg comp w ∧
      ∀ (c : RetryConfig) (o : Nat → Except Error Bool) (j : Nat), 0 < j → (∀ i, i + 1 < j → o i ≠ .ok true) →
        (j ≤ c.maxAttempts → o (j - 1) = .ok true) →
        (pollUntil c loggedSleep (scripted o)).run [] =
          .ok (decide (j ≤ c.maxAttempts)) (c.calls c.initialDelay (min j c.maxAttempts)) :=
  ⟨readinessWait_of_running cfg comp running, fun _ _ _ pos before first => pollUntil_scripted pos before first⟩

/-- Pilot's Deployment. -/
def pilotDeployment : ResourceKey := ⟨"apps", "v1", "Deployment", "istio-system", "istio-pilot"⟩

/-- A pass that waits for pilot's Deployments, in two rounds with no pause. -/
def pilotWait : EngineConfig :=
  { waitFor := ["istio/charts/pilot"], readinessAttempts := 2, readinessInterval := 0 }

/-- Pilot with its Deployment tracked. -/
def pilotTracked : ComponentStatus :=
  { resource := "istio/charts/pilot", resources := [{ resource := pilotDeployment }] }

/-- A wait for a Deployment the cluster does not hold gives up after both rounds, having read it
once in each. -/
theorem readiness_wait_gives_up :
    World.Running {} ∧
      (waitForComponent pilotWait pilotTracked).run {} =
        .ok () (({} : World).logged [⟨.get, pilotDeployment, none⟩, ⟨.get, pilotDeployment, none⟩]) := by
  have running : World.Running {} := ⟨rfl, rfl⟩
  refine ⟨running, ?_⟩
  -- Neither round finds the Deployment, so the wait spends both.
  rw [(readiness_wait pilotWait pilotTracked running).1.rounds (by decide) 3 (by decide)
    (fun i below => by
      obtain rfl | rfl : i = 0 ∨ i = 1 := by omega
      · rfl
      · rfl)
    (fun within => absurd within (by decide))]
  rfl

end MeshControl
