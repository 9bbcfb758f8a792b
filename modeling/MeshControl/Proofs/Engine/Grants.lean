import MeshControl.Proofs.Engine.Hooks
import MeshControl.Proofs.Cluster.Keyed
import MeshControl.Proofs.Json.Fields

/-! Granting and revoking users of a security context constraint by calls that run side by side:
an update built from an overtaken read is refused and retried, so the users end as a set would. -/

namespace MeshControl

/-- The users a security context constraint grants: the strings of its `users` array. -/
def grantedUsers (scc : Object) : List String :=
  match scc.field? "users" with
  | some (.arr xs) => xs.filterMap Json.str?
  | _ => []

/-- A constraint with a user added to its users or removed from them, as a grant or a revoke
writes it; none when the users already have, or already lack, the user. -/
def usersUpdate (user : String) (add : Bool) (scc : Object) : Option Object :=
  if (grantedUsers scc).contains user == add then none
  else
    let users := if add then grantedUsers scc ++ [user] else (grantedUsers scc).filter (· != user)
    some (scc.setField "users" (.arr (users.map .str)))

/-- One attempt of a grant or revoke on a constraint: read it, and update it unless its users
are already as wanted. -/
def grantAttempt (user : String) (add : Bool) (key : ResourceKey) : Engine Unit := do
  let scc ← Engine.cluster (getObject key)
  match usersUpdate user add scc with
  | none => return ()
  | some updated => discard <| Engine.cluster (updateObject updated)

/-- The users of a constraint are read from its fields alone. -/
theorem grantedUsers_of_data {a b : Object} (same : a.data = b.data) : grantedUsers a = grantedUsers b := by
  simp only [grantedUsers, Object.field?, same]

/-- Writing a list of users into a constraint writes exactly those users. -/
@[simp] theorem grantedUsers_setField (scc : Object) (users : List String) :
    grantedUsers (scc.setField "users" (.arr (users.map .str))) = users := by
  have readBack : ∀ x, (Json.str x).str? = some x := fun _ => rfl
  simp [grantedUsers, Object.field?, Object.setField, Fields.get?_insert, List.filterMap_map, readBack]

/-- A constraint needs no update exactly when its users already have, or lack, the user as wanted. -/
theorem usersUpdate_eq_none {user : String} {add : Bool} {scc : Object} :
    usersUpdate user add scc = none ↔ (user ∈ grantedUsers scc ↔ add = true) := by
  unfold usersUpdate
  -- The user is already as wanted, or the users are rewritten with it added or removed.
  split
  · rename_i same
    simp only [beq_iff_eq] at same
    simp [← same]
  · rename_i differ
    simp only [beq_iff_eq] at differ
    simp only [reduceCtorEq, false_iff]
    intro iff
    cases add <;> simp_all

/-- An update keeps the constraint's key and metadata and changes only whether the user is
among its users. -/
theorem usersUpdate_some {user : String} {add : Bool} {scc updated : Object}
    (built : usersUpdate user add scc = some updated) :
    updated.key = scc.key ∧ updated.metadata = scc.metadata ∧
      ∀ x, x ∈ grantedUsers updated ↔ if x = user then add = true else x ∈ grantedUsers scc := by
  unfold usersUpdate at built
  -- No update was built when the users were already as wanted.
  split at built
  · cases built
  cases built
  refine ⟨Object.key_setField _ _ _, rfl, fun x => ?_⟩
  rw [grantedUsers_setField]
  -- A grant adds the user, a revoke removes it; other users stay.
  cases add <;> by_cases same : x = user <;> simp [same]

/-! ## Grant calls side by side -/

/-- Where a grant or revoke call on one constraint stands between two cluster calls: about to
read the constraint, with the retries it has left; about to send the update it built from its
last read; returned; or failed. -/
inductive GrantStage where
  | reading (left : Nat)
  | writing (updated : Object) (left : Nat)
  | done
  | failed (e : Error)

namespace GrantStage

/-- Whether the call returned. -/
def isDone : GrantStage → Bool
  | .done => true
  | _ => false

/-- Whether the call is about to send an update. -/
def isWriting : GrantStage → Bool
  | .writing _ _ => true
  | _ => false

/-- Where a failed cluster call leads with a number of retries left: a conflict is retried
from a new read while retries are left; anything else fails the call. -/
def afterError (e : Error) : Nat → GrantStage
  | 0 => .failed e
  | left + 1 => if e.isConflict then .reading left else .failed e

end GrantStage

/-- A grant (add) or revoke of a user on one constraint, running alongside others, with the
number of updates it has sent. -/
structure GrantCall where
  user : String
  add : Bool
  stage : GrantStage
  updates : Nat

/-- A call as it starts, with every retry of its configuration left. -/
def GrantCall.start (retry : RetryConfig) (user : String) (add : Bool) : GrantCall :=
  ⟨user, add, .reading (retry.maxAttempts - 1), 0⟩

/-- One cluster call of a grant call: a read, or the update built from its last read. -/
def GrantCall.step (key : ResourceKey) (c : GrantCall) (s : Store) : GrantCall × Store :=
  match c.stage with
  | .reading left =>
    match (getObject key).run s with
    | .ok scc s' => ({ c with stage := (usersUpdate c.user c.add scc).elim .done (.writing · left) }, s')
    | .error e s' => ({ c with stage := .afterError e left }, s')
  | .writing updated left =>
    match (updateObject updated).run s with
    | .ok _ s' => ({ c with stage := .done, updates := c.updates + 1 }, s')
    | .error e s' => ({ c with stage := .afterError e left, updates := c.updates + 1 }, s')
  | .done | .failed _ => (c, s)

/-- Calls run side by side, one cluster call at a time: each entry of the schedule lets the
call of that user make its next cluster call. -/
def runGrants (key : ResourceKey) : List String → List GrantCall → Store → List GrantCall × Store
  | [], calls, s => (calls, s)
  | u :: schedule, calls, s =>
    match calls.find? (·.user == u) with
    | none => runGrants key schedule calls s
    | some c =>
      let next := c.step key s
      runGrants key schedule (calls.map fun d => if d.user == u then next.1 else d) next.2

@[simp] theorem GrantCall.step_user (key : ResourceKey) (c : GrantCall) (s : Store) :
    (c.step key s).1.user = c.user := by
  unfold GrantCall.step
  -- Each stage keeps the call's user; only its stage and count change.
  split
  · split <;> rfl
  · split <;> rfl
  · rfl
  · rfl

@[simp] theorem GrantCall.step_add (key : ResourceKey) (c : GrantCall) (s : Store) :
    (c.step key s).1.add = c.add := by
  unfold GrantCall.step
  split
  · split <;> rfl
  · split <;> rfl
  · rfl
  · rfl

/-- The user of a call and whether it grants. -/
def GrantCall.request (c : GrantCall) : String × Bool := (c.user, c.add)

@[simp] theorem GrantCall.step_request (key : ResourceKey) (c : GrantCall) (s : Store) :
    (c.step key s).1.request = c.request := by
  simp [GrantCall.request]

@[simp] theorem GrantStage.afterError_isDone (e : Error) (left : Nat) :
    (GrantStage.afterError e left).isDone = false := by
  -- With no retry left the call fails; otherwise a conflict reads again and anything else fails.
  cases left with
  | zero => rfl
  | succ left =>
    simp only [GrantStage.afterError]
    split <;> rfl

@[simp] theorem GrantStage.afterError_isWriting (e : Error) (left : Nat) :
    (GrantStage.afterError e left).isWriting = false := by
  cases left with
  | zero => rfl
  | succ left =>
    simp only [GrantStage.afterError]
    split <;> rfl

theorem GrantStage.isDone_iff {stage : GrantStage} : stage.isDone = true ↔ stage = .done := by
  cases stage <;> simp [GrantStage.isDone]

theorem GrantStage.afterError_ne_writing (e : Error) (left : Nat) (updated : Object) (left' : Nat) :
    GrantStage.afterError e left ≠ .writing updated left' := by
  intro same
  have writing := GrantStage.afterError_isWriting e left
  rw [same] at writing
  cases writing

/-! ## A call run alone is the hook's retry loop -/

/-- A schedule run in two parts runs the second from where the first left the calls. -/
theorem runGrants_append (key : ResourceKey) (first rest : List String) (calls : List GrantCall) (s : Store) :
    runGrants key (first ++ rest) calls s =
      runGrants key rest (runGrants key first calls s).1 (runGrants key first calls s).2 := by
  induction first generalizing calls s with
  | nil => rfl
  | cons u first ih =>
    simp only [List.cons_append, runGrants]
    split <;> exact ih _ _

/-- A call alone makes its next cluster call at each entry of the schedule that names it. -/
theorem runGrants_alone (key : ResourceKey) {c : GrantCall} (n : Nat) (s : Store) :
    runGrants key (List.replicate (n + 1) c.user) [c] s =
      runGrants key (List.replicate n c.user) [(c.step key s).1] (c.step key s).2 := by
  simp [List.replicate_succ, runGrants]

/-- The stage a call is in once an attempt, with a number of retries left, has given its result. -/
def GrantStage.afterResult (left : Nat) : EStateM.Result Error World Unit → GrantStage
  | .ok _ _ => .done
  | .error e _ => .afterError e left

/-- An attempt makes cluster calls and nothing else, so a world with no deadline stays running. -/
theorem grantAttempt_staysRunning (user : String) (add : Bool) (key : ResourceKey) :
    Keeps World.StaysRunning (grantAttempt user add key) := by
  unfold grantAttempt
  -- The read and the update are cluster calls, which keep the world running.
  refine Keeps.bind (Engine.cluster_staysRunning _) fun scc => ?_
  split
  · exact Keeps.pure _
  · exact Keeps.discard (Engine.cluster_staysRunning _)

/-- One attempt on a world that has not stopped is one or two steps of the call: a read, and the
update it built if there was one. -/
theorem grantAttempt_alone (user : String) (add : Bool) (key : ResourceKey) (left k : Nat) {w : World}
    (running : w.stopped = false) :
    ∃ m c', runGrants key (List.replicate m user) [⟨user, add, .reading left, k⟩] w.store =
        ([c'], (endState ((grantAttempt user add key).run w)).store) ∧
      c'.request = (user, add) ∧ c'.stage = .afterResult left ((grantAttempt user add key).run w) := by
  unfold grantAttempt
  -- On a running world the read reaches the cluster.
  rw [EStateM.run_bind, Engine.cluster_run, if_neg (by simp [running])]
  cases read : (getObject key).run w.store with
  | error e s₁ =>
    -- A failed read is one step, that leaves the call to handle the error.
    refine ⟨1, ⟨user, add, .afterError e left, k⟩, ?_, rfl, rfl⟩
    rw [runGrants_alone (c := ⟨user, add, .reading left, k⟩)]
    simp [GrantCall.step, read, runGrants]
  | ok scc s₁ =>
    dsimp only
    -- Nothing to change ends the attempt after the read.
    cases built : usersUpdate user add scc with
    | none =>
      refine ⟨1, ⟨user, add, .done, k⟩, ?_, rfl, rfl⟩
      rw [runGrants_alone (c := ⟨user, add, .reading left, k⟩)]
      simp [GrantCall.step, read, built, runGrants]
    | some updated =>
      -- The read and the update are two steps; the world has not stopped in between.
      simp only [discard_eq_map, run_map, Engine.cluster_run, if_neg (by simp [running] : ¬ w.stopped = true)]
      cases wrote : (updateObject updated).run s₁ with
      | ok u s₂ =>
        refine ⟨2, ⟨user, add, .done, k + 1⟩, ?_, rfl, rfl⟩
        rw [runGrants_alone (c := ⟨user, add, .reading left, k⟩)]
        simp [GrantCall.step, read, built, runGrants, wrote]
      | error e s₂ =>
        refine ⟨2, ⟨user, add, .afterError e left, k + 1⟩, ?_, rfl, rfl⟩
        rw [runGrants_alone (c := ⟨user, add, .reading left, k⟩)]
        simp [GrantCall.step, read, built, runGrants, wrote]

/-- From any number of retries left, the loop run alone on a world with no deadline is the
steps of a call reading with that many retries left. -/
theorem retryWhile_grantAttempt_alone (retry : RetryConfig) (user : String) (add : Bool)
    (key : ResourceKey) (left : Nat) :
    ∀ {delay k : Nat} {w : World}, w.Running →
      ∃ n c', runGrants key (List.replicate n user) [⟨user, add, .reading left, k⟩] w.store =
          ([c'], (endState ((retryWhile.go Error.isConflict retry Engine.sleep (grantAttempt user add key)
            delay left).run w)).store) ∧
        c'.stage = .afterResult 0 ((retryWhile.go Error.isConflict retry Engine.sleep
          (grantAttempt user add key) delay left).run w) := by
  -- The induction is on the retries left; each round is one attempt, as one or two steps.
  induction left with
  | zero =>
    intro delay k w running
    obtain ⟨m, c', ran, -, stage⟩ := grantAttempt_alone user add key 0 k running.1
    exact ⟨m, c', ran, stage⟩
  | succ left ih =>
    intro delay k w running
    -- The first attempt is one or two steps of the call.
    obtain ⟨m, c₁, first, request, stage⟩ := grantAttempt_alone user add key (left + 1) k running.1
    rw [retryWhile.go, run_tryCatch]
    -- An attempt that returned ends the loop.
    cases attempt : (grantAttempt user add key).run w with
    | ok u w₁ =>
      rw [attempt] at first stage
      exact ⟨m, c₁, first, stage⟩
    | error e w₁ =>
      rw [attempt] at first stage
      dsimp only
      by_cases conflict : e.isConflict = true
      · -- A conflict is retried after a sleep, which on a world with no deadline only moves the clock.
        rw [if_pos conflict]
        have running₁ : w₁.Running := by
          have kept := grantAttempt_staysRunning user add key w running
          rwa [attempt] at kept
        have slept : (Engine.sleep delay).run w₁ = .ok () { w₁ with clock := w₁.clock + delay } := by
          show EStateM.Result.ok () _ = _
          simp [running₁.1, running₁.2]
        rw [EStateM.run_bind, slept]
        dsimp only
        obtain ⟨n, c', rest, final⟩ :=
          @ih (retry.nextDelay delay) c₁.updates { w₁ with clock := w₁.clock + delay } running₁
        -- The call after the attempt is the same request, now reading again.
        obtain ⟨user₁, add₁, stage₁, updates₁⟩ := c₁
        simp only [GrantCall.request, Prod.mk.injEq] at request
        obtain ⟨rfl, rfl⟩ := request
        simp only [GrantStage.afterResult, GrantStage.afterError, if_pos conflict] at stage
        subst stage
        refine ⟨m + n, c', ?_, final⟩
        rw [List.replicate_add, runGrants_append, first]
        exact rest
      · -- Any other error ends the loop, and the call fails with it.
        rw [if_neg conflict]
        refine ⟨m, c₁, first, ?_⟩
        simp [stage, GrantStage.afterResult, GrantStage.afterError, conflict]

/-- Run alone on a world with no deadline, a call is the hook's own retry loop, one cluster call
per step: its steps end on the cluster the loop ends on, returned when the loop returns and
failed with the loop's error when it fails. -/
theorem retryOnConflict_grantAttempt_alone (retry : RetryConfig) (user : String) (add : Bool)
    (key : ResourceKey) {w : World} (running : w.Running) :
    ∃ n c', runGrants key (List.replicate n user) [GrantCall.start retry user add] w.store =
        ([c'], (endState ((retryOnConflict retry Engine.sleep (grantAttempt user add key)).run w)).store) ∧
      c'.stage = .afterResult 0 ((retryOnConflict retry Engine.sleep (grantAttempt user add key)).run w) :=
  retryWhile_grantAttempt_alone retry user add key (retry.maxAttempts - 1) running

/-! ## What the calls keep of the constraint -/

/-- An object carries a version that the cluster's counter, standing at `version`, has handed
out. -/
def Object.Issued (o : Object) (version : Nat) : Prop :=
  ∃ n ≤ version, o.metadata.resourceVersion = some (toString n)

theorem Object.Issued.mono {o : Object} {v w : Nat} (issued : o.Issued v) (le : v ≤ w) : o.Issued w := by
  obtain ⟨n, below, carried⟩ := issued
  exact ⟨n, by omega, carried⟩

/-- The counter never hands out a version twice: the next one is carried by nothing issued before. -/
theorem Object.Issued.ne_next {o : Object} {v : Nat} (issued : o.Issued v) :
    o.metadata.resourceVersion ≠ some (toString (v + 1)) := by
  obtain ⟨n, below, carried⟩ := issued
  rw [carried, Ne, Option.some.injEq]
  intro same
  -- Versions are decimal numerals, so equal strings are equal numbers.
  have := Nat.repr_inj.mp same
  omega

/-- Whether a call's user should be among the constraint's users: as the call wants once it
returned, as at the start until then. -/
def GrantCall.present (L : List String) (c : GrantCall) : Prop :=
  if c.stage.isDone then c.add = true else c.user ∈ L

/-- What a call keeps true of the stored constraint `cur` while the counter stands at
`version`: its user is there as it should be; an update it is about to send names the
constraint, carries a version handed out already, and is what it would build from `cur` when it
carries the version of `cur`; and a call that changes nothing from the start sends no update. -/
structure GrantCall.Holds (key : ResourceKey) (L : List String) (cur : Object) (version : Nat)
    (c : GrantCall) : Prop where
  member : c.user ∈ grantedUsers cur ↔ c.present L
  pending : ∀ updated left, c.stage = .writing updated left →
    updated.key = .ok key ∧ updated.Issued version ∧
      (updated.metadata.resourceVersion = cur.metadata.resourceVersion →
        usersUpdate c.user c.add cur = some updated)
  quiet : (c.user ∈ L ↔ c.add = true) → c.updates = 0 ∧ c.stage.isWriting = false

/-- What one cluster call of the call `c`, ending in `c'` and `s'`, did to the constraint `cur`
stored while the counter stood at `version`: either nothing stored changed and `c'` holds of
`cur`, or `c` wrote a new constraint under the next version that differs from `cur` at most in
the user of `c`, and `c'` holds of it. -/
inductive GrantCall.Stepped (key : ResourceKey) (L : List String) (c : GrantCall) (cur : Object)
    (version : Nat) : GrantCall → Store → Prop
  | kept {c' : GrantCall} {s' : Store} : s'.lookup key = some cur → s'.version = version →
      c'.Holds key L cur version → GrantCall.Stepped key L c cur version c' s'
  | wrote {c' : GrantCall} {s' : Store} (cur' : Object) : s'.lookup key = some cur' →
      s'.version = version + 1 → cur'.key = .ok key →
      cur'.metadata.resourceVersion = some (toString (version + 1)) →
      c'.Holds key L cur' (version + 1) →
      (∀ x, x ≠ c.user → (x ∈ grantedUsers cur' ↔ x ∈ grantedUsers cur)) →
      GrantCall.Stepped key L c cur version c' s'

section Holds

variable {key : ResourceKey} {L : List String} {cur : Object} {s : Store} {c : GrantCall}

/-- A read changes no object and hands out no version; the call that made it holds on, now about
to write the update it built, or returned if there was nothing to change. -/
theorem GrantCall.Holds.read {left : Nat} (held : s.lookup key = some cur) (keyed : cur.key = .ok key)
    (issued : cur.Issued s.version) (holds : c.Holds key L cur s.version) (reading : c.stage = .reading left) :
    c.Stepped key L cur s.version (c.step key s).1 (c.step key s).2 := by
  -- Until it returns, the call's user is where it was at the start.
  have present : c.user ∈ grantedUsers cur ↔ c.user ∈ L := by
    simpa [GrantCall.present, reading, GrantStage.isDone] using holds.member
  unfold GrantCall.step
  simp only [reading]
  -- A read that returned finds cur and changes nothing; a failed one changes nothing.
  cases ran : (getObject key).run s with
  | ok scc s' =>
    obtain ⟨found, logged⟩ := getObject_ok ran
    rw [held, Option.some.injEq] at found
    subst found logged
    dsimp only
    refine .kept (by simpa using held) rfl ?_
    cases built : usersUpdate c.user c.add cur with
    | none =>
      -- Nothing to change: the call returns with its user already as it wants.
      have member := usersUpdate_eq_none.mp built
      refine ⟨by simpa [GrantCall.present, GrantStage.isDone] using member, fun _ _ no => (by cases no), ?_⟩
      exact fun unchanged => ⟨(holds.quiet unchanged).1, rfl⟩
    | some updated =>
      -- The update built keeps cur's key and version, so it is pending on cur.
      obtain ⟨sameKey, sameMeta, -⟩ := usersUpdate_some built
      refine ⟨by simpa [GrantCall.present, GrantStage.isDone] using present, ?_, ?_⟩
      · rintro _ _ ⟨⟩
        exact ⟨sameKey.trans keyed, by simpa [Object.Issued, sameMeta] using issued, fun _ => built⟩
      · -- A call that changes nothing from the start finds nothing to change, so it builds no update.
        intro unchanged
        have none := usersUpdate_eq_none.mpr (present.trans unchanged)
        rw [built] at none
        cases none
  | error e s' =>
    have kept := getObject_data key s
    rw [ran, endState_error] at kept
    obtain ⟨sameObjects, sameVersion⟩ := kept
    dsimp only
    refine .kept (by simpa [Store.lookup, sameObjects] using held) sameVersion ⟨?_, ?_, ?_⟩
    · simpa [GrantCall.present] using present
    · intro updated left' writing
      exact absurd writing (GrantStage.afterError_ne_writing _ _ _ _)
    · exact fun unchanged => ⟨(holds.quiet unchanged).1, by simp⟩

/-- An update either fails, changing no object and handing out no version, or goes in: then the
stored constraint is the update the call built from it, under the next version, and the call has
returned with its user as it wants and every other user as before. -/
theorem GrantCall.Holds.write {updated : Object} {left : Nat} (held : s.lookup key = some cur)
    (holds : c.Holds key L cur s.version) (writing : c.stage = .writing updated left) :
    c.Stepped key L cur s.version (c.step key s).1 (c.step key s).2 := by
  obtain ⟨named, issuedUpdate, fromCur⟩ := holds.pending updated left writing
  -- A call about to write changes something from the start.
  have changes : ¬ (c.user ∈ L ↔ c.add = true) := fun unchanged => by
    have quiet := (holds.quiet unchanged).2
    rw [writing] at quiet
    cases quiet
  have present : c.user ∈ grantedUsers cur ↔ c.user ∈ L := by
    simpa [GrantCall.present, writing, GrantStage.isDone] using holds.member
  unfold GrantCall.step
  simp only [writing]
  -- The update went in, or was refused and changed nothing.
  cases ran : (updateObject updated).run s with
  | ok u s' =>
    obtain ⟨current, found, fresh, sameData, keyed', carried, stored, counted, -⟩ :=
      updateObject_run_ok named ran
    rw [held, Option.some.injEq] at found
    subst found
    -- The update carried a version, so it carried the stored one: it was built from `cur`.
    have built : usersUpdate c.user c.add cur = some updated := by
      refine fromCur (fresh.resolve_left ?_)
      obtain ⟨n, -, carriedOld⟩ := issuedUpdate
      simp [carriedOld]
    obtain ⟨-, -, members⟩ := usersUpdate_some built
    have users : grantedUsers u = grantedUsers updated := grantedUsers_of_data sameData
    dsimp only
    refine .wrote u stored counted keyed' carried ⟨?_, ?_, ?_⟩ fun x other => ?_
    · simpa [GrantCall.present, users, GrantStage.isDone] using members c.user
    · rintro _ _ ⟨⟩
    · exact fun unchanged => absurd unchanged changes
    · rw [users, members x, if_neg other]
  | error e s' =>
    obtain ⟨sameObjects, sameVersion⟩ := updateObject_data_of_error ran
    dsimp only
    refine .kept (by simpa [Store.lookup, sameObjects] using held) sameVersion ⟨?_, ?_, ?_⟩
    · simpa [GrantCall.present] using present
    · intro updated' left' writing'
      exact absurd writing' (GrantStage.afterError_ne_writing _ _ _ _)
    · exact fun unchanged => absurd unchanged changes

/-- One cluster call of a call that holds keeps it holding, whatever the call was doing. -/
theorem GrantCall.Holds.step (held : s.lookup key = some cur) (keyed : cur.key = .ok key)
    (issued : cur.Issued s.version) (holds : c.Holds key L cur s.version) :
    c.Stepped key L cur s.version (c.step key s).1 (c.step key s).2 := by
  -- A call reading or writing makes its next cluster call; a finished one changes nothing.
  cases stage : c.stage with
  | reading left => exact holds.read held keyed issued stage
  | writing updated left => exact holds.write held stage
  | done =>
    have idle : c.step key s = (c, s) := by simp only [GrantCall.step, stage]
    exact idle ▸ .kept held rfl holds
  | failed e =>
    have idle : c.step key s = (c, s) := by simp only [GrantCall.step, stage]
    exact idle ▸ .kept held rfl holds

/-- A write by another call leaves a call holding of the new constraint: its user is untouched,
and an update it is about to send carries a version older than the new one. -/
theorem GrantCall.Holds.frame {cur' : Object} {user : String} {version : Nat}
    (holds : c.Holds key L cur version) (other : c.user ≠ user)
    (untouched : ∀ x, x ≠ user → (x ∈ grantedUsers cur' ↔ x ∈ grantedUsers cur))
    (newer : cur'.metadata.resourceVersion = some (toString (version + 1))) :
    c.Holds key L cur' (version + 1) where
  member := (untouched c.user other).trans holds.member
  pending updated left writing := by
    obtain ⟨named, issued, -⟩ := holds.pending updated left writing
    -- The new constraint's version was never handed out before, so no pending update carries it.
    exact ⟨named, issued.mono (Nat.le_succ version), fun same => absurd (same.trans newer) issued.ne_next⟩
  quiet := holds.quiet

end Holds

/-- The calls side by side as they keep the stored constraint: their users are distinct, and the
constraint is stored under its key at a version the counter handed out, every call holds of it,
and every user no call is about is there as at the start. -/
structure GrantsHold (key : ResourceKey) (L : List String) (calls : List GrantCall) (s : Store) : Prop where
  distinct : (calls.map (·.user)).Nodup
  stored : ∃ cur, s.lookup key = some cur ∧ cur.key = .ok key ∧ cur.Issued s.version ∧
    (∀ c ∈ calls, c.Holds key L cur s.version) ∧
    ∀ u ∉ calls.map (·.user), (u ∈ grantedUsers cur ↔ u ∈ L)

section Replace

variable {calls : List GrantCall} {c c' : GrantCall} {u : String}

/-- Putting what the call of a user became in its place keeps every call's request. -/
theorem requests_replace (distinct : (calls.map (·.user)).Nodup) (mem : c ∈ calls) (named : c.user = u)
    (same : c'.request = c.request) :
    (calls.map fun d => if d.user == u then c' else d).map GrantCall.request = calls.map GrantCall.request := by
  rw [List.map_map]
  refine List.map_congr_left fun d held => ?_
  by_cases mine : d.user = u
  · -- Users are distinct, so the call of the user is the one that moved.
    have : d = c := List.inj_on_of_nodup_map distinct held mem (mine.trans named.symm)
    subst this
    simp [mine, same]
  · simp [mine]

/-- Putting what the call of a user became in its place keeps the users. -/
theorem users_replace (distinct : (calls.map (·.user)).Nodup) (mem : c ∈ calls) (named : c.user = u)
    (same : c'.request = c.request) :
    (calls.map fun d => if d.user == u then c' else d).map (·.user) = calls.map (·.user) := by
  have requests := congrArg (List.map Prod.fst) (requests_replace distinct mem named same)
  simpa [List.map_map, Function.comp_def, GrantCall.request] using requests

/-- After the replacement, a call is the one that moved or a call of another user that did not. -/
theorem mem_replace {d : GrantCall} (held : d ∈ calls.map fun d => if d.user == u then c' else d) :
    d = c' ∨ (d ∈ calls ∧ d.user ≠ u) := by
  obtain ⟨d₀, mem, rfl⟩ := List.mem_map.mp held
  by_cases mine : d₀.user = u
  · exact .inl (by simp [mine])
  · exact .inr ⟨by simpa [mine] using mem, by simp [mine]⟩

end Replace

/-- One cluster call of one of the calls keeps them holding. -/
theorem GrantsHold.step {key : ResourceKey} {L : List String} {calls : List GrantCall} {s : Store}
    {u : String} {c : GrantCall} (hold : GrantsHold key L calls s) (found : calls.find? (·.user == u) = some c) :
    GrantsHold key L (calls.map fun d => if d.user == u then (c.step key s).1 else d) (c.step key s).2 := by
  obtain ⟨distinct, cur, held, keyed, issued, each, others⟩ := hold
  have mem : c ∈ calls := List.mem_of_find?_eq_some found
  have named : c.user = u := by simpa using List.find?_some found
  have users := users_replace distinct mem named (GrantCall.step_request key c s)
  refine ⟨users ▸ distinct, ?_⟩
  rw [users]
  -- The step kept the constraint, or wrote one that the other calls hold of too.
  cases (each c mem).step held keyed issued with
  | kept stored counted holds =>
    refine ⟨cur, stored, keyed, counted ▸ issued, fun d mem' => ?_, others⟩
    -- The moved call holds by its step; the others held already.
    rcases mem_replace mem' with rfl | ⟨old, -⟩
    · exact counted ▸ holds
    · exact counted ▸ each d old
  | wrote cur' stored counted keyed' carried holds untouched =>
    refine ⟨cur', stored, keyed', ⟨s.version + 1, counted.ge, carried⟩, fun d mem' => ?_, fun x absent => ?_⟩
    -- The writer holds by its step; the others hold of the new constraint, their users untouched.
    · rcases mem_replace mem' with rfl | ⟨old, other⟩
      · exact counted ▸ holds
      · exact counted ▸ (each d old).frame (named ▸ other) untouched carried
    · -- A user no call is about is not the writer's, so it is where it was.
      have other : x ≠ c.user := fun same => absent (List.mem_map.mpr ⟨c, mem, same.symm⟩)
      exact (untouched x other).trans (others x absent)

/-- Calls that hold go on holding, whatever the schedule. -/
theorem GrantsHold.run {key : ResourceKey} {L : List String} (schedule : List String) :
    ∀ {calls : List GrantCall} {s : Store}, GrantsHold key L calls s →
      GrantsHold key L (runGrants key schedule calls s).1 (runGrants key schedule calls s).2 := by
  -- The induction is on the schedule: each entry is one cluster call of one call, or nothing.
  induction schedule with
  | nil => exact fun hold => hold
  | cons u schedule ih =>
    intro calls s hold
    unfold runGrants
    -- An entry naming no call does nothing.
    cases found : calls.find? (·.user == u) with
    | none => exact ih hold
    | some c => exact ih (hold.step found)

/-- A run keeps every call's request. -/
theorem runGrants_requests (key : ResourceKey) (schedule : List String) :
    ∀ {calls : List GrantCall} {s : Store}, (calls.map (·.user)).Nodup →
      (runGrants key schedule calls s).1.map GrantCall.request = calls.map GrantCall.request := by
  induction schedule with
  | nil => exact fun _ => rfl
  | cons u schedule ih =>
    intro calls s distinct
    unfold runGrants
    -- An entry naming no call does nothing.
    cases found : calls.find? (·.user == u) with
    | none => exact ih distinct
    | some c =>
      have mem : c ∈ calls := List.mem_of_find?_eq_some found
      have named : c.user = u := by simpa using List.find?_some found
      have same := GrantCall.step_request key c s
      dsimp only
      rw [ih ((users_replace distinct mem named same).symm ▸ distinct), requests_replace distinct mem named same]

/-- Calls that have not started hold of the constraint they start from. -/
theorem GrantsHold.start {key : ResourceKey} {s : Store} {scc : Object} (retry : RetryConfig)
    {requests : List (String × Bool)} (distinct : (requests.map Prod.fst).Nodup)
    (held : s.lookup key = some scc) (keyed : scc.key = .ok key) (issued : scc.Issued s.version) :
    GrantsHold key (grantedUsers scc) (requests.map fun r => GrantCall.start retry r.1 r.2) s := by
  -- At the start the constraint is as read, and no call is pending or has written.
  refine ⟨by simpa [List.map_map, Function.comp_def, GrantCall.start] using distinct,
    scc, held, keyed, issued, fun c mem => ?_, fun _ _ => Iff.rfl⟩
  obtain ⟨r, -, rfl⟩ := List.mem_map.mp mem
  refine ⟨by simp [GrantCall.present, GrantCall.start, GrantStage.isDone], ?_, fun _ => ⟨rfl, rfl⟩⟩
  rintro _ _ ⟨⟩

/-- Grants and revokes of distinct users on one constraint, run side by side in any order, treat
its users as a set: no update is lost, and a call whose user is already as wanted sends none. -/
theorem runGrants_users_as_set {key : ResourceKey} {s s' : Store} {scc : Object} {retry : RetryConfig}
    {requests : List (String × Bool)} {schedule : List String} {calls : List GrantCall}
    (distinct : (requests.map Prod.fst).Nodup)
    (held : s.lookup key = some scc) (keyed : scc.key = .ok key) (issued : scc.Issued s.version)
    (ran : runGrants key schedule (requests.map fun r => GrantCall.start retry r.1 r.2) s = (calls, s'))
    (returned : ∀ c ∈ calls, c.stage = .done) :
    ∃ scc', s'.lookup key = some scc' ∧
      (∀ u, u ∈ grantedUsers scc' ↔ (u, true) ∈ requests ∨ (u ∈ grantedUsers scc ∧ (u, false) ∉ requests)) ∧
      ∀ c ∈ calls, (c.user ∈ grantedUsers scc ↔ c.add = true) → c.updates = 0 := by
  -- The calls hold from the start to the end of the schedule.
  have begun := GrantsHold.start retry distinct held keyed issued
  have kept := runGrants_requests key schedule (s := s) begun.distinct
  have hold := begun.run schedule
  rw [ran] at kept hold
  -- The calls that returned are the requested ones.
  have requested : calls.map GrantCall.request = requests := by
    simpa [List.map_map, Function.comp_def, GrantCall.start, GrantCall.request] using kept
  have asked : ∀ x b, (x, b) ∈ requests ↔ ∃ c ∈ calls, c.user = x ∧ c.add = b := by
    intro x b
    simp [← requested, GrantCall.request]
  obtain ⟨distinct', cur, stored, -, -, each, others⟩ := hold
  refine ⟨cur, stored, fun x => ?_, fun c mem unchanged => ((each c mem).quiet unchanged).1⟩
  by_cases isCall : x ∈ calls.map (·.user)
  · -- The user's own call returned, so the user is there as that call wants.
    obtain ⟨c, mem, rfl⟩ := List.mem_map.mp isCall
    have member := (each c mem).member
    simp only [GrantCall.present, returned c mem, GrantStage.isDone, if_true] at member
    have only : ∀ d ∈ calls, d.user = c.user → d = c := fun d held same =>
      List.inj_on_of_nodup_map distinct' held mem same
    rw [member, asked, asked]
    constructor
    · exact fun grants => .inl ⟨c, mem, rfl, grants⟩
    · rintro (⟨d, held, same, grants⟩ | ⟨-, notRevoked⟩)
      · exact only d held same ▸ grants
      · cases revokes : c.add
        · exact absurd ⟨c, mem, rfl, revokes⟩ notRevoked
        · rfl
  · -- No call is about the user, so it is there as at the start.
    have none : ∀ b, ¬ ∃ c ∈ calls, c.user = x ∧ c.add = b := fun b ⟨c, mem, same, _⟩ =>
      isCall (List.mem_map.mpr ⟨c, mem, same⟩)
    rw [others x isCall, asked, asked]
    simp only [none, false_or, not_false_eq_true, and_true]

/-- A constraint granting users b and x, stored at version 1. -/
def anyuidConstraint : Object :=
  { types := some ⟨"security.openshift.io/v1", "SecurityContextConstraints"⟩,
    metadata := { name := some "anyuid", resourceVersion := some "1" },
    data := [("users", .arr [.str "b", .str "x"])] }

/-- A grant of a and a revoke of b that both read version 1; the grant writes first, so the
revoke is refused for its stale version, reads again and writes. -/
def anyuidRace : List GrantCall × Store :=
  runGrants (constraintKey "anyuid") ["a", "b", "a", "b", "b", "b"]
    ([("a", true), ("b", false)].map fun r => GrantCall.start .standard r.1 r.2)
    { objects := [(constraintKey "anyuid", anyuidConstraint)], version := 1 }

theorem anyuidRace_users_as_set :
    anyuidRace.1.map (·.updates) = [1, 2] ∧ (∀ c ∈ anyuidRace.1, c.stage = .done) ∧
    ∃ scc', anyuidRace.2.lookup (constraintKey "anyuid") = some scc' ∧
      (∀ u, u ∈ grantedUsers scc' ↔ (u, true) ∈ [("a", true), ("b", false)] ∨
        (u ∈ grantedUsers anyuidConstraint ∧ (u, false) ∉ [("a", true), ("b", false)])) ∧
      ∀ c ∈ anyuidRace.1, (c.user ∈ grantedUsers anyuidConstraint ↔ c.add = true) → c.updates = 0 := by
  -- Evaluate the run: both calls have returned.
  have finished : (anyuidRace.1.all (·.stage.isDone)) = true := by decide +kernel
  have returned := fun c mem => GrantStage.isDone_iff.mp (List.all_eq_true.mp finished c mem)
  -- The revoke sent two updates: the first was refused.
  have refused : anyuidRace.1.map (·.updates) = [1, 2] := by decide +kernel
  exact ⟨refused, returned, runGrants_users_as_set (by decide) rfl rfl ⟨1, Nat.le_refl 1, rfl⟩ rfl returned⟩

end MeshControl
