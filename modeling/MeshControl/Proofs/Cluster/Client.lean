import MeshControl.Proofs.Cluster.Keyed

/-! Calls a client makes on the in-memory cluster: each is logged before it is answered, meets
the failures told for it on their schedule, and changes no object when it fails. -/

namespace MeshControl

/-! Runs that fail. -/

section Aborts

variable {ε σ α β : Type}

/-- A run that fails ends in a state that `R` relates to the one it started in. -/
def Aborts (R : σ → σ → Prop) (x : EStateM ε σ α) : Prop :=
  ∀ s e s', x.run s = .error e s' → R s s'

namespace Aborts

variable {R : σ → σ → Prop}

theorem of_keeps {x : EStateM ε σ α} (kept : Keeps R x) : Aborts R x := by
  intro s e s' failed
  simpa [failed] using kept s

/-- A run that never fails aborts within any relation. -/
theorem of_returns {x : EStateM ε σ α} (total : ∀ s, Returns x s fun _ _ => True) : Aborts R x := by
  intro s e s' failed
  -- The run returns, so the failure assumed cannot happen.
  obtain ⟨a, s₁, ran, -⟩ := total s
  rw [ran] at failed
  cases failed

/-- Checks that keep `R`, then steps that abort within it: the sequence aborts within it. -/
theorem bind [IsPreorder σ R] {x : EStateM ε σ α} {f : α → EStateM ε σ β} (first : Keeps R x)
    (rest : ∀ a, Aborts R (f a)) : Aborts R (x >>= f) := by
  intro s e s' failed
  -- The check keeps R whether it fails or not; the steps after it run only if it returns.
  have kept := first s
  rw [EStateM.run_bind] at failed
  cases result : x.run s with
  -- The check returned, and the step after it failed within R.
  | ok a s₁ =>
    rw [result] at failed kept
    exact IsTrans.trans _ _ _ kept (rest a s₁ e s' failed)
  -- The check itself failed, and that failure is the whole run's.
  | error e₁ s₁ =>
    rw [result] at failed kept
    cases failed
    exact kept

theorem ite {c : Prop} [Decidable c] {x y : EStateM ε σ α} (yes : Aborts R x) (no : Aborts R y) :
    Aborts R (if c then x else y) := by
  split
  · exact yes
  · exact no

theorem map {x : EStateM ε σ α} (f : α → β) (first : Aborts R x) : Aborts R (f <$> x) := by
  intro s e s' failed
  rw [run_map] at failed
  -- Mapping cannot fail, so a failure is the run's own.
  cases result : x.run s with
  | ok a s₁ => rw [result] at failed; cases failed
  | error e₁ s₁ =>
    rw [result] at failed
    cases failed
    exact first s _ _ result

end Aborts

end Aborts

/-! How the cluster answers a call it has logged. -/

namespace Store

/-- The same log and the same failures left to inject. -/
def SameBook (s s' : Store) : Prop := s'.ops = s.ops ∧ s'.failures = s.failures

/-- The same objects, and the counter at the same version. -/
def SameData (s s' : Store) : Prop := s'.objects = s.objects ∧ s'.version = s.version

instance : IsPreorder Store SameBook where
  refl _ := ⟨rfl, rfl⟩
  trans _ _ _ first second := ⟨second.1.trans first.1, second.2.trans first.2⟩

instance : IsPreorder Store SameData where
  refl _ := ⟨rfl, rfl⟩
  trans _ _ _ first second := ⟨second.1.trans first.1, second.2.trans first.2⟩

end Store

/-- How the cluster answers a call once it is logged: whatever it answers, it keeps the log and
the failures to inject, and when it refuses the call it changes no object and hands out no
version. -/
structure Answers (x : StoreM α) : Prop where
  book : Keeps Store.SameBook x
  atomic : Aborts Store.SameData x

namespace Answers

/-- A check that changes nothing, then an answer. -/
theorem bind {x : StoreM α} {f : α → StoreM β} (book : Keeps Store.SameBook x)
    (data : Keeps Store.SameData x) (rest : ∀ a, Answers (f a)) : Answers (x >>= f) :=
  ⟨Keeps.bind book fun a => (rest a).book, Aborts.bind data fun a => (rest a).atomic⟩

theorem throw_bind (e : Error) (f : α → StoreM β) : Answers (MonadExcept.throw e >>= f) :=
  ⟨Keeps.throw_bind e f, Aborts.of_keeps (Keeps.throw_bind e f)⟩

theorem pure (a : α) : Answers (Pure.pure a : StoreM α) :=
  ⟨Keeps.pure a, Aborts.of_keeps (Keeps.pure a)⟩

theorem throw (e : Error) : Answers (MonadExcept.throw e : StoreM α) :=
  ⟨Keeps.throw e, Aborts.of_keeps (Keeps.throw e)⟩

theorem ite {c : Prop} [Decidable c] {x y : StoreM α} (yes : Answers x) (no : Answers y) :
    Answers (if c then x else y) :=
  ⟨Keeps.ite yes.book no.book, Aborts.ite yes.atomic no.atomic⟩

theorem map (f : α → β) {x : StoreM α} (first : Answers x) : Answers (f <$> x) :=
  ⟨Keeps.map f first.book, Aborts.map f first.atomic⟩

/-- A check of a plain computation changes nothing. -/
theorem ofExcept_bind (x : Except Error α) {f : α → StoreM β} (rest : ∀ a, Answers (f a)) :
    Answers (StoreM.ofExcept x >>= f) :=
  bind (StoreM.ofExcept_keeps x) (StoreM.ofExcept_keeps x) rest

/-- Reading a stored object changes nothing. -/
theorem stored_bind (key : ResourceKey) {f : Object → StoreM β} (rest : ∀ a, Answers (f a)) :
    Answers (stored key >>= f) :=
  bind (stored_keeps key) (stored_keeps key) rest

end Answers

/-- Reading a stored object changes nothing. -/
theorem stored_answers (key : ResourceKey) : Answers (stored key) :=
  ⟨stored_keeps key, Aborts.of_keeps (stored_keeps key)⟩

/-- Handing out the next version and storing an object under a key always returns, and touches
neither the log nor the failures. -/
theorem putVersioned_answers (key : ResourceKey) (make : String → Object) :
    Answers (nextVersion >>= fun v => modify (·.put key (make v)) >>= fun _ =>
      (pure (make v) : StoreM Object)) := by
  -- Neither handing out a version nor storing touches the log, and neither can fail.
  refine ⟨fun s => ⟨rfl, rfl⟩, Aborts.of_returns fun s => ?_⟩
  exact Returns.bind (Returns.of_run rfl (Returns.bind (Returns.of_run rfl (Returns.pure trivial))))

/-- Dropping the object under a key always returns, and touches neither the log nor the
failures. -/
theorem remove_answers (key : ResourceKey) : Answers (modify (·.remove key) : StoreM PUnit) :=
  ⟨fun _ => ⟨rfl, rfl⟩, Aborts.of_returns fun _ => Returns.of_run rfl trivial⟩

/-! A call logged before it is answered. -/

/-- Recording a call changes neither the objects nor the counter, failed or not. -/
theorem record_sameData (verb : Verb) (key : ResourceKey) (p : Option Propagation) :
    Keeps Store.SameData (record verb key p) := by
  intro s
  rw [record_run]
  -- Failed or not, recording writes only the log and the failures.
  cases findFailure s.failures verb key.name with
  | none => exact ⟨rfl, rfl⟩
  | some hit => exact ⟨rfl, rfl⟩

/-- What a call logged as `op` does: it adds its record to the log whatever it answers; when it
meets a failure told for it, it fails with that failure before it is answered and uses up one of
its calls; when it meets none, the failures stay as they were; and when it fails it changes no
object and hands out no version. -/
structure Logged (op : Op) (x : StoreM α) : Prop where
  ops : ∀ s, (endState (x.run s)).ops = s.ops ++ [op]
  injected : ∀ s i f, findFailure s.failures op.verb op.key.name = some (i, f) →
    x.run s = .error (f.failure.toError op.key.name)
      { s.log op with failures := s.failures.set i { f with remaining := f.remaining.map (· - 1) } }
  free : ∀ s, findFailure s.failures op.verb op.key.name = none → (endState (x.run s)).failures = s.failures
  atomic : Aborts Store.SameData x

namespace Logged

variable {op : Op}

/-- A call recorded first, then answered. -/
theorem of_record {body : Unit → StoreM α} (answers : ∀ u, Answers (body u)) :
    Logged op (record op.verb op.key op.propagation >>= body) where
  ops s := by
    rw [EStateM.run_bind, record_run]
    -- A failure met ends the call at its record; otherwise the answer keeps the log.
    cases findFailure s.failures op.verb op.key.name with
    | none => exact ((answers ()).book _).1
    | some hit => rfl
  injected s i f found := by rw [EStateM.run_bind, record_run, found]
  free s free := by
    -- With no failure met the record keeps the failures, and so does the answer.
    rw [EStateM.run_bind, record_run, free]
    exact ((answers ()).book _).2
  atomic := Aborts.bind (record_sameData _ _ _) fun u => (answers u).atomic

theorem map (f : α → β) {x : StoreM α} (logged : Logged op x) : Logged op (f <$> x) where
  ops s := by rw [endState_map]; exact logged.ops s
  injected s i g found := by rw [run_map, logged.injected s i g found]
  free s free := by rw [endState_map]; exact logged.free s free
  atomic := Aborts.map f logged.atomic

end Logged

/-! Calls as data. -/

/-- A call a client makes on the in-memory cluster, or the seeding of an object into it. -/
inductive Call where
  | insert (o : Object)
  | get (key : ResourceKey)
  | list (group version kind : String) (ns selector : Option String)
  | create (o : Object)
  | update (o : Object)
  | patch (key : ResourceKey) (patch : Json)
  | patchStatus (key : ResourceKey) (patch : Json)
  | delete (key : ResourceKey) (propagation : Option Propagation)

namespace Call

/-- Makes a call; what it returns is dropped. -/
def run : Call → StoreM Unit
  | insert o => discard (seedObject o)
  | get key => discard (getObject key)
  | list group version kind ns selector => discard (listObjects group version kind ns selector)
  | create o => discard (createObject o)
  | update o => discard (updateObject o)
  | patch key p => discard (patchObject key p)
  | patchStatus key p => discard (patchObjectStatus key p)
  | delete key p => discard (deleteObject key p)

/-- The record a call leaves in the log. Seeding and listing leave none, and neither does a
create or an update whose object names no key: it is refused before it is sent. -/
def record? : Call → Option Op
  | insert _ => none
  | get key => some ⟨.get, key, none⟩
  | list .. => none
  | create o => o.key.toOption.map fun key => ⟨.create, key, none⟩
  | update o => o.key.toOption.map fun key => ⟨.update, key, none⟩
  | patch key _ => some ⟨.patch, key, none⟩
  | patchStatus key _ => some ⟨.patchStatus, key, none⟩
  | delete key p => some ⟨.delete, key, p⟩

/-- Whether a call is logged as a call of a verb on an object of a name. -/
def hits (verb : Verb) (name : String) (c : Call) : Bool :=
  c.record?.any fun op => op.verb == verb && op.key.name == name

/-- Makes calls in order, each on the cluster the one before left, whatever it answered. -/
def runAll : List Call → Store → Store
  | [], s => s
  | c :: rest, s => runAll rest (endState (c.run.run s))

/-- Each call is either logged first and then answered, or never logged and answered as a
whole: seeding, listing, and a create or an update whose object names no key. -/
theorem run_cases (c : Call) :
    (c.record? = none ∧ Answers c.run) ∨ ∃ op, c.record? = some op ∧ Logged op c.run := by
  -- One case per call: each is a chain of checks that the cluster answers.
  cases c with
  -- Seeding is never logged: it checks the key and stores the object.
  | insert o =>
    refine .inl ⟨rfl, Answers.map _ ?_⟩
    unfold seedObject
    exact Answers.ofExcept_bind _ fun key => putVersioned_answers key _
  | get key => exact .inr ⟨_, rfl, Logged.map _ (Logged.of_record fun _ => stored_answers key)⟩
  -- A listing only reads the store.
  | list group version kind ns selector =>
    exact .inl ⟨rfl, Answers.map _ (Answers.bind Keeps.get Keeps.get fun _ => Answers.pure _)⟩
  | create o =>
    -- An object that names no key is refused before its call is recorded.
    cases named : o.key with
    | error e =>
      refine .inl ⟨by simp [record?, named, Except.toOption], Answers.map _ ?_⟩
      unfold createObject
      simp only [named, StoreM.ofExcept]
      exact Answers.throw_bind _ _
    | ok k =>
      refine .inr ⟨⟨.create, k, none⟩, by simp [record?, named, Except.toOption], Logged.map _ ?_⟩
      unfold createObject
      simp only [named, StoreM.ofExcept, pure_bind]
      -- An existing key refuses the call; otherwise the object goes in with the next version.
      refine Logged.of_record fun _ => Answers.bind Keeps.get Keeps.get fun current => ?_
      split
      · exact Answers.throw_bind _ _
      · exact putVersioned_answers k _
  | update o =>
    cases named : o.key with
    | error e =>
      refine .inl ⟨by simp [record?, named, Except.toOption], Answers.map _ ?_⟩
      unfold updateObject
      simp only [named, StoreM.ofExcept]
      exact Answers.throw_bind _ _
    | ok k =>
      refine .inr ⟨⟨.update, k, none⟩, by simp [record?, named, Except.toOption], Logged.map _ ?_⟩
      unfold updateObject
      simp only [named, StoreM.ofExcept, pure_bind]
      -- A missing object or a stale version refuses the call; otherwise the object goes in.
      refine Logged.of_record fun _ => Answers.stored_bind k fun current => ?_
      split
      · exact Answers.throw_bind _ _
      · exact putVersioned_answers k _
  -- A patch reads the object, applies the patch and stores it with the next version.
  | patch key p =>
    exact .inr ⟨_, rfl, Logged.map _ (Logged.of_record fun _ => Answers.stored_bind key fun _ =>
      Answers.ofExcept_bind _ fun _ => putVersioned_answers key _)⟩
  | patchStatus key p =>
    exact .inr ⟨_, rfl, Logged.map _ (Logged.of_record fun _ => Answers.stored_bind key fun _ =>
      Answers.ofExcept_bind _ fun _ => putVersioned_answers key _)⟩
  -- A delete removes the object it finds, and refuses a missing one.
  | delete key p =>
    exact .inr ⟨_, rfl, Logged.map _ (Logged.of_record fun _ => Answers.bind Keeps.get Keeps.get fun _ =>
      Answers.ite (remove_answers key) (Answers.throw _))⟩

/-- Every call to the API but a listing is logged, once, whatever it answers; seeding and
listing are not. -/
theorem ops_run (c : Call) (s : Store) : (endState (c.run.run s)).ops = s.ops ++ c.record?.toList := by
  -- An unlogged call keeps the log; a logged one adds its record.
  rcases c.run_cases with ⟨unlogged, answers⟩ | ⟨op, logged, calls⟩
  · rw [unlogged, Option.toList_none, List.append_nil]
    exact (answers.book s).1
  · rw [logged, Option.toList_some]
    exact calls.ops s

/-- A call that fails changes no object and hands out no version, whatever made it fail. -/
theorem run_aborts (c : Call) : Aborts Store.SameData c.run := by
  rcases c.run_cases with ⟨-, answers⟩ | ⟨op, -, calls⟩
  · exact answers.atomic
  · exact calls.atomic

/-- A logged call that meets a failure fails with it before it is answered, using up one of its
calls. -/
theorem run_injected (c : Call) {op : Op} (logged : c.record? = some op) {s : Store} {i : Nat}
    {f : Injected} (found : findFailure s.failures op.verb op.key.name = some (i, f)) :
    c.run.run s = .error (f.failure.toError op.key.name)
      { s.log op with failures := s.failures.set i { f with remaining := f.remaining.map (· - 1) } } := by
  -- A call with a record is a logged one, and its record is the one given.
  rcases c.run_cases with ⟨unlogged, -⟩ | ⟨op', logged', calls⟩
  · rw [logged] at unlogged
    cases unlogged
  · rw [logged, Option.some.injEq] at logged'
    subst logged'
    exact calls.injected s i f found

/-- A call that meets no failure leaves the failures to inject as they were. -/
theorem failures_run (c : Call) {s : Store}
    (free : ∀ op, c.record? = some op → findFailure s.failures op.verb op.key.name = none) :
    (endState (c.run.run s)).failures = s.failures := by
  rcases c.run_cases with ⟨-, answers⟩ | ⟨op, logged, calls⟩
  · exact (answers.book s).2
  · exact calls.free s (free op logged)

end Call

/-! The failure a call meets. -/

namespace Injected

/-- A failure told fires on a call of a verb on a name: it was told for them and has calls
left. -/
def Fires (verb : Verb) (name : String) (f : Injected) : Prop :=
  f.verb = verb ∧ f.name = name ∧ f.remaining ≠ some 0

/-- The failure at position `i` of those told is the first to fire on a call of a verb on a
name. -/
def FiresFirst (fs : List Injected) (verb : Verb) (name : String) (i : Nat) (f : Injected) : Prop :=
  fs[i]? = some f ∧ f.Fires verb name ∧ ∀ j < i, ∀ g, fs[j]? = some g → ¬ g.Fires verb name

variable {verb : Verb} {name : String} {f g : Injected} {rest : List Injected}

theorem fires_iff : (f.verb == verb && f.name == name && f.remaining != some 0) = true ↔ f.Fires verb name := by
  simp [Fires, and_assoc]

theorem firesFirst_cons_zero : FiresFirst (g :: rest) verb name 0 f ↔ g = f ∧ g.Fires verb name := by
  constructor
  · rintro ⟨held, fires, -⟩
    simp only [List.getElem?_cons_zero, Option.some.injEq] at held
    exact ⟨held, held ▸ fires⟩
  · rintro ⟨rfl, fires⟩
    exact ⟨rfl, fires, fun j below => absurd below (Nat.not_lt_zero j)⟩

theorem firesFirst_cons_succ {k : Nat} :
    FiresFirst (g :: rest) verb name (k + 1) f ↔ ¬ g.Fires verb name ∧ FiresFirst rest verb name k f := by
  constructor
  · rintro ⟨held, fires, before⟩
    exact ⟨before 0 (by omega) g rfl, by simpa using held, fires,
      fun j below h held' => before (j + 1) (by omega) h (by simpa using held')⟩
  · rintro ⟨quiet, held, fires, before⟩
    refine ⟨by simpa using held, fires, fun j below h held' => ?_⟩
    -- Before position k + 1 lie the head, which does not fire, and the tail's positions.
    cases j with
    | zero =>
      simp only [List.getElem?_cons_zero, Option.some.injEq] at held'
      exact held' ▸ quiet
    | succ j => exact before j (by omega) h (by simpa using held')

end Injected

/-- The search from position `j` finds the first failure to fire, counted from `j`. -/
theorem findFailure_go_eq_some_iff {verb : Verb} {name : String} {i : Nat} {f : Injected} :
    ∀ (fs : List Injected) (j : Nat),
      findFailure.go verb name j fs = some (i, f) ↔ j ≤ i ∧ Injected.FiresFirst fs verb name (i - j) f
  | [], j => by simp [findFailure.go, Injected.FiresFirst]
  | g :: rest, j => by
    simp only [findFailure.go]
    split
    · -- The search stops at `g`, which fires.
      rename_i fires
      rw [Injected.fires_iff] at fires
      constructor
      · intro found
        simp only [Option.some.injEq, Prod.mk.injEq] at found
        obtain ⟨rfl, rfl⟩ := found
        simp [Injected.firesFirst_cons_zero, fires]
      · rintro ⟨le, first⟩
        -- Since g fires, no failure after it can be the first to fire.
        cases gap : i - j with
        | zero =>
          rw [gap, Injected.firesFirst_cons_zero] at first
          obtain ⟨rfl, -⟩ := first
          simp only [Option.some.injEq, Prod.mk.injEq, and_true]
          omega
        | succ k =>
          rw [gap, Injected.firesFirst_cons_succ] at first
          exact absurd fires first.1
    · -- The search passes over `g`, which does not fire.
      rename_i quiet
      rw [Injected.fires_iff] at quiet
      rw [findFailure_go_eq_some_iff rest (j + 1)]
      constructor
      · rintro ⟨le, first⟩
        refine ⟨by omega, ?_⟩
        rw [show i - j = i - (j + 1) + 1 by omega, Injected.firesFirst_cons_succ]
        exact ⟨quiet, first⟩
      · rintro ⟨le, first⟩
        -- Since g does not fire, the first failure to fire lies after it.
        cases gap : i - j with
        | zero =>
          rw [gap, Injected.firesFirst_cons_zero] at first
          exact absurd first.2 quiet
        | succ k =>
          rw [gap, Injected.firesFirst_cons_succ] at first
          exact ⟨by omega, by rw [show i - (j + 1) = k by omega]; exact first.2⟩

/-- The failure a call meets is the first told for its verb and name that has calls left. -/
theorem findFailure_eq_some_iff {fs : List Injected} {verb : Verb} {name : String} {i : Nat}
    {f : Injected} : findFailure fs verb name = some (i, f) ↔ Injected.FiresFirst fs verb name i f := by
  exact (findFailure_go_eq_some_iff fs 0).trans (by simp)

/-- A call meets no failure exactly when none told for its verb and name has calls left. -/
theorem findFailure_eq_none_iff {verb : Verb} {name : String} :
    ∀ (fs : List Injected), findFailure fs verb name = none ↔ ∀ f ∈ fs, ¬ f.Fires verb name := by
  -- The search starts at position 0; the induction needs any start.
  suffices walk : ∀ (fs : List Injected) (j : Nat),
      findFailure.go verb name j fs = none ↔ ∀ f ∈ fs, ¬ f.Fires verb name from fun fs => walk fs 0
  intro fs
  induction fs with
  | nil => simp [findFailure.go]
  | cons g rest ih =>
    intro j
    simp only [findFailure.go, List.mem_cons, forall_eq_or_imp]
    -- The search stops at a failure that fires, and passes over one that does not.
    split
    · rename_i fires
      rw [Injected.fires_iff] at fires
      simp [fires]
    · rename_i quiet
      rw [Injected.fires_iff] at quiet
      simp [quiet, ih (j + 1)]

/-! The failures told for one verb and name, as budgets of calls. -/

/-- The failures told for calls of a verb on objects of a name, in the order they were told,
each with the calls it has left (none: every call). -/
def failureBudgets (verb : Verb) (name : String) (fs : List Injected) : List (Failure × Option Nat) :=
  (fs.filter fun f => f.verb == verb && f.name == name).map fun f => (f.failure, f.remaining)

/-- The failure the next call meets: the first with calls left. -/
def nextFailure : List (Failure × Option Nat) → Option Failure
  | [] => none
  | (f, t) :: rest => if t = some 0 then nextFailure rest else some f

/-- The budgets after one more call: the first with calls left gives one up. -/
def spendOne : List (Failure × Option Nat) → List (Failure × Option Nat)
  | [] => []
  | (f, t) :: rest => if t = some 0 then (f, t) :: spendOne rest else (f, t.map (· - 1)) :: rest

/-- The failure the `k`-th call, counted from 1, meets: the first whose budget, added to those
before it, covers `k`. A failure told for every call takes every call that reaches it. -/
def scheduledFailure : List (Failure × Option Nat) → Nat → Option Failure
  | [], _ => none
  | (f, none) :: _, _ => some f
  | (f, some t) :: rest, k => if k ≤ t then some f else scheduledFailure rest (k - t)

theorem failureBudgets_cons (verb : Verb) (name : String) (g : Injected) (rest : List Injected) :
    failureBudgets verb name (g :: rest) =
      if g.verb = verb ∧ g.name = name then (g.failure, g.remaining) :: failureBudgets verb name rest
      else failureBudgets verb name rest := by
  by_cases told : g.verb = verb ∧ g.name = name <;> simp [failureBudgets, told]

section Budgets

variable (f : Failure) (rest : List (Failure × Option Nat))

@[simp] theorem spendOne_iterate_nil (n : Nat) : spendOne^[n] [] = [] := by
  induction n with
  | zero => rfl
  | succ n ih => rw [Function.iterate_succ_apply', ih]; rfl

/-- A failure told for every call is never spent. -/
theorem spendOne_iterate_unbounded (n : Nat) : spendOne^[n] ((f, none) :: rest) = (f, none) :: rest := by
  induction n with
  | zero => rfl
  | succ n ih => rw [Function.iterate_succ_apply', ih]; simp [spendOne]

/-- A budget of `t` calls takes the first `t` calls; the calls after them go on to the budgets
after it. -/
theorem spendOne_iterate_bounded (t n : Nat) :
    spendOne^[n] ((f, some t) :: rest) = (f, some (t - n)) :: spendOne^[n - t] rest := by
  induction n with
  | zero => simp
  | succ n ih =>
    rw [Function.iterate_succ_apply', ih]
    -- Once the budget is spent, the calls go on to the budgets after it.
    by_cases spent : t ≤ n
    · rw [show t - n = 0 by omega, show t - (n + 1) = 0 by omega, show n + 1 - t = n - t + 1 by omega,
        Function.iterate_succ_apply']
      simp [spendOne]
    · rw [show n - t = 0 by omega, show n + 1 - t = 0 by omega, show t - (n + 1) = t - n - 1 by omega]
      simp [spendOne, show t - n ≠ 0 by omega]

end Budgets

/-- The call after `n` calls meets the failure the schedule gives the `n + 1`-th. -/
theorem nextFailure_spendOne_iterate (B : List (Failure × Option Nat)) (n : Nat) :
    nextFailure (spendOne^[n] B) = scheduledFailure B (n + 1) := by
  induction B generalizing n with
  | nil => simp [nextFailure, scheduledFailure]
  | cons b rest ih =>
    obtain ⟨f, t⟩ := b
    -- A failure told for every call ends the schedule; a budget takes its calls first.
    cases t with
    | none => simp [spendOne_iterate_unbounded, nextFailure, scheduledFailure]
    | some t =>
      rw [spendOne_iterate_bounded]
      by_cases within : n + 1 ≤ t
      -- Within the budget, the call meets this failure.
      · simp [nextFailure, scheduledFailure, within, show t - n ≠ 0 by omega]
      · -- The budget is spent, so the call goes on to the budgets after it.
        simp only [nextFailure, scheduledFailure, within, show t - n = 0 by omega, if_true, if_false, ih]
        congr 1
        omega

example : scheduledFailure [(.conflict, some 2), (.gone, some 0), (.server, none)] 3 = some .server := by
  decide

/-- Budgets all spent stay as they are. -/
theorem spendOne_of_nextFailure_none : ∀ {B : List (Failure × Option Nat)}, nextFailure B = none → spendOne B = B
  | [], _ => rfl
  | (f, t) :: rest, quiet => by
    -- No failure comes next only when every budget is spent.
    unfold nextFailure at quiet
    split at quiet
    · rename_i spent
      simp [spendOne, spent, spendOne_of_nextFailure_none quiet]
    · cases quiet

/-- The failure a call meets is the next of the budgets of its verb and name. -/
theorem findFailure_failure (fs : List Injected) (verb : Verb) (name : String) :
    (findFailure fs verb name).map (·.2.failure) = nextFailure (failureBudgets verb name fs) := by
  -- The position the search starts from plays no part in the failure it finds.
  suffices walk : ∀ j, (findFailure.go verb name j fs).map (·.2.failure) =
      nextFailure (failureBudgets verb name fs) from walk 0
  induction fs with
  | nil => intro j; rfl
  | cons g rest ih =>
    intro j
    rw [failureBudgets_cons]
    simp only [findFailure.go]
    -- A failure told for another verb or name is skipped by the search and the budgets alike.
    by_cases told : g.verb = verb ∧ g.name = name
    · rw [if_pos told]
      by_cases spent : g.remaining = some 0
      · -- A spent failure is passed over by the search and by the budgets alike.
        have quiet : ¬ g.Fires verb name := fun fires => fires.2.2 spent
        rw [if_neg (by rwa [Injected.fires_iff]), ih (j + 1)]
        simp [nextFailure, spent]
      -- A live failure told for them stops the search and is the next of their budgets.
      · have fires : g.Fires verb name := ⟨told.1, told.2, spent⟩
        rw [if_pos (Injected.fires_iff.mpr fires)]
        simp [nextFailure, spent]
    · have quiet : ¬ g.Fires verb name := fun fires => told ⟨fires.1, fires.2.1⟩
      rw [if_neg told, if_neg (by rwa [Injected.fires_iff]), ih (j + 1)]

/-- A call that meets a failure uses up one call of the budgets of its verb and name. -/
theorem failureBudgets_spent {fs : List Injected} {verb : Verb} {name : String} {i : Nat} {f : Injected}
    (found : findFailure fs verb name = some (i, f)) :
    failureBudgets verb name (fs.set i { f with remaining := f.remaining.map (· - 1) }) =
      spendOne (failureBudgets verb name fs) := by
  -- Read the failure found as the first to fire, position by position.
  rw [findFailure_eq_some_iff] at found
  induction fs generalizing i with
  | nil => simp [Injected.FiresFirst] at found
  | cons g rest ih =>
    -- The failure spent is the head, or lies further along.
    cases i with
    | zero =>
      obtain ⟨rfl, told, toldName, live⟩ := Injected.firesFirst_cons_zero.mp found
      simp [failureBudgets_cons, told, toldName, spendOne, live]
    | succ k =>
      obtain ⟨quiet, first⟩ := Injected.firesFirst_cons_succ.mp found
      rw [List.set_cons_succ, failureBudgets_cons, failureBudgets_cons, ih first]
      by_cases told : g.verb = verb ∧ g.name = name
      · -- The failure before is told for them but spent, so the call passed over it.
        have spent : g.remaining = some 0 := by
          by_contra live
          exact quiet ⟨told.1, told.2, live⟩
        simp [told, spendOne, spent]
      · simp [told]

/-- A failure used up by a call of another verb or name leaves the budgets of these as they
were. -/
theorem failureBudgets_set_other {fs : List Injected} {verb : Verb} {name : String} {i : Nat}
    {f g : Injected} (held : fs[i]? = some f) (other : ¬ (f.verb = verb ∧ f.name = name))
    (sameVerb : g.verb = f.verb) (sameName : g.name = f.name) :
    failureBudgets verb name (fs.set i g) = failureBudgets verb name fs := by
  -- Walk to position i; the failure set there counts for neither budget.
  induction fs generalizing i with
  | nil => simp at held
  | cons h rest ih =>
    cases i with
    | zero =>
      simp only [List.getElem?_cons_zero, Option.some.injEq] at held
      subst held
      rw [List.set_cons_zero, failureBudgets_cons, failureBudgets_cons, if_neg (by rwa [sameVerb, sameName]),
        if_neg other]
    | succ k =>
      rw [List.set_cons_succ, failureBudgets_cons, failureBudgets_cons, ih (by simpa using held)]

namespace Call

/-- A logged call is a call of a verb on a name exactly when its record names them. -/
theorem hits_iff (c : Call) (verb : Verb) (name : String) {op : Op} (logged : c.record? = some op) :
    c.hits verb name = true ↔ op.verb = verb ∧ op.key.name = name := by
  simp [hits, logged]

/-- One call spends one call of the budgets of its own verb and name, and leaves all others. -/
theorem failureBudgets_run (c : Call) (verb : Verb) (name : String) (s : Store) :
    failureBudgets verb name (endState (c.run.run s)).failures =
      if c.hits verb name then spendOne (failureBudgets verb name s.failures)
      else failureBudgets verb name s.failures := by
  -- An unlogged call meets no failure and spends none.
  cases logged : c.record? with
  | none =>
    rw [c.failures_run fun op same => by rw [logged] at same; cases same]
    simp [hits, logged]
  | some op =>
    -- A logged call meets a failure or goes through.
    cases found : findFailure s.failures op.verb op.key.name with
    | none =>
      rw [c.failures_run fun op' same => by rw [logged, Option.some.injEq] at same; subst same; exact found]
      split
      · -- A call of them that meets no failure finds their budgets all spent.
        rename_i hit
        obtain ⟨rfl, rfl⟩ := (c.hits_iff verb name logged).mp hit
        have next := findFailure_failure s.failures op.verb op.key.name
        rw [found, Option.map_none] at next
        exact (spendOne_of_nextFailure_none next.symm).symm
      · rfl
    | some hit =>
      obtain ⟨i, f⟩ := hit
      rw [c.run_injected logged found, endState_error]
      split
      -- A call of them spends the failure it met, the first of their budgets to fire.
      · rename_i hit
        obtain ⟨rfl, rfl⟩ := (c.hits_iff verb name logged).mp hit
        exact failureBudgets_spent found
      · -- The failure used up is told for the call's own verb and name, which are others.
        rename_i missed
        obtain ⟨-, sameVerb, sameName⟩ := findFailure_mem found
        refine failureBudgets_set_other (findFailure_eq_some_iff.mp found).1 ?_ rfl rfl
        rw [sameVerb, sameName]
        exact fun same => missed ((c.hits_iff verb name logged).mpr same)

/-- Over a run of calls, the budgets of a verb and name spend one call for each call of them. -/
theorem failureBudgets_runAll (verb : Verb) (name : String) :
    ∀ (cs : List Call) (s : Store),
      failureBudgets verb name (runAll cs s).failures =
        spendOne^[(cs.filter (hits verb name)).length] (failureBudgets verb name s.failures)
  | [], s => rfl
  | c :: rest, s => by
    -- The calls after the first spend the budgets the first left.
    rw [runAll, failureBudgets_runAll verb name rest, failureBudgets_run]
    by_cases hit : c.hits verb name
    · simp [hit, Function.iterate_succ_apply]
    · simp [hit]

/-- The failures told before a run of calls are met on schedule: after `n` calls of a verb on a
name, the next call of them fails with the failure that the schedule gives the `n + 1`-th call,
and when it gives none, nothing is injected into the call. -/
theorem run_scheduled (c : Call) {op : Op} (logged : c.record? = some op) (cs : List Call) (s : Store) :
    (∀ f, scheduledFailure (failureBudgets op.verb op.key.name s.failures)
        ((cs.filter (hits op.verb op.key.name)).length + 1) = some f →
      ∃ s', c.run.run (runAll cs s) = .error (f.toError op.key.name) s') ∧
    (scheduledFailure (failureBudgets op.verb op.key.name s.failures)
        ((cs.filter (hits op.verb op.key.name)).length + 1) = none →
      (record op.verb op.key op.propagation).run (runAll cs s) = .ok () ((runAll cs s).log op)) := by
  -- The next call meets the next of the budgets the earlier calls left.
  have met := findFailure_failure (runAll cs s).failures op.verb op.key.name
  rw [failureBudgets_runAll, nextFailure_spendOne_iterate] at met
  constructor
  -- A failure scheduled is the one the call meets, so the call fails with it.
  · intro f scheduled
    rw [scheduled, Option.map_eq_some_iff] at met
    obtain ⟨⟨i, g⟩, found, rfl⟩ := met
    exact ⟨_, c.run_injected logged found⟩
  -- No failure is scheduled, so the record goes through.
  · intro scheduled
    rw [scheduled, Option.map_eq_none_iff] at met
    rw [record_run, met]

end Call

/-! The cluster's own log and failures. -/

/-- The in-memory cluster logs and fails calls as it is told: the `n + 1`-th call of a verb on a
name meets what the schedule of their budgets gives it, and a call that fails changes nothing. -/
theorem injected_failures_on_schedule :
    (∀ (c : Call) (s : Store), (endState (c.run.run s)).ops = s.ops ++ c.record?.toList) ∧
    (∀ (group version kind : String) (ns selector : Option String) (s : Store),
      ∃ os, (listObjects group version kind ns selector).run s = .ok os s) ∧
    (∀ (c : Call) (op : Op) (s : Store) (i : Nat) (f : Injected), c.record? = some op →
      Injected.FiresFirst s.failures op.verb op.key.name i f →
      c.run.run s = .error (f.failure.toError op.key.name)
        { s.log op with failures := s.failures.set i { f with remaining := f.remaining.map (· - 1) } }) ∧
    (∀ (c : Call) (s : Store),
      (∀ op, c.record? = some op → ∀ f ∈ s.failures, ¬ f.Fires op.verb op.key.name) →
      (endState (c.run.run s)).failures = s.failures) ∧
    (∀ (c : Call) (op : Op) (cs : List Call) (s : Store), c.record? = some op →
      (∀ f, scheduledFailure (failureBudgets op.verb op.key.name s.failures)
          ((cs.filter (Call.hits op.verb op.key.name)).length + 1) = some f →
        ∃ s', c.run.run (Call.runAll cs s) = .error (f.toError op.key.name) s') ∧
      (scheduledFailure (failureBudgets op.verb op.key.name s.failures)
          ((cs.filter (Call.hits op.verb op.key.name)).length + 1) = none →
        (record op.verb op.key op.propagation).run (Call.runAll cs s) =
          .ok () ((Call.runAll cs s).log op))) ∧
    ∀ (c : Call) (s s' : Store) (e : Error), c.run.run s = .error e s' →
      s'.objects = s.objects ∧ s'.version = s.version :=
  ⟨Call.ops_run, fun _ _ _ _ _ _ => ⟨_, rfl⟩,
    fun c _ _ _ _ logged first => c.run_injected logged (findFailure_eq_some_iff.mpr first),
    fun c _ free => c.failures_run fun op logged => (findFailure_eq_none_iff _).mpr (free op logged),
    fun c _ cs s logged => c.run_scheduled logged cs s,
    fun c s s' e failed => c.run_aborts s e s' failed⟩

/-- A cluster told to fail reads of objects named `x`: with a conflict once, then with a server
failure every time. -/
def twiceToldStore : Store :=
  { failures := [⟨.get, "x", .conflict, some 1⟩, ⟨.get, "x", .server, none⟩] }

/-- The key of the ConfigMap `x` of istio-system. -/
def xMapKey : ResourceKey := ⟨"", "v1", "ConfigMap", "istio-system", "x"⟩

/-- The first read of `x` meets the conflict and uses up its one call; the second meets the
server failure. -/
theorem reads_of_x_fail_on_schedule :
    Injected.FiresFirst twiceToldStore.failures .get "x" 0 ⟨.get, "x", .conflict, some 1⟩ ∧
      (Call.get xMapKey).run.run twiceToldStore =
        .error (Failure.conflict.toError "x")
          { twiceToldStore.log ⟨.get, xMapKey, none⟩ with
            failures := twiceToldStore.failures.set 0 ⟨.get, "x", .conflict, some 0⟩ } ∧
      scheduledFailure (failureBudgets .get "x" twiceToldStore.failures)
        (([Call.get xMapKey].filter (Call.hits .get "x")).length + 1) = some .server ∧
      ∃ s', (Call.get xMapKey).run.run (Call.runAll [Call.get xMapKey] twiceToldStore) =
        .error (Failure.server.toError "x") s' := by
  -- The conflict is the first failure told, with one call left.
  have first : Injected.FiresFirst twiceToldStore.failures .get "x" 0 ⟨.get, "x", .conflict, some 1⟩ :=
    ⟨rfl, ⟨rfl, rfl, by decide⟩, fun j below => absurd below (Nat.not_lt_zero j)⟩
  -- After one read has used it up, the second read meets the server failure.
  have second : scheduledFailure (failureBudgets .get "x" twiceToldStore.failures)
      (([Call.get xMapKey].filter (Call.hits .get "x")).length + 1) = some .server := by decide
  have schedule := injected_failures_on_schedule
  exact ⟨first, schedule.2.2.1 (Call.get xMapKey) ⟨.get, xMapKey, none⟩ twiceToldStore 0 _ rfl first, second,
    (schedule.2.2.2.2.1 (Call.get xMapKey) ⟨.get, xMapKey, none⟩ [Call.get xMapKey] twiceToldStore rfl).1 _ second⟩

/-- A ConfigMap with a namespace and no name. -/
def namelessConfigMap : Object :=
  { types := some ⟨"v1", "ConfigMap"⟩, metadata := { ns := some "istio-system" } }

/-- An update whose object names no key is refused before it is logged: the log stays empty. -/
theorem update_of_nameless_unlogged :
    (updateObject namelessConfigMap).run {} = .error (.manifest "ConfigMap object has no metadata.name") {} :=
  updateObject_unnamed rfl {}

end MeshControl
