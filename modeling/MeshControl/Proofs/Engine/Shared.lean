import MeshControl.Proofs.Engine.Grants
import Mathlib.Data.List.Chain
import Mathlib.Logic.Relation

/-! A cluster shared with other clients, who may update objects between the operator's calls: a
computation on it is a relation, and the operator's own runs are among its shared ones. -/

namespace MeshControl

namespace Store

/-- One update by another client, naming the version it read the object at, which the cluster
took. The cluster's log records the operator's own calls only. -/
def OtherUpdate (s s' : Store) : Prop :=
  ∃ o u t, o.metadata.resourceVersion.isSome = true ∧ (updateObject o).run s = .ok u t ∧
    s' = { t with ops := s.ops }

/-- Every stored object carries a version the counter has handed out, as every write of the
cluster stamps one. -/
def Versioned (s : Store) : Prop := ∀ k o, s.lookup k = some o → o.Issued s.version

/-- From `s` to `s'` the counter went no lower, and each object stored in `s'` is the one `s`
stored under its key or carries a version handed out after `s`. -/
def Since (s s' : Store) : Prop :=
  s.version ≤ s'.version ∧ ∀ k o, s'.lookup k = some o → s.lookup k = some o ∨ ¬ o.Issued s.version

/-- What every write of the cluster keeps from `s` to `s'`. -/
structure Advances (s s' : Store) : Prop where
  since : s.Since s'
  versioned : s.Versioned → s'.Versioned
  keyed : s.WellKeyed → s'.WellKeyed

theorem Since.refl (s : Store) : s.Since s := ⟨le_refl _, fun _ _ held => .inl held⟩

theorem Since.trans {s₁ s₂ s₃ : Store} (first : s₁.Since s₂) (second : s₂.Since s₃) : s₁.Since s₃ := by
  refine ⟨first.1.trans second.1, fun k o held => ?_⟩
  -- An object of s₃ is one s₂ held, so old or fresh since s₁, or fresh since s₂.
  rcases second.2 k o held with earlier | fresh
  · exact first.2 k o earlier
  · exact .inr fun issued => fresh (issued.mono first.1)

/-- No lost update: an object stored since `s` at the version of the object `s` stored under
its key is that object. -/
theorem Since.eq_of_version {s s' : Store} (since : s.Since s') (versioned : s.Versioned) {k : ResourceKey}
    {o o' : Object} (held : s.lookup k = some o) (held' : s'.lookup k = some o')
    (same : o'.metadata.resourceVersion = o.metadata.resourceVersion) : o' = o := by
  -- The object is the one s held, or carries a version handed out since, which o's is not.
  rcases since.2 k o' held' with earlier | fresh
  · rw [held] at earlier
    exact (Option.some.inj earlier).symm
  · obtain ⟨n, below, carried⟩ := versioned k o held
    exact absurd ⟨n, below, same.trans carried⟩ fresh

theorem Advances.refl (s : Store) : s.Advances s := ⟨Since.refl s, id, id⟩

theorem Advances.trans {s₁ s₂ s₃ : Store} (first : s₁.Advances s₂) (second : s₂.Advances s₃) :
    s₁.Advances s₃ :=
  ⟨first.since.trans second.since, second.versioned ∘ first.versioned, second.keyed ∘ first.keyed⟩

/-- A step that keeps the objects and the counter keeps everything. -/
theorem Advances.of_data {s s' : Store} (objects : s'.objects = s.objects) (version : s'.version = s.version) :
    s.Advances s' := by
  have same : ∀ k, s'.lookup k = s.lookup k := fun k => by simp only [lookup, objects]
  refine ⟨⟨version.ge, fun k o held => .inl ((same k).symm.trans held)⟩, fun versioned k o held => ?_,
    fun keyed k o held => keyed k o ((same k).symm.trans held)⟩
  rw [version]
  exact versioned k o ((same k).symm.trans held)

end Store

/-- An update the cluster took named a key. -/
theorem updateObject_named {o u : Object} {s s' : Store} (ran : (updateObject o).run s = .ok u s') :
    ∃ k, o.key = .ok k := by
  cases named : o.key with
  | ok k => exact ⟨k, rfl⟩
  | error e =>
    rw [updateObject_unnamed named] at ran
    cases ran

/-- An update that returns stores the object it was given, with the stored object's uid, a
generation and the version it hands out. -/
theorem updateObject_stored {o u : Object} {k : ResourceKey} {s s' : Store} (named : o.key = .ok k)
    (ran : (updateObject o).run s = .ok u s') {current : Object} (held : s.lookup k = some current) :
    ∃ g, u = o.withMeta fun m => { m with
      generation := g, uid := current.metadata.uid, resourceVersion := some (toString (s.version + 1)) } := by
  obtain ⟨current', held', -, rfl, -⟩ := updateObject_run_eq named ran
  rw [held, Option.some.injEq] at held'
  subst held'
  exact ⟨_, rfl⟩

/-- An update the cluster took advances it: only its own object changed, under the version just
handed out. -/
theorem updateObject_advances {o u : Object} {s s' : Store} (ran : (updateObject o).run s = .ok u s') :
    s.Advances s' := by
  obtain ⟨k, named⟩ := updateObject_named ran
  -- The update stored u under k alone, with the next version.
  obtain ⟨current, -, -, -, keyedU, version, stored, counter, others⟩ := updateObject_run_ok named ran
  have fresh : ¬ u.Issued s.version := fun issued => issued.ne_next version
  refine ⟨⟨by omega, fun k' o held => ?_⟩, fun versioned k' o held => ?_, fun keyed k' o held => ?_⟩
  -- Only the updated key holds something new.
  · by_cases same : k' = k
    · subst same
      rw [stored, Option.some.injEq] at held
      exact .inr (held ▸ fresh)
    · exact .inl ((others k' same).symm.trans held)
  -- u carries the counter just reached; the others carry older versions.
  · rw [counter]
    by_cases same : k' = k
    · subst same
      rw [stored, Option.some.injEq] at held
      exact held ▸ ⟨s.version + 1, le_refl _, version⟩
    · exact (versioned k' o ((others k' same).symm.trans held)).mono (by omega)
  -- u is keyed under its own key, and the others keep theirs.
  · by_cases same : k' = k
    · subst same
      rw [stored, Option.some.injEq] at held
      exact held ▸ keyedU
    · exact keyed k' o ((others k' same).symm.trans held)

/-- An update advances the cluster whatever it answers: a refused one changes nothing. -/
theorem updateObject_advances_any (o : Object) (s : Store) : s.Advances (endState ((updateObject o).run s)) := by
  -- A refused update leaves the objects and the counter.
  cases ran : (updateObject o).run s with
  | ok u s' => exact updateObject_advances ran
  | error e s' =>
    obtain ⟨objects, version⟩ := updateObject_data_of_error ran
    exact Store.Advances.of_data objects version

/-- A read changes nothing it advances. -/
theorem getObject_advances (key : ResourceKey) (s : Store) : s.Advances (endState ((getObject key).run s)) :=
  Store.Advances.of_data (getObject_data key s).1 (getObject_data key s).2

/-- A read logs itself, whatever the cluster answers. -/
theorem getObject_ops (key : ResourceKey) (s : Store) :
    (endState ((getObject key).run s)).ops = s.ops ++ [⟨.get, key, none⟩] := by
  unfold getObject
  rw [EStateM.run_bind, record_run]
  -- A failure met ends the read at its record; otherwise the lookup changes nothing.
  cases findFailure s.failures .get key.name with
  | some hit => rfl
  | none =>
    dsimp only
    rw [stored_run]
    cases (s.log ⟨.get, key, none⟩).lookup key <;> rfl

/-- Other clients' updates advance the cluster and leave its log as it was. -/
theorem Store.advances_of_others {s s' : Store} (others : Relation.ReflTransGen Store.OtherUpdate s s') :
    s.Advances s' ∧ s'.ops = s.ops := by
  -- One update at a time: each is an update the cluster took, with the log put back.
  induction others with
  | refl => exact ⟨Store.Advances.refl s, rfl⟩
  | tail _ wrote ih =>
    obtain ⟨o, u, t, -, ran, rfl⟩ := wrote
    exact ⟨ih.1.trans ((updateObject_advances ran).trans (Store.Advances.of_data rfl rfl)), ih.2⟩

/-- A computation on a world whose cluster other clients also write: from a world, the clusters
its cluster calls found, in order, and a result it may reach. -/
def Shared (α : Type) : Type := World → List Store → EStateM.Result Error World α → Prop

namespace Shared

instance : Monad Shared where
  pure a w found r := found = [] ∧ r = .ok a w
  bind x f w found r :=
    (∃ a w₁ found₁ found₂, x w found₁ (.ok a w₁) ∧ f a w₁ found₂ r ∧ found = found₁ ++ found₂) ∨
      ∃ e w₁, x w found (.error e w₁) ∧ r = .error e w₁

instance : MonadExceptOf Error Shared where
  throw e w found r := found = [] ∧ r = .error e w
  tryCatch x handle w found r :=
    (∃ a w₁, x w found (.ok a w₁) ∧ r = .ok a w₁) ∨
      ∃ e w₁ found₁ found₂, x w found₁ (.error e w₁) ∧ handle e w₁ found₂ r ∧ found = found₁ ++ found₂

/-- A computation of the operator's own that makes no cluster call. -/
def lift (x : Engine α) : Shared α := fun w found r => found = [] ∧ r = x.run w

/-- Other clients' updates, then a computation of the operator's own on the cluster they left,
which it found. -/
def after (x : Engine α) : Shared α := fun w found r =>
  ∃ s, Relation.ReflTransGen Store.OtherUpdate w.store s ∧ found = [s] ∧ r = x.run { w with store := s }

/-- A cluster call amid other clients' updates. -/
def call (x : StoreM α) : Shared α := after (Engine.cluster x)

/-- A sleep, as the operator's own. -/
def sleep (ms : Nat) : Shared Unit := lift (Engine.sleep ms)

variable {α β : Type} {w : World} {found : List Store}

theorem bind_iff {x : Shared α} {f : α → Shared β} {r : EStateM.Result Error World β} :
    (x >>= f) w found r ↔
      (∃ a w₁ found₁ found₂, x w found₁ (.ok a w₁) ∧ f a w₁ found₂ r ∧ found = found₁ ++ found₂) ∨
        ∃ e w₁, x w found (.error e w₁) ∧ r = .error e w₁ := Iff.rfl

theorem tryCatch_iff {x : Shared α} {handle : Error → Shared α} {r : EStateM.Result Error World α} :
    (tryCatch x handle : Shared α) w found r ↔
      (∃ a w₁, x w found (.ok a w₁) ∧ r = .ok a w₁) ∨
        ∃ e w₁ found₁ found₂, x w found₁ (.error e w₁) ∧ handle e w₁ found₂ r ∧ found = found₁ ++ found₂ :=
  Iff.rfl

theorem discard_eq (x : Shared α) : discard x = (fun _ => PUnit.unit) <$> x := rfl

theorem map_iff {f : α → β} {x : Shared α} {r : EStateM.Result Error World β} :
    (f <$> x) w found r ↔
      (∃ a w₁, x w found (.ok a w₁) ∧ r = .ok (f a) w₁) ∨ ∃ e w₁, x w found (.error e w₁) ∧ r = .error e w₁ := by
  -- A map is a bind into a pure step, which finds no cluster.
  show (x >>= fun a => pure (f a)) w found r ↔ _
  rw [bind_iff]
  constructor
  · rintro (⟨a, w₁, found₁, found₂, ran, ⟨rfl, rfl⟩, rfl⟩ | failed)
    · exact .inl ⟨a, w₁, by simpa using ran, rfl⟩
    · exact .inr failed
  · rintro (⟨a, w₁, ran, rfl⟩ | failed)
    · exact .inl ⟨a, w₁, found, [], ran, ⟨rfl, rfl⟩, by simp⟩
    · exact .inr failed

/-- Mapping the result of a computation amid other clients' updates maps the computation. -/
theorem map_after (f : α → β) (x : Engine α) : f <$> after x = after (f <$> x) := by
  -- Both sides see the same other updates, then the same run.
  funext w found r
  apply propext
  rw [map_iff]
  constructor
  · rintro (⟨a, w₁, ⟨s, others, rfl, ran⟩, rfl⟩ | ⟨e, w₁, ⟨s, others, rfl, ran⟩, rfl⟩)
    · exact ⟨s, others, rfl, by rw [run_map, ← ran]⟩
    · exact ⟨s, others, rfl, by rw [run_map, ← ran]⟩
  · rintro ⟨s, others, rfl, ran⟩
    rw [run_map] at ran
    -- The mapped run returns or fails as the run does.
    cases got : x.run { w with store := s } with
    | ok a w₁ =>
      rw [got] at ran
      exact .inl ⟨a, w₁, ⟨s, others, rfl, got.symm⟩, ran⟩
    | error e w₁ =>
      rw [got] at ran
      exact .inr ⟨e, w₁, ⟨s, others, rfl, got.symm⟩, ran⟩

/-- A handler that makes no cluster call runs where the computation failed, so catching is the
operator's own. -/
theorem tryCatch_after (x : Engine α) (handle : Error → Engine α) :
    (tryCatch (after x) fun e => lift (handle e) : Shared α) = after (tryCatch x handle) := by
  -- The handler finds no cluster, so it runs inside the operator's own step.
  funext w found r
  apply propext
  rw [tryCatch_iff]
  constructor
  · rintro (⟨a, w₁, ⟨s, others, rfl, ran⟩, rfl⟩ | ⟨e, w₁, found₁, found₂, ⟨s, others, rfl, ran⟩, ⟨rfl, handled⟩, rfl⟩)
    · exact ⟨s, others, rfl, by rw [run_tryCatch, ← ran]⟩
    · exact ⟨s, others, rfl, by rw [run_tryCatch, ← ran]; exact handled⟩
  · rintro ⟨s, others, rfl, ran⟩
    rw [run_tryCatch] at ran
    -- A failed run is handled where it failed, and the handler finds nothing more.
    cases got : x.run { w with store := s } with
    | ok a w₁ =>
      rw [got] at ran
      exact .inl ⟨a, w₁, ⟨s, others, rfl, got.symm⟩, ran⟩
    | error e w₁ =>
      rw [got] at ran
      exact .inr ⟨e, w₁, [s], [], ⟨s, others, rfl, got.symm⟩, ⟨rfl, ran⟩, rfl⟩

/-! ## Retry loops, round by round -/

/-- One round of a retry loop on the shared cluster, as it went. -/
structure Round where
  /-- The world the round started in. -/
  start : World
  /-- The clusters its calls found, in order. -/
  found : List Store
  /-- How it ended. -/
  result : EStateM.Result Error World Unit

/-- A run of a retry loop split into its at most `left + 1` rounds: each but the last failed with
an error the loop retries, and the next started on the cluster it left. -/
structure Retried (retry : Error → Bool) (op : Shared Unit) (left : Nat) (w : World) (found : List Store)
    (r : EStateM.Result Error World Unit) (rounds : List Round) : Prop where
  first : rounds.head?.map Round.start = some w
  bounded : rounds.length ≤ left + 1
  runs : ∀ x ∈ rounds, op x.start x.found x.result
  retried : rounds.IsChain fun x y => ∃ e w₁, x.result = .error e w₁ ∧ retry e = true ∧ y.start.store = w₁.store
  calls : found = (rounds.map Round.found).flatten
  last : rounds.getLast?.map Round.result = some r
  exhausted : ∀ e w', r = .error e w' → retry e = true → rounds.length = left + 1

/-- A sleep returns, and keeps the cluster. -/
theorem sleep_result (ms : Nat) (w : World) :
    ∃ w', (Engine.sleep ms).run w = .ok () w' ∧ w'.store = w.store := by
  -- A sleep moves the clock, and may stop the world at its deadline; the cluster stays.
  refine ⟨_, rfl, ?_⟩
  dsimp only
  split
  · rfl
  · split
    · split <;> rfl
    · rfl

/-- Every run of a retry loop splits into its rounds; a property of clusters that each round
keeps holds where each round starts. -/
theorem retryWhile_go_retried {retry : Error → Bool} {c : RetryConfig} {op : Shared Unit} {P : Store → Prop}
    (keeps : ∀ w found r, P w.store → op w found r → P (endState r).store) (left : Nat) :
    ∀ {delay : Nat} {w : World} {found : List Store} {r : EStateM.Result Error World Unit}, P w.store →
      retryWhile.go retry c sleep op delay left w found r →
        ∃ rounds, Retried retry op left w found r rounds ∧ ∀ x ∈ rounds, P x.start.store := by
  -- The induction is on the retries left; each step peels off the loop's first round.
  induction left with
  | zero =>
    intro delay w found r holds ran
    -- With no retry left the loop is one round.
    rw [retryWhile.go] at ran
    exact ⟨[⟨w, found, r⟩], ⟨rfl, le_refl _, by simpa using ran, .singleton _, by simp, rfl,
      fun _ _ _ _ => rfl⟩, by simpa using holds⟩
  | succ left ih =>
    intro delay w found r holds ran
    rw [retryWhile.go, tryCatch_iff] at ran
    -- The round returned, ending the loop, or failed and was handled.
    rcases ran with ⟨a, w₁, ran, rfl⟩ | ⟨e, w₁, found₁, found₂, ran, handled, rfl⟩
    · exact ⟨[⟨w, found, .ok a w₁⟩], ⟨rfl, by simp, by simpa using ran, .singleton _, by simp, rfl,
        fun _ _ returned => by cases returned⟩, by simpa using holds⟩
    -- The sleep before a retry keeps the cluster the round left.
    obtain ⟨w₂, slept, same⟩ := sleep_result delay w₁
    split at handled
    · -- A retried error: a sleep, then the rest of the loop, from the cluster the round left.
      rename_i retried
      rw [bind_iff] at handled
      rcases handled with ⟨_, w₃, found₃, found₄, ⟨rfl, asleep⟩, rest, rfl⟩ | ⟨e', w₃, ⟨-, asleep⟩, -⟩
      · rw [slept] at asleep
        cases asleep
        -- The round kept P, so the next round starts where it holds.
        have holds₂ : P w₂.store := same ▸ keeps w found₁ (.error e w₁) holds ran
        obtain ⟨rounds, later, invariant⟩ := ih holds₂ rest
        -- The rest of the loop has a first round, which starts after the sleep.
        cases rounds with
        | nil => cases later.first
        | cons y ys =>
          have starts : y.start = w₂ := by simpa using later.first
          refine ⟨⟨w, found₁, .error e w₁⟩ :: y :: ys, ⟨rfl, ?_, ?_, ?_, ?_, ?_, ?_⟩, ?_⟩
          · simpa using later.bounded
          · intro x mem
            rcases List.mem_cons.mp mem with rfl | mem
            · exact ran
            · exact later.runs x mem
          · exact List.isChain_cons_cons.mpr ⟨⟨e, w₁, rfl, retried, by rw [starts, same]⟩, later.retried⟩
          · simp [later.calls]
          · simpa using later.last
          · intro e' w' failed again
            simpa using later.exhausted e' w' failed again
          · intro x mem
            rcases List.mem_cons.mp mem with rfl | mem
            · exact holds
            · exact invariant x mem
      -- A sleep never fails.
      · rw [slept] at asleep
        cases asleep
    · -- An error the loop does not retry ends it.
      obtain ⟨rfl, rfl⟩ := handled
      exact ⟨[⟨w, found₁, .error e w₁⟩], ⟨rfl, by simp, by simpa using ran, .singleton _, by simp, rfl,
        fun _ _ failed again => by cases failed; simp_all⟩, by simpa using holds⟩

/-! ## The operator's own runs -/

/-- With no other client writing, the shared computation `y` reaches every result the operator's
own computation `x` reaches. -/
def Covers (x : Engine α) (y : Shared α) : Prop := ∀ w, ∃ found, y w found (x.run w)

theorem Covers.pure (a : α) : Covers (Pure.pure a) (Pure.pure a) := fun _ => ⟨[], rfl, rfl⟩

theorem Covers.throw (e : Error) : Covers (MonadExcept.throw e : Engine α) (MonadExcept.throw e) :=
  fun _ => ⟨[], rfl, rfl⟩

theorem Covers.lift (x : Engine α) : Covers x (Shared.lift x) := fun _ => ⟨[], rfl, rfl⟩

theorem Covers.after (x : Engine α) : Covers x (Shared.after x) := fun w => ⟨[w.store], w.store, .refl, rfl, rfl⟩

theorem Covers.bind {x : Engine α} {y : Shared α} {f : α → Engine β} {g : α → Shared β} (first : Covers x y)
    (rest : ∀ a, Covers (f a) (g a)) : Covers (x >>= f) (y >>= g) := by
  intro w
  -- The operator's run of x is one of y's; go on from where it ended.
  obtain ⟨found₁, ran⟩ := first w
  rw [EStateM.run_bind]
  cases got : x.run w with
  | ok a w₁ =>
    rw [got] at ran
    obtain ⟨found₂, later⟩ := rest a w₁
    exact ⟨found₁ ++ found₂, .inl ⟨a, w₁, found₁, found₂, ran, later, rfl⟩⟩
  | error e w₁ =>
    rw [got] at ran
    exact ⟨found₁, .inr ⟨e, w₁, ran, rfl⟩⟩

theorem Covers.tryCatch {x : Engine α} {y : Shared α} {h : Error → Engine α} {k : Error → Shared α}
    (first : Covers x y) (handle : ∀ e, Covers (h e) (k e)) :
    Covers (MonadExcept.tryCatch x h) (MonadExcept.tryCatch y k) := by
  intro w
  obtain ⟨found₁, ran⟩ := first w
  rw [run_tryCatch]
  cases got : x.run w with
  | ok a w₁ =>
    rw [got] at ran
    exact ⟨found₁, .inl ⟨a, w₁, ran, rfl⟩⟩
  -- A failure is handled the same way on both sides.
  | error e w₁ =>
    rw [got] at ran
    obtain ⟨found₂, handled⟩ := handle e w₁
    exact ⟨found₁ ++ found₂, .inr ⟨e, w₁, found₁, found₂, ran, handled, rfl⟩⟩

theorem Covers.map (f : α → β) {x : Engine α} {y : Shared α} (first : Covers x y) : Covers (f <$> x) (f <$> y) := by
  intro w
  obtain ⟨found, ran⟩ := first w
  refine ⟨found, map_iff.mpr ?_⟩
  rw [run_map]
  cases got : x.run w with
  | ok a w₁ =>
    rw [got] at ran
    exact .inl ⟨a, w₁, ran, rfl⟩
  | error e w₁ =>
    rw [got] at ran
    exact .inr ⟨e, w₁, ran, rfl⟩

theorem Covers.ite {c : Prop} [Decidable c] {x x' : Engine α} {y y' : Shared α} (yes : Covers x y)
    (no : Covers x' y') : Covers (if c then x else x') (if c then y else y') := by
  split
  · exact yes
  · exact no

/-- A retry loop of the operator's own is one of the loop's shared runs. -/
theorem covers_retryWhile {retry : Error → Bool} {c : RetryConfig} {x : Engine Unit} {y : Shared Unit}
    (once : Covers x y) (left : Nat) :
    ∀ delay, Covers (retryWhile.go retry c Engine.sleep x delay left) (retryWhile.go retry c sleep y delay left) := by
  -- One retry at a time: each level is a caught round, then a sleep and the rest.
  induction left with
  | zero =>
    intro delay
    rw [retryWhile.go, retryWhile.go]
    exact once
  | succ left ih =>
    intro delay
    rw [retryWhile.go, retryWhile.go]
    exact Covers.tryCatch once fun e => Covers.ite (Covers.bind (Covers.lift _) fun _ => ih _) (Covers.throw _)

end Shared

end MeshControl
