import Mathlib

/-! Runs of programs over a state that may fail: the state a run ends in, relations a run keeps
between the state it starts in and the one it ends in, and runs that are sure to return. -/

namespace MeshControl

variable {ε σ α β γ : Type}

/-- The state a run ends in, whether it returned a value or failed. -/
def endState : EStateM.Result ε σ α → σ
  | .ok _ s => s
  | .error _ s => s

@[simp] theorem endState_ok (a : α) (s : σ) : endState (.ok a s : EStateM.Result ε σ α) = s := rfl

@[simp] theorem endState_error (e : ε) (s : σ) :
    endState (.error e s : EStateM.Result ε σ α) = s := rfl

/-- A program keeps a relation between the state it starts in and the one it ends in, whether
it returns or fails. -/
def Keeps (R : σ → σ → Prop) (x : EStateM ε σ α) : Prop := ∀ s, R s (endState (x.run s))

/-- Run from `s`, a program returns a value, and `post` holds of the value and of the state it
ends in. -/
def Returns (x : EStateM ε σ α) (s : σ) (post : α → σ → Prop) : Prop :=
  ∃ a s', x.run s = .ok a s' ∧ post a s'

/-- Discarding a run's value is mapping it away. -/
theorem discard_eq_map (x : EStateM ε σ α) : discard x = (fun _ => PUnit.unit) <$> x := rfl

/-- A handler that catches a failure sees the state the failed run ended in. -/
theorem run_tryCatch (x : EStateM ε σ α) (handle : ε → EStateM ε σ α) (s : σ) :
    (tryCatch x handle : EStateM ε σ α).run s =
      match x.run s with
      | .ok a s' => .ok a s'
      | .error e s' => (handle e).run s' := by
  -- Nothing of the state is rolled back, so the handler starts where the run stopped.
  show EStateM.tryCatch x handle s = _
  simp only [EStateM.tryCatch, EStateM.run]
  cases x s <;> rfl

theorem run_map (f : α → β) (x : EStateM ε σ α) (s : σ) :
    (f <$> x).run s =
      match x.run s with
      | .ok a s' => .ok (f a) s'
      | .error e s' => .error e s' := by
  show EStateM.map f x s = _
  simp only [EStateM.map, EStateM.run]
  cases x s <;> rfl

@[simp] theorem endState_map (f : α → β) (x : EStateM ε σ α) (s : σ) :
    endState ((f <$> x).run s) = endState (x.run s) := by
  rw [run_map]
  cases x.run s <;> rfl

/-- A bind that returned ran its first program to a value, then the rest from there. -/
theorem run_bind_ok {x : EStateM ε σ α} {f : α → EStateM ε σ β} {s s' : σ} {b : β}
    (ran : (x >>= f).run s = .ok b s') : ∃ a s₁, x.run s = .ok a s₁ ∧ (f a).run s₁ = .ok b s' := by
  rw [EStateM.run_bind] at ran
  -- A first program that failed would have failed the bind.
  cases result : x.run s with
  | ok a s₁ =>
    rw [result] at ran
    exact ⟨a, s₁, rfl, ran⟩
  | error e s₁ =>
    rw [result] at ran
    cases ran

/-- Where the first program returns, a bind ends where the rest ends from there. -/
theorem endState_bind_ok {x : EStateM ε σ α} {f : α → EStateM ε σ β} {s s₁ : σ} {a : α}
    (ran : x.run s = .ok a s₁) : endState ((x >>= f).run s) = endState ((f a).run s₁) := by
  rw [EStateM.run_bind, ran]

/-- Steps that leave the state as they find it, after a first program: the bind ends where the
first program ended. -/
theorem endState_bind_still {x : EStateM ε σ α} {f : α → EStateM ε σ β}
    (still : ∀ a s, endState ((f a).run s) = s) (s : σ) :
    endState ((x >>= f).run s) = endState (x.run s) := by
  rw [EStateM.run_bind]
  -- A failure ends the bind where the first program stopped.
  cases x.run s with
  | ok a s' => exact still a s'
  | error e s' => rfl

namespace Keeps

variable {R : σ → σ → Prop} [IsPreorder σ R]

theorem pure (a : α) : Keeps R (Pure.pure a : EStateM ε σ α) := fun s => refl_of R s

theorem throw (e : ε) : Keeps R (MonadExcept.throw e : EStateM ε σ α) := fun s => refl_of R s

/-- Nothing after a failure runs. -/
theorem throw_bind (e : ε) (f : α → EStateM ε σ β) : Keeps R (MonadExcept.throw e >>= f) :=
  fun s => refl_of R s

omit [IsPreorder σ R] in
theorem ite {c : Prop} [Decidable c] {x y : EStateM ε σ α} (yes : Keeps R x) (no : Keeps R y) :
    Keeps R (if c then x else y) := by
  split
  · exact yes
  · exact no

theorem get : Keeps R (MonadState.get : EStateM ε σ σ) := fun s => refl_of R s

omit [IsPreorder σ R] in
theorem modify {f : σ → σ} (step : ∀ s, R s (f s)) : Keeps R (modify f : EStateM ε σ PUnit) :=
  step

theorem bind {x : EStateM ε σ α} {f : α → EStateM ε σ β} (first : Keeps R x)
    (rest : ∀ a, Keeps R (f a)) : Keeps R (x >>= f) := by
  intro s
  have ran := first s
  -- The relation reaches the middle state, and the rest carries it on.
  rw [EStateM.run_bind]
  cases result : x.run s with
  | ok a s' =>
    rw [result] at ran
    exact IsTrans.trans _ _ _ ran (rest a s')
  | error e s' =>
    rw [result] at ran
    exact ran

/-- A sequence keeps `R` when its first step does and the rest does from wherever the first step
returned, knowing what it returned there. -/
theorem bind_of {x : EStateM ε σ α} {f : α → EStateM ε σ β} (first : Keeps R x)
    (rest : ∀ s a s₁, x.run s = .ok a s₁ → R s₁ (endState ((f a).run s₁))) : Keeps R (x >>= f) := by
  intro s
  have ran := first s
  rw [EStateM.run_bind]
  -- Only a returned value lets the rest run.
  cases result : x.run s with
  | ok a s' =>
    rw [result] at ran
    exact IsTrans.trans _ _ _ ran (rest s a s' result)
  | error e s' =>
    rw [result] at ran
    exact ran

omit [IsPreorder σ R] in
/-- A step that keeps `R₁`, then steps that keep `R₂`: the whole keeps what the two make
together, when the first step's relation alone makes it too, the rest not running after a
failure. -/
theorem seq {R₁ R₂ : σ → σ → Prop} {x : EStateM ε σ α} {f : α → EStateM ε σ β}
    (first : Keeps R₁ x) (rest : ∀ a, Keeps R₂ (f a)) (alone : ∀ s s', R₁ s s' → R s s')
    (compose : ∀ s₁ s₂ s₃, R₁ s₁ s₂ → R₂ s₂ s₃ → R s₁ s₃) : Keeps R (x >>= f) := by
  intro s
  have ran := first s
  rw [EStateM.run_bind]
  -- After a failure only the first relation holds, which suffices alone.
  cases result : x.run s with
  | ok a s' =>
    rw [result] at ran
    exact compose _ _ _ ran (rest a s')
  | error e s' =>
    rw [result] at ran
    exact alone _ _ ran

omit [IsPreorder σ R] in
theorem map {x : EStateM ε σ α} (f : α → β) (kept : Keeps R x) : Keeps R (f <$> x) := by
  intro s
  have ran := kept s
  rw [run_map]
  -- Mapping the value leaves the state alone.
  cases result : x.run s <;> rw [result] at ran <;> exact ran

theorem tryCatch {x : EStateM ε σ α} {handle : ε → EStateM ε σ α} (first : Keeps R x)
    (recover : ∀ e, Keeps R (handle e)) : Keeps R (MonadExcept.tryCatch x handle) := by
  intro s
  have ran := first s
  -- A caught failure hands its state to the handler, which carries the relation on.
  rw [run_tryCatch]
  cases result : x.run s with
  | ok a s' =>
    rw [result] at ran
    exact ran
  | error e s' =>
    rw [result] at ran
    exact IsTrans.trans _ _ _ ran (recover e s')

theorem forM (xs : List γ) {f : γ → EStateM ε σ PUnit} (each : ∀ c ∈ xs, Keeps R (f c)) :
    Keeps R (xs.forM f) := by
  -- Each item's run carries the relation one step further.
  induction xs with
  | nil => exact pure _
  | cons c rest ih =>
    show Keeps R (f c >>= fun _ => rest.forM f)
    exact bind (each c (by simp)) fun _ => ih fun d member => each d (by simp [member])

theorem foldlM (xs : List γ) {f : β → γ → EStateM ε σ β} (each : ∀ b, ∀ c ∈ xs, Keeps R (f b c))
    (b : β) : Keeps R (xs.foldlM f b) := by
  -- Each step carries the relation on from the value the fold has reached.
  induction xs generalizing b with
  | nil => exact pure _
  | cons c rest ih =>
    simp only [List.foldlM_cons]
    exact bind (each b c (by simp)) fun b' => ih (fun b'' d member => each b'' d (by simp [member])) b'

theorem forIn (xs : List γ) {f : γ → β → EStateM ε σ (ForInStep β)}
    (each : ∀ c ∈ xs, ∀ b, Keeps R (f c b)) (b : β) : Keeps R (ForIn.forIn xs b f) := by
  -- Each item's step carries the relation on, whether the loop goes on after it or stops.
  induction xs generalizing b with
  | nil => exact pure _
  | cons c rest ih =>
    rw [List.forIn_cons]
    refine bind (each c (by simp) b) fun step => ?_
    -- A loop that stops after this item keeps what it reached.
    cases step with
    | done b' => exact pure _
    | yield b' => exact ih (fun d member => each d (by simp [member])) b'

omit [IsPreorder σ R] in
theorem weaken {R' : σ → σ → Prop} {x : EStateM ε σ α} (kept : Keeps R x)
    (implies : ∀ s s', R s s' → R' s s') : Keeps R' x :=
  fun s => implies _ _ (kept s)

omit [IsPreorder σ R] in
/-- A run that returns ends in a state its start is related to by what the program keeps. -/
theorem of_ok {x : EStateM ε σ α} {s s' : σ} {a : α} (ran : x.run s = .ok a s') (kept : Keeps R x) :
    R s s' := by
  simpa [ran] using kept s

omit [IsPreorder σ R] in
/-- A run that fails ends in a state its start is related to by what the program keeps. -/
theorem of_error {x : EStateM ε σ α} {s s' : σ} {e : ε} (ran : x.run s = .error e s')
    (kept : Keeps R x) : R s s' := by
  simpa [ran] using kept s

end Keeps

namespace Returns

theorem pure {a : α} {s : σ} {post : α → σ → Prop} (holds : post a s) :
    Returns (Pure.pure a : EStateM ε σ α) s post :=
  ⟨a, s, rfl, holds⟩

theorem of_run {x : EStateM ε σ α} {s s' : σ} {a : α} {post : α → σ → Prop}
    (ran : x.run s = .ok a s') (holds : post a s') : Returns x s post :=
  ⟨a, s', ran, holds⟩

theorem mono {x : EStateM ε σ α} {s : σ} {post post' : α → σ → Prop} (returns : Returns x s post)
    (implies : ∀ a s', post a s' → post' a s') : Returns x s post' := by
  obtain ⟨a, s', ran, holds⟩ := returns
  exact ⟨a, s', ran, implies a s' holds⟩

theorem bind {x : EStateM ε σ α} {f : α → EStateM ε σ β} {s : σ} {post : β → σ → Prop}
    (first : Returns x s fun a s' => Returns (f a) s' post) : Returns (x >>= f) s post := by
  -- The first run returns into a state from which the rest returns.
  obtain ⟨a, s', ran, rest⟩ := first
  obtain ⟨b, s'', ran', holds⟩ := rest
  exact ⟨b, s'', by simp only [EStateM.run_bind, ran]; exact ran', holds⟩

/-- A bound run that returns runs its first part to a state from which the rest returns. -/
theorem of_bind {x : EStateM ε σ α} {f : α → EStateM ε σ β} {s : σ} {post : β → σ → Prop}
    (returns : Returns (x >>= f) s post) : Returns x s fun a s' => Returns (f a) s' post := by
  obtain ⟨b, s'', ran, holds⟩ := returns
  rw [EStateM.run_bind] at ran
  -- A first part that failed would have failed the whole run.
  cases first : x.run s with
  | ok a s' =>
    rw [first] at ran
    exact ⟨a, s', first, b, s'', ran, holds⟩
  | error e s' =>
    rw [first] at ran
    cases ran

theorem map {x : EStateM ε σ α} {f : α → β} {s : σ} {post : β → σ → Prop}
    (returns : Returns x s fun a s' => post (f a) s') : Returns (f <$> x) s post := by
  obtain ⟨a, s', ran, holds⟩ := returns
  exact ⟨f a, s', by rw [run_map, ran], holds⟩

/-- A run that returns ends in a state related to its start by whatever the program keeps. -/
theorem with_keeps {R : σ → σ → Prop} {x : EStateM ε σ α} {s : σ} {post : α → σ → Prop}
    (kept : Keeps R x) (returns : Returns x s post) : Returns x s fun a s' => R s s' ∧ post a s' := by
  obtain ⟨a, s', ran, holds⟩ := returns
  have related := kept s
  rw [ran] at related
  exact ⟨a, s', ran, related, holds⟩

/-- A run that returns is the run of the program: its value and end state are what the program
computes. -/
theorem with_run {x : EStateM ε σ α} {s : σ} {post : α → σ → Prop} (returns : Returns x s post) :
    Returns x s fun a s' => x.run s = .ok a s' ∧ post a s' := by
  obtain ⟨a, s', ran, holds⟩ := returns
  exact ⟨a, s', ran, ran, holds⟩

/-- What a program returns from a state satisfies its post, the run being the same. -/
theorem holds {x : EStateM ε σ α} {s s' : σ} {a : α} {post : α → σ → Prop} (returns : Returns x s post)
    (ran : x.run s = .ok a s') : post a s' := by
  obtain ⟨b, s'', ran', holds⟩ := returns
  -- The program is deterministic, so the two runs agree.
  rw [ran] at ran'
  cases ran'
  exact holds

/-- Two posts of one run hold together, the run being the same. -/
theorem and {x : EStateM ε σ α} {s : σ} {post post' : α → σ → Prop} (first : Returns x s post)
    (second : Returns x s post') : Returns x s fun a s' => post a s' ∧ post' a s' := by
  obtain ⟨a, s', ran, holds⟩ := first
  -- Both posts are of the same run.
  obtain ⟨a', s'', ran', holds'⟩ := second
  rw [ran] at ran'
  cases ran'
  exact ⟨a, s', ran, holds, holds'⟩

/-- A fold returns when each of its steps does. What a step does to the value and the state is
`S`; what the steps do together is `R`, which holds of no steps and grows by one step in front. -/
theorem foldlM {S : γ → β → σ → β → σ → Prop} {R : List γ → β → σ → β → σ → Prop}
    {f : β → γ → EStateM ε σ β} (xs : List γ) (none : ∀ b s, R [] b s b s)
    (cons : ∀ c rest b₁ s₁ b₂ s₂ b₃ s₃, S c b₁ s₁ b₂ s₂ → R rest b₂ s₂ b₃ s₃ → R (c :: rest) b₁ s₁ b₃ s₃)
    (each : ∀ c ∈ xs, ∀ b s, Returns (f b c) s (S c b s)) :
    ∀ b s, Returns (xs.foldlM f b) s (R xs b s) := by
  -- The fold is over the items; each step's relation joins the rest's in front.
  induction xs with
  | nil => exact fun b s => pure (none b s)
  | cons c rest ih =>
    intro b s
    rw [List.foldlM_cons]
    refine bind (mono (each c (by simp) b s) fun b₁ s₁ first => ?_)
    exact mono (ih (fun d member => each d (by simp [member])) b₁ s₁) fun b₂ s₂ later =>
      cons c rest b s b₁ s₁ b₂ s₂ first later

/-- A loop returns when each of its steps returns and goes on. What a step does to the value and
the state is `S`; what the steps do together is `R`, which holds of no steps and grows by one step
in front. -/
theorem forIn {S : γ → β → σ → β → σ → Prop} {R : List γ → β → σ → β → σ → Prop}
    {f : γ → β → EStateM ε σ (ForInStep β)} (xs : List γ) (none : ∀ b s, R [] b s b s)
    (cons : ∀ c rest b₁ s₁ b₂ s₂ b₃ s₃, S c b₁ s₁ b₂ s₂ → R rest b₂ s₂ b₃ s₃ → R (c :: rest) b₁ s₁ b₃ s₃)
    (each : ∀ c ∈ xs, ∀ b s, Returns (f c b) s fun step s' => ∃ b', step = .yield b' ∧ S c b s b' s') :
    ∀ b s, Returns (ForIn.forIn xs b f) s (R xs b s) := by
  -- The loop is over the items, as the fold above.
  induction xs with
  | nil => exact fun b s => pure (none b s)
  | cons c rest ih =>
    intro b s
    rw [List.forIn_cons]
    refine bind (mono (each c (by simp) b s) fun step s₁ first => ?_)
    -- The step goes on with the loop over the rest.
    obtain ⟨b₁, rfl, first⟩ := first
    exact mono (ih (fun d member => each d (by simp [member])) b₁ s₁) fun b₂ s₂ later =>
      cons c rest b s b₁ s₁ b₂ s₂ first later

/-- A first step that returns leaves the rest to run from where it ended. -/
theorem exists_run_bind {x : EStateM ε σ PUnit} {f : PUnit → EStateM ε σ β} {s : σ} {post : σ → Prop}
    (returns : Returns x s fun _ s₁ => post s₁) : ∃ s₁, (x >>= f).run s = (f ⟨⟩).run s₁ ∧ post s₁ := by
  obtain ⟨⟨⟩, s₁, ran, holds⟩ := returns
  exact ⟨s₁, by rw [EStateM.run_bind, ran], holds⟩

/-- A run that evaluates to a value and a state satisfying `post` returns: a concrete run is
checked by computing it. -/
theorem of_check {x : EStateM ε σ α} {s : σ} {post : α → σ → Prop} [∀ a s', Decidable (post a s')]
    (check : (match x.run s with | .ok a s' => decide (post a s') | .error _ _ => false) = true) :
    Returns x s post := by
  -- A failure would make the check false.
  cases ran : x.run s with
  | ok a s' =>
    rw [ran] at check
    exact ⟨a, s', ran, of_decide_eq_true check⟩
  | error e s' =>
    rw [ran] at check
    cases check

/-- A handler is never reached by a run that returns. -/
theorem tryCatch {x : EStateM ε σ α} {handle : ε → EStateM ε σ α} {s : σ} {post : α → σ → Prop}
    (returns : Returns x s post) : Returns (MonadExcept.tryCatch x handle) s post := by
  obtain ⟨a, s', ran, holds⟩ := returns
  exact ⟨a, s', by rw [run_tryCatch, ran], holds⟩

/-- A caught failure returns whatever the handler returns from where the run stopped. -/
theorem tryCatch_error {x : EStateM ε σ α} {handle : ε → EStateM ε σ α} {s s' : σ} {e : ε}
    {post : α → σ → Prop} (failed : x.run s = .error e s') (recovers : Returns (handle e) s' post) :
    Returns (MonadExcept.tryCatch x handle) s post := by
  obtain ⟨a, s'', ran, holds⟩ := recovers
  exact ⟨a, s'', by simp only [run_tryCatch, failed]; exact ran, holds⟩

/-- A caught program returns when each of its outcomes does: a value as it is, a failure through
the handler. -/
theorem tryCatch_of {x : EStateM ε σ α} {handle : ε → EStateM ε σ α} {s : σ} {post : α → σ → Prop}
    (ok : ∀ a s', x.run s = .ok a s' → post a s') (recover : ∀ e s', Returns (handle e) s' post) :
    Returns (MonadExcept.tryCatch x handle) s post := by
  -- A value passes the handler by; a failure goes to it.
  cases ran : x.run s with
  | ok a s' => exact tryCatch (of_run ran (ok a s' ran))
  | error e s' => exact tryCatch_error ran (recover e s')

end Returns

/-- A computation that evaluates to a value satisfying `post` gives one: a concrete result is
checked by computing it. -/
theorem Except.exists_of_check {x : Except ε α} {post : α → Prop} [∀ a, Decidable (post a)]
    (check : (match x with | .ok a => decide (post a) | .error _ => false) = true) :
    ∃ a, x = .ok a ∧ post a := by
  cases x with
  | ok a => exact ⟨a, rfl, of_decide_eq_true check⟩
  | error e => cases check

/-- Every value a program returns satisfies `P`. -/
def Yields (P : α → Prop) (x : EStateM ε σ α) : Prop := ∀ s a s', x.run s = .ok a s' → P a

/-- Every failure of a program satisfies `P`. -/
def Fails (P : ε → Prop) (x : EStateM ε σ α) : Prop := ∀ s e s', x.run s = .error e s' → P e

namespace Yields

theorem pure {P : α → Prop} {a : α} (holds : P a) : Yields P (Pure.pure a : EStateM ε σ α) := by
  intro s b s' ran
  cases ran
  exact holds

theorem throw {P : α → Prop} (e : ε) : Yields P (MonadExcept.throw e : EStateM ε σ α) := by
  intro s b s' ran
  cases ran

theorem throw_bind {P : β → Prop} (e : ε) (f : α → EStateM ε σ β) :
    Yields P (MonadExcept.throw e >>= f) := by
  intro s b s' ran
  cases ran

theorem bind {Q : α → Prop} {P : β → Prop} {x : EStateM ε σ α} {f : α → EStateM ε σ β}
    (first : Yields Q x) (rest : ∀ a, Q a → Yields P (f a)) : Yields P (x >>= f) := by
  intro s b s' ran
  rw [EStateM.run_bind] at ran
  -- The rest runs on a value the first program yields.
  cases result : x.run s with
  | ok a s₁ =>
    rw [result] at ran
    exact rest a (first s a s₁ result) s₁ b s' ran
  | error e s₁ =>
    rw [result] at ran
    cases ran

theorem ite {P : α → Prop} {c : Prop} [Decidable c] {x y : EStateM ε σ α} (yes : Yields P x)
    (no : Yields P y) : Yields P (if c then x else y) := by
  split
  · exact yes
  · exact no

theorem tryCatch {P : α → Prop} {x : EStateM ε σ α} {handle : ε → EStateM ε σ α}
    (first : Yields P x) (recover : ∀ e, Yields P (handle e)) :
    Yields P (MonadExcept.tryCatch x handle) := by
  intro s a s' ran
  rw [run_tryCatch] at ran
  -- A value comes from the first program; anything after a failure, from the handler.
  cases result : x.run s with
  | ok b s₁ =>
    rw [result] at ran
    cases ran
    exact first s a s' result
  | error e s₁ =>
    rw [result] at ran
    exact recover e s₁ a s' ran

/-- Whatever a program returns satisfies what holds of every value. -/
theorem of_forall {P : α → Prop} (x : EStateM ε σ α) (holds : ∀ a, P a) : Yields P x :=
  fun _ a _ _ => holds a

end Yields

namespace Fails

theorem pure {P : ε → Prop} (a : α) : Fails P (Pure.pure a : EStateM ε σ α) := by
  intro s e s' ran
  cases ran

theorem throw {P : ε → Prop} {e : ε} (holds : P e) : Fails P (MonadExcept.throw e : EStateM ε σ α) := by
  intro s e' s' ran
  cases ran
  exact holds

theorem throw_bind {P : ε → Prop} {e : ε} (holds : P e) (f : α → EStateM ε σ β) :
    Fails P (MonadExcept.throw e >>= f) := by
  intro s e' s' ran
  cases ran
  exact holds

/-- A program that returns from every state never fails. -/
theorem of_returns {P : ε → Prop} {x : EStateM ε σ α} (total : ∀ s, Returns x s fun _ _ => True) :
    Fails P x := by
  intro s e s' ran
  -- The program returns from this state, so it did not fail.
  obtain ⟨a, s'', ran', _⟩ := total s
  rw [ran] at ran'
  cases ran'

theorem get {P : ε → Prop} : Fails P (MonadState.get : EStateM ε σ σ) := by
  intro s e s' ran
  cases ran

theorem modify {P : ε → Prop} (f : σ → σ) : Fails P (modify f : EStateM ε σ PUnit) := by
  intro s e s' ran
  cases ran

theorem bind {P : ε → Prop} {x : EStateM ε σ α} {f : α → EStateM ε σ β} (first : Fails P x)
    (rest : ∀ a, Fails P (f a)) : Fails P (x >>= f) := by
  intro s e s' ran
  rw [EStateM.run_bind] at ran
  -- A failure comes from the first program or from the rest.
  cases result : x.run s with
  | ok a s₁ =>
    rw [result] at ran
    exact rest a s₁ e s' ran
  | error e₁ s₁ =>
    rw [result] at ran
    cases ran
    exact first s e s' result

theorem map {P : ε → Prop} {x : EStateM ε σ α} (f : α → β) (first : Fails P x) : Fails P (f <$> x) := by
  intro s e s' ran
  rw [run_map] at ran
  -- Mapping passes failures through.
  cases result : x.run s with
  | ok a s₁ =>
    rw [result] at ran
    cases ran
  | error e₁ s₁ =>
    rw [result] at ran
    cases ran
    exact first s e s' result

theorem ite {P : ε → Prop} {c : Prop} [Decidable c] {x y : EStateM ε σ α} (yes : Fails P x)
    (no : Fails P y) : Fails P (if c then x else y) := by
  split
  · exact yes
  · exact no

/-- A handler sees only failures of the first program, and only its own come out. -/
theorem tryCatch {P : ε → Prop} {x : EStateM ε σ α} {handle : ε → EStateM ε σ α}
    (first : Fails P x) (recover : ∀ e, P e → Fails P (handle e)) :
    Fails P (MonadExcept.tryCatch x handle) := by
  intro s e s' ran
  rw [run_tryCatch] at ran
  -- Only a failure reaches the handler, and it satisfies P.
  cases result : x.run s with
  | ok b s₁ =>
    rw [result] at ran
    cases ran
  | error e₁ s₁ =>
    rw [result] at ran
    exact recover e₁ (first s e₁ s₁ result) s₁ e s' ran

theorem forIn {P : ε → Prop} (xs : List γ) {f : γ → β → EStateM ε σ (ForInStep β)}
    (each : ∀ c ∈ xs, ∀ b, Fails P (f c b)) (b : β) : Fails P (ForIn.forIn xs b f) := by
  induction xs generalizing b with
  | nil => exact pure _
  | cons c rest ih =>
    rw [List.forIn_cons]
    refine bind (each c (by simp) b) fun step => ?_
    -- A loop that stops after this item does not fail later.
    cases step with
    | done b' => exact pure _
    | yield b' => exact ih (fun d member => each d (by simp [member])) b'

end Fails

end MeshControl
