import MeshControl.Proofs.Status.Store

/-! Transition times move only to the clock reading of the pass, and only where the status
changed, there was no time, or the pass may refresh it; every writer is shown to move them so. -/

namespace MeshControl

namespace Condition

/-- How the transition time of a condition may move from `before` to `after` in a pass at the
clock reading `now`: it stays, or it becomes `now` where the status changed, where there was no
time, or where `refreshed` holds. -/
def TimeFollows (now : String) (refreshed : Prop) (before after : Condition) : Prop :=
  after.lastTransitionTime = before.lastTransitionTime ∨
    after.lastTransitionTime = some now ∧
      (after.status ≠ before.status ∨ before.lastTransitionTime = none ∨ refreshed)

theorem TimeFollows.refl (now : String) (refreshed : Prop) (c : Condition) :
    TimeFollows now refreshed c c :=
  Or.inl rfl

theorem TimeFollows.mono {now : String} {refreshed refreshed' : Prop} {before after : Condition}
    (follows : TimeFollows now refreshed before after) (allowed : refreshed → refreshed') :
    TimeFollows now refreshed' before after := by
  -- A kept time is kept; a stamped one keeps its reason, now allowed more widely.
  rcases follows with kept | ⟨stamped, why⟩
  · exact Or.inl kept
  · exact Or.inr ⟨stamped, why.imp_right (Or.imp_right allowed)⟩

end Condition

namespace StatusType

/-- Every type reads in `after` with a transition time that follows the one it reads with in
`before`, where `refreshed` says for which types the pass may refresh a time. -/
def TimesFollow (now : String) (refreshed : ConditionType → Prop) (before after : StatusType) : Prop :=
  ∀ t, (before.get t).TimeFollows now (refreshed t) (after.get t)

theorem TimesFollow.refl (now : String) (refreshed : ConditionType → Prop) (s : StatusType) :
    TimesFollow now refreshed s s :=
  fun t => Condition.TimeFollows.refl now _ (s.get t)

theorem TimesFollow.mono {now : String} {refreshed refreshed' : ConditionType → Prop}
    {before after : StatusType} (follows : TimesFollow now refreshed before after)
    (allowed : ∀ t, refreshed t → refreshed' t) : TimesFollow now refreshed' before after :=
  fun t => (follows t).mono (allowed t)

/-- A status reads its conditions alone. -/
theorem get_congr {s s' : StatusType} (same : s.conditions = s'.conditions) (t : ConditionType) :
    s.get t = s'.get t := by
  simp only [get, same]

/-- Times follow between statuses as they follow between any with the same conditions. -/
theorem TimesFollow.congr {now : String} {refreshed : ConditionType → Prop}
    {before before' after after' : StatusType} (follows : TimesFollow now refreshed before after)
    (sameBefore : before.conditions = before'.conditions) (sameAfter : after.conditions = after'.conditions) :
    TimesFollow now refreshed before' after' := by
  intro t
  -- Both statuses read the same conditions.
  rw [← get_congr sameBefore, ← get_congr sameAfter]
  exact follows t

/-- The type written moves its time as a write allows: to the clock reading where its status
changed or it had no time, and nowhere else. -/
theorem set_timeFollows (s : StatusType) (now : String) (c : Condition) :
    (s.get c.type).TimeFollows now False ((s.set now c).get c.type) := by
  cases found : s.conditions.find? (·.type == c.type) with
  | none =>
    -- Nothing of the type was there, so it read as Unknown, with no time.
    have absent : s.get c.type = Condition.unknownOf c.type := by simp [get, found]
    rw [absent, get_set_of_missing s now c found]
    exact Or.inr ⟨rfl, Or.inr (Or.inl rfl)⟩
  | some old =>
    -- A condition of the type was there and is replaced in place.
    have present : s.get c.type = old := by simp [get, found]
    rw [present, get_set_of_found s now c found]
    -- The old time stays where the status did, unless there was none to keep.
    by_cases kept : old.status = c.status
    · cases timed : old.lastTransitionTime with
      | none => exact Or.inr ⟨by simp [kept], Or.inr (Or.inl timed)⟩
      | some time => exact Or.inl (by simp [kept, timed])
    · exact Or.inr ⟨by simp [kept], Or.inl (Ne.symm kept)⟩

/-- One more write of a type whose reading is still the one it started from keeps the times
following. -/
theorem TimesFollow.set {now : String} {refreshed : ConditionType → Prop} {s s₁ : StatusType}
    (follows : TimesFollow now refreshed s s₁) {c : Condition} (untouched : s₁.get c.type = s.get c.type) :
    TimesFollow now refreshed s (s₁.set now c) := by
  intro t
  -- The type written moves as a write allows; the others read as before.
  by_cases written : c.type = t
  · subst written
    rw [← untouched]
    exact (set_timeFollows s₁ now c).mono False.elim
  · rw [get_set_of_ne s₁ now written]
    exact follows t

/-- A write moves times only as writes allow. -/
theorem set_timesFollow (s : StatusType) (now : String) (c : Condition) :
    TimesFollow now (fun _ => False) s (s.set now c) :=
  (TimesFollow.refl now _ s).set rfl

/-- Two writes of different types move times only as writes allow. -/
theorem set_set_timesFollow (s : StatusType) (now : String) {c d : Condition} (other : c.type ≠ d.type) :
    TimesFollow now (fun _ => False) s ((s.set now c).set now d) :=
  (set_timesFollow s now c).set (get_set_of_ne s now other)

/-- The rules of a reconcile pass move times only as writes allow. -/
theorem afterReconcile_timesFollow (s : StatusType) (now : String) (err : Option Error) :
    TimesFollow now (fun _ => False) s (s.afterReconcile now err) := by
  unfold afterReconcile
  -- Success writes Installed first where it was not yet true, then Reconciled.
  cases err with
  | none =>
    dsimp only
    split
    · exact set_set_timesFollow s now (by simp [Condition.make])
    · exact set_timesFollow s now _
  -- Failure writes Installed first where it was Unknown, then Reconciled.
  | some e =>
    dsimp only
    split
    · exact set_set_timesFollow s now (by simp [Condition.make])
    · exact set_timesFollow s now _

/-- The rules of a delete pass move times only as writes allow. -/
theorem afterDelete_timesFollow (s : StatusType) (now : String) (err : Option Error) :
    TimesFollow now (fun _ => False) s (s.afterDelete now err) := by
  unfold afterDelete
  -- Success writes Installed and Reconciled, failure Reconciled alone.
  cases err with
  | none => exact set_set_timesFollow s now (by simp [Condition.make])
  | some e => exact set_timesFollow s now _

/-- Every rule of a reconcile pass ends by writing Reconciled, which then has a time. -/
theorem afterReconcile_reconciled_timed (s : StatusType) (now : String) (err : Option Error) :
    ((s.afterReconcile now err).get .reconciled).lastTransitionTime.isSome := by
  -- A condition written reads back with a time.
  have written : ∀ s' : StatusType, ∀ st r m,
      ((s'.set now (.make .reconciled st r m)).get .reconciled).lastTransitionTime.isSome := by
    intro s' st r m
    obtain ⟨time, read⟩ := get_set_self s' now (c := .make .reconciled st r m) (t := .reconciled) rfl
    simp [read]
  unfold afterReconcile
  -- Every branch writes Reconciled last.
  cases err with
  | none =>
    dsimp only
    split
    · exact written _ _ _ _
    · exact written _ _ _ _
  | some e =>
    dsimp only
    split
    · exact written _ _ _ _
    · exact written _ _ _ _

/-- Removing Reconciled before the rules of a reconcile pass refreshes Reconciled's time to the
clock reading, and moves the others only as writes allow. -/
theorem remove_afterReconcile_timesFollow (s : StatusType) (now : String) (err : Option Error) :
    TimesFollow now (· = .reconciled) s ((s.remove .reconciled).afterReconcile now err) := by
  have rules := afterReconcile_timesFollow (s.remove .reconciled) now err
  intro t
  -- Installed is not removed, so it moves as the rules move it.
  cases t with
  | installed =>
    rw [← get_remove_of_ne s (show ConditionType.reconciled ≠ .installed by decide)]
    exact (rules .installed).mono False.elim
  | reconciled =>
    -- After the removal Reconciled reads as Unknown with no time, and the rules write it.
    have follows := rules .reconciled
    rw [get_remove_self] at follows
    have timed := afterReconcile_reconciled_timed (s.remove .reconciled) now err
    rcases follows with kept | ⟨stamped, _⟩
    · rw [kept] at timed
      cases timed
    · exact Or.inr ⟨stamped, Or.inr (Or.inr rfl)⟩

/-- What a write leaves of the conditions depends on the conditions alone. -/
theorem set_conditions_congr {s s' : StatusType} (same : s.conditions = s'.conditions) (now : String)
    (c : Condition) : (s.set now c).conditions = (s'.set now c).conditions := by
  unfold set
  rw [same]
  -- The write reads only the conditions in either branch.
  split
  · rfl
  · rfl

/-- What the rules of a reconcile pass leave of the conditions depends on the conditions alone. -/
theorem afterReconcile_conditions_congr {s s' : StatusType} (same : s.conditions = s'.conditions)
    (now : String) (err : Option Error) :
    (s.afterReconcile now err).conditions = (s'.afterReconcile now err).conditions := by
  unfold afterReconcile
  rw [get_congr same]
  -- The branch taken reads Installed, which the conditions alone decide.
  cases err with
  | none =>
    dsimp only
    split
    · exact set_conditions_congr (set_conditions_congr same now _) now _
    · exact set_conditions_congr same now _
  | some e =>
    dsimp only
    split
    · exact set_conditions_congr (set_conditions_congr same now _) now _
    · exact set_conditions_congr same now _

end StatusType

end MeshControl
