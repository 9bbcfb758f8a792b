import MeshControl.Status.Condition

/-! Reading a condition back after it was written, and from it what reconcile and delete passes
leave of Installed and Reconciled. -/

namespace MeshControl

namespace StatusType

/-- Where a condition of the type is there, replacing the first one succeeds. -/
theorem replaceFirst_isSome {c : Condition} :
    ∀ {cs : List Condition}, (cs.find? (·.type == c.type)).isSome → (replaceFirst cs c).isSome
  | [], found => by simp at found
  | d :: rest, found => by
    -- The head has the type and is replaced, or the replacement is further on.
    by_cases same : d.type = c.type
    · simp [replaceFirst, same]
    · have later : (rest.find? (·.type == c.type)).isSome := by simpa [same] using found
      simpa [replaceFirst, same] using replaceFirst_isSome later

/-- A replacement changes what the replaced type reads, and nothing else. -/
theorem find?_replaceFirst {c : Condition} (t : ConditionType) :
    ∀ {cs cs' : List Condition}, replaceFirst cs c = some cs' →
      cs'.find? (·.type == t) = if c.type = t then some c else cs.find? (·.type == t)
  | [], _, replaced => by simp [replaceFirst] at replaced
  | d :: rest, cs', replaced => by
    by_cases same : d.type = c.type
    · -- The first condition is the one replaced.
      simp only [replaceFirst, same, beq_self_eq_true, if_true, Option.some.injEq] at replaced
      subst replaced
      by_cases here : c.type = t <;> simp [here, same]
    · -- The condition replaced is further on.
      simp only [replaceFirst, beq_iff_eq, same, if_false, Option.map_eq_some_iff] at replaced
      obtain ⟨rest', later, rfl⟩ := replaced
      have ih := find?_replaceFirst t later
      -- The head does not have the type written, so a search for it passes the head.
      by_cases here : c.type = t
      · subst here
        have differ : (d.type == c.type) = false := by simpa using same
        simp only [List.find?_cons, ih, if_true, differ]
      · simp [List.find?_cons, ih, here]

/-- Replacing the first condition of a type that is there, as a status write does. -/
theorem find?_replaceFirst_getD {c : Condition} {cs : List Condition}
    (found : (cs.find? (·.type == c.type)).isSome) (t : ConditionType) :
    ((replaceFirst cs c).getD cs).find? (·.type == t) =
      if c.type = t then some c else cs.find? (·.type == t) := by
  obtain ⟨cs', replaced⟩ := Option.isSome_iff_exists.mp (replaceFirst_isSome found)
  rw [replaced, Option.getD_some, find?_replaceFirst t replaced]

theorem set_observedGeneration (s : StatusType) (now : String) (c : Condition) :
    (s.set now c).observedGeneration = s.observedGeneration := by
  unfold set
  -- Neither branch of a write touches the generation.
  split <;> rfl

/-- Writing a condition leaves the other types reading as they did. -/
theorem get_set_of_ne (s : StatusType) (now : String) {c : Condition} {t : ConditionType}
    (other : c.type ≠ t) : (s.set now c).get t = s.get t := by
  unfold set get
  -- A condition of the type is replaced in place, or the new one is appended.
  split
  · rename_i old found
    rw [find?_replaceFirst_getD]
    · simp [other]
    · simp [found]
  -- An appended condition of another type is not found first.
  · simp [List.find?_append, other]

/-- The type written reads back as written, stamped with some transition time. -/
theorem get_set_self (s : StatusType) (now : String) {c : Condition} {t : ConditionType}
    (same : c.type = t) : ∃ time, (s.set now c).get t = { c with lastTransitionTime := some time } := by
  subst same
  unfold set get
  -- The time depends on the old condition, when there was one.
  split
  · rename_i old found
    refine ⟨if old.status != c.status then now else old.lastTransitionTime.getD now, ?_⟩
    rw [find?_replaceFirst_getD]
    · simp
    · simp [found]
  · rename_i missing
    -- An appended condition is the first of its type.
    exact ⟨now, by simp [List.find?_append, missing]⟩

/-- Removing one type leaves the other types reading as they did. -/
theorem get_remove_of_ne (s : StatusType) {t t' : ConditionType} (other : t ≠ t') :
    (s.remove t).get t' = s.get t' := by
  unfold remove get
  -- The filter drops only conditions of the removed type, which a search for t skips.
  rw [List.find?_filter]
  congr 2
  funext c
  by_cases same : c.type = t'
  · simp [same, Ne.symm other]
  · simp [same]

/-- A successful deletion leaves Installed False and Reconciled True, both for a successful
deletion. -/
theorem afterDelete_none (s : StatusType) (now : String) :
    ((s.afterDelete now none).get .installed).status = .no ∧
      ((s.afterDelete now none).get .installed).reason = some .deletionSuccessful ∧
      ((s.afterDelete now none).get .reconciled).status = .yes ∧
      ((s.afterDelete now none).get .reconciled).reason = some .deletionSuccessful := by
  -- Installed is written first and Reconciled after it, which leaves Installed as written.
  let s' := s.set now (.make .installed .no .deletionSuccessful "")
  obtain ⟨installedAt, installed⟩ :=
    get_set_self s now (c := .make .installed .no .deletionSuccessful "") (t := .installed) rfl
  obtain ⟨reconciledAt, reconciled⟩ :=
    get_set_self s' now (c := .make .reconciled .yes .deletionSuccessful "") (t := .reconciled) rfl
  have kept := get_set_of_ne s' now (c := .make .reconciled .yes .deletionSuccessful "") (t := .installed) (by decide)
  simp only [afterDelete]
  rw [kept, installed, reconciled]
  exact ⟨rfl, rfl, rfl, rfl⟩

theorem afterDelete_isDeleted (s : StatusType) (now : String) :
    (s.afterDelete now none).isDeleted = true := by
  simp [isDeleted, (afterDelete_none s now).1]

/-! Once Installed is True, passes only write Reconciled, until a deletion goes through. -/

/-- Reconciled is True, or False for a failed reconcile or a failed deletion. -/
def ReconciledOrFailed (s : StatusType) : Prop :=
  (s.get .reconciled).status = .yes ∨
    (s.get .reconciled).status = .no ∧
      ((s.get .reconciled).reason = some .reconcileError ∨ (s.get .reconciled).reason = some .deletionError)

/-- What a later pass may leave of a status whose Installed condition is True: that condition
exactly as it was, with Reconciled True or failed for a reconcile or a deletion; or, where
`clears` allows it, a confirmed deletion. -/
def Follows (clears : Prop) (before after : StatusType) : Prop :=
  before.isInstalled = true →
    (after.get .installed = before.get .installed ∧ after.ReconciledOrFailed) ∨
      (clears ∧ after.deletionConfirmed = true)

theorem isInstalled_iff (s : StatusType) : s.isInstalled = true ↔ (s.get .installed).status = .yes := by
  simp [isInstalled, Condition.isTrue]

/-- Writing Reconciled leaves Installed as it was and reads back with the status and reason
written. -/
theorem set_reconciled (s : StatusType) (now : String) (st : ConditionStatus) (r : ConditionReason)
    (m : String) :
    (s.set now (.make .reconciled st r m)).get .installed = s.get .installed ∧
      ((s.set now (.make .reconciled st r m)).get .reconciled).status = st ∧
      ((s.set now (.make .reconciled st r m)).get .reconciled).reason = some r := by
  obtain ⟨time, written⟩ := get_set_self s now (c := .make .reconciled st r m) (t := .reconciled) rfl
  exact ⟨get_set_of_ne s now (c := .make .reconciled st r m) (t := .installed)
    (by simp [Condition.make]),
    by rw [written]; rfl, by rw [written]; rfl⟩

/-- Allowing more to clear Installed keeps what a status follows. -/
theorem Follows.mono {clears clears' : Prop} {before after : StatusType}
    (follows : Follows clears before after) (allowed : clears → clears') :
    Follows clears' before after := by
  intro installed
  -- The same outcome; a clearance allowed before is allowed now.
  rcases follows installed with kept | ⟨cleared, confirmed⟩
  · exact Or.inl kept
  · exact Or.inr ⟨allowed cleared, confirmed⟩

/-- What follows a status follows any status with the same Installed condition. -/
theorem Follows.of_installed {clears : Prop} {before before' after : StatusType}
    (follows : Follows clears before after) (same : before'.get .installed = before.get .installed) :
    Follows clears before' after := by
  intro installed
  -- Both statuses have the same Installed, so both are installed.
  have installed₀ : before.isInstalled = true := by
    rw [isInstalled_iff, ← same]
    exact (isInstalled_iff before').mp installed
  rw [same]
  exact follows installed₀

/-- Once Installed is True, a reconcile pass writes only Reconciled: True after a success, False
for a reconcile failure otherwise. -/
theorem afterReconcile_follows (s : StatusType) (now : String) (err : Option Error) :
    Follows False s (s.afterReconcile now err) := by
  intro installed
  have yes : (s.get .installed).status = .yes := (isInstalled_iff s).mp installed
  left
  cases err with
  | none =>
    -- Installed is not rewritten, so only the success of the reconcile is recorded.
    have written := set_reconciled s now .yes .reconcileSuccessful ""
    simp only [afterReconcile, yes, bne_self_eq_false, Bool.false_eq_true, if_false]
    exact ⟨written.1, Or.inl written.2.1⟩
  | some e =>
    -- An Installed that is True is not Unknown, so the failure goes to Reconciled alone.
    have written := set_reconciled s now .no .reconcileError e.message
    have known : ((s.get .installed).status == .unknown) = false := by rw [yes]; rfl
    simp only [afterReconcile, known, Bool.false_eq_true, if_false]
    exact ⟨written.1, Or.inr ⟨written.2.1, Or.inl written.2.2⟩⟩

/-- A delete pass that failed writes only Reconciled, False for a failed deletion; one that went
through confirms the deletion. -/
theorem afterDelete_follows (s : StatusType) (now : String) (err : Option Error) :
    Follows (err = none) s (s.afterDelete now err) := by
  intro _
  cases err with
  | none =>
    right
    have deleted := afterDelete_none s now
    exact ⟨rfl, by simp [deletionConfirmed, deleted.1, deleted.2.1]⟩
  | some e =>
    left
    have written := set_reconciled s now .no .deletionError e.message
    exact ⟨written.1, Or.inr ⟨written.2.1, Or.inr written.2.2⟩⟩

/-! What a reconcile pass leaves of a status. -/

/-- A replacement, when there is one, is never empty. -/
theorem replaceFirst_ne_nil {c : Condition} :
    ∀ {cs cs' : List Condition}, replaceFirst cs c = some cs' → cs' ≠ []
  | [], _, replaced => by simp [replaceFirst] at replaced
  | d :: rest, cs', replaced => by
    unfold replaceFirst at replaced
    -- Either way the result starts with a condition.
    split at replaced
    · cases replaced
      exact List.cons_ne_nil _ _
    · obtain ⟨rest', -, rfl⟩ := Option.map_eq_some_iff.mp replaced
      exact List.cons_ne_nil _ _

/-- After a condition is stored there is at least one. -/
theorem set_conditions_ne_nil (s : StatusType) (now : String) (c : Condition) :
    (s.set now c).conditions ≠ [] := by
  unfold set
  split
  · rename_i old found
    show (replaceFirst s.conditions _).getD s.conditions ≠ []
    -- Some condition had the type, so the conditions were not empty, nor is their replacement.
    have present : s.conditions ≠ [] := fun empty => by simp [empty] at found
    -- A write that finds nothing to replace keeps the old, non-empty list.
    cases replaced : replaceFirst s.conditions _ with
    | none => exact present
    | some cs' => exact replaceFirst_ne_nil replaced
  · simp

theorem afterReconcile_conditions_ne_nil (s : StatusType) (now : String) (err : Option Error) :
    (s.afterReconcile now err).conditions ≠ [] := by
  unfold afterReconcile
  dsimp only
  -- Each branch ends with a write.
  split <;> split <;> exact set_conditions_ne_nil _ _ _

theorem afterReconcile_observedGeneration (s : StatusType) (now : String) (err : Option Error) :
    (s.afterReconcile now err).observedGeneration = s.observedGeneration := by
  unfold afterReconcile
  dsimp only
  -- Every branch is made of writes, which keep the generation.
  split <;> split <;> simp [set_observedGeneration]

/-- A pass without failure leaves Installed and Reconciled True. -/
theorem afterReconcile_none_settled (s : StatusType) (now : String) :
    (s.afterReconcile now none).isInstalled = true ∧ (s.afterReconcile now none).isReconciled = true := by
  unfold afterReconcile
  dsimp only
  split
  · -- Installed is written True first, then Reconciled leaves it so.
    obtain ⟨time, installed⟩ := get_set_self s now (c := .make .installed .yes .installSuccessful "")
      (t := .installed) rfl
    have written := set_reconciled (s.set now (.make .installed .yes .installSuccessful "")) now .yes
      .installSuccessful ""
    refine ⟨(isInstalled_iff _).mpr ?_, ?_⟩
    · rw [written.1, installed]
      rfl
    · simp [isReconciled, Condition.isTrue, written.2.1]
  -- Installed was True already, and writing Reconciled keeps it.
  · rename_i yes
    have yes : (s.get .installed).status = .yes := by simpa using yes
    have written := set_reconciled s now .yes .reconcileSuccessful ""
    refine ⟨(isInstalled_iff _).mpr (by rw [written.1, yes]), ?_⟩
    simp [isReconciled, Condition.isTrue, written.2.1]

/-- A pass with a failure leaves Reconciled False. -/
theorem afterReconcile_some_unreconciled (s : StatusType) (now : String) (e : Error) :
    (s.afterReconcile now (some e)).isReconciled = false := by
  unfold afterReconcile
  dsimp only
  -- Both branches write Reconciled False last.
  split
  · have written := set_reconciled (s.set now (.make .installed .no .installError e.message)) now .no
      .installError e.message
    simp [isReconciled, Condition.isTrue, written.2.1]
  · have written := set_reconciled s now .no .reconcileError e.message
    simp [isReconciled, Condition.isTrue, written.2.1]

end StatusType

end MeshControl
