import MeshControl.Operator.Loop

/-! Failures of a pass gathered into aggregates: however deep the parts nest, an aggregate holds
the plain failures at its leaves, left to right, and its text, result and retry delay follow. -/

namespace MeshControl

/-- Whether a failure is an aggregate. -/
def Error.isAggregate : Error → Bool
  | .aggregate _ => true
  | _ => false

/-- The failures that clear on their own: an API failure, a conflict or a gone object. -/
def Error.Transient (e : Error) : Prop :=
  (∃ f, e = .kube f) ∨ (∃ s, e = .conflict s) ∨ (∃ s, e = .gone s)

namespace Error

/-- The texts of several failures are joined by a comma and a blank. -/
theorem messages_eq_intercalate : ∀ es : List Error, messages es = ", ".intercalate (es.map message)
  | [] => by simp [messages]
  | [e] => by simp [messages]
  | e :: e' :: rest => by
    -- rest) :: The first text, a comma, then the rest joined the same way.
    simp only [messages, messages_eq_intercalate (e' :: rest), List.map_cons,
      String.intercalate_cons_cons]

theorem anyRetriable_eq_any : ∀ es : List Error, anyRetriable es = es.any isRetriable
  | [] => rfl
  | e :: rest => by rw [anyRetriable, anyRetriable_eq_any rest, List.any_cons]

/-- A failure that is no aggregate is retried quickly exactly when it is transient. -/
theorem isRetriable_iff_transient {e : Error} (plain : e.isAggregate = false) :
    e.isRetriable = true ↔ e.Transient := by
  -- The transient kinds are exactly the ones retried quickly.
  cases e <;> simp_all [isRetriable, Transient, isAggregate]

/-- An aggregate is retried quickly when one of its members is. -/
theorem isRetriable_aggregate (es : List Error) :
    (Error.aggregate es).isRetriable = es.any isRetriable := by
  rw [isRetriable, anyRetriable_eq_any]

end Error

namespace Aggregate

/-- Pushing an aggregate adds its members. -/
theorem push_aggregate (agg : Aggregate) (es : List Error) :
    agg.push (.aggregate es) = ⟨agg.errors ++ es⟩ := rfl

/-- Pushing any other failure adds the failure itself. -/
theorem push_of_plain (agg : Aggregate) {e : Error} (plain : e.isAggregate = false) :
    agg.push e = ⟨agg.errors ++ [e]⟩ := by
  -- Only an aggregate is spread.
  cases e <;> simp_all [push, Error.isAggregate]

/-- How a failure of a pass is put together: a plain failure, or an aggregate collected from
the outcomes of its parts in order. -/
inductive Tree where
  | leaf (e : Error) (plain : e.isAggregate = false)
  | node (outcomes : List (Except Tree Unit))

namespace Tree

mutual
/-- The failure a tree stands for. -/
def toError : Tree → Error
  | leaf e _ => e
  | node outcomes => .aggregate (gather {} outcomes).errors

/-- Collects the outcomes of parts into an aggregate, one after another. -/
def gather : Aggregate → List (Except Tree Unit) → Aggregate
  | agg, [] => agg
  | agg, .ok () :: rest => gather agg rest
  | agg, .error t :: rest => gather (agg.collect (.error t.toError)) rest
end

mutual
/-- The plain failures of a tree, left to right. -/
def leaves : Tree → List Error
  | leaf e _ => [e]
  | node outcomes => leavesOf outcomes

/-- The plain failures of the failed outcomes, left to right. -/
def leavesOf : List (Except Tree Unit) → List Error
  | [] => []
  | .ok () :: rest => leavesOf rest
  | .error t :: rest => t.leaves ++ leavesOf rest
end

mutual
/-- Pushing the failure of a tree adds its leaves. -/
theorem push_toError (agg : Aggregate) : ∀ t : Tree, (agg.push t.toError).errors = agg.errors ++ t.leaves
  -- A plain failure adds itself.
  | leaf e plain => by rw [toError, push_of_plain agg plain, leaves]
  | node outcomes => by
    -- The members an aggregate adds are what gathering its parts left, by induction.
    rw [toError, push_aggregate, errors_gather {} outcomes, leaves]
    rfl

/-- Gathering outcomes adds the leaves of the failed ones, in order. -/
theorem errors_gather : ∀ (agg : Aggregate) (outcomes : List (Except Tree Unit)),
    (gather agg outcomes).errors = agg.errors ++ leavesOf outcomes
  -- A success adds nothing; a failure adds the leaves of its tree.
  | agg, [] => by rw [gather, leavesOf, List.append_nil]
  | agg, .ok () :: rest => by rw [gather, leavesOf, errors_gather agg rest]
  | agg, .error t :: rest => by
    rw [gather, leavesOf, errors_gather _ rest, collect, push_toError, List.append_assoc]
end

mutual
/-- No leaf is an aggregate. -/
theorem leaves_plain : ∀ t : Tree, ∀ e ∈ t.leaves, e.isAggregate = false
  | leaf e plain => by
    intro e' mem
    -- A leaf was built plain.
    rw [leaves, List.mem_singleton] at mem
    exact mem ▸ plain
  | node outcomes => by
    rw [leaves]
    exact leavesOf_plain outcomes

theorem leavesOf_plain : ∀ outcomes : List (Except Tree Unit), ∀ e ∈ leavesOf outcomes,
    e.isAggregate = false
  | [] => by simp [leavesOf]
  | .ok () :: rest => by
    rw [leavesOf]
    exact leavesOf_plain rest
  | .error t :: rest => by
    intro e mem
    rw [leavesOf, List.mem_append] at mem
    -- A leaf of a failed part, or of the parts after it.
    rcases mem with inTree | inRest
    · exact leaves_plain t e inTree
    · exact leavesOf_plain rest e inRest
end

/-- Pushing, collecting one by one and collecting a whole list are the same gathering. -/
theorem ofList_eq_gather (ts : List Tree) :
    Aggregate.ofList (ts.map toError) = gather {} (ts.map .error) := by
  -- Both fold the same pushes over the parts; the accumulator is left free for the induction.
  suffices ∀ agg : Aggregate,
      (ts.map toError).foldl push agg = gather agg (ts.map .error) from this {}
  induction ts with
  | nil => intro agg; rfl
  | cons t rest ih =>
    intro agg
    rw [List.map_cons, List.foldl_cons, List.map_cons, gather, ih]
    rfl

/-- **Aggregates flatten.** However deep the parts nest, the aggregate holds exactly the plain
leaves in order; its text, its result and its retry delay (15 s if a leaf is transient) follow. -/
theorem gather_flattens (outcomes : List (Except Tree Unit)) :
    (gather {} outcomes).errors = leavesOf outcomes ∧
      (∀ e ∈ (gather {} outcomes).errors, e.isAggregate = false) ∧
      (gather {} outcomes).message =
        "[" ++ ", ".intercalate ((leavesOf outcomes).map Error.message) ++ "]" ∧
      (leavesOf outcomes = [] → (gather {} outcomes).toResult = .ok ()) ∧
      (∀ e, leavesOf outcomes = [e] → (gather {} outcomes).toResult = .error e) ∧
      (2 ≤ (leavesOf outcomes).length →
        (gather {} outcomes).toResult = .error (.aggregate (leavesOf outcomes))) ∧
      ((node outcomes).toError.isRetriable = true ↔ ∃ e ∈ leavesOf outcomes, e.Transient) ∧
      (retryDelay (node outcomes).toError = 15000 ↔ ∃ e ∈ leavesOf outcomes, e.Transient) ∧
      (retryDelay (node outcomes).toError = 60000 ↔ ¬ ∃ e ∈ leavesOf outcomes, e.Transient) := by
  have flat : (gather {} outcomes).errors = leavesOf outcomes := by
    -- Gathering from nothing holds the leaves alone.
    rw [errors_gather, List.nil_append]
  -- Whether the aggregate is retried quickly is decided leaf by leaf.
  have retriable : (node outcomes).toError.isRetriable = true ↔
      ∃ e ∈ leavesOf outcomes, e.Transient := by
    rw [toError, Error.isRetriable_aggregate, flat, List.any_eq_true]
    constructor
    · rintro ⟨e, mem, quick⟩
      exact ⟨e, mem, (Error.isRetriable_iff_transient (leavesOf_plain outcomes e mem)).mp quick⟩
    · rintro ⟨e, mem, transient⟩
      exact ⟨e, mem, (Error.isRetriable_iff_transient (leavesOf_plain outcomes e mem)).mpr transient⟩
  refine ⟨flat, flat ▸ leavesOf_plain outcomes, ?_, ?_, ?_, ?_, retriable, ?_, ?_⟩
  -- The text is the members' texts joined, in brackets.
  · rw [message, flat, Error.messages_eq_intercalate]
  -- The result reads the number of members, here none, then one.
  · intro none
    rw [toResult, flat, none]
  · intro e one
    rw [toResult, flat, one]
  · intro several
    -- Two leaves or more take the last branch of the result.
    rcases shape : leavesOf outcomes with _ | ⟨a, _ | ⟨b, rest⟩⟩
    · simp [shape] at several
    · simp [shape] at several
    · rw [toResult, flat, shape]
  -- The delay follows whether the aggregate is retried quickly.
  · rw [← retriable, retryDelay]
    cases (node outcomes).toError.isRetriable <;> simp
  · rw [← retriable, retryDelay]
    cases (node outcomes).toError.isRetriable <;> simp

end Tree

end Aggregate

end MeshControl
