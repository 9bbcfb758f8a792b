import MeshControl.Proofs.Engine.Apply

/-! Bookkeeping marks a desired object as the control plane's before it is written: owner label,
mesh-generation annotation, and a controller reference or the member-of label. -/

namespace MeshControl

namespace TextMap

@[simp] theorem get?_nil (k : String) : TextMap.get? [] k = none := rfl

/-- A key stored reads back with its value. -/
@[simp] theorem get?_insert_self (m : TextMap) (k v : String) : (m.insert k v).get? k = some v := by
  induction m with
  | nil => simp [insert, get?]
  | cons e rest ih =>
    obtain ⟨k', v'⟩ := e
    simp only [insert]
    -- The key goes in front of a larger key, or replaces an equal one.
    split
    · simp [get?]
    split
    · simp [get?]
    · -- The new key goes further down, past a key that differs from it.
      rename_i differ
      simpa [get?, Ne.symm (by simpa using differ : k ≠ k')] using ih

/-- Storing a key leaves every other key as it was. -/
@[simp] theorem get?_insert_of_ne (m : TextMap) {k j : String} (v : String) (other : j ≠ k) :
    (m.insert k v).get? j = m.get? j := by
  induction m with
  | nil => simp [insert, get?, Ne.symm other]
  | cons e rest ih =>
    obtain ⟨k', v'⟩ := e
    simp only [insert]
    -- Inserted in front of a larger key, the new key is not the one read.
    split
    · simp [get?, Ne.symm other]
    split
    · rename_i same
      have same : k = k' := by simpa using same
      subst same
      simp [get?, Ne.symm other]
    -- The head stays in front, and the insertion goes further down.
    · by_cases here : k' = j
      · simp [get?, here]
      · simpa [get?, here] using ih

/-- Storing the same value under a key twice stores it once. -/
@[simp] theorem insert_insert_self (m : TextMap) (k v : String) :
    (m.insert k v).insert k v = m.insert k v := by
  induction m with
  | nil => simp [insert]
  | cons e rest ih =>
    obtain ⟨k', v'⟩ := e
    simp only [insert]
    -- The second insertion finds the key where the first put it.
    split
    · simp [insert]
    split
    · simp [insert]
    · rename_i later differ
      simp [insert, later, differ, ih]

/-- Storing under two different keys gives the same map in either order. -/
theorem insert_comm (m : TextMap) {a b : String} (x y : String) (differ : a ≠ b) :
    (m.insert a x).insert b y = (m.insert b y).insert a x := by
  induction m with
  | nil =>
    -- One of the two keys is the smaller, and goes first either way.
    rcases lt_or_gt_of_ne differ with below | above <;> simp only [insert] <;> grind
  | cons e rest ih =>
    obtain ⟨k, v⟩ := e
    -- Each key goes before the entry, replaces it or goes further down; where both go further
    -- down the induction hypothesis swaps them.
    rcases lt_trichotomy a k with aBelow | aHere | aAbove <;>
      rcases lt_trichotomy b k with bBelow | bHere | bAbove <;>
      simp only [insert] <;> grind [insert]

end TextMap

namespace Object

/-- The value of a label; none where the object has no labels. -/
def label? (o : Object) (k : String) : Option String := o.metadata.labels.bind (·.get? k)

/-- The value of an annotation; none where the object has no annotations. -/
def annotation? (o : Object) (k : String) : Option String := o.metadata.annotations.bind (·.get? k)

theorem label?_eq (o : Object) (k : String) : o.label? k = (o.metadata.labels.getD []).get? k := by
  unfold label?
  cases o.metadata.labels <;> rfl

theorem annotation?_eq (o : Object) (k : String) :
    o.annotation? k = (o.metadata.annotations.getD []).get? k := by
  unfold annotation?
  cases o.metadata.annotations <;> rfl

/-- Metadata without labels, annotations and owner references. -/
def unmarked (o : Object) : ObjectMeta :=
  { o.metadata with labels := none, annotations := none, ownerReferences := none }

/-- Two objects that differ at most in labels, annotations and owner references. -/
def SameButMarks (o o₁ : Object) : Prop :=
  o₁.types = o.types ∧ o₁.data = o.data ∧ o₁.unmarked = o.unmarked

end Object

namespace Context

/-- Whether bookkeeping makes the control plane the controller of an object: they share a
namespace and the control plane has a name and a uid. -/
def owns (ctx : Context) (o : Object) : Bool :=
  o.metadata.ns == some ctx.ns && ctx.controlPlane.ownerReference.isSome

variable (ctx : Context) (o : Object)

/-- Bookkeeping spelt out by whether the control plane becomes the controller. -/
theorem bookkeeping_eq :
    ctx.bookkeeping o =
      { o with metadata := { o.metadata with
          labels := some (if ctx.owns o then (o.metadata.labels.getD []).insert ownerLabel ctx.ns
            else ((o.metadata.labels.getD []).insert ownerLabel ctx.ns).insert memberOfLabel ctx.ns),
          annotations := some ((o.metadata.annotations.getD []).insert meshGenerationAnnotation
            ctx.meshGeneration),
          ownerReferences := match ctx.controlPlane.ownerReference with
            | some owner => if ctx.owns o then
                some ((o.metadata.ownerReferences.getD []).filter (·.uid != owner.uid) ++ [owner])
              else o.metadata.ownerReferences
            | none => o.metadata.ownerReferences } } := by
  unfold bookkeeping owns
  -- Ownership needs a reference to the control plane and a shared namespace.
  cases owner : ctx.controlPlane.ownerReference with
  | none => simp
  | some owner =>
    by_cases same : o.metadata.ns = some ctx.ns <;> simp [same]

/-- Only labels, annotations and owner references change. -/
theorem bookkeeping_sameButMarks : o.SameButMarks (ctx.bookkeeping o) := by
  rw [bookkeeping_eq]
  exact ⟨rfl, rfl, rfl⟩

/-- The owner label names the control plane's namespace; the member-of label does too on an
object the control plane does not own; every other label is kept. -/
theorem bookkeeping_label? (k : String) :
    (ctx.bookkeeping o).label? k =
      if k = ownerLabel then some ctx.ns
      else if k = memberOfLabel ∧ ctx.owns o = false then some ctx.ns
      else o.label? k := by
  have differ : ownerLabel ≠ memberOfLabel := by decide
  rw [Object.label?_eq, Object.label?_eq, bookkeeping_eq]
  -- The owner label is always set; the member-of label only without ownership.
  by_cases owner : k = ownerLabel
  · subst owner
    cases ctx.owns o <;> simp [differ]
  · by_cases member : k = memberOfLabel
    · subst member
      cases ctx.owns o <;> simp [owner]
    · cases ctx.owns o <;> simp [owner, member]

/-- The mesh-generation annotation is the context's; every other annotation is kept. -/
theorem bookkeeping_annotation? (k : String) :
    (ctx.bookkeeping o).annotation? k =
      if k = meshGenerationAnnotation then some ctx.meshGeneration else o.annotation? k := by
  rw [Object.annotation?_eq, Object.annotation?_eq, bookkeeping_eq]
  -- Only the mesh-generation annotation is set.
  by_cases mesh : k = meshGenerationAnnotation
  · subst mesh
    simp
  · simp [mesh]

/-- On an object the control plane owns, the references to its uid are replaced by one
controller reference to it, placed last. -/
theorem bookkeeping_ownerReferences_of_owns {owner : OwnerReference}
    (reference : ctx.controlPlane.ownerReference = some owner) (owned : ctx.owns o = true) :
    (ctx.bookkeeping o).metadata.ownerReferences =
      some ((o.metadata.ownerReferences.getD []).filter (·.uid != owner.uid) ++ [owner]) := by
  rw [bookkeeping_eq]
  simp [reference, owned]

/-- On an object the control plane does not own, the owner references are kept. -/
theorem bookkeeping_ownerReferences_of_not_owns (owned : ctx.owns o = false) :
    (ctx.bookkeeping o).metadata.ownerReferences = o.metadata.ownerReferences := by
  rw [bookkeeping_eq]
  -- Without ownership the references are left alone, with or without a reference.
  cases ctx.controlPlane.ownerReference <;> simp [owned]

/-- Bookkeeping keeps the namespace, so whether the control plane owns an object. -/
@[simp] theorem owns_bookkeeping : ctx.owns (ctx.bookkeeping o) = ctx.owns o := by
  rw [bookkeeping_eq]
  rfl

/-- Marking an object twice is marking it once. -/
theorem bookkeeping_bookkeeping : ctx.bookkeeping (ctx.bookkeeping o) = ctx.bookkeeping o := by
  have differ : ownerLabel ≠ memberOfLabel := by decide
  rw [bookkeeping_eq ctx (ctx.bookkeeping o), owns_bookkeeping, bookkeeping_eq ctx o]
  -- Each mark stores what is already stored; the member-of label is stored after the owner
  -- label, which swaps past it.
  cases ctx.controlPlane.ownerReference <;> cases ctx.owns o <;>
    simp [TextMap.insert_comm _ _ _ differ, List.filter_append, List.filter_filter]

end Context

/-- The reference bookkeeping gives to a control plane with a name and a uid: a controller
reference of its kind. -/
theorem ControlPlane.ownerReference_eq_some (cp : ControlPlane) {name uid : String}
    (named : cp.metadata.name = some name) (identified : cp.metadata.uid = some uid) :
    cp.ownerReference = some
      { apiVersion := controlPlaneGroup ++ "/" ++ controlPlaneVersion, kind := controlPlaneKind,
        name, uid, controller := some true } := by
  simp [ControlPlane.ownerReference, named, identified]

/-- A control plane without a name or a uid gives no reference. -/
theorem ControlPlane.ownerReference_isSome (cp : ControlPlane) :
    cp.ownerReference.isSome = (cp.metadata.name.isSome && cp.metadata.uid.isSome) := by
  unfold ControlPlane.ownerReference
  -- A reference needs both the name and the uid.
  cases cp.metadata.name <;> cases cp.metadata.uid <;> rfl

/-- **Bookkeeping is exact and idempotent.** Each mark is set as the rule says, a controller
reference only where the control plane owns the object; nothing else changes; marking twice is once. -/
theorem bookkeeping_exact (cp : ControlPlane) (version : String) (hooks : Hooks) (o : Object) :
    let ctx := Context.make cp version hooks
    let marked := ctx.bookkeeping o
    let owned := o.metadata.ns == some cp.ns && cp.metadata.name.isSome && cp.metadata.uid.isSome
    o.SameButMarks marked ∧
    (∀ k, marked.label? k =
      if k = ownerLabel then some cp.ns
      else if k = memberOfLabel ∧ owned = false then some cp.ns
      else o.label? k) ∧
    (∀ k, marked.annotation? k =
      if k = meshGenerationAnnotation then
        some (version ++ "-" ++ toString (cp.metadata.generation.getD 0))
      else o.annotation? k) ∧
    (∀ name uid, owned = true → cp.metadata.name = some name → cp.metadata.uid = some uid →
      let owner : OwnerReference :=
        { apiVersion := controlPlaneGroup ++ "/" ++ controlPlaneVersion, kind := controlPlaneKind,
          name, uid, controller := some true }
      marked.metadata.ownerReferences =
        some ((o.metadata.ownerReferences.getD []).filter (·.uid != uid) ++ [owner]) ∧
      ((marked.metadata.ownerReferences.getD []).filter (·.uid == uid)) = [owner] ∧
      (marked.metadata.ownerReferences.getD []).getLast? = some owner) ∧
    (owned = false → marked.metadata.ownerReferences = o.metadata.ownerReferences) ∧
    ctx.bookkeeping marked = marked := by
  intro ctx marked owned
  -- The context owns an object exactly when the statement's condition holds.
  have owns : ctx.owns o = owned := by
    simp only [Context.owns, ControlPlane.ownerReference_isSome, owned, Bool.and_assoc]
    rfl
  refine ⟨ctx.bookkeeping_sameButMarks o, fun k => ?_, fun k => ctx.bookkeeping_annotation? o k,
    fun name uid isOwned named identified => ?_, fun notOwned => ?_, ctx.bookkeeping_bookkeeping o⟩
  -- The labels follow from the rule for labels.
  · rw [ctx.bookkeeping_label? o k, owns]
    rfl
  · have replaced := ctx.bookkeeping_ownerReferences_of_owns o
      (ControlPlane.ownerReference_eq_some cp named identified) (owns.trans isOwned)
    refine ⟨replaced, ?_, ?_⟩
    · -- The references kept all carry another uid.
      rw [replaced]
      simp [List.filter_append, List.filter_filter]
    -- The controller reference is the last one.
    · rw [replaced]
      simp
  · exact ctx.bookkeeping_ownerReferences_of_not_owns o (owns.trans notOwned)

end MeshControl
