import MeshControl.Proofs.Json.Fields

/-! JSON values as the cluster holds them, object keys ascending and numbers finite, equal
themselves under Json.beq; values are proved about by induction through items and fields. -/

namespace MeshControl

namespace Json

/-- Induction on values, with the hypothesis for every item and every field value. -/
@[induction_eliminator]
theorem induction {motive : Json → Prop} (null : motive .null) (bool : ∀ b, motive (.bool b))
    (num : ∀ n, motive (.num n)) (str : ∀ s, motive (.str s))
    (arr : ∀ items, (∀ x ∈ items, motive x) → motive (.arr items))
    (obj : ∀ fields, (∀ kv ∈ fields, motive kv.2) → motive (.obj fields)) (j : Json) :
    motive j :=
  -- The nested lists are reached through membership, so their motives are the pointwise ones.
  Json.rec (motive_2 := fun items => ∀ x ∈ items, motive x)
    (motive_3 := fun fields => ∀ kv ∈ fields, motive kv.2) (motive_4 := fun kv => motive kv.2)
    null bool num str arr obj (fun _ absent => nomatch absent)
    (fun _ _ head tail => List.forall_mem_cons.mpr ⟨head, tail⟩)
    (fun _ absent => nomatch absent)
    (fun _ _ head tail => List.forall_mem_cons.mpr ⟨head, tail⟩) (fun _ _ value => value) j

end Json

/-- A number as the cluster writes it: an integer, or a double that is finite and equal to
itself. -/
def Number.Finite : Number → Prop
  | .int _ => True
  | .float f => f.isNaN = false ∧ f.isInf = false ∧ (f == f) = true

namespace Json

mutual
/-- Object keys ascending at every depth, and every number finite. -/
def Canonical : Json → Prop
  | .num n => n.Finite
  | .arr items => canonicalItems items
  | .obj fields => Fields.Sorted fields ∧ canonicalFields fields
  | _ => True

/-- Every item canonical. -/
def canonicalItems : List Json → Prop
  | [] => True
  | x :: rest => Canonical x ∧ canonicalItems rest

/-- Every field value canonical. -/
def canonicalFields : List (String × Json) → Prop
  | [] => True
  | (_, v) :: rest => Canonical v ∧ canonicalFields rest
end

theorem canonicalItems_iff (items : List Json) : canonicalItems items ↔ ∀ x ∈ items, Canonical x := by
  induction items with
  | nil => simp [canonicalItems]
  | cons x rest ih => simp [canonicalItems, ih]

theorem canonicalFields_iff (fields : Fields) :
    canonicalFields fields ↔ ∀ kv ∈ fields, Canonical kv.2 := by
  induction fields with
  | nil => simp [canonicalFields]
  | cons kv rest ih =>
    obtain ⟨k, v⟩ := kv
    simp [canonicalFields, ih]

@[simp] theorem canonical_arr (items : List Json) :
    Canonical (.arr items) ↔ ∀ x ∈ items, Canonical x := by
  simp [Canonical, canonicalItems_iff]

@[simp] theorem canonical_obj (fields : Fields) :
    Canonical (.obj fields) ↔ fields.Sorted ∧ ∀ kv ∈ fields, Canonical kv.2 := by
  simp [Canonical, canonicalFields_iff]

@[simp] theorem canonical_num (n : Number) : Canonical (.num n) ↔ n.Finite := Iff.rfl

@[simp] theorem canonical_null : Canonical .null := trivial

@[simp] theorem canonical_bool (b : Bool) : Canonical (.bool b) := trivial

@[simp] theorem canonical_str (s : String) : Canonical (.str s) := trivial

instance (n : Number) : Decidable n.Finite :=
  match n with
  | .int _ => isTrue trivial
  | .float f => inferInstanceAs (Decidable (f.isNaN = false ∧ f.isInf = false ∧ (f == f) = true))

mutual
/-- Decides whether a value is canonical, following the value. -/
def decCanonical : (j : Json) → Decidable j.Canonical
  | .null => isTrue trivial
  | .bool _ => isTrue trivial
  | .num n => inferInstanceAs (Decidable n.Finite)
  | .str _ => isTrue trivial
  | .arr items => decCanonicalItems items
  | .obj fields => @instDecidableAnd _ _ (inferInstanceAs (Decidable (Fields.Sorted fields))) (decCanonicalFields fields)

/-- Decides whether every item is canonical. -/
def decCanonicalItems : (items : List Json) → Decidable (canonicalItems items)
  | [] => isTrue trivial
  | x :: rest => @instDecidableAnd _ _ (decCanonical x) (decCanonicalItems rest)

/-- Decides whether every field value is canonical. -/
def decCanonicalFields : (fields : List (String × Json)) → Decidable (canonicalFields fields)
  | [] => isTrue trivial
  | (_, v) :: rest => @instDecidableAnd _ _ (decCanonical v) (decCanonicalFields rest)
end

instance : DecidablePred Canonical := decCanonical

theorem beqItems_self {items : List Json} (each : ∀ x ∈ items, x.beq x = true) :
    beqItems items items = true := by
  induction items with
  | nil => rfl
  | cons x rest ih =>
    -- Items compare pairwise, each against itself.
    simp only [beqItems, Bool.and_eq_true]
    exact ⟨each x List.mem_cons_self, ih fun y mem => each y (List.mem_cons_of_mem _ mem)⟩

theorem beqFields_self {fields : Fields} (each : ∀ kv ∈ fields, kv.2.beq kv.2 = true) :
    beqFields fields fields = true := by
  induction fields with
  | nil => rfl
  | cons kv rest ih =>
    obtain ⟨k, v⟩ := kv
    -- Keys compare by equality, values against themselves.
    simp only [beqFields, beq_self_eq_true, Bool.true_and, Bool.and_eq_true]
    exact ⟨each _ List.mem_cons_self, ih fun y mem => each y (List.mem_cons_of_mem _ mem)⟩

/-- A canonical value equals itself. -/
theorem Canonical.beq_self {j : Json} (canonical : j.Canonical) : j.beq j = true := by
  induction j with
  | null => rfl
  | bool b => simp [beq]
  | num n =>
    cases n with
    | int i => simp [beq, Number.beq]
    -- A finite double equals itself, which a NaN would not.
    | float f => simpa [beq, Number.beq] using canonical.2.2
  | str s => simp [beq]
  | arr items ih =>
    -- Containers compare item by item, each canonical in its turn.
    rw [canonical_arr] at canonical
    exact beqItems_self fun x mem => ih x mem (canonical x mem)
  | obj fields ih =>
    rw [canonical_obj] at canonical
    exact beqFields_self fun kv mem => ih kv mem (canonical.2 kv mem)

mutual
/-- Whether a value holds no double. -/
def floatFree : Json → Bool
  | .num (.float _) => false
  | .arr items => floatFreeItems items
  | .obj fields => floatFreeFields fields
  | _ => true

/-- Whether no item holds a double. -/
def floatFreeItems : List Json → Bool
  | [] => true
  | x :: rest => floatFree x && floatFreeItems rest

/-- Whether no field value holds a double. -/
def floatFreeFields : List (String × Json) → Bool
  | [] => true
  | (_, v) :: rest => floatFree v && floatFreeFields rest
end

theorem eq_of_beqItems {xs ys : List Json}
    (each : ∀ y ∈ ys, ∀ {x : Json}, y.floatFree = true → x.beq y = true → x = y)
    (flat : floatFreeItems ys = true) (same : beqItems xs ys = true) : xs = ys := by
  induction ys generalizing xs with
  | nil => cases xs <;> simp_all [beqItems]
  | cons y rest ih =>
    -- Lists of different lengths never compare equal.
    cases xs with
    | nil => simp [beqItems] at same
    | cons x xs =>
      simp only [beqItems, floatFreeItems, Bool.and_eq_true] at same flat
      rw [each y List.mem_cons_self flat.1 same.1,
        ih (fun z mem => each z (List.mem_cons_of_mem _ mem)) flat.2 same.2]

theorem eq_of_beqFields {xs ys : Fields}
    (each : ∀ kv ∈ ys, ∀ {x : Json}, kv.2.floatFree = true → x.beq kv.2 = true → x = kv.2)
    (flat : floatFreeFields ys = true) (same : beqFields xs ys = true) : xs = ys := by
  induction ys generalizing xs with
  | nil => cases xs <;> simp_all [beqFields]
  | cons kv rest ih =>
    obtain ⟨l, y⟩ := kv
    cases xs with
    | nil => simp [beqFields] at same
    | cons kx xs =>
      obtain ⟨k, x⟩ := kx
      -- Equal keys and values that compare equal are equal.
      simp only [beqFields, floatFreeFields, Bool.and_eq_true, beq_iff_eq] at same flat
      rw [same.1.1, each (l, y) List.mem_cons_self flat.1 same.1.2,
        ih (fun z mem => each z (List.mem_cons_of_mem _ mem)) flat.2 same.2]

/-- Without doubles, values equal under `Json.beq` are equal. -/
theorem eq_of_beq {x y : Json} (flat : y.floatFree = true) (same : x.beq y = true) : x = y := by
  induction y generalizing x with
  | null => cases x <;> simp_all [beq]
  | bool b => cases x <;> simp_all [beq]
  | num n =>
    cases n with
    -- Integers compare by value; a double on the left never equals one.
    | int i => cases x with
      | num m => cases m <;> simp_all [beq, Number.beq]
      | _ => simp [beq] at same
    -- A double on the right is excluded.
    | float f => simp [floatFree] at flat
  | str s => cases x <;> simp_all [beq]
  | arr items ih =>
    -- Containers of another shape never compare equal.
    cases x with
    | arr xs => rw [eq_of_beqItems ih flat same]
    | _ => simp [beq] at same
  | obj fields ih =>
    cases x with
    | obj xs => rw [eq_of_beqFields ih flat same]
    | _ => simp [beq] at same

end Json

end MeshControl
