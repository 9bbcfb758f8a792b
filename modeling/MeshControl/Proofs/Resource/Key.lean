import Mathlib.Data.List.TakeDrop
import Mathlib.Data.List.TakeWhile
import MeshControl.Resource.Object

/-! Keys read off objects and objects built from keys: an apiVersion splits at its first slash
into group and version, and keys and their placeholders round trip. -/

namespace MeshControl

/-- An apiVersion whose first slash follows `g` splits into `g` and what follows the slash. -/
theorem splitApiVersion_of_first {s : String} {g v : List Char} (noSlash : '/' ∉ g)
    (written : s.toList = g ++ '/' :: v) :
    splitApiVersion s = (String.ofList g, String.ofList v) := by
  -- Every character of the group passes the search, so it stops at the slash.
  have free : ∀ c ∈ g, (c != '/') = true := fun c mem => by
    simp only [bne_iff_ne, ne_eq]
    rintro rfl
    exact noSlash mem
  unfold splitApiVersion
  rw [List.span_eq_takeWhile_dropWhile, written, List.takeWhile_append_of_pos free,
    List.dropWhile_append_of_pos free]
  simp

/-- What a split leaves: no slash at all, in the core group; or a group without a slash, the
first slash, and the version after it. -/
theorem splitApiVersion_cases (s : String) :
    ((splitApiVersion s).1 = "" ∧ (splitApiVersion s).2 = s ∧ '/' ∉ s.toList) ∨
      ('/' ∉ (splitApiVersion s).1.toList ∧
        s.toList = (splitApiVersion s).1.toList ++ '/' :: (splitApiVersion s).2.toList) := by
  cases dropped : s.toList.dropWhile (· != '/') with
  | nil =>
    -- The search ran through: there is no slash.
    have noSlash : '/' ∉ s.toList := fun mem => by
      simpa using List.dropWhile_eq_nil_iff.mp dropped '/' mem
    left
    unfold splitApiVersion
    rw [List.span_eq_takeWhile_dropWhile, dropped]
    exact ⟨rfl, rfl, noSlash⟩
  | cons c version =>
    -- The search stopped at a character, which is the first slash.
    have slash : c = '/' := by
      have stop := List.head_dropWhile_not (· != '/') (l := s.toList) (by simp [dropped])
      simpa [dropped] using stop
    subst slash
    have noSlash : '/' ∉ s.toList.takeWhile (· != '/') := fun mem => by
      simpa using List.mem_takeWhile_imp mem
    have written : s.toList = s.toList.takeWhile (· != '/') ++ '/' :: version := by
      rw [← dropped, List.takeWhile_append_dropWhile]
    right
    rw [splitApiVersion_of_first noSlash written, String.toList_ofList, String.toList_ofList]
    exact ⟨noSlash, written⟩

/-- An apiVersion without a slash is a version of the core group. -/
theorem splitApiVersion_of_not_mem {s : String} (noSlash : '/' ∉ s.toList) :
    splitApiVersion s = ("", s) := by
  -- A text without a slash can only have split the first way.
  rcases splitApiVersion_cases s with ⟨group, version, -⟩ | ⟨-, written⟩
  · exact Prod.ext group version
  · exact absurd (written ▸ List.mem_append_right _ List.mem_cons_self) noSlash

/-- A group without a slash and a version split back apart at the slash between them. -/
theorem splitApiVersion_group {g v : String} (noSlash : '/' ∉ g.toList) :
    splitApiVersion (g ++ "/" ++ v) = (g, v) := by
  -- The written key spells group, slash, version.
  have written : (g ++ "/" ++ v).toList = g.toList ++ '/' :: v.toList := by
    simp [String.toList_append]
  rw [splitApiVersion_of_first noSlash written, String.ofList_toList, String.ofList_toList]

namespace Object

/-- An object has a key exactly when it has a type whose kind and apiVersion are set and a
non-empty name; the key is then read off them. -/
theorem key_eq_ok_iff {o : Object} {k : ResourceKey} :
    o.key = .ok k ↔ ∃ t, o.types = some t ∧ t.kind ≠ "" ∧ t.apiVersion ≠ "" ∧
      o.metadata.name = some k.name ∧ k.name ≠ "" ∧
      splitApiVersion t.apiVersion = (k.group, k.version) ∧ k.kind = t.kind ∧ k.ns = o.ns := by
  unfold Object.key
  cases typed : o.types with
  | none => simp
  | some t =>
    -- The checks run in order: the type's fields, then the name.
    by_cases blank : t.kind.isEmpty || t.apiVersion.isEmpty
    -- A type with an empty field has no key.
    · have unset : t.kind = "" ∨ t.apiVersion = "" := by
        simpa [String.isEmpty_iff] using blank
      simp only [blank, if_true, reduceCtorEq, false_iff]
      rintro ⟨t', same, kind, api, -⟩
      cases same
      exact unset.elim kind api
    · have set : t.kind ≠ "" ∧ t.apiVersion ≠ "" := by
        simpa [String.isEmpty_iff, not_or] using blank
      simp only [blank, Bool.false_eq_true, if_false]
      -- Then the name must be set and non-empty.
      cases named : o.metadata.name with
      | none => simp
      | some n =>
        by_cases unnamed : n.isEmpty
        · simp only [unnamed, if_true, reduceCtorEq, false_iff]
          rintro ⟨t', -, -, -, same, name, -⟩
          cases same
          exact name (String.isEmpty_iff.mp unnamed)
        · simp only [unnamed, Bool.false_eq_true, if_false, Except.ok.injEq, Option.some.injEq]
          -- The key read off is determined by the type, the name and the namespace.
          constructor
          · rintro rfl
            exact ⟨t, rfl, set.1, set.2, rfl, by simpa [String.isEmpty_iff] using unnamed, rfl, rfl, rfl⟩
          · rintro ⟨t', same, -, -, rfl, -, split, kind, ns⟩
            cases same
            cases k
            simp only at split kind ns
            rw [split, kind, ns]

end Object

namespace ResourceKey

/-- The apiVersion of a key is empty only when both its group and its version are. -/
theorem apiVersion_eq_empty_iff (k : ResourceKey) :
    k.apiVersion = "" ↔ k.group = "" ∧ k.version = "" := by
  unfold apiVersion
  by_cases core : k.group = ""
  · simp [core]
  -- With a group, the apiVersion holds at least the slash.
  · have written : (k.group ++ "/" ++ k.version).toList ≠ [] := by
      simp [String.toList_append]
    simp only [String.isEmpty_iff, core, if_false, false_and, iff_false]
    exact fun empty => written (by rw [empty]; rfl)

/-- A key's group and version split back apart from its apiVersion exactly when the group has no
slash, nor the version of a key in the core group. -/
theorem splitApiVersion_apiVersion_iff (k : ResourceKey) :
    splitApiVersion k.apiVersion = (k.group, k.version) ↔
      '/' ∉ k.group.toList ∧ (k.group = "" → '/' ∉ k.version.toList) := by
  unfold apiVersion
  by_cases core : k.group = ""
  · -- In the core group the apiVersion is the version, which splits as itself only without a slash.
    simp only [core, String.isEmpty_iff, if_true, true_implies]
    constructor
    · intro split
      refine ⟨by simp, fun mem => ?_⟩
      rcases splitApiVersion_cases k.version with ⟨-, -, noSlash⟩ | ⟨-, written⟩
      · exact noSlash mem
      -- A slash would make the group empty and the version shorter.
      · rw [split] at written
        simpa using congrArg List.length written
    · rintro ⟨-, noSlash⟩
      exact splitApiVersion_of_not_mem noSlash
  · -- Otherwise the group comes first, and a slash in it would end the group early.
    simp only [core, String.isEmpty_iff, if_false, false_implies, and_true]
    constructor
    · intro split
      -- The split of group/version has a non-empty group, so it went the second way.
      rcases splitApiVersion_cases (k.group ++ "/" ++ k.version) with ⟨group, -, -⟩ | ⟨noSlash, -⟩
      · rw [split] at group
        exact absurd group core
      · rwa [split] at noSlash
    · exact splitApiVersion_group

/-- The key of a key's placeholder is the key itself exactly when its kind and name are set, its
apiVersion is not empty, and its group and version split back apart. -/
theorem key_placeholder_iff (k : ResourceKey) :
    k.placeholder.key = .ok k ↔ k.kind ≠ "" ∧ k.name ≠ "" ∧ (k.group ≠ "" ∨ k.version ≠ "") ∧
      '/' ∉ k.group.toList ∧ (k.group = "" → '/' ∉ k.version.toList) := by
  -- The placeholder's namespace is the key's, an empty one left unset.
  have ns : k.placeholder.ns = k.ns := by
    by_cases empty : k.ns = ""
    · simp [placeholder, Object.ns, empty]
    · simp [placeholder, Object.ns, String.isEmpty_iff, empty]
  have api : k.apiVersion ≠ "" ↔ k.group ≠ "" ∨ k.version ≠ "" := by
    rw [Ne, apiVersion_eq_empty_iff, not_and_or]
  -- The placeholder's type is read off the key, so only the checks remain.
  rw [Object.key_eq_ok_iff, ← splitApiVersion_apiVersion_iff]
  constructor
  · rintro ⟨t, typed, kind, nonEmpty, -, name, split, -, -⟩
    cases typed
    exact ⟨kind, name, api.mp nonEmpty, split⟩
  · rintro ⟨kind, name, set, split⟩
    exact ⟨⟨k.apiVersion, k.kind⟩, rfl, kind, api.mpr set, rfl, name, split, rfl, ns.symm⟩

/-- An apiVersion is written back as it was split exactly when it does not start with a slash: a
leading slash leaves an empty group, which a key writes without the slash. -/
theorem apiVersion_splitApiVersion_iff (s : String) (k : ResourceKey) :
    { k with group := (splitApiVersion s).1, version := (splitApiVersion s).2 }.apiVersion = s ↔
      s.toList.head? ≠ some '/' := by
  unfold apiVersion
  rcases splitApiVersion_cases s with ⟨core, whole, noSlash⟩ | ⟨noSlash, written⟩
  · -- Without a slash, the version of the core group is the whole text.
    simp only [core, whole, String.isEmpty_iff, if_true, true_iff]
    exact fun lead => noSlash (List.mem_of_mem_head? lead)
  · by_cases core : (splitApiVersion s).1 = ""
    · -- A leading slash: the group is empty and the version is shorter than the text.
      rw [core] at written
      have lead : s.toList.head? = some '/' := by rw [written]; rfl
      simp only [core, String.isEmpty_iff, if_true, lead, ne_eq, not_true_eq_false, iff_false]
      intro same
      rw [same] at written
      simpa using congrArg List.length written
    · -- Otherwise group, slash and version spell the text, which starts with the group.
      have started : (splitApiVersion s).1.toList ≠ [] := by
        rwa [Ne, String.toList_eq_nil_iff]
      obtain ⟨c, rest, first⟩ := List.exists_cons_of_ne_nil started
      have lead : s.toList.head? = some c := by rw [written, first]; rfl
      have notSlash : c ≠ '/' := fun same => noSlash (by rw [first, same]; exact List.mem_cons_self)
      simp only [core, String.isEmpty_iff, if_false, lead, ne_eq, Option.some.injEq, notSlash,
        not_false_eq_true, iff_true]
      rw [← String.toList_inj, written]
      simp [String.toList_append]

/-- The placeholder of an object's key carries the object's kind and name, its namespace with an
empty one left out, and its type as it was unless the apiVersion starts with a slash. -/
theorem placeholder_of_key_eq_ok {o : Object} {k : ResourceKey} (keyed : o.key = .ok k) :
    ∃ t, o.types = some t ∧ k.placeholder.types.map (·.kind) = some t.kind ∧
      k.placeholder.metadata.name = o.metadata.name ∧
      k.placeholder.metadata.ns = (if o.ns = "" then none else some o.ns) ∧
      (t.apiVersion.toList.head? ≠ some '/' → k.placeholder.types = o.types) := by
  obtain ⟨t, typed, -, -, named, -, split, kind, ns⟩ := Object.key_eq_ok_iff.mp keyed
  -- Kind and name are copied; the namespace drops an empty one.
  refine ⟨t, typed, by simp [placeholder, kind], by simp [placeholder, named], ?_, fun plain => ?_⟩
  · simp [placeholder, ns, String.isEmpty_iff]
  · -- The key's apiVersion is the object's, split and written back.
    have back := (apiVersion_splitApiVersion_iff t.apiVersion k).mpr plain
    rw [split] at back
    have same : k.apiVersion = t.apiVersion := back
    rw [typed]
    simp only [placeholder, same, kind]

/-- **Keys round trip.** A key's placeholder has that key exactly when the key is well formed; an
apiVersion is written back as read unless it starts with a slash; an object's key places it. -/
theorem placeholder_key_round_trip :
    (∀ k : ResourceKey, k.placeholder.key = .ok k ↔
      k.kind ≠ "" ∧ k.name ≠ "" ∧ (k.group ≠ "" ∨ k.version ≠ "") ∧
        '/' ∉ k.group.toList ∧ (k.group = "" → '/' ∉ k.version.toList)) ∧
    (∀ (s : String) (k : ResourceKey),
      { k with group := (splitApiVersion s).1, version := (splitApiVersion s).2 }.apiVersion = s ↔
        s.toList.head? ≠ some '/') ∧
    (∀ (o : Object) (k : ResourceKey), o.key = .ok k →
      ∃ t, o.types = some t ∧ k.placeholder.types.map (·.kind) = some t.kind ∧
        k.placeholder.metadata.name = o.metadata.name ∧
        k.placeholder.metadata.ns = (if o.ns = "" then none else some o.ns) ∧
        (t.apiVersion.toList.head? ≠ some '/' → k.placeholder.types = o.types)) :=
  ⟨key_placeholder_iff, apiVersion_splitApiVersion_iff, fun _ _ => placeholder_of_key_eq_ok⟩

end ResourceKey

end MeshControl
