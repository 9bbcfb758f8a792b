import MeshControl.Proofs.Engine.Leaves
import MeshControl.Proofs.Engine.Persist

/-! Lists of objects flatten: a desired object is applied as its leaves, depth first, however deep
lists nest, and a list whose items do not read is one failure in its place. -/

namespace MeshControl

/-! ### Computations over lists -/

/-- What a computation over a list gives, item by item, comes from an item of the list. -/
theorem List.exists_of_mapM_ok {ε α β : Type} {f : α → Except ε β} :
    ∀ {xs : List α} {ys : List β}, xs.mapM f = .ok ys → ∀ y ∈ ys, ∃ x ∈ xs, f x = .ok y
  | [], ys, mapped => by
    simp only [List.mapM_nil, pure, Except.pure, Except.ok.injEq] at mapped
    simp [← mapped]
  | x :: rest, ys, mapped => by
    rw [List.mapM_cons] at mapped
    -- The head and the rest were each mapped, and the results joined.
    obtain ⟨y, here, mapped⟩ := Except.bind_eq_ok.mp mapped
    obtain ⟨later, there, mapped⟩ := Except.bind_eq_ok.mp mapped
    simp only [pure, Except.pure, Except.ok.injEq] at mapped
    subst mapped
    intro z mem
    -- A result is the head's, or one of the rest's.
    rcases List.mem_cons.mp mem with rfl | mem
    · exact ⟨x, List.mem_cons_self, here⟩
    · obtain ⟨w, member, found⟩ := List.exists_of_mapM_ok there z mem
      exact ⟨w, List.mem_cons_of_mem _ member, found⟩

/-- A computation over a list that fails, fails at an item. -/
theorem List.exists_of_mapM_error {ε α β : Type} {f : α → Except ε β} {e : ε} :
    ∀ {xs : List α}, xs.mapM f = .error e → ∃ x ∈ xs, f x = .error e
  | [], failed => by simp [pure, Except.pure] at failed
  | x :: rest, failed => by
    rw [List.mapM_cons] at failed
    -- The head fails the whole, or the failure lies further on.
    cases here : f x with
    | error e' =>
      simp only [here, bind, Except.bind, Except.error.injEq] at failed
      exact ⟨x, List.mem_cons_self, failed ▸ here⟩
    | ok y =>
      -- The head went through, so the failure is the rest's.
      simp only [here, bind, Except.bind] at failed
      cases later : rest.mapM f with
      | error e' =>
        simp only [later, Except.error.injEq] at failed
        obtain ⟨z, member, found⟩ := List.exists_of_mapM_error later
        exact ⟨z, List.mem_cons_of_mem _ member, failed ▸ found⟩
      | ok ys => simp [later, pure, Except.pure] at failed

/-- Folding over the lists of each item in turn is folding over the items, each by its list. -/
theorem List.foldlM_flatMap {m : Type → Type} [Monad m] [LawfulMonad m] {α β γ : Type}
    (f : β → γ → m β) (g : α → List γ) :
    ∀ (items : List α) (b : β), (items.flatMap g).foldlM f b = items.foldlM (fun b a => (g a).foldlM f b) b
  | [], b => rfl
  | a :: rest, b => by
    -- The first item's list comes first, then the rest's.
    simp only [List.flatMap_cons, List.foldlM_append, List.foldlM_cons]
    exact bind_congr fun b' => List.foldlM_flatMap f g rest b'

/-! ### Depth of values -/

namespace Json

theorem depthItems_le_iff {items : List Json} {n : Nat} :
    depthItems items ≤ n ↔ ∀ x ∈ items, x.depth ≤ n := by
  induction items with
  | nil => simp [depthItems]
  | cons x rest ih => simp [depthItems, ih]

theorem depthFields_le_iff {fields : Fields} {n : Nat} :
    depthFields fields ≤ n ↔ ∀ kv ∈ fields, kv.2.depth ≤ n := by
  induction fields with
  | nil => simp [depthFields]
  | cons kv rest ih =>
    obtain ⟨k, v⟩ := kv
    simp [depthFields, ih]

theorem depth_lt_of_mem_items {items : List Json} {x : Json} (mem : x ∈ items) :
    x.depth < (Json.arr items).depth := by
  -- An item is at most as deep as the deepest, and the array adds a level.
  have bound := depthItems_le_iff.mp (Nat.le_refl (depthItems items)) x mem
  simp only [depth]
  omega

theorem depth_lt_of_mem_fields {fields : Fields} {kv : String × Json} (mem : kv ∈ fields) :
    kv.2.depth < (Json.obj fields).depth := by
  have bound := depthFields_le_iff.mp (Nat.le_refl (depthFields fields)) kv mem
  simp only [depth]
  omega

end Json

/-- Each item converted from YAML comes from an item. -/
theorem Yaml.itemsToJson_mem {ys : List Yaml} {vs : List Json} (converted : Yaml.itemsToJson ys = .ok vs) :
    ∀ v ∈ vs, ∃ y ∈ ys, y.toJson = .ok v := by
  induction ys generalizing vs with
  | nil =>
    simp only [Yaml.itemsToJson, Except.ok.injEq] at converted
    simp [← converted]
  | cons y rest ih =>
    simp only [Yaml.itemsToJson] at converted
    -- The head and the rest were each converted, and the results joined.
    obtain ⟨v, here, converted⟩ := Except.bind_eq_ok.mp converted
    obtain ⟨later, there, converted⟩ := Except.bind_eq_ok.mp converted
    simp only [pure, Except.pure, Except.ok.injEq] at converted
    subst converted
    intro x mem
    rcases List.mem_cons.mp mem with rfl | mem
    · exact ⟨y, List.mem_cons_self, here⟩
    · obtain ⟨z, member, back⟩ := ih there x mem
      exact ⟨z, List.mem_cons_of_mem _ member, back⟩

/-- Each field converted from YAML entries comes from an entry under the same text key. -/
theorem Yaml.entriesToJson_mem {i : Nat} {es : List (Yaml × Yaml)} {pairs : List (String × Json)}
    (converted : Yaml.entriesToJson i es = .ok pairs) :
    ∀ kv ∈ pairs, ∃ x, (Yaml.str kv.1, x) ∈ es ∧ x.toJson = .ok kv.2 := by
  induction es generalizing i pairs with
  | nil =>
    simp only [Yaml.entriesToJson, Except.ok.injEq] at converted
    simp [← converted]
  | cons e rest ih =>
    obtain ⟨k, x⟩ := e
    -- A key that is not text stops the conversion.
    cases k with
    | str key =>
      simp only [Yaml.entriesToJson, pure_bind] at converted
      obtain ⟨v, here, converted⟩ := Except.bind_eq_ok.mp converted
      obtain ⟨later, there, converted⟩ := Except.bind_eq_ok.mp converted
      simp only [pure, Except.pure, Except.ok.injEq] at converted
      subst converted
      intro kv mem
      rcases List.mem_cons.mp mem with rfl | mem
      · exact ⟨x, List.mem_cons_self, here⟩
      · obtain ⟨z, member, back⟩ := ih there kv mem
        exact ⟨z, List.mem_cons_of_mem _ member, back⟩
    | _ => simp [Yaml.entriesToJson, throw, throwThe, MonadExceptOf.throw, bind, Except.bind] at converted

/-- Converting a value to YAML and back never makes it deeper: an object may lose a repeated
key, and a double that is not finite becomes null. -/
theorem Json.depth_toYaml_toJson {j v : Json} (back : j.toYaml.toJson = .ok v) : v.depth ≤ j.depth := by
  induction j generalizing v with
  -- Scalars come back as themselves.
  | null | bool | str =>
    simp only [Json.toYaml, Yaml.toJson, Except.ok.injEq] at back
    subst back
    simp [Json.depth]
  | num n =>
    cases n with
    -- An integer comes back as itself; a double may come back as null.
    | int i =>
      simp only [Json.toYaml, Yaml.toJson, Except.ok.injEq] at back
      subst back
      simp [Json.depth]
    | float f =>
      simp only [Json.toYaml, Yaml.toJson, Except.ok.injEq] at back
      subst back
      split <;> simp [Json.depth]
  | arr items ih =>
    simp only [Json.toYaml, Yaml.toJson] at back
    obtain ⟨vs, converted, back⟩ := Except.bind_eq_ok.mp back
    simp only [pure, Except.pure, Except.ok.injEq] at back
    subst back
    -- Each converted item comes from an item, and is no deeper.
    have each : ∀ w ∈ vs, w.depth ≤ Json.depthItems items := by
      intro w mem
      obtain ⟨y, member, yBack⟩ := Yaml.itemsToJson_mem converted w mem
      rw [Json.itemsToYaml_eq, List.mem_map] at member
      obtain ⟨x, mem, rfl⟩ := member
      exact (ih x mem yBack).trans (Json.depthItems_le_iff.mp (Nat.le_refl _) x mem)
    simpa [Json.depth] using Json.depthItems_le_iff.mpr each
  | obj fields ih =>
    simp only [Json.toYaml, Yaml.toJson] at back
    obtain ⟨pairs, converted, back⟩ := Except.bind_eq_ok.mp back
    simp only [pure, Except.pure, Except.ok.injEq] at back
    subst back
    -- Each field kept comes from a field, and is no deeper.
    have each : ∀ kv ∈ Fields.ofList pairs, kv.2.depth ≤ Json.depthFields fields := by
      intro kv mem
      rcases Fields.mem_foldl_insert mem with none | given
      · cases none
      obtain ⟨y, member, yBack⟩ := Yaml.entriesToJson_mem converted kv given
      rw [Json.fieldsToYaml_eq, List.mem_map] at member
      obtain ⟨kw, mem, same⟩ := member
      rw [Prod.mk.injEq] at same
      rw [← same.2] at yBack
      exact (ih kw mem yBack).trans (Json.depthFields_le_iff.mp (Nat.le_refl _) kw mem)
    simpa [Json.mkObj, Json.depth] using Json.depthFields_le_iff.mpr each

/-! ### Objects read from values sit inside them -/

/-- Each entry buffered while reading the top-level entries was buffered before, or is the value
of an entry read. -/
theorem Object.readEntriesFrom_others {i : Nat} {es : List (Yaml × Yaml)} {meta0 meta' : Option ObjectMeta}
    {acc others : List (String × Yaml)} (read : Object.readEntriesFrom i es meta0 acc = .ok (meta', others)) :
    ∀ e ∈ others, e ∈ acc ∨ ∃ k, (k, e.2) ∈ es := by
  induction es generalizing i meta0 acc with
  | nil =>
    simp only [Object.readEntriesFrom, Except.ok.injEq, Prod.mk.injEq] at read
    rw [← read.2]
    exact fun e mem => .inl mem
  | cons e rest ih =>
    obtain ⟨k, x⟩ := e
    simp only [Object.readEntriesFrom] at read
    -- The entry's key is text, as every key read here is.
    obtain ⟨name, -, read⟩ := Except.bind_eq_ok.mp read
    have later : ∀ {acc' : List (String × Yaml)} {meta1 : Option ObjectMeta},
        Object.readEntriesFrom (i + 1) rest meta1 acc' = .ok (meta', others) →
        ∀ e ∈ others, e ∈ acc' ∨ ∃ k', (k', e.2) ∈ (k, x) :: rest := by
      intro acc' meta1 read e mem
      rcases ih read e mem with early | ⟨k', found⟩
      · exact .inl early
      · exact .inr ⟨k', List.mem_cons_of_mem _ found⟩
    -- A metadata entry is read, not buffered; any other entry is buffered as it stands.
    split at read
    · split at read
      · simp [throw, throwThe, MonadExceptOf.throw, bind, Except.bind] at read
      · obtain ⟨m, -, read⟩ := Except.bind_eq_ok.mp read
        exact later read
    · split at read
      · simp [throw, throwThe, MonadExceptOf.throw, bind, Except.bind] at read
      · intro e mem
        rcases later read e mem with early | found
        · rcases List.mem_append.mp early with early | single
          · exact .inl early
          · rw [List.mem_singleton] at single
            exact .inr ⟨k, by simp [single]⟩
        · exact .inr found

/-- The fields of an object read from a value sit inside it: each is less deep than the value. -/
theorem Object.ofJson_data_depth {j : Json} {p : Object} (read : Object.ofJson j = .ok p) :
    ∀ kv ∈ p.data, kv.2.depth < j.depth := by
  cases j with
  | obj fs =>
    unfold Object.ofJson Object.decode at read
    simp only [Json.toYaml, Yaml.readEntries] at read
    -- Step through the read: the entries, the metadata and the rest, the type.
    obtain ⟨entries, entriesRead, read⟩ := Except.bind_eq_ok.mp read
    cases entriesRead
    obtain ⟨⟨meta', others⟩, othersRead, read⟩ := Except.bind_eq_ok.mp read
    obtain ⟨pairs, pairsRead, read⟩ := Except.bind_eq_ok.mp read
    simp only [pure, Except.pure, Except.ok.injEq] at read
    subst read
    rw [Decoded.buffered_eq_ok] at pairsRead
    -- The fields kept are some of the entries buffered, each converted back from YAML.
    obtain ⟨R, taken, sub, -⟩ := Object.takeTypes_go_keeps others none none []
    have rest : (Object.takeTypes others).2 = R := by simpa [Object.takeTypes] using taken
    intro kv mem
    rcases Fields.mem_foldl_insert mem with none | given
    · cases none
    obtain ⟨e, member, converted⟩ := List.exists_of_mapM_ok pairsRead kv given
    obtain ⟨v, back, same⟩ := Except.bind_eq_ok.mp converted
    simp only [pure, Except.pure, Except.ok.injEq] at same
    subst same
    rw [rest] at member
    -- And each buffered entry is a field of the value, as YAML.
    rcases Object.readEntriesFrom_others othersRead e (sub.subset member) with none | ⟨k, found⟩
    · cases none
    rw [Json.fieldsToYaml_eq, List.mem_map] at found
    obtain ⟨kw, mem, same⟩ := found
    rw [Prod.mk.injEq] at same
    rw [← same.2] at back
    calc v.depth ≤ kw.2.depth := Json.depth_toYaml_toJson back
      _ < (Json.obj fs).depth := Json.depth_lt_of_mem_fields mem
  | _ => simp [Object.ofJson, Object.decode, Json.toYaml, Yaml.readEntries, bind, Except.bind] at read

/-! ### Flattening -/

namespace Object

/-- How deep the items field of an object nests, zero without one. Items of a list nest less
deep than the list's own items field, so this bounds how deep lists nest. -/
def itemsDepth (o : Object) : Nat := ((o.field? "items").map Json.depth).getD 0

/-- An item of a list has a shallower items field than the list. -/
theorem itemsDepth_lt_of_listItems {o : Object} {items : List Object} (read : o.listItems = .ok items)
    {item : Object} (mem : item ∈ items) : item.itemsDepth < o.itemsDepth := by
  unfold listItems at read
  -- A list holds its items under items, as an array; anything else has none.
  split at read
  · rename_i js found
    obtain ⟨j, member, decoded⟩ := List.exists_of_mapM_ok read item mem
    rw [Except.mapError_eq_ok] at decoded
    have outer : o.itemsDepth = (Json.arr js).depth := by simp [itemsDepth, found]
    have inner : j.depth < (Json.arr js).depth := Json.depth_lt_of_mem_items member
    rw [outer]
    unfold itemsDepth
    -- The item's own items field is one of its fields, so less deep than the item.
    cases field : item.field? "items" with
    | none => simpa using Nat.lt_of_le_of_lt (Nat.zero_le _) inner
    | some v =>
      have shallower := Object.ofJson_data_depth decoded ("items", v) (Fields.mem_of_get? field)
      simpa using Nat.lt_trans shallower inner
  · simp only [Except.ok.injEq] at read
    subst read
    cases mem

/-- The items field of an object with no key twice is a field of its JSON value. -/
theorem itemsDepth_le_toJson {o : Object} (unique : o.data.keys.Nodup) : o.itemsDepth ≤ o.toJson.depth := by
  unfold itemsDepth
  -- An object without an items field has depth zero there.
  cases field : o.field? "items" with
  | none => simp
  | some v =>
    have found : o.toJson.get? "items" = some v := by
      rw [Object.get?_toJson_data unique (by decide) (by decide) (by decide)]
      exact field
    obtain ⟨fs, json, -⟩ := Object.sorted_toJson o
    rw [json] at found ⊢
    simpa using Nat.le_of_lt (Json.depth_lt_of_mem_fields (Fields.mem_of_get? found))

/-- The leaves of a desired object, depth first: the object itself, or the leaves of each item
of a list in order. A list whose items do not all read as objects is one failure, and none of
its items. -/
def flatten (o : Object) : List (Except Error Object) :=
  if o.isList then
    match _read : o.listItems with
    | .ok items => items.attach.flatMap fun item => flatten item.1
    | .error e => [.error e]
  else [.ok o]
termination_by o.itemsDepth
decreasing_by exact itemsDepth_lt_of_listItems _read item.2

theorem flatten_of_items {o : Object} {items : List Object} (listed : o.isList = true)
    (read : o.listItems = .ok items) : o.flatten = items.flatMap flatten := by
  rw [flatten]
  simp only [listed, if_true]
  -- The items read as given, so the first branch is taken.
  split
  · rename_i found
    rw [read, Except.ok.injEq] at found
    subst found
    simp only [List.flatMap_subtype, List.unattach_attach]
  · rename_i found
    rw [read] at found
    cases found

theorem flatten_of_unreadable {o : Object} {e : Error} (listed : o.isList = true)
    (failed : o.listItems = .error e) : o.flatten = [.error e] := by
  rw [flatten]
  simp only [listed, if_true]
  -- The items failed to read, so the second branch is taken.
  split
  · rename_i found
    rw [failed] at found
    cases found
  · rename_i found
    rw [failed, Except.error.injEq] at found
    rw [found]

theorem flatten_of_not_list {o : Object} (single : o.isList = false) : o.flatten = [.ok o] := by
  rw [flatten]
  simp [single]

/-- A list fails to give its items only with a manifest error. -/
theorem listItems_error {o : Object} {e : Error} (failed : o.listItems = .error e) :
    ∃ msg, e = .manifest msg := by
  unfold listItems at failed
  -- The items failed to read as objects, or were not an array.
  split at failed
  · obtain ⟨j, -, bad⟩ := List.exists_of_mapM_error failed
    cases read : Object.ofJson j with
    | ok _ => simp [read, Except.mapError] at bad
    | error d =>
      simp only [read, Except.mapError, Except.error.injEq] at bad
      exact ⟨_, bad.symm⟩
  · cases failed

/-- Each leaf of a flattened object is an object that is not a list, or a manifest failure. -/
theorem flatten_pieces (o : Object) : ∀ p ∈ o.flatten,
    (∃ leaf, p = .ok leaf ∧ leaf.isList = false) ∨ ∃ msg, p = .error (.manifest msg) := by
  -- Induction following the recursion of flatten: items, a failed list, a leaf.
  induction o using flatten.induct with
  | case1 o listed items read ih =>
    rw [flatten_of_items listed read]
    intro p mem
    obtain ⟨item, member, found⟩ := List.mem_flatMap.mp mem
    exact ih ⟨item, member⟩ p found
  | case2 o listed e failed =>
    rw [flatten_of_unreadable listed failed, List.forall_mem_singleton]
    obtain ⟨msg, rfl⟩ := listItems_error failed
    exact .inr ⟨msg, rfl⟩
  | case3 o single =>
    rw [flatten_of_not_list (by simpa using single), List.forall_mem_singleton]
    exact .inl ⟨o, rfl, by simpa using single⟩

/-- With more fuel than its items field is deep, the leaves a pass reads are the flattened
object. -/
theorem leafReads_eq_flatten : ∀ (fuel : Nat) (o : Object), o.itemsDepth < fuel → o.leafReads fuel = o.flatten
  | 0, o, enough => absurd enough (Nat.not_lt_zero _)
  | fuel + 1, o, enough => by
    rw [flatten]
    -- A list is read item by item; anything else is one leaf.
    by_cases listed : o.isList
    · simp only [leafReads, listed, if_true]
      split
      · -- Each item is shallower than the list, so the fuel left still suffices for it.
        rename_i items read
        simp only [read, Except.map, Except.valueOr_ok, List.flatMap_subtype, List.unattach_attach]
        exact List.flatMap_congr fun item mem =>
          leafReads_eq_flatten fuel item (by have := itemsDepth_lt_of_listItems read mem; omega)
      · rename_i e read
        simp [read, Except.map]
    · simp [leafReads, listed]

/-- The objects a desired object stands for are the leaves it reads that are objects. -/
theorem leaves_eq_filterMap : ∀ (fuel : Nat) (o : Object),
    o.leaves fuel = (o.leafReads fuel).filterMap Except.toOption
  | 0, o => rfl
  | fuel + 1, o => by
    -- A list is read item by item; anything else is one leaf.
    by_cases listed : o.isList
    · cases read : o.listItems with
      | error e => simp [leaves, leafReads, listed, read, Except.map, Except.toOption]
      | ok items =>
        simp only [leaves, leafReads, listed, read, if_true, Except.map, Except.valueOr_ok, List.filterMap_flatMap]
        exact List.flatMap_congr fun item _ => leaves_eq_filterMap fuel item
    · simp [leaves, leafReads, listed, Except.toOption]

end Object

/-! ### A pass over the leaves -/

/-- One leaf of a pass: an object is applied and its outcome noted, a failure to read is
noted. -/
def leafStep (ctx : Context) (old : ComponentStatus) (t : Tally) : Except Error Object → Engine Tally
  | .ok leaf => do
    let (result, t) ← reconcileSingle ctx old leaf t
    return t.collect result
  | .error e => return t.collect (.error e)

/-- Applying an object tree is applying the leaves it reads, in order, one step each. -/
theorem reconcileTree_eq_foldlM (ctx : Context) (old : ComponentStatus) :
    ∀ (fuel : Nat) (o : Object) (t : Tally),
      reconcileTree ctx old fuel o t = (o.leafReads fuel).foldlM (leafStep ctx old) t
  | 0, o, t => by
    simp only [reconcileTree, Object.leafReads, List.foldlM_cons, List.foldlM_nil, bind_pure]
    rfl
  | fuel + 1, o, t => by
    unfold reconcileTree
    -- A list is applied item by item; anything else as one leaf.
    by_cases listed : o.isList
    · simp only [listed, if_true, Object.leafReads]
      cases read : o.listItems with
      | error e => simp [Except.map, leafStep]
      | ok items =>
        -- The items in turn, each by the leaves it reads.
        simp only [Except.map, Except.valueOr_ok, List.foldlM_flatMap, reconcileTree_eq_foldlM ctx old fuel]
    · simp only [listed, Object.leafReads, Bool.false_eq_true, if_false, List.foldlM_cons, List.foldlM_nil,
        bind_pure]
      rfl

/-- **List flattening.** Applying a desired object with no field twice applies its leaves depth
first, one step each, a list that does not read being one manifest failure; each keyed leaf adds
one status under its key. -/
theorem reconcileObject_flattens (ctx : Context) (old : ComponentStatus) {desired : Object}
    (unique : desired.data.keys.Nodup) (t : Tally) :
    (∀ p ∈ desired.flatten, (∃ leaf, p = .ok leaf ∧ leaf.isList = false) ∨ ∃ msg, p = .error (.manifest msg)) ∧
      reconcileObject ctx old desired t = (do
        let t' ← desired.flatten.foldlM (leafStep ctx old) { t with errors := {} }
        return (t'.errors.toResult, { t' with errors := t.errors })) ∧
      ∀ w, Returns (reconcileObject ctx old desired t) w fun r _ =>
        Tally.Adds (desired.flatten.filterMap fun p => p.toOption.bind fun leaf => leaf.key.toOption) t r.2 := by
  -- The fuel a pass gives is more than the items field is deep, so its leaves are all of them.
  have flattened : desired.leafReads (desired.toJson.depth + 1) = desired.flatten :=
    Object.leafReads_eq_flatten _ _ (Nat.lt_succ_of_le (Object.itemsDepth_le_toJson unique))
  refine ⟨desired.flatten_pieces, ?_, fun w => ?_⟩
  -- The pass folds its leaf steps over the leaves it reads.
  · unfold reconcileObject
    rw [reconcileTree_eq_foldlM, flattened]
  -- The keys a pass notes are those of the leaves that are objects.
  · have keys : desired.leafKeys =
        desired.flatten.filterMap fun p => p.toOption.bind fun leaf => leaf.key.toOption := by
      rw [Object.leafKeys, Object.leaves_eq_filterMap, flattened, List.filterMap_filterMap]
    exact keys ▸ reconcileObject_returns ctx old desired t w

/-- A ConfigMap list holding a ConfigMap, a list of one ConfigMap, and a list whose one item is
a number. -/
def nestedConfigMaps : Object where
  types := some ⟨"v1", "ConfigMapList"⟩
  metadata := { name := some "maps" }
  data := [("items", .arr [
    .obj [("apiVersion", .str "v1"), ("kind", .str "ConfigMap"), ("metadata", .obj [("name", .str "a")])],
    .obj [("apiVersion", .str "v1"), ("items", .arr [.obj [("apiVersion", .str "v1"),
      ("kind", .str "ConfigMap"), ("metadata", .obj [("name", .str "b")])]]), ("kind", .str "ConfigMapList")],
    .obj [("apiVersion", .str "v1"), ("items", .arr [.num (.int 5)]), ("kind", .str "ConfigMapList")]])]

/-- The nested lists flatten to the ConfigMaps `a` and `b` and the failure of the last list, and
a pass over them is a pass over those leaves. -/
theorem reconcileObject_flattens_nested :
    nestedConfigMaps.data.keys.Nodup ∧
      (nestedConfigMaps.flatten.map fun p => p.toOption.bind (·.metadata.name)) = [some "a", some "b", none] ∧
      (∀ p ∈ nestedConfigMaps.flatten,
        (∃ leaf, p = .ok leaf ∧ leaf.isList = false) ∨ ∃ msg, p = .error (.manifest msg)) ∧
      reconcileObject default default nestedConfigMaps default = (do
        let t' ← nestedConfigMaps.flatten.foldlM (leafStep default default) { (default : Tally) with errors := {} }
        return (t'.errors.toResult, { t' with errors := (default : Tally).errors })) ∧
      ∀ w, Returns (reconcileObject default default nestedConfigMaps default) w fun r _ =>
        Tally.Adds (nestedConfigMaps.flatten.filterMap fun p => p.toOption.bind fun leaf => leaf.key.toOption)
          default r.2 := by
  -- Six levels of fuel reach every leaf; the names are then computed.
  have leaves : (nestedConfigMaps.flatten.map fun p => p.toOption.bind (·.metadata.name)) =
      [some "a", some "b", none] := by
    rw [← Object.leafReads_eq_flatten 6 nestedConfigMaps (by decide +kernel)]
    decide +kernel
  exact ⟨by decide, leaves, reconcileObject_flattens default default (by decide) default⟩

end MeshControl
