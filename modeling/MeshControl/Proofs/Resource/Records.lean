import MeshControl.Proofs.Resource.Decode
import MeshControl.Resource.ControlPlane

/-! Typed records read from objects entry by entry: on an object with no key twice, each field is
what its reader makes of the entry of its key, whatever order the entries come in. -/

namespace MeshControl

section Loop

variable {ε α σ : Type} {body : α → σ → Except ε (ForInStep σ)}

/-- A loop whose every step from a state meeting `P` goes on into a state meeting `P` runs to
the end, in a state meeting `P` for the whole list. -/
theorem forIn_of_steps (P : List α → σ → Prop) {full : List α}
    (step : ∀ pre a post s, full = pre ++ a :: post → P pre s →
      ∃ s', body a s = .ok (.yield s') ∧ P (pre ++ [a]) s') :
    ∀ (pre : List α) {l : List α} {init : σ}, full = pre ++ l → P pre init →
      ∃ final, forIn l init body = .ok final ∧ P full final := by
  intro pre l
  -- Induction on the entries still to read, the ones read so far growing by one each step.
  induction l generalizing pre with
  | nil =>
    intro init split start
    exact ⟨init, rfl, by simpa [split] using start⟩
  | cons a rest ih =>
    intro init split start
    -- The step from the entries read so far reads the next one.
    obtain ⟨s', stepped, next⟩ := step pre a rest init split start
    obtain ⟨final, ran, holds⟩ := ih (pre ++ [a]) (by simp [split]) next
    exact ⟨final, by simp [List.forIn_cons, stepped, ran, bind, Except.bind], holds⟩

/-- A loop whose every step from a state meeting `P` goes on into one, followed by a step that
succeeds from every end state meeting `P`, succeeds. -/
theorem forIn_bind_of_steps {β : Type} (P : List α → σ → Prop) {full : List α} {init : σ}
    (step : ∀ pre a post s, full = pre ++ a :: post → P pre s →
      ∃ s', body a s = .ok (.yield s') ∧ P (pre ++ [a]) s')
    (start : P [] init) {f : σ → Except ε β} {r : β} (finish : ∀ final, P full final → f final = .ok r) :
    Except.bind (forIn full init body) f = .ok r := by
  obtain ⟨final, ran, holds⟩ := forIn_of_steps P step [] (List.nil_append _).symm start
  rw [ran]
  exact finish final holds

/-- A loop that ran to the end ends in a state meeting `P` for the whole list, where every
step that goes on from a state meeting `P` goes into one. -/
theorem forIn_of_ran (P : List α → σ → Prop) {full : List α}
    (step : ∀ pre a post s r, full = pre ++ a :: post → P pre s → body a s = .ok r →
      ∃ s', r = .yield s' ∧ P (pre ++ [a]) s') :
    ∀ (pre : List α) {l : List α} {init final : σ}, full = pre ++ l → P pre init →
      forIn l init body = .ok final → P full final := by
  intro pre l
  -- Induction on the entries still to read, as in forIn_of_steps.
  induction l generalizing pre with
  | nil =>
    intro init final split start ran
    simp only [List.forIn_nil, pure, Except.pure, Except.ok.injEq] at ran
    subst ran
    simpa [split] using start
  | cons a rest ih =>
    intro init final split start ran
    rw [List.forIn_cons] at ran
    -- A step that failed fails the loop; one that went on keeps P.
    cases stepped : body a init with
    | error e => simp [stepped, bind, Except.bind] at ran
    | ok r =>
      obtain ⟨s', rfl, next⟩ := step pre a rest init r split start stepped
      simp only [stepped, bind, Except.bind] at ran
      exact ih (pre ++ [a]) (by simp [split]) next ran

end Loop

theorem Decoded.some_map_eq_ok {α : Type} {d : Decoded α} {a : α} :
    (some <$> d) = .ok (some a) ↔ d = .ok a := by
  cases d <;> simp [Functor.map, Except.map]

namespace Yaml

/-- The value read for a field of a record: what `read` gives for the entry of its key, and
`default` when there is none. -/
def ReadsInto {β : Type} (read : Yaml → Decoded β) (default : β) : Option Yaml → β → Prop
  | none, slot => slot = default
  | some x, slot => read x = .ok slot

theorem ReadsInto.unique {β : Type} {read : Yaml → Decoded β} {default : β} {x : Option Yaml}
    {a b : β} (first : ReadsInto read default x a) (second : ReadsInto read default x b) : a = b := by
  -- No entry leaves the default; an entry is what the reader gave.
  cases x with
  | none => exact first.trans second.symm
  | some x =>
    have same : (Except.ok a : Decoded β) = .ok b := first.symm.trans second
    simpa using same

/-- The value under a key among named entries, the first of that key. -/
def entryAt (entries : List (String × Yaml × Nat)) (k : String) : Option Yaml :=
  (entries.find? (·.1 == k)).map (·.2.1)

theorem entryAt_append (pre : List (String × Yaml × Nat)) (e : String × Yaml × Nat) (k : String) :
    entryAt (pre ++ [e]) k = (entryAt pre k).or (if e.1 = k then some e.2.1 else none) := by
  unfold entryAt
  -- The first entry of k is in pre, or it is e.
  cases found : pre.find? (·.1 == k) <;> by_cases here : e.1 = k <;>
    simp [List.find?_append, found, here]

/-- Among entries with no key twice, the entry being read has a key no earlier entry has. -/
theorem entryAt_of_split {full pre post : List (String × Yaml × Nat)} {e : String × Yaml × Nat}
    (unique : (full.map (·.1)).Nodup) (split : full = pre ++ e :: post) : entryAt pre e.1 = none := by
  subst split
  -- Keys are distinct, so e's key is not among pre's.
  have fresh : e.1 ∉ pre.map (·.1) := by
    rw [List.map_append] at unique
    intro mem
    exact (List.nodup_append.mp unique).2.2 _ mem _ (List.mem_map.mpr ⟨e, List.mem_cons_self, rfl⟩) rfl
  unfold entryAt
  rw [List.find?_eq_none.mpr]
  · rfl
  · intro a mem same
    exact fresh (List.mem_map.mpr ⟨a, mem, by simpa using same⟩)

/-- The entry being read is the one its key finds in the whole list, when no earlier entry has
that key. -/
theorem entryAt_of_fresh {pre post : List (String × Yaml × Nat)} {e : String × Yaml × Nat}
    (fresh : entryAt pre e.1 = none) : entryAt (pre ++ e :: post) e.1 = some e.2.1 := by
  unfold entryAt at fresh ⊢
  rw [Option.map_eq_none_iff] at fresh
  simp [List.find?_append, fresh]

/-- Reading an entry of a key not read before sets the field of that key to what was read. -/
theorem ReadsInto.append_same {β : Type} {read : Yaml → Decoded β} {default slot : β}
    {pre : List (String × Yaml × Nat)} {k : String} {x : Yaml} {part : Nat}
    (fresh : entryAt pre k = none) (readOk : read x = .ok slot) :
    ReadsInto read default (entryAt (pre ++ [(k, x, part)]) k) slot := by
  rw [entryAt_append, fresh]
  simpa [ReadsInto] using readOk

/-- An entry of another key leaves a field as it was read. -/
theorem ReadsInto.append_other {β : Type} {read : Yaml → Decoded β} {default slot : β}
    {pre : List (String × Yaml × Nat)} {k key : String} {x : Yaml} {part : Nat} (other : k ≠ key)
    (before : ReadsInto read default (entryAt pre key) slot) :
    ReadsInto read default (entryAt (pre ++ [(k, x, part)]) key) slot := by
  rw [entryAt_append]
  simpa [other] using before

/-- Among pairs with no key twice, the pair being read has a key no earlier pair has. -/
theorem lookup_of_split {pre post : List (String × Yaml)} {e : String × Yaml}
    (unique : ((pre ++ e :: post).map (·.1)).Nodup) : pre.lookup e.1 = none := by
  rw [List.map_append] at unique
  -- Keys are distinct, so e's key is not among pre's.
  have fresh : e.1 ∉ pre.map (·.1) := fun mem =>
    (List.nodup_append.mp unique).2.2 _ mem _ (List.mem_map.mpr ⟨e, List.mem_cons_self, rfl⟩) rfl
  rw [List.lookup_eq_none_iff]
  intro p mem
  have differ : e.1 ≠ p.1 := fun same => fresh (List.mem_map.mpr ⟨p, mem, same.symm⟩)
  simpa using differ

theorem ReadsInto.lookup_same {β : Type} {read : Yaml → Decoded β} {default slot : β}
    {pre : List (String × Yaml)} {k : String} {x : Yaml} (fresh : pre.lookup k = none)
    (readOk : read x = .ok slot) : ReadsInto read default ((pre ++ [(k, x)]).lookup k) slot := by
  rw [List.lookup_append, fresh]
  simpa [ReadsInto] using readOk

theorem ReadsInto.lookup_other {β : Type} {read : Yaml → Decoded β} {default slot : β}
    {pre : List (String × Yaml)} {k key : String} {x : Yaml} (other : k ≠ key)
    (before : ReadsInto read default (pre.lookup key) slot) :
    ReadsInto read default ((pre ++ [(k, x)]).lookup key) slot := by
  have differ : (key == k) = false := by simpa using Ne.symm other
  rw [List.lookup_append]
  simpa [List.lookup, differ] using before

/-- The entries a record reader keeps aside, those of every key but `skipped`. -/
def entriesBut (skipped : String) (es : List (String × Yaml × Nat)) : List (String × Yaml) :=
  (es.filter (·.1 != skipped)).map fun e => (e.1, e.2.1)

theorem lookup_entriesBut {skipped k : String} (other : k ≠ skipped) (es : List (String × Yaml × Nat)) :
    (entriesBut skipped es).lookup k = entryAt es k := by
  induction es with
  | nil => rfl
  | cons e rest ih =>
    obtain ⟨k', x, part⟩ := e
    -- The head is the entry of k, of the skipped key, or of another.
    by_cases here : k' = k
    · subst here
      simp [entriesBut, entryAt, other]
    · by_cases kept : k' = skipped
      · subst kept
        simpa [entriesBut, entryAt, here] using ih
      · have differ : (k == k') = false := by simpa using Ne.symm here
        simpa [entriesBut, entryAt, here, kept, List.lookup, differ] using ih

theorem entriesBut_append (skipped : String) (pre : List (String × Yaml × Nat)) (e : String × Yaml × Nat) :
    entriesBut skipped (pre ++ [e]) = entriesBut skipped pre ++ (if e.1 = skipped then [] else [(e.1, e.2.1)]) := by
  by_cases here : e.1 = skipped <;> simp [entriesBut, here]

theorem keys_entriesBut_nodup {skipped : String} {es : List (String × Yaml × Nat)}
    (unique : (es.map (·.1)).Nodup) : ((entriesBut skipped es).map (·.1)).Nodup := by
  have sub : ((entriesBut skipped es).map (·.1)).Sublist (es.map (·.1)) := by
    simpa [entriesBut, List.map_map, Function.comp_def] using
      (List.filter_sublist (p := (·.1 != skipped)) (l := es)).map (·.1)
  exact sub.nodup unique

end Yaml

namespace Json

/-- The named entries of an object: each key with the YAML of its value and its part number. -/
def namedFields (fs : Fields) (i : Nat) : List (String × Yaml × Nat) :=
  (fs.zipIdx i).map fun e => (e.1.1, e.1.2.toYaml, 2 * e.2 + 1)

theorem entryAt_namedFields (fs : Fields) (i : Nat) (k : String) :
    Yaml.entryAt (namedFields fs i) k = (Fields.get? fs k).map toYaml := by
  induction fs generalizing i with
  | nil => rfl
  | cons kv rest ih =>
    obtain ⟨k', v⟩ := kv
    -- The rest of the fields are numbered from i + 1.
    have later := ih (i + 1)
    simp only [Yaml.entryAt, namedFields] at later
    simp only [Yaml.entryAt, namedFields, List.zipIdx_cons, List.map_cons, List.find?_cons,
      Fields.get?_cons]
    by_cases here : k' = k
    · simp [here]
    · have differ : (k' == k) = false := by simpa using here
      simp only [differ, here, if_false]
      exact later

theorem keys_namedFields (fs : Fields) (i : Nat) : (namedFields fs i).map (·.1) = fs.keys := by
  induction fs generalizing i with
  | nil => rfl
  | cons kv rest ih => simpa [namedFields, List.zipIdx_cons, Fields.keys] using ih (i + 1)

end Json

/-- The entries of an object, named as a record reader names them. -/
theorem Yaml.namedEntries_obj (name : String) (fs : Fields) :
    (Json.obj fs).toYaml.namedEntries name = .ok (Json.namedFields fs 0) := by
  simp only [Yaml.namedEntries, Json.toYaml, Yaml.readEntries, Json.fieldsToYaml_eq, bind, Except.bind]
  -- The entries may be numbered from any start, which the induction needs.
  generalize 0 = i
  induction fs generalizing i with
  | nil => rfl
  | cons kv rest ih =>
    have later := ih (i + 1)
    simp only [Yaml.fieldName, Decoded.inPart, Except.mapError, Json.namedFields, pure, Except.pure] at later
    simp [List.zipIdx_cons, List.mapM_cons, Yaml.fieldName, Decoded.inPart, Except.mapError, later,
      Json.namedFields, bind, Except.bind, pure, Except.pure]

namespace ControlPlane

/-- What the reader of a control plane holds after some entries: each field as read from the
entry of its key, unset where there was none. -/
def ReadSoFar (pre : List (String × Yaml × Nat))
    (s : Option ObjectMeta × Option ControlPlaneSpec × Option ControlPlaneStatus) : Prop :=
  Yaml.ReadsInto (fun x => some <$> ObjectMeta.decode x) none (Yaml.entryAt pre "metadata") s.1 ∧
  Yaml.ReadsInto (fun x => some <$> ControlPlaneSpec.decode x) none (Yaml.entryAt pre "spec") s.2.1 ∧
  Yaml.ReadsInto (Yaml.readOption ControlPlaneStatus.decode) none (Yaml.entryAt pre "status") s.2.2

section ReadSoFar

variable {pre : List (String × Yaml × Nat)} {s : Option ObjectMeta × Option ControlPlaneSpec × Option ControlPlaneStatus}
  {x : Yaml} {part : Nat}

theorem readSoFar_nil : ReadSoFar [] (none, none, none) := ⟨rfl, rfl, rfl⟩

theorem ReadSoFar.metadata {m : ObjectMeta} (fresh : Yaml.entryAt pre "metadata" = none)
    (before : ReadSoFar pre s) (readOk : ObjectMeta.decode x = .ok m) :
    ReadSoFar (pre ++ [("metadata", x, part)]) (some m, s.2.1, s.2.2) :=
  ⟨Yaml.ReadsInto.append_same fresh (by simp [readOk]), Yaml.ReadsInto.append_other (by decide) before.2.1,
    Yaml.ReadsInto.append_other (by decide) before.2.2⟩

theorem ReadSoFar.spec {sp : ControlPlaneSpec} (fresh : Yaml.entryAt pre "spec" = none)
    (before : ReadSoFar pre s) (readOk : ControlPlaneSpec.decode x = .ok sp) :
    ReadSoFar (pre ++ [("spec", x, part)]) (s.1, some sp, s.2.2) :=
  ⟨Yaml.ReadsInto.append_other (by decide) before.1, Yaml.ReadsInto.append_same fresh (by simp [readOk]),
    Yaml.ReadsInto.append_other (by decide) before.2.2⟩

theorem ReadSoFar.status {st : Option ControlPlaneStatus} (fresh : Yaml.entryAt pre "status" = none)
    (before : ReadSoFar pre s) (readOk : Yaml.readOption ControlPlaneStatus.decode x = .ok st) :
    ReadSoFar (pre ++ [("status", x, part)]) (s.1, s.2.1, st) :=
  ⟨Yaml.ReadsInto.append_other (by decide) before.1, Yaml.ReadsInto.append_other (by decide) before.2.1,
    Yaml.ReadsInto.append_same fresh readOk⟩

theorem ReadSoFar.other {k : String} (notMetadata : k ≠ "metadata") (notSpec : k ≠ "spec")
    (notStatus : k ≠ "status") (before : ReadSoFar pre s) : ReadSoFar (pre ++ [(k, x, part)]) s :=
  ⟨Yaml.ReadsInto.append_other notMetadata before.1, Yaml.ReadsInto.append_other notSpec before.2.1,
    Yaml.ReadsInto.append_other notStatus before.2.2⟩

/-- What is read after all entries is determined by the entries. -/
theorem ReadSoFar.unique {s' : Option ObjectMeta × Option ControlPlaneSpec × Option ControlPlaneStatus}
    (first : ReadSoFar pre s) (second : ReadSoFar pre s') : s = s' := by
  obtain ⟨m, sp, st⟩ := s
  obtain ⟨m', sp', st'⟩ := s'
  have sameMetadata : m = m' := first.1.unique second.1
  have sameSpec : sp = sp' := first.2.1.unique second.2.1
  have sameStatus : st = st' := first.2.2.unique second.2.2
  rw [sameMetadata, sameSpec, sameStatus]

end ReadSoFar

/-- A control plane reads from an object with no key twice exactly when its metadata and spec
entries are there and read, and its status entry, if any, reads; the other entries are not
looked at. -/
theorem decode_obj_eq_ok {fs : Fields} (unique : fs.keys.Nodup) {cp : ControlPlane} :
    decode (Json.obj fs).toYaml = .ok cp ↔
      ReadSoFar (Json.namedFields fs 0) (some cp.metadata, some cp.spec, cp.status) := by
  -- The named entries have the fields' keys, which are distinct.
  have keys : ((Json.namedFields fs 0).map (·.1)).Nodup := by rwa [Json.keys_namedFields]
  unfold decode
  rw [Yaml.namedEntries_obj]
  simp only [bind, Except.bind]
  constructor
  · intro decoded
    -- The loop failed, or ran and left the three fields.
    split at decoded
    · simp at decoded
    · rename_i final ran
      refine (fun (facts : ReadSoFar (Json.namedFields fs 0) final) => ?_)
        (forIn_of_ran ReadSoFar ?_ [] (List.nil_append _).symm readSoFar_nil ran)
      · -- Both fields a control plane needs were read.
        obtain ⟨metadata, spec, status⟩ := final
        cases metadata <;> cases spec <;>
          simp [pure, Except.pure, throw, throwThe, MonadExceptOf.throw] at decoded
        subst decoded
        exact facts
      · intro pre a post s r split before stepped
        obtain ⟨k, x, part⟩ := a
        -- Each entry's key comes up for the first time.
        have fresh := Yaml.entryAt_of_split keys split
        dsimp only at stepped fresh
        -- One case per field the reader knows, and one for every other key.
        split at stepped
        · cases readOk : ObjectMeta.decode x with
          | error e => simp [readOk, Decoded.inPart, Except.mapError] at stepped
          | ok m =>
            simp only [readOk, Decoded.inPart, Except.mapError, pure, Except.pure, Except.ok.injEq] at stepped
            exact ⟨_, stepped.symm, before.metadata fresh readOk⟩
        · cases readOk : ControlPlaneSpec.decode x with
          | error e => simp [readOk, Decoded.inPart, Except.mapError] at stepped
          | ok sp =>
            simp only [readOk, Decoded.inPart, Except.mapError, pure, Except.pure, Except.ok.injEq] at stepped
            exact ⟨_, stepped.symm, before.spec fresh readOk⟩
        · cases readOk : Yaml.readOption ControlPlaneStatus.decode x with
          | error e => simp [readOk, Decoded.inPart, Except.mapError] at stepped
          | ok st =>
            simp only [readOk, Decoded.inPart, Except.mapError, pure, Except.pure, Except.ok.injEq] at stepped
            exact ⟨_, stepped.symm, before.status fresh readOk⟩
        · rename_i notMetadata notSpec notStatus
          simp only [pure, Except.pure, Except.ok.injEq] at stepped
          exact ⟨_, stepped.symm, before.other notMetadata notSpec notStatus⟩
  · intro reads
    show Except.bind _ _ = _
    -- Read the entries one by one, with the fields of cp as the target.
    refine forIn_bind_of_steps ReadSoFar ?_ readSoFar_nil ?_
    · intro pre a post s split before
      obtain ⟨k, x, part⟩ := a
      have fresh := Yaml.entryAt_of_split keys split
      -- The entry read is the one its key finds in the whole object, which reads.
      have found : Yaml.entryAt (Json.namedFields fs 0) k = some x := by
        rw [split]
        exact Yaml.entryAt_of_fresh fresh
      dsimp only at fresh ⊢
      -- Each field the reader knows is read from the object's own entry.
      split
      · have read := reads.1
        rw [found] at read
        have readOk : ObjectMeta.decode x = .ok cp.metadata := Decoded.some_map_eq_ok.mp read
        exact ⟨_, by simp [readOk, Decoded.inPart, Except.mapError, pure, Except.pure],
          before.metadata fresh readOk⟩
      · have read := reads.2.1
        rw [found] at read
        have readOk : ControlPlaneSpec.decode x = .ok cp.spec := Decoded.some_map_eq_ok.mp read
        exact ⟨_, by simp [readOk, Decoded.inPart, Except.mapError, pure, Except.pure],
          before.spec fresh readOk⟩
      · have read := reads.2.2
        rw [found] at read
        have readOk : Yaml.readOption ControlPlaneStatus.decode x = .ok cp.status := read
        exact ⟨_, by simp [readOk, Decoded.inPart, Except.mapError, pure, Except.pure],
          before.status fresh readOk⟩
      · rename_i notMetadata notSpec notStatus
        exact ⟨_, rfl, before.other notMetadata notSpec notStatus⟩
    · intro final facts
      -- The fields read are determined by the entries, so they are cp's.
      rw [facts.unique reads]
      rfl

end ControlPlane

namespace StatusType

/-- What the reader of a status holds after some entries: the generation and conditions as
read from the entries of their keys, zero and none where there was none. -/
def ReadSoFar (pre : List (String × Yaml)) (s : Int × List Condition) : Prop :=
  Yaml.ReadsInto Yaml.readI64 0 (pre.lookup "observedGeneration") s.1 ∧
  Yaml.ReadsInto (Yaml.readSeq Condition.decode) [] (pre.lookup "conditions") s.2

/-- The generation and conditions of a status are read from the entries of their keys, the
other entries ignored. -/
theorem ofEntries_eq_ok {entries : List (String × Yaml)} (unique : (entries.map (·.1)).Nodup)
    {s : StatusType} (reads : ReadSoFar entries (s.observedGeneration, s.conditions)) :
    ofEntries entries = .ok s := by
  unfold ofEntries
  show Except.bind _ _ = _
  refine forIn_bind_of_steps ReadSoFar ?_ (show ReadSoFar [] (0, []) from ⟨rfl, rfl⟩) ?_
  · intro pre a post st split before
    obtain ⟨k, x⟩ := a
    -- Keys are distinct, so the entry read is the first of its key.
    have fresh := Yaml.lookup_of_split (split ▸ unique)
    have found : entries.lookup k = some x := by
      rw [split, List.lookup_append, fresh]
      simp
    dsimp only at fresh ⊢
    -- The generation, the conditions, or another entry, which is passed over.
    split
    · rename_i isGen
      have isGen : k = "observedGeneration" := by simpa using isGen
      subst isGen
      have read : Yaml.readI64 x = .ok s.observedGeneration := by
        have r := reads.1
        rw [found] at r
        exact r
      exact ⟨(s.observedGeneration, st.2), by simp [read, bind, Except.bind, pure, Except.pure],
        Yaml.ReadsInto.lookup_same fresh read, Yaml.ReadsInto.lookup_other (by decide) before.2⟩
    · split
      · rename_i notGen isConds
        have isConds : k = "conditions" := by simpa using isConds
        subst isConds
        have read : Yaml.readSeq Condition.decode x = .ok s.conditions := by
          have r := reads.2
          rw [found] at r
          exact r
        exact ⟨(st.1, s.conditions), by simp [read, bind, Except.bind, pure, Except.pure],
          Yaml.ReadsInto.lookup_other (by decide) before.1, Yaml.ReadsInto.lookup_same fresh read⟩
      · rename_i notGen notConds
        exact ⟨_, rfl, Yaml.ReadsInto.lookup_other (by simpa using notGen) before.1,
          Yaml.ReadsInto.lookup_other (by simpa using notConds) before.2⟩
  · intro final facts
    -- The values read are determined by the entries, so they are s's.
    have sameGen : final.1 = s.observedGeneration := facts.1.unique reads.1
    have sameConds : final.2 = s.conditions := facts.2.unique reads.2
    simp [sameGen, sameConds, pure, Except.pure]

end StatusType

namespace ControlPlaneStatus

/-- What the reader of a control-plane status holds after some entries: the components as read
from their entry, and every other entry kept aside in order. -/
def ReadSoFar (pre : List (String × Yaml × Nat)) (s : List ComponentStatus × List (String × Yaml)) : Prop :=
  Yaml.ReadsInto (Yaml.readSeq ComponentStatus.decode) [] (Yaml.entryAt pre "componentStatus") s.1 ∧
  s.2 = Yaml.entriesBut "componentStatus" pre

/-- A control-plane status reads from an object with no key twice as its components, generation
and conditions read from their entries, whatever else the object holds. -/
theorem decode_obj_eq_ok {fs : Fields} (unique : fs.keys.Nodup) {s : ControlPlaneStatus}
    (components : Yaml.ReadsInto (Yaml.readSeq ComponentStatus.decode) []
      ((fs.get? "componentStatus").map Json.toYaml) s.componentStatus)
    (generation : Yaml.ReadsInto Yaml.readI64 0 ((fs.get? "observedGeneration").map Json.toYaml)
      s.status.observedGeneration)
    (conditions : Yaml.ReadsInto (Yaml.readSeq Condition.decode) []
      ((fs.get? "conditions").map Json.toYaml) s.status.conditions) :
    decode (Json.obj fs).toYaml = .ok s := by
  have keys : ((Json.namedFields fs 0).map (·.1)).Nodup := by rwa [Json.keys_namedFields]
  unfold decode
  rw [Yaml.namedEntries_obj]
  simp only [bind, Except.bind]
  show Except.bind _ _ = _
  refine forIn_bind_of_steps ReadSoFar ?_ (show ReadSoFar [] ([], []) from ⟨rfl, rfl⟩) ?_
  · intro pre a post st split before
    obtain ⟨k, x, part⟩ := a
    -- Keys are distinct, so the entry read is the first of its key.
    have fresh := Yaml.entryAt_of_split keys split
    have found : Yaml.entryAt (Json.namedFields fs 0) k = some x := by
      rw [split]
      exact Yaml.entryAt_of_fresh fresh
    dsimp only at fresh ⊢
    -- The components entry is read; every other entry is kept aside.
    split
    · rename_i isComponents
      have isComponents : k = "componentStatus" := by simpa using isComponents
      subst isComponents
      have read : Yaml.readSeq ComponentStatus.decode x = .ok s.componentStatus := by
        rw [Json.entryAt_namedFields] at found
        rw [found] at components
        exact components
      refine ⟨(s.componentStatus, st.2), by simp [read, Decoded.inPart, Except.mapError, pure, Except.pure],
        Yaml.ReadsInto.append_same fresh read, ?_⟩
      rw [Yaml.entriesBut_append, before.2]
      simp
    · rename_i notComponents
      have notComponents : k ≠ "componentStatus" := by simpa using notComponents
      refine ⟨(st.1, st.2 ++ [(k, x)]), rfl, Yaml.ReadsInto.append_other notComponents before.1, ?_⟩
      rw [Yaml.entriesBut_append, before.2]
      simp [notComponents]
  · intro final facts
    -- The components read are the ones the object's entry gives.
    have sameComponents : final.1 = s.componentStatus := by
      have read := facts.1
      rw [Json.entryAt_namedFields] at read
      exact read.unique components
    -- The entries kept aside read as the generation and conditions.
    have status : StatusType.ofEntries final.2 = .ok s.status := by
      rw [facts.2]
      refine StatusType.ofEntries_eq_ok (Yaml.keys_entriesBut_nodup keys) ⟨?_, ?_⟩
      · rw [Yaml.lookup_entriesBut (by decide), Json.entryAt_namedFields]
        exact generation
      · rw [Yaml.lookup_entriesBut (by decide), Json.entryAt_namedFields]
        exact conditions
    simp [status, sameComponents, Decoded.buffered, Except.mapError, pure, Except.pure]

end ControlPlaneStatus

end MeshControl
