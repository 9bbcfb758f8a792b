import Mathlib.Data.List.DropRight
import Mathlib.Data.List.Zip
import MeshControl.Manifest

/-! The documents of a manifest file: split at separator lines they lose nothing of the text, and
every document that is not null gets its own entry, its object or an error naming its place. -/

namespace List

/-- A split has one group more than it has separators. -/
theorem length_splitOnP (p : α → Bool) :
    ∀ xs : List α, (xs.splitOnP p).length = (xs.filter p).length + 1
  | [] => by simp
  | x :: xs => by
    rw [splitOnP_cons_eq_if_modifyHead]
    -- A separator opens a new group; any other member joins the first.
    cases separates : p x <;> simp [separates, length_splitOnP p xs]

/-- No member of a group of a split is a separator. -/
theorem not_of_mem_splitOnP (p : α → Bool) :
    ∀ {xs g : List α}, g ∈ xs.splitOnP p → ∀ x ∈ g, p x = false
  | [], g, mem => by
    rw [splitOnP_nil, mem_singleton] at mem
    simp [mem]
  | y :: ys, g, mem => by
    rw [splitOnP_cons_eq_if_modifyHead] at mem
    obtain ⟨first, rest, split⟩ := exists_cons_of_ne_nil (splitOnP_ne_nil p ys)
    cases separates : p y
    · -- `y` opens the first group of the rest's split.
      rw [if_neg (by simp [separates]), split, modifyHead_cons, mem_cons] at mem
      rcases mem with rfl | later
      · intro x inGroup
        rcases mem_cons.mp inGroup with rfl | inFirst
        · exact separates
        · exact not_of_mem_splitOnP p (split ▸ mem_cons_self) x inFirst
      · exact not_of_mem_splitOnP p (split ▸ mem_cons_of_mem _ later)
    · -- `y` separates: an empty group comes first.
      rw [if_pos separates, mem_cons] at mem
      rcases mem with rfl | later
      · simp
      · exact not_of_mem_splitOnP p later

/-- Filtering keeps, in order, the members a partial map keeps, each paired with its image. -/
theorem forall₂_filter_filterMap {R : α → β → Prop} {q : α → Bool} {g : α → Option β}
    (dropped : ∀ a, g a = none ↔ q a = false) (kept : ∀ a b, g a = some b → R a b) :
    ∀ xs : List α, Forall₂ R (xs.filter q) (xs.filterMap g)
  | [] => Forall₂.nil
  | x :: xs => by
    -- A member the map drops is filtered out; one it keeps is kept with its image.
    cases image : g x with
    | none =>
      rw [filter_cons_of_neg (by simpa using (dropped x).mp image), filterMap_cons_none image]
      exact forall₂_filter_filterMap dropped kept xs
    | some b =>
      have chosen : q x = true := by
        cases picked : q x
        · rw [← dropped x] at picked
          simp [picked] at image
        · rfl
      rw [filter_cons_of_pos chosen, filterMap_cons_some image]
      exact Forall₂.cons (kept x b image) (forall₂_filter_filterMap dropped kept xs)

end List

namespace MeshControl

/-- `lines` are the lines of `text`, in order, each with its line feed, the last perhaps without
one: they join to the text, none is empty, and a line feed only ends a line, as it ends every line
but the last. -/
structure LinesOf (text : String) (lines : List String) : Prop where
  join : String.join lines = text
  nonempty : ∀ l ∈ lines, l ≠ ""
  feedLast : ∀ l ∈ lines, '\n' ∉ l.toList.dropLast
  ended : ∀ l ∈ lines.dropLast, l.toList.getLast? = some '\n'

namespace linesWithBreaks

/-- The lines cut from the rest of a text, after the part `current` of a line already read, spell
that part and the rest. -/
theorem join_go (cs current : List Char) :
    (String.join (go cs current)).toList = current.reverse ++ cs := by
  -- One case per branch of the cutter: end, end with a part, a feed, any other character.
  fun_induction go cs current with
  | case1 => rfl
  | case2 current _ => simp
  | case3 rest current ih =>
    rw [String.join_cons, String.toList_append, ih, String.toList_ofList]
    simp
  | case4 c rest current _ ih =>
    rw [ih]
    simp

/-- No line cut is empty. -/
theorem nonempty_go (cs current : List Char) : ∀ l ∈ go cs current, l ≠ "" := by
  fun_induction go cs current with
  | case1 => simp
  -- The part left at the end is not empty, or it would not be a line.
  | case2 current notEmpty =>
    intro l mem
    rw [List.mem_singleton] at mem
    subst mem
    rw [Ne, ← String.toList_eq_nil_iff, String.toList_ofList]
    simpa using notEmpty
  -- A line feed closes the part read, feed included.
  | case3 rest current ih =>
    intro l mem
    rcases List.mem_cons.mp mem with rfl | later
    · rw [Ne, ← String.toList_eq_nil_iff, String.toList_ofList]
      simp
    · exact ih l later
  | case4 c rest current _ ih => exact ih

/-- A line cut holds a line feed at most at its end, when the part read had none. -/
theorem feedLast_go (cs current : List Char) (clear : '\n' ∉ current) :
    ∀ l ∈ go cs current, '\n' ∉ l.toList.dropLast := by
  fun_induction go cs current with
  | case1 => simp
  -- The part read has no feed, and neither has its last line.
  | case2 current _ =>
    intro l mem
    rw [List.mem_singleton] at mem
    subst mem
    rw [String.toList_ofList]
    exact fun inside => clear (List.mem_reverse.mp (List.dropLast_subset _ inside))
  -- The feed closing a line is its last character; the next part starts clear.
  | case3 rest current ih =>
    intro l mem
    rcases List.mem_cons.mp mem with rfl | later
    · rw [String.toList_ofList, List.reverse_cons, List.dropLast_concat]
      exact fun inside => clear (List.mem_reverse.mp inside)
    · exact ih (by simp) l later
  | case4 c rest current notFeed ih =>
    exact ih (fun mem => (List.mem_cons.mp mem).elim (fun same => notFeed same.symm) clear)

/-- Every line cut but the last ends with a line feed. -/
theorem ended_go (cs current : List Char) :
    ∀ l ∈ (go cs current).dropLast, l.toList.getLast? = some '\n' := by
  fun_induction go cs current with
  | case1 => simp
  | case2 current _ => simp
  -- The line a feed closes ends with it, and lines after it are cut the same way.
  | case3 rest current ih =>
    intro l mem
    cases following : go rest [] with
    | nil => simp [following] at mem
    | cons next later =>
      rw [following, List.dropLast_cons_cons, List.mem_cons] at mem
      rcases mem with rfl | inRest
      · simp [String.toList_ofList]
      · rw [← following] at inRest
        exact ih l inRest
  | case4 c rest current _ ih => exact ih

end linesWithBreaks

/-- The lines cut from a text are its lines. -/
theorem linesWithBreaks_lines (text : String) : LinesOf text (linesWithBreaks text) where
  join := by
    rw [← String.toList_inj, linesWithBreaks, linesWithBreaks.join_go]
    rfl
  nonempty := linesWithBreaks.nonempty_go _ _
  feedLast := linesWithBreaks.feedLast_go _ _ (by simp)
  ended := linesWithBreaks.ended_go _ _

namespace Manifest

/-- A line joins the first group of a split by being put in front of its text. -/
theorem map_join_modifyHead_cons (line : String) (groups : List (List String)) :
    (groups.modifyHead (line :: ·)).map String.join =
      (groups.map String.join).modifyHead (line ++ ·) := by
  -- Both sides change only the first group, and an empty list has none to change.
  cases groups <;> simp [String.join_cons]

/-- The split of a file, run over lines with a closed list `done` and a current document: each
separator closes the current document, and any other line is added to it. Whatever way the step
is written, the documents are the groups of lines between separators, the first after the current
document. -/
theorem foldl_split {f : List String × String → String → List String × String}
    (closes : ∀ done current line, isSeparator line = true →
      f (done, current) line = (done ++ [current], ""))
    (adds : ∀ done current line, isSeparator line = false →
      f (done, current) line = (done, current ++ line)) :
    ∀ (lines done : List String) (current : String),
      (lines.foldl f (done, current)).1 ++ [(lines.foldl f (done, current)).2] =
        done ++ ((lines.splitOnP isSeparator).map String.join).modifyHead (current ++ ·)
  | [], done, current => by simp
  | line :: rest, done, current => by
    rw [List.foldl_cons, List.splitOnP_cons_eq_if_modifyHead]
    cases separates : isSeparator line
    · -- The line goes into the current document.
      rw [adds done current line separates, foldl_split closes adds rest done (current ++ line)]
      simp [map_join_modifyHead_cons, String.append_assoc, Function.comp_def]
    · -- The line closes the current document and opens an empty one.
      rw [closes done current line separates, foldl_split closes adds rest (done ++ [current]) ""]
      simp only [String.empty_append, if_true, List.map_cons, String.join_nil, List.modifyHead_cons,
        String.append_empty, List.append_assoc, List.singleton_append]
      exact congrArg (done ++ current :: ·) (congrFun List.modifyHead_id _)

/-- The documents of a file are the groups of its lines between separator lines, each joined. -/
theorem documents_eq (m : Manifest) :
    m.documents = ((linesWithBreaks m.content).splitOnP isSeparator).map String.join := by
  unfold documents
  refine (foldl_split ?_ ?_ _ [] "").trans ?_
  -- The file's step closes at a separator and adds any other line.
  · intro done current line separates
    simp [separates]
  · intro done current line separates
    simp [separates]
  · simp only [String.empty_append, List.nil_append]
    exact congrFun List.modifyHead_id _

/-- A separator line starts with three dashes, so three dashes inside a line or after blanks
never separate. -/
theorem dashes_of_isSeparator {line : String} (separates : isSeparator line = true) :
    ['-', '-', '-'] <+: line.toList := by
  -- What is left once trailing blanks are cut is a prefix of the line.
  have trimmed : (line.toList.reverse.dropWhile isWhiteSpace).reverse <+: line.toList :=
    List.rdropWhile_prefix isWhiteSpace line.toList
  simp only [isSeparator, Bool.or_eq_true, beq_iff_eq] at separates
  rcases separates with exact | spaced
  · rwa [exact] at trimmed
  -- A separator followed by blanks keeps its dashes at the front.
  · have front := List.take_prefix 4 (line.toList.reverse.dropWhile isWhiteSpace).reverse
    rw [spaced] at front
    exact List.IsPrefix.trans (by decide) (front.trans trimmed)

/-- Joining each group and writing the separators between the groups spells what writing the
separators between the groups' lines spells. -/
theorem join_zipWith_join : ∀ (groups : List (List String)) (seps : List String),
    groups.length = seps.length + 1 →
      String.join (List.zipWith (· ++ ·) (groups.map String.join) (seps ++ [""])) =
        String.join (List.zipWith (· ++ ·) groups (seps.map ([·]) ++ [[]])).flatten
  | [], _, sized => by simp at sized
  | [g], [], _ => by simp
  | _ :: _ :: _, [], sized => by simp at sized
  | g :: gs, s :: ss, sized => by
    -- Each group is followed by its separator, the last by nothing.
    simp only [List.map_cons, List.cons_append, List.zipWith_cons_cons, String.join_cons,
      List.flatten_cons, String.join_append]
    rw [join_zipWith_join gs ss (by simpa using sized)]
    simp [String.append_assoc]

/-- Whether a document reads as null, which gives it no entry. -/
def readsNull (raw : String) : Bool := (decodeDocument raw).toOption.any Option.isNone

/-- A document reads as null exactly when its YAML value is null inside any tags; a document
that cannot be read does not. -/
theorem readsNull_iff (raw : String) :
    readsNull raw = true ↔ ∃ v, Yaml.parse raw = .ok v ∧ v.untagged = .null := by
  unfold readsNull decodeDocument
  cases parsed : Yaml.parse raw with
  | error e =>
    -- A document that cannot be read has no value, null or not.
    simp [Except.map, Except.toOption]
  | ok v =>
    -- Otherwise it is read through its tag: only a null inside it gives no entry.
    simp only [Except.map]
    cases untag : v.untagged with
    | map entries => cases decoded : Object.decode (.map entries) <;> simp [Except.toOption, untag, decoded]
    | _ => simp [Except.toOption, untag]

/-- The entry of a document that does not read as null: the object it holds, or an error that
names the file and the document's position, counted from one. -/
def Reports (name : String) (doc : String × Nat) (entry : Except Error Object) : Prop :=
  (∃ o, decodeDocument doc.1 = .ok (some o) ∧ entry = .ok o) ∨
    (∃ e, decodeDocument doc.1 = .error e ∧
      entry = .error (.manifest (name ++ " (document " ++ toString (doc.2 + 1) ++ "): " ++ e.message)))

/-- The entries of a file are, in order, one for each document that does not read as null, with
its position among all documents: a broken document does not hide the others. -/
theorem objects_forall₂ (m : Manifest) :
    List.Forall₂ (Reports m.name) (m.documents.zipIdx.filter (fun d => !readsNull d.1)) m.objects := by
  have numbered : (List.range m.documents.length).zip m.documents = m.documents.zipIdx.map Prod.swap := by
    rw [List.zipIdx_eq_zip_range', List.range_eq_range', List.zip_swap]
  unfold objects
  simp only [numbered, List.filterMap_map]
  refine List.forall₂_filter_filterMap ?_ ?_ _
  · -- A document gets no entry exactly when it reads as null.
    rintro ⟨raw, i⟩
    simp only [Function.comp_apply, Prod.swap_prod_mk, Bool.not_eq_false', readsNull]
    cases decodeDocument raw with
    | error e => simp [Except.toOption]
    | ok value => cases value <;> simp [Except.toOption]
  · -- The entry it gets is its object, or its error with the position counted from one.
    rintro ⟨raw, i⟩ entry chosen
    simp only [Function.comp_apply, Prod.swap_prod_mk] at chosen
    unfold Reports
    cases decoded : decodeDocument raw with
    | error e =>
      rw [decoded] at chosen
      exact Or.inr ⟨e, rfl, (Option.some.inj chosen).symm⟩
    | ok value =>
      rw [decoded] at chosen
      cases value with
      | none => cases chosen
      | some o => exact Or.inl ⟨o, rfl, (Option.some.inj chosen).symm⟩

/-- **Documents lose nothing.** The documents with the separators between them spell the file, no
line of a document separates, and each non-null document has its object or a positioned error. -/
theorem documents_split_objects (m : Manifest) :
    (∃ (groups : List (List String)) (seps : List String),
      LinesOf m.content (List.zipWith (· ++ ·) groups (seps.map ([·]) ++ [[]])).flatten ∧
      m.documents = groups.map String.join ∧
      m.documents.length = seps.length + 1 ∧
      m.content = String.join (List.zipWith (· ++ ·) m.documents (seps ++ [""])) ∧
      (∀ s ∈ seps, isSeparator s = true ∧ ['-', '-', '-'] <+: s.toList) ∧
      (∀ g ∈ groups, ∀ l ∈ g, isSeparator l = false)) ∧
    (∀ raw, readsNull raw = true ↔ ∃ v, Yaml.parse raw = .ok v ∧ v.untagged = .null) ∧
    List.Forall₂ (Reports m.name) (m.documents.zipIdx.filter (fun d => !readsNull d.1)) m.objects := by
  refine ⟨?_, readsNull_iff, objects_forall₂ m⟩
  have lines := linesWithBreaks_lines m.content
  have sized := List.length_splitOnP isSeparator (linesWithBreaks m.content)
  -- The groups are the split of the lines at separators, and the separators those lines.
  refine ⟨(linesWithBreaks m.content).splitOnP isSeparator,
    (linesWithBreaks m.content).filter isSeparator, ?_, documents_eq m, ?_, ?_, ?_,
    fun g mem => List.not_of_mem_splitOnP _ mem⟩
  · rwa [List.splitOnP_spec]
  · rw [documents_eq, List.length_map, sized]
  · rw [documents_eq, join_zipWith_join _ _ sized, List.splitOnP_spec, lines.join]
  · intro s mem
    have separates := (List.mem_filter.mp mem).2
    exact ⟨separates, dashes_of_isSeparator separates⟩

end Manifest

end MeshControl
