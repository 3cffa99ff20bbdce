import Covenant.FileSystem.Resolve

/-!
# Paths of entries

Names that lead down from a directory make a path out of its path (`Path.descend`). The steps of
that path are the steps to the directory and then one step down to each name
(`Path.steps_descend`), whether or not the path of the directory ends with a slash. Paths below one
directory compare, component by component, as the names that lead to them (`Path.precedes_iff`).
-/
namespace Covenant.Path

/-- A text that can be the name of an entry. -/
structure IsName (name : String) : Prop where
  /-- It has characters. -/
  nonempty : name.toList ≠ []
  /-- It is one component of a path. -/
  noSlash : '/' ∉ name.toList
  /-- It can stand in a path. -/
  noZero : '\x00' ∉ name.toList
  /-- It does not stand for the directory itself. -/
  notHere : name ≠ "."
  /-- It does not stand for the directory above. -/
  notAbove : name ≠ ".."
  /-- It is not too long. -/
  short : name.utf8ByteSize ≤ FileSystem.nameLimit

instance (name : String) : Decidable (IsName name) :=
  decidable_of_iff
    (name.toList ≠ [] ∧ '/' ∉ name.toList ∧ '\x00' ∉ name.toList ∧ name ≠ "." ∧ name ≠ ".." ∧
      name.utf8ByteSize ≤ FileSystem.nameLimit)
    ⟨fun ⟨nonempty, noSlash, noZero, notHere, notAbove, short⟩ =>
        ⟨nonempty, noSlash, noZero, notHere, notAbove, short⟩,
      fun ⟨nonempty, noSlash, noZero, notHere, notAbove, short⟩ =>
        ⟨nonempty, noSlash, noZero, notHere, notAbove, short⟩⟩

/-- The path of what names lead to from a directory, given the path of the directory. -/
def descend (directory : String) (names : List String) : String := names.foldl join directory

/-- The steps to what a path leads to, without a step for a slash at its end. -/
def approach (path : String) : List Step :=
  ((segments path.toList).filter (!·.isEmpty)).map stepOf

/-- The components of a path, by which paths are compared. -/
def components (path : String) : List String :=
  ((segments path.toList).filter (!·.isEmpty)).map String.ofList

/-- The path of names below a directory comes before that of other names, component by
component. -/
def Precedes (directory : String) (names others : List String) : Prop :=
  components (descend directory names) < components (descend directory others)

instance (directory : String) : DecidableRel (Precedes directory) := fun _ _ =>
  inferInstanceAs (Decidable (_ < _))

instance (directory : String) : Std.Asymm (Precedes directory) := ⟨fun _ _ => List.lt_asymm⟩

/-! ## Segments -/

/-- Splitting goes on after a slash, and else adds to the first segment. -/
theorem segments_cons (c : Char) (rest : List Char) : segments (c :: rest) =
    if c = '/' then [] :: segments rest
    else match segments rest with
      | [] => [[c]]
      | segment :: others => (c :: segment) :: others := by
  by_cases slash : c = '/'
  · rw [slash, if_pos rfl, segments]
  · rw [if_neg slash]
    cases parts : segments rest with
    | nil => simp only [segments, parts]
    | cons segment others => simp only [segments, parts]

/-- There is always a segment. -/
theorem segments_ne_nil (cs : List Char) : segments cs ≠ [] := by
  cases cs with
  | nil => exact List.cons_ne_nil _ _
  | cons c rest =>
    rw [segments_cons]
    split
    · exact List.cons_ne_nil _ _
    · split <;> exact List.cons_ne_nil _ _

/-- Characters without a slash are one segment. -/
theorem segments_of_noSlash {cs : List Char} (noSlash : '/' ∉ cs) : segments cs = [cs] := by
  induction cs with
  | nil => rfl
  | cons c rest ih =>
    rw [List.mem_cons, not_or] at noSlash
    rw [segments_cons, if_neg (Ne.symm noSlash.1), ih noSlash.2]

/-- A slash separates the segments before it from those after it. -/
theorem segments_append_slash (before after : List Char) :
    segments (before ++ '/' :: after) = segments before ++ segments after := by
  induction before with
  | nil =>
    rw [List.nil_append, segments_cons, if_pos rfl]
    rfl
  | cons c rest ih =>
    rw [List.cons_append, segments_cons, segments_cons, ih]
    split
    · rfl
    · cases parts : segments rest with
      | nil => exact absurd parts (segments_ne_nil rest)
      | cons segment others => rfl

/-- A name is a step down to it. -/
theorem IsName.stepOf_toList {name : String} (isName : IsName name) :
    stepOf name.toList = .down name := by
  have here : name.toList ≠ ['.'] := fun same => isName.notHere (String.toList_injective same)
  have above : name.toList ≠ ['.', '.'] := fun same =>
    isName.notAbove (String.toList_injective same)
  rw [stepOf, if_neg here, if_neg above, String.ofList_toList]

/-! ## Joined paths -/

/-- A name is no absolute path. -/
theorem IsName.isAbsolute_eq_false {name : String} (isName : IsName name) :
    isAbsolute name = false := by
  unfold isAbsolute
  cases chars : name.toList with
  | nil => rfl
  | cons c rest =>
    have other : c ≠ '/' := by
      rintro rfl
      exact isName.noSlash (chars ▸ List.mem_cons_self)
    simpa using other

/-- Before a relative path in a joined path stand the characters of the directory's path, up to a
slash at their end that separates the two. -/
theorem toList_join {directory path : String} (nonempty : directory ≠ "")
    (relative : isAbsolute path = false) : ∃ before,
      (join directory path).toList = before ++ '/' :: path.toList ∧
        (directory.toList = before ∨ directory.toList = before ++ ['/']) := by
  have some_char : directory.isEmpty = false := by
    simpa using nonempty
  unfold join
  rw [if_neg (by simp [relative])]
  split
  · rename_i ends
    rw [some_char, Bool.false_or, beq_iff_eq] at ends
    obtain ⟨before, chars⟩ := List.getLast?_eq_some_iff.mp ends
    exact ⟨before, by simp [chars], .inr chars⟩
  · exact ⟨directory.toList, by simp, .inl rfl⟩

/-- The segments with characters of a joined path are those of the directory's path and those of the
relative path, whose end is the end of both. -/
theorem segments_join {directory path : String} (nonempty : directory ≠ "")
    (relative : isAbsolute path = false) :
    (segments (join directory path).toList).filter (!·.isEmpty) =
        (segments directory.toList).filter (!·.isEmpty) ++
          (segments path.toList).filter (!·.isEmpty) ∧
      (segments (join directory path).toList).getLast? = (segments path.toList).getLast? := by
  obtain ⟨before, chars, from_directory⟩ := toList_join nonempty relative
  rw [chars, segments_append_slash]
  constructor
  · rw [List.filter_append]
    rcases from_directory with same | slashed
    · rw [same]
    · rw [slashed, segments_append_slash, List.filter_append]
      simp [segments]
  · rw [List.getLast?_append, List.getLast?_eq_some_getLast (segments_ne_nil path.toList)]
    rfl

/-- The steps to what a relative path leads to are taken after those to the directory. -/
theorem approach_join_relative {directory path : String} (nonempty : directory ≠ "")
    (relative : isAbsolute path = false) :
    approach (join directory path) = approach directory ++ approach path := by
  unfold approach
  rw [(segments_join nonempty relative).1, List.map_append]

/-- A relative path has a segment with characters, if it has characters. -/
theorem exists_segment {path : String} (some_path : path ≠ "")
    (relative : isAbsolute path = false) : (segments path.toList).any (!·.isEmpty) = true := by
  unfold isAbsolute at relative
  cases chars : path.toList with
  | nil => exact absurd (String.toList_injective chars) some_path
  | cons c rest =>
    have other : c ≠ '/' := by
      rintro rfl
      simp [chars] at relative
    rw [segments_cons, if_neg other]
    split <;> rfl

/-- The steps of a relative path are taken after those to the directory. -/
theorem steps_join_relative {directory path : String} (nonempty : directory ≠ "")
    (some_path : path ≠ "") (relative : isAbsolute path = false) :
    steps (join directory path) = approach directory ++ steps path := by
  obtain ⟨parts, last⟩ := segments_join nonempty relative
  have here := exists_segment some_path relative
  have there : (segments (join directory path).toList).any (!·.isEmpty) = true := by
    obtain ⟨segment, member, some_char⟩ := List.any_eq_true.mp here
    have kept : segment ∈ (segments path.toList).filter (!·.isEmpty) :=
      List.mem_filter.mpr ⟨member, some_char⟩
    have joined := List.mem_append_right ((segments directory.toList).filter (!·.isEmpty)) kept
    rw [← parts] at joined
    exact List.any_eq_true.mpr ⟨segment, List.mem_filter.mp joined⟩
  unfold steps approach
  simp only [parts, last, here, there, List.map_append, List.append_assoc]

/-- The segments with characters of a name are the name. -/
theorem IsName.segments_filter {name : String} (isName : IsName name) :
    (segments name.toList).filter (!·.isEmpty) = [name.toList] := by
  rw [segments_of_noSlash isName.noSlash]
  simp [isName.nonempty]

/-- The steps to an entry are those to its directory and one down to its name. -/
theorem approach_join {directory name : String} (nonempty : directory ≠ "")
    (isName : IsName name) :
    approach (join directory name) = approach directory ++ [.down name] := by
  rw [approach_join_relative nonempty isName.isAbsolute_eq_false]
  unfold approach
  rw [isName.segments_filter, List.map_singleton, isName.stepOf_toList]

/-- The components of the path of an entry are those of its directory's path and its name. -/
theorem components_join {directory name : String} (nonempty : directory ≠ "")
    (isName : IsName name) : components (join directory name) = components directory ++ [name] := by
  unfold components
  rw [(segments_join nonempty isName.isAbsolute_eq_false).1, isName.segments_filter,
    List.map_append, List.map_singleton, String.ofList_toList]

/-- A path steps to what it leads to, and once more in place if a slash at its end says so. -/
theorem steps_cases (path : String) :
    steps path = approach path ∨ steps path = approach path ++ [.stay] := by
  unfold steps
  dsimp only
  split
  · exact .inr rfl
  · exact .inl (List.append_nil _)

/-- A path that ends with a name has no step after it. -/
theorem steps_join {directory name : String} (nonempty : directory ≠ "")
    (isName : IsName name) : steps (join directory name) = approach (join directory name) := by
  have ends := (segments_join nonempty isName.isAbsolute_eq_false).2
  rw [segments_of_noSlash isName.noSlash, List.getLast?_singleton] at ends
  unfold steps
  dsimp only
  rw [if_neg (by simp [ends, isName.nonempty]), List.append_nil]
  rfl

/-- A relative path below an absolute one is absolute. -/
theorem isAbsolute_join {directory path : String} (nonempty : directory ≠ "")
    (relative : isAbsolute path = false) :
    isAbsolute (join directory path) = isAbsolute directory := by
  obtain ⟨before, chars, from_directory⟩ := toList_join nonempty relative
  unfold isAbsolute
  rw [chars]
  rcases from_directory with same | slashed
  · have some_char : before ≠ [] := by
      rintro rfl
      exact nonempty (String.toList_injective same)
    rw [same]
    cases before with
    | nil => exact absurd rfl some_char
    | cons c rest => rfl
  · rw [slashed]
    cases before <;> rfl

/-- A joined path is not empty. -/
theorem join_ne_empty {directory path : String} (nonempty : directory ≠ "")
    (relative : isAbsolute path = false) : join directory path ≠ "" := by
  obtain ⟨before, chars, _⟩ := toList_join nonempty relative
  intro empty
  simp [empty] at chars

/-- A zero byte in a joined path comes from one of the two paths. -/
theorem zero_mem_join {directory path : String} (nonempty : directory ≠ "")
    (relative : isAbsolute path = false) : '\x00' ∈ (join directory path).toList ↔
      '\x00' ∈ directory.toList ∨ '\x00' ∈ path.toList := by
  obtain ⟨before, chars, from_directory⟩ := toList_join nonempty relative
  have slash : ('\x00' : Char) ≠ '/' := by decide
  rw [chars]
  rcases from_directory with same | slashed
  · simp [same, slash]
  · simp [slashed, slash]

/-! ## Paths below a directory -/

/-- A path below a directory steps to the directory and down to each name. -/
theorem steps_descend {directory : String} (nonempty : directory ≠ "") {names : List String}
    (areNames : ∀ name ∈ names, IsName name) (below : names ≠ []) :
    steps (descend directory names) = approach directory ++ names.map .down := by
  induction names generalizing directory with
  | nil => exact absurd rfl below
  | cons name rest ih =>
    obtain ⟨isName, others⟩ := List.forall_mem_cons.mp areNames
    cases rest with
    | nil => exact (steps_join nonempty isName).trans (approach_join nonempty isName)
    | cons next more =>
      change steps (descend (join directory name) (next :: more)) = _
      rw [ih (join_ne_empty nonempty isName.isAbsolute_eq_false) others (List.cons_ne_nil _ _),
        approach_join nonempty isName, List.append_assoc, List.singleton_append]
      rfl

/-- What a path below a directory has in common with the path of the directory: both are absolute
or both are not, and both hold a zero byte or neither does. -/
theorem descend_alike {directory : String} (nonempty : directory ≠ "") {names : List String}
    (areNames : ∀ name ∈ names, IsName name) : descend directory names ≠ "" ∧
      isAbsolute (descend directory names) = isAbsolute directory ∧
      ('\x00' ∈ (descend directory names).toList ↔ '\x00' ∈ directory.toList) := by
  induction names generalizing directory with
  | nil => exact ⟨nonempty, rfl, Iff.rfl⟩
  | cons name rest ih =>
    obtain ⟨isName, others⟩ := List.forall_mem_cons.mp areNames
    have relative := isName.isAbsolute_eq_false
    obtain ⟨nonempty', absolute, zero⟩ := ih (join_ne_empty nonempty relative) others
    exact ⟨nonempty', absolute.trans (isAbsolute_join nonempty relative),
      zero.trans ((zero_mem_join nonempty relative).trans (or_iff_left isName.noZero))⟩

/-- The components of a path below a directory are those of the directory's path and the names. -/
theorem components_descend {directory : String} (nonempty : directory ≠ "") {names : List String}
    (areNames : ∀ name ∈ names, IsName name) :
    components (descend directory names) = components directory ++ names := by
  induction names generalizing directory with
  | nil => exact (List.append_nil _).symm
  | cons name rest ih =>
    obtain ⟨isName, others⟩ := List.forall_mem_cons.mp areNames
    have nonempty' := join_ne_empty nonempty isName.isAbsolute_eq_false
    change components (descend (join directory name) rest) = _
    rw [ih nonempty' others, components_join nonempty isName, List.append_assoc,
      List.singleton_append]

/-- Different names lead from a directory to different paths. -/
theorem descend_inj {directory : String} (nonempty : directory ≠ "") {names others : List String}
    (areNames : ∀ name ∈ names, IsName name) (areNames' : ∀ name ∈ others, IsName name)
    (same : descend directory names = descend directory others) : names = others := by
  have alike := congrArg components same
  rw [components_descend nonempty areNames, components_descend nonempty areNames'] at alike
  exact List.append_cancel_left alike

/-- Paths below one directory compare as the names that lead to them. -/
theorem precedes_iff {directory : String} (nonempty : directory ≠ "")
    {names others : List String} (areNames : ∀ name ∈ names, IsName name)
    (areNames' : ∀ name ∈ others, IsName name) :
    Precedes directory names others ↔ names < others := by
  unfold Precedes
  rw [components_descend nonempty areNames, components_descend nonempty areNames']
  induction components directory with
  | nil => rfl
  | cons component rest ih =>
    rw [List.cons_append, List.cons_append, List.cons_lt_cons_iff, ih]
    have irreflexive : ¬component < component := String.lt_irrefl component
    simp only [irreflexive, true_and, false_or]

/-- Names go on from where the names before them led. -/
theorem descend_append (directory : String) (names more : List String) :
    descend directory (names ++ more) = descend (descend directory names) more :=
  List.foldl_append

end Covenant.Path
