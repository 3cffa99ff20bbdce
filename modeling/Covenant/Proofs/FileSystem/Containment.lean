import Covenant.Proofs.FileSystem.Locate

/-!
# Paths that stay below a directory

A relative path that never steps above where it starts (`Path.staysBelow`) is followed without
reading anything but what stands beneath the directory that it is taken from, unless it meets a
link. So two file systems that agree beneath the directory give the same contents at such a path
(`FileSystem.contents?_join_of_sameBeneath`). An absolute path is not taken from the directory at
all, and one that steps above it reads what stands there.
-/
namespace Covenant

namespace Path

/-- The names below a directory that steps lead to from names below it, unless they step above the
directory on the way. -/
def descent (names : List String) : List Step → Option (List String)
  | [] => some names
  | .stay :: rest => descent names rest
  | .up :: rest => if names = [] then none else descent names.dropLast rest
  | .down name :: rest => descent (names ++ [name]) rest

/-- Whether a path leads to names below where it starts, and never above on the way. -/
def staysBelow (path : String) : Bool :=
  !isAbsolute path && (descent [] (steps path)).any fun goal => !goal.isEmpty

/-- A path that stays below leads to names there. -/
theorem staysBelow_iff {path : String} : staysBelow path = true ↔
    isAbsolute path = false ∧ ∃ goal, descent [] (steps path) = some goal ∧ goal ≠ [] := by
  unfold staysBelow
  simp [Option.any_eq_true]

/-- A relative path from no directory is itself. -/
theorem join_empty {path : String} (relative : isAbsolute path = false) : join "" path = path := by
  unfold join
  rw [if_neg (by simp [relative])]
  simp

/-- A joined path is no shorter than its first part. -/
theorem utf8ByteSize_le_join {directory path : String} (relative : isAbsolute path = false) :
    directory.utf8ByteSize ≤ (join directory path).utf8ByteSize := by
  unfold join
  rw [if_neg (by simp [relative])]
  split
  · rw [String.utf8ByteSize_append]
    omega
  · rw [String.utf8ByteSize_append, String.utf8ByteSize_append]
    omega

/-! ## Names with an ending -/

/-- An ending without slashes goes to the last segment. -/
theorem segments_append {ending : List Char} (noSlash : '/' ∉ ending) (cs : List Char) :
    ∃ before last, segments cs = before ++ [last] ∧
      segments (cs ++ ending) = before ++ [last ++ ending] := by
  induction cs with
  | nil => exact ⟨[], [], rfl, segments_of_noSlash noSlash⟩
  | cons c rest ih =>
    obtain ⟨before, last, parts, ended⟩ := ih
    rw [List.cons_append, segments_cons, segments_cons, parts, ended]
    by_cases slash : c = '/'
    · rw [if_pos slash, if_pos slash]
      exact ⟨[] :: before, last, rfl, rfl⟩
    · rw [if_neg slash, if_neg slash]
      cases before with
      | nil => exact ⟨[], c :: last, rfl, rfl⟩
      | cons segment more => exact ⟨(c :: segment) :: more, last, rfl, rfl⟩

/-- A segment that does not end with a dot is a name. -/
theorem stepOf_of_getLast? {segment : List Char} (ends : segment.getLast? ≠ some '.') :
    stepOf segment = .down (String.ofList segment) := by
  unfold stepOf
  rw [if_neg (by rintro rfl; exact ends rfl), if_neg (by rintro rfl; exact ends rfl)]

/-- A path with an ending leads down to a name in the end, after the steps that lead to its last
segment. -/
theorem steps_append_ending {ending : String} (some_char : ending ≠ "")
    (noSlash : '/' ∉ ending.toList) (ends : ending.toList.getLast? ≠ some '.') (path : String) :
    ∃ before last, before ⊆ steps path ∧ steps (path ++ ending) = before ++ [.down last] := by
  obtain ⟨before, last, parts, ended⟩ := segments_append noSlash path.toList
  have nonempty : ending.toList ≠ [] := fun none => some_char (String.toList_injective none)
  have kept : last ++ ending.toList ≠ [] := List.append_ne_nil_of_right_ne_nil _ nonempty
  have last_ends : (last ++ ending.toList).getLast? ≠ some '.' := by
    rw [List.getLast?_eq_some_getLast nonempty] at ends
    rw [List.getLast?_append, List.getLast?_eq_some_getLast nonempty]
    exact ends
  refine ⟨(before.filter (!·.isEmpty)).map stepOf, String.ofList (last ++ ending.toList), ?_, ?_⟩
  · unfold steps
    simp only [parts, List.filter_append, List.map_append, List.append_assoc]
    exact List.subset_append_left _ _
  · unfold steps
    rw [String.toList_append, ended]
    have open_end : ¬((before ++ [last ++ ending.toList]).getLast? = some [] ∧
        (before ++ [last ++ ending.toList]).any (!·.isEmpty) = true) := by
      rw [List.getLast?_concat]
      exact fun ⟨empty, _⟩ => kept (Option.some.inj empty)
    dsimp only
    rw [if_neg open_end, List.append_nil, List.filter_append, List.map_append]
    simp [kept, stepOf_of_getLast? last_ends]

/-- Steps that go on are descended one after another. -/
theorem descent_append (names : List String) (steps more : List Step) :
    descent names (steps ++ more) = (descent names steps).bind (descent · more) := by
  induction steps generalizing names with
  | nil => rfl
  | cons step rest ih =>
    cases step with
    | stay => exact ih names
    | up =>
      rw [List.cons_append, descent, descent]
      split
      · rfl
      · exact ih _
    | down name => exact ih _

/-- Steps none of which leads up never lead above. -/
theorem exists_descent {steps : List Step} (noUp : .up ∉ steps) (names : List String) :
    ∃ goal, descent names steps = some goal := by
  induction steps generalizing names with
  | nil => exact ⟨names, rfl⟩
  | cons step rest ih =>
    rw [List.mem_cons, not_or] at noUp
    cases step with
    | stay => exact ih noUp.2 names
    | up => exact absurd rfl noUp.1
    | down name => exact ih noUp.2 _

/-- A relative path is relative with an ending. -/
theorem isAbsolute_append {path ending : String} (noSlash : '/' ∉ ending.toList)
    (relative : isAbsolute path = false) : isAbsolute (path ++ ending) = false := by
  unfold isAbsolute at relative ⊢
  rw [String.toList_append]
  cases chars : path.toList with
  | cons c rest =>
    rw [chars] at relative
    exact relative
  | nil =>
    cases ending_chars : ending.toList with
    | nil => rfl
    | cons c rest =>
      have other : c ≠ '/' := by
        rintro rfl
        exact noSlash (ending_chars ▸ List.mem_cons_self)
      simpa using other

/-- A relative path none of whose steps leads up stays below with an ending. -/
theorem staysBelow_append_ending {path ending : String} (some_char : ending ≠ "")
    (noSlash : '/' ∉ ending.toList) (ends : ending.toList.getLast? ≠ some '.')
    (relative : isAbsolute path = false) (noUp : .up ∉ steps path) :
    staysBelow (path ++ ending) = true := by
  obtain ⟨before, last, leads, ended⟩ := steps_append_ending some_char noSlash ends path
  obtain ⟨goal, descends⟩ := exists_descent (fun up => noUp (leads up)) []
  refine staysBelow_iff.mpr ⟨isAbsolute_append noSlash relative, goal ++ [last], ?_, by simp⟩
  rw [ended, descent_append, descends]
  rfl

end Path

/-- No names lead to a link from a node below which none is listed. -/
theorem FileNode.WellFormed.kind_ne_link {node : FileNode} (wellFormed : node.WellFormed)
    (linkFree : ∀ place ∈ node.places, ∀ target, place.2 ≠ .link target) (names : List String)
    (target : String) : (node.below? names).map FileNode.kind ≠ some (.link target) :=
  fun found => linkFree _ (wellFormed.mem_places_iff.mpr found) target rfl

namespace FileSystem

variable {system other : FileSystem} {directory path : String}
  {base base' place names goal last : List String} {steps : List Path.Step} {links left : Nat}

/-! ## What stands beneath a directory -/

/-- Where relative paths taken from a directory start. Those taken from no directory start from the
current one. -/
def base? (system : FileSystem) (directory : String) : Option (List String) :=
  if directory = "" then some system.current else (system.locate directory).toOption

/-- Where paths taken from a directory with a path start is where the path leads. -/
theorem base?_eq_some_iff (somewhere : directory ≠ "") :
    system.base? directory = some base ↔ system.locate directory = .ok base := by
  unfold base?
  rw [if_neg somewhere]
  cases system.locate directory with
  | error fault => exact ⟨nofun, nofun⟩
  | ok place =>
    change some place = some base ↔ Except.ok place = Except.ok base
    rw [Option.some.injEq, Except.ok.injEq]

/-- What stands at names beneath a directory. -/
def beneath? (system : FileSystem) (directory : String) (names : List String) : Option NodeKind :=
  (system.base? directory).bind fun base => system.kindAt? (base ++ names)

/-- The same stands beneath a directory in two file systems, wherever the directory is. -/
def SameBeneath (system other : FileSystem) (directory : String) : Prop :=
  ∀ names ≠ [], system.beneath? directory names = other.beneath? directory names

/-- No link stands beneath a directory. -/
def LinkFree (system : FileSystem) (directory : String) : Prop :=
  ∀ names ≠ [], ∀ target, system.beneath? directory names ≠ some (.link target)

/-- What stands beneath a directory is symmetric. -/
theorem SameBeneath.symm (same : system.SameBeneath other directory) :
    other.SameBeneath system directory := fun names below => (same names below).symm

/-- What stands at names beneath a directory stands after the place of the directory. -/
theorem beneath?_of_base? (is_base : system.base? directory = some base) (names : List String) :
    system.beneath? directory names = system.kindAt? (base ++ names) := by
  unfold beneath?
  rw [is_base]
  rfl

/-- What stands at names beneath a directory stands below its node. -/
theorem beneath?_of_nodeAt? (is_base : system.base? directory = some base) {node : FileNode}
    (found : system.nodeAt? base = some node) (names : List String) :
    system.beneath? directory names = (node.below? names).map FileNode.kind := by
  rw [beneath?_of_base? is_base, kindAt?, nodeAt?_append, found]
  rfl

/-- Steps lead on from a directory only. -/
theorem Leads.directoryAt (way : system.Leads links place steps left last)
    (some_step : steps ≠ []) : system.DirectoryAt place := by
  cases way with
  | done _ _ => exact absurd rfl some_step
  | stay here _ => exact here
  | up here _ => exact here
  | down here _ _ _ _ => exact here
  | follow here _ _ _ _ _ => exact here

/-- A way along steps that stay below a place is the same way below any directory beneath which the
same stands, as long as no link is met. -/
theorem Leads.transfer (way : system.Leads links (base ++ names) steps left last)
    (stays : Path.descent names steps = some goal)
    (noLink : ∀ names ≠ [], ∀ target, system.kindAt? (base ++ names) ≠ some (.link target))
    (same : ∀ names ≠ [], system.kindAt? (base ++ names) = other.kindAt? (base' ++ names))
    (directory : other.DirectoryAt base') (links' : Nat) :
    other.Leads links' (base' ++ names) steps links' (base' ++ goal) := by
  have enters {names : List String} (here : system.DirectoryAt (base ++ names)) :
      other.DirectoryAt (base' ++ names) := by
    by_cases below : names = []
    · rw [below, List.append_nil]
      exact directory
    · unfold DirectoryAt
      rw [← same names below]
      exact here
  induction steps generalizing names links with
  | nil =>
    cases stays
    exact .done _ _
  | cons step rest ih =>
    cases way with
    | stay here onward => exact .stay (enters here) (ih onward stays)
    | up here onward =>
      unfold Path.descent at stays
      split at stays
      · cases stays
      · rename_i below
        rw [List.dropLast_append_of_ne_nil below] at onward
        have onward' := ih onward stays
        rw [← List.dropLast_append_of_ne_nil below] at onward'
        exact .up (enters here) onward'
    | @down _ _ _ _ name _ kind here short there noLink' onward =>
      have below : names ++ [name] ≠ [] := List.append_ne_nil_of_right_ne_nil _ (by simp)
      rw [List.append_assoc] at there onward
      have onward' := ih onward stays
      rw [same _ below] at there
      rw [← List.append_assoc] at there onward'
      exact .down (enters here) short there noLink' onward'
    | @follow _ _ _ _ _ _ name target _ _ _ there _ _ _ =>
      have below : names ++ [name] ≠ [] := List.append_ne_nil_of_right_ne_nil _ (by simp)
      rw [List.append_assoc] at there
      exact absurd there (noLink _ below target)

/-! ## Paths from a directory -/

/-- A relative path from a directory leads from the place of the directory along its own steps. -/
theorem leads_of_locate_join (relative : Path.isAbsolute path = false) (some_path : path ≠ "")
    (some_step : Path.steps path ≠ [])
    (located : system.locate (Path.join directory path) = .ok last) :
    ∃ base links left, system.base? directory = some base ∧
      system.Leads links base (Path.steps path) left last := by
  obtain ⟨noZero, short, -, left, way⟩ := locate_eq_ok_iff.mp located
  by_cases nowhere : directory = ""
  · subst nowhere
    unfold start at way
    rw [Path.join_empty relative, relative] at way
    exact ⟨_, _, _, rfl, way⟩
  · unfold start at way
    rw [Path.isAbsolute_join nowhere relative,
      Path.steps_join_relative nowhere some_path relative] at way
    obtain ⟨fewer, base, approach, onward⟩ := way.split
    have here := onward.directoryAt some_step
    have noZero' : '\x00' ∉ directory.toList := fun zero =>
      noZero ((Path.zero_mem_join nowhere relative).mpr (.inl zero))
    have there : ∃ left, system.Leads linkLimit (system.start directory) (Path.steps directory)
        left base := by
      rcases Path.steps_cases directory with same | slashed
      · exact ⟨_, same ▸ approach⟩
      · exact ⟨_, slashed ▸ approach.append (.stay here (.done _ _))⟩
    have found : system.locate directory = .ok base := locate_eq_ok_iff.mpr
      ⟨noZero', Nat.le_trans (Path.utf8ByteSize_le_join relative) short, nowhere, there⟩
    exact ⟨base, _, _, (base?_eq_some_iff nowhere).mpr found, onward⟩

/-- A relative path from a directory leads wherever its own steps lead from the place of the
directory, over any number of links. -/
theorem locate_join_of_leads (relative : Path.isAbsolute path = false) (some_path : path ≠ "")
    (noZero : '\x00' ∉ (Path.join directory path).toList)
    (short : (Path.join directory path).utf8ByteSize ≤ pathLimit)
    (is_base : system.base? directory = some base)
    (way : ∀ links, system.Leads links base (Path.steps path) links last) :
    system.locate (Path.join directory path) = .ok last := by
  by_cases somewhere : directory = ""
  · subst somewhere
    cases is_base
    rw [Path.join_empty relative] at noZero short ⊢
    refine locate_eq_ok_iff.mpr ⟨noZero, short, some_path, linkLimit, ?_⟩
    unfold start
    rw [relative]
    exact way linkLimit
  · obtain ⟨left, approach⟩ := leads_approach ((base?_eq_some_iff somewhere).mp is_base)
    refine locate_eq_ok_iff.mpr ⟨noZero, short, Path.join_ne_empty somewhere relative, left, ?_⟩
    unfold start at approach ⊢
    rw [Path.isAbsolute_join somewhere relative,
      Path.steps_join_relative somewhere some_path relative]
    exact approach.append (way left)

/-- Where a path that stays below a directory leads to something, it leads to the same thing in a
file system in which the same stands beneath the directory. -/
theorem locate_join_of_sameBeneath (stays : Path.staysBelow path = true)
    (same : system.SameBeneath other directory) (linkFree : system.LinkFree directory)
    (located : system.locate (Path.join directory path) = .ok last) :
    ∃ last', other.locate (Path.join directory path) = .ok last' ∧
      system.kindAt? last = other.kindAt? last' := by
  obtain ⟨relative, goal, descends, below⟩ := Path.staysBelow_iff.mp stays
  have some_step : Path.steps path ≠ [] := by
    intro none
    rw [none] at descends
    exact below (Option.some.inj descends).symm
  have some_path : path ≠ "" := by
    rintro rfl
    exact some_step rfl
  obtain ⟨noZero, short, -⟩ := locate_eq_ok_iff.mp located
  obtain ⟨base, links, left, is_base, way⟩ :=
    leads_of_locate_join relative some_path some_step located
  have here := way.directoryAt some_step
  have noLink : ∀ names ≠ [], ∀ target, system.kindAt? (base ++ names) ≠ some (.link target) :=
    fun names below target => beneath?_of_base? is_base names ▸ linkFree names below target
  rw [← List.append_nil base] at way
  -- The way ends at the names of the descent, where something stands in both file systems.
  have ends : last = base ++ goal :=
    way.unique (way.transfer descends noLink (fun _ _ => rfl) here links)
  obtain ⟨kind, there⟩ := way.exists_kind (by rw [List.append_nil]; exact ⟨_, here.choose_spec⟩)
  rw [ends, ← beneath?_of_base? is_base, same goal below] at there
  obtain ⟨base', is_base', there'⟩ := Option.bind_eq_some_iff.mp there
  have here' : other.DirectoryAt base' := by
    obtain ⟨name, rest, rfl⟩ := List.exists_cons_of_ne_nil below
    exact directoryAt_of_child there'
  have same' : ∀ names ≠ [], system.kindAt? (base ++ names) = other.kindAt? (base' ++ names) := by
    intro names below
    rw [← beneath?_of_base? is_base, ← beneath?_of_base? is_base']
    exact same names below
  have way' (links : Nat) : other.Leads links base' (Path.steps path) links (base' ++ goal) := by
    have moved := way.transfer descends noLink same' here' links
    rwa [List.append_nil] at moved
  refine ⟨base' ++ goal, locate_join_of_leads relative some_path noZero short is_base' way', ?_⟩
  rw [ends, same' goal below]

/-! ## What is read there -/

/-- What is read at a path, if the path leads to anything. -/
def contents? (system : FileSystem) (path : String) : Option (Except FileFault String) :=
  if system.pathExists path then some (system.readText path) else none

/-- What is read where paths lead to the same kind of thing is the same. -/
theorem contents?_of_kindAt? {path' : String} {last' : List String}
    (located : system.locate path = .ok last) (located' : other.locate path' = .ok last')
    (same : system.kindAt? last = other.kindAt? last') :
    system.contents? path = other.contents? path' := by
  unfold contents?
  rw [if_pos (pathExists_iff.mpr ⟨_, located⟩), if_pos (pathExists_iff.mpr ⟨_, located'⟩),
    readText_of_locate located, readText_of_locate located']
  unfold kindAt? at same
  cases here : system.nodeAt? last with
  | none =>
    rw [here] at same
    rw [Option.map_eq_none_iff.mp same.symm]
  | some node =>
    rw [here] at same
    obtain ⟨node', there, kind⟩ := Option.map_eq_some_iff.mp same.symm
    rw [there]
    cases node <;> cases node' <;> cases kind <;> rfl

/-- Two file systems in which the same stands beneath a directory, and no link, give the same
contents at a path that stays below the directory. -/
theorem contents?_join_of_sameBeneath (stays : Path.staysBelow path = true)
    (same : system.SameBeneath other directory) (linkFree : system.LinkFree directory) :
    system.contents? (Path.join directory path) = other.contents? (Path.join directory path) := by
  have linkFree' : other.LinkFree directory := fun names below target =>
    same names below ▸ linkFree names below target
  cases located : system.locate (Path.join directory path) with
  | ok last =>
    obtain ⟨last', located', kinds⟩ := locate_join_of_sameBeneath stays same linkFree located
    exact contents?_of_kindAt? located located' kinds
  | error fault =>
    cases located' : other.locate (Path.join directory path) with
    | ok last' =>
      obtain ⟨last, impossible, -⟩ :=
        locate_join_of_sameBeneath stays same.symm linkFree' located'
      rw [located] at impossible
      cases impossible
    | error fault' =>
      unfold contents? pathExists
      rw [located, located']
      rfl

end FileSystem

end Covenant
