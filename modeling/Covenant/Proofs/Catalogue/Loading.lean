import Covenant.Proofs.Catalogue.Atomicity
import Covenant.Proofs.Catalogue.Descent
import Covenant.Proofs.FileSystem.Removal

/-!
# Loading a directory

Loading a directory goes into the directories below it one by one. What comes of it is what comes of
registering, in the order of their paths, the protocol files at any depth one after another
(`Catalogue.registerFiles`), where a file that is refused changes nothing. The plan of the load
gives the files in that order; it also holds links to directories that could not be followed on the
way, which are refused whenever they are tried and drop out (`Catalogue.registerFiles_filter`).
-/
namespace Covenant.Catalogue

open FileSystem

variable {system other : FileSystem} {catalogue : Catalogue} {directory : String}
  {place : List String}

/-! ## Registering files one after another -/

/-- What registering files one after another comes to. -/
structure Tally where
  /-- How many protocols were declared. -/
  count : Nat
  /-- What is registered in the end. -/
  catalogue : Catalogue
  /-- The files that were refused. -/
  refused : List (List String)

/-- Register files one after another, given the names that lead to each from a directory, and pass
over those that are refused. -/
def registerFiles (system : FileSystem) (directory : String) (catalogue : Catalogue) :
    List (List String) → Tally
  | [] => ⟨0, catalogue, []⟩
  | names :: rest =>
    let effect := catalogue.registerFile system (Path.descend directory names)
    match effect.result with
    | .ok count =>
      let others := effect.catalogue.registerFiles system directory rest
      { others with count := count + others.count }
    | .error _ =>
      let others := catalogue.registerFiles system directory rest
      { others with refused := names :: others.refused }

/-- A file that is not refused is counted. -/
theorem registerFiles_cons_of_ok {names : List String} {rest : List (List String)} {count : Nat}
    (accepted : (catalogue.registerFile system (Path.descend directory names)).result = .ok count) :
    catalogue.registerFiles system directory (names :: rest) =
      let others := (catalogue.registerFile system (Path.descend directory names)).catalogue
        |>.registerFiles system directory rest
      ⟨count + others.count, others.catalogue, others.refused⟩ := by
  rw [registerFiles, accepted]

/-- A file that is refused is passed over. -/
theorem registerFiles_cons_of_error {names : List String} {rest : List (List String)}
    {error : CatalogueError}
    (refused : (catalogue.registerFile system (Path.descend directory names)).result =
      .error error) :
    catalogue.registerFiles system directory (names :: rest) =
      let others := catalogue.registerFiles system directory rest
      ⟨others.count, others.catalogue, names :: others.refused⟩ := by
  rw [registerFiles, refused]

/-- A file where the same is read is registered alike, or refused both times. -/
theorem registerFile_alike {path : String}
    (same : ∀ text, other.readText path = .ok text ↔ system.readText path = .ok text) :
    catalogue.registerFile other path = catalogue.registerFile system path ∨
      (∃ error, (catalogue.registerFile other path).result = .error error) ∧
        ∃ error, (catalogue.registerFile system path).result = .error error := by
  unfold registerFile
  cases read : system.readText path with
  | ok text =>
    rw [(same text).mpr read]
    exact .inl rfl
  | error fault =>
    cases read' : other.readText path with
    | ok text => cases read.symm.trans ((same text).mp read')
    | error fault' => exact .inr ⟨⟨_, rfl⟩, ⟨_, rfl⟩⟩

/-- Only files that are tried are refused. -/
theorem refused_subset {files : List (List String)} :
    ∀ names ∈ (catalogue.registerFiles system directory files).refused, names ∈ files := by
  induction files generalizing catalogue with
  | nil => exact fun _ member => member
  | cons head rest ih =>
    intro names member
    cases answer : (catalogue.registerFile system (Path.descend directory head)).result with
    | ok count =>
      rw [registerFiles_cons_of_ok answer] at member
      exact List.mem_cons_of_mem _ (ih names member)
    | error error =>
      rw [registerFiles_cons_of_error answer] at member
      rcases List.mem_cons.mp member with rfl | later
      · exact List.mem_cons_self
      · exact List.mem_cons_of_mem _ (ih names later)

/-- Files that are refused can be left out, if the same is read of the others. -/
theorem registerFiles_filter {kept : List String → Bool} {files : List (List String)}
    (nodup : files.Nodup)
    (dropped : ∀ names ∈ files, kept names = false →
      names ∈ (catalogue.registerFiles system directory files).refused)
    (same : ∀ names ∈ files, kept names = true → ∀ text,
      other.readText (Path.descend directory names) = .ok text ↔
        system.readText (Path.descend directory names) = .ok text) :
    (catalogue.registerFiles other directory (files.filter kept)).count =
        (catalogue.registerFiles system directory files).count ∧
      (catalogue.registerFiles other directory (files.filter kept)).catalogue =
        (catalogue.registerFiles system directory files).catalogue := by
  induction files generalizing catalogue with
  | nil => exact ⟨rfl, rfl⟩
  | cons names rest ih =>
    obtain ⟨fresh, nodup⟩ := List.nodup_cons.mp nodup
    obtain ⟨same_names, same⟩ := List.forall_mem_cons.mp same
    obtain ⟨dropped_names, dropped⟩ := List.forall_mem_cons.mp dropped
    cases answer : (catalogue.registerFile system (Path.descend directory names)).result with
    | ok count =>
      rw [registerFiles_cons_of_ok answer] at dropped dropped_names ⊢
      -- The file is accepted, and it is not tried again, so it is not among those left out.
      have stays : kept names = true :=
        (Bool.eq_false_or_eq_true (kept names)).resolve_right fun left_out =>
          fresh (refused_subset names (dropped_names left_out))
      rcases registerFile_alike (same_names stays) with alike | ⟨_, error, refused⟩
      · have answer' : (catalogue.registerFile other (Path.descend directory names)).result =
            .ok count := (congrArg _ alike).trans answer
        rw [List.filter_cons_of_pos stays, registerFiles_cons_of_ok answer', alike]
        obtain ⟨counts, ends⟩ := ih nodup dropped same
        exact ⟨congrArg (count + ·) counts, ends⟩
      · cases refused.symm.trans answer
    | error error =>
      rw [registerFiles_cons_of_error answer] at dropped ⊢
      have dropped_later (others : List String) (member : others ∈ rest)
          (left_out : kept others = false) :
          others ∈ (catalogue.registerFiles system directory rest).refused :=
        (List.mem_cons.mp (dropped others member left_out)).resolve_left fun equal =>
          fresh (equal ▸ member)
      have later := ih nodup dropped_later same
      by_cases stays : kept names = true
      · have refused : ∃ error, (catalogue.registerFile other
            (Path.descend directory names)).result = .error error := by
          rcases registerFile_alike (same_names stays) with alike | ⟨refused, _⟩
          · exact ⟨error, (congrArg _ alike).trans answer⟩
          · exact refused
        obtain ⟨error', answer'⟩ := refused
        rw [List.filter_cons_of_pos stays, registerFiles_cons_of_error answer']
        exact later
      · rw [List.filter_cons_of_neg stays]
        exact later

/-! ## Visits -/

/-- The names that lead to the files that are registered. -/
def registeredNames (items : List (List String × Visit)) : List (List String) :=
  items.filterMap fun item =>
    match item.2 with
    | .register _ => some item.1
    | _ => none

/-- Names lead to a file that is registered when a visit of theirs registers it. -/
theorem mem_registeredNames {items : List (List String × Visit)} {names : List String} :
    names ∈ registeredNames items ↔ ∃ path, (names, .register path) ∈ items := by
  unfold registeredNames
  rw [List.mem_filterMap]
  constructor
  · rintro ⟨⟨first, visit⟩, member, found⟩
    cases visit with
    | register path =>
      cases found
      exact ⟨path, member⟩
    | passOver path => cases found
    | fail fault => cases found
  · rintro ⟨path, member⟩
    exact ⟨_, member, rfl⟩

/-- Files are registered in the order of their names if they are visited in it. -/
theorem pairwise_registeredNames {items : List (List String × Visit)}
    (ascending : items.Pairwise (·.1 < ·.1)) : (registeredNames items).Pairwise (· < ·) := by
  refine List.pairwise_filterMap.mpr (ascending.imp ?_)
  rintro ⟨names, visit⟩ ⟨names', visit'⟩ below found same found' same'
  cases visit <;> cases same
  cases visit' <;> cases same'
  exact below

/-- Visits none of which fails come to what registering their files comes to. -/
theorem visit_eq_registerFiles {items : List (List String × Visit)}
    (noFail : ∀ item ∈ items, ∀ fault, item.2 ≠ .fail fault)
    (paths : ∀ item ∈ items, ∀ path, item.2 = .register path →
      path = Path.descend directory item.1) :
    let tally := catalogue.registerFiles system directory (registeredNames items)
    (catalogue.visit system (items.map (·.2))).result = .ok tally.count ∧
      (catalogue.visit system (items.map (·.2))).catalogue = tally.catalogue := by
  induction items generalizing catalogue with
  | nil => exact ⟨rfl, rfl⟩
  | cons item rest ih =>
    obtain ⟨names, visit⟩ := item
    obtain ⟨noFail_names, noFail_rest⟩ := List.forall_mem_cons.mp noFail
    obtain ⟨path_names, paths_rest⟩ := List.forall_mem_cons.mp paths
    cases visit with
    | fail fault => exact absurd rfl (noFail_names fault)
    | passOver path => exact ih noFail_rest paths_rest
    | register path =>
      have same : path = Path.descend directory names := path_names path rfl
      subst same
      have named : registeredNames ((names, .register (Path.descend directory names)) :: rest) =
        names :: registeredNames rest := rfl
      rw [named, List.map_cons]
      cases answer : (catalogue.registerFile system (Path.descend directory names)).result with
      | ok count =>
        rw [registerFiles_cons_of_ok answer]
        simp only [visit, result_tryFile, catalogue_tryFile, answer]
        obtain ⟨counts, ended⟩ := ih noFail_rest paths_rest
        rw [counts, ended]
        exact ⟨rfl, rfl⟩
      | error error =>
        rw [registerFiles_cons_of_error answer]
        simp only [visit, result_tryFile, catalogue_tryFile, answer,
          catalogue_registerFile_of_error answer]
        obtain ⟨counts, ended⟩ := ih noFail_rest paths_rest
        rw [counts, ended]
        exact ⟨congrArg Except.ok (Nat.zero_add _), rfl⟩

/-! ## Protocol files -/

/-- A file where nothing can be read is refused. -/
theorem mem_refused_of_unreadable {names : List String}
    (unreadable : ∀ text, system.readText (Path.descend directory names) ≠ .ok text)
    {files : List (List String)} (member : names ∈ files) :
    names ∈ (catalogue.registerFiles system directory files).refused := by
  induction files generalizing catalogue with
  | nil => cases member
  | cons head rest ih =>
    cases answer : (catalogue.registerFile system (Path.descend directory head)).result with
    | ok count =>
      rw [registerFiles_cons_of_ok answer]
      rcases List.mem_cons.mp member with rfl | later
      · unfold registerFile at answer
        cases read : system.readText (Path.descend directory names) with
        | ok text => exact absurd read (unreadable text)
        | error fault =>
          rw [read] at answer
          cases answer
      · exact ih later
    | error error =>
      rw [registerFiles_cons_of_error answer]
      rcases List.mem_cons.mp member with rfl | later
      · exact List.mem_cons_self
      · exact List.mem_cons_of_mem _ (ih later)

/-- Links to directories can be left out. -/
theorem registerFiles_filter_links (wellFormed : system.WellFormed)
    (located : system.locate directory = .ok place) {kept : List String → Bool}
    (links : ∀ names, kept names = false → system.LinkToDirectory (place ++ names))
    {files : List (List String)} (nodup : files.Nodup) (below : ∀ names ∈ files, names ≠ []) :
    (catalogue.registerFiles system directory (files.filter kept)).count =
        (catalogue.registerFiles system directory files).count ∧
      (catalogue.registerFiles system directory (files.filter kept)).catalogue =
        (catalogue.registerFiles system directory files).catalogue := by
  refine registerFiles_filter nodup (fun names member left_out => ?_) fun _ _ _ _ => Iff.rfl
  have unreadable := wellFormed.readText_ne_ok located (links names left_out) (below names member)
  exact mem_refused_of_unreadable unreadable member

/-- Above what stands below a directory is a directory. -/
theorem directoryAt_above {first more : List String} (below : more ≠ [])
    (present : ∃ kind, system.kindAt? (place ++ (first ++ more)) = some kind) :
    system.DirectoryAt (place ++ first) := by
  obtain ⟨kind, there⟩ := present
  obtain ⟨name, rest, rfl⟩ := List.exists_cons_of_ne_nil below
  rw [← List.append_assoc] at there
  exact directoryAt_of_child there

/-- The visits planned for some names come to registering the protocol files among them in the
order of their names, if every directory among them is listed. -/
theorem exists_files (wellFormed : system.WellFormed)
    (located : system.locate directory = .ok place) (within : List String → Prop)
    (closed : ∀ first more, within (first ++ more) → within first)
    (lists : ∀ names, within names → system.DirectoryAt (place ++ names) →
      system.Lists (Path.descend directory names))
    {items : List (List String × Visit)} (ascending : items.Pairwise (·.1 < ·.1))
    (members : ∀ item, item ∈ items ↔
      system.Plans place directory item.1 item.2 ∧ within item.1) :
    ∃ files : List (List String), files.Pairwise (· < ·) ∧
      (∀ names, names ∈ files ↔ system.IsProtocolFile place names ∧ within names) ∧
      ∀ catalogue : Catalogue,
        let tally := catalogue.registerFiles system directory files
        (catalogue.visit system (items.map (·.2))).result = .ok tally.count ∧
          (catalogue.visit system (items.map (·.2))).catalogue = tally.catalogue := by
  classical
  have noFail : ∀ item ∈ items, ∀ fault, item.2 ≠ .fail fault := by
    rintro ⟨names, visit⟩ member fault rfl
    obtain ⟨plan, inside⟩ := (members _).mp member
    have unlisted := plan.unlisted.2
    have listed := (wellFormed.lists_iff located unlisted).mp (lists names inside ⟨_, unlisted⟩)
    cases listed.1
  have paths : ∀ item ∈ items, ∀ path, item.2 = .register path →
      path = Path.descend directory item.1 := by
    rintro ⟨names, visit⟩ member path rfl
    exact ((members _).mp member).1.registered.1
  have named := pairwise_registeredNames ascending
  refine ⟨(registeredNames items).filter fun names => ¬system.LinkToDirectory (place ++ names),
    named.filter _, fun names => ?_, fun catalogue => ?_⟩
  · rw [List.mem_filter, decide_eq_true_eq, mem_registeredNames]
    constructor
    · rintro ⟨⟨path, member⟩, noLink⟩
      obtain ⟨plan, inside⟩ := (members _).mp member
      obtain ⟨_, present, noDirectory, yaml⟩ := plan.registered
      exact ⟨⟨present, noDirectory, noLink, yaml⟩, inside⟩
    · rintro ⟨isFile, inside⟩
      refine ⟨⟨_, (members (names, _)).mpr ⟨isFile.plans wellFormed located ?_, inside⟩⟩,
        isFile.noLink⟩
      rintro first more rfl below
      exact lists first (closed first more inside) (directoryAt_above below isFile.present)
  · have links (names : List String)
        (left_out : decide (¬system.LinkToDirectory (place ++ names)) = false) :
        system.LinkToDirectory (place ++ names) :=
      Classical.not_not.mp (of_decide_eq_false left_out)
    have below : ∀ names ∈ registeredNames items, names ≠ [] := by
      rintro _ member rfl
      obtain ⟨path, member⟩ := mem_registeredNames.mp member
      obtain ⟨_, _, _, last, ends, _⟩ := ((members _).mp member).1.registered
      cases ends
    obtain ⟨counts, ends⟩ := registerFiles_filter_links wellFormed located links
      named.nodup below
    dsimp only
    rw [counts, ends]
    exact visit_eq_registerFiles noFail paths

/-! ## Loads -/

/-- Names come before those that go on from them. -/
theorem lt_append {names more : List String} (below : more ≠ []) : names < names ++ more := by
  obtain ⟨name, rest, rfl⟩ := List.exists_cons_of_ne_nil below
  have longer : names ++ [] < names ++ name :: rest :=
    List.append_left_lt (List.nil_lt_cons name rest)
  rwa [List.append_nil] at longer

/-- When every directory at any depth is listed, a load comes to registering the protocol files in
the order of their names. -/
theorem loadDirectory_of_lists (wellFormed : system.WellFormed)
    (located : system.locate directory = .ok place) (here : system.DirectoryAt place)
    (lists : ∀ names, system.DirectoryAt (place ++ names) →
      system.Lists (Path.descend directory names)) :
    ∃ files : List (List String), files.Pairwise (· < ·) ∧
      (∀ names, names ∈ files ↔ system.IsProtocolFile place names) ∧
      ∀ catalogue : Catalogue,
        let tally := catalogue.registerFiles system directory files
        (catalogue.loadDirectory system directory).result = .ok tally.count ∧
          (catalogue.loadDirectory system directory).catalogue = tally.catalogue := by
  obtain ⟨items, planned, ascending, members⟩ := wellFormed.ordered_plan located here
  obtain ⟨files, sorted, isFile, visits⟩ := exists_files wellFormed located (fun _ => True)
    (fun _ _ _ => trivial) (fun names _ => lists names) ascending
    fun item => (members item).trans (and_iff_left trivial).symm
  refine ⟨files, sorted, fun names => (isFile names).trans (and_iff_left trivial),
    fun catalogue => ?_⟩
  unfold loadDirectory
  rw [← planned]
  exact visits catalogue

/-- When a directory may not be listed, a load fails at the first such one, after registering the
protocol files before it. -/
theorem loadDirectory_of_unlisted (wellFormed : system.WellFormed)
    (located : system.locate directory = .ok place) (here : system.DirectoryAt place)
    {first : List String} (unlisted : system.kindAt? (place ++ first) = some (.directory false))
    (followed : system.pathExists (Path.descend directory first) = true)
    (lists : ∀ names, names < first → system.DirectoryAt (place ++ names) →
      system.Lists (Path.descend directory names)) :
    ∃ files : List (List String), files.Pairwise (· < ·) ∧
      (∀ names, names ∈ files ↔ system.IsProtocolFile place names ∧ names < first) ∧
      ∀ catalogue : Catalogue,
        (catalogue.loadDirectory system directory).result =
            .error (.file .permissionDenied) ∧
          (catalogue.loadDirectory system directory).catalogue =
            (catalogue.registerFiles system directory files).catalogue := by
  obtain ⟨items, planned, ascending, members⟩ := wellFormed.ordered_plan located here
  have planned_first : system.Plans place directory first (.fail .permissionDenied) := by
    refine wellFormed.plans_fail located unlisted (fun above more parts below => ?_) followed
    subst parts
    exact lists above (lt_append below) (directoryAt_above below ⟨_, unlisted⟩)
  -- The plan is cut where the load fails; what comes before is what is planned for lesser names.
  obtain ⟨before, after, parts⟩ :=
    List.append_of_mem ((members (first, .fail .permissionDenied)).mpr planned_first)
  rw [parts] at planned ascending members
  obtain ⟨sorted, later, apart⟩ := List.pairwise_append.mp ascending
  have members_before (item : List String × Visit) :
      item ∈ before ↔ system.Plans place directory item.1 item.2 ∧ item.1 < first := by
    rw [← members, List.mem_append, List.mem_cons]
    constructor
    · exact fun member => ⟨.inl member, apart item member _ List.mem_cons_self⟩
    · rintro ⟨member | rfl | member, below⟩
      · exact member
      · exact absurd below (List.lt_irrefl _)
      · exact absurd below (List.lt_asymm (List.rel_of_pairwise_cons later member))
  have closed (names more : List String) (below : names ++ more < first) : names < first := by
    by_cases empty : more = []
    · rwa [empty, List.append_nil] at below
    · exact List.lt_trans (lt_append empty) below
  obtain ⟨files, ascending_files, isFile, visits⟩ :=
    exists_files wellFormed located (· < first) closed lists sorted members_before
  refine ⟨files, ascending_files, isFile, fun catalogue => ?_⟩
  obtain ⟨answer, ended⟩ := visits catalogue
  unfold loadDirectory
  rw [← planned, List.map_append, List.map_cons, visit_append, Effect.andThen_of_ok answer]
  exact ⟨rfl, ended⟩

/-- Without files that were refused, and to which no other link points, a load comes to the same. -/
theorem loadDirectory_without (wellFormed : system.WellFormed)
    (located : system.locate directory = .ok place) (here : system.DirectoryAt place)
    (lists : ∀ names, system.DirectoryAt (place ++ names) →
      system.Lists (Path.descend directory names))
    {files : List (List String)} (ascending : files.Pairwise (· < ·))
    (isFile : ∀ names, names ∈ files ↔ system.IsProtocolFile place names)
    {gone : List (List String)}
    (refused : ∀ names ∈ gone,
      names ∈ (catalogue.registerFiles system directory files).refused)
    (wellFormed' : other.WellFormed)
    (without : Without system other fun goal => ∃ names ∈ gone, goal = place ++ names) :
    (catalogue.loadDirectory other directory).result =
        .ok (catalogue.registerFiles system directory files).count ∧
      (catalogue.loadDirectory other directory).catalogue =
        (catalogue.registerFiles system directory files).catalogue := by
  have removal := Removal.of_isProtocolFile without fun names taken =>
    (isFile names).mp (refused_subset names (refused names taken))
  have gone_iff (names : List String) :
      (∃ others ∈ gone, place ++ names = place ++ others) ↔ names ∈ gone := by
    simp
  have lists' (names : List String) (here' : other.DirectoryAt (place ++ names)) :
      other.Lists (Path.descend directory names) := by
    have before : system.DirectoryAt (place ++ names) := here'.imp fun _ => removal.within _ _
    exact removal.lists wellFormed located here before (lists names before)
  obtain ⟨left, ascending_left, isLeft, loads⟩ := loadDirectory_of_lists wellFormed'
    (removal.locate_directory located here) (removal.directoryAt here) lists'
  have left_eq : left = files.filter fun names => names ∉ gone := by
    refine ascending_left.eq_of_mem_iff (ascending.filter _) fun names => ?_
    rw [isLeft, removal.isProtocolFile_iff, gone_iff, List.mem_filter, isFile, decide_eq_true_eq]
  have dropped (names : List String) (_ : names ∈ files)
      (left_out : decide (names ∉ gone) = false) :
      names ∈ (catalogue.registerFiles system directory files).refused :=
    refused names (Decidable.not_not.mp (of_decide_eq_false left_out))
  have same (names : List String) (member : names ∈ files) (stays : decide (names ∉ gone) = true) :
      ∀ text, other.readText (Path.descend directory names) = .ok text ↔
        system.readText (Path.descend directory names) = .ok text := by
    have isFile_names := (isFile names).mp member
    obtain ⟨kind, there⟩ := isFile_names.present
    exact removal.readText_iff wellFormed' <| removal.locate_descend_iff wellFormed located there
      isFile_names.ne_nil (mt (gone_iff names).mp (of_decide_eq_true stays))
  obtain ⟨answer, ended⟩ := loads catalogue
  obtain ⟨counts, ends⟩ := registerFiles_filter ascending.nodup dropped same
  rw [answer, ended, left_eq, counts, ends]
  exact ⟨rfl, rfl⟩

/-- Where the same is read, visits come to the same. -/
theorem visit_alike
    (same : ∀ path text, other.readText path = .ok text ↔ system.readText path = .ok text)
    (visits : List Visit) :
    (catalogue.visit other visits).result = (catalogue.visit system visits).result ∧
      (catalogue.visit other visits).catalogue = (catalogue.visit system visits).catalogue := by
  induction visits generalizing catalogue with
  | nil => exact ⟨rfl, rfl⟩
  | cons first rest ih =>
    cases first with
    | fail fault => exact ⟨rfl, rfl⟩
    | passOver path => exact ih
    | register path =>
      have answers : (catalogue.tryFile other path).result =
            (catalogue.tryFile system path).result ∧
          (catalogue.tryFile other path).catalogue =
            (catalogue.tryFile system path).catalogue := by
        rw [result_tryFile, result_tryFile, catalogue_tryFile, catalogue_tryFile]
        rcases registerFile_alike (same path) with alike | ⟨⟨_, refused'⟩, ⟨_, refused⟩⟩
        · rw [alike]
          exact ⟨rfl, rfl⟩
        · rw [catalogue_registerFile_of_error refused, catalogue_registerFile_of_error refused',
            refused, refused']
          exact ⟨rfl, rfl⟩
      obtain ⟨answer, ended⟩ := answers
      obtain ⟨counts, ends⟩ := @ih (catalogue.tryFile system path).catalogue
      simp only [visit, answer, ended, counts, ends, and_self]

/-- A load does not depend on the order in which directories have their entries. -/
theorem loadDirectory_of_alike (wellFormed : system.WellFormed) (wellFormed' : other.WellFormed)
    (current : other.current = system.current)
    (alike : ∀ goal, other.kindAt? goal = system.kindAt? goal)
    (located : system.locate directory = .ok place) (here : system.DirectoryAt place) :
    (catalogue.loadDirectory other directory).result =
        (catalogue.loadDirectory system directory).result ∧
      (catalogue.loadDirectory other directory).catalogue =
        (catalogue.loadDirectory system directory).catalogue := by
  unfold loadDirectory
  rw [plan_eq_of_alike wellFormed wellFormed' current alike located here]
  exact visit_alike (fun _ => (Removal.of_alike current alike).readText_iff wellFormed'
    fun _ => locate_iff_of_alike current alike) _

/-- Paths of protocol files compare as the names that lead to them. -/
theorem pairwise_precedes (wellFormed : system.WellFormed)
    (located : system.locate directory = .ok place) {files : List (List String)}
    (ascending : files.Pairwise (· < ·))
    (isFile : ∀ names ∈ files, system.IsProtocolFile place names) :
    files.Pairwise (Path.Precedes directory) := by
  obtain ⟨_, _, some_path, _⟩ := locate_eq_ok_iff.mp located
  have areNames (names : List String) (member : names ∈ files) : ∀ name ∈ names, Path.IsName name :=
    wellFormed.areNames (isFile names member).present.choose_spec
  refine ascending.imp_of_mem fun member member' below => ?_
  exact (Path.precedes_iff some_path (areNames _ member) (areNames _ member')).mpr below

/-- Loading an existing directory refines registering files one after another.

When every directory at any depth below it is listed, the load answers with the count that comes of
registering the protocol files below it in the order of their paths, and leaves what that leaves;
and it does the same once files that were refused are taken away, if no other link points to them.
When a directory may not be listed, the load fails at the first such one, and keeps what comes of
registering the protocol files before it. Either way the order in which directories have their
entries does not matter. -/
theorem loadDirectory_refines_registerFiles (wellFormed : system.WellFormed) (catalogue : Catalogue)
    (located : system.locate directory = .ok place) (here : system.DirectoryAt place) :
    ((∀ names, system.DirectoryAt (place ++ names) →
        system.Lists (Path.descend directory names)) →
      ∃ files, files.Pairwise (Path.Precedes directory) ∧
        (∀ names, names ∈ files ↔ system.IsProtocolFile place names) ∧
        let tally := catalogue.registerFiles system directory files
        (catalogue.loadDirectory system directory).result = .ok tally.count ∧
        (catalogue.loadDirectory system directory).catalogue = tally.catalogue ∧
        ∀ (gone : List (List String)) (other : FileSystem),
          (∀ names ∈ gone, names ∈ tally.refused) → other.WellFormed →
          Without system other (fun goal => ∃ names ∈ gone, goal = place ++ names) →
          (catalogue.loadDirectory other directory).result = .ok tally.count ∧
            (catalogue.loadDirectory other directory).catalogue = tally.catalogue) ∧
    (∀ first, system.kindAt? (place ++ first) = some (.directory false) →
      system.pathExists (Path.descend directory first) = true →
      (∀ names, system.DirectoryAt (place ++ names) → Path.Precedes directory names first →
        system.Lists (Path.descend directory names)) →
      ∃ files, files.Pairwise (Path.Precedes directory) ∧
        (∀ names, names ∈ files ↔
          system.IsProtocolFile place names ∧ Path.Precedes directory names first) ∧
        (catalogue.loadDirectory system directory).result = .error (.file .permissionDenied) ∧
        (catalogue.loadDirectory system directory).catalogue =
          (catalogue.registerFiles system directory files).catalogue) ∧
    ∀ other : FileSystem, other.WellFormed → other.current = system.current →
      (∀ goal, other.kindAt? goal = system.kindAt? goal) →
      (catalogue.loadDirectory other directory).result =
          (catalogue.loadDirectory system directory).result ∧
        (catalogue.loadDirectory other directory).catalogue =
          (catalogue.loadDirectory system directory).catalogue := by
  obtain ⟨_, _, some_path, _⟩ := locate_eq_ok_iff.mp located
  refine ⟨fun lists => ?_, fun first unlisted followed lists => ?_,
    fun other wellFormed' current alike =>
      loadDirectory_of_alike wellFormed wellFormed' current alike located here⟩
  · obtain ⟨files, ascending, isFile, loads⟩ :=
      loadDirectory_of_lists wellFormed located here lists
    obtain ⟨answer, ended⟩ := loads catalogue
    have precede : files.Pairwise (Path.Precedes directory) :=
      pairwise_precedes wellFormed located ascending fun names => (isFile names).mp
    refine ⟨files, precede, isFile, answer, ended, fun gone other refused wellFormed' without => ?_⟩
    exact loadDirectory_without wellFormed located here lists ascending isFile refused wellFormed'
      without
  · have precedes_first {names : List String} {kind : NodeKind}
        (there : system.kindAt? (place ++ names) = some kind) :
        Path.Precedes directory names first ↔ names < first :=
      Path.precedes_iff some_path (wellFormed.areNames there) (wellFormed.areNames unlisted)
    obtain ⟨files, ascending, isFile, loads⟩ :=
      loadDirectory_of_unlisted wellFormed located here unlisted followed fun names below here' =>
        lists names here' ((precedes_first here'.choose_spec).mpr below)
    refine ⟨files, pairwise_precedes wellFormed located ascending fun names member =>
      ((isFile names).mp member).1, fun names => ?_, loads catalogue⟩
    rw [isFile]
    exact and_congr_right fun isFile_names =>
      (precedes_first isFile_names.present.choose_spec).symm

/-- The file of a protocol with one method. -/
def protocolFile (method : String) : FileNode :=
  .file <| String.toUTF8 <| "protocol:\n  name: Closable\n  methods:\n  - name: " ++ method ++ "\n"

/-- A directory with some files, a protocol file in another directory, and a link to itself that has
the name of a file. -/
def nestedFilesWith (files : List (String × FileNode)) : FileSystem where
  root := .directory true [("protocols", .directory true <| files ++ [
    ("loop.yaml", .link "/protocols"),
    ("io", .directory true [("close.yml", protocolFile "close")])])]

/-- A file beside the directory declares the protocol in it with another contract. -/
def nestedFiles : FileSystem := nestedFilesWith [("io.yaml", protocolFile "open")]

/-- A directory with files of other names is well formed. -/
theorem nestedFilesWith_wellFormed {files : List (String × FileNode)}
    (distinct : (files.map (·.1) ++ ["loop.yaml", "io"]).Nodup)
    (named : ∀ file ∈ files, Path.IsName file.1) (inside : ∀ file ∈ files, file.2.WellFormed) :
    (nestedFilesWith files).WellFormed := by
  have deepest : (FileNode.directory true [("close.yml", protocolFile "close")]).WellFormed := by
    refine .directory _ _ (by decide) ?_ ?_
    · exact List.forall_mem_singleton.mpr (by decide +kernel)
    · exact List.forall_mem_singleton.mpr (.file _)
  have isName : Path.IsName "protocols" := by decide +kernel
  refine ⟨.directory _ _ (List.pairwise_singleton _ _) (List.forall_mem_singleton.mpr isName)
    (List.forall_mem_singleton.mpr (.directory _ _ ?_ ?_ ?_)), true, rfl⟩
  · rwa [List.map_append]
  · refine List.forall_mem_append.mpr ⟨named, ?_⟩
    exact List.forall_mem_cons.mpr ⟨by decide +kernel,
      List.forall_mem_singleton.mpr (by decide +kernel)⟩
  · refine List.forall_mem_append.mpr ⟨inside, ?_⟩
    exact List.forall_mem_cons.mpr ⟨.link _, List.forall_mem_singleton.mpr deepest⟩

/-- The directory with the other file is well formed. -/
theorem nestedFiles_wellFormed : nestedFiles.WellFormed :=
  nestedFilesWith_wellFormed (by decide) (List.forall_mem_singleton.mpr (by decide +kernel))
    (List.forall_mem_singleton.mpr (.file _))

/-- The directory can be reached. -/
theorem locate_nestedFiles : nestedFiles.locate "protocols" = .ok ["protocols"] :=
  eq_ok_of_toOption (by decide +kernel)

/-- Everything that stands in the directory. -/
theorem kindAt?_nestedFiles {place : List String} {kind : NodeKind}
    (found : nestedFiles.kindAt? place = some kind) :
    place = [] ∧ kind = .directory true ∨ place = ["protocols"] ∧ kind = .directory true ∨
      place = ["protocols", "io.yaml"] ∧ kind = (protocolFile "open").kind ∨
      place = ["protocols", "loop.yaml"] ∧ kind = .link "/protocols" ∨
      place = ["protocols", "io"] ∧ kind = .directory true ∨
      place = ["protocols", "io", "close.yml"] ∧ kind = (protocolFile "close").kind := by
  have listed : nestedFiles.root.places = [([], .directory true), (["protocols"], .directory true),
    (["protocols", "io.yaml"], (protocolFile "open").kind),
    (["protocols", "loop.yaml"], .link "/protocols"), (["protocols", "io"], .directory true),
    (["protocols", "io", "close.yml"], (protocolFile "close").kind)] := rfl
  have member := nestedFiles_wellFormed.root.mem_places_iff.mpr found
  simpa only [listed, List.mem_cons, Prod.mk.injEq, List.not_mem_nil, or_false] using member

/-- Both directories are listed. -/
theorem lists_nestedFiles {names : List String}
    (here : nestedFiles.DirectoryAt (["protocols"] ++ names)) :
    nestedFiles.Lists (Path.descend "protocols" names) := by
  obtain ⟨readable, found⟩ := here
  rcases kindAt?_nestedFiles found with
    ⟨same, _⟩ | ⟨same, _⟩ | ⟨_, same⟩ | ⟨_, same⟩ | ⟨same, _⟩ | ⟨_, same⟩
  · cases same
  · cases same
    exact ⟨_, locate_nestedFiles, rfl⟩
  · cases same
  · cases same
  · cases same
    exact ⟨["protocols", "io"], eq_ok_of_toOption (by decide +kernel), rfl⟩
  · cases same

/-- The link is no protocol file, and the others are. -/
theorem isProtocolFile_nestedFiles (names : List String) :
    nestedFiles.IsProtocolFile ["protocols"] names ↔
      names ∈ [["io", "close.yml"], ["io.yaml"]] := by
  constructor
  · rintro ⟨⟨kind, found⟩, noDirectory, noLink, last, ends, _⟩
    rcases kindAt?_nestedFiles found with
      ⟨same, _⟩ | ⟨same, _⟩ | ⟨same, _⟩ | ⟨same, rfl⟩ | ⟨same, rfl⟩ | ⟨same, _⟩
    · cases same
    · cases same
      cases ends
    · cases same
      decide
    · cases same
      exact absurd (nestedFiles_wellFormed.linkToDirectory_of_leads locate_nestedFiles found
        (List.cons_ne_nil _ _) (by decide +kernel)) noLink
    · exact absurd ⟨true, found⟩ noDirectory
    · cases same
      decide
  · intro member
    simp only [List.mem_cons, List.not_mem_nil, or_false] at member
    rcases member with rfl | rfl
    · exact ⟨⟨_, rfl⟩, (nomatch ·.choose_spec), fun ⟨_, _, _, _, there, _⟩ => (nomatch there),
        _, rfl, by decide +kernel⟩
    · exact ⟨⟨_, rfl⟩, (nomatch ·.choose_spec), fun ⟨_, _, _, _, there, _⟩ => (nomatch there),
        _, rfl, by decide +kernel⟩

/-- The link does not point to the file beside the directory, which can be taken away. -/
theorem without_nestedFiles : Without nestedFiles (nestedFilesWith [])
    fun goal => ∃ names ∈ [["io.yaml"]], goal = ["protocols"] ++ names := by
  refine ⟨rfl, fun place left => Option.ext fun kind => ?_, ?_, ?_⟩
  · have apart : place ≠ ["protocols", "io.yaml"] := fun equal =>
      left ⟨_, List.mem_singleton_self _, equal⟩
    have listed : nestedFiles.root.places = [([], .directory true),
      (["protocols"], .directory true), (["protocols", "io.yaml"], (protocolFile "open").kind)] ++
        (nestedFilesWith []).root.places.drop 2 := rfl
    have listed' : (nestedFilesWith []).root.places =
      [([], .directory true), (["protocols"], .directory true)] ++
        (nestedFilesWith []).root.places.drop 2 := rfl
    have same : (place, kind) ∈ (nestedFilesWith []).root.places ↔
        (place, kind) ∈ nestedFiles.root.places := by
      rw [listed, listed', List.mem_append, List.mem_append]
      simp only [List.mem_cons, Prod.mk.injEq, apart, false_and, List.not_mem_nil, or_false]
      rfl
    have wellFormed : (nestedFilesWith []).WellFormed :=
      nestedFilesWith_wellFormed (by decide) nofun nofun
    exact wellFormed.root.mem_places_iff.symm.trans
      (same.trans nestedFiles_wellFormed.root.mem_places_iff)
  · rintro _ ⟨names, member, rfl⟩
    cases List.mem_singleton.mp member
    rfl
  · rintro link _ _ ⟨names, taken, rfl⟩ ⟨target, _, there, above, name, _, _, parts, way, same⟩
    cases List.mem_singleton.mp taken
    rcases kindAt?_nestedFiles there with
      ⟨_, kind⟩ | ⟨_, kind⟩ | ⟨_, kind⟩ | ⟨_, kind⟩ | ⟨_, kind⟩ | ⟨_, kind⟩
    · cases kind
    · cases kind
    · cases kind
    · cases kind
      have steps : Path.steps "/protocols" = [] ++ [.down "protocols"] := by decide +kernel
      obtain ⟨rfl, last⟩ := List.append_inj' (steps.symm.trans parts) rfl
      cases last
      cases way
      cases same
    · cases kind
    · cases kind

/-- The directory in the directory comes before the file beside it, although a slash comes after a
dot. So it is that file which is refused, and without it the load comes to the same. -/
theorem loadDirectory_refines_registerFiles_nested :
    let files := [["io", "close.yml"], ["io.yaml"]]
    let tally := empty.registerFiles nestedFiles "protocols" files
    (∀ names, nestedFiles.IsProtocolFile ["protocols"] names ↔ names ∈ files) ∧
      tally.count = 1 ∧ tally.refused = [["io.yaml"]] ∧
      (empty.loadDirectory nestedFiles "protocols").result = .ok tally.count ∧
      (empty.loadDirectory nestedFiles "protocols").catalogue = tally.catalogue ∧
      (empty.loadDirectory (nestedFilesWith []) "protocols").result = .ok tally.count ∧
      (empty.loadDirectory (nestedFilesWith []) "protocols").catalogue = tally.catalogue := by
  intro files tally
  obtain ⟨listed, _⟩ := loadDirectory_refines_registerFiles nestedFiles_wellFormed empty
    locate_nestedFiles ⟨true, rfl⟩
  obtain ⟨found, ascending, members, answer, ended, thinner⟩ :=
    listed fun names here => lists_nestedFiles here
  have same : found = files :=
    ascending.eq_of_mem_iff (by decide +kernel) fun names =>
      (members names).trans (isProtocolFile_nestedFiles names)
  subst same
  have refused : tally.refused = [["io.yaml"]] := by decide +kernel
  obtain ⟨answer', ended'⟩ := thinner [["io.yaml"]] (nestedFilesWith [])
    (fun names taken => refused ▸ taken) (nestedFilesWith_wellFormed (by decide) nofun nofun)
    without_nestedFiles
  exact ⟨isProtocolFile_nestedFiles, by decide +kernel, refused, answer, ended, answer', ended'⟩

end Covenant.Catalogue
