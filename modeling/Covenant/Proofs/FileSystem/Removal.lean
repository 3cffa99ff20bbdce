import Covenant.Proofs.FileSystem.Plan

/-!
# File systems without some files

Taking files away that no link points to leaves every other way as it was: a way comes by a file
only at its end (`FileSystem.Removal.leads_or_stepsTo`). So a path below a directory that names
something else leads where it led (`FileSystem.Removal.locate_descend_iff`), and the same is read
there.
-/
namespace Covenant.FileSystem

variable {system other : FileSystem} {path directory : String} {place names : List String}
  {gone : List String → Prop}

/-! ## Links -/

/-- Steps end with the name of a place, which a link may be followed from or not. -/
def StepsTo (system : FileSystem) (links : Nat) (place : List String) (steps : List Path.Step)
    (goal : List String) : Prop :=
  ∃ above name left middle, steps = above ++ [.down name] ∧
    system.Leads links place above left middle ∧ goal = middle ++ [name]

/-- A link points to a place, where another link may stand. -/
def PointsTo (system : FileSystem) (link goal : List String) : Prop :=
  ∃ target links, system.kindAt? link = some (.link target) ∧
    system.StepsTo links (linkBase link.dropLast target) (Path.steps target) goal

/-- Steps before others do not change what the last one names. -/
theorem Leads.stepsTo_append {links left : Nat} {place middle goal : List String}
    {steps more : List Path.Step} (first : system.Leads links place steps left middle)
    (second : system.StepsTo left middle more goal) :
    system.StepsTo links place (steps ++ more) goal := by
  obtain ⟨above, name, fewer, last, rfl, onward, rfl⟩ := second
  exact ⟨steps ++ above, name, fewer, last, (List.append_assoc _ _ _).symm, first.append onward,
    rfl⟩

/-- One step down ends with the name of its place. -/
theorem stepsTo_down (links : Nat) (place : List String) (name : String) :
    system.StepsTo links place [.down name] (place ++ [name]) :=
  ⟨[], name, links, place, rfl, .done _ _, rfl⟩

/-- Where steps lead is the place that the last one names, or where the link there leads. -/
theorem Leads.last_of_stepsTo {links links' left : Nat} {place last goal : List String}
    {steps : List Path.Step} (way : system.Leads links place steps left last)
    (names : system.StepsTo links' place steps goal) :
    last = goal ∨ ∃ target links left, system.kindAt? goal = some (.link target) ∧ target ≠ "" ∧
      system.Leads links (linkBase goal.dropLast target) (Path.steps target) left last := by
  obtain ⟨above, name, fewer, middle, rfl, first, rfl⟩ := names
  obtain ⟨_, middle', first', second⟩ := way.split
  obtain rfl := first.unique first'
  rw [List.dropLast_concat]
  cases second with
  | down _ _ _ _ onward =>
    cases onward
    exact .inl rfl
  | follow _ _ there some_path along onward =>
    cases onward
    exact .inr ⟨_, _, _, there, some_path, along⟩

/-- The last step of a path below a directory names the place of the last name. -/
theorem WellFormed.eq_of_stepsTo (wellFormed : system.WellFormed)
    (located : system.locate directory = .ok place) {kind : NodeKind}
    (found : system.kindAt? (place ++ names) = some kind) (below : names ≠ []) {links : Nat}
    {goal : List String}
    (ends : system.StepsTo links (system.start (Path.descend directory names))
      (Path.steps (Path.descend directory names)) goal) : goal = place ++ names := by
  obtain ⟨_, _, some_path, _⟩ := locate_eq_ok_iff.mp located
  have areNames := wellFormed.areNames found
  obtain ⟨fewer, approach⟩ := leads_approach located
  unfold start at ends approach
  rw [(Path.descend_alike some_path areNames).2.1,
    Path.steps_descend some_path areNames below] at ends
  obtain ⟨above, name, rfl⟩ : ∃ above name, names = above ++ [name] :=
    ⟨_, _, (List.dropLast_concat_getLast below).symm⟩
  obtain ⟨steps, name', _, middle, same, way, rfl⟩ := ends
  rw [List.map_append, List.map_singleton, ← List.append_assoc] at same
  obtain ⟨rfl, last⟩ := List.append_inj' same rfl
  cases last
  rw [← List.append_assoc] at found ⊢
  obtain ⟨readable, here⟩ := directoryAt_of_child found
  have down := approach.append (wellFormed.leads_down here nofun fewer)
  rw [way.unique down]

/-! ## Removals -/

/-- A file system is another one without what stands at some places, to which no link that is left
points. -/
structure Without (system other : FileSystem) (gone : List String → Prop) : Prop where
  /-- Relative paths start from the same directory. -/
  current : other.current = system.current
  /-- Everything else is there as before. -/
  kept : ∀ place, ¬gone place → other.kindAt? place = system.kindAt? place
  /-- What is taken away is gone. -/
  removed : ∀ place, gone place → other.kindAt? place = none
  /-- No link that is left points to what is taken away. -/
  unpointed : ∀ link goal, ¬gone link → gone goal → ¬system.PointsTo link goal

/-- Only files are taken away, and links that lead to no directory. -/
structure Removal (system other : FileSystem) (gone : List String → Prop) : Prop
    extends Without system other gone where
  /-- No directory is taken away. -/
  noDirectory : ∀ place, gone place → ¬system.DirectoryAt place
  /-- No link to a directory is taken away. -/
  noLink : ∀ place, gone place → ¬system.LinkToDirectory place

namespace Removal

/-- File systems that differ in the order of their entries only are each the other without
nothing. -/
theorem of_alike (current : other.current = system.current)
    (alike : ∀ place, other.kindAt? place = system.kindAt? place) :
    Removal system other fun _ => False where
  current := current
  kept := fun place _ => alike place
  removed := nofun
  unpointed := nofun
  noDirectory := nofun
  noLink := nofun

/-- What is there now was there before. -/
theorem within (removal : Removal system other gone) (place : List String) (kind : NodeKind)
    (found : other.kindAt? place = some kind) : system.kindAt? place = some kind := by
  by_cases taken : gone place
  · rw [removal.removed place taken] at found
    cases found
  · rwa [← removal.kept place taken]

/-- What is not taken away is there. -/
theorem kindAt? (removal : Removal system other gone) {place : List String} {kind : NodeKind}
    (left : ¬gone place) (found : system.kindAt? place = some kind) :
    other.kindAt? place = some kind := (removal.kept place left).trans found

/-- A directory is still one. -/
theorem directoryAt (removal : Removal system other gone) {place : List String}
    (here : system.DirectoryAt place) : other.DirectoryAt place :=
  here.imp fun _ => removal.kindAt? fun taken => removal.noDirectory place taken here

/-- From what is taken away, no step leads on. -/
theorem nil_of_leads {links left : Nat} {place last : List String} {steps : List Path.Step}
    (way : system.Leads links place steps left last) (noDirectory : ¬system.DirectoryAt place) :
    steps = [] := by
  cases way with
  | done _ _ => rfl
  | stay here _ | up here _ | down here _ _ _ _ | follow here _ _ _ _ _ =>
    exact absurd here noDirectory

/-- A way is still there, unless its last step names something that was taken away. -/
theorem leads_or_stepsTo (removal : Removal system other gone) {links left : Nat}
    {place last : List String} {steps : List Path.Step}
    (way : system.Leads links place steps left last) :
    other.Leads links place steps left last ∨
      ∃ goal, gone goal ∧ system.StepsTo links place steps goal := by
  induction way with
  | done links place => exact .inl (.done links place)
  | stay here _ ih =>
    rcases ih with way | ⟨goal, taken, names⟩
    · exact .inl (.stay (removal.directoryAt here) way)
    · exact .inr ⟨goal, taken, (Leads.stay here (.done _ _)).stepsTo_append names⟩
  | up here _ ih =>
    rcases ih with way | ⟨goal, taken, names⟩
    · exact .inl (.up (removal.directoryAt here) way)
    · exact .inr ⟨goal, taken, (Leads.up here (.done _ _)).stepsTo_append names⟩
  | @down links _ place _ name _ _ here short there noLink onward ih =>
    by_cases taken : gone (place ++ [name])
    · cases nil_of_leads onward (removal.noDirectory _ taken)
      exact .inr ⟨_, taken, stepsTo_down links place name⟩
    rcases ih with way | ⟨goal, taken', names⟩
    · exact .inl (.down (removal.directoryAt here) short (removal.kindAt? taken there) noLink way)
    · exact .inr ⟨goal, taken',
        (Leads.down here short there noLink (.done _ _)).stepsTo_append names⟩
  | @follow links _ _ place middle _ name target _ here short there some_path along onward
      ih_along ih =>
    have base : (place ++ [name]).dropLast = place := List.dropLast_concat
    by_cases taken : gone (place ++ [name])
    · -- A link that was taken away leads to no directory, so the way ends with it.
      have noDirectory : ¬system.DirectoryAt middle := fun directory =>
        removal.noLink _ taken
          ⟨target, _, _, middle, there, some_path, base.symm ▸ along, directory⟩
      cases nil_of_leads onward noDirectory
      exact .inr ⟨_, taken, stepsTo_down _ place name⟩
    rcases ih_along with along' | ⟨goal, taken', names⟩
    · rcases ih with way | ⟨goal, taken', names⟩
      · exact .inl (.follow (removal.directoryAt here) short (removal.kindAt? taken there) some_path
          along' way)
      · exact .inr ⟨goal, taken',
          (Leads.follow here short there some_path along (.done _ _)).stepsTo_append names⟩
    · exact absurd ⟨target, links, there, base.symm ▸ names⟩ (removal.unpointed _ goal taken taken')

/-- Paths start where they started. -/
theorem start_eq (removal : Removal system other gone) (path : String) :
    other.start path = system.start path := by
  unfold FileSystem.start
  rw [removal.current]

/-- A path to a directory leads there still. -/
theorem locate_directory (removal : Removal system other gone)
    (located : system.locate directory = .ok place) (here : system.DirectoryAt place) :
    other.locate directory = .ok place := by
  obtain ⟨noZero, short, some_path, left, way⟩ := locate_eq_ok_iff.mp located
  rcases removal.leads_or_stepsTo way with kept | ⟨goal, taken, names⟩
  · exact locate_eq_ok_iff.mpr ⟨noZero, short, some_path, left, removal.start_eq _ ▸ kept⟩
  · rcases way.last_of_stepsTo names with rfl | ⟨target, links, left', there, some_target, along⟩
    · exact absurd here (removal.noDirectory _ taken)
    · exact absurd ⟨target, links, left', place, there, some_target, along, here⟩
        (removal.noLink goal taken)

/-- A path below a directory leads where it led, unless what it names was taken away. -/
theorem locate_descend_iff (removal : Removal system other gone) (wellFormed : system.WellFormed)
    (located : system.locate directory = .ok place) {kind : NodeKind}
    (found : system.kindAt? (place ++ names) = some kind) (below : names ≠ [])
    (left : ¬gone (place ++ names)) (reached : List String) :
    other.locate (Path.descend directory names) = .ok reached ↔
      system.locate (Path.descend directory names) = .ok reached := by
  refine ⟨locate_mono removal.current removal.within, fun follows => ?_⟩
  obtain ⟨noZero, short, some_path, fewer, way⟩ := locate_eq_ok_iff.mp follows
  rcases removal.leads_or_stepsTo way with kept | ⟨goal, taken, ends⟩
  · exact locate_eq_ok_iff.mpr ⟨noZero, short, some_path, fewer, removal.start_eq _ ▸ kept⟩
  · rw [wellFormed.eq_of_stepsTo located found below ends] at taken
    exact absurd taken left

/-- A link that is left leads to a directory if it did so before. -/
theorem linkToDirectory_iff (removal : Removal system other gone) {link : List String}
    (left : ¬gone link) : other.LinkToDirectory link ↔ system.LinkToDirectory link := by
  constructor
  · rintro ⟨target, links, fewer, goal, there, some_path, way, directory⟩
    exact ⟨target, links, fewer, goal, removal.within _ _ there, some_path,
      way.mono removal.within, directory.imp fun _ => removal.within goal _⟩
  · rintro ⟨target, links, fewer, goal, there, some_path, way, directory⟩
    rcases removal.leads_or_stepsTo way with kept | ⟨last, taken, names⟩
    · exact ⟨target, links, fewer, goal, removal.kindAt? left there, some_path, kept,
        removal.directoryAt directory⟩
    · exact absurd ⟨target, links, there, names⟩ (removal.unpointed link last left taken)

/-- What is read at a path that leads where it led is what was read before. -/
theorem readText_iff (removal : Removal system other gone) (wellFormed : other.WellFormed)
    (same : ∀ reached, other.locate path = .ok reached ↔ system.locate path = .ok reached)
    (text : String) : other.readText path = .ok text ↔ system.readText path = .ok text := by
  rw [readText_eq_ok_iff, readText_eq_ok_iff]
  constructor
  · rintro ⟨place, content, located, there, valid⟩
    exact ⟨place, content, (same place).mp located, removal.within _ _ there, valid⟩
  · rintro ⟨place, content, located, there, valid⟩
    have located' := (same place).mpr located
    obtain ⟨kind, there'⟩ := wellFormed.exists_kind located'
    cases there.symm.trans (removal.within _ _ there')
    exact ⟨place, content, located', there', valid⟩

/-! ### What is loaded -/

/-- Protocol files can be taken away. -/
theorem of_isProtocolFile {taken : List (List String)}
    (without : Without system other fun goal => ∃ names ∈ taken, goal = place ++ names)
    (files : ∀ names ∈ taken, system.IsProtocolFile place names) :
    Removal system other fun goal => ∃ names ∈ taken, goal = place ++ names where
  toWithout := without
  noDirectory := by
    rintro _ ⟨names, member, rfl⟩
    exact (files names member).noDirectory
  noLink := by
    rintro _ ⟨names, member, rfl⟩
    exact (files names member).noLink

/-- A directory that could be listed can be listed still. -/
theorem lists (removal : Removal system other gone) (wellFormed : system.WellFormed)
    (located : system.locate directory = .ok place) (isDirectory : system.DirectoryAt place)
    (here : system.DirectoryAt (place ++ names))
    (listed : system.Lists (Path.descend directory names)) :
    other.Lists (Path.descend directory names) := by
  have left : ¬gone (place ++ names) := fun taken => removal.noDirectory _ taken here
  obtain ⟨readable, kind⟩ := here
  obtain ⟨rfl, own⟩ := (wellFormed.lists_iff located kind).mp listed
  refine ⟨place ++ names, ?_, removal.kindAt? left kind⟩
  by_cases below : names = []
  · subst below
    rw [List.append_nil]
    exact removal.locate_directory located isDirectory
  · exact (removal.locate_descend_iff wellFormed located kind below left _).mpr own

/-- The protocol files that are left are those that were not taken away. -/
theorem isProtocolFile_iff (removal : Removal system other gone) :
    other.IsProtocolFile place names ↔
      system.IsProtocolFile place names ∧ ¬gone (place ++ names) := by
  constructor
  · rintro ⟨⟨kind, there⟩, noDirectory, noLink, yaml⟩
    have left : ¬gone (place ++ names) := fun taken => by
      rw [removal.removed _ taken] at there
      cases there
    exact ⟨⟨⟨kind, removal.within _ _ there⟩, fun here => noDirectory (removal.directoryAt here),
      mt (removal.linkToDirectory_iff left).mpr noLink, yaml⟩, left⟩
  · rintro ⟨⟨⟨kind, there⟩, noDirectory, noLink, yaml⟩, left⟩
    exact ⟨⟨kind, removal.kindAt? left there⟩,
      fun here => noDirectory (here.imp fun _ => removal.within _ _),
      mt (removal.linkToDirectory_iff left).mp noLink, yaml⟩

end Removal

/-! ## Entries in another order -/

/-- Paths lead to the same places if the same stands everywhere. -/
theorem locate_iff_of_alike (current : other.current = system.current)
    (alike : ∀ place, other.kindAt? place = system.kindAt? place) :
    other.locate path = .ok place ↔ system.locate path = .ok place :=
  ⟨locate_mono current fun place _ found => (alike place).symm.trans found,
    locate_mono current.symm fun place _ found => (alike place).trans found⟩

/-- The same is planned at the same names if the same stands everywhere. -/
theorem plans_iff_of_alike (current : other.current = system.current)
    (alike : ∀ place, other.kindAt? place = system.kindAt? place) {visit : Visit} :
    other.Plans place directory names visit ↔ system.Plans place directory names visit := by
  have exists_eq (path : String) : other.pathExists path = system.pathExists path := by
    rw [Bool.eq_iff_iff, pathExists_iff, pathExists_iff]
    exact exists_congr fun _ => locate_iff_of_alike current alike
  have leads_eq (path : String) : other.leadsToDirectory path = system.leadsToDirectory path := by
    rw [Bool.eq_iff_iff, leadsToDirectory_iff, leadsToDirectory_iff]
    unfold DirectoryAt
    simp only [alike, locate_iff_of_alike current alike]
  induction names generalizing place directory with
  | nil => simp only [Plans, alike]
  | cons name rest ih => simp only [Plans, alike, exists_eq, leads_eq, ih]

/-- Directories are planned alike whatever the order of their entries. -/
theorem plan_eq_of_alike (wellFormed : system.WellFormed) (wellFormed' : other.WellFormed)
    (current : other.current = system.current)
    (alike : ∀ place, other.kindAt? place = system.kindAt? place)
    (located : system.locate directory = .ok place) (here : system.DirectoryAt place) :
    other.plan directory = system.plan directory := by
  have ordered := wellFormed'.ordered_plan ((locate_iff_of_alike current alike).mpr located)
    (here.imp fun _ => (alike place).trans)
  exact (ordered.congr fun _ _ => plans_iff_of_alike current alike).unique
    (wellFormed.ordered_plan located here)

end Covenant.FileSystem
