import PresenceSeal.Host.Disk
import PresenceSeal.Proofs.Json.Reader

/-! What changes on a disk and what does not. Which place a path leads to depends on the
directories alone; files that come and go in one directory leave those as they are. So a
path keeps its place while files beside its own are written, moved and removed. -/
namespace PresenceSeal

open Json (andThen_eq_ok)

/-! ### Places -/

namespace Place

theorem isWithin_iff {place folder : Place} :
    place.isWithin folder ↔ place.start = folder.start ∧ folder.names <+: place.names := by
  simp [isWithin]

theorem isWithin_trans {place middle folder : Place} (inner : place.isWithin middle)
    (outer : middle.isWithin folder) : place.isWithin folder := by
  obtain ⟨start, names⟩ := isWithin_iff.mp inner
  obtain ⟨same, prior⟩ := isWithin_iff.mp outer
  exact isWithin_iff.mpr ⟨start.trans same, prior.trans names⟩

theorem isWithin_antisymm {place folder : Place} (below : place.isWithin folder)
    (above : folder.isWithin place) : place = folder := by
  obtain ⟨start, names⟩ := isWithin_iff.mp below
  obtain ⟨-, others⟩ := isWithin_iff.mp above
  have same := names.eq_of_length_le others.length_le
  cases place
  cases folder
  cases start
  cases same
  rfl

theorem child_isWithin (folder : Place) (name : String) : (folder.child name).isWithin folder :=
  isWithin_iff.mpr ⟨rfl, List.prefix_append _ _⟩

theorem child_ne (folder : Place) (name : String) : folder.child name ≠ folder := by
  intro same
  have lengths := congrArg (fun place => place.names.length) same
  simp [child] at lengths

/-- What a child lies below, its directory lies below or is. -/
theorem isWithin_of_child {folder place : Place} {name : String}
    (below : (folder.child name).isWithin place) (differs : folder.child name ≠ place) :
    folder.isWithin place := by
  obtain ⟨start, names⟩ := isWithin_iff.mp below
  rcases List.prefix_concat_iff.mp names with same | names
  · obtain ⟨placeStart, placeNames⟩ := place
    cases start
    cases same
    exact absurd rfl differs
  · exact isWithin_iff.mpr ⟨start, names⟩

theorem isWithin_parent {place : Place} (named : place.names ≠ []) :
    place.isWithin place.parent := by
  obtain ⟨start, names⟩ := place
  unfold parent
  split
  · contradiction
  · contradiction
  · exact isWithin_iff.mpr ⟨rfl, List.dropLast_prefix _⟩

theorem names_parent {place : Place} (unnamed : place.names = []) : place.parent.names = [] := by
  obtain ⟨start, names⟩ := place
  cases unnamed
  cases start <;> rfl

end Place

/-! ### Paths -/

namespace Path

end Path

namespace Disk

variable {disk other after : Disk} {folder place source target : Place} {name path suffix : String}

theorem mem_put {entry : Place × Node} {node : Node} (differs : entry.1 ≠ place) :
    entry ∈ (disk.put place node).nodes ↔ entry ∈ disk.nodes := by
  have fresh : entry ≠ (place, node) := fun same => differs (congrArg Prod.fst same)
  simp [put, fresh, differs]

theorem isDirectory_iff : disk.isDirectory place ↔
    place.names = [] ∨ disk.find? place = some .directory ∨
      ∃ entry ∈ disk.nodes, entry.1.isWithin place ∧ entry.1 ≠ place := by
  simp [isDirectory, or_assoc]

/-- Whatever a directory lies below is one. -/
theorem isDirectory_above (opened : disk.isDirectory folder) (within : folder.isWithin place) :
    disk.isDirectory place := by
  by_cases same : folder = place
  · exact same ▸ opened
  · rcases isDirectory_iff.mp opened with root | found | ⟨entry, listed, below, -⟩
    · obtain ⟨-, names⟩ := Place.isWithin_iff.mp within
      rw [root, List.prefix_nil] at names
      exact isDirectory_iff.mpr (.inl names)
    · obtain ⟨front, back, nodes, -⟩ := List.lookup_eq_some_iff.mp found
      refine isDirectory_iff.mpr (.inr (.inr ⟨(folder, .directory), ?_, within, same⟩))
      rw [nodes]
      exact List.mem_append_right _ List.mem_cons_self
    · by_cases itself : entry.1 = place
      · exact absurd (Place.isWithin_antisymm within (itself ▸ below)) same
      · exact isDirectory_iff.mpr (.inr (.inr
          ⟨entry, listed, Place.isWithin_trans below within, itself⟩))

/-- The names that lead on. Whether there is a file where a directory is missing matters to
the error only. -/
theorem enter_eq_ok_iff {next : Place} : disk.enter folder name = .ok next ↔
    (name = "." ∧ next = folder) ∨ (name = ".." ∧ next = folder.parent) ∨
      (name ≠ "." ∧ name ≠ ".." ∧ name.utf8ByteSize ≤ Path.maxName ∧
        disk.isDirectory (folder.child name) ∧ next = folder.child name) := by
  have dots : "." ≠ ".." := by decide
  unfold enter
  split_ifs <;> grind

theorem isDirectory_of_enter {next : Place} (opened : disk.isDirectory folder)
    (entered : disk.enter folder name = .ok next) : disk.isDirectory next := by
  rcases enter_eq_ok_iff.mp entered with ⟨-, rfl⟩ | ⟨-, rfl⟩ | ⟨-, -, -, leads, rfl⟩
  · exact opened
  · by_cases root : folder.names = []
    · exact isDirectory_iff.mpr (.inl (Place.names_parent root))
    · exact isDirectory_above opened (Place.isWithin_parent root)
  · exact leads

/-- Files that come and go in one directory leave all directories as they are, as long as one
of them stays. -/
theorem isDirectory_of_children (opened : disk.isDirectory folder)
    (kept : ∃ entry ∈ other.nodes, entry.1 = folder.child name)
    (nodes : ∀ entry, (∀ name, entry.1 ≠ folder.child name) →
      (entry ∈ other.nodes ↔ entry ∈ disk.nodes))
    (directories : ∀ place, other.find? place = some .directory ↔
      disk.find? place = some .directory) :
    other.isDirectory = disk.isDirectory := by
  funext place
  rw [Bool.eq_iff_iff]
  -- What the directory lies below is one before and after; elsewhere its children do not count.
  by_cases above : folder.isWithin place
  · obtain ⟨entry, listed, child⟩ := kept
    have below : entry.1.isWithin folder := child ▸ Place.child_isWithin folder name
    have differs : entry.1 ≠ place := by
      intro same
      rw [← same] at above
      exact Place.child_ne folder name (child ▸ Place.isWithin_antisymm below above)
    have stays : other.isDirectory place := isDirectory_iff.mpr
      (.inr (.inr ⟨entry, listed, Place.isWithin_trans below above, differs⟩))
    exact iff_of_true stays (isDirectory_above opened above)
  · have foreign : ∀ entry : Place × Node, entry.1.isWithin place ∧ entry.1 ≠ place →
        (entry ∈ other.nodes ↔ entry ∈ disk.nodes) := by
      rintro entry ⟨below, differs⟩
      apply nodes entry
      intro name child
      rw [child] at below differs
      exact above (Place.isWithin_of_child below differs)
    simp only [isDirectory_iff, directories]
    refine or_congr_right (or_congr_right (exists_congr fun entry => ?_))
    exact and_congr_left (foreign entry)

theorem find?_ne_directory (closed : disk.isDirectory place = false) :
    disk.find? place ≠ some .directory := by
  intro found
  rw [isDirectory_iff.mpr (.inr (.inl found))] at closed
  cases closed

/-- A file that is put into a directory. -/
theorem isDirectory_put (opened : disk.isDirectory folder)
    (closed : disk.isDirectory (folder.child name) = false) (bytes : List UInt8) (mode : Nat) :
    (disk.put (folder.child name) (.file bytes mode)).isDirectory = disk.isDirectory := by
  refine isDirectory_of_children opened ⟨_, List.mem_cons_self, rfl⟩ ?_ ?_
  · exact fun entry foreign => mem_put (foreign name)
  · intro place
    rw [find?_put]
    split
    · rename_i same
      simp [same, find?_ne_directory closed]
    · exact Iff.rfl

/-- All names but the last lead on from directory to directory. -/
theorem follow_append (folder : Place) (front : List String) (last : String) :
    disk.follow folder (front ++ [last]) =
      front.foldlM disk.enter folder >>= fun inner => disk.follow inner [last] := by
  induction front generalizing folder with
  | nil => rfl
  | cons name front ih =>
    obtain ⟨next, rest, same⟩ := List.exists_cons_of_ne_nil (List.append_ne_nil_of_right_ne_nil
      front (List.cons_ne_nil last []))
    rw [List.cons_append, same, List.foldlM_cons, bind_assoc]
    simp only [follow, ← same, ih]

theorem follow_last {last : String} (followed : disk.follow folder [last] = .ok (some place)) :
    place = folder.child last := by
  unfold follow at followed
  split at followed
  · cases followed
  · split at followed
    · cases followed
    · exact (Option.some.inj (Except.ok.inj followed)).symm

theorem follow_eq_some {names : List String}
    (followed : disk.follow folder names = .ok (some place)) :
    ∃ front last inner, names = front ++ [last] ∧ front.foldlM disk.enter folder = .ok inner ∧
      place = inner.child last := by
  rcases List.eq_nil_or_concat names with rfl | ⟨front, last, rfl⟩
  · cases followed
  · rw [List.concat_eq_append] at followed ⊢
    rw [follow_append] at followed
    obtain ⟨inner, entered, followed⟩ := andThen_eq_ok followed
    exact ⟨front, last, inner, rfl, entered, follow_last followed⟩

theorem isDirectory_of_enterEach {names : List String} {inner : Place}
    (opened : disk.isDirectory folder) (entered : names.foldlM disk.enter folder = .ok inner) :
    disk.isDirectory inner := by
  induction names generalizing folder with
  | nil =>
    cases entered
    exact opened
  | cons name names ih =>
    rw [List.foldlM_cons] at entered
    obtain ⟨next, first, entered⟩ := andThen_eq_ok entered
    exact ih (isDirectory_of_enter opened first) entered

theorem locate_eq_ok_iff {endings : Endings} : disk.locate endings path = .ok place ↔
    ∃ taken, Path.ofText path = .ok taken ∧
      disk.follow ⟨taken.start, []⟩ taken.names = .ok (some place) ∧
      taken.slashed = false ∧ disk.isDirectory place = false := by
  constructor
  · intro located
    obtain ⟨taken, opened, located⟩ := andThen_eq_ok located
    obtain ⟨found, followed, located⟩ := andThen_eq_ok located
    cases found with
    | none => cases located
    | some found =>
      dsimp only at located
      split at located
      · cases located
      · rename_i unslashed
        split at located
        · cases located
        · rename_i closed
          cases located
          exact ⟨taken, opened, followed, Bool.eq_false_iff.mpr unslashed,
            Bool.eq_false_iff.mpr closed⟩
  · rintro ⟨taken, opened, followed, unslashed, closed⟩
    simp [locate, opened, followed, unslashed, closed, bind, Except.bind]

/-- Where files lie is a matter of directories, and of where one is in them. -/
theorem locate_ok {endings : Endings} (located : disk.locate endings path = .ok place) :
    ∃ folder name, disk.isDirectory folder ∧ place = folder.child name ∧
      disk.isDirectory place = false := by
  obtain ⟨taken, -, followed, -, closed⟩ := locate_eq_ok_iff.mp located
  obtain ⟨front, last, inner, -, entered, rfl⟩ := follow_eq_some followed
  exact ⟨inner, last, isDirectory_of_enterEach (isDirectory_iff.mpr (.inl rfl)) entered, rfl,
    closed⟩

theorem enter_of_directories (same : other.isDirectory = disk.isDirectory) {next : Place}
    (entered : disk.enter folder name = .ok next) : other.enter folder name = .ok next := by
  rw [enter_eq_ok_iff] at entered ⊢
  rw [same]
  exact entered

theorem follow_of_directories (same : other.isDirectory = disk.isDirectory) {names : List String}
    {found : Option Place} (followed : disk.follow folder names = .ok found) :
    other.follow folder names = .ok found := by
  induction names generalizing folder with
  | nil => exact followed
  | cons name rest ih =>
    cases rest with
    | nil => exact followed
    | cons next rest =>
      obtain ⟨inner, entered, followed⟩ := andThen_eq_ok followed
      change (other.enter folder name >>= fun inner => other.follow inner (next :: rest)) = _
      rw [enter_of_directories same entered]
      exact ih followed

/-- Where a path leads to depends on the directories alone. -/
theorem locate_of_directories (same : other.isDirectory = disk.isDirectory)
    {endings others : Endings} (located : disk.locate endings path = .ok place) :
    other.locate others path = .ok place := by
  obtain ⟨taken, opened, followed, unslashed, closed⟩ := locate_eq_ok_iff.mp located
  rw [← same] at closed
  exact locate_eq_ok_iff.mpr
    ⟨taken, opened, follow_of_directories same followed, unslashed, closed⟩

/-- That nothing has changed but the file that a path leads to. -/
structure Confined (disk : Disk) (path : String) (after : Disk) : Prop where
  directories : after.isDirectory = disk.isDirectory
  elsewhere : ∀ place, disk.locate opening path ≠ .ok place →
    after.find? place = disk.find? place

namespace Confined

theorem refl (disk : Disk) (path : String) : disk.Confined path disk := ⟨rfl, fun _ _ => rfl⟩

theorem trans (first : disk.Confined path other) (second : other.Confined path after) :
    disk.Confined path after where
  directories := second.directories.trans first.directories
  elsewhere place apart := by
    have stays : other.locate opening path ≠ .ok place :=
      fun located => apart (locate_of_directories first.directories.symm located)
    exact (second.elsewhere place stays).trans (first.elsewhere place apart)

theorem put {endings : Endings} (located : disk.locate endings path = .ok place)
    (bytes : List UInt8) (mode : Nat) : disk.Confined path (disk.put place (.file bytes mode)) := by
  obtain ⟨folder, name, opened, rfl, closed⟩ := locate_ok located
  refine ⟨isDirectory_put opened closed bytes mode, ?_⟩
  intro place apart
  rw [find?_put, if_neg]
  rintro rfl
  exact apart (locate_of_directories rfl located)

end Confined

/-! ### Operations -/

end Disk

end PresenceSeal
