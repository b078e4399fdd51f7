import MiniWasm.Wasi.Descriptors
import MiniWasm.Wasi.Tree
import Mathlib.Data.List.TakeWhile

/-!
# What a directory descriptor refers to

A descriptor of a directory keeps the path and the inode that the directory had when
it was opened.  When the directory is removed the descriptor is dead, until another
directory is made at the path, or a file is renamed to a name below it.
-/

namespace MiniWasm.Wasi

open Library Action MiniWasm.Runtime FilesystemState

/-! ## Paths -/

theorem parentPath_append {base rest : Path} :
    parentPath (base ++ slash :: rest) =
      if slash ∈ rest then base ++ slash :: parentPath rest else base := by
  unfold parentPath
  rw [List.reverse_append, List.reverse_cons, List.append_assoc]
  split_ifs with nested
  · have kept : rest.reverse.dropWhile (· ≠ slash) ≠ [] := by
      intro all
      rw [List.dropWhile_eq_nil_iff] at all
      simpa using all slash (List.mem_reverse.mpr nested)
    rw [List.dropWhile_append, if_neg (by simpa using kept)]
    obtain ⟨separator, parent, same⟩ := List.exists_cons_of_ne_nil kept
    rw [same]
    simp
  · have dropped : rest.reverse.dropWhile (· ≠ slash) = [] := by
      rw [List.dropWhile_eq_nil_iff]
      intro byte member
      simp only [decide_eq_true_eq]
      rintro rfl
      exact nested (List.mem_reverse.mp member)
    rw [List.dropWhile_append, if_pos (by simpa using dropped)]
    simp

theorem isBelow_iff {entry location : Location} :
    entry.isBelow location = true ↔ entry.preopenFd = location.preopenFd ∧
      directoryPrefix location.relativePath <+: entry.relativePath :=
  decide_eq_true_iff

/-- The parent of an entry below a directory is the directory or lies below it too. -/
theorem parent_of_isBelow {entry location : Location} (below : entry.isBelow location = true) :
    entry.parent = location ∨ entry.parent.isBelow location = true := by
  rw [isBelow_iff, directoryPrefix] at below
  rw [isBelow_iff, directoryPrefix]
  obtain ⟨samePreopen, rest, path⟩ := below
  rw [List.append_assoc, List.singleton_append] at path
  have parent : entry.parent.relativePath = _ := congrArg parentPath path.symm
  rw [parentPath_append] at parent
  split_ifs at parent with nested
  · right
    exact ⟨samePreopen, parentPath rest, by rw [parent]; simp⟩
  · left
    obtain ⟨preopen, path⟩ := entry
    obtain ⟨otherPreopen, otherPath⟩ := location
    simp only [Location.parent] at parent samePreopen ⊢
    rw [parent, samePreopen]

/-! ## The invariant -/

/-- The rights that the calls with a path relative to a directory need. -/
def Rights.ofPaths : List Rights :=
  [pathCreateDirectory, pathRemoveDirectory, pathOpen, pathSymlink, pathReadlink, pathLinkSource,
    pathLinkTarget, pathUnlinkFile, pathFilestatGet, pathFilestatSetTimes]

/-- Some call finds something through a descriptor with these rights. -/
def OpenDirectory.CanReach (opened : OpenDirectory) : Prop :=
  (∃ right ∈ Rights.ofPaths, opened.rightsBase &&& right = right) ∨
    ¬ opened.rightsBase &&& Rights.fdReaddir = 0

instance (opened : OpenDirectory) : Decidable opened.CanReach :=
  inferInstanceAs (Decidable (_ ∨ _))

theorem OpenDirectory.CanReach.of_rights {opened : OpenDirectory}
    (granted : opened.rightsBase = Rights.allowedDirectoryBase) : opened.CanReach := by
  refine .inr ?_
  rw [granted]
  decide

namespace FilesystemState

variable (state : FilesystemState)

/-- The locations of the directories, with their inodes. -/
def identities : List (Location × Nat) :=
  state.mountedDirectories.map fun directory => (directory.toLocation, directory.inode)

/-- The records of the open directories. -/
def openedDirectories : List OpenDirectory :=
  state.openDirectories.entries.map (·.2)

/-- No directory has the location, and nothing lies below it. -/
structure Gone (location : Location) : Prop where
  noDirectory : location ∉ state.mountedDirectories.map (·.toLocation)
  empty : ∀ entry ∈ state.locations, entry.isBelow location = false

/-- A descriptor that something can be found through refers to the directory that it was
opened on, or that directory is gone. -/
structure Identified : Prop where
  distinct : (state.mountedDirectories.map (·.toLocation)).Nodup
  named : ∀ directory ∈ state.mountedDirectories, directory.relativePath ≠ []
  opened : ∀ opened ∈ state.openedDirectories, opened.relativePath ≠ [] ∧
    (opened.CanReach →
      (opened.toLocation, opened.inode) ∈ state.identities ∨ state.Gone opened.toLocation)

end FilesystemState

section Invariant

variable {state before after : FilesystemState} {location : Location}

theorem mem_openedDirectories {fd : Nat} {opened : OpenDirectory}
    (found : state.openDirectories.lookup fd = some opened) :
    opened ∈ state.openedDirectories :=
  List.mem_map.mpr ⟨⟨fd, opened⟩, AList.mem_lookup_iff.mp found, rfl⟩

/-- An entry whose parent exists does not lie below a directory that is gone. -/
theorem FilesystemState.Gone.not_isBelow (gone : state.Gone location)
    (named : location.relativePath ≠ []) {entry : Location}
    (parent : state.parentDirectoryExists entry = true) : entry.isBelow location = false := by
  by_contra below
  rw [Bool.not_eq_false] at below
  rw [parentDirectoryExists_iff] at parent
  rcases parent_of_isBelow below with same | parentBelow
  · rw [same] at parent
    exact parent.elim named gone.noDirectory
  · rcases parent with root | known
    · rw [isBelow_iff, root, List.prefix_nil] at parentBelow
      simp [directoryPrefix] at parentBelow
    · have notBelow := gone.empty entry.parent
        (List.mem_append_left _ (List.mem_append_right _ known))
      rw [parentBelow] at notBelow
      cases notBelow

/-- No directory is new, and a new entry does not lie below a directory that is gone. -/
theorem FilesystemState.Identified.keep (identified : before.Identified)
    (directories : after.identities = before.identities)
    (opened : ∀ opened ∈ after.openedDirectories, opened ∈ before.openedDirectories)
    (entries : ∀ entry ∈ after.locations, entry ∈ before.locations ∨
      ∀ opened ∈ before.openedDirectories, opened.CanReach → before.Gone opened.toLocation →
        entry.isBelow opened.toLocation = false) : after.Identified := by
  have locations : after.mountedDirectories.map (·.toLocation) =
      before.mountedDirectories.map (·.toLocation) := by
    have same := congrArg (List.map Prod.fst) directories
    simp only [identities, List.map_map] at same
    exact same
  constructor
  · rw [locations]
    exact identified.distinct
  · intro directory member
    have known : directory.toLocation ∈ before.mountedDirectories.map (·.toLocation) :=
      locations ▸ List.mem_map_of_mem member
    obtain ⟨old, oldMember, same⟩ := List.mem_map.mp known
    rw [← same]
    exact identified.named old oldMember
  · intro open' member
    obtain ⟨named, refers⟩ := identified.opened open' (opened open' member)
    refine ⟨named, fun reaches => ?_⟩
    rcases refers reaches with current | gone
    · left
      rw [directories]
      exact current
    · right
      refine ⟨locations ▸ gone.noDirectory, ?_⟩
      intro entry entryMember
      rcases entries entry entryMember with old | notBelow
      · exact gone.empty entry old
      · exact notBelow open' (opened open' member) reaches gone

end Invariant

/-! ## Changes -/

/-- Where `create_directory` makes a directory, if nothing keeps it from that. -/
def FilesystemState.directoryToMake (state : FilesystemState) (fd : Nat) (path : Path) :
    Option Location :=
  match state.resolveDirectoryPath fd path Rights.pathCreateDirectory with
  | .error _ => none
  | .ok (location, _) =>
      if state.namespaceEntryExists location = false ∧
          state.parentDirectoryExists location = true ∧
          state.namespaceEntryCount < maxMountedFiles ∧ state.nextInode < maxU64 then
        some location
      else none

section Changes

variable {before after : FilesystemState}

theorem joinRelative_ne_nil {base path : Path} (named : path ≠ []) :
    joinRelative base path ≠ [] := by
  unfold joinRelative
  split_ifs with root
  · exact named
  · simp

theorem resolved_location {state : FilesystemState} {fd : Nat} {path : Path}
    {required rights : Rights} {location : Location}
    (resolved : state.resolveDirectoryPath fd path required = .ok (location, rights)) :
    ∃ base, state.directoryContext fd = some (base, rights) ∧
      location.preopenFd = base.preopenFd ∧
      location.relativePath = joinRelative base.relativePath path := by
  unfold resolveDirectoryPath at resolved
  cases found : state.directoryContext fd with
  | none =>
    rw [found] at resolved
    cases resolved
  | some context =>
    obtain ⟨base, rights⟩ := context
    rw [found] at resolved
    dsimp only at resolved
    split_ifs at resolved
    cases resolved
    exact ⟨base, rfl, rfl, rfl⟩

theorem FilesystemState.Identified.createdDirectory (identified : before.Identified)
    {entry : MountedDirectory} (free : before.namespaceEntryExists entry.toLocation = false)
    (parent : before.parentDirectoryExists entry.toLocation = true)
    (named : entry.relativePath ≠ [])
    (fresh : ∀ opened ∈ before.openedDirectories, opened.CanReach →
      opened.toLocation ≠ entry.toLocation) :
    { before with
      nextInode := before.nextInode + 1
      mountedDirectories := before.mountedDirectories ++ [entry] }.Identified := by
  have notMember : entry.toLocation ∉ before.mountedDirectories.map (·.toLocation) :=
    fun member => not_mem_locations free
      (List.mem_append_left _ (List.mem_append_right _ member))
  constructor
  · rw [List.map_append, List.map_singleton]
    exact identified.distinct.append (List.nodup_singleton _)
      (List.disjoint_singleton.mpr notMember)
  · intro directory member
    rcases List.mem_append.mp member with old | new
    · exact identified.named directory old
    · rw [List.mem_singleton.mp new]
      exact named
  · intro opened member
    obtain ⟨openedNamed, refers⟩ := identified.opened opened member
    refine ⟨openedNamed, fun reaches => (refers reaches).imp ?_ ?_⟩
    · intro current
      rw [identities, List.map_append]
      exact List.mem_append_left _ current
    · intro gone
      constructor
      · rw [List.map_append, List.mem_append, not_or]
        refine ⟨gone.noDirectory, ?_⟩
        rw [List.map_singleton, List.mem_singleton]
        exact fresh opened member reaches
      · intro other otherMember
        have cases' : other ∈ before.locations ∨ other = entry.toLocation := by
          simp only [locations, List.map_append, List.mem_append, List.map_singleton,
            List.mem_singleton] at otherMember ⊢
          tauto
        rcases cases' with old | rfl
        · exact gone.empty other old
        · exact gone.not_isBelow openedNamed parent

theorem FilesystemState.Identified.removedDirectory (identified : before.Identified)
    {index : Nat} {location : Location}
    (found : before.mountedDirectories.findIdx? (·.toLocation = location) = some index)
    (noFile : ∀ file ∈ before.mountedFiles, file.toLocation.isBelow location = false)
    (noDirectory : ∀ directory ∈ before.mountedDirectories.eraseIdx index,
      directory.toLocation.isBelow location = false)
    (noSymlink : ∀ link ∈ before.mountedSymlinks, link.toLocation.isBelow location = false) :
    { before with
      mountedDirectories := before.mountedDirectories.eraseIdx index }.Identified := by
  obtain ⟨removed, located, holds⟩ := exists_of_findIdx? found
  have same : removed.toLocation = location := of_decide_eq_true holds
  have kept := List.eraseIdx_sublist before.mountedDirectories index
  have position : (before.mountedDirectories.map (·.toLocation))[index]? =
      some removed.toLocation := by
    rw [List.getElem?_map, located, Option.map_some]
  have erased := count_eraseIdx position
  rw [List.eraseIdx_map] at erased
  constructor
  · exact identified.distinct.sublist (kept.map _)
  · exact fun directory member => identified.named directory (kept.subset member)
  · intro opened member
    obtain ⟨named, refers⟩ := identified.opened opened member
    refine ⟨named, fun reaches => ?_⟩
    by_cases here : opened.toLocation = location
    · right
      rw [here]
      constructor
      · apply List.count_eq_zero.mp
        have once := List.nodup_iff_count_le_one.mp identified.distinct location
        have counted := erased location
        rw [if_pos same] at counted
        dsimp only
        omega
      · intro entry entryMember
        simp only [locations, List.mem_append, List.mem_map] at entryMember
        rcases entryMember with (⟨file, fileMember, rfl⟩ | ⟨directory, directoryMember, rfl⟩) |
          ⟨link, linkMember, rfl⟩
        · exact noFile file fileMember
        · exact noDirectory directory directoryMember
        · exact noSymlink link linkMember
    · refine (refers reaches).imp ?_ ?_
      · intro current
        obtain ⟨directory, directoryMember, identity⟩ := List.mem_map.mp current
        have different : directory ≠ removed := by
          rintro rfl
          exact here ((congrArg Prod.fst identity).symm.trans same)
        refine List.mem_map.mpr ⟨directory, ?_, identity⟩
        obtain ⟨position, atPosition⟩ := List.mem_iff_getElem?.mp directoryMember
        refine List.mem_eraseIdx_iff_getElem?.mpr ⟨position, ?_, atPosition⟩
        rintro rfl
        rw [located] at atPosition
        exact different (Option.some.inj atPosition).symm
      · intro gone
        refine ⟨fun directory => gone.noDirectory ((kept.map _).subset directory), ?_⟩
        intro entry entryMember
        apply gone.empty
        simp only [locations, List.mem_append] at entryMember ⊢
        exact entryMember.imp (fun entries => entries.imp id fun directory =>
          (kept.map _).subset directory) id

theorem FilesystemState.Identified.openedDirectory (identified : before.Identified)
    {fd parentInode : Nat} {rightsBase : Rights} {location : Location}
    {directory : MountedDirectory} (found : before.directoryAt location = some directory) :
    { before with
      openDirectories :=
        before.openDirectories.insert fd
          { location with inode := directory.inode, parentInode, rightsBase } }.Identified := by
  have member : directory ∈ before.mountedDirectories := List.mem_of_find?_eq_some found
  have same : directory.toLocation = location := by simpa using List.find?_some found
  refine ⟨identified.distinct, identified.named, ?_⟩
  intro opened openedMember
  rw [openedDirectories, AList.entries_insert, List.map_cons, List.mem_cons] at openedMember
  rcases openedMember with rfl | old
  · refine ⟨?_, fun _ => .inl (List.mem_map.mpr ⟨directory, member, ?_⟩)⟩
    · rw [← same]
      exact identified.named directory member
    · rw [← same]
  · obtain ⟨named, refers⟩ :=
      identified.opened opened (((List.kerase_sublist _ _).map _).subset old)
    exact ⟨named, fun reaches => (refers reaches).imp id fun gone =>
      ⟨gone.noDirectory, gone.empty⟩⟩

theorem mem_map_append {α : Type} {locate : α → Location} {entries : List α} {entry : α}
    {location : Location} (member : location ∈ (entries ++ [entry]).map locate) :
    location ∈ entries.map locate ∨ location = locate entry := by
  simpa using member

theorem map_modify_subset {α β : Type} {values : List α} {index : Nat} {change : α → α}
    {image : α → β} (same : ∀ value, image (change value) = image value) :
    (values.modify index change).map image ⊆ values.map image := by
  rw [map_modify same]
  exact List.Subset.refl _

theorem mem_relocate {files : List MountedFile} {index : Nat} {location : Location}
    (entry : Location)
    (member : entry ∈ (relocate files index location).map (·.toLocation)) :
    entry ∈ files.map (·.toLocation) ∨ entry = location := by
  rw [map_relocate] at member
  exact List.mem_or_eq_of_mem_set member

theorem mem_locations_files (before : FilesystemState) {after : FilesystemState}
    {location entry : Location} (member : entry ∈ after.locations)
    (directories : after.mountedDirectories = before.mountedDirectories)
    (symlinks : after.mountedSymlinks = before.mountedSymlinks)
    (grown : ∀ other, other ∈ after.mountedFiles.map (·.toLocation) →
      other ∈ before.mountedFiles.map (·.toLocation) ∨ other = location) :
    entry ∈ before.locations ∨ entry = location := by
  simp only [locations, List.mem_append, directories, symlinks] at member ⊢
  rcases member with (file | directory) | symlink
  · exact (grown entry file).imp (fun known => .inl (.inl known)) id
  · exact .inl (.inl (.inr directory))
  · exact .inl (.inr symlink)

theorem mem_locations_of_subset {entry : Location} (member : entry ∈ after.locations)
    (files : after.mountedFiles.map (·.toLocation) ⊆ before.mountedFiles.map (·.toLocation))
    (directories : after.mountedDirectories.map (·.toLocation) ⊆
      before.mountedDirectories.map (·.toLocation))
    (symlinks : after.mountedSymlinks.map (·.toLocation) ⊆
      before.mountedSymlinks.map (·.toLocation)) : entry ∈ before.locations := by
  simp only [locations, List.mem_append] at member ⊢
  rcases member with (file | directory) | symlink
  · exact .inl (.inl (files file))
  · exact .inl (.inr (directories directory))
  · exact .inr (symlinks symlink)

/-- What every change keeps, but for a new directory at the path of a directory that is
gone but open with a right to find something, and a move to a name below it. -/
theorem Effect.identified {operation : Operation} (effect : Effect before operation after)
    (identified : before.Identified)
    (names : ∀ fd path, operation = .createDirectory fd path → path ≠ [])
    (makes : ∀ fd path location, operation = .createDirectory fd path →
      before.directoryToMake fd path = some location →
      ∀ opened ∈ before.openedDirectories, opened.CanReach → before.Gone opened.toLocation →
        opened.toLocation ≠ location)
    (moves : ∀ old new, operation = .rename old new → before.AdmitsRename old new →
      (before.fileAt new).isNone = true →
      ∀ opened ∈ before.openedDirectories, opened.CanReach → before.Gone opened.toLocation →
        new.isBelow opened.toLocation = false) : after.Identified := by
  have keepsEntries {after : FilesystemState} (directories : after.identities = before.identities)
      (opened : ∀ opened ∈ after.openedDirectories, opened ∈ before.openedDirectories)
      (entries : ∀ entry ∈ after.locations, entry ∈ before.locations ∨
        before.parentDirectoryExists entry = true) : after.Identified := by
    apply identified.keep directories opened
    intro entry member
    refine (entries entry member).imp id fun parent opened openedMember _ gone => ?_
    exact gone.not_isBelow (identified.opened opened openedMember).1 parent
  cases effect with
  | opened opens =>
    cases opens with
    | file resolved allocated found =>
      exact keepsEntries rfl (fun _ => id) fun entry => .inl
    | created resolved allocated create mayCreate free parent =>
      refine keepsEntries rfl (fun _ => id) ?_
      intro entry member
      refine (mem_locations_files before member rfl rfl fun other => mem_map_append).imp id ?_
      rintro rfl
      exact parent
    | directory resolved attenuated found parent allocated =>
      exact identified.openedDirectory found
  | closed =>
    refine keepsEntries rfl ?_ fun entry => .inl
    intro opened member
    exact ((List.kerase_sublist _ _).map _).subset member
  | createdDirectory resolved free parent room numbers =>
    obtain ⟨base, -, -, joined⟩ := resolved_location resolved
    apply identified.createdDirectory free parent
    · rw [joined]
      exact joinRelative_ne_nil (names _ _ rfl)
    · intro opened member reaches
      rcases (identified.opened opened member).2 reaches with current | gone
      · rintro same
        apply not_mem_locations free
        obtain ⟨directory, directoryMember, identity⟩ := List.mem_map.mp current
        refine List.mem_append_left _ (List.mem_append_right _
          (List.mem_map.mpr ⟨directory, directoryMember, ?_⟩))
        exact (congrArg Prod.fst identity).trans same
      · apply makes _ _ _ rfl _ opened member reaches gone
        simp [directoryToMake, resolved, free, parent, room, numbers]
  | createdSymlink resolved free parent =>
    refine keepsEntries rfl (fun _ => id) ?_
    intro entry member
    simp only [locations, List.map_append, List.mem_append, List.map_singleton,
      List.mem_singleton] at member ⊢
    rcases member with old | old | rfl
    · exact .inl (.inl old)
    · exact .inl (.inr old)
    · exact .inr parent
  | linked oldResolved newResolved free parent found =>
    refine keepsEntries rfl (fun _ => id) ?_
    intro entry member
    refine (mem_locations_files before member rfl rfl fun other => mem_map_append).imp id ?_
    rintro rfl
    exact parent
  | removedDirectory resolved found noFile noDirectory noSymlink =>
    exact identified.removedDirectory found noFile noDirectory noSymlink
  | renamed oldWritable newWritable noSymlink found sourceFound free notSymlink =>
    refine identified.keep rfl (fun _ => id) ?_
    intro entry member
    refine (mem_locations_files before member rfl rfl mem_relocate).imp id ?_
    rintro rfl
    exact moves _ _ rfl
      ⟨oldWritable, newWritable, by simp [notSymlink], by simp [noSymlink], by simp [sourceFound]⟩
      (by simp [free])
  | replaced oldWritable newWritable noSymlink found sourceFound foundTarget targetFound =>
    refine keepsEntries rfl (fun _ => id) ?_
    intro entry member
    refine .inl ((mem_locations_files before member rfl rfl fun other erased =>
      mem_relocate other (((List.eraseIdx_sublist ..).map _).subset erased)).elim id ?_)
    rintro rfl
    obtain ⟨target, located, same⟩ := exists_of_findIdx? foundTarget
    rw [← of_decide_eq_true same]
    exact List.mem_append_left _ (List.mem_append_left _
      (List.mem_map_of_mem (List.mem_of_getElem? located)))
  | unlinked =>
    refine keepsEntries rfl (fun _ => id) fun entry member => .inl ?_
    exact mem_locations_of_subset member ((List.eraseIdx_sublist ..).map _).subset
      (List.Subset.refl _) (List.Subset.refl _)
  | unlinkedSymlink =>
    refine keepsEntries rfl (fun _ => id) fun entry member => .inl ?_
    exact mem_locations_of_subset member (List.Subset.refl _) (List.Subset.refl _)
      ((List.eraseIdx_sublist ..).map _).subset
  | stampedDirectory =>
    refine keepsEntries (map_modify fun _ => rfl) (fun _ => id) fun entry member => .inl ?_
    exact mem_locations_of_subset member (List.Subset.refl _)
      (map_modify_subset fun _ => rfl) (List.Subset.refl _)
  | stampedSymlink =>
    refine keepsEntries rfl (fun _ => id) fun entry member => .inl ?_
    exact mem_locations_of_subset member (List.Subset.refl _) (List.Subset.refl _)
      (map_modify_subset fun _ => rfl)
  | _ => exact keepsEntries rfl (fun _ => id) fun entry => .inl

end Changes

end MiniWasm.Wasi
