import MiniWasm.Wasi.Histories

/-!
# The tree of names

Every location has at most one entry, and the parent of an entry is the root of its
preopen or a directory.  All operations keep this but for `rename`, which checks
neither for a directory at the new name nor for the parent of the new name.
-/

namespace MiniWasm.Wasi

open Library Action MiniWasm.Runtime FilesystemState

namespace FilesystemState

variable (state : FilesystemState)

/-- The locations of all entries. -/
def locations : List Location :=
  state.mountedFiles.map (·.toLocation) ++ state.mountedDirectories.map (·.toLocation) ++
    state.mountedSymlinks.map (·.toLocation)

structure Tree : Prop where
  unique : state.locations.Nodup
  parents : ∀ location ∈ state.locations, state.parentDirectoryExists location = true

end FilesystemState

/-- What `rename` checks before it looks for a file with the new name. -/
def FilesystemState.AdmitsRename (state : FilesystemState) (old new : Location) : Prop :=
  state.isWritablePreopen old.preopenFd = true ∧ state.isWritablePreopen new.preopenFd = true ∧
    (state.symlinkAt old).isNone = true ∧ (state.symlinkAt new).isNone = true ∧
    (state.fileAt old).isSome = true

instance (state : FilesystemState) (old new : Location) :
    Decidable (state.AdmitsRename old new) :=
  inferInstanceAs (Decidable (_ ∧ _))

/-! ## Paths -/

/-- A path whose parent is not the root starts with its parent and a separator. -/
theorem parentPath_prefix {path : Path} (below : parentPath path ≠ []) :
    directoryPrefix (parentPath path) <+: path := by
  have split := List.takeWhile_append_dropWhile (p := (· ≠ slash)) (l := path.reverse)
  have stops := List.head?_dropWhile_not (· ≠ slash) path.reverse
  unfold parentPath at below ⊢
  generalize path.reverse.dropWhile (· ≠ slash) = rest at split stops below ⊢
  cases rest with
  | nil => simp at below
  | cons separator parent =>
    have isSlash : separator = slash := by simpa using stops
    subst isSlash
    refine ⟨(path.reverse.takeWhile (· ≠ slash)).reverse, ?_⟩
    calc directoryPrefix (List.drop 1 (slash :: parent)).reverse ++
          (path.reverse.takeWhile (· ≠ slash)).reverse
        = (path.reverse.takeWhile (· ≠ slash) ++ slash :: parent).reverse := by
          simp [directoryPrefix]
      _ = path := by rw [split, List.reverse_reverse]

theorem isBelow_parent {location : Location} (below : location.parent.relativePath ≠ []) :
    location.isBelow location.parent = true := by
  simp only [Location.isBelow, decide_eq_true_eq]
  exact ⟨rfl, parentPath_prefix below⟩

/-! ## Lookups -/

section Lookups

variable {state : FilesystemState} {location : Location}

theorem find?_isSome_location {α : Type} {entries : List α} {locate : α → Location} :
    (entries.find? (locate · = location)).isSome = true ↔ location ∈ entries.map locate := by
  simp [List.find?_isSome]

theorem directoryAt_isSome :
    (state.directoryAt location).isSome = true ↔
      location ∈ state.mountedDirectories.map (·.toLocation) :=
  find?_isSome_location

theorem namespaceEntryExists_iff :
    state.namespaceEntryExists location = true ↔ location ∈ state.locations := by
  simp only [namespaceEntryExists, Bool.or_eq_true, locations, List.mem_append, fileAt,
    directoryAt, symlinkAt, find?_isSome_location]

theorem not_mem_locations (free : state.namespaceEntryExists location = false) :
    location ∉ state.locations := by
  rw [← namespaceEntryExists_iff, free]
  exact Bool.false_ne_true

theorem parentDirectoryExists_iff :
    state.parentDirectoryExists location = true ↔ location.parent.relativePath = [] ∨
      location.parent ∈ state.mountedDirectories.map (·.toLocation) := by
  simp only [parentDirectoryExists, Bool.or_eq_true, decide_eq_true_eq, directoryAt_isSome]

end Lookups

/-! ## Rules -/

namespace FilesystemState.Tree

variable {before after : FilesystemState}

/-- The directories that the parents of entries are stay. -/
def KeepsParents (before after : FilesystemState) : Prop :=
  ∀ location ∈ after.locations, before.parentDirectoryExists location = true →
    after.parentDirectoryExists location = true

theorem keepsParents
    (directories : before.mountedDirectories.map (·.toLocation) ⊆
      after.mountedDirectories.map (·.toLocation)) : KeepsParents before after := by
  intro location member exists'
  rw [parentDirectoryExists_iff] at exists' ⊢
  exact exists'.imp id fun known => directories known

/-- At most one new location. -/
theorem grow (tree : before.Tree) {location : Location} (free : location ∉ before.locations)
    (covered : ∀ other, after.locations.count other ≤
      before.locations.count other + if location = other then 1 else 0)
    (parent : location ∈ after.locations → after.parentDirectoryExists location = true)
    (parents : KeepsParents before after) : after.Tree where
  unique := by
    apply List.nodup_iff_count_le_one.mpr
    intro other
    have bound := covered other
    have once := List.nodup_iff_count_le_one.mp tree.unique other
    split_ifs at bound with same
    · subst same
      rw [List.count_eq_zero_of_not_mem free] at bound
      exact bound
    · omega
  parents other member := by
    by_cases same : location = other
    · subst same
      exact parent member
    · have bound := covered other
      rw [if_neg same] at bound
      have old : other ∈ before.locations :=
        List.count_pos_iff.mp (Nat.lt_of_lt_of_le (List.count_pos_iff.mpr member) bound)
      exact parents other member (tree.parents other old)

/-- No location but old ones. -/
theorem shrink (tree : before.Tree)
    (covered : ∀ other, after.locations.count other ≤ before.locations.count other)
    (parents : KeepsParents before after) : after.Tree where
  unique := by
    apply List.nodup_iff_count_le_one.mpr
    intro other
    exact (covered other).trans (List.nodup_iff_count_le_one.mp tree.unique other)
  parents other member := by
    have old : other ∈ before.locations :=
      List.count_pos_iff.mp (Nat.lt_of_lt_of_le (List.count_pos_iff.mpr member) (covered other))
    exact parents other member (tree.parents other old)

/-- A change of what is at the locations. -/
theorem same (tree : before.Tree)
    (files : after.mountedFiles.map (·.toLocation) = before.mountedFiles.map (·.toLocation))
    (directories : after.mountedDirectories.map (·.toLocation) =
      before.mountedDirectories.map (·.toLocation))
    (symlinks : after.mountedSymlinks.map (·.toLocation) =
      before.mountedSymlinks.map (·.toLocation)) : after.Tree := by
  apply tree.shrink
  · intro other
    rw [FilesystemState.locations, files, directories, symlinks]
    exact le_rfl
  · exact keepsParents (directories ▸ List.Subset.refl _)

end FilesystemState.Tree

/-! ## Locations after a change -/

theorem count_locations (state : FilesystemState) (location : Location) :
    state.locations.count location =
      (state.mountedFiles.map (·.toLocation)).count location +
        (state.mountedDirectories.map (·.toLocation)).count location +
        (state.mountedSymlinks.map (·.toLocation)).count location := by
  rw [locations, List.count_append, List.count_append]

section Locations

variable {α : Type} {locate : α → Location}

theorem count_map_append (entries : List α) (entry : α) (location : Location) :
    ((entries ++ [entry]).map locate).count location =
      (entries.map locate).count location + if locate entry = location then 1 else 0 := by
  rw [List.map_append, List.count_append, List.map_singleton, List.count_singleton]
  simp only [beq_iff_eq]

theorem count_map_eraseIdx (entries : List α) (index : Nat) (location : Location) :
    ((entries.eraseIdx index).map locate).count location ≤ (entries.map locate).count location :=
  ((List.eraseIdx_sublist ..).map locate).count_le location

end Locations

theorem map_relocate (files : List MountedFile) (index : Nat) (location : Location) :
    (relocate files index location).map (·.toLocation) =
      (files.map (·.toLocation)).set index location := by
  apply List.ext_getElem?
  intro position
  rw [relocate, List.getElem?_map, List.getElem?_modify, List.getElem?_set, List.length_map,
    List.getElem?_map]
  by_cases here : index = position
  · subst here
    by_cases inside : index < files.length
    · simp [inside]
    · simp [inside]
  · simp [here]

theorem count_relocate {files : List MountedFile} {index : Nat} {location other : Location} :
    ((relocate files index location).map (·.toLocation)).count other ≤
      (files.map (·.toLocation)).count other + if location = other then 1 else 0 := by
  rw [map_relocate]
  by_cases inside : index < (files.map (·.toLocation)).length
  · rw [List.count_set inside]
    simp only [beq_iff_eq]
    omega
  · rw [List.set_eq_of_length_le (Nat.le_of_not_lt inside)]
    exact Nat.le_add_right _ _

/-- The entry of the new name gives way to the entry that is moved there. -/
theorem count_replace {files : List MountedFile} {sourceIndex targetIndex : Nat}
    {location other : Location} {target : MountedFile}
    (found : files[targetIndex]? = some target) (same : target.toLocation = location) :
    (((relocate files sourceIndex location).eraseIdx targetIndex).map (·.toLocation)).count
        other ≤ (files.map (·.toLocation)).count other := by
  have relocated : ((relocate files sourceIndex location).map (·.toLocation))[targetIndex]? =
      some location := by
    rw [map_relocate, List.getElem?_set, List.getElem?_map, found, List.length_map]
    have inside := (List.getElem?_eq_some_iff.mp found).1
    by_cases here : sourceIndex = targetIndex
    · simp [here, inside]
    · simp [here, same]
  have erased := count_eraseIdx relocated other
  have moved : ((relocate files sourceIndex location).map (·.toLocation)).count other ≤ _ :=
    count_relocate
  rw [← List.eraseIdx_map]
  omega

namespace FilesystemState.Tree

variable {before after : FilesystemState}

theorem growFiles (tree : before.Tree) {location : Location}
    (free : before.namespaceEntryExists location = false)
    (files : ∀ other, (after.mountedFiles.map (·.toLocation)).count other ≤
      (before.mountedFiles.map (·.toLocation)).count other +
        if location = other then 1 else 0)
    (directories : after.mountedDirectories = before.mountedDirectories)
    (symlinks : after.mountedSymlinks = before.mountedSymlinks)
    (parent : before.parentDirectoryExists location = true) : after.Tree := by
  have parents : KeepsParents before after :=
    keepsParents (by rw [directories]; exact List.Subset.refl _)
  apply tree.grow (not_mem_locations free)
  · intro other
    have bound := files other
    rw [count_locations, count_locations, directories, symlinks]
    omega
  · exact fun member => parents location member parent
  · exact parents

theorem shrinkEntries (tree : before.Tree)
    (files : ∀ other, (after.mountedFiles.map (·.toLocation)).count other ≤
      (before.mountedFiles.map (·.toLocation)).count other)
    (directories : ∀ other, (after.mountedDirectories.map (·.toLocation)).count other ≤
      (before.mountedDirectories.map (·.toLocation)).count other)
    (symlinks : ∀ other, (after.mountedSymlinks.map (·.toLocation)).count other ≤
      (before.mountedSymlinks.map (·.toLocation)).count other)
    (parents : KeepsParents before after) : after.Tree := by
  apply tree.shrink _ parents
  intro other
  rw [count_locations, count_locations]
  exact Nat.add_le_add (Nat.add_le_add (files other) (directories other)) (symlinks other)

end FilesystemState.Tree

/-- Nothing lies below a directory that is removed. -/
theorem removed_parents {before : FilesystemState} {index : Nat} {location : Location}
    (found : before.mountedDirectories.findIdx? (·.toLocation = location) = some index)
    (noFile : ∀ file ∈ before.mountedFiles, file.toLocation.isBelow location = false)
    (noDirectory : ∀ directory ∈ before.mountedDirectories.eraseIdx index,
      directory.toLocation.isBelow location = false)
    (noSymlink : ∀ link ∈ before.mountedSymlinks, link.toLocation.isBelow location = false) :
    Tree.KeepsParents before
      { before with mountedDirectories := before.mountedDirectories.eraseIdx index } := by
  intro entry member parent
  rw [parentDirectoryExists_iff] at parent ⊢
  by_cases root : entry.parent.relativePath = []
  · exact .inl root
  · right
    have known := parent.resolve_left root
    have notBelow : entry.isBelow location = false := by
      simp only [locations, List.mem_append, List.mem_map] at member
      rcases member with (⟨file, fileMember, rfl⟩ | ⟨directory, directoryMember, rfl⟩) |
        ⟨link, linkMember, rfl⟩
      · exact noFile file fileMember
      · exact noDirectory directory directoryMember
      · exact noSymlink link linkMember
    have different : location ≠ entry.parent := by
      rintro rfl
      rw [isBelow_parent root] at notBelow
      cases notBelow
    obtain ⟨removed, located, same⟩ := exists_of_findIdx? found
    have listed : (before.mountedDirectories.map (·.toLocation))[index]? = some location := by
      simpa [located] using of_decide_eq_true same
    have erased := count_eraseIdx listed entry.parent
    rw [if_neg different, Nat.add_zero] at erased
    rw [← List.eraseIdx_map]
    apply List.count_pos_iff.mp
    rw [← erased]
    exact List.count_pos_iff.mpr known

/-- What every change keeps, but for a move to a name that a directory has or whose parent
is missing. -/
theorem Effect.tree {before after : FilesystemState} {operation : Operation}
    (effect : Effect before operation after) (tree : before.Tree)
    (moves : ∀ old new, operation = .rename old new → before.AdmitsRename old new →
      (before.fileAt new).isNone = true →
      (before.directoryAt new).isNone = true ∧ before.parentDirectoryExists new = true) :
    after.Tree := by
  cases effect with
  | opened opens =>
    cases opens with
    | file => exact tree.same rfl rfl rfl
    | directory => exact tree.same rfl rfl rfl
    | created resolved allocated create mayCreate free parent =>
      exact tree.growFiles free (fun other => (count_map_append ..).le) rfl rfl parent
  | createdDirectory resolved free parent =>
    have parents : ∀ {entry : MountedDirectory}, Tree.KeepsParents before
        { before with
          nextInode := before.nextInode + 1
          mountedDirectories := before.mountedDirectories ++ [entry] } :=
      Tree.keepsParents (List.map_subset _ (List.subset_append_left ..))
    refine tree.grow (not_mem_locations free) ?_ (fun member => parents _ member parent) parents
    intro other
    rw [count_locations, count_locations, count_map_append]
    dsimp only
    omega
  | createdSymlink resolved free parent =>
    refine tree.grow (not_mem_locations free) ?_ (fun _ => parent)
      (Tree.keepsParents (List.Subset.refl _))
    intro other
    rw [count_locations, count_locations, count_map_append]
    dsimp only
    omega
  | linked oldResolved newResolved free parent found =>
    exact tree.growFiles free (fun other => (count_map_append ..).le) rfl rfl parent
  | removedDirectory resolved found noFile noDirectory noSymlink =>
    exact tree.shrinkEntries (fun _ => le_rfl) (fun other => count_map_eraseIdx ..)
      (fun _ => le_rfl) (removed_parents found noFile noDirectory noSymlink)
  | renamed oldWritable newWritable noSymlink found sourceFound free notSymlink =>
    obtain ⟨noDirectory, parent⟩ := moves _ _ rfl
      ⟨oldWritable, newWritable, by simp [notSymlink], by simp [noSymlink], by simp [sourceFound]⟩
      (by simp [free])
    rw [Option.isNone_iff_eq_none] at noDirectory
    refine tree.growFiles ?_ (fun other => count_relocate) rfl rfl parent
    simp [namespaceEntryExists, free, noDirectory, noSymlink]
  | replaced oldWritable newWritable noSymlink found sourceFound foundTarget targetFound =>
    obtain ⟨target, located, same⟩ := exists_of_findIdx? foundTarget
    exact tree.shrinkEntries (fun other => count_replace located (of_decide_eq_true same))
      (fun _ => le_rfl) (fun _ => le_rfl) (Tree.keepsParents (List.Subset.refl _))
  | unlinked =>
    exact tree.shrinkEntries (fun other => count_map_eraseIdx ..) (fun _ => le_rfl)
      (fun _ => le_rfl) (Tree.keepsParents (List.Subset.refl _))
  | unlinkedSymlink =>
    exact tree.shrinkEntries (fun _ => le_rfl) (fun _ => le_rfl)
      (fun other => count_map_eraseIdx ..) (Tree.keepsParents (List.Subset.refl _))
  | stampedDirectory => exact tree.same rfl (map_modify fun _ => rfl) rfl
  | stampedSymlink => exact tree.same rfl rfl (map_modify fun _ => rfl)
  | _ => exact tree.same rfl rfl rfl

/-! ## Runs -/

/-- The old and the new name of a `path_rename`. -/
def Request.renames (request : Request) : Option (Location × Location) :=
  match request.call with
  | .pathRename oldFd oldPath oldLength newFd newPath newLength => do
      let oldName ← pathArgument request.memory oldPath.toNat oldLength.toNat
      let newName ← pathArgument request.memory newPath.toNat newLength.toNat
      return ({ preopenFd := oldFd.toNat, relativePath := oldName },
        { preopenFd := newFd.toNat, relativePath := newName })
  | _ => none

/-- The condition on a step: a file that is moved to a name that no file has, is moved to a
name that no directory has and whose parent exists. -/
def RenamesIntoTree (state : WasiState) (request : Request) : Prop :=
  ∀ move ∈ request.renames, state.filesystem.AdmitsRename move.1 move.2 →
    (state.filesystem.fileAt move.2).isNone = true →
    (state.filesystem.directoryAt move.2).isNone = true ∧
      state.filesystem.parentDirectoryExists move.2 = true

theorem asks_rename {request : Request} {operation : Operation} {old new : Location}
    (asked : operation = .nothing ∨ Asks request.memory request.call operation)
    (renames : operation = .rename old new) : request.renames = some (old, new) := by
  subst renames
  obtain ⟨memory, call⟩ := request
  cases call with
  | pathRename =>
    obtain ⟨oldName, newName, oldNamed, newNamed, same⟩ := asked.resolve_left (by simp)
    cases same
    simp [Request.renames, oldNamed, newNamed]
  | _ => simp [Asks] at asked

theorem afterCall_tree (config : Config) {state : WasiState} (coherent : state.Coherent)
    (tree : state.filesystem.Tree) {request : Request} (meets : RenamesIntoTree state request) :
    (afterCall config state request).filesystem.Tree := by
  obtain ⟨operation, asked, performed⟩ := afterCall_performs config coherent request
  apply performed.effect.tree tree
  intro old new renames admitted free
  exact meets (old, new) (asks_rename asked renames) admitted free

/-- In a run whose renames move files only to names in the tree, the names stay a tree. -/
theorem names_stay_tree {wasi : Preview1} (mounted : Mounted wasi)
    (tree : wasi.state.filesystem.Tree) (requests : List Request)
    (meets : Along RenamesIntoTree wasi.config wasi.state requests) :
    (afterCalls wasi.config wasi.state requests).filesystem.Tree :=
  afterCalls_keeps_along wasi.config (motive := fun state => state.filesystem.Tree)
    (fun _ _ coherent tree meets => afterCall_tree wasi.config coherent tree meets) requests
    mounted.coherent tree meets

theorem workspace_tree : (Preview1.workspace true).state.filesystem.Tree :=
  ⟨by decide, by decide⟩

instance (state : WasiState) (request : Request) : Decidable (RenamesIntoTree state request) :=
  inferInstanceAs (Decidable (∀ move ∈ request.renames, _))

/-- `path_create_directory` of `d`, then `path_rename` of `a` to `b`. -/
theorem names_stay_tree_moved :
    let wasi := Preview1.workspace true
    (afterCalls wasi.config wasi.state
      [fromGuest (.pathCreateDirectory 3 2 1),
        fromGuest (.pathRename 3 0 1 3 1 1)]).filesystem.Tree :=
  names_stay_tree (workspace_mounted true) workspace_tree
    [fromGuest (.pathCreateDirectory 3 2 1), fromGuest (.pathRename 3 0 1 3 1 1)]
    ⟨by decide, by decide, trivial⟩

/-- After `path_rename` of `a` to the name `d` of a directory, two entries have that name;
and after one to `d/a` without a directory `d`, the parent of an entry is missing. -/
theorem rename_leaves_tree :
    let wasi := Preview1.workspace true
    Mounted wasi ∧ wasi.state.filesystem.Tree ∧
      ¬ (afterCalls wasi.config wasi.state
        [fromGuest (.pathCreateDirectory 3 2 1),
          fromGuest (.pathRename 3 0 1 3 2 1)]).filesystem.Tree ∧
      ¬ (afterCalls wasi.config wasi.state
        [fromGuest (.pathRename 3 0 1 3 2 3)]).filesystem.Tree :=
  ⟨workspace_mounted true, workspace_tree, fun tree => absurd tree.unique (by decide),
    fun tree => absurd tree.parents (by decide)⟩

end MiniWasm.Wasi
