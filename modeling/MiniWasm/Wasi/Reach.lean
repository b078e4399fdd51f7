import MiniWasm.Wasi.Below
import MiniWasm.Wasi.Related

/-!
# What calls through a directory reach

A call reaches the locations that its path arguments name, each strictly below the
directory that the path is relative to.  It changes no entry and no file elsewhere, a
descriptor that it opens is one of such an entry, and what it reads out is the same in
every filesystem with the same entries below the directory.  No symbolic link is
followed: what a call finds out about a path is the same in every filesystem with the same
entries at the one location that the path names.
-/

namespace MiniWasm.Wasi

open Library Action MiniWasm.Runtime FilesystemState Callback

/-! ## Named locations -/

/-- The request names the location with a path relative to the descriptor. -/
def Request.Names (request : Request) (state : FilesystemState) (fd : Nat)
    (location : Location) : Prop :=
  ∃ pointer length path base rights, (fd, pointer, length) ∈ request.call.pathArguments ∧
    pathArgument request.memory pointer length = some path ∧
    state.directoryContext fd = some (base, rights) ∧ location = base.at path

/-- The operation names the location. -/
def Operation.Names (operation : Operation) (state : FilesystemState)
    (location : Location) : Prop :=
  ∃ fd path base rights, (fd, path) ∈ operation.places ∧
    state.directoryContext fd = some (base, rights) ∧ location = base.at path

theorem Operation.Names.asked {request : Request} {operation : Operation}
    {state : FilesystemState} {location : Location}
    (asked : operation = .nothing ∨ Asks request.memory request.call operation)
    (names : operation.Names state location) : ∃ fd, request.Names state fd location := by
  obtain ⟨fd, path, base, rights, member, context, same⟩ := names
  obtain ⟨pointer, length, argument, named⟩ := asks_places asked _ member
  exact ⟨fd, pointer, length, path, base, rights, argument, named, context, same⟩

/-! ## Entries -/

/-- The entries at a location. -/
def FilesystemState.entriesAt (state : FilesystemState) (location : Location) :
    List MountedFile × List MountedDirectory × List MountedSymlink :=
  (state.mountedFiles.filter (·.toLocation = location),
    state.mountedDirectories.filter (·.toLocation = location),
    state.mountedSymlinks.filter (·.toLocation = location))

section Entries

variable {state after : FilesystemState} {operation : Operation}

/-- A writable preopen is its own root. -/
theorem writable_context (reserved : state.Reserved) {location : Location}
    (writable : state.isWritablePreopen location.preopenFd = true) :
    ∃ base rights, state.directoryContext location.preopenFd = some (base, rights) ∧
      location = base.at location.relativePath := by
  have preopened : state.hasPreopen location.preopenFd = true := by
    simp only [isWritablePreopen, hasPreopen, decide_eq_true_eq] at writable ⊢
    exact reserved.subset writable
  refine ⟨{ preopenFd := location.preopenFd, relativePath := [] },
    preopenRights (state.isWritablePreopen location.preopenFd), ?_, rfl⟩
  simp [directoryContext, directoryRights, preopened]

/-- A change touches only entries at locations that the operation names. -/
theorem Effect.entriesAt (effect : Effect state operation after) (reserved : state.Reserved)
    {location : Location} (elsewhere : ¬ operation.Names state location) :
    after.entriesAt location = state.entriesAt location := by
  have apart {fd : Nat} {path : Path} {required rights : Rights} {target : Location}
      (member : (fd, path) ∈ operation.places)
      (resolved : state.resolveDirectoryPath fd path required = .ok (target, rights)) :
      decide (target = location) = false := by
    obtain ⟨base, context, same, -⟩ := resolved_at resolved
    apply decide_eq_false
    rintro rfl
    exact elsewhere ⟨fd, path, base, rights, member, context, same⟩
  have apartWritable {target : Location}
      (member : (target.preopenFd, target.relativePath) ∈ operation.places)
      (writable : state.isWritablePreopen target.preopenFd = true) :
      decide (target = location) = false := by
    obtain ⟨base, rights, context, same⟩ := writable_context reserved writable
    apply decide_eq_false
    rintro rfl
    exact elsewhere ⟨_, _, base, rights, member, context, same⟩
  cases effect with
  | opened opens =>
    cases opens with
    | file => rfl
    | directory => rfl
    | created resolved =>
      exact Prod.ext (filter_append_dropped (apart List.mem_cons_self resolved)) rfl
  | createdDirectory resolved =>
    exact Prod.ext rfl
      (Prod.ext (filter_append_dropped (apart List.mem_cons_self resolved)) rfl)
  | createdSymlink resolved =>
    exact Prod.ext rfl
      (Prod.ext rfl (filter_append_dropped (apart List.mem_cons_self resolved)))
  | linked oldResolved newResolved =>
    exact Prod.ext (filter_append_dropped
      (apart (List.mem_cons_of_mem _ List.mem_cons_self) newResolved)) rfl
  | removedDirectory resolved found =>
    obtain ⟨directory, located, same⟩ := exists_of_findIdx? found
    obtain rfl := of_decide_eq_true same
    exact Prod.ext rfl
      (Prod.ext (filter_eraseIdx_dropped located (apart List.mem_cons_self resolved)) rfl)
  | unlinkedSymlink resolved found =>
    obtain ⟨link, located, same⟩ := exists_of_findIdx? found
    obtain rfl := of_decide_eq_true same
    exact Prod.ext rfl
      (Prod.ext rfl (filter_eraseIdx_dropped located (apart List.mem_cons_self resolved)))
  | unlinked resolved found =>
    obtain ⟨file, located, same⟩ := exists_of_findIdx? found
    obtain rfl := of_decide_eq_true same
    exact Prod.ext (filter_eraseIdx_dropped located (apart List.mem_cons_self resolved)) rfl
  | renamed oldWritable newWritable noSymlink found =>
    obtain ⟨file, located, same⟩ := exists_of_findIdx? found
    obtain rfl := of_decide_eq_true same
    exact Prod.ext (filter_modify_dropped located (apartWritable List.mem_cons_self oldWritable)
      (apartWritable (List.mem_cons_of_mem _ List.mem_cons_self) newWritable)) rfl
  | @replaced old new sourceIndex targetIndex links source target oldWritable newWritable
      noSymlink found sourceFound foundTarget =>
    obtain ⟨file, located, same⟩ := exists_of_findIdx? found
    obtain rfl := of_decide_eq_true same
    obtain ⟨replaced, replacedLocated, sameNew⟩ := exists_of_findIdx? foundTarget
    obtain rfl := of_decide_eq_true sameNew
    have oldApart := apartWritable List.mem_cons_self oldWritable
    have newApart := apartWritable (List.mem_cons_of_mem _ List.mem_cons_self) newWritable
    obtain ⟨relocated, inPlace, there⟩ :
        ∃ entry, (relocate state.mountedFiles sourceIndex replaced.toLocation)[targetIndex]? =
          some entry ∧ entry.toLocation = replaced.toLocation := by
      rw [relocate, List.getElem?_modify, replacedLocated]
      refine ⟨_, rfl, ?_⟩
      split_ifs <;> rfl
    have erased : decide (relocated.toLocation = location) = false := by
      rw [there]
      exact newApart
    exact Prod.ext ((filter_eraseIdx_dropped inPlace erased).trans
      (filter_modify_dropped located oldApart newApart)) rfl
  | stampedDirectory resolved found =>
    obtain ⟨directory, located, same⟩ := exists_of_findIdx? found
    obtain rfl := of_decide_eq_true same
    have dropped := apart List.mem_cons_self resolved
    exact Prod.ext rfl (Prod.ext (filter_modify_dropped located dropped dropped) rfl)
  | stampedSymlink resolved found =>
    obtain ⟨link, located, same⟩ := exists_of_findIdx? found
    obtain rfl := of_decide_eq_true same
    have dropped := apart List.mem_cons_self resolved
    exact Prod.ext rfl (Prod.ext rfl (filter_modify_dropped located dropped dropped))
  | _ => rfl

end Entries

/-! ## Files -/

/-- A file with an entry at a location that has the property. -/
def FilesystemState.FileWhere (state : FilesystemState) (property : Location → Prop)
    (file : MountedFile) : Prop :=
  file ∈ state.mountedFiles ∧ property file.toLocation

/-- The cells that existed before are changed only if they belong to such a file. -/
structure KeepsFiles (before after : FilesystemState) (property : Location → Prop) : Prop where
  bytes : ∀ address < before.bytes.size,
    (∀ file, before.FileWhere property file → file.bytes ≠ address) →
    after.bytes.get address = before.bytes.get address
  linkCounts : ∀ address < before.linkCounts.size,
    (∀ file, before.FileWhere property file → file.linkCount ≠ address) →
    after.linkCounts.get address = before.linkCounts.get address
  times : ∀ address < before.times.size,
    (∀ file, before.FileWhere property file → file.times ≠ address) →
    after.times.get address = before.times.get address

section Files

variable {state after : FilesystemState} {operation : Operation} {property : Location → Prop}

theorem KeepsFiles.same (bytes : after.bytes = state.bytes)
    (linkCounts : after.linkCounts = state.linkCounts) (times : after.times = state.times) :
    KeepsFiles state after property := by
  constructor
  · intro address _ _
    rw [bytes]
  · intro address _ _
    rw [linkCounts]
  · intro address _ _
    rw [times]

end Files

/-! ## Descriptors -/

/-- Every descriptor is one that was open before, or one of an entry at a location that has
the property. -/
structure OpensWhere (before after : FilesystemState) (property : Location → Prop) : Prop where
  files : ∀ fd opened, after.openFiles.lookup fd = some opened →
    (∃ old, before.openFiles.lookup fd = some old ∧ old.toFileNode = opened.toFileNode) ∨
      ∃ location file, property location ∧ file ∈ (after.entriesAt location).1 ∧
        opened.toFileNode = file.toFileNode
  directories : ∀ fd opened, after.openDirectories.lookup fd = some opened →
    before.openDirectories.lookup fd = some opened ∨
      ∃ directory, property opened.toLocation ∧
        directory ∈ (after.entriesAt opened.toLocation).2.1 ∧ opened.inode = directory.inode

section Descriptors

variable {state after : FilesystemState} {operation : Operation} {property : Location → Prop}

theorem OpensWhere.kept
    (files : ∀ fd opened, after.openFiles.lookup fd = some opened →
      ∃ old, state.openFiles.lookup fd = some old ∧ old.toFileNode = opened.toFileNode)
    (directories : ∀ fd opened, after.openDirectories.lookup fd = some opened →
      state.openDirectories.lookup fd = some opened) : OpensWhere state after property :=
  ⟨fun fd opened found => .inl (files fd opened found),
    fun fd opened found => .inl (directories fd opened found)⟩

/-- The record of a descriptor is replaced by one of the same file. -/
theorem OpensWhere.replaced {fd : Nat} {file changed : OpenFile}
    (found : state.openFiles.lookup fd = some file)
    (files : after.openFiles = state.openFiles.insert fd changed)
    (directories : after.openDirectories = state.openDirectories)
    (same : file.toFileNode = changed.toFileNode) : OpensWhere state after property := by
  apply OpensWhere.kept
  · intro other opened lookup
    rw [files] at lookup
    rcases lookup_insert_cases lookup with ⟨rfl, rfl⟩ | ⟨-, old⟩
    · exact ⟨file, found, same⟩
    · exact ⟨opened, old, rfl⟩
  · intro other opened lookup
    rwa [directories] at lookup

end Descriptors

/-! ## Reading -/

/-- The entries strictly below a location. -/
def FilesystemState.entriesBelow (state : FilesystemState) (base : Location) :
    List MountedFile × List MountedDirectory × List MountedSymlink :=
  (state.mountedFiles.filter (·.toLocation.StrictlyBelow base),
    state.mountedDirectories.filter (·.toLocation.StrictlyBelow base),
    state.mountedSymlinks.filter (·.toLocation.StrictlyBelow base))

/-- The filesystems have the same descriptors and the same cells of files. -/
structure SameDescriptors (left right : FilesystemState) : Prop where
  reservedPreopens : left.reservedPreopens = right.reservedPreopens
  writablePreopens : left.writablePreopens = right.writablePreopens
  openFiles : left.openFiles = right.openFiles
  openDirectories : left.openDirectories = right.openDirectories
  bytes : left.bytes = right.bytes
  linkCounts : left.linkCounts = right.linkCounts
  times : left.times = right.times

/-- The filesystems have the same descriptors, the same files and the same entries strictly
below the directory of a descriptor. -/
structure AgreeBelow (fd : Nat) (left right : FilesystemState) : Prop
    extends SameDescriptors left right where
  entries : ∀ base rights, right.directoryContext fd = some (base, rights) →
    left.entriesBelow base = right.entriesBelow base

/-- A look-up at the location finds the same. -/
structure SameAt (left right : FilesystemState) (location : Location) : Prop where
  file : left.fileAt location = right.fileAt location
  directory : left.directoryAt location = right.directoryAt location
  symlink : left.symlinkAt location = right.symlinkAt location

section Reading

variable {fd : Nat} {left right : FilesystemState} {base location : Location}

theorem find?_below {α : Type} {entries : List α} {locate : α → Location}
    (below : location.StrictlyBelow base) :
    (entries.filter fun entry => (locate entry).StrictlyBelow base).find?
        (locate · = location) = entries.find? (locate · = location) := by
  rw [List.find?_filter]
  congr 1
  funext entry
  by_cases here : locate entry = location
  · simp [here, below]
  · simp [here]

theorem sameAt_below (entries : left.entriesBelow base = right.entriesBelow base)
    (below : location.StrictlyBelow base) : SameAt left right location := by
  have files := congrArg Prod.fst entries
  have others := congrArg Prod.snd entries
  have directories := congrArg Prod.fst others
  have symlinks := congrArg Prod.snd others
  dsimp only [entriesBelow] at files directories symlinks
  constructor
  · rw [fileAt, ← find?_below below, files, find?_below below, fileAt]
  · rw [directoryAt, ← find?_below below, directories, find?_below below, directoryAt]
  · rw [symlinkAt, ← find?_below below, symlinks, find?_below below, symlinkAt]

namespace SameDescriptors

variable (same : SameDescriptors left right)

include same

theorem hasPreopen (other : Nat) : left.hasPreopen other = right.hasPreopen other := by
  rw [FilesystemState.hasPreopen, same.reservedPreopens, FilesystemState.hasPreopen]

theorem isWritablePreopen (other : Nat) :
    left.isWritablePreopen other = right.isWritablePreopen other := by
  rw [FilesystemState.isWritablePreopen, same.writablePreopens,
    FilesystemState.isWritablePreopen]

theorem directoryContext (other : Nat) :
    left.directoryContext other = right.directoryContext other := by
  simp only [FilesystemState.directoryContext, directoryRights, same.hasPreopen,
    same.isWritablePreopen, same.openDirectories]

theorem resolve (path : Path) (required : Rights) :
    left.resolveDirectoryPath fd path required = right.resolveDirectoryPath fd path required := by
  rw [resolveDirectoryPath, resolveDirectoryPath, same.directoryContext]

/-- What `path_filestat_get` finds out depends on the entries at one location. -/
theorem pathFilestat {path : Path}
    (found : ∀ base rights, right.directoryContext fd = some (base, rights) →
      SameAt left right (base.at path)) :
    left.pathFilestat fd path = right.pathFilestat fd path := by
  unfold FilesystemState.pathFilestat
  rw [same.resolve]
  cases resolved : right.resolveDirectoryPath fd path Rights.pathFilestatGet with
  | error err => rfl
  | ok target =>
    obtain ⟨location, rights⟩ := target
    obtain ⟨base, context, rfl, -⟩ := resolved_at resolved
    obtain ⟨files, directories, symlinks⟩ := found base rights context
    simp only [Except.mapError, bind, Except.bind, files, directories, symlinks, nodeFilestat,
      same.bytes, same.linkCounts, same.times]

end SameDescriptors

/-- `path_readlink` only looks at the state. -/
theorem readlink_eq (fd : Nat) (path : Path) (state : FilesystemState) :
    FilesystemState.readlink fd path state =
      ((state.resolveDirectoryPath fd path Rights.pathReadlink).mapError symlinkResolveError >>=
        fun (location, _) =>
          match state.symlinkAt location with
          | some link => .ok link.target
          | none => .error (if state.namespaceEntryExists location then .notLink else .notFound),
        state) := by
  simp only [FilesystemState.readlink, FilesystemState.resolve, bind, consult]
  cases state.resolveDirectoryPath fd path Rights.pathReadlink with
  | error err => rfl
  | ok found =>
    simp only [Except.mapError, Except.bind, ask, id_eq]
    cases state.symlinkAt found.1 with
    | some link => rfl
    | none => split_ifs <;> rfl

theorem SameDescriptors.readlink (same : SameDescriptors left right) {path : Path}
    (found : ∀ base rights, right.directoryContext fd = some (base, rights) →
      SameAt left right (base.at path)) :
    ∃ result, FilesystemState.readlink fd path left = (result, left) ∧
      FilesystemState.readlink fd path right = (result, right) := by
  rw [readlink_eq, readlink_eq, same.resolve]
  cases resolved : right.resolveDirectoryPath fd path Rights.pathReadlink with
  | error err => exact ⟨_, rfl, rfl⟩
  | ok target =>
    obtain ⟨location, rights⟩ := target
    obtain ⟨base, context, rfl, -⟩ := resolved_at resolved
    obtain ⟨files, directories, symlinks⟩ := found base rights context
    have exists' : left.namespaceEntryExists (base.at path) =
        right.namespaceEntryExists (base.at path) := by
      rw [namespaceEntryExists, namespaceEntryExists, files, directories, symlinks]
    simp only [Except.mapError, bind, Except.bind, symlinks, exists']
    exact ⟨_, rfl, rfl⟩

/-- The name of a child is that of an entry strictly below. -/
theorem relativeToDirectory_below {entry : Location} {remainder : Path}
    (same : entry.preopenFd = base.preopenFd) (nonempty : remainder ≠ [])
    (relative : relativeToDirectory base.relativePath entry.relativePath = some remainder) :
    entry.StrictlyBelow base := by
  rw [(relativeToDirectory_iff same).mp relative]
  exact Location.at_strictlyBelow nonempty

theorem childName_below {entry : Location} {name : Path}
    (child : childName base entry = some name) : entry.StrictlyBelow base := by
  unfold childName at child
  split_ifs at child with same
  unfold immediateChildName at child
  split at child
  · cases child
  · next remainder relative =>
    split_ifs at child with excluded
    exact relativeToDirectory_below same (not_or.mp excluded).1 relative

theorem filterMap_below {α β : Type} {entries : List α} {locate : α → Location}
    {convert : α → Path → β} :
    (entries.filter fun entry => (locate entry).StrictlyBelow base).filterMap
        (fun entry => (childName base (locate entry)).map (convert entry)) =
      entries.filterMap fun entry => (childName base (locate entry)).map (convert entry) := by
  rw [List.filterMap_filter]
  congr 1
  funext entry
  cases child : childName base (locate entry) with
  | none => simp
  | some name => simp [childName_below child]

theorem readdirChildren_below (entries : left.entriesBelow base = right.entriesBelow base) :
    left.readdirChildren base = right.readdirChildren base := by
  have files := congrArg Prod.fst entries
  have others := congrArg Prod.snd entries
  have directories := congrArg Prod.fst others
  have symlinks := congrArg Prod.snd others
  dsimp only [entriesBelow] at files directories symlinks
  unfold readdirChildren
  refine congrArg sortByName (congrArg₂ (· ++ ·) (congrArg₂ (· ++ ·) ?_ ?_) ?_)
  · rw [← filterMap_below, directories, filterMap_below]
  · rw [← filterMap_below, files, filterMap_below]
  · rw [← filterMap_below, symlinks, filterMap_below]

/-- What is left of a valid path below a directory starts with a name. -/
theorem remainder_named {path remainder : Path} {directory : Path} (valid : WellFormed path)
    (relative : relativeToDirectory directory path = some remainder) :
    remainder.takeWhile (· ≠ slash) ≠ [] := by
  have starts : ∀ rest : Path, [] ∉ rest.splitOn slash → rest.takeWhile (· ≠ slash) ≠ [] := by
    intro rest named
    cases rest with
    | nil => simp at named
    | cons first rest =>
      by_cases isSlash : first = slash
      · subst isSlash
        exact absurd List.mem_cons_self
          (by rwa [← List.nil_append (slash :: rest), List.splitOn_append_cons_self] at named)
      · simp [isSlash]
  have safe : [] ∉ components path := fun member => (valid.safe [] member).1 rfl
  apply starts
  unfold relativeToDirectory at relative
  split_ifs at relative with root prefixed
  · cases relative
    rwa [components_of_ne_nil valid.nonempty] at safe
  · obtain ⟨rest, whole⟩ := prefixed
    cases relative
    have split : path = directory ++ slash :: rest := by simpa [directoryPrefix] using whole.symm
    rw [split, components_append root] at safe
    have dropped : path.drop (directory.length + 1) = rest := by
      rw [split, List.append_cons]
      exact List.drop_left' (by simp)
    rw [dropped]
    exact fun member => safe (List.mem_append_right _ member)

/-- Whether a file lacks a directory depends on the entries below. -/
theorem missesDirectory_below (entries : left.entriesBelow base = right.entriesBelow base)
    {file : MountedFile} (valid : WellFormed file.relativePath) :
    left.missesDirectory base file = right.missesDirectory base file := by
  unfold missesDirectory
  cases relative : relativeToDirectory base.relativePath file.relativePath with
  | none => rfl
  | some remainder =>
    have same := (sameAt_below entries
      (@Location.at_strictlyBelow base _ (remainder_named valid relative))).directory
    dsimp only [Location.at] at same ⊢
    rw [same]

/-- Only a file below a directory can lack one. -/
theorem strictlyBelow_of_missesDirectory {file : MountedFile}
    (misses : left.missesDirectory base file = true) : file.toLocation.StrictlyBelow base := by
  unfold missesDirectory at misses
  rw [Bool.and_eq_true, decide_eq_true_eq] at misses
  obtain ⟨same, misses⟩ := misses
  cases relative : relativeToDirectory base.relativePath file.relativePath with
  | none =>
    rw [relative] at misses
    cases misses
  | some remainder =>
    refine relativeToDirectory_below same ?_ relative
    rintro rfl
    rw [relative] at misses
    simp at misses

theorem any_missesDirectory_below (entries : left.entriesBelow base = right.entriesBelow base)
    (valid : right.PathsValid) :
    left.mountedFiles.any (left.missesDirectory base) =
      right.mountedFiles.any (right.missesDirectory base) := by
  have only (state : FilesystemState) : state.mountedFiles.any (state.missesDirectory base) =
      (state.entriesBelow base).1.any (state.missesDirectory base) := by
    rw [entriesBelow, List.any_filter]
    congr 1
    funext file
    cases misses : state.missesDirectory base file with
    | false => simp
    | true => simp [strictlyBelow_of_missesDirectory misses]
  rw [only left, only right, entries]
  rw [Bool.eq_iff_iff, List.any_eq_true, List.any_eq_true]
  refine exists_congr fun file => and_congr_right fun member => ?_
  have stored := (List.mem_filter.mp member).1
  have named : WellFormed file.relativePath := validateGuestPath_iff.mp (valid.entries _
    (List.mem_append_left _ (List.mem_append_left _ (List.mem_map_of_mem stored))))
  rw [missesDirectory_below entries named]

theorem AgreeBelow.readdirSnapshot (agree : AgreeBelow fd left right) (valid : right.PathsValid)
    (cookie : Nat) : left.readdirSnapshot fd cookie = right.readdirSnapshot fd cookie := by
  have context : left.readdirContext fd = right.readdirContext fd := by
    simp only [readdirContext, agree.hasPreopen, agree.isWritablePreopen, agree.openDirectories,
      agree.openFiles]
  unfold FilesystemState.readdirSnapshot
  rw [context]
  cases found : right.readdirContext fd with
  | error err => rfl
  | ok listed =>
    obtain ⟨base, inode, parentInode, rights⟩ := listed
    obtain ⟨granted, directory⟩ : ∃ granted, right.directoryContext fd = some (base, granted) := by
      unfold readdirContext at found
      unfold FilesystemState.directoryContext directoryRights
      by_cases preopened : right.hasPreopen fd = true
      · rw [if_pos preopened] at found
        cases found
        refine ⟨preopenRights (right.isWritablePreopen fd), ?_⟩
        simp only [preopened, if_true, Option.map_some]
      · rw [if_neg preopened] at found
        cases opened : right.openDirectories.lookup fd with
        | none =>
          rw [opened] at found
          dsimp only at found
          split_ifs at found
        | some directory =>
          rw [opened] at found
          cases found
          exact ⟨_, by rw [if_neg preopened]; rfl⟩
    have entries := agree.entries base granted directory
    simp only [bind, Except.bind, any_missesDirectory_below entries valid,
      readdirChildren_below entries]

end Reading

section Calls

variable {fd : Nat} {left right : FilesystemState}

end Calls

/-! ## Confinement -/

theorem KeepsFiles.mono {before after : FilesystemState} {property wider : Location → Prop}
    (keeps : KeepsFiles before after property)
    (widens : ∀ location, property location → wider location) :
    KeepsFiles before after wider := by
  have files {file : MountedFile} (holds : before.FileWhere property file) :
      before.FileWhere wider file :=
    ⟨holds.1, widens _ holds.2⟩
  constructor
  · exact fun address inside others =>
      keeps.bytes address inside fun file holds => others file (files holds)
  · exact fun address inside others =>
      keeps.linkCounts address inside fun file holds => others file (files holds)
  · exact fun address inside others =>
      keeps.times address inside fun file holds => others file (files holds)

theorem OpensWhere.mono {before after : FilesystemState} {property wider : Location → Prop}
    (opens : OpensWhere before after property)
    (widens : ∀ location, property location → wider location) :
    OpensWhere before after wider := by
  constructor
  · intro fd opened found
    refine (opens.files fd opened found).imp id ?_
    rintro ⟨location, file, holds, member, same⟩
    exact ⟨location, file, widens _ holds, member, same⟩
  · intro fd opened found
    refine (opens.directories fd opened found).imp id ?_
    rintro ⟨directory, holds, member, same⟩
    exact ⟨directory, widens _ holds, member, same⟩

end MiniWasm.Wasi
