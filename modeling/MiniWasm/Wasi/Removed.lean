import MiniWasm.Wasi.Descriptors
import MiniWasm.Wasi.Identity

/-!
# Descriptors of directories that have been removed

Nothing is found through the descriptor of a directory that is gone: every call with
a path relative to it is refused, and its listing is empty.
-/

namespace MiniWasm.Wasi

open Library Action MiniWasm.Runtime FilesystemState

/-- A path relative to the descriptor names no entry, and none that could be made. -/
structure FilesystemState.Dangling (state : FilesystemState) (fd : Nat) : Prop where
  notPreopen : state.hasPreopen fd = false
  nothing : ∀ path, ∀ required ∈ Rights.ofPaths, ∀ location rights,
    state.resolveDirectoryPath fd path required = .ok (location, rights) →
    state.namespaceEntryExists location = false ∧ state.parentDirectoryExists location = false

/-! ## Operations -/

section Operations

variable {state : FilesystemState} {fd : Nat} {path : Path}

theorem nothing_at {location : Location} (free : state.namespaceEntryExists location = false) :
    state.fileAt location = none ∧ state.directoryAt location = none ∧
      state.symlinkAt location = none := by
  simpa [namespaceEntryExists, Bool.or_eq_false_iff, and_assoc] using free

theorem findIdx?_of_find?_none {α : Type} {satisfies : α → Bool} {values : List α}
    (missing : values.find? satisfies = none) : values.findIdx? satisfies = none := by
  rw [List.findIdx?_eq_none_iff]
  intro value member
  simpa using List.find?_eq_none.mp missing value member

namespace FilesystemState.Dangling

/-- An operation on a path fails if it fails at a name without an entry and a parent. -/
theorem resolve_fails {ε α : Type} {required : Rights} {convert : ResolveDirectoryError → ε}
    {next : Location × Rights → Action FilesystemState ε α} (dangling : state.Dangling fd)
    (needed : required ∈ Rights.ofPaths)
    (fails : ∀ location rights, state.fileAt location = none → state.directoryAt location = none →
      state.symlinkAt location = none → state.namespaceEntryExists location = false →
      state.parentDirectoryExists location = false → Fails (next (location, rights)) state) :
    Fails (resolve fd path required convert >>= next) state := by
  rw [Fails, meets_bind]
  apply meets_resolve
  · exact fun _ => trivial
  · intro location rights resolved
    obtain ⟨free, noParent⟩ := dangling.nothing path required needed location rights resolved
    obtain ⟨noFile, noDirectory, noSymlink⟩ := nothing_at free
    exact fails location rights noFile noDirectory noSymlink free noParent

theorem openDirectory_fails (dangling : state.Dangling fd) {rightsBase : Rights} :
    Fails (openDirectory fd path rightsBase) state := by
  apply dangling.resolve_fails (by decide)
  intro location rights noFile noDirectory noSymlink free noParent
  simp [meets_ite, noFile, noDirectory, noSymlink]

theorem openFile_fails (dangling : state.Dangling fd) {rightsBase : Rights}
    {options : OpenOptions} : Fails (openFile fd path rightsBase options) state := by
  apply dangling.resolve_fails (by decide)
  intro location rights noFile noDirectory noSymlink free noParent
  rw [Fails, meets_ite]
  refine ⟨fun _ => trivial, fun _ => ?_⟩
  rw [meets_bind]
  apply meets_consults
  · exact fun _ => trivial
  · intro candidate allocated
    simp [meets_ite, noFile, noDirectory, noSymlink, noParent, entryToOpen, createFile]

theorem createDirectory_fails (dangling : state.Dangling fd) :
    Fails (createDirectory fd path) state := by
  apply dangling.resolve_fails (by decide)
  intro location rights noFile noDirectory noSymlink free noParent
  simp [meets_ite, noParent]

theorem removeDirectory_fails (dangling : state.Dangling fd) :
    Fails (removeDirectory fd path) state := by
  apply dangling.resolve_fails (by decide)
  intro location rights noFile noDirectory noSymlink free noParent
  simp [noFile, noSymlink, findIdx?_of_find?_none noDirectory]

theorem symlink_fails (dangling : state.Dangling fd) {target : Path} :
    Fails (symlink fd path target) state := by
  apply dangling.resolve_fails (by decide)
  intro location rights noFile noDirectory noSymlink free noParent
  simp [meets_ite, noParent]

theorem readlink_fails (dangling : state.Dangling fd) : Fails (readlink fd path) state := by
  apply dangling.resolve_fails (by decide)
  intro location rights noFile noDirectory noSymlink free noParent
  simp [noSymlink, free]

theorem unlink_fails (dangling : state.Dangling fd) : Fails (unlink fd path) state := by
  apply dangling.resolve_fails (by decide)
  intro location rights noFile noDirectory noSymlink free noParent
  simp [noFile, findIdx?_of_find?_none noFile, findIdx?_of_find?_none noSymlink]

theorem pathSetTimes_fails (dangling : state.Dangling fd) {update : TimeUpdate} :
    Fails (pathSetTimes fd path update) state := by
  apply dangling.resolve_fails (by decide)
  intro location rights noFile noDirectory noSymlink free noParent
  simp [noFile, findIdx?_of_find?_none noDirectory, findIdx?_of_find?_none noSymlink]

theorem pathFilestat_fails (dangling : state.Dangling fd) (stat : DescriptorFilestat) :
    state.pathFilestat fd path ≠ .ok stat := by
  unfold pathFilestat
  cases resolved : state.resolveDirectoryPath fd path Rights.pathFilestatGet with
  | error err => simp [Except.mapError, bind, Except.bind]
  | ok result =>
    obtain ⟨location, rights⟩ := result
    obtain ⟨free, -⟩ := dangling.nothing path _ (by decide) location rights resolved
    obtain ⟨noFile, noDirectory, noSymlink⟩ := nothing_at free
    simp [Except.mapError, bind, Except.bind, noFile, noDirectory, noSymlink]

theorem link_fails {oldFd newFd : Nat} {oldPath newPath : Path}
    (dangling : state.Dangling oldFd ∨ state.Dangling newFd) :
    Fails (link oldFd oldPath newFd newPath) state := by
  rw [Fails, link, meets_bind]
  apply meets_resolve
  · exact fun _ => trivial
  · intro old oldRights oldResolved
    rw [meets_bind]
    apply meets_resolve
    · exact fun _ => trivial
    · intro new newRights newResolved
      have missing : state.fileAt old = none ∨ state.parentDirectoryExists new = false := by
        rcases dangling with oldDangling | newDangling
        · exact .inl (nothing_at (oldDangling.nothing _ _ (by decide) _ _ oldResolved).1).1
        · exact .inr (newDangling.nothing _ _ (by decide) _ _ newResolved).2
      rcases missing with noFile | noParent
      · simp [meets_ite, noFile]
      · simp [meets_ite, noParent]

end FilesystemState.Dangling

end Operations

/-! ## Calls -/

/-- The descriptors that the paths of a call are relative to. -/
def Call.directories : Call → List Nat
  | .pathCreateDirectory dirFd .. | .pathRemoveDirectory dirFd .. | .pathSymlink _ _ dirFd ..
  | .pathReadlink dirFd .. | .pathFilestatGet dirFd .. | .pathFilestatSetTimes dirFd ..
  | .pathOpen dirFd .. | .pathUnlinkFile dirFd .. => [dirFd.toNat]
  | .pathLink oldFd _ _ _ newFd .. | .pathRename oldFd _ _ newFd .. =>
      [oldFd.toNat, newFd.toNat]
  | _ => []

section Calls

variable {host : Host} {α : Type}

theorem onFilesystem_fails {ε : Type} {convert : ε → Failure}
    {action : Action FilesystemState ε α} (fails : Fails action host.state.filesystem) :
    Fails (Callback.onFilesystem convert action) host := by
  rw [Fails, Callback.onFilesystem, meets_zoom]
  exact fails

/-- A callback whose first part is refused, or finds what makes the rest fail. -/
theorem refused_fails {β : Type} {first : Callback α} {next : α → Callback β}
    (meets : Meets (Refused host) (fun value after => Fails (next value) after) first host) :
    Fails (first >>= next) host := by
  rw [Fails, meets_bind]
  exact meets.mono (fun _ _ _ => trivial) fun _ _ fails => fails

theorem bind_fails {β : Type} {first : Callback α} {next : α → Callback β}
    (fails : Fails first host) : Fails (first >>= next) host := by
  rw [Fails, meets_bind]
  exact fails.mono (fun _ _ _ => trivial) fun _ _ impossible => impossible.elim

/-- A callback that reads a path first. -/
theorem readPath_fails {pointer length : Nat} {next : Path → Callback α}
    (fails : ∀ path, Fails (next path) host) :
    Fails (Callback.readPath pointer length >>= next) host := by
  exact refused_fails (readPath_meets Refused.denies fun path _ => fails path)

theorem openRequested_fails {fd : Nat} {path : Path} {request : Callbacks.OpenRequest}
    (dangling : host.state.filesystem.Dangling fd) :
    Fails (Callbacks.openRequested fd path request) host := by
  unfold Callbacks.openRequested
  rw [Fails, meets_ite, meets_ite]
  refine ⟨fun _ => ⟨fun _ => trivial, fun _ => ?_⟩, fun _ => ?_⟩
  · exact onFilesystem_fails dangling.openDirectory_fails
  · exact onFilesystem_fails dangling.openFile_fails

/-- No call on a path relative to the descriptor of a directory that is gone succeeds. -/
theorem run_fails (config : Config) {request : Request} {state : WasiState} {fd : Nat}
    (dangling : state.filesystem.Dangling fd) (relative : fd ∈ request.call.directories) :
    Fails (request.call.run config) (request.host state) := by
  obtain ⟨memory, call⟩ := request
  cases call with
  | pathCreateDirectory dirFd path length =>
    rw [List.mem_singleton.mp relative] at dangling
    exact readPath_fails fun path => onFilesystem_fails dangling.createDirectory_fails
  | pathRemoveDirectory dirFd path length =>
    rw [List.mem_singleton.mp relative] at dangling
    exact readPath_fails fun path => onFilesystem_fails dangling.removeDirectory_fails
  | pathSymlink target targetLength dirFd path length =>
    rw [List.mem_singleton.mp relative] at dangling
    simp only [Fails, Call.run, Callbacks.pathSymlink, meets_ite]
    refine ⟨fun _ => trivial, fun _ => ?_⟩
    apply refused_fails
    apply readMemory_meets Refused.denies
    intro memory found checked
    exact readPath_fails fun path => onFilesystem_fails dangling.symlink_fails
  | pathReadlink dirFd path length buf bufLength bufUsed =>
    rw [List.mem_singleton.mp relative] at dangling
    exact readPath_fails fun path => bind_fails (onFilesystem_fails dangling.readlink_fails)
  | pathFilestatGet dirFd flags path length filestat =>
    rw [List.mem_singleton.mp relative] at dangling
    apply refused_fails
    apply Callbacks.checkLookupFlags_meets
    apply readPath_fails
    intro name
    apply bind_fails
    apply meets_consult_mapError
    · exact fun _ _ => trivial
    · intro stat found
      exact dangling.pathFilestat_fails stat found
  | pathFilestatSetTimes dirFd flags path length atim mtim fstFlags =>
    rw [List.mem_singleton.mp relative] at dangling
    apply refused_fails
    apply Callbacks.checkLookupFlags_meets
    apply refused_fails
    apply Callbacks.timeUpdate_meets
    intro update
    exact readPath_fails fun name => onFilesystem_fails dangling.pathSetTimes_fails
  | pathOpen dirFd dirFlags path length openFlags rightsBase inheriting fdFlags openedFd =>
    rw [List.mem_singleton.mp relative] at dangling
    rw [Fails, Call.run, Callbacks.pathOpen, Callback.askFilesystem, meets_bind, meets_ask,
      meets_ite]
    refine ⟨fun _ => trivial, fun _ => ?_⟩
    apply refused_fails
    apply Callbacks.checkOpen_meets
    intro open' noInheriting base directory within truncates flags
    apply readPath_fails
    intro name
    apply refused_fails
    apply preflight_meets Refused.denies rfl
    intro covers
    exact bind_fails (openRequested_fails dangling)
  | pathLink oldFd oldFlags oldPath oldLength newFd newPath newLength =>
    rw [Call.directories, List.mem_pair] at relative
    simp only [Fails, Call.run, Callbacks.pathLink, Callback.askFilesystem, meets_bind,
      meets_ask, meets_ite]
    refine ⟨fun _ => trivial, fun _ => ⟨fun _ => trivial, fun _ => ?_⟩⟩
    apply (readPaths_meets Refused.denies fun oldName newName oldNamed newNamed => ?_).mono
      (fun _ _ _ => trivial) fun _ _ fails => fails
    apply onFilesystem_fails
    apply FilesystemState.Dangling.link_fails
    rcases relative with rfl | rfl
    · exact .inl dangling
    · exact .inr dangling
  | pathRename oldFd oldPath oldLength newFd newPath newLength =>
    have noPreopen := dangling.notPreopen
    rw [Call.directories, List.mem_pair] at relative
    simp only [Fails, Call.run, Callbacks.pathRename, Callback.askFilesystem, meets_bind,
      meets_ask, meets_ite]
    refine ⟨fun _ => trivial, fun both => absurd ?_ both⟩
    rcases relative with rfl | rfl
    · exact .inl (by simpa [Request.host] using noPreopen)
    · exact .inr (by simpa [Request.host] using noPreopen)
  | pathUnlinkFile dirFd path length =>
    rw [List.mem_singleton.mp relative] at dangling
    rw [Fails, Call.run, Callbacks.pathUnlinkFile, Callback.askFilesystem, meets_bind, meets_ask,
      meets_ite]
    refine ⟨fun _ => trivial, fun _ => ?_⟩
    exact readPath_fails fun name => onFilesystem_fails dangling.unlink_fails
  | _ => cases relative

end Calls

/-! ## Directories that are gone -/

section Gone

variable {state : FilesystemState} {fd : Nat} {opened : OpenDirectory}

theorem FilesystemState.Gone.dangling (gone : state.Gone opened.toLocation)
    (named : opened.relativePath ≠ []) (separate : Separate state)
    (found : state.openDirectories.lookup fd = some opened) : state.Dangling fd where
  notPreopen := separate.notPreopen found
  nothing path required _ location rights resolved := by
    obtain ⟨base, atBase, samePreopen, joined⟩ := resolved_location resolved
    rw [directoryContext_opened separate found, Option.some.injEq, Prod.mk.injEq] at atBase
    obtain ⟨rfl, -⟩ := atBase
    have below : location.isBelow opened.toLocation = true := by
      rw [isBelow_iff]
      refine ⟨samePreopen, path, ?_⟩
      rw [joined, joinRelative, if_neg named]
      simp [directoryPrefix]
    constructor
    · by_contra taken
      rw [Bool.not_eq_false, namespaceEntryExists_iff] at taken
      rw [gone.empty location taken] at below
      cases below
    · by_contra parent
      rw [Bool.not_eq_false] at parent
      rw [gone.not_isBelow named parent] at below
      cases below

/-- No path can be used with a descriptor that holds none of the rights. -/
theorem dangling_of_not_reaching (powerless : ¬ opened.CanReach) (separate : Separate state)
    (found : state.openDirectories.lookup fd = some opened) : state.Dangling fd where
  notPreopen := separate.notPreopen found
  nothing path required needed location rights resolved := by
    rw [resolveDirectoryPath, directoryContext_opened separate found] at resolved
    dsimp only at resolved
    split_ifs at resolved with lacks
    exact absurd (.inl ⟨required, needed, not_not.mp lacks⟩) powerless

theorem readdirSnapshot_not_reaching (powerless : ¬ opened.CanReach) (separate : Separate state)
    (found : state.openDirectories.lookup fd = some opened) {cookie : Nat}
    {entries : List ReaddirEntry} : state.readdirSnapshot fd cookie ≠ .ok entries := by
  have lacks : opened.rightsBase &&& Rights.fdReaddir = 0 :=
    not_not.mp fun holds => powerless (.inr holds)
  have context : state.readdirContext fd =
      .ok (opened.toLocation, opened.inode, opened.parentInode, opened.rightsBase) := by
    simp [readdirContext, separate.notPreopen found, found]
  rw [FilesystemState.readdirSnapshot, context, ok_bind]
  dsimp only
  rw [if_pos lacks]
  exact nofun

theorem childName_none {base entry : Location} (named : base.relativePath ≠ [])
    (notBelow : entry.isBelow base = false) : childName base entry = none := by
  unfold childName
  split_ifs with samePreopen
  · have notPrefix : ¬ directoryPrefix base.relativePath <+: entry.relativePath := by
      intro below
      rw [isBelow_iff.mpr ⟨samePreopen, below⟩] at notBelow
      cases notBelow
    simp [immediateChildName, relativeToDirectory, named, notPrefix]
  · rfl

theorem FilesystemState.Gone.readdirChildren (gone : state.Gone opened.toLocation)
    (named : opened.relativePath ≠ []) : state.readdirChildren opened.toLocation = [] := by
  have missing : ∀ entry ∈ state.locations, childName opened.toLocation entry = none :=
    fun entry member => childName_none named (gone.empty entry member)
  have directories : state.mountedDirectories.filterMap (fun directory =>
      (childName opened.toLocation directory.toLocation).map
        (·, directory.inode, FileType.directory)) = [] := by
    rw [List.filterMap_eq_nil_iff]
    intro directory member
    rw [missing directory.toLocation
      (List.mem_append_left _ (List.mem_append_right _ (List.mem_map_of_mem member)))]
    rfl
  have files : state.mountedFiles.filterMap (fun file =>
      (childName opened.toLocation file.toLocation).map
        (·, file.inode, FileType.regularFile)) = [] := by
    rw [List.filterMap_eq_nil_iff]
    intro file member
    rw [missing file.toLocation
      (List.mem_append_left _ (List.mem_append_left _ (List.mem_map_of_mem member)))]
    rfl
  have symlinks : state.mountedSymlinks.filterMap (fun link =>
      (childName opened.toLocation link.toLocation).map
        (·, link.inode, FileType.symbolicLink)) = [] := by
    rw [List.filterMap_eq_nil_iff]
    intro link member
    rw [missing link.toLocation (List.mem_append_right _ (List.mem_map_of_mem member))]
    rfl
  rw [FilesystemState.readdirChildren, directories, files, symlinks]
  rfl

/-- The listing of a directory that is gone has no children. -/
theorem FilesystemState.Gone.readdirSnapshot (gone : state.Gone opened.toLocation)
    (named : opened.relativePath ≠ []) (separate : Separate state)
    (found : state.openDirectories.lookup fd = some opened) {cookie : Nat}
    {entries : List ReaddirEntry} (lists : state.readdirSnapshot fd cookie = .ok entries) :
    ∀ entry ∈ entries, entry.name = [dot] ∨ entry.name = [dot, dot] := by
  have context : state.readdirContext fd =
      .ok (opened.toLocation, opened.inode, opened.parentInode, opened.rightsBase) := by
    simp [readdirContext, separate.notPreopen found, found]
  rw [FilesystemState.readdirSnapshot, context] at lists
  simp only [ok_bind] at lists
  split_ifs at lists
  rw [gone.readdirChildren named] at lists
  cases lists
  intro entry member
  have listed := List.mem_of_mem_drop member
  simp only [List.mapIdx_nil, List.mem_cons, List.not_mem_nil, or_false] at listed
  rcases listed with rfl | rfl
  · exact .inl rfl
  · exact .inr rfl

end Gone

/-! ## Runs -/

/-- What the descriptor of a directory refers to: the directory that it was opened on, or
nothing.  A directory at the path of one that has been removed can be another one only where
the descriptor holds no right to find it. -/
inductive Refers (config : Config) (state : WasiState) (fd : Nat) (opened : OpenDirectory) :
    Prop where
  | same {directory : MountedDirectory}
      (found : state.filesystem.directoryAt opened.toLocation = some directory)
      (inode : directory.inode = opened.inode) : Refers config state fd opened
  | nothing (removed : ∀ directory,
        state.filesystem.directoryAt opened.toLocation = some directory →
          ¬ opened.CanReach ∧ directory.inode ≠ opened.inode)
      (refused : ∀ request : Request, fd ∈ request.call.directories →
        (respond config state request).1 ≠ .ok ())
      (empty : ∀ cookie entries, state.filesystem.readdirSnapshot fd cookie = .ok entries →
        ∀ entry ∈ entries, entry.name = [dot] ∨ entry.name = [dot, dot]) :
      Refers config state fd opened

/-- Where a `path_create_directory` makes a directory. -/
def Request.directoryToMake (state : FilesystemState) (request : Request) : Option Location :=
  match request.call with
  | .pathCreateDirectory dirFd path length => do
      let name ← pathArgument request.memory path.toNat length.toNat
      state.directoryToMake dirFd.toNat name
  | _ => none

/-- The condition on a step: at the path of a directory that is gone but open, with a right
to find something, no directory is made, and no file is moved to a name below that path. -/
def LeavesGone (state : WasiState) (request : Request) : Prop :=
  ∀ opened ∈ state.filesystem.openedDirectories,
    (state.filesystem.directoryAt opened.toLocation).isNone = true → opened.CanReach →
    request.directoryToMake state.filesystem ≠ some opened.toLocation ∧
      ∀ move ∈ request.renames, state.filesystem.AdmitsRename move.1 move.2 →
        (state.filesystem.fileAt move.2).isNone = true →
        move.2.isBelow opened.toLocation = false

instance (state : WasiState) (request : Request) : Decidable (LeavesGone state request) :=
  inferInstanceAs (Decidable (∀ opened ∈ state.filesystem.openedDirectories, _ → _ → _ ∧
    ∀ move ∈ request.renames, _))

theorem pathArgument_ne_nil {memory : Option LinearMemory} {pointer length : Nat} {path : Path}
    (named : pathArgument memory pointer length = some path) : path ≠ [] := by
  obtain ⟨memory, -, named⟩ := Option.bind_eq_some_iff.mp named
  cases checked : memory.checkedHostRange pointer length with
  | error err => simp [checked] at named
  | ok start =>
    simp only [checked] at named
    split_ifs at named with refused
    cases named
    rintro empty
    apply refused
    rw [empty]
    exact .inr (by decide)

theorem asks_createDirectory {request : Request} {operation : Operation} {fd : Nat} {path : Path}
    (asked : operation = .nothing ∨ Asks request.memory request.call operation)
    (creates : operation = .createDirectory fd path) :
    path ≠ [] ∧ ∀ state : FilesystemState,
      request.directoryToMake state = state.directoryToMake fd path := by
  subst creates
  obtain ⟨memory, call⟩ := request
  cases call with
  | pathCreateDirectory =>
    obtain ⟨name, named, same⟩ := asked.resolve_left (by simp)
    cases same
    exact ⟨pathArgument_ne_nil named, fun state => by simp [Request.directoryToMake, named]⟩
  | _ => simp [Asks] at asked

theorem directoryAt_isNone {state : FilesystemState} {location : Location}
    (missing : location ∉ state.mountedDirectories.map (·.toLocation)) :
    (state.directoryAt location).isNone = true := by
  rw [← directoryAt_isSome] at missing
  simpa using missing

theorem afterCall_identified (config : Config) {state : WasiState} (coherent : state.Coherent)
    (identified : state.filesystem.Identified) {request : Request}
    (leaves : LeavesGone state request) :
    (afterCall config state request).filesystem.Identified := by
  obtain ⟨operation, asked, performed⟩ := afterCall_performs config coherent request
  apply performed.effect.identified identified
  · intro fd path creates
    exact (asks_createDirectory asked creates).1
  · intro fd path location creates makes opened member reaches gone same
    apply (leaves opened member (directoryAt_isNone gone.noDirectory) reaches).1
    rw [(asks_createDirectory asked creates).2, makes, same]
  · intro old new renames admitted free opened member reaches gone
    exact (leaves opened member (directoryAt_isNone gone.noDirectory) reaches).2 (old, new)
      (asks_rename asked renames) admitted free

theorem FilesystemState.Identified.refers {state : WasiState}
    (identified : state.filesystem.Identified) (separate : Separate state.filesystem)
    (config : Config) {fd : Nat} {opened : OpenDirectory}
    (found : state.filesystem.openDirectories.lookup fd = some opened) :
    Refers config state fd opened := by
  obtain ⟨named, refers⟩ := identified.opened opened (mem_openedDirectories found)
  by_cases reaches : opened.CanReach
  · rcases refers reaches with current | gone
    · obtain ⟨directory, member, identity⟩ := List.mem_map.mp current
      have located : directory.toLocation = opened.toLocation := congrArg Prod.fst identity
      have known : (state.filesystem.directoryAt directory.toLocation).isSome = true :=
        directoryAt_isSome.mpr (List.mem_map_of_mem member)
      rw [located] at known
      obtain ⟨other, otherFound⟩ := Option.isSome_iff_exists.mp known
      have sameLocation : other.toLocation = opened.toLocation := by
        simpa using List.find?_some otherFound
      have sameDirectory : other = directory :=
        List.inj_on_of_nodup_map identified.distinct (List.mem_of_find?_eq_some otherFound) member
          (sameLocation.trans located.symm)
      exact .same otherFound (sameDirectory ▸ congrArg Prod.snd identity)
    · have dangling := gone.dangling named separate found
      have missing := Option.isNone_iff_eq_none.mp (directoryAt_isNone gone.noDirectory)
      refine .nothing (fun directory present => ?_) ?_ ?_
      · cases missing.symm.trans present
      · intro request relative
        exact (run_fails config dangling relative).not_ok ()
      · intro cookie entries lists
        exact gone.readdirSnapshot named separate found lists
  · by_cases current : ∃ directory,
      state.filesystem.directoryAt opened.toLocation = some directory ∧
        directory.inode = opened.inode
    · obtain ⟨directory, present, inode⟩ := current
      exact .same present inode
    · refine .nothing (fun directory present => ⟨reaches, fun inode => ?_⟩) ?_ ?_
      · exact current ⟨directory, present, inode⟩
      · intro request relative
        have dangling := dangling_of_not_reaching reaches separate found
        exact (run_fails config dangling relative).not_ok ()
      · intro cookie entries lists
        exact (readdirSnapshot_not_reaching reaches separate found lists).elim

theorem Mounted.identified {wasi : Preview1} (mounted : Mounted wasi) :
    wasi.state.filesystem.Identified := by
  have noDirectory : wasi.state.filesystem.mountedDirectories = [] := by
    apply mounted.keeps (motive := fun state => state.mountedDirectories = [])
    · rfl
    · exact fun _ _ _ empty => empty
    · intro state after location bytes writable empty mounts
      rw [(mountFile_ok mounts).1]
      exact empty
  constructor
  · rw [noDirectory]
    exact List.nodup_nil
  · rw [noDirectory]
    exact fun directory member => absurd member List.not_mem_nil
  · rw [openedDirectories, mounted.configured.noOpenDirectory]
    exact fun directory member => absurd member List.not_mem_nil

/-- In a run that makes no directory at the path of a directory that is gone but open with a
right to find something, and moves no file below it, every directory descriptor refers to
the directory that it was opened on, or to nothing. -/
theorem directories_keep_identity {wasi : Preview1} (mounted : Mounted wasi)
    (requests : List Request) (leaves : Along LeavesGone wasi.config wasi.state requests)
    (fd : Nat) (opened : OpenDirectory)
    (found : (afterCalls wasi.config wasi.state requests).filesystem.openDirectories.lookup fd =
      some opened) :
    Refers wasi.config (afterCalls wasi.config wasi.state requests) fd opened := by
  have kept := afterCalls_keeps_along wasi.config
    (motive := fun state => state.filesystem.Identified ∧ Separate state.filesystem)
    (by
      intro state request coherent holds meets
      obtain ⟨operation, asked, performed⟩ :=
        afterCall_performs wasi.config coherent request
      exact ⟨afterCall_identified wasi.config coherent holds.1 meets,
        performed.effect.separate holds.2⟩)
    requests mounted.coherent ⟨mounted.identified, mounted.separate⟩ leaves
  exact kept.1.refers kept.2 wasi.config found

/-- `path_create_directory` of `d`, `path_open` of it with all rights that a directory can
have, and `path_remove_directory`. -/
def removeOpenDirectory : List Request :=
  [fromGuest (.pathCreateDirectory 3 2 1),
    fromGuest (.pathOpen 3 0 2 1 2 Rights.allowedDirectoryBase 0 0 16),
    fromGuest (.pathRemoveDirectory 3 2 1)]

theorem directories_keep_identity_removed :
    let wasi := Preview1.workspace true
    ∀ fd opened, (afterCalls wasi.config wasi.state
        removeOpenDirectory).filesystem.openDirectories.lookup fd = some opened →
      Refers wasi.config (afterCalls wasi.config wasi.state removeOpenDirectory) fd opened :=
  directories_keep_identity (workspace_mounted true) removeOpenDirectory
    ⟨by decide, by decide, by decide, trivial⟩

/-- A second directory `d` takes the place of the one that the descriptor was opened on,
and a directory can be made in it through that descriptor. -/
theorem recreated_directory_is_reached :
    let wasi := Preview1.workspace true
    let state := afterCalls wasi.config wasi.state
      (removeOpenDirectory ++ [fromGuest (.pathCreateDirectory 3 2 1)])
    Mounted wasi ∧
      (∃ opened, state.filesystem.openDirectories.lookup 4 = some opened ∧
        ¬ Refers wasi.config state 4 opened) ∧
      (respond wasi.config state (fromGuest (.pathCreateDirectory 4 0 1))).1 = .ok () := by
  refine ⟨workspace_mounted true, ⟨_, rfl, ?_⟩, by decide⟩
  intro refers
  cases refers with
  | same found inode =>
    have different := congrArg (Option.map MountedDirectory.inode) found
    rw [Option.map_some, inode] at different
    exact absurd different (by decide)
  | nothing removed =>
    exact (removed _ rfl).1 (.of_rights rfl)

end MiniWasm.Wasi
