import Mathlib.Data.Set.Lattice
import Mathlib.Order.Bounds.Defs
import Mathlib.Order.CompletePartialOrder
import MiniWasm.Wasi.Closing

/-!
# Descriptor numbers and limits

Every number belongs to at most one kind of descriptor, and an open gets the lowest
dynamic number that belongs to none.  The limits on descriptors, entries and bytes hold
in every state that calls lead to, so the search for a number always finds one while a
descriptor may still be opened.
-/

namespace MiniWasm.Wasi

open Library Action Callback MiniWasm.Runtime FilesystemState

/-! ## Limits -/

/-- What a filesystem may hold. -/
structure FilesystemState.WithinLimits (state : FilesystemState) : Prop where
  descriptors : state.openFiles.keys.length + state.openDirectories.keys.length ≤ maxOpenFiles
  entries : state.namespaceEntryCount ≤ maxMountedFiles
  contents : ∀ address, (state.bytes.get address).length ≤ maxFileBytes

theorem contents_set {bytes : Arena (List UInt8)} {address : Nat} {changed : List UInt8}
    (contents : ∀ other, (bytes.get other).length ≤ maxFileBytes)
    (bounded : changed.length ≤ maxFileBytes) (other : Nat) :
    ((bytes.set address changed).get other).length ≤ maxFileBytes := by
  rw [Arena.get_set]
  split_ifs
  · exact bounded
  · exact contents other

theorem contents_alloc {bytes : Arena (List UInt8)} {initial : List UInt8}
    (contents : ∀ other, (bytes.get other).length ≤ maxFileBytes)
    (bounded : initial.length ≤ maxFileBytes) (other : Nat) :
    ((bytes.alloc initial).2.get other).length ≤ maxFileBytes := by
  rw [Arena.get_alloc]
  split_ifs
  · exact bounded
  · exact contents other

/-- A number is only handed out while there is room for one more descriptor. -/
theorem allocateDynamicFd_room {state : FilesystemState} {fd : Nat}
    (allocated : state.allocateDynamicFd = .ok fd) :
    state.openFiles.keys.length + state.openDirectories.keys.length < maxOpenFiles := by
  unfold allocateDynamicFd at allocated
  split_ifs at allocated with full
  omega

section Limits

variable {before after : FilesystemState} {operation : Operation}

theorem Opened.withinLimits {fd : Nat} (opens : Opened before operation fd after)
    (limits : before.WithinLimits) : after.WithinLimits := by
  obtain ⟨descriptors, entries, contents⟩ := limits
  have emptied : ([] : List UInt8).length ≤ maxFileBytes := Nat.zero_le _
  cases opens with
  | file resolved allocated found admitted truncated =>
    have unused := allocateDynamicFd_ok allocated
    have room := allocateDynamicFd_room allocated
    refine ⟨?_, entries, ?_⟩
    · dsimp only
      rw [length_keys_insert_fresh unused.noFile]
      omega
    · rcases truncated with rfl | ⟨rfl, -⟩
      · exact contents
      · exact contents_set contents emptied
  | created resolved allocated create mayCreate free parent writable truncated entryRoom =>
    have unused := allocateDynamicFd_ok allocated
    have room := allocateDynamicFd_room allocated
    refine ⟨?_, ?_, ?_⟩
    · simp only [withFreshCells]
      rw [length_keys_insert_fresh unused.noFile]
      omega
    · simp only [namespaceEntryCount, withFreshCells, List.length_append,
        List.length_singleton] at entryRoom ⊢
      omega
    · rcases truncated with rfl | rfl
      · exact contents_alloc contents emptied
      · exact contents_set (contents_alloc contents emptied) emptied
  | directory resolved attenuated found parent allocated =>
    have unused := allocateDynamicFd_ok allocated
    have room := allocateDynamicFd_room allocated
    refine ⟨?_, entries, contents⟩
    dsimp only
    rw [length_keys_insert_fresh unused.noDirectory]
    omega

/-- A change that adds no entry keeps their number within the limit. -/
theorem entries_fewer (entries : before.namespaceEntryCount ≤ maxMountedFiles)
    (files : after.mountedFiles.length ≤ before.mountedFiles.length)
    (directories : after.mountedDirectories.length ≤ before.mountedDirectories.length)
    (symlinks : after.mountedSymlinks.length ≤ before.mountedSymlinks.length) :
    after.namespaceEntryCount ≤ maxMountedFiles :=
  (Nat.add_le_add (Nat.add_le_add files directories) symlinks).trans entries

/-- No change takes the filesystem past its limits. -/
theorem Effect.withinLimits (effect : Effect before operation after)
    (limits : before.WithinLimits) : after.WithinLimits := by
  obtain ⟨descriptors, entries, contents⟩ := limits
  have emptied : ([] : List UInt8).length ≤ maxFileBytes := Nat.zero_le _
  cases effect with
  | unchanged => exact ⟨descriptors, entries, contents⟩
  | abandoned => exact ⟨descriptors, entries, contents_alloc contents emptied⟩
  | opened opens => exact opens.withinLimits ⟨descriptors, entries, contents⟩
  | closed =>
    refine ⟨?_, entries, contents⟩
    rw [length_keys_erase, length_keys_erase]
    omega
  | createdDirectory resolved free parent room =>
    refine ⟨descriptors, ?_, contents⟩
    simp only [namespaceEntryCount, List.length_append, List.length_singleton] at room ⊢
    omega
  | removedDirectory =>
    exact ⟨descriptors,
      entries_fewer entries le_rfl (List.eraseIdx_sublist ..).length_le le_rfl, contents⟩
  | createdSymlink resolved free parent room =>
    refine ⟨descriptors, ?_, contents⟩
    simp only [namespaceEntryCount, List.length_append, List.length_singleton] at room ⊢
    omega
  | linked oldResolved newResolved free parent found room =>
    refine ⟨descriptors, ?_, contents⟩
    simp only [namespaceEntryCount, List.length_append, List.length_singleton] at room ⊢
    omega
  | renamed =>
    exact ⟨descriptors, entries_fewer entries (List.length_modify ..).le le_rfl le_rfl, contents⟩
  | replaced =>
    refine ⟨descriptors, entries_fewer entries ?_ le_rfl le_rfl, contents⟩
    exact (List.eraseIdx_sublist ..).length_le.trans (List.length_modify ..).le
  | unlinked =>
    exact ⟨descriptors,
      entries_fewer entries (List.eraseIdx_sublist ..).length_le le_rfl le_rfl, contents⟩
  | unlinkedSymlink =>
    exact ⟨descriptors,
      entries_fewer entries le_rfl le_rfl (List.eraseIdx_sublist ..).length_le, contents⟩
  | contents subject found mayMutate bounded =>
    refine ⟨?_, entries, ?_⟩
    · rwa [length_keys_insert found]
    · exact contents_set contents (bounded.trans (Nat.max_le.mpr ⟨contents _, le_rfl⟩))
  | resized subject found mayMutate bounded =>
    exact ⟨descriptors, entries,
      contents_set contents (bounded.trans (Nat.max_le.mpr ⟨contents _, le_rfl⟩))⟩
  | described subject found =>
    refine ⟨?_, entries, contents⟩
    simp only [setOpenFile]
    rwa [length_keys_insert found]
  | stamped => exact ⟨descriptors, entries, contents⟩
  | stampedFile => exact ⟨descriptors, entries, contents⟩
  | stampedDirectory =>
    exact ⟨descriptors, entries_fewer entries le_rfl (List.length_modify ..).le le_rfl, contents⟩
  | stampedSymlink =>
    exact ⟨descriptors, entries_fewer entries le_rfl le_rfl (List.length_modify ..).le, contents⟩

end Limits

/-- Mounting checks the file and the number of files. -/
theorem FilesystemState.mountFile_fits {state after : FilesystemState} {location : Location}
    {bytes : List UInt8} {writable : Bool}
    (mounts : state.mountFile location bytes writable = .ok after) :
    bytes.length ≤ maxFileBytes ∧ state.mountedFiles.length < maxMountedFiles := by
  unfold mountFile at mounts
  obtain ⟨_, valid, mounts⟩ := bind_ok.mp mounts
  split_ifs at mounts with refused tooLarge tooMany duplicate
  exact ⟨Nat.le_of_not_lt tooLarge, Nat.lt_of_not_le tooMany⟩

/-- A configuration has files only. -/
theorem Mounted.filesOnly {wasi : Preview1} (mounted : Mounted wasi) :
    wasi.state.filesystem.mountedDirectories = [] ∧
      wasi.state.filesystem.mountedSymlinks = [] := by
  apply mounted.keeps (motive := fun state =>
    state.mountedDirectories = [] ∧ state.mountedSymlinks = [])
  · exact ⟨rfl, rfl⟩
  · intro state fd writable only
    exact only
  · intro state after location bytes writable only mounts
    rw [(mountFile_ok mounts).1]
    exact only

theorem Mounted.withinLimits {wasi : Preview1} (mounted : Mounted wasi) :
    wasi.state.filesystem.WithinLimits := by
  have configured := mounted.configured
  have files : wasi.state.filesystem.mountedFiles.length ≤ maxMountedFiles ∧
      ∀ address, (wasi.state.filesystem.bytes.get address).length ≤ maxFileBytes := by
    apply mounted.keeps (motive := fun state => state.mountedFiles.length ≤ maxMountedFiles ∧
      ∀ address, (state.bytes.get address).length ≤ maxFileBytes)
    · exact ⟨Nat.zero_le _, fun _ => Nat.zero_le _⟩
    · intro state fd writable limits
      exact limits
    · rintro state after location bytes writable ⟨-, contents⟩ mounts
      obtain ⟨fits, room⟩ := mountFile_fits mounts
      rw [(mountFile_ok mounts).1]
      refine ⟨?_, contents_alloc contents fits⟩
      rw [List.length_append, List.length_singleton]
      exact room
  constructor
  · rw [configured.noOpenFile, configured.noOpenDirectory]
    exact Nat.zero_le _
  · rw [namespaceEntryCount, mounted.filesOnly.1, mounted.filesOnly.2]
    exact files.1
  · exact files.2

/-! ## The numbers of descriptors -/

inductive DescriptorKind where
  | standard
  | preopen
  | file
  | directory
  deriving DecidableEq, Repr

/-- The numbers of the descriptors of a kind. -/
def WasiState.numbers (state : WasiState) : DescriptorKind → Set Nat
  | .standard => {fd | fd ≤ 2}
  | .preopen => {fd | (state.findPreopen fd).isSome}
  | .file => {fd | fd ∈ state.filesystem.openFiles}
  | .directory => {fd | fd ∈ state.filesystem.openDirectories}

/-- A number that an open may get. -/
def WasiState.Vacant (state : WasiState) (fd : Nat) : Prop :=
  firstDynamicFd ≤ fd ∧ ∀ kind, fd ∉ state.numbers kind

section Numbers

variable {wasi : Preview1} {state : WasiState}

theorem Reached.mem_preopen (reached : Reached wasi state) (mounted : Mounted wasi) {fd : Nat} :
    fd ∈ state.numbers .preopen ↔ state.filesystem.hasPreopen fd = true := by
  rw [← reached.lifetimes.findPreopen mounted]
  exact Iff.rfl

/-- The only kind that a number can belong to. -/
def WasiState.kindOf (state : WasiState) (fd : Nat) : DescriptorKind :=
  if fd ≤ 2 then .standard
  else if state.filesystem.hasPreopen fd then .preopen
  else if (state.filesystem.openFiles.lookup fd).isSome then .file
  else .directory

theorem Reached.kind_of_mem (reached : Reached wasi state) (mounted : Mounted wasi) {fd : Nat}
    {kind : DescriptorKind} (member : fd ∈ state.numbers kind) : kind = state.kindOf fd := by
  have separate := reached.separate
  have notStandard {fd : Nat} (dynamic : firstDynamicFd ≤ fd) : ¬ fd ≤ 2 := Nat.not_le.mpr dynamic
  have notPreopen {fd : Nat} (bound : (state.filesystem.openFiles.lookup fd).isSome = true ∨
      (state.filesystem.openDirectories.lookup fd).isSome = true) :
      ¬ state.filesystem.hasPreopen fd = true := by
    intro preopened
    obtain ⟨-, noFile, noDirectory⟩ := separate.preopens fd preopened
    simp [noFile, noDirectory] at bound
  unfold WasiState.kindOf
  cases kind with
  | standard => rw [if_pos (show fd ≤ 2 from member)]
  | preopen =>
    have preopened := (reached.mem_preopen mounted).mp member
    rw [if_neg (notStandard (separate.preopens fd preopened).1), if_pos preopened]
  | file =>
    have found := AList.lookup_isSome.mpr (show fd ∈ state.filesystem.openFiles from member)
    obtain ⟨file, opened⟩ := Option.isSome_iff_exists.mp found
    rw [if_neg (notStandard (separate.files fd file opened).1), if_neg (notPreopen (.inl found)),
      if_pos found]
  | directory =>
    have found :=
      AList.lookup_isSome.mpr (show fd ∈ state.filesystem.openDirectories from member)
    obtain ⟨directory, opened⟩ := Option.isSome_iff_exists.mp found
    have noFile : ¬ (state.filesystem.openFiles.lookup fd).isSome = true := by
      intro isFile
      obtain ⟨file, openedFile⟩ := Option.isSome_iff_exists.mp isFile
      rw [(separate.files fd file openedFile).2] at opened
      cases opened
    rw [if_neg (notStandard (separate.directories fd directory opened)),
      if_neg (notPreopen (.inr found)), if_neg noFile]

/-- The kinds of descriptors share no number. -/
theorem Reached.disjoint (reached : Reached wasi state) (mounted : Mounted wasi) :
    Pairwise fun left right => Disjoint (state.numbers left) (state.numbers right) := by
  intro left right different
  refine Set.disjoint_left.mpr fun fd inLeft inRight => different ?_
  rw [reached.kind_of_mem mounted inLeft, reached.kind_of_mem mounted inRight]

theorem Reached.vacant_iff (reached : Reached wasi state) (mounted : Mounted wasi) {fd : Nat} :
    state.Vacant fd ↔ firstDynamicFd ≤ fd ∧ state.filesystem.Free fd := by
  constructor
  · rintro ⟨dynamic, absent⟩
    refine ⟨dynamic, ?_, ?_, ?_⟩
    · rw [← Bool.not_eq_true]
      exact fun preopened => absent .preopen ((reached.mem_preopen mounted).mpr preopened)
    · exact AList.lookup_eq_none.mpr (absent .file)
    · exact AList.lookup_eq_none.mpr (absent .directory)
  · rintro ⟨dynamic, free⟩
    refine ⟨dynamic, ?_⟩
    intro kind member
    cases kind with
    | standard => exact Nat.not_le.mpr dynamic member
    | preopen =>
      have preopened := (reached.mem_preopen mounted).mp member
      rw [free.preopen] at preopened
      cases preopened
    | file => exact AList.lookup_eq_none.mp free.file member
    | directory => exact AList.lookup_eq_none.mp free.directory member

end Numbers

/-! ## The search for a number -/

/-- The search passes over numbers that are bound. -/
theorem firstFree_least {state : FilesystemState} {candidates candidate fd : Nat}
    (found : state.firstFree candidates candidate = .ok fd) :
    ∀ other, candidate ≤ other → state.Free other → fd ≤ other := by
  induction candidates generalizing candidate with
  | zero => cases found
  | succ candidates ih =>
    intro other after free
    unfold firstFree at found
    split_ifs at found with here
    · cases found
      exact after
    · apply ih found other _ free
      apply Nat.lt_of_le_of_ne after
      rintro rfl
      exact here ⟨by simp [free.preopen], by simp [free.file], by simp [free.directory]⟩

/-- A search with more candidates ends where it ended. -/
theorem firstFree_mono {state : FilesystemState} {candidates more candidate fd : Nat}
    (found : state.firstFree candidates candidate = .ok fd) (enough : candidates ≤ more) :
    state.firstFree more candidate = .ok fd := by
  induction candidates generalizing candidate more with
  | zero => cases found
  | succ candidates ih =>
    cases more with
    | zero => cases enough
    | succ more =>
      unfold firstFree at found ⊢
      split_ifs at found ⊢ with here
      · exact found
      · exact ih found (Nat.le_of_succ_le_succ enough)

/-- The search ends with a number before it has looked at more candidates than there may be
descriptors, unless it is not made because too many are open. -/
def FilesystemState.SearchEnds (state : FilesystemState) : Prop :=
  if maxOpenFiles ≤ state.openFiles.keys.length + state.openDirectories.keys.length then
    state.allocateDynamicFd = .error .tooManyOpenFiles
  else
    ∃ fd, state.firstFree (maxOpenFiles + maxPreopenDirs) firstDynamicFd = .ok fd ∧
      state.allocateDynamicFd = .ok fd

theorem FilesystemState.searchEnds {state : FilesystemState} (listed : state.tables.Listed) :
    state.SearchEnds := by
  unfold SearchEnds
  split_ifs with full
  · rw [allocateDynamicFd, if_pos full]
  · obtain ⟨fd, found⟩ :
        ∃ fd, state.firstFree (maxOpenFiles + maxPreopenDirs) firstDynamicFd = .ok fd := by
      apply firstFree_ok
        (state.reservedPreopens ++ state.openFiles.keys ++ state.openDirectories.keys)
      · exact fun fd _ => mem_bound_or_free fd
      · have room : state.reservedPreopens.length ≤ maxPreopenDirs := listed.room
        simp only [List.length_append]
        omega
    refine ⟨fd, found, ?_⟩
    rw [allocateDynamicFd, if_neg full]
    exact firstFree_mono found (by decide)

/-! ## Opens -/

/-- What an open that succeeds returns and leaves. -/
theorem pathOpen_opened {host : Host} {dirFd pathPtr pathLen fdFlags openedFdPtr : Nat}
    {dirFlags openFlags : BitVec 32} {rightsBase inheriting : Rights}
    (mayWrite : host.capabilities.memoryWrite = true) :
    Meets (fun _ _ => True)
      (fun _ after => ∃ (operation : Operation) (fd : Nat) (filesystem : FilesystemState)
          (memory : LinearMemory),
        Opened host.state.filesystem operation fd filesystem ∧
        after.state.filesystem = filesystem ∧ host.memory = some memory ∧
        after.memory = some (memory.writeBytes openedFdPtr (leBytes 4 fd)))
      (Callbacks.pathOpen dirFd dirFlags pathPtr pathLen openFlags rightsBase inheriting fdFlags
        openedFdPtr) host := by
  rw [pathOpen_eq]
  simp only [meets_bind, Callback.askFilesystem, meets_ask, meets_ite]
  refine ⟨fun _ => trivial, fun _ => ?_⟩
  apply (checkedOpen_meets mayWrite).mono
  · exact fun _ _ _ => trivial
  · rintro ⟨request, path⟩ checked ⟨rfl, -, memory, found, covered⟩
    rw [← meets_bind]
    apply Meets.mono _ (fun _ _ _ => trivial) fun _ _ opened => opened
    · exact Refused checked
    rw [meets_bind]
    apply Callbacks.openRequested_meets
    intro opened filesystem opening
    have reports : Callbacks.reportOpened dirFd path openedFdPtr opened
        (checked.withFilesystem filesystem) =
        (.ok (),
          { checked.withFilesystem filesystem with
            memory := some (memory.writeBytes openedFdPtr (leBytes 4 opened.fd)) }) :=
      reportOpened_result mayWrite found covered
    unfold Meets
    rw [reports]
    exact ⟨_, opened.fd, filesystem, memory, opening, rfl, found, rfl⟩

theorem Opened.allocated {state after : FilesystemState} {operation : Operation} {fd : Nat}
    (opens : Opened state operation fd after) : state.allocateDynamicFd = .ok fd := by
  cases opens <;> assumption

/-- The number of an open belongs to a file or a directory afterwards. -/
theorem Opened.bound {state after : FilesystemState} {operation : Operation} {fd : Nat}
    (opens : Opened state operation fd after) :
    fd ∈ after.openFiles ∨ fd ∈ after.openDirectories := by
  cases opens with
  | file => exact .inl (AList.mem_insert _ |>.mpr (.inl rfl))
  | created => exact .inl (AList.mem_insert _ |>.mpr (.inl rfl))
  | directory => exact .inr (AList.mem_insert _ |>.mpr (.inl rfl))

/-- The number that is handed out is the lowest that no descriptor has. -/
theorem Reached.allocates {wasi : Preview1} {state : WasiState} (reached : Reached wasi state)
    (mounted : Mounted wasi) {fd : Nat}
    (allocated : state.filesystem.allocateDynamicFd = .ok fd) :
    IsLeast {number | state.Vacant number} fd := by
  unfold allocateDynamicFd at allocated
  split_ifs at allocated with full
  constructor
  · exact (reached.vacant_iff mounted).mpr ⟨(firstFree_ok _ _ allocated).1,
      firstFree_free allocated⟩
  · intro other vacant
    obtain ⟨dynamic, free⟩ := (reached.vacant_iff mounted).mp vacant
    exact firstFree_least allocated other dynamic free

/-- What `path_open` gives the guest when it succeeds: the lowest number that no descriptor
had, which is open afterwards. -/
def OpensLowest (config : Config) (state : WasiState) : Prop :=
  ∀ memory dirFd dirFlags path pathLen openFlags rightsBase rightsInheriting fdFlags openedFd
      host,
    respond config state
        { memory
          call := .pathOpen dirFd dirFlags path pathLen openFlags rightsBase rightsInheriting
            fdFlags openedFd } = (.ok (), host) →
      ∃ fd before, IsLeast {number | state.Vacant number} fd ∧ memory = some before ∧
        host.memory = some (before.writeBytes openedFd.toNat (leBytes 4 fd)) ∧
        (fd ∈ host.state.numbers .file ∨ fd ∈ host.state.numbers .directory)

theorem Reached.opensLowest {wasi : Preview1} {state : WasiState} (reached : Reached wasi state)
    (mounted : Mounted wasi) (config : Config) : OpensLowest config state := by
  intro memory dirFd dirFlags path pathLen openFlags rightsBase rightsInheriting fdFlags openedFd
    host responds
  let request : Request :=
    { memory
      call := .pathOpen dirFd dirFlags path pathLen openFlags rightsBase rightsInheriting fdFlags
        openedFd }
  have opens := @pathOpen_opened (request.host state) dirFd.toNat path.toNat pathLen.toNat
    fdFlags.toNat openedFd.toNat dirFlags openFlags rightsBase rightsInheriting rfl
  unfold Meets at opens
  rw [show Callbacks.pathOpen dirFd.toNat dirFlags path.toNat pathLen.toNat openFlags rightsBase
    rightsInheriting fdFlags.toNat openedFd.toNat (request.host state) = (.ok (), host) from
    responds] at opens
  obtain ⟨operation, fd, filesystem, before, opened, same, found, written⟩ := opens
  refine ⟨fd, before, reached.allocates mounted opened.allocated, found, written, ?_⟩
  have bound := opened.bound
  rwa [← same] at bound

/-! ## The invariant -/

theorem afterCalls_withinLimits {wasi : Preview1} (mounted : Mounted wasi)
    (requests : List Request) :
    (afterCalls wasi.config wasi.state requests).filesystem.WithinLimits := by
  apply afterCalls_keeps_filesystem wasi.config (motive := WithinLimits) _ requests
    mounted.coherent mounted.withinLimits
  intro before after operation reserved effect limits
  exact effect.withinLimits limits

/-- In every state that calls lead to, no number has two descriptors, opens hand out the
lowest number that has none, the limits hold and the search for a number ends. -/
theorem descriptor_space {wasi : Preview1} (mounted : Mounted wasi) (requests : List Request) :
    let state := afterCalls wasi.config wasi.state requests
    (Pairwise fun left right => Disjoint (state.numbers left) (state.numbers right)) ∧
      OpensLowest wasi.config state ∧ state.filesystem.WithinLimits ∧
      state.filesystem.SearchEnds := by
  have reached := mounted.reaches requests
  exact ⟨reached.disjoint mounted, reached.opensLowest mounted wasi.config,
    afterCalls_withinLimits mounted requests, searchEnds (reached.listed mounted)⟩

/-- A directory has been made and opened in a writable preopen. -/
theorem descriptor_space_directory :
    let state := afterCalls (Preview1.workspace true).config (Preview1.workspace true).state
      openNested
    (Pairwise fun left right => Disjoint (state.numbers left) (state.numbers right)) ∧
      OpensLowest (Preview1.workspace true).config state ∧ state.filesystem.WithinLimits ∧
      state.filesystem.SearchEnds :=
  descriptor_space (workspace_mounted true) openNested

end MiniWasm.Wasi
