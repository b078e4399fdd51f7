import MiniWasm.Wasi.Histories

/-!
# Numbers of descriptors

A number is at most one of: a preopen, an open file, an open directory.  A new
descriptor gets a number that is none of them.
-/

namespace MiniWasm.Wasi

open Library Action MiniWasm.Runtime FilesystemState

/-! ## Allocation -/

theorem firstFree_ok {state : FilesystemState} (candidates candidate : Nat) {fd : Nat}
    (found : state.firstFree candidates candidate = .ok fd) :
    candidate ≤ fd ∧ fd < candidate + candidates ∧ state.hasPreopen fd = false ∧
      state.openFiles.lookup fd = none ∧ state.openDirectories.lookup fd = none := by
  induction candidates generalizing candidate with
  | zero => cases found
  | succ candidates ih =>
    unfold firstFree at found
    split_ifs at found with free
    · cases found
      obtain ⟨notPreopen, notFile, notDirectory⟩ := free
      rw [Option.isNone_iff_eq_none] at notFile notDirectory
      exact ⟨le_rfl, by omega, by simpa using notPreopen, notFile, notDirectory⟩
    · obtain ⟨lower, upper, free⟩ := ih (candidate + 1) found
      exact ⟨by omega, by omega, free⟩

/-- A number that is handed out was not in use. -/
structure Unused (state : FilesystemState) (fd : Nat) : Prop where
  dynamic : firstDynamicFd ≤ fd
  noPreopen : state.hasPreopen fd = false
  noFile : state.openFiles.lookup fd = none
  noDirectory : state.openDirectories.lookup fd = none

theorem allocateDynamicFd_ok {state : FilesystemState} {fd : Nat}
    (allocated : state.allocateDynamicFd = .ok fd) : Unused state fd := by
  unfold allocateDynamicFd at allocated
  split_ifs at allocated with full
  obtain ⟨dynamic, -, noPreopen, noFile, noDirectory⟩ := firstFree_ok _ _ allocated
  exact ⟨dynamic, noPreopen, noFile, noDirectory⟩

/-! ## Separation -/

structure Separate (state : FilesystemState) : Prop where
  preopens : ∀ fd, state.hasPreopen fd = true →
    firstDynamicFd ≤ fd ∧ state.openFiles.lookup fd = none ∧
      state.openDirectories.lookup fd = none
  files : ∀ fd file, state.openFiles.lookup fd = some file →
    firstDynamicFd ≤ fd ∧ state.openDirectories.lookup fd = none
  directories : ∀ fd directory, state.openDirectories.lookup fd = some directory →
    firstDynamicFd ≤ fd

section Separate

variable {before after : FilesystemState}

theorem Separate.notPreopen (separate : Separate before) {fd : Nat} {directory : OpenDirectory}
    (found : before.openDirectories.lookup fd = some directory) :
    before.hasPreopen fd = false := by
  by_contra preopened
  rw [Bool.not_eq_false] at preopened
  rw [(separate.preopens fd preopened).2.2] at found
  cases found

/-- The record of an open file is replaced. -/
theorem Separate.replaced (separate : Separate before) {fd : Nat} {file changed : OpenFile}
    (found : before.openFiles.lookup fd = some file) {bytes : Arena (List UInt8)} :
    Separate { before with bytes, openFiles := before.openFiles.insert fd changed } where
  preopens other preopened := by
    obtain ⟨dynamic, noFile, noDirectory⟩ := separate.preopens other preopened
    refine ⟨dynamic, ?_, noDirectory⟩
    have ne : other ≠ fd := by
      rintro rfl
      rw [found] at noFile
      cases noFile
    exact (AList.lookup_insert_ne ne).trans noFile
  files other opened lookup := by
    rcases lookup_insert_cases lookup with ⟨rfl, -⟩ | ⟨-, lookup⟩
    · exact separate.files other file found
    · exact separate.files other opened lookup
  directories := separate.directories

theorem Opened.separate {operation : Operation} {fd : Nat}
    (opens : Opened before operation fd after) (separate : Separate before) :
    Separate after := by
  have opensFile : ∀ {after : FilesystemState} {opened : OpenFile}, Unused before fd →
      after.reservedPreopens = before.reservedPreopens →
      after.openDirectories = before.openDirectories →
      after.openFiles = before.openFiles.insert fd opened → Separate after := by
    intro after opened unused reserved directories files
    constructor
    · intro other preopened
      have known : before.hasPreopen other = true := by
        rw [hasPreopen, ← reserved]
        exact preopened
      obtain ⟨dynamic, noFile, noDirectory⟩ := separate.preopens other known
      have ne : other ≠ fd := by
        rintro rfl
        rw [unused.noPreopen] at known
        cases known
      rw [files, directories, AList.lookup_insert_ne ne]
      exact ⟨dynamic, noFile, noDirectory⟩
    · intro other file lookup
      rw [files] at lookup
      rw [directories]
      rcases lookup_insert_cases lookup with ⟨rfl, -⟩ | ⟨-, lookup⟩
      · exact ⟨unused.dynamic, unused.noDirectory⟩
      · exact separate.files other file lookup
    · rw [directories]
      exact separate.directories
  cases opens with
  | file resolved allocated => exact opensFile (allocateDynamicFd_ok allocated) rfl rfl rfl
  | created resolved allocated => exact opensFile (allocateDynamicFd_ok allocated) rfl rfl rfl
  | directory resolved attenuated found parent allocated =>
    have unused := allocateDynamicFd_ok allocated
    constructor
    · intro other preopened
      obtain ⟨dynamic, noFile, noDirectory⟩ := separate.preopens other preopened
      have ne : other ≠ fd := by
        rintro rfl
        have notPreopen := unused.noPreopen
        rw [show before.hasPreopen other = true from preopened] at notPreopen
        cases notPreopen
      exact ⟨dynamic, noFile, (AList.lookup_insert_ne ne).trans noDirectory⟩
    · intro other file lookup
      obtain ⟨dynamic, noDirectory⟩ := separate.files other file lookup
      have ne : other ≠ fd := by
        rintro rfl
        have noFile := unused.noFile
        rw [show before.openFiles.lookup other = some file from lookup] at noFile
        cases noFile
      exact ⟨dynamic, (AList.lookup_insert_ne ne).trans noDirectory⟩
    · intro other directory lookup
      rcases lookup_insert_cases lookup with ⟨rfl, -⟩ | ⟨-, lookup⟩
      · exact unused.dynamic
      · exact separate.directories other directory lookup

theorem lookup_erase_none {α : Type} {entries : AList fun _ : Nat => α} {key other : Nat}
    (missing : entries.lookup other = none) : (entries.erase key).lookup other = none := by
  cases found : (entries.erase key).lookup other with
  | none => rfl
  | some value =>
    rw [(lookup_erase_some found).2] at missing
    cases missing

theorem Effect.separate {operation : Operation} (effect : Effect before operation after)
    (separate : Separate before) : Separate after := by
  cases effect with
  | opened opens => exact opens.separate separate
  | closed =>
    constructor
    · intro other preopened
      have known : before.hasPreopen other = true := by
        simp only [hasPreopen, decide_eq_true_eq] at preopened ⊢
        exact List.mem_of_mem_erase preopened
      obtain ⟨dynamic, noFile, noDirectory⟩ := separate.preopens other known
      exact ⟨dynamic, lookup_erase_none noFile, lookup_erase_none noDirectory⟩
    · intro other file lookup
      obtain ⟨dynamic, noDirectory⟩ := separate.files other file (lookup_erase_some lookup).2
      exact ⟨dynamic, lookup_erase_none noDirectory⟩
    · intro other directory lookup
      exact separate.directories other directory (lookup_erase_some lookup).2
  | contents subject found => exact separate.replaced found
  | described subject found => exact separate.replaced found
  | _ => exact ⟨separate.preopens, separate.files, separate.directories⟩

end Separate

theorem directoryContext_opened {state : FilesystemState} (separate : Separate state) {fd : Nat}
    {opened : OpenDirectory} (found : state.openDirectories.lookup fd = some opened) :
    state.directoryContext fd = some (opened.toLocation, opened.rightsBase) := by
  simp [directoryContext, separate.notPreopen found, found]

/-! ## Configurations -/

/-- The preopens of a configuration: they are numbered in order, live, reserved, and
described as they were registered. -/
structure Registered (wasi : Preview1) : Prop where
  numbers : ∀ index entry, wasi.state.preopens[index]? = some entry →
    entry.fd = firstPreopenFd + index ∧ entry.live = true
  reserved : ∀ fd, fd ∈ wasi.state.filesystem.reservedPreopens ↔
    firstPreopenFd ≤ fd ∧ fd < firstPreopenFd + wasi.state.preopens.length
  stats : ∀ fd, wasi.config.extraFdStats.find? (·.fd = fd) =
    if fd ∈ wasi.state.filesystem.reservedPreopens then
      some
        { fd, filetype := .directory
          rightsBase :=
            Preview1.preopenBase (wasi.state.filesystem.isWritablePreopen fd)
          rightsInheriting :=
            Preview1.preopenInheriting (wasi.state.filesystem.isWritablePreopen fd) }
    else none

theorem Mounted.registered {wasi : Preview1} (mounted : Mounted wasi) : Registered wasi := by
  induction mounted with
  | new config stdin entropy =>
    constructor
    · intro index entry found
      cases found
    · intro fd
      simp [Preview1.new, FilesystemState.default]
    · intro fd
      simp [Preview1.new, FilesystemState.default]
  | @preopen wasi after guestPath writable mounted added registered =>
    obtain ⟨sameState, sameStats⟩ := Preview1.withPreopenPolicy_ok added
    have reservedAfter : ∀ fd, fd ∈ after.state.filesystem.reservedPreopens ↔
        fd = firstPreopenFd + wasi.state.preopens.length ∨
          fd ∈ wasi.state.filesystem.reservedPreopens := by
      intro fd
      rw [sameState]
      exact mem_insertNumber
    constructor
    · intro index entry found
      rw [sameState, List.getElem?_append] at found
      split_ifs at found with old
      · exact registered.numbers index entry found
      · rw [List.getElem?_singleton] at found
        split_ifs at found with last
        cases found
        exact ⟨by simp only; omega, rfl⟩
    · intro fd
      rw [reservedAfter, registered.reserved, sameState]
      simp only [List.length_append, List.length_singleton]
      omega
    · intro fd
      rw [sameStats, List.find?_append]
      by_cases new : fd = firstPreopenFd + wasi.state.preopens.length
      · have notReserved : fd ∉ wasi.state.filesystem.reservedPreopens := by
          rw [registered.reserved]
          omega
        have notWritable : fd ∉ wasi.state.filesystem.writablePreopens :=
          fun member => notReserved (mounted.reserved.subset member)
        have writableAfter : after.state.filesystem.isWritablePreopen fd = writable := by
          rw [sameState]
          cases writable with
          | false => simpa [reservePreopen, isWritablePreopen] using notWritable
          | true =>
            simp only [isWritablePreopen, decide_eq_true_eq]
            exact mem_insertNumber.mpr (.inl new)
        rw [if_pos ((reservedAfter fd).mpr (.inl new)), writableAfter]
        subst new
        rw [List.find?_filter, List.find?_eq_none.mpr (by simp)]
        simp
      · have writableAfter : after.state.filesystem.isWritablePreopen fd =
            wasi.state.filesystem.isWritablePreopen fd := by
          rw [sameState]
          cases writable with
          | false => rfl
          | true =>
            simp only [isWritablePreopen, reservePreopen, if_true, decide_eq_decide]
            rw [mem_insertNumber]
            simp [new]
        have kept : (wasi.config.extraFdStats.filter
            (·.fd ≠ firstPreopenFd + wasi.state.preopens.length)).find? (·.fd = fd) =
            wasi.config.extraFdStats.find? (·.fd = fd) := by
          rw [List.find?_filter]
          congr 1
          funext stat
          by_cases here : stat.fd = fd
          · simp [here, new]
          · simp [here]
        rw [kept, registered.stats, writableAfter]
        by_cases known : fd ∈ wasi.state.filesystem.reservedPreopens
        · rw [if_pos known, if_pos ((reservedAfter fd).mpr (.inr known))]
          rfl
        · have unknown : fd ∉ after.state.filesystem.reservedPreopens :=
            fun member => ((reservedAfter fd).mp member).elim new known
          rw [if_neg known, if_neg unknown]
          simp [Ne.symm new]
  | file mounted added registered =>
    obtain ⟨entry, filesystem, -, mounts, rfl⟩ := Preview1.withFilePolicy_ok added
    obtain ⟨rfl, -⟩ := mountFile_ok mounts
    exact ⟨registered.numbers, registered.reserved, registered.stats⟩

theorem Mounted.separate {wasi : Preview1} (mounted : Mounted wasi) :
    Separate wasi.state.filesystem := by
  have configured := mounted.configured
  constructor
  · intro fd preopened
    rw [configured.noOpenFile, configured.noOpenDirectory]
    simp only [hasPreopen, decide_eq_true_eq] at preopened
    exact ⟨((mounted.registered.reserved fd).mp preopened).1, rfl, rfl⟩
  · intro fd file lookup
    rw [configured.noOpenFile] at lookup
    cases lookup
  · intro fd directory lookup
    rw [configured.noOpenDirectory] at lookup
    cases lookup

end MiniWasm.Wasi
