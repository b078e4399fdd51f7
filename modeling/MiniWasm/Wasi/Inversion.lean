import MiniWasm.Library.Position
import MiniWasm.Wasi.Effects

/-!
# What an operation does

One lemma for each operation: what it leaves when it fails, and which change it
makes when it succeeds.  All but the opening of a file leave the state as it was
when they fail.
-/

namespace MiniWasm.Wasi

open Library Action

variable {state : FilesystemState}

/-- After a failure: the state, or the state with the cells of a file that was
created and abandoned. -/
inductive Untouched (state : FilesystemState) : FilesystemState → Prop where
  | same : Untouched state state
  | abandoned : Untouched state state.withFreshCells

namespace FilesystemState

theorem meets_resolve {ε : Type} {fd : Nat} {path : Path} {requiredRight : Rights}
    {convert : ResolveDirectoryError → ε} {failed : ε → FilesystemState → Prop}
    {done : Location × Rights → FilesystemState → Prop}
    (refused : ∀ err, failed (convert err) state)
    (resolves : ∀ location rights,
      state.resolveDirectoryPath fd path requiredRight = .ok (location, rights) →
      done (location, rights) state) :
    Meets failed done (resolve fd path requiredRight convert) state := by
  apply meets_consult_mapError
  · intro err found
    exact refused err
  · intro resolved found
    exact resolves _ _ found

theorem fileAt_eq_none {location : Location} (state : FilesystemState)
    (missing : state.mountedFiles.findIdx? (·.toLocation = location) = none) :
    state.fileAt location = none := by
  simp only [List.findIdx?_eq_none_iff, decide_eq_false_iff_not] at missing
  simpa [fileAt] using missing

/-- A consultation keeps the state. -/
theorem meets_consults {ε α : Type} {query : FilesystemState → Except ε α}
    {failed : ε → FilesystemState → Prop} {done : α → FilesystemState → Prop}
    (refused : ∀ err, failed err state)
    (answers : ∀ value, query state = .ok value → done value state) :
    Meets failed done (consult query) state := by
  rw [meets_consult]
  exact ⟨fun err _ => refused err, answers⟩

end FilesystemState

section Operations

variable {fd dirFd : Nat} {path : Path}

theorem createDirectory_meets :
    Meets (fun _ after => after = state)
      (fun _ after => Effect state (.createDirectory fd path) after)
      (FilesystemState.createDirectory fd path) state := by
  simp only [FilesystemState.createDirectory, meets_bind]
  apply FilesystemState.meets_resolve
  · intro err
    rfl
  · intro location rights resolved
    simp only [meets_ask, id_eq, meets_ite, meets_fail, meets_modify]
    refine ⟨fun _ => trivial, fun free => ⟨fun _ => trivial, fun room => ⟨fun _ => trivial, ?_⟩⟩⟩
    intro parent
    refine ⟨fun _ => trivial, fun numbers => ?_⟩
    exact .createdDirectory resolved (by simpa using free) (by simpa using parent)
      (Nat.lt_of_not_le room) (Nat.lt_of_not_le numbers)

theorem removeDirectory_meets :
    Meets (fun _ after => after = state)
      (fun _ after => Effect state (.removeDirectory fd path) after)
      (FilesystemState.removeDirectory fd path) state := by
  simp only [FilesystemState.removeDirectory, meets_bind]
  apply FilesystemState.meets_resolve
  · intro err
    rfl
  · intro location rights resolved
    simp only [meets_ask, id_eq, meets_ite, meets_fail]
    refine ⟨fun _ => trivial, fun _ => ?_⟩
    cases found : state.mountedDirectories.findIdx? (·.toLocation = location) with
    | none => exact rfl
    | some index =>
      simp only [meets_ite, meets_fail, meets_modify]
      refine ⟨fun _ => trivial, fun empty => ?_⟩
      simp only [not_or, Bool.not_eq_true, List.any_eq_false] at empty
      exact .removedDirectory resolved found (by simpa using empty.1) (by simpa using empty.2.1)
        (by simpa using empty.2.2)

theorem symlink_meets {target : Path} :
    Meets (fun _ after => after = state)
      (fun _ after => Effect state (.symlink dirFd path target) after)
      (FilesystemState.symlink dirFd path target) state := by
  simp only [FilesystemState.symlink, meets_bind]
  apply FilesystemState.meets_resolve
  · intro err
    rfl
  · intro location rights resolved
    simp only [meets_ask, id_eq, meets_ite, meets_fail, meets_modify]
    refine ⟨fun _ => trivial, fun free => ⟨fun _ => trivial, fun parent => ?_⟩⟩
    refine ⟨fun _ => trivial, fun room => ⟨fun _ => trivial, fun _ => ?_⟩⟩
    exact .createdSymlink resolved (by simpa using free) (by simpa using parent)
      (Nat.lt_of_not_le room)

theorem readlink_meets :
    Meets (fun _ after => after = state) (fun _ after => after = state)
      (FilesystemState.readlink dirFd path) state := by
  simp only [FilesystemState.readlink, meets_bind]
  apply FilesystemState.meets_resolve
  · intro err
    rfl
  · intro location rights resolved
    simp only [meets_ask, id_eq]
    cases state.symlinkAt location with
    | some link => exact rfl
    | none =>
      rw [meets_ite]
      exact ⟨fun _ => rfl, fun _ => rfl⟩

theorem link_meets {newDirFd : Nat} {newPath : Path} :
    Meets (fun _ after => after = state)
      (fun _ after => Effect state (.link dirFd path newDirFd newPath) after)
      (FilesystemState.link dirFd path newDirFd newPath) state := by
  simp only [FilesystemState.link, meets_bind]
  apply FilesystemState.meets_resolve
  · intro err
    rfl
  · intro old oldRights oldResolved
    apply FilesystemState.meets_resolve
    · intro err
      rfl
    · intro new newRights newResolved
      simp only [meets_ask, id_eq, meets_ite, meets_fail]
      refine ⟨fun _ => trivial, fun room => ⟨fun _ => trivial, fun free => ?_⟩⟩
      refine ⟨fun _ => trivial, fun parent => ?_⟩
      cases found : state.fileAt old with
      | none => exact rfl
      | some file =>
        simp only [meets_ite, meets_fail, meets_modify]
        refine ⟨fun _ => trivial, fun _ => ⟨fun _ => trivial, fun _ => ?_⟩⟩
        exact .linked oldResolved newResolved (by simpa using free) (by simpa using parent) found
          (Nat.lt_of_not_le room)

theorem rename_meets {old new : Location} :
    Meets (fun _ after => after = state)
      (fun _ after => Effect state (.rename old new) after)
      (FilesystemState.rename old new) state := by
  simp only [FilesystemState.rename, meets_bind, meets_ask, id_eq, meets_ite, meets_fail]
  refine ⟨fun _ => trivial, fun writable => ⟨fun _ => trivial, fun noLink => ?_⟩⟩
  simp only [not_or, Bool.not_eq_true, Bool.not_eq_false, Option.isSome_eq_false_iff,
    Option.isNone_iff_eq_none] at writable noLink
  cases sourceIndexed : state.mountedFiles.findIdx? (·.toLocation = old) with
  | none => exact rfl
  | some sourceIndex =>
    cases sourceFound : state.fileAt old with
    | none => exact rfl
    | some source =>
      simp only [meets_ite, meets_pure]
      refine ⟨fun _ => .unchanged, fun _ => ?_⟩
      cases targetFound : state.fileAt new with
      | none =>
        have renames : Effect state (.rename old new)
            { state with
              mountedFiles := FilesystemState.relocate state.mountedFiles sourceIndex new } :=
          .renamed writable.1 writable.2 noLink.2 sourceIndexed sourceFound targetFound noLink.1
        cases state.mountedFiles.findIdx? (·.toLocation = new) with
        | none => exact renames
        | some targetIndex => exact renames
      | some target =>
        cases targetIndexed : state.mountedFiles.findIdx? (·.toLocation = new) with
        | none =>
          exact absurd targetFound (by simp [state.fileAt_eq_none targetIndexed])
        | some targetIndex =>
          simp only [meets_ite, meets_pure]
          refine ⟨fun _ => .unchanged, fun different => ?_⟩
          cases counted : state.linkCounts.get target.linkCount with
          | zero => exact rfl
          | succ links =>
            exact .replaced writable.1 writable.2 noLink.2 sourceIndexed sourceFound
              targetIndexed targetFound different counted

theorem unlink_meets :
    Meets (fun _ after => after = state)
      (fun _ after => Effect state (.unlink dirFd path) after)
      (FilesystemState.unlink dirFd path) state := by
  simp only [FilesystemState.unlink, meets_bind]
  apply FilesystemState.meets_resolve
  · intro err
    rfl
  · intro location rights resolved
    simp only [meets_ask, id_eq]
    cases indexed : state.mountedFiles.findIdx? (·.toLocation = location) with
    | none =>
      cases linkFound : state.mountedSymlinks.findIdx? (·.toLocation = location) with
      | none => exact rfl
      | some index => exact .unlinkedSymlink resolved linkFound
    | some index =>
      cases found : state.fileAt location with
      | none =>
        cases linkFound : state.mountedSymlinks.findIdx? (·.toLocation = location) with
        | none => exact rfl
        | some index => exact .unlinkedSymlink resolved linkFound
      | some file =>
        dsimp only
        cases counted : state.linkCounts.get file.linkCount with
        | zero => exact rfl
        | succ links => exact .unlinked resolved indexed found counted

/-! ## Descriptors -/

theorem openDirectory_meets {rightsBase : Rights} :
    Meets (fun _ after => after = state)
      (fun opened after =>
        Opened state (.openDirectory dirFd path rightsBase) opened.fd after)
      (FilesystemState.openDirectory dirFd path rightsBase) state := by
  simp only [FilesystemState.openDirectory, meets_bind]
  apply FilesystemState.meets_resolve
  · intro err
    rfl
  · intro location parentRights resolved
    simp only [meets_bind, meets_ask, id_eq, meets_ite, meets_fail]
    refine ⟨fun _ => trivial, fun attenuated => ⟨fun _ => trivial, fun _ => ?_⟩⟩
    cases found : state.directoryAt location with
    | none => exact rfl
    | some directory =>
      cases parent : state.directoryInode location.parent with
      | none => exact rfl
      | some parentInode =>
        simp only [meets_bind]
        apply FilesystemState.meets_consults
        · intro err
          rfl
        · intro fd allocated
          exact .directory resolved (not_not.mp attenuated) found parent allocated

/-- The cells of a new file go with the record of the file. -/
theorem createFile_meets {location : Location} {create : Bool} :
    Meets (fun _ after => after = state)
      (fun file after =>
        file = state.freshFile location ∧
          after =
            { state.withFreshCells with
              mountedFiles := state.mountedFiles ++ [state.freshFile location] } ∧
          create = true ∧ state.parentDirectoryExists location = true ∧
          state.isWritablePreopen location.preopenFd = true ∧
          state.namespaceEntryCount < maxMountedFiles)
      (FilesystemState.createFile location create) state := by
  simp only [FilesystemState.createFile, meets_bind, meets_ask, id_eq, meets_ite, meets_fail,
    meets_modify, meets_pure]
  refine ⟨fun _ => trivial, fun create => ⟨fun _ => trivial, fun writable => ?_⟩⟩
  refine ⟨fun _ => trivial, fun room => ⟨fun _ => trivial, fun parent => ?_⟩⟩
  refine ⟨fun _ => trivial, fun _ => ?_⟩
  exact ⟨rfl, rfl, by simpa using create, by simpa using parent, by simpa using writable,
    Nat.lt_of_not_le room⟩

/-- A refused open takes a file that it has created out of the namespace again. -/
theorem refuseOpen_meets {α : Type} {created : Bool} {before : FilesystemState}
    {done : α → FilesystemState → Prop}
    (undone : Untouched before
      (if created then { state with mountedFiles := state.mountedFiles.dropLast } else state)) :
    Meets (fun _ after => Untouched before after) done
      (FilesystemState.refuseOpen created) state := by
  cases created with
  | false => exact undone
  | true => exact undone

theorem grantFile_meets {location : Location} {rightsBase : Rights} {options : OpenOptions}
    {candidate : Nat} {file : MountedFile} {created : Bool} {before : FilesystemState}
    {done : OpenedFile → FilesystemState → Prop}
    (undone : Untouched before
      (if created then { state with mountedFiles := state.mountedFiles.dropLast } else state))
    (grants : ∀ bytes,
      (rightsBase &&& Rights.mutation ≠ 0 →
        file.writable = true ∧ state.isWritablePreopen location.preopenFd = true) →
      (bytes = state.bytes ∨
        bytes = state.bytes.set file.bytes [] ∧ file.writable = true ∧
          state.isWritablePreopen location.preopenFd = true) →
      bytes = (if options.truncate = true then state.bytes.set file.bytes []
        else state.bytes) →
      done ⟨candidate, created⟩
        { state with
          bytes
          openFiles :=
            state.openFiles.insert candidate
              (FilesystemState.openedAs file rightsBase options.descriptorFlags) }) :
    Meets (fun _ after => Untouched before after) done
      (FilesystemState.grantFile location rightsBase options candidate file created)
      state := by
  simp only [FilesystemState.grantFile, meets_bind, meets_ask, id_eq, meets_ite, meets_modify,
    meets_pure]
  refine ⟨fun _ => refuseOpen_meets undone, fun admitted => ?_⟩
  refine ⟨fun _ => refuseOpen_meets undone, fun truncated => ?_⟩
  apply grants
  · intro mutates
    by_contra mayNot
    exact admitted ⟨mutates, mayNot⟩
  · cases asked : options.truncate with
    | false => exact .inl rfl
    | true =>
      have allowed : ¬ (¬ (file.writable = true ∧
          state.isWritablePreopen location.preopenFd = true) ∨
          rightsBase &&& Rights.fdWrite = 0) :=
        fun refused => truncated ⟨asked, refused⟩
      simp only [not_or, not_not] at allowed
      exact .inr ⟨rfl, allowed.1⟩
  · rfl

theorem openFile_meets {rightsBase : Rights} {options : OpenOptions} :
    Meets (fun _ after => Untouched state after)
      (fun opened after => Opened state (.openFile dirFd path rightsBase options) opened.fd after)
      (FilesystemState.openFile dirFd path rightsBase options) state := by
  simp only [FilesystemState.openFile, meets_bind]
  apply FilesystemState.meets_resolve
  · intro err
    exact .same
  · intro location parentRights resolved
    simp only [meets_bind, meets_ite, meets_fail]
    refine ⟨fun _ => .same, fun mayCreate => ?_⟩
    apply FilesystemState.meets_consults
    · intro err
      exact .same
    · intro candidate allocated
      simp only [FilesystemState.entryToOpen, meets_bind, meets_ask, id_eq]
      refine ⟨fun _ => .same, fun noDirectory => ⟨fun _ => .same, fun noLink => ?_⟩⟩
      cases found : state.fileAt location with
      | some file =>
        simp only [meets_ite, meets_fail, meets_pure]
        refine ⟨fun _ => .same, fun _ => ?_⟩
        apply grantFile_meets
        · exact .same
        · intro bytes admitted truncated emptied
          exact .file resolved allocated found admitted truncated emptied
      | none =>
        simp only [meets_bind, meets_pure]
        apply createFile_meets.mono
        · rintro err after rfl
          exact .same
        · rintro file after ⟨rfl, rfl, create, parent, writable, room⟩
          have free : state.namespaceEntryExists location = false := by
            simp only [Bool.not_eq_true] at noDirectory noLink
            simp [FilesystemState.namespaceEntryExists, found, noDirectory, noLink]
          apply grantFile_meets
          · simp only [if_true, List.dropLast_concat]
            exact .abandoned
          · intro bytes admitted truncated _
            refine .created resolved allocated create (fun none => mayCreate ⟨create, none⟩) free
              parent writable ?_ room
            cases truncated with
            | inl same => exact .inl same
            | inr emptied => exact .inr emptied.1

/-- What closing a number leaves. -/
def FilesystemState.closed (state : FilesystemState) (fd : Nat) : FilesystemState :=
  { state with
    openFiles := state.openFiles.erase fd
    openDirectories := state.openDirectories.erase fd
    reservedPreopens := state.reservedPreopens.erase fd
    writablePreopens := state.writablePreopens.erase fd }

theorem close_meets {ε : Type} :
    Meets (fun _ _ => False)
      (fun wasOpen after =>
        after = state.closed fd ∧
          (wasOpen = false → fd ∉ state.openFiles ∧ fd ∉ state.openDirectories ∧
            fd ∉ state.reservedPreopens))
      (FilesystemState.close fd : Action FilesystemState ε Bool) state := by
  simp only [FilesystemState.close, meets_bind, meets_ask, id_eq, meets_modify, meets_pure]
  refine ⟨rfl, fun closed => ?_⟩
  simp only [Bool.or_eq_false_iff, Option.isSome_eq_false_iff, Option.isNone_iff_eq_none,
    AList.lookup_eq_none, FilesystemState.hasPreopen, decide_eq_false_iff_not] at closed
  exact ⟨closed.1.1, closed.1.2, closed.2⟩

/-- Closing a number that is not open changes nothing. -/
theorem closed_of_missing (notFile : fd ∉ state.openFiles)
    (notDirectory : fd ∉ state.openDirectories) (notReserved : fd ∉ state.reservedPreopens)
    (notWritable : fd ∉ state.writablePreopens) : state.closed fd = state := by
  simp only [FilesystemState.closed, erase_of_notMem notFile, erase_of_notMem notDirectory,
    List.erase_of_not_mem notReserved, List.erase_of_not_mem notWritable]

/-! ## Open files -/

/-- A right that is among those that change a file. -/
theorem mutates {rights required : Rights} (granted : rights &&& required ≠ 0)
    (mutation : required &&& Rights.mutation = required) : rights &&& Rights.mutation ≠ 0 := by
  intro none
  apply granted
  rw [← mutation, BitVec.and_comm required, ← BitVec.and_assoc, none]
  exact BitVec.zero_and

theorem writableFile_ok {required : Rights} {file : OpenFile}
    (granted : state.writableFile fd required = .ok file) :
    state.openFiles.lookup fd = some file ∧ file.rightsBase &&& required ≠ 0 := by
  unfold FilesystemState.writableFile at granted
  cases found : state.openFiles.lookup fd with
  | none => simp [found] at granted
  | some opened =>
    simp only [found] at granted
    split_ifs at granted with denied
    cases granted
    exact ⟨rfl, denied⟩

theorem readableFile_ok {required : Rights} {file : OpenFile}
    (granted : state.readableFile fd required = .ok file) :
    state.openFiles.lookup fd = some file ∧ file.rightsBase &&& required = required := by
  unfold FilesystemState.readableFile at granted
  cases found : state.openFiles.lookup fd with
  | none => simp [found] at granted
  | some opened =>
    simp only [found] at granted
    split_ifs at granted with denied
    cases granted
    exact ⟨rfl, not_not.mp denied⟩

/-- After a sequential read. -/
def FilesystemState.advanced (state : FilesystemState) (fd : Nat) (file : OpenFile)
    (length : Nat) : FilesystemState :=
  state.setOpenFile fd { file with offset := min (file.offset + length) maxU64 }

theorem advance_meets {length : Nat} {file : OpenFile}
    (readable : state.ensureReadable fd = .ok file) :
    Meets (fun _ _ => False) (fun _ after => after = state.advanced fd file length)
      (FilesystemState.advance fd length) state := by
  simp only [FilesystemState.advance, meets_bind, meets_consult]
  constructor
  · intro err failed
    simp [readable] at failed
  · intro other found
    cases readable.symm.trans found
    exact rfl

theorem advanced_effect {length : Nat} {file : OpenFile}
    (readable : state.ensureReadable fd = .ok file) :
    Effect state (.advance fd length) (state.advanced fd file length) :=
  .described rfl (readableFile_ok readable).1 ((Nat.min_le_right ..).trans (Nat.le_max_right ..))

theorem checkFileEnd_ok {start length stop : Nat}
    (fits : FilesystemState.checkFileEnd start length = .ok stop) :
    stop = start + length ∧ stop ≤ maxFileBytes := by
  unfold FilesystemState.checkFileEnd at fits
  split_ifs at fits with large
  cases fits
  exact ⟨rfl, Nat.le_of_not_lt large⟩

@[simp] theorem growTo_length (bytes : List UInt8) (length : Nat) :
    (growTo bytes length).length = max bytes.length length := by
  rw [growTo, List.length_append, List.length_replicate]
  omega

@[simp] theorem resizeTo_length (bytes : List UInt8) (length : Nat) :
    (resizeTo bytes length).length = length := by
  rw [resizeTo, growTo_length, List.length_take]
  omega

theorem writeAt_length (bytes : List UInt8) (start : Nat) (payload : List UInt8) :
    (writeAt bytes start payload).length = max bytes.length (start + payload.length) := by
  rw [writeAt, overwrite_length, growTo_length, growTo_length]
  omega

/-- A write that ends within the limit. -/
theorem writeAt_bounded {bytes payload : List UInt8} {start : Nat}
    (fits : start + payload.length ≤ maxFileBytes) :
    (writeAt bytes start payload).length ≤ max bytes.length maxFileBytes := by
  rw [writeAt_length]
  omega

theorem maxFileBytes_le : maxFileBytes ≤ maxU64 := by
  decide

theorem prepareWrite_ok {length : Nat} (prepared : state.prepareWrite fd length = .ok ()) :
    ∃ file stop, state.ensureWritable fd = .ok file ∧
      FilesystemState.checkFileEnd (state.writeStart file) length = .ok stop := by
  simp only [FilesystemState.prepareWrite, bind, Except.bind] at prepared
  cases writable : state.ensureWritable fd with
  | error err => simp [writable] at prepared
  | ok file =>
    cases fits : FilesystemState.checkFileEnd (state.writeStart file) length with
    | error err => simp [writable, fits] at prepared
    | ok stop => exact ⟨file, stop, rfl, fits⟩

/-- After a sequential write; an empty payload leaves the file as it is. -/
def FilesystemState.written (state : FilesystemState) (fd : Nat) (file : OpenFile)
    (payload : List UInt8) : FilesystemState :=
  if payload = [] then state
  else
    { state with
      bytes :=
        state.bytes.set file.bytes
          (writeAt (state.bytes.get file.bytes) (state.writeStart file) payload)
      openFiles :=
        state.openFiles.insert fd { file with offset := state.writeStart file + payload.length } }

section Writing

variable {payload : List UInt8} {file : OpenFile} {stop : Nat}

theorem write_meets (writable : state.ensureWritable fd = .ok file)
    (fits : FilesystemState.checkFileEnd (state.writeStart file) payload.length = .ok stop) :
    Meets (fun _ _ => False) (fun _ after => after = state.written fd file payload)
      (FilesystemState.write fd payload) state := by
  have prepared : state.prepareWrite fd payload.length = .ok () := by
    simp only [FilesystemState.prepareWrite, bind, Except.bind, writable, fits]
    rfl
  obtain ⟨rfl, -⟩ := checkFileEnd_ok fits
  simp only [FilesystemState.write, meets_bind, meets_consult, prepared, reduceCtorEq,
    false_implies, implies_true, true_and, meets_ite, meets_pure, FilesystemState.written]
  refine fun _ _ => ⟨fun empty => (if_pos empty).symm, fun nonempty => ?_⟩
  simp only [writable, reduceCtorEq, false_implies, implies_true, true_and, meets_ask,
    meets_modify, Except.ok.injEq, forall_eq', fits]
  exact (if_neg nonempty).symm

theorem written_effect (writable : state.ensureWritable fd = .ok file)
    (fits : FilesystemState.checkFileEnd (state.writeStart file) payload.length = .ok stop) :
    Effect state (.write fd payload) (state.written fd file payload) := by
  obtain ⟨rfl, within⟩ := checkFileEnd_ok fits
  have granted := writableFile_ok writable
  unfold FilesystemState.written
  split_ifs
  · exact .unchanged
  · exact .contents rfl granted.1 (mutates granted.2 (by decide)) (writeAt_bounded within)
      ((within.trans maxFileBytes_le).trans (Nat.le_max_right ..))

end Writing

theorem preparePwrite_ok {offset length : Nat}
    (prepared : state.preparePwrite fd offset length = .ok ()) :
    ∃ file, state.openFiles.lookup fd = some file ∧ file.rightsBase &&& Rights.fdWrite ≠ 0 ∧
      offset + length ≤ maxFileBytes := by
  unfold FilesystemState.preparePwrite at prepared
  cases found : state.openFiles.lookup fd with
  | none => simp [found] at prepared
  | some file =>
    rw [found] at prepared
    dsimp only at prepared
    split_ifs at prepared with denied
    obtain ⟨stop, fits, -⟩ := bind_ok.mp prepared
    obtain ⟨ends, within⟩ := checkFileEnd_ok fits
    rw [ends] at within
    exact ⟨file, rfl, (not_or.mp denied).1, within⟩

/-- After a positioned write. -/
def FilesystemState.pwritten (state : FilesystemState) (file : OpenFile) (offset : Nat)
    (payload : List UInt8) : FilesystemState :=
  if payload = [] then state
  else
    { state with
      bytes :=
        state.bytes.set file.bytes (writeAt (state.bytes.get file.bytes) offset payload) }

section Positioned

variable {payload : List UInt8} {file : OpenFile} {offset : Nat}

theorem pwrite_meets (prepared : state.preparePwrite fd offset payload.length = .ok ())
    (found : state.openFiles.lookup fd = some file) :
    Meets (fun _ _ => False) (fun _ after => after = state.pwritten file offset payload)
      (FilesystemState.pwrite fd offset payload) state := by
  simp only [FilesystemState.pwrite, meets_bind, meets_consult, prepared, reduceCtorEq,
    false_implies, implies_true, true_and, meets_ite, meets_pure, meets_ask, id_eq, found,
    FilesystemState.pwritten]
  exact fun _ _ => ⟨fun empty => (if_pos empty).symm, fun nonempty => (if_neg nonempty).symm⟩

theorem pwritten_effect (prepared : state.preparePwrite fd offset payload.length = .ok ())
    (found : state.openFiles.lookup fd = some file) :
    Effect state (.pwrite fd offset payload) (state.pwritten file offset payload) := by
  obtain ⟨opened, lookup, granted, within⟩ := preparePwrite_ok prepared
  cases found.symm.trans lookup
  unfold FilesystemState.pwritten
  split_ifs
  · exact .unchanged
  · exact .resized rfl found (mutates granted (by decide)) (writeAt_bounded within)

end Positioned

/-- After the length of a file has changed. -/
def FilesystemState.resizedTo (state : FilesystemState) (file : OpenFile)
    (bytes : List UInt8) : FilesystemState :=
  { state with bytes := state.bytes.set file.bytes bytes }

theorem resizeFile_meets {required : Rights} {start length : Nat}
    {change : List UInt8 → Nat → List UInt8} :
    Meets (fun _ after => after = state)
      (fun _ after => ∃ file, state.openFiles.lookup fd = some file ∧
        file.rightsBase &&& required ≠ 0 ∧ start + length ≤ maxFileBytes ∧
        after = state.resizedTo file (change (state.bytes.get file.bytes) (start + length)))
      (FilesystemState.resizeFile fd required start length change) state := by
  simp only [FilesystemState.resizeFile, meets_bind]
  apply FilesystemState.meets_consults
  · intro err
    rfl
  · intro file writable
    apply FilesystemState.meets_consults
    · intro err
      rfl
    · intro stop fits
      obtain ⟨found, granted⟩ := writableFile_ok writable
      obtain ⟨rfl, within⟩ := checkFileEnd_ok fits
      exact ⟨file, found, granted, within, rfl⟩

theorem setSize_meets {size : Nat} :
    Meets (fun _ after => after = state)
      (fun _ after => Effect state (.setSize fd size) after)
      (FilesystemState.setSize fd size) state := by
  apply resizeFile_meets.mono (fun _ _ same => same)
  rintro _ after ⟨file, found, granted, within, rfl⟩
  refine .resized rfl found (mutates granted (by decide)) ?_
  rw [resizeTo_length]
  exact within.trans (Nat.le_max_right ..)

theorem allocate_meets {offset length : Nat} :
    Meets (fun _ after => after = state)
      (fun _ after => Effect state (.allocate fd offset length) after)
      (FilesystemState.allocate fd offset length) state := by
  apply resizeFile_meets.mono (fun _ _ same => same)
  rintro _ after ⟨file, found, granted, within, rfl⟩
  refine .resized rfl found (mutates granted (by decide)) ?_
  rw [growTo_length]
  exact Nat.max_le.mpr ⟨Nat.le_max_left .., within.trans (Nat.le_max_right ..)⟩

theorem setFlags_changes {flags : BitVec 16} :
    Meets (fun _ after => after = state)
      (fun _ after => ∃ file, state.openFiles.lookup fd = some file ∧
        after = state.setOpenFile fd { file with flags })
      (FilesystemState.setFlags fd flags) state := by
  simp only [FilesystemState.setFlags, meets_bind, meets_ask, id_eq]
  cases found : state.openFiles.lookup fd with
  | none => exact rfl
  | some file =>
    simp only [meets_ite, meets_fail, meets_modify]
    exact ⟨fun _ => trivial, fun _ => ⟨fun _ => trivial, fun _ => ⟨file, rfl, rfl⟩⟩⟩

theorem setFlags_meets {flags : BitVec 16} :
    Meets (fun _ after => after = state)
      (fun _ after => Effect state (.setFlags fd flags) after)
      (FilesystemState.setFlags fd flags) state := by
  apply setFlags_changes.mono (fun _ _ same => same)
  rintro _ after ⟨file, found, rfl⟩
  exact .described rfl found (Nat.le_max_left ..)

theorem setTimes_meets {update : TimeUpdate} :
    Meets (fun _ after => after = state)
      (fun _ after => Effect state (.setTimes fd update) after)
      (FilesystemState.setTimes fd update) state := by
  simp only [FilesystemState.setTimes, meets_bind, meets_ask, id_eq]
  cases found : state.openFiles.lookup fd with
  | none => exact rfl
  | some file =>
    simp only [meets_ite, meets_fail, meets_modify]
    refine ⟨fun _ => trivial, fun granted => ?_⟩
    exact .stamped rfl found (mutates granted (by decide))

theorem commitSeek_meets {ε : Type} {offset : Nat} {file : OpenFile}
    (found : state.openFiles.lookup fd = some file) :
    Meets (fun _ _ => False)
      (fun committed after =>
        committed = true ∧ after = state.setOpenFile fd { file with offset })
      (FilesystemState.commitSeek fd offset : Action FilesystemState ε Bool) state := by
  simp only [FilesystemState.commitSeek, meets_bind, meets_ask, id_eq, found, meets_modify,
    meets_pure]
  exact ⟨trivial, trivial⟩

theorem prepareSeek_ok {delta : Int} {whence offset : Nat}
    (prepared : state.prepareSeek fd delta whence = .ok offset) :
    ∃ file base, state.openFiles.lookup fd = some file ∧
      state.seekBase file whence = some base ∧ (offset : Int) = base + delta ∧
      offset ≤ maxU64 := by
  unfold FilesystemState.prepareSeek at prepared
  cases found : state.openFiles.lookup fd with
  | none => simp [found] at prepared
  | some file =>
    rw [found] at prepared
    dsimp only at prepared
    cases origin : state.seekBase file whence with
    | none => simp [origin] at prepared
    | some base =>
      rw [origin] at prepared
      dsimp only at prepared
      generalize (if whence = whenceCur ∧ delta = 0 then Rights.fdSeek ||| Rights.fdTell
        else Rights.fdSeek) = required at prepared
      split_ifs at prepared with denied negative large
      cases prepared
      exact ⟨file, base, rfl, origin, Int.toNat_of_nonneg (Int.not_lt.mp negative), by omega⟩

theorem pathSetTimes_meets {update : TimeUpdate} :
    Meets (fun _ after => after = state)
      (fun _ after => Effect state (.pathSetTimes dirFd path update) after)
      (FilesystemState.pathSetTimes dirFd path update) state := by
  simp only [FilesystemState.pathSetTimes, meets_bind]
  apply FilesystemState.meets_resolve
  · intro err
    rfl
  · intro location rights resolved
    simp only [meets_ask, id_eq]
    cases found : state.fileAt location with
    | some file =>
      simp only [meets_ite, meets_fail, meets_modify]
      refine ⟨fun _ => trivial, fun writable => ?_⟩
      exact .stampedFile resolved found (not_not.mp writable)
    | none =>
      dsimp only
      cases directory : state.mountedDirectories.findIdx? (·.toLocation = location) with
      | some index => exact .stampedDirectory resolved directory
      | none =>
        dsimp only
        cases link : state.mountedSymlinks.findIdx? (·.toLocation = location) with
        | some index => exact .stampedSymlink resolved link
        | none => exact rfl

end Operations

end MiniWasm.Wasi
