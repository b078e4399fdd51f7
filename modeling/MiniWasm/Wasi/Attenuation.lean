import MiniWasm.Wasi.Identity
import MiniWasm.Wasi.Lifetimes

/-!
# Rights of new descriptors

What `fd_fdstat_get` reports of a directory descriptor and what `path_open` grants
through it come from different places.  They agree for a preopen that is live.
-/

namespace MiniWasm.Wasi

open Library Action MiniWasm.Runtime FilesystemState Preview1

/-! ## Masks -/

theorem preopenRights_eq (writable : Bool) : preopenRights writable = preopenBase writable := by
  cases writable <;> decide

theorem inheriting_writable : preopenInheriting true = Rights.allowedFileBase := by
  decide

theorem inheriting_readOnly :
    preopenInheriting false = Rights.allowedFileBase &&& ~~~Rights.mutation := by
  decide

theorem base_writable : Rights.allowedDirectoryBase.Within (preopenBase true) := by
  decide

/-! ## What is reported -/

section Reported

variable {wasi : Preview1} {state : WasiState} {dirFd : Nat}

/-- The report for a number that was configured as a preopen is that of the
configuration, whatever the number is now. -/
theorem describe_configured (mounted : Mounted wasi)
    (configured : dirFd ∈ wasi.state.filesystem.reservedPreopens)
    (filesystem : FilesystemState) :
    Callbacks.describeDescriptor wasi.config dirFd filesystem =
      some (.directory, 0, preopenBase (wasi.state.filesystem.isWritablePreopen dirFd),
        preopenInheriting (wasi.state.filesystem.isWritablePreopen dirFd)) := by
  have number := ((mounted.registered.reserved dirFd).mp configured).1
  have notInput : dirFd ≠ 0 := by
    rintro rfl
    cases number
  have notOutput : ¬ (dirFd = 1 ∨ dirFd = 2) := by
    rintro (rfl | rfl)
    · exact absurd number (by decide)
    · exact absurd number (by decide)
  rw [Callbacks.describeDescriptor, if_neg notInput, if_neg notOutput, mounted.registered.stats,
    if_pos configured]

/-- The report for any other number describes the descriptor. -/
theorem describe_dynamic (mounted : Mounted wasi) (dynamic : firstDynamicFd ≤ dirFd)
    (notConfigured : dirFd ∉ wasi.state.filesystem.reservedPreopens)
    (filesystem : FilesystemState) :
    Callbacks.describeDescriptor wasi.config dirFd filesystem = filesystem.fdstat dirFd := by
  have notInput : dirFd ≠ 0 := by
    rintro rfl
    cases dynamic
  have notOutput : ¬ (dirFd = 1 ∨ dirFd = 2) := by
    rintro (rfl | rfl)
    · exact absurd dynamic (by decide)
    · exact absurd dynamic (by decide)
  rw [Callbacks.describeDescriptor, if_neg notInput, if_neg notOutput, mounted.registered.stats,
    if_neg notConfigured]

theorem fdstat_directory (separate : Separate state.filesystem) {opened : OpenDirectory}
    (found : state.filesystem.openDirectories.lookup dirFd = some opened) :
    state.filesystem.fdstat dirFd = some (.directory, 0, opened.rightsBase, 0) := by
  have noFile : state.filesystem.openFiles.lookup dirFd = none := by
    cases other : state.filesystem.openFiles.lookup dirFd with
    | none => rfl
    | some file =>
      rw [(separate.files dirFd file other).2] at found
      cases found
  rw [fdstat, noFile, found]
  rfl

end Reported

/-! ## What is granted -/

/-- A file that is opened has no right to change anything in a preopen that is not
writable. -/
theorem Opened.grants {before after : FilesystemState} {dirFd fd : Nat} {path : Path}
    {rightsBase : Rights} {options : OpenOptions}
    (opens : Opened before (.openFile dirFd path rightsBase options) fd after)
    (allowed : rightsBase.Within Rights.allowedFileBase) :
    ∃ base rights, before.directoryContext dirFd = some (base, rights) ∧
      rightsBase.Within (preopenInheriting (before.isWritablePreopen base.preopenFd)) := by
  cases opens with
  | file resolved allocated found admitted =>
    obtain ⟨base, context, samePreopen, -⟩ := resolved_location resolved
    refine ⟨base, _, context, ?_⟩
    rw [← samePreopen]
    cases writable : before.isWritablePreopen _ with
    | true =>
      rw [inheriting_writable]
      exact allowed
    | false =>
      have unchanging : rightsBase &&& Rights.mutation = 0 := by
        by_contra mutates
        rw [(admitted mutates).2] at writable
        cases writable
      rw [inheriting_readOnly]
      apply allowed.and
      rw [Rights.Within, BitVec.not_not]
      exact unchanging
  | created resolved allocated create mayCreate free parent writable =>
    obtain ⟨base, context, samePreopen, -⟩ := resolved_location resolved
    refine ⟨base, _, context, ?_⟩
    rw [← samePreopen, writable, inheriting_writable]
    exact allowed

/-- A directory that is opened has rights of the directory that it is opened through. -/
theorem Opened.attenuated {before after : FilesystemState} {dirFd fd : Nat} {path : Path}
    {rightsBase : Rights}
    (opens : Opened before (.openDirectory dirFd path rightsBase) fd after) :
    ∃ base rights, before.directoryContext dirFd = some (base, rights) ∧
      rightsBase.Within rights := by
  cases opens with
  | directory resolved attenuated =>
    obtain ⟨base, context, -, -⟩ := resolved_location resolved
    exact ⟨base, _, context, attenuated⟩

/-- Every directory descriptor that is new has rights within the first mask, every file
descriptor that is new has rights within the second. -/
structure NewWithin (before after : FilesystemState) (base inheriting : Rights) : Prop where
  directories : ∀ fd opened, before.openDirectories.lookup fd = none →
    after.openDirectories.lookup fd = some opened → opened.rightsBase.Within base
  files : ∀ fd file, before.openFiles.lookup fd = none →
    after.openFiles.lookup fd = some file → file.rightsBase.Within inheriting

section NewWithin

variable {before after : FilesystemState} {dirFd fd : Nat} {path : Path}
  {rightsBase base inheriting : Rights}

theorem Opened.newWithin_directory
    (opens : Opened before (.openDirectory dirFd path rightsBase) fd after) :
    NewWithin before after base inheriting ↔ rightsBase.Within base := by
  cases opens with
  | directory resolved attenuated found parent allocated =>
    constructor
    · intro within
      exact within.directories fd _ (allocateDynamicFd_ok allocated).noDirectory
        (AList.lookup_insert _)
    · intro within
      constructor
      · intro other opened missing lookup
        rcases lookup_insert_cases lookup with ⟨-, rfl⟩ | ⟨-, old⟩
        · exact within
        · rw [missing] at old
          cases old
      · intro other file missing lookup
        rw [show before.openFiles.lookup other = some file from lookup] at missing
        cases missing

theorem Opened.newWithin_file {options : OpenOptions}
    (opens : Opened before (.openFile dirFd path rightsBase options) fd after) :
    NewWithin before after base inheriting ↔ rightsBase.Within inheriting := by
  have opensFile : ∀ {after : FilesystemState} {node : FileNode} {offset : Nat}
      {flags : BitVec 16}, before.openFiles.lookup fd = none →
      after.openDirectories = before.openDirectories →
      after.openFiles =
        before.openFiles.insert fd { node with offset, rightsBase, flags } →
      (NewWithin before after base inheriting ↔ rightsBase.Within inheriting) := by
    intro after node offset flags unused directories files
    constructor
    · intro within
      apply within.files fd { node with offset, rightsBase, flags } unused
      rw [files]
      exact AList.lookup_insert _
    · intro within
      constructor
      · intro other opened missing lookup
        rw [directories, missing] at lookup
        cases lookup
      · intro other file missing lookup
        rw [files] at lookup
        rcases lookup_insert_cases lookup with ⟨-, rfl⟩ | ⟨-, old⟩
        · exact within
        · rw [missing] at old
          cases old
  cases opens with
  | file resolved allocated =>
    exact opensFile (allocateDynamicFd_ok allocated).noFile rfl rfl
  | created resolved allocated =>
    exact opensFile (allocateDynamicFd_ok allocated).noFile rfl rfl

end NewWithin

/-! ## Attenuation -/

/-- What `fd_fdstat_get` reports of the directory bounds the rights of new descriptors: its
base rights those of a directory, its inheriting rights those of a file. -/
def Attenuates (config : Config) (before after : WasiState) (dirFd : Nat) : Prop :=
  ∃ filetype flags base inheriting,
    Callbacks.describeDescriptor config dirFd before.filesystem =
      some (filetype, flags, base, inheriting) ∧
    NewWithin before.filesystem after.filesystem base inheriting

theorem attenuates_iff {config : Config} {before after : WasiState} {dirFd : Nat}
    {filetype : FileType} {flags : BitVec 16} {base inheriting : Rights}
    (reported : Callbacks.describeDescriptor config dirFd before.filesystem =
      some (filetype, flags, base, inheriting)) :
    Attenuates config before after dirFd ↔
      NewWithin before.filesystem after.filesystem base inheriting := by
  constructor
  · rintro ⟨_, _, _, _, described, within⟩
    rw [reported] at described
    cases described
    exact within
  · intro within
    exact ⟨filetype, flags, base, inheriting, reported, within⟩

/-- The condition on an open: through a live preopen; or through a directory whose number
was never that of a preopen, for a directory or without rights; or through a directory whose
number was that of a preopen, with rights that the preopen was configured with. -/
def OpensAsReported (wasi : Preview1) (state : WasiState) (dirFd : Nat) (directory : Bool)
    (rightsBase : Rights) : Prop :=
  state.filesystem.hasPreopen dirFd = true ∨
    if dirFd ∈ wasi.state.filesystem.reservedPreopens then
      wasi.state.filesystem.isWritablePreopen dirFd = true ∨
        rightsBase.Within (if directory then preopenBase false else preopenInheriting false)
    else directory = true ∨ rightsBase = 0

section Reached

variable {wasi : Preview1} {state after : WasiState} {dirFd fd : Nat} {path : Path}
  {rightsBase : Rights}

theorem Reached.preopen_context (reached : Reached wasi state)
    (preopened : state.filesystem.hasPreopen dirFd = true) :
    dirFd ∈ wasi.state.filesystem.reservedPreopens ∧
      state.filesystem.directoryContext dirFd =
        some ({ preopenFd := dirFd, relativePath := [] },
          preopenBase (wasi.state.filesystem.isWritablePreopen dirFd)) ∧
      state.filesystem.isWritablePreopen dirFd =
        wasi.state.filesystem.isWritablePreopen dirFd := by
  have member : dirFd ∈ state.filesystem.reservedPreopens := of_decide_eq_true preopened
  have sameWritable := reached.lifetimes.writable dirFd member
  refine ⟨reached.lifetimes.reserved dirFd member, ?_, sameWritable⟩
  rw [directoryContext, if_pos preopened, directoryRights, if_pos preopened, sameWritable,
    preopenRights_eq]
  rfl

theorem Reached.nested (reached : Reached wasi state)
    (notConfigured : dirFd ∉ wasi.state.filesystem.reservedPreopens)
    (isDirectory : state.filesystem.hasDirectoryDescriptor dirFd = true) :
    state.filesystem.hasPreopen dirFd = false ∧
      ∃ opened, state.filesystem.openDirectories.lookup dirFd = some opened := by
  have notPreopen : state.filesystem.hasPreopen dirFd = false := by
    by_contra preopened
    rw [Bool.not_eq_false] at preopened
    exact notConfigured (reached.preopen_context preopened).1
  refine ⟨notPreopen, Option.isSome_iff_exists.mp ?_⟩
  simpa [hasDirectoryDescriptor, notPreopen] using isDirectory

theorem directory_attenuates_iff (mounted : Mounted wasi) (reached : Reached wasi state)
    (opens : Opened state.filesystem (.openDirectory dirFd path rightsBase) fd after.filesystem)
    (allowed : rightsBase.Within Rights.allowedDirectoryBase)
    (isDirectory : state.filesystem.hasDirectoryDescriptor dirFd = true) :
    Attenuates wasi.config state after dirFd ↔
      OpensAsReported wasi state dirFd true rightsBase := by
  obtain ⟨base, rights, context, attenuated⟩ := opens.attenuated
  unfold OpensAsReported
  by_cases configured : dirFd ∈ wasi.state.filesystem.reservedPreopens
  · rw [attenuates_iff (describe_configured mounted configured _), opens.newWithin_directory,
      if_pos configured]
    constructor
    · intro within
      cases writable : wasi.state.filesystem.isWritablePreopen dirFd with
      | true => exact .inr (.inl rfl)
      | false =>
        rw [writable] at within
        exact .inr (.inr within)
    · rintro (preopened | writable | within)
      · rw [(reached.preopen_context preopened).2.1] at context
        cases context
        exact attenuated
      · rw [writable]
        exact allowed.trans base_writable
      · cases wasi.state.filesystem.isWritablePreopen dirFd with
        | true => exact allowed.trans base_writable
        | false => exact within
  · obtain ⟨notPreopen, opened, found⟩ := reached.nested configured isDirectory
    have reported := describe_dynamic mounted (reached.separate.directories dirFd opened found)
      configured state.filesystem
    rw [fdstat_directory reached.separate found] at reported
    rw [attenuates_iff reported, opens.newWithin_directory, if_neg configured]
    rw [directoryContext_opened reached.separate found] at context
    cases context
    exact ⟨fun _ => .inr (.inl rfl), fun _ => attenuated⟩

theorem file_attenuates_iff {options : OpenOptions} (mounted : Mounted wasi)
    (reached : Reached wasi state)
    (opens : Opened state.filesystem (.openFile dirFd path rightsBase options) fd
      after.filesystem)
    (allowed : rightsBase.Within Rights.allowedFileBase)
    (isDirectory : state.filesystem.hasDirectoryDescriptor dirFd = true) :
    Attenuates wasi.config state after dirFd ↔
      OpensAsReported wasi state dirFd false rightsBase := by
  obtain ⟨base, rights, context, granted⟩ := opens.grants allowed
  unfold OpensAsReported
  by_cases configured : dirFd ∈ wasi.state.filesystem.reservedPreopens
  · rw [attenuates_iff (describe_configured mounted configured _), opens.newWithin_file,
      if_pos configured]
    constructor
    · intro within
      cases writable : wasi.state.filesystem.isWritablePreopen dirFd with
      | true => exact .inr (.inl rfl)
      | false =>
        rw [writable] at within
        exact .inr (.inr within)
    · rintro (preopened | writable | within)
      · obtain ⟨-, atRoot, sameWritable⟩ := reached.preopen_context preopened
        rw [atRoot] at context
        cases context
        rw [← sameWritable]
        exact granted
      · rw [writable, inheriting_writable]
        exact allowed
      · cases wasi.state.filesystem.isWritablePreopen dirFd with
        | true =>
          rw [inheriting_writable]
          exact allowed
        | false => exact within
  · obtain ⟨notPreopen, opened, found⟩ := reached.nested configured isDirectory
    have reported := describe_dynamic mounted (reached.separate.directories dirFd opened found)
      configured state.filesystem
    rw [fdstat_directory reached.separate found] at reported
    rw [attenuates_iff reported, opens.newWithin_file, if_neg configured, Rights.within_zero]
    constructor
    · exact fun none => .inr (.inr none)
    · rintro (preopened | directory | none)
      · rw [notPreopen] at preopened
        cases preopened
      · cases directory
      · exact none

theorem Reached.attenuates_iff (mounted : Mounted wasi) (reached : Reached wasi state)
    {memory : Option LinearMemory} {directory dirFlags pathPtr pathLen openFlags : I32}
    {rightsBase rightsInheriting : I64} {fdFlags openedFd : I32} {request : Request}
    (asks : request =
      { memory, call := .pathOpen directory dirFlags pathPtr pathLen openFlags rightsBase
                          rightsInheriting fdFlags openedFd })
    (opens : (respond wasi.config state request).1 = .ok ()) :
    Attenuates wasi.config state (afterCall wasi.config state request) directory.toNat ↔
      OpensAsReported wasi state directory.toNat (decide (openFlags &&& oflagsDirectory ≠ 0))
        rightsBase := by
  subst asks
  obtain ⟨name, asked, opened, filesystem, written, pathOpens, -, -, same⟩ :=
    (Callbacks.pathOpen_meets rfl).of_ok opens
  obtain ⟨named, noInheriting, rfl, isDirectoryOpen, within, -, -, isDirectory, opening⟩ :=
    pathOpens
  have after : (afterCall wasi.config state
      { memory, call := .pathOpen directory dirFlags pathPtr pathLen openFlags asked.rightsBase
                          rightsInheriting fdFlags openedFd }).filesystem = filesystem :=
    congrArg (fun host : Host => host.state.filesystem) same
  rw [← after] at opening
  rw [← isDirectoryOpen]
  unfold Callbacks.OpenRequest.operation at opening
  cases kind : asked.directory with
  | true =>
    rw [if_pos kind] at opening within
    exact directory_attenuates_iff mounted reached opening within isDirectory
  | false =>
    rw [if_neg (by simp [kind])] at opening within
    exact file_attenuates_iff mounted reached opening within isDirectory

end Reached

/-- A `path_open` that succeeds gives rights within those that are reported of the directory
exactly when it is one of the opens that the report is meant for. -/
theorem open_attenuates_iff {wasi : Preview1} (mounted : Mounted wasi) (requests : List Request)
    (memory : Option LinearMemory) (dirFd dirFlags path pathLen openFlags : I32)
    (rightsBase rightsInheriting : I64) (fdFlags openedFd : I32) :
    let state := afterCalls wasi.config wasi.state requests
    let request : Request :=
      { memory, call := .pathOpen dirFd dirFlags path pathLen openFlags rightsBase
                          rightsInheriting fdFlags openedFd }
    (respond wasi.config state request).1 = .ok () →
      (Attenuates wasi.config state (afterCall wasi.config state request) dirFd.toNat ↔
        OpensAsReported wasi state dirFd.toNat (decide (openFlags &&& oflagsDirectory ≠ 0))
          rightsBase) := by
  intro state request opens
  exact (mounted.reaches requests).attenuates_iff mounted rfl opens

/-- `path_open` of `a` with the right to read, through the preopen. -/
theorem open_attenuates_iff_preopen :
    let wasi := Preview1.workspace true
    let request := fromGuest (.pathOpen 3 0 0 1 0 Rights.fdRead 0 0 16)
    Attenuates wasi.config wasi.state (afterCall wasi.config wasi.state request) 3 ↔
      OpensAsReported wasi wasi.state 3 false Rights.fdRead :=
  open_attenuates_iff (workspace_mounted true) [] (some guestMemory) 3 0 0 1 0 Rights.fdRead 0 0 16
    (by decide)

/-- `path_create_directory` and `path_open` of `d`, and `path_open` of a new file in it. -/
def openNested : List Request :=
  [fromGuest (.pathCreateDirectory 3 2 1),
    fromGuest (.pathOpen 3 0 2 1 2 Rights.allowedDirectoryBase 0 0 16)]

/-- A file that is opened through a directory, whose reported inheriting rights are none, has
the right to read. -/
theorem open_exceeds_report :
    let wasi := Preview1.workspace true
    let state := afterCalls wasi.config wasi.state openNested
    let request := fromGuest (.pathOpen 4 0 0 1 1 Rights.fdRead 0 0 16)
    Mounted wasi ∧ (respond wasi.config state request).1 = .ok () ∧
      ¬ Attenuates wasi.config state (afterCall wasi.config state request) 4 := by
  refine ⟨workspace_mounted true, by decide, ?_⟩
  intro attenuates
  rw [attenuates_iff (show Callbacks.describeDescriptor _ 4 _ = _ from rfl)] at attenuates
  exact absurd (attenuates.files 5 _ (by decide) rfl) (by decide)

end MiniWasm.Wasi
