import MiniWasm.Wasi.Attenuation

/-!
# Descriptions of descriptors

The calls that describe a number, compared with the object that the number is bound to.
Preopens are described as they were configured and listed apart from the other
descriptors, so the two can come apart.
-/

namespace MiniWasm.Wasi

open Library Action MiniWasm.Runtime FilesystemState Preview1 Callback

/-! ## What is enforced -/

namespace FilesystemState

variable (state : FilesystemState)

/-- The rights that files can be opened with through a directory of the preopen. -/
def grantable (preopenFd : Nat) (rights : Rights) : Rights :=
  if rights &&& Rights.pathOpen ≠ Rights.pathOpen then 0
  else if state.isWritablePreopen preopenFd then Rights.allowedFileBase
  else Rights.allowedFileBase &&& ~~~Rights.mutation

/-- The type, flags and rights of the object that a number is bound to. -/
def enforced (fd : Nat) : Option (FileType × BitVec 16 × Rights × Rights) :=
  match state.openFiles.lookup fd, state.directoryContext fd with
  | some file, _ => some (.regularFile, file.flags, file.rightsBase, 0)
  | none, some (base, rights) =>
      some (.directory, 0, rights, state.grantable base.preopenFd rights)
  | none, none => none

/-- A number is live as a preopen, an open file or an open directory. -/
def isLive (fd : Nat) : Bool :=
  state.hasPreopen fd || (state.openFiles.lookup fd).isSome ||
    (state.openDirectories.lookup fd).isSome

end FilesystemState

theorem enforced_isSome (state : FilesystemState) (fd : Nat) :
    (state.enforced fd).isSome = state.isLive fd := by
  unfold enforced isLive directoryContext directoryRights
  cases state.openFiles.lookup fd <;> cases state.hasPreopen fd <;>
    cases state.openDirectories.lookup fd <;> rfl

/-! ## What the calls answer -/

section Answers

variable {config : Config} {state : WasiState} {memory : LinearMemory} {fd pointer : I32}

/-- Bytes that are written where the range has been checked. -/
theorem writeMemory_checked {host : Host} {address : Nat} {bytes : List UInt8}
    (mayWrite : host.capabilities.memoryWrite = true) (found : host.memory = some memory)
    (checked : memory.checkedHostRange address bytes.length = .ok address) :
    writeMemory address bytes host =
      (.ok (), { host with memory := some (memory.writeBytes address bytes) }) := by
  simp [writeMemory, Host.writeMemory, mayWrite, found, checked]

theorem readMemory_checked {host : Host} {address length : Nat}
    (mayRead : host.capabilities.memoryRead = true) (found : host.memory = some memory)
    (checked : memory.checkedHostRange address length = .ok address) :
    readMemory address length host = (.ok (memory.readBytes address length), host) := by
  simp [readMemory, consult, Host.readMemory, mayRead, found, checked, Except.mapError]

theorem writeChecked_checked {host : Host} {address : Nat} {bytes : List UInt8}
    (mayRead : host.capabilities.memoryRead = true)
    (mayWrite : host.capabilities.memoryWrite = true) (found : host.memory = some memory)
    (checked : memory.checkedHostRange address bytes.length = .ok address) :
    writeChecked address bytes host =
      (.ok (), { host with memory := some (memory.writeBytes address bytes) }) := by
  simp only [writeChecked, preflight, bind, readMemory_checked mayRead found checked, pure]
  exact writeMemory_checked mayWrite found checked

theorem encodeFdstat_length (filetype : FileType) (flags : BitVec 16) (base inheriting : Rights) :
    (encodeFdstat filetype flags base inheriting).length = 24 := by
  simp [encodeFdstat, leBytes]

theorem encodeFilestat_length (stat : DescriptorFilestat) : (encodeFilestat stat).length = 64 := by
  simp [encodeFilestat, leBytes]

theorem respond_fdFdstatGet
    (checked : memory.checkedHostRange pointer.toNat 24 = .ok pointer.toNat) :
    let request : Request := { memory := some memory, call := .fdFdstatGet fd pointer }
    respond config state request =
      match Callbacks.describeDescriptor config fd.toNat state.filesystem with
      | none => (.error (.errno .badf), request.host state)
      | some (filetype, flags, base, inheriting) =>
          (.ok (),
            { request.host state with
              memory := some (memory.writeBytes pointer.toNat
                (encodeFdstat filetype flags base inheriting)) }) := by
  intro request
  simp only [respond, request, Call.run, Callbacks.fdFdstatGet, askFilesystem, bind, ask,
    Request.host]
  cases Callbacks.describeDescriptor config fd.toNat state.filesystem with
  | none => rfl
  | some description =>
    obtain ⟨filetype, flags, base, inheriting⟩ := description
    exact writeMemory_checked rfl rfl (by rwa [encodeFdstat_length])

theorem leBytes_injective {left right : Rights}
    (same : leBytes 8 left.toNat = leBytes 8 right.toNat) : left = right := by
  apply BitVec.eq_of_toNat_eq
  exact LinearMemory.toLeBytes_injective left.isLt right.isLt same

/-- A description can be read off the bytes that are written for it. -/
theorem encodeFdstat_injective {filetype otherType : FileType} {flags otherFlags : BitVec 16}
    {base otherBase inheriting otherInheriting : Rights}
    (same : encodeFdstat filetype flags base inheriting =
      encodeFdstat otherType otherFlags otherBase otherInheriting) :
    (filetype, flags, base, inheriting) =
      (otherType, otherFlags, otherBase, otherInheriting) := by
  unfold encodeFdstat at same
  obtain ⟨same, sameInheriting⟩ := List.append_inj' same (by simp [leBytes])
  obtain ⟨same, sameBase⟩ := List.append_inj' same (by simp [leBytes])
  obtain ⟨same, -⟩ := List.append_inj' same rfl
  obtain ⟨same, sameFlags⟩ := List.append_inj' same (by simp [leBytes])
  obtain ⟨sameType, -⟩ := List.append_inj' same rfl
  have codes : filetype.code = otherType.code := by
    apply @LinearMemory.toLeBytes_injective 1 _ _ _ _ sameType
    · cases filetype <;> decide
    · cases otherType <;> decide
  have types : filetype = otherType := by
    cases filetype <;> cases otherType <;> first | rfl | exact absurd codes (by decide)
  have flagsSame : flags = otherFlags := by
    apply BitVec.eq_of_toNat_eq
    exact LinearMemory.toLeBytes_injective flags.isLt otherFlags.isLt sameFlags
  rw [types, flagsSame, leBytes_injective sameBase, leBytes_injective sameInheriting]

theorem respond_fdFilestatGet {file : OpenFile} (dynamic : 2 < fd.toNat)
    (notListed : config.extraFdStats.any (·.fd = fd.toNat) = false)
    (found : state.filesystem.openFiles.lookup fd.toNat = some file)
    (mayAsk : file.rightsBase &&& Rights.fdFilestatGet ≠ 0)
    (checked : memory.checkedHostRange pointer.toNat 64 = .ok pointer.toNat) :
    let request : Request := { memory := some memory, call := .fdFilestatGet fd pointer }
    respond config state request =
      (.ok (),
        { request.host state with
          memory := some (memory.writeBytes pointer.toNat
            (encodeFilestat (state.filesystem.nodeFilestat file.toFileNode))) }) := by
  intro request
  have isFile : ¬ (fd.toNat ≤ 2 ∨ config.extraFdStats.any (·.fd = fd.toNat) = true) := by
    rw [notListed]
    simpa using dynamic
  have answers : state.filesystem.filestat fd.toNat =
      .ok (state.filesystem.nodeFilestat file.toFileNode) := by
    rw [filestat, found]
    exact if_neg mayAsk
  have queried : query DescriptorFilestatError.errno (·.filestat fd.toNat)
      (request.host state) =
      (.ok (state.filesystem.nodeFilestat file.toFileNode), request.host state) := by
    simp [query, consult, Request.host, answers, Except.mapError]
  change Callbacks.fdFilestatGet config fd.toNat pointer.toNat (request.host state) = _
  rw [Callbacks.fdFilestatGet, if_neg isFile]
  simp only [bind, queried]
  exact writeChecked_checked rfl rfl rfl (by rwa [encodeFilestat_length])

/-- The calls on preopens find the number or refuse it. -/
theorem preopenAt_eq (host : Host) (number : Nat) :
    Callbacks.preopenAt number host =
      match host.state.findPreopen number with
      | none => (.error (.errno .badf), host)
      | some entry => (.ok entry, host) := by
  simp only [Callbacks.preopenAt, bind, ask]
  cases host.state.findPreopen number <;> rfl

theorem respond_fdPrestatGet
    (checked : memory.checkedHostRange pointer.toNat 8 = .ok pointer.toNat) :
    (respond config state
        { memory := some memory, call := .fdPrestatGet fd pointer }).1 = .ok () ↔
      (state.findPreopen fd.toNat).isSome = true := by
  simp only [respond, Call.run, Callbacks.fdPrestatGet, bind, preopenAt_eq, Request.host]
  cases state.findPreopen fd.toNat with
  | none => simp
  | some entry =>
    simp only [Option.isSome_some, iff_true]
    rw [writeChecked_checked rfl rfl rfl (by simpa [leBytes] using checked)]

theorem respond_fdPrestatDirName {length : I32}
    (fits : ∀ entry, state.findPreopen fd.toNat = some entry →
      entry.guestPath.length ≤ length.toNat ∧
        memory.checkedHostRange pointer.toNat entry.guestPath.length = .ok pointer.toNat) :
    (respond config state
        { memory := some memory, call := .fdPrestatDirName fd pointer length }).1 = .ok () ↔
      (state.findPreopen fd.toNat).isSome = true := by
  simp only [respond, Call.run, Callbacks.fdPrestatDirName, bind, preopenAt_eq, Request.host]
  cases found : state.findPreopen fd.toNat with
  | none => simp
  | some entry =>
    obtain ⟨short, checked⟩ := fits entry found
    simp only [Option.isSome_some, iff_true]
    rw [if_neg (Nat.not_lt.mpr short), writeChecked_checked rfl rfl rfl checked]

end Answers

/-! ## Coherence -/

/-- The calls that describe a number, when they are given memory that they can write to,
tell what the number is bound to. -/
structure Describes (config : Config) (state : WasiState) (fd : I32) : Prop where
  /-- `fd_fdstat_get` succeeds exactly for a live number. -/
  live : ∀ (memory : LinearMemory) (pointer : I32),
    memory.checkedHostRange pointer.toNat 24 = .ok pointer.toNat →
    ((respond config state { memory := some memory, call := .fdFdstatGet fd pointer }).1 =
      .ok () ↔ state.filesystem.isLive fd.toNat = true)
  /-- It writes the type, flags and rights that are enforced. -/
  fdstat : ∀ (memory : LinearMemory) (pointer : I32) filetype flags base inheriting,
    memory.checkedHostRange pointer.toNat 24 = .ok pointer.toNat →
    state.filesystem.enforced fd.toNat = some (filetype, flags, base, inheriting) →
    (respond config state { memory := some memory, call := .fdFdstatGet fd pointer }).2.memory =
      some (memory.writeBytes pointer.toNat (encodeFdstat filetype flags base inheriting))
  /-- `fd_filestat_get` describes an open file that has the right. -/
  filestat : ∀ (memory : LinearMemory) (pointer : I32) file,
    memory.checkedHostRange pointer.toNat 64 = .ok pointer.toNat →
    state.filesystem.openFiles.lookup fd.toNat = some file →
    file.rightsBase &&& Rights.fdFilestatGet ≠ 0 →
    let request : Request := { memory := some memory, call := .fdFilestatGet fd pointer }
    (respond config state request).1 = .ok () ∧
      (respond config state request).2.memory =
        some (memory.writeBytes pointer.toNat
          (encodeFilestat (state.filesystem.nodeFilestat file.toFileNode)))
  /-- `fd_prestat_get` succeeds exactly for a live preopen. -/
  prestat : ∀ (memory : LinearMemory) (pointer : I32),
    memory.checkedHostRange pointer.toNat 8 = .ok pointer.toNat →
    ((respond config state { memory := some memory, call := .fdPrestatGet fd pointer }).1 =
      .ok () ↔ state.filesystem.hasPreopen fd.toNat = true)
  /-- So does `fd_prestat_dir_name`, when the name fits. -/
  name : ∀ (memory : LinearMemory) (pointer length : I32),
    (∀ entry, state.findPreopen fd.toNat = some entry →
      entry.guestPath.length ≤ length.toNat ∧
        memory.checkedHostRange pointer.toNat entry.guestPath.length = .ok pointer.toNat) →
    ((respond config state
        { memory := some memory, call := .fdPrestatDirName fd pointer length }).1 = .ok () ↔
      state.filesystem.hasPreopen fd.toNat = true)

/-- The condition on a number: if it was configured as a preopen, it is a live one, or it was
a read-only one and is now a directory that has the same rights and the same rights for
files; and else it is not a directory that files can be opened through. -/
def DescribedAsBound (wasi : Preview1) (state : FilesystemState) (fd : Nat) : Prop :=
  if fd ∈ wasi.state.filesystem.reservedPreopens then
    state.hasPreopen fd = true ∨
      wasi.state.filesystem.isWritablePreopen fd = false ∧
        ∃ opened, state.openDirectories.lookup fd = some opened ∧
          opened.rightsBase = preopenBase false ∧
          state.isWritablePreopen opened.preopenFd = false
  else
    ∀ opened, state.openDirectories.lookup fd = some opened →
      opened.rightsBase &&& Rights.pathOpen ≠ Rights.pathOpen

section Coherence

variable {wasi : Preview1} {state : WasiState} {fd : Nat}

theorem grantable_base (filesystem : FilesystemState) (preopenFd : Nat) (writable : Bool) :
    filesystem.grantable preopenFd (preopenBase writable) =
      preopenInheriting (filesystem.isWritablePreopen preopenFd) := by
  rw [grantable, if_neg (by cases writable <;> decide)]
  cases filesystem.isWritablePreopen preopenFd with
  | true => exact inheriting_writable.symm
  | false => exact inheriting_readOnly.symm

theorem enforced_opened (separate : Separate state.filesystem) {opened : OpenDirectory}
    (found : state.filesystem.openDirectories.lookup fd = some opened) :
    state.filesystem.enforced fd =
      some (.directory, 0, opened.rightsBase,
        state.filesystem.grantable opened.preopenFd opened.rightsBase) := by
  have noFile : state.filesystem.openFiles.lookup fd = none := by
    cases other : state.filesystem.openFiles.lookup fd with
    | none => rfl
    | some file =>
      rw [(separate.files fd file other).2] at found
      cases found
  rw [enforced, noFile, directoryContext_opened separate found]

theorem enforced_preopen (reached : Reached wasi state)
    (preopened : state.filesystem.hasPreopen fd = true) :
    state.filesystem.enforced fd =
      some (.directory, 0, preopenBase (wasi.state.filesystem.isWritablePreopen fd),
        preopenInheriting (wasi.state.filesystem.isWritablePreopen fd)) := by
  obtain ⟨-, context, sameWritable⟩ := reached.preopen_context preopened
  rw [enforced, (reached.separate.preopens fd preopened).2.1, context]
  simp only [grantable_base, sameWritable]

/-- A number that is a directory but not a preopen is an open directory. -/
theorem opened_of_enforced {flags : BitVec 16} {base inheriting : Rights}
    (notPreopen : state.filesystem.hasPreopen fd = false)
    (bound : state.filesystem.enforced fd = some (.directory, flags, base, inheriting)) :
    ∃ opened, state.filesystem.openDirectories.lookup fd = some opened := by
  unfold enforced directoryContext at bound
  cases found : state.filesystem.openDirectories.lookup fd with
  | some opened => exact ⟨opened, rfl⟩
  | none =>
    cases file : state.filesystem.openFiles.lookup fd with
    | some file => simp [file] at bound
    | none => simp [file, notPreopen, found] at bound

/-- What is reported is what is enforced exactly under the condition. -/
theorem describe_eq_enforced_iff (mounted : Mounted wasi) (reached : Reached wasi state)
    (dynamic : firstDynamicFd ≤ fd) :
    Callbacks.describeDescriptor wasi.config fd state.filesystem = state.filesystem.enforced fd ↔
      DescribedAsBound wasi state.filesystem fd := by
  unfold DescribedAsBound
  by_cases configured : fd ∈ wasi.state.filesystem.reservedPreopens
  · rw [describe_configured mounted configured, if_pos configured]
    constructor
    · intro same
      rw [or_iff_not_imp_left]
      intro notPreopen
      rw [Bool.not_eq_true] at notPreopen
      obtain ⟨opened, found⟩ := opened_of_enforced notPreopen same.symm
      rw [enforced_opened reached.separate found] at same
      simp only [Option.some.injEq, Prod.mk.injEq, true_and] at same
      obtain ⟨sameRights, sameGrants⟩ := same
      have granted := reached.granted fd opened found
      cases writable : wasi.state.filesystem.isWritablePreopen fd with
      | true =>
        rw [← sameRights, writable] at granted
        exact absurd granted (by decide)
      | false =>
        rw [writable] at sameRights sameGrants
        refine ⟨rfl, opened, found, sameRights.symm, ?_⟩
        rw [← sameRights, grantable_base] at sameGrants
        cases now : state.filesystem.isWritablePreopen opened.preopenFd with
        | true =>
          rw [now] at sameGrants
          exact absurd sameGrants (by decide)
        | false => rfl
    · rintro (preopened | ⟨readOnly, opened, found, sameRights, notWritable⟩)
      · rw [enforced_preopen reached preopened]
      · rw [enforced_opened reached.separate found, sameRights, grantable_base, readOnly,
          notWritable]
  · have notPreopen : state.filesystem.hasPreopen fd = false := by
      by_contra preopened
      rw [Bool.not_eq_false] at preopened
      exact configured (reached.preopen_context preopened).1
    rw [describe_dynamic mounted dynamic configured, if_neg configured]
    cases found : state.filesystem.openDirectories.lookup fd with
    | some opened =>
      rw [fdstat_directory reached.separate found, enforced_opened reached.separate found]
      simp only [Option.some.injEq, Prod.mk.injEq, true_and, forall_eq']
      rw [grantable]
      split_ifs with noOpen writable
      · exact iff_of_true rfl noOpen
      · exact iff_of_false (by decide) noOpen
      · exact iff_of_false (by decide) noOpen
    | none =>
      have context : state.filesystem.directoryContext fd = none := by
        simp [directoryContext, notPreopen, found]
      refine iff_of_true ?_ fun opened impossible => by cases impossible
      rw [fdstat, enforced, context, found]
      cases state.filesystem.openFiles.lookup fd <;> rfl

theorem stats_any (mounted : Mounted wasi)
    (notConfigured : fd ∉ wasi.state.filesystem.reservedPreopens) :
    wasi.config.extraFdStats.any (·.fd = fd) = false := by
  have missing := mounted.registered.stats fd
  rw [if_neg notConfigured] at missing
  simpa using missing

/-- The calls tell what a number is bound to exactly when what is reported is what is
enforced. -/
theorem describes_iff (mounted : Mounted wasi) (reached : Reached wasi state) (number : I32)
    (dynamic : firstDynamicFd ≤ number.toNat) :
    Describes wasi.config state number ↔
      Callbacks.describeDescriptor wasi.config number.toNat state.filesystem =
        state.filesystem.enforced number.toNat := by
  have preopens := reached.lifetimes.findPreopen mounted number.toNat
  constructor
  · intro describes
    have checked : guestMemory.checkedHostRange (0 : I32).toNat 24 = .ok (0 : I32).toNat := rfl
    have live := describes.live guestMemory 0 checked
    have written := describes.fdstat guestMemory 0
    rw [respond_fdFdstatGet checked, ← enforced_isSome] at live
    rw [respond_fdFdstatGet checked] at written
    cases reported : Callbacks.describeDescriptor wasi.config number.toNat state.filesystem with
    | none =>
      simp only [reported] at live
      rw [eq_comm, ← Option.isNone_iff_eq_none, ← Option.not_isSome]
      simpa using live
    | some report =>
      obtain ⟨filetype, flags, base, inheriting⟩ := report
      simp only [reported, true_iff] at live
      obtain ⟨⟨boundType, boundFlags, boundBase, boundInheriting⟩, bound⟩ :=
        Option.isSome_iff_exists.mp live
      have sameMemory := written boundType boundFlags boundBase boundInheriting checked bound
      simp only [reported, Option.some.injEq] at sameMemory
      have fits : (0 : I32).toNat + 24 ≤ guestMemory.bytes.length := by decide
      have sameBytes : encodeFdstat filetype flags base inheriting =
          encodeFdstat boundType boundFlags boundBase boundInheriting := by
        apply LinearMemory.writeBytes_injective _ _ _ sameMemory
        · rw [encodeFdstat_length, encodeFdstat_length]
        · rw [encodeFdstat_length]
          exact fits
      rw [bound, encodeFdstat_injective sameBytes]
  · intro same
    constructor
    · intro memory pointer checked
      rw [respond_fdFdstatGet checked, ← enforced_isSome, same]
      cases state.filesystem.enforced number.toNat with
      | none => simp
      | some report => simp
    · intro memory pointer filetype flags base inheriting checked bound
      rw [respond_fdFdstatGet checked, same, bound]
    · intro memory pointer file checked found mayAsk request
      have isFile : Callbacks.describeDescriptor wasi.config number.toNat state.filesystem =
          some (.regularFile, file.flags, file.rightsBase, 0) := by
        rw [same, enforced, found]
      have notConfigured : number.toNat ∉ wasi.state.filesystem.reservedPreopens := by
        intro configured
        rw [describe_configured mounted configured] at isFile
        cases isFile
      rw [respond_fdFilestatGet dynamic (stats_any mounted notConfigured) found mayAsk checked]
      exact ⟨rfl, rfl⟩
    · intro memory pointer checked
      rw [respond_fdPrestatGet checked, preopens]
    · intro memory pointer length fits
      rw [respond_fdPrestatDirName fits, preopens]

end Coherence

/-- After any calls, the calls that describe a number tell what it is bound to exactly when
the number is not that of a closed preopen, and not a directory that files can be opened
through. -/
theorem descriptions_coherent_iff {wasi : Preview1} (mounted : Mounted wasi)
    (requests : List Request) (fd : I32) (dynamic : 3 ≤ fd.toNat) :
    Describes wasi.config (afterCalls wasi.config wasi.state requests) fd ↔
      DescribedAsBound wasi (afterCalls wasi.config wasi.state requests).filesystem fd.toNat := by
  rw [describes_iff mounted (mounted.reaches requests) fd dynamic]
  exact describe_eq_enforced_iff mounted (mounted.reaches requests) dynamic

/-- A number that is neither configured nor a directory is described as it is bound. -/
theorem DescribedAsBound.of_noDirectory {wasi : Preview1} {state : FilesystemState} {fd : Nat}
    (notConfigured : fd ∉ wasi.state.filesystem.reservedPreopens)
    (noDirectory : state.openDirectories.lookup fd = none) : DescribedAsBound wasi state fd := by
  rw [DescribedAsBound, if_neg notConfigured]
  intro opened found
  cases noDirectory.symm.trans found

/-- The file `a` in `d` is created as 5; then the preopen is closed and the file is opened
again. -/
def reusePreopen : List Request :=
  openNested ++ [fromGuest (.pathOpen 3 0 2 3 1 Rights.fdRead 0 0 16), fromGuest (.fdClose 3),
    fromGuest (.pathOpen 4 0 0 1 0 Rights.fdRead 0 0 16)]

/-- The file has the number of the preopen and is described as the preopen; the other
descriptor of it is described as it is. -/
theorem descriptions_coherent_iff_reused :
    let wasi := Preview1.workspace true
    let state := afterCalls wasi.config wasi.state reusePreopen
    state.filesystem.openFiles.lookup 3 ≠ none ∧ ¬ Describes wasi.config state 3 ∧
      Describes wasi.config state 5 := by
  intro wasi state
  have mounted := workspace_mounted true
  refine ⟨by decide, ?_, ?_⟩
  · intro describes
    have bound := (descriptions_coherent_iff mounted reusePreopen 3 (by decide)).mp describes
    rw [DescribedAsBound, if_pos (by decide)] at bound
    rcases bound with preopened | ⟨readOnly, -⟩
    · exact absurd preopened (by decide)
    · exact absurd readOnly (by decide)
  · exact (descriptions_coherent_iff mounted reusePreopen 5 (by decide)).mpr
      (.of_noDirectory (by decide) (by decide))

/-- A preopen that has been closed is still described; and the rights for files of a
directory are not reported. -/
theorem stale_description :
    let wasi := Preview1.workspace true
    Mounted wasi ∧
      ¬ Describes wasi.config (afterCalls wasi.config wasi.state [fromGuest (.fdClose 3)]) 3 ∧
      ¬ Describes wasi.config (afterCalls wasi.config wasi.state openNested) 4 := by
  have mounted := workspace_mounted true
  refine ⟨mounted, ?_, ?_⟩
  · intro describes
    exact absurd ((describes_iff mounted (mounted.reaches _) 3 (by decide)).mp describes)
      (by decide)
  · intro describes
    exact absurd ((describes_iff mounted (mounted.reaches _) 4 (by decide)).mp describes)
      (by decide)

end MiniWasm.Wasi
