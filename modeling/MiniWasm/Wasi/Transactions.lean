import MiniWasm.Wasi.Streams

/-!
# Calls as transactions

A call either is refused with an error number, and leaves what it found, or
performs one operation on the filesystem.  The operation is one that its arguments
ask for.
-/

namespace MiniWasm.Wasi

open Library Action MiniWasm.Runtime

/-! ## Outcomes -/

/-- The writable preopens are among the reserved numbers, and no number is listed
twice. -/
structure FilesystemState.Reserved (state : FilesystemState) : Prop where
  subset : state.writablePreopens ⊆ state.reservedPreopens
  reserved : state.reservedPreopens.Nodup
  writable : state.writablePreopens.Nodup

/-- The standard input has not been read past its end. -/
structure WasiState.Coherent (state : WasiState) : Prop where
  reserved : state.filesystem.Reserved
  stdinWithin : state.stdin.offset ≤ state.stdin.bytes.length

/-- A call that is refused. -/
inductive Refused (before : Host) : Failure → Host → Prop where
  | denied {errno : Errno} {filesystem : FilesystemState} (failure : errno ≠ .success)
      (untouched : Untouched before.state.filesystem filesystem) :
      Refused before (.errno errno) (before.withFilesystem filesystem)

theorem Refused.denies {host : Host} : Denies (Refused host) host :=
  fun _ denied => .denied denied .same

/-- What an operation does to the preopens. -/
def Operation.preopens (entries : List PreopenDir) : Operation → List PreopenDir
  | .close fd =>
      match entries.findIdx? (·.fd = fd) with
      | some index => entries.modify index fun entry => { entry with live := false }
      | none => entries
  | _ => entries

/-- A call that performs an operation. -/
structure Performed (before after : WasiState) (operation : Operation) : Prop where
  effect : Effect before.filesystem operation after.filesystem
  preopens : after.preopens = operation.preopens before.preopens
  stdin : after.stdin = before.stdin ∨
    ∃ length, after.stdin = before.stdin.advance length

/-- The operations that a call asks for, given the memory its path arguments are in. -/
def Asks (memory : Option LinearMemory) : Call → Operation → Prop
  | .fdWrite fd .., operation =>
      operation = .nothing ∨ ∃ payload, operation = .write fd.toNat payload
  | .fdRead fd .., operation =>
      operation = .nothing ∨ ∃ length, operation = .advance fd.toNat length
  | .fdPwrite fd _ _ offset _, operation =>
      ∃ payload, operation = .pwrite fd.toNat offset.toNat payload
  | .fdSeek fd .., operation => ∃ offset, operation = .commitSeek fd.toNat offset
  | .fdFdstatSetFlags fd flags, operation =>
      operation = .setFlags fd.toNat (BitVec.ofNat 16 flags.toNat)
  | .fdFilestatSetSize fd size, operation => operation = .setSize fd.toNat size.toNat
  | .fdFilestatSetTimes fd .., operation => ∃ update, operation = .setTimes fd.toNat update
  | .fdAllocate fd offset length, operation =>
      operation = .allocate fd.toNat offset.toNat length.toNat
  | .fdClose fd, operation => operation = .close fd.toNat
  | .pathCreateDirectory dirFd path length, operation =>
      ∃ name, pathArgument memory path.toNat length.toNat = some name ∧
        operation = .createDirectory dirFd.toNat name
  | .pathRemoveDirectory dirFd path length, operation =>
      ∃ name, pathArgument memory path.toNat length.toNat = some name ∧
        operation = .removeDirectory dirFd.toNat name
  | .pathSymlink _ _ dirFd path length, operation =>
      ∃ name target, pathArgument memory path.toNat length.toNat = some name ∧
        operation = .symlink dirFd.toNat name target
  | .pathFilestatSetTimes dirFd _ path length _ _ _, operation =>
      ∃ name update, pathArgument memory path.toNat length.toNat = some name ∧
        operation = .pathSetTimes dirFd.toNat name update
  | .pathOpen dirFd _ path length _ rightsBase rightsInheriting _ _, operation =>
      ∃ name, pathArgument memory path.toNat length.toNat = some name ∧
        rightsInheriting = 0 ∧
        ((Rights.Within rightsBase Rights.allowedDirectoryBase ∧
            operation = .openDirectory dirFd.toNat name rightsBase) ∨
          (Rights.Within rightsBase Rights.allowedFileBase ∧ ∃ options,
            operation = .openFile dirFd.toNat name rightsBase options))
  | .pathLink oldFd _ oldPath oldLength newFd newPath newLength, operation =>
      ∃ oldName newName, pathArgument memory oldPath.toNat oldLength.toNat = some oldName ∧
        pathArgument memory newPath.toNat newLength.toNat = some newName ∧
        operation = .link oldFd.toNat oldName newFd.toNat newName
  | .pathRename oldFd oldPath oldLength newFd newPath newLength, operation =>
      ∃ oldName newName, pathArgument memory oldPath.toNat oldLength.toNat = some oldName ∧
        pathArgument memory newPath.toNat newLength.toNat = some newName ∧
        operation =
          .rename { preopenFd := oldFd.toNat, relativePath := oldName }
            { preopenFd := newFd.toNat, relativePath := newName }
  | .pathUnlinkFile dirFd path length, operation =>
      ∃ name, pathArgument memory path.toNat length.toNat = some name ∧
        operation = .unlink dirFd.toNat name
  | _, operation => operation = .nothing

/-- The call is refused, or performs an operation that it asks for. -/
def Performs (callback : Callback Unit) (host : Host) (asked : Operation → Prop) : Prop :=
  Meets (Refused host)
    (fun _ after => ∃ operation, asked operation ∧ Performed host.state after.state operation)
    callback host

/-! ## Rules -/

section Rules

variable {host : Host} {α : Type}

theorem Performed.reported {before after : WasiState} (same : after = before) :
    Performed before after .nothing := by
  rw [same]
  exact ⟨.unchanged, rfl, .inl rfl⟩

theorem Rewritten.performed {after : Host} (rewrites : Rewritten host after) :
    ∃ operation, operation = .nothing ∧ Performed host.state after.state operation :=
  ⟨.nothing, rfl, .reported rewrites.state⟩

theorem onFilesystem_refuses {ε : Type} {convert : ε → Failure}
    {action : Action FilesystemState ε α} {done : α → Host → Prop}
    (meets : Meets (fun _ after => Untouched host.state.filesystem after)
      (fun value after => done value (host.withFilesystem after)) action
      host.state.filesystem)
    (denied : ∀ err, ∃ errno, convert err = .errno errno ∧ errno ≠ .success) :
    Meets (Refused host) done (Callback.onFilesystem convert action) host := by
  unfold Callback.onFilesystem
  rw [meets_zoom]
  apply meets.mono
  · intro err after untouched
    obtain ⟨errno, converted, failure⟩ := denied err
    rw [converted]
    exact .denied failure untouched
  · intro value after holds
    exact holds

/-- An operation whose failures leave the state. -/
theorem onFilesystem_performs {ε : Type} {operation : Operation} {asked : Operation → Prop}
    {convert : ε → Errno} {action : Action FilesystemState ε Unit} (asks : asked operation)
    (meets : Meets (fun _ after => after = host.state.filesystem)
      (fun _ after => Effect host.state.filesystem operation after) action
      host.state.filesystem)
    (denied : ∀ err, convert err ≠ .success)
    (same : operation.preopens host.state.preopens = host.state.preopens) :
    Performs (Callback.onFilesystem (fun err => .errno (convert err)) action) host asked := by
  apply onFilesystem_refuses
  · apply meets.mono
    · rintro err after rfl
      exact .same
    · intro value after effect
      exact ⟨operation, asks, effect, same.symm, .inl rfl⟩
  · intro err
    exact ⟨convert err, rfl, denied err⟩

end Rules

namespace Callbacks

variable {config : Config} {host : Host}

/-! ## Parts of calls -/

theorem preopenAt_meets {fd : Nat} {done : PreopenDir → Host → Prop}
    (finds : ∀ entry, done entry host) : Meets (Refused host) done (preopenAt fd) host := by
  simp only [preopenAt, meets_bind, meets_ask]
  cases host.state.findPreopen fd with
  | none => exact failWith_meets Refused.denies (by decide)
  | some entry => exact finds entry

theorem checkLookupFlags_meets {flags : BitVec 32} {done : Unit → Host → Prop}
    (passes : done () host) : Meets (Refused host) done (checkLookupFlags flags) host := by
  have denies : Denies (Refused host) host := Refused.denies
  simp only [checkLookupFlags, meets_ite]
  refine ⟨fun _ => failWith_meets denies (by decide), fun _ => ?_⟩
  exact ⟨fun _ => failWith_meets denies (by decide), fun _ => passes⟩

theorem layoutStrings_denied {bufPtr maxBytes : Nat} (entries : List (List UInt8))
    (table payload : List UInt8) :
    layoutStrings bufPtr maxBytes entries table payload ≠ .error .success := by
  induction entries generalizing table payload with
  | nil =>
    intro success
    cases success
  | cons entry entries ih =>
    unfold layoutStrings
    split_ifs
    · decide
    · decide
    · decide
    · exact ih _ _

theorem clockSnapshot_meets {clockId : Nat} {done : ClockSnapshot → Host → Prop}
    (finds : ∀ snapshot, done snapshot host) :
    Meets (Refused host) done (clockSnapshot config clockId) host := by
  unfold clockSnapshot
  cases config.clocks.snapshot clockId with
  | none => exact failWith_meets Refused.denies (by decide)
  | some snapshot => exact finds snapshot

theorem timeUpdate_meets {atim mtim : Nat} {flags : BitVec 32}
    {done : TimeUpdate → Host → Prop} (finds : ∀ update, done update host) :
    Meets (Refused host) done (timeUpdate config atim mtim flags) host := by
  unfold timeUpdate
  cases resolveTimeUpdate atim mtim flags config.clocks.realtimeTime with
  | none => exact failWith_meets Refused.denies (by decide)
  | some update => exact finds update

/-- A subscription that is not answered is refused with an error. -/
theorem readyEvent_raises {filesystem : FilesystemState} {subscription : List UInt8} :
    Raises (· ≠ .success) (readyEvent config filesystem subscription) := by
  have clock : Raises (· ≠ .success) (readyClockEvent config subscription) := by
    simp only [readyClockEvent, raises_ite, raises_error]
    refine ⟨fun _ => by decide, fun _ => ⟨fun _ => by decide, fun _ => ?_⟩⟩
    cases config.clocks.snapshot (Callback.u32At subscription 16) with
    | none => simp
    | some snapshot => simp
  have read (fd : Nat) : Raises (· ≠ .success) (pollFdReadReady filesystem fd) := by
    simp only [pollFdReadReady, raises_ite, raises_ok, implies_true, true_and]
    intro _
    exact raises_mapError fun err _ => by cases err <;> decide
  have write (fd : Nat) : Raises (· ≠ .success) (pollFdWriteReady filesystem fd) := by
    simp only [pollFdWriteReady, raises_ite, raises_ok, implies_true, true_and]
    intro _
    exact raises_mapError fun err _ => by cases err <;> decide
  simp [readyEvent, clock, read, write]

theorem encodeEvent_length (userdata eventType nbytes : Nat) (hangup : Bool) :
    (encodeEvent userdata eventType nbytes hangup).length = 32 := by
  simp [encodeEvent, Callback.leBytes]

theorem readyEvent_ensures {filesystem : FilesystemState} {subscription : List UInt8} :
    Ensures (·.length = 32) (readyEvent config filesystem subscription) := by
  have clock : Ensures (·.length = 32) (readyClockEvent config subscription) := by
    simp only [readyClockEvent, ensures_ite, ensures_error, implies_true, true_and]
    intro _ _
    cases config.clocks.snapshot (Callback.u32At subscription 16) with
    | none => simp
    | some snapshot => simp [encodeEvent_length]
  have any {α : Type} (run : Except Errno α) : Ensures (fun _ => True) run :=
    fun _ _ => trivial
  simp [readyEvent, clock, encodeEvent_length, any]

theorem readyEvents_denied {filesystem : FilesystemState} (count : Nat)
    (subscriptions events : List UInt8) :
    readyEvents config filesystem count subscriptions events ≠ .error .success := by
  induction count generalizing subscriptions events with
  | zero =>
    intro success
    cases success
  | succ count ih =>
    intro success
    have raises : Raises (· ≠ .success)
        (readyEvents config filesystem (count + 1) subscriptions events) := by
      simp only [readyEvents, raises_bind]
      refine ⟨readyEvent_raises, fun event _ errno failed success => ?_⟩
      exact ih _ _ (success ▸ failed)
    exact raises _ success rfl

theorem readyEvents_length {filesystem : FilesystemState} (count : Nat)
    (subscriptions events : List UInt8) :
    Ensures (·.length = events.length + 32 * count)
      (readyEvents config filesystem count subscriptions events) := by
  induction count generalizing subscriptions events with
  | zero => simp [readyEvents]
  | succ count ih =>
    simp only [readyEvents, ensures_bind]
    refine readyEvent_ensures.mono fun event length => (ih _ _).mono fun all total => ?_
    rw [total, List.length_append, length]
    omega

/-! ## Calls that report -/

theorem fdFdstatGet_performs {fd fdstat : Nat} :
    Performs (fdFdstatGet config fd fdstat) host (· = .nothing) := by
  have denies : Denies (Refused host) host := Refused.denies
  simp only [Performs, fdFdstatGet, Callback.askFilesystem, meets_bind, meets_ask]
  cases describeDescriptor config fd host.state.filesystem with
  | none => exact failWith_meets denies (by decide)
  | some description =>
    exact writeMemory_meets_unchecked denies fun after rewrites => rewrites.performed

section Reports

variable (mayWrite : host.capabilities.memoryWrite = true)

include mayWrite

theorem fdPread_performs {fd iovs iovsLen offset nread : Nat} :
    Performs (fdPread config fd iovs iovsLen offset nread) host (· = .nothing) := by
  apply fdPread_meets Refused.denies mayWrite
  intros
  exact ⟨.nothing, rfl, .reported rfl⟩

theorem fdFilestatGet_performs {fd filestat : Nat} :
    Performs (fdFilestatGet config fd filestat) host (· = .nothing) := by
  have denies : Denies (Refused host) host := Refused.denies
  simp only [Performs, fdFilestatGet, meets_ite, meets_bind]
  refine ⟨fun _ => failWith_meets denies (by decide), fun _ => ?_⟩
  apply query_meets denies
  · intro err
    cases err <;> decide
  intro stat found
  exact writeChecked_meets denies mayWrite fun after rewrites => rewrites.performed

theorem fdTell_performs {fd offset : Nat} :
    Performs (fdTell fd offset) host (· = .nothing) := by
  have denies : Denies (Refused host) host := Refused.denies
  simp only [Performs, fdTell, Callback.askFilesystem, meets_ask, meets_ite, meets_bind]
  refine ⟨fun _ => failWith_meets denies (by decide), fun _ => ?_⟩
  apply query_meets denies
  · intro err
    cases err <;> decide
  intro position found
  exact writeChecked_meets denies mayWrite fun after rewrites => rewrites.performed

theorem fdReaddir_performs {fd buf bufLen cookie bufused : Nat} :
    Performs (fdReaddir fd buf bufLen cookie bufused) host (· = .nothing) := by
  have denies : Denies (Refused host) host := Refused.denies
  simp only [Performs, fdReaddir, meets_bind]
  apply query_meets denies
  · intro err
    cases err <;> decide
  intro entries found
  have fits : (Callback.fillDirents bufLen entries []).length ≤ bufLen := by
    rw [Callback.fillDirents_eq entries (Nat.zero_le _), List.length_take]
    exact Nat.min_le_left ..
  exact writeBoth_meets denies mayWrite fits fun after rewrites => rewrites.performed

theorem fdPrestatGet_performs {fd prestat : Nat} :
    Performs (fdPrestatGet fd prestat) host (· = .nothing) := by
  have denies : Denies (Refused host) host := Refused.denies
  simp only [Performs, fdPrestatGet, meets_bind]
  apply preopenAt_meets
  intro entry
  exact writeChecked_meets denies mayWrite fun after rewrites => rewrites.performed

theorem fdPrestatDirName_performs {fd path pathLen : Nat} :
    Performs (fdPrestatDirName fd path pathLen) host (· = .nothing) := by
  have denies : Denies (Refused host) host := Refused.denies
  simp only [Performs, fdPrestatDirName, meets_bind]
  apply preopenAt_meets
  intro entry
  rw [meets_ite]
  refine ⟨fun _ => failWith_meets denies (by decide), fun _ => ?_⟩
  exact writeChecked_meets denies mayWrite fun after rewrites => rewrites.performed

theorem pathReadlink_performs {dirFd path pathLen buf bufLen bufused : Nat} :
    Performs (pathReadlink dirFd path pathLen buf bufLen bufused) host (· = .nothing) := by
  have denies : Denies (Refused host) host := Refused.denies
  simp only [Performs, pathReadlink, meets_bind]
  apply readPath_meets denies
  intro name named
  apply onFilesystem_refuses
  · apply readlink_meets.mono
    · rintro err after rfl
      exact .same
    · rintro target after rfl
      exact writeBoth_meets denies mayWrite (by simp) fun after rewrites => rewrites.performed
  · intro err
    exact ⟨symlinkErrno err, rfl, by cases err <;> decide⟩

theorem pathFilestatGet_performs {dirFd path pathLen filestat : Nat} {flags : BitVec 32} :
    Performs (pathFilestatGet dirFd flags path pathLen filestat) host (· = .nothing) := by
  have denies : Denies (Refused host) host := Refused.denies
  simp only [Performs, pathFilestatGet, meets_bind]
  apply checkLookupFlags_meets
  apply readPath_meets denies
  intro name named
  apply query_meets denies
  · intro err
    cases err <;> decide
  intro stat found
  exact writeChecked_meets denies mayWrite fun after rewrites => rewrites.performed

theorem sizesGet_performs {entries : List (List UInt8)}
    {maxCount maxBytes count bufSize : Nat} :
    Performs (sizesGet entries maxCount maxBytes count bufSize) host (· = .nothing) := by
  have denies : Denies (Refused host) host := Refused.denies
  simp only [Performs, sizesGet, meets_ite]
  refine ⟨fun _ => failWith_meets denies (by decide), fun _ => ?_⟩
  refine ⟨fun _ => failWith_meets denies (by decide), fun _ => ?_⟩
  exact writeBoth_meets denies mayWrite (by simp [Callback.leBytes])
    fun after rewrites => rewrites.performed

theorem stringsGet_performs {entries : List (List UInt8)}
    {maxCount maxBytes table buf : Nat} :
    Performs (stringsGet entries maxCount maxBytes table buf) host (· = .nothing) := by
  have denies : Denies (Refused host) host := Refused.denies
  simp only [Performs, stringsGet, meets_ite, meets_bind]
  refine ⟨fun _ => failWith_meets denies (by decide), fun _ => ?_⟩
  refine ⟨fun _ => failWith_meets denies (by decide), fun _ => ?_⟩
  apply refuse_meets denies (layoutStrings_denied entries [] [])
  rintro ⟨table, payload⟩ found
  exact writeBoth_meets denies mayWrite le_rfl fun after rewrites => rewrites.performed

theorem clockResGet_performs {clockId result : Nat} :
    Performs (clockResGet config clockId result) host (· = .nothing) := by
  have denies : Denies (Refused host) host := Refused.denies
  simp only [Performs, clockResGet, meets_bind]
  apply clockSnapshot_meets
  intro snapshot
  exact writeChecked_meets denies mayWrite fun after rewrites => rewrites.performed

theorem clockTimeGet_performs {clockId result : Nat} :
    Performs (clockTimeGet config clockId result) host (· = .nothing) := by
  have denies : Denies (Refused host) host := Refused.denies
  simp only [Performs, clockTimeGet, meets_bind]
  apply clockSnapshot_meets
  intro snapshot
  exact writeChecked_meets denies mayWrite fun after rewrites => rewrites.performed

theorem randomGet_performs {buffer length : Nat} :
    Performs (randomGet config buffer length) host (· = .nothing) := by
  have denies : Denies (Refused host) host := Refused.denies
  simp only [Performs, randomGet, meets_ite, meets_bind, meets_ask]
  refine ⟨fun _ => failWith_meets denies (by decide), fun _ => ?_⟩
  refine ⟨fun _ => failWith_meets denies (by decide), fun _ => ?_⟩
  apply writeChecked_meets denies mayWrite
  intro after rewrites
  refine ⟨.nothing, rfl, ?_⟩
  simp only [Host.withState, rewrites.state]
  exact ⟨.unchanged, rfl, .inl rfl⟩

theorem pollOneoff_performs {input output count nevents : Nat} :
    Performs (pollOneoff config input output count nevents) host (· = .nothing) := by
  have denies : Denies (Refused host) host := Refused.denies
  simp only [Performs, pollOneoff, meets_ite, meets_bind]
  refine ⟨fun _ => failWith_meets denies (by decide), fun _ => ?_⟩
  apply readMemory_meets denies
  intro memory found checked
  apply preflight_meets denies mayWrite
  intro outputCovers
  apply preflight_meets denies mayWrite
  intro neventsCovers
  apply refuse_meets denies (readyEvents_denied count _ _)
  intro events ready
  apply writeMemory_meets
    (outputCovers.shorter (by simp [readyEvents_length count _ _ events ready]))
  intro after rewrites
  apply writeMemory_meets (neventsCovers.rewritten rewrites)
  intro final rewritesAgain
  exact (rewrites.trans rewritesAgain).performed

end Reports

/-! ## Calls on open files -/

section Streams

variable (mayWrite : host.capabilities.memoryWrite = true)

include mayWrite

theorem fdWrite_performs {fd iovs iovsLen nwritten : Nat} :
    Performs (fdWrite config fd iovs iovsLen nwritten) host
      (fun operation => operation = .nothing ∨ ∃ payload, operation = .write fd payload) := by
  apply fdWrite_meets Refused.denies mayWrite
  case streams =>
    intro memory payload after state found which gathers reports filesystem preopens stdin
    refine ⟨.nothing, .inl rfl, ?_, preopens, .inl stdin⟩
    rw [filesystem]
    exact .unchanged
  case files =>
    intro memory payload after file stop found notOut notErr gathers reports writable fits
    exact ⟨.write fd payload, .inr ⟨payload, rfl⟩, written_effect writable fits, rfl, .inl rfl⟩

theorem fdPwrite_performs {fd iovs iovsLen offset nwritten : Nat} :
    Performs (fdPwrite fd iovs iovsLen offset nwritten) host
      (fun operation => ∃ payload, operation = .pwrite fd offset payload) := by
  apply fdPwrite_meets Refused.denies mayWrite
  intro memory payload after file found gathers reports lookup prepared
  exact ⟨.pwrite fd offset payload, ⟨payload, rfl⟩, pwritten_effect prepared lookup, rfl, .inl rfl⟩

theorem fdRead_performs {fd iovs iovsLen nread : Nat} :
    Performs (fdRead config fd iovs iovsLen nread) host
      (fun operation => operation = .nothing ∨ ∃ length, operation = .advance fd length) := by
  apply fdRead_meets Refused.denies mayWrite
  case streams =>
    intros
    exact ⟨.nothing, .inl rfl, .unchanged, rfl, .inr ⟨_, rfl⟩⟩
  case files =>
    intro memory delivered after buffers file bytes found nonzero same readable sliced scatters
      reports
    exact ⟨.advance fd bytes.length, .inr ⟨bytes.length, rfl⟩, advanced_effect readable, rfl,
      .inl rfl⟩

theorem fdSeek_performs {fd whence newoffset : Nat} {offset : Int} :
    Performs (fdSeek fd offset whence newoffset) host
      (fun operation => ∃ offset, operation = .commitSeek fd offset) := by
  apply fdSeek_meets Refused.denies mayWrite
  intro memory after file base target found lookup origin moved small reports
  exact ⟨.commitSeek fd target, ⟨target, rfl⟩,
    .described rfl lookup (small.trans (Nat.le_max_right ..)), rfl, .inl rfl⟩

end Streams

theorem fdFdstatSetFlags_performs {fd flags : Nat} :
    Performs (fdFdstatSetFlags fd flags) host
      (· = .setFlags fd (BitVec.ofNat 16 flags)) := by
  have denies : Denies (Refused host) host := Refused.denies
  simp only [Performs, fdFdstatSetFlags, Callback.askFilesystem, meets_ask, meets_ite,
    meets_bind]
  refine ⟨fun _ => failWith_meets denies (by decide), fun _ => ?_⟩
  refine ⟨fun _ => failWith_meets denies (by decide), fun _ => ?_⟩
  exact onFilesystem_performs rfl setFlags_meets (by intro err; cases err <;> decide) rfl

theorem fdFilestatSetSize_performs {fd size : Nat} :
    Performs (fdFilestatSetSize fd size) host (· = .setSize fd size) := by
  have denies : Denies (Refused host) host := Refused.denies
  simp only [Performs, fdFilestatSetSize, Callback.askFilesystem, meets_ask, meets_ite,
    meets_bind]
  refine ⟨fun _ => failWith_meets denies (by decide), fun _ => ?_⟩
  exact onFilesystem_performs rfl setSize_meets (by intro err; cases err <;> decide) rfl

theorem fdAllocate_performs {fd offset length : Nat} :
    Performs (fdAllocate fd offset length) host (· = .allocate fd offset length) := by
  have denies : Denies (Refused host) host := Refused.denies
  simp only [Performs, fdAllocate, Callback.askFilesystem, meets_ask, meets_ite, meets_bind]
  refine ⟨fun _ => failWith_meets denies (by decide), fun _ => ?_⟩
  exact onFilesystem_performs rfl allocate_meets (by intro err; cases err <;> decide) rfl

theorem fdFilestatSetTimes_performs {fd atim mtim : Nat} {flags : BitVec 32} :
    Performs (fdFilestatSetTimes config fd atim mtim flags) host
      (fun operation => ∃ update, operation = .setTimes fd update) := by
  have denies : Denies (Refused host) host := Refused.denies
  simp only [Performs, fdFilestatSetTimes, Callback.askFilesystem, meets_bind]
  apply timeUpdate_meets
  intro update
  simp only [meets_ask, meets_ite]
  refine ⟨fun _ => failWith_meets denies (by decide), fun _ => ?_⟩
  exact onFilesystem_performs ⟨update, rfl⟩ setTimes_meets
    (by intro err; cases err <;> decide) rfl

theorem closePreopen_meets {ε : Type} {state : WasiState} {fd : Nat} :
    Meets (fun _ _ => False)
      (fun wasLive after =>
        after = { state with preopens := (Operation.close fd).preopens state.preopens } ∧
          (wasLive = false → after = state))
      (WasiState.closePreopen fd : Action WasiState ε Bool) state := by
  simp only [WasiState.closePreopen, meets_bind, meets_ask, id_eq, Operation.preopens]
  cases position : state.preopens.findIdx? (·.fd = fd) with
  | none => exact ⟨rfl, fun _ => rfl⟩
  | some index =>
    have located := getElem?_of_findIdx? position
    cases found : state.preopens.find? (·.fd = fd) with
    | none =>
      obtain ⟨inside, -⟩ := List.findIdx?_eq_some_iff_getElem.mp position
      rw [found, List.getElem?_eq_getElem inside] at located
      cases located
    | some entry =>
      simp only [meets_bind, meets_modify, meets_pure]
      refine ⟨trivial, fun notLive => ?_⟩
      rw [modify_fixed (located.trans found) (by simp [← notLive])]

/-- A number that is not open leaves nothing to close. -/
theorem fdClose_performs {fd : Nat} (coherent : host.state.Coherent) :
    Performs (fdClose fd) host (· = .close fd) := by
  simp only [Performs, fdClose, meets_bind]
  unfold Callback.onFilesystem
  rw [meets_zoom]
  apply close_meets.mono
  · intro err changed impossible
    exact impossible.elim
  · rintro wasOpen changed ⟨rfl, missing⟩
    rw [meets_zoom]
    apply closePreopen_meets.mono
    · intro err changed impossible
      exact impossible.elim
    · rintro wasLive changed ⟨rfl, unchanged⟩
      simp only [meets_ite, meets_pure]
      constructor
      · intro _
        exact ⟨_, rfl, .closed, rfl, .inl rfl⟩
      · intro neither
        simp only [not_or, Bool.not_eq_true] at neither
        obtain ⟨notFile, notDirectory, notReserved⟩ := missing neither.1
        have same : host.state.filesystem.closed fd = host.state.filesystem :=
          closed_of_missing notFile notDirectory notReserved
            fun writable => notReserved (coherent.reserved.subset writable)
        rw [unchanged neither.2]
        simp only [Host.withFilesystem, Host.withState, same]
        exact .denied (by decide) .same

/-! ## Calls on paths -/

theorem pathCreateDirectory_performs {dirFd path length : Nat} :
    Performs (pathCreateDirectory dirFd path length) host
      (fun operation => ∃ name, pathArgument host.memory path length = some name ∧
        operation = .createDirectory dirFd name) := by
  simp only [Performs, pathCreateDirectory, meets_bind]
  apply readPath_meets Refused.denies
  intro name named
  refine onFilesystem_performs ⟨name, named, rfl⟩ createDirectory_meets ?_ rfl
  intro err
  cases err <;> decide

theorem pathRemoveDirectory_performs {dirFd path length : Nat} :
    Performs (pathRemoveDirectory dirFd path length) host
      (fun operation => ∃ name, pathArgument host.memory path length = some name ∧
        operation = .removeDirectory dirFd name) := by
  simp only [Performs, pathRemoveDirectory, meets_bind]
  apply readPath_meets Refused.denies
  intro name named
  refine onFilesystem_performs ⟨name, named, rfl⟩ removeDirectory_meets ?_ rfl
  intro err
  cases err <;> decide

theorem pathSymlink_performs {target targetLength dirFd path length : Nat} :
    Performs (pathSymlink target targetLength dirFd path length) host
      (fun operation => ∃ name target, pathArgument host.memory path length = some name ∧
        operation = .symlink dirFd name target) := by
  have denies : Denies (Refused host) host := Refused.denies
  simp only [Performs, pathSymlink, meets_ite, meets_bind]
  refine ⟨fun _ => failWith_meets denies (by decide), fun _ => ?_⟩
  apply readMemory_meets denies
  intro memory found checked
  apply readPath_meets denies
  intro name named
  refine onFilesystem_performs ⟨name, _, named, rfl⟩ symlink_meets ?_ rfl
  intro err
  cases err <;> decide

theorem pathFilestatSetTimes_performs {dirFd path length atim mtim : Nat}
    {flags fstFlags : BitVec 32} :
    Performs (pathFilestatSetTimes config dirFd flags path length atim mtim fstFlags) host
      (fun operation => ∃ name update, pathArgument host.memory path length = some name ∧
        operation = .pathSetTimes dirFd name update) := by
  simp only [Performs, pathFilestatSetTimes, meets_bind]
  apply checkLookupFlags_meets
  apply timeUpdate_meets
  intro update
  apply readPath_meets Refused.denies
  intro name named
  exact onFilesystem_performs ⟨name, update, named, rfl⟩ pathSetTimes_meets
    (by intro err; cases err <;> decide) rfl

theorem pathLink_performs {oldFd oldFlags oldPath oldLength newFd newPath newLength : Nat} :
    Performs (pathLink oldFd oldFlags oldPath oldLength newFd newPath newLength) host
      (fun operation => ∃ oldName newName,
        pathArgument host.memory oldPath oldLength = some oldName ∧
        pathArgument host.memory newPath newLength = some newName ∧
        operation = .link oldFd oldName newFd newName) := by
  have denies : Denies (Refused host) host := Refused.denies
  simp only [Performs, pathLink, Callback.askFilesystem, meets_ask, meets_ite, meets_bind]
  refine ⟨fun _ => failWith_meets denies (by decide), fun _ => ?_⟩
  refine ⟨fun _ => failWith_meets denies (by decide), fun _ => ?_⟩
  apply readPaths_meets denies
  intro oldName newName oldNamed newNamed
  refine onFilesystem_performs ⟨oldName, newName, oldNamed, newNamed, rfl⟩ link_meets ?_ rfl
  intro err
  cases err <;> decide

theorem pathRename_performs {oldFd oldPath oldLength newFd newPath newLength : Nat} :
    Performs (pathRename oldFd oldPath oldLength newFd newPath newLength) host
      (fun operation => ∃ oldName newName,
        pathArgument host.memory oldPath oldLength = some oldName ∧
        pathArgument host.memory newPath newLength = some newName ∧
        operation =
          .rename { preopenFd := oldFd, relativePath := oldName }
            { preopenFd := newFd, relativePath := newName }) := by
  have denies : Denies (Refused host) host := Refused.denies
  simp only [Performs, pathRename, Callback.askFilesystem, meets_ask, meets_ite, meets_bind]
  refine ⟨fun _ => failWith_meets denies (by decide), fun _ => ?_⟩
  refine ⟨fun _ => failWith_meets denies (by decide), fun _ => ?_⟩
  apply readPaths_meets denies
  intro oldName newName oldNamed newNamed
  refine onFilesystem_performs ⟨oldName, newName, oldNamed, newNamed, rfl⟩ rename_meets ?_ rfl
  intro err
  cases err <;> decide

theorem pathUnlinkFile_performs {dirFd path length : Nat} :
    Performs (pathUnlinkFile dirFd path length) host
      (fun operation => ∃ name, pathArgument host.memory path length = some name ∧
        operation = .unlink dirFd name) := by
  have denies : Denies (Refused host) host := Refused.denies
  simp only [Performs, pathUnlinkFile, Callback.askFilesystem, meets_ask, meets_ite, meets_bind]
  refine ⟨fun _ => failWith_meets denies (by decide), fun _ => ?_⟩
  apply readPath_meets denies
  intro name named
  refine onFilesystem_performs ⟨name, named, rfl⟩ unlink_meets ?_ rfl
  intro err
  cases err <;> decide

theorem checkOpen_meets {dirFlags openFlags : BitVec 32} {rightsBase inheriting : Rights}
    {fdFlags : Nat} {done : OpenRequest → Host → Prop}
    (admits : ∀ request : OpenRequest, inheriting = 0 → request.rightsBase = rightsBase →
      request.directory = decide (openFlags &&& oflagsDirectory ≠ 0) →
      rightsBase.Within
        (if request.directory then Rights.allowedDirectoryBase else Rights.allowedFileBase) →
      request.options.truncate = decide (openFlags &&& oflagsTrunc ≠ 0) →
      request.options.descriptorFlags = BitVec.ofNat 16 fdFlags →
      done request host) :
    Meets (Refused host) done (checkOpen dirFlags openFlags rightsBase inheriting fdFlags)
      host := by
  have denies : Denies (Refused host) host := Refused.denies
  simp only [checkOpen, meets_ite, meets_pure]
  refine ⟨fun _ => failWith_meets denies (by decide), fun _ => ?_⟩
  refine ⟨fun _ => failWith_meets denies (by decide), fun _ => ?_⟩
  refine ⟨fun _ => failWith_meets denies (by decide), fun _ => ?_⟩
  refine ⟨fun _ => failWith_meets denies (by decide), fun within => ?_⟩
  refine ⟨fun _ => failWith_meets denies (by decide), fun _ => ?_⟩
  simp only [not_or, not_not] at within
  exact admits _ within.2 rfl rfl within.1 rfl rfl

/-- The operation that an open request asks for. -/
def OpenRequest.operation (request : OpenRequest) (dirFd : Nat) (path : Path) : Operation :=
  if request.directory then .openDirectory dirFd path request.rightsBase
  else .openFile dirFd path request.rightsBase request.options

theorem openRequested_meets {dirFd : Nat} {path : Path} {request : OpenRequest}
    {done : OpenedFile → Host → Prop}
    (opens : ∀ opened after,
      Opened host.state.filesystem (request.operation dirFd path) opened.fd after →
      done opened (host.withFilesystem after)) :
    Meets (Refused host) done (openRequested dirFd path request) host := by
  unfold OpenRequest.operation at opens
  unfold openRequested
  rw [meets_ite]
  constructor
  · intro directory
    rw [meets_ite]
    refine ⟨fun _ => failWith_meets Refused.denies (by decide), fun _ => ?_⟩
    apply onFilesystem_refuses
    · apply openDirectory_meets.mono
      · rintro err after rfl
        exact .same
      · intro opened after opening
        exact opens opened after (by simpa only [directory, if_true] using opening)
    · intro err
      exact ⟨err.errno, rfl, by cases err <;> decide⟩
  · intro file
    apply onFilesystem_refuses
    · apply openFile_meets.mono
      · intro err after untouched
        exact untouched
      · intro opened after opening
        exact opens opened after
          (by simpa only [file, if_false, Bool.false_eq_true] using opening)
    · intro err
      exact ⟨err.errno, rfl, by cases err <;> decide⟩

/-- What a `path_open` asks for, and the descriptor and the filesystem that it makes. -/
structure PathOpens (host : Host) (dirFd path length fdFlags : Nat) (openFlags : BitVec 32)
    (rightsBase inheriting : Rights) (name : Path) (request : OpenRequest) (opened : Nat)
    (filesystem : FilesystemState) : Prop where
  named : pathArgument host.memory path length = some name
  noInheriting : inheriting = 0
  base : request.rightsBase = rightsBase
  directory : request.directory = decide (openFlags &&& oflagsDirectory ≠ 0)
  within : rightsBase.Within
    (if request.directory then Rights.allowedDirectoryBase else Rights.allowedFileBase)
  truncates : request.options.truncate = decide (openFlags &&& oflagsTrunc ≠ 0)
  flags : request.options.descriptorFlags = BitVec.ofNat 16 fdFlags
  isDirectory : host.state.filesystem.hasDirectoryDescriptor dirFd = true
  opens : Opened host.state.filesystem (request.operation dirFd name) opened filesystem

/-- An open that succeeds has made the descriptor whose number it reports. -/
theorem pathOpen_meets {dirFd path length fdFlags openedFd : Nat}
    {dirFlags openFlags : BitVec 32} {rightsBase inheriting : Rights}
    (mayWrite : host.capabilities.memoryWrite = true) :
    Meets (Refused host)
      (fun _ after => ∃ (name : Path) (request : OpenRequest) (opened : Nat)
          (filesystem : FilesystemState) (memory : LinearMemory),
        PathOpens host dirFd path length fdFlags openFlags rightsBase inheriting name request
          opened filesystem ∧
        host.memory = some memory ∧ openedFd + 4 ≤ memory.bytes.length ∧
        after =
          host.changed (memory.writeBytes openedFd (Callback.leBytes 4 opened)) filesystem)
      (pathOpen dirFd dirFlags path length openFlags rightsBase inheriting fdFlags openedFd)
      host := by
  have denies : Denies (Refused host) host := Refused.denies
  simp only [pathOpen, Callback.askFilesystem, meets_ask, meets_ite, meets_bind]
  refine ⟨fun _ => failWith_meets denies (by decide), fun isDirectory => ?_⟩
  apply checkOpen_meets
  intro request noInheriting base directory within truncates flags
  apply readPath_meets denies
  intro name named
  apply preflight_meets denies mayWrite
  intro covers
  apply openRequested_meets
  intro opened filesystem opens
  have stillCovers : Covers (host.withFilesystem filesystem) openedFd
      (Callback.leBytes 4 opened.fd).length := by
    rw [Callback.leBytes_length]
    exact covers
  obtain ⟨written, writes⟩ := stillCovers.writes
  simp only [reportOpened, meets_bind, meets_ask, writes]
  apply writeMemory_writes stillCovers
  intro memory found fits
  rw [Callback.leBytes_length] at fits
  exact ⟨name, request, opened.fd, filesystem, memory,
    ⟨named, noInheriting, base, directory, within, truncates, flags,
      by simpa using isDirectory, opens⟩, found, fits, rfl⟩

theorem pathOpen_performs {dirFd path length fdFlags openedFd : Nat}
    {dirFlags openFlags : BitVec 32} {rightsBase inheriting : Rights}
    (mayWrite : host.capabilities.memoryWrite = true) :
    Performs
      (pathOpen dirFd dirFlags path length openFlags rightsBase inheriting fdFlags openedFd)
      host
      (fun operation => ∃ name, pathArgument host.memory path length = some name ∧
        inheriting = 0 ∧
        ((rightsBase.Within Rights.allowedDirectoryBase ∧
            operation = .openDirectory dirFd name rightsBase) ∨
          (rightsBase.Within Rights.allowedFileBase ∧ ∃ options,
            operation = .openFile dirFd name rightsBase options))) := by
  apply (pathOpen_meets mayWrite).mono
  · intro failure after refused
    exact refused
  · rintro _ after ⟨name, request, opened, filesystem, memory, opening, -, -, rfl⟩
    have within := opening.within
    obtain rfl := opening.base
    refine ⟨request.operation dirFd name, ⟨name, opening.named, opening.noInheriting, ?_⟩, ?_⟩
    · cases directory : request.directory with
      | true =>
        exact .inl
          ⟨by simpa [directory] using within, by simp [OpenRequest.operation, directory]⟩
      | false =>
        exact .inr ⟨by simpa [directory] using within, request.options,
          by simp [OpenRequest.operation, directory]⟩
    · refine ⟨.opened opening.opens, ?_, .inl rfl⟩
      cases directory : request.directory <;>
        simp [OpenRequest.operation, Operation.preopens, directory, Host.changed]

end Callbacks

/-! ## All calls -/

/-- The call that ends the program instead of returning. -/
def Call.exits : Call → Bool
  | .procExit _ => true
  | _ => false

/-- One call: it is refused and leaves what it found, or it performs an operation that
its arguments ask for. -/
theorem run_performs (config : Config) {state : WasiState} (coherent : state.Coherent)
    (request : Request) (returns : request.call.exits = false) :
    Performs (request.call.run config) (request.host state)
      (Asks request.memory request.call) := by
  obtain ⟨memory, call⟩ := request
  cases call with
  | procExit code => cases returns
  | fdWrite => exact Callbacks.fdWrite_performs rfl
  | fdRead => exact Callbacks.fdRead_performs rfl
  | fdPread => exact Callbacks.fdPread_performs rfl
  | fdPwrite => exact Callbacks.fdPwrite_performs rfl
  | fdFdstatGet => exact Callbacks.fdFdstatGet_performs
  | fdFdstatSetFlags => exact Callbacks.fdFdstatSetFlags_performs
  | fdFilestatGet => exact Callbacks.fdFilestatGet_performs rfl
  | fdFilestatSetSize => exact Callbacks.fdFilestatSetSize_performs
  | fdFilestatSetTimes => exact Callbacks.fdFilestatSetTimes_performs
  | fdAllocate => exact Callbacks.fdAllocate_performs
  | fdSeek => exact Callbacks.fdSeek_performs rfl
  | fdTell => exact Callbacks.fdTell_performs rfl
  | fdClose => exact Callbacks.fdClose_performs coherent
  | fdReaddir => exact Callbacks.fdReaddir_performs rfl
  | fdPrestatGet => exact Callbacks.fdPrestatGet_performs rfl
  | fdPrestatDirName => exact Callbacks.fdPrestatDirName_performs rfl
  | pathCreateDirectory => exact Callbacks.pathCreateDirectory_performs
  | pathRemoveDirectory => exact Callbacks.pathRemoveDirectory_performs
  | pathSymlink => exact Callbacks.pathSymlink_performs
  | pathReadlink => exact Callbacks.pathReadlink_performs rfl
  | pathFilestatGet => exact Callbacks.pathFilestatGet_performs rfl
  | pathFilestatSetTimes => exact Callbacks.pathFilestatSetTimes_performs
  | pathOpen => exact Callbacks.pathOpen_performs rfl
  | pathLink => exact Callbacks.pathLink_performs
  | pathRename => exact Callbacks.pathRename_performs
  | pathUnlinkFile => exact Callbacks.pathUnlinkFile_performs
  | argsSizesGet => exact Callbacks.sizesGet_performs rfl
  | argsGet => exact Callbacks.stringsGet_performs rfl
  | environSizesGet => exact Callbacks.sizesGet_performs rfl
  | environGet => exact Callbacks.stringsGet_performs rfl
  | clockResGet => exact Callbacks.clockResGet_performs rfl
  | clockTimeGet => exact Callbacks.clockTimeGet_performs rfl
  | randomGet => exact Callbacks.randomGet_performs rfl
  | pollOneoff => exact Callbacks.pollOneoff_performs rfl

end MiniWasm.Wasi
