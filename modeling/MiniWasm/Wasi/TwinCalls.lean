import MiniWasm.Wasi.Related
import MiniWasm.Wasi.Twins

/-!
# Calls on alike states

A call that names neither the preopen in which two states differ nor a descriptor that
was opened since answers alike in both, and leaves them alike.
-/

namespace MiniWasm.Wasi

open Library Action MiniWasm.Runtime FilesystemState Callback

/-! ## Relations -/

/-- Entries of the list of preopens, of which the one in which states differ may be live in
one state only. -/
structure AlikePreopen (preopen : Nat) (left right : PreopenDir) : Prop where
  fd : left.fd = right.fd
  guestPath : left.guestPath = right.guestPath
  live : left.fd ≠ preopen → left.live = right.live

/-- States that differ in one preopen: whether it is live, and what was opened since. -/
structure AlikeStates (preopen : Nat) (fresh : List (Nat × Nat)) (left right : WasiState) :
    Prop where
  stdin : left.stdin = right.stdin
  stdout : left.stdout = right.stdout
  stderr : left.stderr = right.stderr
  entropy : left.entropy = right.entropy
  exitCode : left.exitCode = right.exitCode
  preopens : List.Forall₂ (AlikePreopen preopen) left.preopens right.preopens
  filesystem : Alike preopen fresh left.filesystem right.filesystem

/-- The guest has seen the same: the memories are equal, and so is everything outside the
preopen. -/
structure AlikeHosts (preopen : Nat) (fresh : List (Nat × Nat)) (left right : Host) : Prop where
  capabilities : left.capabilities = right.capabilities
  memory : left.memory = right.memory
  state : AlikeStates preopen fresh left.state right.state

section Agreement

variable {preopen : Nat} {fresh : List (Nat × Nat)} {α ε : Type} {fd : Nat}

/-- Alike states differ in the tables of descriptors only, so a statement about all twin
tables is one about all alike states. -/
theorem Alike.elim {left right : FilesystemState} (alike : Alike preopen fresh left right)
    {motive : FilesystemState → Prop}
    (holds : ∀ tables, Twin preopen fresh tables right.tables →
      motive (right.withTables tables)) : motive left := by
  rw [alike.same]
  exact holds left.tables alike.twin

/-- The callback does the same on alike hosts. -/
abbrev Agreeing (preopen : Nat) (fresh : List (Nat × Nat)) (callback : Callback α) : Prop :=
  Agrees (AlikeHosts preopen fresh) callback

/-! ## Parts of callbacks -/

/-- What only needs the hosts to be related. -/
theorem agreeing_of_related {callback : Callback α}
    (agrees : Agrees (RelatedHosts (AlikeStates preopen fresh)) callback) :
    Agreeing preopen fresh callback := by
  intro left right alike
  obtain ⟨same, hosts⟩ := agrees left right ⟨alike.capabilities, alike.memory, alike.state⟩
  exact ⟨same, hosts.capabilities, hosts.memory, hosts.state⟩

theorem readMemory_agrees (address length : Nat) :
    Agreeing preopen fresh (readMemory address length) :=
  agreeing_of_related (readMemory_related address length)

theorem preflight_agrees (address length : Nat) :
    Agreeing preopen fresh (preflight address length) :=
  agreeing_of_related (preflight_related address length)

theorem writeMemory_agrees (address : Nat) (bytes : List UInt8) :
    Agreeing preopen fresh (writeMemory address bytes) :=
  agreeing_of_related (writeMemory_related address bytes)

theorem writeChecked_agrees (address : Nat) (bytes : List UInt8) :
    Agreeing preopen fresh (writeChecked address bytes) :=
  agreeing_of_related (writeChecked_related address bytes)

theorem writeBoth_agrees {first firstLength second : Nat} {firstBytes secondBytes : List UInt8} :
    Agreeing preopen fresh (writeBoth first firstBytes firstLength second secondBytes) :=
  agreeing_of_related writeBoth_related

theorem gatherPayload_agrees {iovs limit : Nat} {tooLong : Errno} {count index : Nat}
    {payload : List UInt8} :
    Agreeing preopen fresh (gatherPayload iovs limit tooLong count index payload) :=
  agreeing_of_related gatherPayload_related

theorem gatherDestinations_agrees {iovs limit count index : Nat}
    {destinations : List (Nat × Nat)} {capacity : Nat} :
    Agreeing preopen fresh
      (gatherDestinations iovs limit count index destinations capacity) :=
  agreeing_of_related gatherDestinations_related

theorem scatter_agrees {destinations : List (Nat × Nat)} {bytes : List UInt8} {copied : Nat} :
    Agreeing preopen fresh (scatter destinations bytes copied) :=
  agreeing_of_related scatter_related

theorem readPath_agrees (pointer length : Nat) :
    Agreeing preopen fresh (readPath pointer length) :=
  agreeing_of_related (readPath_related pointer length)

theorem readPaths_agrees {oldPtr oldLen newPtr newLen : Nat} :
    Agreeing preopen fresh (readPaths oldPtr oldLen newPtr newLen) :=
  agreeing_of_related readPaths_related

/-- A query that cannot tell alike filesystems apart. -/
theorem query_agrees {convert : ε → Errno} {read : FilesystemState → Except ε α}
    (same : ∀ (state : FilesystemState) tables, Twin preopen fresh tables state.tables →
      read (state.withTables tables) = read state) :
    Agreeing preopen fresh (query convert read) := by
  apply agrees_consult
  intro left right alike
  have sameRead : read left.state.filesystem = read right.state.filesystem :=
    alike.state.filesystem.elim (motive := fun state => read state = _)
      fun tables twin => same _ tables twin
  rw [sameRead]

/-- A question that cannot tell alike filesystems apart. -/
theorem askFilesystem_agrees {read : FilesystemState → α}
    (same : ∀ (state : FilesystemState) tables, Twin preopen fresh tables state.tables →
      read (state.withTables tables) = read state) :
    Agreeing preopen fresh (askFilesystem read) := by
  apply agrees_ask
  intro left right alike
  exact alike.state.filesystem.elim (motive := fun state => read state = _)
    fun tables twin => same _ tables twin

/-- Hosts stay alike when their filesystems are exchanged for alike ones. -/
theorem AlikeHosts.withFilesystem {left right : Host} (alike : AlikeHosts preopen fresh left right)
    {leftPart rightPart : FilesystemState} {others : List (Nat × Nat)}
    (parts : Alike preopen others leftPart rightPart) :
    AlikeHosts preopen others (left.withFilesystem leftPart) (right.withFilesystem rightPart) where
  capabilities := alike.capabilities
  memory := alike.memory
  state :=
    { stdin := alike.state.stdin
      stdout := alike.state.stdout
      stderr := alike.state.stderr
      entropy := alike.state.entropy
      exitCode := alike.state.exitCode
      preopens := alike.state.preopens
      filesystem := parts }

/-- An operation that matches itself on twin tables does the same on alike hosts. -/
theorem onFilesystem_agrees {convert : ε → Failure} {action : Action FilesystemState ε α}
    (matches' : ∀ (state : FilesystemState) tables, Twin preopen fresh tables state.tables →
      Matches preopen fresh action action (state.withTables tables) state) :
    Agreeing preopen fresh (onFilesystem convert action) := by
  refine agrees_zoom (fun left right alike => alike.state.filesystem) ?_ ?_
  · exact fun left right leftPart rightPart alike parts => alike.withFilesystem parts
  · intro left right alike
    exact alike.elim (motive := fun left => Matches preopen fresh action action left right)
      fun tables twin => matches' right tables twin

theorem checkLookupFlags_agrees {flags : BitVec 32} :
    Agreeing preopen fresh (Callbacks.checkLookupFlags flags) :=
  agrees_ite (agrees_fail _) <| agrees_ite (agrees_fail _) <| agrees_pure _

theorem timeUpdate_agrees {config : Config} {atim mtim : Nat} {flags : BitVec 32} :
    Agreeing preopen fresh (Callbacks.timeUpdate config atim mtim flags) := by
  unfold Callbacks.timeUpdate
  cases Callbacks.resolveTimeUpdate atim mtim flags config.clocks.realtimeTime with
  | none => exact agrees_fail _
  | some update => exact agrees_pure update

/-! ## Callbacks on one descriptor -/

section Descriptors

variable {config : Config} (known : Known preopen fresh fd)

include known

/-- The streams are shared, and a known descriptor is the same in both states. -/
theorem commitWrite_agrees {target : Callbacks.WriteTarget} {payload : List UInt8}
    (isKnown : target = .stdout ∨ target = .stderr ∨ target = .file fd) :
    Agreeing preopen fresh (Callbacks.commitWrite target payload) := by
  rcases isKnown with rfl | rfl | rfl
  · apply agrees_modify
    intro left right alike
    exact ⟨alike.capabilities, alike.memory, { alike.state with
      stdout := congrArg (· ++ payload) alike.state.stdout }⟩
  · apply agrees_modify
    intro left right alike
    exact ⟨alike.capabilities, alike.memory, { alike.state with
      stderr := congrArg (· ++ payload) alike.state.stderr }⟩
  · exact onFilesystem_agrees fun _ _ twin => write_matches twin known

/-- The target is found first.  It is a stream or the descriptor itself, so the later steps
name no other descriptor. -/
theorem fdWrite_agrees {iovs count nwritten : Nat} :
    Agreeing preopen fresh (Callbacks.fdWrite config fd iovs count nwritten) := by
  apply agrees_bind_result fun target =>
    target = .stdout ∨ target = .stderr ∨ target = .file fd
  · apply agrees_ite (agrees_pure _)
    apply agrees_ite (agrees_pure _)
    exact agrees_bind (query_agrees fun _ _ twin => writableFile_same twin known _)
      fun _ => agrees_pure _
  · intro host
    simp only [Callbacks.writeTarget, meets_ite, meets_bind, meets_pure]
    refine ⟨fun _ => .inl trivial, fun _ => ⟨fun _ => .inr (.inl trivial), fun _ => ?_⟩⟩
    exact meets_consult_mapError (fun _ _ => trivial) fun _ _ => .inr (.inr trivial)
  · intro target isKnown
    apply agrees_ite (agrees_fail _)
    apply agrees_bind gatherPayload_agrees
    intro payload
    have commits : Agreeing preopen fresh
        (writeChecked nwritten (leBytes 4 payload.length) >>= fun _ =>
          Callbacks.commitWrite target payload) :=
      agrees_bind (writeChecked_agrees _ _) fun _ => commitWrite_agrees known isKnown
    rcases isKnown with rfl | rfl | rfl
    · exact commits
    · exact commits
    · exact agrees_bind (query_agrees fun _ _ twin => prepareWrite_same twin known _)
        fun _ => commits

theorem fdPwrite_agrees {iovs count offset nwritten : Nat} :
    Agreeing preopen fresh (Callbacks.fdPwrite fd iovs count offset nwritten) := by
  apply agrees_ite (agrees_fail _)
  apply agrees_bind gatherPayload_agrees
  intro payload
  apply agrees_bind (query_agrees fun _ _ twin => preparePwrite_same twin known _ _)
  intro _
  apply agrees_bind (writeChecked_agrees _ _)
  exact fun _ => onFilesystem_agrees fun _ _ twin => pwrite_matches twin known

/-- As for `fd_write`: the bytes come from the standard input or from the descriptor itself.
-/
theorem fdRead_agrees {iovs count nread : Nat} :
    Agreeing preopen fresh (Callbacks.fdRead config fd iovs count nread) := by
  apply agrees_bind_result fun source => source = none ∨ source = some fd
  · apply agrees_ite (agrees_pure _)
    exact agrees_bind (query_agrees fun _ _ twin => readableFile_same twin known _)
      fun _ => agrees_pure _
  · intro host
    simp only [Callbacks.readSource, meets_ite, meets_bind, meets_pure]
    refine ⟨fun _ => .inl trivial, fun _ => ?_⟩
    exact meets_consult_mapError (fun _ _ => trivial) fun _ _ => .inr trivial
  · intro source isKnown
    apply agrees_ite (agrees_fail _)
    apply agrees_bind gatherDestinations_agrees
    intro destinations
    apply agrees_bind (preflight_agrees _ _)
    intro _
    rcases isKnown with rfl | rfl
    · apply agrees_bind (agrees_ask fun left right alike => by rw [alike.state.stdin])
      intro bytes
      apply agrees_bind scatter_agrees
      intro copied
      apply agrees_bind (writeMemory_agrees _ _)
      intro _
      apply agrees_modify
      intro left right alike
      exact ⟨alike.capabilities, alike.memory, { alike.state with
        stdin := congrArg (InputState.advance · copied) alike.state.stdin }⟩
    · have peeks : Agreeing preopen fresh
          (query DescriptorReadError.errno (·.peek fd destinations.2)) :=
        query_agrees fun _ _ twin => peek_same twin known _
      apply agrees_bind peeks
      intro bytes
      apply agrees_bind scatter_agrees
      intro copied
      apply agrees_bind (writeMemory_agrees _ _)
      exact fun _ => onFilesystem_agrees fun _ _ twin => advance_matches twin known

theorem fdPread_agrees {iovs count offset nread : Nat} :
    Agreeing preopen fresh (Callbacks.fdPread config fd iovs count offset nread) := by
  apply agrees_bind (query_agrees fun _ _ twin => readableFile_same twin known _)
  intro file
  apply agrees_ite (agrees_fail _)
  apply agrees_bind gatherDestinations_agrees
  intro destinations
  apply agrees_bind (preflight_agrees _ _)
  intro _
  apply agrees_bind (query_agrees fun _ _ twin => pread_same twin known _ _)
  intro bytes
  apply agrees_bind scatter_agrees
  exact fun copied => writeMemory_agrees _ _

/-- The description that registration left behind is looked up under the number alone. -/
theorem fdFdstatGet_agrees {pointer : Nat} :
    Agreeing preopen fresh (Callbacks.fdFdstatGet config fd pointer) := by
  apply agrees_bind
  · apply askFilesystem_agrees
    intro state tables twin
    rw [Callbacks.describeDescriptor, Callbacks.describeDescriptor, fdstat_same twin known]
  · intro description
    cases description with
    | none => exact agrees_fail _
    | some description => exact writeMemory_agrees _ _

theorem fdFilestatGet_agrees {pointer : Nat} :
    Agreeing preopen fresh (Callbacks.fdFilestatGet config fd pointer) :=
  agrees_ite (agrees_fail _) <|
    agrees_bind (query_agrees fun _ _ twin => filestat_same twin known) fun _ =>
      writeChecked_agrees _ _

/-- A callback that is for files only. -/
theorem onFile_agrees {callback : Callback α} (agrees : Agreeing preopen fresh callback) :
    Agreeing preopen fresh
      (askFilesystem (·.isKnownNonFile fd) >>= fun nonFile =>
        if nonFile = true then failWith .notcapable else callback) :=
  agrees_bind (askFilesystem_agrees fun _ _ twin => isKnownNonFile_same twin known) fun _ =>
    agrees_ite (agrees_fail _) agrees

theorem fdFdstatSetFlags_agrees {flags : Nat} :
    Agreeing preopen fresh (Callbacks.fdFdstatSetFlags fd flags) :=
  onFile_agrees known <| agrees_ite (agrees_fail _) <|
    onFilesystem_agrees fun _ _ twin => setFlags_matches twin known

theorem fdSeek_agrees {offset : Int} {whence pointer : Nat} :
    Agreeing preopen fresh (Callbacks.fdSeek fd offset whence pointer) := by
  apply onFile_agrees known
  apply agrees_bind (query_agrees fun _ _ twin => prepareSeek_same twin known _ _)
  intro position
  apply agrees_bind (writeChecked_agrees _ _)
  intro _
  apply agrees_bind (onFilesystem_agrees fun _ _ twin => commitSeek_matches twin known)
  intro committed
  exact agrees_ite (agrees_pure _) (agrees_fail _)

theorem fdTell_agrees {pointer : Nat} : Agreeing preopen fresh (Callbacks.fdTell fd pointer) :=
  onFile_agrees known <|
    agrees_bind (query_agrees fun _ _ twin => tell_same twin known) fun _ =>
      writeChecked_agrees _ _

theorem fdAllocate_agrees {offset length : Nat} :
    Agreeing preopen fresh (Callbacks.fdAllocate fd offset length) :=
  onFile_agrees known <| onFilesystem_agrees fun _ _ twin => resizeFile_matches twin known

theorem fdFilestatSetSize_agrees {size : Nat} :
    Agreeing preopen fresh (Callbacks.fdFilestatSetSize fd size) :=
  onFile_agrees known <| onFilesystem_agrees fun _ _ twin => resizeFile_matches twin known

theorem fdFilestatSetTimes_agrees {atim mtim : Nat} {flags : BitVec 32} :
    Agreeing preopen fresh (Callbacks.fdFilestatSetTimes config fd atim mtim flags) :=
  agrees_bind timeUpdate_agrees fun _ => onFile_agrees known <|
    onFilesystem_agrees fun _ _ twin => setTimes_matches twin known

/-- Entries belong to the namespace, which alike states share. -/
theorem fdReaddir_agrees {buf bufLen cookie bufused : Nat} :
    Agreeing preopen fresh (Callbacks.fdReaddir fd buf bufLen cookie bufused) :=
  agrees_bind (query_agrees fun _ _ twin => readdirSnapshot_same twin known _) fun _ =>
    writeBoth_agrees

/-! ## Preopens -/

omit known in
/-- Apart from the one in which states differ, preopens are equal. -/
theorem AlikePreopen.eq {left right : PreopenDir} (alike : AlikePreopen preopen left right)
    (other : left.fd ≠ preopen) : left = right := by
  obtain ⟨leftFd, leftPath, leftLive⟩ := left
  obtain ⟨rightFd, rightPath, rightLive⟩ := right
  obtain ⟨sameFd, samePath, live⟩ := alike
  rw [PreopenDir.mk.injEq]
  exact ⟨sameFd, samePath, live other⟩

omit known in
/-- Other numbers are found alike. -/
theorem find?_alike {left right : List PreopenDir} {satisfies : PreopenDir → Bool}
    (preopens : List.Forall₂ (AlikePreopen preopen) left right)
    (finds : ∀ entry, satisfies entry = true → entry.fd = fd) (other : fd ≠ preopen) :
    left.find? satisfies = right.find? satisfies := by
  induction preopens with
  | nil => rfl
  | @cons leftEntry rightEntry left right alike rest ih =>
    rw [List.find?_cons, List.find?_cons, ih]
    by_cases here : rightEntry.fd = fd
    · rw [alike.eq (by rw [alike.fd, here]; exact other)]
    · have notRight : satisfies rightEntry = false := by
        by_contra holds
        exact here (finds rightEntry (by simpa using holds))
      have notLeft : satisfies leftEntry = false := by
        by_contra holds
        exact here (alike.fd ▸ finds leftEntry (by simpa using holds))
      rw [notRight, notLeft]

omit known in
/-- Numbers stand at the same places, since a preopen that is closed stays in the list. -/
theorem findIdx?_alike {left right : List PreopenDir}
    (preopens : List.Forall₂ (AlikePreopen preopen) left right) :
    left.findIdx? (·.fd = fd) = right.findIdx? (·.fd = fd) := by
  induction preopens with
  | nil => rfl
  | cons alike rest ih => rw [List.findIdx?_cons, List.findIdx?_cons, alike.fd, ih]

/-- Another preopen is live in both states or in neither. -/
theorem preopenAt_agrees : Agreeing preopen fresh (Callbacks.preopenAt fd) := by
  apply agrees_bind
  · apply agrees_ask
    intro left right alike
    exact find?_alike alike.state.preopens (fun entry holds => (of_decide_eq_true holds).1)
      known.1
  · intro found
    cases found with
    | none => exact agrees_fail _
    | some entry => exact agrees_pure entry

theorem fdPrestatGet_agrees {pointer : Nat} :
    Agreeing preopen fresh (Callbacks.fdPrestatGet fd pointer) :=
  agrees_bind (preopenAt_agrees known) fun _ => writeChecked_agrees _ _

theorem fdPrestatDirName_agrees {pointer length : Nat} :
    Agreeing preopen fresh (Callbacks.fdPrestatDirName fd pointer length) :=
  agrees_bind (preopenAt_agrees known) fun _ =>
    agrees_ite (agrees_fail _) (writeChecked_agrees _ _)

omit known in
/-- A change that keeps related entries related may be made at any place. -/
theorem forall₂_modify {β : Type} {related : β → β → Prop} {left right : List β} {index : Nat}
    {change : β → β} (entries : List.Forall₂ related left right)
    (keeps : ∀ first second, related first second → related (change first) (change second)) :
    List.Forall₂ related (left.modify index change) (right.modify index change) := by
  induction entries generalizing index with
  | nil => rw [List.modify_nil]; exact .nil
  | cons head rest ih =>
    cases index with
    | zero =>
      rw [List.modify_zero_cons, List.modify_zero_cons]
      exact .cons (keeps _ _ head) rest
    | succ index =>
      rw [List.modify_succ_cons, List.modify_succ_cons]
      exact .cons head ih

/-- Closing another preopen touches the same entry of both lists. -/
theorem closePreopen_agrees :
    Agrees (ε := ε) (AlikeStates preopen fresh) (WasiState.closePreopen fd) := by
  intro left right alike
  have sameIndex : left.preopens.findIdx? (·.fd = fd) = right.preopens.findIdx? (·.fd = fd) :=
    findIdx?_alike alike.preopens
  have sameEntry : left.preopens.find? (·.fd = fd) = right.preopens.find? (·.fd = fd) :=
    find?_alike alike.preopens (fun entry holds => of_decide_eq_true holds) known.1
  simp only [WasiState.closePreopen, bind, ask, id, sameIndex, sameEntry]
  cases right.preopens.findIdx? (·.fd = fd) with
  | none => exact ⟨rfl, alike⟩
  | some index =>
    cases right.preopens.find? (·.fd = fd) with
    | none => exact ⟨rfl, alike⟩
    | some entry =>
      refine ⟨rfl, { alike with preopens := ?_ }⟩
      apply forall₂_modify alike.preopens
      intro leftEntry rightEntry entries
      exact ⟨entries.fd, entries.guestPath, fun _ => rfl⟩

/-- `fd_close` asks the filesystem first, and the list of preopens always. -/
theorem fdClose_agrees : Agreeing preopen fresh (Callbacks.fdClose fd) := by
  apply agrees_bind (onFilesystem_agrees fun _ _ twin => close_matches twin known)
  intro filesystemClosed
  apply agrees_bind
  · refine agrees_zoom (fun left right alike => alike.state) ?_ (closePreopen_agrees known)
    exact fun left right leftPart rightPart alike parts => ⟨alike.capabilities, alike.memory, parts⟩
  · exact fun preopenClosed => agrees_ite (agrees_pure _) (agrees_fail _)

/-! ## Callbacks on paths -/

section Paths

variable {pointer length : Nat}

/-- The descriptor resolves to the same location, so the same directory is made. -/
theorem pathCreateDirectory_agrees :
    Agreeing preopen fresh (Callbacks.pathCreateDirectory fd pointer length) :=
  agrees_bind (readPath_agrees _ _) fun _ =>
    onFilesystem_agrees fun _ _ twin => (createDirectory_follows twin known).matches twin

theorem pathRemoveDirectory_agrees :
    Agreeing preopen fresh (Callbacks.pathRemoveDirectory fd pointer length) :=
  agrees_bind (readPath_agrees _ _) fun _ =>
    onFilesystem_agrees fun _ _ twin => (removeDirectory_follows twin known).matches twin

theorem pathSymlink_agrees {target targetLength : Nat} :
    Agreeing preopen fresh (Callbacks.pathSymlink target targetLength fd pointer length) :=
  agrees_ite (agrees_fail _) <| agrees_bind (readMemory_agrees _ _) fun _ =>
    agrees_bind (readPath_agrees _ _) fun _ =>
      onFilesystem_agrees fun _ _ twin => (symlink_follows twin known).matches twin

theorem pathReadlink_agrees {buf bufLen bufused : Nat} :
    Agreeing preopen fresh (Callbacks.pathReadlink fd pointer length buf bufLen bufused) :=
  agrees_bind (readPath_agrees _ _) fun _ =>
    agrees_bind (onFilesystem_agrees fun _ _ twin => (readlink_follows twin known).matches twin)
      fun _ => writeBoth_agrees

/-- Nothing is changed by this call, so that a query suffices. -/
theorem pathFilestatGet_agrees {flags : BitVec 32} {stat : Nat} :
    Agreeing preopen fresh (Callbacks.pathFilestatGet fd flags pointer length stat) :=
  agrees_bind checkLookupFlags_agrees fun _ => agrees_bind (readPath_agrees _ _) fun _ =>
    agrees_bind (query_agrees fun _ _ twin => pathFilestat_same twin known _) fun _ =>
      writeChecked_agrees _ _

theorem pathFilestatSetTimes_agrees {flags fstFlags : BitVec 32} {atim mtim : Nat} :
    Agreeing preopen fresh
      (Callbacks.pathFilestatSetTimes config fd flags pointer length atim mtim fstFlags) :=
  agrees_bind checkLookupFlags_agrees fun _ => agrees_bind timeUpdate_agrees fun _ =>
    agrees_bind (readPath_agrees _ _) fun _ =>
      onFilesystem_agrees fun _ _ twin => (pathSetTimes_follows twin known).matches twin

/-- `path_unlink_file` asks for the descriptor before it reads the path. -/
theorem pathUnlinkFile_agrees :
    Agreeing preopen fresh (Callbacks.pathUnlinkFile fd pointer length) :=
  agrees_bind (askFilesystem_agrees fun _ _ twin => hasDirectoryDescriptor_same twin known)
    fun _ => agrees_ite (agrees_fail _) <| agrees_bind (readPath_agrees _ _) fun _ =>
      onFilesystem_agrees fun _ _ twin => (unlink_follows twin known).matches twin

/-- Both descriptors have to be known: the new name may lie below another preopen. -/
theorem pathLink_agrees {newFd oldFlags newPointer newLength : Nat}
    (newKnown : Known preopen fresh newFd) :
    Agreeing preopen fresh
      (Callbacks.pathLink fd oldFlags pointer length newFd newPointer newLength) :=
  agrees_bind (askFilesystem_agrees fun _ _ twin => hasDirectoryDescriptor_same twin known)
    fun _ =>
  agrees_bind (askFilesystem_agrees fun _ _ twin => hasDirectoryDescriptor_same twin newKnown)
    fun _ =>
  agrees_ite (agrees_fail _) <| agrees_ite (agrees_fail _) <|
    agrees_bind readPaths_agrees fun _ =>
      onFilesystem_agrees fun _ _ twin => (link_follows twin known newKnown).matches twin

/-- Renaming is for preopens, and both are named by their numbers. -/
theorem pathRename_agrees {newFd newPointer newLength : Nat}
    (newKnown : Known preopen fresh newFd) :
    Agreeing preopen fresh
      (Callbacks.pathRename fd pointer length newFd newPointer newLength) := by
  apply agrees_bind (askFilesystem_agrees fun _ _ twin => twin.hasPreopen known.1)
  intro _
  apply agrees_bind (askFilesystem_agrees fun _ _ twin => twin.hasPreopen newKnown.1)
  intro _
  apply agrees_ite (agrees_fail _)
  apply agrees_bind (askFilesystem_agrees fun _ _ twin => twin.isWritablePreopen known.1)
  intro _
  apply agrees_bind (askFilesystem_agrees fun _ _ twin => twin.isWritablePreopen newKnown.1)
  intro _
  apply agrees_ite (agrees_fail _)
  apply agrees_bind readPaths_agrees
  exact fun names => onFilesystem_agrees fun _ _ twin =>
    (rename_follows twin known.1 newKnown.1).matches twin

end Paths

end Descriptors

end Agreement

end MiniWasm.Wasi
