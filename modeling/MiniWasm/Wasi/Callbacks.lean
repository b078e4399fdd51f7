import MiniWasm.Wasi.Host

/-!
# The host functions

One callback for each registered function of `wasi_snapshot_preview1`.  Arguments
are numbers once the casts from the guest's integers are done; a callback that
ends without a failure returns `ERRNO_SUCCESS`.
-/

namespace MiniWasm.Wasi

open Library Action MiniWasm.Runtime Callback

namespace Callbacks

/-! ## Streams and positioned reads and writes -/

/-- What `fd_write` appends to: a captured stream, or an open file. -/
inductive WriteTarget where
  | stdout
  | stderr
  | file (fd : Nat)
  deriving DecidableEq, Repr

def writeTarget (fd : Nat) : Callback WriteTarget := do
  if fd = 1 then pure .stdout
  else if fd = 2 then pure .stderr
  else do
    let _ ← query writeErrno (·.ensureWritable fd)
    return .file fd

/-- An error after the check means that the descriptor has changed in between. -/
def descriptorChanged {ε : Type} (text : String) (_ : ε) : Failure :=
  .host (.message text)

def commitWrite (target : WriteTarget) (payload : List UInt8) : Callback Unit :=
  match target with
  | .stdout => modify fun host =>
      host.withState { host.state with stdout := host.state.stdout ++ payload }
  | .stderr => modify fun host =>
      host.withState { host.state with stderr := host.state.stderr ++ payload }
  | .file fd =>
      onFilesystem (descriptorChanged "WASI writable descriptor changed during fd_write")
        (FilesystemState.write fd payload)

def fdWrite (config : Config) (fd iovs iovsLen nwritten : Nat) : Callback Unit := do
  let target ← writeTarget fd
  if config.maxIovecs < iovsLen then failWith .inval
  else do
    let payload ← gatherPayload iovs config.maxWriteBytes .inval iovsLen 0 []
    match target with
    | .file fd => query writeErrno (·.prepareWrite fd payload.length)
    | _ => pure ()
    writeChecked nwritten (leBytes 4 payload.length)
    commitWrite target payload

def fdPwrite (fd iovs iovsLen offset nwritten : Nat) : Callback Unit := do
  if maxPwriteIovecs < iovsLen then failWith .inval
  else do
    let payload ← gatherPayload iovs maxFileBytes .fbig iovsLen 0 []
    query writeErrno (·.preparePwrite fd offset payload.length)
    writeChecked nwritten (leBytes 4 payload.length)
    onFilesystem (descriptorChanged "WASI writable descriptor changed during fd_pwrite")
      (FilesystemState.pwrite fd offset payload)

/-- What `fd_read` takes bytes from: the standard input, or an open file. -/
def readSource (fd : Nat) : Callback (Option Nat) := do
  if fd = 0 then pure none
  else do
    let _ ← query DescriptorReadError.errno (·.ensureReadable fd)
    return some fd

def peekSource (source : Option Nat) (capacity : Nat) : Callback (List UInt8) :=
  match source with
  | none => ask fun host => host.state.stdin.peek capacity
  | some fd => query DescriptorReadError.errno (·.peek fd capacity)

def advanceSource (source : Option Nat) (copied : Nat) : Callback Unit :=
  match source with
  | none => modify fun host =>
      host.withState { host.state with stdin := host.state.stdin.advance copied }
  | some fd =>
      onFilesystem (descriptorChanged "WASI read-only descriptor changed during fd_read")
        (FilesystemState.advance fd copied)

def fdRead (config : Config) (fd iovs iovsLen nread : Nat) : Callback Unit := do
  let source ← readSource fd
  if config.maxReadIovecs < iovsLen then failWith .inval
  else do
    let (destinations, capacity) ← gatherDestinations iovs config.maxReadBytes iovsLen 0 [] 0
    preflight nread 4
    let bytes ← peekSource source capacity
    let copied ← scatter destinations bytes 0
    writeMemory nread (leBytes 4 copied)
    advanceSource source copied

def fdPread (config : Config) (fd iovs iovsLen offset nread : Nat) : Callback Unit := do
  let _ ← query DescriptorReadError.errno (·.ensurePreadable fd)
  if config.maxReadIovecs < iovsLen then failWith .inval
  else do
    let (destinations, capacity) ← gatherDestinations iovs config.maxReadBytes iovsLen 0 [] 0
    preflight nread 4
    let bytes ← query DescriptorReadError.errno (·.pread fd offset capacity)
    let copied ← scatter destinations bytes 0
    writeMemory nread (leBytes 4 copied)

/-! ## Descriptors -/

/-- The description that `fd_fdstat_get` writes. -/
def describeDescriptor (config : Config) (fd : Nat) (filesystem : FilesystemState) :
    Option (FileType × BitVec 16 × Rights × Rights) :=
  if fd = 0 then some (.characterDevice, 0, Rights.fdRead, 0)
  else if fd = 1 ∨ fd = 2 then some (.characterDevice, 0, Rights.fdWrite, 0)
  else
    match config.extraFdStats.find? (·.fd = fd) with
    | some entry => some (entry.filetype, 0, entry.rightsBase, entry.rightsInheriting)
    | none => filesystem.fdstat fd

def fdFdstatGet (config : Config) (fd fdstat : Nat) : Callback Unit := do
  match ← askFilesystem (describeDescriptor config fd) with
  | none => failWith .badf
  | some (filetype, flags, base, inheriting) =>
      writeMemory fdstat (encodeFdstat filetype flags base inheriting)

def fdFilestatGet (config : Config) (fd filestatPtr : Nat) : Callback Unit := do
  if fd ≤ 2 ∨ config.extraFdStats.any (·.fd = fd) then failWith .notcapable
  else do
    let stat ← query DescriptorFilestatError.errno (·.filestat fd)
    writeChecked filestatPtr (encodeFilestat stat)

def fdFdstatSetFlags (fd flags : Nat) : Callback Unit := do
  if ← askFilesystem (·.isKnownNonFile fd) then failWith .notcapable
  else if 2 ^ 16 ≤ flags then failWith .inval
  else
    onFilesystem (fun err => .errno (DescriptorFlagsError.errno err))
      (FilesystemState.setFlags fd (BitVec.ofNat 16 flags))

def fdSeek (fd : Nat) (offset : Int) (whence newoffsetPtr : Nat) : Callback Unit := do
  if ← askFilesystem (·.isKnownNonFile fd) then failWith .notcapable
  else do
    let newoffset ← query positionErrno (·.prepareSeek fd offset whence)
    writeChecked newoffsetPtr (leBytes 8 newoffset)
    let committed ← onFilesystem (fun err : Failure => err)
      (FilesystemState.commitSeek fd newoffset)
    if committed then pure ()
    else fail (.host (.message "WASI descriptor changed during fd_seek"))

def fdTell (fd offsetPtr : Nat) : Callback Unit := do
  if ← askFilesystem (·.isKnownNonFile fd) then failWith .notcapable
  else do
    let offset ← query positionErrno (·.tell fd)
    writeChecked offsetPtr (leBytes 8 offset)

def fdAllocate (fd offset length : Nat) : Callback Unit := do
  if ← askFilesystem (·.isKnownNonFile fd) then failWith .notcapable
  else onFilesystem (fun err => .errno (writeErrno err)) (FilesystemState.allocate fd offset length)

def fdFilestatSetSize (fd size : Nat) : Callback Unit := do
  if ← askFilesystem (·.isKnownNonFile fd) then failWith .notcapable
  else onFilesystem (fun err => .errno (writeErrno err)) (FilesystemState.setSize fd size)

/-- The update that the flags ask for; the current time is that of the configured
clock. -/
def resolveTimeUpdate (atim mtim : Nat) (flags : BitVec 32) (realtimeNow : Option Nat) :
    Option TimeUpdate :=
  let asks (flag : BitVec 32) := flags &&& flag ≠ 0
  if flags &&& ~~~fstflagsAll ≠ 0 ∨ (asks fstflagsAtim ∧ asks fstflagsAtimNow) ∨
      (asks fstflagsMtim ∧ asks fstflagsMtimNow) then
    none
  else
    let pick (given now : BitVec 32) (time : Nat) : Option (Option Nat) :=
      if asks given then some (some time)
      else if asks now then realtimeNow.map some
      else some none
    match pick fstflagsAtim fstflagsAtimNow atim, pick fstflagsMtim fstflagsMtimNow mtim with
    | some atim, some mtim => some { atim, mtim }
    | _, _ => none

def timeUpdate (config : Config) (atim mtim : Nat) (flags : BitVec 32) : Callback TimeUpdate :=
  match resolveTimeUpdate atim mtim flags config.clocks.realtimeTime with
  | none => failWith .inval
  | some update => pure update

def fdFilestatSetTimes (config : Config) (fd atim mtim : Nat) (flags : BitVec 32) :
    Callback Unit := do
  let update ← timeUpdate config atim mtim flags
  if ← askFilesystem (·.isKnownNonFile fd) then failWith .notcapable
  else
    onFilesystem (fun err => .errno (DescriptorFilestatError.errno err))
      (FilesystemState.setTimes fd update)

def fdClose (fd : Nat) : Callback Unit := do
  let filesystemClosed ← onFilesystem (fun err : Failure => err) (FilesystemState.close fd)
  let preopenClosed ←
    zoom (·.state) (fun state host => host.withState state) (fun err : Failure => err)
      (WasiState.closePreopen fd)
  if filesystemClosed ∨ preopenClosed then pure () else failWith .badf

/-- As much of the serialised entries as fits into the buffer. -/
def fdReaddir (fd buf bufLen cookie bufused : Nat) : Callback Unit := do
  let entries ← query ReaddirError.errno (·.readdirSnapshot fd cookie)
  let payload := fillDirents bufLen entries []
  writeBoth buf payload bufLen bufused (leBytes 4 payload.length)

/-! ## Preopens -/

def preopenAt (fd : Nat) : Callback PreopenDir := do
  match ← ask fun host => host.state.findPreopen fd with
  | none => failWith .badf
  | some entry => pure entry

def fdPrestatGet (fd prestatPtr : Nat) : Callback Unit := do
  let entry ← preopenAt fd
  writeChecked prestatPtr (leBytes 4 0 ++ leBytes 4 entry.guestPath.length)

def fdPrestatDirName (fd pathPtr pathLen : Nat) : Callback Unit := do
  let entry ← preopenAt fd
  if pathLen < entry.guestPath.length then failWith .nametoolong
  else writeChecked pathPtr entry.guestPath

/-! ## Paths -/

def pathCreateDirectory (dirFd pathPtr pathLen : Nat) : Callback Unit := do
  let path ← readPath pathPtr pathLen
  onFilesystem (fun err => .errno (directoryErrno err)) (FilesystemState.createDirectory dirFd path)

def pathRemoveDirectory (dirFd pathPtr pathLen : Nat) : Callback Unit := do
  let path ← readPath pathPtr pathLen
  onFilesystem (fun err => .errno (directoryErrno err)) (FilesystemState.removeDirectory dirFd path)

/-- The target is any byte string that is not too long. -/
def pathSymlink (targetPtr targetLen dirFd pathPtr pathLen : Nat) : Callback Unit := do
  if maxRelativePathBytes < targetLen ∨ maxRelativePathBytes < pathLen then
    failWith .nametoolong
  else do
    let target ← readMemory targetPtr targetLen
    let path ← readPath pathPtr pathLen
    onFilesystem (fun err => .errno (symlinkErrno err))
      (FilesystemState.symlink dirFd path target)

def pathReadlink (dirFd pathPtr pathLen buf bufLen bufused : Nat) : Callback Unit := do
  let path ← readPath pathPtr pathLen
  let target ← onFilesystem (fun err => .errno (symlinkErrno err))
    (FilesystemState.readlink dirFd path)
  let copied := target.take bufLen
  writeBoth buf copied bufLen bufused (leBytes 4 copied.length)

/-- Lookups never follow symbolic links. -/
def checkLookupFlags (flags : BitVec 32) : Callback Unit :=
  if flags &&& ~~~lookupflagsSymlinkFollow ≠ 0 then failWith .inval
  else if flags &&& lookupflagsSymlinkFollow ≠ 0 then failWith .notsup
  else pure ()

def pathFilestatGet (dirFd : Nat) (flags : BitVec 32) (pathPtr pathLen filestatPtr : Nat) :
    Callback Unit := do
  checkLookupFlags flags
  let path ← readPath pathPtr pathLen
  let stat ← query PathFilestatError.errno (·.pathFilestat dirFd path)
  writeChecked filestatPtr (encodeFilestat stat)

def pathFilestatSetTimes (config : Config) (dirFd : Nat) (flags : BitVec 32)
    (pathPtr pathLen atim mtim : Nat) (fstFlags : BitVec 32) : Callback Unit := do
  checkLookupFlags flags
  let update ← timeUpdate config atim mtim fstFlags
  let path ← readPath pathPtr pathLen
  onFilesystem (fun err => .errno (PathFilestatError.errno err))
    (FilesystemState.pathSetTimes dirFd path update)

/-- The flags and rights of a `path_open`, checked before the path is read. -/
structure OpenRequest where
  directory : Bool
  rightsBase : Rights
  fdFlags : BitVec 16
  options : OpenOptions
  deriving DecidableEq, Repr

def checkOpen (dirFlags openFlags : BitVec 32) (rightsBase rightsInheriting : Rights)
    (fdFlags : Nat) : Callback OpenRequest :=
  let asks (flag : BitVec 32) : Bool := openFlags &&& flag ≠ 0
  let create := asks oflagsCreat
  let directory := asks oflagsDirectory
  let exclusive := asks oflagsExcl
  let truncate := asks oflagsTrunc
  let supported := oflagsCreat ||| oflagsDirectory ||| oflagsExcl ||| oflagsTrunc
  let allowedBase :=
    if directory then Rights.allowedDirectoryBase else Rights.allowedFileBase
  let descriptorFlags := BitVec.ofNat 16 fdFlags
  if dirFlags ≠ 0 ∨ openFlags &&& ~~~supported ≠ 0 then failWith .notcapable
  else if 2 ^ 16 ≤ fdFlags ∨ descriptorFlags &&& ~~~fdflagsAppend ≠ 0 then failWith .inval
  else if directory ∧ (create ∨ exclusive ∨ truncate) then failWith .notcapable
  else if ¬ rightsBase.Within allowedBase ∨ rightsInheriting ≠ 0 then failWith .notcapable
  else if truncate ∧ rightsBase &&& Rights.fdWrite = 0 then failWith .notcapable
  else
    pure { directory, rightsBase, fdFlags := descriptorFlags
           options := { create, exclusive, truncate, descriptorFlags } }

def openRequested (dirFd : Nat) (path : Path) (request : OpenRequest) : Callback OpenedFile :=
  if request.directory then
    if request.fdFlags ≠ 0 then failWith .inval
    else
      onFilesystem (fun err => .errno (OpenError.errno err))
        (FilesystemState.openDirectory dirFd path request.rightsBase)
  else
    onFilesystem (fun err => .errno (OpenError.errno err))
      (FilesystemState.openFile dirFd path request.rightsBase request.options)

/-- Write the number of the new descriptor, or undo the open. -/
def reportOpened (dirFd : Nat) (path : Path) (openedFdPtr : Nat) (opened : OpenedFile) :
    Callback Unit := do
  match ← ask fun host => host.writeMemory openedFdPtr (leBytes 4 opened.fd) with
  | .ok _ => writeMemory openedFdPtr (leBytes 4 opened.fd)
  | .error _ => do
      onFilesystem (fun err : Failure => err) (FilesystemState.rollbackOpen dirFd path opened)
      failWith .fault

def pathOpen (dirFd : Nat) (dirFlags : BitVec 32) (pathPtr pathLen : Nat)
    (openFlags : BitVec 32) (rightsBase rightsInheriting : Rights) (fdFlags openedFdPtr : Nat) :
    Callback Unit := do
  if ¬ (← askFilesystem (·.hasDirectoryDescriptor dirFd)) then failWith .badf
  else do
    let request ← checkOpen dirFlags openFlags rightsBase rightsInheriting fdFlags
    let path ← readPath pathPtr pathLen
    preflight openedFdPtr 4
    let opened ← openRequested dirFd path request
    reportOpened dirFd path openedFdPtr opened

def pathLink (oldFd oldFlags oldPtr oldLen newFd newPtr newLen : Nat) : Callback Unit := do
  if ¬ (← askFilesystem (·.hasDirectoryDescriptor oldFd)) ∨
      ¬ (← askFilesystem (·.hasDirectoryDescriptor newFd)) then
    failWith .badf
  else if oldFlags ≠ 0 then failWith .inval
  else do
    let (oldPath, newPath) ← readPaths oldPtr oldLen newPtr newLen
    onFilesystem (fun err => .errno (LinkError.errno err))
      (FilesystemState.link oldFd oldPath newFd newPath)

def pathRename (oldFd oldPtr oldLen newFd newPtr newLen : Nat) : Callback Unit := do
  if ¬ (← askFilesystem (·.hasPreopen oldFd)) ∨ ¬ (← askFilesystem (·.hasPreopen newFd)) then
    failWith .badf
  else if ¬ (← askFilesystem (·.isWritablePreopen oldFd)) ∨
      ¬ (← askFilesystem (·.isWritablePreopen newFd)) then
    failWith .notcapable
  else do
    let (oldPath, newPath) ← readPaths oldPtr oldLen newPtr newLen
    onFilesystem (fun err => .errno (RenameError.errno err))
      (FilesystemState.rename { preopenFd := oldFd, relativePath := oldPath }
        { preopenFd := newFd, relativePath := newPath })

def pathUnlinkFile (dirFd pathPtr pathLen : Nat) : Callback Unit := do
  if ¬ (← askFilesystem (·.hasDirectoryDescriptor dirFd)) then failWith .badf
  else do
    let path ← readPath pathPtr pathLen
    onFilesystem (fun err => .errno (UnlinkError.errno err)) (FilesystemState.unlink dirFd path)

/-! ## Arguments and environment -/

/-- Bytes of the entries with a terminator each. -/
def stringsLength (entries : List (List UInt8)) : Nat :=
  (entries.map fun entry => entry.length + 1).sum

/-- `args_sizes_get` and `environ_sizes_get`.  A sum past the largest number is over
the limit as well. -/
def sizesGet (entries : List (List UInt8)) (maxCount maxBytes countPtr bufSizePtr : Nat) :
    Callback Unit := do
  if maxCount < entries.length then failWith .inval
  else if maxBytes < stringsLength entries ∨ 2 ^ 32 - 1 < entries.length ∨
      2 ^ 32 - 1 < stringsLength entries then
    failWith .inval
  else
    writeBoth countPtr (leBytes 4 entries.length) 4 bufSizePtr
      (leBytes 4 (stringsLength entries))

/-- The table of pointers and the strings they point to. -/
def layoutStrings (bufPtr maxBytes : Nat) :
    List (List UInt8) → (table payload : List UInt8) → Except Errno (List UInt8 × List UInt8)
  | [], table, payload => .ok (table, payload)
  | entry :: entries, table, payload =>
      if 2 ^ 32 ≤ payload.length then .error .inval
      else if 2 ^ 32 ≤ bufPtr + payload.length then .error .fault
      else if maxBytes < payload.length + entry.length + 1 ∨
          2 ^ 32 - 1 < payload.length + entry.length + 1 then
        .error .inval
      else
        layoutStrings bufPtr maxBytes entries (table ++ leBytes 4 (bufPtr + payload.length))
          (payload ++ entry ++ [0])

/-- `args_get` and `environ_get`. -/
def stringsGet (entries : List (List UInt8)) (maxCount maxBytes tablePtr bufPtr : Nat) :
    Callback Unit := do
  if maxCount < entries.length then failWith .inval
  else if 2 ^ 64 ≤ 4 * entries.length then failWith .inval
  else do
    let (table, payload) ←
      consult fun _ => (layoutStrings bufPtr maxBytes entries [] []).mapError .errno
    writeBoth tablePtr table table.length bufPtr payload

def argsSizesGet (config : Config) (argcPtr argvBufSizePtr : Nat) : Callback Unit :=
  sizesGet config.args config.maxArgs config.maxArgsBytes argcPtr argvBufSizePtr

def argsGet (config : Config) (argvPtr argvBufPtr : Nat) : Callback Unit :=
  stringsGet config.args config.maxArgs config.maxArgsBytes argvPtr argvBufPtr

def environSizesGet (config : Config) (countPtr bufSizePtr : Nat) : Callback Unit :=
  sizesGet config.env config.maxEnv config.maxEnvBytes countPtr bufSizePtr

def environGet (config : Config) (environPtr environBufPtr : Nat) : Callback Unit :=
  stringsGet config.env config.maxEnv config.maxEnvBytes environPtr environBufPtr

/-! ## Clocks, entropy and exit -/

def clockSnapshot (config : Config) (clockId : Nat) : Callback ClockSnapshot :=
  match config.clocks.snapshot clockId with
  | none => failWith .inval
  | some snapshot => pure snapshot

def clockResGet (config : Config) (clockId result : Nat) : Callback Unit := do
  let snapshot ← clockSnapshot config clockId
  writeChecked result (leBytes 8 snapshot.resolutionNs)

def clockTimeGet (config : Config) (clockId result : Nat) : Callback Unit := do
  let snapshot ← clockSnapshot config clockId
  writeChecked result (leBytes 8 snapshot.timeNs)

def randomGet (config : Config) (buffer length : Nat) : Callback Unit := do
  if config.maxRandomBytes < length then failWith .inval
  else do
    let entropy ← ask fun host => host.state.entropy
    if entropy.bytes.length - entropy.offset < length then failWith .io
    else do
      writeChecked buffer (sliceAt entropy.bytes entropy.offset length)
      modify fun host =>
        host.withState
          { host.state with entropy := { entropy with offset := entropy.offset + length } }

def procExit (code : Nat) : Callback Unit := do
  modify fun host => host.withState { host.state with exitCode := some code }
  fail (.host (.message "wasi proc_exit control transfer"))

/-! ## Polling -/

def u16At (bytes : List UInt8) (offset : Nat) : Nat :=
  LinearMemory.fromLeBytes (sliceAt bytes offset 2)

def u64At (bytes : List UInt8) (offset : Nat) : Nat :=
  LinearMemory.fromLeBytes (sliceAt bytes offset 8)

def eventtypeClock : Nat := 0
def eventtypeFdRead : Nat := 1
def eventtypeFdWrite : Nat := 2

def encodeEvent (userdata eventType nbytes : Nat) (hangup : Bool) : List UInt8 :=
  leBytes 8 userdata ++ leBytes 2 Errno.success.code ++ leBytes 1 eventType ++ leBytes 5 0 ++
    leBytes 8 nbytes ++ leBytes 2 hangup.toNat ++ leBytes 6 0

def readyClockEvent (config : Config) (subscription : List UInt8) :
    Except Errno (List UInt8) :=
  let clockId := u32At subscription 16
  let timeout := u64At subscription 24
  let flags := u16At subscription 40
  if 1 < clockId then .error .inval
  else if 1 < flags then .error .inval
  else
    match config.clocks.snapshot clockId with
    | none => .error .inval
    | some snapshot =>
        let ready := if flags = 1 then timeout ≤ snapshot.timeNs else timeout = 0
        if ready then .ok (encodeEvent (u64At subscription 0) eventtypeClock 0 false)
        else .error .notsup

def pollFdReadReady (filesystem : FilesystemState) (fd : Nat) : Except Errno (Nat × Bool) :=
  if fd = 0 then .ok (1, false)
  else (filesystem.pollReadReady fd).mapError (·.errno)

def pollFdWriteReady (filesystem : FilesystemState) (fd : Nat) : Except Errno (Nat × Bool) :=
  if fd = 1 ∨ fd = 2 then .ok (1, false)
  else ((filesystem.pollWriteReady fd).map fun nbytes => (nbytes, false)).mapError writeErrno

def readyEvent (config : Config) (filesystem : FilesystemState) (subscription : List UInt8) :
    Except Errno (List UInt8) := do
  let eventType := LinearMemory.fromLeBytes (sliceAt subscription 8 1)
  let fd := u32At subscription 16
  if eventType = eventtypeClock then readyClockEvent config subscription
  else if eventType = eventtypeFdRead then do
    let (nbytes, hangup) ← pollFdReadReady filesystem fd
    return encodeEvent (u64At subscription 0) eventType nbytes hangup
  else if eventType = eventtypeFdWrite then do
    let (nbytes, hangup) ← pollFdWriteReady filesystem fd
    return encodeEvent (u64At subscription 0) eventType nbytes hangup
  else .error .inval

/-- The events of the given number of subscriptions. -/
def readyEvents (config : Config) (filesystem : FilesystemState) :
    (count : Nat) → (subscriptions events : List UInt8) → Except Errno (List UInt8)
  | 0, _, events => .ok events
  | count + 1, subscriptions, events => do
      let event ← readyEvent config filesystem (subscriptions.take 48)
      readyEvents config filesystem count (subscriptions.drop 48) (events ++ event)

def pollOneoff (config : Config) (input output count nevents : Nat) : Callback Unit := do
  if count = 0 ∨ maxSubscriptions < count then failWith .inval
  else do
    let subscriptions ← readMemory input (48 * count)
    preflight output (32 * count)
    preflight nevents 4
    let events ← consult fun host =>
      (readyEvents config host.state.filesystem count subscriptions []).mapError .errno
    writeMemory output events
    writeMemory nevents (leBytes 4 count)

end Callbacks

end MiniWasm.Wasi
