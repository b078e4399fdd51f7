import MiniWasm.Wasi.Callbacks

/-!
# Calls and configurations

The calls a guest can make, with arguments of the registered types, and how a
sequence of calls changes the state.  The guest's memory is its own: each request
brings the memory at the time of the call.
-/

namespace MiniWasm.Wasi

open Library MiniWasm.Runtime

abbrev I32 := BitVec 32
abbrev I64 := BitVec 64

inductive Call where
  | fdWrite (fd iovs iovsLen nwritten : I32)
  | fdRead (fd iovs iovsLen nread : I32)
  | fdPread (fd iovs iovsLen : I32) (offset : I64) (nread : I32)
  | fdPwrite (fd iovs iovsLen : I32) (offset : I64) (nwritten : I32)
  | fdFdstatGet (fd fdstat : I32)
  | fdFdstatSetFlags (fd flags : I32)
  | fdFilestatGet (fd filestat : I32)
  | fdFilestatSetSize (fd : I32) (size : I64)
  | fdFilestatSetTimes (fd : I32) (atim mtim : I64) (fstFlags : I32)
  | fdAllocate (fd : I32) (offset length : I64)
  | fdSeek (fd : I32) (offset : I64) (whence newoffset : I32)
  | fdTell (fd offset : I32)
  | fdClose (fd : I32)
  | fdReaddir (fd buf bufLen : I32) (cookie : I64) (bufused : I32)
  | fdPrestatGet (fd prestat : I32)
  | fdPrestatDirName (fd path pathLen : I32)
  | pathCreateDirectory (dirFd path pathLen : I32)
  | pathRemoveDirectory (dirFd path pathLen : I32)
  | pathSymlink (target targetLen dirFd path pathLen : I32)
  | pathReadlink (dirFd path pathLen buf bufLen bufused : I32)
  | pathFilestatGet (dirFd flags path pathLen filestat : I32)
  | pathFilestatSetTimes (dirFd flags path pathLen : I32) (atim mtim : I64) (fstFlags : I32)
  | pathOpen (dirFd dirFlags path pathLen openFlags : I32) (rightsBase rightsInheriting : I64)
      (fdFlags openedFd : I32)
  | pathLink (oldFd oldFlags oldPath oldLen newFd newPath newLen : I32)
  | pathRename (oldFd oldPath oldLen newFd newPath newLen : I32)
  | pathUnlinkFile (dirFd path pathLen : I32)
  | argsSizesGet (argc argvBufSize : I32)
  | argsGet (argv argvBuf : I32)
  | environSizesGet (count bufSize : I32)
  | environGet (environ environBuf : I32)
  | clockResGet (clockId result : I32)
  | clockTimeGet (clockId : I32) (precision : I64) (result : I32)
  | randomGet (buffer length : I32)
  | pollOneoff (input output nsubscriptions nevents : I32)
  | procExit (code : I32)
  deriving DecidableEq, Repr

namespace Call

/-- The capabilities that the function is registered with. -/
def capabilities : Call → HostCapabilities
  | fdFdstatSetFlags .. => .none
  | fdFilestatSetSize .. => .none
  | fdFilestatSetTimes .. => .none
  | fdAllocate .. => .none
  | fdClose .. => .none
  | procExit .. => .none
  | pathCreateDirectory .. => .readOnly
  | pathRemoveDirectory .. => .readOnly
  | pathSymlink .. => .readOnly
  | pathFilestatSetTimes .. => .readOnly
  | pathLink .. => .readOnly
  | pathRename .. => .readOnly
  | pathUnlinkFile .. => .readOnly
  | _ => .readWrite

def run (config : Config) : Call → Callback Unit
  | fdWrite fd iovs iovsLen nwritten =>
      Callbacks.fdWrite config fd.toNat iovs.toNat iovsLen.toNat nwritten.toNat
  | fdRead fd iovs iovsLen nread =>
      Callbacks.fdRead config fd.toNat iovs.toNat iovsLen.toNat nread.toNat
  | fdPread fd iovs iovsLen offset nread =>
      Callbacks.fdPread config fd.toNat iovs.toNat iovsLen.toNat offset.toNat nread.toNat
  | fdPwrite fd iovs iovsLen offset nwritten =>
      Callbacks.fdPwrite fd.toNat iovs.toNat iovsLen.toNat offset.toNat nwritten.toNat
  | fdFdstatGet fd fdstat => Callbacks.fdFdstatGet config fd.toNat fdstat.toNat
  | fdFdstatSetFlags fd flags => Callbacks.fdFdstatSetFlags fd.toNat flags.toNat
  | fdFilestatGet fd filestat => Callbacks.fdFilestatGet config fd.toNat filestat.toNat
  | fdFilestatSetSize fd size => Callbacks.fdFilestatSetSize fd.toNat size.toNat
  | fdFilestatSetTimes fd atim mtim fstFlags =>
      Callbacks.fdFilestatSetTimes config fd.toNat atim.toNat mtim.toNat fstFlags
  | fdAllocate fd offset length => Callbacks.fdAllocate fd.toNat offset.toNat length.toNat
  | fdSeek fd offset whence newoffset =>
      Callbacks.fdSeek fd.toNat offset.toInt whence.toNat newoffset.toNat
  | fdTell fd offset => Callbacks.fdTell fd.toNat offset.toNat
  | fdClose fd => Callbacks.fdClose fd.toNat
  | fdReaddir fd buf bufLen cookie bufused =>
      Callbacks.fdReaddir fd.toNat buf.toNat bufLen.toNat cookie.toNat bufused.toNat
  | fdPrestatGet fd prestat => Callbacks.fdPrestatGet fd.toNat prestat.toNat
  | fdPrestatDirName fd path pathLen =>
      Callbacks.fdPrestatDirName fd.toNat path.toNat pathLen.toNat
  | pathCreateDirectory dirFd path pathLen =>
      Callbacks.pathCreateDirectory dirFd.toNat path.toNat pathLen.toNat
  | pathRemoveDirectory dirFd path pathLen =>
      Callbacks.pathRemoveDirectory dirFd.toNat path.toNat pathLen.toNat
  | pathSymlink target targetLen dirFd path pathLen =>
      Callbacks.pathSymlink target.toNat targetLen.toNat dirFd.toNat path.toNat pathLen.toNat
  | pathReadlink dirFd path pathLen buf bufLen bufused =>
      Callbacks.pathReadlink dirFd.toNat path.toNat pathLen.toNat buf.toNat bufLen.toNat
        bufused.toNat
  | pathFilestatGet dirFd flags path pathLen filestat =>
      Callbacks.pathFilestatGet dirFd.toNat flags path.toNat pathLen.toNat filestat.toNat
  | pathFilestatSetTimes dirFd flags path pathLen atim mtim fstFlags =>
      Callbacks.pathFilestatSetTimes config dirFd.toNat flags path.toNat pathLen.toNat
        atim.toNat mtim.toNat fstFlags
  | pathOpen dirFd dirFlags path pathLen openFlags rightsBase rightsInheriting fdFlags
      openedFd =>
      Callbacks.pathOpen dirFd.toNat dirFlags path.toNat pathLen.toNat openFlags rightsBase
        rightsInheriting fdFlags.toNat openedFd.toNat
  | pathLink oldFd oldFlags oldPath oldLen newFd newPath newLen =>
      Callbacks.pathLink oldFd.toNat oldFlags.toNat oldPath.toNat oldLen.toNat newFd.toNat
        newPath.toNat newLen.toNat
  | pathRename oldFd oldPath oldLen newFd newPath newLen =>
      Callbacks.pathRename oldFd.toNat oldPath.toNat oldLen.toNat newFd.toNat newPath.toNat
        newLen.toNat
  | pathUnlinkFile dirFd path pathLen =>
      Callbacks.pathUnlinkFile dirFd.toNat path.toNat pathLen.toNat
  | argsSizesGet argc argvBufSize =>
      Callbacks.argsSizesGet config argc.toNat argvBufSize.toNat
  | argsGet argv argvBuf => Callbacks.argsGet config argv.toNat argvBuf.toNat
  | environSizesGet count bufSize =>
      Callbacks.environSizesGet config count.toNat bufSize.toNat
  | environGet environ environBuf =>
      Callbacks.environGet config environ.toNat environBuf.toNat
  | clockResGet clockId result => Callbacks.clockResGet config clockId.toNat result.toNat
  | clockTimeGet clockId _ result => Callbacks.clockTimeGet config clockId.toNat result.toNat
  | randomGet buffer length => Callbacks.randomGet config buffer.toNat length.toNat
  | pollOneoff input output nsubscriptions nevents =>
      Callbacks.pollOneoff config input.toNat output.toNat nsubscriptions.toNat nevents.toNat
  | procExit code => Callbacks.procExit code.toNat

end Call

/-! ## Sequences of calls -/

structure Request where
  memory : Option LinearMemory
  call : Call

/-- The host that the callback of a request runs on. -/
def Request.host (request : Request) (state : WasiState) : Host :=
  { capabilities := request.call.capabilities, memory := request.memory, state }

/-- What a request returns, with the host after it. -/
def respond (config : Config) (state : WasiState) (request : Request) :
    Except Failure Unit × Host :=
  request.call.run config (request.host state)

def afterCall (config : Config) (state : WasiState) (request : Request) : WasiState :=
  (respond config state request).2.state

/-- The state after a sequence of calls. -/
def afterCalls (config : Config) (state : WasiState) (requests : List Request) : WasiState :=
  requests.foldl (afterCall config) state

/-! ## Configuration -/

inductive WasiPreopenError where
  | emptyGuestPath
  | nameTooLong (length limit : Nat)
  | tooManyPreopens (limit : Nat)
  deriving DecidableEq, Repr

inductive WasiFilesystemError where
  | unknownPreopen (guestPath : List UInt8)
  | emptyRelativePath
  | relativePathTooLong (length limit : Nat)
  | unsafeRelativePath
  | fileTooLarge (length limit : Nat)
  | tooManyFiles (limit : Nat)
  | duplicateFile
  | readOnlyPreopen
  deriving DecidableEq, Repr

namespace FilesystemState

variable (state : FilesystemState)

/-- Numbers are kept in order. -/
def reservePreopen (fd : Nat) (writable : Bool) : FilesystemState :=
  let add (numbers : List Nat) : List Nat :=
    if fd ∈ numbers then numbers else numbers.orderedInsert (· ≤ ·) fd
  { state with
    reservedPreopens := add state.reservedPreopens
    writablePreopens :=
      if writable then add state.writablePreopens else state.writablePreopens }

def validateConfiguredPath (path : Path) : Except WasiFilesystemError Unit :=
  (validateGuestPath path).mapError fun
    | .empty => .emptyRelativePath
    | .tooLong => .relativePathTooLong path.length maxRelativePathBytes
    | .unsafePath => .unsafeRelativePath

def mountFile (location : Location) (bytes : List UInt8) (writable : Bool) :
    Except WasiFilesystemError FilesystemState := do
  validateConfiguredPath location.relativePath
  if writable ∧ ¬ state.isWritablePreopen location.preopenFd then .error .readOnlyPreopen
  else if maxFileBytes < bytes.length then .error (.fileTooLarge bytes.length maxFileBytes)
  else if maxMountedFiles ≤ state.mountedFiles.length then
    .error (.tooManyFiles maxMountedFiles)
  else if (state.fileAt location).isSome then .error .duplicateFile
  else
    let file : MountedFile :=
      { location with
        inode := state.nextInode + 1
        bytes := state.bytes.size
        linkCount := state.linkCounts.size
        times := state.times.size
        writable }
    return { state with
              nextInode := state.nextInode + 1
              bytes := (state.bytes.alloc bytes).2
              linkCounts := (state.linkCounts.alloc 1).2
              times := (state.times.alloc .default).2
              mountedFiles := state.mountedFiles ++ [file] }

end FilesystemState

/-- The limits that the builder starts from. -/
def Config.default : Config where
  args := []
  env := []
  extraFdStats := []
  clocks := []
  maxIovecs := 1024
  maxWriteBytes := 16 * 1024 * 1024
  maxReadIovecs := 1024
  maxReadBytes := 16 * 1024 * 1024
  maxArgs := 4096
  maxArgsBytes := 1024 * 1024
  maxEnv := 4096
  maxEnvBytes := 1024 * 1024
  maxRandomBytes := 1024 * 1024

/-- The capabilities before they are registered. -/
structure Preview1 where
  config : Config
  state : WasiState

namespace Preview1

/-- Rights of the descriptors opened through a preopen. -/
def preopenInheriting (writable : Bool) : Rights :=
  if writable then
    Rights.fdRead ||| Rights.fdWrite ||| Rights.fdFdstatSetFlags ||| Rights.fdSeek |||
      Rights.fdTell ||| Rights.fdFilestatGet ||| Rights.fdAllocate |||
      Rights.fdFilestatSetSize ||| Rights.fdFilestatSetTimes
  else
    Rights.fdRead ||| Rights.fdSeek ||| Rights.fdTell ||| Rights.fdFilestatGet

/-- The base rights that are registered for a preopen. -/
def preopenBase (writable : Bool) : Rights :=
  if writable then
    Rights.pathOpen ||| Rights.pathFilestatGet ||| Rights.pathFilestatSetTimes |||
      Rights.fdReaddir ||| Rights.pathCreateDirectory ||| Rights.pathCreateFile |||
      Rights.pathLinkSource ||| Rights.pathLinkTarget ||| Rights.pathReadlink |||
      Rights.pathRenameSource ||| Rights.pathRenameTarget ||| Rights.pathSymlink |||
      Rights.pathRemoveDirectory ||| Rights.pathUnlinkFile
  else
    Rights.pathOpen ||| Rights.pathFilestatGet ||| Rights.fdReaddir ||| Rights.pathReadlink

/-- Before any preopen or file is configured. -/
def new (config : Config) (stdin entropy : List UInt8) : Preview1 where
  config := { config with extraFdStats := [] }
  state :=
    { stdin := { bytes := stdin, offset := 0 }, stdout := [], stderr := []
      entropy := { bytes := entropy, offset := 0 }, exitCode := none, preopens := []
      filesystem := .default }

variable (wasi : Preview1)

/-- `PreopenSet::add` and the registration of its description. -/
def withPreopenPolicy (guestPath : List UInt8) (writable : Bool) :
    Except WasiPreopenError Preview1 :=
  if guestPath = [] then .error .emptyGuestPath
  else if maxPreopenNameBytes < guestPath.length then
    .error (.nameTooLong guestPath.length maxPreopenNameBytes)
  else if maxPreopenDirs ≤ wasi.state.preopens.length then
    .error (.tooManyPreopens maxPreopenDirs)
  else
    let fd := firstPreopenFd + wasi.state.preopens.length
    let stat : ExtraFdStat :=
      { fd, filetype := .directory, rightsBase := preopenBase writable
        rightsInheriting := preopenInheriting writable }
    .ok
      { config :=
          { wasi.config with
            extraFdStats := wasi.config.extraFdStats.filter (·.fd ≠ fd) ++ [stat] }
        state :=
          { wasi.state with
            preopens := wasi.state.preopens ++ [{ fd, guestPath, live := true }]
            filesystem := wasi.state.filesystem.reservePreopen fd writable } }

def withFilePolicy (guestPath : List UInt8) (relativePath : Path) (bytes : List UInt8)
    (writable : Bool) : Except WasiFilesystemError Preview1 :=
  match wasi.state.preopens.find? (·.guestPath = guestPath) with
  | none => .error (.unknownPreopen guestPath)
  | some entry => do
      let filesystem ←
        wasi.state.filesystem.mountFile { preopenFd := entry.fd, relativePath } bytes writable
      return { wasi with state := { wasi.state with filesystem } }

end Preview1

/-- A configuration that the builder can make. -/
inductive Mounted : Preview1 → Prop where
  | new (config : Config) (stdin entropy : List UInt8) : Mounted (.new config stdin entropy)
  | preopen {wasi after : Preview1} {guestPath : List UInt8} {writable : Bool} :
      Mounted wasi → wasi.withPreopenPolicy guestPath writable = .ok after → Mounted after
  | file {wasi after : Preview1} {guestPath : List UInt8} {relativePath : Path}
      {bytes : List UInt8} {writable : Bool} :
      Mounted wasi → wasi.withFilePolicy guestPath relativePath bytes writable = .ok after →
      Mounted after

end MiniWasm.Wasi
