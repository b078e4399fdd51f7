import MiniWasm.Wasi.Calls

/-!
# Effects on the filesystem

What the operations can do to the state of the filesystem.  Every operation leaves
it as it was or makes one of the changes listed here, under the conditions listed
with it; the invariants are proved of these changes.
-/

namespace MiniWasm.Wasi

open Library Action

/-- An operation that may change the filesystem, with its operands. -/
inductive Operation where
  | nothing
  | openFile (dirFd : Nat) (path : Path) (rightsBase : Rights) (options : OpenOptions)
  | openDirectory (dirFd : Nat) (path : Path) (rightsBase : Rights)
  | close (fd : Nat)
  | createDirectory (fd : Nat) (path : Path)
  | removeDirectory (fd : Nat) (path : Path)
  | symlink (dirFd : Nat) (path target : Path)
  | link (oldDirFd : Nat) (oldPath : Path) (newDirFd : Nat) (newPath : Path)
  | rename (old new : Location)
  | unlink (dirFd : Nat) (path : Path)
  | write (fd : Nat) (payload : List UInt8)
  | pwrite (fd offset : Nat) (payload : List UInt8)
  | advance (fd length : Nat)
  | commitSeek (fd offset : Nat)
  | setFlags (fd : Nat) (flags : BitVec 16)
  | setSize (fd size : Nat)
  | allocate (fd offset length : Nat)
  | setTimes (fd : Nat) (update : TimeUpdate)
  | pathSetTimes (dirFd : Nat) (path : Path) (update : TimeUpdate)
  deriving DecidableEq, Repr

/-- The descriptor of the open file that the operation works on. -/
def Operation.subject : Operation → Option Nat
  | write fd _ | pwrite fd _ _ | advance fd _ | commitSeek fd _ | setFlags fd _ | setSize fd _
  | allocate fd _ _ | setTimes fd _ => some fd
  | _ => none

namespace FilesystemState

/-- The entry that an open creates. -/
def freshFile (state : FilesystemState) (location : Location) : MountedFile :=
  { location with
    inode := state.nextInode + 1
    bytes := state.bytes.size
    linkCount := state.linkCounts.size
    times := state.times.size
    writable := true }

/-- The state after the cells of a new file have been made, without its entry. -/
def withFreshCells (state : FilesystemState) : FilesystemState :=
  { state with
    nextInode := state.nextInode + 1
    bytes := (state.bytes.alloc []).2
    linkCounts := (state.linkCounts.alloc 1).2
    times := (state.times.alloc .default).2 }

/-- The record of a file that has just been opened. -/
def openedAs (file : MountedFile) (rightsBase : Rights) (flags : BitVec 16) : OpenFile :=
  { file.toFileNode with offset := 0, rightsBase, flags }

end FilesystemState

open FilesystemState in
/-- What a successful open leaves, with the number of the new descriptor. -/
inductive Opened (state : FilesystemState) : Operation → Nat → FilesystemState → Prop where
  | file {dirFd fd : Nat} {path : Path} {rightsBase parentRights : Rights}
      {options : OpenOptions} {location : Location} {file : MountedFile}
      {bytes : Arena (List UInt8)}
      (resolved : state.resolveDirectoryPath dirFd path Rights.pathOpen =
        .ok (location, parentRights))
      (allocated : state.allocateDynamicFd = .ok fd)
      (found : state.fileAt location = some file)
      (admitted : rightsBase &&& Rights.mutation ≠ 0 →
        file.writable = true ∧ state.isWritablePreopen location.preopenFd = true)
      (truncated : bytes = state.bytes ∨
        bytes = state.bytes.set file.bytes [] ∧ file.writable = true ∧
          state.isWritablePreopen location.preopenFd = true)
      (emptied : bytes =
        if options.truncate = true then state.bytes.set file.bytes [] else state.bytes) :
      Opened state (.openFile dirFd path rightsBase options) fd
        { state with
          bytes
          openFiles :=
            state.openFiles.insert fd (openedAs file rightsBase options.descriptorFlags) }
  | created {dirFd fd : Nat} {path : Path} {rightsBase parentRights : Rights}
      {options : OpenOptions} {location : Location} {bytes : Arena (List UInt8)}
      (resolved : state.resolveDirectoryPath dirFd path Rights.pathOpen =
        .ok (location, parentRights))
      (allocated : state.allocateDynamicFd = .ok fd)
      (create : options.create = true)
      (mayCreate : parentRights &&& Rights.pathCreateFile ≠ 0)
      (free : state.namespaceEntryExists location = false)
      (parent : state.parentDirectoryExists location = true)
      (writable : state.isWritablePreopen location.preopenFd = true)
      (truncated : bytes = state.withFreshCells.bytes ∨
        bytes = state.withFreshCells.bytes.set state.bytes.size [])
      (room : state.namespaceEntryCount < maxMountedFiles) :
      Opened state (.openFile dirFd path rightsBase options) fd
        { state.withFreshCells with
          bytes
          mountedFiles := state.mountedFiles ++ [state.freshFile location]
          openFiles :=
            state.openFiles.insert fd
              (openedAs (state.freshFile location) rightsBase options.descriptorFlags) }
  | directory {dirFd fd parentInode : Nat} {path : Path}
      {rightsBase parentRights : Rights} {location : Location} {directory : MountedDirectory}
      (resolved : state.resolveDirectoryPath dirFd path Rights.pathOpen =
        .ok (location, parentRights))
      (attenuated : rightsBase.Within parentRights)
      (found : state.directoryAt location = some directory)
      (parent : state.directoryInode location.parent = some parentInode)
      (allocated : state.allocateDynamicFd = .ok fd) :
      Opened state (.openDirectory dirFd path rightsBase) fd
        { state with
          openDirectories :=
            state.openDirectories.insert fd
              { location with inode := directory.inode, parentInode, rightsBase } }

open FilesystemState in
/-- The changes that an operation can make. -/
inductive Effect (state : FilesystemState) : Operation → FilesystemState → Prop where
  | unchanged {operation : Operation} : Effect state operation state
  /-- An open that is refused after it has created the file. -/
  | abandoned {operation : Operation} : Effect state operation state.withFreshCells
  | opened {operation : Operation} {fd : Nat} {after : FilesystemState}
      (opens : Opened state operation fd after) : Effect state operation after
  | closed {fd : Nat} :
      Effect state (.close fd)
        { state with
          openFiles := state.openFiles.erase fd
          openDirectories := state.openDirectories.erase fd
          reservedPreopens := state.reservedPreopens.erase fd
          writablePreopens := state.writablePreopens.erase fd }
  | createdDirectory {fd : Nat} {path : Path} {rights : Rights} {location : Location}
      (resolved : state.resolveDirectoryPath fd path Rights.pathCreateDirectory =
        .ok (location, rights))
      (free : state.namespaceEntryExists location = false)
      (parent : state.parentDirectoryExists location = true)
      (room : state.namespaceEntryCount < maxMountedFiles) (numbers : state.nextInode < maxU64) :
      Effect state (.createDirectory fd path)
        { state with
          nextInode := state.nextInode + 1
          mountedDirectories :=
            state.mountedDirectories ++
              [{ location with inode := state.nextInode + 1, times := .default }] }
  | removedDirectory {fd index : Nat} {path : Path} {rights : Rights} {location : Location}
      (resolved : state.resolveDirectoryPath fd path Rights.pathRemoveDirectory =
        .ok (location, rights))
      (found : state.mountedDirectories.findIdx? (·.toLocation = location) = some index)
      (noFile : ∀ file ∈ state.mountedFiles, file.toLocation.isBelow location = false)
      (noDirectory : ∀ directory ∈ state.mountedDirectories.eraseIdx index,
        directory.toLocation.isBelow location = false)
      (noSymlink : ∀ link ∈ state.mountedSymlinks, link.toLocation.isBelow location = false) :
      Effect state (.removeDirectory fd path)
        { state with mountedDirectories := state.mountedDirectories.eraseIdx index }
  | createdSymlink {dirFd : Nat} {path target : Path} {rights : Rights} {location : Location}
      (resolved : state.resolveDirectoryPath dirFd path Rights.pathSymlink =
        .ok (location, rights))
      (free : state.namespaceEntryExists location = false)
      (parent : state.parentDirectoryExists location = true)
      (room : state.namespaceEntryCount < maxMountedFiles) :
      Effect state (.symlink dirFd path target)
        { state with
          nextInode := state.nextInode + 1
          mountedSymlinks :=
            state.mountedSymlinks ++
              [{ location with inode := state.nextInode + 1, target, times := .default }] }
  | linked {oldDirFd newDirFd : Nat} {oldPath newPath : Path} {oldRights newRights : Rights}
      {old new : Location} {file : MountedFile}
      (oldResolved : state.resolveDirectoryPath oldDirFd oldPath Rights.pathLinkSource =
        .ok (old, oldRights))
      (newResolved : state.resolveDirectoryPath newDirFd newPath Rights.pathLinkTarget =
        .ok (new, newRights))
      (free : state.namespaceEntryExists new = false)
      (parent : state.parentDirectoryExists new = true)
      (found : state.fileAt old = some file)
      (room : state.namespaceEntryCount < maxMountedFiles) :
      Effect state (.link oldDirFd oldPath newDirFd newPath)
        { state with
          mountedFiles :=
            state.mountedFiles ++
              [{ new with toFileNode := file.toFileNode, writable := file.writable }]
          linkCounts :=
            state.linkCounts.set file.linkCount (state.linkCounts.get file.linkCount + 1) }
  | renamed {old new : Location} {sourceIndex : Nat} {source : MountedFile}
      (oldWritable : state.isWritablePreopen old.preopenFd = true)
      (newWritable : state.isWritablePreopen new.preopenFd = true)
      (noSymlink : state.symlinkAt new = none)
      (found : state.mountedFiles.findIdx? (·.toLocation = old) = some sourceIndex)
      (sourceFound : state.fileAt old = some source)
      (free : state.fileAt new = none) (notSymlink : state.symlinkAt old = none) :
      Effect state (.rename old new)
        { state with mountedFiles := relocate state.mountedFiles sourceIndex new }
  | replaced {old new : Location} {sourceIndex targetIndex links : Nat}
      {source target : MountedFile}
      (oldWritable : state.isWritablePreopen old.preopenFd = true)
      (newWritable : state.isWritablePreopen new.preopenFd = true)
      (noSymlink : state.symlinkAt new = none)
      (found : state.mountedFiles.findIdx? (·.toLocation = old) = some sourceIndex)
      (sourceFound : state.fileAt old = some source)
      (foundTarget : state.mountedFiles.findIdx? (·.toLocation = new) = some targetIndex)
      (targetFound : state.fileAt new = some target)
      (different : target.inode ≠ source.inode)
      (counted : state.linkCounts.get target.linkCount = links + 1) :
      Effect state (.rename old new)
        { state with
          mountedFiles := (relocate state.mountedFiles sourceIndex new).eraseIdx targetIndex
          linkCounts := state.linkCounts.set target.linkCount links }
  | unlinked {dirFd index links : Nat} {path : Path} {rights : Rights} {location : Location}
      {file : MountedFile}
      (resolved : state.resolveDirectoryPath dirFd path Rights.pathUnlinkFile =
        .ok (location, rights))
      (found : state.mountedFiles.findIdx? (·.toLocation = location) = some index)
      (fileFound : state.fileAt location = some file)
      (counted : state.linkCounts.get file.linkCount = links + 1) :
      Effect state (.unlink dirFd path)
        { state with
          mountedFiles := state.mountedFiles.eraseIdx index
          linkCounts := state.linkCounts.set file.linkCount links }
  | unlinkedSymlink {dirFd index : Nat} {path : Path} {rights : Rights} {location : Location}
      (resolved : state.resolveDirectoryPath dirFd path Rights.pathUnlinkFile =
        .ok (location, rights))
      (found : state.mountedSymlinks.findIdx? (·.toLocation = location) = some index) :
      Effect state (.unlink dirFd path)
        { state with mountedSymlinks := state.mountedSymlinks.eraseIdx index }
  /-- The bytes of an open file, which has a right to change them, and its offset.  No
  file grows past the limit. -/
  | contents {operation : Operation} {fd offset : Nat} {file : OpenFile}
      {bytes : List UInt8}
      (subject : operation.subject = some fd)
      (found : state.openFiles.lookup fd = some file)
      (mayMutate : file.rightsBase &&& Rights.mutation ≠ 0)
      (bounded : bytes.length ≤ max (state.bytes.get file.bytes).length maxFileBytes)
      (small : offset ≤ max file.offset maxU64) :
      Effect state operation
        { state with
          bytes := state.bytes.set file.bytes bytes
          openFiles := state.openFiles.insert fd { file with offset } }
  | resized {operation : Operation} {fd : Nat} {file : OpenFile} {bytes : List UInt8}
      (subject : operation.subject = some fd)
      (found : state.openFiles.lookup fd = some file)
      (mayMutate : file.rightsBase &&& Rights.mutation ≠ 0)
      (bounded : bytes.length ≤ max (state.bytes.get file.bytes).length maxFileBytes) :
      Effect state operation { state with bytes := state.bytes.set file.bytes bytes }
  | described {operation : Operation} {fd offset : Nat} {file : OpenFile} {flags : BitVec 16}
      (subject : operation.subject = some fd)
      (found : state.openFiles.lookup fd = some file)
      (small : offset ≤ max file.offset maxU64) :
      Effect state operation (state.setOpenFile fd { file with offset, flags })
  | stamped {operation : Operation} {fd : Nat} {file : OpenFile} {times : FileTimes}
      (subject : operation.subject = some fd)
      (found : state.openFiles.lookup fd = some file)
      (mayMutate : file.rightsBase &&& Rights.mutation ≠ 0) :
      Effect state operation { state with times := state.times.set file.times times }
  | stampedFile {dirFd : Nat} {path : Path} {rights : Rights} {location : Location}
      {file : MountedFile} {update : TimeUpdate} {times : FileTimes}
      (resolved : state.resolveDirectoryPath dirFd path Rights.pathFilestatSetTimes =
        .ok (location, rights))
      (found : state.fileAt location = some file) (writable : file.writable = true) :
      Effect state (.pathSetTimes dirFd path update)
        { state with times := state.times.set file.times times }
  | stampedDirectory {dirFd index : Nat} {path : Path} {rights : Rights}
      {location : Location} {update : TimeUpdate}
      (resolved : state.resolveDirectoryPath dirFd path Rights.pathFilestatSetTimes =
        .ok (location, rights))
      (found : state.mountedDirectories.findIdx? (·.toLocation = location) = some index) :
      Effect state (.pathSetTimes dirFd path update)
        { state with
          mountedDirectories := state.mountedDirectories.modify index fun directory =>
            { directory with times := applyTimeUpdate directory.times update } }
  | stampedSymlink {dirFd index : Nat} {path : Path} {rights : Rights}
      {location : Location} {update : TimeUpdate}
      (resolved : state.resolveDirectoryPath dirFd path Rights.pathFilestatSetTimes =
        .ok (location, rights))
      (found : state.mountedSymlinks.findIdx? (·.toLocation = location) = some index) :
      Effect state (.pathSetTimes dirFd path update)
        { state with
          mountedSymlinks := state.mountedSymlinks.modify index fun link =>
            { link with times := applyTimeUpdate link.times update } }

end MiniWasm.Wasi
