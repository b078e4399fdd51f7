import MiniWasm.Wasi.State

/-!
# Operations on the namespace

The operations on directories, links and names, and those that open and close
descriptors.  Each makes its checks and its changes in the order of the program;
a change made before a failure stays.
-/

namespace MiniWasm.Wasi

open Library Action

/-- The location that a location is an immediate child of. -/
def Location.parent (location : Location) : Location :=
  { location with relativePath := parentPath location.relativePath }

/-- Whether an entry lies below the path, in the same preopen. -/
def Location.isBelow (entry location : Location) : Bool :=
  entry.preopenFd = location.preopenFd ∧
    directoryPrefix location.relativePath <+: entry.relativePath

/-- `(1 << 63) | fd`. -/
def preopenInode (fd : Nat) : Nat :=
  2 ^ 63 ||| fd

namespace FilesystemState

/-! ## Lookups -/

section Lookups

variable (state : FilesystemState)

def fileAt (location : Location) : Option MountedFile :=
  state.mountedFiles.find? (·.toLocation = location)

def directoryAt (location : Location) : Option MountedDirectory :=
  state.mountedDirectories.find? (·.toLocation = location)

def symlinkAt (location : Location) : Option MountedSymlink :=
  state.mountedSymlinks.find? (·.toLocation = location)

def namespaceEntryCount : Nat :=
  state.mountedFiles.length + state.mountedDirectories.length + state.mountedSymlinks.length

def namespaceEntryExists (location : Location) : Bool :=
  (state.fileAt location).isSome || (state.directoryAt location).isSome ||
    (state.symlinkAt location).isSome

def parentDirectoryExists (location : Location) : Bool :=
  location.parent.relativePath = [] || (state.directoryAt location.parent).isSome

def directoryInode (location : Location) : Option Nat :=
  if location.relativePath = [] then
    some (preopenInode location.preopenFd)
  else
    (state.directoryAt location).map (·.inode)

def hasPreopen (fd : Nat) : Bool :=
  fd ∈ state.reservedPreopens

def isWritablePreopen (fd : Nat) : Bool :=
  fd ∈ state.writablePreopens

def isKnownNonFile (fd : Nat) : Bool :=
  fd ≤ 2 || state.hasPreopen fd || (state.openDirectories.lookup fd).isSome

def hasDirectoryDescriptor (fd : Nat) : Bool :=
  state.hasPreopen fd || (state.openDirectories.lookup fd).isSome

def preopenRights (writable : Bool) : Rights :=
  if writable then
    Rights.fdReaddir ||| Rights.pathOpen ||| Rights.pathFilestatGet |||
      (Rights.pathFilestatSetTimes ||| Rights.pathCreateDirectory ||| Rights.pathCreateFile |||
        Rights.pathLinkSource ||| Rights.pathLinkTarget ||| Rights.pathReadlink |||
        Rights.pathRenameSource ||| Rights.pathRenameTarget ||| Rights.pathSymlink |||
        Rights.pathRemoveDirectory ||| Rights.pathUnlinkFile)
  else
    Rights.fdReaddir ||| Rights.pathOpen ||| Rights.pathFilestatGet ||| Rights.pathReadlink

def directoryRights (fd : Nat) : Option Rights :=
  if state.hasPreopen fd then
    some (preopenRights (state.isWritablePreopen fd))
  else
    (state.openDirectories.lookup fd).map (·.rightsBase)

/-- The location of a directory descriptor and its rights. -/
def directoryContext (fd : Nat) : Option (Location × Rights) :=
  if state.hasPreopen fd then
    (state.directoryRights fd).map fun rights =>
      ({ preopenFd := fd, relativePath := [] }, rights)
  else
    (state.openDirectories.lookup fd).map fun directory =>
      (directory.toLocation, directory.rightsBase)

def resolveDirectoryPath (fd : Nat) (path : Path) (requiredRight : Rights) :
    Except ResolveDirectoryError (Location × Rights) :=
  match state.directoryContext fd with
  | none => .error .badFd
  | some (base, rights) =>
      if rights &&& requiredRight ≠ requiredRight then .error .notCapable
      else
        let fullPath := joinRelative base.relativePath path
        if maxRelativePathBytes < fullPath.length then .error .nameTooLong
        else .ok ({ preopenFd := base.preopenFd, relativePath := fullPath }, rights)

/-- The search for the lowest free number, which ends at the last `u32`. -/
def firstFree : (candidates candidate : Nat) → Except OpenError Nat
  | 0, _ => .error .tooManyOpenFiles
  | candidates + 1, candidate =>
      if ¬ state.hasPreopen candidate ∧ (state.openFiles.lookup candidate).isNone ∧
          (state.openDirectories.lookup candidate).isNone then
        .ok candidate
      else
        firstFree candidates (candidate + 1)

def allocateDynamicFd : Except OpenError Nat :=
  if maxOpenFiles ≤ state.openFiles.keys.length + state.openDirectories.keys.length then
    .error .tooManyOpenFiles
  else
    state.firstFree (2 ^ 32 - firstDynamicFd) firstDynamicFd

end Lookups

/-- `resolve_directory_path(..).map_err(..)?`. -/
def resolve {ε : Type} (fd : Nat) (path : Path) (requiredRight : Rights)
    (convert : ResolveDirectoryError → ε) : Action FilesystemState ε (Location × Rights) :=
  consult fun state => (state.resolveDirectoryPath fd path requiredRight).mapError convert

/-! ## Opening and closing -/

def openDirectory (dirFd : Nat) (path : Path) (rightsBase : Rights) :
    Action FilesystemState OpenError OpenedFile := do
  let (location, parentRights) ← resolve dirFd path Rights.pathOpen openResolveError
  if ¬ rightsBase.Within parentRights then fail .notCapable
  else do
    let state ← ask id
    if (state.fileAt location).isSome ∨ (state.symlinkAt location).isSome then
      fail .notDirectory
    else
      match state.directoryAt location, state.directoryInode location.parent with
      | none, _ => fail .notFound
      | some _, none => fail .notFound
      | some directory, some parentInode => do
          let fd ← consult allocateDynamicFd
          let opened : OpenDirectory :=
            { location with inode := directory.inode, parentInode, rightsBase }
          modify fun state =>
            { state with openDirectories := state.openDirectories.insert fd opened }
          return { fd, created := false }

/-- The branch of `Filesystem::open` for a path without an entry. -/
def createFile (location : Location) (create : Bool) :
    Action FilesystemState OpenError MountedFile := do
  let state ← ask id
  if ¬ create then fail .notFound
  else if ¬ state.isWritablePreopen location.preopenFd then fail .notCapable
  else if maxMountedFiles ≤ state.namespaceEntryCount then fail .tooManyFiles
  else if ¬ state.parentDirectoryExists location then fail .notFound
  else if maxU64 ≤ state.nextInode then fail .tooManyFiles
  else do
    let file : MountedFile :=
      { location with
        inode := state.nextInode + 1
        bytes := state.bytes.size
        linkCount := state.linkCounts.size
        times := state.times.size
        writable := true }
    modify fun state =>
      { state with
        nextInode := state.nextInode + 1
        bytes := (state.bytes.alloc []).2
        linkCounts := (state.linkCounts.alloc 1).2
        times := (state.times.alloc .default).2
        mountedFiles := state.mountedFiles ++ [file] }
    return file

/-- Refuse an open, without the entry that it has just created. -/
def refuseOpen {α : Type} (created : Bool) : Action FilesystemState OpenError α := do
  if created then
    modify fun state => { state with mountedFiles := state.mountedFiles.dropLast }
  fail .notCapable

/-- The entry that is opened, and whether it has just been created. -/
def entryToOpen (location : Location) (options : OpenOptions) :
    Action FilesystemState OpenError (MountedFile × Bool) := do
  let state ← ask id
  match state.fileAt location with
  | some file => if options.exclusive then fail .exists else return (file, false)
  | none => do
      let file ← createFile location options.create
      return (file, true)

/-- The last part of `Filesystem::open`: the rights that are asked for are granted,
or the open is refused. -/
def grantFile (location : Location) (rightsBase : Rights) (options : OpenOptions)
    (candidate : Nat) (file : MountedFile) (created : Bool) :
    Action FilesystemState OpenError OpenedFile := do
  let state ← ask id
  let mayMutate := file.writable ∧ state.isWritablePreopen location.preopenFd
  if rightsBase &&& Rights.mutation ≠ 0 ∧ ¬ mayMutate then refuseOpen created
  else if options.truncate ∧ (¬ mayMutate ∨ rightsBase &&& Rights.fdWrite = 0) then
    refuseOpen created
  else do
    let opened : OpenFile :=
      { file.toFileNode with offset := 0, rightsBase, flags := options.descriptorFlags }
    modify fun state =>
      { state with
        bytes := if options.truncate then state.bytes.set file.bytes [] else state.bytes
        openFiles := state.openFiles.insert candidate opened }
    return { fd := candidate, created }

/-- `Filesystem::open`. -/
def openFile (dirFd : Nat) (path : Path) (rightsBase : Rights) (options : OpenOptions) :
    Action FilesystemState OpenError OpenedFile := do
  let (location, parentRights) ← resolve dirFd path Rights.pathOpen openResolveError
  if options.create ∧ parentRights &&& Rights.pathCreateFile = 0 then fail .notCapable
  else do
    let candidate ← consult allocateDynamicFd
    let state ← ask id
    if (state.directoryAt location).isSome then fail .notDirectory
    else if (state.symlinkAt location).isSome then fail .notCapable
    else do
      let (file, created) ← entryToOpen location options
      grantFile location rightsBase options candidate file created

def rollbackOpen {ε : Type} (dirFd : Nat) (path : Path) (opened : OpenedFile) :
    Action FilesystemState ε Unit := do
  let state ← ask id
  let resolved :=
    if opened.created then
      match state.resolveDirectoryPath dirFd path Rights.pathOpen with
      | .ok (location, _) => some location
      | .error _ => none
    else none
  modify fun state =>
    { state with
      openFiles := state.openFiles.erase opened.fd
      openDirectories := state.openDirectories.erase opened.fd }
  match resolved with
  | none => pure ()
  | some location =>
      modify fun state =>
        match state.mountedFiles.findIdx? (·.toLocation = location),
            state.fileAt location with
        | some index, some file =>
            { state with
              mountedFiles := state.mountedFiles.eraseIdx index
              nextInode :=
                if state.nextInode = file.inode then file.inode - 1 else state.nextInode }
        | _, _ => state

/-- `Filesystem::close`; whether the number was open. -/
def close {ε : Type} (fd : Nat) : Action FilesystemState ε Bool := do
  let state ← ask id
  modify fun state =>
    { state with
      openFiles := state.openFiles.erase fd
      openDirectories := state.openDirectories.erase fd
      reservedPreopens := state.reservedPreopens.erase fd
      writablePreopens := state.writablePreopens.erase fd }
  return (state.openFiles.lookup fd).isSome || (state.openDirectories.lookup fd).isSome ||
    state.hasPreopen fd

/-! ## Directories and symbolic links -/

def createDirectory (fd : Nat) (path : Path) :
    Action FilesystemState DirectoryMutationError Unit := do
  let (location, _) ← resolve fd path Rights.pathCreateDirectory directoryResolveError
  let state ← ask id
  if state.namespaceEntryExists location then fail .exists
  else if maxMountedFiles ≤ state.namespaceEntryCount then fail .tooManyFiles
  else if ¬ state.parentDirectoryExists location then fail .notFound
  else if maxU64 ≤ state.nextInode then fail .tooManyFiles
  else
    let directory : MountedDirectory :=
      { location with inode := state.nextInode + 1, times := .default }
    modify fun state =>
      { state with
        nextInode := state.nextInode + 1
        mountedDirectories := state.mountedDirectories ++ [directory] }

def removeDirectory (fd : Nat) (path : Path) :
    Action FilesystemState DirectoryMutationError Unit := do
  let (location, _) ← resolve fd path Rights.pathRemoveDirectory directoryResolveError
  let state ← ask id
  if (state.fileAt location).isSome ∨ (state.symlinkAt location).isSome then
    fail .notDirectory
  else
    match state.mountedDirectories.findIdx? (·.toLocation = location) with
    | none => fail .notFound
    | some index =>
        let hasChildFile := state.mountedFiles.any (·.toLocation.isBelow location)
        let hasChildDirectory :=
          (state.mountedDirectories.eraseIdx index).any (·.toLocation.isBelow location)
        let hasChildSymlink :=
          state.mountedSymlinks.any (·.toLocation.isBelow location)
        if hasChildFile ∨ hasChildDirectory ∨ hasChildSymlink then fail .notEmpty
        else
          modify fun state =>
            { state with mountedDirectories := state.mountedDirectories.eraseIdx index }

def symlink (dirFd : Nat) (path target : Path) : Action FilesystemState SymlinkError Unit := do
  let (location, _) ← resolve dirFd path Rights.pathSymlink symlinkResolveError
  let state ← ask id
  if state.namespaceEntryExists location then fail .exists
  else if ¬ state.parentDirectoryExists location then fail .notFound
  else if maxMountedFiles ≤ state.namespaceEntryCount then fail .tooManyFiles
  else if maxU64 ≤ state.nextInode then fail .tooManyFiles
  else
    let link : MountedSymlink :=
      { location with inode := state.nextInode + 1, target, times := .default }
    modify fun state =>
      { state with
        nextInode := state.nextInode + 1
        mountedSymlinks := state.mountedSymlinks ++ [link] }

def readlink (dirFd : Nat) (path : Path) : Action FilesystemState SymlinkError Path := do
  let (location, _) ← resolve dirFd path Rights.pathReadlink symlinkResolveError
  let state ← ask id
  match state.symlinkAt location with
  | some link => return link.target
  | none => if state.namespaceEntryExists location then fail .notLink else fail .notFound

/-! ## Names of files -/

def link (oldDirFd : Nat) (oldPath : Path) (newDirFd : Nat) (newPath : Path) :
    Action FilesystemState LinkError Unit := do
  let (old, _) ← resolve oldDirFd oldPath Rights.pathLinkSource linkResolveError
  let (new, _) ← resolve newDirFd newPath Rights.pathLinkTarget linkResolveError
  let state ← ask id
  if maxMountedFiles ≤ state.namespaceEntryCount then fail .tooManyFiles
  else if state.namespaceEntryExists new then fail .targetExists
  else if ¬ state.parentDirectoryExists new then fail .notFound
  else
    match state.fileAt old with
    | none => fail .notFound
    | some file =>
        let currentLinks := state.linkCounts.get file.linkCount
        if maxU64 ≤ currentLinks then fail .linkCountOverflow
        else if currentLinks = 0 then fail .notFound
        else
          modify fun state =>
            { state with
              mountedFiles :=
                state.mountedFiles ++
                  [{ new with toFileNode := file.toFileNode, writable := file.writable }]
              linkCounts := state.linkCounts.set file.linkCount (currentLinks + 1) }

/-- The entry at an index gets another location. -/
def relocate (files : List MountedFile) (index : Nat) (location : Location) :
    List MountedFile :=
  files.modify index fun file => { file with toLocation := location }

def rename (old new : Location) : Action FilesystemState RenameError Unit := do
  let state ← ask id
  if ¬ state.isWritablePreopen old.preopenFd ∨ ¬ state.isWritablePreopen new.preopenFd then
    fail .notCapable
  else if (state.symlinkAt old).isSome ∨ (state.symlinkAt new).isSome then fail .notCapable
  else
    match state.mountedFiles.findIdx? (·.toLocation = old), state.fileAt old with
    | some sourceIndex, some source =>
        if old = new then pure ()
        else
          match state.mountedFiles.findIdx? (·.toLocation = new), state.fileAt new with
          | some targetIndex, some target =>
              if target.inode = source.inode then pure ()
              else
                match state.linkCounts.get target.linkCount with
                | 0 => fail .invalidLinkCount
                | newTargetLinks + 1 =>
                    modify fun state =>
                      { state with
                        mountedFiles :=
                          (relocate state.mountedFiles sourceIndex new).eraseIdx targetIndex
                        linkCounts := state.linkCounts.set target.linkCount newTargetLinks }
          | _, _ =>
              modify fun state =>
                { state with mountedFiles := relocate state.mountedFiles sourceIndex new }
    | _, _ => fail .notFound

def unlink (dirFd : Nat) (path : Path) : Action FilesystemState UnlinkError Unit := do
  let (location, _) ← resolve dirFd path Rights.pathUnlinkFile unlinkResolveError
  let state ← ask id
  match state.mountedFiles.findIdx? (·.toLocation = location), state.fileAt location with
  | some index, some file =>
      match state.linkCounts.get file.linkCount with
      | 0 => fail .invalidLinkCount
      | newLinks + 1 =>
          modify fun state =>
            { state with
              mountedFiles := state.mountedFiles.eraseIdx index
              linkCounts := state.linkCounts.set file.linkCount newLinks }
  | _, _ =>
      match state.mountedSymlinks.findIdx? (·.toLocation = location) with
      | some index =>
          modify fun state =>
            { state with mountedSymlinks := state.mountedSymlinks.eraseIdx index }
      | none => fail .notFound

end FilesystemState

end MiniWasm.Wasi
