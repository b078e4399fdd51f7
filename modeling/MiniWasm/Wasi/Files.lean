import Mathlib.Data.List.Lex
import Mathlib.Data.List.Sort
import MiniWasm.Library.Overwrite
import MiniWasm.Wasi.Namespace

/-!
# Operations on open files

Reading, writing, positioning and describing what a descriptor or a path names.
The operations that only read are queries of the state.
-/

namespace MiniWasm.Wasi

open Library Action

/-- `bytes.resize(length, 0)` where that does not shrink. -/
def growTo (bytes : List UInt8) (length : Nat) : List UInt8 :=
  bytes ++ List.replicate (length - bytes.length) 0

/-- `bytes.resize(length, 0)`. -/
def resizeTo (bytes : List UInt8) (length : Nat) : List UInt8 :=
  growTo (bytes.take length) length

/-- `bytes[start..start + payload.len()].copy_from_slice(payload)` after the two
calls of `resize` that make room for it. -/
def writeAt (bytes : List UInt8) (start : Nat) (payload : List UInt8) : List UInt8 :=
  overwrite (growTo (growTo bytes start) (start + payload.length)) start payload

/-- At most `maxLen` bytes from a position on. -/
def sliceAt (bytes : List UInt8) (start maxLen : Nat) : List UInt8 :=
  (bytes.drop start).take maxLen

def whenceSet : Nat := 0
def whenceCur : Nat := 1
def whenceEnd : Nat := 2

namespace FilesystemState

section Queries

variable (state : FilesystemState)

/-! ## Reading -/

/-- `open_files.get(&fd)`, with all of the rights. -/
def readableFile (fd : Nat) (required : Rights) : Except DescriptorReadError OpenFile :=
  match state.openFiles.lookup fd with
  | none => .error .badFd
  | some file =>
      if file.rightsBase &&& required ≠ required then .error .notCapable else .ok file

def ensureReadable (fd : Nat) : Except DescriptorReadError OpenFile :=
  state.readableFile fd Rights.fdRead

def ensurePreadable (fd : Nat) : Except DescriptorReadError OpenFile :=
  state.readableFile fd (Rights.fdRead ||| Rights.fdSeek)

def pread (fd offset maxLen : Nat) : Except DescriptorReadError (List UInt8) := do
  let file ← state.ensurePreadable fd
  return sliceAt (state.bytes.get file.bytes) offset maxLen

def peek (fd maxLen : Nat) : Except DescriptorReadError (List UInt8) := do
  let file ← state.ensureReadable fd
  return sliceAt (state.bytes.get file.bytes) file.offset maxLen

def pollReadReady (fd : Nat) : Except DescriptorReadError (Nat × Bool) := do
  let file ← state.ensureReadable fd
  return (1, (state.bytes.get file.bytes).length ≤ file.offset)

/-! ## Checks before writing -/

def writableFile (fd : Nat) (required : Rights) : Except DescriptorWriteError OpenFile :=
  match state.openFiles.lookup fd with
  | none => .error .badFd
  | some file =>
      if file.rightsBase &&& required = 0 then .error .notCapable else .ok file

def ensureWritable (fd : Nat) : Except DescriptorWriteError OpenFile :=
  state.writableFile fd Rights.fdWrite

def pollWriteReady (fd : Nat) : Except DescriptorWriteError Nat := do
  let _ ← state.ensureWritable fd
  return 1

/-- Where a sequential write starts. -/
def writeStart (file : OpenFile) : Nat :=
  if file.flags &&& fdflagsAppend ≠ 0 then (state.bytes.get file.bytes).length
  else file.offset

/-- The end of a range of a file; one past the largest number is too large as well. -/
def checkFileEnd (start length : Nat) : Except DescriptorWriteError Nat :=
  if maxFileBytes < start + length then .error .fileTooLarge else .ok (start + length)

def prepareWrite (fd length : Nat) : Except DescriptorWriteError Unit := do
  let file ← state.ensureWritable fd
  let _ ← checkFileEnd (state.writeStart file) length
  return ()

def preparePwrite (fd offset length : Nat) : Except DescriptorWriteError Unit :=
  match state.openFiles.lookup fd with
  | none => .error .badFd
  | some file =>
      if file.rightsBase &&& Rights.fdWrite = 0 ∨ file.rightsBase &&& Rights.fdSeek = 0 then
        .error .notCapable
      else do
        let _ ← checkFileEnd offset length
        return ()

/-! ## Positions -/

/-- The two base positions that `prepare_seek` reads, and zero. -/
def seekBase (file : OpenFile) (whence : Nat) : Option Nat :=
  if whence = whenceSet then some 0
  else if whence = whenceCur then some file.offset
  else if whence = whenceEnd then some (state.bytes.get file.bytes).length
  else none

def prepareSeek (fd : Nat) (delta : Int) (whence : Nat) : Except DescriptorPositionError Nat :=
  match state.openFiles.lookup fd with
  | none => .error .badFd
  | some file =>
      match state.seekBase file whence with
      | none => .error .invalidWhence
      | some base =>
          let tellOnly := whence = whenceCur ∧ delta = 0
          let required := if tellOnly then Rights.fdSeek ||| Rights.fdTell else Rights.fdSeek
          if file.rightsBase &&& required = 0 then .error .notCapable
          else
            let target := (base : Int) + delta
            if target < 0 then .error .invalidOffset
            else if (maxU64 : Int) < target then .error .overflow
            else .ok target.toNat

def tell (fd : Nat) : Except DescriptorPositionError Nat :=
  match state.openFiles.lookup fd with
  | none => .error .badFd
  | some file =>
      if file.rightsBase &&& (Rights.fdSeek ||| Rights.fdTell) = 0 then .error .notCapable
      else .ok file.offset

/-! ## Descriptions -/

/-- File type, flags, rights, and the rights that descriptors opened through it
may have. -/
def fdstat (fd : Nat) : Option (FileType × BitVec 16 × Rights × Rights) :=
  match state.openFiles.lookup fd with
  | some file => some (.regularFile, file.flags, file.rightsBase, 0)
  | none =>
      (state.openDirectories.lookup fd).map fun directory =>
        (.directory, 0, directory.rightsBase, 0)

def nodeFilestat (node : FileNode) : DescriptorFilestat where
  dev := syntheticDeviceId
  ino := node.inode
  filetype := .regularFile
  nlink := state.linkCounts.get node.linkCount
  size := (state.bytes.get node.bytes).length
  times := state.times.get node.times

def filestat (fd : Nat) : Except DescriptorFilestatError DescriptorFilestat :=
  match state.openFiles.lookup fd with
  | none => .error .badFd
  | some file =>
      if file.rightsBase &&& Rights.fdFilestatGet = 0 then .error .notCapable
      else .ok (state.nodeFilestat file.toFileNode)

def pathFilestat (dirFd : Nat) (path : Path) : Except PathFilestatError DescriptorFilestat := do
  let (location, _) ←
    (state.resolveDirectoryPath dirFd path Rights.pathFilestatGet).mapError
      pathFilestatResolveError
  match state.fileAt location with
  | some file => return state.nodeFilestat file.toFileNode
  | none =>
      match state.directoryAt location with
      | some directory =>
          return { dev := syntheticDeviceId, ino := directory.inode, filetype := .directory
                   nlink := 1, size := 0, times := directory.times }
      | none =>
          match state.symlinkAt location with
          | some link =>
              return { dev := syntheticDeviceId, ino := link.inode, filetype := .symbolicLink
                       nlink := 1, size := link.target.length, times := link.times }
          | none => .error .notFound

/-! ## Listing a directory -/

/-- The directory that is listed: its location, its inode, that of its parent, and
the rights of the descriptor. -/
def readdirContext (fd : Nat) : Except ReaddirError (Location × Nat × Nat × Rights) :=
  if state.hasPreopen fd then
    .ok ({ preopenFd := fd, relativePath := [] }, preopenInode fd, preopenInode fd,
      preopenRights (state.isWritablePreopen fd))
  else
    match state.openDirectories.lookup fd with
    | some directory =>
        .ok (directory.toLocation, directory.inode, directory.parentInode,
          directory.rightsBase)
    | none =>
        if fd ≤ 2 ∨ (state.openFiles.lookup fd).isSome then .error .notCapable
        else .error .badFd

/-- Whether a file below the directory lies in a subdirectory that has no entry. -/
def missesDirectory (base : Location) (file : MountedFile) : Bool :=
  file.preopenFd = base.preopenFd &&
    match relativeToDirectory base.relativePath file.relativePath with
    | none => false
    | some remainder =>
        slash ∈ remainder &&
          (state.directoryAt
            { base with
              relativePath :=
                joinRelative base.relativePath (remainder.takeWhile (· ≠ slash)) }).isNone

/-- The name of an entry that is an immediate child of the directory. -/
def childName (base entry : Location) : Option Path :=
  if entry.preopenFd = base.preopenFd then
    immediateChildName base.relativePath entry.relativePath
  else none

/-- `sort_by` on the names as byte strings. -/
def sortByName (children : List (Path × Nat × FileType)) : List (Path × Nat × FileType) :=
  children.insertionSort fun left right => left.1.map UInt8.toNat ≤ right.1.map UInt8.toNat

def readdirChildren (base : Location) : List (Path × Nat × FileType) :=
  sortByName <|
    (state.mountedDirectories.filterMap fun directory =>
      (childName base directory.toLocation).map (·, directory.inode, .directory)) ++
    (state.mountedFiles.filterMap fun file =>
      (childName base file.toLocation).map (·, file.inode, .regularFile)) ++
    (state.mountedSymlinks.filterMap fun link =>
      (childName base link.toLocation).map (·, link.inode, .symbolicLink))

def readdirSnapshot (fd cookie : Nat) : Except ReaddirError (List ReaddirEntry) := do
  let (base, inode, parentInode, rights) ← state.readdirContext fd
  if rights &&& Rights.fdReaddir = 0 then .error .notCapable
  else if state.mountedFiles.any (state.missesDirectory base) then .error .notSupported
  else
    let self : ReaddirEntry := { next := 1, inode, filetype := .directory, name := [dot] }
    let parent : ReaddirEntry :=
      { next := 2, inode := parentInode, filetype := .directory, name := [dot, dot] }
    let children :=
      (state.readdirChildren base).mapIdx fun index (name, inode, filetype) =>
        { next := index + 3, inode, filetype, name : ReaddirEntry }
    return (self :: parent :: children).drop cookie

end Queries

/-! ## Changes -/

/-- Change the record of an open file. -/
def setOpenFile (state : FilesystemState) (fd : Nat) (file : OpenFile) : FilesystemState :=
  { state with openFiles := state.openFiles.insert fd file }

/-- The offset saturates at the largest 64-bit number. -/
def advance (fd length : Nat) : Action FilesystemState DescriptorReadError Unit := do
  let file ← consult (·.ensureReadable fd)
  modify fun state =>
    state.setOpenFile fd { file with offset := min (file.offset + length) maxU64 }

def write (fd : Nat) (payload : List UInt8) : Action FilesystemState DescriptorWriteError Unit := do
  consult (·.prepareWrite fd payload.length)
  if payload = [] then pure ()
  else do
    let file ← consult (·.ensureWritable fd)
    let start ← ask (·.writeStart file)
    let stop ← consult fun _ => checkFileEnd start payload.length
    modify fun state =>
      { state with
        bytes := state.bytes.set file.bytes (writeAt (state.bytes.get file.bytes) start payload)
        openFiles := state.openFiles.insert fd { file with offset := stop } }

def pwrite (fd offset : Nat) (payload : List UInt8) :
    Action FilesystemState DescriptorWriteError Unit := do
  consult (·.preparePwrite fd offset payload.length)
  if payload = [] then pure ()
  else do
    let state ← ask id
    match state.openFiles.lookup fd with
    | none => fail .badFd
    | some file =>
        modify fun state =>
          { state with
            bytes :=
              state.bytes.set file.bytes
                (writeAt (state.bytes.get file.bytes) offset payload) }

def setFlags (fd : Nat) (flags : BitVec 16) : Action FilesystemState DescriptorFlagsError Unit := do
  let state ← ask id
  match state.openFiles.lookup fd with
  | none => fail .badFd
  | some file =>
      if file.rightsBase &&& Rights.fdFdstatSetFlags = 0 then fail .notCapable
      else if flags &&& ~~~fdflagsAppend ≠ 0 then fail .invalidFlags
      else modify (·.setOpenFile fd { file with flags })

/-- `set_size` and `allocate`: the length of the file becomes what `change` makes of
its bytes, when the end that is asked for is not too large. -/
def resizeFile (fd : Nat) (required : Rights) (start length : Nat)
    (change : List UInt8 → Nat → List UInt8) :
    Action FilesystemState DescriptorWriteError Unit := do
  let file ← consult (·.writableFile fd required)
  let stop ← consult fun _ => checkFileEnd start length
  modify fun state =>
    { state with bytes := state.bytes.set file.bytes (change (state.bytes.get file.bytes) stop) }

def setSize (fd size : Nat) : Action FilesystemState DescriptorWriteError Unit :=
  resizeFile fd Rights.fdFilestatSetSize 0 size resizeTo

def allocate (fd offset length : Nat) : Action FilesystemState DescriptorWriteError Unit :=
  resizeFile fd Rights.fdAllocate offset length growTo

def setTimes (fd : Nat) (update : TimeUpdate) :
    Action FilesystemState DescriptorFilestatError Unit := do
  let state ← ask id
  match state.openFiles.lookup fd with
  | none => fail .badFd
  | some file =>
      if file.rightsBase &&& Rights.fdFilestatSetTimes = 0 then fail .notCapable
      else
        modify fun state =>
          { state with
            times := state.times.set file.times
              (applyTimeUpdate (state.times.get file.times) update) }

def pathSetTimes (dirFd : Nat) (path : Path) (update : TimeUpdate) :
    Action FilesystemState PathFilestatError Unit := do
  let (location, _) ←
    resolve dirFd path Rights.pathFilestatSetTimes pathFilestatResolveError
  let state ← ask id
  match state.fileAt location with
  | some file =>
      if ¬ file.writable then fail .notCapable
      else
        modify fun state =>
          { state with
            times := state.times.set file.times
              (applyTimeUpdate (state.times.get file.times) update) }
  | none =>
      match state.mountedDirectories.findIdx? (·.toLocation = location) with
      | some index =>
          modify fun state =>
            { state with
              mountedDirectories := state.mountedDirectories.modify index fun directory =>
                { directory with times := applyTimeUpdate directory.times update } }
      | none =>
          match state.mountedSymlinks.findIdx? (·.toLocation = location) with
          | some index =>
              modify fun state =>
                { state with
                  mountedSymlinks := state.mountedSymlinks.modify index fun link =>
                    { link with times := applyTimeUpdate link.times update } }
          | none => fail .notFound

/-- Whether the descriptor is still open. -/
def commitSeek {ε : Type} (fd offset : Nat) : Action FilesystemState ε Bool := do
  let state ← ask id
  match state.openFiles.lookup fd with
  | none => return false
  | some file => do
      modify (·.setOpenFile fd { file with offset })
      return true

end FilesystemState

end MiniWasm.Wasi
