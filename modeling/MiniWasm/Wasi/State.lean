import Mathlib.Data.List.AList
import MiniWasm.Library.Action
import MiniWasm.Library.Arena
import MiniWasm.Wasi.Paths

/-!
# The state of the filesystem

The namespace is three lists of entries, keyed by the preopen that an entry was
created under and by its path relative to that preopen.  Entries for the same
file and the descriptors that it is open under share three cells: its bytes, its
link count and its times.
-/

namespace MiniWasm.Wasi

open Library

/-! ## Data -/

/-- The times of access, of the last change of the contents and of the last change of the
description, in nanoseconds. -/
structure FileTimes where
  atim : Nat
  mtim : Nat
  ctim : Nat
  deriving DecidableEq, Repr

/-- The times of a new entry. -/
def FileTimes.default : FileTimes :=
  { atim := 0, mtim := 0, ctim := 0 }

/-- The times that a call sets; `none` leaves a time as it is. -/
structure TimeUpdate where
  atim : Option Nat
  mtim : Option Nat
  deriving DecidableEq, Repr

/-- The time of the last change of the description is never set. -/
def applyTimeUpdate (times : FileTimes) (update : TimeUpdate) : FileTimes :=
  { times with
    atim := update.atim.getD times.atim
    mtim := update.mtim.getD times.mtim }

/-- What an entry of the namespace is found by. -/
structure Location where
  preopenFd : Nat
  relativePath : Path
  deriving DecidableEq, Repr

/-- The inode of a file and the addresses of its cells. -/
structure FileNode where
  inode : Nat
  bytes : Nat
  linkCount : Nat
  times : Nat
  deriving DecidableEq, Repr

/-- A name of a file.  Hard links are entries with equal nodes. -/
structure MountedFile extends Location, FileNode where
  writable : Bool
  deriving DecidableEq, Repr

/-- A descriptor of a file: it keeps the node, so it outlives every name of the file. -/
structure OpenFile extends FileNode where
  offset : Nat
  rightsBase : Rights
  flags : BitVec 16
  deriving DecidableEq, Repr

/-- A directory below the root of a preopen. -/
structure MountedDirectory extends Location where
  inode : Nat
  times : FileTimes
  deriving DecidableEq, Repr

/-- A symbolic link, with the bytes that its target was given as. -/
structure MountedSymlink extends Location where
  inode : Nat
  target : Path
  times : FileTimes
  deriving DecidableEq, Repr

/-- A descriptor of a directory: the path that it was opened at, and copies of the inodes of
the directory and of its parent. -/
structure OpenDirectory extends Location where
  inode : Nat
  parentInode : Nat
  rightsBase : Rights
  deriving DecidableEq, Repr

/-- The namespace, the cells that files share, and the tables of descriptors. -/
structure FilesystemState where
  nextInode : Nat
  reservedPreopens : List Nat
  writablePreopens : List Nat
  mountedFiles : List MountedFile
  mountedDirectories : List MountedDirectory
  mountedSymlinks : List MountedSymlink
  openFiles : AList fun _ : Nat => OpenFile
  openDirectories : AList fun _ : Nat => OpenDirectory
  bytes : Arena (List UInt8)
  linkCounts : Arena Nat
  times : Arena FileTimes

/-- No entry, no preopen and no descriptor. -/
def FilesystemState.default : FilesystemState where
  nextInode := 0
  reservedPreopens := []
  writablePreopens := []
  mountedFiles := []
  mountedDirectories := []
  mountedSymlinks := []
  openFiles := ∅
  openDirectories := ∅
  bytes := .empty []
  linkCounts := .empty 0
  times := .empty .default

/-- What `open` reports to `path_open`, which registers the descriptor. -/
structure OpenedFile where
  fd : Nat
  created : Bool
  deriving DecidableEq, Repr

/-- The flags of `path_open` that concern files. -/
structure OpenOptions where
  create : Bool
  exclusive : Bool
  truncate : Bool
  descriptorFlags : BitVec 16
  deriving DecidableEq, Repr

/-- What the calls that describe an entry write to the memory of the guest. -/
structure DescriptorFilestat where
  dev : Nat
  ino : Nat
  filetype : FileType
  nlink : Nat
  size : Nat
  times : FileTimes
  deriving DecidableEq, Repr

/-- An entry of a listing, with the cookie of the position behind it. -/
structure ReaddirEntry where
  next : Nat
  inode : Nat
  filetype : FileType
  name : Path
  deriving DecidableEq, Repr

/-! ## Errors -/

/-- Why a read is refused. -/
inductive DescriptorReadError where
  | badFd
  | notCapable
  deriving DecidableEq, Repr

def DescriptorReadError.errno : DescriptorReadError → Errno
  | .badFd => .badf
  | .notCapable => .notcapable

/-- Why `fd_seek` or `fd_tell` is refused. -/
inductive DescriptorPositionError where
  | badFd
  | notCapable
  | invalidWhence
  | invalidOffset
  | overflow
  deriving DecidableEq, Repr

/-- The error number of `fd_seek` and `fd_tell`. -/
def positionErrno : DescriptorPositionError → Errno
  | .badFd => .badf
  | .notCapable => .notcapable
  | .invalidWhence => .inval
  | .invalidOffset => .inval
  | .overflow => .overflow

/-- Why a write, or a change of the size, is refused. -/
inductive DescriptorWriteError where
  | badFd
  | notCapable
  | fileTooLarge
  deriving DecidableEq, Repr

/-- The error number of the calls that write. -/
def writeErrno : DescriptorWriteError → Errno
  | .badFd => .badf
  | .notCapable => .notcapable
  | .fileTooLarge => .fbig

/-- Why `fd_fdstat_set_flags` is refused. -/
inductive DescriptorFlagsError where
  | badFd
  | notCapable
  | invalidFlags
  deriving DecidableEq, Repr

def DescriptorFlagsError.errno : DescriptorFlagsError → Errno
  | .badFd => .badf
  | .notCapable => .notcapable
  | .invalidFlags => .inval

/-- Why the calls on the description of an open file are refused. -/
inductive DescriptorFilestatError where
  | badFd
  | notCapable
  deriving DecidableEq, Repr

def DescriptorFilestatError.errno : DescriptorFilestatError → Errno
  | .badFd => .badf
  | .notCapable => .notcapable

/-- Why a path relative to a descriptor does not name a location.  Each operation has its
own error for each of these. -/
inductive ResolveDirectoryError where
  | badFd
  | notCapable
  | nameTooLong
  deriving DecidableEq, Repr

/-- Why `path_open` is refused. -/
inductive OpenError where
  | notFound
  | notCapable
  | exists
  | notDirectory
  | nameTooLong
  | tooManyOpenFiles
  | tooManyFiles
  deriving DecidableEq, Repr

def OpenError.errno : OpenError → Errno
  | .notFound => .noent
  | .notCapable => .notcapable
  | .exists => .exist
  | .notDirectory => .notdir
  | .nameTooLong => .nametoolong
  | .tooManyOpenFiles => .mfile
  | .tooManyFiles => .nospc

/-- An unknown descriptor is reported as a missing right, unlike in the other operations. -/
def openResolveError : ResolveDirectoryError → OpenError
  | .badFd => .notCapable
  | .notCapable => .notCapable
  | .nameTooLong => .nameTooLong

/-- Why `path_link` is refused. -/
inductive LinkError where
  | badFd
  | notFound
  | notCapable
  | nameTooLong
  | targetExists
  | tooManyFiles
  | linkCountOverflow
  deriving DecidableEq, Repr

def LinkError.errno : LinkError → Errno
  | .badFd => .badf
  | .notFound => .noent
  | .notCapable => .notcapable
  | .nameTooLong => .nametoolong
  | .targetExists => .exist
  | .tooManyFiles => .nospc
  | .linkCountOverflow => .overflow

def linkResolveError : ResolveDirectoryError → LinkError
  | .badFd => .badFd
  | .notCapable => .notCapable
  | .nameTooLong => .nameTooLong

/-- Why `path_unlink_file` is refused.  A file whose link count is zero is an internal
error. -/
inductive UnlinkError where
  | badFd
  | notFound
  | notCapable
  | nameTooLong
  | invalidLinkCount
  deriving DecidableEq, Repr

def UnlinkError.errno : UnlinkError → Errno
  | .badFd => .badf
  | .notFound => .noent
  | .notCapable => .notcapable
  | .nameTooLong => .nametoolong
  | .invalidLinkCount => .io

def unlinkResolveError : ResolveDirectoryError → UnlinkError
  | .badFd => .badFd
  | .notCapable => .notCapable
  | .nameTooLong => .nameTooLong

/-- Why `path_rename` is refused. -/
inductive RenameError where
  | notFound
  | notCapable
  | invalidLinkCount
  deriving DecidableEq, Repr

def RenameError.errno : RenameError → Errno
  | .notFound => .noent
  | .notCapable => .notcapable
  | .invalidLinkCount => .io

/-- Why `fd_readdir` is refused. -/
inductive ReaddirError where
  | badFd
  | notCapable
  | notSupported
  deriving DecidableEq, Repr

def ReaddirError.errno : ReaddirError → Errno
  | .badFd => .badf
  | .notCapable => .notcapable
  | .notSupported => .notsup

/-- Why the calls on the description of the entry at a path are refused. -/
inductive PathFilestatError where
  | badFd
  | notFound
  | notCapable
  | nameTooLong
  deriving DecidableEq, Repr

def PathFilestatError.errno : PathFilestatError → Errno
  | .badFd => .badf
  | .notFound => .noent
  | .notCapable => .notcapable
  | .nameTooLong => .nametoolong

def pathFilestatResolveError : ResolveDirectoryError → PathFilestatError
  | .badFd => .badFd
  | .notCapable => .notCapable
  | .nameTooLong => .nameTooLong

/-- Why a directory is not made or not removed. -/
inductive DirectoryMutationError where
  | badFd
  | notFound
  | notCapable
  | nameTooLong
  | exists
  | notDirectory
  | notEmpty
  | tooManyFiles
  deriving DecidableEq, Repr

def directoryErrno : DirectoryMutationError → Errno
  | .badFd => .badf
  | .notFound => .noent
  | .notCapable => .notcapable
  | .nameTooLong => .nametoolong
  | .exists => .exist
  | .notDirectory => .notdir
  | .notEmpty => .notempty
  | .tooManyFiles => .nospc

def directoryResolveError : ResolveDirectoryError → DirectoryMutationError
  | .badFd => .badFd
  | .notCapable => .notCapable
  | .nameTooLong => .nameTooLong

/-- Why a symbolic link is not made or not read. -/
inductive SymlinkError where
  | badFd
  | notFound
  | notCapable
  | nameTooLong
  | exists
  | tooManyFiles
  | notLink
  deriving DecidableEq, Repr

def symlinkErrno : SymlinkError → Errno
  | .badFd => .badf
  | .notFound => .noent
  | .notCapable => .notcapable
  | .nameTooLong => .nametoolong
  | .exists => .exist
  | .tooManyFiles => .nospc
  | .notLink => .inval

def symlinkResolveError : ResolveDirectoryError → SymlinkError
  | .badFd => .badFd
  | .notCapable => .notCapable
  | .nameTooLong => .nameTooLong

end MiniWasm.Wasi
