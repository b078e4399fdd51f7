import Mathlib.Algebra.Group.Nat.Defs
import Mathlib.Tactic.Common

/-!
# The Preview1 interface

Error numbers, file types, rights and the fixed limits of the host functions.
Rights are 64-bit masks.
-/

namespace MiniWasm.Wasi

/-- The error numbers that the callbacks answer with. -/
inductive Errno where
  | success
  | badf
  | exist
  | fault
  | fbig
  | inval
  | io
  | mfile
  | nametoolong
  | noent
  | nospc
  | notdir
  | notempty
  | notsup
  | overflow
  | notcapable
  deriving DecidableEq, Repr

def Errno.code : Errno → Nat
  | .success => 0
  | .badf => 8
  | .exist => 20
  | .fault => 21
  | .fbig => 22
  | .inval => 28
  | .io => 29
  | .mfile => 33
  | .nametoolong => 37
  | .noent => 44
  | .nospc => 51
  | .notdir => 54
  | .notempty => 55
  | .notsup => 58
  | .overflow => 61
  | .notcapable => 76

/-- The types of entries that descriptors and listings report. -/
inductive FileType where
  | characterDevice
  | directory
  | regularFile
  | symbolicLink
  deriving DecidableEq, Repr

def FileType.code : FileType → Nat
  | .characterDevice => 2
  | .directory => 3
  | .regularFile => 4
  | .symbolicLink => 7

/-! ## Rights -/

/-- A set of rights, one bit each. -/
abbrev Rights := BitVec 64

namespace Rights

def fdRead : Rights := 1#64 <<< 1
def fdSeek : Rights := 1#64 <<< 2
def fdFdstatSetFlags : Rights := 1#64 <<< 3
def fdTell : Rights := 1#64 <<< 5
def fdWrite : Rights := 1#64 <<< 6
def fdAllocate : Rights := 1#64 <<< 8
def pathCreateDirectory : Rights := 1#64 <<< 9
def pathCreateFile : Rights := 1#64 <<< 10
def pathLinkSource : Rights := 1#64 <<< 11
def pathLinkTarget : Rights := 1#64 <<< 12
def pathOpen : Rights := 1#64 <<< 13
def fdReaddir : Rights := 1#64 <<< 14
def pathReadlink : Rights := 1#64 <<< 15
def pathRenameSource : Rights := 1#64 <<< 16
def pathRenameTarget : Rights := 1#64 <<< 17
def pathFilestatGet : Rights := 1#64 <<< 18
def pathFilestatSetTimes : Rights := 1#64 <<< 20
def fdFilestatGet : Rights := 1#64 <<< 21
def fdFilestatSetSize : Rights := 1#64 <<< 22
def fdFilestatSetTimes : Rights := 1#64 <<< 23
def pathSymlink : Rights := 1#64 <<< 24
def pathRemoveDirectory : Rights := 1#64 <<< 25
def pathUnlinkFile : Rights := 1#64 <<< 26

/-- Rights that change a file or its description. -/
def mutation : Rights :=
  fdWrite ||| fdAllocate ||| fdFdstatSetFlags ||| fdFilestatSetSize ||| fdFilestatSetTimes

/-- The rights that `path_open` can grant to a file. -/
def allowedFileBase : Rights :=
  fdRead ||| fdWrite ||| fdSeek ||| fdTell ||| fdAllocate ||| fdFdstatSetFlags |||
    fdFilestatGet ||| fdFilestatSetSize ||| fdFilestatSetTimes

/-- The rights that `path_open` can grant to a directory. -/
def allowedDirectoryBase : Rights :=
  fdReaddir ||| pathOpen ||| pathFilestatGet ||| pathFilestatSetTimes ||| pathCreateDirectory |||
    pathCreateFile ||| pathLinkSource ||| pathLinkTarget ||| pathReadlink ||| pathSymlink |||
    pathRemoveDirectory ||| pathUnlinkFile

/-- `requested & !allowed == 0`. -/
def Within (requested allowed : Rights) : Prop :=
  requested &&& ~~~allowed = 0#64

instance (requested allowed : Rights) : Decidable (requested.Within allowed) :=
  inferInstanceAs (Decidable (_ = _))

/-- A right that was requested is among the allowed ones. -/
theorem Within.covers {requested allowed right : Rights}
    (within : Within requested allowed) (granted : requested &&& right = right) :
    allowed &&& right = right := by
  unfold Within at within
  ext index inside
  have bit := congrArg (BitVec.getLsbD · index) within
  have grant := congrArg (BitVec.getLsbD · index) granted
  simp only [BitVec.getLsbD_and, BitVec.getLsbD_not] at bit grant
  simp only [BitVec.getElem_and]
  simp at bit grant ⊢
  grind

theorem Within.trans {low middle high : Rights} (first : Within low middle)
    (second : Within middle high) : Within low high := by
  unfold Within at first second ⊢
  ext index inside
  have bit := congrArg (BitVec.getLsbD · index) first
  have next := congrArg (BitVec.getLsbD · index) second
  simp at bit next ⊢
  grind

/-- Rights that are within both of two masks are within their common part. -/
theorem Within.and {rights first second : Rights} (within : rights.Within first)
    (also : rights.Within second) : rights.Within (first &&& second) := by
  unfold Within at within also ⊢
  ext index inside
  have bit := congrArg (BitVec.getLsbD · index) within
  have next := congrArg (BitVec.getLsbD · index) also
  simp at bit next ⊢
  grind

/-- Where nothing is allowed, nothing can be requested. -/
theorem within_zero {rights : Rights} : rights.Within 0 ↔ rights = 0 := by
  rw [Within, show ~~~(0 : Rights) = BitVec.allOnes 64 by decide, BitVec.and_allOnes]
  rfl

end Rights

/-! ## Flags and limits -/

def fdflagsAppend : BitVec 16 := 1#16
def lookupflagsSymlinkFollow : BitVec 32 := 1#32

def oflagsCreat : BitVec 32 := 1#32 <<< 0
def oflagsDirectory : BitVec 32 := 1#32 <<< 1
def oflagsExcl : BitVec 32 := 1#32 <<< 2
def oflagsTrunc : BitVec 32 := 1#32 <<< 3

def fstflagsAtim : BitVec 32 := 1#32 <<< 0
def fstflagsAtimNow : BitVec 32 := 1#32 <<< 1
def fstflagsMtim : BitVec 32 := 1#32 <<< 2
def fstflagsMtimNow : BitVec 32 := 1#32 <<< 3
def fstflagsAll : BitVec 32 :=
  fstflagsAtim ||| fstflagsAtimNow ||| fstflagsMtim ||| fstflagsMtimNow

def firstDynamicFd : Nat := 3
def firstPreopenFd : Nat := 3
def maxPreopenDirs : Nat := 128
def maxPreopenNameBytes : Nat := 4 * 1024
def maxMountedFiles : Nat := 4096
def maxRelativePathBytes : Nat := 4 * 1024
def maxFileBytes : Nat := 16 * 1024 * 1024
def maxOpenFiles : Nat := 256
def maxPwriteIovecs : Nat := 1024
def maxSubscriptions : Nat := 64
def syntheticDeviceId : Nat := 1

/-- `u64::MAX`, at which inode numbers run out. -/
def maxU64 : Nat := 2 ^ 64 - 1

end MiniWasm.Wasi
