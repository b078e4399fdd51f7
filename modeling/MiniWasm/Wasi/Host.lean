import MiniWasm.Library.Pages
import MiniWasm.Runtime.Instance
import MiniWasm.Wasi.Files

/-!
# The host side of a call

What a host function works on: the memory of the guest that calls it, and the
state that the host functions share.  The configuration is what registration
copies and no call changes.
-/

namespace MiniWasm.Wasi

open Library Action MiniWasm.Runtime

/-! ## Configuration and state -/

structure ExtraFdStat where
  fd : Nat
  filetype : FileType
  rightsBase : Rights
  rightsInheriting : Rights
  deriving DecidableEq, Repr

structure ClockSnapshot where
  resolutionNs : Nat
  timeNs : Nat
  deriving DecidableEq, Repr

/-- The clocks that are configured, by their numbers. -/
abbrev ClockSet := List (Option ClockSnapshot)

structure Config where
  args : List (List UInt8)
  env : List (List UInt8)
  extraFdStats : List ExtraFdStat
  clocks : ClockSet
  maxIovecs : Nat
  maxWriteBytes : Nat
  maxReadIovecs : Nat
  maxReadBytes : Nat
  maxArgs : Nat
  maxArgsBytes : Nat
  maxEnv : Nat
  maxEnvBytes : Nat
  maxRandomBytes : Nat
  deriving DecidableEq, Repr

/-- Bytes that are handed out once: the standard input, and the entropy. -/
structure InputState where
  bytes : List UInt8
  offset : Nat
  deriving DecidableEq, Repr

structure PreopenDir where
  fd : Nat
  guestPath : List UInt8
  live : Bool
  deriving DecidableEq, Repr

structure WasiState where
  stdin : InputState
  stdout : List UInt8
  stderr : List UInt8
  entropy : InputState
  exitCode : Option Nat
  preopens : List PreopenDir
  filesystem : FilesystemState

def ClockSet.snapshot (clocks : ClockSet) (id : Nat) : Option ClockSnapshot :=
  if 3 < id then none else clocks[id]?.join

def ClockSet.realtimeTime (clocks : ClockSet) : Option Nat :=
  (clocks.snapshot 0).map (·.timeNs)

namespace InputState

variable (input : InputState)

def peek (maxLen : Nat) : List UInt8 :=
  sliceAt input.bytes input.offset maxLen

def advance (length : Nat) : InputState :=
  { input with offset := min (input.offset + length) input.bytes.length }

end InputState

namespace WasiState

variable (state : WasiState)

/-- `PreopenSet::find`. -/
def findPreopen (fd : Nat) : Option PreopenDir :=
  state.preopens.find? fun entry => entry.fd = fd ∧ entry.live

/-- `PreopenSet::close`; whether the preopen was live. -/
def closePreopen {ε : Type} (fd : Nat) : Action WasiState ε Bool := do
  let state ← ask id
  match state.preopens.findIdx? (·.fd = fd), state.preopens.find? (·.fd = fd) with
  | some index, some entry => do
      modify fun state =>
        { state with
          preopens := state.preopens.modify index fun entry => { entry with live := false } }
      return entry.live
  | _, _ => return false

end WasiState

/-! ## Callbacks -/

structure Host where
  capabilities : HostCapabilities
  memory : Option LinearMemory
  state : WasiState

/-- Why a call does not report success: an error number, or an error that ends the
invocation. -/
inductive Failure where
  | errno (errno : Errno)
  | host (err : HostError)
  deriving DecidableEq, Repr

abbrev Callback (α : Type) :=
  Action Host Failure α

namespace Host

variable (host : Host)

/-- `HostContext::read_memory`. -/
def readMemory (address length : Nat) : Except HostError (List UInt8) :=
  if ¬ host.capabilities.memoryRead then .error (.capabilityDenied "memory.read")
  else
    match host.memory with
    | none => .error .memoryUnavailable
    | some memory => do
        let start ← memory.checkedHostRange address length
        return memory.readBytes start length

/-- `HostContext::write_memory`. -/
def writeMemory (address : Nat) (bytes : List UInt8) : Except HostError Host :=
  if ¬ host.capabilities.memoryWrite then .error (.capabilityDenied "memory.write")
  else
    match host.memory with
    | none => .error .memoryUnavailable
    | some memory => do
        let start ← memory.checkedHostRange address bytes.length
        return { host with memory := some (memory.writeBytes start bytes) }

def withState (state : WasiState) : Host :=
  { host with state }

def withFilesystem (filesystem : FilesystemState) : Host :=
  host.withState { host.state with filesystem }

end Host

namespace Callback

def failWith {α : Type} (errno : Errno) : Callback α :=
  fail (.errno errno)

/-- Read guest memory; every failure is a fault. -/
def readMemory (address length : Nat) : Callback (List UInt8) :=
  consult fun host => (host.readMemory address length).mapError fun _ => .errno .fault

/-- Check that guest memory can be read, without using what it holds. -/
def preflight (address length : Nat) : Callback Unit := do
  let _ ← readMemory address length

def writeMemory (address : Nat) (bytes : List UInt8) : Callback Unit :=
  fun host =>
    match host.writeMemory address bytes with
    | .ok host => (.ok (), host)
    | .error _ => (.error (.errno .fault), host)

/-- A query of the filesystem. -/
def query {ε α : Type} (convert : ε → Errno) (read : FilesystemState → Except ε α) :
    Callback α :=
  consult fun host => (read host.state.filesystem).mapError fun err => .errno (convert err)

/-- A change of the filesystem. -/
def onFilesystem {ε α : Type} (convert : ε → Failure) (action : Action FilesystemState ε α) :
    Callback α :=
  zoom (·.state.filesystem) (fun filesystem host => host.withFilesystem filesystem) convert
    action

def askFilesystem {α : Type} (read : FilesystemState → α) : Callback α :=
  ask fun host => read host.state.filesystem

/-! ## Arguments in guest memory -/

def u32At (bytes : List UInt8) (offset : Nat) : Nat :=
  LinearMemory.fromLeBytes (sliceAt bytes offset 4)

/-- Pointer and length at an index of a vector of buffers; an entry past the last
address is a fault. -/
def readIovec (iovs index : Nat) : Callback (Nat × Nat) := do
  if 2 ^ 32 ≤ iovs + 8 * index then failWith .fault
  else do
    let header ← readMemory (iovs + 8 * index) 8
    return (u32At header 0, u32At header 4)

/-- The bytes of the buffers from an index on, after those read before. -/
def gatherPayload (iovs limit : Nat) (tooLong : Errno) :
    (count index : Nat) → List UInt8 → Callback (List UInt8)
  | 0, _, payload => pure payload
  | count + 1, index, payload => do
      let (pointer, length) ← readIovec iovs index
      if limit < payload.length + length ∨ 2 ^ 32 - 1 < payload.length + length then
        failWith tooLong
      else do
        let bytes ← readMemory pointer length
        gatherPayload iovs limit tooLong count (index + 1) (payload ++ bytes)

/-- The buffers to read into, and how much fits into them. -/
def gatherDestinations (iovs limit : Nat) :
    (count index : Nat) → List (Nat × Nat) → (capacity : Nat) →
      Callback (List (Nat × Nat) × Nat)
  | 0, _, destinations, capacity => pure (destinations, capacity)
  | count + 1, index, destinations, capacity => do
      let (pointer, length) ← readIovec iovs index
      if limit < capacity + length ∨ 2 ^ 32 - 1 < capacity + length then failWith .inval
      else do
        preflight pointer length
        gatherDestinations iovs limit count (index + 1) (destinations ++ [(pointer, length)])
          (capacity + length)

/-- Copy bytes into the buffers in turn; how many were copied. -/
def scatter : List (Nat × Nat) → List UInt8 → (copied : Nat) → Callback Nat
  | [], _, copied => pure copied
  | (pointer, length) :: destinations, bytes, copied =>
      if bytes = [] then pure copied
      else do
        let chunk := bytes.take length
        if chunk ≠ [] then writeMemory pointer chunk
        scatter destinations (bytes.drop length) (copied + chunk.length)

/-- The path argument of a call. -/
def readPath (pathPtr pathLen : Nat) : Callback Path := do
  if maxRelativePathBytes < pathLen then failWith .nametoolong
  else do
    let path ← readMemory pathPtr pathLen
    consult fun _ => (validateGuestPath path).mapError fun err => .errno err.errno
    return path

/-- Two path arguments: both lengths are checked first, then both paths are read. -/
def readPaths (oldPtr oldLen newPtr newLen : Nat) : Callback (Path × Path) := do
  if maxRelativePathBytes < oldLen ∨ maxRelativePathBytes < newLen then failWith .nametoolong
  else do
    let oldPath ← readMemory oldPtr oldLen
    let newPath ← readMemory newPtr newLen
    consult fun _ => (validateGuestPath oldPath).mapError fun err => .errno err.errno
    consult fun _ => (validateGuestPath newPath).mapError fun err => .errno err.errno
    return (oldPath, newPath)

/-! ## Results in guest memory -/

def leBytes (width value : Nat) : List UInt8 :=
  LinearMemory.toLeBytes width value

/-- Check both ranges before the first write. -/
def writeBoth (first : Nat) (firstBytes : List UInt8) (firstLength : Nat)
    (second : Nat) (secondBytes : List UInt8) : Callback Unit := do
  preflight first firstLength
  preflight second secondBytes.length
  writeMemory first firstBytes
  writeMemory second secondBytes

def writeChecked (address : Nat) (bytes : List UInt8) : Callback Unit := do
  preflight address bytes.length
  writeMemory address bytes

def encodeFilestat (stat : DescriptorFilestat) : List UInt8 :=
  leBytes 8 stat.dev ++ leBytes 8 stat.ino ++ leBytes 1 stat.filetype.code ++ leBytes 7 0 ++
    leBytes 8 stat.nlink ++ leBytes 8 stat.size ++ leBytes 8 stat.times.atim ++
    leBytes 8 stat.times.mtim ++ leBytes 8 stat.times.ctim

def encodeFdstat (filetype : FileType) (flags : BitVec 16) (base inheriting : Rights) :
    List UInt8 :=
  leBytes 1 filetype.code ++ leBytes 1 0 ++ leBytes 2 flags.toNat ++ leBytes 4 0 ++
    leBytes 8 base.toNat ++ leBytes 8 inheriting.toNat

def direntHeader (entry : ReaddirEntry) : List UInt8 :=
  leBytes 8 entry.next ++ leBytes 8 entry.inode ++ leBytes 4 entry.name.length ++
    leBytes 1 entry.filetype.code ++ leBytes 3 0

def encodeDirent (entry : ReaddirEntry) : List UInt8 :=
  direntHeader entry ++ entry.name

/-- As much of the chunk as there is room for. -/
def appendChunk (bufLen : Nat) (payload chunk : List UInt8) : List UInt8 :=
  let remaining := bufLen - payload.length
  if remaining = 0 then payload else payload ++ chunk.take (min remaining chunk.length)

/-- The loop of `fd_readdir` over the entries. -/
def fillDirents (bufLen : Nat) : List ReaddirEntry → (payload : List UInt8) → List UInt8
  | [], payload => payload
  | entry :: entries, payload =>
      if payload.length = bufLen then payload
      else
        fillDirents bufLen entries
          (appendChunk bufLen (appendChunk bufLen payload (direntHeader entry)) entry.name)

theorem appendChunk_eq {bufLen : Nat} {payload : List UInt8} (within : payload.length ≤ bufLen)
    (chunk : List UInt8) : appendChunk bufLen payload chunk = (payload ++ chunk).take bufLen := by
  rw [List.take_append, List.take_of_length_le within]
  unfold appendChunk
  dsimp only
  split_ifs with full
  · rw [full, List.take_zero, List.append_nil]
  · rw [← List.take_take, List.take_length]

/-- The loop cuts the serialised entries off where the buffer ends. -/
theorem fillDirents_eq {bufLen : Nat} (entries : List ReaddirEntry) {payload : List UInt8}
    (within : payload.length ≤ bufLen) :
    fillDirents bufLen entries payload =
      (payload ++ entries.flatMap encodeDirent).take bufLen := by
  induction entries generalizing payload with
  | nil => simp [fillDirents, List.take_of_length_le within]
  | cons entry entries ih =>
    unfold fillDirents
    split_ifs with full
    · rw [← full, List.take_left]
    · have header : (appendChunk bufLen payload (direntHeader entry)).length ≤ bufLen := by
        rw [appendChunk_eq within, List.length_take]
        exact Nat.min_le_left ..
      have named : appendChunk bufLen (appendChunk bufLen payload (direntHeader entry)) entry.name =
          (payload ++ encodeDirent entry).take bufLen := by
        rw [appendChunk_eq header, appendChunk_eq within, take_append_take, encodeDirent,
          List.append_assoc]
      have short : ((payload ++ encodeDirent entry).take bufLen).length ≤ bufLen := by
        rw [List.length_take]
        exact Nat.min_le_left ..
      rw [named, ih short, take_append_take, List.flatMap_cons, List.append_assoc]

end Callback

end MiniWasm.Wasi
