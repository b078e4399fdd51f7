import MiniWasm.Library.Overwrite
import MiniWasm.Runtime.Vector
import MiniWasm.Runtime.Value

/-!
# Linear memories

Byte-addressed memories with the interpreter's bounds checks.  Effective
addresses are 64-bit sums; the checks for their overflow precede the check
against the size.  Whether a request for more memory is granted is outside the
program's control and is an argument of `grow`.
-/

namespace MiniWasm.Runtime

/-- The bytes of a page. -/
def wasmPageSize : Nat :=
  65536

/-- The pages that 32-bit addresses can reach. -/
def maxMemoryPages : Nat :=
  65536

structure LinearMemory where
  bytes : List UInt8
  maxPages : Nat
  deriving DecidableEq, Repr

namespace LinearMemory

variable (memory : LinearMemory)

def sizePages : Nat :=
  memory.bytes.length / wasmPageSize

/-- A slice of the bytes; callers have checked the range. -/
def readBytes (start width : Nat) : List UInt8 :=
  (memory.bytes.drop start).take width

/-- The bytes at a place are overwritten; callers have checked the range. -/
def writeBytes (start : Nat) (payload : List UInt8) : LinearMemory :=
  { memory with bytes := Library.overwrite memory.bytes start payload }

@[simp] theorem writeBytes_length (start : Nat) (payload : List UInt8) :
    (memory.writeBytes start payload).bytes.length = memory.bytes.length :=
  Library.overwrite_length ..

/-- What was written can be read back, so different payloads leave different bytes. -/
theorem writeBytes_injective {start : Nat} {first second : List UInt8}
    (sameLength : first.length = second.length)
    (fits : start + first.length ≤ memory.bytes.length)
    (same : memory.writeBytes start first = memory.writeBytes start second) : first = second :=
  Library.overwrite_injective sameLength fits (congrArg bytes same)

/-- Previous size in pages, or `-1`, with the memory after the call. -/
def grow (granted : Bool) (deltaPages : Nat) : BitVec 32 × LinearMemory :=
  let oldPages := memory.sizePages
  let newPages := oldPages + deltaPages
  if 2 ^ 32 ≤ newPages then (-1, memory)
  else if memory.maxPages < newPages then (-1, memory)
  else
    let newLength := newPages * wasmPageSize
    if memory.bytes.length < newLength then
      if granted then
        (BitVec.ofNat 32 oldPages,
          { memory with
            bytes := memory.bytes ++
              List.replicate (newLength - memory.bytes.length) 0 })
      else (-1, memory)
    else (BitVec.ofNat 32 oldPages, memory)

/-! ## Bounds checks -/

/-- Start of a checked range. -/
def checkedBulkRange (address width : Nat) : Run Nat :=
  if 2 ^ 64 ≤ address + width then .error (.memoryOutOfBounds address width)
  else if memory.bytes.length < address + width then
    .error (.memoryOutOfBounds address width)
  else .ok address

/-- The address space is checked before the length of the memory. -/
def checkedRange (address : BitVec 32) (displacement width : Nat) : Run Nat :=
  let effective := address.toNat + displacement
  if 2 ^ 64 ≤ effective then .error (.memoryOutOfBounds (2 ^ 64 - 1) width)
  else if 2 ^ 64 ≤ effective + width then .error (.memoryOutOfBounds effective width)
  else if memory.bytes.length < effective + width then
    .error (.memoryOutOfBounds effective width)
  else .ok effective

/-- The same check for callbacks, without a displacement. -/
def checkedHostRange (address width : Nat) : Except HostError Nat :=
  if 2 ^ 64 ≤ address + width then .error (.memoryOutOfBounds address width)
  else if memory.bytes.length < address + width then
    .error (.memoryOutOfBounds address width)
  else .ok address

/-- Checked addition of the displacement, for the 64-bit accesses. -/
def effectiveAddress (address displacement width : Nat) : Run Nat :=
  if 2 ^ 64 ≤ address + displacement then .error (.memoryOutOfBounds (2 ^ 64 - 1) width)
  else .ok (address + displacement)

/-! ## Loads and stores -/

/-- The number whose little-endian digits are the given bytes. -/
def fromLeBytes : List UInt8 → Nat
  | [] => 0
  | byte :: rest => byte.toNat + 256 * fromLeBytes rest

/-- The low bytes of a number, least significant first. -/
def toLeBytes : (width value : Nat) → List UInt8
  | 0, _ => []
  | width + 1, value => UInt8.ofNat value :: toLeBytes width (value / 256)

@[simp] theorem toLeBytes_length (width value : Nat) :
    (toLeBytes width value).length = width := by
  induction width generalizing value with
  | zero => rfl
  | succ width ih => simp [toLeBytes, ih]

theorem toLeBytes_injective {width left right : Nat} (leftFits : left < 256 ^ width)
    (rightFits : right < 256 ^ width) (same : toLeBytes width left = toLeBytes width right) :
    left = right := by
  induction width generalizing left right with
  | zero =>
    rw [pow_zero, Nat.lt_one_iff] at leftFits rightFits
    rw [leftFits, rightFits]
  | succ width ih =>
    rw [toLeBytes, toLeBytes, List.cons.injEq] at same
    rw [pow_succ] at leftFits rightFits
    have low : left % 256 = right % 256 := by
      simpa using congrArg UInt8.toNat same.1
    have high : left / 256 = right / 256 :=
      ih (Nat.div_lt_of_lt_mul (by rwa [Nat.mul_comm] at leftFits))
        (Nat.div_lt_of_lt_mul (by rwa [Nat.mul_comm] at rightFits)) same.2
    omega

/-- A load of `width` bytes, sign- or zero-extended to `bits` bits. -/
def load (bits width : Nat) (signed : Bool) (address : BitVec 32) (displacement : Nat) :
    Run (BitVec bits) := do
  let start ← memory.checkedRange address displacement width
  let raw := BitVec.ofNat (8 * width) (fromLeBytes (memory.readBytes start width))
  return if signed then raw.signExtend bits else raw.zeroExtend bits

/-- A store of the low `width` bytes. -/
def store (bits width : Nat) (address : BitVec 32) (displacement : Nat)
    (value : BitVec bits) : Run LinearMemory := do
  let start ← memory.checkedRange address displacement width
  return memory.writeBytes start (toLeBytes width value.toNat)

def loadI32 := memory.load 32 4 false
def loadI64 := memory.load 64 8 false
def loadF32 := memory.load 32 4 false
def loadF64 := memory.load 64 8 false
def loadI8S := memory.load 32 1 true
def loadI8U := memory.load 32 1 false
def loadI16S := memory.load 32 2 true
def loadI16U := memory.load 32 2 false
def loadI64_8S := memory.load 64 1 true
def loadI64_8U := memory.load 64 1 false
def loadI64_16S := memory.load 64 2 true
def loadI64_16U := memory.load 64 2 false
def loadI64_32S := memory.load 64 4 true
def loadI64_32U := memory.load 64 4 false

def storeI32 := memory.store 32 4
def storeI64 := memory.store 64 8
def storeF32 := memory.store 32 4
def storeF64 := memory.store 64 8
def storeI8 := memory.store 32 1
def storeI16 := memory.store 32 2
def storeI64_8 := memory.store 64 1
def storeI64_16 := memory.store 64 2
def storeI64_32 := memory.store 64 4

def loadFixed (width address displacement : Nat) : Run (List UInt8) := do
  let effective ← effectiveAddress address displacement width
  let start ← memory.checkedBulkRange effective width
  return memory.readBytes start width

def loadV128 (address displacement : Nat) : Run (List UInt8) :=
  memory.loadFixed 16 address displacement

def storeV128 (address displacement : Nat) (value : List UInt8) : Run LinearMemory := do
  let effective ← effectiveAddress address displacement 16
  let start ← memory.checkedBulkRange effective 16
  return memory.writeBytes start value

/-- The low byte of the value, as often as the length says. -/
def fillBulk (destination : Nat) (value : BitVec 32) (length : Nat) : Run LinearMemory := do
  let start ← memory.checkedBulkRange destination length
  return memory.writeBytes start (List.replicate length (UInt8.ofNat value.toNat))

end LinearMemory

end MiniWasm.Runtime
