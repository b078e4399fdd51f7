import MiniWasm.Parser.Leb128
import MiniWasm.Syntax

/-!
# The binary grammar of instructions

`Encodes` relates a stretch of code bytes to the structured instruction sequence
that it encodes.  It is the grammar of the binary format, cut down to the
opcodes that the runtime supports, and mentions none of the program's three
decoders beyond the integer encodings they share.
-/

namespace MiniWasm.Spec

variable (code : List UInt8)

/-! ## Immediates -/

def integer {α : Type} (decode : List UInt8 → Except ParseError (α × Nat)) (pc : Nat) :
    Option (α × Nat) :=
  match decode (code.drop pc) with
  | .ok (value, used) => some (value, pc + used)
  | .error _ => none

def u32 (pc : Nat) : Option (Nat × Nat) :=
  integer code decodeU32 pc

def u64 (pc : Nat) : Option (Nat × Nat) :=
  integer code decodeU64 pc

def byte (pc : Nat) : Option (UInt8 × Nat) :=
  code[pc]?.map (·, pc + 1)

def bytes (width pc : Nat) : Option (List UInt8 × Nat) :=
  if pc + width ≤ code.length then
    some ((code.drop pc).take width, pc + width)
  else
    none

/-- The number whose little-endian digits are the given bytes. -/
def littleEndian : List UInt8 → Nat
  | [] => 0
  | byte :: rest => byte.toNat + 256 * littleEndian rest

def memarg (pc : Nat) : Option (Memarg × Nat) := do
  let (flags, pc) ← u32 code pc
  if 0x80 ≤ flags then
    none
  else if flags &&& 0x40 ≠ 0 then
    let (memory, pc) ← u32 code pc
    let (offset, pc) ← u64 code pc
    return (⟨flags &&& 0x3f, memory, offset⟩, pc)
  else
    let (offset, pc) ← u64 code pc
    return (⟨flags, 0, offset⟩, pc)

def valueType (tag : UInt8) : Option ValueType :=
  if tag = 0x7f then some .i32
  else if tag = 0x7e then some .i64
  else if tag = 0x7d then some .f32
  else if tag = 0x7c then some .f64
  else if tag = 0x7b then some .v128
  else if tag = 0x70 then some .funcRef
  else none

/-- The annotation of a typed `select`: a vector of one type. -/
def selectType (pc : Nat) : Option (ValueType × Nat) := do
  let (count, pc) ← u32 code pc
  if count ≠ 1 then
    none
  else
    let (tag, pc) ← byte code pc
    let type ← valueType tag
    return (type, pc)

/-- A block type: empty, a numeric shorthand, or a type index. -/
def blockType (types : List FuncType) (pc : Nat) : Option (BlockSignature × Nat) := do
  let (first, next) ← byte code pc
  if first = 0x40 then return (⟨[], []⟩, next)
  else if first = 0x7f then return (⟨[], [.i32]⟩, next)
  else if first = 0x7e then return (⟨[], [.i64]⟩, next)
  else if first = 0x7d then return (⟨[], [.f32]⟩, next)
  else if first = 0x7c then return (⟨[], [.f64]⟩, next)
  else
    let (index, pc) ← integer code decodeS33 pc
    if index < 0 ∨ 2 ^ 32 ≤ index then
      none
    else
      let type ← types[index.toNat]?
      return (⟨type.params, type.results⟩, pc)

/-- The targets of a branch table, without its default. -/
def targets : (count pc : Nat) → Option (List Nat × Nat)
  | 0, pc => some ([], pc)
  | count + 1, pc => do
      let (depth, pc) ← u32 code pc
      let (rest, pc) ← targets count pc
      return (depth :: rest, pc)

/-! ## Vector opcodes -/

/-- Opcodes of the vector proposals that the runtime does not support. -/
def simdGaps : List Nat :=
  [65, 66, 67, 68, 69, 70, 71, 72, 73, 74, 75, 76, 154, 162, 165, 166, 175, 176, 178,
   179, 180, 187, 194, 197, 198, 207, 208, 210, 211, 212, 226, 238]

/-- Lanes of the shape on which a lane instruction works. -/
def laneCount (subopcode : Nat) : Nat :=
  if subopcode ≤ 23 ∨ subopcode = 84 ∨ subopcode = 88 then 16
  else if subopcode ≤ 26 ∨ subopcode = 85 ∨ subopcode = 89 then 8
  else if subopcode ∈ [27, 28, 31, 32, 86, 90] then 4
  else 2

def simdShape (subopcode : Nat) : Option SimdShape :=
  if subopcode ≤ 11 ∨ subopcode = 92 ∨ subopcode = 93 then some .memarg
  else if subopcode = 12 then some .bytes
  else if subopcode = 13 then some .shuffle
  else if 21 ≤ subopcode ∧ subopcode ≤ 34 then some (.lane (laneCount subopcode))
  else if 84 ≤ subopcode ∧ subopcode ≤ 91 then some (.memargLane (laneCount subopcode))
  else if subopcode ∈ simdGaps then none
  else if subopcode ≤ 275 then some .none
  else none

def laneIndex (limit pc : Nat) : Option (Nat × Nat) := do
  let (lane, pc) ← byte code pc
  if lane.toNat < limit then some (lane.toNat, pc) else none

def simdImmediate (shape : SimdShape) (pc : Nat) : Option (SimdImmediate × Nat) :=
  match shape with
  | .none => some (.none, pc)
  | .memarg => do
      let (arg, pc) ← memarg code pc
      return (.memarg arg, pc)
  | .memargLane limit => do
      let (arg, pc) ← memarg code pc
      let (lane, pc) ← laneIndex code limit pc
      return (.memargLane arg lane, pc)
  | .bytes => do
      let (value, pc) ← bytes code 16 pc
      return (.bytes value, pc)
  | .shuffle => do
      let (lanes, pc) ← bytes code 16 pc
      if lanes.all (·.toNat < 32) then some (.shuffle lanes, pc) else none
  | .lane limit => do
      let (lane, pc) ← laneIndex code limit pc
      return (.lane lane, pc)

def simd (pc : Nat) : Option (Plain × Nat) := do
  let (subopcode, pc) ← u32 code pc
  let shape ← simdShape subopcode
  let (immediate, pc) ← simdImmediate code shape pc
  return (.simd subopcode immediate, pc)

/-! ## Plain instructions -/

/-- One unsigned immediate. -/
def withU32 (instr : Nat → Plain) (pc : Nat) : Option (Plain × Nat) := do
  let (index, pc) ← u32 code pc
  return (instr index, pc)

/-- Two unsigned immediates. -/
def withU32Pair (instr : Nat → Nat → Plain) (pc : Nat) : Option (Plain × Nat) := do
  let (first, pc) ← u32 code pc
  let (second, pc) ← u32 code pc
  return (instr first second, pc)

/-- The instructions behind the prefix `0xfc`. -/
def misc (pc : Nat) : Option (Plain × Nat) := do
  let (subopcode, pc) ← u32 code pc
  if subopcode ≤ 7 then return (.truncSat subopcode, pc)
  else if subopcode = 8 then withU32Pair code .memoryInit pc
  else if subopcode = 9 then withU32 code .dataDrop pc
  else if subopcode = 10 then withU32Pair code .memoryCopy pc
  else if subopcode = 11 then withU32 code .memoryFill pc
  else if subopcode = 12 then withU32Pair code .tableInit pc
  else if subopcode = 13 then withU32 code .elemDrop pc
  else if subopcode = 14 then withU32Pair code .tableCopy pc
  else if subopcode = 15 then withU32 code .tableGrow pc
  else if subopcode = 16 then withU32 code .tableSize pc
  else if subopcode = 17 then withU32 code .tableFill pc
  else none

/-- A plain instruction whose opcode has been read. -/
def plainImmediates (opcode pc : Nat) : Option (Plain × Nat) :=
  if opcode = 0x01 then some (.nop, pc)
  else if opcode = 0x1a then some (.drop, pc)
  else if opcode = 0x1b then some (.select, pc)
  else if opcode = 0x1c then do
    let (type, pc) ← selectType code pc
    return (.selectTyped type, pc)
  else if opcode = 0x20 then withU32 code .localGet pc
  else if opcode = 0x21 then withU32 code .localSet pc
  else if opcode = 0x22 then withU32 code .localTee pc
  else if opcode = 0x23 then withU32 code .globalGet pc
  else if opcode = 0x24 then withU32 code .globalSet pc
  else if opcode = 0x25 then withU32 code .tableGet pc
  else if opcode = 0x26 then withU32 code .tableSet pc
  else if 0x28 ≤ opcode ∧ opcode ≤ 0x35 then do
    let (arg, pc) ← memarg code pc
    return (.load opcode arg, pc)
  else if 0x36 ≤ opcode ∧ opcode ≤ 0x3e then do
    let (arg, pc) ← memarg code pc
    return (.store opcode arg, pc)
  else if opcode = 0x3f then withU32 code .memorySize pc
  else if opcode = 0x40 then withU32 code .memoryGrow pc
  else if opcode = 0x41 then do
    let (value, pc) ← integer code decodeI32 pc
    return (.i32Const (BitVec.ofInt 32 value), pc)
  else if opcode = 0x42 then do
    let (value, pc) ← integer code decodeI64 pc
    return (.i64Const (BitVec.ofInt 64 value), pc)
  else if opcode = 0x43 then do
    let (bits, pc) ← bytes code 4 pc
    return (.f32Const (BitVec.ofNat 32 (littleEndian bits)), pc)
  else if opcode = 0x44 then do
    let (bits, pc) ← bytes code 8 pc
    return (.f64Const (BitVec.ofNat 64 (littleEndian bits)), pc)
  else if 0x45 ≤ opcode ∧ opcode ≤ 0xc4 then some (.numeric opcode, pc)
  else if opcode = 0xd0 then do
    let (referenceType, pc) ← byte code pc
    if referenceType = 0x70 then return (.refNull, pc) else none
  else if opcode = 0xd1 then some (.refIsNull, pc)
  else if opcode = 0xd2 then withU32 code .refFunc pc
  else if opcode = 0xfc then misc code pc
  else if opcode = 0xfd then simd code pc
  else none

/-! ## Instructions that open no block -/

/-- An instruction whose opcode has been read. -/
def simpleImmediates (opcode pc : Nat) : Option (Simple × Nat) :=
  if opcode = 0x00 then some (.unreachable, pc)
  else if opcode = 0x0c then do
    let (depth, pc) ← u32 code pc
    return (.br depth, pc)
  else if opcode = 0x0d then do
    let (depth, pc) ← u32 code pc
    return (.brIf depth, pc)
  else if opcode = 0x0e then do
    let (count, pc) ← u32 code pc
    let (depths, pc) ← targets code count pc
    let (default, pc) ← u32 code pc
    return (.brTable depths default, pc)
  else if opcode = 0x0f then some (.return, pc)
  else if opcode = 0x10 then do
    let (function, pc) ← u32 code pc
    return (.call function, pc)
  else if opcode = 0x11 then do
    let (type, pc) ← u32 code pc
    let (table, pc) ← u32 code pc
    return (.callIndirect type table, pc)
  else if opcode = 0x12 then do
    let (function, pc) ← u32 code pc
    return (.returnCall function, pc)
  else if opcode = 0x13 then do
    let (type, pc) ← u32 code pc
    let (table, pc) ← u32 code pc
    return (.returnCallIndirect type table, pc)
  else do
    let (instr, pc) ← plainImmediates code opcode pc
    return (.plain instr, pc)

/-- The instruction that starts at `pc`, and where it ends. -/
def simpleAt (pc : Nat) : Option (Simple × Nat) := do
  let (opcode, pc) ← byte code pc
  simpleImmediates code opcode.toNat pc

/-! ## Instruction sequences -/

def blockOpcode (loops : Bool) : UInt8 :=
  if loops then 0x03 else 0x02

/-- Opcodes that open or close a block. -/
def blockOpcodes : List Nat :=
  [0x02, 0x03, 0x04, 0x05, 0x0b]

/-- `Encodes types code pc instrs finish`: the bytes from `pc` up to `finish`
encode the sequence `instrs`.  The terminator of the sequence, an `end` or an
`else`, stands at `finish` and is not part of it. -/
inductive Encodes (types : List FuncType) (code : List UInt8) :
    Nat → Instrs → Nat → Prop where
  | done {pc : Nat} : Encodes types code pc .done pc
  | simple {pc pc' finish : Nat} {instr : Simple} {next : Instrs} :
      simpleAt code pc = some (instr, pc') →
      Encodes types code pc' next finish →
      Encodes types code pc (.simple instr next) finish
  | block {pc bodyPc endPc finish : Nat} {loops : Bool} {signature : BlockSignature}
      {body next : Instrs} :
      code[pc]? = some (blockOpcode loops) →
      blockType code types (pc + 1) = some (signature, bodyPc) →
      Encodes types code bodyPc body endPc →
      code[endPc]? = some 0x0b →
      Encodes types code (endPc + 1) next finish →
      Encodes types code pc (.block loops signature body next) finish
  | ifThen {pc bodyPc endPc finish : Nat} {signature : BlockSignature}
      {body next : Instrs} :
      code[pc]? = some 0x04 →
      blockType code types (pc + 1) = some (signature, bodyPc) →
      Encodes types code bodyPc body endPc →
      code[endPc]? = some 0x0b →
      Encodes types code (endPc + 1) next finish →
      Encodes types code pc (.ifThen signature body next) finish
  | ifElse {pc bodyPc elsePc endPc finish : Nat} {signature : BlockSignature}
      {body alternative next : Instrs} :
      code[pc]? = some 0x04 →
      blockType code types (pc + 1) = some (signature, bodyPc) →
      Encodes types code bodyPc body elsePc →
      code[elsePc]? = some 0x05 →
      Encodes types code (elsePc + 1) alternative endPc →
      code[endPc]? = some 0x0b →
      Encodes types code (endPc + 1) next finish →
      Encodes types code pc (.ifElse signature body alternative next) finish

/-- A function body: a sequence closed by the `end` that is its last byte. -/
structure EncodesBody (types : List FuncType) (code : List UInt8)
    (instrs : Instrs) (endPc : Nat) : Prop where
  encodes : Encodes types code 0 instrs endPc
  endByte : code[endPc]? = some 0x0b
  last : endPc + 1 = code.length

/-! ## Boundaries -/

/-- Where the instruction, the opener or the terminator at `pc` ends. -/
def instrEnd (types : List FuncType) (code : List UInt8) (pc : Nat) : Option Nat := do
  let (opcode, next) ← byte code pc
  if opcode = 0x02 ∨ opcode = 0x03 ∨ opcode = 0x04 then
    let (_, bodyPc) ← blockType code types next
    return bodyPc
  else if opcode = 0x05 ∨ opcode = 0x0b then
    return next
  else
    let (_, pc) ← simpleImmediates code opcode.toNat next
    return pc

/-- The positions that a linear scan from `pc` visits. -/
inductive Walk (types : List FuncType) (code : List UInt8) (pc : Nat) : Nat → Prop where
  | here : Walk types code pc pc
  | next {middle pc' : Nat} :
      Walk types code pc middle → instrEnd types code middle = some pc' →
      Walk types code pc pc'

/-- The instruction boundaries of a body. -/
abbrev Boundary (types : List FuncType) (code : List UInt8) (pc : Nat) : Prop :=
  Walk types code 0 pc

/-- `BlockAt types code opener kind signature bodyPc elsePc endPc`: the opener is
matched by the `else` and the `end` at these positions. -/
inductive BlockAt (types : List FuncType) (code : List UInt8) :
    Nat → ControlKind → BlockSignature → Nat → Option Nat → Nat → Prop where
  | block {opener bodyPc endPc : Nat} {loops : Bool} {signature : BlockSignature}
      {body : Instrs} :
      code[opener]? = some (blockOpcode loops) →
      blockType code types (opener + 1) = some (signature, bodyPc) →
      Encodes types code bodyPc body endPc →
      code[endPc]? = some 0x0b →
      BlockAt types code opener (.ofBlock loops) signature bodyPc none endPc
  | ifThen {opener bodyPc endPc : Nat} {signature : BlockSignature} {body : Instrs} :
      code[opener]? = some 0x04 →
      blockType code types (opener + 1) = some (signature, bodyPc) →
      Encodes types code bodyPc body endPc →
      code[endPc]? = some 0x0b →
      BlockAt types code opener .if signature bodyPc none endPc
  | ifElse {opener bodyPc elsePc endPc : Nat} {signature : BlockSignature}
      {body alternative : Instrs} :
      code[opener]? = some 0x04 →
      blockType code types (opener + 1) = some (signature, bodyPc) →
      Encodes types code bodyPc body elsePc →
      code[elsePc]? = some 0x05 →
      Encodes types code (elsePc + 1) alternative endPc →
      code[endPc]? = some 0x0b →
      BlockAt types code opener .if signature bodyPc (some elsePc) endPc

end MiniWasm.Spec
