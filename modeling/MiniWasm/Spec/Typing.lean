import MiniWasm.Spec.Grammar

/-!
# Declarative typing

The typing rules of instructions and instruction sequences.  A sequence takes
one operand stack type to another; a stack type lists its top first, so the
parameters and results of a signature appear reversed.

The rules come in two strengths.  The strict ones are those of the language:
code behind an unconditional branch is typed as well, from any stack type.  The
relaxed ones leave that dead code alone and also admit an untyped `select` on
references; they describe the code that can run.
-/

namespace MiniWasm.Spec

structure Context where
  module : Module
  /-- Parameters, then declared locals. -/
  locals : List ValueType
  results : List ValueType
  deriving DecidableEq, Repr

/-- Operands that an instruction takes and gives back, top first. -/
structure Signature where
  ins : List ValueType
  outs : List ValueType
  deriving DecidableEq, Repr

/-! ## Numeric instructions -/

def numericSignature (opcode : Nat) : Option Signature :=
  if opcode < 0x45 then none
  -- tests and comparisons
  else if opcode = 0x45 then some ⟨[.i32], [.i32]⟩
  else if opcode ≤ 0x4f then some ⟨[.i32, .i32], [.i32]⟩
  else if opcode = 0x50 then some ⟨[.i64], [.i32]⟩
  else if opcode ≤ 0x5a then some ⟨[.i64, .i64], [.i32]⟩
  else if opcode ≤ 0x60 then some ⟨[.f32, .f32], [.i32]⟩
  else if opcode ≤ 0x66 then some ⟨[.f64, .f64], [.i32]⟩
  -- unary and binary arithmetic
  else if opcode ≤ 0x69 then some ⟨[.i32], [.i32]⟩
  else if opcode ≤ 0x78 then some ⟨[.i32, .i32], [.i32]⟩
  else if opcode ≤ 0x7b then some ⟨[.i64], [.i64]⟩
  else if opcode ≤ 0x8a then some ⟨[.i64, .i64], [.i64]⟩
  else if opcode ≤ 0x91 then some ⟨[.f32], [.f32]⟩
  else if opcode ≤ 0x98 then some ⟨[.f32, .f32], [.f32]⟩
  else if opcode ≤ 0x9f then some ⟨[.f64], [.f64]⟩
  else if opcode ≤ 0xa6 then some ⟨[.f64, .f64], [.f64]⟩
  -- conversions, by result
  else if opcode ≤ 0xab then
    some ⟨[if opcode = 0xa7 then .i64 else if opcode ≤ 0xa9 then .f32 else .f64], [.i32]⟩
  else if opcode ≤ 0xb1 then
    some ⟨[if opcode ≤ 0xad then .i32 else if opcode ≤ 0xaf then .f32 else .f64], [.i64]⟩
  else if opcode ≤ 0xb6 then
    some ⟨[if opcode ≤ 0xb3 then .i32 else if opcode ≤ 0xb5 then .i64 else .f64], [.f32]⟩
  else if opcode ≤ 0xbb then
    some ⟨[if opcode ≤ 0xb8 then .i32 else if opcode ≤ 0xba then .i64 else .f32], [.f64]⟩
  -- reinterpretations and sign extensions
  else if opcode = 0xbc then some ⟨[.f32], [.i32]⟩
  else if opcode = 0xbd then some ⟨[.f64], [.i64]⟩
  else if opcode = 0xbe then some ⟨[.i32], [.f32]⟩
  else if opcode = 0xbf then some ⟨[.i64], [.f64]⟩
  else if opcode ≤ 0xc1 then some ⟨[.i32], [.i32]⟩
  else if opcode ≤ 0xc4 then some ⟨[.i64], [.i64]⟩
  else none

def truncSatSignature (subopcode : Nat) : Option Signature :=
  if subopcode ≤ 1 then some ⟨[.f32], [.i32]⟩
  else if subopcode ≤ 3 then some ⟨[.f64], [.i32]⟩
  else if subopcode ≤ 5 then some ⟨[.f32], [.i64]⟩
  else if subopcode ≤ 7 then some ⟨[.f64], [.i64]⟩
  else none

/-! ## Memory accesses -/

/-- Type of the value that a load or store moves. -/
def accessType (opcode : Nat) : ValueType :=
  if opcode ∈ [0x28, 0x2c, 0x2d, 0x2e, 0x2f, 0x36, 0x3a, 0x3b] then .i32
  else if opcode ∈ [0x2a, 0x38] then .f32
  else if opcode ∈ [0x2b, 0x39] then .f64
  else .i64

/-- Logarithm of the width that a load or store accesses. -/
def accessAlignment (opcode : Nat) : Nat :=
  if opcode ∈ [0x2c, 0x2d, 0x30, 0x31, 0x3a, 0x3c] then 0
  else if opcode ∈ [0x2e, 0x2f, 0x32, 0x33, 0x3b, 0x3d] then 1
  else if opcode ∈ [0x29, 0x2b, 0x37, 0x39] then 3
  else 2

def addressOf (type : MemoryType) : ValueType :=
  if type.limits.memory64 then .i64 else .i32

/-- Address type of an existing memory. -/
def memoryAddress (cx : Context) (memory : Nat) : Option ValueType :=
  (cx.module.memoryType memory).map addressOf

/-- Address type of a well-formed memory argument. -/
def memargAddress (cx : Context) (alignment : Nat) (arg : Memarg) : Option ValueType :=
  match cx.module.memoryType arg.memory with
  | none => none
  | some type =>
      if arg.alignment ≤ alignment ∧ (type.limits.memory64 ∨ arg.offset < 2 ^ 32) then
        some (addressOf type)
      else
        none

/-! ## Vector instructions -/

def simdAlignment (subopcode : Nat) : Nat :=
  if subopcode ∈ [7, 84, 88] then 0
  else if subopcode ∈ [8, 85, 89] then 1
  else if subopcode ∈ [9, 86, 90, 92] then 2
  else if subopcode ∈ [0, 11] then 4
  else 3

/-- Vector instructions with one vector operand and a vector result. -/
def simdUnary : List Nat :=
  [77, 94, 95, 96, 97, 98, 103, 104, 105, 106, 116, 117, 122, 124, 125, 126, 127, 128,
   129, 135, 136, 137, 138, 148, 160, 161, 167, 168, 169, 170, 192, 193, 199, 200, 201,
   202, 224, 225, 227, 236, 237, 239, 248, 249, 250, 251, 252, 253, 254, 255, 257, 258,
   259, 260]

/-- Bit selection, fused multiplication and the other three-operand forms. -/
def simdTernary : List Nat :=
  [82, 261, 262, 263, 264, 265, 266, 267, 268, 275]

/-- Tests and bit masks. -/
def simdTest : List Nat :=
  [83, 99, 100, 131, 132, 163, 164, 195, 196]

def simdShift : List Nat :=
  [107, 108, 109, 139, 140, 141, 171, 172, 173, 203, 204, 205]

/-- Scalar type of the lanes that a splat or lane instruction works on. -/
def laneType (subopcode : Nat) : ValueType :=
  if subopcode ∈ [15, 16, 17] ∨ 21 ≤ subopcode ∧ subopcode ≤ 28 then .i32
  else if subopcode ∈ [18, 29, 30] then .i64
  else if subopcode ∈ [19, 31, 32] then .f32
  else .f64

/-- Signature of a vector instruction whose memory, if it has one, is addressed
by `address`. -/
def simdSignature (address : ValueType) (subopcode : Nat) : Signature :=
  if subopcode ≤ 10 ∨ subopcode = 92 ∨ subopcode = 93 then ⟨[address], [.v128]⟩
  else if subopcode = 11 then ⟨[.v128, address], []⟩
  else if subopcode = 12 then ⟨[], [.v128]⟩
  else if 84 ≤ subopcode ∧ subopcode ≤ 87 then ⟨[.v128, address], [.v128]⟩
  else if 88 ≤ subopcode ∧ subopcode ≤ 91 then ⟨[.v128, address], []⟩
  else if 15 ≤ subopcode ∧ subopcode ≤ 20 then ⟨[laneType subopcode], [.v128]⟩
  else if subopcode ∈ [21, 22, 24, 25, 27, 29, 31, 33] then ⟨[.v128], [laneType subopcode]⟩
  else if subopcode ∈ [23, 26, 28, 30, 32, 34] then
    ⟨[laneType subopcode, .v128], [.v128]⟩
  else if subopcode ∈ simdUnary then ⟨[.v128], [.v128]⟩
  else if subopcode ∈ simdTernary then ⟨[.v128, .v128, .v128], [.v128]⟩
  else if subopcode ∈ simdTest then ⟨[.v128], [.i32]⟩
  else if subopcode ∈ simdShift then ⟨[.i32, .v128], [.v128]⟩
  else ⟨[.v128, .v128], [.v128]⟩

/-- Address type that the immediate of a vector instruction selects. -/
def simdAddress (cx : Context) (subopcode : Nat) : SimdImmediate → Option ValueType
  | .memarg arg => memargAddress cx (simdAlignment subopcode) arg
  | .memargLane arg _ => memargAddress cx (simdAlignment subopcode) arg
  | _ => some .i32

/-! ## Plain instructions -/

/-- A function may be referenced when it is mentioned outside the bodies. -/
def Referable (module : Module) (function : Nat) : Prop :=
  (∃ entry ∈ module.exports, entry.kind = .function ∧ entry.index = function) ∨
  (∃ element ∈ module.elements, function ∈ element.functionIndices) ∨
  ∃ global ∈ module.globals, global.init = .funcRef (some function)

instance (module : Module) (function : Nat) : Decidable (Referable module function) :=
  inferInstanceAs (Decidable (_ ∨ _ ∨ _))

def knownTable (cx : Context) (table : Nat) (signature : Signature) : Option Signature :=
  if table < cx.module.tableCount then some signature else none

def knownData (cx : Context) (data : Nat) (signature : Signature) : Option Signature :=
  if cx.module.dataCount.isSome ∧ data < cx.module.data.length then some signature else none

def knownElement (cx : Context) (element : Nat) (signature : Signature) :
    Option Signature :=
  if element < cx.module.elements.length then some signature else none

/-- Signature of the plain instructions that have a single one. -/
def plainSignature (cx : Context) : Plain → Option Signature
  | .nop => some ⟨[], []⟩
  | .drop => none
  | .select => none
  | .selectTyped type => some ⟨[.i32, type, type], [type]⟩
  | .localGet index => do some ⟨[], [← cx.locals[index]?]⟩
  | .localSet index => do some ⟨[← cx.locals[index]?], []⟩
  | .localTee index => do
      let type ← cx.locals[index]?
      some ⟨[type], [type]⟩
  | .globalGet index => do some ⟨[], [(← cx.module.globalType index).valueType]⟩
  | .globalSet index => do
      let type ← cx.module.globalType index
      if type.mutable then some ⟨[type.valueType], []⟩ else none
  | .tableGet table => knownTable cx table ⟨[.i32], [.funcRef]⟩
  | .tableSet table => knownTable cx table ⟨[.funcRef, .i32], []⟩
  | .load opcode arg => do
      some ⟨[← memargAddress cx (accessAlignment opcode) arg], [accessType opcode]⟩
  | .store opcode arg => do
      some ⟨[accessType opcode, ← memargAddress cx (accessAlignment opcode) arg], []⟩
  | .memorySize memory => do some ⟨[], [← memoryAddress cx memory]⟩
  | .memoryGrow memory => do
      let address ← memoryAddress cx memory
      some ⟨[address], [address]⟩
  | .i32Const _ => some ⟨[], [.i32]⟩
  | .i64Const _ => some ⟨[], [.i64]⟩
  | .f32Const _ => some ⟨[], [.f32]⟩
  | .f64Const _ => some ⟨[], [.f64]⟩
  | .numeric opcode => numericSignature opcode
  | .refNull => some ⟨[], [.funcRef]⟩
  | .refIsNull => some ⟨[.funcRef], [.i32]⟩
  | .refFunc function =>
      if function < cx.module.functionCount ∧ Referable cx.module function then
        some ⟨[], [.funcRef]⟩
      else
        none
  | .truncSat subopcode => truncSatSignature subopcode
  | .memoryInit data memory => do
      knownData cx data ⟨[.i32, .i32, ← memoryAddress cx memory], []⟩
  | .dataDrop data => knownData cx data ⟨[], []⟩
  | .memoryCopy destination source => do
      let destination ← memoryAddress cx destination
      let source ← memoryAddress cx source
      let length := if destination = .i64 ∧ source = .i64 then .i64 else .i32
      some ⟨[length, source, destination], []⟩
  | .memoryFill memory => do
      let address ← memoryAddress cx memory
      some ⟨[address, .i32, address], []⟩
  | .tableInit element table =>
      (knownElement cx element ⟨[.i32, .i32, .i32], []⟩).bind (knownTable cx table)
  | .elemDrop element => knownElement cx element ⟨[], []⟩
  | .tableCopy destination source =>
      (knownTable cx destination ⟨[.i32, .i32, .i32], []⟩).bind (knownTable cx source)
  | .tableGrow table => knownTable cx table ⟨[.i32, .funcRef], [.i32]⟩
  | .tableSize table => knownTable cx table ⟨[], [.i32]⟩
  | .tableFill table => knownTable cx table ⟨[.i32, .funcRef, .i32], []⟩
  | .simd subopcode immediate => do
      some (simdSignature (← simdAddress cx subopcode immediate) subopcode)

theorem memoryAddress_lt {cx : Context} {memory : Nat} {address : ValueType}
    (found : memoryAddress cx memory = some address) : memory < cx.module.memoryCount := by
  obtain ⟨type, typeFound, -⟩ := Option.map_eq_some_iff.mp found
  exact cx.module.memoryType_lt typeFound

theorem memargAddress_lt {cx : Context} {alignment : Nat} {arg : Memarg} {address : ValueType}
    (found : memargAddress cx alignment arg = some address) :
    arg.memory < cx.module.memoryCount := by
  unfold memargAddress at found
  split at found
  · cases found
  · next typeFound => exact cx.module.memoryType_lt typeFound

/-- An instruction with a signature names only memories that exist. -/
theorem plainSignature_memories {cx : Context} {instr : Plain} {signature : Signature}
    (found : plainSignature cx instr = some signature) :
    ∀ memory ∈ instr.memories, memory < cx.module.memoryCount := by
  intro memory named
  cases instr <;>
    simp only [Plain.memories, List.mem_cons, List.not_mem_nil, or_false] at named
  case load | store =>
    subst named
    obtain ⟨address, addressFound, -⟩ := Option.bind_eq_some_iff.mp found
    exact memargAddress_lt addressFound
  case memorySize | memoryGrow | memoryFill | memoryInit =>
    subst named
    obtain ⟨address, addressFound, -⟩ := Option.bind_eq_some_iff.mp found
    exact memoryAddress_lt addressFound
  case memoryCopy destination source =>
    obtain ⟨destinationAddress, destinationFound, found⟩ := Option.bind_eq_some_iff.mp found
    obtain ⟨sourceAddress, sourceFound, -⟩ := Option.bind_eq_some_iff.mp found
    rcases named with rfl | rfl
    · exact memoryAddress_lt destinationFound
    · exact memoryAddress_lt sourceFound
  case simd subopcode immediate =>
    obtain ⟨address, addressFound, -⟩ := Option.bind_eq_some_iff.mp found
    cases immediate <;>
      simp only [List.mem_cons, List.not_mem_nil, or_false] at named
    all_goals
      subst named
      exact memargAddress_lt addressFound

/-- Typing of a plain instruction.  `drop` and the untyped `select` work at
every type; the strict rules restrict the latter to numbers and vectors. -/
inductive PlainTyped (strict : Bool) (cx : Context) : Plain → Signature → Prop where
  | drop (type : ValueType) : PlainTyped strict cx .drop ⟨[type], []⟩
  | select (type : ValueType) :
      (strict = true → type ≠ .funcRef) →
      PlainTyped strict cx .select ⟨[.i32, type, type], [type]⟩
  | fixed {instr : Plain} {signature : Signature} :
      plainSignature cx instr = some signature →
      PlainTyped strict cx instr signature

/-! ## Instruction sequences -/

/-- Typing of an instruction that opens no block, in a context whose enclosing
labels, innermost first, take the given operand types.  In each rule `rest` is
the part of the stack that the instruction does not touch.  What follows an
instruction that control leaves starts from any stack type. -/
inductive SimpleTyped (strict : Bool) (cx : Context) (labels : List (List ValueType)) :
    Simple → List ValueType → List ValueType → Prop where
  | plain {instr : Plain} {signature : Signature} {rest : List ValueType} :
      PlainTyped strict cx instr signature →
      SimpleTyped strict cx labels (.plain instr) (signature.ins ++ rest)
        (signature.outs ++ rest)
  | unreachable {ins outs : List ValueType} :
      SimpleTyped strict cx labels .unreachable ins outs
  | br {depth : Nat} {label rest outs : List ValueType} :
      labels[depth]? = some label →
      SimpleTyped strict cx labels (.br depth) (label ++ rest) outs
  | brIf {depth : Nat} {label rest : List ValueType} :
      labels[depth]? = some label →
      SimpleTyped strict cx labels (.brIf depth) (.i32 :: label ++ rest) (label ++ rest)
  | brTable {depths : List Nat} {default : Nat} {label rest outs : List ValueType} :
      (∀ depth ∈ default :: depths, labels[depth]? = some label) →
      SimpleTyped strict cx labels (.brTable depths default) (.i32 :: label ++ rest) outs
  | return {rest outs : List ValueType} :
      SimpleTyped strict cx labels .return (cx.results.reverse ++ rest) outs
  | call {function : Nat} {type : FuncType} {rest : List ValueType} :
      cx.module.functionType function = some type →
      SimpleTyped strict cx labels (.call function) (type.params.reverse ++ rest)
        (type.results.reverse ++ rest)
  | callIndirect {typeIndex table : Nat} {type : FuncType} {rest : List ValueType} :
      table < cx.module.tableCount →
      cx.module.types[typeIndex]? = some type →
      SimpleTyped strict cx labels (.callIndirect typeIndex table)
        (.i32 :: type.params.reverse ++ rest) (type.results.reverse ++ rest)
  | returnCall {function : Nat} {type : FuncType} {rest outs : List ValueType} :
      cx.module.functionType function = some type →
      type.results = cx.results →
      SimpleTyped strict cx labels (.returnCall function) (type.params.reverse ++ rest) outs
  | returnCallIndirect {typeIndex table : Nat} {type : FuncType}
      {rest outs : List ValueType} :
      table < cx.module.tableCount →
      cx.module.types[typeIndex]? = some type →
      type.results = cx.results →
      SimpleTyped strict cx labels (.returnCallIndirect typeIndex table)
        (.i32 :: type.params.reverse ++ rest) outs

/-- `SeqTyped strict cx labels instrs ins outs`: the sequence `instrs` turns a
stack of type `ins` into one of type `outs`.  The body of a block starts with the
parameters alone, so nothing in it reaches below the block's entry. -/
inductive SeqTyped (strict : Bool) (cx : Context) :
    List (List ValueType) → Instrs → List ValueType → List ValueType → Prop where
  | done {labels : List (List ValueType)} {types : List ValueType} :
      SeqTyped strict cx labels .done types types
  | simple {labels : List (List ValueType)} {instr : Simple} {next : Instrs}
      {ins middle outs : List ValueType} :
      SimpleTyped strict cx labels instr ins middle →
      (strict = true ∨ instr.leaves = false →
        SeqTyped strict cx labels next middle outs) →
      SeqTyped strict cx labels (.simple instr next) ins outs
  | block {labels : List (List ValueType)} {loops : Bool} {signature : BlockSignature}
      {body next : Instrs} {rest outs : List ValueType} :
      SeqTyped strict cx ((signature.labelTypes loops).reverse :: labels) body
        signature.params.reverse signature.results.reverse →
      SeqTyped strict cx labels next (signature.results.reverse ++ rest) outs →
      SeqTyped strict cx labels (.block loops signature body next)
        (signature.params.reverse ++ rest) outs
  | ifThen {labels : List (List ValueType)} {signature : BlockSignature}
      {body next : Instrs} {rest outs : List ValueType} :
      (strict = true → signature.params = signature.results) →
      (strict = false → signature.results = []) →
      SeqTyped strict cx (signature.results.reverse :: labels) body
        signature.params.reverse signature.results.reverse →
      SeqTyped strict cx labels next (signature.results.reverse ++ rest) outs →
      SeqTyped strict cx labels (.ifThen signature body next)
        (.i32 :: signature.params.reverse ++ rest) outs
  | ifElse {labels : List (List ValueType)} {signature : BlockSignature}
      {body alternative next : Instrs} {rest outs : List ValueType} :
      SeqTyped strict cx (signature.results.reverse :: labels) body
        signature.params.reverse signature.results.reverse →
      SeqTyped strict cx (signature.results.reverse :: labels) alternative
        signature.params.reverse signature.results.reverse →
      SeqTyped strict cx labels next (signature.results.reverse ++ rest) outs →
      SeqTyped strict cx labels (.ifElse signature body alternative next)
        (.i32 :: signature.params.reverse ++ rest) outs

/-- A body of the context's function: it starts on the empty stack and its only
label is the function itself. -/
def BodyTyped (strict : Bool) (cx : Context) (instrs : Instrs) : Prop :=
  SeqTyped strict cx [cx.results.reverse] instrs [] cx.results.reverse

end MiniWasm.Spec
