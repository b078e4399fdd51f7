import MiniWasm.Parser.Module

/-!
# Decoded instructions

The program keeps function bodies as raw bytes and decodes them three times: in
the validator, in the control scanner and in the interpreter.  This module only
fixes the vocabulary in which the results of those decoders are compared.  An
instruction that neither transfers control nor opens a block is a `Plain`
value: its opcode with its immediates read.
-/

namespace MiniWasm

/-- Parameters and results of a block, loop or if. -/
structure BlockSignature where
  params : List ValueType
  results : List ValueType
  deriving DecidableEq, Repr, Inhabited

inductive ControlKind where
  | function
  | block
  | loop
  | if
  deriving DecidableEq, Repr, Inhabited

structure Memarg where
  alignment : Nat
  memory : Nat
  offset : Nat
  deriving DecidableEq, Repr

/-- The immediates that follow a vector opcode. -/
inductive SimdShape where
  | none
  | memarg
  /-- A memory argument and a lane number below the limit. -/
  | memargLane (limit : Nat)
  | bytes
  | shuffle
  | lane (limit : Nat)
  deriving DecidableEq, Repr

inductive SimdImmediate where
  | none
  | memarg (arg : Memarg)
  | memargLane (arg : Memarg) (lane : Nat)
  | bytes (value : List UInt8)
  | shuffle (lanes : List UInt8)
  | lane (lane : Nat)
  deriving DecidableEq, Repr

/-- An instruction with straight-line control flow. -/
inductive Plain where
  | nop
  | drop
  | select
  | selectTyped (type : ValueType)
  | localGet (index : Nat)
  | localSet (index : Nat)
  | localTee (index : Nat)
  | globalGet (index : Nat)
  | globalSet (index : Nat)
  | tableGet (table : Nat)
  | tableSet (table : Nat)
  | load (opcode : Nat) (arg : Memarg)
  | store (opcode : Nat) (arg : Memarg)
  | memorySize (memory : Nat)
  | memoryGrow (memory : Nat)
  | i32Const (value : BitVec 32)
  | i64Const (value : BitVec 64)
  | f32Const (bits : BitVec 32)
  | f64Const (bits : BitVec 64)
  /-- The comparisons, arithmetic, conversions and sign extensions
  `0x45 ..= 0xc4`. -/
  | numeric (opcode : Nat)
  | refNull
  | refIsNull
  | refFunc (function : Nat)
  | truncSat (subopcode : Nat)
  | memoryInit (data memory : Nat)
  | dataDrop (data : Nat)
  | memoryCopy (destination source : Nat)
  | memoryFill (memory : Nat)
  | tableInit (element table : Nat)
  | elemDrop (element : Nat)
  | tableCopy (destination source : Nat)
  | tableGrow (table : Nat)
  | tableSize (table : Nat)
  | tableFill (table : Nat)
  | simd (subopcode : Nat) (immediate : SimdImmediate)
  deriving DecidableEq, Repr

/-- An instruction that opens no block. -/
inductive Simple where
  | plain (instr : Plain)
  | unreachable
  | br (depth : Nat)
  | brIf (depth : Nat)
  | brTable (depths : List Nat) (default : Nat)
  | return
  | call (function : Nat)
  | callIndirect (type table : Nat)
  | returnCall (function : Nat)
  | returnCallIndirect (type table : Nat)
  deriving DecidableEq, Repr

/-- Memories that the immediates of an instruction name. -/
def Plain.memories : Plain → List Nat
  | .load _ arg | .store _ arg => [arg.memory]
  | .memorySize memory | .memoryGrow memory | .memoryFill memory => [memory]
  | .memoryInit _ memory => [memory]
  | .memoryCopy destination source => [destination, source]
  | .simd _ (.memarg arg) | .simd _ (.memargLane arg _) => [arg.memory]
  | _ => []

def Simple.memories : Simple → List Nat
  | .plain instr => instr.memories
  | _ => []

/-- Control never falls through to what follows. -/
def Simple.leaves : Simple → Bool
  | .unreachable | .br _ | .brTable _ _ | .return | .returnCall _ | .returnCallIndirect _ _ =>
      true
  | .plain _ | .brIf _ | .call _ | .callIndirect _ _ => false

/-- A structured instruction sequence.  Every instruction carries the sequence
that follows it.  A `block` that `loops` is a `loop`; the two constructors for
`if` separate the form without an `else` arm from the form with one. -/
inductive Instrs where
  | done
  | simple (instr : Simple) (next : Instrs)
  | block (loops : Bool) (signature : BlockSignature) (body next : Instrs)
  | ifThen (signature : BlockSignature) (body next : Instrs)
  | ifElse (signature : BlockSignature) (body alternative next : Instrs)
  deriving DecidableEq, Repr

/-- Every instruction of the sequence that opens no block satisfies the
predicate. -/
def Instrs.Every (predicate : Simple → Prop) : Instrs → Prop
  | .done => True
  | .simple instr next => predicate instr ∧ next.Every predicate
  | .block _ _ body next => body.Every predicate ∧ next.Every predicate
  | .ifThen _ body next => body.Every predicate ∧ next.Every predicate
  | .ifElse _ body alternative next =>
      body.Every predicate ∧ alternative.Every predicate ∧ next.Every predicate

/-- Operand types that a branch to the block takes, in source order. -/
def BlockSignature.labelTypes (signature : BlockSignature) (loops : Bool) : List ValueType :=
  if loops then signature.params else signature.results

def ControlKind.ofBlock (loops : Bool) : ControlKind :=
  if loops then .loop else .block

/-- A block that is being executed, as control sees it: a branch to a loop runs
the body again, and a branch to any other block goes on behind it. -/
structure Label where
  loops : Bool
  signature : BlockSignature
  body : Instrs
  next : Instrs
  deriving DecidableEq, Repr

/-- Operand types that a branch to the label takes, in source order. -/
def Label.types (label : Label) : List ValueType :=
  label.signature.labelTypes label.loops

end MiniWasm
