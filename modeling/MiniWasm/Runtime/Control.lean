import MiniWasm.Runtime.Decode

/-!
# The control scanner

One pass over the bytes of a function body, before it first runs, that records
for every `block`, `loop` and `if` where its body, its `else` and its `end`
stand.  Pending openers are a list with the innermost at the head.
-/

namespace MiniWasm.Runtime

structure ControlInfo where
  kind : ControlKind
  bodyPc : Nat
  elsePc : Option Nat
  endPc : Nat
  signature : BlockSignature
  deriving DecidableEq, Repr

structure ControlMap where
  /-- Indexed by the position of the opener. -/
  openers : List (Option ControlInfo)
  deriving DecidableEq, Repr

def ControlMap.info (controlMap : ControlMap) (opener : Nat) : Run ControlInfo :=
  match controlMap.openers[opener]? with
  | some (some info) => .ok info
  | _ =>
      .error (.controlInvariant "structured-control opener has no boundary metadata")

structure PendingControl where
  opener : Nat
  kind : ControlKind
  bodyPc : Nat
  elsePc : Option Nat
  signature : BlockSignature
  deriving DecidableEq, Repr

structure ScanState where
  openers : List (Option ControlInfo)
  pending : List PendingControl
  deriving DecidableEq, Repr

variable (code : List UInt8) (pc : Nat)

def skipU32 : Run Nat := do
  let (_, pc) ← readU32Immediate code pc
  return pc

def skipU32Pair : Run Nat := do
  let pc ← skipU32 code pc
  skipU32 code pc

/-- The loop over the listed targets of a branch table. -/
def skipTargets : (count pc : Nat) → Run Nat
  | 0, pc => .ok pc
  | count + 1, pc => do
      let pc ← skipU32 code pc
      skipTargets count pc

def skipMemarg : Run Nat := do
  let (_, pc) ← readMemarg code pc
  return pc

/-- The name under which the scanner reports a bad lane. -/
def scannedLane (subopcode : Nat) : String :=
  if 84 ≤ subopcode ∧ subopcode ≤ 87 then "SIMD lane-load"
  else if 88 ≤ subopcode ∧ subopcode ≤ 91 then "SIMD lane-store"
  else if 21 ≤ subopcode ∧ subopcode ≤ 23 then "i8x16 lane"
  else if 24 ≤ subopcode ∧ subopcode ≤ 26 then "i16x8 lane"
  else if subopcode ∈ [27, 28, 31, 32] then "four-lane SIMD"
  else "two-lane SIMD"

def scannedIndex (subopcode : Nat) : String :=
  if 21 ≤ subopcode ∧ subopcode ≤ 26 then scannedLane subopcode
  else scannedLane subopcode ++ " lane"

def skipLane (subopcode : Nat) : Run Nat := do
  let (lane, pc) ← readByte code pc (.controlInvariant
    ("validated " ++ scannedLane subopcode ++ " immediate is missing while scanning control"))
  if laneLimit subopcode ≤ lane.toNat then
    .error (.controlInvariant
      ("validated " ++ scannedIndex subopcode ++ " is out of bounds while scanning control"))
  else
    return pc

def skipShuffle : Run Nat := do
  let (lanes, pc) ← readBytes code pc 16 (.controlInvariant
    "validated i8x16.shuffle immediate is missing while scanning control")
  if lanes.any (32 ≤ ·.toNat) then
    .error (.controlInvariant
      "validated i8x16.shuffle lane is out of bounds while scanning control")
  else
    return pc

/-- Vector opcodes without an immediate. -/
def bareSimd (subopcode : Nat) : Bool :=
  14 ≤ subopcode && subopcode ≤ 20 || 35 ≤ subopcode && subopcode ≤ 64 ||
  77 ≤ subopcode && subopcode ≤ 83 || 94 ≤ subopcode && subopcode ≤ 153 ||
  155 ≤ subopcode && subopcode ≤ 161 || 163 ≤ subopcode && subopcode ≤ 164 ||
  167 ≤ subopcode && subopcode ≤ 174 || subopcode == 177 ||
  181 ≤ subopcode && subopcode ≤ 186 || 188 ≤ subopcode && subopcode ≤ 193 ||
  195 ≤ subopcode && subopcode ≤ 196 || 199 ≤ subopcode && subopcode ≤ 206 ||
  subopcode == 209 || 213 ≤ subopcode && subopcode ≤ 225 ||
  227 ≤ subopcode && subopcode ≤ 237 || 239 ≤ subopcode && subopcode ≤ 275

def scanSimd : Run Nat := do
  let (subopcode, pc) ← readU32Immediate code pc
  if subopcode ≤ 11 then
    skipMemarg code pc
  else if 84 ≤ subopcode ∧ subopcode ≤ 91 then
    let pc ← skipMemarg code pc
    skipLane code pc subopcode
  else if subopcode = 12 then
    let (_, pc) ← readBytes code pc 16 (.controlInvariant
      "validated v128.const immediate is missing while scanning control")
    return pc
  else if subopcode = 13 then
    skipShuffle code pc
  else if bareSimd subopcode then
    return pc
  else if 21 ≤ subopcode ∧ subopcode ≤ 34 then
    skipLane code pc subopcode
  else if subopcode = 92 ∨ subopcode = 93 then
    skipMemarg code pc
  else
    .error (.unsupportedPrefixedOpcode 0xfd subopcode)

def scanMisc : Run Nat := do
  let (subopcode, pc) ← readU32Immediate code pc
  if subopcode ≤ 7 then return pc
  else if subopcode ∈ [8, 10, 12, 14] then skipU32Pair code pc
  else if subopcode ∈ [9, 11, 13, 15, 16, 17] then skipU32 code pc
  else .error (.unsupportedPrefixedOpcode 0xfc subopcode)

/-- Skip the immediates of an instruction that neither opens nor closes a
block. -/
def scanImmediates (opcode : Nat) : Run Nat := do
  if opcode ∈ [0x0c, 0x0d, 0x10, 0x12, 0x3f, 0x40] ∨ 0x20 ≤ opcode ∧ opcode ≤ 0x26 then
    skipU32 code pc
  else if opcode = 0x0e then
    let (targetCount, pc) ← readU32Immediate code pc
    let pc ← skipTargets code targetCount pc
    skipU32 code pc
  else if opcode = 0x11 ∨ opcode = 0x13 then skipU32Pair code pc
  else if opcode = 0x1c then
    let (_, pc) ← readTypedSelectType code pc
    return pc
  else if 0x28 ≤ opcode ∧ opcode ≤ 0x3e then skipMemarg code pc
  else if opcode = 0x41 then
    let (_, pc) ← readWith code pc decodeI32
    return pc
  else if opcode = 0x42 then
    let (_, pc) ← readWith code pc decodeI64
    return pc
  else if opcode = 0x43 then
    let (_, pc) ← readFixedU32 code pc
    return pc
  else if opcode = 0x44 then
    let (_, pc) ← readFixedU64 code pc
    return pc
  else if opcode ∈ [0x00, 0x01, 0x0f, 0x1a, 0x1b] ∨ 0x45 ≤ opcode ∧ opcode ≤ 0xc4 then
    return pc
  else if opcode = 0xd0 then readReferenceType code pc
  else if opcode = 0xd1 then return pc
  else if opcode = 0xd2 then skipU32 code pc
  else if opcode = 0xfd then scanSimd code pc
  else if opcode = 0xfc then scanMisc code pc
  else .error (.unsupportedOpcode opcode)

/-- Kind of block that an opener starts. -/
def openerKind (opcode : Nat) : ControlKind :=
  if opcode = 0x02 then .block else if opcode = 0x03 then .loop else .if

def scanElse (offset : Nat) (state : ScanState) : Run ScanState :=
  match state.pending with
  | [] => .error (.controlInvariant "else has no pending structured-control opener")
  | frame :: outer =>
      if frame.kind ≠ .if ∨ frame.elsePc.isSome then
        .error (.controlInvariant "else does not match exactly one if")
      else
        .ok { state with pending := { frame with elsePc := some offset } :: outer }

def scanEnd (offset : Nat) (state : ScanState) : Run ScanState :=
  match state.pending with
  | frame :: outer =>
      let info : ControlInfo :=
        { kind := frame.kind, bodyPc := frame.bodyPc, elsePc := frame.elsePc
          endPc := offset, signature := frame.signature }
      .ok { openers := state.openers.set frame.opener (some info), pending := outer }
  | [] =>
      if pc ≠ code.length then
        .error (.controlInvariant "function end occurs before final byte")
      else
        .ok state

variable (types : List FuncType)

/-- The body of the scanner's loop for the instruction at `offset`. -/
def scanOp (offset : Nat) (state : ScanState) (opcode : Nat) : Run (ScanState × Nat) := do
  if 0x02 ≤ opcode ∧ opcode ≤ 0x04 then
    let (signature, pc) ← readBlockSignature code pc types
    let frame : PendingControl :=
      { opener := offset, kind := openerKind opcode, bodyPc := pc, elsePc := none
        signature }
    return ({ state with pending := frame :: state.pending }, pc)
  else if opcode = 0x05 then
    return (← scanElse offset state, pc)
  else if opcode = 0x0b then
    return (← scanEnd code pc offset state, pc)
  else
    return (state, ← scanImmediates code pc opcode)

/-- The scanner's loop.  Every instruction takes at least its opcode byte, so
`code.length` rounds reach the end of the body. -/
def scanFrom : (rounds : Nat) → ScanState × Nat → Run (ScanState × Nat)
  | 0, current => .ok current
  | rounds + 1, (state, pc) =>
      match code[pc]? with
      | none => .ok (state, pc)
      | some opcode => do
          let current ← scanOp code (pc + 1) types pc state opcode.toNat
          scanFrom rounds current

def initialScan : ScanState where
  openers := List.replicate code.length none
  pending := []

def buildControlMap : Run ControlMap := do
  let (state, _) ← scanFrom code types code.length (initialScan code, 0)
  if state.pending ≠ [] then
    .error (.controlInvariant "structured control is not fully closed")
  else
    return { openers := state.openers }

end MiniWasm.Runtime
