import MiniWasm.Runtime.Scanning

/-!
# The interpreter's loop on decoded instructions

At an instruction that the grammar finds, one round of the interpreter's loop
does what the decoded instruction says.  The equations of this module are where
the bytes of the body drop out of the later arguments.
-/

namespace MiniWasm.Runtime

open Library

variable {σ : Type}

/-- The arms of the instructions that open no block, without their decoding.
The frame's program counter stands behind the instruction. -/
def executeSimple (inst : Instance σ) (store : Store σ) (frame : GuestFrame) :
    Simple → Run (Store σ × FrameStep)
  | .plain instr => do
      let state ← executePlain inst frame.localTypes
        { store, locals := frame.locals, stack := frame.stack } instr
      return (state.store, .running { frame with locals := state.locals, stack := state.stack })
  | .unreachable => .error .unreachable
  | .br depth => do return (store, .running (← branchTo frame depth))
  | .brIf depth => do
      let (condition, stack) ← i32FromStack frame.stack
      if condition ≠ 0 then
        return (store, .running (← branchTo { frame with stack } depth))
      else
        return (store, .running { frame with stack })
  | .brTable depths default => do
      let (selector, stack) ← i32FromStack frame.stack
      let depth := depths[selector.toNat]?.getD default
      return (store, .running (← branchTo { frame with stack } depth))
  | .return => do return (store, .running (← executeReturn frame))
  | .call function => do
      let type ← inst.functionType function
      let (args, stack) ← splitArgs frame.stack type.params.length
      return (store, .outcome (.call { frame with stack } function args))
  | .callIndirect type table => do
      let (element, stack) ← i32FromStack frame.stack
      let (callee, calleeType) ← inst.resolveIndirectCallee store type table element.toNat
      let (args, stack) ← splitArgs stack calleeType.params.length
      return (store, .outcome (.call { frame with stack } callee args))
  | .returnCall function => do
      let type ← inst.functionType function
      if type.results ≠ frame.resultTypes then
        .error (.controlInvariant "validated return_call result type mismatch")
      else
        let (args, _) ← splitArgs frame.stack type.params.length
        return (store, .outcome (.tailCall function args))
  | .returnCallIndirect type table => do
      let (element, stack) ← i32FromStack frame.stack
      let (callee, calleeType) ← inst.resolveIndirectCallee store type table element.toNat
      if calleeType.results ≠ frame.resultTypes then
        .error (.controlInvariant "validated return_call_indirect result type mismatch")
      else
        let (args, _) ← splitArgs stack calleeType.params.length
        return (store, .outcome (.tailCall callee args))

section Equations

variable {inst : Instance σ} {store : Store σ} {budget : ExecutionBudget} {frame : GuestFrame}

/-- A round of the loop at an opcode. -/
theorem frameStep_opcode {opcode : UInt8} (found : frame.code[frame.pc]? = some opcode) :
    frameStep inst store budget frame = (do
      let budget ← budget.consumeInstruction
      let (store, step) ←
        executeOp inst store { frame with pc := frame.pc + 1 } frame.pc opcode.toNat
      return (store, budget, step)) := by
  rw [frameStep, found]

variable {pc' : Nat}

theorem executeOp_plain {opcode : UInt8} {instr : Plain}
    (notBlock : opcode.toNat ∉ Spec.blockOpcodes)
    (notControl : opcode.toNat ∉ [0x00, 0x0c, 0x0d, 0x0e, 0x0f, 0x10, 0x11, 0x12, 0x13])
    (decoded : Spec.plainImmediates frame.code opcode.toNat (frame.pc + 1) = some (instr, pc'))
    (known : ∀ memory ∈ instr.memories, memory < store.memories.length) :
    executeOp inst store { frame with pc := frame.pc + 1 } frame.pc opcode.toNat =
      executeSimple inst store { frame with pc := pc' } (.plain instr) := by
  simp only [Spec.blockOpcodes, List.mem_cons, List.not_mem_nil, or_false, not_or] at notBlock
  simp only [List.mem_cons, List.not_mem_nil, or_false, not_or] at notControl
  obtain ⟨n2, n3, n4, n5, nb⟩ := notBlock
  obtain ⟨n0, nc, nd, ne, nf, n10, n11, n12, n13⟩ := notControl
  rw [executeOp, if_neg n0, if_neg n2, if_neg n3, if_neg n4, if_neg n5, if_neg nb, if_neg nc,
    if_neg nd, if_neg ne, if_neg nf, if_neg n10, if_neg n11, if_neg n12, if_neg n13]
  simp only [executePlainOp, readPlain_of decoded known, ok_bind]
  rfl

/-- At an instruction that opens no block the loop executes it. -/
theorem executeOp_simple {opcode : UInt8} {instr : Simple}
    (notBlock : opcode.toNat ∉ Spec.blockOpcodes)
    (decoded : Spec.simpleImmediates frame.code opcode.toNat (frame.pc + 1) =
      some (instr, pc'))
    (known : ∀ memory ∈ instr.memories, memory < store.memories.length) :
    executeOp inst store { frame with pc := frame.pc + 1 } frame.pc opcode.toNat =
      executeSimple inst store { frame with pc := pc' } instr := by
  have immediates := decoded
  unfold Spec.simpleImmediates at decoded
  simp only [Option.bind_eq_bind] at decoded
  replace decoded := ite_cases decoded
  rcases decoded with ⟨is00, decoded⟩ | ⟨n00, decoded⟩
  · cases decoded
    rw [is00]
    rfl
  replace decoded := ite_cases decoded
  rcases decoded with ⟨is0c, decoded⟩ | ⟨n0c, decoded⟩
  · simp only [Option.bind_eq_some_iff, Prod.exists] at decoded
    obtain ⟨depth, _, depthAt, same⟩ := decoded
    cases same
    rw [is0c]
    simp [executeOp, executeBr, readU32_of depthAt, executeSimple]
  replace decoded := ite_cases decoded
  rcases decoded with ⟨is0d, decoded⟩ | ⟨n0d, decoded⟩
  · simp only [Option.bind_eq_some_iff, Prod.exists] at decoded
    obtain ⟨depth, _, depthAt, same⟩ := decoded
    cases same
    rw [is0d]
    simp only [executeOp, executeBrIf, readU32_of depthAt, executeSimple, ok_bind]
    cases popped : i32FromStack frame.stack with
    | error err => rfl
    | ok value =>
        simp only [ok_bind]
        by_cases taken : value.1 ≠ 0
        · simp only [if_pos taken]
          rfl
        · simp only [if_neg taken]
          rfl
  replace decoded := ite_cases decoded
  rcases decoded with ⟨is0e, decoded⟩ | ⟨n0e, decoded⟩
  · simp only [Option.bind_eq_some_iff, Prod.exists] at decoded
    obtain ⟨count, _, countAt, depths, _, depthsAt, default, _, defaultAt, same⟩ := decoded
    cases same
    rw [is0e]
    simp only [executeOp, executeBrTable, readU32_of countAt, executeSimple, ok_bind]
    cases popped : i32FromStack frame.stack with
    | error err => rfl
    | ok value =>
        simp only [ok_bind, selectTarget_of depthsAt, readU32_of defaultAt, Nat.zero_le,
          if_true, Nat.sub_zero, Option.or_none]
        rfl
  replace decoded := ite_cases decoded
  rcases decoded with ⟨is0f, decoded⟩ | ⟨n0f, decoded⟩
  · cases decoded
    rw [is0f]
    rfl
  replace decoded := ite_cases decoded
  rcases decoded with ⟨is10, decoded⟩ | ⟨n10, decoded⟩
  · simp only [Option.bind_eq_some_iff, Prod.exists] at decoded
    obtain ⟨function, _, functionAt, same⟩ := decoded
    cases same
    rw [is10]
    simp [executeOp, executeCall, readU32_of functionAt, executeSimple]
  replace decoded := ite_cases decoded
  rcases decoded with ⟨is11, decoded⟩ | ⟨n11, decoded⟩
  · simp only [Option.bind_eq_some_iff, Prod.exists] at decoded
    obtain ⟨type, _, typeAt, table, _, tableAt, same⟩ := decoded
    cases same
    rw [is11]
    simp [executeOp, executeCallIndirect, readIndirectCallee, readU32_of typeAt,
      readU32_of tableAt, executeSimple]
  replace decoded := ite_cases decoded
  rcases decoded with ⟨is12, decoded⟩ | ⟨n12, decoded⟩
  · simp only [Option.bind_eq_some_iff, Prod.exists] at decoded
    obtain ⟨function, _, functionAt, same⟩ := decoded
    cases same
    rw [is12]
    have dispatch : executeOp inst store { frame with pc := frame.pc + 1 } frame.pc 0x12 = (do
        let outcome ← executeReturnCall inst { frame with pc := frame.pc + 1 }
        return (store, .outcome outcome)) := rfl
    simp only [dispatch, executeReturnCall, readU32_of functionAt, executeSimple, ok_bind]
    cases inst.functionType function with
    | error err => rfl
    | ok type => by_cases same : type.results = frame.resultTypes <;> simp [same]
  replace decoded := ite_cases decoded
  rcases decoded with ⟨is13, decoded⟩ | ⟨n13, decoded⟩
  · simp only [Option.bind_eq_some_iff, Prod.exists] at decoded
    obtain ⟨type, _, typeAt, table, _, tableAt, same⟩ := decoded
    cases same
    rw [is13]
    have dispatch : executeOp inst store { frame with pc := frame.pc + 1 } frame.pc 0x13 = (do
        let outcome ← executeReturnCallIndirect inst store { frame with pc := frame.pc + 1 }
        return (store, .outcome outcome)) := rfl
    simp only [dispatch, executeReturnCallIndirect, readIndirectCallee, readU32_of typeAt,
      readU32_of tableAt, executeSimple, ok_bind]
    cases i32FromStack frame.stack with
    | error err => rfl
    | ok popped =>
        simp only [ok_bind]
        cases inst.resolveIndirectCallee store type table popped.1.toNat with
        | error err => rfl
        | ok callee => by_cases same : callee.2.results = frame.resultTypes <;> simp [same, pure_ok]
  · simp only [Option.bind_eq_some_iff, Prod.exists] at decoded
    obtain ⟨plain, _, plainAt, same⟩ := decoded
    cases same
    exact executeOp_plain notBlock
      (by simp [n00, n0c, n0d, n0e, n0f, n10, n11, n12, n13]) plainAt known

theorem frameStep_simple {instr : Simple}
    (decoded : Spec.simpleAt frame.code frame.pc = some (instr, pc'))
    (known : ∀ memory ∈ instr.memories, memory < store.memories.length) :
    frameStep inst store budget frame = (do
      let budget ← budget.consumeInstruction
      let (store, step) ← executeSimple inst store { frame with pc := pc' } instr
      return (store, budget, step)) := by
  obtain ⟨opcode, found, notBlock, immediates⟩ := Spec.simpleAt_opcode decoded
  rw [frameStep_opcode found, executeOp_simple notBlock immediates known]

/-! ## Blocks -/

variable {types : List FuncType} {bodyPc endPc : Nat} {signature : BlockSignature}

/-- The control frame of a block. -/
def ExecControlFrame.ofBlock (kind : ControlKind) (signature : BlockSignature)
    (bodyPc endPc stackHeight : Nat) : ExecControlFrame where
  kind
  bodyPc
  endPc
  stackHeight
  paramTypes := signature.params
  resultTypes := signature.results

/-- The arms of `block` and `loop`, with the block known. -/
def enterBlock (frame : GuestFrame) (kind : ControlKind) (signature : BlockSignature)
    (bodyPc endPc : Nat) : Run GuestFrame := do
  let stackHeight ← controlEntryHeight frame.stack signature.params
  return { frame with
            pc := bodyPc
            controls := .ofBlock kind signature bodyPc endPc stackHeight :: frame.controls }

theorem frameStep_block {loops : Bool}
    (faithful : frame.controlMap.Faithful inst.module.types frame.code)
    (boundary : Spec.Boundary inst.module.types frame.code frame.pc)
    (opcode : frame.code[frame.pc]? = some (Spec.blockOpcode loops))
    (decoded : Spec.blockType frame.code inst.module.types (frame.pc + 1) =
      some (signature, bodyPc))
    (block : Spec.BlockAt inst.module.types frame.code frame.pc (.ofBlock loops) signature
      bodyPc none endPc) :
    frameStep inst store budget frame = (do
      let budget ← budget.consumeInstruction
      let frame ← enterBlock frame (.ofBlock loops) signature bodyPc endPc
      return (store, budget, .running frame)) := by
  have info := faithful _ _ _ _ _ _ boundary block
  have dispatch : executeOp inst store { frame with pc := frame.pc + 1 } frame.pc
      (Spec.blockOpcode loops).toNat = (do
        let frame ← executeBlock inst { frame with pc := frame.pc + 1 } frame.pc (.ofBlock loops)
        return (store, .running frame)) := by
    cases loops <;> rfl
  rw [frameStep_opcode opcode, dispatch]
  simp only [executeBlock, readBlockSignature_of decoded, info, ensureControlInfo, ne_eq,
    not_true_eq_false, or_self, if_false, ok_bind, enterBlock, bind_assoc, pure_bind]
  rfl

/-- The arm of `if`, with the block known. -/
def enterIf (frame : GuestFrame) (signature : BlockSignature) (bodyPc : Nat)
    (elsePc : Option Nat) (endPc : Nat) : Run GuestFrame := do
  let (condition, stack) ← i32FromStack frame.stack
  if condition ≠ 0 then
    enterBlock { frame with stack } .if signature bodyPc endPc
  else do
    let stackHeight ← controlEntryHeight stack signature.params
    match elsePc with
    | some elsePc =>
        return { frame with
                  stack, pc := elsePc + 1
                  controls := .ofBlock .if signature bodyPc endPc stackHeight :: frame.controls }
    | none => return { frame with stack := truncate stack stackHeight, pc := endPc + 1 }

theorem frameStep_if {elsePc : Option Nat}
    (faithful : frame.controlMap.Faithful inst.module.types frame.code)
    (boundary : Spec.Boundary inst.module.types frame.code frame.pc)
    (opcode : frame.code[frame.pc]? = some 0x04)
    (decoded : Spec.blockType frame.code inst.module.types (frame.pc + 1) =
      some (signature, bodyPc))
    (block : Spec.BlockAt inst.module.types frame.code frame.pc .if signature bodyPc elsePc
      endPc) :
    frameStep inst store budget frame = (do
      let budget ← budget.consumeInstruction
      let frame ← enterIf frame signature bodyPc elsePc endPc
      return (store, budget, .running frame)) := by
  have info := faithful _ _ _ _ _ _ boundary block
  have dispatch : executeOp inst store { frame with pc := frame.pc + 1 } frame.pc
      (UInt8.toNat 0x04) = (do
        let frame ← executeIf inst { frame with pc := frame.pc + 1 } frame.pc
        return (store, .running frame)) := rfl
  rw [frameStep_opcode opcode, dispatch]
  simp only [executeIf, readBlockSignature_of decoded, info, ensureControlInfo, ne_eq,
    not_true_eq_false, or_self, if_false, ok_bind, enterIf, enterBlock]
  cases i32FromStack frame.stack with
  | error err => rfl
  | ok popped =>
      simp only [ok_bind]
      cases controlEntryHeight popped.2 signature.params with
      | error err =>
          simp only [error_bind]
          split <;> rfl
      | ok height =>
          simp only [ok_bind]
          by_cases taken : popped.1 = 0
          · simp only [taken, not_true_eq_false, if_false]
            cases elsePc <;> rfl
          · simp only [taken, not_false_eq_true, if_true]
            rfl

theorem frameStep_else (opcode : frame.code[frame.pc]? = some 0x05) :
    frameStep inst store budget frame = (do
      let budget ← budget.consumeInstruction
      let frame ← executeElse { frame with pc := frame.pc + 1 }
      return (store, budget, .running frame)) := by
  rw [frameStep_opcode opcode]
  have dispatch : executeOp inst store { frame with pc := frame.pc + 1 } frame.pc
      (UInt8.toNat 0x05) = (do
        let frame ← executeElse { frame with pc := frame.pc + 1 }
        return (store, .running frame)) := rfl
  simp only [dispatch, bind_assoc, pure_bind]

theorem frameStep_end (opcode : frame.code[frame.pc]? = some 0x0b) :
    frameStep inst store budget frame = (do
      let budget ← budget.consumeInstruction
      let step ← executeEnd { frame with pc := frame.pc + 1 } frame.pc
      return (store, budget, step)) := by
  rw [frameStep_opcode opcode]
  have dispatch : executeOp inst store { frame with pc := frame.pc + 1 } frame.pc
      (UInt8.toNat 0x0b) = (do
        let step ← executeEnd { frame with pc := frame.pc + 1 } frame.pc
        return (store, step)) := rfl
  simp only [dispatch, bind_assoc, pure_bind]

/-- Behind the last byte the frame is left. -/
theorem frameStep_left (left : frame.pc = frame.code.length) :
    frameStep inst store budget frame =
      (do return (store, budget, .outcome (← finishFrame frame))) := by
  rw [frameStep, left, List.getElem?_eq_none (Nat.le_refl _)]

end Equations

end MiniWasm.Runtime
