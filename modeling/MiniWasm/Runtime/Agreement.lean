import MiniWasm.Runtime.Activation
import MiniWasm.Runtime.Contract
import MiniWasm.Runtime.Provenance

/-!
# Agreement of the decoders

The validator, the control scanner and the interpreter each decode function
bodies on their own.  In an accepted module all three stop at the boundaries of
the grammar, and no execution ever leaves them.
-/

namespace MiniWasm.Runtime

open Library

variable {σ : Type}

/-! ## Positions of a running machine -/

section Positions

variable {inst : Instance σ}

theorem Value.admitted_true (value : Value) : value.Admitted fun _ => True := by
  cases value with
  | funcRef reference => cases reference <;> trivial
  | _ => trivial

/-- Without a restriction on what was issued every store is admitted. -/
theorem Store.admitted_true (store : Store σ) : store.Admitted inst fun _ => True where
  slots _ _ _ := trivial
  globals _ _ := Value.admitted_true _
  elements _ _ _ _ _ := trivial

theorem GuestFrame.admitted_true (frame : GuestFrame) : frame.Admitted inst fun _ => True where
  locals value _ := value.admitted_true
  stack value _ := value.admitted_true

/-- A frame of the instance that stands in its body. -/
def Positioned (inst : Instance σ) (frame : GuestFrame) : Prop :=
  Activation inst frame ∧ Located inst (Validator.Passed inst.module) frame

/-- Frames stay in their bodies, whatever the values are. -/
def positions (inst : Instance σ) : Contract σ Unit where
  store := Store.Fits inst
  frame _ := Positioned inst
  call _ _ _ := True
  waits _ _ := Positioned inst
  results _ _ := True
  error _ := True

theorem positions_guest (store : Store σ) (budget : ExecutionBudget) (frame : GuestFrame)
    (fits : store.Fits inst) (positioned : Positioned inst frame) :
    (positions inst).Guest inst () store budget frame where
  ensures := by
    intro after stepped
    have evolves : store.Evolves inst (fun _ => True) after.1 :=
      (frameStep_evolves store.admitted_true frame.admitted_true (fun _ _ => trivial)
        after stepped).1
    have memories : ∀ instr, Validator.Passed inst.module instr → ∀ memory ∈ instr.memories,
        memory < store.memories.length := by
      intro instr passed memory named
      rw [fits.memoryCount]
      exact passed.memories memory named
    have located := frameStep_located positioned.2 memories after stepped
    have keeps := frameStep_keepsFunction after stepped
    have stays : ∀ next ∈ after.2.2.frames, Positioned inst next := fun next member =>
      ⟨positioned.1.sameFunction (keeps next member), located next member⟩
    refine ⟨fits.evolves evolves, ?_⟩
    obtain ⟨_, _, step⟩ := after
    cases step with
    | running next => exact stays next (List.mem_singleton_self _)
    | outcome left =>
        cases left with
        | «return» | tailCall => trivial
        | call continuation => exact ⟨(), trivial, stays continuation (List.mem_singleton_self _)⟩
  raises _ _ := trivial

theorem hostWrite_fits {capabilities : HostCapabilities} {store : Store σ} {index address : Nat}
    {bytes : List UInt8} (fits : store.Fits inst) :
    (store.hostWrite capabilities index address bytes).Fits inst := by
  unfold Store.hostWrite
  split
  · exact fits
  split
  · exact fits
  split
  · have setMemoryAt (memory : LinearMemory) :
        store.Evolves inst (fun _ => True) (store.setMemoryAt index memory) := .setMemoryAt ..
    exact fits.evolves (setMemoryAt _)
  · exact fits

theorem applyHostOp_fits {capabilities : HostCapabilities} {store : Store σ} {op : HostOp}
    (fits : store.Fits inst) : (Store.applyHostOp capabilities store op).Fits inst := by
  cases op with
  | handle op => exact ⟨fits.memoryCount, fits.dataCount, fits.elementCount⟩
  | writeMemoryAt index address bytes => exact hostWrite_fits fits

theorem afterHost_fits {capabilities : HostCapabilities} {store : Store σ} {reply : HostReply σ}
    (fits : store.Fits inst) : (store.afterHost capabilities reply).Fits inst := by
  have started : ({ store with host := reply.state } : Store σ).Fits inst :=
    ⟨fits.memoryCount, fits.dataCount, fits.elementCount⟩
  unfold Store.afterHost
  generalize ({ store with host := reply.state } : Store σ) = start at started
  induction reply.ops generalizing start with
  | nil => exact started
  | cons op rest ih => exact ih _ (applyHostOp_fits started)

theorem positions_environment (linked : inst.Linked) : (positions inst).Environment inst where
  prepare _ index args _ _ := ⟨prepareGuestFrame_located linked, fun _ _ => trivial⟩
  host _ store budget index args fits _ _ := by
    refine ⟨?_, fun _ _ => trivial, fun _ _ => trivial⟩
    unfold Instance.invokeHost
    split
    · exact fits
    · exact afterHost_fits fits
  resume _ _ _ _ positioned _ :=
    ⟨positioned.1, positioned.2.faithful, positioned.2.position⟩
  tooDeep := trivial

end Positions

/-! ## Sessions -/

/-- The stores that an instance has between two invocations.  While it is idle,
others may do anything to the shared heap and to the state of the host. -/
inductive Session (module : Module) (hosts : HostRegistry σ) (limits : RuntimeLimits)
    (inst : Instance σ) : Store σ → Prop where
  | ready {heap : Heap} {host : σ} {store : Store σ} :
      instantiate module hosts limits heap host = .ready inst store →
      Session module hosts limits inst store
  | elsewhere {store : Store σ} (heap : Heap) (host : σ) :
      Session module hosts limits inst store →
      Session module hosts limits inst { store with heap, host }
  | invoked {store after : Store σ} {function steps : Nat} {args : List Value}
      {result : Run (List Value)} :
      Session module hosts limits inst store →
      invokeFor inst steps (.running (.start store function args 0 (.new inst.limits))) =
        .finished after result →
      Session module hosts limits inst after

section Session

variable {module : Module} {hosts : HostRegistry σ} {limits : RuntimeLimits}
variable {inst : Instance σ} {store : Store σ}

theorem Session.linked (session : Session module hosts limits inst store) :
    inst.module = module ∧ inst.Linked := by
  induction session with
  | ready instantiated =>
      have ready := instantiate_ready instantiated
      exact ⟨ready.module_eq, ready.linked⟩
  | elsewhere _ _ _ ih => exact ih
  | invoked _ _ ih => exact ih

/-- The contract of positions in every state of an invocation. -/
theorem positions_run (linked : inst.Linked) (fits : store.Fits inst) (function : Nat)
    (args : List Value) (budget : ExecutionBudget) (steps : Nat) :
    (positions inst).State ()
      (invokeFor inst steps (.running (.start store function args 0 budget))) :=
  .run (positions_environment linked)
    (fun _ store budget frame fits positioned => positions_guest store budget frame fits positioned)
    (.start fits trivial) steps

theorem Session.fits (session : Session module hosts limits inst store) : store.Fits inst := by
  induction session with
  | ready instantiated => exact (instantiate_ready instantiated).fits
  | elsewhere _ _ _ ih => exact ⟨ih.memoryCount, ih.dataCount, ih.elementCount⟩
  | @invoked store after function steps args result earlier finished ih =>
      have holds := positions_run earlier.linked.2 ih function args (.new inst.limits) steps
      rw [finished] at holds
      cases result with
      | ok results => exact holds.1
      | error err => exact holds.1

end Session

/-! ## Agreement -/

/-- The interpreter reads at the frame's position what the grammar says. -/
structure DecodesAt (inst : Instance σ) (store : Store σ) (budget : ExecutionBudget)
    (frame : GuestFrame) : Prop where
  body : ∃ (defined : Nat) (body : FunctionBody), inst.module.code[defined]? = some body ∧
    frame.code = body.code ∧ buildControlMap body.code inst.module.types = .ok frame.controlMap
  boundary : Spec.Boundary inst.module.types frame.code frame.pc
  /-- The instruction that is executed, and the position behind its immediates. -/
  simple : ∀ instr pc', Spec.simpleAt frame.code frame.pc = some (instr, pc') →
    frameStep inst store budget frame = (do
      let budget ← budget.consumeInstruction
      let (store, step) ← executeSimple inst store { frame with pc := pc' } instr
      return (store, budget, step))
  /-- The signature that is read, and the entry of the control map that is used. -/
  opener : ∀ kind signature bodyPc elsePc endPc,
    Spec.BlockAt inst.module.types frame.code frame.pc kind signature bodyPc elsePc endPc →
    readBlockSignature frame.code (frame.pc + 1) inst.module.types = .ok (signature, bodyPc) ∧
      frame.controlMap.info frame.pc = .ok { kind, bodyPc, elsePc, endPc, signature }

theorem Positioned.decodesAt {inst : Instance σ} {store : Store σ} {budget : ExecutionBudget}
    {frame : GuestFrame} {opcode : UInt8} (linked : inst.Linked) (fits : store.Fits inst)
    (positioned : Positioned inst frame) (fetched : frame.code[frame.pc]? = some opcode) :
    DecodesAt inst store budget frame := by
  obtain ⟨⟨defined, type, body, controlMap, function, mapFound, same⟩, located⟩ := positioned
  have boundary := located.boundary fetched
  have code : frame.code = body.code := congrArg FrameFunction.code same
  have map : frame.controlMap = controlMap := congrArg FrameFunction.controlMap same
  refine ⟨⟨defined, body, function.body, code, ?_⟩, boundary, ?_, ?_⟩
  · rw [map]
    exact linked.controlMap function.body mapFound
  · intro instr pc' decoded
    refine frameStep_simple decoded fun memory named => ?_
    rcases located.position with ⟨instrs, labels, placed⟩ | ⟨left, -⟩
    · rw [fits.memoryCount]
      exact (placed.known_of_simpleAt decoded).memories memory named
    · rw [left, List.getElem?_eq_none (Nat.le_refl _)] at fetched
      cases fetched
  · intro kind signature bodyPc elsePc endPc block
    refine ⟨readBlockSignature_of ?_, located.faithful _ _ _ _ _ _ boundary block⟩
    cases block <;> assumption

/-- The frame that the checker opens at an opener has the kind and the signature
of the block. -/
theorem opened_of_blockAt {cx : Validator.CodeContext} {state inner : Validator.CheckState}
    {pc bodyPc bodyPc' endPc : Nat} {kind : ControlKind} {signature : BlockSignature}
    {elsePc : Option Nat} (visited : Validator.Visited cx state pc)
    (advances : Validator.Advances cx state pc inner bodyPc')
    (block : Spec.BlockAt cx.module.types cx.code pc kind signature bodyPc elsePc endPc) :
    bodyPc' = bodyPc ∧ ∃ frame, inner.controls = frame :: state.controls ∧ frame.kind = kind ∧
      frame.paramTypes = signature.params ∧ frame.endTypes = signature.results := by
  obtain ⟨opcode, found, -⟩ := block.opens
  have inside := (List.getElem?_eq_some_iff.mp found).1
  obtain ⟨stack, controls⟩ := state
  obtain ⟨frame, outer, rfl⟩ : ∃ frame outer, controls = frame :: outer := by
    rcases visited.rooted with ⟨before, root, same, -⟩ | last
    · cases same
      cases before <;> exact ⟨_, _, rfl⟩
    · omega
  -- What `opened` says about the frame, once the block type is known to be the same.
  have conclude {kind : ControlKind} {signature' : BlockSignature}
      {rest : Validator.OperandTypes}
      (opened : Validator.Opened cx frame outer kind (pc + 1) stack inner bodyPc' signature' rest)
      (decoded : Spec.blockType cx.code cx.module.types (pc + 1) = some (signature, bodyPc)) :
      bodyPc' = bodyPc ∧ ∃ next, inner.controls = next :: frame :: outer ∧ next.kind = kind ∧
        next.paramTypes = signature.params ∧ next.endTypes = signature.results := by
    cases decoded.symm.trans opened.decoded
    exact ⟨rfl, _, by rw [opened.inner], rfl, rfl, rfl⟩
  cases block with
  | block opcode decoded =>
      obtain ⟨_, _, opened⟩ := advances.opened opcode
      exact conclude opened decoded
  | ifThen opcode decoded =>
      obtain ⟨_, _, opened⟩ := advances.openedIf opcode
      exact conclude opened decoded
  | ifElse opcode decoded =>
      obtain ⟨_, _, opened⟩ := advances.openedIf opcode
      exact conclude opened decoded

/-- In an accepted module the scanner maps every body, the checker and the scanner
visit exactly the boundaries of the grammar, and every opener is mapped to its
match with the signature that the checker gave it.  Every opcode that an instance
ever fetches stands at a boundary and is decoded there as the grammar says. -/
theorem decoders_agree {module : Module} (valid : Validator.validate module = .ok ()) :
    (∀ (defined : Nat) (body : FunctionBody), module.code[defined]? = some body →
      ∃ type controlMap, Validator.Defined module defined type body ∧
        buildControlMap body.code module.types = .ok controlMap ∧
        (∀ pc, (∃ state, Validator.Visited (Validator.bodyContext module defined type body)
          state pc) ↔ Spec.Boundary module.types body.code pc) ∧
        (∀ pc, (∃ state, Scanned module.types body.code state pc) ↔
          Spec.Boundary module.types body.code pc) ∧
        ∀ opener opcode, Spec.Boundary module.types body.code opener →
          body.code[opener]? = some opcode → (opcode = 0x02 ∨ opcode = 0x03 ∨ opcode = 0x04) →
          ∃ kind signature bodyPc elsePc endPc,
            Spec.BlockAt module.types body.code opener kind signature bodyPc elsePc endPc ∧
            controlMap.info opener = .ok { kind, bodyPc, elsePc, endPc, signature } ∧
            ∀ state inner bodyPc',
              Validator.Visited (Validator.bodyContext module defined type body) state opener →
              Validator.Advances (Validator.bodyContext module defined type body) state opener
                inner bodyPc' →
              bodyPc' = bodyPc ∧ ∃ frame, inner.controls = frame :: state.controls ∧
                frame.kind = kind ∧ frame.paramTypes = signature.params ∧
                frame.endTypes = signature.results) ∧
    ∀ (hosts : HostRegistry σ) (limits : RuntimeLimits) (inst : Instance σ) (store : Store σ)
      (function : Nat) (args : List Value) (steps : Nat) (machine : Machine σ),
      Session module hosts limits inst store →
      invokeFor inst steps (.running (.start store function args 0 (.new inst.limits))) =
        .running machine →
      ∀ frame opcode, machine.current = .frame frame → frame.code[frame.pc]? = some opcode →
        DecodesAt inst machine.store machine.budget frame := by
  have accepted := Validator.accepted_of_validate valid
  constructor
  · intro defined body bodyFound
    obtain ⟨type, function⟩ := accepted.definedOfCode bodyFound
    obtain ⟨instrs, ended, endPc, checked⟩ := accepted.bodyChecked function
    obtain ⟨controlMap, built, faithful⟩ := buildControlMap_of_encodesBody checked.encodes
    refine ⟨type, controlMap, function, built, fun pc => ?_, fun pc => ?_, ?_⟩
    · exact Validator.visited_iff_boundary (accepted.validateCode function)
    · exact scanned_iff_boundary checked.encodes
    · intro opener opcode boundary found opens
      obtain ⟨kind, signature, bodyPc, elsePc, blockEnd, block⟩ :=
        checked.encodes.blockAt boundary found opens
      refine ⟨kind, signature, bodyPc, elsePc, blockEnd, block,
        faithful _ _ _ _ _ _ boundary block, ?_⟩
      intro state inner bodyPc' visited advances
      exact opened_of_blockAt visited advances block
  · intro hosts limits inst store function args steps machine session reached frame opcode
      current fetched
    have linked := session.linked.2
    have holds := positions_run linked session.fits function args (.new inst.limits) steps
    rw [reached] at holds
    obtain ⟨_, positioned, -⟩ := holds.parts
    rw [current] at positioned
    exact Positioned.decodesAt linked holds.store positioned fetched

/-! A loop that leaves by a conditional branch. -/

def branchingLoop : Module where
  types := [{ params := [], results := [] }]
  functionTypeIndices := [0]
  code := [{ locals := [], code := [0x03, 0x40, 0x41, 0x00, 0x0d, 0x00, 0x0b, 0x0b] }]

theorem decoders_agree_branchingLoop :
    Validator.validate branchingLoop = .ok () ∧
      ∃ controlMap, buildControlMap [0x03, 0x40, 0x41, 0x00, 0x0d, 0x00, 0x0b, 0x0b]
          branchingLoop.types = .ok controlMap ∧
        Spec.Boundary branchingLoop.types [0x03, 0x40, 0x41, 0x00, 0x0d, 0x00, 0x0b, 0x0b] 2 := by
  have valid : Validator.validate branchingLoop = .ok () := rfl
  obtain ⟨type, controlMap, -, built, -⟩ := (@decoders_agree Unit _ valid).1 0 _ rfl
  exact ⟨valid, controlMap, built, Spec.Walk.step rfl⟩

end MiniWasm.Runtime
