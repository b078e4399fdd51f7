import Mathlib.Logic.Relation
import MiniWasm.Library.Result
import MiniWasm.Spec.Grammar

/-!
# Instruction boundaries

The grammar reads forward: every instruction ends behind the position at which
it starts, so a linear scan visits its positions in order.  A sequence with its
terminator is determined by where it starts.
-/

namespace MiniWasm.Spec

open Library

variable {types : List FuncType} {code : List UInt8} {pc pc' : Nat}

/-! ## Reading forward -/

/-- A reader never stops before the position at which it starts. -/
def Forward {α : Type} (pc : Nat) (read : Option (α × Nat)) : Prop :=
  ∀ value pc', read = some (value, pc') → pc ≤ pc'

section Forward

variable {α β : Type}

theorem forward_none : Forward pc (none : Option (α × Nat)) := by
  intro value pc' found
  cases found

theorem forward_some {value : α} (ahead : pc ≤ pc') : Forward pc (some (value, pc')) := by
  intro value pc' found
  cases found
  exact ahead

theorem forward_ite {condition : Prop} [Decidable condition] {yes no : Option (α × Nat)}
    (first : Forward pc yes) (second : Forward pc no) :
    Forward pc (if condition then yes else no) := by
  split
  · exact first
  · exact second

/-- The rest of a reader may go back to where the reader starts. -/
theorem forward_bind_again {first : Option (α × Nat)} {next : α × Nat → Option (β × Nat)}
    (ahead : Forward pc first)
    (onward : ∀ value middle, pc ≤ middle → Forward pc (next (value, middle))) :
    Forward pc (first >>= next) := by
  intro value pc' found
  obtain ⟨⟨read, middle⟩, firstRead, nextRead⟩ := bind_some.mp found
  exact onward _ _ (ahead _ _ firstRead) _ _ nextRead

theorem forward_bind {first : Option (α × Nat)} {next : α × Nat → Option (β × Nat)}
    (ahead : Forward pc first) (onward : ∀ value middle, Forward middle (next (value, middle))) :
    Forward pc (first >>= next) :=
  forward_bind_again ahead fun _ _ reached _ _ nextRead =>
    Nat.le_trans reached (onward _ _ _ _ nextRead)

theorem forward_given {first : Option α} {next : α → Option (β × Nat)}
    (onward : ∀ value, Forward pc (next value)) : Forward pc (first >>= next) := by
  intro value pc' found
  obtain ⟨read, -, nextRead⟩ := bind_some.mp found
  exact onward _ _ _ nextRead

theorem integer_forward {decode : List UInt8 → Except ParseError (α × Nat)} :
    Forward pc (integer code decode pc) := by
  unfold integer
  split
  · exact forward_some (Nat.le_add_right ..)
  · exact forward_none

end Forward

theorem u32_forward : Forward pc (u32 code pc) :=
  integer_forward

theorem u64_forward : Forward pc (u64 code pc) :=
  integer_forward

theorem byte_forward : Forward pc (byte code pc) := by
  unfold byte
  cases code[pc]? with
  | none => exact forward_none
  | some opcode => exact forward_some (Nat.le_succ _)

theorem bytes_forward {width : Nat} : Forward pc (bytes code width pc) :=
  forward_ite (forward_some (Nat.le_add_right ..)) forward_none

theorem memarg_forward : Forward pc (memarg code pc) := by
  refine forward_bind u32_forward fun flags _ => forward_ite forward_none (forward_ite ?_ ?_)
  · exact forward_bind u32_forward fun _ _ =>
      forward_bind u64_forward fun _ _ => forward_some (Nat.le_refl _)
  · exact forward_bind u64_forward fun _ _ => forward_some (Nat.le_refl _)

theorem selectType_forward : Forward pc (selectType code pc) :=
  forward_bind u32_forward fun _ _ => forward_ite forward_none <|
    forward_bind byte_forward fun _ _ => forward_given fun _ => forward_some (Nat.le_refl _)

theorem blockType_forward : Forward pc (blockType code types pc) := by
  refine forward_bind_again byte_forward fun first next ahead => ?_
  refine forward_ite (forward_some ahead) <| forward_ite (forward_some ahead) <|
    forward_ite (forward_some ahead) <| forward_ite (forward_some ahead) <|
    forward_ite (forward_some ahead) ?_
  exact forward_bind integer_forward fun _ _ => forward_ite forward_none <|
    forward_given fun _ => forward_some (Nat.le_refl _)

theorem targets_forward {count : Nat} : Forward pc (targets code count pc) := by
  induction count generalizing pc with
  | zero => exact forward_some (Nat.le_refl _)
  | succ count ih =>
      exact forward_bind u32_forward fun _ _ =>
        forward_bind ih fun _ _ => forward_some (Nat.le_refl _)

theorem laneIndex_forward {limit : Nat} : Forward pc (laneIndex code limit pc) :=
  forward_bind byte_forward fun _ _ => forward_ite (forward_some (Nat.le_refl _)) forward_none

theorem simdImmediate_forward {shape : SimdShape} : Forward pc (simdImmediate code shape pc) := by
  cases shape with
  | none => exact forward_some (Nat.le_refl _)
  | memarg => exact forward_bind memarg_forward fun _ _ => forward_some (Nat.le_refl _)
  | memargLane limit =>
      exact forward_bind memarg_forward fun _ _ =>
        forward_bind laneIndex_forward fun _ _ => forward_some (Nat.le_refl _)
  | bytes => exact forward_bind bytes_forward fun _ _ => forward_some (Nat.le_refl _)
  | shuffle =>
      exact forward_bind bytes_forward fun _ _ =>
        forward_ite (forward_some (Nat.le_refl _)) forward_none
  | lane limit => exact forward_bind laneIndex_forward fun _ _ => forward_some (Nat.le_refl _)

theorem simd_forward : Forward pc (simd code pc) :=
  forward_bind u32_forward fun _ _ => forward_given fun _ =>
    forward_bind simdImmediate_forward fun _ _ => forward_some (Nat.le_refl _)

theorem withU32_forward {instr : Nat → Plain} : Forward pc (withU32 code instr pc) :=
  forward_bind u32_forward fun _ _ => forward_some (Nat.le_refl _)

theorem withU32Pair_forward {instr : Nat → Nat → Plain} :
    Forward pc (withU32Pair code instr pc) :=
  forward_bind u32_forward fun _ _ =>
    forward_bind u32_forward fun _ _ => forward_some (Nat.le_refl _)

theorem misc_forward : Forward pc (misc code pc) :=
  forward_bind u32_forward fun _ _ =>
    forward_ite (forward_some (Nat.le_refl _)) <| forward_ite withU32Pair_forward <|
    forward_ite withU32_forward <| forward_ite withU32Pair_forward <|
    forward_ite withU32_forward <| forward_ite withU32Pair_forward <|
    forward_ite withU32_forward <| forward_ite withU32Pair_forward <|
    forward_ite withU32_forward <| forward_ite withU32_forward <|
    forward_ite withU32_forward forward_none

theorem plainImmediates_forward {opcode : Nat} :
    Forward pc (plainImmediates code opcode pc) := by
  have bare {pc : Nat} {instr : Plain} : Forward pc (some (instr, pc)) :=
    forward_some (Nat.le_refl _)
  unfold plainImmediates
  refine forward_ite bare <| forward_ite bare <| forward_ite bare <|
    forward_ite (forward_bind selectType_forward fun _ _ => bare) ?_
  iterate 7 refine forward_ite withU32_forward ?_
  iterate 2 refine forward_ite (forward_bind memarg_forward fun _ _ => bare) ?_
  iterate 2 refine forward_ite withU32_forward ?_
  iterate 2 refine forward_ite (forward_bind integer_forward fun _ _ => bare) ?_
  iterate 2 refine forward_ite (forward_bind bytes_forward fun _ _ => bare) ?_
  refine forward_ite bare <| forward_ite ?_ <| forward_ite bare <|
    forward_ite withU32_forward <| forward_ite misc_forward <|
    forward_ite simd_forward forward_none
  exact forward_bind byte_forward fun _ _ => forward_ite bare forward_none

theorem simpleImmediates_forward {opcode : Nat} :
    Forward pc (simpleImmediates code opcode pc) := by
  have bare {pc : Nat} {instr : Simple} : Forward pc (some (instr, pc)) :=
    forward_some (Nat.le_refl _)
  have one {instr : Nat → Simple} : Forward pc (u32 code pc >>= fun read =>
      some (instr read.1, read.2)) :=
    forward_bind u32_forward fun _ _ => bare
  have two {instr : Nat → Nat → Simple} : Forward pc (u32 code pc >>= fun first =>
      u32 code first.2 >>= fun second => some (instr first.1 second.1, second.2)) :=
    forward_bind u32_forward fun _ _ => forward_bind u32_forward fun _ _ => bare
  unfold simpleImmediates
  refine forward_ite bare <| forward_ite one <| forward_ite one <| forward_ite ?_ <|
    forward_ite bare <| forward_ite one <| forward_ite two <| forward_ite one <|
    forward_ite two (forward_bind plainImmediates_forward fun _ _ => bare)
  exact forward_bind u32_forward fun _ _ => forward_bind targets_forward fun _ _ =>
    forward_bind u32_forward fun _ _ => bare

/-- Every instruction takes at least its opcode byte. -/
theorem instrEnd_lt (ends : instrEnd types code pc = some pc') : pc < pc' := by
  obtain ⟨⟨opcode, next⟩, opcodeRead, ends⟩ := bind_some.mp ends
  unfold byte at opcodeRead
  obtain ⟨_, -, same⟩ := Option.map_eq_some_iff.mp opcodeRead
  cases same
  refine Nat.lt_of_succ_le ?_
  replace ends := ite_cases ends
  rcases ends with ⟨-, ends⟩ | ⟨-, ends⟩
  · obtain ⟨⟨signature, bodyPc⟩, read, same⟩ := bind_some.mp ends
    cases same
    exact blockType_forward _ _ read
  replace ends := ite_cases ends
  rcases ends with ⟨-, ends⟩ | ⟨-, ends⟩
  · cases ends
    exact Nat.le_refl _
  · obtain ⟨⟨instr, finish⟩, read, same⟩ := bind_some.mp ends
    cases same
    exact simpleImmediates_forward _ _ read

/-- An instruction that ends somewhere starts inside the body. -/
theorem instrEnd_inside (ends : instrEnd types code pc = some pc') : pc < code.length := by
  obtain ⟨⟨opcode, next⟩, opcodeRead, -⟩ := bind_some.mp ends
  obtain ⟨_, found, -⟩ := Option.map_eq_some_iff.mp opcodeRead
  exact (List.getElem?_eq_some_iff.mp found).1

/-- The boundaries form a chain from the start of the body. -/
theorem boundary_iff :
    Boundary types code pc ↔
      Relation.ReflTransGen (fun pc pc' => instrEnd types code pc = some pc') 0 pc := by
  constructor
  · intro walk
    induction walk with
    | here => exact .refl
    | next _ ends ih => exact ih.tail ends
  · intro chain
    induction chain with
    | refl => exact .here
    | tail _ ends ih => exact .next ih ends

/-! ## The end of each kind of instruction -/

/-- A block opcode is not the opcode of an instruction that opens no block. -/
theorem simpleAt_notBlock {opcode : UInt8} {instr : Simple}
    (found : code[pc]? = some opcode) (decoded : simpleAt code pc = some (instr, pc')) :
    opcode.toNat ∉ blockOpcodes := by
  simp only [simpleAt, byte, found, Option.map_some, Option.bind_eq_bind,
    Option.bind_some] at decoded
  intro member
  simp only [blockOpcodes, List.mem_cons, List.not_mem_nil, or_false] at member
  rcases member with same | same | same | same | same <;> rw [same] at decoded <;> cases decoded

theorem simpleAt_opcode {instr : Simple} (decoded : simpleAt code pc = some (instr, pc')) :
    ∃ opcode, code[pc]? = some opcode ∧ opcode.toNat ∉ blockOpcodes ∧
      simpleImmediates code opcode.toNat (pc + 1) = some (instr, pc') := by
  obtain ⟨⟨opcode, next⟩, opcodeRead, immediates⟩ := bind_some.mp decoded
  obtain ⟨_, found, same⟩ := Option.map_eq_some_iff.mp opcodeRead
  cases same
  exact ⟨opcode, found, simpleAt_notBlock found decoded, immediates⟩

/-- The byte at which a sequence stops. -/
def Terminator (code : List UInt8) (pc : Nat) : Prop :=
  code[pc]? = some 0x05 ∨ code[pc]? = some 0x0b

theorem simpleAt_notTerminator {instr : Simple} (terminator : Terminator code pc)
    (decoded : simpleAt code pc = some (instr, pc')) : False := by
  obtain ⟨opcode, found, notBlock, -⟩ := simpleAt_opcode decoded
  rcases terminator with byte | byte <;> cases found.symm.trans byte <;> exact notBlock (by decide)

theorem instrEnd_simple {instr : Simple} (decoded : simpleAt code pc = some (instr, pc')) :
    instrEnd types code pc = some pc' := by
  obtain ⟨opcode, found, notBlock, immediates⟩ := simpleAt_opcode decoded
  have others : ¬ (opcode = 0x02 ∨ opcode = 0x03 ∨ opcode = 0x04) ∧
      ¬ (opcode = 0x05 ∨ opcode = 0x0b) := by
    constructor
    · rintro (rfl | rfl | rfl) <;> exact notBlock (by decide)
    · rintro (rfl | rfl) <;> exact notBlock (by decide)
  simp [instrEnd, byte, found, others, immediates]

theorem instrEnd_opener {opcode : UInt8} {signature : BlockSignature} {bodyPc : Nat}
    (found : code[pc]? = some opcode) (opens : opcode = 0x02 ∨ opcode = 0x03 ∨ opcode = 0x04)
    (decoded : blockType code types (pc + 1) = some (signature, bodyPc)) :
    instrEnd types code pc = some bodyPc := by
  simp [instrEnd, byte, found, opens, decoded]

theorem blockOpcode_opens (loops : Bool) :
    blockOpcode loops = 0x02 ∨ blockOpcode loops = 0x03 ∨ blockOpcode loops = 0x04 := by
  cases loops
  · exact .inl rfl
  · exact .inr (.inl rfl)

theorem instrEnd_terminator (terminator : Terminator code pc) :
    instrEnd types code pc = some (pc + 1) := by
  rcases terminator with byteAt | byteAt <;> simp [instrEnd, byte, byteAt]

/-! ## Walks -/

theorem Walk.trans {first second third : Nat} (before : Walk types code first second)
    (after : Walk types code second third) : Walk types code first third := by
  induction after with
  | here => exact before
  | next _ ends ih => exact .next ih ends

theorem Walk.step (ends : instrEnd types code pc = some pc') : Walk types code pc pc' :=
  .next .here ends

theorem Walk.le {start : Nat} (walk : Walk types code start pc) : start ≤ pc := by
  induction walk with
  | here => exact Nat.le_refl _
  | next _ ends ih => exact Nat.le_trans ih (Nat.le_of_lt (instrEnd_lt ends))

/-- The positions of one walk are visited in order. -/
theorem Walk.ordered {start first second : Nat} (toFirst : Walk types code start first)
    (toSecond : Walk types code start second) (ordered : first ≤ second) :
    Walk types code first second := by
  induction toSecond with
  | here =>
      cases Nat.le_antisymm toFirst.le ordered
      exact .here
  | @next middle second before ends ih =>
      rcases Nat.lt_or_ge middle first with beyond | reached
      · -- The step to `second` crosses `first`, which the walk visits.
        have passed := crosses before toFirst beyond ends
        cases Nat.le_antisymm passed ordered
        exact .here
      · exact .next (ih reached) ends
where
  /-- A position behind the current one is not before the next one. -/
  crosses {start middle first second : Nat} (before : Walk types code start middle)
      (toFirst : Walk types code start first) (beyond : middle < first)
      (ends : instrEnd types code middle = some second) : second ≤ first := by
    induction toFirst with
    | here => exact absurd before.le (Nat.not_le_of_lt beyond)
    | @next inner first walked innerEnds ih =>
        rcases Nat.lt_trichotomy middle inner with further | rfl | shorter
        · exact Nat.le_trans (ih further) (Nat.le_of_lt (instrEnd_lt innerEnds))
        · cases ends.symm.trans innerEnds
          exact Nat.le_refl _
        · exact absurd (crosses walked before shorter innerEnds) (Nat.not_le_of_lt beyond)

/-- Behind a position that is not the last one the walk takes one step. -/
theorem Walk.head {start : Nat} (walk : Walk types code start pc) (moved : start ≠ pc) :
    ∃ middle, instrEnd types code start = some middle ∧ Walk types code middle pc := by
  induction walk with
  | here => exact absurd rfl moved
  | @next middle pc before ends ih =>
      by_cases here : start = middle
      · subst here
        exact ⟨pc, ends, .here⟩
      · obtain ⟨first, firstEnds, rest⟩ := ih here
        exact ⟨first, firstEnds, .next rest ends⟩

/-- Where a walk to `pc` stands relative to a position that it may pass. -/
theorem Walk.split {start landmark : Nat} (toLandmark : Walk types code start landmark)
    (walk : Walk types code start pc) :
    pc < landmark ∨ pc = landmark ∨
      ∃ next, instrEnd types code landmark = some next ∧ Walk types code next pc := by
  rcases Nat.lt_or_ge pc landmark with before | reached
  · exact .inl before
  rcases Nat.eq_or_lt_of_le reached with same | beyond
  · exact .inr (.inl same.symm)
  · exact .inr (.inr ((toLandmark.ordered walk reached).head (Nat.ne_of_lt beyond)))

/-! ## Sequences -/

theorem Encodes.walk {instrs : Instrs} {finish : Nat}
    (encodes : Encodes types code pc instrs finish) : Walk types code pc finish := by
  induction encodes with
  | done => exact .here
  | simple decoded _ ih => exact (Walk.step (instrEnd_simple decoded)).trans ih
  | block opcode decoded _ endByte _ bodyIH nextIH =>
      exact (Walk.step (instrEnd_opener opcode (blockOpcode_opens _) decoded)).trans <|
        bodyIH.trans <| (Walk.step (instrEnd_terminator (.inr endByte))).trans nextIH
  | ifThen opcode decoded _ endByte _ bodyIH nextIH =>
      exact (Walk.step (instrEnd_opener opcode (.inr (.inr rfl)) decoded)).trans <|
        bodyIH.trans <| (Walk.step (instrEnd_terminator (.inr endByte))).trans nextIH
  | ifElse opcode decoded _ elseByte _ endByte _ bodyIH otherIH nextIH =>
      exact (Walk.step (instrEnd_opener opcode (.inr (.inr rfl)) decoded)).trans <|
        bodyIH.trans <| (Walk.step (instrEnd_terminator (.inl elseByte))).trans <|
        otherIH.trans <| (Walk.step (instrEnd_terminator (.inr endByte))).trans nextIH

theorem simpleAt_notOpener {opcode : UInt8} {instr : Simple} (found : code[pc]? = some opcode)
    (opens : opcode = 0x02 ∨ opcode = 0x03 ∨ opcode = 0x04)
    (decoded : simpleAt code pc = some (instr, pc')) : False := by
  have notBlock := simpleAt_notBlock found decoded
  rcases opens with rfl | rfl | rfl <;> exact notBlock (by decide)

theorem opener_notTerminator {opcode : UInt8} (found : code[pc]? = some opcode)
    (opens : opcode = 0x02 ∨ opcode = 0x03 ∨ opcode = 0x04)
    (terminator : Terminator code pc) : False := by
  rcases terminator with byte | byte <;> cases found.symm.trans byte <;> revert opens <;> decide

theorem terminators_differ {finish : Nat} (elseByte : code[finish]? = some 0x05)
    (endByte : code[finish]? = some 0x0b) : False := by
  cases elseByte.symm.trans endByte

/-- Where a sequence starts determines the sequence and where it stops. -/
theorem Encodes.unique {instrs instrs' : Instrs} {finish finish' : Nat}
    (encodes : Encodes types code pc instrs finish) (terminator : Terminator code finish)
    (encodes' : Encodes types code pc instrs' finish') (terminator' : Terminator code finish') :
    instrs = instrs' ∧ finish = finish' := by
  induction encodes generalizing instrs' finish' with
  | done =>
      cases encodes' with
      | done => exact ⟨rfl, rfl⟩
      | simple decoded _ => exact (simpleAt_notTerminator terminator decoded).elim
      | block opcode => exact (opener_notTerminator opcode (blockOpcode_opens _) terminator).elim
      | ifThen opcode => exact (opener_notTerminator opcode (.inr (.inr rfl)) terminator).elim
      | ifElse opcode => exact (opener_notTerminator opcode (.inr (.inr rfl)) terminator).elim
  | simple decoded _ ih =>
      cases encodes' with
      | done => exact (simpleAt_notTerminator terminator' decoded).elim
      | simple decoded' next' =>
          cases decoded.symm.trans decoded'
          obtain ⟨rfl, rfl⟩ := ih terminator next' terminator'
          exact ⟨rfl, rfl⟩
      | block opcode => exact (simpleAt_notOpener opcode (blockOpcode_opens _) decoded).elim
      | ifThen opcode => exact (simpleAt_notOpener opcode (.inr (.inr rfl)) decoded).elim
      | ifElse opcode => exact (simpleAt_notOpener opcode (.inr (.inr rfl)) decoded).elim
  | @block _ _ _ _ loops _ _ _ opcode decoded _ endByte _ bodyIH nextIH =>
      cases encodes' with
      | done => exact (opener_notTerminator opcode (blockOpcode_opens _) terminator').elim
      | simple decoded' _ => exact (simpleAt_notOpener opcode (blockOpcode_opens _) decoded').elim
      | @block _ _ _ _ loops' _ _ _ opcode' decoded' body' endByte' next' =>
          have sameOpcode := Option.some.inj (opcode.symm.trans opcode')
          cases decoded.symm.trans decoded'
          obtain ⟨rfl, rfl⟩ := bodyIH (.inr endByte) body' (.inr endByte')
          obtain ⟨rfl, rfl⟩ := nextIH terminator next' terminator'
          cases loops <;> cases loops' <;> first | exact ⟨rfl, rfl⟩ | cases sameOpcode
      | ifThen opcode' => cases loops <;> cases opcode.symm.trans opcode'
      | ifElse opcode' => cases loops <;> cases opcode.symm.trans opcode'
  | ifThen opcode decoded _ endByte _ bodyIH nextIH =>
      cases encodes' with
      | done => exact (opener_notTerminator opcode (.inr (.inr rfl)) terminator').elim
      | simple decoded' _ => exact (simpleAt_notOpener opcode (.inr (.inr rfl)) decoded').elim
      | @block _ _ _ _ loops _ _ _ opcode' => cases loops <;> cases opcode.symm.trans opcode'
      | ifThen opcode' decoded' body' endByte' next' =>
          cases decoded.symm.trans decoded'
          obtain ⟨rfl, rfl⟩ := bodyIH (.inr endByte) body' (.inr endByte')
          obtain ⟨rfl, rfl⟩ := nextIH terminator next' terminator'
          exact ⟨rfl, rfl⟩
      | ifElse opcode' decoded' body' elseByte' =>
          cases decoded.symm.trans decoded'
          obtain ⟨-, rfl⟩ := bodyIH (.inr endByte) body' (.inl elseByte')
          exact (terminators_differ elseByte' endByte).elim
  | ifElse opcode decoded _ elseByte _ endByte _ bodyIH otherIH nextIH =>
      cases encodes' with
      | done => exact (opener_notTerminator opcode (.inr (.inr rfl)) terminator').elim
      | simple decoded' _ => exact (simpleAt_notOpener opcode (.inr (.inr rfl)) decoded').elim
      | @block _ _ _ _ loops _ _ _ opcode' => cases loops <;> cases opcode.symm.trans opcode'
      | ifThen opcode' decoded' body' endByte' =>
          cases decoded.symm.trans decoded'
          obtain ⟨-, rfl⟩ := bodyIH (.inl elseByte) body' (.inr endByte')
          exact (terminators_differ elseByte endByte').elim
      | ifElse opcode' decoded' body' elseByte' other' endByte' next' =>
          cases decoded.symm.trans decoded'
          obtain ⟨rfl, rfl⟩ := bodyIH (.inl elseByte) body' (.inl elseByte')
          obtain ⟨rfl, rfl⟩ := otherIH (.inr endByte) other' (.inr endByte')
          obtain ⟨rfl, rfl⟩ := nextIH terminator next' terminator'
          exact ⟨rfl, rfl⟩

theorem BlockAt.opens {opener bodyPc endPc : Nat} {kind : ControlKind}
    {signature : BlockSignature} {elsePc : Option Nat}
    (block : BlockAt types code opener kind signature bodyPc elsePc endPc) :
    ∃ opcode, code[opener]? = some opcode ∧
      (opcode = 0x02 ∨ opcode = 0x03 ∨ opcode = 0x04) := by
  cases block with
  | block opcode => exact ⟨_, opcode, blockOpcode_opens _⟩
  | ifThen opcode => exact ⟨_, opcode, .inr (.inr rfl)⟩
  | ifElse opcode => exact ⟨_, opcode, .inr (.inr rfl)⟩

/-- An opener has one match. -/
theorem BlockAt.unique {opener bodyPc bodyPc' endPc endPc' : Nat} {kind kind' : ControlKind}
    {signature signature' : BlockSignature} {elsePc elsePc' : Option Nat}
    (block : BlockAt types code opener kind signature bodyPc elsePc endPc)
    (block' : BlockAt types code opener kind' signature' bodyPc' elsePc' endPc') :
    kind = kind' ∧ signature = signature' ∧ bodyPc = bodyPc' ∧ elsePc = elsePc' ∧
      endPc = endPc' := by
  cases block with
  | @block _ _ loops _ _ opcode decoded body endByte =>
      cases block' with
      | @block _ _ loops' _ _ opcode' decoded' body' endByte' =>
          have sameOpcode := Option.some.inj (opcode.symm.trans opcode')
          cases decoded.symm.trans decoded'
          obtain ⟨-, rfl⟩ := body.unique (.inr endByte) body' (.inr endByte')
          cases loops <;> cases loops' <;>
            first | exact ⟨rfl, rfl, rfl, rfl, rfl⟩ | cases sameOpcode
      | ifThen opcode' => cases loops <;> cases opcode.symm.trans opcode'
      | ifElse opcode' => cases loops <;> cases opcode.symm.trans opcode'
  | ifThen opcode decoded body endByte =>
      cases block' with
      | @block _ _ loops _ _ opcode' => cases loops <;> cases opcode.symm.trans opcode'
      | ifThen opcode' decoded' body' endByte' =>
          cases decoded.symm.trans decoded'
          obtain ⟨-, rfl⟩ := body.unique (.inr endByte) body' (.inr endByte')
          exact ⟨rfl, rfl, rfl, rfl, rfl⟩
      | ifElse opcode' decoded' body' elseByte' =>
          cases decoded.symm.trans decoded'
          obtain ⟨-, rfl⟩ := body.unique (.inr endByte) body' (.inl elseByte')
          exact (terminators_differ elseByte' endByte).elim
  | ifElse opcode decoded body elseByte other endByte =>
      cases block' with
      | @block _ _ loops _ _ opcode' => cases loops <;> cases opcode.symm.trans opcode'
      | ifThen opcode' decoded' body' endByte' =>
          cases decoded.symm.trans decoded'
          obtain ⟨-, rfl⟩ := body.unique (.inl elseByte) body' (.inr endByte')
          exact (terminators_differ elseByte endByte').elim
      | ifElse opcode' decoded' body' elseByte' other' endByte' =>
          cases decoded.symm.trans decoded'
          obtain ⟨-, rfl⟩ := body.unique (.inl elseByte) body' (.inl elseByte')
          obtain ⟨-, rfl⟩ := other.unique (.inr endByte) other' (.inr endByte')
          exact ⟨rfl, rfl, rfl, rfl, rfl⟩

/-! ## What stands at a boundary -/

/-- What a linear scan finds at a position of a sequence. -/
inductive Site (types : List FuncType) (code : List UInt8) (pc : Nat) : Prop where
  | simple {instr : Simple} {pc' : Nat} : simpleAt code pc = some (instr, pc') → Site types code pc
  | opener {kind : ControlKind} {signature : BlockSignature} {bodyPc endPc : Nat}
      {elsePc : Option Nat} :
      BlockAt types code pc kind signature bodyPc elsePc endPc → Site types code pc
  | terminator : Terminator code pc → Site types code pc

/-- A position that is reached inside the first of two adjacent stretches, at the
terminator between them, or inside the second. -/
theorem Site.onwards {start landmark finish : Nat} (toLandmark : Walk types code start landmark)
    (terminator : Terminator code landmark) (walk : Walk types code start pc)
    (inside : pc < finish)
    (first : ∀ {pc}, Walk types code start pc → pc < landmark → Site types code pc)
    (second : ∀ {pc}, Walk types code (landmark + 1) pc → pc < finish → Site types code pc) :
    Site types code pc := by
  rcases toLandmark.split walk with before | rfl | ⟨next, ends, beyond⟩
  · exact first walk before
  · exact .terminator terminator
  · cases ends.symm.trans (instrEnd_terminator terminator)
    exact second beyond inside

/-- A block is found at its opener, and what is in it behind that. -/
theorem Site.within {opener bodyPc : Nat} (walk : Walk types code opener pc)
    (here : Site types code opener) (ends : instrEnd types code opener = some bodyPc)
    (behind : Walk types code bodyPc pc → Site types code pc) : Site types code pc := by
  by_cases same : opener = pc
  · exact same ▸ here
  · obtain ⟨first, ends', rest⟩ := walk.head same
    cases ends.symm.trans ends'
    exact behind rest

theorem Encodes.site {instrs : Instrs} {start finish : Nat}
    (encodes : Encodes types code start instrs finish) (walk : Walk types code start pc)
    (inside : pc < finish) : Site types code pc := by
  induction encodes generalizing pc with
  | done => exact absurd walk.le (Nat.not_le_of_lt inside)
  | simple decoded _ ih =>
      exact .within walk (.simple decoded) (instrEnd_simple decoded) fun rest => ih rest inside
  | block opcode decoded body endByte _ bodyIH nextIH =>
      refine .within walk (.opener (.block opcode decoded body endByte))
        (instrEnd_opener opcode (blockOpcode_opens _) decoded) fun rest => ?_
      exact .onwards body.walk (.inr endByte) rest inside bodyIH nextIH
  | ifThen opcode decoded body endByte _ bodyIH nextIH =>
      refine .within walk (.opener (.ifThen opcode decoded body endByte))
        (instrEnd_opener opcode (.inr (.inr rfl)) decoded) fun rest => ?_
      exact .onwards body.walk (.inr endByte) rest inside bodyIH nextIH
  | ifElse opcode decoded body elseByte other endByte _ bodyIH otherIH nextIH =>
      refine .within walk (.opener (.ifElse opcode decoded body elseByte other endByte))
        (instrEnd_opener opcode (.inr (.inr rfl)) decoded) fun rest => ?_
      refine .onwards body.walk (.inl elseByte) rest inside bodyIH fun beyond inside => ?_
      exact .onwards other.walk (.inr endByte) beyond inside otherIH nextIH

/-- At every boundary of a body something starts. -/
theorem EncodesBody.site {instrs : Instrs} {endPc : Nat} {opcode : UInt8}
    (body : EncodesBody types code instrs endPc) (boundary : Boundary types code pc)
    (found : code[pc]? = some opcode) : Site types code pc := by
  have inside := (List.getElem?_eq_some_iff.mp found).1
  have last := body.last
  rcases Nat.lt_or_ge pc endPc with before | reached
  · exact body.encodes.site boundary before
  · cases Nat.le_antisymm reached (by omega)
    exact .terminator (.inr body.endByte)

theorem Site.instrEnd (site : Site types code pc) :
    ∃ pc', Spec.instrEnd types code pc = some pc' := by
  cases site with
  | simple decoded => exact ⟨_, instrEnd_simple decoded⟩
  | opener block =>
      cases block with
      | block opcode decoded => exact ⟨_, instrEnd_opener opcode (blockOpcode_opens _) decoded⟩
      | ifThen opcode decoded => exact ⟨_, instrEnd_opener opcode (.inr (.inr rfl)) decoded⟩
      | ifElse opcode decoded => exact ⟨_, instrEnd_opener opcode (.inr (.inr rfl)) decoded⟩
  | terminator terminator => exact ⟨_, instrEnd_terminator terminator⟩

/-- Every opener at a boundary of a body has a match. -/
theorem EncodesBody.blockAt {instrs : Instrs} {endPc : Nat} {opcode : UInt8}
    (body : EncodesBody types code instrs endPc) (boundary : Boundary types code pc)
    (found : code[pc]? = some opcode) (opens : opcode = 0x02 ∨ opcode = 0x03 ∨ opcode = 0x04) :
    ∃ kind signature bodyPc elsePc endPc,
      BlockAt types code pc kind signature bodyPc elsePc endPc := by
  cases body.site boundary found with
  | simple decoded => exact (simpleAt_notOpener found opens decoded).elim
  | opener block => exact ⟨_, _, _, _, _, block⟩
  | terminator terminator => exact (opener_notTerminator found opens terminator).elim

end MiniWasm.Spec
