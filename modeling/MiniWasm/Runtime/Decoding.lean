import MiniWasm.Library.Result
import MiniWasm.Runtime.Frame
import MiniWasm.Spec.Grammar

/-!
# The interpreter and the scanner decode by the grammar

Where the binary grammar finds an instruction, the readers of the interpreter
read the same immediates and stop at the same position, and the control scanner
skips exactly them.
-/

namespace MiniWasm.Runtime

open Library

variable {code : List UInt8} {pc pc' : Nat}

/-! ## Immediates -/

theorem readWith_of_integer {α : Type} {decode : List UInt8 → Except ParseError (α × Nat)}
    {value : α} (found : Spec.integer code decode pc = some (value, pc')) :
    readWith code pc decode = .ok (value, pc') := by
  unfold Spec.integer at found
  unfold readWith
  cases decoded : decode (code.drop pc) with
  | error err =>
    rw [decoded] at found
    cases found
  | ok result =>
    rw [decoded] at found
    cases found
    rfl

theorem readU32_of {value : Nat} (found : Spec.u32 code pc = some (value, pc')) :
    readU32Immediate code pc = .ok (value, pc') :=
  readWith_of_integer found

theorem readU64_of {value : Nat} (found : Spec.u64 code pc = some (value, pc')) :
    readU64Immediate code pc = .ok (value, pc') :=
  readWith_of_integer found

theorem readByte_of {value : UInt8} {missing : RuntimeError}
    (found : Spec.byte code pc = some (value, pc')) :
    readByte code pc missing = .ok (value, pc') := by
  unfold Spec.byte at found
  unfold readByte
  cases present : code[pc]? with
  | none => simp [present] at found
  | some byte => simpa [present] using found

theorem readBytes_of {width : Nat} {value : List UInt8} {missing : RuntimeError}
    (found : Spec.bytes code width pc = some (value, pc')) :
    readBytes code pc width missing = .ok (value, pc') := by
  unfold Spec.bytes at found
  unfold readBytes
  split_ifs at found ⊢
  cases found
  rfl

theorem fromLeBytes_eq_littleEndian (bytes : List UInt8) :
    LinearMemory.fromLeBytes bytes = Spec.littleEndian bytes := by
  induction bytes with
  | nil => rfl
  | cons byte rest ih => rw [LinearMemory.fromLeBytes, Spec.littleEndian, ih]

theorem readMemarg_of {arg : Memarg} (found : Spec.memarg code pc = some (arg, pc')) :
    readMemarg code pc = .ok (arg, pc') := by
  simp only [Spec.memarg, Option.bind_eq_bind, Option.bind_eq_some_iff, Prod.exists] at found
  obtain ⟨flags, next, flagsAt, found⟩ := found
  simp only [readMemarg, readU32_of flagsAt, ok_bind]
  split_ifs at found ⊢
  · simp only [Option.bind_eq_some_iff, Prod.exists] at found
    obtain ⟨memory, _, memoryAt, offset, _, offsetAt, same⟩ := found
    cases same
    simp only [readU32_of memoryAt, ok_bind, readU64_of offsetAt]
    rfl
  · simp only [Option.bind_eq_some_iff, Prod.exists] at found
    obtain ⟨offset, _, offsetAt, same⟩ := found
    cases same
    simp only [readU64_of offsetAt, ok_bind]
    rfl

theorem readTypedSelectType_of {type : ValueType}
    (found : Spec.selectType code pc = some (type, pc')) :
    readTypedSelectType code pc = .ok (type, pc') := by
  simp only [Spec.selectType, Option.bind_eq_bind, Option.bind_eq_some_iff, Prod.exists]
    at found
  obtain ⟨count, next, countAt, found⟩ := found
  simp only [readTypedSelectType, readU32_of countAt, ok_bind]
  split_ifs at found ⊢
  simp only [Option.bind_eq_some_iff, Prod.exists] at found
  obtain ⟨tag, _, tagAt, type, typeAt, same⟩ := found
  cases same
  simp only [readByte_of tagAt, ok_bind]
  unfold Spec.valueType at typeAt
  split_ifs at typeAt ⊢ <;> cases typeAt <;> rfl

theorem readBlockSignature_of {types : List FuncType} {signature : BlockSignature}
    (found : Spec.blockType code types pc = some (signature, pc')) :
    readBlockSignature code pc types = .ok (signature, pc') := by
  simp only [Spec.blockType, Option.bind_eq_bind, Option.bind_eq_some_iff, Prod.exists]
    at found
  obtain ⟨first, next, firstAt, found⟩ := found
  simp only [readBlockSignature, readByte_of firstAt, ok_bind]
  split_ifs at found ⊢ <;> try (cases found; rfl)
  simp only [Option.bind_eq_some_iff, Prod.exists] at found
  obtain ⟨raw, _, rawAt, found⟩ := found
  split_ifs at found with outside
  simp only [not_or] at outside
  obtain ⟨type, typeAt, same⟩ := Option.bind_eq_some_iff.mp found
  cases same
  simp only [readWith_of_integer rawAt, ok_bind, if_neg outside.1, if_neg outside.2, typeAt]
  rfl

/-! ## Vector instructions -/

theorem simdShape_cases {subopcode : Nat} {shape : SimdShape}
    (found : Spec.simdShape subopcode = some shape) :
    shape = .memarg ∧ (subopcode ≤ 11 ∨ subopcode = 92 ∨ subopcode = 93) ∨
      shape = .bytes ∧ subopcode = 12 ∨
      shape = .shuffle ∧ subopcode = 13 ∨
      shape = .lane (laneLimit subopcode) ∧ 21 ≤ subopcode ∧ subopcode ≤ 34 ∨
      shape = .memargLane (laneLimit subopcode) ∧ 84 ≤ subopcode ∧ subopcode ≤ 91 ∨
      shape = .none ∧ bareSimd subopcode = true := by
  have laneLimit_eq : ∀ subopcode < 92, 21 ≤ subopcode ∧ subopcode ≤ 34 ∨ 84 ≤ subopcode →
      laneLimit subopcode = Spec.laneCount subopcode := by decide
  have bare : ∀ subopcode < 276, Spec.simdShape subopcode = some .none →
      bareSimd subopcode = true := by decide +kernel
  have shapeFound := found
  unfold Spec.simdShape at found
  rcases ite_cases found with ⟨range, found⟩ | ⟨_, found⟩
  · cases found
    exact .inl ⟨rfl, range⟩
  rcases ite_cases found with ⟨range, found⟩ | ⟨_, found⟩
  · cases found
    exact .inr (.inl ⟨rfl, range⟩)
  rcases ite_cases found with ⟨range, found⟩ | ⟨_, found⟩
  · cases found
    exact .inr (.inr (.inl ⟨rfl, range⟩))
  rcases ite_cases found with ⟨range, found⟩ | ⟨_, found⟩
  · cases found
    rw [laneLimit_eq subopcode (by omega) (.inl range)]
    exact .inr (.inr (.inr (.inl ⟨rfl, range⟩)))
  rcases ite_cases found with ⟨range, found⟩ | ⟨_, found⟩
  · cases found
    rw [laneLimit_eq subopcode (by omega) (.inr range.1)]
    exact .inr (.inr (.inr (.inr (.inl ⟨rfl, range⟩))))
  rcases ite_cases found with ⟨_, found⟩ | ⟨_, found⟩
  · cases found
  rcases ite_cases found with ⟨range, found⟩ | ⟨_, found⟩
  · cases found
    exact .inr (.inr (.inr (.inr (.inr ⟨rfl, bare subopcode (by omega) shapeFound⟩))))
  · cases found

/-- An opcode without an immediate lies outside the ranges that have one. -/
theorem bareSimd_ranges {subopcode : Nat} (bare : bareSimd subopcode = true) :
    11 < subopcode ∧ subopcode ≠ 12 ∧ subopcode ≠ 13 ∧
      ¬ (21 ≤ subopcode ∧ subopcode ≤ 34) ∧ ¬ (84 ≤ subopcode ∧ subopcode ≤ 91) ∧
      subopcode ≠ 92 ∧ subopcode ≠ 93 := by
  simp only [bareSimd, Bool.or_eq_true, Bool.and_eq_true, decide_eq_true_eq, beq_iff_eq] at bare
  omega

theorem readLaneIndex_of {arm : String} {limit lane : Nat}
    (found : Spec.laneIndex code limit pc = some (lane, pc')) :
    readLaneIndex code pc arm limit = .ok (lane, pc') := by
  simp only [Spec.laneIndex, Option.bind_eq_bind, Option.bind_eq_some_iff, Prod.exists]
    at found
  obtain ⟨byte, next, byteAt, found⟩ := found
  split_ifs at found with inside
  cases found
  simp only [readLaneIndex, readByte_of byteAt, ok_bind, if_neg (Nat.not_le.mpr inside)]
  rfl

theorem skipLane_of {subopcode lane : Nat}
    (found : Spec.laneIndex code (laneLimit subopcode) pc = some (lane, pc')) :
    skipLane code pc subopcode = .ok pc' := by
  simp only [Spec.laneIndex, Option.bind_eq_bind, Option.bind_eq_some_iff, Prod.exists]
    at found
  obtain ⟨byte, next, byteAt, found⟩ := found
  split_ifs at found with inside
  cases found
  simp only [skipLane, readByte_of byteAt, ok_bind, if_neg (Nat.not_le.mpr inside)]
  rfl

/-- The lanes of a shuffle are in range. -/
theorem shuffle_inRange {lanes : List UInt8} (small : lanes.all (·.toNat < 32) = true) :
    lanes.any (32 ≤ ·.toNat) = false := by
  simpa [List.all_eq_true] using small

theorem skipMemarg_of {arg : Memarg} (found : Spec.memarg code pc = some (arg, pc')) :
    skipMemarg code pc = .ok pc' := by
  simp only [skipMemarg, readMemarg_of found, ok_bind]
  rfl

theorem scanSimd_of {instr : Plain} (found : Spec.simd code pc = some (instr, pc')) :
    scanSimd code pc = .ok pc' := by
  simp only [Spec.simd, Option.bind_eq_bind, Option.bind_eq_some_iff, Prod.exists] at found
  obtain ⟨subopcode, next, subopcodeAt, shape, shapeFound, immediate, _, immediateAt, same⟩ :=
    found
  cases same
  simp only [scanSimd, readU32_of subopcodeAt, ok_bind]
  rcases simdShape_cases shapeFound with ⟨rfl, range⟩ | ⟨rfl, rfl⟩ | ⟨rfl, rfl⟩ | ⟨rfl, range⟩ |
    ⟨rfl, range⟩ | ⟨rfl, bare⟩
  · simp only [Spec.simdImmediate, Option.bind_eq_bind, Option.bind_eq_some_iff,
      Prod.exists] at immediateAt
    obtain ⟨arg, _, argAt, same⟩ := immediateAt
    cases same
    rcases range with small | rfl | rfl
    · rw [if_pos small]
      exact skipMemarg_of argAt
    · exact skipMemarg_of argAt
    · exact skipMemarg_of argAt
  · simp only [Spec.simdImmediate, Option.bind_eq_bind, Option.bind_eq_some_iff,
      Prod.exists] at immediateAt
    obtain ⟨value, _, bytesAt, same⟩ := immediateAt
    cases same
    simp [readBytes_of bytesAt, pure_ok]
  · simp only [Spec.simdImmediate, Option.bind_eq_bind, Option.bind_eq_some_iff,
      Prod.exists] at immediateAt
    obtain ⟨lanes, _, bytesAt, checked⟩ := immediateAt
    split_ifs at checked with small
    cases checked
    simpa [skipShuffle, readBytes_of bytesAt, pure_ok, List.all_eq_true] using small
  · simp only [Spec.simdImmediate, Option.bind_eq_bind, Option.bind_eq_some_iff,
      Prod.exists] at immediateAt
    obtain ⟨lane, _, laneAt, same⟩ := immediateAt
    cases same
    have notBare : ¬ bareSimd subopcode = true := fun bare =>
      (bareSimd_ranges bare).2.2.2.1 range
    simp (disch := omega) only [if_neg, notBare, if_pos range]
    exact skipLane_of laneAt
  · simp only [Spec.simdImmediate, Option.bind_eq_bind, Option.bind_eq_some_iff,
      Prod.exists] at immediateAt
    obtain ⟨arg, next, argAt, lane, _, laneAt, same⟩ := immediateAt
    cases same
    simp (disch := omega) only [if_neg, if_pos range, skipMemarg_of argAt, ok_bind]
    exact skipLane_of laneAt
  · cases immediateAt
    have ranges := bareSimd_ranges bare
    simp (disch := omega) only [if_neg, if_pos bare]
    rfl

/-! ## Instructions behind the prefix `0xfc` -/

theorem skipU32_of {value : Nat} (found : Spec.u32 code pc = some (value, pc')) :
    skipU32 code pc = .ok pc' := by
  simp only [skipU32, readU32_of found, ok_bind]
  rfl

theorem skipU32_of_withU32 {build : Nat → Plain} {instr : Plain}
    (found : Spec.withU32 code build pc = some (instr, pc')) : skipU32 code pc = .ok pc' := by
  simp only [Spec.withU32, Option.bind_eq_bind, Option.bind_eq_some_iff, Prod.exists] at found
  obtain ⟨index, _, indexAt, same⟩ := found
  cases same
  exact skipU32_of indexAt

theorem skipU32Pair_of {first second middle : Nat}
    (firstAt : Spec.u32 code pc = some (first, middle))
    (secondAt : Spec.u32 code middle = some (second, pc')) :
    skipU32Pair code pc = .ok pc' := by
  simp only [skipU32Pair, skipU32_of firstAt, ok_bind, skipU32_of secondAt]

theorem skipU32Pair_of_withU32Pair {build : Nat → Nat → Plain} {instr : Plain}
    (found : Spec.withU32Pair code build pc = some (instr, pc')) :
    skipU32Pair code pc = .ok pc' := by
  simp only [Spec.withU32Pair, Option.bind_eq_bind, Option.bind_eq_some_iff, Prod.exists]
    at found
  obtain ⟨first, _, firstAt, second, _, secondAt, same⟩ := found
  cases same
  exact skipU32Pair_of firstAt secondAt

theorem scanMisc_of {instr : Plain} (found : Spec.misc code pc = some (instr, pc')) :
    scanMisc code pc = .ok pc' := by
  simp only [Spec.misc, Option.bind_eq_bind, Option.bind_eq_some_iff, Prod.exists] at found
  obtain ⟨subopcode, next, subopcodeAt, found⟩ := found
  simp only [scanMisc, readU32_of subopcodeAt, ok_bind]
  rcases ite_cases found with ⟨small, found⟩ | ⟨large, found⟩
  · cases found
    rw [if_pos small]
    rfl
  rw [if_neg large]
  rcases ite_cases found with ⟨rfl, found⟩ | ⟨-, found⟩
  · exact skipU32Pair_of_withU32Pair found
  rcases ite_cases found with ⟨rfl, found⟩ | ⟨-, found⟩
  · exact skipU32_of_withU32 found
  rcases ite_cases found with ⟨rfl, found⟩ | ⟨-, found⟩
  · exact skipU32Pair_of_withU32Pair found
  rcases ite_cases found with ⟨rfl, found⟩ | ⟨-, found⟩
  · exact skipU32_of_withU32 found
  rcases ite_cases found with ⟨rfl, found⟩ | ⟨-, found⟩
  · exact skipU32Pair_of_withU32Pair found
  rcases ite_cases found with ⟨rfl, found⟩ | ⟨-, found⟩
  · exact skipU32_of_withU32 found
  rcases ite_cases found with ⟨rfl, found⟩ | ⟨-, found⟩
  · exact skipU32Pair_of_withU32Pair found
  rcases ite_cases found with ⟨rfl, found⟩ | ⟨-, found⟩
  · exact skipU32_of_withU32 found
  rcases ite_cases found with ⟨rfl, found⟩ | ⟨-, found⟩
  · exact skipU32_of_withU32 found
  rcases ite_cases found with ⟨rfl, found⟩ | ⟨-, found⟩
  · exact skipU32_of_withU32 found
  · cases found

/-! ## The scanner -/

theorem skipTargets_of {count : Nat} {depths : List Nat}
    (found : Spec.targets code count pc = some (depths, pc')) :
    skipTargets code count pc = .ok pc' := by
  induction count generalizing pc depths with
  | zero =>
      cases found
      rfl
  | succ count ih =>
      simp only [Spec.targets, Option.bind_eq_bind, Option.bind_eq_some_iff, Prod.exists]
        at found
      obtain ⟨depth, middle, depthAt, rest, _, restAt, same⟩ := found
      cases same
      simp only [skipTargets, skipU32_of depthAt, ok_bind]
      exact ih restAt

theorem readFixedU32_of {digits : List UInt8}
    (found : Spec.bytes code 4 pc = some (digits, pc')) :
    readFixedU32 code pc = .ok (BitVec.ofNat 32 (Spec.littleEndian digits), pc') := by
  simp only [readFixedU32, readBytes_of found, ok_bind, fromLeBytes_eq_littleEndian]
  rfl

theorem readFixedU64_of {digits : List UInt8}
    (found : Spec.bytes code 8 pc = some (digits, pc')) :
    readFixedU64 code pc = .ok (BitVec.ofNat 64 (Spec.littleEndian digits), pc') := by
  simp only [readFixedU64, readBytes_of found, ok_bind, fromLeBytes_eq_littleEndian]
  rfl

theorem readReferenceType_of {tag : UInt8} (found : Spec.byte code pc = some (tag, pc'))
    (funcref : tag = 0x70) : readReferenceType code pc = .ok pc' := by
  simp only [readReferenceType, readByte_of found, ok_bind, funcref]
  rfl

/-- The scanner skips the immediates of a plain instruction. -/
theorem scanPlain_of {opcode : Nat} {instr : Plain}
    (found : Spec.plainImmediates code opcode pc = some (instr, pc')) :
    scanImmediates code pc opcode = .ok pc' := by
  unfold Spec.plainImmediates at found
  simp only [Option.bind_eq_bind] at found
  replace found := ite_cases found
  rcases found with ⟨rfl, found⟩ | ⟨-, found⟩
  · cases found
    rfl
  replace found := ite_cases found
  rcases found with ⟨rfl, found⟩ | ⟨-, found⟩
  · cases found
    rfl
  replace found := ite_cases found
  rcases found with ⟨rfl, found⟩ | ⟨-, found⟩
  · cases found
    rfl
  replace found := ite_cases found
  rcases found with ⟨rfl, found⟩ | ⟨-, found⟩
  · simp only [Option.bind_eq_some_iff, Prod.exists] at found
    obtain ⟨type, _, typeAt, same⟩ := found
    cases same
    have read := readTypedSelectType_of typeAt
    simp [scanImmediates, read, pure_ok]
  replace found := ite_cases found
  rcases found with ⟨rfl, found⟩ | ⟨-, found⟩
  · exact skipU32_of_withU32 found
  replace found := ite_cases found
  rcases found with ⟨rfl, found⟩ | ⟨-, found⟩
  · exact skipU32_of_withU32 found
  replace found := ite_cases found
  rcases found with ⟨rfl, found⟩ | ⟨-, found⟩
  · exact skipU32_of_withU32 found
  replace found := ite_cases found
  rcases found with ⟨rfl, found⟩ | ⟨-, found⟩
  · exact skipU32_of_withU32 found
  replace found := ite_cases found
  rcases found with ⟨rfl, found⟩ | ⟨-, found⟩
  · exact skipU32_of_withU32 found
  replace found := ite_cases found
  rcases found with ⟨rfl, found⟩ | ⟨-, found⟩
  · exact skipU32_of_withU32 found
  replace found := ite_cases found
  rcases found with ⟨rfl, found⟩ | ⟨-, found⟩
  · exact skipU32_of_withU32 found
  replace found := ite_cases found
  rcases found with ⟨range, found⟩ | ⟨-, found⟩
  · simp only [Option.bind_eq_some_iff, Prod.exists] at found
    obtain ⟨arg, _, argAt, same⟩ := found
    cases same
    have memoryRange : 0x28 ≤ opcode ∧ opcode ≤ 0x3e := by omega
    rw [scanImmediates, if_neg (by simp; omega), if_neg (by omega), if_neg (by omega),
      if_neg (by omega), if_pos memoryRange]
    exact skipMemarg_of argAt
  replace found := ite_cases found
  rcases found with ⟨range, found⟩ | ⟨-, found⟩
  · simp only [Option.bind_eq_some_iff, Prod.exists] at found
    obtain ⟨arg, _, argAt, same⟩ := found
    cases same
    have memoryRange : 0x28 ≤ opcode ∧ opcode ≤ 0x3e := by omega
    rw [scanImmediates, if_neg (by simp; omega), if_neg (by omega), if_neg (by omega),
      if_neg (by omega), if_pos memoryRange]
    exact skipMemarg_of argAt
  replace found := ite_cases found
  rcases found with ⟨rfl, found⟩ | ⟨-, found⟩
  · exact skipU32_of_withU32 found
  replace found := ite_cases found
  rcases found with ⟨rfl, found⟩ | ⟨-, found⟩
  · exact skipU32_of_withU32 found
  replace found := ite_cases found
  rcases found with ⟨rfl, found⟩ | ⟨-, found⟩
  · simp only [Option.bind_eq_some_iff, Prod.exists] at found
    obtain ⟨value, _, valueAt, same⟩ := found
    cases same
    have read := readWith_of_integer valueAt
    simp [scanImmediates, read, pure_ok]
  replace found := ite_cases found
  rcases found with ⟨rfl, found⟩ | ⟨-, found⟩
  · simp only [Option.bind_eq_some_iff, Prod.exists] at found
    obtain ⟨value, _, valueAt, same⟩ := found
    cases same
    have read := readWith_of_integer valueAt
    simp [scanImmediates, read, pure_ok]
  replace found := ite_cases found
  rcases found with ⟨rfl, found⟩ | ⟨-, found⟩
  · simp only [Option.bind_eq_some_iff, Prod.exists] at found
    obtain ⟨bits, _, bitsAt, same⟩ := found
    cases same
    have read := readFixedU32_of bitsAt
    simp [scanImmediates, read, pure_ok]
  replace found := ite_cases found
  rcases found with ⟨rfl, found⟩ | ⟨-, found⟩
  · simp only [Option.bind_eq_some_iff, Prod.exists] at found
    obtain ⟨bits, _, bitsAt, same⟩ := found
    cases same
    have read := readFixedU64_of bitsAt
    simp [scanImmediates, read, pure_ok]
  replace found := ite_cases found
  rcases found with ⟨range, found⟩ | ⟨-, found⟩
  · cases found
    rw [scanImmediates, if_neg (by simp; omega), if_neg (by omega), if_neg (by omega),
      if_neg (by omega), if_neg (by omega), if_neg (by omega), if_neg (by omega),
      if_neg (by omega), if_neg (by omega), if_pos (.inr range)]
    rfl
  replace found := ite_cases found
  rcases found with ⟨rfl, found⟩ | ⟨-, found⟩
  · simp only [Option.bind_eq_some_iff, Prod.exists] at found
    obtain ⟨tag, _, tagAt, found⟩ := found
    split_ifs at found with funcref
    cases found
    exact readReferenceType_of tagAt funcref
  replace found := ite_cases found
  rcases found with ⟨rfl, found⟩ | ⟨-, found⟩
  · cases found
    rfl
  replace found := ite_cases found
  rcases found with ⟨rfl, found⟩ | ⟨-, found⟩
  · exact skipU32_of_withU32 found
  replace found := ite_cases found
  rcases found with ⟨rfl, found⟩ | ⟨-, found⟩
  · exact scanMisc_of found
  replace found := ite_cases found
  rcases found with ⟨rfl, found⟩ | ⟨-, found⟩
  · exact scanSimd_of found
  · cases found

theorem scanImmediates_of {opcode : Nat} {instr : Simple}
    (found : Spec.simpleImmediates code opcode pc = some (instr, pc')) :
    scanImmediates code pc opcode = .ok pc' := by
  unfold Spec.simpleImmediates at found
  simp only [Option.bind_eq_bind] at found
  replace found := ite_cases found
  rcases found with ⟨rfl, found⟩ | ⟨-, found⟩
  · cases found
    rfl
  replace found := ite_cases found
  rcases found with ⟨rfl, found⟩ | ⟨-, found⟩
  · simp only [Option.bind_eq_some_iff, Prod.exists] at found
    obtain ⟨depth, _, depthAt, same⟩ := found
    cases same
    exact skipU32_of depthAt
  replace found := ite_cases found
  rcases found with ⟨rfl, found⟩ | ⟨-, found⟩
  · simp only [Option.bind_eq_some_iff, Prod.exists] at found
    obtain ⟨depth, _, depthAt, same⟩ := found
    cases same
    exact skipU32_of depthAt
  replace found := ite_cases found
  rcases found with ⟨rfl, found⟩ | ⟨-, found⟩
  · simp only [Option.bind_eq_some_iff, Prod.exists] at found
    obtain ⟨count, _, countAt, depths, _, depthsAt, default, _, defaultAt, same⟩ := found
    cases same
    simp [scanImmediates, readU32_of countAt, skipTargets_of depthsAt, skipU32_of defaultAt]
  replace found := ite_cases found
  rcases found with ⟨rfl, found⟩ | ⟨-, found⟩
  · cases found
    rfl
  replace found := ite_cases found
  rcases found with ⟨rfl, found⟩ | ⟨-, found⟩
  · simp only [Option.bind_eq_some_iff, Prod.exists] at found
    obtain ⟨function, _, functionAt, same⟩ := found
    cases same
    exact skipU32_of functionAt
  replace found := ite_cases found
  rcases found with ⟨rfl, found⟩ | ⟨-, found⟩
  · simp only [Option.bind_eq_some_iff, Prod.exists] at found
    obtain ⟨type, _, typeAt, table, _, tableAt, same⟩ := found
    cases same
    exact skipU32Pair_of typeAt tableAt
  replace found := ite_cases found
  rcases found with ⟨rfl, found⟩ | ⟨-, found⟩
  · simp only [Option.bind_eq_some_iff, Prod.exists] at found
    obtain ⟨function, _, functionAt, same⟩ := found
    cases same
    exact skipU32_of functionAt
  replace found := ite_cases found
  rcases found with ⟨rfl, found⟩ | ⟨-, found⟩
  · simp only [Option.bind_eq_some_iff, Prod.exists] at found
    obtain ⟨type, _, typeAt, table, _, tableAt, same⟩ := found
    cases same
    exact skipU32Pair_of typeAt tableAt
  · simp only [Option.bind_eq_some_iff, Prod.exists] at found
    obtain ⟨instr, _, decoded, same⟩ := found
    cases same
    exact scanPlain_of decoded

/-! ## The interpreter -/

section Interpreter

variable {code : List UInt8} {pc pc' memoryCount : Nat} {instr : Plain}

theorem withU32_of {build : Nat → Plain}
    (found : Spec.withU32 code build pc = some (instr, pc')) :
    withU32 code pc build = .ok (instr, pc') := by
  simp only [Spec.withU32, Option.bind_eq_bind, Option.bind_eq_some_iff, Prod.exists] at found
  obtain ⟨index, _, indexAt, same⟩ := found
  cases same
  simp only [withU32, readU32_of indexAt, ok_bind]
  rfl

theorem withU32Pair_of {build : Nat → Nat → Plain}
    (found : Spec.withU32Pair code build pc = some (instr, pc')) :
    withU32Pair code pc build = .ok (instr, pc') := by
  simp only [Spec.withU32Pair, Option.bind_eq_bind, Option.bind_eq_some_iff, Prod.exists]
    at found
  obtain ⟨first, _, firstAt, second, _, secondAt, same⟩ := found
  cases same
  simp only [withU32Pair, readU32_of firstAt, readU32_of secondAt, ok_bind]
  rfl

theorem ensureRuntimeMemoryIndex_of {index : Nat} (known : index < memoryCount) :
    ensureRuntimeMemoryIndex memoryCount index = .ok () :=
  if_pos known

theorem readRuntimeMemarg_of {arg : Memarg} (found : Spec.memarg code pc = some (arg, pc'))
    (known : arg.memory < memoryCount) :
    readRuntimeMemarg code pc memoryCount = .ok (arg, pc') := by
  simp only [readRuntimeMemarg, readMemarg_of found, ok_bind, ensureRuntimeMemoryIndex_of known]
  rfl

theorem readRuntimeMemoryIndex_of {memory : Nat}
    (found : Spec.u32 code pc = some (memory, pc')) (known : memory < memoryCount) :
    readRuntimeMemoryIndex code pc memoryCount = .ok (memory, pc') := by
  simp only [readRuntimeMemoryIndex, readU32_of found, ok_bind,
    ensureRuntimeMemoryIndex_of known]
  rfl

theorem readSimd_of (found : Spec.simd code pc = some (instr, pc'))
    (known : ∀ memory ∈ instr.memories, memory < memoryCount) :
    readSimd code pc memoryCount = .ok (instr, pc') := by
  simp only [Spec.simd, Option.bind_eq_bind, Option.bind_eq_some_iff, Prod.exists] at found
  obtain ⟨subopcode, next, subopcodeAt, shape, shapeFound, immediate, _, immediateAt, same⟩ :=
    found
  cases same
  simp only [readSimd, readU32_of subopcodeAt, ok_bind]
  suffices read : readSimdImmediate code next memoryCount subopcode = .ok (immediate, pc') by
    rw [read]
    rfl
  unfold readSimdImmediate
  rcases simdShape_cases shapeFound with ⟨rfl, range⟩ | ⟨rfl, rfl⟩ | ⟨rfl, rfl⟩ | ⟨rfl, range⟩ |
    ⟨rfl, range⟩ | ⟨rfl, bare⟩
  · simp only [Spec.simdImmediate, Option.bind_eq_bind, Option.bind_eq_some_iff,
      Prod.exists] at immediateAt
    obtain ⟨arg, _, argAt, same⟩ := immediateAt
    cases same
    have memoryKnown : arg.memory < memoryCount := known _ (by simp [Plain.memories])
    rw [if_pos range, readRuntimeMemarg_of argAt memoryKnown]
    rfl
  · simp only [Spec.simdImmediate, Option.bind_eq_bind, Option.bind_eq_some_iff,
      Prod.exists] at immediateAt
    obtain ⟨value, _, bytesAt, same⟩ := immediateAt
    cases same
    simp [readBytes_of bytesAt, pure_ok]
  · simp only [Spec.simdImmediate, Option.bind_eq_bind, Option.bind_eq_some_iff,
      Prod.exists] at immediateAt
    obtain ⟨lanes, _, bytesAt, checked⟩ := immediateAt
    split_ifs at checked with small
    cases checked
    simp only [readShuffleLanes, readBytes_of bytesAt, ok_bind, shuffle_inRange small]
    rfl
  · simp only [Spec.simdImmediate, Option.bind_eq_bind, Option.bind_eq_some_iff,
      Prod.exists] at immediateAt
    obtain ⟨lane, _, laneAt, same⟩ := immediateAt
    cases same
    rw [if_neg (by omega), if_neg (by omega), if_neg (by omega), if_neg (by omega),
      if_pos range, readLaneIndex_of laneAt]
    rfl
  · simp only [Spec.simdImmediate, Option.bind_eq_bind, Option.bind_eq_some_iff,
      Prod.exists] at immediateAt
    obtain ⟨arg, next, argAt, lane, _, laneAt, same⟩ := immediateAt
    cases same
    have memoryKnown : arg.memory < memoryCount := known _ (by simp [Plain.memories])
    rw [if_neg (by omega), if_pos range, readRuntimeMemarg_of argAt memoryKnown, ok_bind]
    simp only [readLaneIndex_of laneAt, ok_bind]
    rfl
  · cases immediateAt
    have ranges := bareSimd_ranges bare
    rw [if_neg (by omega), if_neg (by omega), if_neg (by omega), if_neg (by omega),
      if_neg (by omega)]
    rfl

theorem readMisc_of (found : Spec.misc code pc = some (instr, pc'))
    (known : ∀ memory ∈ instr.memories, memory < memoryCount) :
    readMisc code pc memoryCount = .ok (instr, pc') := by
  simp only [Spec.misc, Option.bind_eq_bind, Option.bind_eq_some_iff, Prod.exists] at found
  obtain ⟨subopcode, next, subopcodeAt, found⟩ := found
  simp only [readMisc, readU32_of subopcodeAt, ok_bind]
  replace found := ite_cases found
  rcases found with ⟨small, found⟩ | ⟨large, found⟩
  · cases found
    rw [if_pos small]
    rfl
  rw [if_neg large]
  replace found := ite_cases found
  rcases found with ⟨rfl, found⟩ | ⟨-, found⟩
  · simp only [Spec.withU32Pair, Option.bind_eq_bind, Option.bind_eq_some_iff, Prod.exists]
      at found
    obtain ⟨data, _, dataAt, memory, _, memoryAt, same⟩ := found
    cases same
    have memoryKnown : memory < memoryCount := known _ (by simp [Plain.memories])
    simp [readU32_of dataAt, readU32_of memoryAt, ensureRuntimeMemoryIndex_of memoryKnown,
      pure_ok]
  replace found := ite_cases found
  rcases found with ⟨rfl, found⟩ | ⟨-, found⟩
  · exact withU32_of found
  replace found := ite_cases found
  rcases found with ⟨rfl, found⟩ | ⟨-, found⟩
  · simp only [Spec.withU32Pair, Option.bind_eq_bind, Option.bind_eq_some_iff, Prod.exists]
      at found
    obtain ⟨destination, _, destinationAt, source, _, sourceAt, same⟩ := found
    cases same
    have destinationKnown : destination < memoryCount := known _ (by simp [Plain.memories])
    have sourceKnown : source < memoryCount := known _ (by simp [Plain.memories])
    simp [readU32_of destinationAt, readU32_of sourceAt,
      ensureRuntimeMemoryIndex_of destinationKnown, ensureRuntimeMemoryIndex_of sourceKnown,
      pure_ok]
  replace found := ite_cases found
  rcases found with ⟨rfl, found⟩ | ⟨-, found⟩
  · simp only [Spec.withU32, Option.bind_eq_bind, Option.bind_eq_some_iff, Prod.exists]
      at found
    obtain ⟨memory, _, memoryAt, same⟩ := found
    cases same
    have memoryKnown : memory < memoryCount := known _ (by simp [Plain.memories])
    simp [readU32_of memoryAt, ensureRuntimeMemoryIndex_of memoryKnown, pure_ok]
  replace found := ite_cases found
  rcases found with ⟨rfl, found⟩ | ⟨-, found⟩
  · exact withU32Pair_of found
  replace found := ite_cases found
  rcases found with ⟨rfl, found⟩ | ⟨-, found⟩
  · exact withU32_of found
  replace found := ite_cases found
  rcases found with ⟨rfl, found⟩ | ⟨-, found⟩
  · exact withU32Pair_of found
  replace found := ite_cases found
  rcases found with ⟨rfl, found⟩ | ⟨-, found⟩
  · exact withU32_of found
  replace found := ite_cases found
  rcases found with ⟨rfl, found⟩ | ⟨-, found⟩
  · exact withU32_of found
  replace found := ite_cases found
  rcases found with ⟨rfl, found⟩ | ⟨-, found⟩
  · exact withU32_of found
  · cases found

/-- The interpreter reads a plain instruction as the grammar does when the
memories it names exist. -/
theorem readPlain_of {opcode : Nat}
    (found : Spec.plainImmediates code opcode pc = some (instr, pc'))
    (known : ∀ memory ∈ instr.memories, memory < memoryCount) :
    readPlain code pc memoryCount opcode = .ok (instr, pc') := by
  unfold Spec.plainImmediates at found
  simp only [Option.bind_eq_bind] at found
  unfold readPlain
  replace found := ite_cases found
  rcases found with ⟨rfl, found⟩ | ⟨no01, found⟩
  · cases found
    rfl
  replace found := ite_cases found
  rcases found with ⟨rfl, found⟩ | ⟨no1a, found⟩
  · cases found
    rfl
  replace found := ite_cases found
  rcases found with ⟨rfl, found⟩ | ⟨no1b, found⟩
  · cases found
    rfl
  replace found := ite_cases found
  rcases found with ⟨rfl, found⟩ | ⟨no1c, found⟩
  · simp only [Option.bind_eq_some_iff, Prod.exists] at found
    obtain ⟨type, _, typeAt, same⟩ := found
    cases same
    have read := readTypedSelectType_of typeAt
    simp [read, pure_ok]
  rw [if_neg no01, if_neg no1a, if_neg no1b, if_neg no1c]
  replace found := ite_cases found
  rcases found with ⟨rfl, found⟩ | ⟨no20, found⟩
  · exact withU32_of found
  replace found := ite_cases found
  rcases found with ⟨rfl, found⟩ | ⟨no21, found⟩
  · exact withU32_of found
  replace found := ite_cases found
  rcases found with ⟨rfl, found⟩ | ⟨no22, found⟩
  · exact withU32_of found
  replace found := ite_cases found
  rcases found with ⟨rfl, found⟩ | ⟨no23, found⟩
  · exact withU32_of found
  replace found := ite_cases found
  rcases found with ⟨rfl, found⟩ | ⟨no24, found⟩
  · exact withU32_of found
  replace found := ite_cases found
  rcases found with ⟨rfl, found⟩ | ⟨no25, found⟩
  · exact withU32_of found
  replace found := ite_cases found
  rcases found with ⟨rfl, found⟩ | ⟨no26, found⟩
  · exact withU32_of found
  rw [if_neg no20, if_neg no21, if_neg no22, if_neg no23, if_neg no24, if_neg no25, if_neg no26]
  replace found := ite_cases found
  rcases found with ⟨range, found⟩ | ⟨noLoad, found⟩
  · simp only [Option.bind_eq_some_iff, Prod.exists] at found
    obtain ⟨arg, _, argAt, same⟩ := found
    cases same
    have memoryKnown : arg.memory < memoryCount := known _ (by simp [Plain.memories])
    rw [if_pos range, readRuntimeMemarg_of argAt memoryKnown]
    rfl
  replace found := ite_cases found
  rcases found with ⟨range, found⟩ | ⟨noStore, found⟩
  · simp only [Option.bind_eq_some_iff, Prod.exists] at found
    obtain ⟨arg, _, argAt, same⟩ := found
    cases same
    have memoryKnown : arg.memory < memoryCount := known _ (by simp [Plain.memories])
    rw [if_neg noLoad, if_pos range, readRuntimeMemarg_of argAt memoryKnown]
    rfl
  rw [if_neg noLoad, if_neg noStore]
  replace found := ite_cases found
  rcases found with ⟨rfl, found⟩ | ⟨no3f, found⟩
  · simp only [Spec.withU32, Option.bind_eq_bind, Option.bind_eq_some_iff, Prod.exists]
      at found
    obtain ⟨memory, _, memoryAt, same⟩ := found
    cases same
    have memoryKnown : memory < memoryCount := known _ (by simp [Plain.memories])
    simp [readRuntimeMemoryIndex_of memoryAt memoryKnown, pure_ok]
  replace found := ite_cases found
  rcases found with ⟨rfl, found⟩ | ⟨no40, found⟩
  · simp only [Spec.withU32, Option.bind_eq_bind, Option.bind_eq_some_iff, Prod.exists]
      at found
    obtain ⟨memory, _, memoryAt, same⟩ := found
    cases same
    have memoryKnown : memory < memoryCount := known _ (by simp [Plain.memories])
    simp [readRuntimeMemoryIndex_of memoryAt memoryKnown, pure_ok]
  rw [if_neg no3f, if_neg no40]
  replace found := ite_cases found
  rcases found with ⟨rfl, found⟩ | ⟨no41, found⟩
  · simp only [Option.bind_eq_some_iff, Prod.exists] at found
    obtain ⟨value, _, valueAt, same⟩ := found
    cases same
    have read := readWith_of_integer valueAt
    simp [read, pure_ok]
  replace found := ite_cases found
  rcases found with ⟨rfl, found⟩ | ⟨no42, found⟩
  · simp only [Option.bind_eq_some_iff, Prod.exists] at found
    obtain ⟨value, _, valueAt, same⟩ := found
    cases same
    have read := readWith_of_integer valueAt
    simp [read, pure_ok]
  replace found := ite_cases found
  rcases found with ⟨rfl, found⟩ | ⟨no43, found⟩
  · simp only [Option.bind_eq_some_iff, Prod.exists] at found
    obtain ⟨bits, _, bitsAt, same⟩ := found
    cases same
    have read := readFixedU32_of bitsAt
    simp [read, pure_ok]
  replace found := ite_cases found
  rcases found with ⟨rfl, found⟩ | ⟨no44, found⟩
  · simp only [Option.bind_eq_some_iff, Prod.exists] at found
    obtain ⟨bits, _, bitsAt, same⟩ := found
    cases same
    have read := readFixedU64_of bitsAt
    simp [read, pure_ok]
  rw [if_neg no41, if_neg no42, if_neg no43, if_neg no44]
  replace found := ite_cases found
  rcases found with ⟨range, found⟩ | ⟨noNumeric, found⟩
  · cases found
    rw [if_pos range]
    rfl
  rw [if_neg noNumeric]
  replace found := ite_cases found
  rcases found with ⟨rfl, found⟩ | ⟨nod0, found⟩
  · simp only [Option.bind_eq_some_iff, Prod.exists] at found
    obtain ⟨tag, _, tagAt, found⟩ := found
    split_ifs at found with funcref
    cases found
    have read := readReferenceType_of tagAt funcref
    simp [read, pure_ok]
  replace found := ite_cases found
  rcases found with ⟨rfl, found⟩ | ⟨nod1, found⟩
  · cases found
    rfl
  replace found := ite_cases found
  rcases found with ⟨rfl, found⟩ | ⟨nod2, found⟩
  · exact withU32_of found
  rw [if_neg nod0, if_neg nod1, if_neg nod2]
  replace found := ite_cases found
  rcases found with ⟨rfl, found⟩ | ⟨nofc, found⟩
  · exact readMisc_of found known
  replace found := ite_cases found
  rcases found with ⟨rfl, found⟩ | ⟨nofd, found⟩
  · exact readSimd_of found known
  · cases found

/-- The loop over a branch table selects the target that the grammar lists at
the selector. -/
theorem selectTarget_of {selector count index : Nat} {depths : List Nat}
    {selected : Option Nat} (found : Spec.targets code count pc = some (depths, pc')) :
    selectTarget code selector count index pc selected =
      .ok ((if index ≤ selector then depths[selector - index]? else none).or selected, pc') := by
  induction count generalizing pc index depths selected with
  | zero =>
      cases found
      simp [selectTarget]
  | succ count ih =>
      simp only [Spec.targets, Option.bind_eq_bind, Option.bind_eq_some_iff, Prod.exists]
        at found
      obtain ⟨depth, middle, depthAt, rest, _, restAt, same⟩ := found
      cases same
      simp only [selectTarget, readU32_of depthAt, ok_bind, ih restAt, Except.ok.injEq,
        Prod.mk.injEq, and_true]
      rcases Nat.lt_trichotomy index selector with before | rfl | after
      · obtain ⟨distance, rfl⟩ : ∃ distance, selector = index + 1 + distance :=
          ⟨selector - (index + 1), by omega⟩
        have shift : index + 1 + distance - index = distance + 1 := by omega
        simp [shift, show index ≤ index + 1 + distance by omega,
          show index ≠ index + 1 + distance by omega]
      · simp [show ¬ index + 1 ≤ index by omega]
      · simp [show ¬ index + 1 ≤ selector by omega, show ¬ index ≤ selector by omega,
          show index ≠ selector by omega]

end Interpreter

end MiniWasm.Runtime
