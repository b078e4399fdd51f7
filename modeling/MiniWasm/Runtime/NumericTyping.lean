import MiniWasm.Library.Outcome
import MiniWasm.Runtime.Evolution
import MiniWasm.Runtime.Numeric
import MiniWasm.Spec.Typing

/-!
# Typed execution of numeric instructions

A numeric instruction on operands of its types leaves results of its types, or ends
in a trap.  The checks that the interpreter makes in every arm never fail then.
-/

namespace MiniWasm.Runtime

open Library

variable {σ : Type}

/-! ## Traps -/

/-- The errors that typed code ends in: the traps of the language, exhausted limits and
failures of the host.  A callback can return a reference with the number of no function;
an indirect call through it is `functionOutOfBounds`. -/
def RuntimeError.Trap : RuntimeError → Prop
  | .unreachable | .integerDivisionByZero | .integerOverflow | .invalidConversionToInteger =>
      True
  | .memoryOutOfBounds _ _ | .dataSegmentSourceOutOfBounds _ _ _
  | .elementSegmentSourceOutOfBounds _ _ _ | .tableElementOutOfBounds _ => True
  | .uninitializedTableElement _ | .indirectCallTypeMismatch _ _
  | .foreignTableFunctionReference _ | .functionOutOfBounds _ => True
  | .hostCallFailed _ _ _ | .hostResultArityMismatch _ _ _ _
  | .hostResultTypeMismatch _ _ _ _ => True
  | .fuelExhausted | .hostCallLimitExceeded _ | .callDepthExceeded _ => True
  | _ => False

/-- The computation returns results with the postcondition, or traps. -/
abbrev Safe {α : Type} (post : α → Prop) (run : Run α) : Prop :=
  Yields RuntimeError.Trap post run

/-! ## Operands -/

section Operands

variable {stack : Stack} {types : List ValueType}

theorem pop_safe {type : ValueType} (typed : typesOf stack = type :: types) :
    Safe (fun popped => popped.1.valueType = type ∧ typesOf popped.2 = types) (pop stack) := by
  obtain ⟨value, rest, rfl, valueTyped, restTyped⟩ := typesOf_eq_cons typed
  exact .of_ok rfl ⟨valueTyped, restTyped⟩

theorem popTyped_safe {type : ValueType} (typed : typesOf stack = type :: types) :
    Safe (fun popped => popped.1.valueType = type ∧ typesOf popped.2 = types)
      (popTyped stack type) := by
  obtain ⟨value, rest, rfl, rfl, restTyped⟩ := typesOf_eq_cons typed
  exact .of_ok (popTyped_cons value rest) ⟨rfl, restTyped⟩

theorem i32FromStack_safe (typed : typesOf stack = .i32 :: types) :
    Safe (fun popped => typesOf popped.2 = types) (i32FromStack stack) := by
  obtain ⟨value, rest, rfl, valueTyped, restTyped⟩ := typesOf_eq_cons typed
  obtain ⟨payload, rfl⟩ := Value.eq_i32 valueTyped
  exact .of_ok (i32FromStack_cons payload rest) restTyped

theorem i64FromStack_safe (typed : typesOf stack = .i64 :: types) :
    Safe (fun popped => typesOf popped.2 = types) (i64FromStack stack) := by
  obtain ⟨value, rest, rfl, valueTyped, restTyped⟩ := typesOf_eq_cons typed
  obtain ⟨payload, rfl⟩ := Value.eq_i64 valueTyped
  exact .of_ok (i64FromStack_cons payload rest) restTyped

theorem f32FromStack_safe (typed : typesOf stack = .f32 :: types) :
    Safe (fun popped => typesOf popped.2 = types) (f32FromStack stack) := by
  obtain ⟨value, rest, rfl, valueTyped, restTyped⟩ := typesOf_eq_cons typed
  obtain ⟨payload, rfl⟩ := Value.eq_f32 valueTyped
  exact .of_ok (f32FromStack_cons payload rest) restTyped

theorem f64FromStack_safe (typed : typesOf stack = .f64 :: types) :
    Safe (fun popped => typesOf popped.2 = types) (f64FromStack stack) := by
  obtain ⟨value, rest, rfl, valueTyped, restTyped⟩ := typesOf_eq_cons typed
  obtain ⟨payload, rfl⟩ := Value.eq_f64 valueTyped
  exact .of_ok (f64FromStack_cons payload rest) restTyped

theorem v128FromStack_safe (typed : typesOf stack = .v128 :: types) :
    Safe (fun popped => typesOf popped.2 = types) (v128FromStack stack) := by
  obtain ⟨value, rest, rfl, valueTyped, restTyped⟩ := typesOf_eq_cons typed
  obtain ⟨payload, rfl⟩ := Value.eq_v128 valueTyped
  exact .of_ok (v128FromStack_cons payload rest) restTyped

theorem funcRefFromStack_safe (typed : typesOf stack = .funcRef :: types) :
    Safe (fun popped => typesOf popped.2 = types) (funcRefFromStack stack) := by
  obtain ⟨value, rest, rfl, valueTyped, restTyped⟩ := typesOf_eq_cons typed
  obtain ⟨payload, rfl⟩ := Value.eq_funcRef valueTyped
  exact .of_ok (funcRefFromStack_cons payload rest) restTyped

theorem widenedF32FromStack_safe (typed : typesOf stack = .f32 :: types) :
    Safe (fun popped => typesOf popped.2 = types) (widenedF32FromStack stack) :=
  (f32FromStack_safe typed).bind fun _ rest => (yields_pure _).mpr rest

theorem floatFromStack_safe (typed : typesOf stack = .f64 :: types) :
    Safe (fun popped => typesOf popped.2 = types) (floatFromStack stack) :=
  (f64FromStack_safe typed).bind fun _ rest => (yields_pure _).mpr rest

end Operands

/-! ## Numbers -/

section Numbers

variable {stack : Stack} {types : List ValueType} {opcode : Nat}

theorem push_safe {value : Value} {type : ValueType} {rest : Stack}
    (valueTyped : value.valueType = type) (restTyped : typesOf rest = types) :
    Safe (fun after => typesOf after = type :: types) (pure (value :: rest)) :=
  (yields_pure _).mpr (congrArg₂ List.cons valueTyped restTyped)

/-- A table lookup at a position that is listed. -/
theorem supported_safe {α : Type} {result : Option α} (listed : result ≠ none) :
    Safe (fun _ => True) (supported opcode result) := by
  cases result with
  | none => exact absurd rfl listed
  | some value => exact .of_ok rfl trivial

/-- A table that lists a result at one more position. -/
theorem ite_ne_none {α : Type} {condition : Prop} [Decidable condition] {value : α}
    {rest : Option α} (listed : ¬ condition → rest ≠ none) :
    (if condition then some value else rest) ≠ none := by
  by_cases holds : condition
  · rw [if_pos holds]
    exact Option.some_ne_none value
  · rw [if_neg holds]
    exact listed holds

theorem compareInteger_listed {width position : Nat} (lhs rhs : BitVec width)
    (listed : position < 10) : compareInteger lhs rhs position ≠ none := by
  unfold compareInteger
  iterate 10 refine ite_ne_none fun _ => ?_
  omega

theorem compare_listed {format : FloatFormat} {position : Nat} (lhs rhs : format.Bits)
    (listed : position < 6) : format.compare lhs rhs position ≠ none := by
  unfold FloatFormat.compare
  iterate 6 refine ite_ne_none fun _ => ?_
  omega

theorem evalUnary_listed {format : FloatFormat} {position : Nat} (bits : format.Bits)
    (listed : position < 7) : format.evalUnary bits position ≠ none := by
  unfold FloatFormat.evalUnary
  iterate 7 refine ite_ne_none fun _ => ?_
  omega

theorem evalBinary_listed {format : FloatFormat} {position : Nat} (lhs rhs : format.Bits)
    (listed : position < 7) : format.evalBinary lhs rhs position ≠ none := by
  unfold FloatFormat.evalBinary
  iterate 7 refine ite_ne_none fun _ => ?_
  omega

/-- A computation that ends in a trap. -/
theorem trap_safe {α : Type} {post : α → Prop} {err : RuntimeError} (trap : err.Trap) :
    Safe post (.error err : Run α) :=
  (yields_error err).mpr trap

theorem ok_safe {α : Type} {post : α → Prop} {value : α} (holds : post value) :
    Safe post (.ok value : Run α) :=
  (yields_ok value).mpr holds

theorem evalInteger_safe {width position : Nat} (lhs rhs : BitVec width)
    (listed : position < 15) :
    Safe (fun _ => True) (evalInteger lhs rhs opcode position) := by
  have value (value : BitVec width) : Safe (fun _ => True) (.ok value) := ok_safe trivial
  have divides {run : Run (BitVec width)} (run_safe : Safe (fun _ => True) run) :
      Safe (fun _ => True) (if rhs = 0 then .error .integerDivisionByZero else run) :=
    .ite (fun _ => trap_safe trivial) fun _ => run_safe
  unfold evalInteger
  refine .ite (fun _ => value _) fun _ => .ite (fun _ => value _) fun _ =>
    .ite (fun _ => value _) fun _ => .ite (fun _ => divides ?quotient) fun _ =>
    .ite (fun _ => divides (value _)) fun _ => .ite (fun _ => divides ?remainder) fun _ =>
    .ite (fun _ => divides (value _)) fun _ => .ite (fun _ => value _) fun _ =>
    .ite (fun _ => value _) fun _ => .ite (fun _ => value _) fun _ =>
    .ite (fun _ => value _) fun _ => .ite (fun _ => value _) fun _ =>
    .ite (fun _ => value _) fun _ => .ite (fun _ => value _) fun _ =>
    .ite (fun _ => value _) fun _ => ?beyond
  case quotient => exact .ite (fun _ => trap_safe trivial) fun _ => value _
  case remainder => exact .ite (fun _ => value _) fun _ => value _
  case beyond => omega

/-- The checks in front of a conversion. -/
theorem finite_safe {α : Type} {value : Float} {run : Run α}
    (converts : Safe (fun _ => True) run) :
    Safe (fun _ => True)
      (if value.isNaN then .error .invalidConversionToInteger
      else if !value.isFinite then .error .integerOverflow else run) :=
  .ite (fun _ => trap_safe trivial) fun _ => .ite (fun _ => trap_safe trivial) fun _ => converts

theorem inRange_safe {α : Type} {condition : Prop} {_ : Decidable condition} {value : α} :
    Safe (fun _ => True) (if condition then .ok value else .error .integerOverflow) :=
  .ite (fun _ => ok_safe trivial) fun _ => trap_safe trivial

theorem truncToI32_safe (value : Float) (signed : Bool) :
    Safe (fun _ => True) (truncToI32 value signed) :=
  finite_safe (.ite (fun _ => inRange_safe) fun _ => inRange_safe)

theorem truncToI64_safe (value : Float) (signed : Bool) :
    Safe (fun _ => True) (truncToI64 value signed) :=
  finite_safe (.ite (fun _ => inRange_safe) fun _ => inRange_safe)

theorem compareI32_safe (bounds : 0x46 ≤ opcode ∧ opcode ≤ 0x4f)
    (typed : typesOf stack = .i32 :: .i32 :: types) :
    Safe (fun after => typesOf after = .i32 :: types) (compareI32 stack opcode) := by
  rw [compareI32, if_neg (by omega)]
  refine (i32FromStack_safe typed).bind ?_
  rintro ⟨rhs, stack⟩ typed
  refine (i32FromStack_safe typed).bind ?_
  rintro ⟨lhs, stack⟩ typed
  exact (supported_safe (compareInteger_listed lhs rhs (by omega))).bind
    fun _ _ => push_safe rfl typed

theorem compareI64_safe (bounds : 0x51 ≤ opcode ∧ opcode ≤ 0x5a)
    (typed : typesOf stack = .i64 :: .i64 :: types) :
    Safe (fun after => typesOf after = .i32 :: types) (compareI64 stack opcode) := by
  rw [compareI64, if_neg (by omega)]
  refine (i64FromStack_safe typed).bind ?_
  rintro ⟨rhs, stack⟩ typed
  refine (i64FromStack_safe typed).bind ?_
  rintro ⟨lhs, stack⟩ typed
  exact (supported_safe (compareInteger_listed lhs rhs (by omega))).bind
    fun _ _ => push_safe rfl typed

theorem compareF32_safe (bounds : 0x5b ≤ opcode ∧ opcode ≤ 0x60)
    (typed : typesOf stack = .f32 :: .f32 :: types) :
    Safe (fun after => typesOf after = .i32 :: types) (compareF32 stack opcode) := by
  refine (f32FromStack_safe typed).bind ?_
  rintro ⟨rhs, stack⟩ typed
  refine (f32FromStack_safe typed).bind ?_
  rintro ⟨lhs, stack⟩ typed
  exact (supported_safe (@compare_listed f32Format _ lhs rhs (by omega))).bind
    fun _ _ => push_safe rfl typed

theorem compareF64_safe (bounds : 0x61 ≤ opcode ∧ opcode ≤ 0x66)
    (typed : typesOf stack = .f64 :: .f64 :: types) :
    Safe (fun after => typesOf after = .i32 :: types) (compareF64 stack opcode) := by
  refine (f64FromStack_safe typed).bind ?_
  rintro ⟨rhs, stack⟩ typed
  refine (f64FromStack_safe typed).bind ?_
  rintro ⟨lhs, stack⟩ typed
  exact (supported_safe (@compare_listed f64Format _ lhs rhs (by omega))).bind
    fun _ _ => push_safe rfl typed

theorem unaryI32_safe (bounds : 0x67 ≤ opcode ∧ opcode ≤ 0x69)
    (typed : typesOf stack = .i32 :: types) :
    Safe (fun after => typesOf after = .i32 :: types) (unaryInteger stack opcode) := by
  have each (compute : BitVec 32 → BitVec 32) :
      Safe (fun after => typesOf after = .i32 :: types)
        (i32FromStack stack >>= fun read => return .i32 (compute read.1) :: read.2) :=
    (i32FromStack_safe typed).bind fun _ rest => push_safe rfl rest
  unfold unaryInteger
  exact .ite (fun _ => each _) fun _ => .ite (fun _ => each _) fun _ =>
    .ite (fun _ => each _) fun _ => by omega

theorem unaryI64_safe (bounds : 0x79 ≤ opcode ∧ opcode ≤ 0x7b)
    (typed : typesOf stack = .i64 :: types) :
    Safe (fun after => typesOf after = .i64 :: types) (unaryInteger stack opcode) := by
  have each (compute : BitVec 64 → BitVec 64) :
      Safe (fun after => typesOf after = .i64 :: types)
        (i64FromStack stack >>= fun read => return .i64 (compute read.1) :: read.2) :=
    (i64FromStack_safe typed).bind fun _ rest => push_safe rfl rest
  rw [unaryInteger, if_neg (by omega), if_neg (by omega), if_neg (by omega)]
  exact .ite (fun _ => each _) fun _ => .ite (fun _ => each _) fun _ =>
    .ite (fun _ => each _) fun _ => by omega

theorem binaryI32_safe (bounds : 0x6a ≤ opcode ∧ opcode ≤ 0x78)
    (typed : typesOf stack = .i32 :: .i32 :: types) :
    Safe (fun after => typesOf after = .i32 :: types) (binaryInteger stack opcode) := by
  rw [binaryInteger, if_pos bounds]
  refine (i32FromStack_safe typed).bind ?_
  rintro ⟨rhs, stack⟩ typed
  refine (i32FromStack_safe typed).bind ?_
  rintro ⟨lhs, stack⟩ typed
  exact (evalInteger_safe lhs rhs (by omega)).bind fun _ _ => push_safe rfl typed

theorem binaryI64_safe (bounds : 0x7c ≤ opcode ∧ opcode ≤ 0x8a)
    (typed : typesOf stack = .i64 :: .i64 :: types) :
    Safe (fun after => typesOf after = .i64 :: types) (binaryInteger stack opcode) := by
  rw [binaryInteger, if_neg (by omega), if_pos bounds]
  refine (i64FromStack_safe typed).bind ?_
  rintro ⟨rhs, stack⟩ typed
  refine (i64FromStack_safe typed).bind ?_
  rintro ⟨lhs, stack⟩ typed
  exact (evalInteger_safe lhs rhs (by omega)).bind fun _ _ => push_safe rfl typed

theorem unaryF32_safe (bounds : 0x8b ≤ opcode ∧ opcode ≤ 0x91)
    (typed : typesOf stack = .f32 :: types) :
    Safe (fun after => typesOf after = .f32 :: types) (unaryFloat stack opcode) := by
  rw [unaryFloat, if_pos bounds]
  refine (f32FromStack_safe typed).bind ?_
  rintro ⟨value, stack⟩ typed
  exact (supported_safe (@evalUnary_listed f32Format _ value (by omega))).bind
    fun _ _ => push_safe rfl typed

theorem unaryF64_safe (bounds : 0x99 ≤ opcode ∧ opcode ≤ 0x9f)
    (typed : typesOf stack = .f64 :: types) :
    Safe (fun after => typesOf after = .f64 :: types) (unaryFloat stack opcode) := by
  rw [unaryFloat, if_neg (by omega), if_pos bounds]
  refine (f64FromStack_safe typed).bind ?_
  rintro ⟨value, stack⟩ typed
  exact (supported_safe (@evalUnary_listed f64Format _ value (by omega))).bind
    fun _ _ => push_safe rfl typed

theorem binaryF32_safe (bounds : 0x92 ≤ opcode ∧ opcode ≤ 0x98)
    (typed : typesOf stack = .f32 :: .f32 :: types) :
    Safe (fun after => typesOf after = .f32 :: types) (binaryFloat stack opcode) := by
  rw [binaryFloat, if_pos bounds]
  refine (f32FromStack_safe typed).bind ?_
  rintro ⟨rhs, stack⟩ typed
  refine (f32FromStack_safe typed).bind ?_
  rintro ⟨lhs, stack⟩ typed
  exact (supported_safe (@evalBinary_listed f32Format _ lhs rhs (by omega))).bind
    fun _ _ => push_safe rfl typed

theorem binaryF64_safe (bounds : 0xa0 ≤ opcode ∧ opcode ≤ 0xa6)
    (typed : typesOf stack = .f64 :: .f64 :: types) :
    Safe (fun after => typesOf after = .f64 :: types) (binaryFloat stack opcode) := by
  rw [binaryFloat, if_neg (by omega), if_pos bounds]
  refine (f64FromStack_safe typed).bind ?_
  rintro ⟨rhs, stack⟩ typed
  refine (f64FromStack_safe typed).bind ?_
  rintro ⟨lhs, stack⟩ typed
  exact (supported_safe (@evalBinary_listed f64Format _ lhs rhs (by omega))).bind
    fun _ _ => push_safe rfl typed

theorem signExtendI32_safe (bounds : 0xc0 ≤ opcode ∧ opcode ≤ 0xc1)
    (typed : typesOf stack = .i32 :: types) :
    Safe (fun after => typesOf after = .i32 :: types) (signExtend stack opcode) := by
  have each (compute : BitVec 32 → BitVec 32) :
      Safe (fun after => typesOf after = .i32 :: types)
        (i32FromStack stack >>= fun read => return .i32 (compute read.1) :: read.2) :=
    (i32FromStack_safe typed).bind fun _ rest => push_safe rfl rest
  exact .ite (fun _ => each _) fun _ => .ite (fun _ => each _) fun _ => by omega

theorem signExtendI64_safe (bounds : 0xc2 ≤ opcode ∧ opcode ≤ 0xc4)
    (typed : typesOf stack = .i64 :: types) :
    Safe (fun after => typesOf after = .i64 :: types) (signExtend stack opcode) := by
  have each (compute : BitVec 64 → BitVec 64) :
      Safe (fun after => typesOf after = .i64 :: types)
        (i64FromStack stack >>= fun read => return .i64 (compute read.1) :: read.2) :=
    (i64FromStack_safe typed).bind fun _ rest => push_safe rfl rest
  rw [signExtend, if_neg (by omega), if_neg (by omega)]
  exact .ite (fun _ => each _) fun _ => .ite (fun _ => each _) fun _ =>
    .ite (fun _ => each _) fun _ => by omega

/-! Conversions: the operand type goes by the opcode. -/

theorem convertToI32_safe (bounds : 0xa7 ≤ opcode ∧ opcode ≤ 0xab)
    (typed : typesOf stack =
      (if opcode = 0xa7 then .i64 else if opcode ≤ 0xa9 then .f32 else .f64) :: types) :
    Safe (fun after => typesOf after = .i32 :: types) (convertToI32 stack opcode) := by
  refine .ite (fun wraps => ?_) fun notWrap => .ite (fun narrow => ?_) fun wide => ?_
  · rw [if_pos wraps] at typed
    exact (i64FromStack_safe typed).bind fun _ rest => push_safe rfl rest
  · rw [if_neg notWrap, if_pos (by omega)] at typed
    refine (widenedF32FromStack_safe typed).bind ?_
    rintro ⟨value, stack⟩ typed
    exact (truncToI32_safe value _).bind fun _ _ => push_safe rfl typed
  · rw [if_neg notWrap, if_neg (by omega)] at typed
    refine (floatFromStack_safe typed).bind ?_
    rintro ⟨value, stack⟩ typed
    exact (truncToI32_safe value _).bind fun _ _ => push_safe rfl typed

theorem convertToI64_safe (bounds : 0xac ≤ opcode ∧ opcode ≤ 0xb1)
    (typed : typesOf stack =
      (if opcode ≤ 0xad then .i32 else if opcode ≤ 0xaf then .f32 else .f64) :: types) :
    Safe (fun after => typesOf after = .i64 :: types) (convertToI64 stack opcode) := by
  refine .ite (fun signed => ?_) fun notSigned => .ite (fun unsigned => ?_) fun notUnsigned =>
    .ite (fun narrow => ?_) fun wide => ?_
  · rw [if_pos (by omega)] at typed
    exact (i32FromStack_safe typed).bind fun _ rest => push_safe rfl rest
  · rw [if_pos (by omega)] at typed
    exact (i32FromStack_safe typed).bind fun _ rest => push_safe rfl rest
  · rw [if_neg (by omega), if_pos (by omega)] at typed
    refine (widenedF32FromStack_safe typed).bind ?_
    rintro ⟨value, stack⟩ typed
    exact (truncToI64_safe value _).bind fun _ _ => push_safe rfl typed
  · rw [if_neg (by omega), if_neg (by omega)] at typed
    refine (floatFromStack_safe typed).bind ?_
    rintro ⟨value, stack⟩ typed
    exact (truncToI64_safe value _).bind fun _ _ => push_safe rfl typed

theorem convertToF32_safe (bounds : 0xb2 ≤ opcode ∧ opcode ≤ 0xb6)
    (typed : typesOf stack =
      (if opcode ≤ 0xb3 then .i32 else if opcode ≤ 0xb5 then .i64 else .f64) :: types) :
    Safe (fun after => typesOf after = .f32 :: types) (convertToFloat stack opcode) := by
  refine .ite (fun _ => ?_) fun _ => .ite (fun _ => ?_) fun _ => .ite (fun _ => ?_) fun _ =>
    .ite (fun _ => ?_) fun _ => .ite (fun _ => ?_) fun _ => by omega
  · rw [if_pos (by omega)] at typed
    exact (i32FromStack_safe typed).bind fun _ rest => push_safe rfl rest
  · rw [if_pos (by omega)] at typed
    exact (i32FromStack_safe typed).bind fun _ rest => push_safe rfl rest
  · rw [if_neg (by omega), if_pos (by omega)] at typed
    exact (i64FromStack_safe typed).bind fun _ rest => push_safe rfl rest
  · rw [if_neg (by omega), if_pos (by omega)] at typed
    exact (i64FromStack_safe typed).bind fun _ rest => push_safe rfl rest
  · rw [if_neg (by omega), if_neg (by omega)] at typed
    exact (f64FromStack_safe typed).bind fun _ rest => push_safe rfl rest

theorem convertToF64_safe (bounds : 0xb7 ≤ opcode ∧ opcode ≤ 0xbb)
    (typed : typesOf stack =
      (if opcode ≤ 0xb8 then .i32 else if opcode ≤ 0xba then .i64 else .f32) :: types) :
    Safe (fun after => typesOf after = .f64 :: types) (convertToFloat stack opcode) := by
  unfold convertToFloat
  iterate 5 rw [if_neg (by omega)]
  refine .ite (fun _ => ?_) fun _ => .ite (fun _ => ?_) fun _ => .ite (fun _ => ?_) fun _ =>
    .ite (fun _ => ?_) fun _ => .ite (fun _ => ?_) fun _ => by omega
  · rw [if_pos (by omega)] at typed
    exact (i32FromStack_safe typed).bind fun _ rest => push_safe rfl rest
  · rw [if_pos (by omega)] at typed
    exact (i32FromStack_safe typed).bind fun _ rest => push_safe rfl rest
  · rw [if_neg (by omega), if_pos (by omega)] at typed
    exact (i64FromStack_safe typed).bind fun _ rest => push_safe rfl rest
  · rw [if_neg (by omega), if_pos (by omega)] at typed
    exact (i64FromStack_safe typed).bind fun _ rest => push_safe rfl rest
  · rw [if_neg (by omega), if_neg (by omega)] at typed
    exact (f32FromStack_safe typed).bind fun _ rest => push_safe rfl rest

theorem truncSat_safe {signature : Spec.Signature}
    (listed : Spec.truncSatSignature opcode = some signature)
    (typed : typesOf stack = signature.ins ++ types) :
    Safe (fun after => typesOf after = signature.outs ++ types) (truncSat stack opcode) := by
  unfold Spec.truncSatSignature at listed
  unfold truncSat
  split_ifs at listed <;> cases listed
  · rw [if_pos (by omega)]
    exact (widenedF32FromStack_safe typed).bind fun _ rest => push_safe rfl rest
  · rw [if_neg (by omega), if_pos (by omega)]
    exact (floatFromStack_safe typed).bind fun _ rest => push_safe rfl rest
  · rw [if_neg (by omega), if_neg (by omega), if_pos (by omega)]
    exact (widenedF32FromStack_safe typed).bind fun _ rest => push_safe rfl rest
  · rw [if_neg (by omega), if_neg (by omega), if_neg (by omega), if_pos (by omega)]
    exact (floatFromStack_safe typed).bind fun _ rest => push_safe rfl rest

/-- The dispatch over the groups, in the order of the signatures. -/
theorem executeNumeric_safe {signature : Spec.Signature}
    (listed : Spec.numericSignature opcode = some signature)
    (typed : typesOf stack = signature.ins ++ types) :
    Safe (fun after => typesOf after = signature.outs ++ types) (executeNumeric stack opcode) := by
  unfold Spec.numericSignature at listed
  unfold executeNumeric
  replace listed := ite_cases listed
  rcases listed with ⟨-, none⟩ | ⟨above, listed⟩
  · cases none
  replace listed := ite_cases listed
  rcases listed with ⟨rfl, same⟩ | ⟨notEqz, listed⟩
  · cases same
    exact (i32FromStack_safe typed).bind fun _ rest => push_safe rfl rest
  replace listed := ite_cases listed
  rcases listed with ⟨below, same⟩ | ⟨above, listed⟩
  · cases same
    rw [if_pos (by omega)]
    exact compareI32_safe (by omega) typed
  rw [if_neg (by omega)]
  replace listed := ite_cases listed
  rcases listed with ⟨rfl, same⟩ | ⟨notEqz, listed⟩
  · cases same
    exact (i64FromStack_safe typed).bind fun _ rest => push_safe rfl rest
  replace listed := ite_cases listed
  rcases listed with ⟨below, same⟩ | ⟨above, listed⟩
  · cases same
    rw [if_pos (by omega)]
    exact compareI64_safe (by omega) typed
  rw [if_neg (by omega)]
  replace listed := ite_cases listed
  rcases listed with ⟨below, same⟩ | ⟨above, listed⟩
  · cases same
    rw [if_pos (by omega)]
    exact compareF32_safe (by omega) typed
  rw [if_neg (by omega)]
  replace listed := ite_cases listed
  rcases listed with ⟨below, same⟩ | ⟨above, listed⟩
  · cases same
    rw [if_pos (by omega)]
    exact compareF64_safe (by omega) typed
  rw [if_neg (by omega)]
  replace listed := ite_cases listed
  rcases listed with ⟨below, same⟩ | ⟨above, listed⟩
  · cases same
    rw [if_pos (by omega)]
    exact unaryI32_safe (by omega) typed
  rw [if_neg (by omega)]
  replace listed := ite_cases listed
  rcases listed with ⟨below, same⟩ | ⟨above, listed⟩
  · cases same
    rw [if_pos (by omega)]
    exact binaryI32_safe (by omega) typed
  rw [if_neg (by omega)]
  replace listed := ite_cases listed
  rcases listed with ⟨below, same⟩ | ⟨above, listed⟩
  · cases same
    rw [if_pos (by omega)]
    exact unaryI64_safe (by omega) typed
  rw [if_neg (by omega)]
  replace listed := ite_cases listed
  rcases listed with ⟨below, same⟩ | ⟨above, listed⟩
  · cases same
    rw [if_pos (by omega)]
    exact binaryI64_safe (by omega) typed
  rw [if_neg (by omega)]
  replace listed := ite_cases listed
  rcases listed with ⟨below, same⟩ | ⟨above, listed⟩
  · cases same
    rw [if_pos (by omega)]
    exact unaryF32_safe (by omega) typed
  replace listed := ite_cases listed
  rcases listed with ⟨below, same⟩ | ⟨above, listed⟩
  · cases same
    rw [if_neg (by omega), if_pos (by omega)]
    exact binaryF32_safe (by omega) typed
  replace listed := ite_cases listed
  rcases listed with ⟨below, same⟩ | ⟨above, listed⟩
  · cases same
    rw [if_pos (by omega)]
    exact unaryF64_safe (by omega) typed
  rw [if_neg (by omega)]
  replace listed := ite_cases listed
  rcases listed with ⟨below, same⟩ | ⟨above, listed⟩
  · cases same
    rw [if_pos (by omega)]
    exact binaryF64_safe (by omega) typed
  rw [if_neg (by omega)]
  replace listed := ite_cases listed
  rcases listed with ⟨below, same⟩ | ⟨above, listed⟩
  · cases same
    change Safe (fun after => typesOf after = .i32 :: types) _
    rw [if_pos (by omega), convert, if_pos (by omega)]
    exact convertToI32_safe (by omega) typed
  replace listed := ite_cases listed
  rcases listed with ⟨below, same⟩ | ⟨above, listed⟩
  · cases same
    change Safe (fun after => typesOf after = .i64 :: types) _
    rw [if_pos (by omega), convert, if_neg (by omega), if_pos (by omega)]
    exact convertToI64_safe (by omega) typed
  have floats : convert stack opcode = convertToFloat stack opcode := by
    rw [convert, if_neg (by omega), if_neg (by omega)]
  rw [floats]
  replace listed := ite_cases listed
  rcases listed with ⟨below, same⟩ | ⟨above, listed⟩
  · cases same
    change Safe (fun after => typesOf after = .f32 :: types) _
    rw [if_pos (by omega)]
    exact convertToF32_safe (by omega) typed
  replace listed := ite_cases listed
  rcases listed with ⟨below, same⟩ | ⟨above, listed⟩
  · cases same
    change Safe (fun after => typesOf after = .f64 :: types) _
    rw [if_pos (by omega)]
    exact convertToF64_safe (by omega) typed
  replace listed := ite_cases listed
  rcases listed with ⟨rfl, same⟩ | ⟨notF32, listed⟩
  · cases same
    exact (f32FromStack_safe typed).bind fun _ rest => push_safe rfl rest
  replace listed := ite_cases listed
  rcases listed with ⟨rfl, same⟩ | ⟨notF64, listed⟩
  · cases same
    exact (f64FromStack_safe typed).bind fun _ rest => push_safe rfl rest
  replace listed := ite_cases listed
  rcases listed with ⟨rfl, same⟩ | ⟨notI32, listed⟩
  · cases same
    exact (i32FromStack_safe typed).bind fun _ rest => push_safe rfl rest
  replace listed := ite_cases listed
  rcases listed with ⟨rfl, same⟩ | ⟨notI64, listed⟩
  · cases same
    exact (i64FromStack_safe typed).bind fun _ rest => push_safe rfl rest
  rw [if_neg (by omega)]
  replace listed := ite_cases listed
  rcases listed with ⟨below, same⟩ | ⟨above, listed⟩
  · cases same
    rw [if_pos (by omega)]
    exact signExtendI32_safe (by omega) typed
  replace listed := ite_cases listed
  rcases listed with ⟨below, same⟩ | ⟨above, listed⟩
  · cases same
    rw [if_pos (by omega)]
    exact signExtendI64_safe (by omega) typed
  · cases listed

end Numbers

end MiniWasm.Runtime
