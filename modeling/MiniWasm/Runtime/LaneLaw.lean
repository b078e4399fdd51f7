import Mathlib.Tactic.IntervalCases
import MiniWasm.Runtime.Decode
import MiniWasm.Runtime.Execute
import MiniWasm.Runtime.LaneArms
import MiniWasm.Validator.Effects

/-!
# The law of the lane instructions

Every arm on integer lanes pops the operands of its instruction, computes the result that the
instruction has for them and pushes it; nothing else changes, and no check of the arm fails.
-/

namespace MiniWasm.Runtime

open Library Library.Integer Spec

/-! ## Operands -/

theorem typesOf_singleton {operands : List Value} {type : ValueType}
    (typed : typesOf operands = [type]) :
    ∃ value, operands = [value] ∧ value.valueType = type := by
  obtain ⟨value, rest, rfl, head, tail⟩ := typesOf_eq_cons typed
  obtain rfl := List.map_eq_nil_iff.mp tail
  exact ⟨value, rfl, head⟩

theorem typesOf_pair {operands : List Value} {first second : ValueType}
    (typed : typesOf operands = [first, second]) :
    ∃ left right, operands = [left, right] ∧ left.valueType = first ∧
      right.valueType = second := by
  obtain ⟨left, rest, rfl, head, tail⟩ := typesOf_eq_cons typed
  obtain ⟨right, rfl, last⟩ := typesOf_singleton tail
  exact ⟨left, right, rfl, head, last⟩

theorem typesOf_vectors {operands : List Value} (typed : typesOf operands = [.v128, .v128]) :
    ∃ lhs rhs, operands = [.v128 lhs, .v128 rhs] := by
  obtain ⟨left, right, rfl, leftTyped, rightTyped⟩ := typesOf_pair typed
  obtain ⟨lhs, rfl⟩ := Value.eq_v128 leftTyped
  obtain ⟨rhs, rfl⟩ := Value.eq_v128 rightTyped
  exact ⟨lhs, rhs, rfl⟩

/-! ## What an arm has to do -/

/-- The immediates that an instruction takes. -/
def Admits : LaneInstruction → SimdImmediate → Prop
  | .shuffle, immediate =>
      ∃ lanes, immediate = .shuffle lanes ∧ lanes.length = 16 ∧ ∀ lane ∈ lanes, lane.toNat < 32
  | .extractLane width _, immediate | .replaceLane width, immediate =>
      ∃ index, immediate = .lane index ∧ index < 128 / width
  | _, immediate => immediate = .none

/-- The arm of an opcode computes what the instruction means. -/
def Computes (subopcode : Nat) (instr : LaneInstruction) : Prop :=
  ∀ {σ : Type} (inst : Instance σ) (state : PlainState σ) (immediate : SimdImmediate)
    (operands : List Value) (rest : Stack),
    Admits instr immediate → typesOf operands = instr.operands →
      state.stack = operands.reverse ++ rest →
    ∃ result, instr.evaluate immediate operands = some result ∧
      result.valueType = instr.result ∧
      executeSimd inst state subopcode immediate = .ok { state with stack := result :: rest }

/-! ## The arms without an immediate -/

section Bare

variable {subopcode : Nat}

/-- The types of an instruction that has no immediate. -/
structure Shape (instr : LaneInstruction) (operands : List ValueType) (result : ValueType) :
    Prop where
  operands : instr.operands = operands
  result : instr.result = result
  bare : ∀ immediate, Admits instr immediate → immediate = .none

/-- An instruction without an immediate, from what its arm does to the stack. -/
theorem Shape.computes {instr : LaneInstruction} {types : List ValueType} {type : ValueType}
    (shape : Shape instr types type)
    (arm : ∀ (operands : List Value) (rest : Stack), typesOf operands = types →
      ∃ result, instr.evaluate .none operands = some result ∧ result.valueType = type ∧
        executeSimdBare (operands.reverse ++ rest) subopcode = .ok (result :: rest)) :
    Computes subopcode instr := by
  intro σ inst state immediate operands rest admitted typed stacked
  obtain rfl := shape.bare immediate admitted
  obtain ⟨result, evaluated, resultTyped, ran⟩ := arm operands rest (typed.trans shape.operands)
  refine ⟨result, evaluated, resultTyped.trans shape.result.symm, ?_⟩
  rw [executeSimd, stacked, ran, ok_bind]
  rfl

/-- The splats come before the tables, which do not list them. -/
theorem splats_unlisted (splat : 15 ≤ subopcode ∧ subopcode ≤ 20) :
    simdUnary subopcode = none ∧ simdBinary subopcode = none ∧ simdTernary subopcode = none ∧
      simdShift subopcode = none ∧ simdTest subopcode = none := by
  obtain ⟨above, below⟩ := splat
  interval_cases subopcode
  all_goals exact ⟨rfl, rfl, rfl, rfl, rfl⟩

theorem not_splat {α : Type} {table : Nat → Option α} {operation : α}
    (unlisted : 15 ≤ subopcode ∧ subopcode ≤ 20 → table subopcode = none)
    (listed : table subopcode = some operation) : ¬ (15 ≤ subopcode ∧ subopcode ≤ 20) := by
  intro splat
  rw [unlisted splat] at listed
  cases listed

variable {instr : LaneInstruction}

theorem computes_unary {operation : Vector128 → Run Vector128} {function : Vector128 → Vector128}
    (shape : Shape instr [.v128] .v128) (listed : simdUnary subopcode = some operation)
    (total : ∀ value, operation value = .ok (function value))
    (meaning : ∀ value, instr.evaluate .none [.v128 value] = some (.v128 (function value))) :
    Computes subopcode instr := by
  refine shape.computes fun operands rest typed => ?_
  obtain ⟨operand, rfl, operandTyped⟩ := typesOf_singleton typed
  obtain ⟨value, rfl⟩ := Value.eq_v128 operandTyped
  refine ⟨_, meaning value, rfl, ?_⟩
  have notSplat := not_splat (fun splat => (splats_unlisted splat).1) listed
  simp only [executeSimdBare, if_neg notSplat, listed, List.reverse_singleton,
    List.singleton_append, v128FromStack_cons, ok_bind, total]
  rfl

theorem computes_binary {operation : Vector128 → Vector128 → Run Vector128}
    {function : Vector128 → Vector128 → Vector128} (shape : Shape instr [.v128, .v128] .v128)
    (unlisted : simdUnary subopcode = none) (listed : simdBinary subopcode = some operation)
    (total : ∀ lhs rhs, operation lhs rhs = .ok (function lhs rhs))
    (meaning : ∀ lhs rhs,
      instr.evaluate .none [.v128 lhs, .v128 rhs] = some (.v128 (function lhs rhs))) :
    Computes subopcode instr := by
  refine shape.computes fun operands rest typed => ?_
  obtain ⟨lhs, rhs, rfl⟩ := typesOf_vectors typed
  refine ⟨_, meaning lhs rhs, rfl, ?_⟩
  have notSplat := not_splat (fun splat => (splats_unlisted splat).2.1) listed
  show executeSimdBare (.v128 rhs :: .v128 lhs :: rest) subopcode = _
  simp only [executeSimdBare, if_neg notSplat, unlisted, listed, v128FromStack_cons, ok_bind,
    total]
  rfl

theorem computes_ternary {operation : Vector128 → Vector128 → Vector128 → Run Vector128}
    {function : Vector128 → Vector128 → Vector128 → Vector128}
    (shape : Shape instr [.v128, .v128, .v128] .v128)
    (unlisted : simdUnary subopcode = none ∧ simdBinary subopcode = none)
    (listed : simdTernary subopcode = some operation)
    (total : ∀ first second third,
      operation first second third = .ok (function first second third))
    (meaning : ∀ first second third,
      instr.evaluate .none [.v128 first, .v128 second, .v128 third] =
        some (.v128 (function first second third))) :
    Computes subopcode instr := by
  refine shape.computes fun operands rest typed => ?_
  obtain ⟨head, tail, rfl, headTyped, tailTyped⟩ := typesOf_eq_cons typed
  obtain ⟨first, rfl⟩ := Value.eq_v128 headTyped
  obtain ⟨second, third, rfl⟩ := typesOf_vectors tailTyped
  refine ⟨_, meaning first second third, rfl, ?_⟩
  have notSplat := not_splat (fun splat => (splats_unlisted splat).2.2.1) listed
  show executeSimdBare (.v128 third :: .v128 second :: .v128 first :: rest) subopcode = _
  simp only [executeSimdBare, if_neg notSplat, unlisted, listed, v128FromStack_cons, ok_bind,
    total]
  rfl

theorem computes_shift {operation : Vector128 → BitVec 32 → Run Vector128}
    {function : Vector128 → BitVec 32 → Vector128} (shape : Shape instr [.v128, .i32] .v128)
    (unlisted : simdUnary subopcode = none ∧ simdBinary subopcode = none ∧
      simdTernary subopcode = none)
    (listed : simdShift subopcode = some operation)
    (total : ∀ value amount, operation value amount = .ok (function value amount))
    (meaning : ∀ value amount,
      instr.evaluate .none [.v128 value, .i32 amount] = some (.v128 (function value amount))) :
    Computes subopcode instr := by
  refine shape.computes fun operands rest typed => ?_
  obtain ⟨left, right, rfl, leftTyped, rightTyped⟩ := typesOf_pair typed
  obtain ⟨value, rfl⟩ := Value.eq_v128 leftTyped
  obtain ⟨amount, rfl⟩ := Value.eq_i32 rightTyped
  refine ⟨_, meaning value amount, rfl, ?_⟩
  have notSplat := not_splat (fun splat => (splats_unlisted splat).2.2.2.1) listed
  show executeSimdBare (.i32 amount :: .v128 value :: rest) subopcode = _
  simp only [executeSimdBare, if_neg notSplat, unlisted, listed, v128FromStack_cons,
    i32FromStack_cons, ok_bind, total]
  rfl

theorem computes_test {operation : Vector128 → Run (BitVec 32)}
    {function : Vector128 → BitVec 32} (shape : Shape instr [.v128] .i32)
    (unlisted : simdUnary subopcode = none ∧ simdBinary subopcode = none ∧
      simdTernary subopcode = none ∧ simdShift subopcode = none)
    (listed : simdTest subopcode = some operation)
    (total : ∀ value, operation value = .ok (function value))
    (meaning : ∀ value, instr.evaluate .none [.v128 value] = some (.i32 (function value))) :
    Computes subopcode instr := by
  refine shape.computes fun operands rest typed => ?_
  obtain ⟨operand, rfl, operandTyped⟩ := typesOf_singleton typed
  obtain ⟨value, rfl⟩ := Value.eq_v128 operandTyped
  refine ⟨_, meaning value, rfl, ?_⟩
  have notSplat := not_splat (fun splat => (splats_unlisted splat).2.2.2.2) listed
  simp only [executeSimdBare, if_neg notSplat, unlisted, listed, List.reverse_singleton,
    List.singleton_append, v128FromStack_cons, ok_bind, total]
  rfl

end Bare

/-! ## Instructions on single lanes -/

section Lanes

variable {subopcode width : Nat} (known : LaneWidth width)
include known

theorem computes_map {operation : UnaryLane} {arm : BitVec width → BitVec width}
    (listed : simdUnary subopcode = some (mapPure width arm))
    (same : ∀ bits, arm bits = operation.apply bits) :
    Computes subopcode (.unary width operation) := by
  obtain rfl : arm = operation.apply := funext same
  exact computes_unary ⟨rfl, rfl, fun _ => id⟩ listed (mapPure_ok known _) fun _ => rfl

theorem computes_zip {operation : BinaryLane}
    {arm : BitVec width → BitVec width → Run (BitVec width)}
    (unlisted : simdUnary subopcode = none)
    (listed : simdBinary subopcode = some (zipLanes width arm))
    (same : ∀ left right, arm left right = .ok (operation.apply left right)) :
    Computes subopcode (.binary width operation) :=
  computes_binary ⟨rfl, rfl, fun _ => id⟩ unlisted listed (zipLanes_ok known same) fun _ _ => rfl

theorem computes_zipPure {operation : BinaryLane} {arm : BitVec width → BitVec width → BitVec width}
    (unlisted : simdUnary subopcode = none)
    (listed : simdBinary subopcode = some (zipPure width arm))
    (same : ∀ left right, arm left right = operation.apply left right) :
    Computes subopcode (.binary width operation) :=
  computes_zip known unlisted listed fun left right => congrArg Except.ok (same left right)

end Lanes

/-! ### Families of opcodes -/

theorem forall_numbered {first : Nat} {instr : LaneInstruction} {rest : List LaneInstruction}
    {property : Nat × LaneInstruction → Prop} :
    (∀ row ∈ numbered first (instr :: rest), property row) ↔
      property (first, instr) ∧ ∀ row ∈ numbered (first + 1) rest, property row := by
  have split : numbered first (instr :: rest) = (first, instr) :: numbered (first + 1) rest := by
    simp only [numbered, List.mapIdx_cons, Nat.add_zero, Nat.add_assoc, Nat.add_comm 1]
  rw [split, List.forall_mem_cons]

theorem forall_numbered_nil {first : Nat} {property : Nat × LaneInstruction → Prop} :
    (∀ row ∈ numbered first [], property row) ↔ True :=
  iff_true_intro fun _ member => absurd member List.not_mem_nil

section Families

variable {first width : Nat} (known : LaneWidth width)
include known

theorem comparisons_computed (unlisted : ∀ position < 10, simdUnary (first + position) = none)
    (listed : ∀ position < 10,
      simdBinary (first + position) = some (zipPure width (compareLane position))) :
    ∀ row ∈ numbered first (comparisons width), Computes row.1 row.2 := by
  have meets (position : Nat) (below : position < 10) (comparison : Comparison) (signed : Bool)
      (same : ∀ left right : BitVec width, compareLane position left right =
        (BinaryLane.compare comparison signed).apply left right) :
      Computes (first + position) (.binary width (.compare comparison signed)) :=
    computes_zipPure known (unlisted position below) (listed position below) same
  simp only [comparisons, forall_numbered, forall_numbered_nil, and_true,
    Nat.add_assoc, Nat.reduceAdd]
  exact ⟨meets 0 (by decide) .eq true fun left right => maskLane_eq (eq_holds true left right),
    meets 1 (by decide) .ne true fun left right => maskLane_eq (ne_holds true left right),
    meets 2 (by decide) .lt true fun left right => maskLane_eq (less_holds true left right),
    meets 3 (by decide) .lt false fun left right => maskLane_eq (less_holds false left right),
    meets 4 (by decide) .gt true fun left right => maskLane_eq (greater_holds true left right),
    meets 5 (by decide) .gt false fun left right => maskLane_eq (greater_holds false left right),
    meets 6 (by decide) .le true fun left right => maskLane_eq (sle_holds left right),
    meets 7 (by decide) .le false fun left right => maskLane_eq (ule_holds left right),
    meets 8 (by decide) .ge true fun left right => maskLane_eq (sge_holds left right),
    meets 9 (by decide) .ge false fun left right => maskLane_eq (uge_holds left right)⟩

theorem additions_computed (unlisted : ∀ position < 6, simdUnary (first + position) = none)
    (listed : ∀ position < 6,
      simdBinary (first + position) = (arithmeticLane width position).map (zipPure width)) :
    ∀ row ∈ numbered first (additions width), Computes row.1 row.2 := by
  have meets (position : Nat) (below : position < 6) {operation : BinaryLane}
      {arm : BitVec width → BitVec width → BitVec width}
      (table : arithmeticLane width position = some arm)
      (same : ∀ left right, arm left right = operation.apply left right) :
      Computes (first + position) (.binary width operation) :=
    computes_zipPure known (unlisted position below)
      ((listed position below).trans (congrArg (Option.map (zipPure width)) table)) same
  simp only [additions, forall_numbered, forall_numbered_nil, and_true,
    Nat.add_assoc, Nat.reduceAdd]
  exact ⟨meets 0 (by decide) rfl (add_eq true),
    meets 1 (by decide) rfl (saturatingAdd_eq true),
    meets 2 (by decide) rfl (saturatingAdd_eq false),
    meets 3 (by decide) rfl (sub_eq true),
    meets 4 (by decide) rfl (saturatingSub_eq true),
    meets 5 (by decide) rfl (saturatingSub_eq false)⟩

theorem extrema_computed (unlisted : ∀ position < 4, simdUnary (first + position) = none)
    (minima : simdBinary first = some (zipPure width (minimum true)) ∧
      simdBinary (first + 1) = some (zipPure width (minimum false)))
    (maxima : simdBinary (first + 2) = some (zipPure width (maximum true)) ∧
      simdBinary (first + 3) = some (zipPure width (maximum false))) :
    ∀ row ∈ numbered first (extrema width), Computes row.1 row.2 := by
  have meets (position : Nat) (below : position < 4) {operation : BinaryLane}
      {arm : BitVec width → BitVec width → BitVec width}
      (listed : simdBinary (first + position) = some (zipPure width arm))
      (same : ∀ left right, arm left right = operation.apply left right) :
      Computes (first + position) (.binary width operation) :=
    computes_zipPure known (unlisted position below) listed same
  simp only [extrema, forall_numbered, forall_numbered_nil, and_true,
    Nat.add_assoc, Nat.reduceAdd]
  exact ⟨meets 0 (by decide) minima.1 (minimum_eq true),
    meets 1 (by decide) minima.2 (minimum_eq false),
    meets 2 (by decide) maxima.1 (maximum_eq true),
    meets 3 (by decide) maxima.2 (maximum_eq false)⟩

theorem shifts_computed {exponent : Nat} (small : exponent < 32) (power : width = 2 ^ exponent)
    (unlisted : ∀ position < 3, simdUnary (first + position) = none ∧
      simdBinary (first + position) = none ∧ simdTernary (first + position) = none)
    (listed : ∀ position < 3, simdShift (first + position) =
      some (shiftLanes width (.ofNat 32 (2 ^ exponent - 1)) position)) :
    ∀ row ∈ numbered first (shifts width), Computes row.1 row.2 := by
  have meets (position : Nat) (below : position < 3) {instr : LaneInstruction}
      {function : Nat → BitVec width → BitVec width} (shape : Shape instr [.v128, .i32] .v128)
      (same : ∀ count < width, ∀ bits, shiftLane position count bits = .ok (function count bits))
      (meaning : ∀ value (amount : BitVec 32),
        instr.evaluate .none [.v128 value, .i32 amount] = some (.v128 (fromLanes width fun index =>
          function (amount.toNat % width) (lane width value index)))) :
      Computes (first + position) instr := by
    refine computes_shift shape (unlisted position below) (listed position below)
      (fun value amount => ?_) meaning
    rw [shiftLanes, and_mask small, ← power]
    exact mapLanes_ok known (same _ (Nat.mod_lt _ known.positive)) value
  simp only [shifts, forall_numbered, forall_numbered_nil, and_true,
    Nat.add_assoc, Nat.reduceAdd]
  exact ⟨meets 0 (by decide) ⟨rfl, rfl, fun _ => id⟩ (fun _ below => shiftLane_left below)
      fun _ _ => rfl,
    meets 1 (by decide) ⟨rfl, rfl, fun _ => id⟩
      (fun _ below bits => (shiftLane_right below bits).1) fun _ _ => rfl,
    meets 2 (by decide) ⟨rfl, rfl, fun _ => id⟩
      (fun _ below bits => (shiftLane_right below bits).2) fun _ _ => rfl⟩

end Families

/-! ### Instructions on whole vectors -/

section Whole

variable {subopcode width : Nat} (known : LaneWidth width) (wide : LaneWidth (2 * width))
variable {signed : Bool} {half : Half}

include known wide in
theorem computes_extend
    (listed : simdUnary subopcode = some (extendHalf width signed (half = .high))) :
    Computes subopcode (.extend width signed half) :=
  computes_unary ⟨rfl, rfl, fun _ => id⟩ listed (extendHalf_ok known wide signed half) fun _ => rfl

include known wide in
theorem computes_extendFrom
    (listed : simdUnary subopcode = some (extendFrom width signed (half.start width))) :
    Computes subopcode (.extend width signed half) :=
  computes_unary ⟨rfl, rfl, fun _ => id⟩ listed (extendFrom_ok known wide signed half) fun _ => rfl

include known wide in
theorem computes_extmul (unlisted : simdUnary subopcode = none)
    (listed : simdBinary subopcode = some (multiplyExtended width signed (half.start width))) :
    Computes subopcode (.extmul width signed half) :=
  computes_binary ⟨rfl, rfl, fun _ => id⟩ unlisted listed
    (multiplyExtended_ok known wide signed half) fun _ _ => rfl

include known wide in
theorem computes_extadd (listed : simdUnary subopcode = some (addPairwise width signed)) :
    Computes subopcode (.extaddPairwise width signed) :=
  computes_unary ⟨rfl, rfl, fun _ => id⟩ listed (addPairwise_ok known wide signed) fun _ => rfl

include known wide in
theorem computes_narrow (unlisted : simdUnary subopcode = none)
    (listed : simdBinary subopcode = some (narrowLanes width signed)) :
    Computes subopcode (.narrow width signed) :=
  computes_binary ⟨rfl, rfl, fun _ => id⟩ unlisted listed (narrowLanes_ok known wide signed)
    fun _ _ => rfl

include known in
theorem computes_allTrue
    (unlisted : simdUnary subopcode = none ∧ simdBinary subopcode = none ∧
      simdTernary subopcode = none ∧ simdShift subopcode = none)
    (listed : simdTest subopcode = some fun v => do return ofCondition (← allTrue width v)) :
    Computes subopcode (.allTrue width) := by
  refine computes_test ⟨rfl, rfl, fun _ => id⟩ unlisted listed (fun value => ?_) fun _ => rfl
  rw [allTrue_ok known, ok_bind]
  rfl

include known in
theorem computes_bitmask {negative : BitVec width → Bool}
    (unlisted : simdUnary subopcode = none ∧ simdBinary subopcode = none ∧
      simdTernary subopcode = none ∧ simdShift subopcode = none)
    (listed : simdTest subopcode = some (bitmask width negative))
    (sign : ∀ bits, negative bits = decide (valueOf true bits < 0)) :
    Computes subopcode (.bitmask width) :=
  computes_test ⟨rfl, rfl, fun _ => id⟩ unlisted listed (fun value => bitmask_ok value known sign)
    fun _ => rfl

end Whole

/-! ## Scalars -/

/-- The low bits of an `i32` are the lane that it gives. -/
theorem laneOf_i32 {width : Nat} (narrow : width ≠ 64) (payload : BitVec 32) :
    laneOf width (.i32 payload) = some (payload.truncate width) := by
  rw [laneOf, if_neg narrow]
  refine congrArg some (BitVec.eq_of_toNat_eq ?_)
  show (BitVec.ofNat width payload.toNat).toNat = (payload.setWidth width).toNat
  rw [BitVec.toNat_ofNat, BitVec.toNat_setWidth]

theorem laneOf_i64 (payload : BitVec 64) : laneOf 64 (.i64 payload) = some payload := by
  rw [laneOf, if_pos rfl, ofInt_valueOf]

section Scalars

variable {subopcode width : Nat} (known : LaneWidth width)
include known

theorem computes_splat (splat : 15 ≤ subopcode ∧ subopcode ≤ 20)
    (arm : ∀ scalar : Value, scalar.valueType = scalarType width →
      ∃ bits, laneOf width scalar = some bits ∧ ∀ rest,
        executeSplat (scalar :: rest) subopcode =
          do return .v128 (← splatLanes bits) :: rest) :
    Computes subopcode (.splat width) := by
  refine Shape.computes ⟨rfl, rfl, fun _ => id⟩ fun operands rest typed => ?_
  obtain ⟨scalar, rfl, scalarTyped⟩ := typesOf_singleton typed
  obtain ⟨bits, found, ran⟩ := arm scalar scalarTyped
  refine ⟨.v128 (fromLanes width fun _ => bits), ?_, rfl, ?_⟩
  · show (laneOf width scalar).bind _ = _
    rw [found]
    rfl
  · rw [executeSimdBare, if_pos splat, List.reverse_singleton, List.singleton_append, ran,
      splatLanes_ok known]
    rfl

theorem computes_replace
    (arm : ∀ scalar : Value, scalar.valueType = scalarType width →
      ∃ bits, laneOf width scalar = some bits ∧ ∀ vector rest index,
        executeSimdLane (scalar :: .v128 vector :: rest) subopcode index =
          do return .v128 (← insertLane vector index bits) :: rest) :
    Computes subopcode (.replaceLane width) := by
  rintro σ inst state immediate operands rest ⟨index, rfl, inside⟩ typed stacked
  obtain ⟨operand, scalar, rfl, operandTyped, scalarTyped⟩ := typesOf_pair typed
  obtain ⟨vector, rfl⟩ := Value.eq_v128 operandTyped
  obtain ⟨bits, found, ran⟩ := arm scalar scalarTyped
  refine ⟨.v128 (fromLanes width fun other =>
    if other = index then bits else lane width vector other), ?_, rfl, ?_⟩
  · show (laneOf width scalar).bind _ = _
    rw [found]
    rfl
  · have pushed : state.stack = scalar :: .v128 vector :: rest := stacked
    rw [executeSimd, pushed, ran, insertLane_ok known vector inside]
    rfl

theorem computes_extract {signed : Bool} {convert : BitVec width → Value}
    (arm : ∀ vector rest index,
      executeSimdLane (.v128 vector :: rest) subopcode index =
        do return convert (← extractLane width vector index) :: rest)
    (same : ∀ bits, convert bits = scalarOf width (valueOf signed bits)) :
    Computes subopcode (.extractLane width signed) := by
  rintro σ inst state immediate operands rest ⟨index, rfl, inside⟩ typed stacked
  obtain ⟨operand, rfl, operandTyped⟩ := typesOf_singleton typed
  obtain ⟨vector, rfl⟩ := Value.eq_v128 operandTyped
  refine ⟨scalarOf width (laneAt width signed vector index), rfl, ?_, ?_⟩
  · rw [scalarOf, LaneInstruction.result, scalarType]
    split_ifs with wide
    · rfl
    · rfl
  · have pushed : state.stack = .v128 vector :: rest := stacked
    rw [executeSimd, pushed, arm, extractLane, known.readLane_toBytes vector inside]
    show Except.ok _ = _
    rw [same]
    rfl

/-! ### Lanes that an `i32` gives -/

omit known in
theorem laneOf_narrow (different : width ≠ 64) {scalar : Value}
    (typed : scalar.valueType = scalarType width) :
    ∃ payload : BitVec 32, scalar = .i32 payload ∧
      laneOf width scalar = some (payload.truncate width) := by
  rw [scalarType, if_neg different] at typed
  obtain ⟨payload, rfl⟩ := Value.eq_i32 typed
  exact ⟨payload, rfl, laneOf_i32 different payload⟩

theorem computes_splat_narrow (different : width ≠ 64) (splat : 15 ≤ subopcode ∧ subopcode ≤ 20)
    (arm : ∀ (payload : BitVec 32) (rest : Stack),
      executeSplat (.i32 payload :: rest) subopcode =
        do return .v128 (← splatLanes (payload.truncate width)) :: rest) :
    Computes subopcode (.splat width) := by
  refine computes_splat known splat fun scalar typed => ?_
  obtain ⟨payload, rfl, found⟩ := laneOf_narrow different typed
  exact ⟨_, found, arm payload⟩

theorem computes_replace_narrow (different : width ≠ 64)
    (arm : ∀ (payload : BitVec 32) (vector : Vector128) (rest : Stack) (index : Nat),
      executeSimdLane (.i32 payload :: .v128 vector :: rest) subopcode index =
        do return .v128 (← insertLane vector index (payload.truncate width)) :: rest) :
    Computes subopcode (.replaceLane width) := by
  refine computes_replace known fun scalar typed => ?_
  obtain ⟨payload, rfl, found⟩ := laneOf_narrow different typed
  exact ⟨_, found, arm payload⟩

end Scalars

/-! ## The table -/

theorem computes_shuffle : Computes 13 .shuffle := by
  rintro σ inst state immediate operands rest ⟨lanes, rfl, full, bounded⟩ typed stacked
  obtain ⟨lhs, rhs, rfl⟩ := typesOf_vectors typed
  refine ⟨_, rfl, rfl, ?_⟩
  have pushed : state.stack = .v128 rhs :: .v128 lhs :: rest := stacked
  simp only [executeSimd, pushed, v128FromStack_cons, ok_bind, shuffle_ok lhs rhs full bounded]
  rfl

theorem moveInstructions_computed : ∀ row ∈ moveInstructions, Computes row.1 row.2 := by
  have whole (payload : BitVec 32) : payload.truncate 32 = payload := BitVec.setWidth_eq payload
  simp only [moveInstructions, List.forall_mem_append, forall_numbered, forall_numbered_nil,
    Nat.reduceAdd, and_true, and_assoc]
  exact ⟨computes_shuffle,
    computes_binary ⟨rfl, rfl, fun _ => id⟩ rfl rfl swizzle_ok fun _ _ => rfl,
    computes_splat_narrow laneWidth8 (by decide) (by decide) fun _ _ => by
      simp only [executeSplat, i32FromStack_cons, ok_bind, Nat.reduceEqDiff, if_false, if_true],
    computes_splat_narrow laneWidth16 (by decide) (by decide) fun _ _ => by
      simp only [executeSplat, i32FromStack_cons, ok_bind, Nat.reduceEqDiff, if_false, if_true],
    computes_splat_narrow laneWidth32 (by decide) (by decide) fun payload _ => by
      simp only [executeSplat, i32FromStack_cons, ok_bind, Nat.reduceEqDiff, if_false, if_true,
        whole],
    computes_splat laneWidth64 (by decide) fun scalar typed => by
      obtain ⟨payload, rfl⟩ := Value.eq_i64 typed
      exact ⟨payload, laneOf_i64 payload, fun _ => by
        simp only [executeSplat, i64FromStack_cons, ok_bind, Nat.reduceEqDiff, if_false, if_true]⟩,
    computes_extract laneWidth8 (fun _ _ _ => rfl) fun bits =>
      congrArg Value.i32 (widen_eq (by decide) bits),
    computes_extract laneWidth8 (fun _ _ _ => rfl) fun bits =>
      congrArg Value.i32 (widen_eq (by decide) bits),
    computes_replace_narrow laneWidth8 (by decide) fun _ _ _ _ => by
      simp only [executeSimdLane, i32FromStack_cons, v128FromStack_cons, ok_bind, Nat.reduceEqDiff,
        if_false, if_true],
    computes_extract laneWidth16 (fun _ _ _ => rfl) fun bits =>
      congrArg Value.i32 (widen_eq (by decide) bits),
    computes_extract laneWidth16 (fun _ _ _ => rfl) fun bits =>
      congrArg Value.i32 (widen_eq (by decide) bits),
    computes_replace_narrow laneWidth16 (by decide) fun _ _ _ _ => by
      simp only [executeSimdLane, i32FromStack_cons, v128FromStack_cons, ok_bind, Nat.reduceEqDiff,
        if_false, if_true],
    computes_extract laneWidth32 (fun _ _ _ => rfl) fun bits =>
      congrArg Value.i32 (ofInt_valueOf true bits).symm,
    computes_replace_narrow laneWidth32 (by decide) fun payload _ _ _ => by
      simp only [executeSimdLane, i32FromStack_cons, v128FromStack_cons, ok_bind, Nat.reduceEqDiff,
        if_false, if_true, whole],
    computes_extract laneWidth64 (fun _ _ _ => rfl) fun bits =>
      congrArg Value.i64 (ofInt_valueOf true bits).symm,
    computes_replace laneWidth64 fun scalar typed => by
      obtain ⟨payload, rfl⟩ := Value.eq_i64 typed
      exact ⟨payload, laneOf_i64 payload, fun _ _ _ => by
        simp only [executeSimdLane, i64FromStack_cons, v128FromStack_cons, ok_bind,
          Nat.reduceEqDiff, if_false, if_true]⟩⟩

theorem comparisonInstructions_computed : ∀ row ∈ comparisonInstructions, Computes row.1 row.2 := by
  simp only [comparisonInstructions, List.forall_mem_append, forall_numbered,
    forall_numbered_nil, Nat.reduceAdd, and_true, and_assoc]
  refine ⟨comparisons_computed laneWidth8 ?_ ?_, comparisons_computed laneWidth16 ?_ ?_,
    comparisons_computed laneWidth32 ?_ ?_,
    computes_zipPure laneWidth64 rfl rfl fun left right => maskLane_eq (eq_holds true left right),
    computes_zipPure laneWidth64 rfl rfl fun left right => maskLane_eq (ne_holds true left right),
    computes_zipPure laneWidth64 rfl rfl fun left right => maskLane_eq (less_holds true left right),
    computes_zipPure laneWidth64 rfl rfl fun left right =>
      maskLane_eq (greater_holds true left right),
    computes_zipPure laneWidth64 rfl rfl fun left right => maskLane_eq (sle_holds left right),
    computes_zipPure laneWidth64 rfl rfl fun left right => maskLane_eq (sge_holds left right)⟩
  all_goals
    intro position below
    interval_cases position <;> rfl

theorem bitwiseInstructions_computed : ∀ row ∈ bitwiseInstructions, Computes row.1 row.2 := by
  have meets {subopcode : Nat} {instr : LaneInstruction} {arm : BitVec 8 → BitVec 8 → BitVec 8}
      {function : Vector128 → Vector128 → Vector128} (shape : Shape instr [.v128, .v128] .v128)
      (unlisted : simdUnary subopcode = none)
      (listed : simdBinary subopcode = some (zipPure 8 arm))
      (lanes : ∀ lhs rhs, ∀ index < 16,
        arm (lane 8 lhs index) (lane 8 rhs index) = lane 8 (function lhs rhs) index)
      (meaning : ∀ lhs rhs,
        instr.evaluate .none [.v128 lhs, .v128 rhs] = some (.v128 (function lhs rhs))) :
      Computes subopcode instr :=
    computes_binary shape unlisted listed (fun lhs rhs => bitwise_ok lhs rhs (lanes lhs rhs))
      meaning
  have andnot (lhs rhs : Vector128) (index : Nat) (inside : index < 16) :
      lane 8 lhs index &&& ~~~lane 8 rhs index = lane 8 (lhs &&& ~~~rhs) index := by
    rw [lane_and, laneWidth8.lane_not rhs inside]
  simp only [bitwiseInstructions, forall_numbered, forall_numbered_nil, Nat.reduceAdd, and_true]
  exact ⟨computes_unary ⟨rfl, rfl, fun _ => id⟩ rfl not_ok fun _ => rfl,
    meets ⟨rfl, rfl, fun _ => id⟩ rfl rfl (fun lhs rhs index _ => (lane_and lhs rhs index).symm)
      fun _ _ => rfl,
    meets ⟨rfl, rfl, fun _ => id⟩ rfl rfl andnot fun _ _ => rfl,
    meets ⟨rfl, rfl, fun _ => id⟩ rfl rfl (fun lhs rhs index _ => (lane_or lhs rhs index).symm)
      fun _ _ => rfl,
    meets ⟨rfl, rfl, fun _ => id⟩ rfl rfl (fun lhs rhs index _ => (lane_xor lhs rhs index).symm)
      fun _ _ => rfl,
    computes_ternary ⟨rfl, rfl, fun _ => id⟩ ⟨rfl, rfl⟩ rfl bitselect_ok fun _ _ _ => rfl,
    computes_test ⟨rfl, rfl, fun _ => id⟩ ⟨rfl, rfl, rfl, rfl⟩ rfl
      (fun value => congrArg (Except.ok ∘ ofCondition) (anyTrue_eq value)) fun _ => rfl⟩

/-- The sign of a byte is its high bit. -/
theorem sign_byte : ∀ bits : BitVec 8, (bits &&& 0x80 != 0) = decide (valueOf true bits < 0) := by
  decide +kernel

theorem sign_slt {width : Nat} (bits : BitVec width) :
    bits.slt 0 = decide (valueOf true bits < 0) := by
  rw [Bool.eq_iff_iff, slt_zero_iff, decide_eq_true_iff]

theorem i8x16Instructions_computed : ∀ row ∈ i8x16Instructions, Computes row.1 row.2 := by
  simp only [i8x16Instructions, List.forall_mem_append, forall_numbered, forall_numbered_nil,
    Nat.reduceAdd, and_true, and_assoc]
  refine ⟨computes_map laneWidth8 rfl wrappingAbs_eq, computes_map laneWidth8 rfl (neg_eq true),
    computes_map laneWidth8 rfl cpop_eq,
    computes_allTrue laneWidth8 ⟨rfl, rfl, rfl, rfl⟩ rfl,
    computes_bitmask laneWidth8 ⟨rfl, rfl, rfl, rfl⟩ rfl sign_byte,
    computes_narrow laneWidth8 laneWidth16 rfl rfl, computes_narrow laneWidth8 laneWidth16 rfl rfl,
    @shifts_computed _ _ laneWidth8 3 (by decide) rfl ?_ ?_, additions_computed laneWidth8 ?_ ?_,
    extrema_computed laneWidth8 ?_ ⟨rfl, rfl⟩ ⟨rfl, rfl⟩,
    computes_zip laneWidth8 rfl rfl averageLane8_ok⟩
  all_goals
    intro position below
    interval_cases position <;> first | rfl | exact ⟨rfl, rfl, rfl⟩

theorem i16x8Instructions_computed : ∀ row ∈ i16x8Instructions, Computes row.1 row.2 := by
  simp only [i16x8Instructions, extensions, multiplications, List.forall_mem_append,
    forall_numbered, forall_numbered_nil, Nat.reduceAdd, and_true, and_assoc]
  refine ⟨computes_extadd laneWidth8 laneWidth16 rfl, computes_extadd laneWidth8 laneWidth16 rfl,
    computes_map laneWidth16 rfl wrappingAbs_eq, computes_map laneWidth16 rfl (neg_eq true),
    computes_zip laneWidth16 rfl rfl multiplyQ15_ok,
    computes_allTrue laneWidth16 ⟨rfl, rfl, rfl, rfl⟩ rfl,
    computes_bitmask laneWidth16 ⟨rfl, rfl, rfl, rfl⟩ rfl sign_slt,
    computes_narrow laneWidth16 laneWidth32 rfl rfl,
    computes_narrow laneWidth16 laneWidth32 rfl rfl,
    computes_extend laneWidth8 laneWidth16 rfl, computes_extend laneWidth8 laneWidth16 rfl,
    computes_extend laneWidth8 laneWidth16 rfl, computes_extend laneWidth8 laneWidth16 rfl,
    @shifts_computed _ _ laneWidth16 4 (by decide) rfl ?_ ?_, additions_computed laneWidth16 ?_ ?_,
    computes_zipPure laneWidth16 rfl rfl (mul_eq true),
    extrema_computed laneWidth16 ?_ ⟨rfl, rfl⟩ ⟨rfl, rfl⟩,
    computes_zip laneWidth16 rfl rfl averageLane16_ok,
    computes_extmul laneWidth8 laneWidth16 rfl rfl, computes_extmul laneWidth8 laneWidth16 rfl rfl,
    computes_extmul laneWidth8 laneWidth16 rfl rfl, computes_extmul laneWidth8 laneWidth16 rfl rfl⟩
  all_goals
    intro position below
    interval_cases position <;> first | rfl | exact ⟨rfl, rfl, rfl⟩

theorem i32x4Instructions_computed : ∀ row ∈ i32x4Instructions, Computes row.1 row.2 := by
  simp only [i32x4Instructions, extensions, multiplications, List.forall_mem_append,
    List.forall_mem_cons, forall_numbered, forall_numbered_nil, Nat.reduceAdd, and_true,
    and_assoc]
  refine ⟨computes_extadd laneWidth16 laneWidth32 rfl, computes_extadd laneWidth16 laneWidth32 rfl,
    computes_map laneWidth32 rfl wrappingAbs_eq, computes_map laneWidth32 rfl (neg_eq true),
    computes_allTrue laneWidth32 ⟨rfl, rfl, rfl, rfl⟩ rfl,
    computes_bitmask laneWidth32 ⟨rfl, rfl, rfl, rfl⟩ rfl sign_slt,
    computes_extend laneWidth16 laneWidth32 rfl, computes_extend laneWidth16 laneWidth32 rfl,
    computes_extend laneWidth16 laneWidth32 rfl, computes_extend laneWidth16 laneWidth32 rfl,
    @shifts_computed _ _ laneWidth32 5 (by decide) rfl ?_ ?_,
    computes_zipPure laneWidth32 rfl rfl (add_eq true),
    computes_zipPure laneWidth32 rfl rfl (sub_eq true),
    computes_zipPure laneWidth32 rfl rfl (mul_eq true), by simp,
    extrema_computed laneWidth32 ?_ ⟨rfl, rfl⟩ ⟨rfl, rfl⟩,
    computes_binary ⟨rfl, rfl, fun _ => id⟩ rfl rfl dotLanes_ok fun _ _ => rfl,
    computes_extmul laneWidth16 laneWidth32 rfl rfl,
    computes_extmul laneWidth16 laneWidth32 rfl rfl,
    computes_extmul laneWidth16 laneWidth32 rfl rfl,
    computes_extmul laneWidth16 laneWidth32 rfl rfl⟩
  all_goals
    intro position below
    interval_cases position <;> first | rfl | exact ⟨rfl, rfl, rfl⟩

theorem i64x2Instructions_computed : ∀ row ∈ i64x2Instructions, Computes row.1 row.2 := by
  simp only [i64x2Instructions, extensions, multiplications, List.forall_mem_append,
    List.forall_mem_cons, forall_numbered, forall_numbered_nil, Nat.reduceAdd, and_true,
    and_assoc]
  refine ⟨computes_map laneWidth64 rfl wrappingAbs_eq, computes_map laneWidth64 rfl (neg_eq true),
    computes_allTrue laneWidth64 ⟨rfl, rfl, rfl, rfl⟩ rfl,
    computes_bitmask laneWidth64 ⟨rfl, rfl, rfl, rfl⟩ rfl sign_slt,
    computes_extendFrom laneWidth32 laneWidth64 rfl,
    computes_extendFrom laneWidth32 laneWidth64 rfl,
    computes_extendFrom laneWidth32 laneWidth64 rfl,
    computes_extendFrom laneWidth32 laneWidth64 rfl,
    @shifts_computed _ _ laneWidth64 6 (by decide) rfl ?_ ?_,
    computes_zipPure laneWidth64 rfl rfl (add_eq true),
    computes_zipPure laneWidth64 rfl rfl (sub_eq true),
    computes_zipPure laneWidth64 rfl rfl (mul_eq true), by simp,
    computes_extmul laneWidth32 laneWidth64 rfl rfl,
    computes_extmul laneWidth32 laneWidth64 rfl rfl,
    computes_extmul laneWidth32 laneWidth64 rfl rfl,
    computes_extmul laneWidth32 laneWidth64 rfl rfl⟩
  all_goals
    intro position below
    interval_cases position <;> first | rfl | exact ⟨rfl, rfl, rfl⟩

theorem relaxedInstructions_computed : ∀ row ∈ relaxedInstructions, Computes row.1 row.2 := by
  simp only [relaxedInstructions, List.forall_mem_append, forall_numbered, forall_numbered_nil,
    Nat.reduceAdd, and_true, and_assoc]
  exact ⟨computes_binary ⟨rfl, rfl, fun _ => id⟩ rfl rfl swizzle_ok fun _ _ => rfl,
    computes_ternary ⟨rfl, rfl, fun _ => id⟩ ⟨rfl, rfl⟩ rfl bitselect_ok fun _ _ _ => rfl,
    computes_ternary ⟨rfl, rfl, fun _ => id⟩ ⟨rfl, rfl⟩ rfl bitselect_ok fun _ _ _ => rfl,
    computes_ternary ⟨rfl, rfl, fun _ => id⟩ ⟨rfl, rfl⟩ rfl bitselect_ok fun _ _ _ => rfl,
    computes_ternary ⟨rfl, rfl, fun _ => id⟩ ⟨rfl, rfl⟩ rfl bitselect_ok fun _ _ _ => rfl,
    computes_zip laneWidth16 rfl rfl multiplyQ15_ok,
    computes_binary ⟨rfl, rfl, fun _ => id⟩ rfl rfl (fun lhs rhs =>
      laneLoop_ok laneWidth16 rfl fun index inside => pairDot_ok lhs rhs inside) fun _ _ => rfl,
    computes_ternary ⟨rfl, rfl, fun _ => id⟩ ⟨rfl, rfl⟩ rfl (fun lhs rhs addend =>
      laneLoop_ok laneWidth32 rfl fun index inside => dotAccumulate_ok lhs rhs addend inside)
      fun _ _ _ => rfl⟩

theorem laneInstructions_computed : ∀ row ∈ laneInstructions, Computes row.1 row.2 := by
  simp only [laneInstructions, List.forall_mem_append, and_assoc]
  exact ⟨moveInstructions_computed, comparisonInstructions_computed, bitwiseInstructions_computed,
    i8x16Instructions_computed, i16x8Instructions_computed, i32x4Instructions_computed,
    i64x2Instructions_computed, relaxedInstructions_computed⟩

/-! ## Immediates and signatures -/

/-- The opcodes for which the decoder reads the immediate that an instruction takes. -/
def decoded (subopcode : Nat) : LaneInstruction → Bool
  | .shuffle => subopcode = 13
  | .extractLane width _ | .replaceLane width =>
      21 ≤ subopcode ∧ subopcode ≤ 34 ∧ laneLimit subopcode = 128 / width
  | _ => 13 < subopcode ∧ (subopcode < 21 ∨ 34 < subopcode) ∧ (subopcode < 84 ∨ 93 < subopcode)

section Immediates

variable {code : List UInt8} {pc memoryCount subopcode next : Nat}
variable {immediate : SimdImmediate}

theorem readSimdImmediate_none
    (bare : 13 < subopcode ∧ (subopcode < 21 ∨ 34 < subopcode) ∧
      (subopcode < 84 ∨ 93 < subopcode)) :
    readSimdImmediate code pc memoryCount subopcode = .ok (.none, pc) := by
  rw [readSimdImmediate, if_neg (by omega), if_neg (by omega), if_neg (by omega),
    if_neg (by omega), if_neg (by omega)]
  rfl

theorem readSimdImmediate_lane (lane : 21 ≤ subopcode ∧ subopcode ≤ 34) :
    Ensures (fun result => ∃ index, result.1 = .lane index ∧ index < laneLimit subopcode)
      (readSimdImmediate code pc memoryCount subopcode) := by
  rw [readSimdImmediate, if_neg (by omega), if_neg (by omega), if_neg (by omega),
    if_neg (by omega), if_pos lane, ensures_bind, readLaneIndex, ensures_bind]
  intro result read
  rw [ensures_ite]
  refine ⟨fun _ => ensures_error _, fun inside => ?_⟩
  rw [ensures_pure, ensures_pure]
  exact ⟨_, rfl, Nat.lt_of_not_le inside⟩

theorem readSimdImmediate_shuffle :
    Ensures (fun result => ∃ lanes, result.1 = .shuffle lanes ∧ lanes.length = 16 ∧
        ∀ lane ∈ lanes, lane.toNat < 32)
      (readSimdImmediate code pc memoryCount 13) := by
  rw [readSimdImmediate, if_neg (by omega), if_neg (by omega), if_neg (by omega), if_pos rfl,
    ensures_bind, readShuffleLanes, ensures_bind, readBytes, ensures_ite]
  refine ⟨fun room => ?_, fun _ => ensures_error _⟩
  rw [ensures_ok, ensures_ite]
  refine ⟨fun _ => ensures_error _, fun inside => ?_⟩
  rw [ensures_pure, ensures_pure]
  refine ⟨_, rfl, ?_, fun lane member => ?_⟩
  · rw [List.length_take, List.length_drop]
    omega
  · by_contra large
    exact inside (List.any_eq_true.mpr ⟨lane, member, decide_eq_true (Nat.le_of_not_lt large)⟩)

/-- What the decoder reads is an immediate that the instruction takes. -/
theorem readSimdImmediate_admits {instr : LaneInstruction}
    (known : decoded subopcode instr = true)
    (read : readSimdImmediate code pc memoryCount subopcode = .ok (immediate, next)) :
    Admits instr immediate := by
  have lane {width : Nat} (known : decide (21 ≤ subopcode ∧ subopcode ≤ 34 ∧
      laneLimit subopcode = 128 / width) = true) :
      ∃ index, immediate = .lane index ∧ index < 128 / width := by
    obtain ⟨above, below, limit⟩ := of_decide_eq_true known
    rw [← limit]
    exact readSimdImmediate_lane ⟨above, below⟩ _ read
  have bare (known : decide (13 < subopcode ∧ (subopcode < 21 ∨ 34 < subopcode) ∧
      (subopcode < 84 ∨ 93 < subopcode)) = true) : immediate = .none := by
    rw [readSimdImmediate_none (of_decide_eq_true known), Except.ok.injEq, Prod.mk.injEq] at read
    exact read.1.symm
  cases instr with
  | shuffle =>
    obtain rfl := of_decide_eq_true known
    exact readSimdImmediate_shuffle _ read
  | extractLane width signed => exact lane known
  | replaceLane width => exact lane known
  | _ => exact bare known

end Immediates

theorem laneInstructions_decoded : ∀ row ∈ laneInstructions, decoded row.1 row.2 = true := by
  decide +kernel

/-- The validator types every instruction by its operands and its result. -/
theorem laneInstructions_typed : ∀ row ∈ laneInstructions,
    (Validator.simdArm row.1).map (fun arm => (arm.pops, arm.pushes)) =
      some ((row.2.operands.map Validator.SimdOperand.value).reverse, [row.2.result]) := by
  decide +kernel

/-! ## The law -/

/-- Every opcode on integer lanes follows its instruction: the validator demands the types of the
operands and promises that of the result, and on such operands the arm pops them, pushes what
the instruction computes and changes nothing else. -/
theorem executeSimd_lanes {row : Nat × LaneInstruction} (listed : row ∈ laneInstructions) :
    (Validator.simdArm row.1).map (fun arm => (arm.pops, arm.pushes)) =
      some ((row.2.operands.map Validator.SimdOperand.value).reverse, [row.2.result]) ∧
    ∀ {σ : Type} (inst : Instance σ) (state : PlainState σ) (code : List UInt8)
      (pc memoryCount next : Nat) (immediate : SimdImmediate) (operands rest : List Value),
      readSimdImmediate code pc memoryCount row.1 = .ok (immediate, next) →
      typesOf operands = row.2.operands → state.stack = operands.reverse ++ rest →
      ∃ result, row.2.evaluate immediate operands = some result ∧
        result.valueType = row.2.result ∧
        executeSimd inst state row.1 immediate = .ok { state with stack := result :: rest } :=
  ⟨laneInstructions_typed row listed,
    fun inst state _ _ _ _ immediate operands rest read typed stacked =>
      laneInstructions_computed row listed inst state immediate operands rest
        (readSimdImmediate_admits (laneInstructions_decoded row listed) read) typed stacked⟩

/-- A signed saturating addition of bytes stops at the highest one. -/
theorem executeSimd_lanes_saturating :
    ∃ (inst : Instance Unit) (state : PlainState Unit),
      executeSimd inst state 111 .none = .ok { state with stack := [.v128 (splat 8 127)] } := by
  let inst : Instance Unit :=
    ⟨0, {}, [], [], [], ⟨[], [], [], []⟩, ⟨26, 1, none, none⟩⟩
  let operands : List Value := [.v128 (splat 8 127), .v128 (splat 8 1)]
  let state : PlainState Unit := ⟨⟨Heap.empty fun _ => true, [], [], [], ()⟩, [], operands.reverse⟩
  obtain ⟨result, evaluated, -, ran⟩ :=
    (@executeSimd_lanes (111, .binary 8 (.addSat true)) (by decide +kernel)).2 inst state [] 0 0 0
      .none operands [] rfl rfl rfl
  have same : result = .v128 (splat 8 127) := by
    have computed : (LaneInstruction.binary 8 (.addSat true)).evaluate .none operands =
        some (.v128 (splat 8 127)) := by decide +kernel
    exact Option.some.inj (evaluated.symm.trans computed)
  exact ⟨inst, state, by rw [ran, same]⟩

end MiniWasm.Runtime
