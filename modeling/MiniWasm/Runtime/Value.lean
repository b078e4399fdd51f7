import MiniWasm.Library.Result
import MiniWasm.Parser.Leb128
import MiniWasm.Validator.Error

/-!
# Values and runtime errors

Operand values, the errors that the interpreter reports, and the checked pops
from the operand stack.  Floats are carried as bit patterns, so that moving one
never changes its payload.  An operand stack is a list with its top at the head.
-/

namespace MiniWasm.Runtime

open Library

/-- Numbers and vectors are their bits; a reference is the index of a function, or null. -/
inductive Value where
  | i32 (value : BitVec 32)
  | i64 (value : BitVec 64)
  | f32 (bits : BitVec 32)
  | f64 (bits : BitVec 64)
  | v128 (bits : BitVec 128)
  | funcRef (reference : Option Nat)
  deriving DecidableEq, Repr

def Value.valueType : Value → ValueType
  | .i32 _ => .i32
  | .i64 _ => .i64
  | .f32 _ => .f32
  | .f64 _ => .f64
  | .v128 _ => .v128
  | .funcRef _ => .funcRef

/-- The value that a local starts with. -/
def zero : ValueType → Value
  | .i32 => .i32 0
  | .i64 => .i64 0
  | .f32 => .f32 0
  | .f64 => .f64 0
  | .v128 => .v128 0
  | .funcRef => .funcRef none

@[simp] theorem zero_valueType (type : ValueType) : (zero type).valueType = type := by
  cases type <;> rfl

/-- The value of an initializer. -/
def valueFromConstant : Constant → Value
  | .i32 value => .i32 value
  | .i64 value => .i64 value
  | .f32 bits => .f32 bits
  | .f64 bits => .f64 bits
  | .funcRef reference => .funcRef reference

@[simp] theorem valueFromConstant_valueType (constant : Constant) :
    (valueFromConstant constant).valueType = constant.valueType := by
  cases constant <;> rfl

/-- What a callback fails with, apart from the errors of the runtime. -/
inductive HostError where
  | capabilityDenied (capability : String)
  | memoryUnavailable
  | memoryOutOfBounds (address width : Nat)
  | message (text : String)
  deriving DecidableEq, Repr

/-- The errors of the modelled functions.  `panicked` marks a point at which the
program would panic. -/
inductive RuntimeError where
  | validation (error : ValidationError)
  | decode (error : ParseError)
  | exportNotFound (name : String)
  | exportNotFunction (name : String)
  | exportNotMemory (name : String)
  | exportNotGlobal (name : String)
  | exportNotTable (name : String)
  | functionOutOfBounds (index : Nat)
  | wrongArgumentCount (expected actual : Nat)
  | localOutOfBounds (index : Nat)
  | stackUnderflow
  | valueTypeMismatch (expected actual : ValueType)
  | unownedFunctionReferenceArgument
  | unsupportedOpcode (opcode : Nat)
  | unreachable
  | integerDivisionByZero
  | integerOverflow
  | invalidConversionToInteger
  | unsupportedPrefixedOpcode (pfx subopcode : Nat)
  | unsupportedBlockType (blockType : Nat)
  | blockTypeIndexOutOfBounds (typeIndex : Nat)
  | branchDepthOutOfBounds (depth : Nat)
  | controlStackMismatch (expected actual : Nat)
  | controlInvariant (text : String)
  | resultArityMismatch (expected actual : Nat)
  | multiValueResultRequiresValuesApi (results : Nat)
  | memoryIndexOutOfBounds (index : Nat)
  | memoryOutOfBounds (address width : Nat)
  | memoryAllocationFailed (pages : Nat)
  | memoryLimitExceeded (minimum limit : Nat)
  | dataSegmentOutOfBounds (segment offset length : Nat)
  | dataIndexOutOfBounds (index : Nat)
  | dataSegmentSourceOutOfBounds (segment offset length : Nat)
  | elementIndexOutOfBounds (index : Nat)
  | elementSegmentSourceOutOfBounds (segment offset length : Nat)
  | tableAllocationFailed (elements : Nat)
  | elementSegmentOutOfBounds (segment offset length : Nat)
  | globalOutOfBounds (index : Nat)
  | immutableGlobalSet (index : Nat)
  | tableIndexOutOfBounds (index : Nat)
  | tableElementOutOfBounds (index : Nat)
  | uninitializedTableElement (index : Nat)
  | indirectCallTypeMismatch (expectedType functionIndex : Nat)
  | unresolvedImport (module name : String)
  | unresolvedGlobalImport (module name : String)
  | unresolvedTableImport (module name : String)
  | unresolvedMemoryImport (module name : String)
  | hostMemoryAddressWidthMismatch (module name : String)
      (expectedMemory64 actualMemory64 : Bool)
  | hostMemoryLimitsMismatch (module name : String) (expectedMinimum : Nat)
      (expectedMaximum : Option Nat) (actualMinimum : Nat) (actualMaximum : Option Nat)
  | hostMemoryLimitWidthOverflow (module name : String)
  | hostMemoryRuntimeLimitMismatch (module name : String)
      (memoryLimit runtimeLimit : Nat)
  | hostTableLimitsMismatch (module name : String) (expectedMinimum : Nat)
      (expectedMaximum : Option Nat) (actualMinimum : Nat) (actualMaximum : Option Nat)
  | hostTableAlreadyBound (module name : String)
  | foreignTableFunctionReference (elementIndex : Nat)
  | hostGlobalTypeMismatch (module name : String) (expected actual : ValueType)
  | hostGlobalMutabilityMismatch (module name : String) (expected actual : Bool)
  | hostSignatureMismatch (module name : String)
  | hostCallFailed (module name : String) (error : HostError)
  | hostResultArityMismatch (module name : String) (expected actual : Nat)
  | hostResultTypeMismatch (module name : String) (expected actual : ValueType)
  | fuelExhausted
  | hostCallLimitExceeded (limit : Nat)
  | callDepthExceeded (limit : Nat)
  | panicked
  deriving DecidableEq, Repr

/-- Functions of the interpreter that return a `Result`. -/
abbrev Run (α : Type) := Except RuntimeError α

/-- The operands, the last one first. -/
abbrev Stack := List Value

/-! ## Checked pops -/

/-- The comparison behind every typed pop. -/
def checkType (value : Value) (expected : ValueType) : Run Unit :=
  if value.valueType = expected then
    .ok ()
  else
    .error (.valueTypeMismatch expected value.valueType)

/-- `stack.pop()`, with the error for an empty stack. -/
def pop (stack : Stack) : Run (Value × Stack) :=
  match stack with
  | [] => .error .stackUnderflow
  | value :: rest => .ok (value, rest)

/-- A pop that checks the type of the value. -/
def popTyped (stack : Stack) (expected : ValueType) : Run (Value × Stack) := do
  let (value, stack) ← pop stack
  checkType value expected
  return (value, stack)

/-- The second arm stands for `unreachable!` in the source; the check before it rules it
out. -/
def i32FromStack (stack : Stack) : Run (BitVec 32 × Stack) := do
  match ← popTyped stack .i32 with
  | (.i32 value, stack) => return (value, stack)
  | _ => .error .panicked

def i64FromStack (stack : Stack) : Run (BitVec 64 × Stack) := do
  match ← popTyped stack .i64 with
  | (.i64 value, stack) => return (value, stack)
  | _ => .error .panicked

def f32FromStack (stack : Stack) : Run (BitVec 32 × Stack) := do
  match ← popTyped stack .f32 with
  | (.f32 bits, stack) => return (bits, stack)
  | _ => .error .panicked

def f64FromStack (stack : Stack) : Run (BitVec 64 × Stack) := do
  match ← popTyped stack .f64 with
  | (.f64 bits, stack) => return (bits, stack)
  | _ => .error .panicked

def v128FromStack (stack : Stack) : Run (BitVec 128 × Stack) := do
  match ← popTyped stack .v128 with
  | (.v128 bits, stack) => return (bits, stack)
  | _ => .error .panicked

def funcRefFromStack (stack : Stack) : Run (Option Nat × Stack) := do
  match ← popTyped stack .funcRef with
  | (.funcRef reference, stack) => return (reference, stack)
  | _ => .error .panicked

/-- The comparison loop behind `validate_values`; both lists are in source
order and of one length. -/
def checkTypes : List ValueType → List Value → Run Unit
  | expected :: types, value :: values => do
      checkType value expected
      checkTypes types values
  | _, _ => .ok ()

/-- The check of arguments and results: their number, then the type of each. -/
def validateValues (types : List ValueType) (values : List Value) : Run Unit :=
  if values.length ≠ types.length then
    .error (.wrongArgumentCount types.length values.length)
  else
    checkTypes types values

/-- Types of a list of values. -/
def typesOf (values : List Value) : List ValueType :=
  values.map Value.valueType

@[simp] theorem typesOf_nil : typesOf [] = [] :=
  rfl

@[simp] theorem typesOf_cons (value : Value) (values : List Value) :
    typesOf (value :: values) = value.valueType :: typesOf values :=
  rfl

@[simp] theorem typesOf_append (left right : List Value) :
    typesOf (left ++ right) = typesOf left ++ typesOf right :=
  List.map_append

@[simp] theorem typesOf_reverse (values : List Value) :
    typesOf values.reverse = (typesOf values).reverse :=
  List.map_reverse

@[simp] theorem typesOf_length (values : List Value) :
    (typesOf values).length = values.length :=
  List.length_map _

theorem checkType_ok (value : Value) : checkType value value.valueType = .ok () :=
  if_pos rfl

theorem checkType_ok_iff {value : Value} {expected : ValueType} :
    checkType value expected = .ok () ↔ value.valueType = expected := by
  unfold checkType
  split_ifs with same <;> simp [same]

/-- Where the numbers agree the check compares the types one by one. -/
theorem checkTypes_ok_iff {types : List ValueType} {values : List Value}
    (lengthEq : values.length = types.length) :
    checkTypes types values = .ok () ↔ typesOf values = types := by
  induction types generalizing values with
  | nil =>
      cases values with
      | nil => simp [checkTypes]
      | cons value values => simp at lengthEq
  | cons expected types ih =>
      cases values with
      | nil => simp at lengthEq
      | cons value values =>
          simp only [List.length_cons, Nat.add_right_cancel_iff] at lengthEq
          by_cases same : value.valueType = expected
          · have checked := checkType_ok_iff.mpr same
            simp only [checkTypes, checked, typesOf_cons, same, List.cons.injEq, true_and]
            exact ih lengthEq
          · simp [checkTypes, checkType, same, bind, Except.bind]

/-- Values pass the check exactly when they have the types. -/
theorem validateValues_ok_iff {types : List ValueType} {values : List Value} :
    validateValues types values = .ok () ↔ typesOf values = types := by
  unfold validateValues
  split_ifs with lengthNe
  · simp only [false_iff]
    rintro rfl
    exact lengthNe (typesOf_length values).symm
  · exact checkTypes_ok_iff (Decidable.not_not.mp lengthNe)

/-! Every typed pop succeeds on a value of its type and returns its payload. -/

/-- A typed pop of a value of the type returns it. -/
theorem popTyped_cons (value : Value) (rest : Stack) :
    popTyped (value :: rest) value.valueType = .ok (value, rest) := by
  simp only [popTyped, pop, bind, Except.bind, checkType_ok]
  rfl

@[simp] theorem i32FromStack_cons (value : BitVec 32) (rest : Stack) :
    i32FromStack (.i32 value :: rest) = .ok (value, rest) :=
  rfl

@[simp] theorem i64FromStack_cons (value : BitVec 64) (rest : Stack) :
    i64FromStack (.i64 value :: rest) = .ok (value, rest) :=
  rfl

@[simp] theorem f32FromStack_cons (bits : BitVec 32) (rest : Stack) :
    f32FromStack (.f32 bits :: rest) = .ok (bits, rest) :=
  rfl

@[simp] theorem f64FromStack_cons (bits : BitVec 64) (rest : Stack) :
    f64FromStack (.f64 bits :: rest) = .ok (bits, rest) :=
  rfl

@[simp] theorem v128FromStack_cons (bits : BitVec 128) (rest : Stack) :
    v128FromStack (.v128 bits :: rest) = .ok (bits, rest) :=
  rfl

@[simp] theorem funcRefFromStack_cons (reference : Option Nat) (rest : Stack) :
    funcRefFromStack (.funcRef reference :: rest) = .ok (reference, rest) :=
  rfl

/-- The shape of a value is known from its type. -/
theorem Value.eq_i32 {value : Value} (typed : value.valueType = .i32) :
    ∃ payload, value = .i32 payload := by
  cases value <;> simp_all [valueType]

theorem Value.eq_i64 {value : Value} (typed : value.valueType = .i64) :
    ∃ payload, value = .i64 payload := by
  cases value <;> simp_all [valueType]

theorem Value.eq_f32 {value : Value} (typed : value.valueType = .f32) :
    ∃ payload, value = .f32 payload := by
  cases value <;> simp_all [valueType]

theorem Value.eq_f64 {value : Value} (typed : value.valueType = .f64) :
    ∃ payload, value = .f64 payload := by
  cases value <;> simp_all [valueType]

theorem Value.eq_v128 {value : Value} (typed : value.valueType = .v128) :
    ∃ payload, value = .v128 payload := by
  cases value <;> simp_all [valueType]

theorem Value.eq_funcRef {value : Value} (typed : value.valueType = .funcRef) :
    ∃ payload, value = .funcRef payload := by
  cases value <;> simp_all [valueType]

/-! A typed pop takes a value of its type off the top, and nothing else. -/

theorem ensures_pop {post : Value × Stack → Prop} {stack : Stack} :
    Ensures post (pop stack) ↔ ∀ value rest, stack = value :: rest → post (value, rest) := by
  cases stack with
  | nil => simp [pop]
  | cons value rest => simp [pop]

/-- The operand is there and has the type, or there is nothing to ensure. -/
theorem ensures_popTyped {post : Value × Stack → Prop} {stack : Stack}
    {type : ValueType} :
    Ensures post (popTyped stack type) ↔
      ∀ value rest, stack = value :: rest → value.valueType = type → post (value, rest) := by
  cases stack with
  | nil => simp [popTyped, pop]
  | cons value rest => simp [popTyped, pop, checkType]

/-- The rule for an operand of type `i32`; those for the other types follow. -/
theorem ensures_i32FromStack {post : BitVec 32 × Stack → Prop} {stack : Stack} :
    Ensures post (i32FromStack stack) ↔
      ∀ value rest, stack = .i32 value :: rest → post (value, rest) := by
  rw [i32FromStack, ensures_bind, ensures_popTyped]
  constructor
  · rintro ensures value rest rfl
    simpa using ensures _ _ rfl rfl
  · rintro ensures value rest rfl typed
    obtain ⟨payload, rfl⟩ := Value.eq_i32 typed
    simpa using ensures payload rest rfl

theorem ensures_i64FromStack {post : BitVec 64 × Stack → Prop} {stack : Stack} :
    Ensures post (i64FromStack stack) ↔
      ∀ value rest, stack = .i64 value :: rest → post (value, rest) := by
  rw [i64FromStack, ensures_bind, ensures_popTyped]
  constructor
  · rintro ensures value rest rfl
    simpa using ensures _ _ rfl rfl
  · rintro ensures value rest rfl typed
    obtain ⟨payload, rfl⟩ := Value.eq_i64 typed
    simpa using ensures payload rest rfl

theorem ensures_f32FromStack {post : BitVec 32 × Stack → Prop} {stack : Stack} :
    Ensures post (f32FromStack stack) ↔
      ∀ bits rest, stack = .f32 bits :: rest → post (bits, rest) := by
  rw [f32FromStack, ensures_bind, ensures_popTyped]
  constructor
  · rintro ensures bits rest rfl
    simpa using ensures _ _ rfl rfl
  · rintro ensures value rest rfl typed
    obtain ⟨payload, rfl⟩ := Value.eq_f32 typed
    simpa using ensures payload rest rfl

theorem ensures_f64FromStack {post : BitVec 64 × Stack → Prop} {stack : Stack} :
    Ensures post (f64FromStack stack) ↔
      ∀ bits rest, stack = .f64 bits :: rest → post (bits, rest) := by
  rw [f64FromStack, ensures_bind, ensures_popTyped]
  constructor
  · rintro ensures bits rest rfl
    simpa using ensures _ _ rfl rfl
  · rintro ensures value rest rfl typed
    obtain ⟨payload, rfl⟩ := Value.eq_f64 typed
    simpa using ensures payload rest rfl

theorem ensures_v128FromStack {post : BitVec 128 × Stack → Prop} {stack : Stack} :
    Ensures post (v128FromStack stack) ↔
      ∀ bits rest, stack = .v128 bits :: rest → post (bits, rest) := by
  rw [v128FromStack, ensures_bind, ensures_popTyped]
  constructor
  · rintro ensures bits rest rfl
    simpa using ensures _ _ rfl rfl
  · rintro ensures value rest rfl typed
    obtain ⟨payload, rfl⟩ := Value.eq_v128 typed
    simpa using ensures payload rest rfl

theorem ensures_funcRefFromStack {post : Option Nat × Stack → Prop} {stack : Stack} :
    Ensures post (funcRefFromStack stack) ↔
      ∀ reference rest, stack = .funcRef reference :: rest → post (reference, rest) := by
  rw [funcRefFromStack, ensures_bind, ensures_popTyped]
  constructor
  · rintro ensures reference rest rfl
    simpa using ensures _ _ rfl rfl
  · rintro ensures value rest rfl typed
    obtain ⟨payload, rfl⟩ := Value.eq_funcRef typed
    simpa using ensures payload rest rfl

/-! A stack of a given type has values of that type on top. -/

/-- A stack with a type on top has a value of the type there. -/
theorem typesOf_eq_cons {stack : Stack} {type : ValueType} {types : List ValueType}
    (typed : typesOf stack = type :: types) :
    ∃ value rest, stack = value :: rest ∧ value.valueType = type ∧ typesOf rest = types := by
  cases stack with
  | nil => simp at typed
  | cons value rest =>
      simp only [typesOf_cons, List.cons.injEq] at typed
      exact ⟨value, rest, rfl, typed.1, typed.2⟩

/-- A stack whose types come in two parts is one stack on another. -/
theorem typesOf_eq_append {stack : Stack} {upper lower : List ValueType}
    (typed : typesOf stack = upper ++ lower) :
    ∃ above below, stack = above ++ below ∧ typesOf above = upper ∧ typesOf below = lower := by
  obtain ⟨above, below, rfl, aboveTyped, belowTyped⟩ := List.map_eq_append_iff.mp typed
  exact ⟨above, below, rfl, aboveTyped, belowTyped⟩

end MiniWasm.Runtime
