import MiniWasm.Parser.Correctness
import MiniWasm.Runtime.Segments
import MiniWasm.Spec.Payloads

/-!
# The items of element segments

An item names a function or is null, and the module holds it as a number.  An item has the
effect that it was written with exactly when it is not written as the number that stands for
null.
-/

namespace MiniWasm.Runtime

open Library

variable {σ : Type} {inst : Instance σ} {store after : Store σ} {handle : TableHandle}

/-- `table.init` copies what the numbers of a segment stand for. -/
theorem tableInit_slots {element table : Nat} {destination source length : BitVec 32}
    {functions : List Nat} (segment : store.elementSegments[element]? = some functions)
    (found : inst.tableHandle table = .ok handle)
    (run : inst.tableInit store element table destination source length = .ok after)
    (index : Nat) (inside : index < length.toNat) :
    ∃ functionIndex, functions[source.toNat + index]? = some functionIndex ∧
      (after.heap.table handle).slots[destination.toNat + index]? =
        some (inst.elementSlot functionIndex) := by
  unfold Instance.tableInit at run
  dsimp only at run
  rw [segment] at run
  dsimp only at run
  split_ifs at run with short
  rw [found, ok_bind] at run
  split_ifs at run with narrow
  cases run
  have present : source.toNat + index < functions.length := by omega
  refine ⟨functions[source.toNat + index], List.getElem?_eq_getElem present, ?_⟩
  rw [Heap.table_setTable]
  have slot : destination.toNat + index < (store.heap.table handle).slots.length := by omega
  have fits : index < ((functions.drop source.toNat).take length.toNat).length := by
    rw [List.length_take, List.length_drop]
    omega
  simp only [TableCell.writeSlots, getElem?_overwrite, List.getElem?_eq_getElem slot,
    Option.map_some, Nat.le_add_right, if_true, Nat.add_sub_cancel_left, Instance.elementSlots]
  rw [List.getElem?_map, List.getElem?_eq_getElem fits, Option.map_some, Option.getD_some,
    List.getElem_take, List.getElem_drop]
  rfl

/-! ## Items -/

/-- The slot that an item is written for. -/
def Instance.itemSlot (inst : Instance σ) (item : Spec.ElementItem) : Option FunctionRef :=
  item.function.map inst.functionRef

/-- What an active segment is written to do to a table: to fill a range of it, if it is for
the table. -/
def Instance.itemWrite (inst : Instance σ) (handle : TableHandle)
    (segment : Spec.ElementSyntax) : Option (Nat × List (Option FunctionRef)) :=
  match segment.mode with
  | .active table offset =>
      if inst.tables[table]? = some handle then
        some (offset.toNat, segment.items.map inst.itemSlot)
      else
        none
  | _ => none

/-- The number that holds an item stands for it, unless the item is written as the number
of null. -/
theorem elementSlot_decoded (inst : Instance σ) {item : Spec.ElementItem}
    (named : item.function ≠ some nullFuncrefIndex) :
    inst.elementSlot item.decoded = inst.itemSlot item := by
  cases item with
  | index function => exact if_neg fun same => named (congrArg some same)
  | refFunc function => exact if_neg fun same => named (congrArg some same)
  | refNull => rfl

theorem elementSlots_decoded (inst : Instance σ) {segment : Spec.ElementSyntax}
    (named : ∀ item ∈ segment.items, item.function ≠ some nullFuncrefIndex) :
    segment.decoded.functionIndices.map inst.elementSlot = segment.items.map inst.itemSlot := by
  rw [Spec.ElementSyntax.decoded, List.map_map]
  exact List.map_congr_left fun item listed => elementSlot_decoded inst (named item listed)

theorem elementWrite_decoded (inst : Instance σ) (handle : TableHandle)
    {segment : Spec.ElementSyntax}
    (named : ∀ item ∈ segment.items, item.function ≠ some nullFuncrefIndex) :
    inst.elementWrite handle segment.decoded = inst.itemWrite handle segment := by
  rw [Instance.elementWrite, Instance.itemWrite, elementSlots_decoded inst named]
  rfl

/-- Every item of the module's element segments has the effect that it is written with. -/
structure ElementsFaithful (tree : Spec.ModuleSyntax) : Prop where
  /-- The functions that items name exist. -/
  bound : ∀ segment ∈ tree.elements, ∀ item ∈ segment.items, ∀ function ∈ item.function,
    function < tree.decoded.functionCount
  /-- In a new instance a slot holds what the last active segment to cover it says. -/
  instantiated : ∀ (σ : Type) (hosts : HostRegistry σ) (limits : RuntimeLimits) (heap : Heap)
    (host : σ) (inst : Instance σ) (store : Store σ),
    instantiate tree.decoded hosts limits heap host = .ready inst store →
    ∀ (handle : TableHandle) (position : Nat) (slot : Option FunctionRef),
      lastWrite (tree.elements.filterMap (inst.itemWrite handle)) position = some slot →
        (store.heap.table handle).slots[position]? = some slot
  /-- Each active segment fills its range when it is applied. -/
  instantiation : ∀ (σ : Type) (inst : Instance σ) (store after : Store σ) (handle : TableHandle)
    (segment : Spec.ElementSyntax) (table : Nat) (offset : BitVec 32), segment ∈ tree.elements →
    segment.mode = .active table offset → inst.tableHandle table = .ok handle →
    writeElementSegment inst store segment.decoded = (after, .ok ()) →
    ∀ (index : Nat) (item : Spec.ElementItem), segment.items[index]? = some item →
      (after.heap.table handle).slots[offset.toNat + index]? = some (inst.itemSlot item)
  /-- `table.init` applies a segment, in an instance of any history. -/
  tableInit : ∀ (σ : Type) (world : World σ) (tenant : Tenant σ) (after : Store σ)
    (handle : TableHandle) (segment : Spec.ElementSyntax) (element table : Nat)
    (destination source length : BitVec 32), world.Reachable → tenant ∈ world.tenants →
    tenant.inst.module = tree.decoded → tree.elements[element]? = some segment →
    tenant.inst.tableHandle table = .ok handle →
    tenant.inst.tableInit (world.store tenant) element table destination source length =
      .ok after →
    ∀ index < length.toNat, ∃ item, segment.items[source.toNat + index]? = some item ∧
      (after.heap.table handle).slots[destination.toNat + index]? =
        some (tenant.inst.itemSlot item)

/-- The validator has checked every number of a segment that does not stand for null. -/
theorem validate_elements {module : Module} (valid : Validator.validate module = .ok ())
    {segment : ElementSegment} (member : segment ∈ module.elements) {functionIndex : Nat}
    (listed : functionIndex ∈ segment.functionIndices) (named : functionIndex ≠ nullFuncrefIndex) :
    functionIndex < module.functionCount := by
  have phase5 := (Validator.accepted_of_validate valid).phase5
  simp only [Validator.validatePhase5, bind_ok] at phase5
  obtain ⟨_, -, _, -, elements⟩ := phase5
  obtain ⟨position, found⟩ := List.getElem?_of_mem member
  have checked := checkEach_ok_iff.mp elements position segment found
  simp only [Validator.validateElement, bind_ok] at checked
  obtain ⟨_, -, items⟩ := checked
  obtain ⟨index, at_⟩ := List.getElem?_of_mem listed
  have item := checkEach_ok_iff.mp items index functionIndex at_
  split_ifs at item with outside
  exact Nat.not_le.mp fun beyond => outside ⟨named, beyond⟩

/-- The segments of an instance are those of its module, or dropped. -/
theorem segment_of_history {world : World σ} (reachable : world.Reachable) {tenant : Tenant σ}
    (member : tenant ∈ world.tenants) {element : Nat} {segment : ElementSegment}
    (found : tenant.inst.module.elements[element]? = some segment) :
    (world.store tenant).elementSegments[element]? = some segment.functionIndices ∨
      (world.store tenant).elementSegments[element]? = some [] := by
  have drained := (reachable.drained tenant member).elements
  obtain same | empty := drained.getElem? element
  · rw [List.getElem?_map, found, Option.map_some] at same
    unfold passiveElements at same
    split at same
    · exact .inl same
    · exact .inr same
    · exact .inr same
  · exact .inr empty

/-- Element items are what they are written as exactly when none is written as the function
index that stands for null. -/
theorem elementsFaithful_iff {bytes : List UInt8} {parsed : Module} {tree : Spec.ModuleSyntax}
    (accepted : Parser.parseModule bytes = .ok parsed)
    (valid : Validator.validate parsed = .ok ()) (written : Spec.Binary.module bytes tree) :
    ElementsFaithful tree ↔
      ∀ segment ∈ tree.elements, ∀ item ∈ segment.items,
        item.function ≠ some nullFuncrefIndex := by
  obtain rfl : tree.decoded = parsed :=
    ((Parser.parseModule_iff_denotes bytes parsed).mp accepted).2 tree written
  constructor
  · intro faithful segment member item listed named
    have bound := faithful.bound segment member item listed nullFuncrefIndex named
    exact absurd (Spec.Binary.functionCount_lt written) (Nat.lt_asymm bound)
  · intro named
    refine ⟨?_, ?_, ?_, ?_⟩
    · intro segment member item listed function found
      have number : item.decoded = function := by
        cases item with
        | refNull => cases found
        | _ => exact Option.some.inj found
      have elements : segment.decoded ∈ tree.decoded.elements := List.mem_map_of_mem member
      have numbers : function ∈ segment.decoded.functionIndices :=
        number ▸ List.mem_map_of_mem listed
      exact validate_elements valid elements numbers fun same =>
        named segment member item listed (found.trans (congrArg some same))
    · intro σ hosts limits heap host inst store ready handle position slot found
      obtain ⟨before, applied, same⟩ := instantiate_applied ready
      have overlaid := applied.tables handle
      have writes : inst.module.elements.filterMap (inst.elementWrite handle) =
          tree.elements.filterMap (inst.itemWrite handle) := by
        rw [same]
        change (tree.elements.map Spec.ElementSyntax.decoded).filterMap _ = _
        rw [List.filterMap_map]
        exact List.filterMap_congr fun segment member =>
          elementWrite_decoded inst handle (named segment member)
      rw [writes] at overlaid
      exact overlaid.covered found
    · intro σ inst store after handle segment table offset member mode found applied index item
        listed
      obtain ⟨slots, within, -⟩ := writeElementSegment_slots mode found applied
      rw [elementSlots_decoded inst (named segment member)] at slots
      have inItems := (List.getElem?_eq_some_iff.mp listed).1
      have inside := within index (by rwa [Spec.ElementSyntax.decoded, List.length_map])
      rw [slots, getElem?_overwrite, List.getElem?_eq_getElem inside, Option.map_some,
        if_pos (Nat.le_add_right ..), Nat.add_sub_cancel_left, List.getElem?_map, listed]
      rfl
    · intro σ world tenant after handle segment element table destination source length reachable
        member module at_ found run index inside
      have held : tenant.inst.module.elements[element]? = some segment.decoded := by
        rw [module]
        simp [Spec.ModuleSyntax.decoded, at_]
      obtain kept | dropped := segment_of_history reachable member held
      · obtain ⟨number, listed, slot⟩ := tableInit_slots kept found run index inside
        obtain ⟨item, itemListed, rfl⟩ : ∃ item,
            segment.items[source.toNat + index]? = some item ∧ item.decoded = number := by
          simpa [Spec.ElementSyntax.decoded] using listed
        rw [elementSlot_decoded tenant.inst (named segment (List.mem_of_getElem? at_) item
          (List.mem_of_getElem? itemListed))] at slot
        exact ⟨item, itemListed, slot⟩
      · obtain ⟨number, listed, -⟩ := tableInit_slots dropped found run index inside
        cases listed

/-- A module with a function and a passive segment that lists it. -/
def listedFunction : List UInt8 :=
  Spec.Binary.preamble ++
    [1, 4, 1, 0x60, 0, 0, 3, 2, 1, 0, 9, 5, 1, 1, 0, 1, 0, 10, 4, 1, 2, 0, 0x0b]

def listedFunctionModule : Module where
  types := [⟨[], []⟩]
  functionTypeIndices := [0]
  elements := [⟨.passive, [0]⟩]
  code := [⟨[], [0x0b]⟩]

theorem elementsFaithful_iff_listed :
    ∃ tree, Spec.Binary.module listedFunction tree ∧ tree.decoded = listedFunctionModule ∧
      (ElementsFaithful tree ↔ ∀ segment ∈ tree.elements, ∀ item ∈ segment.items,
        item.function ≠ some nullFuncrefIndex) := by
  have accepted : Parser.parseModule listedFunction = .ok listedFunctionModule := by
    decide +kernel
  obtain ⟨tree, written, same⟩ := Parser.parseModule_ok.mp accepted
  exact ⟨tree, written, same.symm, elementsFaithful_iff accepted (by decide +kernel) written⟩

/-- A module whose passive segment lists the function index that stands for null, and no
function. -/
def listedSentinel : List UInt8 :=
  Spec.Binary.preamble ++ [9, 9, 1, 1, 0, 1, 0xff, 0xff, 0xff, 0xff, 0x0f]

def listedSentinelTree : Spec.ModuleSyntax where
  elements := [⟨.passive, [.index nullFuncrefIndex]⟩]

namespace ListedSentinel

open Spec.Binary

theorem u32_byte {byte : UInt8} (ends : byte.toNat < 128) : u32 [byte] byte.toNat :=
  ⟨.last ends, (by decide : 7 * 1 < 32 + 7), by omega⟩

theorem vector_one {α : Type} {item : Format UInt8 α} {used : List UInt8} {value : α}
    (inFormat : item used value) : vector item (1 :: used) [value] :=
  ⟨1, [1], used, rfl, u32_byte (by decide), value, used, [], (List.append_nil used).symm, inFormat,
    Format.map_iff.mpr ⟨[], ⟨rfl, rfl⟩, rfl⟩⟩

theorem sentinel : u32 [0xff, 0xff, 0xff, 0xff, 0x0f] nullFuncrefIndex :=
  ⟨.more (by decide) (.more (by decide) (.more (by decide) (.more (by decide)
    (.last (by decide))))), by decide, by decide⟩

theorem items : elementIndices .passive [1, 0xff, 0xff, 0xff, 0xff, 0x0f]
    ⟨.passive, [.index nullFuncrefIndex]⟩ :=
  Format.map_iff.mpr ⟨[.index nullFuncrefIndex],
    vector_one (Format.map_iff.mpr ⟨nullFuncrefIndex, sentinel, rfl⟩), rfl⟩

theorem entry : elementEntry [1, 0, 1, 0xff, 0xff, 0xff, 0xff, 0x0f]
    ⟨.passive, [.index nullFuncrefIndex]⟩ :=
  ⟨1, [1], _, rfl, u32_byte (by decide), (), [0], _, rfl, rfl, items⟩

theorem inFormat : Spec.Binary.module listedSentinel listedSentinelTree := by
  have payload : sized (content 9 {}) [9, 1, 1, 0, 1, 0xff, 0xff, 0xff, 0xff, 0x0f]
      listedSentinelTree :=
    ⟨9, [9], _, rfl, u32_byte (by decide), rfl,
      Format.map_iff.mpr ⟨[⟨.passive, [.index nullFuncrefIndex]⟩], vector_one entry, rfl⟩⟩
  refine ⟨_, rfl, ?_, ⟨rfl, by simp [listedSentinelTree]⟩⟩
  have places : order = [1, 2, 3, 4, 5, 6, 7, 8] ++ 9 :: [12, 10, 11] := rfl
  rw [places]
  exact .standard payload .done

end ListedSentinel

/-- The parser and the validator accept an item that names a function that there is not, and
take it for null. -/
theorem listedSentinel_accepted :
    ∃ parsed, Parser.parseModule listedSentinel = .ok parsed ∧
      Validator.validate parsed = .ok () ∧ Spec.Binary.module listedSentinel listedSentinelTree ∧
      ¬ ElementsFaithful listedSentinelTree := by
  refine ⟨{ elements := [⟨.passive, [nullFuncrefIndex]⟩] }, by decide +kernel, by decide +kernel,
    ListedSentinel.inFormat, fun faithful => ?_⟩
  have bound := faithful.bound ⟨.passive, [.index nullFuncrefIndex]⟩ (List.mem_singleton_self _)
    (.index nullFuncrefIndex) (List.mem_singleton_self _) nullFuncrefIndex rfl
  revert bound
  decide

end MiniWasm.Runtime
