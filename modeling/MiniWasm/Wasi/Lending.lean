import MiniWasm.Runtime.Lanes
import MiniWasm.Wasi.Streams

/-!
# Memory lent to a callback

A callback that may read and write the memory of the guest: when the parts that callbacks
are made of have a result, and which one.  A range has to lie in the memory, and a vector of
buffers has to be one that a call accepts.
-/

namespace MiniWasm.Wasi

open Library Action MiniWasm.Runtime

/-! ## Ranges -/

/-- The callback may read and write the memory. -/
structure Host.Lends (host : Host) (memory : LinearMemory) : Prop where
  mayRead : host.capabilities.memoryRead = true
  mayWrite : host.capabilities.memoryWrite = true
  found : host.memory = some memory

section Memory

variable {α : Type} {host : Host} {memory : LinearMemory} {done : α → Host → Prop}

theorem unless_returns {condition : Prop} [Decidable condition] {errno : Errno}
    {next : Callback α} :
    Returns done (if condition then Callback.failWith errno else next) host ↔
      ¬ condition ∧ Returns done next host :=
  returns_unless

theorem query_returns {ε : Type} {convert : ε → Errno} {read : FilesystemState → Except ε α} :
    Returns done (Callback.query convert read) host ↔
      ∃ value, read host.state.filesystem = .ok value ∧ done value host :=
  returns_consult_mapError

theorem checkedHostRange_eq_ok {address length start : Nat}
    (small : address + length < 2 ^ 64) :
    memory.checkedHostRange address length = .ok start ↔
      start = address ∧ address + length ≤ memory.bytes.length := by
  constructor
  · intro checked
    obtain ⟨same, -, inside⟩ := checkedHostRange_ok checked
    exact ⟨same, inside⟩
  · rintro ⟨rfl, inside⟩
    exact checkedHostRange_of_le small inside

namespace Host.Lends

variable (lends : host.Lends memory)

include lends

theorem readMemory_eq_ok {address length : Nat} {bytes : List UInt8}
    (small : address + length < 2 ^ 64) :
    host.readMemory address length = .ok bytes ↔
      address + length ≤ memory.bytes.length ∧ bytes = memory.readBytes address length := by
  constructor
  · intro reads
    obtain ⟨same, found, checked, rfl⟩ := Host.readMemory_ok reads
    cases lends.found.symm.trans found
    exact ⟨(checkedHostRange_ok checked).2.2, rfl⟩
  · rintro ⟨inside, rfl⟩
    simp [Host.readMemory, lends.mayRead, lends.found, checkedHostRange_of_le small inside]

theorem readMemory_returns {address length : Nat} {done : List UInt8 → Host → Prop}
    (small : address + length < 2 ^ 64) :
    Returns done (Callback.readMemory address length) host ↔
      address + length ≤ memory.bytes.length ∧ done (memory.readBytes address length) host := by
  rw [Callback.readMemory, returns_consult_mapError]
  simp only [lends.readMemory_eq_ok small, and_assoc, exists_and_left, exists_eq_left]

theorem preflight_returns {address length : Nat} {done : Unit → Host → Prop}
    (small : address + length < 2 ^ 64) :
    Returns done (Callback.preflight address length) host ↔
      address + length ≤ memory.bytes.length ∧ done () host := by
  rw [Callback.preflight, returns_bind]
  exact lends.readMemory_returns small

theorem writeMemory_returns {address : Nat} {bytes : List UInt8} {done : Unit → Host → Prop}
    (small : address + bytes.length < 2 ^ 64) :
    Returns done (Callback.writeMemory address bytes) host ↔
      address + bytes.length ≤ memory.bytes.length ∧
        done () (host.rewritten (memory.writeBytes address bytes)) := by
  have writes : host.writeMemory address bytes =
      (memory.checkedHostRange address bytes.length).map fun start =>
        host.rewritten (memory.writeBytes start bytes) := by
    simp only [Host.writeMemory, lends.mayWrite, lends.found, not_true_eq_false, if_false]
    rfl
  rw [returns_iff]
  simp only [Callback.writeMemory, writes]
  by_cases inside : address + bytes.length ≤ memory.bytes.length
  · rw [checkedHostRange_of_le small inside]
    constructor
    · rintro ⟨_, _, holds⟩
      exact ⟨inside, holds⟩
    · rintro ⟨-, holds⟩
      exact ⟨(), rfl, holds⟩
  · cases outcome : memory.checkedHostRange address bytes.length with
    | error err => simp [Except.map, inside]
    | ok start => exact (inside ((checkedHostRange_eq_ok small).mp outcome).2).elim

theorem writeChecked_returns {address : Nat} {bytes : List UInt8} {done : Unit → Host → Prop}
    (small : address + bytes.length < 2 ^ 64) :
    Returns done (Callback.writeChecked address bytes) host ↔
      address + bytes.length ≤ memory.bytes.length ∧
        done () (host.rewritten (memory.writeBytes address bytes)) := by
  rw [Callback.writeChecked, returns_bind, lends.preflight_returns small,
    lends.writeMemory_returns small, and_self_left]

end Host.Lends

end Memory

/-! ## Vectors of buffers -/

/-- A vector that a call accepts: its entries and its buffers lie in guest memory, and the
buffers together hold no more than the limit. -/
structure Usable (memory : LinearMemory) (iovs count limit : Nat) : Prop where
  entries : ∀ index < count, iovs + 8 * index < 2 ^ 32 ∧
    iovs + 8 * index + 8 ≤ memory.bytes.length
  buffers : Fitting memory.bytes (iovecs memory iovs count)
  within : capacity (iovecs memory iovs count) ≤ limit
  short : capacity (iovecs memory iovs count) < 2 ^ 32

/-- The same from an index on, when the entries before it hold some bytes already. -/
structure UsableFrom (memory : LinearMemory) (iovs limit count index used : Nat) : Prop where
  entries : ∀ other, index ≤ other → other < index + count → iovs + 8 * other < 2 ^ 32 ∧
    iovs + 8 * other + 8 ≤ memory.bytes.length
  buffers : Fitting memory.bytes (iovecsFrom memory iovs count index)
  within : used + capacity (iovecsFrom memory iovs count index) ≤ limit
  short : used + capacity (iovecsFrom memory iovs count index) < 2 ^ 32

section Vectors

variable {host : Host} {memory : LinearMemory} {iovs limit count index used : Nat}

theorem usableFrom_zero :
    UsableFrom memory iovs limit count 0 0 ↔ Usable memory iovs count limit := by
  constructor
  · intro usable
    exact ⟨fun index inside => usable.entries index (Nat.zero_le _) (by omega), usable.buffers,
      (Nat.zero_add _).symm.trans_le usable.within, (Nat.zero_add _).symm.trans_lt usable.short⟩
  · intro usable
    exact ⟨fun index _ inside => usable.entries index (by omega), usable.buffers,
      (Nat.zero_add _).trans_le usable.within, (Nat.zero_add _).trans_lt usable.short⟩

theorem UsableFrom.nil (within : used ≤ limit) (short : used < 2 ^ 32) :
    UsableFrom memory iovs limit 0 index used where
  entries other := by omega
  buffers := .nil
  within := within
  short := short

/-- The first entry, and the others after the bytes of its buffer. -/
theorem usableFrom_succ :
    UsableFrom memory iovs limit (count + 1) index used ↔
      (iovs + 8 * index < 2 ^ 32 ∧ iovs + 8 * index + 8 ≤ memory.bytes.length) ∧
        ¬ (limit < used + (iovecAt memory iovs index).2 ∨
          2 ^ 32 - 1 < used + (iovecAt memory iovs index).2) ∧
        (iovecAt memory iovs index).1 + (iovecAt memory iovs index).2 ≤ memory.bytes.length ∧
        UsableFrom memory iovs limit count (index + 1)
          (used + (iovecAt memory iovs index).2) := by
  have total : used + capacity (iovecsFrom memory iovs (count + 1) index) =
      used + (iovecAt memory iovs index).2 +
        capacity (iovecsFrom memory iovs count (index + 1)) := by
    rw [iovecsFrom, capacity_cons, Nat.add_assoc]
  constructor
  · rintro ⟨entries, buffers, within, short⟩
    rw [total] at within short
    obtain ⟨first, others⟩ := List.forall_mem_cons.mp buffers
    refine ⟨entries index le_rfl (by omega), by omega, first, ?_, others, within, short⟩
    exact fun other after inside => entries other (by omega) (by omega)
  · rintro ⟨first, -, fits, entries, buffers, within, short⟩
    rw [← total] at within short
    refine ⟨?_, .cons fits buffers, within, short⟩
    intro other after inside
    rcases Nat.eq_or_lt_of_le after with same | later
    · exact same ▸ first
    · exact entries other later (by omega)

theorem u32At_lt (bytes : List UInt8) (offset : Nat) : Callback.u32At bytes offset < 2 ^ 32 := by
  have short : (sliceAt bytes offset 4).length ≤ 4 := sliceAt_length_le ..
  calc
    Callback.u32At bytes offset < 256 ^ (sliceAt bytes offset 4).length :=
      LinearMemory.fromLeBytes_lt _
    _ ≤ 256 ^ 4 := Nat.pow_le_pow_right (by decide) short
    _ = 2 ^ 32 := rfl

/-- An end of a buffer is far from the largest 64-bit number. -/
theorem iovecAt_lt :
    (iovecAt memory iovs index).1 + (iovecAt memory iovs index).2 < 2 ^ 64 := by
  have pointer : (iovecAt memory iovs index).1 < 2 ^ 32 := u32At_lt ..
  have length : (iovecAt memory iovs index).2 < 2 ^ 32 := u32At_lt ..
  omega

namespace Host.Lends

variable (lends : host.Lends memory)

include lends

theorem readIovec_returns {done : Nat × Nat → Host → Prop} :
    Returns done (Callback.readIovec iovs index) host ↔
      (iovs + 8 * index < 2 ^ 32 ∧ iovs + 8 * index + 8 ≤ memory.bytes.length) ∧
        done (iovecAt memory iovs index) host := by
  rw [Callback.readIovec, unless_returns, Nat.not_le, and_assoc]
  apply and_congr_right
  intro small
  rw [returns_bind, lends.readMemory_returns (by omega)]
  rfl

theorem gatherPayload_returns {tooLong : Errno} {payload : List UInt8}
    {done : List UInt8 → Host → Prop} (within : payload.length ≤ limit)
    (short : payload.length < 2 ^ 32) :
    Returns done (Callback.gatherPayload iovs limit tooLong count index payload) host ↔
      UsableFrom memory iovs limit count index payload.length ∧
        done (payload ++ gather memory.bytes (iovecsFrom memory iovs count index)) host := by
  induction count generalizing index payload with
  | zero =>
    rw [Callback.gatherPayload, returns_pure, iovecsFrom, gather, List.flatMap_nil,
      List.append_nil]
    exact (and_iff_right (.nil within short)).symm
  | succ count ih =>
    rw [Callback.gatherPayload, returns_bind, lends.readIovec_returns, usableFrom_succ,
      unless_returns]
    simp only [and_assoc]
    apply and_congr_right
    intro _
    apply and_congr_right
    intro _
    apply and_congr_right
    intro room
    rw [returns_bind, lends.readMemory_returns iovecAt_lt]
    apply and_congr_right
    intro fits
    have length : (payload ++ memory.readBytes (iovecAt memory iovs index).1
        (iovecAt memory iovs index).2).length =
        payload.length + (iovecAt memory iovs index).2 := by
      rw [List.length_append, LinearMemory.readBytes, List.length_take, List.length_drop]
      omega
    rw [ih (by omega) (by omega), length, List.append_assoc]
    rfl

theorem payload_returns {tooLong : Errno} {done : List UInt8 → Host → Prop} :
    Returns done (Callback.gatherPayload iovs limit tooLong count 0 []) host ↔
      Usable memory iovs count limit ∧
        done (gather memory.bytes (iovecs memory iovs count)) host := by
  rw [lends.gatherPayload_returns (Nat.zero_le _) (by decide), List.length_nil, usableFrom_zero,
    List.nil_append]
  rfl

theorem gatherDestinations_returns {destinations : List Buffer} {room : Nat}
    {done : List Buffer × Nat → Host → Prop} (within : room ≤ limit) (short : room < 2 ^ 32) :
    Returns done (Callback.gatherDestinations iovs limit count index destinations room) host ↔
      UsableFrom memory iovs limit count index room ∧
        done (destinations ++ iovecsFrom memory iovs count index,
          room + capacity (iovecsFrom memory iovs count index)) host := by
  induction count generalizing index destinations room with
  | zero =>
    rw [Callback.gatherDestinations, returns_pure, iovecsFrom, List.append_nil, capacity_nil,
      Nat.add_zero]
    exact (and_iff_right (.nil within short)).symm
  | succ count ih =>
    rw [Callback.gatherDestinations, returns_bind, lends.readIovec_returns, usableFrom_succ,
      unless_returns]
    simp only [and_assoc]
    apply and_congr_right
    intro _
    apply and_congr_right
    intro _
    apply and_congr_right
    intro fits
    rw [returns_bind, lends.preflight_returns iovecAt_lt]
    apply and_congr_right
    intro _
    rw [ih (by omega) (by omega), List.append_assoc, Nat.add_assoc, iovecsFrom, capacity_cons]
    rfl

theorem destinations_returns {done : List Buffer × Nat → Host → Prop} :
    Returns done (Callback.gatherDestinations iovs limit count 0 [] 0) host ↔
      Usable memory iovs count limit ∧
        done (iovecs memory iovs count, capacity (iovecs memory iovs count)) host := by
  rw [lends.gatherDestinations_returns (Nat.zero_le _) (by decide), usableFrom_zero,
    List.nil_append, Nat.zero_add]
  rfl

/-- Buffers that lie in the memory can be written. -/
theorem covers {address length : Nat} (small : address + length < 2 ^ 64)
    (inside : address + length ≤ memory.bytes.length) : Covers host address length :=
  ⟨lends.mayWrite, memory, lends.found, checkedHostRange_of_le small inside⟩

end Host.Lends

end Vectors

end MiniWasm.Wasi
