import MiniWasm.Library.Scatter
import MiniWasm.Wasi.Calls

/-!
# Transfers to and from guest memory

The rules for the parts that callbacks are made of.  What only reads keeps the host
as it was, and refuses with an error number.  A range that has been checked can be
written, and stays so while other ranges are written.
-/

namespace MiniWasm.Wasi

open Library Action MiniWasm.Runtime

/-- Refusing at the host, with any error number, satisfies the postcondition. -/
def Denies (failed : Failure → Host → Prop) (host : Host) : Prop :=
  ∀ errno, errno ≠ .success → failed (.errno errno) host

/-- The range can be written. -/
def Covers (host : Host) (address length : Nat) : Prop :=
  host.capabilities.memoryWrite = true ∧
    ∃ memory, host.memory = some memory ∧ memory.checkedHostRange address length = .ok address

/-- Only the contents of the memory differ. -/
structure Rewritten (before after : Host) : Prop where
  capabilities : after.capabilities = before.capabilities
  state : after.state = before.state
  memory : ∀ memory, before.memory = some memory →
    ∃ rewritten, after.memory = some rewritten ∧
      rewritten.bytes.length = memory.bytes.length

namespace Rewritten

variable {before middle after : Host}

theorem trans (first : Rewritten before middle) (second : Rewritten middle after) :
    Rewritten before after where
  capabilities := second.capabilities.trans first.capabilities
  state := second.state.trans first.state
  memory memory found := by
    obtain ⟨between, betweenFound, sameLength⟩ := first.memory memory found
    obtain ⟨rewritten, rewrittenFound, sameLengthAgain⟩ := second.memory between betweenFound
    exact ⟨rewritten, rewrittenFound, sameLengthAgain.trans sameLength⟩

end Rewritten

theorem checkedHostRange_ok {memory : LinearMemory} {address width start : Nat}
    (checked : memory.checkedHostRange address width = .ok start) :
    start = address ∧ address + width < 2 ^ 64 ∧ address + width ≤ memory.bytes.length := by
  unfold LinearMemory.checkedHostRange at checked
  split_ifs at checked with overflows outside
  cases checked
  exact ⟨rfl, Nat.lt_of_not_le overflows, Nat.le_of_not_lt outside⟩

theorem checkedHostRange_of_le {memory : LinearMemory} {address width : Nat}
    (small : address + width < 2 ^ 64) (inside : address + width ≤ memory.bytes.length) :
    memory.checkedHostRange address width = .ok address := by
  unfold LinearMemory.checkedHostRange
  rw [if_neg (Nat.not_le.mpr small), if_neg (Nat.not_lt.mpr inside)]

/-- The memory after the bytes have been copied into the buffers. -/
def scattered (memory : LinearMemory) (buffers : List Buffer) (bytes : List UInt8) :
    LinearMemory :=
  { memory with bytes := scatter memory.bytes buffers bytes }

namespace Host

variable {host after : Host} {address length : Nat} {bytes : List UInt8}

theorem readMemory_ok (reads : host.readMemory address length = .ok bytes) :
    ∃ memory, host.memory = some memory ∧
      memory.checkedHostRange address length = .ok address ∧
      bytes = memory.readBytes address length := by
  unfold readMemory at reads
  by_cases mayRead : host.capabilities.memoryRead = true
  · cases found : host.memory with
    | none => simp [mayRead, found] at reads
    | some memory =>
      cases checked : memory.checkedHostRange address length with
      | error err => simp [mayRead, found, checked] at reads
      | ok start =>
        obtain ⟨rfl, -, -⟩ := checkedHostRange_ok checked
        simp only [mayRead, found, checked, not_true_eq_false, if_false] at reads
        cases reads
        exact ⟨memory, rfl, checked, rfl⟩
  · simp [mayRead] at reads

theorem writeMemory_ok (writes : host.writeMemory address bytes = .ok after) :
    ∃ memory, host.memory = some memory ∧
      memory.checkedHostRange address bytes.length = .ok address ∧
      after = { host with memory := some (memory.writeBytes address bytes) } := by
  unfold writeMemory at writes
  by_cases mayWrite : host.capabilities.memoryWrite = true
  · cases found : host.memory with
    | none => simp [mayWrite, found] at writes
    | some memory =>
      cases checked : memory.checkedHostRange address bytes.length with
      | error err => simp [mayWrite, found, checked] at writes
      | ok start =>
        obtain ⟨rfl, -, -⟩ := checkedHostRange_ok checked
        simp only [mayWrite, found, checked, not_true_eq_false, if_false] at writes
        cases writes
        exact ⟨memory, rfl, checked, rfl⟩
  · simp [mayWrite] at writes

end Host

theorem Rewritten.written {host : Host} {memory : LinearMemory} {address : Nat}
    {bytes : List UInt8} (found : host.memory = some memory) :
    Rewritten host { host with memory := some (memory.writeBytes address bytes) } where
  capabilities := rfl
  state := rfl
  memory other same := by
    cases found.symm.trans same
    exact ⟨_, rfl, LinearMemory.writeBytes_length ..⟩

namespace Covers

variable {host after : Host} {address length : Nat}

theorem shorter (covers : Covers host address length) {shortened : Nat}
    (le : shortened ≤ length) : Covers host address shortened := by
  obtain ⟨mayWrite, memory, found, checked⟩ := covers
  obtain ⟨_, small, inside⟩ := checkedHostRange_ok checked
  refine ⟨mayWrite, memory, found, checkedHostRange_of_le ?_ ?_⟩
  · omega
  · omega

theorem rewritten (covers : Covers host address length) (rewrites : Rewritten host after) :
    Covers after address length := by
  obtain ⟨mayWrite, memory, found, checked⟩ := covers
  obtain ⟨_, small, inside⟩ := checkedHostRange_ok checked
  obtain ⟨rewritten, rewrittenFound, sameLength⟩ := rewrites.memory memory found
  refine ⟨rewrites.capabilities ▸ mayWrite, rewritten, rewrittenFound, ?_⟩
  exact checkedHostRange_of_le small (sameLength ▸ inside)

theorem writes {bytes : List UInt8} (covers : Covers host address bytes.length) :
    ∃ written, host.writeMemory address bytes = .ok written := by
  obtain ⟨mayWrite, memory, found, checked⟩ := covers
  exact ⟨{ host with memory := some (memory.writeBytes address bytes) },
    by simp [Host.writeMemory, mayWrite, found, checked]⟩

end Covers

section Blocks

variable {α : Type} {host : Host} {failed : Failure → Host → Prop} {done : α → Host → Prop}

theorem failWith_meets {errno : Errno} (denies : Denies failed host)
    (denied : errno ≠ .success) : Meets failed done (Callback.failWith errno) host :=
  denies errno denied

theorem query_meets {ε : Type} {convert : ε → Errno}
    {read : FilesystemState → Except ε α} (denies : Denies failed host)
    (denied : ∀ err, convert err ≠ .success)
    (answers : ∀ value, read host.state.filesystem = .ok value → done value host) :
    Meets failed done (Callback.query convert read) host := by
  apply meets_consult_mapError
  · intro err found
    exact denies _ (denied err)
  · intro value found
    exact answers value found

theorem refuse_meets {query : Host → Except Errno α} (denies : Denies failed host)
    (denied : query host ≠ .error .success)
    (answers : ∀ value, query host = .ok value → done value host) :
    Meets failed done (consult fun host => (query host).mapError Failure.errno) host := by
  apply meets_consult_mapError
  · intro errno found
    exact denies errno fun success => denied (by rw [found, success])
  · intro value found
    exact answers value found

theorem readMemory_meets {address length : Nat} {done : List UInt8 → Host → Prop}
    (denies : Denies failed host)
    (reads : ∀ memory, host.memory = some memory →
      memory.checkedHostRange address length = .ok address →
      done (memory.readBytes address length) host) :
    Meets failed done (Callback.readMemory address length) host := by
  apply meets_consult_mapError
  · intro err found
    exact denies .fault (by decide)
  · intro bytes result
    obtain ⟨memory, found, checked, rfl⟩ := Host.readMemory_ok result
    exact reads memory found checked

/-- A check leaves the range writable for a callback that may write. -/
theorem preflight_meets {address length : Nat} {done : Unit → Host → Prop}
    (denies : Denies failed host) (mayWrite : host.capabilities.memoryWrite = true)
    (covered : Covers host address length → done () host) :
    Meets failed done (Callback.preflight address length) host := by
  simp only [Callback.preflight, meets_bind, meets_pure]
  apply readMemory_meets denies
  intro memory found checked
  exact covered ⟨mayWrite, memory, found, checked⟩

theorem writeMemory_writes {address : Nat} {bytes : List UInt8} {done : Unit → Host → Prop}
    (covers : Covers host address bytes.length)
    (writes : ∀ memory, host.memory = some memory →
      address + bytes.length ≤ memory.bytes.length →
      done () { host with memory := some (memory.writeBytes address bytes) }) :
    Meets failed done (Callback.writeMemory address bytes) host := by
  obtain ⟨mayWrite, memory, found, checked⟩ := covers
  have written : host.writeMemory address bytes =
      .ok { host with memory := some (memory.writeBytes address bytes) } := by
    simp [Host.writeMemory, mayWrite, found, checked]
  simp only [Meets, Callback.writeMemory, written]
  exact writes memory found (checkedHostRange_ok checked).2.2

theorem writeMemory_meets {address : Nat} {bytes : List UInt8} {done : Unit → Host → Prop}
    (covers : Covers host address bytes.length)
    (writes : ∀ after, Rewritten host after → done () after) :
    Meets failed done (Callback.writeMemory address bytes) host :=
  writeMemory_writes covers fun _ found _ => writes _ (.written found)

/-- A write that has not been checked is refused as a whole. -/
theorem writeMemory_meets_unchecked {address : Nat} {bytes : List UInt8}
    {done : Unit → Host → Prop} (denies : Denies failed host)
    (writes : ∀ after, Rewritten host after → done () after) :
    Meets failed done (Callback.writeMemory address bytes) host := by
  unfold Callback.writeMemory
  simp only [Meets]
  cases result : host.writeMemory address bytes with
  | error err => exact denies .fault (by decide)
  | ok after =>
    obtain ⟨memory, found, -, rfl⟩ := Host.writeMemory_ok result
    exact writes _ (.written found)

theorem writeChecked_writes {address : Nat} {bytes : List UInt8} {done : Unit → Host → Prop}
    (denies : Denies failed host) (mayWrite : host.capabilities.memoryWrite = true)
    (writes : ∀ memory, host.memory = some memory →
      address + bytes.length ≤ memory.bytes.length →
      done () { host with memory := some (memory.writeBytes address bytes) }) :
    Meets failed done (Callback.writeChecked address bytes) host := by
  simp only [Callback.writeChecked, meets_bind]
  apply preflight_meets denies mayWrite
  intro covers
  exact writeMemory_writes covers writes

theorem writeChecked_meets {address : Nat} {bytes : List UInt8} {done : Unit → Host → Prop}
    (denies : Denies failed host) (mayWrite : host.capabilities.memoryWrite = true)
    (writes : ∀ after, Rewritten host after → done () after) :
    Meets failed done (Callback.writeChecked address bytes) host :=
  writeChecked_writes denies mayWrite fun _ found _ => writes _ (.written found)

theorem writeBoth_meets {first second firstLength : Nat} {firstBytes secondBytes : List UInt8}
    {done : Unit → Host → Prop} (denies : Denies failed host)
    (mayWrite : host.capabilities.memoryWrite = true) (fits : firstBytes.length ≤ firstLength)
    (writes : ∀ after, Rewritten host after → done () after) :
    Meets failed done
      (Callback.writeBoth first firstBytes firstLength second secondBytes) host := by
  simp only [Callback.writeBoth, meets_bind]
  apply preflight_meets denies mayWrite
  intro firstCovers
  apply preflight_meets denies mayWrite
  intro secondCovers
  apply writeMemory_meets (firstCovers.shorter fits)
  intro middle rewrites
  apply writeMemory_meets (secondCovers.rewritten rewrites)
  intro after rewritesAgain
  exact writes after (rewrites.trans rewritesAgain)

/-! ## Vectors of buffers -/

/-- The buffer that an entry of a vector describes. -/
def iovecAt (memory : LinearMemory) (iovs index : Nat) : Buffer :=
  let header := memory.readBytes (iovs + 8 * index) 8
  (Callback.u32At header 0, Callback.u32At header 4)

/-- The buffers of a vector, from an index on. -/
def iovecsFrom (memory : LinearMemory) (iovs : Nat) : (count index : Nat) → List Buffer
  | 0, _ => []
  | count + 1, index => iovecAt memory iovs index :: iovecsFrom memory iovs count (index + 1)

/-- The buffers of a vector. -/
def iovecs (memory : LinearMemory) (iovs count : Nat) : List Buffer :=
  iovecsFrom memory iovs count 0

theorem readIovec_meets {iovs index : Nat} {done : Nat × Nat → Host → Prop}
    (denies : Denies failed host)
    (reads : ∀ memory, host.memory = some memory → done (iovecAt memory iovs index) host) :
    Meets failed done (Callback.readIovec iovs index) host := by
  simp only [Callback.readIovec, meets_ite, meets_bind, meets_pure]
  refine ⟨fun _ => failWith_meets denies (by decide), fun _ => ?_⟩
  apply readMemory_meets denies
  intro memory found checked
  exact reads memory found

theorem gatherPayload_meets {iovs limit : Nat} {tooLong : Errno}
    (denies : Denies failed host) (denied : tooLong ≠ .success) (count index : Nat)
    (payload : List UInt8) {done : List UInt8 → Host → Prop}
    (short : payload.length < 2 ^ 32)
    (gathers : ∀ gathered, gathered.length < 2 ^ 32 → (∀ memory, host.memory = some memory →
      Fitting memory.bytes (iovecsFrom memory iovs count index) ∧
        gathered = payload ++ gather memory.bytes (iovecsFrom memory iovs count index)) →
      done gathered host) :
    Meets failed done (Callback.gatherPayload iovs limit tooLong count index payload) host := by
  induction count generalizing index payload with
  | zero => exact gathers payload short fun memory _ => ⟨.nil, (List.append_nil payload).symm⟩
  | succ count ih =>
    simp only [Callback.gatherPayload, meets_bind]
    apply readIovec_meets denies
    intro memory found
    simp only [meets_ite, meets_bind]
    refine ⟨fun _ => failWith_meets denies denied, fun within => ?_⟩
    apply readMemory_meets denies
    intro other otherFound checked
    cases found.symm.trans otherFound
    have fits := (checkedHostRange_ok checked).2.2
    apply ih
    · rw [List.length_append, LinearMemory.readBytes, List.length_take, List.length_drop]
      omega
    intro gathered gatheredShort gatheredFrom
    apply gathers gathered gatheredShort
    intro same sameFound
    cases found.symm.trans sameFound
    obtain ⟨rest, rfl⟩ := gatheredFrom memory found
    refine ⟨.cons fits rest, ?_⟩
    rw [List.append_assoc]
    rfl

/-- Every buffer that is gathered can be written. -/
theorem gatherDestinations_meets {iovs limit : Nat} (denies : Denies failed host)
    (mayWrite : host.capabilities.memoryWrite = true) (count index : Nat)
    (destinations : List (Nat × Nat)) (room : Nat)
    {done : List (Nat × Nat) × Nat → Host → Prop} (short : room < 2 ^ 32)
    (covered : ∀ buffer ∈ destinations, Covers host buffer.1 buffer.2)
    (gathers : ∀ gathered total, total < 2 ^ 32 →
      (∀ buffer ∈ gathered, Covers host buffer.1 buffer.2) →
      (∀ memory, host.memory = some memory →
        gathered = destinations ++ iovecsFrom memory iovs count index ∧
          total = room + capacity (iovecsFrom memory iovs count index)) →
      done (gathered, total) host) :
    Meets failed done
      (Callback.gatherDestinations iovs limit count index destinations room) host := by
  induction count generalizing index destinations room with
  | zero =>
    exact gathers destinations room short covered fun memory _ =>
      ⟨(List.append_nil destinations).symm, rfl⟩
  | succ count ih =>
    simp only [Callback.gatherDestinations, meets_bind]
    apply readIovec_meets denies
    intro memory found
    simp only [meets_ite, meets_bind]
    refine ⟨fun _ => failWith_meets denies (by decide), fun within => ?_⟩
    apply preflight_meets denies mayWrite
    intro covers
    apply ih
    · omega
    · intro buffer member
      rcases List.mem_append.mp member with before | last
      · exact covered buffer before
      · rw [List.mem_singleton.mp last]
        exact covers
    · intro gathered total gatheredShort gatheredCovered gatheredFrom
      apply gathers gathered total gatheredShort gatheredCovered
      intro same sameFound
      cases found.symm.trans sameFound
      obtain ⟨rfl, rfl⟩ := gatheredFrom memory found
      constructor
      · rw [List.append_assoc]
        rfl
      · rw [iovecsFrom, capacity_cons, Nat.add_assoc]

theorem scatter_meets (destinations : List (Nat × Nat)) (bytes : List UInt8) (copied : Nat)
    {done : Nat → Host → Prop} {memory : LinearMemory} (found : host.memory = some memory)
    (covered : ∀ buffer ∈ destinations, Covers host buffer.1 buffer.2)
    (scatters : done (copied + min bytes.length (capacity destinations))
      { host with memory := some (scattered memory destinations bytes) }) :
    Meets failed done (Callback.scatter destinations bytes copied) host := by
  induction destinations generalizing host memory bytes copied with
  | nil =>
    have same : { host with memory := some (scattered memory [] bytes) } = host := by
      rw [show scattered memory [] bytes = memory from rfl, ← found]
    simpa [Callback.scatter, same] using scatters
  | cons buffer destinations ih =>
    obtain ⟨pointer, length⟩ := buffer
    have covers : Covers host pointer length := covered (pointer, length) (by simp)
    simp only [Callback.scatter, meets_ite, meets_pure]
    constructor
    · rintro rfl
      have same : scattered memory ((pointer, length) :: destinations) [] = memory := by
        rw [scattered, scatter_nil]
      rw [same, ← found] at scatters
      simpa using scatters
    · intro nonempty
      have split : copied + min bytes.length (capacity ((pointer, length) :: destinations)) =
          copied + (bytes.take length).length +
            min (bytes.drop length).length (capacity destinations) := by
        rw [capacity_cons, List.length_take, List.length_drop]
        omega
      rw [split] at scatters
      have rest : Meets failed done
          (Callback.scatter destinations (bytes.drop length)
            (copied + (bytes.take length).length))
          { host with memory := some (memory.writeBytes pointer (bytes.take length)) } := by
        apply ih _ _ rfl
        · intro other member
          exact (covered other (List.mem_cons_of_mem _ member)).rewritten (.written found)
        · exact scatters
      refine ⟨fun _ => ?_, fun empty => ?_⟩
      · rw [meets_bind]
        apply writeMemory_writes (covers.shorter (by simp))
        intro same sameFound _
        cases found.symm.trans sameFound
        exact rest
      · rw [not_not.mp empty, LinearMemory.writeBytes, overwrite_nil, ← found] at rest
        rw [not_not.mp empty]
        exact rest

/-! ## Paths -/

/-- The path that an argument names, if it can be read and is one a guest may use. -/
def pathArgument (memory : Option LinearMemory) (pointer length : Nat) : Option Path :=
  memory.bind fun memory =>
    match memory.checkedHostRange pointer length with
    | .error _ => none
    | .ok start =>
        let path := memory.readBytes start length
        if maxRelativePathBytes < length ∨ validateGuestPath path ≠ .ok () then none
        else some path

theorem pathArgument_eq {memory : LinearMemory} {pointer length : Nat}
    (found : host.memory = some memory)
    (checked : memory.checkedHostRange pointer length = .ok pointer)
    (short : ¬ maxRelativePathBytes < length)
    (valid : validateGuestPath (memory.readBytes pointer length) = .ok ()) :
    pathArgument host.memory pointer length = some (memory.readBytes pointer length) := by
  simp [pathArgument, found, checked, short, valid]

theorem validate_meets {path : Path} {done : Unit → Host → Prop} (denies : Denies failed host)
    (valid : validateGuestPath path = .ok () → done () host) :
    Meets failed done
      (consult fun _ => (validateGuestPath path).mapError fun err => Failure.errno err.errno)
      host := by
  apply meets_consult_mapError
  · intro err found
    exact denies _ (by cases err <;> decide)
  · intro result found
    exact valid found

theorem readPath_meets {pointer length : Nat} {done : Path → Host → Prop}
    (denies : Denies failed host)
    (reads : ∀ path, pathArgument host.memory pointer length = some path → done path host) :
    Meets failed done (Callback.readPath pointer length) host := by
  simp only [Callback.readPath, meets_ite, meets_bind]
  refine ⟨fun _ => failWith_meets denies (by decide), fun short => ?_⟩
  apply readMemory_meets denies
  intro memory found checked
  apply validate_meets denies
  intro valid
  exact reads _ (pathArgument_eq found checked short valid)

theorem readPaths_meets {oldPtr oldLen newPtr newLen : Nat} {done : Path × Path → Host → Prop}
    (denies : Denies failed host)
    (reads : ∀ oldPath newPath, pathArgument host.memory oldPtr oldLen = some oldPath →
      pathArgument host.memory newPtr newLen = some newPath → done (oldPath, newPath) host) :
    Meets failed done (Callback.readPaths oldPtr oldLen newPtr newLen) host := by
  simp only [Callback.readPaths, meets_ite, meets_bind]
  refine ⟨fun _ => failWith_meets denies (by decide), fun short => ?_⟩
  rw [not_or] at short
  apply readMemory_meets denies
  intro oldMemory oldFound oldChecked
  apply readMemory_meets denies
  intro newMemory newFound newChecked
  apply validate_meets denies
  intro oldValid
  apply validate_meets denies
  intro newValid
  exact reads _ _ (pathArgument_eq oldFound oldChecked short.1 oldValid)
    (pathArgument_eq newFound newChecked short.2 newValid)

end Blocks

end MiniWasm.Wasi
