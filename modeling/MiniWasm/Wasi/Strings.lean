import MiniWasm.Runtime.Lanes
import MiniWasm.Wasi.Streams

/-!
# Arguments and environment

A list of strings is handed over by two calls: one announces how many strings there are and how
many bytes they take with their terminators, the other writes a table of pointers and the
strings themselves.  What a guest reads at a pointer is the bytes before the first terminator.
-/

namespace MiniWasm.Wasi

open Library Action MiniWasm.Runtime

/-! ## Checked ranges -/

/-- The range lies in the memory. -/
def InBounds (memory : LinearMemory) (address length : Nat) : Prop :=
  address + length < 2 ^ 64 ∧ address + length ≤ memory.bytes.length

section Ranges

variable {host : Host} {memory : LinearMemory}

theorem preflight_inBounds (readWrite : host.capabilities = .readWrite)
    (found : host.memory = some memory) {address length : Nat}
    (inside : InBounds memory address length) :
    Callback.preflight address length host = (.ok (), host) := by
  have reads : host.readMemory address length = .ok (memory.readBytes address length) := by
    simp [Host.readMemory, readWrite, HostCapabilities.readWrite, found,
      checkedHostRange_of_le inside.1 inside.2, bind, Except.bind, pure, Except.pure]
  simp [Callback.preflight, Callback.readMemory, consult, reads, bind, pure, Except.mapError]

theorem preflight_outside (found : host.memory = some memory) {address length : Nat}
    (outside : ¬ InBounds memory address length) :
    ∃ err, Callback.preflight address length host = (.error err, host) := by
  simp only [Callback.preflight, Callback.readMemory, consult, bind]
  cases reads : host.readMemory address length with
  | error err => exact ⟨_, rfl⟩
  | ok bytes =>
    obtain ⟨other, same, inside, -⟩ := Host.readMemory_ok reads
    cases found.symm.trans same
    exact absurd (checkedHostRange_ok inside).2 outside

theorem writeMemory_inBounds (readWrite : host.capabilities = .readWrite)
    (found : host.memory = some memory) {address : Nat} {bytes : List UInt8}
    (inside : InBounds memory address bytes.length) :
    Callback.writeMemory address bytes host =
      (.ok (), host.rewritten (memory.writeBytes address bytes)) := by
  have writes : host.writeMemory address bytes =
      .ok (host.rewritten (memory.writeBytes address bytes)) := by
    simp [Host.writeMemory, readWrite, HostCapabilities.readWrite, found,
      checkedHostRange_of_le inside.1 inside.2, bind, Except.bind, pure, Except.pure,
      Host.rewritten]
  simp [Callback.writeMemory, writes]

/-- Two results are written when both ranges lie in the memory, and not otherwise. -/
theorem writeBoth_ok (readWrite : host.capabilities = .readWrite)
    (found : host.memory = some memory) {first second firstLength : Nat}
    {firstBytes secondBytes : List UInt8} (fits : firstBytes.length ≤ firstLength)
    {after : Host} :
    Callback.writeBoth first firstBytes firstLength second secondBytes host = (.ok (), after) ↔
      InBounds memory first firstLength ∧ InBounds memory second secondBytes.length ∧
        after = host.rewritten
          ((memory.writeBytes first firstBytes).writeBytes second secondBytes) := by
  by_cases firstInside : InBounds memory first firstLength
  · have firstChecked := preflight_inBounds readWrite found firstInside
    by_cases secondInside : InBounds memory second secondBytes.length
    · have secondChecked := preflight_inBounds readWrite found secondInside
      have shorter : InBounds memory first firstBytes.length :=
        ⟨by have := firstInside.1; omega, by have := firstInside.2; omega⟩
      have later : InBounds (memory.writeBytes first firstBytes) second secondBytes.length :=
        ⟨secondInside.1, by rw [LinearMemory.writeBytes_length]; exact secondInside.2⟩
      have secondWritten := @writeMemory_inBounds
        (host.rewritten (memory.writeBytes first firstBytes)) _ readWrite rfl second _ later
      rw [Callback.writeBoth, bind_of_ok firstChecked, bind_of_ok secondChecked,
        bind_of_ok (writeMemory_inBounds readWrite found shorter), secondWritten]
      constructor
      · intro written
        cases written
        exact ⟨firstInside, secondInside, rfl⟩
      · rintro ⟨-, -, rfl⟩
        rfl
    · obtain ⟨err, refused⟩ := preflight_outside found secondInside
      rw [Callback.writeBoth, bind_of_ok firstChecked, bind_of_error refused]
      exact ⟨fun succeeded => (by cases succeeded), fun written => absurd written.2.1 secondInside⟩
  · obtain ⟨err, refused⟩ := preflight_outside found firstInside
    rw [Callback.writeBoth, bind_of_error refused]
    exact ⟨fun succeeded => (by cases succeeded), fun written => absurd written.1 firstInside⟩

end Ranges

/-! ## The layout of the strings -/

/-- Where each of the strings starts. -/
def stringStarts : (start : Nat) → List (List UInt8) → List Nat
  | _, [] => []
  | start, entry :: entries => start :: stringStarts (start + entry.length + 1) entries

def pointerTable (bufPtr : Nat) (entries : List (List UInt8)) : List UInt8 :=
  (stringStarts bufPtr entries).flatMap (Callback.leBytes 4)

/-- The strings with a terminator each. -/
def terminated (entries : List (List UInt8)) : List UInt8 :=
  entries.flatMap fun entry => entry ++ [0]

@[simp] theorem stringStarts_length (start : Nat) (entries : List (List UInt8)) :
    (stringStarts start entries).length = entries.length := by
  induction entries generalizing start with
  | nil => rfl
  | cons entry entries ih => simp [stringStarts, ih]

@[simp] theorem terminated_length (entries : List (List UInt8)) :
    (terminated entries).length = Callbacks.stringsLength entries := by
  simp [terminated, Callbacks.stringsLength, List.length_flatMap]

@[simp] theorem pointerTable_length (bufPtr : Nat) (entries : List (List UInt8)) :
    (pointerTable bufPtr entries).length = 4 * entries.length := by
  simp [pointerTable, List.length_flatMap, Nat.mul_comm]

/-- A terminator each is a byte each. -/
theorem length_le_stringsLength (entries : List (List UInt8)) :
    entries.length ≤ Callbacks.stringsLength entries := by
  induction entries with
  | nil => exact Nat.zero_le _
  | cons entry entries ih =>
    simp only [Callbacks.stringsLength, List.map_cons, List.sum_cons, List.length_cons] at ih ⊢
    omega

/-- The strings lie one after the other. -/
theorem stringStarts_split {entries : List (List UInt8)} {index : Nat} {entry : List UInt8}
    (found : entries[index]? = some entry) (base : Nat) :
    ∃ before after, terminated entries = before ++ (entry ++ 0 :: after) ∧
      (stringStarts base entries)[index]? = some (base + before.length) := by
  induction entries generalizing base index with
  | nil => simp at found
  | cons first entries ih =>
    cases index with
    | zero =>
      cases found
      exact ⟨[], terminated entries, by simp [terminated], rfl⟩
    | succ index =>
      obtain ⟨before, after, split, start⟩ := ih found (base + first.length + 1)
      refine ⟨first ++ 0 :: before, after, ?_, ?_⟩
      · rw [terminated, List.flatMap_cons, ← terminated, split]
        simp
      · rw [stringStarts, List.getElem?_cons_succ, start, List.length_append, List.length_cons]
        congr 1
        omega

/-- The pointer at an index of the table. -/
theorem pointerTable_at {bufPtr : Nat} {entries : List (List UInt8)} {index start : Nat}
    (found : (stringStarts bufPtr entries)[index]? = some start) :
    ((pointerTable bufPtr entries).drop (4 * index)).take 4 = Callback.leBytes 4 start := by
  unfold pointerTable
  generalize stringStarts bufPtr entries = starts at found
  induction starts generalizing index with
  | nil => simp at found
  | cons first starts ih =>
    rw [List.flatMap_cons]
    cases index with
    | zero =>
      cases found
      rw [Nat.mul_zero, List.drop_zero, List.take_append_of_le_length (by simp),
        List.take_of_length_le (by simp)]
    | succ index =>
      have skip : 4 * (index + 1) = (Callback.leBytes 4 first).length + 4 * index := by
        rw [Callback.leBytes_length]
        omega
      rw [skip, List.drop_length_add_append]
      exact ih found

/-- What the loop of the second call checks, from an offset in the buffer on. -/
structure LayoutFits (bufPtr maxBytes offset : Nat) (entries : List (List UInt8)) : Prop where
  bytes : entries ≠ [] → offset + Callbacks.stringsLength entries ≤ maxBytes
  small : entries ≠ [] → offset + Callbacks.stringsLength entries < 2 ^ 32
  pointers : ∀ start ∈ stringStarts (bufPtr + offset) entries, start < 2 ^ 32

theorem layoutFits_cons {bufPtr maxBytes offset : Nat} {entry : List UInt8}
    {entries : List (List UInt8)} :
    LayoutFits bufPtr maxBytes offset (entry :: entries) ↔
      offset + entry.length + 1 ≤ maxBytes ∧ offset + entry.length + 1 < 2 ^ 32 ∧
        bufPtr + offset < 2 ^ 32 ∧
          LayoutFits bufPtr maxBytes (offset + entry.length + 1) entries := by
  have total : Callbacks.stringsLength (entry :: entries) =
      entry.length + 1 + Callbacks.stringsLength entries := by
    simp [Callbacks.stringsLength]
  have next : bufPtr + (offset + entry.length + 1) = bufPtr + offset + entry.length + 1 := by omega
  constructor
  · rintro ⟨bytes, small, pointers⟩
    have bytes := bytes (List.cons_ne_nil _ _)
    have small := small (List.cons_ne_nil _ _)
    rw [stringStarts, List.forall_mem_cons] at pointers
    refine ⟨by omega, by omega, pointers.1, fun _ => by omega, fun _ => by omega, ?_⟩
    rw [next]
    exact pointers.2
  · rintro ⟨bytes, small, pointer, rest⟩
    refine ⟨fun _ => ?_, fun _ => ?_, ?_⟩
    · rw [total]
      cases entries with
      | nil => simpa [Callbacks.stringsLength, Nat.add_assoc] using bytes
      | cons next entries =>
        have := rest.bytes (List.cons_ne_nil _ _)
        omega
    · rw [total]
      cases entries with
      | nil => simpa [Callbacks.stringsLength, Nat.add_assoc] using small
      | cons next entries =>
        have := rest.small (List.cons_ne_nil _ _)
        omega
    · rw [stringStarts, List.forall_mem_cons, ← next]
      exact ⟨pointer, rest.pointers⟩

theorem layoutStrings_ok {bufPtr maxBytes : Nat} {entries : List (List UInt8)}
    {table payload : List UInt8} {result : List UInt8 × List UInt8} :
    Callbacks.layoutStrings bufPtr maxBytes entries table payload = .ok result ↔
      LayoutFits bufPtr maxBytes payload.length entries ∧
        result = (table ++ pointerTable (bufPtr + payload.length) entries,
          payload ++ terminated entries) := by
  induction entries generalizing table payload with
  | nil =>
    have fits : LayoutFits bufPtr maxBytes payload.length [] :=
      ⟨fun empty => absurd rfl empty, fun empty => absurd rfl empty, by simp [stringStarts]⟩
    simp [Callbacks.layoutStrings, pointerTable, stringStarts, terminated, fits, eq_comm]
  | cons entry entries ih =>
    rw [layoutFits_cons]
    unfold Callbacks.layoutStrings
    have length : (payload ++ entry ++ [0]).length = payload.length + entry.length + 1 := by
      simp [Nat.add_assoc]
    have next : bufPtr + (payload.length + entry.length + 1) =
        bufPtr + payload.length + entry.length + 1 := by omega
    split_ifs with offset pointer bytes
    · exact ⟨nofun, fun fits => by omega⟩
    · exact ⟨nofun, fun fits => by omega⟩
    · exact ⟨nofun, fun fits => by omega⟩
    · rw [ih, length, next]
      simp only [pointerTable, stringStarts, terminated, List.flatMap_cons, List.append_assoc]
      constructor
      · rintro ⟨fits, rfl⟩
        exact ⟨⟨by omega, by omega, by omega, fits⟩, rfl⟩
      · rintro ⟨⟨-, -, -, fits⟩, rfl⟩
        exact ⟨fits, rfl⟩

/-! ## The two calls -/

/-- What the second call needs of the limits, the pointers and the memory. -/
structure Served (entries : List (List UInt8)) (maxCount maxBytes tablePtr bufPtr : Nat)
    (memory : LinearMemory) : Prop where
  count : entries.length ≤ maxCount
  bytes : Callbacks.stringsLength entries ≤ maxBytes
  small : Callbacks.stringsLength entries < 2 ^ 32
  pointers : ∀ start ∈ stringStarts bufPtr entries, start < 2 ^ 32
  table : InBounds memory tablePtr (4 * entries.length)
  buffer : InBounds memory bufPtr (Callbacks.stringsLength entries)

/-- The memory with the table and the strings. -/
def withStrings (memory : LinearMemory) (tablePtr bufPtr : Nat) (entries : List (List UInt8)) :
    LinearMemory :=
  (memory.writeBytes tablePtr (pointerTable bufPtr entries)).writeBytes bufPtr
    (terminated entries)

section Calls

variable {host after : Host} {memory : LinearMemory} {entries : List (List UInt8)}
  {maxCount maxBytes : Nat}

theorem sizesGet_ok (readWrite : host.capabilities = .readWrite)
    (found : host.memory = some memory) {countPtr bufSizePtr : Nat}
    (count : entries.length ≤ maxCount) (bytes : Callbacks.stringsLength entries ≤ maxBytes)
    (small : Callbacks.stringsLength entries < 2 ^ 32)
    (countInside : InBounds memory countPtr 4) (sizeInside : InBounds memory bufSizePtr 4) :
    Callbacks.sizesGet entries maxCount maxBytes countPtr bufSizePtr host =
      (.ok (), host.rewritten
        ((memory.writeBytes countPtr (Callback.leBytes 4 entries.length)).writeBytes bufSizePtr
          (Callback.leBytes 4 (Callbacks.stringsLength entries)))) := by
  have few := length_le_stringsLength entries
  unfold Callbacks.sizesGet
  rw [if_neg (by omega), if_neg (by omega)]
  apply (writeBoth_ok readWrite found (by simp)).mpr
  exact ⟨countInside, by rwa [Callback.leBytes_length], rfl⟩

theorem stringsGet_ok (readWrite : host.capabilities = .readWrite)
    (found : host.memory = some memory) {tablePtr bufPtr : Nat} :
    Callbacks.stringsGet entries maxCount maxBytes tablePtr bufPtr host = (.ok (), after) ↔
      Served entries maxCount maxBytes tablePtr bufPtr memory ∧
        after = host.rewritten (withStrings memory tablePtr bufPtr entries) := by
  have few := length_le_stringsLength entries
  unfold Callbacks.stringsGet
  split_ifs with tooMany tooLong
  · exact ⟨nofun, fun served => absurd served.1.count (Nat.not_le.mpr tooMany)⟩
  · refine ⟨nofun, fun served => ?_⟩
    have := served.1.small
    omega
  · cases laid : Callbacks.layoutStrings bufPtr maxBytes entries [] [] with
    | error err =>
      have refused : consult (fun _ : Host =>
          (Except.error err : Except Errno (List UInt8 × List UInt8)).mapError Failure.errno) host =
            (.error (.errno err), host) :=
        rfl
      rw [bind_of_error refused]
      refine ⟨nofun, fun served => ?_⟩
      obtain ⟨⟨-, bytes, small, pointers, -, -⟩, -⟩ := served
      have fits : LayoutFits bufPtr maxBytes 0 entries :=
        ⟨fun _ => by omega, fun _ => by omega, pointers⟩
      have := (@layoutStrings_ok bufPtr maxBytes entries [] [] _).mpr ⟨fits, rfl⟩
      rw [laid] at this
      cases this
    | ok result =>
      have consulted : consult (fun _ : Host =>
          (Except.ok result : Except Errno (List UInt8 × List UInt8)).mapError Failure.errno) host =
            (.ok result, host) :=
        rfl
      rw [bind_of_ok consulted]
      obtain ⟨⟨bytes, small, pointers⟩, rfl⟩ := layoutStrings_ok.mp laid
      simp only [List.nil_append, List.length_nil, Nat.add_zero, Nat.zero_add] at *
      rw [writeBoth_ok readWrite found (Nat.le_refl _), pointerTable_length, terminated_length]
      have enough : Callbacks.stringsLength entries ≤ maxBytes ∧
          Callbacks.stringsLength entries < 2 ^ 32 := by
        cases entries with
        | nil => exact ⟨Nat.zero_le _, by decide⟩
        | cons entry entries =>
          exact ⟨bytes (List.cons_ne_nil _ _), small (List.cons_ne_nil _ _)⟩
      constructor
      · rintro ⟨table, buffer, same⟩
        exact ⟨⟨Nat.le_of_not_lt tooMany, enough.1, enough.2, pointers, table, buffer⟩, same⟩
      · rintro ⟨served, same⟩
        exact ⟨served.table, served.buffer, same⟩

end Calls

/-! ## What a guest reads -/

/-- The number at an address. -/
def readU32 (memory : LinearMemory) (address : Nat) : Nat :=
  LinearMemory.fromLeBytes (memory.readBytes address 4)

/-- The bytes from an address to the first terminator. -/
def readString (memory : LinearMemory) (address : Nat) : Option (List UInt8) :=
  let bytes := memory.bytes.drop address
  if 0 ∈ bytes then some (bytes.takeWhile (· ≠ 0)) else none

/-- The buffers of the table and of the strings do not overlap. -/
def BuffersApart (entries : List (List UInt8)) (tablePtr bufPtr : Nat) : Prop :=
  tablePtr + 4 * entries.length ≤ bufPtr ∨
    bufPtr + Callbacks.stringsLength entries ≤ tablePtr

/-- A string is read up to its first terminator, be it the one that was added or one of its
own bytes. -/
theorem takeWhile_terminated (entry after : List UInt8) :
    (entry ++ 0 :: after).takeWhile (· ≠ 0) = entry.takeWhile (· ≠ 0) := by
  induction entry with
  | nil => simp
  | cons byte entry ih =>
    by_cases zero : byte = 0
    · simp [zero]
    · simpa [zero] using ih

theorem takeWhile_eq_self_iff (entry : List UInt8) :
    entry.takeWhile (· ≠ 0) = entry ↔ 0 ∉ entry := by
  induction entry with
  | nil => simp
  | cons byte entry ih =>
    by_cases zero : byte = 0
    · simp [zero]
    · simpa [zero, eq_comm] using ih

section Reading

variable {memory : LinearMemory} {entries : List (List UInt8)}
  {maxCount maxBytes tablePtr bufPtr : Nat}

/-- A guest that follows a pointer of the table finds the bytes of its string before their
first terminator. -/
theorem Served.readString_eq (served : Served entries maxCount maxBytes tablePtr bufPtr memory)
    (apart : BuffersApart entries tablePtr bufPtr) {index : Nat} {entry : List UInt8}
    (found : entries[index]? = some entry) :
    readString (withStrings memory tablePtr bufPtr entries)
      (readU32 (withStrings memory tablePtr bufPtr entries) (tablePtr + 4 * index)) =
        some (entry.takeWhile (· ≠ 0)) := by
  obtain ⟨before, after, split, start⟩ := stringStarts_split found bufPtr
  have inside : index < entries.length := (List.getElem?_eq_some_iff.mp found).1
  have small := served.pointers _ (List.mem_of_getElem? start)
  have tableFits := served.table.2
  have bufferFits := served.buffer.2
  have total := congrArg List.length split
  rw [terminated_length] at total
  have pointer : readU32 (withStrings memory tablePtr bufPtr entries) (tablePtr + 4 * index) =
      bufPtr + before.length := by
    have kept : (withStrings memory tablePtr bufPtr entries).readBytes (tablePtr + 4 * index) 4 =
        (memory.writeBytes tablePtr (pointerTable bufPtr entries)).readBytes
          (tablePtr + 4 * index) 4 := by
      refine take_drop_overwrite_apart ?_
      rw [terminated_length]
      rcases apart with first | second
      · exact .inl (by omega)
      · exact .inr (by omega)
    have table := @take_drop_overwrite _ memory.bytes (pointerTable bufPtr entries) tablePtr
      (by rwa [pointerTable_length])
    have slice := congrArg (fun bytes => (bytes.drop (4 * index)).take 4) table
    simp only [List.drop_take, List.drop_drop, List.take_take, pointerTable_length] at slice
    rw [pointerTable_at start, Nat.min_eq_left (by omega)] at slice
    rw [readU32, kept, LinearMemory.readBytes, LinearMemory.writeBytes, slice, Callback.leBytes,
      LinearMemory.fromLeBytes_toLeBytes]
    exact Nat.mod_eq_of_lt small
  have strings : ∃ rest, (withStrings memory tablePtr bufPtr entries).bytes.drop
      (bufPtr + before.length) = entry ++ 0 :: rest := by
    have buffer := @drop_overwrite _
      (memory.writeBytes tablePtr (pointerTable bufPtr entries)).bytes (terminated entries) bufPtr
      (by rwa [terminated_length, LinearMemory.writeBytes_length])
    refine ⟨after ++ (memory.writeBytes tablePtr (pointerTable bufPtr entries)).bytes.drop
      (bufPtr + (terminated entries).length), ?_⟩
    rw [withStrings, LinearMemory.writeBytes, ← List.drop_drop, buffer]
    nth_rewrite 1 [split]
    rw [List.append_assoc, List.drop_left]
    simp
  obtain ⟨rest, strings⟩ := strings
  rw [pointer]
  unfold readString
  rw [strings, if_pos (by simp), takeWhile_terminated]

end Reading

/-! ## Configured lists -/

namespace Config

variable (config : Config)

def withArgs (args : List (List UInt8)) : Config :=
  { config with args }

def withArgsLimits (maxArgs maxArgsBytes : Nat) : Config :=
  { config with maxArgs, maxArgsBytes }

/-- A key, an equals sign and a value. -/
def envEntry : List UInt8 × List UInt8 → List UInt8
  | (key, value) => key ++ 0x3d :: value

def withEnv (env : List (List UInt8 × List UInt8)) : Config :=
  { config with env := env.map envEntry }

def withEnvLimits (maxEnv maxEnvBytes : Nat) : Config :=
  { config with maxEnv, maxEnvBytes }

end Config

/-- Wherever its two results fit, the first call succeeds and writes these numbers. -/
def Announces (config : Config) (sizesGet : I32 → I32 → Call) (count size : Nat) : Prop :=
  ∀ (state : WasiState) (memory : LinearMemory) (countPtr sizePtr : I32),
    InBounds memory countPtr.toNat 4 → InBounds memory sizePtr.toNat 4 →
      respond config state ⟨some memory, sizesGet countPtr sizePtr⟩ =
        (.ok (), (Request.host ⟨some memory, sizesGet countPtr sizePtr⟩ state).rewritten
          ((memory.writeBytes countPtr.toNat (Callback.leBytes 4 count)).writeBytes sizePtr.toNat
            (Callback.leBytes 4 size)))

/-- What is asked of a call that hands strings over: when it succeeds, so does the other call,
it writes as much as that call announces and nothing else, and the guest reads the strings. -/
def RoundTrip (config : Config) (sizesGet get : I32 → I32 → Call) (entries : List (List UInt8))
    (state : WasiState) (memory : LinearMemory) (tablePtr bufPtr : I32) : Prop :=
  ∀ after, respond config state ⟨some memory, get tablePtr bufPtr⟩ = (.ok (), after) →
    let count := entries.length
    let size := Callbacks.stringsLength entries
    (count < 2 ^ 32 ∧ size < 2 ^ 32 ∧ Announces config sizesGet count size) ∧
      ∃ table strings written, table.length = count * 4 ∧ strings.length = size ∧
        written = (memory.writeBytes tablePtr.toNat table).writeBytes bufPtr.toNat strings ∧
        after = (Request.host ⟨some memory, get tablePtr bufPtr⟩ state).rewritten written ∧
        (BuffersApart entries tablePtr.toNat bufPtr.toNat →
          ∀ index entry, entries[index]? = some entry →
            readString written (readU32 written (tablePtr.toNat + 4 * index)) = some entry)

section RoundTrip

variable {config : Config} {sizesGet get : I32 → I32 → Call} {entries : List (List UInt8)}
  {maxCount maxBytes : Nat} {state : WasiState} {memory : LinearMemory} {tablePtr bufPtr : I32}

/-- The pair of calls as the callbacks of one list. -/
structure CallsFor (config : Config) (sizesGet get : I32 → I32 → Call)
    (entries : List (List UInt8)) (maxCount maxBytes : Nat) : Prop where
  sizesRun : ∀ countPtr sizePtr, (sizesGet countPtr sizePtr).run config =
    Callbacks.sizesGet entries maxCount maxBytes countPtr.toNat sizePtr.toNat
  getRun : ∀ tablePtr bufPtr, (get tablePtr bufPtr).run config =
    Callbacks.stringsGet entries maxCount maxBytes tablePtr.toNat bufPtr.toNat
  sizesCapabilities : ∀ countPtr sizePtr, (sizesGet countPtr sizePtr).capabilities = .readWrite
  getCapabilities : ∀ tablePtr bufPtr, (get tablePtr bufPtr).capabilities = .readWrite

theorem CallsFor.respond_get (calls : CallsFor config sizesGet get entries maxCount maxBytes)
    {after : Host} :
    respond config state ⟨some memory, get tablePtr bufPtr⟩ = (.ok (), after) ↔
      Served entries maxCount maxBytes tablePtr.toNat bufPtr.toNat memory ∧
        after = (Request.host ⟨some memory, get tablePtr bufPtr⟩ state).rewritten
          (withStrings memory tablePtr.toNat bufPtr.toNat entries) := by
  rw [respond, calls.getRun]
  exact stringsGet_ok (calls.getCapabilities ..) rfl

theorem CallsFor.announces (calls : CallsFor config sizesGet get entries maxCount maxBytes)
    (count : entries.length ≤ maxCount) (bytes : Callbacks.stringsLength entries ≤ maxBytes)
    (small : Callbacks.stringsLength entries < 2 ^ 32) :
    Announces config sizesGet entries.length (Callbacks.stringsLength entries) := by
  intro state memory countPtr sizePtr countInside sizeInside
  rw [respond, calls.sizesRun]
  exact sizesGet_ok (calls.sizesCapabilities ..) rfl count bytes small countInside sizeInside

theorem CallsFor.not_roundTrip (calls : CallsFor config sizesGet get entries maxCount maxBytes)
    (served : Served entries maxCount maxBytes tablePtr.toNat bufPtr.toNat memory)
    (apart : BuffersApart entries tablePtr.toNat bufPtr.toNat) {entry : List UInt8}
    (member : entry ∈ entries) (zero : 0 ∈ entry) :
    ¬ RoundTrip config sizesGet get entries state memory tablePtr bufPtr := by
  intro roundTrip
  obtain ⟨index, found⟩ := List.mem_iff_getElem?.mp member
  obtain ⟨-, table, strings, written, -, -, -, same, reads⟩ :=
    roundTrip _ (calls.respond_get.mpr ⟨served, rfl⟩)
  obtain rfl : withStrings memory tablePtr.toNat bufPtr.toNat entries = written :=
    Option.some.inj (congrArg Host.memory same)
  have whole := (served.readString_eq apart found).symm.trans (reads apart index entry found)
  exact (takeWhile_eq_self_iff entry).mp (Option.some.inj whole) zero

theorem CallsFor.roundTrip_iff (calls : CallsFor config sizesGet get entries maxCount maxBytes) :
    RoundTrip config sizesGet get entries state memory tablePtr bufPtr ↔
      (Served entries maxCount maxBytes tablePtr.toNat bufPtr.toNat memory →
        BuffersApart entries tablePtr.toNat bufPtr.toNat → ∀ entry ∈ entries, 0 ∉ entry) := by
  constructor
  · intro roundTrip served apart entry member zero
    exact calls.not_roundTrip served apart member zero roundTrip
  · intro clean after answered
    obtain ⟨served, rfl⟩ := calls.respond_get.mp answered
    have few := length_le_stringsLength entries
    have small := served.small
    refine ⟨⟨by omega, small, calls.announces served.count served.bytes small⟩,
      pointerTable bufPtr.toNat entries, terminated entries, _,
      by rw [pointerTable_length, Nat.mul_comm], terminated_length entries, rfl, rfl, ?_⟩
    intro apart index entry found
    have noTerminator := clean served apart entry (List.mem_of_getElem? found)
    have reads := served.readString_eq apart found
    rwa [(takeWhile_eq_self_iff entry).mpr noTerminator] at reads

theorem CallsFor.args (config : Config) (args : List (List UInt8)) (maxArgs maxArgsBytes : Nat) :
    CallsFor ((config.withArgs args).withArgsLimits maxArgs maxArgsBytes) .argsSizesGet .argsGet
      args maxArgs maxArgsBytes :=
  ⟨fun _ _ => rfl, fun _ _ => rfl, fun _ _ => rfl, fun _ _ => rfl⟩

theorem CallsFor.env (config : Config) (env : List (List UInt8 × List UInt8))
    (maxEnv maxEnvBytes : Nat) :
    CallsFor ((config.withEnv env).withEnvLimits maxEnv maxEnvBytes) .environSizesGet .environGet
      (env.map Config.envEntry) maxEnv maxEnvBytes :=
  ⟨fun _ _ => rfl, fun _ _ => rfl, fun _ _ => rfl, fun _ _ => rfl⟩

end RoundTrip

/-- Both pairs of calls hand their strings over exactly when no string of a call that is served,
with its buffers apart, has a terminator among its own bytes. -/
theorem strings_roundTrip_iff (config : Config) (state : WasiState) (memory : LinearMemory)
    (tablePtr bufPtr : I32) :
    (∀ args maxArgs maxArgsBytes,
      RoundTrip ((config.withArgs args).withArgsLimits maxArgs maxArgsBytes) .argsSizesGet
          .argsGet args state memory tablePtr bufPtr ↔
        (Served args maxArgs maxArgsBytes tablePtr.toNat bufPtr.toNat memory →
          BuffersApart args tablePtr.toNat bufPtr.toNat → ∀ arg ∈ args, 0 ∉ arg)) ∧
    ∀ env maxEnv maxEnvBytes,
      RoundTrip ((config.withEnv env).withEnvLimits maxEnv maxEnvBytes) .environSizesGet
          .environGet (env.map Config.envEntry) state memory tablePtr bufPtr ↔
        (Served (env.map Config.envEntry) maxEnv maxEnvBytes tablePtr.toNat bufPtr.toNat memory →
          BuffersApart (env.map Config.envEntry) tablePtr.toNat bufPtr.toNat →
            ∀ entry ∈ env, 0 ∉ entry.1 ∧ 0 ∉ entry.2) := by
  refine ⟨fun args maxArgs maxArgsBytes => (CallsFor.args ..).roundTrip_iff,
    fun env maxEnv maxEnvBytes => ?_⟩
  rw [(CallsFor.env ..).roundTrip_iff, List.forall_mem_map]
  have clean (entry : List UInt8 × List UInt8) :
      0 ∉ Config.envEntry entry ↔ 0 ∉ entry.1 ∧ 0 ∉ entry.2 := by
    simp [Config.envEntry, not_or]
  simp only [clean]

/-- The argument `a\0b`, on a memory of one page. -/
theorem args_cut_at_terminator :
    ¬ RoundTrip ((Config.default.withArgs [[0x61, 0, 0x62]]).withArgsLimits 4096 1048576)
      .argsSizesGet .argsGet [[0x61, 0, 0x62]] (Preview1.new Config.default [] []).state
      ⟨List.replicate 65536 0, 1⟩ 0 32 := by
  have served : Served [[0x61, 0, 0x62]] 4096 1048576 0 32 ⟨List.replicate 65536 0, 1⟩ := by
    constructor
    case table => exact ⟨by decide, by rw [List.length_replicate]; decide⟩
    case buffer => exact ⟨by decide, by rw [List.length_replicate]; decide⟩
    all_goals decide
  exact (CallsFor.args ..).not_roundTrip served (.inl (by decide)) (List.mem_singleton_self _)
    (by decide)

end MiniWasm.Wasi
