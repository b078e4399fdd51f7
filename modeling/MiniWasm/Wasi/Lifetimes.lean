import MiniWasm.Wasi.Descriptors

/-!
# Lifetimes of preopens

A preopen lives from its configuration until its number is closed.  While it lives it
is listed, reserved and as writable as it was configured; a number that has been closed
is never a preopen again.
-/

namespace MiniWasm.Wasi

open Library Action MiniWasm.Runtime FilesystemState

/-! ## Closing -/

/-- What `fd_close` leaves, whether the number was open or not. -/
theorem afterCall_close (config : Config) (state : WasiState) (memory : Option LinearMemory)
    (fd : I32) :
    afterCall config state { memory, call := .fdClose fd } =
      { state with
        filesystem := state.filesystem.closed fd.toNat
        preopens := (Operation.close fd.toNat).preopens state.preopens } := by
  let request : Request := { memory, call := .fdClose fd }
  let closed : WasiState :=
    { state with
      filesystem := state.filesystem.closed fd.toNat
      preopens := (Operation.close fd.toNat).preopens state.preopens }
  have leaves : Meets (fun (_ : Failure) after => after.state = closed)
      (fun _ after => after.state = closed) (Callbacks.fdClose fd.toNat)
      (request.host state) := by
    simp only [Callbacks.fdClose, meets_bind]
    unfold Callback.onFilesystem
    rw [meets_zoom]
    apply close_meets.mono
    · intro err changed impossible
      exact impossible.elim
    · rintro wasOpen changed ⟨rfl, -⟩
      rw [meets_zoom]
      apply Callbacks.closePreopen_meets.mono
      · intro err changed impossible
        exact impossible.elim
      · rintro wasLive changed ⟨rfl, -⟩
        rw [meets_ite]
        exact ⟨fun _ => rfl, fun _ => rfl⟩
  exact leaves.after

/-- Only `fd_close` asks for closing. -/
theorem asks_close {request : Request} {operation : Operation} {fd : Nat}
    (asked : operation = .nothing ∨ Asks request.memory request.call operation)
    (closes : operation = .close fd) : ∃ number : I32, request.call = .fdClose number := by
  subst closes
  obtain ⟨memory, call⟩ := request
  cases call with
  | fdClose number => exact ⟨number, rfl⟩
  | _ => simp [Asks] at asked

/-- A call other than `fd_close` keeps the preopens. -/
theorem afterCall_preopens (config : Config) {state : WasiState} (coherent : state.Coherent)
    {request : Request} (open' : ∀ number : I32, request.call ≠ .fdClose number) :
    (afterCall config state request).preopens = state.preopens ∧
      (afterCall config state request).filesystem.reservedPreopens =
        state.filesystem.reservedPreopens ∧
      (afterCall config state request).filesystem.writablePreopens =
        state.filesystem.writablePreopens := by
  obtain ⟨operation, asked, performed⟩ := afterCall_performs config coherent request
  have notClose : ∀ fd, operation ≠ .close fd := by
    intro fd closes
    obtain ⟨number, same⟩ := asks_close asked closes
    exact open' number same
  refine ⟨?_, ?_⟩
  · rw [performed.preopens]
    cases operation with
    | close fd => exact absurd rfl (notClose fd)
    | _ => rfl
  · rcases performed.effect.preopens with ⟨fd, closes, -⟩ | same
    · exact absurd closes (notClose fd)
    · exact same

/-! ## Lifetimes -/

/-- The preopens in a state, compared with those of the configuration. -/
structure Lifetimes (wasi : Preview1) (state : WasiState) : Prop where
  /-- Entries are numbered in order, and live as long as their numbers are reserved. -/
  entries : ∀ index entry, state.preopens[index]? = some entry →
    entry.fd = firstPreopenFd + index ∧
      (entry.live = true ↔ entry.fd ∈ state.filesystem.reservedPreopens)
  length : state.preopens.length = wasi.state.preopens.length
  reserved : ∀ fd ∈ state.filesystem.reservedPreopens,
    fd ∈ wasi.state.filesystem.reservedPreopens
  writable : ∀ fd ∈ state.filesystem.reservedPreopens,
    state.filesystem.isWritablePreopen fd = wasi.state.filesystem.isWritablePreopen fd

theorem Mounted.lifetimes {wasi : Preview1} (mounted : Mounted wasi) :
    Lifetimes wasi wasi.state where
  entries index entry found := by
    obtain ⟨number, live⟩ := mounted.registered.numbers index entry found
    refine ⟨number, ⟨fun _ => ?_, fun _ => live⟩⟩
    rw [mounted.registered.reserved, number]
    have inside := (List.getElem?_eq_some_iff.mp found).1
    omega
  length := rfl
  reserved _ member := member
  writable _ _ := rfl

theorem Lifetimes.closed {wasi : Preview1} {state : WasiState} (lifetimes : Lifetimes wasi state)
    (coherent : state.Coherent) (number : Nat) :
    Lifetimes wasi
      { state with
        filesystem := state.filesystem.closed number
        preopens := (Operation.close number).preopens state.preopens } where
  entries index entry found := by
    have stillReserved : ∀ fd, fd ∈ (state.filesystem.closed number).reservedPreopens ↔
        fd ≠ number ∧ fd ∈ state.filesystem.reservedPreopens :=
      fun fd => List.Nodup.mem_erase_iff coherent.reserved.reserved
    dsimp only at found ⊢
    rw [stillReserved]
    unfold Operation.preopens at found
    cases position : state.preopens.findIdx? (·.fd = number) with
    | none =>
      simp only [position] at found
      obtain ⟨numbered, live⟩ := lifetimes.entries index entry found
      have different : entry.fd ≠ number := by
        simpa using List.findIdx?_eq_none_iff.mp position entry (List.mem_of_getElem? found)
      exact ⟨numbered, by rw [live]; exact ⟨fun member => ⟨different, member⟩, And.right⟩⟩
    | some closedIndex =>
      simp only [position, List.getElem?_modify] at found
      obtain ⟨closedEntry, located, same⟩ := exists_of_findIdx? position
      have closedNumber := (lifetimes.entries closedIndex closedEntry located).1
      have isNumber : closedEntry.fd = number := of_decide_eq_true same
      obtain ⟨old, original, changed⟩ := Option.map_eq_some_iff.mp found
      obtain ⟨numbered, live⟩ := lifetimes.entries index old original
      by_cases here : closedIndex = index
      · subst here
        cases original.symm.trans located
        simp only [if_true] at changed
        subst changed
        exact ⟨numbered, by simp [isNumber]⟩
      · simp only [here, if_false] at changed
        subst changed
        have different : old.fd ≠ number := by omega
        exact ⟨numbered, by rw [live]; exact ⟨fun member => ⟨different, member⟩, And.right⟩⟩
  length := by
    rw [← lifetimes.length]
    dsimp only [Operation.preopens]
    split
    · exact List.length_modify ..
    · rfl
  reserved fd member := lifetimes.reserved fd (List.mem_of_mem_erase member)
  writable fd member := by
    have kept := (List.Nodup.mem_erase_iff coherent.reserved.reserved).mp member
    rw [← lifetimes.writable fd kept.2]
    have stays : fd ∈ state.filesystem.writablePreopens.erase number ↔
        fd ∈ state.filesystem.writablePreopens := by
      rw [List.Nodup.mem_erase_iff coherent.reserved.writable]
      exact ⟨And.right, fun known => ⟨kept.1, known⟩⟩
    exact decide_eq_decide.mpr stays

theorem Lifetimes.step {wasi : Preview1} (config : Config) {state : WasiState}
    (coherent : state.Coherent) (lifetimes : Lifetimes wasi state) (request : Request) :
    Lifetimes wasi (afterCall config state request) := by
  by_cases closes : ∃ number : I32, request.call = .fdClose number
  · obtain ⟨memory, call⟩ := request
    obtain ⟨number, rfl⟩ := closes
    rw [afterCall_close]
    exact lifetimes.closed coherent number.toNat
  · obtain ⟨preopens, reserved, writable⟩ :=
      afterCall_preopens config coherent (not_exists.mp closes)
    constructor
    · rw [preopens, reserved]
      exact lifetimes.entries
    · rw [preopens]
      exact lifetimes.length
    · rw [reserved]
      exact lifetimes.reserved
    · rw [reserved]
      intro fd member
      rw [← lifetimes.writable fd member, isWritablePreopen, isWritablePreopen, writable]

/-- A number is found among the live preopens exactly when it is reserved. -/
theorem Lifetimes.findPreopen {wasi : Preview1} {state : WasiState}
    (lifetimes : Lifetimes wasi state) (mounted : Mounted wasi) (fd : Nat) :
    (state.findPreopen fd).isSome = state.filesystem.hasPreopen fd := by
  rw [Bool.eq_iff_iff, WasiState.findPreopen, List.find?_isSome]
  simp only [decide_eq_true_eq, hasPreopen]
  constructor
  · rintro ⟨entry, member, rfl, live⟩
    obtain ⟨index, found⟩ := List.mem_iff_getElem?.mp member
    exact (lifetimes.entries index entry found).2.mp live
  · intro member
    have configured := (mounted.registered.reserved fd).mp (lifetimes.reserved fd member)
    rw [← lifetimes.length] at configured
    have inside : fd - firstPreopenFd < state.preopens.length := by omega
    have found := List.getElem?_eq_getElem inside
    obtain ⟨number, live⟩ := lifetimes.entries _ _ found
    have same : state.preopens[fd - firstPreopenFd].fd = fd := by omega
    exact ⟨_, List.mem_of_getElem? found, same, live.mpr (by rwa [same])⟩

/-! ## Reached states -/

/-- What holds of the descriptors in every state that calls lead to. -/
structure Reached (wasi : Preview1) (state : WasiState) : Prop where
  coherent : state.Coherent
  lifetimes : Lifetimes wasi state
  separate : Separate state.filesystem
  granted : ∀ fd opened, state.filesystem.openDirectories.lookup fd = some opened →
    opened.rightsBase.Within Rights.allowedDirectoryBase

theorem asks_openDirectory {request : Request} {operation : Operation} {dirFd : Nat}
    {path : Path} {rightsBase : Rights}
    (asked : operation = .nothing ∨ Asks request.memory request.call operation)
    (opens : operation = .openDirectory dirFd path rightsBase) :
    rightsBase.Within Rights.allowedDirectoryBase := by
  subst opens
  obtain ⟨memory, call⟩ := request
  cases call with
  | pathOpen =>
    obtain ⟨name, -, -, asks⟩ := asked.resolve_left (by simp)
    rcases asks with ⟨within, same⟩ | ⟨-, options, same⟩
    · cases same
      exact within
    · cases same
  | _ => simp [Asks] at asked

/-- The directories that are open after a change were open before, or one has been
opened. -/
theorem Effect.openDirectories {before after : FilesystemState} {operation : Operation}
    (effect : Effect before operation after) {fd : Nat} {opened : OpenDirectory}
    (found : after.openDirectories.lookup fd = some opened) :
    before.openDirectories.lookup fd = some opened ∨
      ∃ dirFd path, operation = .openDirectory dirFd path opened.rightsBase := by
  cases effect with
  | opened opens =>
    cases opens with
    | file => exact .inl found
    | created => exact .inl found
    | directory resolved attenuated located parent allocated =>
      rcases lookup_insert_cases found with ⟨-, rfl⟩ | ⟨-, old⟩
      · exact .inr ⟨_, _, rfl⟩
      · exact .inl old
  | closed => exact .inl (lookup_erase_some found).2
  | _ => exact .inl found

theorem Reached.step {wasi : Preview1} (config : Config) {state : WasiState}
    (reached : Reached wasi state) (request : Request) :
    Reached wasi (afterCall config state request) := by
  obtain ⟨operation, asked, performed⟩ := afterCall_performs config reached.coherent request
  constructor
  · exact afterCall_coherent config reached.coherent request
  · exact reached.lifetimes.step config reached.coherent request
  · exact performed.effect.separate reached.separate
  · intro fd opened found
    rcases performed.effect.openDirectories found with old | ⟨dirFd, path, opens⟩
    · exact reached.granted fd opened old
    · exact asks_openDirectory asked opens

theorem Mounted.reaches {wasi : Preview1} (mounted : Mounted wasi) (requests : List Request) :
    Reached wasi (afterCalls wasi.config wasi.state requests) := by
  refine (afterCalls_keeps wasi.config (motive := Reached wasi) ?_ requests mounted.coherent ?_).2
  · intro state request coherent reached
    exact reached.step wasi.config request
  · refine ⟨mounted.coherent, mounted.lifetimes, mounted.separate, ?_⟩
    intro fd opened found
    rw [mounted.configured.noOpenDirectory] at found
    cases found

end MiniWasm.Wasi
