import MiniWasm.Wasi.Transactions

/-!
# Histories of calls

What holds after one call holds after any sequence of calls, from every
configuration that the builder can make.
-/

namespace MiniWasm.Wasi

open Library Action MiniWasm.Runtime

/-- A call performs an operation that it asks for, or nothing. -/
theorem afterCall_performs (config : Config) {state : WasiState} (coherent : state.Coherent)
    (request : Request) :
    ∃ operation, (operation = .nothing ∨ Asks request.memory request.call operation) ∧
      Performed state (afterCall config state request) operation := by
  cases returns : request.call.exits with
  | true =>
    obtain ⟨memory, call⟩ := request
    cases call with
    | procExit code => exact ⟨.nothing, .inl rfl, .unchanged, rfl, .inl rfl⟩
    | _ => cases returns
  | false =>
    have performs := run_performs config coherent request returns
    unfold Performs Meets at performs
    unfold afterCall respond
    generalize request.call.run config (request.host state) = outcome at performs ⊢
    obtain ⟨result, after⟩ := outcome
    cases result with
    | error failure =>
      cases performs with
      | denied failure untouched =>
        cases untouched with
        | same => exact ⟨.nothing, .inl rfl, .unchanged, rfl, .inl rfl⟩
        | abandoned => exact ⟨.nothing, .inl rfl, .abandoned, rfl, .inl rfl⟩
    | ok value =>
      obtain ⟨operation, asked, performed⟩ := performs
      exact ⟨operation, .inr asked, performed⟩

/-! ## Coherence -/

theorem FilesystemState.Reserved.closed {state : FilesystemState}
    (reserved : state.Reserved) (fd : Nat) : (state.closed fd).Reserved where
  subset := by
    intro number member
    have found := (List.Nodup.mem_erase_iff reserved.writable).mp member
    exact (List.Nodup.mem_erase_iff reserved.reserved).mpr ⟨found.1, reserved.subset found.2⟩
  reserved := reserved.reserved.erase fd
  writable := reserved.writable.erase fd

/-- Only closing a number changes the preopens. -/
theorem Effect.preopens {before after : FilesystemState} {operation : Operation}
    (effect : Effect before operation after) :
    (∃ fd, operation = .close fd ∧ after = before.closed fd) ∨
      after.reservedPreopens = before.reservedPreopens ∧
        after.writablePreopens = before.writablePreopens := by
  cases effect with
  | closed => exact .inl ⟨_, rfl, rfl⟩
  | opened opens => cases opens <;> exact .inr ⟨rfl, rfl⟩
  | _ => exact .inr ⟨rfl, rfl⟩

theorem Effect.reserved {before after : FilesystemState} {operation : Operation}
    (effect : Effect before operation after) (reserved : before.Reserved) : after.Reserved := by
  rcases effect.preopens with ⟨fd, -, rfl⟩ | ⟨sameReserved, sameWritable⟩
  · exact reserved.closed fd
  · constructor
    · rw [sameReserved, sameWritable]
      exact reserved.subset
    · rw [sameReserved]
      exact reserved.reserved
    · rw [sameWritable]
      exact reserved.writable

theorem afterCall_coherent (config : Config) {state : WasiState} (coherent : state.Coherent)
    (request : Request) : (afterCall config state request).Coherent := by
  obtain ⟨operation, asked, performed⟩ := afterCall_performs config coherent request
  constructor
  · exact performed.effect.reserved coherent.reserved
  · have within := coherent.stdinWithin
    rcases performed.stdin with same | ⟨length, advanced⟩
    · rw [same]
      exact within
    · rw [advanced]
      exact Nat.min_le_right ..

/-! ## Runs -/

/-- What every call keeps holds after any sequence of calls. -/
theorem afterCalls_keeps (config : Config) {motive : WasiState → Prop}
    (keeps : ∀ state request, state.Coherent → motive state →
      motive (afterCall config state request))
    (requests : List Request) {state : WasiState} (coherent : state.Coherent)
    (holds : motive state) :
    (afterCalls config state requests).Coherent ∧
      motive (afterCalls config state requests) := by
  induction requests generalizing state with
  | nil => exact ⟨coherent, holds⟩
  | cons request requests ih =>
    exact ih (afterCall_coherent config coherent request) (keeps state request coherent holds)

/-- What every change of the filesystem keeps holds after any sequence of calls. -/
theorem afterCalls_keeps_filesystem (config : Config) {motive : FilesystemState → Prop}
    (keeps : ∀ before after operation, before.Reserved → Effect before operation after →
      motive before → motive after)
    (requests : List Request) {state : WasiState} (coherent : state.Coherent)
    (holds : motive state.filesystem) :
    motive (afterCalls config state requests).filesystem := by
  refine (afterCalls_keeps config (motive := fun state => motive state.filesystem) ?_ requests
    coherent holds).2
  intro state request coherent holds
  obtain ⟨operation, asked, performed⟩ := afterCall_performs config coherent request
  exact keeps _ _ operation coherent.reserved performed.effect holds

/-- Every request of the sequence meets the condition in the state it is made in. -/
def Along (condition : WasiState → Request → Prop) (config : Config) :
    WasiState → List Request → Prop
  | _, [] => True
  | state, request :: requests =>
      condition state request ∧ Along condition config (afterCall config state request) requests

/-- What the calls that meet the condition keep. -/
theorem afterCalls_keeps_along (config : Config) {condition : WasiState → Request → Prop}
    {motive : WasiState → Prop}
    (keeps : ∀ state request, state.Coherent → motive state → condition state request →
      motive (afterCall config state request))
    (requests : List Request) {state : WasiState} (coherent : state.Coherent)
    (holds : motive state) (meets : Along condition config state requests) :
    motive (afterCalls config state requests) := by
  induction requests generalizing state with
  | nil => exact holds
  | cons request requests ih =>
    exact ih (afterCall_coherent config coherent request)
      (keeps state request coherent holds meets.1) meets.2

/-! ## Configurations -/

theorem Preview1.withPreopenPolicy_ok {wasi after : Preview1} {guestPath : List UInt8}
    {writable : Bool} (added : wasi.withPreopenPolicy guestPath writable = .ok after) :
    after.state =
        { wasi.state with
          preopens := wasi.state.preopens ++
            [{ fd := firstPreopenFd + wasi.state.preopens.length, guestPath, live := true }]
          filesystem :=
            wasi.state.filesystem.reservePreopen
              (firstPreopenFd + wasi.state.preopens.length) writable } ∧
      after.config.extraFdStats =
        wasi.config.extraFdStats.filter
            (·.fd ≠ firstPreopenFd + wasi.state.preopens.length) ++
          [{ fd := firstPreopenFd + wasi.state.preopens.length, filetype := .directory
             rightsBase := preopenBase writable
             rightsInheriting := preopenInheriting writable }] := by
  unfold withPreopenPolicy at added
  split_ifs at added
  cases added
  exact ⟨rfl, rfl⟩

/-- The entry of a file that is mounted. -/
def FilesystemState.mounted (state : FilesystemState) (location : Location)
    (writable : Bool) : MountedFile :=
  { state.freshFile location with writable }

theorem FilesystemState.mountFile_ok {state after : FilesystemState} {location : Location}
    {bytes : List UInt8} {writable : Bool}
    (mounts : state.mountFile location bytes writable = .ok after) :
    after =
        { state.withFreshCells with
          bytes := (state.bytes.alloc bytes).2
          mountedFiles := state.mountedFiles ++ [state.mounted location writable] } ∧
      (writable = true → state.isWritablePreopen location.preopenFd = true) ∧
      state.fileAt location = none := by
  unfold mountFile at mounts
  obtain ⟨_, valid, mounts⟩ := bind_ok.mp mounts
  split_ifs at mounts with refused tooLarge tooMany duplicate
  cases mounts
  refine ⟨rfl, fun asked => ?_, by simpa using duplicate⟩
  by_contra notWritable
  exact refused ⟨asked, notWritable⟩

theorem Preview1.withFilePolicy_ok {wasi after : Preview1} {guestPath : List UInt8}
    {relativePath : Path} {bytes : List UInt8} {writable : Bool}
    (added : wasi.withFilePolicy guestPath relativePath bytes writable = .ok after) :
    ∃ entry filesystem, entry ∈ wasi.state.preopens ∧
      wasi.state.filesystem.mountFile { preopenFd := entry.fd, relativePath } bytes writable =
        .ok filesystem ∧
      after = { wasi with state := { wasi.state with filesystem } } := by
  unfold withFilePolicy at added
  cases found : wasi.state.preopens.find? (·.guestPath = guestPath) with
  | none =>
    rw [found] at added
    cases added
  | some entry =>
    rw [found] at added
    obtain ⟨filesystem, mounts, result⟩ := bind_ok.mp added
    cases result
    exact ⟨entry, filesystem, List.mem_of_find?_eq_some found, mounts, rfl⟩

/-- What the configuration of a preopen and of a file keep holds of every
configuration. -/
theorem Mounted.keeps {motive : FilesystemState → Prop} {wasi : Preview1}
    (mounted : Mounted wasi) (start : motive .default)
    (preopen : ∀ state fd writable, motive state → motive (state.reservePreopen fd writable))
    (file : ∀ state after location bytes writable, motive state →
      state.mountFile location bytes writable = .ok after → motive after) :
    motive wasi.state.filesystem := by
  induction mounted with
  | new config stdin entropy => exact start
  | preopen mounted added ih =>
    rw [(Preview1.withPreopenPolicy_ok added).1]
    exact preopen _ _ _ ih
  | file mounted added ih =>
    obtain ⟨entry, filesystem, -, mounts, rfl⟩ := Preview1.withFilePolicy_ok added
    exact file _ _ _ _ _ ih mounts

theorem mem_insertNumber {numbers : List Nat} {fd number : Nat} :
    (number ∈ if fd ∈ numbers then numbers else numbers.orderedInsert (· ≤ ·) fd) ↔
      number = fd ∨ number ∈ numbers := by
  split_ifs with known
  · constructor
    · exact .inr
    · rintro (rfl | member)
      · exact known
      · exact member
  · exact List.mem_orderedInsert ..

theorem nodup_insertNumber {numbers : List Nat} {fd : Nat} (nodup : numbers.Nodup) :
    (if fd ∈ numbers then numbers else numbers.orderedInsert (· ≤ ·) fd).Nodup := by
  split_ifs with known
  · exact nodup
  · exact (List.perm_orderedInsert ..).nodup_iff.mpr (List.nodup_cons.mpr ⟨known, nodup⟩)

theorem FilesystemState.Reserved.reservePreopen {state : FilesystemState}
    (reserved : state.Reserved) (fd : Nat) (writable : Bool) :
    (state.reservePreopen fd writable).Reserved := by
  unfold FilesystemState.reservePreopen
  constructor
  · intro number member
    apply mem_insertNumber.mpr
    cases writable with
    | false => exact .inr (reserved.subset member)
    | true =>
      rcases mem_insertNumber.mp member with same | known
      · exact .inl same
      · exact .inr (reserved.subset known)
  · exact nodup_insertNumber reserved.reserved
  · cases writable with
    | false => exact reserved.writable
    | true => exact nodup_insertNumber reserved.writable

theorem Mounted.reserved {wasi : Preview1} (mounted : Mounted wasi) :
    wasi.state.filesystem.Reserved := by
  apply mounted.keeps
  · exact ⟨List.Subset.refl _, .nil, .nil⟩
  · intro state fd writable reserved
    exact reserved.reservePreopen fd writable
  · intro state after location bytes writable reserved mounts
    rw [(FilesystemState.mountFile_ok mounts).1]
    exact ⟨reserved.subset, reserved.reserved, reserved.writable⟩

theorem Mounted.coherent {wasi : Preview1} (mounted : Mounted wasi) : wasi.state.Coherent := by
  refine ⟨mounted.reserved, ?_⟩
  induction mounted with
  | new config stdin entropy => exact Nat.zero_le _
  | preopen mounted added ih =>
    rw [(Preview1.withPreopenPolicy_ok added).1]
    exact ih
  | file mounted added ih =>
    obtain ⟨entry, filesystem, -, -, rfl⟩ := Preview1.withFilePolicy_ok added
    exact ih

/-- A configuration: no descriptor is open, no two entries are the same file, and a
writable entry is in a writable preopen. -/
structure Configured (state : FilesystemState) : Prop where
  noOpenFile : state.openFiles = ∅
  noOpenDirectory : state.openDirectories = ∅
  bounded : ∀ file ∈ state.mountedFiles, file.inode ≤ state.nextInode
  distinct : ∀ left ∈ state.mountedFiles, ∀ right ∈ state.mountedFiles,
    left.inode = right.inode → left = right
  writable : ∀ file ∈ state.mountedFiles, file.writable = true →
    state.isWritablePreopen file.preopenFd = true

theorem Mounted.configured {wasi : Preview1} (mounted : Mounted wasi) :
    Configured wasi.state.filesystem := by
  apply mounted.keeps (motive := Configured)
  · constructor
    · rfl
    · rfl
    · intro file member
      cases member
    · intro file member
      cases member
    · intro file member
      cases member
  · intro state fd writable configured
    refine ⟨configured.noOpenFile, configured.noOpenDirectory, configured.bounded,
      configured.distinct, ?_⟩
    intro file member mayWrite
    have known := configured.writable file member mayWrite
    simp only [FilesystemState.isWritablePreopen, decide_eq_true_eq] at known ⊢
    cases writable with
    | false => exact known
    | true => exact mem_insertNumber.mpr (.inr known)
  · intro state after location bytes writable configured mounts
    obtain ⟨rfl, mayWrite, free⟩ := FilesystemState.mountFile_ok mounts
    refine ⟨configured.noOpenFile, configured.noOpenDirectory, ?_, ?_, ?_⟩
    · intro file member
      rcases List.mem_append.mp member with old | new
      · exact (configured.bounded file old).trans (Nat.le_succ _)
      · rw [List.mem_singleton.mp new]
        exact le_rfl
    · intro left leftMember right rightMember same
      rcases List.mem_append.mp leftMember with leftOld | leftNew
      · rcases List.mem_append.mp rightMember with rightOld | rightNew
        · exact configured.distinct left leftOld right rightOld same
        · rw [List.mem_singleton.mp rightNew] at same
          exact absurd (configured.bounded left leftOld)
            (by rw [same]; exact Nat.not_succ_le_self _)
      · rcases List.mem_append.mp rightMember with rightOld | rightNew
        · rw [List.mem_singleton.mp leftNew] at same
          exact absurd (configured.bounded right rightOld)
            (by rw [← same]; exact Nat.not_succ_le_self _)
        · rw [List.mem_singleton.mp leftNew, List.mem_singleton.mp rightNew]
    · intro file member asks
      rcases List.mem_append.mp member with old | new
      · exact configured.writable file old asks
      · rw [List.mem_singleton.mp new] at asks ⊢
        exact mayWrite asks

/-! ## A configuration with one file -/

/-- The file `a` in a preopen, both writable or not. -/
def Preview1.workspace (writable : Bool) : Preview1 :=
  match (Preview1.new .default [] []).withPreopenPolicy [slash] writable with
  | .error _ => .new .default [] []
  | .ok wasi =>
      match wasi.withFilePolicy [slash] [97] [] writable with
      | .error _ => wasi
      | .ok wasi => wasi

theorem workspace_mounted (writable : Bool) : Mounted (Preview1.workspace writable) := by
  have preopened (writable : Bool) (wasi : Preview1)
      (added : (Preview1.new .default [] []).withPreopenPolicy [slash] writable = .ok wasi) :
      Mounted wasi :=
    .preopen (.new .default [] []) added
  cases writable with
  | true => exact @Mounted.file _ _ [slash] [97] [] true (preopened true _ rfl) rfl
  | false => exact @Mounted.file _ _ [slash] [97] [] false (preopened false _ rfl) rfl

/-- A memory that starts with `abd/a`, and a request from there. -/
def guestMemory : LinearMemory where
  bytes := [97, 98, 100, slash, 97] ++ List.replicate 59 0
  maxPages := 1

def fromGuest (call : Call) : Request where
  memory := some guestMemory
  call

end MiniWasm.Wasi
