import MiniWasm.Wasi.FileModel
import MiniWasm.Wasi.Lending

/-!
# When calls on files succeed

What each call on open files asks of its arguments, of guest memory and of the descriptor.
A call succeeds exactly when this holds.
-/

namespace MiniWasm.Wasi

open Library Action MiniWasm.Runtime FilesystemState

/-! ## Conditions -/

namespace Admits

variable (files : FilesystemState) (memory : LinearMemory)

def fdWrite (config : Config) (fd iovs iovsLen nwritten : Nat) : Prop :=
  iovsLen ≤ config.maxIovecs ∧ Usable memory iovs iovsLen config.maxWriteBytes ∧
    nwritten + 4 ≤ memory.bytes.length ∧
    (fd = 1 ∨ fd = 2 ∨ ∃ file, files.openFiles.lookup fd = some file ∧
      file.rightsBase &&& Rights.fdWrite ≠ 0 ∧
      files.writeStart file + capacity (iovecs memory iovs iovsLen) ≤ maxFileBytes)

def fdPwrite (fd iovs iovsLen offset nwritten : Nat) : Prop :=
  iovsLen ≤ maxPwriteIovecs ∧ Usable memory iovs iovsLen maxFileBytes ∧
    nwritten + 4 ≤ memory.bytes.length ∧
    ∃ file, files.openFiles.lookup fd = some file ∧
      file.rightsBase &&& Rights.fdWrite ≠ 0 ∧ file.rightsBase &&& Rights.fdSeek ≠ 0 ∧
      offset + capacity (iovecs memory iovs iovsLen) ≤ maxFileBytes

def fdRead (config : Config) (fd iovs iovsLen nread : Nat) : Prop :=
  iovsLen ≤ config.maxReadIovecs ∧ Usable memory iovs iovsLen config.maxReadBytes ∧
    nread + 4 ≤ memory.bytes.length ∧
    (fd = 0 ∨ ∃ file, files.openFiles.lookup fd = some file ∧
      file.rightsBase &&& Rights.fdRead = Rights.fdRead)

def fdPread (config : Config) (fd iovs iovsLen nread : Nat) : Prop :=
  iovsLen ≤ config.maxReadIovecs ∧ Usable memory iovs iovsLen config.maxReadBytes ∧
    nread + 4 ≤ memory.bytes.length ∧
    ∃ file, files.openFiles.lookup fd = some file ∧
      file.rightsBase &&& (Rights.fdRead ||| Rights.fdSeek) = Rights.fdRead ||| Rights.fdSeek

/-- A position may be asked for with either right, but moved with one of them only. -/
def fdSeek (fd : Nat) (delta : Int) (whence newoffset : Nat) : Prop :=
  newoffset + 8 ≤ memory.bytes.length ∧
    ∃ file base, files.openFiles.lookup fd = some file ∧
      files.seekBase file whence = some base ∧
      file.rightsBase &&&
        (if whence = whenceCur ∧ delta = 0 then Rights.fdSeek ||| Rights.fdTell
          else Rights.fdSeek) ≠ 0 ∧
      0 ≤ (base : Int) + delta ∧ (base : Int) + delta ≤ maxU64

def fdTell (fd offset : Nat) : Prop :=
  offset + 8 ≤ memory.bytes.length ∧
    ∃ file, files.openFiles.lookup fd = some file ∧
      file.rightsBase &&& (Rights.fdSeek ||| Rights.fdTell) ≠ 0

def fdFilestatSetSize (fd size : Nat) : Prop :=
  ∃ file, files.openFiles.lookup fd = some file ∧
    file.rightsBase &&& Rights.fdFilestatSetSize ≠ 0 ∧ size ≤ maxFileBytes

def fdAllocate (fd offset length : Nat) : Prop :=
  ∃ file, files.openFiles.lookup fd = some file ∧
    file.rightsBase &&& Rights.fdAllocate ≠ 0 ∧ offset + length ≤ maxFileBytes

def fdFdstatSetFlags (fd flags : Nat) : Prop :=
  flags < 2 ^ 16 ∧ BitVec.ofNat 16 flags &&& ~~~fdflagsAppend = 0 ∧
    ∃ file, files.openFiles.lookup fd = some file ∧
      file.rightsBase &&& Rights.fdFdstatSetFlags ≠ 0

end Admits

/-! ## Descriptors -/

section Queries

variable {state : FilesystemState} {fd : Nat} {required : Rights} {file : OpenFile}

theorem writableFile_eq_ok :
    state.writableFile fd required = .ok file ↔
      state.openFiles.lookup fd = some file ∧ file.rightsBase &&& required ≠ 0 := by
  constructor
  · exact writableFile_ok
  · rintro ⟨found, granted⟩
    unfold writableFile
    rw [found]
    exact if_neg granted

theorem readableFile_eq_ok :
    state.readableFile fd required = .ok file ↔
      state.openFiles.lookup fd = some file ∧ file.rightsBase &&& required = required := by
  constructor
  · exact readableFile_ok
  · rintro ⟨found, granted⟩
    simp [readableFile, found, granted]

theorem checkFileEnd_eq_ok {start length stop : Nat} :
    checkFileEnd start length = .ok stop ↔
      stop = start + length ∧ start + length ≤ maxFileBytes := by
  constructor
  · intro fits
    obtain ⟨rfl, within⟩ := checkFileEnd_ok fits
    exact ⟨rfl, within⟩
  · rintro ⟨rfl, within⟩
    rw [checkFileEnd, if_neg (Nat.not_lt.mpr within)]

theorem prepareWrite_eq_ok {length : Nat} {result : Unit} :
    state.prepareWrite fd length = .ok result ↔
      ∃ file, state.openFiles.lookup fd = some file ∧
        file.rightsBase &&& Rights.fdWrite ≠ 0 ∧
        state.writeStart file + length ≤ maxFileBytes := by
  constructor
  · intro prepared
    obtain ⟨file, stop, writable, fits⟩ := prepareWrite_ok prepared
    obtain ⟨found, granted⟩ := writableFile_ok writable
    exact ⟨file, found, granted, (checkFileEnd_eq_ok.mp fits).2⟩
  · rintro ⟨file, found, granted, within⟩
    rw [prepareWrite, ensureWritable, writableFile_eq_ok.mpr ⟨found, granted⟩]
    exact congrArg (· >>= fun _ => pure ()) (checkFileEnd_eq_ok.mpr ⟨rfl, within⟩)

theorem preparePwrite_eq_ok {offset length : Nat} {result : Unit} :
    state.preparePwrite fd offset length = .ok result ↔
      ∃ file, state.openFiles.lookup fd = some file ∧
        file.rightsBase &&& Rights.fdWrite ≠ 0 ∧ file.rightsBase &&& Rights.fdSeek ≠ 0 ∧
        offset + length ≤ maxFileBytes := by
  unfold preparePwrite
  cases found : state.openFiles.lookup fd with
  | none => simp
  | some file =>
    dsimp only
    split_ifs with denied
    · rcases denied with write | seek
      · simp [write]
      · simp [seek]
    · obtain ⟨write, seek⟩ := not_or.mp denied
      by_cases within : offset + length ≤ maxFileBytes
      · rw [checkFileEnd_eq_ok.mpr ⟨rfl, within⟩]
        exact iff_of_true rfl ⟨file, rfl, write, seek, within⟩
      · rw [checkFileEnd, if_pos (Nat.not_le.mp within)]
        refine iff_of_false (fun fits => by cases fits) ?_
        rintro ⟨-, -, -, -, fits⟩
        exact within fits

theorem prepareSeek_eq_ok {delta : Int} {whence position : Nat} :
    state.prepareSeek fd delta whence = .ok position ↔
      ∃ file base, state.openFiles.lookup fd = some file ∧
        state.seekBase file whence = some base ∧
        file.rightsBase &&&
          (if whence = whenceCur ∧ delta = 0 then Rights.fdSeek ||| Rights.fdTell
            else Rights.fdSeek) ≠ 0 ∧
        0 ≤ (base : Int) + delta ∧ (base : Int) + delta ≤ maxU64 ∧
        position = ((base : Int) + delta).toNat := by
  unfold prepareSeek
  cases found : state.openFiles.lookup fd with
  | none => simp
  | some file =>
    dsimp only
    cases origin : state.seekBase file whence with
    | none => simp [origin]
    | some base =>
      dsimp only
      generalize (if whence = whenceCur ∧ delta = 0 then Rights.fdSeek ||| Rights.fdTell
        else Rights.fdSeek) = required
      split_ifs with denied negative large
      · simp [origin, denied]
      · simp [origin, negative]
      · simp [origin, large]
      · simp only [Option.some.injEq, exists_and_left, exists_eq_left', origin, ne_eq, denied,
          not_false_eq_true, true_and, Int.not_lt.mp negative, Int.not_lt.mp large,
          Except.ok.injEq, eq_comm]

theorem tell_eq_ok {position : Nat} :
    state.tell fd = .ok position ↔
      ∃ file, state.openFiles.lookup fd = some file ∧
        file.rightsBase &&& (Rights.fdSeek ||| Rights.fdTell) ≠ 0 ∧ position = file.offset := by
  unfold FilesystemState.tell
  cases found : state.openFiles.lookup fd with
  | none => simp
  | some file =>
    dsimp only
    split_ifs with denied
    · simp [denied]
    · simp only [Except.ok.injEq, Option.some.injEq, exists_eq_left', ne_eq, denied,
        not_false_eq_true, true_and, eq_comm]

/-- The number of an open file is neither a stream nor a directory. -/
theorem Separate.isFile (separate : Separate state)
    (found : state.openFiles.lookup fd = some file) : state.isKnownNonFile fd = false := by
  obtain ⟨dynamic, noDirectory⟩ := separate.files fd file found
  have noPreopen : state.hasPreopen fd = false := by
    by_contra preopened
    rw [(separate.preopens fd (by simpa using preopened)).2.1] at found
    cases found
  have notStream : ¬ fd ≤ 2 := by
    simp only [firstDynamicFd] at dynamic
    omega
  simp [isKnownNonFile, notStream, noPreopen, noDirectory]

end Queries

/-! ## Calls -/

namespace Callbacks

section Returning

variable {config : Config} {host : Host} {memory : LinearMemory}

/-- The action has a result, whatever it leaves. -/
abbrev Succeeds {σ ε α : Type} (action : Action σ ε α) (state : σ) : Prop :=
  Returns (fun _ _ => True) action state

theorem onFilesystem_succeeds {α ε : Type} {convert : ε → Failure}
    {action : Action FilesystemState ε α} :
    Succeeds (Callback.onFilesystem convert action) host ↔
      Succeeds action host.state.filesystem :=
  returns_zoom ..

/-- The rest of a call returns with one of the values that the query can have. -/
theorem report_returns (lends : host.Lends memory) {address width value : Nat}
    {done : Unit → Host → Prop} (small : address + width < 2 ^ 64) :
    Returns done (Callback.writeChecked address (Callback.leBytes width value)) host ↔
      address + width ≤ memory.bytes.length ∧
        done () (host.rewritten (memory.writeBytes address (Callback.leBytes width value))) := by
  rw [lends.writeChecked_returns (by rwa [Callback.leBytes_length]), Callback.leBytes_length]

theorem fdWrite_returns (lends : host.Lends memory) {fd iovs iovsLen nwritten : Nat}
    (small : nwritten + 4 < 2 ^ 64) :
    Succeeds (fdWrite config fd iovs iovsLen nwritten) host ↔
      Admits.fdWrite host.state.filesystem memory config fd iovs iovsLen nwritten := by
  unfold Succeeds Admits.fdWrite
  by_cases out : fd = 1
  · rw [fdWrite, returns_bind, writeTarget, if_pos out, returns_pure]
    simp only [unless_returns, returns_bind, lends.payload_returns, report_returns lends small,
      commitWrite, returns_modify, Nat.not_lt, out, true_or, and_true]
  by_cases err : fd = 2
  · rw [fdWrite, returns_bind, writeTarget, if_neg out, if_pos err, returns_pure]
    simp only [unless_returns, returns_bind, lends.payload_returns, report_returns lends small,
      commitWrite, returns_modify, Nat.not_lt, err, true_or, or_true, and_true]
  rw [fdWrite, returns_bind, writeTarget, if_neg out, if_neg err, returns_bind, query_returns]
  simp only [returns_pure, unless_returns, returns_bind, lends.payload_returns, query_returns,
    report_returns lends small, Nat.not_lt, out, err, false_or, prepareWrite_eq_ok]
  constructor
  · rintro ⟨-, -, few, usable, -, ⟨file, found, granted, within⟩, inside, -⟩
    rw [gather_length usable.buffers] at within
    exact ⟨few, usable, inside, file, found, granted, within⟩
  · rintro ⟨few, usable, inside, file, found, granted, within⟩
    rw [← gather_length usable.buffers] at within
    have writable : host.state.filesystem.ensureWritable fd = .ok file :=
      writableFile_eq_ok.mpr ⟨found, granted⟩
    refine ⟨file, writable, few, usable, (), ⟨file, found, granted, within⟩, inside, ?_⟩
    apply onFilesystem_succeeds.mpr
    exact Returns.mono (write_meets writable (checkFileEnd_eq_ok.mpr ⟨rfl, within⟩))
      fun _ _ _ => trivial

theorem fdPwrite_returns (lends : host.Lends memory) {fd iovs iovsLen offset nwritten : Nat}
    (small : nwritten + 4 < 2 ^ 64) :
    Succeeds (fdPwrite fd iovs iovsLen offset nwritten) host ↔
      Admits.fdPwrite host.state.filesystem memory fd iovs iovsLen offset nwritten := by
  unfold Succeeds Admits.fdPwrite
  rw [fdPwrite]
  simp only [unless_returns, returns_bind, lends.payload_returns, query_returns,
    report_returns lends small, Nat.not_lt, preparePwrite_eq_ok]
  constructor
  · rintro ⟨few, usable, -, ⟨file, found, writes, seeks, within⟩, inside, -⟩
    rw [gather_length usable.buffers] at within
    exact ⟨few, usable, inside, file, found, writes, seeks, within⟩
  · rintro ⟨few, usable, inside, file, found, writes, seeks, within⟩
    rw [← gather_length usable.buffers] at within
    refine ⟨few, usable, (), ⟨file, found, writes, seeks, within⟩, inside, ?_⟩
    apply onFilesystem_succeeds.mpr
    exact Returns.mono
      (pwrite_meets (preparePwrite_eq_ok.mpr ⟨file, found, writes, seeks, within⟩) found)
      fun _ _ _ => trivial

/-- Bytes that fit into the buffers are delivered and counted. -/
theorem deliver_returns (lends : host.Lends memory) {buffers : List Buffer}
    {bytes : List UInt8} {nread : Nat} {done : Nat → Unit → Host → Prop}
    (ends : ∀ buffer ∈ buffers, buffer.1 + buffer.2 < 2 ^ 64)
    (fits : Fitting memory.bytes buffers) (short : capacity buffers < 256 ^ 4)
    (within : bytes.length ≤ capacity buffers) (small : nread + 4 < 2 ^ 64)
    (inside : nread + 4 ≤ memory.bytes.length)
    (finishes : ∀ after : LinearMemory, done bytes.length () (host.rewritten after)) :
    Returns
      (fun copied after =>
        Returns (done copied) (Callback.writeMemory nread (Callback.leBytes 4 copied)) after)
      (Callback.scatter buffers bytes 0) host := by
  apply deliver_meets lends.found short within
  · exact fun buffer member => lends.covers (ends buffer member) (fits buffer member)
  · exact lends.covers small inside
  · intro delivered after _ _
    exact finishes after

theorem iovecs_lt {iovs count : Nat} {buffer : Buffer}
    (member : buffer ∈ iovecs memory iovs count) :
    buffer.1 + buffer.2 < 2 ^ 64 := by
  have from_index (count index : Nat) (member : buffer ∈ iovecsFrom memory iovs count index) :
      buffer.1 + buffer.2 < 2 ^ 64 := by
    induction count generalizing index with
    | zero => cases member
    | succ count ih =>
      rcases List.mem_cons.mp member with rfl | later
      · exact iovecAt_lt
      · exact ih _ later
  exact from_index count 0 member

theorem fdRead_returns (lends : host.Lends memory) {fd iovs iovsLen nread : Nat}
    (small : nread + 4 < 2 ^ 64) :
    Succeeds (fdRead config fd iovs iovsLen nread) host ↔
      Admits.fdRead host.state.filesystem memory config fd iovs iovsLen nread := by
  unfold Succeeds Admits.fdRead
  by_cases stdin : fd = 0
  · rw [fdRead, returns_bind, readSource, if_pos stdin, returns_pure]
    simp only [unless_returns, returns_bind, lends.destinations_returns,
      lends.preflight_returns small, peekSource, returns_ask, Nat.not_lt, stdin, true_or, and_true]
    constructor
    · rintro ⟨few, usable, inside, -⟩
      exact ⟨few, usable, inside⟩
    · rintro ⟨few, usable, inside⟩
      refine ⟨few, usable, inside, ?_⟩
      exact deliver_returns lends (fun _ => iovecs_lt) usable.buffers usable.short
        (sliceAt_length_le ..) small inside fun _ => trivial
  rw [fdRead, returns_bind, readSource, if_neg stdin, returns_bind, query_returns]
  simp only [returns_pure, unless_returns, returns_bind, lends.destinations_returns,
    lends.preflight_returns small, peekSource, query_returns, Nat.not_lt, stdin, false_or]
  constructor
  · rintro ⟨file, readable, few, usable, inside, -⟩
    exact ⟨few, usable, inside, file, readableFile_eq_ok.mp readable⟩
  · rintro ⟨few, usable, inside, file, granted⟩
    have readable : host.state.filesystem.ensureReadable fd = .ok file :=
      readableFile_eq_ok.mpr granted
    refine ⟨file, readable, few, usable, inside,
      sliceAt (host.state.filesystem.bytes.get file.bytes) file.offset
        (capacity (iovecs memory iovs iovsLen)), ?_, ?_⟩
    · rw [FilesystemState.peek, readable]
      rfl
    · apply deliver_returns lends (fun _ => iovecs_lt) usable.buffers usable.short
        (sliceAt_length_le ..) small inside
      intro after
      apply onFilesystem_succeeds.mpr
      exact Returns.mono (advance_meets readable) fun _ _ _ => trivial

theorem fdPread_returns (lends : host.Lends memory) {fd iovs iovsLen offset nread : Nat}
    (small : nread + 4 < 2 ^ 64) :
    Succeeds (fdPread config fd iovs iovsLen offset nread) host ↔
      Admits.fdPread host.state.filesystem memory config fd iovs iovsLen nread := by
  unfold Succeeds Admits.fdPread
  rw [fdPread, returns_bind, query_returns]
  simp only [unless_returns, returns_bind, lends.destinations_returns,
    lends.preflight_returns small, query_returns, Nat.not_lt]
  constructor
  · rintro ⟨file, readable, few, usable, inside, -⟩
    exact ⟨few, usable, inside, file, readableFile_eq_ok.mp readable⟩
  · rintro ⟨few, usable, inside, file, granted⟩
    have readable : host.state.filesystem.ensurePreadable fd = .ok file :=
      readableFile_eq_ok.mpr granted
    refine ⟨file, readable, few, usable, inside,
      sliceAt (host.state.filesystem.bytes.get file.bytes) offset
        (capacity (iovecs memory iovs iovsLen)), ?_, ?_⟩
    · rw [FilesystemState.pread, readable]
      rfl
    · exact deliver_returns lends (fun _ => iovecs_lt) usable.buffers usable.short
        (sliceAt_length_le ..) small inside fun _ => trivial

/-! ## Positions and sizes -/

/-- A change of the length of a file. -/
theorem resizeFile_succeeds {state : FilesystemState} {fd start length : Nat} {required : Rights}
    {change : List UInt8 → Nat → List UInt8} :
    Succeeds (FilesystemState.resizeFile fd required start length change) state ↔
      ∃ file, state.openFiles.lookup fd = some file ∧ file.rightsBase &&& required ≠ 0 ∧
        start + length ≤ maxFileBytes := by
  unfold Succeeds FilesystemState.resizeFile
  simp only [returns_bind, returns_consult, writableFile_eq_ok, checkFileEnd_eq_ok,
    returns_modify, and_true, and_assoc, exists_eq_left]

theorem setFlags_succeeds {state : FilesystemState} {fd : Nat} {flags : BitVec 16} :
    Succeeds (FilesystemState.setFlags fd flags) state ↔
      flags &&& ~~~fdflagsAppend = 0 ∧
        ∃ file, state.openFiles.lookup fd = some file ∧
          file.rightsBase &&& Rights.fdFdstatSetFlags ≠ 0 := by
  unfold Succeeds FilesystemState.setFlags
  rw [returns_bind, returns_ask]
  cases found : state.openFiles.lookup fd with
  | none => simp [found]
  | some file =>
    simp only [id_eq, found, returns_unless, returns_modify, and_true, Option.some.injEq,
      exists_eq_left', ne_eq, not_not]
    exact and_comm

variable (separate : Separate host.state.filesystem)

include separate

/-- Only an open file passes the check that the number is no other descriptor. -/
theorem onFile_returns {fd : Nat} {next : Callback Unit} {condition : OpenFile → Prop}
    (returns : Succeeds next host ↔
      ∃ file, host.state.filesystem.openFiles.lookup fd = some file ∧ condition file) :
    Succeeds
        (do
          if ← Callback.askFilesystem (·.isKnownNonFile fd) then Callback.failWith .notcapable
          else next) host ↔
      ∃ file, host.state.filesystem.openFiles.lookup fd = some file ∧ condition file := by
  unfold Succeeds Callback.askFilesystem
  rw [returns_bind, returns_ask, unless_returns]
  constructor
  · exact fun both => returns.mp both.2
  · rintro ⟨file, found, holds⟩
    exact ⟨by simp [separate.isFile found], returns.mpr ⟨file, found, holds⟩⟩

theorem fdSeek_returns (lends : host.Lends memory) {fd whence newoffset : Nat} {delta : Int}
    (small : newoffset + 8 < 2 ^ 64) :
    Succeeds (fdSeek fd delta whence newoffset) host ↔
      Admits.fdSeek host.state.filesystem memory fd delta whence newoffset := by
  unfold Succeeds Admits.fdSeek fdSeek Callback.askFilesystem
  simp only [returns_bind, returns_ask, unless_returns, query_returns,
    report_returns lends small, prepareSeek_eq_ok]
  constructor
  · rintro ⟨-, position, ⟨file, base, found, origin, granted, least, most, -⟩, inside, -⟩
    exact ⟨inside, file, base, found, origin, granted, least, most⟩
  · rintro ⟨inside, file, base, found, origin, granted, least, most⟩
    refine ⟨by simp [separate.isFile found], _,
      ⟨file, base, found, origin, granted, least, most, rfl⟩, inside, ?_⟩
    unfold Callback.onFilesystem
    rw [returns_zoom]
    apply Returns.mono (commitSeek_meets found)
    rintro committed after ⟨rfl, -⟩
    exact trivial

theorem fdTell_returns (lends : host.Lends memory) {fd offset : Nat}
    (small : offset + 8 < 2 ^ 64) :
    Succeeds (fdTell fd offset) host ↔
      Admits.fdTell host.state.filesystem memory fd offset := by
  unfold Succeeds Admits.fdTell fdTell Callback.askFilesystem
  simp only [returns_bind, returns_ask, unless_returns, query_returns,
    report_returns lends small, tell_eq_ok]
  constructor
  · rintro ⟨-, position, ⟨file, found, granted, -⟩, inside, -⟩
    exact ⟨inside, file, found, granted⟩
  · rintro ⟨inside, file, found, granted⟩
    exact ⟨by simp [separate.isFile found], _, ⟨file, found, granted, rfl⟩, inside, trivial⟩

theorem fdFilestatSetSize_returns {fd size : Nat} :
    Succeeds (fdFilestatSetSize fd size) host ↔
      Admits.fdFilestatSetSize host.state.filesystem fd size := by
  refine onFile_returns separate ?_
  rw [onFilesystem_succeeds, FilesystemState.setSize, resizeFile_succeeds, Nat.zero_add]

theorem fdAllocate_returns {fd offset length : Nat} :
    Succeeds (fdAllocate fd offset length) host ↔
      Admits.fdAllocate host.state.filesystem fd offset length := by
  refine onFile_returns separate ?_
  rw [onFilesystem_succeeds, FilesystemState.allocate, resizeFile_succeeds]

theorem fdFdstatSetFlags_returns {fd flags : Nat} :
    Succeeds (fdFdstatSetFlags fd flags) host ↔
      Admits.fdFdstatSetFlags host.state.filesystem fd flags := by
  unfold Succeeds Admits.fdFdstatSetFlags fdFdstatSetFlags Callback.askFilesystem
  rw [returns_bind, returns_ask, unless_returns, unless_returns, Nat.not_le]
  constructor
  · rintro ⟨-, small, changes⟩
    exact ⟨small, setFlags_succeeds.mp (onFilesystem_succeeds.mp changes)⟩
  · rintro ⟨small, known, file, found, granted⟩
    refine ⟨by simp [separate.isFile found], small, ?_⟩
    exact onFilesystem_succeeds.mpr (setFlags_succeeds.mpr ⟨known, file, found, granted⟩)

end Returning

end Callbacks

/-! ## Opening -/

/-- The flags and rights that an open accepts. -/
structure OpenFlags (dirFlags openFlags : BitVec 32) (rightsBase inheriting : Rights)
    (fdFlags : Nat) : Prop where
  lookup : dirFlags = 0
  known : openFlags &&&
    ~~~(oflagsCreat ||| oflagsDirectory ||| oflagsExcl ||| oflagsTrunc) = 0
  described : fdFlags < 2 ^ 16 ∧ BitVec.ofNat 16 fdFlags &&& ~~~fdflagsAppend = 0
  directory : openFlags &&& oflagsDirectory ≠ 0 →
    openFlags &&& oflagsCreat = 0 ∧ openFlags &&& oflagsExcl = 0 ∧ openFlags &&& oflagsTrunc = 0
  within : rightsBase.Within
    (if openFlags &&& oflagsDirectory ≠ 0 then Rights.allowedDirectoryBase
      else Rights.allowedFileBase)
  noInheriting : inheriting = 0
  truncates : openFlags &&& oflagsTrunc ≠ 0 → rightsBase &&& Rights.fdWrite ≠ 0

/-- What such an open asks for. -/
def openRequest (openFlags : BitVec 32) (rightsBase : Rights) (fdFlags : Nat) :
    Callbacks.OpenRequest where
  directory := openFlags &&& oflagsDirectory ≠ 0
  rightsBase := rightsBase
  fdFlags := BitVec.ofNat 16 fdFlags
  options :=
    { create := openFlags &&& oflagsCreat ≠ 0
      exclusive := openFlags &&& oflagsExcl ≠ 0
      truncate := openFlags &&& oflagsTrunc ≠ 0
      descriptorFlags := BitVec.ofNat 16 fdFlags }

namespace FilesystemState

variable (state : FilesystemState)

/-- Another descriptor may be opened. -/
def HasRoom : Prop :=
  state.openFiles.keys.length + state.openDirectories.keys.length < maxOpenFiles

/-- The path names a directory, and the rights that are asked for are among those of the
descriptor that it is looked up from. -/
def OpensDirectory (dirFd : Nat) (path : Path) (rightsBase : Rights) : Prop :=
  ∃ location rights,
    state.resolveDirectoryPath dirFd path Rights.pathOpen = .ok (location, rights) ∧
      rightsBase.Within rights ∧ state.fileAt location = none ∧
      state.symlinkAt location = none ∧ (state.directoryAt location).isSome ∧
      (state.directoryInode location.parent).isSome ∧ state.HasRoom

/-- The path names a file, or nothing where a file can be made. -/
def OpensFile (dirFd : Nat) (path : Path) (rightsBase : Rights) (options : OpenOptions) : Prop :=
  ∃ location rights,
    state.resolveDirectoryPath dirFd path Rights.pathOpen = .ok (location, rights) ∧
      (options.create → rights &&& Rights.pathCreateFile ≠ 0) ∧ state.HasRoom ∧
      state.directoryAt location = none ∧ state.symlinkAt location = none ∧
      (options.truncate → rightsBase &&& Rights.fdWrite ≠ 0) ∧
      ((∃ file, state.fileAt location = some file ∧ options.exclusive = false ∧
          (rightsBase &&& Rights.mutation ≠ 0 ∨ options.truncate →
            file.writable ∧ state.isWritablePreopen location.preopenFd)) ∨
        (state.fileAt location = none ∧ options.create ∧
          state.isWritablePreopen location.preopenFd ∧
          state.namespaceEntryCount < maxMountedFiles ∧
          state.parentDirectoryExists location ∧ state.nextInode < maxU64))

end FilesystemState

namespace Admits

def pathOpen (files : FilesystemState) (memory : LinearMemory) (dirFd : Nat)
    (dirFlags : BitVec 32) (pathPtr pathLen : Nat) (openFlags : BitVec 32)
    (rightsBase inheriting : Rights) (fdFlags openedFd : Nat) : Prop :=
  OpenFlags dirFlags openFlags rightsBase inheriting fdFlags ∧
    openedFd + 4 ≤ memory.bytes.length ∧
    ∃ path, pathArgument (some memory) pathPtr pathLen = some path ∧
      let request := openRequest openFlags rightsBase fdFlags
      if request.directory then
        request.fdFlags = 0 ∧ files.OpensDirectory dirFd path rightsBase
      else files.OpensFile dirFd path rightsBase request.options

end Admits

section Opening

variable {state : FilesystemState}

theorem allocateDynamicFd_iff (listed : state.tables.Listed) :
    (∃ fd, state.allocateDynamicFd = .ok fd) ↔ state.HasRoom := by
  have result := allocateDynamicFd_eq listed
  unfold HasRoom
  split_ifs at result with full
  · refine iff_of_false ?_ (Nat.not_lt.mpr full)
    rintro ⟨fd, allocated⟩
    rw [result] at allocated
    cases allocated
  · obtain ⟨fd, allocated, -⟩ := result
    exact iff_of_true ⟨fd, allocated⟩ (Nat.lt_of_not_le full)

theorem resolve_returns {ε : Type} {fd : Nat} {path : Path} {required : Rights}
    {convert : ResolveDirectoryError → ε} {done : Location × Rights → FilesystemState → Prop} :
    Returns done (resolve fd path required convert) state ↔
      ∃ location rights, state.resolveDirectoryPath fd path required = .ok (location, rights) ∧
        done (location, rights) state := by
  rw [resolve, returns_consult_mapError, Prod.exists]

variable {dirFd : Nat} {path : Path} {rightsBase : Rights} {options : OpenOptions}

theorem openDirectory_succeeds (listed : state.tables.Listed) :
    Callbacks.Succeeds (FilesystemState.openDirectory dirFd path rightsBase) state ↔
      state.OpensDirectory dirFd path rightsBase := by
  unfold Callbacks.Succeeds FilesystemState.openDirectory OpensDirectory
  rw [returns_bind, resolve_returns]
  apply exists_congr
  intro location
  apply exists_congr
  intro rights
  apply and_congr_right
  intro _
  dsimp only
  rw [returns_unless, not_not]
  apply and_congr_right
  intro _
  rw [returns_bind, returns_ask, id_eq, returns_unless, not_or, Bool.not_eq_true,
    Option.isSome_eq_false_iff, Option.isNone_iff_eq_none, Bool.not_eq_true,
    Option.isSome_eq_false_iff, Option.isNone_iff_eq_none, and_assoc]
  apply and_congr_right
  intro _
  apply and_congr_right
  intro _
  cases state.directoryAt location with
  | none => simp
  | some directory =>
    cases state.directoryInode location.parent with
    | none => simp
    | some parentInode =>
      simp only [returns_bind, returns_consult, returns_modify, returns_pure, and_true,
        allocateDynamicFd_iff listed, Option.isSome_some, true_and]

theorem refuse_returns {α : Type} {created : Bool} {done : α → FilesystemState → Prop}
    {condition : Prop} [Decidable condition] {next : Action FilesystemState OpenError α} :
    Returns done (if condition then FilesystemState.refuseOpen created else next) state ↔
      ¬ condition ∧ Returns done next state := by
  have refuses : ¬ Returns done (FilesystemState.refuseOpen created) state := by
    cases created with
    | false => exact id
    | true => exact id
  split_ifs with holds
  · exact iff_of_false refuses fun both => both.1 holds
  · exact (and_iff_right holds).symm

theorem grantFile_succeeds {location : Location} {candidate : Nat} {file : MountedFile}
    {created : Bool} :
    Callbacks.Succeeds
        (FilesystemState.grantFile location rightsBase options candidate file created) state ↔
      (options.truncate → rightsBase &&& Rights.fdWrite ≠ 0) ∧
        (rightsBase &&& Rights.mutation ≠ 0 ∨ options.truncate →
          file.writable ∧ state.isWritablePreopen location.preopenFd) := by
  unfold Callbacks.Succeeds FilesystemState.grantFile
  simp only [returns_bind, returns_ask, id_eq, refuse_returns, returns_modify, returns_pure,
    and_true]
  by_cases mutates : rightsBase &&& Rights.mutation ≠ 0
  · tauto
  · tauto

theorem createFile_returns {location : Location} {create : Bool}
    {done : MountedFile → FilesystemState → Prop} :
    Returns done (FilesystemState.createFile location create) state ↔
      (create ∧ state.isWritablePreopen location.preopenFd ∧
        state.namespaceEntryCount < maxMountedFiles ∧ state.parentDirectoryExists location ∧
        state.nextInode < maxU64) ∧
        done (state.freshFile location)
          { state.withFreshCells with
            mountedFiles := state.mountedFiles ++ [state.freshFile location] } := by
  unfold FilesystemState.createFile
  simp only [returns_bind, returns_ask, id_eq, returns_unless, not_not, Nat.not_le,
    returns_modify, returns_pure, and_assoc]
  rfl

theorem openFile_succeeds (listed : state.tables.Listed) :
    Callbacks.Succeeds (FilesystemState.openFile dirFd path rightsBase options) state ↔
      state.OpensFile dirFd path rightsBase options := by
  unfold Callbacks.Succeeds FilesystemState.openFile OpensFile
  rw [returns_bind, resolve_returns]
  apply exists_congr
  intro location
  apply exists_congr
  intro rights
  apply and_congr_right
  intro _
  dsimp only
  rw [returns_unless]
  apply and_congr
  · exact not_and
  rw [returns_bind, returns_consult, ← allocateDynamicFd_iff listed, ← exists_and_right]
  apply exists_congr
  intro candidate
  apply and_congr_right
  intro _
  rw [returns_bind, returns_ask, id_eq, returns_unless, returns_unless, Bool.not_eq_true,
    Option.isSome_eq_false_iff, Option.isNone_iff_eq_none, Bool.not_eq_true,
    Option.isSome_eq_false_iff, Option.isNone_iff_eq_none]
  apply and_congr_right
  intro _
  apply and_congr_right
  intro _
  unfold FilesystemState.entryToOpen
  rw [returns_bind, returns_bind, returns_ask, id_eq]
  cases found : state.fileAt location with
  | some file =>
    simp only [returns_unless, returns_pure, Bool.not_eq_true, Option.some.injEq,
      exists_eq_left', reduceCtorEq, false_and, or_false]
    exact (and_congr_right fun _ => grantFile_succeeds).trans and_left_comm
  | none =>
    simp only [returns_bind, createFile_returns, returns_pure, reduceCtorEq, false_and,
      exists_false, false_or, true_and]
    constructor
    · rintro ⟨creates, grants⟩
      exact ⟨(grantFile_succeeds.mp grants).1, creates⟩
    · rintro ⟨truncates, creates⟩
      exact ⟨creates, grantFile_succeeds.mpr ⟨truncates, fun _ => ⟨rfl, creates.2.1⟩⟩⟩

/-! ### The call -/

namespace Callbacks

variable {host : Host} {memory : LinearMemory}

theorem checkOpen_returns {dirFlags openFlags : BitVec 32} {rightsBase inheriting : Rights}
    {fdFlags : Nat} {done : OpenRequest → Host → Prop} :
    Returns done (checkOpen dirFlags openFlags rightsBase inheriting fdFlags) host ↔
      OpenFlags dirFlags openFlags rightsBase inheriting fdFlags ∧
        done (openRequest openFlags rightsBase fdFlags) host := by
  unfold checkOpen
  simp only [unless_returns, returns_pure, decide_eq_true_eq, not_or, not_not, not_and, not_le]
  constructor
  · rintro ⟨⟨lookup, known⟩, described, directory, ⟨within, noInheriting⟩, truncates, opens⟩
    exact ⟨⟨lookup, known, described, directory, within, noInheriting, truncates⟩, opens⟩
  · rintro ⟨accepts, opens⟩
    exact ⟨⟨accepts.lookup, accepts.known⟩, accepts.described, accepts.directory,
      ⟨accepts.within, accepts.noInheriting⟩, accepts.truncates, opens⟩

theorem pathArgument_eq_some {pathPtr pathLen : Nat} {path : Path}
    (small : pathPtr + pathLen < 2 ^ 64) :
    pathArgument (some memory) pathPtr pathLen = some path ↔
      ¬ maxRelativePathBytes < pathLen ∧ pathPtr + pathLen ≤ memory.bytes.length ∧
        validateGuestPath path = .ok () ∧ memory.readBytes pathPtr pathLen = path := by
  unfold pathArgument
  rw [Option.bind_some]
  by_cases inside : pathPtr + pathLen ≤ memory.bytes.length
  · rw [checkedHostRange_of_le small inside]
    dsimp only
    split_ifs with refused
    · refine iff_of_false (by simp) ?_
      rintro ⟨short, -, valid, rfl⟩
      exact refused.elim short fun invalid => invalid valid
    · rw [not_or, not_not] at refused
      rw [Option.some.injEq]
      constructor
      · rintro rfl
        exact ⟨refused.1, inside, refused.2, rfl⟩
      · exact fun accepted => accepted.2.2.2
  · cases outcome : memory.checkedHostRange pathPtr pathLen with
    | error err => exact iff_of_false (by simp) fun accepted => inside accepted.2.1
    | ok start => exact (inside ((checkedHostRange_eq_ok small).mp outcome).2).elim

theorem readPath_returns (lends : host.Lends memory) {pathPtr pathLen : Nat}
    {done : Path → Host → Prop} (small : pathPtr + pathLen < 2 ^ 64) :
    Returns done (Callback.readPath pathPtr pathLen) host ↔
      ∃ path, pathArgument (some memory) pathPtr pathLen = some path ∧ done path host := by
  unfold Callback.readPath
  rw [unless_returns, returns_bind, lends.readMemory_returns small]
  simp only [returns_bind, returns_consult_mapError, returns_pure, pathArgument_eq_some small]
  constructor
  · rintro ⟨short, inside, ⟨⟩, valid, holds⟩
    exact ⟨_, ⟨short, inside, valid, rfl⟩, holds⟩
  · rintro ⟨path, ⟨short, inside, valid, rfl⟩, holds⟩
    exact ⟨short, inside, (), valid, holds⟩

theorem openRequested_succeeds (listed : host.state.filesystem.tables.Listed) {dirFd : Nat}
    {path : Path} {request : OpenRequest} :
    Succeeds (openRequested dirFd path request) host ↔
      if request.directory then
        request.fdFlags = 0 ∧
          host.state.filesystem.OpensDirectory dirFd path request.rightsBase
      else
        host.state.filesystem.OpensFile dirFd path request.rightsBase request.options := by
  unfold openRequested
  split_ifs with directory flags
  · exact iff_of_false id fun both => flags both.1
  · rw [onFilesystem_succeeds, openDirectory_succeeds listed]
    exact (and_iff_right (not_not.mp flags)).symm
  · rw [onFilesystem_succeeds, openFile_succeeds listed]

/-- The number of a new descriptor is reported where that has been checked. -/
theorem reported_succeeds (lends : host.Lends memory) {dirFd openedFd : Nat} {path : Path}
    {request : OpenRequest} (small : openedFd + 4 < 2 ^ 64)
    (inside : openedFd + 4 ≤ memory.bytes.length) :
    Returns (fun opened after => Succeeds (reportOpened dirFd path openedFd opened) after)
        (openRequested dirFd path request) host ↔
      Succeeds (openRequested dirFd path request) host := by
  constructor
  · exact fun reports => reports.mono fun _ _ _ => trivial
  · intro opens
    obtain ⟨opened, result, -⟩ := returns_iff.mp opens
    obtain ⟨-, sameMemory, sameCapabilities⟩ := openRequested_keeps (Prod.ext result rfl)
    refine returns_iff.mpr ⟨opened, result, ?_⟩
    have reports := @reportOpened_result _ dirFd _ path opened _
      (sameCapabilities ▸ lends.mayWrite) (sameMemory.trans lends.found)
      (checkedHostRange_of_le small inside)
    exact returns_iff.mpr ⟨(), congrArg Prod.fst reports, trivial⟩

theorem resolved_directory {fd : Nat} {path : Path} {required : Rights}
    {found : Location × Rights}
    (resolved : state.resolveDirectoryPath fd path required = .ok found) :
    state.hasDirectoryDescriptor fd = true := by
  unfold resolveDirectoryPath directoryContext at resolved
  unfold hasDirectoryDescriptor
  by_cases preopened : state.hasPreopen fd = true
  · rw [preopened, Bool.true_or]
  · rw [if_neg preopened] at resolved
    cases lookup : state.openDirectories.lookup fd with
    | none => simp [lookup] at resolved
    | some directory => simp

theorem pathOpen_returns (lends : host.Lends memory)
    (listed : host.state.filesystem.tables.Listed) {dirFd pathPtr pathLen fdFlags openedFd : Nat}
    {dirFlags openFlags : BitVec 32} {rightsBase inheriting : Rights}
    (pathSmall : pathPtr + pathLen < 2 ^ 64) (small : openedFd + 4 < 2 ^ 64) :
    Succeeds
        (pathOpen dirFd dirFlags pathPtr pathLen openFlags rightsBase inheriting fdFlags openedFd)
        host ↔
      Admits.pathOpen host.state.filesystem memory dirFd dirFlags pathPtr pathLen openFlags
        rightsBase inheriting fdFlags openedFd := by
  unfold Succeeds pathOpen Admits.pathOpen Callback.askFilesystem
  rw [returns_bind, returns_ask, unless_returns, not_not, returns_bind, checkOpen_returns,
    returns_bind, readPath_returns lends pathSmall]
  simp only [returns_bind, lends.preflight_returns small]
  constructor
  · rintro ⟨-, accepts, path, named, inside, opens⟩
    refine ⟨accepts, inside, path, named, ?_⟩
    exact (openRequested_succeeds listed).mp ((reported_succeeds lends small inside).mp opens)
  · rintro ⟨accepts, inside, path, named, opens⟩
    refine ⟨?_, accepts, path, named, inside, (reported_succeeds lends small inside).mpr
      ((openRequested_succeeds listed).mpr opens)⟩
    split_ifs at opens
    · obtain ⟨-, location, rights, resolved, -⟩ := opens
      exact resolved_directory resolved
    · obtain ⟨location, rights, resolved, -⟩ := opens
      exact resolved_directory resolved

end Callbacks

end Opening

/-! ## Requests -/

/-- A call on files; the buffers of a read do not overlap. -/
def Request.OnFiles (request : Request) : Prop :=
  match request.call with
  | .fdRead _ iovs iovsLen _ | .fdPread _ iovs iovsLen _ _ =>
      ∀ memory, request.memory = some memory → Apart (iovecs memory iovs.toNat iovsLen.toNat)
  | .fdWrite .. | .fdPwrite .. | .fdSeek .. | .fdTell .. | .fdFilestatSetSize ..
  | .fdAllocate .. | .fdFdstatSetFlags .. | .pathOpen .. => True
  | _ => False

/-- When a call on files succeeds. -/
def Request.Admissible (config : Config) (state : WasiState) (request : Request) : Prop :=
  let files := state.filesystem
  let lent (admits : LinearMemory → Prop) : Prop :=
    ∃ memory, request.memory = some memory ∧ admits memory
  match request.call with
  | .fdWrite fd iovs iovsLen nwritten =>
      lent fun memory =>
        Admits.fdWrite files memory config fd.toNat iovs.toNat iovsLen.toNat nwritten.toNat
  | .fdPwrite fd iovs iovsLen offset nwritten =>
      lent fun memory =>
        Admits.fdPwrite files memory fd.toNat iovs.toNat iovsLen.toNat offset.toNat nwritten.toNat
  | .fdRead fd iovs iovsLen nread =>
      lent fun memory =>
        Admits.fdRead files memory config fd.toNat iovs.toNat iovsLen.toNat nread.toNat
  | .fdPread fd iovs iovsLen _ nread =>
      lent fun memory =>
        Admits.fdPread files memory config fd.toNat iovs.toNat iovsLen.toNat nread.toNat
  | .fdSeek fd offset whence newoffset =>
      lent fun memory =>
        Admits.fdSeek files memory fd.toNat offset.toInt whence.toNat newoffset.toNat
  | .fdTell fd offset => lent fun memory => Admits.fdTell files memory fd.toNat offset.toNat
  | .fdFilestatSetSize fd size => Admits.fdFilestatSetSize files fd.toNat size.toNat
  | .fdAllocate fd offset length => Admits.fdAllocate files fd.toNat offset.toNat length.toNat
  | .fdFdstatSetFlags fd flags => Admits.fdFdstatSetFlags files fd.toNat flags.toNat
  | .pathOpen dirFd dirFlags path pathLen openFlags rightsBase rightsInheriting fdFlags openedFd =>
      lent fun memory =>
        Admits.pathOpen files memory dirFd.toNat dirFlags path.toNat pathLen.toNat openFlags
          rightsBase rightsInheriting fdFlags.toNat openedFd.toNat
  | _ => False

section Answers

variable {config : Config} {state : WasiState} {request : Request}

theorem respond_ok :
    (respond config state request).1 = .ok () ↔
      Callbacks.Succeeds (request.call.run config) (request.host state) := by
  unfold respond Callbacks.Succeeds
  rw [returns_iff]
  exact ⟨fun succeeds => ⟨(), succeeds, trivial⟩, fun ⟨_, succeeds, _⟩ => succeeds⟩

/-- A call that uses the memory of the guest, which need not have one. -/
theorem lent_ok {admits : LinearMemory → Prop} (uses : request.call.capabilities = .readWrite)
    (fails : request.memory = none → Fails (request.call.run config) (request.host state))
    (returns : ∀ memory, (request.host state).Lends memory →
      (Callbacks.Succeeds (request.call.run config) (request.host state) ↔ admits memory)) :
    (respond config state request).1 = .ok () ↔
      ∃ memory, request.memory = some memory ∧ admits memory := by
  cases found : request.memory with
  | none =>
    refine iff_of_false ((fails found).not_ok ()) ?_
    rintro ⟨memory, same, -⟩
    cases same
  | some memory =>
    have lends : (request.host state).Lends memory := by
      refine ⟨?_, ?_, found⟩
      · exact congrArg HostCapabilities.memoryRead uses
      · exact congrArg HostCapabilities.memoryWrite uses
    rw [respond_ok, returns memory lends]
    exact ⟨fun holds => ⟨memory, rfl, holds⟩, fun ⟨_, same, holds⟩ => Option.some.inj same ▸ holds⟩

/-- Calls on files succeed exactly when they are admissible. -/
theorem respond_ok_iff (separate : Separate state.filesystem)
    (listed : state.filesystem.tables.Listed)
    (small : ∀ fd file, state.filesystem.openFiles.lookup fd = some file → file.offset ≤ maxU64)
    (onFiles : request.OnFiles) :
    (respond config state request).1 = .ok () ↔ request.Admissible config state := by
  obtain ⟨memory, call⟩ := request
  have report (pointer : I32) {width : Nat} (short : width ≤ 8) :
      pointer.toNat + width < 2 ^ 64 := by
    have := pointer.isLt
    omega
  have ends (pointer length : I32) : pointer.toNat + length.toNat < 2 ^ 64 := by
    have := pointer.isLt
    have := length.isLt
    omega
  have unlent {lent : LinearMemory} {p : Prop} (missing : memory = none)
      (found : memory = some lent) : p := by
    cases missing.symm.trans found
  cases call with
  | fdWrite =>
    refine lent_ok rfl ?_ fun _ lends => Callbacks.fdWrite_returns lends (report _ (by decide))
    intro missing
    apply Callbacks.fdWrite_meets (fun _ _ => True.intro) rfl
    · exact fun _ _ _ _ found => unlent missing found
    · exact fun _ _ _ _ _ found => unlent missing found
  | fdPwrite =>
    refine lent_ok rfl ?_ fun _ lends => Callbacks.fdPwrite_returns lends (report _ (by decide))
    intro missing
    apply Callbacks.fdPwrite_meets (fun _ _ => True.intro) rfl
    exact fun _ _ _ _ found => unlent missing found
  | fdRead =>
    refine lent_ok rfl ?_ fun _ lends => Callbacks.fdRead_returns lends (report _ (by decide))
    intro missing
    apply Callbacks.fdRead_meets (fun _ _ => True.intro) rfl
    · exact fun _ _ _ _ found => unlent missing found
    · exact fun _ _ _ _ _ _ found => unlent missing found
  | fdPread =>
    refine lent_ok rfl ?_ fun _ lends => Callbacks.fdPread_returns lends (report _ (by decide))
    intro missing
    apply Callbacks.fdPread_meets (fun _ _ => True.intro) rfl
    exact fun _ _ _ _ _ _ found => unlent missing found
  | fdSeek =>
    refine lent_ok rfl ?_ fun _ lends =>
      Callbacks.fdSeek_returns separate lends (report _ (by decide))
    intro missing
    apply Callbacks.fdSeek_meets (fun _ _ => True.intro) rfl
    exact fun _ _ _ _ _ found => unlent missing found
  | fdTell =>
    refine lent_ok rfl ?_ fun _ lends =>
      Callbacks.fdTell_returns separate lends (report _ (by decide))
    intro missing
    apply Callbacks.fdTell_meets (fun _ _ => True.intro) rfl (small _)
    exact fun _ _ _ found => unlent missing found
  | pathOpen =>
    refine lent_ok rfl ?_ fun _ lends =>
      Callbacks.pathOpen_returns lends listed (ends _ _) (report _ (by decide))
    intro missing
    apply (Callbacks.pathOpen_meets rfl).mono (fun _ _ _ => trivial)
    rintro _ after ⟨_, _, _, _, _, -, found, -⟩
    exact unlent missing found
  | fdFilestatSetSize => exact respond_ok.trans (Callbacks.fdFilestatSetSize_returns separate)
  | fdAllocate => exact respond_ok.trans (Callbacks.fdAllocate_returns separate)
  | fdFdstatSetFlags => exact respond_ok.trans (Callbacks.fdFdstatSetFlags_returns separate)
  | _ => exact onFiles.elim

end Answers

end MiniWasm.Wasi
