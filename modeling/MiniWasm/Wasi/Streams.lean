import MiniWasm.Wasi.Inversion
import MiniWasm.Wasi.Transfers

/-!
# Reading and writing open files

What each callback on an open file leaves, to the byte: in guest memory, and in the
filesystem.
-/

namespace MiniWasm.Wasi

open Library Action MiniWasm.Runtime

namespace Host

variable (host : Host)

/-- After the memory and the filesystem have changed. -/
def changed (memory : LinearMemory) (filesystem : FilesystemState) : Host :=
  { host with memory := some memory, state := { host.state with filesystem } }

/-- After only the memory has changed. -/
def rewritten (memory : LinearMemory) : Host :=
  { host with memory := some memory }

end Host

/-- The memory with a number written to it, which has to fit. -/
structure Reports (memory : LinearMemory) (address width value : Nat) (after : LinearMemory) :
    Prop where
  fits : address + width ≤ memory.bytes.length
  small : value < 256 ^ width
  written : after = memory.writeBytes address (Callback.leBytes width value)

/-- The bytes that a vector of buffers holds. -/
structure Gathers (memory : LinearMemory) (buffers : List Buffer) (payload : List UInt8) :
    Prop where
  fits : Fitting memory.bytes buffers
  taken : payload = gather memory.bytes buffers

/-- Bytes that fit into a vector of buffers, and the memory with them. -/
structure Scatters (memory : LinearMemory) (buffers : List Buffer) (bytes : List UInt8)
    (after : LinearMemory) : Prop where
  fits : Fitting memory.bytes buffers
  within : bytes.length ≤ capacity buffers
  written : after = scattered memory buffers bytes

@[simp] theorem Callback.leBytes_length (width value : Nat) :
    (Callback.leBytes width value).length = width := by
  simp [Callback.leBytes]

theorem sliceAt_length_le (bytes : List UInt8) (start maxLen : Nat) :
    (sliceAt bytes start maxLen).length ≤ maxLen := by
  rw [sliceAt, List.length_take]
  exact Nat.min_le_left ..

theorem peek_ok {state : FilesystemState} {fd count : Nat} {file : OpenFile}
    {bytes : List UInt8} (readable : state.ensureReadable fd = .ok file)
    (peeked : state.peek fd count = .ok bytes) :
    bytes = sliceAt (state.bytes.get file.bytes) file.offset count := by
  simp only [FilesystemState.peek, readable, bind, Except.bind] at peeked
  cases peeked
  rfl

theorem pread_ok {state : FilesystemState} {fd offset count : Nat} {file : OpenFile}
    {bytes : List UInt8} (readable : state.ensurePreadable fd = .ok file)
    (read : state.pread fd offset count = .ok bytes) :
    bytes = sliceAt (state.bytes.get file.bytes) offset count := by
  simp only [FilesystemState.pread, readable, bind, Except.bind] at read
  cases read
  rfl

theorem tell_ok {state : FilesystemState} {fd offset : Nat} (told : state.tell fd = .ok offset) :
    ∃ file, state.openFiles.lookup fd = some file ∧ offset = file.offset := by
  unfold FilesystemState.tell at told
  cases found : state.openFiles.lookup fd with
  | none => simp [found] at told
  | some file =>
    rw [found] at told
    dsimp only at told
    split_ifs at told
    cases told
    exact ⟨file, rfl, rfl⟩

theorem Covers.memory {host : Host} {address length : Nat} (covers : Covers host address length) :
    ∃ memory, host.memory = some memory := by
  obtain ⟨-, memory, found, -⟩ := covers
  exact ⟨memory, found⟩

namespace Callbacks

section Rules

variable {config : Config} {host : Host} {failed : Failure → Host → Prop}
  {done : Unit → Host → Prop}

/-- A report, at a number that is small enough. -/
theorem report_meets {address width value : Nat} (denies : Denies failed host)
    (mayWrite : host.capabilities.memoryWrite = true) (small : value < 256 ^ width)
    (reports : ∀ memory after, host.memory = some memory →
      Reports memory address width value after → done () (host.rewritten after)) :
    Meets failed done (Callback.writeChecked address (Callback.leBytes width value)) host := by
  apply writeChecked_writes denies mayWrite
  intro memory found fits
  rw [Callback.leBytes_length] at fits
  exact reports memory _ found ⟨fits, small, rfl⟩

/-- A change that cannot fail, after the memory has been rewritten. -/
theorem commit_changes {α ε : Type} {convert : ε → Failure} {action : Action FilesystemState ε α}
    {memory : LinearMemory} {done : α → Host → Prop}
    (meets : Meets (fun _ _ => False)
      (fun value changed => done value (host.changed memory changed)) action
      host.state.filesystem) :
    Meets failed done (Callback.onFilesystem convert action) (host.rewritten memory) := by
  unfold Callback.onFilesystem
  rw [meets_zoom]
  apply meets.mono
  · intro err changed impossible
    exact impossible.elim
  · intro value changed commits
    exact commits

/-! ## Writing -/

theorem payload_meets {iovs limit iovsLen : Nat} {tooLong : Errno}
    {done : List UInt8 → Host → Prop} (denies : Denies failed host)
    (denied : tooLong ≠ .success)
    (gathers : ∀ payload, payload.length < 256 ^ 4 → (∀ memory, host.memory = some memory →
      Gathers memory (iovecs memory iovs iovsLen) payload) → done payload host) :
    Meets failed done (Callback.gatherPayload iovs limit tooLong iovsLen 0 []) host := by
  apply gatherPayload_meets denies denied _ _ _ (by simp)
  intro payload short taken
  apply gathers payload short
  intro memory found
  obtain ⟨fits, same⟩ := taken memory found
  exact ⟨fits, same⟩

theorem writeTarget_meets {fd : Nat} {done : WriteTarget → Host → Prop}
    (denies : Denies failed host) (stdout : fd = 1 → done .stdout host)
    (stderr : fd ≠ 1 → fd = 2 → done .stderr host)
    (opened : ∀ file, fd ≠ 1 → fd ≠ 2 → host.state.filesystem.ensureWritable fd = .ok file →
      done (.file fd) host) :
    Meets failed done (writeTarget fd) host := by
  simp only [writeTarget, meets_ite, meets_pure, meets_bind]
  refine ⟨stdout, fun notOut => ⟨stderr notOut, fun notErr => ?_⟩⟩
  apply query_meets denies
  · intro err
    cases err <;> decide
  intro file writable
  exact opened file notOut notErr writable

/-- A write to one of the two standard streams keeps the filesystem. -/
theorem fdWrite_meets {fd iovs iovsLen nwritten : Nat} (denies : Denies failed host)
    (mayWrite : host.capabilities.memoryWrite = true)
    (streams : ∀ memory payload after state, host.memory = some memory → fd = 1 ∨ fd = 2 →
      Gathers memory (iovecs memory iovs iovsLen) payload →
      Reports memory nwritten 4 payload.length after →
      state.filesystem = host.state.filesystem → state.preopens = host.state.preopens →
      state.stdin = host.state.stdin → done () { host.rewritten after with state })
    (files : ∀ memory payload after file stop, host.memory = some memory → fd ≠ 1 → fd ≠ 2 →
      Gathers memory (iovecs memory iovs iovsLen) payload →
      Reports memory nwritten 4 payload.length after →
      host.state.filesystem.ensureWritable fd = .ok file →
      FilesystemState.checkFileEnd (host.state.filesystem.writeStart file) payload.length =
        .ok stop →
      done () (host.changed after (host.state.filesystem.written fd file payload))) :
    Meets failed done (fdWrite config fd iovs iovsLen nwritten) host := by
  simp only [fdWrite, meets_bind]
  apply writeTarget_meets denies
  case stdout =>
    intro one
    simp only [meets_ite, meets_bind]
    refine ⟨fun _ => failWith_meets denies (by decide), fun _ => ?_⟩
    apply payload_meets denies (by decide)
    intro payload short taken
    apply report_meets denies mayWrite short
    intro memory after found reports
    exact streams memory payload after _ found (.inl one) (taken memory found) reports rfl rfl rfl
  case stderr =>
    intro _ two
    simp only [meets_ite, meets_bind]
    refine ⟨fun _ => failWith_meets denies (by decide), fun _ => ?_⟩
    apply payload_meets denies (by decide)
    intro payload short taken
    apply report_meets denies mayWrite short
    intro memory after found reports
    exact streams memory payload after _ found (.inr two) (taken memory found) reports rfl rfl rfl
  case opened =>
    intro file notOne notTwo writable
    simp only [meets_ite, meets_bind]
    refine ⟨fun _ => failWith_meets denies (by decide), fun _ => ?_⟩
    apply payload_meets denies (by decide)
    intro payload short taken
    apply query_meets denies
    · intro err
      cases err <;> decide
    intro _ prepared
    obtain ⟨other, stop, sameFile, fits⟩ := prepareWrite_ok prepared
    cases writable.symm.trans sameFile
    apply report_meets denies mayWrite short
    intro memory after found reports
    apply commit_changes
    apply (write_meets writable fits).mono (fun _ _ impossible => impossible)
    rintro _ changed rfl
    exact files memory payload after file stop found notOne notTwo (taken memory found) reports
      writable fits

theorem fdPwrite_meets {fd iovs iovsLen offset nwritten : Nat} (denies : Denies failed host)
    (mayWrite : host.capabilities.memoryWrite = true)
    (files : ∀ memory payload after file, host.memory = some memory →
      Gathers memory (iovecs memory iovs iovsLen) payload →
      Reports memory nwritten 4 payload.length after →
      host.state.filesystem.openFiles.lookup fd = some file →
      host.state.filesystem.preparePwrite fd offset payload.length = .ok () →
      done () (host.changed after (host.state.filesystem.pwritten file offset payload))) :
    Meets failed done (fdPwrite fd iovs iovsLen offset nwritten) host := by
  simp only [fdPwrite, meets_ite, meets_bind]
  refine ⟨fun _ => failWith_meets denies (by decide), fun _ => ?_⟩
  apply payload_meets denies (by decide)
  intro payload short taken
  apply query_meets denies
  · intro err
    cases err <;> decide
  intro _ prepared
  obtain ⟨file, lookup, -, -⟩ := preparePwrite_ok prepared
  apply report_meets denies mayWrite short
  intro memory after found reports
  apply commit_changes
  apply (pwrite_meets prepared lookup).mono (fun _ _ impossible => impossible)
  rintro _ changed rfl
  exact files memory payload after file found (taken memory found) reports lookup prepared

/-! ## Reading -/

theorem destinations_meets {iovs limit iovsLen : Nat}
    {done : List (Nat × Nat) × Nat → Host → Prop} (denies : Denies failed host)
    (mayWrite : host.capabilities.memoryWrite = true)
    (gathers : ∀ buffers total, total < 256 ^ 4 →
      (∀ buffer ∈ buffers, Covers host buffer.1 buffer.2) →
      (∀ memory, host.memory = some memory →
        buffers = iovecs memory iovs iovsLen ∧ total = capacity buffers) →
      done (buffers, total) host) :
    Meets failed done (Callback.gatherDestinations iovs limit iovsLen 0 [] 0) host := by
  apply gatherDestinations_meets denies mayWrite _ _ _ _ (by decide) (by simp)
  intro buffers total short covered gathered
  apply gathers buffers total short covered
  intro memory found
  obtain ⟨rfl, rfl⟩ := gathered memory found
  exact ⟨rfl, Nat.zero_add _⟩

/-- The bytes go into the buffers and their number into the report. -/
theorem deliver_meets {buffers : List Buffer} {bytes : List UInt8} {nread : Nat}
    {done : Nat → Unit → Host → Prop} {memory : LinearMemory} (found : host.memory = some memory)
    (short : capacity buffers < 256 ^ 4) (within : bytes.length ≤ capacity buffers)
    (covered : ∀ buffer ∈ buffers, Covers host buffer.1 buffer.2)
    (counted : Covers host nread 4)
    (delivers : ∀ delivered after, Scatters memory buffers bytes delivered →
      Reports delivered nread 4 bytes.length after →
      done bytes.length () (host.rewritten after)) :
    Meets failed
      (fun copied after =>
        Meets failed (done copied) (Callback.writeMemory nread (Callback.leBytes 4 copied))
          after)
      (Callback.scatter buffers bytes 0) host := by
  have fits : Fitting memory.bytes buffers := by
    intro buffer member
    obtain ⟨-, same, sameFound, checked⟩ := covered buffer member
    cases found.symm.trans sameFound
    exact (checkedHostRange_ok checked).2.2
  have rewrites : Rewritten host (host.rewritten (scattered memory buffers bytes)) := by
    refine ⟨rfl, rfl, fun same sameFound => ?_⟩
    cases found.symm.trans sameFound
    exact ⟨_, rfl, scatter_length ..⟩
  apply scatter_meets _ _ _ found covered
  rw [Nat.zero_add, Nat.min_eq_left within]
  apply writeMemory_writes
  · rw [Callback.leBytes_length]
    exact counted.rewritten rewrites
  · intro delivered deliveredFound reported
    cases deliveredFound
    rw [Callback.leBytes_length] at reported
    exact delivers _ _ ⟨fits, within, rfl⟩ ⟨reported, within.trans_lt short, rfl⟩

theorem readSource_meets {fd : Nat} {done : Option Nat → Host → Prop}
    (denies : Denies failed host) (stdin : fd = 0 → done none host)
    (opened : ∀ file, fd ≠ 0 → host.state.filesystem.ensureReadable fd = .ok file →
      done (some fd) host) :
    Meets failed done (readSource fd) host := by
  simp only [readSource, meets_ite, meets_pure, meets_bind]
  refine ⟨stdin, fun notIn => ?_⟩
  apply query_meets denies
  · intro err
    cases err <;> decide
  intro file readable
  exact opened file notIn readable

theorem fdRead_meets {fd iovs iovsLen nread : Nat} (denies : Denies failed host)
    (mayWrite : host.capabilities.memoryWrite = true)
    (streams : ∀ memory delivered after buffers, host.memory = some memory → fd = 0 →
      buffers = iovecs memory iovs iovsLen →
      Scatters memory buffers (host.state.stdin.peek (capacity buffers)) delivered →
      Reports delivered nread 4 (host.state.stdin.peek (capacity buffers)).length after →
      done ()
        { host.rewritten after with
          state :=
            { host.state with
              stdin :=
                host.state.stdin.advance (host.state.stdin.peek (capacity buffers)).length } })
    (files : ∀ memory delivered after buffers file bytes, host.memory = some memory → fd ≠ 0 →
      buffers = iovecs memory iovs iovsLen →
      host.state.filesystem.ensureReadable fd = .ok file →
      bytes =
        sliceAt (host.state.filesystem.bytes.get file.bytes) file.offset (capacity buffers) →
      Scatters memory buffers bytes delivered → Reports delivered nread 4 bytes.length after →
      done () (host.changed after (host.state.filesystem.advanced fd file bytes.length))) :
    Meets failed done (fdRead config fd iovs iovsLen nread) host := by
  simp only [fdRead, meets_bind]
  apply readSource_meets denies
  case stdin =>
    intro zero
    simp only [meets_ite, meets_bind]
    refine ⟨fun _ => failWith_meets denies (by decide), fun _ => ?_⟩
    apply destinations_meets denies mayWrite
    intro buffers total short covered gathered
    apply preflight_meets denies mayWrite
    intro counted
    obtain ⟨memory, found⟩ := counted.memory
    obtain ⟨same, rfl⟩ := gathered memory found
    simp only [peekSource, meets_ask]
    apply deliver_meets found short (sliceAt_length_le ..) covered counted
    intro delivered after scatters reports
    exact streams memory delivered after buffers found zero same scatters reports
  case opened =>
    intro file nonzero readable
    simp only [meets_ite, meets_bind]
    refine ⟨fun _ => failWith_meets denies (by decide), fun _ => ?_⟩
    apply destinations_meets denies mayWrite
    intro buffers total short covered gathered
    apply preflight_meets denies mayWrite
    intro counted
    obtain ⟨memory, found⟩ := counted.memory
    obtain ⟨same, rfl⟩ := gathered memory found
    simp only [peekSource]
    apply query_meets denies
    · intro err
      cases err <;> decide
    intro bytes peeked
    obtain rfl := peek_ok readable peeked
    apply deliver_meets found short (sliceAt_length_le ..) covered counted
    intro delivered after scatters reports
    apply commit_changes
    apply (advance_meets readable).mono (fun _ _ impossible => impossible)
    rintro _ changed rfl
    exact files memory delivered after buffers file _ found nonzero same readable rfl scatters
      reports

theorem fdPread_meets {fd iovs iovsLen offset nread : Nat} (denies : Denies failed host)
    (mayWrite : host.capabilities.memoryWrite = true)
    (files : ∀ memory delivered after buffers file bytes, host.memory = some memory →
      buffers = iovecs memory iovs iovsLen →
      host.state.filesystem.openFiles.lookup fd = some file →
      bytes = sliceAt (host.state.filesystem.bytes.get file.bytes) offset (capacity buffers) →
      Scatters memory buffers bytes delivered → Reports delivered nread 4 bytes.length after →
      done () (host.rewritten after)) :
    Meets failed done (fdPread config fd iovs iovsLen offset nread) host := by
  simp only [fdPread, meets_bind]
  apply query_meets denies
  · intro err
    cases err <;> decide
  intro file readable
  simp only [meets_ite, meets_bind]
  refine ⟨fun _ => failWith_meets denies (by decide), fun _ => ?_⟩
  apply destinations_meets denies mayWrite
  intro buffers total short covered gathered
  apply preflight_meets denies mayWrite
  intro counted
  obtain ⟨memory, found⟩ := counted.memory
  obtain ⟨same, rfl⟩ := gathered memory found
  apply query_meets denies
  · intro err
    cases err <;> decide
  intro bytes read
  obtain rfl := pread_ok readable read
  apply deliver_meets found short (sliceAt_length_le ..) covered counted
  intro delivered after scatters reports
  exact files memory delivered after buffers file _ found same (readableFile_ok readable).1 rfl
    scatters reports

/-! ## Positions and sizes -/

theorem fdSeek_meets {fd whence newoffset : Nat} {offset : Int} (denies : Denies failed host)
    (mayWrite : host.capabilities.memoryWrite = true)
    (files : ∀ memory after file base target, host.memory = some memory →
      host.state.filesystem.openFiles.lookup fd = some file →
      host.state.filesystem.seekBase file whence = some base →
      ((target : Nat) : Int) = base + offset → target ≤ maxU64 →
      Reports memory newoffset 8 target after →
      done ()
        (host.changed after
          (host.state.filesystem.setOpenFile fd { file with offset := target }))) :
    Meets failed done (fdSeek fd offset whence newoffset) host := by
  simp only [fdSeek, Callback.askFilesystem, meets_ask, meets_ite, meets_bind]
  refine ⟨fun _ => failWith_meets denies (by decide), fun _ => ?_⟩
  apply query_meets denies
  · intro err
    cases err <;> decide
  intro target prepared
  obtain ⟨file, base, lookup, origin, moved, small⟩ := prepareSeek_ok prepared
  apply report_meets denies mayWrite
  · exact Nat.lt_of_le_of_lt small (by decide)
  intro memory after found reports
  apply commit_changes
  apply (commitSeek_meets lookup).mono (fun _ _ impossible => impossible)
  rintro committed changed ⟨rfl, rfl⟩
  simp only [meets_pure]
  constructor
  · intro _
    exact files memory after file base target found lookup origin moved small reports
  · intro notCommitted
    exact absurd trivial notCommitted

theorem fdTell_meets {fd offsetPtr : Nat} (denies : Denies failed host)
    (mayWrite : host.capabilities.memoryWrite = true)
    (small : ∀ file, host.state.filesystem.openFiles.lookup fd = some file →
      file.offset ≤ maxU64)
    (files : ∀ memory after file, host.memory = some memory →
      host.state.filesystem.openFiles.lookup fd = some file →
      Reports memory offsetPtr 8 file.offset after → done () (host.rewritten after)) :
    Meets failed done (fdTell fd offsetPtr) host := by
  simp only [fdTell, Callback.askFilesystem, meets_ask, meets_ite, meets_bind]
  refine ⟨fun _ => failWith_meets denies (by decide), fun _ => ?_⟩
  apply query_meets denies
  · intro err
    cases err <;> decide
  intro offset told
  obtain ⟨file, lookup, rfl⟩ := tell_ok told
  apply report_meets denies mayWrite
  · exact Nat.lt_of_le_of_lt (small file lookup) (by decide)
  intro memory after found reports
  exact files memory after file found lookup reports

/-- A change that is refused leaves the host as it was. -/
theorem onFilesystem_changes {ε : Type} {convert : ε → Errno}
    {action : Action FilesystemState ε Unit} (denies : Denies failed host)
    (denied : ∀ err, convert err ≠ .success)
    (meets : Meets (fun _ after => after = host.state.filesystem)
      (fun _ changed => done () (host.withFilesystem changed)) action host.state.filesystem) :
    Meets failed done (Callback.onFilesystem (fun err => .errno (convert err)) action) host := by
  unfold Callback.onFilesystem
  rw [meets_zoom]
  apply meets.mono
  · rintro err after rfl
    exact denies _ (denied err)
  · intro value changed holds
    exact holds

theorem fdFilestatSetSize_meets {fd size : Nat} (denies : Denies failed host)
    (files : ∀ file, host.state.filesystem.openFiles.lookup fd = some file →
      file.rightsBase &&& Rights.fdFilestatSetSize ≠ 0 → size ≤ maxFileBytes →
      done ()
        (host.withFilesystem
          (host.state.filesystem.resizedTo file
            (resizeTo (host.state.filesystem.bytes.get file.bytes) size)))) :
    Meets failed done (fdFilestatSetSize fd size) host := by
  simp only [fdFilestatSetSize, Callback.askFilesystem, meets_ask, meets_ite, meets_bind]
  refine ⟨fun _ => failWith_meets denies (by decide), fun _ => ?_⟩
  apply onFilesystem_changes denies (by intro err; cases err <;> decide)
  apply resizeFile_meets.mono (fun _ _ same => same)
  rintro _ changed ⟨file, lookup, granted, within, rfl⟩
  rw [Nat.zero_add] at within ⊢
  exact files file lookup granted within

theorem fdAllocate_meets {fd offset length : Nat} (denies : Denies failed host)
    (files : ∀ file, host.state.filesystem.openFiles.lookup fd = some file →
      file.rightsBase &&& Rights.fdAllocate ≠ 0 → offset + length ≤ maxFileBytes →
      done ()
        (host.withFilesystem
          (host.state.filesystem.resizedTo file
            (growTo (host.state.filesystem.bytes.get file.bytes) (offset + length))))) :
    Meets failed done (fdAllocate fd offset length) host := by
  simp only [fdAllocate, Callback.askFilesystem, meets_ask, meets_ite, meets_bind]
  refine ⟨fun _ => failWith_meets denies (by decide), fun _ => ?_⟩
  apply onFilesystem_changes denies (by intro err; cases err <;> decide)
  apply resizeFile_meets.mono (fun _ _ same => same)
  rintro _ changed ⟨file, lookup, granted, within, rfl⟩
  exact files file lookup granted within

theorem fdFdstatSetFlags_meets {fd flags : Nat} (denies : Denies failed host)
    (files : ∀ file, host.state.filesystem.openFiles.lookup fd = some file →
      done ()
        (host.withFilesystem
          (host.state.filesystem.setOpenFile fd { file with flags := BitVec.ofNat 16 flags }))) :
    Meets failed done (fdFdstatSetFlags fd flags) host := by
  simp only [fdFdstatSetFlags, Callback.askFilesystem, meets_ask, meets_ite, meets_bind]
  refine ⟨fun _ => failWith_meets denies (by decide), fun _ => ?_⟩
  refine ⟨fun _ => failWith_meets denies (by decide), fun _ => ?_⟩
  apply onFilesystem_changes denies (by intro err; cases err <;> decide)
  apply setFlags_changes.mono (fun _ _ same => same)
  rintro _ changed ⟨file, lookup, rfl⟩
  exact files file lookup

end Rules

end Callbacks

end MiniWasm.Wasi
