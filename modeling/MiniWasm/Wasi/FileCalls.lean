import MiniWasm.Wasi.Admission

/-!
# Calls as events on files

A call on open files succeeds exactly when it is admissible.  Every one that succeeds is an
event of the table of files, with the bytes, the counts and the positions that guest memory
has for it; every one that fails is none.
-/

namespace MiniWasm.Wasi

open Library Action MiniWasm.Runtime FilesystemState

/-! ## Positions -/

/-- The offsets of open files are 64-bit numbers. -/
def FilesystemState.Positioned (state : FilesystemState) : Prop :=
  ∀ fd file, state.openFiles.lookup fd = some file → file.offset ≤ maxU64

section Positioned

variable {before after : FilesystemState}

theorem FilesystemState.Positioned.insert (positioned : before.Positioned) {fd : Nat}
    {file : OpenFile} (small : file.offset ≤ maxU64)
    (same : after.openFiles = before.openFiles.insert fd file) : after.Positioned := by
  intro other opened found
  rw [same] at found
  rcases lookup_insert_cases found with ⟨-, rfl⟩ | ⟨-, old⟩
  · exact small
  · exact positioned other opened old

theorem Effect.positioned {operation : Operation} (effect : Effect before operation after)
    (positioned : before.Positioned) : after.Positioned := by
  cases effect with
  | opened opens =>
    cases opens with
    | file => exact positioned.insert (Nat.zero_le _) rfl
    | created => exact positioned.insert (Nat.zero_le _) rfl
    | directory => exact positioned
  | closed =>
    intro other opened found
    exact positioned other opened (lookup_erase_some found).2
  | contents subject found mayMutate bounded small =>
    exact positioned.insert (small.trans (Nat.max_le.mpr ⟨positioned _ _ found, le_rfl⟩)) rfl
  | described subject found small =>
    exact positioned.insert (small.trans (Nat.max_le.mpr ⟨positioned _ _ found, le_rfl⟩)) rfl
  | _ => exact positioned

/-- What the simulation needs of a state. -/
structure Filed (state : FilesystemState) : Prop where
  numbered : state.Numbered
  linked : state.Linked
  limits : state.WithinLimits
  positioned : state.Positioned
  separate : Separate state
  listed : state.tables.Listed

theorem Filed.afterCalls {wasi : Preview1} (mounted : Mounted wasi) (requests : List Request) :
    Filed (afterCalls wasi.config wasi.state requests).filesystem := by
  obtain ⟨numbered, linked⟩ := afterCalls_linked mounted requests
  have reached := mounted.reaches requests
  refine ⟨numbered, linked, afterCalls_withinLimits mounted requests, ?_, reached.separate,
    reached.listed mounted⟩
  apply afterCalls_keeps_filesystem wasi.config (motive := Positioned) _ requests mounted.coherent
  · intro fd file found
    rw [mounted.configured.noOpenFile] at found
    cases found
  · intro before after operation reserved effect positioned
    exact effect.positioned positioned

end Positioned

/-! ## Observations -/

/-- Bytes have reached guest memory: each of them has exactly one place in the buffers, in
their order, and the memory outside of those places is as it was. -/
structure Arrives (memory : LinearMemory) (buffers : List Buffer) (bytes : List UInt8)
    (after : LinearMemory) : Prop where
  fits : Fitting memory.bytes buffers
  delivered : Delivered memory.bytes buffers bytes after.bytes
  once : ∀ index < bytes.length, ∃ position, slot buffers position = some index ∧
    ∀ other, slot buffers other = some index → other = position
  pages : after.maxPages = memory.maxPages

theorem Scatters.arrives {memory after : LinearMemory} {buffers : List Buffer}
    {bytes : List UInt8} (scatters : Scatters memory buffers bytes after)
    (apart : Apart buffers) : Arrives memory buffers bytes after where
  fits := scatters.fits
  delivered := by
    rw [scatters.written]
    exact scatter_delivered apart
  once index inside := existsUnique_slot apart (inside.trans_le scatters.within)
  pages := by
    rw [scatters.written]
    rfl

/-- What a call takes from guest memory, returns and leaves in guest memory, and which event
on files that is. -/
inductive Conveys (state : WasiState) :
    Request → Except Failure Unit → Option LinearMemory → FileEvent Nat Nat → Prop where
  /-- A call that is not admissible leaves guest memory as it was. -/
  | refused {request : Request} {errno : Errno} (different : errno ≠ .success) :
      Conveys state request (.error (.errno errno)) request.memory .idle
  /-- A write to one of the two standard streams. -/
  | printed {memory after : LinearMemory} {fd iovs iovsLen nwritten : I32}
      {payload : List UInt8} (standard : fd.toNat = 1 ∨ fd.toNat = 2)
      (gathers : Gathers memory (iovecs memory iovs.toNat iovsLen.toNat) payload)
      (reports : Reports memory nwritten.toNat 4 payload.length after) :
      Conveys state { memory := some memory, call := .fdWrite fd iovs iovsLen nwritten } (.ok ())
        (some after) .idle
  | written {memory after : LinearMemory} {fd iovs iovsLen nwritten : I32}
      {payload : List UInt8}
      (gathers : Gathers memory (iovecs memory iovs.toNat iovsLen.toNat) payload)
      (reports : Reports memory nwritten.toNat 4 payload.length after) :
      Conveys state { memory := some memory, call := .fdWrite fd iovs iovsLen nwritten } (.ok ())
        (some after) (.write fd.toNat payload)
  | writtenAt {memory after : LinearMemory} {fd iovs iovsLen nwritten : I32} {offset : I64}
      {payload : List UInt8}
      (gathers : Gathers memory (iovecs memory iovs.toNat iovsLen.toNat) payload)
      (reports : Reports memory nwritten.toNat 4 payload.length after) :
      Conveys state { memory := some memory, call := .fdPwrite fd iovs iovsLen offset nwritten }
        (.ok ()) (some after) (.writeAt fd.toNat offset.toNat payload)
  /-- A read of the standard input. -/
  | typed {memory delivered after : LinearMemory} {fd iovs iovsLen nread : I32}
      {bytes : List UInt8} (standard : fd.toNat = 0)
      (taken : bytes =
        state.stdin.peek (capacity (iovecs memory iovs.toNat iovsLen.toNat)))
      (arrives : Arrives memory (iovecs memory iovs.toNat iovsLen.toNat) bytes delivered)
      (reports : Reports delivered nread.toNat 4 bytes.length after) :
      Conveys state { memory := some memory, call := .fdRead fd iovs iovsLen nread } (.ok ())
        (some after) .idle
  | read {memory delivered after : LinearMemory} {fd iovs iovsLen nread : I32}
      {bytes : List UInt8}
      (arrives : Arrives memory (iovecs memory iovs.toNat iovsLen.toNat) bytes delivered)
      (reports : Reports delivered nread.toNat 4 bytes.length after) :
      Conveys state { memory := some memory, call := .fdRead fd iovs iovsLen nread } (.ok ())
        (some after)
        (.read fd.toNat (capacity (iovecs memory iovs.toNat iovsLen.toNat)) bytes)
  | readAt {memory delivered after : LinearMemory} {fd iovs iovsLen nread : I32} {offset : I64}
      {bytes : List UInt8}
      (arrives : Arrives memory (iovecs memory iovs.toNat iovsLen.toNat) bytes delivered)
      (reports : Reports delivered nread.toNat 4 bytes.length after) :
      Conveys state { memory := some memory, call := .fdPread fd iovs iovsLen offset nread }
        (.ok ()) (some after)
        (.readAt fd.toNat offset.toNat (capacity (iovecs memory iovs.toNat iovsLen.toNat)) bytes)
  | sought {memory after : LinearMemory} {fd whence newoffset : I32} {offset : I64}
      {position : Nat} (reports : Reports memory newoffset.toNat 8 position after) :
      Conveys state { memory := some memory, call := .fdSeek fd offset whence newoffset }
        (.ok ()) (some after) (.seek fd.toNat whence.toNat offset.toInt position)
  | told {memory after : LinearMemory} {fd offset : I32} {position : Nat}
      (reports : Reports memory offset.toNat 8 position after) :
      Conveys state { memory := some memory, call := .fdTell fd offset } (.ok ()) (some after)
        (.tell fd.toNat position)
  | resized {memory : Option LinearMemory} {fd : I32} {size : I64} :
      Conveys state { memory, call := .fdFilestatSetSize fd size } (.ok ()) memory
        (.resize fd.toNat size.toNat)
  | reserved {memory : Option LinearMemory} {fd : I32} {offset length : I64} :
      Conveys state { memory, call := .fdAllocate fd offset length } (.ok ()) memory
        (.reserve fd.toNat (offset.toNat + length.toNat))
  | marked {memory : Option LinearMemory} {fd flags : I32} :
      Conveys state { memory, call := .fdFdstatSetFlags fd flags } (.ok ()) memory
        (.mark fd.toNat (decide (BitVec.ofNat 16 flags.toNat &&& fdflagsAppend ≠ 0)))
  | openedDirectory {memory after : LinearMemory}
      {dirFd dirFlags path pathLen openFlags fdFlags openedFd : I32}
      {rightsBase rightsInheriting : I64} {fd : Nat}
      (directory : openFlags &&& oflagsDirectory ≠ 0)
      (reports : Reports memory openedFd.toNat 4 fd after) :
      Conveys state
        { memory := some memory
          call := .pathOpen dirFd dirFlags path pathLen openFlags rightsBase rightsInheriting
                    fdFlags openedFd }
        (.ok ()) (some after) .idle
  | opened {memory after : LinearMemory}
      {dirFd dirFlags path pathLen openFlags fdFlags openedFd : I32}
      {rightsBase rightsInheriting : I64} {fd inode : Nat} {emptied : Bool} {name : Path}
      (named : pathArgument (some memory) path.toNat pathLen.toNat = some name)
      (file : openFlags &&& oflagsDirectory = 0)
      (identifies : Identifies state.filesystem dirFd.toNat name
        (decide (openFlags &&& oflagsTrunc ≠ 0)) inode emptied)
      (reports : Reports memory openedFd.toNat 4 fd after) :
      Conveys state
        { memory := some memory
          call := .pathOpen dirFd dirFlags path pathLen openFlags rightsBase rightsInheriting
                    fdFlags openedFd }
        (.ok ()) (some after)
        (.opens fd inode (decide (BitVec.ofNat 16 fdFlags.toNat &&& fdflagsAppend ≠ 0)) emptied)

/-- The event that a call conveys; it succeeds exactly when it is admissible. -/
structure Answered (config : Config) (state : WasiState) (request : Request)
    (event : FileEvent Nat Nat) : Prop where
  conveys : Conveys state request (respond config state request).1
    (respond config state request).2.memory event
  succeeds : (respond config state request).1 = .ok () ↔ request.Admissible config state

/-! ## One call -/

/-- The call is an event of the table. -/
def Simulated (table : FileTable Nat Nat) (state : WasiState) (request : Request)
    (result : Except Failure Unit) (after : Host) : Prop :=
  ∃ event next, Conveys state request result after.memory event ∧ table.Step event next ∧
    Represents next after.state.filesystem

/-- Whatever a call that succeeds does is an event of the table. -/
def Simulates (config : Config) (table : FileTable Nat Nat) (state : WasiState)
    (request : Request) : Prop :=
  Meets (Refused (request.host state))
    (fun _ after => Simulated table state request (.ok ()) after)
    (request.call.run config) (request.host state)

/-- The numbers of descriptors fit into 32 bits. -/
theorem Opened.number_lt {before after : FilesystemState} {operation : Operation} {fd : Nat}
    (opens : Opened before operation fd after) : fd < 256 ^ 4 := by
  have below (allocated : before.allocateDynamicFd = .ok fd) : fd < 256 ^ 4 := by
    unfold allocateDynamicFd at allocated
    split_ifs at allocated with full
    have := (firstFree_ok _ _ allocated).2.1
    simp only [firstDynamicFd] at this
    omega
  cases opens with
  | file resolved allocated => exact below allocated
  | created resolved allocated => exact below allocated
  | directory resolved attenuated found parent allocated => exact below allocated

section Calls

variable {config : Config} {state : WasiState} {table : FileTable Nat Nat}
  {memory : Option LinearMemory}

/-- A call that fails is no event. -/
theorem Simulates.simulated {request : Request} (meets : Simulates config table state request)
    (linked : state.filesystem.Linked) (represents : Represents table state.filesystem) :
    Simulated table state request (respond config state request).1
      (respond config state request).2 := by
  unfold Simulates Meets at meets
  unfold respond
  generalize request.call.run config (request.host state) = outcome at meets ⊢
  obtain ⟨result, after⟩ := outcome
  cases result with
  | ok value => exact meets
  | error failure =>
    cases meets with
    | denied different untouched =>
      refine ⟨.idle, table, .refused different, .idle, ?_⟩
      cases untouched with
      | same => exact represents
      | abandoned => exact represents.withFreshCells linked

theorem ensureWritable_found {files : FilesystemState} {fd : Nat} {file : OpenFile}
    (writable : files.ensureWritable fd = .ok file) : files.openFiles.lookup fd = some file :=
  (writableFile_ok writable).1

/-- A sequential read cannot take the offset past the largest one. -/
theorem Filed.advances {files : FilesystemState} (filed : Filed files) {fd : Nat}
    {file : OpenFile} (found : files.openFiles.lookup fd = some file) (room : Nat) :
    file.offset + (sliceAt (files.bytes.get file.bytes) file.offset room).length ≤ maxU64 := by
  have small := filed.positioned fd file found
  have limit := (filed.limits.contents file.bytes).trans maxFileBytes_le
  rw [sliceAt, List.length_take, List.length_drop]
  omega

section Simulations

variable (represents : Represents table state.filesystem)

include represents

theorem fdWrite_simulated {fd iovs iovsLen nwritten : I32}
    (linked : state.filesystem.Linked) :
    Simulates config table state ⟨memory, .fdWrite fd iovs iovsLen nwritten⟩ := by
  apply Callbacks.fdWrite_meets Refused.denies rfl
  case streams =>
    intro memory payload after changed found standard gathers reports filesystem preopens stdin
    cases found
    refine ⟨.idle, table, .printed standard gathers reports, .idle, ?_⟩
    exact filesystem ▸ represents
  case files =>
    intro memory payload after file stop found notOut notErr gathers reports writable fits
    cases found
    obtain ⟨next, step, representsNext⟩ :=
      represents.written linked (ensureWritable_found writable) payload
    exact ⟨_, next, .written gathers reports, step, representsNext⟩

theorem fdPwrite_simulated {fd iovs iovsLen nwritten : I32} {offset : I64}
    (linked : state.filesystem.Linked) :
    Simulates config table state ⟨memory, .fdPwrite fd iovs iovsLen offset nwritten⟩ := by
  apply Callbacks.fdPwrite_meets Refused.denies rfl
  intro memory payload after file found gathers reports lookup prepared
  cases found
  obtain ⟨next, step, representsNext⟩ :=
    represents.pwritten linked lookup offset.toNat payload
  exact ⟨_, next, .writtenAt gathers reports, step, representsNext⟩

theorem fdRead_simulated {fd iovs iovsLen nread : I32} (filed : Filed state.filesystem)
    (onFiles : (Request.mk memory (.fdRead fd iovs iovsLen nread)).OnFiles) :
    Simulates config table state ⟨memory, .fdRead fd iovs iovsLen nread⟩ := by
  apply Callbacks.fdRead_meets Refused.denies rfl
  case streams =>
    intro memory delivered after buffers found standard same scatters reports
    cases found
    subst same
    exact ⟨_, table, .typed standard rfl (scatters.arrives (onFiles memory rfl)) reports, .idle,
      represents⟩
  case files =>
    intro memory delivered after buffers file bytes found notIn same readable taken scatters
      reports
    cases found
    subst same
    have lookup := (readableFile_ok readable).1
    obtain ⟨next, step, representsNext⟩ := represents.advanced lookup taken
      (taken ▸ filed.advances lookup _)
    exact ⟨_, next, .read (scatters.arrives (onFiles memory rfl)) reports, step, representsNext⟩

theorem fdPread_simulated {fd iovs iovsLen nread : I32} {offset : I64}
    (onFiles : (Request.mk memory (.fdPread fd iovs iovsLen offset nread)).OnFiles) :
    Simulates config table state ⟨memory, .fdPread fd iovs iovsLen offset nread⟩ := by
  apply Callbacks.fdPread_meets Refused.denies rfl
  intro memory delivered after buffers file bytes found same lookup taken scatters reports
  cases found
  subst same
  refine ⟨_, table, .readAt (scatters.arrives (onFiles memory rfl)) reports,
    .readAt (represents.opened lookup) ?_, represents⟩
  rw [taken, FileTable.bytesAt, OpenFile.cursor, represents.bytes lookup]
  rfl

theorem fdSeek_simulated {fd whence newoffset : I32} {offset : I64} :
    Simulates config table state ⟨memory, .fdSeek fd offset whence newoffset⟩ := by
  apply Callbacks.fdSeek_meets Refused.denies rfl
  intro memory after file base target found lookup relative moved small reports
  cases found
  obtain ⟨next, step, representsNext⟩ := represents.sought lookup relative moved
  exact ⟨_, next, .sought reports, step, representsNext⟩

theorem fdTell_simulated {fd offset : I32}
    (filed : Filed state.filesystem) :
    Simulates config table state ⟨memory, .fdTell fd offset⟩ := by
  apply Callbacks.fdTell_meets Refused.denies rfl (filed.positioned fd.toNat)
  intro memory after file found lookup reports
  cases found
  exact ⟨_, table, .told reports, .tell (represents.opened lookup), represents⟩

theorem fdFilestatSetSize_simulated {fd : I32} {size : I64}
    (linked : state.filesystem.Linked) :
    Simulates config table state ⟨memory, .fdFilestatSetSize fd size⟩ := by
  apply Callbacks.fdFilestatSetSize_meets Refused.denies
  intro file lookup granted within
  obtain ⟨next, step, representsNext⟩ := represents.resized linked lookup size.toNat
  exact ⟨_, next, .resized, step, representsNext⟩

theorem fdAllocate_simulated {fd : I32} {offset length : I64}
    (linked : state.filesystem.Linked) :
    Simulates config table state ⟨memory, .fdAllocate fd offset length⟩ := by
  apply Callbacks.fdAllocate_meets Refused.denies
  intro file lookup granted within
  obtain ⟨next, step, representsNext⟩ :=
    represents.reserved linked lookup (offset.toNat + length.toNat)
  exact ⟨_, next, .reserved, step, representsNext⟩

theorem fdFdstatSetFlags_simulated {fd flags : I32} :
    Simulates config table state ⟨memory, .fdFdstatSetFlags fd flags⟩ := by
  apply Callbacks.fdFdstatSetFlags_meets Refused.denies
  intro file lookup
  obtain ⟨next, step, representsNext⟩ :=
    represents.marked lookup (BitVec.ofNat 16 flags.toNat)
  exact ⟨_, next, .marked, step, representsNext⟩

theorem pathOpen_simulated {dirFd dirFlags path pathLen openFlags fdFlags openedFd : I32}
    {rightsBase rightsInheriting : I64} (filed : Filed state.filesystem) :
    Simulates config table state
      ⟨memory, .pathOpen dirFd dirFlags path pathLen openFlags rightsBase rightsInheriting
        fdFlags openedFd⟩ := by
  apply (Callbacks.pathOpen_meets rfl).mono (fun _ _ refused => refused)
  rintro _ after ⟨name, request, opened, filesystem, memory, opening, found, fits, rfl⟩
  cases found
  have reports (small : opened < 256 ^ 4) :
      Reports memory openedFd.toNat 4 opened
        (memory.writeBytes openedFd.toNat (Callback.leBytes 4 opened)) :=
    ⟨fits, small, rfl⟩
  have opens := opening.opens
  unfold Callbacks.OpenRequest.operation at opens
  cases kind : request.directory with
  | true =>
    rw [if_pos kind] at opens
    have directory : openFlags &&& oflagsDirectory ≠ 0 := by
      simpa [kind] using opening.directory.symm
    have small := opens.number_lt
    cases opens with
    | directory resolved attenuated lookup parent allocated =>
      exact ⟨.idle, table, .openedDirectory directory (reports small), .idle,
        represents.cursors, represents.contents⟩
  | false =>
    rw [if_neg (by simp [kind])] at opens
    have file : openFlags &&& oflagsDirectory = 0 := by
      simpa [kind] using opening.directory.symm
    obtain ⟨inode, emptied, next, identifies, step, representsNext⟩ :=
      represents.opens filed.numbered filed.linked opens
    rw [opening.flags] at step
    rw [opening.truncates] at identifies
    exact ⟨_, next, .opened opening.named file identifies (reports opens.number_lt), step,
      representsNext⟩

end Simulations

/-- Every call on files is simulated. -/
theorem simulated (config : Config) (filed : Filed state.filesystem)
    (represents : Represents table state.filesystem) {request : Request}
    (onFiles : request.OnFiles) :
    Simulated table state request (respond config state request).1
      (respond config state request).2 := by
  apply Simulates.simulated _ filed.linked represents
  obtain ⟨memory, call⟩ := request
  cases call with
  | fdWrite => exact fdWrite_simulated represents filed.linked
  | fdRead => exact fdRead_simulated represents filed onFiles
  | fdPread => exact fdPread_simulated represents onFiles
  | fdPwrite => exact fdPwrite_simulated represents filed.linked
  | fdFdstatSetFlags => exact fdFdstatSetFlags_simulated represents
  | fdFilestatSetSize => exact fdFilestatSetSize_simulated represents filed.linked
  | fdAllocate => exact fdAllocate_simulated represents filed.linked
  | fdSeek => exact fdSeek_simulated represents
  | fdTell => exact fdTell_simulated represents filed
  | pathOpen => exact pathOpen_simulated represents filed
  | _ => exact onFiles.elim

end Calls

/-! ## Sequences of calls -/

/-- The events that the calls of a sequence convey, each in the state it is made in and
each exactly when it is admissible there. -/
inductive Conveyed (config : Config) :
    WasiState → List Request → List (FileEvent Nat Nat) → Prop where
  | nil {state : WasiState} : Conveyed config state [] []
  | cons {state : WasiState} {request : Request} {requests : List Request}
      {event : FileEvent Nat Nat} {events : List (FileEvent Nat Nat)}
      (answered : Answered config state request event)
      (rest : Conveyed config (afterCall config state request) requests events) :
      Conveyed config state (request :: requests) (event :: events)

theorem afterCalls_append (config : Config) (state : WasiState)
    (history requests : List Request) :
    afterCalls config state (history ++ requests) =
      afterCalls config (afterCalls config state history) requests :=
  List.foldl_append

/-- Whatever has happened before, calls on files run as the table of files does. -/
theorem files_refine {wasi : Preview1} (mounted : Mounted wasi)
    (history requests : List Request) (onFiles : ∀ request ∈ requests, request.OnFiles) :
    let state := afterCalls wasi.config wasi.state history
    (∃ table, Represents table state.filesystem) ∧
      ∀ table, Represents table state.filesystem →
        ∃ events final, Conveyed wasi.config state requests events ∧
          FileTable.Run table events final ∧
          Represents final (afterCalls wasi.config state requests).filesystem := by
  refine ⟨exists_represents (Filed.afterCalls mounted history).linked, ?_⟩
  induction requests generalizing history with
  | nil =>
    intro table represents
    exact ⟨[], table, .nil, .nil, represents⟩
  | cons request requests ih =>
    intro table represents
    obtain ⟨first, others⟩ := List.forall_mem_cons.mp onFiles
    have filed := Filed.afterCalls mounted history
    obtain ⟨event, next, conveys, step, representsNext⟩ :=
      simulated wasi.config filed represents first
    have answered : Answered wasi.config (afterCalls wasi.config wasi.state history) request
        event :=
      ⟨conveys, respond_ok_iff filed.separate filed.listed filed.positioned first⟩
    have reached : afterCalls wasi.config wasi.state (history ++ [request]) =
        afterCall wasi.config (afterCalls wasi.config wasi.state history) request :=
      afterCalls_append ..
    have rest := ih (history ++ [request]) others
    rw [reached] at rest
    obtain ⟨events, final, conveyed, run, representsFinal⟩ := rest next representsNext
    exact ⟨event :: events, final, .cons answered conveyed, .cons step run, representsFinal⟩

/-- A memory with the path `a`, two vectors of two buffers each, and five bytes to write. -/
def transferMemory : LinearMemory where
  bytes :=
    [97, 0, 0, 0, 0, 0, 0, 0] ++
      -- from 8 on, the buffers of 2 bytes at 40 and of 3 bytes at 44
      [40, 0, 0, 0, 2, 0, 0, 0, 44, 0, 0, 0, 3, 0, 0, 0] ++
      -- from 24 on, the buffers of 3 bytes at 52 and of 2 bytes at 48
      [52, 0, 0, 0, 3, 0, 0, 0, 48, 0, 0, 0, 2, 0, 0, 0] ++
      [1, 2, 0, 0, 3, 4, 5, 0] ++ List.replicate 16 0
  maxPages := 1

def transfer (call : Call) : Request where
  memory := some transferMemory
  call

/-- Two descriptors of `a` are opened, and what is written through the first is read through
the second. -/
def transfers : List Request :=
  [transfer (.pathOpen 3 0 0 1 0 (Rights.fdRead ||| Rights.fdWrite) 0 0 56),
    transfer (.pathOpen 3 0 0 1 0 Rights.fdRead 0 0 56),
    transfer (.fdWrite 4 8 2 60),
    transfer (.fdRead 5 24 2 60)]

theorem transfers_apart : Apart (iovecs transferMemory 24 2) := by
  have buffers : iovecs transferMemory 24 2 = [(52, 3), (48, 2)] := by decide
  rw [buffers, Apart, List.pairwise_pair]
  intro position first second
  have := first.1
  have := second.2
  omega

/-- The five bytes arrive in two buffers, the later of which comes first in memory. -/
theorem files_refine_transfers :
    ((∃ table, Represents table (Preview1.workspace true).state.filesystem) ∧
      ∀ table, Represents table (Preview1.workspace true).state.filesystem →
        ∃ events final,
          Conveyed (Preview1.workspace true).config (Preview1.workspace true).state transfers
            events ∧
          FileTable.Run table events final ∧
          Represents final
            (afterCalls (Preview1.workspace true).config (Preview1.workspace true).state
              transfers).filesystem) ∧
      (respond (Preview1.workspace true).config
          (afterCalls (Preview1.workspace true).config (Preview1.workspace true).state
            (transfers.take 3))
          (transfer (.fdRead 5 24 2 60))).2.memory.map (·.readBytes 48 16) =
        some [4, 5, 0, 0, 1, 2, 3, 0, 0, 0, 0, 0, 5, 0, 0, 0] := by
  refine ⟨files_refine (workspace_mounted true) [] transfers ?_, by decide⟩
  simp only [transfers, List.forall_mem_cons]
  refine ⟨trivial, trivial, trivial, ?_, List.forall_mem_nil _⟩
  rintro memory ⟨⟩
  exact transfers_apart

/-- `path_open` of `a` to append to it, and a length of one byte. -/
def appendable : List Request :=
  [fromGuest (.pathOpen 3 0 0 1 0 (Rights.fdWrite ||| Rights.fdFilestatSetSize) 0 1 16),
    fromGuest (.fdFilestatSetSize 4 1)]

/-- The open file after these calls. -/
def appended : OpenFile where
  inode := 1
  bytes := 0
  linkCount := 0
  times := 0
  offset := 0
  rightsBase := Rights.fdWrite ||| Rights.fdFilestatSetSize
  flags := fdflagsAppend

/-- A write of no bytes to a file that is appended to does not move the cursor to the end. -/
theorem empty_write_keeps_cursor :
    let wasi := Preview1.workspace true
    let state := afterCalls wasi.config wasi.state appendable
    let request := fromGuest (.fdWrite 4 0 0 16)
    (respond wasi.config state request).1 = .ok () ∧
      ∀ table next, Represents table state.filesystem →
        Represents next (afterCall wasi.config state request).filesystem →
        ∃ cursor moved, table.cursors 4 = some cursor ∧ cursor.append = true ∧
          next.cursors 4 = some moved ∧ moved.position ≠ table.landing cursor := by
  refine ⟨by decide, ?_⟩
  intro table next represents representsNext
  have found : (afterCalls (Preview1.workspace true).config (Preview1.workspace true).state
      appendable).filesystem.openFiles.lookup 4 = some appended := by
    decide
  have kept : (afterCall (Preview1.workspace true).config
      (afterCalls (Preview1.workspace true).config (Preview1.workspace true).state appendable)
      (fromGuest (.fdWrite 4 0 0 16))).filesystem.openFiles.lookup 4 = some appended := by
    decide
  refine ⟨_, _, represents.opened found, rfl, representsNext.opened kept, ?_⟩
  rw [represents.landing found]
  decide

end MiniWasm.Wasi
