import Mathlib.Data.List.Perm.Subperm
import MiniWasm.Wasi.Attenuation
import MiniWasm.Wasi.Openings
import MiniWasm.Wasi.TwinCalls

/-!
# Closing a preopen

A run of calls is compared with the same run after one preopen more is closed.  As long
as the calls name other descriptors, which were open before, both runs answer alike, but
for calls that open a file for writing below the preopen.
-/

namespace MiniWasm.Wasi

open Library Action MiniWasm.Runtime FilesystemState Callback

/-! ## Named descriptors -/

/-- The descriptors that some subscriptions wait for. -/
def subscribed : (count : Nat) → (subscriptions : List UInt8) → List Nat
  | 0, _ => []
  | count + 1, subscriptions =>
      let eventType := LinearMemory.fromLeBytes (sliceAt subscriptions 8 1)
      let others := subscribed count (subscriptions.drop 48)
      if eventType = Callbacks.eventtypeFdRead ∨ eventType = Callbacks.eventtypeFdWrite then
        u32At (subscriptions.take 48) 16 :: others
      else others

/-- The descriptors that a request names. -/
def Request.names (request : Request) : List Nat :=
  match request.call with
  | .fdWrite fd .. => [fd.toNat]
  | .fdRead fd .. => [fd.toNat]
  | .fdPread fd .. => [fd.toNat]
  | .fdPwrite fd .. => [fd.toNat]
  | .fdFdstatGet fd _ => [fd.toNat]
  | .fdFdstatSetFlags fd _ => [fd.toNat]
  | .fdFilestatGet fd _ => [fd.toNat]
  | .fdFilestatSetSize fd _ => [fd.toNat]
  | .fdFilestatSetTimes fd .. => [fd.toNat]
  | .fdAllocate fd .. => [fd.toNat]
  | .fdSeek fd .. => [fd.toNat]
  | .fdTell fd _ => [fd.toNat]
  | .fdClose fd => [fd.toNat]
  | .fdReaddir fd .. => [fd.toNat]
  | .fdPrestatGet fd _ => [fd.toNat]
  | .fdPrestatDirName fd .. => [fd.toNat]
  | .pathCreateDirectory dirFd .. => [dirFd.toNat]
  | .pathRemoveDirectory dirFd .. => [dirFd.toNat]
  | .pathSymlink _ _ dirFd .. => [dirFd.toNat]
  | .pathReadlink dirFd .. => [dirFd.toNat]
  | .pathFilestatGet dirFd .. => [dirFd.toNat]
  | .pathFilestatSetTimes dirFd .. => [dirFd.toNat]
  | .pathOpen dirFd .. => [dirFd.toNat]
  | .pathLink oldFd _ _ _ newFd .. => [oldFd.toNat, newFd.toNat]
  | .pathRename oldFd _ _ newFd .. => [oldFd.toNat, newFd.toNat]
  | .pathUnlinkFile dirFd .. => [dirFd.toNat]
  | .pollOneoff input _ nsubscriptions _ =>
      match request.memory with
      | none => []
      | some memory =>
          subscribed nsubscriptions.toNat
            (memory.readBytes input.toNat (48 * nsubscriptions.toNat))
  | _ => []

section Agreement

variable {preopen : Nat} {fresh : List (Nat × Nat)} {config : Config}

/-! ## Callbacks without a descriptor -/

theorem sizesGet_agrees {entries : List (List UInt8)} {maxCount maxBytes count size : Nat} :
    Agreeing preopen fresh (Callbacks.sizesGet entries maxCount maxBytes count size) :=
  agrees_ite (agrees_fail _) <| agrees_ite (agrees_fail _) writeBoth_agrees

theorem stringsGet_agrees {entries : List (List UInt8)} {maxCount maxBytes table buf : Nat} :
    Agreeing preopen fresh (Callbacks.stringsGet entries maxCount maxBytes table buf) :=
  agrees_ite (agrees_fail _) <| agrees_ite (agrees_fail _) <|
    agrees_bind (agrees_consult fun _ _ _ => rfl) fun _ => writeBoth_agrees

theorem clockSnapshot_agrees {clockId : Nat} :
    Agreeing preopen fresh (Callbacks.clockSnapshot config clockId) := by
  unfold Callbacks.clockSnapshot
  cases config.clocks.snapshot clockId with
  | none => exact agrees_fail _
  | some snapshot => exact agrees_pure snapshot

theorem clockResGet_agrees {clockId result : Nat} :
    Agreeing preopen fresh (Callbacks.clockResGet config clockId result) :=
  agrees_bind clockSnapshot_agrees fun _ => writeChecked_agrees _ _

theorem clockTimeGet_agrees {clockId result : Nat} :
    Agreeing preopen fresh (Callbacks.clockTimeGet config clockId result) :=
  agrees_bind clockSnapshot_agrees fun _ => writeChecked_agrees _ _

theorem randomGet_agrees {buffer length : Nat} :
    Agreeing preopen fresh (Callbacks.randomGet config buffer length) := by
  apply agrees_ite (agrees_fail _)
  apply agrees_bind (agrees_ask fun left right alike => alike.state.entropy)
  intro entropy
  apply agrees_ite (agrees_fail _)
  apply agrees_bind (writeChecked_agrees _ _)
  intro _
  apply agrees_modify
  intro left right alike
  exact ⟨alike.capabilities, alike.memory, { alike.state with entropy := rfl }⟩

theorem procExit_agrees {code : Nat} :
    Agreeing preopen fresh (Callbacks.procExit code) := by
  apply agrees_bind
  · apply agrees_modify
    intro left right alike
    exact ⟨alike.capabilities, alike.memory, { alike.state with exitCode := rfl }⟩
  · exact fun _ => agrees_fail _

/-! ## Polling -/

theorem sliceAt_take_of_le {bytes : List UInt8} {offset length limit : Nat}
    (inside : offset + length ≤ limit) :
    sliceAt (bytes.take limit) offset length = sliceAt bytes offset length := by
  unfold sliceAt
  rw [List.drop_take, List.take_take, min_eq_left (by omega)]

theorem readyEvents_same {state : FilesystemState} {tables : Tables}
    (twin : Twin preopen fresh tables state.tables) {count : Nat}
    {subscriptions events : List UInt8}
    (known : ∀ fd ∈ subscribed count subscriptions, Known preopen fresh fd) :
    Callbacks.readyEvents config (state.withTables tables) count subscriptions events =
      Callbacks.readyEvents config state count subscriptions events := by
  induction count generalizing subscriptions events with
  | zero => rfl
  | succ count ih =>
    have sameEvent : Callbacks.readyEvent config (state.withTables tables)
        (subscriptions.take 48) =
        Callbacks.readyEvent config state (subscriptions.take 48) := by
      simp only [subscribed] at known
      simp only [Callbacks.readyEvent, sliceAt_take_of_le (show 8 + 1 ≤ 48 by decide)]
      by_cases reads : LinearMemory.fromLeBytes (sliceAt subscriptions 8 1) =
          Callbacks.eventtypeFdRead
      · rw [if_pos (.inl reads)] at known
        have sameReady := pollReadReady_same twin (known _ List.mem_cons_self)
        simp only [Callbacks.pollFdReadReady, sameReady]
        rw [reads]
        rfl
      · by_cases writes : LinearMemory.fromLeBytes (sliceAt subscriptions 8 1) =
            Callbacks.eventtypeFdWrite
        · rw [if_pos (.inr writes)] at known
          have sameReady := pollWriteReady_same twin (known _ List.mem_cons_self)
          simp only [Callbacks.pollFdWriteReady, sameReady]
          rw [writes]
          rfl
        · simp only [reads, writes, if_false]
    have knownOthers : ∀ fd ∈ subscribed count (subscriptions.drop 48),
        Known preopen fresh fd := by
      intro fd member
      apply known
      simp only [subscribed]
      split_ifs
      · exact List.mem_cons_of_mem _ member
      · exact member
    simp only [Callbacks.readyEvents, sameEvent]
    exact bind_congr fun event => ih knownOthers

theorem readMemory_result {address length : Nat} {host after : Host} {bytes : List UInt8}
    (reads : Callback.readMemory address length host = (.ok bytes, after)) :
    host.readMemory address length = .ok bytes := by
  simp only [Callback.readMemory, consult, Prod.mk.injEq] at reads
  cases result : host.readMemory address length with
  | error err =>
    rw [result] at reads
    cases reads.1
  | ok found =>
    rw [result] at reads
    cases reads.1
    rfl

theorem pollOneoff_agrees {input output count nevents : Nat} {left right : Host}
    (alike : AlikeHosts preopen fresh left right)
    (known : ∀ memory, right.memory = some memory →
      ∀ fd ∈ subscribed count (memory.readBytes input (48 * count)), Known preopen fresh fd) :
    (Callbacks.pollOneoff config input output count nevents left).1 =
        (Callbacks.pollOneoff config input output count nevents right).1 ∧
      AlikeHosts preopen fresh (Callbacks.pollOneoff config input output count nevents left).2
        (Callbacks.pollOneoff config input output count nevents right).2 := by
  unfold Callbacks.pollOneoff
  by_cases refused : count = 0 ∨ maxSubscriptions < count
  · rw [if_pos refused]
    exact ⟨rfl, alike⟩
  · rw [if_neg refused]
    apply agrees_bind_at alike (readMemory_agrees _ _)
    intro subscriptions after reads
    obtain ⟨memory, found, -, rfl⟩ := Host.readMemory_ok (readMemory_result reads)
    have events : Agreeing preopen fresh
        (consult fun host => (Callbacks.readyEvents config host.state.filesystem count
          (memory.readBytes input (48 * count)) []).mapError .errno) := by
      apply agrees_consult
      intro leftHost rightHost hosts
      have sameEvents := hosts.state.filesystem.elim
        (motive := fun state => Callbacks.readyEvents config state count _ [] =
          Callbacks.readyEvents config rightHost.state.filesystem count _ [])
        fun tables twin => readyEvents_same twin (known memory found)
      rw [sameEvents]
    apply agrees_bind (preflight_agrees _ _)
    intro _
    apply agrees_bind (preflight_agrees _ _)
    intro _
    apply agrees_bind events
    intro bytes
    exact agrees_bind (writeMemory_agrees _ _) fun _ => writeMemory_agrees _ _

/-! ## All calls -/

/-- The answers of two hosts to a request are the same, and leave them alike. -/
def AnswersAgree (preopen : Nat) (fresh : List (Nat × Nat))
    (left right : Except Failure Unit × Host) : Prop :=
  left.1 = right.1 ∧ AlikeHosts preopen fresh left.2 right.2

theorem AlikeStates.hosts {left right : WasiState} (alike : AlikeStates preopen fresh left right)
    (request : Request) : AlikeHosts preopen fresh (request.host left) (request.host right) :=
  ⟨rfl, rfl, alike⟩

/-- A request that names known descriptors is answered alike, unless it opens one. -/
theorem respond_agrees {left right : WasiState} (alike : AlikeStates preopen fresh left right)
    {request : Request} (known : ∀ fd ∈ request.names, Known preopen fresh fd)
    (opens : ∀ dirFd dirFlags path pathLen openFlags base inheriting fdFlags openedFd,
      request.call ≠ .pathOpen dirFd dirFlags path pathLen openFlags base inheriting fdFlags
        openedFd) :
    AnswersAgree preopen fresh (respond config left request) (respond config right request) := by
  have hosts := alike.hosts request
  obtain ⟨memory, call⟩ := request
  cases call with
  | pathOpen => exact (opens _ _ _ _ _ _ _ _ _ rfl).elim
  | pollOneoff input output nsubscriptions nevents =>
    apply pollOneoff_agrees hosts
    intro memory found
    simp only [Request.host] at found
    simpa only [Request.names, found] using known
  | pathLink =>
    simp only [Request.names, List.forall_mem_cons] at known
    exact pathLink_agrees known.1 known.2.1 _ _ hosts
  | pathRename =>
    simp only [Request.names, List.forall_mem_cons] at known
    exact pathRename_agrees known.1 known.2.1 _ _ hosts
  | argsSizesGet => exact sizesGet_agrees _ _ hosts
  | argsGet => exact stringsGet_agrees _ _ hosts
  | environSizesGet => exact sizesGet_agrees _ _ hosts
  | environGet => exact stringsGet_agrees _ _ hosts
  | clockResGet => exact clockResGet_agrees _ _ hosts
  | clockTimeGet => exact clockTimeGet_agrees _ _ hosts
  | randomGet => exact randomGet_agrees _ _ hosts
  | procExit => exact procExit_agrees _ _ hosts
  | fdWrite => exact fdWrite_agrees (known _ List.mem_cons_self) _ _ hosts
  | fdRead => exact fdRead_agrees (known _ List.mem_cons_self) _ _ hosts
  | fdPread => exact fdPread_agrees (known _ List.mem_cons_self) _ _ hosts
  | fdPwrite => exact fdPwrite_agrees (known _ List.mem_cons_self) _ _ hosts
  | fdFdstatGet => exact fdFdstatGet_agrees (known _ List.mem_cons_self) _ _ hosts
  | fdFdstatSetFlags => exact fdFdstatSetFlags_agrees (known _ List.mem_cons_self) _ _ hosts
  | fdFilestatGet => exact fdFilestatGet_agrees (known _ List.mem_cons_self) _ _ hosts
  | fdFilestatSetSize => exact fdFilestatSetSize_agrees (known _ List.mem_cons_self) _ _ hosts
  | fdFilestatSetTimes => exact fdFilestatSetTimes_agrees (known _ List.mem_cons_self) _ _ hosts
  | fdAllocate => exact fdAllocate_agrees (known _ List.mem_cons_self) _ _ hosts
  | fdSeek => exact fdSeek_agrees (known _ List.mem_cons_self) _ _ hosts
  | fdTell => exact fdTell_agrees (known _ List.mem_cons_self) _ _ hosts
  | fdClose => exact fdClose_agrees (known _ List.mem_cons_self) _ _ hosts
  | fdReaddir => exact fdReaddir_agrees (known _ List.mem_cons_self) _ _ hosts
  | fdPrestatGet => exact fdPrestatGet_agrees (known _ List.mem_cons_self) _ _ hosts
  | fdPrestatDirName => exact fdPrestatDirName_agrees (known _ List.mem_cons_self) _ _ hosts
  | pathCreateDirectory => exact pathCreateDirectory_agrees (known _ List.mem_cons_self) _ _ hosts
  | pathRemoveDirectory => exact pathRemoveDirectory_agrees (known _ List.mem_cons_self) _ _ hosts
  | pathSymlink => exact pathSymlink_agrees (known _ List.mem_cons_self) _ _ hosts
  | pathReadlink => exact pathReadlink_agrees (known _ List.mem_cons_self) _ _ hosts
  | pathFilestatGet => exact pathFilestatGet_agrees (known _ List.mem_cons_self) _ _ hosts
  | pathFilestatSetTimes =>
    exact pathFilestatSetTimes_agrees (known _ List.mem_cons_self) _ _ hosts
  | pathUnlinkFile => exact pathUnlinkFile_agrees (known _ List.mem_cons_self) _ _ hosts

/-! ## Opening -/

/-- The checks of `path_open` on its arguments. -/
def checkedOpen (dirFlags : BitVec 32) (pathPtr pathLen : Nat) (openFlags : BitVec 32)
    (rightsBase rightsInheriting : Rights) (fdFlags openedFdPtr : Nat) :
    Callback (Callbacks.OpenRequest × Path) := do
  let request ← Callbacks.checkOpen dirFlags openFlags rightsBase rightsInheriting fdFlags
  let path ← readPath pathPtr pathLen
  preflight openedFdPtr 4
  return (request, path)

/-- How the answers to `path_open` compare: both are refused alike, or both succeed and
leave the same memory but for the numbers in it. -/
inductive OpensAgree (preopen : Nat) (fresh : List (Nat × Nat)) (left right : WasiState) :
    Except Failure Unit × Host → Except Failure Unit × Host → Prop where
  | refused {failure : Failure} {leftHost rightHost : Host}
      (alike : AlikeHosts preopen fresh leftHost rightHost) :
      OpensAgree preopen fresh left right (.error failure, leftHost) (.error failure, rightHost)
  | opened {leftHost rightHost : Host} {memory : LinearMemory} {first second pointer : Nat}
      (leftAllocated : left.filesystem.allocateDynamicFd = .ok first)
      (rightAllocated : right.filesystem.allocateDynamicFd = .ok second)
      (leftMemory : leftHost.memory = some (memory.writeBytes pointer (leBytes 4 first)))
      (rightMemory : rightHost.memory = some (memory.writeBytes pointer (leBytes 4 second)))
      (alike : AlikeStates preopen ((first, second) :: fresh) leftHost.state rightHost.state) :
      OpensAgree preopen fresh left right (.ok (), leftHost) (.ok (), rightHost)

/-- How two requested opens compare. -/
inductive RequestedAlike (preopen : Nat) (fresh : List (Nat × Nat)) :
    Except Failure OpenedFile × Host → Except Failure OpenedFile × Host → Prop where
  | refused {failure : Failure} {left right : Host}
      (alike : AlikeHosts preopen fresh left right) :
      RequestedAlike preopen fresh (.error failure, left) (.error failure, right)
  | opened {left right : Host} {first second : Nat} {created : Bool}
      (alike : AlikeHosts preopen ((first, second) :: fresh) left right) :
      RequestedAlike preopen fresh (.ok { fd := first, created }, left)
        (.ok { fd := second, created }, right)

theorem requestedAlike_zoom {ε : Type} {convert : ε → Failure}
    {action : Action FilesystemState ε OpenedFile} {left right : Host}
    (alike : AlikeHosts preopen fresh left right)
    (opens : ∀ (state : FilesystemState) tables, state = right.state.filesystem →
      Twin preopen fresh tables state.tables →
      OpensAlike preopen fresh (action (state.withTables tables)) (action state)) :
    RequestedAlike preopen fresh (onFilesystem convert action left)
      (onFilesystem convert action right) := by
  have both : OpensAlike preopen fresh (action left.state.filesystem)
      (action right.state.filesystem) :=
    alike.state.filesystem.elim
      (motive := fun state => OpensAlike preopen fresh (action state) _)
      fun tables twin => opens _ tables rfl twin
  simp only [onFilesystem, zoom]
  generalize action left.state.filesystem = leftOutcome at both ⊢
  generalize action right.state.filesystem = rightOutcome at both ⊢
  cases both with
  | failed err parts => exact .refused (alike.withFilesystem parts)
  | opened first second created parts => exact .opened (alike.withFilesystem parts)

theorem openRequested_alike {left right : Host} {dirFd : Nat} {path : Path}
    {request : Callbacks.OpenRequest} (alike : AlikeHosts preopen fresh left right)
    (known : Known preopen fresh dirFd)
    (spares : request.directory = false → consultsPreopen preopen right.state.filesystem dirFd
      path request.rightsBase request.options = false) :
    RequestedAlike preopen fresh (Callbacks.openRequested dirFd path request left)
      (Callbacks.openRequested dirFd path request right) := by
  unfold Callbacks.openRequested
  by_cases directory : request.directory = true
  · rw [if_pos directory]
    by_cases flags : request.fdFlags ≠ 0
    · rw [if_pos flags]
      exact .refused alike
    · rw [if_neg flags]
      exact requestedAlike_zoom alike fun state tables _ twin => openDirectory_opens twin known
  · rw [if_neg directory]
    apply requestedAlike_zoom alike
    rintro state tables rfl twin
    exact openFile_opens twin known (spares (by simpa using directory))

/-- An open that has succeeded reports its number, if the place for it was checked. -/
theorem reportOpened_result {host : Host} {dirFd pointer : Nat} {path : Path}
    {opened : OpenedFile} {memory : LinearMemory}
    (mayWrite : host.capabilities.memoryWrite = true) (found : host.memory = some memory)
    (checked : memory.checkedHostRange pointer 4 = .ok pointer) :
    Callbacks.reportOpened dirFd path pointer opened host =
      (.ok (),
        { host with memory := some (memory.writeBytes pointer (leBytes 4 opened.fd)) }) := by
  have written : host.writeMemory pointer (leBytes 4 opened.fd) =
      .ok { host with memory := some (memory.writeBytes pointer (leBytes 4 opened.fd)) } := by
    have length : (leBytes 4 opened.fd).length = 4 := by simp [leBytes]
    simp [Host.writeMemory, mayWrite, found, length, checked]
  simp only [Callbacks.reportOpened, bind, ask, written, Callback.writeMemory]

theorem checkedOpen_meets {dirFlags openFlags : BitVec 32} {pathPtr pathLen fdFlags pointer : Nat}
    {rightsBase inheriting : Rights} {host : Host}
    (mayWrite : host.capabilities.memoryWrite = true) :
    Meets (fun _ after => after = host) (fun _ after => after = host ∧ Covers host pointer 4)
      (checkedOpen dirFlags pathPtr pathLen openFlags rightsBase inheriting fdFlags pointer)
      host := by
  have denies : Denies (fun _ after => after = host) host := fun _ _ => rfl
  simp only [checkedOpen, meets_bind, Callbacks.checkOpen, meets_ite, meets_pure]
  refine ⟨fun _ => rfl, fun _ => ⟨fun _ => rfl, fun _ => ⟨fun _ => rfl, fun _ =>
    ⟨fun _ => rfl, fun _ => ⟨fun _ => rfl, fun _ => ?_⟩⟩⟩⟩⟩
  apply readPath_meets denies
  intro path named
  apply preflight_meets denies mayWrite
  exact fun covers => ⟨rfl, covers⟩

/-- The checks change nothing, and leave the place for the number writable. -/
theorem checkedOpen_result {dirFlags openFlags : BitVec 32}
    {pathPtr pathLen fdFlags pointer : Nat} {rightsBase inheriting : Rights} {host : Host}
    (mayWrite : host.capabilities.memoryWrite = true) :
    (∃ failure, checkedOpen dirFlags pathPtr pathLen openFlags rightsBase inheriting fdFlags
        pointer host = (.error failure, host)) ∨
      ∃ request path, checkedOpen dirFlags pathPtr pathLen openFlags rightsBase inheriting
        fdFlags pointer host = (.ok (request, path), host) ∧ Covers host pointer 4 := by
  have meets : Meets (fun _ after => after = host)
      (fun _ after => after = host ∧ Covers host pointer 4)
      (checkedOpen dirFlags pathPtr pathLen openFlags rightsBase inheriting fdFlags pointer)
      host :=
    checkedOpen_meets mayWrite
  unfold Meets at meets
  generalize checkedOpen dirFlags pathPtr pathLen openFlags rightsBase inheriting fdFlags pointer
    host = outcome at meets
  obtain ⟨result, after⟩ := outcome
  cases result with
  | error failure => exact .inl ⟨failure, by rw [meets]⟩
  | ok checked => exact .inr ⟨checked.1, checked.2, by rw [meets.1], meets.2⟩

theorem checkedOpen_agrees {dirFlags openFlags : BitVec 32}
    {pathPtr pathLen fdFlags pointer : Nat} {rightsBase inheriting : Rights} :
    Agreeing preopen fresh
      (checkedOpen dirFlags pathPtr pathLen openFlags rightsBase inheriting fdFlags pointer) := by
  apply agrees_bind
  · exact agrees_ite (agrees_fail _) <| agrees_ite (agrees_fail _) <|
      agrees_ite (agrees_fail _) <| agrees_ite (agrees_fail _) <|
        agrees_ite (agrees_fail _) (agrees_pure _)
  · exact fun request => agrees_bind (readPath_agrees _ _) fun path =>
      agrees_bind (preflight_agrees _ _) fun _ => agrees_pure _

theorem openRequested_keeps {dirFd : Nat} {path : Path} {request : Callbacks.OpenRequest}
    {host after : Host} {opened : OpenedFile}
    (opens : Callbacks.openRequested dirFd path request host = (.ok opened, after)) :
    host.state.filesystem.allocateDynamicFd = .ok opened.fd ∧
      after.memory = host.memory ∧ after.capabilities = host.capabilities := by
  have meets : Meets (Refused host)
      (fun opened after => host.state.filesystem.allocateDynamicFd = .ok opened.fd ∧
        after.memory = host.memory ∧ after.capabilities = host.capabilities)
      (Callbacks.openRequested dirFd path request) host := by
    apply Callbacks.openRequested_meets
    intro opened filesystem opening
    refine ⟨?_, rfl, rfl⟩
    generalize request.operation dirFd path = operation at opening
    cases opening <;> assumption
  have succeeds : (Callbacks.openRequested dirFd path request host).1 = .ok opened := by
    rw [opens]
  have result := meets.of_ok succeeds
  rwa [opens] at result

theorem pathOpen_eq (dirFd : Nat) (dirFlags : BitVec 32) (pathPtr pathLen : Nat)
    (openFlags : BitVec 32) (rightsBase rightsInheriting : Rights) (fdFlags openedFdPtr : Nat) :
    Callbacks.pathOpen dirFd dirFlags pathPtr pathLen openFlags rightsBase rightsInheriting
        fdFlags openedFdPtr =
      askFilesystem (·.hasDirectoryDescriptor dirFd) >>= fun isDirectory =>
        if ¬ isDirectory = true then failWith .badf
        else
          checkedOpen dirFlags pathPtr pathLen openFlags rightsBase rightsInheriting fdFlags
              openedFdPtr >>= fun checked =>
            Callbacks.openRequested dirFd checked.2 checked.1 >>=
              Callbacks.reportOpened dirFd checked.2 openedFdPtr := by
  simp only [Callbacks.pathOpen, checkedOpen, Action.bind_assoc, Action.pure_bind]

/-- What `path_open` does once its arguments have been checked. -/
theorem checked_agrees {checks : Callback (Callbacks.OpenRequest × Path)} {dirFd pointer : Nat}
    {left right : Host} (agrees : Agreeing preopen fresh checks)
    (result : ∀ host : Host, host.capabilities.memoryWrite = true →
      (∃ failure, checks host = (.error failure, host)) ∨
        ∃ request path, checks host = (.ok (request, path), host) ∧ Covers host pointer 4)
    (alike : AlikeHosts preopen fresh left right)
    (mayWrite : right.capabilities.memoryWrite = true) (known : Known preopen fresh dirFd)
    (spares : ∀ request path, (checks right).1 = .ok (request, path) →
      request.directory = false →
      consultsPreopen preopen right.state.filesystem dirFd path request.rightsBase
        request.options = false) :
    OpensAgree preopen fresh left.state right.state
      ((checks >>= fun checked => Callbacks.openRequested dirFd checked.2 checked.1 >>=
        Callbacks.reportOpened dirFd checked.2 pointer) left)
      ((checks >>= fun checked => Callbacks.openRequested dirFd checked.2 checked.1 >>=
        Callbacks.reportOpened dirFd checked.2 pointer) right) := by
  have mayWriteLeft : left.capabilities.memoryWrite = true := by
    rw [alike.capabilities]
    exact mayWrite
  have same := (agrees left right alike).1
  rcases result right mayWrite with ⟨failure, rightFails⟩ | ⟨request, path, rightPasses, covers⟩
  · rcases result left mayWriteLeft with ⟨other, leftFails⟩ | ⟨request, path, leftPasses, -⟩
    · rw [leftFails, rightFails] at same
      cases same
      rw [bind_of_error leftFails, bind_of_error rightFails]
      exact .refused alike
    · rw [leftPasses, rightFails] at same
      cases same
  · rcases result left mayWriteLeft with ⟨other, leftFails⟩ | ⟨asked, name, leftPasses, -⟩
    · rw [leftFails, rightPasses] at same
      cases same
    · rw [leftPasses, rightPasses] at same
      cases same
      rw [bind_of_ok leftPasses, bind_of_ok rightPasses]
      have opens := openRequested_alike alike known
        (spares request path (by rw [rightPasses]))
      cases leftOpens : Callbacks.openRequested dirFd path request left with
      | mk leftResult leftAfter =>
      cases rightOpens : Callbacks.openRequested dirFd path request right with
      | mk rightResult rightAfter =>
      rw [leftOpens, rightOpens] at opens
      cases opens with
      | refused alikeAfter =>
        rw [bind_of_error leftOpens, bind_of_error rightOpens]
        exact .refused alikeAfter
      | opened alikeAfter =>
        obtain ⟨leftAllocated, leftMemory, leftCapabilities⟩ := openRequested_keeps leftOpens
        obtain ⟨rightAllocated, rightMemory, rightCapabilities⟩ := openRequested_keeps rightOpens
        obtain ⟨-, memory, found, checked⟩ := covers
        rw [bind_of_ok leftOpens, bind_of_ok rightOpens,
          reportOpened_result (by rw [leftCapabilities]; exact mayWriteLeft)
            (by rw [leftMemory, alike.memory, found]) checked,
          reportOpened_result (by rw [rightCapabilities]; exact mayWrite)
            (by rw [rightMemory, found]) checked]
        exact .opened leftAllocated rightAllocated rfl rfl alikeAfter.state

theorem pathOpen_agrees {left right : Host} (alike : AlikeHosts preopen fresh left right)
    (mayWrite : right.capabilities.memoryWrite = true) {dirFd : Nat}
    (known : Known preopen fresh dirFd) {dirFlags openFlags : BitVec 32}
    {pathPtr pathLen fdFlags pointer : Nat} {rightsBase inheriting : Rights}
    (spares : ∀ request path,
      (checkedOpen dirFlags pathPtr pathLen openFlags rightsBase inheriting fdFlags pointer
        right).1 = .ok (request, path) →
      request.directory = false →
      consultsPreopen preopen right.state.filesystem dirFd path request.rightsBase
        request.options = false) :
    OpensAgree preopen fresh left.state right.state
      (Callbacks.pathOpen dirFd dirFlags pathPtr pathLen openFlags rightsBase inheriting fdFlags
        pointer left)
      (Callbacks.pathOpen dirFd dirFlags pathPtr pathLen openFlags rightsBase inheriting fdFlags
        pointer right) := by
  have sameDescriptor : left.state.filesystem.hasDirectoryDescriptor dirFd =
      right.state.filesystem.hasDirectoryDescriptor dirFd :=
    alike.state.filesystem.elim
      (motive := fun state => state.hasDirectoryDescriptor dirFd = _)
      fun tables twin => hasDirectoryDescriptor_same twin known
  rw [pathOpen_eq]
  change OpensAgree preopen fresh _ _
    ((if ¬ left.state.filesystem.hasDirectoryDescriptor dirFd = true then failWith .badf
      else _) left)
    ((if ¬ right.state.filesystem.hasDirectoryDescriptor dirFd = true then failWith .badf
      else _) right)
  rw [sameDescriptor]
  by_cases isDirectory : right.state.filesystem.hasDirectoryDescriptor dirFd = true
  · rw [if_neg (not_not_intro isDirectory)]
    exact checked_agrees checkedOpen_agrees (fun host => checkedOpen_result) alike mayWrite known
      spares
  · rw [if_pos isDirectory]
    exact .refused alike

end Agreement

/-! ## Two runs -/

/-- The number that a request gives to the descriptor that it opens. -/
def openedBy (config : Config) (state : WasiState) (request : Request) : Option Nat :=
  match request.call, (respond config state request).1, state.filesystem.allocateDynamicFd with
  | .pathOpen .., .ok _, .ok fd => some fd
  | _, _, _ => none

/-- The numbers of the descriptors opened since, after one more request. -/
def freshAfter (config : Config) (fresh : List (Nat × Nat)) (left right : WasiState)
    (request : Request) : List (Nat × Nat) :=
  match openedBy config left request, openedBy config right request with
  | some first, some second => (first, second) :: fresh
  | _, _ => fresh

/-- The request opens a file with arguments that pass the checks, and the open gets as far
as asking whether the preopen is writable, while it is. -/
def Request.consults (request : Request) (preopen : Nat) (state : WasiState) : Bool :=
  match request.call with
  | .pathOpen dirFd dirFlags path pathLen openFlags rightsBase rightsInheriting fdFlags
      openedFd =>
      match (checkedOpen dirFlags path.toNat pathLen.toNat openFlags rightsBase
        rightsInheriting fdFlags.toNat openedFd.toNat (request.host state)).1 with
      | .error _ => false
      | .ok (asked, name) =>
          !asked.directory &&
            consultsPreopen preopen state.filesystem dirFd.toNat name asked.rightsBase
              asked.options
  | _ => false

/-- Every request of two runs meets the condition, given the states it is made in and the
numbers of the descriptors that were opened before it. -/
def AlongBoth (condition : List (Nat × Nat) → WasiState → WasiState → Request → Prop)
    (config : Config) : List (Nat × Nat) → WasiState → WasiState → List Request → Prop
  | _, _, _, [] => True
  | fresh, left, right, request :: requests =>
      condition fresh left right request ∧
        AlongBoth condition config (freshAfter config fresh left right request)
          (afterCall config left request) (afterCall config right request) requests

/-- The numbers of all descriptors that are opened along two runs. -/
def freshAlong (config : Config) :
    List (Nat × Nat) → WasiState → WasiState → List Request → List (Nat × Nat)
  | fresh, _, _, [] => fresh
  | fresh, left, right, request :: requests =>
      freshAlong config (freshAfter config fresh left right request)
        (afterCall config left request) (afterCall config right request) requests

/-- The memories are the same, but for the number of a descriptor that was opened. -/
def SameMemory : Option Nat → Option Nat → Option LinearMemory → Option LinearMemory → Prop
  | none, none, left, right => left = right
  | some first, some second, left, right =>
      ∃ (memory : LinearMemory) (pointer : Nat),
        left = some (memory.writeBytes pointer (leBytes 4 first)) ∧
          right = some (memory.writeBytes pointer (leBytes 4 second))
  | _, _, _, _ => False

/-- The request is answered alike in two states, up to the number of the descriptor that it
opens. -/
structure AnsweredAlike (config : Config) (left right : WasiState) (request : Request) :
    Prop where
  result : (respond config left request).1 = (respond config right request).1
  memory : SameMemory (openedBy config left request) (openedBy config right request)
    (respond config left request).2.memory (respond config right request).2.memory

section Runs

variable {preopen : Nat} {fresh : List (Nat × Nat)} {config : Config} {left right : WasiState}

theorem openedBy_of_failure {state : WasiState} {request : Request} {failure : Failure}
    (fails : (respond config state request).1 = .error failure) :
    openedBy config state request = none := by
  unfold openedBy
  rw [fails]
  cases request.call <;> rfl

theorem AnswersAgree.answered {request : Request}
    (agree : AnswersAgree preopen fresh (respond config left request)
      (respond config right request))
    (leftNothing : openedBy config left request = none)
    (rightNothing : openedBy config right request = none) :
    AnsweredAlike config left right request ∧
      AlikeStates preopen (freshAfter config fresh left right request)
        (afterCall config left request) (afterCall config right request) := by
  refine ⟨⟨agree.1, ?_⟩, ?_⟩
  · rw [leftNothing, rightNothing]
    exact agree.2.memory
  · unfold freshAfter
    rw [leftNothing, rightNothing]
    exact agree.2.state

/-- One request that names known descriptors and does not ask for the preopen. -/
theorem answered_alike (alike : AlikeStates preopen fresh left right) {request : Request}
    (known : ∀ fd ∈ request.names, Known preopen fresh fd)
    (spares : request.consults preopen right = false) :
    AnsweredAlike config left right request ∧
      AlikeStates preopen (freshAfter config fresh left right request)
        (afterCall config left request) (afterCall config right request) := by
  by_cases opens : ∃ dirFd dirFlags path pathLen openFlags base inheriting fdFlags openedFd,
      request.call = .pathOpen dirFd dirFlags path pathLen openFlags base inheriting fdFlags
        openedFd
  · obtain ⟨memory, call⟩ := request
    obtain ⟨dirFd, dirFlags, path, pathLen, openFlags, base, inheriting, fdFlags, openedFd,
      rfl⟩ := opens
    let request : Request :=
      { memory
        call := .pathOpen dirFd dirFlags path pathLen openFlags base inheriting fdFlags
          openedFd }
    have opened : OpensAgree preopen fresh left right (respond config left request)
        (respond config right request) := by
      apply pathOpen_agrees (alike.hosts request) rfl (known _ List.mem_cons_self)
      intro asked name passes isFile
      simp only [Request.consults] at spares
      have passed : (checkedOpen dirFlags path.toNat pathLen.toNat openFlags base inheriting
          fdFlags.toNat openedFd.toNat (request.host right)).1 = .ok (asked, name) := passes
      rw [passed] at spares
      have consults : consultsPreopen preopen right.filesystem dirFd.toNat name asked.rightsBase
          asked.options = false := by
        simpa [isFile] using spares
      exact consults
    generalize leftAnswer : respond config left request = answer at opened
    generalize rightAnswer : respond config right request = otherAnswer at opened
    cases opened with
    | @refused failure leftHost rightHost alikeHosts =>
      apply AnswersAgree.answered
      · rw [leftAnswer, rightAnswer]
        exact ⟨rfl, alikeHosts⟩
      · exact openedBy_of_failure (by rw [leftAnswer])
      · exact openedBy_of_failure (by rw [rightAnswer])
    | @opened leftHost rightHost before first second pointer leftAllocated rightAllocated
        leftMemory rightMemory alikeAfter =>
      have leftOpened : openedBy config left request = some first := by
        simp only [openedBy, leftAnswer, leftAllocated, request]
      have rightOpened : openedBy config right request = some second := by
        simp only [openedBy, rightAnswer, rightAllocated, request]
      refine ⟨⟨?_, ?_⟩, ?_⟩
      · rw [leftAnswer, rightAnswer]
      · rw [leftOpened, rightOpened, leftAnswer, rightAnswer]
        exact ⟨before, pointer, leftMemory, rightMemory⟩
      · unfold freshAfter afterCall
        rw [leftOpened, rightOpened, leftAnswer, rightAnswer]
        exact alikeAfter
  · have others : ∀ dirFd dirFlags path pathLen openFlags base inheriting fdFlags openedFd,
        request.call ≠ .pathOpen dirFd dirFlags path pathLen openFlags base inheriting fdFlags
          openedFd :=
      fun _ _ _ _ _ _ _ _ _ same => opens ⟨_, _, _, _, _, _, _, _, _, same⟩
    have nothing (state : WasiState) : openedBy config state request = none := by
      unfold openedBy
      split
      · next dirFd dirFlags path pathLen openFlags base inheriting fdFlags openedFd _ _ same _ _ =>
        exact (others _ _ _ _ _ _ _ _ _ same).elim
      · rfl
    exact (respond_agrees alike known others).answered (nothing left) (nothing right)

/-- Both runs answer every request alike. -/
theorem runs_alike {requests : List Request} (alike : AlikeStates preopen fresh left right)
    (known : AlongBoth (fun fresh _ _ request => ∀ fd ∈ request.names, Known preopen fresh fd)
      config fresh left right requests)
    (spares : AlongBoth (fun _ _ right request => request.consults preopen right = false)
      config fresh left right requests) :
    AlongBoth (fun _ left right request => AnsweredAlike config left right request) config fresh
        left right requests ∧
      AlikeStates preopen (freshAlong config fresh left right requests)
        (afterCalls config left requests) (afterCalls config right requests) := by
  induction requests generalizing fresh left right with
  | nil => exact ⟨trivial, alike⟩
  | cons request requests ih =>
    obtain ⟨answered, alikeAfter⟩ := answered_alike alike known.1 spares.1
    obtain ⟨others, alikeLast⟩ := ih alikeAfter known.2 spares.2
    exact ⟨⟨answered, others⟩, alikeLast⟩

end Runs

/-! ## Closing -/

theorem preopens_close_alike (entries : List PreopenDir) (fd : Nat) :
    List.Forall₂ (AlikePreopen fd) ((Operation.close fd).preopens entries) entries := by
  have same (others : List PreopenDir) : List.Forall₂ (AlikePreopen fd) others others :=
    List.forall₂_same.mpr fun entry _ => ⟨rfl, rfl, fun _ => rfl⟩
  simp only [Operation.preopens]
  induction entries with
  | nil => exact .nil
  | cons entry entries ih =>
    rw [List.findIdx?_cons]
    by_cases here : entry.fd = fd
    · simp only [here, decide_true, if_true]
      exact .cons ⟨here.symm ▸ rfl, rfl, fun other => absurd here other⟩ (same entries)
    · simp only [here, decide_false, Bool.false_eq_true, if_false]
      cases position : entries.findIdx? (·.fd = fd) with
      | none => exact same _
      | some index =>
        rw [position] at ih
        exact .cons ⟨rfl, rfl, fun _ => rfl⟩ ih

theorem Mounted.room {wasi : Preview1} (mounted : Mounted wasi) :
    wasi.state.preopens.length ≤ maxPreopenDirs := by
  induction mounted with
  | new config stdin entropy => exact Nat.zero_le _
  | @preopen wasi after guestPath writable mounted added ih =>
    rw [(Preview1.withPreopenPolicy_ok added).1]
    unfold Preview1.withPreopenPolicy at added
    split_ifs at added with empty tooLong full
    simp only [List.length_append, List.length_singleton]
    omega
  | file mounted added ih =>
    obtain ⟨entry, filesystem, -, -, rfl⟩ := Preview1.withFilePolicy_ok added
    exact ih

/-- In a state that calls lead to, the preopens are listed once and there are not too
many. -/
theorem Reached.listed {wasi : Preview1} {state : WasiState} (reached : Reached wasi state)
    (mounted : Mounted wasi) : state.filesystem.tables.Listed where
  reserved := reached.coherent.reserved.reserved
  writable := reached.coherent.reserved.writable
  room := by
    have inside : state.filesystem.reservedPreopens ⊆
        (List.range wasi.state.preopens.length).map (firstPreopenFd + ·) := by
      intro fd member
      obtain ⟨least, most⟩ := (mounted.registered.reserved fd).mp
        (reached.lifetimes.reserved fd member)
      exact List.mem_map.mpr ⟨fd - firstPreopenFd, List.mem_range.mpr (by omega), by omega⟩
    have count := (List.Nodup.subperm reached.coherent.reserved.reserved inside).length_le
    rw [List.length_map, List.length_range] at count
    exact count.trans mounted.room

/-- Closing a preopen leaves a state that differs in nothing else. -/
theorem closed_alike {wasi : Preview1} {state : WasiState} (reached : Reached wasi state)
    (mounted : Mounted wasi) (config : Config) {preopen : I32}
    (isPreopen : state.filesystem.hasPreopen preopen.toNat = true)
    (memory : Option LinearMemory) :
    AlikeStates preopen.toNat []
      (afterCall config state { memory, call := .fdClose preopen }) state := by
  rw [afterCall_close]
  have listed := reached.listed mounted
  obtain ⟨-, noFile, noDirectory⟩ := reached.separate.preopens _ isPreopen
  refine ⟨rfl, rfl, rfl, rfl, rfl, preopens_close_alike _ _, rfl, ?_⟩
  constructor
  · intro fd other
    exact List.mem_erase_of_ne other
  · intro fd other
    exact List.mem_erase_of_ne other
  · exact listed.writable.not_mem_erase
  · intro fd known
    exact AList.lookup_erase_ne known.1
  · intro fd known
    exact AList.lookup_erase_ne known.1
  · intro pair member
    cases member
  · intro pair member
    cases member
  · intro pair member
    cases member
  · exact (length_keys_erase _ _).trans (by rw [noFile]; rfl)
  · exact (length_keys_erase _ _).trans (by rw [noDirectory]; rfl)
  · exact listed.close _
  · exact listed

/-- A run is answered alike with and without a preopen closed before it, if it names neither
the preopen nor a descriptor opened since, and no request in it asks whether the preopen is
writable. -/
theorem closing_spares_others {wasi : Preview1} (mounted : Mounted wasi)
    (history : List Request) (preopen : I32) (memory : Option LinearMemory)
    (requests : List Request) :
    let open' := afterCalls wasi.config wasi.state history
    let closed := afterCall wasi.config open' { memory, call := .fdClose preopen }
    open'.filesystem.hasPreopen preopen.toNat = true →
    AlongBoth (fun fresh _ _ request => ∀ fd ∈ request.names, Known preopen.toNat fresh fd)
      wasi.config [] closed open' requests →
    AlongBoth (fun _ _ right request => request.consults preopen.toNat right = false)
      wasi.config [] closed open' requests →
    AlongBoth (fun _ left right request => AnsweredAlike wasi.config left right request)
        wasi.config [] closed open' requests ∧
      AlikeStates preopen.toNat (freshAlong wasi.config [] closed open' requests)
        (afterCalls wasi.config closed requests) (afterCalls wasi.config open' requests) := by
  intro open' closed isPreopen known spares
  exact runs_alike
    (closed_alike (mounted.reaches history) mounted wasi.config isPreopen memory) known spares

/-- `path_create_directory` of `a` in the open directory `d`, after its preopen is
closed. -/
theorem closing_spares_others_directory :
    let wasi := Preview1.workspace true
    let open' := afterCalls wasi.config wasi.state openNested
    let closed := afterCall wasi.config open' { memory := none, call := .fdClose 3 }
    let requests := [fromGuest (.pathCreateDirectory 4 0 1)]
    AlongBoth (fun _ left right request => AnsweredAlike wasi.config left right request)
        wasi.config [] closed open' requests ∧
      AlikeStates 3 (freshAlong wasi.config [] closed open' requests)
        (afterCalls wasi.config closed requests) (afterCalls wasi.config open' requests) :=
  closing_spares_others (workspace_mounted true) openNested 3 none
    [fromGuest (.pathCreateDirectory 4 0 1)] (by decide) ⟨by decide, trivial⟩
    ⟨by decide, trivial⟩

/-- With the preopen closed, `path_open` no longer creates the file `a` in the open
directory `d`. -/
theorem closing_stops_creation :
    let wasi := Preview1.workspace true
    let open' := afterCalls wasi.config wasi.state openNested
    let closed := afterCall wasi.config open' { memory := none, call := .fdClose 3 }
    let request := fromGuest (.pathOpen 4 0 0 1 1 Rights.fdRead 0 0 16)
    Mounted wasi ∧ open'.filesystem.hasPreopen 3 = true ∧
      (∀ fd ∈ request.names, Known 3 [] fd) ∧
      (respond wasi.config open' request).1 = .ok () ∧
      (respond wasi.config closed request).1 = .error (.errno .notcapable) ∧
      ¬ AnsweredAlike wasi.config closed open' request := by
  refine ⟨workspace_mounted true, by decide, by decide, by decide, by decide, ?_⟩
  intro alike
  exact absurd alike.result (by decide)

end MiniWasm.Wasi
