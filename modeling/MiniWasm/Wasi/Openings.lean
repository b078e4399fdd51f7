import MiniWasm.Wasi.Twins

/-!
# Opening in filesystems with different descriptors

An open gives its descriptor the lowest number that is free, which can be another in
a state with other descriptors.  But for the number it does the same, unless it asks
whether the preopen that only one of the states has is writable.
-/

namespace MiniWasm.Wasi

open Library Action FilesystemState

/-! ## Free numbers -/

namespace FilesystemState

/-- The number is not bound. -/
structure Free (state : FilesystemState) (fd : Nat) : Prop where
  preopen : state.hasPreopen fd = false
  file : state.openFiles.lookup fd = none
  directory : state.openDirectories.lookup fd = none

theorem firstFree_free {state : FilesystemState} {candidates candidate fd : Nat}
    (found : state.firstFree candidates candidate = .ok fd) : state.Free fd := by
  induction candidates generalizing candidate with
  | zero => cases found
  | succ candidates ih =>
    unfold firstFree at found
    split_ifs at found with free
    · cases found
      obtain ⟨notPreopen, noFile, noDirectory⟩ := free
      exact ⟨by simpa using notPreopen, by simpa using noFile, by simpa using noDirectory⟩
    · exact ih found

/-- More candidates than numbers that are bound. -/
theorem firstFree_ok {state : FilesystemState} {candidates candidate : Nat} (bound : List Nat)
    (listed : ∀ fd, candidate ≤ fd → fd ∈ bound ∨ state.Free fd)
    (enough : bound.length < candidates) :
    ∃ fd, state.firstFree candidates candidate = .ok fd := by
  induction candidates generalizing candidate bound with
  | zero => cases enough
  | succ candidates ih =>
    unfold firstFree
    split_ifs with free
    · exact ⟨candidate, rfl⟩
    · have member : candidate ∈ bound := by
        rcases listed candidate le_rfl with member | isFree
        · exact member
        · exact absurd ⟨by simp [isFree.preopen], by simp [isFree.file],
            by simp [isFree.directory]⟩ free
      apply ih (bound.erase candidate)
      · intro fd after
        rcases listed fd (by omega) with known | isFree
        · exact .inl ((List.mem_erase_of_ne (by omega)).mpr known)
        · exact .inr isFree
      · rw [List.length_erase_of_mem member]
        have := List.length_pos_of_mem member
        omega

/-- A number is bound or free. -/
theorem mem_bound_or_free {state : FilesystemState} (fd : Nat) :
    fd ∈ state.reservedPreopens ++ state.openFiles.keys ++ state.openDirectories.keys ∨
      state.Free fd := by
  by_cases bound :
      fd ∈ state.reservedPreopens ++ state.openFiles.keys ++ state.openDirectories.keys
  · exact .inl bound
  · simp only [List.mem_append, not_or] at bound
    refine .inr ⟨by simpa [hasPreopen] using bound.1.1, ?_, ?_⟩
    · exact AList.lookup_eq_none.mpr bound.1.2
    · exact AList.lookup_eq_none.mpr bound.2

/-- The search for a number only ends without one when too many descriptors are open. -/
theorem allocateDynamicFd_eq {state : FilesystemState} (listed : state.tables.Listed) :
    if maxOpenFiles ≤ state.openFiles.keys.length + state.openDirectories.keys.length then
      state.allocateDynamicFd = .error .tooManyOpenFiles
    else
      ∃ fd, state.allocateDynamicFd = .ok fd ∧ state.Free fd := by
  unfold allocateDynamicFd
  split_ifs with full
  · rfl
  · obtain ⟨fd, found⟩ :
        ∃ fd, state.firstFree (2 ^ 32 - firstDynamicFd) firstDynamicFd = .ok fd := by
      apply firstFree_ok
        (state.reservedPreopens ++ state.openFiles.keys ++ state.openDirectories.keys)
      · exact fun fd _ => mem_bound_or_free fd
      · have room := listed.room
        simp only [tables, maxPreopenDirs, maxOpenFiles, firstDynamicFd, List.length_append]
          at room full ⊢
        omega
    exact ⟨fd, found, firstFree_free found⟩

end FilesystemState

/-! ## Twins -/

section Openings

variable {preopen : Nat} {fresh : List (Nat × Nat)} {left : Tables} {state : FilesystemState}

/-- Both states give out a number, or both have too many descriptors. -/
theorem Twin.allocate (twin : Twin preopen fresh left state.tables) :
    ((state.withTables left).allocateDynamicFd = .error .tooManyOpenFiles ∧
        state.allocateDynamicFd = .error .tooManyOpenFiles) ∨
      ∃ first second, (state.withTables left).allocateDynamicFd = .ok first ∧
        state.allocateDynamicFd = .ok second ∧ (state.withTables left).Free first ∧
        state.Free second := by
  have leftListed : (state.withTables left).tables.Listed := twin.leftLists
  have leftResult := allocateDynamicFd_eq leftListed
  have rightResult := allocateDynamicFd_eq twin.rightLists
  have sameCount : (state.withTables left).openFiles.keys.length +
      (state.withTables left).openDirectories.keys.length =
      state.openFiles.keys.length + state.openDirectories.keys.length :=
    congrArg₂ (· + ·) twin.fileCount twin.directoryCount
  rw [sameCount] at leftResult
  split_ifs at leftResult rightResult with full
  · exact .inl ⟨leftResult, rightResult⟩
  · obtain ⟨first, leftAllocated, leftFree⟩ := leftResult
    obtain ⟨second, rightAllocated, rightFree⟩ := rightResult
    exact .inr ⟨first, second, leftAllocated, rightAllocated, leftFree, rightFree⟩

theorem length_keys_insert_fresh {α : Type} {entries : AList fun _ : Nat => α} {key : Nat}
    {new : α} (free : entries.lookup key = none) :
    (entries.insert key new).keys.length = entries.keys.length + 1 := by
  have absent : key ∉ entries.keys := AList.lookup_eq_none.mp free
  rw [AList.keys_insert, List.length_cons, List.erase_of_not_mem absent]

theorem Known.of_cons {pair : Nat × Nat} {fd : Nat} (known : Known preopen (pair :: fresh) fd) :
    Known preopen fresh fd ∧ fd ≠ pair.1 ∧ fd ≠ pair.2 :=
  ⟨⟨known.1, fun old member => known.2 old (List.mem_cons_of_mem _ member)⟩,
    known.2 pair List.mem_cons_self⟩

/-- A free number is not that of a descriptor opened before. -/
theorem Twin.freshApart (twin : Twin preopen fresh left state.tables) {first second : Nat}
    (leftFree : (state.withTables left).Free first) (rightFree : state.Free second)
    {pair : Nat × Nat} (member : pair ∈ fresh) : pair.1 ≠ first ∧ pair.2 ≠ second := by
  have isOpen := twin.freshOpen pair member
  constructor
  · intro same
    rw [same] at isOpen
    rcases isOpen with isFile | isDirectory
    · rw [show left.openFiles.lookup first = none from leftFree.file] at isFile
      cases isFile
    · rw [show left.openDirectories.lookup first = none from leftFree.directory] at isDirectory
      cases isDirectory
  · intro same
    rw [twin.freshFiles pair member, twin.freshDirectories pair member, same] at isOpen
    rcases isOpen with isFile | isDirectory
    · rw [show state.tables.openFiles.lookup second = none from rightFree.file] at isFile
      cases isFile
    · rw [show state.tables.openDirectories.lookup second = none from rightFree.directory]
        at isDirectory
      cases isDirectory

/-- The same file is opened in both states. -/
theorem Twin.openedFile (twin : Twin preopen fresh left state.tables) {first second : Nat}
    (leftFree : (state.withTables left).Free first) (rightFree : state.Free second)
    (opened : OpenFile) :
    Twin preopen ((first, second) :: fresh)
      { left with openFiles := left.openFiles.insert first opened }
      { state.tables with openFiles := state.openFiles.insert second opened } where
  reserved := twin.reserved
  writable := twin.writable
  notWritable := twin.notWritable
  files fd known := by
    obtain ⟨before, notFirst, notSecond⟩ := known.of_cons
    rw [AList.lookup_insert_ne notFirst, AList.lookup_insert_ne notSecond]
    exact twin.files fd before
  directories fd known := twin.directories fd known.of_cons.1
  freshFiles pair member := by
    rcases List.mem_cons.mp member with rfl | old
    · rw [AList.lookup_insert, AList.lookup_insert]
    · obtain ⟨notFirst, notSecond⟩ := twin.freshApart leftFree rightFree old
      rw [AList.lookup_insert_ne notFirst, AList.lookup_insert_ne notSecond]
      exact twin.freshFiles pair old
  freshDirectories pair member := by
    rcases List.mem_cons.mp member with rfl | old
    · exact leftFree.directory.trans rightFree.directory.symm
    · exact twin.freshDirectories pair old
  freshOpen pair member := by
    rcases List.mem_cons.mp member with rfl | old
    · rw [AList.lookup_insert]
      exact .inl rfl
    · rw [AList.lookup_insert_ne (twin.freshApart leftFree rightFree old).1]
      exact twin.freshOpen pair old
  fileCount :=
    calc
      _ = left.openFiles.keys.length + 1 := length_keys_insert_fresh leftFree.file
      _ = state.openFiles.keys.length + 1 := congrArg (· + 1) twin.fileCount
      _ = _ := (length_keys_insert_fresh rightFree.file).symm
  directoryCount := twin.directoryCount
  leftLists := ⟨twin.leftLists.reserved, twin.leftLists.writable, twin.leftLists.room⟩
  rightLists := ⟨twin.rightLists.reserved, twin.rightLists.writable, twin.rightLists.room⟩

/-- The same directory is opened in both states. -/
theorem Twin.openedDirectory (twin : Twin preopen fresh left state.tables) {first second : Nat}
    (leftFree : (state.withTables left).Free first) (rightFree : state.Free second)
    (opened : OpenDirectory) :
    Twin preopen ((first, second) :: fresh)
      { left with openDirectories := left.openDirectories.insert first opened }
      { state.tables with openDirectories := state.openDirectories.insert second opened } where
  reserved := twin.reserved
  writable := twin.writable
  notWritable := twin.notWritable
  files fd known := twin.files fd known.of_cons.1
  directories fd known := by
    obtain ⟨before, notFirst, notSecond⟩ := known.of_cons
    rw [AList.lookup_insert_ne notFirst, AList.lookup_insert_ne notSecond]
    exact twin.directories fd before
  freshFiles pair member := by
    rcases List.mem_cons.mp member with rfl | old
    · exact leftFree.file.trans rightFree.file.symm
    · exact twin.freshFiles pair old
  freshDirectories pair member := by
    rcases List.mem_cons.mp member with rfl | old
    · rw [AList.lookup_insert, AList.lookup_insert]
    · obtain ⟨notFirst, notSecond⟩ := twin.freshApart leftFree rightFree old
      rw [AList.lookup_insert_ne notFirst, AList.lookup_insert_ne notSecond]
      exact twin.freshDirectories pair old
  freshOpen pair member := by
    rcases List.mem_cons.mp member with rfl | old
    · rw [AList.lookup_insert]
      exact .inr rfl
    · rw [AList.lookup_insert_ne (twin.freshApart leftFree rightFree old).1]
      exact twin.freshOpen pair old
  fileCount := twin.fileCount
  directoryCount :=
    calc
      _ = left.openDirectories.keys.length + 1 := length_keys_insert_fresh leftFree.directory
      _ = state.openDirectories.keys.length + 1 := congrArg (· + 1) twin.directoryCount
      _ = _ := (length_keys_insert_fresh rightFree.directory).symm
  leftLists := ⟨twin.leftLists.reserved, twin.leftLists.writable, twin.leftLists.room⟩
  rightLists := ⟨twin.rightLists.reserved, twin.rightLists.writable, twin.rightLists.room⟩

/-! ## Opens -/

/-- How two opens in alike states end: they fail alike, or give numbers to the same. -/
inductive OpensAlike {ε : Type} (preopen : Nat) (fresh : List (Nat × Nat)) :
    Except ε OpenedFile × FilesystemState → Except ε OpenedFile × FilesystemState → Prop where
  | failed {left right : FilesystemState} (err : ε) (alike : Alike preopen fresh left right) :
      OpensAlike preopen fresh (.error err, left) (.error err, right)
  | opened {left right : FilesystemState} (first second : Nat) (created : Bool)
      (alike : Alike preopen ((first, second) :: fresh) left right) :
      OpensAlike preopen fresh (.ok { fd := first, created }, left)
        (.ok { fd := second, created }, right)

/-- An open of a location asks whether the preopen is writable. -/
def asksForWriting (state : FilesystemState) (location : Location) (rightsBase : Rights)
    (options : OpenOptions) : Bool :=
  match state.fileAt location with
  | none => options.create
  | some file =>
      file.writable && !options.exclusive && decide (rightsBase &&& Rights.mutation ≠ 0)

/-- The open of a file, through the descriptor of a directory, that gets as far as asking
whether the given preopen is writable, while it is. -/
def consultsPreopen (preopen : Nat) (state : FilesystemState) (dirFd : Nat) (path : Path)
    (rightsBase : Rights) (options : OpenOptions) : Bool :=
  match state.resolveDirectoryPath dirFd path Rights.pathOpen, state.allocateDynamicFd with
  | .ok (location, rights), .ok _ =>
      decide (location.preopenFd = preopen) && state.isWritablePreopen preopen &&
        (!options.create || decide (rights &&& Rights.pathCreateFile ≠ 0)) &&
        (state.directoryAt location).isNone && (state.symlinkAt location).isNone &&
        asksForWriting state location rightsBase options
  | _, _ => false

theorem follows_bind {ε α β : Type} {first second : Action FilesystemState ε α}
    {next otherNext : α → Action FilesystemState ε β}
    (follows : Follows first second state left)
    (continues : ∀ value after, second state = (.ok value, after) →
      Follows (next value) (otherNext value) after left) :
    Follows (first >>= next) (second >>= otherNext) state left := by
  obtain ⟨result, same⟩ := follows
  unfold Follows
  simp only [bind, result]
  cases outcome : second state with
  | mk value after =>
    rw [outcome] at same
    cases value with
    | error err => exact ⟨rfl, same⟩
    | ok value =>
      obtain ⟨continued, kept⟩ := continues value after outcome
      exact ⟨continued, kept.trans same⟩

/-- The entry is found or created alike, unless creating it asks for writing. -/
theorem entryToOpen_follows {location : Location} {options : OpenOptions}
    (same : state.fileAt location = none → options.create = true →
      (state.withTables left).isWritablePreopen location.preopenFd =
        state.isWritablePreopen location.preopenFd) :
    Follows (entryToOpen location options) (entryToOpen location options) state left := by
  apply follows_ask
  rw [withTables_fileAt]
  cases found : state.fileAt location with
  | some file =>
    apply follows_ite
    · exact fun _ => follows_fail _
    · exact fun _ => follows_pure _
  | none =>
    refine follows_bind ?_ fun file after _ => follows_pure _
    apply follows_ask
    apply follows_ite
    · exact fun _ => follows_fail _
    intro create
    dsimp only [id]
    rw [same found (by simpa using create)]
    apply follows_ite
    · exact fun _ => follows_fail _
    intro writable
    apply follows_ite
    · exact fun _ => follows_fail _
    intro room
    apply follows_ite
    · exact fun _ => follows_fail _
    intro parent
    apply follows_ite
    · exact fun _ => follows_fail _
    · exact fun _ => ⟨rfl, rfl⟩

theorem refuseOpen_follows {α : Type} (created : Bool) :
    Follows (refuseOpen (α := α) created) (refuseOpen created) state left := by
  cases created with
  | false => exact follows_fail _
  | true => exact ⟨rfl, rfl⟩

theorem OpensAlike.of_follows {ε : Type} {err : ε}
    {first second : Action FilesystemState ε OpenedFile}
    (twin : Twin preopen fresh left state.tables) (follows : Follows first second state left)
    (fails : (second state).1 = .error err) :
    OpensAlike preopen fresh (first (state.withTables left)) (second state) := by
  obtain ⟨result, same⟩ := follows
  rw [result]
  cases outcome : second state with
  | mk value after =>
    rw [outcome] at fails same
    cases fails
    exact .failed err (twin.alike same)

theorem opens_ite {ε : Type} {condition otherCondition : Prop} [Decidable condition]
    [Decidable otherCondition] {yes no otherYes otherNo : Action FilesystemState ε OpenedFile}
    {first second : FilesystemState} (same : condition ↔ otherCondition)
    (whenTrue : otherCondition → OpensAlike preopen fresh (yes first) (otherYes second))
    (whenFalse : ¬ otherCondition → OpensAlike preopen fresh (no first) (otherNo second)) :
    OpensAlike preopen fresh ((if condition then yes else no) first)
      ((if otherCondition then otherYes else otherNo) second) := by
  by_cases holds : otherCondition
  · rw [if_pos (same.mpr holds), if_pos holds]
    exact whenTrue holds
  · rw [if_neg (mt same.mp holds), if_neg holds]
    exact whenFalse holds

/-- The file is opened in both states, or refused in both. -/
theorem grantFile_opens {location : Location} {rightsBase : Rights} {options : OpenOptions}
    {first second : Nat} {file : MountedFile} {created : Bool}
    (twin : Twin preopen fresh left state.tables)
    (leftFree : (state.withTables left).Free first) (rightFree : state.Free second)
    (same : file.writable = true → rightsBase &&& Rights.mutation ≠ 0 →
      (state.withTables left).isWritablePreopen location.preopenFd =
        state.isWritablePreopen location.preopenFd) :
    OpensAlike preopen fresh
      (grantFile location rightsBase options first file created (state.withTables left))
      (grantFile location rightsBase options second file created state) := by
  have refuses : OpensAlike preopen fresh
      (refuseOpen created (state.withTables left)) (refuseOpen created state) :=
    .of_follows twin (refuseOpen_follows created) (by cases created <;> rfl)
  have sameMutation : rightsBase &&& Rights.mutation ≠ 0 →
      ((file.writable = true ∧
          (state.withTables left).isWritablePreopen location.preopenFd = true) ↔
        (file.writable = true ∧ state.isWritablePreopen location.preopenFd = true)) :=
    fun mutates => and_congr_right fun writable => by rw [same writable mutates]
  -- Without a right to write, a request to truncate is refused in any case.
  have noWrite : rightsBase &&& Rights.mutation = 0 → rightsBase &&& Rights.fdWrite = 0 := by
    intro mutates
    have part : Rights.fdWrite = Rights.mutation &&& Rights.fdWrite := by decide
    rw [part, ← BitVec.and_assoc, mutates]
    exact BitVec.zero_and
  apply opens_ite (and_congr_right fun mutates => not_congr (sameMutation mutates))
  · exact fun _ => refuses
  intro _
  apply opens_ite
  · apply and_congr_right
    intro _
    by_cases mutates : rightsBase &&& Rights.mutation = 0
    · exact ⟨fun _ => .inr (noWrite mutates), fun _ => .inr (noWrite mutates)⟩
    · exact or_congr_left (not_congr (sameMutation mutates))
  · exact fun _ => refuses
  · exact fun _ => .opened first second created ⟨rfl, twin.openedFile leftFree rightFree _⟩

theorem opens_resolve {dirFd : Nat} {path : Path} {required : Rights}
    {next otherNext : Location × Rights → Action FilesystemState OpenError OpenedFile}
    (twin : Twin preopen fresh left state.tables) (known : Known preopen fresh dirFd)
    (continues : ∀ location rights,
      state.resolveDirectoryPath dirFd path required = .ok (location, rights) →
      OpensAlike preopen fresh (next (location, rights) (state.withTables left))
        (otherNext (location, rights) state)) :
    OpensAlike preopen fresh
      ((resolve dirFd path required openResolveError >>= next) (state.withTables left))
      ((resolve dirFd path required openResolveError >>= otherNext) state) := by
  have same := twin.resolveDirectoryPath known path required
  simp only [bind, resolve, consult, same]
  cases resolved : state.resolveDirectoryPath dirFd path required with
  | error err => exact .failed _ (twin.alike rfl)
  | ok result => exact continues result.1 result.2 resolved

theorem opens_allocate {next otherNext : Nat → Action FilesystemState OpenError OpenedFile}
    (twin : Twin preopen fresh left state.tables)
    (continues : ∀ first second, state.allocateDynamicFd = .ok second →
      (state.withTables left).Free first → state.Free second →
      OpensAlike preopen fresh (next first (state.withTables left)) (otherNext second state)) :
    OpensAlike preopen fresh ((consult allocateDynamicFd >>= next) (state.withTables left))
      ((consult allocateDynamicFd >>= otherNext) state) := by
  simp only [bind, consult]
  rcases twin.allocate with
    ⟨leftFull, rightFull⟩ | ⟨first, second, leftFound, rightFound, leftFree, rightFree⟩
  · rw [leftFull, rightFull]
    exact .failed _ (twin.alike rfl)
  · rw [leftFound, rightFound]
    exact continues first second rightFound leftFree rightFree

theorem opens_bind {α : Type} {first second : Action FilesystemState OpenError α}
    {next otherNext : α → Action FilesystemState OpenError OpenedFile}
    (twin : Twin preopen fresh left state.tables) (follows : Follows first second state left)
    (continues : ∀ value after, second state = (.ok value, after) →
      after.tables = state.tables →
      OpensAlike preopen fresh (next value (after.withTables left)) (otherNext value after)) :
    OpensAlike preopen fresh ((first >>= next) (state.withTables left))
      ((second >>= otherNext) state) := by
  obtain ⟨result, same⟩ := follows
  simp only [bind, result]
  cases outcome : second state with
  | mk value after =>
    rw [outcome] at same
    cases value with
    | error err => exact .failed err (twin.alike same)
    | ok value => exact continues value after outcome same

theorem openDirectory_opens {dirFd : Nat} {path : Path} {rightsBase : Rights}
    (twin : Twin preopen fresh left state.tables) (known : Known preopen fresh dirFd) :
    OpensAlike preopen fresh (openDirectory dirFd path rightsBase (state.withTables left))
      (openDirectory dirFd path rightsBase state) := by
  have fails (err : OpenError) : OpensAlike preopen fresh
      (fail err (state.withTables left)) (fail err state) :=
    .failed err (twin.alike rfl)
  apply opens_resolve twin known
  intro location rights resolved
  apply opens_ite Iff.rfl
  · exact fun _ => fails _
  intro within
  apply opens_ite Iff.rfl
  · exact fun _ => fails _
  intro noOther
  dsimp only [id]
  rw [withTables_directoryAt, withTables_directoryInode]
  cases state.directoryAt location with
  | none => exact fails _
  | some directory =>
    cases state.directoryInode location.parent with
    | none => exact fails _
    | some parentInode =>
      apply opens_allocate twin
      intro first second _ leftFree rightFree
      exact .opened first second false ⟨rfl, twin.openedDirectory leftFree rightFree _⟩

theorem FilesystemState.Free.of_tables {before after : FilesystemState} {fd : Nat}
    (free : before.Free fd) (same : after.tables = before.tables) : after.Free fd := by
  obtain ⟨preopen, file, directory⟩ := free
  constructor
  · rw [← preopen]
    exact decide_eq_decide.mpr (by rw [show after.reservedPreopens = before.reservedPreopens from
      congrArg Tables.reservedPreopens same])
  · rw [← file]
    exact congrArg (·.openFiles.lookup fd) same
  · rw [← directory]
    exact congrArg (·.openDirectories.lookup fd) same

theorem isWritablePreopen_of_tables {before after : FilesystemState}
    (same : after.tables = before.tables) (fd : Nat) :
    after.isWritablePreopen fd = before.isWritablePreopen fd :=
  decide_eq_decide.mpr (by rw [show after.writablePreopens = before.writablePreopens from
    congrArg Tables.writablePreopens same])

/-- An entry that is found, or that is created, for an open that wants to change it is one
that the open asks to write for. -/
theorem entryToOpen_asks {location : Location} {options : OpenOptions} {file : MountedFile}
    {created : Bool} {after : FilesystemState} {rightsBase : Rights}
    (found : entryToOpen location options state = (.ok (file, created), after))
    (writable : file.writable = true) (mutates : rightsBase &&& Rights.mutation ≠ 0) :
    asksForWriting state location rightsBase options = true := by
  unfold asksForWriting
  simp only [entryToOpen, bind, ask, id] at found
  cases existing : state.fileAt location with
  | some known =>
    simp only [existing] at found
    split_ifs at found with exclusive
    · cases found
    · cases found
      rw [Bool.not_eq_true] at exclusive
      dsimp only
      rw [writable, exclusive, decide_eq_true mutates]
      rfl
  | none =>
    simp only [existing, createFile, bind, ask, id] at found
    by_cases create : options.create = true
    · exact create
    · rw [if_pos create] at found
      cases found

/-- An open does the same in both states, unless it asks whether the preopen that only one
of them has is writable. -/
theorem openFile_opens {dirFd : Nat} {path : Path} {rightsBase : Rights}
    {options : OpenOptions} (twin : Twin preopen fresh left state.tables)
    (known : Known preopen fresh dirFd)
    (spares : consultsPreopen preopen state dirFd path rightsBase options = false) :
    OpensAlike preopen fresh
      (openFile dirFd path rightsBase options (state.withTables left))
      (openFile dirFd path rightsBase options state) := by
  have fails (err : OpenError) : OpensAlike preopen fresh
      (fail err (state.withTables left)) (fail err state) :=
    .failed err (twin.alike rfl)
  apply opens_resolve twin known
  intro location rights resolved
  apply opens_ite Iff.rfl
  · exact fun _ => fails _
  intro mayCreate
  apply opens_allocate twin
  intro first second allocated leftFree rightFree
  apply opens_ite Iff.rfl
  · exact fun _ => fails _
  intro noDirectory
  apply opens_ite Iff.rfl
  · exact fun _ => fails _
  intro noSymlink
  have same : asksForWriting state location rightsBase options = true →
      (state.withTables left).isWritablePreopen location.preopenFd =
        state.isWritablePreopen location.preopenFd := by
    intro asks
    by_cases other : location.preopenFd = preopen
    · -- The closed preopen is not writable, so it must not be in the other state either.
      have notLeft : (state.withTables left).isWritablePreopen preopen = false :=
        decide_eq_false twin.notWritable
      rw [other, notLeft]
      by_contra writable
      have consults : consultsPreopen preopen state dirFd path rightsBase options = true := by
        have mayWrite : state.isWritablePreopen preopen = true := by
          simpa using Ne.symm writable
        have granted : (!options.create || decide (rights &&& Rights.pathCreateFile ≠ 0)) =
            true := by
          cases create : options.create with
          | false => rfl
          | true => exact decide_eq_true fun none => mayCreate ⟨create, none⟩
        have directoryFree : (state.directoryAt location).isNone = true := by
          simpa using noDirectory
        have symlinkFree : (state.symlinkAt location).isNone = true := by
          simpa using noSymlink
        simp only [consultsPreopen, resolved, allocated]
        rw [decide_eq_true other, mayWrite, granted, directoryFree, symlinkFree, asks]
        rfl
      rw [spares] at consults
      cases consults
    · exact twin.isWritablePreopen other
  apply opens_bind twin
  · apply entryToOpen_follows
    intro missing create
    exact same (by rw [asksForWriting, missing]; exact create)
  · rintro ⟨file, created⟩ after found sameTables
    apply grantFile_opens (sameTables ▸ twin)
    · exact leftFree.of_tables rfl
    · exact rightFree.of_tables sameTables
    · intro writable mutates
      rw [isWritablePreopen_of_tables sameTables]
      exact same (entryToOpen_asks found writable mutates)

end Openings

end MiniWasm.Wasi
